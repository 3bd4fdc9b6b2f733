import PropertyCatalog.Proofs.Example.RoundTrip
import PropertyCatalog.Proofs.Markdown.Bars

/-!
# Rows of a table

The table of a group has one row for each property. A row is put together of five cells, each
between bars, so it reads as a row of the table exactly when every cell holds a text that leaves it
as it is. Labels are written so that they always do. The other texts are written as they were
declared. What a scan checks keeps line feeds out of paths and defaults, but it lets bars through,
and members and references may hold both.
-/

namespace PropertyCatalog

open Markdown

/-! ## Cells between bars -/

namespace Markdown

/-- Cells with bars around them. -/
def barred (cells : List (List Char)) : List Char :=
  '|' :: cells.flatMap fun cell ↦ ' ' :: cell ++ [' ', '|']

theorem bareBars_barred (cells : List (List Char)) :
    bareBars (barred cells) = 1 + cells.length + (cells.map bareBars).sum := by
  rw [barred, bareBars_bar_cons, Nat.add_assoc]
  congr 1
  induction cells with
  | nil => rfl
  | cons cell cells ih =>
    have hcell : ∀ rest,
        ' ' :: cell ++ [' ', '|'] ++ rest = ' ' :: (cell ++ ' ' :: '|' :: rest) := by simp
    rw [List.flatMap_cons, hcell, bareBars_cons (by decide) (by decide),
      bareBars_append_cons (by decide) (by decide), bareBars_bar_cons, ih, List.map_cons,
      List.sum_cons, List.length_cons]
    omega

theorem newline_notMem_barred_iff {cells : List (List Char)} :
    '\n' ∉ barred cells ↔ ∀ cell ∈ cells, '\n' ∉ cell := by
  simp [barred]

theorem barred_eq_intercalate {cells : List (List Char)} (h : cells ≠ []) :
    barred cells = "| ".toList ++ " | ".toList.intercalate cells ++ " |".toList := by
  induction cells with
  | nil => exact absurd rfl h
  | cons cell cells ih =>
    cases cells with
    | nil => simp [barred]
    | cons next cells =>
      have hsplit : barred (cell :: next :: cells)
          = "| ".toList ++ cell ++ ' ' :: barred (next :: cells) := by simp [barred]
      rw [hsplit, ih (List.cons_ne_nil next cells), List.intercalate_cons_cons]
      simp

/-- The text is one line of a table with five columns: it begins with a code, and six bars in it end
a cell. -/
structure IsTableRow (row : List Char) : Prop where
  /-- A line feed ends the row and stands nowhere else. -/
  line : ∃ line, row = line ++ ['\n'] ∧ '\n' ∉ line
  /-- It begins with a bar and a code. -/
  opens : "| `".toList <+: row
  /-- It ends with a bar. -/
  closes : " |\n".toList <:+ row
  /-- Six bars end a cell. -/
  bareBars_eq : bareBars row = 6

end Markdown

namespace Property

variable {p : Property}

/-! ## Rows -/

theorem map_toList_cells_ne_nil (p : Property) : p.cells.map (·.toList) ≠ [] :=
  List.cons_ne_nil _ _

theorem toList_markdownRow (p : Property) :
    p.markdownRow.toList = barred (p.cells.map (·.toList)) ++ ['\n'] := by
  rw [barred_eq_intercalate p.map_toList_cells_ne_nil, markdownRow]
  simp [String.toList_intercalate]

theorem opens_markdownRow (p : Property) : "| `".toList <+: p.markdownRow.toList := by
  rw [toList_markdownRow]
  simp [barred, cells, code]

theorem closes_markdownRow (p : Property) : " |\n".toList <:+ p.markdownRow.toList := by
  rw [toList_markdownRow, barred_eq_intercalate p.map_toList_cells_ne_nil, List.append_assoc]
  exact List.suffix_append _ _

theorem bareBars_markdownRow (p : Property) :
    bareBars p.markdownRow.toList = 6 + (p.cells.map fun cell ↦ bareBars cell.toList).sum := by
  rw [toList_markdownRow, bareBars_append_cons (by decide) (by decide), bareBars_nil,
    bareBars_barred, List.map_map]
  rfl

theorem isTableRow_markdownRow_iff_cells :
    IsTableRow p.markdownRow.toList ↔ ∀ cell ∈ p.cells, IsCellText cell.toList := by
  have hbars : bareBars p.markdownRow.toList = 6 ↔ ∀ cell ∈ p.cells, bareBars cell.toList = 0 := by
    rw [bareBars_markdownRow, Nat.add_eq_left, List.sum_eq_zero_iff_forall_eq_nat,
      List.forall_mem_map]
  have hline : (∃ line, p.markdownRow.toList = line ++ ['\n'] ∧ '\n' ∉ line)
      ↔ ∀ cell ∈ p.cells, '\n' ∉ cell.toList := by
    have hbarred : '\n' ∉ barred (p.cells.map (·.toList)) ↔
        ∀ cell ∈ p.cells, '\n' ∉ cell.toList := by
      rw [newline_notMem_barred_iff, List.forall_mem_map]
    rw [toList_markdownRow, ← hbarred]
    constructor
    · rintro ⟨line, heq, hnotMem⟩
      rwa [List.append_cancel_right heq]
    · exact fun hnotMem ↦ ⟨_, rfl, hnotMem⟩
  constructor
  · exact fun h cell hcell ↦ ⟨hbars.mp h.bareBars_eq cell hcell, hline.mp h.line cell hcell⟩
  · intro h
    exact ⟨hline.mpr fun cell hcell ↦ (h cell hcell).newline_notMem, p.opens_markdownRow,
      p.closes_markdownRow, hbars.mpr fun cell hcell ↦ (h cell hcell).bareBars_eq⟩

/-! ## Cells -/

theorem isCellText_code_iff {s : String} : IsCellText (code s).toList ↔ IsCellText s.toList := by
  rw [code, String.toList_append, String.toList_append]
  exact isCellText_enclosed_iff (by decide) (by decide)

/-- What is declared of a type fits its cell. Names of types always fit. -/
theorem isCellText_typeCell_iff :
    IsCellText p.typeCell.toList ↔
      (p.semanticType = .enum → ∀ m ∈ p.members, IsCellText m.toList) ∧
        (p.semanticType = .group → ∀ root, p.reference = some root → IsCellText root.toList) := by
  rw [typeCell]
  cases htype : p.semanticType
  case enum =>
    have hmembers : IsCellText ("enum (" ++ " \\| ".intercalate p.members ++ ")").toList ↔
        ∀ m ∈ p.members, IsCellText m.toList := by
      rw [String.toList_append, String.toList_append,
        isCellText_enclosed_iff (by decide) (by decide), String.toList_intercalate,
        isCellText_intercalate_iff, List.forall_mem_map]
    simpa using hmembers
  case group =>
    cases hreference : p.reference with
    | none =>
      have hplain : IsCellText "group".toList := isCellText_of_isPlain (by decide)
      simpa using hplain
    | some root =>
      have hroot : IsCellText ("group (" ++ code root ++ ")").toList ↔ IsCellText root.toList := by
        rw [String.toList_append, String.toList_append,
          isCellText_enclosed_iff (by decide) (by decide), isCellText_code_iff]
      simpa using hroot
  all_goals
    simp only [reduceCtorEq, false_imp_iff, and_self, iff_true]
    exact isCellText_of_isPlain (by decide)

theorem isCellText_defaultCell_iff :
    IsCellText (p.defaultText.elim "" code).toList ↔
      ∀ text, p.defaultText = some text → IsCellText text.toList := by
  cases p.defaultText with
  | none =>
    have hempty : IsCellText "".toList := isCellText_of_isPlain (by decide)
    simpa using hempty
  | some text => simpa using isCellText_code_iff

/-- What is declared of the property fits a row as it stands, leaving aside the label, which is
written so that it fits. -/
structure FitsRow (p : Property) : Prop where
  /-- No bar in the path ends a cell. -/
  path : bareBars p.path.toList = 0
  /-- Every member of an enumerated type leaves its cell as it is. -/
  members : p.semanticType = .enum → ∀ m ∈ p.members, IsCellText m.toList
  /-- So does the root of the group that is referred to. -/
  reference : p.semanticType = .group → ∀ root, p.reference = some root → IsCellText root.toList
  /-- No bar in the default ends a cell. -/
  defaultText : ∀ text, p.defaultText = some text → bareBars text.toList = 0

/-- The row of a scanned property is a row of the table exactly when what was declared fits. -/
theorem IsWellFormed.isTableRow_markdownRow_iff (h : p.IsWellFormed) :
    IsTableRow p.markdownRow.toList ↔ p.FitsRow := by
  have hpath : IsCellText (code p.path).toList ↔ bareBars p.path.toList = 0 := by
    rw [isCellText_code_iff]
    exact ⟨fun hcell ↦ hcell.bareBars_eq,
      fun hbars ↦ ⟨hbars, newline_notMem_of_isDotted h.isDotted_path⟩⟩
  have hdefault : IsCellText (p.defaultText.elim "" code).toList ↔
      ∀ text, p.defaultText = some text → bareBars text.toList = 0 := by
    rw [isCellText_defaultCell_iff]
    refine forall₂_congr fun text htext ↦ ⟨fun hcell ↦ hcell.bareBars_eq, fun hbars ↦ ⟨hbars, ?_⟩⟩
    exact newline_notMem_of_not_isMultiline (h.not_isMultiline_default text htext)
  have hrequired : IsCellText (if p.required then "yes" else "no").toList := by
    cases p.required <;> exact isCellText_of_isPlain (by decide)
  rw [isTableRow_markdownRow_iff_cells, cells]
  simp only [List.forall_mem_cons, List.not_mem_nil, false_imp_iff, implies_true, hpath,
    isCellText_cell, isCellText_typeCell_iff, hrequired, hdefault, true_and, and_true]
  constructor
  · rintro ⟨hpath, ⟨hmembers, hreference⟩, hdefault⟩
    exact ⟨hpath, hmembers, hreference, hdefault⟩
  · exact fun hfits ↦ ⟨hfits.path, ⟨hfits.members, hfits.reference⟩, hfits.defaultText⟩

end Property

/-! ## Documents -/

namespace ScanPolicy

/-- **The tables of a catalog.** A document has a section for each group, and under the head of its
table a row for each property, in order. A row begins with a code, ends with a bar and is never
short of a cell. It is a line with five cells exactly when what was declared of the property fits,
whatever its label is. -/
theorem rows_of_renderMarkdown (policy : ScanPolicy) {declared : List Declaration.Group}
    {c : Catalog} (h : policy.buildCatalog declared = .ok c) :
    c.renderMarkdown = "# Configuration Properties\n" ++ String.join (c.groups.map fun g ↦
        "\n## " ++ code g.root ++ "\n\n" ++ g.markdownDescription ++ tableHead ++
          String.join (g.properties.map (·.markdownRow))) ∧
      ∀ g ∈ c.groups, ∀ p ∈ g.properties,
        "| `".toList <+: p.markdownRow.toList ∧ " |\n".toList <:+ p.markdownRow.toList ∧
          6 ≤ bareBars p.markdownRow.toList ∧ (IsTableRow p.markdownRow.toList ↔ p.FitsRow) := by
  refine ⟨rfl, fun g hg p hp ↦ ⟨p.opens_markdownRow, p.closes_markdownRow, ?_, ?_⟩⟩
  · rw [p.bareBars_markdownRow]
    exact Nat.le_add_right 6 _
  · have hformed := ((isWellFormed_of_buildCatalog h).groups g hg).properties p hp
    exact hformed.isTableRow_markdownRow_iff

/-- A bar in a label and between members, and bars that are declared with a backslash. -/
theorem rows_of_renderMarkdown_escaped :
    let d : Declaration.Group :=
      { root := "app",
        fields := [{ name := "mode", declaredType := "enum", label := some "On | off",
                     members := ["on", "of\\|f"] },
          { name := "db", declaredType := "group:app.db" },
          { name := "sep", declaredType := "String", defaultText := some "\\|" }] }
    let g : PropertyGroup := ⟨"app", none,
      [⟨"app.mode", .enum, some "On | off", true, "app", none, ["on", "of\\|f"], none⟩,
        ⟨"app.db", .group, none, true, "app", none, [], some "app.db"⟩,
        ⟨"app.sep", .string, none, false, "app", some "\\|", [], none⟩]⟩
    let c : Catalog := ⟨[g.resolveLabels],
      .ofList [("app.mode", ⟨0, 0⟩), ("app.db", ⟨0, 1⟩), ("app.sep", ⟨0, 2⟩)]⟩
    buildCatalog {} [d] = .ok c ∧
      c.renderMarkdown = "# Configuration Properties\n" ++ String.join (c.groups.map fun g ↦
          "\n## " ++ code g.root ++ "\n\n" ++ g.markdownDescription ++ tableHead ++
            String.join (g.properties.map (·.markdownRow))) ∧
        ∀ g ∈ c.groups, ∀ p ∈ g.properties,
          "| `".toList <+: p.markdownRow.toList ∧ " |\n".toList <:+ p.markdownRow.toList ∧
            6 ≤ bareBars p.markdownRow.toList ∧ (IsTableRow p.markdownRow.toList ↔ p.FitsRow) := by
  intro d g c
  have hscan : scanGroup {} 0 d = .ok g := by decide +kernel
  have hbuild : buildCatalog {} [d] = .ok c := buildCatalog_singleton hscan (by decide)
  exact ⟨hbuild, rows_of_renderMarkdown {} hbuild⟩

/-- Not every row is one of its table: a bar in a path, a member, the root of a referred group or a
default adds a cell. -/
theorem bareBars_markdownRow_of_bar :
    let d : Declaration.Group :=
      { root := "a",
        fields := [{ name := "b|c", declaredType := "String" },
          { name := "d", declaredType := "enum", members := ["x|y"] },
          { name := "e", declaredType := "group:x|y" },
          { name := "f", declaredType := "String", defaultText := some "x|y" }] }
    let g : PropertyGroup := ⟨"a", none,
      [⟨"a.b|c", .string, none, true, "a", none, [], none⟩,
        ⟨"a.d", .enum, none, true, "a", none, ["x|y"], none⟩,
        ⟨"a.e", .group, none, true, "a", none, [], some "x|y"⟩,
        ⟨"a.f", .string, none, false, "a", some "x|y", [], none⟩]⟩
    let c : Catalog := ⟨[g.resolveLabels],
      .ofList [("a.b|c", ⟨0, 0⟩), ("a.d", ⟨0, 1⟩), ("a.e", ⟨0, 2⟩), ("a.f", ⟨0, 3⟩)]⟩
    buildCatalog {} [d] = .ok c ∧
      ∀ g ∈ c.groups, ∀ p ∈ g.properties,
        bareBars p.markdownRow.toList = 7 ∧ ¬IsTableRow p.markdownRow.toList := by
  intro d g c
  have hscan : scanGroup {} 0 d = .ok g := by decide +kernel
  have hbuild : buildCatalog {} [d] = .ok c := buildCatalog_singleton hscan (by decide)
  have hbars : ∀ g ∈ c.groups, ∀ p ∈ g.properties, bareBars p.markdownRow.toList = 7 := by
    decide +kernel
  refine ⟨hbuild, fun g hg p hp ↦ ⟨hbars g hg p hp, fun hrow ↦ ?_⟩⟩
  exact absurd ((hbars g hg p hp).symm.trans hrow.bareBars_eq) (by decide)

end ScanPolicy

end PropertyCatalog
