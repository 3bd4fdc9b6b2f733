import PropertyCatalog.Proofs.PropertiesText.Lines
import PropertyCatalog.Proofs.Scan.WellFormed
import PropertyCatalog.Render.Example

/-!
# Reading an example file back

An example file is written for people and read as properties text. What is written stays on its
line: paths hold no blanks, and defaults have one line only. So reading yields each path with what
stands for its value, provided that the path can be a key of properties text at all.
-/

namespace PropertyCatalog

open Text

/-! ## The text of an example file -/

/-- What stands on the line of a property. -/
def Property.exampleText (p : Property) : List Char := p.path.toList ++ '=' :: p.placeholder.toList

theorem Property.toList_exampleLine (p : Property) :
    p.exampleLine.toList = p.exampleText ++ ['\n'] := by
  simp [exampleLine, exampleText]

theorem PropertyGroup.toList_exampleBlock (g : PropertyGroup) :
    g.exampleBlock.toList
      = (('#' :: ' ' :: g.root.toList) :: g.properties.map (·.exampleText)).flatMap
          (· ++ ['\n']) := by
  simp [exampleBlock, String.toList_join, List.flatMap_map, Property.toList_exampleLine]

theorem Catalog.toList_renderExample (c : Catalog) :
    c.renderExample.toList = ['\n'].intercalate (c.groups.map (·.exampleBlock.toList)) := by
  rw [renderExample, String.toList_intercalate, List.map_map]
  rfl

/-! ## Lines stay lines -/

theorem newline_notMem_of_isDotted {path : List Char} (h : PropertyPath.isDotted path = true) :
    '\n' ∉ path := by
  intro hmem
  have hblank := PropertyPath.not_isBlank_of_isDotted h '\n' hmem
  exact absurd hblank (by decide)

theorem newline_notMem_of_not_isMultiline {text : String} (h : isMultiline text = false) :
    '\n' ∉ text.toList := by
  intro hmem
  have hnewline := List.any_eq_false.mp h '\n' hmem
  exact hnewline rfl

theorem Property.IsWellFormed.newline_notMem_placeholder {p : Property} (h : p.IsWellFormed) :
    '\n' ∉ p.placeholder.toList := by
  rw [Property.placeholder]
  cases hdefault : p.defaultText with
  | some text =>
    exact newline_notMem_of_not_isMultiline (h.not_isMultiline_default text hdefault)
  | none =>
    rw [Option.getD_none]
    cases p.semanticType <;> decide

theorem Property.IsWellFormed.newline_notMem_exampleText {p : Property} (h : p.IsWellFormed) :
    '\n' ∉ p.exampleText := by
  rw [exampleText, List.mem_append, List.mem_cons]
  rintro (hpath | heq | hplaceholder)
  · exact newline_notMem_of_isDotted h.isDotted_path hpath
  · exact absurd heq (by decide)
  · exact h.newline_notMem_placeholder hplaceholder

/-! ## Entries -/

theorem PropertyGroup.IsWellFormed.entries_exampleBlock {g : PropertyGroup} (h : g.IsWellFormed) :
    PropertiesText.entries g.exampleBlock.toList
      = g.properties.filterMap fun p ↦ PropertiesText.entry? p.exampleText := by
  rw [toList_exampleBlock, PropertiesText.entries_flatMap_line, List.filterMap_cons,
    PropertiesText.entry?_hash, List.filterMap_map]
  · rfl
  · intro line hline
    rcases List.mem_cons.mp hline with rfl | hline
    · have hroot := newline_notMem_of_isDotted h.isDotted_root
      simpa using hroot
    · obtain ⟨p, hp, rfl⟩ := List.mem_map.mp hline
      exact (h.properties p hp).newline_notMem_exampleText

theorem Catalog.IsWellFormed.entries_renderExample {c : Catalog} (h : c.IsWellFormed) :
    PropertiesText.entries c.renderExample.toList
      = c.properties.filterMap fun p ↦ PropertiesText.entry? p.exampleText := by
  rw [toList_renderExample, PropertiesText.entries_intercalate, List.flatMap_map, properties,
    List.filterMap_flatMap]
  exact List.flatMap_congr fun g hg ↦ (h.groups g hg).entries_exampleBlock

theorem Property.IsWellFormed.entry?_exampleText {p : Property} (h : p.IsWellFormed)
    (hplain : PropertiesText.IsPlainKey p.path) :
    PropertiesText.entry? p.exampleText = some (p.path, trim p.placeholder) :=
  PropertiesText.entry?_append_cons hplain (PropertyPath.ne_nil_of_isDotted h.isDotted_path)
    (trimmed_eq_self (PropertyPath.not_isBlank_of_isDotted h.isDotted_path)) p.placeholder.toList

/-! ## Values -/

namespace Catalog

variable {c : Catalog}

/-- Each path with what stands for its value, as properties text gives it. -/
def exampleValues (c : Catalog) : BoundValues :=
  .ofList (c.properties.map fun p ↦ (p.path, .text (trim p.placeholder)))

theorem IsIndexed.get?_exampleValues_iff (h : c.IsIndexed) {path : String} {value : BoundValue} :
    c.exampleValues.get? path = some value ↔
      ∃ p ∈ c.properties, p.path = path ∧ value = .text (trim p.placeholder) := by
  have hnodup : ((c.properties.map fun p ↦ (p.path, BoundValue.text (trim p.placeholder))).map
      (·.1)).Nodup := by
    rw [List.map_map]
    exact h.nodup_paths
  rw [exampleValues, TextMap.get?_ofList_eq_some_iff hnodup, List.mem_map]
  simp only [Prod.mk.injEq, eq_comm]

theorem IsWellFormed.read_renderExample (h : c.IsWellFormed)
    (hplain : ∀ p ∈ c.properties, PropertiesText.IsPlainKey p.path) :
    PropertiesText.read c.renderExample = c.exampleValues := by
  have hentries : PropertiesText.entries c.renderExample.toList
      = c.properties.map fun p ↦ (p.path, trim p.placeholder) := by
    rw [h.entries_renderExample, ← List.filterMap_eq_map]
    exact List.filterMap_congr fun p hp ↦
      (h.of_mem_properties hp).entry?_exampleText (hplain p hp)
  rw [PropertiesText.read, hentries, List.map_map, exampleValues]
  rfl

end Catalog

namespace ScanPolicy

/-- **An example file reads back.** Reading it yields each path with what stands for its value, up
to the blanks around it, and nothing else, exactly when every path can be a key. -/
theorem read_renderExample_eq_iff (policy : ScanPolicy) {declared : List Declaration.Group}
    {c : Catalog} (h : policy.buildCatalog declared = .ok c) :
    (∀ path value, c.exampleValues.get? path = some value ↔
        ∃ p ∈ c.properties, p.path = path ∧ value = .text (trim p.placeholder)) ∧
      (PropertiesText.read c.renderExample = c.exampleValues ↔
        ∀ p ∈ c.properties, PropertiesText.IsPlainKey p.path) := by
  have hformed := isWellFormed_of_buildCatalog h
  refine ⟨fun path value ↦ hformed.get?_exampleValues_iff, fun hread p hp ↦ ?_,
    hformed.read_renderExample⟩
  -- a key that was read is plain, whatever the text
  have hget : c.exampleValues.get? p.path = some (.text (trim p.placeholder)) :=
    hformed.get?_exampleValues_iff.mpr ⟨p, hp, rfl, rfl⟩
  rw [← hread] at hget
  exact PropertiesText.isPlainKey_of_get?_read hget

/-- A path that can be a key, with a default between blanks, and one that cannot. -/
theorem read_renderExample_eq_iff_colon :
    let d : Declaration.Group :=
      { root := "app",
        fields := [{ name := "a", declaredType := "String", defaultText := some " x " },
          { name := "b:c", declaredType := "Option<bool>" }] }
    let g : PropertyGroup := ⟨"app", none,
      [⟨"app.a", .string, none, false, "app", some " x ", [], none⟩,
        ⟨"app.b:c", .boolean, none, false, "app", none, [], none⟩]⟩
    let c : Catalog := ⟨[g.resolveLabels], .ofList [("app.a", ⟨0, 0⟩), ("app.b:c", ⟨0, 1⟩)]⟩
    buildCatalog {} [d] = .ok c ∧
      (∀ path value, c.exampleValues.get? path = some value ↔
        ∃ p ∈ c.properties, p.path = path ∧ value = .text (trim p.placeholder)) ∧
      (PropertiesText.read c.renderExample = c.exampleValues ↔
        ∀ p ∈ c.properties, PropertiesText.IsPlainKey p.path) := by
  intro d g c
  have hscan : scanGroup {} 0 d = .ok g := by decide +kernel
  have hbuild : buildCatalog {} [d] = .ok c := buildCatalog_singleton hscan (by decide)
  exact ⟨hbuild, read_renderExample_eq_iff {} hbuild⟩

end ScanPolicy

end PropertyCatalog
