import Mathlib.Algebra.GroupWithZero.Nat
import Mathlib.Data.List.Basic
import PropertyCatalog.Render.Markdown

/-!
# Bars that end a cell

In a row of a table a vertical bar ends a cell unless a backslash stands directly before it. The
number of such bars in a text depends on what stands before the text, but only at its first
character. A character that is neither a bar nor a backslash therefore cuts a text into two parts
that are counted apart (`bareBars_append_cons`).
-/

namespace PropertyCatalog.Markdown

/-- The bars without a backslash directly before them, in a text that follows a character. -/
def bareBarsAfter (previous : Char) : List Char → Nat
  | [] => 0
  | c :: cs => (if c = '|' ∧ previous ≠ '\\' then 1 else 0) + bareBarsAfter c cs

/-- The bars in a text without a backslash directly before them. -/
def bareBars (cs : List Char) : Nat := bareBarsAfter ' ' cs

@[simp] theorem bareBars_nil : bareBars [] = 0 := rfl

theorem bareBarsAfter_append (previous : Char) (cs ds : List Char) :
    bareBarsAfter previous (cs ++ ds)
      = bareBarsAfter previous cs + bareBarsAfter (cs.getLastD previous) ds := by
  induction cs generalizing previous with
  | nil => rw [List.nil_append, bareBarsAfter, Nat.zero_add, List.getLastD_nil]
  | cons c cs ih =>
    rw [List.cons_append, bareBarsAfter, ih, bareBarsAfter, List.getLastD_cons, Nat.add_assoc]

theorem bareBarsAfter_eq_zero {cs : List Char} (h : '|' ∉ cs) (previous : Char) :
    bareBarsAfter previous cs = 0 := by
  induction cs generalizing previous with
  | nil => rfl
  | cons c cs ih =>
    rw [List.mem_cons, not_or] at h
    rw [bareBarsAfter, ih h.2, if_neg fun hc ↦ h.1 hc.1.symm]

/-- What stands before a text matters only if it is a backslash. -/
theorem bareBarsAfter_eq_bareBars {previous : Char} (h : previous ≠ '\\') (cs : List Char) :
    bareBarsAfter previous cs = bareBars cs := by
  cases cs with
  | nil => rfl
  | cons c cs =>
    have hspace : ' ' ≠ '\\' := by decide
    simp only [bareBars, bareBarsAfter, ne_eq, h, hspace, not_false_eq_true, and_true]

theorem bareBars_bar_cons (cs : List Char) : bareBars ('|' :: cs) = 1 + bareBars cs := by
  rw [bareBars, bareBarsAfter, if_pos (by decide), bareBarsAfter_eq_bareBars (by decide)]

theorem bareBars_cons {d : Char} (hbar : d ≠ '|') (hslash : d ≠ '\\') (cs : List Char) :
    bareBars (d :: cs) = bareBars cs := by
  rw [bareBars, bareBarsAfter, if_neg fun h ↦ hbar h.1, Nat.zero_add,
    bareBarsAfter_eq_bareBars hslash]

/-- The two sides of a character that is neither a bar nor a backslash are counted apart. -/
theorem bareBars_append_cons {d : Char} (hbar : d ≠ '|') (hslash : d ≠ '\\') (cs ds : List Char) :
    bareBars (cs ++ d :: ds) = bareBars cs + bareBars ds := by
  rw [bareBars, bareBarsAfter_append, bareBarsAfter, if_neg fun h ↦ hbar h.1, Nat.zero_add,
    bareBarsAfter_eq_bareBars hslash]
  rfl

/-! ## Texts in a cell -/

/-- A text that leaves a cell as it is: it neither ends the cell nor the row. -/
structure IsCellText (cs : List Char) : Prop where
  /-- No bar ends the cell. -/
  bareBars_eq : bareBars cs = 0
  /-- No line feed ends the row. -/
  newline_notMem : '\n' ∉ cs

/-- The character means nothing in a row of a table. -/
def isPlain (c : Char) : Bool := c ≠ '|' && c ≠ '\\' && c ≠ '\n'

theorem isPlain_iff {c : Char} : isPlain c = true ↔ c ≠ '|' ∧ c ≠ '\\' ∧ c ≠ '\n' := by
  rw [isPlain, Bool.and_eq_true, Bool.and_eq_true, decide_eq_true_eq, decide_eq_true_eq,
    decide_eq_true_eq, and_assoc]

theorem bareBars_append_of_isPlain {opening : List Char} (h : opening.all isPlain = true)
    (cs : List Char) : bareBars (opening ++ cs) = bareBars cs := by
  induction opening with
  | nil => rfl
  | cons c opening ih =>
    rw [List.all_cons, Bool.and_eq_true, isPlain_iff] at h
    rw [List.cons_append, bareBars_cons h.1.1 h.1.2.1, ih h.2]

theorem newline_notMem_of_isPlain {cs : List Char} (h : cs.all isPlain = true) : '\n' ∉ cs :=
  fun hmem ↦ (isPlain_iff.mp (List.all_eq_true.mp h '\n' hmem)).2.2 rfl

theorem bar_notMem_of_isPlain {cs : List Char} (h : cs.all isPlain = true) : '|' ∉ cs :=
  fun hmem ↦ (isPlain_iff.mp (List.all_eq_true.mp h '|' hmem)).1 rfl

theorem isCellText_of_isPlain {cs : List Char} (h : cs.all isPlain = true) : IsCellText cs :=
  ⟨bareBarsAfter_eq_zero (bar_notMem_of_isPlain h) ' ', newline_notMem_of_isPlain h⟩

/-- Plain characters around a text do not matter. -/
theorem isCellText_enclosed_iff {opening cs closing : List Char}
    (hopening : opening.all isPlain = true) (hclosing : closing.all isPlain = true) :
    IsCellText (opening ++ cs ++ closing) ↔ IsCellText cs := by
  have hbars : bareBars (opening ++ cs ++ closing) = bareBars cs := by
    rw [List.append_assoc, bareBars_append_of_isPlain hopening, bareBars, bareBarsAfter_append,
      bareBarsAfter_eq_zero (bar_notMem_of_isPlain hclosing), Nat.add_zero]
    rfl
  have hnewline : '\n' ∉ opening ++ cs ++ closing ↔ '\n' ∉ cs := by
    simp only [List.mem_append, newline_notMem_of_isPlain hopening,
      newline_notMem_of_isPlain hclosing, false_or, or_false]
  constructor
  · intro h
    exact ⟨hbars.symm.trans h.bareBars_eq, hnewline.mp h.newline_notMem⟩
  · intro h
    exact ⟨hbars.trans h.bareBars_eq, hnewline.mpr h.newline_notMem⟩

/-! ## Labels -/

theorem bareBarsAfter_flatMap_cellChar (previous : Char) (cs : List Char) :
    bareBarsAfter previous (cs.flatMap cellChar) = 0 := by
  induction cs generalizing previous with
  | nil => rfl
  | cons c cs ih =>
    rw [List.flatMap_cons, cellChar]
    split
    · simp [bareBarsAfter, ih]
    · split
      · simp [bareBarsAfter, ih]
      · rename_i hbar _
        simp [bareBarsAfter, ih, hbar]

theorem isCellText_cell (s : String) : IsCellText (cell s).toList := by
  rw [cell, String.toList_ofList]
  refine ⟨bareBarsAfter_flatMap_cellChar ' ' s.toList, ?_⟩
  rw [List.mem_flatMap]
  rintro ⟨c, -, hmem⟩
  rw [cellChar] at hmem
  split at hmem
  · exact absurd hmem (by decide)
  · split at hmem
    · exact absurd hmem (by decide)
    · rename_i hnewline
      exact hnewline (List.mem_singleton.mp hmem).symm

/-! ## Members -/

theorem bareBars_intercalate (ms : List (List Char)) :
    bareBars (" \\| ".toList.intercalate ms) = (ms.map bareBars).sum := by
  induction ms with
  | nil => rfl
  | cons m ms ih =>
    cases ms with
    | nil => simp
    | cons next ms =>
      have hsplit : m ++ " \\| ".toList ++ " \\| ".toList.intercalate (next :: ms)
          = m ++ ' ' :: ('\\' :: '|' :: ' ' :: " \\| ".toList.intercalate (next :: ms)) := by simp
      have hescaped : ∀ cs, bareBars ('\\' :: '|' :: ' ' :: cs) = bareBars cs := by
        intro cs
        simp [bareBars, bareBarsAfter]
      rw [List.intercalate_cons_cons, hsplit, bareBars_append_cons (by decide) (by decide),
        hescaped, ih]
      rfl

theorem newline_notMem_intercalate_iff {ms : List (List Char)} :
    '\n' ∉ " \\| ".toList.intercalate ms ↔ ∀ m ∈ ms, '\n' ∉ m := by
  induction ms with
  | nil => simp
  | cons m ms ih =>
    cases ms with
    | nil => simp
    | cons next ms =>
      have hseparator : '\n' ∉ " \\| ".toList := by decide
      rw [List.intercalate_cons_cons, List.forall_mem_cons, ← ih]
      simp only [List.mem_append, hseparator, or_false, not_or]

theorem isCellText_intercalate_iff {ms : List (List Char)} :
    IsCellText (" \\| ".toList.intercalate ms) ↔ ∀ m ∈ ms, IsCellText m := by
  have hbars : bareBars (" \\| ".toList.intercalate ms) = 0 ↔ ∀ m ∈ ms, bareBars m = 0 := by
    rw [bareBars_intercalate, List.sum_eq_zero_iff_forall_eq_nat, List.forall_mem_map]
  constructor
  · intro h m hm
    exact ⟨hbars.mp h.bareBars_eq m hm, newline_notMem_intercalate_iff.mp h.newline_notMem m hm⟩
  · intro h
    exact ⟨hbars.mpr fun m hm ↦ (h m hm).bareBars_eq,
      newline_notMem_intercalate_iff.mpr fun m hm ↦ (h m hm).newline_notMem⟩

end PropertyCatalog.Markdown
