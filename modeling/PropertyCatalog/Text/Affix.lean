/-!
# Openings and closings

Taking a known opening or closing off a text.
-/

namespace PropertyCatalog.Text

/-- What follows the opening, where the text begins with it. -/
def after? (opening : List Char) (cs : List Char) : Option (List Char) :=
  if opening.isPrefixOf cs then some (cs.drop opening.length) else none

/-- What precedes the closing character, where the text ends with it. -/
def before? (closing : Char) (cs : List Char) : Option (List Char) :=
  if cs.getLast? = some closing then some cs.dropLast else none

/-- The two sides of the first character of a text that meets the condition, which belongs to
neither. -/
def cut? (p : Char → Bool) (cs : List Char) : Option (List Char × List Char) :=
  match cs.dropWhile (!p ·) with
  | [] => none
  | _ :: rest => some (cs.takeWhile (!p ·), rest)

theorem after?_eq_some_iff {opening cs rest : List Char} :
    after? opening cs = some rest ↔ cs = opening ++ rest := by
  rw [after?, Option.ite_none_right_eq_some, List.isPrefixOf_iff_prefix, Option.some_inj]
  constructor
  · rintro ⟨⟨r, rfl⟩, rfl⟩
    rw [List.drop_left]
  · rintro rfl
    exact ⟨List.prefix_append opening rest, List.drop_left⟩

theorem before?_eq_some_iff {closing : Char} {cs front : List Char} :
    before? closing cs = some front ↔ cs = front ++ [closing] := by
  rw [before?, Option.ite_none_right_eq_some, List.getLast?_eq_some_iff, Option.some_inj]
  constructor
  · rintro ⟨⟨ys, rfl⟩, rfl⟩
    rw [List.dropLast_concat]
  · rintro rfl
    exact ⟨⟨front, rfl⟩, List.dropLast_concat⟩

theorem cut?_eq_none_iff {p : Char → Bool} {cs : List Char} :
    cut? p cs = none ↔ ∀ c ∈ cs, p c = false := by
  have hnone : cut? p cs = none ↔ cs.dropWhile (!p ·) = [] := by
    rw [cut?]
    cases cs.dropWhile (!p ·) <;> simp
  rw [hnone]
  clear hnone
  induction cs with
  | nil => simp
  | cons c cs ih =>
    rw [List.forall_mem_cons, List.dropWhile_cons]
    cases h : p c with
    | true => simp
    | false =>
      rw [Bool.not_false, if_pos rfl]
      exact ⟨fun hnil ↦ ⟨rfl, ih.mp hnil⟩, fun hall ↦ ih.mpr hall.2⟩

theorem cut?_eq_some_iff {p : Char → Bool} {cs as bs : List Char} :
    cut? p cs = some (as, bs) ↔
      ∃ d, cs = as ++ d :: bs ∧ p d = true ∧ ∀ a ∈ as, p a = false := by
  constructor
  · intro h
    rw [cut?] at h
    split at h
    next => cases h
    next d rest hrest =>
      cases h
      refine ⟨d, ?_, ?_, fun a ha ↦ ?_⟩
      · rw [← hrest, List.takeWhile_append_dropWhile]
      · have hhead := List.head?_dropWhile_not (!p ·) cs
        rw [hrest] at hhead
        exact Bool.not_eq_false' _ ▸ hhead
      · have hall := List.all_eq_true.mp (List.all_takeWhile (p := (!p ·))) a ha
        exact Bool.not_eq_true' _ ▸ hall
  · rintro ⟨d, rfl, hd, has⟩
    have hpass : ∀ a ∈ as, (!p a) = true := fun a ha ↦ by rw [has a ha]; rfl
    have hstop : ¬(!p d) = true := by rw [hd]; exact Bool.false_ne_true
    have hdrop : (as ++ d :: bs).dropWhile (!p ·) = d :: bs := by
      rw [List.dropWhile_append_of_pos hpass]
      exact List.dropWhile_cons_of_neg hstop
    have htake : (as ++ d :: bs).takeWhile (!p ·) = as := by
      rw [List.takeWhile_append_of_pos hpass, List.takeWhile_cons_of_neg (p := (!p ·)) hstop,
        List.append_nil]
    rw [cut?, hdrop, htake]

/-- A text is cut at the first place where the character stands. -/
theorem cut?_char_eq_some_iff {c : Char} {cs as bs : List Char} :
    cut? (· = c) cs = some (as, bs) ↔ cs = as ++ c :: bs ∧ c ∉ as := by
  have hfree : (∀ a ∈ as, decide (a = c) = false) ↔ c ∉ as := by
    constructor
    · intro has hc
      exact of_decide_eq_false (has c hc) rfl
    · intro hc a ha
      exact decide_eq_false fun heq ↦ hc (heq ▸ ha)
  rw [cut?_eq_some_iff, hfree]
  constructor
  · rintro ⟨d, hcs, hd, has⟩
    rw [of_decide_eq_true hd] at hcs
    exact ⟨hcs, has⟩
  · rintro ⟨hcs, has⟩
    exact ⟨c, hcs, decide_eq_true rfl, has⟩

theorem exists_cut?_char_iff {c : Char} {cs : List Char} :
    (∃ sides, cut? (· = c) cs = some sides) ↔ c ∈ cs := by
  rw [← Option.ne_none_iff_exists', ne_eq, cut?_eq_none_iff]
  simp

theorem notMem_of_mem_splitOn {s : Char} {text piece : List Char} (h : piece ∈ text.splitOn s) :
    s ∉ piece := by
  induction text generalizing piece with
  | nil =>
    rw [List.splitOn_nil, List.mem_singleton] at h
    rw [h]
    exact List.not_mem_nil
  | cons c cs ih =>
    rw [List.splitOn_cons_eq_if_modifyHead] at h
    by_cases hc : c = s
    · rw [if_pos (beq_iff_eq.mpr hc), List.mem_cons] at h
      rcases h with rfl | hmem
      · exact List.not_mem_nil
      · exact ih hmem
    · -- the first piece of the rest begins with the character
      obtain ⟨first, pieces, hpieces⟩ := List.exists_cons_of_ne_nil (List.splitOn_ne_nil s cs)
      rw [if_neg (mt beq_iff_eq.mp hc), hpieces, List.modifyHead_cons, List.mem_cons] at h
      rcases h with rfl | hmem
      · rw [List.mem_cons, not_or]
        exact ⟨Ne.symm hc, ih (hpieces ▸ List.mem_cons_self)⟩
      · exact ih (hpieces ▸ List.mem_cons_of_mem first hmem)

end PropertyCatalog.Text
