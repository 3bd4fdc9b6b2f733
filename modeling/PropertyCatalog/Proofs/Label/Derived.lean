import PropertyCatalog.Label
import PropertyCatalog.Proofs.Text.Words

/-!
# Derived labels

A derived label is made of the words of a path. What is known of the words is therefore known of the
label: no blank stands at its ends, because words hold none and capitalising makes none.
-/

namespace PropertyCatalog.Label

open Text

/-! ## Words -/

theorem mem_finished_iff {current w : List Char} :
    w ∈ finished current ↔ current ≠ [] ∧ w = current.reverse := by
  rw [finished]
  cases current <;> simp

/-- Words are not empty and hold no separator, as long as the unfinished word holds none. -/
theorem not_isSeparator_of_mem_wordsAfter {current cs w : List Char}
    (h : ∀ c ∈ current, isSeparator c = false) (hw : w ∈ wordsAfter current cs) :
    w ≠ [] ∧ ∀ c ∈ w, isSeparator c = false := by
  have hreverse : ∀ {before : List Char}, before ≠ [] → (∀ c ∈ before, isSeparator c = false) →
      before.reverse ≠ [] ∧ ∀ c ∈ before.reverse, isSeparator c = false := fun hne hbefore ↦
    ⟨fun hnil ↦ hne (List.reverse_eq_nil_iff.mp hnil), fun c hc ↦
      hbefore c (List.mem_reverse.mp hc)⟩
  fun_induction wordsAfter current cs with
  | case1 current =>
    obtain ⟨hne, rfl⟩ := mem_finished_iff.mp hw
    exact hreverse hne h
  | case2 current c cs _ ih =>
    rcases List.mem_append.mp hw with hw | hw
    · obtain ⟨hne, rfl⟩ := mem_finished_iff.mp hw
      exact hreverse hne h
    · exact ih nofun hw
  | case3 c cs hc ih =>
    exact ih (List.forall_mem_cons.mpr ⟨Bool.not_eq_true _ ▸ hc, nofun⟩) hw
  | case4 c cs hc a before _ ih =>
    rcases List.mem_cons.mp hw with rfl | hw
    · exact hreverse (List.cons_ne_nil a before) h
    · exact ih (List.forall_mem_cons.mpr ⟨Bool.not_eq_true _ ▸ hc, nofun⟩) hw
  | case5 c cs hc a before _ ih =>
    exact ih (List.forall_mem_cons.mpr ⟨Bool.not_eq_true _ ▸ hc, h⟩) hw

theorem isWord_of_mem_words {cs w : List Char} (hw : w ∈ words cs) : IsWord w := by
  have hunfinished : ∀ c ∈ ([] : List Char), isSeparator c = false := nofun
  obtain ⟨hne, hseparators⟩ := not_isSeparator_of_mem_wordsAfter hunfinished hw
  exact ⟨hne, fun c hc ↦ (Bool.or_eq_false_iff.mp (hseparators c hc)).2⟩

theorem isWord_labelWord {w : List Char} (h : IsWord w) : IsWord (labelWord w) := by
  rw [labelWord]
  split
  · exact h
  · exact h.lowered

/-! ## Labels -/

theorem intercalate_eq_nil_iff {ws : List (List Char)} (h : ∀ w ∈ ws, w ≠ []) :
    List.intercalate [' '] ws = [] ↔ ws = [] := by
  refine ⟨fun hnil ↦ ?_, fun hnil ↦ hnil ▸ rfl⟩
  cases ws with
  | nil => rfl
  | cons w ws =>
    have hw := (List.forall_mem_cons.mp h).1
    cases ws <;> simp_all [List.intercalate_cons_cons]

theorem hasPlainEnds_intercalate {ws : List (List Char)} (h : ∀ w ∈ ws, IsWord w) :
    HasPlainEnds (List.intercalate [' '] ws) := by
  induction ws with
  | nil => exact hasPlainEnds_nil
  | cons w ws ih =>
    obtain ⟨hw, hws⟩ := List.forall_mem_cons.mp h
    cases ws with
    | nil =>
      rw [List.intercalate_singleton]
      exact hw.hasPlainEnds
    | cons v ws =>
      rw [List.intercalate_cons_cons]
      have hne : List.intercalate [' '] (v :: ws) ≠ [] := fun hnil ↦
        List.cons_ne_nil v ws ((intercalate_eq_nil_iff fun u hu ↦ (hws u hu).ne_nil).mp hnil)
      exact hw.hasPlainEnds.append (ih hws) hw.ne_nil hne [' ']

theorem hasPlainEnds_derivedChars (path : List Char) : HasPlainEnds (derivedChars path) := by
  refine (hasPlainEnds_intercalate fun w hw ↦ ?_).capitalized
  obtain ⟨v, hv, rfl⟩ := List.mem_map.mp hw
  exact isWord_labelWord (isWord_of_mem_words hv)

theorem trim_derived (path : String) : trim (derived path) = derived path := by
  rw [trim, derived, String.toList_ofList, (hasPlainEnds_derivedChars path.toList).trimmed_eq]

theorem trim_resolve (declared : Option String) (path : String) :
    trim (resolve declared path) = resolve declared path := by
  rw [resolve]
  cases declared with
  | none => exact trim_derived path
  | some label =>
    rw [Option.map_some]
    by_cases hempty : trim label = ""
    · simp only [hempty, if_true]
      exact trim_derived path
    · simp only [hempty, if_false]
      exact trim_trim label

end PropertyCatalog.Label
