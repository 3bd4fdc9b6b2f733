import Mathlib.Algebra.Group.Nat.Defs
import PropertyCatalog.Proofs.Duration.Words

/-!
# Written durations

A written duration is a run of digits and a unit, with blanks between them and around them
(`IsWritten`, `IsUnit`). The digits are all that stand at the front, for neither a blank nor a unit
begins with one; so a text can be taken apart in one way only, and reading takes it apart in that
way (`takeWhile_isDigit`, `exists_isWritten`). It stands for the number of the digits times the
milliseconds of the unit, provided that both the number and the product fit into 64 bits, and for
nothing otherwise. No step of the reading in words leaves 64 bits, so the bounds are met exactly and
not just up to a number that has wrapped around (`readMillis?_exact`).
-/

namespace PropertyCatalog.Duration

open Text

/-! ## Notation -/

/-- The unit is so many milliseconds; without a unit, the number itself is milliseconds. -/
inductive IsUnit : List Char → Nat → Prop
  | bare : IsUnit [] 1
  | millis : IsUnit ['m', 's'] 1
  | seconds : IsUnit ['s'] 1000
  | minutes : IsUnit ['m'] 60000
  | hours : IsUnit ['h'] 3600000
  | days : IsUnit ['d'] 86400000

/-- The text is digits, perhaps blanks, and something that is meant as a unit. -/
structure IsWritten (cs digits blanks unit : List Char) : Prop where
  /-- The parts stand behind each other. -/
  eq_append : cs = digits ++ (blanks ++ unit)
  /-- There is a digit. -/
  digits_ne_nil : digits ≠ []
  /-- The first part holds ASCII digits only. -/
  isDigit : ∀ c ∈ digits, c.isDigit = true
  /-- The second part holds blanks only. -/
  isBlank : ∀ c ∈ blanks, isBlank c = true

theorem unitMillis?_eq_some_iff {unit : List Char} {factor : Nat} :
    unitMillis? unit = some factor ↔ IsUnit unit factor := by
  constructor
  · intro h
    unfold unitMillis? at h
    split at h <;> cases h
    · exact .bare
    · exact .millis
    · exact .seconds
    · exact .minutes
    · exact .hours
    · exact .days
  · rintro ⟨⟩ <;> rfl

variable {cs digits blanks unit : List Char} {factor : Nat}

theorem IsUnit.isDigit_eq_false (h : IsUnit unit factor) : ∀ c ∈ unit, c.isDigit = false := by
  have hall : unit.all (!·.isDigit) = true := by cases h <;> rfl
  intro c hc
  have hdigit := List.all_eq_true.mp hall c hc
  rwa [Bool.not_eq_true'] at hdigit

theorem IsUnit.trimmed_eq (h : IsUnit unit factor) : trimmed unit = unit := by
  cases h <;> decide

/-! ## Taking a text apart -/

theorem IsWritten.isDigit_eq_false (h : IsWritten cs digits blanks unit)
    (hunit : IsUnit unit factor) : ∀ c ∈ blanks ++ unit, c.isDigit = false := by
  intro c hc
  rcases List.mem_append.mp hc with hblank | hletter
  · refine Bool.eq_false_iff.mpr fun hdigit ↦ ?_
    exact Bool.false_ne_true ((not_isBlank_of_isDigit hdigit).symm.trans (h.isBlank c hblank))
  · exact hunit.isDigit_eq_false c hletter

theorem IsWritten.takeWhile_isDigit (h : IsWritten cs digits blanks unit)
    (hunit : IsUnit unit factor) : cs.takeWhile Char.isDigit = digits := by
  have hrest : (blanks ++ unit).takeWhile Char.isDigit = [] := by
    have hstop := h.isDigit_eq_false hunit
    cases hcs : blanks ++ unit with
    | nil => rfl
    | cons c cs =>
      rw [hcs] at hstop
      exact List.takeWhile_cons_of_neg (Bool.not_eq_true _ ▸ hstop c List.mem_cons_self)
  rw [h.eq_append, List.takeWhile_append_of_pos h.isDigit, hrest, List.append_nil]

theorem IsWritten.dropWhile_isDigit (h : IsWritten cs digits blanks unit)
    (hunit : IsUnit unit factor) : cs.dropWhile Char.isDigit = blanks ++ unit := by
  have happend := List.takeWhile_append_dropWhile (p := Char.isDigit) (l := cs)
  rw [h.takeWhile_isDigit hunit, h.eq_append] at happend
  rw [h.eq_append]
  exact List.append_cancel_left happend

/-- The digits at the front of a text without surrounding blanks, the blanks behind them, and what
remains. -/
theorem exists_isWritten (htrim : trimmed cs = cs) (hne : cs.takeWhile Char.isDigit ≠ []) :
    ∃ blanks, IsWritten cs (cs.takeWhile Char.isDigit) blanks
      (trimmed (cs.dropWhile Char.isDigit)) := by
  have hsplit := List.takeWhile_append_dropWhile (p := Char.isDigit) (l := cs)
  -- no blank stands at the end of the text, so trimming takes blanks from the front only
  have hfinal : dropFinalBlanks (cs.dropWhile Char.isDigit) = cs.dropWhile Char.isDigit := by
    have htext : dropFinalBlanks (cs.takeWhile Char.isDigit ++ cs.dropWhile Char.isDigit)
        = cs.takeWhile Char.isDigit ++ cs.dropWhile Char.isDigit := by
      rw [hsplit, ← htrim, dropFinalBlanks_trimmed]
    exact dropFinalBlanks_of_append htext
  have hunit : trimmed (cs.dropWhile Char.isDigit) = dropBlanks (cs.dropWhile Char.isDigit) := by
    rw [trimmed, ← dropBlanks_dropFinalBlanks, hfinal]
  refine ⟨(cs.dropWhile Char.isDigit).takeWhile isBlank, ?_, hne,
    List.all_eq_true.mp List.all_takeWhile, List.all_eq_true.mp List.all_takeWhile⟩
  rw [hunit, dropBlanks, List.takeWhile_append_dropWhile, hsplit]

/-! ## What a text stands for -/

/-- A text without surrounding blanks stands for the number of its digits times its unit. -/
theorem millisOf?_eq_some_iff_isWritten (htrim : trimmed cs = cs) {m : Nat} :
    millisOf? cs = some m ↔
      ∃ digits blanks unit factor, IsWritten cs digits blanks unit ∧ IsUnit unit factor ∧
        Nat.ofDigitChars 10 digits 0 < UInt64.size ∧
          m = Nat.ofDigitChars 10 digits 0 * factor ∧ m < UInt64.size := by
  rw [millisOf?_eq_some_iff]
  constructor
  · rintro ⟨amount, factor, hdigits, hunit, hamount, hproduct, rfl⟩
    obtain ⟨hne, -, rfl⟩ := digits?_eq_some_iff.mp hdigits
    obtain ⟨blanks, hwritten⟩ := exists_isWritten htrim hne
    exact ⟨_, blanks, _, factor, hwritten, unitMillis?_eq_some_iff.mp hunit, hamount, rfl, hproduct⟩
  · rintro ⟨digits, blanks, unit, factor, hwritten, hunit, hamount, rfl, hproduct⟩
    refine ⟨_, factor, ?_, ?_, hamount, hproduct, rfl⟩
    · rw [hwritten.takeWhile_isDigit hunit]
      exact digits?_eq_some_iff.mpr ⟨hwritten.digits_ne_nil, hwritten.isDigit, rfl⟩
    · rw [hwritten.dropWhile_isDigit hunit, trimmed_append_of_isBlank hwritten.isBlank,
        hunit.trimmed_eq, unitMillis?_eq_some_iff]
      exact hunit

/-- **What a written duration stands for.** A text is read as so many milliseconds exactly if, apart
from the blanks around it, it is digits with a unit behind them, the number of the digits fits into
64 bits, and so does its product with the unit, which are the milliseconds. Reading it in words of
64 bits, with every product and sum checked, comes to the same. -/
theorem readMillis?_exact (text : String) :
    (∀ m, readMillis? text = some m ↔
      ∃ digits blanks unit factor, IsWritten (trimmed text.toList) digits blanks unit ∧
        IsUnit unit factor ∧ Nat.ofDigitChars 10 digits 0 ≤ 2 ^ 64 - 1 ∧
          m = Nat.ofDigitChars 10 digits 0 * factor ∧ m ≤ 2 ^ 64 - 1) ∧
    (wordMillisOf? (trimmed text.toList)).map UInt64.toNat = readMillis? text := by
  have hword : ∀ n, n ≤ 2 ^ 64 - 1 ↔ n < UInt64.size := fun n ↦
    Nat.le_sub_one_iff_lt (by decide)
  refine ⟨fun m ↦ ?_, map_toNat_wordMillisOf? _⟩
  simp only [hword]
  exact millisOf?_eq_some_iff_isWritten (trimmed_trimmed _)

-- the last second that fits into 64 bits, and the first that does not
example : readMillis? " 18446744073709551 s" = some 18446744073709551000 ∧
    readMillis? "018446744073709552s" = none := by decide +kernel

end PropertyCatalog.Duration
