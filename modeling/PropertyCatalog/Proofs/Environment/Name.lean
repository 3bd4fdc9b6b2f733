import Mathlib.Data.List.Forall2
import PropertyCatalog.Environment

/-!
# Names of variables

The name of a variable forgets the case of ASCII letters and which of the dot, the hyphen and the
underscore stands where, and nothing else. Neither can make up for the other: a capital is none of
the three, and none of the three is a letter (`variableChar_toUpper`,
`variableChar_eq_underscore_iff`). So paths have one variable exactly if they are of one length and
differ in these ways at most (`variableName_eq_iff`), and the opening, which stands in front of
every name alike, has no say in it.
-/

namespace PropertyCatalog.Environment

/-! ## Characters -/

/-- The characters that are written as an underscore. -/
def joints : List Char := ['.', '-', '_']

/-- What two paths with one variable may have at one place. -/
inductive SharesPlace : Char → Char → Prop
  /-- One character, or the two cases of an ASCII letter. -/
  | letter {c d : Char} (toLower_eq : c.toLower = d.toLower) : SharesPlace c d
  /-- Any two of the dot, the hyphen and the underscore. -/
  | joint {c d : Char} (mem : c ∈ joints) (mem' : d ∈ joints) : SharesPlace c d

variable {c d : Char}

theorem val_le_val_iff : c.val ≤ d.val ↔ c.toNat ≤ d.toNat := UInt32.le_iff_toNat_le

/-- Small letters lie from 97 to 122, and their capitals 32 before them. -/
theorem toNat_toUpper (c : Char) :
    c.toUpper.toNat = if 97 ≤ c.toNat ∧ c.toNat ≤ 122 then c.toNat - 32 else c.toNat := by
  have hlower : 'a'.val ≤ c.val ∧ c.val ≤ 'z'.val ↔ 97 ≤ c.toNat ∧ c.toNat ≤ 122 :=
    and_congr val_le_val_iff val_le_val_iff
  unfold Char.toUpper
  split
  next h =>
    have hval : (c.val + ('A'.val - 'a'.val)).toNat = (c.toNat + 4294967264) % 4294967296 :=
      UInt32.toNat_add ..
    obtain ⟨hge, hle⟩ := hlower.mp h
    rw [if_pos ⟨hge, hle⟩]
    exact hval.trans (by omega)
  next h => rw [if_neg (mt hlower.mpr h)]

theorem toNat_toLower (c : Char) :
    c.toLower.toNat = if 65 ≤ c.toNat ∧ c.toNat ≤ 90 then c.toNat + 32 else c.toNat := by
  have hupper : c.val ≥ 'A'.val ∧ c.val ≤ 'Z'.val ↔ 65 ≤ c.toNat ∧ c.toNat ≤ 90 :=
    and_congr val_le_val_iff val_le_val_iff
  unfold Char.toLower
  split
  next h =>
    have hval : (c.val + ('a'.val - 'A'.val)).toNat = (c.toNat + 32) % 4294967296 :=
      UInt32.toNat_add ..
    obtain ⟨hge, hle⟩ := hupper.mp h
    rw [if_pos ⟨hge, hle⟩]
    exact hval.trans (by omega)
  next h => rw [if_neg (mt hupper.mpr h)]

theorem toUpper_eq_iff : c.toUpper = d.toUpper ↔ c.toLower = d.toLower := by
  simp only [← Char.toNat_inj, toNat_toUpper, toNat_toLower]
  grind

theorem toUpper_toUpper (c : Char) : c.toUpper.toUpper = c.toUpper := by
  simp only [← Char.toNat_inj, toNat_toUpper]
  grind

/-- Only a letter has another case, so only a letter is the capital of anything else. -/
theorem eq_of_toUpper_eq (hd : d.toNat < 65 ∨ 90 < d.toNat) (h : c.toUpper = d) : c = d := by
  rw [← Char.toNat_inj, toNat_toUpper] at h
  rw [← Char.toNat_inj]
  split at h <;> omega

/-- Whether a character is a joint does not hang on its case. -/
theorem variableChar_toUpper (c : Char) : variableChar c.toUpper = variableChar c := by
  have hjoint {d : Char} (hd : d.toNat < 65 ∨ 90 < d.toNat) (hd' : d.toUpper = d) :
      c.toUpper = d ↔ c = d := by
    constructor
    · exact eq_of_toUpper_eq hd
    · rintro rfl
      exact hd'
  have hdot : c.toUpper = '.' ↔ c = '.' := hjoint (by decide) (by decide)
  have hhyphen : c.toUpper = '-' ↔ c = '-' := hjoint (by decide) (by decide)
  simp only [variableChar, hdot, hhyphen, toUpper_toUpper]

theorem variableChar_eq_underscore_iff : variableChar c = '_' ↔ c ∈ joints := by
  have hjoints : c ∈ joints ↔ (c = '.' ∨ c = '-') ∨ c = '_' := by
    simp [joints, or_assoc]
  rw [hjoints, variableChar]
  by_cases h : c = '.' ∨ c = '-'
  · rw [if_pos h]
    exact iff_of_true rfl (.inl h)
  · rw [if_neg h, or_iff_right h]
    constructor
    · exact eq_of_toUpper_eq (by decide)
    · rintro rfl
      decide

theorem variableChar_of_notMem (h : c ∉ joints) : variableChar c = c.toUpper := by
  have hjoints : ¬(c = '.' ∨ c = '-') := by
    rintro (rfl | rfl) <;> exact h (by decide)
  exact if_neg hjoints

theorem variableChar_eq_iff : variableChar c = variableChar d ↔ SharesPlace c d := by
  constructor
  · intro h
    by_cases hc : c ∈ joints
    · have hd : d ∈ joints := by
        rw [← variableChar_eq_underscore_iff, ← h]
        exact variableChar_eq_underscore_iff.mpr hc
      exact .joint hc hd
    · have hd : d ∉ joints := by
        rwa [← variableChar_eq_underscore_iff, ← h, variableChar_eq_underscore_iff]
      rw [variableChar_of_notMem hc, variableChar_of_notMem hd] at h
      exact .letter (toUpper_eq_iff.mp h)
  · intro h
    cases h with
    | letter hlower =>
      rw [← variableChar_toUpper c, toUpper_eq_iff.mpr hlower, variableChar_toUpper]
    | joint hc hd =>
      rw [variableChar_eq_underscore_iff.mpr hc, variableChar_eq_underscore_iff.mpr hd]

/-! ## Names -/

/-- The paths are of one length, and at every place they differ at most in the case of an ASCII
letter or in which of the dot, the hyphen and the underscore they have. -/
def SharesVariable (path path' : String) : Prop :=
  List.Forall₂ SharesPlace path.toList path'.toList

/-- Paths have one variable exactly if they differ in what a name forgets, whatever the opening. -/
theorem variableName_eq_iff {path path' : String} (lead : Option String) :
    variableName path lead = variableName path' lead ↔ SharesVariable path path' := by
  rw [variableName, variableName, String.append_right_inj, ← String.toList_inj, String.toList_map,
    String.toList_map, ← List.forall₂_eq_eq_eq, List.forall₂_map_left_iff,
    List.forall₂_map_right_iff, SharesVariable]
  simp only [variableChar_eq_iff]

end PropertyCatalog.Environment
