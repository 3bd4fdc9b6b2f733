import PropertyCatalog.Text.Blank
import PropertyCatalog.Text.Numeral

/-!
# Written numerals

A numeral is a run of digits behind at most one sign (`IsNumeral`). The signs are told apart in one
place (`cutSign`), and no digit is taken for a sign, so a numeral stands for one integer, and
reading finds it (`integer?_eq_some_iff`). Every integer is shown as a numeral that stands for it
(`isNumeral_toString`).
-/

namespace PropertyCatalog.Text

/-! ## Notation -/

/-- With the sign in front, a number counts so many times. -/
inductive IsSign : List Char → Int → Prop
  | none : IsSign [] 1
  | plus : IsSign ['+'] 1
  | minus : IsSign ['-'] (-1)

/-- The text is a sign, if any, and digits, and stands for their number with that sign. -/
inductive IsNumeral (cs : List Char) : Int → Prop
  /-- Zeros in front of the digits are digits like all others. -/
  | signed {sign digits : List Char} {factor : Int} (is_sign : IsSign sign factor)
      (eq_append : cs = sign ++ digits) (digits_ne_nil : digits ≠ [])
      (is_digit : ∀ c ∈ digits, c.isDigit = true) :
      IsNumeral cs (factor * Nat.ofDigitChars 10 digits 0)

variable {cs digits : List Char} {n factor : Int}

/-- Apart from its digits a numeral holds signs only. -/
theorem IsNumeral.isDigit_or_mem (h : IsNumeral cs n) {c : Char} (hc : c ∈ cs) :
    c.isDigit = true ∨ c ∈ ['+', '-'] := by
  obtain ⟨hsign, rfl, -, hdigit⟩ := h
  rcases List.mem_append.mp hc with hc | hc
  · right
    cases hsign with
    | none => cases hc
    | plus | minus =>
      rw [List.mem_singleton.mp hc]
      decide
  · exact .inl (hdigit c hc)

theorem IsNumeral.isBlank_eq_false (h : IsNumeral cs n) : ∀ c ∈ cs, isBlank c = false := by
  intro c hc
  rcases h.isDigit_or_mem hc with hdigit | hsign
  · exact not_isBlank_of_isDigit hdigit
  · have hall : ['+', '-'].all (!isBlank ·) = true := by decide
    exact Bool.not_eq_true' _ ▸ List.all_eq_true.mp hall c hsign

/-! ## Telling the sign apart -/

/-- How often the digits of a numeral count, and the digits. -/
def cutSign : List Char → Int × List Char
  | '-' :: cs => (-1, cs)
  | '+' :: cs => (1, cs)
  | cs => (1, cs)

theorem exists_isSign_cutSign (cs : List Char) :
    ∃ sign, IsSign sign (cutSign cs).1 ∧ cs = sign ++ (cutSign cs).2 := by
  unfold cutSign
  split
  · exact ⟨_, .minus, rfl⟩
  · exact ⟨_, .plus, rfl⟩
  · exact ⟨_, .none, rfl⟩

theorem cutSign_fst (cs : List Char) : (cutSign cs).1 = 1 ∨ (cutSign cs).1 = -1 := by
  obtain ⟨sign, hsign, -⟩ := exists_isSign_cutSign cs
  generalize (cutSign cs).1 = factor at hsign
  cases hsign with
  | none | plus => exact .inl rfl
  | minus => exact .inr rfl

theorem cutSign_of_isDigit (hne : digits ≠ []) (hdigit : ∀ c ∈ digits, c.isDigit = true) :
    cutSign digits = (1, digits) := by
  unfold cutSign
  split
  · exact absurd (hdigit '-' List.mem_cons_self) (by decide)
  · exact absurd (hdigit '+' List.mem_cons_self) (by decide)
  · rfl

theorem cutSign_append {sign : List Char} (hsign : IsSign sign factor) (hne : digits ≠ [])
    (hdigit : ∀ c ∈ digits, c.isDigit = true) : cutSign (sign ++ digits) = (factor, digits) := by
  cases hsign with
  | none => exact cutSign_of_isDigit hne hdigit
  | plus => rfl
  | minus => rfl

theorem isNumeral_iff :
    IsNumeral cs n ↔ ∃ m, digits? (cutSign cs).2 = some m ∧ n = (cutSign cs).1 * m := by
  constructor
  · rintro ⟨hsign, rfl, hne, hdigit⟩
    rw [cutSign_append hsign hne hdigit]
    exact ⟨_, digits?_eq_some_iff.mpr ⟨hne, hdigit, rfl⟩, rfl⟩
  · rintro ⟨m, hm, rfl⟩
    obtain ⟨hne, hdigit, rfl⟩ := digits?_eq_some_iff.mp hm
    obtain ⟨sign, hsign, happend⟩ := exists_isSign_cutSign cs
    exact .signed hsign happend hne hdigit

theorem IsNumeral.le_zero (h : IsNumeral cs n) (hminus : (cutSign cs).1 < 0) : n ≤ 0 := by
  obtain ⟨m, -, rfl⟩ := isNumeral_iff.mp h
  rcases cutSign_fst cs with hfactor | hfactor
  · rw [hfactor] at hminus
    exact absurd hminus (by decide)
  · rw [hfactor]
    omega

/-! ## Reading -/

theorem le_ofDigitChars (cs : List Char) (m : Nat) : m ≤ Nat.ofDigitChars 10 cs m := by
  induction cs generalizing m with
  | nil => exact Nat.le_refl m
  | cons c cs ih =>
    rw [Nat.ofDigitChars_cons]
    calc m ≤ 10 * m + (c.toNat - '0'.toNat) := by omega
      _ ≤ _ := ih _

theorem integer?_eq_cutSign (cs : List Char) :
    integer? cs = (digits? (cutSign cs).2).map fun m : Nat ↦ (cutSign cs).1 * (m : Int) := by
  unfold integer?
  split
  next ds =>
    rw [cutSign]
    cases digits? ds <;> simp
  next ds =>
    rw [cutSign]
    cases digits? ds <;> simp
  next hminus hplus =>
    rw [cutSign]
    · cases digits? cs <;> simp
    · exact hminus
    · exact hplus

/-- Reading accepts numerals and nothing else. -/
theorem integer?_eq_some_iff : integer? cs = some n ↔ IsNumeral cs n := by
  rw [integer?_eq_cutSign, Option.map_eq_some_iff, isNumeral_iff]
  exact exists_congr fun m ↦ and_congr_right fun _ ↦ eq_comm

theorem IsNumeral.unique {m : Int} (h : IsNumeral cs n) (h' : IsNumeral cs m) : n = m :=
  Option.some_inj.mp ((integer?_eq_some_iff.mpr h).symm.trans (integer?_eq_some_iff.mpr h'))

/-! ## Showing -/

theorem toList_toString_of_nonneg (h : 0 ≤ n) : (toString n).toList = Nat.toDigits 10 n.toNat := by
  rw [Int.toString_eq_repr, Int.repr_eq_if, if_pos h, Nat.toList_repr]

theorem toList_toString_of_neg (h : n < 0) :
    (toString n).toList = '-' :: Nat.toDigits 10 (-n).toNat := by
  rw [Int.toString_eq_repr, Int.repr_eq_if, if_neg (Int.not_le.mpr h), String.toList_append,
    Nat.toList_repr]
  rfl

theorem isDigit_of_mem_toDigits {m : Nat} : ∀ c ∈ Nat.toDigits 10 m, c.isDigit = true :=
  fun _ ↦ Nat.isDigit_of_mem_toDigits (by decide) (by decide)

theorem isNumeral_toString (n : Int) : IsNumeral (toString n).toList n := by
  have hdigits (m : Nat) : digits? (Nat.toDigits 10 m) = some m :=
    digits?_eq_some_iff.mpr ⟨Nat.toDigits_ne_nil, isDigit_of_mem_toDigits,
      Nat.ofDigitChars_ten_toDigits.symm⟩
  rw [isNumeral_iff]
  by_cases h : 0 ≤ n
  · rw [toList_toString_of_nonneg h,
      cutSign_of_isDigit Nat.toDigits_ne_nil isDigit_of_mem_toDigits]
    exact ⟨n.toNat, hdigits _, by omega⟩
  · rw [toList_toString_of_neg (Int.not_le.mp h)]
    exact ⟨(-n).toNat, hdigits _, show n = -1 * _ by omega⟩

theorem trimmed_toString (n : Int) : trimmed (toString n).toList = (toString n).toList :=
  trimmed_eq_self (isNumeral_toString n).isBlank_eq_false

theorem exists_isDigit_mem_toString (n : Int) : ∃ c ∈ (toString n).toList, c.isDigit = true := by
  obtain ⟨-, happend, hne, hdigit⟩ := isNumeral_toString n
  obtain ⟨c, hc⟩ := List.exists_mem_of_ne_nil _ hne
  exact ⟨c, happend ▸ List.mem_append_right _ hc, hdigit c hc⟩

end PropertyCatalog.Text
