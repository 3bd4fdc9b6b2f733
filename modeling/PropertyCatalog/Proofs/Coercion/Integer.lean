import Mathlib.Algebra.Group.Int.Defs
import PropertyCatalog.Coercion
import PropertyCatalog.Proofs.Text.Numeral

/-!
# Integer texts

An integer text is read into an unbounded integer that is held against one range afterwards. Machine
integers are read otherwise: digit by digit, giving up at the first product or sum that leaves the
width (`Width.read?`), and no single width has the whole range. Two of them together do. A width
holds zero, so on the way to a number of the width, away from zero, every number is of the width as
well (`Width.holds_mul_of_le`); hence a checked reading refuses numerals for their value only
(`Width.read?_eq_some_iff`). What 128 bits with a sign leave out of the range lies above zero, where
no numeral with a minus can be, and there 128 bits without a sign take over (`isSome_read?_or_iff`).
-/

namespace PropertyCatalog

namespace Text

/-! ## Widths -/

/-- The integers from one bound to another, with zero among them. -/
structure Width where
  /-- The least integer of the width. -/
  least : Int
  /-- The greatest integer of the width. -/
  greatest : Int
  /-- Zero is not below the least one. -/
  least_le_zero : least ≤ 0 := by decide
  /-- Zero is not above the greatest one. -/
  zero_le_greatest : 0 ≤ greatest := by decide

namespace Width

def signed128 : Width where
  least := -2 ^ 127
  greatest := 2 ^ 127 - 1

def unsigned128 : Width where
  least := 0
  greatest := 2 ^ 128 - 1

variable (w : Width)

/-- The integer is one of the width. -/
def Holds (n : Int) : Prop := w.least ≤ n ∧ n ≤ w.greatest

instance (n : Int) : Decidable (w.Holds n) := inferInstanceAs (Decidable (_ ∧ _))

/-- The integer, if it is one of the width. -/
def checked? (n : Int) : Option Int := if w.Holds n then some n else none

/-- A number with one digit more, on that side of zero where the factor points. The product and the
sum both have to be of the width. -/
def appendDigit? (factor n : Int) (c : Char) : Option Int :=
  if c.isDigit then
    (w.checked? (10 * n)).bind fun shifted ↦
      w.checked? (shifted + factor * (c.toNat - '0'.toNat : Nat))
  else none

/-- The number that digits come to, one by one. -/
def readDigits? (factor : Int) (digits : List Char) : Option Int :=
  if digits = [] then none else digits.foldlM (w.appendDigit? factor) 0

/-- The integer of the width that a numeral stands for. Without integers below zero there is no
minus. -/
def read? (cs : List Char) : Option Int :=
  let (factor, digits) := cutSign cs
  if factor < 0 ∧ w.least = 0 then none else w.readDigits? factor digits

variable {w} {factor n : Int} {c : Char} {cs : List Char}

/-! ## Reading within a width -/

/-- On the way from zero to a number of the width no number is outside. -/
theorem holds_mul_of_le (hfactor : factor = 1 ∨ factor = -1) {m k : Nat} (hle : m ≤ k)
    (h : w.Holds (factor * k)) : w.Holds (factor * m) := by
  obtain ⟨hleast, hgreatest⟩ := h
  have hzero := w.least_le_zero
  have hzero' := w.zero_le_greatest
  rcases hfactor with rfl | rfl <;> constructor <;> omega

theorem checked?_eq_some_iff {k : Int} : w.checked? n = some k ↔ w.Holds k ∧ k = n := by
  rw [checked?, Option.ite_none_right_eq_some, Option.some_inj]
  constructor
  · rintro ⟨h, rfl⟩
    exact ⟨h, rfl⟩
  · rintro ⟨h, rfl⟩
    exact ⟨h, rfl⟩

theorem appendDigit?_eq_some_iff (hfactor : factor = 1 ∨ factor = -1) {m : Nat} :
    w.appendDigit? factor (factor * m) c = some n ↔
      c.isDigit = true ∧ w.Holds n ∧ n = factor * (10 * m + (c.toNat - '0'.toNat) : Nat) := by
  have hsum : 10 * (factor * m) + factor * (c.toNat - '0'.toNat : Nat)
      = factor * (10 * m + (c.toNat - '0'.toNat) : Nat) := by
    rcases hfactor with rfl | rfl <;> omega
  rw [appendDigit?, Option.ite_none_right_eq_some, Option.bind_eq_some_iff]
  refine and_congr_right fun _ ↦ ?_
  simp only [checked?_eq_some_iff]
  constructor
  · rintro ⟨_, ⟨-, rfl⟩, hholds, hn⟩
    exact ⟨hholds, hn.trans hsum⟩
  · rintro ⟨hholds, hn⟩
    -- the product lies between zero and the sum
    have hproduct : w.Holds (factor * (10 * m : Nat)) :=
      holds_mul_of_le hfactor (Nat.le_add_right _ _) (hn ▸ hholds)
    have hten : factor * (10 * m : Nat) = 10 * (factor * m) := by
      rcases hfactor with rfl | rfl <;> omega
    exact ⟨_, ⟨hten ▸ hproduct, rfl⟩, hholds, hn.trans hsum.symm⟩

theorem foldlM_appendDigit?_eq_some_iff (hfactor : factor = 1 ∨ factor = -1) {m : Nat}
    (hm : w.Holds (factor * m)) :
    cs.foldlM (w.appendDigit? factor) (factor * m) = some n ↔
      (∀ c ∈ cs, c.isDigit = true) ∧ w.Holds n ∧ n = factor * Nat.ofDigitChars 10 cs m := by
  induction cs generalizing m with
  | nil =>
    rw [List.foldlM_nil, Nat.ofDigitChars_nil]
    constructor
    · rintro ⟨⟩
      exact ⟨nofun, hm, rfl⟩
    · rintro ⟨-, -, rfl⟩
      rfl
  | cons c cs ih =>
    simp only [List.foldlM_cons, bind, Option.bind_eq_some_iff, appendDigit?_eq_some_iff hfactor,
      List.forall_mem_cons, Nat.ofDigitChars_cons]
    constructor
    · rintro ⟨_, ⟨hc, hholds, rfl⟩, hrest⟩
      obtain ⟨hcs, hn⟩ := (ih hholds).mp hrest
      exact ⟨⟨hc, hcs⟩, hn⟩
    · rintro ⟨⟨hc, hcs⟩, hholds, rfl⟩
      -- the whole number is of the width, and so is what the first digits come to
      have hfirst := holds_mul_of_le hfactor (le_ofDigitChars cs _) hholds
      exact ⟨_, ⟨hc, hfirst, rfl⟩, (ih hfirst).mpr ⟨hcs, hholds, rfl⟩⟩

theorem readDigits?_eq_some_iff (hfactor : factor = 1 ∨ factor = -1) {digits : List Char} :
    w.readDigits? factor digits = some n ↔
      ∃ m, digits? digits = some m ∧ w.Holds n ∧ n = factor * m := by
  have hstart : factor * (0 : Nat) = 0 := Int.mul_zero factor
  have hzero : w.Holds (factor * (0 : Nat)) := by
    rw [hstart]
    exact ⟨w.least_le_zero, w.zero_le_greatest⟩
  rw [readDigits?, Option.ite_none_left_eq_some, ← hstart,
    foldlM_appendDigit?_eq_some_iff hfactor hzero]
  simp only [digits?_eq_some_iff]
  constructor
  · rintro ⟨hne, hdigit, hholds, hn⟩
    exact ⟨_, ⟨hne, hdigit, rfl⟩, hholds, hn⟩
  · rintro ⟨_, ⟨hne, hdigit, rfl⟩, hholds, hn⟩
    exact ⟨hne, hdigit, hholds, hn⟩

/-- Of the numerals, those are read whose value is of the width, unless a minus is none of its
signs. -/
theorem read?_eq_some_iff :
    w.read? cs = some n ↔
      IsNumeral cs n ∧ w.Holds n ∧ ((cutSign cs).1 < 0 → w.least ≠ 0) := by
  have hread : w.read? cs = if (cutSign cs).1 < 0 ∧ w.least = 0 then none
      else w.readDigits? (cutSign cs).1 (cutSign cs).2 := rfl
  rw [hread, Option.ite_none_left_eq_some, not_and, readDigits?_eq_some_iff (cutSign_fst cs),
    isNumeral_iff]
  constructor
  · rintro ⟨hsign, m, hm, hholds, hn⟩
    exact ⟨⟨m, hm, hn⟩, hholds, hsign⟩
  · rintro ⟨⟨m, hm, hn⟩, hholds, hsign⟩
    exact ⟨hsign, m, hm, hholds, hn⟩

end Width

/-! ## Both widths of 128 bits -/

variable {cs : List Char}

theorem isWide_iff {n : Int} : isWide n = true ↔ -2 ^ 127 ≤ n ∧ n ≤ 2 ^ 128 - 1 := by
  have hleast : leastWide = -2 ^ 127 := by decide
  have hgreatest : greatestWide = 2 ^ 128 - 1 := by decide
  rw [isWide, Bool.and_eq_true, decide_eq_true_iff, decide_eq_true_iff, hleast, hgreatest]

theorem any_isWide_integer?_iff :
    (integer? cs).any isWide = true ↔ ∃ n, IsNumeral cs n ∧ -2 ^ 127 ≤ n ∧ n ≤ 2 ^ 128 - 1 := by
  simp only [Option.any_eq_true, integer?_eq_some_iff, isWide_iff]

/-- Either width reads a text exactly if it is a numeral of the whole range. -/
theorem isSome_read?_or_iff :
    ((Width.signed128.read? cs).isSome || (Width.unsigned128.read? cs).isSome) = true ↔
      ∃ n, IsNumeral cs n ∧ -2 ^ 127 ≤ n ∧ n ≤ 2 ^ 128 - 1 := by
  simp only [Bool.or_eq_true, Option.isSome_iff_exists, Width.read?_eq_some_iff]
  constructor
  · rintro (⟨n, hnumeral, ⟨hleast, hgreatest⟩, -⟩ | ⟨n, hnumeral, ⟨hleast, hgreatest⟩, -⟩)
    · exact ⟨n, hnumeral, hleast, Int.le_trans hgreatest (by decide)⟩
    · exact ⟨n, hnumeral, Int.le_trans (by decide) hleast, hgreatest⟩
  · rintro ⟨n, hnumeral, hleast, hgreatest⟩
    by_cases hsigned : n ≤ 2 ^ 127 - 1
    · exact .inl ⟨n, hnumeral, ⟨hleast, hsigned⟩, fun _ ↦ by decide⟩
    · -- a number this great is above zero, so there is no minus
      have hpos : 0 < n := by omega
      refine .inr ⟨n, hnumeral, ⟨Int.le_of_lt hpos, hgreatest⟩, fun hminus ↦ ?_⟩
      exact absurd (hnumeral.le_zero hminus) (Int.not_le.mpr hpos)

end Text

open Text

/-- **Which texts are integers.** A text is taken for an integer exactly if, apart from the blanks
around it, it is digits behind at most one sign, and the number lies in the range that begins with
the integers of 128 bits with a sign and ends with those without. Reading it within each of the two
widths, with every product and sum checked, and asking for either comes to the same. -/
theorem BoundValue.coercesTo_integer_exact (text : String) (members : List String) :
    ((BoundValue.text text).coercesTo .integer members = true ↔
      ∃ n, IsNumeral (trimmed text.toList) n ∧ -2 ^ 127 ≤ n ∧ n ≤ 2 ^ 128 - 1) ∧
    (BoundValue.text text).coercesTo .integer members =
      ((Width.signed128.read? (trimmed text.toList)).isSome ||
        (Width.unsigned128.read? (trimmed text.toList)).isSome) := by
  have hcoerces : (BoundValue.text text).coercesTo .integer members
      = (integer? (trimmed text.toList)).any isWide := rfl
  rw [hcoerces]
  refine ⟨any_isWide_integer?_iff, ?_⟩
  rw [Bool.eq_iff_iff, any_isWide_integer?_iff, isSome_read?_or_iff]

-- the least integer behind zeros, and the first one that is too great
example : isIntegerText "\t-000170141183460469231731687303715884105728 " = true ∧
    isIntegerText "+340282366920938463463374607431768211456" = false := by decide +kernel

end PropertyCatalog
