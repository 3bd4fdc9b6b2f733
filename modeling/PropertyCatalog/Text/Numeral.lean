/-!
# Numerals

Decimal numerals with an optional sign, read into unbounded integers. Bounds belong to whoever reads
a numeral, so leading zeros never matter.
-/

namespace PropertyCatalog.Text

/-- The text is a run of at least one ASCII digit. -/
def isDigits (cs : List Char) : Bool := !cs.isEmpty && cs.all Char.isDigit

/-- The number that a run of digits stands for. -/
def digits? (cs : List Char) : Option Nat :=
  if isDigits cs then some (Nat.ofDigitChars 10 cs 0) else none

theorem digits?_eq_some_iff {cs : List Char} {n : Nat} :
    digits? cs = some n ↔
      cs ≠ [] ∧ (∀ c ∈ cs, c.isDigit = true) ∧ n = Nat.ofDigitChars 10 cs 0 := by
  rw [digits?, Option.ite_none_right_eq_some, isDigits, Bool.and_eq_true, Bool.not_eq_true',
    List.isEmpty_eq_false_iff, List.all_eq_true, and_assoc, Option.some_inj,
    eq_comm (a := Nat.ofDigitChars 10 cs 0)]

/-- The integer that a numeral stands for: digits behind at most one sign. -/
def integer? : List Char → Option Int
  | '-' :: cs => (digits? cs).map fun n ↦ -(n : Int)
  | '+' :: cs => (digits? cs).map Int.ofNat
  | cs => (digits? cs).map Int.ofNat

/-- The least integer of 128 bits with a sign. -/
def leastWide : Int := -0x80000000000000000000000000000000

/-- The greatest integer of 128 bits without a sign. -/
def greatestWide : Int := 0xffffffffffffffffffffffffffffffff

/-- The integer has at most 128 bits, with or without a sign. -/
def isWide (n : Int) : Bool := leastWide ≤ n && n ≤ greatestWide

/-- The integer as a 64-bit number, if it is one. -/
def int64? (n : Int) : Option Int64 :=
  if Int64.minValue.toInt ≤ n ∧ n ≤ Int64.maxValue.toInt then some (Int64.ofInt n) else none

theorem int64?_eq_some_iff {n : Int} {i : Int64} : int64? n = some i ↔ i.toInt = n := by
  rw [int64?, Option.ite_none_right_eq_some, Option.some_inj]
  constructor
  · rintro ⟨⟨hmin, hmax⟩, rfl⟩
    exact Int64.toInt_ofInt_of_le hmin (Int.lt_of_le_of_lt hmax (by decide))
  · rintro rfl
    exact ⟨⟨i.minValue_le_toInt, i.toInt_le⟩, i.ofInt_toInt⟩

end PropertyCatalog.Text
