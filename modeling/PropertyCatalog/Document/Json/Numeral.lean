import PropertyCatalog.Document.Tree
import PropertyCatalog.Text.Reader

/-!
# Numerals of JSON

How a JSON numeral is read and which number it stands for. A numeral without fraction and exponent
that fits into 64 bits is a whole number, except that `-0` is the floating-point zero with a sign.
Any other numeral is a floating-point number. Of its digits, as many count as fit into 64 bits; the
further ones only move the exponent. The result is the significand times or over a power of ten, each
rounded to 64 bits before and after, so it may differ in the last place from the nearest value.
-/

namespace PropertyCatalog.Document.Json

open Text

/-- A numeral as it is written. -/
structure Numeral where
  /-- There is a minus in front. -/
  negative : Bool
  /-- The digits in front of the point. -/
  whole : List Char
  /-- The digits behind the point, if there is one. -/
  fraction : Option (List Char)
  /-- Whether the exponent is negative, and its digits, if there is one. -/
  exponent : Option (Bool × List Char)

namespace Numeral

/-! ## Reading -/

/-- Takes at least one digit. -/
def digits : Reader (List Char) := do
  let ds ← Reader.takeWhile Char.isDigit
  Reader.ensure !ds.isEmpty
  return ds

/-- Takes the exponent, if there is one. -/
def readExponent : Reader (Option (Bool × List Char)) := do
  match ← Reader.peek with
  | some 'e' | some 'E' =>
    let _ ← Reader.next
    match ← Reader.peek with
    | some '-' => let _ ← Reader.next; return some (true, ← digits)
    | some '+' => let _ ← Reader.next; return some (false, ← digits)
    | _ => return some (false, ← digits)
  | _ => return none

/-- Takes a numeral. No further digit may follow a zero in front of the point. -/
def read : Reader Numeral := do
  let negative ← Reader.accept ['-']
  let whole ← digits
  Reader.ensure (whole.length = 1 || whole.head? ≠ some '0')
  let fraction ← if ← Reader.accept ['.'] then some <$> digits else pure none
  return { negative, whole, fraction, exponent := ← readExponent }

/-! ## Value -/

/-- The first number that does not fit into 64 bits. -/
def wordLimit : Nat := UInt64.size

/-- Appends digits to a significand up to the first one with which it would not fit into 64 bits, and
counts those appended. -/
def absorb (significand : Nat) : List Char → Nat × Nat
  | [] => (significand, 0)
  | c :: cs =>
    let longer := Nat.ofDigitChars 10 [c] significand
    if longer < wordLimit then
      let (s, n) := absorb longer cs
      (s, n + 1)
    else (significand, 0)

/-- The greatest power of ten that is applied in one step. -/
def greatestPower : Nat := 308

/-- `10 ^ n`, rounded. -/
def powerOfTen (n : Nat) : Binary64 := .ofNat (tenTo n)

/-- A value over a power of ten, taken in steps; a few of them lead to zero. -/
def dividedByPower (x : Binary64) : Nat → Nat → Binary64
  | 0, _ => x
  | steps + 1, n =>
    if n ≤ greatestPower then x.dividedBy (powerOfTen n)
    else dividedByPower (x.dividedBy (powerOfTen greatestPower)) steps (n - greatestPower)

/-- A significand times a power of ten, if it is in the range of 64 bits. -/
def scaled? (significand : Nat) (exponent : Int) : Option Binary64 :=
  let x := Binary64.ofNat significand
  if exponent < 0 then some (dividedByPower x 4 exponent.natAbs)
  else if exponent ≤ greatestPower then
    let product := x.times (powerOfTen exponent.toNat)
    if product.isFinite then some product else none
  else if significand = 0 then some x else none

/-- The least number that is no exponent of its own any more. -/
def exponentLimit : Nat := 0x80000000

/-- The floating-point number of a significand and its exponent, to which the written one is
added. -/
def real? (n : Numeral) (significand : Nat) (exponent : Int) : Option Binary64 := do
  let magnitude ← match n.exponent with
    | none => scaled? significand exponent
    | some (negative, ds) =>
      let written := Nat.ofDigitChars 10 ds 0
      if exponentLimit ≤ written then
        if significand = 0 ∨ negative then some (.ofNat 0) else none
      else scaled? significand (if negative then exponent - written else exponent + written)
  return if n.negative then magnitude.neg else magnitude

/-- The number that the numeral stands for, if it is in range. -/
def value? (n : Numeral) : Option Number :=
  let (significand, kept) := absorb 0 n.whole
  let dropped := n.whole.length - kept
  match n.fraction, n.exponent with
  | none, none =>
    if dropped = 0 ∧ !n.negative then some (.integer significand)
    else if dropped = 0 ∧ significand ≠ 0 ∧ significand ≤ 0x8000000000000000 then some (.integer (-significand))
    else (n.real? significand dropped).map .real
  | fraction, _ =>
    let (significand, places) := absorb significand (fraction.getD [])
    (n.real? significand (dropped - places)).map .real

end Numeral

end PropertyCatalog.Document.Json
