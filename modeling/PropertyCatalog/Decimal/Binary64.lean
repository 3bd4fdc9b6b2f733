/-!
# Binary floating point

The values of the IEEE 754 format with 64 bits, as a sign, a mantissa and a power of two. All
arithmetic is exact arithmetic on natural numbers followed by one rounding, to the nearest value and
from a tie to the one with the even mantissa.

A finite value has one form: the mantissa is below `2 ^ 53`, the exponent is at least `-1074`, and
the mantissa is at least `2 ^ 52` unless the exponent is the least one.
-/

namespace PropertyCatalog

def twoTo (n : Nat) : Nat := Nat.pow 2 n

def tenTo (n : Nat) : Nat := Nat.pow 10 n

/-- A value of the 64-bit format. -/
inductive Binary64 where
  /-- `mantissa * 2 ^ exponent`, with a sign also for zero. -/
  | finite (negative : Bool) (mantissa : Nat) (exponent : Int)
  /-- An infinity. -/
  | infinite (negative : Bool)
  /-- No number. -/
  | nan
deriving DecidableEq

namespace Binary64

def leastExponent : Int := -1074

def greatestExponent : Int := 971

/-- The quotient of two natural numbers, rounded to the nearest, a tie to the even one. -/
def roundQuotient (num den : Nat) : Nat :=
  let q := num / den
  let twice := 2 * (num % den)
  if twice < den then q
  else if den < twice then q + 1
  else if q % 2 = 0 then q else q + 1

/-- The quotient divided by a power of two, as a quotient again. -/
def downBy (exponent : Int) (num den : Nat) : Nat × Nat :=
  if 0 ≤ exponent then (num, den * twoTo exponent.toNat) else (num * twoTo (-exponent).toNat, den)

/-- The exponent under which the whole part of a positive quotient has 53 binary digits. -/
def exponentOf (num den : Nat) : Int :=
  let estimate : Int := (num.log2 : Int) - den.log2 - 52
  let (n, d) := downBy estimate num den
  if n / d < twoTo 52 then estimate - 1 else estimate

/-- The value nearest to a quotient of natural numbers, with the given sign. The denominator is
positive. -/
def ofQuotient (negative : Bool) (num den : Nat) : Binary64 :=
  if num = 0 then .finite negative 0 leastExponent else
  let exponent := max leastExponent (exponentOf num den)
  let (n, d) := downBy exponent num den
  let mantissa := roundQuotient n d
  let (mantissa, exponent) :=
    if mantissa = twoTo 53 then (twoTo 52, exponent + 1) else (mantissa, exponent)
  if greatestExponent < exponent then .infinite negative else .finite negative mantissa exponent

/-- The value nearest to a natural number. -/
def ofNat (n : Nat) : Binary64 := ofQuotient false n 1

def neg : Binary64 → Binary64
  | finite negative mantissa exponent => finite (!negative) mantissa exponent
  | infinite negative => infinite !negative
  | nan => nan

/-- The value is neither infinite nor missing. -/
def isFinite : Binary64 → Bool
  | finite .. => true
  | _ => false

/-- The rounded product of two finite values, of which the second is positive. -/
def times : Binary64 → Binary64 → Binary64
  | finite negative m e, finite _ n f =>
    if 0 ≤ e + f then ofQuotient negative (m * n * twoTo (e + f).toNat) 1
    else ofQuotient negative (m * n) (twoTo (-(e + f)).toNat)
  | x, _ => x

/-- The rounded quotient of two finite values, of which the second is positive. -/
def dividedBy : Binary64 → Binary64 → Binary64
  | finite negative m e, finite _ n f =>
    if f ≤ e then ofQuotient negative (m * twoTo (e - f).toNat) n
    else ofQuotient negative m (n * twoTo (f - e).toNat)
  | x, _ => x

/-- The value nearest to `digits * 10 ^ exponent`. Beyond the range of the format the power of ten
is not even formed. -/
def ofDecimal (negative : Bool) (digits : Nat) (exponent : Int) : Binary64 :=
  let size : Int := (Nat.toDigits 10 digits).length
  if digits = 0 ∨ size + exponent < -330 then .finite negative 0 leastExponent
  else if 310 < size + exponent then .infinite negative
  else if 0 ≤ exponent then ofQuotient negative (digits * tenTo exponent.toNat) 1
  else ofQuotient negative digits (tenTo (-exponent).toNat)

end Binary64

end PropertyCatalog
