import PropertyCatalog.Decimal.Binary64

/-!
# Shortest decimals

The decimal with the fewest digits that reads back as a given binary value and, among those, the one
nearest to it. A decimal reads back as a value exactly if it lies between the midpoints to the two
neighbours of the value; the midpoints themselves do if the mantissa is even. On the grid of decimals
with a given number of digits only the two points around the value need to be tried.
-/

namespace PropertyCatalog

/-- The number `digits * 10 ^ exponent`. -/
structure Decimal where
  /-- The significant digits, as a number. -/
  digits : Nat
  /-- The power of ten. -/
  exponent : Int
deriving DecidableEq

namespace Decimal

def quotient (d : Decimal) : Nat × Nat :=
  if 0 ≤ d.exponent then (d.digits * tenTo d.exponent.toNat, 1)
  else (d.digits, tenTo (-d.exponent).toNat)

/-- The number without zeros at the end of its digits; at most `fuel` of them go. -/
def normalizeWith : Nat → Decimal → Decimal
  | 0, d => d
  | fuel + 1, d =>
    if d.digits ≠ 0 ∧ d.digits % 10 = 0 then normalizeWith fuel ⟨d.digits / 10, d.exponent + 1⟩
    else d

def normalize (d : Decimal) : Decimal := normalizeWith d.digits.log2 d

end Decimal

/-- The reals that round to a positive binary value, in units of a quarter of its last place. -/
structure RoundingInterval where
  /-- The lower end. -/
  low : Nat
  /-- The value itself. -/
  middle : Nat
  /-- The upper end. -/
  high : Nat
  /-- The power of two that is the unit. -/
  exponent : Int
  /-- The ends belong to the interval. -/
  closed : Bool

namespace RoundingInterval

/-- The interval of `mantissa * 2 ^ exponent`. Below a power of two the neighbours are closer, unless
the exponent is the least one. -/
def ofBinary (mantissa : Nat) (exponent : Int) : RoundingInterval where
  low :=
    if mantissa = twoTo 52 ∧ Binary64.leastExponent < exponent then 4 * mantissa - 1
    else 4 * mantissa - 2
  middle := 4 * mantissa
  high := 4 * mantissa + 2
  exponent := exponent - 2
  closed := mantissa % 2 = 0

def quotient (i : RoundingInterval) (units : Nat) : Nat × Nat :=
  if 0 ≤ i.exponent then (units * twoTo i.exponent.toNat, 1) else (units, twoTo (-i.exponent).toNat)

def contains (i : RoundingInterval) (d : Decimal) : Bool :=
  let (n, m) := d.quotient
  let (low, lowDen) := i.quotient i.low
  let (high, highDen) := i.quotient i.high
  if i.closed then low * m ≤ n * lowDen && n * highDen ≤ high * m
  else low * m < n * lowDen && n * highDen < high * m

/-- The power of ten of the first digit of the value. -/
def magnitude (i : RoundingInterval) : Int :=
  let (n, d) := i.quotient i.middle
  (Nat.toDigits 10 (n * tenTo 330 / d)).length - 331

/-- The greatest decimal with the given power of ten that is not above the value. -/
def floor (i : RoundingInterval) (exponent : Int) : Decimal :=
  let (n, d) := i.quotient i.middle
  if 0 ≤ exponent then ⟨n / (d * tenTo exponent.toNat), exponent⟩
  else ⟨n * tenTo (-exponent).toNat / d, exponent⟩

/-- The value is nearer to the next decimal of the grid than to the one below it, or as near as to
that one, which is odd. -/
def prefersNext (i : RoundingInterval) (d : Decimal) : Bool :=
  let (n, m) := i.quotient (2 * i.middle)
  let (mid, den) := Decimal.quotient ⟨2 * d.digits + 1, d.exponent⟩
  mid * m < n * den || mid * m = n * den && d.digits % 2 = 1

/-- The nearest of the two decimals around the value on the grid of a power of ten that lies in the
interval. -/
def onGrid? (i : RoundingInterval) (exponent : Int) : Option Decimal :=
  let below := i.floor exponent
  let next : Decimal := ⟨below.digits + 1, exponent⟩
  let (first, second) := if i.prefersNext below then (next, below) else (below, next)
  if i.contains first then some first else if i.contains second then some second else none

/-- The first hit on grids with one more digit each time. -/
def search (i : RoundingInterval) : Nat → Int → Decimal
  | 0, exponent => i.floor exponent
  | fuel + 1, exponent => (i.onGrid? exponent).getD (i.search fuel (exponent - 1))

/-- The shortest decimal of the interval, the nearest to the value if there are several. -/
def shortest (i : RoundingInterval) : Decimal := (i.search 17 i.magnitude).normalize

end RoundingInterval

/-- The shortest decimal that reads back as `mantissa * 2 ^ exponent`. -/
def shortestDecimal (mantissa : Nat) (exponent : Int) : Decimal :=
  if mantissa = 0 then ⟨0, 0⟩ else (RoundingInterval.ofBinary mantissa exponent).shortest

end PropertyCatalog
