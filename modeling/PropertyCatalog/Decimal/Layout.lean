import PropertyCatalog.Decimal.Shortest

/-!
# Writing decimals

A decimal is written positionally where its magnitude is within bounds, and with a power of ten
elsewhere. Positional numbers always have a fractional part; the power of ten always has a sign.
-/

namespace PropertyCatalog.Decimal

/-- Between which powers of ten of the first digit a number is written positionally. -/
structure Layout where
  /-- The least such power. -/
  least : Int
  /-- The greatest such power. -/
  greatest : Int

/-- The power of ten of the first digit. -/
def magnitude (d : Decimal) : Int := (Nat.toDigits 10 d.digits).length - 1 + d.exponent

/-- The digits with a point where the power of ten puts it. -/
def positional (d : Decimal) : List Char :=
  let digits := Nat.toDigits 10 d.digits
  if 0 ≤ d.exponent then digits ++ List.replicate d.exponent.toNat '0' ++ ['.', '0']
  else
    let places := (-d.exponent).toNat
    let digits := List.replicate (places + 1 - digits.length) '0' ++ digits
    digits.take (digits.length - places) ++ '.' :: digits.drop (digits.length - places)

/-- One digit, the others behind a point, and the power of ten. -/
def scientific (d : Decimal) : List Char :=
  let power := d.magnitude
  let sign := if power < 0 then '-' else '+'
  let mantissa := match Nat.toDigits 10 d.digits with
    | c :: c' :: cs => c :: '.' :: c' :: cs
    | cs => cs
  mantissa ++ 'e' :: sign :: Nat.toDigits 10 power.natAbs

/-- The number as the layout writes it. -/
def write (layout : Layout) (d : Decimal) : List Char :=
  if layout.least ≤ d.magnitude ∧ d.magnitude ≤ layout.greatest then d.positional else d.scientific

end PropertyCatalog.Decimal

namespace PropertyCatalog.Binary64

/-- The text of a value: its shortest decimal behind its sign, or the name of what is no finite
number. -/
def write (layout : Decimal.Layout) : Binary64 → String
  | finite negative mantissa exponent =>
    let digits := (shortestDecimal mantissa exponent).write layout
    String.ofList (if negative then '-' :: digits else digits)
  | infinite negative => if negative then "-inf" else "inf"
  | nan => "NaN"

end PropertyCatalog.Binary64
