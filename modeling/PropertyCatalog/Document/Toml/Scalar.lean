import PropertyCatalog.Document.Json.Syntax
import PropertyCatalog.Document.Toml.Value

/-!
# Bare values in TOML

Values that stand without quotes and brackets: truth values, integers in four bases, floating-point
numbers, dates and times. Digits may be grouped by single underscores between them.
-/

namespace PropertyCatalog.Document.Toml.Scalar

open PropertyCatalog.Text

/-! ## Digits -/

/-- The digits of groups that single underscores separate. -/
def grouped? (isDigit : Char → Bool) (cs : List Char) : Option (List Char) :=
  let groups := cs.splitOn '_'
  if groups.all (fun g ↦ !g.isEmpty && g.all isDigit) then some groups.flatten else none

/-- The digit in some base. -/
def isBaseDigit (base : Nat) (c : Char) : Bool := (Json.Syntax.hexDigit? c).any (· < base)

/-- The number of grouped digits in a base. -/
def inBase? (base : Nat) (cs : List Char) : Option Int := do
  let digits ← grouped? (isBaseDigit base) cs
  let n ← digits.foldlM (fun n c ↦ (Json.Syntax.hexDigit? c).map (base * n + ·)) 0
  return (n : Int)

/-- The digits of a decimal number without needless zeros in front. -/
def wholeDigits? (cs : List Char) : Option (List Char) := do
  let digits ← grouped? Char.isDigit cs
  if digits.length ≠ 1 ∧ digits.head? = some '0' then none else some digits

/-- Whether there is a minus, and what follows the sign. -/
def signed : List Char → Bool × List Char
  | '-' :: cs => (true, cs)
  | '+' :: cs => (false, cs)
  | cs => (false, cs)

/-! ## Numbers -/

def integer? (cs : List Char) : Option Int :=
  match cs with
  | '0' :: 'x' :: ds => inBase? 16 ds
  | '0' :: 'o' :: ds => inBase? 8 ds
  | '0' :: 'b' :: ds => inBase? 2 ds
  | cs => do
    let (negative, ds) := signed cs
    let n := Nat.ofDigitChars 10 (← wholeDigits? ds) 0
    return if negative then -(n : Int) else n

/-- The exponent behind its mark. -/
def exponent? (cs : List Char) : Option Int := do
  let (negative, ds) := signed cs
  let n := Nat.ofDigitChars 10 (← grouped? Char.isDigit ds) 0
  return if negative then -(n : Int) else n

/-- The two sides of the first character that meets the condition, if there is one. -/
def sides (p : Char → Bool) (cs : List Char) : List Char × Option (List Char) :=
  (cs.takeWhile (!p ·), (cs.dropWhile (!p ·)).tail?)

/-- A finite number with a fraction or an exponent, rounded to the nearest value. -/
def finite? (cs : List Char) : Option Binary64 := do
  let (negative, cs) := signed cs
  let (mantissa, exponent) := sides (fun c ↦ c = 'e' || c = 'E') cs
  let (whole, fraction) := sides (· = '.') mantissa
  if fraction.isNone ∧ exponent.isNone then none
  let whole ← wholeDigits? whole
  let fraction ← fraction.elim (some []) (grouped? Char.isDigit)
  let exponent ← exponent.elim (some 0) exponent?
  let digits := Nat.ofDigitChars 10 (whole ++ fraction) 0
  let x := Binary64.ofDecimal negative digits (exponent - fraction.length)
  if x.isFinite then some x else none

def real? (cs : List Char) : Option Binary64 :=
  let (negative, name) := signed cs
  if name = "inf".toList then some (.infinite negative)
  else if name = "nan".toList then some .nan
  else finite? cs

/-! ## Values -/

/-- The value of a word. -/
def ofWord? (word : List Char) : Option Value :=
  if word = "true".toList then some (.boolean true)
  else if word = "false".toList then some (.boolean false)
  else
    ((integer? word).map .integer).or <| ((real? word).map .real).or <|
      (Moment.read? word).map .moment

/-- The character may stand in a bare value. -/
def isWordChar (c : Char) : Bool :=
  c.isAlphanum || c = '_' || c = '+' || c = '-' || c = '.' || c = ':'

def isDay (word : List Char) : Bool := (Reader.whole Moment.readDay word).isSome

/-- Takes a word; a date takes the time behind a space with it. -/
def word : Reader (List Char) := fun cs ↦
  let front := cs.takeWhile isWordChar
  match cs.dropWhile isWordChar with
  | ' ' :: c :: rest =>
    if isDay front ∧ c.isDigit then
      some (front ++ ' ' :: (c :: rest).takeWhile isWordChar, (c :: rest).dropWhile isWordChar)
    else some (front, ' ' :: c :: rest)
  | rest => some (front, rest)

def read : Reader Value := do
  match ofWord? (← word) with
  | some v => return v
  | none => failure

end PropertyCatalog.Document.Toml.Scalar
