import PropertyCatalog.Document.Tree
import PropertyCatalog.Document.Yaml.Node
import PropertyCatalog.Text.Affix
import PropertyCatalog.Text.Numeral

/-!
# Meaning of YAML scalars

What a scalar stands for. A plain scalar without a tag is a null, a truth value, a number or a text by
the way it looks; digits behind a needless zero are a text. A tag asks for one of these, and a scalar
that does not look like it is refused. Any other scalar is a text.
-/

namespace PropertyCatalog.Document.Yaml

open PropertyCatalog.Text

/-! ## Looks -/

/-- The text stands for nothing. -/
def looksNull (s : String) : Bool := ["null", "Null", "NULL", "~"].contains s

/-- The truth value that the text looks like. -/
def boolean? (s : String) : Option Bool :=
  if ["true", "True", "TRUE"].contains s then some true
  else if ["false", "False", "FALSE"].contains s then some false
  else none

/-- Digits that begin with a zero though they are several, behind at most one sign. -/
def hasNeedlessZero (cs : List Char) : Bool :=
  match cs with
  | '-' :: '0' :: c :: rest | '+' :: '0' :: c :: rest | '0' :: c :: rest =>
    (c :: rest).all Char.isDigit
  | _ => false

def inBase? (base : Nat) (cs : List Char) : Option Nat :=
  if cs.isEmpty then none
  else cs.foldlM (fun n c ↦
    ((Json.Syntax.hexDigit? c).filter (· < base)).map (base * n + ·)) 0

/-- The number behind the mark of its base. -/
def based? : List Char → Option Nat
  | '0' :: 'x' :: cs => inBase? 16 cs
  | '0' :: 'o' :: cs => inBase? 8 cs
  | '0' :: 'b' :: cs => inBase? 2 cs
  | _ => none

/-- The integer that the text looks like, in one of four bases. -/
def integer? (cs : List Char) : Option Int :=
  let magnitude? (cs : List Char) : Option Nat :=
    (based? cs).or (if hasNeedlessZero cs then none else digits? cs)
  match cs with
  | '-' :: rest => (magnitude? rest).map fun n ↦ -(n : Int)
  | '+' :: rest => (magnitude? rest).map Int.ofNat
  | cs => (magnitude? cs).map Int.ofNat

/-- The finite number that the text looks like: digits with at most one point among or beside them, and
perhaps an exponent. -/
def finite? (cs : List Char) : Option Binary64 := do
  let (negative, cs) := match cs with
    | '-' :: rest => (true, rest)
    | '+' :: rest => (false, rest)
    | cs => (false, cs)
  let (mantissa, exponent) := match cut? (fun c ↦ c = 'e' || c = 'E') cs with
    | some (mantissa, exponent) => (mantissa, Text.integer? exponent)
    | none => (cs, some 0)
  let (whole, fraction) := (cut? (· = '.') mantissa).getD (mantissa, [])
  let digits ← digits? (whole ++ fraction)
  let x := Binary64.ofDecimal negative digits ((← exponent) - fraction.length)
  if x.isFinite then some x else none

/-- The floating-point number that the text looks like. -/
def real? (s : String) : Option Binary64 :=
  if [".inf", ".Inf", ".INF", "+.inf", "+.Inf", "+.INF"].contains s then some (.infinite false)
  else if ["-.inf", "-.Inf", "-.INF"].contains s then some (.infinite true)
  else if [".nan", ".NaN", ".NAN"].contains s then some .nan
  else match s.toList with
    | '+' :: '+' :: _ | '+' :: '-' :: _ => none
    | cs => finite? cs

/-! ## Trees -/

/-- The integer as a tree, if it is one of 64 bits with or without a sign. -/
def integerTree? (n : Int) : Option Tree :=
  if Int64.minValue.toInt ≤ n ∧ n < UInt64.size then some (.ofInt n) else none

/-- The floating-point number as a tree; what is not finite stands for nothing. -/
def realTree (x : Binary64) : Tree := if x.isFinite then .number (.real x) else .null

/-- The integer of at most 128 bits that the text looks like. -/
def wideInteger? (s : String) : Option Int := (integer? s.toList).filter isWide

/-- The tree of a plain scalar without a tag, if it has one. -/
def plainTree? (s : String) : Option Tree :=
  if s.isEmpty || looksNull s then some .null
  else match boolean? s, wideInteger? s with
    | some b, _ => some (.boolean b)
    | none, some n => integerTree? n
    | none, none =>
      if hasNeedlessZero s.toList then some (.text s)
      else some ((real? s).elim (.text s) realTree)

/-- How the tags of the language itself begin. -/
def languageTag (name : String) : String := "tag:yaml.org,2002:" ++ name

def isLocal (tag : String) : Bool := tag.toList.head? = some '!'

def scalarTree? (tag : Option String) (style : Style) (s : String) : Option Tree :=
  match tag with
  | none => if style = .plain then plainTree? s else some (.text s)
  | some tag =>
    if isLocal tag then none
    else if tag = languageTag "bool" then (boolean? s).map .boolean
    else if tag = languageTag "int" then wideInteger? s >>= integerTree?
    else if tag = languageTag "float" then (real? s).map realTree
    else if tag = languageTag "null" then (if looksNull s then some .null else none)
    else some (.text s)

end PropertyCatalog.Document.Yaml
