import PropertyCatalog.Decimal.Layout
import PropertyCatalog.Document.Tree
import PropertyCatalog.Text.Quoted

/-!
# Writing JSON

A document tree as JSON text, on one line or indented. Members are written in the order of the
object. Of the characters in a string only the quote, the backslash and the control characters below
U+0020 are escaped.
-/

namespace PropertyCatalog.Document.Json

open Text

/-- Numbers are written positionally from `1e-5` up to sixteen digits before the point. -/
def realLayout : Decimal.Layout := ⟨-5, 15⟩

/-- The four hexadecimal digits of a small number. -/
def fourHexDigits (n : Nat) : List Char :=
  let digits := hexDigits n
  List.replicate (4 - digits.length) '0' ++ digits

/-- How one character is written in a string. -/
def stringChar (c : Char) : List Char :=
  match c with
  | '"' => ['\\', '"']
  | '\\' => ['\\', '\\']
  | '\x08' => ['\\', 'b']
  | '\x0c' => ['\\', 'f']
  | '\n' => ['\\', 'n']
  | '\r' => ['\\', 'r']
  | '\t' => ['\\', 't']
  | c => if c < ' ' then '\\' :: 'u' :: fourHexDigits c.toNat else [c]

def writeString (s : String) : String :=
  String.ofList ('"' :: s.toList.flatMap stringChar ++ ['"'])

/-- A number as JSON; what is not finite has no numeral and is written as `null`. -/
def writeNumber : Number → String
  | .integer n => toString n
  | .real x => if x.isFinite then x.write realLayout else "null"

def writeBoolean (b : Bool) : String := if b then "true" else "false"

mutual

/-- The tree on one line, without spaces. -/
def writeCompact : Tree → String
  | .null => "null"
  | .boolean b => writeBoolean b
  | .number n => writeNumber n
  | .text s => writeString s
  | .array items => "[" ++ ",".intercalate (compactItems items) ++ "]"
  | .object members => "\x7b" ++ ",".intercalate (compactMembers members) ++ "\x7d"

def compactItems : List Tree → List String
  | [] => []
  | t :: ts => writeCompact t :: compactItems ts

def compactMembers : List (String × Tree) → List String
  | [] => []
  | (key, t) :: ms => (writeString key ++ ":" ++ writeCompact t) :: compactMembers ms

end

/-- A line break and the indentation of a level. -/
def lineBreak (level : Nat) : String :=
  String.ofList ('\n' :: List.replicate (2 * level) ' ')

/-- The parts between brackets, each on a line of its own one level deeper; without parts the
brackets stand together. -/
def block (opening closing : String) (level : Nat) (parts : List String) : String :=
  if parts.isEmpty then opening ++ closing
  else
    opening ++ lineBreak (level + 1) ++ ("," ++ lineBreak (level + 1)).intercalate parts ++
      lineBreak level ++ closing

mutual

/-- The tree with every item and member on a line of its own, at a level of indentation. -/
def writeIndented (level : Nat) : Tree → String
  | .null => "null"
  | .boolean b => writeBoolean b
  | .number n => writeNumber n
  | .text s => writeString s
  | .array items => block "[" "]" level (indentedItems (level + 1) items)
  | .object members => block "\x7b" "\x7d" level (indentedMembers (level + 1) members)

def indentedItems (level : Nat) : List Tree → List String
  | [] => []
  | t :: ts => writeIndented level t :: indentedItems level ts

def indentedMembers (level : Nat) : List (String × Tree) → List String
  | [] => []
  | (key, t) :: ms =>
    (writeString key ++ ": " ++ writeIndented level t) :: indentedMembers level ms

end

/-- The tree with every item and member on a line of its own. -/
def writePretty (t : Tree) : String := writeIndented 0 t

end PropertyCatalog.Document.Json
