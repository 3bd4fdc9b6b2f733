/-!
# Moving through YAML text

Where a reader of YAML stands: the rest of the text with the line and the column of its first
character. What a construct means depends on its column, so every step keeps count.
-/

namespace PropertyCatalog.Document.Yaml

/-! ## Characters -/

def isSpace (c : Char) : Bool := c = ' ' || c = '\t'

def isBreak (c : Char) : Bool :=
  c = '\n' || c = '\r' || c = '\x85' || c = '\u2028' || c = '\u2029'

/-- A character of a name: an ASCII letter or digit, `_` or `-`. -/
def isNameChar (c : Char) : Bool := c.isAlphanum || c = '_' || c = '-'

/-- The character may stand in a YAML text. -/
def isPrintable (c : Char) : Bool :=
  let n := c.toNat
  n = 0x9 || n = 0xa || n = 0xd || 0x20 ≤ n && n ≤ 0x7e || n = 0x85 || 0xa0 ≤ n && n ≤ 0xfffd ||
    0x10000 ≤ n

/-! ## Cursors -/

/-- A place in a text. -/
structure Cursor where
  /-- What follows. -/
  rest : List Char
  /-- How many characters precede. -/
  index : Nat := 0
  /-- How many lines precede. -/
  line : Nat := 0
  /-- How many characters of the line precede. -/
  column : Nat := 0

namespace Cursor

/-- The character so many places on. -/
def char? (c : Cursor) (n : Nat) : Option Char := c.rest[n]?

/-- The given character stands so many places on. -/
def shows (c : Cursor) (n : Nat) (expected : Char) : Bool := c.char? n = some expected

def atEnd (c : Cursor) : Bool := c.rest.isEmpty

/-- A space or a tab stands so many places on. -/
def spaceAt (c : Cursor) (n : Nat) : Bool := (c.char? n).any isSpace

/-- The line or the text ends so many places on. -/
def breakOrEndAt (c : Cursor) (n : Nat) : Bool := (c.char? n).all isBreak

/-- A word that reaches so many places on ends there. -/
def wordEndAt (c : Cursor) (n : Nat) : Bool := (c.char? n).all fun x ↦ isSpace x || isBreak x

/-- The place so many characters on, on the same line. -/
def advance (c : Cursor) (n : Nat) : Cursor :=
  { c with rest := c.rest.drop n, index := c.index + n, column := c.column + n }

/-- The characters up to the first that does not meet the condition, and the place behind them on the
same line. -/
def span (c : Cursor) (p : Char → Bool) : List Char × Cursor :=
  let front := c.rest.takeWhile p
  (front, c.advance front.length)

def skipSpaces (c : Cursor) : Cursor := (c.span isSpace).2

def skipLine (c : Cursor) : Cursor := (c.span (!isBreak ·)).2

def newLine (c : Cursor) (width : Nat) : Cursor :=
  { rest := c.rest.drop width, index := c.index + width, line := c.line + 1, column := 0 }

/-- The line break that stands here, as it counts in a text, and the place behind it. -/
def break? (c : Cursor) : Option (Char × Cursor) :=
  match c.rest with
  | '\r' :: '\n' :: _ => some ('\n', c.newLine 2)
  | x :: _ =>
    if x = '\u2028' ∨ x = '\u2029' then some (x, c.newLine 1)
    else if isBreak x then some ('\n', c.newLine 1)
    else none
  | [] => none

/-- The place behind the line break, if one stands here. -/
def skipBreak (c : Cursor) : Cursor := (c.break?.map (·.2)).getD c

/-- Three of the given character stand alone at the beginning of a line. -/
def atMarker (c : Cursor) (x : Char) : Bool :=
  c.column = 0 && c.rest.take 3 = [x, x, x] && c.wordEndAt 3

/-- A mark between documents stands here. -/
def atDocumentMarker (c : Cursor) : Bool := c.atMarker '-' || c.atMarker '.'

/-- How many steps a loop from here can take. -/
def bound (c : Cursor) : Nat := c.rest.length + 1

end Cursor

end PropertyCatalog.Document.Yaml
