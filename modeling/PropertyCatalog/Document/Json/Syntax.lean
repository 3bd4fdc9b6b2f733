import PropertyCatalog.Document.Json.Numeral

/-!
# Syntax of JSON

A JSON text as a tree that keeps what the text says: the members of an object in their order,
repeated keys included, and numerals as they are written. A string whose escapes are well formed but
name no text, such as a lone surrogate, has no value; it stands in the way only where its value is
asked for.

`Syntax.tree?` is the document tree of a text. There later members win, every string has to have a
value, every numeral has to be in range, and no more than 127 arrays and objects may be nested.
-/

namespace PropertyCatalog.Document.Json

open Text

/-- What a JSON text says. -/
inductive Syntax where
  /-- The word `null`. -/
  | null
  /-- A truth value. -/
  | boolean (b : Bool)
  /-- A numeral. -/
  | number (n : Numeral)
  /-- A string, with its value if it has one. -/
  | text (value : Option String)
  /-- An array. -/
  | array (items : List Syntax)
  /-- An object, with the value of each key if it has one. -/
  | object (members : List (Option String × Syntax))

namespace Syntax

/-! ## Strings -/

/-- The value of a hexadecimal digit. -/
def hexDigit? (c : Char) : Option Nat :=
  if c.isDigit then some (c.toNat - 48)
  else if 'a' ≤ c ∧ c ≤ 'f' then some (c.toNat - 87)
  else if 'A' ≤ c ∧ c ≤ 'F' then some (c.toNat - 55)
  else none

/-- The number of hexadecimal digits. -/
def ofHexDigits? (cs : List Char) : Option Nat :=
  cs.foldlM (fun n c ↦ (hexDigit? c).map (16 * n + ·)) 0

/-- A piece of a string: a character, or one half of a pair that names a character. -/
inductive Unit16 where
  /-- A character. -/
  | char (c : Char)
  /-- The first half of a pair. -/
  | high (n : Nat)
  /-- The second half of a pair. -/
  | low (n : Nat)

/-- The piece with the given 16-bit number. -/
def Unit16.ofNat (n : Nat) : Unit16 :=
  if 0xd800 ≤ n ∧ n < 0xdc00 then high n
  else if 0xdc00 ≤ n ∧ n < 0xe000 then low n
  else char (Char.ofNat n)

/-- The text of the pieces, if every half stands in a pair. -/
def Unit16.text? : List Unit16 → Option (List Char)
  | [] => some []
  | char c :: rest => (text? rest).map (c :: ·)
  | high m :: low n :: rest =>
    (text? rest).map (Char.ofNat (0x10000 + (m - 0xd800) * 0x400 + (n - 0xdc00)) :: ·)
  | _ => none

/-- Takes what follows a backslash. -/
def escape : Reader Unit16 := do
  match ← Reader.next with
  | '"' => return .char '"'
  | '\\' => return .char '\\'
  | '/' => return .char '/'
  | 'b' => return .char '\x08'
  | 'f' => return .char '\x0c'
  | 'n' => return .char '\n'
  | 'r' => return .char '\r'
  | 't' => return .char '\t'
  | 'u' =>
    let some n := ofHexDigits? (← Reader.takeExactly 4 fun _ ↦ true) | failure
    return .ofNat n
  | _ => failure

/-- Takes a piece of a string, or the quote that ends it. -/
def piece : Reader (Option Unit16) := do
  match ← Reader.next with
  | '"' => return none
  | '\\' => return some (← escape)
  | c =>
    Reader.ensure (' ' ≤ c)
    return some (.char c)

/-- Takes a string behind its opening quote. -/
def string : Reader (Option String) := do
  return (Unit16.text? (← Reader.many piece)).map String.ofList

/-! ## Values -/

def blanks : Reader Unit := do
  let _ ← Reader.takeWhile fun c ↦ c = ' ' || c = '\n' || c = '\t' || c = '\r'

/-- Takes the rest of a list behind one of its items: items behind commas, and the closing. -/
def furtherItems {α : Type} (item : Reader α) (closing : Char) : Reader (List α) :=
  Reader.many do
    blanks
    let c ← Reader.next
    if c = closing then return none
    Reader.ensure (c = ',')
    return some (← item)

/-- Takes a list behind its opening: the closing, or items between commas. -/
def items {α : Type} (item : Reader α) (closing : Char) : Reader (List α) := do
  blanks
  if ← Reader.accept [closing] then return []
  let first ← item
  return first :: (← furtherItems item closing)

def member (value : Reader Syntax) : Reader (Option String × Syntax) := do
  blanks
  Reader.literal ['"']
  let key ← string
  blanks
  Reader.literal [':']
  return (key, ← value)

/-- Takes a value in which at most so many others are nested. -/
def value : Nat → Reader Syntax
  | 0 => failure
  | fuel + 1 => do
    blanks
    match ← Reader.peek with
    | some '\x7b' =>
      let _ ← Reader.next
      return object (← items (member (value fuel)) '\x7d')
    | some '[' =>
      let _ ← Reader.next
      return array (← items (value fuel) ']')
    | some '"' =>
      let _ ← Reader.next
      return text (← string)
    | some 'n' => Reader.literal "null".toList; return null
    | some 't' => Reader.literal "true".toList; return boolean true
    | some 'f' => Reader.literal "false".toList; return boolean false
    | _ => return number (← Numeral.read)

/-- Reads a whole text as one value between white space. -/
def read? (text : String) : Option Syntax :=
  let reader : Reader Syntax := do
    let result ← value (← Reader.bound)
    blanks
    return result
  Reader.whole reader text.toList

/-! ## The tree of a text -/

/-- How many arrays and objects may be nested. -/
def nestingLimit : Nat := 127

mutual

/-- The tree of a value with room for so many levels of nesting. -/
def treeWithin? : Nat → Syntax → Option Tree
  | _, null => some .null
  | _, boolean b => some (.boolean b)
  | _, number n => n.value?.map .number
  | _, text value => value.map .text
  | 0, array _ => none
  | 0, object _ => none
  | room + 1, array items => (treesWithin? room items).map .array
  | room + 1, object members => (membersWithin? room members).map .ofMembers

def treesWithin? : Nat → List Syntax → Option (List Tree)
  | _, [] => some []
  | room, s :: rest => do
    let t ← treeWithin? room s
    return t :: (← treesWithin? room rest)

def membersWithin? : Nat → List (Option String × Syntax) → Option (List (String × Tree))
  | _, [] => some []
  | room, (key, s) :: rest => do
    let k ← key
    let t ← treeWithin? room s
    return (k, t) :: (← membersWithin? room rest)

end

def tree? (s : Syntax) : Option Tree := treeWithin? nestingLimit s

end Syntax

def readTree? (text : String) : Option Tree := Syntax.read? text >>= Syntax.tree?

end PropertyCatalog.Document.Json
