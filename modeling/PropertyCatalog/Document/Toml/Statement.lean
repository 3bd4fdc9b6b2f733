import PropertyCatalog.Document.Toml.Scalar
import PropertyCatalog.Document.Toml.Table
import PropertyCatalog.Document.Toml.QuotedText

/-!
# Statements of TOML

A TOML document is a list of statements, one a line: a key with its value, the header of a table, or
the header of a table in an array. `readTable?` reads the statements of a text and carries them out.
-/

namespace PropertyCatalog.Document.Toml

open PropertyCatalog.Text

/-- One line of a document. -/
inductive Statement where
  /-- A dotted key with its value. -/
  | pair (path : List String) (v : Value)
  /-- The header of a table. -/
  | header (path : List String)
  /-- The header of a further table in an array. -/
  | arrayHeader (path : List String)

namespace Statement

/-! ## Space -/

def spaces : Reader Unit := do let _ ← Reader.takeWhile QuotedText.isSpace

/-- Takes a comment, if there is one. -/
def comment : Reader Unit := do
  if ← Reader.accept ['#'] then
    let _ ← Reader.takeWhile QuotedText.isPlain

/-- Takes a line break with the spaces and the comment in front of it, if there is one. -/
def emptyLine : Reader (Option Unit) := fun cs ↦
  match (do spaces; comment; QuotedText.lineBreak : Reader Bool) cs with
  | some (true, rest) => some (some (), rest)
  | _ => some (none, cs)

/-- Takes white space between the parts of a value. -/
def gap : Reader Unit := do
  let _ ← Reader.many emptyLine
  spaces

/-! ## Keys -/

def isKeyChar (c : Char) : Bool := c.isAlphanum || c = '-' || c = '_'

def simpleKey : Reader String := do
  match ← Reader.peek with
  | some '"' => QuotedText.short '"'
  | some '\'' => QuotedText.short '\''
  | _ =>
    let cs ← Reader.takeWhile isKeyChar
    Reader.ensure !cs.isEmpty
    return String.ofList cs

/-- Takes a further part of a dotted key, if there is one. -/
def furtherKey : Reader (Option String) := do
  spaces
  if ← Reader.accept ['.'] then
    spaces
    return some (← simpleKey)
  return none

/-- Takes a dotted key with the spaces around it. -/
def path : Reader (List String) := do
  spaces
  let first ← simpleKey
  return first :: (← Reader.many furtherKey)

/-! ## Values -/

/-- Takes the items of a list behind its opening; a comma may stand behind the last one. -/
def items {α : Type} (item : Reader α) (closing : Char) : Reader (List α) := do
  gap
  if ← Reader.accept [closing] then return []
  let first ← item
  gap
  return first :: (← Reader.many do
    if ← Reader.accept [closing] then return none
    Reader.literal [',']
    gap
    if ← Reader.accept [closing] then return none
    let next ← item
    gap
    return some next)

def keyed (value : Reader Value) : Reader (List String × Value) := do
  let keys ← path
  Reader.literal ['=']
  spaces
  return (keys, ← value)

/-- The table of the pairs that are written between braces. -/
def inlineTable? (pairs : List (List String × Value)) : Option Value :=
  (pairs.foldlM (fun (t : Growing) (path, v) ↦ t.bindPath? path v) []).map fun t ↦
    .table (grownEntries t)

/-- How many arrays and tables may be nested in a value. -/
def nestingLimit : Nat := 80

/-- Takes a value with room for so many levels of nesting. -/
def value : Nat → Reader Value
  | 0 => scalar
  | room + 1 => do
    match ← Reader.peek with
    | some '[' =>
      let _ ← Reader.next
      return .array (← items (value room) ']')
    | some '\x7b' =>
      let _ ← Reader.next
      match inlineTable? (← items (keyed (value room)) '\x7d') with
      | some v => return v
      | none => failure
    | _ => scalar
where
  /-- Takes a value without others in it. -/
  scalar : Reader Value := do
    match ← Reader.peek with
    | some '"' => return .text (← QuotedText.quoted '"')
    | some '\'' => return .text (← QuotedText.quoted '\'')
    | _ => Scalar.read

/-! ## Lines -/

/-- Takes a statement. -/
def read : Reader Statement := do
  if ← Reader.accept ['[', '['] then
    let keys ← path
    Reader.literal [']', ']']
    return .arrayHeader keys
  if ← Reader.accept ['['] then
    let keys ← path
    Reader.literal [']']
    return .header keys
  let (keys, v) ← keyed (value nestingLimit)
  return .pair keys v

/-- Takes a line: the statement on it, if there is one, or the end of the text. -/
def line : Reader (Option (Option Statement)) := do
  spaces
  match ← Reader.peek with
  | none => return none
  | some c =>
    let statement ← if c = '#' ∨ c = '\n' ∨ c = '\r' then pure none else some <$> read
    spaces
    comment
    if (← Reader.peek).isSome then Reader.ensure (← QuotedText.lineBreak)
    return some statement

/-- The statements of a text, which may begin with a byte order mark. -/
def readAll? (text : String) : Option (List Statement) :=
  let cs := match text.toList with
    | '\ufeff' :: cs => cs
    | cs => cs
  (Reader.whole (Reader.many line) cs).map (·.filterMap id)

end Statement

/-! ## Carrying out statements -/

/-- A document while its statements are carried out. -/
structure Draft where
  /-- The table of the whole document. -/
  root : Growing := []
  /-- The path of the header that the last one was. -/
  current : List String := []

/-- Carries out a statement. -/
def Draft.apply? (d : Draft) : Statement → Option Draft
  | .pair path v =>
    (Growing.within? (·.bindPath? path v) d.current d.root).map fun root ↦ { d with root }
  | .header path =>
    (Growing.atParent? Growing.open? path d.root).map fun root ↦ ⟨root, path⟩
  | .arrayHeader path =>
    (Growing.atParent? Growing.append? path d.root).map fun root ↦ ⟨root, path⟩

def readTable? (text : String) : Option Value := do
  let draft ← (← Statement.readAll? text).foldlM Draft.apply? {}
  return .table (grownEntries draft.root)

def readTree? (text : String) : Option Tree := do
  let table ← readTable? text
  if table.isBounded then some table.tree else none

end PropertyCatalog.Document.Toml
