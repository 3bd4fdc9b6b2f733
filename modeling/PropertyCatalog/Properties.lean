import PropertyCatalog.BoundValue
import PropertyCatalog.Text.Affix

/-!
# Properties text

Bound values as lines `key=value` or `key: value`. Blank lines and lines that begin with `#` or `!`
are comments. A line is cut at its first `=` or `:`; a line without either is a key with an empty
value. Keys and values lose the blanks around them, and a later line with the same key wins.
-/

namespace PropertyCatalog.PropertiesText

open Text

/-- The character ends a key. -/
def endsKey (c : Char) : Bool := c = '=' || c = ':'

/-- The line says nothing. -/
def isComment : List Char → Bool
  | [] => true
  | c :: _ => c = '#' || c = '!'

/-- The key and the value of a line. -/
def entry? (line : List Char) : Option (String × String) :=
  let line := trimmed line
  if isComment line then none else
  let (key, value) := (cut? endsKey line).getD (line, [])
  let key := trimmed key
  if key.isEmpty then none else some (String.ofList key, String.ofList (trimmed value))

/-- The keys and values of a text, line by line. Only a line feed ends a line; a carriage return
before it is a blank. -/
def entries (text : List Char) : List (String × String) :=
  (text.splitOn '\n').filterMap entry?

def read (text : String) : BoundValues :=
  TextMap.ofList ((entries text.toList).map fun (key, value) ↦ (key, .text value))

end PropertyCatalog.PropertiesText
