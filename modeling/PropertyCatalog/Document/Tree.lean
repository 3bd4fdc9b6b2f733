import PropertyCatalog.Decimal.Binary64
import PropertyCatalog.TextMap

/-!
# Document trees

What a document says, whatever its format: scalars, arrays, and objects whose members stand in the
order of their keys, each key once.
-/

namespace PropertyCatalog.Document

/-- A number in a document. -/
inductive Number where
  /-- A whole number. -/
  | integer (n : Int)
  /-- A binary floating-point number. -/
  | real (x : Binary64)
deriving DecidableEq

/-- What a document says. -/
inductive Tree where
  /-- Nothing. -/
  | null
  /-- A truth value. -/
  | boolean (b : Bool)
  /-- A number. -/
  | number (n : Number)
  /-- A text. -/
  | text (s : String)
  /-- A sequence. -/
  | array (items : List Tree)
  /-- A mapping from keys. -/
  | object (members : List (String × Tree))

namespace Tree

instance : Inhabited Tree := ⟨null⟩

/-- The object with the given members, of which a later one with the same key wins. -/
def ofMembers (members : List (String × Tree)) : Tree := object (TextMap.ofList members).entries

def ofInt (n : Int) : Tree := number (.integer n)

def ofTexts (texts : List String) : Tree := array (texts.map text)

def member? (key : String) : Tree → Option Tree
  | object members => members.lookup key
  | _ => none

end Tree

end PropertyCatalog.Document
