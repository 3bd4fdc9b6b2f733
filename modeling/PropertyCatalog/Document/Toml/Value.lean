import PropertyCatalog.Decimal.Layout
import PropertyCatalog.Document.Toml.Moment
import PropertyCatalog.Document.Tree
import PropertyCatalog.Text.Numeral

/-!
# TOML values

What a TOML document holds. As a document tree it keeps every value: what is no number, such as an
infinity or a date, becomes its text. Integers have to fit into 64 bits there.
-/

namespace PropertyCatalog.Document.Toml

/-- A value of a TOML document. -/
inductive Value where
  /-- A text. -/
  | text (s : String)
  /-- An integer. -/
  | integer (n : Int)
  /-- A floating-point number. -/
  | real (x : Binary64)
  /-- A truth value. -/
  | boolean (b : Bool)
  /-- A date, a time, or both. -/
  | moment (m : Moment)
  /-- A sequence. -/
  | array (items : List Value)
  /-- A table. -/
  | table (entries : List (String × Value))

/-- How numbers that are bound as text are written. -/
def realLayout : Decimal.Layout := ⟨-5, 15⟩

/-- A floating-point number in a tree: a number if it is finite, else its name. -/
def realTree (x : Binary64) : Tree :=
  if x.isFinite then .number (.real x) else .text (x.write realLayout)

mutual

/-- Every integer in the value fits into 64 bits. -/
def Value.isBounded : Value → Bool
  | .integer n => (PropertyCatalog.Text.int64? n).isSome
  | .array items => areBounded items
  | .table entries => areEntriesBounded entries
  | _ => true

def areBounded : List Value → Bool
  | [] => true
  | v :: vs => v.isBounded && areBounded vs

def areEntriesBounded : List (String × Value) → Bool
  | [] => true
  | (_, v) :: es => v.isBounded && areEntriesBounded es

end

mutual

def Value.tree : Value → Tree
  | .text s => .text s
  | .integer n => .ofInt n
  | .real x => realTree x
  | .boolean b => .boolean b
  | .moment m => .text m.write
  | .array items => .array (treesOf items)
  | .table entries => .ofMembers (entryTreesOf entries)

def treesOf : List Value → List Tree
  | [] => []
  | v :: vs => v.tree :: treesOf vs

def entryTreesOf : List (String × Value) → List (String × Tree)
  | [] => []
  | (key, v) :: es => (key, v.tree) :: entryTreesOf es

end

end PropertyCatalog.Document.Toml
