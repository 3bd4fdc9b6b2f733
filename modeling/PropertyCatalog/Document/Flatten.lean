import PropertyCatalog.BoundValue
import PropertyCatalog.Document.Json.Printer
import PropertyCatalog.Text.Numeral

/-!
# Flattening documents

A document tree binds values to paths: each leaf is bound at the keys that lead to it, with dots
between them. An array is a leaf, bound as text with commas between its items. Nothing binds nothing,
and neither does a leaf without a path. Where two leaves have one path, the later one wins.
-/

namespace PropertyCatalog.Document

/-- The value of a number: an integer of 64 bits, or its text. -/
def Number.boundValue : Number → BoundValue
  | .integer n => (Text.int64? n).elim (.text (Json.writeNumber (.integer n))) .integer
  | .real x => .text (Json.writeNumber (.real x))

/-- An item of an array as text: a text as it is, and anything else as JSON. -/
def itemText : Tree → String
  | .text s => s
  | t => Json.writeCompact t

/-- The items of an array as one text. -/
def joined (items : List Tree) : String := ",".intercalate (items.map itemText)

/-- The path of a key beneath a path; an empty path adds nothing. -/
def childPath (path key : String) : String := if path = "" then key else path ++ "." ++ key

namespace Tree

/-- The value that a tree binds as a leaf, if it is one. -/
def leafValue? : Tree → Option BoundValue
  | .null | .object _ => none
  | .boolean b => some (.boolean b)
  | .number n => some n.boundValue
  | .text s => some (.text s)
  | .array items => some (.text (joined items))

mutual

/-- The leaves of a tree with their paths, in depth-first order, beneath a path. -/
def leavesBeneath (path : String) : Tree → List (String × Tree)
  | .object members => memberLeaves path members
  | t => [(path, t)]

def memberLeaves (path : String) : List (String × Tree) → List (String × Tree)
  | [] => []
  | (key, t) :: ms => leavesBeneath (childPath path key) t ++ memberLeaves path ms

end

/-- The leaves of a tree with their paths, in depth-first order. -/
def leaves (t : Tree) : List (String × Tree) := leavesBeneath "" t

/-- What the leaves bind, in depth-first order. -/
def bindings (t : Tree) : List (String × BoundValue) :=
  t.leaves.filterMap fun (path, leaf) ↦
    if path = "" then none else leaf.leafValue?.map (path, ·)

/-- The values that a tree binds. -/
def flatten (t : Tree) : BoundValues := TextMap.ofList t.bindings

end Tree

end PropertyCatalog.Document
