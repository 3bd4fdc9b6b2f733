import PropertyCatalog.Declaration

/-!
# Reading declarations from documents

A declaration is read from a node of some document by asking the node for what the declaration needs:
a text, a truth value, a list, or the parts of a record. Formats differ in what they answer, and
nothing else about them matters here, so there is one reader for all of them.

The parts of a record are either named, in any order and with others among them that do not count, or
they stand in the order of declaration. A part that may be missing is missing there only at the end.
A part must not be named twice.
-/

namespace PropertyCatalog.Declaration

/-! ## Nodes -/

/-- The parts of a record. -/
inductive Parts (ν : Type) where
  /-- Each part with its name. -/
  | named (members : List (String × ν))
  /-- The parts in the order of declaration; the flag says whether more than there are parts may be
  given. -/
  | inOrder (items : List ν) (surplus : Bool)

/-- What a node of a document answers to a reader of declarations. -/
class Source (ν : Type) where
  /-- The text that the node stands for. -/
  text? : ν → Option String
  /-- The truth value that the node stands for. -/
  flag? : ν → Option Bool
  /-- The node itself, or `none` inside if it stands for nothing. -/
  present? : ν → Option (Option ν)
  /-- The items of the list that the node stands for. -/
  items? : ν → Option (List ν)
  /-- The parts of the record that the node stands for. -/
  parts? : ν → Option (Parts ν)

namespace Parts

variable {ν : Type}

/-- No more parts are given in order than there are. -/
def fits (count : Nat) : Parts ν → Bool
  | named _ => true
  | inOrder items surplus => surplus || items.length ≤ count

/-- The part with the given name, which is the one at the given position; `none` inside if it is
missing. A part that is named twice has no reading. -/
def part? (position : Nat) (name : String) : Parts ν → Option (Option ν)
  | named members =>
    match members.filter (·.1 = name) with
    | [] => some none
    | [member] => some (some member.2)
    | _ => none
  | inOrder items _ => some items[position]?

end Parts

/-! ## Records -/

variable {ν : Type} [Source ν]

open Source Parts

/-- A part that must not be missing. -/
def needed {α : Type} (read : ν → Option α) (part : Option ν) : Option α := part >>= read

/-- A part that may be missing or stand for nothing. -/
def optional {α : Type} (read : ν → Option α) : Option ν → Option (Option α)
  | none => some none
  | some n =>
    match present? n with
    | none => none
    | some none => some none
    | some (some n) => (read n).map some

/-- A list, which is empty if it is missing. -/
def listed {α : Type} (read : ν → Option α) : Option ν → Option (List α)
  | none => some []
  | some n => items? n >>= (·.mapM read)

/-- The parts of a record that has so many. -/
def record? (count : Nat) (n : ν) : Option (Parts ν) := (parts? n).filter (·.fits count)

def Field.read? (n : ν) : Option Field := do
  let parts ← record? 6 n
  let name ← parts.part? 0 "name" >>= needed text?
  let declaredType ← parts.part? 1 "type" >>= needed text?
  let label ← parts.part? 2 "label" >>= optional text?
  let required ← parts.part? 3 "required" >>= optional flag?
  let defaultText ← parts.part? 4 "default" >>= optional text?
  let members ← parts.part? 5 "values" >>= listed text?
  return { name, declaredType, label, required, defaultText, members }

def Group.read? (n : ν) : Option Group := do
  let parts ← record? 3 n
  let root ← parts.part? 0 "prefix" >>= needed text?
  let description ← parts.part? 1 "description" >>= optional text?
  let fields ← parts.part? 2 "fields" >>= listed Field.read?
  return { root, description, fields }

/-- The list of groups that a node stands for. -/
def groupsOf? (n : ν) : Option (List Group) := items? n >>= (·.mapM Group.read?)

def Document.read? (n : ν) : Option Document := do
  let parts ← record? 1 n
  let groups ← parts.part? 0 "groups" >>= needed groupsOf?
  return { groups }

end PropertyCatalog.Declaration
