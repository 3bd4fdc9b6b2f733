import PropertyCatalog.Document.Yaml.Resolution

/-!
# Trees of YAML documents

The tree of a document, in which every reference is replaced by what it refers to. The number of
references that may be followed grows with the document, and so does not allow a small text to stand
for a huge tree; and collections may be nested only so deep, which also ends what refers to itself.
-/

namespace PropertyCatalog.Document.Yaml

/-! ## Size -/

mutual

/-- How many marks a node makes: one for a scalar or a reference, and two for a collection besides
those in it. -/
def Node.marks : Node → Nat
  | .scalar .. => 1
  | .alias _ => 1
  | .sequence _ items => 2 + itemMarks items
  | .mapping _ pairs => 2 + pairMarks pairs

def itemMarks : List Node → Nat
  | [] => 0
  | n :: ns => n.marks + itemMarks ns

def pairMarks : List (Node × Node) → Nat
  | [] => 0
  | (k, v) :: ps => k.marks + v.marks + pairMarks ps

end

/-- How many references may be followed for each mark of a document. -/
def jumpsPerMark : Nat := 100

/-- How many collections may be nested. -/
def nestingLimit : Nat := 128

/-! ## Trees -/

/-- Follows references, of which only so many are left. -/
abbrev Follow (α : Type) := StateT Nat Option α

namespace Graph

def target? (g : Graph) : Node → Option Node
  | .alias number => g.named.lookup number
  | n => some n

/-- The node itself, or the one it refers to. -/
def follow (g : Graph) (n : Node) : Follow Node := do
  match n with
  | .alias _ =>
    match ← get with
    | 0 => failure
    | left + 1 => set left
    match g.target? n with
    | some n => return n
    | none => failure
  | n => return n

def key (g : Graph) (n : Node) : Follow String := do
  match ← g.follow n with
  | .scalar _ _ text => return text
  | _ => failure

/-- The tree of a node with room for so many levels of nesting. -/
def treeWithin (g : Graph) : Nat → Node → Follow Tree
  | 0, n => do
    match ← g.follow n with
    | .scalar tag style text => scalarTree? tag style text
    | _ => failure
  | room + 1, n => do
    match ← g.follow n with
    | .scalar tag style text => scalarTree? tag style text
    | .sequence tag items =>
      if tag.any isLocal then failure
      return .array (← items.mapM (g.treeWithin room))
    | .mapping tag pairs =>
      if tag.any isLocal then failure
      return .ofMembers (← pairs.mapM fun (k, v) ↦ do
        let key ← g.key k
        return (key, ← g.treeWithin room v))
    | .alias _ => failure

def tree? (g : Graph) : Option Tree :=
  ((g.treeWithin nestingLimit g.root).run (g.root.marks * jumpsPerMark)).map (·.1)

end Graph

/-- The nodes of the document of a text. -/
def readGraph? (text : String) : Option Graph := tokens? text.toList >>= Graph.ofTokens?

def readTree? (text : String) : Option Tree := readGraph? text >>= Graph.tree?

end PropertyCatalog.Document.Yaml
