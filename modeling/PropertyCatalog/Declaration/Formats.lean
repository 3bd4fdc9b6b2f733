import PropertyCatalog.Declaration.Tree
import PropertyCatalog.Document.Json.Syntax
import PropertyCatalog.Document.Toml.Statement
import PropertyCatalog.Document.Yaml.Reading

/-!
# Declarations in three formats

What the nodes of JSON, TOML and YAML texts answer when declarations are read from them. What is not
asked for may be anything that the format can write, so the texts are not turned into document trees
first: a number out of range or a string without a value does no harm in a part that does not count.
-/

namespace PropertyCatalog.Declaration

open PropertyCatalog.Document

/-! ## JSON -/

/-- The members with the values of their keys, if every key has one. -/
def jsonMembers? (members : List (Option String × Json.Syntax)) :
    Option (List (String × Json.Syntax)) :=
  members.mapM fun (key, s) ↦ key.map (·, s)

instance : Source Json.Syntax where
  text?
    | .text value => value
    | _ => none
  flag?
    | .boolean b => some b
    | _ => none
  present?
    | .null => some none
    | s => some (some s)
  items?
    | .array items => some items
    | _ => none
  parts?
    | .object members => (jsonMembers? members).map .named
    | .array items => some (.inOrder items false)
    | _ => none

/-! ## TOML -/

instance : Source Toml.Value where
  text?
    | .text s => some s
    | _ => none
  flag?
    | .boolean b => some b
    | _ => none
  present? v := some (some v)
  items?
    | .array items => some items
    | _ => none
  parts?
    | .table entries => some (.named entries)
    | .array items => some (.inOrder items true)
    | _ => none

/-! ## YAML -/

/-- A node with the graph that its references lead into. -/
structure YamlNode where
  /-- The nodes of the document. -/
  graph : Yaml.Graph
  /-- The node. -/
  node : Yaml.Node

namespace YamlNode

/-- The node that a node is or refers to. -/
def target? (n : YamlNode) : Option Yaml.Node := n.graph.target? n.node

/-- Another node of the same document. -/
def within (n : YamlNode) (inner : Yaml.Node) : YamlNode := ⟨n.graph, inner⟩

/-- The text of a scalar, however it looks. -/
def text? (n : YamlNode) : Option String :=
  match n.target? with
  | some (.scalar _ _ text) => some text
  | _ => none

/-- The truth value of a plain scalar, or of a block with the tag of truth values. -/
def flag? (n : YamlNode) : Option Bool :=
  match n.target? with
  | some (.scalar tag style text) =>
    if style = .plain ∨ style = .literal ∧ tag = some (Yaml.languageTag "bool") then
      Yaml.boolean? text
    else none
  | _ => none

/-- The node, unless it is a plain scalar that looks like nothing or is tagged as a null. -/
def present? (n : YamlNode) : Option (Option YamlNode) :=
  match n.target? with
  | some (.scalar tag .plain text) =>
    match tag with
    | none => some (if text.isEmpty || Yaml.looksNull text then none else some n)
    | some tag =>
      if tag ≠ Yaml.languageTag "null" then some (some n)
      else if Yaml.looksNull text then some none
      else none
  | some _ => some (some n)
  | none => none

/-- The items of a sequence; a plain scalar without text has none. -/
def items? (n : YamlNode) : Option (List YamlNode) :=
  match n.target? with
  | some (.sequence _ items) => some (items.map n.within)
  | some (.scalar _ .plain "") => some []
  | _ => none

/-- The parts that a mapping names, or the items of a sequence in order; a plain scalar without text
names none. -/
def parts? (n : YamlNode) : Option (Parts YamlNode) :=
  match n.target? with
  | some (.mapping _ pairs) =>
    (pairs.mapM fun (k, v) ↦ (n.within k).text?.map (·, n.within v)).map .named
  | some (.sequence _ items) => some (.inOrder (items.map n.within) false)
  | some (.scalar _ .plain "") => some (.named [])
  | _ => none

end YamlNode

instance : Source YamlNode where
  text? := YamlNode.text?
  flag? := YamlNode.flag?
  present? := YamlNode.present?
  items? := YamlNode.items?
  parts? := YamlNode.parts?

/-! ## Documents -/

def Document.ofJson? (text : String) : Option Document := Json.Syntax.read? text >>= Document.read?

def Document.ofToml? (text : String) : Option Document := Toml.readTable? text >>= Document.read?

def Document.ofYaml? (text : String) : Option Document := do
  let graph ← Yaml.readGraph? text
  Document.read? (YamlNode.mk graph graph.root)

end PropertyCatalog.Declaration
