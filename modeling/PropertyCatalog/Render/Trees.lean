import PropertyCatalog.Catalog
import PropertyCatalog.Document.Tree
import PropertyCatalog.Validation

/-!
# Properties, values and issues as document trees

How what the library holds is handed to other programs. Parts that say nothing are left out, except for
the label of a property, which is null where there is none.
-/

namespace PropertyCatalog

open Document

/-- A part with its name, if there is one. -/
def optionalPart (name : String) (value : Option String) : List (String × Tree) :=
  value.elim [] fun s ↦ [(name, .text s)]

def Property.tree (p : Property) : Tree :=
  .ofMembers <|
    [("path", .text p.path), ("semantic_type", .text p.semanticType.name),
      ("label", p.label.elim .null .text), ("required", .boolean p.required),
      ("group_prefix", .text p.groupRoot)] ++
      optionalPart "default_value" p.defaultText ++
      (if p.members.isEmpty then [] else [("allowed_values", .ofTexts p.members)]) ++
      optionalPart "group_reference" p.reference

def PropertyGroup.tree (g : PropertyGroup) : Tree :=
  .ofMembers <|
    [("prefix", .text g.root)] ++ optionalPart "description" g.description ++
      [("descriptors", .array (g.properties.map (·.tree)))]

/-- The value as a tree; a duration is its whole milliseconds. -/
def BoundValue.tree : BoundValue → Tree
  | text s => .text s
  | integer n => .ofInt n.toInt
  | boolean b => .boolean b
  | duration d => .ofInt d.millis

def Issue.tree (i : Issue) : Tree :=
  .ofMembers <|
    [("severity", .text i.severity.name), ("kind", .text i.finding.kind)] ++
      optionalPart "expected" (i.finding.expected?.map (·.name)) ++
      [("path", .text i.path), ("detail", .text i.detail)]

end PropertyCatalog
