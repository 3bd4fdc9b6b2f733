import PropertyCatalog.Declaration.Reading
import PropertyCatalog.Document.Tree

/-!
# Declarations as document trees

How declarations are written as document trees, and what a tree answers when they are read. Parts that
say nothing are left out: options that are not given, and an empty list of members. The list of fields
is always there.
-/

namespace PropertyCatalog.Declaration

open PropertyCatalog.Document

/-! ## Reading -/

instance : Source Tree where
  text?
    | .text s => some s
    | _ => none
  flag?
    | .boolean b => some b
    | _ => none
  present?
    | .null => some none
    | t => some (some t)
  items?
    | .array items => some items
    | _ => none
  parts?
    | .object members => some (.named members)
    | .array items => some (.inOrder items false)
    | _ => none

/-! ## Writing -/

/-- A part with its name, if it says something. -/
def writtenPart {α : Type} (name : String) (write : α → Tree) : Option α → List (String × Tree)
  | none => []
  | some a => [(name, write a)]

def Field.tree (f : Field) : Tree :=
  .ofMembers <|
    [("name", .text f.name), ("type", .text f.declaredType)] ++
      writtenPart "label" .text f.label ++ writtenPart "required" .boolean f.required ++
      writtenPart "default" .text f.defaultText ++
      (if f.members.isEmpty then [] else [("values", .ofTexts f.members)])

def Group.tree (g : Group) : Tree :=
  .ofMembers <|
    [("prefix", .text g.root)] ++ writtenPart "description" .text g.description ++
      [("fields", .array (g.fields.map (·.tree)))]

def Document.tree (d : Document) : Tree :=
  .ofMembers [("groups", .array (d.groups.map (·.tree)))]

end PropertyCatalog.Declaration
