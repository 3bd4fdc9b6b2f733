import PropertyCatalog.Declaration.Tree

/-!
# Declarations survive being written and read

A written record is an object whose members are the parts that say something. Under the name of a
part a reader finds what was written there, or nothing if the part was left out (`part?_ofList`),
whatever else the record holds. So each kind of part is read back by itself (`optional_map`,
`listed_array`, `listed_texts`), and a record is read back part by part: fields first, then groups,
then documents.

Reading a written document gives the document, so what a tree is written back as does not change
when it is read and written again.
-/

namespace PropertyCatalog.Declaration

open PropertyCatalog.Document Source

/-! ## Parts of a written record -/

/-- An object never has more parts than a record takes. -/
theorem record?_ofMembers (count : Nat) (members : List (String × Tree)) :
    record? count (Tree.ofMembers members) = some (.named (TextMap.ofList members).entries) := rfl

/-- A reader finds the member with the name of the part, wherever it stands. -/
theorem part?_ofList (position : Nat) (name : String) (members : List (String × Tree)) :
    (Parts.named (TextMap.ofList members).entries).part? position name
      = some ((TextMap.ofList members).get? name) := by
  rw [Parts.part?, TextMap.filter_entries]
  cases (TextMap.ofList members).get? name <;> rfl

/-- A part that says something stands under its name and nowhere else. -/
theorem get?_ofList_writtenPart {α : Type} (name : String) (write : α → Tree) (part : Option α)
    (key : String) :
    (TextMap.ofList (writtenPart name write part)).get? key
      = if key = name then part.map write else none := by
  cases part with
  | none => exact (ite_self none).symm
  | some a =>
    rw [writtenPart, TextMap.get?_ofList_cons, TextMap.get?_ofList_nil, Option.none_or]
    rfl

theorem get?_ofList_members (texts : List String) (key : String) :
    (TextMap.ofList (if texts.isEmpty then [] else [("values", Tree.ofTexts texts)])).get? key
      = if key = "values" then if texts.isEmpty then none else some (Tree.ofTexts texts)
        else none := by
  cases texts with
  | nil => exact (ite_self none).symm
  | cons t ts => exact get?_ofList_writtenPart "values" Tree.ofTexts (some (t :: ts)) key

/-! ## Reading parts back -/

section Parts

variable {α : Type} {read : Tree → Option α} (write : α → Tree)

theorem optional_map (hread : ∀ a, read (write a) = some a)
    (hpresent : ∀ a, present? (write a) = some (some (write a))) (part : Option α) :
    optional read (part.map write) = some part := by
  cases part with
  | none => rfl
  | some a =>
    rw [Option.map_some, optional, hpresent]
    exact congrArg (Option.map some) (hread a)

theorem optional_map_text (part : Option String) :
    optional text? (part.map Tree.text) = some part :=
  optional_map Tree.text (fun _ ↦ rfl) (fun _ ↦ rfl) part

theorem optional_map_boolean (part : Option Bool) :
    optional flag? (part.map Tree.boolean) = some part :=
  optional_map Tree.boolean (fun _ ↦ rfl) (fun _ ↦ rfl) part

theorem mapM_map (hread : ∀ a, read (write a) = some a) (as : List α) :
    (as.map write).mapM read = some as := by
  have hcomp : read ∘ write = fun a ↦ pure a := funext hread
  rw [List.mapM_map, hcomp, List.mapM_pure, List.map_id']
  rfl

theorem listed_array (hread : ∀ a, read (write a) = some a) (as : List α) :
    listed read (some (.array (as.map write))) = some as := mapM_map write hread as

theorem listed_texts (texts : List String) :
    listed text? (if texts.isEmpty then none else some (Tree.ofTexts texts)) = some texts := by
  cases texts with
  | nil => rfl
  | cons t ts => exact listed_array Tree.text (fun _ ↦ rfl) (t :: ts)

end Parts

/-! ## Records -/

/-- What stands under a name in a written field. -/
def Field.written (f : Field) : String → Option Tree
  | "name" => some (.text f.name)
  | "type" => some (.text f.declaredType)
  | "label" => f.label.map .text
  | "required" => f.required.map .boolean
  | "default" => f.defaultText.map .text
  | "values" => if f.members.isEmpty then none else some (.ofTexts f.members)
  | _ => none

/-- What stands under a name in a written group. -/
def Group.written (g : Group) : String → Option Tree
  | "prefix" => some (.text g.root)
  | "description" => g.description.map .text
  | "fields" => some (.array (g.fields.map (·.tree)))
  | _ => none

theorem Field.exists_record?_tree (f : Field) :
    ∃ parts, record? 6 f.tree = some parts ∧
      ∀ position name, parts.part? position name = some (f.written name) := by
  refine ⟨_, record?_ofMembers _ _, fun position name ↦ ?_⟩
  rw [part?_ofList, Option.some_inj]
  simp only [TextMap.get?_ofList_append, TextMap.get?_ofList_cons, TextMap.get?_ofList_nil,
    get?_ofList_writtenPart, get?_ofList_members]
  -- one case for each name that a part has, and one for all others
  fun_cases Field.written f name <;> simp_all

theorem Group.exists_record?_tree (g : Group) :
    ∃ parts, record? 3 g.tree = some parts ∧
      ∀ position name, parts.part? position name = some (g.written name) := by
  refine ⟨_, record?_ofMembers _ _, fun position name ↦ ?_⟩
  rw [part?_ofList, Option.some_inj]
  simp only [TextMap.get?_ofList_append, TextMap.get?_ofList_cons, TextMap.get?_ofList_nil,
    get?_ofList_writtenPart]
  fun_cases Group.written g name <;> simp_all

theorem Field.read?_tree (f : Field) : Field.read? f.tree = some f := by
  obtain ⟨parts, hparts, hpart⟩ := f.exists_record?_tree
  simp only [Field.read?, hparts, Option.bind_eq_bind, Option.bind_some, hpart, written,
    optional_map_text, optional_map_boolean, listed_texts]
  rfl

theorem Group.read?_tree (g : Group) : Group.read? g.tree = some g := by
  obtain ⟨parts, hparts, hpart⟩ := g.exists_record?_tree
  simp only [Group.read?, hparts, Option.bind_eq_bind, Option.bind_some, hpart, written,
    optional_map_text, listed_array Field.tree Field.read?_tree]
  rfl

/-! ## Documents -/

theorem Document.read?_tree (d : Document) : Document.read? d.tree = some d := by
  have hgroups : groupsOf? (Tree.array (d.groups.map (·.tree))) = some d.groups :=
    mapM_map Group.tree Group.read?_tree d.groups
  rw [Document.read?, Document.tree, record?_ofMembers]
  simp only [Option.bind_eq_bind, Option.bind_some, part?_ofList, TextMap.get?_ofList_cons,
    TextMap.get?_ofList_nil, Option.none_or, if_true, needed, hgroups]
  rfl

/-- What a tree is written back as, if it stands for a document. -/
def rewritten? (t : Tree) : Option Tree := (Document.read? t).map (·.tree)

/-- **Documents survive being written and read.** The tree of a document stands for that document.
So what a tree is written back as stands for what the tree stands for, and is written back as
itself. -/
theorem Document.read?_tree_stable :
    (∀ d : Document, Document.read? d.tree = some d) ∧
      ∀ t : Tree, rewritten? t >>= Document.read? = Document.read? t ∧
        rewritten? t >>= rewritten? = rewritten? t := by
  refine ⟨Document.read?_tree, fun t ↦ ?_⟩
  rw [rewritten?]
  cases Document.read? t with
  | none => exact ⟨rfl, rfl⟩
  | some d =>
    have hagain : rewritten? d.tree = some d.tree :=
      congrArg (Option.map Document.tree) d.read?_tree
    exact ⟨d.read?_tree, hagain⟩

/-- A field that is given in order is written back by names, without the parts that say nothing. -/
example :
    rewritten? (.array [.array [.array [.text "a", .null, .array [.array
      [.text "b", .text "int", .null, .boolean true]]]]])
      = some (.object [("groups", .array [.object [("fields", .array [.object
          [("name", .text "b"), ("required", .boolean true), ("type", .text "int")]]),
          ("prefix", .text "a")]])]) := rfl

end PropertyCatalog.Declaration
