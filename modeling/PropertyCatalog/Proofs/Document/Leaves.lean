import Mathlib.Data.List.Basic
import PropertyCatalog.Proofs.Document.KeyPath

/-!
# The leaves of a document

Keys lead down from a tree through its objects (`Reaches`), and where no object is reached they can
lead no further. This says nothing about an order or about a walk. The walk of a tree notes the keys
on its way (`keyedLeaves`): it meets what keys lead to, each place once (`mem_keyedLeaves_iff`), and
if the members of objects are in the order of their keys, it meets the places in that order
(`pairwise_keyedLeaves`). The paths in the leaves of a tree are those of the noted keys
(`leaves_eq`).

All inductions go down through objects only: an array is a leaf, whatever it holds
(`induction_on_objects`).
-/

namespace PropertyCatalog.Document.Tree

/-! ## Leaves -/

def isObject : Tree → Bool
  | object _ => true
  | _ => false

/-- What a tree can bind as a leaf: a scalar that is not nothing, or a sequence. -/
inductive IsLeaf : Tree → Prop
  /-- A truth value. -/
  | boolean (b : Bool) : IsLeaf (.boolean b)
  /-- A number. -/
  | number (n : Number) : IsLeaf (.number n)
  /-- A text. -/
  | text (s : String) : IsLeaf (.text s)
  /-- A sequence. -/
  | array (items : List Tree) : IsLeaf (.array items)

theorem exists_leafValue?_iff {t : Tree} : (∃ value, t.leafValue? = some value) ↔ t.IsLeaf := by
  constructor
  · rintro ⟨value, h⟩
    cases t with
    | null | object => cases h
    | boolean b => exact .boolean b
    | number n => exact .number n
    | text s => exact .text s
    | array items => exact .array items
  · rintro (b | n | s | items) <;> exact ⟨_, rfl⟩

theorem isObject_of_isLeaf {t : Tree} (h : t.IsLeaf) : t.isObject = false := by
  cases h <;> rfl

/-- Induction down through objects: what holds of an object if it holds of its members, and of all
other trees, holds of every tree. -/
theorem induction_on_objects {motive : Tree → Prop}
    (object : ∀ members, (∀ m ∈ members, motive m.2) → motive (.object members))
    (other : ∀ t, t.isObject = false → motive t) (t : Tree) : motive t :=
  @Tree.rec motive (fun _ ↦ True) (fun members ↦ ∀ m ∈ members, motive m.2) (fun m ↦ motive m.2)
    (other .null rfl) (fun b ↦ other (.boolean b) rfl) (fun n ↦ other (.number n) rfl)
    (fun s ↦ other (.text s) rfl) (fun items _ ↦ other (.array items) rfl) object
    trivial (fun _ _ _ _ ↦ trivial)
    nofun (fun _ _ hm hms ↦ List.forall_mem_cons.mpr ⟨hm, hms⟩) (fun _ _ ht ↦ ht) t

/-! ## Places -/

/-- The keys lead from a tree, through objects, to another. -/
inductive Reaches : Tree → List String → Tree → Prop
  /-- No key leads anywhere else. -/
  | here (t : Tree) : Reaches t [] t
  /-- The first key leads to a member. -/
  | through {members : List (String × Tree)} {key : String} {child t : Tree} {keys : List String}
      (mem : (key, child) ∈ members) (rest : Reaches child keys t) :
      Reaches (.object members) (key :: keys) t

/-- The members of every object that keys lead to are of some kind. -/
def EveryObject (kind : List (String × Tree) → Prop) (t : Tree) : Prop :=
  ∀ keys members, t.Reaches keys (.object members) → kind members

variable {kind : List (String × Tree) → Prop} {t u leaf : Tree} {keys : List String}

theorem Reaches.eq_of_nil (h : t.Reaches [] u) : t = u := by
  cases h
  rfl

theorem Reaches.isObject_of_cons {key : String} (h : t.Reaches (key :: keys) u) :
    t.isObject = true := by
  cases h
  rfl

theorem everyObject_of_isObject_eq_false (h : t.isObject = false) : t.EveryObject kind := by
  intro keys members hreach
  cases hreach <;> cases h

theorem everyObject_object_iff {members : List (String × Tree)} :
    (object members).EveryObject kind ↔
      kind members ∧ ∀ m ∈ members, m.2.EveryObject kind := by
  constructor
  · intro h
    refine ⟨h [] members (.here _), fun m hm keys members' hreach ↦ ?_⟩
    exact h (m.1 :: keys) members' (.through hm hreach)
  · rintro ⟨hhere, hbelow⟩ keys members' hreach
    cases hreach with
    | here => exact hhere
    | through mem rest => exact hbelow _ mem _ _ rest

theorem Reaches.unique (hsorted : t.EveryObject (·.Pairwise (·.1 < ·.1))) (h : t.Reaches keys u)
    (h' : t.Reaches keys leaf) : u = leaf := by
  induction h with
  | here => cases h'; rfl
  | @through members key child _ _ mem _ ih =>
    obtain ⟨hmembers, hbelow⟩ := everyObject_object_iff.mp hsorted
    cases h' with
    | @through _ _ child' _ _ mem' rest' =>
      have hget := TextMap.mem_entries_iff (m := ⟨members, hmembers⟩).mp mem
      have hget' := TextMap.mem_entries_iff (m := ⟨members, hmembers⟩).mp mem'
      obtain rfl : child' = child := Option.some.inj (hget'.symm.trans hget)
      exact ih (hbelow _ mem) rest'

theorem Reaches.isSegmentKey (hkeys : t.EveryObject (∀ m ∈ ·, IsSegmentKey m.1))
    (h : t.Reaches keys u) : ∀ key ∈ keys, IsSegmentKey key := by
  induction h with
  | here => exact nofun
  | through mem _ ih =>
    obtain ⟨hmembers, hbelow⟩ := everyObject_object_iff.mp hkeys
    exact List.forall_mem_cons.mpr ⟨hmembers _ mem, ih (hbelow _ mem)⟩

/-! ## The walk -/

mutual

/-- What is met on a walk through the objects of a tree, with the keys that lead there. -/
def keyedLeaves : Tree → List (List String × Tree)
  | .object members => keyedMemberLeaves members
  | t => [([], t)]

/-- What is met on a walk through members. -/
def keyedMemberLeaves : List (String × Tree) → List (List String × Tree)
  | [] => []
  | (key, t) :: ms => t.keyedLeaves.map (fun l ↦ (key :: l.1, l.2)) ++ keyedMemberLeaves ms

end

theorem keyedLeaves_object (members : List (String × Tree)) :
    (object members).keyedLeaves
      = members.flatMap fun m ↦ m.2.keyedLeaves.map fun l ↦ (m.1 :: l.1, l.2) := by
  rw [keyedLeaves]
  induction members with
  | nil => rfl
  | cons m ms ih => rw [keyedMemberLeaves, ih, List.flatMap_cons]

theorem keyedLeaves_of_isObject_eq_false (h : t.isObject = false) : t.keyedLeaves = [([], t)] := by
  cases t <;> first | rfl | cases h

theorem leavesBeneath_object (path : String) (members : List (String × Tree)) :
    leavesBeneath path (object members)
      = members.flatMap fun m ↦ leavesBeneath (childPath path m.1) m.2 := by
  rw [leavesBeneath]
  induction members with
  | nil => rfl
  | cons m ms ih => rw [memberLeaves, ih, List.flatMap_cons]

theorem leavesBeneath_of_isObject_eq_false (path : String) (h : t.isObject = false) :
    leavesBeneath path t = [(path, t)] := by
  cases t <;> first | rfl | cases h

/-- Flattening walks in the same way, with the path in place of the keys. -/
theorem leavesBeneath_eq (path : String) (t : Tree) :
    leavesBeneath path t = t.keyedLeaves.map fun l ↦ (l.1.foldl childPath path, l.2) := by
  induction t using induction_on_objects generalizing path with
  | object members ih =>
    rw [leavesBeneath_object, keyedLeaves_object, List.map_flatMap]
    refine List.flatMap_congr fun m hm ↦ ?_
    rw [ih m hm, List.map_map]
    rfl
  | other t ht =>
    rw [leavesBeneath_of_isObject_eq_false path ht, keyedLeaves_of_isObject_eq_false ht]
    rfl

theorem leaves_eq (t : Tree) : t.leaves = t.keyedLeaves.map fun l ↦ (joinedPath l.1, l.2) := by
  simp only [leaves, leavesBeneath_eq, foldl_childPath]

/-- The walk meets what keys lead to, unless it is an object. -/
theorem mem_keyedLeaves_iff :
    (keys, leaf) ∈ t.keyedLeaves ↔ t.Reaches keys leaf ∧ leaf.isObject = false := by
  induction t using induction_on_objects generalizing keys with
  | object members ih =>
    rw [keyedLeaves_object, List.mem_flatMap]
    constructor
    · rintro ⟨m, hm, hmem⟩
      obtain ⟨l, hl, heq⟩ := List.mem_map.mp hmem
      cases heq
      obtain ⟨hreach, hleaf⟩ := (ih m hm).mp hl
      exact ⟨.through hm hreach, hleaf⟩
    · rintro ⟨hreach, hleaf⟩
      cases hreach with
      | here => cases hleaf
      | @through _ key child _ rest mem hrest =>
        exact ⟨_, mem, List.mem_map.mpr ⟨_, (ih _ mem).mpr ⟨hrest, hleaf⟩, rfl⟩⟩
  | other t ht =>
    rw [keyedLeaves_of_isObject_eq_false ht, List.mem_singleton, Prod.mk.injEq]
    constructor
    · rintro ⟨rfl, rfl⟩
      exact ⟨.here _, ht⟩
    · rintro ⟨hreach, -⟩
      cases hreach with
      | here => exact ⟨rfl, rfl⟩
      | through => cases ht

theorem pairwise_keyedLeaves (hsorted : t.EveryObject (·.Pairwise (·.1 < ·.1))) :
    t.keyedLeaves.Pairwise (ComesBefore ·.1 ·.1) := by
  induction t using induction_on_objects with
  | object members ih =>
    obtain ⟨hmembers, hbelow⟩ := everyObject_object_iff.mp hsorted
    rw [keyedLeaves_object, List.pairwise_flatMap]
    constructor
    · intro m hm
      exact List.pairwise_map.mpr ((ih m hm (hbelow m hm)).imp (.agree m.1))
    · refine hmembers.imp fun {m n} hlt ↦ ?_
      simp only [List.forall_mem_map]
      exact fun _ _ _ _ ↦ .part hlt _ _
  | other t ht =>
    rw [keyedLeaves_of_isObject_eq_false ht]
    exact List.pairwise_singleton _ _

end PropertyCatalog.Document.Tree
