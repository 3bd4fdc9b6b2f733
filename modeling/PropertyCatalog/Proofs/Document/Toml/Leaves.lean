import PropertyCatalog.Document.Toml.Value
import PropertyCatalog.Proofs.Document.Flatten

/-!
# The leaves of a TOML table

Keys lead down from a TOML value through its tables (`Reaches`); everything else that they reach is
a leaf, also an array, whatever it holds. Turning the value into a document tree keeps what keys
reach (`reaches_tree_iff`), as long as no table has a key twice, and it makes leaves of leaves
(`isLeaf_tree_iff`): no value becomes nothing, and none becomes an object except a table.
-/

namespace PropertyCatalog.Document.Toml

/-! ## Values of parts -/

theorem treesOf_eq (vs : List Value) : treesOf vs = vs.map Value.tree := by
  induction vs with
  | nil => rfl
  | cons v vs ih => rw [treesOf, ih, List.map_cons]

theorem entryTreesOf_eq (es : List (String × Value)) :
    entryTreesOf es = es.map fun e ↦ (e.1, e.2.tree) := by
  induction es with
  | nil => rfl
  | cons e es ih => rw [entryTreesOf, ih, List.map_cons]

theorem areEntriesBounded_iff {es : List (String × Value)} :
    areEntriesBounded es = true ↔ ∀ e ∈ es, e.2.isBounded = true := by
  induction es with
  | nil => exact iff_of_true rfl nofun
  | cons e es ih => rw [areEntriesBounded, Bool.and_eq_true, ih, List.forall_mem_cons]

namespace Value

/-! ## Places -/

def isTable : Value → Bool
  | table _ => true
  | _ => false

theorem exists_eq_table {v : Value} (h : v.isTable = true) : ∃ entries, v = table entries := by
  cases v with
  | table entries => exact ⟨entries, rfl⟩
  | _ => cases h

/-- The keys lead from a value, through tables, to another. -/
inductive Reaches : Value → List String → Value → Prop
  /-- No key leads anywhere else. -/
  | here (v : Value) : Reaches v [] v
  /-- The first key leads to what stands under it. -/
  | through {entries : List (String × Value)} {key : String} {child v : Value}
      {keys : List String} (mem : (key, child) ∈ entries) (rest : Reaches child keys v) :
      Reaches (.table entries) (key :: keys) v

/-- The entries of every table that keys lead to are of some kind. -/
def EveryTable (kind : List (String × Value) → Prop) (v : Value) : Prop :=
  ∀ keys entries, v.Reaches keys (.table entries) → kind entries

/-- No table that keys lead to has a key twice. -/
def HasDistinctKeys (v : Value) : Prop := v.EveryTable fun es ↦ (es.map (·.1)).Nodup

/-- The keys that lead to leaves. -/
def leafPlaces (v : Value) : Set (List String) :=
  {keys | ∃ leaf, v.Reaches keys leaf ∧ leaf.isTable = false}

variable {kind : List (String × Value) → Prop} {entries : List (String × Value)} {v leaf : Value}
  {keys : List String} {t : Tree}

theorem everyTable_of_isTable_eq_false (h : v.isTable = false) : v.EveryTable kind := by
  intro keys entries hreach
  cases hreach <;> cases h

theorem everyTable_table_iff :
    (table entries).EveryTable kind ↔ kind entries ∧ ∀ e ∈ entries, e.2.EveryTable kind := by
  constructor
  · intro h
    refine ⟨h [] entries (.here _), fun e he keys entries' hreach ↦ ?_⟩
    exact h (e.1 :: keys) entries' (.through he hreach)
  · rintro ⟨hhere, hbelow⟩ keys entries' hreach
    cases hreach with
    | here => exact hhere
    | through mem rest => exact hbelow _ mem _ _ rest

theorem Reaches.isBounded (h : v.Reaches keys leaf) (hv : v.isBounded = true) :
    leaf.isBounded = true := by
  induction h with
  | here => exact hv
  | through mem _ ih => exact ih (areEntriesBounded_iff.mp hv _ mem)

theorem Reaches.isSegmentKey (h : v.Reaches keys leaf)
    (hkeys : v.EveryTable (∀ e ∈ ·, IsSegmentKey e.1)) : ∀ key ∈ keys, IsSegmentKey key := by
  induction h with
  | here => exact nofun
  | through mem _ ih =>
    obtain ⟨hentries, hbelow⟩ := everyTable_table_iff.mp hkeys
    exact List.forall_mem_cons.mpr ⟨hentries _ mem, ih (hbelow _ mem)⟩

/-! ## Places of the tree -/

theorem tree_table (entries : List (String × Value)) :
    (table entries).tree = .ofMembers (entries.map fun e ↦ (e.1, e.2.tree)) := by
  rw [tree, entryTreesOf_eq]

theorem isObject_realTree (x : Binary64) : (realTree x).isObject = false := by
  rw [realTree]
  split <;> rfl

theorem isObject_tree (v : Value) : v.tree.isObject = v.isTable := by
  cases v with
  | real x => exact isObject_realTree x
  | _ => rfl

theorem mem_members_tree_iff (hdistinct : (entries.map (·.1)).Nodup) {key : String} {child : Tree} :
    (key, child) ∈ (TextMap.ofList (entries.map fun e ↦ (e.1, e.2.tree))).entries ↔
      ∃ u, (key, u) ∈ entries ∧ u.tree = child := by
  have hkeys : ((entries.map fun e ↦ (e.1, e.2.tree)).map (·.1)).Nodup := by
    rw [List.map_map]
    exact hdistinct
  rw [TextMap.mem_entries_iff, TextMap.get?_ofList_eq_some_iff hkeys, List.mem_map]
  constructor
  · rintro ⟨e, he, heq⟩
    obtain ⟨rfl, rfl⟩ := Prod.mk.inj heq
    exact ⟨e.2, he, rfl⟩
  · rintro ⟨u, hu, rfl⟩
    exact ⟨(key, u), hu, rfl⟩

theorem reaches_tree_iff (hdistinct : v.HasDistinctKeys) :
    v.tree.Reaches keys t ↔ ∃ u, v.Reaches keys u ∧ u.tree = t := by
  induction keys generalizing v with
  | nil =>
    constructor
    · intro h
      exact ⟨v, .here v, h.eq_of_nil⟩
    · rintro ⟨u, h, rfl⟩
      cases h
      exact .here _
  | cons key keys ih =>
    constructor
    · intro h
      obtain ⟨entries, rfl⟩ := exists_eq_table ((isObject_tree v).symm.trans h.isObject_of_cons)
      obtain ⟨hentries, hbelow⟩ := everyTable_table_iff.mp hdistinct
      rw [tree_table, Tree.ofMembers] at h
      cases h with
      | through mem rest =>
        obtain ⟨child, hchild, rfl⟩ := (mem_members_tree_iff hentries).mp mem
        obtain ⟨u, hu, rfl⟩ := (ih (hbelow _ hchild)).mp rest
        exact ⟨u, .through hchild hu, rfl⟩
    · rintro ⟨u, h, rfl⟩
      cases h with
      | through mem rest =>
        obtain ⟨hentries, hbelow⟩ := everyTable_table_iff.mp hdistinct
        rw [tree_table]
        exact .through ((mem_members_tree_iff hentries).mpr ⟨_, mem, rfl⟩)
          ((ih (hbelow _ mem)).mpr ⟨u, rest, rfl⟩)

/-- Objects of the tree come from tables, so their members have the keys of the entries, in
order. -/
theorem everyObject_tree {kind : List (String × Tree) → Prop}
    (hdistinct : v.HasDistinctKeys)
    (h : v.EveryTable fun es ↦ kind (TextMap.ofList (es.map fun e ↦ (e.1, e.2.tree))).entries) :
    v.tree.EveryObject kind := by
  intro keys members hreach
  obtain ⟨u, hu, htree⟩ := (reaches_tree_iff hdistinct).mp hreach
  have htable : u.isTable = true := by rw [← isObject_tree, htree]; rfl
  obtain ⟨entries, rfl⟩ := exists_eq_table htable
  rw [tree_table] at htree
  cases htree
  exact h keys entries hu

theorem pairwise_members_tree (hdistinct : v.HasDistinctKeys) :
    v.tree.EveryObject (·.Pairwise (·.1 < ·.1)) :=
  everyObject_tree hdistinct fun _ _ _ ↦ TextMap.increasing _

theorem isSegmentKey_members_tree (hdistinct : v.HasDistinctKeys)
    (hkeys : v.EveryTable (∀ e ∈ ·, IsSegmentKey e.1)) :
    v.tree.EveryObject (∀ m ∈ ·, IsSegmentKey m.1) := by
  refine everyObject_tree hdistinct fun keys entries hreach m hm ↦ ?_
  obtain ⟨u, hu, -⟩ := (mem_members_tree_iff (hdistinct keys entries hreach)).mp hm
  exact hkeys keys entries hreach _ hu

/-! ## Leaves of the tree -/

/-- Whatever is not a table becomes a leaf, and never nothing. -/
theorem isLeaf_tree_iff : v.tree.IsLeaf ↔ v.isTable = false := by
  constructor
  · intro h
    rw [← isObject_tree]
    exact Tree.isObject_of_isLeaf h
  · intro h
    cases v with
    | text s => exact .text s
    | integer n => exact .number _
    | real x =>
      rw [tree, realTree]
      split
      · exact .number _
      · exact .text _
    | boolean b => exact .boolean b
    | moment m => exact .text _
    | array items => exact .array _
    | table entries => cases h

theorem leafPlaces_tree (hdistinct : v.HasDistinctKeys) :
    v.tree.leafPlaces = v.leafPlaces := by
  ext keys
  constructor
  · rintro ⟨t, hreach, hleaf⟩
    obtain ⟨u, hu, rfl⟩ := (reaches_tree_iff hdistinct).mp hreach
    exact ⟨u, hu, isLeaf_tree_iff.mp hleaf⟩
  · rintro ⟨u, hu, hleaf⟩
    exact ⟨u.tree, (reaches_tree_iff hdistinct).mpr ⟨u, hu, rfl⟩, isLeaf_tree_iff.mpr hleaf⟩

end Value

end PropertyCatalog.Document.Toml
