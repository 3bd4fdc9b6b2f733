import Mathlib.Data.Set.Card
import PropertyCatalog.Proofs.Document.Leaves
import PropertyCatalog.Proofs.TextMap.Writes

/-!
# What flattening binds

A tree binds the paths of its leaves, except the empty path, and where leaves share a path the last
of them decides. Which leaf is the last is said by the order of places alone (`IsLastLeaf`): the
walk is in that order, so what it writes last stands behind all others
(`lastBinds_iff_exists_isLastLeaf`). Where every key is one segment of a path, no leaves share one,
and as many paths are bound as there are leaves below the root (`encard_leafPlaces`).
-/

namespace PropertyCatalog

theorem TextMap.encard_keys {α : Type} (m : TextMap α) :
    {key | ∃ a, m.get? key = some a}.encard = m.size := by
  have hkeys : {key | ∃ a, m.get? key = some a} = ↑m.keys.toFinset := by
    ext key
    rw [List.coe_toFinset]
    exact mem_keys_iff.symm
  have hcard : m.keys.toFinset.card = m.keys.length := List.toFinset_card_of_nodup m.nodup_keys
  rw [hkeys, Set.encard_coe_eq_coe_finsetCard, hcard, keys, List.length_map, size]

namespace Document.Tree

variable {t : Tree} {path : String} {value : BoundValue}

/-! ## What the walk writes -/

/-- What is met on the walk binds a value to a path that is not empty, if it is a leaf there. -/
def LeafBinds (path : String) (l : List String × Tree) (value : BoundValue) : Prop :=
  path ≠ "" ∧ joinedPath l.1 = path ∧ l.2.leafValue? = some value

theorem binding_eq_some_iff {l : List String × Tree} :
    (if joinedPath l.1 = "" then none else l.2.leafValue?.map (joinedPath l.1, ·))
        = some (path, value) ↔ LeafBinds path l value := by
  by_cases hempty : joinedPath l.1 = ""
  · rw [if_pos hempty]
    constructor
    · exact nofun
    · rintro ⟨hne, rfl, -⟩
      exact absurd hempty hne
  · rw [if_neg hempty, Option.map_eq_some_iff]
    constructor
    · rintro ⟨v, hv, heq⟩
      cases heq
      exact ⟨hempty, rfl, hv⟩
    · rintro ⟨-, rfl, hv⟩
      exact ⟨value, hv, rfl⟩

theorem get?_flatten_eq_some_iff_lastBinds :
    t.flatten.get? path = some value ↔ LastBinds (LeafBinds path) t.keyedLeaves value := by
  rw [flatten, TextMap.get?_ofList_eq_some_iff_lastBinds, bindings, leaves_eq, List.filterMap_map,
    lastBinds_filterMap_iff]
  have hsame : List.Forall₂ Eq t.keyedLeaves t.keyedLeaves := List.forall₂_refl _
  refine lastBinds_iff_of_forall₂ hsame fun l _ v heq ↦ ?_
  subst heq
  rw [exists_eq_right, ← binding_eq_some_iff]
  rfl

/-! ## The paths that are bound -/

/-- The keys that lead to leaves. -/
def leafPlaces (t : Tree) : Set (List String) := {keys | ∃ leaf, t.Reaches keys leaf ∧ leaf.IsLeaf}

/-- The walk meets every leaf, and whatever it meets that has a value is one. -/
theorem mem_leafPlaces_iff {keys : List String} :
    keys ∈ t.leafPlaces ↔
      ∃ leaf value, (keys, leaf) ∈ t.keyedLeaves ∧ leaf.leafValue? = some value := by
  constructor
  · rintro ⟨leaf, hreach, hleaf⟩
    obtain ⟨value, hvalue⟩ := exists_leafValue?_iff.mpr hleaf
    exact ⟨leaf, value, mem_keyedLeaves_iff.mpr ⟨hreach, isObject_of_isLeaf hleaf⟩, hvalue⟩
  · rintro ⟨leaf, value, hmem, hvalue⟩
    exact ⟨leaf, (mem_keyedLeaves_iff.mp hmem).1, exists_leafValue?_iff.mp ⟨value, hvalue⟩⟩

theorem exists_get?_flatten_iff :
    (∃ value, t.flatten.get? path = some value) ↔
      path ≠ "" ∧ ∃ keys ∈ t.leafPlaces, joinedPath keys = path := by
  simp only [get?_flatten_eq_some_iff_lastBinds]
  constructor
  · rintro ⟨value, before, ⟨keys, leaf⟩, after, hwalk, ⟨hne, hpath, hvalue⟩, -⟩
    have hmem : (keys, leaf) ∈ t.keyedLeaves := by
      rw [hwalk]
      exact List.mem_append_cons_self
    exact ⟨hne, keys, mem_leafPlaces_iff.mpr ⟨leaf, value, hmem, hvalue⟩, hpath⟩
  · rintro ⟨hne, keys, hplace, hpath⟩
    obtain ⟨leaf, value, hmem, hvalue⟩ := mem_leafPlaces_iff.mp hplace
    refine Classical.byContradiction fun hnone ↦ ?_
    exact forall_not_lastBinds_iff.mp (not_exists.mp hnone) _ hmem value ⟨hne, hpath, hvalue⟩

/-! ## The last leaf -/

/-- The keys lead to a leaf with the value and the path, and it comes behind all others with the
path. -/
structure IsLastLeaf (t : Tree) (path : String) (keys : List String) (value : BoundValue) :
    Prop where
  /-- There is a leaf with the value. -/
  exists_leaf : ∃ leaf, t.Reaches keys leaf ∧ leaf.leafValue? = some value
  /-- It has the path. -/
  joinedPath_eq : joinedPath keys = path
  /-- Any other leaf that has the path comes before it. -/
  comesBefore : ∀ keys' ∈ t.leafPlaces, joinedPath keys' = path →
    keys' = keys ∨ ComesBefore keys' keys

/-- The walk is in the order of places, so the last leaf is the one that it meets last. -/
theorem lastBinds_iff_exists_isLastLeaf (hsorted : t.EveryObject (·.Pairwise (·.1 < ·.1))) :
    LastBinds (LeafBinds path) t.keyedLeaves value ↔
      path ≠ "" ∧ ∃ keys, t.IsLastLeaf path keys value := by
  rw [lastBinds_iff_of_pairwise (fun _ _ h ↦ h.asymm) (pairwise_keyedLeaves hsorted)]
  constructor
  · rintro ⟨⟨keys, leaf⟩, hmem, ⟨hne, hpath, hvalue⟩, hlast⟩
    refine ⟨hne, keys, ⟨leaf, (mem_keyedLeaves_iff.mp hmem).1, hvalue⟩, hpath, ?_⟩
    intro keys' hplace' hpath'
    obtain ⟨leaf', value', hmem', hvalue'⟩ := mem_leafPlaces_iff.mp hplace'
    exact (hlast _ hmem' ⟨value', hne, hpath', hvalue'⟩).imp_left (congrArg Prod.fst)
  · rintro ⟨hne, keys, ⟨leaf, hreach, hvalue⟩, hpath, hlast⟩
    have hleaf : leaf.IsLeaf := exists_leafValue?_iff.mp ⟨value, hvalue⟩
    refine ⟨(keys, leaf), mem_keyedLeaves_iff.mpr ⟨hreach, isObject_of_isLeaf hleaf⟩,
      ⟨hne, hpath, hvalue⟩, ?_⟩
    rintro ⟨keys', leaf'⟩ hmem' ⟨value', -, hpath', hvalue'⟩
    have hplace' : keys' ∈ t.leafPlaces := mem_leafPlaces_iff.mpr ⟨leaf', value', hmem', hvalue'⟩
    refine (hlast keys' hplace' hpath').imp_left fun hkeys ↦ ?_
    -- the same keys lead to no second place
    subst hkeys
    rw [(mem_keyedLeaves_iff.mp hmem').1.unique hsorted hreach]

/-! ## Keys that are segments -/

theorem injOn_joinedPath (hkeys : t.EveryObject (∀ m ∈ ·, IsSegmentKey m.1)) :
    Set.InjOn joinedPath t.leafPlaces := by
  rintro keys ⟨_, hreach, -⟩ keys' ⟨_, hreach', -⟩ hpath
  exact joinedPath_injective (hreach.isSegmentKey hkeys) (hreach'.isSegmentKey hkeys) hpath

/-- No leaves share a path, so each binds its own. -/
theorem get?_flatten_eq_some_iff_of_isSegmentKey (hsorted : t.EveryObject (·.Pairwise (·.1 < ·.1)))
    (hkeys : t.EveryObject (∀ m ∈ ·, IsSegmentKey m.1)) :
    t.flatten.get? path = some value ↔
      path ≠ "" ∧ ∃ keys leaf, t.Reaches keys leaf ∧ leaf.leafValue? = some value ∧
        ".".intercalate keys = path := by
  rw [get?_flatten_eq_some_iff_lastBinds, lastBinds_iff_exists_isLastLeaf hsorted]
  refine and_congr_right fun _ ↦ exists_congr fun keys ↦ ?_
  constructor
  · rintro ⟨⟨leaf, hreach, hvalue⟩, hpath, -⟩
    rw [joinedPath_of_isSegmentKey (hreach.isSegmentKey hkeys)] at hpath
    exact ⟨leaf, hreach, hvalue, hpath⟩
  · rintro ⟨leaf, hreach, hvalue, hpath⟩
    rw [← joinedPath_of_isSegmentKey (hreach.isSegmentKey hkeys)] at hpath
    have hplace : keys ∈ t.leafPlaces := ⟨leaf, hreach, exists_leafValue?_iff.mp ⟨value, hvalue⟩⟩
    refine ⟨⟨leaf, hreach, hvalue⟩, hpath, fun keys' hplace' hpath' ↦ .inl ?_⟩
    exact injOn_joinedPath hkeys hplace' hplace (hpath'.trans hpath.symm)

theorem encard_leafPlaces (hkeys : t.EveryObject (∀ m ∈ ·, IsSegmentKey m.1)) :
    (t.leafPlaces \ {[]}).encard = t.flatten.size := by
  have hbound : {path | ∃ value, t.flatten.get? path = some value}
      = joinedPath '' (t.leafPlaces \ {[]}) := by
    ext path
    rw [Set.mem_ofPred_eq, exists_get?_flatten_iff]
    constructor
    · rintro ⟨hne, keys, hplace, rfl⟩
      refine ⟨keys, ⟨hplace, ?_⟩, rfl⟩
      rintro rfl
      exact hne rfl
    · rintro ⟨keys, ⟨⟨leaf, hreach, hleaf⟩, hnil⟩, rfl⟩
      have hne : joinedPath keys ≠ "" :=
        (joinedPath_eq_empty_iff (hreach.isSegmentKey hkeys)).not.mpr hnil
      exact ⟨hne, keys, ⟨leaf, hreach, hleaf⟩, rfl⟩
  rw [← TextMap.encard_keys, hbound, ((injOn_joinedPath hkeys).mono Set.sdiff_subset).encard_image]

/-! ## Flattening -/

/-- If the members of each object are in the order of their keys, a tree binds the paths of its
leaves, except the empty path, to the value of the last leaf that has the path. If moreover each key
is one segment of a path, different leaves have different paths, and as many paths are bound as
there are leaves below the root. -/
theorem flatten_exact (hsorted : t.EveryObject (·.Pairwise (·.1 < ·.1))) :
    (∀ path, (∃ value, t.flatten.get? path = some value) ↔
      path ≠ "" ∧ ∃ keys ∈ t.leafPlaces, joinedPath keys = path) ∧
    (∀ path value, t.flatten.get? path = some value ↔
      path ≠ "" ∧ ∃ keys, t.IsLastLeaf path keys value) ∧
    (t.EveryObject (∀ m ∈ ·, IsSegmentKey m.1) →
      Set.InjOn joinedPath t.leafPlaces ∧ (t.leafPlaces \ {[]}).encard = t.flatten.size) := by
  refine ⟨fun path ↦ exists_get?_flatten_iff, fun path value ↦ ?_, fun hkeys ↦ ?_⟩
  · rw [get?_flatten_eq_some_iff_lastBinds, lastBinds_iff_exists_isLastLeaf hsorted]
  · exact ⟨injOn_joinedPath hkeys, encard_leafPlaces hkeys⟩

/-- One tree with an empty key and a dotted one, where two leaves have one path, and one tree with
plain keys, where nothing stands beside two leaves. -/
theorem flatten_exact_two_trees :
    let t : Tree := .object
      [("", .text "x"), ("a", .object [("b", .text "y")]), ("a.b", .text "z")]
    let u : Tree := .object
      [("a", .object [("b", .boolean true), ("c", .null)]), ("d", .array [.text "x"])]
    (∃ keys, t.IsLastLeaf "a.b" keys (.text "z")) ∧ (u.leafPlaces \ {[]}).encard = 2 := by
  intro t u
  have hleaf {kind} (leaf : Tree) (h : leaf.isObject = false) : leaf.EveryObject kind :=
    everyObject_of_isObject_eq_false h
  have ht : t.EveryObject (·.Pairwise (·.1 < ·.1)) := by
    simp only [t, everyObject_object_iff, List.forall_mem_cons]
    exact ⟨by decide +kernel, hleaf _ rfl, ⟨by decide +kernel, hleaf _ rfl, nofun⟩,
      hleaf _ rfl, nofun⟩
  have hu : u.EveryObject (·.Pairwise (·.1 < ·.1)) := by
    simp only [u, everyObject_object_iff, List.forall_mem_cons]
    exact ⟨by decide +kernel, ⟨by decide +kernel, hleaf _ rfl, hleaf _ rfl, nofun⟩,
      hleaf _ rfl, nofun⟩
  have hkeys : u.EveryObject (∀ m ∈ ·, IsSegmentKey m.1) := by
    simp only [u, everyObject_object_iff, List.forall_mem_cons]
    exact ⟨⟨⟨by decide, by decide⟩, ⟨by decide, by decide⟩, nofun⟩,
      ⟨⟨⟨by decide, by decide⟩, ⟨by decide, by decide⟩, nofun⟩, hleaf _ rfl, hleaf _ rfl, nofun⟩,
      hleaf _ rfl, nofun⟩
  obtain ⟨-, hlast, -⟩ := flatten_exact ht
  obtain ⟨-, -, hplain⟩ := flatten_exact hu
  exact ⟨((hlast "a.b" (.text "z")).mp (by decide +kernel)).2, (hplain hkeys).2⟩

end Document.Tree

end PropertyCatalog
