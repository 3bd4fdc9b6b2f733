import PropertyCatalog.Proofs.Document.Toml.Leaves

/-!
# What a TOML table binds

Each leaf of a TOML table binds one value (`BoundAs`), and the tree of the table binds it at the
keys that lead to the leaf, with dots between them, if each key is one segment of a path. No leaf is
lost on the way: as many paths are bound as there are leaves (`flatten_tree_exact`).
-/

namespace PropertyCatalog.Document.Toml.Value

variable {entries : List (String × Value)} {v leaf : Value} {keys : List String} {path : String}
  {value : BoundValue}

/-! ## What a leaf binds -/

/-- What a leaf binds: an integer or a truth value stays one, and anything else becomes its text. -/
inductive BoundAs : Value → BoundValue → Prop
  /-- A text stays as it is. -/
  | text (s : String) : BoundAs (.text s) (.text s)
  /-- An integer of 64 bits stays an integer. -/
  | integer (n : Int64) : BoundAs (.integer n.toInt) (.integer n)
  /-- A floating-point number is written, also one that is not finite. -/
  | real (x : Binary64) : BoundAs (.real x) (.text (x.write realLayout))
  /-- A truth value stays one. -/
  | boolean (b : Bool) : BoundAs (.boolean b) (.boolean b)
  /-- A date or a time is written. -/
  | moment (m : Moment) : BoundAs (.moment m) (.text m.write)
  /-- The items of an array are written with commas between them. -/
  | array (items : List Value) : BoundAs (.array items) (.text (joined (items.map tree)))

theorem leafValue?_realTree (x : Binary64) :
    (realTree x).leafValue? = some (.text (x.write realLayout)) := by
  rw [realTree]
  split
  · rename_i hfinite
    rw [Tree.leafValue?, Number.boundValue, Json.writeNumber, if_pos hfinite]
    rfl
  · rfl

theorem leafValue?_tree_integer {n : Int} {i : Int64} (h : i.toInt = n) :
    (integer n).tree.leafValue? = some (.integer i) := by
  rw [tree, Tree.ofInt, Tree.leafValue?, Number.boundValue, Text.int64?_eq_some_iff.mpr h]
  rfl

theorem leafValue?_tree_eq_some_iff (hv : v.isBounded = true) :
    v.tree.leafValue? = some value ↔ v.BoundAs value := by
  constructor
  · intro h
    cases v with
    | text s =>
      cases h
      exact .text s
    | integer n =>
      obtain ⟨i, hi⟩ := Option.isSome_iff_exists.mp hv
      obtain rfl := Text.int64?_eq_some_iff.mp hi
      rw [leafValue?_tree_integer rfl] at h
      cases h
      exact .integer i
    | real x =>
      rw [tree, leafValue?_realTree] at h
      cases h
      exact .real x
    | boolean b =>
      cases h
      exact .boolean b
    | moment m =>
      cases h
      exact .moment m
    | array items =>
      rw [tree, treesOf_eq] at h
      cases h
      exact .array items
    | table entries => cases h
  · intro h
    cases h with
    | text s => rfl
    | integer n => exact leafValue?_tree_integer rfl
    | real x => exact leafValue?_realTree x
    | boolean b => rfl
    | moment m => rfl
    | array items =>
      rw [tree, treesOf_eq]
      rfl

theorem exists_boundAs (hv : v.isBounded = true) (hleaf : v.isTable = false) :
    ∃ value, v.BoundAs value := by
  obtain ⟨value, hvalue⟩ := Tree.exists_leafValue?_iff.mpr (isLeaf_tree_iff.mpr hleaf)
  exact ⟨value, (leafValue?_tree_eq_some_iff hv).mp hvalue⟩

/-! ## What a table binds -/

/-- No key leads from a table to a leaf unless there is one. -/
theorem nil_notMem_leafPlaces_table : [] ∉ (table entries).leafPlaces := by
  rintro ⟨leaf, hreach, hleaf⟩
  cases hreach
  cases hleaf

theorem get?_flatten_tree_eq_some_iff (hbounded : (table entries).isBounded = true)
    (hdistinct : (table entries).HasDistinctKeys)
    (hkeys : (table entries).EveryTable (∀ e ∈ ·, IsSegmentKey e.1)) :
    (table entries).tree.flatten.get? path = some value ↔
      ∃ keys leaf, (table entries).Reaches keys leaf ∧ leaf.BoundAs value ∧
        ".".intercalate keys = path := by
  rw [Tree.get?_flatten_eq_some_iff_of_isSegmentKey (pairwise_members_tree hdistinct)
    (isSegmentKey_members_tree hdistinct hkeys)]
  constructor
  · rintro ⟨-, keys, t, hreach, hvalue, hpath⟩
    obtain ⟨leaf, hleaf, rfl⟩ := (reaches_tree_iff hdistinct).mp hreach
    have hbound := (leafValue?_tree_eq_some_iff (hleaf.isBounded hbounded)).mp hvalue
    exact ⟨keys, leaf, hleaf, hbound, hpath⟩
  · rintro ⟨keys, leaf, hreach, hbound, hpath⟩
    have hsegments := hreach.isSegmentKey hkeys
    refine ⟨?_, keys, leaf.tree, (reaches_tree_iff hdistinct).mpr ⟨leaf, hreach, rfl⟩,
      (leafValue?_tree_eq_some_iff (hreach.isBounded hbounded)).mpr hbound, hpath⟩
    rw [← hpath, ← joinedPath_of_isSegmentKey hsegments, ne_eq, joinedPath_eq_empty_iff hsegments]
    -- the root is no leaf, so some key leads to this one
    rintro rfl
    cases hreach
    cases hbound

theorem injOn_intercalate_leafPlaces (hkeys : v.EveryTable (∀ e ∈ ·, IsSegmentKey e.1)) :
    Set.InjOn ".".intercalate v.leafPlaces := by
  rintro keys ⟨_, hreach, -⟩ keys' ⟨_, hreach', -⟩ hpath
  have h := hreach.isSegmentKey hkeys
  have h' := hreach'.isSegmentKey hkeys
  rw [← joinedPath_of_isSegmentKey h, ← joinedPath_of_isSegmentKey h'] at hpath
  exact joinedPath_injective h h' hpath

/-- If its integers fit into 64 bits, no table in it has a key twice and each key is one segment of
a path, the tree of a table binds what its leaves bind, and nothing else, each at the keys that lead
to it with dots between them. No leaf becomes nothing, each is bound, different leaves have
different paths, and as many paths are bound as there are leaves. -/
theorem flatten_tree_exact (hbounded : (table entries).isBounded = true)
    (hdistinct : (table entries).HasDistinctKeys)
    (hkeys : (table entries).EveryTable (∀ e ∈ ·, IsSegmentKey e.1)) :
    (∀ path value, (table entries).tree.flatten.get? path = some value ↔
      ∃ keys leaf, (table entries).Reaches keys leaf ∧ leaf.BoundAs value ∧
        ".".intercalate keys = path) ∧
    (∀ keys leaf, (table entries).Reaches keys leaf → leaf.isTable = false →
      leaf.tree ≠ .null ∧ ∃ value, leaf.BoundAs value ∧
        (table entries).tree.flatten.get? (".".intercalate keys) = some value) ∧
    Set.InjOn ".".intercalate (table entries).leafPlaces ∧
    (table entries).leafPlaces.encard = (table entries).tree.flatten.size := by
  refine ⟨fun path value ↦ get?_flatten_tree_eq_some_iff hbounded hdistinct hkeys, ?_,
    injOn_intercalate_leafPlaces hkeys, ?_⟩
  · intro keys leaf hreach hleaf
    constructor
    · intro hnull
      have hisLeaf := isLeaf_tree_iff.mpr hleaf
      rw [hnull] at hisLeaf
      cases hisLeaf
    · obtain ⟨value, hbound⟩ := exists_boundAs (hreach.isBounded hbounded) hleaf
      refine ⟨value, hbound, ?_⟩
      rw [get?_flatten_tree_eq_some_iff hbounded hdistinct hkeys]
      exact ⟨keys, leaf, hreach, hbound, rfl⟩
  · rw [← Tree.encard_leafPlaces (isSegmentKey_members_tree hdistinct hkeys),
      leafPlaces_tree hdistinct, Set.sdiff_singleton_eq_self nil_notMem_leafPlaces_table]

/-- A table with a table in it, and with leaves of each kind, of which some are no number. -/
theorem flatten_tree_exact_six_leaves :
    let t : Value := .table
      [("server", .table [("ratio", .real .nan), ("port", .integer 8080), ("tls", .boolean true)]),
        ("start", .moment (.day ⟨1979, 5, 27⟩)), ("name", .text "x"),
        ("tags", .array [.text "a", .real (.infinite true)])]
    t.leafPlaces.encard = 6 ∧
      ∃ keys leaf, t.Reaches keys leaf ∧ leaf.BoundAs (.text "NaN") ∧
        ".".intercalate keys = "server.ratio" := by
  intro t
  have hleaf {kind} (v : Value) (h : v.isTable = false) : v.EveryTable kind :=
    everyTable_of_isTable_eq_false h
  have hkey {key : String} (h : (key ≠ "" && '.' ∉ key.toList) = true) : IsSegmentKey key := by
    rw [Bool.and_eq_true, decide_eq_true_iff, decide_eq_true_iff] at h
    exact ⟨h.1, h.2⟩
  have hdistinct : t.HasDistinctKeys := by
    simp only [t, HasDistinctKeys, everyTable_table_iff, List.forall_mem_cons]
    exact ⟨by decide +kernel, ⟨by decide +kernel, hleaf _ rfl, hleaf _ rfl, hleaf _ rfl, nofun⟩,
      hleaf _ rfl, hleaf _ rfl, hleaf _ rfl, nofun⟩
  have hkeys : t.EveryTable (∀ e ∈ ·, IsSegmentKey e.1) := by
    simp only [t, everyTable_table_iff, List.forall_mem_cons]
    exact ⟨⟨hkey rfl, hkey rfl, hkey rfl, hkey rfl, nofun⟩,
      ⟨⟨hkey rfl, hkey rfl, hkey rfl, nofun⟩, hleaf _ rfl, hleaf _ rfl, hleaf _ rfl, nofun⟩,
      hleaf _ rfl, hleaf _ rfl, hleaf _ rfl, nofun⟩
  obtain ⟨hbinds, -, -, hcount⟩ := flatten_tree_exact rfl hdistinct hkeys
  exact ⟨hcount, (hbinds "server.ratio" (.text "NaN")).mp (by decide +kernel)⟩

end PropertyCatalog.Document.Toml.Value
