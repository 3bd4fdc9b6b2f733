import Mathlib.Data.List.Nodup
import PropertyCatalog.Proofs.Catalog.GroupOrder
import PropertyCatalog.Proofs.Scan.FirstFault

/-!
# Collisions of paths

Groups make a catalog exactly when no path occurs twice in all of them. Otherwise the walk through
the sorted groups stops at the first path that occurred before (`IsFirstRepeat`). Since the order of
groups fixes the sequence of their keys, any arrangement of the groups in catalog order shows the
same first repeat.

The same is said of declarations, from which the keys of their groups can be read off. How a path is
split into a root and a name leaves no trace in it, so declarations that split one path in two ways
collide.
-/

namespace PropertyCatalog

/-! ## First repeats -/

/-- The path is the first of the list that occurred before. -/
def IsFirstRepeat (paths : List String) (path : String) : Prop :=
  ∃ before after, paths = before ++ path :: after ∧ before.Nodup ∧ path ∈ before

/-! ## Maps of entries with different keys -/

/-- Where no key is repeated, a map keeps every entry. -/
theorem TextMap.perm_entries_ofList {α : Type} {es : List (String × α)}
    (h : (es.map (·.1)).Nodup) : (TextMap.ofList es).entries.Perm es := by
  refine (List.perm_ext_iff_of_nodup (TextMap.nodup_keys _).of_map h.of_map).mpr fun (k, a) ↦ ?_
  rw [TextMap.mem_entries_iff, TextMap.get?_ofList_eq_some_iff h]

/-! ## Walks that fail -/

/-- Adding occurrences one after the other fails exactly at the first whose path is there. -/
theorem addOccurrences_eq_error_iff {index : TextMap Place} {os : List Occurrence}
    {e : CatalogError} :
    addOccurrences index os = .error e ↔
      ∃ before o after, os = before ++ o :: after ∧
        (∃ index', addOccurrences index before = .ok index' ∧ index'.contains o.path = true) ∧
          e = .duplicatePath o.path o.root := by
  induction os generalizing index with
  | nil =>
    rw [addOccurrences]
    constructor
    · rintro ⟨⟩
    · rintro ⟨before, o, after, hos, -⟩
      exact absurd hos.symm (List.append_ne_nil_of_right_ne_nil before (List.cons_ne_nil o after))
  | cons o os ih =>
    rw [addOccurrences]
    cases hc : index.contains o.path with
    | true =>
      rw [if_pos rfl]
      constructor
      · rintro ⟨⟩
        exact ⟨[], o, os, rfl, ⟨index, rfl, hc⟩, rfl⟩
      · rintro ⟨before, q, after, hos, ⟨index', hok, hq⟩, rfl⟩
        cases before with
        | nil =>
          cases hos
          rfl
        | cons p before =>
          cases hos
          rw [addOccurrences, if_pos hc] at hok
          cases hok
    | false =>
      rw [if_neg Bool.false_ne_true, ih]
      constructor
      · rintro ⟨before, q, after, rfl, ⟨index', hok, hq⟩, rfl⟩
        refine ⟨o :: before, q, after, rfl, ⟨index', ?_, hq⟩, rfl⟩
        rw [addOccurrences, hc]
        exact hok
      · rintro ⟨before, q, after, hos, ⟨index', hok, hq⟩, rfl⟩
        cases before with
        | nil =>
          cases hos
          cases hok
          rw [hq] at hc
          cases hc
        | cons p before =>
          cases hos
          rw [addOccurrences, hc] at hok
          exact ⟨before, q, after, rfl, ⟨index', hok, hq⟩, rfl⟩

theorem exists_addOccurrences_contains_iff {os : List Occurrence} {path : String} :
    (∃ index, addOccurrences ∅ os = .ok index ∧ index.contains path = true) ↔
      (os.map (·.path)).Nodup ∧ path ∈ os.map (·.path) := by
  have hkeys : (os.map fun o ↦ (o.path, o.place)).map (·.1) = os.map (·.path) := List.map_map
  simp only [addOccurrences_eq_ok_iff]
  constructor
  · rintro ⟨index, ⟨hnodup, -, rfl⟩, hcontains⟩
    obtain ⟨place, hget⟩ := TextMap.contains_iff.mp hcontains
    refine ⟨hnodup, ?_⟩
    rw [← hkeys]
    exact List.mem_map.mpr ⟨(path, place), TextMap.mem_of_get?_ofList hget, rfl⟩
  · rintro ⟨hnodup, hmem⟩
    refine ⟨_, ⟨hnodup, fun _ _ ↦ rfl, rfl⟩, TextMap.contains_iff.mpr ?_⟩
    obtain ⟨o, ho, rfl⟩ := List.mem_map.mp hmem
    refine ⟨o.place, (TextMap.get?_ofList_eq_some_iff ?_).mpr (List.mem_map.mpr ⟨o, ho, rfl⟩)⟩
    rw [hkeys]
    exact hnodup

/-- Starting from nothing, the walk fails at the first path that is repeated. -/
theorem exists_addOccurrences_eq_error_iff {os : List Occurrence} {path : String} :
    (∃ root, addOccurrences ∅ os = .error (.duplicatePath path root)) ↔
      IsFirstRepeat (os.map (·.path)) path := by
  simp only [addOccurrences_eq_error_iff, exists_addOccurrences_contains_iff,
    CatalogError.duplicatePath.injEq]
  constructor
  · rintro ⟨root, before, o, after, rfl, hmeets, rfl, rfl⟩
    refine ⟨before.map (·.path), after.map (·.path), ?_, hmeets⟩
    rw [List.map_append, List.map_cons]
  · rintro ⟨paths, rest, hpaths, hmeets⟩
    obtain ⟨before, tail, rfl, rfl, htail⟩ := List.map_eq_append_iff.mp hpaths
    obtain ⟨o, after, rfl, rfl, -⟩ := List.map_eq_cons_iff.mp htail
    exact ⟨o.root, before, o, after, rfl, hmeets, rfl, rfl⟩

/-! ## Groups -/

namespace Catalog

theorem flatMap_paths_of_keys {groups : List PropertyGroup}
    {keys : List (String × List String × Option String)} (hperm : keys.Perm (groups.map (·.key)))
    (hsorted : keys.Pairwise fun k l ↦ (PropertyGroup.keyOrder k l).isLE) :
    (groups.mergeSort PropertyGroup.precedes).flatMap (·.paths) = keys.flatMap (·.2.1) := by
  have hkeys : (groups.mergeSort PropertyGroup.precedes).map (·.key) = keys :=
    PropertyGroup.eq_of_perm_of_pairwise_keyOrder
      (((List.mergeSort_perm groups PropertyGroup.precedes).map _).trans hperm.symm)
      (PropertyGroup.pairwise_map_key_mergeSort groups) hsorted
  rw [← hkeys, List.flatMap_map]
  rfl

theorem exists_build_ok_iff {groups : List PropertyGroup} :
    (∃ c, build groups = .ok c) ↔ (groups.flatMap (·.paths)).Nodup := by
  have hperm := (List.mergeSort_perm groups PropertyGroup.precedes).flatMap_right (·.paths)
  simp only [build_eq_ok_iff]
  constructor
  · rintro ⟨c, hgroups, hnodup, -⟩
    rw [hgroups] at hnodup
    exact hperm.nodup_iff.mp hnodup
  · intro hnodup
    let ordered := groups.mergeSort PropertyGroup.precedes
    exact ⟨⟨ordered, .ofList ((occurrences ordered).map fun o ↦ (o.path, o.place))⟩, rfl,
      hperm.nodup_iff.mpr hnodup, rfl⟩

theorem exists_build_eq_error_iff {groups : List PropertyGroup} {path : String} :
    (∃ root, build groups = .error (.duplicatePath path root)) ↔
      IsFirstRepeat ((groups.mergeSort PropertyGroup.precedes).flatMap (·.paths)) path := by
  simp only [build, Outcome.map_eq_error_iff, exists_addOccurrences_eq_error_iff,
    map_path_occurrences]

/-- The groups in any arrangement that is in catalog order tell where the walk fails. -/
theorem exists_build_eq_error_iff_of_pairwise {groups ordered : List PropertyGroup}
    (hperm : ordered.Perm groups) (hsorted : ordered.Pairwise fun g h ↦ g.precedes h = true)
    {path : String} :
    (∃ root, build groups = .error (.duplicatePath path root)) ↔
      IsFirstRepeat (ordered.flatMap (·.paths)) path := by
  have hkeys : (ordered.map (·.key)).Pairwise fun k l ↦ (PropertyGroup.keyOrder k l).isLE :=
    List.pairwise_map.mpr hsorted
  have hpaths := flatMap_paths_of_keys (hperm.map (·.key)) hkeys
  rw [List.flatMap_map] at hpaths
  rw [exists_build_eq_error_iff, hpaths]
  rfl

theorem size_of_build {groups : List PropertyGroup} {c : Catalog} (h : build groups = .ok c) :
    c.size = (groups.flatMap (·.properties)).length := by
  obtain ⟨hgroups, hnodup, hindex⟩ := build_eq_ok_iff.mp h
  have hkeys : (((occurrences c.groups).map fun o ↦ (o.path, o.place)).map (·.1)).Nodup := by
    rw [List.map_map]
    exact (map_path_occurrences c.groups).symm ▸ hnodup
  have hperm := (List.mergeSort_perm groups PropertyGroup.precedes).flatMap_right (·.properties)
  calc c.size
      = ((occurrences c.groups).map fun o ↦ (o.path, o.place)).length := by
        rw [size, hindex]
        exact (TextMap.perm_entries_ofList hkeys).length_eq
    _ = ((occurrences c.groups).map (·.path)).length := by rw [List.length_map, List.length_map]
    _ = (c.properties.map (·.path)).length := by rw [map_path_occurrences, map_path_properties]
    _ = (groups.flatMap (·.properties)).length := by
        rw [List.length_map, properties, hgroups, hperm.length_eq]

end Catalog

/-! ## Declarations -/

namespace Declaration.Group

/-- What the order of groups looks at, as far as a declaration shows it. -/
def key (declared : Group) : String × List String × Option String :=
  (Text.trim declared.root, declared.paths, declared.description)

end Declaration.Group

namespace ScanPolicy

variable {policy : ScanPolicy}

theorem key_of_scanGroup {index : Nat} {declared : Declaration.Group} {g : PropertyGroup}
    (h : policy.scanGroup index declared = .ok g) : g.key = declared.key := by
  obtain ⟨-, -, hroot, hdescription, -⟩ := scanGroup_eq_ok_iff.mp h
  rw [PropertyGroup.key, Declaration.Group.key, hroot, hdescription, paths_of_scanGroup h]

theorem map_key_resolveLabels_of_scan {declared : List Declaration.Group}
    {groups : List PropertyGroup} (h : policy.scan declared = .ok groups) :
    (resolveLabels groups).map (·.key) = declared.map (·.key) := by
  rw [resolveLabels, List.map_map]
  refine (Outcome.map_eq_map_of_forall₂ (scan_eq_ok_iff.mp h) fun d g hg ↦ ?_).symm
  exact (key_of_scanGroup hg).symm.trans g.key_resolveLabels.symm

theorem flatMap_paths_resolveLabels_of_scan {declared : List Declaration.Group}
    {groups : List PropertyGroup} (h : policy.scan declared = .ok groups) :
    (resolveLabels groups).flatMap (·.paths) = declared.flatMap (·.paths) :=
  calc (resolveLabels groups).flatMap (·.paths)
      = ((resolveLabels groups).map (·.key)).flatMap (·.2.1) := by
        rw [List.flatMap_map]
        rfl
    _ = (declared.map (·.key)).flatMap (·.2.1) := by rw [map_key_resolveLabels_of_scan h]
    _ = declared.flatMap (·.paths) := by
        rw [List.flatMap_map]
        rfl

theorem exists_buildCatalog_ok_iff {declared : List Declaration.Group} :
    (∃ c, policy.buildCatalog declared = .ok c) ↔
      (∃ groups, policy.scan declared = .ok groups) ∧ (declared.flatMap (·.paths)).Nodup := by
  simp only [buildCatalog_eq_ok_iff]
  constructor
  · rintro ⟨c, groups, hscan, hbuild⟩
    refine ⟨⟨groups, hscan⟩, ?_⟩
    rw [← flatMap_paths_resolveLabels_of_scan hscan]
    exact Catalog.exists_build_ok_iff.mp ⟨c, hbuild⟩
  · rintro ⟨⟨groups, hscan⟩, hnodup⟩
    rw [← flatMap_paths_resolveLabels_of_scan hscan] at hnodup
    obtain ⟨c, hbuild⟩ := Catalog.exists_build_ok_iff.mpr hnodup
    exact ⟨c, groups, hscan, hbuild⟩

theorem buildCatalog_eq_catalog_error_iff {declared : List Declaration.Group} {e : CatalogError} :
    policy.buildCatalog declared = .error (.catalog e) ↔
      ∃ groups, policy.scan declared = .ok groups ∧
        Catalog.build (resolveLabels groups) = .error e := by
  rw [buildCatalog, Outcome.bind_eq_error_iff]
  simp [Outcome.mapError_eq_error_iff, Outcome.mapError_eq_ok_iff]

theorem exists_buildCatalog_eq_error_iff {declared ordered : List Declaration.Group}
    (hperm : ordered.Perm declared)
    (hsorted : ordered.Pairwise fun d e ↦ (PropertyGroup.keyOrder d.key e.key).isLE)
    {path : String} :
    (∃ root, policy.buildCatalog declared = .error (.catalog (.duplicatePath path root))) ↔
      (∃ groups, policy.scan declared = .ok groups) ∧
        IsFirstRepeat (ordered.flatMap (·.paths)) path := by
  have hpaths : ∀ groups, policy.scan declared = .ok groups →
      ((resolveLabels groups).mergeSort PropertyGroup.precedes).flatMap (·.paths)
        = ordered.flatMap (·.paths) := by
    intro groups hscan
    have hkeys : (ordered.map (·.key)).Perm ((resolveLabels groups).map (·.key)) := by
      rw [map_key_resolveLabels_of_scan hscan]
      exact hperm.map _
    rw [Catalog.flatMap_paths_of_keys hkeys (List.pairwise_map.mpr hsorted), List.flatMap_map]
    rfl
  simp only [buildCatalog_eq_catalog_error_iff]
  constructor
  · rintro ⟨root, groups, hscan, hbuild⟩
    refine ⟨⟨groups, hscan⟩, ?_⟩
    rw [← hpaths groups hscan]
    exact Catalog.exists_build_eq_error_iff.mp ⟨root, hbuild⟩
  · rintro ⟨⟨groups, hscan⟩, hrepeat⟩
    rw [← hpaths groups hscan] at hrepeat
    obtain ⟨root, hbuild⟩ := Catalog.exists_build_eq_error_iff.mpr hrepeat
    exact ⟨root, groups, hscan, hbuild⟩

/-- **Catalogs are built of distinct paths.** Groups make a catalog exactly when no path occurs
twice, and it holds all their properties. Otherwise the error names the path that is the first to
occur again, whatever arrangement in catalog order is looked at. The same holds of declarations that
scan, whose paths are the roots continued by the names, without the blanks around them. -/
theorem build_verdict (groups : List PropertyGroup) (policy : ScanPolicy)
    (declared : List Declaration.Group) :
    ((∃ c, Catalog.build groups = .ok c) ↔ (groups.flatMap (·.paths)).Nodup) ∧
      (∀ c, Catalog.build groups = .ok c → c.size = (groups.flatMap (·.properties)).length) ∧
      (∀ ordered : List PropertyGroup, ordered.Perm groups →
        ordered.Pairwise (fun g h ↦ g.precedes h = true) → ∀ path,
          (∃ root, Catalog.build groups = .error (.duplicatePath path root)) ↔
            IsFirstRepeat (ordered.flatMap (·.paths)) path) ∧
      ((∃ c, policy.buildCatalog declared = .ok c) ↔
        (∃ scanned, policy.scan declared = .ok scanned) ∧
          (declared.flatMap fun d ↦
            d.fields.map fun field ↦ Text.trim d.root ++ "." ++ Text.trim field.name).Nodup) ∧
      ∀ ordered : List Declaration.Group, ordered.Perm declared →
        ordered.Pairwise (fun d e ↦ (PropertyGroup.keyOrder d.key e.key).isLE) → ∀ path,
          (∃ root, policy.buildCatalog declared = .error (.catalog (.duplicatePath path root))) ↔
            (∃ scanned, policy.scan declared = .ok scanned) ∧
              IsFirstRepeat (ordered.flatMap fun d ↦
                d.fields.map fun field ↦ Text.trim d.root ++ "." ++ Text.trim field.name) path := by
  refine ⟨Catalog.exists_build_ok_iff, fun c hbuild ↦ Catalog.size_of_build hbuild,
    fun ordered hperm hsorted path ↦ Catalog.exists_build_eq_error_iff_of_pairwise hperm hsorted,
    exists_buildCatalog_ok_iff,
    fun ordered hperm hsorted path ↦ exists_buildCatalog_eq_error_iff hperm hsorted⟩

/-- Two ways to split a path collide, and no catalog is made. -/
theorem build_verdict_split_path :
    let d : Declaration.Group :=
      { root := "a.b", fields := [{ name := "c", declaredType := "String" }] }
    let e : Declaration.Group :=
      { root := " a ", fields := [{ name := "b.c ", declaredType := "String" }] }
    (¬∃ c, buildCatalog {} [d, e] = .ok c) ∧
      ∃ root, buildCatalog {} [d, e] = .error (.catalog (.duplicatePath "a.b.c" root)) := by
  intro d e
  obtain ⟨-, -, -, hok, herror⟩ := build_verdict [] {} [d, e]
  constructor
  · rw [hok]
    rintro ⟨-, hnodup⟩
    exact absurd hnodup (by decide +kernel)
  · refine (herror [e, d] (.swap d e []) (by decide +kernel) "a.b.c").mpr ⟨?_, ?_⟩
    · have hscan : (scan {} [d, e]).isOk = true := by decide +kernel
      cases hgroups : scan {} [d, e] with
      | error fault =>
        rw [hgroups] at hscan
        cases hscan
      | ok groups => exact ⟨groups, rfl⟩
    · exact ⟨["a.b.c"], [], by decide +kernel, by decide, by decide⟩

end ScanPolicy

end PropertyCatalog
