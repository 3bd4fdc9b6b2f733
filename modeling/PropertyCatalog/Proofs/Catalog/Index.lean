import PropertyCatalog.Catalog
import PropertyCatalog.Proofs.Outcome

/-!
# The index of a catalog

Building a catalog walks through the sorted groups once and puts every path under its place. The
walk succeeds exactly when no path occurs twice, and then the index holds the occurrences and
nothing else. Everything said later about looking up a path rests on `IsIndexed`: places and
properties determine each other, and a path is looked up exactly where it stands.

Neither the walk nor its error looks at more of a group than its root and its paths
(`occurrences_congr`), which is why groups that differ elsewhere fail alike.
-/

namespace PropertyCatalog

/-! ## Adding occurrences -/

/-- Adding succeeds exactly when every path is new, and then nothing is overwritten. -/
theorem addOccurrences_eq_ok_iff {index index' : TextMap Place} {os : List Occurrence} :
    addOccurrences index os = .ok index' ↔
      (os.map (·.path)).Nodup ∧ (∀ o ∈ os, index.contains o.path = false) ∧
        index' = index.insertAll (os.map fun o ↦ (o.path, o.place)) := by
  induction os generalizing index with
  | nil =>
    rw [addOccurrences, Except.ok.injEq]
    exact ⟨fun h ↦ ⟨List.nodup_nil, by simp, h.symm⟩, fun h ↦ h.2.2.symm⟩
  | cons o os ih =>
    -- what is new to the longer index is new to the shorter one and differs from the path put in
    have hfresh : (∀ q ∈ os, (index.insert o.path o.place).contains q.path = false) ↔
        o.path ∉ os.map (·.path) ∧ ∀ q ∈ os, index.contains q.path = false := by
      simp only [TextMap.contains_insert, Bool.or_eq_false_iff, decide_eq_false_iff_not,
        List.mem_map, not_exists, not_and]
      exact ⟨fun h ↦ ⟨fun q hq ↦ (h q hq).1, fun q hq ↦ (h q hq).2⟩,
        fun h q hq ↦ ⟨h.1 q hq, h.2 q hq⟩⟩
    rw [addOccurrences]
    cases hc : index.contains o.path with
    | true =>
      rw [if_pos rfl]
      constructor
      · intro h
        cases h
      · rintro ⟨-, hnew, -⟩
        rw [hnew o List.mem_cons_self] at hc
        cases hc
    | false =>
      rw [if_neg Bool.false_ne_true, ih, hfresh, List.map_cons, List.nodup_cons, List.map_cons]
      constructor
      · rintro ⟨hnodup, ⟨hnotin, hnew⟩, rfl⟩
        refine ⟨⟨hnotin, hnodup⟩, fun q hq ↦ ?_, rfl⟩
        rcases List.mem_cons.mp hq with rfl | hq
        · exact hc
        · exact hnew q hq
      · rintro ⟨⟨hnotin, hnodup⟩, hnew, rfl⟩
        exact ⟨hnodup, ⟨hnotin, fun q hq ↦ hnew q (List.mem_cons_of_mem o hq)⟩, rfl⟩

/-! ## Occurrences -/

private theorem occurrences_eq (groups : List PropertyGroup) :
    occurrences groups = (groups.map fun g ↦ (g.root, g.paths)).zipIdx.flatMap fun x ↦
      x.1.2.zipIdx.map fun y ↦ ⟨y.1, x.1.1, ⟨x.2, y.2⟩⟩ := by
  rw [occurrences, List.zipIdx_map, List.flatMap_map]
  refine congrArg (List.flatMap · groups.zipIdx) (funext fun x ↦ ?_)
  rw [Prod.map_fst, PropertyGroup.paths, List.zipIdx_map, List.map_map]
  rfl

/-- Where paths occur is decided by the roots and the paths of the groups. -/
theorem occurrences_congr {groups groups' : List PropertyGroup}
    (h : (groups.map fun g ↦ (g.root, g.paths)) = groups'.map fun g ↦ (g.root, g.paths)) :
    occurrences groups = occurrences groups' := by
  rw [occurrences_eq, occurrences_eq, h]

theorem map_path_occurrences (groups : List PropertyGroup) :
    (occurrences groups).map (·.path) = groups.flatMap (·.paths) := by
  have hgroup : ∀ x : (String × List String) × Nat,
      (x.1.2.zipIdx.map fun y ↦ (⟨y.1, x.1.1, ⟨x.2, y.2⟩⟩ : Occurrence)).map (·.path) = x.1.2 := by
    intro x
    rw [List.map_map]
    exact List.zipIdx_map_fst 0 x.1.2
  calc (occurrences groups).map (·.path)
      = (groups.map fun g ↦ (g.root, g.paths)).zipIdx.flatMap fun x ↦ x.1.2 := by
        rw [occurrences_eq, List.map_flatMap]
        exact congrArg (List.flatMap · _) (funext hgroup)
    _ = ((groups.map fun g ↦ (g.root, g.paths)).zipIdx.map Prod.fst).flatMap Prod.snd := by
        rw [List.flatMap_map]
    _ = groups.flatMap (·.paths) := by rw [List.zipIdx_map_fst, List.flatMap_map]

/-! ## Places -/

/-- The property that stands at a place. -/
def propertyAt? (groups : List PropertyGroup) (place : Place) : Option Property := do
  let g ← groups[place.group]?
  g.properties[place.property]?

theorem propertyAt?_eq_some_iff {groups : List PropertyGroup} {place : Place} {p : Property} :
    propertyAt? groups place = some p ↔
      ∃ g, groups[place.group]? = some g ∧ g.properties[place.property]? = some p :=
  Option.bind_eq_some_iff

/-- A path occurs at a place exactly when it is the path of the property there. -/
theorem mem_map_occurrences_iff {groups : List PropertyGroup} {path : String} {place : Place} :
    (path, place) ∈ (occurrences groups).map (fun o ↦ (o.path, o.place)) ↔
      ∃ p, propertyAt? groups place = some p ∧ p.path = path := by
  simp only [occurrences, List.mem_map, List.mem_flatMap, Prod.exists, Prod.mk.injEq,
    List.mem_zipIdx_iff_getElem?, propertyAt?_eq_some_iff]
  constructor
  · rintro ⟨_, ⟨g, i, hg, p, j, hp, rfl⟩, rfl, rfl⟩
    exact ⟨p, ⟨g, hg, hp⟩, rfl⟩
  · rintro ⟨p, ⟨g, hg, hp⟩, rfl⟩
    exact ⟨_, ⟨g, place.group, hg, p, place.property, hp, rfl⟩, rfl, rfl⟩

namespace Catalog

theorem mem_properties_iff {c : Catalog} {p : Property} :
    p ∈ c.properties ↔ ∃ place, propertyAt? c.groups place = some p := by
  rw [properties, List.mem_flatMap]
  simp only [List.mem_iff_getElem?, propertyAt?_eq_some_iff]
  constructor
  · rintro ⟨g, ⟨i, hg⟩, j, hp⟩
    exact ⟨⟨i, j⟩, g, hg, hp⟩
  · rintro ⟨⟨i, j⟩, g, hg, hp⟩
    exact ⟨g, ⟨i, hg⟩, j, hp⟩

theorem map_path_properties (c : Catalog) :
    c.properties.map (·.path) = c.groups.flatMap (·.paths) := List.map_flatMap

/-! ## Indexed catalogs -/

/-- No path stands twice, and the index knows the place of each path and nothing else. -/
structure IsIndexed (c : Catalog) : Prop where
  /-- Paths are distinct, within a group and across groups. -/
  nodup_paths : (c.properties.map (·.path)).Nodup
  /-- The index leads to the property with the path. -/
  get?_index_iff : ∀ {path : String} {place : Place},
    c.index.get? path = some place ↔ ∃ p, propertyAt? c.groups place = some p ∧ p.path = path

/-- Building succeeds exactly on distinct paths, and says what the catalog is. -/
theorem build_eq_ok_iff {groups : List PropertyGroup} {c : Catalog} :
    build groups = .ok c ↔
      c.groups = groups.mergeSort PropertyGroup.precedes ∧
        (c.groups.flatMap (·.paths)).Nodup ∧
          c.index = .ofList ((occurrences c.groups).map fun o ↦ (o.path, o.place)) := by
  rw [build, Outcome.map_eq_ok_iff]
  simp only [addOccurrences_eq_ok_iff, map_path_occurrences]
  constructor
  · rintro ⟨index, ⟨hnodup, -, rfl⟩, rfl⟩
    exact ⟨rfl, hnodup, rfl⟩
  · rintro ⟨hgroups, hnodup, hindex⟩
    rw [hgroups] at hnodup hindex
    exact ⟨c.index, ⟨hnodup, fun _ _ ↦ rfl, hindex⟩, by rw [← hgroups]⟩

theorem isIndexed_of_build {groups : List PropertyGroup} {c : Catalog}
    (h : build groups = .ok c) : c.IsIndexed := by
  obtain ⟨-, hnodup, hindex⟩ := build_eq_ok_iff.mp h
  refine ⟨?_, fun {path place} ↦ ?_⟩
  · rw [map_path_properties]
    exact hnodup
  · have hkeys : (((occurrences c.groups).map fun o ↦ (o.path, o.place)).map (·.1)).Nodup := by
      rw [List.map_map]
      exact (map_path_occurrences c.groups).symm ▸ hnodup
    rw [hindex, TextMap.get?_ofList_eq_some_iff hkeys, mem_map_occurrences_iff]

namespace IsIndexed

variable {c : Catalog} (h : c.IsIndexed)

include h

theorem get?_eq_some_iff {path : String} {p : Property} :
    c.get? path = some p ↔ p ∈ c.properties ∧ p.path = path := by
  have hget : c.get? path = (c.index.get? path).bind (propertyAt? c.groups) := rfl
  rw [hget, Option.bind_eq_some_iff, mem_properties_iff]
  constructor
  · rintro ⟨place, hindex, hplace⟩
    obtain ⟨q, hq, hpath⟩ := h.get?_index_iff.mp hindex
    obtain rfl : q = p := Option.some_inj.mp (hq.symm.trans hplace)
    exact ⟨⟨place, hplace⟩, hpath⟩
  · rintro ⟨⟨place, hplace⟩, hpath⟩
    exact ⟨place, h.get?_index_iff.mpr ⟨p, hplace, hpath⟩, hplace⟩

theorem get?_eq_none_iff {path : String} :
    c.get? path = none ↔ ∀ p ∈ c.properties, p.path ≠ path := by
  rw [Option.eq_none_iff_forall_ne_some]
  exact ⟨fun hnone p hp hpath ↦ hnone p (h.get?_eq_some_iff.mpr ⟨hp, hpath⟩),
    fun hne p hp ↦ hne p (h.get?_eq_some_iff.mp hp).1 (h.get?_eq_some_iff.mp hp).2⟩

theorem eq_of_path_eq {p q : Property} (hp : p ∈ c.properties) (hq : q ∈ c.properties)
    (hpath : p.path = q.path) : p = q := by
  have hgetp : c.get? q.path = some p := h.get?_eq_some_iff.mpr ⟨hp, hpath⟩
  have hgetq : c.get? q.path = some q := h.get?_eq_some_iff.mpr ⟨hq, rfl⟩
  exact Option.some_inj.mp (hgetp.symm.trans hgetq)

end IsIndexed

end Catalog

end PropertyCatalog
