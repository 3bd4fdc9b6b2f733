import PropertyCatalog.Proofs.Catalog.GroupOrder

/-!
# Catalogs of corresponding groups

Building a catalog looks at no more of a group than its key: sorting compares keys, and the walk
that makes the index reads roots and paths. So groups that correspond, with one key at each place,
fail alike or make catalogs that correspond, with one index. What correspondence means beyond the
keys is left open.
-/

namespace PropertyCatalog

variable {r : PropertyGroup → PropertyGroup → Prop}

/-- The groups of the catalogs correspond, and the places of all paths are the same. -/
structure Catalog.Corresponds (r : PropertyGroup → PropertyGroup → Prop) (c d : Catalog) :
    Prop where
  /-- The groups correspond in order. -/
  groups : List.Forall₂ r c.groups d.groups
  /-- The indices are equal. -/
  index_eq : c.index = d.index

/-- Groups that correspond, with one key at each place, show their paths at the same places. -/
theorem occurrences_eq_of_forall₂ {groups groups' : List PropertyGroup}
    (h : List.Forall₂ r groups groups') (hkey : ∀ g g', r g g' → g.key = g'.key) :
    occurrences groups = occurrences groups' := by
  refine occurrences_congr (Outcome.map_eq_map_of_forall₂ h fun g g' hg ↦ ?_)
  have hroot : g.root = g'.root := congrArg (·.1) (hkey g g' hg)
  have hpaths : g.paths = g'.paths := congrArg (·.2.1) (hkey g g' hg)
  rw [hroot, hpaths]

/-- Groups that correspond, with one key at each place, make catalogs that correspond, or fail with
one error. -/
theorem Catalog.related_build {groups groups' : List PropertyGroup}
    (h : List.Forall₂ r groups groups') (hkey : ∀ g g', r g g' → g.key = g'.key) :
    Outcome.Related Eq (Catalog.Corresponds r) (build groups) (build groups') := by
  have hsorted := PropertyGroup.forall₂_mergeSort h hkey
  rw [build, build, occurrences_eq_of_forall₂ hsorted hkey]
  cases addOccurrences ∅ (occurrences (groups'.mergeSort PropertyGroup.precedes)) with
  | error e => exact .error rfl
  | ok index => exact .ok ⟨hsorted, rfl⟩

theorem Catalog.Corresponds.forall₂_properties {q : Property → Property → Prop} {c d : Catalog}
    (h : c.Corresponds r d)
    (hgroup : ∀ g g', r g g' → List.Forall₂ q g.properties g'.properties) :
    List.Forall₂ q c.properties d.properties :=
  List.rel_flatMap h.groups hgroup

end PropertyCatalog
