import PropertyCatalog.Proofs.Catalog.DiscoveryOrder

/-!
# What a catalog holds

A catalog keeps its groups as a sorted list and, beside it, an index of the places at which their
paths stand. The two stay in step: the index leads to places that exist, and a look-up finds exactly
the property with the path. `Catalog.Represents` says what is known of a catalog once it was built
from some groups, without the walk that built it.

The order of groups is spelled out first (`PropertyGroup.AtMost`), so that "sorted" says more than
that a catalog agrees with its own comparison.
-/

open Std

namespace PropertyCatalog

/-! ## The order of groups, spelled out -/

/-- The first group does not come after the second: its root is smaller, or, with one root, its list
of paths is, or, with one list of paths too, its description is missing or no greater. -/
inductive PropertyGroup.AtMost (g h : PropertyGroup) : Prop
  /-- The roots decide. -/
  | root (less : g.root < h.root)
  /-- The paths decide. -/
  | paths (root : g.root = h.root) (less : g.paths < h.paths)
  /-- The descriptions decide, and one that is missing comes first. -/
  | description (root : g.root = h.root) (paths : g.paths = h.paths)
      (atMost : ∀ s, g.description = some s → ∃ t, h.description = some t ∧ s ≤ t)

theorem compare_text_eq_lt_iff {s t : String} : compare s t = .lt ↔ s < t :=
  compareOfLessAndEq_eq_lt

theorem compare_texts_eq_lt_iff {ps qs : List String} : compare ps qs = .lt ↔ ps < qs := by
  induction ps generalizing qs with
  | nil =>
    cases qs with
    | nil => simp
    | cons q qs => simp [List.compare_nil_cons]
  | cons p ps ih =>
    cases qs with
    | nil => simp [List.compare_cons_nil]
    | cons q qs =>
      rw [List.compare_cons_cons, Ordering.then_eq_lt, ih, List.cons_lt_cons_iff,
        compare_text_eq_lt_iff, LawfulEqOrd.compare_eq_iff_eq]

theorem isLE_compare_text_iff {s t : String} : (compare s t).isLE = true ↔ s ≤ t := by
  rw [Ordering.isLE_iff_ne_gt, OrientedCmp.gt_iff_lt, compare_text_eq_lt_iff, String.not_lt]

/-- A missing description comes before every other, and two descriptions are compared as texts. -/
theorem isLE_compare_description_iff {d e : Option String} :
    (compare d e).isLE = true ↔ ∀ s, d = some s → ∃ t, e = some t ∧ s ≤ t := by
  cases d with
  | none =>
    have hle : (compare none e).isLE = true := by cases e <;> rfl
    exact ⟨fun _ ↦ nofun, fun _ ↦ hle⟩
  | some s =>
    cases e with
    | none => simp [compare]
    | some t =>
      have hcompare : compare (some s) (some t) = compare s t := rfl
      rw [hcompare, isLE_compare_text_iff]
      simp only [Option.some_inj, forall_eq', exists_eq_left']

theorem PropertyGroup.precedes_iff_atMost {g h : PropertyGroup} :
    g.precedes h = true ↔ g.AtMost h := by
  rw [precedes, order, Ordering.isLE_then_iff_or, Ordering.isLE_then_iff_or,
    isLE_compare_description_iff, compare_texts_eq_lt_iff, compare_text_eq_lt_iff,
    LawfulEqOrd.compare_eq_iff_eq, LawfulEqOrd.compare_eq_iff_eq]
  constructor
  · rintro (hroot | ⟨hroot, hpaths | ⟨hpaths, hdescription⟩⟩)
    · exact .root hroot
    · exact .paths hroot hpaths
    · exact .description hroot hpaths hdescription
  · rintro (hroot | ⟨hroot, hpaths⟩ | ⟨hroot, hpaths, hdescription⟩)
    · exact .inl hroot
    · exact .inr ⟨hroot, .inl hpaths⟩
    · exact .inr ⟨hroot, .inr ⟨hpaths, hdescription⟩⟩

namespace Catalog

/-! ## Places -/

variable {c : Catalog}

/-- A place in the index is a position of a group and a position in it, and a look-up shows what
stands there. -/
theorem IsIndexed.exists_getElem_of_index (h : c.IsIndexed) {path : String} {place : Place}
    (hplace : c.index.get? path = some place) :
    ∃ (hgroup : place.group < c.groups.length)
      (hproperty : place.property < c.groups[place.group].properties.length),
      c.get? path = some c.groups[place.group].properties[place.property] := by
  obtain ⟨p, hp, hpath⟩ := h.get?_index_iff.mp hplace
  obtain ⟨g, hg, hproperty⟩ := propertyAt?_eq_some_iff.mp hp
  obtain ⟨hgroup, rfl⟩ := List.getElem?_eq_some_iff.mp hg
  obtain ⟨hlt, rfl⟩ := List.getElem?_eq_some_iff.mp hproperty
  refine ⟨hgroup, hlt, h.get?_eq_some_iff.mpr ⟨?_, hpath⟩⟩
  exact mem_properties_iff.mpr ⟨place, hp⟩

theorem IsIndexed.contains_iff (h : c.IsIndexed) {path : String} :
    c.contains path = true ↔ ∃ p, c.get? path = some p := by
  rw [contains, TextMap.contains_iff]
  constructor
  · rintro ⟨place, hplace⟩
    obtain ⟨hgroup, hproperty, hget⟩ := h.exists_getElem_of_index hplace
    exact ⟨_, hget⟩
  · rintro ⟨p, hget⟩
    obtain ⟨hp, hpath⟩ := h.get?_eq_some_iff.mp hget
    obtain ⟨place, hplace⟩ := mem_properties_iff.mp hp
    exact ⟨place, h.get?_index_iff.mpr ⟨p, hplace, hpath⟩⟩

/-! ## Catalogs and the groups they are built from -/

/-- The catalog holds the groups as they are, in order, and its index finds each of their
properties by its path and nothing else. -/
structure Represents (c : Catalog) (groups : List PropertyGroup) : Prop where
  /-- Its groups are those given, each unchanged. -/
  perm_groups : c.groups.Perm groups
  /-- They stand by root, then by paths, then by description. -/
  pairwise_groups : c.groups.Pairwise PropertyGroup.AtMost
  /-- Each place in the index exists, and a look-up shows what stands there. -/
  exists_place : ∀ path place, c.index.get? path = some place →
    ∃ (hgroup : place.group < c.groups.length)
      (hproperty : place.property < c.groups[place.group].properties.length),
      c.get? path = some c.groups[place.group].properties[place.property]
  /-- A look-up finds exactly the property with the path. -/
  get?_iff : ∀ path p, c.get? path = some p ↔ p ∈ c.properties ∧ p.path = path
  /-- The paths that are found are those that it says it contains. -/
  contains_iff : ∀ path, c.contains path = true ↔ ∃ p, c.get? path = some p
  /-- Its groups in any order make the same catalog again. -/
  build_eq : ∀ groups' : List PropertyGroup, groups'.Perm c.groups → build groups' = .ok c

/-- **A catalog represents its groups.** Whatever groups make a catalog, it holds them as they were,
sorted, with an index that leads to each of their properties and nowhere else; and they make it
again, in whatever order they are taken from it. -/
theorem represents_of_build {groups : List PropertyGroup} (h : build groups = .ok c) :
    c.Represents groups := by
  have hindexed := isIndexed_of_build h
  have hgroups := (build_eq_ok_iff.mp h).1
  have hperm : c.groups.Perm groups := hgroups ▸ List.mergeSort_perm groups _
  have hsorted : c.groups.Pairwise fun g h ↦ g.precedes h = true :=
    hgroups ▸ PropertyGroup.pairwise_mergeSort_precedes groups
  constructor
  case perm_groups => exact hperm
  case pairwise_groups => exact hsorted.imp PropertyGroup.precedes_iff_atMost.mp
  case exists_place => exact fun _ _ hplace ↦ hindexed.exists_getElem_of_index hplace
  case get?_iff => exact fun _ _ ↦ hindexed.get?_eq_some_iff
  case contains_iff => exact fun _ ↦ hindexed.contains_iff
  case build_eq =>
    intro groups' hperm'
    rw [build_perm (hperm'.trans hperm), h]

/-- Three groups at one root: one without properties, and two whose paths and descriptions are
ordered differently. -/
theorem represents_of_build_one_root :
    let port : Property := ⟨"a.port", .integer, none, true, "a", none, [], none⟩
    let host : Property := ⟨"a.host", .string, none, true, "a", some "here", [], none⟩
    let f : PropertyGroup := ⟨"a", some "first", [port]⟩
    let g : PropertyGroup := ⟨"a", some "second", [host]⟩
    let e : PropertyGroup := ⟨"a", none, []⟩
    let c : Catalog := ⟨[e, g, f], .ofList [("a.host", ⟨1, 0⟩), ("a.port", ⟨2, 0⟩)]⟩
    build [f, g, e] = .ok c ∧ c.Represents [f, g, e] := by
  intro port host f g e c
  have hsorted : [e, g, f].mergeSort PropertyGroup.precedes = [e, g, f] :=
    List.mergeSort_of_pairwise (by decide +kernel)
  have hperm : [f, g, e].Perm [e, g, f] := List.reverse_perm [e, g, f]
  have hbuild : build [f, g, e] = .ok c := by
    rw [build_perm hperm]
    exact build_eq_ok_iff.mpr ⟨hsorted.symm, by decide, rfl⟩
  exact ⟨hbuild, represents_of_build hbuild⟩

end Catalog

end PropertyCatalog
