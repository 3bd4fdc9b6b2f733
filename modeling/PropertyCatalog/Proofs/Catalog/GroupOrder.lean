import PropertyCatalog.Proofs.Catalog.Index

/-!
# The order of groups

Groups are compared by a key: their root, their paths and their description. The comparison is a
total preorder of groups and a linear order of keys, so sorting fixes the sequence of keys, but not
which of two groups with one key comes first. Where no path occurs twice there are no such groups
unless they are equal: groups with one key share their paths, and a group without paths has nothing
besides its key (`eq_of_key_eq`).
-/

open Std

namespace PropertyCatalog

namespace PropertyGroup

/-! ## Keys -/

/-- What the order of groups looks at. -/
def key (g : PropertyGroup) : String × List String × Option String :=
  (g.root, g.paths, g.description)

theorem key_resolveLabels (g : PropertyGroup) : g.resolveLabels.key = g.key := by
  rw [key, key, paths, paths, resolveLabels, List.map_map]
  rfl

def keyOrder : String × List String × Option String → String × List String × Option String →
    Ordering :=
  compareLex (compareOn (·.1)) (compareLex (compareOn (·.2.1)) (compareOn (·.2.2)))

instance : TransCmp keyOrder :=
  inferInstanceAs <| TransCmp (compareLex _ (compareLex _ _))

theorem order_eq_keyOrder (g h : PropertyGroup) : order g h = keyOrder g.key h.key := rfl

theorem eq_of_keyOrder_eq {k l : String × List String × Option String}
    (h : keyOrder k l = .eq) : k = l := by
  simp only [keyOrder, compareLex_eq_eq, compareOn, LawfulEqOrd.compare_eq_iff_eq] at h
  obtain ⟨hroot, hpaths, hdescription⟩ := h
  exact Prod.ext hroot (Prod.ext hpaths hdescription)

theorem precedes_trans (f g h : PropertyGroup) (hfg : f.precedes g) (hgh : g.precedes h) :
    f.precedes h := by
  rw [precedes, order_eq_keyOrder] at hfg hgh ⊢
  exact TransCmp.isLE_trans hfg hgh

theorem precedes_total (g h : PropertyGroup) : g.precedes h || h.precedes g := by
  have hswap : keyOrder h.key g.key = (keyOrder g.key h.key).swap := OrientedCmp.eq_swap
  rw [precedes, precedes, order_eq_keyOrder, order_eq_keyOrder, hswap]
  cases keyOrder g.key h.key <;> rfl

/-! ## Sorted groups -/

theorem pairwise_mergeSort_precedes (groups : List PropertyGroup) :
    (groups.mergeSort precedes).Pairwise (precedes · ·) :=
  List.pairwise_mergeSort precedes_trans precedes_total groups

/-- There is one way to put keys in order. -/
theorem eq_of_perm_of_pairwise_keyOrder {ks ls : List (String × List String × Option String)}
    (hperm : ks.Perm ls) (hks : ks.Pairwise fun k l ↦ (keyOrder k l).isLE)
    (hls : ls.Pairwise fun k l ↦ (keyOrder k l).isLE) : ks = ls :=
  hperm.eq_of_pairwise
    (fun _ _ _ _ hkl hlk ↦ eq_of_keyOrder_eq (OrientedCmp.isLE_antisymm hkl hlk)) hks hls

theorem pairwise_map_key_mergeSort (groups : List PropertyGroup) :
    ((groups.mergeSort precedes).map key).Pairwise fun k l ↦ (keyOrder k l).isLE :=
  List.pairwise_map.mpr (pairwise_mergeSort_precedes groups)

theorem map_key_mergeSort_of_perm {groups groups' : List PropertyGroup}
    (h : groups.Perm groups') :
    (groups.mergeSort precedes).map key = (groups'.mergeSort precedes).map key := by
  have hperm : (groups.mergeSort precedes).Perm (groups'.mergeSort precedes) :=
    (List.mergeSort_perm groups _).trans (h.trans (List.mergeSort_perm groups' _).symm)
  exact eq_of_perm_of_pairwise_keyOrder (hperm.map key) (pairwise_map_key_mergeSort groups)
    (pairwise_map_key_mergeSort groups')

/-- Lists that correspond, with one key at each place, correspond once they are sorted. -/
theorem forall₂_mergeSort {r : PropertyGroup → PropertyGroup → Prop}
    {groups groups' : List PropertyGroup} (h : List.Forall₂ r groups groups')
    (hkey : ∀ g g', r g g' → g.key = g'.key) :
    List.Forall₂ r (groups.mergeSort precedes) (groups'.mergeSort precedes) := by
  obtain ⟨hlength, hzip⟩ := List.forall₂_iff_zip.mp h
  -- the lists are the two sides of one list of pairs, and sorting the pairs sorts both sides
  let pairs := groups.zip groups'
  let ordered := pairs.mergeSort fun x y ↦ precedes x.1 y.1
  have hleft : ordered.map Prod.fst = groups.mergeSort precedes := by
    rw [List.map_mergeSort (s := precedes) (f := Prod.fst) fun _ _ _ _ ↦ rfl,
      List.map_fst_zip (Nat.le_of_eq hlength)]
  have hright : ordered.map Prod.snd = groups'.mergeSort precedes := by
    have hside : ∀ x ∈ pairs, ∀ y ∈ pairs, precedes x.1 y.1 = precedes x.2 y.2 := by
      intro x hx y hy
      rw [precedes, precedes, order_eq_keyOrder, order_eq_keyOrder, hkey _ _ (hzip hx),
        hkey _ _ (hzip hy)]
    rw [List.map_mergeSort hside, List.map_snd_zip (Nat.le_of_eq hlength.symm)]
  rw [← hleft, ← hright, List.forall₂_map_left_iff, List.forall₂_map_right_iff, List.forall₂_same]
  intro x hx
  exact hzip (List.mem_mergeSort.mp hx)

theorem eq_of_mem_paths {groups : List PropertyGroup} (hnodup : (groups.flatMap (·.paths)).Nodup)
    {g h : PropertyGroup} (hg : g ∈ groups) (hh : h ∈ groups) {path : String}
    (hpg : path ∈ g.paths) (hph : path ∈ h.paths) : g = h := by
  induction groups with
  | nil => exact absurd hg List.not_mem_nil
  | cons f fs ih =>
    rw [List.flatMap_cons, List.nodup_append] at hnodup
    obtain ⟨-, hfs, hdisjoint⟩ := hnodup
    have hapart : ∀ k ∈ fs, path ∈ f.paths → path ∉ k.paths := fun k hk hpf hpk ↦
      hdisjoint path hpf path (List.mem_flatMap.mpr ⟨k, hk, hpk⟩) rfl
    rcases List.mem_cons.mp hg with rfl | hg'
    · rcases List.mem_cons.mp hh with rfl | hh'
      · rfl
      · exact absurd hph (hapart h hh' hpg)
    · rcases List.mem_cons.mp hh with rfl | hh'
      · exact absurd hpg (hapart g hg' hph)
      · exact ih hfs hg' hh'

/-- Where no path is repeated, groups are known by their keys. -/
theorem eq_of_key_eq {groups : List PropertyGroup} (hnodup : (groups.flatMap (·.paths)).Nodup)
    {g h : PropertyGroup} (hg : g ∈ groups) (hh : h ∈ groups) (hkey : g.key = h.key) : g = h := by
  have hpaths : g.paths = h.paths := congrArg (·.2.1) hkey
  cases hempty : g.paths with
  | nil =>
    -- without a path to tell them apart, the groups have nothing besides their key
    have hg' : g.properties = [] := List.map_eq_nil_iff.mp hempty
    have hh' : h.properties = [] := List.map_eq_nil_iff.mp (hpaths ▸ hempty)
    have hroot : g.root = h.root := congrArg (·.1) hkey
    have hdescription : g.description = h.description := congrArg (·.2.2) hkey
    cases g
    cases h
    congr
    exact hg'.trans hh'.symm
  | cons path paths =>
    have hmem : path ∈ g.paths := hempty ▸ List.mem_cons_self
    exact eq_of_mem_paths hnodup hg hh hmem (hpaths ▸ hmem)

end PropertyGroup

end PropertyCatalog
