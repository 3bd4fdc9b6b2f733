import Mathlib.Data.List.Perm.Basic
import PropertyCatalog.Proofs.Catalog.GroupOrder
import PropertyCatalog.Proofs.Scan.Success

/-!
# Discovery order

The order in which groups are found decides nothing. Sorting may leave tied groups in the order in
which they came, but tied groups agree in root and paths, so the walk through the sorted groups
meets the same paths at the same places. It therefore fails at the same path or yields the same
index; and where it succeeds there are no ties left to break.

Scanning looks at every declaration by itself. Its position appears in errors only, so whether all
declarations are well formed does not depend on their order either.
-/

namespace PropertyCatalog

/-! ## Groups -/

theorem occurrences_mergeSort_of_perm {groups groups' : List PropertyGroup}
    (h : groups.Perm groups') :
    occurrences (groups.mergeSort PropertyGroup.precedes)
      = occurrences (groups'.mergeSort PropertyGroup.precedes) := by
  refine occurrences_congr ?_
  have hkeys := congrArg (List.map fun k ↦ (k.1, k.2.1))
    (PropertyGroup.map_key_mergeSort_of_perm h)
  rw [List.map_map, List.map_map] at hkeys
  exact hkeys

/-- Without a repeated path, sorting forgets the order that groups came in. -/
theorem mergeSort_eq_of_perm {groups groups' : List PropertyGroup} (h : groups.Perm groups')
    (hnodup : (groups.flatMap (·.paths)).Nodup) :
    groups.mergeSort PropertyGroup.precedes = groups'.mergeSort PropertyGroup.precedes := by
  have hsorted := PropertyGroup.pairwise_mergeSort_precedes
  have hperm := (List.mergeSort_perm groups PropertyGroup.precedes).trans
    (h.trans (List.mergeSort_perm groups' PropertyGroup.precedes).symm)
  -- groups that tie have one key, and no two groups share it
  refine hperm.eq_of_pairwise (fun f g hf hg hfg hgf ↦ ?_) (hsorted groups) (hsorted groups')
  have hkey : f.key = g.key :=
    PropertyGroup.eq_of_keyOrder_eq (Std.OrientedCmp.isLE_antisymm hfg hgf)
  exact PropertyGroup.eq_of_key_eq hnodup (List.mem_mergeSort.mp hf)
    (h.mem_iff.mpr (List.mem_mergeSort.mp hg)) hkey

/-- The catalog, or the error, is that of the groups in any order. -/
theorem Catalog.build_perm {groups groups' : List PropertyGroup} (h : groups.Perm groups') :
    build groups = build groups' := by
  have hoccurrences := occurrences_mergeSort_of_perm h
  rw [build, build, ← hoccurrences]
  cases hadd : addOccurrences ∅ (occurrences (groups.mergeSort PropertyGroup.precedes)) with
  | error e => rfl
  | ok index =>
    -- the walk came to its end, so no path is repeated
    have hnodup := (addOccurrences_eq_ok_iff.mp hadd).1
    rw [map_path_occurrences] at hnodup
    have hperm := (List.mergeSort_perm groups PropertyGroup.precedes).flatMap_right (·.paths)
    rw [mergeSort_eq_of_perm h (hperm.nodup_iff.mp hnodup)]

/-! ## Declarations -/

namespace ScanPolicy

variable {policy : ScanPolicy}

theorem exists_scan_ok_of_perm {declared declared' : List Declaration.Group}
    {groups : List PropertyGroup} (h : declared.Perm declared')
    (hscan : policy.scan declared = .ok groups) :
    ∃ groups', policy.scan declared' = .ok groups' ∧ groups'.Perm groups := by
  obtain ⟨groups', hgroups', hperm⟩ := List.perm_comp_forall₂ h.symm (scan_eq_ok_iff.mp hscan)
  exact ⟨groups', scan_eq_ok_iff.mpr hgroups', hperm⟩

theorem exists_scan_error_of_perm {declared declared' : List Declaration.Group}
    (h : declared.Perm declared') (herror : ∃ e, policy.buildCatalog declared = .error (.scan e)) :
    ∃ e, policy.buildCatalog declared' = .error (.scan e) := by
  simp only [buildCatalog_eq_scan_error_iff] at herror ⊢
  obtain ⟨e, he⟩ := herror
  cases hscan : policy.scan declared' with
  | error e' => exact ⟨e', rfl⟩
  | ok groups' =>
    obtain ⟨groups, hgroups, -⟩ := exists_scan_ok_of_perm h.symm hscan
    rw [hgroups] at he
    cases he

/-- **Discovery order is irrelevant.** Groups in any order make the same catalog or fail at the same
path. Declarations in any order are all well formed or not, and if they are, they too make the same
catalog or fail alike. -/
theorem buildCatalog_perm (policy : ScanPolicy) {groups groups' : List PropertyGroup}
    {declared declared' : List Declaration.Group} (hgroups : groups.Perm groups')
    (hdeclared : declared.Perm declared') :
    Catalog.build groups = Catalog.build groups' ∧
      ((∃ e, policy.buildCatalog declared = .error (.scan e)) ↔
        ∃ e, policy.buildCatalog declared' = .error (.scan e)) ∧
      ((∀ e, policy.buildCatalog declared ≠ .error (.scan e)) →
        policy.buildCatalog declared = policy.buildCatalog declared') := by
  refine ⟨Catalog.build_perm hgroups, ⟨exists_scan_error_of_perm hdeclared,
    exists_scan_error_of_perm hdeclared.symm⟩, fun hscans ↦ ?_⟩
  cases hscan : policy.scan declared with
  | error e => exact absurd (buildCatalog_eq_scan_error_iff.mpr hscan) (hscans e)
  | ok scanned =>
    obtain ⟨scanned', hscan', hperm⟩ := exists_scan_ok_of_perm hdeclared hscan
    rw [buildCatalog_of_scan hscan, buildCatalog_of_scan hscan', resolveLabels, resolveLabels,
      Catalog.build_perm (hperm.map _)]

/-- Groups tied in root and paths, and declarations that split one path in two ways. -/
theorem buildCatalog_perm_two :
    let g : PropertyGroup := ⟨"a", some "first", []⟩
    let h : PropertyGroup := ⟨"a", some "second", []⟩
    let d : Declaration.Group :=
      { root := "a.b", fields := [{ name := "c", declaredType := "String" }] }
    let e : Declaration.Group :=
      { root := "a", fields := [{ name := "b.c", declaredType := "bool" }] }
    [g, h].Perm [h, g] ∧ [d, e].Perm [e, d] ∧ Catalog.build [g, h] = Catalog.build [h, g] ∧
      ((∃ f, buildCatalog {} [d, e] = .error (.scan f)) ↔
        ∃ f, buildCatalog {} [e, d] = .error (.scan f)) ∧
      ((∀ f, buildCatalog {} [d, e] ≠ .error (.scan f)) →
        buildCatalog {} [d, e] = buildCatalog {} [e, d]) := by
  intro g h d e
  exact ⟨.swap h g [], .swap e d [], buildCatalog_perm {} (.swap h g []) (.swap e d [])⟩

end ScanPolicy

end PropertyCatalog
