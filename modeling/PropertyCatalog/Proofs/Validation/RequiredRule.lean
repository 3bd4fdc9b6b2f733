import Mathlib.Data.List.Sort
import PropertyCatalog.Proofs.Scan.RequiredRule
import PropertyCatalog.Proofs.Scan.WellFormed
import PropertyCatalog.Proofs.Validation.Report

/-!
# Reports under both rules for required properties

A catalog that asks for less reports less, and what it leaves out is that a value is missing. Both
reports are described by `Catalog.Finds`, so they are compared issue by issue; since each is the
only list of its issues in report order, one is then a sublist of the other.
-/

namespace PropertyCatalog

/-! ## Issues in report order -/

theorem Issue.sublist_of_pairwise_before {is js : List Issue} (his : is.Pairwise Before)
    (hjs : js.Pairwise Before) (hsubset : is ⊆ js) : is.Sublist js := by
  have hsubperm : is.Subperm js := List.subperm_of_subset (nodup_of_pairwise_before his) hsubset
  exact List.sublist_of_subperm_of_pairwise hsubperm his hjs

namespace Catalog.Relaxes

variable {c d : Catalog} {values : BoundValues} {i : Issue}

/-! ## Corresponding properties -/

theorem exists_of_mem_left (h : c.Relaxes d) {p : Property} (hp : p ∈ c.properties) :
    ∃ q ∈ d.properties, p.Relaxes q := by
  have hproperties : List.Forall₂ Property.Relaxes c.properties d.properties :=
    h.forall₂_properties fun _ _ hgh ↦ hgh.properties
  obtain ⟨q, hq, hpq⟩ := Outcome.exists_of_mem_of_forall₂ hproperties.flip hp
  exact ⟨q, hq, hpq⟩

theorem exists_of_mem_right (h : c.Relaxes d) {q : Property} (hq : q ∈ d.properties) :
    ∃ p ∈ c.properties, p.Relaxes q :=
  Outcome.exists_of_mem_of_forall₂ (h.forall₂_properties fun _ _ hgh ↦ hgh.properties) hq

/-! ## What there is to report -/

theorem finds_of_finds (h : c.Relaxes d) (hfinds : c.Finds values i) : d.Finds values i := by
  cases hfinds with
  | missing mem required unbound =>
    obtain ⟨_, hq, strict, rfl, hrequired⟩ := h.exists_of_mem_left mem
    have hfound : d.Finds values _ := Finds.missing hq (hrequired required) unbound
    exact hfound
  | mismatch mem bound refused =>
    obtain ⟨_, hq, strict, rfl, -⟩ := h.exists_of_mem_left mem
    have hfound : d.Finds values _ := Finds.mismatch hq bound refused
    exact hfound
  | unknown bound unknown =>
    refine .unknown bound fun q hq ↦ ?_
    obtain ⟨p, hp, strict, rfl, -⟩ := h.exists_of_mem_right hq
    exact unknown p hp

/-- What only the catalog that asks for more finds is that a value is missing. -/
theorem finds_or_missing_of_finds (h : c.Relaxes d) (hfinds : d.Finds values i) :
    c.Finds values i ∨ i.finding = .missingRequired := by
  cases hfinds with
  | missing mem required unbound => exact .inr rfl
  | mismatch mem bound refused =>
    obtain ⟨p, hp, strict, rfl, -⟩ := h.exists_of_mem_right mem
    have hfound : c.Finds values _ := Finds.mismatch hp bound refused
    exact .inl hfound
  | unknown bound unknown =>
    refine .inl (.unknown bound fun p hp ↦ ?_)
    obtain ⟨_, hq, strict, rfl, -⟩ := h.exists_of_mem_left hp
    exact fun hpath ↦ unknown _ hq hpath

end Catalog.Relaxes

namespace ScanPolicy

/-- **The rules for required properties differ in what is missed.** Under both rules declarations
make no catalog for one reason, or they make catalogs that are equal but for the properties that
have to be bound, of which the explicit rule has no more. Whatever values are checked, its report is
a sublist of the other, and what it leaves out is that a value is missing. -/
theorem related_validate (registry : TypeRegistry) (declared : List Declaration.Group) :
    Outcome.Related Eq
      (fun c d ↦ c.Relaxes d ∧ ∀ values,
        (c.validate values).issues.Sublist (d.validate values).issues ∧
          ∀ i ∈ (d.validate values).issues, i ∉ (c.validate values).issues →
            i.finding = .missingRequired)
      (buildCatalog ⟨.explicitOnly, registry⟩ declared)
      (buildCatalog ⟨.inferred, registry⟩ declared) := by
  refine (related_buildCatalog registry declared).imp fun c d hc hd h ↦ ⟨h, fun values ↦ ?_⟩
  have hindexedC := (isWellFormed_of_buildCatalog hc).toIsIndexed
  have hindexedD := (isWellFormed_of_buildCatalog hd).toIsIndexed
  constructor
  · refine Issue.sublist_of_pairwise_before hindexedC.pairwise_before_validate
      hindexedD.pairwise_before_validate fun i hi ↦ ?_
    rw [hindexedC.mem_issues_validate_iff] at hi
    rw [hindexedD.mem_issues_validate_iff]
    exact h.finds_of_finds hi
  · intro i hi hnot
    rw [hindexedD.mem_issues_validate_iff] at hi
    rw [hindexedC.mem_issues_validate_iff] at hnot
    exact (h.finds_or_missing_of_finds hi).resolve_left hnot

/-- One field that has to be bound under one rule only, one under both, and one whose value is at
fault under both. -/
theorem related_validate_three_fields :
    let declared : Declaration.Group :=
      { root := "a",
        fields := [{ name := "b", declaredType := "u8" },
          { name := "c", declaredType := "u8", required := some true },
          { name := "d", declaredType := "Option<u8>" }] }
    let group (required : Bool) : PropertyGroup := ⟨"a", none,
      [⟨"a.b", .integer, none, required, "a", none, [], none⟩,
        ⟨"a.c", .integer, none, true, "a", none, [], none⟩,
        ⟨"a.d", .integer, none, false, "a", none, [], none⟩]⟩
    let catalog (required : Bool) : Catalog := ⟨[(group required).resolveLabels],
      .ofList [("a.b", ⟨0, 0⟩), ("a.c", ⟨0, 1⟩), ("a.d", ⟨0, 2⟩)]⟩
    let issues (required : Bool) : List Issue :=
      ((catalog required).validate (.ofList [("a.d", .text "many")])).issues
    let missing : Issue := ⟨.missingRequired, "a.b", "a.b is required but has no value"⟩
    buildCatalog ⟨.explicitOnly, .standard⟩ [declared] = .ok (catalog false) ∧
      buildCatalog ⟨.inferred, .standard⟩ [declared] = .ok (catalog true) ∧
        (catalog false).Relaxes (catalog true) ∧ (issues false).Sublist (issues true) ∧
          missing ∈ issues true ∧ missing ∉ issues false ∧ missing.finding = .missingRequired := by
  intro declared group catalog issues missing
  have hscanC : scanGroup ⟨.explicitOnly, .standard⟩ 0 declared = .ok (group false) := by
    decide +kernel
  have hscanD : scanGroup ⟨.inferred, .standard⟩ 0 declared = .ok (group true) := by
    decide +kernel
  have hc : buildCatalog ⟨.explicitOnly, .standard⟩ [declared] = .ok (catalog false) :=
    buildCatalog_singleton hscanC (by decide)
  have hd : buildCatalog ⟨.inferred, .standard⟩ [declared] = .ok (catalog true) :=
    buildCatalog_singleton hscanD (by decide)
  have hrelated := related_validate .standard [declared]
  rw [hc, hd] at hrelated
  cases hrelated with
  | ok h =>
    obtain ⟨hsublist, honly⟩ := h.2 (.ofList [("a.d", .text "many")])
    have hmem : missing ∈ issues true := List.mem_mergeSort.mpr (by decide +kernel)
    have hnot : missing ∉ issues false := fun hmissing ↦
      absurd (List.mem_mergeSort.mp hmissing) (by decide +kernel)
    exact ⟨hc, hd, h.1, hsublist, hmem, hnot, honly missing hmem hnot⟩

end ScanPolicy

end PropertyCatalog
