import PropertyCatalog.Proofs.Validation.Report

/-!
# Reports on more values and more groups

What becomes of a report when more is bound or more is known. More values can only answer what was
missing, and they add findings of their own; what is wrong with a value stays wrong whatever stands
beside it. More groups can only add errors, and they explain paths that were unknown.

Reports are compared through `Catalog.Finds`, one kind of finding at a time. So it does not matter
that the catalogs sort and index their groups differently, nor which key the search beneath a group
comes to first.
-/

namespace PropertyCatalog

/-! ## Maps that include others -/

namespace TextMap

variable {α : Type} {m n : TextMap α}

/-- The first map shows everything that the second shows. -/
def Includes (m n : TextMap α) : Prop := ∀ key a, n.get? key = some a → m.get? key = some a

theorem includes_iff : m.Includes n ↔ ∀ e ∈ n.entries, m.get? e.1 = some e.2 := by
  constructor
  · intro h e he
    exact h e.1 e.2 (mem_entries_iff.mp he)
  · intro h key a hget
    exact h (key, a) (mem_entries_iff.mpr hget)

instance [DecidableEq α] : Decidable (m.Includes n) := decidable_of_iff _ includes_iff.symm

end TextMap

/-! ## More values -/

theorem Property.HasValue.of_includes {p : Property} {v w : BoundValues} (h : w.Includes v)
    (hv : p.HasValue v) : p.HasValue w := by
  rcases hv with ⟨value, hget⟩ | ⟨hgroup, path, value, hget, hbeneath⟩
  · exact .inl ⟨value, h p.path value hget⟩
  · exact .inr ⟨hgroup, path, value, h path value hget, hbeneath⟩

namespace Catalog

variable {c : Catalog} {v w : BoundValues} {i : Issue}

theorem Finds.of_includes_of_missing (h : w.Includes v) (hfinds : c.Finds w i)
    (hmissing : i.finding = .missingRequired) : c.Finds v i := by
  cases hfinds with
  | missing mem required unbound =>
    exact .missing mem required fun hv ↦ unbound (hv.of_includes h)
  | mismatch mem bound refused => cases hmissing
  | unknown bound unknown => cases hmissing

theorem Finds.of_includes (h : w.Includes v) (hfinds : c.Finds v i)
    (hvalue : i.finding ≠ .missingRequired) : c.Finds w i := by
  cases hfinds with
  | missing mem required unbound => exact absurd rfl hvalue
  | mismatch mem bound refused => exact .mismatch mem (h _ _ bound) refused
  | unknown bound unknown => exact .unknown (h _ _ bound) unknown

/-- Whatever is bound in the second map only stands at a path that the catalog does not know, or is
a value that the property at the path takes. -/
def TakesBeyond (c : Catalog) (v w : BoundValues) : Prop :=
  ∀ path value, w.get? path = some value → v.get? path = none →
    c.get? path = none ∨
      ∃ p, c.get? path = some p ∧ value.coercesTo p.semanticType p.members = true

theorem IsIndexed.finds_of_takesBeyond (hindexed : c.IsIndexed) (h : w.Includes v)
    (htaken : c.TakesBeyond v w) (hfinds : c.Finds w i) (herror : i.severity = .error) :
    c.Finds v i := by
  cases hfinds with
  | missing mem required unbound => exact .missing mem required fun hv ↦ unbound (hv.of_includes h)
  | @mismatch p value mem bound refused =>
    have hget : c.get? p.path = some p := hindexed.get?_eq_some_iff.mpr ⟨mem, rfl⟩
    cases hold : v.get? p.path with
    | some old =>
      -- the value was bound before
      have hsame : old = value := Option.some_inj.mp ((h _ _ hold).symm.trans bound)
      exact .mismatch mem (hsame ▸ hold) refused
    | none =>
      rcases htaken p.path value bound hold with hnone | ⟨q, hq, htakes⟩
      · rw [hget] at hnone
        cases hnone
      · rw [hget, Option.some_inj] at hq
        rw [hq, htakes] at refused
        cases refused
  | unknown bound unknown => cases herror

/-- **Reports on more values.** Beside more values nothing is missing that was not missing before,
and what was found about a value is still found. If the values that came to it are taken wherever
their paths are known, every error was there before, so values that were valid stay valid. -/
theorem validate_of_includes {groups : List PropertyGroup} (hbuild : build groups = .ok c)
    (h : w.Includes v) :
    (∀ i ∈ (c.validate w).issues, i.finding = .missingRequired → i ∈ (c.validate v).issues) ∧
      (∀ i ∈ (c.validate v).issues, i.finding ≠ .missingRequired → i ∈ (c.validate w).issues) ∧
      (c.TakesBeyond v w →
        (c.validate w).errors ⊆ (c.validate v).errors ∧
          ((c.validate v).isValid = true → (c.validate w).isValid = true)) := by
  have hindexed := isIndexed_of_build hbuild
  refine ⟨fun i hi hmissing ↦ ?_, fun i hi hvalue ↦ ?_, fun htaken ↦ ?_⟩
  · rw [hindexed.mem_issues_validate_iff] at hi ⊢
    exact hi.of_includes_of_missing h hmissing
  · rw [hindexed.mem_issues_validate_iff] at hi ⊢
    exact hi.of_includes h hvalue
  · have herrors : (c.validate w).errors ⊆ (c.validate v).errors := by
      intro i hi
      rw [Report.mem_errors_iff, hindexed.mem_issues_validate_iff] at hi ⊢
      exact ⟨hindexed.finds_of_takesBeyond h htaken hi.1 hi.2, hi.2⟩
    refine ⟨herrors, fun hvalid ↦ Report.isValid_iff.mpr fun i hi herror ↦ ?_⟩
    obtain ⟨hi', -⟩ := Report.mem_errors_iff.mp (herrors (Report.mem_errors_iff.mpr ⟨hi, herror⟩))
    exact Report.isValid_iff.mp hvalid i hi' herror

/-- A value beneath a reference to a group, at a path that is unknown, and one that is taken: the
reference and the host are no longer missing, the size still is, and the port is still at fault. -/
theorem validate_of_includes_beneath :
    let g : PropertyGroup := ⟨"a", none,
      [⟨"a.db", .group, none, true, "a", none, [], some "a.db"⟩,
        ⟨"a.host", .string, none, true, "a", none, [], none⟩,
        ⟨"a.port", .integer, none, false, "a", none, [], none⟩,
        ⟨"a.size", .integer, none, true, "a", none, [], none⟩]⟩
    let c : Catalog := ⟨[g],
      .ofList [("a.db", ⟨0, 0⟩), ("a.host", ⟨0, 1⟩), ("a.port", ⟨0, 2⟩), ("a.size", ⟨0, 3⟩)]⟩
    let v : BoundValues := .ofList [("a.port", .text "many")]
    let w : BoundValues :=
      .ofList [("a.db.url", .text "here"), ("a.host", .text "b"), ("a.port", .text "many")]
    let missing : Issue := ⟨.missingRequired, "a.size", "a.size is required but has no value"⟩
    let mismatch : Issue :=
      ⟨.typeMismatch .integer, "a.port", "\"many\" is not a valid integer"⟩
    build [g] = .ok c ∧ w.Includes v ∧ c.TakesBeyond v w ∧
      missing ∈ (c.validate w).issues ∧ missing ∈ (c.validate v).issues ∧
      mismatch ∈ (c.validate v).issues ∧ mismatch ∈ (c.validate w).issues ∧
      (c.validate w).errors ⊆ (c.validate v).errors ∧
      ((c.validate v).isValid = true → (c.validate w).isValid = true) := by
  intro g c v w missing mismatch
  have hbuild : build [g] = .ok c :=
    build_eq_ok_iff.mpr ⟨(List.mergeSort_singleton g).symm, by decide, rfl⟩
  have hincludes : w.Includes v := by decide +kernel
  have htaken : c.TakesBeyond v w := by
    intro path value hw hv
    have hmem := TextMap.mem_of_get?_ofList hw
    simp only [List.mem_cons, List.not_mem_nil, or_false, Prod.mk.injEq] at hmem
    rcases hmem with ⟨rfl, rfl⟩ | ⟨rfl, rfl⟩ | ⟨rfl, rfl⟩
    · exact .inl (by decide +kernel)
    · exact .inr ⟨_, rfl, rfl⟩
    · exact absurd hv (by decide +kernel)
  have hmissing : missing ∈ (c.validate w).issues := List.mem_mergeSort.mpr (by decide +kernel)
  have hmismatch : mismatch ∈ (c.validate v).issues := List.mem_mergeSort.mpr (by decide +kernel)
  obtain ⟨hkeeps, hstays, herrors⟩ := validate_of_includes hbuild hincludes
  exact ⟨hbuild, hincludes, htaken, hmissing, hkeeps missing hmissing rfl, hmismatch,
    hstays mismatch hmismatch nofun, herrors htaken⟩

/-! ## More groups -/

variable {d : Catalog} {values : BoundValues}

theorem properties_subset_of_build {groups all : List PropertyGroup} (hsubset : groups ⊆ all)
    (hc : build groups = .ok c) (hd : build all = .ok d) : c.properties ⊆ d.properties := by
  have hgroups : c.groups ⊆ d.groups := by
    intro g hg
    rw [(build_eq_ok_iff.mp hc).1, List.mem_mergeSort] at hg
    rw [(build_eq_ok_iff.mp hd).1, List.mem_mergeSort]
    exact hsubset hg
  intro p hp
  obtain ⟨g, hg, hpg⟩ := List.mem_flatMap.mp hp
  exact List.mem_flatMap.mpr ⟨g, hgroups hg, hpg⟩

theorem Finds.of_properties_subset (h : c.properties ⊆ d.properties) (hfinds : c.Finds values i)
    (herror : i.severity = .error) : d.Finds values i := by
  cases hfinds with
  | missing mem required unbound => exact .missing (h mem) required unbound
  | mismatch mem bound refused => exact .mismatch (h mem) bound refused
  | unknown bound unknown => cases herror

/-- A path that more properties leave unknown is unknown to fewer. -/
theorem Finds.of_properties_subset_of_unknown (h : c.properties ⊆ d.properties)
    (hfinds : d.Finds values i) (hunknown : i.finding = .unknownProperty) : c.Finds values i := by
  cases hfinds with
  | missing mem required unbound => cases hunknown
  | mismatch mem bound refused => cases hunknown
  | unknown bound unknown => exact .unknown bound fun p hp ↦ unknown p (h hp)

/-- **Reports on more groups.** When groups are added, in whatever order they are all found, every
error is reported as before, and no path becomes unknown. -/
theorem validate_of_build_append {groups more all : List PropertyGroup}
    (hall : all.Perm (groups ++ more)) (hc : build groups = .ok c) (hd : build all = .ok d)
    (values : BoundValues) :
    (c.validate values).errors ⊆ (d.validate values).errors ∧
      ∀ i ∈ (d.validate values).issues, i.finding = .unknownProperty →
        i ∈ (c.validate values).issues := by
  have hindexedC := isIndexed_of_build hc
  have hindexedD := isIndexed_of_build hd
  have hgroups : groups ⊆ all := fun g hg ↦ hall.mem_iff.mpr (List.mem_append_left more hg)
  have hproperties := properties_subset_of_build hgroups hc hd
  constructor
  · intro i hi
    rw [Report.mem_errors_iff] at hi ⊢
    rw [hindexedC.mem_issues_validate_iff] at hi
    rw [hindexedD.mem_issues_validate_iff]
    exact ⟨hi.1.of_properties_subset hproperties hi.2, hi.2⟩
  · intro i hi hunknown
    rw [hindexedD.mem_issues_validate_iff] at hi
    rw [hindexedC.mem_issues_validate_iff]
    exact hi.of_properties_subset_of_unknown hproperties hunknown

/-- A group that goes in front of the other: the value at fault there stays so, and of the two paths
that were unknown one now belongs to a property, which does not take its value. -/
theorem validate_of_build_append_in_front :
    let g : PropertyGroup := ⟨"b", none,
      [⟨"b.db", .group, none, true, "b", none, [], some "b.db"⟩,
        ⟨"b.port", .integer, none, false, "b", none, [], none⟩]⟩
    let h : PropertyGroup := ⟨"a", none, [⟨"a.size", .integer, none, true, "a", none, [], none⟩]⟩
    let c : Catalog := ⟨[g], .ofList [("b.db", ⟨0, 0⟩), ("b.port", ⟨0, 1⟩)]⟩
    let d : Catalog :=
      ⟨[h, g], .ofList [("a.size", ⟨0, 0⟩), ("b.db", ⟨1, 0⟩), ("b.port", ⟨1, 1⟩)]⟩
    let values : BoundValues :=
      .ofList [("a.size", .text "big"), ("b.port", .text "many"), ("z", .boolean true)]
    let mismatch : Issue :=
      ⟨.typeMismatch .integer, "b.port", "\"many\" is not a valid integer"⟩
    let unknown : Issue := ⟨.unknownProperty, "z", "z is not a known configuration property"⟩
    [h, g].Perm ([g] ++ [h]) ∧ build [g] = .ok c ∧ build [h, g] = .ok d ∧
      mismatch ∈ (c.validate values).errors ∧ mismatch ∈ (d.validate values).errors ∧
      unknown ∈ (d.validate values).issues ∧ unknown ∈ (c.validate values).issues := by
  intro g h c d values mismatch unknown
  have hperm : [h, g].Perm ([g] ++ [h]) := .swap g h []
  have hsorted : [h, g].mergeSort PropertyGroup.precedes = [h, g] :=
    List.mergeSort_of_pairwise (by decide +kernel)
  have hc : build [g] = .ok c :=
    build_eq_ok_iff.mpr ⟨(List.mergeSort_singleton g).symm, by decide, rfl⟩
  have hd : build [h, g] = .ok d := build_eq_ok_iff.mpr ⟨hsorted.symm, by decide, rfl⟩
  have hmismatch : mismatch ∈ (c.validate values).errors :=
    Report.mem_errors_iff.mpr ⟨List.mem_mergeSort.mpr (by decide +kernel), rfl⟩
  have hunknown : unknown ∈ (d.validate values).issues :=
    List.mem_mergeSort.mpr (by decide +kernel)
  obtain ⟨herrors, hstays⟩ := validate_of_build_append hperm hc hd values
  exact ⟨hperm, hc, hd, hmismatch, herrors hmismatch, hunknown, hstays unknown hunknown rfl⟩

end Catalog

end PropertyCatalog
