import PropertyCatalog.Proofs.Catalog.Index
import PropertyCatalog.Proofs.Validation.Bound

/-!
# What a report holds

`Catalog.Finds` says what there is to report about bound values, without saying how it is found. The
report of an indexed catalog holds exactly these issues. Two facts keep them apart: a property that
misses its value is no key of the values, and a key belongs to one property at most. So no path
occurs in two issues, and sorting leaves no choice.
-/

namespace PropertyCatalog

/-! ## Issues to be found -/

/-- What there is to report when values are checked against a catalog. -/
inductive Catalog.Finds (c : Catalog) (values : BoundValues) : Issue → Prop
  /-- A property has to be bound and has no value. -/
  | missing {p : Property} (mem : p ∈ c.properties) (required : p.required = true)
      (unbound : ¬p.HasValue values) :
      Finds c values ⟨.missingRequired, p.path, p.path ++ " is required but has no value"⟩
  /-- A value stands at the path of a property that does not take it. -/
  | mismatch {p : Property} {value : BoundValue} (mem : p ∈ c.properties)
      (bound : values.get? p.path = some value)
      (refused : value.coercesTo p.semanticType p.members = false) :
      Finds c values ⟨.typeMismatch p.semanticType, p.path, p.mismatchDetail value.display⟩
  /-- A value stands at a path that no property has. -/
  | unknown {path : String} {value : BoundValue} (bound : values.get? path = some value)
      (unknown : ∀ p ∈ c.properties, p.path ≠ path) :
      Finds c values ⟨.unknownProperty, path, path ++ " is not a known configuration property"⟩

namespace Catalog

variable {c : Catalog} {values : BoundValues} {i : Issue}

/-! ## The two walks -/

theorem missingIssue?_eq_some_iff {p : Property} :
    missingIssue? values p = some i ↔
      p.required = true ∧ ¬p.HasValue values ∧
        i = ⟨.missingRequired, p.path, p.path ++ " is required but has no value"⟩ := by
  rw [missingIssue?]
  simp only [Option.ite_none_right_eq_some, Bool.and_eq_true, Bool.not_eq_true',
    Option.some_inj, and_assoc, ← Property.isBound_iff, Bool.not_eq_true]
  simp only [eq_comm]

theorem IsIndexed.valueIssue?_eq_some_iff (h : c.IsIndexed) {path : String} {value : BoundValue} :
    c.valueIssue? path value = some i ↔
      (∃ p ∈ c.properties, p.path = path ∧ value.coercesTo p.semanticType p.members = false ∧
          i = ⟨.typeMismatch p.semanticType, path, p.mismatchDetail value.display⟩) ∨
        (∀ p ∈ c.properties, p.path ≠ path) ∧
          i = ⟨.unknownProperty, path, path ++ " is not a known configuration property"⟩ := by
  rw [valueIssue?]
  cases hget : c.get? path with
  | none =>
    have hnone := h.get?_eq_none_iff.mp hget
    constructor
    · rintro ⟨⟩
      exact .inr ⟨hnone, rfl⟩
    · rintro (⟨p, hp, hpath, -⟩ | ⟨-, rfl⟩)
      · exact absurd hpath (hnone p hp)
      · rfl
  | some p =>
    obtain ⟨hp, hpath⟩ := h.get?_eq_some_iff.mp hget
    have hunique : ∀ q ∈ c.properties, q.path = path → q = p := fun q hq hq' ↦
      h.eq_of_path_eq hq hp (hq'.trans hpath.symm)
    dsimp only
    cases hcoerces : value.coercesTo p.semanticType p.members with
    | true =>
      rw [if_pos rfl]
      constructor
      · rintro ⟨⟩
      · rintro (⟨q, hq, hq', hrefused, -⟩ | ⟨hnone, -⟩)
        · rw [hunique q hq hq', hcoerces] at hrefused
          cases hrefused
        · exact absurd hpath (hnone p hp)
    | false =>
      rw [if_neg Bool.false_ne_true]
      constructor
      · rintro ⟨⟩
        exact .inl ⟨p, hp, hpath, hcoerces, rfl⟩
      · rintro (⟨q, hq, hq', -, rfl⟩ | ⟨hnone, -⟩)
        · rw [hunique q hq hq']
        · exact absurd hpath (hnone p hp)

/-- A report holds exactly what there is to report. -/
theorem IsIndexed.mem_issues_validate_iff (h : c.IsIndexed) :
    i ∈ (c.validate values).issues ↔ c.Finds values i := by
  rw [validate, List.mem_mergeSort, List.mem_append, List.mem_filterMap, List.mem_filterMap]
  constructor
  · rintro (⟨p, hp, hissue⟩ | ⟨⟨path, value⟩, hentry, hissue⟩)
    · obtain ⟨hrequired, hunbound, rfl⟩ := missingIssue?_eq_some_iff.mp hissue
      exact .missing hp hrequired hunbound
    · have hget := TextMap.mem_entries_iff.mp hentry
      rcases h.valueIssue?_eq_some_iff.mp hissue with ⟨p, hp, rfl, hrefused, rfl⟩ | ⟨hnone, rfl⟩
      · exact .mismatch hp hget hrefused
      · exact .unknown hget hnone
  · rintro (⟨hp, hrequired, hunbound⟩ | ⟨hp, hget, hrefused⟩ | ⟨hget, hnone⟩)
    · exact .inl ⟨_, hp, missingIssue?_eq_some_iff.mpr ⟨hrequired, hunbound, rfl⟩⟩
    · exact .inr ⟨(_, _), TextMap.mem_entries_iff.mpr hget,
        h.valueIssue?_eq_some_iff.mpr (.inl ⟨_, hp, rfl, hrefused, rfl⟩)⟩
    · exact .inr ⟨(_, _), TextMap.mem_entries_iff.mpr hget,
        h.valueIssue?_eq_some_iff.mpr (.inr ⟨hnone, rfl⟩)⟩

/-! ## No path twice -/

private theorem map_path_filterMap_sublist {α : Type} (f : α → Option Issue) (path : α → String)
    (hpath : ∀ a i, f a = some i → i.path = path a) (as : List α) :
    ((as.filterMap f).map (·.path)).Sublist (as.map path) := by
  induction as with
  | nil => exact .slnil
  | cons a as ih =>
    cases ha : f a with
    | none =>
      rw [List.filterMap_cons_none ha, List.map_cons]
      exact ih.cons _
    | some i =>
      rw [List.filterMap_cons_some ha, List.map_cons, List.map_cons, hpath a i ha]
      exact ih.cons_cons _

theorem IsIndexed.nodup_paths_validate (h : c.IsIndexed) (values : BoundValues) :
    ((c.validate values).issues.map (·.path)).Nodup := by
  have hmissing := map_path_filterMap_sublist (missingIssue? values) (·.path)
    (fun p i hi ↦ (missingIssue?_eq_some_iff.mp hi).2.2 ▸ rfl) c.properties
  have hbound := map_path_filterMap_sublist (fun e ↦ c.valueIssue? e.1 e.2) (·.1)
    (fun e i hi ↦ by
      rcases h.valueIssue?_eq_some_iff.mp hi with ⟨_, _, _, _, rfl⟩ | ⟨_, rfl⟩ <;> rfl)
    values.entries
  have hissues : ((c.properties.filterMap (missingIssue? values) ++ values.entries.filterMap
      fun e ↦ c.valueIssue? e.1 e.2).map (·.path)).Nodup := by
    rw [List.map_append, List.nodup_append]
    refine ⟨hmissing.nodup h.nodup_paths, hbound.nodup values.nodup_keys, ?_⟩
    -- a property that misses its value stands at no key
    rintro path hm _ hb rfl
    obtain ⟨i, hi, rfl⟩ := List.mem_map.mp hm
    obtain ⟨p, -, hp⟩ := List.mem_filterMap.mp hi
    obtain ⟨-, hunbound, rfl⟩ := missingIssue?_eq_some_iff.mp hp
    obtain ⟨⟨path, value⟩, hentry, rfl⟩ := List.mem_map.mp (hbound.subset hb)
    exact hunbound (.inl ⟨value, TextMap.mem_entries_iff.mp hentry⟩)
  exact ((List.mergeSort_perm _ Issue.precedes).map _).nodup_iff.mpr hissues

end Catalog

/-! ## Errors -/

namespace Report

variable {r : Report} {i : Issue}

theorem mem_errors_iff : i ∈ r.errors ↔ i ∈ r.issues ∧ i.severity = .error := by
  rw [errors, List.mem_filter, decide_eq_true_eq]

theorem isValid_iff : r.isValid = true ↔ ∀ i ∈ r.issues, i.severity ≠ .error := by
  simp only [isValid, List.all_eq_true, decide_eq_true_eq]

end Report

/-! ## Report order -/

namespace Issue

/-- Errors before warnings, and issues of one severity by strictly increasing path. -/
def Before (i j : Issue) : Prop :=
  i.severity = .error ∧ j.severity = .warning ∨ i.severity = j.severity ∧ i.path < j.path

theorem precedes_iff {i j : Issue} :
    i.precedes j = true ↔
      i.severity = .error ∧ j.severity = .warning ∨ i.severity = j.severity ∧ i.path ≤ j.path := by
  rw [precedes]
  cases i.severity <;> cases j.severity <;> simp

theorem precedes_trans (i j k : Issue) (hij : i.precedes j) (hjk : j.precedes k) :
    i.precedes k := by
  rw [precedes_iff] at hij hjk ⊢
  rcases hij with ⟨hi, hj⟩ | ⟨hij, hle⟩
  · rcases hjk with ⟨hj', -⟩ | ⟨hjk, -⟩
    · rw [hj] at hj'
      cases hj'
    · exact .inl ⟨hi, hjk ▸ hj⟩
  · rcases hjk with ⟨hj, hk⟩ | ⟨hjk, hle'⟩
    · exact .inl ⟨hij.trans hj, hk⟩
    · exact .inr ⟨hij.trans hjk, String.le_trans hle hle'⟩

theorem precedes_total (i j : Issue) : i.precedes j || j.precedes i := by
  rw [Bool.or_eq_true, precedes_iff, precedes_iff]
  rcases String.le_total i.path j.path with hle | hle <;>
    cases i.severity <;> cases j.severity <;> simp [hle]

theorem before_of_precedes {i j : Issue} (h : i.precedes j) (hne : i.path ≠ j.path) :
    i.Before j := by
  refine (precedes_iff.mp h).imp_right fun ⟨hseverity, hle⟩ ↦ ⟨hseverity, ?_⟩
  rcases TextMap.lt_or_eq_or_gt i.path j.path with hlt | heq | hgt
  · exact hlt
  · exact absurd heq hne
  · exact absurd hgt (String.not_lt.mpr hle)

theorem Before.irrefl (i : Issue) : ¬i.Before i := by
  rintro (⟨he, hw⟩ | ⟨-, hlt⟩)
  · rw [he] at hw
    cases hw
  · exact String.lt_irrefl _ hlt

theorem Before.asymm {i j : Issue} (hij : i.Before j) : ¬j.Before i := by
  rintro (⟨hj, hi⟩ | ⟨hji, hlt⟩)
  · rcases hij with ⟨hi', -⟩ | ⟨hij, -⟩
    · rw [hi] at hi'
      cases hi'
    · rw [hi, hj] at hij
      cases hij
  · rcases hij with ⟨hi, hj⟩ | ⟨-, hlt'⟩
    · rw [hi, hj] at hji
      cases hji
    · exact String.lt_asymm hlt hlt'

theorem nodup_of_pairwise_before {is : List Issue} (h : is.Pairwise Before) : is.Nodup := by
  refine h.imp fun {i j} hij heq ↦ ?_
  rw [heq] at hij
  exact Before.irrefl j hij

instance : Std.Antisymm Before := ⟨fun _ _ hij hji ↦ absurd hji hij.asymm⟩

theorem eq_of_pairwise_before {is js : List Issue} (his : is.Pairwise Before)
    (hjs : js.Pairwise Before) (hmem : ∀ i, i ∈ is ↔ i ∈ js) : is = js := by
  have hperm := (List.perm_ext_iff_of_nodup (nodup_of_pairwise_before his)
    (nodup_of_pairwise_before hjs)).mpr hmem
  exact hperm.eq_of_pairwise (fun _ _ _ _ hij hji ↦ absurd hji hij.asymm) his hjs

end Issue

namespace Catalog

variable {c : Catalog} {values : BoundValues}

theorem IsIndexed.pairwise_before_validate (h : c.IsIndexed) :
    (c.validate values).issues.Pairwise Issue.Before := by
  have hsorted : (c.validate values).issues.Pairwise (Issue.precedes · ·) :=
    List.pairwise_mergeSort Issue.precedes_trans Issue.precedes_total _
  have hpaths := List.pairwise_map.mp (h.nodup_paths_validate values)
  exact (hsorted.and hpaths).imp fun hij ↦ Issue.before_of_precedes hij.1 hij.2

/-- **The report is exact and canonical.** It holds what there is to report and nothing else, no
path occurs in two issues, and it is the only list in strict report order that holds these issues. -/
theorem validate_exact {groups : List PropertyGroup} (h : build groups = .ok c)
    (values : BoundValues) :
    (∀ i, i ∈ (c.validate values).issues ↔ c.Finds values i) ∧
      ((c.validate values).issues.map (·.path)).Nodup ∧
      (c.validate values).issues.Pairwise Issue.Before ∧
      ∀ issues : List Issue, (∀ i, i ∈ issues ↔ c.Finds values i) →
        issues.Pairwise Issue.Before → issues = (c.validate values).issues := by
  have hindexed := isIndexed_of_build h
  refine ⟨fun i ↦ hindexed.mem_issues_validate_iff, hindexed.nodup_paths_validate values,
    hindexed.pairwise_before_validate, fun issues hmem hsorted ↦ ?_⟩
  exact Issue.eq_of_pairwise_before hsorted hindexed.pairwise_before_validate fun i ↦
    (hmem i).trans hindexed.mem_issues_validate_iff.symm

/-- A group of two properties: one has to be bound and is not, the other does not take its value,
and a third path is unknown. -/
theorem validate_exact_two_properties :
    let g : PropertyGroup := ⟨"a", none,
      [⟨"a.db", .group, none, true, "a", none, [], some "a.db"⟩,
        ⟨"a.port", .integer, none, false, "a", none, [], none⟩]⟩
    let c : Catalog := ⟨[g], .ofList [("a.db", ⟨0, 0⟩), ("a.port", ⟨0, 1⟩)]⟩
    let values : BoundValues := .ofList [("a.port", .text "many"), ("b", .boolean true)]
    build [g] = .ok c ∧
      (∀ i, i ∈ (c.validate values).issues ↔ c.Finds values i) ∧
      ((c.validate values).issues.map (·.path)).Nodup ∧
      (c.validate values).issues.Pairwise Issue.Before ∧
      ∀ issues : List Issue, (∀ i, i ∈ issues ↔ c.Finds values i) →
        issues.Pairwise Issue.Before → issues = (c.validate values).issues := by
  intro g c values
  have hbuild : build [g] = .ok c :=
    build_eq_ok_iff.mpr ⟨(List.mergeSort_singleton g).symm, by decide, rfl⟩
  exact ⟨hbuild, validate_exact hbuild values⟩

end Catalog

end PropertyCatalog
