import PropertyCatalog.Proofs.Catalog.Index

/-!
# When scanning succeeds

What a scan accepts, level by level: a field, a declaration, a list of declarations, and then a
catalog. Each statement says all that the step checks and all that it yields, so nothing else has to
look into the scan.

Positions are missing from these statements on purpose. A declaration's position is part of an
error and of nothing that succeeds.
-/

namespace PropertyCatalog

open Text

/-! ## Fields -/

/-- A property passes the check of its default exactly when there is none, or one of a single line
that the type takes. -/
theorem bind_defaultFault?_eq_none_iff (path : String) {defaultText : Option String}
    {type : SemanticType} {members : List String} :
    defaultText.bind (defaultFault? path · type members) = none ↔
      ∀ text, defaultText = some text →
        isMultiline text = false ∧ textCoercesTo text type members = true := by
  cases defaultText with
  | none => simp
  | some text =>
    simp only [Option.bind_some, Option.some_inj, forall_eq', defaultFault?]
    cases isMultiline text <;> cases textCoercesTo text type members <;> simp

namespace ScanPolicy

/-- The property that a field makes when its type has the given meaning. -/
def declaredProperty (policy : ScanPolicy) (root : String) (field : Declaration.Field)
    (meaning : TypeMeaning) : Property where
  path := PropertyPath.below root (trim field.name)
  semanticType := meaning.semanticType
  label := field.label
  required := policy.rule.isRequired field (unwrapOptional (trimmed field.declaredType.toList)).2
  groupRoot := root
  defaultText := field.defaultText
  members := if meaning.semanticType = .enum then usableMembers field.members else []
  reference := meaning.reference

variable {policy : ScanPolicy}

theorem scanField_eq_ok_iff {root : String} {field : Declaration.Field} {p : Property} :
    policy.scanField root field = .ok p ↔
      PropertyPath.isDotted (trim field.name).toList = true ∧
        ∃ meaning,
          policy.registry.resolve (unwrapOptional (trimmed field.declaredType.toList)).1
              = some meaning ∧
            (meaning.semanticType = .enum → usableMembers field.members ≠ []) ∧
            (∀ text, field.defaultText = some text → isMultiline text = false ∧
              textCoercesTo text meaning.semanticType (usableMembers field.members) = true) ∧
            p = policy.declaredProperty root field meaning := by
  rw [scanField]
  cases hname : PropertyPath.isDotted (trim field.name).toList with
  | false => simp
  | true =>
    cases hmeaning : policy.registry.resolve
        (unwrapOptional (trimmed field.declaredType.toList)).1 with
    | none => simp [hmeaning]
    | some meaning =>
      simp only [Bool.not_true, Bool.false_eq_true, if_false, hmeaning, true_and,
        Option.some_inj, exists_eq_left']
      by_cases hmembers : meaning.semanticType = .enum ∧ usableMembers field.members = []
      · rw [if_pos hmembers]
        exact ⟨nofun, fun h ↦ absurd hmembers.2 (h.1 hmembers.1)⟩
      · rw [if_neg hmembers,
          ← bind_defaultFault?_eq_none_iff (PropertyPath.below root (trim field.name))]
        cases hfault : field.defaultText.bind (defaultFault?
            (PropertyPath.below root (trim field.name)) · meaning.semanticType
            (usableMembers field.members)) with
        | some fault => exact ⟨nofun, fun h ↦ nomatch h.2.1⟩
        | none =>
          refine ⟨?_, ?_⟩
          · rintro ⟨⟩
            exact ⟨fun htype hnone ↦ hmembers ⟨htype, hnone⟩, rfl, rfl⟩
          · rintro ⟨-, -, rfl⟩
            rfl

/-! ## Declarations -/

theorem scanGroup_eq_ok_iff {index : Nat} {declared : Declaration.Group} {g : PropertyGroup} :
    policy.scanGroup index declared = .ok g ↔
      PropertyPath.isDotted (trim declared.root).toList = true ∧ declared.fields ≠ [] ∧
        g.root = trim declared.root ∧ g.description = declared.description ∧
          List.Forall₂ (fun field p ↦ policy.scanField (trim declared.root) field = .ok p)
            declared.fields g.properties := by
  rw [scanGroup]
  cases hroot : PropertyPath.isDotted (trim declared.root).toList with
  | false => simp
  | true =>
    by_cases hfields : declared.fields = []
    · simp [hfields]
    · simp only [Bool.not_true, Bool.false_eq_true, if_false, if_neg hfields,
        Outcome.map_eq_ok_iff, Outcome.mapM_eq_ok_iff]
      constructor
      · rintro ⟨properties, hproperties, rfl⟩
        exact ⟨trivial, hfields, rfl, rfl, hproperties⟩
      · rintro ⟨-, -, hg, hdescription, hproperties⟩
        refine ⟨g.properties, hproperties, ?_⟩
        rw [← hg, ← hdescription]

theorem scan_eq_ok_iff {declared : List Declaration.Group} {groups : List PropertyGroup} :
    policy.scan declared = .ok groups ↔
      List.Forall₂ (fun d g ↦ policy.scanGroup 0 d = .ok g) declared groups := by
  have hscan : policy.scan declared = declared.zipIdx.mapM fun x ↦ policy.scanGroup x.2 x.1 := rfl
  -- where a declaration stands makes no difference to what it yields
  have hposition : (fun (x : Declaration.Group × Nat) g ↦ policy.scanGroup x.2 x.1 = .ok g)
      = fun x g ↦ policy.scanGroup 0 x.1 = .ok g := by
    funext x g
    rw [scanGroup_eq_ok_iff, scanGroup_eq_ok_iff]
  rw [hscan, Outcome.mapM_eq_ok_iff, hposition]
  conv_rhs => rw [← List.zipIdx_map_fst 0 declared]
  rw [List.forall₂_map_left_iff]

/-! ## Catalogs -/

theorem buildCatalog_of_scan {declared : List Declaration.Group} {groups : List PropertyGroup}
    (hscan : policy.scan declared = .ok groups) :
    policy.buildCatalog declared
      = (Catalog.build (resolveLabels groups)).mapError .catalog := by
  rw [buildCatalog, hscan]
  rfl

theorem buildCatalog_eq_scan_error_iff {declared : List Declaration.Group} {e : ScanError} :
    policy.buildCatalog declared = .error (.scan e) ↔ policy.scan declared = .error e := by
  cases hscan : policy.scan declared with
  | error e' =>
    rw [buildCatalog, hscan]
    constructor
    · rintro ⟨⟩
      rfl
    · rintro ⟨⟩
      rfl
  | ok groups =>
    rw [buildCatalog_of_scan hscan, Outcome.mapError_eq_error_iff]
    simp

/-- Declarations make a catalog when they scan and the groups, with their labels resolved, make it. -/
theorem buildCatalog_eq_ok_iff {declared : List Declaration.Group} {c : Catalog} :
    policy.buildCatalog declared = .ok c ↔
      ∃ groups, policy.scan declared = .ok groups ∧ Catalog.build (resolveLabels groups) = .ok c := by
  simp only [buildCatalog, Outcome.bind_eq_ok_iff, Outcome.mapError_eq_ok_iff]

theorem exists_scanGroup_of_mem_groups {declared : List Declaration.Group} {c : Catalog}
    (h : policy.buildCatalog declared = .ok c) {g : PropertyGroup} (hg : g ∈ c.groups) :
    ∃ d ∈ declared, ∃ scanned, policy.scanGroup 0 d = .ok scanned ∧ scanned.resolveLabels = g := by
  obtain ⟨groups, hscan, hbuild⟩ := buildCatalog_eq_ok_iff.mp h
  rw [(Catalog.build_eq_ok_iff.mp hbuild).1, List.mem_mergeSort] at hg
  obtain ⟨scanned, hscanned, hresolved⟩ := List.mem_map.mp hg
  obtain ⟨d, hd, hgroup⟩ := Outcome.exists_of_mem_of_forall₂ (scan_eq_ok_iff.mp hscan) hscanned
  exact ⟨d, hd, scanned, hgroup, hresolved⟩

/-- A single declaration leaves nothing to sort. -/
theorem buildCatalog_singleton {declared : Declaration.Group} {g : PropertyGroup}
    (hscan : policy.scanGroup 0 declared = .ok g) (hnodup : g.resolveLabels.paths.Nodup) :
    policy.buildCatalog [declared] = .ok ⟨[g.resolveLabels],
      .ofList ((occurrences [g.resolveLabels]).map fun o ↦ (o.path, o.place))⟩ := by
  refine buildCatalog_eq_ok_iff.mpr ⟨[g], scan_eq_ok_iff.mpr (.cons hscan .nil), ?_⟩
  rw [resolveLabels, List.map_singleton, Catalog.build_eq_ok_iff, List.flatMap_singleton]
  exact ⟨(List.mergeSort_singleton g.resolveLabels).symm, hnodup, rfl⟩

end ScanPolicy

end PropertyCatalog
