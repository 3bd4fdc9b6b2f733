import PropertyCatalog.Proofs.Scan.Checks
import PropertyCatalog.Proofs.Scan.Success

/-!
# The verdict of a scan

A scan accepts exactly the declarations that are well formed. Otherwise it reports the first fault
of the first declaration that is not, and nothing that stands behind it matters.

Each level is settled in the same way. A first fault is what the scan reports, which is one run for
each kind of fault; and since a declaration is well formed or has a first fault, the scan reports
nothing else.
-/

namespace PropertyCatalog

open Text Declaration

/-! ## The checks as a scan makes them -/

namespace Declaration.Field

variable {field : Field} {registry : TypeRegistry} {type : SemanticType} {text : String}

theorem hasPathName_iff :
    field.HasPathName ↔ PropertyPath.isDotted (trim field.name).toList = true := by
  rw [HasPathName, ← PropertyPath.isDotted_iff, toList_trim]

theorem means_iff {meaning : TypeMeaning} :
    field.Means registry meaning ↔
      registry.resolve (unwrapOptional (trimmed field.declaredType.toList)).1 = some meaning := by
  simp only [Means, namesType_iff, exists_eq_left']

theorem hasMembers_iff :
    field.HasMembers type ↔ ¬(type = .enum ∧ usableMembers field.members = []) := by
  rw [HasMembers, ← usableMembers_ne_nil_iff, not_and]

theorem takes_iff :
    field.Takes type text ↔ textCoercesTo text type (usableMembers field.members) = true := by
  refine and_iff_right_of_imp fun hcoerces ↦ ?_
  rintro rfl
  cases hcoerces

end Declaration.Field

namespace ScanPolicy

variable {policy : ScanPolicy}

/-! ## Fields -/

theorem scanField_eq_ok_iff_isWellFormed {root : String} {field : Field} {p : Property} :
    policy.scanField root field = .ok p ↔
      ∃ meaning, field.IsWellFormed policy.registry meaning ∧
        p = policy.declaredProperty root field meaning := by
  rw [scanField_eq_ok_iff]
  constructor
  · rintro ⟨hname, meaning, hmeaning, hmembers, hdefault, rfl⟩
    refine ⟨meaning, ⟨Field.hasPathName_iff.mpr hname, Field.means_iff.mpr hmeaning,
      Field.hasMembers_iff.mpr (not_and.mpr hmembers), fun text hgiven ↦ ?_,
      fun text hgiven ↦ ?_⟩, rfl⟩
    · exact isMultiline_eq_false_iff.mp (hdefault text hgiven).1
    · exact Field.takes_iff.mpr (hdefault text hgiven).2
  · rintro ⟨meaning, h, rfl⟩
    refine ⟨Field.hasPathName_iff.mp h.name, meaning, Field.means_iff.mp h.type,
      not_and.mp (Field.hasMembers_iff.mp h.members), fun text hgiven ↦ ⟨?_, ?_⟩, rfl⟩
    · exact isMultiline_eq_false_iff.mpr (h.line text hgiven)
    · exact Field.takes_iff.mp (h.value text hgiven)

theorem exists_scanField_ok_iff (root : String) {field : Field} :
    (∃ p, policy.scanField root field = .ok p) ↔
      ∃ meaning, field.IsWellFormed policy.registry meaning := by
  simp only [scanField_eq_ok_iff_isWellFormed]
  constructor
  · rintro ⟨p, meaning, h, -⟩
    exact ⟨meaning, h⟩
  · rintro ⟨meaning, h⟩
    exact ⟨_, meaning, h, rfl⟩

/-- What is left to check once the name is a path and the type is known. -/
theorem scanField_of_means {root : String} {field : Field} {meaning : TypeMeaning}
    (name : field.HasPathName) (type : field.Means policy.registry meaning) :
    policy.scanField root field =
      if meaning.semanticType = .enum ∧ usableMembers field.members = [] then
        .error (.unsupportedType (field.path root) field.declaredType)
      else match field.defaultText.bind (defaultFault? (field.path root) · meaning.semanticType
          (usableMembers field.members)) with
        | some fault => .error fault
        | none => .ok (policy.declaredProperty root field meaning) := by
  rw [Field.hasPathName_iff] at name
  rw [Field.means_iff] at type
  rw [scanField]
  simp only [name, type, Bool.not_true, Bool.false_eq_true, if_false]
  rfl

theorem scanField_of_firstFault {root : String} {field : Field} {e : ScanError}
    (h : field.FirstFault policy.registry root e) : policy.scanField root field = .error e := by
  cases h with
  | name fault =>
    rw [Field.hasPathName_iff, Bool.not_eq_true] at fault
    rw [scanField]
    simp only [fault, Bool.not_false, if_true]
  | type name fault =>
    have hnone : policy.registry.resolve
        (unwrapOptional (trimmed field.declaredType.toList)).1 = none := by
      rw [Option.eq_none_iff_forall_ne_some]
      exact fun meaning hmeaning ↦ fault meaning (Field.means_iff.mpr hmeaning)
    rw [Field.hasPathName_iff] at name
    rw [scanField]
    simp only [name, hnone, Bool.not_true, Bool.false_eq_true, if_false]
    rfl
  | members name type fault =>
    rw [Field.hasMembers_iff, not_not] at fault
    rw [scanField_of_means name type, if_pos fault]
  | line name type members given fault =>
    rw [← isMultiline_eq_false_iff, Bool.not_eq_false] at fault
    rw [Field.hasMembers_iff] at members
    rw [scanField_of_means name type, if_neg members, given, Option.bind_some, defaultFault?,
      if_pos fault]
  | value name type members given line fault =>
    rw [← isMultiline_eq_false_iff, ← Bool.not_eq_true] at line
    rw [Field.takes_iff] at fault
    rw [Field.hasMembers_iff] at members
    rw [scanField_of_means name type, if_neg members, given, Option.bind_some, defaultFault?,
      if_neg line, if_neg fault]

theorem scanField_eq_error_iff {root : String} {field : Field} {e : ScanError} :
    policy.scanField root field = .error e ↔ field.FirstFault policy.registry root e := by
  refine ⟨fun herror ↦ ?_, scanField_of_firstFault⟩
  rcases field.isWellFormed_or_firstFault policy.registry root with hwell | ⟨e', hfault⟩
  · obtain ⟨p, hp⟩ := (exists_scanField_ok_iff root).mpr hwell
    rw [hp] at herror
    cases herror
  · rw [scanField_of_firstFault hfault] at herror
    cases herror
    exact hfault

/-! ## Groups -/

theorem exists_scanGroup_ok_iff (index : Nat) {declared : Group} :
    (∃ g, policy.scanGroup index declared = .ok g) ↔ declared.IsWellFormed policy.registry := by
  simp only [scanGroup_eq_ok_iff]
  constructor
  · rintro ⟨g, hroot, hfields, -, -, hproperties⟩
    rw [toList_trim, PropertyPath.isDotted_iff] at hroot
    refine ⟨hroot, hfields, fun field hfield ↦ ?_⟩
    obtain ⟨p, hp⟩ := Outcome.exists_mapM_ok_iff.mp ⟨_, Outcome.mapM_eq_ok_iff.mpr hproperties⟩
      field hfield
    exact (exists_scanField_ok_iff _).mp ⟨p, hp⟩
  · intro h
    obtain ⟨properties, hproperties⟩ := Outcome.exists_mapM_ok_iff.mpr fun field hfield ↦
      (exists_scanField_ok_iff (trim declared.root)).mpr (h.fields field hfield)
    refine ⟨⟨trim declared.root, declared.description, properties⟩, ?_, h.fields_ne_nil, rfl, rfl,
      Outcome.mapM_eq_ok_iff.mp hproperties⟩
    rw [toList_trim, PropertyPath.isDotted_iff]
    exact h.root

theorem scanGroup_eq_error_iff {index : Nat} {declared : Group} {e : ScanError} :
    policy.scanGroup index declared = .error e ↔ declared.FirstFault policy.registry index e := by
  have hshape : PropertyPath.isDotted (trim declared.root).toList = true ↔
      PropertyPath.WellShaped (trimmed declared.root.toList) := by
    rw [toList_trim, PropertyPath.isDotted_iff]
  rw [scanGroup]
  cases hroot : PropertyPath.isDotted (trim declared.root).toList with
  | false =>
    have hfault : ¬PropertyPath.WellShaped (trimmed declared.root.toList) := by
      rw [← hshape, hroot]
      exact Bool.false_ne_true
    simp only [Bool.not_false, if_true, Except.error.injEq]
    constructor
    · rintro rfl
      exact .root hfault
    · rintro (_ | ⟨root, -⟩ | ⟨root, -, -, -⟩)
      · rfl
      · exact absurd root hfault
      · exact absurd root hfault
  | true =>
    have hpath := hshape.mp hroot
    simp only [Bool.not_true, Bool.false_eq_true, if_false]
    by_cases hfields : declared.fields = []
    · rw [if_pos hfields, Except.error.injEq]
      constructor
      · rintro rfl
        exact .empty hpath hfields
      · rintro (fault | _ | ⟨-, fields, -, -⟩)
        · exact absurd hpath fault
        · rfl
        · rw [hfields] at fields
          exact absurd fields.symm (by simp)
    · rw [if_neg hfields, Outcome.map_eq_error_iff, Outcome.mapM_eq_error_iff]
      simp only [exists_scanField_ok_iff, scanField_eq_error_iff]
      constructor
      · rintro ⟨before, field, after, heq, hbefore, hfault⟩
        exact .field hpath heq hbefore hfault
      · rintro (fault | ⟨-, fault⟩ | ⟨-, heq, hbefore, hfault⟩)
        · exact absurd hpath fault
        · exact absurd fault hfields
        · exact ⟨_, _, _, heq, hbefore, hfault⟩

/-! ## Lists of declarations -/

private theorem forall_mem_zipIdx_iff {declared : List Group} {k : Nat} {P : Group → Prop} :
    (∀ x ∈ declared.zipIdx k, P x.1) ↔ ∀ d ∈ declared, P d := by
  conv_rhs => rw [← List.zipIdx_map_fst k declared]
  rw [List.forall_mem_map]

theorem exists_scan_ok_iff {declared : List Group} :
    (∃ groups, policy.scan declared = .ok groups) ↔
      ∀ d ∈ declared, d.IsWellFormed policy.registry := by
  rw [scan, Outcome.exists_mapM_ok_iff]
  simp only [exists_scanGroup_ok_iff]
  exact forall_mem_zipIdx_iff (P := (·.IsWellFormed policy.registry))

theorem scan_eq_error_iff {declared : List Group} {e : ScanError} :
    policy.scan declared = .error e ↔
      ∃ before d after, declared = before ++ d :: after ∧
        (∀ d' ∈ before, d'.IsWellFormed policy.registry) ∧
          d.FirstFault policy.registry before.length e := by
  rw [scan, Outcome.mapM_eq_error_iff]
  simp only [exists_scanGroup_ok_iff, scanGroup_eq_error_iff]
  constructor
  · rintro ⟨_, _, _, hzip, hbefore, hfault⟩
    obtain ⟨before, rest, rfl, rfl, hrest⟩ := List.zipIdx_eq_append_iff.mp hzip
    obtain ⟨d, after, rfl, rfl, -⟩ := List.zipIdx_eq_cons_iff.mp hrest.symm
    rw [Nat.zero_add] at hfault
    exact ⟨before, d, after, rfl,
      forall_mem_zipIdx_iff (P := (·.IsWellFormed policy.registry)).mp hbefore, hfault⟩
  · rintro ⟨before, d, after, rfl, hbefore, hfault⟩
    refine ⟨before.zipIdx, (d, before.length), after.zipIdx (before.length + 1), ?_,
      forall_mem_zipIdx_iff (P := (·.IsWellFormed policy.registry)).mpr hbefore, hfault⟩
    rw [List.zipIdx_append, List.zipIdx_cons, Nat.zero_add]

theorem not_isWellFormed_of_firstFault {declared : Group} {index : Nat} {e : ScanError}
    (h : declared.FirstFault policy.registry index e) :
    ¬declared.IsWellFormed policy.registry := by
  intro hwell
  obtain ⟨g, hg⟩ := (exists_scanGroup_ok_iff index).mpr hwell
  rw [scanGroup_eq_error_iff.mpr h] at hg
  cases hg

/-- Each field makes one property, in order, at its path below the root. -/
theorem paths_of_scanGroup {index : Nat} {declared : Group} {g : PropertyGroup}
    (h : policy.scanGroup index declared = .ok g) : g.paths = declared.paths := by
  obtain ⟨-, -, -, -, hproperties⟩ := scanGroup_eq_ok_iff.mp h
  refine (Outcome.map_eq_map_of_forall₂ hproperties fun field p hp ↦ ?_).symm
  obtain ⟨meaning, -, rfl⟩ := scanField_eq_ok_iff_isWellFormed.mp hp
  rfl

/-- **The verdict of a scan.** A scan accepts exactly the lists of well-formed declarations, and
then it yields one group for each declaration and one property for each field, in order, at the path
of the root and the name. Otherwise it reports the first fault of the first declaration that is not
well formed. -/
theorem scan_verdict (policy : ScanPolicy) (declared : List Group) :
    ((∃ groups, policy.scan declared = .ok groups) ↔
        ∀ d ∈ declared, d.IsWellFormed policy.registry) ∧
      (∀ groups, policy.scan declared = .ok groups →
        List.Forall₂ (fun d g ↦ g.root = trim d.root ∧ g.description = d.description ∧
          g.paths = d.fields.map fun field ↦ trim d.root ++ "." ++ trim field.name)
          declared groups) ∧
      ∀ e, policy.scan declared = .error e ↔
        ∃ before d after, declared = before ++ d :: after ∧
          (∀ d' ∈ before, d'.IsWellFormed policy.registry) ∧ ¬d.IsWellFormed policy.registry ∧
            d.FirstFault policy.registry before.length e := by
  refine ⟨exists_scan_ok_iff, fun groups hscan ↦ ?_, fun e ↦ ?_⟩
  · refine (scan_eq_ok_iff.mp hscan).imp fun d g hg ↦ ?_
    obtain ⟨-, -, hroot, hdescription, -⟩ := scanGroup_eq_ok_iff.mp hg
    exact ⟨hroot, hdescription, paths_of_scanGroup hg⟩
  · rw [scan_eq_error_iff]
    constructor
    · rintro ⟨before, d, after, heq, hbefore, hfault⟩
      exact ⟨before, d, after, heq, hbefore, not_isWellFormed_of_firstFault hfault, hfault⟩
    · rintro ⟨before, d, after, heq, hbefore, -, hfault⟩
      exact ⟨before, d, after, heq, hbefore, hfault⟩

/-- The error tells where the declaration stands among all of them. -/
example :
    let good : Group := { root := " a.b ", fields := [{ name := "c", declaredType := "u8" }] }
    scan {} [good, good, { root := "a..b" }, { root := "" }] = .error (.invalidRoot 2 "a..b") := by
  decide +kernel

end ScanPolicy

end PropertyCatalog
