import PropertyCatalog.Proofs.Label.Derived
import PropertyCatalog.Proofs.Scan.FirstFault
import PropertyCatalog.Proofs.Scan.WellFormed

/-!
# What a catalog promises of its properties

Whoever reads a catalog relies on its properties without checking them again: that a path continues
the root of its group, that enumerated types have members and no other type has any, that a default
is a value, that a reference stands where there is a group to refer to, and that there is a label.
`Property.IsSound` collects these promises. Each of them is settled where a field is scanned or its
label is resolved; building a catalog only moves groups.
-/

namespace PropertyCatalog

open Text

/-- What is promised of a property in the group at a root. -/
structure Property.IsSound (p : Property) (registry : TypeRegistry) (root : String) : Prop where
  /-- The property knows the root of its group. -/
  groupRoot_eq : p.groupRoot = root
  /-- The path continues the root by a name. -/
  path_eq : ∃ name, name ≠ "" ∧ p.path = root ++ "." ++ name
  /-- The path holds no blank and no empty segment. -/
  wellShaped_path : PropertyPath.WellShaped p.path.toList
  /-- Enumerated types have members, and no other type has any. -/
  members_ne_nil_iff : p.members ≠ [] ↔ p.semanticType = .enum
  /-- No member is blank, and none has blanks around it. -/
  trimmed_of_mem : ∀ m ∈ p.members, m ≠ "" ∧ trim m = m
  /-- A default is one line, and a value of a type that takes values. -/
  default_isValue : ∀ text, p.defaultText = some text → p.semanticType ≠ .group ∧
    Declaration.IsOneLine text ∧ textCoercesTo text p.semanticType p.members = true
  /-- Only references to groups refer to one. -/
  semanticType_of_reference : ∀ target, p.reference = some target → p.semanticType = .group
  /-- They all do, unless a name was registered for the bare type. -/
  reference_of_semanticType :
    (∀ name, registry.meanings.get? name ≠ some (.semantic .group)) →
      p.semanticType = .group → ∃ target, p.reference = some target
  /-- There is a label, and no blanks stand around it. -/
  label_eq : ∃ label, p.label = some label ∧ trim label = label

/-! ## Types -/

theorem TypeRegistry.get?_of_resolve {registry : TypeRegistry} {name : List Char}
    {type : SemanticType} (h : registry.resolve name = some (.semantic type)) :
    registry.meanings.get? (String.ofList (trimmed name)) = some (.semantic type) := by
  rw [resolve] at h
  split at h
  · dsimp only at h
    split at h <;> cases h
  · exact h

theorem TypeMeaning.semanticType_of_reference {meaning : TypeMeaning} {target : String}
    (h : meaning.reference = some target) : meaning.semanticType = .group := by
  cases meaning with
  | semantic type => cases h
  | group root => rfl

/-- A meaning that refers to no group means the bare type. -/
theorem TypeMeaning.eq_semantic_or_exists_reference {meaning : TypeMeaning}
    (h : meaning.semanticType = .group) :
    meaning = .semantic .group ∨ ∃ target, meaning.reference = some target := by
  cases meaning with
  | semantic type => exact .inl (congrArg TypeMeaning.semantic h)
  | group root => exact .inr ⟨root, rfl⟩

/-! ## Members -/

theorem trim_of_mem_usableMembers {members : List String} {m : String}
    (h : m ∈ usableMembers members) : trim m = m := by
  obtain ⟨declared, -, rfl⟩ := List.mem_map.mp (List.mem_filter.mp h).1
  exact trim_trim declared

namespace ScanPolicy

variable {policy : ScanPolicy}

/-! ## Fields -/

/-- Enumerated types keep the members that are not blank, and no other type keeps any. -/
theorem members_ne_nil_iff_of_isWellFormed {field : Declaration.Field} {meaning : TypeMeaning}
    (h : field.IsWellFormed policy.registry meaning) (root : String) :
    (policy.declaredProperty root field meaning).members ≠ [] ↔ meaning.semanticType = .enum := by
  rw [declaredProperty]
  by_cases henum : meaning.semanticType = .enum
  · rw [if_pos henum, Declaration.usableMembers_ne_nil_iff]
    exact ⟨fun _ ↦ henum, h.members⟩
  · rw [if_neg henum]
    exact ⟨fun hne ↦ absurd rfl hne, fun htype ↦ absurd htype henum⟩

theorem trim_of_mem_members {root : String} {field : Declaration.Field} {meaning : TypeMeaning}
    {m : String} (h : m ∈ (policy.declaredProperty root field meaning).members) : trim m = m := by
  rw [declaredProperty] at h
  split at h
  · exact trim_of_mem_usableMembers h
  · cases h

theorem isSound_of_scanField {root : String} {field : Declaration.Field} {p : Property}
    (hroot : PropertyPath.isDotted root.toList = true)
    (hscan : policy.scanField root field = .ok p) : p.resolveLabel.IsSound policy.registry root := by
  have hformed := isWellFormed_of_scanField hroot hscan
  obtain ⟨meaning, h, rfl⟩ := scanField_eq_ok_iff_isWellFormed.mp hscan
  constructor
  case groupRoot_eq => rfl
  case path_eq =>
    refine ⟨trim field.name, fun hempty ↦ h.name.ne_nil ?_, rfl⟩
    rw [← toList_trim, hempty]
    rfl
  case wellShaped_path => exact PropertyPath.isDotted_iff.mp hformed.isDotted_path
  case members_ne_nil_iff => exact members_ne_nil_iff_of_isWellFormed h root
  case trimmed_of_mem =>
    have htrim : ∀ m ∈ (policy.declaredProperty root field meaning).members, trim m = m :=
      fun _ ↦ trim_of_mem_members
    exact fun m hm ↦ ⟨hformed.ne_empty_of_mem m hm, htrim m hm⟩
  case default_isValue =>
    exact fun text hgiven ↦ ⟨(h.value text hgiven).1, h.line text hgiven,
      hformed.coercesTo_default text hgiven⟩
  case semanticType_of_reference => exact fun _ ↦ TypeMeaning.semanticType_of_reference
  case reference_of_semanticType =>
    intro hbare hgroup
    refine (TypeMeaning.eq_semantic_or_exists_reference hgroup).resolve_left ?_
    rintro rfl
    obtain ⟨name, -, hresolve⟩ := h.type
    exact hbare _ (TypeRegistry.get?_of_resolve hresolve)
  case label_eq => exact ⟨_, rfl, Label.trim_resolve field.label _⟩

/-! ## Catalogs -/

theorem isSound_of_scanGroup {index : Nat} {declared : Declaration.Group} {g : PropertyGroup}
    (h : policy.scanGroup index declared = .ok g) :
    ∀ p ∈ g.resolveLabels.properties, p.IsSound policy.registry g.root := by
  obtain ⟨hroot, -, hg, -, hfields⟩ := scanGroup_eq_ok_iff.mp h
  intro p hp
  obtain ⟨q, hq, rfl⟩ := List.mem_map.mp hp
  obtain ⟨field, -, hfield⟩ := Outcome.exists_of_mem_of_forall₂ hfields hq
  rw [hg]
  exact isSound_of_scanField hroot hfield

/-- **What a catalog promises of its properties.** Whatever the policy, every property of a catalog
made of declarations is sound. -/
theorem isSound_of_buildCatalog (policy : ScanPolicy) {declared : List Declaration.Group}
    {c : Catalog} (h : policy.buildCatalog declared = .ok c) :
    ∀ g ∈ c.groups, ∀ p ∈ g.properties, p.IsSound policy.registry g.root := by
  intro g hg
  obtain ⟨d, -, scanned, hd, rfl⟩ := exists_scanGroup_of_mem_groups h hg
  exact isSound_of_scanGroup hd

/-- Members between blanks, a reference, a default, and labels missing, blank and between blanks. -/
theorem isSound_of_buildCatalog_three_types :
    let d : Declaration.Group :=
      { root := " app ",
        fields := [{ name := "log-mode", declaredType := "enum", label := some " ",
                     members := [" on ", " ", "off"] },
          { name := "db", declaredType := "Option< group: app.db >" },
          { name := "poolSize", declaredType := "u16", label := some " Size | of pool ",
            defaultText := some " 8 " }] }
    let g : PropertyGroup := ⟨"app", none,
      [⟨"app.log-mode", .enum, some " ", true, "app", none, ["on", "off"], none⟩,
        ⟨"app.db", .group, none, false, "app", none, [], some "app.db"⟩,
        ⟨"app.poolSize", .integer, some " Size | of pool ", false, "app", some " 8 ", [], none⟩]⟩
    let c : Catalog := ⟨[g.resolveLabels],
      .ofList [("app.log-mode", ⟨0, 0⟩), ("app.db", ⟨0, 1⟩), ("app.poolSize", ⟨0, 2⟩)]⟩
    buildCatalog {} [d] = .ok c ∧
      ∀ g ∈ c.groups, ∀ p ∈ g.properties, p.IsSound .standard g.root := by
  intro d g c
  have hscan : scanGroup {} 0 d = .ok g := by decide +kernel
  have hbuild : buildCatalog {} [d] = .ok c := buildCatalog_singleton hscan (by decide)
  exact ⟨hbuild, isSound_of_buildCatalog {} hbuild⟩

end ScanPolicy

end PropertyCatalog
