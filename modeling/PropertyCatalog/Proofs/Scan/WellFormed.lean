import PropertyCatalog.Proofs.Catalog.Index
import PropertyCatalog.Proofs.Scan.Success

/-!
# What is known of scanned properties

The checks of a scan as facts that hold ever after. Neither resolving labels nor sorting groups
touches what they are about, so they hold of every property of a catalog.
-/

namespace PropertyCatalog

open Text

/-- The property is as a scan leaves it. -/
structure Property.IsWellFormed (p : Property) : Prop where
  /-- The path consists of segments without blanks. -/
  isDotted_path : PropertyPath.isDotted p.path.toList = true
  /-- No member is empty. -/
  ne_empty_of_mem : ∀ m ∈ p.members, m ≠ ""
  /-- A default stays on one line. -/
  not_isMultiline_default : ∀ text, p.defaultText = some text → isMultiline text = false
  /-- The type takes the default. -/
  coercesTo_default : ∀ text, p.defaultText = some text →
    textCoercesTo text p.semanticType p.members = true

/-- The group is as a scan leaves it. -/
structure PropertyGroup.IsWellFormed (g : PropertyGroup) : Prop where
  /-- The root consists of segments without blanks. -/
  isDotted_root : PropertyPath.isDotted g.root.toList = true
  /-- So are its properties. -/
  properties : ∀ p ∈ g.properties, p.IsWellFormed

/-! ## Fields -/

theorem ne_empty_of_mem_usableMembers {members : List String} {m : String}
    (h : m ∈ usableMembers members) : m ≠ "" :=
  of_decide_eq_true (List.mem_filter.mp h).2

namespace ScanPolicy

variable {policy : ScanPolicy}

theorem isWellFormed_of_scanField {root : String} {field : Declaration.Field} {p : Property}
    (hroot : PropertyPath.isDotted root.toList = true) (h : policy.scanField root field = .ok p) :
    p.IsWellFormed := by
  obtain ⟨hname, meaning, -, -, hdefault, rfl⟩ := scanField_eq_ok_iff.mp h
  refine ⟨?_, ?_, fun text htext ↦ (hdefault text htext).1, fun text htext ↦ ?_⟩
  · rw [declaredProperty, PropertyPath.isDotted_below, hroot, hname, Bool.and_self]
  · intro m hm
    by_cases henum : meaning.semanticType = .enum
    · rw [declaredProperty, if_pos henum] at hm
      exact ne_empty_of_mem_usableMembers hm
    · rw [declaredProperty, if_neg henum] at hm
      cases hm
  · -- the check saw the declared members, which are kept where they matter
    have hcoerces := (hdefault text htext).2
    by_cases henum : meaning.semanticType = .enum
    · rw [declaredProperty, if_pos henum]
      exact hcoerces
    · rw [textCoercesTo_congr_members henum] at hcoerces
      exact hcoerces

/-! ## Groups -/

theorem isWellFormed_of_scanGroup {index : Nat} {declared : Declaration.Group} {g : PropertyGroup}
    (h : policy.scanGroup index declared = .ok g) : g.IsWellFormed := by
  obtain ⟨hroot, -, hg, -, hfields⟩ := scanGroup_eq_ok_iff.mp h
  refine ⟨hg.symm ▸ hroot, fun p hp ↦ ?_⟩
  obtain ⟨field, -, hfield⟩ := Outcome.exists_of_mem_of_forall₂ hfields hp
  exact isWellFormed_of_scanField hroot hfield

end ScanPolicy

theorem Property.IsWellFormed.resolveLabel {p : Property} (h : p.IsWellFormed) :
    p.resolveLabel.IsWellFormed :=
  ⟨h.isDotted_path, h.ne_empty_of_mem, h.not_isMultiline_default, h.coercesTo_default⟩

theorem PropertyGroup.IsWellFormed.resolveLabels {g : PropertyGroup} (h : g.IsWellFormed) :
    g.resolveLabels.IsWellFormed := by
  refine ⟨h.isDotted_root, fun p hp ↦ ?_⟩
  obtain ⟨q, hq, rfl⟩ := List.mem_map.mp hp
  exact (h.properties q hq).resolveLabel

/-! ## Catalogs -/

/-- The catalog is as a scan and the building of it leave it. -/
structure Catalog.IsWellFormed (c : Catalog) : Prop extends c.IsIndexed where
  /-- Its groups are well formed. -/
  groups : ∀ g ∈ c.groups, g.IsWellFormed

theorem Catalog.IsWellFormed.of_mem_properties {c : Catalog} (h : c.IsWellFormed) {p : Property}
    (hp : p ∈ c.properties) : p.IsWellFormed := by
  obtain ⟨g, hg, hp⟩ := List.mem_flatMap.mp hp
  exact (h.groups g hg).properties p hp

/-- Declarations make well-formed catalogs. -/
theorem ScanPolicy.isWellFormed_of_buildCatalog {policy : ScanPolicy}
    {declared : List Declaration.Group} {c : Catalog} (h : policy.buildCatalog declared = .ok c) :
    c.IsWellFormed := by
  obtain ⟨groups, -, hbuild⟩ := buildCatalog_eq_ok_iff.mp h
  refine ⟨Catalog.isIndexed_of_build hbuild, fun g hg ↦ ?_⟩
  obtain ⟨d, -, scanned, hd, rfl⟩ := exists_scanGroup_of_mem_groups h hg
  exact (isWellFormed_of_scanGroup hd).resolveLabels

end PropertyCatalog
