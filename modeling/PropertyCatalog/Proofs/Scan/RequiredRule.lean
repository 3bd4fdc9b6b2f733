import PropertyCatalog.Proofs.Catalog.Correspondence
import PropertyCatalog.Proofs.Scan.FirstFault

/-!
# The rule for required properties

A policy says when a property has to be bound. Its two rules are compared here by scanning the same
declarations under both, with one registry: whether a declaration is well formed, and which fault it
has first, is a matter of the registry alone, and what a field makes differs in one flag. Neither
the labels nor the keys of groups look at the flag, so the difference goes through to the catalogs
and stays what it was: `Catalog.Relaxes`.
-/

namespace PropertyCatalog

/-! ## Catalogs that ask for less -/

/-- The first property is the second, except that it may do without a value where the second has to
be bound. -/
def Property.Relaxes (p q : Property) : Prop :=
  ∃ required, q = { p with required } ∧ (p.required = true → required = true)

/-- The first group is the second, except that its properties may do without a value where those of
the second have to be bound. -/
structure PropertyGroup.Relaxes (g h : PropertyGroup) : Prop where
  /-- The roots are equal. -/
  root_eq : g.root = h.root
  /-- The descriptions are equal. -/
  description_eq : g.description = h.description
  /-- The properties stand in one order. -/
  properties : List.Forall₂ Property.Relaxes g.properties h.properties

/-- The first catalog is the second, except that its properties may do without a value where those
of the second have to be bound. -/
def Catalog.Relaxes (c d : Catalog) : Prop := c.Corresponds PropertyGroup.Relaxes d

theorem Property.Relaxes.resolveLabel {p q : Property} (h : p.Relaxes q) :
    p.resolveLabel.Relaxes q.resolveLabel := by
  obtain ⟨required, rfl, hrequired⟩ := h
  exact ⟨required, rfl, hrequired⟩

namespace PropertyGroup.Relaxes

variable {g h : PropertyGroup}

theorem key_eq (hgh : g.Relaxes h) : g.key = h.key := by
  have hpaths : g.paths = h.paths := by
    refine Outcome.map_eq_map_of_forall₂ hgh.properties fun p q hpq ↦ ?_
    obtain ⟨required, rfl, -⟩ := hpq
    rfl
  rw [key, key, hgh.root_eq, hpaths, hgh.description_eq]

theorem resolveLabels (hgh : g.Relaxes h) : g.resolveLabels.Relaxes h.resolveLabels := by
  refine ⟨hgh.root_eq, hgh.description_eq, ?_⟩
  rw [PropertyGroup.resolveLabels, PropertyGroup.resolveLabels, List.forall₂_map_left_iff,
    List.forall₂_map_right_iff]
  exact hgh.properties.imp fun _ _ hpq ↦ hpq.resolveLabel

end PropertyGroup.Relaxes

/-! ## Scans under both rules -/

theorem RequiredRule.isRequired_of_explicitOnly {rule : RequiredRule} {field : Declaration.Field}
    {optional : Bool} (h : explicitOnly.isRequired field optional = true) :
    rule.isRequired field optional = true := by
  unfold isRequired at h ⊢
  cases hfield : field.required with
  | none =>
    rw [hfield] at h
    cases h
  | some explicit =>
    rw [hfield] at h
    exact h

namespace ScanPolicy

variable (registry : TypeRegistry)

/-- What a field makes when only declarations require a value asks for no more than what it makes
under the other rule. -/
theorem relaxes_declaredProperty (root : String) (field : Declaration.Field)
    (meaning : TypeMeaning) :
    (declaredProperty ⟨.explicitOnly, registry⟩ root field meaning).Relaxes
      (declaredProperty ⟨.inferred, registry⟩ root field meaning) :=
  ⟨_, rfl, RequiredRule.isRequired_of_explicitOnly⟩

theorem related_scanField (root : String) (field : Declaration.Field) :
    Outcome.Related Eq Property.Relaxes (scanField ⟨.explicitOnly, registry⟩ root field)
      (scanField ⟨.inferred, registry⟩ root field) := by
  cases hscan : scanField ⟨.explicitOnly, registry⟩ root field with
  | error e =>
    -- the first fault of a field is known from the registry
    have hfault := scanField_eq_error_iff.mp hscan
    have hscan' : scanField ⟨.inferred, registry⟩ root field = .error e :=
      scanField_eq_error_iff.mpr hfault
    rw [hscan']
    exact .error rfl
  | ok p =>
    obtain ⟨meaning, hwell, rfl⟩ := scanField_eq_ok_iff_isWellFormed.mp hscan
    have hscan' : scanField ⟨.inferred, registry⟩ root field
        = .ok (declaredProperty ⟨.inferred, registry⟩ root field meaning) :=
      scanField_eq_ok_iff_isWellFormed.mpr ⟨meaning, hwell, rfl⟩
    rw [hscan']
    exact .ok (relaxes_declaredProperty registry root field meaning)

theorem related_scanGroup (index : Nat) (declared : Declaration.Group) :
    Outcome.Related Eq PropertyGroup.Relaxes (scanGroup ⟨.explicitOnly, registry⟩ index declared)
      (scanGroup ⟨.inferred, registry⟩ index declared) := by
  rw [scanGroup, scanGroup]
  split
  · exact .error rfl
  · split
    · exact .error rfl
    · have hfields : Outcome.Related Eq (List.Forall₂ Property.Relaxes)
          (declared.fields.mapM (scanField ⟨.explicitOnly, registry⟩ (Text.trim declared.root)))
          (declared.fields.mapM (scanField ⟨.inferred, registry⟩ (Text.trim declared.root))) :=
        .mapM_self declared.fields fun field ↦ related_scanField registry _ field
      exact hfields.map fun _ _ hproperties ↦ ⟨rfl, rfl, hproperties⟩

theorem related_scan (declared : List Declaration.Group) :
    Outcome.Related Eq (List.Forall₂ PropertyGroup.Relaxes)
      (scan ⟨.explicitOnly, registry⟩ declared) (scan ⟨.inferred, registry⟩ declared) :=
  .mapM_self declared.zipIdx fun x ↦ related_scanGroup registry x.2 x.1

/-- Under both rules declarations make no catalog for one reason, or they make catalogs of which the
one that goes by the declarations alone asks for less. -/
theorem related_buildCatalog (declared : List Declaration.Group) :
    Outcome.Related Eq Catalog.Relaxes (buildCatalog ⟨.explicitOnly, registry⟩ declared)
      (buildCatalog ⟨.inferred, registry⟩ declared) := by
  have hscan : Outcome.Related Eq (List.Forall₂ PropertyGroup.Relaxes)
      ((scan ⟨.explicitOnly, registry⟩ declared).mapError BuildError.scan)
      ((scan ⟨.inferred, registry⟩ declared).mapError BuildError.scan) :=
    (related_scan registry declared).mapError fun _ _ he ↦ congrArg _ he
  refine hscan.bind fun groups groups' hgroups ↦ ?_
  have hresolved : List.Forall₂ PropertyGroup.Relaxes (resolveLabels groups)
      (resolveLabels groups') := by
    rw [resolveLabels, resolveLabels, List.forall₂_map_left_iff, List.forall₂_map_right_iff]
    exact hgroups.imp fun _ _ hgh ↦ hgh.resolveLabels
  have hbuild := Catalog.related_build hresolved fun _ _ hgh ↦ hgh.key_eq
  exact hbuild.mapError fun _ _ he ↦ congrArg _ he

end ScanPolicy

end PropertyCatalog
