import PropertyCatalog.Proofs.Scan.Agreement
import PropertyCatalog.Proofs.Scan.Success

/-!
# Padding

Blanks around a text of a declaration do not count, and neither do blank members. Every text is
trimmed at its own place: the root where a group is scanned, the name, the declared type and the
members where a field is, and the label only where labels are resolved. So a scan of padded
declarations yields groups that still differ in their labels, and the difference goes when the
labels are resolved: the catalogs are equal. Where there is no catalog the errors differ at most in
the blanks around a text that they repeat.
-/

namespace PropertyCatalog

open Text

/-! ## Padded declarations -/

namespace Declaration

/-- The second list has the members of the first with blanks around them, and blank members
besides. -/
inductive PaddedMembers : List String → List String → Prop
  /-- There are none. -/
  | nil : PaddedMembers [] []
  /-- The first member has blanks around it. -/
  | padded {member member' : String} {members members' : List String}
      (head : Text.IsPadded member member') (tail : PaddedMembers members members') :
      PaddedMembers (member :: members) (member' :: members')
  /-- A blank member is put in front. -/
  | blank {member : String} {members members' : List String} (head : Text.IsPadded "" member)
      (tail : PaddedMembers members members') : PaddedMembers members (member :: members')

/-- The second field is the first with blanks around its texts and with blank members besides. The
default is a value, and keeps its blanks. -/
structure Field.IsPadded (field padded : Field) : Prop where
  /-- Blanks are put around the name. -/
  name : Text.IsPadded field.name padded.name
  /-- Blanks are put around the declared type. -/
  declaredType : Text.IsPadded field.declaredType padded.declaredType
  /-- Blanks are put around the label, if there is one. -/
  label : Option.Rel Text.IsPadded field.label padded.label
  /-- What is said of being required is the same. -/
  required_eq : padded.required = field.required
  /-- The default is the same. -/
  defaultText_eq : padded.defaultText = field.defaultText
  /-- The members are padded. -/
  members : PaddedMembers field.members padded.members

/-- The second group is the first with blanks around its root and with padded fields. -/
structure Group.IsPadded (declared padded : Group) : Prop where
  /-- Blanks are put around the root. -/
  root : Text.IsPadded declared.root padded.root
  /-- The description is the same. -/
  description_eq : padded.description = declared.description
  /-- The fields are padded, in order. -/
  fields : List.Forall₂ Field.IsPadded declared.fields padded.fields

end Declaration

/-! ## Errors about padded declarations -/

/-- The second error is the first, with blanks put around a text that it repeats. -/
inductive ScanError.IsPadded : ScanError → ScanError → Prop
  /-- The root is repeated. -/
  | invalidRoot (index : Nat) {root root' : String} (padded : Text.IsPadded root root') :
      IsPadded (.invalidRoot index root) (.invalidRoot index root')
  /-- Nothing is repeated of a group without fields. -/
  | emptyGroup (root : String) : IsPadded (.emptyGroup root) (.emptyGroup root)
  /-- The name is repeated. -/
  | invalidField (root : String) {name name' : String} (padded : Text.IsPadded name name') :
      IsPadded (.invalidField root name) (.invalidField root name')
  /-- The declared type is repeated. -/
  | unsupportedType (path : String) {declaredType declaredType' : String}
      (padded : Text.IsPadded declaredType declaredType') :
      IsPadded (.unsupportedType path declaredType) (.unsupportedType path declaredType')
  /-- The default is repeated, which is the same. -/
  | multilineDefault (path value : String) (type : SemanticType) :
      IsPadded (.multilineDefault path value type) (.multilineDefault path value type)
  /-- The default is repeated, which is the same. -/
  | invalidDefault (path value : String) (type : SemanticType) :
      IsPadded (.invalidDefault path value type) (.invalidDefault path value type)

/-- The second error is the first, with blanks put around a text that it repeats. -/
inductive BuildError.IsPadded : BuildError → BuildError → Prop
  /-- The error of the scan repeats it. -/
  | scan {e e' : ScanError} (padded : e.IsPadded e') : IsPadded (.scan e) (.scan e')
  /-- Of paths that occur twice nothing is repeated as it was given. -/
  | catalog (e : CatalogError) : IsPadded (.catalog e) (.catalog e)

theorem ScanError.IsPadded.kind_eq {e e' : ScanError} (h : e.IsPadded e') : e'.kind = e.kind := by
  cases h <;> rfl

theorem BuildError.IsPadded.kind_eq {e e' : BuildError} (h : e.IsPadded e') :
    e'.kind = e.kind := by
  cases h with
  | scan padded => exact padded.kind_eq
  | catalog e => rfl

/-! ## Texts -/

theorem Text.IsPadded.trim_eq {s padded : String} (h : IsPadded s padded) :
    trim padded = trim s :=
  congrArg String.ofList h.trimmed_eq

theorem Label.resolve_of_isPadded {label padded : Option String}
    (h : Option.Rel Text.IsPadded label padded) (path : String) :
    resolve padded path = resolve label path := by
  cases h with
  | none => rfl
  | some hlabel => rw [resolve, resolve, Option.map_some, Option.map_some, hlabel.trim_eq]

theorem usableMembers_cons (member : String) (members : List String) :
    usableMembers (member :: members)
      = if trim member = "" then usableMembers members
        else trim member :: usableMembers members := by
  by_cases hempty : trim member = "" <;> simp [usableMembers, hempty]

theorem Declaration.PaddedMembers.usableMembers_eq {members padded : List String}
    (h : PaddedMembers members padded) : usableMembers padded = usableMembers members := by
  induction h with
  | nil => rfl
  | padded head tail ih => rw [usableMembers_cons, usableMembers_cons, head.trim_eq, ih]
  | blank head tail ih =>
    have hempty : trim "" = "" := by decide
    rw [usableMembers_cons, head.trim_eq, if_pos hempty, ih]

/-! ## Fields -/

theorem Declaration.Field.IsPadded.agrees {field padded : Field} (h : field.IsPadded padded) :
    field.Agrees padded where
  name_eq := h.name.trim_eq
  typeName_eq := by rw [h.declaredType.trimmed_eq]
  members_eq := h.members.usableMembers_eq
  defaultText_eq := h.defaultText_eq

namespace ScanPolicy

variable (policy : ScanPolicy)

open Declaration

/-- The label apart, a padded field makes the property that the field makes. -/
theorem resolveLabel_declaredProperty_of_isPadded (root : String) {field padded : Field}
    (h : field.IsPadded padded) (meaning : TypeMeaning) :
    (policy.declaredProperty root padded meaning).resolveLabel
      = (policy.declaredProperty root field meaning).resolveLabel := by
  have hrequired : ∀ optional, policy.rule.isRequired padded optional
      = policy.rule.isRequired field optional := by
    intro optional
    unfold RequiredRule.isRequired
    rw [h.required_eq, h.defaultText_eq]
  simp only [declaredProperty, Property.resolveLabel, h.name.trim_eq, h.declaredType.trimmed_eq,
    h.members.usableMembers_eq, h.defaultText_eq, hrequired, Label.resolve_of_isPadded h.label]

/-- The labels apart, a field and a padded one make one property, or they fail alike. -/
theorem related_scanField_of_isPadded (root : String) {field padded : Field}
    (h : field.IsPadded padded) :
    Outcome.Related ScanError.IsPadded (fun p q ↦ q.resolveLabel = p.resolveLabel)
      (policy.scanField root field) (policy.scanField root padded) := by
  refine ((policy.related_scanField_of_agrees root h.agrees).imp_error ?_).imp ?_
  · rintro e _ ⟨hfault, rfl⟩
    cases hfault with
    | name => exact .invalidField root h.name
    | type => exact .unsupportedType _ h.declaredType
    | members => exact .unsupportedType _ h.declaredType
    | line => exact .multilineDefault _ _ _
    | value => exact .invalidDefault _ _ _
  · rintro _ _ - - ⟨meaning, rfl, rfl⟩
    exact policy.resolveLabel_declaredProperty_of_isPadded root h meaning

/-! ## Groups -/

theorem related_scanGroup_of_isPadded (index : Nat) {declared padded : Group}
    (h : declared.IsPadded padded) :
    Outcome.Related ScanError.IsPadded (fun g g' ↦ g'.resolveLabels = g.resolveLabels)
      (policy.scanGroup index declared) (policy.scanGroup index padded) := by
  have hnil : padded.fields = [] ↔ declared.fields = [] := by
    rw [← List.length_eq_zero_iff, ← h.fields.length_eq, List.length_eq_zero_iff]
  have hproperties : Outcome.Related ScanError.IsPadded
      (List.Forall₂ fun p q ↦ q.resolveLabel = p.resolveLabel)
      (declared.fields.mapM (policy.scanField (trim declared.root)))
      (padded.fields.mapM (policy.scanField (trim declared.root))) :=
    .mapM h.fields fun _ _ hfield ↦ policy.related_scanField_of_isPadded _ hfield
  rw [scanGroup, scanGroup, h.root.trim_eq]
  simp only [hnil]
  split
  · exact .error (.invalidRoot index h.root)
  · split
    · exact .error (.emptyGroup _)
    · refine hproperties.map fun properties properties' heq ↦ ?_
      have hresolved : properties'.map (·.resolveLabel) = properties.map (·.resolveLabel) :=
        (Outcome.map_eq_map_of_forall₂ heq fun _ _ hpq ↦ hpq.symm).symm
      rw [PropertyGroup.resolveLabels, PropertyGroup.resolveLabels, h.description_eq, hresolved]

/-! ## Catalogs -/

private theorem forall₂_zipIdx {declared padded : List Group}
    (h : List.Forall₂ Group.IsPadded declared padded) (k : Nat) :
    List.Forall₂ (fun x y ↦ x.1.IsPadded y.1 ∧ y.2 = x.2) (declared.zipIdx k)
      (padded.zipIdx k) := by
  induction h generalizing k with
  | nil => exact .nil
  | cons hgroup _ ih => exact .cons ⟨hgroup, rfl⟩ (ih (k + 1))

theorem related_scan_of_isPadded {declared padded : List Group}
    (h : List.Forall₂ Group.IsPadded declared padded) :
    Outcome.Related ScanError.IsPadded
      (fun groups groups' ↦ resolveLabels groups' = resolveLabels groups)
      (policy.scan declared) (policy.scan padded) := by
  have hgroups : Outcome.Related ScanError.IsPadded
      (List.Forall₂ fun g g' ↦ g'.resolveLabels = g.resolveLabels)
      (policy.scan declared) (policy.scan padded) := by
    refine .mapM (forall₂_zipIdx h 0) ?_
    rintro ⟨d, i⟩ ⟨d', _⟩ ⟨hgroup, rfl⟩
    exact policy.related_scanGroup_of_isPadded _ hgroup
  refine hgroups.imp fun _ _ _ _ heq ↦ ?_
  exact (Outcome.map_eq_map_of_forall₂ heq fun _ _ hg ↦ hg.symm).symm

/-- **Padding never changes the catalog.** Put blanks around roots, names, declared types, members
and labels, and put blank members between the others. The declarations make a catalog exactly if
they did before, and then it is the same one. If they do not, the error is of the same kind, and
differs at most in the blanks around a text that it repeats. -/
theorem related_buildCatalog_of_isPadded {declared padded : List Group}
    (h : List.Forall₂ Group.IsPadded declared padded) :
    Outcome.Related (fun e e' ↦ e'.kind = e.kind ∧ e.IsPadded e') Eq
      (policy.buildCatalog declared) (policy.buildCatalog padded) := by
  have hscan : Outcome.Related BuildError.IsPadded
      (fun groups groups' ↦ resolveLabels groups' = resolveLabels groups)
      ((policy.scan declared).mapError .scan) ((policy.scan padded).mapError .scan) :=
    (policy.related_scan_of_isPadded h).mapError fun _ _ he ↦ .scan he
  have hbuild : Outcome.Related BuildError.IsPadded Eq (policy.buildCatalog declared)
      (policy.buildCatalog padded) := by
    refine hscan.bind fun groups groups' heq ↦ ?_
    rw [heq]
    -- both sides build the same groups
    cases Catalog.build (resolveLabels groups) with
    | error e => exact .error (.catalog e)
    | ok c => exact .ok rfl
  exact hbuild.imp_error fun _ _ he ↦ ⟨he.kind_eq, he⟩

/-- Blanks at all five places, and blank members. Without trimming the second root would come before
the first. -/
theorem related_buildCatalog_of_isPadded_two :
    let d : Group := { root := "a", fields := [{ name := "db", declaredType := "group:app.db" }] }
    let e : Group :=
      { root := "b",
        fields := [{ name := "log", declaredType := "Option<enum>", label := some "Log",
                     defaultText := some " on ", members := ["on"] }] }
    let d' : Group :=
      { root := "a ", fields := [{ name := "\tdb", declaredType := " group:app.db\n" }] }
    let e' : Group :=
      { root := " b",
        fields := [{ name := "log ", declaredType := "\nOption<enum>", label := some " Log\t",
                     defaultText := some " on ", members := ["", "on ", "\t"] }] }
    let c : Catalog :=
      ⟨[⟨"a", none, [⟨"a.db", .group, some "Db", true, "a", none, [], some "app.db"⟩]⟩,
          ⟨"b", none, [⟨"b.log", .enum, some "Log", false, "b", some " on ", ["on"], none⟩]⟩],
        .ofList [("a.db", ⟨0, 0⟩), ("b.log", ⟨1, 0⟩)]⟩
    List.Forall₂ Group.IsPadded [d, e] [d', e'] ∧ buildCatalog {} [d, e] = .ok c ∧
      buildCatalog {} [d', e'] = .ok c := by
  intro d e d' e' c
  have hpadded : ∀ (before after : List Char) {s padded : String}, before.all isBlank = true →
      after.all isBlank = true → padded.toList = before ++ s.toList ++ after →
        Text.IsPadded s padded := fun before after _ _ hbefore hafter h ↦
    ⟨before, after, List.all_eq_true.mp hbefore, List.all_eq_true.mp hafter, h⟩
  have hd : d.IsPadded d' := by
    refine ⟨hpadded [] [' '] rfl (by decide) (by decide +kernel), rfl, .cons ?_ .nil⟩
    exact ⟨hpadded ['\t'] [] (by decide) rfl (by decide +kernel),
      hpadded [' '] ['\n'] (by decide) (by decide) (by decide +kernel), .none, rfl, rfl, .nil⟩
  have he : e.IsPadded e' := by
    refine ⟨hpadded [' '] [] (by decide) rfl (by decide +kernel), rfl, .cons ?_ .nil⟩
    have hmembers : PaddedMembers ["on"] ["", "on ", "\t"] :=
      .blank (hpadded [] [] rfl rfl (by decide +kernel))
        (.padded (hpadded [] [' '] rfl (by decide) (by decide +kernel))
          (.blank (hpadded [] ['\t'] rfl (by decide) (by decide +kernel)) .nil))
    exact ⟨hpadded [] [' '] rfl (by decide) (by decide +kernel),
      hpadded ['\n'] [] (by decide) rfl (by decide +kernel),
      .some (hpadded [' '] ['\t'] (by decide) (by decide) (by decide +kernel)), rfl, rfl, hmembers⟩
  have hscanned : (scan {} [d, e]).map resolveLabels = .ok c.groups := by decide +kernel
  obtain ⟨groups, hscan, hresolved⟩ := Outcome.map_eq_ok_iff.mp hscanned
  have hsorted : c.groups.mergeSort PropertyGroup.precedes = c.groups :=
    List.mergeSort_of_pairwise (by decide +kernel)
  have hbuild : buildCatalog {} [d, e] = .ok c := by
    rw [buildCatalog_of_scan hscan, hresolved,
      Catalog.build_eq_ok_iff.mpr ⟨hsorted.symm, by decide +kernel, rfl⟩]
    rfl
  have hpads : List.Forall₂ Group.IsPadded [d, e] [d', e'] := .cons hd (.cons he .nil)
  have hrelated := related_buildCatalog_of_isPadded {} hpads
  rw [hbuild] at hrelated
  generalize buildCatalog {} [d', e'] = y at hrelated ⊢
  cases hrelated with
  | ok heq => exact ⟨hpads, hbuild, congrArg Except.ok heq.symm⟩

end ScanPolicy

end PropertyCatalog
