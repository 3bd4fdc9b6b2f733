import PropertyCatalog.Proofs.Scan.FirstFault

/-!
# Fields that agree

The checks of a scan do not see the whole of a field. They look at the name without the blanks
around it, at the name of the type, at the members that are not blank and at the default. Fields
that agree in these pass the same checks and fail at the same one, and what an error repeats of a
field is its text as it was given (`related_scanField_of_agrees`). So two runs of a scan are
compared by saying in what their fields agree, and no check is opened again.
-/

namespace PropertyCatalog

open Text Declaration

/-- The fault as it is reported of another field. -/
def ScanError.reportedOf (field : Field) : ScanError → ScanError
  | invalidField root _ => invalidField root field.name
  | unsupportedType path _ => unsupportedType path field.declaredType
  | e => e

/-! ## What the checks look at -/

namespace Declaration.Field

/-- The fields are the same to every check. -/
structure Agrees (field other : Field) : Prop where
  /-- The names differ at most in the blanks around them. -/
  name_eq : trim other.name = trim field.name
  /-- The declared types hold one name of a type. -/
  typeName_eq : (unwrapOptional (trimmed other.declaredType.toList)).1
    = (unwrapOptional (trimmed field.declaredType.toList)).1
  /-- The members that are not blank are the same. -/
  members_eq : usableMembers other.members = usableMembers field.members
  /-- The defaults are equal. -/
  defaultText_eq : other.defaultText = field.defaultText

namespace Agrees

variable {field other : Field} {registry : TypeRegistry} {meaning : TypeMeaning}
  {type : SemanticType} {text : String}

theorem hasPathName_iff (h : field.Agrees other) : other.HasPathName ↔ field.HasPathName := by
  rw [Field.hasPathName_iff, Field.hasPathName_iff, h.name_eq]

theorem means_iff (h : field.Agrees other) :
    other.Means registry meaning ↔ field.Means registry meaning := by
  rw [Field.means_iff, Field.means_iff, h.typeName_eq]

theorem hasMembers_iff (h : field.Agrees other) :
    other.HasMembers type ↔ field.HasMembers type := by
  rw [Field.hasMembers_iff, Field.hasMembers_iff, h.members_eq]

theorem takes_iff (h : field.Agrees other) : other.Takes type text ↔ field.Takes type text := by
  rw [Takes, Takes, h.members_eq]

theorem path_eq (h : field.Agrees other) (root : String) : other.path root = field.path root := by
  rw [path, path, h.name_eq]

theorem isWellFormed (h : field.Agrees other) (hwell : field.IsWellFormed registry meaning) :
    other.IsWellFormed registry meaning where
  name := h.hasPathName_iff.mpr hwell.name
  type := h.means_iff.mpr hwell.type
  members := h.hasMembers_iff.mpr hwell.members
  line text hgiven := hwell.line text (h.defaultText_eq.symm.trans hgiven)
  value text hgiven := h.takes_iff.mpr (hwell.value text (h.defaultText_eq.symm.trans hgiven))

/-- The first fault of the one field is, with the texts of the other, the first fault of that. -/
theorem firstFault (h : field.Agrees other) {root : String} {e : ScanError}
    (hfault : field.FirstFault registry root e) :
    other.FirstFault registry root (e.reportedOf other) := by
  cases hfault with
  | name fault => exact .name fun hname ↦ fault (h.hasPathName_iff.mp hname)
  | type name fault =>
    rw [← h.path_eq root]
    exact .type (h.hasPathName_iff.mpr name) fun meaning hmeans ↦
      fault meaning (h.means_iff.mp hmeans)
  | members name type fault =>
    rw [← h.path_eq root]
    exact .members (h.hasPathName_iff.mpr name) (h.means_iff.mpr type) fun hmembers ↦
      fault (h.hasMembers_iff.mp hmembers)
  | line name type members given fault =>
    rw [← h.path_eq root]
    exact .line (h.hasPathName_iff.mpr name) (h.means_iff.mpr type)
      (h.hasMembers_iff.mpr members) (h.defaultText_eq.trans given) fault
  | value name type members given line fault =>
    rw [← h.path_eq root]
    exact .value (h.hasPathName_iff.mpr name) (h.means_iff.mpr type)
      (h.hasMembers_iff.mpr members) (h.defaultText_eq.trans given) line fun htakes ↦
        fault (h.takes_iff.mp htakes)

end Agrees

end Declaration.Field

/-! ## Scans of fields that agree -/

/-- Fields that agree fail at one check, which is reported with the texts of each, or make
properties whose types have one meaning. -/
theorem ScanPolicy.related_scanField_of_agrees (policy : ScanPolicy) (root : String)
    {field other : Field} (h : field.Agrees other) :
    Outcome.Related
      (fun e e' ↦ field.FirstFault policy.registry root e ∧ e' = e.reportedOf other)
      (fun p q ↦ ∃ meaning, p = policy.declaredProperty root field meaning ∧
        q = policy.declaredProperty root other meaning)
      (policy.scanField root field) (policy.scanField root other) := by
  cases hscan : policy.scanField root field with
  | error e =>
    have hfault := scanField_eq_error_iff.mp hscan
    rw [scanField_of_firstFault (h.firstFault hfault)]
    exact .error ⟨hfault, rfl⟩
  | ok p =>
    obtain ⟨meaning, hwell, rfl⟩ := scanField_eq_ok_iff_isWellFormed.mp hscan
    rw [scanField_eq_ok_iff_isWellFormed.mpr ⟨meaning, h.isWellFormed hwell, rfl⟩]
    exact .ok ⟨meaning, rfl, rfl⟩

end PropertyCatalog
