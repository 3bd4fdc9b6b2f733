import PropertyCatalog.Scan

/-!
# What a scan checks

Two readings of a declaration, neither of which runs a scan. `IsWellFormed` lists what has to hold
of a field and of a group, in the order in which it is checked. `FirstFault` says which error
belongs to a declaration that is not well formed: a fault counts only where everything checked
before it holds.

A declaration is always well formed or has a first fault (`isWellFormed_or_firstFault`), so between
them the two readings leave nothing open.
-/

namespace PropertyCatalog.Declaration

open Text

/-! ## Texts -/

/-- The name of a type that a declared type stands for: blanks around it are left out, and so is one
`Option<…>` around the whole. -/
inductive NamesType (declaredType : List Char) : List Char → Prop
  /-- What stands inside `Option<…>`. -/
  | optional {inner : List Char}
      (wrapped : trimmed declaredType = "Option<".toList ++ inner ++ ['>']) :
      NamesType declaredType (trimmed inner)
  /-- The whole, where it is not of that form. -/
  | plain (bare : ∀ inner, trimmed declaredType ≠ "Option<".toList ++ inner ++ ['>']) :
      NamesType declaredType (trimmed declaredType)

theorem optionalInner?_eq_some_iff {type inner : List Char} :
    (after? "Option<".toList type >>= before? '>') = some inner ↔
      type = "Option<".toList ++ inner ++ ['>'] := by
  rw [Option.bind_eq_bind, Option.bind_eq_some_iff]
  simp only [after?_eq_some_iff, before?_eq_some_iff]
  constructor
  · rintro ⟨rest, rfl, rfl⟩
    rw [List.append_assoc]
  · rintro rfl
    exact ⟨inner ++ ['>'], List.append_assoc _ _ _, rfl⟩

theorem unwrapOptional_optional (inner : List Char) :
    unwrapOptional ("Option<".toList ++ inner ++ ['>']) = (trimmed inner, true) := by
  rw [unwrapOptional, optionalInner?_eq_some_iff.mpr rfl]

theorem unwrapOptional_of_bare {type : List Char}
    (bare : ∀ inner, type ≠ "Option<".toList ++ inner ++ ['>']) :
    unwrapOptional type = (type, false) := by
  have hnone : (after? "Option<".toList type >>= before? '>') = none := by
    rw [Option.eq_none_iff_forall_ne_some]
    exact fun inner h ↦ bare inner (optionalInner?_eq_some_iff.mp h)
  rw [unwrapOptional, hnone]

theorem namesType_iff {declaredType name : List Char} :
    NamesType declaredType name ↔ (unwrapOptional (trimmed declaredType)).1 = name := by
  by_cases h : ∃ inner, trimmed declaredType = "Option<".toList ++ inner ++ ['>']
  · obtain ⟨inner, hwrapped⟩ := h
    have hname : (unwrapOptional (trimmed declaredType)).1 = trimmed inner := by
      rw [hwrapped, unwrapOptional_optional]
    constructor
    · rintro (wrapped | bare)
      · rw [wrapped, unwrapOptional_optional]
      · exact absurd hwrapped (bare inner)
    · rintro rfl
      rw [hname]
      exact .optional hwrapped
  · have hbare : ∀ inner, trimmed declaredType ≠ "Option<".toList ++ inner ++ ['>'] :=
      fun inner hwrapped ↦ h ⟨inner, hwrapped⟩
    have hname : (unwrapOptional (trimmed declaredType)).1 = trimmed declaredType := by
      rw [unwrapOptional_of_bare hbare]
    constructor
    · rintro (wrapped | bare)
      · exact absurd wrapped (hbare _)
      · exact hname
    · rintro rfl
      rw [hname]
      exact .plain hbare

/-- The text goes over no line end. -/
def IsOneLine (text : String) : Prop := '\n' ∉ text.toList ∧ '\r' ∉ text.toList

theorem isMultiline_eq_false_iff {text : String} : isMultiline text = false ↔ IsOneLine text := by
  rw [isMultiline, List.any_eq_false, IsOneLine]
  simp only [Bool.or_eq_true, decide_eq_true_eq, not_or]
  constructor
  · intro h
    exact ⟨fun hn ↦ (h _ hn).1 rfl, fun hr ↦ (h _ hr).2 rfl⟩
  · rintro ⟨hn, hr⟩ c hc
    exact ⟨fun heq ↦ hn (heq ▸ hc), fun heq ↦ hr (heq ▸ hc)⟩

theorem usableMembers_ne_nil_iff {members : List String} :
    usableMembers members ≠ [] ↔ ∃ m ∈ members, trim m ≠ "" := by
  rw [usableMembers, ne_eq, List.filter_eq_nil_iff]
  simp

/-! ## Fields -/

namespace Field

/-- Without the blanks around it, the name is a dotted path. -/
def HasPathName (field : Field) : Prop := PropertyPath.WellShaped (trimmed field.name.toList)

/-- The name of the declared type has the meaning. -/
def Means (field : Field) (registry : TypeRegistry) (meaning : TypeMeaning) : Prop :=
  ∃ name, NamesType field.declaredType.toList name ∧ registry.resolve name = some meaning

/-- If the type is enumerated, some member is not blank. -/
def HasMembers (field : Field) (type : SemanticType) : Prop :=
  type = .enum → ∃ m ∈ field.members, trim m ≠ ""

/-- The text is a value of the type: it is no reference to a group, and the type takes the text,
where the members that are not blank count, without the blanks around them. -/
def Takes (field : Field) (type : SemanticType) (text : String) : Prop :=
  type ≠ .group ∧ textCoercesTo text type (usableMembers field.members) = true

def path (field : Field) (root : String) : String := root ++ "." ++ trim field.name

/-- The field passes every check, and its type has the given meaning. -/
structure IsWellFormed (field : Field) (registry : TypeRegistry) (meaning : TypeMeaning) :
    Prop where
  /-- The name is a path. -/
  name : field.HasPathName
  /-- The type is known. -/
  type : field.Means registry meaning
  /-- An enumerated type has members. -/
  members : field.HasMembers meaning.semanticType
  /-- A default is one line. -/
  line : ∀ text, field.defaultText = some text → IsOneLine text
  /-- A default is a value of the type. -/
  value : ∀ text, field.defaultText = some text → field.Takes meaning.semanticType text

/-- The error that names the first check that a field below a root does not pass. -/
inductive FirstFault (field : Field) (registry : TypeRegistry) (root : String) : ScanError → Prop
  /-- The name is no path. -/
  | name (fault : ¬field.HasPathName) :
      FirstFault field registry root (.invalidField root field.name)
  /-- The type has no meaning. -/
  | type (name : field.HasPathName) (fault : ∀ meaning, ¬field.Means registry meaning) :
      FirstFault field registry root (.unsupportedType (field.path root) field.declaredType)
  /-- The type is enumerated, and every member is blank. -/
  | members {meaning : TypeMeaning} (name : field.HasPathName) (type : field.Means registry meaning)
      (fault : ¬field.HasMembers meaning.semanticType) :
      FirstFault field registry root (.unsupportedType (field.path root) field.declaredType)
  /-- The default has more than one line. -/
  | line {meaning : TypeMeaning} {text : String} (name : field.HasPathName)
      (type : field.Means registry meaning) (members : field.HasMembers meaning.semanticType)
      (given : field.defaultText = some text) (fault : ¬IsOneLine text) :
      FirstFault field registry root
        (.multilineDefault (field.path root) text meaning.semanticType)
  /-- The default is no value of the type. -/
  | value {meaning : TypeMeaning} {text : String} (name : field.HasPathName)
      (type : field.Means registry meaning) (members : field.HasMembers meaning.semanticType)
      (given : field.defaultText = some text) (line : IsOneLine text)
      (fault : ¬field.Takes meaning.semanticType text) :
      FirstFault field registry root (.invalidDefault (field.path root) text meaning.semanticType)

variable {field : Field} {registry : TypeRegistry}

theorem isWellFormed_or_firstFault (field : Field) (registry : TypeRegistry) (root : String) :
    (∃ meaning, field.IsWellFormed registry meaning) ∨ ∃ e, field.FirstFault registry root e := by
  by_cases hname : field.HasPathName
  case neg => exact .inr ⟨_, .name hname⟩
  by_cases htype : ∃ meaning, field.Means registry meaning
  case neg => exact .inr ⟨_, .type hname (not_exists.mp htype)⟩
  obtain ⟨meaning, hmeaning⟩ := htype
  by_cases hmembers : field.HasMembers meaning.semanticType
  case neg => exact .inr ⟨_, .members hname hmeaning hmembers⟩
  cases hdefault : field.defaultText with
  | none =>
    refine .inl ⟨meaning, hname, hmeaning, hmembers, ?_, ?_⟩ <;>
      rw [hdefault] <;> exact nofun
  | some text =>
    by_cases hline : IsOneLine text
    case neg => exact .inr ⟨_, .line hname hmeaning hmembers hdefault hline⟩
    by_cases hvalue : field.Takes meaning.semanticType text
    case neg => exact .inr ⟨_, .value hname hmeaning hmembers hdefault hline hvalue⟩
    refine .inl ⟨meaning, hname, hmeaning, hmembers, fun text' hgiven ↦ ?_, fun text' hgiven ↦ ?_⟩
    · rw [hdefault, Option.some_inj] at hgiven
      exact hgiven ▸ hline
    · rw [hdefault, Option.some_inj] at hgiven
      exact hgiven ▸ hvalue

end Field

/-! ## Groups -/

namespace Group

def paths (declared : Group) : List String := declared.fields.map (·.path (trim declared.root))

/-- The declaration passes every check. -/
structure IsWellFormed (declared : Group) (registry : TypeRegistry) : Prop where
  /-- Without the blanks around it, the root is a dotted path. -/
  root : PropertyPath.WellShaped (trimmed declared.root.toList)
  /-- There are fields. -/
  fields_ne_nil : declared.fields ≠ []
  /-- Each field passes every check. -/
  fields : ∀ field ∈ declared.fields, ∃ meaning, field.IsWellFormed registry meaning

/-- The error that names the first check that the declaration at a position does not pass. -/
inductive FirstFault (declared : Group) (registry : TypeRegistry) (index : Nat) : ScanError → Prop
  /-- The root is no path. -/
  | root (fault : ¬PropertyPath.WellShaped (trimmed declared.root.toList)) :
      FirstFault declared registry index (.invalidRoot index declared.root)
  /-- There are no fields. -/
  | empty (root : PropertyPath.WellShaped (trimmed declared.root.toList))
      (fault : declared.fields = []) :
      FirstFault declared registry index (.emptyGroup (trim declared.root))
  /-- A field has a fault, and those before it have none. -/
  | field {before after : List Field} {field : Field} {e : ScanError}
      (root : PropertyPath.WellShaped (trimmed declared.root.toList))
      (fields : declared.fields = before ++ field :: after)
      (wellFormed : ∀ f ∈ before, ∃ meaning, f.IsWellFormed registry meaning)
      (fault : field.FirstFault registry (trim declared.root) e) :
      FirstFault declared registry index e

end Group

end PropertyCatalog.Declaration
