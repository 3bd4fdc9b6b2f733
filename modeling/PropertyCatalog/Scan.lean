import PropertyCatalog.Coercion
import PropertyCatalog.Declaration
import PropertyCatalog.Property
import PropertyCatalog.Text.Quoted
import PropertyCatalog.TypeRegistry

/-!
# Scanning declarations

Scanning turns declarations into groups of properties, one group per declaration and one property
per field, in order. The first declaration that is not well formed stops the scan, with the first of
its faults: the root, then whether there are fields, then field by field the name, the type, the
members and the default.
-/

namespace PropertyCatalog

open Text

/-! ## Policies -/

/-- When a property whose declaration does not say so has to be bound. -/
inductive RequiredRule where
  /-- Unless there is a default or the type is optional. -/
  | inferred
  /-- Never. -/
  | explicitOnly
deriving DecidableEq

/-- What a scan depends on besides the declarations. -/
structure ScanPolicy where
  /-- When a property has to be bound. -/
  rule : RequiredRule := .inferred
  /-- What the names of types mean. -/
  registry : TypeRegistry := .standard
deriving DecidableEq

instance : Inhabited ScanPolicy := ⟨{}⟩

/-! ## Faults -/

/-- Why a declaration is not well formed. -/
inductive ScanError where
  /-- The root of a group is no dotted path. -/
  | invalidRoot (index : Nat) (root : String)
  /-- The group has no field. -/
  | emptyGroup (root : String)
  /-- The name of a field is no dotted path. -/
  | invalidField (root name : String)
  /-- The type of a field is unknown, or enumerated without a member. -/
  | unsupportedType (path declaredType : String)
  /-- A default has more than one line. -/
  | multilineDefault (path value : String) (type : SemanticType)
  /-- A default that the type does not take. -/
  | invalidDefault (path value : String) (type : SemanticType)
deriving DecidableEq

namespace ScanError

def kind : ScanError → String
  | invalidRoot .. => "invalid-prefix"
  | emptyGroup .. => "empty-group"
  | invalidField .. => "invalid-field"
  | unsupportedType .. => "unsupported-type"
  | multilineDefault .. | invalidDefault .. => "invalid-default"

private def defaultMessage (path value expected : String) : String :=
  "Default value " ++ quote value ++ " for property " ++ path ++ " is not a valid " ++ expected

def message : ScanError → String
  | invalidRoot index root =>
    "Invalid group prefix " ++ quote root ++ " in declaration #" ++ toString index
  | emptyGroup root => "Group " ++ root ++ " declares no fields"
  | invalidField root name => "Invalid field name " ++ quote name ++ " in group " ++ root
  | unsupportedType path declaredType =>
    "Unsupported type " ++ quote declaredType ++ " for property " ++ path
  | multilineDefault path value type => defaultMessage path value ("single-line " ++ type.name)
  | invalidDefault path value type => defaultMessage path value type.name

end ScanError

/-! ## Fields -/

/-- The type inside one `Option<…>`, with whether there was one. -/
def unwrapOptional (type : List Char) : List Char × Bool :=
  match after? "Option<".toList type >>= before? '>' with
  | some inner => (trimmed inner, true)
  | none => (type, false)

/-- The members that are not blank, without the blanks around them. -/
def usableMembers (members : List String) : List String :=
  (members.map trim).filter (· ≠ "")

/-- The text goes over the end of a line. -/
def isMultiline (text : String) : Bool := text.toList.any fun c ↦ c = '\n' || c = '\r'

/-- Why the default of a property is refused, if it is. -/
def defaultFault? (path value : String) (type : SemanticType) (members : List String) :
    Option ScanError :=
  if isMultiline value then some (.multilineDefault path value type)
  else if textCoercesTo value type members then none
  else some (.invalidDefault path value type)

/-- Whether a property has to be bound. -/
def RequiredRule.isRequired (rule : RequiredRule) (field : Declaration.Field) (optional : Bool) :
    Bool :=
  match field.required, rule with
  | some explicit, _ => explicit
  | none, .inferred => field.defaultText.isNone && !optional
  | none, .explicitOnly => false

namespace ScanPolicy

/-- The property that a field below a root declares. -/
def scanField (policy : ScanPolicy) (root : String) (field : Declaration.Field) :
    Except ScanError Property :=
  let name := trim field.name
  if !PropertyPath.isDotted name.toList then .error (.invalidField root field.name) else
  let path := PropertyPath.below root name
  let (type, optional) := unwrapOptional (trimmed field.declaredType.toList)
  match policy.registry.resolve type with
  | none => .error (.unsupportedType path field.declaredType)
  | some meaning =>
    let type := meaning.semanticType
    let members := usableMembers field.members
    if type = .enum ∧ members = [] then .error (.unsupportedType path field.declaredType) else
    match field.defaultText.bind (defaultFault? path · type members) with
    | some fault => .error fault
    | none => .ok {
        path
        semanticType := type
        label := field.label
        required := policy.rule.isRequired field optional
        groupRoot := root
        defaultText := field.defaultText
        members := if type = .enum then members else []
        reference := meaning.reference }

/-- The group that the declaration at a position makes. -/
def scanGroup (policy : ScanPolicy) (index : Nat) (declared : Declaration.Group) :
    Except ScanError PropertyGroup :=
  let root := trim declared.root
  if !PropertyPath.isDotted root.toList then .error (.invalidRoot index declared.root)
  else if declared.fields = [] then .error (.emptyGroup root)
  else (declared.fields.mapM (policy.scanField root)).map fun properties ↦
    { root, description := declared.description, properties }

/-- The groups that the declarations make. -/
def scan (policy : ScanPolicy) (declared : List Declaration.Group) :
    Except ScanError (List PropertyGroup) :=
  declared.zipIdx.mapM fun (group, index) ↦ policy.scanGroup index group

end ScanPolicy

end PropertyCatalog
