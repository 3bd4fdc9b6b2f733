import PropertyCatalog.PropertyPath
import PropertyCatalog.SemanticType
import PropertyCatalog.Text.Affix
import PropertyCatalog.TextMap

/-!
# Type registry

Which declared type names mean which semantic type. Hosts add their own names: an alias of a semantic
type, or a name that refers to another group. A name of the form `group:<root>` refers to the group
at that root whatever is registered.
-/

namespace PropertyCatalog

/-- What a declared type name stands for. -/
inductive TypeMeaning where
  /-- A semantic type. -/
  | semantic (type : SemanticType)
  /-- A reference to the group at a root. -/
  | group (root : String)
deriving DecidableEq

namespace TypeMeaning

def semanticType : TypeMeaning → SemanticType
  | semantic type => type
  | group _ => .group

/-- The root of the group that the meaning refers to. -/
def reference : TypeMeaning → Option String
  | semantic _ => none
  | group root => some root

end TypeMeaning

/-- The meanings of registered type names. -/
structure TypeRegistry where
  /-- Each name, as it was registered, with its meaning. -/
  meanings : TextMap TypeMeaning
deriving DecidableEq

namespace TypeRegistry

/-- The registry that knows references of the form `group:<root>` and nothing else. -/
def empty : TypeRegistry := ⟨∅⟩

/-- Gives a name its meaning, in place of the one it may have had. -/
def register (r : TypeRegistry) (name : String) (meaning : TypeMeaning) : TypeRegistry :=
  ⟨r.meanings.insert name meaning⟩

/-- Makes a name stand for a semantic type. -/
def addAlias (r : TypeRegistry) (name : String) (type : SemanticType) : TypeRegistry :=
  r.register name (.semantic type)

/-- Makes a name refer to the group at a root. -/
def addGroup (r : TypeRegistry) (name root : String) : TypeRegistry := r.register name (.group root)

/-- The names that every host may use, with their types. -/
def builtins : List (SemanticType × List String) :=
  [(.string, ["String", "str", "&str", "char", "string", "text"]),
   (.path, ["Path", "PathBuf", "File", "path"]),
   (.integer, ["i8", "i16", "i32", "i64", "i128", "isize", "u8", "u16", "u32", "u64", "u128",
     "usize", "int", "integer", "long", "short"]),
   (.boolean, ["bool", "boolean"]),
   (.duration, ["Duration", "duration"]),
   (.enum, ["enum"])]

/-- The registry of the names that every host may use. -/
def standard : TypeRegistry :=
  builtins.foldl (fun r (type, names) ↦ names.foldl (fun r name ↦ r.addAlias name type) r) empty

instance : Inhabited TypeRegistry := ⟨standard⟩

/-- How a reference to a group begins. -/
def referenceOpening : List Char := "group:".toList

/-- The meaning of a declared type name, with blanks around it. -/
def resolve (r : TypeRegistry) (name : List Char) : Option TypeMeaning :=
  let name := Text.trimmed name
  match Text.after? referenceOpening name with
  | some rest =>
    let root := Text.trimmed rest
    if PropertyPath.isDotted root then some (.group (String.ofList root)) else none
  | none => r.meanings.get? (String.ofList name)

end TypeRegistry

end PropertyCatalog
