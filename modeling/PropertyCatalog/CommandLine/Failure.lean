import PropertyCatalog.Catalog
import PropertyCatalog.FileFormat

/-!
# Failures of commands

Why a command that was understood cannot be carried out. A failure is told in one line; where
something else is behind it, that is told, too.
-/

namespace PropertyCatalog.CommandLine

/-- Why a command cannot be carried out. -/
inductive Failure where
  /-- A file does not load. -/
  | load (error : LoadError)
  /-- An alias has no `=`. -/
  | aliasForm (entry : String)
  /-- An alias is for no semantic type. -/
  | aliasType (type : String)
  /-- The declarations make no catalog. -/
  | build (error : BuildError)
  /-- An explicit value has no `=`. -/
  | overrideForm (entry : String)
  /-- The file cannot be written. -/
  | write (path reason : String)
deriving DecidableEq

namespace Failure

def message : Failure → String
  | load error => error.message
  | aliasForm entry => "Invalid alias " ++ Text.quote entry ++ ", expected NAME=TYPE"
  | aliasType type => "Unknown semantic type " ++ Text.quote type
  | build _ => "Failed to build configuration catalog"
  | overrideForm entry => "Invalid --set " ++ Text.quote entry ++ ", expected PATH=VALUE"
  | write path reason => "Failed to write " ++ path ++ ": " ++ reason

/-- What is behind the failure. -/
def cause? : Failure → Option String
  | aliasType _ => some SemanticType.unknownName
  | build error => some error.message
  | _ => none

/-- The failure as it is told to the user. -/
def text (f : Failure) : String :=
  "Error: " ++ f.message ++ "\n" ++
    f.cause?.elim "" fun cause ↦ "\nCaused by:\n    " ++ cause ++ "\n"

end Failure

end PropertyCatalog.CommandLine
