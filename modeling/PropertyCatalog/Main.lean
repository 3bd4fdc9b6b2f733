import PropertyCatalog.CommandLine.Run

/-!
# The program

Reads the files and the variables that a command needs, and prints and writes what comes of it.
Every decision is made in `PropertyCatalog.CommandLine`.
-/

namespace PropertyCatalog.CommandLine

/-! ## Files and variables -/

/-- The fault with a number of the system, which may be counted downwards from zero. -/
def faultOfNumber? (number : UInt32) : Option FileFault :=
  match min number.toNat (UInt32.size - number.toNat) with
  | 2 => some .notFound
  | 13 => some .denied
  | 20 => some .notFolder
  | 21 => some .isFolder
  | 36 => some .nameTooLong
  | 40 => some .tooManyLinks
  | _ => none

/-- The fault behind an error, where it is one of those that files have. -/
def faultOf? : IO.Error → Option FileFault
  | .noFileOrDirectory _ number _ | .permissionDenied _ number _ | .inappropriateType _ number _
  | .invalidArgument _ number _ => faultOfNumber? number
  | _ => none

/-- What is said of an error. -/
def reasonOf (error : IO.Error) : String :=
  (faultOf? error).elim (toString error) (·.message)

/-- What stands at a path that cannot be read. -/
def statusOf (error : IO.Error) : FileStatus :=
  match faultOf? error with
  | some .notFound | some .notFolder | some .nameTooLong | some .tooManyLinks => .missing
  | _ => .unreadable (reasonOf error)

/-- What stands at a path. -/
def readStatus (path : String) : IO FileStatus := do
  try
    match String.fromUTF8? (← IO.FS.readBinFile path) with
    | some s => return .text s
    | none => return .unreadable FileFault.notText.message
  catch error => return statusOf error

def readFiles (paths : List String) : IO Files := do
  let statuses ← paths.mapM fun path ↦ return (path, ← readStatus path)
  return fun path ↦ (statuses.lookup path).getD .missing

/-- The variables with some names, as far as they are set. -/
def readVariables (names : List String) : IO Environment := do
  let found ← names.mapM fun name ↦ return (← IO.getEnv name).map fun s ↦ (name, some s)
  return TextMap.ofList (found.filterMap id)

def writeText (path text : String) : IO Ending := do
  try
    IO.FS.writeFile path text
    return .wrote path ""
  catch error => return .failed (.write path (reasonOf error))

/-! ## The program -/

def carryOut (c : Command) : IO Ending := do
  let files ← readFiles c.inputs
  match c.effect files (← readVariables (c.variableNames files)) with
  | .error failure => return .failed failure
  | .ok (.done ending) => return ending
  | .ok (.write path text) => writeText path text

end PropertyCatalog.CommandLine

open PropertyCatalog.CommandLine in
/-- Carries out what the arguments ask for. -/
def main (arguments : List String) : IO UInt32 := do
  let ending ← match Request.ofArguments? (← readVariables [envLeadVariable]) arguments with
    | none => pure .refused
    | some .version => pure (.printing versionText)
    | some .help => pure (.printing usage)
    | some (.command c) => carryOut c
  IO.print ending.output
  IO.eprint ending.notes
  return UInt32.ofNat ending.code
