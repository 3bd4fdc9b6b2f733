import PropertyCatalog.CommandLine.Option
import PropertyCatalog.Environment

/-!
# Commands

What a user can ask for on the command line, and how arguments say it. Every command works on the
catalog of some declaration files.
-/

namespace PropertyCatalog.CommandLine

/-- Which catalog a command works on. -/
structure CatalogOptions where
  /-- The declaration files. -/
  declarations : List String
  /-- Properties have to be bound only where the declaration says so. -/
  explicitRequired : Bool
  /-- More names of types, each as `NAME=TYPE`. -/
  aliases : List String
deriving DecidableEq

/-- The form of documentation. -/
inductive DocsFormat where
  /-- A Markdown document. -/
  | markdown
  /-- A table in JSON. -/
  | json
deriving DecidableEq

/-- What is checked, and how the outcome is told. -/
structure ValidateOptions where
  /-- The files with values, of which later ones win. -/
  values : List String
  /-- Values come from environment variables, too. -/
  env : Bool
  /-- What stands in front of the names of variables. -/
  envLead : Option String
  /-- Explicit values, each as `PATH=VALUE`. -/
  overrides : List String
  /-- Warnings count as failures. -/
  strict : Bool
  /-- The outcome is told as JSON. -/
  json : Bool
deriving DecidableEq

/-- What a user can ask for. -/
inductive Command where
  /-- A listing of the properties. -/
  | list (catalog : CatalogOptions) (requiredOnly : Bool)
  /-- An example file. -/
  | exampleFile (catalog : CatalogOptions) (output : Option String)
  /-- Documentation. -/
  | docs (catalog : CatalogOptions) (format : DocsFormat) (output : Option String)
  /-- A check of values. -/
  | validate (catalog : CatalogOptions) (options : ValidateOptions)
deriving DecidableEq

/-- What the arguments as a whole ask for. -/
inductive Request where
  /-- The version of the program. -/
  | version
  /-- Help. -/
  | help
  /-- To carry out a command. -/
  | command (c : Command)
deriving DecidableEq

/-! ## The options of each command -/

def catalogForms : List OptionForm :=
  [helpForm,
   { name := "declarations", letter := 'd', operand := .path, repeatable := true },
   { name := "explicit-required" },
   { name := "alias", operand := .text, repeatable := true }]

/-- The option that names the file to write. -/
def outputForm : OptionForm := { name := "output", letter := 'o', operand := .path }

def listForms : List OptionForm := { name := "required-only" } :: catalogForms

def exampleForms : List OptionForm := outputForm :: catalogForms

def docsForms : List OptionForm :=
  { name := "format", operand := .oneOf ["markdown", "json"] } :: outputForm :: catalogForms

def validateForms : List OptionForm :=
  [{ name := "values", letter := 'v', operand := .path, repeatable := true },
   { name := "env" },
   { name := "env-prefix", operand := .text },
   { name := "set", operand := .text, repeatable := true },
   { name := "strict" },
   { name := "json" }] ++ catalogForms

/-! ## From options to commands -/

/-- What every occurrence of an option took. -/
def operands (given : List Given) (name : String) : List String :=
  (given.filter (·.name = name)).map (·.operand)

/-- What the first occurrence of an option took. -/
def operand? (given : List Given) (name : String) : Option String := (operands given name).head?

def isGiven (given : List Given) (name : String) : Bool := given.any (·.name = name)

/-- The catalog that the options mean. There has to be a declaration file. -/
def CatalogOptions.ofGiven (given : List Given) : Except Stop CatalogOptions :=
  if isGiven given "declarations" then
    .ok ⟨operands given "declarations", isGiven given "explicit-required", operands given "alias"⟩
  else .error .refused

/-- The form that the options mean; Markdown, unless they say otherwise. -/
def DocsFormat.ofGiven (given : List Given) : DocsFormat :=
  if operand? given "format" = some "json" then .json else .markdown

/-- The variable that stands in for the option `env-prefix` where that is not given. -/
def envLeadVariable : String := "CONFMETA_ENV_PREFIX"

/-- What stands in front of the names of variables. A variable that holds no text is refused. -/
def envLead (env : Environment) (given : List Given) : Except Stop (Option String) :=
  match operand? given "env-prefix", env.get? envLeadVariable with
  | some lead, _ => .ok (some lead)
  | none, none => .ok none
  | none, some (some lead) => .ok (some lead)
  | none, some none => .error .refused

def ValidateOptions.ofGiven (env : Environment) (given : List Given) :
    Except Stop ValidateOptions := do
  let lead ← CommandLine.envLead env given
  .ok ⟨operands given "values", isGiven given "env", lead, operands given "set",
    isGiven given "strict", isGiven given "json"⟩

def Command.ofArguments (env : Environment) (name : String) (arguments : List String) :
    Except Stop Command :=
  match name with
  | "list" => do
    let given ← readOptions listForms [] arguments
    .ok (.list (← CatalogOptions.ofGiven given) (isGiven given "required-only"))
  | "example" => do
    let given ← readOptions exampleForms [] arguments
    .ok (.exampleFile (← CatalogOptions.ofGiven given) (operand? given "output"))
  | "docs" => do
    let given ← readOptions docsForms [] arguments
    .ok (.docs (← CatalogOptions.ofGiven given) (DocsFormat.ofGiven given)
      (operand? given "output"))
  | "validate" => do
    let given ← readOptions validateForms [] arguments
    .ok (.validate (← CatalogOptions.ofGiven given) (← ValidateOptions.ofGiven env given))
  | _ => .error .refused

/-! ## From arguments to requests -/

def commandNames : List String := ["list", "example", "docs", "validate"]

/-- What an option in front of any command asks for. -/
def Request.ofLeadingOption? : Argument → Option Request
  | .long "version" none | .short 'V' _ => some .version
  | .long "help" none | .short 'h' _ => some .help
  | _ => none

/-- What the arguments ask for, unless they cannot be read. -/
def Request.ofArguments? (env : Environment) : List String → Option Request
  | [] => none
  | first :: rest =>
    if commandNames.contains first then
      match Command.ofArguments env first rest with
      | .ok c => some (.command c)
      | .error .help => some .help
      | .error .refused => none
    else if first = "help" then
      match rest with
      | [] => some .help
      | [name] => if ("help" :: commandNames).contains name then some .help else none
      | _ => none
    else Request.ofLeadingOption? (Argument.ofText first)

end PropertyCatalog.CommandLine
