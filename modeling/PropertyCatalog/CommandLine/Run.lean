import PropertyCatalog.CommandLine.Layers
import PropertyCatalog.CommandLine.Listing
import PropertyCatalog.CommandLine.Verdict
import PropertyCatalog.Render.Example
import PropertyCatalog.Render.Markdown
import PropertyCatalog.Render.Table

/-!
# Runs

What comes of a run of the program. It first settles everything that can fail, from what can be
read, and says what it does, which is at most to write one file (`effect`); only then is the file
written (`run`). So nothing is written unless everything before it succeeded.
-/

namespace PropertyCatalog.CommandLine

/-! ## Endings -/

/-- How a run ends. -/
inductive Ending where
  /-- The arguments cannot be read. -/
  | refused
  /-- The command cannot be carried out. -/
  | failed (failure : Failure)
  /-- The command was carried out; if it was a check, it may be passed or not. -/
  | finished (passed : Bool) (output notes : String)
deriving DecidableEq

/-- How the program is to be used. -/
def usage : String :=
  "Usage: confmeta <list|example|docs|validate> -d <FILE>... [OPTIONS]\n"

def versionText : String := "confmeta 0.3.0\n"

namespace Ending

/-- The exit code: 2 if nothing was understood, 1 if it was and failed, and else 0. -/
def code : Ending → Nat
  | refused => 2
  | failed _ => 1
  | finished passed .. => if passed then 0 else 1

def output : Ending → String
  | refused | failed _ => ""
  | finished _ output _ => output

def notes : Ending → String
  | refused => usage
  | failed failure => failure.text
  | finished _ _ notes => notes

/-- The ending that prints a text and notes nothing. -/
def printing (output : String) : Ending := finished true output ""

/-- The ending after something was written to a path and some text was printed by that. -/
def wrote (path printed : String) : Ending :=
  finished true printed ("info: Wrote " ++ path ++ "\n")

def ofVerdict (v : Verdict) (json : Bool) : Ending :=
  if json then finished (!v.failed) v.json ""
  else if v.failed then finished false v.text v.failureNote
  else printing (v.text ++ "✓ Configuration is valid\n")

end Ending

/-! ## Effects -/

/-- What a command does once nothing can fail any more but to write a file. -/
inductive Effect where
  /-- It ends. -/
  | done (ending : Ending)
  /-- It writes a text to a path. -/
  | write (path text : String)
deriving DecidableEq

namespace Effect

/-- The text goes to the file at a path, or is printed if there is none. -/
def emit (text : String) (output : Option String) : Effect :=
  output.elim (done (.printing text)) (write · text)

/-- How it ends, provided that what is to be written can be written to a file. -/
def ending : Effect → Ending
  | done ending => ending
  | write path _ => .wrote path ""

end Effect

def DocsFormat.render (format : DocsFormat) (c : Catalog) : String :=
  match format with
  | markdown => c.renderMarkdown
  | json => c.renderJson ++ "\n"

namespace Command

/-- What the command does, given the files and the environment. -/
def effect (files : Files) (env : Environment) : Command → Except Failure Effect
  | list catalog requiredOnly => do
    let c ← catalog.load files
    .ok (.done (.printing (listing c requiredOnly)))
  | exampleFile catalog output => do
    let c ← catalog.load files
    .ok (.emit c.renderExample output)
  | docs catalog format output => do
    let c ← catalog.load files
    .ok (.emit (format.render c) output)
  | validate catalog options => do
    let c ← catalog.load files
    let sources ← options.sources files env c
    .ok (.done (.ofVerdict ⟨c.validate sources.merge, options.strict⟩ options.json))

/-- The paths of the files that the command reads. -/
def inputs : Command → List String
  | list catalog _ | exampleFile catalog _ | docs catalog _ _ => catalog.declarations
  | validate catalog options => catalog.declarations ++ options.values

/-- The names of the variables that the command reads. -/
def variableNames (files : Files) : Command → List String
  | validate catalog options =>
    match options.env, catalog.load files with
    | true, .ok c => c.properties.map fun p ↦ Environment.variableName p.path options.envLead
    | _, _ => []
  | _ => []

end Command

/-- What the program does when it is called with some arguments, given the files and the
environment. -/
def effect (files : Files) (env : Environment) (arguments : List String) : Effect :=
  match Request.ofArguments? env arguments with
  | none => .done .refused
  | some .version => .done (.printing versionText)
  | some .help => .done (.printing usage)
  | some (.command c) =>
    match c.effect files env with
    | .ok effect => effect
    | .error failure => .done (.failed failure)

/-- The exit code of the program, provided that what is to be written can be written to a file. -/
def exitCode (files : Files) (env : Environment) (arguments : List String) : Nat :=
  (effect files env arguments).ending.code

/-! ## Runs on a file system -/

/-- What a run leaves behind. -/
structure Run where
  /-- How it ends. -/
  ending : Ending
  /-- The files after it. -/
  files : FileTree

/-- What comes of an effect on a file system. -/
def Effect.run (t : FileTree) : Effect → Run
  | done ending => ⟨ending, t⟩
  | write path text =>
    match t.write path text with
    | .ok (written, printed) => ⟨.wrote path printed, written⟩
    | .error fault => ⟨.failed (.write path fault.message), t⟩

/-- The run of the program with some arguments. -/
def run (t : FileTree) (env : Environment) (arguments : List String) : Run :=
  (effect t.files env arguments).run t

end PropertyCatalog.CommandLine
