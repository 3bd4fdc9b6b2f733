import PropertyCatalog.Environment
import PropertyCatalog.Load
import PropertyCatalog.Precedence
import PropertyCatalog.Validation

/-!
# Journal

What is noted while configuration is loaded, built and checked. An entry is told from the outcome of an
operation, so operations know nothing of the journal: `Journal.ofBuild` says what building a catalog
notes, given what came of it.
-/

namespace PropertyCatalog

/-- How much an entry matters. -/
inductive Level where
  /-- For whoever looks for a fault. -/
  | debug
  /-- For whoever runs the program. -/
  | info
  /-- For whoever should do something about it. -/
  | warn
deriving DecidableEq

def Level.name : Level → String
  | debug => "DEBUG"
  | info => "INFO"
  | warn => "WARN"

/-- Something that is noted. -/
inductive Entry where
  /-- Declarations were scanned. -/
  | scanned (groups properties : Nat)
  /-- A catalog was built. -/
  | built (groups properties : Nat)
  /-- A path occurs again in the group with a root. -/
  | duplicatePath (path root : String)
  /-- A path was bound by a variable. -/
  | boundFromEnvironment (path variableName : String)
  /-- Values were checked. -/
  | validated (values errors warnings : Nat)
  /-- Declarations were loaded from a file. -/
  | loadedDeclarations (groups : Nat) (path : String)
  /-- Values were loaded from a file. -/
  | loadedValues (values : Nat) (path : String)
  /-- A source gave other values to paths than those before it. -/
  | changedBy (source : String) (paths : List String)
deriving DecidableEq

namespace Entry

def level : Entry → Level
  | built .. | changedBy .. => .info
  | duplicatePath .. => .warn
  | _ => .debug

def text : Entry → String
  | scanned groups properties =>
    "Scanned " ++ toString groups ++ " groups with " ++ toString properties ++ " properties"
  | built groups properties =>
    "Built configuration catalog: " ++ toString groups ++ " groups, " ++ toString properties ++
      " properties"
  | duplicatePath path root => "Duplicate property path " ++ path ++ " in group " ++ root
  | boundFromEnvironment path variableName =>
    "Bound " ++ path ++ " from environment variable " ++ variableName
  | validated values errors warnings =>
    "Validated " ++ toString values ++ " bound values: " ++ toString errors ++ " errors, " ++
      toString warnings ++ " warnings"
  | loadedDeclarations groups path =>
    "Loaded " ++ toString groups ++ " group declarations from " ++ path
  | loadedValues values path => "Loaded " ++ toString values ++ " bound values from " ++ path
  | changedBy source paths => "Configuration from " ++ source ++ ": " ++ Text.quoteAll paths

end Entry

namespace Journal

def ofScan : Except ScanError (List PropertyGroup) → List Entry
  | .ok groups => [.scanned groups.length (groups.flatMap (·.properties)).length]
  | .error _ => []

/-- What building a catalog from groups notes. -/
def ofBuild : Except CatalogError Catalog → List Entry
  | .ok c => [.built c.groups.length c.size]
  | .error (.duplicatePath path root) => [.duplicatePath path root]

/-- What building a catalog from declarations notes. -/
def ofBuildCatalog (policy : ScanPolicy) (declared : List Declaration.Group) : List Entry :=
  let scanned := policy.scan declared
  ofScan scanned ++
    match scanned with
    | .ok groups => ofBuild (Catalog.build (resolveLabels groups))
    | .error _ => []

def ofBindings (bindings : List Environment.Binding) : List Entry :=
  bindings.map fun b ↦ .boundFromEnvironment b.path b.variableName

def ofReport (values : BoundValues) (report : Report) : Entry :=
  .validated values.size report.errors.length report.warnings.length

/-- What loading declaration files notes: an entry for each up to the first that does not load. -/
def ofDeclarationFiles (files : Files) : List String → List Entry
  | [] => []
  | path :: paths =>
    match loadDeclarations files path with
    | .ok document =>
      .loadedDeclarations document.groups.length path :: ofDeclarationFiles files paths
    | .error _ => []

def ofValues (path : String) : Except LoadError BoundValues → List Entry
  | .ok values => [.loadedValues values.size path]
  | .error _ => []

/-- What laying the values of a source over others notes. -/
def ofLayer (source : String) (below above : BoundValues) : List Entry :=
  match changedPaths below above with
  | [] => []
  | paths => [.changedBy source paths]

/-- The names of the sources in the journal. -/
structure SourceNames where
  /-- The name of the file. -/
  file : String
  /-- The name of the environment. -/
  env : String
  /-- The name of the overrides. -/
  overrides : String

def ofMerge (names : SourceNames) (s : Sources) : List Entry :=
  ofLayer names.file ∅ s.file ++ ofLayer names.env s.file s.env ++
    s.overrides.elim [] (ofLayer names.overrides s.beneathOverrides)

end Journal

end PropertyCatalog
