import PropertyCatalog.CommandLine.Command
import PropertyCatalog.CommandLine.Failure
import PropertyCatalog.Load
import PropertyCatalog.Precedence

/-!
# What a command works on

The catalog that the options of a command mean, and the values that a check is about: files, beneath
the environment, beneath explicit values.
-/

namespace PropertyCatalog.CommandLine

open Text

/-! ## The catalog -/

/-- The name and the type of an alias `NAME=TYPE`, without the blanks around them. -/
def readAlias (entry : String) : Except Failure (String × SemanticType) :=
  match cut? (· = '=') entry.toList with
  | none => .error (.aliasForm entry)
  | some (name, type) =>
    let type := String.ofList (trimmed type)
    match SemanticType.ofName? type with
    | none => .error (.aliasType type)
    | some type => .ok (String.ofList (trimmed name), type)

namespace CatalogOptions

/-- The standard names of types and the aliases. -/
def registry (o : CatalogOptions) : Except Failure TypeRegistry :=
  (o.aliases.mapM readAlias).map fun aliases ↦
    aliases.foldl (fun r (name, type) ↦ r.addAlias name type) .standard

def policy (o : CatalogOptions) : Except Failure ScanPolicy :=
  o.registry.map fun registry ↦
    { rule := if o.explicitRequired then .explicitOnly else .inferred, registry }

/-- The catalog of the declaration files. -/
def load (o : CatalogOptions) (files : Files) : Except Failure Catalog := do
  let declared ← (loadDeclarationFiles files o.declarations).mapError .load
  let policy ← o.policy
  (policy.buildCatalog declared).mapError .build

end CatalogOptions

/-! ## The values -/

/-- The path and the value of an entry `PATH=VALUE`. The path loses the blanks around it and the value
does not. -/
def readOverride (entry : String) : Except Failure (String × BoundValue) :=
  match cut? (· = '=') entry.toList with
  | none => .error (.overrideForm entry)
  | some (path, value) => .ok (String.ofList (trimmed path), .text (String.ofList value))

namespace ValidateOptions

/-- The values of the files, of which later ones win. -/
def fileValues (o : ValidateOptions) (files : Files) : Except Failure BoundValues :=
  (o.values.mapM fun path ↦ (loadValues files path).mapError .load).map
    (·.foldl TextMap.extend ∅)

/-- The values that the environment binds for a catalog, if it is asked for any. -/
def envValues (o : ValidateOptions) (env : Environment) (c : Catalog) : BoundValues :=
  if o.env then env.values c o.envLead else ∅

def explicitValues (o : ValidateOptions) : Except Failure (Option BoundValues) :=
  (o.overrides.mapM readOverride).map fun entries ↦
    if entries.isEmpty then none else some (TextMap.ofList entries)

def sources (o : ValidateOptions) (files : Files) (env : Environment) (c : Catalog) :
    Except Failure Sources := do
  let file ← o.fileValues files
  let overrides ← o.explicitValues
  .ok ⟨file, o.envValues env c, overrides⟩

end ValidateOptions

end PropertyCatalog.CommandLine
