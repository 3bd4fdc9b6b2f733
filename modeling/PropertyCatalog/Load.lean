import PropertyCatalog.Declaration.Check
import PropertyCatalog.Declaration.Formats
import PropertyCatalog.Document.Flatten
import PropertyCatalog.FileFormat
import PropertyCatalog.Files
import PropertyCatalog.Properties

/-!
# Loading files

Declarations and bound values are loaded from files of several formats. What can go wrong is decided in
one order: the extension, then whether there is a file, whether it can be read as text, whether the text
follows its format, and for declarations whether the document has what they need.
-/

namespace PropertyCatalog

def Files.read (files : Files) (path : String) : Except LoadError String :=
  match files path with
  | .missing => .error (.fileNotFound path)
  | .unreadable reason => .error (.unreadable path reason)
  | .text s => .ok s

/-! ## Declarations -/

/-- The format of a declaration file; lines of keys and values hold no declarations. -/
def declarationFormat (path : String) : Except LoadError FileFormat := do
  match ← FileFormat.ofPath path with
  | .properties => .error (.unsupportedFormat FileFormat.properties.name)
  | format => .ok format

def FileFormat.readDocument? : FileFormat → String → Option Declaration.Document
  | toml, text => Declaration.Document.ofToml? text
  | yaml, text => Declaration.Document.ofYaml? text
  | json, text => Declaration.Document.ofJson? text
  | properties, _ => none

def loadDeclarations (files : Files) (path : String) : Except LoadError Declaration.Document := do
  let format ← declarationFormat path
  let text ← files.read path
  match format.readDocument? text with
  | none => .error (.parse format.name path)
  | some document =>
    if document.isSound then .ok document else .error (.invalidDocument path)

/-- The groups of several declaration files, in the order of the paths. -/
def loadDeclarationFiles (files : Files) (paths : List String) :
    Except LoadError (List Declaration.Group) :=
  (paths.mapM (loadDeclarations files)).map (·.flatMap (·.groups))

/-! ## Bound values -/

def FileFormat.readValues? : FileFormat → String → Option BoundValues
  | toml, text => (Document.Toml.readTree? text).map (·.flatten)
  | yaml, text => (Document.Yaml.readTree? text).map (·.flatten)
  | json, text => (Document.Json.readTree? text).map (·.flatten)
  | properties, text => some (PropertiesText.read text)

def loadValues (files : Files) (path : String) : Except LoadError BoundValues := do
  let format ← FileFormat.ofPath path
  let text ← files.read path
  match format.readValues? text with
  | none => .error (.parse format.name path)
  | some values => .ok values

end PropertyCatalog
