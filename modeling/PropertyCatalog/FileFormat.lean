import PropertyCatalog.PathName
import PropertyCatalog.Text.LetterCase

/-!
# File formats

The format of a file is told by the extension of its path, in any ASCII case, before anything is known
about the file itself.
-/

namespace PropertyCatalog

/-- Why a file could not be loaded. -/
inductive LoadError where
  /-- There is no such file. -/
  | fileNotFound (path : String)
  /-- The file cannot be read as text. -/
  | unreadable (path reason : String)
  /-- The text does not follow its format. -/
  | parse (format path : String)
  /-- The path has no extension. -/
  | noExtension (path : String)
  /-- No format that would do here has the extension. -/
  | unsupportedFormat (extension : String)
  /-- The document does not have what declarations need. -/
  | invalidDocument (path : String)
deriving DecidableEq

namespace LoadError

def kind : LoadError → String
  | fileNotFound _ => "file-not-found"
  | unreadable .. => "io"
  | parse .. => "parse"
  | noExtension _ => "no-extension"
  | unsupportedFormat _ => "unsupported-format"
  | invalidDocument _ => "invalid-document"

/-- What is said of the error. What exactly is wrong with a document is not said. -/
def message : LoadError → String
  | fileNotFound path => "File not found: " ++ path
  | unreadable path reason => "IO error on " ++ path ++ ": " ++ reason
  | parse format path => "Failed to parse " ++ format ++ " document " ++ path
  | noExtension path => "File has no extension: " ++ path
  | unsupportedFormat extension => "Unsupported file format: " ++ extension
  | invalidDocument path => "Invalid declaration document " ++ path

end LoadError

/-- The formats of files. -/
inductive FileFormat where
  /-- TOML. -/
  | toml
  /-- YAML. -/
  | yaml
  /-- JSON. -/
  | json
  /-- Lines of keys and values; it holds values only. -/
  | properties
deriving DecidableEq

namespace FileFormat

def name : FileFormat → String
  | toml => "TOML"
  | yaml => "YAML"
  | json => "JSON"
  | properties => "properties"

/-- The format with an extension in lower case. -/
def ofExtension? : String → Option FileFormat
  | "toml" => some toml
  | "yaml" | "yml" => some yaml
  | "json" => some json
  | "properties" => some properties
  | _ => none

def ofPath (path : String) : Except LoadError FileFormat :=
  match (PathName.extension? path).map Text.asciiLower with
  | none => .error (.noExtension path)
  | some extension =>
    match ofExtension? extension with
    | some format => .ok format
    | none => .error (.unsupportedFormat extension)

end FileFormat

end PropertyCatalog
