import PropertyCatalog.Catalog
import PropertyCatalog.Document.Json.Printer

/-!
# The documentation table

What documentation says of every property, as rows in catalog order, and the same as JSON.
-/

namespace PropertyCatalog

open Document

/-- What documentation says of a property. -/
structure TableRow where
  /-- The path. -/
  path : String
  /-- The label. -/
  label : String
  /-- The type. -/
  semanticType : SemanticType
  /-- A value has to be bound. -/
  required : Bool
deriving DecidableEq

def Property.tableRow (p : Property) : TableRow :=
  ⟨p.path, p.labelOrDerived, p.semanticType, p.required⟩

/-- The row as a tree, with its parts in this order. -/
def TableRow.tree (r : TableRow) : Tree :=
  .object [("path", .text r.path), ("label", .text r.label),
    ("semantic_type", .text r.semanticType.name), ("required", .boolean r.required)]

namespace Catalog

def table (c : Catalog) : List TableRow := c.properties.map (·.tableRow)

def renderJson (c : Catalog) : String := Json.writePretty (.array (c.table.map (·.tree)))

end Catalog

end PropertyCatalog
