import PropertyCatalog.Catalog

/-!
# Documentation in Markdown

A catalog as a Markdown document: a section for each group with its description and a table, of which
each row shows a property. In labels and members a vertical bar is escaped, and a line break in a label
becomes a space.
-/

namespace PropertyCatalog

namespace Markdown

def code (s : String) : String := "`" ++ s ++ "`"

/-- How one character of a label is written in a cell. -/
def cellChar (c : Char) : List Char :=
  if c = '|' then ['\\', '|'] else if c = '\n' then [' '] else [c]

/-- A label as it is written in a cell. -/
def cell (s : String) : String := String.ofList (s.toList.flatMap cellChar)

/-- The two lines above the rows of a table. -/
def tableHead : String :=
  "| Path | Label | Type | Required | Default |\n" ++
    "|------|-------|------|----------|---------|\n"

end Markdown

open Markdown

namespace Property

/-- What the table says of the type: with the members of an enumerated type, and with the group that is
referred to. -/
def typeCell (p : Property) : String :=
  match p.semanticType with
  | .enum => "enum (" ++ " \\| ".intercalate p.members ++ ")"
  | .group =>
    match p.reference with
    | some root => "group (" ++ code root ++ ")"
    | none => "group"
  | type => type.name

def cells (p : Property) : List String :=
  [code p.path, cell p.labelOrDerived, p.typeCell, if p.required then "yes" else "no",
    p.defaultText.elim "" code]

def markdownRow (p : Property) : String := "| " ++ " | ".intercalate p.cells ++ " |\n"

end Property

namespace PropertyGroup

/-- The description of a group with an empty line behind it, unless it is blank. -/
def markdownDescription (g : PropertyGroup) : String :=
  match g.description.map Text.trim with
  | none | some "" => ""
  | some s => s ++ "\n\n"

def markdownSection (g : PropertyGroup) : String :=
  "\n## " ++ code g.root ++ "\n\n" ++ g.markdownDescription ++ tableHead ++
    String.join (g.properties.map (·.markdownRow))

end PropertyGroup

def Catalog.renderMarkdown (c : Catalog) : String :=
  "# Configuration Properties\n" ++ String.join (c.groups.map (·.markdownSection))

end PropertyCatalog
