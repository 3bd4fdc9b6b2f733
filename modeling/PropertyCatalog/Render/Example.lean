import PropertyCatalog.Catalog

/-!
# Example files

A catalog as properties text that a user can start from: for each group a comment with its root, and
for each property a line with its path and what stands for its value. An empty line separates groups.
-/

namespace PropertyCatalog

def Property.exampleLine (p : Property) : String := p.path ++ "=" ++ p.placeholder ++ "\n"

def PropertyGroup.exampleBlock (g : PropertyGroup) : String :=
  "# " ++ g.root ++ "\n" ++ String.join (g.properties.map (·.exampleLine))

def Catalog.renderExample (c : Catalog) : String :=
  "\n".intercalate (c.groups.map (·.exampleBlock))

end PropertyCatalog
