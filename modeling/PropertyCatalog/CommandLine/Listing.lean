import PropertyCatalog.Catalog

/-!
# Listings

A catalog as lines for a reader at a terminal: for each group its root, and beneath it a line for each
property with its path, its type and its label. A star marks what has to be bound.
-/

namespace PropertyCatalog.CommandLine

/-- The text with spaces behind it, so that it has at least the given number of characters. -/
def padded (width : Nat) (s : String) : String :=
  s ++ String.ofList (List.replicate (width - s.length) ' ')

def listingLine (p : Property) : String :=
  "  " ++ (if p.required then "*" else " ") ++ " " ++ padded 40 p.path ++ " " ++
    padded 10 p.semanticType.name ++ " " ++ p.labelOrDerived ++ "\n"

/-- The lines of some properties below their root, with an empty line behind them; nothing, if there
are none. -/
def listingBlock (root : String) (properties : List Property) : String :=
  if properties.isEmpty then ""
  else root ++ "\n" ++ String.join (properties.map listingLine) ++ "\n"

/-- The listing of a catalog, or of what has to be bound in it. The numbers at its end are of the whole
catalog. -/
def listing (c : Catalog) (requiredOnly : Bool) : String :=
  "Configuration Properties\n\n" ++
    String.join (c.groups.map fun g ↦
      listingBlock g.root (g.properties.filter fun p ↦ p.required || !requiredOnly)) ++
    "  " ++ toString c.size ++ " properties in " ++ toString c.groups.length ++
      " groups (* marks required)\n"

end PropertyCatalog.CommandLine
