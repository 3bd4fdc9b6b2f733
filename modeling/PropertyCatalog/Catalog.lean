import PropertyCatalog.Scan
import PropertyCatalog.TextMap

/-!
# Catalogs

A catalog holds every property of a configuration once. Its groups stand in an order of their own,
by root, then by the paths of their properties, then by description, so it does not matter in which
order they were found. Beside the groups it keeps where each path stands.
-/

namespace PropertyCatalog

/-! ## The order of groups -/

namespace PropertyGroup

/-- By root, then by paths, then by description; a group without a description comes first. -/
def order (g h : PropertyGroup) : Ordering :=
  (compare g.root h.root).then
    ((compare g.paths h.paths).then (compare g.description h.description))

def precedes (g h : PropertyGroup) : Bool := (order g h).isLE

end PropertyGroup

/-! ## Catalogs -/

/-- Why groups make no catalog. -/
inductive CatalogError where
  /-- A path that occurred before occurs again, in the group with the given root. -/
  | duplicatePath (path root : String)
deriving DecidableEq

namespace CatalogError

def kind : CatalogError → String
  | duplicatePath .. => "duplicate-path"

def message : CatalogError → String
  | duplicatePath path _ => "Duplicate property path: " ++ path

end CatalogError

/-- Where a property stands: the position of its group and its position there. -/
structure Place where
  /-- The position of the group. -/
  group : Nat
  /-- The position in the group. -/
  property : Nat
deriving DecidableEq

/-- All properties of a configuration, with the place of every path. -/
structure Catalog where
  /-- The groups, in catalog order. -/
  groups : List PropertyGroup
  /-- The place of each path. -/
  index : TextMap Place
deriving DecidableEq

/-- A path with where it occurs. -/
structure Occurrence where
  /-- The path. -/
  path : String
  /-- The root of the group. -/
  root : String
  /-- The place. -/
  place : Place

/-- The occurrences of paths, group by group and in each group in order. -/
def occurrences (groups : List PropertyGroup) : List Occurrence :=
  groups.zipIdx.flatMap fun (g, i) ↦ g.properties.zipIdx.map fun (p, j) ↦ ⟨p.path, g.root, ⟨i, j⟩⟩

/-- Adds the occurrences to an index, up to the first path that is in it already. -/
def addOccurrences (index : TextMap Place) : List Occurrence → Except CatalogError (TextMap Place)
  | [] => .ok index
  | o :: os =>
    if index.contains o.path then .error (.duplicatePath o.path o.root)
    else addOccurrences (index.insert o.path o.place) os

namespace Catalog

/-- The catalog of the groups, if no path occurs twice. -/
def build (groups : List PropertyGroup) : Except CatalogError Catalog :=
  let ordered := groups.mergeSort PropertyGroup.precedes
  (addOccurrences ∅ (occurrences ordered)).map (⟨ordered, ·⟩)

def empty : Catalog := ⟨[], ∅⟩

instance : Inhabited Catalog := ⟨empty⟩

/-- The properties, in catalog order. -/
def properties (c : Catalog) : List Property := c.groups.flatMap (·.properties)

def get? (c : Catalog) (path : String) : Option Property := do
  let place ← c.index.get? path
  let group ← c.groups[place.group]?
  group.properties[place.property]?

def contains (c : Catalog) (path : String) : Bool := c.index.contains path

def size (c : Catalog) : Nat := c.index.size

def isEmpty (c : Catalog) : Bool := c.index.isEmpty

end Catalog

/-! ## From declarations to a catalog -/

/-- Why declarations make no catalog. -/
inductive BuildError where
  /-- A declaration is not well formed. -/
  | scan (error : ScanError)
  /-- The groups make no catalog. -/
  | catalog (error : CatalogError)
deriving DecidableEq

namespace BuildError

def kind : BuildError → String
  | scan error => error.kind
  | catalog error => error.kind

def message : BuildError → String
  | scan error => error.message
  | catalog error => error.message

end BuildError

/-- The catalog of the declarations: they are scanned, their labels are resolved, and the groups are
built into one catalog. -/
def ScanPolicy.buildCatalog (policy : ScanPolicy) (declared : List Declaration.Group) :
    Except BuildError Catalog := do
  let groups ← (policy.scan declared).mapError .scan
  (Catalog.build (resolveLabels groups)).mapError .catalog

end PropertyCatalog
