import PropertyCatalog.Label
import PropertyCatalog.SemanticType

/-!
# Properties and their groups

A property is what is known about one configurable value: its path, its type, and how it is
documented. Groups collect the properties of one declaration in the order of declaration.
-/

namespace PropertyCatalog

/-- What is known about one configurable value. -/
structure Property where
  /-- The whole path, beginning with the root of the group. -/
  path : String
  /-- The meaning of the value. -/
  semanticType : SemanticType
  /-- The label: as declared after scanning, and always present once labels are resolved. -/
  label : Option String
  /-- A value has to be bound. -/
  required : Bool
  /-- The root of the group that the property belongs to. -/
  groupRoot : String
  /-- The default, as text. -/
  defaultText : Option String
  /-- The members of an enumerated type. -/
  members : List String
  /-- The root of the group that a property of type `group` refers to. -/
  reference : Option String
deriving DecidableEq

namespace Property

/-- The last segment of the path. -/
def name (p : Property) : String := PropertyPath.name p.path

/-- The label, or the one derived from the path where none is attached. -/
def labelOrDerived (p : Property) : String := p.label.getD (Label.derived p.path)

def placeholder (p : Property) : String := p.defaultText.getD p.semanticType.placeholder

def resolveLabel (p : Property) : Property :=
  { p with label := some (Label.resolve p.label p.path) }

end Property

/-- The properties of one declared group. -/
structure PropertyGroup where
  /-- The path that every property of the group lies beneath. -/
  root : String
  /-- What the group is for. -/
  description : Option String
  /-- The properties, in the order in which they are declared. -/
  properties : List Property
deriving DecidableEq

namespace PropertyGroup

def paths (g : PropertyGroup) : List String := g.properties.map (·.path)

def resolveLabels (g : PropertyGroup) : PropertyGroup :=
  { g with properties := g.properties.map (·.resolveLabel) }

end PropertyGroup

def resolveLabels (groups : List PropertyGroup) : List PropertyGroup :=
  groups.map (·.resolveLabels)

end PropertyCatalog
