/-!
# Declarations

What a host says about its configuration: groups of fields below a common root. A declaration is
input, so its texts are kept as they were given; scanning decides what they mean.
-/

namespace PropertyCatalog.Declaration

/-- One field of a group. -/
structure Field where
  /-- The path of the field relative to the root of its group. -/
  name : String
  /-- The name of the type, as the host writes it. -/
  declaredType : String
  /-- The label, if the host gives one. -/
  label : Option String := none
  /-- Whether the property has to be bound, if the host says so. -/
  required : Option Bool := none
  /-- The default, as text. -/
  defaultText : Option String := none
  /-- The members of an enumerated type. -/
  members : List String := []
deriving DecidableEq

/-- A group of fields below one root. -/
structure Group where
  /-- The path that every field of the group lies beneath. -/
  root : String
  /-- What the group is for. -/
  description : Option String := none
  /-- The fields, in the order in which they are declared. -/
  fields : List Field := []
deriving DecidableEq

/-- What one declaration file holds. -/
structure Document where
  /-- The declared groups, in the order of the file. -/
  groups : List Group
deriving DecidableEq

end PropertyCatalog.Declaration
