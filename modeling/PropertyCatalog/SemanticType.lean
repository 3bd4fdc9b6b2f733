/-!
# Semantic types

What a property's value means. The semantic type decides which values a property takes and what
stands for a value in an example file. Each type has one name, and `ofName?` reads exactly the names
that `name` writes.
-/

namespace PropertyCatalog

/-- The meaning of a property's value. -/
inductive SemanticType where
  /-- Any text. -/
  | string
  /-- A path in a file system. -/
  | path
  /-- A whole number. -/
  | integer
  /-- One of two truth values. -/
  | boolean
  /-- A span of time. -/
  | duration
  /-- One of the members that the declaration lists. -/
  | enum
  /-- A reference to another group; it holds no value of its own. -/
  | group
deriving DecidableEq

namespace SemanticType

def all : List SemanticType := [.string, .path, .integer, .boolean, .duration, .enum, .group]

def name : SemanticType → String
  | string => "string"
  | path => "path"
  | integer => "integer"
  | boolean => "boolean"
  | duration => "duration"
  | enum => "enum"
  | group => "group"

def ofName? (text : String) : Option SemanticType := all.find? (·.name = text)

/-- What an example file shows for a property of this type without a default. -/
def placeholder : SemanticType → String
  | integer => "0"
  | boolean => "false"
  | duration => "0s"
  | string | path | enum | group => ""

/-- What is said of a text that names no semantic type. -/
def unknownName : String := "Matching variant not found"

theorem ofName?_name (t : SemanticType) : ofName? t.name = some t := by cases t <;> decide

theorem name_of_ofName? {text : String} {t : SemanticType} (h : ofName? text = some t) :
    t.name = text := by simpa using List.find?_some h

end SemanticType

end PropertyCatalog
