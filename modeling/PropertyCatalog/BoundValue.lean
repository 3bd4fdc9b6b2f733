import PropertyCatalog.Duration
import PropertyCatalog.TextMap

/-!
# Bound values

A value that a file, the environment or a caller gives to a property: raw text, or a scalar that has
a type already. Bound values as a whole are a map from paths, so reports and listings that follow it
are in path order.
-/

namespace PropertyCatalog

/-- A value given to a property. -/
inductive BoundValue where
  /-- Raw text. -/
  | text (s : String)
  /-- A 64-bit integer. -/
  | integer (n : Int64)
  /-- A truth value. -/
  | boolean (b : Bool)
  /-- A span of time. -/
  | duration (d : Duration)
deriving DecidableEq

/-- The values bound to paths. -/
abbrev BoundValues := TextMap BoundValue

/-- The text that a value is shown as; durations are shown in whole milliseconds. -/
def BoundValue.display : BoundValue → String
  | text s => s
  | integer n => toString n.toInt
  | boolean b => if b then "true" else "false"
  | duration d => toString d.millis ++ "ms"

end PropertyCatalog
