/-!
# Spans of code points

A Unicode property holds on long runs of code points, and where capitals and small letters alternate
it holds on every second one. Both are arithmetic progressions, so a property is a list of spans
`first, first + step, …, last`, and a case mapping is a list of spans that move by one offset.
-/

namespace PropertyCatalog.Text

/-- The code points `first`, `first + step`, … up to `last`. -/
structure Span where
  /-- The least code point of the span. -/
  first : Nat
  /-- The greatest code point of the span. -/
  last : Nat
  /-- The distance of two neighbours. -/
  step : Nat
deriving DecidableEq

def Span.contains (s : Span) (n : Nat) : Bool :=
  s.first ≤ n && n ≤ s.last && (n - s.first) % s.step == 0

def inSpans (spans : List Span) (c : Char) : Bool := spans.any (·.contains c.toNat)

/-- A span whose code points move by the same offset. -/
structure Shift where
  /-- What moves. -/
  span : Span
  /-- How far it moves. -/
  offset : Int
deriving DecidableEq

/-- Where a code point moves: by the offset of the span through it, and nowhere if there is
none. -/
def shiftBy (shifts : List Shift) (n : Nat) : Nat :=
  match shifts.find? (·.span.contains n) with
  | some s => (n + s.offset).toNat
  | none => n

end PropertyCatalog.Text
