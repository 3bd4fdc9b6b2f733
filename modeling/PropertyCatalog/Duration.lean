import PropertyCatalog.Text.Blank
import PropertyCatalog.Text.Numeral

/-!
# Durations

A duration is a whole number of nanoseconds whose seconds fit into 64 bits. Written durations are a
number and a unit such as `500ms`, `30s` or `2h`; bare digits are milliseconds. Both the number and
the milliseconds it comes to have to fit into 64 bits.
-/

namespace PropertyCatalog

def nanosPerSecond : Nat := 1000000000

def nanosPerMilli : Nat := 1000000

/-- A span of time in nanoseconds. -/
structure Duration where
  /-- The length in nanoseconds. -/
  nanos : Nat
  /-- The whole seconds fit into 64 bits. -/
  nanos_lt : nanos < UInt64.size * nanosPerSecond
deriving DecidableEq

namespace Duration

def seconds (d : Duration) : Nat := d.nanos / nanosPerSecond

def subsecNanos (d : Duration) : Nat := d.nanos % nanosPerSecond

/-- The whole milliseconds; what is left over is dropped. -/
def millis (d : Duration) : Nat := d.nanos / nanosPerMilli

/-- The duration of the given seconds and nanoseconds, if it is one. -/
def ofParts? (seconds nanos : Nat) : Option Duration :=
  if h : nanos < nanosPerSecond ∧ seconds < UInt64.size then
    some ⟨seconds * nanosPerSecond + nanos, by simp only [nanosPerSecond, UInt64.size] at *; omega⟩
  else none

/-! ## Written durations -/

/-- How many milliseconds the unit stands for. -/
def unitMillis? : List Char → Option Nat
  | [] | ['m', 's'] => some 1
  | ['s'] => some 1000
  | ['m'] => some 60000
  | ['h'] => some 3600000
  | ['d'] => some 86400000
  | _ => none

/-- The number, where it fits into 64 bits. -/
def word? (n : Nat) : Option Nat := if n < UInt64.size then some n else none

/-- The milliseconds that a text without surrounding blanks stands for: digits, blanks and a
unit. -/
def millisOf? (cs : List Char) : Option Nat := do
  let amount ← Text.digits? (cs.takeWhile Char.isDigit) >>= word?
  let factor ← unitMillis? (Text.trimmed (cs.dropWhile Char.isDigit))
  word? (amount * factor)

/-- The milliseconds that a text stands for, with blanks around it. -/
def readMillis? (text : String) : Option Nat := millisOf? (Text.trimmed text.toList)

theorem word?_eq_some_iff {n m : Nat} : word? n = some m ↔ n < UInt64.size ∧ m = n := by
  rw [word?, Option.ite_none_right_eq_some, Option.some_inj, eq_comm (a := n)]

/-- What a text comes to: its digits as a number, times what its unit stands for, if both are small
enough. -/
theorem millisOf?_eq_some_iff {cs : List Char} {m : Nat} :
    millisOf? cs = some m ↔
      ∃ amount factor, Text.digits? (cs.takeWhile Char.isDigit) = some amount ∧
        unitMillis? (Text.trimmed (cs.dropWhile Char.isDigit)) = some factor ∧
          amount < UInt64.size ∧ amount * factor < UInt64.size ∧ m = amount * factor := by
  simp only [millisOf?, bind, Option.bind_assoc, Option.bind_eq_some_iff, word?_eq_some_iff]
  constructor
  · rintro ⟨amount, hdigits, _, ⟨hamount, rfl⟩, factor, hunit, hproduct, hm⟩
    exact ⟨_, factor, hdigits, hunit, hamount, hproduct, hm⟩
  · rintro ⟨amount, factor, hdigits, hunit, hamount, hproduct, hm⟩
    exact ⟨amount, hdigits, amount, ⟨hamount, rfl⟩, factor, hunit, hproduct, hm⟩

end Duration

end PropertyCatalog
