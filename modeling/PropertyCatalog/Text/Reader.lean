/-!
# Readers

A reader takes a value off the front of a text and leaves the rest, or refuses. A loop is bounded by
the length of the text that was there when it began, because every turn takes at least one
character; the bound is never reached otherwise.
-/

namespace PropertyCatalog.Text

/-- Takes a value off the front of a text, or refuses. -/
abbrev Reader (α : Type) := StateT (List Char) Option α

namespace Reader

/-- The next character, which stays. -/
def peek : Reader (Option Char) := fun cs ↦ some (cs.head?, cs)

/-- The next character, which goes. -/
def next : Reader Char
  | [] => none
  | c :: cs => some (c, cs)

/-- Refuses unless the condition holds. -/
def ensure (b : Bool) : Reader Unit := fun cs ↦ if b then some ((), cs) else none

/-- Takes what is given. -/
def literal (expected : List Char) : Reader Unit := fun cs ↦
  if expected.isPrefixOf cs then some ((), cs.drop expected.length) else none

/-- Takes what is given if it stands there, and says whether it did. -/
def accept (expected : List Char) : Reader Bool := fun cs ↦
  if expected.isPrefixOf cs then some (true, cs.drop expected.length) else some (false, cs)

/-- Takes the characters at the front that meet the condition. -/
def takeWhile (p : Char → Bool) : Reader (List Char) := fun cs ↦
  some (cs.takeWhile p, cs.dropWhile p)

/-- Takes as many characters, each of which meets the condition. -/
def takeExactly (n : Nat) (p : Char → Bool) : Reader (List Char) := fun cs ↦
  let front := cs.take n
  if front.length = n ∧ front.all p then some (front, cs.drop n) else none

/-- How many turns a loop over the rest of the text can take. -/
def bound : Reader Nat := fun cs ↦ some (cs.length + 1, cs)

/-- Takes values until a turn gives none. -/
def collect {α : Type} (turn : Reader (Option α)) : Nat → Reader (List α)
  | 0 => failure
  | n + 1 => do
    match ← turn with
    | none => return []
    | some a => return a :: (← collect turn n)

/-- Takes values until a turn gives none. -/
def many {α : Type} (turn : Reader (Option α)) : Reader (List α) := do collect turn (← bound)

/-- Reads a whole text. -/
def whole {α : Type} (reader : Reader α) (text : List Char) : Option α :=
  match reader text with
  | some (a, []) => some a
  | _ => none

end Reader

end PropertyCatalog.Text
