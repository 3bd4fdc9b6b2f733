import PropertyCatalog.PropertyPath
import PropertyCatalog.Text.Letter
import PropertyCatalog.Text.LetterCase

/-!
# Labels

A label is the text that documentation shows for a property. Where a declaration gives none, it is
derived from the last segment of the path: the segment is split into words, acronyms stay as they
are, every other word is put into lower case, and the first letter of the whole is capitalised.
`maxPoolSize` becomes `Max pool size`, and `HTTPPort` becomes `HTTP port`.
-/

namespace PropertyCatalog.Label

open Text

/-! ## Words -/

/-- The character stands between words and belongs to none. -/
def isSeparator (c : Char) : Bool := c = '-' || c = '_' || isBlank c

/-- A new word begins with `b` right after `a`, where `after` follows `b`: `b` is a capital, and `a`
is lower case or a digit, or the last capital of an acronym that a lower-case letter ends. -/
def breaksBetween (a b : Char) (after : List Char) : Bool :=
  isUpper b && (isLower a || a.isDigit || isUpper a && after.head?.any isLower)

/-- The word whose characters were collected backwards, if there is one. -/
def finished (current : List Char) : List (List Char) :=
  if current.isEmpty then [] else [current.reverse]

/-- The words of the rest of a text behind an unfinished word, which is collected backwards. -/
def wordsAfter (current : List Char) : List Char → List (List Char)
  | [] => finished current
  | c :: cs =>
    if isSeparator c then finished current ++ wordsAfter [] cs
    else match current with
      | [] => wordsAfter [c] cs
      | a :: before =>
        if breaksBetween a c cs then (a :: before).reverse :: wordsAfter [c] cs
        else wordsAfter (c :: a :: before) cs

def words (cs : List Char) : List (List Char) := wordsAfter [] cs

/-! ## Labels derived from paths -/

/-- The word has several letters, and nothing in it is lower case. -/
def isAcronym (word : List Char) : Bool :=
  1 < word.countP isLetter && word.all (!isLower ·)

/-- A word as it stands in a label. -/
def labelWord (word : List Char) : List Char := if isAcronym word then word else lowered word

/-- The label of a path without one of its own, over characters. -/
def derivedChars (path : List Char) : List Char :=
  capitalized (List.intercalate [' '] ((words (PropertyPath.lastSegment path)).map labelWord))

/-- The label of a path without one of its own. -/
def derived (path : String) : String := String.ofList (derivedChars path.toList)

/-- The label of a path: the declared one without the blanks around it, or the derived one where
nothing is left. -/
def resolve (declared : Option String) (path : String) : String :=
  match declared.map trim with
  | some label => if label = "" then derived path else label
  | none => derived path

end PropertyCatalog.Label
