import PropertyCatalog.Text.LetterCase.Classes
import PropertyCatalog.Text.LetterCase.Mapping

/-!
# Changing case

Lower case is taken character by character, with one exception that looks at the neighbours: a
capital sigma that ends a word becomes `ς`, any other becomes `σ`. Only the first character of a
text is ever capitalised, and for that no context matters.
-/

namespace PropertyCatalog.Text

/-- The nearest character that is not passed over has a case. -/
def nextIsCased (cs : List Char) : Bool := ((cs.dropWhile isCaseIgnorable).head?).any isCased

/-- A sigma between these characters ends a word: a cased character stands before it and none
after it. The characters before it come nearest first. -/
def isFinalSigma (before after : List Char) : Bool := nextIsCased before && !nextIsCased after

/-- Lower case of the rest of a text, given the characters before it, nearest first. -/
def lowerAfter (before : List Char) : List Char → List Char
  | [] => []
  | c :: cs =>
    let image :=
      if c = 'Σ' then (if isFinalSigma before cs then ['ς'] else ['σ']) else lowerChar c
    image ++ lowerAfter (c :: before) cs

def lowered (cs : List Char) : List Char := lowerAfter [] cs

def capitalized : List Char → List Char
  | [] => []
  | c :: cs => upperChar c ++ cs

/-- An ASCII capital as the small letter; any other character as it is. -/
def asciiLower (s : String) : String := s.map Char.toLower

theorem asciiLower_eq_empty_iff {s : String} : asciiLower s = "" ↔ s = "" := by
  rw [asciiLower, ← String.toList_inj, String.toList_map]
  simp

/-- An ASCII small letter as the capital; any other character as it is. -/
def asciiUpper (s : String) : String := s.map Char.toUpper

end PropertyCatalog.Text
