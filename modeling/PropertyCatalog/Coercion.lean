import PropertyCatalog.BoundValue
import PropertyCatalog.SemanticType
import PropertyCatalog.Text.LetterCase

/-!
# Coercion

Which values a semantic type takes. A typed scalar is taken by its own type, by `string`, and a
non-negative integer also by `duration`; a text is taken by every type whose notation it follows.
Texts are judged without the blanks around them.
-/

namespace PropertyCatalog

open Text

/-- The text is an integer of some width. -/
def isIntegerText (text : String) : Bool := (integer? (trimmed text.toList)).any isWide

/-- The truth value that a text stands for, in any ASCII case. -/
def readBoolean? (text : String) : Option Bool :=
  let word := asciiLower (trim text)
  if word = "true" then some true else if word = "false" then some false else none

/-- The texts differ at most in the case of ASCII letters. -/
def sameWord (a b : String) : Bool := asciiLower a = asciiLower b

/-- The text follows the notation of the type. The members matter for `enum` alone. -/
def textCoercesTo (text : String) (type : SemanticType) (members : List String) : Bool :=
  match type with
  | .string => true
  | .path => !text.toList.contains '\x00'
  | .integer => isIntegerText text
  | .boolean => (readBoolean? text).isSome
  | .duration => (Duration.readMillis? text).isSome
  | .enum => members.any (sameWord · (trim text))
  | .group => false

/-- The type takes the value. -/
def BoundValue.coercesTo (value : BoundValue) (type : SemanticType) (members : List String) :
    Bool :=
  match value, type with
  | .text s, type => textCoercesTo s type members
  | _, .string => true
  | .integer _, .integer => true
  | .integer n, .duration => 0 ≤ n.toInt
  | .boolean _, .boolean => true
  | .duration _, .duration => true
  | _, _ => false

/-! ## What decides about a text -/

theorem textCoercesTo_congr_members {type : SemanticType} (h : type ≠ .enum) (text : String)
    (members members' : List String) :
    textCoercesTo text type members = textCoercesTo text type members' := by
  cases type with
  | enum => exact absurd rfl h
  | string | path | integer | boolean | duration | group => rfl

/-- Blanks around a text decide nothing. -/
theorem textCoercesTo_trim (text : String) (type : SemanticType) (members : List String) :
    textCoercesTo (trim text) type members = textCoercesTo text type members := by
  cases type with
  | string => rfl
  | path =>
    -- a null character is no blank, so trimming cannot remove it
    have hnul : '\x00' ∈ trimmed text.toList ↔ '\x00' ∈ text.toList := mem_trimmed_iff (by decide)
    rw [textCoercesTo, textCoercesTo, toList_trim, Bool.eq_iff_iff, Bool.not_eq_true',
      Bool.not_eq_true', ← Bool.not_eq_true, ← Bool.not_eq_true, List.contains_iff_mem,
      List.contains_iff_mem, hnul]
  | integer =>
    rw [textCoercesTo, textCoercesTo, isIntegerText, toList_trim, trimmed_trimmed, isIntegerText]
  | boolean => rw [textCoercesTo, textCoercesTo, readBoolean?, trim_trim, readBoolean?]
  | duration =>
    rw [textCoercesTo, textCoercesTo, Duration.readMillis?, toList_trim, trimmed_trimmed,
      Duration.readMillis?]
  | enum => rw [textCoercesTo, textCoercesTo, trim_trim]
  | group => rfl

/-- Every type takes what an example file shows for it, apart from `enum` and `group`. -/
theorem textCoercesTo_placeholder {type : SemanticType} (henum : type ≠ .enum)
    (hgroup : type ≠ .group) (members : List String) :
    textCoercesTo type.placeholder type members = true := by
  cases type with
  | enum => exact absurd rfl henum
  | group => exact absurd rfl hgroup
  | boolean =>
    have hread : readBoolean? "false" = some false := by decide +kernel
    rw [textCoercesTo, SemanticType.placeholder, hread, Option.isSome_some]
  | string | path | integer | duration => rfl

theorem textCoercesTo_enum_empty {members : List String} (h : ∀ m ∈ members, m ≠ "") :
    textCoercesTo "" .enum members = false := by
  refine List.any_eq_false.mpr fun m hm hsame ↦ h m hm ?_
  have hlower : asciiLower m = asciiLower (trim "") := of_decide_eq_true hsame
  exact asciiLower_eq_empty_iff.mp (hlower.trans (by decide +kernel))

end PropertyCatalog
