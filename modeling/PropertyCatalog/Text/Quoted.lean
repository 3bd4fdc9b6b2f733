import PropertyCatalog.Text.Visible

/-!
# Quoted text

How a text is shown inside a message: in double quotes, with everything that a reader could not see
or could mistake written as an escape. A character that is not visible is written by its code point
in hexadecimal, in lower case and without padding.
-/

namespace PropertyCatalog.Text

/-- The digits of a number in base 16, in lower case and without leading zeros. -/
def hexDigits (n : Nat) : List Char := Nat.toDigits 16 n

/-- How one character is written between double quotes. -/
def quotedChar (c : Char) : List Char :=
  match c with
  | '"' => ['\\', '"']
  | '\\' => ['\\', '\\']
  | '\t' => ['\\', 't']
  | '\r' => ['\\', 'r']
  | '\n' => ['\\', 'n']
  | '\x00' => ['\\', '0']
  | c => if isVisible c then [c] else '\\' :: 'u' :: '\x7b' :: hexDigits c.toNat ++ ['\x7d']

def quote (s : String) : String :=
  String.ofList ('"' :: s.toList.flatMap quotedChar ++ ['"'])

/-- The texts in double quotes, as a bracketed list. -/
def quoteAll (texts : List String) : String :=
  "[" ++ ", ".intercalate (texts.map quote) ++ "]"

end PropertyCatalog.Text
