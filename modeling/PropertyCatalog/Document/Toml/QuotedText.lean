import PropertyCatalog.Document.Json.Syntax

/-!
# Quoted texts in TOML

The four kinds of quoted text: between double quotes, where escapes count, or single quotes, where
nothing does; and each of them on one line or, between three quotes, on several. A line break right
behind three opening quotes does not count, and a backslash at the end of a line takes the break and
all white space behind it away.
-/

namespace PropertyCatalog.Document.Toml.QuotedText

open PropertyCatalog.Text

/-- The character may stand in a text or a comment: it is no control character, or a tab. -/
def isPlain (c : Char) : Bool := c = '\t' || ' ' ≤ c && c ≠ '\x7f'

def isSpace (c : Char) : Bool := c = ' ' || c = '\t'

/-- Takes a character by its number, written in so many hexadecimal digits. -/
def codePoint (width : Nat) : Reader Char := do
  let some n := Json.Syntax.ofHexDigits? (← Reader.takeExactly width fun _ ↦ true) | failure
  Reader.ensure (n < 0xd800 || 0xe000 ≤ n && n < 0x110000)
  return Char.ofNat n

/-- Takes what follows a backslash. -/
def escape : Reader Char := do
  match ← Reader.next with
  | '"' => return '"'
  | '\\' => return '\\'
  | 'b' => return '\x08'
  | 'e' => return '\x1b'
  | 'f' => return '\x0c'
  | 'n' => return '\n'
  | 'r' => return '\r'
  | 't' => return '\t'
  | 'x' => codePoint 2
  | 'u' => codePoint 4
  | 'U' => codePoint 8
  | _ => failure

/-- Takes a line break, if there is one. -/
def lineBreak : Reader Bool := do
  if ← Reader.accept ['\n'] then return true else Reader.accept ['\r', '\n']

/-- Takes the piece of a text on one line behind an opening quote, or the quote that closes it. -/
def shortPiece (quote : Char) : Reader (Option Char) := do
  let c ← Reader.next
  if c = quote then return none
  if c = '\\' ∧ quote = '"' then return some (← escape)
  Reader.ensure (isPlain c)
  return some c

/-- Takes what follows a backslash in a text on several lines: the break it takes away with the white
space behind it, or an escape. -/
def longEscape : Reader (List Char) := fun cs ↦
  match (do let _ ← Reader.takeWhile isSpace; lineBreak : Reader Bool) cs with
  | some (true, rest) =>
    (Reader.takeWhile (fun c ↦ isSpace c || c = '\n' || c = '\r') >>= fun _ ↦ pure []) rest
  | _ => ((fun c ↦ [c]) <$> escape) cs

/-- Takes the piece of a text on several lines, or the three quotes that close it. Up to two quotes
may stand in front of those. -/
def longPiece (quote : Char) : Reader (Option (List Char)) := do
  match ← Reader.peek with
  | some '\n' => let _ ← Reader.next; return some ['\n']
  | some '\r' => Reader.literal ['\r', '\n']; return some ['\r', '\n']
  | some c =>
    if c = quote then
      let quotes ← Reader.takeWhile (· = quote)
      let n := quotes.length
      Reader.ensure (n ≤ 5)
      if n < 3 then return some quotes
      if n = 3 then return none
      modify (List.replicate 3 quote ++ ·)
      return some (List.replicate (n - 3) quote)
    let _ ← Reader.next
    if c = '\\' ∧ quote = '"' then return some (← longEscape)
    Reader.ensure (isPlain c)
    return some [c]
  | none => failure

def short (quote : Char) : Reader String := do
  Reader.literal [quote]
  return String.ofList (← Reader.many (shortPiece quote))

/-- Takes a text on one line or on several. -/
def quoted (quote : Char) : Reader String := do
  if ← Reader.accept [quote, quote, quote] then
    let _ ← lineBreak
    return String.ofList (← Reader.many (longPiece quote)).flatten
  else short quote

end PropertyCatalog.Document.Toml.QuotedText
