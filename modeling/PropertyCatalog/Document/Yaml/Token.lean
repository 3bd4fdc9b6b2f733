import PropertyCatalog.Document.Yaml.Scalar

/-!
# Tokens of YAML

A YAML text as tokens: indicators, scalars, and marks where a collection in block style begins or
ends, which are read off the indentation.

Whether a scalar or a collection is a key is only known at the colon behind it. So a place where a key
might begin is remembered while its line goes on, one place for each level of brackets, and at the
colon the tokens that begin a mapping and its key are put in there.
-/

namespace PropertyCatalog.Document.Yaml

/-- A token. The end of the list of tokens is the end of the text. -/
inductive Token where
  /-- The directive that names the version of YAML. -/
  | version (major minor : Nat)
  /-- The directive that says what a handle in tags stands for. -/
  | tagDirective (handle lead : String)
  /-- The mark in front of a document. -/
  | documentStart
  /-- The mark behind a document. -/
  | documentEnd
  /-- A sequence in block style begins. -/
  | blockSequence
  /-- A mapping in block style begins. -/
  | blockMapping
  /-- A collection in block style ends. -/
  | blockEnd
  /-- `[` -/
  | sequenceOpen
  /-- `]` -/
  | sequenceClose
  /-- An opening brace. -/
  | mappingOpen
  /-- A closing brace. -/
  | mappingClose
  /-- `-` in front of an item. -/
  | item
  /-- `,` -/
  | comma
  /-- A key begins. -/
  | key
  /-- A value begins. -/
  | value
  /-- A reference to a named node. -/
  | alias (name : String)
  /-- The name of the node that follows. -/
  | anchor (name : String)
  /-- The tag of the node that follows. -/
  | tag (handle suffix : String)
  /-- A scalar. -/
  | scalar (style : Style) (text : String)
deriving DecidableEq

/-! ## Names, tags and directives -/

/-- Takes the name of an anchor or an alias behind its indicator. -/
def readName (c : Cursor) : Option (String × Cursor) :=
  let (name, c) := (c.advance 1).span isNameChar
  let ends := c.wordEndAt 0 || (c.char? 0).any fun x ↦ "?:,]\x7d%@\x60".toList.contains x
  if name.isEmpty || !ends then none else some (String.ofList name, c)

namespace Tag

/-- The character may stand in a tag. In the full form commas and square brackets may, too. -/
def isTagChar (full : Bool) (c : Char) : Bool :=
  isNameChar c || ";/?:@&=+$.!~*'()".toList.contains c || full && ",[]".toList.contains c

/-- Takes one octet that is written as `%` and two hexadecimal digits. -/
def octet? : List Char → Option (Nat × List Char)
  | '%' :: a :: b :: rest => (Json.Syntax.ofHexDigits? [a, b]).map (·, rest)
  | _ => none

/-- Takes so many octets that go on with a character, after the part of its number that is known. -/
def furtherOctets : Nat → Nat → List Char → Option (Nat × List Char)
  | 0, n, cs => some (n, cs)
  | count + 1, n, cs => do
    let (octet, cs) ← octet? cs
    if octet / 64 = 2 then furtherOctets count (n * 64 + octet % 64) cs else none

/-- Takes a character that is written in octets, with the number of characters that it takes. -/
def escaped? (cs : List Char) : Option (Char × Nat) := do
  let (first, rest) ← octet? cs
  let (more, known) ←
    if first < 0x80 then some (0, first)
    else if first / 32 = 6 then some (1, first % 32)
    else if first / 16 = 14 then some (2, first % 16)
    else if first / 8 = 30 then some (3, first % 8)
    else none
  let (n, _) ← furtherOctets more known rest
  return (Char.ofNat n, 3 * (more + 1))

/-- Takes the characters of a tag. -/
def chars (full : Bool) : Nat → Cursor → Option (List Char × Cursor)
  | 0, _ => none
  | fuel + 1, c =>
    match c.rest with
    | [] => some ([], c)
    | x :: rest =>
      if x = '%' then do
        let (y, width) ← escaped? (x :: rest)
        let (front, c) ← chars full fuel (c.advance width)
        return (y :: front, c)
      else if isTagChar full x then
        (chars full fuel (c.advance 1)).map fun (front, c) ↦ (x :: front, c)
      else some ([], c)

/-- Takes a handle: `!`, or `!` around a name, of which the second may be missing. -/
def handle? (c : Cursor) : Option (List Char × Cursor) :=
  if !c.shows 0 '!' then none else
  let (name, c) := (c.advance 1).span isNameChar
  if c.shows 0 '!' then some ('!' :: name ++ ['!'], c.advance 1) else some ('!' :: name, c)

/-- Takes the tag between `!<` and `>`. -/
def verbatim? (c : Cursor) : Option (Token × Cursor) := do
  let (uri, c) ← chars true c.bound (c.advance 2)
  if uri.isEmpty || !c.shows 0 '>' then none
  return (.tag "" (String.ofList uri), c.advance 1)

/-- Takes a tag that begins with a handle. What follows a lone `!` is local; alone it is a tag of its
own. -/
def short? (c : Cursor) : Option (Token × Cursor) := do
  let (handle, c) ← handle? c
  let (uri, c) ← chars false c.bound c
  if 1 < handle.length ∧ handle.getLast? = some '!' then
    if uri.isEmpty then none
    return (.tag (String.ofList handle) (String.ofList uri), c)
  let suffix := handle.drop 1 ++ uri
  return (if suffix.isEmpty then .tag "" "!" else .tag "!" (String.ofList suffix), c)

/-- Takes a tag. A word ends behind it, or a comma stands there between brackets. -/
def read (inFlow : Bool) (c : Cursor) : Option (Token × Cursor) := do
  let (token, c) ← if c.shows 1 '<' then verbatim? c else short? c
  if inFlow && c.shows 0 ',' || c.wordEndAt 0 then some (token, c) else none

end Tag

namespace Directive

def number? (c : Cursor) : Option (Nat × Cursor) :=
  let (digits, c) := c.span Char.isDigit
  if digits.isEmpty ∨ 9 < digits.length then none else some (Nat.ofDigitChars 10 digits 0, c)

/-- Takes the value of the directive `YAML`. -/
def version? (c : Cursor) : Option (Token × Cursor) := do
  let (major, c) ← number? c.skipSpaces
  if !c.shows 0 '.' then none
  let (minor, c) ← number? (c.advance 1)
  return (.version major minor, c)

/-- Takes the value of the directive `TAG`. -/
def tag? (c : Cursor) : Option (Token × Cursor) := do
  let (handle, c) ← Tag.handle? c.skipSpaces
  if (handle ≠ ['!'] ∧ handle.getLast? ≠ some '!') ∨ !c.spaceAt 0 then none
  let (lead, c) ← Tag.chars true c.bound c.skipSpaces
  if lead.isEmpty || !c.wordEndAt 0 then none
  return (.tagDirective (String.ofList handle) (String.ofList lead), c)

/-- Takes a directive with the rest of its line. -/
def read (c : Cursor) : Option (Token × Cursor) := do
  let (name, c) := (c.advance 1).span isNameChar
  if !c.wordEndAt 0 then none
  let (token, c) ←
    if name = "YAML".toList then version? c else if name = "TAG".toList then tag? c else none
  let c := c.skipSpaces
  let c := if c.shows 0 '#' then c.skipLine else c
  if c.breakOrEndAt 0 then some (token, c.skipBreak) else none

end Directive

/-! ## The state of a reader of tokens -/

/-- A place where a key may begin. -/
structure KeyPlace where
  /-- What begins there has to be a key. -/
  required : Bool
  /-- How many tokens precede. -/
  position : Nat
  /-- The place in the text. -/
  place : Cursor

/-- What a reader of tokens knows. -/
structure Scanner where
  /-- Where it stands. -/
  here : Cursor
  /-- The column of the collection in block style around it, and -1 outside of all. -/
  indent : Int := -1
  /-- The columns of those further out. -/
  outer : List Int := []
  /-- A key may begin here. -/
  keyAllowed : Bool := true
  /-- For each level of brackets, the innermost first, where a key may have begun. The last one is for
  the text outside of brackets. -/
  keys : List (Option KeyPlace) := [none]
  /-- The tokens so far, the last one first. -/
  tokens : List Token := []

namespace Scanner

/-- The reader stands between brackets. -/
def inFlow (s : Scanner) : Bool := 1 < s.keys.length

def push (s : Scanner) (t : Token) : Scanner := { s with tokens := t :: s.tokens }

/-- Puts a token in front of all but the first so many. -/
def pushAt (s : Scanner) (position : Nat) (t : Token) : Scanner :=
  let behind := s.tokens.length - position
  { s with tokens := s.tokens.take behind ++ t :: s.tokens.drop behind }

def moveTo (s : Scanner) (c : Cursor) : Scanner := { s with here := c }

/-- Says whether a key may begin next. -/
def allowKey (s : Scanner) (allowed : Bool) : Scanner := { s with keyAllowed := allowed }

/-! ### Places of keys -/

/-- The place where the key of this level may have begun. -/
def keyPlace (s : Scanner) : Option KeyPlace := s.keys.head?.join

/-- Puts a place for the key of this level. -/
def setKeyPlace (s : Scanner) (k : Option KeyPlace) : Scanner :=
  { s with keys := k :: s.keys.drop 1 }

/-- Forgets the place of a key; where there has to be one, the text is refused. -/
def dropKeyPlace? (s : Scanner) : Option Scanner :=
  if s.keyPlace.any (·.required) then none else some (s.setKeyPlace none)

/-- Remembers that a key may begin here, if it may. -/
def saveKeyPlace? (s : Scanner) : Option Scanner :=
  if s.keyAllowed then
    s.dropKeyPlace?.map (·.setKeyPlace (some {
      required := !s.inFlow && s.indent = s.here.column
      position := s.tokens.length
      place := s.here }))
  else some s

/-- How many characters a key may be long. -/
def keyLimit : Nat := 1024

/-- The place is not on the line of the reader, or too far behind. -/
def isStale (s : Scanner) (k : KeyPlace) : Bool :=
  k.place.line < s.here.line || k.place.index + keyLimit < s.here.index

/-- Forgets the places that are stale; where there has to be a key, the text is refused. -/
def dropStale? (s : Scanner) : Option Scanner :=
  if s.keys.any (·.any fun k ↦ k.required && s.isStale k) then none
  else some { s with keys := s.keys.map fun k ↦ k.filter (!s.isStale ·) }

/-! ### Indentation -/

/-- Closes the collections in block style that are indented deeper than the column. -/
def unroll (column : Int) : Nat → Scanner → Scanner
  | 0, s => s
  | fuel + 1, s =>
    if s.inFlow || s.indent ≤ column then s
    else unroll column fuel
      { s.push .blockEnd with indent := s.outer.headD (-1), outer := s.outer.drop 1 }

/-- Closes the collections in block style that are indented deeper than the column. -/
def unrollTo (s : Scanner) (column : Int) : Scanner := unroll column (s.outer.length + 1) s

/-- Opens a collection in block style in front of all but the first so many tokens, if the column is
deeper than the collection around. -/
def rollTo (s : Scanner) (column position : Nat) (t : Token) : Scanner :=
  if s.inFlow || (column : Int) ≤ s.indent then s
  else { s.pushAt position t with indent := column, outer := s.indent :: s.outer }

/-- Opens a collection in block style here. -/
def rollHere (s : Scanner) (t : Token) : Scanner := s.rollTo s.here.column s.tokens.length t

/-! ### Space between tokens -/

/-- Goes on to the next token. In front of a token that might begin a key in block style only spaces
may stand on its line. -/
def skipGap : Nat → Scanner → Scanner
  | 0, s => s
  | fuel + 1, s =>
    let c := if s.here.index = 0 ∧ s.here.shows 0 '\ufeff' then s.here.advance 1 else s.here
    let c := (c.span fun x ↦ x = ' ' || x = '\t' && (s.inFlow || !s.keyAllowed)).2
    let c := if c.shows 0 '#' then c.skipLine else c
    match c.break? with
    | none => s.moveTo c
    | some (_, c) => skipGap fuel { s with here := c, keyAllowed := s.keyAllowed || !s.inFlow }

/-! ### Tokens one by one -/

/-- Takes a mark between documents, or a directive. -/
def outside (s : Scanner) (token : Token) (c : Cursor) : Option Scanner :=
  (s.unrollTo (-1)).dropKeyPlace?.map fun s ↦ ((s.push token).allowKey false).moveTo c

def openBracket (s : Scanner) (token : Token) : Option Scanner :=
  s.saveKeyPlace?.map fun s ↦
    let s := (s.push token).allowKey true
    { s with here := s.here.advance 1, keys := none :: s.keys }

def closeBracket (s : Scanner) (token : Token) : Option Scanner :=
  s.dropKeyPlace?.map fun s ↦
    let s := (s.push token).allowKey false
    { s with here := s.here.advance 1, keys := if s.inFlow then s.keys.drop 1 else s.keys }

def comma (s : Scanner) : Option Scanner :=
  s.dropKeyPlace?.map fun s ↦ ((s.push .comma).allowKey true).moveTo (s.here.advance 1)

/-- Takes the dash in front of an item. In block style it stands only where a key might. -/
def item (s : Scanner) : Option Scanner :=
  if !s.inFlow && !s.keyAllowed then none
  else (s.rollHere .blockSequence).dropKeyPlace?.map fun s ↦
    ((s.push .item).allowKey true).moveTo (s.here.advance 1)

/-- Takes the question mark in front of a key. -/
def explicitKey (s : Scanner) : Option Scanner :=
  if !s.inFlow && !s.keyAllowed then none
  else (s.rollHere .blockMapping).dropKeyPlace?.map fun s ↦
    ((s.push .key).allowKey !s.inFlow).moveTo (s.here.advance 1)

/-- Takes the colon in front of a value. If a key has begun on this line, it is marked now. -/
def colon (s : Scanner) : Option Scanner := do
  let s ← s.dropStale?
  let s ← match s.keyPlace with
    | some k =>
      let s := (s.pushAt k.position .key).rollTo k.place.column k.position .blockMapping
      some ((s.setKeyPlace none).allowKey false)
    | none =>
      if !s.inFlow && !s.keyAllowed then none
      else some ((s.rollHere .blockMapping).allowKey !s.inFlow)
  return (s.push .value).moveTo (s.here.advance 1)

/-- Takes what may stand in a key: a name, a tag or a scalar on one line. -/
def inKey (s : Scanner) (read : Cursor → Option (Token × Cursor)) : Option Scanner := do
  let s ← s.saveKeyPlace?
  let (token, c) ← read s.here
  return ((s.push token).allowKey false).moveTo c

def quoted (s : Scanner) (style : Style) (quote : Char) : Option Scanner :=
  s.inKey fun c ↦ (QuotedScalar.read quote c).map fun (cs, c) ↦
    (.scalar style (String.ofList cs), c)

def block (s : Scanner) (style : Style) : Option Scanner := do
  let s ← s.dropKeyPlace?
  let (cs, c) ← BlockScalar.read style s.indent s.here
  return ((s.push (.scalar style (String.ofList cs))).allowKey true).moveTo c

/-- Takes a plain scalar. If it went over the end of a line, a key may follow. -/
def plain (s : Scanner) : Option Scanner := do
  let s ← s.saveKeyPlace?
  let (cs, broken, c) ← PlainScalar.read s.inFlow s.indent s.here
  return ((s.push (.scalar .plain (String.ofList cs))).allowKey broken).moveTo c

/-- The character begins a plain scalar, whatever follows. -/
def beginsPlain (c : Char) : Bool :=
  !isSpace c && !"-?:,[]\x7b\x7d#&*!|>'\"%@\x60".toList.contains c

/-- Takes the token that begins with the given character. -/
def tokenFrom (s : Scanner) (x : Char) : Option Scanner :=
  let c := s.here
  if c.column = 0 ∧ x = '%' then (Directive.read c).bind fun (t, c) ↦ s.outside t c
  else if c.atMarker '-' then s.outside .documentStart (c.advance 3)
  else if c.atMarker '.' then s.outside .documentEnd (c.advance 3)
  else if x = '[' then s.openBracket .sequenceOpen
  else if x = '\x7b' then s.openBracket .mappingOpen
  else if x = ']' then s.closeBracket .sequenceClose
  else if x = '\x7d' then s.closeBracket .mappingClose
  else if x = ',' then s.comma
  else if x = '-' ∧ c.wordEndAt 1 then s.item
  else if x = '?' ∧ (s.inFlow || c.wordEndAt 1) then s.explicitKey
  else if x = ':' ∧ (s.inFlow || c.wordEndAt 1) then s.colon
  else if x = '*' then s.inKey fun c ↦ (readName c).map fun (name, c) ↦ (.alias name, c)
  else if x = '&' then s.inKey fun c ↦ (readName c).map fun (name, c) ↦ (.anchor name, c)
  else if x = '!' then s.inKey (Tag.read s.inFlow)
  else if x = '|' ∧ !s.inFlow then s.block .literal
  else if x = '>' ∧ !s.inFlow then s.block .folded
  else if x = '\'' then s.quoted .singleQuoted x
  else if x = '"' then s.quoted .doubleQuoted x
  else if beginsPlain x || x = '-' && !c.spaceAt 1 || !s.inFlow && (x = '?' || x = ':') then s.plain
  else none

/-- Takes all tokens. -/
def run : Nat → Scanner → Option (List Token)
  | 0, _ => none
  | fuel + 1, s => do
    let s ← s.dropStale?
    let s := skipGap s.here.bound s
    let s := s.unrollTo s.here.column
    match s.here.rest with
    | [] =>
      let s ← (s.unrollTo (-1)).dropKeyPlace?
      return s.tokens.reverse
    | x :: _ => run fuel (← s.tokenFrom x)

end Scanner

/-- The tokens of a text. A byte order mark in front does not count. -/
def tokens? (text : List Char) : Option (List Token) :=
  let text := match text with
    | '\ufeff' :: rest => rest
    | text => text
  if text.all isPrintable then Scanner.run (text.length + 1) { here := { rest := text } } else none

end PropertyCatalog.Document.Yaml
