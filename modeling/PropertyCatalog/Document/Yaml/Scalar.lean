import PropertyCatalog.Document.Json.Syntax
import PropertyCatalog.Document.Yaml.Cursor

/-!
# Reading scalars of YAML

The five ways to write a text. Quoted and plain texts are folded: a single line break counts as a
space, and of several the first does not count. A block keeps the line breaks or folds them, and its
header says how deep it is indented and what becomes of the breaks at its end.

Each reader takes the place where a text begins and gives the text with the place behind it, or
refuses.
-/

namespace PropertyCatalog.Document.Yaml

/-- How a scalar is written. -/
inductive Style where
  /-- Without quotes. -/
  | plain
  /-- Between single quotes. -/
  | singleQuoted
  /-- Between double quotes. -/
  | doubleQuoted
  /-- A block that keeps its line breaks. -/
  | literal
  /-- A block that folds its line breaks. -/
  | folded
deriving DecidableEq

/-! ## White space inside scalars -/

/-- White space between two words of a scalar. -/
structure Gap where
  /-- The spaces on the line of the first word. -/
  spaces : List Char := []
  /-- The gap goes over the end of a line. -/
  isBroken : Bool := false
  /-- The first line break, unless it was escaped. -/
  firstBreak : List Char := []
  /-- The further line breaks. -/
  breaks : List Char := []

namespace Gap

/-- A line break with those behind it, folded: a line feed gives way to the others, or to a space if
there are none. -/
def folded (firstBreak breaks : List Char) : List Char :=
  if firstBreak = ['\n'] then (if breaks.isEmpty then [' '] else breaks) else firstBreak ++ breaks

/-- What the gap contributes to the text. -/
def text (g : Gap) : List Char := if g.isBroken then folded g.firstBreak g.breaks else g.spaces

/-- Takes white space. Where an indentation is given, no tab may stand in front of it on a line. -/
def read (indent : Option Int) : Nat → Gap → Cursor → Option (Gap × Cursor)
  | 0, _, _ => none
  | fuel + 1, g, c =>
    match c.rest with
    | x :: _ =>
      if isSpace x then
        if g.isBroken then
          if x = '\t' ∧ indent.any (fun i ↦ (c.column : Int) < i) then none
          else read indent fuel g (c.advance 1)
        else read indent fuel { g with spaces := g.spaces ++ [x] } (c.advance 1)
      else
        match c.break? with
        | none => some (g, c)
        | some (x, c) =>
          if g.isBroken then read indent fuel { g with breaks := g.breaks ++ [x] } c
          else read indent fuel { g with spaces := [], isBroken := true, firstBreak := [x] } c
    | [] => some (g, c)

end Gap

/-! ## Plain scalars -/

namespace PlainScalar

/-- The character ends a plain scalar between brackets. -/
def endsInFlow (c : Char) : Bool := c = ',' || c = '[' || c = ']' || c = '\x7b' || c = '\x7d'

/-- Takes a word of a plain scalar. Between brackets a colon must not stand in front of a bracket, a
comma or a question mark. -/
def word (inFlow : Bool) : List Char → Option (List Char)
  | [] => some []
  | c :: cs =>
    if isSpace c || isBreak c then some []
    else if inFlow && c = ':' && cs.head?.any (fun x ↦ endsInFlow x || x = '?') then none
    else if c = ':' && cs.head?.all (fun x ↦ isSpace x || isBreak x) then some []
    else if inFlow && endsInFlow c then some []
    else (word inFlow cs).map (c :: ·)

/-- Takes the rest of a plain scalar behind a gap. The flag says whether the scalar was left over the
end of a line. -/
def continued (inFlow : Bool) (indent : Int) : Nat → Gap → Cursor →
    Option (List Char × Bool × Cursor)
  | 0, _, _ => none
  | fuel + 1, gap, c =>
    if c.atDocumentMarker || c.shows 0 '#' then some ([], gap.isBroken, c) else do
    let front ← word inFlow c.rest
    let before := if front.isEmpty then [] else gap.text ++ front
    let gap' := if front.isEmpty then gap else {}
    let c := c.advance front.length
    if !(c.char? 0).any fun x ↦ isSpace x || isBreak x then return (before, gap'.isBroken, c)
    let (gap, c) ← Gap.read (some indent) c.bound gap' c
    if !inFlow && c.column < indent then return (before, gap.isBroken, c)
    let (behind, broken, c) ← continued inFlow indent fuel gap c
    return (before ++ behind, broken, c)

/-- Takes a plain scalar. Outside brackets its further lines are indented deeper than the collection
around it. -/
def read (inFlow : Bool) (indent : Int) (c : Cursor) : Option (List Char × Bool × Cursor) :=
  continued inFlow (indent + 1) c.bound {} c

end PlainScalar

/-! ## Quoted scalars -/

namespace QuotedScalar

/-- The character that a one-letter escape stands for. -/
def simpleEscape? : Char → Option Char
  | '0' => some '\x00'
  | 'a' => some '\x07'
  | 'b' => some '\x08'
  | 't' | '\t' => some '\t'
  | 'n' => some '\n'
  | 'v' => some '\x0b'
  | 'f' => some '\x0c'
  | 'r' => some '\r'
  | 'e' => some '\x1b'
  | ' ' => some ' '
  | '"' => some '"'
  | '/' => some '/'
  | '\\' => some '\\'
  | 'N' => some '\x85'
  | '_' => some '\xa0'
  | 'L' => some '\u2028'
  | 'P' => some '\u2029'
  | _ => none

/-- How many hexadecimal digits follow the letter of an escape. -/
def codeWidth? : Char → Option Nat
  | 'x' => some 2
  | 'u' => some 4
  | 'U' => some 8
  | _ => none

/-- The character of an escape, and how many characters it takes behind its backslash. -/
def escape? : List Char → Option (Char × Nat)
  | [] => none
  | c :: cs =>
    match codeWidth? c with
    | none => (simpleEscape? c).map (·, 1)
    | some width => do
      if cs.length < width then none
      let n ← Json.Syntax.ofHexDigits? (cs.take width)
      if n < 0xd800 ∨ 0xe000 ≤ n ∧ n < 0x110000 then some (Char.ofNat n, width + 1) else none

/-- Takes a word of a quoted scalar. The flag says whether an escaped line break ended it. -/
def word (quote : Char) : Nat → Cursor → Option (List Char × Bool × Cursor)
  | 0, _ => none
  | fuel + 1, c =>
    match c.rest with
    | [] => some ([], false, c)
    | x :: rest =>
      if isSpace x || isBreak x then some ([], false, c)
      else if x = quote then
        if quote = '\'' ∧ rest.head? = some '\'' then further x 2 c fuel else some ([], false, c)
      else if x = '\\' ∧ quote = '"' then
        if rest.head?.any isBreak then some ([], true, (c.advance 1).skipBreak)
        else match escape? rest with
          | some (y, n) => further y (n + 1) c fuel
          | none => none
      else further x 1 c fuel
where
  /-- Adds a character, goes on behind the ones that stand for it. -/
  further (x : Char) (width : Nat) (c : Cursor) (fuel : Nat) :
      Option (List Char × Bool × Cursor) :=
    (word quote fuel (c.advance width)).map fun (front, r) ↦ (x :: front, r)

/-- Takes the rest of a quoted scalar with the quote behind it. -/
def continued (quote : Char) : Nat → Cursor → Option (List Char × Cursor)
  | 0, _ => none
  | fuel + 1, c => do
    if c.atDocumentMarker || c.atEnd then none
    let (front, escaped, c) ← word quote c.bound c
    if c.shows 0 quote then return (front, c.advance 1)
    let (gap, c) ← Gap.read none c.bound { isBroken := escaped } c
    let (behind, c) ← continued quote fuel c
    return (front ++ gap.text ++ behind, c)

/-- Takes a quoted scalar with its quotes. -/
def read (quote : Char) (c : Cursor) : Option (List Char × Cursor) :=
  continued quote c.bound (c.advance 1)

end QuotedScalar

/-! ## Block scalars -/

namespace BlockScalar

/-- What becomes of the line breaks at the end of a block. -/
inductive Chomping where
  /-- One is kept. -/
  | clip
  /-- None is kept. -/
  | strip
  /-- All are kept. -/
  | keep
deriving DecidableEq

/-- What the header of a block says. -/
structure Header where
  /-- What becomes of the line breaks at its end. -/
  chomping : Chomping := .clip
  /-- How much deeper it is indented, if that is said. -/
  increment : Option Nat := none

/-- The chomping that a character stands for. -/
def chomping? : Char → Option Chomping
  | '+' => some .keep
  | '-' => some .strip
  | _ => none

/-- The digits and signs of a header, in either order. -/
def header? (c : Cursor) : Option (Header × Cursor) :=
  match c.rest with
  | x :: y :: _ =>
    match chomping? x, chomping? y with
    | some chomping, _ =>
      if y.isDigit then (increment? y).map fun i ↦ (⟨chomping, some i⟩, c.advance 2)
      else some (⟨chomping, none⟩, c.advance 1)
    | none, chomping =>
      if !x.isDigit then some ({}, c)
      else (increment? x).map fun i ↦
        match chomping with
        | some chomping => (⟨chomping, some i⟩, c.advance 2)
        | none => (⟨.clip, some i⟩, c.advance 1)
  | [x] =>
    match chomping? x with
    | some chomping => some (⟨chomping, none⟩, c.advance 1)
    | none =>
      if x.isDigit then (increment? x).map fun i ↦ (⟨.clip, some i⟩, c.advance 1) else some ({}, c)
  | [] => some ({}, c)
where
  /-- The indentation that a digit stands for; there is no block that is not indented. -/
  increment? (x : Char) : Option Nat := if x = '0' then none else some (x.toNat - 48)

/-- Takes the header of a block with the line break behind it. -/
def readHeader (c : Cursor) : Option (Header × Cursor) := do
  let (header, c) ← header? c
  let c := c.skipSpaces
  let c := if c.shows 0 '#' then c.skipLine else c
  if c.breakOrEndAt 0 then some (header, c.skipBreak) else none

/-- Takes the indentation of a line, and whole lines that hold nothing else, with their breaks. Where
the indentation of the block is not known yet, all spaces are taken. Gives the greatest column
reached. -/
def indentation (indent : Option Nat) : Nat → Nat → Cursor → Option (List Char × Nat × Cursor)
  | 0, _, _ => none
  | fuel + 1, widest, c =>
    let spaces := (c.rest.takeWhile (· = ' ')).length
    let width := indent.elim spaces fun i ↦ min spaces (i - c.column)
    let c := c.advance width
    let widest := max widest c.column
    if c.shows 0 '\t' ∧ indent.all (c.column < ·) then none else
    match c.break? with
    | none => some ([], widest, c)
    | some (x, c) => (indentation indent fuel widest c).map fun (breaks, r) ↦ (x :: breaks, r)

/-- The lines of a block that have been taken, with what stands in front of the next one. -/
structure Taken where
  /-- The text so far. -/
  text : List Char
  /-- The break behind the last line. -/
  lastBreak : List Char
  /-- The breaks of the empty lines behind it. -/
  emptyLines : List Char

/-- Takes the lines of a block. A break is folded only between two lines that begin with no white
space. -/
def lines (style : Style) (indent : Nat) : Nat → Bool → Taken → Cursor → Option (Taken × Cursor)
  | 0, _, _, _ => none
  | fuel + 1, afterSpace, t, c =>
    if c.column ≠ indent ∨ c.atEnd then some (t, c) else do
    let space := c.spaceAt 0
    let between :=
      if style = .folded ∧ t.lastBreak = ['\n'] ∧ !afterSpace ∧ !space then
        if t.emptyLines.isEmpty then [' '] else t.emptyLines
      else t.lastBreak ++ t.emptyLines
    let (line, c) := c.span (!isBreak ·)
    let (lastBreak, c) := c.break?.elim ([], c) fun (x, c) ↦ ([x], c)
    let (emptyLines, _, c) ← indentation (some indent) c.bound 0 c
    lines style indent fuel space ⟨t.text ++ between ++ line, lastBreak, emptyLines⟩ c

/-- Takes a block scalar with its indicator, inside a collection of the given indentation. -/
def read (style : Style) (parent : Int) (c : Cursor) : Option (List Char × Cursor) := do
  let (header, c) ← readHeader (c.advance 1)
  let known := header.increment.map fun i ↦ (max parent 0).toNat + i
  let (emptyLines, widest, c) ← indentation known c.bound 0 c
  let indent := known.getD (max (max widest (parent + 1).toNat) 1)
  let (t, c) ← lines style indent c.bound false ⟨[], [], emptyLines⟩ c
  return (match header.chomping with
    | .strip => t.text
    | .clip => t.text ++ t.lastBreak
    | .keep => t.text ++ t.lastBreak ++ t.emptyLines, c)

end BlockScalar

end PropertyCatalog.Document.Yaml
