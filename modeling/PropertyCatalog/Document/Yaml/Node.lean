import PropertyCatalog.Document.Yaml.Token

/-!
# Nodes of YAML

A YAML text holds at most one document here: scalars, sequences and mappings, and references to nodes
that were named before. A node is named from its beginning on, so it may hold a reference to itself,
and a later node with the same name takes the name over.
-/

namespace PropertyCatalog.Document.Yaml

/-- A node of a document. -/
inductive Node where
  /-- A scalar. -/
  | scalar (tag : Option String) (style : Style) (text : String)
  /-- A sequence. -/
  | sequence (tag : Option String) (items : List Node)
  /-- A mapping. -/
  | mapping (tag : Option String) (pairs : List (Node × Node))
  /-- A reference to the node with a number. -/
  | alias (number : Nat)

def Node.missing : Node := .scalar none .plain ""

instance : Inhabited Node := ⟨.missing⟩

/-- The nodes of a document: its root, and the nodes that have a number. -/
structure Graph where
  /-- The root; what is missing in a text without a document. -/
  root : Node
  /-- The nodes that aliases may refer to. -/
  named : List (Nat × Node)

/-! ## Composing nodes -/

/-- What is known while tokens are composed into nodes. -/
structure Composer where
  /-- The tokens that are left. -/
  tokens : List Token
  /-- What the handles in tags stand for. -/
  handles : List (String × String)
  /-- The numbers of names, the latest first. -/
  names : List (String × Nat) := []
  /-- The nodes with a number that are complete. -/
  named : List (Nat × Node) := []
  /-- The next number. -/
  next : Nat := 0

/-- A step of composing, which may refuse. -/
abbrev Compose (α : Type) := StateT Composer Option α

namespace Compose

/-- The next token, which stays. -/
def peek : Compose (Option Token) := do return (← get).tokens.head?

def skip : Compose Unit := modify fun s ↦ { s with tokens := s.tokens.drop 1 }

/-- Takes results until a turn gives none. -/
def collect {α : Type} (turn : Compose (Option α)) : Nat → Compose (List α)
  | 0 => failure
  | n + 1 => do
    match ← turn with
    | none => return []
    | some a => return a :: (← collect turn n)

/-- Takes results until a turn gives none; every turn takes a token. -/
def many {α : Type} (turn : Compose (Option α)) : Compose (List α) := do
  collect turn ((← get).tokens.length + 1)

/-- Passes over the token and takes what follows, unless one of some tokens stands there; then it is
missing. -/
def afterToken (missing : Token → Bool) (node : Compose Node) : Compose Node := do
  skip
  if (← peek).any missing then return .missing else node

/-- Takes the value of a key: what follows a colon, and nothing where there is no colon. -/
def valueOf (missing : Token → Bool) (node : Compose Node) : Compose Node := do
  if (← peek) = some .value then afterToken missing node else return .missing

/-! ### Collections -/

def blockItem (node : Compose Node) : Compose (Option Node) := do
  match ← peek with
  | some .item => some <$> afterToken (fun t ↦ t = .item || t = .blockEnd) node
  | some .blockEnd => skip; return none
  | _ => failure

/-- The token may follow an empty key or value in block style. -/
def endsBlockPart (t : Token) : Bool := t = .key || t = .value || t = .blockEnd

/-- Takes an item of a sequence that is not indented deeper than the mapping around it. -/
def levelItem (node : Compose Node) : Compose (Option Node) := do
  match ← peek with
  | some .item => some <$> afterToken (fun t ↦ t = .item || endsBlockPart t) node
  | _ => return none

def blockPair (node : Compose Node) : Compose (Option (Node × Node)) := do
  match ← peek with
  | some .key =>
    let key ← afterToken endsBlockPart node
    return some (key, ← valueOf endsBlockPart node)
  | some .blockEnd => skip; return none
  | _ => failure

/-- Takes the parts of a collection between brackets, with commas between them. -/
def flowParts {α : Type} (part : Compose α) (close : Token) : Compose (List α) := do
  if (← peek) = some close then
    skip
    return []
  let first ← part
  return first :: (← many do
    match ← peek with
    | some .comma =>
      skip
      if (← peek) = some close then
        skip
        return none
      return some (← part)
    | t => if t = some close then skip; return none else failure)

/-- The token ends a part between square brackets. -/
def endsItem (t : Token) : Bool := t = .comma || t = .sequenceClose

/-- Takes an item between square brackets. A key with its value is a mapping of its own. Where the key
is missing, the token in its place is lost. -/
def flowItem (node : Compose Node) : Compose Node := do
  if (← peek) ≠ some .key then node
  else
    skip
    let key ← if (← peek).any fun t ↦ t = .value || endsItem t then skip; pure .missing else node
    return .mapping none [(key, ← valueOf endsItem node)]

/-- The token ends a part between braces. -/
def endsPair (t : Token) : Bool := t = .comma || t = .mappingClose

/-- Takes a pair between braces; what is no key stands for one without a value. -/
def flowPair (node : Compose Node) : Compose (Node × Node) := do
  if (← peek) ≠ some .key then return (← node, .missing)
  else
    let key ← afterToken (fun t ↦ t = .value || endsPair t) node
    return (key, ← valueOf endsPair node)

/-! ### Nodes -/

/-- Takes the name of a node, if there is one. -/
def anchor : Compose (Option String) := do
  match ← peek with
  | some (.anchor name) => skip; return some name
  | _ => return none

/-- Takes the tag of a node, if there is one. -/
def tag : Compose (Option String) := do
  match ← peek with
  | some (.tag handle suffix) =>
    skip
    if handle.isEmpty then return some suffix
    match (← get).handles.lookup handle with
    | some lead => return some (lead ++ suffix)
    | none => failure
  | _ => return none

/-- Takes the name and the tag of a node, in either order. -/
def properties : Compose (Option String × Option String) := do
  let name ← anchor
  let tag ← tag
  let later ← if name.isNone then anchor else pure none
  return (name.or later, tag)

/-- Gives a node that begins here its number. -/
def enter (name : Option String) : Compose (Option Nat) := do
  match name with
  | none => return none
  | some name =>
    let s ← get
    set { s with names := (name, s.next) :: s.names, next := s.next + 1 }
    return some s.next

/-- Takes a node without its name and tag; the flag says whether it had either. -/
def content (inner : Bool → Bool → Compose Node) (inBlock level : Bool) (tag : Option String)
    (hasProperties : Bool) : Compose Node := do
  match ← peek with
  | some (.scalar style text) =>
    skip
    return .scalar (tag.filter (· ≠ "!")) style text
  | some .sequenceOpen =>
    skip
    return .sequence tag (← flowParts (flowItem (inner false false)) .sequenceClose)
  | some .mappingOpen =>
    skip
    return .mapping tag (← flowParts (flowPair (inner false false)) .mappingClose)
  | t =>
    if level ∧ t = some .item then
      return .sequence tag (← many (levelItem (inner true false)))
    else if inBlock ∧ t = some .blockSequence then
      skip
      return .sequence tag (← many (blockItem (inner true false)))
    else if inBlock ∧ t = some .blockMapping then
      skip
      return .mapping tag (← many (blockPair (inner true true)))
    else if hasProperties then return .scalar tag .plain ""
    else failure

/-- Takes a node in which at most so many others are nested. In block style a collection may be
indented, and a sequence may stand at the level of the mapping around it. -/
def node : Nat → Bool → Bool → Compose Node
  | 0, _, _ => failure
  | fuel + 1, inBlock, level => do
    match ← peek with
    | some (.alias name) =>
      skip
      match (← get).names.lookup name with
      | some number => return .alias number
      | none => failure
    | _ =>
      let (name, tag) ← properties
      let number ← enter name
      let result ← content (node fuel) inBlock level tag (name.isSome || tag.isSome)
      if let some n := number then modify fun s ↦ { s with named := (n, result) :: s.named }
      return result

end Compose

/-! ## Documents -/

/-- What the handles stand for that need no directive. -/
def standardHandles : List (String × String) := [("!", "!"), ("!!", "tag:yaml.org,2002:")]

/-- Takes the directives of a document. The version may be given once, and it has to be 1.1 or 1.2; no
handle may be given twice. -/
def directives? (versioned : Bool) (handles : List (String × String)) :
    List Token → Option (List (String × String) × List Token)
  | .version major minor :: rest =>
    if versioned ∨ major ≠ 1 ∨ (minor ≠ 1 ∧ minor ≠ 2) then none
    else directives? true handles rest
  | .tagDirective handle lead :: rest =>
    if (handles.lookup handle).isSome then none
    else directives? versioned (handles ++ [(handle, lead)]) rest
  | rest => some (handles ++ standardHandles, rest)

/-- The token begins a document with a mark in front. -/
def Token.opensDocument : Token → Bool
  | .version .. | .tagDirective .. | .documentStart => true
  | _ => false

/-- The token stands outside of documents. -/
def Token.isOutside (t : Token) : Bool := t.opensDocument || t = .documentEnd

/-- The nodes of the document of the tokens, of which nothing may follow but marks of its end. -/
def Graph.ofTokens? (tokens : List Token) : Option Graph := do
  if tokens.isEmpty then return ⟨.missing, []⟩
  let marked := tokens.head?.any Token.opensDocument
  let (handles, tokens) ← directives? false [] tokens
  let tokens ← match marked, tokens with
    | false, tokens => some tokens
    | true, .documentStart :: rest => some rest
    | true, _ => none
  let isEmpty := marked && tokens.head?.all Token.isOutside
  let (root, s) ←
    (if isEmpty then pure .missing else Compose.node (tokens.length + 1) true false).run
      { tokens, handles }
  if s.tokens.all (· = .documentEnd) then some ⟨root, s.named⟩ else none

end PropertyCatalog.Document.Yaml
