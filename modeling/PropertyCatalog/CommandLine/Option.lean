import PropertyCatalog.Text.Affix

/-!
# Options on a command line

An option is given by its name behind two dashes or by its letter behind one. What it takes follows
behind `=`, directly behind the letter, or as the next argument. Arguments are read from left to
right, and the first that cannot be read ends the reading; so does a request for help, which is met
only if nothing before it failed.
-/

namespace PropertyCatalog.CommandLine

/-- What an option takes. -/
inductive Operand where
  /-- Nothing. -/
  | nothing
  /-- Any text. -/
  | text
  /-- A text that is not empty. -/
  | path
  /-- One of the given texts. -/
  | oneOf (choices : List String)
deriving DecidableEq

def Operand.takes : Operand → String → Bool
  | nothing, _ => false
  | text, _ => true
  | path, s => s ≠ ""
  | oneOf choices, s => choices.contains s

/-- How an option is given. -/
structure OptionForm where
  /-- What stands behind two dashes. -/
  name : String
  /-- What stands behind one dash. -/
  letter : Option Char := none
  /-- What the option takes. -/
  operand : Operand := .nothing
  /-- It may be given more than once. -/
  repeatable : Bool := false
deriving DecidableEq

/-- An option that was given, with what it took; one that takes nothing has the empty text here. -/
structure Given where
  /-- The name of the option. -/
  name : String
  /-- What it took. -/
  operand : String
deriving DecidableEq

/-- Why reading ends early. -/
inductive Stop where
  /-- Something cannot be read. -/
  | refused
  /-- Help is asked for. -/
  | help
deriving DecidableEq

/-! ## Single arguments -/

/-- What one argument looks like. -/
inductive Argument where
  /-- Two dashes and a name, with what stands behind `=`. -/
  | long (name : String) (operand : Option String)
  /-- A dash and a letter, with what stands behind it. -/
  | short (letter : Char) (rest : List Char)
  /-- Two dashes alone: no option follows. -/
  | separator
  /-- Anything else. -/
  | plain (text : String)
deriving DecidableEq

/-- What an argument looks like. A dash alone is plain. -/
def Argument.ofText (text : String) : Argument :=
  match text.toList with
  | ['-', '-'] => .separator
  | '-' :: '-' :: cs =>
    match Text.cut? (· = '=') cs with
    | some (name, operand) => .long (String.ofList name) (some (String.ofList operand))
    | none => .long (String.ofList cs) none
  | '-' :: c :: cs => .short c cs
  | _ => .plain text

/-- What stands directly behind a letter as its operand: an `=` in front of it does not belong to
it. -/
def attachedOperand : List Char → Option String
  | [] => none
  | '=' :: cs => some (String.ofList cs)
  | cs => some (String.ofList cs)

/-! ## All arguments -/

def helpForm : OptionForm := { name := "help", letter := 'h' }

/-- The start of an option, as one argument shows it. -/
inductive Opened where
  /-- No option follows. -/
  | separator
  /-- All of an option, with what it takes. -/
  | whole (form : OptionForm) (operand : String)
  /-- An option that takes the next argument. -/
  | awaiting (form : OptionForm)
deriving DecidableEq

/-- The option with what came with it, if anything did. -/
def Opened.ofForm (form : OptionForm) (operand : Option String) : Option Opened :=
  match form.operand, operand with
  | .nothing, none => some (.whole form "")
  | .nothing, some _ => none
  | _, some operand => if form.operand.takes operand then some (.whole form operand) else none
  | _, none => some (.awaiting form)

/-- The option that an argument opens. Once a letter asks for help, what stands behind it is not
read. -/
def Opened.ofArgument (forms : List OptionForm) : Argument → Option Opened
  | .separator => some .separator
  | .plain _ => none
  | .long name operand => do Opened.ofForm (← forms.find? (·.name = name)) operand
  | .short letter rest => do
    let form ← forms.find? (·.letter = some letter)
    Opened.ofForm form (if form = helpForm then none else attachedOperand rest)

/-- The argument as what the option before it takes. -/
def followingOperand (form : OptionForm) (argument : String) : Option String :=
  match Argument.ofText argument with
  | .plain operand => if form.operand.takes operand then some operand else none
  | _ => none

def addOption (form : OptionForm) (operand : String) (before : List Given) :
    Except Stop (List Given) :=
  if form = helpForm then .error .help
  else if !form.repeatable && before.any (·.name = form.name) then .error .refused
  else .ok (before ++ [⟨form.name, operand⟩])

/-- The options that arguments give, behind those given before them. Nothing follows the separator,
and no argument stands alone. -/
def readOptions (forms : List OptionForm) (before : List Given) :
    List String → Except Stop (List Given)
  | [] => .ok before
  | argument :: rest =>
    match Opened.ofArgument forms (Argument.ofText argument) with
    | none => .error .refused
    | some .separator => if rest.isEmpty then .ok before else .error .refused
    | some (.whole form operand) =>
      match addOption form operand before with
      | .error stop => .error stop
      | .ok given => readOptions forms given rest
    | some (.awaiting form) =>
      match rest with
      | [] => .error .refused
      | next :: rest =>
        match followingOperand form next with
        | none => .error .refused
        | some operand =>
          match addOption form operand before with
          | .error stop => .error stop
          | .ok given => readOptions forms given rest

end PropertyCatalog.CommandLine
