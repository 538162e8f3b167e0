import Orchestration.Text.Split

/-!
# Options on a command line

A command line is read from left to right, and the first thing that stops it decides: a wish for
help or for the version, or a misuse.

* `OptionSpec`, `Level` — what may be given;
* `Given` — what has been given;
* `Stop` — why reading stops early;
* `Level.readArguments` — the reading of all arguments of one level.
-/

namespace Orchestration.CommandLine

/-! ### What may be given -/

/-- What an option means to the reader. -/
inductive OptionKind where
  | flag
  | value (emptyAllowed : Bool)
  | help
  | version
  deriving DecidableEq

/-- An option. -/
structure OptionSpec where
  name : String
  letter : Option Char
  kind : OptionKind
  deriving DecidableEq

/-- What may be given in one place: options, and how many operands.  Where commands are
expected, the first operand ends the place. -/
structure Level where
  options : List OptionSpec
  operands : Nat
  commands : Bool

/-! ### What has been given -/

/-- What has been given. -/
structure Given where
  flags : List String
  values : List (String × String)
  operands : List String

namespace Given

/-- Nothing at all. -/
def none : Given := ⟨[], [], []⟩

/-- Whether a flag has been given. -/
def has (g : Given) (flag : String) : Bool := g.flags.contains flag

/-- The value of an option. -/
def value? (g : Given) (name : String) : Option String := g.values.lookup name

end Given

/-- Why reading stops early. -/
inductive Stop where
  | help
  | version
  /-- The arguments mean nothing. -/
  | misuse
  deriving DecidableEq, Repr

/-! ### Reading -/

namespace Level

/-- The option of a name. -/
def named? (l : Level) (name : String) : Option OptionSpec :=
  l.options.find? fun o => o.name == name

/-- The option of a letter. -/
def lettered? (l : Level) (letter : Char) : Option OptionSpec :=
  l.options.find? fun o => o.letter == some letter

/-- Take an option that needs no value; at most once. -/
def giveFlag (g : Given) (o : OptionSpec) : Except Stop Given :=
  match o.kind with
  | .help => .error .help
  | .version => .error .version
  | _ => if g.has o.name then .error .misuse else .ok { g with flags := o.name :: g.flags }

/-- Take an option with its value; at most once. -/
def giveValue (g : Given) (o : OptionSpec) (value : String) : Except Stop Given :=
  match o.kind with
  | .value emptyAllowed =>
    if (g.value? o.name).isSome || (value.isEmpty && !emptyAllowed) then .error .misuse
    else .ok { g with values := (o.name, value) :: g.values }
  | _ => .error .misuse

/-- Whether an option has to be followed by a value. -/
def takesValue (o : OptionSpec) : Bool :=
  match o.kind with
  | .value _ => true
  | _ => false

/-- Read letters after a dash.  An option that takes a value takes the rest of them, or else the
next argument. -/
def readLetters (l : Level) (g : Given) : List Char → Except Stop (Given × Option OptionSpec)
  | [] => .ok (g, none)
  | c :: rest =>
    match l.lettered? c with
    | none => .error .misuse
    | some o =>
      if takesValue o then
        match rest with
        | [] => .ok (g, some o)
        | '=' :: value => (giveValue g o (String.ofList value)).map (·, none)
        | value => (giveValue g o (String.ofList value)).map (·, none)
      else
        match giveFlag g o with
        | .ok g => readLetters l g rest
        | .error stop => .error stop

/-- Read a name after two dashes, with the value after its equals sign. -/
def readName (l : Level) (g : Given) (cs : List Char) : Except Stop (Given × Option OptionSpec) :=
  let name := String.ofList (cs.takeWhile (· != '='))
  match l.named? name, cs.dropWhile (· != '=') with
  | none, _ => .error .misuse
  | some o, [] => if takesValue o then .ok (g, some o) else (giveFlag g o).map (·, none)
  | some o, _ :: value => (giveValue g o (String.ofList value)).map (·, none)

/-- Whether an argument is no operand. -/
def isOption (argument : String) : Bool :=
  argument.toList.head? == some '-' && argument != "-"

/-- Read an argument that is no operand: what has been given then, and the option that waits for
a value. -/
def readOption (l : Level) (g : Given) (argument : String) :
    Except Stop (Given × Option OptionSpec) :=
  match argument.toList with
  | '-' :: '-' :: name => l.readName g name
  | _ :: letters => l.readLetters g letters
  | [] => .error .misuse

/-- Take an operand. -/
def giveOperand (l : Level) (g : Given) (argument : String) : Except Stop Given :=
  if g.operands.length < l.operands then .ok { g with operands := g.operands ++ [argument] }
  else .error .misuse

/-- Read arguments, given the option that waits for a value: what has been given, and the
arguments from the first command on. -/
def readFrom (l : Level) : Given → Option OptionSpec → List String →
    Except Stop (Given × List String)
  | g, none, [] => .ok (g, [])
  | _, some _, [] => .error .misuse
  | g, some o, argument :: rest =>
    if isOption argument then .error .misuse
    else match giveValue g o argument with
      | .ok g => readFrom l g none rest
      | .error stop => .error stop
  | g, none, argument :: rest =>
    if argument == "--" then
      match rest.foldlM l.giveOperand g with
      | .ok g => .ok (g, [])
      | .error stop => .error stop
    else if isOption argument then
      match l.readOption g argument with
      | .ok (g, waiting) => readFrom l g waiting rest
      | .error stop => .error stop
    else if l.commands then .ok (g, argument :: rest)
    else match l.giveOperand g argument with
      | .ok g => readFrom l g none rest
      | .error stop => .error stop

/-- Read all arguments of a level: what has been given, and the arguments from the first command
on. -/
def readArguments (l : Level) (arguments : List String) : Except Stop (Given × List String) :=
  l.readFrom .none none arguments

theorem readArguments_nil (l : Level) : l.readArguments [] = .ok (.none, []) := rfl

end Level

end Orchestration.CommandLine
