import Orchestration.CommandLine.Options
import Orchestration.Project.Config

/-!
# What the program is asked to do

* `Action` — the commands;
* `Invocation` — a whole command line that means something;
* `Invocation.read` — the invocation that arguments spell, or why they spell none.
-/

namespace Orchestration.CommandLine

/-! ### Commands -/

/-- A command. -/
inductive Action where
  | create (stage : String)
  | delete (id : String)
  | outcome (id : String) (passed : Bool)
  | build (only : Option String)
  | list (stage : Option String)
  deriving DecidableEq, Repr

/-- What the program is asked to do. -/
structure Invocation where
  /-- The configuration file. -/
  config : String
  /-- Whether to serve tools instead of doing a command. -/
  serve : Bool
  action : Option Action
  deriving DecidableEq, Repr

/-! ### Options -/

/-- The options that are taken everywhere.  Those about logging change nothing else. -/
def commonOptions : List OptionSpec :=
  [⟨"verbose", some 'v', .flag⟩, ⟨"json", none, .flag⟩, ⟨"config", some 'c', .value false⟩,
    ⟨"help", some 'h', .help⟩]

/-- What may stand before a command. -/
def topLevel : Level :=
  ⟨commonOptions ++ [⟨"mcp", none, .flag⟩, ⟨"version", some 'V', .version⟩], 0, true⟩

/-- What may stand after a command of this name. -/
def commandLevel? : String → Option Level
  | "create" | "delete" => some ⟨commonOptions, 1, false⟩
  | "outcome" =>
    some ⟨commonOptions ++ [⟨"passed", none, .flag⟩, ⟨"failed", none, .flag⟩], 1, false⟩
  | "build" => some ⟨commonOptions, 1, false⟩
  | "list" => some ⟨commonOptions ++ [⟨"stage", none, .value true⟩], 0, false⟩
  | _ => none

/-- The command of a name with what has been given to it; `none` if something is missing or does
not go together. -/
def Action.make? (name : String) (g : Given) : Option Action :=
  match name, g.operands with
  | "create", [stage] => some (.create stage)
  | "delete", [id] => some (.delete id)
  | "outcome", [id] =>
    if g.has "passed" == g.has "failed" then none else some (.outcome id (g.has "passed"))
  | "build", operands => some (.build operands.head?)
  | "list", [] => some (.list (g.value? "stage"))
  | _, _ => none

/-- What a command called help says: it knows the commands and itself. -/
def readHelp (names : List String) : Stop :=
  match names with
  | [] => .help
  | [name] => if (commandLevel? name).isSome || name == "help" then .help else .misuse
  | _ => .misuse

/-! ### Reading -/

/-- The variable that names a configuration file. -/
def configVariable : String := "STAGEHAND_CONFIG"

/-- The configuration file: the last place where one is named counts, then the environment.  The
environment must not name an empty one unless every place names its own. -/
def configOf (environment : Option String) (levels : List Given) : Except Stop String :=
  let named := levels.map (·.value? "config")
  if named.contains none && environment == some "" then .error .misuse
  else .ok ((named.reverse.findSome? id).or environment |>.getD defaultConfigFile)

namespace Invocation

/-- Read a command with what follows it. -/
def readCommand (name : String) (rest : List String) : Except Stop (Given × Action) :=
  if name == "help" then .error (readHelp rest)
  else match commandLevel? name with
    | none => .error .misuse
    | some level =>
      match level.readArguments rest with
      | .error stop => .error stop
      | .ok (g, _) =>
        match Action.make? name g with
        | some action => .ok (g, action)
        | none => .error .misuse

/-- The invocation that arguments spell, given the configuration file that the environment
names. -/
def read (environment : Option String) (arguments : List String) : Except Stop Invocation := do
  let (top, rest) ← topLevel.readArguments arguments
  match rest with
  | [] => return ⟨← configOf environment [top], top.has "mcp", none⟩
  | name :: rest =>
    let (g, action) ← readCommand name rest
    return ⟨← configOf environment [top, g], top.has "mcp", some action⟩

end Invocation

end Orchestration.CommandLine
