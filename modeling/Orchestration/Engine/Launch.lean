import Orchestration.KeyMap

/-!
# How an engine is started

* `LaunchCommand` — a program with its arguments, the directory it starts in, and what is added
  to its environment;
* `LaunchCommand.display` — the command as messages show it.
-/

namespace Orchestration

/-- How a process is started. -/
structure LaunchCommand where
  program : String
  args : List String
  /-- The directory it starts in; the starter's own by default. -/
  dir : Option String
  /-- What is added to the environment of the starter. -/
  env : KeyMap String
  deriving DecidableEq

namespace LaunchCommand

/-- A program with arguments. -/
def ofProgram (program : String) (args : List String) : LaunchCommand :=
  ⟨program, args, none, .empty⟩

/-- The command, started in a directory. -/
def within (c : LaunchCommand) (dir : String) : LaunchCommand := { c with dir := some dir }

/-- The command with more arguments at its end. -/
def withArgs (c : LaunchCommand) (args : List String) : LaunchCommand :=
  { c with args := c.args ++ args }

/-- The command as messages show it: nothing is quoted. -/
def display (c : LaunchCommand) : String := " ".intercalate (c.program :: c.args)

end LaunchCommand

end Orchestration
