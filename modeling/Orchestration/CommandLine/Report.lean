import Orchestration.Project.Delete
import Orchestration.Store.Record

/-!
# What the program prints

* `Failure`, `Failure.report` — a failure with its causes;
* `createdText`, `deletedText`, `markedText`, `builtText`, `listText` — what commands print when
  they succeed.
-/

namespace Orchestration.CommandLine

/-! ### Failures -/

/-- A failure with the failures below it, from the outside in. -/
structure Failure where
  summary : String
  causes : List String
  deriving DecidableEq, Repr

namespace Failure

/-- Failed work. -/
def ofError (e : OrchestratorError) : Failure := ⟨e.message, e.causes⟩

/-- A failure as the cause of another. -/
def within (context : String) (f : Failure) : Failure := ⟨context, f.summary :: f.causes⟩

/-- A text with every line but the first indented. -/
def indented (indent text : String) : String :=
  ("\n" ++ indent).intercalate ((splitOn '\n' text.toList).map String.ofList)

/-- One cause of several, with its number. -/
def numbered (index : Nat) (cause : String) : String :=
  let number := toString index
  "\n" ++ String.ofList (List.replicate (5 - number.length) ' ') ++ number ++ ": " ++
    indented "       " cause

/-- The causes as they are listed; a single one has no number. -/
def causeLines : List String → String
  | [] => ""
  | [cause] => "\n\nCaused by:\n    " ++ indented "    " cause
  | causes => "\n\nCaused by:" ++ String.join (causes.zipIdx.map fun (c, i) => numbered i c)

/-- The text of a failure. -/
def report (f : Failure) : String := "Error: " ++ f.summary ++ causeLines f.causes ++ "\n"

end Failure

/-! ### Successes -/

/-- Lines with their ends. -/
def textOfLines (lines : List String) : String := String.join (lines.map (· ++ "\n"))

/-- A text in a column: blanks fill it up, and what is longer stays whole. -/
def column (width : Nat) (text : String) : String :=
  text ++ String.ofList (List.replicate (width - text.length) ' ')

theorem column_of_fits (width : Nat) (text : String) (h : width ≤ text.length) :
    column width text = text := by
  simp [column, Nat.sub_eq_zero_of_le h]

/-- What is printed of an environment that was created. -/
def createdText (e : TestEnvironment) : String :=
  textOfLines <|
    ["Created test environment " ++ e.id, "Stage:   " ++ e.stage, "Tmp dir: " ++ e.tmpDir] ++
      e.metadata.entries.map fun (key, value) => "  " ++ key ++ " = " ++ value

/-- What is printed of a step of a deletion: only failures are. -/
def incompleteLine? (s : TeardownStep) : Option String :=
  match s.status with
  | .failed reason => some ("  incomplete: " ++ s.step ++ " (" ++ reason ++ ")")
  | _ => none

/-- What is printed of an environment that was deleted. -/
def deletedText (r : TeardownReport) : String :=
  textOfLines <| ("Deleted test environment " ++ r.testId) :: r.steps.filterMap incompleteLine?

/-- What is printed of an environment whose tests have ended. -/
def markedText (e : TestEnvironment) : String :=
  textOfLines [e.id ++ " marked " ++ e.status.name]

/-- What is printed of artifacts that were built. -/
def builtText (as : List Artifact) : String :=
  textOfLines <| ("Built " ++ toString as.length ++ " artifact(s)") :: as.map fun a =>
    "  " ++ column 24 a.name ++ " " ++ column 10 a.kind ++ " " ++ a.location

/-- What is printed of an environment in a list. -/
def listLine (e : TestEnvironment) : String :=
  e.id ++ "  " ++ column 16 e.stage ++ " " ++ column 8 e.status.name ++ " " ++ e.createdAt.plain

/-- What is printed of the recorded environments. -/
def listText (es : List TestEnvironment) : String :=
  textOfLines (if es.isEmpty then ["No test environments found."] else es.map listLine)

end Orchestration.CommandLine
