import Orchestration.Shell.Job

/-!
# Running scripts

A machine runs one program with all programs started from it.  It shares the disk with its
surroundings, and it stops whenever it waits for a line that has not been written yet.

* `Task` — what is still to be done;
* `Machine` — a running program;
* `Machine.emit`, `Machine.takeLine` — its output and its input;
* `Machine.exit` — the end of the shell that is running;
* `Program`, `findProgram` — the program that a name stands for.
-/

namespace Orchestration.Shell

/-! ### Tasks -/

/-- What is still to be done, most urgent first in a list. -/
inductive Task where
  | run (c : Command)
  /-- Become the program that the first field names, with the others as arguments. -/
  | become (fields : List RawText)
  /-- Run the command if the status says success, or if it says failure. -/
  | runIf (success : Bool) (c : Command)
  | negate
  | branch (yes no : Command)
  /-- Decide, after its test, whether a loop goes on. -/
  | decide (wanted : Bool) (test body : Command)
  /-- Begin a loop anew. -/
  | again (wanted : Bool) (test body : Command)
  | each (name : String) (items : List RawText) (body : Command)
  | restore (input : Origin) (output errors : Sink)
  /-- Begin a command anew with the output that it lacked. -/
  | fill (c : Command)
  /-- Run a command on the output of the one before. -/
  | feed (c : Command)
  /-- Go on after a function, with the arguments from before. -/
  | resume (arguments : List RawText)
  /-- Go back to the shell that started this one, with a status of its own or this one's. -/
  | leave (parent : Job) (status : Option Nat)

/-- Whether a task is the head of a loop. -/
def Task.isLoop : Task → Bool
  | .again .. | .each .. => true
  | _ => false

/-- Whether a task belongs to the shell that started this one. -/
def Task.isLeave : Task → Bool
  | .leave .. => true
  | _ => false

/-- Whether a task is the end of a function. -/
def Task.isResume : Task → Bool
  | .resume _ => true
  | _ => false

/-- Whether a machine can go on. -/
inductive Activity where
  | running
  /-- It waits for input. -/
  | reading
  /-- It does nothing more that anybody waits for. -/
  | asleep
  | ended
  deriving DecidableEq, Repr

/-- A running program. -/
structure Machine where
  disk : Disk
  /-- Input that has not been read. -/
  input : RawText
  inputClosed : Bool
  /-- Output that has not been read. -/
  output : RawText
  /-- Output that commands wait for, innermost first. -/
  kept : List RawText
  /-- Whether a program in the background keeps the output open. -/
  held : Bool
  /-- The milliseconds that have been slept, and how many more the surroundings have time for. -/
  slept : Nat
  patience : Nat
  job : Job
  tasks : List Task
  activity : Activity

namespace Machine

/-! ### Small steps -/

/-- The machine with the status of a command that has ended. -/
def done (m : Machine) (status : Nat) : Machine := { m with job := { m.job with status } }

/-- The machine with something to do first. -/
def push (m : Machine) (t : Task) : Machine := { m with tasks := t :: m.tasks }

/-- The machine with another state of the disk. -/
def withDisk (m : Machine) (disk : Disk) : Machine := { m with disk }

/-- Write to a file that is there. -/
def appendFile (d : Disk) (place : Place) (t : RawText) : Disk :=
  match d.entry? place with
  | some (.file content executable) => d.put place (.file (content ++ t) executable)
  | _ => d

/-- Write to where output goes. -/
def emit (m : Machine) (t : RawText) : Machine :=
  match m.job.output with
  | .session => { m with output := m.output ++ t }
  | .nowhere => m
  | .kept => { m with kept := ((m.kept.headD []) ++ t) :: m.kept.drop 1 }
  | .file place => m.withDisk (appendFile m.disk place t)

/-- A line feed. -/
def lineFeed : Glyph := .char '\n'

/-- The first line of a text, whether it is complete, and what follows. -/
def cutLine (t : RawText) : RawText × Bool × RawText :=
  let line := t.takeWhile (· != lineFeed)
  match t.dropWhile (· != lineFeed) with
  | [] => (line, false, [])
  | _ :: rest => (line, true, rest)

/-- Cutting a line off loses nothing but the line feed. -/
theorem cutLine_append (t : RawText) :
    (cutLine t).1 ++ (if (cutLine t).2.1 then [lineFeed] else []) ++ (cutLine t).2.2 = t := by
  unfold cutLine
  have whole := List.takeWhile_append_dropWhile (p := (· != lineFeed)) (l := t)
  have head := List.head?_dropWhile_not (· != lineFeed) t
  cases h : t.dropWhile (· != lineFeed) with
  | nil => simpa [h] using whole
  | cons g rest =>
    simp only [h, List.head?_cons] at head
    have first : g = lineFeed := by simpa using head
    subst first
    simpa [h] using whole

/-- Read a line: the line, whether it is complete, and the machine after it; `none` where a line
may still come. -/
def takeLine (m : Machine) : Option (RawText × Bool × Machine) :=
  match m.job.input with
  | .text t =>
    let (line, complete, rest) := cutLine t
    some (line, complete, { m with job := { m.job with input := .text rest } })
  | .session =>
    let (line, complete, rest) := cutLine m.input
    if complete || m.inputClosed then some (line, complete, { m with input := rest }) else none

/-- Leave the shell that is running, with a status. -/
def exit (m : Machine) (status : Nat) : Machine :=
  { m with tasks := m.tasks.dropWhile (!·.isLeave) }.done status

/-- The tasks of the shell that is running. -/
def ownTasks (m : Machine) : List Task := m.tasks.takeWhile (!·.isLeave)

/-- Leave the function that is running, or else the shell, with a status. -/
def leaveFunction (m : Machine) (status : Nat) : Machine :=
  if m.ownTasks.any Task.isResume then
    { m with tasks := m.tasks.dropWhile (!·.isResume) }.done status
  else m.exit status

/-- End the loop that is running, or only this turn of it. -/
def endLoop (m : Machine) (whole : Bool) : Machine :=
  if m.ownTasks.any Task.isLoop then
    let tasks := m.tasks.dropWhile (!·.isLoop)
    { m with tasks := if whole then tasks.drop 1 else tasks }.done 0
  else m.done 0

/-- The machine once it has slept. -/
def sleep (m : Machine) (milliseconds : Nat) : Machine :=
  let m := { m with slept := m.slept + milliseconds }
  if m.slept < m.patience then m.done 0
  else if m.job.detached then { m with slept := m.slept - milliseconds, held := true }.exit 0
  else { m with activity := .asleep }

end Machine

/-! ### Programs -/

/-- A program that can be started. -/
inductive Program where
  /-- An executable file. -/
  | file (path : String) (content : RawText)
  /-- A program of the system. -/
  | system (name : String)
  deriving DecidableEq

/-- The programs of the system. -/
def systemPrograms : List String :=
  ["sh", "env", "cat", "mkdir", "cp", "rm", "touch", "chmod", "sleep", "true", "false", "echo",
    "printf", "pwd", "test", "["]

/-- Where the programs of the system lie. -/
def systemDirs : List String := ["/bin", "/usr/bin"]

/-- The program at a path. -/
def programAt (d : Disk) (cwd : Place) (path : String) : Except SystemFault Program :=
  match systemDirs.findSome? fun dir => stripStart? (dir ++ "/").toList path.toList with
  | some name =>
    if systemPrograms.contains (String.ofList name) then .ok (.system (String.ofList name))
    else .error .notFound
  | none =>
    match d.kind? cwd path with
    | .ok (.file content true) => .ok (.file path content)
    | .ok _ => .error .permissionDenied
    | .error f => .error f

/-- The directories that are searched where nothing says which. -/
def defaultSearchPath : String := "/bin:/usr/bin"

/-- Search directories for a program; one that may not be started is remembered. -/
def searchProgram (d : Disk) (cwd : Place) (name : String) (refused : Bool) :
    List String → Except SystemFault Program
  | [] => .error (if refused then .permissionDenied else .notFound)
  | dir :: rest =>
    match programAt d cwd (joinPath dir name) with
    | .ok p => .ok p
    | .error f => searchProgram d cwd name (refused || f == .permissionDenied) rest

/-- The program that a name stands for: a name with a slash is a path. -/
def findProgram (d : Disk) (cwd : Place) (searchPath : Option String) (name : String) :
    Except SystemFault Program :=
  if name.toList.contains '/' then programAt d cwd name
  else if name.isEmpty then .error .notFound
  else searchProgram d cwd name false
    ((splitOn ':' (searchPath.getD defaultSearchPath).toList).map String.ofList)

/-- The program that a script asks to be run by, if it asks for one, with its arguments. -/
def interpreterOf (content : RawText) : Option (List RawText) :=
  match content with
  | .char '#' :: .char '!' :: rest =>
    let line := rest.takeWhile (· != .char '\n')
    let isGap (g : Glyph) : Bool := g == .char ' ' || g == .char '\t'
    let line := line.dropWhile isGap
    let argument := ((line.dropWhile (!isGap ·)).dropWhile isGap).reverse.dropWhile isGap |>.reverse
    some (line.takeWhile (!isGap ·) :: if argument.isEmpty then [] else [argument])
  | _ => none

/-- The name by which the system knows its shell. -/
def isShellName (name : String) : Bool := name == "sh" || name == "bash" || name == "dash"

end Orchestration.Shell
