import Orchestration.Shell.Format
import Orchestration.Shell.Machine

/-!
# Commands that need no program of their own

* `Progress` — a command that has ended, or that waits for input;
* `testStatus` — the verdict of a test;
* `Machine.readVariables` — a line read into variables;
* `Machine.copyFile`, `Machine.removePath` and the like — work on the disk;
* `Machine.builtIn` — the commands of the shell;
* `Machine.systemProgram` — the simple programs of the system.
-/

namespace Orchestration.Shell

/-- What comes of beginning a command. -/
inductive Progress where
  | done (m : Machine)
  /-- It has to be begun anew once more input is there. -/
  | waiting (m : Machine)

/-! ### Tests -/

/-- The verdict on one operand. -/
def testOne (m : Machine) (op : String) (t : RawText) : Option Bool :=
  let path := RawText.lossy t
  let kind := m.disk.kind? m.job.directory path
  match op with
  | "-n" => some (!t.isEmpty)
  | "-z" => some t.isEmpty
  | "-e" | "-r" | "-w" => some kind.toOption.isSome
  | "-f" => some (m.disk.isFile m.job.directory path)
  | "-d" => some (m.disk.isDirectory m.job.directory path)
  | "-s" => some (match kind with
    | .ok (.file content _) => !content.isEmpty
    | .ok .directory => true
    | .error _ => false)
  | "-x" => some (match kind with
    | .ok (.file _ executable) => executable
    | .ok .directory => true
    | .error _ => false)
  | _ => none

/-- The verdict on two operands. -/
def testTwo (a : RawText) (op : String) (b : RawText) : Option Bool :=
  let compared (f : Int → Int → Bool) : Option Bool := do return f (← integer? a) (← integer? b)
  match op with
  | "=" | "==" => some (a == b)
  | "!=" => some (a != b)
  | "-eq" => compared (· == ·)
  | "-ne" => compared (· != ·)
  | "-lt" => compared (· < ·)
  | "-le" => compared (· ≤ ·)
  | "-gt" => compared (· > ·)
  | "-ge" => compared (· ≥ ·)
  | _ => none

/-- The verdict on an expression; `none` for what is none. -/
def testVerdict (m : Machine) : List RawText → Option Bool
  | [] => some false
  | [a] => some (!a.isEmpty)
  | [op, a] =>
    if op == .ofString "!" then some a.isEmpty else testOne m (RawText.lossy op) a
  | [a, op, b] =>
    match testTwo a (RawText.lossy op) b with
    | some v => some v
    | none => if a == .ofString "!" then (testVerdict m [op, b]).map (!·) else none
  | a :: rest => if a == .ofString "!" then (testVerdict m rest).map (!·) else none

/-- The status of a test. -/
def testStatus (m : Machine) (fields : List RawText) : Nat :=
  match testVerdict m fields with
  | some true => 0
  | some false => 1
  | none => 2

namespace Machine

/-! ### Reading -/

/-- The text without blank separators at its beginning. -/
def dropGap (separators t : RawText) : RawText :=
  t.dropWhile fun g => separators.contains g && Job.isBlankGlyph g

/-- What follows a separator: blank ones around it count with it. -/
def dropSeparator (separators t : RawText) : RawText :=
  match dropGap separators t with
  | g :: rest => if separators.contains g then dropGap separators rest else g :: rest
  | [] => []

/-- A line distributed over variables, of which the last receives all that is left. -/
def distribute (separators : RawText) (j : Job) : List String → RawText → Job
  | [], _ => j
  | [name], t => j.set name (dropGap separators t.reverse).reverse
  | name :: names, t =>
    let isOpen (g : Glyph) : Bool := !separators.contains g
    distribute separators (j.set name (t.takeWhile isOpen)) names
      (dropSeparator separators (t.dropWhile isOpen))

/-- A line without the backslashes that quote characters. -/
def dropBackslashes : RawText → RawText
  | [] => []
  | g :: rest =>
    match rest with
    | h :: rest => if g == .char '\\' then h :: dropBackslashes rest else
        g :: dropBackslashes (h :: rest)
    | [] => if g == .char '\\' then [] else [g]

/-- Read a line into variables. -/
def readVariables (m : Machine) (arguments : List RawText) : Progress :=
  let (raw, names) := match arguments with
    | first :: names => if first == RawText.ofString "-r" then (true, names) else (false, arguments)
    | [] => (false, [])
  if names.isEmpty then .done (m.done 2)
  else match m.takeLine with
  | none => .waiting m
  | some (line, complete, m) =>
    let line := if raw then line else dropBackslashes line
    let job := distribute m.job.separators m.job (names.map RawText.lossy)
      (dropGap m.job.separators line)
    .done ({ m with job }.done (if complete then 0 else 1))

/-- Write what is read until the input ends. -/
def copyInput (m : Machine) : Progress :=
  match m.job.input with
  | .text t => .done (({ m with job := { m.job with input := .text [] } }.emit t).done 0)
  | .session =>
    let m := { m with input := [] }.emit m.input
    if m.inputClosed then .done (m.done 0) else .waiting m

/-! ### The disk -/

/-- Whether an argument is an option. -/
def isOption (t : RawText) : Bool := t.head? == some (.char '-') && 1 < t.length

/-- Whether one of the options holds a letter. -/
def hasOption (letter : Char) (arguments : List RawText) : Bool :=
  arguments.any fun t => isOption t && t.contains (.char letter)

/-- The arguments that are no options. -/
def operands (arguments : List RawText) : List String :=
  (arguments.filter (!isOption ·)).map RawText.lossy

/-- Work on one path after the other; the status says whether all of it went well. -/
def overPaths (work : String → Disk → Option Disk) (m : Machine) (paths : List String) : Machine :=
  let (disk, well) := paths.foldl (fun (d, well) path =>
    match work path d with
    | some d => (d, well)
    | none => (d, false)) (m.disk, true)
  (m.withDisk disk).done (if well then 0 else 1)

/-- Make a directory, with those above it if that is wanted. -/
def makeDirectory (m : Machine) (above : Bool) (path : String) (d : Disk) : Option Disk :=
  let cwd := m.job.directory
  if above then
    match d.makeDirs cwd path with
    | (.ok (), d) => some d
    | (.error _, _) => none
  else
    match d.locate cwd path with
    | .ok place =>
      if d.contains place || d.entry? place.dropLast != some .directory then none
      else some (d.put place .directory)
    | .error _ => none

/-- Copy a file onto a path, or into a directory. -/
def copyFile (m : Machine) (source target : String) (d : Disk) : Option Disk :=
  let cwd := m.job.directory
  let target := if d.isDirectory cwd target then joinPath target (lastPart source) else target
  match d.kind? cwd source with
  | .ok (.file content executable) =>
    (d.write cwd target content (executable && (d.kind? cwd target).toOption.isNone)).toOption
  | _ => none

/-- Copy files onto the last of some paths. -/
def copyFiles (m : Machine) (paths : List String) : Machine :=
  match paths.getLast? with
  | some target => m.overPaths (fun source d => m.copyFile source target d) paths.dropLast
  | none => m.done 1

/-- Make sure that a file is there. -/
def touchFile (m : Machine) (path : String) (d : Disk) : Option Disk :=
  match d.kind? m.job.directory path with
  | .ok _ => some d
  | .error _ => (d.write m.job.directory path []).toOption

/-- Remove a path. -/
def removePath (m : Machine) (deep force : Bool) (path : String) (d : Disk) : Option Disk :=
  let cwd := m.job.directory
  match d.kind? cwd path with
  | .ok .directory =>
    if deep then
      match d.removeDir cwd path with
      | (.ok (), d) => some d
      | (.error _, _) => none
    else none
  | .ok (.file ..) => (d.removeFile cwd path).toOption
  | .error _ => if force then some d else none

/-- Whether a mode of permissions lets a file be started. -/
def startsFiles (mode : String) : Bool :=
  mode.toList.contains 'x' || mode == "755" || mode == "0755" || mode == "777" || mode == "700"

/-- Let a file be started, or no longer. -/
def setMode (m : Machine) (executable : Bool) (path : String) (d : Disk) : Option Disk :=
  match d.locate m.job.directory path with
  | .ok place =>
    match d.entry? place with
    | some (.file content _) => some (d.put place (.file content executable))
    | some .directory => some d
    | none => none
  | .error _ => none

/-- The content of files, one after the other; a file that cannot be read is left out. -/
def printFiles (m : Machine) (paths : List String) : Machine :=
  paths.foldl (fun m path =>
    match m.disk.read m.job.directory path with
    | .ok t => m.emit t
    | .error _ => m.done 1) (m.done 0)

/-- Go to a directory. -/
def changeDirectory (m : Machine) (path : String) : Machine :=
  match m.disk.locate m.job.directory path with
  | .ok place =>
    if m.disk.entry? place == some .directory then { m with job := m.job.enter place }.done 0
    else m.done 2
  | .error _ => m.done 2

/-! ### Variables -/

/-- A name, and the value after its equals sign. -/
def nameAndValue (t : RawText) : String × Option RawText :=
  let isName (g : Glyph) : Bool := g != .char '='
  (RawText.lossy (t.takeWhile isName),
    match t.dropWhile isName with
    | [] => none
    | _ :: value => some value)

/-- Hand a variable on to programs that are started. -/
def exportVariable (j : Job) (t : RawText) : Job :=
  let (name, value) := nameAndValue t
  let j := match value with
    | some value => j.set name value
    | none => j
  { j with exported := name :: j.exported }

/-- Forget a variable. -/
def unsetVariable (j : Job) (name : String) : Job :=
  { j with vars := j.vars.erase name }

/-- The status that a command names, or else the last one. -/
def statusOf (m : Machine) (arguments : List RawText) : Nat :=
  match arguments with
  | t :: _ => (integerOf t).toNat % 256
  | [] => m.job.status

/-- The milliseconds that a number of seconds spells. -/
def millisecondsOf (t : RawText) : Nat :=
  let cs := (RawText.lossy t).toList
  let fraction := ((cs.dropWhile (· != '.')).drop 1).take 3
  let padded := fraction ++ List.replicate (3 - fraction.length) '0'
  let number (cs : List Char) : Nat := ((String.ofList cs).toNat?).getD 0
  number (cs.takeWhile (· != '.')) * 1000 + number padded

/-! ### Commands by name -/

/-- A test between brackets. -/
def bracketTest (m : Machine) (arguments : List RawText) : Machine :=
  if arguments.getLast? == some (.ofString "]") then m.done (testStatus m arguments.dropLast)
  else m.done 2

/-- Arguments without the mark before them that ends options. -/
def afterMark (arguments : List RawText) : List RawText :=
  if arguments.head? == some (.ofString "--") then arguments.drop 1 else arguments

/-- A format printed with the arguments after it. -/
def printFormat (m : Machine) (arguments : List RawText) : Machine :=
  match afterMark arguments with
  | format :: arguments => (m.emit (formatAll format arguments)).done 0
  | [] => m.done 2

/-- A command of the shell; `none` for a name that is none. -/
def builtIn (m : Machine) (name : String) (arguments : List RawText) : Option Progress :=
  match name with
  | ":" | "true" => some (.done (m.done 0))
  | "false" => some (.done (m.done 1))
  | "echo" => some (.done ((m.emit (echoText arguments)).done 0))
  | "printf" => some (.done (m.printFormat arguments))
  | "test" => some (.done (m.done (testStatus m arguments)))
  | "[" => some (.done (m.bracketTest arguments))
  | "read" => some (m.readVariables arguments)
  | "pwd" => some (.done ((m.emit (.ofString (Job.pathOf m.job.directory ++ "\n"))).done 0))
  | "cd" =>
    match arguments.head?.or (m.job.vars.find? "HOME") with
    | some t => some (.done (m.changeDirectory (RawText.lossy t)))
    | none => some (.done (m.done 0))
  | "exit" => some (.done (m.exit (m.statusOf arguments)))
  | "return" => some (.done (m.leaveFunction (m.statusOf arguments)))
  | "break" => some (.done (m.endLoop true))
  | "continue" => some (.done (m.endLoop false))
  | "shift" =>
    let count := match arguments with
      | t :: _ => (integerOf t).toNat
      | [] => 1
    if m.job.arguments.length < count then some (.done (m.exit 2))
    else
      let job := { m.job with arguments := m.job.arguments.drop count }
      some (.done ({ m with job }.done 0))
  | "export" =>
    some (.done ({ m with job := arguments.foldl exportVariable m.job }.done 0))
  | "unset" =>
    some (.done ({ m with job := (operands arguments).foldl unsetVariable m.job }.done 0))
  | "set" | "umask" | "trap" | "wait" => some (.done (m.done 0))
  | _ => none

/-- Whether an argument is an option with a whole name. -/
def isLongOption (t : RawText) : Bool := t.take 2 == RawText.ofString "--" && 2 < t.length

/-- The programs that refuse options with whole names. -/
def strictPrograms : List String :=
  ["cat", "mkdir", "cp", "touch", "rm", "chmod", "sleep", "pwd"]

/-- A program of the system other than a shell. -/
def systemProgram (m : Machine) (name : String) (arguments : List RawText) : Progress :=
  let paths := operands arguments
  if strictPrograms.contains name && arguments.any isLongOption then .done (m.done 1)
  else match name with
  | "cat" => if paths.isEmpty then m.copyInput else .done (m.printFiles paths)
  | "mkdir" => .done (m.overPaths (m.makeDirectory (hasOption 'p' arguments)) paths)
  | "cp" => .done (m.copyFiles paths)
  | "touch" => .done (m.overPaths m.touchFile paths)
  | "rm" =>
    .done (m.overPaths (m.removePath (hasOption 'r' arguments) (hasOption 'f' arguments)) paths)
  | "chmod" => .done (m.overPaths (m.setMode (paths.head?.any startsFiles)) (paths.drop 1))
  | "sleep" => .done (m.sleep (millisecondsOf (arguments.headD [])))
  | other => (m.builtIn other arguments).getD (.done (m.done 127))

end Machine

end Orchestration.Shell
