import Orchestration.Shell.Utility

/-!
# One step after the other

A machine does its tasks in order until there are none, until it waits for input, or until it has
done more than anybody waits for.

* `Machine.becomeProgram` — a shell gives way to a program;
* `Machine.perform` — a simple command;
* `Machine.begin`, `Machine.step` — one task;
* `Machine.run` — as many as possible.
-/

namespace Orchestration.Shell

namespace Machine

/-! ### Programs -/

/-- The status of a program that cannot be started. -/
def startFailure : SystemFault → Nat
  | .permissionDenied => 126
  | _ => 127

/-- Run a script in the shell that is there; one that is no script at all fails. -/
def runScript (m : Machine) (content : RawText) (name : RawText) (arguments : List RawText) :
    Machine :=
  let m := { m with job := m.job.child name arguments }
  match readScript (RawText.lossy content) with
  | some c => m.push (.run c)
  | none => m.done 2

/-- Become the system's shell. -/
def becomeShell (m : Machine) (arguments : List RawText) : Machine :=
  match arguments with
  | option :: rest =>
    if option == .ofString "-c" then
      match rest with
      | content :: name :: arguments => m.runScript content name arguments
      | [content] => m.runScript content (.ofString "sh") []
      | [] => m.done 2
    else if isOption option then m.done 2
    else
      match m.disk.read m.job.directory (RawText.lossy option) with
      | .ok content => m.runScript content option rest
      | .error _ => m.done 2
  | [] => m.done 0

/-- Whether what a script asks to be run by is the system's shell. -/
def isShell (interpreter : List RawText) : Bool :=
  let lastName (t : RawText) : String := lastPart (RawText.lossy t)
  match interpreter with
  | [t] => isShellName (lastName t)
  | [t, argument] =>
    isShellName (lastName t) || lastName t == "env" && isShellName (RawText.lossy argument)
  | _ => false

/-- Set variables before a program, and become it. -/
def becomeInEnvironment (m : Machine) : List RawText → Machine
  | [] => m.done 0
  | t :: rest =>
    if t.contains (.char '=') then
      becomeInEnvironment { m with job := exportVariable m.job t } rest
    else m.push (.become (t :: rest))

/-- The shell gives way to a program.  Nothing comes back, so the tasks that the shell still had
are dropped. -/
def becomeProgram (m : Machine) (fields : List RawText) : Machine :=
  match fields with
  | [] => m.exit 0
  | name :: arguments =>
    let m := { m with tasks := m.tasks.dropWhile (!·.isLeave) }
    let path := (m.job.vars.find? "PATH").map RawText.lossy
    match findProgram m.disk m.job.directory path (RawText.lossy name) with
    | .error f => m.done (startFailure f)
    | .ok (.file path content) =>
      match interpreterOf content with
      | none => m.runScript content (.ofString path) arguments
      | some interpreter =>
        if isShell interpreter then m.runScript content (.ofString path) arguments
        else m.push (.become (interpreter ++ .ofString path :: arguments))
    | .ok (.system "sh") => m.becomeShell arguments
    | .ok (.system "env") => m.becomeInEnvironment arguments
    | .ok (.system name) =>
      match m.systemProgram name arguments with
      | .done m => m
      | .waiting m => { m with activity := .reading }.push (.become fields)

/-! ### Redirections -/

/-- The descriptor to which output goes. -/
def sinkOf (j : Job) (descriptor : Nat) : Sink :=
  if descriptor == 1 then j.output else j.errors

/-- A job with a descriptor open on a sink. -/
def openSink (j : Job) (descriptor : Nat) (sink : Sink) : Job :=
  if descriptor == 1 then { j with output := sink }
  else if descriptor == 2 then { j with errors := sink }
  else j

/-- The file that takes what is thrown away, and that holds nothing. -/
def nullFile : String := "/dev/null"

/-- Open a redirection. -/
def redirect (m : Machine) (r : Redirect) : Option Machine :=
  let path := RawText.lossy (m.job.text r.target)
  let opened (sink : Sink) : Machine := { m with job := openSink m.job r.descriptor sink }
  match r.mode with
  | .text => some { m with job := { m.job with input := .text (m.job.text r.target) } }
  | .same => path.toNat?.map fun source => opened (sinkOf m.job source)
  | .input =>
    if path == nullFile then some { m with job := { m.job with input := .text [] } }
    else match m.disk.read m.job.directory path with
      | .ok t => some { m with job := { m.job with input := .text t } }
      | .error _ => none
  | mode =>
    if path == nullFile then some (opened .nowhere)
    else do
      let place ← (m.disk.locate m.job.directory path).toOption
      let old := if mode == .append then (m.disk.read m.job.directory path).toOption.getD [] else []
      let disk ← (m.disk.write m.job.directory path old).toOption
      some ((opened (.file place)).withDisk disk)

/-- Open redirections in order. -/
def redirectAll (m : Machine) : List Redirect → Option Machine
  | [] => some m
  | r :: rest => (m.redirect r).bind fun m => m.redirectAll rest

/-- The machine with the descriptors of a job. -/
def withDescriptors (m : Machine) (input : Origin) (output errors : Sink) : Machine :=
  { m with job := { m.job with input, output, errors } }

/-- Whether a redirection opens a descriptor for reading. -/
def Redirect.reads (r : Redirect) : Bool := r.mode == .input || r.mode == .text

/-- A command's own redirections are closed; what has been read stays read. -/
def closeRedirects (m : Machine) (before : Job) (redirects : List Redirect) : Machine :=
  let input := if redirects.any Redirect.reads then before.input else m.job.input
  m.withDescriptors input before.output before.errors

/-! ### Simple commands -/

/-- A job with variables set one after the other, each seeing those before. -/
def assignAll (j : Job) (assignments : List (String × Word)) : Job :=
  assignments.foldl (fun j (name, w) => j.set name (j.text w)) j

/-- Variables as they were before. -/
def resetVariables (before : Job) (names : List String) (j : Job) : Job :=
  names.foldl (fun j name =>
    match before.vars.find? name with
    | some value => j.set name value
    | none => { j with vars := j.vars.erase name }) j

/-- Whether variables set before a command stay set after it. -/
def keepsVariables (name : String) : Bool :=
  [":", "exit", "return", "break", "continue", "shift", "export", "unset", "set"].contains name

/-- A simple command. -/
def perform (m : Machine) (assignments : List (String × Word)) (words : List Word)
    (redirects : List Redirect) : Machine :=
  let before := m.job
  let names := assignments.map (·.1)
  let self : Task := .run (.simple assignments words redirects)
  match m.redirectAll redirects, m.job.allFields words with
  | none, _ => m.done 2
  | some m, [] =>
    let m := { m with job := assignAll m.job assignments }.closeRedirects before redirects
    if assignments.any (·.2.any Piece.isValue) then m else m.done 0
  | some m, name :: arguments =>
    let m := { m with job := assignAll m.job assignments }
    let exporting : Job := { m.job with exported := names ++ m.job.exported }
    if name == .ofString "exec" then
      if arguments.isEmpty then m.done 0
      else { m with job := exporting }.push (.become arguments)
    else if let some body := m.job.functions.find? (RawText.lossy name) then
      let m := (m.push (.restore before.input before.output before.errors)).push
        (.resume m.job.arguments)
      { m with job := { m.job with arguments } }.push (.run body)
    else match m.builtIn (RawText.lossy name) arguments with
      | some (.done m) =>
        let m := m.closeRedirects before redirects
        if keepsVariables (RawText.lossy name) then m
        else { m with job := resetVariables before names m.job }
      | some (.waiting m) => { m with job := before, activity := .reading }.push self
      | none =>
        ({ m with job := exporting }.push (.leave before none)).push (.become (name :: arguments))

/-! ### Output for commands -/

/-- Run a command in a shell of its own, keeping its output for a task. -/
def keepOutput (m : Machine) (c : Command) (next : Task) : Machine :=
  let m := { m.push next with kept := [] :: m.kept }
  let m := m.push (.leave m.job none)
  { m with job := { m.job with output := .kept } }.push (.run c)

/-- The output that was kept last, and the machine without it. -/
def takeKept (m : Machine) : RawText × Machine :=
  (m.kept.headD [], { m with kept := m.kept.drop 1 })

/-- A text without the line feeds at its end. -/
def withoutLineEnds (t : RawText) : RawText := (t.reverse.dropWhile (· == lineFeed)).reverse

/-- The command that is run for output in a word; a text that spells none fails. -/
def outputCommand (script : List Char) : Command :=
  (readScript (String.ofList script)).getD
    (.simple [] [.literal "exit".toList, .literal "2".toList] [])

/-! ### Tasks -/

/-- Begin a command of which no word lacks output. -/
def beginFilled (m : Machine) (c : Command) : Machine :=
  match c with
  | .nothing => m
  | .simple assignments words redirects => m.perform assignments words redirects
  | .sequence first second => (m.push (.run second)).push (.run first)
  | .both first second => (m.push (.runIf true second)).push (.run first)
  | .either first second => (m.push (.runIf false second)).push (.run first)
  | .negation inner => (m.push .negate).push (.run inner)
  | .pipe first second => m.keepOutput first (.feed second)
  | .define name body =>
    { m with job := { m.job with functions := m.job.functions.insert name body } }.done 0
  | .branch test yes no => (m.push (.branch yes no)).push (.run test)
  | .loop wanted test body => m.push (.again wanted test body)
  | .each name items body => (m.done 0).push (.each name (m.job.allFields items) body)
  | .choose subject arms =>
    let t := m.job.text subject
    let chosen := arms.find? fun arm => arm.1.any fun p => matchesPattern (m.job.pattern p) t
    match chosen with
    | some (_, body) => (m.done 0).push (.run body)
    | none => m.done 0
  | .background inner =>
    let m := m.push (.leave { m.job with status := 0 } (some 0))
    { m with job := { m.job with detached := true, input := .text [] } }.push (.run inner)
  | .inner body => (m.push (.leave m.job none)).push (.run body)
  | .redirected body redirects =>
    match m.redirectAll redirects with
    | some opened =>
      (opened.push (.restore m.job.input m.job.output m.job.errors)).push (.run body)
    | none => m.done 2

/-- Begin a command: output that its words lack comes first. -/
def begin (m : Machine) (c : Command) : Machine :=
  match c.words.findSome? firstOutput? with
  | some script => m.keepOutput (outputCommand script) (.fill c)
  | none => m.beginFilled c

/-- Whether the last command succeeded. -/
def succeeded (m : Machine) : Bool := m.job.status == 0

/-- Do a task that has been taken. -/
def doTask (m : Machine) (t : Task) : Machine :=
  match t with
  | .run c => m.begin c
  | .become fields => m.becomeProgram fields
  | .runIf success c => if m.succeeded == success then m.push (.run c) else m
  | .negate => m.done (if m.succeeded then 1 else 0)
  | .branch yes no => if m.succeeded then m.push (.run yes) else (m.done 0).push (.run no)
  | .decide wanted test body =>
    if m.succeeded == wanted then (m.push (.again wanted test body)).push (.run body)
    else m.done 0
  | .again wanted test body => (m.push (.decide wanted test body)).push (.run test)
  | .each _ [] _ => m
  | .each name (item :: items) body =>
    ({ m with job := m.job.set name item }.push (.each name items body)).push (.run body)
  | .fill c =>
    let (t, m) := m.takeKept
    m.push (.run (c.fill (withoutLineEnds t)))
  | .feed c =>
    let (t, m) := m.takeKept
    let m := m.push (.leave m.job none)
    { m with job := { m.job with input := .text t } }.push (.run c)
  | .resume arguments => { m with job := { m.job with arguments } }
  | .restore input output errors => m.withDescriptors input output errors
  | .leave parent status =>
    { m with job := { parent with status := status.getD m.job.status } }

/-- Do the next task. -/
def step (m : Machine) : Machine :=
  match m.tasks with
  | [] => { m with activity := .ended }
  | t :: rest => { m with tasks := rest }.doTask t

/-- Do tasks as long as possible, but not more than a number of them. -/
def runFor : Nat → Machine → Machine
  | 0, m => m
  | n + 1, m => if m.activity == .running then runFor n m.step else m

/-- A machine that has stopped stays as it is. -/
theorem runFor_of_stopped {m : Machine} (h : m.activity ≠ .running) (n : Nat) :
    runFor n m = m := by
  cases n with
  | zero => rfl
  | succ n => simp [runFor, h]

/-- A run can be interrupted anywhere. -/
theorem runFor_add (a b : Nat) (m : Machine) : runFor (a + b) m = runFor b (runFor a m) := by
  induction a generalizing m with
  | zero => rw [Nat.zero_add]; rfl
  | succ a ih =>
    rw [Nat.succ_add]
    by_cases h : m.activity = .running
    · simp [runFor, h, ih]
    · simp [runFor, h, runFor_of_stopped h]

/-- How many tasks anybody waits for.  A program that needs more of them at once counts as one
that keeps its callers waiting. -/
def maxTasks : Nat := 100000

/-- Do tasks as long as possible. -/
def run (m : Machine) : Machine := runFor maxTasks m

end Machine

end Orchestration.Shell
