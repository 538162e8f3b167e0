import Orchestration.Engine.Launch
import Orchestration.Rpc.Client
import Orchestration.Shell.Run

/-!
# Engines as programs

An engine is a program that reads from the client and writes to it.  It is started anew for every
call and does not outlive it: after a success it may come to its end by itself, after a failure
it is stopped where it stands.

* `Surroundings` — what a program is started in;
* `spawn` — starting a command, or why it cannot be started;
* `runningEngine` — a started program as the client's peer;
* `callEngine` — a command started, called and ended.
-/

namespace Orchestration

open Shell (Job Machine Program findProgram programAt interpreterOf)

/-- What a program is started in. -/
structure Surroundings where
  vars : KeyMap String
  cwd : Place
  disk : Disk

namespace Surroundings

/-- The surroundings with more variables. -/
def withVariables (s : Surroundings) (more : KeyMap String) : Surroundings :=
  { s with vars := s.vars.union more }

/-- The directory that a command starts in. -/
def startPlace (s : Surroundings) (c : LaunchCommand) : Except SystemFault Place :=
  match c.dir with
  | none => .ok s.cwd
  | some dir =>
    match s.disk.locate s.cwd dir with
    | .error f => .error f
    | .ok place =>
      match s.disk.entry? place with
      | some .directory => .ok place
      | some (.file ..) => .error .notADirectory
      | none => .error .notFound

/-- Whether a text can be handed to a program. -/
def isPassable (t : String) : Bool := !t.toList.contains (Char.ofNat 0)

/-- The texts that starting a command hands over. -/
def handedOver (c : LaunchCommand) : List String :=
  c.program :: c.args ++ c.dir.toList ++ c.env.keys ++ c.env.values

/-- A program at its beginning, with a number of milliseconds for which it is waited. -/
def machineAt (s : Surroundings) (place : Place) (fields : List String) (patience : Nat) :
    Machine where
  disk := s.disk
  input := []
  inputClosed := false
  output := []
  kept := []
  held := false
  slept := 0
  patience := patience
  job := .start (s.vars.map RawText.ofString) place
  tasks := [.become (fields.map RawText.ofString)]
  activity := .running

/-- Make sure that what a program is run by is there. -/
def checkInterpreter (d : Disk) (place : Place) : Program → Except SystemFault Unit
  | .system _ => .ok ()
  | .file _ content =>
    match interpreterOf content with
    | some (t :: rest) =>
      if Machine.isShell (t :: rest) then .ok ()
      else discard (programAt d place (RawText.lossy t))
    | _ => .ok ()

/-- Start a command. -/
def spawn (s : Surroundings) (c : LaunchCommand) (patience : Nat) : Except SystemFault Machine :=
  let s := s.withVariables c.env
  if !((handedOver c).all isPassable) then
    .error (.described "nul byte found in provided data")
  else do
    let place ← s.startPlace c
    checkInterpreter s.disk place
      (← findProgram s.disk place (s.vars.find? "PATH") c.program)
    return s.machineAt place (c.program :: c.args) patience

end Surroundings

namespace Shell.Machine

/-- The output that has not been read, and the machine without it. -/
def takeOutput (m : Machine) : RawText × Machine := (m.output, { m with output := [] })

/-- The machine with more input. -/
def feed (m : Machine) (t : RawText) : Machine :=
  { m with
    input := m.input ++ t
    activity := if m.activity == .reading then .running else m.activity }

/-- The machine once its input is closed. -/
def closeInput (m : Machine) : Machine := { m.feed [] with inputClosed := true }

/-- Whether nothing more can be written. -/
def isClosed (m : Machine) : Bool := m.activity == .ended && !m.held

end Shell.Machine

/-- A started program as the client's peer. -/
def runningEngine : Peer Machine where
  receive line m := (m.feed (.ofString line)).run.takeOutput
  closed := Machine.isClosed

/-- What a call leaves behind. -/
structure EngineRun where
  sent : List Message
  outcome : Except RpcError ToolResult
  disk : Disk

/-- The end of an engine. -/
def endEngine (outcome : Except RpcError ToolResult) (m : Machine) : Machine :=
  match outcome with
  | .ok _ => m.closeInput.run
  | .error _ => m

/-- Start a command as an engine, call a tool of it, and end it. -/
def callEngine (c : ClientConfig) (s : Surroundings) (launch : LaunchCommand) (tool : String)
    (arguments : Document) : EngineRun :=
  match s.spawn (launch.withArgs [serverFlag]) (min c.handshakeTimeout c.callTimeout) with
  | .error fault => ⟨[], .error (.spawn launch.program fault), s.disk⟩
  | .ok m =>
    let r := c.session runningEngine tool arguments m
    ⟨r.sent, r.outcome, (endEngine r.outcome r.state).disk⟩

/-- A program that is run for what it writes, without input: its status and its output. -/
def runProgram (s : Surroundings) (launch : LaunchCommand) (patience : Nat) :
    Except SystemFault (Nat × RawText × Disk) := do
  let m := (← s.spawn launch patience).closeInput.run
  return (m.job.status, m.output, m.disk)

end Orchestration
