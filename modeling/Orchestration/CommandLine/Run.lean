import Orchestration.CommandLine.Invocation
import Orchestration.CommandLine.Report
import Orchestration.Project.Build
import Orchestration.Project.Engines
import Orchestration.Project.Load

/-!
# The program

* `Start` — what the program is started with;
* `Finish` — what it leaves behind;
* `Workplace` — a configured project, and what commands and served tools do there;
* `Start.prepare` — what there is to do;
* `Start.run` — the whole program.
-/

namespace Orchestration.CommandLine

/-! ### Beginning and end -/

/-- What the program is started with. -/
structure Start where
  arguments : List String
  vars : KeyMap String
  input : RawText
  disk : Disk
  cwd : Place
  clock : Nat → Timestamp
  bits : Nat → UInt32

/-- What the program leaves behind. -/
structure Finish where
  status : Nat
  output : String
  errors : String
  disk : Disk
  /-- The number of random suffixes drawn. -/
  drawn : Nat

namespace Start

/-- The directory for temporary files. -/
def systemTmp (s : Start) : String := (s.vars.find? "TMPDIR").getD "/tmp"

/-- What engines are started in. -/
def surroundings (s : Start) : Surroundings := ⟨s.vars, s.cwd, s.disk⟩

/-- The world at the beginning. -/
def world (s : Start) : World Resolver :=
  let (resolver, disk) := Resolver.discover s.surroundings s.systemTmp
  ⟨disk, s.cwd, s.clock, 0, s.bits, 0, [], resolver⟩

/-- An end before anything has been done. -/
def stopAt (s : Start) (status : Nat) (output errors : String) : Finish :=
  ⟨status, output, errors, s.disk, 0⟩

end Start

/-! ### Commands -/

/-- What a command prints, or how it fails. -/
abbrev Printed := Except Failure String

/-- The outcome of work as what is printed of it. -/
def printed {α : Type} (f : α → String) (context : String) (r : Except OrchestratorError α) :
    Printed :=
  (r.map f).mapError fun e => (Failure.ofError e).within context

/-! ### Projects -/

/-- A configured project that is ready for work. -/
structure Workplace where
  stages : StageOrchestrator
  builds : BuildCoordinator
  services : Services Resolver

namespace Workplace

/-- The workplace that a configuration describes. -/
def ofConfig (s : Start) (c : ProjectConfig) : Workplace :=
  ⟨.ofConfig s.systemTmp c, .ofConfig s.systemTmp c, c.services s.vars⟩

/-- Do a command. -/
def perform (p : Workplace) (w : World Resolver) : Action → Printed × World Resolver
  | .create stage =>
    let (r, w) := p.stages.create p.services stage w
    (printed createdText ("Failed to create test environment for stage '" ++ stage ++ "'") r, w)
  | .delete id =>
    let (r, w) := p.stages.delete p.services id w
    (printed deletedText ("Failed to delete test environment '" ++ id ++ "'") r, w)
  | .outcome id passed =>
    let (r, w) := StageOrchestrator.recordOutcome p.services id passed w
    (printed markedText ("Failed to record outcome for '" ++ id ++ "'") r, w)
  | .build only =>
    let (r, w) := p.builds.build p.services only w
    (printed builtText "Build failed" r, w)
  | .list stage =>
    let (r, w) := StageOrchestrator.list p.services stage w
    ((r.map listText).mapError Failure.ofError, w)

/-- Serve tools. -/
def serveInput (p : Workplace) (input : RawText) (w : World Resolver) : Served (World Resolver) :=
  serve (p.stages.handler p.services) programInfo input w

end Workplace

/-! ### Ends -/

/-- How serving tools fails. -/
def serveFailure (e : RpcError) : Failure :=
  let below := match e with
    | .io fault => [fault.message]
    | _ => []
  ⟨"RPC server failed", e.message :: below⟩

/-- The failure of a program that is not told what to do. -/
def noCommand : Failure := ⟨"no command given; run \x60stagehand --help\x60 or pass --mcp", []⟩

namespace Finish

/-- The end after work on a world. -/
def ofWorld (output : String) (failure : Option Failure) (w : World Resolver) : Finish :=
  ⟨if failure.isSome then 1 else 0, output, failure.elim "" Failure.report, w.disk, w.drawn⟩

/-- The end after serving tools. -/
def ofServed (r : Served (World Resolver)) : Finish :=
  let output := String.join (r.replies.map Message.line)
  match r.ending with
  | .ok () => ofWorld output none r.state
  | .error e => ofWorld output (some (serveFailure e)) r.state

/-- The end after a command. -/
def ofPrinted : Printed × World Resolver → Finish
  | (.ok output, w) => ofWorld output none w
  | (.error failure, w) => ofWorld "" (some failure) w

end Finish

/-! ### The program -/

namespace Start

/-- Why a configuration cannot be used, as a failure. -/
def configFailure (path : String) (fault : ConfigFault) : Failure :=
  (Failure.ofError (.config fault)).within ("Failed to load config " ++ path)

/-- The end of a program that is stopped by its arguments. -/
def stopped (s : Start) : Stop → Finish
  | .help => s.stopAt 0 "" ""
  | .version => s.stopAt 0 (programInfo.name ++ " " ++ programInfo.version ++ "\n") ""
  | .misuse => s.stopAt 2 "" ""

/-- What there is to do and where, or the end of a program that does not come to it. -/
def prepare (s : Start) : Except Finish (Invocation × Workplace) :=
  match Invocation.read (s.vars.find? configVariable) s.arguments with
  | .error stop => .error (s.stopped stop)
  | .ok i =>
    match ProjectConfig.load s.disk s.cwd i.config with
    | .error fault => .error (s.stopAt 1 "" (configFailure i.config fault).report)
    | .ok c => .ok (i, .ofConfig s c)

/-- Do the command of an invocation that does not serve. -/
def perform (s : Start) (p : Workplace) : Option Action → Finish
  | none => .ofWorld "" (some noCommand) s.world
  | some action => .ofPrinted (p.perform s.world action)

/-- The whole program. -/
def run (s : Start) : Finish :=
  match s.prepare with
  | .error f => f
  | .ok (i, p) =>
    if i.serve then .ofServed (p.serveInput s.input s.world) else s.perform p i.action

end Start

end Orchestration.CommandLine
