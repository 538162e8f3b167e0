import Orchestration.Engine.Resolver
import Orchestration.Engine.Session
import Orchestration.Project.Serve
import Orchestration.Project.World
import Orchestration.Store.File

/-!
# The engines and the store of a project

* `Resolver.discover` — a resolver for the repository that the working directory lies in;
* `callReference` — a call of the engine that a reference leads to;
* `ProjectConfig.services` — the services that a configuration describes.
-/

namespace Orchestration

variable {σ : Type}

/-! ### The repository -/

/-- How long the program that knows the repository is waited for, in milliseconds. -/
def discoveryPatience : Nat := 600000

/-- The command that prints the root of the repository. -/
def repositoryCommand : LaunchCommand := .ofProgram "git" ["rev-parse", "--show-toplevel"]

/-- The root that a program has printed. -/
def repositoryRoot (status : Nat) (printed : RawText) : Option String :=
  let root := trim (RawText.lossy printed)
  if status = 0 && !root.isEmpty then some root else none

/-- A resolver for the repository that the working directory lies in, and what is on the disk
after the search. -/
def Resolver.discover (s : Surroundings) (systemTmp : String) : Resolver × Disk :=
  let installRoot :=
    defaultInstallRoot (s.vars.find? "XDG_CACHE_HOME") (s.vars.find? "HOME") systemTmp
  match runProgram s repositoryCommand discoveryPatience with
  | .error _ => (.fresh none installRoot, s.disk)
  | .ok (status, printed, disk) =>
    ((Resolver.fresh (repositoryRoot status printed) installRoot).withModule disk s.cwd, disk)

/-! ### Calls -/

/-- A call of the engine that a reference leads to. -/
def callReference (c : ClientConfig) (vars : KeyMap String) (reference : EngineReference)
    (tool : String) (arguments : Document) (w : World Resolver) :
    Except OrchestratorError ToolResult × World Resolver :=
  match w.state.resolve reference w.disk w.cwd with
  | (.error e, state) => (.error (.ofResolve e), { w with state })
  | (.ok launch, state) =>
    let r := callEngine c ⟨vars, w.cwd, w.disk⟩ launch tool arguments
    (r.outcome.mapError .ofRpc, { w with state, disk := r.disk })

namespace ProjectConfig

/-- The limits of calls. -/
def client (c : ProjectConfig) : ClientConfig :=
  ⟨c.engineTimeoutSecs * 1000, c.handshakeTimeoutSecs * 1000, programInfo.name⟩

/-- The store in its file, and engines as programs. -/
def services (c : ProjectConfig) (vars : KeyMap String) : Services Resolver where
  store op now w :=
    let (r, disk) := FileStore.perform ⟨c.storePath⟩ op now w.cwd w.disk
    (r, { w with disk })
  engine := callReference c.client vars

end ProjectConfig

end Orchestration
