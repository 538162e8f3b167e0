import Orchestration.Project.Config
import Orchestration.Project.World

/-!
# Stages and how their environments are set up

* `Setup` — nothing, one engine, or a chain of engines;
* `StageOrchestrator` — what work on test environments needs of a configuration;
* `StageOrchestrator.setupOf` — the setup of a stage;
* `StageOrchestrator.recordOutcome`, `list` — the operations that concern records alone.
-/

namespace Orchestration

variable {σ : Type}

/-- How the environments of a stage are set up. -/
inductive Setup where
  | bare
  | direct (engine : EngineReference)
  | chain (entries : List ChainEntry)

/-- What work on test environments needs of a configuration. -/
structure StageOrchestrator where
  stages : KeyMap StageConfig
  aliases : AliasRegistry
  tmpRoot : String

namespace StageOrchestrator

/-- The work that a configuration describes. -/
def ofConfig (systemTmp : String) (c : ProjectConfig) : StageOrchestrator :=
  ⟨c.stages, c.aliases, c.tmpPath systemTmp⟩

/-- The stage of a name. -/
def stage (o : StageOrchestrator) (name : String) : Except OrchestratorError StageConfig :=
  if blankText name then .error (.notFound "test stage name is empty")
  else match o.stages.find? name with
    | some s => .ok s
    | none => .error (.notFound ("test stage " ++ name))

/-- The setup that a stage is configured with. -/
def setup (o : StageOrchestrator) (s : StageConfig) : Except OrchestratorError Setup :=
  match s.testenv with
  | none => .ok .bare
  | some (.chain name) =>
    match o.aliases.lookup name .testenv with
    | .ok entries => .ok (.chain entries)
    | .error e => .error (.ofResolve e)
  | some engine => .ok (.direct engine)

/-- The setup of the stage of a name. -/
def setupOf (o : StageOrchestrator) (name : String) : Except OrchestratorError Setup :=
  (o.stage name).bind o.setup

/-- The engine that is told no more than what it reports on. -/
def reportEngine : String := "test-report"

/-- Whether an engine only reports. -/
def isLightweight (engine : EngineReference) : Bool := engine.shortName == reportEngine

/-- A document with the given members. -/
def arguments (members : List (String × Json)) : Document := KeyMap.ofList members

/-- The parameters of a chain's entry, as a member of a call's arguments. -/
def specMember (entry : ChainEntry) : List (String × Json) :=
  match entry.spec with
  | some spec => [("spec", Document.toJson spec)]
  | none => []

/-- Record whether the tests of an environment passed. -/
def recordOutcome (sv : Services σ) (id : String) (passed : Bool) (w : World σ) :
    Except OrchestratorError TestEnvironment × World σ :=
  if blankText id then (.error (.invalidArgument "test ID is empty"), w)
  else sv.perform (.setStatus id (if passed then .passed else .failed)) w

/-- The recorded environments, of a stage or all of them. -/
def list (sv : Services σ) (stage : Option String) (w : World σ) :
    Except OrchestratorError (List TestEnvironment) × World σ :=
  sv.perform (.list stage) w

end StageOrchestrator

end Orchestration
