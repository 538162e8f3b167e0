import Orchestration.Project.Stage
import Orchestration.Project.Teardown

/-!
# Deleting test environments

The engines of an environment's stage are called in the reverse of the order in which they set
it up, and what the environment holds is released, newest first.  No failure stops this; the
report lists them all, and the record goes at the end:

* `StageOrchestrator.teardownCalls` — the calls that a setup needs, with their names in reports;
* `StageOrchestrator.runTeardown` — making them;
* `StageOrchestrator.release` — removing one resource, if it is an absolute path;
* `StageOrchestrator.delete` — the whole.
-/

namespace Orchestration

variable {σ : Type}

namespace StageOrchestrator

/-! ### Engines -/

/-- A call that takes part of an environment down. -/
structure TeardownCall where
  /-- The name of the step in the report. -/
  step : String
  engine : EngineReference
  arguments : Document

/-- The arguments of a chain's call that takes an environment down. -/
def deleteArguments (e : TestEnvironment) (entry : ChainEntry) : Document :=
  arguments <| [("testID", .str e.id), ("stage", .str e.stage),
    ("metadata", Json.ofStringMap e.metadata)] ++ specMember entry

/-- The arguments of a single engine's call that takes an environment down. -/
def directDeleteArguments (e : TestEnvironment) (engine : EngineReference) : Document :=
  arguments <| [("stage", .str e.stage), ("testID", .str e.id)] ++
    if isLightweight engine then [] else [("metadata", Json.ofStringMap e.metadata)]

/-- The calls for the entries of a chain, the first of which has the given index, last one
first. -/
def chainTeardownCalls (e : TestEnvironment) : Nat → List ChainEntry → List TeardownCall
  | _, [] => []
  | index, entry :: rest =>
    chainTeardownCalls e (index + 1) rest ++
      [⟨"delete " ++ entry.engine.display ++ " (step " ++ toString index ++ ")", entry.engine,
        deleteArguments e entry⟩]

/-- The calls that take an environment down. -/
def teardownCalls (setup : Setup) (e : TestEnvironment) : List TeardownCall :=
  match setup with
  | .bare => []
  | .direct engine => [⟨"delete " ++ engine.display, engine, directDeleteArguments e engine⟩]
  | .chain entries => chainTeardownCalls e 0 entries

theorem chainTeardownCalls_length (e : TestEnvironment) (entries : List ChainEntry) :
    ∀ index, (chainTeardownCalls e index entries).length = entries.length := by
  induction entries with
  | nil => intro index; rfl
  | cons entry rest ih => intro index; simp [chainTeardownCalls, ih]

/-- Make calls in order, noting how each went. -/
def runTeardown (sv : Services σ) :
    List TeardownCall → TeardownReport → World σ → TeardownReport × World σ
  | [], report, w => (report, w)
  | call :: rest, report, w =>
    match sv.call call.engine "delete" call.arguments w with
    | (.ok _, w) => runTeardown sv rest (report.record call.step .done) w
    | (.error e, w) => runTeardown sv rest (report.record call.step (.failed e.message)) w

/-! ### Resources -/

/-- How the removal of a resource went. -/
def releaseStatus : Except SystemFault Unit → StepStatus
  | .ok () => .done
  | .error f => if f.isMissing then .skipped "already removed" else .failed f.message

/-- Remove whatever lies at a path. -/
def removeAny (path : String) (w : World σ) : Except SystemFault Unit × World σ :=
  match w.disk.kind? w.cwd path with
  | .error f => (.error f, w)
  | .ok .directory => w.removeDir path
  | .ok (.file ..) => w.removeFile path

/-- Release a resource: an absolute path is removed, anything else belongs to an engine. -/
def release (resource : String) (w : World σ) : StepStatus × World σ :=
  if isAbsolutePath resource then
    let (r, w) := removeAny resource w
    (releaseStatus r, w)
  else (.skipped "not a filesystem path", w)

/-- Release resources in order, noting how each went. -/
def releaseAll : List String → TeardownReport → World σ → TeardownReport × World σ
  | [], report, w => (report, w)
  | resource :: rest, report, w =>
    let (status, w) := release resource w
    releaseAll rest (report.record ("release " ++ resource) status) w

/-! ### The whole -/

/-- Take down what engines set up for an environment. -/
def takeDown (o : StageOrchestrator) (sv : Services σ) (e : TestEnvironment) (w : World σ) :
    TeardownReport × World σ :=
  match o.setupOf e.stage with
  | .ok setup => runTeardown sv (teardownCalls setup e) (.empty e.id) w
  | .error err =>
    ((TeardownReport.empty e.id).record ("resolve testenv for stage " ++ e.stage)
      (.failed err.message), w)

/-- Delete a recorded environment. -/
def deleteEnvironment (o : StageOrchestrator) (sv : Services σ) (e : TestEnvironment)
    (w : World σ) : Except OrchestratorError TeardownReport × World σ :=
  let (report, w) := o.takeDown sv e w
  let (report, w) := releaseAll e.managedResources.reverse report w
  match sv.perform (.remove e.id) w with
  | (.error err, w) => (.error err, w)
  | (.ok _, w) => (.ok report, w)

/-- Delete the environment of an identifier. -/
def delete (o : StageOrchestrator) (sv : Services σ) (id : String) (w : World σ) :
    Except OrchestratorError TeardownReport × World σ :=
  if blankText id then (.error (.invalidArgument "test ID is empty"), w)
  else match sv.perform (.get id) w with
    | (.error e, w) => (.error e, w)
    | (.ok e, w) => o.deleteEnvironment sv e w

end StageOrchestrator

end Orchestration
