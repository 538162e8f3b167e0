import Orchestration.Project.Stage
import Orchestration.Project.TestId

/-!
# Creating test environments

An environment has an identifier that no recorded one has, a directory of its own, and whatever
the engines of its stage set up.  It is recorded when all of that is there; when a step fails,
its directory is removed and nothing is recorded:

* `SetupOutput` — what an engine's result adds to an environment;
* `StageOrchestrator.freshId` — an identifier that is not taken, in at most three attempts;
* `StageOrchestrator.runChain` — the calls of a chain, each told the metadata of those before;
* `StageOrchestrator.create` — the whole.
-/

namespace Orchestration

variable {σ : Type}

/-! ### What an engine adds -/

/-- What a result adds to an environment. -/
structure SetupOutput where
  files : KeyMap String
  metadata : KeyMap String
  resources : List String

namespace SetupOutput

/-- What the structured output of a result says; anything unreadable counts as absent. -/
def ofResult (r : ToolResult) : SetupOutput :=
  let d := (r.structured.bind Document.ofJson?).getD .empty
  ⟨(Document.stringMap? d "files").getD .empty, (Document.stringMap? d "metadata").getD .empty,
    (Document.stringList? d "managedResources").getD []⟩

/-- The environment with the output added to it. -/
def applyTo (now : Timestamp) (output : SetupOutput) (e : TestEnvironment) : TestEnvironment :=
  let e := { e with
    files := e.files.union output.files
    metadata := e.metadata.union output.metadata }
  { output.resources.foldl TestEnvironment.addResource e with updatedAt := now }

end SetupOutput

namespace StageOrchestrator

/-! ### Identifiers -/

/-- How often an identifier is tried. -/
def maxIdAttempts : Nat := 3

/-- An identifier that is not taken, in a number of attempts. -/
def freshIdIn (sv : Services σ) (stage : String) :
    Nat → World σ → Except OrchestratorError String × World σ
  | 0, w =>
    (.error (.persistence ("no unused test ID for stage " ++ stage ++ " after " ++
      toString maxIdAttempts ++ " attempts")), w)
  | attempts + 1, w =>
    let (now, w) := w.now
    let (bits, w) := w.drawBits
    let id := testId stage now bits
    match sv.perform (.contains id) w with
    | (.error e, w) => (.error e, w)
    | (.ok true, w) => freshIdIn sv stage attempts w
    | (.ok false, w) => (.ok id, w)

/-- An identifier that is not taken. -/
def freshId (sv : Services σ) (stage : String) (w : World σ) :
    Except OrchestratorError String × World σ :=
  freshIdIn sv stage maxIdAttempts w

/-! ### Setting up -/

/-- The arguments of a chain's call that makes an environment. -/
def createArguments (e : TestEnvironment) (metadata : KeyMap String) (entry : ChainEntry) :
    Document :=
  arguments <| [("testID", .str e.id), ("stage", .str e.stage), ("tmpDir", .str e.tmpDir),
    ("metadata", Json.ofStringMap metadata)] ++ specMember entry

/-- The arguments of a single engine's call that makes an environment. -/
def directCreateArguments (e : TestEnvironment) (engine : EngineReference) : Document :=
  arguments <| [("stage", .str e.stage)] ++
    if isLightweight engine then [] else [("testID", .str e.id), ("tmpDir", .str e.tmpDir)]

/-- Call the engines of a chain in order; `index` is that of the first, `metadata` what those
before it returned. -/
def runChain (sv : Services σ) :
    Nat → KeyMap String → List ChainEntry → TestEnvironment → World σ →
      Except OrchestratorError TestEnvironment × World σ
  | _, _, [], e, w => (.ok e, w)
  | index, metadata, entry :: rest, e, w =>
    match sv.call entry.engine "create" (createArguments e metadata entry) w with
    | (.error err, w) => (.error (.ofStep index entry.engine err), w)
    | (.ok result, w) =>
      let output := SetupOutput.ofResult result
      let (now, w) := w.now
      runChain sv (index + 1) (metadata.union output.metadata) rest (output.applyTo now e) w

/-- Set up an environment. -/
def runSetup (sv : Services σ) (setup : Setup) (e : TestEnvironment) (w : World σ) :
    Except OrchestratorError TestEnvironment × World σ :=
  match setup with
  | .bare => (.ok e, w)
  | .direct engine =>
    match sv.call engine "create" (directCreateArguments e engine) w with
    | (.error err, w) => (.error (.ofStep 0 engine err), w)
    | (.ok result, w) =>
      let (now, w) := w.now
      (.ok ((SetupOutput.ofResult result).applyTo now e), w)
  | .chain entries => runChain sv 0 .empty entries e w

/-! ### The whole -/

/-- Remove the directory of an environment that did not come to be. -/
def discard (tmpDir : String) (w : World σ) : World σ := (w.removeDir tmpDir).2

/-- Create an environment with a given identifier. -/
def createWithId (o : StageOrchestrator) (sv : Services σ) (stage : String) (setup : Setup)
    (id : String) (w : World σ) : Except OrchestratorError TestEnvironment × World σ :=
  let tmpDir := joinPath o.tmpRoot id
  match w.makeDirs tmpDir with
  | (.error f, w) => (.error (.io f), w)
  | (.ok (), w) =>
    let (now, w) := w.now
    let e := (TestEnvironment.fresh now id stage tmpDir).addResource tmpDir
    match runSetup sv setup e w with
    | (.error err, w) => (.error err, discard tmpDir w)
    | (.ok e, w) =>
      let (now, w) := w.now
      match sv.store (.insert e) now w with
      | (.error err, w) => (.error (.persistence err.message), discard tmpDir w)
      | (.ok (), w) => (.ok e, w)

/-- Create an environment for a stage. -/
def create (o : StageOrchestrator) (sv : Services σ) (stage : String) (w : World σ) :
    Except OrchestratorError TestEnvironment × World σ :=
  match o.setupOf stage with
  | .error e => (.error e, w)
  | .ok setup =>
    match freshId sv stage w with
    | (.error e, w) => (.error e, w)
    | (.ok id, w) => o.createWithId sv stage setup id w

end StageOrchestrator

end Orchestration
