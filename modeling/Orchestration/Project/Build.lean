import Orchestration.Project.Config
import Orchestration.Project.World

/-!
# Builds

A build runs a chain of builders over specifications, one call a builder, and stops at the first
failure:

* `SharedDirs`, `BuildSpec.prepare` — what every builder is told;
* `parseArtifacts` — the artifacts in a builder's result: one, a list, or an object around either;
* `runBuilders`, `orchestrate` — the calls of a chain;
* `groupByEngine` — specifications by engine, in the order in which engines first appear;
* `BuildCoordinator.build` — the configured builds, recorded all at once or not at all.
-/

namespace Orchestration

variable {σ : Type}

/-! ### Preparing a call -/

/-- The directories that every builder is told. -/
structure SharedDirs where
  rootDir : String
  buildDir : String
  tmpDir : String
  deriving DecidableEq, Inhabited

/-- The directories of a project. -/
def SharedDirs.ofConfig (systemTmp : String) (c : ProjectConfig) : SharedDirs :=
  ⟨c.rootDir, c.buildPath, c.tmpPath systemTmp⟩

/-- A specification as a builder receives it: the builder's own parameters win over the
specification's, and nothing wins over names and directories. -/
def BuildSpec.prepare (b : BuildSpec) (builder : ChainEntry) (dirs : SharedDirs) : Document :=
  let b := match builder.spec with
    | some overrides => { b with spec := b.spec.union overrides }
    | none => b
  (((KeyMap.ofList b.members).insert "rootDir" (.str dirs.rootDir)).insert
    "buildDir" (.str dirs.buildDir)).insert "tmpDir" (.str dirs.tmpDir)

/-- The tool and the arguments of a builder's call: one specification is built by itself, more
are built as a batch. -/
def builderCall (specs : List BuildSpec) (builder : ChainEntry) (dirs : SharedDirs) :
    String × Document :=
  match specs.map fun b => b.prepare builder dirs with
  | [one] => ("build", one)
  | prepared => ("buildBatch", KeyMap.ofList [("specs", .arr (prepared.map Document.toJson))])

/-! ### Reading a result -/

/-- Read items as artifacts, one after the other. -/
def readArtifacts (now : Timestamp) : List Json → Decoded (List Artifact)
  | [] => .ok []
  | v :: rest => do
    let a ← decodeValue (Artifact.read now) v
    let as ← readArtifacts now rest
    return a :: as

/-- The value in which a builder describes its artifacts: its structured output, or else its
text. -/
def artifactData (r : ToolResult) : Except OrchestratorError Json :=
  match r.structured with
  | some v => .ok v
  | none => (Json.parse (RawText.ofString r.text)).mapError fun _ =>
    .protocol "builder returned no artifact data"

/-- A value without the object that may be around its artifacts. -/
def unwrapArtifacts (v : Json) : Json := (v.member? "artifacts").getD v

/-- The artifacts in a builder's result. -/
def parseArtifacts (now : Timestamp) (r : ToolResult) :
    Except OrchestratorError (List Artifact) := do
  let refuse (e : DecodeError) : OrchestratorError :=
    .protocol ("malformed artifact: " ++ e.message)
  match unwrapArtifacts (← artifactData r) with
  | .arr items => (readArtifacts now items).mapError refuse
  | .obj members => (readArtifacts now [.obj members]).mapError refuse
  | other => throw (.protocol ("expected artifact object or array, got " ++ other.compact))

/-! ### Running builders -/

/-- Run builders in order, each over all specifications; `index` is that of the first. -/
def runBuilders (sv : Services σ) (specs : List BuildSpec) (dirs : SharedDirs) :
    Nat → List ChainEntry → World σ → Except OrchestratorError (List Artifact) × World σ
  | _, [], w => (.ok [], w)
  | index, builder :: rest, w =>
    let (tool, arguments) := builderCall specs builder dirs
    match sv.call builder.engine tool arguments w with
    | (.error e, w) => (.error (.ofStep index builder.engine e), w)
    | (.ok result, w) =>
      let (now, w) := w.now
      match parseArtifacts now result with
      | .error e => (.error (.ofStep index builder.engine e), w)
      | .ok produced =>
        match runBuilders sv specs dirs (index + 1) rest w with
        | (.error e, w) => (.error e, w)
        | (.ok more, w) => (.ok (produced ++ more), w)

/-- Run a chain of builders over specifications. -/
def orchestrate (sv : Services σ) (builders : List ChainEntry) (specs : List BuildSpec)
    (dirs : SharedDirs) (w : World σ) : Except OrchestratorError (List Artifact) × World σ :=
  if builders.isEmpty then (.error (.invalidArgument "at least one builder is required"), w)
  else if specs.isEmpty then
    (.error (.invalidArgument "at least one build spec is required"), w)
  else runBuilders sv specs dirs 0 builders w

/-! ### Groups -/

/-- Add a specification to the group of its engine, or start that group at the end. -/
def addToGroups (b : BuildSpec) :
    List (EngineReference × List BuildSpec) → List (EngineReference × List BuildSpec)
  | [] => [(b.engine, [b])]
  | (engine, members) :: rest =>
    if engine = b.engine then (engine, members ++ [b]) :: rest
    else (engine, members) :: addToGroups b rest

/-- Specifications by engine. -/
def groupByEngine (specs : List BuildSpec) : List (EngineReference × List BuildSpec) :=
  specs.foldl (fun groups b => addToGroups b groups) []

/-! ### The configured builds -/

/-- What the builds of a project need. -/
structure BuildCoordinator where
  specs : List BuildSpec
  aliases : AliasRegistry
  dirs : SharedDirs

namespace BuildCoordinator

/-- The builds of a configuration. -/
def ofConfig (systemTmp : String) (c : ProjectConfig) : BuildCoordinator :=
  ⟨c.build, c.aliases, .ofConfig systemTmp c⟩

/-- The specifications to build: all of them, or the one of a name. -/
def select (bc : BuildCoordinator) (only : Option String) :
    Except OrchestratorError (List BuildSpec) :=
  match only with
  | some name =>
    match bc.specs.find? fun b => b.name == name with
    | some b => .ok [b]
    | none => .error (.notFound ("build spec " ++ name))
  | none =>
    if bc.specs.isEmpty then .error (.invalidArgument "no build specs configured")
    else .ok bc.specs

/-- The builders that an engine reference stands for. -/
def builders (bc : BuildCoordinator) (engine : EngineReference) :
    Except OrchestratorError (List ChainEntry) :=
  match engine with
  | .chain name => (bc.aliases.lookup name .builder).mapError .ofResolve
  | engine => .ok [⟨engine, none⟩]

/-- Build groups in order. -/
def buildGroups (sv : Services σ) (bc : BuildCoordinator) :
    List (EngineReference × List BuildSpec) → World σ →
      Except OrchestratorError (List Artifact) × World σ
  | [], w => (.ok [], w)
  | (engine, specs) :: rest, w =>
    match bc.builders engine with
    | .error e => (.error e, w)
    | .ok chain =>
      match orchestrate sv chain specs bc.dirs w with
      | (.error e, w) => (.error e, w)
      | (.ok produced, w) =>
        match buildGroups sv bc rest w with
        | (.error e, w) => (.error e, w)
        | (.ok more, w) => (.ok (produced ++ more), w)

/-- Build, and record the artifacts when everything has been built. -/
def build (sv : Services σ) (bc : BuildCoordinator) (only : Option String) (w : World σ) :
    Except OrchestratorError (List Artifact) × World σ :=
  match bc.select only with
  | .error e => (.error e, w)
  | .ok specs =>
    match bc.buildGroups sv (groupByEngine specs) w with
    | (.error e, w) => (.error e, w)
    | (.ok artifacts, w) =>
      match sv.perform (.append artifacts) w with
      | (.error e, w) => (.error e, w)
      | (.ok (), w) => (.ok artifacts, w)

end BuildCoordinator

end Orchestration
