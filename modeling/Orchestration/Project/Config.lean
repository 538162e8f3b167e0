import Orchestration.Disk.Path
import Orchestration.Engine.Alias
import Orchestration.Project.Error
import Orchestration.Text.Blank

/-!
# The configuration of a project

* `BuildSpec`, `StageConfig`, `ProjectConfig` — what is configured;
* `ProjectConfig.validate` — the rules between the parts of a configuration;
* `ProjectConfig.Valid` — the same rules as a statement;
* `ProjectConfig.resolvePath` and its companions — configured paths seen from the project's
  directory.
-/

namespace Orchestration

variable {τ : Type} [Source τ]

/-! ### Builds and stages -/

/-- Something to build. -/
structure BuildSpec where
  name : String
  src : String
  dest : String
  engine : EngineReference
  /-- Parameters for the engine alone. -/
  spec : Document
  deriving Inhabited

namespace BuildSpec

/-- Read a build. -/
def read (v : τ) : Decoded BuildSpec :=
  (readRecord "BuildSpec"
    (.required "name" readText <| .required "src" readText <| .required "dest" readText <|
      .required "engine" EngineReference.read <| .defaulted "spec" Document.read .empty .nil) v).map
  fun (name, src, dest, engine, spec, _) => ⟨name, src, dest, engine, spec⟩

/-- The members of a build. -/
def members (b : BuildSpec) : List (String × Json) :=
  [("name", .str b.name), ("src", .str b.src), ("dest", .str b.dest),
    ("engine", .str b.engine.display)]
    ++ if b.spec.isEmpty then [] else [("spec", Document.toJson b.spec)]

/-- A build as a value. -/
def toJson (b : BuildSpec) : Json := .obj b.members

end BuildSpec

/-- A stage of tests, with what sets up its environments. -/
structure StageConfig where
  name : String
  testenv : Option EngineReference
  deriving DecidableEq, Inhabited

namespace StageConfig

/-- Read a stage. -/
def read (v : τ) : Decoded StageConfig :=
  (readRecord "TestStageConfig"
    (.required "name" readText <| .optional "testenv" EngineReference.read .nil) v).map
  fun (name, testenv, _) => ⟨name, testenv⟩

/-- A stage as a value. -/
def toJson (c : StageConfig) : Json :=
  .obj <| [("name", .str c.name)]
    ++ (c.testenv.map fun r => ("testenv", Json.str r.display)).toList

end StageConfig

/-! ### Projects -/

/-- The configuration file that is read when none is named. -/
def defaultConfigFile : String := "stagehand.yaml"

/-- A whole configuration. -/
structure ProjectConfig where
  name : String
  artifactStorePath : String
  tmpRoot : Option String
  buildDir : String
  engineTimeoutSecs : Nat
  handshakeTimeoutSecs : Nat
  build : List BuildSpec
  test : List StageConfig
  engines : List AliasDefinition
  /-- The directory that relative paths start from. -/
  rootDir : String
  deriving Inhabited

namespace ProjectConfig

/-- Read a configuration that lies in a directory. -/
def read (rootDir : String) (v : τ) : Decoded ProjectConfig :=
  (readRecord "ProjectConfig"
    (.required "name" readText <|
      .defaulted "artifactStorePath" readPath ".stagehand/artifacts.json" <|
      .optional "tmpRoot" readPath <| .defaulted "buildDir" readPath "build" <|
      .defaulted "engineTimeoutSecs" Source.nat64 600 <|
      .defaulted "handshakeTimeoutSecs" Source.nat64 30 <|
      .defaulted "build" (Source.list BuildSpec.read) [] <|
      .defaulted "test" (Source.list StageConfig.read) [] <|
      .defaulted "engines" (Source.list AliasDefinition.read) [] .nil) v).map
  fun (name, store, tmpRoot, buildDir, engineTimeout, handshakeTimeout, build, test, engines, _) =>
    ⟨name, store, tmpRoot, buildDir, engineTimeout, handshakeTimeout, build, test, engines, rootDir⟩

/-- A configuration as a value. -/
def toJson (c : ProjectConfig) : Json :=
  .obj <| [("name", .str c.name), ("artifactStorePath", .str c.artifactStorePath)]
    ++ (c.tmpRoot.map fun p => ("tmpRoot", Json.str p)).toList
    ++ [("buildDir", .str c.buildDir), ("engineTimeoutSecs", Json.ofNat c.engineTimeoutSecs),
      ("handshakeTimeoutSecs", Json.ofNat c.handshakeTimeoutSecs),
      ("build", .arr (c.build.map BuildSpec.toJson)),
      ("test", .arr (c.test.map StageConfig.toJson)),
      ("engines", .arr (c.engines.map AliasDefinition.toJson))]

/-! ### Validation -/

/-- The rules of aliases, given the names of those before. -/
def checkEngines (seen : List String) : List AliasDefinition → Except ConfigFault Unit
  | [] => .ok ()
  | d :: rest =>
    if blankText d.name then .error .emptyAlias
    else if seen.contains d.name then .error (.duplicateAlias d.name)
    else if d.chain.isEmpty then .error (.emptyChain d.name d.role)
    else checkEngines (d.name :: seen) rest

/-- The rules of stages, given the names of those before. -/
def checkStages (seen : List String) : List StageConfig → Except ConfigFault Unit
  | [] => .ok ()
  | c :: rest =>
    if blankText c.name then .error .emptyStage
    else if seen.contains c.name then .error (.duplicateStage c.name)
    else checkStages (c.name :: seen) rest

/-- The rules of a configuration, the first broken one being the fault. -/
def validate (c : ProjectConfig) : Except ConfigFault Unit :=
  if c.engineTimeoutSecs = 0 then .error .zeroEngineTimeout
  else if c.handshakeTimeoutSecs = 0 then .error .zeroHandshakeTimeout
  else do
    checkEngines [] c.engines
    checkStages [] c.test

/-- What a configuration promises to those who use it. -/
structure Valid (c : ProjectConfig) : Prop where
  engineTimeout : 0 < c.engineTimeoutSecs
  handshakeTimeout : 0 < c.handshakeTimeoutSecs
  aliasNamed : ∀ d ∈ c.engines, blankText d.name = false
  aliasOnce : (c.engines.map AliasDefinition.name).Nodup
  aliasChain : ∀ d ∈ c.engines, d.chain ≠ []
  stageNamed : ∀ s ∈ c.test, blankText s.name = false
  stageOnce : (c.test.map StageConfig.name).Nodup

/-! ### Paths and tables -/

/-- A configured path seen from the project's directory. -/
def resolvePath (c : ProjectConfig) (path : String) : String :=
  if isAbsolutePath path then path else joinPath c.rootDir path

/-- The file of the store. -/
def storePath (c : ProjectConfig) : String := c.resolvePath c.artifactStorePath

/-- The directory of builds. -/
def buildPath (c : ProjectConfig) : String := c.resolvePath c.buildDir

/-- The directory in which every environment has its own; by default below the system's
directory for temporary files. -/
def tmpPath (systemTmp : String) (c : ProjectConfig) : String :=
  match c.tmpRoot with
  | some path => c.resolvePath path
  | none => joinPath systemTmp "stagehand"

/-- The aliases of the project. -/
def aliases (c : ProjectConfig) : AliasRegistry := .ofDefinitions c.engines

/-- The stages of the project by name. -/
def stages (c : ProjectConfig) : KeyMap StageConfig :=
  KeyMap.ofList (c.test.map fun s => (s.name, s))

end ProjectConfig

end Orchestration
