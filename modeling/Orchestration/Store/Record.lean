import Orchestration.Document
import Orchestration.Timestamp

/-!
# What the project records

* `TestStatus` — the outcome of tests: it is set once;
* `Artifact`, `TestEnvironment`, `TestReport` — the records;
* `TestEnvironment.addResource` — a resource is listed once, at its first occurrence;
* `StoreDocument` — all records of a project, as one file holds them.

Every record is read from any source, and written with its members in a fixed order.
-/

namespace Orchestration

variable {τ : Type} [Source τ]

/-- Read an instant. -/
def Timestamp.read (v : τ) : Decoded Timestamp := do
  let s ← Source.text "an RFC 3339 formatted date and time string" v
  match Timestamp.parse s with
  | .ok t => return t
  | .error e => throw (DecodeFault.rejected e.message).anywhere

/-- Read any string. -/
def readText (v : τ) : Decoded String := Source.text "a string" v

/-- Read a path. -/
def readPath (v : τ) : Decoded String := Source.text "path string" v

/-! ### Status -/

/-- Where the tests of an environment stand. -/
inductive TestStatus where
  | created
  | passed
  | failed
  deriving DecidableEq, Repr, Inhabited

namespace TestStatus

/-- The name of a status. -/
def name : TestStatus → String
  | .created => "created"
  | .passed => "passed"
  | .failed => "failed"

/-- The statuses, in the order in which messages list them. -/
def all : List TestStatus := [.created, .passed, .failed]

/-- The status of a name. -/
def ofName? (name : String) : Option TestStatus := all.find? fun s => s.name == name

theorem ofName?_name (s : TestStatus) : ofName? s.name = some s := by
  cases s <;> decide

/-- Whether a status may follow another: only an outcome may follow, and only once. -/
def canBecome : TestStatus → TestStatus → Bool
  | .created, .passed | .created, .failed => true
  | _, _ => false

/-- Read a status from its name. -/
def read (v : τ) : Decoded TestStatus := do
  let name ← Source.variant (all.map TestStatus.name) v
  return (ofName? name).getD .created

end TestStatus

/-! ### Artifacts -/

/-- A build output. -/
structure Artifact where
  name : String
  kind : String
  location : String
  timestamp : Timestamp
  version : Option String
  deriving DecidableEq, Inhabited

namespace Artifact

/-- Read an artifact; one without a timestamp is as of `now`. -/
def read (now : Timestamp) (v : τ) : Decoded Artifact :=
  (readRecord "Artifact"
    (.required "name" readText <| .required "type" readText <|
      .required "location" readText <| .defaulted "timestamp" Timestamp.read now <|
      .optional "version" readText .nil) v).map
  fun (name, kind, location, timestamp, version, _) =>
    ⟨name, kind, location, timestamp, version⟩

/-- An artifact as a value. -/
def toJson (a : Artifact) : Json :=
  .obj <| [("name", .str a.name), ("type", .str a.kind), ("location", .str a.location),
      ("timestamp", .str a.timestamp.text)]
    ++ (a.version.map fun v => ("version", Json.str v)).toList

end Artifact

/-! ### Test environments -/

/-- A test environment of one stage. -/
structure TestEnvironment where
  id : String
  stage : String
  status : TestStatus
  createdAt : Timestamp
  updatedAt : Timestamp
  tmpDir : String
  files : KeyMap String
  metadata : KeyMap String
  /-- What is released when the environment is deleted, in the order of acquisition. -/
  managedResources : List String
  deriving DecidableEq, Inhabited

namespace TestEnvironment

/-- A new environment. -/
def fresh (now : Timestamp) (id stage tmpDir : String) : TestEnvironment :=
  ⟨id, stage, .created, now, now, tmpDir, .empty, .empty, []⟩

/-- List a resource, unless it is listed already. -/
def addResource (e : TestEnvironment) (resource : String) : TestEnvironment :=
  if e.managedResources.contains resource then e
  else { e with managedResources := e.managedResources ++ [resource] }

/-- Read an environment. -/
def read (v : τ) : Decoded TestEnvironment :=
  (readRecord "TestEnvironment"
    (.required "id" readText <| .required "name" readText <|
      .required "status" TestStatus.read <| .required "createdAt" Timestamp.read <|
      .required "updatedAt" Timestamp.read <| .required "tmpDir" readPath <|
      .defaulted "files" (readMap readText) .empty <|
      .defaulted "metadata" (readMap readText) .empty <|
      .defaulted "managedResources" (Source.list readText) [] .nil) v).map
  fun (id, stage, status, createdAt, updatedAt, tmpDir, files, metadata, resources, _) =>
    ⟨id, stage, status, createdAt, updatedAt, tmpDir, files, metadata, resources⟩

/-- An environment as a value. -/
def toJson (e : TestEnvironment) : Json :=
  .obj [("id", .str e.id), ("name", .str e.stage), ("status", .str e.status.name),
    ("createdAt", .str e.createdAt.text), ("updatedAt", .str e.updatedAt.text),
    ("tmpDir", .str e.tmpDir), ("files", Json.ofStringMap e.files),
    ("metadata", Json.ofStringMap e.metadata),
    ("managedResources", Json.ofStrings e.managedResources)]

end TestEnvironment

/-! ### Test reports -/

/-- The outcome of one run of tests. -/
structure TestReport where
  id : String
  stage : String
  status : TestStatus
  startedAt : Timestamp
  finishedAt : Option Timestamp
  testEnvId : Option String
  total : Nat
  passed : Nat
  failed : Nat
  deriving DecidableEq, Inhabited

namespace TestReport

/-- Read a report. -/
def read (v : τ) : Decoded TestReport :=
  (readRecord "TestReport"
    (.required "id" readText <| .required "stage" readText <|
      .required "status" TestStatus.read <| .required "startedAt" Timestamp.read <|
      .optional "finishedAt" Timestamp.read <| .optional "testEnvId" readText <|
      .defaulted "total" Source.nat64 0 <| .defaulted "passed" Source.nat64 0 <|
      .defaulted "failed" Source.nat64 0 .nil) v).map
  fun (id, stage, status, startedAt, finishedAt, testEnvId, total, passed, failed, _) =>
    ⟨id, stage, status, startedAt, finishedAt, testEnvId, total, passed, failed⟩

/-- A report as a value. -/
def toJson (r : TestReport) : Json :=
  .obj <| [("id", .str r.id), ("stage", .str r.stage), ("status", .str r.status.name),
      ("startedAt", .str r.startedAt.text)]
    ++ (r.finishedAt.map fun t => ("finishedAt", Json.str t.text)).toList
    ++ (r.testEnvId.map fun id => ("testEnvId", Json.str id)).toList
    ++ [("total", Json.ofNat r.total), ("passed", Json.ofNat r.passed),
      ("failed", Json.ofNat r.failed)]

end TestReport

/-! ### All records -/

/-- All records of a project. -/
structure StoreDocument where
  version : String
  lastUpdated : Timestamp
  artifacts : List Artifact
  environments : KeyMap TestEnvironment
  reports : KeyMap TestReport
  deriving DecidableEq, Inhabited

namespace StoreDocument

/-- No records. -/
def empty (now : Timestamp) : StoreDocument := ⟨"1", now, [], .empty, .empty⟩

/-- Read all records. -/
def read (now : Timestamp) (v : τ) : Decoded StoreDocument :=
  (readRecord "StoreDocument"
    (.required "version" readText <| .required "lastUpdated" Timestamp.read <|
      .defaulted "artifacts" (Source.list (Artifact.read now)) [] <|
      .defaulted "testEnvironments" (readMap TestEnvironment.read) .empty <|
      .defaulted "testReports" (readMap TestReport.read) .empty .nil) v).map
  fun (version, lastUpdated, artifacts, environments, reports, _) =>
    ⟨version, lastUpdated, artifacts, environments, reports⟩

/-- All records as a value. -/
def toJson (d : StoreDocument) : Json :=
  .obj [("version", .str d.version), ("lastUpdated", .str d.lastUpdated.text),
    ("artifacts", .arr (d.artifacts.map Artifact.toJson)),
    ("testEnvironments", Json.ofMap (d.environments.map TestEnvironment.toJson)),
    ("testReports", Json.ofMap (d.reports.map TestReport.toJson))]

end StoreDocument

end Orchestration
