import Orchestration.Project.Create
import Orchestration.Project.Delete
import Orchestration.Rpc.Server

/-!
# Test environments as tools

A project can itself be an engine: creating and deleting test environments are its tools.

* `createTool`, `deleteTool` — how the tools are advertised;
* `StageOrchestrator.serveCreate`, `serveDelete` — what a call of them does;
* `StageOrchestrator.handler` — both together.
-/

namespace Orchestration

variable {σ : Type}

/-- The schema of arguments that are an object with one string. -/
def oneStringSchema (argument : String) : Json :=
  Json.ofMembers [("type", .str "object"),
    ("properties", .obj [(argument, .obj [("type", .str "string")])]),
    ("required", .arr [.str argument])]

/-- The tool that creates test environments. -/
def createTool : ToolDescriptor :=
  ⟨"create", "Create a test environment for a stage", oneStringSchema "stage"⟩

/-- The tool that deletes test environments. -/
def deleteTool : ToolDescriptor :=
  ⟨"delete", "Tear down a test environment", oneStringSchema "testID"⟩

namespace StageOrchestrator

/-- What a caller is told of an environment that was created. -/
def createdOutput (e : TestEnvironment) : ToolOutput :=
  ⟨"created test environment " ++ e.id, some e.toJson.canonical⟩

/-- What a caller is told of an environment that was deleted. -/
def deletedOutput (r : TeardownReport) : ToolOutput := ⟨r.summary, some r.toJson.canonical⟩

/-- The outcome of an operation as a tool's. -/
def toolOutcome {α : Type} (output : α → ToolOutput) (r : Except OrchestratorError α) :
    Except String ToolOutput :=
  (r.map output).mapError OrchestratorError.message

/-- Create an environment for the stage that arguments name. -/
def serveCreate (o : StageOrchestrator) (sv : Services σ) (arguments : Document) (w : World σ) :
    Except String ToolOutput × World σ :=
  match Document.str? arguments "stage" with
  | none => (.error "missing required argument: stage", w)
  | some stage =>
    let (r, w) := o.create sv stage w
    (toolOutcome createdOutput r, w)

/-- Delete the environment that arguments name. -/
def serveDelete (o : StageOrchestrator) (sv : Services σ) (arguments : Document) (w : World σ) :
    Except String ToolOutput × World σ :=
  match Document.str? arguments "testID" with
  | none => (.error "missing required argument: testID", w)
  | some id =>
    let (r, w) := o.delete sv id w
    (toolOutcome deletedOutput r, w)

/-- Creating and deleting test environments as tools. -/
def handler (o : StageOrchestrator) (sv : Services σ) : ToolHandler (World σ) where
  tools := [createTool, deleteTool]
  call name arguments w :=
    match name with
    | "create" => o.serveCreate sv arguments w
    | "delete" => o.serveDelete sv arguments w
    | other => (.error ("unknown tool: " ++ other), w)

end StageOrchestrator

/-- What the program says of itself when it serves. -/
def programInfo : ServerInfo := ⟨"stagehand", programVersion⟩

end Orchestration
