import Orchestration.Project.Stage
import Orchestration.Proofs.StoreView

/-!
# Engines that answer from a script

The simplest engines there can be answer what they were given to say, one answer for each call,
and do nothing else.  With a store in memory they make a project that can be run on its own:

* `Services.scripted` — a store in memory, and engines that follow a script;
* `World.opening` — a world in which nothing has happened yet;
* `StageOrchestrator.paired` — a project with one stage, set up by a chain of two engines;
* `TestEnvironment.sample` — an environment of that stage.
-/

namespace Orchestration

instance exceptDecidableEq {ε α : Type} [DecidableEq ε] [DecidableEq α] :
    DecidableEq (Except ε α)
  | .error e, .error f => decidable_of_iff (e = f) (by simp)
  | .ok a, .ok b => decidable_of_iff (a = b) (by simp)
  | .error _, .ok _ => isFalse (by simp)
  | .ok _, .error _ => isFalse (by simp)

/-- What engines answer, in order. -/
abbrev Script := List (Except OrchestratorError ToolResult)

/-- The next answer of a script. -/
def Script.answer (w : World (MemoryStore × Script)) :
    Except OrchestratorError ToolResult × World (MemoryStore × Script) :=
  match w.state.2 with
  | [] => (.error (.protocol "the script is over"), w)
  | answer :: rest => (answer, { w with state := (w.state.1, rest) })

/-- A store in memory, and engines that follow a script. -/
def Services.scripted : Services (MemoryStore × Script) :=
  .inMemory fun _ _ _ w => Script.answer w

theorem Services.scripted_quiet : scripted.Quiet where
  store op now w := ⟨(List.append_nil _).symm, rfl, rfl, rfl⟩
  engine r tool arguments w := by
    show w.Trail [] (Script.answer w).2
    unfold Script.answer
    split <;> exact ⟨(List.append_nil _).symm, rfl, rfl, rfl⟩

theorem Script.answer_store (w : World (MemoryStore × Script)) :
    (answer w).2.state.1 = w.state.1 := by
  unfold answer
  split <;> rfl

theorem Services.scripted_keeps : scripted.Keeps StoreView.inMemory :=
  Services.inMemory_keeps fun _ _ _ w => Script.answer_store w

/-- A world in which nothing has happened yet, with environments on record. -/
def World.opening (bits : Nat → UInt32) (recorded : List TestEnvironment) (script : Script) :
    World (MemoryStore × Script) where
  disk := ⟨[]⟩
  cwd := []
  clock _ := .epoch
  readings := 0
  bits := bits
  drawn := 0
  calls := []
  state := (⟨{ StoreDocument.empty .epoch with
    environments := KeyMap.ofList (recorded.map fun e => (e.id, e)) }, false, 0⟩, script)

/-- Two engines, the second with parameters. -/
def ChainEntry.pair : List ChainEntry :=
  [⟨.package .go "network" none, none⟩,
    ⟨.package .go "database" none, some (KeyMap.ofList [("size", .str "small")])⟩]

/-- A project with one stage, set up by a chain of two engines. -/
def StageOrchestrator.paired : StageOrchestrator where
  stages := KeyMap.ofList [("unit", ⟨"unit", some (.chain "setup")⟩)]
  aliases := .ofDefinitions [.ofChain "setup" .testenv ChainEntry.pair]
  tmpRoot := "/tmp"

/-- An environment with a directory and a volume. -/
def TestEnvironment.sample : TestEnvironment where
  id := "test-unit-1"
  stage := "unit"
  status := .created
  createdAt := .epoch
  updatedAt := .epoch
  tmpDir := "/tmp/test-unit-1"
  files := .empty
  metadata := KeyMap.ofList [("port", "5432")]
  managedResources := ["/tmp/test-unit-1", "volume"]

end Orchestration
