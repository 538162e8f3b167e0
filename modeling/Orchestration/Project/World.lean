import Orchestration.Disk.Basic
import Orchestration.Project.Error
import Orchestration.Rpc.Message
import Orchestration.Store.Operation

/-!
# What work on a project acts on

Clock readings and random bits come from outside, so a world holds them as sequences of which
some have been used.  The store and the engines are services that act on the world, each keeping
its own state there:

* `World` — the disk, the clock, the random bits, the calls made so far, and the services' state;
* `Services` — a store and engines;
* `World.now`, `World.drawBits` — the next reading, the next random bits;
* `Services.perform`, `Services.call` — an operation of the store, a call of an engine.
-/

namespace Orchestration

/-- A call of an engine's tool. -/
structure EngineCall where
  engine : EngineReference
  tool : String
  arguments : Document

/-- What work on a project acts on. -/
structure World (σ : Type) where
  disk : Disk
  /-- The working directory. -/
  cwd : Place
  clock : Nat → Timestamp
  /-- The number of clock readings taken. -/
  readings : Nat
  bits : Nat → UInt32
  /-- The number of random suffixes drawn. -/
  drawn : Nat
  /-- The calls of engines, in order. -/
  calls : List EngineCall
  /-- What the store and the engines keep. -/
  state : σ

namespace World

variable {σ : Type}

/-- Read the clock. -/
def now (w : World σ) : Timestamp × World σ :=
  (w.clock w.readings, { w with readings := w.readings + 1 })

/-- Draw random bits. -/
def drawBits (w : World σ) : UInt32 × World σ :=
  (w.bits w.drawn, { w with drawn := w.drawn + 1 })

/-- Make a directory and those above it. -/
def makeDirs (path : String) (w : World σ) : Except SystemFault Unit × World σ :=
  let (r, disk) := w.disk.makeDirs w.cwd path
  (r, { w with disk })

/-- Remove a directory with everything in it. -/
def removeDir (path : String) (w : World σ) : Except SystemFault Unit × World σ :=
  let (r, disk) := w.disk.removeDir w.cwd path
  (r, { w with disk })

/-- Remove a file. -/
def removeFile (path : String) (w : World σ) : Except SystemFault Unit × World σ :=
  match w.disk.removeFile w.cwd path with
  | .ok disk => (.ok (), { w with disk })
  | .error f => (.error f, w)

end World

/-- A store and engines. -/
structure Services (σ : Type) where
  store : {α : Type} → StoreOp α → Timestamp → World σ → Except StoreError α × World σ
  engine : EngineReference → String → Document → World σ →
    Except OrchestratorError ToolResult × World σ

namespace Services

variable {σ α : Type}

/-- Perform an operation of the store, at the time the clock shows. -/
def perform (sv : Services σ) (op : StoreOp α) (w : World σ) :
    Except OrchestratorError α × World σ :=
  let (now, w) := w.now
  let (r, w) := sv.store op now w
  (r.mapError OrchestratorError.ofStore, w)

/-- Call a tool of an engine. -/
def call (sv : Services σ) (engine : EngineReference) (tool : String) (arguments : Document)
    (w : World σ) : Except OrchestratorError ToolResult × World σ :=
  sv.engine engine tool arguments { w with calls := w.calls ++ [⟨engine, tool, arguments⟩] }

end Services

end Orchestration
