import Orchestration.Project.Engines

/-!
# What is said between a project and its engines

Work on environments calls engines one after the other.  What an engine answers, and what it does
to the world meanwhile, is its own affair; which calls are made, in which order and with which
arguments is the project's:

* `told` — arguments given by their members, those without a value being left out;
* `Exchange`, `Services.Exchanges` — a call with its answer, and a whole conversation: every call
  is answered by the engine in the world that the one before it has left;
* `Services.Quiet` — services that leave alone what is the project's own;
* `Exchanges.trail` — after a conversation the log has grown by its calls, and by nothing else.
-/

namespace Orchestration

variable {σ α : Type}

/-- The document of members, those without a value being left out. -/
def told (members : List (String × Option Json)) : Document :=
  KeyMap.ofList (members.filterMap fun m => m.2.map fun v => (m.1, v))

/-! ### Quiet services -/

/-- From one world to another, calls were made, nothing was drawn, and the working directory
stayed the same. -/
structure World.Trail (w : World σ) (calls : List EngineCall) (w' : World σ) : Prop where
  calls : w'.calls = w.calls ++ calls
  bits : w'.bits = w.bits
  drawn : w'.drawn = w.drawn
  cwd : w'.cwd = w.cwd

namespace World.Trail

theorem refl (w : World σ) : w.Trail [] w := ⟨(List.append_nil _).symm, rfl, rfl, rfl⟩

theorem trans {w w₁ w₂ : World σ} {cs ds : List EngineCall} (h : w.Trail cs w₁)
    (h' : w₁.Trail ds w₂) : w.Trail (cs ++ ds) w₂ where
  calls := by rw [h'.calls, h.calls, List.append_assoc]
  bits := h'.bits.trans h.bits
  drawn := h'.drawn.trans h.drawn
  cwd := h'.cwd.trans h.cwd

/-- A step without calls before a trail. -/
theorem before {w w₁ w₂ : World σ} {cs : List EngineCall} (h : w.Trail [] w₁)
    (h' : w₁.Trail cs w₂) : w.Trail cs w₂ := h.trans h'

/-- A step without calls after a trail. -/
theorem after {w w₁ w₂ : World σ} {cs : List EngineCall} (h : w.Trail cs w₁)
    (h' : w₁.Trail [] w₂) : w.Trail cs w₂ := by
  have := h.trans h'
  rwa [List.append_nil] at this

end World.Trail

namespace World

theorem now_trail (w : World σ) : w.Trail [] w.now.2 := ⟨(List.append_nil _).symm, rfl, rfl, rfl⟩

theorem makeDirs_trail (path : String) (w : World σ) : w.Trail [] (w.makeDirs path).2 :=
  ⟨(List.append_nil _).symm, rfl, rfl, rfl⟩

theorem removeDir_trail (path : String) (w : World σ) : w.Trail [] (w.removeDir path).2 :=
  ⟨(List.append_nil _).symm, rfl, rfl, rfl⟩

theorem removeFile_trail (path : String) (w : World σ) : w.Trail [] (w.removeFile path).2 := by
  unfold removeFile
  split
  · exact ⟨(List.append_nil _).symm, rfl, rfl, rfl⟩
  · exact .refl w

end World

/-- From one world to another no engine was called, and random bits were at most drawn. -/
structure World.Draws (w w' : World σ) : Prop where
  calls : w'.calls = w.calls
  bits : w'.bits = w.bits
  drawn : w.drawn ≤ w'.drawn

theorem World.Draws.refl (w : World σ) : w.Draws w := ⟨rfl, rfl, Nat.le_refl _⟩

theorem World.Draws.trans {w w₁ w₂ : World σ} (h : w.Draws w₁) (h' : w₁.Draws w₂) :
    w.Draws w₂ :=
  ⟨h'.calls.trans h.calls, h'.bits.trans h.bits, Nat.le_trans h.drawn h'.drawn⟩

theorem World.Trail.draws {w w' : World σ} (h : w.Trail [] w') : w.Draws w' where
  calls := by rw [h.calls, List.append_nil]
  bits := h.bits
  drawn := Nat.le_of_eq h.drawn.symm

/-- Services that write nothing into the project's log of calls, draw none of its random bits and
do not move it to another working directory. -/
structure Services.Quiet (sv : Services σ) : Prop where
  store : ∀ {α : Type} (op : StoreOp α) (now : Timestamp) (w : World σ),
    w.Trail [] (sv.store op now w).2
  engine : ∀ (r : EngineReference) (tool : String) (arguments : Document) (w : World σ),
    w.Trail [] (sv.engine r tool arguments w).2

/-- The services of a configuration act on the disk and on the resolver alone. -/
theorem ProjectConfig.services_quiet (c : ProjectConfig) (vars : KeyMap String) :
    (c.services vars).Quiet where
  store op now w := ⟨(List.append_nil _).symm, rfl, rfl, rfl⟩
  engine r tool arguments w := by
    show w.Trail [] (callReference c.client vars r tool arguments w).2
    unfold callReference
    split <;> exact ⟨(List.append_nil _).symm, rfl, rfl, rfl⟩

namespace Services.Quiet

variable {sv : Services σ}

theorem perform (hq : sv.Quiet) (op : StoreOp α) (w : World σ) :
    w.Trail [] (sv.perform op w).2 :=
  w.now_trail.before (hq.store op _ _)

theorem call (hq : sv.Quiet) (r : EngineReference) (tool : String) (arguments : Document)
    (w : World σ) : w.Trail [⟨r, tool, arguments⟩] (sv.call r tool arguments w).2 := by
  have made : w.Trail [⟨r, tool, arguments⟩]
      { w with calls := w.calls ++ [⟨r, tool, arguments⟩] } := ⟨rfl, rfl, rfl, rfl⟩
  exact made.after (hq.engine r tool arguments _)

end Services.Quiet

/-! ### Conversations -/

/-- A call with its answer. -/
structure Exchange where
  call : EngineCall
  answer : Except OrchestratorError ToolResult

/-- The calls of a conversation, each answered by the engine in the world that the one before it
has left.  In between only the clock is read. -/
inductive Services.Exchanges (sv : Services σ) : World σ → List Exchange → World σ → Prop
  | nil (w : World σ) : Exchanges sv w [] w
  | tick {w w' : World σ} {said : List Exchange} (rest : Exchanges sv w.now.2 said w') :
      Exchanges sv w said w'
  | call {w w₁ w' : World σ} {c : EngineCall} {answer : Except OrchestratorError ToolResult}
      {said : List Exchange} (first : sv.call c.engine c.tool c.arguments w = (answer, w₁))
      (rest : Exchanges sv w₁ said w') : Exchanges sv w (⟨c, answer⟩ :: said) w'

/-- After a conversation the log has grown by its calls. -/
theorem Services.Exchanges.trail {sv : Services σ} (hq : sv.Quiet) {w w' : World σ}
    {said : List Exchange} (h : sv.Exchanges w said w') : w.Trail (said.map Exchange.call) w' := by
  induction h with
  | nil w => exact .refl w
  | tick _ ih => exact (World.now_trail _).before ih
  | @call w w₁ w' c answer said first _ ih =>
    have := hq.call c.engine c.tool c.arguments w
    rw [first] at this
    exact this.trans ih

end Orchestration
