import Orchestration.Proofs.Runs

/-!
# What all work on environments leaves alone

Work on environments acts on a world in few ways: it reads the clock, draws bits, makes and
removes directories and files, and uses its services.  What each of these keeps, every request
keeps:

* `Services.Preserves` — a property of worlds that every one of these steps keeps;
* `create_preserves`, `delete_preserves`, `act_preserves` — every request keeps it;
* `Services.Timely` — services that leave the clock alone; `Timely.preserves` — then all do;
* `freshIdIn_reading` — an identifier's date is a reading of that clock.
-/

namespace Orchestration

variable {σ : Type} {sv : Services σ} {P : World σ → Prop}

/-- A property of worlds that every step of the work keeps. -/
structure Services.Preserves (sv : Services σ) (P : World σ → Prop) : Prop where
  now : ∀ w : World σ, P w → P w.now.2
  drawBits : ∀ w : World σ, P w → P w.drawBits.2
  makeDirs : ∀ (path : String) (w : World σ), P w → P (w.makeDirs path).2
  removeDir : ∀ (path : String) (w : World σ), P w → P (w.removeDir path).2
  removeFile : ∀ (path : String) (w : World σ), P w → P (w.removeFile path).2
  store : ∀ {α : Type} (op : StoreOp α) (t : Timestamp) (w : World σ), P w →
    P (sv.store op t w).2
  call : ∀ (r : EngineReference) (tool : String) (arguments : Document) (w : World σ), P w →
    P (sv.call r tool arguments w).2

namespace Services.Preserves

variable (hp : sv.Preserves P)
include hp

theorem perform {α : Type} (op : StoreOp α) {w : World σ} (h : P w) : P (sv.perform op w).2 :=
  hp.store op _ _ (hp.now w h)

theorem exchanges {w w' : World σ} {said : List Exchange} (spoken : sv.Exchanges w said w')
    (h : P w) : P w' := by
  induction spoken with
  | nil w => exact h
  | tick _ ih => exact ih (hp.now _ h)
  | @call w w₁ w' c answer said first _ ih =>
    have answered := hp.call c.engine c.tool c.arguments w h
    rw [first] at answered
    exact ih answered

theorem release (resource : String) {w : World σ} (h : P w) :
    P (StageOrchestrator.release resource w).2 := by
  unfold StageOrchestrator.release StageOrchestrator.removeAny
  split
  · cases w.disk.kind? w.cwd resource with
    | error f => exact h
    | ok entry =>
      cases entry with
      | directory => exact hp.removeDir resource w h
      | file content executable => exact hp.removeFile resource w h
  · exact h

theorem releases {resources : List String} {w w' : World σ} {steps : List TeardownStep}
    (freed : StageOrchestrator.Releases resources w steps w') (h : P w) : P w' := by
  induction freed with
  | nil w => exact h
  | @cons resource rest status steps w w₁ w' first _ ih =>
    have here := hp.release resource h
    rw [first] at here
    exact ih here

end Services.Preserves

namespace StageOrchestrator

/-! ### Requests -/

section
variable (hp : sv.Preserves P)
include hp

theorem freshId_preserves (stage : String) {w : World σ} (h : P w) : P (freshId sv stage w).2 :=
  freshIdIn_keeps stage hp.now hp.drawBits (fun id _ here => hp.perform (.contains id) here)
    maxIdAttempts w h

theorem create_preserves (o : StageOrchestrator) (stage : String) {w : World σ} (h : P w) :
    P (o.create sv stage w).2 := by
  have sought := freshId_preserves hp stage h
  have homed : ∀ {id w₁ w₂ r}, freshId sv stage w = (.ok id, w₁) →
      w₁.makeDirs (joinPath o.tmpRoot id) = (r, w₂) → P w₂ := by
    intro id w₁ w₂ r named made
    rw [named] at sought
    have there := hp.makeDirs (joinPath o.tmpRoot id) w₁ sought
    rwa [made] at there
  have ran : ∀ {setup e r} {w₂ w₃ : World σ}, runSetup sv setup e w₂.now.2 = (r, w₃) → P w₂ →
      P w₃ := by
    intro setup e r w₂ w₃ run here
    obtain ⟨said, _, spoken, _, _⟩ := runSetup_ends run
    exact hp.exchanges spoken (hp.now w₂ here)
  have stored : ∀ {e r} {w₃ w₄ : World σ}, sv.store (.insert e) w₃.now.1 w₃.now.2 = (r, w₄) →
      P w₃ → P w₄ := by
    intro e r w₃ w₄ answered here
    have there := hp.store (.insert e) w₃.now.1 w₃.now.2 (hp.now w₃ here)
    rwa [answered] at there
  have ends := create_creates sv o stage w
  generalize o.create sv stage w = r at ends
  cases ends with
  | unresolved => exact h
  | unnamed named =>
    rw [named] at sought
    exact sought
  | homeless named made => exact homed named made
  | broken _ named made run => exact hp.removeDir _ _ (ran run (homed named made))
  | refused _ named made run refused =>
    exact hp.removeDir _ _ (stored refused (ran run (homed named made)))
  | recorded _ named made run recorded => exact stored recorded (ran run (homed named made))

theorem delete_preserves (o : StageOrchestrator) (id : String) {w : World σ} (h : P w) :
    P (o.delete sv id w).2 := by
  have asked := hp.perform (.get id) h
  unfold delete
  split
  · exact h
  · cases found : sv.perform (.get id) w with | mk answer w₁
    rw [found] at asked
    cases answer with
    | error err => exact asked
    | ok e =>
      obtain ⟨said, w₂, released, w₃, spoken, _, freed, whole⟩ := o.deleteEnvironment_eq sv e w₁
      show P (o.deleteEnvironment sv e w₁).2
      rw [whole]
      exact hp.perform (.remove e.id) (hp.releases freed (hp.exchanges spoken asked))

theorem act_preserves (o : StageOrchestrator) (r : Request) {w : World σ} (h : P w) :
    P (o.act sv w r) := by
  cases r with
  | create stage => exact create_preserves hp o stage h
  | delete id => exact delete_preserves hp o id h
  | recordOutcome id passed =>
    show P (recordOutcome sv id passed w).2
    unfold recordOutcome
    split
    · exact h
    · exact hp.perform _ h
  | list stage => exact hp.perform (.list stage) h

end

end StageOrchestrator

/-! ### The clock -/

/-- Services that leave the clock alone. -/
structure Services.Timely (sv : Services σ) : Prop where
  store : ∀ {α : Type} (op : StoreOp α) (t : Timestamp) (w : World σ),
    (sv.store op t w).2.clock = w.clock
  engine : ∀ (r : EngineReference) (tool : String) (arguments : Document) (w : World σ),
    (sv.engine r tool arguments w).2.clock = w.clock

/-- Then nothing changes the clock. -/
theorem Services.Timely.preserves (ht : sv.Timely) (clock : Nat → Timestamp) :
    sv.Preserves fun w => w.clock = clock where
  now _ h := h
  drawBits _ h := h
  makeDirs _ _ h := h
  removeDir _ _ h := h
  removeFile path w h := by
    unfold World.removeFile
    split <;> exact h
  store op t w h := (ht.store op t w).trans h
  call r tool arguments w h := (ht.engine r tool arguments _).trans h

theorem Services.scripted_timely : scripted.Timely where
  store _ _ _ := rfl
  engine r tool arguments w := by
    show (Script.answer w).2.clock = w.clock
    unfold Script.answer
    split <;> rfl

/-- The date of an identifier is read from the clock. -/
theorem StageOrchestrator.freshIdIn_reading (ht : sv.Timely) (stage : String) :
    ∀ (attempts : Nat) {w w' : World σ} {id : String},
      freshIdIn sv stage attempts w = (.ok id, w') →
      ∃ n bits, id = testId stage (w.clock n) bits := by
  intro attempts
  induction attempts with
  | zero => intro w w' id h; cases (Prod.mk.inj h).1
  | succ attempts ih =>
    intro w w' id h
    rw [freshIdIn_succ] at h
    have asked : (sv.perform (.contains (nextId stage w)) w.now.2.drawBits.2).2.clock = w.clock :=
      ht.store _ _ _
    split at h
    · cases (Prod.mk.inj h).1
    · next answered =>
      rw [answered] at asked
      rw [← asked]
      exact ih h
    · cases h
      exact ⟨w.readings, _, rfl⟩

end Orchestration
