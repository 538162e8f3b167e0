import Orchestration.Proofs.Creation
import Orchestration.Proofs.Identifiers
import Orchestration.Proofs.Teardown

/-!
# Runs of requests

A project serves one request after the other.  Which records a store may come up with is all that
matters to the calls of a run, so a store may lose records, or refuse to work, at any time:

* `Request`, `act`, `run` — what is asked for, and what a row of requests does;
* `Services.Recording` — a store that comes up with nothing but what was recorded;
* `create_recorded`, `delete_within`, `recordOutcome_alike` — what requests do to the records;
* `create_calls`, `delete_calls` — what they say to engines;
* `Owned`, `run_owned` — identifiers are those that the run has drawn.
-/

namespace Orchestration

variable {σ α : Type} {sv : Services σ} {held : World σ → String → TestEnvironment → Prop}

/-! ### Requests -/

/-- What is asked of a project. -/
inductive Request where
  | create (stage : String)
  | delete (id : String)
  | recordOutcome (id : String) (passed : Bool)
  | list (stage : Option String)

namespace StageOrchestrator

/-- The world after a request. -/
def act (o : StageOrchestrator) (sv : Services σ) (w : World σ) : Request → World σ
  | .create stage => (o.create sv stage w).2
  | .delete id => (o.delete sv id w).2
  | .recordOutcome id passed => (recordOutcome sv id passed w).2
  | .list stage => (list sv stage w).2

/-- The world after a row of requests. -/
def run (o : StageOrchestrator) (sv : Services σ) (requests : List Request) (w : World σ) :
    World σ := requests.foldl (o.act sv) w

theorem run_append (o : StageOrchestrator) (sv : Services σ) (rs ss : List Request)
    (w : World σ) : o.run sv (rs ++ ss) w = o.run sv ss (o.run sv rs w) :=
  List.foldl_append

end StageOrchestrator

/-! ### Stores that record -/

/-- Whatever may come up afterwards might have come up before. -/
def Within (held : World σ → String → TestEnvironment → Prop) (w w' : World σ) : Prop :=
  ∀ id e, held w' id e → held w id e

theorem Within.refl (w : World σ) : Within held w w := fun _ _ h => h

theorem Within.trans {w w₁ w₂ : World σ} (h : Within held w w₁) (h' : Within held w₁ w₂) :
    Within held w w₂ := fun id e hs => h id e (h' id e hs)

/-- The store comes up with nothing but what was recorded; engines, and the making and removing
of directories and files, bring no record to light. -/
structure Services.Recording (sv : Services σ)
    (held : World σ → String → TestEnvironment → Prop) : Prop where
  still : ∀ {w w' : World σ}, w.Still w' → Within held w w'
  makeDirs : ∀ (path : String) (w : World σ), Within held w (w.makeDirs path).2
  removeDir : ∀ (path : String) (w : World σ), Within held w (w.removeDir path).2
  removeFile : ∀ (path : String) (w : World σ), Within held w (w.removeFile path).2
  engine : ∀ (r : EngineReference) (tool : String) (arguments : Document) (w : World σ),
    Within held w (sv.engine r tool arguments w).2
  reads : ∀ {α : Type} {op : StoreOp α}, op.mutates = false → ∀ (t : Timestamp) (w : World σ),
    Within held w (sv.store op t w).2
  failed : ∀ {α : Type} {op : StoreOp α} {t : Timestamp} {w w' : World σ} {e : StoreError},
    sv.store op t w = (.error e, w') → Within held w w'
  found : ∀ {id : String} {t : Timestamp} {w w' : World σ} {e : TestEnvironment},
    sv.store (.get id) t w = (.ok e, w') → held w id e
  removed : ∀ {id : String} {t : Timestamp} {w w' : World σ} {e : TestEnvironment},
    sv.store (.remove id) t w = (.ok e, w') → Within held w w'
  inserted : ∀ {e : TestEnvironment} {t : Timestamp} {w w' : World σ},
    sv.store (.insert e) t w = (.ok (), w') → ∀ id x, held w' id x →
      id = e.id ∧ x = e ∨ id ≠ e.id ∧ held w id x
  restated : ∀ {id : String} {next : TestStatus} {t : Timestamp} {w w' : World σ}
    {e : TestEnvironment}, sv.store (.setStatus id next) t w = (.ok e, w') →
      ∀ id' x, held w' id' x →
        ∃ y status time, held w id' y ∧ x = { y with status := status, updatedAt := time }

namespace Services.Recording

theorem perform_reads (hr : sv.Recording held) {op : StoreOp α} (h : op.mutates = false)
    (w : World σ) : Within held w (sv.perform op w).2 :=
  (hr.still w.now_still).trans (hr.reads h _ _)

theorem perform_found (hr : sv.Recording held) {id : String} {e : TestEnvironment}
    {w : World σ} (h : (sv.perform (.get id) w).1 = .ok e) : held w id e :=
  hr.still w.now_still _ _ (hr.found (Services.perform_ok (Prod.ext h rfl)))

theorem perform_remove (hr : sv.Recording held) (id : String) (w : World σ) :
    Within held w (sv.perform (.remove id) w).2 := by
  refine (hr.still w.now_still).trans ?_
  cases answered : sv.perform (.remove id) w with | mk answer w'
  cases answer with
  | error err =>
    obtain ⟨cause, refused, _⟩ := Services.perform_error answered
    exact hr.failed refused
  | ok e => exact hr.removed (Services.perform_ok answered)

theorem exchanges (hr : sv.Recording held) {w w' : World σ} {said : List Exchange}
    (h : sv.Exchanges w said w') : Within held w w' := by
  induction h with
  | nil w => exact .refl w
  | @tick w _ _ _ ih => exact (hr.still w.now_still).trans ih
  | @call w w₁ w' c answer said first _ ih =>
    have noted : w.Still { w with calls := w.calls ++ [⟨c.engine, c.tool, c.arguments⟩] } :=
      ⟨rfl, rfl, rfl⟩
    have answered := hr.engine c.engine c.tool c.arguments
      { w with calls := w.calls ++ [⟨c.engine, c.tool, c.arguments⟩] }
    rw [show sv.engine c.engine c.tool c.arguments
      { w with calls := w.calls ++ [⟨c.engine, c.tool, c.arguments⟩] } = (answer, w₁) from first]
      at answered
    exact ((hr.still noted).trans answered).trans ih

end Services.Recording

theorem StoreView.within_of_kept {κ : Type} {v : StoreView σ κ} {w w' : World σ}
    (h : v.kept w' = v.kept w) : Within v.Shows w w' := by
  rintro id e ⟨t, d, read, here⟩
  exact ⟨t, d, h ▸ read, here⟩

/-- A store that keeps its promise comes up with nothing but what was recorded, if it reads back
what it has written, and if the making and removing of directories and files brings no record to
light. -/
theorem Services.Keeps.recording {κ : Type} {v : StoreView σ κ} (hk : sv.Keeps v)
    (reread : ∀ t d c, v.decode t (v.encode d c) = .ok d)
    (makeDirs : ∀ (path : String) (w : World σ), Within v.Shows w (w.makeDirs path).2)
    (removeDir : ∀ (path : String) (w : World σ), Within v.Shows w (w.removeDir path).2)
    (removeFile : ∀ (path : String) (w : World σ), Within v.Shows w (w.removeFile path).2) :
    sv.Recording v.Shows where
  still h := StoreView.within_of_kept (h.kept v)
  makeDirs := makeDirs
  removeDir := removeDir
  removeFile := removeFile
  engine r tool arguments w := StoreView.within_of_kept (hk.engine r tool arguments w)
  reads h t w := by rw [hk.reads h]; exact .refl w
  failed h := StoreView.within_of_kept (hk.failed h)
  found h := by
    obtain ⟨d, read, here⟩ := hk.get_done h
    exact ⟨_, d, read, here⟩
  removed h := by
    obtain ⟨d, read, _, written⟩ := hk.remove_done h
    rintro id e ⟨t, d', read', here⟩
    rw [written, reread, Except.ok.injEq] at read'
    rw [← read'] at here
    obtain ⟨-, here⟩ := KeyMap.find?_erase_eq_some_iff.1 here
    exact ⟨_, d, read, here⟩
  inserted h id x := by
    obtain ⟨d, read, _, written⟩ := hk.insert_done h
    rintro ⟨t, d', read', here⟩
    rw [written, reread, Except.ok.injEq] at read'
    rw [← read'] at here
    rcases KeyMap.find?_insert_eq_some_iff.1 here with ⟨rfl, rfl⟩ | ⟨other, here⟩
    · exact .inl ⟨rfl, rfl⟩
    · exact .inr ⟨Ne.symm other, _, d, read, here⟩
  restated h id' x := by
    obtain ⟨d, old, read, before, -, rfl, written⟩ := hk.setStatus_done h
    rintro ⟨t, d', read', here⟩
    rw [written, reread, Except.ok.injEq] at read'
    rw [← read'] at here
    rcases KeyMap.find?_insert_eq_some_iff.1 here with ⟨rfl, rfl⟩ | ⟨-, here⟩
    · exact ⟨old, _, _, ⟨_, d, read, before⟩, rfl⟩
    · exact ⟨x, x.status, x.updatedAt, ⟨_, d, read, here⟩, rfl⟩

/-- The store in memory comes up with nothing but what was recorded, if engines leave it alone. -/
theorem Services.inMemory_recording {engine : EngineReference → String → Document →
      World (MemoryStore × σ) → Except OrchestratorError ToolResult × World (MemoryStore × σ)}
    (he : ∀ r tool arguments w, (engine r tool arguments w).2.state.1 = w.state.1) :
    (Services.inMemory engine).Recording (StoreView.inMemory (σ := σ)).Shows :=
  (Services.inMemory_keeps he).recording (fun _ _ _ => rfl)
    (fun path w => StoreView.within_of_kept (StoreView.inMemory_spares w path).made)
    (fun path w => StoreView.within_of_kept ((StoreView.inMemory_spares w path).removed w rfl))
    (fun path w => StoreView.within_of_kept (by unfold World.removeFile; split <;> rfl))

namespace StageOrchestrator

/-! ### What creating does -/

/-- One more record may come up, in place of whatever was recorded under its identifier. -/
def Recorded (held : World σ → String → TestEnvironment → Prop) (w : World σ) :
    Except OrchestratorError TestEnvironment × World σ → Prop
  | (.error _, w') => Within held w w'
  | (.ok e, w') => ∀ id x, held w' id x → id = e.id ∧ x = e ∨ id ≠ e.id ∧ held w id x

theorem freshId_within (hr : sv.Recording held) (stage : String) (w : World σ) :
    Within held w (freshId sv stage w).2 :=
  freshIdIn_keeps (P := Within held w) stage
    (fun _ h => h.trans (hr.still ⟨rfl, rfl, rfl⟩))
    (fun _ h => h.trans (hr.still ⟨rfl, rfl, rfl⟩))
    (fun _ u h => h.trans (hr.perform_reads rfl u)) maxIdAttempts w (.refl w)

theorem create_recorded (hr : sv.Recording held) (o : StageOrchestrator) (stage : String)
    (w : World σ) : Recorded held w (o.create sv stage w) := by
  have sought := freshId_within hr stage w
  have homed : ∀ {id w₁ w₂ r}, freshId sv stage w = (.ok id, w₁) →
      w₁.makeDirs (joinPath o.tmpRoot id) = (r, w₂) → Within held w w₂ := by
    intro id w₁ w₂ r named made
    have there := hr.makeDirs (joinPath o.tmpRoot id) w₁
    rw [named] at sought
    rw [made] at there
    exact sought.trans there
  have ran : ∀ {setup e r} {w₂ w₃ : World σ}, runSetup sv setup e w₂.now.2 = (r, w₃) →
      Within held w₂ w₃ := by
    intro setup e r w₂ w₃ run
    obtain ⟨said, _, spoken, _, _⟩ := runSetup_ends run
    exact (hr.still w₂.now_still).trans (hr.exchanges spoken)
  have ends := create_creates sv o stage w
  generalize o.create sv stage w = r at ends
  cases ends with
  | unresolved => exact .refl w
  | unnamed named =>
    rw [named] at sought
    exact sought
  | homeless named made => exact homed named made
  | broken _ named made run =>
    exact ((homed named made).trans (ran run)).trans (hr.removeDir _ _)
  | refused _ named made run stored =>
    have asked := ((homed named made).trans (ran run)).trans (hr.still (World.now_still _))
    exact (asked.trans (hr.failed stored)).trans (hr.removeDir _ _)
  | recorded _ named made run stored =>
    have before := ((homed named made).trans (ran run)).trans (hr.still (World.now_still _))
    intro id x hx
    rcases hr.inserted stored id x hx with new | ⟨other, old⟩
    · exact .inl new
    · exact .inr ⟨other, before id x old⟩

/-- The calls of a request to create, and what they are about: nothing is said unless there is an
identifier, and then the setup is, up to the first failure. -/
structure CreateCalls (o : StageOrchestrator) (stage : String) (w : World σ)
    (r : Except OrchestratorError TestEnvironment × World σ) (calls : List EngineCall) :
    Prop where
  log : r.2.calls = w.calls ++ calls
  bits : r.2.bits = w.bits
  drawn : w.drawn ≤ r.2.drawn
  plan : (calls = [] ∧ ∃ err, r.1 = .error err) ∨ ∃ setup id now replies,
    o.setupOf stage = .ok setup ∧ Drawn stage w.bits w.drawn r.2.drawn id ∧
    calls = setupPlan setup (o.newborn stage id now) replies ∧
    ∀ e, r.1 = .ok e → (o.newborn stage id now).Grown replies e ∧
      replies.length = setup.engines.length

theorem create_calls (hq : sv.Quiet) (o : StageOrchestrator) (stage : String) (w : World σ) :
    ∃ calls, CreateCalls o stage w (o.create sv stage w) calls := by
  rcases create_starts hq o stage w with ⟨err, failed, idle⟩ |
    ⟨setup, id, w₂, resolved, drawn, idle, whole⟩
  · exact ⟨[], idle.calls.trans (List.append_nil _).symm, idle.bits, idle.drawn,
      .inl ⟨rfl, err, failed⟩⟩
  · obtain ⟨said, replies, result, w₃, spoken, calls, outcome, run⟩ :=
      runSetup_outcome sv setup (o.newborn stage id w₂.now.1) w₂.now.2
    rw [whole, run]
    have trail := (w₂.now_trail.before (spoken.trail hq)).after
      (conclude_trail hq (joinPath o.tmpRoot id) (result, w₃))
    rw [calls] at trail
    refine ⟨_, trail.calls.trans (by rw [idle.calls]), trail.bits.trans idle.bits,
      trail.drawn ▸ idle.drawn, .inr ⟨setup, id, w₂.now.1, replies, resolved, ?_, rfl, ?_⟩⟩
    · rw [trail.drawn]
      exact drawn
    · intro e h
      cases outcome with
      | failed => cases h
      | done answers all grown =>
        simp only [conclude] at h
        split at h
        · cases h
        · cases h
          exact ⟨grown, all⟩

/-! ### What deleting does -/

theorem Releases.within (hr : sv.Recording held) {resources : List String} {w w' : World σ}
    {steps : List TeardownStep} (h : Releases resources w steps w') : Within held w w' := by
  have freed : ∀ (resource : String) (w : World σ), Within held w (release resource w).2 := by
    intro resource w
    unfold release removeAny
    split
    · cases w.disk.kind? w.cwd resource with
      | error f => exact .refl w
      | ok entry =>
        cases entry with
        | directory => exact hr.removeDir resource w
        | file content executable => exact hr.removeFile resource w
    · exact .refl w
  induction h with
  | nil w => exact .refl w
  | @cons resource rest status steps w w₁ w' first _ ih =>
    have here := freed resource w
    rw [first] at here
    exact here.trans ih

theorem delete_within (hr : sv.Recording held) (o : StageOrchestrator) (id : String)
    (w : World σ) : Within held w (o.delete sv id w).2 := by
  have asked : Within held w (sv.perform (.get id) w).2 := hr.perform_reads rfl w
  unfold delete
  split
  · exact .refl w
  · cases found : sv.perform (.get id) w with | mk answer w₁
    rw [found] at asked
    cases answer with
    | error err => exact asked
    | ok e =>
      obtain ⟨said, w₂, released, w₃, spoken, _, freed, whole⟩ := o.deleteEnvironment_eq sv e w₁
      show Within held w (o.deleteEnvironment sv e w₁).2
      rw [whole]
      exact ((asked.trans (hr.exchanges spoken)).trans (freed.within hr)).trans
        (hr.perform_remove e.id w₃)

/-- The calls of a request to delete: the plan of the environment on record, if there is one. -/
theorem delete_calls (hq : sv.Quiet) (o : StageOrchestrator) (id : String) (w : World σ) :
    (∃ e, blankText id = false ∧ (sv.perform (.get id) w).1 = .ok e ∧
      w.Trail ((o.deletePlan e).map Prod.snd) (o.delete sv id w).2) ∨
    ((blankText id = true ∨ ∃ err, (sv.perform (.get id) w).1 = .error err) ∧
      w.Trail [] (o.delete sv id w).2) := by
  have asked := hq.perform (.get id) w
  cases blank : blankText id with
  | true =>
    refine .inr ⟨.inl rfl, ?_⟩
    rw [delete, blank]
    exact .refl w
  | false =>
    cases found : sv.perform (.get id) w with | mk answer w₁
    rw [found] at asked
    cases answer with
    | error err =>
      refine .inr ⟨.inr ⟨err, rfl⟩, ?_⟩
      rw [delete, blank, found]
      exact asked
    | ok e =>
      refine .inl ⟨e, rfl, rfl, ?_⟩
      obtain ⟨said, w₂, released, w₃, spoken, calls, freed, whole⟩ := o.deleteEnvironment_eq sv e w₁
      have held : (sv.perform (.get id) w).1 = .ok e := by rw [found]
      rw [delete_eq blank held, found, whole, ← calls]
      exact ((asked.before (spoken.trail hq)).after freed.trail).after (hq.perform _ w₃)

/-! ### What recording an outcome does -/

/-- Whatever may come up afterwards might have come up before, but for its status. -/
def Alike (held : World σ → String → TestEnvironment → Prop) (w w' : World σ) : Prop :=
  ∀ id x, held w' id x →
    ∃ y status time, held w id y ∧ x = { y with status := status, updatedAt := time }

theorem within_alike {w w' : World σ} (h : Within held w w') :
    Alike held w w' := fun id x hx => ⟨x, x.status, x.updatedAt, h id x hx, rfl⟩

theorem recordOutcome_alike (hr : sv.Recording held) (id : String) (passed : Bool)
    (w : World σ) : Alike held w (recordOutcome sv id passed w).2 := by
  unfold recordOutcome
  split
  · exact within_alike (.refl w)
  · cases answered : sv.perform (.setStatus id (if passed then .passed else .failed)) w with
    | mk answer w' =>
    cases answer with
    | error err =>
      obtain ⟨cause, refused, _⟩ := Services.perform_error answered
      exact within_alike ((hr.still w.now_still).trans (hr.failed refused))
    | ok e =>
      intro id' x hx
      obtain ⟨y, status, time, hy, rfl⟩ := hr.restated (Services.perform_ok answered) id' x hx
      exact ⟨y, status, time, hr.still w.now_still id' y hy, rfl⟩

theorem recordOutcome_trail (hq : sv.Quiet) (id : String) (passed : Bool) (w : World σ) :
    w.Trail [] (recordOutcome sv id passed w).2 := by
  unfold recordOutcome
  split
  · exact .refl w
  · exact hq.perform _ w

/-! ### What calls are about -/

end StageOrchestrator

/-- The environment that a call is told of. -/
def EngineCall.testId? (c : EngineCall) : Option String := c.arguments.str? "testID"

namespace StageOrchestrator

theorem createArguments_testId (e : TestEnvironment) (metadata : KeyMap String)
    (entry : ChainEntry) :
    Document.str? (createArguments e metadata entry) "testID" = some e.id := by
  rw [createArguments_eq]
  cases entry.spec <;> simp [told, KeyMap.ofList, Document.str?, Json.asString?]

theorem createArguments_spec (e : TestEnvironment) (metadata : KeyMap String)
    (entry : ChainEntry) :
    (createArguments e metadata entry).find? "spec" = entry.spec.map Document.toJson := by
  rw [createArguments_eq]
  cases entry.spec <;> simp [told, KeyMap.ofList]

theorem createPlan_testId (e : TestEnvironment) (entries : List ChainEntry) :
    ∀ (metadata : KeyMap String) (replies : List ToolResult),
      ∀ c ∈ createPlan e metadata entries replies, c.testId? = some e.id := by
  intro metadata replies c hc
  obtain ⟨metadata', entry, rfl⟩ := mem_createPlan hc
  exact createArguments_testId e metadata' entry

/-- Setting an environment up, engines are told of no other. -/
theorem setupPlan_testId {setup : Setup} {e : TestEnvironment} {replies : List ToolResult}
    {c : EngineCall} (hc : c ∈ setupPlan setup e replies) {id : String}
    (h : c.testId? = some id) : id = e.id := by
  cases setup with
  | bare => exact absurd hc List.not_mem_nil
  | chain entries =>
    rw [createPlan_testId e entries .empty replies c hc] at h
    exact (Option.some.inj h).symm
  | direct engine =>
    rw [List.mem_singleton.1 hc] at h
    unfold EngineCall.testId? directCreateArguments at h
    cases light : isLightweight engine <;>
      simp [light, arguments, KeyMap.ofList, Document.str?, Json.asString?] at h
    exact h.symm

/-- Taking an environment down, every engine is told which one. -/
theorem deletePlan_testId {o : StageOrchestrator} {e : TestEnvironment} {c : EngineCall}
    (hc : c ∈ (o.deletePlan e).map Prod.snd) : c.testId? = some e.id := by
  obtain ⟨p, hp, rfl⟩ := List.mem_map.1 hc
  unfold EngineCall.testId?
  unfold deletePlan at hp
  split at hp
  · exact absurd hp List.not_mem_nil
  · exact absurd hp List.not_mem_nil
  · next engine _ =>
    rw [List.mem_singleton.1 hp]
    by_cases light : engine.shortName = "test-report" <;>
      simp [light, told, KeyMap.ofList, Document.str?, Json.asString?]
  · obtain ⟨⟨entry, index⟩, _, rfl⟩ := List.mem_map.1 (List.mem_reverse.1 hp)
    cases h : entry.spec <;> simp [h, told, KeyMap.ofList, Document.str?, Json.asString?]

/-! ### Whole runs -/

/-- Every record that may come up is filed under its own identifier, and the identifiers on
record and in calls are made of bits that the run has drawn. -/
structure Owned (held : World σ → String → TestEnvironment → Prop) (lo : Nat) (w : World σ) :
    Prop where
  begun : lo ≤ w.drawn
  held : ∀ id x, held w id x → x.id = id ∧ ∃ stage, Drawn stage w.bits lo w.drawn id
  calls : ∀ c ∈ w.calls, ∀ id, c.testId? = some id → ∃ stage, Drawn stage w.bits lo w.drawn id

/-- A request that draws nothing, and tells engines of what is on record. -/
theorem Owned.of_trail {lo : Nat} {w w' : World σ} {calls : List EngineCall}
    (h : Owned held lo w) (trail : w.Trail calls w') (alike : Alike held w w')
    (about : ∀ c ∈ calls, ∀ id, c.testId? = some id → ∃ x, held w id x) :
    Owned held lo w' where
  begun := trail.drawn ▸ h.begun
  held id x hx := by
    obtain ⟨y, status, time, hy, rfl⟩ := alike id x hx
    rw [trail.bits, trail.drawn]
    exact h.held id y hy
  calls c hc id hid := by
    rw [trail.bits, trail.drawn]
    rw [trail.calls] at hc
    rcases List.mem_append.1 hc with hc | hc
    · exact h.calls c hc id hid
    · obtain ⟨x, hx⟩ := about c hc id hid
      exact (h.held id x hx).2

theorem create_owned (hq : sv.Quiet) (hr : sv.Recording held) (o : StageOrchestrator)
    (stage : String) {lo : Nat} {w : World σ} (h : Owned held lo w) :
    Owned held lo (o.create sv stage w).2 := by
  obtain ⟨calls, said⟩ := create_calls hq o stage w
  have recorded := create_recorded hr o stage w
  cases whole : o.create sv stage w with | mk result w'
  rw [whole] at said recorded
  obtain ⟨log, bits, drawn, plan⟩ := said
  have older : ∀ {id}, (∃ stage, Drawn stage w.bits lo w.drawn id) →
      ∃ stage, Drawn stage w'.bits lo w'.drawn id := by
    rintro id ⟨stage, hd⟩
    exact ⟨stage, bits ▸ hd.mono (Nat.le_refl _) drawn⟩
  refine ⟨Nat.le_trans h.begun drawn, ?_, ?_⟩
  · intro id x hx
    cases result with
    | error err =>
      obtain ⟨own, hd⟩ := h.held id x (recorded id x hx)
      exact ⟨own, older hd⟩
    | ok e =>
      rcases recorded id x hx with ⟨rfl, rfl⟩ | ⟨_, old⟩
      · rcases plan with ⟨_, _, hne⟩ | ⟨setup, id, now, replies, _, hd, _, grown⟩
        · cases hne
        · refine ⟨rfl, stage, ?_⟩
          rw [(newborn_grown (grown x rfl).1).1]
          exact bits ▸ hd.mono h.begun (Nat.le_refl _)
      · obtain ⟨own, hd⟩ := h.held id x old
        exact ⟨own, older hd⟩
  · intro c hc s hs
    rw [log] at hc
    rcases List.mem_append.1 hc with hc | hc
    · exact older (h.calls c hc s hs)
    · rcases plan with ⟨rfl, _⟩ | ⟨setup, id, now, replies, _, hd, rfl, _⟩
      · exact absurd hc List.not_mem_nil
      · obtain rfl : s = id := setupPlan_testId hc hs
        exact ⟨stage, bits ▸ hd.mono h.begun (Nat.le_refl _)⟩

/-- Every request keeps identifiers to those that the run has drawn. -/
theorem act_owned (hq : sv.Quiet) (hr : sv.Recording held) (o : StageOrchestrator)
    (r : Request) {lo : Nat} {w : World σ} (h : Owned held lo w) :
    Owned held lo (o.act sv w r) := by
  cases r with
  | create stage => exact create_owned hq hr o stage h
  | delete id =>
    have alike := within_alike (delete_within hr o id w)
    rcases delete_calls hq o id w with ⟨e, _, found, trail⟩ | ⟨_, trail⟩
    · refine h.of_trail trail alike ?_
      intro c hc s hs
      have here := hr.perform_found found
      obtain rfl : e.id = s := Option.some.inj ((deletePlan_testId hc).symm.trans hs)
      rw [(h.held id e here).1]
      exact ⟨e, here⟩
    · exact h.of_trail trail alike fun c hc => absurd hc List.not_mem_nil
  | recordOutcome id passed =>
    exact h.of_trail (recordOutcome_trail hq id passed w) (recordOutcome_alike hr id passed w)
      fun c hc => absurd hc List.not_mem_nil
  | list stage =>
    exact h.of_trail (hq.perform (.list stage) w) (within_alike (hr.perform_reads rfl w))
      fun c hc => absurd hc List.not_mem_nil

theorem run_owned (hq : sv.Quiet) (hr : sv.Recording held) (o : StageOrchestrator) {lo : Nat}
    (requests : List Request) : ∀ {w : World σ}, Owned held lo w →
      Owned held lo (o.run sv requests w) := by
  induction requests with
  | nil => exact fun h => h
  | cons r rest ih => exact fun h => ih (act_owned hq hr o r h)

theorem act_draws (hq : sv.Quiet) (o : StageOrchestrator) (r : Request) (w : World σ) :
    (o.act sv w r).bits = w.bits ∧ w.drawn ≤ (o.act sv w r).drawn := by
  have still : ∀ {calls w'}, w.Trail calls w' → w'.bits = w.bits ∧ w.drawn ≤ w'.drawn :=
    fun trail => ⟨trail.bits, Nat.le_of_eq trail.drawn.symm⟩
  cases r with
  | create stage =>
    obtain ⟨_, said⟩ := create_calls hq o stage w
    exact ⟨said.bits, said.drawn⟩
  | delete id =>
    rcases delete_calls hq o id w with ⟨_, _, _, trail⟩ | ⟨_, trail⟩
    · exact still trail
    · exact still trail
  | recordOutcome id passed => exact still (recordOutcome_trail hq id passed w)
  | list stage => exact still (hq.perform (.list stage) w)

theorem run_draws (hq : sv.Quiet) (o : StageOrchestrator) (requests : List Request) :
    ∀ w : World σ, (o.run sv requests w).bits = w.bits ∧
      w.drawn ≤ (o.run sv requests w).drawn := by
  induction requests with
  | nil => exact fun w => ⟨rfl, Nat.le_refl _⟩
  | cons r rest ih =>
    intro w
    obtain ⟨bits, drawn⟩ := act_draws hq o r w
    obtain ⟨bits', drawn'⟩ := ih (o.act sv w r)
    exact ⟨bits'.trans bits, Nat.le_trans drawn drawn'⟩

end StageOrchestrator

end Orchestration
