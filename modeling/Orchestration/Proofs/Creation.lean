import Orchestration.Proofs.Replies
import Orchestration.Proofs.Scripted

/-!
# Creating, step by step

Which calls a chain makes depends on the replies so far, and on nothing else:

* `StageOrchestrator.createPlan` — the calls of a chain, given replies;
* `SetupOutcome`, `runSetup_outcome`, `runSetup_ends` — every engine has replied, or the first
  failure ends it;
* `create_starts` — creating fails before any engine is called, or the rest is the setup;
* `Creates`, `create_creates` — the six ways in which creating can end;
* `SetsUp` — what holds between the worlds before and after the engines of one request;
* `create_threads` — what a chain whose engines all reply is told, and what comes of it.
-/

namespace Orchestration

variable {σ κ : Type} {sv : Services σ} {v : StoreView σ κ}

/-- The engines that set up an environment, in the order of their calls. -/
def Setup.engines : Setup → List EngineReference
  | .bare => []
  | .direct engine => [engine]
  | .chain entries => entries.map ChainEntry.engine

namespace StageOrchestrator

/-! ### Calls -/

theorem createArguments_eq (e : TestEnvironment) (metadata : KeyMap String)
    (entry : ChainEntry) : createArguments e metadata entry =
      told [("testID", some (.str e.id)), ("stage", some (.str e.stage)),
        ("tmpDir", some (.str e.tmpDir)), ("metadata", some (Json.ofStringMap metadata)),
        ("spec", entry.spec.map Document.toJson)] := by
  cases h : entry.spec <;> simp [createArguments, told, arguments, specMember, h]

/-- The call of an engine in a chain, told the metadata so far. -/
def createCall (e : TestEnvironment) (metadata : KeyMap String) (entry : ChainEntry) :
    EngineCall := ⟨entry.engine, "create", createArguments e metadata entry⟩

/-- The calls of a chain whose engines reply: each is told the metadata of the replies before it,
and the first one without a reply is the last. -/
def createPlan (e : TestEnvironment) :
    KeyMap String → List ChainEntry → List ToolResult → List EngineCall
  | _, [], _ => []
  | metadata, entry :: _, [] => [createCall e metadata entry]
  | metadata, entry :: rest, r :: replies =>
    createCall e metadata entry ::
      createPlan e (metadata.union (SetupOutput.ofResult r).metadata) rest replies

/-- The calls that set an environment up, for the replies that come: none without engines, one to a
single engine, and those of a chain. -/
def setupPlan (setup : Setup) (e : TestEnvironment) (replies : List ToolResult) :
    List EngineCall :=
  match setup with
  | .bare => []
  | .direct engine => [⟨engine, "create", directCreateArguments e engine⟩]
  | .chain entries => createPlan e .empty entries replies

/-- A call depends on what replies leave alone. -/
theorem createPlan_grown {e e' : TestEnvironment} {rs : List ToolResult} (h : e.Grown rs e')
    (entries : List ChainEntry) : ∀ (metadata : KeyMap String) (replies : List ToolResult),
      createPlan e' metadata entries replies = createPlan e metadata entries replies := by
  have call : ∀ metadata entry, createCall e' metadata entry = createCall e metadata entry := by
    intro metadata entry
    simp only [createCall, createArguments_eq, h.id, h.stage, h.tmpDir]
  induction entries with
  | nil => intro metadata replies; rfl
  | cons entry rest ih =>
    intro metadata replies
    cases replies with
    | nil => simp only [createPlan, call]
    | cons r replies => simp only [createPlan, call, ih]

theorem createPlan_engines (e : TestEnvironment) (entries : List ChainEntry) :
    ∀ (metadata : KeyMap String) (replies : List ToolResult),
      (createPlan e metadata entries replies).map EngineCall.engine =
        (entries.map ChainEntry.engine).take (replies.length + 1) := by
  induction entries with
  | nil => intro metadata replies; rfl
  | cons entry rest ih =>
    intro metadata replies
    cases replies with
    | nil => rfl
    | cons r replies => simp only [createPlan, List.map_cons, ih, List.length_cons,
        List.take_succ_cons]; rfl

theorem setupPlan_engines (setup : Setup) (e : TestEnvironment) (replies : List ToolResult) :
    (setupPlan setup e replies).map EngineCall.engine =
      setup.engines.take (replies.length + 1) := by
  cases setup with
  | bare => rfl
  | direct engine => rw [Setup.engines, List.take_succ_cons, List.take_nil]; rfl
  | chain entries => exact createPlan_engines e entries .empty replies

/-- Every call of a chain is one of its entries', told some metadata. -/
theorem mem_createPlan {e : TestEnvironment} {c : EngineCall} {entries : List ChainEntry} :
    ∀ {metadata : KeyMap String} {replies : List ToolResult},
      c ∈ createPlan e metadata entries replies →
        ∃ metadata entry, c = createCall e metadata entry := by
  induction entries with
  | nil => exact fun hc => absurd hc List.not_mem_nil
  | cons entry rest ih =>
    intro metadata replies hc
    cases replies with
    | nil => exact ⟨metadata, entry, List.mem_singleton.1 hc⟩
    | cons r replies =>
      rcases List.mem_cons.1 hc with first | later
      · exact ⟨metadata, entry, first⟩
      · exact ih later

theorem createPlan_tool (e : TestEnvironment) (entries : List ChainEntry) :
    ∀ (metadata : KeyMap String) (replies : List ToolResult),
      ∀ c ∈ createPlan e metadata entries replies, c.tool = "create" := by
  intro metadata replies c hc
  obtain ⟨_, _, rfl⟩ := mem_createPlan hc
  rfl

theorem setupPlan_tool (setup : Setup) (e : TestEnvironment) (replies : List ToolResult) :
    ∀ c ∈ setupPlan setup e replies, c.tool = "create" := by
  cases setup with
  | bare => intro c hc; exact absurd hc List.not_mem_nil
  | direct engine => intro c hc; rw [List.mem_singleton.1 hc]
  | chain entries => exact createPlan_tool e entries .empty replies

/-- The metadata that a call is told: for every key the latest string of the replies before. -/
theorem createPlan_getElem? (e : TestEnvironment) (entries : List ChainEntry) :
    ∀ (metadata : KeyMap String) (replies : List ToolResult) (i : Nat) (entry : ChainEntry),
      entries[i]? = some entry → i ≤ replies.length →
      ∃ m : KeyMap String,
        (∀ key, m.find? key =
          (latest "metadata" key (replies.take i)).or (metadata.find? key)) ∧
        (createPlan e metadata entries replies)[i]? = some (createCall e m entry) := by
  induction entries with
  | nil => intro metadata replies i entry h; cases h
  | cons first rest ih =>
    intro metadata replies i entry h hi
    cases i with
    | zero =>
      obtain rfl : first = entry := by simpa using h
      refine ⟨metadata, fun key => rfl, ?_⟩
      cases replies <;> rfl
    | succ i =>
      cases replies with
      | nil => exact absurd hi (by simp)
      | cons r replies =>
        obtain ⟨m, hm, hcall⟩ := ih (metadata.union (SetupOutput.ofResult r).metadata) replies i
          entry (by simpa using h) (by simpa using hi)
        refine ⟨m, ?_, by simpa [createPlan] using hcall⟩
        intro key
        rw [hm, KeyMap.find?_union, SetupOutput.ofResult_metadata, ← latest_singleton,
          ← Option.or_assoc, ← latest_append]
        rfl

/-! ### Engines -/

/-- How the engines of a setup have done: all of them have replied, or one has failed after the
others had replied, and no call has come after it. -/
inductive SetupOutcome (e : TestEnvironment) (index : Nat) (engines : List EngineReference)
    (said : List Exchange) : List ToolResult → Except OrchestratorError TestEnvironment → Prop
  | done {replies : List ToolResult} {e' : TestEnvironment}
      (answers : said.map Exchange.answer = replies.map .ok)
      (all : replies.length = engines.length) (grown : e.Grown replies e') :
      SetupOutcome e index engines said replies (.ok e')
  | failed {replies : List ToolResult} {engine : EngineReference} {err : OrchestratorError}
      (answers : said.map Exchange.answer = replies.map .ok ++ [.error err])
      (here : engines[replies.length]? = some engine) :
      SetupOutcome e index engines said replies
        (.error (.ofStep (index + replies.length) engine err))

theorem runChain_outcome (sv : Services σ) (entries : List ChainEntry) :
    ∀ (index : Nat) (metadata : KeyMap String) (e : TestEnvironment) (w : World σ),
      ∃ said replies result w', sv.Exchanges w said w' ∧
        said.map Exchange.call = createPlan e metadata entries replies ∧
        SetupOutcome e index (entries.map ChainEntry.engine) said replies result ∧
        runChain sv index metadata entries e w = (result, w') := by
  induction entries with
  | nil =>
    intro index metadata e w
    exact ⟨[], [], .ok e, w, .nil w, rfl, .done rfl rfl (.refl e), rfl⟩
  | cons entry rest ih =>
    intro index metadata e w
    cases h : sv.call entry.engine "create" (createArguments e metadata entry) w with
    | mk answer w₁ =>
    cases answer with
    | error err =>
      refine ⟨[⟨createCall e metadata entry, .error err⟩], [], _, w₁, .call h (.nil w₁), rfl,
        .failed rfl rfl, ?_⟩
      simp only [runChain, h]
      rfl
    | ok r =>
      have grown : e.Grown [r] ((SetupOutput.ofResult r).applyTo w₁.now.1 e) := .step e r _
      obtain ⟨said, replies, result, w', spoken, calls, outcome, run⟩ :=
        ih (index + 1) (metadata.union (SetupOutput.ofResult r).metadata) _ w₁.now.2
      refine ⟨⟨createCall e metadata entry, .ok r⟩ :: said, r :: replies, result, w',
        .call h (.tick spoken), ?_, ?_, ?_⟩
      · rw [List.map_cons, calls, createPlan_grown grown]
        rfl
      · cases outcome with
        | done answers all more =>
          exact .done (by rw [List.map_cons, answers]; rfl)
            (by simp only [List.length_cons, all, List.map_cons]) (grown.trans more)
        | failed answers here =>
          rw [show index + 1 + replies.length = index + (r :: replies).length by
            rw [List.length_cons]; omega]
          exact .failed (by rw [List.map_cons, answers]; rfl) here
      · simp only [runChain, h]
        exact run

/-- Setting up makes the calls of its plan, up to the first failure. -/
theorem runSetup_outcome (sv : Services σ) (setup : Setup) (e : TestEnvironment) (w : World σ) :
    ∃ said replies result w', sv.Exchanges w said w' ∧
      said.map Exchange.call = setupPlan setup e replies ∧
      SetupOutcome e 0 setup.engines said replies result ∧
      runSetup sv setup e w = (result, w') := by
  cases setup with
  | bare => exact ⟨[], [], .ok e, w, .nil w, rfl, .done rfl rfl (.refl e), rfl⟩
  | chain entries => exact runChain_outcome sv entries 0 .empty e w
  | direct engine =>
    cases h : sv.call engine "create" (directCreateArguments e engine) w with | mk answer w₁
    cases answer with
    | error err =>
      refine ⟨[⟨⟨engine, "create", directCreateArguments e engine⟩, .error err⟩], [], _, w₁,
        .call h (.nil w₁), rfl, .failed rfl rfl, ?_⟩
      simp only [runSetup, h]
      rfl
    | ok r =>
      refine ⟨[⟨⟨engine, "create", directCreateArguments e engine⟩, .ok r⟩], [r], _, w₁.now.2,
        .call h (.tick (.nil _)), rfl, .done rfl rfl (.step e r w₁.now.1), ?_⟩
      simp only [runSetup, h]

theorem runSetup_ends {setup : Setup} {e : TestEnvironment} {w w' : World σ}
    {result : Except OrchestratorError TestEnvironment}
    (run : runSetup sv setup e w = (result, w')) :
    ∃ said replies, sv.Exchanges w said w' ∧
      said.map Exchange.call = setupPlan setup e replies ∧
      SetupOutcome e 0 setup.engines said replies result := by
  obtain ⟨said, replies, result', w₁, spoken, calls, outcome, same⟩ :=
    runSetup_outcome sv setup e w
  cases run.symm.trans same
  exact ⟨said, replies, spoken, calls, outcome⟩

theorem runSetup_cwd (hq : sv.Quiet) {setup : Setup} {e : TestEnvironment} {w w' : World σ}
    {result : Except OrchestratorError TestEnvironment}
    (run : runSetup sv setup e w.now.2 = (result, w')) : w'.cwd = w.cwd := by
  obtain ⟨said, _, spoken, _, _⟩ := runSetup_ends run
  exact (spoken.trail hq).cwd

/-! ### Identifiers -/

/-- The identifier that the next attempt tries. -/
def nextId (stage : String) (w : World σ) : String := testId stage w.now.1 w.now.2.drawBits.1

theorem freshIdIn_succ (stage : String) (attempts : Nat) (w : World σ) :
    freshIdIn sv stage (attempts + 1) w =
      match sv.perform (.contains (nextId stage w)) w.now.2.drawBits.2 with
      | (.error e, w) => (.error e, w)
      | (.ok true, w) => freshIdIn sv stage attempts w
      | (.ok false, w₁) => (.ok (nextId stage w), w₁) := rfl

/-- Whatever the steps of an attempt keep is kept while an identifier is sought. -/
theorem freshIdIn_keeps {P : World σ → Prop} (stage : String)
    (now : ∀ w, P w → P w.now.2) (draw : ∀ w, P w → P w.drawBits.2)
    (ask : ∀ id w, P w → P (sv.perform (.contains id) w).2) :
    ∀ (attempts : Nat) (w : World σ), P w → P (freshIdIn sv stage attempts w).2 := by
  intro attempts
  induction attempts with
  | zero => exact fun w h => h
  | succ attempts ih =>
    intro w h
    have asked := ask (nextId stage w) _ (draw _ (now w h))
    rw [freshIdIn_succ]
    cases answered : sv.perform (.contains (nextId stage w)) w.now.2.drawBits.2 with
    | mk answer w₁ =>
    rw [answered] at asked
    rcases answer with err | taken
    · exact asked
    · cases taken with
      | true => exact ih w₁ asked
      | false => exact asked

/-- An identifier for a stage, made of random bits that were drawn between two moments. -/
def Drawn (stage : String) (bits : Nat → UInt32) (lo hi : Nat) (id : String) : Prop :=
  ∃ t k, lo ≤ k ∧ k < hi ∧ id = testId stage t (bits k)

theorem Drawn.mono {stage : String} {bits : Nat → UInt32} {lo lo' hi hi' : Nat} {id : String}
    (h : Drawn stage bits lo hi id) (hlo : lo' ≤ lo) (hhi : hi ≤ hi') :
    Drawn stage bits lo' hi' id := by
  obtain ⟨t, k, hk, hk', rfl⟩ := h
  exact ⟨t, k, by omega, by omega, rfl⟩

/-- What seeking an identifier does besides: it draws. -/
theorem freshId_draws (hq : sv.Quiet) (stage : String) (w : World σ) :
    w.Draws (freshId sv stage w).2 :=
  freshIdIn_keeps (P := w.Draws) stage (fun u h => h.trans u.now_trail.draws)
    (fun _ h => h.trans ⟨rfl, rfl, Nat.le_succ _⟩)
    (fun id u h => h.trans (hq.perform (.contains id) u).draws) maxIdAttempts w (.refl w)

theorem freshIdIn_drawn (hq : sv.Quiet) (stage : String) :
    ∀ (attempts : Nat) {w w' : World σ} {id : String},
      freshIdIn sv stage attempts w = (.ok id, w') →
      Drawn stage w.bits w.drawn w'.drawn id := by
  intro attempts
  induction attempts with
  | zero => intro w w' id h; cases (Prod.mk.inj h).1
  | succ attempts ih =>
    intro w w' id h
    rw [freshIdIn_succ] at h
    have asked := hq.perform (.contains (nextId stage w)) w.now.2.drawBits.2
    split at h
    · cases (Prod.mk.inj h).1
    · next answered =>
      rw [answered] at asked
      have later := ih h
      rw [asked.bits, asked.drawn] at later
      exact later.mono (Nat.le_succ _) (Nat.le_refl _)
    · next answered =>
      rw [answered] at asked
      cases h
      refine ⟨w.now.1, w.drawn, Nat.le_refl _, ?_, rfl⟩
      rw [asked.drawn]
      exact Nat.lt_succ_self _

/-! ### The whole -/

/-- An environment before its engines are called. -/
def newborn (o : StageOrchestrator) (stage id : String) (now : Timestamp) : TestEnvironment :=
  (TestEnvironment.fresh now id stage (joinPath o.tmpRoot id)).addResource (joinPath o.tmpRoot id)

/-- Recording an environment whose engines have been called, or discarding it. -/
def conclude (sv : Services σ) (tmpDir : String) :
    Except OrchestratorError TestEnvironment × World σ →
      Except OrchestratorError TestEnvironment × World σ
  | (.error err, w) => (.error err, discard tmpDir w)
  | (.ok e, w) =>
    match sv.store (.insert e) w.now.1 w.now.2 with
    | (.error cause, w) => (.error (.persistence cause.message), discard tmpDir w)
    | (.ok (), w) => (.ok e, w)

theorem create_of_makeDirs {o : StageOrchestrator} {stage id : String} {setup : Setup}
    {w w₁ w₂ : World σ} (resolved : o.setupOf stage = .ok setup)
    (named : freshId sv stage w = (.ok id, w₁))
    (made : w₁.makeDirs (joinPath o.tmpRoot id) = (.ok (), w₂)) :
    o.create sv stage w = conclude sv (joinPath o.tmpRoot id)
      (runSetup sv setup (o.newborn stage id w₂.now.1) w₂.now.2) := by
  unfold create
  simp only [resolved, named, createWithId, made]
  show (match runSetup sv setup (o.newborn stage id w₂.now.1) w₂.now.2 with
    | (.error err, w) => (Except.error err, discard (joinPath o.tmpRoot id) w)
    | (.ok e, w) => _) = _
  cases runSetup sv setup (o.newborn stage id w₂.now.1) w₂.now.2 with | mk result w₃
  cases result <;> rfl

theorem conclude_trail (hq : sv.Quiet) (tmpDir : String)
    (r : Except OrchestratorError TestEnvironment × World σ) :
    r.2.Trail [] (conclude sv tmpDir r).2 := by
  obtain ⟨result, w⟩ := r
  cases result with
  | error err => exact w.removeDir_trail tmpDir
  | ok e =>
    have asked := w.now_trail.before (hq.store (.insert e) w.now.1 w.now.2)
    simp only [conclude]
    cases stored : sv.store (.insert e) w.now.1 w.now.2 with | mk answer w'
    rw [stored] at asked
    cases answer with
    | error cause => exact asked.before (w'.removeDir_trail tmpDir)
    | ok => exact asked

/-- Creating fails before any engine is called, or the directory is there and the rest is the
setup. -/
theorem create_starts (hq : sv.Quiet) (o : StageOrchestrator) (stage : String) (w : World σ) :
    (∃ err, (o.create sv stage w).1 = .error err ∧ w.Draws (o.create sv stage w).2) ∨
    ∃ setup id w₂, o.setupOf stage = .ok setup ∧ Drawn stage w.bits w.drawn w₂.drawn id ∧
      w.Draws w₂ ∧ o.create sv stage w = conclude sv (joinPath o.tmpRoot id)
        (runSetup sv setup (o.newborn stage id w₂.now.1) w₂.now.2) := by
  have sought := freshId_draws hq stage w
  cases resolved : o.setupOf stage with
  | error err =>
    have whole : o.create sv stage w = (.error err, w) := by simp only [create, resolved]
    exact .inl ⟨err, by rw [whole], by rw [whole]; exact .refl w⟩
  | ok setup =>
    cases named : freshId sv stage w with | mk answer w₁
    rw [named] at sought
    cases answer with
    | error err =>
      have whole : o.create sv stage w = (.error err, w₁) := by
        simp only [create, resolved, named]
      exact .inl ⟨err, by rw [whole], by rw [whole]; exact sought⟩
    | ok id =>
      have homed := w₁.makeDirs_trail (joinPath o.tmpRoot id)
      cases made : w₁.makeDirs (joinPath o.tmpRoot id) with | mk answer w₂
      rw [made] at homed
      cases answer with
      | error f =>
        have whole : o.create sv stage w = (.error (.io f), w₂) := by
          simp only [create, resolved, named, createWithId, made]
        exact .inl ⟨_, by rw [whole], by rw [whole]; exact sought.trans homed.draws⟩
      | ok =>
        refine .inr ⟨setup, id, w₂, rfl, ?_, sought.trans homed.draws,
          create_of_makeDirs resolved named made⟩
        rw [homed.drawn]
        exact freshIdIn_drawn hq stage maxIdAttempts named

/-- The ways in which creating can end. -/
inductive Creates (sv : Services σ) (o : StageOrchestrator) (stage : String) (w : World σ) :
    Except OrchestratorError TestEnvironment × World σ → Prop
  | unresolved {err : OrchestratorError} (resolved : o.setupOf stage = .error err) :
      Creates sv o stage w (.error err, w)
  | unnamed {err : OrchestratorError} {w₁ : World σ}
      (named : freshId sv stage w = (.error err, w₁)) : Creates sv o stage w (.error err, w₁)
  | homeless {id : String} {f : SystemFault} {w₁ w₂ : World σ}
      (named : freshId sv stage w = (.ok id, w₁))
      (made : w₁.makeDirs (joinPath o.tmpRoot id) = (.error f, w₂)) :
      Creates sv o stage w (.error (.io f), w₂)
  | broken {setup : Setup} {id : String} {err : OrchestratorError} {w₁ w₂ w₃ : World σ}
      (resolved : o.setupOf stage = .ok setup) (named : freshId sv stage w = (.ok id, w₁))
      (made : w₁.makeDirs (joinPath o.tmpRoot id) = (.ok (), w₂))
      (run : runSetup sv setup (o.newborn stage id w₂.now.1) w₂.now.2 = (.error err, w₃)) :
      Creates sv o stage w (.error err, discard (joinPath o.tmpRoot id) w₃)
  | refused {setup : Setup} {id : String} {e : TestEnvironment} {cause : StoreError}
      {w₁ w₂ w₃ w₄ : World σ}
      (resolved : o.setupOf stage = .ok setup) (named : freshId sv stage w = (.ok id, w₁))
      (made : w₁.makeDirs (joinPath o.tmpRoot id) = (.ok (), w₂))
      (run : runSetup sv setup (o.newborn stage id w₂.now.1) w₂.now.2 = (.ok e, w₃))
      (stored : sv.store (.insert e) w₃.now.1 w₃.now.2 = (.error cause, w₄)) :
      Creates sv o stage w
        (.error (.persistence cause.message), discard (joinPath o.tmpRoot id) w₄)
  | recorded {setup : Setup} {id : String} {e : TestEnvironment} {w₁ w₂ w₃ w₄ : World σ}
      (resolved : o.setupOf stage = .ok setup) (named : freshId sv stage w = (.ok id, w₁))
      (made : w₁.makeDirs (joinPath o.tmpRoot id) = (.ok (), w₂))
      (run : runSetup sv setup (o.newborn stage id w₂.now.1) w₂.now.2 = (.ok e, w₃))
      (stored : sv.store (.insert e) w₃.now.1 w₃.now.2 = (.ok (), w₄)) :
      Creates sv o stage w (.ok e, w₄)

theorem create_creates (sv : Services σ) (o : StageOrchestrator) (stage : String)
    (w : World σ) : Creates sv o stage w (o.create sv stage w) := by
  cases resolved : o.setupOf stage with
  | error err =>
    rw [show o.create sv stage w = (.error err, w) by simp only [create, resolved]]
    exact .unresolved resolved
  | ok setup =>
    cases named : freshId sv stage w with | mk answer w₁
    cases answer with
    | error err =>
      rw [show o.create sv stage w = (.error err, w₁) by simp only [create, resolved, named]]
      exact .unnamed named
    | ok id =>
      cases made : w₁.makeDirs (joinPath o.tmpRoot id) with | mk answer w₂
      cases answer with
      | error f =>
        rw [show o.create sv stage w = (.error (.io f), w₂) by
          simp only [create, resolved, named, createWithId, made]]
        exact .homeless named made
      | ok =>
        rw [create_of_makeDirs resolved named made]
        cases run : runSetup sv setup (o.newborn stage id w₂.now.1) w₂.now.2 with | mk result w₃
        cases result with
        | error err => exact .broken resolved named made run
        | ok e =>
          cases stored : sv.store (.insert e) w₃.now.1 w₃.now.2 with | mk answer w₄
          cases answer with
          | error cause =>
            simp only [conclude, stored]
            exact .refused resolved named made run stored
          | ok =>
            simp only [conclude, stored]
            exact .recorded resolved named made run stored

/-- Between the worlds before and after the setup that a request to create comes to, if it comes to
one, a relation holds that may depend on the identifier. -/
def SetsUp (o : StageOrchestrator) (sv : Services σ) (stage : String) (w : World σ)
    (R : String → World σ → World σ → Prop) : Prop :=
  ∀ {setup : Setup} {id : String} {w₁ w₂ w₃ : World σ}
    {result : Except OrchestratorError TestEnvironment},
    o.setupOf stage = .ok setup → freshId sv stage w = (.ok id, w₁) →
    w₁.makeDirs (joinPath o.tmpRoot id) = (.ok (), w₂) →
    runSetup sv setup (o.newborn stage id w₂.now.1) w₂.now.2 = (result, w₃) → R id w₂ w₃

/-! ### Threading -/

/-- What a chain makes of an environment of which it knows nothing. -/
theorem newborn_grown {o : StageOrchestrator} {stage id : String} {now : Timestamp}
    {replies : List ToolResult} {e : TestEnvironment}
    (h : (o.newborn stage id now).Grown replies e) :
    e.id = id ∧ e.stage = stage ∧ e.tmpDir = joinPath o.tmpRoot id ∧
      (∀ key, e.files.find? key = latest "files" key replies) ∧
      (∀ key, e.metadata.find? key = latest "metadata" key replies) ∧
      e.managedResources =
        (joinPath o.tmpRoot id :: replies.flatMap ToolResult.resources).eraseDups := by
  refine ⟨h.id, h.stage, h.tmpDir, ?_, ?_, h.resources [joinPath o.tmpRoot id] rfl⟩
  · intro key
    rw [h.files]
    exact Option.or_none
  · intro key
    rw [h.metadata]
    exact Option.or_none

/-- The engines of a chain are called in order, each told the metadata that those before it have
returned.  Unless one fails, the environment has what all replies add up to, and it is recorded as
it is returned. -/
theorem create_threads (hq : sv.Quiet) (hk : sv.Keeps v) {o : StageOrchestrator}
    {stage id : String} {entries : List ChainEntry} {w w₁ w₂ : World σ}
    (resolved : o.setupOf stage = .ok (.chain entries))
    (named : freshId sv stage w = (.ok id, w₁))
    (made : w₁.makeDirs (joinPath o.tmpRoot id) = (.ok (), w₂)) :
    ∃ said replies w₃, sv.Exchanges w₂.now.2 said w₃ ∧
      (o.create sv stage w).2.calls = w.calls ++ said.map Exchange.call ∧
      ((∃ entry err, entries[replies.length]? = some entry ∧
        said.map Exchange.answer = replies.map .ok ++ [.error err] ∧
        (o.create sv stage w).1 = .error (.ofStep replies.length entry.engine err)) ∨
      said.map Exchange.answer = replies.map .ok ∧ said.length = entries.length ∧
      (∀ i entry, entries[i]? = some entry → ∃ m : KeyMap String,
        (∀ key, m.find? key = latest "metadata" key (replies.take i)) ∧
        (said.map Exchange.call)[i]? = some ⟨entry.engine, "create",
          told [("testID", some (.str id)), ("stage", some (.str stage)),
            ("tmpDir", some (.str (joinPath o.tmpRoot id))),
            ("metadata", some (Json.ofStringMap m)), ("spec", entry.spec.map Document.toJson)]⟩) ∧
      ∃ e : TestEnvironment, e.id = id ∧ e.stage = stage ∧ e.tmpDir = joinPath o.tmpRoot id ∧
        (∀ key, e.files.find? key = latest "files" key replies) ∧
        (∀ key, e.metadata.find? key = latest "metadata" key replies) ∧
        e.managedResources =
          (joinPath o.tmpRoot id :: replies.flatMap ToolResult.resources).eraseDups ∧
        match sv.store (.insert e) w₃.now.1 w₃.now.2 with
        | (.error cause, w') => o.create sv stage w =
            (.error (.persistence cause.message), discard (joinPath o.tmpRoot id) w')
        | (.ok (), w') => o.create sv stage w = (.ok e, w') ∧
            ∃ t d, v.decode t (v.kept w₃) = .ok d ∧ v.kept w' = v.encode
              { d with environments := d.environments.insert id e, lastUpdated := t }
              (v.kept w₃)) := by
  obtain ⟨said, replies, result, w₃, spoken, calls, outcome, run⟩ :=
    runSetup_outcome sv (.chain entries) (o.newborn stage id w₂.now.1) w₂.now.2
  have whole := create_of_makeDirs resolved named made
  rw [run] at whole
  have log : (o.create sv stage w).2.calls = w.calls ++ said.map Exchange.call := by
    have sought := freshId_draws hq stage w
    have homed := (w₁.makeDirs_trail (joinPath o.tmpRoot id)).draws
    rw [named] at sought
    rw [made] at homed
    rw [whole, (conclude_trail hq _ _).calls, List.append_nil, (spoken.trail hq).calls,
      ← (sought.trans homed).calls]
    rfl
  refine ⟨said, replies, w₃, spoken, log, ?_⟩
  cases outcome with
  | failed answers here =>
    rw [Setup.engines, List.getElem?_map, Option.map_eq_some_iff] at here
    obtain ⟨entry, found, rfl⟩ := here
    refine .inl ⟨entry, _, found, answers, ?_⟩
    rw [whole, Nat.zero_add]
    rfl
  | @done e answers all grown =>
    obtain ⟨hid, hstage, htmp, hfiles, hmetadata, hresources⟩ := newborn_grown grown
    rw [Setup.engines, List.length_map] at all
    have spokenAll : said.length = entries.length := by
      rw [← all, ← List.length_map (f := Exchange.answer), answers, List.length_map]
    refine .inr ⟨answers, spokenAll, ?_, e, hid, hstage, htmp, hfiles, hmetadata, hresources, ?_⟩
    · intro i entry h
      have hi : i < entries.length := (List.getElem?_eq_some_iff.1 h).1
      obtain ⟨m, hm, hcall⟩ := createPlan_getElem? (o.newborn stage id w₂.now.1) entries .empty
        replies i entry h (by omega)
      refine ⟨m, ?_, ?_⟩
      · intro key
        rw [hm]
        exact Option.or_none
      · rw [calls]
        show (createPlan (o.newborn stage id w₂.now.1) .empty entries replies)[i]? = _
        rw [hcall, createCall, createArguments_eq]
        rfl
    · cases stored : sv.store (.insert e) w₃.now.1 w₃.now.2 with | mk answer w'
      simp only [conclude, stored] at whole
      cases answer with
      | error cause => exact whole
      | ok =>
        obtain ⟨d, read, _, written⟩ := hk.insert_done stored
        exact ⟨whole, _, d, read, hid ▸ written⟩

/-- The second engine takes the port of the first one's place, and a volume is listed once. -/
theorem create_threads_pair :
    let w := World.opening (fun _ => 0) [] [
      .ok ⟨[], some (.obj [("metadata", .obj [("port", .str "1"), ("host", .null)])]), false⟩,
      .ok ⟨[], some (.obj [("metadata", .obj [("port", .str "2")]),
        ("managedResources", .arr [.str "volume", .null, .str "volume"])]), false⟩]
    let id := "test-unit-19700101-00000000"
    paired.setupOf "unit" = .ok (.chain ChainEntry.pair) ∧
    (freshId .scripted "unit" w).1 = .ok id ∧
    ((freshId .scripted "unit" w).2.makeDirs (joinPath "/tmp" id)).1 = .ok () ∧
    ∃ e replies, (paired.create .scripted "unit" w).1 = .ok e ∧ replies.length = 2 ∧
      (∀ key, e.metadata.find? key = latest "metadata" key replies) ∧
      e.metadata.find? "port" = some "2" ∧
      e.managedResources = ["/tmp/test-unit-19700101-00000000", "volume"] := by
  intro w id
  have resolved : paired.setupOf "unit" = .ok (.chain ChainEntry.pair) := rfl
  have named : (freshId .scripted "unit" w).1 = .ok id := by decide +kernel
  have made : ((freshId .scripted "unit" w).2.makeDirs (joinPath "/tmp" id)).1 = .ok () := by
    decide +kernel
  have computed : (paired.create .scripted "unit" w).1.toOption.map
      (fun e => (e.metadata.find? "port", e.managedResources)) =
      some (some "2", ["/tmp/test-unit-19700101-00000000", "volume"]) := by decide +kernel
  refine ⟨resolved, named, made, ?_⟩
  obtain ⟨said, replies, w₃, _, _, outcome⟩ :=
    create_threads Services.scripted_quiet Services.scripted_keeps resolved
      (Prod.ext named rfl) (Prod.ext made rfl)
  rcases outcome with ⟨_, _, _, _, failed⟩ |
    ⟨answers, all, _, e, _, _, _, _, hmetadata, _, whole⟩
  · rw [failed] at computed
    cases computed
  · have two : replies.length = 2 := by
      have lengths := congrArg List.length answers
      rw [List.length_map, List.length_map, all] at lengths
      exact lengths.symm
    split at whole
    · rw [whole] at computed
      cases computed
    · rw [whole.1] at computed ⊢
      simp only [Except.toOption, Option.map_some, Option.some.injEq, Prod.mk.injEq] at computed
      exact ⟨e, replies, rfl, two, hmetadata, computed.1, computed.2⟩

end StageOrchestrator

end Orchestration
