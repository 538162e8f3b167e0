import Orchestration.Proofs.Creation
import Orchestration.Proofs.FileView

/-!
# Creating is all or nothing

An environment is recorded when everything else has succeeded, so a failure before that has
nothing to undo in the store.  All that could reach the store's content otherwise is the making
and the removal of the environment's directory:

* `freshIdIn_taken` — identifiers that are taken are refused before anything is made;
* `Unresolvable` — a stage without a setup;
* `create_kept_of_setsUp`, `create_kept` — one more record, or the records as they were;
* `create_stops` — the first engine that fails is the last one called;
* `create_allOrNothing` — the whole.
-/

namespace Orchestration

variable {σ κ : Type} {sv : Services σ} {v : StoreView σ κ}

namespace StageOrchestrator

/-! ### Identifiers -/

/-- Seeking an identifier only reads. -/
theorem freshId_still (asks : ∀ id t (u : World σ), (sv.store (.contains id) t u).2 = u)
    (stage : String) (w : World σ) : w.Still (freshId sv stage w).2 := by
  refine freshIdIn_keeps (P := w.Still) stage (fun u h => ⟨h.1, h.2, h.3⟩)
    (fun u h => ⟨h.1, h.2, h.3⟩) ?_ maxIdAttempts w ⟨rfl, rfl, rfl⟩
  intro id u h
  have still : (sv.perform (.contains id) u).2 = u.now.2 := asks id _ _
  rw [still]
  exact ⟨h.1, h.2, h.3⟩

/-- The identifiers that are tried in a number of attempts. -/
def triedIds (stage : String) (attempts : Nat) (w : World σ) : List String :=
  (List.range attempts).map fun j =>
    testId stage (w.clock (w.readings + 2 * j)) (w.bits (w.drawn + j))

/-- The world after an attempt: the clock has been read twice. -/
def attempted (w : World σ) : World σ := w.now.2.drawBits.2.now.2

theorem triedIds_succ (stage : String) (attempts : Nat) (w : World σ) :
    triedIds stage (attempts + 1) w =
      nextId stage w :: triedIds stage attempts (attempted w) := by
  unfold triedIds
  rw [List.range_succ_eq_map, List.map_cons, List.map_map]
  refine congrArg (nextId stage w :: ·) (List.map_congr_left fun j _ => ?_)
  show testId stage (w.clock (w.readings + 2 * (j + 1))) (w.bits (w.drawn + (j + 1))) =
    testId stage (w.clock (w.readings + 1 + 1 + 2 * j)) (w.bits (w.drawn + 1 + j))
  rw [show w.readings + 2 * (j + 1) = w.readings + 1 + 1 + 2 * j by omega,
    show w.drawn + (j + 1) = w.drawn + 1 + j by omega]

/-- When every identifier that is tried is taken, there is none. -/
theorem freshIdIn_taken (hk : sv.Keeps v) (stage : String) : ∀ (attempts : Nat) (w : World σ),
    (∀ t d, v.decode t (v.kept w) = .ok d →
      ∀ id ∈ triedIds stage attempts w, d.hasEnvironment id = true) →
    ∃ err, (freshIdIn sv stage attempts w).1 = .error err := by
  intro attempts
  induction attempts with
  | zero => exact fun w _ => ⟨_, rfl⟩
  | succ attempts ih =>
    intro w taken
    rw [triedIds_succ] at taken
    rw [freshIdIn_succ]
    have still : (sv.perform (.contains (nextId stage w)) w.now.2.drawBits.2).2 = attempted w :=
      hk.perform_reads rfl _
    cases answered : sv.perform (.contains (nextId stage w)) w.now.2.drawBits.2 with
    | mk answer w₁ =>
    rw [answered] at still
    obtain rfl : w₁ = attempted w := still
    rcases answer with err | found
    · exact ⟨err, rfl⟩
    · obtain ⟨d, d', read, applied, _⟩ := hk.done (Services.perform_ok answered)
      have here : d.hasEnvironment (nextId stage w) = true :=
        taken _ d read _ List.mem_cons_self
      simp only [StoreOp.apply, here, Except.ok.injEq, Prod.mk.injEq] at applied
      obtain ⟨rfl, _⟩ := applied
      exact ih (attempted w) fun t d hd id hid =>
        taken t d hd id (List.mem_cons_of_mem _ hid)

/-! ### Engines -/

theorem SetupOutcome.length {e : TestEnvironment} {index : Nat}
    {engines : List EngineReference} {said : List Exchange} {replies : List ToolResult}
    {result : Except OrchestratorError TestEnvironment}
    (h : SetupOutcome e index engines said replies result) :
    engines.take said.length = engines.take (replies.length + 1) := by
  cases h with
  | done answers all =>
    have := congrArg List.length answers
    rw [List.length_map, List.length_map, all] at this
    rw [this, List.take_length, List.take_of_length_le (by omega)]
  | failed answers here =>
    have := congrArg List.length answers
    rw [List.length_map, List.length_append, List.length_map] at this
    rw [this, List.length_singleton]

/-- A call that fails is the last one, and its failure is that of the whole. -/
theorem SetupOutcome.failure {e : TestEnvironment} {engines : List EngineReference}
    {said : List Exchange} {replies : List ToolResult}
    {result : Except OrchestratorError TestEnvironment}
    (h : SetupOutcome e 0 engines said replies result) {k : Nat} {x : Exchange}
    {err : OrchestratorError} (hx : said[k]? = some x) (hf : x.answer = .error err) :
    said.length = k + 1 ∧
      ∃ engine, engines[k]? = some engine ∧ result = .error (.ofStep k engine err) := by
  have answer : (said.map Exchange.answer)[k]? = some (.error err) := by
    rw [List.getElem?_map, hx, ← hf]
    rfl
  have replied : ∀ r : OrchestratorError,
      (replies.map fun a => (.ok a : Except OrchestratorError ToolResult))[k]? ≠
        some (.error r) := by
    intro r hr
    rw [List.getElem?_map, Option.map_eq_some_iff] at hr
    obtain ⟨_, _, hr⟩ := hr
    cases hr
  cases h with
  | done answers => exact absurd (answers ▸ answer) (replied err)
  | @failed engine cause answers here =>
    have length := congrArg List.length answers
    rw [List.length_map, List.length_append, List.length_map, List.length_singleton] at length
    have hk : k < said.length := (List.getElem?_eq_some_iff.1 hx).1
    rw [answers] at answer
    by_cases hlt : k < replies.length
    · rw [List.getElem?_append_left (by rwa [List.length_map])] at answer
      exact absurd answer (replied err)
    · obtain rfl : k = replies.length := by omega
      rw [List.getElem?_append_right (Nat.le_of_eq (List.length_map _)), List.length_map,
        Nat.sub_self, List.getElem?_cons_zero, Option.some.injEq, Except.error.injEq] at answer
      exact ⟨length, engine, here, by rw [answer, Nat.zero_add]⟩

/-- What is said while an environment is set up. -/
theorem runSetup_stops {setup : Setup} {e : TestEnvironment} {w w' : World σ}
    {result : Except OrchestratorError TestEnvironment}
    (run : runSetup sv setup e w = (result, w')) : ∃ said, sv.Exchanges w said w' ∧
      (∀ x ∈ said, x.call.tool = "create") ∧
      said.map (fun x => x.call.engine) = setup.engines.take said.length ∧
      ∀ k x err, said[k]? = some x → x.answer = .error err →
        said.length = k + 1 ∧ result = .error (.step k x.call.engine.display err) := by
  obtain ⟨said, replies, spoken, calls, outcome⟩ := runSetup_ends run
  have engines : said.map (fun x => x.call.engine) = setup.engines.take said.length := by
    rw [outcome.length, ← setupPlan_engines setup e replies, ← calls, List.map_map]
    rfl
  refine ⟨said, spoken, ?_, engines, ?_⟩
  · intro x hx
    refine setupPlan_tool setup e replies x.call ?_
    rw [← calls]
    exact List.mem_map_of_mem hx
  · intro k x err hx hf
    obtain ⟨length, engine, here, failed⟩ := outcome.failure hx hf
    have called := congrArg (·[k]?) engines
    simp only [List.getElem?_map, hx, length, List.getElem?_take, Nat.lt_succ_self, if_true,
      here, Option.map_some, Option.some.injEq] at called
    exact ⟨length, by rw [failed, called]; rfl⟩

/-- What creating has said to engines, and that a failed call is the last one. -/
structure Conversed (sv : Services σ) (o : StageOrchestrator) (stage : String) (w : World σ)
    (r : Except OrchestratorError TestEnvironment × World σ) (said : List Exchange) : Prop where
  spoken : ∃ before after, sv.Exchanges before said after ∧ before.calls = w.calls
  calls : r.2.calls = w.calls ++ said.map Exchange.call
  tools : ∀ x ∈ said, x.call.tool = "create"
  engines : ∀ setup, o.setupOf stage = .ok setup →
    said.map (fun x => x.call.engine) = setup.engines.take said.length
  failure : ∀ k x err, said[k]? = some x → x.answer = .error err →
    said.length = k + 1 ∧ r.1 = .error (.step k x.call.engine.display err)

theorem Conversed.silent {o : StageOrchestrator} {stage : String} {w : World σ}
    {r : Except OrchestratorError TestEnvironment × World σ} (h : r.2.calls = w.calls) :
    Conversed sv o stage w r [] where
  spoken := ⟨w, w, .nil w, rfl⟩
  calls := by rw [h]; exact (List.append_nil _).symm
  tools _ hx := absurd hx List.not_mem_nil
  engines _ _ := rfl
  failure _ _ _ hx := by cases hx

/-- The first engine that fails is the last one called. -/
theorem create_stops (hq : sv.Quiet) (o : StageOrchestrator) (stage : String) (w : World σ) :
    ∃ said, Conversed sv o stage w (o.create sv stage w) said := by
  rcases create_starts hq o stage w with ⟨_, _, idle⟩ |
    ⟨setup, id, w₂, resolved, _, idle, whole⟩
  · exact ⟨[], .silent idle.calls⟩
  · cases run : runSetup sv setup (o.newborn stage id w₂.now.1) w₂.now.2 with | mk result w₃
    obtain ⟨said, spoken, tools, engines, failure⟩ := runSetup_stops run
    rw [whole, run]
    refine ⟨said, ⟨_, _, spoken, idle.calls⟩, ?_, tools, ?_, ?_⟩
    · rw [(conclude_trail hq _ _).calls, List.append_nil, (spoken.trail hq).calls]
      exact congrArg (· ++ said.map Exchange.call) idle.calls
    · intro setup' h
      cases resolved.symm.trans h
      exact engines
    · intro k x err hx hf
      obtain ⟨length, rfl⟩ := failure k x err hx hf
      exact ⟨length, rfl⟩

/-! ### The store -/

/-- The store has one more record, or it is as it was. -/
def AllOrNothing (v : StoreView σ κ) (w : World σ) :
    Except OrchestratorError TestEnvironment × World σ → Prop
  | (.error _, w') => v.kept w' = v.kept w
  | (.ok e, w') => ∃ t d, v.decode t (v.kept w) = .ok d ∧ d.environments.find? e.id = none ∧
      v.kept w' = v.encode
        { d with environments := d.environments.insert e.id e, lastUpdated := t } (v.kept w)

theorem AllOrNothing.kept_of_error {w : World σ} {err : OrchestratorError}
    {r : Except OrchestratorError TestEnvironment × World σ} (h : AllOrNothing v w r)
    (failed : r.1 = .error err) : v.kept r.2 = v.kept w := by
  obtain ⟨result, w'⟩ := r
  obtain rfl : result = .error err := failed
  exact h

/-- A request to create is all or nothing, if neither its directory nor its engines reach what the
store keeps. -/
theorem create_kept_of_setsUp (hq : sv.Quiet) (hp : sv.Promises v)
    (asks : ∀ id t (u : World σ), (sv.store (.contains id) t u).2 = u) {o : StageOrchestrator}
    {stage : String} {w : World σ}
    (spared : ∀ t b, v.Spares w (joinPath o.tmpRoot (testId stage t b)))
    (alone : o.SetsUp sv stage w fun _ u u' => v.kept u' = v.kept u) :
    AllOrNothing v w (o.create sv stage w) := by
  have sought := freshId_still asks stage w
  have homed : ∀ {id w₁ w₂ r}, freshId sv stage w = (.ok id, w₁) →
      w₁.makeDirs (joinPath o.tmpRoot id) = (r, w₂) →
      v.kept w₂ = v.kept w ∧ w₂.cwd = w.cwd ∧
      ∀ w', w'.cwd = w.cwd → v.kept (discard (joinPath o.tmpRoot id) w') = v.kept w' := by
    intro id w₁ w₂ r named made
    obtain ⟨t, k, _, _, rfl⟩ := freshIdIn_drawn hq stage maxIdAttempts named
    rw [named] at sought
    have still := (sought.makeDirs (joinPath o.tmpRoot (testId stage t (w.bits k)))).kept v
    have there := (w₁.makeDirs_trail (joinPath o.tmpRoot (testId stage t (w.bits k)))).cwd
    rw [made, (spared t _).made] at still
    rw [made, sought.cwd] at there
    exact ⟨still, there, (spared t _).removed⟩
  have ends := create_creates sv o stage w
  generalize o.create sv stage w = r at ends
  cases ends with
  | unresolved => rfl
  | unnamed named =>
    rw [named] at sought
    exact sought.kept v
  | homeless named made => exact (homed named made).1
  | broken resolved named made run =>
    obtain ⟨there, place, gone⟩ := homed named made
    have kept := alone resolved named made run
    exact (gone _ ((runSetup_cwd hq run).trans place)).trans (kept.trans there)
  | @refused setup id e cause w₁ w₂ w₃ w₄ resolved named made run stored =>
    obtain ⟨there, place, gone⟩ := homed named made
    have kept := alone resolved named made run
    have refused := hp.failed stored
    have asked := (hq.store (.insert e) w₃.now.1 w₃.now.2).cwd
    rw [stored] at asked
    have here := asked.trans ((runSetup_cwd hq run).trans place)
    exact (gone _ here).trans (refused.trans (kept.trans there))
  | @recorded setup id e w₁ w₂ w₃ w₄ resolved named made run stored =>
    obtain ⟨d, read, free, written⟩ := hp.insert_done stored
    have kept := alone resolved named made run
    have here : v.kept w₃.now.2 = v.kept w := kept.trans (homed named made).1
    rw [here] at read written
    exact ⟨_, d, read, free, written⟩

theorem create_kept (hq : sv.Quiet) (hk : sv.Keeps v) {o : StageOrchestrator}
    {stage : String} {w : World σ}
    (spared : ∀ t b, v.Spares w (joinPath o.tmpRoot (testId stage t b))) :
    AllOrNothing v w (o.create sv stage w) := by
  refine create_kept_of_setsUp hq hk.promises (fun id t u => hk.reads rfl t u) spared ?_
  intro setup id w₁ w₂ w₃ result _ _ _ run
  obtain ⟨said, _, spoken, _, _⟩ := runSetup_ends run
  have kept := hk.kept_exchanges spoken
  exact kept

/-! ### The whole -/

/-- A stage that is blank or unknown, or whose alias stands for no chain of engines that set up
environments. -/
def Unresolvable (o : StageOrchestrator) (stage : String) : Prop :=
  blankText stage = true ∨ o.stages.find? stage = none ∨
    ∃ s name err, o.stages.find? stage = some s ∧ s.testenv = some (.chain name) ∧
      o.aliases.lookup name .testenv = .error err

theorem setupOf_unresolvable {o : StageOrchestrator} {stage : String}
    (h : o.Unresolvable stage) : ∃ err, o.setupOf stage = .error err := by
  by_cases blank : blankText stage = true
  · exact ⟨_, by simp only [setupOf, StageOrchestrator.stage, blank, if_true]; rfl⟩
  · simp only [setupOf, StageOrchestrator.stage, blank, Bool.false_eq_true, if_false]
    rcases h with h | h | ⟨s, name, err, hs, hname, herr⟩
    · exact absurd h blank
    · exact ⟨_, by rw [h]; rfl⟩
    · refine ⟨.ofResolve err, ?_⟩
      rw [hs]
      show o.setup s = _
      simp only [setup, hname, herr]

/-- Without a setup, or without an identifier, nothing is done. -/
theorem create_nothing (hq : sv.Quiet) (hk : sv.Keeps v) {o : StageOrchestrator}
    {stage : String} {w : World σ}
    (h : o.Unresolvable stage ∨ ∀ t d, v.decode t (v.kept w) = .ok d →
      ∀ id ∈ triedIds stage maxIdAttempts w, d.hasEnvironment id = true) :
    ∃ err w', o.create sv stage w = (.error err, w') ∧ w'.calls = w.calls ∧
      w'.disk = w.disk := by
  cases resolved : o.setupOf stage with
  | error err => exact ⟨err, w, by simp only [create, resolved], rfl, rfl⟩
  | ok setup =>
    rcases h with unresolvable | taken
    · obtain ⟨err, failed⟩ := setupOf_unresolvable unresolvable
      cases resolved.symm.trans failed
    · obtain ⟨err, none⟩ := freshIdIn_taken hk stage maxIdAttempts w taken
      have named : freshId sv stage w = (.error err, (freshId sv stage w).2) := Prod.ext none rfl
      refine ⟨err, (freshId sv stage w).2, ?_, (freshId_draws hq stage w).calls,
        (freshId_still (fun id t u => hk.reads rfl t u) stage w).disk⟩
      unfold create
      rw [resolved, named]

/-- Creating is all or nothing, if making and removing the environment's directory leaves the
store's content alone; the first engine that fails is the last one called; and without a setup or
an identifier nothing is done. -/
theorem create_allOrNothing (hq : sv.Quiet) (hk : sv.Keeps v) (o : StageOrchestrator)
    (stage : String) {w : World σ}
    (spared : ∀ t b, v.Spares w (joinPath o.tmpRoot (testId stage t b))) :
    AllOrNothing v w (o.create sv stage w) ∧
    (∃ said, Conversed sv o stage w (o.create sv stage w) said) ∧
    ((o.Unresolvable stage ∨ ∀ t d, v.decode t (v.kept w) = .ok d →
        ∀ id ∈ triedIds stage maxIdAttempts w, d.hasEnvironment id = true) →
      ∃ err w', o.create sv stage w = (.error err, w') ∧ w'.calls = w.calls ∧
        w'.disk = w.disk) :=
  ⟨create_kept hq hk spared, create_stops hq o stage w, create_nothing hq hk⟩

/-- The second engine fails: the records are those from before. -/
theorem create_allOrNothing_second_failing :
    let w := World.opening (fun _ => 0) [.sample] [.ok default, .error (.connect "refused")]
    (∀ t b, StoreView.inMemory.Spares w (joinPath paired.tmpRoot (testId "unit" t b))) ∧
      (paired.create .scripted "unit" w).1 =
        .error (.step 1 "go://database" (.connect "refused")) ∧
      StoreView.inMemory.kept (paired.create .scripted "unit" w).2 =
        StoreView.inMemory.kept w := by
  intro w
  have spared : ∀ t b, StoreView.inMemory.Spares w (joinPath paired.tmpRoot (testId "unit" t b)) :=
    fun t b => StoreView.inMemory_spares w _
  have failed : (paired.create .scripted "unit" w).1 =
      .error (.step 1 "go://database" (.connect "refused")) := by decide +kernel
  have whole := create_allOrNothing Services.scripted_quiet Services.scripted_keeps paired "unit"
    spared
  exact ⟨spared, failed, whole.1.kept_of_error failed⟩

/-- The identifiers of the recorded environments. -/
def listedIds (sv : Services σ) (w : World σ) : Option (List String) :=
  (list sv none w).1.toOption.map fun es => es.map TestEnvironment.id

/-- Where the way to the store's file leads through the environments' directory and out of it
again, making that directory brings the records of a file to light that could not be read
before. -/
theorem create_reveals_records :
    let sv : Services Unit := .inFile "/tmp/test-x/../../s" fun _ _ _ w => (.ok default, w)
    let o : StageOrchestrator := ⟨KeyMap.ofList [("x/y", ⟨"x/y", none⟩)], .empty, "/tmp"⟩
    let file := StoreDocument.toText { StoreDocument.empty .epoch with
      environments := KeyMap.ofList [("test-unit-1", .sample)] }
    let w : World Unit := ⟨⟨[(["s"], .file file false)]⟩, [], fun _ => .epoch, 0, fun _ => 0, 0, [],
      ()⟩
    listedIds sv w = some [] ∧
      (o.create sv "x/y" w).1.toOption.map TestEnvironment.id =
        some "test-x/y-19700101-00000000" ∧
      listedIds sv (o.create sv "x/y" w).2 =
        some ["test-unit-1", "test-x/y-19700101-00000000"] := by
  refine ⟨?_, ?_, ?_⟩ <;> decide +kernel

end StageOrchestrator

end Orchestration
