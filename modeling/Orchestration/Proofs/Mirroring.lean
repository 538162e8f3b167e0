import Orchestration.Proofs.Runs

/-!
# Taking down mirrors setting up

Over a whole run, the calls about one environment are those that set it up, and then, for every
request to delete it that finds it on record, one pass over the same engines backwards, told what
the environment was when it was created:

* `passes` — how many requests to delete an environment find it on record;
* `Apart` — no random bits are drawn by two requests of a run;
* `Faithful` — the record of an environment keeps its stage and its metadata;
* `create_about` — what setting it up has said;
* `act_about`, `run_about` — what a request, and then a run, adds to the calls about it;
* `Mirrors`, `calls_mirror` — what is said of an environment, in a run with identifiers of its own;
* `run_mirrors` — the whole.
-/

namespace Orchestration

variable {σ : Type} {sv : Services σ} {held : World σ → String → TestEnvironment → Prop}

/-- Whether a call is told of an environment. -/
def EngineCall.isAbout (id : String) (c : EngineCall) : Bool := c.testId? == some id

/-- Whether a request is to delete an environment. -/
def Request.deletes (id : String) : Request → Bool
  | .delete other => other == id
  | _ => false

namespace StageOrchestrator

/-- How many requests to delete an environment find it on record. -/
def passes (o : StageOrchestrator) (sv : Services σ) (id : String) : List Request → World σ → Nat
  | [], _ => 0
  | r :: rest, w =>
    (if r.deletes id && (sv.perform (.get id) w).1.isOk then 1 else 0) +
      passes o sv id rest (o.act sv w r)

/-- No random bits are drawn by two requests of a run. -/
def Apart (o : StageOrchestrator) (sv : Services σ) (requests : List Request) (w : World σ) :
    Prop :=
  ∀ before after, requests = before ++ after → ∀ i j, w.drawn ≤ i →
    i < (o.run sv before w).drawn → (o.run sv before w).drawn ≤ j →
    j < (o.run sv requests w).drawn → w.bits i ≠ w.bits j

/-- What is on record of an environment agrees with it in all that taking it down depends on. -/
def Faithful (held : World σ → String → TestEnvironment → Prop) (e : TestEnvironment)
    (w : World σ) : Prop :=
  ∀ x, held w e.id x → x.stage = e.stage ∧ x.metadata = e.metadata

/-! ### Plans -/

theorem deletePlan_congr (o : StageOrchestrator) {e x : TestEnvironment} (hid : x.id = e.id)
    (hstage : x.stage = e.stage) (hmetadata : x.metadata = e.metadata) :
    o.deletePlan x = o.deletePlan e := by
  simp only [deletePlan, hid, hstage, hmetadata]

theorem deletePlan_chain {o : StageOrchestrator} {e : TestEnvironment}
    {entries : List ChainEntry} (resolved : o.setupOf e.stage = .ok (.chain entries)) :
    (o.deletePlan e).map Prod.snd = entries.reverse.map fun entry => ⟨entry.engine, "delete",
      told [("testID", some (.str e.id)), ("stage", some (.str e.stage)),
        ("metadata", some (Json.ofStringMap e.metadata)),
        ("spec", entry.spec.map Document.toJson)]⟩ := by
  unfold deletePlan
  rw [resolved]
  simp only [List.map_reverse, List.map_map]
  congr 1
  conv => rhs; rw [← List.zipIdx_map_fst 0 entries, List.map_map]
  rfl

/-- When every engine of a chain has replied, every one of them has been called. -/
theorem createPlan_all (e : TestEnvironment) (entries : List ChainEntry) :
    ∀ (metadata : KeyMap String) (replies : List ToolResult),
      replies.length = entries.length →
      (createPlan e metadata entries replies).map
          (fun c => (c.engine, c.tool, c.arguments.find? "spec")) =
        entries.map fun entry => (entry.engine, "create", entry.spec.map Document.toJson) := by
  induction entries with
  | nil => intro metadata replies _; rfl
  | cons entry rest ih =>
    intro metadata replies h
    cases replies with
    | nil => cases h
    | cons r replies =>
      rw [createPlan, List.map_cons, List.map_cons, ih _ replies (Nat.succ.inj h), createCall,
        createArguments_spec]

/-! ### Calls about one environment -/

theorem filter_isAbout_of_all {id : String} {calls : List EngineCall}
    (h : ∀ c ∈ calls, c.testId? = some id) : calls.filter (EngineCall.isAbout id) = calls :=
  List.filter_eq_self.2 fun c hc => by rw [EngineCall.isAbout, h c hc, beq_self_eq_true]

theorem filter_isAbout_of_others {id : String} {calls : List EngineCall}
    (h : ∀ c ∈ calls, ∀ other, c.testId? = some other → other ≠ id) :
    calls.filter (EngineCall.isAbout id) = [] := by
  refine List.filter_eq_nil_iff.2 ?_
  intro c hc about
  exact h c hc id (by simpa [EngineCall.isAbout] using about) rfl

/-- Random bits tell identifiers apart. -/
theorem Drawn.ne {stage stage' : String} {bits : Nat → UInt32} {lo hi k : Nat} {id : String}
    {t : Timestamp} (h : Drawn stage bits lo hi id)
    (apart : ∀ j, lo ≤ j → j < hi → bits j ≠ bits k) : id ≠ testId stage' t (bits k) := by
  obtain ⟨t', j, hlo, hhi, rfl⟩ := h
  exact fun same => apart j hlo hhi (testId_bits same)

/-- A request adds a pass to the calls about an environment if it deletes it, and else nothing. -/
theorem act_about (hq : sv.Quiet) (hr : sv.Recording held) (o : StageOrchestrator) (r : Request)
    {lo k : Nat} {stage : String} {t : Timestamp} {e : TestEnvironment} {w : World σ}
    (owned : Owned held lo w) (faithful : Faithful held e w)
    (named : e.id = testId stage t (w.bits k))
    (apart : ∀ j, w.drawn ≤ j → j < (o.act sv w r).drawn → w.bits j ≠ w.bits k) :
    Faithful held e (o.act sv w r) ∧
    (o.act sv w r).calls.filter (EngineCall.isAbout e.id) =
      w.calls.filter (EngineCall.isAbout e.id) ++ (List.replicate
        (if r.deletes e.id && (sv.perform (.get e.id) w).1.isOk then 1 else 0)
        ((o.deletePlan e).map Prod.snd)).flatten := by
  cases r with
  | create other =>
    obtain ⟨calls, said⟩ := create_calls hq o other w
    have recorded := create_recorded hr o other w
    show Faithful held e (o.create sv other w).2 ∧ (o.create sv other w).2.calls.filter _ = _
    change ∀ j, w.drawn ≤ j → j < (o.create sv other w).2.drawn → _ at apart
    cases whole : o.create sv other w with | mk result w'
    rw [whole] at said recorded apart
    obtain ⟨log, _, _, plan⟩ := said
    have others : calls.filter (EngineCall.isAbout e.id) = [] := by
      refine filter_isAbout_of_others ?_
      intro c hc id hid
      rcases plan with ⟨rfl, _⟩ | ⟨setup, id', now, replies, _, drawn, rfl, _⟩
      · exact absurd hc List.not_mem_nil
      · obtain rfl : id = id' := setupPlan_testId hc hid
        rw [named]
        exact drawn.ne apart
    refine ⟨?_, by rw [log, List.filter_append, others]; rfl⟩
    intro x hx
    cases result with
    | error err => exact faithful x (recorded _ x hx)
    | ok e' =>
      rcases recorded _ x hx with ⟨same, _⟩ | ⟨_, old⟩
      · rcases plan with ⟨_, _, hne⟩ | ⟨setup, id', now, replies, _, drawn, _, grown⟩
        · cases hne
        · rw [(newborn_grown (grown e' rfl).1).1, named] at same
          exact absurd same.symm (drawn.ne apart)
      · exact faithful x old
  | delete id =>
    refine ⟨fun x hx => faithful x (delete_within hr o id w _ x hx), ?_⟩
    show (o.delete sv id w).2.calls.filter _ = _
    by_cases here : id = e.id
    · subst here
      have sought : Request.deletes e.id (.delete e.id) = true := beq_self_eq_true e.id
      rcases delete_calls hq o e.id w with ⟨x, _, found, trail⟩ | ⟨absent, trail⟩
      · have onRecord := hr.perform_found found
        obtain ⟨hstage, hmetadata⟩ := faithful x onRecord
        rw [deletePlan_congr o (owned.held _ x onRecord).1 hstage hmetadata] at trail
        rw [trail.calls, List.filter_append, filter_isAbout_of_all fun c hc => deletePlan_testId hc,
          sought, found]
        simp [Except.isOk, Except.toBool]
      · rcases absent with blank | ⟨err, missing⟩
        · rw [named, blankText_testId] at blank
          cases blank
        · rw [trail.calls, sought, missing]
          simp [Except.isOk, Except.toBool]
    · have elsewhere : Request.deletes e.id (.delete id) = false := by
        simpa [Request.deletes] using here
      rw [elsewhere]
      rcases delete_calls hq o id w with ⟨x, _, found, trail⟩ | ⟨_, trail⟩
      · have others : ((o.deletePlan x).map Prod.snd).filter (EngineCall.isAbout e.id) = [] := by
          refine filter_isAbout_of_others ?_
          intro c hc other hother
          obtain rfl : x.id = other :=
            Option.some.inj ((deletePlan_testId hc).symm.trans hother)
          rw [(owned.held id x (hr.perform_found found)).1]
          exact here
        rw [trail.calls, List.filter_append, others]
        rfl
      · rw [trail.calls, List.append_nil]
        exact (List.append_nil _).symm
  | recordOutcome id passed =>
    refine ⟨?_, ?_⟩
    · intro x hx
      obtain ⟨y, status, time, hy, rfl⟩ := recordOutcome_alike hr id passed w _ x hx
      exact faithful y hy
    · show (recordOutcome sv id passed w).2.calls.filter _ = _
      rw [(recordOutcome_trail hq id passed w).calls, List.append_nil]
      exact (List.append_nil _).symm
  | list stage =>
    refine ⟨fun x hx => faithful x (hr.perform_reads rfl w _ x hx), ?_⟩
    show (sv.perform (.list stage) w).2.calls.filter _ = _
    rw [(hq.perform (.list stage) w).calls, List.append_nil]
    exact (List.append_nil _).symm

/-- What a run adds to the calls about an environment: a pass for every request that deletes it. -/
theorem run_about (hq : sv.Quiet) (hr : sv.Recording held) (o : StageOrchestrator)
    {lo k : Nat} {stage : String} {t : Timestamp} {e : TestEnvironment}
    (requests : List Request) : ∀ {w : World σ}, Owned held lo w → Faithful held e w →
      e.id = testId stage t (w.bits k) →
      (∀ j, w.drawn ≤ j → j < (o.run sv requests w).drawn → w.bits j ≠ w.bits k) →
      (o.run sv requests w).calls.filter (EngineCall.isAbout e.id) =
        w.calls.filter (EngineCall.isAbout e.id) ++
          (List.replicate (o.passes sv e.id requests w)
            ((o.deletePlan e).map Prod.snd)).flatten := by
  induction requests with
  | nil => intro w _ _ _ _; exact (List.append_nil _).symm
  | cons r rest ih =>
    intro w owned faithful named apart
    obtain ⟨bits, drawn⟩ := act_draws hq o r w
    have drawn' := (run_draws hq o rest (o.act sv w r)).2
    obtain ⟨faithful', calls⟩ := act_about hq hr o r owned faithful named
      fun j hlo hhi => apart j hlo (Nat.lt_of_lt_of_le hhi drawn')
    have later := ih (act_owned hq hr o r owned) faithful' (by rw [bits, named])
      fun j hlo hhi => by rw [bits]; exact apart j (Nat.le_trans drawn hlo) hhi
    show (o.run sv rest (o.act sv w r)).calls.filter _ = _
    rw [later, calls, List.append_assoc, ← List.flatten_append, List.replicate_append_replicate]
    rfl

/-- No call so far is about an environment whose random bits have not been drawn. -/
theorem Owned.filter_isAbout {stage : String} {t : Timestamp} {lo k : Nat} {w : World σ}
    (owned : Owned held lo w) (apart : ∀ j, lo ≤ j → j < w.drawn → w.bits j ≠ w.bits k) :
    w.calls.filter (EngineCall.isAbout (testId stage t (w.bits k))) = [] := by
  refine filter_isAbout_of_others ?_
  intro c hc other hother
  obtain ⟨stage', drawn⟩ := owned.calls c hc other hother
  exact drawn.ne apart

/-- What a chain that has set up an environment was asked for is about that environment, and the
record agrees with it. -/
theorem create_about (hq : sv.Quiet) (hr : sv.Recording held) {o : StageOrchestrator}
    {stage : String} {entries : List ChainEntry} {e : TestEnvironment} {w w' : World σ}
    (resolved : o.setupOf stage = .ok (.chain entries))
    (created : o.create sv stage w = (.ok e, w')) :
    ∃ k t calls, w.drawn ≤ k ∧ k < w'.drawn ∧ e.id = testId stage t (w.bits k) ∧
      e.stage = stage ∧ w'.calls = w.calls ++ calls ∧ (∀ c ∈ calls, c.testId? = some e.id) ∧
      calls.map (fun c => (c.engine, c.tool, c.arguments.find? "spec")) =
        entries.map (fun entry => (entry.engine, "create", entry.spec.map Document.toJson)) ∧
      Faithful held e w' := by
  obtain ⟨calls, said⟩ := create_calls hq o stage w
  have recorded := create_recorded hr o stage w
  rw [created] at said recorded
  obtain ⟨log, _, _, plan⟩ := said
  have faithful : Faithful held e w' := by
    intro x hx
    rcases recorded _ x hx with ⟨_, rfl⟩ | ⟨hne, _⟩
    · exact ⟨rfl, rfl⟩
    · exact absurd rfl hne
  rcases plan with ⟨_, _, hne⟩ | ⟨setup, id, now, replies, resolved', drawn, rfl, grown⟩
  · cases hne
  · obtain rfl : setup = .chain entries := Except.ok.inj (resolved'.symm.trans resolved)
    obtain ⟨grown, all⟩ := grown e rfl
    obtain ⟨hid, hstage, _⟩ := newborn_grown grown
    obtain ⟨t, k, hlo, hhi, hk⟩ := drawn
    refine ⟨k, t, _, hlo, hhi, hid.trans hk, hstage, log, ?_, ?_, faithful⟩
    · intro c hc
      rw [hid]
      exact createPlan_testId (o.newborn stage id now) entries .empty replies c hc
    · exact createPlan_all _ entries .empty replies (by simpa [Setup.engines] using all)

/-- What the calls of a run say of an environment that is created in it: they set it up, one engine
of the chain after the other, and then take it down, backwards, once for every request that finds
it on record. -/
def Mirrors (o : StageOrchestrator) (sv : Services σ) (before after : List Request)
    (stage : String) (entries : List ChainEntry) (e : TestEnvironment) (w : World σ) : Prop :=
  ∃ creates : List EngineCall,
    creates.map (fun c => (c.engine, c.tool, c.arguments.find? "spec")) =
      entries.map (fun entry => (entry.engine, "create", entry.spec.map Document.toJson)) ∧
    (o.run sv (before ++ .create stage :: after) w).calls.filter (EngineCall.isAbout e.id) =
      creates ++ (List.replicate
        (o.passes sv e.id after (o.create sv stage (o.run sv before w)).2)
        (entries.reverse.map fun entry => ⟨entry.engine, "delete",
          told [("testID", some (.str e.id)), ("stage", some (.str stage)),
            ("metadata", some (Json.ofStringMap e.metadata)),
            ("spec", entry.spec.map Document.toJson)]⟩)).flatten

/-- So it is in a run that starts with no other identifiers than those that it has drawn. -/
theorem calls_mirror (hq : sv.Quiet) (hr : sv.Recording held) {o : StageOrchestrator}
    {before after : List Request} {stage : String} {entries : List ChainEntry}
    {e : TestEnvironment} {w : World σ} (start : Owned held w.drawn w)
    (apart : o.Apart sv (before ++ .create stage :: after) w)
    (resolved : o.setupOf stage = .ok (.chain entries))
    (created : (o.create sv stage (o.run sv before w)).1 = .ok e) :
    o.Mirrors sv before after stage entries e w := by
  unfold Mirrors
  have owned := run_owned hq hr o before start
  obtain ⟨bits₁, drawn₁⟩ := run_draws hq o before w
  have parts : o.run sv (before ++ .create stage :: after) w =
      o.run sv after (o.create sv stage (o.run sv before w)).2 := run_append o sv before _ w
  have here : o.run sv (before ++ [.create stage]) w =
      (o.create sv stage (o.run sv before w)).2 := run_append o sv before _ w
  obtain ⟨bits₂, _⟩ := act_draws hq o (.create stage) (o.run sv before w)
  change (o.create sv stage (o.run sv before w)).2.bits = _ at bits₂
  have owned' := create_owned hq hr o stage owned
  cases whole : o.create sv stage (o.run sv before w) with | mk result w₂
  rw [whole] at created owned' parts here bits₂
  obtain rfl : result = .ok e := created
  obtain ⟨k, t, calls, hlo, hhi, hid, hstage, log, about, makes, faithful⟩ :=
    create_about hq hr resolved whole
  have drawn₃ := (run_draws hq o after w₂).2
  rw [bits₁] at bits₂
  -- what was asked for before concerns other environments
  have earlier : (o.run sv before w).calls.filter (EngineCall.isAbout e.id) = [] := by
    rw [hid]
    refine owned.filter_isAbout fun j hlo' hhi' => ?_
    rw [bits₁]
    refine apart before (.create stage :: after) rfl j k hlo' hhi' hlo ?_
    rw [parts]
    exact Nat.lt_of_lt_of_le hhi drawn₃
  -- and so does what is asked for afterwards, but for what deletes this one
  have later : ∀ j, w₂.drawn ≤ j → j < (o.run sv after w₂).drawn → w₂.bits j ≠ w₂.bits k := by
    intro j hlo' hhi'
    rw [bits₂]
    refine (apart (before ++ [.create stage]) after (by simp) k j ?_ ?_ ?_ ?_).symm
    · exact Nat.le_trans drawn₁ hlo
    · rw [here]; exact hhi
    · rw [here]; exact hlo'
    · rw [parts]; exact hhi'
  have rest := run_about hq hr o after owned' faithful (by rw [hid, bits₁, bits₂]) later
  refine ⟨calls, makes, ?_⟩
  rw [parts, rest, log, List.filter_append, earlier, List.nil_append, filter_isAbout_of_all about,
    deletePlan_chain (by rw [hstage, resolved]), hstage]

/-- A run that nothing comes before starts with no identifiers at all. -/
theorem owned_of_nothing {w : World σ} (unrecorded : ∀ id x, ¬ held w id x)
    (silent : w.calls = []) : Owned held w.drawn w := by
  refine ⟨Nat.le_refl _, fun id x hx => absurd hx (unrecorded id x), ?_⟩
  intro c hc
  rw [silent] at hc
  exact absurd hc List.not_mem_nil

/-- The calls of a run that are about an environment set it up, one engine of the chain after the
other, and then take it down, backwards, once for every request that finds it on record.  Each
engine is given the same parameters both times, and the metadata that setting up has ended with,
whatever else was asked for in between. -/
theorem run_mirrors (hq : sv.Quiet) (hr : sv.Recording held) {o : StageOrchestrator}
    {before after : List Request} {stage : String} {entries : List ChainEntry}
    {e : TestEnvironment} {w : World σ} (unrecorded : ∀ id x, ¬ held w id x)
    (silent : w.calls = []) (apart : o.Apart sv (before ++ .create stage :: after) w)
    (resolved : o.setupOf stage = .ok (.chain entries))
    (created : (o.create sv stage (o.run sv before w)).1 = .ok e) :
    ∃ creates : List EngineCall,
      creates.map (fun c => (c.engine, c.tool, c.arguments.find? "spec")) =
        entries.map (fun entry => (entry.engine, "create", entry.spec.map Document.toJson)) ∧
      (o.run sv (before ++ .create stage :: after) w).calls.filter (EngineCall.isAbout e.id) =
        creates ++ (List.replicate
          (o.passes sv e.id after (o.create sv stage (o.run sv before w)).2)
          (entries.reverse.map fun entry => ⟨entry.engine, "delete",
            told [("testID", some (.str e.id)), ("stage", some (.str stage)),
              ("metadata", some (Json.ofStringMap e.metadata)),
              ("spec", entry.spec.map Document.toJson)]⟩)).flatten :=
  calls_mirror hq hr (owned_of_nothing unrecorded silent) apart resolved created

/-- Two environments of one stage, of which the second is deleted twice: the first request makes a
pass in which an engine fails, the other one finds nothing. -/
theorem run_mirrors_pair :
    let w := World.opening UInt32.ofNat []
      [.ok default, .ok default, .ok default, .ok default, .error (.connect "refused")]
    let id := "test-unit-19700101-00000001"
    let after := [.recordOutcome id true, .delete id, .delete id]
    (∀ id x, ¬ StoreView.inMemory.Shows w id x) ∧ w.calls = [] ∧
    paired.Apart .scripted ([.create "unit"] ++ .create "unit" :: after) w ∧
    paired.setupOf "unit" = .ok (.chain ChainEntry.pair) ∧
    ∃ e, (paired.create .scripted "unit" (paired.run .scripted [.create "unit"] w)).1 = .ok e ∧
      ((paired.run .scripted ([.create "unit"] ++ .create "unit" :: after) w).calls.filter
        (EngineCall.isAbout e.id)).length = 4 := by
  intro w id after
  have unrecorded : ∀ id x, ¬ StoreView.inMemory.Shows w id x := by
    rintro id x ⟨t, d, read, here⟩
    cases read
    cases here
  have resolved : paired.setupOf "unit" = .ok (.chain ChainEntry.pair) := rfl
  have drawn : (paired.run .scripted ([.create "unit"] ++ .create "unit" :: after) w).drawn = 2 :=
    by decide +kernel
  have apart : paired.Apart .scripted ([.create "unit"] ++ .create "unit" :: after) w := by
    intro before after _ i j _ hi hj hj'
    rw [drawn] at hj'
    obtain ⟨rfl, rfl⟩ : i = 0 ∧ j = 1 := by omega
    decide
  have named : (paired.create .scripted "unit"
      (paired.run .scripted [.create "unit"] w)).1.toOption.map TestEnvironment.id = some id := by
    decide +kernel
  have once : paired.passes .scripted id after
      (paired.create .scripted "unit" (paired.run .scripted [.create "unit"] w)).2 = 1 := by
    decide +kernel
  refine ⟨unrecorded, rfl, apart, resolved, ?_⟩
  cases created : (paired.create .scripted "unit" (paired.run .scripted [.create "unit"] w)).1 with
  | error err =>
    rw [created] at named
    cases named
  | ok e =>
    rw [created] at named
    have same : e.id = id := Option.some.inj named
    have recording := Services.inMemory_recording fun _ _ _ w => Script.answer_store w
    obtain ⟨creates, makes, calls⟩ := run_mirrors Services.scripted_quiet recording unrecorded rfl
      apart resolved created
    refine ⟨e, rfl, ?_⟩
    have two := congrArg List.length makes
    rw [List.length_map, List.length_map] at two
    rw [← same] at once
    rw [calls, once, List.length_append, two]
    rfl

end StageOrchestrator

end Orchestration
