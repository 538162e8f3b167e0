import Orchestration.Proofs.Frame
import Orchestration.Proofs.Paths
import Orchestration.Proofs.RunHistories

/-!
# What stands after a run of requests

Every environment that is ever returned was made in one way, and nothing that is requested later
changes what it was made with.  So the records of a project can be read off the answers:

* `StageOrchestrator.Made` — what every environment is made with;
* `create_newborn`, `created_of_history` — where the environments of a history come from;
* `history_made` — in a history there are no others;
* `Standing`, `standing_of_replay` — what stands in the records after a history;
* `run_standing` — after a run of requests that were made of an empty store;
* `run_stands` — the whole, at every moment of a run;
* `released_store_forgets` — what the store must be spared.
-/

namespace Orchestration

variable {σ κ : Type} {sv : Services σ} {v : StoreView σ κ}

namespace StageOrchestrator

/-! ### What environments are made with -/

/-- What an environment is made with. -/
structure Made (o : StageOrchestrator) (e : TestEnvironment) : Prop where
  named : IsTestId e.stage e.id
  staged : ∃ s, o.stages.find? e.stage = some s
  homed : e.tmpDir = joinPath o.tmpRoot e.id
  first : e.managedResources.head? = some e.tmpDir
  distinct : e.managedResources.Nodup

/-- An outcome changes nothing of that. -/
theorem Made.concluded {o : StageOrchestrator} {e : TestEnvironment} (h : o.Made e)
    (next : TestStatus) (time : Timestamp) : o.Made (e.concluded next time) :=
  ⟨h.named, h.staged, h.homed, h.first, h.distinct⟩

/-- Environments with one directory are one environment. -/
theorem Made.id_inj {o : StageOrchestrator} {e e' : TestEnvironment} (h : o.Made e)
    (h' : o.Made e') (same : e.tmpDir = e'.tmpDir) : e.id = e'.id := by
  rw [h.homed, h'.homed] at same
  exact joinPath_inj h.named.isAbsolutePath h'.named.isAbsolutePath same

theorem staged_of_setupOf {o : StageOrchestrator} {stage : String} {setup : Setup}
    (h : o.setupOf stage = .ok setup) : ∃ s, o.stages.find? stage = some s := by
  obtain ⟨s, hs, -⟩ := bind_eq_ok.1 h
  unfold StageOrchestrator.stage at hs
  split at hs
  · cases hs
  · split at hs
    · next s found => exact ⟨s, found⟩
    · cases hs

/-- What is returned grew from an environment that was named by a reading of the clock. -/
theorem create_newborn (ht : sv.Timely) {o : StageOrchestrator} {stage : String} {w w' : World σ}
    {e : TestEnvironment} (h : o.create sv stage w = (.ok e, w')) :
    ∃ setup n bits now replies, o.setupOf stage = .ok setup ∧
      (o.newborn stage (testId stage (w.clock n) bits) now).Grown replies e := by
  have ends := create_creates sv o stage w
  rw [h] at ends
  cases ends with
  | @recorded setup id e w₁ w₂ w₃ w₄ resolved named made run stored =>
    obtain ⟨n, bits, rfl⟩ := freshIdIn_reading ht stage maxIdAttempts named
    obtain ⟨said, replies, -, -, outcome⟩ := runSetup_ends run
    cases outcome with
    | done _ _ grown => exact ⟨setup, n, bits, _, replies, resolved, grown⟩

/-- An environment that is returned has all of it. -/
theorem create_made (ht : sv.Timely) {o : StageOrchestrator} {stage : String} {w w' : World σ}
    {e : TestEnvironment} (years : ∀ n, 0 ≤ (w.clock n).year ∧ (w.clock n).year ≤ 9999)
    (h : o.create sv stage w = (.ok e, w')) : o.Made e := by
  obtain ⟨setup, n, bits, now, replies, resolved, grown⟩ := create_newborn ht h
  obtain ⟨hid, hstage, htmp, -, -, hresources⟩ := newborn_grown grown
  refine ⟨?_, ?_, ?_, ?_, ?_⟩
  · rw [hid, hstage]
    exact isTestId_testId stage (years n) bits
  · rw [hstage]
    exact staged_of_setupOf resolved
  · rw [htmp, hid]
  · rw [hresources, List.eraseDups_cons, List.head?_cons, htmp]
  · rw [hresources]
    exact nodup_eraseDups _

/-- Every environment of a history was returned by a request to create, under the same clock. -/
theorem created_of_history (ht : sv.Timely) {o : StageOrchestrator} {requests : List Request}
    {w : World σ} {e : TestEnvironment} (h : .insert e ∈ o.history sv w requests) :
    ∃ stage u u', u.clock = w.clock ∧ o.create sv stage u = (.ok e, u') := by
  induction requests generalizing w with
  | nil => cases h
  | cons r rest ih =>
    have clock : (o.act sv w r).clock = w.clock := act_preserves (ht.preserves w.clock) o r rfl
    rcases List.mem_append.1 h with now | later
    · cases r with
      | create stage =>
        simp only [changes] at now
        cases created : o.create sv stage w with | mk answer w'
        rw [created] at now
        cases answer with
        | error err => cases now
        | ok e' =>
          obtain rfl := EnvChange.insert.inj (List.mem_singleton.1 now)
          exact ⟨stage, w, w', rfl, created⟩
      | delete id =>
        simp only [changes] at now
        split at now <;> simp at now
      | recordOutcome id passed =>
        simp only [changes] at now
        split at now <;> simp at now
      | list stage => cases now
    · obtain ⟨stage, u, u', same, created⟩ := ih later
      exact ⟨stage, u, u', same.trans clock, created⟩

/-- So has every environment of a history. -/
theorem history_made (ht : sv.Timely) {o : StageOrchestrator} {requests : List Request}
    {w : World σ} (years : ∀ n, 0 ≤ (w.clock n).year ∧ (w.clock n).year ≤ 9999)
    {e : TestEnvironment} (h : .insert e ∈ o.history sv w requests) : o.Made e := by
  obtain ⟨stage, u, u', clock, created⟩ := created_of_history ht h
  exact create_made ht (by rw [clock]; exact years) created

/-! ### Configured stages -/

theorem mem_of_find?_insertAll {α : Type} {key : String} {value : α} (es : List (String × α)) :
    ∀ m : KeyMap α, (m.insertAll es).find? key = some value →
      (key, value) ∈ es ∨ m.find? key = some value := by
  induction es with
  | nil => exact fun m h => .inr h
  | cons e es ih =>
    intro m h
    rcases ih (m.insert e.1 e.2) h with mem | found
    · exact .inl (List.mem_cons_of_mem _ mem)
    · rcases KeyMap.find?_insert_eq_some_iff.1 found with ⟨rfl, rfl⟩ | ⟨-, found⟩
      · exact .inl List.mem_cons_self
      · exact .inr found

/-- The stages of the work that a configuration describes are those of the configuration. -/
theorem mem_of_ofConfig_stages {systemTmp name : String} {c : ProjectConfig} {s : StageConfig}
    (h : (ofConfig systemTmp c).stages.find? name = some s) : s ∈ c.test ∧ s.name = name := by
  rcases mem_of_find?_insertAll _ _ h with mem | none
  · obtain ⟨s', hs', same⟩ := List.mem_map.1 mem
    cases same
    exact ⟨hs', rfl⟩
  · cases none

/-! ### The whole -/

/-- What stands in the records after a history. -/
structure Standing (o : StageOrchestrator) (cs : List EnvChange) (m : KeyMap TestEnvironment) :
    Prop where
  filed : EnvChange.Filed m
  made : ∀ id e, m.find? id = some e → o.Made e
  apart : ∀ id id' e e', m.find? id = some e → m.find? id' = some e' → e.tmpDir = e'.tmpDir →
    id = id'
  /-- What is recorded was returned, and not deleted since. -/
  recorded : ∀ id, m.contains id = true ↔
    ∃ before e after, cs = before ++ .insert e :: after ∧ e.id = id ∧ .remove id ∉ after
  /-- It is as it was made, or it has got its only outcome. -/
  survives : ∀ before e after, cs = before ++ .insert e :: after → .remove e.id ∉ after →
    EnvChange.Survives e after m
  /-- Between its creation and its deletion it gets no second outcome. -/
  once : ∀ before e life after, cs = before ++ .insert e :: (life ++ after) →
    .remove e.id ∉ life → (EnvChange.outcomes e.id life).length ≤ 1

theorem standing_of_replay {o : StageOrchestrator} {cs : List EnvChange}
    {m : KeyMap TestEnvironment} (made : ∀ e, .insert e ∈ cs → o.Made e)
    (h : EnvChange.replay .empty cs = some m) : o.Standing cs m := by
  have filed : EnvChange.Filed m := EnvChange.replay_filed (fun id e found => by cases found) h
  have survives : ∀ before e after, cs = before ++ .insert e :: after → .remove e.id ∉ after →
      EnvChange.Survives e after m := by
    rintro before e after rfl stays
    exact EnvChange.survives_of_replay h stays
  have standing : ∀ id e, m.find? id = some e → o.Made e :=
    EnvChange.holds_of_replay (fun next time whole => whole.concluded next time) made h
  refine ⟨filed, standing, ?_, EnvChange.recorded_iff h, survives, ?_⟩
  · intro id id' e e' found found' same
    rw [← filed id e found, ← filed id' e' found']
    exact (standing id e found).id_inj (standing id' e' found') same
  · rintro before e life after rfl stays
    exact EnvChange.outcomes_of_replay h stays

theorem SparedAlong.before {o : StageOrchestrator} {done ahead : List Request} {w : World σ}
    (h : o.SparedAlong sv v w (done ++ ahead)) : o.SparedAlong sv v w done := by
  induction done generalizing w with
  | nil => trivial
  | cons r rest ih => exact ⟨h.1, ih h.2⟩

/-- After a run, the records stand as the answers tell. -/
theorem run_standing (hq : sv.Quiet) (hk : sv.Keeps v) (ht : sv.Timely) (hv : v.Rereads)
    (o : StageOrchestrator) {w : World σ} (fresh : v.Records w .empty)
    (years : ∀ n, 0 ≤ (w.clock n).year ∧ (w.clock n).year ≤ 9999) (requests : List Request)
    (spared : o.SparedAlong sv v w requests) :
    ∃ m, v.Records (o.run sv requests w) m ∧ o.Standing (o.history sv w requests) m := by
  obtain ⟨m, replayed, records⟩ := run_records hq hk hv o requests
    (fun id e found => by cases found) fresh spared
  exact ⟨m, records, standing_of_replay (fun e made => history_made ht years made) replayed⟩

/-- The environments of a configured project lie in its directory, each for one of its stages. -/
theorem Standing.configured {systemTmp : String} {c : ProjectConfig} {cs : List EnvChange}
    {m : KeyMap TestEnvironment} (h : (ofConfig systemTmp c).Standing cs m) {id : String}
    {e : TestEnvironment} (found : m.find? id = some e) :
    e.tmpDir = joinPath (c.tmpPath systemTmp) id ∧ ∃ s ∈ c.test, s.name = e.stage := by
  have made := h.made id e found
  obtain ⟨s, configured⟩ := made.staged
  refine ⟨?_, s, mem_of_ofConfig_stages configured⟩
  rw [made.homed, h.filed id e found]
  rfl

/-- Whatever is requested of a project whose store was empty, and whatever fails: at every moment
the store holds what the answers so far tell of, and each environment as it was made, but for its
one outcome.  The store's content has to be spared by what requests make and remove on the disk,
and years have four digits. -/
theorem run_stands (hq : sv.Quiet) (hk : sv.Keeps v) (ht : sv.Timely) (hv : v.Rereads)
    (systemTmp : String) (c : ProjectConfig) {w : World σ} (fresh : v.Records w .empty)
    (years : ∀ n, 0 ≤ (w.clock n).year ∧ (w.clock n).year ≤ 9999) (done ahead : List Request)
    (spared : (ofConfig systemTmp c).SparedAlong sv v w (done ++ ahead)) :
    ∃ m, v.Records ((ofConfig systemTmp c).run sv done w) m ∧
      (ofConfig systemTmp c).Standing ((ofConfig systemTmp c).history sv w done) m ∧
      ∀ id e, m.find? id = some e →
        e.tmpDir = joinPath (c.tmpPath systemTmp) id ∧ ∃ s ∈ c.test, s.name = e.stage := by
  obtain ⟨m, records, standing⟩ := run_standing hq hk ht hv (ofConfig systemTmp c) fresh years done
    spared.before
  exact ⟨m, records, standing, fun id e found => standing.configured found⟩

/-- Three requests to create, the second of which fails with its second engine; the first
environment is given two outcomes, and the third is deleted although an engine refuses. -/
theorem run_stands_refused_engines :
    let c : ProjectConfig := { (default : ProjectConfig) with
      tmpRoot := some "/tmp"
      engineTimeoutSecs := 600
      handshakeTimeoutSecs := 30
      test := [⟨"unit", some (.chain "setup")⟩]
      engines := [.ofChain "setup" .testenv ChainEntry.pair] }
    let volumes : ToolResult :=
      ⟨[], some (.obj [("managedResources", .arr [.str "volume", .str "volume"])]), false⟩
    let w := World.opening UInt32.ofNat [] [.ok volumes, .ok volumes, .ok default,
      .error (.connect "refused"), .ok default, .ok default, .error (.connect "refused"),
      .ok default]
    let first := "test-unit-19700101-00000000"
    let third := "test-unit-19700101-00000002"
    let requests : List Request := [.create "unit", .create "unit", .create "unit",
      .recordOutcome first true, .recordOutcome first false, .delete third, .delete "other"]
    c.validate = .ok () ∧
      StoreView.inMemory.Records w .empty ∧
      (∀ n, 0 ≤ (w.clock n).year ∧ (w.clock n).year ≤ 9999) ∧
      (ofConfig "/var/tmp" c).SparedAlong .scripted .inMemory w requests ∧
      ((ofConfig "/var/tmp" c).history .scripted w requests).map EnvChange.subject =
        [first, third, first, third] ∧
      ∃ m, (ofConfig "/var/tmp" c).Standing
          ((ofConfig "/var/tmp" c).history .scripted w requests) m ∧
        m.values.map (fun e => (e.id, e.status, e.managedResources)) =
          [(first, .passed, ["/tmp/test-unit-19700101-00000000", "volume"])] := by
  intro c volumes w first third requests
  have valid : c.validate = .ok () := by decide +kernel
  have fresh : StoreView.inMemory.Records w .empty := fun t =>
    ⟨_, rfl, rfl, fun e he => nomatch he⟩
  have years : ∀ n, 0 ≤ (w.clock n).year ∧ (w.clock n).year ≤ 9999 := by
    intro n
    show 0 ≤ Timestamp.epoch.year ∧ Timestamp.epoch.year ≤ 9999
    decide +kernel
  have spared : (ofConfig "/var/tmp" c).SparedAlong .scripted .inMemory w requests :=
    inMemory_sparedAlong _ requests w
  obtain ⟨m, records, standing, -⟩ := run_stands Services.scripted_quiet Services.scripted_keeps
    Services.scripted_timely StoreView.inMemory_rereads "/var/tmp" c fresh years
    requests [] spared
  obtain ⟨d, read, rfl, -⟩ := records .epoch
  cases read
  exact ⟨valid, fresh, years, spared, by decide +kernel, _, standing, by decide +kernel⟩

/-- An environment whose engine names the store's file among its resources takes all records with
it: the file is released before the record is to be removed, so that the request to delete fails,
and the environment is gone. -/
theorem released_store_forgets :
    let c : ProjectConfig := { (default : ProjectConfig) with
      artifactStorePath := "/s/store.json"
      tmpRoot := some "/tmp"
      engineTimeoutSecs := 600
      handshakeTimeoutSecs := 30
      test := [⟨"unit", some (.package .go "database" none)⟩] }
    let sv : Services Unit := .inFile c.storePath fun _ _ _ w =>
      (.ok ⟨[], some (.obj [("managedResources", .arr [.str "/s/store.json"])]), false⟩, w)
    let o := ofConfig "/var/tmp" c
    let w : World Unit := ⟨⟨[]⟩, [], fun _ => .epoch, 0, fun _ => 0, 0, [], ()⟩
    let id := "test-unit-19700101-00000000"
    c.validate = .ok () ∧ listedIds sv w = some [] ∧
      (o.create sv "unit" w).1.toOption.map TestEnvironment.id = some id ∧
      (o.delete sv id (o.create sv "unit" w).2).1.toOption = none ∧
      listedIds sv (o.run sv [.create "unit", .delete id] w) = some [] := by
  refine ⟨?_, ?_, ?_, ?_, ?_⟩ <;> decide +kernel

end StageOrchestrator

end Orchestration
