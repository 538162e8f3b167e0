import Orchestration.Proofs.Commuting
import Orchestration.Proofs.Standing

/-!
# Environments of different stages or days

A stage may be called anything, also what an identifier ends with.  All the same an identifier
determines its stage and its date, so that environments of different stages or days are never
taken for each other:

* `MemoryStore.answer_elsewhere`, `find?_elsewhere` — changes of one identifier's environment leave
  that of another one alone;
* `StageOrchestrator.Dated`, `run_dated` — whatever is on record is called by its stage and a date
  that the clock showed;
* `testId_apart` — identifiers, changes and runs.
-/

namespace Orchestration

variable {σ κ : Type} {sv : Services σ} {v : StoreView σ κ}

/-! ### Changes of different environments -/

namespace MemoryStore

variable {a b : StoreChange} {id id' : String}
  (first : a.op.part? = some (.environment id)) (second : b.op.part? = some (.environment id'))
  (other : id ≠ id')
include first other

theorem find?_elsewhere (m : MemoryStore) :
    (m.after a).document.environments.find? id' = m.document.environments.find? id' := by
  have apart : a.op.part? ≠ some (.environment id') := by
    rw [first]
    exact fun same => other (RecordPart.environment.inj (Option.some.inj same))
  exact m.after_elsewhere apart

include second

theorem answer_elsewhere (m : MemoryStore) : (m.after a).answer b = m.answer b :=
  (after_congr second (m.after_refusing a) (m.find?_elsewhere first other)).1

end MemoryStore

/-! ### What a run records -/

namespace StageOrchestrator

/-- An environment is called by its stage and by a date that the clock showed. -/
def Dated (w : World σ) (e : TestEnvironment) : Prop :=
  ∃ n bits, e.id = testId e.stage (w.clock n) bits

theorem create_dated (ht : sv.Timely) {o : StageOrchestrator} {stage : String} {w w' : World σ}
    {e : TestEnvironment} (h : o.create sv stage w = (.ok e, w')) : Dated w e := by
  obtain ⟨setup, n, bits, now, replies, -, grown⟩ := create_newborn ht h
  obtain ⟨named, staged, -⟩ := newborn_grown grown
  exact ⟨n, bits, by rw [named, staged]⟩

theorem history_dated (ht : sv.Timely) {o : StageOrchestrator} {requests : List Request}
    {w : World σ} {e : TestEnvironment} (h : .insert e ∈ o.history sv w requests) : Dated w e := by
  obtain ⟨stage, u, u', clock, created⟩ := created_of_history ht h
  obtain ⟨n, bits, named⟩ := create_dated ht created
  exact ⟨n, bits, by rw [named, clock]⟩

/-- At every moment of a run, every record is called by its stage and a date. -/
theorem run_dated (hq : sv.Quiet) (hk : sv.Keeps v) (ht : sv.Timely) (hv : v.Rereads)
    (o : StageOrchestrator) {w : World σ} (fresh : v.Records w .empty) {requests : List Request}
    (spared : o.SparedAlong sv v w requests) :
    ∃ m, v.Records (o.run sv requests w) m ∧
      ∀ id e, m.find? id = some e → e.id = id ∧ Dated w e := by
  obtain ⟨m, replayed, records⟩ := run_records hq hk hv o requests
    (fun id e found => by cases found) fresh spared
  have filed : EnvChange.Filed m :=
    EnvChange.replay_filed (fun id e found => by cases found) replayed
  have dated : ∀ id e, m.find? id = some e → Dated w e :=
    EnvChange.holds_of_replay (fun _ _ named => named) (fun e => history_dated ht) replayed
  exact ⟨m, records, fun id e found => ⟨filed id e found, dated id e found⟩⟩

end StageOrchestrator

/-! ### The whole -/

/-- Eight lower-case hexadecimal digits are what random bits are written as.  While years have four
digits, identifiers are equal only for equal stages, dates and bits, whatever the stages are
called.  So environments of different stages or days do not meet in the store: a change of one
leaves the other as it was, and is no reason to answer otherwise to a change of the other.  And
whatever is requested of a project whose store was empty, what is on record under an identifier of
a stage and a day was made for that stage on that day. -/
theorem testId_apart :
    (∀ suffix : String, (∃ bits, suffixText bits = suffix) ↔
      suffix.toList.length = 8 ∧ ∀ c ∈ suffix.toList, c ∈ "0123456789abcdef".toList) ∧
    (∀ (stage stage' : String) (now now' : Timestamp) (bits bits' : UInt32),
      (0 ≤ now.year ∧ now.year ≤ 9999) → (0 ≤ now'.year ∧ now'.year ≤ 9999) →
      let id := testId stage now bits
      let id' := testId stage' now' bits'
      (id = id' ↔ stage = stage' ∧ now.date = now'.date ∧ bits = bits') ∧
      (stage ≠ stage' ∨ now.date ≠ now'.date → ∀ (m : MemoryStore) (a b : StoreChange),
        a.op.part? = some (.environment id) → b.op.part? = some (.environment id') →
        (m.after a).document.environments.find? id' = m.document.environments.find? id' ∧
          (m.after a).answer b = m.answer b)) ∧
    ∀ {σ κ : Type} {sv : Services σ} {v : StoreView σ κ}, sv.Quiet → sv.Keeps v → sv.Timely →
      v.Rereads → ∀ (o : StageOrchestrator) {w : World σ}, v.Records w .empty →
      (∀ n, 0 ≤ (w.clock n).year ∧ (w.clock n).year ≤ 9999) →
      ∀ requests : List Request, o.SparedAlong sv v w requests →
      ∃ m, v.Records (o.run sv requests w) m ∧
        ∀ (stage : String) (now : Timestamp) (bits : UInt32) (e : TestEnvironment),
          (0 ≤ now.year ∧ now.year ≤ 9999) → m.find? (testId stage now bits) = some e →
          e.stage = stage ∧
            ∃ n, (w.clock n).date = now.date ∧ e.id = testId e.stage (w.clock n) bits := by
  refine ⟨?_, ?_, ?_⟩
  · intro suffix
    constructor
    · rintro ⟨bits, rfl⟩
      exact suffixText_digits bits
    · rintro ⟨wide, shown⟩
      exact exists_suffixText wide shown
  · intro stage stage' now now' bits bits' years years'
    have same : testId stage now bits = testId stage' now' bits' ↔
        stage = stage' ∧ now.date = now'.date ∧ bits = bits' := testId_eq_iff years years'
    refine ⟨same, ?_⟩
    intro different m a b first second
    have other : testId stage now bits ≠ testId stage' now' bits' := by
      intro equal
      obtain ⟨stages, dates, -⟩ := same.1 equal
      rcases different with apart | apart
      · exact apart stages
      · exact apart dates
    exact ⟨m.find?_elsewhere first other, m.answer_elsewhere first second other⟩
  · intro σ κ sv v hq hk ht hv o w fresh years requests spared
    obtain ⟨m, records, named⟩ := StageOrchestrator.run_dated hq hk ht hv o fresh spared
    refine ⟨m, records, ?_⟩
    intro stage now bits e year found
    obtain ⟨filed, n, bits', dated⟩ := named _ e found
    obtain ⟨stages, dates, rfl⟩ := (testId_eq_iff (years n) year).1 (dated.symm.trans filed)
    exact ⟨stages, n, dates, dated⟩

/-- One stage is called like an environment of the other one, but for the word in front. -/
theorem testId_apart_lookalikes :
    let lookalike := "unit-19700101-00000000"
    let c : ProjectConfig := { (default : ProjectConfig) with
      tmpRoot := some "/tmp"
      test := [⟨"unit", some (.chain "setup")⟩, ⟨lookalike, some (.chain "setup")⟩]
      engines := [.ofChain "setup" .testenv ChainEntry.pair] }
    let o := StageOrchestrator.ofConfig "/var/tmp" c
    let w := World.opening UInt32.ofNat [] (List.replicate 4 (.ok default))
    let requests : List Request := [.create "unit", .create lookalike]
    let id := testId "unit" .epoch 0
    let id' := testId lookalike .epoch 1
    let removal : StoreChange := ⟨.remove id, .epoch, rfl⟩
    let outcome : StoreChange := ⟨.setStatus id' .passed, .epoch, rfl⟩
    id = "test-unit-19700101-00000000" ∧
      id' = "test-unit-19700101-00000000-19700101-00000001" ∧ id ≠ id' ∧
      (∃ bits, suffixText bits = "c0ffee00") ∧
      (((MemoryStore.empty .epoch).after removal).answer outcome =
        (MemoryStore.empty .epoch).answer outcome) ∧
      o.SparedAlong .scripted .inMemory w requests ∧
      ∃ m, StoreView.inMemory.Records (o.run .scripted requests w) m ∧
        m.entries.map (fun r => (r.1, r.2.stage)) = [(id, "unit"), (id', lookalike)] ∧
        ∀ now bits e, (0 ≤ now.year ∧ now.year ≤ 9999) →
          m.find? (testId "unit" now bits) = some e → e.stage = "unit" := by
  intro lookalike c o w requests id id' removal outcome
  obtain ⟨suffixes, identifiers, runs⟩ := testId_apart
  have year : 0 ≤ Timestamp.epoch.year ∧ Timestamp.epoch.year ≤ 9999 := by decide
  have names : "unit" ≠ lookalike := by decide
  obtain ⟨same, changes⟩ := identifiers "unit" lookalike .epoch .epoch 0 1 year year
  obtain ⟨-, answers⟩ := changes (.inl names) (.empty .epoch) removal outcome rfl rfl
  have fresh : StoreView.inMemory.Records w .empty := fun t =>
    ⟨_, rfl, rfl, fun e he => nomatch he⟩
  have spared : o.SparedAlong .scripted .inMemory w requests :=
    StageOrchestrator.inMemory_sparedAlong _ requests w
  obtain ⟨m, records, made⟩ := runs Services.scripted_quiet Services.scripted_keeps
    Services.scripted_timely StoreView.inMemory_rereads o fresh (fun _ => year) requests spared
  obtain ⟨d, read, rfl, -⟩ := records .epoch
  cases read
  refine ⟨by decide +kernel, by decide +kernel, fun equal => names (same.1 equal).1,
    (suffixes "c0ffee00").2 (by simp), answers, spared, _, records, by decide +kernel, ?_⟩
  exact fun now bits e fits found => (made "unit" now bits e fits found).1

end Orchestration
