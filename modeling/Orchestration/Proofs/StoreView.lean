import Orchestration.Proofs.Conversation
import Orchestration.Store.Memory

/-!
# Stores seen from the project

Work on environments knows a store by its operations alone.  What it may rely on is what every
store promises: a change is one reading, one merging and one writing of all records, and an
operation that fails changes nothing.  It may fail at any time:

* `StoreView` — where a store's content lies, how it is read and how it is written;
* `Services.Promises`, `Services.Keeps` — the promise, and with it engines that leave the content
  alone;
* `StoreView.Shows` — a record can be read;
* `StoreView.Recalls` — what was written is read;
* `StoreView.Spares` — a directory whose making and removal leaves the content alone;
* `inMemory_keeps` — the store in memory keeps the promise.
-/

namespace Orchestration

variable {σ κ α : Type}

/-! ### Views -/

/-- Where a store's content lies, how it is read at a time, and how records are written. -/
structure StoreView (σ κ : Type) where
  content : Disk → Place → σ → κ
  decode : Timestamp → κ → Except StoreError StoreDocument
  encode : StoreDocument → κ → κ

namespace StoreView

/-- What the store keeps in a world. -/
def kept (v : StoreView σ κ) (w : World σ) : κ := v.content w.disk w.cwd w.state

/-- A record can be read under an identifier. -/
def Shows (v : StoreView σ κ) (w : World σ) (id : String) (e : TestEnvironment) : Prop :=
  ∃ t d, v.decode t (v.kept w) = .ok d ∧ d.environments.find? id = some e

/-- A store reads back the records that it writes over those that it has read, whatever became of
environments and artifacts. -/
def Recalls (v : StoreView σ κ) : Prop :=
  ∀ {t t' : Timestamp} {c : κ} {d d' : StoreDocument}, v.decode t c = .ok d →
    d'.reports = d.reports → v.decode t' (v.encode d' c) = .ok d'

/-- Making a directory now, and removing it at any time from the same working directory, leaves
the store's content alone. -/
structure Spares (v : StoreView σ κ) (w : World σ) (path : String) : Prop where
  made : v.kept (w.makeDirs path).2 = v.kept w
  removed : ∀ w' : World σ, w'.cwd = w.cwd → v.kept (w'.removeDir path).2 = v.kept w'

end StoreView

/-- What a store keeps depends on no more than the disk, the working directory and the state. -/
structure World.Still (w w' : World σ) : Prop where
  disk : w'.disk = w.disk
  cwd : w'.cwd = w.cwd
  state : w'.state = w.state

theorem World.now_still (w : World σ) : w.Still w.now.2 := ⟨rfl, rfl, rfl⟩

theorem World.Still.kept {w w' : World σ} (h : w.Still w') (v : StoreView σ κ) :
    v.kept w' = v.kept w := by
  simp only [StoreView.kept, h.disk, h.cwd, h.state]

theorem World.Still.makeDirs {w w' : World σ} (h : w.Still w') (path : String) :
    (w.makeDirs path).2.Still (w'.makeDirs path).2 := by
  refine ⟨?_, h.cwd, h.state⟩
  simp only [World.makeDirs, h.disk, h.cwd]

/-! ### The promise -/

theorem Services.perform_eq (sv : Services σ) (op : StoreOp α) (w : World σ) :
    sv.perform op w = ((sv.store op w.now.1 w.now.2).1.mapError OrchestratorError.ofStore,
      (sv.store op w.now.1 w.now.2).2) := rfl

theorem Services.perform_ok {sv : Services σ} {op : StoreOp α} {w w' : World σ} {a : α}
    (h : sv.perform op w = (.ok a, w')) : sv.store op w.now.1 w.now.2 = (.ok a, w') := by
  rw [perform_eq] at h
  cases answered : sv.store op w.now.1 w.now.2 with | mk answer w₁
  rw [answered] at h
  cases answer with
  | error err => cases h
  | ok b => cases h; rfl

theorem Services.perform_error {sv : Services σ} {op : StoreOp α} {w w' : World σ}
    {err : OrchestratorError} (h : sv.perform op w = (.error err, w')) :
    ∃ cause, sv.store op w.now.1 w.now.2 = (.error cause, w') ∧ err = .ofStore cause := by
  rw [perform_eq] at h
  cases answered : sv.store op w.now.1 w.now.2 with | mk answer w₁
  rw [answered] at h
  cases answer with
  | error cause => cases h; exact ⟨cause, rfl, rfl⟩
  | ok b => cases h

/-- A store that keeps its promise, and engines that do not touch it. -/
structure Services.Keeps (sv : Services σ) (v : StoreView σ κ) : Prop where
  reads : ∀ {α : Type} {op : StoreOp α}, op.mutates = false → ∀ (t : Timestamp) (w : World σ),
    (sv.store op t w).2 = w
  failed : ∀ {α : Type} {op : StoreOp α} {t : Timestamp} {w w' : World σ} {e : StoreError},
    sv.store op t w = (.error e, w') → v.kept w' = v.kept w
  done : ∀ {α : Type} {op : StoreOp α} {t : Timestamp} {w w' : World σ} {a : α},
    sv.store op t w = (.ok a, w') → ∃ d d', v.decode t (v.kept w) = .ok d ∧
      op.apply t d = .ok (a, d') ∧
      (op.mutates = true → v.kept w' = v.encode { d' with lastUpdated := t } (v.kept w))
  engine : ∀ (r : EngineReference) (tool : String) (arguments : Document) (w : World σ),
    v.kept (sv.engine r tool arguments w).2 = v.kept w

/-- A store that keeps its promise, whatever engines do to it. -/
structure Services.Promises (sv : Services σ) (v : StoreView σ κ) : Prop where
  failed : ∀ {α : Type} {op : StoreOp α} {t : Timestamp} {w w' : World σ} {e : StoreError},
    sv.store op t w = (.error e, w') → v.kept w' = v.kept w
  done : ∀ {α : Type} {op : StoreOp α} {t : Timestamp} {w w' : World σ} {a : α},
    sv.store op t w = (.ok a, w') → ∃ d d', v.decode t (v.kept w) = .ok d ∧
      op.apply t d = .ok (a, d') ∧
      (op.mutates = true → v.kept w' = v.encode { d' with lastUpdated := t } (v.kept w))

/-- Engines leave the store's content alone. -/
def StoreView.Untouched (v : StoreView σ κ) (sv : Services σ) : Prop :=
  ∀ (r : EngineReference) (tool : String) (arguments : Document) (w : World σ),
    v.kept (sv.engine r tool arguments w).2 = v.kept w

namespace Services.Promises

variable {sv : Services σ} {v : StoreView σ κ}

theorem kept_of_failed (hp : sv.Promises v) {op : StoreOp α} {w w' : World σ}
    {err : OrchestratorError} (h : sv.perform op w = (.error err, w')) : v.kept w' = v.kept w := by
  obtain ⟨cause, refused, _⟩ := Services.perform_error h
  have kept := hp.failed refused
  exact kept

/-- Artifacts that are recorded follow those on record. -/
theorem append_done (hp : sv.Promises v) {as : List Artifact} {t : Timestamp} {w w' : World σ}
    (h : sv.store (.append as) t w = (.ok (), w')) :
    ∃ d, v.decode t (v.kept w) = .ok d ∧ v.kept w' = v.encode
      { d with artifacts := d.artifacts ++ as, lastUpdated := t } (v.kept w) := by
  obtain ⟨d, d', read, applied, written⟩ := hp.done h
  obtain ⟨-, rfl⟩ := Prod.mk.inj (Except.ok.inj applied)
  exact ⟨d, read, written rfl⟩

/-- An insertion that succeeds adds one record under an identifier that was free. -/
theorem insert_done (hp : sv.Promises v) {e : TestEnvironment} {t : Timestamp} {w w' : World σ}
    (h : sv.store (.insert e) t w = (.ok (), w')) :
    ∃ d, v.decode t (v.kept w) = .ok d ∧ d.environments.find? e.id = none ∧
      v.kept w' = v.encode
        { d with environments := d.environments.insert e.id e, lastUpdated := t } (v.kept w) := by
  obtain ⟨d, d', hd, ha, hw⟩ := hp.done h
  refine ⟨d, hd, ?_⟩
  simp only [StoreOp.apply, StoreDocument.insert] at ha
  split at ha
  · simp [Except.map] at ha
  · next hfree =>
    simp only [Except.map, Except.ok.injEq, Prod.mk.injEq, true_and] at ha
    subst ha
    refine ⟨?_, hw rfl⟩
    simpa [KeyMap.contains] using hfree

end Services.Promises

namespace Services.Keeps

variable {sv : Services σ} {v : StoreView σ κ}

theorem promises (hk : sv.Keeps v) : sv.Promises v := ⟨hk.failed, hk.done⟩

theorem perform_reads (hk : sv.Keeps v) {op : StoreOp α} (h : op.mutates = false)
    (w : World σ) : (sv.perform op w).2 = w.now.2 := hk.reads h _ _

theorem kept_of_reads (hk : sv.Keeps v) {op : StoreOp α} (h : op.mutates = false)
    (w : World σ) : v.kept (sv.perform op w).2 = v.kept w := by
  rw [hk.perform_reads h]
  rfl

theorem kept_of_failed (hk : sv.Keeps v) {op : StoreOp α} {w w' : World σ}
    {err : OrchestratorError} (h : sv.perform op w = (.error err, w')) : v.kept w' = v.kept w :=
  hk.promises.kept_of_failed h

/-- A whole conversation leaves the content alone. -/
theorem kept_exchanges (hk : sv.Keeps v) {w w' : World σ} {said : List Exchange}
    (h : sv.Exchanges w said w') : v.kept w' = v.kept w := by
  induction h with
  | nil w => rfl
  | tick _ ih => exact ih
  | @call w w₁ w' c answer said first _ ih =>
    have heard : v.kept w₁ = v.kept w := by
      have := hk.engine c.engine c.tool c.arguments
        { w with calls := w.calls ++ [⟨c.engine, c.tool, c.arguments⟩] }
      rw [show sv.engine c.engine c.tool c.arguments
        { w with calls := w.calls ++ [⟨c.engine, c.tool, c.arguments⟩] } = (answer, w₁) from first]
        at this
      exact this
    exact ih.trans heard

/-- An insertion that succeeds adds one record under an identifier that was free. -/
theorem insert_done (hk : sv.Keeps v) {e : TestEnvironment} {t : Timestamp} {w w' : World σ}
    (h : sv.store (.insert e) t w = (.ok (), w')) :
    ∃ d, v.decode t (v.kept w) = .ok d ∧ d.environments.find? e.id = none ∧
      v.kept w' = v.encode
        { d with environments := d.environments.insert e.id e, lastUpdated := t } (v.kept w) :=
  hk.promises.insert_done h

/-- A removal that succeeds takes one record away. -/
theorem remove_done (hk : sv.Keeps v) {id : String} {e : TestEnvironment} {t : Timestamp}
    {w w' : World σ} (h : sv.store (.remove id) t w = (.ok e, w')) :
    ∃ d, v.decode t (v.kept w) = .ok d ∧ d.environments.find? id = some e ∧
      v.kept w' = v.encode
        { d with environments := d.environments.erase id, lastUpdated := t } (v.kept w) := by
  obtain ⟨d, d', hd, ha, hw⟩ := hk.done h
  refine ⟨d, hd, ?_⟩
  simp only [StoreOp.apply, StoreDocument.remove] at ha
  split at ha
  · next found =>
    simp only [Except.ok.injEq, Prod.mk.injEq] at ha
    obtain ⟨rfl, rfl⟩ := ha
    exact ⟨found, hw rfl⟩
  · cases ha

/-- What is found is on record. -/
theorem get_done (hk : sv.Keeps v) {id : String} {e : TestEnvironment} {t : Timestamp}
    {w w' : World σ} (h : sv.store (.get id) t w = (.ok e, w')) :
    ∃ d, v.decode t (v.kept w) = .ok d ∧ d.environments.find? id = some e := by
  obtain ⟨d, d', hd, ha, _⟩ := hk.done h
  refine ⟨d, hd, ?_⟩
  simp only [StoreOp.apply, StoreDocument.get] at ha
  split at ha
  · next found =>
    simp only [Except.map, Except.ok.injEq, Prod.mk.injEq] at ha
    rw [found, ha.1]
  · cases ha

/-- An outcome that is recorded changes the status of one record. -/
theorem setStatus_done (hk : sv.Keeps v) {id : String} {next : TestStatus} {e : TestEnvironment}
    {t : Timestamp} {w w' : World σ} (h : sv.store (.setStatus id next) t w = (.ok e, w')) :
    ∃ d old, v.decode t (v.kept w) = .ok d ∧ d.environments.find? id = some old ∧
      old.status.canBecome next = true ∧ e = { old with status := next, updatedAt := t } ∧
      v.kept w' = v.encode
        { d with environments := d.environments.insert id e, lastUpdated := t } (v.kept w) := by
  obtain ⟨d, d', hd, ha, hw⟩ := hk.done h
  simp only [StoreOp.apply, StoreDocument.setStatus] at ha
  split at ha
  · cases ha
  · next old found =>
    split at ha
    · next may =>
      simp only [Except.ok.injEq, Prod.mk.injEq] at ha
      obtain ⟨rfl, rfl⟩ := ha
      exact ⟨d, old, hd, found, may, rfl, hw rfl⟩
    · cases ha

end Services.Keeps

/-! ### The store in memory -/

/-- Services whose store is in memory. -/
def Services.inMemory (engine : EngineReference → String → Document → World (MemoryStore × σ) →
    Except OrchestratorError ToolResult × World (MemoryStore × σ)) :
    Services (MemoryStore × σ) where
  store op now w :=
    let (r, s) := MemoryStore.perform op now w.state.1
    (r, { w with state := (s, w.state.2) })
  engine := engine

/-- The records of a store in memory. -/
def StoreView.inMemory : StoreView (MemoryStore × σ) MemoryStore where
  content _ _ s := s.1
  decode _ s := .ok s.document
  encode d s := { s with document := d, writes := s.writes + 1 }

theorem StoreView.inMemory_recalls : (inMemory (σ := σ)).Recalls := fun _ _ => rfl

theorem StoreView.inMemory_spares (w : World (MemoryStore × σ)) (path : String) :
    inMemory.Spares w path := ⟨rfl, fun _ _ => rfl⟩

theorem MemoryStore.perform_of_reads {op : StoreOp α} (h : op.mutates = false) (t : Timestamp)
    (s : MemoryStore) : (perform op t s).2 = s := by
  simp only [perform, h, Bool.false_and, Bool.false_eq_true, if_false]
  split <;> rfl

theorem MemoryStore.perform_ok {op : StoreOp α} {t : Timestamp} {s s' : MemoryStore} {a : α}
    (h : perform op t s = (.ok a, s')) : ∃ d, op.apply t s.document = .ok (a, d) ∧
      (op.mutates = true →
        s' = { s with document := { d with lastUpdated := t }, writes := s.writes + 1 }) := by
  unfold perform at h
  split at h
  · cases (Prod.mk.inj h).1
  · split at h
    · cases (Prod.mk.inj h).1
    · next b d applied =>
      split at h
      · obtain ⟨ha, hs⟩ := Prod.mk.inj h
        cases ha
        exact ⟨d, applied, fun _ => hs.symm⟩
      · next still =>
        cases (Prod.mk.inj h).1
        exact ⟨d, applied, fun hm => absurd hm still⟩

/-- The store in memory keeps its promise, when engines leave it alone. -/
theorem Services.inMemory_keeps {engine : EngineReference → String → Document →
      World (MemoryStore × σ) → Except OrchestratorError ToolResult × World (MemoryStore × σ)}
    (he : ∀ r tool arguments w, (engine r tool arguments w).2.state.1 = w.state.1) :
    (Services.inMemory engine).Keeps (StoreView.inMemory (σ := σ)) where
  reads h t w := by
    show { w with state := ((MemoryStore.perform _ t w.state.1).2, w.state.2) } = w
    rw [MemoryStore.perform_of_reads h]
  failed h := by
    obtain ⟨hr, rfl⟩ := Prod.mk.inj h
    exact MemoryStore.perform_error (Prod.ext hr rfl)
  done h := by
    obtain ⟨hr, rfl⟩ := Prod.mk.inj h
    obtain ⟨d, applied, written⟩ := MemoryStore.perform_ok (Prod.ext hr rfl)
    exact ⟨_, d, rfl, applied, written⟩
  engine := he

end Orchestration
