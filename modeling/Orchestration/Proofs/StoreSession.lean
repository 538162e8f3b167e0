import Orchestration.Proofs.FileView
import Orchestration.Proofs.Records

/-!
# A store in a file answers like one in memory

* `StoreTurn` — what happens to a store while it is in use: operations, and between them the
  store is opened anew or the rest of the disk changes;
* `FileSession.run`, `MemoryStore.run` — the answers of a store to a list of turns;
* `StoreOp.apply_lastUpdated`, `StoreOp.apply_countsFit` — operations do not look at the time of
  the last change, and keep counts within 64 bits;
* `Mirrors` — a file and a store in memory hold the same records;
* `Mirrors.turn`, `Mirrors.run` — one turn, and any list of turns, keeps them so and is answered
  alike;
* `FileSession.refines_memory` — a store in a file refines a store in memory.
-/

namespace Orchestration

/-! ### Turns -/

/-- Something that happens to a store while it is in use. -/
inductive StoreTurn : Type 1 where
  | perform {α : Type} (op : StoreOp α) (now : Timestamp)
  /-- The store is opened anew, on the same path. -/
  | reopen
  /-- Others leave the disk as given. -/
  | meanwhile (disk : Disk)

/-- The answer of a store, of whatever kind. -/
abbrev StoreAnswer : Type 1 := (α : Type) × Except StoreError α

/-- Whether the system refused. -/
def StoreAnswer.isRefusal : StoreAnswer → Bool
  | ⟨_, .error (.io _)⟩ => true
  | _ => false

/-- A store in a file, in use. -/
structure FileSession where
  store : FileStore
  cwd : Place
  disk : Disk

namespace FileSession

/-- One turn of a store in a file. -/
def turn (s : FileSession) : StoreTurn → List StoreAnswer × FileSession
  | .perform op now =>
    let (answer, disk) := s.store.perform op now s.cwd s.disk
    ([⟨_, answer⟩], { s with disk })
  | .reopen => ([], { s with store := ⟨s.store.path⟩ })
  | .meanwhile disk => ([], { s with disk })

/-- The answers to a list of turns, and the store after them. -/
def run (s : FileSession) : List StoreTurn → List StoreAnswer × FileSession
  | [] => ([], s)
  | t :: turns =>
    let (answers, s) := s.turn t
    let (more, s) := run s turns
    (answers ++ more, s)

/-- What the file holds, if anything can be read. -/
def content (s : FileSession) : Except SystemFault RawText := s.disk.read s.cwd s.store.path

/-- The records that are read from the file. -/
def records (s : FileSession) (now : Timestamp) : Except StoreError StoreDocument :=
  s.store.load now s.cwd s.disk

theorem run_append (s : FileSession) (before after : List StoreTurn) :
    s.run (before ++ after) = ((s.run before).1 ++ ((s.run before).2.run after).1,
      ((s.run before).2.run after).2) := by
  induction before generalizing s with
  | nil => rfl
  | cons t before ih =>
    show ((s.turn t).1 ++ ((s.turn t).2.run (before ++ after)).1,
      ((s.turn t).2.run (before ++ after)).2) = _
    rw [ih, ← List.append_assoc]
    rfl

/-- Nobody else writes the file: whatever happens to the disk between operations, the file holds
what it held. -/
def Undisturbed (s : FileSession) : List StoreTurn → Prop
  | [] => True
  | t :: turns =>
    (∀ disk, t = .meanwhile disk → content { s with disk } = s.content) ∧
      (s.turn t).2.Undisturbed turns

theorem Undisturbed.before {s : FileSession} {before after : List StoreTurn}
    (h : s.Undisturbed (before ++ after)) : s.Undisturbed before := by
  induction before generalizing s with
  | nil => trivial
  | cons t before ih => exact ⟨h.1, ih h.2⟩

end FileSession

namespace MemoryStore

/-- One turn of a store in memory: only operations concern it. -/
def turn (m : MemoryStore) : StoreTurn → List StoreAnswer × MemoryStore
  | .perform op now =>
    let (answer, m) := m.perform op now
    ([⟨_, answer⟩], m)
  | .reopen | .meanwhile _ => ([], m)

/-- The answers to a list of turns, and the store after them. -/
def run (m : MemoryStore) : List StoreTurn → List StoreAnswer × MemoryStore
  | [] => ([], m)
  | t :: turns =>
    let (answers, m) := m.turn t
    let (more, m) := run m turns
    (answers ++ more, m)

end MemoryStore

/-! ### What operations look at -/

namespace StoreOp

variable {α : Type}

/-- Operations do not look at the time of the last change, and leave it as it is. -/
theorem apply_lastUpdated (op : StoreOp α) (now stamp : Timestamp) (d : StoreDocument) :
    op.apply now { d with lastUpdated := stamp } =
      (op.apply now d).map fun p => (p.1, { p.2 with lastUpdated := stamp }) := by
  cases op with
  | get id =>
    simp only [apply, StoreDocument.get]
    cases d.environments.find? id <;> rfl
  | insert e =>
    simp only [apply, StoreDocument.insert]
    split <;> rfl
  | setStatus id next =>
    simp only [apply, StoreDocument.setStatus]
    cases d.environments.find? id with
    | none => rfl
    | some e =>
      dsimp only
      split <;> rfl
  | remove id =>
    simp only [apply, StoreDocument.remove]
    cases d.environments.find? id <;> rfl
  | contains | list | append | artifacts | putReport | reports => rfl

/-- The counts that an operation brings along are numbers of 64 bits. -/
def CountsFit : StoreOp α → Prop
  | .putReport r => r.CountsFit
  | _ => True

theorem apply_countsFit {op : StoreOp α} (hop : op.CountsFit) {now : Timestamp}
    {d d' : StoreDocument} (hd : d.CountsFit) {a : α} (h : op.apply now d = .ok (a, d')) :
    d'.CountsFit := by
  cases op with
  | get id =>
    obtain ⟨e, -, heq⟩ := map_eq_ok.1 h
    cases heq
    exact hd
  | insert e =>
    obtain ⟨d₂, hinsert, heq⟩ := map_eq_ok.1 h
    cases heq
    unfold StoreDocument.insert at hinsert
    split at hinsert
    · cases hinsert
    · cases hinsert
      exact hd
  | setStatus id next =>
    simp only [apply, StoreDocument.setStatus] at h
    split at h
    · cases h
    · split at h
      · cases h
        exact hd
      · cases h
  | remove id =>
    simp only [apply, StoreDocument.remove] at h
    split at h
    · cases h
      exact hd
    · cases h
  | putReport r =>
    cases h
    intro e he
    rcases Entries.mem_insert he with rfl | he
    · exact hop
    · exact hd e he
  | contains | list | append | artifacts | reports =>
    cases h
    exact hd

end StoreOp

/-- The counts that a turn brings along are numbers of 64 bits. -/
def StoreTurn.CountsFit : StoreTurn → Prop
  | .perform op _ => op.CountsFit
  | .reopen | .meanwhile _ => True

/-! ### Two stores with the same records -/

/-- A file and a store in memory hold the same records: before the first write the file holds
nothing, afterwards it holds the text of the records. -/
structure Mirrors (s : FileSession) (m : MemoryStore) : Prop where
  accepting : m.refusing = false
  countsFit : m.document.CountsFit
  unwritten : m.writes = 0 → (s.content = .error .notFound ∨ s.content = .ok []) ∧
    ∃ start, m.document = .empty start
  written : m.writes ≠ 0 → s.content = .ok m.document.toText

namespace Mirrors

variable {s : FileSession} {m : MemoryStore}

/-- A file that holds nothing is read as no records. -/
theorem records_of_nothing (h : s.content = .error .notFound ∨ s.content = .ok [])
    (now : Timestamp) : s.records now = .ok (.empty now) := by
  unfold FileSession.content at h
  unfold FileSession.records FileStore.load
  rcases h with h | h
  · rw [h]
    rfl
  · rw [h]
    rfl

/-- What is read from the file are the records in memory, but for the time of the last change
before the first one. -/
theorem records_eq (h : Mirrors s m) (now : Timestamp) :
    s.records now = if m.writes = 0 then .ok (.empty now) else .ok m.document := by
  split
  · next hzero => exact records_of_nothing (h.unwritten hzero).1 now
  · next hwrites =>
    have hcontent : s.disk.read s.cwd s.store.path = .ok m.document.toText := h.written hwrites
    unfold FileSession.records FileStore.load
    rw [hcontent]
    exact StoreDocument.ofText_toText now h.countsFit

theorem records_stamped (h : Mirrors s m) (now : Timestamp) :
    ∃ stamp, s.records now = .ok { m.document with lastUpdated := stamp } := by
  rw [h.records_eq now]
  split
  · next hzero =>
    obtain ⟨start, hstart⟩ := (h.unwritten hzero).2
    exact ⟨now, by rw [hstart]; rfl⟩
  · exact ⟨m.document.lastUpdated, rfl⟩

/-- Records that cannot be saved are refused by the system. -/
theorem refused_of_save {store : FileStore} {records : StoreDocument} {cwd : Place} {d d' : Disk}
    {e : StoreError} (h : store.save records cwd d = (.error e, d')) : ∃ f, e = .io f := by
  unfold FileStore.save at h
  split at h
  · cases h
    exact ⟨_, rfl⟩
  · split at h
    · cases h
    · cases h
      exact ⟨_, rfl⟩

/-- An operation is answered alike by both stores, unless the system refuses. -/
theorem perform {α : Type} (h : Mirrors s m) (op : StoreOp α) (hop : op.CountsFit)
    (now : Timestamp)
    (hio : ∀ f, (s.store.perform op now s.cwd s.disk).1 ≠ .error (.io f)) :
    (s.store.perform op now s.cwd s.disk).1 = (m.perform op now).1 ∧
      Mirrors { s with disk := (s.store.perform op now s.cwd s.disk).2 } (m.perform op now).2 := by
  obtain ⟨stamp, hload⟩ := h.records_stamped now
  have hload : s.store.load now s.cwd s.disk = .ok { m.document with lastUpdated := stamp } := hload
  revert hio
  unfold FileStore.perform MemoryStore.perform
  rw [hload, h.accepting, Bool.and_false]
  simp only [StoreOp.apply_lastUpdated, Bool.false_eq_true, if_false]
  cases happly : op.apply now m.document with
  | error e => exact fun _ => ⟨rfl, h⟩
  | ok done =>
    obtain ⟨a, d⟩ := done
    simp only [Except.map]
    cases hmutates : op.mutates with
    | false => exact fun _ => ⟨rfl, h⟩
    | true =>
      simp only [if_true]
      intro hio
      cases hsave : s.store.save { d with lastUpdated := now } s.cwd s.disk with
      | mk saved disk =>
        rw [hsave] at hio
        cases saved with
        | error e =>
          obtain ⟨f, rfl⟩ := refused_of_save hsave
          exact absurd rfl (hio f)
        | ok _ =>
          have hfit : d.CountsFit := StoreOp.apply_countsFit hop h.countsFit happly
          refine ⟨rfl, ?_⟩
          exact {
            accepting := rfl
            countsFit := hfit
            unwritten := fun hzero => absurd hzero (Nat.succ_ne_zero _)
            written := fun _ => FileStore.save_ok hsave }

/-- One turn is answered alike by both stores and keeps their records the same. -/
theorem turn (h : Mirrors s m) (t : StoreTurn) (hcounts : t.CountsFit)
    (hown : ∀ disk, t = .meanwhile disk → FileSession.content { s with disk } = s.content)
    (hio : ∀ a ∈ (s.turn t).1, a.isRefusal = false) :
    (s.turn t).1 = (m.turn t).1 ∧ Mirrors (s.turn t).2 (m.turn t).2 := by
  cases t with
  | reopen => exact ⟨rfl, h⟩
  | meanwhile disk =>
    have hsame := hown disk rfl
    exact ⟨rfl, {
      accepting := h.accepting
      countsFit := h.countsFit
      unwritten := fun hzero => by
        show (FileSession.content { s with disk } = _ ∨ FileSession.content { s with disk } = _) ∧ _
        rw [hsame]
        exact h.unwritten hzero
      written := fun hwrites => hsame.trans (h.written hwrites) }⟩
  | perform op now =>
    obtain ⟨hanswer, hmirrors⟩ := h.perform op hcounts now fun f hf => by
      have hfault : StoreAnswer.isRefusal ⟨_, (s.store.perform op now s.cwd s.disk).1⟩ = false :=
        hio _ (List.mem_singleton.2 rfl)
      rw [hf] at hfault
      cases hfault
    exact ⟨by simp only [FileSession.turn, MemoryStore.turn, hanswer], hmirrors⟩

/-- Any list of turns is answered alike by both stores and keeps their records the same. -/
theorem run {turns : List StoreTurn} (h : Mirrors s m) (hcounts : ∀ t ∈ turns, t.CountsFit)
    (hown : s.Undisturbed turns) (hio : ∀ a ∈ (s.run turns).1, a.isRefusal = false) :
    (s.run turns).1 = (m.run turns).1 ∧ Mirrors (s.run turns).2 (m.run turns).2 := by
  induction turns generalizing s m with
  | nil => exact ⟨rfl, h⟩
  | cons t turns ih =>
    obtain ⟨ht, hturns⟩ := List.forall_mem_cons.1 hcounts
    obtain ⟨hfirst, hrest⟩ := hown
    have hio' : ∀ a ∈ (s.turn t).1 ++ ((s.turn t).2.run turns).1, a.isRefusal = false := hio
    obtain ⟨hanswer, hmirrors⟩ := h.turn t ht hfirst fun a ha =>
      hio' a (List.mem_append_left _ ha)
    obtain ⟨hanswers, hafter⟩ := ih hmirrors hturns hrest fun a ha =>
      hio' a (List.mem_append_right _ ha)
    refine ⟨?_, hafter⟩
    show (s.turn t).1 ++ ((s.turn t).2.run turns).1 = (m.turn t).1 ++ ((m.turn t).2.run turns).1
    rw [hanswer, hanswers]

end Mirrors

namespace FileSession

/-- A store in a file refines a store in memory: started on a file that is absent or empty, it
answers every operation as a new store in memory does, whoever opens it in between; and at every
point at which something was written, the records in the file are those in memory. -/
theorem refines_memory (s : FileSession) (start : Timestamp) (turns : List StoreTurn)
    (hnothing : s.content = .error .notFound ∨ s.content = .ok [])
    (hown : s.Undisturbed turns) (hcounts : ∀ t ∈ turns, t.CountsFit)
    (hio : ∀ a ∈ (s.run turns).1, a.isRefusal = false) :
    (s.run turns).1 = ((MemoryStore.empty start).run turns).1 ∧
      ∀ before after, turns = before ++ after →
        ((MemoryStore.empty start).run before).2.writes ≠ 0 → ∀ now,
        (s.run before).2.records now = .ok ((MemoryStore.empty start).run before).2.document := by
  have hmirrors : Mirrors s (MemoryStore.empty start) := {
    accepting := rfl
    countsFit := fun e he => by cases he
    unwritten := fun _ => ⟨hnothing, start, rfl⟩
    written := fun hwrites => absurd rfl hwrites }
  refine ⟨(hmirrors.run hcounts hown hio).1, ?_⟩
  rintro before after rfl hwrites now
  have hanswered : ∀ a ∈ (s.run before).1, a.isRefusal = false := fun a ha =>
    hio a (by rw [run_append]; exact List.mem_append_left _ ha)
  have hafter := (hmirrors.run (fun t ht => hcounts t (List.mem_append_left _ ht)) hown.before
    hanswered).2
  rw [hafter.records_eq now, if_neg hwrites]

/-- A store in a directory in which nothing lies. -/
def untouched : FileSession := ⟨⟨"s.json"⟩, ["w"], ⟨[(["w"], .directory)]⟩⟩

/-- Another file appears, an artifact is recorded, the store is opened anew and asked twice. -/
def visits : List StoreTurn :=
  [.meanwhile ⟨[(["w"], .directory), (["w", "log"], .file [] false)]⟩,
    .perform (.append [default]) .epoch, .reopen, .perform .artifacts .epoch,
    .perform (.get "e") .epoch]

theorem refines_memory_visits :
    (untouched.run visits).1 = [⟨Unit, .ok ()⟩, ⟨List Artifact, .ok [default]⟩,
      ⟨TestEnvironment, .error (.notFound "e")⟩] ∧
    ∀ now, (untouched.run visits).2.records now =
      .ok ((StoreDocument.empty .epoch).append [default]) := by
  have hown : untouched.Undisturbed visits := by
    refine ⟨?_, ?_, ?_, ?_, ?_, trivial⟩
    · rintro disk ⟨⟩
      decide +kernel
    all_goals
      intro disk h
      cases h
  have hio : ∀ a ∈ (untouched.run visits).1, a.isRefusal = false := by decide +kernel
  obtain ⟨hanswers, hrecords⟩ := refines_memory untouched .epoch visits (.inl (by decide +kernel))
    hown (by simp [visits, StoreTurn.CountsFit, StoreOp.CountsFit]) hio
  refine ⟨hanswers.trans rfl, fun now => ?_⟩
  exact hrecords visits [] (List.append_nil _).symm (by decide) now

end FileSession

end Orchestration
