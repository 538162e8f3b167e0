import Orchestration.Proofs.Failures
import Orchestration.Proofs.StoreLogs

/-!
# What stores guarantee over whole runs

* `StoreUse` — a store in use, turn by turn; `StoreUse.run_induction` — what every turn keeps holds
  after any number of them;
* `MemoryStore.use` — a store in memory, told now and then to refuse writes or to accept them;
* `FileSession.use` — a store in a file that is opened anew now and then, on a disk that others
  change;
* `FileSession.Holds` — the file says what the log leads to; `Holds.failed`, `Holds.done` — an
  operation keeps it so;
* `StoreOp.guarantees` — both keep the promises in every state that they get into.
-/

namespace Orchestration

/-! ### Stores in use -/

/-- A store in use: what each turn adds to the log and makes of the store, and which turns may
come. -/
structure StoreUse (S : Type) (T : Type 1) where
  turn : S → T → List StoreEvent × S
  allowed : S → T → Prop

namespace StoreUse

variable {S : Type} {T : Type 1} (u : StoreUse S T)

/-- The log of a list of turns, and the store after them. -/
def run (s : S) : List T → List StoreEvent × S
  | [] => ([], s)
  | t :: turns =>
    let (events, s) := u.turn s t
    let (more, s) := run s turns
    (events ++ more, s)

/-- Every turn may come when it does. -/
def Allowed (s : S) : List T → Prop
  | [] => True
  | t :: turns => u.allowed s t ∧ Allowed (u.turn s t).2 turns

/-- What every turn keeps of a log and a store, any number of turns keep. -/
theorem run_induction {P : List StoreEvent → S → Prop}
    (step : ∀ log s t, P log s → u.allowed s t → P (log ++ (u.turn s t).1) (u.turn s t).2)
    {log : List StoreEvent} {s : S} (start : P log s) {turns : List T} (h : u.Allowed s turns) :
    P (log ++ (u.run s turns).1) (u.run s turns).2 := by
  induction turns generalizing log s with
  | nil =>
    show P (log ++ []) s
    rwa [List.append_nil]
  | cons t turns ih =>
    have rest := ih (step log s t start h.1) h.2
    rw [List.append_assoc] at rest
    exact rest

end StoreUse

/-! ### In memory -/

/-- Something that happens to a store in memory. -/
inductive MemoryTurn : Type 1 where
  | perform {α : Type} (op : StoreOp α) (now : Timestamp)
  /-- From now on writes are refused, or accepted. -/
  | refuse (flag : Bool)

namespace MemoryStore

/-- A store in memory, in use. -/
def use : StoreUse MemoryStore MemoryTurn where
  turn m
    | .perform op now => ([⟨op, now, (m.perform op now).1⟩], (m.perform op now).2)
    | .refuse flag => ([], { m with refusing := flag })
  allowed _ _ := True

theorem use_allowed (m : MemoryStore) (turns : List MemoryTurn) : use.Allowed m turns := by
  induction turns generalizing m with
  | nil => trivial
  | cons t turns ih => exact ⟨trivial, ih _⟩

/-- The log of a store in memory is truthful, and its records are those of the log. -/
def Keeps (log : List StoreEvent) (m : MemoryStore) : Prop :=
  Truthful log ∧ m.document.Reflects log

theorem keeps_turn {log : List StoreEvent} {m : MemoryStore} (h : Keeps log m) (t : MemoryTurn) :
    Keeps (log ++ (use.turn m t).1) (use.turn m t).2 := by
  obtain ⟨truthful, reflects⟩ := h
  cases t with
  | refuse flag => exact ⟨by simpa [use] using truthful, by simpa [use] using reflects⟩
  | perform op now =>
    cases answered : m.perform op now with | mk answer m'
    simp only [use, answered]
    cases answer with
    | error e =>
      obtain rfl := perform_error answered
      exact ⟨.failed op now e truthful, reflects.failed op now e⟩
    | ok a =>
      obtain ⟨d, applied, written⟩ := perform_ok answered
      refine ⟨.done truthful reflects applied, ?_⟩
      cases moves : op.mutates with
      | true =>
        rw [written moves]
        exact (reflects.done applied).stamped now
      | false =>
        have same : (m.perform op now).2 = m := perform_of_reads moves now m
        rw [answered] at same
        obtain rfl : m' = m := same
        exact reflects.read moves now _

end MemoryStore

/-! ### In a file -/

namespace FileSession

/-- What a turn of a store in a file adds to the log. -/
def asked (s : FileSession) : StoreTurn → List StoreEvent
  | .perform op now => [⟨op, now, (s.store.perform op now s.cwd s.disk).1⟩]
  | .reopen | .meanwhile _ => []

/-- The place that the path of the store names. -/
def place (s : FileSession) : Place :=
  Disk.reach (Disk.startOf s.cwd s.store.path) (pathParts s.store.path)

/-- A store in a file, in use: counts are numbers of 64 bits, and nobody else writes the file. -/
def use : StoreUse FileSession StoreTurn where
  turn s t := (s.asked t, (s.turn t).2)
  allowed s t := t.CountsFit ∧ ∀ disk, t = .meanwhile disk →
    content { s with disk } = s.content ∧ disk.contentAt s.place = s.disk.contentAt s.place

/-- There is nothing in the file, or no file that can be read.  A path that ends in two dots names
no file. -/
structure Vacant (s : FileSession) : Prop where
  unwritten : s.content.toOption = none ∨ s.content = .ok []
  unnamed : lastPart s.store.path = ".." → s.disk.contentAt s.place = none

/-- What the file says is what a log leads to: nothing at all, or the text of records. -/
def Holds (s : FileSession) (log : List StoreEvent) : Prop :=
  (s.Vacant ∧ ∀ now, (StoreDocument.empty now).Reflects log) ∨
    ∃ t d, s.content = .ok t ∧ (∀ now, StoreDocument.ofText now t = .ok d) ∧ d.Reflects log

/-- The file holds no records. -/
def Empty (s : FileSession) : Prop :=
  s.Vacant ∨ ∃ t d, s.content = .ok t ∧ (∀ now, StoreDocument.ofText now t = .ok d) ∧ d.Blank

variable {s : FileSession} {log : List StoreEvent}

theorem Empty.holds (h : s.Empty) : s.Holds [] := by
  rcases h with vacant | ⟨t, d, found, read, blank⟩
  · exact .inl ⟨vacant, fun now => .blank (StoreDocument.blank_empty now)⟩
  · exact .inr ⟨t, d, found, read, .blank blank⟩

/-- An event that leaves all records of a log in place leaves the file right. -/
theorem Holds.mono (h : s.Holds log) {log' : List StoreEvent}
    (keep : ∀ d : StoreDocument, d.Reflects log → d.Reflects log') : s.Holds log' := by
  rcases h with ⟨vacant, reflects⟩ | ⟨t, d, found, read, reflects⟩
  · exact .inl ⟨vacant, fun now => keep _ (reflects now)⟩
  · exact .inr ⟨t, d, found, read, keep d reflects⟩

theorem records_of_read {t : RawText} (found : s.content = .ok t) (now : Timestamp) :
    s.records now = StoreDocument.ofText now t := by
  unfold FileSession.records FileStore.load
  rw [show s.disk.read s.cwd s.store.path = .ok t from found]

theorem records_of_fault {f : SystemFault} (found : s.content = .error f) (now : Timestamp) :
    s.records now = if f.isMissing then .ok (.empty now) else .error (.io f) := by
  unfold FileSession.records FileStore.load
  rw [show s.disk.read s.cwd s.store.path = .error f from found]

/-- What is read are the records of the log; otherwise the system refused to read. -/
theorem Holds.records (h : s.Holds log) (now : Timestamp) :
    (∃ d, s.records now = .ok d ∧ d.Reflects log) ∨
      ∃ f, s.content = .error f ∧ s.records now = .error (.io f) := by
  rcases h with ⟨vacant, reflects⟩ | ⟨t, d, found, read, reflects⟩
  · cases found : s.content with
    | ok t =>
      obtain rfl : t = [] := by
        have := vacant.unwritten
        rw [found] at this
        simpa [Except.toOption] using this
      exact .inl ⟨_, records_of_read found now, reflects now⟩
    | error f =>
      rw [records_of_fault found now]
      cases missing : f.isMissing with
      | true => exact .inl ⟨_, rfl, reflects now⟩
      | false => exact .inr ⟨f, rfl, rfl⟩
  · exact .inl ⟨d, (records_of_read found now).trans (read now), reflects⟩

/-- Whoever does not write the file leaves right what it says. -/
theorem Holds.meanwhile (h : s.Holds log) {disk : Disk}
    (same : content { s with disk } = s.content)
    (there : disk.contentAt s.place = s.disk.contentAt s.place) :
    Holds { s with disk } log := by
  rcases h with ⟨vacant, reflects⟩ | ⟨t, d, found, read, reflects⟩
  · refine .inl ⟨⟨?_, ?_⟩, reflects⟩
    · rw [same]
      exact vacant.unwritten
    · exact fun dots => there.trans (vacant.unnamed dots)
  · exact .inr ⟨t, d, same.trans found, read, reflects⟩

variable {α : Type} {op : StoreOp α} {now : Timestamp} {disk : Disk}

/-- An operation that failed leaves right what the file says. -/
theorem Holds.failed {e : StoreError} (h : s.Holds log)
    (refused : s.store.perform op now s.cwd s.disk = (.error e, disk)) :
    Holds { s with disk } (log ++ [⟨op, now, .error e⟩]) := by
  refine Holds.mono ?_ fun d reflects => reflects.failed op now e
  rcases h with ⟨vacant, reflects⟩ | ⟨t, d, found, read, reflects⟩
  · have there : disk.contentAt s.place = s.disk.contentAt s.place :=
      FileStore.contentAt_of_error refused s.place
    refine .inl ⟨⟨?_, ?_⟩, reflects⟩
    · by_cases dots : lastPart s.store.path = ".."
      · -- no file lies where such a path leads, so none can be read
        left
        cases found : content { s with disk } with
        | error f => rfl
        | ok t =>
          have lies : disk.contentAt s.place = some t := Disk.contentAt_of_read found
          rw [there, vacant.unnamed dots] at lies
          cases lies
      · have same := FileStore.perform_error dots refused
        rcases vacant.unwritten with unread | unfilled
        · exact .inl (same.trans unread)
        · refine .inr (toOption_eq_some.1 (same.trans ?_))
          exact congrArg Except.toOption unfilled
    · exact fun dots => there.trans (vacant.unnamed dots)
  · have same : disk = s.disk :=
      FileStore.disk_of_error (FileStore.makeDirs_of_read found) refused
    subst same
    exact .inr ⟨t, d, found, read, reflects⟩

/-- An operation that was done was done on the records of the log, and the file says what came of
it. -/
theorem Holds.done {a : α} (h : s.Holds log) (counts : op.CountsFit)
    (answered : s.store.perform op now s.cwd s.disk = (.ok a, disk)) :
    (∃ d d', d.Reflects log ∧ op.apply now d = .ok (a, d')) ∧
      Holds { s with disk } (log ++ [⟨op, now, .ok a⟩]) := by
  obtain ⟨d, d', loaded, applied, written⟩ := FileStore.perform_ok answered
  have reflects : d.Reflects log := by
    have loaded : s.records now = .ok d := loaded
    rcases h.records now with ⟨d₁, read, reflects⟩ | ⟨f, -, refused⟩
    · rw [loaded] at read
      rwa [Except.ok.inj read]
    · rw [loaded] at refused
      cases refused
  refine ⟨⟨d, d', reflects, applied⟩, ?_⟩
  cases moves : op.mutates with
  | true =>
    have before : d.CountsFit :=
      StoreDocument.countsFit_of_recordsIn (FileStore.load_ok (σ := Unit) loaded)
    have after : d'.CountsFit := StoreOp.apply_countsFit counts before applied
    have fits : { d' with lastUpdated := now }.CountsFit := after
    exact .inr ⟨_, _, written moves, fun now => StoreDocument.ofText_toText now fits,
      (reflects.done applied).stamped now⟩
  | false =>
    have same : disk = s.disk := by
      have := FileStore.perform_of_reads moves s.store now s.cwd s.disk
      rwa [answered] at this
    subst same
    exact h.mono fun d reflects => reflects.read moves now _

/-- The log of a store in a file is truthful, and the file says what the log leads to. -/
def Keeps (log : List StoreEvent) (s : FileSession) : Prop := Truthful log ∧ s.Holds log

theorem keeps_turn (h : Keeps log s) {t : StoreTurn} (may : use.allowed s t) :
    Keeps (log ++ (use.turn s t).1) (use.turn s t).2 := by
  obtain ⟨truthful, holds⟩ := h
  cases t with
  | reopen => exact ⟨by simpa [use, asked] using truthful, by simpa [use, asked, turn] using holds⟩
  | meanwhile disk =>
    obtain ⟨same, there⟩ := may.2 disk rfl
    have held := holds.meanwhile same there
    exact ⟨by simpa [use, asked] using truthful, by simpa [use, asked, turn] using held⟩
  | perform op now =>
    cases answered : s.store.perform op now s.cwd s.disk with | mk answer disk
    simp only [use, asked, turn, answered]
    cases answer with
    | error e => exact ⟨.failed op now e truthful, holds.failed answered⟩
    | ok a =>
      obtain ⟨⟨d, d', reflects, applied⟩, held⟩ := holds.done may.1 answered
      exact ⟨.done truthful reflects applied, held⟩

end FileSession

/-! ### The guarantees -/

/-- Both stores keep their promises in every state that they get into from no records, whichever
operations are performed and fail.  What a store in a file keeps can be read, unless the system
refuses. -/
theorem StoreOp.guarantees :
    (∀ (m m' : MemoryStore) (turns : List MemoryTurn) (log : List StoreEvent), m.document.Blank →
      MemoryStore.use.run m turns = (log, m') → m'.document.Guaranteed log ∧ Consistent log) ∧
    (∀ (s s' : FileSession) (turns : List StoreTurn) (log : List StoreEvent), s.Empty →
      FileSession.use.Allowed s turns → FileSession.use.run s turns = (log, s') →
      (∀ now, (∃ d, s'.records now = .ok d ∧ d.Guaranteed log) ∨
        ∃ f, s'.content = .error f ∧ s'.records now = .error (.io f)) ∧ Consistent log) := by
  constructor
  · intro m m' turns log blank ran
    have start : MemoryStore.Keeps [] m := ⟨.nil, .blank blank⟩
    have kept := MemoryStore.use.run_induction (P := MemoryStore.Keeps)
      (fun log m t h _ => MemoryStore.keeps_turn h t) start (MemoryStore.use_allowed m turns)
    rw [ran] at kept
    obtain ⟨truthful, reflects⟩ := kept
    exact ⟨reflects.guaranteed, truthful.consistent⟩
  · intro s s' turns log empty allowed ran
    have start : FileSession.Keeps [] s := ⟨.nil, empty.holds⟩
    have kept := FileSession.use.run_induction (P := FileSession.Keeps)
      (fun log s t h may => FileSession.keeps_turn h may) start allowed
    rw [ran] at kept
    obtain ⟨truthful, holds⟩ := kept
    refine ⟨fun now => ?_, truthful.consistent⟩
    rcases holds.records now with ⟨d, read, reflects⟩ | refused
    · exact .inl ⟨d, read, reflects.guaranteed⟩
    · exact .inr refused

/-- An environment is recorded, gets an outcome, is refused another and is not recorded again. -/
def MemoryStore.outcomeTurns : List MemoryTurn :=
  [.perform (.insert .sample) .epoch, .perform (.setStatus "test-unit-1" .passed) .epoch,
    .perform (.setStatus "test-unit-1" .failed) .epoch, .perform (.insert .sample) .epoch,
    .refuse true, .perform (.remove "test-unit-1") .epoch]

theorem StoreOp.guarantees_outcome :
    (MemoryStore.use.run (.empty .epoch) MemoryStore.outcomeTurns).2.document.environments.find?
        "test-unit-1" = some (TestEnvironment.sample.concluded .passed .epoch) ∧
    ∃ d, (FileSession.use.run .untouched [.perform (.append [default]) .epoch, .reopen]).2.records
      .epoch = .ok d ∧ d.artifacts = [default] := by
  obtain ⟨inMemory, inFile⟩ := guarantees
  constructor
  · have changes : StoreEvent.changes
        (MemoryStore.use.run (.empty .epoch) MemoryStore.outcomeTurns).1 =
          [] ++ .insert .sample :: [.conclude "test-unit-1" .passed .epoch] := by decide +kernel
    cases ran : MemoryStore.use.run (.empty .epoch) MemoryStore.outcomeTurns with | mk log m
    rw [ran] at changes
    obtain ⟨kept, -⟩ := inMemory _ _ _ _ (StoreDocument.blank_empty .epoch) ran
    have once : EnvChange.outcomes "test-unit-1" [.conclude "test-unit-1" .passed .epoch] =
        [(.passed, .epoch)] := by decide
    rcases (kept.survives _ _ _ changes (by decide)).2 with
      ⟨never, -⟩ | ⟨next, time, outcome, -, -, found⟩
    · exact absurd (once.symm.trans never) (List.cons_ne_nil _ _)
    · cases once.symm.trans outcome
      exact found
  · have allowed : FileSession.use.Allowed .untouched
        [.perform (.append [default]) .epoch, .reopen] := by
      refine ⟨?_, ?_, trivial⟩
      all_goals exact ⟨trivial, fun disk h => by cases h⟩
    have vacant : FileSession.untouched.Empty :=
      .inl ⟨.inl (by decide +kernel), fun dots => by revert dots; decide +kernel⟩
    have batches : StoreEvent.batches (FileSession.use.run .untouched
        [.perform (.append [default]) .epoch, .reopen]).1 = [default] := by decide +kernel
    have readable : (FileSession.use.run .untouched
        [.perform (.append [default]) .epoch, .reopen]).2.content.toOption.isSome = true := by
      decide +kernel
    cases ran : FileSession.use.run .untouched [.perform (.append [default]) .epoch, .reopen]
      with | mk log s
    rw [ran] at batches readable
    rcases (inFile _ _ _ _ vacant allowed ran).1 .epoch with ⟨d, read, kept⟩ | ⟨f, refused, -⟩
    · exact ⟨d, read, kept.artifacts.trans batches⟩
    · rw [refused] at readable
      cases readable

end Orchestration
