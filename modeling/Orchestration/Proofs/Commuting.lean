import Orchestration.Proofs.Failures

/-!
# Changes that do not meet

A change of the records concerns one part of them: the environment of an identifier, the report of
an identifier, or the artifacts.  It looks at no other part and changes no other part, so changes
of different parts may come in any order:

* `RecordPart`, `StoreOp.part?` — the parts, and the one that a change concerns;
* `inPlace_elsewhere`, `inPlace_congr` — what a change leaves alone, and what it depends on;
* `StoreChange`, `StoreChange.Apart` — changes that are asked for, and changes that do not meet;
* `MemoryStore.run_apart` — in any order, each of them is answered as if it were the only one, and
  each part is as the only change that concerns it leaves it;
* `StoreOp.apart_commute` — two of them in either order, any number in every order, in memory and
  in a file.
-/

namespace Orchestration

/-! ### Parts of the records -/

/-- A part of the records that changes by itself. -/
inductive RecordPart where
  | environment (id : String)
  | report (id : String)
  | artifacts
  deriving DecidableEq

namespace StoreDocument

/-- Two documents have the same in a part. -/
def AgreeAt (d d' : StoreDocument) : RecordPart → Prop
  | .environment id => d.environments.find? id = d'.environments.find? id
  | .report id => d.reports.find? id = d'.reports.find? id
  | .artifacts => d.artifacts = d'.artifacts

/-- Two documents with the same records; the time of the last change may differ. -/
structure SameRecords (d d' : StoreDocument) : Prop where
  version : d.version = d'.version
  artifacts : d.artifacts = d'.artifacts
  environments : d.environments = d'.environments
  reports : d.reports = d'.reports

variable {d d' d'' : StoreDocument} {p : RecordPart}

theorem AgreeAt.refl (d : StoreDocument) (p : RecordPart) : d.AgreeAt d p := by
  cases p <;> rfl

theorem AgreeAt.symm (h : d.AgreeAt d' p) : d'.AgreeAt d p := by
  cases p <;> exact Eq.symm h

theorem AgreeAt.trans (h : d.AgreeAt d' p) (h' : d'.AgreeAt d'' p) : d.AgreeAt d'' p := by
  cases p <;> exact Eq.trans h h'

theorem AgreeAt.stamped (h : d.AgreeAt d' p) (stamp : Timestamp) :
    AgreeAt { d with lastUpdated := stamp } d' p := by
  cases p <;> exact h

/-- Documents that have the same in every part have the same records. -/
theorem sameRecords_of_agreeAt (version : d.version = d'.version) (h : ∀ p, d.AgreeAt d' p) :
    d.SameRecords d' where
  version := version
  artifacts := h .artifacts
  environments := KeyMap.ext_find? fun id => h (.environment id)
  reports := KeyMap.ext_find? fun id => h (.report id)

theorem agreeAt_environments {m : KeyMap TestEnvironment}
    (h : ∀ id, p = .environment id → m.find? id = d.environments.find? id) :
    AgreeAt { d with environments := m } d p := by
  cases p with
  | environment id => exact h id rfl
  | report id => rfl
  | artifacts => rfl

end StoreDocument

open StoreDocument

namespace StoreOp

variable {α : Type}

/-- The part that an operation concerns, if it changes anything. -/
def part? : StoreOp α → Option RecordPart
  | .insert e => some (.environment e.id)
  | .setStatus id _ | .remove id => some (.environment id)
  | .append _ => some .artifacts
  | .putReport r => some (.report r.id)
  | .get _ | .contains _ | .list _ | .artifacts | .reports _ => none

theorem part?_isSome (op : StoreOp α) : op.part?.isSome = op.mutates := by
  cases op <;> rfl

theorem inPlace_version (op : StoreOp α) (now : Timestamp) (d : StoreDocument) :
    (op.inPlace now d).2.version = d.version := by
  cases op with
  | get | contains | list | append | artifacts | putReport | reports => rfl
  | insert e =>
    simp only [inPlace]
    split <;> rfl
  | setStatus id next =>
    simp only [inPlace]
    split
    · rfl
    · split <;> rfl
  | remove id =>
    simp only [inPlace]
    split <;> rfl

/-- An operation changes no part but its own. -/
theorem inPlace_elsewhere (op : StoreOp α) (now : Timestamp) (d : StoreDocument) {p : RecordPart}
    (other : op.part? ≠ some p) : (op.inPlace now d).2.AgreeAt d p := by
  have apart : ∀ {id key : String}, some (RecordPart.environment id) ≠ some p →
      p = .environment key → id ≠ key := by
    rintro id _ h rfl rfl
    exact h rfl
  cases op with
  | get | contains | list | artifacts | reports => exact .refl d p
  | append as =>
    cases p with
    | environment id => rfl
    | report id => rfl
    | artifacts => exact absurd rfl other
  | putReport r =>
    cases p with
    | environment id => rfl
    | artifacts => rfl
    | report id =>
      have named : r.id ≠ id := fun same => other (congrArg _ (congrArg _ same))
      exact d.reports.find?_insert_of_ne named r
  | insert e =>
    simp only [inPlace]
    split
    · exact .refl d p
    · refine agreeAt_environments fun key here => ?_
      exact d.environments.find?_insert_of_ne (apart other here) e
  | setStatus id next =>
    simp only [inPlace]
    split
    · exact .refl d p
    · split
      · refine agreeAt_environments fun key here => ?_
        rw [KeyMap.insert_insert, KeyMap.find?_insert_of_ne _ (apart other here)]
      · exact .refl d p
  | remove id =>
    have erased : AgreeAt { d with environments := d.environments.erase id } d p :=
      agreeAt_environments fun key here => d.environments.find?_erase_of_ne (apart other here)
    simp only [inPlace]
    split <;> exact erased

/-- What an operation answers, and what it makes of its own part, depends on that part alone. -/
theorem inPlace_congr {op : StoreOp α} {p : RecordPart} (own : op.part? = some p)
    (now : Timestamp) {d d' : StoreDocument} (same : d.AgreeAt d' p) :
    (op.inPlace now d).1 = (op.inPlace now d').1 ∧
      (op.inPlace now d).2.AgreeAt (op.inPlace now d').2 p := by
  have bound : ∀ {β : Type} (m m' : KeyMap β) (key : String) (value : β),
      (m.insert key value).find? key = (m'.insert key value).find? key := by
    intro β m m' key value
    rw [KeyMap.find?_insert_self, KeyMap.find?_insert_self]
  cases op with
  | get | contains | list | artifacts | reports => cases own
  | append as =>
    cases own
    exact ⟨rfl, congrArg (· ++ as) same⟩
  | putReport r =>
    cases own
    exact ⟨rfl, bound d.reports d'.reports r.id r⟩
  | insert e =>
    cases own
    have same : d.environments.find? e.id = d'.environments.find? e.id := same
    have taken : d.environments.contains e.id = d'.environments.contains e.id :=
      congrArg Option.isSome same
    simp only [inPlace, taken]
    split
    · exact ⟨rfl, same⟩
    · exact ⟨rfl, bound d.environments d'.environments e.id e⟩
  | setStatus id next =>
    cases own
    have same : d.environments.find? id = d'.environments.find? id := same
    simp only [inPlace, same]
    split
    · exact ⟨rfl, same⟩
    · split
      · exact ⟨rfl, bound _ _ id _⟩
      · exact ⟨rfl, same⟩
  | remove id =>
    cases own
    have same : d.environments.find? id = d'.environments.find? id := same
    have erased : (d.environments.erase id).find? id = (d'.environments.erase id).find? id := by
      rw [KeyMap.find?_erase_self, KeyMap.find?_erase_self]
    simp only [inPlace, same]
    split <;> exact ⟨rfl, erased⟩

end StoreOp

/-! ### Changes that are asked for -/

/-- A change of the records that is asked for at a time. -/
structure StoreChange : Type 1 where
  {α : Type}
  op : StoreOp α
  now : Timestamp
  moves : op.mutates = true

namespace StoreChange

/-- Two changes do not meet: they concern neither the same environment nor the same report, and
they do not both append artifacts. -/
def Apart (a b : StoreChange) : Prop := a.op.part? ≠ b.op.part?

instance : DecidableRel Apart := fun a b =>
  inferInstanceAs (Decidable (a.op.part? ≠ b.op.part?))

theorem Apart.symm {a b : StoreChange} (h : a.Apart b) : b.Apart a := Ne.symm h

/-- The part that a change concerns. -/
theorem exists_part (c : StoreChange) : ∃ p, c.op.part? = some p := by
  rw [← Option.isSome_iff_exists, StoreOp.part?_isSome]
  exact c.moves

/-- The change as something that happens to a store. -/
def turn (c : StoreChange) : StoreTurn := .perform c.op c.now

end StoreChange

namespace MemoryStore

/-- What a store answers to a change. -/
def answer (m : MemoryStore) (c : StoreChange) : StoreAnswer := ⟨c.α, (m.perform c.op c.now).1⟩

/-- The store after a change. -/
def after (m : MemoryStore) (c : StoreChange) : MemoryStore := (m.perform c.op c.now).2

/-- What a store does with a change, by what the change does to the records. -/
theorem perform_change (m : MemoryStore) (c : StoreChange) :
    (m.refusing = true ∧ m.perform c.op c.now = (.error refusal, m)) ∨
    (m.refusing = false ∧ (m.perform c.op c.now).1 = (c.op.inPlace c.now m.document).1 ∧
      (m.after c).refusing = false ∧ ∃ stamp, (m.after c).document =
        { (c.op.inPlace c.now m.document).2 with lastUpdated := stamp }) := by
  rw [after, ← performInPlace_eq, performInPlace, c.moves]
  cases m.refusing with
  | true => exact .inl ⟨rfl, rfl⟩
  | false =>
    refine .inr ⟨rfl, ?_⟩
    cases c.op.inPlace c.now m.document with | mk result d
    cases result with
    | error e => exact ⟨rfl, rfl, d.lastUpdated, rfl⟩
    | ok a => exact ⟨rfl, rfl, c.now, rfl⟩

theorem after_version (m : MemoryStore) (c : StoreChange) :
    (m.after c).document.version = m.document.version := by
  rcases m.perform_change c with ⟨-, refused⟩ | ⟨-, -, -, stamp, records⟩
  · rw [after, refused]
  · rw [records]
    exact StoreOp.inPlace_version c.op c.now m.document

theorem after_refusing (m : MemoryStore) (c : StoreChange) :
    (m.after c).refusing = m.refusing := by
  rcases m.perform_change c with ⟨-, refused⟩ | ⟨accepts, -, still, -⟩
  · rw [after, refused]
  · rw [still, accepts]

/-- A change leaves the other parts alone. -/
theorem after_elsewhere (m : MemoryStore) {c : StoreChange} {p : RecordPart}
    (other : c.op.part? ≠ some p) : (m.after c).document.AgreeAt m.document p := by
  rcases m.perform_change c with ⟨-, refused⟩ | ⟨-, -, -, stamp, records⟩
  · rw [after, refused]
    exact .refl _ p
  · rw [records]
    exact (StoreOp.inPlace_elsewhere c.op c.now m.document other).stamped stamp

/-- Stores that have the same in the part of a change answer it alike, and have the same in that
part afterwards. -/
theorem after_congr {m m' : MemoryStore} {c : StoreChange} {p : RecordPart}
    (own : c.op.part? = some p) (flag : m.refusing = m'.refusing)
    (same : m.document.AgreeAt m'.document p) :
    m.answer c = m'.answer c ∧ (m.after c).document.AgreeAt (m'.after c).document p := by
  obtain ⟨answered, kept⟩ := StoreOp.inPlace_congr own c.now same
  rcases m.perform_change c with ⟨refuses, done⟩ | ⟨accepts, said, -, stamp, records⟩ <;>
    rcases m'.perform_change c with ⟨refuses', done'⟩ | ⟨accepts', said', -, stamp', records'⟩
  · rw [answer, answer, after, after, done, done']
    exact ⟨rfl, same⟩
  · rw [refuses, accepts'] at flag
    cases flag
  · rw [accepts, refuses'] at flag
    cases flag
  · rw [answer, answer, said, said', answered, records, records']
    exact ⟨rfl, (kept.stamped stamp).symm.stamped stamp' |>.symm⟩

theorem run_cons (m : MemoryStore) (c : StoreChange) (cs : List StoreChange) :
    m.run ((c :: cs).map StoreChange.turn) =
      (m.answer c :: ((m.after c).run (cs.map StoreChange.turn)).1,
        ((m.after c).run (cs.map StoreChange.turn)).2) := rfl

/-- Changes that do not meet, one after the other: each is answered as if it were the only one, a
part that one of them concerns is as that one alone leaves it, and all other parts are as they
were. -/
theorem run_apart {cs : List StoreChange} (apart : cs.Pairwise StoreChange.Apart) :
    ∀ m : MemoryStore, (m.run (cs.map StoreChange.turn)).1 = cs.map m.answer ∧
      (m.run (cs.map StoreChange.turn)).2.document.version = m.document.version ∧
      (∀ c ∈ cs, ∀ p, c.op.part? = some p →
        (m.run (cs.map StoreChange.turn)).2.document.AgreeAt (m.after c).document p) ∧
      ∀ p, (∀ c ∈ cs, c.op.part? ≠ some p) →
        (m.run (cs.map StoreChange.turn)).2.document.AgreeAt m.document p := by
  induction cs with
  | nil => exact fun m => ⟨rfl, rfl, fun c hc => absurd hc List.not_mem_nil, fun p _ => .refl _ p⟩
  | cons c cs ih =>
    intro m
    obtain ⟨first, rest⟩ := List.pairwise_cons.1 apart
    obtain ⟨answers, version, concerned, others⟩ := ih rest (m.after c)
    -- a later change finds its own part as it was before the first one
    have before : ∀ x ∈ cs, ∀ p, x.op.part? = some p →
        (m.after c).answer x = m.answer x ∧
          ((m.after c).after x).document.AgreeAt (m.after x).document p := by
      intro x hx p own
      refine after_congr own (m.after_refusing c) (m.after_elsewhere ?_)
      rw [← own]
      exact first x hx
    rw [run_cons]
    refine ⟨?_, version.trans (m.after_version c), ?_, ?_⟩
    · rw [answers, List.map_cons]
      refine congrArg _ (List.map_congr_left fun x hx => ?_)
      obtain ⟨p, own⟩ := x.exists_part
      exact (before x hx p own).1
    · intro x hx p own
      rcases List.mem_cons.1 hx with rfl | hx
      · exact others p fun y hy same => first y hy (own.trans same.symm)
      · exact (concerned x hx p own).trans (before x hx p own).2
    · intro p none
      exact (others p fun x hx => none x (List.mem_cons_of_mem _ hx)).trans
        (m.after_elsewhere (none c List.mem_cons_self))

/-- In every order the same records come out. -/
theorem run_perm {cs cs' : List StoreChange} (apart : cs.Pairwise StoreChange.Apart)
    (perm : cs.Perm cs') (m : MemoryStore) :
    (m.run (cs.map StoreChange.turn)).2.document.SameRecords
      (m.run (cs'.map StoreChange.turn)).2.document := by
  have apart' := perm.pairwise apart fun h => h.symm
  obtain ⟨-, version, concerned, others⟩ := run_apart apart m
  obtain ⟨-, version', concerned', others'⟩ := run_apart apart' m
  refine sameRecords_of_agreeAt (version.trans version'.symm) fun p => ?_
  by_cases met : ∃ c ∈ cs, c.op.part? = some p
  · obtain ⟨c, hc, own⟩ := met
    exact (concerned c hc p own).trans (concerned' c (perm.mem_iff.1 hc) p own).symm
  · have none : ∀ c ∈ cs, c.op.part? ≠ some p := fun c hc own => met ⟨c, hc, own⟩
    exact (others p none).trans (others' p fun c hc => none c (perm.mem_iff.2 hc)).symm

end MemoryStore

/-! ### The store in a file -/

namespace FileSession

/-- Nothing but changes happens to a store, so nobody else writes its file. -/
theorem undisturbed_changes (cs : List StoreChange) :
    ∀ s : FileSession, s.Undisturbed (cs.map StoreChange.turn) := by
  induction cs with
  | nil => exact fun _ => trivial
  | cons c cs ih => exact fun s => ⟨nofun, ih _⟩

/-- A new store in memory has the records of a file that holds nothing. -/
theorem mirrors_empty {s : FileSession}
    (nothing : s.content = .error .notFound ∨ s.content = .ok []) (start : Timestamp) :
    Mirrors s (.empty start) where
  accepting := rfl
  countsFit := fun e he => by cases he
  unwritten := fun _ => ⟨nothing, start, rfl⟩
  written := fun written => absurd rfl written

end FileSession

/-- Changes in a file are answered like those in memory, and leave the same records. -/
theorem Mirrors.run_changes {s : FileSession} {m : MemoryStore} (h : Mirrors s m)
    {cs : List StoreChange} (counts : ∀ c ∈ cs, c.op.CountsFit)
    (accepted : ∀ a ∈ (s.run (cs.map StoreChange.turn)).1, a.isRefusal = false) :
    (s.run (cs.map StoreChange.turn)).1 = (m.run (cs.map StoreChange.turn)).1 ∧
      ∀ now, ∃ stamp, (s.run (cs.map StoreChange.turn)).2.records now =
        .ok { (m.run (cs.map StoreChange.turn)).2.document with lastUpdated := stamp } := by
  have fits : ∀ t ∈ cs.map StoreChange.turn, t.CountsFit := by
    intro t ht
    obtain ⟨c, hc, rfl⟩ := List.mem_map.1 ht
    exact counts c hc
  obtain ⟨answers, still⟩ := h.run fits (s.undisturbed_changes cs) accepted
  exact ⟨answers, still.records_stamped⟩

theorem StoreDocument.SameRecords.stamped {d d' : StoreDocument} (h : d.SameRecords d')
    (stamp stamp' : Timestamp) :
    SameRecords { d with lastUpdated := stamp } { d' with lastUpdated := stamp' } :=
  ⟨h.version, h.artifacts, h.environments, h.reports⟩

/-! ### The whole -/

/-- Changes that do not meet may come in any order.  Two of them leave the same records in either
order, and each is answered alike in both.  Any number of them leave the same records in every
order, and each is answered as the store would answer it at once; so it is in memory, whether or
not writes are refused there, and in a file, where the system refuses nothing. -/
theorem StoreOp.apart_commute :
    (∀ (m : MemoryStore) (a b : StoreChange), a.Apart b →
      ((m.after a).after b).document.SameRecords ((m.after b).after a).document ∧
        (m.after b).answer a = m.answer a ∧ (m.after a).answer b = m.answer b) ∧
    ∀ (m : MemoryStore) (cs cs' : List StoreChange), cs.Pairwise StoreChange.Apart → cs.Perm cs' →
      ((m.run (cs.map StoreChange.turn)).1 = cs.map m.answer ∧
        (m.run (cs'.map StoreChange.turn)).1 = cs'.map m.answer ∧
        (m.run (cs.map StoreChange.turn)).2.document.SameRecords
          (m.run (cs'.map StoreChange.turn)).2.document) ∧
      ∀ s : FileSession, Mirrors s m → (∀ c ∈ cs, c.op.CountsFit) →
        (∀ a ∈ (s.run (cs.map StoreChange.turn)).1, a.isRefusal = false) →
        (∀ a ∈ (s.run (cs'.map StoreChange.turn)).1, a.isRefusal = false) →
        (s.run (cs.map StoreChange.turn)).1 = cs.map m.answer ∧
          (s.run (cs'.map StoreChange.turn)).1 = cs'.map m.answer ∧
          ∀ now, ∃ d d', (s.run (cs.map StoreChange.turn)).2.records now = .ok d ∧
            (s.run (cs'.map StoreChange.turn)).2.records now = .ok d' ∧ d.SameRecords d' := by
  constructor
  · intro m a b apart
    have pair : ∀ {x y : StoreChange}, x.Apart y → [x, y].Pairwise StoreChange.Apart :=
      fun h => List.pairwise_pair.2 h
    have answered : ∀ {x y : StoreChange}, x.Apart y → (m.after x).answer y = m.answer y := by
      intro x y h
      have answers : [m.answer x, (m.after x).answer y] = [m.answer x, m.answer y] :=
        (MemoryStore.run_apart (pair h) m).1
      exact (List.cons.inj (List.cons.inj answers).2).1
    exact ⟨MemoryStore.run_perm (pair apart) (.swap b a []) m, answered apart.symm,
      answered apart⟩
  · intro m cs cs' apart perm
    have same := MemoryStore.run_perm apart perm m
    have answers := (MemoryStore.run_apart apart m).1
    have answers' := (MemoryStore.run_apart (perm.pairwise apart fun h => h.symm) m).1
    refine ⟨⟨answers, answers', same⟩, fun s mirrors counts accepted accepted' => ?_⟩
    have counts' : ∀ c ∈ cs', c.op.CountsFit := fun c hc => counts c (perm.mem_iff.2 hc)
    obtain ⟨said, records⟩ := mirrors.run_changes counts accepted
    obtain ⟨said', records'⟩ := mirrors.run_changes counts' accepted'
    refine ⟨said.trans answers, said'.trans answers', fun now => ?_⟩
    obtain ⟨stamp, read⟩ := records now
    obtain ⟨stamp', read'⟩ := records' now
    exact ⟨_, _, read, read', same.stamped stamp stamp'⟩

/-- An environment is recorded, another one is to be removed that is not there, an artifact is
appended and a report is put down. -/
def StoreChange.mixed : List StoreChange :=
  [⟨.insert .sample, .epoch, rfl⟩, ⟨.remove "test-unit-2", .epoch, rfl⟩,
    ⟨.append [default], .epoch, rfl⟩, ⟨.putReport default, .epoch, rfl⟩]

/-- In the reverse order the removal is refused all the same, and the environment is on record. -/
theorem StoreOp.apart_commute_mixed :
    StoreChange.mixed.Pairwise StoreChange.Apart ∧
    (FileSession.untouched.run (StoreChange.mixed.reverse.map StoreChange.turn)).1 =
      [⟨Unit, .ok ()⟩, ⟨Unit, .ok ()⟩, ⟨TestEnvironment, .error (.notFound "test-unit-2")⟩,
        ⟨Unit, .ok ()⟩] ∧
    ((MemoryStore.empty .epoch).run
      (StoreChange.mixed.reverse.map StoreChange.turn)).2.document.environments.find?
        "test-unit-1" = some .sample := by
  have apart : StoreChange.mixed.Pairwise StoreChange.Apart := by decide
  have perm : StoreChange.mixed.Perm StoreChange.mixed.reverse :=
    (List.reverse_perm StoreChange.mixed).symm
  have small : (default : TestReport).CountsFit := ⟨by decide, by decide, by decide⟩
  have counts : ∀ c ∈ StoreChange.mixed, c.op.CountsFit := by
    simp [StoreChange.mixed, StoreOp.CountsFit, small]
  have mirrors := FileSession.mirrors_empty (s := .untouched) (.inl (by decide +kernel)) .epoch
  obtain ⟨⟨-, -, same⟩, inFile⟩ := apart_commute.2 (.empty .epoch) _ _ apart perm
  obtain ⟨-, answers, -⟩ := inFile .untouched mirrors counts (by decide +kernel) (by decide +kernel)
  exact ⟨apart, answers, by rw [← same.environments]; rfl⟩

end Orchestration
