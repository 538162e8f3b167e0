import Orchestration.Proofs.Fields
import Orchestration.Proofs.Histories

/-!
# The log of a store

The log of a store is what it was asked and what it answered.  Whichever operations failed, the
records are those that the log leads to:

* `StoreEvent` — something asked and answered; `StoreEvent.changes`, `batches`, `reportOf` — what
  a log says about environments, artifacts and reports;
* `StoreDocument.Reflects` — records are those of a log;
* `Reflects.failed`, `Reflects.done` — an event of either kind keeps them so;
* `StoreDocument.Guaranteed`, `Reflects.guaranteed` — what is promised of such records;
* `Truthful` — every answer in a log was given from the records of the log before it;
* `Consistent`, `Truthful.consistent` — what is promised of such answers.
-/

namespace Orchestration

/-! ### Logs -/

/-- Something that a store was asked, and what it answered. -/
structure StoreEvent : Type 1 where
  {α : Type}
  op : StoreOp α
  now : Timestamp
  answer : Except StoreError α

namespace StoreEvent

/-- What an event did to the environments. -/
def change? : StoreEvent → Option EnvChange
  | ⟨.insert e, _, .ok _⟩ => some (.insert e)
  | ⟨.setStatus id next, now, .ok _⟩ => some (.conclude id next now)
  | ⟨.remove id, _, .ok _⟩ => some (.remove id)
  | _ => none

/-- The artifacts that an event appended. -/
def batch : StoreEvent → List Artifact
  | ⟨.append as, _, .ok _⟩ => as
  | _ => []

/-- The report that an event put down. -/
def report? : StoreEvent → Option TestReport
  | ⟨.putReport r, _, .ok _⟩ => some r
  | _ => none

/-- The changes to environments that succeeded, in order. -/
def changes (log : List StoreEvent) : List EnvChange := log.filterMap change?

/-- The batches of artifacts that were appended, one after the other. -/
def batches (log : List StoreEvent) : List Artifact := log.flatMap batch

/-- The last report that was put down under an identifier. -/
def reportOf (id : String) (log : List StoreEvent) : Option TestReport :=
  ((log.filterMap report?).filter fun r => r.id = id).getLast?

section
variable (log : List StoreEvent) {event : StoreEvent}

theorem changes_concat {c : EnvChange} (h : event.change? = some c) :
    changes (log ++ [event]) = changes log ++ [c] := by
  rw [changes, List.filterMap_append, List.filterMap_cons_some h]
  rfl

theorem changes_of_none (h : event.change? = none) : changes (log ++ [event]) = changes log := by
  rw [changes, List.filterMap_append, List.filterMap_cons_none h]
  exact List.append_nil _

theorem batches_append (before after : List StoreEvent) :
    batches (before ++ after) = batches before ++ batches after := List.flatMap_append

theorem batches_concat (event : StoreEvent) :
    batches (log ++ [event]) = batches log ++ event.batch := by
  rw [batches_append]
  exact congrArg _ (List.append_nil _)

theorem reportOf_concat {r : TestReport} (h : event.report? = some r) (id : String) :
    reportOf id (log ++ [event]) = if r.id = id then some r else reportOf id log := by
  rw [reportOf, List.filterMap_append, List.filterMap_cons_some h, List.filter_append]
  by_cases named : r.id = id <;> simp [reportOf, named]

theorem reportOf_of_none (h : event.report? = none) (id : String) :
    reportOf id (log ++ [event]) = reportOf id log := by
  rw [reportOf, List.filterMap_append, List.filterMap_cons_none h, List.filterMap_nil,
    List.append_nil, reportOf]

end

theorem id_of_reportOf {id : String} {log : List StoreEvent} {r : TestReport}
    (h : reportOf id log = some r) : r.id = id := by
  have mem := List.mem_of_getLast? h
  simpa using (List.mem_filter.1 mem).2

end StoreEvent

/-! ### The records of a log -/

open StoreEvent

/-- Records are those that a log leads to from none. -/
structure StoreDocument.Reflects (d : StoreDocument) (log : List StoreEvent) : Prop where
  environments : EnvChange.replay .empty (changes log) = some d.environments
  artifacts : d.artifacts = batches log
  reports : ∀ id, d.reports.find? id = reportOf id log

/-- No records. -/
structure StoreDocument.Blank (d : StoreDocument) : Prop where
  environments : d.environments = .empty
  artifacts : d.artifacts = []
  reports : d.reports = .empty

theorem StoreDocument.blank_empty (now : Timestamp) : (empty now).Blank := ⟨rfl, rfl, rfl⟩

namespace StoreDocument.Reflects

variable {d d' : StoreDocument} {log : List StoreEvent}

theorem blank (h : d.Blank) : d.Reflects [] where
  environments := by rw [h.environments]; rfl
  artifacts := h.artifacts
  reports id := by rw [h.reports]; rfl

/-- The time of the last change is not in the log. -/
theorem stamped (h : d.Reflects log) (stamp : Timestamp) :
    { d with lastUpdated := stamp }.Reflects log := ⟨h.environments, h.artifacts, h.reports⟩

/-- An event that changes nothing may be added. -/
theorem idle (h : d.Reflects log) {event : StoreEvent} (noChange : event.change? = none)
    (noBatch : event.batch = []) (noReport : event.report? = none) :
    d.Reflects (log ++ [event]) where
  environments := by rw [changes_of_none log noChange, h.environments]
  artifacts := by rw [batches_concat, noBatch, List.append_nil, h.artifacts]
  reports id := by rw [reportOf_of_none log noReport, h.reports]

/-- A change to the environments may be added. -/
theorem changed (h : d.Reflects log) {event : StoreEvent} {c : EnvChange}
    {m : KeyMap TestEnvironment} (change : event.change? = some c) (noBatch : event.batch = [])
    (noReport : event.report? = none) (applied : c.step? d.environments = some m) :
    { d with environments := m }.Reflects (log ++ [event]) where
  environments := by
    rw [changes_concat log change, EnvChange.replay_append, h.environments]
    exact (EnvChange.replay_singleton _ c).trans applied
  artifacts := by rw [batches_concat, noBatch, List.append_nil, h.artifacts]
  reports id := by rw [reportOf_of_none log noReport, h.reports]

/-- An operation that only reads leaves the records, whatever it answered. -/
theorem read (h : d.Reflects log) {α : Type} {op : StoreOp α} (reads : op.mutates = false)
    (now : Timestamp) (answer : Except StoreError α) : d.Reflects (log ++ [⟨op, now, answer⟩]) := by
  apply h.idle
  all_goals cases op <;> first | rfl | cases reads

/-- An operation that failed leaves the records. -/
theorem failed (h : d.Reflects log) {α : Type} (op : StoreOp α) (now : Timestamp) (e : StoreError) :
    d.Reflects (log ++ [⟨op, now, .error e⟩]) := by
  apply h.idle
  all_goals cases op <;> rfl

/-- An operation that is done makes the records that its event speaks of. -/
theorem done (h : d.Reflects log) {α : Type} {op : StoreOp α} {now : Timestamp} {a : α}
    (applied : op.apply now d = .ok (a, d')) : d'.Reflects (log ++ [⟨op, now, .ok a⟩]) := by
  cases op with
  | get | contains | list | artifacts | reports =>
    obtain rfl := StoreOp.apply_of_reads rfl now d d' a applied
    exact h.read rfl now _
  | insert e =>
    obtain ⟨d₁, inserted, heq⟩ := map_eq_ok.1 applied
    cases heq
    unfold StoreDocument.insert KeyMap.contains at inserted
    split at inserted
    · cases inserted
    · next free =>
      cases inserted
      refine h.changed rfl rfl rfl (EnvChange.step?_insert.2 ⟨?_, rfl⟩)
      simpa using free
  | setStatus id next =>
    simp only [StoreOp.apply, StoreDocument.setStatus] at applied
    split at applied
    · cases applied
    · next e found =>
      split at applied
      · next may =>
        cases applied
        exact h.changed rfl rfl rfl (EnvChange.step?_conclude.2 ⟨e, found, may, rfl⟩)
      · cases applied
  | remove id =>
    simp only [StoreOp.apply, StoreDocument.remove] at applied
    split at applied
    · next found =>
      cases applied
      exact h.changed rfl rfl rfl (EnvChange.step?_remove.2 ⟨⟨_, found⟩, rfl⟩)
    · cases applied
  | append as =>
    cases applied
    exact {
      environments := (congrArg _ (changes_of_none log rfl)).trans h.environments
      artifacts := by
        rw [batches_concat, ← h.artifacts]
        rfl
      reports := fun id => (h.reports id).trans (reportOf_of_none log rfl id).symm }
  | putReport r =>
    cases applied
    exact {
      environments := (congrArg _ (changes_of_none log rfl)).trans h.environments
      artifacts := by
        rw [batches_concat, ← h.artifacts]
        exact (List.append_nil _).symm
      reports := fun id => by
        rw [reportOf_concat log rfl, ← h.reports]
        exact KeyMap.find?_insert d.reports r.id id r }

end StoreDocument.Reflects

/-! ### What is promised -/

/-- What is promised of the records after a log. -/
structure StoreDocument.Guaranteed (d : StoreDocument) (log : List StoreEvent) : Prop where
  /-- Environments are filed under their own identifiers. -/
  filed : ∀ id e, d.environments.find? id = some e → e.id = id
  /-- So are reports. -/
  reportFiled : ∀ id r, d.reports.find? id = some r → r.id = id
  /-- Recorded are the environments that were inserted and not removed since. -/
  recorded : ∀ id, d.environments.contains id = true ↔ ∃ before e after,
    changes log = before ++ .insert e :: after ∧ e.id = id ∧ .remove id ∉ after
  /-- Until it is removed a record is not inserted anew and keeps what it was made with, but for
  one outcome. -/
  survives : ∀ before e after, changes log = before ++ .insert e :: after →
    .remove e.id ∉ after → EnvChange.Survives e after d.environments
  /-- Artifacts are the batches that were appended. -/
  artifacts : d.artifacts = batches log
  /-- A report is the last one that was put down under its identifier. -/
  reports : ∀ id, d.reports.find? id = reportOf id log

theorem StoreDocument.Reflects.guaranteed {d : StoreDocument} {log : List StoreEvent}
    (h : d.Reflects log) : d.Guaranteed log where
  filed := EnvChange.replay_filed (fun id e none => by cases none) h.environments
  reportFiled id r found := id_of_reportOf ((h.reports id).symm.trans found)
  recorded := EnvChange.recorded_iff h.environments
  survives before e after same stays := by
    have history := h.environments
    rw [same] at history
    exact EnvChange.survives_of_replay history stays
  artifacts := h.artifacts
  reports := h.reports

/-- Every answer in a log was given from the records that the log before it leads to. -/
inductive Truthful : List StoreEvent → Prop
  | nil : Truthful []
  | failed {log : List StoreEvent} {α : Type} (op : StoreOp α) (now : Timestamp) (e : StoreError) :
      Truthful log → Truthful (log ++ [⟨op, now, .error e⟩])
  | done {log : List StoreEvent} {α : Type} {op : StoreOp α} {now : Timestamp} {a : α}
      {d d' : StoreDocument} : Truthful log → d.Reflects log → op.apply now d = .ok (a, d') →
      Truthful (log ++ [⟨op, now, .ok a⟩])

/-- What a log gave for an answer, the records before it give. -/
theorem Truthful.answered {log : List StoreEvent} (h : Truthful log)
    {before after : List StoreEvent} {α : Type} {op : StoreOp α} {now : Timestamp} {a : α}
    (split : log = before ++ ⟨op, now, .ok a⟩ :: after) :
    ∃ d d', d.Reflects before ∧ op.apply now d = .ok (a, d') := by
  induction h generalizing after with
  | nil => exact absurd split (by simp)
  | failed op' now' e _ ih =>
    rcases List.eq_nil_or_concat after with rfl | ⟨after, last, rfl⟩
    · obtain ⟨-, same⟩ := List.append_inj' split rfl
      cases same
    · rw [List.concat_eq_append, ← List.cons_append, ← List.append_assoc] at split
      exact ih (List.append_inj' split rfl).1
  | done _ reflects applied ih =>
    rcases List.eq_nil_or_concat after with rfl | ⟨after, last, rfl⟩
    · obtain ⟨rfl, same⟩ := List.append_inj' split rfl
      cases same
      exact ⟨_, _, reflects, applied⟩
    · rw [List.concat_eq_append, ← List.cons_append, ← List.append_assoc] at split
      exact ih (List.append_inj' split rfl).1

/-- What is promised of the answers in a log: each of them was given from the records that the log
before it leads to, and artifacts that were listed once are listed in front for ever. -/
structure Consistent (log : List StoreEvent) : Prop where
  answered : ∀ {before after : List StoreEvent} {α : Type} {op : StoreOp α} {now : Timestamp}
    {a : α}, log = before ++ ⟨op, now, .ok a⟩ :: after →
      ∃ d d', StoreDocument.Guaranteed d before ∧ op.apply now d = .ok (a, d')
  listings : ∀ {before between after : List StoreEvent} {t t' : Timestamp}
    {as as' : List Artifact}, log = before ++ ⟨.artifacts, t, .ok as⟩ ::
      (between ++ ⟨.artifacts, t', .ok as'⟩ :: after) → as <+: as'

theorem Truthful.consistent {log : List StoreEvent} (h : Truthful log) : Consistent log where
  answered split := by
    obtain ⟨d, d', reflects, applied⟩ := h.answered split
    exact ⟨d, d', reflects.guaranteed, applied⟩
  listings := by
    intro before between after t t' as as' split
    obtain ⟨d, d₁, first, given⟩ := h.answered split
    have later : log = (before ++ ⟨.artifacts, t, .ok as⟩ :: between) ++
        ⟨.artifacts, t', .ok as'⟩ :: after := by
      rw [split, List.append_assoc]
      rfl
    obtain ⟨d', d₁', second, given'⟩ := h.answered later
    cases given
    cases given'
    rw [first.artifacts, second.artifacts, batches_append]
    exact List.prefix_append _ _

end Orchestration
