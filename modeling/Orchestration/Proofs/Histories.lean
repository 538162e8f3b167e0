import Mathlib.Data.List.Induction
import Orchestration.Store.Operation

/-!
# Histories of environments

What becomes of environments is a list of changes.  Whoever keeps records lets a change happen or
refuses it; only the changes that happened are in the history:

* `EnvChange` — an environment is recorded, gets its outcome or is removed;
* `EnvChange.step?`, `EnvChange.replay` — the records after a change, and after a history;
* `find?_of_step?` — a change concerns one identifier;
* `replay_filed` — records stay under their own identifiers;
* `Survives`, `replay_survives` — a record that is not removed keeps what it was made with, and
  gets one outcome at most;
* `holds_of_replay` — what all that is inserted has, and outcomes keep, all that is recorded has;
* `recorded_iff` — what is recorded was inserted and not removed since.
-/

namespace Orchestration

/-- Something that happens to the recorded environments. -/
inductive EnvChange where
  | insert (e : TestEnvironment)
  /-- An environment gets its outcome at a time. -/
  | conclude (id : String) (next : TestStatus) (time : Timestamp)
  | remove (id : String)
  deriving DecidableEq

/-- The environment with its outcome. -/
def TestEnvironment.concluded (e : TestEnvironment) (next : TestStatus) (time : Timestamp) :
    TestEnvironment := { e with status := next, updatedAt := time }

/-- What may follow a status is an outcome, and nothing follows that. -/
theorem TestStatus.canBecome_iff {s next : TestStatus} :
    s.canBecome next = true ↔ s = .created ∧ (next = .passed ∨ next = .failed) := by
  cases s <;> cases next <;> decide

namespace EnvChange

/-- The environments after a change, if it can happen. -/
def step? (m : KeyMap TestEnvironment) : EnvChange → Option (KeyMap TestEnvironment)
  | .insert e => if m.contains e.id then none else some (m.insert e.id e)
  | .conclude id next time =>
    match m.find? id with
    | some e => if e.status.canBecome next then some (m.insert id (e.concluded next time)) else none
    | none => none
  | .remove id => if m.contains id then some (m.erase id) else none

/-- The environments after a history, if all of it can happen. -/
def replay (m : KeyMap TestEnvironment) (cs : List EnvChange) : Option (KeyMap TestEnvironment) :=
  cs.foldlM step? m

theorem replay_append (m : KeyMap TestEnvironment) (before after : List EnvChange) :
    replay m (before ++ after) = (replay m before).bind (replay · after) :=
  List.foldlM_append

theorem replay_singleton (m : KeyMap TestEnvironment) (c : EnvChange) :
    replay m [c] = step? m c := by
  show (step? m c).bind some = step? m c
  cases step? m c <;> rfl

/-! ### One change -/

section
variable {m m' : KeyMap TestEnvironment}

theorem step?_insert {e : TestEnvironment} :
    step? m (.insert e) = some m' ↔ m.find? e.id = none ∧ m.insert e.id e = m' := by
  rcases Option.eq_none_or_eq_some (m.find? e.id) with found | ⟨x, found⟩ <;>
    simp [step?, KeyMap.contains, found]

theorem step?_conclude {id : String} {next : TestStatus} {time : Timestamp} :
    step? m (.conclude id next time) = some m' ↔ ∃ e, m.find? id = some e ∧
      e.status.canBecome next = true ∧ m.insert id (e.concluded next time) = m' := by
  simp only [step?]
  cases found : m.find? id with
  | none => simp
  | some e => cases may : e.status.canBecome next <;> simp [may]

theorem step?_remove {id : String} :
    step? m (.remove id) = some m' ↔ (∃ e, m.find? id = some e) ∧ m.erase id = m' := by
  rcases Option.eq_none_or_eq_some (m.find? id) with found | ⟨x, found⟩ <;>
    simp [step?, KeyMap.contains, found]

/-- The identifier that a change concerns. -/
def subject : EnvChange → String
  | .insert e => e.id
  | .conclude id .. | .remove id => id

/-- A change concerns no other identifier. -/
theorem find?_of_step? {c : EnvChange} (h : step? m c = some m') {id : String}
    (other : c.subject ≠ id) : m'.find? id = m.find? id := by
  cases c with
  | insert e =>
    obtain ⟨-, rfl⟩ := step?_insert.1 h
    exact m.find?_insert_of_ne other e
  | conclude id' next time =>
    obtain ⟨e, -, -, rfl⟩ := step?_conclude.1 h
    exact m.find?_insert_of_ne other _
  | remove id' =>
    obtain ⟨-, rfl⟩ := step?_remove.1 h
    exact m.find?_erase_of_ne other

end

/-! ### Records under their identifiers -/

/-- Environments are recorded under their own identifiers. -/
def Filed (m : KeyMap TestEnvironment) : Prop := ∀ id e, m.find? id = some e → e.id = id

theorem Filed.step? {m m' : KeyMap TestEnvironment} (hm : Filed m) {c : EnvChange}
    (h : step? m c = some m') : Filed m' := by
  intro id x hx
  by_cases here : c.subject = id
  · subst here
    cases c with
    | insert e =>
      obtain ⟨-, rfl⟩ := step?_insert.1 h
      rw [subject, KeyMap.find?_insert_self] at hx
      exact congrArg TestEnvironment.id (Option.some.inj hx).symm
    | conclude id next time =>
      obtain ⟨e, found, -, rfl⟩ := step?_conclude.1 h
      rw [subject, KeyMap.find?_insert_self] at hx
      rw [← Option.some.inj hx]
      exact hm id e found
    | remove id =>
      obtain ⟨-, rfl⟩ := step?_remove.1 h
      rw [subject, KeyMap.find?_erase_self] at hx
      cases hx
  · rw [find?_of_step? h here] at hx
    exact hm id x hx

theorem replay_filed {cs : List EnvChange} {m m' : KeyMap TestEnvironment} (hm : Filed m)
    (h : replay m cs = some m') : Filed m' := by
  induction cs generalizing m with
  | nil => exact Option.some.inj h ▸ hm
  | cons c cs ih =>
    obtain ⟨m₁, first, rest⟩ := Option.bind_eq_some_iff.1 h
    exact ih (hm.step? first) rest

/-! ### The life of a record -/

/-- The outcomes of an identifier in a history, each with its time. -/
def outcomes (id : String) (cs : List EnvChange) : List (TestStatus × Timestamp) :=
  cs.filterMap fun
    | .conclude id' next time => if id' = id then some (next, time) else none
    | _ => none

/-- What a history leaves of a record that it does not remove: nothing is recorded over it, and
either it is as it was made, or it got its only outcome. -/
def Survives (e : TestEnvironment) (cs : List EnvChange) (m : KeyMap TestEnvironment) : Prop :=
  (∀ e', .insert e' ∈ cs → e'.id ≠ e.id) ∧
    ((outcomes e.id cs = [] ∧ m.find? e.id = some e) ∨
      ∃ next time, outcomes e.id cs = [(next, time)] ∧ e.status = .created ∧
        (next = .passed ∨ next = .failed) ∧ m.find? e.id = some (e.concluded next time))

theorem outcomes_cons_of_ne {id : String} {c : EnvChange} (other : c.subject ≠ id)
    (cs : List EnvChange) : outcomes id (c :: cs) = outcomes id cs := by
  cases c with
  | insert e => rfl
  | remove id' => rfl
  | conclude id' next time =>
    have other : id' ≠ id := other
    simp only [outcomes, List.filterMap_cons, if_neg other]

theorem outcomes_conclude (id : String) (next : TestStatus) (time : Timestamp)
    (cs : List EnvChange) :
    outcomes id (.conclude id next time :: cs) = (next, time) :: outcomes id cs := by
  simp only [outcomes, List.filterMap_cons, if_pos]

/-- A change that does not concern a record may come before. -/
theorem Survives.cons_of_ne {e : TestEnvironment} {c : EnvChange} {cs : List EnvChange}
    {m : KeyMap TestEnvironment} (other : c.subject ≠ e.id) (h : Survives e cs m) :
    Survives e (c :: cs) m := by
  unfold Survives
  rw [outcomes_cons_of_ne other]
  refine ⟨fun e' he' => ?_, h.2⟩
  rcases List.mem_cons.1 he' with rfl | he'
  · exact other
  · exact h.1 e' he'

/-- A record that got its outcome gets no other. -/
theorem Survives.cons_conclude {e : TestEnvironment} {next : TestStatus} {time : Timestamp}
    {cs : List EnvChange} {m : KeyMap TestEnvironment} (may : e.status.canBecome next = true)
    (h : Survives (e.concluded next time) cs m) :
    Survives e (.conclude e.id next time :: cs) m := by
  obtain ⟨was, outcome⟩ := TestStatus.canBecome_iff.1 may
  obtain ⟨others, ⟨none, found⟩ | ⟨again, _, _, created, _⟩⟩ := h
  · refine ⟨fun e' he' => ?_, .inr ⟨next, time, ?_, was, outcome, found⟩⟩
    · exact others e' ((List.mem_cons.1 he').resolve_left nofun)
    · have none : outcomes e.id cs = [] := none
      rw [outcomes_conclude, none]
  · have created : next = .created := created
    rcases outcome with rfl | rfl <;> cases created

/-- Whatever happens to the records, one that is not removed keeps what it was made with. -/
theorem replay_survives {cs : List EnvChange} {m m' : KeyMap TestEnvironment}
    {e : TestEnvironment} (here : m.find? e.id = some e) (h : replay m cs = some m')
    (stays : .remove e.id ∉ cs) : Survives e cs m' := by
  induction cs generalizing m e with
  | nil =>
    cases h
    exact ⟨fun e' he' => absurd he' List.not_mem_nil, .inl ⟨rfl, here⟩⟩
  | cons c cs ih =>
    obtain ⟨m₁, first, rest⟩ := Option.bind_eq_some_iff.1 h
    have not : c ≠ .remove e.id := fun same => stays (same ▸ List.mem_cons_self)
    have later : .remove e.id ∉ cs := fun mem => stays (List.mem_cons_of_mem _ mem)
    by_cases about : c.subject = e.id
    · cases c with
      | insert e' =>
        -- the identifier is taken
        obtain ⟨free, -⟩ := step?_insert.1 first
        have about : e'.id = e.id := about
        rw [about, here] at free
        cases free
      | remove id => exact absurd (congrArg EnvChange.remove about) not
      | conclude id next time =>
        have about : id = e.id := about
        subst about
        obtain ⟨old, found, may, rfl⟩ := step?_conclude.1 first
        rw [here] at found
        obtain rfl := Option.some.inj found
        have here' : (m.insert e.id (e.concluded next time)).find? (e.concluded next time).id =
            some (e.concluded next time) := m.find?_insert_self e.id _
        exact (ih here' rest later).cons_conclude may
    · refine (ih ?_ rest later).cons_of_ne about
      rw [find?_of_step? first about, here]

/-- What is recorded was inserted, and not removed since. -/
theorem recorded_of_replay {cs : List EnvChange} {m : KeyMap TestEnvironment}
    (h : replay .empty cs = some m) {id : String} {x : TestEnvironment}
    (here : m.find? id = some x) :
    ∃ before e after, cs = before ++ .insert e :: after ∧ e.id = id ∧ .remove id ∉ after := by
  induction cs using List.reverseRecOn generalizing m x with
  | nil =>
    cases h
    cases here
  | append_singleton cs c ih =>
    rw [replay_append] at h
    obtain ⟨m₁, past, last⟩ := Option.bind_eq_some_iff.1 h
    rw [replay_singleton] at last
    have earlier : ∀ {y}, m₁.find? id = some y → .remove id ≠ c →
        ∃ before e after, cs ++ [c] = before ++ .insert e :: after ∧ e.id = id ∧
          .remove id ∉ after := by
      intro y there not
      obtain ⟨before, e, after, rfl, named, stays⟩ := ih past there
      refine ⟨before, e, after ++ [c], by simp, named, ?_⟩
      simpa using ⟨stays, not⟩
    by_cases about : c.subject = id
    · subst about
      cases c with
      | insert e => exact ⟨cs, e, [], rfl, rfl, List.not_mem_nil⟩
      | conclude id next time =>
        obtain ⟨e, found, -, -⟩ := step?_conclude.1 last
        exact earlier found nofun
      | remove id =>
        obtain ⟨-, rfl⟩ := step?_remove.1 last
        rw [subject, KeyMap.find?_erase_self] at here
        cases here
    · rw [find?_of_step? last about] at here
      refine earlier here ?_
      rintro rfl
      exact about rfl

/-- What a history inserted last, and did not remove since, survives what came after. -/
theorem survives_of_replay {before after : List EnvChange} {e : TestEnvironment}
    {m : KeyMap TestEnvironment} (h : replay .empty (before ++ .insert e :: after) = some m)
    (stays : .remove e.id ∉ after) : Survives e after m := by
  rw [replay_append] at h
  obtain ⟨m₁, -, h⟩ := Option.bind_eq_some_iff.1 h
  obtain ⟨m₂, inserted, h⟩ := Option.bind_eq_some_iff.1 h
  obtain ⟨-, rfl⟩ := step?_insert.1 inserted
  exact replay_survives (m₁.find?_insert_self e.id e) h stays

/-- What environments have when they are inserted, and keep with their outcome, they have for as
long as they are recorded. -/
theorem holds_of_replay {P : TestEnvironment → Prop}
    (kept : ∀ {e : TestEnvironment} (next : TestStatus) (time : Timestamp), P e →
      P (e.concluded next time)) {cs : List EnvChange} {m : KeyMap TestEnvironment}
    (made : ∀ e, .insert e ∈ cs → P e) (h : replay .empty cs = some m) :
    ∀ id e, m.find? id = some e → P e := by
  intro id x found
  obtain ⟨before, e, after, rfl, rfl, stays⟩ := recorded_of_replay h found
  have whole : P e := made e (List.mem_append_right before List.mem_cons_self)
  rcases (survives_of_replay h stays).2 with ⟨-, here⟩ | ⟨next, time, -, -, -, here⟩
  · rw [found] at here
    exact Option.some.inj here ▸ whole
  · rw [found] at here
    exact Option.some.inj here ▸ kept next time whole

/-- While a record is there it gets one outcome at most, whatever comes after. -/
theorem outcomes_of_replay {before life after : List EnvChange} {e : TestEnvironment}
    {m : KeyMap TestEnvironment}
    (h : replay .empty (before ++ .insert e :: (life ++ after)) = some m)
    (stays : .remove e.id ∉ life) : (outcomes e.id life).length ≤ 1 := by
  have split : before ++ .insert e :: (life ++ after) = (before ++ .insert e :: life) ++ after := by
    rw [List.append_assoc, List.cons_append]
  rw [split, replay_append] at h
  obtain ⟨m₁, past, -⟩ := Option.bind_eq_some_iff.1 h
  rcases (survives_of_replay past stays).2 with ⟨none, -⟩ | ⟨next, time, one, -⟩
  · rw [none]
    exact Nat.zero_le 1
  · rw [one]
    exact Nat.le_refl 1

/-- The recorded identifiers are those that were inserted and not removed since. -/
theorem recorded_iff {cs : List EnvChange} {m : KeyMap TestEnvironment}
    (h : replay .empty cs = some m) (id : String) :
    m.contains id = true ↔
      ∃ before e after, cs = before ++ .insert e :: after ∧ e.id = id ∧ .remove id ∉ after := by
  constructor
  · intro here
    obtain ⟨x, found⟩ := Option.isSome_iff_exists.1 here
    exact recorded_of_replay h found
  · rintro ⟨before, e, after, rfl, rfl, stays⟩
    unfold KeyMap.contains
    rcases (survives_of_replay h stays).2 with ⟨-, found⟩ | ⟨next, time, -, -, -, found⟩
    · rw [found]
      rfl
    · rw [found]
      rfl

end EnvChange

end Orchestration
