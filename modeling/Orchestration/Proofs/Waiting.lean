import Orchestration.Proofs.Lines

/-!
# Waiting for a response

What waiting comes to is told by the lines of an engine alone:

* `PassedOver`, `Answers` — the lines that say nothing to a client that waits, and the one that it
  waits for;
* `EngineOutput.FirstResponse` — a response before which every line is passed over;
* `EngineOutput.Silent` — an output without a response, in which waiting runs into the time limit;
* `awaitResponse_eq_response_iff`, `awaitResponse_eq_late_iff` — waiting ends with a response or
  with the time limit exactly then;
* `awaitIn_closed` — where the time limit does not strike, it has no part in what waiting comes to.
-/

namespace Orchestration

/-! ### What a line means -/

/-- A line that a client passes over while it waits: a blank line, or a message that is not the
response it waits for. -/
def PassedOver (id : Nat) (line : RawText) : Prop :=
  ∃ text, line.strict? = .ok text ∧
    (blankText text = true ∨ ∃ m, Message.ofLine (trim text) = .ok m ∧ m.isResponseTo id = false)

/-- A line that holds the response to a request. -/
def Answers (id : Nat) (line : RawText) (m : Message) : Prop :=
  ∃ text, line.strict? = .ok text ∧ blankText text = false ∧
    Message.ofLine (trim text) = .ok m ∧ m.isResponseTo id = true

section
variable {id : Nat} {line : RawText}

theorem readFrame_eq_none_iff : readFrame id line = .ok none ↔ PassedOver id line := by
  unfold readFrame PassedOver
  cases line.strict? with
  | error fault => simp
  | ok text =>
    cases hblank : blankText text with
    | true => simp [hblank]
    | false => cases hread : Message.ofLine (trim text) <;> simp [hblank, hread]

theorem readFrame_eq_some_iff {m : Message} :
    readFrame id line = .ok (some m) ↔ Answers id line m := by
  unfold readFrame Answers
  cases line.strict? with
  | error fault => simp
  | ok text =>
    cases hblank : blankText text with
    | true => simp [hblank]
    | false =>
      cases hread : Message.ofLine (trim text) with
      | error e => simp [hblank, hread]
      | ok m' =>
        simp only [Except.ok.injEq, hblank, hread, Bool.false_eq_true, if_false, ite_eq_iff]
        constructor
        · rintro (⟨hresponse, ⟨⟩⟩ | ⟨-, ⟨⟩⟩)
          exact ⟨text, rfl, hblank, hread, hresponse⟩
        · rintro ⟨_, rfl, -, heq, hresponse⟩
          cases hread.symm.trans heq
          exact .inl ⟨hresponse, rfl⟩

/-- A line is refused because it is no text or no message. -/
theorem readFrame_error {e : RpcError} (h : readFrame id line = .error e) :
    (∃ reason, e = .protocol reason) ∨ ∃ fault, e = .io fault := by
  unfold readFrame at h
  split at h
  · cases h
    exact .inr ⟨_, rfl⟩
  · split at h
    · cases h
    · split at h
      · cases h
        exact .inl ⟨_, rfl⟩
      · cases h

end

/-! ### What an output means -/

namespace EngineOutput

/-- Whether a line is complete: it has its line feed, or nothing more can come. -/
def Complete (o : EngineOutput) (line : RawText) : Prop := endsLine line = true ∨ o.closed = true

/-- The first response to a request, with what was said after it: every line before it is passed
over. -/
def FirstResponse (o : EngineOutput) (id : Nat) (m : Message) (left : List RawText) : Prop :=
  ∃ before line, o.text.linesKeepingEnds = before ++ line :: left ∧
    (∀ l ∈ before, PassedOver id l) ∧ Answers id line m ∧ o.Complete line

/-- An output in which waiting runs into the time limit: more could come, and every line that is
complete is passed over. -/
def Silent (o : EngineOutput) (id : Nat) : Prop :=
  o.closed = false ∧
    ∀ line ∈ o.text.linesKeepingEnds, endsLine line = true → PassedOver id line

end EngineOutput

section
variable {id : Nat} {closed : Bool} {line : RawText} {rest : List RawText}

/-- A complete line is read. -/
theorem awaitIn_cons (h : endsLine line = true ∨ closed = true) :
    awaitIn id closed (line :: rest) =
      match readFrame id line with
      | .error e => .failed e
      | .ok (some m) => .response m rest
      | .ok none => awaitIn id closed rest :=
  if_pos (by simpa using h)

theorem awaitIn_passed (hpassed : PassedOver id line)
    (h : endsLine line = true ∨ closed = true) :
    awaitIn id closed (line :: rest) = awaitIn id closed rest := by
  rw [awaitIn_cons h, readFrame_eq_none_iff.2 hpassed]

theorem awaitIn_answers {m : Message} (hanswers : Answers id line m)
    (h : endsLine line = true ∨ closed = true) :
    awaitIn id closed (line :: rest) = .response m rest := by
  rw [awaitIn_cons h, readFrame_eq_some_iff.2 hanswers]

theorem awaitIn_all_passed {before : List RawText} (hpassed : ∀ l ∈ before, PassedOver id l)
    (h : ∀ l ∈ before, endsLine l = true ∨ closed = true) :
    awaitIn id closed (before ++ rest) = awaitIn id closed rest := by
  induction before with
  | nil => rfl
  | cons l before ih =>
    obtain ⟨hl, hbefore⟩ := List.forall_mem_cons.1 hpassed
    obtain ⟨hcomplete, h⟩ := List.forall_mem_cons.1 h
    rw [List.cons_append, awaitIn_passed hl hcomplete, ih hbefore h]

end

/-- A response comes out of lines that are passed over and the line that holds it. -/
theorem awaitIn_response {id : Nat} {closed : Bool} {m : Message} {left : List RawText} :
    ∀ {lines : List RawText}, awaitIn id closed lines = .response m left →
      ∃ before line, lines = before ++ line :: left ∧ (∀ l ∈ before, PassedOver id l) ∧
        Answers id line m ∧ (endsLine line = true ∨ closed = true)
  | [], h => by
    rw [awaitIn] at h
    split at h <;> cases h
  | line :: rest, h => by
    by_cases hcomplete : endsLine line = true ∨ closed = true
    · rw [awaitIn_cons hcomplete] at h
      split at h
      · cases h
      · next hread =>
        cases h
        exact ⟨[], line, rfl, List.forall_mem_nil _, readFrame_eq_some_iff.1 hread, hcomplete⟩
      · next hread =>
        obtain ⟨before, answer, rfl, hbefore, hanswer⟩ := awaitIn_response h
        exact ⟨line :: before, answer, rfl,
          List.forall_mem_cons.2 ⟨readFrame_eq_none_iff.1 hread, hbefore⟩, hanswer⟩
    · rw [awaitIn, if_neg (by simpa using hcomplete)] at h
      cases h

/-- Waiting ends with a response exactly where it is the first one. -/
theorem awaitResponse_eq_response_iff {o : EngineOutput} {id : Nat} {m : Message}
    {left : List RawText} : awaitResponse id o = .response m left ↔ o.FirstResponse id m left := by
  constructor
  · exact awaitIn_response
  · rintro ⟨before, line, hlines, hbefore, hanswers, hcomplete⟩
    -- only the last line may lack its line feed, so that all lines before the response have it
    have hends : ∀ l ∈ before, endsLine l = true := fun l hl =>
      ((RawText.isLine_of_linesKeepingEnds _ hlines).1 l hl).endsLine
    rw [awaitResponse, hlines, awaitIn_all_passed hbefore fun l hl => .inl (hends l hl),
      awaitIn_answers hanswers hcomplete]

/-- There is one first response at most. -/
theorem EngineOutput.FirstResponse.unique {o : EngineOutput} {id : Nat} {m m' : Message}
    {left left' : List RawText} (h : o.FirstResponse id m left) (h' : o.FirstResponse id m' left') :
    m = m' ∧ left = left' := by
  have heq := (awaitResponse_eq_response_iff.2 h).symm.trans (awaitResponse_eq_response_iff.2 h')
  cases heq
  exact ⟨rfl, rfl⟩

/-- Waiting runs into the time limit exactly in a silent output. -/
theorem awaitIn_eq_late_iff {id : Nat} {closed : Bool} (t : RawText) :
    awaitIn id closed t.linesKeepingEnds = .late ↔ EngineOutput.Silent ⟨t, closed⟩ id := by
  unfold EngineOutput.Silent
  induction t using RawText.byLines with
  | last t ht =>
    cases t with
    | nil => cases closed <;> simp [RawText.linesKeepingEnds, awaitIn]
    | cons g t =>
      have hopen : endsLine (g :: t) = false := by
        refine Bool.eq_false_iff.2 fun hends => ht (List.mem_of_getLast? ?_)
        simpa [endsLine] using hends
      rw [RawText.linesKeepingEnds_last (by simp) ht]
      cases closed with
      | false => simp [awaitIn, hopen]
      | true =>
        rw [awaitIn_cons (.inr rfl)]
        cases readFrame id (g :: t) with
        | error e => simp
        | ok found => cases found <;> simp [awaitIn]
  | line line rest hline ih =>
    rw [RawText.linesKeepingEnds_cons hline, awaitIn_cons (.inl hline.endsLine),
      List.forall_mem_cons, ← readFrame_eq_none_iff]
    cases hread : readFrame id line with
    | error e => simp [hline.endsLine]
    | ok found =>
      cases found with
      | some m => simp [hline.endsLine]
      | none => simp only [ih, implies_true, true_and]

theorem awaitResponse_eq_late_iff {o : EngineOutput} {id : Nat} :
    awaitResponse id o = .late ↔ o.Silent id :=
  awaitIn_eq_late_iff o.text

/-- Where waiting does not run into the time limit, it is as if nothing more could come. -/
theorem awaitIn_closed {id : Nat} {closed : Bool} {lines : List RawText}
    (h : awaitIn id closed lines ≠ .late) : awaitIn id true lines = awaitIn id closed lines := by
  induction lines with
  | nil =>
    cases closed with
    | true => rfl
    | false => exact absurd rfl h
  | cons line rest ih =>
    by_cases hcomplete : endsLine line = true ∨ closed = true
    · rw [awaitIn_cons hcomplete] at h ⊢
      rw [awaitIn_cons (.inr rfl)]
      split at h
      · rfl
      · rfl
      · exact ih h
    · rw [awaitIn, if_neg (by simpa using hcomplete)] at h
      exact absurd rfl h

/-- Waiting fails by the rules of the protocol or by the pipe. -/
theorem awaitIn_failed {id : Nat} {closed : Bool} {e : RpcError} :
    ∀ {lines : List RawText}, awaitIn id closed lines = .failed e →
      (∃ reason, e = .protocol reason) ∨ ∃ fault, e = .io fault
  | [], h => by
    rw [awaitIn] at h
    split at h <;> cases h
    exact .inl ⟨_, rfl⟩
  | line :: rest, h => by
    by_cases hcomplete : endsLine line = true ∨ closed = true
    · rw [awaitIn_cons hcomplete] at h
      split at h
      · next hread =>
        cases h
        exact readFrame_error hread
      · cases h
      · exact awaitIn_failed h
    · rw [awaitIn, if_neg (by simpa using hcomplete)] at h
      cases h

end Orchestration
