import Orchestration.Proofs.Sessions

/-!
# Lines that do not concern a session

An engine may say more than it is asked for.  A blank line, and a message that is not the response
the client waits for, change nothing, wherever they stand:

* `Padded` — lines with others inserted that are passed over where they stand, and with anything
  behind the line that answers the call;
* `ClientConfig.InTime` — a session in which no time limit strikes;
* `ClientConfig.reading` — such a session as a function of the lines of the engine;
* `ClientConfig.session_reads` — that is what the session is;
* `ClientConfig.session_unmoved` — so inserted lines leave it as it is.
-/

namespace Orchestration

/-! ### Inserted lines -/

/-- Lines that a client reads in the same way: they differ at most by the white space around them,
as the last line does when it gets its line feed. -/
def SameLine (l l' : RawText) : Prop :=
  l = l' ∨ ∃ text text', l.strict? = .ok text ∧ l'.strict? = .ok text' ∧ trim text = trim text'

theorem SameLine.readFrame_eq {l l' : RawText} (h : SameLine l l') (id : Nat) :
    readFrame id l = readFrame id l' := by
  rcases h with rfl | ⟨text, text', hl, hl', htrim⟩
  · rfl
  · simp only [readFrame, hl, hl', blankText_congr htrim, htrim]

/-- Lines with others inserted.  At every point a number tells which request the client waits for:
a line may be inserted if it is passed over then.  Behind the line that answers the call there may
be anything. -/
inductive Padded : Nat → List RawText → List RawText → Prop
  | nil {id : Nat} : Padded id [] []
  | inserted {id : Nat} {l : RawText} {lines lines' : List RawText} (passed : PassedOver id l)
      (rest : Padded id lines lines') : Padded id lines (l :: lines')
  | kept {id : Nat} {l l' : RawText} {lines lines' : List RawText} (same : SameLine l l')
      (other : ∀ m, ¬ Answers id l m) (rest : Padded id lines lines') :
      Padded id (l :: lines) (l' :: lines')
  | greeted {m : Message} {l l' : RawText} {lines lines' : List RawText} (same : SameLine l l')
      (answers : Answers initializeId l m) (rest : Padded callId lines lines') :
      Padded initializeId (l :: lines) (l' :: lines')
  | answered {m : Message} {l l' : RawText} {lines lines' : List RawText} (same : SameLine l l')
      (answers : Answers callId l m) : Padded callId (l :: lines) (l' :: lines')

/-- Two waits for the same request that come to the same; after the greeting the lines that are
left differ by what is inserted. -/
inductive Together (id : Nat) : Awaited → Awaited → Prop
  | late : Together id .late .late
  | failed (e : RpcError) : Together id (.failed e) (.failed e)
  | response (m : Message) {left left' : List RawText}
      (rest : id = initializeId → Padded callId left left') :
      Together id (.response m left) (.response m left')

/-- Inserted lines leave a wait as it is. -/
theorem Padded.together {id : Nat} {lines lines' : List RawText} (h : Padded id lines lines') :
    Together id (awaitIn id true lines) (awaitIn id true lines') := by
  induction h with
  | nil => exact .failed _
  | inserted passed rest ih =>
    rw [awaitIn_passed passed (.inr rfl)]
    exact ih
  | @kept id l l' lines lines' same other rest ih =>
    rw [awaitIn_cons (.inr rfl), awaitIn_cons (.inr rfl), ← same.readFrame_eq id]
    cases hread : readFrame id l with
    | error e => exact .failed e
    | ok found =>
      cases found with
      | none => exact ih
      | some m => exact absurd (readFrame_eq_some_iff.1 hread) (other m)
  | @greeted m l l' lines lines' same answers rest =>
    have hread := readFrame_eq_some_iff.2 answers
    rw [awaitIn_answers answers (.inr rfl), awaitIn_cons (.inr rfl), ← same.readFrame_eq, hread]
    exact .response m fun _ => rest
  | @answered m l l' lines lines' same answers =>
    have hread := readFrame_eq_some_iff.2 answers
    rw [awaitIn_answers answers (.inr rfl), awaitIn_cons (.inr rfl), ← same.readFrame_eq, hread]
    exact .response m nofun

namespace ClientConfig
variable {ε : Type} (c : ClientConfig) (peer : Peer ε) (tool : String) (arguments : Document)
  (s : ε)

/-! ### Sessions without time limits -/

/-- All that an engine says in a session. -/
def heard : RawText :=
  match c.greeted (awaitResponse initializeId (c.helloOutput peer s)) with
  | .error _ => (c.helloOutput peer s).text
  | .ok _ => (c.helloOutput peer s).text ++ (c.laterSaid peer tool arguments s).1

/-- A session in which no time limit strikes, with an engine whose output ends only once. -/
structure InTime : Prop where
  greeting : ¬ (c.helloOutput peer s).Silent initializeId
  result : ∀ left, (c.helloOutput peer s).Greets left →
    ¬ (c.callOutput peer tool arguments s left).Silent callId
  ended : (c.helloOutput peer s).closed = true → (c.laterSaid peer tool arguments s).1 = []

/-- What is sent, and what comes of it, when an engine says certain lines in time. -/
def reading (lines : List RawText) : List Message × Except RpcError ToolResult :=
  match c.greeted (awaitIn initializeId true lines) with
  | .error e => ([initializeRequest c.name], .error e)
  | .ok left => (c.frames tool arguments, c.called tool (awaitIn callId true left))

variable {c peer tool arguments s}

/-- Whatever follows in time, the greeting stays as it is and leaves what follows it. -/
theorem InTime.greeting_then (h : c.InTime peer tool arguments s) {m : Message}
    {left : List RawText} (hfirst : (c.helloOutput peer s).FirstResponse initializeId m left) :
    awaitIn initializeId true
        ((c.helloOutput peer s).text ++ (c.laterSaid peer tool arguments s).1).linesKeepingEnds =
      .response m (c.callOutput peer tool arguments s left).text.linesKeepingEnds := by
  obtain ⟨before, line, hlines, hbefore, hanswers, hcomplete⟩ := hfirst
  by_cases hends : endsLine line = true
  · have hline := (RawText.isLine_of_linesKeepingEnds _ hlines).2 (.inl hends)
    rw [RawText.linesKeepingEnds_append hlines hline,
      awaitIn_all_passed hbefore fun _ _ => .inr rfl, awaitIn_answers hanswers (.inr rfl)]
    rfl
  · -- the greeting is the end of all output, and nothing can follow it
    have hlater := h.ended (hcomplete.resolve_left hends)
    have hleft : left = [] := by
      by_contra hmore
      exact hends ((RawText.isLine_of_linesKeepingEnds _ hlines).2 (.inr hmore)).endsLine
    subst hleft
    rw [hlater, List.append_nil, hlines, awaitIn_all_passed hbefore fun _ _ => .inr rfl,
      awaitIn_answers hanswers (.inr rfl), callOutput, hlater]
    rfl

/-- A session in time is what its client makes of the lines of the engine. -/
theorem session_reads (h : c.InTime peer tool arguments s) :
    ((c.session peer tool arguments s).sent, (c.session peer tool arguments s).outcome) =
      c.reading tool arguments (c.heard peer tool arguments s).linesKeepingEnds := by
  cases hgreeted : c.greeted (awaitResponse initializeId (c.helloOutput peer s)) with
  | ok left =>
    have hgreets := greets_iff.2 hgreeted
    have ⟨m, hfirst, herror⟩ := hgreets
    have hcalled :
        awaitIn callId true (c.callOutput peer tool arguments s left).text.linesKeepingEnds =
          awaitResponse callId (c.callOutput peer tool arguments s left) :=
      awaitIn_closed fun hlate => h.result left hgreets (awaitResponse_eq_late_iff.1 hlate)
    have haccepted := h.greeting_then hfirst
    have haccepts := greeted_eq_ok_iff (c := c).2 ⟨m, haccepted, herror⟩
    simp only [session_of_greeted hgreets, heard, hgreeted, reading, haccepts, hcalled]
  | error e =>
    have hrefused : awaitIn initializeId true (c.helloOutput peer s).text.linesKeepingEnds =
        awaitResponse initializeId (c.helloOutput peer s) :=
      awaitIn_closed fun hlate => h.greeting (awaitResponse_eq_late_iff.1 hlate)
    simp only [session_of_refused tool arguments hgreeted, heard, hgreeted, reading, hrefused]

theorem called_eq_of_together {id : Nat} {a a' : Awaited} (h : Together id a a') :
    c.called tool a = c.called tool a' := by
  cases h <;> rfl

/-- Lines that differ by what is inserted are read in the same way. -/
theorem reading_eq {lines lines' : List RawText} (h : Padded initializeId lines lines') :
    c.reading tool arguments lines = c.reading tool arguments lines' := by
  have htogether := h.together
  unfold reading
  generalize awaitIn initializeId true lines = a at *
  generalize awaitIn initializeId true lines' = a' at *
  cases htogether with
  | late => rfl
  | failed e => rfl
  | response m rest =>
    cases herror : m.error with
    | some e => simp only [greeted, herror]
    | none => simp only [greeted, herror, called_eq_of_together (rest rfl).together]

/-- An engine that says everything at once and then ends is in time. -/
theorem inTime_ofOutput {o : EngineOutput} (h : o.closed = true) :
    c.InTime (.ofOutput o) tool arguments o.text where
  greeting hsilent := Bool.false_ne_true (hsilent.1.symm.trans h)
  result _ _ hsilent := Bool.false_ne_true (hsilent.1.symm.trans h)
  ended _ := rfl

theorem heard_ofOutput (o : EngineOutput) :
    c.heard (.ofOutput o) tool arguments o.text = o.text := by
  unfold heard
  split
  · rfl
  · exact List.append_nil _

/-- Lines that do not concern a session leave it as it is: two engines whose output differs by
inserted lines, and by anything behind the line that answers the call, are sent the same messages,
and the same comes of it. -/
theorem session_unmoved {ε' : Type} (c : ClientConfig) (tool : String) (arguments : Document)
    {peer : Peer ε} {peer' : Peer ε'} {s : ε} {s' : ε'} (h : c.InTime peer tool arguments s)
    (h' : c.InTime peer' tool arguments s')
    (padded : Padded initializeId (c.heard peer tool arguments s).linesKeepingEnds
      (c.heard peer' tool arguments s').linesKeepingEnds) :
    (c.session peer tool arguments s).outcome = (c.session peer' tool arguments s').outcome ∧
      (c.session peer tool arguments s).sent = (c.session peer' tool arguments s').sent := by
  have hsame := (session_reads h).trans ((reading_eq padded).trans (session_reads h').symm)
  exact ⟨congrArg Prod.snd hsame, congrArg Prod.fst hsame⟩

/-- One engine answers, and another one does so amid progress, a blank line, a request of its own
with the number of the greeting, an early and a repeated response, and broken bytes at the end. -/
theorem session_unmoved_talkative :
    let c : ClientConfig := ⟨600000, 30000, "stagehand"⟩
    let empty := Json.ofMembers []
    let accepted := RawText.ofString (Message.response (Json.ofNat 1) empty).line
    let answer := RawText.ofString (Message.response (Json.ofNat 2) empty).line
    let progress := RawText.ofString (Message.notification "notifications/progress").line
    let request := RawText.ofString (Message.request 1 "ping" empty).line
    let blank := RawText.ofString " \n"
    let o : EngineOutput := ⟨[accepted, answer].flatten, true⟩
    let o' : EngineOutput :=
      ⟨[progress, blank, request, answer, accepted, accepted, progress, answer].flatten ++
        [.broken [255]], true⟩
    let session := c.session (.ofOutput o) "create" .empty o.text
    let session' := c.session (.ofOutput o') "create" .empty o'.text
    Padded initializeId (c.heard (.ofOutput o) "create" .empty o.text).linesKeepingEnds
        (c.heard (.ofOutput o') "create" .empty o'.text).linesKeepingEnds ∧
      session.outcome = session'.outcome ∧ session.sent = session'.sent := by
  intro c empty accepted answer progress request blank o o' session session'
  have hempty : empty.Plain := .ofMembers (List.forall_mem_nil _)
  have haccepted : (Message.response (Json.ofNat 1) empty).Plain :=
    .response (Message.plain_id (by decide)) hempty
  have hanswer : (Message.response (Json.ofNat 2) empty).Plain :=
    .response (Message.plain_id (by decide)) hempty
  have hprogress : (Message.notification "notifications/progress").Plain := .notification _
  have hrequest : (Message.request 1 "ping" empty).Plain := .request (by decide) _ hempty
  -- what the lines mean where they stand; their texts play no part after that
  have hgreets : ∃ m, Answers initializeId accepted m :=
    ⟨_, Message.answers_line haccepted (by decide) (by decide)⟩
  have hanswers : ∃ m, Answers callId answer m :=
    ⟨_, Message.answers_line hanswer (by decide) (by decide)⟩
  have hearly : PassedOver initializeId answer :=
    Message.passedOver_line hanswer (by decide) (by decide)
  have hrepeated : PassedOver callId accepted :=
    Message.passedOver_line haccepted (by decide) (by decide)
  have hprogresses : PassedOver initializeId progress ∧ PassedOver callId progress :=
    ⟨Message.passedOver_line hprogress (by decide) (by decide),
      Message.passedOver_line hprogress (by decide) (by decide)⟩
  have hrequests : PassedOver initializeId request :=
    Message.passedOver_line hrequest (by decide) (by decide)
  have hblank : PassedOver initializeId blank := ⟨" \n", rfl, .inl (by decide)⟩
  have hrows : ∀ l ∈ [accepted, answer], l.IsLine := by
    simp only [List.forall_mem_cons]
    exact ⟨Message.isLine_line haccepted, Message.isLine_line hanswer, List.forall_mem_nil _⟩
  have hrows' : ∀ l ∈ [progress, blank, request], l.IsLine := by
    simp only [List.forall_mem_cons]
    exact ⟨Message.isLine_line hprogress, ⟨[.char ' '], rfl, by decide⟩,
      Message.isLine_line hrequest, List.forall_mem_nil _⟩
  clear_value accepted answer progress request blank
  obtain ⟨_, hgreets⟩ := hgreets
  obtain ⟨_, hanswers⟩ := hanswers
  have hlines : o.text.linesKeepingEnds = [accepted, answer] :=
    RawText.linesKeepingEnds_flatten_rows hrows
  have hlines' : o'.text.linesKeepingEnds =
      [progress, blank, request, answer, accepted, accepted, progress, answer] ++
        RawText.linesKeepingEnds [.broken [255]] := by
    refine RawText.linesKeepingEnds_rows ?_ _
    simp only [List.forall_mem_cons] at hrows hrows'
    simp [hrows, hrows']
  have hpadded : Padded initializeId (c.heard (.ofOutput o) "create" .empty o.text).linesKeepingEnds
      (c.heard (.ofOutput o') "create" .empty o'.text).linesKeepingEnds := by
    rw [heard_ofOutput, heard_ofOutput, hlines, hlines']
    exact .inserted hprogresses.1 <| .inserted hblank <| .inserted hrequests <|
      .inserted hearly <| .greeted (.inl rfl) hgreets <| .inserted hrepeated <|
      .inserted hprogresses.2 <| .answered (.inl rfl) hanswers
  exact ⟨hpadded, session_unmoved c "create" .empty (inTime_ofOutput rfl) (inTime_ofOutput rfl)
    hpadded⟩

end ClientConfig

end Orchestration
