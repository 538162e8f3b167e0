import Orchestration.Project.Error
import Orchestration.Proofs.Frames
import Orchestration.Proofs.Waiting
import Orchestration.Rpc.Server

/-!
# What comes of a session

A session sends three messages or only the first of them, and what it comes to can be read off the
lines of the engine:

* `ClientConfig.session_of_greeted`, `ClientConfig.session_of_refused` — a session is a greeting
  that succeeds, and then one call, or a greeting that does not;
* `Message.answers_line`, `Message.passedOver_line` — messages of an engine that a client waits for
  or passes over;
* `ClientConfig.session_classified` — the call is made exactly after a greeting, a session without
  a call is a failed connection, and a call succeeds, fails, runs into its time limit or breaks the
  protocol as its first response says.
-/

namespace Orchestration

variable {ε : Type}

/-! ### Messages of an engine -/

namespace Message
variable {m : Message} {id : Nat}

/-- A response on a line is seen by a client that waits for it. -/
theorem answers_line (h : m.Plain) (hlevels : m.toJson.levels ≤ 127)
    (hresponse : m.withoutNulls.isResponseTo id = true) :
    Answers id (RawText.ofString m.line) m.withoutNulls :=
  ⟨m.line, RawText.ofString_strict? _, blankText_line m, ofLine_line h hlevels, hresponse⟩

/-- Another message on a line is passed over. -/
theorem passedOver_line (h : m.Plain) (hlevels : m.toJson.levels ≤ 127)
    (hother : m.withoutNulls.isResponseTo id = false) :
    PassedOver id (RawText.ofString m.line) :=
  ⟨m.line, RawText.ofString_strict? _, .inr ⟨_, ofLine_line h hlevels, hother⟩⟩

end Message

/-- The first response in an output of whole lines. -/
theorem EngineOutput.firstResponse_of_rows (before : List RawText) {left : List RawText}
    {line : RawText} (closed : Bool) {id : Nat} {m : Message}
    (hrows : ∀ l ∈ before ++ line :: left, l.IsLine) (hbefore : ∀ l ∈ before, PassedOver id l)
    (hanswers : Answers id line m) :
    FirstResponse ⟨(before ++ line :: left).flatten, closed⟩ id m left := by
  have hends := (hrows line (List.mem_append_right _ List.mem_cons_self)).endsLine
  exact ⟨before, line, RawText.linesKeepingEnds_flatten_rows hrows, hbefore, hanswers, .inl hends⟩

/-- The first response in an output that is one message. -/
theorem Message.firstResponse_line {m : Message} {id : Nat} (closed : Bool) (h : m.Plain)
    (hlevels : m.toJson.levels ≤ 127) (hresponse : m.withoutNulls.isResponseTo id = true) :
    EngineOutput.FirstResponse ⟨RawText.ofString m.line, closed⟩ id m.withoutNulls [] := by
  have hline : ∀ l ∈ [RawText.ofString m.line], RawText.IsLine l :=
    List.forall_mem_singleton.2 (isLine_line h)
  have hfirst := EngineOutput.firstResponse_of_rows [] closed hline (List.forall_mem_nil _)
    (answers_line h hlevels hresponse)
  rwa [List.nil_append, List.flatten_cons, List.flatten_nil, List.append_nil] at hfirst

/-! ### The two halves of a session -/

/-- A response that accepts the session, with what was said after it. -/
def EngineOutput.Greets (o : EngineOutput) (left : List RawText) : Prop :=
  ∃ m, o.FirstResponse initializeId m left ∧ m.error = none

namespace ClientConfig
variable (c : ClientConfig) (peer : Peer ε) (tool : String) (arguments : Document) (s : ε)

/-- The messages of a whole session. -/
def frames : List Message :=
  [initializeRequest c.name, initializedNotice, callRequest tool arguments]

/-- What the engine has said when the client waits for the greeting. -/
def helloOutput : EngineOutput :=
  let (said, s) := peer.receive (initializeRequest c.name).line s
  ⟨said, peer.closed s⟩

/-- What the engine says once it has been asked for the tool, and its state then. -/
def laterSaid : RawText × ε :=
  let (_, s) := peer.receive (initializeRequest c.name).line s
  let (more, s) := peer.receive initializedNotice.line s
  let (last, s) := peer.receive (callRequest tool arguments).line s
  (more ++ last, s)

/-- What the client reads while it waits for the result: what the greeting has left, and what the
engine says afterwards. -/
def callOutput (left : List RawText) : EngineOutput :=
  ⟨left.flatten ++ (c.laterSaid peer tool arguments s).1,
    peer.closed (c.laterSaid peer tool arguments s).2⟩

/-- An engine that says everything at once says nothing later. -/
theorem callOutput_ofOutput (o : EngineOutput) (left : List RawText) :
    c.callOutput (.ofOutput o) tool arguments o.text left = ⟨left.flatten, o.closed⟩ := by
  simp [callOutput, laterSaid, Peer.ofOutput]

theorem greeted_eq_ok_iff {c : ClientConfig} {a : Awaited} {left : List RawText} :
    c.greeted a = .ok left ↔ ∃ m, a = .response m left ∧ m.error = none := by
  cases a with
  | late => simp [greeted]
  | failed e => simp [greeted]
  | response m left' =>
    rw [greeted]
    cases herror : m.error <;> simp [herror, eq_comm]

/-- A session that is not accepted is a failed connection. -/
theorem greeted_error {c : ClientConfig} {a : Awaited} {e : RpcError} (h : c.greeted a = .error e) :
    ∃ reason, e = .handshake reason := by
  cases a with
  | late =>
    cases h
    exact ⟨_, rfl⟩
  | failed e' =>
    cases h
    exact ⟨_, rfl⟩
  | response m left =>
    rw [greeted] at h
    split at h
    · cases h
      exact ⟨_, rfl⟩
    · cases h

variable {c peer s}

theorem greets_iff {left : List RawText} : (c.helloOutput peer s).Greets left ↔
    c.greeted (awaitResponse initializeId (c.helloOutput peer s)) = .ok left := by
  simp only [greeted_eq_ok_iff, awaitResponse_eq_response_iff, EngineOutput.Greets]

variable {tool arguments}

/-- After a greeting the tool is called. -/
theorem session_of_greeted {left : List RawText} (h : (c.helloOutput peer s).Greets left) :
    c.session peer tool arguments s =
      ⟨c.frames tool arguments,
        c.called tool (awaitResponse callId (c.callOutput peer tool arguments s left)),
        (c.laterSaid peer tool arguments s).2⟩ := by
  have hgreeted := greets_iff.1 h
  rw [helloOutput] at hgreeted
  simp only [session, hgreeted, frames, callOutput, laterSaid, List.append_assoc]

/-- Without a greeting nothing else is sent. -/
theorem session_of_refused (tool : String) (arguments : Document) {e : RpcError}
    (h : c.greeted (awaitResponse initializeId (c.helloOutput peer s)) = .error e) :
    c.session peer tool arguments s =
      ⟨[initializeRequest c.name], .error e,
        (peer.receive (initializeRequest c.name).line s).2⟩ := by
  rw [helloOutput] at h
  simp only [session, h]

theorem session_of_not_greets (tool : String) (arguments : Document)
    (h : ¬ ∃ left, (c.helloOutput peer s).Greets left) :
    ∃ reason, c.session peer tool arguments s =
      ⟨[initializeRequest c.name], .error (.handshake reason),
        (peer.receive (initializeRequest c.name).line s).2⟩ := by
  cases hgreeted : c.greeted (awaitResponse initializeId (c.helloOutput peer s)) with
  | ok left => exact absurd ⟨left, greets_iff.2 hgreeted⟩ h
  | error e =>
    obtain ⟨reason, rfl⟩ := greeted_error hgreeted
    exact ⟨reason, session_of_refused tool arguments hgreeted⟩

/-- The tool is called exactly after a greeting. -/
theorem callRequest_mem_sent_iff :
    callRequest tool arguments ∈ (c.session peer tool arguments s).sent ↔
      ∃ left, (c.helloOutput peer s).Greets left := by
  by_cases h : ∃ left, (c.helloOutput peer s).Greets left
  · obtain ⟨left, hleft⟩ := h
    rw [session_of_greeted hleft]
    exact iff_of_true (by simp [frames]) ⟨left, hleft⟩
  · obtain ⟨reason, hsession⟩ := session_of_not_greets tool arguments h
    have hother : callRequest tool arguments ≠ initializeRequest c.name := fun heq => by
      have hmethod := congrArg Message.method heq
      simp [callRequest, initializeRequest, Message.request] at hmethod
    rw [hsession]
    exact iff_of_false (by simpa using hother) h

end ClientConfig

/-! ### The ways in which a call ends -/

/-- The result that a response carries, where it can be read. -/
def Message.Carries (m : Message) (r : ToolResult) : Prop :=
  ∃ v, m.result = some v ∧ decodeValue ToolResult.read v = .ok r

namespace EngineOutput

/-- The first response to the call says that it failed: by an error, or by a result with a flag. -/
def Fails (o : EngineOutput) : Prop :=
  ∃ m left, o.FirstResponse callId m left ∧
    (m.error.isSome = true ∨ ∃ r, m.Carries r ∧ r.isError = true)

/-- The first response to the call carries a result without the flag. -/
def Gives (o : EngineOutput) (r : ToolResult) : Prop :=
  ∃ m left, o.FirstResponse callId m left ∧ m.error = none ∧ m.Carries r ∧ r.isError = false

end EngineOutput

theorem resultOf_of_carries {tool : String} {m : Message} {r : ToolResult} (herror : m.error = none)
    (h : m.Carries r) : resultOf tool m = .ok r := by
  obtain ⟨v, hresult, hread⟩ := h
  simp [resultOf, herror, hresult, hread, Except.mapError]

namespace ClientConfig
variable {c : ClientConfig} {tool : String} {o : EngineOutput}

/-- What comes of a response to the call. -/
theorem called_of_firstResponse {m : Message} {left : List RawText}
    (h : o.FirstResponse callId m left) :
    c.called tool (awaitResponse callId o) = (resultOf tool m).bind (unflagged tool) := by
  rw [awaitResponse_eq_response_iff.2 h, called]

theorem called_of_silent (h : o.Silent callId) :
    c.called tool (awaitResponse callId o) = .error (.timeout tool c.callTimeout) := by
  rw [awaitResponse_eq_late_iff.2 h, called]

theorem called_of_fails (c : ClientConfig) (tool : String) (h : o.Fails) :
    ∃ reason, c.called tool (awaitResponse callId o) = .error (.engine tool reason) := by
  obtain ⟨m, left, hresponse, hfails⟩ := h
  rw [called_of_firstResponse hresponse]
  cases herror : m.error with
  | some e => exact ⟨e.reason, by simp [resultOf, herror, Except.bind]⟩
  | none =>
    obtain ⟨r, hcarries, hflag⟩ : ∃ r, m.Carries r ∧ r.isError = true := by
      simpa [herror] using hfails
    rw [resultOf_of_carries herror hcarries]
    exact ⟨_, if_pos hflag⟩

theorem called_of_gives {r : ToolResult} (h : o.Gives r) :
    c.called tool (awaitResponse callId o) = .ok r := by
  obtain ⟨m, left, hresponse, herror, hcarries, hflag⟩ := h
  rw [called_of_firstResponse hresponse, resultOf_of_carries herror hcarries]
  exact if_neg (by simp [hflag])

/-- In every other case the protocol or the pipe is broken. -/
theorem called_otherwise (c : ClientConfig) (tool : String) (hsilent : ¬ o.Silent callId)
    (hfails : ¬ o.Fails) (hgives : ∀ r, ¬ o.Gives r) :
    ∃ reason, (c.called tool (awaitResponse callId o)).mapError OrchestratorError.ofRpc =
      .error (.protocol reason) := by
  cases hawait : awaitResponse callId o with
  | late => exact absurd (awaitResponse_eq_late_iff.1 hawait) hsilent
  | failed e =>
    rcases awaitIn_failed hawait with ⟨reason, rfl⟩ | ⟨fault, rfl⟩
    · exact ⟨reason, rfl⟩
    · exact ⟨_, rfl⟩
  | response m left =>
    have hresponse := awaitResponse_eq_response_iff.1 hawait
    have herror : m.error = none := by
      by_contra hsome
      exact hfails ⟨m, left, hresponse, .inl (Option.isSome_iff_ne_none.2 hsome)⟩
    rw [called]
    cases hresult : m.result with
    | none => exact ⟨_, by simp only [resultOf, herror, hresult]; rfl⟩
    | some v =>
      cases hread : decodeValue ToolResult.read v with
      | error e => exact ⟨_, by simp only [resultOf, herror, hresult, hread]; rfl⟩
      | ok r =>
        have hcarries : m.Carries r := ⟨v, hresult, hread⟩
        cases hflag : r.isError with
        | true => exact absurd ⟨m, left, hresponse, .inr ⟨r, hcarries, hflag⟩⟩ hfails
        | false => exact absurd ⟨m, left, hresponse, herror, hcarries, hflag⟩ (hgives r)

/-- The four ways in which a call ends, as the project sees it. -/
inductive CallEnds (c : ClientConfig) (tool : String) (o : EngineOutput) :
    Except OrchestratorError ToolResult → Prop
  | late (h : o.Silent callId) : CallEnds c tool o (.error (.timeout tool c.callTimeout))
  | failed (reason : String) (h : o.Fails) : CallEnds c tool o (.error (.engine tool reason))
  | done (r : ToolResult) (h : o.Gives r) : CallEnds c tool o (.ok r)
  | broken (reason : String) (silent : ¬ o.Silent callId) (fails : ¬ o.Fails)
      (gives : ∀ r, ¬ o.Gives r) : CallEnds c tool o (.error (.protocol reason))

theorem called_ends (c : ClientConfig) (tool : String) (o : EngineOutput) :
    CallEnds c tool o
      ((c.called tool (awaitResponse callId o)).mapError OrchestratorError.ofRpc) := by
  by_cases hsilent : o.Silent callId
  · rw [called_of_silent hsilent]
    exact .late hsilent
  by_cases hfails : o.Fails
  · obtain ⟨reason, hcalled⟩ := called_of_fails c tool hfails
    rw [hcalled]
    exact .failed reason hfails
  by_cases hgives : ∃ r, o.Gives r
  · obtain ⟨r, hr⟩ := hgives
    rw [called_of_gives hr]
    exact .done r hr
  obtain ⟨reason, hcalled⟩ := called_otherwise c tool hsilent hfails (not_exists.1 hgives)
  rw [hcalled]
  exact .broken reason hsilent hfails (not_exists.1 hgives)

/-- Each way of ending has its own class of outcomes. -/
theorem called_classified (c : ClientConfig) (tool : String) (o : EngineOutput) :
    let seen := (c.called tool (awaitResponse callId o)).mapError OrchestratorError.ofRpc
    (seen = .error (.timeout tool c.callTimeout) ↔ o.Silent callId) ∧
      ((∃ reason, seen = .error (.engine tool reason)) ↔ o.Fails) ∧
      (∀ r, seen = .ok r ↔ o.Gives r) ∧
      ((∃ reason, seen = .error (.protocol reason)) ↔
        ¬ o.Silent callId ∧ ¬ o.Fails ∧ ∀ r, ¬ o.Gives r) := by
  intro seen
  have hends : CallEnds c tool o seen := called_ends c tool o
  refine ⟨⟨fun heq => ?_, fun hsilent => ?_⟩, ⟨?_, fun hfails => ?_⟩,
    fun r => ⟨fun heq => ?_, fun hgives => ?_⟩, ⟨?_, fun ⟨hsilent, hfails, hgives⟩ => ?_⟩⟩
  · rw [heq] at hends
    cases hends with
    | late h => exact h
  · simp only [seen, called_of_silent hsilent]
    rfl
  · rintro ⟨reason, heq⟩
    rw [heq] at hends
    cases hends with
    | failed _ h => exact h
  · obtain ⟨reason, hcalled⟩ := called_of_fails c tool hfails
    exact ⟨reason, by simp only [seen, hcalled]; rfl⟩
  · rw [heq] at hends
    cases hends with
    | done _ h => exact h
  · simp only [seen, called_of_gives hgives]
    rfl
  · rintro ⟨reason, heq⟩
    rw [heq] at hends
    cases hends with
    | broken _ hsilent hfails hgives => exact ⟨hsilent, hfails, hgives⟩
  · exact called_otherwise c tool hsilent hfails hgives

/-! ### The classes of outcomes -/

section
variable {peer : Peer ε} {arguments : Document} {s : ε}

/-- A session sends its messages in order, and all of them or only the first. -/
theorem sent_inOrder : (c.session peer tool arguments s).sent <+: c.frames tool arguments := by
  by_cases h : ∃ left, (c.helloOutput peer s).Greets left
  · obtain ⟨left, hleft⟩ := h
    simp only [session_of_greeted hleft, List.prefix_rfl]
  · obtain ⟨reason, hsession⟩ := session_of_not_greets tool arguments h
    rw [hsession]
    exact ⟨[initializedNotice, callRequest tool arguments], rfl⟩

/-- A session is a failed connection exactly if the tool is not called. -/
theorem connect_iff : (∃ reason, (c.session peer tool arguments s).outcome.mapError
      OrchestratorError.ofRpc = .error (.connect reason)) ↔
    callRequest tool arguments ∉ (c.session peer tool arguments s).sent := by
  rw [callRequest_mem_sent_iff]
  by_cases h : ∃ left, (c.helloOutput peer s).Greets left
  · obtain ⟨left, hleft⟩ := h
    refine iff_of_false ?_ fun hno => hno ⟨left, hleft⟩
    rintro ⟨reason, hseen⟩
    have hends := called_ends c tool (c.callOutput peer tool arguments s left)
    rw [session_of_greeted hleft] at hseen
    rw [hseen] at hends
    cases hends
  · obtain ⟨reason, hsession⟩ := session_of_not_greets tool arguments h
    rw [hsession]
    exact iff_of_true ⟨_, rfl⟩ h

end

/-- What was sent and what came of it can be read off the engine's output.  The call is made
exactly after a greeting, and a session without it is a failed connection; a call that is made runs
into its time limit in a silent output, fails or succeeds as the first response to it says, and
breaks the protocol in every other case. -/
theorem session_classified (c : ClientConfig) (peer : Peer ε) (tool : String)
    (arguments : Document) (s : ε) :
    let session := c.session peer tool arguments s
    let hello := c.helloOutput peer s
    let call := callRequest tool arguments
    let seen := session.outcome.mapError OrchestratorError.ofRpc
    (session.sent.map fun m => (m.id, m.method)) <+:
        [(some (Json.ofNat 1), some "initialize"), (none, some "notifications/initialized"),
          (some (Json.ofNat 2), some "tools/call")] ∧
      session.sent <+: c.frames tool arguments ∧
      (call ∈ session.sent ↔ ∃ left, hello.Greets left) ∧
      ((∃ reason, seen = .error (.connect reason)) ↔ call ∉ session.sent) ∧
      ∀ left, hello.Greets left →
        let o := c.callOutput peer tool arguments s left
        (seen = .error (.timeout tool c.callTimeout) ↔ o.Silent callId) ∧
          ((∃ reason, seen = .error (.engine tool reason)) ↔ o.Fails) ∧
          (∀ r, seen = .ok r ↔ o.Gives r) ∧
          ((∃ reason, seen = .error (.protocol reason)) ↔
            ¬ o.Silent callId ∧ ¬ o.Fails ∧ ∀ r, ¬ o.Gives r) := by
  refine ⟨sent_inOrder.map fun m => (m.id, m.method), sent_inOrder, callRequest_mem_sent_iff,
    connect_iff, fun left hleft => ?_⟩
  have houtcome : (c.session peer tool arguments s).outcome =
      c.called tool (awaitResponse callId (c.callOutput peer tool arguments s left)) := by
    rw [session_of_greeted hleft]
  rw [houtcome]
  exact called_classified c tool _

/-- The engine accepts the session, reports its progress and flags a failure, all at once. -/
theorem session_classified_flagged :
    let c : ClientConfig := ⟨600000, 30000, "stagehand"⟩
    let accepted := RawText.ofString (Message.response (Json.ofNat 1) (Json.ofMembers [])).line
    let progress := RawText.ofString (Message.notification "notifications/progress").line
    let failed := RawText.ofString (Message.response (Json.ofNat 2)
      (ToolResult.ofOutcome (.error "it broke")).toJson.canonical).line
    let o : EngineOutput := ⟨[accepted, progress, failed].flatten, true⟩
    let session := c.session (.ofOutput o) "create" .empty o.text
    (c.helloOutput (.ofOutput o) o.text).Greets [progress, failed] ∧
      callRequest "create" .empty ∈ session.sent ∧
      ∃ reason, session.outcome.mapError OrchestratorError.ofRpc =
        .error (.engine "create" reason) := by
  intro c accepted progress failed o session
  have hflagged : (ToolResult.ofOutcome (.error "it broke")).toJson.canonical.Plain :=
    ToolResult.plain_canonical nofun
  have haccepted : (Message.response (Json.ofNat 1) (Json.ofMembers [])).Plain :=
    .response (Message.plain_id (by decide)) (.ofMembers (List.forall_mem_nil _))
  have hprogress : (Message.notification "notifications/progress").Plain := .notification _
  have hfailed : (Message.response (Json.ofNat 2) _).Plain :=
    .response (Message.plain_id (by decide)) hflagged
  have hrows : ∀ l ∈ [accepted, progress, failed], l.IsLine := by
    simp only [List.forall_mem_cons]
    exact ⟨Message.isLine_line haccepted, Message.isLine_line hprogress,
      Message.isLine_line hfailed, List.forall_mem_nil _⟩
  have hgreets : (c.helloOutput (.ofOutput o) o.text).Greets [progress, failed] :=
    ⟨_, EngineOutput.firstResponse_of_rows [] _ hrows (List.forall_mem_nil _)
      (Message.answers_line haccepted (by decide) (by decide)), rfl⟩
  have hfails : (c.callOutput (.ofOutput o) "create" .empty o.text [progress, failed]).Fails := by
    rw [callOutput_ofOutput]
    have hprogresses : PassedOver callId progress :=
      Message.passedOver_line hprogress (by decide) (by decide)
    have hresponse :
        EngineOutput.FirstResponse ⟨[progress, failed].flatten, o.closed⟩ callId _ [] :=
      EngineOutput.firstResponse_of_rows [progress] _ (List.forall_mem_cons.1 hrows).2
        (by simpa using hprogresses) (Message.answers_line hfailed (by decide) (by decide))
    exact ⟨_, [], hresponse, .inr ⟨_, ⟨_, rfl, ToolResult.decode_canonical nofun⟩, rfl⟩⟩
  have hclasses := session_classified c (.ofOutput o) "create" .empty o.text
  exact ⟨hgreets, hclasses.2.2.1.2 ⟨_, hgreets⟩, (hclasses.2.2.2.2 _ hgreets).2.1.2 hfails⟩

end ClientConfig

end Orchestration
