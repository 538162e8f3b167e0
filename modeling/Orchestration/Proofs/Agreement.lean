import Orchestration.Proofs.Serving
import Orchestration.Proofs.Sessions

/-!
# A client and a server understand each other

The client's session and the server are written apart, and meet only in the lines between them.  Put
together they call a tool:

* `Peer.serving` — an engine that serves tools, as its client sees it;
* `serve_line_append` — what a server makes of a message on a line;
* `reply_callRequest` — the server reads a call as it was sent;
* `session_serving` — a session with a server is one call of the tool, and its outcome;
* `ClientConfig.session_agrees` — the tool is called once, with what was sent, and what comes of the
  call is what comes of the session.
-/

namespace Orchestration

variable {η : Type}

/-! ### Servers as engines -/

/-- An engine that serves tools: it answers each line that it receives, and can always say more. -/
def Peer.serving (h : ToolHandler η) (info : ServerInfo) : Peer η where
  receive line s :=
    let served := serve h info (RawText.ofString line) s
    (RawText.ofString (String.join (served.replies.map Message.line)), served.state)
  closed _ := false

section
variable (h : ToolHandler η) (info : ServerInfo)

/-- A server reads a message on a line, answers it and goes on. -/
theorem serve_line_append {m : Message} {reply : Option Message} {s s' : η} (hplain : m.Plain)
    (hlevels : m.toJson.levels ≤ 127) (hreply : m.withoutNulls.reply h info s = (reply, s'))
    (rest : String) :
    serve h info (RawText.ofString (m.line ++ rest)) s =
      ⟨reply.toList ++ (serve h info (RawText.ofString rest) s').replies,
        (serve h info (RawText.ofString rest) s').ending,
        (serve h info (RawText.ofString rest) s').state⟩ := by
  have hlines : RawText.linesKeepingEnds (RawText.ofString (m.line ++ rest)) =
      RawText.ofString m.line :: RawText.linesKeepingEnds (RawText.ofString rest) := by
    have htext : RawText.ofString (m.line ++ rest) =
        RawText.ofString m.line ++ RawText.ofString rest := by simp [RawText.ofString]
    rw [htext, RawText.linesKeepingEnds_cons (Message.isLine_line hplain)]
  have hanswer := answerLine_read h info s (Message.blankText_line m)
    (Message.ofLine_line hplain hlevels)
  rw [serve, hlines, serveLines, RawText.ofString_strict?]
  simp only [hanswer, hreply, serve]

theorem closed_serving (s : η) : (Peer.serving h info).closed s = false := rfl

theorem serve_empty (s : η) : serve h info (RawText.ofString "") s = ⟨[], .ok (), s⟩ := rfl

/-- An engine that serves tools says its answer to a message, if there is one. -/
theorem receive_serving {m : Message} {reply : Option Message} {s s' : η} (hplain : m.Plain)
    (hlevels : m.toJson.levels ≤ 127) (hreply : m.withoutNulls.reply h info s = (reply, s')) :
    (Peer.serving h info).receive m.line s =
      (reply.elim [] fun r => RawText.ofString r.line, s') := by
  have hserve := serve_line_append h info hplain hlevels hreply ""
  rw [String.append_empty] at hserve
  simp only [Peer.serving, hserve, serve_empty, List.append_nil]
  cases reply <;> simp [String.join, RawText.ofString]

end

/-! ### The messages of a session -/

/-- The response that accepts a session. -/
def greetingResponse (info : ServerInfo) : Message :=
  .response (Json.ofNat initializeId) info.greeting

/-- The response that tells the outcome of a call. -/
def callResponse (outcome : Except String ToolOutput) : Message :=
  .response (Json.ofNat callId) (ToolResult.ofOutcome outcome).toJson.canonical

theorem Message.levels_request_le {n : Nat} {method : String} {params : Json} {k : Nat}
    (h : params.levels ≤ k) : (request n method params).toJson.levels ≤ k + 1 := by
  refine Nat.succ_le_succ (Json.levelsMembers_le_iff.2 ?_)
  simp [request, blank, optionalMember, Json.ofNat, Json.levels, h]

theorem Message.levels_response_le {id result : Json} {k : Nat} (hid : id.levels ≤ k)
    (h : result.levels ≤ k) : (response id result).toJson.levels ≤ k + 1 := by
  refine Nat.succ_le_succ (Json.levelsMembers_le_iff.2 ?_)
  simp [response, blank, optionalMember, Json.levels, hid, h]

/-- A name and a version. -/
theorem Json.plain_named (name version : String) :
    (Json.obj [("name", .str name), ("version", .str version)]).Plain := by
  have hkeys : "name" < "version" := by decide
  exact .obj (by simp [Plain.str])
    (.cons (List.forall_mem_singleton.2 hkeys) (List.pairwise_singleton _ _))

theorem initializeRequest_plain (client : String) : (initializeRequest client).Plain := by
  refine .request (by decide) _ (.ofMembers ?_)
  have hnone : (Json.obj []).Plain := .obj (List.forall_mem_nil _) .nil
  simp [Json.Plain.str, Json.plain_named, hnone]

theorem initializeRequest_levels (client : String) :
    (initializeRequest client).toJson.levels ≤ 127 := by
  have hparams : (initializeRequest client).toJson.levels ≤ 1 + 1 + 1 :=
    Message.levels_request_le (Json.levels_ofMembers_le (by simp [Json.levels, Json.levelsMembers]))
  omega

theorem initializedNotice_plain : initializedNotice.Plain := .notification _

theorem initializedNotice_levels : initializedNotice.toJson.levels ≤ 127 := by decide

theorem greetingResponse_plain (info : ServerInfo) : (greetingResponse info).Plain := by
  refine .response (Message.plain_id (by decide)) (.ofMembers ?_)
  have hnone : (Json.obj []).Plain := .obj (List.forall_mem_nil _) .nil
  have htools : (Json.obj [("tools", .obj [])]).Plain :=
    .obj (List.forall_mem_singleton.2 hnone) (List.pairwise_singleton _ _)
  simp [Json.Plain.str, Json.plain_named, htools]

theorem greetingResponse_levels (info : ServerInfo) :
    (greetingResponse info).toJson.levels ≤ 127 := by
  have hresult : (greetingResponse info).toJson.levels ≤ 2 + 1 + 1 :=
    Message.levels_response_le (Nat.zero_le _)
      (Json.levels_ofMembers_le (by simp [Json.levels, Json.levelsMembers]))
  omega

theorem callRequest_plain {tool : String} {arguments : Document}
    (h : ∀ e ∈ arguments.entries, e.2.Plain) : (callRequest tool arguments).Plain := by
  refine .request (by decide) _ (.ofMembers ?_)
  have harguments : arguments.toJson.Plain := .ofMap h
  simp [Json.Plain.str, harguments]

section
variable (h : ToolHandler η) (info : ServerInfo) (s : η)

theorem reply_initializeRequest (client : String) :
    (initializeRequest client).withoutNulls.reply h info s = (some (greetingResponse info), s) :=
  rfl

theorem reply_initializedNotice : initializedNotice.withoutNulls.reply h info s = (none, s) := rfl

/-- The server reads a call as it was sent. -/
theorem reply_callRequest (tool : String) (arguments : Document) :
    (callRequest tool arguments).withoutNulls.reply h info s =
      (some (callResponse (h.call tool arguments s).1), (h.call tool arguments s).2) := by
  have hparams : (callRequest tool arguments).paramsDocument =
      KeyMap.ofList [("name", .str tool), ("arguments", arguments.toJson)] :=
    congrArg (Option.getD · KeyMap.empty) (Document.ofJson?_toJson _)
  have hname : Document.str? (callRequest tool arguments).paramsDocument "name" = some tool := by
    simp [hparams, Document.str?, KeyMap.ofList, Json.asString?]
  have harguments : Document.document? (callRequest tool arguments).paramsDocument "arguments" =
      some arguments := by
    simp [hparams, Document.document?, KeyMap.ofList]
  have hcall : (callRequest tool arguments).withoutNulls.reply h info s =
      (some (callTool h (Json.ofNat callId) (callRequest tool arguments).paramsDocument s).1,
        (callTool h (Json.ofNat callId) (callRequest tool arguments).paramsDocument s).2) := rfl
  rw [hcall]
  simp only [callTool, hname, harguments, Option.getD_some, callResponse]

end

/-! ### One call -/

/-- The response to a call carries what the tool returned. -/
theorem callResponse_carries {outcome : Except String ToolOutput}
    (h : ∀ v, (ToolResult.ofOutcome outcome).structured = some v → v.Canonical) :
    (callResponse outcome).withoutNulls.Carries (ToolResult.ofOutcome outcome).withoutNulls :=
  ⟨_, rfl, ToolResult.decode_canonical h⟩

theorem ToolResult.plain_ofOutcome {outcome : Except String ToolOutput}
    (h : ∀ output v, outcome = .ok output → output.structured = some v → v.Plain) :
    ∀ v, (ofOutcome outcome).structured = some v → v.Plain := by
  intro v hv
  cases outcome with
  | ok output => exact h output v rfl hv
  | error reason => cases hv

/-- The words of a failure are the text of what a caller is told. -/
theorem ToolResult.text_ofOutcome_error (reason : String) :
    (ofOutcome (.error reason)).text = reason := by
  simp [text, ofOutcome, Content.ofText]

/-- A failure arrives as a flagged result, with stock words if it has none. -/
theorem unflagged_ofOutcome_error (tool reason : String) :
    unflagged tool (ToolResult.ofOutcome (.error reason)).withoutNulls =
      .error (.engine tool
        (if reason = "" then "engine reported an error without details" else reason)) := by
  have htext : (ToolResult.ofOutcome (.error reason)).withoutNulls.text = reason :=
    ToolResult.text_ofOutcome_error reason
  have hflag : (ToolResult.ofOutcome (.error reason)).withoutNulls.isError = true := rfl
  rw [unflagged, if_pos hflag, htext]
  by_cases hempty : reason = "" <;> simp [hempty]

section
variable (h : ToolHandler η) (info : ServerInfo) {tool : String} {arguments : Document} (s : η)

/-- A session with a server calls the tool and gets its outcome. -/
theorem session_serving (c : ClientConfig) (plain : ∀ e ∈ arguments.entries, e.2.Plain)
    (returned : ∀ output v, (h.call tool arguments s).1 = .ok output →
      output.structured = some v → v.Plain)
    (asks : (callRequest tool arguments).toJson.levels ≤ 127)
    (answers : (callResponse (h.call tool arguments s).1).toJson.levels ≤ 127) :
    c.session (.serving h info) tool arguments s =
      ⟨c.frames tool arguments,
        unflagged tool (ToolResult.ofOutcome (h.call tool arguments s).1).withoutNulls,
        (h.call tool arguments s).2⟩ := by
  have hresult := ToolResult.plain_ofOutcome returned
  have hanswer : (callResponse (h.call tool arguments s).1).Plain :=
    .response (Message.plain_id (by decide)) (ToolResult.plain_canonical hresult)
  have hhello := receive_serving h info (initializeRequest_plain c.name)
    (initializeRequest_levels c.name) (reply_initializeRequest h info s c.name)
  have hnotice := receive_serving h info initializedNotice_plain initializedNotice_levels
    (reply_initializedNotice h info s)
  have hcall := receive_serving h info (callRequest_plain plain) asks
    (reply_callRequest h info s tool arguments)
  have hello : c.helloOutput (.serving h info) s =
      ⟨RawText.ofString (greetingResponse info).line, false⟩ := by
    simp only [ClientConfig.helloOutput, hhello, Option.elim, closed_serving]
  have later : c.laterSaid (.serving h info) tool arguments s =
      (RawText.ofString (callResponse (h.call tool arguments s).1).line,
        (h.call tool arguments s).2) := by
    simp only [ClientConfig.laterSaid, hhello, hnotice, hcall, Option.elim, List.nil_append]
  have answer : c.callOutput (.serving h info) tool arguments s [] =
      ⟨RawText.ofString (callResponse (h.call tool arguments s).1).line, false⟩ := by
    simp only [ClientConfig.callOutput, later, closed_serving, List.flatten_nil, List.nil_append]
  have hgreets : (c.helloOutput (.serving h info) s).Greets [] := by
    rw [hello]
    exact ⟨_, Message.firstResponse_line false (greetingResponse_plain info)
      (greetingResponse_levels info) (Message.isResponseTo_response (by decide) _), rfl⟩
  have hresponse := Message.firstResponse_line false hanswer answers
    (Message.isResponseTo_response (by decide) _)
  rw [ClientConfig.session_of_greeted hgreets, answer, later,
    ClientConfig.called_of_firstResponse hresponse,
    resultOf_of_carries rfl (callResponse_carries fun v hv => (hresult v hv).canonical)]
  rfl

/-- One run of a server over a whole session answers as an engine does line by line. -/
theorem serve_frames (c : ClientConfig) (plain : ∀ e ∈ arguments.entries, e.2.Plain)
    (asks : (callRequest tool arguments).toJson.levels ≤ 127) :
    serve h info (RawText.ofString (String.join ((c.frames tool arguments).map Message.line))) s =
      ⟨[greetingResponse info, callResponse (h.call tool arguments s).1], .ok (),
        (h.call tool arguments s).2⟩ := by
  have hjoin : String.join ((c.frames tool arguments).map Message.line) =
      (initializeRequest c.name).line ++
        (initializedNotice.line ++ ((callRequest tool arguments).line ++ "")) := by
    simp [ClientConfig.frames, String.join, String.append_assoc]
  rw [hjoin, serve_line_append h info (initializeRequest_plain c.name)
      (initializeRequest_levels c.name) (reply_initializeRequest h info s c.name),
    serve_line_append h info initializedNotice_plain initializedNotice_levels
      (reply_initializedNotice h info s),
    serve_line_append h info (callRequest_plain plain) asks
      (reply_callRequest h info s tool arguments), serve_empty]
  rfl

end

namespace ClientConfig

/-- A client and a server that are put together agree.  The tool is called exactly once, under the
name and with the arguments that the client was given, and what comes of the call is what comes of
the session: what the tool returned, where null is absent, or the words in which it failed.  One run
of the server over all that the client sends comes to the same. -/
theorem session_agrees (h : ToolHandler η) (info : ServerInfo) (c : ClientConfig) (tool : String)
    (arguments : Document) (s : η) (plain : ∀ e ∈ arguments.entries, e.2.Plain)
    (returned : ∀ output v, (h.call tool arguments s).1 = .ok output →
      output.structured = some v → v.Plain)
    (asks : (callRequest tool arguments).toJson.levels ≤ 127)
    (answers : (callResponse (h.call tool arguments s).1).toJson.levels ≤ 127) :
    let session := c.session (.serving h.recorded info) tool arguments (s, [])
    session.state = ((h.call tool arguments s).2, [(tool, arguments)]) ∧
      (∀ output, (h.call tool arguments s).1 = .ok output → session.outcome =
        .ok ⟨[Content.ofText output.text], output.structured.bind Json.present?, false⟩) ∧
      (∀ reason, (h.call tool arguments s).1 = .error reason → session.outcome =
        .error (.engine tool
          (if reason = "" then "engine reported an error without details" else reason))) ∧
      serve h.recorded info (RawText.ofString (String.join (session.sent.map Message.line)))
          (s, []) =
        ⟨[greetingResponse info, callResponse (h.call tool arguments s).1], .ok (),
          session.state⟩ := by
  intro session
  have hcall : h.recorded.call tool arguments (s, []) = ((h.call tool arguments s).1,
      ((h.call tool arguments s).2, [(tool, arguments)])) := rfl
  have hsession : session = _ := session_serving h.recorded info (s, []) c
    plain (by rw [hcall]; exact returned) asks (by rw [hcall]; exact answers)
  have hserved := serve_frames h.recorded info (s, []) c plain asks
  rw [hcall] at hsession hserved
  rw [hsession]
  refine ⟨rfl, fun output houtput => ?_, fun reason hreason => ?_, hserved⟩
  · rw [houtput]
    rfl
  · rw [hreason]
    exact unflagged_ofOutcome_error tool reason

/-- A tool that echoes what it is called with, and counts its calls. -/
theorem session_agrees_echo :
    let echo : ToolHandler Nat :=
      ⟨[], fun _ arguments n => (.ok ⟨"echoed", some arguments.toJson⟩, n + 1)⟩
    let c : ClientConfig := ⟨600000, 30000, "stagehand"⟩
    let arguments : Document := KeyMap.ofList
      [("stage", .str "integration"), ("ports", .arr [Json.ofNat 80, .null]), ("spec", .obj [])]
    let session := c.session (.serving echo.recorded default) "echo" arguments (0, [])
    session.state = (1, [("echo", arguments)]) ∧
      session.outcome = .ok ⟨[Content.ofText "echoed"], some arguments.toJson, false⟩ := by
  intro echo c arguments session
  have hports : (Json.arr [Json.ofNat 80, .null]).Plain := by
    have hnumber : (Json.ofNat 80).Plain := Message.plain_id (by decide)
    exact ⟨.arr _ (by simp [hnumber.whole, Json.Whole.null]),
      .arr _ (by simp [hnumber.canonical, Json.Canonical.null])⟩
  have hspec : (Json.obj []).Plain := .obj (List.forall_mem_nil _) .nil
  have hplain : ∀ e ∈ arguments.entries, e.2.Plain :=
    KeyMap.forall_ofList (A := Json.Plain) (by simp [Json.Plain.str, hports, hspec])
  have hasks : (callRequest "echo" arguments).toJson.levels ≤ 127 := by decide +kernel
  have hanswers : (callResponse (echo.call "echo" arguments 0).1).toJson.levels ≤ 127 := by
    decide +kernel
  clear_value arguments
  have hreturned : ∀ output v, (echo.call "echo" arguments 0).1 = .ok output →
      output.structured = some v → v.Plain := by
    rintro _ _ ⟨⟩ ⟨⟩
    exact .ofMap hplain
  have hagrees := session_agrees echo default c "echo" arguments 0 hplain hreturned hasks hanswers
  exact ⟨hagrees.1, hagrees.2.1 _ rfl⟩

end ClientConfig

end Orchestration
