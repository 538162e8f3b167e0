import Orchestration.Project.Serve
import Orchestration.Proofs.Agreement
import Orchestration.Proofs.Creation
import Orchestration.Proofs.Records
import Orchestration.Proofs.Scripted
import Orchestration.Proofs.Transcripts

/-!
# Asking a project over its tools is asking it directly

A project that serves its tools does what it is asked as if it were asked directly: the same calls
are made and the same is left behind, and each reply tells what the direct answer would have been:

* `RemoteCall`, `RemoteCall.AskedOn` — requests, and the lines that ask for them;
* `RemoteCall.asked_transcript` — messages can be written that ask for any requests;
* `StageOrchestrator.direct`, `directCalls` — what the requests come to when they are made directly;
* `TestEnvironment.decode_canonical`, `TeardownReport.listedIn_canonical` — what a reply carries is
  read as what was meant;
* `DirectCall.Tells` — a reply that tells a direct answer;
* `serve_delegates` — the whole.
-/

namespace Orchestration

variable {σ κ : Type}

/-! ### Requests -/

/-- What can be asked of a project over its tools. -/
inductive RemoteRequest where
  | create (stage : String)
  | delete (id : String)

namespace RemoteRequest

/-- The tool that a request calls. -/
def tool : RemoteRequest → String
  | .create _ => "create"
  | .delete _ => "delete"

/-- The argument that the tool wants. -/
def argument : RemoteRequest → String
  | .create _ => "stage"
  | .delete _ => "testID"

/-- What stands there. -/
def value : RemoteRequest → String
  | .create stage => stage
  | .delete id => id

end RemoteRequest

/-- A request under a number. -/
structure RemoteCall where
  id : Json
  request : RemoteRequest

/-- A message asks for a request: it calls its tool with its argument, whatever else it says. -/
structure Message.Asks (m : Message) (c : RemoteCall) : Prop where
  method : m.method = some "tools/call"
  id : m.id = some c.id
  tool : m.paramsDocument.str? "name" = some c.request.tool
  argument : ((m.paramsDocument.document? "arguments").getD .empty).str? c.request.argument =
    some c.request.value

/-- A line is read as a message that asks for a request. -/
def RemoteCall.AskedOn (c : RemoteCall) (line : String) : Prop :=
  ∃ m, Message.ofLine (trim line) = .ok m ∧ m.Asks c

namespace RemoteCall

/-- The message that asks for a request and says nothing else. -/
def message (c : RemoteCall) : Message :=
  { Message.blank with
    id := some c.id
    method := some "tools/call"
    params := some (Json.ofMembers [("name", .str c.request.tool),
      ("arguments", .obj [(c.request.argument, .str c.request.value)])]) }

/-- A number that loses nothing on the wire, in a message of its own. -/
structure Numbered (c : RemoteCall) : Prop where
  plain : c.id.Plain
  said : c.id ≠ .null
  shallow : c.id.levels ≤ 126

variable {c : RemoteCall}

theorem message_asks (c : RemoteCall) : c.message.Asks c := by
  have params : c.message.paramsDocument = KeyMap.ofList [("name", .str c.request.tool),
      ("arguments", .obj [(c.request.argument, .str c.request.value)])] :=
    congrArg (Option.getD · KeyMap.empty) (Document.ofJson?_toJson _)
  refine ⟨rfl, rfl, ?_, ?_⟩ <;>
    simp [params, Document.str?, Document.document?, Document.ofJson?, KeyMap.ofList,
      Json.asString?]

theorem message_plain (h : c.Numbered) : c.message.Plain := by
  have argument : (Json.obj [(c.request.argument, .str c.request.value)]).Plain :=
    .obj (List.forall_mem_singleton.2 (.str _)) (List.pairwise_singleton _ _)
  have params : (Json.ofMembers [("name", .str c.request.tool),
      ("arguments", .obj [(c.request.argument, .str c.request.value)])]).Plain :=
    .ofMembers (List.forall_mem_cons.2 ⟨.str _, List.forall_mem_singleton.2 argument⟩)
  exact
    { id := by rintro _ ⟨⟩; exact h.plain
      params := by rintro _ ⟨⟩; exact params
      result := nofun
      data := nofun
      code := nofun }

theorem message_levels_le (h : c.Numbered) : c.message.toJson.levels ≤ 127 := by
  have params : (Json.ofMembers [("name", .str c.request.tool),
      ("arguments", .obj [(c.request.argument, .str c.request.value)])]).levels ≤ 1 + 1 :=
    Json.levels_ofMembers_le (by simp [Json.levels, Json.levelsMembers])
  refine Nat.succ_le_succ (Json.levelsMembers_le_iff.2 ?_)
  simp only [message, Message.blank, optionalMember, Option.map_some, Option.map_none,
    List.append_nil, List.cons_append, List.nil_append, List.forall_mem_cons]
  exact ⟨Nat.zero_le _, h.shallow, Nat.zero_le _, params.trans (by decide),
    List.forall_mem_nil _⟩

theorem message_nullFree (h : c.Numbered) : c.message.NullFree :=
  ⟨fun null => h.said (Option.some.inj null), nofun, nofun, nofun⟩

/-- Messages that are written to ask for requests do so. -/
theorem asked_transcript {asked : List RemoteCall} (h : ∀ c ∈ asked, c.Numbered) :
    List.Forall₂ AskedOn asked ((inputLines (Message.transcript (asked.map message))).filter
      fun line => !blankText line) := by
  rw [Message.solid_transcript (List.forall_mem_map.2 fun c hc => message_plain (h c hc)),
    List.map_map]
  refine List.forall₂_map_right_iff.2 (List.forall₂_same.2 fun c hc => ?_)
  refine ⟨c.message, ?_, c.message_asks⟩
  rw [Function.comp_apply, Message.trim_compact, ← Message.trim_line,
    Message.ofLine_line (message_plain (h c hc)) (message_levels_le (h c hc)),
    Message.withoutNulls_eq_iff.2 (message_nullFree (h c hc))]

end RemoteCall

/-! ### Direct answers -/

/-- What a request comes to. -/
inductive DirectAnswer where
  | created (answer : Except OrchestratorError TestEnvironment)
  | deleted (answer : Except OrchestratorError TeardownReport)

namespace DirectAnswer

/-- The failure of a request that failed. -/
def failure : DirectAnswer → Option OrchestratorError
  | .created (.error err) | .deleted (.error err) => some err
  | .created (.ok _) | .deleted (.ok _) => none

/-- What a tool makes of an answer. -/
def outcome : DirectAnswer → Except String ToolOutput
  | .created answer => StageOrchestrator.toolOutcome StageOrchestrator.createdOutput answer
  | .deleted answer => StageOrchestrator.toolOutcome StageOrchestrator.deletedOutput answer

/-- What a caller is told of an answer. -/
def result (a : DirectAnswer) : ToolResult := .ofOutcome a.outcome

end DirectAnswer

/-- An answer to a request under a number, and the world that the request has left. -/
structure DirectCall (σ : Type) where
  id : Json
  answer : DirectAnswer
  after : World σ

namespace StageOrchestrator

/-- Ask for a request directly. -/
def direct (o : StageOrchestrator) (sv : Services σ) (w : World σ) :
    RemoteRequest → DirectAnswer × World σ
  | .create stage => (.created (o.create sv stage w).1, (o.create sv stage w).2)
  | .delete id => (.deleted (o.delete sv id w).1, (o.delete sv id w).2)

/-- Ask for requests directly, one after the other. -/
def directCalls (o : StageOrchestrator) (sv : Services σ) :
    List RemoteCall → World σ → List (DirectCall σ)
  | [], _ => []
  | c :: rest, w =>
    ⟨c.id, (o.direct sv w c.request).1, (o.direct sv w c.request).2⟩ ::
      o.directCalls sv rest (o.direct sv w c.request).2

/-- The world that direct requests leave. -/
def directRun (o : StageOrchestrator) (sv : Services σ) (asked : List RemoteCall) (w : World σ) :
    World σ :=
  asked.foldl (fun w c => (o.direct sv w c.request).2) w

end StageOrchestrator

/-! ### Environments and reports on the wire -/

theorem Json.plain_ofStringMap (m : KeyMap String) : (Json.ofStringMap m).Plain := by
  refine .ofMap fun e he => ?_
  obtain ⟨x, _, rfl⟩ := List.mem_map.1 he
  exact .str x.2

theorem Json.plain_ofStrings (ss : List String) : (Json.ofStrings ss).Plain :=
  ⟨.arr _ (by simp [Json.Whole.str]), .arr _ (by simp [Json.Canonical.str])⟩

/-- An environment is read from its members in the order of their keys. -/
theorem TestEnvironment.decodes_canonical :
    ∀ e : TestEnvironment, Decodes TestEnvironment.read 2 e.toJson.canonical e
  | ⟨id, stage, status, createdAt, updatedAt, tmpDir, files, metadata, resources⟩ => by
    have hcanonical : ∀ m ∈ [("id", Json.str id), ("name", .str stage),
        ("status", .str status.name), ("createdAt", .str createdAt.text),
        ("updatedAt", .str updatedAt.text), ("tmpDir", .str tmpDir),
        ("files", Json.ofStringMap files), ("metadata", Json.ofStringMap metadata),
        ("managedResources", Json.ofStrings resources)], m.2.Canonical := by
      simp only [List.forall_mem_cons]
      exact ⟨.str _, .str _, .str _, .str _, .str _, .str _, (Json.plain_ofStringMap _).canonical,
        (Json.plain_ofStringMap _).canonical, (Json.plain_ofStrings _).canonical,
        List.forall_mem_nil _⟩
    refine Decodes.recordCanonical (r := (id, stage, status, createdAt, updatedAt, tmpDir, files,
      metadata, resources, ())) _ (Fields.Commute.cons <| Fields.Commute.cons <|
      Fields.Commute.cons <| Fields.Commute.cons <| Fields.Commute.cons <| Fields.Commute.cons <|
      Fields.Commute.cons <| Fields.Commute.cons <| Fields.Commute.cons Fields.Commute.nil)
      (by simp) ?_
    rw [Json.canonicalMembers_of_canonical hcanonical]
    exact written ⟨id, stage, status, createdAt, updatedAt, tmpDir, files, metadata, resources⟩

theorem TestEnvironment.decode_canonical (e : TestEnvironment) :
    decodeValue TestEnvironment.read e.toJson.canonical = .ok e :=
  e.decodes_canonical none .value (by simp [JsonText.Depth.Allows])

/-- The word for how a step went. -/
def StepStatus.word : StepStatus → String
  | .done => "ok"
  | .skipped _ => "skipped"
  | .failed _ => "failed"

/-- What is said of a step besides. -/
def StepStatus.detail? : StepStatus → Option String
  | .done => none
  | .skipped reason | .failed reason => some reason

/-- A value lists a step: its name, how it went, and what is said of it besides. -/
structure TeardownStep.ListedIn (s : TeardownStep) (v : Json) : Prop where
  step : v.member? "step" = some (.str s.step)
  status : v.member? "status" = some (.str s.status.word)
  detail : v.member? "detail" = s.status.detail?.map .str

/-- A value lists a report: its identifier, and all its steps in order. -/
structure TeardownReport.ListedIn (r : TeardownReport) (v : Json) : Prop where
  testId : v.member? "testId" = some (.str r.testId)
  steps : ∃ items, v.member? "steps" = some (.arr items) ∧
    List.Forall₂ TeardownStep.ListedIn r.steps items

theorem Json.find?_canonicalMembers (members : List (String × Json)) (key : String) :
    Entries.find? key (canonicalMembers members) = (Entries.find? key members).map canonical := by
  induction members with
  | nil => rfl
  | cons m members ih =>
    obtain ⟨k, v⟩ := m
    by_cases here : k = key <;> simp [canonicalMembers, Entries.find?, here, ih]

/-- Putting members of different keys in order does not change what stands under a key. -/
theorem Json.member?_canonical {members : List (String × Json)}
    (distinct : (members.map Prod.fst).Nodup) (key : String) :
    (Json.obj members).canonical.member? key =
      (Entries.find? key members).map Json.canonical := by
  have hkeys : ((canonicalMembers members).map Prod.fst).Nodup := by
    simpa [canonicalMembers_eq_map, List.map_map, Function.comp_def] using distinct
  show (KeyMap.ofList (canonicalMembers members)).find? key = _
  rw [KeyMap.ofList, KeyMap.find?_insertAll key _ _ hkeys, find?_canonicalMembers,
    KeyMap.find?_empty, Option.or_none]

/-- A step as a value. -/
def TeardownStep.toJson (s : TeardownStep) : Json :=
  .obj (("step", .str s.step) :: s.status.members)

theorem TeardownReport.toJson_eq (r : TeardownReport) :
    r.toJson = .obj [("testId", .str r.testId),
      ("steps", .arr (r.steps.map TeardownStep.toJson))] := rfl

theorem TeardownStep.listedIn_canonical (s : TeardownStep) : s.ListedIn s.toJson.canonical := by
  have distinct : ((("step", Json.str s.step) :: s.status.members).map Prod.fst).Nodup := by
    cases s.status <;> simp [StepStatus.members]
  constructor <;> rw [toJson, Json.member?_canonical distinct] <;> cases s.status <;>
    simp [Entries.find?, StepStatus.members, StepStatus.word, StepStatus.detail?, Json.canonical]

theorem TeardownReport.listedIn_canonical (r : TeardownReport) :
    r.ListedIn r.toJson.canonical := by
  have distinct : ([("testId", Json.str r.testId),
      ("steps", .arr (r.steps.map TeardownStep.toJson))].map Prod.fst).Nodup := by simp
  refine ⟨?_, r.steps.map fun s => s.toJson.canonical, ?_, ?_⟩
  · rw [toJson_eq, Json.member?_canonical distinct]
    rfl
  · rw [toJson_eq, Json.member?_canonical distinct]
    simp [Entries.find?, Json.canonical, Json.canonicalItems_eq_map, Function.comp_def]
  · exact List.forall₂_map_right_iff.2 (List.forall₂_same.2 fun s _ => s.listedIn_canonical)

/-! ### Results -/

theorem Json.levels_ofStringMap_le (m : KeyMap String) : (Json.ofStringMap m).levels ≤ 1 := by
  refine Nat.succ_le_succ (levelsMembers_le_iff.2 fun e he => ?_)
  obtain ⟨x, _, rfl⟩ := List.mem_map.1 he
  exact Nat.le_refl 0

theorem Json.levels_ofStrings_le (ss : List String) : (Json.ofStrings ss).levels ≤ 1 := by
  refine Nat.succ_le_succ (levelsItems_le_iff.2 fun v hv => ?_)
  obtain ⟨x, _, rfl⟩ := List.mem_map.1 hv
  exact Nat.le_refl 0

theorem TestEnvironment.levels_toJson_le (e : TestEnvironment) : e.toJson.levels ≤ 2 := by
  refine Nat.succ_le_succ (Json.levelsMembers_le_iff.2 ?_)
  simp [Json.levels, Json.levels_ofStringMap_le, Json.levels_ofStrings_le]

theorem TeardownStep.whole_toJson (s : TeardownStep) : s.toJson.Whole := by
  refine .obj _ ?_
  cases s.status <;> simp [StepStatus.members, Json.Whole.str]

theorem TeardownReport.whole_toJson (r : TeardownReport) : r.toJson.Whole := by
  have steps : (Json.arr (r.steps.map TeardownStep.toJson)).Whole :=
    .arr _ (List.forall_mem_map.2 fun s _ => s.whole_toJson)
  exact .obj _ (List.forall_mem_cons.2 ⟨.str _, List.forall_mem_singleton.2 steps⟩)

theorem TeardownStep.levels_toJson_le (s : TeardownStep) : s.toJson.levels ≤ 1 := by
  refine Nat.succ_le_succ (Json.levelsMembers_le_iff.2 ?_)
  cases s.status <;> simp [StepStatus.members, Json.levels]

theorem TeardownReport.levels_toJson_le (r : TeardownReport) : r.toJson.levels ≤ 3 := by
  have steps : (Json.arr (r.steps.map TeardownStep.toJson)).levels ≤ 2 :=
    Nat.succ_le_succ (Json.levelsItems_le_iff.2
      (List.forall_mem_map.2 fun s _ => s.levels_toJson_le))
  refine Nat.succ_le_succ (Json.levelsMembers_le_iff.2 ?_)
  exact List.forall_mem_cons.2 ⟨Nat.zero_le _, List.forall_mem_singleton.2 steps⟩

namespace DirectAnswer

/-- What an answer carries besides its text is an object that loses nothing on the wire. -/
theorem structured_eq {a : DirectAnswer} {v : Json} (h : a.result.structured = some v) :
    v.Plain ∧ v.levels ≤ 3 ∧ v ≠ .null := by
  have object : ∀ {members : List (String × Json)}, (Json.obj members).Whole →
      (Json.obj members).levels ≤ 3 → (Json.obj members).canonical.Plain ∧
        (Json.obj members).canonical.levels ≤ 3 ∧ (Json.obj members).canonical ≠ .null :=
    fun whole shallow => ⟨⟨Json.whole_canonical whole, Json.canonical_canonical _⟩,
      (Json.levels_canonical_le _).trans shallow, nofun⟩
  cases a with
  | created answer =>
    cases answer with
    | error err => cases h
    | ok e =>
      cases h
      exact object e.whole_toJson (e.levels_toJson_le.trans (by decide))
  | deleted answer =>
    cases answer with
    | error err => cases h
    | ok r =>
      cases h
      exact object r.whole_toJson r.levels_toJson_le

theorem levels_result_le (a : DirectAnswer) : a.result.toJson.canonical.levels ≤ 4 := by
  have text : ∀ c : Content, c.toJson.levels ≤ 1 := by
    rintro ⟨kind, text⟩
    refine Nat.succ_le_succ (Json.levelsMembers_le_iff.2 ?_)
    cases text <;> simp [optionalMember, Json.levels]
  have content : (Json.arr (a.result.content.map Content.toJson)).levels ≤ 2 :=
    Nat.succ_le_succ (Json.levelsItems_le_iff.2 (List.forall_mem_map.2 fun c _ => text c))
  refine (Json.levels_canonical_le _).trans (Nat.succ_le_succ (Json.levelsMembers_le_iff.2 ?_))
  intro m hm
  simp only [List.cons_append, List.nil_append, List.mem_cons, List.mem_append,
    List.not_mem_nil, or_false, mem_optionalMember] at hm
  rcases hm with rfl | ⟨-, hm⟩ | rfl
  · exact content.trans (by decide)
  · exact (structured_eq hm).2.1
  · exact Nat.zero_le _

/-- What a caller is told is read as it was meant. -/
theorem result_withoutNulls (a : DirectAnswer) : a.result.withoutNulls = a.result := by
  have present : a.result.structured.bind Json.present? = a.result.structured :=
    Json.bind_present?_eq_iff.2 fun null => (structured_eq null).2.2 rfl
  rw [ToolResult.withoutNulls, present]

end DirectAnswer

namespace DirectCall

/-- The reply that tells an answer. -/
def reply (c : DirectCall σ) : Message := .response c.id c.answer.result.toJson.canonical

variable {c : DirectCall σ}

theorem reply_carries (c : DirectCall σ) : c.reply.Carries c.answer.result := by
  refine ⟨_, rfl, ?_⟩
  rw [ToolResult.decode_canonical fun v hv => (DirectAnswer.structured_eq hv).1.canonical,
    DirectAnswer.result_withoutNulls]

/-- On the wire a reply loses nothing, if its number loses nothing. -/
theorem ofLine_reply (plain : c.id.Plain) (said : c.id ≠ .null) (shallow : c.id.levels ≤ 126) :
    Message.ofLine (trim c.reply.line) = .ok c.reply := by
  have hplain : c.reply.Plain := .response plain
    (ToolResult.plain_canonical fun v hv => (DirectAnswer.structured_eq hv).1)
  have hlevels : c.reply.toJson.levels ≤ 127 := Message.levels_response_le shallow
    (c.answer.levels_result_le.trans (by decide))
  have hnulls : c.reply.NullFree :=
    ⟨fun h => said (Option.some.inj h), nofun, nofun, nofun⟩
  rw [Message.ofLine_line hplain hlevels, Message.withoutNulls_eq_iff.2 hnulls]

end DirectCall

/-! ### What replies tell -/

/-- A result tells an answer: it is flagged when the request has failed, and says why; otherwise it
has the environment that is on record now, or the report. -/
structure ToolResult.Tells (r : ToolResult) (v : StoreView σ κ) (c : DirectCall σ) : Prop where
  flagged : r.isError = c.answer.failure.isSome
  words : ∀ err, c.answer.failure = some err → r.text = err.message
  environment : ∀ e, c.answer = .created (.ok e) → ∃ value, r.structured = some value ∧
    decodeValue TestEnvironment.read value = .ok e ∧ v.Shows c.after e.id e
  report : ∀ report, c.answer = .deleted (.ok report) → ∃ value, r.structured = some value ∧
    report.ListedIn value

/-- A reply tells an answer under its number, in its line too. -/
structure Message.Tells (reply : Message) (v : StoreView σ κ) (c : DirectCall σ) : Prop where
  id : reply.id = some c.id
  method : reply.method = none
  error : reply.error = none
  result : ∃ r, reply.Carries r ∧ r.Tells v c
  line : c.id.Plain → c.id ≠ .null → c.id.levels ≤ 126 →
    Message.ofLine (trim reply.line) = .ok reply

section
variable {sv : Services σ} {v : StoreView σ κ}

/-- An environment that is returned is on record. -/
theorem StageOrchestrator.shows_of_create (hp : sv.Promises v) (hr : v.Recalls)
    {o : StageOrchestrator} {stage : String} {e : TestEnvironment} {w w' : World σ}
    (h : o.create sv stage w = (.ok e, w')) : v.Shows w' e.id e := by
  have ended := create_creates sv o stage w
  rw [h] at ended
  cases ended with
  | recorded _ _ _ _ stored =>
    obtain ⟨d, read, -, written⟩ := hp.insert_done stored
    rw [StoreView.Shows, written]
    exact ⟨.epoch, _, hr read rfl, by simp⟩

theorem DirectCall.tells_reply (hp : sv.Promises v) (hr : v.Recalls) {o : StageOrchestrator}
    {w : World σ} (id : Json) (r : RemoteRequest) :
    (DirectCall.reply ⟨id, (o.direct sv w r).1, (o.direct sv w r).2⟩).Tells v
      ⟨id, (o.direct sv w r).1, (o.direct sv w r).2⟩ := by
  refine ⟨rfl, rfl, rfl, ⟨_, reply_carries _, ?_⟩, ofLine_reply⟩
  cases r with
  | create stage =>
    cases done : o.create sv stage w with | mk answer w'
    simp only [StageOrchestrator.direct, done]
    cases answer with
    | error err =>
      refine ⟨rfl, ?_, ?_, ?_⟩ <;> rintro _ ⟨⟩
      exact ToolResult.text_ofOutcome_error err.message
    | ok e =>
      refine ⟨rfl, ?_, ?_, ?_⟩ <;> rintro _ ⟨⟩
      exact ⟨_, rfl, e.decode_canonical, StageOrchestrator.shows_of_create hp hr done⟩
  | delete id =>
    cases done : o.delete sv id w with | mk answer w'
    simp only [StageOrchestrator.direct, done]
    cases answer with
    | error err =>
      refine ⟨rfl, ?_, ?_, ?_⟩ <;> rintro _ ⟨⟩
      exact ToolResult.text_ofOutcome_error err.message
    | ok report =>
      refine ⟨rfl, ?_, ?_, ?_⟩ <;> rintro _ ⟨⟩
      exact ⟨_, rfl, report.listedIn_canonical⟩

/-- Replies that tell direct answers have their numbers. -/
theorem map_id_of_told {told : List (DirectCall σ)} {replies : List Message}
    (h : List.Forall₂ (fun c reply => reply.Tells v c) told replies) :
    replies.map Message.id = told.map fun c => some c.id := by
  induction h with
  | nil => rfl
  | cons first _ ih => rw [List.map_cons, List.map_cons, first.id, ih]

end

/-! ### Serving -/

namespace StageOrchestrator

section
variable (o : StageOrchestrator) (sv : Services σ) (info : ServerInfo)

/-- A tool that has its argument does what is asked. -/
theorem handler_call {r : RemoteRequest} {arguments : Document}
    (given : arguments.str? r.argument = some r.value) (w : World σ) :
    (o.handler sv).call r.tool arguments w =
      ((o.direct sv w r).1.outcome, (o.direct sv w r).2) := by
  cases r with
  | create stage =>
    show o.serveCreate sv arguments w = _
    rw [serveCreate, show arguments.str? "stage" = some stage from given]
    rfl
  | delete id =>
    show o.serveDelete sv arguments w = _
    rw [serveDelete, show arguments.str? "testID" = some id from given]
    rfl

/-- A line that asks for a request is answered with what it comes to. -/
theorem answerLine_asked {c : RemoteCall} {line : String} (solid : blankText line = false)
    (asked : c.AskedOn line) (w : World σ) :
    answerLine (o.handler sv) info line w =
      (some (DirectCall.reply ⟨c.id, (o.direct sv w c.request).1, (o.direct sv w c.request).2⟩),
        (o.direct sv w c.request).2) := by
  obtain ⟨m, read, asks⟩ := asked
  rw [answerLine_read _ info w solid read, reply_of_request _ info w asks.method asks.id]
  simp only [answerRequest, callTool, asks.tool, handler_call o sv asks.argument]
  rfl

/-- Lines that ask for requests are answered with what these come to, one after the other. -/
theorem answerAll_asked (lines : List String) : ∀ {asked : List RemoteCall} (w : World σ),
    List.Forall₂ RemoteCall.AskedOn asked (lines.filter fun line => !blankText line) →
      (answerAll (o.handler sv) info lines w).1.flatten =
        (o.directCalls sv asked w).map DirectCall.reply ∧
      (answerAll (o.handler sv) info lines w).2 = o.directRun sv asked w := by
  induction lines with
  | nil =>
    intro asked w h
    cases h
    exact ⟨rfl, rfl⟩
  | cons line lines ih =>
    intro asked w h
    cases solid : blankText line with
    | true =>
      rw [List.filter_cons_of_neg (by simp [solid])] at h
      rw [answerAll, answerLine_blank _ info w solid]
      exact ih w h
    | false =>
      rw [List.filter_cons_of_pos (by simp [solid])] at h
      cases h with
      | cons first rest =>
        rw [answerAll, answerLine_asked o sv info solid first]
        obtain ⟨replies, left⟩ := ih _ rest
        exact ⟨congrArg (_ :: ·) replies, left⟩

/-- A text whose lines ask for requests is served by making them directly. -/
theorem serve_asked {text : String} {asked : List RemoteCall} (w : World σ)
    (asks : List.Forall₂ RemoteCall.AskedOn asked
      ((inputLines text).filter fun line => !blankText line)) :
    serve (o.handler sv) info (RawText.ofString text) w =
      ⟨(o.directCalls sv asked w).map DirectCall.reply, .ok (), o.directRun sv asked w⟩ := by
  obtain ⟨replies, left⟩ := answerAll_asked o sv info (inputLines text) w asks
  rw [← replies, ← left]
  exact serve_eq _ info text w

theorem directCalls_tell {v : StoreView σ κ} (hp : sv.Promises v) (hr : v.Recalls)
    (asked : List RemoteCall) : ∀ w : World σ,
      List.Forall₂ (fun c reply => reply.Tells v c) (o.directCalls sv asked w)
        ((o.directCalls sv asked w).map DirectCall.reply) := by
  induction asked with
  | nil => exact fun w => .nil
  | cons c rest ih => exact fun w => .cons (DirectCall.tells_reply hp hr c.id c.request) (ih _)

end

/-- Serving a project's tools to lines that ask for requests is making the requests directly, one
after the other: what is left behind is the same, with all calls of engines, and every reply tells
what the direct answer is, whether the request has failed or not. -/
theorem serve_delegates {sv : Services σ} {v : StoreView σ κ} (hp : sv.Promises v)
    (hr : v.Recalls) (o : StageOrchestrator) (info : ServerInfo) {text : String}
    {asked : List RemoteCall} (w : World σ)
    (asks : List.Forall₂ RemoteCall.AskedOn asked
      ((inputLines text).filter fun line => !blankText line)) :
    let served := serve (o.handler sv) info (RawText.ofString text) w
    served.ending = .ok () ∧ served.state = o.directRun sv asked w ∧
      List.Forall₂ (fun c reply => reply.Tells v c) (o.directCalls sv asked w)
        served.replies := by
  intro served
  rw [show served = _ from serve_asked o sv info w asks]
  exact ⟨rfl, rfl, directCalls_tell o sv hp hr asked w⟩

/-- A request that fails in the middle does not stop the one behind it. -/
theorem serve_delegates_failing_between :
    let w := World.opening (fun _ => 0) [] [.ok default, .ok default, .ok default,
      .error (.connect "refused")]
    let asked : List RemoteCall := [⟨.ofNat 1, .create "unit"⟩, ⟨.ofNat 2, .create "nowhere"⟩,
      ⟨.ofNat 3, .delete "test-unit-19700101-00000000"⟩]
    let served := serve (paired.handler .scripted) default
      (RawText.ofString (Message.transcript (asked.map RemoteCall.message))) w
    served.ending = .ok () ∧
      served.state.calls.map EngineCall.tool = ["create", "create", "delete", "delete"] ∧
      served.replies.map Message.id = [some (.ofNat 1), some (.ofNat 2), some (.ofNat 3)] ∧
      (paired.directCalls .scripted asked w).map (·.answer.failure.isSome) =
        [false, true, false] ∧
      List.Forall₂ (fun c reply => reply.Tells StoreView.inMemory c)
        (paired.directCalls .scripted asked w) served.replies := by
  intro w asked
  have numbered : ∀ c ∈ asked, c.Numbered := by
    simp only [asked, List.forall_mem_cons]
    exact ⟨⟨Message.plain_id (by decide), nofun, Nat.zero_le _⟩,
      ⟨Message.plain_id (by decide), nofun, Nat.zero_le _⟩,
      ⟨Message.plain_id (by decide), nofun, Nat.zero_le _⟩, List.forall_mem_nil _⟩
  obtain ⟨ending, left, told⟩ := serve_delegates Services.scripted_keeps.promises
    StoreView.inMemory_recalls paired default w (RemoteCall.asked_transcript numbered)
  refine ⟨ending, ?_, ?_, by decide +kernel, told⟩
  · rw [left]
    decide +kernel
  · rw [map_id_of_told told]
    rfl

end StageOrchestrator

end Orchestration
