import Orchestration.Rpc.Error
import Orchestration.Rpc.Message
import Orchestration.Text.Blank

/-!
# Serving tools

A server reads one message a line and answers every request.  What is no request is passed over,
and what is no message is answered with an error, so a bad line never ends a session; only a line
that is no text does.

* `ToolHandler` — the tools that are served, acting on a state of their own;
* `Message.reply` — the answer to a message, if it is a request;
* `answerLine` — the answer to a line;
* `serve` — the answers to all lines of an input;
* `serveLines_append` — earlier answers do not depend on later lines.
-/

namespace Orchestration

variable {η : Type}

/-! ### Tools -/

/-- The name and the version that a server gives of itself. -/
structure ServerInfo where
  name : String
  version : String
  deriving DecidableEq, Inhabited

/-- What a tool returns when it succeeds. -/
structure ToolOutput where
  text : String
  structured : Option Json
  deriving Inhabited

/-- Tools that act on a state; a failure is told in words. -/
structure ToolHandler (η : Type) where
  tools : List ToolDescriptor
  call : String → Document → η → Except String ToolOutput × η

/-- What a caller is told of a tool's outcome. -/
def ToolResult.ofOutcome : Except String ToolOutput → ToolResult
  | .ok output => ⟨[Content.ofText output.text], output.structured, false⟩
  | .error reason => ⟨[Content.ofText reason], none, true⟩

/-! ### Requests -/

/-- What a server says of itself at the beginning of a session. -/
def ServerInfo.greeting (info : ServerInfo) : Json :=
  Json.ofMembers [("protocolVersion", .str protocolVersion),
    ("capabilities", .obj [("tools", .obj [])]),
    ("serverInfo", .obj [("name", .str info.name), ("version", .str info.version)])]

/-- The parameters of a request; anything but an object counts as empty. -/
def Message.paramsDocument (m : Message) : Document :=
  (m.params.bind Document.ofJson?).getD .empty

/-- The answer to a call of a tool. -/
def callTool (h : ToolHandler η) (id : Json) (params : Document) (s : η) : Message × η :=
  match Document.str? params "name" with
  | none => (.errorResponse id invalidParamsCode "tools/call requires a tool name", s)
  | some name =>
    let (outcome, s) := h.call name ((Document.document? params "arguments").getD .empty) s
    (.response id (ToolResult.ofOutcome outcome).toJson.canonical, s)

/-- The answer to a request. -/
def answerRequest (h : ToolHandler η) (info : ServerInfo) (m : Message) (method : String)
    (id : Json) (s : η) : Message × η :=
  match method with
  | "initialize" => (.response id info.greeting, s)
  | "ping" => (.response id (.obj []), s)
  | "tools/list" =>
    (.response id (Json.obj [("tools", .arr (h.tools.map ToolDescriptor.toJson))]).canonical, s)
  | "tools/call" => callTool h id m.paramsDocument s
  | other => (.errorResponse id methodNotFoundCode ("method not found: " ++ other), s)

/-- The answer to a message; only requests have one. -/
def Message.reply (h : ToolHandler η) (info : ServerInfo) (m : Message) (s : η) :
    Option Message × η :=
  match m.method, m.id with
  | some method, some id =>
    let (answer, s) := answerRequest h info m method id s
    (some answer, s)
  | _, _ => (none, s)

/-! ### Lines -/

/-- The answer to a line. -/
def answerLine (h : ToolHandler η) (info : ServerInfo) (line : String) (s : η) :
    Option Message × η :=
  if blankText line then (none, s)
  else match Message.ofLine (trim line) with
    | .ok m => m.reply h info s
    | .error e => (some (.errorResponse .null parseErrorCode e.message), s)

/-- A session that has ended: what was answered, and how it ended. -/
structure Served (η : Type) where
  replies : List Message
  ending : Except RpcError Unit
  state : η

/-- Answer lines in order. -/
def serveLines (h : ToolHandler η) (info : ServerInfo) : List RawText → η → Served η
  | [], s => ⟨[], .ok (), s⟩
  | line :: rest, s =>
    match line.strict? with
    | .error fault => ⟨[], .error (.io (.described fault.message)), s⟩
    | .ok line =>
      let (reply, s) := answerLine h info line s
      let later := serveLines h info rest s
      { later with replies := reply.toList ++ later.replies }

/-- Answer the lines of an input until it ends. -/
def serve (h : ToolHandler η) (info : ServerInfo) (input : RawText) (s : η) : Served η :=
  serveLines h info input.linesKeepingEnds s

/-- The answers to lines are followed by those to the lines after them. -/
theorem serveLines_append (h : ToolHandler η) (info : ServerInfo) (first second : List RawText)
    (s : η) (ok : (serveLines h info first s).ending = .ok ()) :
    serveLines h info (first ++ second) s =
      let a := serveLines h info first s
      let b := serveLines h info second a.state
      { b with replies := a.replies ++ b.replies } := by
  induction first generalizing s with
  | nil => rfl
  | cons line rest ih =>
    simp only [List.cons_append, serveLines] at ok ⊢
    split at ok
    · simp at ok
    · next text _ => simp [ih _ ok, List.append_assoc]

end Orchestration
