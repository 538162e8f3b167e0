import Orchestration.Rpc.Error
import Orchestration.Rpc.Message
import Orchestration.Text.Blank

/-!
# Calling a tool of an engine

A session with an engine is a greeting and one call.  The client waits for the response to each
request in turn and passes over everything else that the engine says.

* `EngineOutput` — what an engine has said, and whether it can say more;
* `awaitResponse` — the response to a request in that output;
* `Peer` — an engine as the client sees it: lines in, output out;
* `ClientConfig` — the limits of a session;
* `ClientConfig.session` — the whole session, with the messages that were sent.
-/

namespace Orchestration

variable {ε : Type}

/-! ### Waiting for a response -/

/-- What an engine has said and the client has not read. -/
structure EngineOutput where
  text : RawText
  /-- Whether nothing more can come.  Otherwise waiting at the end of the text runs into the
  time limit. -/
  closed : Bool

/-- What waiting for a response comes to. -/
inductive Awaited where
  /-- The response, and what was said after it. -/
  | response (m : Message) (left : List RawText)
  | failed (e : RpcError)
  /-- Nothing in time. -/
  | late

/-- The reason why a line of an engine cannot be read. -/
def badFrame (reason line : String) : RpcError :=
  .protocol ("invalid frame from engine: " ++ reason ++ ": " ++ line)

/-- The end of the output while a request is unanswered. -/
def outputEnded (id : Nat) : RpcError :=
  .protocol ("engine closed its output before answering request " ++ toString id)

/-- What a line means to a client that waits: nothing, a response, or a failure. -/
def readFrame (id : Nat) (line : RawText) : Except RpcError (Option Message) :=
  match line.strict? with
  | .error fault => .error (.io (.described fault.message))
  | .ok line =>
    if blankText line then .ok none
    else match Message.ofLine (trim line) with
      | .error e => .error (badFrame e.message (trim line))
      | .ok m => .ok (if m.isResponseTo id then some m else none)

/-- Whether a line is complete. -/
def endsLine (line : RawText) : Bool := line.getLast? == some (.char '\n')

/-- Wait for the response to a request in lines of which the last may be incomplete. -/
def awaitIn (id : Nat) (closed : Bool) : List RawText → Awaited
  | [] => if closed then .failed (outputEnded id) else .late
  | line :: rest =>
    if endsLine line || closed then
      match readFrame id line with
      | .error e => .failed e
      | .ok (some m) => .response m rest
      | .ok none => awaitIn id closed rest
    else .late

/-- Wait for the response to a request. -/
def awaitResponse (id : Nat) (o : EngineOutput) : Awaited :=
  awaitIn id o.closed o.text.linesKeepingEnds

/-! ### Engines -/

/-- An engine as the client sees it. -/
structure Peer (ε : Type) where
  /-- What the engine says when it receives a line, until it waits for the next. -/
  receive : String → ε → RawText × ε
  /-- Whether the engine can say nothing more. -/
  closed : ε → Bool

/-- An engine that says the same whatever it receives, as soon as it receives something. -/
def Peer.ofOutput (o : EngineOutput) : Peer RawText where
  receive _ left := (left, [])
  closed _ := o.closed

/-! ### Requests -/

/-- The number of the first request. -/
def initializeId : Nat := 1

/-- The number of the second request. -/
def callId : Nat := 2

/-- The request that begins a session. -/
def initializeRequest (client : String) : Message :=
  .request initializeId "initialize" <|
    Json.ofMembers [("protocolVersion", .str protocolVersion), ("capabilities", .obj []),
      ("clientInfo", .obj [("name", .str client), ("version", .str programVersion)])]

/-- What the client says once it has been greeted. -/
def initializedNotice : Message := .notification "notifications/initialized"

/-- The request that calls a tool. -/
def callRequest (tool : String) (arguments : Document) : Message :=
  .request callId "tools/call" <|
    Json.ofMembers [("name", .str tool), ("arguments", Document.toJson arguments)]

/-! ### Sessions -/

/-- The limits of sessions, in milliseconds, and the name under which the client calls. -/
structure ClientConfig where
  callTimeout : Nat
  handshakeTimeout : Nat
  name : String
  deriving DecidableEq

/-- A session that has ended: what was sent, and what came of it. -/
structure Session (ε : Type) where
  sent : List Message
  outcome : Except RpcError ToolResult
  state : ε

/-- Why a response to the first request refuses the session. -/
def refusal (e : ErrorObject) : RpcError :=
  .protocol ("initialize rejected (" ++ toString e.code ++ "): " ++ e.reason)

/-- The result that a response to a call carries. -/
def resultOf (tool : String) (m : Message) : Except RpcError ToolResult :=
  match m.error with
  | some e => .error (.engine tool e.reason)
  | none =>
    match m.result with
    | none => .error (.protocol ("response to " ++ tool ++ " has neither result nor error"))
    | some v => (decodeValue ToolResult.read v).mapError fun e => .protocol e.message

/-- A result that is not flagged as a failure. -/
def unflagged (tool : String) (r : ToolResult) : Except RpcError ToolResult :=
  if r.isError then
    .error (.engine tool
      (if r.text.isEmpty then "engine reported an error without details" else r.text))
  else .ok r

namespace ClientConfig

/-- What comes of waiting for the greeting: the lines after it. -/
def greeted (c : ClientConfig) : Awaited → Except RpcError (List RawText)
  | .late =>
    .error (.handshake ("no initialize response within " ++ secondsText c.handshakeTimeout))
  | .failed e => .error (.handshake e.message)
  | .response m left =>
    match m.error with
    | some e => .error (.handshake (refusal e).message)
    | none => .ok left

/-- What comes of waiting for the result of a call. -/
def called (c : ClientConfig) (tool : String) : Awaited → Except RpcError ToolResult
  | .late => .error (.timeout tool c.callTimeout)
  | .failed e => .error e
  | .response m _ => (resultOf tool m).bind (unflagged tool)

/-- A session: the greeting, and one call. -/
def session (c : ClientConfig) (peer : Peer ε) (tool : String) (arguments : Document) (s : ε) :
    Session ε :=
  let hello := initializeRequest c.name
  let (said, s) := peer.receive hello.line s
  match c.greeted (awaitResponse initializeId ⟨said, peer.closed s⟩) with
  | .error e => ⟨[hello], .error e, s⟩
  | .ok left =>
    let call := callRequest tool arguments
    let (more, s) := peer.receive initializedNotice.line s
    let (last, s) := peer.receive call.line s
    let outcome :=
      c.called tool (awaitResponse callId ⟨left.flatten ++ more ++ last, peer.closed s⟩)
    ⟨[hello, initializedNotice, call], outcome, s⟩

end ClientConfig

end Orchestration
