import Orchestration.Document
import Orchestration.Json.Print
import Orchestration.Json.Source

/-!
# Messages between the project and its engines

Both sides write one JSON object a line.  A message is a request, a notification or a response,
told apart by the members it has:

* `Message` — the members of a message, with its constructors for each kind;
* `Message.line` — the line of a message; its members stand in a fixed order;
* `Message.ofLine` — reading a line;
* `ToolResult`, `ToolDescriptor` — what a tool call returns, and how a tool is advertised.
-/

namespace Orchestration

variable {τ : Type} [Source τ]

/-! ### Words of the protocol -/

/-- The version that both sides speak. -/
def protocolVersion : String := "2025-06-18"

/-- The version of the program in handshakes. -/
def programVersion : String := "0.1.0"

/-- The argument that asks a program to serve its tools. -/
def serverFlag : String := "--mcp"

/-- The code of an answer to a line that is no message. -/
def parseErrorCode : Int := -32700

/-- The code of an answer to a call without a tool. -/
def invalidParamsCode : Int := -32602

/-- The code of an answer to an unknown method. -/
def methodNotFoundCode : Int := -32601

/-! ### Messages -/

/-- The reason for which a request failed. -/
structure ErrorObject where
  code : Int
  reason : String
  data : Option Json
  deriving Inhabited

/-- A message. -/
structure Message where
  version : String
  id : Option Json
  method : Option String
  params : Option Json
  result : Option Json
  error : Option ErrorObject
  deriving Inhabited

/-- A member that may be left out. -/
def optionalMember (key : String) (value : Option Json) : List (String × Json) :=
  match value with
  | some v => [(key, v)]
  | none => []

namespace ErrorObject

/-- Read the reason of a failure. -/
def read (v : τ) : Decoded ErrorObject :=
  (readRecord "ErrorObject"
    (.required "code" Source.int64 <| .required "message" (Source.text "a string") <|
      .optional "data" Source.json .nil) v).map
  fun (code, reason, data, _) => ⟨code, reason, data⟩

/-- The reason of a failure as a value. -/
def toJson (e : ErrorObject) : Json :=
  .obj <| [("code", Json.ofInt e.code), ("message", .str e.reason)] ++ optionalMember "data" e.data

end ErrorObject

namespace Message

/-- A message without members. -/
def blank : Message := ⟨"2.0", none, none, none, none, none⟩

/-- A request. -/
def request (id : Nat) (method : String) (params : Json) : Message :=
  { blank with id := some (Json.ofNat id), method := some method, params := some params }

/-- A request that wants no response. -/
def notification (method : String) : Message := { blank with method := some method }

/-- A response. -/
def response (id result : Json) : Message :=
  { blank with id := some id, result := some result }

/-- A response to a request that failed. -/
def errorResponse (id : Json) (code : Int) (reason : String) : Message :=
  { blank with id := some id, error := some ⟨code, reason, none⟩ }

/-- Whether the message is the response to a request: requests of the other side may carry the
same number. -/
def isResponseTo (m : Message) (id : Nat) : Bool :=
  m.method.isNone && m.id.bind Json.asNat? == some id

/-- A message as a value, its members in the order of a line. -/
def toJson (m : Message) : Json :=
  .obj <| [("jsonrpc", .str m.version)] ++ optionalMember "id" m.id
    ++ optionalMember "method" (m.method.map .str) ++ optionalMember "params" m.params
    ++ optionalMember "result" m.result ++ optionalMember "error" (m.error.map ErrorObject.toJson)

/-- The line of a message, with its line feed. -/
def line (m : Message) : String := m.toJson.compact ++ "\n"

/-- Read a message. -/
def read (v : τ) : Decoded Message :=
  (readRecord "Message"
    (.required "jsonrpc" (Source.text "a string") <| .optional "id" Source.json <|
      .optional "method" (Source.text "a string") <| .optional "params" Source.json <|
      .optional "result" Source.json <| .optional "error" ErrorObject.read .nil) v).map
  fun (version, id, method, params, result, error, _) =>
    ⟨version, id, method, params, result, error⟩

/-- Read the message that a line is. -/
def ofLine (s : String) : Decoded Message := decodeText read (RawText.ofString s)

end Message

/-! ### Tools -/

/-- A piece of what a tool returns. -/
structure Content where
  kind : String
  text : Option String
  deriving Inhabited

namespace Content

/-- A piece of text. -/
def ofText (text : String) : Content := ⟨"text", some text⟩

/-- Read a piece. -/
def read (v : τ) : Decoded Content :=
  (readRecord "Content"
    (.required "type" (Source.text "a string") <|
      .optional "text" (Source.text "a string") .nil) v).map
  fun (kind, text, _) => ⟨kind, text⟩

/-- A piece as a value. -/
def toJson (c : Content) : Json :=
  .obj <| [("type", .str c.kind)] ++ optionalMember "text" (c.text.map .str)

end Content

/-- What a tool call returns. -/
structure ToolResult where
  content : List Content
  structured : Option Json
  isError : Bool
  deriving Inhabited

namespace ToolResult

/-- The texts of a result, a line each. -/
def text (r : ToolResult) : String := "\n".intercalate (r.content.filterMap Content.text)

/-- Read a result. -/
def read (v : τ) : Decoded ToolResult :=
  (readRecord "ToolCallResult"
    (.defaulted "content" (Source.list Content.read) [] <|
      .optional "structuredContent" Source.json <|
      .defaulted "isError" Source.bool false .nil) v).map
  fun (content, structured, isError, _) => ⟨content, structured, isError⟩

/-- A result as a value. -/
def toJson (r : ToolResult) : Json :=
  .obj <| [("content", .arr (r.content.map Content.toJson))]
    ++ optionalMember "structuredContent" r.structured ++ [("isError", .bool r.isError)]

end ToolResult

/-- How a tool is advertised. -/
structure ToolDescriptor where
  name : String
  description : String
  inputSchema : Json
  deriving Inhabited

namespace ToolDescriptor

/-- Read a descriptor. -/
def read (v : τ) : Decoded ToolDescriptor :=
  (readRecord "ToolDescriptor"
    (.required "name" (Source.text "a string") <|
      .required "description" (Source.text "a string") <|
      .required "inputSchema" Source.json .nil) v).map
  fun (name, description, inputSchema, _) => ⟨name, description, inputSchema⟩

/-- A descriptor as a value. -/
def toJson (d : ToolDescriptor) : Json :=
  .obj [("name", .str d.name), ("description", .str d.description),
    ("inputSchema", d.inputSchema)]

end ToolDescriptor

end Orchestration
