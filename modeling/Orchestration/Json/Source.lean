import Orchestration.Decode.Source
import Orchestration.Json.Text

/-!
# JSON as a source of records

A record is read from a text or from a value.  The two differ in three points: a text may only
be so deep, and they disagree about superfluous items and about the forms of a name:

* `JsonInput` — what is read, and where it comes from;
* the instance `Source JsonInput`;
* `decodeText` and `decodeValue` — reading a whole text, and a value.
-/

namespace Orchestration

/-- Where JSON data comes from. -/
inductive JsonOrigin where
  | text
  | value
  deriving DecidableEq, Repr

/-- JSON data that a record is read from. -/
structure JsonInput where
  value : JsonText
  depth : JsonText.Depth
  origin : JsonOrigin

namespace JsonInput

/-- A syntax fault as an error. -/
def malformed {α : Type} (r : Except SyntaxFault α) : Decoded α :=
  r.mapError fun f => (DecodeFault.malformed f).anywhere

/-- The error of a value that is not what was expected. -/
def unexpected {α : Type} (v : JsonText) (expected : String) : Decoded α := do
  let found ← malformed v.found?
  throw (DecodeFault.wrongType found expected).anywhere

/-- A part of the data, one level deeper. -/
def part (input : JsonInput) (depth : JsonText.Depth) (v : JsonText) : JsonInput :=
  { input with value := v, depth }

/-- A string. -/
def text (expected : String) (input : JsonInput) : Decoded String :=
  match input.value with
  | .str s => malformed s
  | v => unexpected v expected

/-- A boolean. -/
def bool (input : JsonInput) : Decoded Bool :=
  match input.value with
  | .bool b => .ok b
  | v => unexpected v "a boolean"

/-- A natural number of 64 bits. -/
def nat64 (input : JsonInput) : Decoded Nat :=
  match input.value with
  | .num (.ok (.int n _)) =>
    if 0 ≤ n then .ok n.toNat else .error (DecodeFault.wrongValue (.int n) "u64").anywhere
  | v => unexpected v "u64"

/-- An integer of 64 bits. -/
def int64 (input : JsonInput) : Decoded Int :=
  match input.value with
  | .num (.ok (.int n _)) =>
    if n < 9223372036854775808 then .ok n
    else .error (DecodeFault.wrongValue (.int n) "i64").anywhere
  | v => unexpected v "i64"

/-- Read items one after the other. -/
def readAll {α : Type} (read : JsonText → Decoded α) : List JsonText → Decoded (List α)
  | [] => .ok []
  | v :: rest => do
    let a ← read v
    let as ← readAll read rest
    return a :: as

/-- A list. -/
def list {α : Type} (read : JsonInput → Decoded α) (input : JsonInput) : Decoded (List α) :=
  match input.value with
  | .arr items finish => do
    let depth ← malformed input.depth.enter
    let as ← readAll (fun v => read (input.part depth v)) items
    malformed (JsonText.wantListEnd finish)
    return as
  | v => unexpected v "a sequence"

/-- Read members one after the other. -/
def readMembers {α : Type} (read : JsonText → Decoded α) :
    List (Except SyntaxFault String × JsonText) → Decoded (List (String × α))
  | [] => .ok []
  | (key, v) :: rest => do
    let k ← malformed key
    let a ← read v
    let as ← readMembers read rest
    return (k, a) :: as

/-- The members of an object. -/
def entries {α : Type} (read : JsonInput → Decoded α) (input : JsonInput) :
    Decoded (List (String × α)) :=
  match input.value with
  | .obj members finish => do
    let depth ← malformed input.depth.enter
    let as ← readMembers (fun v => read (input.part depth v)) members
    malformed (JsonText.wantObjectEnd finish)
    return as
  | v => unexpected v "a map"

/-- The name, if it is a known one. -/
def knownName (known : List String) (name : String) : Decoded String :=
  if known.contains name then .ok name
  else .error (DecodeFault.unknownVariant name known).anywhere

/-- A name has no content: only null may stand with it. -/
def noContent (v : JsonText) : Decoded Unit :=
  match v with
  | .null => .ok ()
  | v => unexpected v "unit"

/-- A name in a text: a string, or an object whose one member has the name as its key. -/
def variantOfText (known : List String) (depth : JsonText.Depth) (v : JsonText) :
    Decoded String :=
  let refuse {α : Type} (f : SyntaxFault) : Decoded α := malformed (.error f)
  match v with
  | .str s => do knownName known (← malformed s)
  | .obj members finish => do
    let _ ← malformed depth.enter
    match members, finish with
    | (key, content) :: more, finish =>
      let name ← knownName known (← malformed key)
      noContent content
      match more, finish with
      | [], .closed => return name
      | [], .atEnd => refuse .endInObject
      | _, _ => refuse .noValue
    | [], .notAKey found =>
      let found ← malformed found
      throw (DecodeFault.wrongType found "variant identifier").anywhere
    | [], .brokenKey faults => refuse faults.wanted
    | [], .atEnd => refuse .endInValue
    | [], _ => refuse .noValue
  | .broken faults => refuse faults.asName
  | _ => refuse .noValue

/-- A name in a value: a string, or an object whose one member has the name as its key. -/
def variantOfValue (known : List String) (v : JsonText) : Decoded String :=
  match v with
  | .str s => do knownName known (← malformed s)
  | .obj [(key, content)] _ => do
    let name ← knownName known (← malformed key)
    noContent content
    return name
  | .obj _ _ => .error (DecodeFault.wrongValue .map "map with a single key").anywhere
  | v => unexpected v "string or map"

/-- One of the given names. -/
def variant (known : List String) (input : JsonInput) : Decoded String :=
  match input.origin with
  | .text => variantOfText known input.depth input.value
  | .value => variantOfValue known input.value

/-- What is wrong with items that no field takes. -/
def surplus (origin : JsonOrigin) (total : Nat) (finish : ListEnd) (left : List JsonInput) :
    Decoded Unit :=
  match origin, left, finish with
  | .value, [], _ => .ok ()
  | .value, _ :: _, _ =>
    .error (DecodeFault.wrongLength total "fewer elements in array").anywhere
  | .text, _ :: _, _ => malformed (.error .trailingText)
  | .text, [], .closed => .ok ()
  | .text, [], .atEnd => malformed (.error .endInList)
  | .text, [], .noComma => malformed (.error .trailingText)
  | .text, [], .trailingComma => malformed (.error .trailingComma)

/-- A record, as an object or as a list. -/
def shape (expected : String) (input : JsonInput) : Decoded (RecordShape JsonInput) :=
  match input.value with
  | .obj members finish => do
    let depth ← malformed input.depth.enter
    return .members (members.map fun (key, v) => (malformed key, input.part depth v))
      (malformed (JsonText.wantObjectEnd finish))
  | .arr items finish => do
    let depth ← malformed input.depth.enter
    return .items (items.map (input.part depth)) (malformed (JsonText.wantListEnd finish))
      (surplus input.origin items.length finish)
  | v => unexpected v expected

/-- The data, unless it is null. -/
def present? (input : JsonInput) : Decoded (Option JsonInput) :=
  match input.value with
  | .null => .ok none
  | _ => .ok (some input)

end JsonInput

instance : Source JsonInput where
  text := JsonInput.text
  bool := JsonInput.bool
  nat64 := JsonInput.nat64
  int64 := JsonInput.int64
  json input := JsonInput.malformed (input.value.json input.depth)
  present? := JsonInput.present?
  list := JsonInput.list
  entries := JsonInput.entries
  variant := JsonInput.variant
  shape := JsonInput.shape
  skip input := JsonInput.malformed input.value.skip
  locate _ r := r

/-- Read a record from a whole text. -/
def decodeText {α : Type} (read : JsonInput → Decoded α) (t : RawText) : Decoded α := do
  let (value, rest) := JsonText.ofRaw t
  let a ← read ⟨value, JsonText.maxDepth, .text⟩
  JsonInput.malformed (JsonText.finish rest)
  return a

/-- Read a record from a value. -/
def decodeValue {α : Type} (read : JsonInput → Decoded α) (v : Json) : Decoded α :=
  read ⟨JsonText.ofJson v, none, .value⟩

end Orchestration
