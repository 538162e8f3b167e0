import Orchestration.Decode.Source
import Orchestration.Yaml.Value

/-!
# Documents as a source of records

Any scalar can be read as a text.  A scalar that is not written stands for an empty collection
where one is wanted.  Errors say at which place of the document they lie.

* `DocumentInput` — a node with its place;
* the instance `Source DocumentInput`;
* `decodeDocument` — reading a whole document.
-/

namespace Orchestration.Yaml

/-! ### Parts of a document -/

/-- A node that a record is read from. -/
structure DocumentInput where
  node : Node Nat
  /-- The nodes that references lead to. -/
  table : List (Nat × Node Nat)
  /-- The place of the node, the innermost step first. -/
  place : List PlaceStep
  /-- How many collections may still lie in each other. -/
  depth : Nat
  /-- How many references may be followed. -/
  budget : Nat

namespace DocumentInput

variable {α : Type}

/-- The input with the node that a reference leads to. -/
def followed (input : DocumentInput) : DocumentInput :=
  match input.node with
  | .reference anchor => { input with node := (target? input.table anchor).getD .empty }
  | _ => input

/-- An error at the place of the node. -/
def fail (input : DocumentInput) (fault : DecodeFault) : Decoded α :=
  .error ⟨fault, some input.place⟩

/-- An error without a place takes that of the node. -/
def locate (input : DocumentInput) (r : Decoded α) : Decoded α :=
  r.mapError (DecodeError.located input.place)

/-- What a node is, as messages describe it. -/
def found : Node Nat → Except DecodeFault Found
  | .scalar p style s => (scalarMeaning p.tag style s).map Meaning.found
  | .sequence .. => .ok .sequence
  | .mapping .. => .ok .map
  | .reference _ => .ok .unit

/-- The error of a node that is not what was expected. -/
def unexpected (input : DocumentInput) (expected : String) : Decoded α :=
  match found input.node with
  | .ok f => input.fail (.wrongType f expected)
  | .error fault => input.fail fault

/-- Whether a node is not written. -/
def isUnwritten : Node Nat → Bool
  | .scalar _ style s => style == .plain && s.isEmpty
  | _ => false

/-- The part of a document at a further step. -/
def part (input : DocumentInput) (step : PlaceStep) (n : Node Nat) : DocumentInput :=
  { input with node := n, place := step :: input.place, depth := input.depth - 1 }

/-- The step to the value of a key. -/
def stepOf : Node Nat → PlaceStep
  | .scalar _ _ s => .field s
  | _ => .unknown

/-- Go into a collection, unless it lies too deep. -/
def enter (input : DocumentInput) (r : Decoded α) : Decoded α :=
  if input.depth = 0 then input.fail (.malformed .tooDeep) else input.locate r

/-! ### Scalars -/

/-- A text. -/
def text (expected : String) (input : DocumentInput) : Decoded String :=
  let input := input.followed
  match input.node with
  | .scalar _ _ s => .ok s
  | _ => input.unexpected expected

/-- Whether a scalar can be a number: it has no quotes, or a tag says so. -/
def canBe (kind : String) (p : Properties Nat) (style : ScalarStyle) : Bool :=
  style == .plain || style == .literal && p.tag == some (Tag.common kind)

/-- A boolean. -/
def bool (input : DocumentInput) : Decoded Bool :=
  let input := input.followed
  match input.node with
  | .scalar p style s =>
    match boolean? s, canBe "bool" p style with
    | some b, true => .ok b
    | _, _ => input.unexpected "a boolean"
  | _ => input.unexpected "a boolean"

/-- A natural number of 64 bits. -/
def nat64 (input : DocumentInput) : Decoded Nat :=
  let input := input.followed
  match input.node with
  | .scalar p style s =>
    match unsigned? (Nat.pow 2 64) s.toList, canBe "int" p style with
    | some n, true => .ok n
    | _, _ => input.unexpected "u64"
  | _ => input.unexpected "u64"

/-- An integer of 64 bits. -/
def int64 (input : DocumentInput) : Decoded Int :=
  let input := input.followed
  match input.node with
  | .scalar p style s =>
    let limit := Nat.pow 2 63
    match unsigned? limit s.toList, negative? limit s.toList, canBe "int" p style with
    | some n, _, true => .ok n
    | none, some n, true => .ok n
    | _, _, _ => input.unexpected "i64"
  | _ => input.unexpected "i64"

/-- The node, unless it says that nothing is there. -/
def present? (input : DocumentInput) : Decoded (Option DocumentInput) :=
  let input := input.followed
  match input.node with
  | .scalar ⟨_, none⟩ .plain s =>
    .ok (if s.isEmpty || isNullWord s then none else some input)
  | .scalar ⟨_, some tag⟩ .plain s =>
    if tag = Tag.common "null" then
      if isNullWord s then .ok none
      else .error (DecodeFault.wrongValue (.text s) "null").anywhere
    else .ok (some input)
  | _ => .ok (some input)

/-! ### Collections -/

/-- Read items one after the other, given the number of those before. -/
def readItems (read : DocumentInput → Decoded α) (input : DocumentInput) :
    Nat → List (Node Nat) → Decoded (List α)
  | _, [] => .ok []
  | index, n :: rest => do
    let a ← read (input.part (.item index) n)
    let as ← readItems read input (index + 1) rest
    return a :: as

/-- A list. -/
def list (read : DocumentInput → Decoded α) (input : DocumentInput) : Decoded (List α) :=
  let input := input.followed
  match input.node with
  | .sequence _ items => input.enter (readItems read input 0 items)
  | n => if isUnwritten n then .ok [] else input.unexpected "a sequence"

/-- The text of a key. -/
def keyText (expected : String) (input : DocumentInput) (key : Node Nat) : Decoded String :=
  text expected { input with node := key }

/-- Read members one after the other. -/
def readMembers (expected : String) (read : DocumentInput → Decoded α) (input : DocumentInput) :
    List (Node Nat × Node Nat) → Decoded (List (String × α))
  | [] => .ok []
  | (key, n) :: rest => do
    let k ← input.keyText expected key
    let a ← read (input.part (stepOf key) n)
    let as ← readMembers expected read input rest
    return (k, a) :: as

/-- A map. -/
def entries (read : DocumentInput → Decoded α) (input : DocumentInput) :
    Decoded (List (String × α)) :=
  let input := input.followed
  match input.node with
  | .mapping _ members => input.enter (readMembers "a string" read input members)
  | n => if isUnwritten n then .ok [] else input.unexpected "a map"

/-- A record; it is always a map. -/
def shape (expected : String) (input : DocumentInput) : Decoded (RecordShape DocumentInput) :=
  let input := input.followed
  match input.node with
  | .mapping _ members =>
    input.enter (.ok (.members (members.map fun (key, n) =>
      (input.keyText "field identifier" key, input.part (stepOf key) n)) (.ok ())))
  | n =>
    if isUnwritten n then .ok (.members [] (.ok ())) else input.unexpected expected

/-! ### Names -/

/-- One of the given names. -/
def knownName (known : List String) (name : String) : Decoded String :=
  if known.contains name then .ok name
  else .error (DecodeFault.unknownVariant name known).anywhere

/-- What stands under a tag that is a name: nothing. -/
def noContent (input : DocumentInput) : Decoded Unit :=
  match input.node with
  | .scalar _ style s =>
    if style = .plain && (s.isEmpty || isNullWord s) then .ok ()
    else input.fail (.wrongValue (.text s) "null")
  | _ => input.unexpected "unit"

/-- The name that the tag of a node gives. -/
def nameOf? : Node Nat → Option String
  | .scalar p .. | .sequence p _ | .mapping p _ => p.tag.bind Tag.ownName?
  | .reference _ => none

/-- One of the given names, as a text or as a tag. -/
def nameIn (known : List String) (input : DocumentInput) : Decoded String :=
  match nameOf? input.node, input.node with
  | some name, _ => do
    let name ← knownName known name
    input.noContent
    return name
  | none, .scalar _ _ s => input.locate (knownName known s)
  | none, _ => input.unexpected "a YAML tag starting with '!'"

/-- One of the given names.  That a tag is none of them is said of what is around it, unless a
reference leads to it. -/
def variant (known : List String) (input : DocumentInput) : Decoded String :=
  match input.node with
  | .reference _ => input.locate (nameIn known input.followed)
  | _ => nameIn known input

/-! ### Values -/

/-- A reading of JSON: a node and a budget of references become a value and the budget left. -/
abbrev JsonReading := List PlaceStep → Nat → Node Nat → Decoded (Json × Nat)

/-- Read items as JSON, given the number of those before. -/
def jsonItems (read : JsonReading) (place : List PlaceStep) :
    Nat → Nat → List (Node Nat) → Decoded (List Json × Nat)
  | _, budget, [] => .ok ([], budget)
  | index, budget, n :: rest => do
    let (v, budget) ← read (.item index :: place) budget n
    let (vs, budget) ← jsonItems read place (index + 1) budget rest
    return (v :: vs, budget)

/-- What a key is expected to be: the first one tells what the mapping is. -/
def keyExpectation (first : Bool) : String := if first then "a string key" else "a string"

/-- Read members as JSON. -/
def jsonMembers (key : String → Node Nat → Decoded String) (read : JsonReading)
    (place : List PlaceStep) : Bool → Nat → List (Node Nat × Node Nat) →
      Decoded (List (String × Json) × Nat)
  | _, budget, [] => .ok ([], budget)
  | first, budget, (k, n) :: rest => do
    let name ← key (keyExpectation first) k
    let (v, budget) ← read (stepOf k :: place) budget n
    let (ms, budget) ← jsonMembers key read place false budget rest
    return ((name, v) :: ms, budget)

/-- A meaning as JSON; numbers that JSON has not become null. -/
def jsonMeaning : Meaning → Option Json
  | .null => some .null
  | .bool b => some (.bool b)
  | .int n => some (.ofInt n)
  | .large _ => none
  | .real (.finite d) => some (.num (.real d))
  | .real _ => some .null
  | .text s => some (.str s)

/-- What a value is expected to be. -/
def anyJson : String := "any valid JSON value"

/-- Read a node as JSON. -/
def readJson (table : List (Nat × Node Nat)) : Nat → JsonReading
  | depth, place, budget, n => do
    let refuse {β : Type} (fault : DecodeFault) : Decoded β := .error ⟨fault, some place⟩
    match follow? table budget n with
    | none => refuse (.malformed .tooDeep)
    | some (n, budget) =>
      if (nameOf? n).isSome then refuse (.wrongType .tagged anyJson)
      else match n, depth with
        | .scalar p style s, _ =>
          match scalarMeaning p.tag style s with
          | .error fault => refuse fault
          | .ok m =>
            match jsonMeaning m with
            | some v => return (v, budget)
            | none => refuse (.wrongType m.found anyJson)
        | .sequence _ items, depth + 1 =>
          let (vs, budget) ← jsonItems (readJson table depth) place 0 budget items
          return (.arr vs, budget)
        | .mapping _ members, depth + 1 =>
          let key (expected : String) := keyText expected ⟨n, table, place, 0, 0⟩
          let (ms, budget) ← jsonMembers key (readJson table depth) place true budget members
          return (Json.ofMembers ms, budget)
        | _, _ => refuse (.malformed .tooDeep)

/-- A value of any kind. -/
def json (input : DocumentInput) : Decoded Json :=
  (readJson input.table input.depth input.place input.budget input.node).map (·.1)

end DocumentInput

instance : Source DocumentInput where
  text := DocumentInput.text
  bool := DocumentInput.bool
  nat64 := DocumentInput.nat64
  int64 := DocumentInput.int64
  json := DocumentInput.json
  present? := DocumentInput.present?
  list := DocumentInput.list
  entries := DocumentInput.entries
  variant := DocumentInput.variant
  shape := DocumentInput.shape
  skip _ := .ok ()
  locate := DocumentInput.locate

/-! ### Whole documents -/

/-- Why a text cannot be read as a record. -/
inductive DocumentFault where
  /-- The text is no well-formed document. -/
  | malformed
  | undecodable (error : DecodeError)

/-- Read a record from a text.  What is wrong with the record is said only of well-formed
documents. -/
def decodeDocument {α : Type} (read : DocumentInput → Decoded α) (text : String) :
    Except DocumentFault α :=
  match document? text.toList with
  | none => .error .malformed
  | some tree =>
    match read ⟨tree, tree.anchored, [], maxNesting, followBudget tree.size⟩ with
    | .ok a => .ok a
    | .error e => .error (if isWellFormed tree then .undecodable e else .malformed)

end Orchestration.Yaml
