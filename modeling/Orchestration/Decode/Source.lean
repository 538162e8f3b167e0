import Orchestration.Decode.Fault
import Orchestration.Json.Value

/-!
# Sources of records

Records are read from JSON texts, from JSON values and from documents of the configuration.
What these have in common is a `Source`; a record says once which fields it has, and is then
read from every source:

* `Source` — the kinds of data that can be asked for;
* `Fields` — the fields of a record, in the order of their declaration;
* `readRecord` — reading a record: unknown fields are passed over, a field may come once, and
  what is missing is noticed at the end; some sources also give records as lists;
* `readOption`, `readMap` — a value that may be absent, and a map from names.
-/

namespace Orchestration

/-- The result of reading data. -/
abbrev Decoded (α : Type) := Except DecodeError α

/-- Data that stands where a record is wanted. -/
inductive RecordShape (τ : Type) where
  /-- Named fields, and what is wrong with their end. -/
  | members (fields : List (Decoded String × τ)) (finish : Decoded Unit)
  /-- Fields in order, what is wrong with the end of them, and what is wrong with items that no
  field takes. -/
  | items (fields : List τ) (finish : Decoded Unit) (surplus : List τ → Decoded Unit)

/-- Data that records can be read from.  An expectation is the text that a message gives. -/
class Source (τ : Type) where
  text : (expected : String) → τ → Decoded String
  bool : τ → Decoded Bool
  nat64 : τ → Decoded Nat
  int64 : τ → Decoded Int
  json : τ → Decoded Json
  /-- The data, unless it stands for an absent value. -/
  present? : τ → Decoded (Option τ)
  list : {α : Type} → (τ → Decoded α) → τ → Decoded (List α)
  entries : {α : Type} → (τ → Decoded α) → τ → Decoded (List (String × α))
  /-- One of the given names. -/
  variant : (known : List String) → τ → Decoded String
  shape : (expected : String) → τ → Decoded (RecordShape τ)
  skip : τ → Decoded Unit
  /-- Say of an error that it concerns this data, if it does not say so itself. -/
  locate : {α : Type} → τ → Decoded α → Decoded α

variable {τ : Type} [Source τ] {α σ ρ : Type}

/-- A value that may be absent. -/
def readOption (read : τ → Decoded α) (v : τ) : Decoded (Option α) :=
  do match ← Source.present? v with
    | none => return none
    | some v => return some (← read v)

/-- A map from names. -/
def readMap (read : τ → Decoded α) (v : τ) : Decoded (KeyMap α) :=
  (Source.entries read v).map KeyMap.ofList

/-! ### Fields -/

/-- The fields of a record: `σ` holds what has been read so far, `ρ` all of it. -/
structure Fields (τ σ ρ : Type) where
  size : Nat
  start : σ
  /-- How a field is read into its slot; `none` for an unknown name. -/
  put? : String → Option (τ → σ → Decoded σ)
  /-- The record when nothing more comes. -/
  finish : σ → Decoded ρ
  /-- Read from items, given the number of items before, what the record is called, and what is
  wrong with the end of the items. -/
  take : Nat → String → Decoded Unit → List τ → Decoded (ρ × List τ)

namespace Fields

/-- No field. -/
def nil : Fields τ Unit Unit where
  size := 0
  start := ()
  put? _ := none
  finish _ := .ok ()
  take _ _ _ items := .ok ((), items)

/-- One more field in front; `absent` is its value when it does not come. -/
def cons (name : String) (read : τ → Decoded α) (absent : Option α) (more : Fields τ σ ρ) :
    Fields τ (Option α × σ) (α × ρ) where
  size := more.size + 1
  start := (none, more.start)
  put? key :=
    if key = name then
      some fun v slots =>
        match slots.1 with
        | some _ => .error (DecodeFault.duplicateField name).anywhere
        | none => (read v).map fun a => (some a, slots.2)
    else (more.put? key).map fun put v slots => (put v slots.2).map fun s => (slots.1, s)
  finish slots :=
    match slots.1.or absent with
    | none => .error (DecodeFault.missingField name).anywhere
    | some a => (more.finish slots.2).map fun r => (a, r)
  take index expected finish items :=
    match items with
    | v :: rest => do
      let a ← read v
      let (r, left) ← more.take (index + 1) expected finish rest
      return ((a, r), left)
    | [] => do
      finish
      match absent with
      | none => throw (DecodeFault.wrongLength index expected).anywhere
      | some a =>
        let (r, left) ← more.take (index + 1) expected finish []
        return ((a, r), left)

/-- A field that must come. -/
def required (name : String) (read : τ → Decoded α) (more : Fields τ σ ρ) :
    Fields τ (Option α × σ) (α × ρ) :=
  cons name read none more

/-- A field that has a value of its own when it does not come. -/
def defaulted (name : String) (read : τ → Decoded α) (value : α) (more : Fields τ σ ρ) :
    Fields τ (Option α × σ) (α × ρ) :=
  cons name read (some value) more

/-- A field that may be left out, or say that it is absent. -/
def optional (name : String) (read : τ → Decoded α) (more : Fields τ σ ρ) :
    Fields τ (Option (Option α) × σ) (Option α × ρ) :=
  cons name (readOption read) (some none) more

/-- Read named fields one after the other. -/
def putAll (fields : Fields τ σ ρ) : List (Decoded String × τ) → σ → Decoded σ
  | [], slots => .ok slots
  | (key, v) :: rest, slots => do
    let key ← key
    match fields.put? key with
    | some put => putAll fields rest (← put v slots)
    | none =>
      Source.skip v
      putAll fields rest slots

end Fields

/-- How many elements a record has. -/
def elementsText (size : Nat) : String :=
  toString size ++ (if size = 1 then " element" else " elements")

/-- Read a record of the given name. -/
def readRecord (name : String) (fields : Fields τ σ ρ) (v : τ) : Decoded ρ :=
  Source.locate v do
    let expected := "struct " ++ name
    match ← Source.shape expected v with
    | .members members finish =>
      let slots ← fields.putAll members fields.start
      finish
      fields.finish slots
    | .items items finish surplus =>
      let (record, left) ←
        fields.take 0 (expected ++ " with " ++ elementsText fields.size) finish items
      surplus left
      return record

end Orchestration
