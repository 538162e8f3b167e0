import Orchestration.Decode.Source

/-!
# Documents: data that engines and the project exchange without a schema

A document is a map from names to JSON values.  Reading fails closed: a value of another kind
than the one asked for counts as absent.

* `Document` — the maps, with `Document.ofJson?` and `Document.toJson`;
* `str?`, `bool?`, `nat?`, `document?`, `stringMap?`, `stringList?` — reading one member;
* `ofStrings` — a map of strings as a document;
* `stringMap?_ofStrings` — such a map is read back as it was.
-/

namespace Orchestration

/-- A map from names to values. -/
abbrev Document := KeyMap Json

namespace Document

/-- The document that a value is, if it is an object. -/
def ofJson? : Json → Option Document
  | .obj members => some (KeyMap.ofList members)
  | _ => none

/-- A document as a value. -/
def toJson (d : Document) : Json := Json.ofMap d

@[simp] theorem ofJson?_toJson (d : Document) : ofJson? d.toJson = some d := by
  simp [ofJson?, toJson, Json.ofMap]

/-- The string under a key. -/
def str? (d : Document) (key : String) : Option String := (d.find? key).bind Json.asString?

/-- The boolean under a key. -/
def bool? (d : Document) (key : String) : Option Bool := (d.find? key).bind Json.asBool?

/-- The natural number under a key. -/
def nat? (d : Document) (key : String) : Option Nat := (d.find? key).bind Json.asNat?

/-- The document under a key. -/
def document? (d : Document) (key : String) : Option Document := (d.find? key).bind ofJson?

/-- The strings of the document under a key; members of other kinds are left out. -/
def stringMap? (d : Document) (key : String) : Option (KeyMap String) :=
  (d.document? key).map (KeyMap.filterMap Json.asString?)

/-- The strings of the list under a key; items of other kinds are left out. -/
def stringList? (d : Document) (key : String) : Option (List String) :=
  match d.find? key with
  | some (.arr items) => some (items.filterMap Json.asString?)
  | _ => none

/-- A map of strings as a document. -/
def ofStrings (m : KeyMap String) : Document := m.map .str

@[simp] theorem filterMap_ofStrings (m : KeyMap String) :
    KeyMap.filterMap Json.asString? (ofStrings m) = m := by
  cases m with
  | mk entries ordered =>
    have entriesBack : (entries.map fun e => (e.1, Json.str e.2)).filterMap
        (fun e => (Json.asString? e.2).map fun s => (e.1, s)) = entries := by
      rw [List.filterMap_map]
      exact List.filterMap_some
    simp only [KeyMap.filterMap, ofStrings, KeyMap.map, entriesBack]

theorem stringMap?_ofStrings (d : Document) (key : String) (m : KeyMap String) :
    stringMap? (d.insert key (ofStrings m).toJson) key = some m := by
  simp [stringMap?, document?]

variable {τ : Type} [Source τ]

/-- Read a document. -/
def read (v : τ) : Decoded Document := readMap Source.json v

end Document

end Orchestration
