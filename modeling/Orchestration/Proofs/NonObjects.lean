import Orchestration.Proofs.ArtifactData
import Orchestration.Proofs.Serving
import Orchestration.Proofs.Sessions

/-!
# Lines that are values, but no objects

A message is an object, but its reader also takes a list that has the members of a message in
their order.  Every other value on a line is no message, wherever the line stands:

* `Fields.take_cons_eq_ok` — how a field is read from the items of a list;
* `Message.Listed` — the lists that a message is read from: `listed_of_ofLine`, and
  `ofLine_of_listed` for those without an error;
* `Garbled` — what servers and clients make of a line that is no message;
* `nonObject_garbled_or_listed` — every other value is such a line;
* `listed_ping_answered` — lists that are taken for messages.
-/

namespace Orchestration

/-! ### Records from lists -/

/-- What a field gets from an item: what is read from it, or the field's own value where there is
no item. -/
def Fields.Takes {τ α : Type} (read : τ → Decoded α) (absent : Option α) (a : α) :
    Option τ → Prop
  | some v => read v = .ok a
  | none => absent = some a

/-- A field takes the first item of a list and leaves the others. -/
theorem Fields.take_cons_eq_ok {τ α σ ρ : Type} {name : String} {read : τ → Decoded α}
    {absent : Option α} {more : Fields τ σ ρ} {index : Nat} {expected : String}
    {items left : List τ} {r : α × ρ} :
    (cons name read absent more).take index expected (.ok ()) items = .ok (r, left) ↔
      Takes read absent r.1 items[0]? ∧
        more.take (index + 1) expected (.ok ()) items.tail = .ok (r.2, left) := by
  obtain ⟨a, r⟩ := r
  cases items with
  | cons v rest =>
    constructor
    · intro h
      obtain ⟨b, first, h⟩ := bind_eq_ok.1 h
      obtain ⟨p, later, h⟩ := bind_eq_ok.1 h
      cases h
      exact ⟨first, later⟩
    · rintro ⟨first, later⟩
      exact bind_eq_ok.2 ⟨a, first, bind_eq_ok.2 ⟨(r, left), later, rfl⟩⟩
  | nil =>
    constructor
    · intro h
      obtain ⟨-, -, h⟩ := bind_eq_ok.1 h
      cases absent with
      | none => cases h
      | some b =>
        obtain ⟨p, later, h⟩ := bind_eq_ok.1 h
        cases h
        exact ⟨rfl, later⟩
    · rintro ⟨own, later⟩
      obtain rfl : absent = some a := own
      exact bind_eq_ok.2 ⟨(), rfl, bind_eq_ok.2 ⟨(r, left), later, rfl⟩⟩

/-- Nothing is read for no field. -/
theorem Fields.take_nil {τ : Type} {index : Nat} {expected : String} {items left : List τ}
    {r : Unit} : (nil : Fields τ Unit Unit).take index expected (.ok ()) items = .ok (r, left) ↔
      items = left := by
  simp [nil]

/-- What a reader finds in an item of a list in a text. -/
def JsonText.item (inner : JsonText.Depth) (t : JsonText) : JsonInput := ⟨t, inner, .text⟩

/-- A record is read from a list exactly if its fields take all items. -/
theorem readRecord_list_eq_ok {σ ρ : Type} {name : String} {fields : Fields JsonInput σ ρ}
    {trees : List JsonText} {depth inner : JsonText.Depth} (enter : depth.enter = .ok inner)
    {r : ρ} : readRecord name fields ⟨.arr trees .closed, depth, .text⟩ = .ok r ↔
      fields.take 0 ("struct " ++ name ++ " with " ++ elementsText fields.size) (.ok ())
        (trees.map (JsonText.item inner)) = .ok (r, []) := by
  have shape : Source.shape ("struct " ++ name) (⟨.arr trees .closed, depth, .text⟩ : JsonInput) =
      .ok (.items (trees.map (JsonText.item inner)) (.ok ())
        (JsonInput.surplus .text trees.length .closed)) := by
    show JsonInput.shape _ ⟨.arr trees .closed, depth, .text⟩ = _
    rw [JsonInput.shape, enter]
    rfl
  constructor
  · intro h
    obtain ⟨_, shown, h⟩ := bind_eq_ok.1 (show _ >>= _ = _ from h)
    cases shape.symm.trans shown
    obtain ⟨⟨r', left⟩, taken, h⟩ := bind_eq_ok.1 h
    obtain ⟨⟨⟩, ended, h⟩ := bind_eq_ok.1 (show _ >>= _ = _ from h)
    cases h
    cases left with
    | nil => exact taken
    | cons => cases ended
  · intro taken
    exact bind_eq_ok.2 ⟨_, shape, bind_eq_ok.2 ⟨_, taken, rfl⟩⟩

/-! ### Values in texts -/

namespace JsonText

variable {t : JsonText} {v : Json} {depth : Depth}

theorem jsonItems_eq_ok {trees : List JsonText} {items : List Json} :
    jsonItems depth trees = .ok items ↔
      List.Forall₂ (fun t v => json depth t = .ok v) trees items := by
  induction trees generalizing items with
  | nil =>
    rw [List.forall₂_nil_left_iff, jsonItems, Except.ok.injEq]
    exact eq_comm
  | cons t trees ih =>
    rw [jsonItems, bind_eq_ok, List.forall₂_cons_left_iff]
    refine exists_congr fun v => ?_
    rw [bind_eq_ok]
    constructor
    · rintro ⟨hv, rest, hrest, heq⟩
      exact ⟨rest, hv, ih.1 hrest, (Except.ok.inj heq).symm⟩
    · rintro ⟨rest, hv, hrest, rfl⟩
      exact ⟨hv, rest, ih.2 hrest, rfl⟩

/-- The items of a list and the texts that they stand in come and end together. -/
theorem item_of_jsonItems {trees : List JsonText} {items : List Json}
    (h : jsonItems depth trees = .ok items) (k : Nat) :
    (trees[k]? = none ∧ items[k]? = none) ∨
      ∃ t v, trees[k]? = some t ∧ items[k]? = some v ∧ json depth t = .ok v := by
  have values := jsonItems_eq_ok.1 h
  clear h
  induction values generalizing k with
  | nil => exact .inl ⟨rfl, rfl⟩
  | @cons t v _ _ first _ ih =>
    cases k with
    | zero => exact .inr ⟨t, v, rfl, rfl, first⟩
    | succ k => exact ih k

theorem length_of_jsonItems {trees : List JsonText} {items : List Json}
    (h : jsonItems depth trees = .ok items) : trees.length = items.length :=
  (jsonItems_eq_ok.1 h).length_eq

/-- What stands in a text where a value is read. -/
inductive Holds (depth : Depth) : JsonText → Json → Prop
  | null : Holds depth .null .null
  | bool (b : Bool) : Holds depth (.bool b) (.bool b)
  | num (n : Number) : Holds depth (.num (.ok n)) (.num n)
  | str (s : String) : Holds depth (.str (.ok s)) (.str s)
  | arr {trees : List JsonText} {inner : Depth} {items : List Json}
      (enter : depth.enter = .ok inner) (read : jsonItems inner trees = .ok items) :
      Holds depth (.arr trees .closed) (.arr items)
  | obj (members : List (Except SyntaxFault String × JsonText)) (finish : ObjectEnd)
      (entries : List (String × Json)) : Holds depth (.obj members finish) (.obj entries)

theorem holds_of_json (h : json depth t = .ok v) : Holds depth t v := by
  cases t with
  | null => cases h; exact .null
  | bool b => cases h; exact .bool b
  | num value =>
    obtain ⟨n, rfl, rfl⟩ := map_eq_ok.1 h
    exact .num n
  | str value =>
    obtain ⟨s, rfl, rfl⟩ := map_eq_ok.1 h
    exact .str s
  | arr trees finish =>
    obtain ⟨inner, enter, h⟩ := bind_eq_ok.1 h
    obtain ⟨items, read, h⟩ := bind_eq_ok.1 h
    obtain ⟨⟨⟩, ended, h⟩ := bind_eq_ok.1 h
    cases finish with
    | closed =>
      cases h
      exact .arr enter read
    | _ => cases ended
  | obj members finish =>
    obtain ⟨inner, -, h⟩ := bind_eq_ok.1 h
    obtain ⟨entries, -, h⟩ := bind_eq_ok.1 h
    obtain ⟨-, -, h⟩ := bind_eq_ok.1 h
    cases h
    exact .obj _ _ _
  | broken faults => cases h

end JsonText

/-! ### Single items -/

section
variable {t : JsonText} {v : Json} {depth : JsonText.Depth}

theorem text_eq_ok_iff (h : t.json depth = .ok v) {expected s : String} :
    Source.text expected (⟨t, depth, .text⟩ : JsonInput) = .ok s ↔ v = .str s := by
  show JsonInput.text expected ⟨t, depth, .text⟩ = .ok s ↔ v = .str s
  cases JsonText.holds_of_json h with
  | str s' => simp [JsonInput.text, JsonInput.malformed, Except.mapError]
  | num n => cases n <;> exact iff_of_false (by intro read; cases read) (by simp)
  | _ => exact iff_of_false (by intro read; cases read) (by simp)

/-- An item that may be absent is, if it is null. -/
theorem readOption_eq_ok_iff {α : Type} {read : JsonInput → Decoded α} (h : t.json depth = .ok v)
    {a : Option α} : readOption read ⟨t, depth, .text⟩ = .ok a ↔
      (v.present? = none ∧ a = none) ∨
        (v.present? = some v ∧ ∃ b, read ⟨t, depth, .text⟩ = .ok b ∧ a = some b) := by
  have present : ∀ {b : Option α}, t ≠ .null → (readOption read ⟨t, depth, .text⟩ = .ok b ↔
      ∃ c, read ⟨t, depth, .text⟩ = .ok c ∧ b = some c) := by
    intro b there
    have shown : Source.present? (⟨t, depth, .text⟩ : JsonInput) =
        .ok (some ⟨t, depth, .text⟩) := by
      cases t with
      | null => exact absurd rfl there
      | _ => rfl
    have whole : readOption read ⟨t, depth, .text⟩ =
        read ⟨t, depth, .text⟩ >>= fun c => .ok (some c) := by
      rw [readOption, shown]
      rfl
    rw [whole, bind_eq_ok]
    exact exists_congr fun c => and_congr_right fun _ => by rw [Except.ok.injEq, eq_comm]
  cases JsonText.holds_of_json h with
  | null =>
    have absent : readOption read ⟨.null, depth, .text⟩ = .ok none := rfl
    rw [absent]
    simp [Json.present?, eq_comm]
  | _ =>
    rw [present (by simp)]
    simp [Json.present?]

/-- Records are read from lists and objects. -/
theorem shape_of_readRecord {σ ρ : Type} {name : String} {fields : Fields JsonInput σ ρ} {r : ρ}
    {input : JsonInput} (read : readRecord name fields input = .ok r) :
    (∃ trees finish, input.value = .arr trees finish) ∨
      ∃ members finish, input.value = .obj members finish := by
  obtain ⟨shape, shown, -⟩ := bind_eq_ok.1 (show _ >>= _ = _ from read)
  replace shown : JsonInput.shape _ input = .ok shape := shown
  unfold JsonInput.shape at shown
  split at shown
  · exact .inr ⟨_, _, ‹_›⟩
  · exact .inl ⟨_, _, ‹_›⟩
  · obtain ⟨found, -, thrown⟩ := bind_eq_ok.1 shown
    cases thrown

theorem value_of_readRecord {σ ρ : Type} {name : String} {fields : Fields JsonInput σ ρ} {r : ρ}
    (h : t.json depth = .ok v) (read : readRecord name fields ⟨t, depth, .text⟩ = .ok r) :
    (∃ items, v = .arr items) ∨ ∃ members, v = .obj members := by
  rcases shape_of_readRecord read with ⟨trees, finish, rfl⟩ | ⟨members, finish, rfl⟩
  · cases JsonText.holds_of_json h
    exact .inl ⟨_, rfl⟩
  · cases JsonText.holds_of_json h
    exact .inr ⟨_, rfl⟩

theorem json_read (h : t.json depth = .ok v) :
    Source.json (⟨t, depth, .text⟩ : JsonInput) = .ok v := by
  show JsonInput.malformed (t.json depth) = _
  rw [h]
  rfl

end

/-! ### Messages from lists -/

/-- A list has the members of a message in their order: null and a missing item stand for a member
that the message does not have. -/
structure Message.Listed (m : Message) (items : List Json) : Prop where
  length : items.length ≤ 6
  version : items[0]? = some (.str m.version)
  id : items[1]?.bind Json.present? = m.id
  method : items[2]?.bind Json.present? = m.method.map .str
  params : items[3]?.bind Json.present? = m.params
  result : items[4]?.bind Json.present? = m.result
  error : Option.Rel (fun v _ => (∃ items, v = .arr items) ∨ ∃ members, v = .obj members)
    (items[5]?.bind Json.present?) m.error

section
variable {α : Type} {read : JsonInput → Decoded α} {a : Option α} {P : Json → α → Prop}
  {trees : List JsonText} {items : List Json} {inner : JsonText.Depth}

/-- An item for a member that may be left out is missing or null, or it says what is read. -/
theorem rel_of_takes
    (sound : ∀ {t v b}, JsonText.json inner t = .ok v → read (t.item inner) = .ok b → P v b)
    (values : JsonText.jsonItems inner trees = .ok items) {k : Nat}
    (h : Fields.Takes (readOption read) (some none) a (trees[k]?.map (JsonText.item inner))) :
    Option.Rel P (items[k]?.bind Json.present?) a := by
  rcases JsonText.item_of_jsonItems values k with ⟨noTree, noItem⟩ | ⟨t, v, tree, item, value⟩
  · rw [noTree] at h
    rw [noItem, ← Option.some.inj h]
    exact .none
  · rw [tree] at h
    rw [item, Option.bind_some]
    rcases (readOption_eq_ok_iff value).1 h with ⟨absent, rfl⟩ | ⟨there, b, read, rfl⟩
    · rw [absent]
      exact .none
    · rw [there]
      exact .some (sound value read)

/-- And what it says is read. -/
theorem takes_of_rel
    (complete : ∀ {t v b}, JsonText.json inner t = .ok v → P v b → read (t.item inner) = .ok b)
    (values : JsonText.jsonItems inner trees = .ok items) {k : Nat}
    (h : Option.Rel P (items[k]?.bind Json.present?) a) :
    Fields.Takes (readOption read) (some none) a (trees[k]?.map (JsonText.item inner)) := by
  rcases JsonText.item_of_jsonItems values k with ⟨noTree, noItem⟩ | ⟨t, v, tree, item, value⟩
  · rw [noItem] at h
    rw [noTree]
    cases h
    rfl
  · rw [item, Option.bind_some] at h
    rw [tree]
    refine (readOption_eq_ok_iff value).2 ?_
    cases v with
    | null =>
      cases h
      exact .inl ⟨rfl, rfl⟩
    | _ =>
      cases h with
      | some said => exact .inr ⟨rfl, _, complete value said, rfl⟩

end

theorem optionRel_eq_iff {α β : Type} {f : β → α} {x : Option α} {a : Option β} :
    Option.Rel (fun v b => v = f b) x a ↔ x = a.map f := by
  constructor
  · intro h
    cases h with
    | none => rfl
    | some same => rw [same, Option.map_some]
  · rintro rfl
    cases a with
    | none => exact .none
    | some b => exact .some rfl

namespace Message

variable {trees : List JsonText} {items : List Json} {depth inner : JsonText.Depth} {m : Message}

/-- A message is read from a list of at most six items, member by member. -/
theorem read_list_eq_ok (enter : depth.enter = .ok inner) :
    let item (k : Nat) : Option JsonInput := trees[k]?.map (JsonText.item inner)
    Message.read (⟨.arr trees .closed, depth, .text⟩ : JsonInput) = .ok m ↔
      trees.length ≤ 6 ∧ Fields.Takes (Source.text "a string") none m.version (item 0) ∧
        Fields.Takes (readOption Source.json) (some none) m.id (item 1) ∧
        Fields.Takes (readOption (Source.text "a string")) (some none) m.method (item 2) ∧
        Fields.Takes (readOption Source.json) (some none) m.params (item 3) ∧
        Fields.Takes (readOption Source.json) (some none) m.result (item 4) ∧
        Fields.Takes (readOption ErrorObject.read) (some none) m.error (item 5) := by
  intro item
  have behind : (trees.map (JsonText.item inner)).tail.tail.tail.tail.tail.tail = [] ↔
      trees.length ≤ 6 := by
    simp only [← List.drop_one, List.drop_drop, List.drop_eq_nil_iff, List.length_map]
  rw [Message.read, map_eq_ok]
  simp only [readRecord_list_eq_ok enter, Fields.required, Fields.optional,
    Fields.take_cons_eq_ok, Fields.take_nil, List.getElem?_tail, List.getElem?_map, behind]
  constructor
  · rintro ⟨⟨version, id, method, params, result, error, ⟨⟩⟩, taken, rfl⟩
    obtain ⟨h₀, h₁, h₂, h₃, h₄, h₅, short⟩ := taken
    exact ⟨short, h₀, h₁, h₂, h₃, h₄, h₅⟩
  · rintro ⟨short, h₀, h₁, h₂, h₃, h₄, h₅⟩
    exact ⟨(m.version, m.id, m.method, m.params, m.result, m.error, ()),
      ⟨h₀, h₁, h₂, h₃, h₄, h₅, short⟩, rfl⟩

/-- The first item is the version. -/
theorem takes_version_iff
    (values : JsonText.jsonItems inner trees = .ok items) :
    Fields.Takes (Source.text "a string") none m.version (trees[0]?.map (JsonText.item inner)) ↔
      items[0]? = some (.str m.version) := by
  rcases JsonText.item_of_jsonItems values 0 with ⟨noTree, noItem⟩ | ⟨t, v, tree, item, value⟩
  · rw [noTree, noItem]
    exact iff_of_false nofun nofun
  · rw [tree, item, Option.some.injEq]
    exact text_eq_ok_iff value

theorem takes_json_iff
    (values : JsonText.jsonItems inner trees = .ok items) {k : Nat}
    {a : Option Json} :
    Fields.Takes (readOption Source.json) (some none) a (trees[k]?.map (JsonText.item inner)) ↔
      items[k]?.bind Json.present? = a := by
  have same : Option.Rel (fun v b => v = b) (items[k]?.bind Json.present?) a ↔
      items[k]?.bind Json.present? = a := by
    simpa using optionRel_eq_iff (f := fun b : Json => b)
  rw [← same]
  refine ⟨rel_of_takes (fun value read => ?_) values, takes_of_rel (fun value said => ?_) values⟩
  · exact Except.ok.inj ((json_read value).symm.trans read)
  · exact said ▸ json_read value

theorem takes_text_iff
    (values : JsonText.jsonItems inner trees = .ok items) {k : Nat}
    {a : Option String} :
    Fields.Takes (readOption (Source.text "a string")) (some none) a
      (trees[k]?.map (JsonText.item inner)) ↔ items[k]?.bind Json.present? = a.map .str := by
  rw [← optionRel_eq_iff]
  exact ⟨rel_of_takes (fun value => (text_eq_ok_iff value).1) values,
    takes_of_rel (fun value => (text_eq_ok_iff value).2) values⟩

theorem listed_of_read (enter : depth.enter = .ok inner)
    (values : JsonText.jsonItems inner trees = .ok items)
    (read : Message.read (⟨.arr trees .closed, depth, .text⟩ : JsonInput) = .ok m) :
    m.Listed items := by
  obtain ⟨short, version, id, method, params, result, error⟩ := (read_list_eq_ok enter).1 read
  refine ⟨JsonText.length_of_jsonItems values ▸ short, (takes_version_iff values).1 version,
    (takes_json_iff values).1 id, (takes_text_iff values).1 method,
    (takes_json_iff values).1 params, (takes_json_iff values).1 result,
    rel_of_takes (fun value read => ?_) values error⟩
  obtain ⟨record, read, -⟩ := map_eq_ok.1 read
  exact value_of_readRecord value read

theorem read_of_listed (enter : depth.enter = .ok inner)
    (values : JsonText.jsonItems inner trees = .ok items)
    (listed : m.Listed items) (plain : m.error = none) :
    Message.read (⟨.arr trees .closed, depth, .text⟩ : JsonInput) = .ok m := by
  refine (read_list_eq_ok enter).2 ⟨JsonText.length_of_jsonItems values ▸ listed.length,
    (takes_version_iff values).2 listed.version, (takes_json_iff values).2 listed.id,
    (takes_text_iff values).2 listed.method, (takes_json_iff values).2 listed.params,
    (takes_json_iff values).2 listed.result, ?_⟩
  have absent : Option.Rel (fun _ _ => False) (items[5]?.bind Json.present?) m.error := by
    have said := listed.error
    rw [plain] at said ⊢
    generalize items[5]?.bind Json.present? = found at said ⊢
    cases said
    exact .none
  exact takes_of_rel (fun _ said => said.elim) values absent

/-! ### Lines -/

variable {t : String} {v : Json}

/-- A line that is a value as a whole is read as that value is. -/
theorem ofLine_of_parse (parsed : Json.parse (RawText.ofString t) = .ok v) :
    ∃ tree, tree.json JsonText.maxDepth = .ok v ∧ ∀ m, Message.ofLine t = .ok m ↔
      Message.read (⟨tree, JsonText.maxDepth, .text⟩ : JsonInput) = .ok m := by
  rcases whole : JsonText.ofRaw (RawText.ofString t) with ⟨tree, rest⟩
  rw [Json.parse, whole] at parsed
  obtain ⟨v', value, parsed⟩ := bind_eq_ok.1 parsed
  obtain ⟨⟨⟩, ended, parsed⟩ := bind_eq_ok.1 parsed
  cases parsed
  refine ⟨tree, value, fun m => ?_⟩
  rw [Message.ofLine, decodeText, whole]
  constructor
  · intro read
    obtain ⟨m', read, later⟩ := bind_eq_ok.1 read
    obtain ⟨⟨⟩, -, same⟩ := bind_eq_ok.1 later
    cases same
    exact read
  · intro read
    refine bind_eq_ok.2 ⟨m, read, bind_eq_ok.2 ⟨(), ?_, rfl⟩⟩
    rw [ended]
    rfl

/-- A value that is read as a message without being an object is a list with the message's
members. -/
theorem listed_of_ofLine (parsed : Json.parse (RawText.ofString t) = .ok v)
    (unnamed : ∀ members, v ≠ .obj members) (read : Message.ofLine t = .ok m) :
    ∃ items, v = .arr items ∧ m.Listed items := by
  obtain ⟨tree, value, reads⟩ := ofLine_of_parse parsed
  have read := (reads m).1 read
  have record := read
  obtain ⟨_, record, -⟩ := map_eq_ok.1 record
  rcases value_of_readRecord value record with ⟨items, rfl⟩ | ⟨members, rfl⟩
  · cases JsonText.holds_of_json value with
    | arr enter values => exact ⟨items, rfl, listed_of_read enter values read⟩
  · exact absurd rfl (unnamed members)

/-- A list with the members of a message that has no error is read as that message. -/
theorem ofLine_of_listed {items : List Json}
    (parsed : Json.parse (RawText.ofString t) = .ok (.arr items)) (listed : m.Listed items)
    (plain : m.error = none) : Message.ofLine t = .ok m := by
  obtain ⟨tree, value, reads⟩ := ofLine_of_parse parsed
  cases JsonText.holds_of_json value with
  | arr enter values => exact (reads m).2 (read_of_listed enter values listed plain)

end Message

/-! ### Lines that are no messages -/

/-- A client that waits for a response comes to a line: it is complete, and every line before it is
passed over. -/
def EngineOutput.Reaches (o : EngineOutput) (id : Nat) (line : RawText) : Prop :=
  ∃ before after, o.text.linesKeepingEnds = before ++ line :: after ∧
    (∀ l ∈ before, PassedOver id l) ∧ o.Complete line

/-- What both sides make of a line that is no message, wherever it stands.  A server answers it
with an error and goes on with the tools as they were.  A client that comes to it gives up: the
connection has failed if it waited for the greeting, and otherwise the protocol is broken. -/
structure Garbled (line : RawText) (text reason : String) : Prop where
  answered : ∀ {η : Type} (h : ToolHandler η) (info : ServerInfo) (s : η)
    {input : RawText} {before after : List RawText},
    input.linesKeepingEnds = before ++ line :: after →
    (serveLines h info before s).ending = .ok () →
      let earlier := serveLines h info before s
      let later := serveLines h info after earlier.state
      serve h info input s =
        { later with replies :=
            earlier.replies ++ [.errorResponse .null (-32700) reason] ++ later.replies }
  ungreeted : ∀ {ε : Type} (c : ClientConfig) (peer : Peer ε) (tool : String)
    (arguments : Document) (s : ε), (c.helloOutput peer s).Reaches initializeId line →
      let session := c.session peer tool arguments s
      session.sent = [initializeRequest c.name] ∧
        session.outcome = .error (.handshake (badFrame reason text).message)
  uncalled : ∀ {ε : Type} (c : ClientConfig) (peer : Peer ε) (tool : String)
    (arguments : Document) (s : ε) {left : List RawText}, (c.helloOutput peer s).Greets left →
    (c.callOutput peer tool arguments s left).Reaches callId line →
      (c.session peer tool arguments s).outcome = .error (badFrame reason text)

section
variable {line : RawText} {text : String}

theorem awaitResponse_of_reaches {o : EngineOutput} {id : Nat} {e : RpcError}
    (reached : o.Reaches id line) (refused : readFrame id line = .error e) :
    awaitResponse id o = .failed e := by
  obtain ⟨before, after, lines, passed, complete⟩ := reached
  have ended : ∀ l ∈ before, endsLine l = true := fun l mem =>
    ((RawText.isLine_of_linesKeepingEnds _ lines).1 l mem).endsLine
  rw [awaitResponse, lines, awaitIn_all_passed passed fun l mem => .inl (ended l mem),
    awaitIn_cons complete, refused]

/-- A line that cannot be read is garbled. -/
theorem garbled_of_unread {e : DecodeError} (chars : line.strict? = .ok text)
    (solid : blankText text = false) (unread : Message.ofLine (trim text) = .error e) :
    Garbled line (trim text) e.message := by
  have refused : ∀ id, readFrame id line = .error (badFrame e.message (trim text)) := by
    intro id
    simp only [readFrame, chars, solid, unread, Bool.false_eq_true, if_false]
  refine ⟨?_, ?_, ?_⟩
  · intro η h info s input before after lines ending
    have answer (s : η) : serveLines h info (line :: after) s =
        let later := serveLines h info after s
        { later with replies :=
            .errorResponse .null parseErrorCode e.message :: later.replies } := by
      rw [serveLines, chars]
      simp only [answerLine_garbled h info s solid unread]
      rfl
    intro earlier later
    rw [serve, lines, serveLines_append h info before _ s ending]
    dsimp only
    rw [answer, List.append_assoc]
    rfl
  · intro ε c peer tool arguments s reached
    have failed := awaitResponse_of_reaches reached (refused _)
    have refusal : c.greeted (awaitResponse initializeId (c.helloOutput peer s)) =
        .error (.handshake (badFrame e.message (trim text)).message) := by
      rw [failed]
      rfl
    rw [ClientConfig.session_of_refused tool arguments refusal]
    exact ⟨rfl, rfl⟩
  · intro ε c peer tool arguments s left greets reached
    rw [ClientConfig.session_of_greeted greets, awaitResponse_of_reaches reached (refused _),
      ClientConfig.called]

theorem solid_of_parse {v : Json} (parsed : Json.parse (RawText.ofString (trim text)) = .ok v) :
    blankText text = false := by
  refine Bool.eq_false_iff.2 fun blank => ?_
  have nothing : trim text = "" := by
    rw [trim, (trimmed_eq_nil_iff _).2 blank]
  rw [nothing] at parsed
  cases parsed

/-- A line that is a value but no object is garbled, or it is a list that is read as the message
whose members it has in their order. -/
theorem nonObject_garbled_or_listed {v : Json} (chars : line.strict? = .ok text)
    (parsed : Json.parse (RawText.ofString (trim text)) = .ok v)
    (unnamed : ∀ members, v ≠ .obj members) :
    (∃ reason, Garbled line (trim text) reason) ∨
      ∃ items m, v = .arr items ∧ Message.Listed m items ∧
        Message.ofLine (trim text) = .ok m := by
  cases read : Message.ofLine (trim text) with
  | error e => exact .inl ⟨_, garbled_of_unread chars (solid_of_parse parsed) read⟩
  | ok m =>
    obtain ⟨items, list, listed⟩ := Message.listed_of_ofLine parsed unnamed read
    exact .inr ⟨items, m, list, listed, rfl⟩

end

/-- A list that is written on one line is read back. -/
theorem parse_compact_list {items : List Json} (plain : ∀ v ∈ items, v.Plain)
    (shallow : (Json.arr items).levels ≤ 127) {s : String} (text : s = (Json.arr items).compact) :
    Json.parse (RawText.ofString s) = .ok (.arr items) :=
  Json.IsText.parse_eq ⟨⟨.arr _ fun v mem => (plain v mem).whole,
    .arr _ fun v mem => (plain v mem).canonical⟩, shallow, .inl text⟩

/-- A list of numbers is garbled. -/
theorem nonObject_garbled_or_listed_numbers :
    ∃ reason, Garbled (RawText.ofString "[1,2]\n") (trim "[1,2]\n") reason := by
  have trims : trim "[1,2]\n" = "[1,2]" := by decide +kernel
  have parsed : Json.parse (RawText.ofString (trim "[1,2]\n")) =
      .ok (.arr [.ofNat 1, .ofNat 2]) := by
    rw [trims]
    refine parse_compact_list (List.forall_mem_cons.2 ⟨?_, List.forall_mem_singleton.2 ?_⟩)
      (by decide) (by decide +kernel)
    · exact Message.plain_id (by decide)
    · exact Message.plain_id (by decide)
  rcases nonObject_garbled_or_listed (RawText.ofString_strict? _) parsed nofun with
    garbled | ⟨_, m, ⟨⟩, listed, -⟩
  · exact garbled
  · cases listed.version

/-- A list that has the members of a request is answered as that request, and one that has those
of a response greets a client. -/
theorem listed_ping_answered :
    let silent : ToolHandler Unit := ⟨[], fun _ _ s => (.error "", s)⟩
    let ping := "[\"2.0\",1,\"ping\"]"
    let served := serve silent default (RawText.ofString (ping ++ "\n")) ()
    let hello := "[\"2.0\",1,null,null,true]"
    let c : ClientConfig := ⟨600000, 30000, "stagehand"⟩
    let output := RawText.ofString (hello ++ "\n")
    let session := c.session (.ofOutput ⟨output, true⟩) "create" .empty output
    Json.parse (RawText.ofString ping) = .ok (.arr [.str "2.0", .ofNat 1, .str "ping"]) ∧
      served.replies.map (fun reply => (reply.id.bind Json.asNat?, reply.error.isSome)) =
        [(some 1, false)] ∧
      Json.parse (RawText.ofString hello) =
        .ok (.arr [.str "2.0", .ofNat 1, .null, .null, .bool true]) ∧
      session.sent.length = 3 := by
  intro silent ping served hello c output session
  have one : (Json.ofNat 1).Plain := Message.plain_id (by decide)
  refine ⟨parse_compact_list ?_ (by decide) (by decide +kernel), by decide +kernel,
    parse_compact_list ?_ (by decide) (by decide +kernel), by decide +kernel⟩
  · simp only [List.forall_mem_cons]
    exact ⟨.str _, one, .str _, List.forall_mem_nil _⟩
  · simp only [List.forall_mem_cons]
    exact ⟨.str _, one, ⟨.null, .null⟩, ⟨.null, .null⟩, ⟨.bool _, .bool _⟩, List.forall_mem_nil _⟩

end Orchestration
