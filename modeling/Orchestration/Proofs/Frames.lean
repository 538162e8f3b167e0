import Orchestration.Proofs.Lines
import Orchestration.Proofs.Values

/-!
# A message and its line

What one side of a session writes, the other side reads: a message takes exactly one line, and
that line is read as the message, except that a member that says null is not there any more.

* `Message.Plain` — messages whose values lose nothing in a text, one lemma for each kind;
* `Message.withoutNulls` — a message as its reader sees it;
* `Message.decodes` — a message is read from the value that is written for it;
* `Message.isLine_line` — what is written is one line;
* `Message.ofLine_line` — and it is read as that message;
* `ToolResult.decode_canonical` — what a tool returned is read from a response.
-/

namespace Orchestration

/-! ### Members that may be left out -/

theorem mem_optionalMember {key : String} {value : Option Json} {m : String × Json} :
    m ∈ optionalMember key value ↔ m.1 = key ∧ value = some m.2 := by
  cases value with
  | none => simp [optionalMember]
  | some v =>
    obtain ⟨k, w⟩ := m
    simp [optionalMember, eq_comm]

/-- A member that may be left out is not named otherwise. -/
theorem optionalMember_ne {key name : String} (h : key ≠ name) {value : Option Json}
    {members : List (String × Json)} (hmembers : ∀ m ∈ members, m.1 ≠ name) :
    ∀ m ∈ optionalMember key value ++ members, m.1 ≠ name := by
  intro m hm
  rcases List.mem_append.1 hm with hm | hm
  · rw [(mem_optionalMember.1 hm).1]
    exact h
  · exact hmembers m hm

/-- A field is read from its member, or is absent without one. -/
theorem Fields.Written.optionalMember {α σ ρ : Type} {name : String}
    {read : JsonInput → Decoded α} {more : Fields JsonInput σ ρ} {levels : Nat}
    {value : Option Json} {found : Option α} {members : List (String × Json)} {r : ρ}
    (hread : ∀ v, value = some v → Decodes (readOption read) levels v found)
    (hnone : value = none → found = none) (hother : ∀ m ∈ members, m.1 ≠ name)
    (hmore : more.Written levels members r) :
    (Fields.optional name read more).Written levels
      (Orchestration.optionalMember name value ++ members) (found, r) := by
  cases value with
  | none =>
    rw [hnone rfl]
    exact .absent hother hmore
  | some v => exact .present (hread v rfl) hother hmore

theorem decodes_string (expected s : String) : Decodes (Source.text expected) 0 (.str s) s :=
  fun _ _ _ => rfl

theorem decodes_bool (b : Bool) : Decodes Source.bool 0 (.bool b) b := fun _ _ _ => rfl

/-- The integers that are kept as signed numbers of 64 bits. -/
def FitsSigned64 (n : Int) : Prop := -9223372036854775808 ≤ n ∧ n < 9223372036854775808

theorem FitsSigned64.inRange {n : Int} (h : FitsSigned64 n) : IntegerRange n :=
  ⟨h.1, Int.lt_trans h.2 (by decide)⟩

theorem decodes_int {n : Int} (h : FitsSigned64 n) : Decodes Source.int64 0 (Json.ofInt n) n := by
  intro depth origin _
  rw [Json.ofInt, Number.ofInt_of_range h.inRange]
  exact if_pos h.2

/-! ### Plain messages -/

namespace ErrorObject

/-- The reason of a failure as its reader sees it. -/
def withoutNulls (e : ErrorObject) : ErrorObject := { e with data := e.data.bind Json.present? }

theorem decodes {e : ErrorObject} (hcode : FitsSigned64 e.code)
    (hdata : ∀ v, e.data = some v → v.Canonical) {levels : Nat}
    (hlevels : e.toJson.levels ≤ levels + 1) :
    Decodes ErrorObject.read (levels + 1) e.toJson e.withoutNulls := by
  obtain ⟨code, reason, data⟩ := e
  have hdeep : ∀ m ∈ [("code", Json.ofInt code), ("message", .str reason)] ++
      optionalMember "data" data, m.2.levels ≤ levels :=
    Json.levelsMembers_le_iff.1 (Nat.le_of_succ_le_succ hlevels)
  refine Decodes.record (r := (code, reason, data.bind Json.present?, ())) _ ?_
  refine .present ((decodes_int hcode).mono (Nat.zero_le _)) ?_
    (.present ((decodes_string _ reason).mono (Nat.zero_le _)) ?_ ?_)
  · simpa using optionalMember_ne (by decide) (List.forall_mem_nil _)
  · simpa using optionalMember_ne (by decide) (List.forall_mem_nil _)
  · rw [← List.append_nil (optionalMember "data" data)]
    refine .optionalMember ?_ (by rintro rfl; rfl) (List.forall_mem_nil _) .nil
    rintro v rfl
    exact decodes_present (hdata v rfl) (hdeep ("data", v) (by simp [optionalMember]))

end ErrorObject

namespace Message

/-- A message whose line loses nothing: its values are plain, and the code of its error is a
number of 64 bits. -/
structure Plain (m : Message) : Prop where
  id : ∀ v, m.id = some v → v.Plain
  params : ∀ v, m.params = some v → v.Plain
  result : ∀ v, m.result = some v → v.Plain
  data : ∀ e, m.error = some e → ∀ v, e.data = some v → v.Plain
  code : ∀ e, m.error = some e → FitsSigned64 e.code

theorem plain_id {n : Nat} (h : n < 9223372036854775808) : (Json.ofNat n).Plain := by
  have hrange : IntegerRange n := ⟨by omega, by omega⟩
  rw [Json.ofNat, Number.ofNat, Number.ofInt_of_range hrange]
  exact ⟨.int _ _, .num _⟩

theorem Plain.request {n : Nat} (hn : n < 9223372036854775808) (method : String) {params : Json}
    (h : params.Plain) : (Message.request n method params).Plain where
  id v hv := by
    cases hv
    exact plain_id hn
  params v hv := by
    cases hv
    exact h
  result v hv := by cases hv
  data e he := by cases he
  code e he := by cases he

theorem Plain.notification (method : String) : (Message.notification method).Plain where
  id v hv := by cases hv
  params v hv := by cases hv
  result v hv := by cases hv
  data e he := by cases he
  code e he := by cases he

theorem Plain.response {id result : Json} (hid : id.Plain) (h : result.Plain) :
    (Message.response id result).Plain where
  id v hv := by
    cases hv
    exact hid
  params v hv := by cases hv
  result v hv := by
    cases hv
    exact h
  data e he := by cases he
  code e he := by cases he

/-- A message as its reader sees it: what says null is not there. -/
def withoutNulls (m : Message) : Message :=
  { m with
    id := m.id.bind Json.present?
    params := m.params.bind Json.present?
    result := m.result.bind Json.present?
    error := m.error.map ErrorObject.withoutNulls }

/-- A response is one to its own request. -/
theorem isResponseTo_response {n : Nat} (h : n < 9223372036854775808) (result : Json) :
    (response (Json.ofNat n) result).withoutNulls.isResponseTo n = true := by
  have hrange : IntegerRange n := ⟨by omega, by omega⟩
  simp [isResponseTo, withoutNulls, response, blank, Json.ofNat, Number.ofNat,
    Number.ofInt_of_range hrange, Json.present?, Json.asNat?]

/-- The members of a message. -/
def members (m : Message) : List (String × Json) :=
  ("jsonrpc", .str m.version) :: (optionalMember "id" m.id ++
    (optionalMember "method" (m.method.map .str) ++ (optionalMember "params" m.params ++
      (optionalMember "result" m.result ++
        (optionalMember "error" (m.error.map ErrorObject.toJson) ++ [])))))

theorem toJson_eq (m : Message) : m.toJson = .obj m.members := by
  simp [toJson, members]

/-- A message is read from the value that is written for it. -/
theorem decodes {m : Message} (h : m.Plain) {levels : Nat}
    (hlevels : m.toJson.levels ≤ levels + 1) :
    Decodes Message.read (levels + 1) m.toJson m.withoutNulls := by
  rw [toJson_eq] at hlevels ⊢
  have hdeep : ∀ e ∈ m.members, e.2.levels ≤ levels :=
    Json.levelsMembers_le_iff.1 (Nat.le_of_succ_le_succ hlevels)
  obtain ⟨version, id, method, params, result, error⟩ := m
  refine Decodes.record (r := (version, id.bind Json.present?, method, params.bind Json.present?,
    result.bind Json.present?, error.map ErrorObject.withoutNulls, ())) _ ?_
  refine .present ((decodes_string _ version).mono (Nat.zero_le _)) ?_ <|
    .optionalMember ?_ (by rintro rfl; rfl) ?_ <| .optionalMember ?_ ?_ ?_ <|
    .optionalMember ?_ (by rintro rfl; rfl) ?_ <| .optionalMember ?_ (by rintro rfl; rfl) ?_ <|
    .optionalMember ?_ ?_ (List.forall_mem_nil _) .nil
  · exact optionalMember_ne (by decide) <| optionalMember_ne (by decide) <|
      optionalMember_ne (by decide) <| optionalMember_ne (by decide) <|
      optionalMember_ne (by decide) (List.forall_mem_nil _)
  · rintro v rfl
    exact decodes_present (h.id v rfl).canonical
      (hdeep ("id", v) (by simp [members, optionalMember]))
  · exact optionalMember_ne (by decide) <| optionalMember_ne (by decide) <|
      optionalMember_ne (by decide) <| optionalMember_ne (by decide) (List.forall_mem_nil _)
  · intro v hv
    obtain ⟨s, rfl, rfl⟩ := Option.map_eq_some_iff.1 hv
    exact .option (by simp) ((decodes_string _ s).mono (Nat.zero_le _))
  · exact Option.map_eq_none_iff.1
  · exact optionalMember_ne (by decide) <| optionalMember_ne (by decide) <|
      optionalMember_ne (by decide) (List.forall_mem_nil _)
  · rintro v rfl
    exact decodes_present (h.params v rfl).canonical
      (hdeep ("params", v) (by simp [members, mem_optionalMember]))
  · exact optionalMember_ne (by decide) <| optionalMember_ne (by decide) (List.forall_mem_nil _)
  · rintro v rfl
    exact decodes_present (h.result v rfl).canonical
      (hdeep ("result", v) (by simp [members, mem_optionalMember]))
  · exact optionalMember_ne (by decide) (List.forall_mem_nil _)
  · intro v hv
    obtain ⟨e, rfl, rfl⟩ := Option.map_eq_some_iff.1 hv
    have he : e.toJson.levels ≤ levels :=
      hdeep ("error", e.toJson) (by simp [members, mem_optionalMember])
    obtain ⟨levels, rfl⟩ : ∃ n, levels = n + 1 := ⟨levels - 1, by
      have hobject : 1 ≤ e.toJson.levels := Nat.succ_le_succ (Nat.zero_le _)
      omega⟩
    exact .option (by simp [ErrorObject.toJson])
      (ErrorObject.decodes (h.code e rfl) (fun v hv => (h.data e rfl v hv).canonical) he)
  · intro hnone
    obtain rfl : error = none := Option.map_eq_none_iff.1 hnone
    rfl

end Message

/-! ### One line -/

theorem newline_not_mem_escapeChar (c : Char) : '\n' ∉ Json.escapeChar c := by
  rcases escapeChar_cases c with ⟨e, he, -, hsimple⟩ | ⟨-, he⟩ | ⟨-, -, hlow, he⟩
  · have hne : '\n' ≠ e := by
      rintro rfl
      cases hsimple
    rw [he]
    simp [hne]
  · have hdigit : ∀ n < 16, '\n' ≠ hexDigit n := by decide
    rw [he, hexPadded_four]
    simp [hdigit, Nat.mod_lt]
  · have hne : '\n' ≠ c := by
      rintro rfl
      exact hlow (by decide)
    rw [he]
    simp [hne]

theorem newline_not_mem_stringChars (s : String) : '\n' ∉ Json.stringChars s := by
  simp [Json.stringChars, newline_not_mem_escapeChar]

theorem newline_not_mem_int (n : Int) (h : IntegerRange n) :
    '\n' ∉ (Number.int n h).text.toList := by
  intro hmem
  have hglyph : Glyph.char '\n' ∈ (Number.int n h).text.toList.map Glyph.char :=
    List.mem_map_of_mem hmem
  have hdigit : ∀ d < 10, decimalDigit d ≠ '\n' := by decide
  have hdigits : Glyph.char '\n' ∉ decimalGlyphs n.natAbs := by
    intro hin
    obtain ⟨c, hc, hchar⟩ := List.mem_map.1 hin
    obtain ⟨d, hd, rfl⟩ := List.mem_map.1 hc
    exact hdigit d (decimals_lt _ d hd) (Glyph.char.inj hchar)
  rw [JsonText.int_text] at hglyph
  split at hglyph
  · exact hdigits hglyph
  · rcases List.mem_cons.1 hglyph with hsign | hin
    · cases hsign
    · exact hdigits hin

mutual

/-- A value on one line has no line feed inside. -/
theorem newline_not_mem_compactChars : ∀ {v : Json}, v.Whole → '\n' ∉ v.compactChars
  | .null, _ | .bool true, _ | .bool false, _ => by decide
  | .num (.int n h), _ => newline_not_mem_int n h
  | .num (.real _), h => nomatch h
  | .str s, _ => newline_not_mem_stringChars s
  | .arr items, h => by
    cases h with
    | arr _ hitems => simp [Json.compactChars, newline_not_mem_compactItems hitems]
  | .obj members, h => by
    cases h with
    | obj _ hmembers => simp [Json.compactChars, newline_not_mem_compactMembers hmembers]

theorem newline_not_mem_compactItems : ∀ {items : List Json}, (∀ v ∈ items, v.Whole) →
    '\n' ∉ Json.compactItems items
  | [], _ => List.not_mem_nil
  | [v], h => newline_not_mem_compactChars (h v List.mem_cons_self)
  | v :: w :: rest, h => by
    obtain ⟨hv, hrest⟩ := List.forall_mem_cons.1 h
    simp [Json.compactItems, newline_not_mem_compactChars hv, newline_not_mem_compactItems hrest]

theorem newline_not_mem_compactMembers : ∀ {members : List (String × Json)},
    (∀ m ∈ members, m.2.Whole) → '\n' ∉ Json.compactMembers members
  | [], _ => List.not_mem_nil
  | [(k, v)], h => by
    simp [Json.compactMembers, newline_not_mem_stringChars,
      newline_not_mem_compactChars (h (k, v) List.mem_cons_self)]
  | (k, v) :: m :: rest, h => by
    obtain ⟨hv, hrest⟩ := List.forall_mem_cons.1 h
    simp [Json.compactMembers, newline_not_mem_stringChars, newline_not_mem_compactChars hv,
      newline_not_mem_compactMembers hrest]

end

/-! ### Messages on lines -/

theorem ErrorObject.whole_toJson {e : ErrorObject} (hcode : FitsSigned64 e.code)
    (hdata : ∀ v, e.data = some v → v.Whole) : e.toJson.Whole := by
  refine .obj _ fun m hm => ?_
  simp only [List.cons_append, List.nil_append, List.mem_cons, mem_optionalMember] at hm
  rcases hm with rfl | rfl | ⟨-, hm⟩
  · rw [Json.ofInt, Number.ofInt_of_range hcode.inRange]
    exact .int _ _
  · exact .str _
  · exact hdata _ hm

namespace Message

theorem whole_toJson {m : Message} (h : m.Plain) : m.toJson.Whole := by
  rw [toJson_eq]
  refine .obj _ fun e he => ?_
  simp only [members, List.append_nil, List.mem_cons, List.mem_append, mem_optionalMember,
    Option.map_eq_some_iff] at he
  rcases he with rfl | ⟨-, he⟩ | ⟨-, s, -, he⟩ | ⟨-, he⟩ | ⟨-, he⟩ | ⟨-, error, herror, he⟩
  · exact .str _
  · exact (h.id _ he).whole
  · exact he ▸ .str s
  · exact (h.params _ he).whole
  · exact (h.result _ he).whole
  · exact he ▸ ErrorObject.whole_toJson (h.code error herror) fun v hv =>
      (h.data error herror v hv).whole

/-- What a message is written as lies between its braces. -/
theorem line_toList (m : Message) :
    m.line.toList = '\x7b' :: (Json.compactMembers m.members ++ ['\x7d']) ++ ['\n'] := by
  simp [line, toJson_eq, Json.compact, Json.compactChars]

/-- A message is written on one line. -/
theorem isLine_line {m : Message} (h : m.Plain) : (RawText.ofString m.line).IsLine := by
  refine ⟨m.toJson.compactChars.map .char, ?_, ?_⟩
  · simp [RawText.ofString, line, Json.compact]
  · intro hmem
    obtain ⟨c, hc, hchar⟩ := List.mem_map.1 hmem
    cases hchar
    exact newline_not_mem_compactChars (whole_toJson h) hc

theorem trim_line (m : Message) : trim m.line = m.toJson.compact := by
  have hsolid : trimmed m.toJson.compactChars = m.toJson.compactChars := by
    rw [toJson_eq, Json.compactChars]
    exact trimmed_of_solid (by decide) (by decide) _
  rw [line, trim_lineFeed, trim, Json.compact, String.toList_ofList, hsolid]

theorem blankText_line (m : Message) : blankText m.line = false := by
  have hbrace : isBlank '\x7b' = false := by decide
  simp [blankText, line_toList, hbrace]

/-- A message that was written is read from its text, whatever white space follows. -/
theorem decodeText_compactChars {m : Message} (h : m.Plain) (hlevels : m.toJson.levels ≤ 127)
    {rest : RawText} (hrest : NumberEnds rest) (hblank : JsonText.finish rest = .ok ()) :
    decodeText Message.read (m.toJson.compactChars.map .char ++ rest) = .ok m.withoutNulls := by
  have hroom : JsonText.maxDepth.Allows 127 := by
    rintro n ⟨⟩
    decide
  have hdecodes : Decodes Message.read (126 + 1) m.toJson m.withoutNulls := decodes h hlevels
  rw [decodeText, JsonText.ofRaw_compact (whole_toJson h) hrest]
  refine bind_eq_ok.2 ⟨_, hdecodes _ .text hroom, ?_⟩
  rw [hblank]
  rfl

/-- A written message is read as it was, but for what says null. -/
theorem ofLine_line {m : Message} (h : m.Plain) (hlevels : m.toJson.levels ≤ 127) :
    Message.ofLine (trim m.line) = .ok m.withoutNulls := by
  have hread := decodeText_compactChars h hlevels (show NumberEnds [] from trivial) rfl
  rw [List.append_nil] at hread
  rw [trim_line, ofLine, RawText.ofString, Json.compact, String.toList_ofList]
  exact hread

/-- The line feed makes no difference to a reader. -/
theorem ofLine_line_whole {m : Message} (h : m.Plain) (hlevels : m.toJson.levels ≤ 127) :
    Message.ofLine m.line = .ok m.withoutNulls := by
  have hends : NumberEnds [.char '\n'] := by simp only [NumberEnds]; decide
  have hread := decodeText_compactChars h hlevels hends rfl
  have htext : RawText.ofString m.line = m.toJson.compactChars.map .char ++ [.char '\n'] := by
    simp [RawText.ofString, line, Json.compact]
  rw [ofLine, htext]
  exact hread

end Message

/-! ### Results of tools -/

theorem Json.canonicalItems_eq_map (items : List Json) :
    Json.canonicalItems items = items.map Json.canonical := by
  induction items with
  | nil => rfl
  | cons v items ih => rw [Json.canonicalItems, ih, List.map_cons]

/-- A piece of what a tool returns is read from its members in the order of their keys. -/
theorem Content.decodes_canonical (c : Content) :
    Decodes Content.read 1 c.toJson.canonical c := by
  obtain ⟨kind, text⟩ := c
  refine Decodes.recordCanonical (r := (kind, text, ())) _
    (Fields.Commute.cons (Fields.Commute.cons Fields.Commute.nil)) ?_ ?_
  · cases text <;> simp [optionalMember]
  · refine .present (decodes_string _ kind) ?_ ?_
    · cases text <;> simp [optionalMember, Json.canonicalMembers]
    · cases text with
      | none => exact .absent (List.forall_mem_nil _) .nil
      | some s => exact .present (.option (nofun) (decodes_string _ s)) (List.forall_mem_nil _) .nil

namespace ToolResult

/-- A result as its reader sees it. -/
def withoutNulls (r : ToolResult) : ToolResult :=
  { r with structured := r.structured.bind Json.present? }

theorem decodes_canonical {r : ToolResult} {levels : Nat} (hlevels : 2 ≤ levels)
    (h : ∀ v, r.structured = some v → v.Canonical ∧ v.levels ≤ levels) :
    Decodes ToolResult.read (levels + 1) r.toJson.canonical r.withoutNulls := by
  obtain ⟨content, structured, isError⟩ := r
  have hcontent : Decodes (Source.list Content.read) 2
      (Json.arr (content.map Content.toJson)).canonical content := by
    rw [Json.canonical, Json.canonicalItems_eq_map, List.map_map]
    exact .list fun c _ => c.decodes_canonical
  have herror : ∀ name : String, name ≠ "isError" →
      ∀ m ∈ [("isError", Json.bool isError)], m.1 ≠ name := by
    intro name hname m hm
    rw [List.mem_singleton.1 hm]
    exact Ne.symm hname
  have hrest : (Fields.defaulted "isError" Source.bool false .nil :
      Fields JsonInput (Option Bool × Unit) (Bool × Unit)).Written levels
      [("isError", Json.bool isError)] (isError, ()) :=
    .present ((decodes_bool isError).mono (Nat.zero_le _)) (List.forall_mem_nil _) .nil
  refine Decodes.recordCanonical (r := (content, structured.bind Json.present?, isError, ())) _
    (Fields.Commute.cons (Fields.Commute.cons (Fields.Commute.cons Fields.Commute.nil))) ?_ ?_
  · cases structured <;> simp [optionalMember]
  · cases structured with
    | none =>
      exact .present (hcontent.mono hlevels) (herror _ (by decide))
        (.absent (herror _ (by decide)) hrest)
    | some v =>
      obtain ⟨hv, hdeep⟩ := h v rfl
      have hmembers : Json.canonicalMembers ([("content", Json.arr (content.map Content.toJson))] ++
          optionalMember "structuredContent" (some v) ++ [("isError", Json.bool isError)]) =
          ("content", (Json.arr (content.map Content.toJson)).canonical) ::
            ("structuredContent", v) :: [("isError", Json.bool isError)] := by
        simp [optionalMember, Json.canonicalMembers_eq_map, Json.canonical_of_canonical hv,
          Json.canonical]
      rw [hmembers]
      refine .present (hcontent.mono hlevels) ?_
        (.present (decodes_present hv hdeep) (herror _ (by decide)) hrest)
      exact List.forall_mem_cons.2 ⟨by simp, herror _ (by decide)⟩

theorem plain_canonical {r : ToolResult} (h : ∀ v, r.structured = some v → v.Plain) :
    r.toJson.canonical.Plain := by
  have hpiece : ∀ c : Content, c.toJson.Whole := by
    rintro ⟨kind, text⟩
    cases text <;> exact .obj _ (by simp [optionalMember, Json.Whole.str])
  have hcontent : (Json.arr (r.content.map Content.toJson)).Whole :=
    .arr _ (List.forall_mem_map.2 fun c _ => hpiece c)
  have hwhole : r.toJson.Whole := by
    refine .obj _ fun m hm => ?_
    simp only [List.cons_append, List.nil_append, List.mem_cons, List.mem_append,
      List.not_mem_nil, or_false, mem_optionalMember] at hm
    rcases hm with rfl | ⟨-, hm⟩ | rfl
    · exact hcontent
    · exact (h _ hm).whole
    · exact .bool _
  exact ⟨Json.whole_canonical hwhole, Json.canonical_canonical _⟩

/-- What a tool returned is read from the value that a response carries. -/
theorem decode_canonical {r : ToolResult} (h : ∀ v, r.structured = some v → v.Canonical) :
    decodeValue ToolResult.read r.toJson.canonical = .ok r.withoutNulls := by
  have hdecodes : Decodes ToolResult.read
      (max 2 (r.structured.elim 0 Json.levels) + 1) r.toJson.canonical r.withoutNulls := by
    refine decodes_canonical (Nat.le_max_left _ _) fun v hv => ⟨h v hv, ?_⟩
    rw [hv]
    exact Nat.le_max_right _ _
  exact hdecodes none .value (by simp [JsonText.Depth.Allows])

end ToolResult

end Orchestration
