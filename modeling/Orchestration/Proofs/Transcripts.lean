import Orchestration.Proofs.Frames
import Orchestration.Proofs.Serving

/-!
# Messages written one after the other

A row of messages is written as a row of lines, and read back as that row.  The only thing that a
message can lose on the way is a member that says null:

* `Message.NullFree`, `withoutNulls_eq_iff` — the messages that lose nothing;
* `count_newline_line`, `trim_line_append` — what is written is one line, which trimming leaves
  alone;
* `linesKeepingEnds_transcript`, `inputLines_transcript` — the lines of a transcript are those of
  its messages;
* `transcript_read_back` — the whole.
-/

namespace Orchestration

/-! ### Messages that lose nothing -/

theorem Json.bind_present?_eq_iff {value : Option Json} :
    value.bind present? = value ↔ value ≠ some .null := by
  cases value with
  | none => simp
  | some v => cases v <;> simp [present?]

namespace Message

/-- Nothing that may be left out of a message says null. -/
structure NullFree (m : Message) : Prop where
  id : m.id ≠ some .null
  params : m.params ≠ some .null
  result : m.result ≠ some .null
  data : ∀ e, m.error = some e → e.data ≠ some .null

/-- A reader sees a message as it was just when nothing in it says null. -/
theorem withoutNulls_eq_iff {m : Message} : m.withoutNulls = m ↔ m.NullFree := by
  have inError : m.error.map ErrorObject.withoutNulls = m.error ↔
      ∀ e, m.error = some e → e.data ≠ some .null := by
    cases m.error with
    | none => simp
    | some e =>
      obtain ⟨code, reason, data⟩ := e
      simp [ErrorObject.withoutNulls, Json.bind_present?_eq_iff]
  constructor
  · intro same
    refine ⟨?_, ?_, ?_, inError.1 (congrArg error same)⟩
    · exact Json.bind_present?_eq_iff.1 (congrArg id same)
    · exact Json.bind_present?_eq_iff.1 (congrArg params same)
    · exact Json.bind_present?_eq_iff.1 (congrArg result same)
  · rintro ⟨noId, noParams, noResult, noData⟩
    rw [withoutNulls, Json.bind_present?_eq_iff.2 noId, Json.bind_present?_eq_iff.2 noParams,
      Json.bind_present?_eq_iff.2 noResult, inError.2 noData]

/-! ### One line -/

theorem line_chars (m : Message) : m.line.toList = m.toJson.compactChars ++ ['\n'] := by
  simp [line, Json.compact]

/-- A written message has one line feed. -/
theorem count_newline_line {m : Message} (h : m.Plain) : m.line.toList.count '\n' = 1 := by
  rw [line_chars, List.count_append, List.count_eq_zero.2 (newline_not_mem_compactChars
    (whole_toJson h))]
  rfl

theorem getLast?_line (m : Message) : m.line.toList.getLast? = some '\n' := by
  rw [line_chars, List.getLast?_concat]

/-- Trimming takes the line feed away and nothing else. -/
theorem trim_line_append (m : Message) : trim m.line ++ "\n" = m.line := by
  rw [trim_line, line]

theorem trim_compact (m : Message) : trim m.toJson.compact = m.toJson.compact := by
  rw [← trim_line, trim_trim]

theorem blankText_compact (m : Message) : blankText m.toJson.compact = false := by
  rw [← blankText_line m]
  exact blankText_congr (by rw [trim_compact, trim_line])

/-! ### Many lines -/

/-- Messages written one after the other. -/
def transcript (ms : List Message) : String := String.join (ms.map line)

theorem transcript_cons (m : Message) (ms : List Message) :
    (transcript (m :: ms)).toList = m.toJson.compactChars ++ '\n' :: (transcript ms).toList := by
  simp [transcript, String.toList_join, line_chars]

/-- A reader who reads line by line reads message by message. -/
theorem linesKeepingEnds_transcript {ms : List Message} (h : ∀ m ∈ ms, m.Plain) :
    RawText.linesKeepingEnds (RawText.ofString (transcript ms)) =
      ms.map fun m => RawText.ofString m.line := by
  have hrows : RawText.ofString (transcript ms) =
      (ms.map fun m => RawText.ofString m.line).flatten := by
    simp [RawText.ofString, transcript, String.toList_join, List.flatMap_def, List.map_flatten,
      Function.comp_def]
  rw [hrows]
  exact RawText.linesKeepingEnds_flatten_rows
    (List.forall_mem_map.2 fun m hm => isLine_line (h m hm))

/-- Split at its line feeds, what was written is the messages, and nothing after the last. -/
theorem inputLines_transcript {ms : List Message} (h : ∀ m ∈ ms, m.Plain) :
    inputLines (transcript ms) = ms.map (fun m => m.toJson.compact) ++ [""] := by
  induction ms with
  | nil => rfl
  | cons m ms ih =>
    obtain ⟨hm, hms⟩ := List.forall_mem_cons.1 h
    have htail := ih hms
    rw [inputLines] at htail ⊢
    rw [transcript_cons, splitOn_append_sep (newline_not_mem_compactChars (whole_toJson hm)),
      List.map_cons, htail]
    rfl

/-- The last of the pieces is the only one with nothing on it. -/
theorem solid_transcript {ms : List Message} (h : ∀ m ∈ ms, m.Plain) :
    (inputLines (transcript ms)).filter (fun line => !blankText line) =
      ms.map fun m => m.toJson.compact := by
  have hsolid : (ms.map fun m => m.toJson.compact).filter (fun line => !blankText line) =
      ms.map fun m => m.toJson.compact :=
    List.filter_eq_self.2 (List.forall_mem_map.2 fun m _ => by simp [blankText_compact])
  have hlast : [""].filter (fun line => !blankText line) = [] := by decide
  rw [inputLines_transcript h, List.filter_append, hsolid, hlast, List.append_nil]

theorem contents_transcript {ms : List Message} (h : ∀ m ∈ ms, m.Plain) :
    contents (inputLines (transcript ms)) = ms.map fun m => m.toJson.compact := by
  rw [contents, solid_transcript h, List.map_map]
  exact List.map_congr_left fun m _ => trim_compact m

/-- What is written of messages is a row of lines, one for each, whatever line breaks their texts
have, and the lines are read back as those messages, in their order.  A reader sees a message as it
was just when nothing in it says null; otherwise what says null is not there.  The messages have
values without doubles, whose objects have their members in the order of their keys, as the values
of a program have; and they do not nest deeper than a reader goes. -/
theorem transcript_read_back {ms : List Message} (plain : ∀ m ∈ ms, m.Plain)
    (shallow : ∀ m ∈ ms, m.toJson.levels ≤ 127) :
    (∀ m ∈ ms, m.line.toList.count '\n' = 1 ∧ m.line.toList.getLast? = some '\n' ∧
      trim m.line ++ "\n" = m.line ∧
      Message.ofLine m.line = .ok m.withoutNulls ∧
      Message.ofLine (trim m.line) = .ok m.withoutNulls ∧
      (Message.ofLine m.line = .ok m ↔ m.NullFree)) ∧
    RawText.linesKeepingEnds (RawText.ofString (transcript ms)) =
      ms.map (fun m => RawText.ofString m.line) ∧
    (contents (inputLines (transcript ms))).map Message.ofLine =
      ms.map fun m => .ok m.withoutNulls := by
  refine ⟨fun m hm => ?_, linesKeepingEnds_transcript plain, ?_⟩
  · have whole := ofLine_line_whole (plain m hm) (shallow m hm)
    refine ⟨count_newline_line (plain m hm), getLast?_line m, trim_line_append m, whole,
      ofLine_line (plain m hm) (shallow m hm), ?_⟩
    rw [whole, Except.ok.injEq]
    exact withoutNulls_eq_iff
  · rw [contents_transcript plain, List.map_map]
    refine List.map_congr_left fun m hm => ?_
    rw [Function.comp_apply, ← trim_line]
    exact ofLine_line (plain m hm) (shallow m hm)

/-- A message whose number says null and whose texts have line breaks, and a response. -/
theorem transcript_read_back_null :
    let first : Message :=
      ⟨"2.0", some .null, some "tools\n/call", some (.arr [.str "a\r\n\"b\"", .null]), none, none⟩
    let second : Message := .response (Json.ofNat 7) (.str "\x01")
    (∀ m ∈ [first, second], m.Plain) ∧ (∀ m ∈ [first, second], m.toJson.levels ≤ 127) ∧
      (contents (inputLines (transcript [first, second]))).map Message.ofLine =
        [.ok { first with id := none }, .ok second] ∧
      Message.ofLine first.line ≠ .ok first := by
  intro first second
  have hnull : Json.null.Plain := ⟨.null, .null⟩
  have hitems : (Json.arr [.str "a\r\n\"b\"", .null]).Plain :=
    ⟨.arr _ (by simp [Json.Whole.str, Json.Whole.null]),
      .arr _ (by simp [Json.Canonical.str, Json.Canonical.null])⟩
  have hfirst : first.Plain :=
    { id := by rintro _ ⟨⟩; exact hnull
      params := by rintro _ ⟨⟩; exact hitems
      result := by rintro _ ⟨⟩
      data := by rintro _ ⟨⟩
      code := by rintro _ ⟨⟩ }
  have hsecond : second.Plain := .response (plain_id (by decide)) (.str _)
  have plain : ∀ m ∈ [first, second], m.Plain := by
    simp only [List.forall_mem_cons]
    exact ⟨hfirst, hsecond, List.forall_mem_nil _⟩
  have shallow : ∀ m ∈ [first, second], m.toJson.levels ≤ 127 := by decide +kernel
  obtain ⟨each, -, decoded⟩ := transcript_read_back plain shallow
  refine ⟨plain, shallow, decoded, fun same => ?_⟩
  exact ((each first List.mem_cons_self).2.2.2.2.2.1 same).id rfl

end Message

end Orchestration
