import Mathlib.Data.List.Forall2
import Orchestration.Proofs.Lines
import Orchestration.Rpc.Server

/-!
# What a server answers

A server reads its input line by line, and what it answers to a line depends on that line and on
what the tools have done so far:

* `ToolHandler.recorded` — tools that record which of them are called, and with what;
* `inputLines`, `contents` — the lines of an input, and what is written on them;
* `LineAnswer` — what a line is answered with;
* `serve_eq` — serving a text is answering its lines in order;
* `answerAll_contents` — the white space around lines does not matter;
* `serve_answers` — every line is answered as it must be, and the tools are called as often, in the
  order and with the arguments that the lines ask for.
-/

namespace Orchestration

variable {η : Type}

/-! ### Steps of a server -/

section
variable (h : ToolHandler η) (info : ServerInfo) (s : η)

/-- A request has a method and a number. -/
theorem Message.not_lacking {m : Message} (h : ¬ (m.method = none ∨ m.id = none)) :
    (∃ method, m.method = some method) ∧ ∃ id, m.id = some id := by
  simpa [Option.ne_none_iff_exists'] using h

theorem reply_of_request {m : Message} {method : String} {id : Json}
    (hmethod : m.method = some method) (hid : m.id = some id) :
    m.reply h info s =
      (some (answerRequest h info m method id s).1, (answerRequest h info m method id s).2) := by
  simp only [Message.reply, hmethod, hid]

theorem reply_of_lacking {m : Message} (hlacks : m.method = none ∨ m.id = none) :
    m.reply h info s = (none, s) := by
  unfold Message.reply
  split
  · next hmethod hid => simp [hmethod, hid] at hlacks
  · rfl

theorem answerLine_blank {line : String} (hblank : blankText line = true) :
    answerLine h info line s = (none, s) := if_pos hblank

theorem answerLine_read {line : String} {m : Message} (hsolid : blankText line = false)
    (hread : Message.ofLine (trim line) = .ok m) :
    answerLine h info line s = m.reply h info s := by
  simp only [answerLine, hsolid, hread, Bool.false_eq_true, if_false]

theorem answerLine_garbled {line : String} {e : DecodeError} (hsolid : blankText line = false)
    (hread : Message.ofLine (trim line) = .error e) :
    answerLine h info line s = (some (.errorResponse .null parseErrorCode e.message), s) := by
  simp only [answerLine, hsolid, hread, Bool.false_eq_true, if_false]

/-- Lines that trim to the same have the same answer. -/
theorem answerLine_congr {line line' : String} (htrim : trim line = trim line') :
    answerLine h info line s = answerLine h info line' s := by
  simp only [answerLine, blankText_congr htrim, htrim]

end

/-! ### Calls of tools -/

/-- A tool's name and what it is called with. -/
abbrev ToolCall := String × Document

/-- The same tools, with a record of their calls. -/
def ToolHandler.recorded (h : ToolHandler η) : ToolHandler (η × List ToolCall) where
  tools := h.tools
  call name arguments s :=
    let (outcome, left) := h.call name arguments s.1
    (outcome, (left, s.2 ++ [(name, arguments)]))

/-- The call that the parameters of a request ask for, if they name a tool. -/
def Document.toolCall? (params : Document) : Option ToolCall :=
  (params.str? "name").map fun name => (name, (params.document? "arguments").getD .empty)

/-- The call that a message asks for: it must be a request for a call, and name the tool. -/
def Message.toolCall? (m : Message) : Option ToolCall :=
  if m.method = some "tools/call" ∧ m.id.isSome = true then m.paramsDocument.toolCall? else none

/-- The call that a line asks for. -/
def toolCallOf? (line : String) : Option ToolCall :=
  if blankText line then none else (Message.ofLine (trim line)).toOption.bind Message.toolCall?

section
variable (h : ToolHandler η) (info : ServerInfo) (s : η) (calls : List ToolCall)

theorem callTool_recorded (id : Json) (params : Document) :
    callTool h.recorded id params (s, calls) =
      ((callTool h id params s).1,
        ((callTool h id params s).2, calls ++ params.toolCall?.toList)) := by
  unfold callTool Document.toolCall?
  cases params.str? "name" with
  | none => simp
  | some name => rfl

/-- Only requests for calls reach the tools. -/
theorem answerRequest_recorded (m : Message) (method : String) (id : Json) :
    answerRequest h.recorded info m method id (s, calls) =
      ((answerRequest h info m method id s).1, ((answerRequest h info m method id s).2,
        calls ++ if method = "tools/call" then m.paramsDocument.toolCall?.toList else [])) := by
  by_cases hcall : method = "tools/call"
  · subst hcall
    exact callTool_recorded h s calls id m.paramsDocument
  · rw [if_neg hcall, List.append_nil]
    unfold answerRequest
    split <;> first | rfl | exact absurd rfl hcall

theorem reply_recorded (m : Message) :
    m.reply h.recorded info (s, calls) =
      ((m.reply h info s).1, ((m.reply h info s).2, calls ++ m.toolCall?.toList)) := by
  by_cases hlacks : m.method = none ∨ m.id = none
  · have hnone : m.toolCall? = none := if_neg fun ⟨hmethod, hid⟩ => by
      simp [hmethod, Option.isSome_iff_ne_none.1 hid] at hlacks
    rw [reply_of_lacking _ _ _ hlacks, reply_of_lacking _ _ _ hlacks, hnone]
    simp
  · obtain ⟨⟨method, hmethod⟩, id, hid⟩ := Message.not_lacking hlacks
    rw [reply_of_request _ _ _ hmethod hid, reply_of_request _ _ _ hmethod hid,
      answerRequest_recorded]
    by_cases hcall : method = "tools/call" <;> simp [Message.toolCall?, hmethod, hid, hcall]

/-- The record of a line grows by the call that it asks for, and the answer is the same. -/
theorem answerLine_recorded (line : String) :
    answerLine h.recorded info line (s, calls) =
      ((answerLine h info line s).1,
        ((answerLine h info line s).2, calls ++ (toolCallOf? line).toList)) := by
  unfold answerLine toolCallOf?
  split
  · simp
  · cases Message.ofLine (trim line) with
    | error e => simp [Except.toOption]
    | ok m => exact reply_recorded h info s calls m

end

/-! ### Answers to lines -/

/-- A response to a request: it carries the number of the request, and either a result or an
error. -/
structure Message.RespondsTo (reply : Message) (id : Json) : Prop where
  id : reply.id = some id
  method : reply.method = none
  either : reply.result.isSome ≠ reply.error.isSome

theorem Message.RespondsTo.response (id result : Json) :
    (Message.response id result).RespondsTo id :=
  ⟨rfl, rfl, Bool.noConfusion⟩

theorem Message.RespondsTo.errorResponse (id : Json) (code : Int) (reason : String) :
    (Message.errorResponse id code reason).RespondsTo id :=
  ⟨rfl, rfl, Bool.noConfusion⟩

/-- What a line is answered with. -/
inductive LineAnswer (line : String) : List Message → Prop
  | blank (h : blankText line = true) : LineAnswer line []
  | garbled {e : DecodeError} (solid : blankText line = false)
      (h : Message.ofLine (trim line) = .error e) (reason : String) :
      LineAnswer line [.errorResponse .null (-32700) reason]
  | unasked {m : Message} (solid : blankText line = false)
      (read : Message.ofLine (trim line) = .ok m) (h : m.method = none ∨ m.id = none) :
      LineAnswer line []
  | asked {m reply : Message} {method : String} {id : Json} (solid : blankText line = false)
      (read : Message.ofLine (trim line) = .ok m) (hmethod : m.method = some method)
      (hid : m.id = some id) (responds : reply.RespondsTo id) : LineAnswer line [reply]

section
variable (h : ToolHandler η) (info : ServerInfo)

theorem answerRequest_responds (m : Message) (method : String) (id : Json) (s : η) :
    (answerRequest h info m method id s).1.RespondsTo id := by
  unfold answerRequest
  split
  · exact .response id _
  · exact .response id _
  · exact .response id _
  · unfold callTool
    split
    · exact .errorResponse id _ _
    · exact .response id _
  · exact .errorResponse id _ _

theorem answerLine_answers (line : String) (s : η) :
    LineAnswer line (answerLine h info line s).1.toList := by
  cases hblank : blankText line with
  | true =>
    rw [answerLine_blank h info s hblank]
    exact .blank hblank
  | false =>
    cases hread : Message.ofLine (trim line) with
    | error e =>
      rw [answerLine_garbled h info s hblank hread]
      exact .garbled hblank hread e.message
    | ok m =>
      rw [answerLine_read h info s hblank hread]
      by_cases hlacks : m.method = none ∨ m.id = none
      · rw [reply_of_lacking _ _ _ hlacks]
        exact .unasked hblank hread hlacks
      · obtain ⟨⟨method, hmethod⟩, id, hid⟩ := Message.not_lacking hlacks
        rw [reply_of_request _ _ _ hmethod hid]
        exact .asked hblank hread hmethod hid (answerRequest_responds h info m method id s)

end

/-! ### Answers to all lines -/

/-- The lines of an input: the pieces between its line feeds. -/
def inputLines (text : String) : List String := (splitOn '\n' text.toList).map String.ofList

/-- What is written on the lines of an input: without blank lines, and without the white space
around the others. -/
def contents (lines : List String) : List String :=
  (lines.filter fun line => !blankText line).map trim

/-- The answers to lines, line by line, and what the tools have done then. -/
def answerAll (h : ToolHandler η) (info : ServerInfo) : List String → η → List (List Message) × η
  | [], s => ([], s)
  | line :: lines, s =>
    let (reply, s) := answerLine h info line s
    let (replies, s) := answerAll h info lines s
    (reply.toList :: replies, s)

section
variable (h : ToolHandler η) (info : ServerInfo)

theorem answerAll_answers (lines : List String) (s : η) :
    List.Forall₂ LineAnswer lines (answerAll h info lines s).1 := by
  induction lines generalizing s with
  | nil => exact .nil
  | cons line lines ih => exact .cons (answerLine_answers h info line s) (ih _)

theorem answerAll_recorded (lines : List String) (s : η) (calls : List ToolCall) :
    answerAll h.recorded info lines (s, calls) =
      ((answerAll h info lines s).1,
        ((answerAll h info lines s).2, calls ++ lines.filterMap toolCallOf?)) := by
  induction lines generalizing s calls with
  | nil => simp [answerAll]
  | cons line lines ih =>
    simp only [answerAll, answerLine_recorded, ih, List.filterMap_cons, List.append_assoc]
    cases toolCallOf? line <;> simp

/-- The white space around lines does not matter, and blank lines do not. -/
theorem answerAll_contents (lines : List String) (s : η) :
    ((answerAll h info lines s).1.flatten, (answerAll h info lines s).2) =
      ((answerAll h info (contents lines) s).1.flatten,
        (answerAll h info (contents lines) s).2) := by
  induction lines generalizing s with
  | nil => rfl
  | cons line lines ih =>
    cases hblank : blankText line with
    | true =>
      have hcontents : contents (line :: lines) = contents lines := by simp [contents, hblank]
      rw [hcontents, answerAll, answerLine_blank h info s hblank]
      exact ih s
    | false =>
      have hcontents : contents (line :: lines) = trim line :: contents lines := by
        simp [contents, hblank]
      have hline : answerLine h info (trim line) s = answerLine h info line s :=
        answerLine_congr h info s (trim_trim line)
      rw [hcontents, answerAll, answerAll, hline]
      obtain ⟨hreplies, hstate⟩ := Prod.mk.inj (ih (answerLine h info line s).2)
      simp only [List.flatten_cons, hreplies, hstate]

theorem answerAll_append (first second : List String) (s : η) :
    answerAll h info (first ++ second) s =
      ((answerAll h info first s).1 ++ (answerAll h info second (answerAll h info first s).2).1,
        (answerAll h info second (answerAll h info first s).2).2) := by
  induction first generalizing s with
  | nil => rfl
  | cons line first ih => simp only [List.cons_append, answerAll, ih]

/-- Serving a text is answering its lines in order. -/
theorem serve_eq (text : String) (s : η) :
    serve h info (RawText.ofString text) s =
      ⟨(answerAll h info (inputLines text) s).1.flatten, .ok (),
        (answerAll h info (inputLines text) s).2⟩ := by
  unfold serve inputLines RawText.ofString
  induction text.toList using bySeparator '\n' generalizing s with
  | last cs hcs =>
    rw [splitOn_of_not_mem hcs]
    cases cs with
    | nil => simp [RawText.linesKeepingEnds, serveLines, answerAll, answerLine_blank, blankText]
    | cons c cs =>
      have hlast : Glyph.char '\n' ∉ (c :: cs).map Glyph.char := by simpa using hcs
      rw [RawText.linesKeepingEnds_last (by simp) hlast, serveLines, RawText.strict?_chars]
      simp [serveLines, answerAll]
  | piece body rest hbody ih =>
    have hline : RawText.IsLine ((body ++ ['\n']).map Glyph.char) :=
      ⟨body.map .char, by simp, by simpa using hbody⟩
    have hcut : (body ++ '\n' :: rest).map Glyph.char =
        (body ++ ['\n']).map Glyph.char ++ rest.map Glyph.char := by simp
    have htrim : trim (String.ofList (body ++ ['\n'])) = trim (String.ofList body) := by
      rw [String.ofList_append]
      exact trim_lineFeed _
    rw [hcut, RawText.linesKeepingEnds_cons hline, splitOn_append_sep hbody, serveLines,
      RawText.strict?_chars]
    simp only [List.map_cons, answerAll, answerLine_congr h info s htrim, ih, List.flatten_cons]

end

/-! ### White space -/

/-- Characters with a carriage return before each line feed. -/
def withReturns (cs : List Char) : List Char :=
  cs.flatMap fun c => if c = '\n' then ['\r', '\n'] else [c]

/-- A text whose lines end with a carriage return and a line feed. -/
def crlf (text : String) : String := String.ofList (withReturns text.toList)

theorem withReturns_of_not_mem {cs : List Char} (h : '\n' ∉ cs) : withReturns cs = cs := by
  unfold withReturns
  induction cs with
  | nil => rfl
  | cons c cs ih =>
    obtain ⟨hc, hcs⟩ : '\n' ≠ c ∧ '\n' ∉ cs := by simpa using h
    rw [List.flatMap_cons, if_neg (Ne.symm hc), ih hcs, List.singleton_append]

theorem withReturns_append_line {body : List Char} (h : '\n' ∉ body) (rest : List Char) :
    withReturns (body ++ '\n' :: rest) = (body ++ ['\r']) ++ '\n' :: withReturns rest := by
  have hbody := withReturns_of_not_mem h
  unfold withReturns at hbody ⊢
  rw [List.flatMap_append, hbody]
  simp

theorem contents_cons_congr {line line' : String} {lines lines' : List String}
    (htrim : trim line = trim line') (hrest : contents lines = contents lines') :
    contents (line :: lines) = contents (line' :: lines') := by
  have hblank := blankText_congr htrim
  unfold contents at hrest ⊢
  cases hline : blankText line' <;> simp [hblank, hline, htrim, hrest]

/-- The carriage returns are white space at the ends of lines. -/
theorem contents_crlf (text : String) :
    contents (inputLines (crlf text)) = contents (inputLines text) := by
  unfold inputLines crlf
  rw [String.toList_ofList]
  induction text.toList using bySeparator '\n' with
  | last cs hcs => rw [withReturns_of_not_mem hcs]
  | piece body rest hbody ih =>
    have hreturn : '\n' ∉ body ++ ['\r'] := by simpa using hbody
    have hblank : ∀ c ∈ ['\r'], isBlank c = true := List.forall_mem_singleton.2 (by decide)
    rw [withReturns_append_line hbody, splitOn_append_sep hreturn, splitOn_append_sep hbody]
    refine contents_cons_congr ?_ ih
    simp [trim, trimmed_append_blank hblank]

section
variable (h : ToolHandler η) (info : ServerInfo)

/-- Inputs with the same on their lines are served in the same way. -/
theorem serve_contents {text text' : String}
    (hcontents : contents (inputLines text') = contents (inputLines text)) (s : η) :
    serve h info (RawText.ofString text') s = serve h info (RawText.ofString text) s := by
  obtain ⟨hreplies, hstate⟩ := Prod.mk.inj (answerAll_contents h info (inputLines text) s)
  obtain ⟨hreplies', hstate'⟩ := Prod.mk.inj (answerAll_contents h info (inputLines text') s)
  rw [serve_eq, serve_eq, hreplies, hstate, hreplies', hstate', hcontents]

/-- What is served first does not depend on what comes on later lines. -/
theorem serve_append (text later : String) (s : η) :
    (serve h info (RawText.ofString (text ++ "\n" ++ later)) s).replies =
      (serve h info (RawText.ofString text) s).replies ++
        (serve h info (RawText.ofString later)
          (serve h info (RawText.ofString text) s).state).replies := by
  have hlines : inputLines (text ++ "\n" ++ later) = inputLines text ++ inputLines later := by
    simp [inputLines, splitOn_append]
  rw [serve_eq, serve_eq, serve_eq, hlines, answerAll_append, List.flatten_append]

end

/-- A server answers every line of its input in order: a blank line and a message that is no
request not at all, a line that is no message with a parse error, and every request with one
response under its number.  The tools are called once for every line that asks for a call, in
order.  So neither blank lines nor the white space around lines matter, and no answer depends on
what comes later. -/
theorem serve_answers (h : ToolHandler η) (info : ServerInfo) (text : String) (s : η) :
    let served := serve h info (RawText.ofString text) s
    served.ending = .ok () ∧
      (∃ frames, List.Forall₂ LineAnswer (inputLines text) frames ∧
        served.replies = frames.flatten) ∧
      serve h.recorded info (RawText.ofString text) (s, []) =
        ⟨served.replies, .ok (), (served.state, (inputLines text).filterMap toolCallOf?)⟩ ∧
      (∀ text', contents (inputLines text') = contents (inputLines text) →
        serve h info (RawText.ofString text') s = served) ∧
      serve h info (RawText.ofString (crlf text)) s = served ∧
      ∀ later, (serve h info (RawText.ofString (text ++ "\n" ++ later)) s).replies =
        served.replies ++ (serve h info (RawText.ofString later) served.state).replies := by
  refine ⟨?_, ⟨_, answerAll_answers h info (inputLines text) s, ?_⟩, ?_,
    fun _ hcontents => serve_contents h info hcontents s,
    serve_contents h info (contents_crlf text) s, fun later => serve_append h info text later s⟩
  · rw [serve_eq]
  · rw [serve_eq]
  · rw [serve_eq, serve_eq, answerAll_recorded, List.nil_append]

/-- A blank line, spaces around the others and carriage returns change nothing. -/
theorem serve_answers_spaced :
    let silent : ToolHandler Unit := ⟨[], fun _ _ s => (.error "", s)⟩
    contents (inputLines " \r\n\t{} \r\n") = contents (inputLines "{}") ∧
      serve silent default (RawText.ofString " \r\n\t{} \r\n") () =
        serve silent default (RawText.ofString "{}") () := by
  intro silent
  have hcontents : contents (inputLines " \r\n\t{} \r\n") = contents (inputLines "{}") := by
    decide
  exact ⟨hcontents, (serve_answers silent default "{}" ()).2.2.2.1 _ hcontents⟩

end Orchestration
