import Orchestration.Proofs.Bytes
import Orchestration.Proofs.Serving

/-!
# Serving bytes

A server is given bytes.  A line of bytes that is a text is answered, whatever the text says; a
line that is no text ends the session, and the lines after it have no answer:

* `byteLines` — the lines of bytes;
* `BytesServed`, `serve_served` — the two ways in which serving bytes can end;
* `serve_bytes` — the answers and the ending, read off the lines;
* `serve_stops_at_broken_line` — a request that is not answered.
-/

namespace Orchestration

variable {η : Type}

/-- The lines of bytes: the pieces between line feeds. -/
def byteLines (bytes : List UInt8) : List (List UInt8) := bytes.splitOn 10

theorem byteLines_last {bytes : List UInt8} (h : 10 ∉ bytes) : byteLines bytes = [bytes] :=
  List.splitOn_eq_singleton h

theorem byteLines_cons {body : List UInt8} (h : 10 ∉ body) (rest : List UInt8) :
    byteLines (body ++ 10 :: rest) = body :: byteLines rest := by
  rw [byteLines, List.splitOn_append_cons_self, List.splitOn_eq_singleton h]
  rfl

/-- How serving bytes ends: every line is a text and answered, or the lines before one that is no
text are. -/
inductive BytesServed (h : ToolHandler η) (info : ServerInfo) (s : η) (bytes : List UInt8) :
    Served η → Prop
  | closed (texts : List String) (lines : byteLines bytes = texts.map textBytes) :
      BytesServed h info s bytes
        ⟨(answerAll h info texts s).1.flatten, .ok (), (answerAll h info texts s).2⟩
  | broken (texts : List String) {bad : List UInt8} {rest : List (List UInt8)}
      {fault : RawText.EncodingFault} (lines : byteLines bytes = texts.map textBytes ++ bad :: rest)
      (garbled : ∀ text, bad ≠ textBytes text) :
      BytesServed h info s bytes ⟨(answerAll h info texts s).1.flatten,
        .error (.io (.described fault.message)), (answerAll h info texts s).2⟩

section
variable (h : ToolHandler η) (info : ServerInfo)

/-- A line that is a text comes before the others. -/
theorem BytesServed.cons {s : η} {body rest : List UInt8} {text : String} (unfed : 10 ∉ body)
    (read : body = textBytes text) {served : Served η}
    (later : BytesServed h info (answerLine h info text s).2 rest served) :
    BytesServed h info s (body ++ 10 :: rest)
      { served with replies := (answerLine h info text s).1.toList ++ served.replies } := by
  have lines := byteLines_cons unfed rest
  rw [read] at lines
  cases later with
  | closed texts lines' =>
    have whole : byteLines (body ++ 10 :: rest) = (text :: texts).map textBytes := by
      rw [read, lines, lines', List.map_cons]
    exact .closed _ whole
  | @broken texts bad others fault lines' garbled =>
    have whole : byteLines (body ++ 10 :: rest) =
        (text :: texts).map textBytes ++ bad :: others := by
      rw [read, lines, lines', List.map_cons, List.cons_append]
    exact .broken _ whole garbled

/-- Bytes that cannot be read are no text. -/
theorem garbled_of_strict? {bytes : List UInt8} {fault : RawText.EncodingFault}
    (read : (RawText.ofBytes bytes).strict? = .error fault) (text : String) :
    bytes ≠ textBytes text := by
  intro same
  rw [RawText.strict?_ofBytes.2 same] at read
  cases read

/-- What is served last, with no line feed behind it. -/
theorem serve_last {bytes : List UInt8} (unfed : 10 ∉ bytes) (s : η) :
    BytesServed h info s bytes (serve h info (RawText.ofBytes bytes) s) := by
  have lines := byteLines_last unfed
  by_cases none : bytes = []
  · subst none
    have blank : answerAll h info [""] s = ([[]], s) := by
      rw [answerAll, answerLine_blank h info s rfl]
      rfl
    have done : BytesServed h info s [] _ := .closed [""] lines
    rw [blank] at done
    exact done
  · have some : RawText.ofBytes bytes ≠ [] := by
      intro empty
      have again := RawText.toBytes_ofBytes bytes
      rw [empty] at again
      exact none again.symm
    rw [serve, RawText.linesKeepingEnds_last some (RawText.lineFeed_not_mem_ofBytes unfed),
      serveLines]
    cases read : (RawText.ofBytes bytes).strict? with
    | error fault => exact .broken [] lines (garbled_of_strict? read)
    | ok text =>
      have whole : byteLines bytes = [text].map textBytes := by
        rw [lines, RawText.strict?_ofBytes.1 read, List.map_singleton]
      have one : answerAll h info [text] s =
          ([(answerLine h info text s).1.toList], (answerLine h info text s).2) := rfl
      have done : BytesServed h info s bytes _ := .closed _ whole
      rw [one, List.flatten_cons] at done
      exact done

/-- Bytes are served line by line, up to the first line that is no text. -/
theorem serve_served (bytes : List UInt8) (s : η) :
    BytesServed h info s bytes (serve h info (RawText.ofBytes bytes) s) := by
  induction bytes using bySeparator (10 : UInt8) generalizing s with
  | last bytes unfed => exact serve_last h info unfed s
  | piece body rest unfed ih =>
    have line : RawText.IsLine (RawText.ofBytes body ++ [.char '\n']) :=
      ⟨_, rfl, RawText.lineFeed_not_mem_ofBytes unfed⟩
    have cut : RawText.ofBytes (body ++ 10 :: rest) =
        (RawText.ofBytes body ++ [.char '\n']) ++ RawText.ofBytes rest := by
      rw [RawText.ofBytes_lineFeed, List.append_assoc, List.singleton_append]
    rw [serve, cut, RawText.linesKeepingEnds_cons line, serveLines]
    cases read : (RawText.ofBytes body).strict? with
    | ok text =>
      have fed : RawText.strict? (RawText.ofBytes body ++ [.char '\n']) = .ok (text ++ "\n") := by
        rw [RawText.strict?_ok read, ← RawText.ofString_strict? (text ++ "\n")]
        simp [RawText.ofString]
      rw [fed]
      dsimp only
      rw [answerLine_congr h info s (trim_lineFeed text)]
      exact (ih _).cons h info unfed (RawText.strict?_ofBytes.1 read)
    | error fault =>
      cases fed : RawText.strict? (RawText.ofBytes body ++ [.char '\n']) with
      | ok text =>
        obtain ⟨text', read'⟩ := RawText.strict?_of_append fed
        rw [read] at read'
        cases read'
      | error fault' =>
        exact .broken [] (byteLines_cons unfed rest) (garbled_of_strict? read)

end

/-- Serving bytes ends well when every line is a text, and only then.  The lines before the first
one that is no text are answered as they must be: a blank line and a message that is no request
not at all, a line that is no message with a parse error, and every request with one response.
That line and those after it have no answer. -/
theorem serve_bytes (h : ToolHandler η) (info : ServerInfo) (bytes : List UInt8) (s : η) :
    let served := serve h info (RawText.ofBytes bytes) s
    (served.ending = .ok () ↔ ∀ line ∈ byteLines bytes, ∃ text, line = textBytes text) ∧
      ∃ texts rest, byteLines bytes = texts.map textBytes ++ rest ∧
        (∀ bad ∈ rest.head?, ∀ text, bad ≠ textBytes text) ∧
        List.Forall₂ LineAnswer texts (answerAll h info texts s).1 ∧
        served.replies = (answerAll h info texts s).1.flatten ∧
        served.state = (answerAll h info texts s).2 := by
  intro served
  have ends : BytesServed h info s bytes served := serve_served h info bytes s
  generalize served = served at ends
  cases ends with
  | closed texts lines =>
    refine ⟨iff_of_true rfl ?_, texts, [], ?_, nofun, answerAll_answers h info texts s, rfl, rfl⟩
    · intro line mem
      rw [lines] at mem
      obtain ⟨text, -, same⟩ := List.mem_map.1 mem
      exact ⟨text, same.symm⟩
    · rw [lines, List.append_nil]
  | @broken texts bad rest fault lines garbled =>
    refine ⟨iff_of_false nofun ?_, texts, bad :: rest, lines, ?_, answerAll_answers h info texts s,
      rfl, rfl⟩
    · intro all
      obtain ⟨text, same⟩ := all bad (by simp [lines])
      exact garbled text same
    · intro line head
      cases head
      exact garbled

/-- A byte that is no text, and the session is over: neither its line nor the request behind it is
answered. -/
theorem serve_stops_at_broken_line :
    let silent : ToolHandler Unit := ⟨[], fun _ _ s => (.error "", s)⟩
    let ping (id : Nat) := textBytes (Message.request id "ping" (.obj [])).line
    let served := serve silent default (RawText.ofBytes (ping 1 ++ [0xFF, 10] ++ ping 2)) ()
    served.replies.map (fun reply => reply.id.bind Json.asNat?) = [some 1] ∧
      served.ending.toOption = none := by
  intro silent ping served
  exact ⟨by decide +kernel, by decide +kernel⟩

end Orchestration
