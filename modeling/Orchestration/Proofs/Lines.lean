import Mathlib.Data.List.TakeWhile
import Orchestration.Proofs.Paths
import Orchestration.Rpc.Client

/-!
# Lines, and the white space around them

Both sides of a session read line by line and trim what they have read.

* `trimmed_append_blank`, `trimmed_blank_append` — blank characters around a text are trimmed away;
* `trim_trim` — what is trimmed stays as it is;
* `trimmed_of_solid` — a text between two characters that are not blank stays as it is;
* `RawText.IsLine` — a line with its line feed, and nothing behind it;
* `RawText.byLines` — every text is a row of lines and a last part without a line feed;
* `RawText.isLine_of_linesKeepingEnds` — only the last of the lines of a text may lack its end;
* `RawText.linesKeepingEnds_append` — more text only continues what comes after a line.
-/

namespace Orchestration

/-! ### Trimming -/

theorem dropEndWhile_append {p : Char → Bool} {blanks : List Char} (h : ∀ c ∈ blanks, p c = true)
    (cs : List Char) : dropEndWhile p (cs ++ blanks) = dropEndWhile p cs := by
  induction cs with
  | nil => exact (dropEndWhile_eq_nil_iff p blanks).2 (List.all_eq_true.2 h)
  | cons c cs ih => rw [List.cons_append, dropEndWhile, dropEndWhile, ih]

theorem dropEndWhile_of_last {p : Char → Bool} {c : Char} (h : p c = false) (cs : List Char) :
    dropEndWhile p (cs ++ [c]) = cs ++ [c] := by
  induction cs with
  | nil => simp [dropEndWhile, h]
  | cons d cs ih =>
    rw [List.cons_append, dropEndWhile, ih]
    split
    · next hnil => exact absurd hnil (by simp)
    · rfl

theorem trimmed_append_blank {blanks : List Char} (h : ∀ c ∈ blanks, isBlank c = true)
    (cs : List Char) : trimmed (cs ++ blanks) = trimmed cs := by
  unfold trimmed trimmedStart
  induction cs with
  | nil =>
    have hnone : blanks.dropWhile isBlank = [] := List.dropWhile_eq_nil_iff.2 h
    rw [List.nil_append, hnone, List.dropWhile_nil]
  | cons c cs ih =>
    by_cases hc : isBlank c = true
    · rw [List.cons_append, List.dropWhile_cons_of_pos hc, List.dropWhile_cons_of_pos hc, ih]
    · rw [List.cons_append, List.dropWhile_cons_of_neg hc, List.dropWhile_cons_of_neg hc,
        ← List.cons_append]
      exact dropEndWhile_append h (c :: cs)

theorem trimmed_blank_append {blanks : List Char} (h : ∀ c ∈ blanks, isBlank c = true)
    (cs : List Char) : trimmed (blanks ++ cs) = trimmed cs := by
  unfold trimmed trimmedStart
  rw [List.dropWhile_append_of_pos h]

/-- What begins and ends with characters that are not blank is not trimmed. -/
theorem trimmed_of_solid {first last : Char} (hfirst : isBlank first = false)
    (hlast : isBlank last = false) (cs : List Char) :
    trimmed (first :: (cs ++ [last])) = first :: (cs ++ [last]) := by
  have hkept : trimmedStart (first :: (cs ++ [last])) = first :: cs ++ [last] := by
    simp [trimmedStart, hfirst]
  rw [trimmed, hkept]
  exact dropEndWhile_of_last hlast (first :: cs)

/-- Texts that trim to the same are blank together. -/
theorem blankText_congr {s t : String} (h : trim s = trim t) : blankText s = blankText t := by
  have hchars : trimmed s.toList = trimmed t.toList := by
    simpa [trim] using congrArg String.toList h
  have hiff : s.toList.all isBlank = true ↔ t.toList.all isBlank = true := by
    rw [← trimmed_eq_nil_iff, ← trimmed_eq_nil_iff, hchars]
  exact Bool.eq_iff_iff.2 hiff

/-- A line feed at the end of a line is trimmed away. -/
theorem trim_lineFeed (s : String) : trim (s ++ "\n") = trim s := by
  have hblank : ∀ c ∈ ['\n'], isBlank c = true := List.forall_mem_singleton.2 (by decide)
  simp [trim, trimmed_append_blank hblank]

/-- What is dropped at the end is dropped character by character. -/
theorem dropEndWhile_spec (p : Char → Bool) (cs : List Char) :
    ∃ dropped, (∀ c ∈ dropped, p c = true) ∧ cs = dropEndWhile p cs ++ dropped := by
  induction cs with
  | nil => exact ⟨[], List.forall_mem_nil _, rfl⟩
  | cons c cs ih =>
    obtain ⟨dropped, hdropped, hcs⟩ := ih
    rw [dropEndWhile]
    split
    · next hnil =>
      rw [hnil, List.nil_append] at hcs
      split
      · next hc => exact ⟨c :: dropped, List.forall_mem_cons.2 ⟨hc, hdropped⟩, by rw [hcs]; rfl⟩
      · exact ⟨dropped, hdropped, by rw [hcs]; rfl⟩
    · exact ⟨dropped, hdropped, by rw [List.cons_append, ← hcs]⟩

/-- What is trimmed stays as it is. -/
theorem trimmed_trimmed (cs : List Char) : trimmed (trimmed cs) = trimmed cs := by
  obtain ⟨after, hafter, hend⟩ := dropEndWhile_spec isBlank (trimmedStart cs)
  have hbefore : ∀ c ∈ cs.takeWhile isBlank, isBlank c = true := fun c hc =>
    List.mem_takeWhile_imp hc
  have hwhole : cs = cs.takeWhile isBlank ++ (trimmed cs ++ after) := by
    rw [trimmed, trimmedEnd, ← hend, trimmedStart, List.takeWhile_append_dropWhile]
  conv => rhs; rw [hwhole]
  rw [trimmed_blank_append hbefore, trimmed_append_blank hafter]

theorem trim_trim (s : String) : trim (trim s) = trim s := by
  simp [trim, trimmed_trimmed]

/-! ### Lines -/

/-- A list is a row of pieces that end with a separator, and a last piece without one. -/
theorem bySeparator {α : Type} (sep : α) {P : List α → Prop} (last : ∀ t, sep ∉ t → P t)
    (piece : ∀ body rest, sep ∉ body → P rest → P (body ++ sep :: rest)) (t : List α) : P t := by
  induction hn : t.length using Nat.strongRecOn generalizing t with
  | ind n ih =>
    by_cases hmem : sep ∈ t
    · obtain ⟨body, rest, rfl, hbody⟩ := List.eq_append_cons_of_mem hmem
      have hshorter : rest.length < n := by
        rw [← hn, List.length_append, List.length_cons]
        omega
      exact piece body rest hbody (ih _ hshorter rest rfl)
    · exact last t hmem

theorem splitOn_append {sep : Char} (cs rest : List Char) :
    splitOn sep (cs ++ sep :: rest) = splitOn sep cs ++ splitOn sep rest := by
  induction cs using bySeparator sep with
  | last cs h => rw [splitOn_append_sep h, splitOn_of_not_mem h, List.singleton_append]
  | piece body cs h ih =>
    rw [List.append_assoc, List.cons_append, splitOn_append_sep h, splitOn_append_sep h, ih,
      List.cons_append]

namespace RawText

theorem strict?_chars (cs : List Char) : strict? (cs.map .char) = .ok (String.ofList cs) := by
  simp [strict?, charsFrom?_chars]

/-- A line with its line feed. -/
def IsLine (line : RawText) : Prop := ∃ body, line = body ++ [.char '\n'] ∧ .char '\n' ∉ body

theorem IsLine.endsLine {line : RawText} (h : IsLine line) : endsLine line = true := by
  obtain ⟨body, rfl, -⟩ := h
  simp [Orchestration.endsLine]

theorem linesKeepingEnds_cons {line : RawText} (h : IsLine line) (rest : RawText) :
    linesKeepingEnds (line ++ rest) = line :: linesKeepingEnds rest := by
  obtain ⟨body, rfl, hbody⟩ := h
  induction body with
  | nil => simp [linesKeepingEnds]
  | cons g body ih =>
    obtain ⟨hg, hbody⟩ : .char '\n' ≠ g ∧ .char '\n' ∉ body := by simpa using hbody
    have hmore := ih hbody
    rw [List.cons_append, List.cons_append, linesKeepingEnds, if_neg (Ne.symm hg), hmore]

theorem linesKeepingEnds_last {t : RawText} (hne : t ≠ []) (h : .char '\n' ∉ t) :
    linesKeepingEnds t = [t] := by
  induction t with
  | nil => exact absurd rfl hne
  | cons g t ih =>
    obtain ⟨hg, ht⟩ : .char '\n' ≠ g ∧ .char '\n' ∉ t := by simpa using h
    rw [linesKeepingEnds, if_neg (Ne.symm hg)]
    cases t with
    | nil => rfl
    | cons g' t => rw [ih (by simp) ht]

/-- Every text is a row of lines and a last part without a line feed. -/
theorem byLines {P : RawText → Prop} (last : ∀ t, .char '\n' ∉ t → P t)
    (line : ∀ line rest, IsLine line → P rest → P (line ++ rest)) (t : RawText) : P t := by
  refine bySeparator (.char '\n') last (fun body rest hbody hrest => ?_) t
  have hwhole := line (body ++ [.char '\n']) rest ⟨body, rfl, hbody⟩ hrest
  rwa [List.append_assoc] at hwhole

/-- Only the last of the lines of a text may lack its line feed. -/
theorem isLine_of_linesKeepingEnds (t : RawText) : ∀ {before line left},
    linesKeepingEnds t = before ++ line :: left →
      (∀ l ∈ before, IsLine l) ∧ (endsLine line = true ∨ left ≠ [] → IsLine line) := by
  induction t using byLines with
  | last t ht =>
    intro before line left h
    cases t with
    | nil => cases before <;> cases h
    | cons g t =>
      rw [linesKeepingEnds_last (by simp) ht] at h
      cases before with
      | cons _ before => cases before <;> cases h
      | nil =>
        cases h
        refine ⟨List.forall_mem_nil _, ?_⟩
        rintro (hend | hleft)
        · have hlast : (g :: t).getLast? = some (.char '\n') := by simpa [endsLine] using hend
          exact absurd (List.mem_of_getLast? hlast) ht
        · exact absurd rfl hleft
  | line first rest hfirst ih =>
    intro before line left h
    rw [linesKeepingEnds_cons hfirst] at h
    cases before with
    | nil =>
      cases h
      exact ⟨List.forall_mem_nil _, fun _ => hfirst⟩
    | cons l before =>
      obtain ⟨rfl, hrest⟩ := List.cons.inj h
      obtain ⟨hbefore, hline⟩ := ih hrest
      exact ⟨List.forall_mem_cons.2 ⟨hfirst, hbefore⟩, hline⟩

theorem linesKeepingEnds_rows {rows : List RawText} (h : ∀ l ∈ rows, IsLine l) (t : RawText) :
    linesKeepingEnds (rows.flatten ++ t) = rows ++ linesKeepingEnds t := by
  induction rows with
  | nil => rfl
  | cons l rows ih =>
    obtain ⟨hl, hrows⟩ := List.forall_mem_cons.1 h
    rw [List.flatten_cons, List.append_assoc, linesKeepingEnds_cons hl, ih hrows, List.cons_append]

/-- Rows are read back from their text. -/
theorem linesKeepingEnds_flatten_rows {rows : List RawText} (h : ∀ l ∈ rows, IsLine l) :
    linesKeepingEnds rows.flatten = rows := by
  have hsplit := linesKeepingEnds_rows h []
  rwa [List.append_nil, linesKeepingEnds, List.append_nil] at hsplit

/-- What a text has after a line is continued by what follows the text. -/
theorem linesKeepingEnds_append {t : RawText} {before left : List RawText} {line : RawText}
    (h : linesKeepingEnds t = before ++ line :: left) (hline : IsLine line) (later : RawText) :
    linesKeepingEnds (t ++ later) =
      before ++ line :: linesKeepingEnds (left.flatten ++ later) := by
  have hbefore := (isLine_of_linesKeepingEnds t h).1
  have ht : t = before.flatten ++ (line ++ left.flatten) := by
    rw [← linesKeepingEnds_flatten t, h, List.flatten_append, List.flatten_cons]
  rw [ht, List.append_assoc, List.append_assoc, linesKeepingEnds_rows hbefore,
    linesKeepingEnds_cons hline]

end RawText

end Orchestration
