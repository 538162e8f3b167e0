import Orchestration.Proofs.Lines
import Orchestration.Proofs.Walks

/-!
# Where paths lead

A path leads to a place whether anything lies there or not.  Joined to a directory it goes on from
there, unless it starts anew, and it stays below the directory unless its parts lead out:

* `pathParts_slash`, `pathParts_inj` — the parts of a path that goes on behind a slash, and the path
  that has given parts;
* `Disk.leadsTo`, `leadsTo_joinPath` — where a path leads, its dots resolved;
* `Disk.innerPlace?` — where parts lead that never leave the directory they start in,
  `reach_below` and `not_prefix_reach_of_climb` — what is known of all others.
-/

namespace Orchestration

theorem pathParts_slash (front rest : String) :
    pathParts (front ++ "/" ++ rest) = pathParts front ++ pathParts rest := by
  have text : (front ++ "/" ++ rest).toList = front.toList ++ '/' :: rest.toList := by simp
  rw [pathParts, text, splitOn_append, List.map_append]
  rfl

theorem pathParts_of_slashless {name : String} (plain : '/' ∉ name.toList) :
    pathParts name = [name] := by
  rw [pathParts, splitOn_of_not_mem plain, List.map_singleton, String.ofList_toList]

theorem pathParts_inj {path path' : String} : pathParts path = pathParts path' ↔ path = path' := by
  refine ⟨fun same => String.toList_inj.1 ?_, fun same => same ▸ rfl⟩
  rw [← joinWith_pathParts path, same, joinWith_pathParts]

namespace Disk

/-! ### Where paths lead -/

/-- Where a path leads when its parts are read, directories or not. -/
def leadsTo (cwd : Place) (path : String) : Place := reach (startOf cwd path) (pathParts path)

theorem reach_append (here : Place) (parts rest : List String) :
    reach here (parts ++ rest) = reach (reach here parts) rest := List.foldl_append

theorem leadsTo_joinPath (cwd : Place) (dir : String) {path : String}
    (relative : isAbsolutePath path = false) :
    leadsTo cwd (joinPath dir path) = reach (leadsTo cwd dir) (pathParts path) := by
  by_cases blank : dir = ""
  · subst blank
    have here : leadsTo cwd "" = cwd := rfl
    have same : joinPath "" path = path := by simp [joinPath]
    rw [here, same, leadsTo, startOf, relative, if_neg Bool.false_ne_true]
  have written : dir.isEmpty = false := by simpa using blank
  obtain ⟨first, rest, chars⟩ : ∃ first rest, dir.toList = first :: rest :=
    List.exists_cons_of_ne_nil fun none => blank (String.toList_inj.1 none)
  have start : startOf cwd (joinPath dir path) = startOf cwd dir := by
    have same : isAbsolutePath (joinPath dir path) = isAbsolutePath dir := by
      rw [joinPath, relative, written, Bool.or_false, if_neg Bool.false_ne_true]
      split <;> simp [isAbsolutePath, chars]
    rw [startOf, startOf, same]
  rw [leadsTo, start, leadsTo, ← reach_append, joinPath, relative, written, Bool.or_false,
    if_neg Bool.false_ne_true]
  split
  · next slash =>
    -- the empty part behind the last slash makes way for the parts of the path
    obtain ⟨front, text⟩ : ∃ front, dir = front ++ "/" := by
      obtain ⟨cs, ended⟩ := List.getLast?_eq_some_iff.1 (beq_iff_eq.1 slash)
      exact ⟨String.ofList cs, String.toList_inj.1 (by simpa using ended)⟩
    have parts : pathParts dir = pathParts front ++ [""] := by
      have whole : dir = front ++ "/" ++ "" := by rw [text, String.append_empty]
      rw [whole, pathParts_slash]
      rfl
    rw [text, pathParts_slash, ← text, parts, reach_append, reach_append, reach_append]
    rfl
  · rw [pathParts_slash]

theorem isBelow_iff {top place : Place} :
    isBelow top place = true ↔ ∃ below, below ≠ [] ∧ place = top ++ below := by
  rw [isBelow, isAtOrBelow, Bool.and_eq_true, List.isPrefixOf_iff_prefix, bne_iff_ne]
  constructor
  · rintro ⟨⟨below, rfl⟩, other⟩
    exact ⟨below, fun none => other (by rw [none, List.append_nil]), rfl⟩
  · rintro ⟨below, some, rfl⟩
    exact ⟨List.prefix_append _ _, by simpa using some⟩

/-! ### Ways that stay in a directory -/

/-- Where parts lead, seen from the directory that they start in, if they never leave it; `inner`
is where the parts before them lead. -/
def innerPlace? (inner : Place) : List String → Option Place
  | [] => some inner
  | part :: rest =>
    if isIdlePart part then innerPlace? inner rest
    else if part == ".." then
      if inner = [] then none else innerPlace? inner.dropLast rest
    else innerPlace? (inner ++ [part]) rest

theorem reach_of_innerPlace {parts : List String} {inner below : Place}
    (h : innerPlace? inner parts = some below) (top : Place) :
    reach (top ++ inner) parts = top ++ below := by
  induction parts generalizing inner with
  | nil => rw [Option.some.inj h]; rfl
  | cons part rest ih =>
    rw [innerPlace?] at h
    have step : reach (top ++ inner) (part :: rest) = reach (stepTo (top ++ inner) part) rest := rfl
    rw [step, stepTo]
    by_cases idle : isIdlePart part = true
    · rw [if_pos idle] at h ⊢
      exact ih h
    rw [if_neg idle] at h ⊢
    by_cases up : (part == "..") = true
    · rw [if_pos up] at h ⊢
      split at h
      · cases h
      · next deeper =>
        rw [List.dropLast_append_of_ne_nil deeper]
        exact ih h
    · rw [if_neg up] at h ⊢
      rw [List.append_assoc]
      exact ih h

theorem reach_below {parts : List String} {below : Place} (h : innerPlace? [] parts = some below)
    (top : Place) : reach top parts = top ++ below := by
  have way := reach_of_innerPlace h top
  rwa [List.append_nil] at way

/-- A way that does not name a directory does not lead into it. -/
theorem not_prefix_reach {parts : List String} {front : Place} {name : String}
    (unnamed : name ∉ parts) {here : Place} (out : ¬ front ++ [name] <+: here) :
    ¬ front ++ [name] <+: reach here parts := by
  induction parts generalizing here with
  | nil => exact out
  | cons part rest ih =>
    refine ih (fun mem => unnamed (List.mem_cons_of_mem _ mem)) ?_
    rw [stepTo]
    split
    · exact out
    split
    · exact fun into => out (into.trans (List.dropLast_prefix here))
    · intro into
      rcases List.prefix_concat_iff.1 into with same | into
      · have last : name = part := by simpa using congrArg List.getLast? same
        exact unnamed (last ▸ List.mem_cons_self)
      · exact out into

/-- A way out of a directory does not lead back into it unless its name comes again. -/
theorem not_prefix_reach_of_climb {parts : List String} {inner front : Place} {name : String}
    (climbs : innerPlace? inner parts = none) (unnamed : name ∉ parts) :
    ¬ front ++ [name] <+: reach (front ++ [name] ++ inner) parts := by
  induction parts generalizing inner with
  | nil => cases climbs
  | cons part rest ih =>
    have later : name ∉ rest := fun mem => unnamed (List.mem_cons_of_mem _ mem)
    rw [innerPlace?] at climbs
    have step : reach (front ++ [name] ++ inner) (part :: rest) =
        reach (stepTo (front ++ [name] ++ inner) part) rest := rfl
    rw [step, stepTo]
    by_cases idle : isIdlePart part = true
    · rw [if_pos idle] at climbs ⊢
      exact ih climbs later
    rw [if_neg idle] at climbs ⊢
    by_cases up : (part == "..") = true
    · rw [if_pos up] at climbs ⊢
      split at climbs
      · next top =>
        -- here the way leaves the directory
        rw [top, List.append_nil, List.dropLast_concat]
        refine not_prefix_reach later fun into => ?_
        have lengths := into.length_le
        rw [List.length_append, List.length_singleton] at lengths
        omega
      · next deeper =>
        rw [List.dropLast_append_of_ne_nil deeper]
        exact ih climbs later
    · rw [if_neg up] at climbs ⊢
      rw [List.append_assoc _ inner]
      exact ih climbs later

end Disk

end Orchestration
