import Orchestration.Disk.Path

/-!
# Parts of paths

A path text and its parts determine each other, and the directory part of a path is the path
without its last name:

* `splitOn_joinWith` — pieces put together are cut apart again;
* `trimParts_front` — trimming takes parts away from the end;
* `parentPath?_above` — the directory part of a path is what stands before one of its slashes,
  unless it is trivial;
* `lastSlash_of_parts`, `parts_of_lastSlash` — a path ends in a slash when its last part is empty;
* `joinPath_inj` — a directory does not confuse the relative paths that are seen from it.
-/

namespace Orchestration

/-! ### Pieces -/

theorem splitOn_of_not_mem {sep : Char} {cs : List Char} (h : sep ∉ cs) :
    splitOn sep cs = [cs] := by
  induction cs with
  | nil => rfl
  | cons c rest ih =>
    have hc : c ≠ sep := fun hc => h (hc ▸ List.mem_cons_self)
    rw [splitOn, if_neg hc, ih fun hm => h (List.mem_cons_of_mem _ hm)]

theorem splitOn_append_sep {sep : Char} {cs : List Char} (h : sep ∉ cs) (rest : List Char) :
    splitOn sep (cs ++ sep :: rest) = cs :: splitOn sep rest := by
  induction cs with
  | nil => rw [List.nil_append, splitOn, if_pos rfl]
  | cons c cs ih =>
    have hc : c ≠ sep := fun hc => h (hc ▸ List.mem_cons_self)
    rw [List.cons_append, splitOn, if_neg hc, ih fun hm => h (List.mem_cons_of_mem _ hm)]

theorem not_mem_of_mem_splitOn {sep : Char} (cs : List Char) :
    ∀ piece ∈ splitOn sep cs, sep ∉ piece := by
  induction cs with
  | nil =>
    intro piece hp
    rw [List.mem_singleton.1 hp]
    exact List.not_mem_nil
  | cons c rest ih =>
    intro piece hp
    rw [splitOn] at hp
    split at hp
    · rcases List.mem_cons.1 hp with rfl | hp
      · exact List.not_mem_nil
      · exact ih piece hp
    · next hc =>
      split at hp
      · next none => exact absurd none (splitOn_ne_nil sep rest)
      · next first pieces some =>
        rcases List.mem_cons.1 hp with rfl | hp
        · intro hm
          rcases List.mem_cons.1 hm with rfl | hm
          · exact hc rfl
          · exact ih first (some ▸ List.mem_cons_self) hm
        · exact ih piece (some ▸ List.mem_cons_of_mem _ hp)

theorem joinWith_cons {sep : Char} (piece : List Char) {pieces : List (List Char)}
    (h : pieces ≠ []) : joinWith sep (piece :: pieces) = piece ++ sep :: joinWith sep pieces := by
  cases pieces with
  | nil => exact absurd rfl h
  | cons => rfl

theorem joinWith_append {sep : Char} {ps qs : List (List Char)} (hp : ps ≠ []) (hq : qs ≠ []) :
    joinWith sep (ps ++ qs) = joinWith sep ps ++ sep :: joinWith sep qs := by
  induction ps with
  | nil => exact absurd rfl hp
  | cons p ps ih =>
    by_cases h : ps = []
    · subst h
      exact joinWith_cons p hq
    · have happ : ps ++ qs ≠ [] := fun hn => hq (List.append_eq_nil_iff.1 hn).2
      rw [List.cons_append, joinWith_cons p happ, ih h, joinWith_cons p h, List.append_assoc]
      rfl

/-- Pieces put together are cut apart again. -/
theorem splitOn_joinWith {sep : Char} {pieces : List (List Char)} (hne : pieces ≠ [])
    (h : ∀ piece ∈ pieces, sep ∉ piece) : splitOn sep (joinWith sep pieces) = pieces := by
  induction pieces with
  | nil => exact absurd rfl hne
  | cons piece pieces ih =>
    by_cases hp : pieces = []
    · subst hp
      exact splitOn_of_not_mem (h piece List.mem_cons_self)
    · rw [joinWith_cons piece hp, splitOn_append_sep (h piece List.mem_cons_self),
        ih hp fun q hq => h q (List.mem_cons_of_mem _ hq)]

/-! ### Parts -/

theorem pathParts_toList (path : String) :
    (pathParts path).map String.toList = splitOn '/' path.toList := by
  rw [pathParts, List.map_map]
  conv => rhs; rw [← List.map_id (splitOn '/' path.toList)]
  exact List.map_congr_left fun cs _ => String.toList_ofList

theorem pathParts_ne_nil (path : String) : pathParts path ≠ [] := by
  intro h
  have := pathParts_toList path
  rw [h] at this
  exact splitOn_ne_nil '/' path.toList this.symm

theorem pathParts_no_slash {path part : String} (h : part ∈ pathParts path) :
    '/' ∉ part.toList := by
  refine not_mem_of_mem_splitOn path.toList part.toList ?_
  rw [← pathParts_toList]
  exact List.mem_map_of_mem h

theorem joinWith_pathParts (path : String) :
    joinWith '/' ((pathParts path).map String.toList) = path.toList := by
  rw [pathParts_toList, joinWith_splitOn]

/-- Trimming takes parts away from the end. -/
theorem trimParts_front (parts : List String) : ∃ rest, parts = trimParts parts ++ rest := by
  cases parts with
  | nil => exact ⟨[], rfl⟩
  | cons first rest =>
    have cut := List.takeWhile_append_dropWhile (p := isIdlePart) (l := rest.reverse)
    have whole : rest = (rest.reverse.dropWhile isIdlePart).reverse ++
        (rest.reverse.takeWhile isIdlePart).reverse := by
      rw [← List.reverse_append, cut, List.reverse_reverse]
    cases kept : (rest.reverse.dropWhile isIdlePart).reverse with
    | nil =>
      by_cases hf : first = ""
      · exact ⟨first :: rest, by simp [trimParts, kept, hf]⟩
      · exact ⟨rest, by simp [trimParts, kept, hf]⟩
    | cons p ps =>
      rw [kept] at whole
      refine ⟨(rest.reverse.takeWhile isIdlePart).reverse, ?_⟩
      simp only [trimParts, kept]
      exact congrArg (first :: ·) whole

theorem trimParts_ne_singleton_empty (parts : List String) : trimParts parts ≠ [""] := by
  cases parts with
  | nil => exact fun h => by cases h
  | cons first rest =>
    cases kept : (rest.reverse.dropWhile isIdlePart).reverse with
    | nil => by_cases hf : first = "" <;> simp [trimParts, kept, hf]
    | cons p ps => simp [trimParts, kept]

/-- The text of parts has these parts. -/
theorem pathParts_joined {parts : List String} (hne : parts ≠ [])
    (h : ∀ part ∈ parts, '/' ∉ part.toList) :
    pathParts (String.ofList (joinWith '/' (parts.map String.toList))) = parts := by
  have hne' : parts.map String.toList ≠ [] := fun hn => hne (List.map_eq_nil_iff.1 hn)
  have hpieces : ∀ piece ∈ parts.map String.toList, '/' ∉ piece := by
    intro piece hp
    obtain ⟨part, hpart, rfl⟩ := List.mem_map.1 hp
    exact h part hpart
  rw [pathParts, String.toList_ofList, splitOn_joinWith hne' hpieces, List.map_map]
  conv => rhs; rw [← List.map_id parts]
  exact List.map_congr_left fun part _ => String.ofList_toList

/-- What parts that are not all of a path put together. -/
theorem toList_of_parts {path : String} {above rest : List String}
    (h : pathParts path = above ++ rest) (hne : above ≠ []) (hrest : rest ≠ []) :
    path.toList = joinWith '/' (above.map String.toList) ++
      '/' :: joinWith '/' (rest.map String.toList) := by
  rw [← joinWith_pathParts, h, List.map_append]
  exact joinWith_append (fun hn => hne (List.map_eq_nil_iff.1 hn))
    (fun hn => hrest (List.map_eq_nil_iff.1 hn))

theorem joinWith_ne_nil {parts : List String} (hne : parts ≠ []) (hne' : parts ≠ [""]) :
    joinWith '/' (parts.map String.toList) ≠ [] := by
  cases parts with
  | nil => exact absurd rfl hne
  | cons first rest =>
    cases rest with
    | nil =>
      intro h
      have : first = "" := by
        have := congrArg String.ofList (show first.toList = [] from h)
        rwa [String.ofList_toList] at this
      exact hne' (by rw [this])
    | cons second more =>
      rw [List.map_cons, joinWith_cons _ (by simp)]
      exact fun h => by simp at h

/-- The directory part of a path is what stands before one of its slashes, unless it is trivial. -/
theorem parentPath?_above (path : String) :
    (parentPath? path).getD "" = "" ∨ parentPath? path = some "/" ∨
    ∃ dir rest, parentPath? path = some dir ∧ dir ≠ "" ∧ rest ≠ [] ∧
      pathParts path = pathParts dir ++ rest ∧
      path.toList = dir.toList ++ '/' :: joinWith '/' (rest.map String.toList) := by
  obtain ⟨idle, trimmed⟩ := trimParts_front (pathParts path)
  obtain ⟨lost, above⟩ := trimParts_front (trimParts (pathParts path)).dropLast
  cases named : trimParts (pathParts path) with
  | nil => exact .inl (by simp [parentPath?, named])
  | cons first more =>
    rw [named] at trimmed above
    cases higher : trimParts (first :: more).dropLast with
    | nil =>
      cases rooted : isAbsolutePath path with
      | true => exact .inr (.inl (by simp [parentPath?, named, higher, rooted]))
      | false => exact .inl (by simp [parentPath?, named, higher, rooted])
    | cons top below =>
      rw [higher] at above
      obtain ⟨last, whole⟩ : ∃ last, first :: more = (first :: more).dropLast ++ [last] :=
        ⟨_, (List.dropLast_concat_getLast (by simp)).symm⟩
      have parts : pathParts path = (top :: below) ++ (lost ++ [last] ++ idle) := by
        calc pathParts path = ((first :: more).dropLast ++ [last]) ++ idle := by
              rw [trimmed]; exact congrArg (· ++ idle) whole
          _ = (top :: below) ++ (lost ++ [last] ++ idle) := by
              rw [above]; simp only [List.append_assoc]
      have noSlash : ∀ part ∈ top :: below, '/' ∉ part.toList := fun part hp =>
        pathParts_no_slash (by rw [parts]; exact List.mem_append_left _ hp)
      have hne : joinWith '/' ((top :: below).map String.toList) ≠ [] :=
        joinWith_ne_nil (by simp) (higher ▸ trimParts_ne_singleton_empty _)
      refine .inr (.inr ⟨String.ofList (joinWith '/' ((top :: below).map String.toList)),
        lost ++ [last] ++ idle, ?_, ?_, by simp, ?_, ?_⟩)
      · simp [parentPath?, named, higher]
      · intro h
        exact hne (by simpa using congrArg String.toList h)
      · rw [pathParts_joined (by simp) noSlash, parts]
      · rw [String.toList_ofList]
        exact toList_of_parts parts (by simp) (by simp)

/-- A path ends in a slash when its last part is empty. -/
theorem lastSlash_of_parts {path : String} {above : List String} (hne : above ≠ [])
    (h : pathParts path = above ++ [""]) : path.toList.getLast? = some '/' := by
  rw [toList_of_parts h hne (by simp)]
  show (joinWith '/' (above.map String.toList) ++ ['/']).getLast? = some '/'
  exact List.getLast?_concat

/-- A path that ends in a slash has an empty last part. -/
theorem parts_of_lastSlash {path name : String} {above : List String}
    (h : path.toList.getLast? = some '/') (parts : pathParts path = above ++ [name]) :
    name = "" := by
  have noSlash : '/' ∉ name.toList := pathParts_no_slash (by rw [parts]; simp)
  have ends : ∃ front, path.toList = front ++ name.toList := by
    by_cases hne : above = []
    · refine ⟨[], ?_⟩
      rw [← joinWith_pathParts, parts, hne]
      rfl
    · refine ⟨joinWith '/' (above.map String.toList) ++ ['/'], ?_⟩
      rw [toList_of_parts parts hne (by simp), List.append_assoc]
      rfl
  obtain ⟨front, text⟩ := ends
  by_cases hname : name.toList = []
  · exact String.toList_inj.1 hname
  · rw [text, List.getLast?_append, Option.or_of_isSome (by simpa using hname)] at h
    exact absurd (List.mem_of_getLast? h) noSlash

theorem parts_of_lastName_ne_empty {path name : String}
    (last : (writtenParts path).getLast? = some name) : name ≠ "" := by
  have mem := (List.mem_filter.1 (List.mem_of_getLast? last)).2
  simpa using mem

theorem lastPart_plain {path : String} (plain : ".." ∉ pathParts path) : lastPart path ≠ ".." := by
  intro up
  unfold lastPart at up
  cases last : (writtenParts path).getLast? with
  | none => rw [last] at up; exact absurd up (by decide)
  | some name =>
    rw [last] at up
    obtain rfl : name = ".." := up
    exact plain (List.mem_filter.1 (List.mem_of_getLast? last)).1

/-- The last name of a path without a slash at its end is its last part. -/
theorem parts_of_lastName {path name : String} (unslashed : path.toList.getLast? ≠ some '/')
    (last : (writtenParts path).getLast? = some name) : ∃ front,
      pathParts path = front ++ [name] ∧
      (writtenParts path).dropLast = front.filter (· != "") := by
  obtain ⟨front, final, parts⟩ : ∃ front final, pathParts path = front ++ [final] :=
    ⟨_, _, (List.dropLast_concat_getLast (pathParts_ne_nil path)).symm⟩
  have nonempty : final ≠ "" := by
    rintro rfl
    by_cases hne : front = []
    · rw [writtenParts, parts, hne] at last
      cases last
    · exact unslashed (lastSlash_of_parts hne parts)
  have written : writtenParts path = front.filter (· != "") ++ [final] := by
    rw [writtenParts, parts, List.filter_append,
      List.filter_cons_of_pos (by simpa using nonempty), List.filter_nil]
  rw [written, List.getLast?_concat] at last
  cases last
  exact ⟨front, parts, by rw [written, List.dropLast_concat]⟩

/-! ### Paths seen from one directory -/

/-- Different relative paths stay different when they are seen from one directory. -/
theorem joinPath_inj {dir p q : String} (hp : isAbsolutePath p = false)
    (hq : isAbsolutePath q = false) (h : joinPath dir p = joinPath dir q) : p = q := by
  simp only [joinPath, hp, hq, Bool.false_or] at h
  have cancel : ∀ front : String, front ++ p = front ++ q → p = q := by
    intro front same
    have texts := congrArg String.toList same
    rw [String.toList_append, String.toList_append] at texts
    exact String.toList_inj.1 (List.append_cancel_left texts)
  split at h
  · exact h
  · split at h
    · exact cancel dir h
    · exact cancel (dir ++ "/") h

end Orchestration
