import Mathlib.Data.Option.Basic
import Orchestration.Proofs.Packages

/-!
# Comments in a file that declares a module

The module of a repository is what stands behind the first `module` of a line in its `go.mod`, up to
the end of that line.  A comment at the end of any other line is not looked at, but one at the end
of such a line becomes part of the name, and then no package lies in the module any more:

* `IsLineOf` — a line between what stands before it and what stands behind it;
* `goModuleOf_line` — the module that a text declares, by its lines;
* `BeginsDeclaration` — the lines that declare a module if something is written behind them;
* `moduleOfLine_comment`, `moduleOfLine_comment_of_begins` — a line with a comment;
* `Resolver.comment_moves_iff` — the packages whose command a comment changes;
* `Resolver.comment_loses_package` — one of them.
-/

namespace Orchestration

/-! ### Modules by lines -/

theorem moduleOfLine_congr {line line' : List Char} (h : trimmed line = trimmed line') :
    moduleOfLine line = moduleOfLine line' := by
  simp only [moduleOfLine, h]

theorem moduleOfLine_append_blank {blanks : List Char} (h : ∀ c ∈ blanks, isBlank c = true)
    (line : List Char) : moduleOfLine (line ++ blanks) = moduleOfLine line :=
  moduleOfLine_congr (trimmed_append_blank h line)

theorem moduleOfLine_withoutReturn (line : List Char) :
    moduleOfLine (withoutReturn line) = moduleOfLine line := by
  unfold withoutReturn
  split
  · next last =>
    obtain ⟨front, rfl⟩ := List.getLast?_eq_some_iff.1 last
    rw [List.dropLast_concat]
    exact (moduleOfLine_append_blank (List.forall_mem_singleton.2 (by decide)) front).symm
  · rfl

/-- Every line counts, the last one too: an empty one declares nothing. -/
theorem goModuleOf_eq (text : String) :
    goModuleOf text = (splitOn '\n' text.toList).findSome? moduleOfLine := by
  have ended : ∀ lines : List (List Char),
      (lines.map withoutReturn).findSome? moduleOfLine = lines.findSome? moduleOfLine := by
    intro lines
    rw [List.findSome?_map]
    exact congrArg (List.findSome? · lines) (funext moduleOfLine_withoutReturn)
  obtain ⟨earlier, last, lines⟩ : ∃ earlier last, splitOn '\n' text.toList = earlier ++ [last] :=
    ⟨_, _, (List.dropLast_concat_getLast (splitOn_ne_nil '\n' _)).symm⟩
  rw [goModuleOf, textLines, lines, List.reverse_concat]
  dsimp only
  rw [List.reverse_reverse, List.findSome?_append]
  split
  · next empty =>
    have nothing : [last].findSome? moduleOfLine = none := by
      rw [List.isEmpty_iff.1 empty]
      decide
    rw [ended, nothing, Option.or_none]
  · rw [List.findSome?_append, ended]

theorem goModuleOf_lineFeed (earlier later : String) :
    goModuleOf (earlier ++ "\n" ++ later) = (goModuleOf earlier).or (goModuleOf later) := by
  have text : (earlier ++ "\n" ++ later).toList = earlier.toList ++ '\n' :: later.toList := by simp
  rw [goModuleOf_eq, goModuleOf_eq, goModuleOf_eq, text, splitOn_append, List.findSome?_append]

theorem goModuleOf_single {line : String} (h : '\n' ∉ line.toList) :
    goModuleOf line = moduleOfLine line.toList := by
  rw [goModuleOf_eq, splitOn_of_not_mem h]
  simp

/-- A line between what stands before it and what stands behind it; its end may have a carriage
return. -/
structure IsLineOf (before line after : String) : Prop where
  single : '\n' ∉ line.toList
  begins : before = "" ∨ ∃ earlier, before = earlier ++ "\n"
  ends : after = "" ∨ (∃ later, after = "\n" ++ later) ∨ ∃ later, after = "\r\n" ++ later

/-- A line declares a module if none before it does. -/
theorem goModuleOf_line {before line after : String} (h : IsLineOf before line after) :
    goModuleOf (before ++ line ++ after) =
      (goModuleOf before).or ((moduleOfLine line.toList).or (goModuleOf after)) := by
  have nothing : goModuleOf "" = none := by decide
  have rest : goModuleOf (line ++ after) =
      (moduleOfLine line.toList).or (goModuleOf after) := by
    rcases h.ends with rfl | ⟨later, rfl⟩ | ⟨later, rfl⟩
    · rw [String.append_empty, goModuleOf_single h.single, nothing, Option.or_none]
    · have empty : "\n" ++ later = "" ++ "\n" ++ later := by simp
      rw [empty, goModuleOf_lineFeed, nothing, Option.none_or, ← empty, ← String.append_assoc,
        goModuleOf_lineFeed, goModuleOf_single h.single]
    · have returned : '\n' ∉ (line ++ "\r").toList := by simpa using h.single
      have blank : ∀ c ∈ ['\r'], isBlank c = true := List.forall_mem_singleton.2 (by decide)
      have cut : "\r\n" ++ later = "\r" ++ "\n" ++ later := rfl
      have alone : goModuleOf "\r" = none := by decide
      rw [cut, goModuleOf_lineFeed, alone, Option.none_or, ← String.append_assoc,
        ← String.append_assoc, goModuleOf_lineFeed, goModuleOf_single returned,
        String.toList_append]
      exact congrArg (Option.or · _) (moduleOfLine_append_blank blank line.toList)
  rw [String.append_assoc]
  rcases h.begins with rfl | ⟨earlier, rfl⟩
  · rw [String.empty_append, rest, nothing, Option.none_or]
  · have ended : goModuleOf (earlier ++ "\n") = goModuleOf earlier := by
      rw [← String.append_empty (s := earlier ++ "\n"), goModuleOf_lineFeed, nothing,
        Option.or_none]
    rw [goModuleOf_lineFeed, rest, ended]

/-! ### Lines with a comment -/

/-- A line with a comment at its end. -/
def commented (line comment : String) : String := line ++ " //" ++ comment

theorem IsLineOf.commented {before line after comment : String} (h : IsLineOf before line after)
    (plain : '\n' ∉ comment.toList) : IsLineOf before (commented line comment) after :=
  ⟨by simp [Orchestration.commented, h.single, plain], h.begins, h.ends⟩

theorem toList_commented (line comment : String) :
    (commented line comment).toList = line.toList ++ ' ' :: '/' :: '/' :: comment.toList := by
  simp [commented]

/-- A line begins a declaration: behind the white space at its beginning it has the word `module`,
and nothing or white space behind that. -/
def BeginsDeclaration (line : List Char) : Prop :=
  ∃ rest, trimmedStart line = "module".toList ++ rest ∧ ∀ c ∈ rest.head?, isBlank c = true

theorem beginsDeclaration_of_moduleOfLine {line : List Char} {own : String}
    (h : moduleOfLine line = some own) : BeginsDeclaration line := by
  obtain ⟨rest, strips, h⟩ := Option.bind_eq_some_iff.1 h
  obtain ⟨first, head, h⟩ := Option.bind_eq_some_iff.1 h
  obtain ⟨_, blank, _⟩ := Option.bind_eq_some_iff.1 h
  have white : isBlank first = true := (Option.guard_eq_some' _).1 blank
  obtain ⟨blanks, -, whole⟩ := dropEndWhile_spec isBlank (trimmedStart line)
  have word : dropEndWhile isBlank (trimmedStart line) = "module".toList ++ rest :=
    (stripStart?_eq_some_iff _ _ _).1 strips
  obtain ⟨more, rfl⟩ : ∃ more, rest = first :: more := List.head?_eq_some_iff.1 head
  refine ⟨first :: (more ++ blanks), ?_, ?_⟩
  · rw [whole, word]
    simp
  · rintro _ ⟨⟩
    exact white

theorem trimmedStart_append {line : List Char} (h : trimmedStart line ≠ []) (more : List Char) :
    trimmedStart (line ++ more) = trimmedStart line ++ more := by
  unfold trimmedStart at h ⊢
  rw [List.dropWhile_append, if_neg (by simpa using h)]

theorem trimmedStart_commented (line comment : List Char) :
    trimmedStart (line ++ ' ' :: '/' :: '/' :: comment) =
      if trimmedStart line = [] then '/' :: '/' :: comment
      else trimmedStart line ++ ' ' :: '/' :: '/' :: comment := by
  split
  · next blank =>
    have white : ∀ c ∈ line ++ [' '], isBlank c = true := by
      have all : ∀ c ∈ line, isBlank c = true := List.dropWhile_eq_nil_iff.1 blank
      simpa [or_imp, forall_and] using ⟨all, by decide⟩
    rw [List.append_cons, trimmedStart, List.dropWhile_append_of_pos white]
    exact List.dropWhile_cons_of_neg (by decide)
  · next solid => rw [trimmedStart_append solid]

/-- A comment does not make a line begin a declaration. -/
theorem BeginsDeclaration.of_commented {line comment : String}
    (h : BeginsDeclaration (commented line comment).toList) : BeginsDeclaration line.toList := by
  obtain ⟨rest, word, white⟩ := h
  rw [toList_commented, trimmedStart_commented] at word
  split at word
  · exact absurd (List.cons.inj word).1 (by decide)
  · rcases List.append_eq_append_iff.1 word with ⟨more, early, late⟩ | ⟨more, early, late⟩
    · -- the word would go on into the comment, whose first character is a space
      cases more with
      | nil => exact ⟨[], by simpa using early.symm, nofun⟩
      | cons c more =>
        have space : ' ' = c := (List.cons.inj late).1
        have inside : ' ' ∈ "module".toList := by
          rw [early, space]
          exact List.mem_append_right _ List.mem_cons_self
        exact absurd inside (by decide)
    · refine ⟨more, early, fun c head => white c ?_⟩
      rw [late, List.head?_append, head]
      rfl

theorem moduleOfLine_comment {line : String} (h : ¬ BeginsDeclaration line.toList)
    (comment : String) : moduleOfLine line.toList = none ∧
      moduleOfLine (commented line comment).toList = none := by
  refine ⟨?_, ?_⟩ <;> refine Option.eq_none_iff_forall_ne_some.2 fun own declared => h ?_
  · exact beginsDeclaration_of_moduleOfLine declared
  · exact (beginsDeclaration_of_moduleOfLine declared).of_commented

/-- What is cut off at the ends of a text leaves a kept character, and what is around it. -/
theorem dropEndWhile_kept {p : Char → Bool} {c : Char} (h : p c = false) (front back : List Char) :
    dropEndWhile p (front ++ c :: back) = front ++ c :: dropEndWhile p back := by
  induction front with
  | nil =>
    rw [List.nil_append, dropEndWhile]
    cases dropEndWhile p back <;> simp [h]
  | cons d front ih =>
    rw [List.cons_append, dropEndWhile, ih]
    cases front <;> rfl

theorem dropWhile_kept {p : Char → Bool} {c : Char} (h : p c = false) (front back : List Char) :
    ∃ kept, (front ++ c :: back).dropWhile p = kept ++ c :: back := by
  rw [List.dropWhile_append]
  split
  · exact ⟨[], List.dropWhile_cons_of_neg (by simp [h])⟩
  · exact ⟨_, rfl⟩

theorem trimMatches_kept {p : Char → Bool} {c : Char} (h : p c = false) (front back : List Char) :
    ∃ kept kept', trimMatches p (front ++ c :: c :: back) = kept ++ c :: c :: kept' := by
  obtain ⟨kept, start⟩ := dropWhile_kept h front (c :: back)
  refine ⟨kept, dropEndWhile p back, ?_⟩
  rw [trimMatches, start, List.append_cons, dropEndWhile_kept h, ← List.append_cons]

/-- On a line that begins a declaration, the comment becomes part of the name. -/
theorem moduleOfLine_comment_of_begins {line : String} (h : BeginsDeclaration line.toList)
    (comment : String) : ∃ front back : List Char,
      moduleOfLine (commented line comment).toList =
        some (String.ofList (front ++ '/' :: '/' :: back)) := by
  obtain ⟨rest, word, white⟩ := h
  have solid : isBlank '/' = false := by decide
  obtain ⟨kept, inner⟩ : ∃ kept, trimmed (commented line comment).toList =
      "module".toList ++ (rest ++ ' ' :: '/' :: '/' :: kept) := by
    refine ⟨dropEndWhile isBlank comment.toList, ?_⟩
    have slash : "module".toList ++ rest ++ ' ' :: '/' :: '/' :: comment.toList =
        ("module".toList ++ rest ++ [' ', '/']) ++ '/' :: comment.toList := by simp
    rw [toList_commented, trimmed, trimmedStart_commented, word, if_neg (by simp), trimmedEnd,
      slash, dropEndWhile_kept solid]
    simp
  obtain ⟨first, head, blank⟩ : ∃ c, (rest ++ ' ' :: '/' :: '/' :: kept).head? = some c ∧
      isBlank c = true := by
    cases rest with
    | nil => exact ⟨' ', rfl, by decide⟩
    | cons c rest => exact ⟨c, rfl, white c rfl⟩
  obtain ⟨front, back, solidName⟩ := trimMatches_kept solid (rest ++ [' ']) kept
  have bare : ('/' == '"') = false := by decide
  obtain ⟨front', back', name⟩ := trimMatches_kept (p := (· == '"')) bare front back
  rw [← solidName, ← List.append_cons] at name
  have strips : stripStart? "module".toList (trimmed (commented line comment).toList) =
      some (rest ++ ' ' :: '/' :: '/' :: kept) := (stripStart?_eq_some_iff _ _ _).2 inner
  refine ⟨front', back', ?_⟩
  have named : trimMatches (· == '"') (trimmed (rest ++ ' ' :: '/' :: '/' :: kept)) =
      front' ++ '/' :: '/' :: back' := name
  have written : (!(front' ++ '/' :: '/' :: back').isEmpty) = true := by simp
  simp only [moduleOfLine, strips, head, named, (Option.guard_eq_some' ()).2 blank,
    (Option.guard_eq_some' ()).2 written, bind, Option.bind]
  rfl

/-! ### Commands -/

/-- No package lies in a module whose name has two slashes side by side. -/
theorem not_liesIn_slashes {path : String} (located : IsPackagePath path) (front back : List Char) :
    ¬ LiesIn (String.ofList (front ++ '/' :: '/' :: back)) path := by
  have broken : ¬ IsPackagePath (String.ofList (front ++ '/' :: '/' :: back)) := by
    have text : String.ofList (front ++ '/' :: '/' :: back) =
        String.ofList front ++ "/" ++ ("" ++ "/" ++ String.ofList back) := by
      rw [← String.toList_inj]
      simp
    rw [text]
    exact fun whole => whole.of_slash.2.of_slash.1.ne_empty rfl
  rintro (rfl | ⟨rest, -, rfl⟩)
  · exact broken located
  · exact broken located.of_slash.1

namespace Resolver

/-- The `go.mod` of the repository, if there is a repository, has a text. -/
def Declares (r : Resolver) (d : Disk) (cwd : Place) (text : String) : Prop :=
  ∀ root, r.root = some root →
    d.read cwd (joinPath root "go.mod") = .ok (RawText.ofString text)

theorem moduleName_of_declares {r : Resolver} {d : Disk} {cwd : Place} {text : String}
    (h : r.Declares d cwd text) (unknown : r.goModule = none) :
    r.moduleName d cwd = r.root.bind fun _ => goModuleOf text := by
  rw [moduleName, unknown, Option.getD_none]
  cases here : r.root with
  | none => rfl
  | some root =>
    simp only [Option.bind_some, readGoModule, h root here, RawText.ofString_strict?]
    rfl

variable {r : Resolver} {d d' : Disk} {cwd : Place} {before line after comment : String}

theorem inRepository_root {root : Option String} {own path : String}
    (h : InRepository root (root.bind fun _ => some own) path) : LiesIn own path := by
  obtain ⟨dir, own', rfl, named, lies⟩ := h
  cases named
  exact lies

/-- The module that a resolver goes by stays as it is if a comment comes behind a line that is not
looked at: the module is known, a line before this one declares it, or this one does not begin a
declaration. -/
theorem moduleName_commented (h : IsLineOf before line after) (plain : '\n' ∉ comment.toList)
    (reads : r.Declares d cwd (before ++ line ++ after))
    (reads' : r.Declares d' cwd (before ++ commented line comment ++ after))
    (idle : ¬ (r.goModule = none ∧ goModuleOf before = none ∧ BeginsDeclaration line.toList)) :
    r.moduleName d' cwd = r.moduleName d cwd := by
  cases known : r.goModule with
  | some own => rw [moduleName, moduleName, known, Option.getD_some, Option.getD_some]
  | none =>
    rw [moduleName_of_declares reads known, moduleName_of_declares reads' known,
      goModuleOf_line h, goModuleOf_line (h.commented plain)]
    cases declared : goModuleOf before with
    | some own => rfl
    | none =>
      obtain ⟨without, withComment⟩ :=
        moduleOfLine_comment (fun begins => idle ⟨known, declared, begins⟩) comment
      rw [without, withComment]

/-- Once the comment is part of the module's name, no package lies in the module. -/
theorem not_inRepository_commented (h : IsLineOf before line after)
    (plain : '\n' ∉ comment.toList)
    (reads' : r.Declares d' cwd (before ++ commented line comment ++ after))
    (unknown : r.goModule = none) (first : goModuleOf before = none)
    (begins : BeginsDeclaration line.toList) {path : String} (located : IsPackagePath path) :
    ¬ InRepository r.root (r.moduleName d' cwd) path := by
  obtain ⟨front, back, swallowed⟩ := moduleOfLine_comment_of_begins begins comment
  rw [moduleName_of_declares reads' unknown, goModuleOf_line (h.commented plain), first, swallowed,
    Option.none_or, Option.some_or]
  exact fun inside => not_liesIn_slashes located front back (inRepository_root inside)

/-- A comment comes behind a line of the `go.mod`.  It changes the command of a Go package exactly
if the file has not been read before, no earlier line declares a module, the line begins a
declaration, and the package lies in the repository; and then the package is fetched. -/
theorem comment_moves_iff (h : IsLineOf before line after) (plain : '\n' ∉ comment.toList)
    (reads : r.Declares d cwd (before ++ line ++ after))
    (reads' : r.Declares d' cwd (before ++ commented line comment ++ after))
    {s path : String} {version : Option String}
    (read : EngineReference.parse s = .ok (.package .go path version)) :
    ∃ c c', (r.resolve (.package .go path version) d cwd).1 = .ok c ∧
      (r.resolve (.package .go path version) d' cwd).1 = .ok c' ∧
      (c' ≠ c ↔ (r.goModule = none ∧ goModuleOf before = none ∧ BeginsDeclaration line.toList) ∧
        InRepository r.root (r.moduleName d cwd) path) ∧
      (c' ≠ c → c' = .ofProgram "go" ["run", path ++ "@" ++ version.getD "latest"]) := by
  obtain ⟨located, -⟩ := package_of_parse read
  refine ⟨_, _, by rw [resolve_go], by rw [resolve_go], ?_⟩
  by_cases looked : r.goModule = none ∧ goModuleOf before = none ∧ BeginsDeclaration line.toList
  · obtain ⟨unknown, first, begins⟩ := looked
    have outside := not_inRepository_commented h plain reads' unknown first begins located
    have fetched := goCommand_fetched located outside version
    refine ⟨?_, fun _ => fetched⟩
    by_cases inside : InRepository r.root (r.moduleName d cwd) path
    · refine iff_of_true (fun same => outside ?_) ⟨⟨unknown, first, begins⟩, inside⟩
      exact (goCommand_launch _ _ located version).inside_iff.1
        (same ▸ (goCommand_launch _ _ located version).inside_iff.2 inside)
    · rw [fetched, goCommand_fetched located inside]
      exact iff_of_false (fun moved => moved rfl) fun lies => inside lies.2
  · rw [moduleName_commented h plain reads reads' looked]
    exact ⟨iff_of_false (fun moved => moved rfl) fun both => looked both.1,
      fun moved => absurd rfl moved⟩

/-- A comment behind a line after the declaration changes nothing. -/
theorem comment_moves_iff_toolchain :
    let r := fresh (some "/repo") "/cache"
    let lint : EngineReference := .package .go "example.com/forge/lint" none
    let before := "module example.com/forge\n\n"
    IsLineOf before "go 1.22" "\r\n" ∧
      EngineReference.parse "go://example.com/forge/lint" = .ok lint ∧
      r.Declares (declaring (before ++ "go 1.22" ++ "\r\n")) [] (before ++ "go 1.22" ++ "\r\n") ∧
      ∃ c c', (r.resolve lint (declaring (before ++ "go 1.22" ++ "\r\n")) []).1 = .ok c ∧
        (r.resolve lint
          (declaring (before ++ commented "go 1.22" "or later" ++ "\r\n")) []).1 = .ok c' ∧
        c' = c := by
  intro r lint before
  have line : IsLineOf before "go 1.22" "\r\n" :=
    ⟨by decide, .inr ⟨"module example.com/forge\n", rfl⟩, .inr (.inr ⟨"", rfl⟩)⟩
  have read : EngineReference.parse "go://example.com/forge/lint" = .ok lint := by decide +kernel
  have declared : ∀ text, r.Declares (declaring text) [] text := by
    rintro text _ ⟨⟩
    rfl
  have plain : '\n' ∉ "or later".toList := by decide
  obtain ⟨c, c', early, late, moves, -⟩ :=
    comment_moves_iff line plain (declared _) (declared _) read
  have settled : goModuleOf before ≠ none := by decide +kernel
  refine ⟨line, read, declared _, c, c', early, late, ?_⟩
  by_contra moved
  exact settled (moves.1 moved).1.2.1

/-- Behind the declaration itself, a comment sends a package of the repository away. -/
theorem comment_loses_package :
    let r := fresh (some "/repo") "/cache"
    let lint : EngineReference := .package .go "example.com/forge/lint" none
    let line := "module example.com/forge"
    IsLineOf "" line "\n" ∧ '\n' ∉ "Deprecated: moved".toList ∧
      EngineReference.parse "go://example.com/forge/lint" = .ok lint ∧
      ∃ c c', (r.resolve lint (declaring ("" ++ line ++ "\n")) []).1 = .ok c ∧
        (r.resolve lint
          (declaring ("" ++ commented line "Deprecated: moved" ++ "\n")) []).1 = .ok c' ∧
        c' ≠ c :=
  ⟨⟨by decide, .inl rfl, .inr (.inl ⟨"", rfl⟩)⟩, by decide, by decide +kernel, _, _, rfl, rfl,
    by decide +kernel⟩

end Resolver

end Orchestration
