import Orchestration.Proofs.Walks

/-!
# Files and directories

What one operation on a disk does to what another one finds:

* `Grows` — a disk with more on it; making directories makes it grow;
* `makeAlong_append`, `makeAlong_of_walk` — directories that are there already are not made again;
* `makeAlong_again` — what could not be made cannot be made afterwards either;
* `read_replace` — a file that was replaced is there;
* `replace_of_read` — a file that is there can be replaced;
* `read_makeDirs` — making directories does not change what a file without ways up in its path
  holds;
* `sameOutside_removeDir`, `SameOutside.read` — nor does removing a directory that the file is not
  in.
-/

namespace Orchestration

namespace Disk

/-! ### Making directories -/

/-- Everything on a disk lies on the other one as well. -/
def Grows (d d' : Disk) : Prop :=
  ∀ (place : Place) (entry : DiskEntry), d.entry? place = some entry →
    d'.entry? place = some entry

theorem Grows.refl (d : Disk) : d.Grows d := fun _ _ h => h

theorem Grows.trans {d₁ d₂ d₃ : Disk} (h : d₁.Grows d₂) (h' : d₂.Grows d₃) : d₁.Grows d₃ :=
  fun place entry lies => h' place entry (h place entry lies)

theorem Grows.put {d : Disk} {place : Place} (entry : DiskEntry) (free : d.entry? place = none) :
    d.Grows (d.put place entry) := by
  intro p e lies
  rw [entry?_put_of_ne d entry fun same => by rw [same, free] at lies; cases lies]
  exact lies

theorem makeAlong_grows (d : Disk) (here : Place) (parts : List String) :
    d.Grows (d.makeAlong here parts).2 := by
  fun_induction makeAlong d here parts with
  | case1 | case4 | case6 => exact .refl _
  | case2 d here part rest idle ih => exact ih
  | case3 d here part rest idle up ih => exact ih
  | case5 d here part rest idle up short dir ih => exact ih
  | case7 d here part rest idle up short free ih => exact (Grows.put .directory free).trans ih

/-- Directories on a way are there, so the first that can be made is behind it. -/
theorem makeAlong_append {d : Disk} {here place : Place} {parts : List String}
    (rest : List String) (h : d.walk here parts = .ok place)
    (dir : d.entry? place = some .directory) :
    d.makeAlong here (parts ++ rest) = d.makeAlong place rest := by
  induction parts generalizing here with
  | nil =>
    cases h
    rfl
  | cons part parts ih =>
    rw [walk, walk_cons h] at h
    rw [List.cons_append, makeAlong]
    by_cases idle : (part == "" || part == ".") = true
    · rw [if_pos idle] at h ⊢
      exact ih h
    · rw [if_neg idle] at h ⊢
      by_cases up : (part == "..") = true
      · rw [if_pos up] at h ⊢
        exact ih h
      · rw [if_neg up] at h ⊢
        by_cases long : maxNameBytes < part.utf8ByteSize
        · rw [if_pos long] at h
          cases h
        · rw [if_neg long] at h ⊢
          have next : d.entry? (here ++ [part]) = some .directory := by
            by_cases last : parts = []
            · subst last
              cases h
              exact dir
            · exact walk_of_ne_nil last h
          rw [next]
          exact ih h

/-- Directories on a way that goes on are there, so none is made. -/
theorem makeAlong_of_walk {d : Disk} {here place : Place} {parts rest : List String}
    (hne : rest ≠ []) (h : d.walk here (parts ++ rest) = .ok place) :
    d.makeAlong here parts = (.ok (), d) := by
  rw [walk_append] at h
  cases way : d.walk here parts with
  | error f => rw [way] at h; cases h
  | ok above =>
    rw [way] at h
    have whole := makeAlong_append [] way (walk_of_ne_nil hne h)
    rwa [List.append_nil] at whole

/-- What could not be made cannot be made afterwards either. -/
theorem makeAlong_again {d d' : Disk} {here : Place} {parts : List String} {f : SystemFault}
    (h : d.makeAlong here parts = (.error f, d')) :
    d'.makeAlong here parts = (.error f, d') := by
  fun_induction makeAlong d here parts with
  | case1 => cases h
  | case2 d here part rest idle ih => rw [makeAlong, if_pos idle]; exact ih h
  | case3 d here part rest idle up ih => rw [makeAlong, if_neg idle, if_pos up]; exact ih h
  | case4 d here part rest idle up long =>
    cases h
    rw [makeAlong, if_neg idle, if_neg up, if_pos long]
  | case5 d here part rest idle up short dir ih =>
    have stays := makeAlong_grows d (here ++ [part]) rest _ _ dir
    rw [h] at stays
    rw [makeAlong, if_neg idle, if_neg up, if_neg short, stays]
    exact ih h
  | case6 d here part rest idle up short content mode file =>
    cases h
    rw [makeAlong, if_neg idle, if_neg up, if_neg short, file]
  | case7 d here part rest idle up short free ih =>
    -- the directory that was made here is there the second time
    have stays := makeAlong_grows (d.put (here ++ [part]) .directory) (here ++ [part]) rest _ _
      (entry?_put_same d .directory (by simp))
    rw [h] at stays
    rw [makeAlong, if_neg idle, if_neg up, if_neg short, stays]
    exact ih h

/-! ### The directory part of a path -/

theorem text_above {dir path : String} {below : List Char}
    (text : path.toList = dir.toList ++ '/' :: below) :
    path = dir ++ String.ofList ('/' :: below) := by
  rw [← String.toList_inj, String.toList_append, String.toList_ofList, text]

theorem refuse?_above {dir path : String} {below : List Char} (hne : dir ≠ "")
    (text : path.toList = dir.toList ++ '/' :: below) (h : refuse? path = none) :
    refuse? dir = none := by
  have named : dir.isEmpty = false := by simpa using hne
  have size : path.utf8ByteSize =
      dir.utf8ByteSize + (String.ofList ('/' :: below)).utf8ByteSize := by
    rw [text_above text, String.utf8ByteSize_append]
  unfold refuse? at h ⊢
  split at h
  · cases h
  · split at h
    · cases h
    · next clean =>
      split at h
      · cases h
      · next short =>
        have noNul : ¬ dir.toList.contains (Char.ofNat 0) = true := by
          intro nul
          rw [text, List.contains_eq_mem, decide_eq_true_eq] at clean
          rw [List.contains_eq_mem, decide_eq_true_eq] at nul
          exact clean (List.mem_append_left _ nul)
        have fits : ¬ maxPathBytes ≤ dir.utf8ByteSize := by omega
        rw [named, if_neg noNul, if_neg fits]
        rfl

theorem startOf_above {dir path : String} {below : List Char} (cwd : Place) (hne : dir ≠ "")
    (text : path.toList = dir.toList ++ '/' :: below) : startOf cwd dir = startOf cwd path := by
  have starts : dir.toList.head? = path.toList.head? := by
    cases chars : dir.toList with
    | nil => exact absurd (String.toList_inj.1 chars) hne
    | cons c cs => rw [text, chars]; rfl
  unfold startOf isAbsolutePath
  rw [starts]

/-- A directory from which a way goes on is there already. -/
theorem makeDirs_of_walk {d : Disk} {cwd place : Place} {dir path : String} {rest : List String}
    (hne : dir ≠ "") (hrest : rest ≠ []) (parts : pathParts path = pathParts dir ++ rest)
    (text : path.toList = dir.toList ++ '/' :: joinWith '/' (rest.map String.toList))
    (allowed : refuse? path = none)
    (way : d.walk (startOf cwd path) (pathParts path) = .ok place) :
    d.makeDirs cwd dir = (.ok (), d) := by
  have named : dir.isEmpty = false := by simpa using hne
  unfold makeDirs
  rw [named, refuse?_above hne text allowed, startOf_above cwd hne text]
  rw [parts] at way
  exact makeAlong_of_walk hrest way

theorem makeDirs_again {d d' : Disk} {cwd : Place} {path : String} {f : SystemFault}
    (h : d.makeDirs cwd path = (.error f, d')) : d'.makeDirs cwd path = (.error f, d') := by
  unfold makeDirs at h ⊢
  split at h
  · cases h
  · next named =>
    rw [if_neg named]
    cases allowed : refuse? path with
    | some g => rw [allowed] at h; cases h; rfl
    | none => rw [allowed] at h; exact makeAlong_again h

/-! ### Files -/

theorem locate_eq_ok {d : Disk} {cwd place : Place} {path : String} :
    d.locate cwd path = .ok place ↔
      refuse? path = none ∧ d.walk (startOf cwd path) (pathParts path) = .ok place := by
  rw [locate]
  cases refuse? path with
  | none => simp
  | some f => simp

theorem read_eq_ok {d : Disk} {cwd : Place} {path : String} {content : RawText} :
    d.read cwd path = .ok content ↔ ∃ place mode, refuse? path = none ∧
      d.walk (startOf cwd path) (pathParts path) = .ok place ∧
      d.entry? place = some (.file content mode) := by
  rw [read, kind?]
  constructor
  · intro h
    cases found : d.locate cwd path with
    | error f => rw [found] at h; cases h
    | ok place =>
      obtain ⟨allowed, way⟩ := locate_eq_ok.1 found
      rw [found] at h
      dsimp only at h
      cases lies : d.entry? place with
      | none => rw [lies] at h; cases h
      | some entry =>
        cases entry with
        | directory => rw [lies] at h; cases h
        | file text mode =>
          rw [lies] at h
          cases h
          exact ⟨place, mode, allowed, way, lies⟩
  · rintro ⟨place, mode, allowed, way, lies⟩
    rw [locate_eq_ok.2 ⟨allowed, way⟩]
    dsimp only
    rw [lies]

/-- What holds the last name of a path is a directory. -/
theorem holder_eq_ok {d : Disk} {cwd above : Place} {path : String} {name : Option String} :
    d.holder cwd path = .ok (above, name) ↔ refuse? path = none ∧
      d.walk (startOf cwd path) (writtenParts path).dropLast = .ok above ∧
      d.entry? above = some .directory ∧ (writtenParts path).getLast? = name := by
  rw [holder]
  cases allowed : refuse? path with
  | some f => simp
  | none =>
    constructor
    · intro h
      dsimp only at h
      cases way : d.walk (startOf cwd path) (writtenParts path).dropLast with
      | error f => rw [way] at h; cases h
      | ok place =>
        rw [way] at h
        dsimp only at h
        cases lies : d.entry? place with
        | none => rw [lies] at h; cases h
        | some entry =>
          rw [lies] at h
          cases entry with
          | file => cases h
          | directory =>
            cases h
            exact ⟨rfl, rfl, lies, rfl⟩
    · rintro ⟨-, way, lies, rfl⟩
      rw [way]
      dsimp only
      rw [lies]

/-- A file can be put in place when its path ends in a name, without a slash behind it. -/
theorem replace_eq_ok {d d' : Disk} {cwd : Place} {path : String} {content : RawText} :
    d.replace cwd path content = .ok d' ↔ ∃ above name,
      d.holder cwd path = .ok (above, some name) ∧ name ≠ "." ∧ name ≠ ".." ∧
      name.utf8ByteSize ≤ maxNameBytes ∧ path.toList.getLast? ≠ some '/' ∧
      d.entry? (above ++ [name]) ≠ some .directory ∧
      d' = d.put (above ++ [name]) (.file content false) := by
  rw [replace]
  cases held : d.holder cwd path with
  | error f => simp
  | ok found =>
    obtain ⟨above, name⟩ := found
    cases name with
    | none => simp
    | some name =>
      dsimp only
      constructor
      · intro h
        split at h
        · cases h
        · next named =>
          split at h
          · cases h
          · next short =>
            split at h
            · cases h
            · next unslashed =>
              split at h
              · cases h
              · next free =>
                cases h
                simp only [Bool.or_eq_true, beq_iff_eq, not_or] at named
                exact ⟨above, name, rfl, named.1, named.2, Nat.not_lt.1 short,
                  by simpa using unslashed, free, rfl⟩
      · rintro ⟨_, _, same, dot, up, short, unslashed, free, rfl⟩
        cases same
        rw [if_neg (by simp [dot, up]), if_neg (Nat.not_lt.2 short),
          if_neg (by simpa using unslashed)]
        split
        · next dir => exact absurd dir free
        · rfl

/-- A name that is followed in a directory leads below it. -/
theorem walk_name {d : Disk} {here : Place} {name : String}
    (h : d.entry? here = some .directory) (named : isIdlePart name = false) (up : name ≠ "..")
    (short : name.utf8ByteSize ≤ maxNameBytes) : d.walk here [name] = .ok (here ++ [name]) := by
  have below : (name == "..") = false := by simpa using up
  have fits : ¬ maxNameBytes < name.utf8ByteSize := Nat.not_lt.2 short
  rw [walk_step d here name [] h]
  simp [isFollowed, stepTo, named, below, fits, walk]

/-- The parts before the last name lead to the directory in which it is looked up. -/
theorem walk_to_holder {d : Disk} {cwd above : Place} {path name : String}
    (unslashed : path.toList.getLast? ≠ some '/')
    (held : d.holder cwd path = .ok (above, some name)) :
    ∃ front, pathParts path = front ++ [name] ∧ d.walk (startOf cwd path) front = .ok above := by
  obtain ⟨-, way, dir, last⟩ := holder_eq_ok.1 held
  obtain ⟨front, parts, written⟩ := parts_of_lastName unslashed last
  have start : d.entry? (startOf cwd path) = some .directory := by
    by_cases short : (writtenParts path).dropLast = []
    · rw [short] at way
      cases way
      exact dir
    · exact walk_of_ne_nil short way
  exact ⟨front, parts, (walk_written dir).2 ⟨written ▸ way, start⟩⟩

/-- A file that was replaced is there. -/
theorem read_replace {d d' : Disk} {cwd : Place} {path : String} {content : RawText}
    (h : d.replace cwd path content = .ok d') : d'.read cwd path = .ok content := by
  obtain ⟨above, name, held, dot, up, short, unslashed, free, rfl⟩ := replace_eq_ok.1 h
  obtain ⟨allowed, -, dir, last⟩ := holder_eq_ok.1 held
  obtain ⟨front, parts, toAbove⟩ := walk_to_holder unslashed held
  have stays : ∀ p : Place, d.entry? p = some .directory →
      entry? (d.put (above ++ [name]) (.file content false)) p = some .directory :=
    fun p => entry?_put_directory _ free
  have named : isIdlePart name = false := by
    have := parts_of_lastName_ne_empty last
    simp [isIdlePart, this, dot]
  refine read_eq_ok.2 ⟨above ++ [name], false, allowed, ?_, entry?_put_same _ _ (by simp)⟩
  rw [parts, walk_append, walk_mono (fun p _ => stays p) toAbove]
  exact walk_name (stays above dir) named up short

/-- A file that is there can be replaced, unless its path ends in the way up. -/
theorem replace_of_read {d : Disk} {cwd : Place} {path : String} {content : RawText}
    (hname : lastPart path ≠ "..") (h : d.read cwd path = .ok content) (text : RawText) :
    ∃ d', d.replace cwd path text = .ok d' := by
  obtain ⟨place, mode, allowed, way, lies⟩ := read_eq_ok.1 h
  obtain ⟨front, name, parts⟩ : ∃ front name, pathParts path = front ++ [name] :=
    ⟨_, _, (List.dropLast_concat_getLast (pathParts_ne_nil path)).symm⟩
  rw [parts, walk_append] at way
  cases toAbove : d.walk (startOf cwd path) front with
  | error f => rw [toAbove] at way; cases way
  | ok above =>
    rw [toAbove] at way
    replace way : d.walk above [name] = .ok place := way
    have dir := walk_cons way
    rw [walk_step d above name [] dir] at way
    split at way
    · next followed =>
      -- the last part is a name, since dots would lead back to a directory
      have arrived : stepTo above name = place := Except.ok.inj way
      have named : isIdlePart name = false := by
        cases idle : isIdlePart name with
        | false => rfl
        | true =>
          rw [stepTo, if_pos idle] at arrived
          rw [← arrived, dir] at lies
          cases lies
      have nonempty : name ≠ "" := fun he => by simp [he, isIdlePart] at named
      have written : writtenParts path = front.filter (· != "") ++ [name] := by
        rw [writtenParts, parts, List.filter_append,
          List.filter_cons_of_pos (by simpa using nonempty), List.filter_nil]
      have up : name ≠ ".." := by
        have last : lastPart path = name := by rw [lastPart, written]; simp
        rwa [← last]
      have short : name.utf8ByteSize ≤ maxNameBytes := by
        simpa [isFollowed, named, up] using followed
      have below : above ++ [name] = place := by
        simpa [stepTo, named, up] using arrived
      refine ⟨_, replace_eq_ok.2 ⟨above, name, holder_eq_ok.2 ⟨allowed, ?_, dir, ?_⟩, ?_, up, short,
        fun slash => nonempty (parts_of_lastSlash slash parts), ?_, rfl⟩⟩
      · rw [written, List.dropLast_concat]
        exact ((walk_written dir).1 toAbove).1
      · rw [written, List.getLast?_concat]
      · exact fun he => by simp [he, isIdlePart] at named
      · rw [below, lies]
        exact fun he => by cases he
    · cases way

/-! ### What making directories leaves alone -/

/-- Whatever lies somewhere lies in a directory. -/
def Rooted (d : Disk) : Prop :=
  ∀ (p : Place) (name : String), d.entry? (p ++ [name]) ≠ none → d.entry? p = some .directory

theorem Rooted.above {d : Disk} (hr : d.Rooted) {p place : Place} (h : p <+: place)
    (lies : d.entry? place ≠ none) (lower : p ≠ place) : d.entry? p = some .directory := by
  obtain ⟨names, rfl⟩ := h
  induction names generalizing p with
  | nil => exact absurd (List.append_nil p).symm lower
  | cons name names ih =>
    have whole : p ++ name :: names = p ++ [name] ++ names := by simp
    refine hr p name ?_
    by_cases last : names = []
    · rwa [last] at lies
    · rw [whole] at lies
      rw [ih lies (by simpa using last)]
      exact fun he => by cases he

theorem makeAlong_files {d : Disk} {here place : Place} {parts : List String} {content : RawText}
    {mode : Bool} (h : entry? (d.makeAlong here parts).2 place = some (.file content mode)) :
    d.entry? place = some (.file content mode) := by
  fun_induction makeAlong d here parts with
  | case1 | case4 | case6 => exact h
  | case2 d here part rest idle ih => exact ih h
  | case3 d here part rest idle up ih => exact ih h
  | case5 d here part rest idle up short dir ih => exact ih h
  | case7 d here part rest idle up short free ih =>
    have kept := ih h
    by_cases same : place = here ++ [part]
    · rw [same, entry?_put_same d .directory (by simp)] at kept
      cases kept
    · rwa [entry?_put_of_ne d .directory same] at kept

theorem makeDirs_grows (d : Disk) (cwd : Place) (path : String) :
    d.Grows (d.makeDirs cwd path).2 := by
  unfold makeDirs
  split
  · exact .refl d
  · split
    · exact .refl d
    · exact makeAlong_grows d _ _

/-- Making directories changes nothing of what a file holds, or of its not being there. -/
theorem read_makeDirs {d : Disk} (hr : d.Rooted) (cwd : Place) (dir : String) {path : String}
    (plain : ".." ∉ pathParts path) :
    ((d.makeDirs cwd dir).2.read cwd path).toOption = (d.read cwd path).toOption := by
  have grows : d.Grows (d.makeDirs cwd dir).2 := d.makeDirs_grows cwd dir
  have files : ∀ {place : Place} {content : RawText} {mode : Bool},
      entry? (d.makeDirs cwd dir).2 place = some (.file content mode) →
      d.entry? place = some (.file content mode) := by
    intro place content mode
    unfold makeDirs
    split
    · exact id
    · split
      · exact id
      · exact makeAlong_files
  have there : ∀ {content : RawText}, d.read cwd path = .ok content →
      (d.makeDirs cwd dir).2.read cwd path = .ok content := by
    intro content h
    obtain ⟨place, mode, allowed, way, lies⟩ := read_eq_ok.1 h
    exact read_eq_ok.2 ⟨place, mode, allowed,
      walk_mono (fun p _ => grows p .directory) way, grows _ _ lies⟩
  have before : ∀ {content : RawText}, (d.makeDirs cwd dir).2.read cwd path = .ok content →
      d.read cwd path = .ok content := by
    intro content h
    obtain ⟨place, mode, allowed, way, lies⟩ := read_eq_ok.1 h
    -- the file was there before, and so was every directory above it
    have lay := files lies
    refine read_eq_ok.2 ⟨place, mode, allowed, walk_mono (fun p hp dir => ?_) way, lay⟩
    have above := onWay_above plain p hp
    rw [walk_reach way] at above
    refine hr.above above (by rw [lay]; exact fun he => by cases he) ?_
    rintro rfl
    rw [lies] at dir
    cases dir
  cases found : d.read cwd path with
  | ok content => rw [there found]
  | error f =>
    cases made : (d.makeDirs cwd dir).2.read cwd path with
    | error g => rfl
    | ok content =>
      rw [before made] at found
      cases found

/-! ### What removing a directory leaves alone -/

/-- Two disks that differ at most at a place and below it. -/
def SameOutside (top : Place) (d d' : Disk) : Prop :=
  ∀ p : Place, ¬ top <+: p → d'.entry? p = d.entry? p

theorem SameOutside.trans {top : Place} {d₁ d₂ d₃ : Disk} (h : SameOutside top d₁ d₂)
    (h' : SameOutside top d₂ d₃) : SameOutside top d₁ d₃ :=
  fun p away => (h' p away).trans (h p away)

/-- What lies at a place whose entries are kept stays as it is. -/
theorem entry?_filter (d : Disk) {keeps : Place × DiskEntry → Bool} {p : Place}
    (h : ∀ e, e.1 = p → keeps e = true) : entry? ⟨d.entries.filter keeps⟩ p = d.entry? p := by
  have same : (d.entries.filter keeps).find? (fun e => e.1 == p) =
      d.entries.find? (fun e => e.1 == p) := by
    rw [List.find?_filter]
    refine congrArg (List.find? · d.entries) (funext fun e => ?_)
    by_cases he : e.1 = p
    · simp [he, h e he]
    · simp [he]
  unfold entry?
  rw [same]

/-- Removing entries at a place and below it. -/
theorem sameOutside_filter {top : Place} (d : Disk) {keeps : Place × DiskEntry → Bool}
    (h : ∀ e, ¬ top <+: e.1 → keeps e = true) : SameOutside top d ⟨d.entries.filter keeps⟩ :=
  fun _ away => entry?_filter d fun e he => h e (he ▸ away)

theorem sameOutside_cut (d : Disk) (top : Place) : SameOutside top d (d.cut top) :=
  sameOutside_filter d fun e away => by
    rw [isAtOrBelow, Bool.not_eq_true', Bool.eq_false_iff, ne_eq, List.isPrefixOf_iff_prefix]
    exact away

theorem sameOutside_cutBelow (d : Disk) (top : Place) : SameOutside top d (d.cutBelow top) :=
  sameOutside_filter d fun e away => by
    have apart : isAtOrBelow top e.1 = false := by
      rw [isAtOrBelow, Bool.eq_false_iff, ne_eq, List.isPrefixOf_iff_prefix]
      exact away
    rw [isBelow, apart]
    rfl

/-- An empty directory is removed where its path leads. -/
theorem removeEmpty_cuts {d d' : Disk} {cwd : Place} {path : String}
    (h : d.removeEmpty cwd path = .ok d') :
    reach (startOf cwd path) (pathParts path) ≠ [] ∧
      d' = d.cut (reach (startOf cwd path) (pathParts path)) := by
  unfold removeEmpty at h
  cases held : d.holder cwd path with
  | error f => rw [held] at h; cases h
  | ok found =>
    obtain ⟨above, name⟩ := found
    rw [held] at h
    cases name with
    | none => cases h
    | some name =>
      dsimp only at h
      obtain ⟨-, way, -, last⟩ := holder_eq_ok.1 held
      split at h
      · cases h
      · next dot =>
        split at h
        · cases h
        · next up =>
          split at h
          · cases h
          · cases h
            obtain ⟨front, written⟩ := List.getLast?_eq_some_iff.1 last
            rw [written, List.dropLast_concat] at way
            have arrives : reach (startOf cwd path) (pathParts path) = above ++ [name] := by
              calc reach (startOf cwd path) (pathParts path)
                  = reach (startOf cwd path) (front ++ [name]) := by
                    rw [← written, writtenParts, reach_written]
                _ = stepTo above name := by
                    rw [reach, List.foldl_append]
                    exact congrArg (stepTo · name) (walk_reach way)
                _ = above ++ [name] :=
                    stepTo_lastName last (by simpa using dot) (by simpa using up) above
            rw [arrives]
            exact ⟨by simp, rfl⟩

theorem sameOutside_removeEmpty {d d' : Disk} {cwd : Place} {path : String}
    (h : d.removeEmpty cwd path = .ok d') :
    SameOutside (reach (startOf cwd path) (pathParts path)) d d' := by
  rw [(removeEmpty_cuts h).2]
  exact sameOutside_cut d _

theorem sameOutside_removeDir (d : Disk) (cwd : Place) (path : String) :
    SameOutside (reach (startOf cwd path) (pathParts path)) d (d.removeDir cwd path).2 := by
  unfold removeDir
  cases found : d.locate cwd path with
  | error f => exact fun _ _ => rfl
  | ok place =>
    dsimp only
    cases lies : d.entry? place with
    | none => exact fun _ _ => rfl
    | some entry =>
      cases entry with
      | file => exact fun _ _ => rfl
      | directory =>
        have arrives := walk_reach (locate_eq_ok.1 found).2
        have emptied : SameOutside (reach (startOf cwd path) (pathParts path)) d
            (d.cutBelow place) := by
          rw [arrives]
          exact sameOutside_cutBelow d place
        dsimp only
        cases removed : (d.cutBelow place).removeEmpty cwd path with
        | error f => exact emptied
        | ok d' => exact emptied.trans (sameOutside_removeEmpty removed)

theorem sameOutside_removeFile {d d' : Disk} {cwd : Place} {path : String}
    (h : d.removeFile cwd path = .ok d') :
    SameOutside (reach (startOf cwd path) (pathParts path)) d d' := by
  unfold removeFile at h
  split at h
  · cases h
  · next place found =>
    split at h
    · cases h
    · cases h
    · cases h
      rw [walk_reach (locate_eq_ok.1 found).2]
      exact sameOutside_cut d place

/-- What a file outside holds does not change. -/
theorem SameOutside.read {top : Place} {d d' : Disk} (h : SameOutside top d d') (cwd : Place)
    {path : String} (plain : ".." ∉ pathParts path)
    (outside : ¬ top <+: reach (startOf cwd path) (pathParts path)) :
    d'.read cwd path = d.read cwd path := by
  have way : d'.walk (startOf cwd path) (pathParts path) =
      d.walk (startOf cwd path) (pathParts path) :=
    walk_congr fun p hp => h p fun lower => outside (lower.trans (onWay_above plain p hp))
  unfold Disk.read kind? locate
  rw [way]
  cases refuse? path with
  | some f => rfl
  | none =>
    dsimp only
    cases found : d.walk (startOf cwd path) (pathParts path) with
    | error f => rfl
    | ok place =>
      dsimp only
      rw [h place (walk_reach found ▸ outside)]

end Disk

end Orchestration
