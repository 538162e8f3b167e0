import Orchestration.Project.Load
import Orchestration.Proofs.Creation
import Orchestration.Proofs.Fields
import Orchestration.Proofs.FileView
import Orchestration.Proofs.Identifiers
import Orchestration.Proofs.Removal

/-!
# A creation that fails leaves no trace

An environment's directory is made with all those above it, and when creating fails it is removed
alone.  If it lies right in the environments' directory, which is there, this takes away all that
was made:

* `Disk.Housed`, `housed_joinPath` — a directory that can be made in one that is there;
* `Housed.makeDirs`, `Housed.removeDir` — making it makes no other, and removing it undoes
  whatever was done in it;
* `Services.Confined` — engines that work inside the directory they are told of;
* `Services.RefusesInPlace` — a store whose refusals leave the disk as it is;
* `SetsUpInside`, `create_traceless` — one request whose engines have worked there;
* `create_error_traceless` — the whole;
* `nested_stage_leaves_directory` — a name with a slash needs another directory, which stays.
-/

namespace Orchestration

/-! ### Names in directories -/

/-- A text that is one part of a path, and no dots. -/
structure PlainName (name : String) : Prop where
  slashless : '/' ∉ name.toList
  nonempty : name ≠ ""
  dot : name ≠ "."
  up : name ≠ ".."

theorem PlainName.not_idle {name : String} (plain : PlainName name) : isIdlePart name = false := by
  simp [isIdlePart, plain.nonempty, plain.dot]

/-- A plain name leads right below. -/
theorem PlainName.stepTo {name : String} (plain : PlainName name) (here : Place) :
    Disk.stepTo here name = here ++ [name] := by
  rw [Disk.stepTo, plain.not_idle, if_neg Bool.false_ne_true, if_neg (by simpa using plain.up)]

/-- An identifier is a plain name, unless its stage has a slash. -/
theorem testId_plain {stage : String} (slashless : '/' ∉ stage.toList) (now : Timestamp)
    (bits : UInt32) : PlainName (testId stage now bits) := by
  have differs : ∀ {name : String}, name.toList.head? ≠ some 't' →
      testId stage now bits ≠ name := by
    rintro _ other rfl
    exact other (by simp [testId])
  exact ⟨testId_slashless slashless now bits, differs (by decide), differs (by decide),
    differs (by decide)⟩

/-- The parts of a path that goes on with a name. -/
theorem pathParts_below {path name : String} {front : List String} (hne : front ≠ [])
    (slashless : ∀ part ∈ front, '/' ∉ part.toList) (plain : '/' ∉ name.toList)
    (text : path.toList = joinWith '/' (front.map String.toList) ++ '/' :: name.toList) :
    pathParts path = front ++ [name] := by
  have whole : path = String.ofList (joinWith '/' ((front ++ [name]).map String.toList)) := by
    rw [← String.toList_inj, String.toList_ofList, text, List.map_append,
      joinWith_append (fun hn => hne (List.map_eq_nil_iff.1 hn)) (by simp)]
    rfl
  rw [whole]
  refine pathParts_joined (by simp) fun part hp => ?_
  rcases List.mem_append.1 hp with hp | hp
  · exact slashless part hp
  · rwa [List.mem_singleton.1 hp]

theorem isAbsolutePath_of_slashless {name : String} (plain : '/' ∉ name.toList) :
    isAbsolutePath name = false := by
  cases chars : name.toList with
  | nil => simp [isAbsolutePath, chars]
  | cons c cs =>
    rw [chars] at plain
    have other : c ≠ '/' := fun same => plain (same ▸ List.mem_cons_self)
    simp [isAbsolutePath, chars, other]

theorem joinPath_slashless {dir name : String} (hne : dir ≠ "") (plain : '/' ∉ name.toList) :
    joinPath dir name =
      if dir.toList.getLast? = some '/' then dir ++ name else dir ++ "/" ++ name := by
  have nonempty : dir.isEmpty = false := by simpa using hne
  rw [joinPath, isAbsolutePath_of_slashless plain, nonempty]
  simp only [Bool.or_false, Bool.false_eq_true, if_false, beq_iff_eq]

/-- The parts of a name in a directory: those of the directory and the name, but for the slash
that the directory may end in. -/
theorem pathParts_joinPath {dir name : String} (hne : dir ≠ "") (plain : '/' ∉ name.toList) :
    ∃ front, pathParts (joinPath dir name) = front ++ [name] ∧
      (pathParts dir = front ∨ pathParts dir = front ++ [""]) := by
  have slashless : ∀ part ∈ pathParts dir, '/' ∉ part.toList := fun _ => pathParts_no_slash
  by_cases slash : dir.toList.getLast? = some '/'
  · obtain ⟨front, last, parts⟩ : ∃ front last, pathParts dir = front ++ [last] :=
      ⟨_, _, (List.dropLast_concat_getLast (pathParts_ne_nil dir)).symm⟩
    obtain rfl : last = "" := parts_of_lastSlash slash parts
    have above : front ≠ [] := by
      rintro rfl
      have text := joinWith_pathParts dir
      rw [parts] at text
      exact hne (String.toList_inj.1 text.symm)
    refine ⟨front, pathParts_below above (fun part hp => ?_) plain ?_, .inr parts⟩
    · exact slashless part (parts ▸ List.mem_append_left _ hp)
    · have text := toList_of_parts parts above (by simp)
      rw [joinPath_slashless hne plain, if_pos slash, String.toList_append, text]
      simp [joinWith]
  · refine ⟨pathParts dir, pathParts_below (pathParts_ne_nil dir) slashless plain ?_, .inl rfl⟩
    rw [joinWith_pathParts, joinPath_slashless hne plain, if_neg slash]
    simp

namespace Disk

theorem startOf_joinPath (cwd : Place) {dir name : String} (hne : dir ≠ "")
    (plain : '/' ∉ name.toList) : startOf cwd (joinPath dir name) = startOf cwd dir := by
  have same : isAbsolutePath (joinPath dir name) = isAbsolutePath dir := by
    cases chars : dir.toList with
    | nil => exact absurd (String.toList_inj.1 chars) hne
    | cons c cs =>
      rw [joinPath_slashless hne plain]
      split <;> simp [isAbsolutePath, chars]
  rw [startOf, startOf, same]

/-- The last name of a path, and the directory in which it is looked up, which is there. -/
structure Housed (d : Disk) (cwd : Place) (path : String) (above : Place) (name : String) :
    Prop where
  held : d.holder cwd path = .ok (above, some name)
  dot : name ≠ "."
  up : name ≠ ".."
  unslashed : path.toList.getLast? ≠ some '/'

/-- A name in a directory that is there. -/
theorem housed_joinPath {d : Disk} {cwd above : Place} {dir name : String}
    (found : d.locate cwd dir = .ok above) (there : d.entry? above = some .directory)
    (allowed : refuse? (joinPath dir name) = none) (plain : PlainName name) :
    d.Housed cwd (joinPath dir name) above name := by
  obtain ⟨readable, way⟩ := locate_eq_ok.1 found
  have hne : dir ≠ "" := by
    rintro rfl
    cases readable
  obtain ⟨front, parts, whole⟩ := pathParts_joinPath hne plain.slashless
  have toAbove : d.walk (startOf cwd dir) front = .ok above := by
    rcases whole with same | ended
    · rwa [same] at way
    · -- the empty part behind the last slash leads nowhere
      rw [ended, walk_append] at way
      cases first : d.walk (startOf cwd dir) front with
      | error f => rw [first] at way; cases way
      | ok place =>
        rw [first] at way
        replace way : d.walk place [""] = .ok above := way
        have arrives : place = above := walk_reach way
        rw [arrives]
  have written : writtenParts (joinPath dir name) = front.filter (· != "") ++ [name] := by
    rw [writtenParts, parts, List.filter_append,
      List.filter_cons_of_pos (by simpa using plain.nonempty), List.filter_nil]
  refine ⟨holder_eq_ok.2 ⟨allowed, ?_, there, ?_⟩, plain.dot, plain.up, fun slash => ?_⟩
  · rw [written, List.dropLast_concat, startOf_joinPath cwd hne plain.slashless]
    exact ((walk_written there).1 toAbove).1
  · rw [written, List.getLast?_concat]
  · exact plain.nonempty (parts_of_lastSlash slash parts)

/-! ### Ways around a place -/

theorem rooted_empty : Rooted ⟨[]⟩ := fun p name lies => by
  unfold entry? at lies
  simp at lies

/-- What is put into a directory lies in one. -/
theorem Rooted.put {d : Disk} (hr : d.Rooted) (above : Place) (name : String) (entry : DiskEntry)
    (dir : d.entry? above = some .directory) (free : d.entry? (above ++ [name]) = none) :
    Rooted (d.put (above ++ [name]) entry) := by
  intro p part lies
  by_cases here : p ++ [part] = above ++ [name]
  · obtain ⟨rfl, -⟩ := List.append_inj' here rfl
    rw [entry?_put_of_ne d entry (by simp)]
    exact dir
  · rw [entry?_put_of_ne d entry here] at lies
    have lower := hr p part lies
    rw [entry?_put_of_ne d entry fun same => by rw [same, free] at lower; cases lower]
    exact lower

/-- Nothing lies at an empty place, nor below it. -/
theorem Rooted.bare {d : Disk} (hr : d.Rooted) {top : Place} (free : d.entry? top = none) :
    ∀ p, top <+: p → d.entry? p = none := by
  intro p below
  cases lies : d.entry? p with
  | none => rfl
  | some entry =>
    by_cases same : top = p
    · rw [← same, free] at lies
      cases lies
    · have dir := hr.above below (by rw [lies]; exact fun he => by cases he) same
      rw [free] at dir
      cases dir

/-- A way that leads around a place is not changed by what comes to lie there. -/
theorem walk_around {d d' : Disk} {top here place : Place} {parts : List String}
    (bare : ∀ p, top <+: p → d.entry? p = none) (same : SameOutside top d d')
    (h : d.walk here parts = .ok place) : d'.walk here parts = .ok place := by
  refine walk_mono (fun p _ dir => ?_) h
  rw [same p fun below => by rw [bare p below] at dir; cases dir]
  exact dir

theorem not_below_self (above : Place) (name : String) : ¬ above ++ [name] <+: above := by
  rintro ⟨more, whole⟩
  have lengths := congrArg List.length whole
  simp at lengths

namespace Housed

variable {d d' : Disk} {cwd above : Place} {path name : String}

theorem parts (h : d.Housed cwd path above name) : ∃ front, pathParts path = front ++ [name] ∧
    d.walk (startOf cwd path) front = .ok above :=
  walk_to_holder h.unslashed h.held

theorem named (h : d.Housed cwd path above name) : isIdlePart name = false := by
  obtain ⟨_, _, _, last⟩ := holder_eq_ok.1 h.held
  simp [isIdlePart, parts_of_lastName_ne_empty last, h.dot]

/-- The path leads to the name in the directory. -/
theorem locate (h : d.Housed cwd path above name) (short : name.utf8ByteSize ≤ maxNameBytes) :
    d.locate cwd path = .ok (above ++ [name]) := by
  obtain ⟨allowed, _, dir, _⟩ := holder_eq_ok.1 h.held
  obtain ⟨front, parts, way⟩ := h.parts
  refine locate_eq_ok.2 ⟨allowed, ?_⟩
  rw [parts, walk_append, way]
  exact walk_name dir h.named h.up short

/-- Whatever comes to lie there, the directory above stays. -/
theorem around (h : d.Housed cwd path above name)
    (bare : ∀ p, above ++ [name] <+: p → d.entry? p = none)
    (same : SameOutside (above ++ [name]) d d') : d'.Housed cwd path above name := by
  obtain ⟨allowed, way, dir, last⟩ := holder_eq_ok.1 h.held
  refine ⟨holder_eq_ok.2 ⟨allowed, walk_around bare same way, ?_, last⟩, h.dot, h.up, h.unslashed⟩
  rw [same above (not_below_self above name)]
  exact dir

/-- Making the directory makes no other, and if it cannot be made, nothing is. -/
theorem makeDirs (h : d.Housed cwd path above name) (free : d.entry? (above ++ [name]) = none) :
    (∃ f, d.makeDirs cwd path = (.error f, d)) ∨
    (name.utf8ByteSize ≤ maxNameBytes ∧
      d.makeDirs cwd path = (.ok (), d.put (above ++ [name]) .directory)) := by
  obtain ⟨allowed, _, dir, _⟩ := holder_eq_ok.1 h.held
  obtain ⟨front, parts, way⟩ := h.parts
  have nonempty : path.isEmpty = false := by
    cases empty : path.isEmpty with
    | false => rfl
    | true =>
      rw [refuse?, if_pos empty] at allowed
      cases allowed
  have made : d.makeDirs cwd path = d.makeAlong above [name] := by
    rw [Disk.makeDirs, nonempty, allowed, parts]
    exact makeAlong_append [name] way dir
  have idle : ¬ (name == "" || name == ".") = true := by
    rw [← isIdlePart, h.named]
    exact Bool.false_ne_true
  have up : ¬ (name == "..") = true := by simpa using h.up
  rw [made, makeAlong, if_neg idle, if_neg up]
  by_cases long : maxNameBytes < name.utf8ByteSize
  · rw [if_pos long]
    exact .inl ⟨_, rfl⟩
  · rw [if_neg long, free]
    exact .inr ⟨Nat.not_lt.1 long, rfl⟩

/-- Removing the directory undoes whatever was done in it. -/
theorem removeDir (h : d.Housed cwd path above name) (hr : d.Rooted)
    (free : d.entry? (above ++ [name]) = none) (short : name.utf8ByteSize ≤ maxNameBytes)
    (same : SameOutside (above ++ [name]) d d')
    (there : d'.entry? (above ++ [name]) = some .directory) :
    ∀ p, entry? (d'.removeDir cwd path).2 p = d.entry? p := by
  have bare := hr.bare free
  have emptied := same.trans (sameOutside_cutBelow d' (above ++ [name]))
  have cleared := emptied.trans (sameOutside_cut _ (above ++ [name]))
  have removed : (d'.removeDir cwd path).2 =
      (d'.cutBelow (above ++ [name])).cut (above ++ [name]) := by
    have here : entry? (d'.cutBelow (above ++ [name])) (above ++ [name]) = some .directory :=
      (entry?_cutBelow_self d' _).trans there
    have empty : (d'.cutBelow (above ++ [name])).removeEmpty cwd path =
        .ok ((d'.cutBelow (above ++ [name])).cut (above ++ [name])) := by
      rw [removeEmpty, (h.around bare emptied).held]
      simp [h.dot, h.up, contains, here]
    rw [Disk.removeDir, (h.around bare same).locate short]
    dsimp only
    rw [there]
    dsimp only
    rw [empty]
  intro p
  rw [removed]
  by_cases below : above ++ [name] <+: p
  · rw [bare p below]
    refine entry?_cut _ below ?_
    rintro rfl
    simp at below
  · exact cleared p below

end Housed

/-- A directory of a plain name, where there is none: it is made alone, or nothing is. -/
theorem makeDirs_joinPath {d : Disk} {cwd above : Place} {dir name : String}
    (found : d.locate cwd dir = .ok above) (there : d.entry? above = some .directory)
    (plain : PlainName name) (free : d.entry? (above ++ [name]) = none) :
    (∃ f, d.makeDirs cwd (joinPath dir name) = (.error f, d)) ∨
    (d.Housed cwd (joinPath dir name) above name ∧ name.utf8ByteSize ≤ maxNameBytes ∧
      d.makeDirs cwd (joinPath dir name) = (.ok (), d.put (above ++ [name]) .directory)) := by
  cases allowed : refuse? (joinPath dir name) with
  | none =>
    have housed := housed_joinPath found there allowed plain
    rcases housed.makeDirs free with failed | ⟨short, made⟩
    · exact .inl failed
    · exact .inr ⟨housed, short, made⟩
  | some f =>
    have nonempty : (joinPath dir name).isEmpty = false := by
      cases empty : (joinPath dir name).isEmpty with
      | false => rfl
      | true =>
        have hne : dir ≠ "" := by
          rintro rfl
          cases (locate_eq_ok.1 found).1
        obtain ⟨front, parts, _⟩ := pathParts_joinPath hne plain.slashless
        rw [String.isEmpty_iff.1 empty, show pathParts "" = [""] from rfl] at parts
        have last := congrArg List.getLast? parts
        rw [List.getLast?_concat] at last
        exact absurd (Option.some.inj last).symm plain.nonempty
    exact .inl ⟨f, by rw [makeDirs, nonempty, allowed]; rfl⟩

end Disk

variable {σ : Type} {sv : Services σ}

/-! ### Services that leave the disk alone -/

/-- Whether a place lies inside the directory that a path names. -/
def Disk.Inside (cwd : Place) (dir : String) (p : Place) : Prop :=
  reach (startOf cwd dir) (pathParts dir) <+: p ∧ reach (startOf cwd dir) (pathParts dir) ≠ p

/-- A store that is asked without a change of the disk, and engines that change nothing but what
lies inside the directory that they are told of. -/
structure Services.Confined (sv : Services σ) : Prop where
  asks : ∀ (id : String) (t : Timestamp) (w : World σ),
    (sv.store (.contains id) t w).2.disk = w.disk
  engine : ∀ (r : EngineReference) (tool : String) (arguments : Document) (w : World σ)
    (p : Place), (∀ dir, Document.str? arguments "tmpDir" = some dir → ¬ Disk.Inside w.cwd dir p) →
      (sv.engine r tool arguments w).2.disk.entry? p = w.disk.entry? p

/-- As long as a world differs at most at a place and below it, an insertion that the store
refuses leaves the disk as it is. -/
def Services.RefusesInPlace (sv : Services σ) (w : World σ) (top : Place) : Prop :=
  ∀ {e : TestEnvironment} {t : Timestamp} {cause : StoreError} {u u' : World σ},
    u.cwd = w.cwd → Disk.SameOutside top w.disk u.disk →
      sv.store (.insert e) t u = (.error cause, u') → u'.disk = u.disk

theorem Services.inMemory_refusesInPlace {engine : EngineReference → String → Document →
      World (MemoryStore × σ) → Except OrchestratorError ToolResult × World (MemoryStore × σ)}
    (w : World (MemoryStore × σ)) (top : Place) :
    (Services.inMemory engine).RefusesInPlace w top := by
  intro e t cause u u' _ _ h
  obtain ⟨-, rfl⟩ := Prod.mk.inj h
  rfl

/-- A directory that is there is not made again. -/
theorem Disk.makeDirs_of_kind {d : Disk} {cwd : Place} {dir : String}
    (h : d.kind? cwd dir = .ok .directory) : d.makeDirs cwd dir = (.ok (), d) := by
  obtain ⟨place, found, there⟩ := kind?_eq_ok.1 h
  obtain ⟨allowed, way⟩ := locate_eq_ok.1 found
  have along := makeAlong_append [] way there
  rw [List.append_nil] at along
  unfold makeDirs
  split
  · rfl
  · rw [allowed]
    exact along

/-- A store in a file whose directory is there makes nothing before it refuses. -/
theorem Services.inFile_refusesInPlace {path : String} {engine : EngineReference → String →
      Document → World σ → Except OrchestratorError ToolResult × World σ} {w : World σ}
    (hr : w.disk.Rooted)
    (there : w.disk.kind? w.cwd (FileStore.directory ⟨path⟩) = .ok .directory) {top : Place}
    (free : w.disk.entry? top = none) : (Services.inFile path engine).RefusesInPlace w top := by
  intro e t cause u u' here same h
  have bare := hr.bare free
  obtain ⟨place, found, lies⟩ := Disk.kind?_eq_ok.1 there
  obtain ⟨allowed, way⟩ := Disk.locate_eq_ok.1 found
  have still : u.disk.kind? u.cwd (FileStore.directory ⟨path⟩) = .ok .directory := by
    refine Disk.kind?_eq_ok.2 ⟨place, Disk.locate_eq_ok.2 ⟨allowed, ?_⟩, ?_⟩
    · rw [here]
      exact Disk.walk_around bare same way
    · rw [same place fun below => by rw [bare place below] at lies; cases lies]
      exact lies
  obtain ⟨answered, rfl⟩ := Prod.mk.inj h
  exact FileStore.disk_of_error (Disk.makeDirs_of_kind still) (Prod.ext answered rfl)

namespace StageOrchestrator

/-! ### What engines are told -/

theorem createPlan_tmpDir (e : TestEnvironment) (entries : List ChainEntry) :
    ∀ (metadata : KeyMap String) (replies : List ToolResult),
      ∀ c ∈ createPlan e metadata entries replies,
        Document.str? c.arguments "tmpDir" = some e.tmpDir := by
  intro metadata replies c hc
  obtain ⟨metadata', entry, rfl⟩ := mem_createPlan hc
  rw [createCall, createArguments_eq]
  cases entry.spec <;> simp [told, KeyMap.ofList, Document.str?, Json.asString?]

/-- Setting an environment up, engines are told of no directory but its own. -/
theorem setupPlan_tmpDir {setup : Setup} {e : TestEnvironment} {replies : List ToolResult}
    {c : EngineCall} (hc : c ∈ setupPlan setup e replies) {dir : String}
    (h : Document.str? c.arguments "tmpDir" = some dir) : dir = e.tmpDir := by
  cases setup with
  | bare => exact absurd hc List.not_mem_nil
  | chain entries =>
    rw [createPlan_tmpDir e entries .empty replies c hc] at h
    exact (Option.some.inj h).symm
  | direct engine =>
    rw [List.mem_singleton.1 hc] at h
    unfold directCreateArguments at h
    cases light : isLightweight engine <;>
      simp [light, arguments, KeyMap.ofList, Document.str?, Json.asString?] at h
    exact h.symm

/-- A conversation about one directory changes nothing but what lies inside of it. -/
theorem exchanges_inside (hq : sv.Quiet) (hc : sv.Confined) {dir : String} {w w' : World σ}
    {said : List Exchange} (h : sv.Exchanges w said w')
    (about : ∀ x ∈ said, ∀ d, Document.str? x.call.arguments "tmpDir" = some d → d = dir) :
    ∀ p, ¬ Disk.Inside w.cwd dir p → w'.disk.entry? p = w.disk.entry? p := by
  induction h with
  | nil w => exact fun _ _ => rfl
  | tick _ ih => exact ih about
  | @call w w₁ w' c answer said first rest ih =>
    intro p outside
    have moved : w₁.cwd = w.cwd := by
      have trail := (hq.call c.engine c.tool c.arguments w).cwd
      rwa [first] at trail
    have now : w₁.disk.entry? p = w.disk.entry? p := by
      have answered := hc.engine c.engine c.tool c.arguments
        { w with calls := w.calls ++ [⟨c.engine, c.tool, c.arguments⟩] } p
        fun d hd => about _ List.mem_cons_self d hd ▸ outside
      rw [show sv.engine c.engine c.tool c.arguments
        { w with calls := w.calls ++ [⟨c.engine, c.tool, c.arguments⟩] } = (answer, w₁) from first]
        at answered
      exact answered
    have later := ih (fun x hx => about x (List.mem_cons_of_mem _ hx)) p (by rwa [moved])
    exact later.trans now

/-! ### One request -/

/-- Seeking an identifier leaves the disk alone. -/
theorem freshId_disk (hq : sv.Quiet)
    (asks : ∀ id t (u : World σ), (sv.store (.contains id) t u).2.disk = u.disk)
    (stage : String) (w : World σ) :
    (freshId sv stage w).2.disk = w.disk ∧ (freshId sv stage w).2.cwd = w.cwd := by
  refine freshIdIn_keeps (P := fun u => u.disk = w.disk ∧ u.cwd = w.cwd) stage
    (fun _ h => h) (fun _ h => h) (fun id u h => ?_) maxIdAttempts w ⟨rfl, rfl⟩
  have asked : (sv.perform (.contains id) u).2.disk = u.disk := asks id _ _
  exact ⟨asked.trans h.1, (hq.perform (.contains id) u).cwd.trans h.2⟩

/-- Setting up an environment changes nothing but what lies inside its directory. -/
theorem runSetup_inside (hq : sv.Quiet) (hc : sv.Confined) {setup : Setup} {e : TestEnvironment}
    {w w' : World σ} {result : Except OrchestratorError TestEnvironment}
    (run : runSetup sv setup e w = (result, w')) :
    ∀ p, ¬ Disk.Inside w.cwd e.tmpDir p → w'.disk.entry? p = w.disk.entry? p := by
  obtain ⟨said, replies, spoken, calls, _⟩ := runSetup_ends run
  refine exchanges_inside hq hc spoken fun x hx dir hdir => ?_
  have planned : x.call ∈ setupPlan setup e replies := by
    rw [← calls]
    exact List.mem_map_of_mem hx
  exact setupPlan_tmpDir planned hdir

/-- When a request to create is made, its engines change nothing but what lies inside the directory
of the environment that is set up. -/
def SetsUpInside (o : StageOrchestrator) (sv : Services σ) (stage : String) (w : World σ) :
    Prop :=
  o.SetsUp sv stage w fun id u u' => ∀ p, ¬ Disk.Inside u.cwd (joinPath o.tmpRoot id) p →
    u'.disk.entry? p = u.disk.entry? p

/-- So do engines that always work inside the directory they are told of. -/
theorem setsUpInside (hq : sv.Quiet) (hc : sv.Confined) (o : StageOrchestrator) (stage : String)
    (w : World σ) : o.SetsUpInside sv stage w := by
  intro setup id w₁ w₂ w₃ result _ _ _ run
  have inside := runSetup_inside hq hc run
  exact inside

/-- Whatever is done inside a directory that was made alone is undone when it is discarded. -/
theorem discard_undoes {d : Disk} {above : Place} {name path : String} {w w' u : World σ}
    (hr : d.Rooted) (housed : d.Housed w.cwd path above name)
    (short : name.utf8ByteSize ≤ Disk.maxNameBytes) (free : d.entry? (above ++ [name]) = none)
    (made : w.disk = d.put (above ++ [name]) .directory) (moved : w'.cwd = w.cwd)
    (worked : ∀ p, ¬ Disk.Inside w.cwd path p → w'.disk.entry? p = w.disk.entry? p) :
    Disk.SameOutside (above ++ [name]) d w'.disk ∧
      (u.cwd = w'.cwd → u.disk = w'.disk →
        ∀ p, Disk.entry? (discard path u).disk p = d.entry? p) := by
  have arrives : Disk.reach (Disk.startOf w.cwd path) (pathParts path) = above ++ [name] :=
    Disk.walk_reach (Disk.locate_eq_ok.1 (housed.locate short)).2
  have same : ∀ p, ¬ (above ++ [name] <+: p ∧ above ++ [name] ≠ p) →
      w'.disk.entry? p = w.disk.entry? p := by
    intro p outside
    refine worked p fun inside => outside ?_
    rwa [Disk.Inside, arrives] at inside
  have around : Disk.SameOutside (above ++ [name]) d w'.disk := by
    intro p away
    rw [same p fun below => away below.1, made]
    exact Disk.entry?_put_of_ne d _ fun here => away (here ▸ List.prefix_rfl)
  have there : w'.disk.entry? (above ++ [name]) = some .directory := by
    rw [same _ fun below => below.2 rfl, made]
    exact Disk.entry?_put_same d _ (by simp)
  refine ⟨around, fun here still p => ?_⟩
  show Disk.entry? (u.disk.removeDir u.cwd path).2 p = d.entry? p
  rw [here, still, moved]
  exact housed.removeDir hr free short around there p

/-- The directory of a new identifier is made alone, or nothing is. -/
theorem makeDirs_home (hq : sv.Quiet)
    (asks : ∀ id t (u : World σ), (sv.store (.contains id) t u).2.disk = u.disk)
    {o : StageOrchestrator} {stage id : String} (slashless : '/' ∉ stage.toList)
    {w w₁ w₂ : World σ} {root : Place}
    (found : w.disk.locate w.cwd o.tmpRoot = .ok root)
    (there : w.disk.entry? root = some .directory) (free : w.disk.entry? (root ++ [id]) = none)
    (named : freshId sv stage w = (.ok id, w₁)) {answer : Except SystemFault Unit}
    (made : w₁.makeDirs (joinPath o.tmpRoot id) = (answer, w₂)) : w₂.cwd = w.cwd ∧
      ((∃ f, answer = .error f ∧ w₂.disk = w.disk) ∨
        (w.disk.Housed w₂.cwd (joinPath o.tmpRoot id) root id ∧
          id.utf8ByteSize ≤ Disk.maxNameBytes ∧ answer = .ok () ∧
          w₂.disk = w.disk.put (root ++ [id]) .directory)) := by
  obtain ⟨asked, here⟩ := freshId_disk hq asks stage w
  rw [named] at asked here
  replace asked : w₁.disk = w.disk := asked
  replace here : w₁.cwd = w.cwd := here
  have plain : PlainName id := by
    obtain ⟨t, k, _, _, rfl⟩ := freshIdIn_drawn hq stage maxIdAttempts named
    exact testId_plain slashless t _
  simp only [World.makeDirs, asked, here] at made
  rcases Disk.makeDirs_joinPath found there plain free with ⟨f, failed⟩ | ⟨housed, short, done⟩
  · rw [failed] at made
    cases made
    exact ⟨rfl, .inl ⟨f, rfl, rfl⟩⟩
  · rw [done] at made
    cases made
    exact ⟨rfl, .inr ⟨housed, short, rfl, rfl⟩⟩

/-- A request to create that fails leaves every place of the disk as it was, if what its engines
have changed lies inside the environment's directory. -/
theorem create_traceless (hq : sv.Quiet)
    (asks : ∀ id t (u : World σ), (sv.store (.contains id) t u).2.disk = u.disk)
    {o : StageOrchestrator} {stage : String} (slashless : '/' ∉ stage.toList) {w w' : World σ}
    (hr : w.disk.Rooted) {root : Place} (found : w.disk.locate w.cwd o.tmpRoot = .ok root)
    (there : w.disk.entry? root = some .directory)
    (fresh : ∀ id, (freshId sv stage w).1 = .ok id →
      w.disk.entry? (root ++ [id]) = none ∧ sv.RefusesInPlace w (root ++ [id]))
    (inside : o.SetsUpInside sv stage w)
    {err : OrchestratorError} (failed : o.create sv stage w = (.error err, w')) :
    ∀ p, w'.disk.entry? p = w.disk.entry? p := by
  have ends := create_creates sv o stage w
  rw [failed] at ends
  cases ends with
  | unresolved => exact fun _ => rfl
  | unnamed named =>
    have asked := (freshId_disk hq asks stage w).1
    rw [named] at asked
    replace asked : w'.disk = w.disk := asked
    exact fun p => by rw [asked]
  | homeless named made =>
    have free := (fresh _ (by rw [named])).1
    rcases makeDirs_home hq asks slashless found there free named made with
      ⟨_, ⟨_, _, same⟩ | ⟨_, _, ⟨⟩, _⟩⟩
    exact fun p => by rw [same]
  | broken resolved named made run =>
    have free := (fresh _ (by rw [named])).1
    rcases makeDirs_home hq asks slashless found there free named made with
      ⟨_, ⟨_, ⟨⟩, _⟩ | ⟨housed, short, _, done⟩⟩
    obtain ⟨_, undone⟩ := discard_undoes hr housed short free done (runSetup_cwd hq run)
      (inside resolved named made run)
    exact undone rfl rfl
  | @refused _ _ e _ _ _ w₃ w₄ resolved named made run stored =>
    obtain ⟨free, refuses⟩ := fresh _ (by rw [named])
    rcases makeDirs_home hq asks slashless found there free named made with
      ⟨start, ⟨_, ⟨⟩, _⟩ | ⟨housed, short, _, done⟩⟩
    have moved := runSetup_cwd hq run
    obtain ⟨around, undone⟩ := discard_undoes hr housed short free done moved
      (inside resolved named made run)
    have stays : w₄.cwd = w₃.cwd := by
      have asked := (hq.store (.insert e) w₃.now.1 w₃.now.2).cwd
      rwa [stored] at asked
    have here : w₃.now.2.cwd = w.cwd := moved.trans start
    have kept : w₄.disk = w₃.now.2.disk := refuses here around stored
    exact undone stays kept

/-! ### The whole -/

/-- When creating fails, every place of the disk is as it was before, if the environments'
directory is there and has nothing of the name that is tried, if the stage's name has no slash, and
if engines work inside the directory they are told of. -/
theorem create_error_traceless (hq : sv.Quiet) (hc : sv.Confined) {o : StageOrchestrator}
    {stage : String} (slashless : '/' ∉ stage.toList) {w w' : World σ} (hr : w.disk.Rooted)
    {root : Place} (found : w.disk.locate w.cwd o.tmpRoot = .ok root)
    (there : w.disk.entry? root = some .directory)
    (fresh : ∀ id, (freshId sv stage w).1 = .ok id →
      w.disk.entry? (root ++ [id]) = none ∧ sv.RefusesInPlace w (root ++ [id]))
    {err : OrchestratorError} (failed : o.create sv stage w = (.error err, w')) :
    ∀ p, w'.disk.entry? p = w.disk.entry? p :=
  create_traceless hq hc.asks slashless hr found there fresh (setsUpInside hq hc o stage w) failed

/-- A store in memory, and engines that leave a file in the directory they are told of before
they fail. -/
def littering : Services (MemoryStore × Script) :=
  .inMemory fun _ _ arguments w =>
    match Document.str? arguments "tmpDir" with
    | none => (.error (.connect "refused"), w)
    | some dir =>
      let place := Disk.reach (Disk.startOf w.cwd dir) (pathParts dir) ++ ["log"]
      (.error (.connect "refused"), { w with disk := w.disk.put place (.file [] false) })

theorem littering_quiet : littering.Quiet where
  store op now w := ⟨(List.append_nil _).symm, rfl, rfl, rfl⟩
  engine r tool arguments w := by
    unfold littering Services.inMemory
    dsimp only
    split <;> exact ⟨(List.append_nil _).symm, rfl, rfl, rfl⟩

theorem littering_confined : littering.Confined where
  asks id t w := rfl
  engine r tool arguments w p outside := by
    unfold littering Services.inMemory
    dsimp only
    split
    · rfl
    · next dir told =>
      refine Disk.entry?_put_of_ne w.disk _ fun here => outside dir told ?_
      rw [here]
      exact ⟨List.prefix_append _ _, by simp⟩

/-- A world with an empty directory for environments. -/
def vacant (script : Script) : World (MemoryStore × Script) :=
  { World.opening (fun _ => 0) [] script with disk := Disk.put ⟨[]⟩ ["tmp"] .directory }

/-- The engine that is called first leaves a file, and fails: the file goes with the directory. -/
theorem create_error_traceless_littered :
    '/' ∉ "unit".toList ∧ (vacant []).disk.Rooted ∧
      (vacant []).disk.locate [] paired.tmpRoot = .ok ["tmp"] ∧
      Disk.entry? (vacant []).disk ["tmp"] = some .directory ∧
      (paired.create littering "unit" (vacant [])).1 =
        .error (.step 0 "go://network" (.connect "refused")) ∧
      ∀ p, Disk.entry? (paired.create littering "unit" (vacant [])).2.disk p =
        Disk.entry? (vacant []).disk p := by
  have slashless : '/' ∉ "unit".toList := by decide
  have rooted : (vacant []).disk.Rooted := Disk.rooted_empty.put [] "tmp" .directory rfl rfl
  have found : (vacant []).disk.locate [] paired.tmpRoot = .ok ["tmp"] := by decide +kernel
  have there : Disk.entry? (vacant []).disk ["tmp"] = some .directory := by decide
  have named : (freshId littering "unit" (vacant [])).1 = .ok "test-unit-19700101-00000000" := by
    decide +kernel
  have failed : (paired.create littering "unit" (vacant [])).1 =
      .error (.step 0 "go://network" (.connect "refused")) := by decide +kernel
  refine ⟨slashless, rooted, found, there, failed, ?_⟩
  refine create_error_traceless littering_quiet littering_confined slashless rooted found there ?_
    (Prod.ext failed rfl)
  intro id h
  cases named.symm.trans h
  exact ⟨by decide, Services.inMemory_refusesInPlace _ _⟩

/-- A configuration may name a stage with a slash.  The directory in which that stage's
environments would lie is made with the first of them, and stays when the creation fails. -/
theorem nested_stage_leaves_directory :
    let text := "name: x\ntmpRoot: /tmp\ntest:\n  - name: a/b\n    testenv: go://network\n"
    let w := vacant [.error (.connect "refused")]
    w.disk.entry? ["tmp", "test-a"] = none ∧
      ∃ c err w', ProjectConfig.ofText "/work" text = .ok c ∧
        (ofConfig "/tmp" c).create .scripted "a/b" w = (.error err, w') ∧
        w'.disk.entry? ["tmp", "test-a"] = some .directory := by
  intro text w
  refine ⟨by decide, ?_⟩
  have computed : ((ProjectConfig.ofText "/work" text).toOption.bind fun c =>
      match (ofConfig "/tmp" c).create .scripted "a/b" w with
      | (.error _, w') => w'.disk.entry? ["tmp", "test-a"]
      | (.ok _, _) => none) = some .directory := by decide +kernel
  obtain ⟨c, read, left⟩ := Option.bind_eq_some_iff.1 computed
  split at left
  · next err w' failed => exact ⟨c, err, w', toOption_eq_some.1 read, failed, left⟩
  · cases left

end StageOrchestrator

end Orchestration
