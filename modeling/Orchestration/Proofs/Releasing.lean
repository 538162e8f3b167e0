import Orchestration.Proofs.Removal
import Orchestration.Proofs.RunHistories

/-!
# What the release of resources removes

When an environment is deleted, the paths that it holds are removed one after the other, newest
first.  A removal may fail halfway, and a path may lie inside one that was removed before it:

* `Disk.cutShort` — a removal that leaves some of what it should have removed;
* `kind?_shrunk`, `kind?_gap` — a path into what has been removed leads to nothing;
* `Mishap`, `StageOrchestrator.releaseAllAmid` — the release of resources amid removals that fail;
  amid none it is `releaseAll`;
* `releaseAmid_cases` — what one release can do, and what follows from it;
* `ReleaseTurns` — the turns of a release, each with the world before it and after it;
* `ReleasePhase`, `release_registered` — what is gone afterwards, what is untouched, and what the
  report says.
-/

namespace Orchestration

namespace Disk

variable {d d' : Disk} {cwd : Place} {path : String}

/-! ### Removals cut short -/

/-- Remove what is not spared of a place and of everything below it. -/
def cutShort (d : Disk) (top : Place) (spares : Place → Bool) : Disk :=
  ⟨d.entries.filter fun e => !isAtOrBelow top e.1 || spares e.1⟩

theorem cutShort_shrinks (d : Disk) (top : Place) (spares : Place → Bool) :
    (d.cutShort top spares).Grows d := by
  intro p entry lies
  by_cases kept : (!isAtOrBelow top p || spares p) = true
  · rwa [cutShort, entry?_filter d fun e he => by rw [he]; exact kept] at lies
  · by_cases root : p = []
    · subst root
      exact lies
    · have named : p.isEmpty = false := by simpa using root
      have gone : (d.cutShort top spares).entries.find? (fun e => e.1 == p) = none := by
        refine List.find?_eq_none.2 fun e he => ?_
        have stays := (List.mem_filter.1 he).2
        intro same
        rw [beq_iff_eq.1 same] at stays
        exact kept stays
      unfold entry? at lies
      rw [named, gone] at lies
      cases lies

theorem sameOutside_cutShort (d : Disk) (top : Place) (spares : Place → Bool) :
    SameOutside top d (d.cutShort top spares) :=
  sameOutside_filter d fun e away => by
    have apart : isAtOrBelow top e.1 = false := by
      rw [isAtOrBelow, Bool.eq_false_iff, ne_eq, List.isPrefixOf_iff_prefix]
      exact away
    rw [apart]
    rfl

/-! ### Paths into what has been removed -/

/-- With less on the disk, a way leads where it led or to nothing. -/
theorem walk_shrunk {here place : Place} {parts : List String} (less : d'.Grows d)
    (h : d.walk here parts = .ok place) :
    d'.walk here parts = .ok place ∨ d'.walk here parts = .error .notFound := by
  induction parts generalizing here with
  | nil => exact .inl h
  | cons part rest ih =>
    have dir := walk_cons h
    rw [walk_step d here part rest dir] at h
    cases lies : d'.entry? here with
    | none =>
      right
      rw [walk, lies]
    | some entry =>
      have still := less here entry lies
      rw [dir] at still
      cases still
      rw [walk_step d' here part rest lies]
      split at h
      · next followed =>
        rw [if_pos followed]
        exact ih h
      · cases h

/-- A path that led somewhere and does no longer is not found. -/
theorem kind?_shrunk {entry : DiskEntry} (less : d'.Grows d) (there : d.kind? cwd path = .ok entry)
    (gone : d'.Absent cwd path) : d'.kind? cwd path = .error .notFound := by
  obtain ⟨place, found, -⟩ := kind?_eq_ok.1 there
  obtain ⟨allowed, way⟩ := locate_eq_ok.1 found
  rcases walk_shrunk less way with still | lost
  · have found' : d'.locate cwd path = .ok place := locate_eq_ok.2 ⟨allowed, still⟩
    cases lies : d'.entry? place with
    | some entry' => exact absurd (kind?_eq_ok.2 ⟨place, found', lies⟩) (gone entry')
    | none => simp only [kind?, found', lies]
  · simp only [kind?, locate, allowed, lost]

/-- Nothing lies at a place, no file lies above it, and its names are short enough to be looked
up. -/
structure Gap (d : Disk) (top : Place) : Prop where
  vacant : d.entry? top = none
  open_above : ∀ p, p <+: top → ∀ content mode, d.entry? p ≠ some (.file content mode)
  short : ∀ name ∈ top, name.utf8ByteSize ≤ maxNameBytes

/-- A part that does not lead up leads nowhere or to its name. -/
theorem stepTo_forward {part : String} (up : part ≠ "..") (here : Place) :
    isIdlePart part = true ∧ stepTo here part = here ∨
      isIdlePart part = false ∧ stepTo here part = here ++ [part] := by
  cases idle : isIdlePart part with
  | true => exact .inl ⟨rfl, if_pos idle⟩
  | false =>
    right
    rw [stepTo, idle, if_neg Bool.false_ne_true, if_neg (by simpa using up)]
    exact ⟨rfl, rfl⟩

/-- A part leads at most one name further, so nothing lies between. -/
theorem stepTo_within {here p : Place} {part : String} (up : part ≠ "..") (begins : here <+: p)
    (within : here ≠ p) (meets : stepTo here part <+: p ∨ p <+: stepTo here part) :
    stepTo here part <+: p := by
  rcases meets with ends | passed
  · exact ends
  · rcases stepTo_forward up here with ⟨-, step⟩ | ⟨-, step⟩
    · rwa [step]
    · rw [step] at passed ⊢
      rcases List.prefix_concat_iff.1 passed with same | back
      · exact same ▸ List.prefix_rfl
      · exact absurd (begins.eq_of_length_le back.length_le) within

/-- A way to a gap or into it ends there or above. -/
theorem walk_gap {top here : Place} {parts : List String} (gap : d.Gap top)
    (plain : ".." ∉ parts) (above : here <+: top) (into : top <+: reach here parts) :
    d.walk here parts = .ok top ∨ d.walk here parts = .error .notFound := by
  induction parts generalizing here with
  | nil =>
    left
    rw [above.eq_of_length_le into.length_le]
    rfl
  | cons part rest ih =>
    obtain ⟨up, onward⟩ : part ≠ ".." ∧ ".." ∉ rest := by simpa [eq_comm] using plain
    cases lies : d.entry? here with
    | none =>
      right
      rw [walk, lies]
    | some entry =>
      cases entry with
      | file content mode => exact absurd lies (gap.open_above here above content mode)
      | directory =>
        have within : here ≠ top := by
          rintro rfl
          rw [gap.vacant] at lies
          cases lies
        have stays : stepTo here part <+: top :=
          stepTo_within up above within
            (List.prefix_or_prefix_of_prefix (prefix_reach onward) into)
        have followed : isFollowed part = true := by
          rcases stepTo_forward up here with ⟨idle, -⟩ | ⟨-, step⟩
          · rw [isFollowed, idle]
            rfl
          · have short := gap.short part (stays.subset (by simp [step]))
            rw [isFollowed, decide_eq_false (Nat.not_lt.2 short)]
            simp
        rw [walk_step d here part rest lies, if_pos followed]
        exact ih onward stays into

/-- A path to a vacant place or to one below it is not found. -/
theorem kind?_gap {top : Place} (gap : d.Gap top) (plain : ".." ∉ pathParts path)
    (allowed : refuse? path = none) (above : startOf cwd path <+: top)
    (into : top <+: reach (startOf cwd path) (pathParts path)) :
    d.kind? cwd path = .error .notFound := by
  rcases walk_gap gap plain above into with arrives | lost
  · simp only [kind?, locate, allowed, arrives, gap.vacant]
  · simp only [kind?, locate, allowed, lost]

/-- What a way has led through is a directory. -/
theorem directory_of_walk {here place p : Place} {parts : List String} (plain : ".." ∉ parts)
    (h : d.walk here parts = .ok place) (begins : here <+: p) (ends : p <+: place)
    (before : p ≠ place) : d.entry? p = some .directory := by
  induction parts generalizing here with
  | nil =>
    cases h
    exact absurd (ends.eq_of_length_le begins.length_le) before
  | cons part rest ih =>
    obtain ⟨up, onward⟩ : part ≠ ".." ∧ ".." ∉ rest := by simpa [eq_comm] using plain
    have dir := walk_cons h
    rw [walk_step d here part rest dir] at h
    split at h
    · by_cases same : here = p
      · rwa [← same]
      · have further : stepTo here part <+: reach (stepTo here part) rest := prefix_reach onward
        rw [walk_reach h] at further
        exact ih onward h
          (stepTo_within up begins same (List.prefix_or_prefix_of_prefix further ends))
    · cases h

/-- The names that a way adds are not too long. -/
theorem short_of_walk {here place : Place} {parts : List String} (plain : ".." ∉ parts)
    (h : d.walk here parts = .ok place) {name : String} (hn : name ∈ place) :
    name ∈ here ∨ name.utf8ByteSize ≤ maxNameBytes := by
  induction parts generalizing here with
  | nil =>
    cases h
    exact .inl hn
  | cons part rest ih =>
    obtain ⟨up, onward⟩ : part ≠ ".." ∧ ".." ∉ rest := by simpa [eq_comm] using plain
    rw [walk_step d here part rest (walk_cons h)] at h
    split at h
    · next followed =>
      rcases ih onward h with old | short
      · rcases stepTo_forward up here with ⟨-, step⟩ | ⟨idle, step⟩
        · rw [step] at old
          exact .inl old
        · rw [step] at old
          rcases List.mem_append.1 old with old | new
          · exact .inl old
          · right
            rw [List.mem_singleton.1 new]
            simpa [isFollowed, idle, up] using followed
      · exact .inr short
    · cases h

/-- Where a path leads to nothing any more, because something was removed at its place, nothing
lies. -/
theorem vacant_of_removed {place : Place} (plain : ".." ∉ pathParts path)
    (found : d.locate cwd path = .ok place) (less : d'.Grows d) (same : SameOutside place d d')
    (gone : d'.Absent cwd path) : d'.entry? place = none := by
  obtain ⟨allowed, way⟩ := locate_eq_ok.1 found
  cases stays : d'.entry? place with
  | none => rfl
  | some entry =>
    -- were the entry still there, then so would be all directories on the way to it
    have dirs : ∀ p ∈ onWay (startOf cwd path) (pathParts path),
        d.entry? p = some .directory → d'.entry? p = some .directory := by
      intro p hp dir
      by_cases last : p = place
      · rw [last] at dir ⊢
        rw [less place entry stays] at dir
        cases dir
        exact stays
      · have above := onWay_above plain p hp
        rw [walk_reach way] at above
        rw [same p fun below => last (above.eq_of_length_le below.length_le)]
        exact dir
    exact absurd (kind?_eq_ok.2 ⟨place, locate_eq_ok.2 ⟨allowed, walk_mono dirs way⟩, stays⟩)
      (gone entry)

/-- Where an absolute path led to something and leads to nothing now, because something was removed
at its place, is a gap. -/
theorem gap_of_removed {entry : DiskEntry} (rooted : isAbsolutePath path = true)
    (plain : ".." ∉ pathParts path) (there : d.kind? cwd path = .ok entry) (less : d'.Grows d)
    (same : SameOutside (reach (startOf cwd path) (pathParts path)) d d')
    (gone : d'.Absent cwd path) : d'.Gap (reach (startOf cwd path) (pathParts path)) := by
  obtain ⟨place, found, -⟩ := kind?_eq_ok.1 there
  obtain ⟨-, way⟩ := locate_eq_ok.1 found
  have root : startOf cwd path = [] := if_pos rooted
  rw [walk_reach way] at same ⊢
  have vacant := vacant_of_removed plain found less same gone
  refine ⟨vacant, fun p above content mode file => ?_, fun name hn => ?_⟩
  · by_cases last : p = place
    · rw [last, vacant] at file
      cases file
    · have dir := directory_of_walk plain way (root ▸ List.nil_prefix) above last
      rw [less p _ file] at dir
      cases dir
  · rcases short_of_walk plain way hn with start | short
    · rw [root] at start
      cases start
    · exact short

/-- With still less on the disk, a gap stays one. -/
theorem Gap.shrunk {top : Place} (gap : d.Gap top) (less : d'.Grows d) : d'.Gap top where
  vacant := by
    cases lies : d'.entry? top with
    | none => rfl
    | some entry =>
      have before := less top entry lies
      rw [gap.vacant] at before
      cases before
  open_above p above content mode lies := gap.open_above p above content mode (less p _ lies)
  short := gap.short

end Disk

variable {σ : Type}

/-! ### Removals that fail -/

/-- A removal that fails: what the system says, which is not that nothing is there, and what is
left of what was to be removed. -/
structure Mishap where
  fault : SystemFault
  present : fault.isMissing = false
  spares : Place → Bool

/-- Remove what is not spared of what lies at a path and below it. -/
def World.cutShort (path : String) (spares : Place → Bool) (w : World σ) : World σ :=
  { w with disk :=
      w.disk.cutShort (Disk.reach (Disk.startOf w.cwd path) (pathParts path)) spares }

/-- From one world to another, entries were taken off the disk and nothing else has changed. -/
structure World.Loses (w w' : World σ) : Prop where
  less : w'.disk.Grows w.disk
  elsewhere : w' = { w with disk := w'.disk }

theorem World.Loses.refl (w : World σ) : w.Loses w := ⟨.refl _, rfl⟩

theorem World.Loses.trans {w w' w'' : World σ} (h : w.Loses w') (h' : w'.Loses w'') :
    w.Loses w'' := by
  refine ⟨h'.less.trans h.less, ?_⟩
  rw [h'.elsewhere, h.elsewhere]

theorem World.Loses.cwd {w w' : World σ} (h : w.Loses w') : w'.cwd = w.cwd := by
  rw [h.elsewhere]

namespace StageOrchestrator

/-- Remove whatever lies at a path, if no mishap befalls its removal. -/
def removeAmid (m : Option Mishap) (path : String) (w : World σ) :
    Except SystemFault Unit × World σ :=
  match m with
  | none => removeAny path w
  | some m =>
    match w.disk.kind? w.cwd path with
    | .error f => (.error f, w)
    | .ok _ => (.error m.fault, w.cutShort path m.spares)

/-- Release a resource, if no mishap befalls its removal. -/
def releaseAmid (m : Option Mishap) (resource : String) (w : World σ) : StepStatus × World σ :=
  if isAbsolutePath resource then
    let (r, w) := removeAmid m resource w
    (releaseStatus r, w)
  else (.skipped "not a filesystem path", w)

/-- Release resources in order, noting how each went; the first of them may meet with the first
mishap, and so on. -/
def releaseAllAmid : (Nat → Option Mishap) → List String → TeardownReport → World σ →
    TeardownReport × World σ
  | _, [], report, w => (report, w)
  | ms, resource :: rest, report, w =>
    let (status, w) := releaseAmid (ms 0) resource w
    releaseAllAmid (fun n => ms (n + 1)) rest (report.record ("release " ++ resource) status) w

/-- Without mishaps resources are released as they always are. -/
theorem releaseAllAmid_none (resources : List String) : ∀ (report : TeardownReport) (w : World σ),
    releaseAllAmid (fun _ => none) resources report w = releaseAll resources report w := by
  induction resources with
  | nil => exact fun _ _ => rfl
  | cons resource rest ih => exact fun report w => ih _ _

section Turn

variable {m : Option Mishap} {resource : String} {status : StepStatus} {w w' : World σ}

/-- A mishap befalls the removal of an absolute path that leads to something; otherwise the resource
is released as it always is. -/
theorem releaseAmid_cases (h : releaseAmid m resource w = (status, w')) :
    release resource w = (status, w') ∨
      ∃ (fault : Mishap) (entry : DiskEntry), isAbsolutePath resource = true ∧
        w.disk.kind? w.cwd resource = .ok entry ∧ status = .failed fault.fault.message ∧
        w' = w.cutShort resource fault.spares := by
  cases m with
  | none => exact .inl h
  | some fault =>
    by_cases rooted : isAbsolutePath resource = true
    · rw [releaseAmid, if_pos rooted, removeAmid] at h
      cases kind : w.disk.kind? w.cwd resource with
      | error f =>
        left
        rw [kind] at h
        rw [release, if_pos rooted, removeAny, kind]
        exact h
      | ok entry =>
        right
        rw [kind] at h
        cases h
        refine ⟨fault, entry, rooted, rfl, ?_, rfl⟩
        rw [releaseStatus, fault.present]
        rfl
    · left
      rw [releaseAmid, if_neg rooted] at h
      rw [release, if_neg rooted]
      exact h

theorem removeAny_elsewhere (path : String) (w : World σ) :
    (removeAny path w).2 = { w with disk := (removeAny path w).2.disk } := by
  unfold removeAny
  split
  · rfl
  · rfl
  · unfold World.removeFile
    split <;> rfl

/-- A turn takes entries off the disk and changes nothing else. -/
theorem releaseAmid_loses (h : releaseAmid m resource w = (status, w')) : w.Loses w' := by
  rcases releaseAmid_cases h with usual | ⟨fault, entry, -, -, -, rfl⟩
  · have less := release_shrinks resource w
    rw [usual] at less
    refine ⟨less, ?_⟩
    unfold release at usual
    split at usual
    · cases usual
      exact removeAny_elsewhere resource w
    · cases usual
      rfl
  · exact ⟨Disk.cutShort_shrinks _ _ _, rfl⟩

/-- A resource that is no absolute path is left to its engine. -/
theorem releaseAmid_relative (h : releaseAmid m resource w = (status, w'))
    (relative : isAbsolutePath resource = false) :
    status = .skipped "not a filesystem path" ∧ w' = w := by
  rw [releaseAmid, relative] at h
  cases h
  exact ⟨rfl, rfl⟩

/-- A turn leaves alone what does not lie at the path of its resource or below it. -/
theorem releaseAmid_outside (h : releaseAmid m resource w = (status, w')) :
    Disk.SameOutside (Disk.reach (Disk.startOf w.cwd resource) (pathParts resource)) w.disk
      w'.disk := by
  rcases releaseAmid_cases h with usual | ⟨fault, entry, -, -, -, rfl⟩
  · have same := sameOutside_release resource w
    rwa [usual] at same
  · exact Disk.sameOutside_cutShort _ _ _

/-- After its turn an absolute path leads to nothing, or the turn has failed. -/
theorem releaseAmid_absent (h : releaseAmid m resource w = (status, w'))
    (rooted : isAbsolutePath resource = true) :
    w'.disk.Absent w'.cwd resource ∨ status.isFailed = true := by
  rcases releaseAmid_cases h with usual | ⟨fault, entry, -, -, rfl, -⟩
  · cases fine : status.isFailed with
    | true => exact .inr rfl
    | false => exact .inl (absent_of_release rooted usual fine)
  · exact .inr rfl

/-- A path that is not found when its turn comes counts as removed already. -/
theorem releaseAmid_missing (h : releaseAmid m resource w = (status, w'))
    (rooted : isAbsolutePath resource = true)
    (missing : w.disk.kind? w.cwd resource = .error .notFound) :
    status = .skipped "already removed" := by
  rcases releaseAmid_cases h with usual | ⟨fault, entry, -, there, -, -⟩
  · rw [release, if_pos rooted, removeAny, missing] at usual
    cases usual
    rfl
  · rw [missing] at there
    cases there

/-- What was released had been there. -/
theorem exists_of_releaseAmid_done (h : releaseAmid m resource w = (.done, w')) :
    isAbsolutePath resource = true ∧ ∃ entry, w.disk.kind? w.cwd resource = .ok entry := by
  rcases releaseAmid_cases h with usual | ⟨fault, entry, -, -, failed, -⟩
  · by_cases rooted : isAbsolutePath resource = true
    · refine ⟨rooted, ?_⟩
      rw [release, if_pos rooted, removeAny] at usual
      cases kind : w.disk.kind? w.cwd resource with
      | ok entry => exact ⟨entry, rfl⟩
      | error f =>
        rw [kind] at usual
        by_cases missing : f.isMissing = true
        · simp only [releaseStatus, if_pos missing] at usual
          cases usual
        · simp only [releaseStatus, if_neg missing] at usual
          cases usual
    · rw [release, if_neg rooted] at usual
      cases usual
  · cases failed

end Turn

/-! ### Turns -/

/-- A resource that is released, how that went, and the world before it and after it. -/
structure ReleaseTurn (σ : Type) where
  resource : String
  before : World σ
  status : StepStatus
  after : World σ

/-- What the report says of a turn. -/
def ReleaseTurn.step (t : ReleaseTurn σ) : TeardownStep := ⟨"release " ++ t.resource, t.status⟩

/-- The resource was released in the turn, amid a mishap or none. -/
def ReleaseTurn.Happens (t : ReleaseTurn σ) : Prop :=
  ∃ m, releaseAmid m t.resource t.before = (t.status, t.after)

/-- Turns that lead from one world to another, each beginning where the one before it has ended. -/
inductive ReleaseTurns : World σ → List (ReleaseTurn σ) → World σ → Prop
  | nil (w : World σ) : ReleaseTurns w [] w
  | cons {t : ReleaseTurn σ} {ts : List (ReleaseTurn σ)} {w' : World σ} (first : t.Happens)
      (others : ReleaseTurns t.after ts w') : ReleaseTurns t.before (t :: ts) w'

/-- Every resource has its turn, whatever became of those before it. -/
theorem releaseAllAmid_turns (resources : List String) :
    ∀ (ms : Nat → Option Mishap) (report : TeardownReport) (w : World σ), ∃ turns w',
      ReleaseTurns w turns w' ∧ turns.map ReleaseTurn.resource = resources ∧
      releaseAllAmid ms resources report w =
        (⟨report.testId, report.steps ++ turns.map ReleaseTurn.step⟩, w') := by
  induction resources with
  | nil =>
    intro ms report w
    refine ⟨[], w, .nil w, rfl, ?_⟩
    rw [List.map_nil, List.append_nil]
    rfl
  | cons resource rest ih =>
    intro ms report w
    cases first : releaseAmid (ms 0) resource w with | mk status w₁
    obtain ⟨turns, w', others, named, run⟩ :=
      ih (fun n => ms (n + 1)) (report.record ("release " ++ resource) status) w₁
    have happens : ReleaseTurn.Happens ⟨resource, w, status, w₁⟩ := ⟨ms 0, first⟩
    refine ⟨⟨resource, w, status, w₁⟩ :: turns, w', .cons happens others, ?_, ?_⟩
    · rw [List.map_cons, named]
    · rw [releaseAllAmid, first]
      show releaseAllAmid _ rest (report.record ("release " ++ resource) status) w₁ = _
      rw [run]
      simp only [TeardownReport.record, List.append_assoc, List.singleton_append, List.map_cons]
      rfl

namespace ReleaseTurns

variable {turns : List (ReleaseTurn σ)} {w w' : World σ}

theorem loses (h : ReleaseTurns w turns w') : w.Loses w' := by
  induction h with
  | nil w => exact .refl w
  | cons first _ ih =>
    obtain ⟨m, happens⟩ := first
    exact (releaseAmid_loses happens).trans ih

/-- Before a turn and after it there are only turns. -/
theorem of_mem (h : ReleaseTurns w turns w') :
    ∀ t ∈ turns, t.Happens ∧ w.Loses t.before ∧ t.after.Loses w' := by
  induction h with
  | nil w => exact fun t ht => absurd ht List.not_mem_nil
  | @cons first ts w' happens others ih =>
    intro t ht
    rcases List.mem_cons.1 ht with rfl | ht
    · exact ⟨happens, .refl _, others.loses⟩
    · obtain ⟨later, before, after⟩ := ih t ht
      obtain ⟨m, now⟩ := happens
      exact ⟨later, (releaseAmid_loses now).trans before, after⟩

/-- From the end of a turn to the beginning of a later one there are only turns. -/
theorem pairwise (h : ReleaseTurns w turns w') :
    turns.Pairwise fun s t => s.Happens ∧ t.Happens ∧ s.after.Loses t.before := by
  induction h with
  | nil w => exact .nil
  | cons first others ih =>
    exact .cons (fun t ht => ⟨first, (others.of_mem t ht).1, (others.of_mem t ht).2.1⟩) ih

end ReleaseTurns

/-! ### The phase -/

/-- What the release of resources does, turn by turn. -/
structure ReleasePhase (resources : List String) (w : World σ) (turns : List (ReleaseTurn σ))
    (w' : World σ) : Prop where
  /-- Every absolute path leads to nothing in the end, or one of its turns has failed. -/
  gone : ∀ r ∈ resources, isAbsolutePath r = true →
    w'.disk.Absent w'.cwd r ∨ ∃ t ∈ turns, t.resource = r ∧ t.status.isFailed = true
  /-- Whatever lies at no absolute path and below none is as it was. -/
  untouched : ∀ p : Place, (∀ r ∈ resources, isAbsolutePath r = true →
    ¬ Disk.reach [] (pathParts r) <+: p) → w'.disk.entry? p = w.disk.entry? p
  /-- Nothing but the disk has changed. -/
  elsewhere : w' = { w with disk := w'.disk }
  /-- What is no absolute path is skipped, and nothing is removed for it. -/
  relative : ∀ t ∈ turns, isAbsolutePath t.resource = false →
    t.status = .skipped "not a filesystem path" ∧ t.after = t.before
  /-- A path at or below one that was released before it is skipped. -/
  covered : turns.Pairwise fun s t => s.status = .done → isAbsolutePath t.resource = true →
    Disk.refuse? t.resource = none → ".." ∉ pathParts s.resource → ".." ∉ pathParts t.resource →
    Disk.reach [] (pathParts s.resource) <+: Disk.reach [] (pathParts t.resource) →
    t.status = .skipped "already removed"
  /-- A path that led to something when an earlier turn came, and does no longer, is skipped. -/
  vanished : turns.Pairwise fun s t => isAbsolutePath t.resource = true →
    (∃ entry, s.before.disk.kind? s.before.cwd t.resource = .ok entry) →
    t.before.disk.Absent t.before.cwd t.resource → t.status = .skipped "already removed"

section Phase

variable {s t : ReleaseTurn σ}

theorem startOf_absolute {path : String} (rooted : isAbsolutePath path = true) (cwd : Place) :
    Disk.startOf cwd path = [] := if_pos rooted

/-- A turn whose path was covered by an earlier one. -/
theorem ReleaseTurn.Happens.covered (first : s.Happens) (later : t.Happens)
    (between : s.after.Loses t.before) (done : s.status = .done)
    (rooted : isAbsolutePath t.resource = true) (allowed : Disk.refuse? t.resource = none)
    (plain : ".." ∉ pathParts s.resource) (plain' : ".." ∉ pathParts t.resource)
    (inside : Disk.reach [] (pathParts s.resource) <+: Disk.reach [] (pathParts t.resource)) :
    t.status = .skipped "already removed" := by
  obtain ⟨m, first⟩ := first
  obtain ⟨m', later⟩ := later
  rw [done] at first
  obtain ⟨absolute, entry, there⟩ := exists_of_releaseAmid_done first
  have lost := releaseAmid_loses first
  have gone : s.after.disk.Absent s.before.cwd s.resource := by
    rw [← lost.cwd]
    exact (releaseAmid_absent first absolute).resolve_right Bool.false_ne_true
  have gap := Disk.gap_of_removed absolute plain there lost.less (releaseAmid_outside first) gone
  rw [startOf_absolute absolute] at gap
  refine releaseAmid_missing later rooted
    (Disk.kind?_gap (gap.shrunk between.less) plain' allowed ?_ ?_)
  · rw [startOf_absolute rooted]
    exact List.nil_prefix
  · rwa [startOf_absolute rooted]

theorem ReleaseTurn.Happens.vanished (first : s.Happens) (later : t.Happens)
    (between : s.after.Loses t.before) (rooted : isAbsolutePath t.resource = true)
    (there : ∃ entry, s.before.disk.kind? s.before.cwd t.resource = .ok entry)
    (gone : t.before.disk.Absent t.before.cwd t.resource) :
    t.status = .skipped "already removed" := by
  obtain ⟨m, first⟩ := first
  obtain ⟨m', later⟩ := later
  obtain ⟨entry, there⟩ := there
  have lost := (releaseAmid_loses first).trans between
  refine releaseAmid_missing later rooted ?_
  rw [lost.cwd] at gone ⊢
  exact Disk.kind?_shrunk lost.less there gone

theorem ReleaseTurns.untouched {turns : List (ReleaseTurn σ)} {w w' : World σ}
    (h : ReleaseTurns w turns w') {p : Place}
    (away : ∀ t ∈ turns, isAbsolutePath t.resource = true →
      ¬ Disk.reach [] (pathParts t.resource) <+: p) :
    w'.disk.entry? p = w.disk.entry? p := by
  induction h with
  | nil w => rfl
  | @cons t ts w' first _ ih =>
    obtain ⟨m, happens⟩ := first
    rw [ih fun u hu => away u (List.mem_cons_of_mem _ hu)]
    cases rooted : isAbsolutePath t.resource with
    | false => rw [(releaseAmid_relative happens rooted).2]
    | true =>
      have outside := away t List.mem_cons_self rooted
      rw [← startOf_absolute rooted t.before.cwd] at outside
      exact releaseAmid_outside happens p outside

/-- The release of what an environment holds, whatever removals fail: every resource has its turn,
newest first, each turn is one step of the report, and exactly what is registered is removed.
Without failures it is the release that every deletion makes. -/
theorem release_registered (e : TestEnvironment) (report : TeardownReport) (w : World σ) :
    (∀ ms : Nat → Option Mishap, ∃ turns w', ReleaseTurns w turns w' ∧
      turns.map ReleaseTurn.resource = e.managedResources.reverse ∧
      releaseAllAmid ms e.managedResources.reverse report w =
        (⟨report.testId, report.steps ++ turns.map ReleaseTurn.step⟩, w') ∧
      ReleasePhase e.managedResources w turns w') ∧
    releaseAllAmid (fun _ => none) e.managedResources.reverse report w =
      releaseAll e.managedResources.reverse report w := by
  refine ⟨fun ms => ?_, releaseAllAmid_none _ report w⟩
  obtain ⟨turns, w', linked, named, run⟩ :=
    releaseAllAmid_turns e.managedResources.reverse ms report w
  have mem_turns : ∀ {r}, r ∈ e.managedResources ↔ ∃ t ∈ turns, t.resource = r := by
    intro r
    rw [← List.mem_map, named, List.mem_reverse]
  refine ⟨turns, w', linked, named, run, ?_, ?_, linked.loses.elsewhere, ?_, ?_, ?_⟩
  · intro r hr rooted
    obtain ⟨t, ht, rfl⟩ := mem_turns.1 hr
    obtain ⟨⟨m, happens⟩, -, rest⟩ := linked.of_mem t ht
    rcases releaseAmid_absent happens rooted with absent | failed
    · left
      rw [rest.cwd]
      exact absent.shrunk rest.less
    · exact .inr ⟨t, ht, rfl, failed⟩
  · intro p away
    exact linked.untouched fun t ht => away _ (mem_turns.2 ⟨t, ht, rfl⟩)
  · intro t ht relative
    obtain ⟨⟨m, happens⟩, -⟩ := linked.of_mem t ht
    exact releaseAmid_relative happens relative
  · exact linked.pairwise.imp fun ⟨first, later, between⟩ => first.covered later between
  · exact linked.pairwise.imp fun ⟨first, later, between⟩ => first.vanished later between

/-- A removal fails and the later ones are made all the same; what lay in a directory went with
it. -/
example :
    let disk : Disk := ⟨[(["c"], .directory), (["a"], .directory), (["a", "b"], .directory)]⟩
    let w : World Unit := ⟨disk, [], fun _ => .epoch, 0, fun _ => 0, 0, [], ()⟩
    let refused : Mishap := ⟨.permissionDenied, rfl, fun _ => true⟩
    let ms : Nat → Option Mishap := fun n => if n = 0 then some refused else none
    (releaseAllAmid ms ["/c", "db", "/a", "/a/b"] (.empty "t") w).1.steps =
      [⟨"release /c", .failed "Permission denied (os error 13)"⟩,
        ⟨"release db", .skipped "not a filesystem path"⟩, ⟨"release /a", .done⟩,
        ⟨"release /a/b", .skipped "already removed"⟩] := by
  decide +kernel

end Phase

end StageOrchestrator

end Orchestration
