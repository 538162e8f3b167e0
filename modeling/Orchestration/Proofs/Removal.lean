import Orchestration.Proofs.Files
import Orchestration.Proofs.Teardown

/-!
# What was removed is gone

Removing takes entries off a disk and puts none on it, so what has become absent stays so:

* `Disk.Absent` — a path leads to nothing;
* `Absent.shrunk`, `Absent.reshaped` — with less on the disk, or with other contents in its files,
  the path still leads to nothing;
* `absent_of_removeDir`, `removeFile_of_kind` — what was removed without a complaint is absent;
* `Releases.absent` — every path that was released without a failure is absent in the end.
-/

namespace Orchestration

namespace Disk

/-! ### Less on a disk -/

theorem entry?_cut (d : Disk) {top p : Place} (h : top <+: p) (hne : p ≠ []) :
    entry? (d.cut top) p = none := by
  have named : p.isEmpty = false := by simpa using hne
  have gone : (d.cut top).entries.find? (fun e => e.1 == p) = none := by
    refine List.find?_eq_none.2 fun e he => ?_
    have away := (mem_cut.1 he).2
    rw [isAtOrBelow, Bool.eq_false_iff, ne_eq, List.isPrefixOf_iff_prefix] at away
    intro same
    rw [beq_iff_eq.1 same] at away
    exact away h
  unfold entry?
  rw [named, gone]
  rfl

theorem cut_shrinks (d : Disk) (top : Place) : (d.cut top).Grows d := by
  intro p entry lies
  by_cases inside : top <+: p
  · by_cases root : p = []
    · subst root
      exact lies
    · rw [entry?_cut d inside root] at lies
      cases lies
  · rwa [sameOutside_cut d top p inside] at lies

theorem entry?_cutBelow_self (d : Disk) (top : Place) :
    entry? (d.cutBelow top) top = d.entry? top :=
  entry?_filter d fun e he => by simp [isBelow, he]

theorem entry?_cutBelow (d : Disk) {top p : Place} (h : top <+: p) (hne : p ≠ top) :
    entry? (d.cutBelow top) p = none := by
  have named : p.isEmpty = false := by
    cases p with
    | nil => exact absurd (List.prefix_nil.1 h).symm hne
    | cons => rfl
  have gone : (d.cutBelow top).entries.find? (fun e => e.1 == p) = none := by
    refine List.find?_eq_none.2 fun e he => ?_
    have away := (List.mem_filter.1 he).2
    intro same
    rw [beq_iff_eq] at same
    have inside : top.isPrefixOf p = true := List.isPrefixOf_iff_prefix.2 h
    simp [isBelow, isAtOrBelow, same, hne, inside] at away
  unfold entry?
  rw [named, gone]
  rfl

theorem cutBelow_shrinks (d : Disk) (top : Place) : (d.cutBelow top).Grows d := by
  intro p entry lies
  by_cases inside : top <+: p
  · by_cases self : p = top
    · subst self
      rwa [entry?_cutBelow_self] at lies
    · rw [entry?_cutBelow d inside self] at lies
      cases lies
  · rwa [sameOutside_cutBelow d top p inside] at lies

theorem removeEmpty_shrinks {d d' : Disk} {cwd : Place} {path : String}
    (h : d.removeEmpty cwd path = .ok d') : d'.Grows d := by
  rw [(removeEmpty_cuts h).2]
  exact cut_shrinks d _

theorem removeDir_shrinks (d : Disk) (cwd : Place) (path : String) :
    (d.removeDir cwd path).2.Grows d := by
  unfold removeDir
  split
  · exact .refl d
  · next place _ =>
    split
    · exact .refl d
    · exact .refl d
    · dsimp only
      split
      · next removed => exact (removeEmpty_shrinks removed).trans (cutBelow_shrinks d place)
      · exact cutBelow_shrinks d place

theorem removeFile_shrinks {d d' : Disk} {cwd : Place} {path : String}
    (h : d.removeFile cwd path = .ok d') : d'.Grows d := by
  unfold removeFile at h
  split at h
  · cases h
  · split at h
    · cases h
    · cases h
    · cases h
      exact cut_shrinks d _

/-! ### Paths that lead to nothing -/

theorem kind?_eq_ok {d : Disk} {cwd : Place} {path : String} {entry : DiskEntry} :
    d.kind? cwd path = .ok entry ↔
      ∃ place, d.locate cwd path = .ok place ∧ d.entry? place = some entry := by
  rw [kind?]
  cases d.locate cwd path with
  | error f => simp
  | ok place => cases lies : d.entry? place <;> simp [lies]

theorem locate_unique {d d' : Disk} {cwd place place' : Place} {path : String}
    (h : d.locate cwd path = .ok place) (h' : d'.locate cwd path = .ok place') :
    place = place' :=
  (walk_reach (locate_eq_ok.1 h).2).symm.trans (walk_reach (locate_eq_ok.1 h').2)

/-- A path leads to nothing. -/
def Absent (d : Disk) (cwd : Place) (path : String) : Prop :=
  ∀ entry, d.kind? cwd path ≠ .ok entry

theorem Absent.shrunk {d d' : Disk} {cwd : Place} {path : String} (h : d.Absent cwd path)
    (less : d'.Grows d) : d'.Absent cwd path := by
  intro entry there
  obtain ⟨place, found, lies⟩ := kind?_eq_ok.1 there
  obtain ⟨allowed, way⟩ := locate_eq_ok.1 found
  have before : d.walk (startOf cwd path) (pathParts path) = .ok place :=
    walk_mono (fun p _ => less p .directory) way
  exact h entry (kind?_eq_ok.2 ⟨place, locate_eq_ok.2 ⟨allowed, before⟩, less _ _ lies⟩)

/-- The same places on two disks, directories where there were directories. -/
structure SameShape (d d' : Disk) : Prop where
  absent : ∀ p : Place, d'.entry? p = none ↔ d.entry? p = none
  directory : ∀ p : Place, d'.entry? p = some .directory ↔ d.entry? p = some .directory

theorem SameShape.refl (d : Disk) : SameShape d d := ⟨fun _ => .rfl, fun _ => .rfl⟩

/-- A new file in the place of an old one. -/
theorem SameShape.put {d : Disk} {place : Place} {old new : RawText} {was is : Bool}
    (h : d.entry? place = some (.file old was)) : SameShape d (d.put place (.file new is)) := by
  have named : place ≠ [] := by
    rintro rfl
    cases h
  refine ⟨fun p => ?_, fun p => ?_⟩ <;>
  · by_cases same : p = place
    · subst same
      rw [entry?_put_same d _ named, h]
      simp
    · rw [entry?_put_of_ne d _ same]

theorem Absent.reshaped {d d' : Disk} {cwd : Place} {path : String} (h : d.Absent cwd path)
    (same : SameShape d d') : d'.Absent cwd path := by
  intro entry there
  obtain ⟨place, found, lies⟩ := kind?_eq_ok.1 there
  obtain ⟨allowed, way⟩ := locate_eq_ok.1 found
  have before : d.walk (startOf cwd path) (pathParts path) = .ok place :=
    walk_mono (fun p _ => (same.directory p).1) way
  cases lay : d.entry? place with
  | none =>
    rw [(same.absent place).2 lay] at lies
    cases lies
  | some old => exact h old (kind?_eq_ok.2 ⟨place, locate_eq_ok.2 ⟨allowed, before⟩, lay⟩)

/-- A path that leads to a directory has no last name, or its last name is looked up in a
directory above. -/
theorem holder_of_locate {d : Disk} {cwd place : Place} {path : String}
    (found : d.locate cwd path = .ok place) (dir : d.entry? place = some .directory) :
    ∃ above, d.holder cwd path = .ok (above, (writtenParts path).getLast?) ∧
      ∀ name, (writtenParts path).getLast? = some name → place = stepTo above name := by
  obtain ⟨allowed, way⟩ := locate_eq_ok.1 found
  have start : d.entry? (startOf cwd path) = some .directory :=
    walk_of_ne_nil (pathParts_ne_nil path) way
  have written : d.walk (startOf cwd path) (writtenParts path) = .ok place :=
    ((walk_written dir).1 way).1
  cases last : (writtenParts path).getLast? with
  | none =>
    have none : writtenParts path = [] := by simpa using last
    refine ⟨startOf cwd path, holder_eq_ok.2 ⟨allowed, ?_, start, last⟩, by simp⟩
    rw [none]
    rfl
  | some name =>
    obtain ⟨front, parts⟩ := List.getLast?_eq_some_iff.1 last
    rw [parts, walk_append] at written
    cases toAbove : d.walk (startOf cwd path) front with
    | error f => rw [toAbove] at written; cases written
    | ok above =>
      rw [toAbove] at written
      replace written : d.walk above [name] = .ok place := written
      refine ⟨above, holder_eq_ok.2 ⟨allowed, ?_, walk_cons written, last⟩, ?_⟩
      · rw [parts, List.dropLast_concat, toAbove]
      · rintro _ ⟨⟩
        exact (walk_reach written).symm

/-- A directory that is there is not missed when it is to be removed. -/
theorem removeEmpty_not_missing {d : Disk} {cwd place : Place} {path : String} {f : SystemFault}
    (found : d.locate cwd path = .ok place) (dir : d.entry? place = some .directory)
    (refused : d.removeEmpty cwd path = .error f) : ¬ f.isMissing = true := by
  obtain ⟨above, held, arrives⟩ := holder_of_locate found dir
  rw [removeEmpty, held] at refused
  cases last : (writtenParts path).getLast? with
  | none =>
    rw [last] at refused
    cases refused
    decide
  | some name =>
    rw [last] at refused
    dsimp only at refused
    split at refused
    · cases refused
      decide
    · next dot =>
      split at refused
      · cases refused
        decide
      · next up =>
        have here : place = above ++ [name] := by
          rw [arrives name last]
          exact stepTo_lastName last (by simpa using dot) (by simpa using up) above
        rw [← here, contains, dir] at refused
        cases refused

/-- A directory that was removed without a complaint is absent. -/
theorem absent_of_removeDir {d d' : Disk} {cwd : Place} {path : String}
    (h : d.removeDir cwd path = (.ok (), d')) : d'.Absent cwd path := by
  unfold removeDir at h
  cases found : d.locate cwd path with
  | error f => rw [found] at h; cases h
  | ok place =>
    rw [found] at h
    dsimp only at h
    split at h
    · cases h
    · cases h
    · next dir =>
      intro entry there
      obtain ⟨place', found', lies⟩ := kind?_eq_ok.1 there
      obtain rfl : place = place' := locate_unique found found'
      cases removed : (d.cutBelow place).removeEmpty cwd path with
      | ok d₁ =>
        rw [removed] at h
        cases h
        obtain ⟨named, cut⟩ := removeEmpty_cuts removed
        rw [walk_reach (locate_eq_ok.1 found).2] at named cut
        rw [cut, entry?_cut _ List.prefix_rfl named] at lies
        cases lies
      | error f =>
        -- the path leads nowhere by now, although what it led to is still there
        rw [removed] at h
        dsimp only at h
        by_cases missing : f.isMissing = true
        · rw [if_pos missing] at h
          cases h
          have stays : entry? (d.cutBelow place) place = some .directory :=
            (entry?_cutBelow_self d place).trans dir
          exact removeEmpty_not_missing found' stays removed missing
        · rw [if_neg missing] at h
          cases h

theorem removeDir_not_missing {d d' : Disk} {cwd : Place} {path : String} {f : SystemFault}
    (dir : d.kind? cwd path = .ok .directory) (h : d.removeDir cwd path = (.error f, d')) :
    ¬ f.isMissing = true := by
  obtain ⟨place, found, lies⟩ := kind?_eq_ok.1 dir
  rw [removeDir, found] at h
  dsimp only at h
  rw [lies] at h
  dsimp only at h
  split at h
  · cases h
  · next g _ =>
    by_cases missing : g.isMissing = true
    · rw [if_pos missing] at h
      cases h
    · rw [if_neg missing] at h
      cases h
      exact missing

/-- A file can be removed, and then it is absent. -/
theorem removeFile_of_kind {d : Disk} {cwd : Place} {path : String} {content : RawText}
    {mode : Bool} (file : d.kind? cwd path = .ok (.file content mode)) :
    ∃ d', d.removeFile cwd path = .ok d' ∧ d'.Absent cwd path := by
  obtain ⟨place, found, lies⟩ := kind?_eq_ok.1 file
  have named : place ≠ [] := by
    rintro rfl
    cases lies
  refine ⟨d.cut place, ?_, fun entry there => ?_⟩
  · rw [removeFile, found]
    dsimp only
    rw [lies]
  · obtain ⟨place', found', here⟩ := kind?_eq_ok.1 there
    obtain rfl : place = place' := locate_unique found found'
    rw [entry?_cut _ List.prefix_rfl named] at here
    cases here

end Disk

/-! ### Releasing resources -/

variable {σ : Type}

namespace StageOrchestrator

theorem removeAny_shrinks (path : String) (w : World σ) :
    (removeAny path w).2.disk.Grows w.disk := by
  unfold removeAny
  split
  · exact .refl _
  · exact Disk.removeDir_shrinks w.disk w.cwd path
  · unfold World.removeFile
    split
    · next removed => exact Disk.removeFile_shrinks removed
    · exact .refl _

theorem release_shrinks (resource : String) (w : World σ) :
    (release resource w).2.disk.Grows w.disk := by
  unfold release
  split
  · exact removeAny_shrinks resource w
  · exact .refl _

/-- Whatever lies at a path is gone once its removal did not fail. -/
theorem absent_of_removeAny {path : String} {answer : Except SystemFault Unit} {w w' : World σ}
    (h : removeAny path w = (answer, w')) (fine : (releaseStatus answer).isFailed = false) :
    w'.disk.Absent w'.cwd path := by
  unfold removeAny at h
  cases kind : w.disk.kind? w.cwd path with
  | error f =>
    rw [kind] at h
    cases h
    intro entry there
    rw [kind] at there
    cases there
  | ok entry =>
    rw [kind] at h
    cases entry with
    | directory =>
      cases removed : w.disk.removeDir w.cwd path with | mk result d'
      simp only [World.removeDir, removed] at h
      cases h
      cases answer with
      | ok => exact Disk.absent_of_removeDir removed
      | error f =>
        rw [releaseStatus, if_neg (Disk.removeDir_not_missing kind removed)] at fine
        cases fine
    | file content mode =>
      obtain ⟨d', removed, gone⟩ := Disk.removeFile_of_kind kind
      simp only [World.removeFile, removed] at h
      cases h
      exact gone

/-- What lies at an absolute path is gone once it was released without a failure. -/
theorem absent_of_release {resource : String} {status : StepStatus} {w w' : World σ}
    (rooted : isAbsolutePath resource = true) (h : release resource w = (status, w'))
    (fine : status.isFailed = false) : w'.disk.Absent w'.cwd resource := by
  cases removed : removeAny resource w with | mk answer w₁
  rw [release, if_pos rooted, removed] at h
  cases h
  exact absent_of_removeAny removed fine

theorem Releases.shrinks {resources : List String} {w w' : World σ} {steps : List TeardownStep}
    (h : Releases resources w steps w') : w'.disk.Grows w.disk := by
  induction h with
  | nil w => exact .refl _
  | @cons resource rest status steps w w₁ w' first _ ih =>
    have here := release_shrinks resource w
    rw [first] at here
    exact ih.trans here

/-- Every absolute path that was released is absent in the end, when no release has failed. -/
theorem Releases.absent {resources : List String} {w w' : World σ} {steps : List TeardownStep}
    (h : Releases resources w steps w') (fine : ∀ s ∈ steps, s.status.isFailed = false) :
    ∀ resource ∈ resources, isAbsolutePath resource = true →
      w'.disk.Absent w'.cwd resource := by
  induction h with
  | nil w => exact fun resource hr => absurd hr List.not_mem_nil
  | @cons first rest status steps w w₁ w' released others ih =>
    have later := ih fun s hs => fine s (List.mem_cons_of_mem _ hs)
    intro resource hr rooted
    rcases List.mem_cons.1 hr with rfl | hr
    · have gone := absent_of_release rooted released (fine _ List.mem_cons_self)
      rw [others.trail.cwd]
      exact gone.shrunk others.shrinks
    · exact later resource hr rooted

end StageOrchestrator

end Orchestration
