import Orchestration.Proofs.FileView
import Orchestration.Proofs.Records
import Orchestration.Proofs.Removal
import Orchestration.Proofs.Runs

/-!
# The store in a file comes up with nothing but what was recorded

Whether a path leads to the store's file may change while directories are made and removed, but
what lies at the place that the path names does not:

* `Disk.contentAt` — the content of the file at a place, however one gets there;
* `contentAt_makeDirs`, `contentAt_shrunk` — making directories leaves it alone, and removing
  anything leaves it alone or takes it away;
* `StoreView.atPlace` — the records at that place;
* `inFile_recording` — the store in a file comes up with no others.
-/

namespace Orchestration

variable {σ : Type}

namespace Disk

/-! ### The content at a place -/

/-- The content of the file at a place, if there is one. -/
def contentAt (d : Disk) (place : Place) : Option RawText :=
  match d.entry? place with
  | some (.file content _) => some content
  | _ => none

theorem contentAt_eq_some {d : Disk} {place : Place} {content : RawText} :
    d.contentAt place = some content ↔ ∃ mode, d.entry? place = some (.file content mode) := by
  unfold contentAt
  cases d.entry? place with
  | none => simp
  | some entry => cases entry <;> simp

/-- What a path reads lies at the place that it names. -/
theorem contentAt_of_read {d : Disk} {cwd : Place} {path : String} {content : RawText}
    (h : d.read cwd path = .ok content) :
    d.contentAt (reach (startOf cwd path) (pathParts path)) = some content := by
  obtain ⟨place, mode, _, way, lies⟩ := read_eq_ok.1 h
  rw [walk_reach way]
  exact contentAt_eq_some.2 ⟨mode, lies⟩

theorem contentAt_makeDirs (d : Disk) (cwd : Place) (path : String) (place : Place) :
    (d.makeDirs cwd path).2.contentAt place = d.contentAt place := by
  have along : ∀ here parts,
      (d.makeAlong here parts).2.contentAt place = d.contentAt place := by
    intro here parts
    refine Option.ext fun content => ?_
    rw [contentAt_eq_some, contentAt_eq_some]
    refine ⟨fun ⟨mode, lies⟩ => ⟨mode, makeAlong_files lies⟩, fun ⟨mode, lies⟩ => ⟨mode, ?_⟩⟩
    exact makeAlong_grows d here parts _ _ lies
  unfold makeDirs
  split
  · rfl
  · split
    · rfl
    · exact along _ _

theorem contentAt_shrunk {d d' : Disk} (less : d'.Grows d) (place : Place) :
    d'.contentAt place = none ∨ d'.contentAt place = d.contentAt place := by
  cases here : d'.contentAt place with
  | none => exact .inl rfl
  | some content =>
    obtain ⟨mode, lies⟩ := contentAt_eq_some.1 here
    exact .inr (contentAt_eq_some.2 ⟨mode, less _ _ lies⟩).symm

end Disk

/-! ### The records at a place -/

/-- The records of a file's content; without a file there are none. -/
def FileStore.recordsIn (now : Timestamp) : Option RawText → Except StoreError StoreDocument
  | none => .ok (.empty now)
  | some content => StoreDocument.ofText now content

theorem StoreDocument.countsFit_of_recordsIn {t : Timestamp} {content : Option RawText}
    {d : StoreDocument} (h : FileStore.recordsIn t content = .ok d) : d.CountsFit := by
  cases content with
  | none =>
    cases h
    intro e he
    cases he
  | some content => exact countsFit_of_ofText h

theorem StoreView.inFile_recalls (path : String) : (inFile path (σ := σ)).Recalls := by
  intro t t' c d d' read same
  have fits : d'.CountsFit := by
    unfold StoreDocument.CountsFit
    rw [same]
    exact StoreDocument.countsFit_of_recordsIn read
  exact (inFile_decode path t' _).trans (StoreDocument.ofText_toText t' fits)

/-- The records in the file at the place that a path names, whether or not the path leads
there. -/
def StoreView.atPlace (path : String) : StoreView σ (Option RawText) where
  content disk cwd _ :=
    disk.contentAt (Disk.reach (Disk.startOf cwd path) (pathParts path))
  decode := FileStore.recordsIn
  encode d _ := some d.toText

namespace StoreView

variable {path : String}

/-- Whatever is read lies at the place. -/
theorem atPlace_shows {t : Timestamp} {d : StoreDocument} {w : World σ} {id : String}
    {e : TestEnvironment} (read : FileStore.recordsIn t ((inFile path).kept w) = .ok d)
    (here : d.environments.find? id = some e) : (atPlace path).Shows w id e := by
  cases found : w.disk.read w.cwd path with
  | ok content =>
    have kept : (atPlace path).kept w = (inFile path).kept w := by
      show w.disk.contentAt _ = (w.disk.read w.cwd path).toOption
      rw [Disk.contentAt_of_read found, found]
      rfl
    exact ⟨t, d, kept ▸ read, here⟩
  | error f =>
    have lost : (inFile path).kept w = none := congrArg Except.toOption found
    rw [lost] at read
    cases read
    cases here

/-- Of records that were written no others come up. -/
theorem atPlace_written {t t' : Timestamp} {d : StoreDocument} {w w' : World σ}
    {environments : KeyMap TestEnvironment}
    (read : FileStore.recordsIn t ((inFile path).kept w) = .ok d)
    (written : (inFile path).kept w' =
      some { d with environments := environments, lastUpdated := t' }.toText)
    {id : String} {e : TestEnvironment} (h : (atPlace path).Shows w' id e) :
    environments.find? id = some e := by
  obtain ⟨now, d', read', here⟩ := h
  have there : w'.disk.read w'.cwd path =
      .ok { d with environments := environments, lastUpdated := t' }.toText := by
    have same : (w'.disk.read w'.cwd path).toOption = _ := written
    cases found : w'.disk.read w'.cwd path with
    | ok content =>
      rw [found] at same
      rw [Option.some.inj same]
    | error f =>
      rw [found] at same
      cases same
  have before : d.CountsFit := StoreDocument.countsFit_of_recordsIn read
  have fits : { d with environments := environments, lastUpdated := t' }.CountsFit := before
  have again : FileStore.recordsIn now
      (w'.disk.contentAt (Disk.reach (Disk.startOf w'.cwd path) (pathParts path))) = .ok d' := read'
  rw [Disk.contentAt_of_read there] at again
  have whole := (StoreDocument.ofText_toText now fits).symm.trans again
  rw [← Except.ok.inj whole] at here
  exact here

theorem within_of_lost {w w' : World σ}
    (h : (atPlace path).kept w' = none ∨ (atPlace path).kept w' = (atPlace path).kept w) :
    Within (atPlace path).Shows w w' := by
  rcases h with lost | kept
  · rintro id e ⟨t, d, read, here⟩
    rw [lost] at read
    cases read
    cases here
  · exact within_of_kept kept

end StoreView

/-! ### The promise -/

theorem FileStore.contentAt_of_error {α : Type} {op : StoreOp α} {path : String} {now : Timestamp}
    {cwd : Place} {d d' : Disk} {e : StoreError}
    (h : perform ⟨path⟩ op now cwd d = (.error e, d')) (place : Place) :
    d'.contentAt place = d.contentAt place := by
  obtain rfl | ⟨records, refused⟩ := perform_error_cases h
  · rfl
  · have made := Disk.contentAt_makeDirs d cwd (directory ⟨path⟩) place
    unfold save at refused
    split at refused
    · next answered =>
      cases refused
      rwa [answered] at made
    · next answered =>
      split at refused
      · cases refused
      · cases refused
        rwa [answered] at made

/-- The store in a file comes up with nothing but what was recorded, when its path ends in a name
and engines leave the file at its place alone. -/
theorem Services.inFile_recording {path : String} (hname : lastPart path ≠ "..")
    {engine : EngineReference → String → Document → World σ →
      Except OrchestratorError ToolResult × World σ}
    (he : ∀ r tool arguments w, (StoreView.atPlace path).kept (engine r tool arguments w).2 =
      (StoreView.atPlace path).kept w) :
    (Services.inFile path engine).Recording (StoreView.atPlace path).Shows := by
  -- what the store promises of its operations does not depend on the engines
  have keeps : (Services.inFile path fun _ _ _ w => (.ok default, w)).Keeps
      (StoreView.inFile path (σ := σ)) := inFile_keeps hname fun _ _ _ _ => rfl
  exact {
    still := fun h => StoreView.within_of_kept (h.kept _)
    makeDirs := fun dir w =>
      StoreView.within_of_kept (Disk.contentAt_makeDirs w.disk w.cwd dir _)
    removeDir := fun dir w =>
      StoreView.within_of_lost (Disk.contentAt_shrunk (Disk.removeDir_shrinks w.disk w.cwd dir) _)
    removeFile := fun file w => by
      unfold World.removeFile
      split
      · next removed =>
        exact StoreView.within_of_lost
          (Disk.contentAt_shrunk (Disk.removeFile_shrinks removed) _)
      · exact .refl w
    engine := fun r tool arguments w => StoreView.within_of_kept (he r tool arguments w)
    reads := fun h t w => by
      have same : ((Services.inFile path engine).store _ t w).2 = w := keeps.reads h t w
      rw [same]
      exact .refl w
    failed := fun h => by
      obtain ⟨refused, rfl⟩ := Prod.mk.inj h
      exact StoreView.within_of_kept (FileStore.contentAt_of_error (Prod.ext refused rfl) _)
    found := fun h => by
      obtain ⟨d, read, here⟩ := keeps.get_done h
      exact StoreView.atPlace_shows read here
    removed := fun {id t w w' e} h => by
      obtain ⟨d, read, _, written⟩ := keeps.remove_done h
      intro id' x hx
      have here := StoreView.atPlace_written read written hx
      obtain ⟨-, here⟩ := KeyMap.find?_erase_eq_some_iff.1 here
      exact StoreView.atPlace_shows read here
    inserted := fun h id x hx => by
      obtain ⟨d, read, _, written⟩ := keeps.insert_done h
      have here := StoreView.atPlace_written read written hx
      rcases KeyMap.find?_insert_eq_some_iff.1 here with ⟨rfl, rfl⟩ | ⟨other, here⟩
      · exact .inl ⟨rfl, rfl⟩
      · exact .inr ⟨Ne.symm other, StoreView.atPlace_shows read here⟩
    restated := fun h id' x hx => by
      obtain ⟨d, old, read, before, -, rfl, written⟩ := keeps.setStatus_done h
      have here := StoreView.atPlace_written read written hx
      rcases KeyMap.find?_insert_eq_some_iff.1 here with ⟨rfl, rfl⟩ | ⟨-, here⟩
      · exact ⟨old, _, _, StoreView.atPlace_shows read before, rfl⟩
      · exact ⟨x, x.status, x.updatedAt, StoreView.atPlace_shows read here, rfl⟩ }

end Orchestration
