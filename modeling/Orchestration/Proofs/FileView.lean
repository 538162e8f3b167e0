import Orchestration.Project.Engines
import Orchestration.Proofs.Files
import Orchestration.Proofs.Scripted

/-!
# The store in a file, seen from the project

* `Services.inFile` — services whose store is in a file;
* `StoreView.inFile` — the content of that file, if there is a file that can be read;
* `makeDirs_of_read` — writing such a file anew makes no directory;
* `save_ok`, `save_error` — what was saved is there, and what cannot be saved changes nothing;
* `perform_error_cases` — an operation fails before anything is written, or in the writing;
* `inFile_keeps` — the store in a file keeps the promise;
* `World.Under`, `inFile_spares` — it is spared where it does not lie in the directory that is made
  and removed.
-/

namespace Orchestration

variable {σ : Type}

/-- Services whose store is in a file. -/
def Services.inFile (path : String) (engine : EngineReference → String → Document → World σ →
    Except OrchestratorError ToolResult × World σ) : Services σ where
  store op now w :=
    let (r, disk) := FileStore.perform ⟨path⟩ op now w.cwd w.disk
    (r, { w with disk })
  engine := engine

theorem ProjectConfig.services_inFile (c : ProjectConfig) (vars : KeyMap String) :
    c.services vars = .inFile c.storePath (callReference c.client vars) := rfl

/-- The content of a file, if there is a file that can be read. -/
def StoreView.inFile (path : String) : StoreView σ (Option RawText) where
  content disk cwd _ := (disk.read cwd path).toOption
  decode now
    | none => .ok (.empty now)
    | some content => StoreDocument.ofText now content
  encode d _ := some d.toText

theorem StoreView.inFile_decode (path : String) (t : Timestamp) (content : RawText) :
    (inFile path (σ := σ)).decode t (some content) = StoreDocument.ofText t content := rfl

/-! ### The directory of the file -/

/-- A file that is there needs no new directory. -/
theorem FileStore.makeDirs_of_read {d : Disk} {cwd : Place} {path : String} {content : RawText}
    (h : d.read cwd path = .ok content) : d.makeDirs cwd (directory ⟨path⟩) = (.ok (), d) := by
  obtain ⟨place, mode, allowed, way, lies⟩ := Disk.read_eq_ok.1 h
  rcases parentPath?_above path with trivial | root | ⟨dir, rest, parent, hne, hrest, parts, text⟩
  · have here : directory ⟨path⟩ = "." := by
      cases parent : parentPath? path with
      | none => simp only [directory, parent]
      | some dir =>
        rw [parent] at trivial
        simp only [directory, parent, show dir = "" from trivial]
        rfl
    rw [here]
    rfl
  · have here : directory ⟨path⟩ = "/" := by
      simp only [directory, root]
      rfl
    rw [here]
    rfl
  · have here : directory ⟨path⟩ = dir := by
      have named : dir.isEmpty = false := by simpa using hne
      simp only [directory, parent, named, Bool.false_eq_true, if_false]
    rw [here]
    exact Disk.makeDirs_of_walk hne hrest parts text allowed way

/-! ### The promise -/

/-- What a reading of a file gives to a store, when it gives anything. -/
theorem FileStore.load_ok {path : String} {now : Timestamp} {cwd : Place} {d : Disk}
    {records : StoreDocument} (h : load ⟨path⟩ now cwd d = .ok records) :
    (StoreView.inFile path (σ := σ)).decode now (d.read cwd path).toOption = .ok records := by
  unfold load at h
  cases found : d.read cwd path with
  | ok content =>
    rw [found] at h
    exact h
  | error f =>
    rw [found] at h
    dsimp only at h
    split at h
    · exact h
    · cases h

/-- Records that were saved are in the file. -/
theorem FileStore.save_ok {path : String} {records : StoreDocument} {cwd : Place} {d d' : Disk}
    (h : save ⟨path⟩ records cwd d = (.ok (), d')) : d'.read cwd path = .ok records.toText := by
  unfold save at h
  split at h
  · cases h
  · split at h
    · next replaced =>
      cases h
      exact Disk.read_replace replaced
    · cases h

/-- When records cannot be saved, there was no file that could be read, and there is none. -/
theorem FileStore.save_error {path : String} (hname : lastPart path ≠ "..")
    {records : StoreDocument} {cwd : Place} {d d' : Disk} {e : StoreError}
    (h : save ⟨path⟩ records cwd d = (.error e, d')) :
    (d.read cwd path).toOption = none ∧ (d'.read cwd path).toOption = none := by
  have irreplaceable : ∀ {d₁ : Disk} {f : SystemFault},
      d₁.replace cwd path records.toText = .error f → (d₁.read cwd path).toOption = none := by
    intro d₁ f refused
    cases found : d₁.read cwd path with
    | error g => rfl
    | ok content =>
      obtain ⟨d₂, replaced⟩ := Disk.replace_of_read hname found records.toText
      rw [refused] at replaced
      cases replaced
  have unmade : ∀ {d₁ d₂ : Disk} {f : SystemFault},
      d₁.makeDirs cwd (directory ⟨path⟩) = (.error f, d₂) →
      (d₁.read cwd path).toOption = none := by
    intro d₁ d₂ f refused
    cases found : d₁.read cwd path with
    | error g => rfl
    | ok content =>
      rw [makeDirs_of_read found] at refused
      cases refused
  unfold save at h
  cases made : d.makeDirs cwd (directory ⟨path⟩) with | mk r d₁
  rw [made] at h
  cases r with
  | error f =>
    cases h
    exact ⟨unmade made, unmade (Disk.makeDirs_again made)⟩
  | ok u =>
    dsimp only at h
    cases replaced : d₁.replace cwd path records.toText with
    | ok d₂ => rw [replaced] at h; cases h
    | error f =>
      rw [replaced] at h
      cases h
      refine ⟨?_, irreplaceable replaced⟩
      cases found : d.read cwd path with
      | error g => rfl
      | ok content =>
        -- the directories were there, so nothing was made before the refusal
        rw [makeDirs_of_read found] at made
        cases made
        have := irreplaceable replaced
        rw [found] at this
        cases this

theorem FileStore.perform_of_reads {α : Type} {op : StoreOp α} (h : op.mutates = false)
    (s : FileStore) (now : Timestamp) (cwd : Place) (d : Disk) :
    (s.perform op now cwd d).2 = d := by
  unfold perform
  cases s.load now cwd d with
  | error e => rfl
  | ok records =>
    dsimp only
    cases op.apply now records with
    | error e => rfl
    | ok done => simp only [h, Bool.false_eq_true, if_false]

theorem FileStore.perform_ok {α : Type} {op : StoreOp α} {path : String} {now : Timestamp}
    {cwd : Place} {d d' : Disk} {a : α} (h : perform ⟨path⟩ op now cwd d = (.ok a, d')) :
    ∃ records records', load ⟨path⟩ now cwd d = .ok records ∧
      op.apply now records = .ok (a, records') ∧
      (op.mutates = true →
        d'.read cwd path = .ok { records' with lastUpdated := now }.toText) := by
  unfold perform at h
  cases loaded : load ⟨path⟩ now cwd d with
  | error e => rw [loaded] at h; cases h
  | ok records =>
    rw [loaded] at h
    dsimp only at h
    cases applied : op.apply now records with
    | error e => rw [applied] at h; cases h
    | ok done =>
      obtain ⟨b, records'⟩ := done
      rw [applied] at h
      dsimp only at h
      split at h
      · split at h
        · next saved =>
          cases h
          exact ⟨records, records', rfl, applied, fun _ => save_ok saved⟩
        · cases h
      · next still =>
        cases h
        exact ⟨records, records', rfl, applied, fun moves => absurd moves still⟩

/-- An operation that failed left the disk alone, unless it is the saving that failed. -/
theorem FileStore.perform_error_cases {α : Type} {op : StoreOp α} {path : String}
    {now : Timestamp} {cwd : Place} {d d' : Disk} {e : StoreError}
    (h : perform ⟨path⟩ op now cwd d = (.error e, d')) :
    d' = d ∨ ∃ records, save ⟨path⟩ records cwd d = (.error e, d') := by
  unfold perform at h
  split at h
  · exact .inl (Prod.mk.inj h).2.symm
  · split at h
    · exact .inl (Prod.mk.inj h).2.symm
    · split at h
      · split at h
        · cases (Prod.mk.inj h).1
        · next refused =>
          obtain ⟨same, rfl⟩ := Prod.mk.inj h
          cases same
          exact .inr ⟨_, refused⟩
      · cases (Prod.mk.inj h).1

/-- Where no directory is missing, an operation that failed left the whole disk alone. -/
theorem FileStore.disk_of_error {α : Type} {op : StoreOp α} {path : String} {now : Timestamp}
    {cwd : Place} {d d' : Disk} {e : StoreError}
    (made : d.makeDirs cwd (directory ⟨path⟩) = (.ok (), d))
    (h : perform ⟨path⟩ op now cwd d = (.error e, d')) : d' = d := by
  obtain rfl | ⟨records, refused⟩ := perform_error_cases h
  · rfl
  · rw [save, made] at refused
    dsimp only at refused
    split at refused
    · cases (Prod.mk.inj refused).1
    · exact (Prod.mk.inj refused).2.symm

theorem FileStore.perform_error {α : Type} {op : StoreOp α} {path : String} {now : Timestamp}
    (hname : lastPart path ≠ "..") {cwd : Place} {d d' : Disk} {e : StoreError}
    (h : perform ⟨path⟩ op now cwd d = (.error e, d')) :
    (d'.read cwd path).toOption = (d.read cwd path).toOption := by
  obtain rfl | ⟨records, refused⟩ := perform_error_cases h
  · rfl
  · obtain ⟨before, after⟩ := save_error hname refused
    rw [before, after]

/-- A store in a file keeps its promise, when its path ends in a name and engines leave the file
alone. -/
theorem Services.inFile_keeps {path : String} (hname : lastPart path ≠ "..")
    {engine : EngineReference → String → Document → World σ →
      Except OrchestratorError ToolResult × World σ}
    (he : ∀ r tool arguments w, (StoreView.inFile path).kept (engine r tool arguments w).2 =
      (StoreView.inFile path).kept w) :
    (Services.inFile path engine).Keeps (StoreView.inFile path) where
  reads h t w := by
    show { w with disk := (FileStore.perform ⟨path⟩ _ t w.cwd w.disk).2 } = w
    rw [FileStore.perform_of_reads h]
  failed h := by
    obtain ⟨refused, rfl⟩ := Prod.mk.inj h
    exact FileStore.perform_error hname (Prod.ext refused rfl)
  done h := by
    obtain ⟨answered, rfl⟩ := Prod.mk.inj h
    obtain ⟨records, records', loaded, applied, written⟩ :=
      FileStore.perform_ok (Prod.ext answered rfl)
    refine ⟨records, records', FileStore.load_ok loaded, applied, fun moves => ?_⟩
    exact congrArg Except.toOption (written moves)
  engine := he

/-- A store in a file keeps its promise, when its path ends in a name. -/
theorem Services.inFile_promises {path : String} (hname : lastPart path ≠ "..")
    (engine : EngineReference → String → Document → World σ →
      Except OrchestratorError ToolResult × World σ) :
    (Services.inFile path engine).Promises (StoreView.inFile path) :=
  -- what engines there are makes no difference to the store
  have idle : (Services.inFile path fun _ _ _ w => (.error default, w)).Keeps
      (StoreView.inFile path (σ := σ)) := Services.inFile_keeps hname fun _ _ _ _ => rfl
  ⟨idle.failed, idle.done⟩

/-- What a path names is what another path names, or lies below it. -/
def World.Under (w : World σ) (path top : String) : Prop :=
  Disk.reach (Disk.startOf w.cwd top) (pathParts top) <+:
    Disk.reach (Disk.startOf w.cwd path) (pathParts path)

/-- Making and removing a directory leaves a file alone that is not in it, when everything on the
disk lies in directories and the file's path does not go up. -/
theorem StoreView.inFile_spares {path : String} (plain : ".." ∉ pathParts path) {w : World σ}
    (hr : w.disk.Rooted) {dir : String} (outside : ¬ w.Under path dir) :
    (StoreView.inFile path).Spares w dir where
  made := Disk.read_makeDirs hr w.cwd dir plain
  removed w' here := by
    have same := (Disk.sameOutside_removeDir w'.disk w'.cwd dir).read w'.cwd plain
      (by rw [here]; exact outside)
    exact congrArg Except.toOption same

end Orchestration
