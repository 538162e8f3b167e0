import Mathlib.Data.List.TakeWhile
import Orchestration.Project.Load
import Orchestration.Proofs.Fields
import Orchestration.Proofs.FileView
import Orchestration.Proofs.Removal
import Orchestration.Proofs.Runs

/-!
# Deleting leaves no directory behind

An environment's directory is the first of its resources, and a resource is released only if its
path starts at the root.  So the directory goes with its environment when the configuration names
the environments' directory by a path from the root:

* `ProjectConfig.Anchored`, `tmpPath_absolute` — when that is so;
* `Services.RemovesInPlace` — stores that leave everything else where it is;
* `Homed`, `run_homed` — over whole runs, an environment's directory stays among its resources;
* `delete_frees` — a deletion without failures leaves nothing where the resources were;
* `delete_absent` — nor where the directory of an environment was, over whole runs;
* `relative_root_stays` — a relative path leaves it.
-/

namespace Orchestration

/-! ### Paths from the root -/

theorem joinPath_rooted {dir : String} (path : String) (h : isAbsolutePath dir = true) :
    isAbsolutePath (joinPath dir path) = true := by
  have starts : dir.toList.head? = some '/' := by simpa [isAbsolutePath] using h
  obtain ⟨rest, chars⟩ := List.head?_eq_some_iff.1 starts
  unfold joinPath
  split
  · next alone =>
    rcases Bool.or_eq_true_iff.1 alone with absolute | empty
    · exact absolute
    · rw [String.isEmpty_iff] at empty
      rw [empty] at chars
      cases chars
  · split <;> simp [isAbsolutePath, chars]

/-- Parts that leave nothing when they are trimmed lead nowhere. -/
theorem idle_of_trimParts {parts : List String} (h : trimParts parts = []) :
    ∀ part ∈ parts, isIdlePart part = true := by
  cases parts with
  | nil => exact fun part hp => absurd hp List.not_mem_nil
  | cons first rest =>
    unfold trimParts at h
    dsimp only at h
    split at h
    · next kept =>
      split at h
      · next blank =>
        intro part hp
        rcases List.mem_cons.1 hp with rfl | hp
        · rw [isIdlePart, blank, Bool.true_or]
        · have idle := List.dropWhile_eq_nil_iff.1 (List.reverse_eq_nil_iff.1 kept)
          exact idle part (List.mem_reverse.2 hp)
      · cases h
    · cases h

theorem Disk.reach_idle {here : Place} {parts : List String}
    (h : ∀ part ∈ parts, isIdlePart part = true) : reach here parts = here := by
  induction parts with
  | nil => rfl
  | cons part rest ih =>
    have stays : stepTo here part = here := by rw [stepTo, if_pos (h part List.mem_cons_self)]
    rw [reach, List.foldl_cons, stays]
    exact ih fun p hp => h p (List.mem_cons_of_mem _ hp)

/-- The directory part of a path from the root is a path from the root. -/
theorem parentPath?_rooted {path : String} (rooted : isAbsolutePath path = true)
    (named : trimParts (pathParts path) ≠ []) :
    ∃ dir, parentPath? path = some dir ∧ isAbsolutePath dir = true := by
  rcases parentPath?_above path with trivial | root | ⟨dir, rest, parent, hne, _, _, text⟩
  · -- only a path that does not start at the root has a directory part without a text
    exfalso
    cases parts : trimParts (pathParts path) with
    | nil => exact named parts
    | cons first more =>
      cases above : trimParts (first :: more).dropLast with
      | nil => simp [parentPath?, parts, above, rooted] at trivial
      | cons top below =>
        have text : joinWith '/' ((top :: below).map String.toList) ≠ [] :=
          joinWith_ne_nil (by simp) (above ▸ trimParts_ne_singleton_empty _)
        simp only [parentPath?, parts, above, List.isEmpty_cons, Bool.false_eq_true, if_false,
          Option.getD_some] at trivial
        exact text (by simpa using congrArg String.toList trivial)
  · exact ⟨"/", root, by decide⟩
  · refine ⟨dir, parent, ?_⟩
    cases chars : dir.toList with
    | nil => exact absurd (String.toList_inj.1 chars) hne
    | cons c cs =>
      rw [isAbsolutePath, text, chars] at rooted
      rw [isAbsolutePath, chars]
      exact rooted

/-- The directory of a file that was read from the root has a path from the root. -/
theorem configDir_rooted {d : Disk} {cwd : Place} {path : String} {content : RawText}
    (h : d.read cwd path = .ok content) (rooted : isAbsolutePath path = true) :
    isAbsolutePath (configDir path) = true := by
  have named : trimParts (pathParts path) ≠ [] := by
    -- without a name the path leads to the root, which is not a file
    intro unnamed
    obtain ⟨place, mode, _, way, lies⟩ := Disk.read_eq_ok.1 h
    have arrives := Disk.walk_reach way
    rw [Disk.reach_idle (idle_of_trimParts unnamed), Disk.startOf, if_pos rooted] at arrives
    rw [← arrives] at lies
    cases lies
  obtain ⟨dir, parent, absolute⟩ := parentPath?_rooted rooted named
  have nonempty : dir.isEmpty = false := by
    cases empty : dir.isEmpty with
    | false => rfl
    | true =>
      rw [String.isEmpty_iff.1 empty] at absolute
      cases absolute
  simp only [configDir, parent, nonempty, Bool.false_eq_true, if_false]
  exact absolute

namespace ProjectConfig

/-- A configuration that was loaded lies in the directory of its file, and that file was read. -/
theorem load_ok {d : Disk} {cwd : Place} {path : String} {c : ProjectConfig}
    (h : load d cwd path = .ok c) :
    c.rootDir = configDir path ∧ ∃ content, d.read cwd path = .ok content := by
  obtain ⟨text, read, described⟩ := bind_eq_ok.1 h
  obtain ⟨c', decoded, checked⟩ := bind_eq_ok.1 described
  obtain ⟨_, _, same⟩ := bind_eq_ok.1 checked
  cases same
  constructor
  · cases decoded' : Yaml.decodeDocument (ProjectConfig.read (configDir path)) text with
    | error fault => rw [decoded'] at decoded; cases decoded
    | ok c' =>
      rw [decoded'] at decoded
      cases decoded
      unfold Yaml.decodeDocument at decoded'
      split at decoded'
      · cases decoded'
      · split at decoded'
        · next given =>
          cases decoded'
          obtain ⟨fields, _, rfl⟩ := map_eq_ok.1 given
          rfl
        · cases decoded'
  · unfold readText at read
    split at read
    · cases read
    · next content found => exact ⟨content, found⟩

/-- The environments' directory has a path from the root, for the configuration in a file: it is
configured so, or it is seen from the directory of a file that was named so; by default it is
below the system's directory for temporary files. -/
def Anchored (systemTmp path : String) (c : ProjectConfig) : Prop :=
  match c.tmpRoot with
  | some root => isAbsolutePath root = true ∨ isAbsolutePath path = true
  | none => isAbsolutePath systemTmp = true

theorem tmpPath_absolute {d : Disk} {cwd : Place} {path systemTmp : String} {c : ProjectConfig}
    (loaded : load d cwd path = .ok c) (anchored : c.Anchored systemTmp path) :
    isAbsolutePath (c.tmpPath systemTmp) = true := by
  obtain ⟨root, content, read⟩ := load_ok loaded
  cases configured : c.tmpRoot with
  | some dir =>
    simp only [Anchored, configured] at anchored
    simp only [tmpPath, configured, resolvePath]
    split
    · next absolute => exact absolute
    · next relative =>
      rcases anchored with absolute | absolute
      · exact absurd absolute relative
      · rw [root]
        exact joinPath_rooted dir (configDir_rooted read absolute)
  | none =>
    simp only [Anchored, configured] at anchored
    simp only [tmpPath, configured]
    exact joinPath_rooted "stagehand" anchored

end ProjectConfig

variable {σ : Type} {sv : Services σ} {held : World σ → String → TestEnvironment → Prop}

/-! ### Stores that remove in place -/

/-- Taking a record away makes and removes nothing on the disk, but for the contents of files. -/
def Services.RemovesInPlace (sv : Services σ) : Prop :=
  ∀ {id : String} {t : Timestamp} {w w' : World σ} {e : TestEnvironment},
    sv.store (.remove id) t w = (.ok e, w') → w.disk.SameShape w'.disk

theorem Services.inMemory_removesInPlace {engine : EngineReference → String → Document →
    World (MemoryStore × σ) → Except OrchestratorError ToolResult × World (MemoryStore × σ)} :
    (Services.inMemory engine).RemovesInPlace := by
  intro id t w w' e h
  obtain ⟨-, rfl⟩ := Prod.mk.inj h
  exact .refl w.disk

/-- A new file takes the place of the one that its path leads to. -/
theorem Disk.sameShape_replace {d d' : Disk} {cwd : Place} {path : String} {old new : RawText}
    (there : d.read cwd path = .ok old) (h : d.replace cwd path new = .ok d') :
    d.SameShape d' := by
  obtain ⟨above, name, held, dot, up, _, unslashed, _, rfl⟩ := replace_eq_ok.1 h
  obtain ⟨_, way, _, last⟩ := holder_eq_ok.1 held
  obtain ⟨place, mode, _, way', lies⟩ := read_eq_ok.1 there
  obtain ⟨front, parts, written⟩ := parts_of_lastName unslashed last
  have arrives : place = above ++ [name] := by
    calc place = reach (startOf cwd path) (front ++ [name]) := by rw [← parts, walk_reach way']
      _ = stepTo (reach (startOf cwd path) (front.filter (· != ""))) name := by
          rw [reach_written]
          exact List.foldl_append
      _ = above ++ [name] := by
          rw [← written, walk_reach way]
          exact stepTo_lastName last dot up above
  exact SameShape.put (arrives ▸ lies)

/-- Where a file can be read, saving replaces it and makes no directory. -/
theorem FileStore.save_of_read {path : String} {records : StoreDocument} {cwd : Place}
    {d d' : Disk} {content : RawText} (there : d.read cwd path = .ok content)
    (h : save ⟨path⟩ records cwd d = (.ok (), d')) :
    d.replace cwd path records.toText = .ok d' := by
  unfold save at h
  rw [makeDirs_of_read there] at h
  dsimp only at h
  split at h
  · next replaced =>
    cases h
    exact replaced
  · cases h

theorem FileStore.sameShape_remove {path id : String} {now : Timestamp} {cwd : Place}
    {d d' : Disk} {e : TestEnvironment}
    (h : perform ⟨path⟩ (.remove id) now cwd d = (.ok e, d')) : d.SameShape d' := by
  unfold perform at h
  cases loaded : load ⟨path⟩ now cwd d with
  | error err => rw [loaded] at h; cases h
  | ok records =>
    rw [loaded] at h
    dsimp only at h
    cases applied : (StoreOp.remove id).apply now records with
    | error err => rw [applied] at h; cases h
    | ok done =>
      rw [applied] at h
      dsimp only at h
      have moves : (StoreOp.remove id).mutates = true := rfl
      rw [if_pos moves] at h
      split at h
      · next saved =>
        cases h
        cases there : d.read cwd path with
        | ok content => exact Disk.sameShape_replace there (save_of_read there saved)
        | error f =>
          -- without a file there is no record that could be taken away
          rw [load, there] at loaded
          dsimp only at loaded
          split at loaded
          · cases loaded
            cases applied
          · cases loaded
      · cases h

theorem Services.inFile_removesInPlace {path : String} {engine : EngineReference → String →
    Document → World σ → Except OrchestratorError ToolResult × World σ} :
    (Services.inFile path engine).RemovesInPlace := by
  intro id t w w' e h
  obtain ⟨answered, rfl⟩ := Prod.mk.inj h
  exact FileStore.sameShape_remove (Prod.ext answered rfl)

namespace StageOrchestrator

/-! ### Records of directories -/

/-- Whatever may come up under an identifier has the directory of that name among its
resources. -/
def Homed (held : World σ → String → TestEnvironment → Prop) (o : StageOrchestrator)
    (id : String) (w : World σ) : Prop :=
  ∀ e, held w id e → joinPath o.tmpRoot id ∈ e.managedResources

theorem Homed.within {o : StageOrchestrator} {id : String} {w w' : World σ}
    (h : Homed held o id w) (less : Within held w w') : Homed held o id w' :=
  fun e he => h e (less id e he)

/-- An environment that was created has its directory among its resources. -/
theorem create_home {o : StageOrchestrator} {stage : String} {e : TestEnvironment}
    {w w' : World σ} (h : o.create sv stage w = (.ok e, w')) :
    e.tmpDir = joinPath o.tmpRoot e.id ∧ e.tmpDir ∈ e.managedResources := by
  have ends := create_creates sv o stage w
  rw [h] at ends
  cases ends with
  | @recorded setup id _ w₁ w₂ w₃ _ _ named made run stored =>
    obtain ⟨said, replies, _, _, outcome⟩ := runSetup_ends run
    cases outcome with
    | done _ _ grown =>
      obtain ⟨hid, _, htmp, _, _, hresources⟩ := newborn_grown grown
      rw [hid, hresources, htmp]
      exact ⟨rfl, List.mem_eraseDups.2 List.mem_cons_self⟩

theorem create_homed (hr : sv.Recording held) {o : StageOrchestrator} {stage : String}
    {e : TestEnvironment} {w w' : World σ} (h : o.create sv stage w = (.ok e, w')) :
    Homed held o e.id w' := by
  obtain ⟨home, listed⟩ := create_home h
  have recorded := create_recorded hr o stage w
  rw [h] at recorded
  intro x hx
  rcases recorded e.id x hx with ⟨_, rfl⟩ | ⟨other, _⟩
  · exact home ▸ listed
  · exact absurd rfl other

theorem act_homed (hr : sv.Recording held) (o : StageOrchestrator) (r : Request) {id : String}
    {w : World σ} (h : Homed held o id w) : Homed held o id (o.act sv w r) := by
  cases r with
  | create stage =>
    have recorded := create_recorded hr o stage w
    show Homed held o id (o.create sv stage w).2
    cases created : o.create sv stage w with | mk result w'
    rw [created] at recorded
    cases result with
    | error err => exact h.within recorded
    | ok e =>
      intro x hx
      rcases recorded id x hx with ⟨rfl, rfl⟩ | ⟨_, old⟩
      · obtain ⟨named, listed⟩ := create_home created
        exact named ▸ listed
      · exact h x old
  | delete other => exact h.within (delete_within hr o other w)
  | recordOutcome other passed =>
    intro x hx
    obtain ⟨y, status, time, hy, rfl⟩ := recordOutcome_alike hr other passed w id x hx
    exact h y hy
  | list stage => exact h.within (hr.perform_reads rfl w)

/-- Whatever is asked for, the directory stays among the resources. -/
theorem run_homed (hr : sv.Recording held) (o : StageOrchestrator) {id : String}
    (requests : List Request) : ∀ {w : World σ}, Homed held o id w →
      Homed held o id (o.run sv requests w) := by
  induction requests with
  | nil => exact fun h => h
  | cons r rest ih => exact fun h => ih (act_homed hr o r h)

/-! ### One deletion -/

/-- What a deletion that succeeds has found, released and reported. -/
theorem delete_ok {o : StageOrchestrator} {id : String} {report : TeardownReport}
    {w w' : World σ} (h : o.delete sv id w = (.ok report, w')) :
    ∃ e w₁ released w₂ taken, (sv.perform (.get id) w).1 = .ok e ∧
      Releases e.managedResources.reverse w₁ released w₂ ∧
      (∀ s ∈ released, s ∈ report.steps) ∧ sv.perform (.remove e.id) w₂ = (.ok taken, w') := by
  unfold delete at h
  split at h
  · cases h
  · cases found : sv.perform (.get id) w with | mk answer w₀
    rw [found] at h
    cases answer with
    | error err => cases h
    | ok e =>
      obtain ⟨said, w₁, released, w₂, _, _, freed, whole⟩ := o.deleteEnvironment_eq sv e w₀
      replace h : o.deleteEnvironment sv e w₀ = (.ok report, w') := h
      rw [whole] at h
      cases removed : sv.perform (.remove e.id) w₂ with | mk answer w₃
      rw [removed] at h
      cases answer with
      | error err => cases h
      | ok taken =>
        cases h
        exact ⟨e, w₁, released, w₂, taken, rfl, freed,
          fun s hs => List.mem_append_right _ hs, removed⟩

/-- A deletion without failures leaves nothing at any path from the root among the resources of
the environment that it has found. -/
theorem delete_frees (hq : sv.Quiet) (hp : sv.RemovesInPlace) {o : StageOrchestrator}
    {id : String} {report : TeardownReport} {w w' : World σ}
    (deleted : o.delete sv id w = (.ok report, w')) (clean : report.isClean = true) :
    ∃ e, (sv.perform (.get id) w).1 = .ok e ∧ ∀ resource ∈ e.managedResources,
      isAbsolutePath resource = true → w'.disk.Absent w'.cwd resource := by
  obtain ⟨e, w₁, released, w₂, taken, found, freed, reported, removed⟩ := delete_ok deleted
  refine ⟨e, found, fun resource listed absolute => ?_⟩
  have fine : ∀ s ∈ released, s.status.isFailed = false :=
    fun s hs => (TeardownReport.isClean_iff report).1 clean s (reported s hs)
  have gone : w₂.disk.Absent w₂.cwd resource :=
    freed.absent fine resource (List.mem_reverse.2 listed) absolute
  have there := (hq.perform (.remove e.id) w₂).cwd
  rw [removed] at there
  have same : w₂.now.2.disk.SameShape w'.disk := hp (Services.perform_ok removed)
  rw [there]
  exact gone.reshaped same

/-! ### The whole -/

/-- With an environments' directory that has a path from the root, an environment that was created
and, whatever was asked for in between, deleted without a failure has left nothing where its
directory was. -/
theorem home_absent (hq : sv.Quiet) (hr : sv.Recording held) (hp : sv.RemovesInPlace)
    {o : StageOrchestrator} (rooted : isAbsolutePath o.tmpRoot = true)
    {stage : String} {e : TestEnvironment} {w w₁ : World σ}
    (created : o.create sv stage w = (.ok e, w₁)) (requests : List Request)
    {report : TeardownReport} {w₂ : World σ}
    (deleted : o.delete sv e.id (o.run sv requests w₁) = (.ok report, w₂))
    (clean : report.isClean = true) : w₂.disk.Absent w₂.cwd e.tmpDir := by
  have home : e.tmpDir = joinPath o.tmpRoot e.id := (create_home created).1
  obtain ⟨x, found, absent⟩ := delete_frees hq hp deleted clean
  have listed : e.tmpDir ∈ x.managedResources := by
    rw [home]
    exact run_homed hr o requests (create_homed hr created) x (hr.perform_found found)
  refine absent e.tmpDir listed ?_
  rw [home]
  exact joinPath_rooted e.id rooted

/-- An environment that was created and, whatever was asked for in between, deleted without a
failure has left nothing where its directory was, if the environments' directory has a path from
the root. -/
theorem delete_absent (hq : sv.Quiet) (hr : sv.Recording held) (hp : sv.RemovesInPlace)
    {d : Disk} {cwd : Place} {path systemTmp : String} {c : ProjectConfig}
    (loaded : ProjectConfig.load d cwd path = .ok c) (anchored : c.Anchored systemTmp path)
    {stage : String} {e : TestEnvironment} {w w₁ : World σ}
    (created : (ofConfig systemTmp c).create sv stage w = (.ok e, w₁))
    (requests : List Request) {report : TeardownReport} {w₂ : World σ}
    (deleted : (ofConfig systemTmp c).delete sv e.id
      ((ofConfig systemTmp c).run sv requests w₁) = (.ok report, w₂))
    (clean : report.isClean = true) : w₂.disk.Absent w₂.cwd e.tmpDir :=
  home_absent hq hr hp (ProjectConfig.tmpPath_absolute loaded anchored) created requests deleted
    clean

/-- A directory with the configuration of a project that keeps its environments beside it. -/
def neighbouring : World (MemoryStore × Script) :=
  { World.opening (fun _ => 0) [] [] with
    disk := ⟨[(["work"], .directory), (["work", "stagehand.yaml"], .file
      (.ofString "name: x\ntmpRoot: tmp\ntest:\n  - name: unit\n") false)]⟩
    cwd := ["work"] }

/-- What is left of an environment that is created for a stage and deleted again: whether no step
of the deletion has failed, and whether the directory is still there. -/
def remains (path stage : String) (w : World (MemoryStore × Script)) : Option (Bool × Bool) := do
  let c ← (ProjectConfig.load w.disk w.cwd path).toOption
  let created := (ofConfig "/tmp" c).create .scripted stage w
  let e ← created.1.toOption
  let deleted := (ofConfig "/tmp" c).delete .scripted e.id created.2
  let report ← deleted.1.toOption
  return (report.isClean, deleted.2.disk.isDirectory deleted.2.cwd e.tmpDir)

theorem remains_eq_some {path stage : String} {w : World (MemoryStore × Script)}
    {clean stays : Bool} (h : remains path stage w = some (clean, stays)) :
    ∃ c e w₁ report w₂, ProjectConfig.load w.disk w.cwd path = .ok c ∧
      (ofConfig "/tmp" c).create .scripted stage w = (.ok e, w₁) ∧
      (ofConfig "/tmp" c).delete .scripted e.id w₁ = (.ok report, w₂) ∧
      report.isClean = clean ∧ w₂.disk.isDirectory w₂.cwd e.tmpDir = stays := by
  obtain ⟨c, loaded, h⟩ := Option.bind_eq_some_iff.1 h
  obtain ⟨e, created, h⟩ := Option.bind_eq_some_iff.1 h
  obtain ⟨report, deleted, h⟩ := Option.bind_eq_some_iff.1 h
  cases h
  exact ⟨c, e, _, report, _, toOption_eq_some.1 loaded, Prod.ext (toOption_eq_some.1 created) rfl,
    Prod.ext (toOption_eq_some.1 deleted) rfl, rfl, rfl⟩

/-- The file is named from the root, so the directory beside it is removed. -/
theorem delete_absent_beside_file :
    ∃ c e w₁ report w₂,
      ProjectConfig.load neighbouring.disk ["work"] "/work/stagehand.yaml" = .ok c ∧
      c.Anchored "/tmp" "/work/stagehand.yaml" ∧
      (ofConfig "/tmp" c).create .scripted "unit" neighbouring = (.ok e, w₁) ∧
      (ofConfig "/tmp" c).delete .scripted e.id w₁ = (.ok report, w₂) ∧
      report.isClean = true ∧ w₂.disk.Absent w₂.cwd e.tmpDir := by
  have computed : remains "/work/stagehand.yaml" "unit" neighbouring = some (true, false) := by
    decide +kernel
  obtain ⟨c, e, w₁, report, w₂, loaded, created, deleted, clean, _⟩ := remains_eq_some computed
  have anchored : c.Anchored "/tmp" "/work/stagehand.yaml" := by
    unfold ProjectConfig.Anchored
    split
    · exact .inr (by decide)
    · decide
  have recording := Services.inMemory_recording fun _ _ _ w => Script.answer_store w
  exact ⟨c, e, w₁, report, w₂, loaded, anchored, created, deleted, clean,
    delete_absent Services.scripted_quiet recording Services.inMemory_removesInPlace loaded
      anchored created [] deleted clean⟩

/-- The same file is named from the working directory, and the directory stays. -/
theorem relative_root_stays :
    ∃ c e w₁ report w₂,
      ProjectConfig.load neighbouring.disk ["work"] "stagehand.yaml" = .ok c ∧
      (ofConfig "/tmp" c).create .scripted "unit" neighbouring = (.ok e, w₁) ∧
      (ofConfig "/tmp" c).delete .scripted e.id w₁ = (.ok report, w₂) ∧
      report.isClean = true ∧ w₂.disk.isDirectory w₂.cwd e.tmpDir = true := by
  have computed : remains "stagehand.yaml" "unit" neighbouring = some (true, true) := by
    decide +kernel
  exact remains_eq_some computed

end StageOrchestrator

end Orchestration
