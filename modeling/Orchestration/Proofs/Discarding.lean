import Orchestration.Proofs.Places
import Orchestration.Proofs.Rollback

/-!
# What a failed creation takes away

When an environment cannot be set up or recorded, its directory is removed with everything in it.
Other directories stay, also those of environments that engines have recorded in the meantime:

* `World.KeepsDirectories` — no directory is gone; so it is after every operation of a store;
* `World.Houses` — an environment has its directory;
* `StageOrchestrator.setupEnd` — the moment at which the last engine of a creation has answered;
* `create_error_spares` — where directories stay when creating fails;
* `World.placeOf_joinPath` — where a name in a directory leads;
* `SparesOthers`, `failed_create_spares` — every environment keeps its directory, unless that lies
  in the directory that is removed; one of the same project then has the same identifier;
* `late_collision_loses_directory` — and so an environment that an engine has recorded under this
  very identifier loses its directory, though it stays on record.
-/

namespace Orchestration

variable {σ : Type}

/-! ### Directories that stay -/

/-- Every directory of one disk is a directory of the other. -/
def Disk.KeepsDirectories (d d' : Disk) : Prop :=
  ∀ p : Place, d.entry? p = some .directory → d'.entry? p = some .directory

theorem Disk.Grows.keepsDirectories {d d' : Disk} (h : d.Grows d') : d.KeepsDirectories d' :=
  fun p => h p .directory

theorem Disk.keepsDirectories_replace {d d' : Disk} {cwd : Place} {path : String}
    {content : RawText} (h : d.replace cwd path content = .ok d') : d.KeepsDirectories d' := by
  obtain ⟨above, name, -, -, -, -, -, free, rfl⟩ := replace_eq_ok.1 h
  exact fun p => entry?_put_directory _ free

/-- An operation of a store in a file takes no directory off the disk. -/
theorem FileStore.keepsDirectories {α : Type} (s : FileStore) (op : StoreOp α) (now : Timestamp)
    (cwd : Place) (d : Disk) : d.KeepsDirectories (s.perform op now cwd d).2 := by
  have saved : ∀ records, d.KeepsDirectories (s.save records cwd d).2 := by
    intro records
    have grown := (d.makeDirs_grows cwd s.directory).keepsDirectories
    unfold save
    cases made : d.makeDirs cwd s.directory with | mk answer d₁
    rw [made] at grown
    cases answer with
    | error f => exact grown
    | ok =>
      dsimp only
      split
      · next replaced => exact fun p dir => Disk.keepsDirectories_replace replaced p (grown p dir)
      · exact grown
  unfold perform
  split
  · exact fun _ dir => dir
  · split
    · exact fun _ dir => dir
    · split
      · next records _ _ =>
        have kept := saved { records with lastUpdated := now }
        split <;> next written => rwa [written] at kept
      · exact fun _ dir => dir

/-- From one world to another no directory is gone, nor has the working directory changed. -/
structure World.KeepsDirectories (w w' : World σ) : Prop where
  cwd : w'.cwd = w.cwd
  disk : w.disk.KeepsDirectories w'.disk

namespace World.KeepsDirectories

variable {w w' w'' : World σ}

theorem refl (w : World σ) : w.KeepsDirectories w := ⟨rfl, fun _ dir => dir⟩

theorem trans (h : w.KeepsDirectories w') (h' : w'.KeepsDirectories w'') :
    w.KeepsDirectories w'' :=
  ⟨h'.cwd.trans h.cwd, fun p dir => h'.disk p (h.disk p dir)⟩

end World.KeepsDirectories

/-- The store takes no directory off the disk, whatever the engines do. -/
def Services.StoreKeepsDirectories (sv : Services σ) : Prop :=
  ∀ {α : Type} (op : StoreOp α) (now : Timestamp) (w : World σ),
    w.KeepsDirectories (sv.store op now w).2

theorem Services.StoreKeepsDirectories.perform {α : Type} {sv : Services σ}
    (hs : sv.StoreKeepsDirectories) (op : StoreOp α) (w : World σ) :
    w.KeepsDirectories (sv.perform op w).2 := by
  have kept := hs op w.now.1 w.now.2
  exact ⟨kept.cwd, kept.disk⟩

theorem Services.inMemory_storeKeepsDirectories (engine : EngineReference → String → Document →
      World (MemoryStore × σ) → Except OrchestratorError ToolResult × World (MemoryStore × σ)) :
    (inMemory engine).StoreKeepsDirectories :=
  fun _ _ _ => ⟨rfl, fun _ dir => dir⟩

theorem Services.inFile_storeKeepsDirectories (path : String)
    (engine : EngineReference → String → Document → World σ →
      Except OrchestratorError ToolResult × World σ) :
    (inFile path engine).StoreKeepsDirectories :=
  fun op now w => ⟨rfl, FileStore.keepsDirectories ⟨path⟩ op now w.cwd w.disk⟩

/-! ### The directory of an environment -/

/-- Where a path leads, seen from the working directory. -/
def World.placeOf (w : World σ) (path : String) : Place :=
  Disk.reach (Disk.startOf w.cwd path) (pathParts path)

/-- The environment has its directory. -/
def World.Houses (w : World σ) (e : TestEnvironment) : Prop :=
  w.disk.isDirectory w.cwd e.tmpDir = true

instance (w : World σ) (e : TestEnvironment) : Decidable (w.Houses e) :=
  inferInstanceAs (Decidable (_ = true))

/-- A path that leads to a directory leads there through directories. -/
theorem World.houses_iff {w : World σ} {e : TestEnvironment} :
    w.Houses e ↔ Disk.refuse? e.tmpDir = none ∧
      w.disk.walk (Disk.startOf w.cwd e.tmpDir) (pathParts e.tmpDir) = .ok (w.placeOf e.tmpDir) ∧
      w.disk.entry? (w.placeOf e.tmpDir) = some .directory := by
  have found : w.Houses e ↔ w.disk.kind? w.cwd e.tmpDir = .ok .directory := by
    unfold Houses Disk.isDirectory
    split
    · next kind => simp [kind]
    · next other => exact iff_of_false Bool.false_ne_true other
  rw [found, Disk.kind?_eq_ok]
  constructor
  · rintro ⟨place, located, lies⟩
    obtain ⟨allowed, way⟩ := Disk.locate_eq_ok.1 located
    have arrives : w.placeOf e.tmpDir = place := Disk.walk_reach way
    rw [arrives]
    exact ⟨allowed, way, lies⟩
  · rintro ⟨allowed, way, lies⟩
    exact ⟨_, Disk.locate_eq_ok.2 ⟨allowed, way⟩, lies⟩

/-- An environment keeps its directory if all directories on the way to it stay, and itself. -/
theorem World.Houses.kept {w w' : World σ} {e : TestEnvironment} (h : w.Houses e)
    (cwd : w'.cwd = w.cwd)
    (stays : ∀ p ∈ w.placeOf e.tmpDir :: Disk.onWay (Disk.startOf w.cwd e.tmpDir)
      (pathParts e.tmpDir), w.disk.entry? p = some .directory →
        w'.disk.entry? p = some .directory) : w'.Houses e := by
  obtain ⟨allowed, way, lies⟩ := houses_iff.1 h
  have here : w'.placeOf e.tmpDir = w.placeOf e.tmpDir := by rw [placeOf, cwd]; rfl
  refine houses_iff.2 ⟨allowed, ?_, ?_⟩
  · rw [here, cwd]
    exact Disk.walk_mono (fun p hp => stays p (List.mem_cons_of_mem _ hp)) way
  · rw [here]
    exact stays _ List.mem_cons_self lies

theorem World.Houses.mono {w w' : World σ} {e : TestEnvironment} (h : w.Houses e)
    (kept : w.KeepsDirectories w') : w'.Houses e :=
  h.kept kept.cwd fun p _ => kept.disk p

/-- Between two worlds the environment's directory has stayed where it was; its path still leads
there if it has no ways up. -/
structure World.StillHouses (w w' : World σ) (e : TestEnvironment) : Prop where
  directory : w'.disk.entry? (w.placeOf e.tmpDir) = some .directory
  path : ".." ∉ pathParts e.tmpDir → w'.Houses e

/-- A name in a directory leads right below it. -/
theorem World.placeOf_joinPath (w : World σ) (dir : String) {name : String}
    (plain : PlainName name) : w.placeOf (joinPath dir name) = w.placeOf dir ++ [name] := by
  have way := Disk.leadsTo_joinPath w.cwd dir (isAbsolutePath_of_slashless plain.slashless)
  rw [pathParts_of_slashless plain.slashless] at way
  exact way.trans (plain.stepTo _)

namespace StageOrchestrator

/-! ### Setting up -/

variable {sv : Services σ}

/-- The identifier of an environment that is being created, and the world when the last of its
engines has answered; nothing if creating fails before any engine could be called. -/
def setupEnd (o : StageOrchestrator) (sv : Services σ) (stage : String) (w : World σ) :
    Option (String × World σ) :=
  match o.setupOf stage, freshId sv stage w with
  | .ok setup, (.ok id, w) =>
    match w.makeDirs (joinPath o.tmpRoot id) with
    | (.ok (), w) => some (id, (runSetup sv setup (o.newborn stage id w.now.1) w.now.2).2)
    | (.error _, _) => none
  | _, _ => none

/-- An identifier that was found is one of the stage's. -/
theorem freshIdIn_named (stage : String) :
    ∀ (attempts : Nat) {w w' : World σ} {id : String},
      freshIdIn sv stage attempts w = (.ok id, w') → ∃ now bits, id = testId stage now bits := by
  intro attempts
  induction attempts with
  | zero => intro w w' id h; cases (Prod.mk.inj h).1
  | succ attempts ih =>
    intro w w' id h
    rw [freshIdIn_succ] at h
    split at h
    · cases (Prod.mk.inj h).1
    · exact ih h
    · cases h
      exact ⟨_, _, rfl⟩

theorem plain_of_setupEnd {o : StageOrchestrator} {stage id : String} {w w₃ : World σ}
    (slashless : '/' ∉ stage.toList) (ended : o.setupEnd sv stage w = some (id, w₃)) :
    PlainName id := by
  unfold setupEnd at ended
  split at ended
  · next setup id' w₁ _ named =>
    split at ended
    · cases ended
      obtain ⟨now, bits, rfl⟩ := freshIdIn_named stage maxIdAttempts named
      exact testId_plain slashless now bits
    · cases ended
  · cases ended

/-- Seeking an identifier takes no directory away. -/
theorem freshId_keepsDirectories (hs : sv.StoreKeepsDirectories) (stage : String) (w : World σ) :
    w.KeepsDirectories (freshId sv stage w).2 :=
  freshIdIn_keeps (P := w.KeepsDirectories) stage (fun _ h => ⟨h.cwd, h.disk⟩)
    (fun _ h => ⟨h.cwd, h.disk⟩) (fun id u h => h.trans (hs.perform (.contains id) u))
    maxIdAttempts w (.refl w)

theorem makeDirs_keepsDirectories (path : String) (w : World σ) :
    w.KeepsDirectories (w.makeDirs path).2 :=
  ⟨rfl, (w.disk.makeDirs_grows w.cwd path).keepsDirectories⟩

/-- Discarding an environment takes no directory away that does not lie in its own. -/
theorem discard_outside (tmpDir : String) (w : World σ) :
    Disk.SameOutside (w.placeOf tmpDir) w.disk (discard tmpDir w).disk :=
  Disk.sameOutside_removeDir w.disk w.cwd tmpDir

/-- When creating fails before any engine is called, no directory is gone; otherwise those outside
the directory of the environment are as they were when the last engine had answered. -/
theorem create_error_spares (hs : sv.StoreKeepsDirectories) {o : StageOrchestrator}
    {stage : String} {w w' : World σ} {err : OrchestratorError}
    (failed : o.create sv stage w = (.error err, w')) :
    (o.setupEnd sv stage w = none ∧ w.KeepsDirectories w') ∨
      ∃ id w₃, o.setupEnd sv stage w = some (id, w₃) ∧ w'.cwd = w₃.cwd ∧
        ∀ p, w₃.disk.entry? p = some .directory →
          ¬ w₃.placeOf (joinPath o.tmpRoot id) <+: p → w'.disk.entry? p = some .directory := by
  have sought := freshId_keepsDirectories hs stage w
  have ends := create_creates sv o stage w
  rw [failed] at ends
  cases ends with
  | unresolved resolved => exact .inl ⟨by simp only [setupEnd, resolved], .refl w⟩
  | unnamed named =>
    rw [named] at sought
    refine .inl ⟨?_, sought⟩
    unfold setupEnd
    rw [named]
    cases o.setupOf stage <;> rfl
  | @homeless id _ w₁ _ named made =>
    rw [named] at sought
    have grown := makeDirs_keepsDirectories (joinPath o.tmpRoot id) w₁
    rw [made] at grown
    refine .inl ⟨?_, sought.trans grown⟩
    unfold setupEnd
    rw [named]
    cases o.setupOf stage <;> simp only [made]
  | @broken _ id _ _ _ w₃ resolved named made run =>
    refine .inr ⟨id, w₃, by simp only [setupEnd, resolved, named, made, run], rfl, ?_⟩
    intro p dir away
    rw [discard_outside _ w₃ p away]
    exact dir
  | @refused _ id e cause _ _ w₃ w₄ resolved named made run stored =>
    have kept := hs (.insert e) w₃.now.1 w₃.now.2
    rw [stored] at kept
    replace kept : w₃.KeepsDirectories w₄ := ⟨kept.cwd, kept.disk⟩
    have here : ∀ path, w₄.placeOf path = w₃.placeOf path := fun path => by
      rw [World.placeOf, kept.cwd]
      rfl
    refine .inr ⟨id, w₃, by simp only [setupEnd, resolved, named, made, run], kept.cwd, ?_⟩
    intro p dir away
    rw [← here] at away
    rw [discard_outside _ w₄ p away]
    exact kept.disk p dir

/-! ### The whole -/

/-- What becomes of the directories of environments, recorded or not, when creating fails. -/
structure SparesOthers (o : StageOrchestrator) (sv : Services σ) (stage : String)
    (w w' : World σ) : Prop where
  /-- If no engine gets to be called, no environment loses its directory. -/
  uncalled : o.setupEnd sv stage w = none → ∀ e : TestEnvironment, w.Houses e → w'.Houses e
  /-- An environment that has its directory when the last engine has answered keeps it, unless it
  lies in the directory of the environment that did not come to be. -/
  apart {id : String} {w₃ : World σ} : o.setupEnd sv stage w = some (id, w₃) →
    ∀ e : TestEnvironment, w₃.Houses e →
      ¬ w₃.placeOf (joinPath o.tmpRoot id) <+: w₃.placeOf e.tmpDir → w₃.StillHouses w' e
  /-- So does every environment with a directory of its own name beside that one, unless it has the
  very same identifier. -/
  named {id : String} {w₃ : World σ} : o.setupEnd sv stage w = some (id, w₃) →
    '/' ∉ stage.toList → ∀ e : TestEnvironment, w₃.Houses e →
      e.tmpDir = joinPath o.tmpRoot e.id → PlainName e.id → e.id ≠ id → w₃.StillHouses w' e

theorem sparesOthers_of_error (hs : sv.StoreKeepsDirectories) {o : StageOrchestrator}
    {stage : String} {w w' : World σ} {err : OrchestratorError}
    (failed : o.create sv stage w = (.error err, w')) : o.SparesOthers sv stage w w' := by
  have apart : ∀ {id : String} {w₃ : World σ}, o.setupEnd sv stage w = some (id, w₃) →
      ∀ e : TestEnvironment, w₃.Houses e →
        ¬ w₃.placeOf (joinPath o.tmpRoot id) <+: w₃.placeOf e.tmpDir → w₃.StillHouses w' e := by
    intro id w₃ ended e housed away
    rcases create_error_spares hs failed with ⟨uncalled, -⟩ | ⟨_, _, called, cwd, kept⟩
    · rw [uncalled] at ended
      cases ended
    · cases called.symm.trans ended
      refine ⟨kept _ (World.houses_iff.1 housed).2.2 away, fun plain => ?_⟩
      refine housed.kept cwd fun p hp dir => kept p dir fun below => away ?_
      rcases List.mem_cons.1 hp with rfl | hp
      · exact below
      · exact below.trans (Disk.onWay_above plain p hp)
  refine ⟨fun uncalled e housed => ?_, apart, fun ended slashless e housed home plain other => ?_⟩
  · rcases create_error_spares hs failed with ⟨-, kept⟩ | ⟨_, _, called, -⟩
    · exact housed.mono kept
    · rw [uncalled] at called
      cases called
  · refine apart ended e housed fun below => other ?_
    rw [home, World.placeOf_joinPath _ _ plain,
      World.placeOf_joinPath _ _ (plain_of_setupEnd slashless ended)] at below
    -- two names right below one directory
    have same := below.eq_of_length (by simp)
    exact (List.singleton_inj.1 (List.append_cancel_left same)).symm

/-- When creating fails, whatever the engines have done, every environment that had its directory
when the last of them had answered still has it, unless that lies in the directory of the
environment that did not come to be. -/
theorem failed_create_spares (o : StageOrchestrator) (stage : String) (err : OrchestratorError) :
    (∀ engine (w w' : World (MemoryStore × σ)),
      o.create (.inMemory engine) stage w = (.error err, w') →
        o.SparesOthers (.inMemory engine) stage w w') ∧
    ∀ path engine (w w' : World σ), o.create (.inFile path engine) stage w = (.error err, w') →
      o.SparesOthers (.inFile path engine) stage w w' :=
  ⟨fun engine _ _ =>
    sparesOthers_of_error (Services.inMemory_storeKeepsDirectories engine),
    fun path engine _ _ =>
    sparesOthers_of_error (Services.inFile_storeKeepsDirectories path engine)⟩

/-- An engine that makes and records an environment of its own before it answers, as a project
inside a project does. -/
def registering (name : String → String) (answer : Except OrchestratorError ToolResult)
    (_ : EngineReference) (_ : String) (arguments : Document) (w : World (MemoryStore × Script)) :
    Except OrchestratorError ToolResult × World (MemoryStore × Script) :=
  let id := name ((Document.str? arguments "testID").getD "")
  let dir := joinPath "/tmp" id
  let w := (w.makeDirs dir).2
  let insert := StoreOp.insert (TestEnvironment.fresh .epoch id "unit" dir)
  (answer, { w with state := ((w.state.1.perform insert .epoch).2, w.state.2) })

/-- The environment of another identifier keeps its directory when the engine fails. -/
theorem failed_create_spares_nested :
    let engine := registering (· ++ "-inner") (.error (.connect "refused"))
    let sv := Services.inMemory engine
    let inner := TestEnvironment.fresh .epoch "test-unit-19700101-00000000-inner" "unit"
      "/tmp/test-unit-19700101-00000000-inner"
    let after := paired.create sv "unit" (vacant [])
    after.1 = .error (.step 0 "go://network" (.connect "refused")) ∧
      after.2.state.1.document.environments.find? inner.id = some inner ∧
      after.2.Houses inner := by
  intro engine sv inner after
  have ends : after.1 = .error (.step 0 "go://network" (.connect "refused")) ∧
      after.2.state.1.document.environments.find? inner.id = some inner := by decide +kernel
  have ended : ((paired.setupEnd sv "unit" (vacant [])).map fun s =>
      (s.1, decide (s.2.Houses inner))) = some ("test-unit-19700101-00000000", true) := by
    decide +kernel
  obtain ⟨⟨id, w₃⟩, whole, computed⟩ := Option.map_eq_some_iff.1 ended
  obtain ⟨rfl, housed⟩ := Prod.mk.inj computed
  have plain : PlainName inner.id := ⟨by decide, by decide, by decide, by decide⟩
  have failed : after = (.error (.step 0 "go://network" (.connect "refused")), after.2) := by
    rw [← ends.1]
  have spared := (failed_create_spares paired "unit" _).1 engine (vacant []) after.2 failed
  have still := spared.named whole (by decide) inner (of_decide_eq_true housed) (by decide +kernel)
    plain (by decide)
  exact ⟨ends.1, ends.2, still.path (by decide +kernel)⟩

/-- An engine records an environment under the identifier that it is told.  The identifier was free
when it was chosen, so creating fails as late as the record is to be made; the directory is removed
then, and the recorded environment has none. -/
theorem late_collision_loses_directory :
    let sv := Services.inMemory (registering id (.ok default))
    let other := TestEnvironment.fresh .epoch "test-unit-19700101-00000000" "unit"
      "/tmp/test-unit-19700101-00000000"
    let after := paired.create sv "unit" (vacant [])
    after.1 = .error (.persistence "test environment already exists: test-unit-19700101-00000000") ∧
      after.2.state.1.document.environments.find? other.id = some other ∧
      (∃ w₃, paired.setupEnd sv "unit" (vacant []) = some (other.id, w₃) ∧ w₃.Houses other) ∧
      ¬ after.2.Houses other := by
  intro sv other after
  have ended : ((paired.setupEnd sv "unit" (vacant [])).map fun s =>
      (s.1, decide (s.2.Houses other))) = some (other.id, true) := by decide +kernel
  obtain ⟨⟨_, w₃⟩, whole, computed⟩ := Option.map_eq_some_iff.1 ended
  obtain ⟨rfl, housed⟩ := Prod.mk.inj computed
  have ends : after.1 = .error (.persistence
        "test environment already exists: test-unit-19700101-00000000") ∧
      after.2.state.1.document.environments.find? other.id = some other ∧
      ¬ after.2.Houses other := by decide +kernel
  exact ⟨ends.1, ends.2.1, ⟨w₃, whole, of_decide_eq_true housed⟩, ends.2.2⟩

end StageOrchestrator

end Orchestration
