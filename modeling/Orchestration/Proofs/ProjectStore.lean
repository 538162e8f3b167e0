import Orchestration.Proofs.Deletion
import Orchestration.Proofs.FileRecording
import Orchestration.Proofs.Mirroring
import Orchestration.Proofs.ProjectBuilds
import Orchestration.Proofs.RemoteWork
import Orchestration.Proofs.Rollback
import Orchestration.Proofs.Standing

/-!
# A project and the store in its file

A project keeps its records in the file that its configuration names.  The services of a
configuration are the store in that file, with the engines that references lead to, so what holds
of the work with every store that keeps its promise holds of the project's own:

* `build_services`, `serve_services` — builds, and tools that are served, whatever engines do;
* `delete_frees_services` — what is gone after a deletion, whatever engines do;
* `create_kept_services`, `create_traceless_services` — what a creation leaves in the file and on the
  disk, when the engines of that request have worked elsewhere;
* `delete_absent_inFile`, `calls_mirror_inFile`, `run_stands_inFile` — whole runs, with engines that
  leave the file alone.
-/

namespace Orchestration

/-! ### With the engines of the configuration -/

section
variable {c : ProjectConfig} (hname : lastPart c.storePath ≠ "..") (vars : KeyMap String)
include hname

/-- The services of a configuration keep the promise of a store. -/
theorem ProjectConfig.services_promises :
    (c.services vars).Promises (StoreView.inFile c.storePath) := by
  rw [services_inFile]
  exact Services.inFile_promises hname _

/-- A project's builds are concluded once, and all of their artifacts are on record behind what the
file held when the last builder had answered, or none is and the file is as it was then. -/
theorem BuildCoordinator.build_services {bc : BuildCoordinator} {only : Option String}
    {specs : List BuildSpec} (selected : bc.select only = .ok specs) (w : World Resolver) :
    ∃ turns made w₁, bc.Builds (c.services vars) (groupByEngine specs) w turns made w₁ ∧
      w₁.calls = w.calls ++ turns.map BuilderTurn.call ∧
      AllOrNothing (.inFile c.storePath) w₁ (bc.build (c.services vars) only w) := by
  obtain ⟨turns, made, w₁, built, whole⟩ := build_concludes (c.services vars) selected w
  have concluded := conclude_allOrNothing (ProjectConfig.services_promises hname vars)
    (StoreView.inFile_recalls c.storePath) made w₁
  exact ⟨turns, made, w₁, built, (built.toTurns.trail (c.services_quiet vars)).calls,
    whole ▸ concluded⟩

/-- Serving the tools of a project is making the requests directly, and the replies tell what is on
record in its file. -/
theorem StageOrchestrator.serve_services (o : StageOrchestrator) (info : ServerInfo)
    {text : String} {asked : List RemoteCall} (w : World Resolver)
    (asks : List.Forall₂ RemoteCall.AskedOn asked
      ((inputLines text).filter fun line => !blankText line)) :
    let served := serve (o.handler (c.services vars)) info (RawText.ofString text) w
    served.ending = .ok () ∧ served.state = o.directRun (c.services vars) asked w ∧
      List.Forall₂ (fun call reply => reply.Tells (.inFile c.storePath) call)
        (o.directCalls (c.services vars) asked w) served.replies := by
  intro served
  rw [show served = _ from serve_asked o (c.services vars) info w asks]
  exact ⟨rfl, rfl, directCalls_tell o (c.services vars)
    (ProjectConfig.services_promises hname vars) (StoreView.inFile_recalls c.storePath) asked w⟩

end

namespace StageOrchestrator

section
variable (c : ProjectConfig) (vars : KeyMap String) {o : StageOrchestrator} {w w' : World Resolver}

/-- Asking whether an identifier is taken changes nothing. -/
theorem services_asks (id : String) (t : Timestamp) (u : World Resolver) :
    ((c.services vars).store (.contains id) t u).2 = u := by
  have reads : (StoreOp.contains id).mutates = false := rfl
  show { u with disk := (FileStore.perform ⟨c.storePath⟩ (.contains id) t u.cwd u.disk).2 } = u
  rw [FileStore.perform_of_reads reads]

/-- When a deletion has gone through without a failure, nothing is left at any path from the root
among the resources on record. -/
theorem delete_frees_services {id : String} {report : TeardownReport}
    (deleted : o.delete (c.services vars) id w = (.ok report, w')) (clean : report.isClean = true) :
    ∃ e, ((c.services vars).perform (.get id) w).1 = .ok e ∧ ∀ resource ∈ e.managedResources,
      isAbsolutePath resource = true → w'.disk.Absent w'.cwd resource := by
  have inPlace : (c.services vars).RemovesInPlace := by
    rw [c.services_inFile vars]
    exact Services.inFile_removesInPlace
  exact delete_frees (c.services_quiet vars) inPlace deleted clean

/-- Creating is all or nothing, when the engines of the request have left the store's file alone, if
its path does not go up and does not lead into an environment's directory. -/
theorem create_kept_services {stage : String} (plain : ".." ∉ pathParts c.storePath)
    (hr : w.disk.Rooted)
    (outside : ∀ t b, ¬ w.Under c.storePath (joinPath o.tmpRoot (testId stage t b)))
    (alone : o.SetsUp (c.services vars) stage w fun _ u u' =>
      (StoreView.inFile c.storePath).kept u' = (StoreView.inFile c.storePath).kept u) :
    AllOrNothing (.inFile c.storePath) w (o.create (c.services vars) stage w) :=
  create_kept_of_setsUp (c.services_quiet vars)
    (ProjectConfig.services_promises (lastPart_plain plain) vars) (services_asks c vars)
    (fun t b => StoreView.inFile_spares plain hr (outside t b)) alone

/-- A creation that fails leaves no trace on the disk, when the directories of the environments and
of the store's file are there, and engines have worked inside the new environment's directory. -/
theorem create_traceless_services {stage : String} (slashless : '/' ∉ stage.toList)
    (hr : w.disk.Rooted) {root : Place} (found : w.disk.locate w.cwd o.tmpRoot = .ok root)
    (there : w.disk.entry? root = some .directory)
    (home : w.disk.kind? w.cwd (FileStore.directory ⟨c.storePath⟩) = .ok .directory)
    (free : ∀ id, (freshId (c.services vars) stage w).1 = .ok id →
      w.disk.entry? (root ++ [id]) = none)
    (inside : o.SetsUpInside (c.services vars) stage w) {err : OrchestratorError}
    (failed : o.create (c.services vars) stage w = (.error err, w')) :
    ∀ p, w'.disk.entry? p = w.disk.entry? p := by
  have asks : ∀ id t (u : World Resolver),
      ((c.services vars).store (.contains id) t u).2.disk = u.disk :=
    fun id t u => congrArg World.disk (services_asks c vars id t u)
  have refuses : ∀ {top : Place}, w.disk.entry? top = none →
      (c.services vars).RefusesInPlace w top := by
    intro top bare
    rw [c.services_inFile vars]
    exact Services.inFile_refusesInPlace hr home bare
  exact create_traceless (c.services_quiet vars) asks slashless hr found there
    (fun id named => ⟨free id named, refuses (free id named)⟩) inside failed

end

/-! ### With engines that leave the file alone -/

section
variable {σ : Type} {c : ProjectConfig} {engine : EngineReference → String → Document → World σ →
    Except OrchestratorError ToolResult × World σ}
  (hq : (Services.inFile c.storePath engine).Quiet)
include hq

/-- Whatever is requested of a project without a store's file, and whatever fails: afterwards the
records in the file stand as the answers tell, if requests keep away from it. -/
theorem run_stands_inFile (plain : ".." ∉ pathParts c.storePath)
    (alone : (StoreView.inFile c.storePath).Untouched (.inFile c.storePath engine))
    (ht : (Services.inFile c.storePath engine).Timely) (systemTmp : String) {w : World σ}
    (missing : (StoreView.inFile c.storePath).kept w = none)
    (years : ∀ n, 0 ≤ (w.clock n).year ∧ (w.clock n).year ≤ 9999) (requests : List Request)
    (away : (ofConfig systemTmp c).AvoidsAlong (.inFile c.storePath engine) c.storePath w
      requests) :
    ∃ m, (StoreView.inFile c.storePath).Records
        ((ofConfig systemTmp c).run (.inFile c.storePath engine) requests w) m ∧
      (ofConfig systemTmp c).Standing
        ((ofConfig systemTmp c).history (.inFile c.storePath engine) w requests) m ∧
      ∀ id e, m.find? id = some e →
        e.tmpDir = joinPath (c.tmpPath systemTmp) id ∧ ∃ s ∈ c.test, s.name = e.stage := by
  have fresh : (StoreView.inFile c.storePath).Records w .empty := by
    intro t
    rw [missing]
    exact ⟨.empty t, rfl, rfl, fun e listed => nomatch listed⟩
  obtain ⟨m, records, standing⟩ := run_standing hq
    (Services.inFile_keeps (lastPart_plain plain) alone) ht (StoreView.inFile_rereads c.storePath)
    (ofConfig systemTmp c) fresh years requests (inFile_sparedAlong plain requests away)
  exact ⟨m, records, standing, fun id e found => standing.configured found⟩

variable (hname : lastPart c.storePath ≠ "..")
  (alone : (StoreView.atPlace c.storePath).Untouched (.inFile c.storePath engine))
include hname alone

/-- Nothing is left of an environment's directory after a deletion without failures, whatever was
requested since it was created. -/
theorem delete_absent_inFile {d : Disk} {cwd : Place} {path systemTmp : String}
    (loaded : ProjectConfig.load d cwd path = .ok c) (anchored : c.Anchored systemTmp path)
    {stage : String} {e : TestEnvironment} {w w₁ : World σ}
    (created : (ofConfig systemTmp c).create (.inFile c.storePath engine) stage w = (.ok e, w₁))
    (requests : List Request) {report : TeardownReport} {w₂ : World σ}
    (deleted : (ofConfig systemTmp c).delete (.inFile c.storePath engine) e.id
      ((ofConfig systemTmp c).run (.inFile c.storePath engine) requests w₁) = (.ok report, w₂))
    (clean : report.isClean = true) : w₂.disk.Absent w₂.cwd e.tmpDir :=
  home_absent hq (Services.inFile_recording hname alone) Services.inFile_removesInPlace
    (ProjectConfig.tmpPath_absolute loaded anchored) created requests deleted clean

/-- In a run that starts where no file lies, taking down mirrors setting up. -/
theorem calls_mirror_inFile {o : StageOrchestrator} {before after : List Request} {stage : String}
    {entries : List ChainEntry} {e : TestEnvironment} {w : World σ}
    (missing : (StoreView.atPlace c.storePath).kept w = none) (silent : w.calls = [])
    (apart : o.Apart (.inFile c.storePath engine) (before ++ .create stage :: after) w)
    (resolved : o.setupOf stage = .ok (.chain entries))
    (created : (o.create (.inFile c.storePath engine) stage
      (o.run (.inFile c.storePath engine) before w)).1 = .ok e) :
    o.Mirrors (.inFile c.storePath engine) before after stage entries e w := by
  have unrecorded : ∀ id x, ¬ (StoreView.atPlace c.storePath).Shows w id x := by
    rintro id x ⟨t, d, read, here⟩
    rw [missing] at read
    cases read
    cases here
  exact calls_mirror hq (Services.inFile_recording hname alone)
    (owned_of_nothing unrecorded silent) apart resolved created

end

end StageOrchestrator

end Orchestration
