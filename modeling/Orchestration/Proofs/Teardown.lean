import Orchestration.Project.Delete
import Orchestration.Proofs.Scripted

/-!
# Deleting goes on past failures

Whatever engines answer, deleting an environment makes the same calls in the same order, then
releases every resource, and then has the record removed:

* `StageOrchestrator.deletePlan` — the calls that an environment and its stage alone determine;
* `takeDown_exchanges` — the plan is carried out to its end, one step of the report for each call;
* `releaseAll_releases` — one step of the report for each resource;
* `delete_bestEffort` — the whole.
-/

namespace Orchestration

variable {σ κ : Type} {sv : Services σ}

/-- How the answer to a call shows in a report. -/
def Exchange.status (x : Exchange) : StepStatus :=
  match x.answer with
  | .ok _ => .done
  | .error e => .failed e.message

namespace StageOrchestrator

/-! ### The plan -/

/-- What deleting an environment says to engines, each call with the name of its step: nothing
without engines, one call to a single engine, and one call to every entry of a chain, the last
entry first. -/
def deletePlan (o : StageOrchestrator) (e : TestEnvironment) : List (String × EngineCall) :=
  match o.setupOf e.stage with
  | .error _ | .ok .bare => []
  | .ok (.direct engine) =>
    [("delete " ++ engine.display,
      ⟨engine, "delete", told [("stage", some (.str e.stage)), ("testID", some (.str e.id)),
        ("metadata", if engine.shortName = "test-report" then none
          else some (Json.ofStringMap e.metadata))]⟩)]
  | .ok (.chain entries) =>
    (entries.zipIdx.map fun (entry, index) =>
      ("delete " ++ entry.engine.display ++ " (step " ++ toString index ++ ")",
        ⟨entry.engine, "delete", told [("testID", some (.str e.id)), ("stage", some (.str e.stage)),
          ("metadata", some (Json.ofStringMap e.metadata)),
          ("spec", entry.spec.map Document.toJson)]⟩)).reverse

/-- What a report says of a stage whose setup cannot be resolved. -/
def unresolvedSteps (o : StageOrchestrator) (e : TestEnvironment) : List TeardownStep :=
  match o.setupOf e.stage with
  | .ok _ => []
  | .error err => [⟨"resolve testenv for stage " ++ e.stage, .failed err.message⟩]

/-- What a report says of the engines: a stage that cannot be resolved, or one step for each
call. -/
def engineSteps (o : StageOrchestrator) (e : TestEnvironment) (said : List Exchange) :
    List TeardownStep :=
  o.unresolvedSteps e ++ List.zipWith (fun p x => ⟨p.1, x.status⟩) (o.deletePlan e) said

theorem deleteArguments_eq (e : TestEnvironment) (entry : ChainEntry) :
    deleteArguments e entry = told [("testID", some (.str e.id)), ("stage", some (.str e.stage)),
      ("metadata", some (Json.ofStringMap e.metadata)),
      ("spec", entry.spec.map Document.toJson)] := by
  cases h : entry.spec <;> simp [deleteArguments, told, arguments, specMember, h]

theorem directDeleteArguments_eq (e : TestEnvironment) (engine : EngineReference) :
    directDeleteArguments e engine = told [("stage", some (.str e.stage)),
      ("testID", some (.str e.id)), ("metadata", if engine.shortName = "test-report" then none
        else some (Json.ofStringMap e.metadata))] := by
  by_cases h : engine.shortName = "test-report" <;>
    simp [directDeleteArguments, told, arguments, isLightweight, reportEngine, h]

/-- A planned call with the name of its step. -/
def TeardownCall.planned (c : TeardownCall) : String × EngineCall :=
  (c.step, ⟨c.engine, "delete", c.arguments⟩)

theorem chainTeardownCalls_planned (e : TestEnvironment) (entries : List ChainEntry) :
    ∀ index, (chainTeardownCalls e index entries).map TeardownCall.planned =
      ((entries.zipIdx index).map fun (entry, index) =>
        ("delete " ++ entry.engine.display ++ " (step " ++ toString index ++ ")",
          (⟨entry.engine, "delete", deleteArguments e entry⟩ : EngineCall))).reverse := by
  induction entries with
  | nil => intro index; rfl
  | cons entry rest ih =>
    intro index
    rw [chainTeardownCalls, List.map_append, ih (index + 1), List.zipIdx_cons]
    simp only [List.map_cons, List.reverse_cons]
    rfl

theorem teardownCalls_planned {o : StageOrchestrator} {e : TestEnvironment} {setup : Setup}
    (h : o.setupOf e.stage = .ok setup) :
    (teardownCalls setup e).map TeardownCall.planned = o.deletePlan e := by
  unfold deletePlan
  rw [h]
  cases setup with
  | bare => rfl
  | direct engine =>
    show [TeardownCall.planned ⟨_, engine, directDeleteArguments e engine⟩] = _
    rw [directDeleteArguments_eq]
    rfl
  | chain entries =>
    show (chainTeardownCalls e 0 entries).map TeardownCall.planned = _
    rw [chainTeardownCalls_planned]
    simp only [deleteArguments_eq]

/-! ### Engines -/

theorem runTeardown_cons (c : TeardownCall) (rest : List TeardownCall) (report : TeardownReport)
    {w w₁ : World σ} {answer : Except OrchestratorError ToolResult}
    (h : sv.call c.engine "delete" c.arguments w = (answer, w₁)) :
    runTeardown sv (c :: rest) report w =
      runTeardown sv rest (report.record c.step (Exchange.status ⟨c.planned.2, answer⟩)) w₁ := by
  cases answer <;> simp only [runTeardown, h, Exchange.status]

/-- Calls are made to the end, and each adds one step to the report. -/
theorem runTeardown_exchanges (sv : Services σ) (cs : List TeardownCall) :
    ∀ (report : TeardownReport) (w : World σ), ∃ said w', sv.Exchanges w said w' ∧
      said.map Exchange.call = (cs.map TeardownCall.planned).map Prod.snd ∧
      runTeardown sv cs report w = (⟨report.testId, report.steps ++
        List.zipWith (fun p x => ⟨p.1, x.status⟩) (cs.map TeardownCall.planned) said⟩, w') := by
  induction cs with
  | nil => exact fun report w => ⟨[], w, .nil w, rfl, by simp [runTeardown]⟩
  | cons c rest ih =>
    intro report w
    cases h : sv.call c.engine "delete" c.arguments w with | mk answer w₁
    obtain ⟨said, w', spoken, calls, run⟩ :=
      ih (report.record c.step (Exchange.status ⟨c.planned.2, answer⟩)) w₁
    refine ⟨⟨c.planned.2, answer⟩ :: said, w', .call h spoken, ?_, ?_⟩
    · simp only [List.map_cons, calls]
    · rw [runTeardown_cons c rest report h, run]
      simp only [TeardownReport.record, List.append_assoc, List.map_cons, List.zipWith_cons_cons,
        List.singleton_append]
      rfl

/-- The plan of an environment is carried out to its end. -/
theorem takeDown_exchanges (sv : Services σ) (o : StageOrchestrator) (e : TestEnvironment)
    (w : World σ) : ∃ said w', sv.Exchanges w said w' ∧
      said.map Exchange.call = (o.deletePlan e).map Prod.snd ∧
      o.takeDown sv e w = (⟨e.id, o.engineSteps e said⟩, w') := by
  unfold takeDown engineSteps
  cases h : o.setupOf e.stage with
  | error err =>
    refine ⟨[], w, .nil w, by simp [deletePlan, h], ?_⟩
    simp [unresolvedSteps, deletePlan, h, TeardownReport.empty, TeardownReport.record]
  | ok setup =>
    obtain ⟨said, w', spoken, calls, run⟩ :=
      runTeardown_exchanges sv (teardownCalls setup e) (.empty e.id) w
    rw [teardownCalls_planned h] at calls run
    refine ⟨said, w', spoken, calls, ?_⟩
    show runTeardown sv (teardownCalls setup e) (.empty e.id) w = _
    rw [run]
    simp [unresolvedSteps, h, TeardownReport.empty]

/-! ### Resources -/

/-- The steps that releasing resources adds to a report, one for each, in order. -/
inductive Releases : List String → World σ → List TeardownStep → World σ → Prop
  | nil (w : World σ) : Releases [] w [] w
  | cons {resource : String} {rest : List String} {status : StepStatus}
      {steps : List TeardownStep} {w w₁ w' : World σ}
      (first : release resource w = (status, w₁)) (others : Releases rest w₁ steps w') :
      Releases (resource :: rest) w (⟨"release " ++ resource, status⟩ :: steps) w'

theorem Releases.names {resources : List String} {w w' : World σ} {steps : List TeardownStep}
    (h : Releases resources w steps w') :
    steps.map TeardownStep.step = resources.map ("release " ++ ·) := by
  induction h with
  | nil w => rfl
  | cons _ _ ih => simp only [List.map_cons, ih]

theorem removeAny_trail (path : String) (w : World σ) : w.Trail [] (removeAny path w).2 := by
  unfold removeAny
  split
  · exact .refl w
  · exact w.removeDir_trail path
  · exact w.removeFile_trail path

theorem release_trail (resource : String) (w : World σ) :
    w.Trail [] (release resource w).2 := by
  unfold release
  split
  · exact removeAny_trail resource w
  · exact .refl w

/-- Releasing resources calls no engine. -/
theorem Releases.trail {resources : List String} {w w' : World σ} {steps : List TeardownStep}
    (h : Releases resources w steps w') : w.Trail [] w' := by
  induction h with
  | nil w => exact .refl w
  | @cons resource rest status steps w w₁ w' first _ ih =>
    have freed := release_trail resource w
    rw [first] at freed
    exact freed.before ih

/-- Every resource is tried, whatever became of those before it. -/
theorem releaseAll_releases (resources : List String) :
    ∀ (report : TeardownReport) (w : World σ), ∃ steps w', Releases resources w steps w' ∧
      releaseAll resources report w = (⟨report.testId, report.steps ++ steps⟩, w') := by
  induction resources with
  | nil => exact fun report w => ⟨[], w, .nil w, by rw [List.append_nil]; rfl⟩
  | cons resource rest ih =>
    intro report w
    cases first : release resource w with | mk status w₁
    obtain ⟨steps, w', freed, run⟩ := ih (report.record ("release " ++ resource) status) w₁
    refine ⟨_, w', .cons first freed, ?_⟩
    rw [releaseAll, first]
    show releaseAll rest (report.record ("release " ++ resource) status) w₁ = _
    rw [run]
    simp only [TeardownReport.record, List.append_assoc, List.singleton_append]

/-! ### The whole -/

/-- Deleting a recorded environment is its plan, the release of its resources and the removal of
its record, whatever comes of each. -/
theorem deleteEnvironment_eq (sv : Services σ) (o : StageOrchestrator) (e : TestEnvironment)
    (w : World σ) : ∃ said w₁ released w₂, sv.Exchanges w said w₁ ∧
      said.map Exchange.call = (o.deletePlan e).map Prod.snd ∧
      Releases e.managedResources.reverse w₁ released w₂ ∧
      o.deleteEnvironment sv e w =
        ((sv.perform (.remove e.id) w₂).1.map fun _ => ⟨e.id, o.engineSteps e said ++ released⟩,
          (sv.perform (.remove e.id) w₂).2) := by
  obtain ⟨said, w₁, spoken, calls, took⟩ := o.takeDown_exchanges sv e w
  obtain ⟨released, w₂, freed, run⟩ :=
    releaseAll_releases e.managedResources.reverse ⟨e.id, o.engineSteps e said⟩ w₁
  refine ⟨said, w₁, released, w₂, spoken, calls, freed, ?_⟩
  simp only [deleteEnvironment, took, run]
  cases removed : sv.perform (.remove e.id) w₂ with | mk answer w₃
  cases answer <;> rfl

theorem delete_eq {o : StageOrchestrator} {id : String} {e : TestEnvironment} {w : World σ}
    (hid : blankText id = false) (held : (sv.perform (.get id) w).1 = .ok e) :
    o.delete sv id w = o.deleteEnvironment sv e (sv.perform (.get id) w).2 := by
  unfold delete
  rw [hid]
  cases found : sv.perform (.get id) w with | mk answer w₁
  rw [found] at held
  subst held
  rfl

/-- Deleting goes on past failures.  The calls are those of the plan, whatever engines answer;
the report has one step for each call, failed where the call failed, and then one for each
resource, newest first; then the record is removed, and if it cannot be, the records are those
that the engines and the releases have left. -/
theorem delete_bestEffort {v : StoreView σ κ} (hq : sv.Quiet) (hk : sv.Keeps v)
    (o : StageOrchestrator) {e : TestEnvironment} {w : World σ} (hid : blankText e.id = false)
    (held : (sv.perform (.get e.id) w).1 = .ok e) :
    ∃ said w₁ released w₂ removed w', sv.Exchanges (sv.perform (.get e.id) w).2 said w₁ ∧
      said.map Exchange.call = (o.deletePlan e).map Prod.snd ∧
      Releases e.managedResources.reverse w₁ released w₂ ∧
      released.map TeardownStep.step = e.managedResources.reverse.map ("release " ++ ·) ∧
      sv.perform (.remove e.id) w₂ = (removed, w') ∧
      o.delete sv e.id w =
        (removed.map fun _ => ⟨e.id, o.engineSteps e said ++ released⟩, w') ∧
      w'.calls = w.calls ++ (o.deletePlan e).map Prod.snd ∧
      v.kept w₁ = v.kept w ∧
      match removed with
      | .error _ => v.kept w' = v.kept w₂
      | .ok _ => ∃ t d, v.decode t (v.kept w₂) = .ok d ∧
          v.kept w' = v.encode
            { d with environments := d.environments.erase e.id, lastUpdated := t } (v.kept w₂) := by
  obtain ⟨said, w₁, released, w₂, spoken, calls, freed, whole⟩ :=
    o.deleteEnvironment_eq sv e (sv.perform (.get e.id) w).2
  have trail : w.Trail ((o.deletePlan e).map Prod.snd) (sv.perform (.remove e.id) w₂).2 := by
    rw [← calls]
    exact (((hq.perform _ w).before (spoken.trail hq)).after freed.trail).after (hq.perform _ w₂)
  have heard : v.kept w₁ = v.kept w :=
    (hk.kept_exchanges spoken).trans (hk.kept_of_reads rfl w)
  rw [delete_eq hid held, whole]
  cases removed : sv.perform (.remove e.id) w₂ with | mk answer w'
  rw [removed] at trail
  refine ⟨said, w₁, released, w₂, answer, w', spoken, calls, freed, freed.names, removed, rfl,
    trail.calls, heard, ?_⟩
  cases answer with
  | error err => exact hk.kept_of_failed removed
  | ok taken =>
    obtain ⟨d, read, _, written⟩ := hk.remove_done (Services.perform_ok removed)
    exact ⟨_, d, read, written⟩

/-- The engine that is called first fails, and the other one is called all the same. -/
theorem delete_bestEffort_first_failing :
    let w := World.opening (fun _ => 0) [.sample] [.error (.connect "refused"), .ok default]
    (Services.scripted.perform (.get "test-unit-1") w).1 = .ok .sample ∧
      (paired.delete .scripted "test-unit-1" w).2.calls =
        (paired.deletePlan .sample).map Prod.snd ∧
      (paired.deletePlan .sample).map Prod.fst =
        ["delete go://database (step 1)", "delete go://network (step 0)"] := by
  intro w
  have held : (Services.scripted.perform (.get TestEnvironment.sample.id) w).1 = .ok .sample := rfl
  obtain ⟨said, w₁, released, w₂, removed, w', _, _, _, _, _, whole, made, _⟩ :=
    delete_bestEffort Services.scripted_quiet Services.scripted_keeps paired
      (by decide +kernel) held
  refine ⟨held, ?_, by decide +kernel⟩
  show (paired.delete .scripted TestEnvironment.sample.id w).2.calls = _
  rw [whole, made]
  rfl

end StageOrchestrator

end Orchestration
