import Orchestration.Project.Build
import Orchestration.Proofs.Scripted

/-!
# Builders run in order, each by itself, up to the first failure

A chain of builders is called over the same specifications.  What a builder is asked does not
depend on the builders around it, and nothing follows the first failure:

* `BuildSpec.Conveys` — what a builder is told of a specification, `prepare_conveys`;
* `buildRequest` — the call of a builder, which specifications, directories and the builder alone
  determine;
* `BuilderTurn`, `Services.Turns` — builders that take their turns, each in the world that the one
  before it has left;
* `BuildersEnd` — the end of a run: every builder has produced, or one has failed after all before
  it have produced;
* `orchestrate_failFast` — the whole.
-/

namespace Orchestration

variable {σ κ : Type}

/-! ### What a builder is told -/

/-- A document tells a builder of a specification: its names and the directories as they are, and
its parameters with those of the builder put over them, one key at a time. -/
structure BuildSpec.Conveys (b : BuildSpec) (builder : ChainEntry) (dirs : SharedDirs)
    (d : Document) : Prop where
  name : d.find? "name" = some (.str b.name)
  src : d.find? "src" = some (.str b.src)
  dest : d.find? "dest" = some (.str b.dest)
  engine : d.find? "engine" = some (.str b.engine.display)
  rootDir : d.find? "rootDir" = some (.str dirs.rootDir)
  buildDir : d.find? "buildDir" = some (.str dirs.buildDir)
  tmpDir : d.find? "tmpDir" = some (.str dirs.tmpDir)
  parameters : ∀ key, ((d.document? "spec").getD .empty).find? key =
    (builder.spec.bind (·.find? key)).or (b.spec.find? key)
  nothingElse : ∀ key, d.find? key ≠ none →
    key ∈ ["name", "src", "dest", "engine", "spec", "rootDir", "buildDir", "tmpDir"]

namespace BuildSpec

/-- The parameters of a specification with those of a builder put over them. -/
def parameters (b : BuildSpec) (builder : ChainEntry) : Document :=
  b.spec.union (builder.spec.getD .empty)

theorem find?_parameters (b : BuildSpec) (builder : ChainEntry) (key : String) :
    (b.parameters builder).find? key =
      (builder.spec.bind (·.find? key)).or (b.spec.find? key) := by
  rw [parameters, KeyMap.find?_union]
  cases builder.spec <;> rfl

/-- A prepared specification by its members. -/
theorem prepare_eq (b : BuildSpec) (builder : ChainEntry) (dirs : SharedDirs) :
    b.prepare builder dirs = told [("name", some (.str b.name)), ("src", some (.str b.src)),
      ("dest", some (.str b.dest)), ("engine", some (.str b.engine.display)),
      ("spec", if (b.parameters builder).isEmpty then none
        else some (b.parameters builder).toJson),
      ("rootDir", some (.str dirs.rootDir)), ("buildDir", some (.str dirs.buildDir)),
      ("tmpDir", some (.str dirs.tmpDir))] := by
  have merged : b.prepare builder dirs =
      (((KeyMap.ofList { b with spec := b.parameters builder }.members).insert
        "rootDir" (.str dirs.rootDir)).insert "buildDir" (.str dirs.buildDir)).insert
          "tmpDir" (.str dirs.tmpDir) := by
    unfold prepare parameters
    cases builder.spec <;> rfl
  rw [merged]
  by_cases blank : (b.parameters builder).isEmpty = true
  · simp only [members, told, if_pos blank]
    rfl
  · simp only [members, told, if_neg blank]
    rfl

theorem find?_prepare (b : BuildSpec) (builder : ChainEntry) (dirs : SharedDirs) (key : String) :
    (b.prepare builder dirs).find? key =
      if key = "name" then some (.str b.name)
      else if key = "src" then some (.str b.src)
      else if key = "dest" then some (.str b.dest)
      else if key = "engine" then some (.str b.engine.display)
      else if key = "rootDir" then some (.str dirs.rootDir)
      else if key = "buildDir" then some (.str dirs.buildDir)
      else if key = "tmpDir" then some (.str dirs.tmpDir)
      else if key = "spec" ∧ (b.parameters builder).isEmpty = false then
        some (b.parameters builder).toJson
      else none := by
  rw [prepare_eq]
  cases (b.parameters builder).isEmpty <;>
    simp only [told, KeyMap.ofList, KeyMap.insertAll, KeyMap.find?_insert, KeyMap.find?_empty,
      List.filterMap_cons, List.filterMap_nil, Option.map_some, Option.map_none, List.foldl_cons,
      List.foldl_nil, if_true, Bool.false_eq_true, if_false] <;>
    grind

theorem prepare_conveys (b : BuildSpec) (builder : ChainEntry) (dirs : SharedDirs) :
    b.Conveys builder dirs (b.prepare builder dirs) where
  name := by simp [find?_prepare]
  src := by simp [find?_prepare]
  dest := by simp [find?_prepare]
  engine := by simp [find?_prepare]
  rootDir := by simp [find?_prepare]
  buildDir := by simp [find?_prepare]
  tmpDir := by simp [find?_prepare]
  parameters key := by
    rw [← find?_parameters, Document.document?, find?_prepare]
    cases blank : (b.parameters builder).isEmpty with
    | true => simpa using (KeyMap.find?_of_isEmpty blank key).symm
    | false => simp
  nothingElse key bound := by
    rw [find?_prepare] at bound
    grind

end BuildSpec

/-- The call of a builder: one specification is built by itself, more are built as a batch. -/
def buildRequest (specs : List BuildSpec) (dirs : SharedDirs) (builder : ChainEntry) : EngineCall :=
  match specs with
  | [one] => ⟨builder.engine, "build", one.prepare builder dirs⟩
  | _ => ⟨builder.engine, "buildBatch",
      told [("specs", some (.arr (specs.map fun b => (b.prepare builder dirs).toJson)))]⟩

theorem builderCall_eq (specs : List BuildSpec) (builder : ChainEntry) (dirs : SharedDirs) :
    builderCall specs builder dirs = ((buildRequest specs dirs builder).tool,
      (buildRequest specs dirs builder).arguments) := by
  match specs with
  | [] => rfl
  | [_] => rfl
  | _ :: _ :: rest => simp [builderCall, buildRequest, told, Function.comp_def]

theorem buildRequest_engine (specs : List BuildSpec) (dirs : SharedDirs) (builder : ChainEntry) :
    (buildRequest specs dirs builder).engine = builder.engine := by
  unfold buildRequest
  split <;> rfl

/-! ### Builders taking their turns -/

/-- A call of a builder, and what came of it. -/
structure BuilderTurn where
  call : EngineCall
  outcome : Except OrchestratorError (List Artifact)

/-- Make a call and read the artifacts in its result, if there is one. -/
def Services.buildOnce (sv : Services σ) (c : EngineCall) (w : World σ) :
    Except OrchestratorError (List Artifact) × World σ :=
  match sv.call c.engine c.tool c.arguments w with
  | (.error e, w) => (.error e, w)
  | (.ok result, w) => (parseArtifacts w.now.1 result, w.now.2)

/-- Builders that take their turns, each in the world that the one before it has left. -/
inductive Services.Turns (sv : Services σ) : World σ → List BuilderTurn → World σ → Prop
  | nil (w : World σ) : Turns sv w [] w
  | cons {w w₁ w' : World σ} {c : EngineCall} {outcome : Except OrchestratorError (List Artifact)}
      {turns : List BuilderTurn} (first : sv.buildOnce c w = (outcome, w₁))
      (rest : Turns sv w₁ turns w') : Turns sv w (⟨c, outcome⟩ :: turns) w'

/-- The end of a run of builders, the first of which has an index: all have produced, or one has
failed after those before it have produced.  What was produced before a failure is not handed
on. -/
inductive BuildersEnd (index : Nat) (builders : List ChainEntry) :
    List (Except OrchestratorError (List Artifact)) →
      Except OrchestratorError (List Artifact) → Prop
  | done {produced : List (List Artifact)} (all : produced.length = builders.length) :
      BuildersEnd index builders (produced.map .ok) (.ok produced.flatten)
  | failed {produced : List (List Artifact)} {builder : ChainEntry} {source : OrchestratorError}
      (here : builders[produced.length]? = some builder) :
      BuildersEnd index builders (produced.map .ok ++ [.error source])
        (.error (.ofStep (index + produced.length) builder.engine source))

theorem BuildersEnd.cons {index : Nat} {builders : List ChainEntry}
    {outcomes : List (Except OrchestratorError (List Artifact))}
    {result : Except OrchestratorError (List Artifact)}
    (h : BuildersEnd (index + 1) builders outcomes result) (builder : ChainEntry)
    (produced : List Artifact) :
    BuildersEnd index (builder :: builders) (.ok produced :: outcomes)
      (result.map (produced ++ ·)) := by
  cases h with
  | @done earlier all =>
    exact @BuildersEnd.done index (builder :: builders) (produced :: earlier)
      (congrArg (· + 1) all)
  | @failed earlier failing source here =>
    have := @BuildersEnd.failed index (builder :: builders) (produced :: earlier) failing source
      here
    rwa [List.length_cons, Nat.add_comm earlier.length 1, ← Nat.add_assoc] at this

/-- A failed turn is at the bottom of the failure of the run. -/
theorem BuildersEnd.rootCause {index : Nat} {builders : List ChainEntry}
    {outcomes : List (Except OrchestratorError (List Artifact))}
    {result : Except OrchestratorError (List Artifact)} {source : OrchestratorError}
    (h : BuildersEnd index builders outcomes result) (failed : .error source ∈ outcomes) :
    ∃ err, result = .error err ∧ err.rootCause = source.rootCause := by
  cases h with
  | done all =>
    obtain ⟨_, _, impossible⟩ := List.mem_map.1 failed
    cases impossible
  | @failed produced builder cause here =>
    rcases List.mem_append.1 failed with before | last
    · obtain ⟨_, _, impossible⟩ := List.mem_map.1 before
      cases impossible
    · cases List.mem_singleton.1 last
      exact ⟨_, rfl, OrchestratorError.rootCause_ofStep _ _ _⟩

namespace Services

variable {sv : Services σ}

theorem buildOnce_trail (hq : sv.Quiet) (c : EngineCall) (w : World σ) :
    w.Trail [c] (sv.buildOnce c w).2 := by
  have called := hq.call c.engine c.tool c.arguments w
  unfold buildOnce
  cases answered : sv.call c.engine c.tool c.arguments w with | mk answer w₁
  rw [answered] at called
  cases answer with
  | error e => exact called
  | ok result => exact called.after w₁.now_trail

/-- After turns of builders the log has grown by their calls. -/
theorem Turns.trail (hq : sv.Quiet) {w w' : World σ} {turns : List BuilderTurn}
    (h : sv.Turns w turns w') : w.Trail (turns.map BuilderTurn.call) w' := by
  induction h with
  | nil w => exact .refl w
  | @cons w w₁ w' c outcome turns first _ ih =>
    have := buildOnce_trail hq c w
    rw [first] at this
    exact this.trans ih

theorem Turns.append {w w₁ w' : World σ} {turns more : List BuilderTurn}
    (h : sv.Turns w turns w₁) (h' : sv.Turns w₁ more w') : sv.Turns w (turns ++ more) w' := by
  induction h with
  | nil w => exact h'
  | cons first _ ih => exact .cons first (ih h')

/-- Engines that leave a store alone leave it alone all through their turns. -/
theorem Turns.kept {v : StoreView σ κ} {w w' : World σ} {turns : List BuilderTurn}
    (h : sv.Turns w turns w') (alone : v.Untouched sv) : v.kept w' = v.kept w := by
  induction h with
  | nil w => rfl
  | @cons w w₁ w' c outcome turns first _ ih =>
    have heard := alone c.engine c.tool c.arguments
      { w with calls := w.calls ++ [⟨c.engine, c.tool, c.arguments⟩] }
    refine ih.trans ?_
    unfold buildOnce Services.call at first
    cases answered : sv.engine c.engine c.tool c.arguments
      { w with calls := w.calls ++ [⟨c.engine, c.tool, c.arguments⟩] } with | mk answer w₂
    rw [answered] at first heard
    cases answer with
    | error e => cases first; exact heard
    | ok result => cases first; exact heard

end Services

/-! ### The run -/

section Run

variable {sv : Services σ} {specs : List BuildSpec} {dirs : SharedDirs} {index : Nat}
  {builder : ChainEntry} {rest : List ChainEntry} {w w₁ : World σ}

theorem runBuilders_of_failed {e : OrchestratorError}
    (h : sv.buildOnce (buildRequest specs dirs builder) w = (.error e, w₁)) :
    runBuilders sv specs dirs index (builder :: rest) w =
      (.error (.ofStep index builder.engine e), w₁) := by
  unfold Services.buildOnce at h
  rw [buildRequest_engine] at h
  simp only [runBuilders, builderCall_eq]
  cases answered : sv.call builder.engine (buildRequest specs dirs builder).tool
    (buildRequest specs dirs builder).arguments w with | mk answer w₂
  rw [answered] at h
  cases answer with
  | error f =>
    obtain ⟨rfl, rfl⟩ := h
    rfl
  | ok result =>
    simp only [Prod.mk.injEq] at h
    obtain ⟨unread, rfl⟩ := h
    simp only [unread]

theorem runBuilders_of_produced {produced : List Artifact}
    (h : sv.buildOnce (buildRequest specs dirs builder) w = (.ok produced, w₁)) :
    runBuilders sv specs dirs index (builder :: rest) w =
      ((runBuilders sv specs dirs (index + 1) rest w₁).1.map (produced ++ ·),
        (runBuilders sv specs dirs (index + 1) rest w₁).2) := by
  unfold Services.buildOnce at h
  rw [buildRequest_engine] at h
  simp only [runBuilders, builderCall_eq]
  cases answered : sv.call builder.engine (buildRequest specs dirs builder).tool
    (buildRequest specs dirs builder).arguments w with | mk answer w₂
  rw [answered] at h
  cases answer with
  | error f => cases h
  | ok result =>
    simp only [Prod.mk.injEq] at h
    obtain ⟨read, rfl⟩ := h
    simp only [read]
    cases runBuilders sv specs dirs (index + 1) rest w₂.now.2 with | mk result w'
    cases result <;> rfl

end Run

/-- Builders are run one turn each, up to the first that fails. -/
theorem runBuilders_turns (sv : Services σ) (specs : List BuildSpec) (dirs : SharedDirs)
    (builders : List ChainEntry) : ∀ (index : Nat) (w : World σ), ∃ turns w' result,
      sv.Turns w turns w' ∧
      turns.map BuilderTurn.call =
        (builders.take turns.length).map (buildRequest specs dirs) ∧
      BuildersEnd index builders (turns.map BuilderTurn.outcome) result ∧
      runBuilders sv specs dirs index builders w = (result, w') := by
  induction builders with
  | nil => exact fun index w => ⟨[], w, _, .nil w, rfl, @BuildersEnd.done index [] [] rfl, rfl⟩
  | cons builder rest ih =>
    intro index w
    cases first : sv.buildOnce (buildRequest specs dirs builder) w with | mk outcome w₁
    cases outcome with
    | error e =>
      exact ⟨[⟨_, .error e⟩], w₁, _, .cons first (.nil w₁), rfl,
        @BuildersEnd.failed index (builder :: rest) [] builder e rfl, runBuilders_of_failed first⟩
    | ok produced =>
      obtain ⟨turns, w', result, taken, calls, ends, run⟩ := ih (index + 1) w₁
      refine ⟨⟨_, .ok produced⟩ :: turns, w', _, .cons first taken, ?_, ends.cons builder produced,
        ?_⟩
      · simp only [List.map_cons, List.length_cons, List.take_succ_cons, calls]
      · rw [runBuilders_of_produced first, run]

theorem orchestrate_eq (sv : Services σ) {builders : List ChainEntry} {specs : List BuildSpec}
    (dirs : SharedDirs) (w : World σ) (someBuilder : builders ≠ []) (someSpec : specs ≠ []) :
    orchestrate sv builders specs dirs w = runBuilders sv specs dirs 0 builders w := by
  rw [orchestrate, if_neg (by simpa using someBuilder), if_neg (by simpa using someSpec)]

/-- Builders are called in order, once each, up to the first whose call fails or whose result
describes no artifacts; its failure is that of the whole, and otherwise all artifacts are handed on
in order.  What a builder is asked depends on the specifications, the directories and itself
alone: its parameters win over those of a specification, and nothing wins over names and
directories. -/
theorem orchestrate_failFast (sv : Services σ) {builders : List ChainEntry}
    {specs : List BuildSpec} (dirs : SharedDirs) (w : World σ) (someBuilder : builders ≠ [])
    (someSpec : specs ≠ []) : ∃ turns w' result,
      orchestrate sv builders specs dirs w = (result, w') ∧
      sv.Turns w turns w' ∧
      turns.map BuilderTurn.call =
        (builders.take turns.length).map (buildRequest specs dirs) ∧
      BuildersEnd 0 builders (turns.map BuilderTurn.outcome) result ∧
      (∀ source, .error source ∈ turns.map BuilderTurn.outcome →
        ∃ err, result = .error err ∧ err.rootCause = source.rootCause) ∧
      (sv.Quiet → w'.calls = w.calls ++ turns.map BuilderTurn.call) ∧
      ∀ (b : BuildSpec) (builder : ChainEntry),
        b.Conveys builder dirs (b.prepare builder dirs) := by
  obtain ⟨turns, w', result, taken, calls, ends, run⟩ :=
    runBuilders_turns sv specs dirs builders 0 w
  exact ⟨turns, w', result, (orchestrate_eq sv dirs w someBuilder someSpec).trans run, taken, calls,
    ends, fun source => ends.rootCause, fun hq => (taken.trail hq).calls,
    fun b builder => b.prepare_conveys builder dirs⟩

/-- What the examples build. -/
def BuildSpec.sample : BuildSpec where
  name := "api"
  src := "./cmd/api"
  dest := "./build/bin"
  engine := .chain "release"
  spec := KeyMap.ofList [("size", .str "large"), ("name", .str "api-server")]

/-- The second builder fails after the first one has produced an artifact. -/
theorem orchestrate_failFast_second_failing :
    let dirs : SharedDirs := ⟨"/repo", "/repo/build", "/tmp/stagehand"⟩
    let w := World.opening (fun _ => 0) [] [
      .ok ⟨[], some (.obj [("name", .str "api"), ("type", .str "binary"),
        ("location", .str "build/bin/api")]), false⟩,
      .error (.engine "build" "no signing key")]
    ChainEntry.pair ≠ [] ∧ [BuildSpec.sample] ≠ [] ∧
      (orchestrate .scripted ChainEntry.pair [.sample] dirs w).1 =
        .error (.step 1 "go://database" (.engine "build" "no signing key")) ∧
      (orchestrate .scripted ChainEntry.pair [.sample] dirs w).2.calls =
        ChainEntry.pair.map (buildRequest [.sample] dirs) := by
  intro dirs w
  have someBuilder : ChainEntry.pair ≠ [] := by decide
  have someSpec : [BuildSpec.sample] ≠ [] := by decide
  have failed : (orchestrate .scripted ChainEntry.pair [.sample] dirs w).1 =
      .error (.step 1 "go://database" (.engine "build" "no signing key")) := by decide +kernel
  refine ⟨someBuilder, someSpec, failed, ?_⟩
  obtain ⟨turns, w', result, run, _, calls, ends, _, log, _⟩ :=
    orchestrate_failFast .scripted dirs w someBuilder someSpec
  rw [run] at failed ⊢
  have both : turns.length = 2 := by
    rw [← List.length_map (f := BuilderTurn.outcome)]
    generalize turns.map BuilderTurn.outcome = outcomes at ends
    cases ends with
    | done => cases failed
    | @failed produced builder source here =>
      obtain ⟨second, _⟩ := OrchestratorError.step.inj (Except.error.inj failed)
      simp only [List.length_append, List.length_map, List.length_singleton]
      omega
  rw [log Services.scripted_quiet, calls, both]
  rfl

end Orchestration
