import Orchestration.Proofs.Building
import Orchestration.Proofs.Replies

/-!
# The builds of a project: every specification once, all artifacts or none

A project groups its specifications by engine and builds one group after the other.  Only when
all have been built are their artifacts recorded:

* `groupOf`, `groupByEngine_eq` — a group for each engine, in the order in which engines first
  appear, with the specifications of that engine in their order;
* `groupByEngine_perm`, `groupByEngine_grouped` — no specification is lost, and none doubled;
* `StandsFor`, `builders_eq_iff` — the builders of an engine reference, those of an alias or the
  engine itself;
* `Builds` — groups built one after the other, up to the first that fails;
* `buildGroups_builds` — that is what is done with groups that have members;
* `conclude`, `AllOrNothing` — what is put on record once the groups have been built;
* `build_allOrNothing` — the whole.
-/

namespace Orchestration

variable {σ κ : Type}

/-! ### Groups -/

/-- The group of an engine among specifications. -/
def groupOf (specs : List BuildSpec) (engine : EngineReference) :
    EngineReference × List BuildSpec :=
  (engine, specs.filter (·.engine = engine))

theorem groupOf_own (specs : List BuildSpec) (b : BuildSpec) :
    groupOf (specs ++ [b]) b.engine = (b.engine, (groupOf specs b.engine).2 ++ [b]) := by
  simp [groupOf]

theorem groupOf_other (specs : List BuildSpec) {b : BuildSpec} {engine : EngineReference}
    (other : engine ≠ b.engine) : groupOf (specs ++ [b]) engine = groupOf specs engine := by
  simp [groupOf, other.symm]

/-- A specification joins the group of its engine, if there is one, and starts one otherwise. -/
theorem addToGroups_groupOf (specs : List BuildSpec) (b : BuildSpec) :
    ∀ {engines : List EngineReference}, engines.Nodup →
      addToGroups b (engines.map (groupOf specs)) =
        if b.engine ∈ engines then engines.map (groupOf (specs ++ [b]))
        else engines.map (groupOf specs) ++ [(b.engine, [b])]
  | [], _ => rfl
  | engine :: rest, distinct => by
    obtain ⟨apart, distinct⟩ := List.nodup_cons.1 distinct
    by_cases own : engine = b.engine
    · subst own
      have others : rest.map (groupOf (specs ++ [b])) = rest.map (groupOf specs) := by
        refine List.map_congr_left fun other among => groupOf_other specs fun same => ?_
        exact apart (same ▸ among)
      rw [if_pos List.mem_cons_self, List.map_cons, List.map_cons, groupOf_own, others]
      exact if_pos rfl
    · have step : addToGroups b ((engine :: rest).map (groupOf specs)) =
          groupOf specs engine :: addToGroups b (rest.map (groupOf specs)) := if_neg own
      rw [step, addToGroups_groupOf specs b distinct, List.map_cons, groupOf_other specs own]
      by_cases there : b.engine ∈ rest
      · rw [if_pos there, if_pos (List.mem_cons_of_mem _ there)]
      · rw [if_neg there, if_neg (by simp [there, Ne.symm own])]
        rfl

theorem foldl_addToGroups (rest : List BuildSpec) : ∀ before : List BuildSpec,
    rest.foldl (fun groups b => addToGroups b groups)
        ((before.map BuildSpec.engine).eraseDups.map (groupOf before)) =
      ((before ++ rest).map BuildSpec.engine).eraseDups.map (groupOf (before ++ rest)) := by
  induction rest with
  | nil => intro before; rw [List.append_nil]; rfl
  | cons b rest ih =>
    intro before
    have joined : addToGroups b ((before.map BuildSpec.engine).eraseDups.map (groupOf before)) =
        ((before ++ [b]).map BuildSpec.engine).eraseDups.map (groupOf (before ++ [b])) := by
      rw [addToGroups_groupOf before b (nodup_eraseDups _), List.map_append, List.map_singleton,
        eraseDups_concat]
      simp only [List.mem_eraseDups]
      by_cases there : b.engine ∈ before.map BuildSpec.engine
      · rw [if_pos there, if_pos there]
      · have first : before.filter (·.engine = b.engine) = [] := by
          refine List.filter_eq_nil_iff.2 fun other among same => there ?_
          exact List.mem_map.2 ⟨other, among, of_decide_eq_true same⟩
        have others : (before.map BuildSpec.engine).eraseDups.map (groupOf (before ++ [b])) =
            (before.map BuildSpec.engine).eraseDups.map (groupOf before) := by
          refine List.map_congr_left fun other among => groupOf_other before fun same => there ?_
          exact same ▸ List.mem_eraseDups.1 among
        rw [if_neg there, if_neg there, List.map_append, List.map_singleton, others, groupOf_own,
          groupOf, first]
        rfl
    rw [List.foldl_cons, joined, ih, List.append_assoc]
    rfl

/-- There is one group for each engine, in the order in which engines first appear, and in it are
the specifications of that engine, in their order. -/
theorem groupByEngine_eq (specs : List BuildSpec) :
    groupByEngine specs = (specs.map BuildSpec.engine).eraseDups.map (groupOf specs) :=
  foldl_addToGroups specs []

theorem flatMap_groupOf (specs : List BuildSpec) :
    ∀ {engines : List EngineReference}, engines.Nodup →
      ((engines.map (groupOf specs)).flatMap Prod.snd).Perm
        (specs.filter (·.engine ∈ engines))
  | [], _ => by simp
  | engine :: rest, distinct => by
    obtain ⟨apart, distinct⟩ := List.nodup_cons.1 distinct
    have own : (specs.filter (·.engine ∈ engine :: rest)).filter (·.engine = engine) =
        specs.filter (·.engine = engine) := by
      rw [List.filter_filter]
      refine List.filter_congr fun b _ => ?_
      by_cases h : b.engine = engine <;> simp [h]
    have others : (specs.filter (·.engine ∈ engine :: rest)).filter
          (fun b => !decide (b.engine = engine)) =
        specs.filter (·.engine ∈ rest) := by
      rw [List.filter_filter]
      refine List.filter_congr fun b _ => ?_
      by_cases h : b.engine = engine <;> simp [h, apart]
    have split := List.filter_append_perm (fun b : BuildSpec => decide (b.engine = engine))
      (specs.filter (·.engine ∈ engine :: rest))
    rw [own, others] at split
    exact ((flatMap_groupOf specs distinct).append_left _).trans split

/-- Grouping loses no specification and doubles none. -/
theorem groupByEngine_perm (specs : List BuildSpec) :
    ((groupByEngine specs).flatMap Prod.snd).Perm specs := by
  rw [groupByEngine_eq]
  refine (flatMap_groupOf specs (nodup_eraseDups _)).trans (.of_eq ?_)
  refine List.filter_eq_self.2 fun b among => ?_
  simpa using ⟨b, among, rfl⟩

/-- Specifications in groups: one group for each engine, in the order in which engines first
appear, and in it the specifications of that engine in their order. -/
structure GroupedByEngine (specs : List BuildSpec)
    (groups : List (EngineReference × List BuildSpec)) : Prop where
  engines : groups.map Prod.fst = (specs.map BuildSpec.engine).eraseDups
  distinct : (groups.map Prod.fst).Nodup
  members : ∀ group ∈ groups, group.2 = specs.filter (·.engine = group.1)
  perm : (groups.flatMap Prod.snd).Perm specs

theorem groupByEngine_grouped (specs : List BuildSpec) :
    GroupedByEngine specs (groupByEngine specs) := by
  have engines : (groupByEngine specs).map Prod.fst = (specs.map BuildSpec.engine).eraseDups := by
    rw [groupByEngine_eq, List.map_map]
    exact List.map_id _
  refine ⟨engines, engines ▸ nodup_eraseDups _, fun group among => ?_, groupByEngine_perm specs⟩
  rw [groupByEngine_eq] at among
  obtain ⟨engine, _, rfl⟩ := List.mem_map.1 among
  rfl

theorem groupByEngine_members_ne_nil (specs : List BuildSpec) :
    ∀ group ∈ groupByEngine specs, group.2 ≠ [] := by
  intro group among
  rw [groupByEngine_eq] at among
  obtain ⟨engine, appears, rfl⟩ := List.mem_map.1 among
  obtain ⟨b, listed, own⟩ := List.mem_map.1 (List.mem_eraseDups.1 appears)
  exact List.ne_nil_of_mem (List.mem_filter.2 ⟨listed, decide_eq_true own⟩)

/-! ### Building groups -/

theorem AliasRegistry.ne_nil_of_lookup {r : AliasRegistry} {name : String} {role : EngineRole}
    {chain : List ChainEntry} (h : r.lookup name role = .ok chain) : chain ≠ [] := by
  unfold lookup at h
  split at h
  · cases h
  · next d _ =>
    split at h
    · cases h
    · split at h
      · cases h
      · next someEntry =>
        split at h
        · cases h
        · cases h
          simpa using someEntry

namespace BuildCoordinator

/-- What an engine reference stands for: the name of an alias for the chain of builders in the
table, or for the table's refusal, and the reference to a package for that engine alone. -/
inductive StandsFor (bc : BuildCoordinator) :
    EngineReference → Except OrchestratorError (List ChainEntry) → Prop
  | listed {name : String} {chain : List ChainEntry}
      (found : bc.aliases.lookup name .builder = .ok chain) :
      StandsFor bc (.chain name) (.ok chain)
  | refused {name : String} {err : ResolveError}
      (refusal : bc.aliases.lookup name .builder = .error err) :
      StandsFor bc (.chain name) (.error (.ofResolve err))
  | engine (toolchain : Toolchain) (path : String) (version : Option String) :
      StandsFor bc (.package toolchain path version) (.ok [⟨.package toolchain path version, none⟩])

theorem builders_eq_iff {bc : BuildCoordinator} {engine : EngineReference}
    {answer : Except OrchestratorError (List ChainEntry)} :
    bc.builders engine = answer ↔ bc.StandsFor engine answer := by
  constructor
  · rintro rfl
    cases engine with
    | package toolchain path version => exact .engine toolchain path version
    | chain name =>
      rw [builders]
      cases looked : bc.aliases.lookup name .builder with
      | ok chain => exact .listed looked
      | error err => exact .refused looked
  · intro stands
    cases stands with
    | listed found => rw [builders, found]; rfl
    | refused refusal => rw [builders, refusal]; rfl
    | engine => rfl

/-- What an engine reference stands for has a builder. -/
theorem StandsFor.ne_nil {bc : BuildCoordinator} {engine : EngineReference}
    {chain : List ChainEntry} (h : bc.StandsFor engine (.ok chain)) : chain ≠ [] := by
  cases h with
  | listed found => exact AliasRegistry.ne_nil_of_lookup found
  | engine => exact List.cons_ne_nil _ _

/-- Groups built one after the other, each with the builders that its engine stands for: the turns
of all builders, and either the artifacts of every group, in order, or the first failure. -/
inductive Builds (bc : BuildCoordinator) (sv : Services σ) :
    List (EngineReference × List BuildSpec) → World σ → List BuilderTurn →
      Except OrchestratorError (List (List Artifact)) → World σ → Prop
  | done (w : World σ) : Builds bc sv [] w [] (.ok []) w
  | unresolved {engine : EngineReference} {specs : List BuildSpec}
      {rest : List (EngineReference × List BuildSpec)} {err : OrchestratorError} (w : World σ)
      (stands : bc.StandsFor engine (.error err)) :
      Builds bc sv ((engine, specs) :: rest) w [] (.error err) w
  | failed {engine : EngineReference} {specs : List BuildSpec}
      {rest : List (EngineReference × List BuildSpec)} {chain : List ChainEntry}
      {turns : List BuilderTurn} {err : OrchestratorError} {w w' : World σ}
      (stands : bc.StandsFor engine (.ok chain)) (taken : sv.Turns w turns w')
      (calls : turns.map BuilderTurn.call =
        (chain.take turns.length).map (buildRequest specs bc.dirs))
      (ends : BuildersEnd 0 chain (turns.map BuilderTurn.outcome) (.error err)) :
      Builds bc sv ((engine, specs) :: rest) w turns (.error err) w'
  | built {engine : EngineReference} {specs : List BuildSpec}
      {rest : List (EngineReference × List BuildSpec)} {chain : List ChainEntry}
      {turns more : List BuilderTurn} {produced : List Artifact}
      {others : Except OrchestratorError (List (List Artifact))} {w w₁ w' : World σ}
      (stands : bc.StandsFor engine (.ok chain)) (taken : sv.Turns w turns w₁)
      (calls : turns.map BuilderTurn.call =
        (chain.take turns.length).map (buildRequest specs bc.dirs))
      (ends : BuildersEnd 0 chain (turns.map BuilderTurn.outcome) (.ok produced))
      (following : Builds bc sv rest w₁ more others w') :
      Builds bc sv ((engine, specs) :: rest) w (turns ++ more) (others.map (produced :: ·)) w'

/-- Groups that have members are built one after the other. -/
theorem buildGroups_builds (sv : Services σ) (bc : BuildCoordinator)
    (groups : List (EngineReference × List BuildSpec)) : (∀ group ∈ groups, group.2 ≠ []) →
      ∀ w : World σ, ∃ turns made w', bc.Builds sv groups w turns made w' ∧
        bc.buildGroups sv groups w = (made.map List.flatten, w') := by
  induction groups with
  | nil => exact fun _ w => ⟨[], _, w, .done w, rfl⟩
  | cons group rest ih =>
    intro members w
    obtain ⟨engine, specs⟩ := group
    cases answer : bc.builders engine with
    | error err =>
      exact ⟨[], _, w, .unresolved w (builders_eq_iff.1 answer),
        by simp only [buildGroups, answer]; rfl⟩
    | ok chain =>
      have stands := builders_eq_iff.1 answer
      obtain ⟨turns, w₁, result, taken, calls, ends, run⟩ :=
        runBuilders_turns sv specs bc.dirs chain 0 w
      rw [← orchestrate_eq sv bc.dirs w stands.ne_nil
        (members (engine, specs) List.mem_cons_self)] at run
      cases result with
      | error err =>
        refine ⟨turns, _, w₁, .failed stands taken calls ends, ?_⟩
        simp only [buildGroups, answer, run]
        rfl
      | ok produced =>
        obtain ⟨more, others, w', following, rest_run⟩ :=
          ih (fun g among => members g (List.mem_cons_of_mem _ among)) w₁
        refine ⟨turns ++ more, _, w', .built stands taken calls ends following, ?_⟩
        simp only [buildGroups, answer, run, rest_run]
        cases others <;> rfl

variable {bc : BuildCoordinator} {sv : Services σ} {v : StoreView σ κ} {w w' : World σ}
  {groups : List (EngineReference × List BuildSpec)} {turns : List BuilderTurn}
  {made : Except OrchestratorError (List (List Artifact))}

/-- The turns of all groups are turns taken one after the other. -/
theorem Builds.toTurns (h : bc.Builds sv groups w turns made w') : sv.Turns w turns w' := by
  induction h with
  | done w => exact .nil w
  | unresolved w _ => exact .nil w
  | failed _ taken _ _ => exact taken
  | built _ taken _ _ _ ih => exact taken.append ih

/-! ### The store -/

/-- What a build comes to: the artifacts of all groups are put on record, in one operation, and
handed on when that is done; a failure is handed on as it is. -/
def conclude (sv : Services σ) (made : Except OrchestratorError (List (List Artifact)))
    (w : World σ) : Except OrchestratorError (List Artifact) × World σ :=
  match made with
  | .error err => (.error err, w)
  | .ok made => ((sv.perform (.append made.flatten) w).1.map fun _ => made.flatten,
      (sv.perform (.append made.flatten) w).2)

/-- What is built comes behind what was on record, and is there whenever the records are read; or
nothing is built, and the store is as it was. -/
def AllOrNothing (v : StoreView σ κ) (w : World σ) :
    Except OrchestratorError (List Artifact) × World σ → Prop
  | (.error _, w') => v.kept w' = v.kept w
  | (.ok list, w') => ∃ t d d', v.decode t (v.kept w) = .ok d ∧
      d' = { d with artifacts := d.artifacts ++ list, lastUpdated := t } ∧
      v.kept w' = v.encode d' (v.kept w) ∧ ∀ t', v.decode t' (v.kept w') = .ok d'

theorem conclude_allOrNothing (hp : sv.Promises v) (hr : v.Recalls)
    (made : Except OrchestratorError (List (List Artifact))) (w : World σ) :
    AllOrNothing v w (conclude sv made w) := by
  cases made with
  | error err => exact rfl
  | ok made =>
    rw [conclude]
    cases recorded : sv.perform (.append made.flatten) w with | mk answer w'
    cases answer with
    | error err => exact hp.kept_of_failed recorded
    | ok =>
      obtain ⟨d, read, written⟩ := hp.append_done (Services.perform_ok recorded)
      refine ⟨_, d, _, read, rfl, written, fun t' => ?_⟩
      rw [written]
      exact hr read rfl

theorem AllOrNothing.of_kept_eq {w₁ : World σ} (same : v.kept w₁ = v.kept w)
    {r : Except OrchestratorError (List Artifact) × World σ} (h : AllOrNothing v w₁ r) :
    AllOrNothing v w r := by
  obtain ⟨result, w'⟩ := r
  cases result with
  | error err => exact Eq.trans h same
  | ok list =>
    simp only [AllOrNothing, same] at h
    exact h

/-! ### The whole -/

theorem build_of_unselected (sv : Services σ) {only : Option String} {err : OrchestratorError}
    (h : bc.select only = .error err) (w : World σ) : bc.build sv only w = (.error err, w) := by
  simp only [build, h]

theorem build_of_selected {only : Option String} {specs : List BuildSpec}
    (h : bc.select only = .ok specs) {w₁ : World σ}
    (run : bc.buildGroups sv (groupByEngine specs) w = (made.map List.flatten, w₁)) :
    bc.build sv only w = conclude sv made w₁ := by
  simp only [build, h, run]
  cases made with
  | error err => rfl
  | ok made =>
    simp only [Except.map, conclude]
    cases sv.perform (.append made.flatten) w₁ with | mk answer w'
    cases answer <;> rfl

/-- What was selected is built group by group, and concluded once. -/
theorem build_concludes (sv : Services σ) {only : Option String} {specs : List BuildSpec}
    (selected : bc.select only = .ok specs) (w : World σ) :
    ∃ turns made w₁, bc.Builds sv (groupByEngine specs) w turns made w₁ ∧
      bc.build sv only w = conclude sv made w₁ := by
  obtain ⟨turns, made, w₁, built, run⟩ :=
    buildGroups_builds sv bc (groupByEngine specs) (groupByEngine_members_ne_nil specs) w
  exact ⟨turns, made, w₁, built, build_of_selected selected run⟩

/-- The specifications that are asked for are grouped by their engines, and the groups are built
one after the other.  When all have been built, their artifacts are put on record in one operation,
and handed on; otherwise nothing is put on record.  So, with engines that leave the store alone,
either all artifacts are on record at the end or none, whatever it is that fails. -/
theorem build_allOrNothing (hp : sv.Promises v) (hr : v.Recalls) (bc : BuildCoordinator)
    (only : Option String) (w : World σ) :
    (match bc.select only with
      | .error err => bc.build sv only w = (.error err, w)
      | .ok specs => GroupedByEngine specs (groupByEngine specs) ∧
        ∃ turns made w₁, bc.Builds sv (groupByEngine specs) w turns made w₁ ∧
          (sv.Quiet → w₁.calls = w.calls ++ turns.map BuilderTurn.call) ∧
          bc.build sv only w = conclude sv made w₁) ∧
      (v.Untouched sv → AllOrNothing v w (bc.build sv only w)) := by
  cases selected : bc.select only with
  | error err =>
    have unbuilt := build_of_unselected sv selected w
    exact ⟨unbuilt, fun _ => unbuilt ▸ rfl⟩
  | ok specs =>
    obtain ⟨turns, made, w₁, built, whole⟩ := build_concludes sv selected w
    refine ⟨⟨groupByEngine_grouped specs, turns, made, w₁, built,
      fun hq => (built.toTurns.trail hq).calls, whole⟩, fun alone => ?_⟩
    rw [whole]
    exact (conclude_allOrNothing hp hr made w₁).of_kept_eq (built.toTurns.kept alone)

/-- Two specifications for a chain of builders, and one for an engine between them. -/
def mixed : BuildCoordinator where
  specs := [.sample,
    { BuildSpec.sample with name := "image", engine := .package .go "container" none },
    { BuildSpec.sample with name := "worker" }]
  aliases := .ofDefinitions [.ofChain "release" .builder ChainEntry.pair]
  dirs := ⟨"/repo", "/repo/build", "/tmp/stagehand"⟩

/-- Three builders produce, the last one for the specification in between. -/
theorem build_allOrNothing_mixed :
    let artifact (name : String) : Json :=
      .obj [("name", .str name), ("type", .str "binary"), ("location", .str name)]
    let w := World.opening (fun _ => 0) [] [
      .ok ⟨[], some (.arr [artifact "api", artifact "worker"]), false⟩,
      .ok ⟨[], some (.obj [("artifacts", .arr [])]), false⟩,
      .ok ⟨[], some (artifact "image"), false⟩]
    ((groupByEngine mixed.specs).map fun group => group.2.map BuildSpec.name) =
      [["api", "worker"], ["image"]] ∧
    ∃ list, (mixed.build .scripted none w).1 = .ok list ∧
      list.map Artifact.name = ["api", "worker", "image"] ∧
      (mixed.build .scripted none w).2.state.1.document.artifacts = list ∧
      (mixed.build .scripted none w).2.state.1.writes = 1 := by
  intro artifact w
  have names : (mixed.build .scripted none w).1.toOption.map (·.map Artifact.name) =
      some ["api", "worker", "image"] := by decide +kernel
  obtain ⟨-, recorded⟩ :=
    build_allOrNothing Services.scripted_keeps.promises StoreView.inMemory_recalls mixed none w
  have recorded := recorded Services.scripted_keeps.engine
  refine ⟨by decide +kernel, ?_⟩
  cases run : mixed.build .scripted none w with | mk result w'
  rw [run] at names recorded
  cases result with
  | error err => cases names
  | ok list =>
    obtain ⟨t, d, _, read, rfl, written, _⟩ := recorded
    obtain rfl : w.state.1.document = d := Except.ok.inj read
    have after : w'.state.1 = StoreView.inMemory.encode _ w.state.1 := written
    refine ⟨list, rfl, Option.some.inj names, ?_, ?_⟩ <;> rw [after] <;> rfl

end BuildCoordinator

end Orchestration
