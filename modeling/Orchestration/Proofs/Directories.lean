import Orchestration.Proofs.Deletion
import Orchestration.Proofs.ProjectBuilds
import Orchestration.Proofs.Resolution
import Orchestration.Proofs.Rollback

/-!
# Directories mean the same to a project and its engines

An engine of the repository is started in the repository's root, which need not be the working
directory of the project.  A directory that it is told of has to mean the same from both places,
and it does if its text starts at the root of the file system:

* `SamePlace` — a path that leads to one place from two directories;
* `EngineCall.StartsAt`, `StartsAt.cases` — where the engine of a call is started;
* `ToldDirectory`, `EngineCall.Tells` — the directories that a call tells its engine of;
* `create_tells`, `build_tells` — which those are when environments are created and when builds
  are run;
* `ToldDirectory.Anchored`, `anchored_absolute` — when a configuration names them from the root;
* `told_samePlace` — such a directory means the same to both;
* `default_file_misleads` — the other directories need not.
-/

namespace Orchestration

/-! ### Places -/

/-- A path leads to the same place from two directories, whatever lies on the disk. -/
def SamePlace (here there : Place) (path : String) : Prop :=
  ∀ d : Disk, d.locate here path = d.locate there path

theorem SamePlace.refl (here : Place) (path : String) : SamePlace here here path := fun _ => rfl

theorem samePlace_of_absolute {path : String} (h : isAbsolutePath path = true)
    (here there : Place) : SamePlace here there path := fun d => by
  simp only [Disk.locate, Disk.startOf, h, if_true]

/-! ### Where engines start -/

namespace Surroundings

variable {s : Surroundings} {launch : LaunchCommand} {place : Place}

/-- A started program works in the directory of its command. -/
theorem spawn_startPlace {patience : Nat} {m : Shell.Machine}
    (h : s.spawn launch patience = .ok m) : s.startPlace launch = .ok m.job.directory := by
  unfold spawn at h
  dsimp only at h
  split at h
  · cases h
  · obtain ⟨place, starts, h⟩ := bind_eq_ok.1 h
    obtain ⟨program, _, h⟩ := bind_eq_ok.1 h
    obtain ⟨_, _, h⟩ := bind_eq_ok.1 h
    cases h
    exact starts

theorem startPlace_cases (h : s.startPlace launch = .ok place) :
    (launch.dir = none ∧ place = s.cwd) ∨
      ∃ dir, launch.dir = some dir ∧ s.disk.locate s.cwd dir = .ok place := by
  unfold startPlace at h
  split at h
  · next unplaced =>
    cases h
    exact .inl ⟨unplaced, rfl⟩
  · next dir placed =>
    refine .inr ⟨dir, placed, ?_⟩
    split at h
    · cases h
    · next found =>
      split at h
      · cases h
        exact found
      · cases h
      · cases h

end Surroundings

/-- The engine of a call is started at a place by somebody who works in a directory: a resolver
gives its command, and that command is started as a server. -/
def EngineCall.StartsAt (call : EngineCall) (cwd : Place) (r : Resolver) (place : Place) : Prop :=
  ∃ (s : Surroundings) (launch : LaunchCommand) (patience : Nat) (m : Shell.Machine),
    s.cwd = cwd ∧ (r.resolve call.engine s.disk cwd).1 = .ok launch ∧
      s.spawn (launch.withArgs [serverFlag]) patience = .ok m ∧ m.job.directory = place

/-- An engine is started in the working directory or where the root of the repository leads. -/
theorem EngineCall.StartsAt.cases {call : EngineCall} {cwd place : Place} {r : Resolver}
    (h : call.StartsAt cwd r place) :
    place = cwd ∨ ∃ root d, r.root = some root ∧ Disk.locate d cwd root = .ok place := by
  obtain ⟨s, launch, patience, m, rfl, resolved, spawned, rfl⟩ := h
  rcases Surroundings.startPlace_cases (Surroundings.spawn_startPlace spawned) with
    ⟨_, here⟩ | ⟨dir, placed, found⟩
  · exact .inl here
  · rcases Resolver.resolve_startsIn resolved with unplaced | ⟨root, hr, placed'⟩
    · cases unplaced.symm.trans placed
    · obtain rfl : root = dir := Option.some.inj (placed'.symm.trans placed)
      exact .inr ⟨root, s.disk, hr, found⟩

/-! ### Directories in calls -/

/-- The directories that engines are told of. -/
inductive ToldDirectory where
  | root
  | build
  | tmp

/-- The name under which an engine is told of a directory. -/
def ToldDirectory.key : ToldDirectory → String
  | .root => "rootDir"
  | .build => "buildDir"
  | .tmp => "tmpDir"

/-- The directories that every builder is told, by their kind. -/
def SharedDirs.text (dirs : SharedDirs) : ToldDirectory → String
  | .root => dirs.rootDir
  | .build => dirs.buildDir
  | .tmp => dirs.tmpDir

namespace EngineCall

/-- What a call describes to its engine: its arguments, and in a batch every item. -/
def documents (c : EngineCall) : List Document :=
  c.arguments :: match c.arguments.find? "specs" with
    | some (.arr items) => items.filterMap Document.ofJson?
    | _ => []

/-- A call tells its engine of a directory. -/
def Tells (c : EngineCall) (dir : ToldDirectory) (text : String) : Prop :=
  ∃ doc ∈ c.documents, Document.str? doc dir.key = some text

theorem documents_of_single {c : EngineCall} (h : c.arguments.find? "specs" = none) :
    c.documents = [c.arguments] := by
  simp only [documents, h]

end EngineCall

/-! ### Creating -/

namespace StageOrchestrator

variable {σ : Type} {sv : Services σ}

/-- The names under which the engines of a setup are told anything. -/
theorem setupPlan_keys {setup : Setup} {e : TestEnvironment} {replies : List ToolResult}
    {c : EngineCall} (hc : c ∈ setupPlan setup e replies) {key : String}
    (h : c.arguments.find? key ≠ none) :
    key ∈ ["testID", "stage", "tmpDir", "metadata", "spec"] := by
  cases setup with
  | bare => exact absurd hc List.not_mem_nil
  | chain entries =>
    obtain ⟨metadata, entry, rfl⟩ := mem_createPlan hc
    rw [createCall, createArguments_eq] at h
    cases spec : entry.spec <;>
      simp [spec, told, KeyMap.ofList] at h <;> grind
  | direct engine =>
    rw [List.mem_singleton.1 hc] at h
    unfold directCreateArguments at h
    cases light : isLightweight engine <;>
      simp [light, arguments, KeyMap.ofList] at h <;> grind

/-- Creating an environment, engines are told of its directory and of no other. -/
theorem create_tells (hq : sv.Quiet) (o : StageOrchestrator) (stage : String) (w : World σ) :
    ∃ said, (o.create sv stage w).2.calls = w.calls ++ said ∧
      ∀ c ∈ said, ∀ dir text, c.Tells dir text →
        dir = .tmp ∧ ∃ id, text = joinPath o.tmpRoot id := by
  obtain ⟨said, made⟩ := create_calls hq o stage w
  refine ⟨said, made.log, fun c hc dir text tells => ?_⟩
  rcases made.plan with ⟨rfl, _⟩ | ⟨setup, id, now, replies, _, _, rfl, _⟩
  · exact absurd hc List.not_mem_nil
  · have alone : c.documents = [c.arguments] := by
      refine EngineCall.documents_of_single (Classical.byContradiction fun batch => ?_)
      exact absurd (setupPlan_keys hc batch) (by decide)
    obtain ⟨doc, mem, given⟩ := tells
    rw [alone] at mem
    obtain rfl : doc = c.arguments := List.mem_singleton.1 mem
    have bound : c.arguments.find? dir.key ≠ none := fun unbound => by
      rw [Document.str?, unbound] at given
      cases given
    cases dir with
    | root => exact absurd (setupPlan_keys hc bound) (by decide)
    | build => exact absurd (setupPlan_keys hc bound) (by decide)
    | tmp => exact ⟨rfl, id, setupPlan_tmpDir hc given⟩

end StageOrchestrator

/-! ### Building -/

theorem BuildSpec.str?_prepare (b : BuildSpec) (builder : ChainEntry) (dirs : SharedDirs)
    (dir : ToldDirectory) :
    Document.str? (b.prepare builder dirs) dir.key = some (dirs.text dir) := by
  have conveyed := b.prepare_conveys builder dirs
  cases dir with
  | root => rw [Document.str?, ToldDirectory.key, conveyed.rootDir]; rfl
  | build => rw [Document.str?, ToldDirectory.key, conveyed.buildDir]; rfl
  | tmp => rw [Document.str?, ToldDirectory.key, conveyed.tmpDir]; rfl

/-- A builder is told of the shared directories, once for every specification. -/
theorem buildRequest_tells {specs : List BuildSpec} {dirs : SharedDirs} {builder : ChainEntry}
    {dir : ToldDirectory} {text : String} (h : (buildRequest specs dirs builder).Tells dir text) :
    text = dirs.text dir := by
  obtain ⟨doc, mem, given⟩ := h
  unfold buildRequest at mem
  split at mem
  · next one =>
    have alone : (one.prepare builder dirs).find? "specs" = none := by
      refine Classical.byContradiction fun batch => ?_
      exact absurd ((one.prepare_conveys builder dirs).nothingElse "specs" batch) (by decide)
    rw [EngineCall.documents_of_single alone] at mem
    rw [List.mem_singleton.1 mem, one.str?_prepare] at given
    exact (Option.some.inj given).symm
  · rcases List.mem_cons.1 mem with rfl | item
    · cases dir <;> simp [told, KeyMap.ofList, Document.str?, ToldDirectory.key] at given
    · have batch : (told [("specs", some (.arr (specs.map fun b =>
          (b.prepare builder dirs).toJson)))]).find? "specs" =
            some (.arr (specs.map fun b => (b.prepare builder dirs).toJson)) := by
        simp [told, KeyMap.ofList]
      rw [batch] at item
      obtain ⟨b, _, rfl⟩ : ∃ b ∈ specs, b.prepare builder dirs = doc := by
        simpa using item
      rw [b.str?_prepare] at given
      exact (Option.some.inj given).symm

namespace BuildCoordinator

variable {σ : Type} {sv : Services σ} {bc : BuildCoordinator} {w w' : World σ}
  {groups : List (EngineReference × List BuildSpec)} {turns : List BuilderTurn}
  {made : Except OrchestratorError (List (List Artifact))}

theorem Builds.requests (h : bc.Builds sv groups w turns made w') :
    ∀ c ∈ turns.map BuilderTurn.call, ∃ specs builder, c = buildRequest specs bc.dirs builder := by
  have asked : ∀ {specs : List BuildSpec} {chain : List ChainEntry} {turns : List BuilderTurn},
      turns.map BuilderTurn.call = (chain.take turns.length).map (buildRequest specs bc.dirs) →
      ∀ c ∈ turns.map BuilderTurn.call,
        ∃ specs builder, c = buildRequest specs bc.dirs builder := by
    intro specs chain turns calls c hc
    obtain ⟨builder, _, rfl⟩ := List.mem_map.1 (calls ▸ hc)
    exact ⟨specs, builder, rfl⟩
  induction h with
  | done => exact fun c hc => absurd hc List.not_mem_nil
  | unresolved => exact fun c hc => absurd hc List.not_mem_nil
  | failed _ _ calls _ => exact asked calls
  | built _ _ calls _ _ ih =>
    intro c hc
    rw [List.map_append] at hc
    rcases List.mem_append.1 hc with here | later
    · exact asked calls c here
    · exact ih c later

theorem conclude_trail (hq : sv.Quiet) (made : Except OrchestratorError (List (List Artifact)))
    (w : World σ) : w.Trail [] (conclude sv made w).2 := by
  cases made with
  | error err => exact .refl w
  | ok made => exact hq.perform (.append made.flatten) w

/-- Building, engines are told of the shared directories and of no others. -/
theorem build_tells (hq : sv.Quiet) (bc : BuildCoordinator) (only : Option String)
    (w : World σ) :
    ∃ said, (bc.build sv only w).2.calls = w.calls ++ said ∧
      ∀ c ∈ said, ∀ dir text, c.Tells dir text → text = bc.dirs.text dir := by
  cases selected : bc.select only with
  | error err =>
    refine ⟨[], ?_, fun c hc => absurd hc List.not_mem_nil⟩
    rw [build_of_unselected sv selected w, List.append_nil]
  | ok specs =>
    obtain ⟨turns, made, w₁, built, run⟩ :=
      buildGroups_builds sv bc (groupByEngine specs) (groupByEngine_members_ne_nil specs) w
    have trail := (built.toTurns.trail hq).after (conclude_trail hq made w₁)
    refine ⟨turns.map BuilderTurn.call, ?_, fun c hc dir text tells => ?_⟩
    · rw [build_of_selected selected run]
      exact trail.calls
    · obtain ⟨specs, builder, rfl⟩ := built.requests c hc
      exact buildRequest_tells tells

end BuildCoordinator

/-! ### Directories from the root -/

/-- A directory has a path from the root, for the configuration in a file: it is configured so,
or it is seen from the directory of a file that was named so. -/
def ToldDirectory.Anchored (systemTmp path : String) (c : ProjectConfig) : ToldDirectory → Prop
  | .root => isAbsolutePath path = true
  | .build => isAbsolutePath c.buildDir = true ∨ isAbsolutePath path = true
  | .tmp => c.Anchored systemTmp path

namespace ProjectConfig

variable {d : Disk} {cwd : Place} {path systemTmp : String} {c : ProjectConfig}

theorem rootDir_absolute (loaded : load d cwd path = .ok c) (h : isAbsolutePath path = true) :
    isAbsolutePath c.rootDir = true := by
  obtain ⟨root, content, read⟩ := load_ok loaded
  rw [root]
  exact configDir_rooted read h

theorem anchored_absolute (loaded : load d cwd path = .ok c) {dir : ToldDirectory}
    (h : dir.Anchored systemTmp path c) :
    isAbsolutePath ((SharedDirs.ofConfig systemTmp c).text dir) = true := by
  cases dir with
  | root => exact rootDir_absolute loaded h
  | tmp => exact tmpPath_absolute loaded h
  | build =>
    show isAbsolutePath (c.resolvePath c.buildDir) = true
    unfold resolvePath
    split
    · next absolute => exact absolute
    · next relative =>
      rcases h with absolute | absolute
      · exact absurd absolute relative
      · exact joinPath_rooted c.buildDir (rootDir_absolute loaded absolute)

end ProjectConfig

/-! ### The whole -/

/-- What a project does with its engines. -/
inductive ProjectWork where
  | create (stage : String)
  | build (only : Option String)

/-- The world after some work on a configured project, with its own services. -/
def ProjectConfig.workOn (c : ProjectConfig) (systemTmp : String) (vars : KeyMap String)
    (w : World Resolver) : ProjectWork → World Resolver
  | .create stage =>
    ((StageOrchestrator.ofConfig systemTmp c).create (c.services vars) stage w).2
  | .build only => ((BuildCoordinator.ofConfig systemTmp c).build (c.services vars) only w).2

theorem ProjectConfig.workOn_tells {d : Disk} {cwd : Place} {path systemTmp : String}
    {c : ProjectConfig} (loaded : load d cwd path = .ok c) (vars : KeyMap String)
    (w : World Resolver) (work : ProjectWork) :
    ∃ said, (c.workOn systemTmp vars w work).calls = w.calls ++ said ∧
      ∀ call ∈ said, ∀ dir text, call.Tells dir text → dir.Anchored systemTmp path c →
        isAbsolutePath text = true := by
  cases work with
  | create stage =>
    obtain ⟨said, log, tells⟩ :=
      StageOrchestrator.create_tells (c.services_quiet vars) (.ofConfig systemTmp c) stage w
    refine ⟨said, log, fun call hc dir text told anchored => ?_⟩
    obtain ⟨rfl, id, rfl⟩ := tells call hc dir text told
    exact joinPath_rooted id (tmpPath_absolute loaded anchored)
  | build only =>
    obtain ⟨said, log, tells⟩ :=
      BuildCoordinator.build_tells (c.services_quiet vars) (.ofConfig systemTmp c) only w
    refine ⟨said, log, fun call hc dir text told anchored => ?_⟩
    rw [tells call hc dir text told]
    exact anchored_absolute loaded anchored

/-- Wherever the engine of a call is started, a directory that the call tells it of means the same
there as in the project's working directory, if the configuration names it from the root of the
file system.  Any other directory means the same to engines that are started in the working
directory; the rest are started in the root of the repository. -/
theorem told_samePlace {d : Disk} {cwd : Place} {path systemTmp : String} {c : ProjectConfig}
    (loaded : ProjectConfig.load d cwd path = .ok c) (vars : KeyMap String) (w : World Resolver)
    (work : ProjectWork) :
    ∃ said, (c.workOn systemTmp vars w work).calls = w.calls ++ said ∧
      ∀ call ∈ said, ∀ r place, call.StartsAt w.cwd r place →
        (place = w.cwd ∨
          ∃ root d, r.root = some root ∧ Disk.locate d w.cwd root = .ok place) ∧
        ∀ dir text, call.Tells dir text →
          (place = w.cwd ∨ dir.Anchored systemTmp path c) → SamePlace place w.cwd text := by
  obtain ⟨said, log, absolute⟩ := ProjectConfig.workOn_tells loaded vars w work
  refine ⟨said, log, fun call hc r place starts => ⟨starts.cases, ?_⟩⟩
  intro dir text told safe
  rcases safe with rfl | anchored
  · exact .refl w.cwd text
  · exact samePlace_of_absolute (absolute call hc dir text told anchored) place w.cwd

/-- The engine of a call of some work is started at a place and told of a directory, for a project
that reads its configuration from a path. -/
def ToldAt (w : World Resolver) (vars : KeyMap String) (path : String) (work : ProjectWork)
    (dir : ToldDirectory) (place : Place) (text : String) : Prop :=
  ∃ c call, ProjectConfig.load w.disk w.cwd path = .ok c ∧
    call ∈ (c.workOn "/tmp" vars w work).calls ∧ call.StartsAt w.cwd w.state place ∧
    call.Tells dir text

/-- What a directory that the first call of some work tells of means where the engine of that call
is started, and what it means to the project. -/
def meanings (w : World Resolver) (vars : KeyMap String) (path : String) (work : ProjectWork)
    (dir : ToldDirectory) : Option (Place × Option Place × Option Place) := do
  let c ← (ProjectConfig.load w.disk w.cwd path).toOption
  let call ← (c.workOn "/tmp" vars w work).calls.head?
  let text ← Document.str? call.arguments dir.key
  let launch ← (w.state.resolve call.engine w.disk w.cwd).1.toOption
  let m ← (Surroundings.spawn ⟨vars, w.cwd, w.disk⟩ (launch.withArgs [serverFlag]) 0).toOption
  return (m.job.directory, (w.disk.locate m.job.directory text).toOption,
    (w.disk.locate w.cwd text).toOption)

theorem meanings_eq_some {w : World Resolver} {vars : KeyMap String} {path : String}
    {work : ProjectWork} {dir : ToldDirectory} {place : Place} {there here : Option Place}
    (h : meanings w vars path work dir = some (place, there, here)) :
    ∃ text, ToldAt w vars path work dir place text ∧
      (w.disk.locate place text).toOption = there ∧ (w.disk.locate w.cwd text).toOption = here := by
  obtain ⟨c, loaded, h⟩ := Option.bind_eq_some_iff.1 h
  obtain ⟨call, first, h⟩ := Option.bind_eq_some_iff.1 h
  obtain ⟨text, told, h⟩ := Option.bind_eq_some_iff.1 h
  obtain ⟨launch, resolved, h⟩ := Option.bind_eq_some_iff.1 h
  obtain ⟨m, spawned, h⟩ := Option.bind_eq_some_iff.1 h
  cases h
  have starts : call.StartsAt w.cwd w.state m.job.directory :=
    ⟨⟨vars, w.cwd, w.disk⟩, launch, 0, m, rfl, toOption_eq_some.1 resolved,
      toOption_eq_some.1 spawned, rfl⟩
  exact ⟨text, ⟨c, call, toOption_eq_some.1 loaded, List.mem_of_head? first, starts,
    call.arguments, List.mem_cons_self, told⟩, rfl, rfl⟩

/-- A configured project in a directory of a repository.  The engine of its stage and of its build
lies in the repository. -/
def checkout : World Resolver where
  disk := ⟨[(["repo"], .directory),
    (["repo", "go.mod"], .file (.ofString "module m\n") false),
    (["repo", "tmp"], .directory), (["repo", "sub"], .directory),
    (["repo", "sub", "tmp"], .directory),
    (["repo", "sub", "stagehand.yaml"], .file (.ofString
      ("name: x\ntmpRoot: tmp\ntest:\n  - name: unit\n    testenv: go://m/e\n" ++
        "build:\n  - name: a\n    src: s\n    dest: d\n    engine: go://m/e\n"))
      false),
    (["tools"], .directory), (["tools", "go"], .file (.ofString "#!/bin/sh\n") true)]⟩
  cwd := ["repo", "sub"]
  clock _ := .epoch
  readings := 0
  bits _ := 0
  drawn := 0
  calls := []
  state := .fresh (some "/repo") "/cache"

/-- The variables of the project. -/
def checkoutVars : KeyMap String := KeyMap.ofList [("PATH", "/tools")]

/-- The file is named from the root, so the engine, which starts in the root of the repository,
is told where the project builds. -/
theorem told_samePlace_in_repository :
    ∃ text, ToldAt checkout checkoutVars "/repo/sub/stagehand.yaml" (.build none) .build ["repo"]
        text ∧ ["repo"] ≠ checkout.cwd ∧ SamePlace ["repo"] checkout.cwd text := by
  have computed : meanings checkout checkoutVars "/repo/sub/stagehand.yaml" (.build none) .build =
      some (["repo"], some ["repo", "sub", "build"], some ["repo", "sub", "build"]) := by
    decide +kernel
  obtain ⟨text, found, _, _⟩ := meanings_eq_some computed
  obtain ⟨c, call, loaded, called, starts, told⟩ := found
  obtain ⟨said, log, agree⟩ := @told_samePlace _ _ _ "/tmp" c loaded checkoutVars checkout
    (.build none)
  have among : call ∈ said := by
    rw [log] at called
    exact called
  refine ⟨text, ⟨c, call, loaded, called, starts, told⟩, by decide, ?_⟩
  exact (agree call among _ _ starts).2 .build text told (.inr (.inr (by decide)))

/-- In the checkout, the engine of some work is told of a directory that is another one for it than
for the project. -/
def Misled (path : String) (work : ProjectWork) (dir : ToldDirectory) : Prop :=
  ∃ place text, ToldAt checkout checkoutVars path work dir place text ∧
    checkout.disk.locate place text ≠ checkout.disk.locate checkout.cwd text

theorem misled_of_meanings {path : String} {work : ProjectWork} {dir : ToldDirectory}
    {place : Place} {there here : Option Place}
    (h : meanings checkout checkoutVars path work dir = some (place, there, here))
    (apart : there ≠ here) : Misled path work dir := by
  obtain ⟨text, found, rfl, rfl⟩ := meanings_eq_some h
  exact ⟨place, text, found, fun same => apart (by rw [same])⟩

/-- The same file is found in the working directory, and the engine takes each directory for one
in the root of the repository. -/
theorem default_file_misleads :
    Misled defaultConfigFile (.build none) .root ∧ Misled defaultConfigFile (.build none) .build ∧
      Misled defaultConfigFile (.build none) .tmp ∧
      Misled defaultConfigFile (.create "unit") .tmp := by
  -- one computation for all four, since reading the file is most of the work
  have computed :
      [meanings checkout checkoutVars defaultConfigFile (.build none) .root,
        meanings checkout checkoutVars defaultConfigFile (.build none) .build,
        meanings checkout checkoutVars defaultConfigFile (.build none) .tmp,
        meanings checkout checkoutVars defaultConfigFile (.create "unit") .tmp] =
      [some (["repo"], some ["repo"], some ["repo", "sub"]),
        some (["repo"], some ["repo", "build"], some ["repo", "sub", "build"]),
        some (["repo"], some ["repo", "tmp"], some ["repo", "sub", "tmp"]),
        some (["repo"], some ["repo", "tmp", "test-unit-19700101-00000000"],
          some ["repo", "sub", "tmp", "test-unit-19700101-00000000"])] := by
    decide +kernel
  simp only [List.cons.injEq, and_true] at computed
  obtain ⟨root, build, tmp, home⟩ := computed
  exact ⟨misled_of_meanings root (by decide), misled_of_meanings build (by decide),
    misled_of_meanings tmp (by decide), misled_of_meanings home (by decide)⟩

end Orchestration
