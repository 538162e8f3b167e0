import Orchestration.Engine.Resolver

/-!
# What a resolver answers over time

A resolver is asked again and again while files come and go around it.  The module of the
repository is known from the first Go package on, so a Go package keeps its command whatever
becomes of `go.mod`.  Whether the repository carries a Cargo package is looked up at every
question: two answers about it are equal exactly if its manifest counts at both moments or at
neither.

* `resolve_startsIn` — a command starts in the root of the repository or where its user is;
* `Resolver.answerWith` — the answer to a question once the module of the repository is settled;
* `Resolver.Extends`, `resolve_extends`, `resolve_answerWith` — one question: what is known stays
  known, and the answer is the settled one;
* `ResolverEvent`, `Resolver.resolutions` — questions between changes of the files, with what was
  answered;
* `resolutions_answerWith` — over a whole run the module is settled once;
* `resolutions_eq_iff` — when two questions about one package are answered alike.
-/

namespace Orchestration

/-! ### Runs -/

/-- What happens in a run: a command is asked for, or the files change in any way. -/
inductive ResolverEvent where
  | ask (reference : EngineReference)
  | change (disk : Disk)

/-- What was answered, with the question and the files at that moment. -/
structure Resolution where
  reference : EngineReference
  disk : Disk
  answer : Except ResolveError LaunchCommand

namespace Resolver

variable {r r' : Resolver} {reference : EngineReference} {d disk : Disk} {cwd : Place}
  {name : Option String}

/-! ### The commands of a Cargo package -/

/-- The manifest with which the repository carries a Cargo package, if it does. -/
def carried (r : Resolver) (d : Disk) (cwd : Place) (path : String) : Option String :=
  r.root.bind fun root => localManifest d cwd root path

theorem fetchCommand_ne_within {installRoot shortName root : String} {version : Option String}
    {args : List String} : fetchCommand installRoot shortName version ≠
      (LaunchCommand.ofProgram "cargo" args).within root := by
  intro same
  have program : "sh" = "cargo" := congrArg LaunchCommand.program same
  exact absurd program (by decide)

theorem cargoCommand_of_not_carried {path : String} (h : r.carried d cwd path = none)
    (shortName : String) (version : Option String) :
    r.cargoCommand d cwd shortName path version = fetchCommand r.installRoot shortName version := by
  cases hr : r.root with
  | none => simp only [cargoCommand, hr]
  | some root =>
    have missing : localManifest d cwd root path = none := by simpa [carried, hr] using h
    simp only [cargoCommand, hr, missing]

theorem cargoCommand_of_carried {path manifest : String}
    (h : r.carried d cwd path = some manifest) (shortName : String) (version : Option String) :
    ∃ root, r.root = some root ∧ r.cargoCommand d cwd shortName path version =
      (LaunchCommand.ofProgram "cargo"
        ["run", "--quiet", "--manifest-path", manifest, "--bin", shortName, "--"]).within root := by
  obtain ⟨root, hr, found⟩ := Option.bind_eq_some_iff.1 h
  exact ⟨root, hr, by simp only [cargoCommand, hr, found]⟩

/-- Two commands of a Cargo package are equal exactly if both come from the same manifest or
both fetch the package. -/
theorem cargoCommand_eq_iff (r : Resolver) (d d' : Disk) (cwd : Place) (shortName path : String)
    (version : Option String) :
    r.cargoCommand d cwd shortName path version = r.cargoCommand d' cwd shortName path version ↔
      r.carried d cwd path = r.carried d' cwd path := by
  cases here : r.carried d cwd path with
  | none =>
    rw [cargoCommand_of_not_carried here]
    cases there : r.carried d' cwd path with
    | none => simp only [cargoCommand_of_not_carried there]
    | some manifest =>
      obtain ⟨root, -, command⟩ := cargoCommand_of_carried there shortName version
      rw [command]
      exact iff_of_false fetchCommand_ne_within nofun
  | some manifest =>
    obtain ⟨root, hr, command⟩ := cargoCommand_of_carried here shortName version
    rw [command]
    cases there : r.carried d' cwd path with
    | none =>
      rw [cargoCommand_of_not_carried there]
      exact iff_of_false fetchCommand_ne_within.symm nofun
    | some manifest' =>
      obtain ⟨root', hr', command'⟩ := cargoCommand_of_carried there shortName version
      obtain rfl : root = root' := Option.some.inj (hr.symm.trans hr')
      rw [command']
      simp [LaunchCommand.ofProgram, LaunchCommand.within]

/-! ### Where commands start -/

/-- A command starts in the root of the repository, or wherever it is given. -/
def StartsIn (root : Option String) (c : LaunchCommand) : Prop :=
  c.dir = none ∨ ∃ dir, root = some dir ∧ c.dir = some dir

theorem goCommand_startsIn (root name : Option String) (path : String) (version : Option String) :
    StartsIn root (goCommand root name path version) := by
  cases root with
  | none => exact .inl rfl
  | some dir =>
    cases name with
    | none => exact .inl rfl
    | some name =>
      cases inside : relativePackage name path with
      | none => exact .inl (by simp only [goCommand, inside]; rfl)
      | some relative => exact .inr ⟨dir, rfl, by simp only [goCommand, inside]; rfl⟩

theorem cargoCommand_startsIn (r : Resolver) (d : Disk) (cwd : Place) (shortName path : String)
    (version : Option String) :
    StartsIn r.root (r.cargoCommand d cwd shortName path version) := by
  cases found : r.carried d cwd path with
  | none => exact .inl (by rw [cargoCommand_of_not_carried found]; rfl)
  | some manifest =>
    obtain ⟨root, hr, command⟩ := cargoCommand_of_carried found shortName version
    exact .inr ⟨root, hr, by rw [command]; rfl⟩

/-! ### One question -/

/-- The answer to a question if the module of the repository is `name`. -/
def answerWith (r : Resolver) (name : Option String) (reference : EngineReference) (d : Disk)
    (cwd : Place) : Except ResolveError LaunchCommand :=
  match reference with
  | .chain chain => .error (.aliasNotLaunchable chain)
  | .package .go path version => .ok (goCommand r.root name path version)
  | .package .cargo path version =>
    .ok (r.cargoCommand d cwd reference.shortName path version)

/-- No other module than `name` is known. -/
def Expects (r : Resolver) (name : Option String) : Prop :=
  ∀ known, r.goModule = some known → known = name

/-- The same repository and the same directory for packages, and nothing is forgotten. -/
structure Extends (r' r : Resolver) : Prop where
  root : r'.root = r.root
  installRoot : r'.installRoot = r.installRoot
  goModule : ∀ known, r.goModule = some known → r'.goModule = some known

theorem Extends.refl (r : Resolver) : r.Extends r := ⟨rfl, rfl, fun _ h => h⟩

theorem Extends.expects (e : r'.Extends r) (h : r'.Expects name) : r.Expects name :=
  fun known kept => h known (e.goModule known kept)

theorem Extends.answerWith (e : r'.Extends r) (name : Option String) (reference : EngineReference)
    (d : Disk) (cwd : Place) :
    r'.answerWith name reference d cwd = r.answerWith name reference d cwd := by
  cases reference with
  | chain chain => rfl
  | package toolchain path version =>
    cases toolchain <;> simp only [Resolver.answerWith, cargoCommand, e.root, e.installRoot]

theorem withModule_extends (r : Resolver) (d : Disk) (cwd : Place) :
    (r.withModule d cwd).Extends r := by
  unfold withModule
  cases h : r.goModule with
  | some known => exact .refl r
  | none => exact ⟨rfl, rfl, fun known same => nomatch h.symm.trans same⟩

theorem withModule_goModule (r : Resolver) (d : Disk) (cwd : Place) :
    ∃ known, (r.withModule d cwd).goModule = some known := by
  unfold withModule
  cases h : r.goModule with
  | some known => exact ⟨known, h⟩
  | none => exact ⟨_, rfl⟩

theorem resolve_extends (r : Resolver) (reference : EngineReference) (d : Disk) (cwd : Place) :
    (r.resolve reference d cwd).2.Extends r := by
  match reference with
  | .chain _ => exact .refl r
  | .package .go _ _ => exact r.withModule_extends d cwd
  | .package .cargo _ _ => exact .refl r

theorem resolve_answerWith (r : Resolver) (reference : EngineReference) (d : Disk) (cwd : Place)
    (h : (r.resolve reference d cwd).2.Expects name) :
    (r.resolve reference d cwd).1 = r.answerWith name reference d cwd := by
  match reference with
  | .chain _ => rfl
  | .package .cargo _ _ => rfl
  | .package .go path version =>
    obtain ⟨known, found⟩ := r.withModule_goModule d cwd
    obtain rfl : known = name := h known found
    simp only [resolve, Resolver.answerWith, found, Option.getD_some,
      (r.withModule_extends d cwd).root]

theorem resolve_startsIn {launch : LaunchCommand}
    (h : (r.resolve reference d cwd).1 = .ok launch) : StartsIn r.root launch := by
  match reference with
  | .chain _ => cases h
  | .package .cargo path version =>
    cases h
    exact r.cargoCommand_startsIn d cwd _ path version
  | .package .go path version =>
    cases h
    rw [← (r.withModule_extends d cwd).root]
    exact goCommand_startsIn _ _ path version

/-! ### A whole run -/

/-- The answers of a run, in their order. -/
def resolutions (cwd : Place) : Resolver → Disk → List ResolverEvent → List Resolution
  | _, _, [] => []
  | r, _, .change disk :: rest => resolutions cwd r disk rest
  | r, disk, .ask reference :: rest =>
    let (answer, r') := r.resolve reference disk cwd
    ⟨reference, disk, answer⟩ :: resolutions cwd r' disk rest

/-- The module of the repository is settled once for a run, before the first answer that depends
on it. -/
theorem resolutions_answerWith (cwd : Place) (events : List ResolverEvent) (r : Resolver)
    (disk : Disk) :
    ∃ name, r.Expects name ∧ ∀ a ∈ r.resolutions cwd disk events,
      a.answer = r.answerWith name a.reference a.disk cwd := by
  induction events generalizing r disk with
  | nil =>
    refine ⟨r.goModule.getD none, fun known h => by simp [h], fun a mem => ?_⟩
    cases mem
  | cons event rest ih =>
    cases event with
    | change disk' => exact ih r disk'
    | ask reference =>
      obtain ⟨name, expected, later⟩ := ih (r.resolve reference disk cwd).2 disk
      have e := r.resolve_extends reference disk cwd
      refine ⟨name, e.expects expected, fun a mem => ?_⟩
      cases mem with
      | head => exact r.resolve_answerWith reference disk cwd expected
      | tail _ mem => rw [later a mem, e.answerWith]

/-- Two questions of a run about one package are both answered with a command.  It is the same
one for a Go package, whatever happened to the files in between.  For a Cargo package it is the
same one exactly if the repository carried the package at both moments or at neither. -/
theorem resolutions_eq_iff {events : List ResolverEvent} {a b : Resolution}
    {toolchain : Toolchain} {path : String} {version : Option String}
    (ha : a ∈ r.resolutions cwd disk events) (hb : b ∈ r.resolutions cwd disk events)
    (first : a.reference = .package toolchain path version)
    (second : b.reference = .package toolchain path version) :
    ∃ one other, a.answer = .ok one ∧ b.answer = .ok other ∧
      (one = other ↔
        toolchain = .go ∨ r.carried a.disk cwd path = r.carried b.disk cwd path) := by
  obtain ⟨name, -, answered⟩ := resolutions_answerWith cwd events r disk
  have one := answered a ha
  have other := answered b hb
  rw [first] at one
  rw [second] at other
  cases toolchain with
  | go => exact ⟨_, _, one, other, iff_of_true rfl (.inl rfl)⟩
  | cargo =>
    refine ⟨_, _, one, other, (r.cargoCommand_eq_iff a.disk b.disk cwd _ path version).trans ?_⟩
    exact (or_iff_right (by decide)).symm

/-- A repository of Cargo packages, with the manifests of some of them. -/
def repository (manifests : List (Place × DiskEntry)) : Disk :=
  ⟨[(["repo"], .directory), (["repo", "lint"], .directory),
    (["repo", "Cargo.toml"], .file [] false)] ++ manifests⟩

/-- A package in the repository. -/
def lint : EngineReference := .package .cargo "lint" none

/-- The answers of a resolver that is pinned to the repository.  The package is asked for three
times: its manifest goes after the first time and is back at the third. -/
def lintRun : List Resolution :=
  let manifest : Place × DiskEntry := (["repo", "lint", "Cargo.toml"], .file [] false)
  (fresh (some "/repo") "/cache").resolutions [] (repository [manifest])
    [.ask lint, .change (repository []), .ask lint, .change (repository [manifest]), .ask lint]

/-- With the manifest back, the third command is the first one again. -/
theorem resolutions_eq_iff_back :
    ∃ a b, lintRun[0]? = some a ∧ lintRun[2]? = some b ∧ a.reference = lint ∧ b.reference = lint ∧
      ∃ one other, a.answer = .ok one ∧ b.answer = .ok other ∧ one = other := by
  refine ⟨_, _, rfl, rfl, rfl, rfl, ?_⟩
  have first := List.mem_of_getElem? (l := lintRun) (i := 0) rfl
  have third := List.mem_of_getElem? (l := lintRun) (i := 2) rfl
  obtain ⟨one, other, early, late, same⟩ := resolutions_eq_iff first third rfl rfl
  exact ⟨one, other, early, late, same.2 (.inr (by decide +kernel))⟩

/-- Without the manifest, the second command is another one than the first. -/
theorem carried_package_forgotten :
    ∃ a b, lintRun[0]? = some a ∧ lintRun[1]? = some b ∧ a.reference = lint ∧ b.reference = lint ∧
      ∃ one other, a.answer = .ok one ∧ b.answer = .ok other ∧ one ≠ other :=
  ⟨_, _, rfl, rfl, rfl, rfl, _, _, rfl, rfl, by decide +kernel⟩

end Resolver

end Orchestration
