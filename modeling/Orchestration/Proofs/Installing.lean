import Orchestration.Proofs.Packages
import Orchestration.Proofs.Places
import Orchestration.Proofs.Rollback

/-!
# Where fetched Cargo packages are installed

A Cargo package that the repository does not carry is installed in a directory of its own name and
version, which is joined to the install root as it was asked for.  So it lies there only as long
as the text of the version does not lead elsewhere:

* `Resolver.HasHome` — where a package is installed, seen from the install root;
* `fetched_apart_iff` — which pairs of packages are installed apart, whatever the install root;
* `hasHome_of_plain`, `leadsTo_eq_iff_of_plain` — names and versions without dots lead to their own
  directories;
* `absolute_version_shared` — a version that starts with a slash is installed elsewhere.
-/

namespace Orchestration

/-! ### Plain names -/

namespace Disk

theorem innerPlace_of_plain {parts : List String} (plain : ∀ part ∈ parts, PlainName part)
    (inner : Place) : innerPlace? inner parts = some (inner ++ parts) := by
  induction parts generalizing inner with
  | nil => rw [innerPlace?, List.append_nil]
  | cons part rest ih =>
    have first := plain part List.mem_cons_self
    rw [innerPlace?, first.not_idle, if_neg Bool.false_ne_true, if_neg (by simpa using first.up),
      ih fun p mem => plain p (List.mem_cons_of_mem _ mem), List.append_assoc]
    rfl

/-- There is always a name that some parts do not have. -/
theorem exists_unnamed (parts : List String) : ∃ name, PlainName name ∧ name ∉ parts := by
  let size := (parts.map String.length).sum + 1
  let name := String.ofList (List.replicate size 'x')
  have letters : ∀ c ∈ name.toList, c = 'x' := by
    intro c mem
    rw [String.toList_ofList] at mem
    exact List.eq_of_mem_replicate mem
  have begins : name.toList.head? = some 'x' := by
    rw [String.toList_ofList]
    rfl
  have differs : ∀ other : String, other.toList.head? ≠ some 'x' → name ≠ other := by
    rintro _ other rfl
    exact other begins
  refine ⟨name, ⟨fun mem => ?_, differs _ (by decide), differs _ (by decide),
    differs _ (by decide)⟩, fun mem => ?_⟩
  · exact absurd (letters _ mem) (by decide)
  · have short : name.length ≤ (parts.map String.length).sum := by
      obtain ⟨before, after, split⟩ := List.append_of_mem mem
      rw [split, List.map_append, List.map_cons, List.sum_append_nat, List.sum_cons]
      omega
    have long : name.length = size := by simp [name]
    omega

theorem leadsTo_root {name : String} (plain : PlainName name) (cwd : Place) :
    leadsTo cwd ("/" ++ name) = [name] := by
  have parts : pathParts ("/" ++ name) = ["", name] := by
    have text : "/" ++ name = "" ++ "/" ++ name := by simp
    rw [text, pathParts_slash, pathParts_of_slashless plain.slashless]
    rfl
  have start : startOf cwd ("/" ++ name) = [] := by simp [startOf, isAbsolutePath]
  rw [leadsTo, parts, start]
  exact plain.stepTo []

end Disk

namespace Resolver

open Disk

variable {shortName shortName' : String} {version version' : Option String} {home home' : Place}

/-! ### Directories -/

/-- A package is installed at a place in the install root, wherever that is: its version does not
start anew, and the way through its name and version never leads out. -/
structure HasHome (shortName : String) (version : Option String) (home : Place) : Prop where
  relative : isAbsolutePath (version.getD latest) = false
  inner : innerPlace? [] (shortName :: pathParts (version.getD latest)) = some home
  below : home ≠ []

theorem leadsTo_installDir (cwd : Place) (installRoot : String)
    (slashless : '/' ∉ shortName.toList)
    (relative : isAbsolutePath (version.getD latest) = false) :
    leadsTo cwd (installDir installRoot shortName version) =
      reach (leadsTo cwd installRoot) (shortName :: pathParts (version.getD latest)) := by
  rw [installDir, leadsTo_joinPath _ _ relative,
    leadsTo_joinPath _ _ (isAbsolutePath_of_slashless slashless),
    pathParts_of_slashless slashless, ← reach_append]
  rfl

theorem HasHome.leadsTo (h : HasHome shortName version home) (slashless : '/' ∉ shortName.toList)
    (cwd : Place) (installRoot : String) :
    leadsTo cwd (installDir installRoot shortName version) =
      Disk.leadsTo cwd installRoot ++ home := by
  rw [leadsTo_installDir cwd installRoot slashless h.relative, reach_below h.inner]

/-- Only a package with a home is installed below every install root. -/
theorem hasHome_of_isBelow (slashless : '/' ∉ shortName.toList)
    (h : ∀ installRoot, isBelow (leadsTo [] installRoot)
      (leadsTo [] (installDir installRoot shortName version)) = true) :
    ∃ home, HasHome shortName version home := by
  have notItself : ∀ place, ¬ isBelow place place = true := by simp [isBelow]
  by_cases absolute : isAbsolutePath (version.getD latest) = true
  · -- the directory is the version, and the install root may be just that
    have same : installDir (version.getD latest) shortName version = version.getD latest :=
      joinPath_absolute _ _ absolute
    have below := h (version.getD latest)
    rw [same] at below
    exact absurd below (notItself _)
  rw [Bool.not_eq_true] at absolute
  cases inner : innerPlace? [] (shortName :: pathParts (version.getD latest)) with
  | none =>
    obtain ⟨name, plain, unnamed⟩ := exists_unnamed (shortName :: pathParts (version.getD latest))
    obtain ⟨below, -, into⟩ := isBelow_iff.1 (h ("/" ++ name))
    rw [leadsTo_installDir [] _ slashless absolute, leadsTo_root plain] at into
    have out := @not_prefix_reach_of_climb _ [] [] name inner unnamed
    rw [List.append_nil, List.nil_append, into] at out
    exact absurd (List.prefix_append _ _) out
  | some home =>
    refine ⟨home, absolute, inner, fun none => notItself (leadsTo [] "") ?_⟩
    have below := h ""
    rwa [leadsTo_installDir [] _ slashless absolute, reach_below inner, none,
      List.append_nil] at below

/-! ### Names and versions without dots -/

/-- A package whose name and version are made of plain names is installed where they say. -/
theorem hasHome_of_plain (named : PlainName shortName)
    (plain : ∀ part ∈ pathParts (version.getD latest), PlainName part) :
    HasHome shortName version (shortName :: pathParts (version.getD latest)) := by
  refine ⟨IsPackagePath.not_absolute ?_, ?_, by simp⟩
  · exact (isPackagePath_iff _).2 fun mem => (plain "" mem).nonempty rfl
  · refine innerPlace_of_plain (fun part mem => ?_) []
    rcases List.mem_cons.1 mem with rfl | mem
    · exact named
    · exact plain part mem

/-- Of two such packages each has its own directory, unless name and version are the same. -/
theorem leadsTo_eq_iff_of_plain (named : PlainName shortName) (named' : PlainName shortName')
    (plain : ∀ part ∈ pathParts (version.getD latest), PlainName part)
    (plain' : ∀ part ∈ pathParts (version'.getD latest), PlainName part)
    (cwd : Place) (installRoot : String) :
    leadsTo cwd (installDir installRoot shortName version) =
        leadsTo cwd (installDir installRoot shortName' version') ↔
      shortName = shortName' ∧ version.getD latest = version'.getD latest := by
  rw [(hasHome_of_plain named plain).leadsTo named.slashless,
    (hasHome_of_plain named' plain').leadsTo named'.slashless, List.append_cancel_left_eq,
    List.cons.injEq, pathParts_inj]

/-! ### Pairs of packages -/

/-- Two packages are installed apart: both below the install root, and in one directory only if
they are called alike and the same version is installed. -/
structure InstalledApart (cwd : Place) (installRoot dir dir' shortName shortName' : String)
    (version version' : Option String) : Prop where
  below : isBelow (leadsTo cwd installRoot) (leadsTo cwd dir) = true
  below' : isBelow (leadsTo cwd installRoot) (leadsTo cwd dir') = true
  same : leadsTo cwd dir = leadsTo cwd dir' →
    shortName = shortName' ∧ version.getD latest = version'.getD latest

/-- The command that installs a package in a directory, and runs it there. -/
def installing (dir shortName : String) (version : Option String) : LaunchCommand :=
  .ofProgram "sh"
    ["-c", installScript, "stagehand-cargo-engine", dir, shortName, version.getD ""]

theorem installing_inj {dir dir' : String}
    (h : installing dir shortName version = installing dir' shortName version) : dir = dir' := by
  have args := congrArg LaunchCommand.args h
  simpa only [installing, LaunchCommand.ofProgram, List.cons.injEq, and_true, true_and] using args

theorem resolve_fetched {r : Resolver} {d : Disk} {cwd : Place} {path : String}
    (away : r.carried d cwd path = none) (version : Option String) :
    let reference : EngineReference := .package .cargo path version
    (r.resolve reference d cwd).1 = .ok (installing
      (installDir r.installRoot reference.shortName version) reference.shortName version) :=
  congrArg Except.ok (cargoCommand_of_not_carried away _ version)

/-- The directory of a command that fetches a package. -/
theorem eq_installDir_of_resolve {r : Resolver} {d : Disk} {cwd : Place} {path dir : String}
    (away : r.carried d cwd path = none)
    (h : (r.resolve (.package .cargo path version) d cwd).1 = .ok (installing dir
      (EngineReference.package .cargo path version).shortName version)) :
    dir = installDir r.installRoot (EngineReference.package .cargo path version).shortName
      version := by
  rw [resolve_fetched away version] at h
  exact (installing_inj (Except.ok.inj h)).symm

/-- Two Cargo packages that are fetched are installed apart, whatever the install root and
wherever it is seen from, exactly if both have homes in it, which are the same only for one name
and version. -/
theorem fetched_apart_iff {s s' path path' : String}
    (first : EngineReference.parse s = .ok (.package .cargo path version))
    (second : EngineReference.parse s' = .ok (.package .cargo path' version')) :
    let one : EngineReference := .package .cargo path version
    let other : EngineReference := .package .cargo path' version'
    (∀ (r : Resolver) (d d' : Disk) (cwd : Place),
      r.carried d cwd path = none → r.carried d' cwd path' = none →
      ∃ dir dir', (r.resolve one d cwd).1 = .ok (installing dir one.shortName version) ∧
        (r.resolve other d' cwd).1 = .ok (installing dir' other.shortName version') ∧
        InstalledApart cwd r.installRoot dir dir' one.shortName other.shortName version version') ↔
      ∃ home home', HasHome one.shortName version home ∧ HasHome other.shortName version' home' ∧
        (home = home' →
          one.shortName = other.shortName ∧ version.getD latest = version'.getD latest) := by
  intro one other
  have slashless : '/' ∉ one.shortName.toList :=
    (EngineReference.parse_eq_ok_iff.1 first).wellFormed.shortName.2
  have slashless' : '/' ∉ other.shortName.toList :=
    (EngineReference.parse_eq_ok_iff.1 second).wellFormed.shortName.2
  constructor
  · intro apart
    have detached : ∀ installRoot, InstalledApart [] installRoot
        (installDir installRoot one.shortName version)
        (installDir installRoot other.shortName version')
        one.shortName other.shortName version version' := by
      intro installRoot
      obtain ⟨dir, dir', command, command', installed⟩ :=
        apart (fresh none installRoot) ⟨[]⟩ ⟨[]⟩ [] rfl rfl
      obtain rfl := eq_installDir_of_resolve rfl command
      obtain rfl := eq_installDir_of_resolve rfl command'
      exact installed
    obtain ⟨home, h⟩ := hasHome_of_isBelow slashless fun root => (detached root).below
    obtain ⟨home', h'⟩ := hasHome_of_isBelow slashless' fun root => (detached root).below'
    refine ⟨home, home', h, h', fun same => (detached "").same ?_⟩
    rw [h.leadsTo slashless, h'.leadsTo slashless', same]
  · rintro ⟨home, home', h, h', apart⟩ r d d' cwd away away'
    refine ⟨_, _, resolve_fetched away version, resolve_fetched away' version',
      isBelow_iff.2 ⟨home, h.below, h.leadsTo slashless cwd _⟩,
      isBelow_iff.2 ⟨home', h'.below, h'.leadsTo slashless' cwd _⟩, fun same => apart ?_⟩
    rw [h.leadsTo slashless, h'.leadsTo slashless'] at same
    exact List.append_cancel_left same

/-- Two versions of a package are installed apart, also if one of them is the latest one. -/
theorem fetched_apart_iff_versions :
    EngineReference.parse "cargo://tools/fmt@1.2" = .ok (.package .cargo "tools/fmt" (some "1.2")) ∧
      EngineReference.parse "cargo://tools/fmt" = .ok (.package .cargo "tools/fmt" none) ∧
      ∀ (r : Resolver) (d : Disk) (cwd : Place), r.carried d cwd "tools/fmt" = none →
        ∃ dir dir',
          (r.resolve (.package .cargo "tools/fmt" (some "1.2")) d cwd).1 =
            .ok (installing dir "fmt" (some "1.2")) ∧
          (r.resolve (.package .cargo "tools/fmt" none) d cwd).1 =
            .ok (installing dir' "fmt" none) ∧
          leadsTo cwd dir ≠ leadsTo cwd dir' := by
  have first : EngineReference.parse "cargo://tools/fmt@1.2" =
      .ok (.package .cargo "tools/fmt" (some "1.2")) := by decide +kernel
  have second : EngineReference.parse "cargo://tools/fmt" =
      .ok (.package .cargo "tools/fmt" none) := by decide +kernel
  refine ⟨first, second, fun r d cwd away => ?_⟩
  obtain ⟨dir, dir', command, command', installed⟩ := (fetched_apart_iff first second).2
    ⟨["fmt", "1.2"], ["fmt", "latest"], ⟨by decide, by decide +kernel, by decide⟩,
      ⟨by decide, by decide +kernel, by decide⟩, by decide⟩ r d d cwd away away
  exact ⟨dir, dir', command, command', fun same => absurd (installed.same same).2 (by decide)⟩

/-- Two packages whose versions start with a slash are installed in one directory, which is not
below the install root. -/
theorem absolute_version_shared :
    let fmt : EngineReference := .package .cargo "tools/fmt" (some "/opt/engine")
    let lint : EngineReference := .package .cargo "tools/lint" (some "/opt/engine")
    let r := fresh none "/cache"
    EngineReference.parse "cargo://tools/fmt@/opt/engine" = .ok fmt ∧
      EngineReference.parse "cargo://tools/lint@/opt/engine" = .ok lint ∧
      (r.resolve fmt ⟨[]⟩ []).1 = .ok (installing "/opt/engine" "fmt" (some "/opt/engine")) ∧
      (r.resolve lint ⟨[]⟩ []).1 = .ok (installing "/opt/engine" "lint" (some "/opt/engine")) ∧
      isBelow (leadsTo [] "/cache") (leadsTo [] "/opt/engine") = false := by
  decide +kernel

end Resolver

end Orchestration
