import Orchestration.Proofs.Places
import Orchestration.Proofs.References
import Orchestration.Proofs.Resolution

/-!
# Where Go packages are run

A Go package that lies in the module of the repository is run there, and any other one is fetched
in the version that is asked for.  What decides is whole segments of its path, and no package is
taken for another one:

* `LiesIn` — the packages of a module, `relativePackage_isSome_iff`;
* `NamesFrom` — a relative path names a package, seen from its module;
* `Resolver.moduleName` — the module that a resolver goes by;
* `Resolver.GoLaunch`, `goCommand_launch` — how a package is launched;
* `goCommand_eq_iff` — which packages are launched alike;
* `goPackages_told_apart` — the whole, for two questions to one resolver.
-/

namespace Orchestration

/-! ### Paths with more behind a slash -/

theorem IsPackagePath.of_slash {front rest : String} (h : IsPackagePath (front ++ "/" ++ rest)) :
    IsPackagePath front ∧ IsPackagePath rest := by
  rw [isPackagePath_iff, pathParts_slash, List.mem_append, not_or] at h
  exact ⟨(isPackagePath_iff front).2 h.1, (isPackagePath_iff rest).2 h.2⟩

theorem IsPackagePath.not_absolute {path : String} (h : IsPackagePath path) :
    isAbsolutePath path = false := by
  refine Bool.eq_false_iff.2 fun absolute => ?_
  have starts : path.toList.head? = some '/' := by simpa [isAbsolutePath] using absolute
  obtain ⟨cs, text⟩ : ∃ cs, path.toList = '/' :: cs := List.head?_eq_some_iff.1 starts
  refine (isPackagePath_iff path).1 h ?_
  rw [pathParts, text, splitOn, if_pos rfl]
  exact List.mem_cons_self

/-- A relative path seen from a package's path stands behind a slash. -/
theorem IsPackagePath.joinPath {path : String} (h : IsPackagePath path) {relative : String}
    (unrooted : isAbsolutePath relative = false) :
    joinPath path relative = path ++ "/" ++ relative := by
  have written : path.isEmpty = false := by simpa using h.ne_empty
  have unslashed : (path.toList.getLast? == some '/') = false := by simpa using h.unslashed
  simp [Orchestration.joinPath, unrooted, written, unslashed]

/-- The parts of a path that lead somewhere. -/
def solidParts (path : String) : List String :=
  (pathParts path).filter fun part => !isIdlePart part

theorem solidParts_slash (front rest : String) :
    solidParts (front ++ "/" ++ rest) = solidParts front ++ solidParts rest := by
  rw [solidParts, pathParts_slash, List.filter_append]
  rfl

theorem solidParts_dot : solidParts "." = [] := by decide

/-! ### The packages of a module -/

/-- A package lies in a module: it is the module, or its path goes on behind the module's with a
slash and more segments. -/
def LiesIn (own path : String) : Prop :=
  path = own ∨ ∃ rest, IsPackagePath rest ∧ path = own ++ "/" ++ rest

/-- Seen from a module, a relative path names a package: a dot stands for the module in it, and
joined to the module it leads to the package. -/
structure NamesFrom (own relative path : String) : Prop where
  text : ∃ tail, relative = "." ++ tail ∧ path = own ++ tail
  joined : solidParts (joinPath own relative) = solidParts path

namespace Resolver

variable {own path relative : String}

theorem relativePackage_eq_some_iff : relativePackage own path = some relative ↔
    (path = own ∧ relative = ".") ∨
      ∃ rest, path = own ++ "/" ++ rest ∧ relative = "./" ++ rest := by
  have longer : ∀ rest, own ≠ own ++ "/" ++ rest := by
    intro rest same
    have lengths := congrArg (fun s : String => s.toList.length) same
    simp at lengths
  unfold relativePackage
  by_cases itself : path = own
  · subst itself
    rw [if_pos rfl]
    simp [longer, eq_comm]
  · rw [if_neg itself]
    have below : ∀ rest : List Char,
        path.toList = own.toList ++ ['/'] ++ rest ↔ path = own ++ "/" ++ String.ofList rest := by
      intro rest
      rw [← String.toList_inj]
      simp
    constructor
    · intro h
      split at h
      · next rest strips =>
        cases h
        exact .inr ⟨_, (below rest).1 ((stripStart?_eq_some_iff _ _ _).1 strips), rfl⟩
      · cases h
    · rintro (⟨same, -⟩ | ⟨rest, same, rfl⟩)
      · exact absurd same itself
      · have strips : stripStart? (own.toList ++ ['/']) path.toList = some rest.toList :=
          (stripStart?_eq_some_iff _ _ _).2 ((below _).2 (by rwa [String.ofList_toList]))
        rw [strips]
        simp

/-- A package has a relative path exactly if it lies in the module. -/
theorem relativePackage_isSome_iff (located : IsPackagePath path) :
    (∃ relative, relativePackage own path = some relative) ↔ LiesIn own path := by
  simp only [relativePackage_eq_some_iff]
  constructor
  · rintro ⟨relative, ⟨same, -⟩ | ⟨rest, same, -⟩⟩
    · exact .inl same
    · exact .inr ⟨rest, (same ▸ located).of_slash.2, same⟩
  · rintro (same | ⟨rest, -, same⟩)
    · exact ⟨_, .inl ⟨same, rfl⟩⟩
    · exact ⟨_, .inr ⟨rest, same, rfl⟩⟩

theorem namesFrom_of_relativePackage (located : IsPackagePath path)
    (h : relativePackage own path = some relative) : NamesFrom own relative path := by
  rcases relativePackage_eq_some_iff.1 h with ⟨rfl, rfl⟩ | ⟨rest, rfl, rfl⟩
  · refine ⟨⟨"", rfl, by simp⟩, ?_⟩
    rw [located.joinPath (by decide), solidParts_slash, solidParts_dot, List.append_nil]
  · refine ⟨⟨"/" ++ rest, by simp [← String.append_assoc], by simp [String.append_assoc]⟩, ?_⟩
    have dotted : "./" ++ rest = "." ++ "/" ++ rest := rfl
    have unrooted : isAbsolutePath ("./" ++ rest) = false := by simp [isAbsolutePath]
    rw [located.of_slash.1.joinPath unrooted, dotted, solidParts_slash, solidParts_slash,
      solidParts_slash, solidParts_dot, List.nil_append]

/-- The relative path of a package determines the package. -/
theorem relativePackage_inj {path' : String} (h : relativePackage own path = some relative)
    (h' : relativePackage own path' = some relative) : path = path' := by
  rcases relativePackage_eq_some_iff.1 h with ⟨rfl, rfl⟩ | ⟨rest, rfl, rfl⟩ <;>
    rcases relativePackage_eq_some_iff.1 h' with ⟨rfl, same⟩ | ⟨rest', rfl, same⟩
  · rfl
  · simpa using congrArg String.toList same
  · simpa using congrArg String.toList same
  · have texts := congrArg String.toList same
    simp only [String.toList_append, List.append_cancel_left_eq, String.toList_inj] at texts
    rw [texts]

/-! ### Commands -/

/-- The repository has a module, and the package lies in it. -/
def InRepository (root name : Option String) (path : String) : Prop :=
  ∃ dir own, root = some dir ∧ name = some own ∧ LiesIn own path

/-- How a Go package is launched: in the repository exactly if it lies there, by the relative path
that names it, and otherwise from wherever its version can be fetched. -/
structure GoLaunch (root name : Option String) (path : String) (version : Option String)
    (c : LaunchCommand) : Prop where
  inside_iff : c.dir ≠ none ↔ InRepository root name path
  inside : ∀ dir own, root = some dir → name = some own → LiesIn own path →
    ∃ relative, c = (LaunchCommand.ofProgram "go" ["run", relative]).within dir ∧
      NamesFrom own relative path
  fetched : ¬ InRepository root name path →
    c = LaunchCommand.ofProgram "go" ["run", path ++ "@" ++ version.getD "latest"]

variable {root name : Option String} {version version' : Option String} {path' : String}

theorem goCommand_inside {dir own : String} (h : relativePackage own path = some relative)
    (version : Option String) : goCommand (some dir) (some own) path version =
      (LaunchCommand.ofProgram "go" ["run", relative]).within dir := by
  simp only [goCommand, h]

theorem goCommand_fetched (located : IsPackagePath path) (h : ¬ InRepository root name path)
    (version : Option String) : goCommand root name path version =
      LaunchCommand.ofProgram "go" ["run", path ++ "@" ++ version.getD latest] := by
  cases root with
  | none => rfl
  | some dir =>
    cases name with
    | none => rfl
    | some own =>
      cases found : relativePackage own path with
      | none => simp only [goCommand, found]
      | some relative =>
        have lies := (relativePackage_isSome_iff located).1 ⟨relative, found⟩
        exact absurd ⟨dir, own, rfl, rfl, lies⟩ h

/-- A package of the repository has one relative path, by which it is run. -/
theorem goCommand_of_inRepository (located : IsPackagePath path)
    (h : InRepository root name path) : ∃ dir own relative, root = some dir ∧ name = some own ∧
      relativePackage own path = some relative ∧ ∀ version, goCommand root name path version =
        (LaunchCommand.ofProgram "go" ["run", relative]).within dir := by
  obtain ⟨dir, own, rfl, rfl, lies⟩ := h
  obtain ⟨relative, found⟩ := (relativePackage_isSome_iff located).2 lies
  exact ⟨dir, own, relative, rfl, rfl, found, goCommand_inside found⟩

theorem goCommand_launch (root name : Option String) (located : IsPackagePath path)
    (version : Option String) :
    GoLaunch root name path version (goCommand root name path version) := by
  by_cases h : InRepository root name path
  · obtain ⟨dir, own, relative, rfl, rfl, found, command⟩ := goCommand_of_inRepository located h
    rw [command]
    refine ⟨iff_of_true nofun h, ?_, fun outside => absurd h outside⟩
    rintro _ _ ⟨⟩ ⟨⟩ -
    exact ⟨relative, rfl, namesFrom_of_relativePackage located found⟩
  · rw [goCommand_fetched located h]
    refine ⟨iff_of_false (fun started => started rfl) h, ?_, fun _ => rfl⟩
    exact fun dir own here named lies => absurd ⟨dir, own, here, named, lies⟩ h

/-! ### Packages that are launched alike -/

/-- A version that is asked for, or the one that is fetched otherwise, starts behind the last sign
of its kind. -/
theorem at_not_mem_getD {version : Option String} (h : ∀ v ∈ version, IsVersion v) :
    '@' ∉ (version.getD latest).toList := by
  cases version with
  | none => decide
  | some v => exact (h v rfl).2

theorem fetched_inj (h : ∀ v ∈ version, IsVersion v) (h' : ∀ v ∈ version', IsVersion v)
    (same : path ++ "@" ++ version.getD latest = path' ++ "@" ++ version'.getD latest) :
    path = path' ∧ version.getD latest = version'.getD latest := by
  have texts := congrArg (fun s : String => cutLast? '@' s.toList) same
  simp only [String.toList_append, List.append_assoc] at texts
  have cut : ∀ {p : String} {v : String}, '@' ∉ v.toList →
      cutLast? '@' (p.toList ++ ("@".toList ++ v.toList)) = some (p.toList, v.toList) :=
    fun absent => cutLast?_append absent _
  rw [cut (at_not_mem_getD h), cut (at_not_mem_getD h')] at texts
  obtain ⟨paths, versions⟩ := Prod.mk.inj (Option.some.inj texts)
  exact ⟨String.toList_inj.1 paths, String.toList_inj.1 versions⟩

/-- Two packages are launched alike exactly if they are the same package, in the repository or in
the same version. -/
theorem goCommand_eq_iff (located : IsPackagePath path) (located' : IsPackagePath path')
    (numbered : ∀ v ∈ version, IsVersion v) (numbered' : ∀ v ∈ version', IsVersion v) :
    goCommand root name path version = goCommand root name path' version' ↔
      path = path' ∧
        (InRepository root name path ∨ version.getD latest = version'.getD latest) := by
  -- a command that starts in the repository is never one that fetches
  have apart : ∀ {p p' v v'}, IsPackagePath p → IsPackagePath p' → InRepository root name p →
      goCommand root name p v = goCommand root name p' v' → InRepository root name p' := by
    intro p p' v v' hp hp' here same
    exact (goCommand_launch root name hp' v').inside_iff.1
      (same ▸ (goCommand_launch root name hp v).inside_iff.2 here)
  by_cases here : InRepository root name path
  · simp only [here, true_or, and_true]
    constructor
    · intro same
      obtain ⟨dir, own, relative, rfl, rfl, found, command⟩ :=
        goCommand_of_inRepository located here
      obtain ⟨dir', _, relative', hroot, ⟨⟩, found', command'⟩ :=
        goCommand_of_inRepository located' (apart located located' here same)
      rw [command, command'] at same
      have args : ["run", relative] = ["run", relative'] := congrArg LaunchCommand.args same
      obtain rfl : relative = relative' := by simpa using args
      exact relativePackage_inj found found'
    · rintro rfl
      obtain ⟨_, _, _, _, _, _, command⟩ := goCommand_of_inRepository located here
      rw [command, command]
  · simp only [here, false_or]
    constructor
    · intro same
      have away : ¬ InRepository root name path' :=
        fun there => here (apart located' located there same.symm)
      rw [goCommand_fetched located here, goCommand_fetched located' away] at same
      have args : ["run", path ++ "@" ++ version.getD latest] =
          ["run", path' ++ "@" ++ version'.getD latest] := congrArg LaunchCommand.args same
      exact fetched_inj numbered numbered' (by simpa using args)
    · rintro ⟨rfl, versions⟩
      rw [goCommand_fetched located here, goCommand_fetched located here, versions]

/-! ### Questions to a resolver -/

/-- The module that a resolver goes by: the one that it knows, or the one that the repository
declares now. -/
def moduleName (r : Resolver) (d : Disk) (cwd : Place) : Option String :=
  r.goModule.getD (r.root.bind (readGoModule d cwd))

theorem withModule_moduleName (r : Resolver) (d : Disk) (cwd : Place) :
    (r.withModule d cwd).goModule = some (r.moduleName d cwd) := by
  cases known : r.goModule <;> simp [withModule, moduleName, known]

theorem resolve_go (r : Resolver) (path : String) (version : Option String) (d : Disk)
    (cwd : Place) : r.resolve (.package .go path version) d cwd =
      (.ok (goCommand r.root (r.moduleName d cwd) path version), r.withModule d cwd) := by
  simp only [resolve, withModule_moduleName, (r.withModule_extends d cwd).root, Option.getD_some]

/-- The parts of a package reference that was read. -/
theorem package_of_parse {s : String} {toolchain : Toolchain}
    (h : EngineReference.parse s = .ok (.package toolchain path version)) :
    IsPackagePath path ∧ ∀ v ∈ version, IsVersion v := by
  have shaped := (EngineReference.parse_eq_ok_iff.1 h).wellFormed
  cases version with
  | none => exact ⟨shaped.1, nofun⟩
  | some v =>
    refine ⟨shaped.1, ?_⟩
    rintro _ ⟨⟩
    exact shaped.2

/-- Two Go packages are asked for, one after the other, and the files may change in between.  Each
is launched in the repository exactly if it lies in the module that the resolver goes by, and else
fetched in its version; and they are launched alike exactly if they are the same package, in the
repository or in the same version. -/
theorem goPackages_told_apart (r : Resolver) (d d' : Disk) (cwd : Place)
    {s s' path path' : String} {version version' : Option String}
    (first : EngineReference.parse s = .ok (.package .go path version))
    (second : EngineReference.parse s' = .ok (.package .go path' version')) :
    let name := r.moduleName d cwd
    let one := r.resolve (.package .go path version) d cwd
    let other := one.2.resolve (.package .go path' version') d' cwd
    ∃ c c', one.1 = .ok c ∧ other.1 = .ok c' ∧
      GoLaunch r.root name path version c ∧ GoLaunch r.root name path' version' c' ∧
      (c = c' ↔ path = path' ∧
        (InRepository r.root name path ∨ version.getD "latest" = version'.getD "latest")) := by
  intro name one other
  obtain ⟨located, numbered⟩ := package_of_parse first
  obtain ⟨located', numbered'⟩ := package_of_parse second
  have early : one = (.ok (goCommand r.root name path version), r.withModule d cwd) :=
    r.resolve_go path version d cwd
  have settled : (r.withModule d cwd).moduleName d' cwd = name := by
    rw [moduleName, withModule_moduleName, Option.getD_some]
  have late : other.1 = .ok (goCommand r.root name path' version') := by
    simp only [other, early, resolve_go, settled, (r.withModule_extends d cwd).root]
  exact ⟨_, _, by rw [early], late, goCommand_launch r.root name located version,
    goCommand_launch r.root name located' version',
    goCommand_eq_iff located located' numbered numbered'⟩

/-- A repository that declares a module. -/
def declaring (text : String) : Disk :=
  ⟨[(["repo"], .directory), (["repo", "go.mod"], .file (RawText.ofString text) false)]⟩

/-- A module whose path begins with the same letters is another module. -/
theorem goPackages_told_apart_sibling :
    let r := fresh (some "/repo") "/cache"
    let forge := declaring "module example.com/forge\n"
    let lint : EngineReference := .package .go "example.com/forge/lint" (some "v1")
    let sibling : EngineReference := .package .go "example.com/forgery/lint" none
    EngineReference.parse "go://example.com/forge/lint@v1" = .ok lint ∧
      EngineReference.parse "go://example.com/forgery/lint" = .ok sibling ∧
      ∃ c c', (r.resolve lint forge []).1 = .ok c ∧
        ((r.resolve lint forge []).2.resolve sibling forge []).1 = .ok c' ∧
        c.dir ≠ none ∧ c'.args = ["run", "example.com/forgery/lint@latest"] ∧ c ≠ c' := by
  intro r forge lint sibling
  have first : EngineReference.parse "go://example.com/forge/lint@v1" = .ok lint := by
    decide +kernel
  have second : EngineReference.parse "go://example.com/forgery/lint" = .ok sibling := by
    decide +kernel
  have named : r.moduleName forge [] = some "example.com/forge" := by decide +kernel
  obtain ⟨c, c', early, late, launch, launch', same⟩ :=
    goPackages_told_apart r forge forge [] first second
  have inside : InRepository r.root (r.moduleName forge []) "example.com/forge/lint" :=
    ⟨"/repo", "example.com/forge", rfl, named,
      .inr ⟨"lint", (isPackagePath_iff _).2 (by decide), by decide⟩⟩
  have outside : ¬ InRepository r.root (r.moduleName forge []) "example.com/forgery/lint" := by
    rintro ⟨dir, own, -, known, lies⟩
    obtain rfl : "example.com/forge" = own := Option.some.inj (named.symm.trans known)
    obtain ⟨relative, found⟩ :=
      (relativePackage_isSome_iff (package_of_parse second).1).2 lies
    have none : relativePackage "example.com/forge" "example.com/forgery/lint" = none := by
      decide +kernel
    exact nomatch none.symm.trans found
  exact ⟨first, second, c, c', early, late, launch.inside_iff.2 inside,
    by rw [launch'.fetched outside]; rfl, fun eq => absurd (same.1 eq).1 (by decide)⟩

end Resolver

end Orchestration
