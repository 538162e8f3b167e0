import Orchestration.Disk.Basic
import Orchestration.Engine.Launch
import Orchestration.Engine.Reference
import Orchestration.Text.Blank
import Orchestration.Text.Split

/-!
# From references to commands

A package that lies in the repository is run from there, any other one is fetched by its
toolchain: Go by itself, Cargo by a script that installs a package once.  The Go module of the
repository is looked up once; whether it carries a Cargo package is looked up every time.

* `goModuleOf` — the module that a `go.mod` text declares;
* `Resolver` — where the repository and installed packages are, and what is already known;
* `Resolver.goCommand`, `Resolver.cargoCommand` — the command of a package;
* `Resolver.resolve` — the command of a reference.
-/

namespace Orchestration

/-! ### The module of a repository -/

/-- The text without what satisfies `p` at either end. -/
def trimMatches (p : Char → Bool) (cs : List Char) : List Char :=
  dropEndWhile p (cs.dropWhile p)

/-- The module that a line of a `go.mod` declares. -/
def moduleOfLine (line : List Char) : Option String := do
  let rest ← stripStart? "module".toList (trimmed line)
  let first ← rest.head?
  guard (isBlank first)
  let name := trimMatches (· == '"') (trimmed rest)
  guard (!name.isEmpty)
  return String.ofList name

/-- The module that a `go.mod` text declares: the first declaration counts. -/
def goModuleOf (text : String) : Option String := (textLines text.toList).findSome? moduleOfLine

/-! ### What is known -/

/-- Where packages are looked for. -/
structure Resolver where
  /-- The root of the repository, if there is one. -/
  root : Option String
  /-- The directory in which fetched packages are installed. -/
  installRoot : String
  /-- The module of the repository once it has been looked up. -/
  goModule : Option (Option String)
  deriving DecidableEq

namespace Resolver

/-- A resolver that has looked nothing up. -/
def fresh (root : Option String) (installRoot : String) : Resolver := ⟨root, installRoot, none⟩

/-- The Go module of a repository. -/
def readGoModule (d : Disk) (cwd : Place) (root : String) : Option String :=
  match d.read cwd (joinPath root "go.mod") with
  | .ok t => t.strict?.toOption.bind goModuleOf
  | .error _ => none

/-- The resolver once the module of the repository is known. -/
def withModule (r : Resolver) (d : Disk) (cwd : Place) : Resolver :=
  match r.goModule with
  | some _ => r
  | none => { r with goModule := some (r.root.bind (readGoModule d cwd)) }

theorem withModule_withModule (r : Resolver) (d d' : Disk) (cwd : Place) :
    (r.withModule d cwd).withModule d' cwd = r.withModule d cwd := by
  cases h : r.goModule <;> simp [withModule, h]

/-! ### Go -/

/-- The version that is fetched when none is asked for. -/
def latest : String := "latest"

/-- Where a package lies in a module, seen from the module's directory. -/
def relativePackage (name path : String) : Option String :=
  if path = name then some "."
  else match stripStart? (name.toList ++ ['/']) path.toList with
    | some rest => some ("./" ++ String.ofList rest)
    | none => none

/-- The command of a Go package, given the repository and its module. -/
def goCommand (root name : Option String) (path : String) (version : Option String) :
    LaunchCommand :=
  let remote := LaunchCommand.ofProgram "go" ["run", path ++ "@" ++ version.getD latest]
  match root, name with
  | some root, some name =>
    match relativePackage name path with
    | some relative => (LaunchCommand.ofProgram "go" ["run", relative]).within root
    | none => remote
  | _, _ => remote

/-! ### Cargo -/

/-- Installs a package unless it is already there, and becomes it.  What installing says goes
to standard error, since standard output belongs to the session. -/
def installScript : String :=
  "dir=$1 name=$2 version=$3\nshift 3\nif [ ! -x \"$dir/bin/$name\" ]; then\n" ++
  "  cargo install --quiet --locked --root \"$dir\" $\x7bversion:+--version \"$version\"\x7d " ++
  "\"$name\" >&2 || exit 1\nfi\nexec \"$dir/bin/$name\" \"$@\""

/-- The directory in which a package is installed. -/
def installDir (installRoot shortName : String) (version : Option String) : String :=
  joinPath (joinPath installRoot shortName) (version.getD latest)

/-- The manifest of a package of the repository. -/
def localManifest (d : Disk) (cwd : Place) (root path : String) : Option String :=
  let manifest := joinPath (joinPath root path) "Cargo.toml"
  if d.isFile cwd (joinPath root "Cargo.toml") && d.isFile cwd manifest then some manifest
  else none

/-- The command that fetches a Cargo package and runs it. -/
def fetchCommand (installRoot shortName : String) (version : Option String) : LaunchCommand :=
  .ofProgram "sh" ["-c", installScript, "stagehand-cargo-engine",
    installDir installRoot shortName version, shortName, version.getD ""]

/-- The command of a Cargo package. -/
def cargoCommand (r : Resolver) (d : Disk) (cwd : Place) (shortName path : String)
    (version : Option String) : LaunchCommand :=
  let remote := fetchCommand r.installRoot shortName version
  match r.root with
  | none => remote
  | some root =>
    match localManifest d cwd root path with
    | none => remote
    | some manifest =>
      (LaunchCommand.ofProgram "cargo"
        ["run", "--quiet", "--manifest-path", manifest, "--bin", shortName, "--"]).within root

/-! ### The whole -/

/-- The command of a reference, and what is known afterwards. -/
def resolve (r : Resolver) (reference : EngineReference) (d : Disk) (cwd : Place) :
    Except ResolveError LaunchCommand × Resolver :=
  match reference with
  | .chain name => (.error (.aliasNotLaunchable name), r)
  | .package .go path version =>
    let r := r.withModule d cwd
    (.ok (goCommand r.root (r.goModule.getD none) path version), r)
  | .package .cargo path version =>
    (.ok (r.cargoCommand d cwd reference.shortName path version), r)

end Resolver

/-! ### Where packages are installed -/

/-- The directory for installed packages: in the user's cache, or with temporary files. -/
def defaultInstallRoot (cacheHome home : Option String) (systemTmp : String) : String :=
  let cache := match cacheHome, home with
    | some dir, _ => dir
    | none, some home => joinPath home ".cache"
    | none, none => systemTmp
  joinPath (joinPath cache "stagehand") "engines"

end Orchestration
