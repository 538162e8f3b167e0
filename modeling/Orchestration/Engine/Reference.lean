import Orchestration.Text.Quoted
import Orchestration.Text.Split

/-!
# Engine references

An engine is named by a reference: `go://<path>[@<version>]` and `cargo://<path>[@<version>]`
name a package, `alias://<name>` names a chain of the configuration.  No scheme is implied.

* `EngineReference` — the references, with their `display` and `shortName`;
* `EngineReference.parse` — reading one, with `ReferenceFault` as the reasons for refusal;
* `EngineRole` — what an engine is used for;
* `ResolveError` — everything that can be wrong with a reference or an alias, and its wording.
-/

namespace Orchestration

/-! ### Roles -/

/-- What an engine is used for. -/
inductive EngineRole where
  | builder
  | testenv
  | testRunner
  deriving DecidableEq, Repr, Inhabited

/-- The name of a role in configurations and messages. -/
def EngineRole.name : EngineRole → String
  | .builder => "builder"
  | .testenv => "testenv"
  | .testRunner => "test-runner"

/-- The roles, in the order in which messages list them. -/
def EngineRole.all : List EngineRole := [.builder, .testenv, .testRunner]

/-! ### References -/

/-- The toolchain that runs an engine's package. -/
inductive Toolchain where
  | go
  | cargo
  deriving DecidableEq, Repr, Inhabited

/-- The scheme that stands for a toolchain. -/
def Toolchain.scheme : Toolchain → String
  | .go => "go"
  | .cargo => "cargo"

/-- The name of an engine: a package of a toolchain, or a chain of the configuration. -/
inductive EngineReference where
  | package (toolchain : Toolchain) (path : String) (version : Option String)
  | chain (name : String)
  deriving DecidableEq, Repr, Inhabited

namespace EngineReference

/-- The last segment of the path, or the name of the chain. -/
def shortName : EngineReference → String
  | .package _ path _ =>
    match cutLast? '/' path.toList with
    | some (_, last) => String.ofList last
    | none => path
  | .chain name => name

/-- Whether the reference names a chain. -/
def isChain : EngineReference → Bool
  | .package .. => false
  | .chain _ => true

/-- The text of a reference. -/
def display : EngineReference → String
  | .package toolchain path none => toolchain.scheme ++ "://" ++ path
  | .package toolchain path (some version) =>
    toolchain.scheme ++ "://" ++ path ++ "@" ++ version
  | .chain name => "alias://" ++ name

end EngineReference

/-! ### Faults -/

/-- Why a text with a known scheme, or without any, is no reference. -/
inductive ReferenceFault where
  | missingScheme
  | badAliasName
  | emptyVersion
  | emptyPath
  | emptySegment
  deriving DecidableEq, Repr

/-- The words for a fault of a reference. -/
def ReferenceFault.message : ReferenceFault → String
  | .missingScheme => "missing \"<scheme>://\" prefix"
  | .badAliasName => "alias name must be a single non-empty segment"
  | .emptyVersion => "empty version after '@'"
  | .emptyPath => "empty package path"
  | .emptySegment => "empty path segment"

/-- Why a reference cannot be turned into engines to run. -/
inductive ResolveError where
  | malformed (reference : String) (fault : ReferenceFault)
  | unsupportedScheme (scheme reference : String)
  | unknownAlias (name : String)
  | wrongRole (name : String) (expected actual : EngineRole)
  | emptyChain (name : String)
  | nestedAlias (name : String) (nested : EngineReference)
  | aliasNotLaunchable (name : String)
  deriving DecidableEq, Repr

/-- The words for a resolution error. -/
def ResolveError.message : ResolveError → String
  | .malformed reference fault =>
    "malformed engine reference " ++ quoted reference ++ ": " ++ fault.message
  | .unsupportedScheme scheme reference =>
    "unsupported engine scheme " ++ quoted scheme ++ " in " ++ quoted reference
  | .unknownAlias name => "unknown engine alias: " ++ name
  | .wrongRole name expected actual =>
    "engine alias " ++ name ++ " is a " ++ actual.name ++ " engine, expected " ++ expected.name
  | .emptyChain name => "engine alias " ++ name ++ " has an empty chain"
  | .nestedAlias name nested =>
    "engine alias " ++ name ++ " refers to nested alias " ++ nested.display
  | .aliasNotLaunchable name => "alias reference " ++ name ++ " cannot be launched directly"

/-! ### Reading a reference -/

namespace EngineReference

/-- Read what follows `alias://`: one segment without a version. -/
def parseChain (rest : List Char) : Except ReferenceFault EngineReference :=
  if rest.isEmpty || rest.contains '/' || rest.contains '@' then .error .badAliasName
  else .ok (.chain (String.ofList rest))

/-- Read the path of a package, which may end in slashes. -/
def parsePath (toolchain : Toolchain) (path : List Char) (version : Option (List Char)) :
    Except ReferenceFault EngineReference :=
  let path := (path.reverse.dropWhile (· == '/')).reverse
  if path.isEmpty then .error .emptyPath
  else if (splitOn '/' path).any List.isEmpty then .error .emptySegment
  else .ok (.package toolchain (String.ofList path) (version.map String.ofList))

/-- Read what follows the scheme of a toolchain; the last `@` starts the version. -/
def parsePackage (toolchain : Toolchain) (rest : List Char) :
    Except ReferenceFault EngineReference :=
  match cutLast? '@' rest with
  | some (_, []) => .error .emptyVersion
  | some (path, version) => parsePath toolchain path (some version)
  | none => parsePath toolchain rest none

/-- Read a reference. -/
def parse (s : String) : Except ResolveError EngineReference :=
  match cutFirst? [':', '/', '/'] s.toList with
  | none => .error (.malformed s .missingScheme)
  | some (scheme, rest) =>
    let read : Except ReferenceFault EngineReference → Except ResolveError EngineReference :=
      Except.mapError (.malformed s)
    if scheme = "alias".toList then read (parseChain rest)
    else if scheme = "go".toList then read (parsePackage .go rest)
    else if scheme = "cargo".toList then read (parsePackage .cargo rest)
    else .error (.unsupportedScheme (String.ofList scheme) s)

end EngineReference

end Orchestration
