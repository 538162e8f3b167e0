import Orchestration.Document
import Orchestration.Engine.Reference

/-!
# Aliases: names for chains of engines

The configuration names chains of engines that work together.  An alias has one role, and the
chain of that role is the one it stands for:

* `ChainEntry`, `AliasDefinition` — an engine of a chain with its parameters, and an alias;
* `AliasRegistry` — the aliases of a project, a later definition replacing an earlier one;
* `AliasRegistry.lookup` — the chain of an alias for a role, or the reason why there is none.
-/

namespace Orchestration

variable {τ : Type} [Source τ]

/-! ### Reading references and roles -/

/-- Read a reference from a string. -/
def EngineReference.read (v : τ) : Decoded EngineReference := do
  match EngineReference.parse (← Source.text "a string" v) with
  | .ok reference => return reference
  | .error e => throw (DecodeFault.rejected e.message).anywhere

/-- The role of a name. -/
def EngineRole.ofName? (name : String) : Option EngineRole :=
  EngineRole.all.find? fun role => role.name == name

theorem EngineRole.ofName?_name (role : EngineRole) : EngineRole.ofName? role.name = some role := by
  cases role <;> decide

/-- Read a role from its name. -/
def EngineRole.read (v : τ) : Decoded EngineRole := do
  let name ← Source.variant (EngineRole.all.map EngineRole.name) v
  return (EngineRole.ofName? name).getD .builder

/-! ### Chains -/

/-- One engine of a chain, with the parameters that every call of it carries. -/
structure ChainEntry where
  engine : EngineReference
  spec : Option Document
  deriving Inhabited

namespace ChainEntry

/-- Read an entry. -/
def read (v : τ) : Decoded ChainEntry :=
  (readRecord "ChainEntry"
    (.required "engine" EngineReference.read <| .optional "spec" Document.read .nil) v).map
  fun (engine, spec, _) => ⟨engine, spec⟩

/-- An entry as a value. -/
def toJson (e : ChainEntry) : Json :=
  .obj <| [("engine", .str e.engine.display)]
    ++ (e.spec.map fun d => ("spec", d.toJson)).toList

end ChainEntry

/-- An alias as configured.  Only the chain of its own role is used. -/
structure AliasDefinition where
  name : String
  role : EngineRole
  builder : List ChainEntry
  testenv : List ChainEntry
  testRunner : List ChainEntry
  deriving Inhabited

namespace AliasDefinition

/-- An alias with a chain for its role. -/
def ofChain (name : String) (role : EngineRole) (chain : List ChainEntry) : AliasDefinition :=
  match role with
  | .builder => ⟨name, role, chain, [], []⟩
  | .testenv => ⟨name, role, [], chain, []⟩
  | .testRunner => ⟨name, role, [], [], chain⟩

/-- The chain of the alias's own role. -/
def chain (d : AliasDefinition) : List ChainEntry :=
  match d.role with
  | .builder => d.builder
  | .testenv => d.testenv
  | .testRunner => d.testRunner

theorem chain_ofChain (name : String) (role : EngineRole) (entries : List ChainEntry) :
    (ofChain name role entries).chain = entries := by
  cases role <;> rfl

/-- Read a definition. -/
def read (v : τ) : Decoded AliasDefinition :=
  (readRecord "AliasDefinition"
    (.required "alias" (Source.text "a string") <|
      .required "type" EngineRole.read <|
      .defaulted "builder" (Source.list ChainEntry.read) [] <|
      .defaulted "testenv" (Source.list ChainEntry.read) [] <|
      .defaulted "testRunner" (Source.list ChainEntry.read) [] .nil) v).map
  fun (name, role, builder, testenv, testRunner, _) => ⟨name, role, builder, testenv, testRunner⟩

/-- A chain as a member, unless it is empty. -/
def chainMember (key : String) (chain : List ChainEntry) : List (String × Json) :=
  if chain.isEmpty then [] else [(key, .arr (chain.map ChainEntry.toJson))]

/-- A definition as a value. -/
def toJson (d : AliasDefinition) : Json :=
  .obj <| [("alias", .str d.name), ("type", .str d.role.name)]
    ++ chainMember "builder" d.builder ++ chainMember "testenv" d.testenv
    ++ chainMember "testRunner" d.testRunner

end AliasDefinition

/-! ### The registry -/

/-- The aliases of a project by name. -/
abbrev AliasRegistry := KeyMap AliasDefinition

namespace AliasRegistry

/-- The registry of definitions, the last one of a name counting. -/
def ofDefinitions (ds : List AliasDefinition) : AliasRegistry :=
  KeyMap.ofList (ds.map fun d => (d.name, d))

/-- The chain that an alias stands for when an engine of a role is wanted. -/
def lookup (r : AliasRegistry) (name : String) (role : EngineRole) :
    Except ResolveError (List ChainEntry) :=
  match r.find? name with
  | none => .error (.unknownAlias name)
  | some d =>
    if d.role ≠ role then .error (.wrongRole name role d.role)
    else if d.chain.isEmpty then .error (.emptyChain name)
    else match d.chain.find? fun e => e.engine.isChain with
      | some nested => .error (.nestedAlias name nested.engine)
      | none => .ok d.chain

end AliasRegistry

end Orchestration
