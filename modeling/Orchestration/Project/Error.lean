import Orchestration.Engine.Reference
import Orchestration.Rpc.Error
import Orchestration.Store.Error

/-!
# How work on a project fails

* `OrchestratorError` — the failures of builds and of test environments;
* `OrchestratorError.message` — their wording;
* `OrchestratorError.rootCause` — the failure inside all steps it happened in;
* `OrchestratorError.ofRpc`, `ofStore`, `ofResolve` — failures of calls, of the store and of
  resolution seen from the project.
-/

namespace Orchestration

/-- Why a configuration is refused. -/
inductive ConfigFault where
  | unreadable (path : String) (fault : SystemFault)
  /-- The text is no document of the configuration's format. -/
  | notADocument
  | undecodable (reason : String)
  | zeroEngineTimeout
  | zeroHandshakeTimeout
  | emptyAlias
  | duplicateAlias (name : String)
  | emptyChain (name : String) (role : EngineRole)
  | emptyStage
  | duplicateStage (name : String)
  /-- A refusal in words of its own. -/
  | described (text : String)
  deriving DecidableEq, Repr

/-- The words for a refused configuration. -/
def ConfigFault.message : ConfigFault → String
  | .unreadable path fault => "cannot read " ++ path ++ ": " ++ fault.message
  | .notADocument => "not a well-formed document"
  | .undecodable reason => reason
  | .zeroEngineTimeout => "engineTimeoutSecs must be greater than zero"
  | .zeroHandshakeTimeout => "handshakeTimeoutSecs must be greater than zero"
  | .emptyAlias => "engine alias must not be empty"
  | .duplicateAlias name => "duplicate engine alias: " ++ name
  | .emptyChain name role => "engine alias " ++ name ++ " has no " ++ role.name ++ " entries"
  | .emptyStage => "test stage name must not be empty"
  | .duplicateStage name => "duplicate test stage: " ++ name
  | .described text => text

/-- Failed work on a project. -/
inductive OrchestratorError where
  | resolution (error : ResolveError)
  | connect (reason : String)
  /-- No answer within a number of milliseconds. -/
  | timeout (tool : String) (after : Nat)
  | engine (tool reason : String)
  | protocol (reason : String)
  | persistence (reason : String)
  | notFound (what : String)
  | invalidArgument (reason : String)
  | config (fault : ConfigFault)
  | io (fault : SystemFault)
  /-- The failure of one engine of several. -/
  | step (index : Nat) (name : String) (source : OrchestratorError)
  deriving DecidableEq, Repr

instance : Inhabited OrchestratorError := ⟨.config .notADocument⟩

namespace OrchestratorError

/-- The words for failed work. -/
def message : OrchestratorError → String
  | .resolution error => "engine resolution failed: " ++ error.message
  | .connect reason => "could not connect to engine: " ++ reason
  | .timeout tool after => "tool " ++ tool ++ " timed out after " ++ secondsText after
  | .engine tool reason => "engine tool " ++ tool ++ " failed: " ++ reason
  | .protocol reason => "engine protocol error: " ++ reason
  | .persistence reason => "persistence failed: " ++ reason
  | .notFound what => "not found: " ++ what
  | .invalidArgument reason => "invalid argument: " ++ reason
  | .config fault => "invalid configuration: " ++ fault.message
  | .io fault => "io error: " ++ fault.message
  | .step index name source =>
    "step " ++ toString index ++ " (" ++ name ++ ") failed: " ++ source.message

/-- The failure inside all steps. -/
def rootCause : OrchestratorError → OrchestratorError
  | .step _ _ source => source.rootCause
  | other => other

/-- The failures below this one, from the outside in. -/
def causes : OrchestratorError → List String
  | .resolution error => [error.message]
  | .io fault => [fault.message]
  | .step _ _ source => source.message :: source.causes
  | _ => []

/-- A failed call seen from the project. -/
def ofRpc (e : RpcError) : OrchestratorError :=
  match e with
  | .spawn .. | .handshake _ => .connect e.message
  | .timeout tool after => .timeout tool after
  | .engine tool reason => .engine tool reason
  | .protocol reason => .protocol reason
  | .io fault => .protocol ("engine I/O failed: " ++ fault.message)

/-- A failed operation of the store seen from the project. -/
def ofStore (e : StoreError) : OrchestratorError :=
  match e with
  | .notFound _ => .notFound e.message
  | .invalidTransition .. => .invalidArgument e.message
  | _ => .persistence e.message

/-- A reference that cannot be resolved, seen from the project. -/
def ofResolve (e : ResolveError) : OrchestratorError := .resolution e

/-- The failure of one engine of several. -/
def ofStep (index : Nat) (engine : EngineReference) (source : OrchestratorError) :
    OrchestratorError :=
  .step index engine.display source

theorem rootCause_ofStep (index : Nat) (engine : EngineReference) (source : OrchestratorError) :
    (ofStep index engine source).rootCause = source.rootCause := rfl

end OrchestratorError

end Orchestration
