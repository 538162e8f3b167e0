import Orchestration.Disk.Fault

/-!
# How a call of an engine fails

* `RpcError` — the failures of one call, from starting the engine to its answer;
* `RpcError.message` — their wording;
* `RpcError.isConnect` — whether the engine was never asked for the tool.
-/

namespace Orchestration

/-- A failed call of an engine. -/
inductive RpcError where
  | spawn (program : String) (fault : SystemFault)
  | handshake (reason : String)
  /-- No answer within a number of milliseconds. -/
  | timeout (tool : String) (after : Nat)
  | engine (tool reason : String)
  | protocol (reason : String)
  | io (fault : SystemFault)
  deriving DecidableEq, Repr

/-- A time limit in milliseconds as messages give it, in whole seconds. -/
def secondsText (milliseconds : Nat) : String := toString (milliseconds / 1000) ++ "s"

namespace RpcError

/-- The words for a failed call. -/
def message : RpcError → String
  | .spawn program fault => "failed to spawn engine " ++ program ++ ": " ++ fault.message
  | .handshake reason => "engine handshake failed: " ++ reason
  | .timeout tool after => "tool " ++ tool ++ " timed out after " ++ secondsText after
  | .engine tool reason => "engine tool " ++ tool ++ " failed: " ++ reason
  | .protocol reason => "protocol error: " ++ reason
  | .io fault => "engine I/O failed: " ++ fault.message

/-- Whether the engine was never asked for the tool. -/
def isConnect : RpcError → Bool
  | .spawn .. | .handshake _ => true
  | _ => false

end RpcError

end Orchestration
