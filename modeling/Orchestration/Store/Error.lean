import Orchestration.Disk.Fault
import Orchestration.Store.Record

/-!
# How an operation of the store fails

* `StoreError` — the failures;
* `StoreError.message` — their wording;
* `StoreError.isNotFound` — whether the record asked for does not exist.
-/

namespace Orchestration

/-- A failed operation of the store. -/
inductive StoreError where
  | notFound (id : String)
  | alreadyExists (id : String)
  | invalidTransition (current next : TestStatus)
  | io (fault : SystemFault)
  | serialization (reason : String)
  | writeRejected (reason : String)
  deriving DecidableEq, Repr

namespace StoreError

/-- The words for a failed operation. -/
def message : StoreError → String
  | .notFound id => "test environment not found: " ++ id
  | .alreadyExists id => "test environment already exists: " ++ id
  | .invalidTransition current next =>
    "invalid status transition: " ++ current.name ++ " -> " ++ next.name
  | .io fault => "store I/O failed: " ++ fault.message
  | .serialization reason => "store serialization failed: " ++ reason
  | .writeRejected reason => "store write rejected: " ++ reason

/-- Whether the record asked for does not exist. -/
def isNotFound : StoreError → Bool
  | .notFound _ => true
  | _ => false

end StoreError

end Orchestration
