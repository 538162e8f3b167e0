import Orchestration.Json.Value

/-!
# Reports of deletions

Deleting an environment goes on past failures.  A report lists every step that was tried, in
the order in which it was tried:

* `StepStatus`, `TeardownStep`, `TeardownReport` — the report;
* `TeardownReport.record` — add a step at the end;
* `TeardownReport.failures`, `isClean`, `summary` — what a report says as a whole.
-/

namespace Orchestration

/-- How one step of a deletion went. -/
inductive StepStatus where
  | done
  | skipped (reason : String)
  | failed (reason : String)
  deriving DecidableEq, Repr

namespace StepStatus

/-- Whether the step failed. -/
def isFailed : StepStatus → Bool
  | .failed _ => true
  | _ => false

/-- The members of a step that tell how it went. -/
def members : StepStatus → List (String × Json)
  | .done => [("status", .str "ok")]
  | .skipped reason => [("status", .str "skipped"), ("detail", .str reason)]
  | .failed reason => [("status", .str "failed"), ("detail", .str reason)]

end StepStatus

/-- One step of a deletion. -/
structure TeardownStep where
  step : String
  status : StepStatus
  deriving DecidableEq, Repr

/-- The steps of a deletion. -/
structure TeardownReport where
  testId : String
  steps : List TeardownStep
  deriving DecidableEq, Repr

namespace TeardownReport

/-- A report without steps. -/
def empty (testId : String) : TeardownReport := ⟨testId, []⟩

/-- A report with one more step. -/
def record (r : TeardownReport) (step : String) (status : StepStatus) : TeardownReport :=
  { r with steps := r.steps ++ [⟨step, status⟩] }

/-- The steps that failed. -/
def failures (r : TeardownReport) : List TeardownStep :=
  r.steps.filter fun s => s.status.isFailed

/-- Whether no step failed. -/
def isClean (r : TeardownReport) : Bool := r.failures.isEmpty

/-- A report in one line. -/
def summary (r : TeardownReport) : String :=
  r.testId ++ ": " ++ toString r.steps.length ++ " teardown steps, " ++
    toString r.failures.length ++ " failed"

/-- A report as a value. -/
def toJson (r : TeardownReport) : Json :=
  .obj [("testId", .str r.testId),
    ("steps", .arr (r.steps.map fun s => .obj (("step", .str s.step) :: s.status.members)))]

theorem isClean_iff (r : TeardownReport) :
    r.isClean = true ↔ ∀ s ∈ r.steps, s.status.isFailed = false := by
  simp [isClean, failures, List.isEmpty_iff, List.filter_eq_nil_iff]

end TeardownReport

end Orchestration
