import Orchestration.Store.Error

/-!
# Operations on the records

* `StoreDocument.get`, `insert`, `remove`, `setStatus`, `list`, … — the rules of the records:
  an identifier is never overwritten, an outcome is set once, artifacts keep their order;
* `StoreOp` — the operations as data, indexed by the kind of their answer;
* `StoreOp.apply` — what an operation answers, and the records after it;
* `apply_of_reads` — an operation that only reads leaves the records as they are.
-/

namespace Orchestration

namespace StoreDocument

/-- The environment of an identifier. -/
def get (d : StoreDocument) (id : String) : Except StoreError TestEnvironment :=
  match d.environments.find? id with
  | some e => .ok e
  | none => .error (.notFound id)

/-- Whether an environment is recorded under an identifier. -/
def hasEnvironment (d : StoreDocument) (id : String) : Bool := d.environments.contains id

/-- Record a new environment. -/
def insert (d : StoreDocument) (e : TestEnvironment) : Except StoreError StoreDocument :=
  if d.environments.contains e.id then .error (.alreadyExists e.id)
  else .ok { d with environments := d.environments.insert e.id e }

/-- Remove the environment of an identifier. -/
def remove (d : StoreDocument) (id : String) :
    Except StoreError (TestEnvironment × StoreDocument) :=
  match d.environments.find? id with
  | some e => .ok (e, { d with environments := d.environments.erase id })
  | none => .error (.notFound id)

/-- Record the outcome of an environment. -/
def setStatus (d : StoreDocument) (now : Timestamp) (id : String) (next : TestStatus) :
    Except StoreError (TestEnvironment × StoreDocument) :=
  match d.environments.find? id with
  | none => .error (.notFound id)
  | some e =>
    if e.status.canBecome next then
      let e := { e with status := next, updatedAt := now }
      .ok (e, { d with environments := d.environments.insert id e })
    else .error (.invalidTransition e.status next)

/-- Whether a record belongs to the stage asked for. -/
def ofStage (stage : Option String) (name : String) : Bool :=
  match stage with
  | none => true
  | some stage => name == stage

/-- The environments of a stage, or all of them. -/
def list (d : StoreDocument) (stage : Option String) : List TestEnvironment :=
  d.environments.values.filter fun e => ofStage stage e.stage

/-- The reports of a stage, or all of them. -/
def listReports (d : StoreDocument) (stage : Option String) : List TestReport :=
  d.reports.values.filter fun r => ofStage stage r.stage

/-- Append artifacts. -/
def append (d : StoreDocument) (as : List Artifact) : StoreDocument :=
  { d with artifacts := d.artifacts ++ as }

/-- Record a report, replacing one of the same identifier. -/
def putReport (d : StoreDocument) (r : TestReport) : StoreDocument :=
  { d with reports := d.reports.insert r.id r }

end StoreDocument

/-! ### Operations as data -/

/-- An operation on the records, with the kind of its answer. -/
inductive StoreOp : Type → Type where
  | get (id : String) : StoreOp TestEnvironment
  | contains (id : String) : StoreOp Bool
  | insert (e : TestEnvironment) : StoreOp Unit
  | setStatus (id : String) (next : TestStatus) : StoreOp TestEnvironment
  | remove (id : String) : StoreOp TestEnvironment
  | list (stage : Option String) : StoreOp (List TestEnvironment)
  | append (as : List Artifact) : StoreOp Unit
  | artifacts : StoreOp (List Artifact)
  | putReport (r : TestReport) : StoreOp Unit
  | reports (stage : Option String) : StoreOp (List TestReport)

namespace StoreOp

variable {α : Type}

/-- Whether an operation changes the records when it succeeds. -/
def mutates : StoreOp α → Bool
  | .insert _ | .setStatus .. | .remove _ | .append _ | .putReport _ => true
  | .get _ | .contains _ | .list _ | .artifacts | .reports _ => false

/-- What an operation answers, and the records after it. -/
def apply (now : Timestamp) (d : StoreDocument) : StoreOp α → Except StoreError (α × StoreDocument)
  | .get id => (d.get id).map fun e => (e, d)
  | .contains id => .ok (d.hasEnvironment id, d)
  | .insert e => (d.insert e).map fun d => ((), d)
  | .setStatus id next => d.setStatus now id next
  | .remove id => d.remove id
  | .list stage => .ok (d.list stage, d)
  | .append as => .ok ((), d.append as)
  | .artifacts => .ok (d.artifacts, d)
  | .putReport r => .ok ((), d.putReport r)
  | .reports stage => .ok (d.listReports stage, d)

theorem apply_of_reads {op : StoreOp α} (h : op.mutates = false) (now : Timestamp)
    (d d' : StoreDocument) (a : α) (ha : op.apply now d = .ok (a, d')) : d' = d := by
  cases op <;> simp only [mutates, Bool.true_eq_false] at h <;> simp only [apply] at ha
  case get id =>
    cases hg : d.get id <;> simp [hg, Except.map] at ha
    exact ha.2.symm
  all_goals
    simp only [Except.ok.injEq, Prod.mk.injEq] at ha
    exact ha.2.symm

end StoreOp

end Orchestration
