import Orchestration.Store.Operation

/-!
# The store in memory

* `MemoryStore` — the records, whether writes are to be refused, and how many there were;
* `MemoryStore.perform` — an operation on it: a failing one changes nothing.
-/

namespace Orchestration

/-- Records held in memory, for projects that keep nothing. -/
structure MemoryStore where
  document : StoreDocument
  /-- When set, every operation that would change the records is refused. -/
  refusing : Bool
  /-- The number of successful writes. -/
  writes : Nat
  deriving Inhabited

namespace MemoryStore

variable {α : Type}

/-- A store without records. -/
def empty (now : Timestamp) : MemoryStore := ⟨.empty now, false, 0⟩

/-- The refusal of a store that refuses writes. -/
def refusal : StoreError := .writeRejected "memory store configured to fail writes"

/-- Perform an operation. -/
def perform (op : StoreOp α) (now : Timestamp) (s : MemoryStore) :
    Except StoreError α × MemoryStore :=
  if op.mutates && s.refusing then (.error refusal, s)
  else match op.apply now s.document with
    | .error e => (.error e, s)
    | .ok (a, d) =>
      if op.mutates then
        (.ok a, { s with document := { d with lastUpdated := now }, writes := s.writes + 1 })
      else (.ok a, s)

/-- A failing operation changes nothing. -/
theorem perform_error {op : StoreOp α} {now : Timestamp} {s s' : MemoryStore} {e : StoreError}
    (h : perform op now s = (.error e, s')) : s' = s := by
  unfold perform at h
  split at h
  · simp only [Prod.mk.injEq] at h; exact h.2.symm
  · split at h
    · simp only [Prod.mk.injEq] at h; exact h.2.symm
    · split at h <;> simp at h

end MemoryStore

end Orchestration
