import Orchestration.Yaml.Resolve

/-!
# Documents as values

A text is a well-formed document when it can be read as a value of no particular kind: its
references lead somewhere, no mapping has a key twice, and every tag makes sense.

* `Value` — the values of documents, with `Value.same`;
* `evaluate?` — the value of a node, references being followed;
* `isWellFormed` — whether a tree has a value.
-/

namespace Orchestration.Yaml

/-! ### Values -/

/-- The value of a document. -/
inductive Value where
  | scalar (meaning : Meaning)
  | sequence (items : List Value)
  | mapping (members : List (Value × Value))
  | tagged (tag : String) (value : Value)
  deriving Inhabited

/-- Whether two numbers count as one. -/
def Real.same : Real → Real → Bool
  | .finite a, .finite b => a == b || a.isZero && b.isZero
  | a, b => a == b

/-- Whether two meanings count as one. -/
def Meaning.same : Meaning → Meaning → Bool
  | .real a, .real b => a.same b
  | a, b => a == b

namespace Value

mutual

/-- Whether two values count as one; the order of members does not matter. -/
def same : Value → Value → Bool
  | .scalar a, .scalar b => a.same b
  | .sequence as, .sequence bs => sameItems as bs
  | .mapping as, .mapping bs => as.length == bs.length && allAmong as bs
  | .tagged s a, .tagged t b => Tag.sameName s t && same a b
  | _, _ => false

/-- Whether items count as the same one by one. -/
def sameItems : List Value → List Value → Bool
  | [], [] => true
  | a :: as, b :: bs => same a b && sameItems as bs
  | _, _ => false

/-- Whether every member is also among others. -/
def allAmong : List (Value × Value) → List (Value × Value) → Bool
  | [], _ => true
  | (k, v) :: rest, others =>
    others.any (fun m => same k m.1 && same v m.2) && allAmong rest others

end

end Value

/-! ### References -/

/-- The node that a reference leads to: of those with its number, the last one. -/
def target? (table : List (Nat × Node Nat)) (anchor : Nat) : Option (Node Nat) :=
  (table.reverse.find? fun e => e.1 == anchor).map (·.2)

/-- The node itself, or where it leads; `budget` is how many references may still be
followed. -/
def follow? (table : List (Nat × Node Nat)) (budget : Nat) :
    Node Nat → Option (Node Nat × Nat)
  | .reference anchor => do
    guard (0 < budget)
    return (← target? table anchor, budget - 1)
  | n => some (n, budget)

/-- How many references may be followed in a document of a size. -/
def followBudget (size : Nat) : Nat := size * 100

/-- How deep collections may lie in each other. -/
def maxNesting : Nat := 128

/-! ### Evaluation -/

/-- A value under a tag; only a tag that gives a name is kept. -/
def tagged (tag : Option Tag) (v : Value) : Value :=
  match tag.bind Tag.ownName? with
  | some name => .tagged name v
  | none => v

/-- An evaluation: a node and a budget become a value and the budget that is left. -/
abbrev Evaluation := Nat → Node Nat → Option (Value × Nat)

/-- Evaluate items in order. -/
def evaluateItems (evaluate : Evaluation) : Nat → List (Node Nat) → Option (List Value × Nat)
  | budget, [] => some ([], budget)
  | budget, n :: rest => do
    let (v, budget) ← evaluate budget n
    let (vs, budget) ← evaluateItems evaluate budget rest
    return (v :: vs, budget)

/-- Evaluate members in order, given those before; no key may come twice. -/
def evaluateMembers (evaluate : Evaluation) :
    List (Value × Value) → Nat → List (Node Nat × Node Nat) →
      Option (List (Value × Value) × Nat)
  | seen, budget, [] => some (seen.reverse, budget)
  | seen, budget, (k, v) :: rest => do
    let (key, budget) ← evaluate budget k
    guard (!seen.any fun m => m.1.same key)
    let (value, budget) ← evaluate budget v
    evaluateMembers evaluate ((key, value) :: seen) budget rest

/-- The value of a node; `depth` is how many collections may still lie in each other. -/
def evaluate? (table : List (Nat × Node Nat)) : Nat → Evaluation
  | depth, budget, n => do
    let (n, budget) ← follow? table budget n
    match n, depth with
    | .scalar p style s, _ =>
      let tag := if (p.tag.bind Tag.ownName?).isSome then none else p.tag
      match scalarMeaning tag style s with
      | .ok (.large _) => none
      | .ok m => return (tagged p.tag (.scalar m), budget)
      | .error _ => none
    | .sequence p items, depth + 1 =>
      let (vs, budget) ← evaluateItems (evaluate? table depth) budget items
      return (tagged p.tag (.sequence vs), budget)
    | .mapping p members, depth + 1 =>
      let (ms, budget) ← evaluateMembers (evaluate? table depth) [] budget members
      return (tagged p.tag (.mapping ms), budget)
    | _, _ => none

/-- Whether a tree has a value. -/
def isWellFormed (tree : Node Nat) : Bool :=
  (evaluate? tree.anchored maxNesting (followBudget tree.size) tree).isSome

end Orchestration.Yaml
