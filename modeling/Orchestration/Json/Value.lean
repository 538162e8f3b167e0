import Orchestration.KeyMap
import Orchestration.Number.Shortest

/-!
# JSON values

* `Number` — integers of 64 bits, signed or unsigned, and finite doubles, kept apart;
* `Json` — the values; the members of an object are a list, so a value can also say in which
  order its members are written;
* `Json.canonical` — the same value with the members of every object in the order of their keys;
* `Json.Canonical` — being such a value;
* `Json.asString?` and its companions — reading a value as one kind, anything else being absent.
-/

namespace Orchestration

/-! ### Numbers -/

/-- The integers that are kept as integers: from `-2 ^ 63` up to below `2 ^ 64`. -/
def IntegerRange (n : Int) : Prop := -9223372036854775808 ≤ n ∧ n < 18446744073709551616

instance (n : Int) : Decidable (IntegerRange n) :=
  inferInstanceAs (Decidable (-9223372036854775808 ≤ n ∧ n < 18446744073709551616))

/-- A JSON number. -/
inductive Number where
  | int (value : Int) (inRange : IntegerRange value)
  | real (value : Double)
  deriving DecidableEq, Repr

namespace Number

/-- The integer `n`, as a double when it is out of range. -/
def ofInt (n : Int) : Number :=
  if h : IntegerRange n then .int n h
  else .real (((Double.ofNat n.natAbs).getD (Double.zero false)).withSign (decide (n < 0)))

/-- The natural number `n`. -/
def ofNat (n : Nat) : Number := ofInt n

/-- The text of a number. -/
def text : Number → String
  | .int n _ => toString n
  | .real d => d.text

end Number

/-! ### Values -/

/-- A JSON value. -/
inductive Json where
  | null
  | bool (value : Bool)
  | num (value : Number)
  | str (value : String)
  | arr (items : List Json)
  | obj (members : List (String × Json))
  deriving Repr, Inhabited

namespace Json

mutual

/-- Equality of values, member for member and in order. -/
def beq : Json → Json → Bool
  | .null, .null => true
  | .bool a, .bool b => a == b
  | .num a, .num b => a == b
  | .str a, .str b => a == b
  | .arr as, .arr bs => beqItems as bs
  | .obj as, .obj bs => beqMembers as bs
  | _, _ => false

/-- Equality of lists of values. -/
def beqItems : List Json → List Json → Bool
  | [], [] => true
  | a :: as, b :: bs => beq a b && beqItems as bs
  | _, _ => false

/-- Equality of lists of members. -/
def beqMembers : List (String × Json) → List (String × Json) → Bool
  | [], [] => true
  | (k, a) :: as, (l, b) :: bs => k == l && beq a b && beqMembers as bs
  | _, _ => false

end

instance : BEq Json := ⟨beq⟩

/-- An integer as a value. -/
def ofInt (n : Int) : Json := .num (.ofInt n)

/-- A natural number as a value. -/
def ofNat (n : Nat) : Json := .num (.ofNat n)

/-- A list of strings as a value. -/
def ofStrings (ss : List String) : Json := .arr (ss.map .str)

/-- An object with the given members in the order of their keys, the last of a key counting. -/
def ofMembers (members : List (String × Json)) : Json := .obj (KeyMap.ofList members).entries

/-- A map as an object. -/
def ofMap (m : KeyMap Json) : Json := .obj m.entries

/-- A map of strings as an object. -/
def ofStringMap (m : KeyMap String) : Json := ofMap (m.map .str)

/-! ### Objects in the order of their keys -/

mutual

/-- The value with the members of every object in the order of their keys. -/
def canonical : Json → Json
  | .arr items => .arr (canonicalItems items)
  | .obj members => ofMembers (canonicalMembers members)
  | v => v

/-- Every item in canonical form. -/
def canonicalItems : List Json → List Json
  | [] => []
  | v :: rest => canonical v :: canonicalItems rest

/-- Every member in canonical form. -/
def canonicalMembers : List (String × Json) → List (String × Json)
  | [] => []
  | (k, v) :: rest => (k, canonical v) :: canonicalMembers rest

end

/-- The keys of every object in the value strictly increase. -/
inductive Canonical : Json → Prop where
  | null : Canonical .null
  | bool (b : Bool) : Canonical (.bool b)
  | num (n : Number) : Canonical (.num n)
  | str (s : String) : Canonical (.str s)
  | arr (items : List Json) (h : ∀ v ∈ items, Canonical v) : Canonical (.arr items)
  | obj (members : List (String × Json)) (h : ∀ m ∈ members, Canonical m.2)
      (ordered : Entries.Ordered members) : Canonical (.obj members)

/-! ### Reading a value as one kind -/

/-- The string a value is. -/
def asString? : Json → Option String
  | .str s => some s
  | _ => none

/-- The boolean a value is. -/
def asBool? : Json → Option Bool
  | .bool b => some b
  | _ => none

/-- The natural number a value is; a double is none, whatever its value. -/
def asNat? : Json → Option Nat
  | .num (.int n _) => if 0 ≤ n then some n.toNat else none
  | _ => none

/-- The member under a key, of an object. -/
def member? (key : String) : Json → Option Json
  | .obj members => Entries.find? key members
  | _ => none

end Json

end Orchestration
