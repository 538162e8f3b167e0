import Orchestration.Decode.Fault
import Orchestration.Number.Shortest
import Orchestration.Yaml.Node

/-!
# What scalars mean

A scalar in quotes is a text.  One without quotes may be a null, a boolean or a number; a tag can
insist on one of these.

* `Real`, `Meaning` — numbers that are not integers, and what a scalar can mean;
* `plainMeaning` — the meaning of a scalar without quotes and tag;
* `scalarMeaning` — the meaning of a scalar, or why its tag cannot be obeyed;
* `Meaning.found` — a meaning as messages describe it.
-/

namespace Orchestration.Yaml

/-! ### Meanings -/

/-- A number that is not an integer. -/
inductive Real where
  | finite (value : Double)
  | infinite (negative : Bool)
  | notANumber
  deriving DecidableEq, Repr, Inhabited

/-- What a scalar means. -/
inductive Meaning where
  | null
  | bool (value : Bool)
  /-- An integer of 64 bits. -/
  | int (value : Int)
  /-- An integer of 128 bits that has no place in 64. -/
  | large (value : Int)
  | real (value : Real)
  | text (value : String)
  deriving DecidableEq, Repr, Inhabited

/-- A number as messages show it. -/
def Real.shown : Real → String
  | .finite d => d.positionalText
  | .infinite false => "inf"
  | .infinite true => "-inf"
  | .notANumber => "NaN"

/-- A meaning as messages describe it. -/
def Meaning.found : Meaning → Found
  | .null => .unit
  | .bool b => .bool b
  | .int n | .large n => .int n
  | .real r => .real r.shown
  | .text s => .text s

/-! ### Integers -/

/-- The value of a digit in a base of at most sixteen. -/
def digitIn? (base : Nat) (c : Char) : Option Nat := (hexValue? c).filter (· < base)

/-- The number that digits spell; there has to be one. -/
def numberIn? (base : Nat) (cs : List Char) : Option Nat :=
  if cs.isEmpty then none
  else cs.foldlM (fun n c => (digitIn? base c).map (n * base + ·)) 0

/-- The number after the sign of a base. -/
def basedNumber? : List Char → Option Nat
  | '0' :: 'x' :: digits => numberIn? 16 digits
  | '0' :: 'o' :: digits => numberIn? 8 digits
  | '0' :: 'b' :: digits => numberIn? 2 digits
  | _ => none

/-- The text without a sign. -/
def withoutSign : List Char → List Char
  | '+' :: rest | '-' :: rest => rest
  | cs => cs

/-- Whether digits begin with superfluous zeros; they are a text then. -/
def hasLeadingZero (cs : List Char) : Bool :=
  match withoutSign cs with
  | '0' :: rest => !rest.isEmpty && rest.all Char.isDigit
  | _ => false

/-- The number below `limit` that a text without a minus spells. -/
def unsigned? (limit : Nat) (cs : List Char) : Option Nat :=
  let digits := match cs with
    | '+' :: rest => rest
    | cs => cs
  match (basedNumber? digits).filter (· < limit) with
  | some n => some n
  | none =>
    if hasLeadingZero cs then none
    else (numberIn? 10 digits).filter (· < limit)

/-- The negative of a number up to `limit` that a text with a minus spells. -/
def negative? (limit : Nat) (cs : List Char) : Option Int :=
  match cs with
  | '-' :: digits =>
    match (basedNumber? digits).filter (· ≤ limit) with
    | some n => some (-n)
    | none =>
      if hasLeadingZero cs then none
      else ((numberIn? 10 digits).filter (· ≤ limit)).map fun n => -(n : Int)
  | _ => none

/-- The integer that a text spells. -/
def integer? (cs : List Char) : Option Meaning :=
  match unsigned? (Nat.pow 2 64) cs, negative? (Nat.pow 2 63) cs with
  | some n, _ => some (.int n)
  | none, some n => some (.int n)
  | none, none =>
    match unsigned? (Nat.pow 2 128) cs, negative? (Nat.pow 2 127) cs with
    | some n, _ => some (.large n)
    | none, some n => some (.large n)
    | none, none => none

/-! ### Other numbers -/

/-- The power of ten that an exponent adds. -/
def exponent? : List Char → Option Int
  | [] => some 0
  | e :: cs =>
    if e == 'e' || e == 'E' then
      match cs with
      | '-' :: digits => (numberIn? 10 digits).map fun n => -(n : Int)
      | '+' :: digits => (numberIn? 10 digits).map fun n => (n : Int)
      | digits => (numberIn? 10 digits).map fun n => (n : Int)
    else none

/-- The double nearest to `significand * 10 ^ power`; `none` if that is infinite. -/
def nearest? (negative : Bool) (significand : Nat) (power : Int) : Option Double :=
  let size := ((toString significand).length : Int) + power
  if significand = 0 ∨ size < -400 then some (Double.zero negative)
  else if 400 < size then none
  else if 0 ≤ power then Double.ofFraction negative (significand * Nat.pow 10 power.toNat) 1
  else Double.ofFraction negative significand (Nat.pow 10 (-power).toNat)

/-- The double that digits with a point and an exponent spell. -/
def decimal? (cs : List Char) : Option Double := do
  let (negative, cs) := match cs with
    | '-' :: rest => (true, rest)
    | cs => (false, cs)
  let whole := cs.takeWhile Char.isDigit
  let (fraction, rest) := match cs.drop whole.length with
    | '.' :: rest => (rest.takeWhile Char.isDigit, rest.dropWhile Char.isDigit)
    | rest => ([], rest)
  let significand ← numberIn? 10 (whole ++ fraction)
  let power ← exponent? rest
  nearest? negative significand (power - fraction.length)

/-- The number that a text spells, if it is no integer. -/
def real? (cs : List Char) : Option Real :=
  let unsigned := match cs with
    | '+' :: rest => rest
    | cs => cs
  let word := String.ofList cs
  if [".inf", ".Inf", ".INF"].contains (String.ofList unsigned) then some (.infinite false)
  else if ["-.inf", "-.Inf", "-.INF"].contains word then some (.infinite true)
  else if [".nan", ".NaN", ".NAN"].contains word then some .notANumber
  else if cs.head? == some '+' && unsigned.head? == some '-' then none
  else (decimal? unsigned).map .finite

/-! ### Scalars -/

/-- Whether a text says that nothing is there. -/
def isNullWord (s : String) : Bool := ["null", "Null", "NULL", "~"].contains s

/-- The boolean that a text spells. -/
def boolean? (s : String) : Option Bool :=
  if ["true", "True", "TRUE"].contains s then some true
  else if ["false", "False", "FALSE"].contains s then some false
  else none

/-- The meaning of a scalar without quotes and tag. -/
def plainMeaning (s : String) : Meaning :=
  if s.isEmpty || isNullWord s then .null
  else match boolean? s, integer? s.toList with
    | some b, _ => .bool b
    | none, some n => n
    | none, none =>
      if hasLeadingZero s.toList then .text s
      else match real? s.toList with
        | some r => .real r
        | none => .text s

/-- A meaning that a tag insists on. -/
def insist (s expected : String) (m : Option Meaning) : Except DecodeFault Meaning :=
  match m with
  | some m => .ok m
  | none => .error (.wrongValue (.text s) expected)

/-- The meaning of a scalar. -/
def scalarMeaning (tag : Option Tag) (style : ScalarStyle) (s : String) :
    Except DecodeFault Meaning :=
  let free := if style = .plain then plainMeaning s else .text s
  match tag with
  | none => .ok free
  | some tag =>
    if tag = Tag.common "bool" then insist s "a boolean" ((boolean? s).map .bool)
    else if tag = Tag.common "int" then insist s "an integer" (integer? s.toList)
    else if tag = Tag.common "float" then insist s "a float" ((real? s.toList).map .real)
    else if tag = Tag.common "null" then
      insist s "null" (if isNullWord s then some .null else none)
    else .ok (if tag.isOwn then free else .text s)

end Orchestration.Yaml
