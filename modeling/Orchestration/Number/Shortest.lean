import Orchestration.Number.Double

/-!
# The shortest decimal that reads back

A double is written with the fewest decimal digits that still single it out among all doubles,
and of those digits the ones nearest to its value.  Where two are equally near, it depends on the
use which of them is taken:

* `Decimal` — digits and a power of ten;
* `TieRule` — which of two equally near neighbours is taken;
* `Double.shortest` — the decimal of a double;
* `Decimal.positional` and `Decimal.scientific` — the two ways of writing one.
-/

namespace Orchestration

/-- A magnitude `digits * 10 ^ exponent`. -/
structure Decimal where
  digits : Nat
  exponent : Int
  deriving DecidableEq, Repr

/-- Which of two neighbours is taken if they are equally near. -/
inductive TieRule where
  | upper
  | even
  deriving DecidableEq, Repr

/-- Whether the upper neighbour is taken, given the lower one and the distances of both. -/
def TieRule.takesUpper (rule : TieRule) (lower lowerGap upperGap : Nat) : Bool :=
  decide (upperGap < lowerGap) ||
    upperGap == lowerGap && (rule == .upper || lower % 2 == 1)

theorem TieRule.takesUpper_of_lt (rule : TieRule) (lower lowerGap upperGap : Nat)
    (h : upperGap < lowerGap) : rule.takesUpper lower lowerGap upperGap = true := by
  simp [takesUpper, h]

/-- The decimal digits of a natural number. -/
def decimalText (n : Nat) : String := toString n

namespace Decimal

/-- The same magnitude without zeros at the end of its digits. -/
def normalize (fuel : Nat) (d : Decimal) : Decimal :=
  match fuel with
  | 0 => d
  | fuel + 1 =>
    if d.digits ≠ 0 ∧ d.digits % 10 = 0 then normalize fuel ⟨d.digits / 10, d.exponent + 1⟩
    else d

/-- The exponent `p` with `10 ^ p ≤ num / den < 10 ^ (p + 1)`, for a fraction above zero. -/
def leadingExponent (num den : Nat) : Int :=
  if den ≤ num then ((decimalText (num / den)).length : Int) - 1
  else
    let size := (decimalText (den / num)).length
    if den ≤ num * Nat.pow 10 (size - 1) then -((size : Int) - 1) else -(size : Int)

/-- Digits and exponent for a fraction cut to `count` digits, with the unit of the last digit as
a fraction. -/
def gridUnit (leading : Int) (count : Nat) : Int × Nat × Nat :=
  let e := leading - (count : Int) + 1
  if 0 ≤ e then (e, Nat.pow 10 e.toNat, 1) else (e, 1, Nat.pow 10 (-e).toNat)

/-- Write a decimal without an exponent, with at least one digit after the point. -/
def positional (d : Decimal) : String :=
  let ds := decimalText d.digits
  if 0 ≤ d.exponent then ds ++ String.ofList (List.replicate d.exponent.toNat '0') ++ ".0"
  else
    let places := (-d.exponent).toNat
    let cs := ds.toList
    if places < cs.length then
      String.ofList (cs.take (cs.length - places)) ++ "."
        ++ String.ofList (cs.drop (cs.length - places))
    else "0." ++ String.ofList (List.replicate (places - cs.length) '0') ++ ds

/-- The power of ten of the first digit. -/
def leading (d : Decimal) : Int :=
  d.exponent + ((decimalText d.digits).length : Int) - 1

/-- Write a decimal with one digit before the point and a signed power of ten. -/
def scientific (d : Decimal) : String :=
  let power := d.leading
  let sign := if 0 ≤ power then "+" else "-"
  let ending := "e" ++ sign ++ decimalText power.natAbs
  match (decimalText d.digits).toList with
  | [] => ending
  | [c] => String.ofList [c] ++ ending
  | c :: cs => String.ofList (c :: '.' :: cs) ++ ending

end Decimal

namespace Double

/-- Of the two decimals with `count` digits next to a double, the nearer one that reads back as
the double. -/
def candidate? (rule : TieRule) (d : Double) (leading : Int) (count : Nat) :
    Option Decimal :=
  let (num, den) := d.fraction
  let even := d.mantissa % 2 = 0
  let unit : Nat × Nat :=
    if 0 ≤ d.exponent then (Nat.pow 2 d.exponent.toNat, 1) else (1, Nat.pow 2 (-d.exponent).toNat)
  let below := if d.mantissa = Nat.pow 2 52 ∧ minExponent < d.exponent then 1 else 2
  -- the interval of what reads back, in quarters of the double's unit
  let low := 4 * d.mantissa - below
  let high := 4 * d.mantissa + 2
  let (e, un, ud) := Decimal.gridUnit leading count
  let floor := num * ud / (den * un)
  let within (digits : Nat) : Bool :=
    let left := digits * un * unit.2 * 4
    let lo := low * unit.1 * ud
    let hi := high * unit.1 * ud
    if even then lo ≤ left && left ≤ hi else lo < left && left < hi
  let gap (digits : Nat) : Nat :=
    let a := digits * un * den
    let b := num * ud
    (a - b) + (b - a)
  match within floor, within (floor + 1) with
  | true, true =>
    some ⟨if rule.takesUpper floor (gap floor) (gap (floor + 1)) then floor + 1 else floor, e⟩
  | true, false => some ⟨floor, e⟩
  | false, true => some ⟨floor + 1, e⟩
  | false, false => none

/-- The first decimal that reads back, trying `count` digits and then more. -/
def shortestFrom (rule : TieRule) (d : Double) (leading : Int) : Nat → Nat → Decimal
  | 0, _ => ⟨d.mantissa, 0⟩
  | tries + 1, count =>
    match candidate? rule d leading count with
    | some found => found
    | none => shortestFrom rule d leading tries (count + 1)

/-- The shortest decimal of the magnitude of a double. -/
def shortest (rule : TieRule) (d : Double) : Decimal :=
  if d.mantissa = 0 then ⟨0, 0⟩
  else
    let (num, den) := d.fraction
    (shortestFrom rule d (Decimal.leadingExponent num den) 18 1).normalize 20

/-- The sign of a double in front of a text. -/
def signed (d : Double) (text : String) : String :=
  if d.negative then "-" ++ text else text

/-- A double written out without an exponent; half a unit counts as a whole one. -/
def positionalText (d : Double) : String :=
  d.signed (d.shortest .upper).positional

/-- A double written without an exponent from `0.00001` up to below `10 ^ 16`, and with one
elsewhere; half a unit goes to the even digit. -/
def text (d : Double) : String :=
  let decimal := d.shortest .even
  d.signed <|
    if d.isZero || (-5 ≤ decimal.leading && decimal.leading < 16) then decimal.positional
    else decimal.scientific

end Double

end Orchestration
