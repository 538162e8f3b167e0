/-!
# Binary floating point of 64 bits, exactly

A finite double is a sign, a mantissa below `2 ^ 53` and a power of two.  Arithmetic is done on
fractions of natural numbers and rounded once, to the nearest double with ties to the even
mantissa:

* `Double` — the finite doubles;
* `Double.ofFraction` — the nearest double of a fraction, if it is finite;
* `Double.mul`, `Double.div`, `Double.ofNat` — the rounded operations;
* `Double.fraction` — the magnitude as a fraction.
-/

namespace Orchestration

/-- A finite double: `mantissa * 2 ^ exponent`, negated if `negative`. -/
structure Double where
  negative : Bool
  mantissa : Nat
  exponent : Int
  deriving DecidableEq, Repr, Inhabited

namespace Double

/-- The least exponent of a double. -/
def minExponent : Int := -1074

/-- The greatest exponent of a finite double. -/
def maxExponent : Int := 971

/-- Zero with a sign. -/
def zero (negative : Bool) : Double := ⟨negative, 0, minExponent⟩

/-- Whether the value is zero, of either sign. -/
def isZero (d : Double) : Bool := d.mantissa == 0

/-- The same magnitude with a given sign. -/
def withSign (d : Double) (negative : Bool) : Double := { d with negative }

/-- The quotient rounded to the nearest natural number, a tie to the even one. -/
def roundHalfEven (num den : Nat) : Nat :=
  let q := num / den
  let r := num % den
  if 2 * r < den then q
  else if den < 2 * r then q + 1
  else if q % 2 = 0 then q else q + 1

/-- The fraction `num / den / 2 ^ e`, as numerator and denominator. -/
def scaled (num den : Nat) (e : Int) : Nat × Nat :=
  if 0 ≤ e then (num, den * Nat.pow 2 e.toNat) else (num * Nat.pow 2 (-e).toNat, den)

/-- The exponent at which a fraction has a mantissa of 53 bits, or the least exponent. -/
def exponentFor (num den : Nat) : Int :=
  let e := (num.log2 : Int) - den.log2 - 52
  let (n, d) := scaled num den e
  max (if n / d < Nat.pow 2 52 then e - 1 else e) minExponent

/-- The nearest double of a fraction; `none` if that is infinite. -/
def ofFraction (negative : Bool) (num den : Nat) : Option Double :=
  if num = 0 then some (zero negative)
  else
    let e := exponentFor num den
    let (n, d) := scaled num den e
    let m := roundHalfEven n d
    let (m, e) := if m = Nat.pow 2 53 then (Nat.pow 2 52, e + 1) else (m, e)
    if maxExponent < e then none else some ⟨negative, m, e⟩

/-- The magnitude as a fraction. -/
def fraction (d : Double) : Nat × Nat :=
  if 0 ≤ d.exponent then (d.mantissa * Nat.pow 2 d.exponent.toNat, 1)
  else (d.mantissa, Nat.pow 2 (-d.exponent).toNat)

/-- The nearest double of a natural number. -/
def ofNat (n : Nat) : Option Double := ofFraction false n 1

/-- The rounded product. -/
def mul (a b : Double) : Option Double :=
  let (an, ad) := a.fraction
  let (bn, bd) := b.fraction
  ofFraction (a.negative != b.negative) (an * bn) (ad * bd)

/-- The rounded quotient of `a` and a divisor other than zero. -/
def div (a b : Double) : Option Double :=
  let (an, ad) := a.fraction
  let (bn, bd) := b.fraction
  ofFraction (a.negative != b.negative) (an * bd) (ad * bn)

theorem fraction_zero (negative : Bool) : (zero negative).fraction.1 = 0 := by
  unfold fraction
  split <;> simp only [zero, Nat.zero_mul]

end Double

end Orchestration
