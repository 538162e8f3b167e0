import Orchestration.Json.Value
import Orchestration.Text.Raw
import Orchestration.Decode.Fault

/-!
# Numbers and strings as they are written in JSON

Readers of the two literals of JSON that have an inside.  Each comes in two strengths, since a
value that nobody wants is passed over with fewer checks than one that is read:

* `NumberLiteral` — a sign, whole digits, a fraction and an exponent;
* `NumberLiteral.value` — its number: significant digits beyond 64 bits are dropped, and a
  power of ten is applied by one rounded operation;
* `scanNumber` — the literal at the beginning of a text;
* `readString` — the characters up to the closing quote, with escapes undone;
* `skipString` — what follows the closing quote.
-/

namespace Orchestration

/-- The names of one fault: as it is called when the value is wanted, when it is passed over, and
when only a name may stand there, which nothing but a string or an object can be. -/
structure FaultNames where
  wanted : SyntaxFault
  unwanted : SyntaxFault
  asName : SyntaxFault
  deriving DecidableEq, Repr

/-- A fault with one name. -/
def FaultNames.always (f : SyntaxFault) : FaultNames := ⟨f, f, f⟩

/-- A fault in a value that is no name. -/
def FaultNames.notName (wanted unwanted : SyntaxFault) : FaultNames :=
  ⟨wanted, unwanted, .noValue⟩

/-! ### Numbers -/

/-- The value of a decimal digit. -/
def digitValue? (c : Char) : Option Nat :=
  if '0' ≤ c ∧ c ≤ '9' then some (c.toNat - 48) else none

/-- The digits at the beginning of a text, and the rest. -/
def takeDigits : RawText → List Nat × RawText
  | .char c :: rest =>
    match digitValue? c with
    | some d => let (ds, rest) := takeDigits rest; (d :: ds, rest)
    | none => ([], .char c :: rest)
  | t => ([], t)

/-- A number as written. -/
structure NumberLiteral where
  negative : Bool
  whole : List Nat
  fraction : Option (List Nat)
  /-- Whether the exponent is negative, and its digits. -/
  exponent : Option (Bool × List Nat)

namespace NumberLiteral

/-- Append digits to a significand as long as it fits 64 bits; with the number of digits that
were dropped. -/
def accumulate (significand : Nat) : List Nat → Nat × Nat
  | [] => (significand, 0)
  | d :: ds =>
    if Nat.pow 2 64 ≤ significand * 10 + d then (significand, (d :: ds).length)
    else accumulate (significand * 10 + d) ds

/-- Ten to a power, as a double. -/
def tenTo (power : Nat) : Double := (Double.ofNat (Nat.pow 10 power)).getD (Double.zero false)

/-- Divide by `10 ^ 308` a number of times, as long as that changes anything. -/
def shrink : Nat → Double → Double
  | 0, f => f
  | times + 1, f =>
    if f.isZero then f else shrink times ((f.div (tenTo 308)).getD f)

/-- A significand with a power of ten applied to it. -/
def scale (significand : Nat) (power : Int) : Except SyntaxFault Double :=
  let f := (Double.ofNat significand).getD (Double.zero false)
  if 308 < power then
    if f.isZero then .ok f else .error .numberTooLarge
  else if 0 ≤ power then
    match f.mul (tenTo power.toNat) with
    | some d => .ok d
    | none => .error .numberTooLarge
  else
    let times := (power.natAbs - 1) / 308
    let f := shrink times f
    if f.isZero then .ok f
    else .ok ((f.div (tenTo (power.natAbs - 308 * times))).getD f)

/-- The number of a digit list, unless it is beyond 31 bits. -/
def smallNat? (digits : List Nat) : Option Nat :=
  digits.foldl (fun acc d => acc.bind fun n =>
    if Nat.pow 2 31 ≤ n * 10 + d then none else some (n * 10 + d)) (some 0)

/-- The number of a literal. -/
def value (l : NumberLiteral) : Except SyntaxFault Number :=
  let (significand, dropped) := accumulate 0 l.whole
  let signed (d : Double) : Number := .real (d.withSign l.negative)
  match l.fraction, l.exponent with
  | none, none =>
    if dropped = 0 then
      if l.negative then
        if significand = 0 then .ok (.real (Double.zero true))
        else .ok (.ofInt (-significand))
      else .ok (.ofNat significand)
    else (scale significand dropped).map signed
  | fraction, exponent =>
    let digits := fraction.getD []
    let (significand, ignored) :=
      if dropped = 0 then accumulate significand digits
      else match digits with
        | [] => (significand, 0)
        | ds => accumulate significand ds
    let power : Int := (dropped : Int) - ((digits.length - ignored : Nat) : Int)
    match exponent with
    | none => (scale significand power).map signed
    | some (negative, ds) =>
      match smallNat? ds with
      | some e => (scale significand (if negative then power - e else power + e)).map signed
      | none =>
        if significand ≠ 0 && !negative then .error .numberTooLarge
        else .ok (signed (Double.zero false))

end NumberLiteral

/-- The faults of a place where a digit must stand. -/
def noDigit (t : RawText) : FaultNames :=
  .notName (if t.isEmpty then .endInValue else .badNumber) .badNumber

/-- The digits before the point: one zero, or digits that start with another one. -/
def scanWhole (t : RawText) : Except FaultNames (List Nat × RawText) :=
  match takeDigits t with
  | ([], _) => .error (noDigit t)
  | (0 :: _ :: _, _) => .error (.notName .badNumber .badNumber)
  | (ds, rest) => .ok (ds, rest)

/-- The point and the digits after it, if there is a point. -/
def scanFraction : RawText → Except FaultNames (Option (List Nat) × RawText)
  | .char '.' :: rest =>
    match takeDigits rest with
    | ([], _) => .error (noDigit rest)
    | (ds, rest) => .ok (some ds, rest)
  | t => .ok (none, t)

/-- The sign of an exponent, if it has one. -/
def scanExponentSign : RawText → Bool × RawText
  | .char '+' :: rest => (false, rest)
  | .char '-' :: rest => (true, rest)
  | t => (false, t)

/-- The exponent, if there is one. -/
def scanExponent (t : RawText) : Except FaultNames (Option (Bool × List Nat) × RawText) :=
  match t with
  | .char c :: rest =>
    if c = 'e' ∨ c = 'E' then
      let (negative, rest) := scanExponentSign rest
      match takeDigits rest with
      | ([], _) => .error (noDigit rest)
      | (ds, rest) => .ok (some (negative, ds), rest)
    else .ok (none, t)
  | _ => .ok (none, t)

/-- The number literal at the beginning of a text, after its sign. -/
def scanNumber (negative : Bool) (t : RawText) : Except FaultNames (NumberLiteral × RawText) := do
  let (whole, t) ← scanWhole t
  let (fraction, t) ← scanFraction t
  let (exponent, t) ← scanExponent t
  return (⟨negative, whole, fraction, exponent⟩, t)

/-! ### Strings -/

/-- The value of a hexadecimal digit. -/
def hexValue? (g : Glyph) : Option Nat :=
  match g with
  | .char c =>
    if '0' ≤ c ∧ c ≤ '9' then some (c.toNat - 48)
    else if 'a' ≤ c ∧ c ≤ 'f' then some (c.toNat - 87)
    else if 'A' ≤ c ∧ c ≤ 'F' then some (c.toNat - 55)
    else none
  | .broken _ => none

/-- The number that four hexadecimal digits spell. -/
def hexQuad? (a b c d : Glyph) : Option Nat := do
  let a ← hexValue? a
  let b ← hexValue? b
  let c ← hexValue? c
  let d ← hexValue? d
  return ((a * 16 + b) * 16 + c) * 16 + d

/-- The fault of a text in which four hexadecimal digits should stand first. -/
def noHexQuad (t : RawText) : SyntaxFault :=
  if RawText.byteLength (t.take 4) < 4 then .endInString else .badEscape

/-- The character that a one-letter escape stands for. -/
def simpleEscape? (c : Char) : Option Char :=
  if c = '"' ∨ c = '\\' ∨ c = '/' then some c
  else if c = 'b' then some (Char.ofNat 8)
  else if c = 'f' then some (Char.ofNat 12)
  else if c = 'n' then some '\n'
  else if c = 'r' then some '\r'
  else if c = 't' then some '\t'
  else none

/-- What follows the closing quote of a string, checking no more than where it ends. -/
def skipString : RawText → Except SyntaxFault RawText
  | [] => .error .endInString
  | .broken _ :: rest => skipString rest
  | .char c :: rest =>
    if c = '"' then .ok rest
    else if c = '\\' then
      match rest with
      | [] => .error .endInString
      | .char 'u' :: a :: b :: c :: d :: rest =>
        if (hexQuad? a b c d).isSome then skipString rest
        else .error (noHexQuad (a :: b :: c :: d :: rest))
      | .char 'u' :: rest => .error (noHexQuad rest)
      | .char e :: rest => if (simpleEscape? e).isSome then skipString rest else .error .badEscape
      | .broken _ :: _ => .error .badEscape
    else if c.toNat < 32 then .error .controlCharacter
    else skipString rest

/-- The character of a surrogate pair. -/
def pairedChar (high low : Nat) : Char :=
  Char.ofNat ((high - 0xD800) * 1024 + (low - 0xDC00) + 0x10000)

/-- The glyphs up to the closing quote, with escapes undone. -/
def readGlyphs : RawText → Except SyntaxFault RawText
  | [] => .error .endInString
  | .broken bytes :: rest => (readGlyphs rest).map (.broken bytes :: ·)
  | .char c :: rest =>
    if c = '"' then .ok []
    else if c = '\\' then
      match rest with
      | [] => .error .endInString
      | .char 'u' :: a :: b :: c :: d :: rest =>
        match hexQuad? a b c d with
        | none => .error (noHexQuad (a :: b :: c :: d :: rest))
        | some n =>
          if 0xDC00 ≤ n ∧ n ≤ 0xDFFF then .error .loneSurrogate
          else if 0xD800 ≤ n ∧ n ≤ 0xDBFF then
            match rest with
            | [] => .error .endInString
            | .char '\\' :: [] => .error .endInString
            | .char '\\' :: .char 'u' :: e :: f :: g :: h :: rest =>
              match hexQuad? e f g h with
              | none => .error (noHexQuad (e :: f :: g :: h :: rest))
              | some low =>
                if 0xDC00 ≤ low ∧ low ≤ 0xDFFF then
                  (readGlyphs rest).map (.char (pairedChar n low) :: ·)
                else .error .loneSurrogate
            | .char '\\' :: .char 'u' :: rest => .error (noHexQuad rest)
            | _ => .error .halfSurrogatePair
          else (readGlyphs rest).map (.char (Char.ofNat n) :: ·)
      | .char 'u' :: rest => .error (noHexQuad rest)
      | .char e :: rest =>
        match simpleEscape? e with
        | some c => (readGlyphs rest).map (.char c :: ·)
        | none => .error .badEscape
      | .broken _ :: _ => .error .badEscape
    else if c.toNat < 32 then .error .controlCharacter
    else (readGlyphs rest).map (.char c :: ·)

/-- The string up to the closing quote; that it is Unicode is checked last. -/
def readString (t : RawText) : Except SyntaxFault String := do
  let glyphs ← readGlyphs t
  match RawText.strict? glyphs with
  | .ok s => return s
  | .error _ => throw .notUnicode

end Orchestration
