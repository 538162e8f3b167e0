import Orchestration.Text.Blank

/-!
# Instants of time and their texts

Records carry instants in universal time, kept by calendar fields.  A second that a clock
inserts is the second 59 with a fraction of a whole second more:

* `Timestamp` — an instant, with the proof that its fields are in range;
* `Timestamp.text` — the text in records: `Z`, and a fraction of 0, 3, 6 or 9 digits;
* `Timestamp.parse` — reading a text: RFC 3339 with blanks between the parts, one-digit fields,
  any offset and years of any length;
* `Timestamp.plain`, `Timestamp.compactDate` — the texts in listings and identifiers.
-/

namespace Orchestration

/-! ### The calendar -/

/-- Whether a year has a 29th of February. -/
def isLeapYear (year : Int) : Bool :=
  year % 4 == 0 && (year % 100 != 0 || year % 400 == 0)

/-- The number of days of a month. -/
def daysIn (year : Int) (month : Nat) : Nat :=
  if month = 2 then (if isLeapYear year then 29 else 28)
  else if month = 4 ∨ month = 6 ∨ month = 9 ∨ month = 11 then 30
  else 31

/-- Whether calendar fields name an instant. -/
def validFields (year : Int) (month day hour minute second nano : Nat) : Bool :=
  -262143 ≤ year && year ≤ 262142 && 1 ≤ month && month ≤ 12 &&
    1 ≤ day && day ≤ daysIn year month &&
  hour ≤ 23 && minute ≤ 59 && second ≤ 59 &&
  (nano < 1000000000 || (second == 59 && nano < 2000000000))

/-- An instant in universal time. -/
structure Timestamp where
  year : Int
  month : Nat
  day : Nat
  hour : Nat
  minute : Nat
  second : Nat
  /-- Nanoseconds; from `10 ^ 9` on, those of an inserted second. -/
  nano : Nat
  valid : validFields year month day hour minute second nano = true
  deriving DecidableEq, Repr

namespace Timestamp

/-- The instant of calendar fields, if there is one. -/
def make? (year : Int) (month day hour minute second nano : Nat) : Option Timestamp :=
  if h : validFields year month day hour minute second nano = true then
    some ⟨year, month, day, hour, minute, second, nano, h⟩
  else none

theorem daysIn_le (year : Int) (month : Nat) : daysIn year month ≤ 31 := by
  unfold daysIn
  split
  · split <;> decide
  · split <;> decide

theorem month_le (t : Timestamp) : t.month ≤ 12 := by
  have h := t.valid
  simp only [validFields, Bool.and_eq_true, decide_eq_true_eq] at h
  exact h.1.1.1.1.1.1.2

theorem day_le (t : Timestamp) : t.day ≤ 31 := by
  have h := t.valid
  simp only [validFields, Bool.and_eq_true, decide_eq_true_eq] at h
  exact Nat.le_trans h.1.1.1.1.2 (daysIn_le t.year t.month)

/-- The beginning of the year 1970. -/
def epoch : Timestamp := ⟨1970, 1, 1, 0, 0, 0, 0, by decide⟩

instance : Inhabited Timestamp := ⟨epoch⟩

/-! ### Writing -/

/-- The lowest `count` decimal digits of a number, highest first. -/
def padded : Nat → Nat → List Char
  | 0, _ => []
  | count + 1, n => padded count (n / 10) ++ [Char.ofNat (48 + n % 10)]

@[simp] theorem padded_length (count n : Nat) : (padded count n).length = count := by
  induction count generalizing n with
  | zero => rfl
  | succ count ih => simp [padded, ih]

/-- A year: four digits, with a sign when four are not enough. -/
def yearChars (year : Int) : List Char :=
  if 0 ≤ year ∧ year ≤ 9999 then padded 4 year.toNat
  else
    let digits := (toString year.natAbs).toList
    (if year < 0 then '-' else '+') :: (List.replicate (4 - digits.length) '0' ++ digits)

/-- The second as it is written, 60 for an inserted one. -/
def shownSecond (t : Timestamp) : Nat :=
  if 1000000000 ≤ t.nano then t.second + 1 else t.second

/-- The fraction of a second, as short as thousands allow. -/
def fractionChars (nano : Nat) : List Char :=
  if nano = 0 then []
  else if nano % 1000000 = 0 then '.' :: padded 3 (nano / 1000000)
  else if nano % 1000 = 0 then '.' :: padded 6 (nano / 1000)
  else '.' :: padded 9 nano

/-- The date with dashes. -/
def dateChars (t : Timestamp) : List Char :=
  yearChars t.year ++ '-' :: padded 2 t.month ++ '-' :: padded 2 t.day

/-- The time of day with colons. -/
def timeChars (t : Timestamp) : List Char :=
  padded 2 t.hour ++ ':' :: padded 2 t.minute ++ ':' :: padded 2 t.shownSecond

/-- The text of an instant in records. -/
def text (t : Timestamp) : String :=
  String.ofList
    (t.dateChars ++ 'T' :: t.timeChars ++ fractionChars (t.nano % 1000000000) ++ ['Z'])

/-- Date and time without fraction, as listings show them. -/
def plain (t : Timestamp) : String :=
  String.ofList (t.dateChars ++ ' ' :: t.timeChars)

/-- The date without dashes, as identifiers hold it. -/
def compactDate (t : Timestamp) : String :=
  String.ofList (yearChars t.year ++ padded 2 t.month ++ padded 2 t.day)

/-! ### Moving by a day -/

/-- A calendar date. -/
structure Date where
  year : Int
  month : Nat
  day : Nat

/-- The day after. -/
def Date.next (d : Date) : Date :=
  if d.day < daysIn d.year d.month then { d with day := d.day + 1 }
  else if d.month < 12 then ⟨d.year, d.month + 1, 1⟩
  else ⟨d.year + 1, 1, 1⟩

/-- The day before. -/
def Date.previous (d : Date) : Date :=
  if 1 < d.day then { d with day := d.day - 1 }
  else if 1 < d.month then ⟨d.year, d.month - 1, daysIn d.year (d.month - 1)⟩
  else ⟨d.year - 1, 12, 31⟩

/-- The instant at which clocks ahead of universal time by `offset` minutes show the given
fields; `none` if it lies beyond the calendar. -/
def ofLocal? (date : Date) (hour minute second nano : Nat) (offset : Int) : Option Timestamp :=
  let minutes : Int := hour * 60 + minute - offset
  let (date, minutes) :=
    if minutes < 0 then (date.previous, minutes + 1440)
    else if 1440 ≤ minutes then (date.next, minutes - 1440)
    else (date, minutes)
  make? date.year date.month date.day (minutes.toNat / 60) (minutes.toNat % 60) second nano

/-- The date a number of days after the beginning of 1970. -/
def Date.afterEpoch : Nat → Date
  | 0 => ⟨1970, 1, 1⟩
  | days + 1 => (Date.afterEpoch days).next

/-- The instant a number of seconds after the beginning of 1970. -/
def ofEpochSeconds (seconds nano : Nat) : Timestamp :=
  let date := Date.afterEpoch (seconds / 86400)
  let second := seconds % 86400
  (make? date.year date.month date.day (second / 3600) (second / 60 % 60) (second % 60) nano).getD
    epoch

/-! ### Reading -/

/-- Why a text is no instant. -/
inductive Fault where
  | tooShort
  | invalid
  | outOfRange
  | impossible
  | tooLong
  deriving DecidableEq, Repr

/-- The words for a fault. -/
def Fault.message : Fault → String
  | .tooShort => "premature end of input"
  | .invalid => "input contains invalid characters"
  | .outOfRange => "input is out of range"
  | .impossible => "no possible date and time matching input"
  | .tooLong => "trailing input"

/-- Text that is read from its beginning. -/
abbrev Reader (α : Type) := List Char → Except Fault (α × List Char)

/-- Digits at the beginning of a text, at most `limit` of them. -/
def takeDigits : Nat → List Char → List Nat × List Char
  | 0, cs => ([], cs)
  | _, [] => ([], [])
  | limit + 1, c :: cs =>
    if '0' ≤ c ∧ c ≤ '9' then
      let (ds, rest) := takeDigits limit cs
      ((c.toNat - 48) :: ds, rest)
    else ([], c :: cs)

/-- The number that digits spell. -/
def ofDigits (ds : List Nat) : Nat := ds.foldl (fun n d => n * 10 + d) 0

/-- A number of at least one and at most `limit` digits. -/
def number (limit : Nat) : Reader Nat := fun cs =>
  match takeDigits limit cs with
  | ([], []) => .error .tooShort
  | ([], _ :: _) => .error .invalid
  | (ds, rest) => if Nat.pow 2 63 ≤ ofDigits ds then .error .outOfRange else .ok (ofDigits ds, rest)

/-- A number between bounds, with blanks before it. -/
def field (low high : Nat) : Reader Nat := fun cs => do
  let (n, rest) ← number 2 (trimmedStart cs)
  if low ≤ n ∧ n ≤ high then return (n, rest) else throw .outOfRange

/-- A year: four digits at most, or a sign and any number of digits. -/
def yearField : Reader Int := fun cs => do
  let (year, rest) ← match trimmedStart cs with
    | '-' :: cs => (number cs.length cs).map fun (n, rest) => (-(n : Int), rest)
    | '+' :: cs => (number cs.length cs).map fun (n, rest) => ((n : Int), rest)
    | cs => (number 4 cs).map fun (n, rest) => ((n : Int), rest)
  if -2147483648 ≤ year ∧ year < 2147483648 then return (year, rest) else throw .outOfRange

/-- A separator, with blanks before it. -/
def separator (c : Char) : Reader Unit := fun cs =>
  match trimmedStart cs with
  | [] => .error .tooShort
  | d :: rest => if d = c then .ok ((), rest) else .error .invalid

/-- What stands between date and time. -/
def dateEnd : Reader Unit := fun cs =>
  match cs with
  | [] => .error .tooShort
  | c :: rest => if c = 'T' ∨ c = 't' ∨ c = ' ' then .ok ((), rest) else .error .invalid

/-- A point and the nanoseconds after it; digits beyond the ninth are passed over. -/
def fraction : Reader Nat := fun cs =>
  match cs with
  | '.' :: cs => do
    let _ ← number 9 cs
    let (ds, rest) := takeDigits 9 cs
    return (ofDigits ds * Nat.pow 10 (9 - ds.length), (takeDigits rest.length rest).2)
  | cs => .ok (0, cs)

/-- Two characters, counted in bytes: a single one may be enough. -/
def pair : List Char → Except Fault (Option (Char × Char) × List Char)
  | a :: b :: rest => .ok (some (a, b), rest)
  | [a] => if 2 ≤ a.utf8Size then .ok (none, []) else .error .tooShort
  | [] => .error .tooShort

/-- The value of a decimal digit. -/
def digit? (c : Char) : Option Nat :=
  if '0' ≤ c ∧ c ≤ '9' then some (c.toNat - 48) else none

/-- Two digits. -/
def twoDigits : Reader Nat := fun cs => do
  match ← pair cs with
  | (some (a, b), rest) =>
    match digit? a, digit? b with
    | some a, some b => return (a * 10 + b, rest)
    | _, _ => throw .invalid
  | (none, _) => throw .invalid

/-- The hours and minutes of an offset, after its sign. -/
def offsetMinutes : Reader Nat := fun cs => do
  let (hours, rest) ← twoDigits cs
  let (minutes, rest) ← twoDigits (rest.dropWhile fun c => c == ':' || isBlank c)
  if minutes ≤ 59 then return (hours * 60 + minutes, rest) else throw .outOfRange

/-- The offset from universal time, in minutes. -/
def offset : Reader Int := fun cs =>
  match cs with
  | [] => .error .tooShort
  | c :: rest =>
    if cs.take 3 |>.map Char.toUpper |> (· == ['U', 'T', 'C']) then .ok (0, cs.drop 3)
    else if c = 'Z' ∨ c = 'z' then .ok (0, rest)
    else if c = '+' then (offsetMinutes rest).map fun (m, rest) => ((m : Int), rest)
    else if c = '-' ∨ c.toNat = 0x2212 then
      (offsetMinutes rest).map fun (m, rest) => (-(m : Int), rest)
    else .error .invalid

/-- Read an instant. -/
def parse (s : String) : Except Fault Timestamp := do
  let (year, cs) ← yearField s.toList
  let (_, cs) ← separator '-' cs
  let (month, cs) ← field 1 12 cs
  let (_, cs) ← separator '-' cs
  let (day, cs) ← field 1 31 cs
  let (_, cs) ← dateEnd cs
  let (hour, cs) ← field 0 23 cs
  let (_, cs) ← separator ':' cs
  let (minute, cs) ← field 0 59 cs
  let (_, cs) ← separator ':' cs
  let (second, cs) ← field 0 60 cs
  let (nano, cs) ← fraction cs
  let (offset, cs) ← offset (trimmedStart cs)
  if !(trimmedStart cs).isEmpty then throw .tooLong
  let (second, nano) := if second = 60 then (59, nano + 1000000000) else (second, nano)
  if (make? year month day hour minute second nano).isNone then throw .outOfRange
  if 1440 ≤ offset.natAbs then throw .outOfRange
  match ofLocal? ⟨year, month, day⟩ hour minute second nano offset with
  | some t => return t
  | none => throw .impossible

end Timestamp

end Orchestration
