import Orchestration.Text.Printable

/-!
# Quoted text in messages

A message that cites a text puts it in double quotes and makes every character visible:

* `hexDigits` — a number in hexadecimal, without leading zeros;
* `quoteChar` — how one character is shown;
* `quoted` — the whole text.
-/

namespace Orchestration

/-- The digit of a number below sixteen. -/
def hexDigit (n : Nat) : Char :=
  if n < 10 then Char.ofNat (48 + n) else Char.ofNat (87 + n)

/-- The lowest `count` hexadecimal digits of a number, highest first. -/
def hexPadded : Nat → Nat → List Char
  | 0, _ => []
  | count + 1, n => hexPadded count (n / 16) ++ [hexDigit (n % 16)]

@[simp] theorem hexPadded_length (count n : Nat) : (hexPadded count n).length = count := by
  induction count generalizing n with
  | zero => rfl
  | succ count ih => simp [hexPadded, ih]

/-- A code point in hexadecimal, without leading zeros. -/
def hexDigits (n : Nat) : List Char :=
  match (hexPadded 6 n).dropWhile (· == '0') with
  | [] => ['0']
  | digits => digits

/-- How a character is shown inside quotes. -/
def quoteChar (c : Char) : List Char :=
  if c = '"' then ['\\', '"']
  else if c = '\\' then ['\\', '\\']
  else if c = '\n' then ['\\', 'n']
  else if c = '\t' then ['\\', 't']
  else if c = '\r' then ['\\', 'r']
  else if c = Char.ofNat 0 then ['\\', '0']
  else if isPrintable c then [c]
  else ['\\', 'u', '\x7b'] ++ hexDigits c.toNat ++ ['\x7d']

/-- A text in quotes. -/
def quoted (s : String) : String :=
  String.ofList ('"' :: s.toList.flatMap quoteChar ++ ['"'])

end Orchestration
