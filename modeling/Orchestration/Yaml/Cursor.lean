/-!
# Reading a document character by character

Indentation matters in a document, so reading keeps the column; keys have to fit on a line, so it
keeps the line.

* `isBreak`, `isGap`, `isWord`, `isReadable` — classes of characters;
* `Cursor` — the text that is left, and where it starts;
* `Cursor.skip`, `Cursor.skipBreak`, `Cursor.takeBreak` — going on by a character or by a line.
-/

namespace Orchestration.Yaml

/-! ### Classes of characters -/

/-- Whether a character ends a line. -/
def isBreak (c : Char) : Bool :=
  c == '\n' || c == '\r' || c.toNat == 0x85 || c.toNat == 0x2028 || c.toNat == 0x2029

/-- Whether a character separates words on a line. -/
def isGap (c : Char) : Bool := c == ' ' || c == '\t'

/-- Whether a character can stand in the name of an anchor. -/
def isWord (c : Char) : Bool := c.isAlphanum || c == '_' || c == '-'

/-- Whether a character can stand in a document at all. -/
def isReadable (c : Char) : Bool :=
  let n := c.toNat
  n == 0x09 || n == 0x0A || n == 0x0D || (0x20 ≤ n && n ≤ 0x7E) || n == 0x85 ||
  (0xA0 ≤ n && n ≤ 0xD7FF) || (0xE000 ≤ n && n ≤ 0xFFFD) || 0x10000 ≤ n

/-- The mark that may stand before a text in Unicode. -/
def byteOrderMark : Char := Char.ofNat 0xFEFF

/-- The value of a hexadecimal digit. -/
def hexValue? (c : Char) : Option Nat :=
  if c.isDigit then some (c.toNat - '0'.toNat)
  else if 'a' ≤ c && c ≤ 'f' then some (c.toNat - 'a'.toNat + 10)
  else if 'A' ≤ c && c ≤ 'F' then some (c.toNat - 'A'.toNat + 10)
  else none

/-- The number that hexadecimal digits spell. -/
def hexNumber? (cs : List Char) : Option Nat :=
  cs.foldlM (fun n c => (hexValue? c).map (n * 16 + ·)) 0

/-! ### Places in a text -/

/-- The text that is left, with the place where it starts. -/
structure Cursor where
  rest : List Char
  /-- The number of characters before. -/
  index : Nat
  line : Nat
  column : Nat
  deriving Inhabited

namespace Cursor

/-- The beginning of a text. -/
def start (text : List Char) : Cursor := ⟨text, 0, 0, 0⟩

/-- Whether the text is over. -/
def atEnd (c : Cursor) : Bool := c.rest.isEmpty

/-- Whether the next character is the given one. -/
def at? (c : Cursor) (ch : Char) : Bool := c.rest.head? == some ch

/-- Whether the next character satisfies a predicate; not so at the end. -/
def meets (c : Cursor) (p : Char → Bool) : Bool := c.rest.head?.any p

/-- Whether a word is over after `n` characters: a gap, the end of the line or of the text. -/
def endsAfter (c : Cursor) (n : Nat) : Bool :=
  match c.rest.drop n with
  | [] => true
  | ch :: _ => isGap ch || isBreak ch

/-- Whether the character after `n` others satisfies a predicate. -/
def meetsAfter (c : Cursor) (n : Nat) (p : Char → Bool) : Bool := (c.rest.drop n).head?.any p

/-- Go on by some characters of a line. -/
def skip (c : Cursor) (n : Nat) : Cursor :=
  { c with rest := c.rest.drop n, index := c.index + n, column := c.column + n }

/-- Go on while characters satisfy a predicate. -/
def skipWhile (c : Cursor) (p : Char → Bool) : Cursor := c.skip (c.rest.takeWhile p).length

/-- Go on to the next line. -/
def skipBreak (c : Cursor) : Cursor :=
  match c.rest with
  | '\r' :: '\n' :: rest => ⟨rest, c.index + 2, c.line + 1, 0⟩
  | ch :: rest => if isBreak ch then ⟨rest, c.index + 1, c.line + 1, 0⟩ else c
  | [] => c

/-- The end of a line as it counts in a value: a line feed, or a separator of its own. -/
def breakText (c : Cursor) : List Char :=
  match c.rest with
  | ch :: _ =>
    if ch.toNat == 0x2028 || ch.toNat == 0x2029 then [ch]
    else if isBreak ch then ['\n'] else []
  | [] => []

/-- The end of a line, and the next line. -/
def takeBreak (c : Cursor) : List Char × Cursor := (c.breakText, c.skipBreak)

/-- Whether three dashes or three dots stand here, alone at the beginning of a line. -/
def atIndicator (c : Cursor) : Bool :=
  c.column == 0 && (c.rest.take 3 == ['-', '-', '-'] || c.rest.take 3 == ['.', '.', '.'])
    && c.endsAfter 3

/-- Go on to the end of the line, over gaps and a comment; `none` when anything else is there. -/
def endLine? (c : Cursor) : Option Cursor :=
  let c := c.skipWhile isGap
  let c := if c.at? '#' then c.skipWhile (fun ch => !isBreak ch) else c
  if c.atEnd then some c
  else if c.meets isBreak then some c.skipBreak
  else none

theorem skip_zero (c : Cursor) : c.skip 0 = c := by simp [skip]

end Cursor

end Orchestration.Yaml
