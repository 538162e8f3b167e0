/-!
# Raw text: bytes read as characters, with what is not UTF-8 kept

Files, standard input and the output of engines are bytes that are nearly always UTF-8.  A
`RawText` is such a sequence with its decoding already made and nothing lost:

* `Glyph` — one character, or one maximal run of bytes that cannot belong to a character;
* `RawText.ofBytes` — the decoding, which consumes every byte;
* `RawText.strict?` — the text when every glyph is a character, else the first fault;
* `RawText.lossy` — the text with one replacement character for each broken run;
* `RawText.ofString_strict?` — text written as characters is always read back.
-/

namespace Orchestration

/-- A character, or a maximal run of bytes that starts no character. -/
inductive Glyph where
  | char (c : Char)
  | broken (bytes : List UInt8)
  deriving DecidableEq, Repr, Inhabited

/-- The number of bytes a glyph stands for. -/
def Glyph.width : Glyph → Nat
  | .char c => c.utf8Size
  | .broken bytes => bytes.length

/-- Text as it lies in a file or arrives on a pipe. -/
abbrev RawText := List Glyph

namespace RawText

/-! ### Decoding bytes -/

/-- The number of continuation bytes after a first byte, with the bounds of the first of
them; `none` for a byte that starts no character of two or more bytes. -/
def lead? (b : Nat) : Option (Nat × Nat × Nat) :=
  if 0xC2 ≤ b ∧ b ≤ 0xDF then some (1, 0x80, 0xBF)
  else if b = 0xE0 then some (2, 0xA0, 0xBF)
  else if b = 0xED then some (2, 0x80, 0x9F)
  else if 0xE1 ≤ b ∧ b ≤ 0xEF then some (2, 0x80, 0xBF)
  else if b = 0xF0 then some (3, 0x90, 0xBF)
  else if 0xF1 ≤ b ∧ b ≤ 0xF3 then some (3, 0x80, 0xBF)
  else if b = 0xF4 then some (3, 0x80, 0x8F)
  else none

/-- Where the decoder stands inside a character: the bytes already taken, the value they
spell, how many are still owed, and the bounds of the next one. -/
structure Pending where
  taken : List UInt8
  value : Nat
  owed : Nat
  low : Nat
  high : Nat

/-- What one byte does when it does not continue a character. -/
def startByte (b : UInt8) : List Glyph × Option Pending :=
  let n := b.toNat
  if n < 0x80 then ([.char (Char.ofNat n)], none)
  else match lead? n with
    | none => ([.broken [b]], none)
    | some (owed, low, high) =>
      ([], some ⟨[b], n % Nat.pow 2 (6 - owed), owed, low, high⟩)

/-- Decode bytes, given the character that is being read. -/
def decodeFrom : Option Pending → List UInt8 → RawText
  | none, [] => []
  | some p, [] => [.broken p.taken]
  | none, b :: rest =>
    let (out, next) := startByte b
    out ++ decodeFrom next rest
  | some p, b :: rest =>
    let n := b.toNat
    if p.low ≤ n ∧ n ≤ p.high then
      let value := p.value * 64 + n % 64
      if p.owed ≤ 1 then .char (Char.ofNat value) :: decodeFrom none rest
      else decodeFrom (some ⟨p.taken ++ [b], value, p.owed - 1, 0x80, 0xBF⟩) rest
    else
      let (out, next) := startByte b
      .broken p.taken :: out ++ decodeFrom next rest

/-- The text that bytes spell. -/
def ofBytes (bytes : List UInt8) : RawText :=
  decodeFrom none bytes

/-! ### Characters as raw text -/

/-- Text given as a string. -/
def ofString (s : String) : RawText :=
  s.toList.map .char

theorem ofString_length (s : String) : (ofString s).length = s.toList.length := by
  simp [ofString]

/-- The number of bytes of a text. -/
def byteLength (t : RawText) : Nat :=
  t.foldr (fun g n => g.width + n) 0

/-! ### Bytes again -/

/-- The bytes of a glyph. -/
def glyphBytes : Glyph → List UInt8
  | .char c => String.utf8EncodeChar c
  | .broken bytes => bytes

/-- The bytes of a text. -/
def toBytes (t : RawText) : List UInt8 := t.flatMap glyphBytes

theorem glyphBytes_length (g : Glyph) : (glyphBytes g).length = g.width := by
  cases g <;> simp [glyphBytes, Glyph.width]

theorem toBytes_length (t : RawText) : t.toBytes.length = t.byteLength := by
  induction t with
  | nil => rfl
  | cons g t ih => simpa [toBytes, byteLength, glyphBytes_length] using ih

/-! ### Reading raw text as a string -/

/-- Why a text is not UTF-8, with the number of bytes in front of the fault. -/
inductive EncodingFault where
  /-- Bytes that can start no character. -/
  | invalid (width : Nat) (index : Nat)
  /-- The text ends inside a character. -/
  | incomplete (index : Nat)
  deriving DecidableEq, Repr

/-- The words for an encoding fault. -/
def EncodingFault.message : EncodingFault → String
  | .invalid width index =>
    "invalid utf-8 sequence of " ++ toString width ++ " bytes from index " ++ toString index
  | .incomplete index => "incomplete utf-8 byte sequence from index " ++ toString index

/-- Whether bytes are the beginning of a character, given that they are a broken run. -/
def startsCharacter : List UInt8 → Bool
  | [] => false
  | b :: _ => (lead? b.toNat).isSome

/-- The characters of a text, or its first fault; `index` is the number of bytes before it. -/
def charsFrom? (index : Nat) : RawText → Except EncodingFault (List Char)
  | [] => .ok []
  | .char c :: rest =>
    match charsFrom? (index + c.utf8Size) rest with
    | .ok cs => .ok (c :: cs)
    | .error e => .error e
  | .broken bytes :: rest =>
    if rest.isEmpty && startsCharacter bytes then .error (.incomplete index)
    else .error (.invalid bytes.length index)

/-- The string a text spells, or its first fault. -/
def strict? (t : RawText) : Except EncodingFault String :=
  match charsFrom? 0 t with
  | .ok cs => .ok (String.ofList cs)
  | .error e => .error e

theorem charsFrom?_chars (cs : List Char) :
    ∀ index, charsFrom? index (cs.map .char) = .ok cs := by
  induction cs with
  | nil => intro index; rfl
  | cons c cs ih => intro index; simp [charsFrom?, ih]

theorem ofString_strict? (s : String) : strict? (ofString s) = .ok s := by
  simp [strict?, ofString, charsFrom?_chars]

/-- The character that stands for a glyph where nothing may fail. -/
def lossyChar : Glyph → Char
  | .char c => c
  | .broken _ => Char.ofNat 0xFFFD

/-- The text with a replacement character for each broken run. -/
def lossy (t : RawText) : String :=
  String.ofList (t.map lossyChar)

theorem lossy_ofString (s : String) : lossy (ofString s) = s := by
  simp [lossy, ofString, Function.comp_def, lossyChar]

/-! ### Lines -/

/-- A text cut after each line feed; every line keeps its line feed, only the last may lack
one, and no line is empty. -/
def linesKeepingEnds : RawText → List RawText
  | [] => []
  | g :: rest =>
    if g = .char '\n' then [g] :: linesKeepingEnds rest
    else match linesKeepingEnds rest with
      | [] => [[g]]
      | line :: lines =>  (g :: line) :: lines

theorem linesKeepingEnds_flatten (t : RawText) : (linesKeepingEnds t).flatten = t := by
  induction t with
  | nil => rfl
  | cons g rest ih =>
    unfold linesKeepingEnds
    split
    · simp [ih]
    · split
      · next h => rw [h] at ih; simpa using ih
      · next h => rw [h] at ih; simpa using ih

end RawText

end Orchestration
