import Orchestration.Shell.Job

/-!
# Text that commands print

* `escapeAt`, `unescape` — what backslashes stand for;
* `Directive` — how an argument is put into a format;
* `formatAll` — a format with its arguments, begun anew as long as arguments are left;
* `echoText` — arguments one after the other.
-/

namespace Orchestration.Shell

/-! ### Backslashes -/

/-- The number that octal digits spell. -/
def octalValue (ds : List Char) : Nat := ds.foldl (fun n d => n * 8 + (d.toNat - '0'.toNat)) 0

/-- The octal digits at the beginning of a text, at most three. -/
def octalDigits : Nat → RawText → List Char
  | n + 1, .char c :: rest => if '0' ≤ c && c ≤ '7' then c :: octalDigits n rest else []
  | _, _ => []

/-- The glyph of a byte. -/
def byteGlyph (n : Nat) : Glyph :=
  if n < 128 then .char (Char.ofNat n) else .broken [UInt8.ofNat n]

/-- The character that a letter after a backslash stands for. -/
def escapeLetter? (c : Char) : Option Char :=
  match c with
  | 'n' => some '\n'
  | 't' => some '\t'
  | 'r' => some '\r'
  | '\\' => some '\\'
  | 'a' => some (Char.ofNat 7)
  | 'b' => some (Char.ofNat 8)
  | 'f' => some (Char.ofNat 12)
  | 'v' => some (Char.ofNat 11)
  | _ => none

/-- What the text after a backslash stands for, and how much of it is used.  Where octal digits
need a zero before them, it does not count as one. -/
def escapeAt (zeroFirst : Bool) (t : RawText) : Glyph × Nat :=
  match t with
  | .char c :: rest =>
    match escapeLetter? c with
    | some e => (.char e, 1)
    | none =>
      let ds := if zeroFirst then (if c == '0' then octalDigits 3 rest else []) else octalDigits 3 t
      if zeroFirst && c == '0' then (byteGlyph (octalValue ds % 256), 1 + ds.length)
      else if ds.isEmpty then (.char '\\', 0)
      else (byteGlyph (octalValue ds % 256), ds.length)
  | _ => (.char '\\', 0)

/-- A text with its backslashes replaced, and whether more may follow it.  Every glyph is taken
once, so a text's length is enough fuel. -/
def unescapeFrom : Nat → RawText → RawText × Bool
  | 0, _ | _, [] => ([], true)
  | n + 1, .char '\\' :: rest =>
    if rest.head? == some (.char 'c') then ([], false)
    else
      let (g, used) := escapeAt true rest
      let (text, more) := unescapeFrom n (rest.drop used)
      (g :: text, more)
  | n + 1, g :: rest =>
    let (text, more) := unescapeFrom n rest
    (g :: text, more)

/-- A text with its backslashes replaced, and whether more may follow it. -/
def unescape (t : RawText) : RawText × Bool := unescapeFrom t.length t

/-! ### Formats -/

/-- How an argument is put into a format. -/
structure Directive where
  leftAligned : Bool
  zeroPadded : Bool
  width : Nat
  precision : Option Nat
  conversion : Char

/-- The number at the beginning of a text, and what follows. -/
def takeNumber (cs : List Char) : Nat × List Char :=
  ((String.ofList (cs.takeWhile Char.isDigit)).toNat?.getD 0, cs.dropWhile Char.isDigit)

/-- The directive at the beginning of a text, after its percent sign, and its length. -/
def directive? (cs : List Char) : Option (Directive × Nat) :=
  let isFlag (c : Char) : Bool := "-0+ #".toList.contains c
  let flags := cs.takeWhile isFlag
  let (width, rest) := takeNumber (cs.dropWhile isFlag)
  let (precision, rest) := match rest with
    | '.' :: rest =>
      let (n, rest) := takeNumber rest
      (some n, rest)
    | rest => (none, rest)
  match rest with
  | c :: rest =>
    some (⟨flags.contains '-', flags.contains '0', width, precision, c⟩, cs.length - rest.length)
  | [] => none

/-- The number that an argument spells. -/
def integer? (t : RawText) : Option Int := (RawText.lossy t).trimAscii.toString.toInt?

/-- The number that an argument spells; whatever spells none counts as zero. -/
def integerOf (t : RawText) : Int := (integer? t).getD 0

namespace Directive

/-- A text at its width. -/
def pad (d : Directive) (t : RawText) : RawText :=
  let missing := d.width - t.length
  if d.leftAligned then t ++ List.replicate missing (.char ' ')
  else List.replicate missing (.char ' ') ++ t

/-- An argument as the directive shows it, and whether more may follow; `none` for a directive
that means nothing. -/
def show? (d : Directive) (argument : RawText) : Option (RawText × Bool) :=
  let cut (t : RawText) : RawText := match d.precision with
    | some n => t.take n
    | none => t
  match d.conversion with
  | 's' => some (d.pad (cut argument), true)
  | 'b' =>
    let (t, more) := unescape argument
    some (d.pad (cut t), more)
  | 'c' => some (d.pad (argument.take 1), true)
  | 'd' | 'i' | 'u' =>
    let n := integerOf argument
    let digits := toString n.natAbs
    let sign := if n < 0 then "-" else ""
    let wanted := if d.zeroPadded && !d.leftAligned then d.width - sign.length
      else d.precision.getD 0
    let zeros := String.ofList (List.replicate (wanted - digits.length) '0')
    some (d.pad (.ofString (sign ++ zeros ++ digits)), true)
  | 'x' => some (d.pad (.ofString (String.ofList (Nat.toDigits 16 (integerOf argument).toNat))),
      true)
  | _ => none

end Directive

/-- What is printed, the arguments that are left, and whether more may follow. -/
structure Printed where
  text : RawText
  left : List RawText
  more : Bool

/-- Something printed before. -/
def Printed.after (p : Printed) (t : RawText) : Printed := { p with text := t ++ p.text }

/-- A format gone through once. -/
def formatOnce : Nat → RawText → List RawText → Printed
  | 0, _, arguments | _, [], arguments => ⟨[], arguments, true⟩
  | n + 1, .char '\\' :: rest, arguments =>
    if rest.head? == some (.char 'c') then ⟨[], arguments, false⟩
    else
      let (g, used) := escapeAt false rest
      (formatOnce n (rest.drop used) arguments).after [g]
  | n + 1, .char '%' :: .char '%' :: rest, arguments =>
    (formatOnce n rest arguments).after [.char '%']
  | n + 1, .char '%' :: rest, arguments =>
    match directive? (RawText.lossy rest).toList with
    | none => ⟨[], arguments, false⟩
    | some (d, used) =>
      match d.show? (arguments.headD []) with
      | none => ⟨[], arguments, false⟩
      | some (t, true) => (formatOnce n (rest.drop used) (arguments.drop 1)).after t
      | some (t, false) => ⟨t, arguments.drop 1, false⟩
  | n + 1, g :: rest, arguments => (formatOnce n rest arguments).after [g]

/-- A format gone through as often as arguments are left; once at least. -/
def formatTimes (format : RawText) : Nat → List RawText → RawText
  | 0, _ => []
  | n + 1, arguments =>
    let p := formatOnce format.length format arguments
    if p.more && !p.left.isEmpty && p.left.length < arguments.length then
      p.text ++ formatTimes format n p.left
    else p.text

/-- A format with all its arguments. -/
def formatAll (format : RawText) (arguments : List RawText) : RawText :=
  formatTimes format (arguments.length + 1) arguments

/-- Arguments with blanks between them and a line feed at the end, unless the first argument
asks for none. -/
def echoText (arguments : List RawText) : RawText :=
  let (ending, arguments) := match arguments with
    | first :: rest =>
      if first == .ofString "-n" then ([], rest) else ([.char '\n'], arguments)
    | [] => ([.char '\n'], [])
  let (t, more) := unescape ([Glyph.char ' '].intercalate arguments)
  if more then t ++ ending else t

end Orchestration.Shell
