import Orchestration.Yaml.Cursor

/-!
# How scalars are written

Words of a scalar may be spread over lines: one line break counts as a space, and of several the
first does not count.  Block scalars keep or fold their lines by themselves.

* `Gap` — what stands between two words, and `Gap.joined`, what it counts for;
* `quoted?` — scalars in quotes, with their escapes;
* `plain?` — scalars without quotes;
* `block?` — scalars that are whole lines.
-/

namespace Orchestration.Yaml

/-! ### Between words -/

/-- What stands between two words. -/
structure Gap where
  /-- The gap on the line of the first word. -/
  spaces : List Char
  /-- Whether the line has ended. -/
  broken : Bool
  firstBreak : List Char
  laterBreaks : List Char

namespace Gap

/-- Nothing between words. -/
def none : Gap := ⟨[], false, [], []⟩

/-- What the gap counts for. -/
def joined (g : Gap) : List Char :=
  if !g.broken then g.spaces
  else if g.firstBreak == ['\n'] then
    if g.laterBreaks.isEmpty then [' '] else g.laterBreaks
  else g.firstBreak ++ g.laterBreaks

/-- The gap with the end of a line added. -/
def addBreak (g : Gap) (br : List Char) : Gap :=
  if g.broken then { g with laterBreaks := g.laterBreaks ++ br }
  else { g with spaces := [], broken := true, firstBreak := br }

/-- Read a gap on.  On a further line a tab may not stand before column `margin`. -/
def read? (margin : Int) : Nat → Gap → Cursor → Option (Gap × Cursor)
  | 0, g, c => some (g, c)
  | fuel + 1, g, c =>
    match c.rest.head? with
    | some ch =>
      if isBreak ch then
        let (br, c) := c.takeBreak
        read? margin fuel (g.addBreak br) c
      else if isGap ch then
        if g.broken && decide ((c.column : Int) < margin) && ch == '\t' then Option.none
        else
          read? margin fuel (if g.broken then g else { g with spaces := g.spaces ++ [ch] })
            (c.skip 1)
      else some (g, c)
    | Option.none => some (g, c)

end Gap

/-! ### Quotes -/

/-- What a letter after a backslash stands for. -/
def escape? : Char → Option Char
  | '0' => some (Char.ofNat 0)
  | 'a' => some (Char.ofNat 7)
  | 'b' => some (Char.ofNat 8)
  | 't' | '\t' => some '\t'
  | 'n' => some '\n'
  | 'v' => some (Char.ofNat 11)
  | 'f' => some (Char.ofNat 12)
  | 'r' => some '\r'
  | 'e' => some (Char.ofNat 27)
  | ' ' => some ' '
  | '"' => some '"'
  | '/' => some '/'
  | '\\' => some '\\'
  | 'N' => some (Char.ofNat 0x85)
  | '_' => some (Char.ofNat 0xA0)
  | 'L' => some (Char.ofNat 0x2028)
  | 'P' => some (Char.ofNat 0x2029)
  | _ => none

/-- How many hexadecimal digits follow a letter after a backslash. -/
def escapeDigits? : Char → Option Nat
  | 'x' => some 2
  | 'u' => some 4
  | 'U' => some 8
  | _ => none

/-- The character of a code point, unless it is a surrogate or too large. -/
def charOf? (n : Nat) : Option Char :=
  if n ≤ 0x10FFFF ∧ ¬ (0xD800 ≤ n ∧ n ≤ 0xDFFF) then some (Char.ofNat n) else none

/-- Read an escape: its character, and how many characters it takes. -/
def readEscape? (c : Cursor) : Option (Char × Nat) := do
  let ch ← (c.rest.drop 1).head?
  match escapeDigits? ch with
  | some n =>
    let digits := (c.rest.drop 2).take n
    guard (digits.length == n)
    return (← charOf? (← hexNumber? digits), n + 2)
  | none => return (← escape? ch, 2)

/-- Read a word in quotes: its characters, whether a backslash ended the line, and the rest. -/
def quotedWord? (single : Bool) : Nat → Cursor → Option (List Char × Bool × Cursor)
  | 0, _ => none
  | fuel + 1, c =>
    let go (ch : Char) (width : Nat) := do
      let (word, broken, c) ← quotedWord? single fuel (c.skip width)
      return (ch :: word, broken, c)
    match c.rest with
    | [] => some ([], false, c)
    | ch :: rest =>
      if isGap ch || isBreak ch then some ([], false, c)
      else if single && ch == '\'' then
        if rest.head? == some '\'' then go '\'' 2 else some ([], false, c)
      else if !single && ch == '"' then some ([], false, c)
      else if !single && ch == '\\' then
        if rest.head?.any isBreak then some ([], true, (c.skip 1).skipBreak)
        else do
          let (ch, width) ← readEscape? c
          go ch width
      else go ch 1

/-- Read words until the quote. -/
def quotedWords? (single : Bool) : Nat → Cursor → Option (List Char × Cursor)
  | 0, _ => none
  | fuel + 1, c => do
    guard (!c.atIndicator && !c.atEnd)
    let (word, broken, c) ← quotedWord? single (c.rest.length + 1) c
    if c.at? (if single then '\'' else '"') then return (word, c.skip 1)
    let (gap, c) ← Gap.read? 0 (c.rest.length + 1) { Gap.none with broken } c
    let (more, c) ← quotedWords? single fuel c
    return (word ++ gap.joined ++ more, c)

/-- Read a scalar in quotes. -/
def quoted? (single : Bool) (c : Cursor) : Option (String × Cursor) := do
  let (text, c) ← quotedWords? single (c.rest.length + 1) (c.skip 1)
  return (String.ofList text, c)

/-! ### Plain scalars -/

/-- Whether a character ends a collection or an entry of it. -/
def isFlowSign (ch : Char) : Bool :=
  ch == ',' || ch == '[' || ch == ']' || ch == '\x7b' || ch == '\x7d'

/-- Read a word without quotes.  Inside a flow collection a colon may not stand before a sign. -/
def plainWord? (flow : Bool) : Nat → Cursor → Option (List Char × Cursor)
  | 0, c => some ([], c)
  | fuel + 1, c =>
    match c.rest with
    | [] => some ([], c)
    | ch :: _ =>
      if isGap ch || isBreak ch then some ([], c)
      else if flow && ch == ':' && c.meetsAfter 1 (fun d => isFlowSign d || d == '?') then none
      else if ch == ':' && c.endsAfter 1 || flow && isFlowSign ch then some ([], c)
      else do
        let (word, c) ← plainWord? flow fuel (c.skip 1)
        return (ch :: word, c)

/-- Read words after a gap: the text, whether a line ended after the last word, and the rest. -/
def plainWords? (flow : Bool) (margin : Int) : Nat → Gap → Cursor →
    Option (List Char × Bool × Cursor)
  | 0, _, _ => none
  | fuel + 1, gap, c => do
    if c.atIndicator || c.at? '#' then return ([], gap.broken, c)
    let (word, c) ← plainWord? flow (c.rest.length + 1) c
    let text := if word.isEmpty then [] else gap.joined ++ word
    let gap := if word.isEmpty then gap else Gap.none
    if !c.meets (fun ch => isGap ch || isBreak ch) then return (text, gap.broken, c)
    let (gap, c) ← Gap.read? margin (c.rest.length + 1) gap c
    if !flow && decide ((c.column : Int) < margin) then return (text, gap.broken, c)
    let (more, broken, c) ← plainWords? flow margin fuel gap c
    return (text ++ more, broken, c)

/-- Read a plain scalar; its lines have to start at column `margin` or after. -/
def plain? (flow : Bool) (margin : Int) (c : Cursor) : Option (String × Bool × Cursor) := do
  let (text, broken, c) ← plainWords? flow margin (c.rest.length + 1) Gap.none c
  return (String.ofList text, broken, c)

/-! ### Blocks -/

/-- What becomes of the line breaks at the end of a block. -/
inductive Chomping where
  | strip
  | clip
  | keep
  deriving DecidableEq, Inhabited

/-- Read the sign of what becomes of the end. -/
def chomping? (c : Cursor) : Option Chomping :=
  if c.at? '+' then some .keep else if c.at? '-' then some .strip else none

/-- Read the digit of an indentation, if there is one; zero is refused. -/
def indentDigit? (c : Cursor) : Option (Option Nat) :=
  match c.rest.head? with
  | some ch =>
    if !ch.isDigit then some none
    else if ch == '0' then none
    else some (some (ch.toNat - '0'.toNat))
  | none => some none

/-- Read the signs at the head of a block, in either order. -/
def blockHead? (c : Cursor) : Option (Chomping × Option Nat × Cursor) := do
  match chomping? c with
  | some chomp =>
    let c := c.skip 1
    let digit ← indentDigit? c
    return (chomp, digit, if digit.isSome then c.skip 1 else c)
  | none =>
    match ← indentDigit? c with
    | some n =>
      let c := c.skip 1
      match chomping? c with
      | some chomp => return (chomp, some n, c.skip 1)
      | none => return (.clip, some n, c)
    | none => return (.clip, none, c)

/-- Read empty lines: their breaks, and the widest indentation before a line.  Without a known
indentation all spaces belong to it. -/
def emptyLines? (indent : Option Nat) : Nat → Nat → Cursor → Option (List Char × Nat × Cursor)
  | 0, widest, c => some ([], widest, c)
  | fuel + 1, widest, c =>
    let room := match indent with
      | some n => n - c.column
      | none => c.rest.length
    let c := c.skip ((c.rest.takeWhile (· == ' ')).take room).length
    let widest := max widest c.column
    let inside := match indent with
      | some n => decide (c.column < n)
      | none => true
    if inside && c.at? '\t' then none
    else if c.meets isBreak then do
      let (br, c) := c.takeBreak
      let (more, widest, c) ← emptyLines? indent fuel widest c
      return (br ++ more, widest, c)
    else some ([], widest, c)

/-- Read the lines of a block: the text but for the breaks at its end, those breaks, and the
rest.  `afterGap` says whether the line before started with a gap, `br` is its break and
`breaks` those of the empty lines since. -/
def blockLines? (literal : Bool) (indent : Nat) : Nat → Bool → List Char → List Char → Cursor →
    Option (List Char × List Char × List Char × Cursor)
  | 0, _, _, _, _ => none
  | fuel + 1, afterGap, br, breaks, c =>
    if c.column != indent || c.atEnd then some ([], br, breaks, c)
    else do
      let gap := c.meets isGap
      let joint :=
        if !literal && br == ['\n'] && !afterGap && !gap then
          (if breaks.isEmpty then [' '] else []) ++ breaks
        else br ++ breaks
      let line := c.rest.takeWhile fun ch => !isBreak ch
      let (nextBr, c) := (c.skip line.length).takeBreak
      let (nextBreaks, _, c) ← emptyLines? (some indent) (c.rest.length + 1) 0 c
      let (more, lastBr, lastBreaks, c) ← blockLines? literal indent fuel gap nextBr nextBreaks c
      return (joint ++ line ++ more, lastBr, lastBreaks, c)

/-- Read a block below a collection that is indented by `parent`. -/
def block? (literal : Bool) (parent : Int) (c : Cursor) : Option (String × Cursor) := do
  let (chomp, digit, c) ← blockHead? (c.skip 1)
  let c ← c.endLine?
  let known := digit.map fun n => (max parent 0).toNat + n
  let (breaks, widest, c) ← emptyLines? known (c.rest.length + 1) 0 c
  let indent := known.getD (max widest (max (parent + 1) 1).toNat)
  let (text, br, breaks, c) ← blockLines? literal indent (c.rest.length + 1) false [] breaks c
  let tail := match chomp with
    | .strip => []
    | .clip => br
    | .keep => br ++ breaks
  return (String.ofList (text ++ tail), c)

end Orchestration.Yaml
