import Orchestration.Yaml.Property
import Orchestration.Yaml.Scalar

/-!
# From text to tokens

A token may turn out to be a key only when the colon behind it is met, so keys are noted where
they could begin and put in afterwards.  Indentation opens and closes block collections.

* `PossibleKey` — where a key could begin;
* `Layout` — what is known of the text so far;
* `Layout.step` — the next tokens;
* `tokens?` — the tokens of a text.
-/

namespace Orchestration.Yaml

/-! ### What is known -/

/-- A place where a key could begin. -/
structure PossibleKey where
  /-- Whether nothing but a key can stand there. -/
  required : Bool
  /-- The number of tokens before. -/
  position : Nat
  index : Nat
  line : Nat
  column : Nat

/-- What is known of a text that has been read in part. -/
structure Layout where
  cursor : Cursor
  /-- The tokens so far, the last one first. -/
  emitted : List Token
  count : Nat
  /-- Tokens that turned out to belong before others, with their positions, which decrease. -/
  inserted : List (Nat × List Token)
  indent : Int
  /-- The indentations of the collections around. -/
  outer : List Int
  keyAllowed : Bool
  /-- The key that could begin on the outermost level and in each flow collection, innermost
  first. -/
  keys : List (Option PossibleKey)
  finished : Bool

namespace Layout

/-- The beginning of a text. -/
def start (text : List Char) : Layout :=
  ⟨Cursor.start text, [], 0, [], -1, [], true, [none], false⟩

/-- Whether a flow collection is open. -/
def inFlow (l : Layout) : Bool := 1 < l.keys.length

/-- Add a token. -/
def emit (l : Layout) (t : Token) : Layout :=
  { l with emitted := t :: l.emitted, count := l.count + 1 }

/-- Add a token, and go on behind it. -/
def emitTo (l : Layout) (t : Token) (c : Cursor) : Layout := { l.emit t with cursor := c }

/-- Say whether a key may follow. -/
def allowKey (l : Layout) (allowed : Bool) : Layout := { l with keyAllowed := allowed }

/-! ### Keys -/

/-- Give up the key that could have begun; one that was required is missed. -/
def dropKey? (l : Layout) : Option Layout :=
  match l.keys with
  | some k :: rest => if k.required then none else some { l with keys := none :: rest }
  | _ => some l

/-- Note that a key could begin here. -/
def noteKey? (l : Layout) : Option Layout :=
  if !l.keyAllowed then some l
  else do
    let l ← l.dropKey?
    let c := l.cursor
    let required := !l.inFlow && l.indent == (c.column : Int)
    return { l with keys := some ⟨required, l.count, c.index, c.line, c.column⟩ :: l.keys.drop 1 }

/-- How many characters a key may have. -/
def maxKeyLength : Nat := 1024

/-- Whether a key that began at a place can still end here. -/
def reaches (c : Cursor) (k : PossibleKey) : Bool :=
  k.line == c.line && c.index ≤ k.index + maxKeyLength

/-- Give up the keys that are too long or left their line. -/
def expire? (l : Layout) : Option Layout := do
  let keys ← l.keys.mapM fun key =>
    match key with
    | some k => if reaches l.cursor k then some (some k) else if k.required then none else some none
    | none => some none
  return { l with keys }

/-! ### Indentation -/

/-- Close the block collections that are indented further than a column. -/
def closeTo (column : Int) : List Int → Layout → Layout
  | outer, l =>
    if l.inFlow || l.indent ≤ column then l
    else match outer with
      | [] => l
      | i :: rest => closeTo column rest ({ l with indent := i, outer := rest }.emit .blockEnd)

/-- Close the block collections that do not reach a column. -/
def unroll (l : Layout) (column : Int) : Layout := closeTo column l.outer l

/-- Open a block collection at a column, unless one is open there. -/
def roll (l : Layout) (column : Nat) (t : Token) : Layout :=
  if l.inFlow || (column : Int) ≤ l.indent then l
  else ({ l with indent := column, outer := l.indent :: l.outer }).emit t

/-- Note tokens for a position, given others whose positions decrease. -/
def insertAt (position : Nat) (found : List Token) :
    List (Nat × List Token) → List (Nat × List Token)
  | [] => [(position, found)]
  | later :: rest =>
    if later.1 < position then (position, found) :: later :: rest
    else later :: insertAt position found rest

/-- Put a key where it began, and open a mapping there unless one is open. -/
def insertKey (l : Layout) (k : PossibleKey) : Layout :=
  let opens := !l.inFlow && l.indent < (k.column : Int)
  let found := if opens then [Token.blockMappingStart, .key] else [.key]
  let l := { l with
    inserted := insertAt k.position found l.inserted
    keys := none :: l.keys.drop 1 }
  if opens then { l with indent := k.column, outer := l.indent :: l.outer } else l

/-! ### Between tokens -/

/-- Go on to the next token, over gaps, comments and empty lines. -/
def toNext : Nat → Layout → Layout
  | 0, l => l
  | fuel + 1, l =>
    let c := l.cursor
    let c := if c.column == 0 && c.at? byteOrderMark then c.skip 1 else c
    let c := c.skipWhile fun ch => ch == ' ' || (l.inFlow || !l.keyAllowed) && ch == '\t'
    let c := if c.at? '#' then c.skipWhile (fun ch => !isBreak ch) else c
    if c.meets isBreak then
      toNext fuel { l with cursor := c.skipBreak, keyAllowed := l.keyAllowed || !l.inFlow }
    else { l with cursor := c }

/-! ### Tokens -/

/-- The end of the text. -/
def finish? (l : Layout) : Option Layout := do
  let l ← (l.unroll (-1)).dropKey?
  return { (l.allowKey false).emit .streamEnd with finished := true }

/-- A directive. -/
def directive (l : Layout) : Option Layout := do
  let l ← (l.unroll (-1)).dropKey?
  let (t, c) ← directive? l.cursor
  return (l.allowKey false).emitTo t c

/-- The beginning or the end of a document. -/
def boundary? (l : Layout) : Option Layout := do
  let t := if l.cursor.at? '-' then Token.documentStart else .documentEnd
  let l ← (l.unroll (-1)).dropKey?
  return (l.allowKey false).emitTo t (l.cursor.skip 3)

/-- The beginning of a flow collection. -/
def openFlow? (l : Layout) (t : Token) : Option Layout := do
  let l ← l.noteKey?
  return ({ l with keys := none :: l.keys }.allowKey true).emitTo t (l.cursor.skip 1)

/-- The end of a flow collection. -/
def closeFlow? (l : Layout) (t : Token) : Option Layout := do
  let l ← l.dropKey?
  let l := if l.inFlow then { l with keys := l.keys.drop 1 } else l
  return (l.allowKey false).emitTo t (l.cursor.skip 1)

/-- The comma between entries. -/
def flowEntry? (l : Layout) : Option Layout := do
  let l ← l.dropKey?
  return (l.allowKey true).emitTo .flowEntry (l.cursor.skip 1)

/-- The dash before an item. -/
def blockEntry? (l : Layout) : Option Layout := do
  guard (l.inFlow || l.keyAllowed)
  let l ← (l.roll l.cursor.column .blockSequenceStart).dropKey?
  return (l.allowKey true).emitTo .blockEntry (l.cursor.skip 1)

/-- The question mark before a key. -/
def key? (l : Layout) : Option Layout := do
  guard (l.inFlow || l.keyAllowed)
  let l ← (l.roll l.cursor.column .blockMappingStart).dropKey?
  return (l.allowKey !l.inFlow).emitTo .key (l.cursor.skip 1)

/-- The colon before a value. -/
def value? (l : Layout) : Option Layout :=
  match l.keys.head?.join with
  | some k => some (((l.insertKey k).allowKey false).emitTo .value (l.cursor.skip 1))
  | none => do
    guard (l.inFlow || l.keyAllowed)
    let l := l.roll l.cursor.column .blockMappingStart
    return (l.allowKey !l.inFlow).emitTo .value (l.cursor.skip 1)

/-- A token that could begin a key. -/
def word? (l : Layout) (read : Cursor → Option (Token × Cursor)) : Option Layout := do
  let l ← l.noteKey?
  let (t, c) ← read l.cursor
  return (l.allowKey false).emitTo t c

/-- A block scalar. -/
def blockScalar? (l : Layout) (style : ScalarStyle) : Option Layout := do
  let l ← l.dropKey?
  let (text, c) ← block? (style == .literal) l.indent l.cursor
  return (l.allowKey true).emitTo (.scalar style text) c

/-- A scalar without quotes. -/
def plainScalar? (l : Layout) : Option Layout := do
  let l ← l.noteKey?
  let (text, broken, c) ← plain? l.inFlow (l.indent + 1) l.cursor
  return (l.allowKey broken).emitTo (.scalar .plain text) c

/-- Whether a scalar without quotes can begin here. -/
def startsPlain (l : Layout) : Bool :=
  let c := l.cursor
  let sign := ['-', '?', ':', ',', '[', ']', '\x7b', '\x7d', '#', '&', '*', '!', '|', '>', '\'',
    '"', '%', '@', '\x60']
  c.meets (fun ch => !isGap ch && !isBreak ch && !sign.contains ch)
    || c.at? '-' && !c.meetsAfter 1 isGap
    || !l.inFlow && (c.at? '?' || c.at? ':') && !c.endsAfter 1

/-- A name after a sign. -/
def named? (make : String → Token) (c : Cursor) : Option (Token × Cursor) := do
  let (name, c) ← anchorName? (c.skip 1)
  return (make name, c)

/-- A scalar in quotes. -/
def quotedScalar? (style : ScalarStyle) (c : Cursor) : Option (Token × Cursor) := do
  let (text, c) ← quoted? (style == .singleQuoted) c
  return (.scalar style text, c)

/-- The tokens that begin at the next character. -/
def next? (l : Layout) : Option Layout :=
  let c := l.cursor
  match c.rest.head? with
  | none => l.finish?
  | some ch =>
    if c.column == 0 && ch == '%' then l.directive
    else if c.atIndicator then l.boundary?
    else if ch == '[' then l.openFlow? .flowSequenceStart
    else if ch == '\x7b' then l.openFlow? .flowMappingStart
    else if ch == ']' then l.closeFlow? .flowSequenceEnd
    else if ch == '\x7d' then l.closeFlow? .flowMappingEnd
    else if ch == ',' then l.flowEntry?
    else if ch == '-' && c.endsAfter 1 then l.blockEntry?
    else if ch == '?' && (l.inFlow || c.endsAfter 1) then l.key?
    else if ch == ':' && (l.inFlow || c.endsAfter 1) then l.value?
    else if ch == '*' then l.word? (named? .alias)
    else if ch == '&' then l.word? (named? .anchor)
    else if ch == '!' then l.word? (tag? l.inFlow)
    else if ch == '|' && !l.inFlow then l.blockScalar? .literal
    else if ch == '>' && !l.inFlow then l.blockScalar? .folded
    else if ch == '\'' then l.word? (quotedScalar? .singleQuoted)
    else if ch == '"' then l.word? (quotedScalar? .doubleQuoted)
    else if l.startsPlain then l.plainScalar?
    else none

/-- Read on by at least one character, or to the end. -/
def step? (l : Layout) : Option Layout := do
  let l ← (toNext (l.cursor.rest.length + 1) l).expire?
  (l.unroll l.cursor.column).next?

/-- Read on until the text is over. -/
def run? : Nat → Layout → Option Layout
  | 0, _ => none
  | fuel + 1, l => if l.finished then some l else l.step?.bind (run? fuel)

end Layout

/-! ### All tokens -/

/-- Put tokens in at their positions, given the number of tokens before. -/
def putIn : Nat → List (Nat × List Token) → List Token → List Token
  | _, [], ts => ts
  | _, (_, found) :: _, [] => found
  | at_, (position, found) :: more, t :: ts =>
    if position = at_ then found ++ t :: putIn (at_ + 1) more ts
    else t :: putIn (at_ + 1) ((position, found) :: more) ts

/-- The tokens of a text. -/
def tokens? (text : List Char) : Option (List Token) := do
  let l ← Layout.run? (text.length + 2) (Layout.start text)
  return putIn 0 l.inserted.reverse l.emitted.reverse

end Orchestration.Yaml
