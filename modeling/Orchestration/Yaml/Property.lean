import Orchestration.Yaml.Cursor
import Orchestration.Yaml.Token

/-!
# Anchors, tags and directives

* `anchorName?` — the name of an anchor, or of a reference to one;
* `tag?` — a tag, as a handle and what follows it;
* `directive?` — a line that begins with a percent sign.
-/

namespace Orchestration.Yaml

/-! ### Anchors -/

/-- Whether a character may follow the name of an anchor. -/
def endsName (ch : Char) : Bool :=
  isGap ch || isBreak ch || ['?', ':', ',', ']', '\x7d', '%', '@', '\x60'].contains ch

/-- Read the name of an anchor. -/
def anchorName? (c : Cursor) : Option (String × Cursor) :=
  let name := c.rest.takeWhile isWord
  let c := c.skip name.length
  if name.isEmpty || !(c.atEnd || c.meets endsName) then none
  else some (String.ofList name, c)

/-! ### Tags -/

/-- Whether a character can stand in a tag. -/
def isTagChar (verbatim : Bool) (ch : Char) : Bool :=
  isWord ch ||
  [';', '/', '?', ':', '@', '&', '=', '+', '$', '.', '%', '!', '~', '*', '\'', '(', ')'].contains ch
  || verbatim && [',', '[', ']'].contains ch

/-- Read an escaped octet. -/
def octet? : List Char → Option Nat
  | '%' :: a :: b :: _ => hexNumber? [a, b]
  | _ => none

/-- Read octets that continue a character. -/
def laterOctets? : Nat → Cursor → Option (List UInt8 × Cursor)
  | 0, c => some ([], c)
  | n + 1, c => do
    let octet ← octet? c.rest
    guard (0x80 ≤ octet && octet < 0xC0)
    let (more, c) ← laterOctets? n (c.skip 3)
    return (UInt8.ofNat octet :: more, c)

/-- How many octets continue a character that begins with an octet. -/
def laterCount? (octet : Nat) : Option Nat :=
  if octet < 0x80 then some 0
  else if 0xC0 ≤ octet && octet < 0xE0 then some 1
  else if 0xE0 ≤ octet && octet < 0xF0 then some 2
  else if 0xF0 ≤ octet && octet < 0xF8 then some 3
  else none

/-- Read a character whose octets are escaped.  Their number has to be right, but they need not
spell a character. -/
def escapedChar? (c : Cursor) : Option (RawText × Cursor) := do
  let octet ← octet? c.rest
  let (more, c) ← laterOctets? (← laterCount? octet) (c.skip 3)
  return (RawText.ofBytes (UInt8.ofNat octet :: more), c)

/-- Read the characters of a tag. -/
def tagChars? (verbatim : Bool) : Nat → Cursor → Option (RawText × Cursor)
  | 0, c => some ([], c)
  | fuel + 1, c =>
    match c.rest with
    | [] => some ([], c)
    | ch :: _ =>
      if !isTagChar verbatim ch then some ([], c)
      else do
        let (text, c) ← if ch == '%' then escapedChar? c else some ([.char ch], c.skip 1)
        let (more, c) ← tagChars? verbatim fuel c
        return (text ++ more, c)

/-- Read the characters of a tag; there has to be one. -/
def tagText? (verbatim : Bool) (c : Cursor) : Option (RawText × Cursor) := do
  let (text, c) ← tagChars? verbatim (c.rest.length + 1) c
  guard (!text.isEmpty)
  return (text, c)

/-- Read an exclamation mark with a word, and the mark that may end a handle. -/
def tagHandle? (c : Cursor) : Option (List Char × Cursor) := do
  guard (c.at? '!')
  let word := (c.rest.drop 1).takeWhile isWord
  let c := c.skip (1 + word.length)
  if c.at? '!' then return ('!' :: word ++ ['!'], c.skip 1)
  else return ('!' :: word, c)

/-- Whether a text is a handle with marks at both ends. -/
def isFullHandle (handle : List Char) : Bool := 1 < handle.length && handle.getLast? == some '!'

/-- Read a tag without regard to what follows it: its handle, if it has one, and the rest.  A
mark with nothing behind it is a tag without a handle. -/
def openTag? (c : Cursor) : Option (List Char × RawText × Cursor) := do
  if c.meetsAfter 1 (· == '<') then
    let (text, c) ← tagText? true (c.skip 2)
    guard (c.at? '>')
    return ([], text, c.skip 1)
  else
    let (handle, c) ← tagHandle? c
    if isFullHandle handle then
      let (suffix, c) ← tagText? false c
      return (handle, suffix, c)
    else
      let (more, c) ← tagChars? false (c.rest.length + 1) c
      let suffix := (handle.drop 1).map Glyph.char ++ more
      if (Tag.beforeZero suffix).isEmpty then return ([], [.char '!'], c)
      else return (['!'], suffix, c)

/-- Read a tag. -/
def tag? (flow : Bool) (c : Cursor) : Option (Token × Cursor) := do
  let (handle, suffix, c) ← openTag? c
  guard (c.endsAfter 0 || flow && c.at? ',')
  return (.tag (String.ofList handle) suffix, c)

/-! ### Directives -/

/-- Read a number of at most nine digits. -/
def versionNumber? (c : Cursor) : Option (Nat × Cursor) :=
  let digits := c.rest.takeWhile Char.isDigit
  if digits.isEmpty || 9 < digits.length then none
  else some (digits.foldl (fun n d => n * 10 + (d.toNat - '0'.toNat)) 0, c.skip digits.length)

/-- Read the version of the format. -/
def version? (c : Cursor) : Option (Token × Cursor) := do
  let (major, c) ← versionNumber? (c.skipWhile isGap)
  guard (c.at? '.')
  let (minor, c) ← versionNumber? (c.skip 1)
  return (.version major minor, c)

/-- Read the meaning of a handle. -/
def handleMeaning? (c : Cursor) : Option (Token × Cursor) := do
  let (handle, c) ← tagHandle? (c.skipWhile isGap)
  guard (isFullHandle handle || handle == ['!'])
  guard (c.meets isGap)
  let (start, c) ← tagText? true (c.skipWhile isGap)
  guard (c.endsAfter 0)
  return (.tagHandle (String.ofList handle) start, c)

/-- Read a directive with its line. -/
def directive? (c : Cursor) : Option (Token × Cursor) := do
  let name := (c.rest.drop 1).takeWhile isWord
  let c := c.skip (1 + name.length)
  guard (!name.isEmpty && c.endsAfter 0)
  let (token, c) ←
    if name == "YAML".toList then version? c
    else if name == "TAG".toList then handleMeaning? c
    else none
  return (token, ← c.endLine?)

end Orchestration.Yaml
