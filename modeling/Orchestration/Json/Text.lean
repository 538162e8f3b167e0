import Orchestration.Json.Literal

/-!
# JSON texts, with their faults in place

A text is read once, without knowing what it is wanted for.  Whatever is wrong with it stays in
the result where it stood, so that a reader who does not look there never meets it:

* `JsonText` — the values of a text, lists and objects ending in the way they really end;
* `JsonText.ofRaw` — reading a text, with what follows its first value;
* `JsonText.skip` — passing over a value nobody wants;
* `JsonText.json` — the value, if it is wanted whole;
* `JsonText.ofJson` — the text of a value, which holds no fault;
* `Json.parse` — the value that a whole text is.
-/

namespace Orchestration

/-- How a list ends. -/
inductive ListEnd where
  | closed
  | atEnd
  | noComma
  | trailingComma
  deriving DecidableEq, Repr

/-- How an object ends. -/
inductive ObjectEnd where
  | closed
  | atEnd
  | noComma
  | trailingComma
  | commaAtEnd
  /-- Something else stands where a key should. -/
  | notAKey (found : Except SyntaxFault Found)
  | brokenKey (faults : FaultNames)
  deriving Repr

/-- A value as it stands in a text. -/
inductive JsonText where
  | null
  | bool (value : Bool)
  | num (value : Except SyntaxFault Number)
  | str (value : Except SyntaxFault String)
  | arr (items : List JsonText) (finish : ListEnd)
  | obj (members : List (Except SyntaxFault String × JsonText)) (finish : ObjectEnd)
  | broken (faults : FaultNames)
  deriving Repr, Inhabited

namespace JsonText

/-! ### Reading -/

/-- Whether a glyph separates the parts of a JSON text. -/
def isSpace (g : Glyph) : Bool :=
  match g with
  | .char c => c == ' ' || c == '\n' || c == '\t' || c == '\r'
  | .broken _ => false

/-- The text without spaces at its beginning. -/
def skipSpaces (t : RawText) : RawText := t.dropWhile isSpace

/-- A fault with one name. -/
def fault (f : SyntaxFault) : JsonText := .broken (.always f)

/-- A fault inside a word. -/
def wordFault (f : SyntaxFault) : JsonText := .broken (.notName f f)

/-- Read the letters of a word. -/
def readWord (value : JsonText) : List Char → RawText → JsonText × RawText
  | [], t => (value, t)
  | _ :: _, [] => (wordFault .endInValue, [])
  | w :: word, g :: rest =>
    if g = .char w then readWord value word rest else (wordFault .badLiteral, [])

/-- Read a number after its sign. -/
def readNumber (negative : Bool) (t : RawText) : JsonText × RawText :=
  match scanNumber negative t with
  | .ok (literal, rest) => (.num literal.value, rest)
  | .error faults => (.broken faults, [])

/-- What a value is called where another kind was expected. -/
def found? : JsonText → Except SyntaxFault Found
  | .null => .ok .null
  | .bool b => .ok (.bool b)
  | .num (.ok (.int n _)) => .ok (.int n)
  | .num (.ok (.real d)) => .ok (.real d.text)
  | .num (.error f) => .error f
  | .str (.ok s) => .ok (.text s)
  | .str (.error f) => .error f
  | .arr _ _ => .ok .sequence
  | .obj _ _ => .ok .map
  | .broken faults => .error faults.wanted

/-- Read a string after its opening quote; with the rest behind its closing quote. -/
def readText (t : RawText) : Except FaultNames (Except SyntaxFault String × RawText) :=
  match skipString t with
  | .ok rest => .ok (readString t, rest)
  | .error unwanted =>
    match readString t with
    | .ok _ => .error (.always unwanted)
    | .error wanted => .error ⟨wanted, unwanted, wanted⟩

mutual

/-- Read the first value of a text. -/
def readValue : Nat → RawText → JsonText × RawText
  | 0, _ => (fault .endInValue, [])
  | fuel + 1, t =>
    match skipSpaces t with
    | [] => (fault .endInValue, [])
    | .broken _ :: _ => (fault .noValue, [])
    | .char c :: rest =>
      if c = '"' then
        match readText rest with
        | .ok (s, rest) => (.str s, rest)
        | .error faults => (.broken faults, [])
      else if c = '\x7b' then
        let (members, finish, rest) := readMembers fuel true rest
        (.obj members finish, rest)
      else if c = '[' then
        let (items, finish, rest) := readItems fuel true rest
        (.arr items finish, rest)
      else if c = 'n' then readWord .null ['u', 'l', 'l'] rest
      else if c = 't' then readWord (.bool true) ['r', 'u', 'e'] rest
      else if c = 'f' then readWord (.bool false) ['a', 'l', 's', 'e'] rest
      else if c = '-' then readNumber true rest
      else if (digitValue? c).isSome then readNumber false (.char c :: rest)
      else (fault .noValue, [])

/-- Read items up to the end of a list. -/
def readItems : Nat → Bool → RawText → List JsonText × ListEnd × RawText
  | 0, _, _ => ([], .atEnd, [])
  | fuel + 1, first, t =>
    match skipSpaces t with
    | [] => ([], .atEnd, [])
    | .char ']' :: rest => ([], .closed, rest)
    | g :: rest =>
      if first then readItem fuel (g :: rest)
      else if g = .char ',' then
        match skipSpaces rest with
        | .char ']' :: _ => ([], .trailingComma, [])
        | rest => readItem fuel rest
      else ([], .noComma, [])

/-- Read an item and those after it. -/
def readItem : Nat → RawText → List JsonText × ListEnd × RawText
  | 0, _ => ([], .atEnd, [])
  | fuel + 1, t =>
    let (item, rest) := readValue fuel t
    let (items, finish, rest) := readItems fuel false rest
    (item :: items, finish, rest)

/-- Read members up to the end of an object. -/
def readMembers : Nat → Bool → RawText →
    List (Except SyntaxFault String × JsonText) × ObjectEnd × RawText
  | 0, _, _ => ([], .atEnd, [])
  | fuel + 1, first, t =>
    match skipSpaces t with
    | [] => ([], .atEnd, [])
    | .char '\x7d' :: rest => ([], .closed, rest)
    | g :: rest =>
      if first then readMember fuel (g :: rest)
      else if g = .char ',' then
        match skipSpaces rest with
        | [] => ([], .commaAtEnd, [])
        | .char '\x7d' :: _ => ([], .trailingComma, [])
        | rest => readMember fuel rest
      else ([], .noComma, [])

/-- Read a member and those after it. -/
def readMember : Nat → RawText →
    List (Except SyntaxFault String × JsonText) × ObjectEnd × RawText
  | 0, _ => ([], .atEnd, [])
  | fuel + 1, t =>
    match t with
    | .char '"' :: rest =>
      match readText rest with
      | .error faults => ([], .brokenKey faults, [])
      | .ok (key, rest) =>
        match skipSpaces rest with
        | [] => ([(key, fault .endInObject)], .atEnd, [])
        | .char ':' :: rest =>
          let (value, rest) := readValue fuel rest
          let (members, finish, rest) := readMembers fuel false rest
          ((key, value) :: members, finish, rest)
        | _ => ([(key, fault .noColon)], .atEnd, [])
    | _ => ([], .notAKey (readValue fuel t).1.found?, [])

end

/-- Fuel that lasts for a text: every step but a bounded number takes a glyph. -/
def fuelFor (t : RawText) : Nat := 4 * t.length + 4

/-- The first value of a text, and what follows it. -/
def ofRaw (t : RawText) : JsonText × RawText := readValue (fuelFor t) t

/-! ### Passing over a value -/

/-- How the end of a list fails a reader who does not want it. -/
def skipListEnd : ListEnd → Except SyntaxFault Unit
  | .closed => .ok ()
  | .atEnd => .error .endInList
  | .noComma => .error .noListEnd
  | .trailingComma => .error .noValue

/-- How the end of an object fails a reader who does not want it. -/
def skipObjectEnd : ObjectEnd → Except SyntaxFault Unit
  | .closed => .ok ()
  | .atEnd => .error .endInObject
  | .noComma => .error .noObjectEnd
  | .trailingComma => .error .keyNotString
  | .commaAtEnd => .error .endInObject
  | .notAKey _ => .error .keyNotString
  | .brokenKey faults => .error faults.unwanted

mutual

/-- Pass over a value: only what keeps its end from being found is a fault. -/
def skip : JsonText → Except SyntaxFault Unit
  | .broken faults => .error faults.unwanted
  | .arr items finish => do skipItems items; skipListEnd finish
  | .obj members finish => do skipMembers members; skipObjectEnd finish
  | _ => .ok ()

/-- Pass over items. -/
def skipItems : List JsonText → Except SyntaxFault Unit
  | [] => .ok ()
  | t :: rest => do skip t; skipItems rest

/-- Pass over members. -/
def skipMembers : List (Except SyntaxFault String × JsonText) → Except SyntaxFault Unit
  | [] => .ok ()
  | (_, t) :: rest => do skip t; skipMembers rest

end

/-! ### Reading a whole value -/

/-- How the end of a list fails a reader who wants all of it. -/
def wantListEnd : ListEnd → Except SyntaxFault Unit
  | .closed => .ok ()
  | .atEnd => .error .endInList
  | .noComma => .error .noListEnd
  | .trailingComma => .error .trailingComma

/-- How the end of an object fails a reader who wants all of it. -/
def wantObjectEnd : ObjectEnd → Except SyntaxFault Unit
  | .closed => .ok ()
  | .atEnd => .error .endInObject
  | .noComma => .error .noObjectEnd
  | .trailingComma => .error .trailingComma
  | .commaAtEnd => .error .endInValue
  | .notAKey _ => .error .keyNotString
  | .brokenKey faults => .error faults.wanted

/-- How many more lists and objects a value may lie in; `none` when that does not matter. -/
abbrev Depth := Option Nat

/-- The depth that a text may have. -/
def maxDepth : Depth := some 127

/-- The depth inside a list or an object. -/
def Depth.enter : Depth → Except SyntaxFault Depth
  | none => .ok none
  | some 0 => .error .tooDeep
  | some (depth + 1) => .ok (some depth)

mutual

/-- The value, which may hold lists and objects down to a depth. -/
def json (depth : Depth) : JsonText → Except SyntaxFault Json
  | .null => .ok .null
  | .bool b => .ok (.bool b)
  | .num value => value.map .num
  | .str value => value.map .str
  | .arr items finish => do
    let depth ← depth.enter
    let items ← jsonItems depth items
    wantListEnd finish
    return .arr items
  | .obj members finish => do
    let depth ← depth.enter
    let members ← jsonMembers depth members
    wantObjectEnd finish
    return Json.ofMembers members
  | .broken faults => .error faults.wanted

/-- The values of items. -/
def jsonItems (depth : Depth) : List JsonText → Except SyntaxFault (List Json)
  | [] => .ok []
  | t :: rest => do
    let v ← json depth t
    let vs ← jsonItems depth rest
    return v :: vs

/-- The values of members. -/
def jsonMembers (depth : Depth) :
    List (Except SyntaxFault String × JsonText) → Except SyntaxFault (List (String × Json))
  | [] => .ok []
  | (key, t) :: rest => do
    let k ← key
    let v ← json depth t
    let vs ← jsonMembers depth rest
    return (k, v) :: vs

end

/-! ### Values as texts -/

mutual

/-- A value as it stands in a text without faults. -/
def ofJson : Json → JsonText
  | .null => .null
  | .bool b => .bool b
  | .num n => .num (.ok n)
  | .str s => .str (.ok s)
  | .arr items => .arr (ofItems items) .closed
  | .obj members => .obj (ofMembers members) .closed

/-- Items as they stand in a text. -/
def ofItems : List Json → List JsonText
  | [] => []
  | v :: rest => ofJson v :: ofItems rest

/-- Members as they stand in a text. -/
def ofMembers : List (String × Json) → List (Except SyntaxFault String × JsonText)
  | [] => []
  | (k, v) :: rest => (.ok k, ofJson v) :: ofMembers rest

end

/-- What may follow the value that a whole text is. -/
def finish (rest : RawText) : Except SyntaxFault Unit :=
  if (skipSpaces rest).isEmpty then .ok () else .error .trailingText

end JsonText

/-- The value that a whole text is. -/
def Json.parse (t : RawText) : Except SyntaxFault Json := do
  let (value, rest) := JsonText.ofRaw t
  let v ← value.json JsonText.maxDepth
  JsonText.finish rest
  return v

end Orchestration
