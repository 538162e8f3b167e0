import Orchestration.Text.Raw

/-!
# Words of a shell script

A word is what a command's name, an argument or a value is written as.  It keeps which of its
characters were quoted, since only unquoted ones can separate fields or match more than
themselves:

* `Piece`, `Word` — what words are made of;
* `Word.bare?` — the characters of a word in which nothing is quoted or replaced;
* `Word.literal` — the word that stands for given characters;
* `readPieces` — reading a word, also inside quotes and braces;
* `firstOutput?`, `fillOutput?` — the commands in a word whose output it is to hold.
-/

namespace Orchestration.Shell

/-! ### Pieces -/

/-- A part of a word. -/
inductive Piece where
  | char (c : Char) (quoted : Bool)
  /-- A pair of quotes: the word makes a field even if nothing else is in it. -/
  | quotes
  /-- What a script prints, without the line feeds at its end. -/
  | output (script : List Char) (quoted : Bool)
  /-- What a script has printed. -/
  | value (t : RawText) (quoted : Bool)
  /-- The value of a parameter. -/
  | parameter (name : String) (quoted : Bool)
  /-- A word in place of a parameter: where the parameter is set, or where it is not.  The
  other way round its own value is taken, or nothing. -/
  | alternative (name : String) (emptyIsUnset whenSet : Bool) (word : List Piece) (quoted : Bool)
  deriving Inhabited

/-- A word of a script. -/
abbrev Word := List Piece

/-- The character of a piece that is neither quoted nor replaced. -/
def Piece.bare? : Piece → Option Char
  | .char c false => some c
  | _ => none

namespace Word

/-- The characters of a word in which nothing is quoted or replaced. -/
def bare? (w : Word) : Option (List Char) := w.mapM Piece.bare?

/-- Whether a word is a keyword. -/
def isKeyword (w : Word) (keyword : String) : Bool := w.bare? == some keyword.toList

/-- The word that stands for given characters. -/
def literal (cs : List Char) : Word := .quotes :: cs.map (.char · true)

end Word

/-- Whether a piece is what a script has printed. -/
def Piece.isValue : Piece → Bool
  | .value .. => true
  | _ => false

/-! ### Output in words -/

mutual

/-- The first script in a piece whose output is still missing. -/
def pieceOutput? : Piece → Option (List Char)
  | .output script _ => some script
  | .alternative _ _ _ word _ => firstOutput? word
  | _ => none

/-- The first script in a word whose output is still missing. -/
def firstOutput? : List Piece → Option (List Char)
  | [] => none
  | p :: rest => (pieceOutput? p).or (firstOutput? rest)

end

mutual

/-- A piece with the first missing output in it. -/
def fillPiece? (t : RawText) : Piece → Option Piece
  | .output _ quoted => some (.value t quoted)
  | .alternative name emptyIsUnset whenSet word quoted =>
    (fillOutput? t word).map (.alternative name emptyIsUnset whenSet · quoted)
  | _ => none

/-- A word with the first missing output in it. -/
def fillOutput? (t : RawText) : List Piece → Option (List Piece)
  | [] => none
  | p :: rest =>
    match fillPiece? t p with
    | some p => some (p :: rest)
    | none => (fillOutput? t rest).map (p :: ·)

end

/-! ### Characters -/

/-- Whether a character ends a word unless it is quoted. -/
def isMeta (c : Char) : Bool := " \t\n;&|()<>".toList.contains c

/-- Whether a character can begin a name. -/
def isNameStart (c : Char) : Bool := c.isAlpha || c == '_'

/-- Whether a character can stand in a name. -/
def isNameChar (c : Char) : Bool := c.isAlphanum || c == '_'

/-- Whether a character is the name of a parameter of its own. -/
def isSpecialName (c : Char) : Bool := "@*#?$!-".toList.contains c

/-- A parameter's name at the beginning of a text.  Only names in braces can have more than one
digit. -/
def parameterName? (braced : Bool) : List Char → Option (String × List Char)
  | [] => none
  | c :: rest =>
    if isNameStart c then
      some (String.ofList (c :: rest.takeWhile isNameChar), rest.dropWhile isNameChar)
    else if c.isDigit && braced then
      some (String.ofList (c :: rest.takeWhile Char.isDigit), rest.dropWhile Char.isDigit)
    else if c.isDigit || isSpecialName c then some (String.singleton c, rest)
    else none

/-- How an alternative in braces begins: whether an empty value counts as none, and whether the
word is taken where the parameter is set. -/
def alternativeMark? : List Char → Option (Bool × Bool × List Char)
  | ':' :: '-' :: rest => some (true, false, rest)
  | ':' :: '+' :: rest => some (true, true, rest)
  | '-' :: rest => some (false, false, rest)
  | '+' :: rest => some (false, true, rest)
  | _ => none

/-- The text up to the parenthesis that closes a script, given how many are open.  What is quoted
does not count. -/
def takeScript : Nat → Option Char → Nat → List Char → Option (List Char × List Char)
  | 0, _, _, _ | _, _, _, [] => none
  | n + 1, quote, depth, c :: rest =>
    let more (quote : Option Char) (depth : Nat) : Option (List Char × List Char) :=
      (takeScript n quote depth rest).map fun (script, left) => (c :: script, left)
    match c, quote with
    | '\\', some '"' | '\\', none =>
      match rest with
      | e :: rest =>
        (takeScript n quote depth rest).map fun (script, left) => (c :: e :: script, left)
      | [] => none
    | c, some q => more (if c == q then none else quote) depth
    | '\'', none | '"', none => more (some c) depth
    | '(', none => more none (depth + 1)
    | ')', none => if depth = 0 then some ([], rest) else more none (depth - 1)
    | _, none => more none depth

/-- The text up to the mark that closes a script written between two of them. -/
def takeMarked : List Char → Option (List Char × List Char)
  | [] => none
  | '\x60' :: rest => some ([], rest)
  | c :: rest => (takeMarked rest).map fun (script, left) => (c :: script, left)

/-- Whether a backslash in double quotes takes a character's meaning away. -/
def isEscapable (c : Char) : Bool := c == '$' || c == '"' || c == '\\' || c == '\x60'

/-! ### Reading -/

/-- What stands in double quotes.  All arguments together are as many fields as there are. -/
def quotedPieces : Word → Word
  | [.parameter "@" quoted] => [.parameter "@" quoted]
  | w => .quotes :: w

/-- Read pieces up to a closing character, or else to the end of the word; a quoted text without
a closing character has no end before the last.  Every piece takes at least one character, so a
text's length is enough fuel. -/
def readPieces : Nat → Bool → Option Char → List Char → Option (Word × List Char)
  | 0, _, _, _ => none
  | _ + 1, _, close, [] => if close.isNone then some ([], []) else none
  | n + 1, quoted, close, c :: rest =>
    let more (pieces : Word) (rest : List Char) : Option (Word × List Char) :=
      (readPieces n quoted close rest).map fun (w, left) => (pieces ++ w, left)
    if close == some c then some ([], rest)
    else if close.isNone && !quoted && isMeta c then some ([], c :: rest)
    else match c with
      | '\\' =>
        match rest with
        | [] => some ([.char '\\' true], [])
        | '\n' :: rest => more [] rest
        | e :: rest =>
          if quoted && !isEscapable e then more [.char '\\' true, .char e true] rest
          else more [.char e true] rest
      | '\'' =>
        if quoted then more [.char c true] rest
        else match rest.dropWhile (· != '\'') with
          | [] => none
          | _ :: left => more (.quotes :: (rest.takeWhile (· != '\'')).map (.char · true)) left
      | '"' =>
        if quoted then more (if close.isNone then [.char c true] else []) rest
        else match readPieces n true (some '"') rest with
          | none => none
          | some (inner, left) => more (quotedPieces inner) left
      | '$' =>
        match rest with
        | '(' :: '(' :: _ => none
        | '(' :: rest =>
          match takeScript n none 0 rest with
          | some (script, left) => more [.output script quoted] left
          | none => none
        | '\x7b' :: rest =>
          match parameterName? true rest with
          | none => none
          | some (name, '\x7d' :: left) => more [.parameter name quoted] left
          | some (name, left) =>
            match alternativeMark? left with
            | none => none
            | some (emptyIsUnset, whenSet, left) =>
              match readPieces n quoted (some '\x7d') left with
              | none => none
              | some (word, left) =>
                more [.alternative name emptyIsUnset whenSet word quoted] left
        | rest =>
          match parameterName? false rest with
          | some (name, left) => more [.parameter name quoted] left
          | none => more [.char c quoted] rest
      | '\x60' =>
        match takeMarked rest with
        | some (script, left) => more [.output script quoted] left
        | none => none
      | c => more [.char c quoted] rest

/-- Read an unquoted word. -/
def readWord (cs : List Char) : Option (Word × List Char) :=
  readPieces (cs.length + 1) false none cs

end Orchestration.Shell
