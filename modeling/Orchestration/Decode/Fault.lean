import Orchestration.Text.Quoted

/-!
# Why data cannot be read as a record

* `SyntaxFault` — a text is not JSON;
* `Found` — what stood where something else was expected;
* `DecodeFault` — every reason for which data is not a record of the wanted kind;
* `DecodeError` — such a reason, with the place in the data where that is known.
-/

namespace Orchestration

/-! ### Text that is not JSON -/

/-- Why a text is not JSON. -/
inductive SyntaxFault where
  | endInValue
  | endInList
  | endInObject
  | endInString
  | noValue
  | badLiteral
  | noColon
  | noListEnd
  | noObjectEnd
  | keyNotString
  | trailingComma
  | trailingText
  | controlCharacter
  | badEscape
  | halfSurrogatePair
  | loneSurrogate
  | notUnicode
  | badNumber
  | numberTooLarge
  | tooDeep
  deriving DecidableEq, Repr

/-- The words for a syntax fault. -/
def SyntaxFault.message : SyntaxFault → String
  | .endInValue => "EOF while parsing a value"
  | .endInList => "EOF while parsing a list"
  | .endInObject => "EOF while parsing an object"
  | .endInString => "EOF while parsing a string"
  | .noValue => "expected value"
  | .badLiteral => "expected ident"
  | .noColon => "expected `:`"
  | .noListEnd => "expected `,` or `]`"
  | .noObjectEnd => "expected `,` or `\x7d`"
  | .keyNotString => "key must be a string"
  | .trailingComma => "trailing comma"
  | .trailingText => "trailing characters"
  | .controlCharacter =>
    "control character (\\u0000-\\u001F) found while parsing a string"
  | .badEscape => "invalid escape"
  | .halfSurrogatePair => "unexpected end of hex escape"
  | .loneSurrogate => "lone leading surrogate in hex escape"
  | .notUnicode => "invalid unicode code point"
  | .badNumber => "invalid number"
  | .numberTooLarge => "number out of range"
  | .tooDeep => "recursion limit exceeded"

/-! ### Data of another kind -/

/-- What stood where something else was expected. -/
inductive Found where
  | null
  | unit
  | bool (value : Bool)
  | int (value : Int)
  | real (shown : String)
  | text (value : String)
  | sequence
  | map
  | tagged
  deriving DecidableEq, Repr

/-- How a found thing is described. -/
def Found.describe : Found → String
  | .null => "null"
  | .unit => "unit value"
  | .bool true => "boolean `true`"
  | .bool false => "boolean `false`"
  | .int n => "integer `" ++ toString n ++ "`"
  | .real shown => "floating point `" ++ shown ++ "`"
  | .text value => "string " ++ quoted value
  | .sequence => "sequence"
  | .map => "map"
  | .tagged => "enum"

/-- Why data is not a record of the wanted kind. -/
inductive DecodeFault where
  | malformed (fault : SyntaxFault)
  | wrongType (found : Found) (expected : String)
  | wrongValue (found : Found) (expected : String)
  | wrongLength (length : Nat) (expected : String)
  | unknownVariant (name : String) (known : List String)
  | missingField (name : String)
  | duplicateField (name : String)
  | rejected (reason : String)
  deriving DecidableEq, Repr

/-- The names that would have been known, as a message lists them. -/
def expectedNames : List String → String
  | [] => "there are no variants"
  | [a] => "expected `" ++ a ++ "`"
  | [a, b] => "expected `" ++ a ++ "` or `" ++ b ++ "`"
  | names => "expected one of " ++ ", ".intercalate (names.map fun n => "`" ++ n ++ "`")

/-- The words for a decoding fault. -/
def DecodeFault.message : DecodeFault → String
  | .malformed fault => fault.message
  | .wrongType found expected =>
    "invalid type: " ++ found.describe ++ ", expected " ++ expected
  | .wrongValue found expected =>
    "invalid value: " ++ found.describe ++ ", expected " ++ expected
  | .wrongLength length expected =>
    "invalid length " ++ toString length ++ ", expected " ++ expected
  | .unknownVariant name known => "unknown variant `" ++ name ++ "`, " ++ expectedNames known
  | .missingField name => "missing field `" ++ name ++ "`"
  | .duplicateField name => "duplicate field `" ++ name ++ "`"
  | .rejected reason => reason

/-! ### Places -/

/-- One step from data to a part of it. -/
inductive PlaceStep where
  | field (name : String)
  | item (index : Nat)
  | unknown
  deriving DecidableEq, Repr

/-- The text of a place, the steps given from the innermost outwards. -/
def placeText : List PlaceStep → String
  | [] => ""
  | .item index :: outer => placeText outer ++ "[" ++ toString index ++ "]"
  | .field name :: outer =>
    match outer with
    | [] => name
    | _ => placeText outer ++ "." ++ name
  | .unknown :: outer =>
    match outer with
    | [] => "?"
    | _ => placeText outer ++ ".?"

/-- A decoding fault, and where in the data it lies if that is known. -/
structure DecodeError where
  fault : DecodeFault
  place : Option (List PlaceStep)
  deriving DecidableEq, Repr

/-- The words for a decoding error; a fault of the whole has no place in front. -/
def DecodeError.message (e : DecodeError) : String :=
  match e.place with
  | some (step :: outer) => placeText (step :: outer) ++ ": " ++ e.fault.message
  | _ => e.fault.message

/-- A fault whose place is not known. -/
def DecodeFault.anywhere (fault : DecodeFault) : DecodeError := ⟨fault, none⟩

/-- The error with its place, unless it already has one. -/
def DecodeError.located (place : List PlaceStep) (e : DecodeError) : DecodeError :=
  match e.place with
  | some _ => e
  | none => { e with place := some place }

end Orchestration
