import Orchestration.Yaml.Tag

/-!
# Tokens of a document

* `ScalarStyle` — how a scalar is written;
* `Token` — the signs of a document, those of its layout included.
-/

namespace Orchestration.Yaml

/-- How a scalar is written. -/
inductive ScalarStyle where
  | plain
  | singleQuoted
  | doubleQuoted
  | literal
  | folded
  deriving DecidableEq, Repr, Inhabited

/-- A sign of a document. -/
inductive Token where
  | version (major minor : Nat)
  | tagHandle (handle : String) (start : RawText)
  | documentStart
  | documentEnd
  | streamEnd
  | blockSequenceStart
  | blockMappingStart
  | blockEnd
  | flowSequenceStart
  | flowSequenceEnd
  | flowMappingStart
  | flowMappingEnd
  | blockEntry
  | flowEntry
  | key
  | value
  | alias (name : String)
  | anchor (name : String)
  | tag (handle : String) (suffix : RawText)
  | scalar (style : ScalarStyle) (text : String)
  deriving DecidableEq, Repr, Inhabited

end Orchestration.Yaml
