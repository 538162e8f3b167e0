import Orchestration.Disk.Basic
import Orchestration.KeyMap
import Orchestration.Shell.Pattern
import Orchestration.Shell.Script

/-!
# Shells at work

A running shell has variables, arguments, a directory, and places that its commands read from and
write to.

* `Job` — the state of one running shell;
* `Job.value?` — the value of a parameter;
* `Job.text` — a word with everything replaced, as one text;
* `Job.fields` — a word with everything replaced, split where unquoted values hold separators;
* `Job.pattern` — a word as a pattern.
-/

namespace Orchestration.Shell

/-! ### State -/

/-- Where output goes. -/
inductive Sink where
  /-- To whoever started the program. -/
  | session
  | nowhere
  | file (place : Place)
  /-- To a command that waits for all of it. -/
  | kept
  deriving DecidableEq, Repr

/-- Where input comes from. -/
inductive Origin where
  /-- From whoever started the program. -/
  | session
  | text (left : RawText)

/-- A running shell. -/
structure Job where
  vars : KeyMap RawText
  functions : KeyMap Command
  /-- The variables that programs started from here receive. -/
  exported : List String
  name : RawText
  arguments : List RawText
  directory : Place
  input : Origin
  output : Sink
  errors : Sink
  /-- The status of the last command. -/
  status : Nat
  /-- Whether nobody waits for this shell. -/
  detached : Bool

namespace Job

/-- A place as a path. -/
def pathOf (place : Place) : String := "/" ++ "/".intercalate place

/-- Set a variable. -/
def set (j : Job) (name : String) (value : RawText) : Job :=
  { j with vars := j.vars.insert name value }

/-- Go to a directory. -/
def enter (j : Job) (place : Place) : Job :=
  { j with directory := place }.set "PWD" (.ofString (pathOf place))

/-- A shell that has just been started with an environment. -/
def start (environment : KeyMap RawText) (place : Place) : Job :=
  (Job.mk environment .empty ("PWD" :: environment.keys) [] [] place .session .session .nowhere 0
    false).enter place

/-- The shell of a program that a shell starts. -/
def child (j : Job) (name : RawText) (arguments : List RawText) : Job :=
  let vars := KeyMap.ofList (j.vars.entries.filter fun e => j.exported.contains e.1)
  { j with vars, functions := .empty, exported := vars.keys, name, arguments, status := 0 }

/-! ### Parameters -/

/-- A number as text. -/
def number (n : Nat) : RawText := .ofString (toString n)

/-- The characters that separate fields. -/
def separators (j : Job) : RawText :=
  (j.vars.find? "IFS").getD (.ofString " \t\n")

/-- What stands between arguments that are taken as one text. -/
def joiner (j : Job) : RawText := j.separators.take 1

/-- The value of a parameter, if it is set. -/
def value? (j : Job) (name : String) : Option RawText :=
  match name with
  | "#" => some (number j.arguments.length)
  | "?" => some (number j.status)
  | "$" => some (number 1)
  | "!" => none
  | "-" => some []
  | "@" | "*" =>
    if j.arguments.isEmpty then none else some (j.joiner.intercalate j.arguments)
  | name =>
    match name.toNat? with
    | some 0 => some j.name
    | some (n + 1) => j.arguments[n]?
    | none => j.vars.find? name

/-! ### Words -/

/-- A part of a word in which everything is replaced. -/
inductive Mark where
  | glyph (g : Glyph) (quoted splits : Bool)
  | quotes
  /-- The border between two arguments. -/
  | border

/-- A mark in the word of an alternative: what is not quoted there is split like a value. -/
def Mark.splitting : Mark → Mark
  | .glyph g quoted _ => .glyph g quoted (!quoted)
  | m => m

/-- The marks of a value. -/
def valueMarks (quoted : Bool) (t : RawText) : List Mark := t.map (.glyph · quoted (!quoted))

/-- The marks of all arguments as so many fields. -/
def argumentMarks (quoted : Bool) (ts : List RawText) : List Mark :=
  [Mark.border].intercalate (ts.map fun t =>
    if quoted then .quotes :: valueMarks quoted t else valueMarks quoted t)

/-- The marks of a parameter. -/
def parameterMarks (j : Job) (name : String) (quoted : Bool) : List Mark :=
  if name == "@" || (name == "*" && !quoted) then argumentMarks quoted j.arguments
  else valueMarks quoted ((j.value? name).getD [])

/-- Whether a parameter is set to something that counts. -/
def isSet (j : Job) (name : String) (emptyIsUnset : Bool) : Bool :=
  match j.value? name with
  | none => false
  | some t => !(emptyIsUnset && t.isEmpty)

mutual

/-- The marks of a piece. -/
def pieceMarks (j : Job) : Piece → List Mark
  | .char c quoted => [.glyph (.char c) quoted false]
  | .quotes => [.quotes]
  | .output .. => []
  | .value t quoted => valueMarks quoted t
  | .parameter name quoted => j.parameterMarks name quoted
  | .alternative name emptyIsUnset whenSet word quoted =>
    let counts := j.isSet name emptyIsUnset
    if counts == whenSet then (wordMarks j word).map Mark.splitting
    else if counts then j.parameterMarks name quoted
    else []

/-- The marks of a word. -/
def wordMarks (j : Job) : List Piece → List Mark
  | [] => []
  | p :: rest => pieceMarks j p ++ wordMarks j rest

end

/-- The glyphs of marks, where borders are blanks. -/
def markGlyph? : Mark → Option (Glyph × Bool)
  | .glyph g quoted _ => some (g, quoted)
  | .border => some (.char ' ', true)
  | .quotes => none

/-- A word as one text. -/
def text (j : Job) (w : Word) : RawText :=
  (j.wordMarks w).filterMap fun m => (markGlyph? m).map (·.1)

/-- A word as a pattern. -/
def pattern (j : Job) (w : Word) : List PatternPart :=
  patternOf ((j.wordMarks w).filterMap markGlyph?)

/-- Whether a glyph is a blank. -/
def isBlankGlyph (g : Glyph) : Bool := g == .char ' ' || g == .char '\t' || g == .char '\n'

/-- The fields of marks, given the separators and the field that has begun, reversed. -/
def fieldsFrom (separators : RawText) : Option RawText → List Mark → List RawText
  | begun, [] => (begun.map List.reverse).toList
  | begun, .quotes :: rest => fieldsFrom separators (some (begun.getD [])) rest
  | begun, .border :: rest => (begun.map List.reverse).toList ++ fieldsFrom separators none rest
  | begun, .glyph g _ splits :: rest =>
    if splits && separators.contains g then
      let ended := if isBlankGlyph g then begun.toList else [begun.getD []]
      ended.map List.reverse ++ fieldsFrom separators none rest
    else fieldsFrom separators (some (g :: begun.getD [])) rest

/-- A word as fields. -/
def fields (j : Job) (w : Word) : List RawText := fieldsFrom j.separators none (j.wordMarks w)

theorem fieldsFrom_quoted (separators begun : RawText) (cs : List Char) :
    fieldsFrom separators (some begun) (cs.map fun c => .glyph (.char c) true false) =
      [begun.reverse ++ cs.map .char] := by
  induction cs generalizing begun with
  | nil => simp [fieldsFrom]
  | cons c cs ih => simp [fieldsFrom, ih]

/-- Quoted characters make one field, whatever they are. -/
theorem fields_literal (j : Job) (cs : List Char) : j.fields (.literal cs) = [cs.map .char] := by
  have marks : j.wordMarks (cs.map (.char · true)) =
      cs.map fun c => .glyph (.char c) true false := by
    induction cs with
    | nil => simp [wordMarks]
    | cons c cs ih => simp [wordMarks, pieceMarks, ih]
  simp [fields, Word.literal, wordMarks, pieceMarks, marks, fieldsFrom, fieldsFrom_quoted]

/-- Words as fields. -/
def allFields (j : Job) (ws : List Word) : List RawText := ws.flatMap j.fields

end Job

end Orchestration.Shell
