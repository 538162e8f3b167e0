import Orchestration.Text.Raw

/-!
# Patterns

* `PatternPart` — a glyph that stands for itself, or one that matches more;
* `patternOf` — the pattern of glyphs of which some are quoted;
* `matchesPattern` — whether a whole text matches.
-/

namespace Orchestration.Shell

/-- A part of a pattern. -/
inductive PatternPart where
  | glyph (g : Glyph)
  | anyGlyph
  | anyText
  /-- One of some characters, or none of them. -/
  | oneOf (wanted : Bool) (ranges : List (Char × Char))
  deriving DecidableEq

/-- The ranges of a set of characters. -/
def rangesOf : List Char → List (Char × Char)
  | a :: '-' :: b :: rest => (a, b) :: rangesOf rest
  | a :: rest => (a, a) :: rangesOf rest
  | [] => []

/-- The set of characters at the beginning of unquoted text, after its bracket. -/
def setOf? (cs : List Char) : Option (PatternPart × Nat) :=
  let (wanted, skipped, cs) := match cs with
    | '!' :: rest => (false, 1, rest)
    | cs => (true, 0, cs)
  let (first, cs) := match cs with
    | ']' :: rest => ([']'], rest)
    | cs => ([], cs)
  match cs.dropWhile (· != ']') with
  | [] => none
  | _ :: _ =>
    let set := first ++ cs.takeWhile (· != ']')
    some (.oneOf wanted (rangesOf set), skipped + set.length + 1)

/-- The unquoted character of a glyph. -/
def plainChar? : Glyph × Bool → Option Char
  | (.char c, false) => some c
  | _ => none

/-- The pattern of glyphs, each with whether it was quoted.  Every part takes at least one of
them, so their number is enough fuel. -/
def patternFrom : Nat → List (Glyph × Bool) → List PatternPart
  | 0, _ | _, [] => []
  | n + 1, g :: rest =>
    match plainChar? g with
    | some '*' => .anyText :: patternFrom n rest
    | some '?' => .anyGlyph :: patternFrom n rest
    | some '[' =>
      match setOf? (rest.map plainChar? |>.takeWhile Option.isSome |>.filterMap id) with
      | some (part, taken) => part :: patternFrom n (rest.drop taken)
      | none => .glyph g.1 :: patternFrom n rest
    | _ => .glyph g.1 :: patternFrom n rest

/-- The pattern of glyphs, each with whether it was quoted. -/
def patternOf (gs : List (Glyph × Bool)) : List PatternPart := patternFrom gs.length gs

/-- Whether a part that stands for one glyph matches it. -/
def PatternPart.accepts : PatternPart → Glyph → Bool
  | .glyph h, g => h == g
  | .anyGlyph, _ | .anyText, _ => true
  | .oneOf wanted ranges, .char c => ranges.any (fun (a, b) => a ≤ c && c ≤ b) == wanted
  | .oneOf wanted _, .broken _ => !wanted

/-- Whether a test holds of a text or of any text that is left when glyphs are dropped. -/
def anySuffix (test : RawText → Bool) : RawText → Bool
  | [] => test []
  | g :: rest => test (g :: rest) || anySuffix test rest

/-- Whether a whole text matches. -/
def matchesPattern : List PatternPart → RawText → Bool
  | [], t => t.isEmpty
  | .anyText :: parts, t => parts.isEmpty || anySuffix (matchesPattern parts) t
  | _ :: _, [] => false
  | part :: parts, g :: rest => part.accepts g && matchesPattern parts rest

theorem matchesPattern_anyText (t : RawText) : matchesPattern [.anyText] t = true := by
  simp [matchesPattern]

end Orchestration.Shell
