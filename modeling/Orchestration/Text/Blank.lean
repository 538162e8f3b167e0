/-!
# White space, and trimming it

A character is blank when Unicode gives it the property `White_Space`.  Identifiers and frames
are trimmed of blank characters at both ends:

* `isBlank` — the property, as ranges of code points;
* `trimmed` / `trim` — a text without the blank characters at its ends;
* `trimmed_eq_nil_iff` — a text trims to nothing exactly when all of it is blank.
-/

namespace Orchestration

/-- Whether a character has the Unicode property `White_Space`. -/
def isBlank (c : Char) : Bool :=
  let n := c.toNat
  (0x09 ≤ n && n ≤ 0x0D) || n == 0x20 || n == 0x85 || n == 0xA0 || n == 0x1680 ||
  (0x2000 ≤ n && n ≤ 0x200A) || n == 0x2028 || n == 0x2029 || n == 0x202F || n == 0x205F ||
  n == 0x3000

/-- The text without what satisfies `p` at its end. -/
def dropEndWhile (p : Char → Bool) : List Char → List Char
  | [] => []
  | c :: rest =>
    match dropEndWhile p rest with
    | [] => if p c then [] else [c]
    | kept => c :: kept

/-- The text without blank characters at its end. -/
def trimmedEnd (cs : List Char) : List Char :=
  dropEndWhile isBlank cs

/-- The text without blank characters at its beginning. -/
def trimmedStart (cs : List Char) : List Char :=
  cs.dropWhile isBlank

/-- The text without blank characters at either end. -/
def trimmed (cs : List Char) : List Char :=
  trimmedEnd (trimmedStart cs)

/-- A string without blank characters at either end. -/
def trim (s : String) : String :=
  String.ofList (trimmed s.toList)

/-- Whether a string holds nothing but blank characters. -/
def blankText (s : String) : Bool :=
  s.toList.all isBlank

theorem dropEndWhile_eq_nil_iff (p : Char → Bool) (cs : List Char) :
    dropEndWhile p cs = [] ↔ cs.all p = true := by
  induction cs with
  | nil => simp [dropEndWhile]
  | cons c rest ih =>
    unfold dropEndWhile
    split
    · next h =>
      have := ih.1 h
      by_cases hc : p c <;> simp_all
    · next h =>
      have : ¬ rest.all p = true := fun hr => h (ih.2 hr)
      simp_all

theorem trimmed_eq_nil_iff (cs : List Char) : trimmed cs = [] ↔ cs.all isBlank = true := by
  unfold trimmed trimmedEnd trimmedStart
  rw [dropEndWhile_eq_nil_iff]
  induction cs with
  | nil => simp
  | cons c rest ih =>
    by_cases hc : isBlank c
    · simp [hc, ih]
    · simp [hc]

end Orchestration
