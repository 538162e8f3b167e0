import Orchestration.Json.Print
import Orchestration.Json.Text
import Orchestration.Proofs.Digits

/-!
# The literals of JSON, written and read back

* `readText_stringBody` — a written string is read as it was, and skipped to the same place;
* `readNumber_decimals` — a whole number is read as it was, if nothing after it belongs to it.
-/

namespace Orchestration

/-! ### Strings -/

/-- What is written of a string after its opening quote. -/
def stringBody (s : String) : RawText :=
  (s.toList.flatMap Json.escapeChar ++ ['"']).map .char

theorem stringChars_eq_body (s : String) :
    (Json.stringChars s).map Glyph.char = .char '"' :: stringBody s := rfl

/-- A character is written by a letter after a backslash, by its number, or as itself. -/
theorem escapeChar_cases (c : Char) :
    (∃ e, Json.escapeChar c = ['\\', e] ∧ e ≠ 'u' ∧ simpleEscape? e = some c) ∨
    (c.toNat < 32 ∧ Json.escapeChar c = '\\' :: 'u' :: hexPadded 4 c.toNat) ∨
    (c ≠ '"' ∧ c ≠ '\\' ∧ ¬ c.toNat < 32 ∧ Json.escapeChar c = [c]) := by
  have hself : Char.ofNat c.toNat = c := Char.ofNat_toNat c
  unfold Json.escapeChar
  split
  · next h => exact .inl ⟨_, rfl, by decide, by rw [h]; decide⟩
  split
  · next h => exact .inl ⟨_, rfl, by decide, by rw [h]; decide⟩
  split
  · next h => exact .inl ⟨_, rfl, by decide, by rw [h]; decide⟩
  split
  · next h => exact .inl ⟨_, rfl, by decide, by rw [h]; decide⟩
  split
  · next h => exact .inl ⟨_, rfl, by decide, by rw [h]; decide⟩
  split
  · next h => exact .inl ⟨_, rfl, by decide, by rw [← hself, h]; decide⟩
  split
  · next h => exact .inl ⟨_, rfl, by decide, by rw [← hself, h]; decide⟩
  split
  · next h => exact .inr (.inl ⟨h, rfl⟩)
  · next hquote hslash _ _ _ _ _ h => exact .inr (.inr ⟨hquote, hslash, h, rfl⟩)

theorem skipString_closed (rest : RawText) : skipString (.char '"' :: rest) = .ok rest := by
  unfold skipString
  rfl

theorem readGlyphs_closed (rest : RawText) : readGlyphs (.char '"' :: rest) = .ok [] := by
  unfold readGlyphs
  rfl

/-- Passing over a written character leaves what comes after it. -/
theorem skipString_escapeChar (c : Char) (rest : RawText) :
    skipString ((Json.escapeChar c).map .char ++ rest) = skipString rest := by
  rcases escapeChar_cases c with ⟨e, he, hu, hsimple⟩ | ⟨hlow, he⟩ | ⟨hquote, hslash, hlow, he⟩
  · rw [he, List.map_cons, List.map_singleton, List.cons_append, List.singleton_append,
      skipString.eq_def]
    simp [hu, hsimple]
  · have hquad := hexQuad?_hexPadded (n := c.toNat) (by omega)
    rw [he, hexPadded_four, skipString.eq_def]
    simp [hquad]
  · rw [he, List.map_singleton, List.singleton_append, skipString.eq_def]
    simp [hquote, hslash, hlow]

/-- A written character is read as itself. -/
theorem readGlyphs_escapeChar (c : Char) (rest : RawText) :
    readGlyphs ((Json.escapeChar c).map .char ++ rest) =
      (readGlyphs rest).map (.char c :: ·) := by
  rcases escapeChar_cases c with ⟨e, he, hu, hsimple⟩ | ⟨hlow, he⟩ | ⟨hquote, hslash, hlow, he⟩
  · rw [he, List.map_cons, List.map_singleton, List.cons_append, List.singleton_append,
      readGlyphs.eq_def]
    simp [hu, hsimple]
  · have hquad := hexQuad?_hexPadded (n := c.toNat) (by omega)
    -- a control character is no half of a pair
    have hlowHalf : ¬ (0xDC00 ≤ c.toNat ∧ c.toNat ≤ 0xDFFF) := by omega
    have hhighHalf : ¬ (0xD800 ≤ c.toNat ∧ c.toNat ≤ 0xDBFF) := by omega
    rw [he, hexPadded_four, readGlyphs.eq_def]
    simp only [List.map_cons, List.map_nil, List.cons_append, List.nil_append, hquad, hlowHalf,
      hhighHalf, if_false, Char.ofNat_toNat]
    rfl
  · rw [he, List.map_singleton, List.singleton_append, readGlyphs.eq_def]
    simp [hquote, hslash, hlow]

theorem skipString_chars (cs : List Char) (rest : RawText) :
    skipString ((cs.flatMap Json.escapeChar).map .char ++ .char '"' :: rest) = .ok rest := by
  induction cs with
  | nil => exact skipString_closed rest
  | cons c cs ih =>
    rw [List.flatMap_cons, List.map_append, List.append_assoc, skipString_escapeChar, ih]

theorem readGlyphs_chars (cs : List Char) (rest : RawText) :
    readGlyphs ((cs.flatMap Json.escapeChar).map .char ++ .char '"' :: rest) =
      .ok (cs.map .char) := by
  induction cs with
  | nil => exact readGlyphs_closed rest
  | cons c cs ih =>
    rw [List.flatMap_cons, List.map_append, List.append_assoc, readGlyphs_escapeChar, ih]
    rfl

theorem readString_stringBody (s : String) (rest : RawText) :
    readString (stringBody s ++ rest) = .ok s := by
  have hglyphs : readGlyphs (stringBody s ++ rest) = .ok (s.toList.map .char) := by
    simpa [stringBody] using readGlyphs_chars s.toList rest
  have hstrict : RawText.strict? (s.toList.map .char) = .ok s := RawText.ofString_strict? s
  simp only [readString, hglyphs, bind, Except.bind, hstrict]
  rfl

/-- A written string is read as it was, up to its closing quote. -/
theorem readText_stringBody (s : String) (rest : RawText) :
    JsonText.readText (stringBody s ++ rest) = .ok (.ok s, rest) := by
  have hskip : skipString (stringBody s ++ rest) = .ok rest := by
    simpa [stringBody] using skipString_chars s.toList rest
  rw [JsonText.readText, hskip, readString_stringBody]

/-! ### Whole numbers -/

/-- A value of digits is at least what they started from. -/
theorem le_foldl_digits (ds : List Nat) (start : Nat) :
    start ≤ ds.foldl (fun n d => n * 10 + d) start := by
  induction ds generalizing start with
  | nil => exact Nat.le_refl start
  | cons d ds ih => exact Nat.le_trans (by omega) (ih (start * 10 + d))

/-- Digits whose value fits 64 bits are all counted. -/
theorem accumulate_of_fits {ds : List Nat} {start : Nat}
    (h : ds.foldl (fun n d => n * 10 + d) start < 18446744073709551616) :
    NumberLiteral.accumulate start ds = (ds.foldl (fun n d => n * 10 + d) start, 0) := by
  induction ds generalizing start with
  | nil => rfl
  | cons d ds ih =>
    have hle := le_foldl_digits ds (start * 10 + d)
    have hfits : ¬ Nat.pow 2 64 ≤ start * 10 + d :=
      Nat.not_le.2 (Nat.lt_of_le_of_lt hle h)
    rw [NumberLiteral.accumulate, if_neg hfits, ih h, List.foldl_cons]

theorem accumulate_decimals {n : Nat} (h : n < 18446744073709551616) :
    NumberLiteral.accumulate 0 (decimals n) = (n, 0) := by
  have hvalue : (decimals n).foldl (fun n d => n * 10 + d) 0 = n := Timestamp.ofDigits_decimals n
  rw [accumulate_of_fits (by rwa [hvalue]), hvalue]

/-- What is written of a natural number. -/
def decimalGlyphs (n : Nat) : RawText := ((decimals n).map decimalDigit).map .char

theorem scanWhole_decimals (n : Nat) {rest : RawText} (h : NumberEnds rest) :
    scanWhole (decimalGlyphs n ++ rest) = .ok (decimals n, rest) := by
  rw [scanWhole, decimalGlyphs, takeDigits_digits (decimals_lt n) h]
  split
  · next heq => exact absurd (Prod.mk.inj heq).1 (decimals_ne_nil n)
  · next heq => exact absurd (decimals_head n (Prod.mk.inj heq).1) (by simp)
  · next heq => cases heq; rfl

/-- A text in which a number is over has neither a fraction nor an exponent. -/
theorem scanFraction_of_ends {rest : RawText} (h : NumberEnds rest) :
    scanFraction rest = .ok (none, rest) := by
  unfold scanFraction
  split
  · exact absurd rfl h.2.1
  · rfl

theorem scanExponent_of_ends {rest : RawText} (h : NumberEnds rest) :
    scanExponent rest = .ok (none, rest) := by
  unfold scanExponent
  split
  · rw [if_neg (by rintro (he | he) <;> simp [NumberEnds, he] at h)]
  · rfl

theorem scanNumber_decimals (negative : Bool) (n : Nat) {rest : RawText} (h : NumberEnds rest) :
    scanNumber negative (decimalGlyphs n ++ rest) =
      .ok (⟨negative, decimals n, none, none⟩, rest) := by
  simp only [scanNumber, scanWhole_decimals n h, scanFraction_of_ends h, scanExponent_of_ends h,
    bind, Except.bind]
  rfl

namespace Number

theorem ofInt_of_range {n : Int} (h : IntegerRange n) : ofInt n = .int n h := by
  rw [ofInt, dif_pos h]

end Number

/-- A number that is not negative is read after no sign. -/
theorem readNumber_decimals {n : Nat} (hn : n < 18446744073709551616) {rest : RawText}
    (h : NumberEnds rest) :
    JsonText.readNumber false (decimalGlyphs n ++ rest) = (.num (.ok (.ofNat n)), rest) := by
  rw [JsonText.readNumber, scanNumber_decimals false n h]
  simp [NumberLiteral.value, accumulate_decimals hn]

/-- A negative number is read after its sign. -/
theorem readNumber_negative {n : Nat} (hn : n < 18446744073709551616) (hne : n ≠ 0) {rest : RawText}
    (h : NumberEnds rest) :
    JsonText.readNumber true (decimalGlyphs n ++ rest) = (.num (.ok (.ofInt (-n))), rest) := by
  rw [JsonText.readNumber, scanNumber_decimals true n h]
  simp [NumberLiteral.value, accumulate_decimals hn, hne]

end Orchestration
