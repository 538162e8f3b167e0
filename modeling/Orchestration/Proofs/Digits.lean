import Mathlib.Data.List.Induction
import Orchestration.Json.Literal
import Orchestration.Timestamp

/-!
# Digits, written and read back

Numbers are written with the highest digit first; every reader takes digits from the front and
keeps a running value.  The list of digits stands between the two:

* `decimals`, `fixedDecimals` — the digits of a number, as many as it needs or a fixed count;
* `toDigits_eq_decimals`, `padded_eq_fixedDecimals` — these are the digits that are written;
* `Timestamp.takeDigits_digits`, `takeDigits_digits` — both readers take them off again;
* `ofDigits_decimals`, `ofDigits_fixedDecimals` — and they spell the number;
* `hexQuad?_hexPadded` — four hexadecimal digits spell the number they were made from;
* `WritesDigits` — a fixed number of digits in any base: they determine the number
  (`WritesDigits.inj`), and every row of digits is written for one (`WritesDigits.exists_number`).
-/

namespace Orchestration

/-! ### Single digits -/

/-- The character of a decimal digit. -/
def decimalDigit (d : Nat) : Char := Char.ofNat (48 + d)

theorem decimalDigit_range : ∀ d < 10, '0' ≤ decimalDigit d ∧ decimalDigit d ≤ '9' := by decide

theorem decimalDigit_value : ∀ d < 10, (decimalDigit d).toNat - 48 = d := by decide

theorem decimalDigit_eq_digitChar : ∀ d < 10, Nat.digitChar d = decimalDigit d := by decide

theorem digitValue?_decimalDigit : ∀ d < 10, digitValue? (decimalDigit d) = some d := by decide

theorem hexValue?_hexDigit : ∀ d < 16, hexValue? (.char (hexDigit d)) = some d := by decide

/-! ### The digits of a number -/

/-- The decimal digits of a number, without leading zeros. -/
def decimals (n : Nat) : List Nat :=
  if n < 10 then [n] else decimals (n / 10) ++ [n % 10]
termination_by n
decreasing_by omega

/-- The lowest `count` decimal digits of a number. -/
def fixedDecimals : Nat → Nat → List Nat
  | 0, _ => []
  | count + 1, n => fixedDecimals count (n / 10) ++ [n % 10]

theorem fixedDecimals_length (count n : Nat) : (fixedDecimals count n).length = count := by
  induction count generalizing n with
  | zero => rfl
  | succ count ih => simp [fixedDecimals, ih]

theorem decimals_lt (n : Nat) : ∀ d ∈ decimals n, d < 10 := by
  rw [decimals]
  split
  · next h => simpa using h
  · intro d hd
    rcases List.mem_append.1 hd with hd | hd
    · exact decimals_lt (n / 10) d hd
    · simp only [List.mem_singleton] at hd
      omega
termination_by n
decreasing_by omega

theorem fixedDecimals_lt (count n : Nat) : ∀ d ∈ fixedDecimals count n, d < 10 := by
  induction count generalizing n with
  | zero => simp [fixedDecimals]
  | succ count ih =>
    intro d hd
    rcases List.mem_append.1 hd with hd | hd
    · exact ih (n / 10) d hd
    · simp only [List.mem_singleton] at hd
      omega

theorem decimals_ne_nil (n : Nat) : decimals n ≠ [] := by
  rw [decimals]
  split <;> simp

/-- Only zero is written with a zero in front. -/
theorem decimals_head (n : Nat) {ds : List Nat} (h : decimals n = 0 :: ds) : ds = [] := by
  rw [decimals] at h
  split at h
  · simp only [List.cons.injEq] at h
    exact h.2.symm
  · next hn =>
    cases hq : decimals (n / 10) with
    | nil => exact absurd hq (decimals_ne_nil _)
    | cons d rest =>
      rw [hq, List.cons_append, List.cons.injEq] at h
      obtain ⟨rfl, -⟩ := h
      -- the digits before the last are those of a number that is not zero
      have hrest : rest = [] := decimals_head (n / 10) hq
      rw [decimals] at hq
      split at hq
      · simp only [List.cons.injEq] at hq
        omega
      · subst hrest
        have := congrArg List.length hq
        simp only [List.length_append, List.length_cons, List.length_nil] at this
        exact absurd (List.length_eq_zero_iff.1 (by omega)) (decimals_ne_nil (n / 10 / 10))
termination_by n
decreasing_by omega

/-! ### The value of digits -/

namespace Timestamp

theorem ofDigits_append (ds : List Nat) (d : Nat) :
    ofDigits (ds ++ [d]) = ofDigits ds * 10 + d := by
  simp [ofDigits]

theorem ofDigits_decimals (n : Nat) : ofDigits (decimals n) = n := by
  rw [decimals]
  split
  · simp [ofDigits]
  · rw [ofDigits_append, ofDigits_decimals (n / 10)]
    omega
termination_by n
decreasing_by omega

theorem ofDigits_fixedDecimals {count n : Nat} (h : n < Nat.pow 10 count) :
    ofDigits (fixedDecimals count n) = n := by
  induction count generalizing n with
  | zero =>
    change n < 1 at h
    simp only [fixedDecimals, ofDigits, List.foldl_nil]
    omega
  | succ count ih =>
    have hdiv : n / 10 < Nat.pow 10 count := by
      change n < Nat.pow 10 count * 10 at h
      omega
    rw [fixedDecimals, ofDigits_append, ih hdiv]
    omega

end Timestamp

/-! ### What is written -/

theorem padded_eq_fixedDecimals (count n : Nat) :
    Timestamp.padded count n = (fixedDecimals count n).map decimalDigit := by
  induction count generalizing n with
  | zero => rfl
  | succ count ih =>
    rw [Timestamp.padded, fixedDecimals, ih, List.map_append]
    rfl

theorem toDigits_eq_decimals (n : Nat) : Nat.toDigits 10 n = (decimals n).map decimalDigit := by
  rw [Nat.toDigits_eq_if (by decide), decimals]
  split
  · next h => simp [decimalDigit_eq_digitChar n h]
  · rw [toDigits_eq_decimals (n / 10), List.map_append,
      decimalDigit_eq_digitChar (n % 10) (Nat.mod_lt n (by decide))]
    rfl
termination_by n
decreasing_by omega

theorem toString_eq_decimals (n : Nat) : (toString n).toList = (decimals n).map decimalDigit := by
  rw [Nat.toString_eq_repr, Nat.toList_repr, toDigits_eq_decimals]

/-! ### Taking digits off -/

/-- A text does not go on with a decimal digit. -/
def NoDigitNext (cs : List Char) : Prop := ∀ c ∈ cs.head?, ¬ ('0' ≤ c ∧ c ≤ '9')

namespace Timestamp

/-- Digits are taken up to the limit, or up to what is no digit. -/
theorem takeDigits_digits {limit : Nat} {ds : List Nat} {rest : List Char}
    (hds : ∀ d ∈ ds, d < 10)
    (h : ds.length = limit ∨ ds.length < limit ∧ NoDigitNext rest) :
    takeDigits limit (ds.map decimalDigit ++ rest) = (ds, rest) := by
  induction ds generalizing limit with
  | nil =>
    cases limit with
    | zero => rfl
    | succ limit =>
      cases rest with
      | nil => rfl
      | cons c cs =>
        have hc : ¬ ('0' ≤ c ∧ c ≤ '9') := by
          rcases h with h | ⟨-, h⟩
          · simp at h
          · exact h c rfl
        simp [takeDigits, hc]
  | cons d ds ih =>
    obtain ⟨hd, hds⟩ := List.forall_mem_cons.1 hds
    cases limit with
    | zero => simp at h
    | succ limit =>
      have hmore : takeDigits limit (ds.map decimalDigit ++ rest) = (ds, rest) := by
        refine ih hds ?_
        simpa using h
      rw [List.map_cons, List.cons_append, takeDigits, if_pos (decimalDigit_range d hd), hmore,
        decimalDigit_value d hd]

end Timestamp

/-- The glyphs after a whole number do not belong to it. -/
def NumberEnds : RawText → Prop
  | .char c :: _ => digitValue? c = none ∧ c ≠ '.' ∧ c ≠ 'e' ∧ c ≠ 'E'
  | _ => True

theorem takeDigits_digits {ds : List Nat} {rest : RawText} (hds : ∀ d ∈ ds, d < 10)
    (hrest : NumberEnds rest) :
    takeDigits ((ds.map decimalDigit).map .char ++ rest) = (ds, rest) := by
  induction ds with
  | nil =>
    match rest, hrest with
    | [], _ => rfl
    | .broken _ :: _, _ => rfl
    | .char c :: _, h => simp [takeDigits, h.1]
  | cons d ds ih =>
    obtain ⟨hd, hds⟩ := List.forall_mem_cons.1 hds
    rw [List.map_cons, List.map_cons, List.cons_append, takeDigits,
      digitValue?_decimalDigit d hd, ih hds]

/-! ### Hexadecimal digits -/

theorem hexPadded_four (n : Nat) :
    hexPadded 4 n = [hexDigit (n / 16 / 16 / 16 % 16), hexDigit (n / 16 / 16 % 16),
      hexDigit (n / 16 % 16), hexDigit (n % 16)] := rfl

theorem hexQuad?_hexPadded {n : Nat} (h : n < 65536) :
    hexQuad? (.char (hexDigit (n / 16 / 16 / 16 % 16))) (.char (hexDigit (n / 16 / 16 % 16)))
      (.char (hexDigit (n / 16 % 16))) (.char (hexDigit (n % 16))) = some n := by
  have hlt (m : Nat) : m % 16 < 16 := Nat.mod_lt m (by decide)
  simp only [hexQuad?, hexValue?_hexDigit _ (hlt _), Option.bind_eq_bind, Option.bind_some,
    Option.pure_def, Option.some.injEq]
  omega

/-! ### Fixed numbers of digits -/

/-- The lowest digits of a number in a base are written, highest first, as many as asked for. -/
structure WritesDigits (base : Nat) (digit : Nat → Char) (write : Nat → Nat → List Char) :
    Prop where
  positive : 0 < base
  none : ∀ n, write 0 n = []
  next : ∀ count n, write (count + 1) n = write count (n / base) ++ [digit (n % base)]

theorem Timestamp.padded_writes : WritesDigits 10 decimalDigit Timestamp.padded :=
  ⟨by decide, fun _ => rfl, fun _ _ => rfl⟩

theorem hexPadded_writes : WritesDigits 16 hexDigit hexPadded :=
  ⟨by decide, fun _ => rfl, fun _ _ => rfl⟩

namespace WritesDigits

variable {base : Nat} {digit : Nat → Char} {write : Nat → Nat → List Char}
  (h : WritesDigits base digit write)
include h

theorem forall_mem {P : Char → Prop} (each : ∀ d < base, P (digit d)) (count : Nat) :
    ∀ n, ∀ c ∈ write count n, P c := by
  induction count with
  | zero => intro n c hc; rw [h.none] at hc; exact absurd hc List.not_mem_nil
  | succ count ih =>
    intro n c hc
    rw [h.next] at hc
    rcases List.mem_append.1 hc with hc | hc
    · exact ih _ c hc
    · rw [List.mem_singleton.1 hc]
      exact each _ (Nat.mod_lt n h.positive)

/-- A number is determined by its digits, if they reach to its highest one. -/
theorem inj (apart : ∀ a < base, ∀ b < base, digit a = digit b → a = b) (count : Nat) :
    ∀ m n, m < Nat.pow base count → n < Nat.pow base count → write count m = write count n →
      m = n := by
  induction count with
  | zero =>
    intro m n hm hn _
    rw [Nat.lt_one_iff.1 hm, Nat.lt_one_iff.1 hn]
  | succ count ih =>
    intro m n hm hn same
    rw [Nat.pow_eq, Nat.pow_succ, Nat.mul_comm] at hm hn
    rw [h.next, h.next] at same
    obtain ⟨high, low⟩ := List.append_inj' same rfl
    have hdiv : m / base = n / base :=
      ih _ _ (Nat.div_lt_of_lt_mul hm) (Nat.div_lt_of_lt_mul hn) high
    have hmod : m % base = n % base :=
      apart _ (Nat.mod_lt m h.positive) _ (Nat.mod_lt n h.positive) (List.cons.inj low).1
    rw [← Nat.div_add_mod m base, hdiv, hmod, Nat.div_add_mod]

/-- Every row of digits is what is written for some number. -/
theorem exists_number (cs : List Char) (shown : ∀ c ∈ cs, ∃ d < base, digit d = c) :
    ∃ n < Nat.pow base cs.length, write cs.length n = cs := by
  induction cs using List.reverseRecOn with
  | nil => exact ⟨0, Nat.one_pos, h.none 0⟩
  | append_singleton cs c ih =>
    obtain ⟨n, fits, written⟩ := ih fun x hx => shown x (List.mem_append_left _ hx)
    obtain ⟨d, hd, rfl⟩ := shown c (List.mem_append_right _ List.mem_cons_self)
    have high : (d + base * n) / base = n := by
      rw [Nat.add_mul_div_left d n h.positive, Nat.div_eq_of_lt hd, Nat.zero_add]
    have low : (d + base * n) % base = d := by
      rw [Nat.add_mul_mod_self_left, Nat.mod_eq_of_lt hd]
    have room : d + base * n < Nat.pow base cs.length * base :=
      calc d + base * n < base + base * n := Nat.add_lt_add_right hd _
        _ = (n + 1) * base := by rw [Nat.succ_mul, Nat.mul_comm, Nat.add_comm]
        _ ≤ Nat.pow base cs.length * base := Nat.mul_le_mul_right base fits
    refine ⟨d + base * n, ?_, ?_⟩
    · rw [List.length_append, List.length_singleton]
      exact room
    · rw [List.length_append, List.length_singleton, h.next, high, low, written]

end WritesDigits

end Orchestration
