import Orchestration.Proofs.Digits

/-!
# Instants keep their value in records

The reader of instants is laxer than the writer, so what is shown here has one direction: each
part of a written instant is taken off by its reader, and the whole gives the instant again.

* `Timestamp.yearField_yearChars`, `field_padded`, `fraction_fractionChars` — the parts;
* `Timestamp.parse_text` — every instant is read back from its text, inserted seconds included.
-/

namespace Orchestration

namespace Timestamp

/-! ### Blanks and separators -/

theorem trimmedStart_cons {c : Char} (h : isBlank c = false) (cs : List Char) :
    trimmedStart (c :: cs) = c :: cs := by
  simp [trimmedStart, h]

theorem isBlank_decimalDigit : ∀ d < 10, isBlank (decimalDigit d) = false := by decide

theorem separator_cons {c : Char} (h : isBlank c = false) (rest : List Char) :
    separator c (c :: rest) = .ok ((), rest) := by
  simp [separator, trimmedStart_cons h]

/-- A text that starts with a digit is not trimmed. -/
theorem trimmedStart_digits {ds : List Nat} (hne : ds ≠ []) (hds : ∀ d ∈ ds, d < 10)
    (rest : List Char) :
    trimmedStart (ds.map decimalDigit ++ rest) = ds.map decimalDigit ++ rest := by
  cases ds with
  | nil => exact absurd rfl hne
  | cons d ds => exact trimmedStart_cons (isBlank_decimalDigit d (hds d List.mem_cons_self)) _

/-! ### Numbers -/

theorem number_digits {limit : Nat} {ds : List Nat} {rest : List Char} (hne : ds ≠ [])
    (hds : ∀ d ∈ ds, d < 10) (h : ds.length = limit ∨ ds.length < limit ∧ NoDigitNext rest)
    (hsmall : ofDigits ds < 9223372036854775808) :
    number limit (ds.map decimalDigit ++ rest) = .ok (ofDigits ds, rest) := by
  unfold number
  rw [takeDigits_digits hds h]
  cases ds with
  | nil => exact absurd rfl hne
  | cons d ds => simpa using hsmall

theorem number_padded {limit n : Nat} (hpos : 0 < limit) (hn : n < Nat.pow 10 limit)
    (hsmall : n < 9223372036854775808) (rest : List Char) :
    number limit (padded limit n ++ rest) = .ok (n, rest) := by
  have hlen := fixedDecimals_length limit n
  have hne : fixedDecimals limit n ≠ [] := by
    intro h
    rw [h] at hlen
    simp only [List.length_nil] at hlen
    omega
  have hvalue : ofDigits (fixedDecimals limit n) = n := ofDigits_fixedDecimals hn
  rw [padded_eq_fixedDecimals,
    number_digits hne (fixedDecimals_lt limit n) (.inl hlen) (by rwa [hvalue]), hvalue]

theorem field_padded {low high n : Nat} (hlow : low ≤ n) (hhigh : n ≤ high) (h : high < 100)
    (rest : List Char) : field low high (padded 2 n ++ rest) = .ok (n, rest) := by
  have htrim : trimmedStart (padded 2 n ++ rest) = padded 2 n ++ rest := by
    rw [padded_eq_fixedDecimals]
    exact trimmedStart_digits (by simp [fixedDecimals]) (fixedDecimals_lt 2 n) rest
  have hfits : n < 100 := Nat.lt_of_le_of_lt hhigh h
  have hnumber : number 2 (padded 2 n ++ rest) = .ok (n, rest) :=
    number_padded (by decide) hfits (by omega) rest
  unfold field
  rw [htrim, hnumber]
  exact if_pos ⟨hlow, hhigh⟩

/-! ### Years -/

theorem ofDigits_zeros (count : Nat) (ds : List Nat) :
    ofDigits (List.replicate count 0 ++ ds) = ofDigits ds := by
  induction count with
  | zero => rfl
  | succ count ih => rw [← ih]; simp [ofDigits, List.replicate_succ]

/-- The digits of a year that has a sign. -/
def signedYearDigits (n : Nat) : List Nat :=
  List.replicate (4 - (decimals n).length) 0 ++ decimals n

theorem signedYearDigits_lt (n : Nat) : ∀ d ∈ signedYearDigits n, d < 10 := by
  intro d hd
  rcases List.mem_append.1 hd with hd | hd
  · rw [List.eq_of_mem_replicate hd]
    decide
  · exact decimals_lt n d hd

theorem signedYearDigits_ne_nil (n : Nat) : signedYearDigits n ≠ [] := by
  simp [signedYearDigits, decimals_ne_nil]

/-- The number after the sign of a year ends where its digits do. -/
theorem number_signedYear {n : Nat} {rest : List Char} (hn : n < 9223372036854775808)
    (hrest : NoDigitNext rest) :
    let cs := (signedYearDigits n).map decimalDigit ++ rest
    number cs.length cs = .ok (n, rest) := by
  intro cs
  have hlen : cs.length = (signedYearDigits n).length + rest.length := by simp [cs]
  have hvalue : ofDigits (signedYearDigits n) = n := by
    rw [signedYearDigits, ofDigits_zeros, ofDigits_decimals]
  have hends : (signedYearDigits n).length = cs.length ∨
      (signedYearDigits n).length < cs.length ∧ NoDigitNext rest := by
    by_cases h : rest.length = 0
    · exact .inl (by omega)
    · exact .inr ⟨by omega, hrest⟩
  have hread := number_digits (signedYearDigits_ne_nil n) (signedYearDigits_lt n) hends
    (by rwa [hvalue])
  rw [hread, hvalue]

theorem yearChars_signed {year : Int} (h : ¬ (0 ≤ year ∧ year ≤ 9999)) :
    yearChars year =
      (if year < 0 then '-' else '+') :: (signedYearDigits year.natAbs).map decimalDigit := by
  have hzero : decimalDigit 0 = '0' := rfl
  rw [yearChars, if_neg h, toString_eq_decimals]
  simp [signedYearDigits, hzero]

theorem decimalDigit_ne_sign : ∀ d < 10, decimalDigit d ≠ '-' ∧ decimalDigit d ≠ '+' := by
  decide

/-- A year that starts with a digit has four digits at most. -/
theorem yearField_unsigned {d : Nat} (hd : d < 10) {cs rest : List Char} {n : Nat}
    (h : number 4 (decimalDigit d :: cs) = .ok (n, rest)) (hn : n < 2147483648) :
    yearField (decimalDigit d :: cs) = .ok (n, rest) := by
  have hsigns := decimalDigit_ne_sign d hd
  unfold yearField
  rw [trimmedStart_cons (isBlank_decimalDigit d hd)]
  split
  · next heq => exact absurd (List.cons.inj heq).1 hsigns.1
  · next heq => exact absurd (List.cons.inj heq).1 hsigns.2
  · have hbounds : -2147483648 ≤ (n : Int) ∧ (n : Int) < 2147483648 := by omega
    simp only [h, Except.map, bind, Except.bind]
    exact if_pos hbounds

theorem yearField_yearChars {year : Int} (hlow : -262143 ≤ year) (hhigh : year ≤ 262142)
    {rest : List Char} (hrest : NoDigitNext rest) :
    yearField (yearChars year ++ rest) = .ok (year, rest) := by
  by_cases h : 0 ≤ year ∧ year ≤ 9999
  · have hfits : year.toNat < 10000 := by omega
    have hnumber : number 4 (padded 4 year.toNat ++ rest) = .ok (year.toNat, rest) :=
      number_padded (by decide) hfits (by omega) rest
    obtain ⟨d, cs, hd, hcs⟩ : ∃ d cs, d < 10 ∧
        padded 4 year.toNat ++ rest = decimalDigit d :: cs :=
      ⟨_, _, fixedDecimals_lt 4 year.toNat _ List.mem_cons_self,
        by rw [padded_eq_fixedDecimals]; rfl⟩
    have hyear : ((year.toNat : Nat) : Int) = year := Int.toNat_of_nonneg h.1
    rw [yearChars, if_pos h, hcs, yearField_unsigned hd (hcs ▸ hnumber) (by omega), hyear]
  · have hnumber := number_signedYear (n := year.natAbs) (by omega) hrest
    rw [yearChars_signed h, List.cons_append]
    unfold yearField
    by_cases hneg : year < 0
    · rw [if_pos hneg, trimmedStart_cons (by decide)]
      have hyear : -((year.natAbs : Nat) : Int) = year := by omega
      simp only [hnumber, Except.map, bind, Except.bind, hyear]
      exact if_pos (by omega)
    · rw [if_neg hneg, trimmedStart_cons (by decide)]
      have hyear : ((year.natAbs : Nat) : Int) = year := by omega
      simp only [hnumber, Except.map, bind, Except.bind, hyear]
      exact if_pos (by omega)

/-! ### Fractions -/

theorem fraction_none {rest : List Char} (h : rest.head? ≠ some '.') :
    fraction rest = .ok (0, rest) := by
  unfold fraction
  split
  · simp at h
  · rfl

/-- A fraction of up to nine digits counts nanoseconds. -/
theorem fraction_padded {count n : Nat} (hpos : 0 < count) (hcount : count ≤ 9)
    (hn : n < Nat.pow 10 count) {rest : List Char} (hrest : NoDigitNext rest) :
    fraction ('.' :: (padded count n ++ rest)) = .ok (n * Nat.pow 10 (9 - count), rest) := by
  have hlen := fixedDecimals_length count n
  have hends : (fixedDecimals count n).length = 9 ∨
      (fixedDecimals count n).length < 9 ∧ NoDigitNext rest := by
    by_cases h : count = 9
    · exact .inl (by omega)
    · exact .inr ⟨by omega, hrest⟩
  have hne : fixedDecimals count n ≠ [] := by
    intro h
    rw [h] at hlen
    simp only [List.length_nil] at hlen
    omega
  have hvalue : ofDigits (fixedDecimals count n) = n := ofDigits_fixedDecimals hn
  have hbound : n < 1000000000 :=
    Nat.lt_of_lt_of_le hn (Nat.pow_le_pow_right (by decide) hcount)
  have hnumber := number_digits hne (fixedDecimals_lt count n) hends
    (by rw [hvalue]; omega)
  have htake := takeDigits_digits (fixedDecimals_lt count n) hends
  -- nothing is left of the digits, so nothing is passed over
  have hrest : takeDigits rest.length rest = ([], rest) := by
    cases rest with
    | nil => rfl
    | cons c cs =>
      have hnone : ∀ d ∈ ([] : List Nat), d < 10 := by simp
      exact takeDigits_digits hnone (.inr ⟨by simp, hrest⟩)
  rw [padded_eq_fixedDecimals]
  simp only [fraction, hnumber, htake, hrest, hvalue, hlen, bind, Except.bind]
  rfl

theorem fraction_fractionChars {nano : Nat} (h : nano < 1000000000) {rest : List Char}
    (hdigit : NoDigitNext rest) (hpoint : rest.head? ≠ some '.') :
    fraction (fractionChars nano ++ rest) = .ok (nano, rest) := by
  unfold fractionChars
  split
  · next hzero => rw [hzero]; exact fraction_none hpoint
  · split
    · next hmod =>
      have hfits : nano / 1000000 < 1000 := by omega
      have hscaled : nano / 1000000 * 1000000 = nano := by omega
      rw [List.cons_append, fraction_padded (by decide) (by decide) hfits hdigit]
      exact congrArg (fun n => Except.ok (n, rest)) hscaled
    · split
      · next hmod =>
        have hfits : nano / 1000 < 1000000 := by omega
        have hscaled : nano / 1000 * 1000 = nano := by omega
        rw [List.cons_append, fraction_padded (by decide) (by decide) hfits hdigit]
        exact congrArg (fun n => Except.ok (n, rest)) hscaled
      · rw [List.cons_append, fraction_padded (by decide) (by decide) h hdigit]
        exact congrArg (fun n => Except.ok (n, rest)) (Nat.mul_one nano)

/-! ### The whole text -/

theorem text_toList (t : Timestamp) :
    t.text.toList = yearChars t.year ++ '-' :: (padded 2 t.month ++ '-' :: (padded 2 t.day ++
      'T' :: (padded 2 t.hour ++ ':' :: (padded 2 t.minute ++ ':' :: (padded 2 t.shownSecond ++
        (fractionChars (t.nano % 1000000000) ++ ['Z'])))))) := by
  simp [text, dateChars, timeChars]

/-- In universal time the shown fields are those of the instant. -/
theorem ofLocal?_zero {year : Int} {month day hour minute second nano : Nat}
    (hhour : hour ≤ 23) (hminute : minute ≤ 59) :
    ofLocal? ⟨year, month, day⟩ hour minute second nano 0 =
      make? year month day hour minute second nano := by
  unfold ofLocal?
  have hlow : ¬ (hour : Int) * 60 + minute - 0 < 0 := by omega
  have hhigh : ¬ 1440 ≤ (hour : Int) * 60 + minute - 0 := by omega
  have hdiv : ((hour : Int) * 60 + minute - 0).toNat / 60 = hour := by omega
  have hmod : ((hour : Int) * 60 + minute - 0).toNat % 60 = minute := by omega
  simp only [hlow, hhigh, if_false, hdiv, hmod]

theorem make?_self (t : Timestamp) :
    make? t.year t.month t.day t.hour t.minute t.second t.nano = some t := by
  rw [make?, dif_pos t.valid]

/-- Every instant is read back from its text, inserted seconds included. -/
theorem parse_text (t : Timestamp) : parse t.text = .ok t := by
  have hvalid := t.valid
  simp only [validFields, Bool.and_eq_true, Bool.or_eq_true, decide_eq_true_eq, beq_iff_eq]
    at hvalid
  obtain ⟨⟨⟨⟨⟨⟨⟨⟨⟨hlow, hhigh⟩, hmonth⟩, hmonth'⟩, hday⟩, -⟩, hhour⟩, hminute⟩, hsecond⟩,
    hnano⟩ := hvalid
  have hshown : t.shownSecond ≤ 60 := by
    unfold shownSecond
    split <;> omega
  have hyear : NoDigitNext ('-' :: (padded 2 t.month ++ '-' :: (padded 2 t.day ++
      'T' :: (padded 2 t.hour ++ ':' :: (padded 2 t.minute ++ ':' :: (padded 2 t.shownSecond ++
        (fractionChars (t.nano % 1000000000) ++ ['Z']))))))) := by
    simp [NoDigitNext]
  have hfraction : fraction (fractionChars (t.nano % 1000000000) ++ ['Z']) =
      .ok (t.nano % 1000000000, ['Z']) :=
    fraction_fractionChars (Nat.mod_lt _ (by decide)) (by simp [NoDigitNext]) (by simp)
  have hoffset : offset (trimmedStart ['Z']) = .ok (0, []) := rfl
  -- a shown second 60 stands for the second 59 and a fraction beyond a whole second
  have hclock : (if t.shownSecond = 60 then (59, t.nano % 1000000000 + 1000000000)
      else (t.shownSecond, t.nano % 1000000000)) = (t.second, t.nano) := by
    by_cases hleap : 1000000000 ≤ t.nano
    · have hshown : t.shownSecond = t.second + 1 := if_pos hleap
      rw [if_pos (by omega), Prod.mk.injEq]
      omega
    · have hshown : t.shownSecond = t.second := if_neg hleap
      rw [if_neg (by omega), Prod.mk.injEq]
      omega
  unfold parse
  rw [text_toList, yearField_yearChars hlow hhigh hyear]
  simp only [bind, Except.bind, separator_cons (c := '-') (by decide),
    separator_cons (c := ':') (by decide), field_padded hmonth hmonth' (by decide),
    field_padded hday t.day_le (by decide), field_padded (Nat.zero_le _) hhour (by decide),
    field_padded (Nat.zero_le _) hminute (by decide),
    field_padded (Nat.zero_le _) hshown (by decide), dateEnd, true_or, if_true, hfraction,
    hoffset, hclock]
  simp [make?_self, ofLocal?_zero hhour hminute, trimmedStart, pure, Except.pure]

end Timestamp

end Orchestration
