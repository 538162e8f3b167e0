import Orchestration.Disk.Path
import Orchestration.Project.TestId
import Orchestration.Proofs.Digits
import Orchestration.Text.Blank

/-!
# Identifiers tell apart what random bits tell apart

The suffix of an identifier has a fixed width, so it can be read off the end, and with it the
bits it was made of, whatever stage and date stand before it.  While years have four digits the
date has a fixed width too, and what is left is the stage:

* `hexPadded_inj` — digits of a fixed number determine the number;
* `testId_bits` — an identifier determines its random bits;
* `blankText_testId` — an identifier is never blank;
* `IsTestId`, `isTestId_testId` — its date and its suffix are eight digits each;
* `exists_suffixText` — every eight hexadecimal digits are a suffix;
* `testId_eq_iff` — an identifier determines its stage, its date and its random bits;
* `testId_slashless` — its only slashes are those of the stage.
-/

namespace Orchestration

theorem hexDigit_inj : ∀ a < 16, ∀ b < 16, hexDigit a = hexDigit b → a = b := by decide

theorem hexPadded_inj (count : Nat) : ∀ m n : Nat, m < Nat.pow 16 count →
    n < Nat.pow 16 count → hexPadded count m = hexPadded count n → m = n :=
  hexPadded_writes.inj hexDigit_inj count

theorem suffixText_inj {a b : UInt32} (h : suffixText a = suffixText b) : a = b := by
  have digits : hexPadded 8 a.toNat = hexPadded 8 b.toNat := by
    have := congrArg String.toList h
    simpa [suffixText] using this
  exact UInt32.toNat_inj.1 (hexPadded_inj 8 _ _ a.toNat_lt b.toNat_lt digits)

/-- Identifiers with different random bits are different. -/
theorem testId_bits {stage stage' : String} {now now' : Timestamp} {bits bits' : UInt32}
    (h : testId stage now bits = testId stage' now' bits') : bits = bits' := by
  have texts := congrArg String.toList h
  simp only [testId, String.toList_append] at texts
  have ends := (List.append_inj' texts (by rw [suffixText_length, suffixText_length])).2
  exact suffixText_inj (String.toList_inj.1 ends)

theorem blankText_testId (stage : String) (now : Timestamp) (bits : UInt32) :
    blankText (testId stage now bits) = false := by
  have front : "test-".toList.all isBlank = false := by decide
  simp only [blankText, testId, String.toList_append, List.all_append, front, Bool.false_and]

/-! ### Digits -/

theorem padded_digits (count : Nat) :
    ∀ n, ∀ c ∈ Timestamp.padded count n, c.isDigit = true :=
  Timestamp.padded_writes.forall_mem (by decide) count

theorem compactDate_toList {now : Timestamp} (h : 0 ≤ now.year ∧ now.year ≤ 9999) :
    now.compactDate.toList = Timestamp.padded 4 now.year.toNat ++
      Timestamp.padded 2 now.month ++ Timestamp.padded 2 now.day := by
  rw [Timestamp.compactDate, Timestamp.yearChars, if_pos h, String.toList_ofList]

/-- While years have four digits, a date has eight. -/
theorem compactDate_digits {now : Timestamp} (h : 0 ≤ now.year ∧ now.year ≤ 9999) :
    now.compactDate.toList.length = 8 ∧ ∀ c ∈ now.compactDate.toList, c.isDigit = true := by
  rw [compactDate_toList h]
  refine ⟨by simp, ?_⟩
  intro c hc
  rcases List.mem_append.1 hc with hc | hc
  · rcases List.mem_append.1 hc with hc | hc
    · exact padded_digits 4 _ c hc
    · exact padded_digits 2 _ c hc
  · exact padded_digits 2 _ c hc

theorem hexPadded_digits (count : Nat) :
    ∀ n, ∀ c ∈ hexPadded count n, c ∈ "0123456789abcdef".toList :=
  hexPadded_writes.forall_mem (by decide) count

theorem suffixText_digits (bits : UInt32) : (suffixText bits).toList.length = 8 ∧
    ∀ c ∈ (suffixText bits).toList, c ∈ "0123456789abcdef".toList := by
  refine ⟨suffixText_length bits, ?_⟩
  rw [suffixText, String.toList_ofList]
  exact hexPadded_digits 8 _

/-- Every eight hexadecimal digits are the suffix for some random bits. -/
theorem exists_suffixText {suffix : String} (wide : suffix.toList.length = 8)
    (shown : ∀ c ∈ suffix.toList, c ∈ "0123456789abcdef".toList) :
    ∃ bits, suffixText bits = suffix := by
  have digits : "0123456789abcdef".toList = (List.range 16).map hexDigit := by decide
  have digit : ∀ c ∈ suffix.toList, ∃ d < 16, hexDigit d = c := by
    intro c hc
    obtain ⟨d, among, same⟩ := List.mem_map.1 (digits ▸ shown c hc)
    exact ⟨d, List.mem_range.1 among, same⟩
  obtain ⟨n, fits, written⟩ := hexPadded_writes.exists_number suffix.toList digit
  rw [wide] at fits written
  refine ⟨UInt32.ofNat n, ?_⟩
  rw [suffixText, UInt32.toNat_ofNat_of_lt' fits, written, String.ofList_toList]

/-- The text of an identifier of a stage: a date of eight digits, and eight hexadecimal digits. -/
def IsTestId (stage id : String) : Prop :=
  ∃ date suffix : String, id = "test-" ++ stage ++ "-" ++ date ++ "-" ++ suffix ∧
    (date.toList.length = 8 ∧ ∀ c ∈ date.toList, c.isDigit = true) ∧
    (suffix.toList.length = 8 ∧ ∀ c ∈ suffix.toList, c ∈ "0123456789abcdef".toList)

theorem isTestId_testId (stage : String) {now : Timestamp} (h : 0 ≤ now.year ∧ now.year ≤ 9999)
    (bits : UInt32) : IsTestId stage (testId stage now bits) :=
  ⟨_, _, rfl, compactDate_digits h, suffixText_digits bits⟩

/-- An identifier does not start with a slash. -/
theorem IsTestId.isAbsolutePath {stage id : String} (h : IsTestId stage id) :
    isAbsolutePath id = false := by
  obtain ⟨date, suffix, rfl, -⟩ := h
  have front : ("test-" ++ stage ++ "-" ++ date ++ "-" ++ suffix).toList.head? = some 't' := by
    simp only [String.toList_append]
    rfl
  rw [Orchestration.isAbsolutePath, front]
  decide

/-! ### What an identifier determines -/

/-- The date of an instant. -/
def Timestamp.date (t : Timestamp) : Timestamp.Date := ⟨t.year, t.month, t.day⟩

theorem padded_inj (count : Nat) : ∀ m n : Nat, m < Nat.pow 10 count → n < Nat.pow 10 count →
    Timestamp.padded count m = Timestamp.padded count n → m = n :=
  Timestamp.padded_writes.inj (by decide) count

/-- Year, month and day have a width each, so the digits determine the date. -/
theorem compactDate_inj {now now' : Timestamp} (h : 0 ≤ now.year ∧ now.year ≤ 9999)
    (h' : 0 ≤ now'.year ∧ now'.year ≤ 9999) (same : now.compactDate = now'.compactDate) :
    now.date = now'.date := by
  have digits := congrArg String.toList same
  rw [compactDate_toList h, compactDate_toList h'] at digits
  obtain ⟨front, days⟩ :=
    List.append_inj' digits (by rw [Timestamp.padded_length, Timestamp.padded_length])
  obtain ⟨years, months⟩ :=
    List.append_inj' front (by rw [Timestamp.padded_length, Timestamp.padded_length])
  have room {n : Nat} (small : n ≤ 31) : n < Nat.pow 10 2 := Nat.lt_of_le_of_lt small (by decide)
  have wide {year : Int} (fits : 0 ≤ year ∧ year ≤ 9999) : year.toNat < Nat.pow 10 4 := by
    have : Nat.pow 10 4 = 10000 := rfl
    omega
  have month : now.month = now'.month :=
    padded_inj 2 _ _ (room (Nat.le_trans now.month_le (by decide)))
      (room (Nat.le_trans now'.month_le (by decide))) months
  have day : now.day = now'.day := padded_inj 2 _ _ (room now.day_le) (room now'.day_le) days
  have year : now.year = now'.year := by
    have := padded_inj 4 _ _ (wide h) (wide h') years
    omega
  rw [Timestamp.date, Timestamp.date, year, month, day]

/-- An identifier is read off its end: the suffix and the date have a fixed width each, so that
nothing which a stage holds is taken for them. -/
theorem testId_eq_iff {stage stage' : String} {now now' : Timestamp} {bits bits' : UInt32}
    (h : 0 ≤ now.year ∧ now.year ≤ 9999) (h' : 0 ≤ now'.year ∧ now'.year ≤ 9999) :
    testId stage now bits = testId stage' now' bits' ↔
      stage = stage' ∧ now.date = now'.date ∧ bits = bits' := by
  constructor
  · intro same
    obtain rfl : bits = bits' := testId_bits same
    have texts := congrArg String.toList same
    simp only [testId, String.toList_append, List.append_cancel_right_eq] at texts
    obtain ⟨front, dates⟩ :=
      List.append_inj' texts (by rw [(compactDate_digits h).1, (compactDate_digits h').1])
    rw [List.append_cancel_right_eq, List.append_cancel_left_eq] at front
    exact ⟨String.toList_inj.1 front, compactDate_inj h h' (String.toList_inj.1 dates), rfl⟩
  · rintro ⟨rfl, dates, rfl⟩
    obtain ⟨year, month, day⟩ := Timestamp.Date.mk.inj dates
    simp only [testId, Timestamp.compactDate, year, month, day]

/-- A year before the first one has its sign in front, and so it looks like the end of a stage. -/
example :
    let before : Timestamp := { Timestamp.epoch with year := -1, valid := by decide }
    let after : Timestamp := { Timestamp.epoch with year := 1, valid := by decide }
    testId "a" before 0 = testId "a-" after 0 := by decide +kernel

/-! ### Slashes -/

theorem decimals_slashless (ds : List Nat) (h : ∀ d ∈ ds, d < 10) :
    '/' ∉ ds.map decimalDigit := by
  have digit : ∀ d < 10, decimalDigit d ≠ '/' := by decide
  intro slash
  obtain ⟨d, hd, shown⟩ := List.mem_map.1 slash
  exact digit d (h d hd) shown

theorem padded_slashless (count n : Nat) : '/' ∉ Timestamp.padded count n :=
  fun slash => Timestamp.padded_writes.forall_mem (P := (· ≠ '/')) (by decide) count n '/' slash rfl

theorem yearChars_slashless (year : Int) : '/' ∉ Timestamp.yearChars year := by
  have digits : '/' ∉ Nat.toDigits 10 year.natAbs := by
    rw [toDigits_eq_decimals]
    exact decimals_slashless _ (decimals_lt _)
  have sign : '/' ≠ if year < 0 then '-' else '+' := by split <;> decide
  unfold Timestamp.yearChars
  split
  · exact padded_slashless 4 _
  · simp [sign, digits]

theorem hexPadded_slashless (count n : Nat) : '/' ∉ hexPadded count n :=
  fun slash => hexPadded_writes.forall_mem (P := (· ≠ '/')) (by decide) count n '/' slash rfl

/-- An identifier has no slash, unless its stage has one. -/
theorem testId_slashless {stage : String} (h : '/' ∉ stage.toList) (now : Timestamp)
    (bits : UInt32) : '/' ∉ (testId stage now bits).toList := by
  have date : '/' ∉ now.compactDate.toList := by
    simp [Timestamp.compactDate, yearChars_slashless, padded_slashless]
  have suffix : '/' ∉ (suffixText bits).toList := by
    simp [suffixText, hexPadded_slashless]
  simp [testId, String.toList_append, h, date, suffix]

end Orchestration
