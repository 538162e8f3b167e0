import Mathlib.Data.List.Basic
import Orchestration.Text.Raw

/-!
# Bytes that are text, and bytes that are not

Reading bytes as text loses nothing, and it finds the text where there is one:

* `textBytes` — the bytes of a text;
* `Pending.Sound` — a beginning of a character that the right bytes complete;
* `toBytes_ofBytes` — what is read spells the same bytes again;
* `ofBytes_textBytes` — the bytes of a text are read as this text;
* `ofBytes_lineFeed` — a line feed ends whatever is before it;
* `strict?_ofBytes` — what can be read without a fault is the bytes of a text, and nothing else.
-/

namespace Orchestration

/-- The bytes of a text in UTF-8. -/
def textBytes (text : String) : List UInt8 := text.toUTF8.data.toList

theorem textBytes_eq (text : String) :
    textBytes text = text.toList.flatMap String.utf8EncodeChar := by
  show text.toByteArray.data.toList = _
  rw [← String.utf8Encode_toList, List.utf8Encode, List.data_toByteArray, List.toList_toArray]

namespace RawText

/-! ### Characters as bytes -/

/-- A byte that continues a character. -/
def Continues (b : UInt8) : Prop := 0x80 ≤ b.toNat ∧ b.toNat ≤ 0xBF

/-- The number that bytes spell after a beginning that spells a number. -/
def spelled (value : Nat) (bytes : List UInt8) : Nat :=
  bytes.foldl (fun v b => v * 64 + b.toNat % 64) value

theorem toNat_byte {n : Nat} (h : n < 256) : (UInt8.ofNat n).toNat = n :=
  UInt8.toNat_ofNat_of_lt' h

theorem byte_eq {n : Nat} {b : UInt8} (h : n = b.toNat) : UInt8.ofNat n = b := by
  rw [h, UInt8.ofNat_toNat]

theorem utf8EncodeChar_ofNat {v : Nat} (h : v.isValidChar) :
    String.utf8EncodeChar (Char.ofNat v) =
      if v ≤ 127 then [UInt8.ofNat v]
      else if v ≤ 2047 then [UInt8.ofNat (v / 64 % 32 + 192), UInt8.ofNat (v % 64 + 128)]
      else if v ≤ 65535 then [UInt8.ofNat (v / 4096 % 16 + 224), UInt8.ofNat (v / 64 % 64 + 128),
        UInt8.ofNat (v % 64 + 128)]
      else [UInt8.ofNat (v / 262144 % 8 + 240), UInt8.ofNat (v / 4096 % 64 + 128),
        UInt8.ofNat (v / 64 % 64 + 128), UInt8.ofNat (v % 64 + 128)] := by
  have value : (Char.ofNat v).val.toNat = v := by
    rw [Char.ofNat, dif_pos h]
    rfl
  unfold String.utf8EncodeChar
  rw [value]

/-! ### First bytes -/

theorem lead?_two {n : Nat} (h : 0xC2 ≤ n ∧ n ≤ 0xDF) : lead? n = some (1, 0x80, 0xBF) := if_pos h

theorem lead?_three {n : Nat} (h : 0xE0 ≤ n ∧ n ≤ 0xEF) : lead? n =
    some (2, if n = 0xE0 then 0xA0 else 0x80, if n = 0xED then 0x9F else 0xBF) := by
  grind [lead?]

theorem lead?_four {n : Nat} (h : 0xF0 ≤ n ∧ n ≤ 0xF4) : lead? n =
    some (3, if n = 0xF0 then 0x90 else 0x80, if n = 0xF4 then 0x8F else 0xBF) := by
  grind [lead?]

theorem lead?_none {n : Nat} (h : ¬ (0xC2 ≤ n ∧ n ≤ 0xF4)) : lead? n = none := by
  grind [lead?]

/-! ### Beginnings of characters -/

/-- A beginning of a character that the right bytes complete. -/
structure Pending.Sound (p : Pending) : Prop where
  low : 0x80 ≤ p.low
  owed : 0 < p.owed
  completes : ∀ b bs, bs.length + 1 = p.owed → p.low ≤ b.toNat → b.toNat ≤ p.high →
    (∀ c ∈ bs, Continues c) →
      String.utf8EncodeChar (Char.ofNat (spelled p.value (b :: bs))) = p.taken ++ b :: bs

/-- One more byte, and it is still one. -/
theorem Pending.Sound.next {p : Pending} (h : p.Sound) {b : UInt8}
    (fits : p.low ≤ b.toNat ∧ b.toNat ≤ p.high) (more : 1 < p.owed) :
    Sound ⟨p.taken ++ [b], p.value * 64 + b.toNat % 64, p.owed - 1, 0x80, 0xBF⟩ where
  low := Nat.le_refl _
  owed := Nat.sub_pos_of_lt more
  completes c cs count above below continues := by
    have all : ∀ d ∈ c :: cs, Continues d := List.forall_mem_cons.2 ⟨⟨above, below⟩, continues⟩
    have whole := h.completes b (c :: cs) (by simp only [List.length_cons] at count ⊢; omega)
      fits.1 fits.2 all
    rw [List.append_assoc]
    exact whole

/-- What the last byte completes. -/
theorem Pending.Sound.last {p : Pending} (h : p.Sound) {b : UInt8}
    (fits : p.low ≤ b.toNat ∧ b.toNat ≤ p.high) (one : p.owed ≤ 1) :
    String.utf8EncodeChar (Char.ofNat (p.value * 64 + b.toNat % 64)) = p.taken ++ [b] := by
  have owed := h.owed
  exact h.completes b [] (by rw [List.length_nil]; omega) fits.1 fits.2 (List.forall_mem_nil _)

theorem sound_two {b : UInt8} (h : 0xC2 ≤ b.toNat ∧ b.toNat ≤ 0xDF) :
    Pending.Sound ⟨[b], b.toNat % 32, 1, 0x80, 0xBF⟩ where
  low := Nat.le_refl _
  owed := Nat.one_pos
  completes c cs count above below _ := by
    dsimp only at count above below
    obtain rfl : cs = [] := List.length_eq_zero_iff.1 (by omega)
    show String.utf8EncodeChar (Char.ofNat (b.toNat % 32 * 64 + c.toNat % 64)) = [b, c]
    rw [utf8EncodeChar_ofNat (by left; omega), if_neg (by omega), if_pos (by omega),
      byte_eq (b := b) (by omega), byte_eq (b := c) (by omega)]

theorem sound_three {b : UInt8} (h : 0xE0 ≤ b.toNat ∧ b.toNat ≤ 0xEF) :
    Pending.Sound ⟨[b], b.toNat % 16, 2, if b.toNat = 0xE0 then 0xA0 else 0x80,
      if b.toNat = 0xED then 0x9F else 0xBF⟩ where
  low := by dsimp only; split <;> decide
  owed := Nat.succ_pos _
  completes c cs count above below continues := by
    dsimp only at count above below
    obtain ⟨d, rfl⟩ := List.length_eq_one_iff.1 (show cs.length = 1 by omega)
    obtain ⟨lower, upper⟩ := continues d List.mem_cons_self
    -- the bounds of the second byte keep out surrogates and what fits into two bytes
    have lower' : 0x80 ≤ c.toNat ∧ (b.toNat = 0xE0 → 0xA0 ≤ c.toNat) := by
      split at above <;> omega
    have upper' : c.toNat ≤ 0xBF ∧ (b.toNat = 0xED → c.toNat ≤ 0x9F) := by
      split at below <;> omega
    clear above below count continues
    show String.utf8EncodeChar (Char.ofNat
      ((b.toNat % 16 * 64 + c.toNat % 64) * 64 + d.toNat % 64)) = [b, c, d]
    rw [utf8EncodeChar_ofNat (by unfold Nat.isValidChar; omega), if_neg (by omega),
      if_neg (by omega), if_pos (by omega), byte_eq (b := b) (by omega),
      byte_eq (b := c) (by omega), byte_eq (b := d) (by omega)]

theorem sound_four {b : UInt8} (h : 0xF0 ≤ b.toNat ∧ b.toNat ≤ 0xF4) :
    Pending.Sound ⟨[b], b.toNat % 8, 3, if b.toNat = 0xF0 then 0x90 else 0x80,
      if b.toNat = 0xF4 then 0x8F else 0xBF⟩ where
  low := by dsimp only; split <;> decide
  owed := Nat.succ_pos _
  completes c cs count above below continues := by
    dsimp only at count above below
    obtain ⟨d, e, rfl⟩ := List.length_eq_two.1 (show cs.length = 2 by omega)
    obtain ⟨lower, upper⟩ := continues d List.mem_cons_self
    obtain ⟨lower', upper'⟩ := continues e (List.mem_cons_of_mem _ List.mem_cons_self)
    -- the bounds of the second byte keep out what fits into three bytes and what is too large
    have lower'' : 0x80 ≤ c.toNat ∧ (b.toNat = 0xF0 → 0x90 ≤ c.toNat) := by
      split at above <;> omega
    have upper'' : c.toNat ≤ 0xBF ∧ (b.toNat = 0xF4 → c.toNat ≤ 0x8F) := by
      split at below <;> omega
    clear above below count continues
    show String.utf8EncodeChar (Char.ofNat
      (((b.toNat % 8 * 64 + c.toNat % 64) * 64 + d.toNat % 64) * 64 + e.toNat % 64)) = [b, c, d, e]
    rw [utf8EncodeChar_ofNat (by unfold Nat.isValidChar; omega), if_neg (by omega),
      if_neg (by omega), if_neg (by omega), byte_eq (b := b) (by omega),
      byte_eq (b := c) (by omega), byte_eq (b := d) (by omega), byte_eq (b := e) (by omega)]

/-- A byte is a glyph, or it begins a character. -/
theorem startByte_cases (b : UInt8) : (∃ g, startByte b = ([g], none) ∧ glyphBytes g = [b]) ∨
    ∃ p, startByte b = ([], some p) ∧ p.taken = [b] ∧ p.Sound := by
  unfold startByte
  dsimp only
  by_cases ascii : b.toNat < 0x80
  · rw [if_pos ascii]
    refine .inl ⟨_, rfl, ?_⟩
    show String.utf8EncodeChar (Char.ofNat b.toNat) = [b]
    rw [utf8EncodeChar_ofNat (by left; omega), if_pos (by omega), UInt8.ofNat_toNat]
  · rw [if_neg ascii]
    by_cases two : 0xC2 ≤ b.toNat ∧ b.toNat ≤ 0xDF
    · rw [lead?_two two]
      exact .inr ⟨_, rfl, rfl, sound_two two⟩
    · by_cases three : 0xE0 ≤ b.toNat ∧ b.toNat ≤ 0xEF
      · rw [lead?_three three]
        exact .inr ⟨_, rfl, rfl, sound_three three⟩
      · by_cases four : 0xF0 ≤ b.toNat ∧ b.toNat ≤ 0xF4
        · rw [lead?_four four]
          exact .inr ⟨_, rfl, rfl, sound_four four⟩
        · rw [lead?_none (by omega)]
          exact .inl ⟨_, rfl, rfl⟩

/-! ### Reading a byte -/

section
variable {p : Pending} {b : UInt8}

theorem decodeFrom_start (b : UInt8) (rest : List UInt8) :
    decodeFrom none (b :: rest) = (startByte b).1 ++ decodeFrom (startByte b).2 rest := rfl

/-- The byte completes a character. -/
theorem decodeFrom_last (fits : p.low ≤ b.toNat ∧ b.toNat ≤ p.high) (one : p.owed ≤ 1)
    (rest : List UInt8) : decodeFrom (some p) (b :: rest) =
      .char (Char.ofNat (p.value * 64 + b.toNat % 64)) :: decodeFrom none rest := by
  simp only [decodeFrom]
  rw [if_pos fits, if_pos one]

/-- The byte continues a character. -/
theorem decodeFrom_next (fits : p.low ≤ b.toNat ∧ b.toNat ≤ p.high) (more : 1 < p.owed)
    (rest : List UInt8) : decodeFrom (some p) (b :: rest) = decodeFrom
      (some ⟨p.taken ++ [b], p.value * 64 + b.toNat % 64, p.owed - 1, 0x80, 0xBF⟩) rest := by
  simp only [decodeFrom]
  rw [if_pos fits, if_neg (Nat.not_le.2 more)]

/-- The byte breaks a character off. -/
theorem decodeFrom_broken (unfit : ¬ (p.low ≤ b.toNat ∧ b.toNat ≤ p.high)) (rest : List UInt8) :
    decodeFrom (some p) (b :: rest) = .broken p.taken :: decodeFrom none (b :: rest) := by
  simp only [decodeFrom]
  rw [if_neg unfit]
  rfl

end

/-! ### Nothing is lost -/

/-- The bytes that a decoder holds back. -/
def heldBack : Option Pending → List UInt8
  | none => []
  | some p => p.taken

theorem toBytes_cons (g : Glyph) (t : RawText) : toBytes (g :: t) = glyphBytes g ++ toBytes t :=
  List.flatMap_cons

/-- A byte more, or a byte that is held back. -/
theorem toBytes_decodeFrom_start {rest : List UInt8}
    (ih : ∀ st, (∀ p ∈ st, Pending.Sound p) → toBytes (decodeFrom st rest) = heldBack st ++ rest)
    (b : UInt8) : toBytes (decodeFrom none (b :: rest)) = b :: rest := by
  rw [decodeFrom_start]
  rcases startByte_cases b with ⟨g, started, one⟩ | ⟨p, started, held, sound⟩
  · rw [started, List.singleton_append, toBytes_cons, one, ih none nofun]
    rfl
  · have later := ih (some p) fun q hq => Option.some.inj hq ▸ sound
    rw [started, List.nil_append, later]
    show p.taken ++ rest = b :: rest
    rw [held, List.singleton_append]

/-- Whatever is read spells the bytes that were held back and those that were read. -/
theorem toBytes_decodeFrom (bytes : List UInt8) : ∀ st, (∀ p ∈ st, Pending.Sound p) →
    toBytes (decodeFrom st bytes) = heldBack st ++ bytes := by
  induction bytes with
  | nil =>
    intro st _
    cases st with
    | none => rfl
    | some p => rfl
  | cons b rest ih =>
    intro st sound
    cases st with
    | none => exact toBytes_decodeFrom_start ih b
    | some p =>
      have sound := sound p rfl
      by_cases fits : p.low ≤ b.toNat ∧ b.toNat ≤ p.high
      · by_cases more : 1 < p.owed
        · rw [decodeFrom_next fits more, ih _ fun q hq => Option.some.inj hq ▸ sound.next fits more]
          exact List.append_assoc _ _ _
        · have one : p.owed ≤ 1 := Nat.not_lt.1 more
          rw [decodeFrom_last fits one, toBytes_cons, ih none nofun, glyphBytes,
            sound.last fits one]
          exact List.append_assoc _ _ _
      · rw [decodeFrom_broken fits, toBytes_cons, toBytes_decodeFrom_start ih b]
        rfl

/-- What is read spells the same bytes again. -/
theorem toBytes_ofBytes (bytes : List UInt8) : toBytes (ofBytes bytes) = bytes :=
  toBytes_decodeFrom bytes none nofun

/-! ### Text is found -/

/-- Bytes that complete a character are read as this character. -/
theorem decodeFrom_completes (bs rest : List UInt8) : ∀ {p : Pending} {b : UInt8},
    bs.length + 1 = p.owed → (p.low ≤ b.toNat ∧ b.toNat ≤ p.high) → (∀ c ∈ bs, Continues c) →
      decodeFrom (some p) (b :: bs ++ rest) =
        .char (Char.ofNat (spelled p.value (b :: bs))) :: decodeFrom none rest := by
  induction bs with
  | nil =>
    intro p b count fits _
    exact decodeFrom_last fits (Nat.le_of_eq count.symm) rest
  | cons c cs ih =>
    intro p b count fits continues
    rw [List.length_cons] at count
    rw [List.cons_append, decodeFrom_next fits (by omega)]
    exact ih (by dsimp only; omega) (continues c List.mem_cons_self)
      fun d hd => continues d (List.mem_cons_of_mem _ hd)

/-- A first byte, and the bytes that it asks for. -/
theorem decodeFrom_lead (b c : UInt8) (bs rest : List UInt8) {low high : Nat}
    (lead : lead? b.toNat = some (bs.length + 1, low, high))
    (fits : low ≤ c.toNat ∧ c.toNat ≤ high) (continues : ∀ d ∈ bs, Continues d) :
    decodeFrom none (b :: c :: bs ++ rest) =
      .char (Char.ofNat (spelled (b.toNat % Nat.pow 2 (6 - (bs.length + 1))) (c :: bs))) ::
        decodeFrom none rest := by
  have above : ¬ b.toNat < 0x80 := by
    intro ascii
    rw [lead?_none (by omega)] at lead
    cases lead
  have started : startByte b = ([], some ⟨[b], b.toNat % Nat.pow 2 (6 - (bs.length + 1)),
      bs.length + 1, low, high⟩) := by
    simp only [startByte, if_neg above, lead]
  rw [List.cons_append, decodeFrom_start, started]
  exact decodeFrom_completes bs rest rfl fits continues

theorem toNat_continuation {n : Nat} (h : n < 64) : (UInt8.ofNat (n + 128)).toNat = n + 128 :=
  toNat_byte (by omega)

theorem continues_continuation {n : Nat} (h : n < 64) : Continues (UInt8.ofNat (n + 128)) := by
  unfold Continues
  rw [toNat_continuation h]
  omega

section
variable {v : Nat} (rest : List UInt8)

theorem decodeFrom_one (h : v ≤ 127) :
    decodeFrom none ([UInt8.ofNat v] ++ rest) = .char (Char.ofNat v) :: decodeFrom none rest := by
  have byte : (UInt8.ofNat v).toNat = v := toNat_byte (by omega)
  have started : startByte (UInt8.ofNat v) = ([.char (Char.ofNat v)], none) := by
    simp only [startByte, byte, if_pos (show v < 0x80 by omega)]
  rw [List.singleton_append, decodeFrom_start, started]
  rfl

theorem decodeFrom_two (above : 127 < v) (h : v ≤ 2047) :
    decodeFrom none ([UInt8.ofNat (v / 64 % 32 + 192), UInt8.ofNat (v % 64 + 128)] ++ rest) =
      .char (Char.ofNat v) :: decodeFrom none rest := by
  have first : (UInt8.ofNat (v / 64 % 32 + 192)).toNat = v / 64 % 32 + 192 := toNat_byte (by omega)
  have last : (UInt8.ofNat (v % 64 + 128)).toNat = v % 64 + 128 := toNat_continuation (by omega)
  have spells : spelled ((v / 64 % 32 + 192) % 32) [UInt8.ofNat (v % 64 + 128)] = v := by
    simp only [spelled, List.foldl_cons, List.foldl_nil, last]
    omega
  have read := decodeFrom_lead (UInt8.ofNat (v / 64 % 32 + 192)) (UInt8.ofNat (v % 64 + 128)) []
    rest (by rw [first]; exact lead?_two (by omega)) (continues_continuation (by omega))
    (List.forall_mem_nil _)
  rw [first, show Nat.pow 2 (6 - (([] : List UInt8).length + 1)) = 32 from rfl, spells] at read
  exact read

theorem decodeFrom_three (valid : v.isValidChar) (above : 2047 < v) (h : v ≤ 65535) :
    decodeFrom none ([UInt8.ofNat (v / 4096 % 16 + 224), UInt8.ofNat (v / 64 % 64 + 128),
      UInt8.ofNat (v % 64 + 128)] ++ rest) = .char (Char.ofNat v) :: decodeFrom none rest := by
  have first : (UInt8.ofNat (v / 4096 % 16 + 224)).toNat = v / 4096 % 16 + 224 :=
    toNat_byte (by omega)
  have second : (UInt8.ofNat (v / 64 % 64 + 128)).toNat = v / 64 % 64 + 128 :=
    toNat_continuation (by omega)
  have last : (UInt8.ofNat (v % 64 + 128)).toNat = v % 64 + 128 := toNat_continuation (by omega)
  have spells : spelled ((v / 4096 % 16 + 224) % 16)
      [UInt8.ofNat (v / 64 % 64 + 128), UInt8.ofNat (v % 64 + 128)] = v := by
    simp only [spelled, List.foldl_cons, List.foldl_nil, second, last]
    omega
  -- no character is coded longer than it has to be, and none is a surrogate
  have read := decodeFrom_lead (UInt8.ofNat (v / 4096 % 16 + 224))
    (UInt8.ofNat (v / 64 % 64 + 128)) [UInt8.ofNat (v % 64 + 128)] rest
    (by rw [first]; exact lead?_three (by omega))
    (by rw [second]; unfold Nat.isValidChar at valid; split <;> split <;> omega)
    (List.forall_mem_singleton.2 (continues_continuation (by omega)))
  rw [first, show Nat.pow 2 (6 - ([UInt8.ofNat (v % 64 + 128)].length + 1)) = 16 from rfl,
    spells] at read
  exact read

theorem decodeFrom_four (above : 65535 < v) (h : v < 0x110000) :
    decodeFrom none ([UInt8.ofNat (v / 262144 % 8 + 240), UInt8.ofNat (v / 4096 % 64 + 128),
      UInt8.ofNat (v / 64 % 64 + 128), UInt8.ofNat (v % 64 + 128)] ++ rest) =
      .char (Char.ofNat v) :: decodeFrom none rest := by
  have first : (UInt8.ofNat (v / 262144 % 8 + 240)).toNat = v / 262144 % 8 + 240 :=
    toNat_byte (by omega)
  have second : (UInt8.ofNat (v / 4096 % 64 + 128)).toNat = v / 4096 % 64 + 128 :=
    toNat_continuation (by omega)
  have third : (UInt8.ofNat (v / 64 % 64 + 128)).toNat = v / 64 % 64 + 128 :=
    toNat_continuation (by omega)
  have last : (UInt8.ofNat (v % 64 + 128)).toNat = v % 64 + 128 := toNat_continuation (by omega)
  have spells : spelled ((v / 262144 % 8 + 240) % 8) [UInt8.ofNat (v / 4096 % 64 + 128),
      UInt8.ofNat (v / 64 % 64 + 128), UInt8.ofNat (v % 64 + 128)] = v := by
    simp only [spelled, List.foldl_cons, List.foldl_nil, second, third, last]
    omega
  have read := decodeFrom_lead (UInt8.ofNat (v / 262144 % 8 + 240))
    (UInt8.ofNat (v / 4096 % 64 + 128))
    [UInt8.ofNat (v / 64 % 64 + 128), UInt8.ofNat (v % 64 + 128)] rest
    (by rw [first]; exact lead?_four (by omega)) (by rw [second]; split <;> split <;> omega)
    (List.forall_mem_cons.2 ⟨continues_continuation (by omega),
      List.forall_mem_singleton.2 (continues_continuation (by omega))⟩)
  rw [first, show Nat.pow 2 (6 - ([UInt8.ofNat (v / 64 % 64 + 128),
    UInt8.ofNat (v % 64 + 128)].length + 1)) = 8 from rfl, spells] at read
  exact read

/-- The bytes of a character are read as this character. -/
theorem decodeFrom_encoded (c : Char) :
    decodeFrom none (String.utf8EncodeChar c ++ rest) = .char c :: decodeFrom none rest := by
  have valid : c.toNat.isValidChar := c.valid
  rw [← Char.ofNat_toNat c, utf8EncodeChar_ofNat valid]
  generalize c.toNat = v at valid
  split
  · next one => exact decodeFrom_one rest one
  · next one =>
    split
    · next two => exact decodeFrom_two rest (Nat.not_le.1 one) two
    · next two =>
      split
      · next three => exact decodeFrom_three rest valid (Nat.not_le.1 two) three
      · next three =>
        have top : v < 0x110000 := by
          rcases valid with low | high
          · omega
          · exact high.2
        exact decodeFrom_four rest (Nat.not_le.1 three) top

end

/-- The bytes of a text are read as this text. -/
theorem ofBytes_textBytes (text : String) : ofBytes (textBytes text) = ofString text := by
  rw [textBytes_eq]
  unfold ofBytes ofString
  induction text.toList with
  | nil => rfl
  | cons c cs ih => rw [List.flatMap_cons, decodeFrom_encoded, ih, List.map_cons]

/-! ### Lines -/

/-- A line feed ends whatever is before it. -/
theorem decodeFrom_lineFeed (before after : List UInt8) :
    ∀ st, (∀ p ∈ st, Pending.Sound p) → decodeFrom st (before ++ 10 :: after) =
      decodeFrom st before ++ .char '\n' :: decodeFrom none after := by
  induction before with
  | nil =>
    intro st sound
    cases st with
    | none => rfl
    | some p =>
      have low := (sound p rfl).low
      rw [List.nil_append, decodeFrom_broken]
      · rfl
      · exact fun fits => absurd (Nat.le_trans low fits.1) (by decide)
  | cons b rest ih =>
    have fresh : decodeFrom none (b :: (rest ++ 10 :: after)) =
        decodeFrom none (b :: rest) ++ .char '\n' :: decodeFrom none after := by
      rw [decodeFrom_start, decodeFrom_start, List.append_assoc]
      rcases startByte_cases b with ⟨g, started, -⟩ | ⟨p, started, -, sound⟩
      · rw [started, ih none nofun]
      · rw [started, ih (some p) fun q hq => Option.some.inj hq ▸ sound]
    intro st sound
    cases st with
    | none => exact fresh
    | some p =>
      have sound := sound p rfl
      rw [List.cons_append]
      by_cases fits : p.low ≤ b.toNat ∧ b.toNat ≤ p.high
      · by_cases more : 1 < p.owed
        · rw [decodeFrom_next fits more, decodeFrom_next fits more,
            ih _ fun q hq => Option.some.inj hq ▸ sound.next fits more]
        · have one : p.owed ≤ 1 := Nat.not_lt.1 more
          rw [decodeFrom_last fits one, decodeFrom_last fits one, ih none nofun, List.cons_append]
      · rw [decodeFrom_broken fits, decodeFrom_broken fits, fresh, List.cons_append]

theorem ofBytes_lineFeed (before after : List UInt8) :
    ofBytes (before ++ 10 :: after) = ofBytes before ++ .char '\n' :: ofBytes after :=
  decodeFrom_lineFeed before after none nofun

/-- Bytes without a line feed are read as a text without one. -/
theorem lineFeed_not_mem_ofBytes {bytes : List UInt8} (h : 10 ∉ bytes) :
    .char '\n' ∉ ofBytes bytes := by
  intro mem
  refine h ?_
  rw [← toBytes_ofBytes bytes]
  exact List.mem_flatMap.2 ⟨_, mem, by decide⟩

/-! ### Text and nothing else -/

theorem charsFrom?_ok {t : RawText} : ∀ {index : Nat} {cs : List Char},
    charsFrom? index t = .ok cs → t = cs.map .char := by
  induction t with
  | nil =>
    intro index cs h
    cases h
    rfl
  | cons g t ih =>
    intro index cs h
    cases g with
    | broken bytes =>
      rw [charsFrom?] at h
      split at h <;> cases h
    | char c =>
      rw [charsFrom?] at h
      split at h
      · next rest read =>
        cases h
        rw [ih read, List.map_cons]
      · cases h

theorem strict?_ok {t : RawText} {text : String} (h : strict? t = .ok text) :
    t = ofString text := by
  unfold strict? at h
  split at h
  · next cs read =>
    cases h
    rw [charsFrom?_ok read, ofString, String.toList_ofList]
  · cases h

/-- What comes after a text that has a fault does not repair it. -/
theorem strict?_of_append {t u : RawText} {text : String} (h : strict? (t ++ u) = .ok text) :
    ∃ text', strict? t = .ok text' := by
  obtain ⟨cs, ds, -, chars, -⟩ := List.append_eq_map_iff.1 (strict?_ok h)
  exact ⟨String.ofList cs, by rw [← chars, strict?, charsFrom?_chars]⟩

/-- What can be read without a fault is the bytes of a text, and nothing else. -/
theorem strict?_ofBytes {bytes : List UInt8} {text : String} :
    strict? (ofBytes bytes) = .ok text ↔ bytes = textBytes text := by
  constructor
  · intro read
    rw [← toBytes_ofBytes bytes, strict?_ok read, textBytes_eq, toBytes, ofString,
      List.flatMap_map]
    rfl
  · rintro rfl
    rw [ofBytes_textBytes, ofString_strict?]

end RawText

end Orchestration
