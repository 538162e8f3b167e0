import Orchestration.Proofs.Literals

/-!
# Written values are read back

The two writers of values differ only in the space between the parts.  A `Layout` says what that
space is, and one proof covers both:

* `Layout.spelled` — a value in a layout; `prettyChars_eq_spelled` and `compactChars_eq_spelled`
  name the layouts of the two writers;
* `Json.Whole` — values without doubles, whose texts lose nothing;
* `Layout.readValue_spelled` — such a value is read back, up to where its text ends;
* `JsonText.ofRaw_pretty`, `JsonText.ofRaw_compact` — so both writers are undone by the reader.
-/

namespace Orchestration

/-- The value holds no double. -/
inductive Json.Whole : Json → Prop where
  | null : Whole .null
  | bool (b : Bool) : Whole (.bool b)
  | int (n : Int) (h : IntegerRange n) : Whole (.num (.int n h))
  | str (s : String) : Whole (.str s)
  | arr (items : List Json) (h : ∀ v ∈ items, Whole v) : Whole (.arr items)
  | obj (members : List (String × Json)) (h : ∀ m ∈ members, Whole m.2) : Whole (.obj members)

/-! ### Layouts -/

/-- The space between the parts of a value. -/
structure Layout where
  /-- What stands before a part of a level, and before the bracket that closes the level above. -/
  line : Nat → List Char
  afterColon : List Char
  line_spaces : ∀ level, ∀ c ∈ line level, JsonText.isSpace (.char c) = true
  afterColon_spaces : ∀ c ∈ afterColon, JsonText.isSpace (.char c) = true

namespace Layout

variable (L : Layout)

mutual

/-- A value at a level. -/
def spelled (level : Nat) : Json → List Char
  | .null => ['n', 'u', 'l', 'l']
  | .bool true => ['t', 'r', 'u', 'e']
  | .bool false => ['f', 'a', 'l', 's', 'e']
  | .num n => n.text.toList
  | .str s => Json.stringChars s
  | .arr [] => ['[', ']']
  | .arr (v :: rest) =>
    '[' :: (L.line (level + 1) ++ (spelled (level + 1) v ++ (spelledItems (level + 1) rest ++
      (L.line level ++ [']']))))
  | .obj [] => ['\x7b', '\x7d']
  | .obj ((k, v) :: rest) =>
    '\x7b' :: (L.line (level + 1) ++ (Json.stringChars k ++ ':' :: (L.afterColon ++
      (spelled (level + 1) v ++ (spelledMembers (level + 1) rest ++ (L.line level ++ ['\x7d']))))))

/-- The items after one that was written. -/
def spelledItems (level : Nat) : List Json → List Char
  | [] => []
  | v :: rest => ',' :: (L.line level ++ (spelled level v ++ spelledItems level rest))

/-- The members after one that was written. -/
def spelledMembers (level : Nat) : List (String × Json) → List Char
  | [] => []
  | (k, v) :: rest =>
    ',' :: (L.line level ++ (Json.stringChars k ++ ':' :: (L.afterColon ++
      (spelled level v ++ spelledMembers level rest))))

end

/-- The layout with everything on one line. -/
def oneLine : Layout := ⟨fun _ => [], [], by simp, by simp⟩

/-- The layout with every part on a line of its own. -/
def lines : Layout where
  line := Json.newLine
  afterColon := [' ']
  line_spaces level c hc := by
    rcases List.mem_cons.1 hc with rfl | hc
    · rfl
    · rw [List.eq_of_mem_replicate hc]
      rfl
  afterColon_spaces c hc := by
    rw [List.mem_singleton.1 hc]
    rfl

end Layout

mutual

theorem Json.compactChars_eq_spelled (level : Nat) :
    ∀ v : Json, v.compactChars = Layout.oneLine.spelled level v
  | .null => rfl
  | .bool true => rfl
  | .bool false => rfl
  | .num _ => rfl
  | .str _ => rfl
  | .arr [] => rfl
  | .arr (v :: rest) => by
    rw [Json.compactChars, Json.compactItems_cons (level + 1) v rest,
      Json.compactChars_eq_spelled (level + 1) v]
    simp [Layout.spelled, Layout.oneLine]
  | .obj [] => rfl
  | .obj ((k, v) :: rest) => by
    rw [Json.compactChars, Json.compactMembers_cons (level + 1) k v rest,
      Json.compactChars_eq_spelled (level + 1) v]
    simp [Layout.spelled, Layout.oneLine]

theorem Json.compactItems_cons (level : Nat) (v : Json) :
    ∀ rest : List Json, Json.compactItems (v :: rest) =
      v.compactChars ++ Layout.oneLine.spelledItems level rest
  | [] => by simp [Json.compactItems, Layout.spelledItems]
  | w :: rest => by
    rw [Json.compactItems, Json.compactItems_cons level w rest,
      Json.compactChars_eq_spelled level w]
    · simp [Layout.spelledItems, Layout.oneLine]
    · simp

theorem Json.compactMembers_cons (level : Nat) (k : String) (v : Json) :
    ∀ rest : List (String × Json), Json.compactMembers ((k, v) :: rest) =
      Json.stringChars k ++ ':' :: (v.compactChars ++ Layout.oneLine.spelledMembers level rest)
  | [] => by simp [Json.compactMembers, Layout.spelledMembers]
  | (l, w) :: rest => by
    rw [Json.compactMembers, Json.compactMembers_cons level l w rest,
      Json.compactChars_eq_spelled level w]
    · simp [Layout.spelledMembers, Layout.oneLine]
    · simp

end

mutual

theorem Json.prettyChars_eq_spelled (level : Nat) :
    ∀ v : Json, v.prettyChars level = Layout.lines.spelled level v
  | .null => rfl
  | .bool true => rfl
  | .bool false => rfl
  | .num _ => rfl
  | .str _ => rfl
  | .arr [] => rfl
  | .arr (v :: rest) => by
    rw [Json.prettyChars, Json.prettyItems_cons (level + 1) v rest,
      Json.prettyChars_eq_spelled (level + 1) v]
    · simp [Layout.spelled, Layout.lines]
    · simp
  | .obj [] => rfl
  | .obj ((k, v) :: rest) => by
    rw [Json.prettyChars, Json.prettyMembers_cons (level + 1) k v rest,
      Json.prettyChars_eq_spelled (level + 1) v]
    · simp [Layout.spelled, Layout.lines]
    · simp

theorem Json.prettyItems_cons (level : Nat) (v : Json) :
    ∀ rest : List Json, Json.prettyItems level (v :: rest) =
      Json.newLine level ++ (v.prettyChars level ++ Layout.lines.spelledItems level rest)
  | [] => by simp [Json.prettyItems, Layout.spelledItems]
  | w :: rest => by
    rw [Json.prettyItems, Json.prettyItems_cons level w rest,
      Json.prettyChars_eq_spelled level w]
    · simp [Layout.spelledItems, Layout.lines]
    · simp

theorem Json.prettyMembers_cons (level : Nat) (k : String) (v : Json) :
    ∀ rest : List (String × Json), Json.prettyMembers level ((k, v) :: rest) =
      Json.newLine level ++ (Json.stringChars k ++ ':' :: ' ' ::
        (v.prettyChars level ++ Layout.lines.spelledMembers level rest))
  | [] => by simp [Json.prettyMembers, Layout.spelledMembers]
  | (l, w) :: rest => by
    rw [Json.prettyMembers, Json.prettyMembers_cons level l w rest,
      Json.prettyChars_eq_spelled level w]
    · simp [Layout.spelledMembers, Layout.lines]
    · simp

end

/-! ### Space -/

namespace JsonText

theorem skipSpaces_append {spaces : List Char} (h : ∀ c ∈ spaces, isSpace (.char c) = true)
    (t : RawText) : skipSpaces (spaces.map .char ++ t) = skipSpaces t := by
  induction spaces with
  | nil => rfl
  | cons c spaces ih =>
    obtain ⟨hc, hspaces⟩ := List.forall_mem_cons.1 h
    have hmore := ih hspaces
    simp only [skipSpaces] at hmore ⊢
    simp [hc, hmore]

theorem skipSpaces_of_not {g : Glyph} (h : isSpace g = false) (t : RawText) :
    skipSpaces (g :: t) = g :: t := by
  simp [skipSpaces, h]

/-- Space before what is no space is passed over. -/
theorem skipSpaces_before {spaces : List Char} (hs : ∀ c ∈ spaces, isSpace (.char c) = true)
    {g : Glyph} (hg : isSpace g = false) (t : RawText) :
    skipSpaces (spaces.map .char ++ g :: t) = g :: t := by
  rw [skipSpaces_append hs, skipSpaces_of_not hg]

/-! ### The steps of the reader -/

theorem readItems_close {spaces : List Char} (hs : ∀ c ∈ spaces, isSpace (.char c) = true)
    (fuel : Nat) (first : Bool) (t : RawText) :
    readItems (fuel + 1) first (spaces.map .char ++ .char ']' :: t) = ([], .closed, t) := by
  rw [readItems, skipSpaces_before hs (by decide)]
  rfl

theorem readItems_first {spaces : List Char} (hs : ∀ c ∈ spaces, isSpace (.char c) = true)
    {g : Glyph} (hspace : isSpace g = false) (hclose : g ≠ .char ']') (fuel : Nat) (t : RawText) :
    readItems (fuel + 1) true (spaces.map .char ++ g :: t) = readItem fuel (g :: t) := by
  rw [readItems, skipSpaces_before hs hspace]
  split
  · next heq => simp at heq
  · next heq => exact absurd (List.cons.inj heq).1 hclose
  · next heq => cases heq; rfl

theorem readItems_comma {spaces : List Char} (hs : ∀ c ∈ spaces, isSpace (.char c) = true)
    {g : Glyph} (hspace : isSpace g = false) (hclose : g ≠ .char ']') (fuel : Nat) (t : RawText) :
    readItems (fuel + 1) false (.char ',' :: (spaces.map .char ++ g :: t)) =
      readItem fuel (g :: t) := by
  rw [readItems, skipSpaces_of_not (by decide)]
  split
  · next heq => simp at heq
  · next heq => simp at heq
  · next heq =>
    cases heq
    rw [if_neg (by decide), if_pos rfl, skipSpaces_before hs hspace]
    split
    · next heq => exact absurd (List.cons.inj heq).1 hclose
    · rfl

theorem readMembers_close {spaces : List Char} (hs : ∀ c ∈ spaces, isSpace (.char c) = true)
    (fuel : Nat) (first : Bool) (t : RawText) :
    readMembers (fuel + 1) first (spaces.map .char ++ .char '\x7d' :: t) = ([], .closed, t) := by
  rw [readMembers, skipSpaces_before hs (by decide)]
  rfl

theorem readMembers_first {spaces : List Char} (hs : ∀ c ∈ spaces, isSpace (.char c) = true)
    (fuel : Nat) (t : RawText) :
    readMembers (fuel + 1) true (spaces.map .char ++ .char '"' :: t) =
      readMember fuel (.char '"' :: t) := by
  rw [readMembers, skipSpaces_before hs (by decide)]
  rfl

theorem readMembers_comma {spaces : List Char} (hs : ∀ c ∈ spaces, isSpace (.char c) = true)
    (fuel : Nat) (t : RawText) :
    readMembers (fuel + 1) false (.char ',' :: (spaces.map .char ++ .char '"' :: t)) =
      readMember fuel (.char '"' :: t) := by
  rw [readMembers, skipSpaces_of_not (by decide)]
  simp [skipSpaces_before hs (show isSpace (.char '"') = false by decide)]

/-- A member is a written key, a colon and a value. -/
theorem readMember_key (k : String) (fuel : Nat) (t : RawText) :
    readMember (fuel + 1) (.char '"' :: (stringBody k ++ .char ':' :: t)) =
      ((.ok k, (readValue fuel t).1) :: (readMembers fuel false (readValue fuel t).2).1,
        (readMembers fuel false (readValue fuel t).2).2) := by
  rw [readMember]
  simp only [readText_stringBody, skipSpaces_of_not (show isSpace (.char ':') = false by decide)]

theorem readValue_spaces {spaces : List Char} (hs : ∀ c ∈ spaces, isSpace (.char c) = true)
    (fuel : Nat) (t : RawText) :
    readValue fuel (spaces.map .char ++ t) = readValue fuel t := by
  cases fuel with
  | zero => rw [readValue, readValue]
  | succ fuel => rw [readValue, readValue, skipSpaces_append hs]

theorem readValue_list (fuel : Nat) (t : RawText) :
    readValue (fuel + 1) (.char '[' :: t) =
      (.arr (readItems fuel true t).1 (readItems fuel true t).2.1,
        (readItems fuel true t).2.2) := by
  rw [readValue, skipSpaces_of_not (by decide)]
  rfl

theorem readValue_object (fuel : Nat) (t : RawText) :
    readValue (fuel + 1) (.char '\x7b' :: t) =
      (.obj (readMembers fuel true t).1 (readMembers fuel true t).2.1,
        (readMembers fuel true t).2.2) := by
  rw [readValue, skipSpaces_of_not (by decide)]
  rfl

theorem readValue_string (s : String) (fuel : Nat) (rest : RawText) :
    readValue (fuel + 1) ((Json.stringChars s).map .char ++ rest) = (.str (.ok s), rest) := by
  rw [stringChars_eq_body, List.cons_append, readValue, skipSpaces_of_not (by decide)]
  simp [readText_stringBody]

/-! ### Numbers in place -/

theorem decimalDigit_starts : ∀ d < 10, isSpace (.char (decimalDigit d)) = false ∧
    decimalDigit d ≠ '"' ∧ decimalDigit d ≠ '\x7b' ∧ decimalDigit d ≠ '[' ∧
    decimalDigit d ≠ 'n' ∧ decimalDigit d ≠ 't' ∧ decimalDigit d ≠ 'f' ∧
    decimalDigit d ≠ '-' ∧ decimalDigit d ≠ ']' := by
  decide

theorem decimalGlyphs_cons (n : Nat) :
    ∃ d ds, d < 10 ∧ decimalGlyphs n = .char (decimalDigit d) :: ds := by
  have hlt := decimals_lt n
  unfold decimalGlyphs
  cases h : decimals n with
  | nil => exact absurd h (decimals_ne_nil n)
  | cons d ds => exact ⟨d, _, hlt d (h ▸ List.mem_cons_self), rfl⟩

theorem readValue_decimals (fuel n : Nat) (t : RawText) :
    readValue (fuel + 1) (decimalGlyphs n ++ t) = readNumber false (decimalGlyphs n ++ t) := by
  obtain ⟨d, ds, hd, hcons⟩ := decimalGlyphs_cons n
  obtain ⟨hspace, h1, h2, h3, h4, h5, h6, h7, -⟩ := decimalDigit_starts d hd
  rw [hcons, List.cons_append, readValue, skipSpaces_of_not hspace]
  simp [h1, h2, h3, h4, h5, h6, h7, digitValue?_decimalDigit d hd]

/-- What is written of a whole number: its digits, after its sign. -/
theorem int_text (n : Int) (h : IntegerRange n) :
    (Number.int n h).text.toList.map Glyph.char =
      if 0 ≤ n then decimalGlyphs n.natAbs else .char '-' :: decimalGlyphs n.natAbs := by
  have hrepr : (Number.int n h).text = if 0 ≤ n then n.toNat.repr else "-" ++ (-n).toNat.repr :=
    Int.repr_eq_if
  rw [hrepr]
  by_cases hn : 0 ≤ n
  · have hnat : n.toNat = n.natAbs := by omega
    rw [if_pos hn, if_pos hn, hnat, Nat.toList_repr, toDigits_eq_decimals, decimalGlyphs]
  · have hnat : (-n).toNat = n.natAbs := by omega
    rw [if_neg hn, if_neg hn, hnat, String.toList_append, Nat.toList_repr, toDigits_eq_decimals,
      decimalGlyphs]
    rfl

theorem readValue_int (n : Int) (h : IntegerRange n) (fuel : Nat) {rest : RawText}
    (hrest : NumberEnds rest) :
    readValue (fuel + 1) ((Number.int n h).text.toList.map .char ++ rest) =
      (.num (.ok (.int n h)), rest) := by
  have hfits : n.natAbs < 18446744073709551616 := by
    unfold IntegerRange at h
    omega
  rw [int_text]
  by_cases hn : 0 ≤ n
  · have hself : ((n.natAbs : Nat) : Int) = n := by omega
    rw [if_pos hn, readValue_decimals, readNumber_decimals hfits hrest, Number.ofNat, hself,
      Number.ofInt_of_range h]
  · have hself : -((n.natAbs : Nat) : Int) = n := by omega
    rw [if_neg hn, List.cons_append, readValue, skipSpaces_of_not (by decide)]
    have hread := readNumber_negative hfits (by omega) hrest
    rw [hself, Number.ofInt_of_range h] at hread
    exact hread

theorem numberEnds_char {c : Char} (h : digitValue? c = none ∧ c ≠ '.' ∧ c ≠ 'e' ∧ c ≠ 'E')
    (t : RawText) : NumberEnds (.char c :: t) := h

/-- A number is over before space. -/
theorem numberEnds_before {spaces : List Char} (hs : ∀ c ∈ spaces, isSpace (.char c) = true)
    {t : RawText} (ht : NumberEnds t) : NumberEnds (spaces.map .char ++ t) := by
  cases spaces with
  | nil => exact ht
  | cons c spaces =>
    have hc : isSpace (.char c) = true := hs c List.mem_cons_self
    simp only [isSpace, Bool.or_eq_true, beq_iff_eq, or_assoc] at hc
    show digitValue? c = none ∧ c ≠ '.' ∧ c ≠ 'e' ∧ c ≠ 'E'
    rcases hc with rfl | rfl | rfl | rfl <;> decide

end JsonText

/-! ### Reading what was spelled -/

namespace Layout

open JsonText

variable (L : Layout)

/-- The text of a value starts with a glyph that neither is space nor closes a list. -/
theorem spelled_head (level : Nat) {v : Json} (h : v.Whole) :
    ∃ g t, (L.spelled level v).map Glyph.char = g :: t ∧ isSpace g = false ∧ g ≠ .char ']' := by
  cases h with
  | null => exact ⟨_, _, rfl, by decide, by decide⟩
  | bool b => cases b <;> exact ⟨_, _, rfl, by decide, by decide⟩
  | int n h =>
    rw [spelled, int_text]
    split
    · obtain ⟨d, ds, hd, hcons⟩ := decimalGlyphs_cons n.natAbs
      obtain ⟨hspace, -, -, -, -, -, -, -, hclose⟩ := decimalDigit_starts d hd
      exact ⟨_, _, hcons, hspace, by simpa using hclose⟩
    · exact ⟨_, _, rfl, by decide, by decide⟩
  | str s => exact ⟨_, _, rfl, by decide, by decide⟩
  | arr items h => cases items <;> exact ⟨_, _, rfl, by decide, by decide⟩
  | obj members h => cases members <;> exact ⟨_, _, rfl, by decide, by decide⟩

theorem numberEnds_items (level : Nat) (items : List Json) {t : RawText} (ht : NumberEnds t) :
    NumberEnds ((L.spelledItems level items).map .char ++ t) := by
  cases items with
  | nil => exact ht
  | cons v rest => exact numberEnds_char (by decide) _

theorem numberEnds_members (level : Nat) (members : List (String × Json)) {t : RawText}
    (ht : NumberEnds t) : NumberEnds ((L.spelledMembers level members).map .char ++ t) := by
  cases members with
  | nil => exact ht
  | cons m rest => exact numberEnds_char (by decide) _

mutual

/-- A value without doubles is read back.  The reader spends at most two steps on a glyph. -/
theorem readValue_spelled : ∀ (v : Json) (level fuel : Nat) (rest : RawText), v.Whole →
    2 * (L.spelled level v).length ≤ fuel → NumberEnds rest →
    readValue fuel ((L.spelled level v).map .char ++ rest) = (ofJson v, rest)
  | .null, level, fuel, rest, _, hfuel, _ => by
    obtain ⟨fuel, rfl⟩ : ∃ m, fuel = m + 1 := ⟨fuel - 1, by simp [spelled] at hfuel; omega⟩
    rw [spelled, ofJson, readValue, List.map_cons, List.cons_append,
      skipSpaces_of_not (by decide)]
    rfl
  | .bool b, level, fuel, rest, _, hfuel, _ => by
    obtain ⟨fuel, rfl⟩ : ∃ m, fuel = m + 1 :=
      ⟨fuel - 1, by cases b <;> simp [spelled] at hfuel <;> omega⟩
    cases b <;>
      rw [spelled, ofJson, readValue, List.map_cons, List.cons_append,
        skipSpaces_of_not (by decide)] <;> rfl
  | .num (.int n h), level, fuel, rest, _, hfuel, hrest => by
    obtain ⟨g, t, hhead, -, -⟩ := L.spelled_head level (Json.Whole.int n h)
    have hlen := congrArg List.length hhead
    simp only [List.length_map, List.length_cons] at hlen
    obtain ⟨fuel, rfl⟩ : ∃ m, fuel = m + 1 := ⟨fuel - 1, by omega⟩
    rw [spelled, ofJson, readValue_int n h fuel hrest]
  | .num (.real d), _, _, _, hwhole, _, _ => by cases hwhole
  | .str s, level, fuel, rest, _, hfuel, _ => by
    obtain ⟨fuel, rfl⟩ : ∃ m, fuel = m + 1 :=
      ⟨fuel - 1, by simp [spelled, Json.stringChars] at hfuel; omega⟩
    rw [spelled, ofJson, readValue_string]
  | .arr [], level, fuel, rest, _, hfuel, _ => by
    obtain ⟨fuel, rfl⟩ : ∃ m, fuel = m + 2 := ⟨fuel - 2, by simp [spelled] at hfuel; omega⟩
    have hclose : readItems (fuel + 1) true (.char ']' :: rest) = _ :=
      readItems_close (List.forall_mem_nil _) fuel true rest
    rw [spelled, ofJson, ofItems, List.map_cons, List.map_singleton, List.cons_append,
      List.singleton_append, readValue_list, hclose]
  | .arr (v :: items), level, fuel, rest, hwhole, hfuel, hrest => by
    obtain ⟨hv, hitems⟩ : v.Whole ∧ ∀ w ∈ items, w.Whole := by
      cases hwhole with
      | arr _ h => exact List.forall_mem_cons.1 h
    simp only [spelled, List.length_cons, List.length_append, List.length_nil] at hfuel
    obtain ⟨fuel, rfl⟩ : ∃ m, fuel = m + 3 := ⟨fuel - 3, by omega⟩
    obtain ⟨g, t, hhead, hspace, hclose⟩ := L.spelled_head (level + 1) hv
    have hend : NumberEnds ((L.line level).map .char ++ .char ']' :: rest) :=
      numberEnds_before (L.line_spaces level) (numberEnds_char (by decide) rest)
    have hread := readValue_spelled v (level + 1) fuel
      ((L.spelledItems (level + 1) items).map .char ++
        ((L.line level).map .char ++ .char ']' :: rest)) hv (by omega)
      (L.numberEnds_items (level + 1) items hend)
    have hmore := readItems_spelled items (level + 1) fuel rest (L.line_spaces level) hitems
      (by omega)
    rw [hhead] at hread
    simp only [spelled, ofJson, ofItems, List.map_cons, List.map_append, List.map_nil,
      List.cons_append, List.append_assoc, List.nil_append]
    rw [readValue_list, hhead, List.cons_append, readItems_first (L.line_spaces _) hspace hclose,
      readItem]
    simp only [List.cons_append] at hread
    simp only [hread, hmore]
  | .obj [], level, fuel, rest, _, hfuel, _ => by
    obtain ⟨fuel, rfl⟩ : ∃ m, fuel = m + 2 := ⟨fuel - 2, by simp [spelled] at hfuel; omega⟩
    have hclose : readMembers (fuel + 1) true (.char '\x7d' :: rest) = _ :=
      readMembers_close (List.forall_mem_nil _) fuel true rest
    rw [spelled, ofJson, ofMembers, List.map_cons, List.map_singleton, List.cons_append,
      List.singleton_append, readValue_object, hclose]
  | .obj ((k, v) :: members), level, fuel, rest, hwhole, hfuel, hrest => by
    obtain ⟨hv, hmembers⟩ : v.Whole ∧ ∀ m ∈ members, m.2.Whole := by
      cases hwhole with
      | obj _ h => exact List.forall_mem_cons.1 h
    simp only [spelled, List.length_cons, List.length_append, List.length_nil] at hfuel
    obtain ⟨fuel, rfl⟩ : ∃ m, fuel = m + 3 := ⟨fuel - 3, by omega⟩
    have hend : NumberEnds ((L.line level).map .char ++ .char '\x7d' :: rest) :=
      numberEnds_before (L.line_spaces level) (numberEnds_char (by decide) rest)
    have hread := readValue_spelled v (level + 1) fuel
      ((L.spelledMembers (level + 1) members).map .char ++
        ((L.line level).map .char ++ .char '\x7d' :: rest)) hv (by omega)
      (L.numberEnds_members (level + 1) members hend)
    have hmore := readMembers_spelled members (level + 1) fuel rest (L.line_spaces level) hmembers
      (by omega)
    simp only [spelled, ofJson, ofMembers, List.map_cons, List.map_append, List.map_nil,
      List.cons_append, List.append_assoc, List.nil_append, stringChars_eq_body]
    rw [readValue_object, readMembers_first (L.line_spaces _), readMember_key,
      readValue_spaces L.afterColon_spaces, hread, hmore]

/-- The items after one that was read. -/
theorem readItems_spelled : ∀ (items : List Json) (level fuel : Nat) {spaces : List Char}
    (rest : RawText), (∀ c ∈ spaces, isSpace (.char c) = true) → (∀ v ∈ items, v.Whole) →
    2 * (L.spelledItems level items).length + 1 ≤ fuel →
    readItems fuel false ((L.spelledItems level items).map .char ++
      (spaces.map .char ++ .char ']' :: rest)) = (ofItems items, .closed, rest)
  | [], level, fuel, spaces, rest, hs, _, hfuel => by
    obtain ⟨fuel, rfl⟩ : ∃ m, fuel = m + 1 := ⟨fuel - 1, by omega⟩
    rw [spelledItems, List.map_nil, List.nil_append, readItems_close hs, ofItems]
  | v :: items, level, fuel, spaces, rest, hs, hwhole, hfuel => by
    obtain ⟨hv, hitems⟩ := List.forall_mem_cons.1 hwhole
    simp only [spelledItems, List.length_cons, List.length_append] at hfuel
    obtain ⟨fuel, rfl⟩ : ∃ m, fuel = m + 2 := ⟨fuel - 2, by omega⟩
    obtain ⟨g, t, hhead, hspace, hclose⟩ := L.spelled_head level hv
    have hend : NumberEnds (spaces.map .char ++ .char ']' :: rest) :=
      numberEnds_before hs (numberEnds_char (by decide) rest)
    have hread := readValue_spelled v level fuel ((L.spelledItems level items).map .char ++
      (spaces.map .char ++ .char ']' :: rest)) hv (by omega) (L.numberEnds_items level items hend)
    have hmore := readItems_spelled items level fuel rest hs hitems (by omega)
    rw [hhead, List.cons_append] at hread
    simp only [spelledItems, ofItems, List.map_cons, List.map_append, List.cons_append,
      List.append_assoc]
    rw [hhead, List.cons_append, readItems_comma (L.line_spaces level) hspace hclose, readItem]
    simp only [hread, hmore]

/-- The members after one that was read. -/
theorem readMembers_spelled : ∀ (members : List (String × Json)) (level fuel : Nat)
    {spaces : List Char} (rest : RawText), (∀ c ∈ spaces, isSpace (.char c) = true) →
    (∀ m ∈ members, m.2.Whole) → 2 * (L.spelledMembers level members).length + 1 ≤ fuel →
    readMembers fuel false ((L.spelledMembers level members).map .char ++
      (spaces.map .char ++ .char '\x7d' :: rest)) = (ofMembers members, .closed, rest)
  | [], level, fuel, spaces, rest, hs, _, hfuel => by
    obtain ⟨fuel, rfl⟩ : ∃ m, fuel = m + 1 := ⟨fuel - 1, by omega⟩
    rw [spelledMembers, List.map_nil, List.nil_append, readMembers_close hs, ofMembers]
  | (k, v) :: members, level, fuel, spaces, rest, hs, hwhole, hfuel => by
    obtain ⟨hv, hmembers⟩ := List.forall_mem_cons.1 hwhole
    simp only [spelledMembers, List.length_cons, List.length_append] at hfuel
    obtain ⟨fuel, rfl⟩ : ∃ m, fuel = m + 2 := ⟨fuel - 2, by omega⟩
    have hend : NumberEnds (spaces.map .char ++ .char '\x7d' :: rest) :=
      numberEnds_before hs (numberEnds_char (by decide) rest)
    have hread := readValue_spelled v level fuel ((L.spelledMembers level members).map .char ++
      (spaces.map .char ++ .char '\x7d' :: rest)) hv (by omega)
      (L.numberEnds_members level members hend)
    have hmore := readMembers_spelled members level fuel rest hs hmembers (by omega)
    simp only [spelledMembers, ofMembers, List.map_cons, List.map_append, List.cons_append,
      List.append_assoc, stringChars_eq_body]
    rw [readMembers_comma (L.line_spaces level), readMember_key,
      readValue_spaces L.afterColon_spaces, hread, hmore]

end

end Layout

namespace JsonText

/-- What the writer of several lines wrote is read back. -/
theorem ofRaw_pretty {v : Json} (h : v.Whole) {rest : RawText} (hrest : NumberEnds rest) :
    ofRaw ((v.prettyChars 0).map .char ++ rest) = (ofJson v, rest) := by
  rw [ofRaw, Json.prettyChars_eq_spelled]
  refine Layout.lines.readValue_spelled v 0 _ rest h ?_ hrest
  rw [fuelFor, List.length_append, List.length_map]
  omega

/-- What the writer of one line wrote is read back. -/
theorem ofRaw_compact {v : Json} (h : v.Whole) {rest : RawText} (hrest : NumberEnds rest) :
    ofRaw (v.compactChars.map .char ++ rest) = (ofJson v, rest) := by
  rw [ofRaw, Json.compactChars_eq_spelled 0]
  refine Layout.oneLine.readValue_spelled v 0 _ rest h ?_ hrest
  rw [fuelFor, List.length_append, List.length_map]
  omega

end JsonText

end Orchestration
