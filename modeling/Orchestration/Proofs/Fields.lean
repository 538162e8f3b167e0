import Orchestration.Json.Source

/-!
# Records keep their fields

Two views of the reader of records.  One follows a record that was written with its fields in
their order, some left out; the other holds for any data at all:

* `Fields.Reads` — named data holds the fields of a record, with a rule for a field that comes
  and one for a field that does not;
* `Decodes` — a reader finds a value in JSON data, wherever the data stands and however deep;
  one rule for each kind of reader, and `Decodes.record` for whole records;
* `Fields.Gives` — what holds of every record that these fields give, whatever is read;
* `readRecord_gives`, `readMap_gives` — and therefore of every record, and every map of them.
-/

namespace Orchestration

/-! ### Results taken apart -/

section
variable {ε α β : Type}

theorem bind_eq_ok {x : Except ε α} {f : α → Except ε β} {b : β} :
    (x >>= f) = .ok b ↔ ∃ a, x = .ok a ∧ f a = .ok b := by
  cases x <;> simp [bind, Except.bind]

theorem map_eq_ok {x : Except ε α} {f : α → β} {b : β} :
    x.map f = .ok b ↔ ∃ a, x = .ok a ∧ f a = b := by
  cases x <;> simp [Except.map]

theorem mapError_ok {ε' : Type} (f : ε → ε') (a : α) :
    (Except.ok a : Except ε α).mapError f = .ok a := rfl

theorem mapError_eq_ok {ε' : Type} {f : ε → ε'} {x : Except ε α} {a : α} :
    x.mapError f = .ok a ↔ x = .ok a := by
  cases x with
  | error e => exact iff_of_false nofun nofun
  | ok b => rw [mapError_ok, Except.ok.injEq, Except.ok.injEq]

theorem toOption_eq_some {x : Except ε α} {a : α} : x.toOption = some a ↔ x = .ok a := by
  cases x <;> simp [Except.toOption]

end

/-! ### Fields that were written in order -/

section
variable {τ : Type} [Source τ] {α σ ρ : Type}

namespace Fields

/-- Named data, as the reader of records meets it when nothing is wrong with the names. -/
def named (members : List (String × τ)) : List (Decoded String × τ) :=
  members.map fun m => (.ok m.1, m.2)

/-- A field that is not named keeps its slot. -/
theorem putAll_cons_of_unnamed {name : String} {read : τ → Decoded α} {absent : Option α}
    {more : Fields τ σ ρ} {members : List (String × τ)} (h : ∀ m ∈ members, m.1 ≠ name)
    (slot : Option α) (slots : σ) :
    (cons name read absent more).putAll (named members) (slot, slots) =
      (more.putAll (named members) slots).map fun s => (slot, s) := by
  induction members generalizing slots with
  | nil => rfl
  | cons m members ih =>
    obtain ⟨hm, hmembers⟩ := List.forall_mem_cons.1 h
    have hput : (cons name read absent more).put? m.1 =
        (more.put? m.1).map fun put v slots => (put v slots.2).map fun s => (slots.1, s) :=
      if_neg hm
    have hrest := ih hmembers
    simp only [named, List.map_cons, putAll, bind, Except.bind] at hrest ⊢
    rw [hput]
    cases more.put? m.1 with
    | none =>
      simp only [Option.map_none]
      cases Source.skip m.2 with
      | error e => rfl
      | ok _ => exact hrest slots
    | some put =>
      simp only [Option.map_some]
      cases put m.2 slots with
      | error e => rfl
      | ok s => exact hrest s

/-- Named data holds the fields of a record. -/
def Reads (fields : Fields τ σ ρ) (members : List (String × τ)) (r : ρ) : Prop :=
  ∃ slots, fields.putAll (named members) fields.start = .ok slots ∧ fields.finish slots = .ok r

theorem Reads.nil : (nil : Fields τ Unit Unit).Reads [] () := ⟨(), rfl, rfl⟩

/-- A field that comes is read, and comes once. -/
theorem Reads.present {name : String} {read : τ → Decoded α} {absent : Option α}
    {more : Fields τ σ ρ} {v : τ} {a : α} {members : List (String × τ)} {r : ρ}
    (hread : read v = .ok a) (hother : ∀ m ∈ members, m.1 ≠ name) (hmore : more.Reads members r) :
    (cons name read absent more).Reads ((name, v) :: members) (a, r) := by
  obtain ⟨slots, hput, hfinish⟩ := hmore
  refine ⟨(some a, slots), ?_, ?_⟩
  · have hrest : (cons name read absent more).putAll (named members) (some a, more.start) = _ :=
      putAll_cons_of_unnamed hother (some a) more.start
    rw [hput] at hrest
    have hname : (cons name read absent more).put? name = some _ := if_pos rfl
    simp only [named, List.map_cons, putAll, bind, Except.bind] at hrest ⊢
    rw [hname]
    simp only [cons, hread, Except.map] at hrest ⊢
    exact hrest
  · simp [cons, hfinish, Except.map]

/-- A field that does not come has its own value. -/
theorem Reads.absent {name : String} {read : τ → Decoded α} {a : α} {more : Fields τ σ ρ}
    {members : List (String × τ)} {r : ρ} (hother : ∀ m ∈ members, m.1 ≠ name)
    (hmore : more.Reads members r) : (cons name read (some a) more).Reads members (a, r) := by
  obtain ⟨slots, hput, hfinish⟩ := hmore
  refine ⟨(none, slots), ?_, ?_⟩
  · have hrest : (cons name read (some a) more).putAll (named members) (none, more.start) = _ :=
      putAll_cons_of_unnamed hother none more.start
    rw [hput] at hrest
    exact hrest
  · simp [cons, hfinish, Except.map]

end Fields

end

/-! ### Fields of any data -/

namespace Fields

section
variable {τ α σ ρ : Type}

/-- What holds of every record that these fields give: `S` of the slots while they are filled,
`P` of the record. -/
structure Gives (fields : Fields τ σ ρ) (S : σ → Prop) (P : ρ → Prop) : Prop where
  start : S fields.start
  put : ∀ {key put v s s'}, fields.put? key = some put → S s → put v s = .ok s' → S s'
  finish : ∀ {s r}, S s → fields.finish s = .ok r → P r
  take : ∀ {index expected finish items r left},
    fields.take index expected finish items = .ok (r, left) → P r

theorem Gives.nil : (Fields.nil : Fields τ Unit Unit).Gives (fun _ => True) fun _ => True where
  start := trivial
  put _ _ _ := trivial
  finish _ _ := trivial
  take _ := trivial

/-- A field gives what its reader gives, or else its own value. -/
theorem Gives.cons {name : String} {read : τ → Decoded α} {absent : Option α}
    {more : Fields τ σ ρ} {A : α → Prop} {S : σ → Prop} {P : ρ → Prop}
    (hread : ∀ {v a}, read v = .ok a → A a) (habsent : ∀ a ∈ absent, A a)
    (hmore : more.Gives S P) :
    (Fields.cons name read absent more).Gives (fun slots => (∀ a ∈ slots.1, A a) ∧ S slots.2)
      fun r => A r.1 ∧ P r.2 where
  start := ⟨by simp [Fields.cons], hmore.start⟩
  put {key put v s s'} hput hs hs' := by
    simp only [Fields.cons] at hput
    split at hput
    · cases hput
      obtain ⟨slot, slots⟩ := s
      cases slot with
      | some _ => cases hs'
      | none =>
        obtain ⟨a, ha, rfl⟩ := map_eq_ok.1 hs'
        exact ⟨by simpa using hread ha, hs.2⟩
    · simp only [Option.map_eq_some_iff] at hput
      obtain ⟨put', hput', rfl⟩ := hput
      obtain ⟨s₂, hs₂, rfl⟩ := map_eq_ok.1 hs'
      exact ⟨hs.1, hmore.put hput' hs.2 hs₂⟩
  finish {s r} hs hr := by
    simp only [Fields.cons] at hr
    split at hr
    · cases hr
    · next a ha =>
      obtain ⟨r₂, hr₂, rfl⟩ := map_eq_ok.1 hr
      refine ⟨?_, hmore.finish hs.2 hr₂⟩
      rcases Option.or_eq_some_iff.1 ha with ha | ⟨-, ha⟩
      · exact hs.1 a ha
      · exact habsent a ha
  take {index expected finish items r left} hr := by
    cases items with
    | cons v rest =>
      obtain ⟨a, ha, hr⟩ := bind_eq_ok.1 hr
      obtain ⟨p, hp, hr⟩ := bind_eq_ok.1 hr
      cases hr
      exact ⟨hread ha, hmore.take hp⟩
    | nil =>
      obtain ⟨-, -, hr⟩ := bind_eq_ok.1 hr
      cases absent with
      | none => cases hr
      | some a =>
        obtain ⟨p, hp, hr⟩ := bind_eq_ok.1 hr
        cases hr
        exact ⟨habsent a rfl, hmore.take hp⟩

/-- A field of which nothing is asked. -/
theorem Gives.any {name : String} {read : τ → Decoded α} {absent : Option α}
    {more : Fields τ σ ρ} {S : σ → Prop} {P : ρ → Prop} (hmore : more.Gives S P) :
    (Fields.cons name read absent more).Gives (fun slots => (∀ a ∈ slots.1, True) ∧ S slots.2)
      fun r => True ∧ P r.2 :=
  .cons (fun _ => trivial) (fun _ _ => trivial) hmore

/-- The slots keep what holds of them through any named data. -/
theorem Gives.putAll [Source τ] {fields : Fields τ σ ρ} {S : σ → Prop} {P : ρ → Prop}
    (h : fields.Gives S P) (members : List (Decoded String × τ)) :
    ∀ {s s'}, S s → fields.putAll members s = .ok s' → S s' := by
  induction members with
  | nil =>
    intro s s' hs hs'
    cases hs'
    exact hs
  | cons m members ih =>
    intro s s' hs hs'
    obtain ⟨key, v⟩ := m
    obtain ⟨name, -, hs'⟩ := bind_eq_ok.1 hs'
    cases hput : fields.put? name with
    | none =>
      rw [hput] at hs'
      obtain ⟨-, -, hs'⟩ := bind_eq_ok.1 hs'
      exact ih hs hs'
    | some put =>
      rw [hput] at hs'
      obtain ⟨s₂, hs₂, hs'⟩ := bind_eq_ok.1 hs'
      exact ih (h.put hput hs hs₂) hs'

end

end Fields

/-- A record of JSON data is what its fields give. -/
theorem readRecord_gives {σ ρ : Type} {fields : Fields JsonInput σ ρ} {S : σ → Prop}
    {P : ρ → Prop} (h : fields.Gives S P) {name : String} {v : JsonInput} {r : ρ}
    (hr : readRecord name fields v = .ok r) : P r := by
  obtain ⟨shape, -, hr⟩ := bind_eq_ok.1 (show _ >>= _ = _ from hr)
  cases shape with
  | members members finish =>
    obtain ⟨slots, hslots, hr⟩ := bind_eq_ok.1 hr
    obtain ⟨-, -, hr⟩ := bind_eq_ok.1 hr
    exact h.finish (h.putAll members h.start hslots) hr
  | items items finish surplus =>
    obtain ⟨p, hp, hr⟩ := bind_eq_ok.1 hr
    obtain ⟨-, -, hr⟩ := bind_eq_ok.1 hr
    cases hr
    exact h.take hp

/-! ### What maps give -/

theorem KeyMap.forall_insertAll {α : Type} {A : α → Prop} (es : List (String × α)) :
    ∀ m : KeyMap α, (∀ e ∈ m.entries, A e.2) → (∀ e ∈ es, A e.2) →
      ∀ e ∈ (m.insertAll es).entries, A e.2 := by
  induction es with
  | nil => intro m hm _; exact hm
  | cons e es ih =>
    intro m hm hes
    obtain ⟨he, hes⟩ := List.forall_mem_cons.1 hes
    refine ih (m.insert e.1 e.2) (fun x hx => ?_) hes
    rcases Entries.mem_insert hx with rfl | hx
    · exact he
    · exact hm x hx

theorem readMembers_gives {α : Type} {A : α → Prop} {read : JsonText → Decoded α}
    (h : ∀ {v a}, read v = .ok a → A a)
    (members : List (Except SyntaxFault String × JsonText)) :
    ∀ {es}, JsonInput.readMembers read members = .ok es → ∀ e ∈ es, A e.2 := by
  induction members with
  | nil =>
    intro es hes
    cases hes
    simp
  | cons m members ih =>
    intro es hes
    obtain ⟨k, -, hes⟩ := bind_eq_ok.1 hes
    obtain ⟨a, ha, hes⟩ := bind_eq_ok.1 hes
    obtain ⟨as, has, hes⟩ := bind_eq_ok.1 hes
    cases hes
    exact List.forall_mem_cons.2 ⟨h ha, ih has⟩

/-- The values of a map of JSON data are what their reader gives. -/
theorem readMap_gives {α : Type} {A : α → Prop} {read : JsonInput → Decoded α}
    (h : ∀ {v a}, read v = .ok a → A a) {v : JsonInput} {m : KeyMap α}
    (hm : readMap read v = .ok m) : ∀ e ∈ m.entries, A e.2 := by
  obtain ⟨es, hes, rfl⟩ := map_eq_ok.1 hm
  have hall : ∀ e ∈ es, A e.2 := by
    have hentries : JsonInput.entries read v = .ok es := hes
    unfold JsonInput.entries at hentries
    split at hentries
    · obtain ⟨depth, -, hentries⟩ := bind_eq_ok.1 hentries
      obtain ⟨as, has, hentries⟩ := bind_eq_ok.1 hentries
      obtain ⟨-, -, hentries⟩ := bind_eq_ok.1 hentries
      cases hentries
      exact readMembers_gives h _ has
    · obtain ⟨found, -, hentries⟩ := bind_eq_ok.1 hentries
      cases hentries
  exact KeyMap.forall_insertAll es .empty (by simp [KeyMap.empty]) hall

/-! ### Values in JSON data -/

namespace JsonText

/-- There is room for so many more lists and objects inside each other. -/
def Depth.Allows (depth : Depth) (levels : Nat) : Prop := ∀ n ∈ depth, levels ≤ n

theorem Depth.enter_of_allows {depth : Depth} {levels : Nat} (h : depth.Allows (levels + 1)) :
    ∃ inner, depth.enter = .ok inner ∧ inner.Allows levels := by
  match depth, h with
  | none, _ => exact ⟨none, rfl, by simp [Depth.Allows]⟩
  | some 0, h => exact absurd (h 0 rfl) (by omega)
  | some (n + 1), h =>
    have hn : levels ≤ n := Nat.le_of_succ_le_succ (h (n + 1) rfl)
    exact ⟨some n, rfl, by simpa [Depth.Allows] using hn⟩

theorem Depth.Allows.mono {depth : Depth} {levels more : Nat} (h : depth.Allows more)
    (hle : levels ≤ more) : depth.Allows levels :=
  fun n hn => Nat.le_trans hle (h n hn)

theorem ofMembers_eq_map (members : List (String × Json)) :
    ofMembers members = members.map fun m => (.ok m.1, ofJson m.2) := by
  induction members with
  | nil => rfl
  | cons m members ih => rw [ofMembers, ih, List.map_cons]

end JsonText

section
variable {α σ ρ : Type} {read : JsonInput → Decoded α} {levels : Nat}

/-- A reader finds `a` in a value that has `levels` lists and objects inside each other, whether
the value stands in a text or not, and wherever there is room for it. -/
def Decodes (read : JsonInput → Decoded α) (levels : Nat) (v : Json) (a : α) : Prop :=
  ∀ depth origin, JsonText.Depth.Allows depth levels →
    read ⟨JsonText.ofJson v, depth, origin⟩ = .ok a

theorem Decodes.mono {more : Nat} {v : Json} {a : α} (h : Decodes read levels v a)
    (hle : levels ≤ more) : Decodes read more v a :=
  fun depth origin hdepth => h depth origin (hdepth.mono hle)

/-- A value that is not null is there. -/
theorem Decodes.option {v : Json} {a : α} (hv : v ≠ .null) (h : Decodes read levels v a) :
    Decodes (readOption read) levels v (some a) := by
  intro depth origin hdepth
  have hpresent : Source.present? (⟨JsonText.ofJson v, depth, origin⟩ : JsonInput) =
      .ok (some ⟨JsonText.ofJson v, depth, origin⟩) := by
    cases v with
    | null => exact absurd rfl hv
    | _ => rfl
  exact bind_eq_ok.2 ⟨_, hpresent, bind_eq_ok.2 ⟨a, h depth origin hdepth, rfl⟩⟩

/-- A list is read item by item. -/
theorem Decodes.list {f : α → Json} {as : List α} (h : ∀ a ∈ as, Decodes read levels (f a) a) :
    Decodes (Source.list read) (levels + 1) (.arr (as.map f)) as := by
  intro depth origin hdepth
  obtain ⟨inner, henter, hinner⟩ := JsonText.Depth.enter_of_allows hdepth
  have hall : ∀ as : List α, (∀ a ∈ as, Decodes read levels (f a) a) →
      JsonInput.readAll (fun v => read ⟨v, inner, origin⟩)
        (JsonText.ofItems (as.map f)) = .ok as := by
    intro as has
    induction as with
    | nil => rfl
    | cons a as ih =>
      obtain ⟨ha, has⟩ := List.forall_mem_cons.1 has
      rw [List.map_cons, JsonText.ofItems, JsonInput.readAll, ih has, ha inner origin hinner]
      rfl
  show JsonInput.list read ⟨.arr (JsonText.ofItems (as.map f)) .closed, depth, origin⟩ = _
  simp only [JsonInput.list, henter, JsonInput.malformed, mapError_ok, JsonInput.part, hall as h,
    bind, Except.bind, JsonText.wantListEnd]
  rfl

/-- A map is read entry by entry, and keeps its order. -/
theorem Decodes.map {f : α → Json} {m : KeyMap α}
    (h : ∀ e ∈ m.entries, Decodes read levels (f e.2) e.2) :
    Decodes (readMap read) (levels + 1) (Json.ofMap (m.map f)) m := by
  intro depth origin hdepth
  obtain ⟨inner, henter, hinner⟩ := JsonText.Depth.enter_of_allows hdepth
  have hall : ∀ es : List (String × α), (∀ e ∈ es, Decodes read levels (f e.2) e.2) →
      JsonInput.readMembers (fun v => read ⟨v, inner, origin⟩)
        (JsonText.ofMembers (es.map fun e => (e.1, f e.2))) = .ok es := by
    intro es hes
    induction es with
    | nil => rfl
    | cons e es ih =>
      obtain ⟨he, hes⟩ := List.forall_mem_cons.1 hes
      rw [List.map_cons, JsonText.ofMembers, JsonInput.readMembers, ih hes, he inner origin hinner]
      rfl
  have hentries : JsonInput.entries read
      ⟨JsonText.ofJson (Json.ofMap (m.map f)), depth, origin⟩ = .ok m.entries := by
    show JsonInput.entries read ⟨.obj (JsonText.ofMembers (m.entries.map fun e => (e.1, f e.2)))
      .closed, depth, origin⟩ = _
    simp only [JsonInput.entries, henter, JsonInput.malformed, mapError_ok, JsonInput.part,
      hall m.entries h, bind, Except.bind, JsonText.wantObjectEnd]
    rfl
  show (JsonInput.entries read _).map KeyMap.ofList = _
  rw [hentries, Except.map, KeyMap.ofList_entries]

/-! ### Records in JSON data -/

namespace Fields

/-- The members of a value hold the fields of a record, wherever there is room for them. -/
def Written (fields : Fields JsonInput σ ρ) (levels : Nat) (members : List (String × Json))
    (r : ρ) : Prop :=
  ∀ depth origin, JsonText.Depth.Allows depth levels →
    fields.Reads (members.map fun m => (m.1, ⟨JsonText.ofJson m.2, depth, origin⟩)) r

theorem Written.nil : (nil : Fields JsonInput Unit Unit).Written levels [] () :=
  fun _ _ _ => Reads.nil

theorem Written.present {name : String} {absent : Option α} {more : Fields JsonInput σ ρ}
    {v : Json} {a : α} {members : List (String × Json)} {r : ρ}
    (hread : Decodes read levels v a) (hother : ∀ m ∈ members, m.1 ≠ name)
    (hmore : more.Written levels members r) :
    (cons name read absent more).Written levels ((name, v) :: members) (a, r) := by
  intro depth origin hdepth
  refine Reads.present (hread depth origin hdepth) ?_ (hmore depth origin hdepth)
  intro m hm
  obtain ⟨m', hm', rfl⟩ := List.mem_map.1 hm
  exact hother m' hm'

theorem Written.absent {name : String} {a : α} {more : Fields JsonInput σ ρ}
    {members : List (String × Json)} {r : ρ} (hother : ∀ m ∈ members, m.1 ≠ name)
    (hmore : more.Written levels members r) :
    (cons name read (some a) more).Written levels members (a, r) := by
  intro depth origin hdepth
  refine Reads.absent ?_ (hmore depth origin hdepth)
  intro m hm
  obtain ⟨m', hm', rfl⟩ := List.mem_map.1 hm
  exact hother m' hm'

end Fields

/-- An object whose members hold the fields of a record is that record. -/
theorem Decodes.record {name : String} {fields : Fields JsonInput σ ρ}
    {members : List (String × Json)} {r : ρ} (f : ρ → α)
    (h : fields.Written levels members r) :
    Decodes (fun v => (readRecord name fields v).map f) (levels + 1) (.obj members) (f r) := by
  intro depth origin hdepth
  refine map_eq_ok.2 ⟨r, ?_, rfl⟩
  obtain ⟨inner, henter, hinner⟩ := JsonText.Depth.enter_of_allows hdepth
  obtain ⟨slots, hput, hfinish⟩ := h inner origin hinner
  have hshape : Source.shape ("struct " ++ name)
      (⟨JsonText.ofJson (.obj members), depth, origin⟩ : JsonInput) =
      .ok (.members (Fields.named (members.map fun m =>
        (m.1, ⟨JsonText.ofJson m.2, inner, origin⟩))) (.ok ())) := by
    show JsonInput.shape _ ⟨.obj (JsonText.ofMembers members) .closed, depth, origin⟩ = _
    simp only [JsonInput.shape, henter, JsonInput.malformed, mapError_ok, bind, Except.bind,
      JsonText.wantObjectEnd, JsonText.ofMembers_eq_map, Fields.named, List.map_map]
    rfl
  refine bind_eq_ok.2 ⟨_, hshape, bind_eq_ok.2 ⟨slots, hput, ?_⟩⟩
  exact bind_eq_ok.2 ⟨(), rfl, hfinish⟩

end

end Orchestration
