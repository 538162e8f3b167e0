import Mathlib.Data.List.Nodup
import Orchestration.Proofs.Fields

/-!
# Named fields may come in any order

A written record has its fields in the order of their declaration, but the values of a program keep
the members of an object in the order of their keys.  The reader of records does not mind:

* `Fields.Commute` — fields of different names can be put in either order; every list of fields
  has that property, field by field;
* `Fields.Written.perm` — so the members of a record may be rearranged;
* `KeyMap.ofList_perm`, `Decodes.recordCanonical` — in particular they may be put in the order of
  their keys.
-/

namespace Orchestration

namespace Fields

/-! ### Two fields -/

section
variable {τ α σ ρ : Type}

/-- Fields of different names can be put in either order. -/
def Commute (fields : Fields τ σ ρ) : Prop :=
  ∀ {k l p q}, k ≠ l → fields.put? k = some p → fields.put? l = some q →
    ∀ {v w s s₁ s₂}, p v s = .ok s₁ → q w s₁ = .ok s₂ →
      ∃ t, q w s = .ok t ∧ p v t = .ok s₂

theorem Commute.nil : (Fields.nil : Fields τ Unit Unit).Commute := by
  intro k l p q _ hp
  cases hp

/-- How a field that is not the first one is put. -/
theorem put?_cons_of_ne {name key : String} {read : τ → Decoded α} {absent : Option α}
    {more : Fields τ σ ρ} {put : τ → Option α × σ → Decoded (Option α × σ)} (h : key ≠ name)
    (hput : (cons name read absent more).put? key = some put) :
    ∃ put', more.put? key = some put' ∧
      put = fun v slots => (put' v slots.2).map fun s => (slots.1, s) := by
  have hlift : (cons name read absent more).put? key =
      (more.put? key).map fun put v slots => (put v slots.2).map fun s => (slots.1, s) := if_neg h
  rw [hlift] at hput
  obtain ⟨put', hput', rfl⟩ := Option.map_eq_some_iff.1 hput
  exact ⟨put', hput', rfl⟩

/-- How the first field is put: it must not have come before. -/
theorem put_cons_self {name : String} {read : τ → Decoded α} {absent : Option α}
    {more : Fields τ σ ρ} {put : τ → Option α × σ → Decoded (Option α × σ)}
    (hput : (cons name read absent more).put? name = some put) {v : τ} {s s' : Option α × σ}
    (hs : put v s = .ok s') : ∃ a, read v = .ok a ∧ s.1 = none ∧ s' = (some a, s.2) := by
  have hself : (cons name read absent more).put? name = some _ := if_pos rfl
  obtain rfl := Option.some.inj (hself.symm.trans hput)
  obtain ⟨slot, slots⟩ := s
  cases slot with
  | some _ => cases hs
  | none =>
    obtain ⟨a, ha, rfl⟩ := map_eq_ok.1 hs
    exact ⟨a, ha, rfl, rfl⟩

/-- The first field can be put as long as it has not come before. -/
theorem put_cons_none {name : String} {read : τ → Decoded α} {absent : Option α}
    {more : Fields τ σ ρ} {put : τ → Option α × σ → Decoded (Option α × σ)}
    (hput : (cons name read absent more).put? name = some put) {v : τ} {a : α}
    (ha : read v = .ok a) (slots : σ) : put v (none, slots) = .ok (some a, slots) := by
  have hself : (cons name read absent more).put? name = some _ := if_pos rfl
  obtain rfl := Option.some.inj (hself.symm.trans hput)
  simp [ha, Except.map]

theorem Commute.cons {name : String} {read : τ → Decoded α} {absent : Option α}
    {more : Fields τ σ ρ} (h : more.Commute) : (cons name read absent more).Commute := by
  intro k l p q hne hp hq v w s s₁ s₂ hs₁ hs₂
  by_cases hk : k = name
  · -- the first field was put before another one
    subst hk
    obtain ⟨q', -, rfl⟩ := put?_cons_of_ne (Ne.symm hne) hq
    obtain ⟨a, ha, hnone, rfl⟩ := put_cons_self hp hs₁
    obtain ⟨t, ht, rfl⟩ := map_eq_ok.1 hs₂
    refine ⟨(none, t), map_eq_ok.2 ⟨t, ht, by rw [hnone]⟩, put_cons_none hp ha t⟩
  · obtain ⟨p', hp', rfl⟩ := put?_cons_of_ne hk hp
    obtain ⟨t, ht, rfl⟩ := map_eq_ok.1 hs₁
    by_cases hl : l = name
    · -- another field was put before the first one
      subst hl
      obtain ⟨a, ha, hnone, rfl⟩ := put_cons_self hq hs₂
      obtain ⟨slot, slots⟩ := s
      obtain rfl : slot = none := hnone
      exact ⟨_, put_cons_none hq ha slots, map_eq_ok.2 ⟨t, ht, rfl⟩⟩
    · obtain ⟨q', hq', rfl⟩ := put?_cons_of_ne hl hq
      obtain ⟨t₂, ht₂, rfl⟩ := map_eq_ok.1 hs₂
      obtain ⟨u, hu, hu₂⟩ := h hne hp' hq' ht ht₂
      exact ⟨_, map_eq_ok.2 ⟨u, hu, rfl⟩, map_eq_ok.2 ⟨t₂, hu₂, rfl⟩⟩

end

/-! ### All fields -/

section
variable {τ : Type} [Source τ] {σ ρ : Type}

/-- Put one named field, or pass over what has an unknown name. -/
def putNamed (fields : Fields τ σ ρ) (m : String × τ) (s : σ) : Decoded σ :=
  match fields.put? m.1 with
  | some put => put m.2 s
  | none => (Source.skip m.2).map fun _ => s

theorem putAll_named_cons (fields : Fields τ σ ρ) (m : String × τ) (members : List (String × τ))
    (s : σ) : fields.putAll (named (m :: members)) s =
      fields.putNamed m s >>= fields.putAll (named members) := by
  simp only [named, List.map_cons, putAll, putNamed, bind, Except.bind]
  cases fields.put? m.1 with
  | some put => rfl
  | none => cases Source.skip m.2 <;> rfl

/-- Two members of different names can be put in either order, whether their names are known or
not. -/
theorem Commute.putNamed {fields : Fields τ σ ρ} (h : fields.Commute) {m n : String × τ}
    (hne : m.1 ≠ n.1) {s s₁ s₂ : σ} (h₁ : fields.putNamed m s = .ok s₁)
    (h₂ : fields.putNamed n s₁ = .ok s₂) :
    ∃ t, fields.putNamed n s = .ok t ∧ fields.putNamed m t = .ok s₂ := by
  unfold Fields.putNamed at h₁ h₂ ⊢
  cases hm : fields.put? m.1 with
  | none =>
    simp only [hm] at h₁ ⊢
    obtain ⟨u, hskip, rfl⟩ := map_eq_ok.1 h₁
    exact ⟨s₂, h₂, map_eq_ok.2 ⟨u, hskip, rfl⟩⟩
  | some p =>
    simp only [hm] at h₁ ⊢
    cases hn : fields.put? n.1 with
    | none =>
      simp only [hn] at h₂ ⊢
      obtain ⟨u, hskip, rfl⟩ := map_eq_ok.1 h₂
      exact ⟨s, map_eq_ok.2 ⟨u, hskip, rfl⟩, h₁⟩
    | some q =>
      simp only [hn] at h₂ ⊢
      exact h hne hm hn h₁ h₂

/-- Rearranged members fill the same slots. -/
theorem Commute.putAll_perm {fields : Fields τ σ ρ} (h : fields.Commute)
    {members members' : List (String × τ)} (hperm : members.Perm members') :
    (members.map Prod.fst).Nodup → ∀ {s s'}, fields.putAll (named members) s = .ok s' →
      fields.putAll (named members') s = .ok s' := by
  induction hperm with
  | nil => exact fun _ _ _ hs => hs
  | cons m _ ih =>
    intro hnodup s s' hs
    rw [putAll_named_cons] at hs ⊢
    obtain ⟨t, ht, hs⟩ := bind_eq_ok.1 hs
    exact bind_eq_ok.2 ⟨t, ht, ih (List.nodup_cons.1 hnodup).2 hs⟩
  | swap m n members =>
    intro hnodup s s' hs
    rw [putAll_named_cons] at hs ⊢
    obtain ⟨t, ht, hs⟩ := bind_eq_ok.1 hs
    rw [putAll_named_cons] at hs
    obtain ⟨u, hu, hs⟩ := bind_eq_ok.1 hs
    have hne : n.1 ≠ m.1 := fun heq => (List.nodup_cons.1 hnodup).1 (by simp [heq])
    obtain ⟨t', ht', hu'⟩ := h.putNamed hne ht hu
    refine bind_eq_ok.2 ⟨t', ht', ?_⟩
    rw [putAll_named_cons]
    exact bind_eq_ok.2 ⟨u, hu', hs⟩
  | trans hfirst _ ih₁ ih₂ =>
    intro hnodup s s' hs
    exact ih₂ ((hfirst.map Prod.fst).nodup_iff.1 hnodup) (ih₁ hnodup hs)

end

/-- The members of a record may be rearranged. -/
theorem Written.perm {σ ρ : Type} {fields : Fields JsonInput σ ρ} (h : fields.Commute)
    {levels : Nat} {members members' : List (String × Json)} {r : ρ}
    (hperm : members.Perm members') (hnodup : (members.map Prod.fst).Nodup)
    (hwritten : fields.Written levels members r) : fields.Written levels members' r := by
  intro depth origin hdepth
  obtain ⟨slots, hput, hfinish⟩ := hwritten depth origin hdepth
  have hnames : ((members.map fun m => (m.1, (⟨JsonText.ofJson m.2, depth, origin⟩ :
      JsonInput))).map Prod.fst).Nodup := by
    simpa [List.map_map, Function.comp_def] using hnodup
  exact ⟨slots, h.putAll_perm (hperm.map _) hnames hput, hfinish⟩

end Fields

/-! ### The order of keys -/

namespace Entries

variable {α : Type}

/-- An entry of a new key is put somewhere among the others. -/
theorem insert_perm {key : String} {value : α} {es : List (String × α)}
    (h : key ∉ es.map Prod.fst) : (insert key value es).Perm ((key, value) :: es) := by
  induction es with
  | nil => exact .refl _
  | cons e es ih =>
    obtain ⟨k, v⟩ := e
    obtain ⟨hk, hes⟩ : key ≠ k ∧ key ∉ es.map Prod.fst := by simpa using h
    simp only [insert, if_neg hk]
    split
    · exact .refl _
    · exact ((ih hes).cons (k, v)).trans (.swap _ _ _)

end Entries

namespace KeyMap

variable {α : Type}

theorem insertAll_perm (es : List (String × α)) : ∀ m : KeyMap α,
    ((m.entries ++ es).map Prod.fst).Nodup → (m.insertAll es).entries.Perm (m.entries ++ es) := by
  induction es with
  | nil =>
    intro m _
    rw [List.append_nil]
    exact .refl _
  | cons e es ih =>
    intro m hnodup
    have hmiddle : (m.entries ++ e :: es).Perm (e :: (m.entries ++ es)) := List.perm_middle
    have hnodup' : (e.1 :: (m.entries ++ es).map Prod.fst).Nodup :=
      (hmiddle.map Prod.fst).nodup_iff.1 hnodup
    have hnew : e.1 ∉ m.entries.map Prod.fst := fun he =>
      (List.nodup_cons.1 hnodup').1 (by simp only [List.map_append, List.mem_append, he, true_or])
    have hinsert : (m.insert e.1 e.2).entries.Perm (e :: m.entries) := Entries.insert_perm hnew
    have hboth : ((m.insert e.1 e.2).entries ++ es).Perm (e :: (m.entries ++ es)) :=
      hinsert.append_right es
    refine (ih (m.insert e.1 e.2) ?_).trans (hboth.trans hmiddle.symm)
    exact (hboth.map Prod.fst).nodup_iff.2 hnodup'

/-- Entries of different keys are only put in order. -/
theorem ofList_perm {es : List (String × α)} (h : (es.map Prod.fst).Nodup) :
    (ofList es).entries.Perm es :=
  insertAll_perm es .empty h

end KeyMap

theorem Json.canonicalMembers_eq_map (members : List (String × Json)) :
    Json.canonicalMembers members = members.map fun m => (m.1, m.2.canonical) := by
  induction members with
  | nil => rfl
  | cons m members ih => rw [Json.canonicalMembers, ih, List.map_cons]

/-- A record is also read from its members in the order of their keys. -/
theorem Decodes.recordCanonical {α σ ρ : Type} {levels : Nat} {name : String}
    {fields : Fields JsonInput σ ρ} {members : List (String × Json)} {r : ρ} (f : ρ → α)
    (hcommute : fields.Commute) (hnodup : (members.map Prod.fst).Nodup)
    (h : fields.Written levels (Json.canonicalMembers members) r) :
    Decodes (fun v => (readRecord name fields v).map f) (levels + 1)
      (Json.obj members).canonical (f r) := by
  rw [Json.canonical]
  have hkeys : ((Json.canonicalMembers members).map Prod.fst).Nodup := by
    simpa [Json.canonicalMembers_eq_map, List.map_map, Function.comp_def] using hnodup
  exact .record f (.perm hcommute (KeyMap.ofList_perm hkeys).symm hkeys h)

end Orchestration
