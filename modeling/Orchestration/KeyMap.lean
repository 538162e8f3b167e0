/-!
# Maps from names, in the order of the names

Records hold maps whose keys are written in order.  A `KeyMap` is a list of entries whose keys
strictly increase, so two maps with the same entries are equal:

* `KeyMap.find?`, `insert`, `erase`, `union`, `ofList` — the operations, later entries winning;
* `find?_insert`, `find?_erase`, `find?_union` — what each operation does to a look-up;
* `find?_insert_eq_some_iff`, `find?_erase_eq_some_iff` — where that which is found comes from;
* `ext_find?` — maps that answer every look-up alike are equal;
* `ofList_entries` — a map is the map of its own entries.
-/

namespace Orchestration

variable {α β : Type}

/-! ### Entry lists -/

namespace Entries

/-- Keys strictly increase. -/
def Ordered (es : List (String × α)) : Prop :=
  es.Pairwise fun a b => a.1 < b.1

/-- The value under a key. -/
def find? (key : String) : List (String × α) → Option α
  | [] => none
  | (k, v) :: rest => if k = key then some v else find? key rest

/-- The entries with `key` bound to `value`, in the place that the order gives it. -/
def insert (key : String) (value : α) : List (String × α) → List (String × α)
  | [] => [(key, value)]
  | (k, v) :: rest =>
    if key < k then (key, value) :: (k, v) :: rest
    else if key = k then (key, value) :: rest
    else (k, v) :: insert key value rest

/-- The entries whose key is not `key`. -/
def erase (key : String) (es : List (String × α)) : List (String × α) :=
  es.filter fun e => e.1 ≠ key

theorem mem_insert {key : String} {value : α} {e : String × α} {es : List (String × α)} :
    e ∈ insert key value es → e = (key, value) ∨ e ∈ es := by
  induction es with
  | nil => simp [insert]
  | cons hd rest ih =>
    unfold insert
    split
    · simp
    · split
      · intro h
        rcases List.mem_cons.1 h with h | h
        · exact .inl h
        · exact .inr (List.mem_cons_of_mem _ h)
      · intro h
        rcases List.mem_cons.1 h with h | h
        · exact .inr (h ▸ List.mem_cons_self)
        · rcases ih h with h | h
          · exact .inl h
          · exact .inr (List.mem_cons_of_mem _ h)

theorem ordered_insert (key : String) (value : α) {es : List (String × α)} (h : Ordered es) :
    Ordered (insert key value es) := by
  induction es with
  | nil => simp [insert, Ordered]
  | cons hd rest ih =>
    obtain ⟨k, v⟩ := hd
    have hrest : Ordered rest := (List.pairwise_cons.1 h).2
    have hhead : ∀ e ∈ rest, k < e.1 := (List.pairwise_cons.1 h).1
    unfold insert
    split
    · next hlt =>
      refine List.pairwise_cons.2 ⟨?_, h⟩
      intro e he
      rcases List.mem_cons.1 he with he | he
      · exact he ▸ hlt
      · exact String.lt_trans hlt (hhead e he)
    · split
      · next heq =>
        subst heq
        exact List.pairwise_cons.2 ⟨hhead, hrest⟩
      · next hlt hne =>
        refine List.pairwise_cons.2 ⟨?_, ih hrest⟩
        intro e he
        rcases mem_insert he with he | he
        · subst he
          show k < key
          grind
        · exact hhead e he

theorem ordered_erase (key : String) {es : List (String × α)} (h : Ordered es) :
    Ordered (erase key es) :=
  h.filter _

theorem find?_insert (key other : String) (value : α) (es : List (String × α)) :
    find? other (insert key value es) = if key = other then some value else find? other es := by
  induction es with
  | nil => simp [insert, find?]
  | cons hd rest ih =>
    obtain ⟨k, v⟩ := hd
    unfold insert
    split
    · simp [find?]
    · split
      · next heq => subst heq; by_cases h : key = other <;> simp [find?, h]
      · next hlt hne =>
        simp only [find?, ih]
        by_cases hk : k = other
        · have : key ≠ other := fun h => hne (h.trans hk.symm)
          simp [hk, this]
        · simp [hk]

theorem find?_erase (key other : String) (es : List (String × α)) :
    find? other (erase key es) = if key = other then none else find? other es := by
  induction es with
  | nil => simp [erase, find?]
  | cons hd rest ih =>
    obtain ⟨k, v⟩ := hd
    unfold erase at ih ⊢
    by_cases hk : k = key
    · subst hk
      by_cases ho : k = other <;> simp_all [find?]
    · have hne : (decide (k ≠ key)) = true := by simpa using hk
      rw [List.filter_cons, if_pos hne]
      simp only [find?, ih]
      by_cases ho : k = other
      · subst ho; simp [Ne.symm hk]
      · simp [ho]

theorem nodup_keys {es : List (String × α)} (h : Ordered es) : (es.map Prod.fst).Nodup := by
  have different : ∀ {a b : String × α}, a.1 < b.1 → a.1 ≠ b.1 :=
    fun {a b} before same => String.lt_irrefl b.1 (same ▸ before)
  exact List.pairwise_map.2 (List.Pairwise.imp different h)

theorem find?_eq_none_of_notMem {key : String} {es : List (String × α)}
    (h : key ∉ es.map Prod.fst) : find? key es = none := by
  induction es with
  | nil => rfl
  | cons hd rest ih =>
    obtain ⟨k, v⟩ := hd
    simp only [List.map_cons, List.mem_cons, not_or] at h
    exact (if_neg (Ne.symm h.1)).trans (ih h.2)

theorem find?_eq_none_of_forall {key : String} {es : List (String × α)}
    (h : ∀ e ∈ es, key < e.1) : find? key es = none := by
  refine find?_eq_none_of_notMem fun among => ?_
  obtain ⟨e, he, rfl⟩ := List.mem_map.1 among
  exact String.lt_irrefl _ (h e he)

theorem find?_filterMap (f : α → Option β) (key : String) {es : List (String × α)}
    (h : Ordered es) :
    find? key (es.filterMap fun e => (f e.2).map fun v => (e.1, v)) = (find? key es).bind f := by
  induction es with
  | nil => rfl
  | cons hd rest ih =>
    obtain ⟨k, v⟩ := hd
    have hrest := ih (List.pairwise_cons.1 h).2
    by_cases hk : k = key
    · subst hk
      have hnone := find?_eq_none_of_forall (List.pairwise_cons.1 h).1
      cases hv : f v with
      | none => simp [find?, hv, hrest, hnone]
      | some b => simp [find?, hv]
    · cases hv : f v with
      | none => simp [find?, hv, hrest, hk]
      | some b => simp [find?, hv, hrest, hk]

/-- Entries in order that answer every look-up alike are the same. -/
theorem ext_find? {es fs : List (String × α)} (he : Ordered es) (hf : Ordered fs)
    (h : ∀ key, find? key es = find? key fs) : es = fs := by
  induction es generalizing fs with
  | nil =>
    cases fs with
    | nil => rfl
    | cons hd rest =>
      have := h hd.1
      simp [find?] at this
  | cons hd rest ih =>
    obtain ⟨k, v⟩ := hd
    cases fs with
    | nil =>
      have := h k
      simp [find?] at this
    | cons hd' rest' =>
      obtain ⟨k', v'⟩ := hd'
      have hk : k = k' := by
        rcases (by grind : k < k' ∨ k = k' ∨ k' < k) with hlt | heq | hlt
        · have h1 := h k
          have h2 : find? k ((k', v') :: rest') = none := by
            refine find?_eq_none_of_forall ?_
            intro e hm
            rcases List.mem_cons.1 hm with hm | hm
            · exact hm ▸ hlt
            · exact String.lt_trans hlt ((List.pairwise_cons.1 hf).1 e hm)
          rw [h2] at h1
          simp [find?] at h1
        · exact heq
        · have h1 := h k'
          have h2 : find? k' ((k, v) :: rest) = none := by
            refine find?_eq_none_of_forall ?_
            intro e hm
            rcases List.mem_cons.1 hm with hm | hm
            · exact hm ▸ hlt
            · exact String.lt_trans hlt ((List.pairwise_cons.1 he).1 e hm)
          rw [h2] at h1
          simp [find?] at h1
      subst hk
      have hv : v = v' := by
        have := h k
        simpa [find?] using this
      subst hv
      congr 1
      refine ih (List.pairwise_cons.1 he).2 (List.pairwise_cons.1 hf).2 ?_
      intro key
      have := h key
      by_cases hkey : k = key
      · subst hkey
        rw [find?_eq_none_of_forall (List.pairwise_cons.1 he).1,
          find?_eq_none_of_forall (List.pairwise_cons.1 hf).1]
      · simpa [find?, hkey] using this

end Entries

/-! ### Maps -/

/-- A map from names to values. -/
structure KeyMap (α : Type) where
  entries : List (String × α)
  ordered : Entries.Ordered entries

namespace KeyMap

instance [DecidableEq α] : DecidableEq (KeyMap α) := fun a b =>
  match decEq a.entries b.entries with
  | isTrue h => isTrue (by cases a; cases b; cases h; rfl)
  | isFalse h => isFalse fun e => h (e ▸ rfl)

/-- The map without entries. -/
def empty : KeyMap α := ⟨[], List.Pairwise.nil⟩

instance : Inhabited (KeyMap α) := ⟨empty⟩

/-- The value under a key. -/
def find? (m : KeyMap α) (key : String) : Option α := Entries.find? key m.entries

/-- Whether a key is bound. -/
def contains (m : KeyMap α) (key : String) : Bool := (m.find? key).isSome

/-- Bind a key, replacing what it was bound to. -/
def insert (m : KeyMap α) (key : String) (value : α) : KeyMap α :=
  ⟨Entries.insert key value m.entries, Entries.ordered_insert key value m.ordered⟩

/-- Unbind a key. -/
def erase (m : KeyMap α) (key : String) : KeyMap α :=
  ⟨Entries.erase key m.entries, Entries.ordered_erase key m.ordered⟩

/-- Bind every entry of a list, one after the other. -/
def insertAll (m : KeyMap α) (es : List (String × α)) : KeyMap α :=
  es.foldl (fun m e => m.insert e.1 e.2) m

/-- The map of a list of entries, where the last one of a key counts. -/
def ofList (es : List (String × α)) : KeyMap α := empty.insertAll es

/-- The entries of both maps; where both bind a key, the second counts. -/
def union (m other : KeyMap α) : KeyMap α := m.insertAll other.entries

/-- The keys, in order. -/
def keys (m : KeyMap α) : List String := m.entries.map (·.1)

/-- The values, in the order of their keys. -/
def values (m : KeyMap α) : List α := m.entries.map (·.2)

/-- Whether nothing is bound. -/
def isEmpty (m : KeyMap α) : Bool := m.entries.isEmpty

/-- The values changed or dropped one by one. -/
def filterMap (f : α → Option β) (m : KeyMap α) : KeyMap β where
  entries := m.entries.filterMap fun e => (f e.2).map fun v => (e.1, v)
  ordered := by
    refine List.Pairwise.filterMap _ ?_ m.ordered
    intro a b hab c hc d hd
    simp only [Option.map_eq_some_iff] at hc hd
    obtain ⟨_, _, rfl⟩ := hc
    obtain ⟨_, _, rfl⟩ := hd
    exact hab

/-- The values changed one by one. -/
def map (f : α → β) (m : KeyMap α) : KeyMap β where
  entries := m.entries.map fun e => (e.1, f e.2)
  ordered := by
    have := m.ordered
    unfold Entries.Ordered at this ⊢
    exact List.pairwise_map.2 this

@[simp] theorem find?_empty (key : String) : (empty : KeyMap α).find? key = none := rfl

theorem find?_of_isEmpty {m : KeyMap α} (h : m.isEmpty = true) (key : String) :
    m.find? key = none := by
  rw [find?, List.isEmpty_iff.1 h]
  rfl

@[simp] theorem find?_insert (m : KeyMap α) (key other : String) (value : α) :
    (m.insert key value).find? other = if key = other then some value else m.find? other :=
  Entries.find?_insert key other value m.entries

@[simp] theorem find?_erase (m : KeyMap α) (key other : String) :
    (m.erase key).find? other = if key = other then none else m.find? other :=
  Entries.find?_erase key other m.entries

theorem find?_insert_self (m : KeyMap α) (key : String) (value : α) :
    (m.insert key value).find? key = some value := by
  rw [find?_insert, if_pos rfl]

theorem find?_insert_of_ne (m : KeyMap α) {key other : String} (h : key ≠ other) (value : α) :
    (m.insert key value).find? other = m.find? other := by
  rw [find?_insert, if_neg h]

theorem find?_erase_self (m : KeyMap α) (key : String) : (m.erase key).find? key = none := by
  rw [find?_erase, if_pos rfl]

theorem find?_erase_of_ne (m : KeyMap α) {key other : String} (h : key ≠ other) :
    (m.erase key).find? other = m.find? other := by
  rw [find?_erase, if_neg h]

/-- What is found after an insertion was inserted, or it was there before under another key. -/
theorem find?_insert_eq_some_iff {m : KeyMap α} {key other : String} {value x : α} :
    (m.insert key value).find? other = some x ↔
      key = other ∧ value = x ∨ key ≠ other ∧ m.find? other = some x := by
  rw [find?_insert]
  split
  · next same => simp [same]
  · next apart => simp [apart]

theorem find?_erase_eq_some_iff {m : KeyMap α} {key other : String} {x : α} :
    (m.erase key).find? other = some x ↔ key ≠ other ∧ m.find? other = some x := by
  rw [find?_erase]
  split
  · next same => simp [same]
  · next apart => simp [apart]

@[simp] theorem insertAll_nil (m : KeyMap α) : m.insertAll [] = m := rfl

@[simp] theorem insertAll_cons (m : KeyMap α) (e : String × α) (es : List (String × α)) :
    m.insertAll (e :: es) = (m.insert e.1 e.2).insertAll es := rfl

/-- Among entries of different keys, a look-up finds the only one. -/
theorem find?_insertAll (key : String) (es : List (String × α)) :
    ∀ m : KeyMap α, (es.map Prod.fst).Nodup →
      (m.insertAll es).find? key = (Entries.find? key es).or (m.find? key) := by
  induction es with
  | nil => intro m _; rfl
  | cons e es ih =>
    intro m distinct
    obtain ⟨apart, distinct⟩ := List.nodup_cons.1 distinct
    rw [insertAll_cons, ih _ distinct, find?_insert]
    by_cases h : e.1 = key
    · have hnone : Entries.find? key es = none := Entries.find?_eq_none_of_notMem (h ▸ apart)
      simp [Entries.find?, hnone, h]
    · simp [Entries.find?, h]

@[simp] theorem find?_union (m other : KeyMap α) (key : String) :
    (m.union other).find? key = (other.find? key).or (m.find? key) :=
  find?_insertAll key other.entries m (Entries.nodup_keys other.ordered)

@[simp] theorem find?_filterMap (f : α → Option β) (m : KeyMap α) (key : String) :
    (m.filterMap f).find? key = (m.find? key).bind f :=
  Entries.find?_filterMap f key m.ordered

/-- Maps that answer every look-up alike are equal. -/
theorem ext_find? {m n : KeyMap α} (h : ∀ key, m.find? key = n.find? key) : m = n := by
  cases m with
  | mk es he =>
    cases n with
    | mk fs hf =>
      have : es = fs := Entries.ext_find? he hf h
      subst this
      rfl

theorem insertAll_entries_append (es : List (String × α)) :
    ∀ (m : KeyMap α), (∀ a ∈ m.entries, ∀ b ∈ es, a.1 < b.1) → Entries.Ordered es →
      (m.insertAll es).entries = m.entries ++ es := by
  induction es with
  | nil => intro m _ _; simp
  | cons e es ih =>
    intro m hm hes
    have hins : (m.insert e.1 e.2).entries = m.entries ++ [e] := by
      have hbelow : ∀ a ∈ m.entries, a.1 < e.1 := fun a ha => hm a ha e List.mem_cons_self
      show Entries.insert e.1 e.2 m.entries = m.entries ++ [e]
      generalize m.entries = xs at hbelow
      induction xs with
      | nil => rfl
      | cons x xs ihx =>
        have hx : x.1 < e.1 := hbelow x List.mem_cons_self
        have h1 : ¬ e.1 < x.1 := String.lt_asymm hx
        have h2 : e.1 ≠ x.1 := fun h => String.lt_irrefl x.1 (h ▸ hx)
        simp only [Entries.insert, h1, h2, if_false, List.cons_append]
        rw [ihx fun a ha => hbelow a (List.mem_cons_of_mem _ ha)]
    rw [insertAll_cons, ih, hins, List.append_assoc]
    · rfl
    · intro a ha b hb
      rw [hins] at ha
      rcases List.mem_append.1 ha with ha | ha
      · exact hm a ha b (List.mem_cons_of_mem _ hb)
      · rw [List.mem_singleton.1 ha]
        exact (List.pairwise_cons.1 hes).1 b hb
    · exact (List.pairwise_cons.1 hes).2

/-- A map is the map of its own entries. -/
@[simp] theorem ofList_entries (m : KeyMap α) : ofList m.entries = m := by
  have h := insertAll_entries_append m.entries (empty : KeyMap α)
    (fun a ha => absurd ha (by simp [empty])) m.ordered
  cases m with
  | mk es he =>
    have h' : (ofList es).entries = es := by simpa [ofList, empty] using h
    show ofList es = ⟨es, he⟩
    generalize hx : ofList es = x at h'
    cases x
    subst h'
    rfl

end KeyMap

end Orchestration
