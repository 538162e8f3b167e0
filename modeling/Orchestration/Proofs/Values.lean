import Orchestration.Proofs.FieldOrder
import Orchestration.Proofs.Spelling

/-!
# Values that keep their shape

A value of a program has the members of its objects in the order of their keys, which no text and
no reader changes.  How deep it nests decides where there is room for it:

* `Json.levels` — how many lists and objects lie inside each other;
* `JsonText.json_ofJson` — a value is read back in the order of its keys, where there is room;
* `Json.canonical_canonical`, `Json.canonical_of_canonical` — putting keys in order is done once;
* `Json.Plain` — values without doubles whose keys are in order, and the ways to build them;
* `decodes_json`, `decodes_present` — such a value is read as it is, null being absent where a
  value may be.
-/

namespace Orchestration

/-- What holds of all listed values holds of the values of their map. -/
theorem KeyMap.forall_ofList {α : Type} {A : α → Prop} {es : List (String × α)}
    (h : ∀ e ∈ es, A e.2) : ∀ e ∈ (KeyMap.ofList es).entries, A e.2 :=
  KeyMap.forall_insertAll es .empty (by simp [KeyMap.empty]) h

namespace Json

/-! ### Levels -/

mutual

/-- How many lists and objects of a value lie inside each other. -/
def levels : Json → Nat
  | .arr items => levelsItems items + 1
  | .obj members => levelsMembers members + 1
  | _ => 0

/-- The most levels of an item. -/
def levelsItems : List Json → Nat
  | [] => 0
  | v :: rest => max (levels v) (levelsItems rest)

/-- The most levels of a member. -/
def levelsMembers : List (String × Json) → Nat
  | [] => 0
  | (_, v) :: rest => max (levels v) (levelsMembers rest)

end

theorem levelsMembers_le_iff {members : List (String × Json)} {n : Nat} :
    levelsMembers members ≤ n ↔ ∀ m ∈ members, m.2.levels ≤ n := by
  induction members with
  | nil => simp [levelsMembers]
  | cons m members ih => rw [levelsMembers, Nat.max_le, ih, List.forall_mem_cons]

theorem levelsItems_le_iff {items : List Json} {n : Nat} :
    levelsItems items ≤ n ↔ ∀ v ∈ items, v.levels ≤ n := by
  induction items with
  | nil => simp [levelsItems]
  | cons v items ih => rw [levelsItems, Nat.max_le, ih, List.forall_mem_cons]

/-- Putting members in order makes them no deeper. -/
theorem levels_ofMembers_le {members : List (String × Json)} {n : Nat}
    (h : ∀ m ∈ members, m.2.levels ≤ n) : (ofMembers members).levels ≤ n + 1 := by
  have hentries : ∀ e ∈ (KeyMap.ofList members).entries, e.2.levels ≤ n :=
    KeyMap.forall_ofList (A := fun v : Json => v.levels ≤ n) h
  exact Nat.succ_le_succ (levelsMembers_le_iff.2 hentries)

mutual

/-- Putting keys in order makes nothing deeper. -/
theorem levels_canonical_le : ∀ v : Json, v.canonical.levels ≤ v.levels
  | .null | .bool _ | .num _ | .str _ => Nat.le_refl _
  | .arr items => Nat.succ_le_succ (levelsItems_canonical_le items)
  | .obj members =>
    levels_ofMembers_le (levelsMembers_le_iff.1 (levelsMembers_canonical_le members))

theorem levelsItems_canonical_le : ∀ items : List Json,
    levelsItems (canonicalItems items) ≤ levelsItems items
  | [] => Nat.le_refl _
  | v :: rest => by
    have hv := levels_canonical_le v
    have hrest := levelsItems_canonical_le rest
    simp only [canonicalItems, levelsItems]
    omega

theorem levelsMembers_canonical_le : ∀ members : List (String × Json),
    levelsMembers (canonicalMembers members) ≤ levelsMembers members
  | [] => Nat.le_refl _
  | (_, v) :: rest => by
    have hv := levels_canonical_le v
    have hrest := levelsMembers_canonical_le rest
    simp only [canonicalMembers, levelsMembers]
    omega

end

/-! ### Keys in order -/

/-- Members in the order of their keys are an object of that order. -/
theorem canonical_ofMembers {members : List (String × Json)}
    (h : ∀ m ∈ members, m.2.Canonical) : (ofMembers members).Canonical :=
  .obj _ (KeyMap.forall_ofList h) (KeyMap.ofList members).ordered

mutual

theorem canonical_canonical : ∀ v : Json, v.canonical.Canonical
  | .null => .null
  | .bool b => .bool b
  | .num n => .num n
  | .str s => .str s
  | .arr items => .arr _ (canonical_canonicalItems items)
  | .obj members => canonical_ofMembers (canonical_canonicalMembers members)

theorem canonical_canonicalItems : ∀ items : List Json, ∀ v ∈ canonicalItems items, v.Canonical
  | [] => List.forall_mem_nil _
  | v :: rest =>
    List.forall_mem_cons.2 ⟨canonical_canonical v, canonical_canonicalItems rest⟩

theorem canonical_canonicalMembers : ∀ members : List (String × Json),
    ∀ m ∈ canonicalMembers members, m.2.Canonical
  | [] => List.forall_mem_nil _
  | (_, v) :: rest =>
    List.forall_mem_cons.2 ⟨canonical_canonical v, canonical_canonicalMembers rest⟩

end

mutual

/-- What is in order stays as it is. -/
theorem canonical_of_canonical : ∀ {v : Json}, v.Canonical → v.canonical = v
  | .null, _ | .bool _, _ | .num _, _ | .str _, _ => rfl
  | .arr items, h => by
    cases h with
    | arr _ hitems => rw [canonical, canonicalItems_of_canonical hitems]
  | .obj members, h => by
    cases h with
    | obj _ hmembers ordered =>
      have hself : KeyMap.ofList members = ⟨members, ordered⟩ :=
        KeyMap.ofList_entries ⟨members, ordered⟩
      rw [canonical, canonicalMembers_of_canonical hmembers, ofMembers, hself]

theorem canonicalItems_of_canonical : ∀ {items : List Json}, (∀ v ∈ items, v.Canonical) →
    canonicalItems items = items
  | [], _ => rfl
  | v :: rest, h => by
    obtain ⟨hv, hrest⟩ := List.forall_mem_cons.1 h
    rw [canonicalItems, canonical_of_canonical hv, canonicalItems_of_canonical hrest]

theorem canonicalMembers_of_canonical : ∀ {members : List (String × Json)},
    (∀ m ∈ members, m.2.Canonical) → canonicalMembers members = members
  | [], _ => rfl
  | (_, v) :: rest, h => by
    obtain ⟨hv, hrest⟩ := List.forall_mem_cons.1 h
    rw [canonicalMembers, canonical_of_canonical hv, canonicalMembers_of_canonical hrest]

end

/-! ### Plain values -/

theorem whole_ofMembers {members : List (String × Json)} (h : ∀ m ∈ members, m.2.Whole) :
    (ofMembers members).Whole :=
  .obj _ (KeyMap.forall_ofList h)

mutual

theorem whole_canonical : ∀ {v : Json}, v.Whole → v.canonical.Whole
  | .null, h | .bool _, h | .num _, h | .str _, h => h
  | .arr items, h => by
    cases h with
    | arr _ hitems => exact .arr _ (whole_canonicalItems hitems)
  | .obj members, h => by
    cases h with
    | obj _ hmembers => exact whole_ofMembers (whole_canonicalMembers hmembers)

theorem whole_canonicalItems : ∀ {items : List Json}, (∀ v ∈ items, v.Whole) →
    ∀ v ∈ canonicalItems items, v.Whole
  | [], _ => List.forall_mem_nil _
  | v :: rest, h => by
    obtain ⟨hv, hrest⟩ := List.forall_mem_cons.1 h
    exact List.forall_mem_cons.2 ⟨whole_canonical hv, whole_canonicalItems hrest⟩

theorem whole_canonicalMembers : ∀ {members : List (String × Json)}, (∀ m ∈ members, m.2.Whole) →
    ∀ m ∈ canonicalMembers members, m.2.Whole
  | [], _ => List.forall_mem_nil _
  | (_, v) :: rest, h => by
    obtain ⟨hv, hrest⟩ := List.forall_mem_cons.1 h
    exact List.forall_mem_cons.2 ⟨whole_canonical hv, whole_canonicalMembers hrest⟩

end

/-- A value without doubles whose objects have their members in the order of their keys, as the
values of a program have. -/
structure Plain (v : Json) : Prop where
  whole : v.Whole
  canonical : v.Canonical

theorem Plain.str (s : String) : (Json.str s).Plain := ⟨.str s, .str s⟩

theorem Plain.ofMembers {members : List (String × Json)} (h : ∀ m ∈ members, m.2.Plain) :
    (ofMembers members).Plain :=
  ⟨whole_ofMembers fun m hm => (h m hm).whole, canonical_ofMembers fun m hm => (h m hm).canonical⟩

theorem Plain.obj {members : List (String × Json)} (h : ∀ m ∈ members, m.2.Plain)
    (ordered : Entries.Ordered members) : (Json.obj members).Plain :=
  ⟨.obj _ fun m hm => (h m hm).whole, .obj _ (fun m hm => (h m hm).canonical) ordered⟩

theorem Plain.ofMap {m : KeyMap Json} (h : ∀ e ∈ m.entries, e.2.Plain) : (ofMap m).Plain :=
  .obj h m.ordered

/-- The value, unless it is null. -/
def present? : Json → Option Json
  | .null => none
  | v => some v

end Json

/-! ### Values read back -/

namespace JsonText

mutual

/-- A value is read back in the order of its keys, where there is room for it. -/
theorem json_ofJson : ∀ (v : Json) {depth : Depth}, depth.Allows v.levels →
    json depth (ofJson v) = .ok v.canonical
  | .null, _, _ | .bool _, _, _ | .num _, _, _ | .str _, _, _ => rfl
  | .arr items, _, h => by
    obtain ⟨inner, henter, hinner⟩ := Depth.enter_of_allows h
    rw [ofJson, json, henter]
    exact bind_eq_ok.2 ⟨_, rfl, bind_eq_ok.2 ⟨_, jsonItems_ofItems items hinner, rfl⟩⟩
  | .obj members, _, h => by
    obtain ⟨inner, henter, hinner⟩ := Depth.enter_of_allows h
    rw [ofJson, json, henter]
    exact bind_eq_ok.2 ⟨_, rfl, bind_eq_ok.2 ⟨_, jsonMembers_ofMembers members hinner, rfl⟩⟩

theorem jsonItems_ofItems : ∀ (items : List Json) {depth : Depth},
    depth.Allows (Json.levelsItems items) →
    jsonItems depth (ofItems items) = .ok (Json.canonicalItems items)
  | [], _, _ => rfl
  | v :: rest, depth, h => by
    have hv := json_ofJson v (h.mono (Nat.le_max_left _ _))
    have hrest := jsonItems_ofItems rest (h.mono (Nat.le_max_right _ _))
    rw [ofItems, jsonItems, hv, hrest]
    rfl

theorem jsonMembers_ofMembers : ∀ (members : List (String × Json)) {depth : Depth},
    depth.Allows (Json.levelsMembers members) →
    jsonMembers depth (ofMembers members) = .ok (Json.canonicalMembers members)
  | [], _, _ => rfl
  | (k, v) :: rest, depth, h => by
    have hv := json_ofJson v (h.mono (Nat.le_max_left _ _))
    have hrest := jsonMembers_ofMembers rest (h.mono (Nat.le_max_right _ _))
    rw [ofMembers, jsonMembers, hv, hrest]
    rfl

end

end JsonText

/-- A value whose keys are in order is read as it is. -/
theorem decodes_json {v : Json} (h : v.Canonical) {levels : Nat} (hlevels : v.levels ≤ levels) :
    Decodes Source.json levels v v := by
  intro depth origin hdepth
  have hread := JsonText.json_ofJson v (hdepth.mono hlevels)
  rw [Json.canonical_of_canonical h] at hread
  show JsonInput.malformed (JsonText.json depth (JsonText.ofJson v)) = _
  rw [hread]
  rfl

/-- Where a value may be absent, null is. -/
theorem decodes_present {v : Json} (h : v.Canonical) {levels : Nat} (hlevels : v.levels ≤ levels) :
    Decodes (readOption Source.json) levels v v.present? := by
  cases v with
  | null => exact fun _ _ _ => rfl
  | _ => exact .option (by simp) (decodes_json h hlevels)

end Orchestration
