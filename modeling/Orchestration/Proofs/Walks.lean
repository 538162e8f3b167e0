import Orchestration.Disk.Basic
import Orchestration.Proofs.Paths

/-!
# Ways through a disk

A path leads through directories, so what else lies on a disk does not matter to it:

* `entry?_put_same`, `entry?_put_of_ne` — what lies on a disk after an entry was put there;
* `walk_append`, `walk_written` — a way in two parts, and a way without empty parts;
* `reach`, `onWay` — where a way leads, and what it leads through, when its parts are read;
* `walk_mono`, `walk_congr` — a way stays where what is on it stays;
* `walk_reach`, `onWay_above` — a way leads where its parts lead, and deeper and deeper unless it
  goes up.
-/

namespace Orchestration

namespace Disk

/-! ### Places -/

@[simp] theorem entry?_put_same (d : Disk) {place : Place} (entry : DiskEntry) (h : place ≠ []) :
    entry? (d.put place entry) place = some entry := by
  have named : place.isEmpty = false := by simpa using h
  have gone : (d.entries.filter (fun e => e.1 != place)).find? (fun e => e.1 == place) = none := by
    refine List.find?_eq_none.2 fun e he => ?_
    have away := (List.mem_filter.1 he).2
    simpa using away
  unfold entry? put
  simp only [named, Bool.false_eq_true, if_false, List.find?_append, gone, Option.none_or,
    List.find?_cons_of_pos, beq_self_eq_true, Option.map_some]

theorem entry?_put_of_ne (d : Disk) {place other : Place} (entry : DiskEntry)
    (h : other ≠ place) : entry? (d.put place entry) other = d.entry? other := by
  unfold entry? put
  by_cases named : other.isEmpty
  · simp only [named, if_true]
  have away : (place == other) = false := by simpa using Ne.symm h
  have same : (d.entries.filter (fun e => e.1 != place)).find? (fun e => e.1 == other) =
      d.entries.find? (fun e => e.1 == other) := by
    rw [List.find?_filter]
    refine congrArg (List.find? · d.entries) (funext fun e => ?_)
    by_cases he : e.1 = other
    · simp [he, h]
    · simp [he]
  simp only [named, Bool.false_eq_true, if_false, List.find?_append, same, List.find?_cons, away,
    List.find?_nil, Option.or_none]

/-! ### Ways -/

theorem walk_cons {d : Disk} {here place : Place} {part : String} {rest : List String}
    (h : d.walk here (part :: rest) = .ok place) : d.entry? here = some .directory := by
  rw [walk] at h
  cases lies : d.entry? here with
  | none => rw [lies] at h; cases h
  | some entry =>
    cases entry with
    | directory => rfl
    | file => rw [lies] at h; cases h

theorem walk_of_ne_nil {d : Disk} {here place : Place} {parts : List String} (hne : parts ≠ [])
    (h : d.walk here parts = .ok place) : d.entry? here = some .directory := by
  cases parts with
  | nil => exact absurd rfl hne
  | cons part rest => exact walk_cons h

/-- Where the first part of a way leads when its parts are read, directories or not. -/
def stepTo (here : Place) (part : String) : Place :=
  if isIdlePart part then here
  else if part == ".." then here.dropLast
  else here ++ [part]

/-- Where a way leads when its parts are read, directories or not. -/
def reach (here : Place) (parts : List String) : Place := parts.foldl stepTo here

/-- The places in which the parts of a way are looked up. -/
def onWay : Place → List String → List Place
  | _, [] => []
  | here, part :: rest => here :: onWay (stepTo here part) rest

/-- A part that is followed in a directory is a dot or a name that is not too long. -/
def isFollowed (part : String) : Bool :=
  isIdlePart part || part == ".." || !(decide (maxNameBytes < part.utf8ByteSize))

/-- One step of a way. -/
theorem walk_step (d : Disk) (here : Place) (part : String) (rest : List String)
    (h : d.entry? here = some .directory) :
    d.walk here (part :: rest) =
      if isFollowed part then d.walk (stepTo here part) rest else .error .nameTooLong := by
  rw [walk, h]
  simp only [isFollowed, stepTo, isIdlePart]
  split <;> rename_i idle
  · simp [idle]
  · split <;> rename_i up
    · simp [idle, up]
    · split <;> rename_i long <;> simp [idle, up, long]

theorem walk_append (d : Disk) (here : Place) (parts rest : List String) :
    d.walk here (parts ++ rest) = (d.walk here parts).bind fun place => d.walk place rest := by
  induction parts generalizing here with
  | nil => rfl
  | cons part parts ih =>
    cases lies : d.entry? here with
    | none => simp only [List.cons_append, walk, lies]; rfl
    | some entry =>
      cases entry with
      | file => simp only [List.cons_append, walk, lies]; rfl
      | directory =>
        rw [List.cons_append, walk_step d here part _ lies, walk_step d here part _ lies]
        split
        · exact ih _
        · rfl

/-- A way that ends in a directory leads there without its empty parts, and with them. -/
theorem walk_written {d : Disk} {here place : Place} {parts : List String}
    (h : d.entry? place = some .directory) :
    d.walk here parts = .ok place ↔
      d.walk here (parts.filter (· != "")) = .ok place ∧ d.entry? here = some .directory := by
  induction parts generalizing here with
  | nil =>
    refine ⟨fun hw => ?_, fun hw => hw.1⟩
    cases hw
    exact ⟨rfl, h⟩
  | cons part rest ih =>
    by_cases empty : part = ""
    · subst empty
      refine ⟨fun hw => ?_, fun ⟨hw, dir⟩ => ?_⟩
      · have dir := walk_cons hw
        rw [walk_step d here _ rest dir] at hw
        exact ⟨(ih.1 hw).1, dir⟩
      · rw [walk_step d here _ rest dir]
        exact ih.2 ⟨hw, dir⟩
    · -- a part that is kept leads to a directory, or what comes after it would have no place
      have kept : (part :: rest).filter (· != "") = part :: rest.filter (· != "") :=
        List.filter_cons_of_pos (by simpa using empty)
      rw [kept]
      refine ⟨fun hw => ?_, fun ⟨hw, dir⟩ => ?_⟩
      · have dir := walk_cons hw
        rw [walk_step d here part _ dir] at hw ⊢
        split at hw
        · next followed => exact ⟨by rw [if_pos followed]; exact (ih.1 hw).1, dir⟩
        · cases hw
      · rw [walk_step d here part _ dir] at hw ⊢
        split at hw
        · next followed =>
          rw [if_pos followed]
          refine ih.2 ⟨hw, ?_⟩
          by_cases last : rest.filter (· != "") = []
          · rw [last] at hw
            cases hw
            exact h
          · exact walk_of_ne_nil last hw
        · cases hw

/-- A way stays where the directories on it stay. -/
theorem walk_mono {d d' : Disk} {here place : Place} {parts : List String}
    (dirs : ∀ p ∈ onWay here parts, d.entry? p = some .directory → d'.entry? p = some .directory)
    (h : d.walk here parts = .ok place) : d'.walk here parts = .ok place := by
  induction parts generalizing here with
  | nil => exact h
  | cons part rest ih =>
    have dir := walk_cons h
    rw [walk_step d here part rest dir] at h
    rw [walk_step d' here part rest (dirs here List.mem_cons_self dir)]
    split at h
    · next followed =>
      rw [if_pos followed]
      exact ih (fun p hp => dirs p (List.mem_cons_of_mem _ hp)) h
    · cases h

/-- A way stays where what is on it stays. -/
theorem walk_congr {d d' : Disk} {here : Place} {parts : List String}
    (same : ∀ p ∈ onWay here parts, d'.entry? p = d.entry? p) :
    d'.walk here parts = d.walk here parts := by
  induction parts generalizing here with
  | nil => rfl
  | cons part rest ih =>
    have now := same here List.mem_cons_self
    cases lies : d.entry? here with
    | none => rw [walk, walk, now, lies]
    | some entry =>
      cases entry with
      | file => rw [walk, walk, now, lies]
      | directory =>
        rw [walk_step d here part rest lies, walk_step d' here part rest (now.trans lies)]
        split
        · exact ih fun p hp => same p (List.mem_cons_of_mem _ hp)
        · rfl

/-- A way leads where its parts lead. -/
theorem walk_reach {d : Disk} {here place : Place} {parts : List String}
    (h : d.walk here parts = .ok place) : reach here parts = place := by
  induction parts generalizing here with
  | nil => exact Except.ok.inj h
  | cons part rest ih =>
    rw [walk_step d here part rest (walk_cons h)] at h
    split at h
    · exact ih h
    · cases h

theorem reach_written (here : Place) (parts : List String) :
    reach here (parts.filter (· != "")) = reach here parts := by
  induction parts generalizing here with
  | nil => rfl
  | cons part rest ih =>
    by_cases empty : part = ""
    · subst empty
      exact ih here
    · rw [List.filter_cons_of_pos (by simpa using empty)]
      exact ih _

/-- A way without ways up goes deeper and deeper. -/
theorem prefix_reach {here : Place} {parts : List String} (plain : ".." ∉ parts) :
    here <+: reach here parts := by
  induction parts generalizing here with
  | nil => exact List.prefix_rfl
  | cons part rest ih =>
    have deeper : here <+: stepTo here part := by
      have up : ¬ (part == "..") = true := fun he => plain (by simp [beq_iff_eq.1 he])
      by_cases idle : isIdlePart part = true
      · exact ⟨[], by rw [stepTo, if_pos idle, List.append_nil]⟩
      · exact ⟨[part], by rw [stepTo, if_neg idle, if_neg up]⟩
    exact deeper.trans (ih fun hm => plain (List.mem_cons_of_mem _ hm))

theorem onWay_above {here : Place} {parts : List String} (plain : ".." ∉ parts) :
    ∀ p ∈ onWay here parts, p <+: reach here parts := by
  induction parts generalizing here with
  | nil => exact fun p hp => absurd hp List.not_mem_nil
  | cons part rest ih =>
    intro p hp
    rcases List.mem_cons.1 hp with rfl | hp
    · exact prefix_reach plain
    · exact ih (fun hm => plain (List.mem_cons_of_mem _ hm)) p hp

/-- A last name that is no dots leads below. -/
theorem stepTo_lastName {path name : String} (last : (writtenParts path).getLast? = some name)
    (dot : name ≠ ".") (up : name ≠ "..") (here : Place) : stepTo here name = here ++ [name] := by
  have named : ¬ isIdlePart name = true := by
    simp [isIdlePart, parts_of_lastName_ne_empty last, dot]
  rw [stepTo, if_neg named, if_neg (by simpa using up)]

theorem entry?_put_directory {d : Disk} {place p : Place} (entry : DiskEntry)
    (free : d.entry? place ≠ some .directory) (h : d.entry? p = some .directory) :
    entry? (d.put place entry) p = some .directory := by
  have other : p ≠ place := fun same => free (same ▸ h)
  rw [entry?_put_of_ne d entry other]
  exact h

end Disk

end Orchestration
