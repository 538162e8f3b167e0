import Orchestration.Document

/-!
# Merging maps

Merging binds every key of one map in another one, so it is known by its look-ups: a key has the
value of the second map where that binds it, and the value of the first one elsewhere.  Maps with
the same look-ups are equal, and the laws of merging are those of taking the first value there is:

* `KeyMap.find?_union_of_contains` — the look-ups of what was put together;
* `KeyMap.union_assoc`, `union_union_self`, `union_empty`, `empty_union` — the laws;
* `Document.carries_and_overrides` — strings that a document carries, and documents merged.
-/

namespace Orchestration

variable {α : Type}

namespace KeyMap

/-- The second map counts where it binds a key. -/
theorem find?_union_of_contains (m other : KeyMap α) (key : String) :
    (m.union other).find? key = if other.contains key then other.find? key else m.find? key := by
  rw [find?_union, contains]
  cases other.find? key <;> rfl

@[simp] theorem union_empty (m : KeyMap α) : m.union empty = m := rfl

@[simp] theorem empty_union (m : KeyMap α) : empty.union m = m := ofList_entries m

theorem union_assoc (a b c : KeyMap α) : (a.union b).union c = a.union (b.union c) := by
  refine ext_find? fun key => ?_
  simp only [find?_union, Option.or_assoc]

/-- What is merged already makes no difference when it is merged again. -/
theorem union_union_self (a b : KeyMap α) : (a.union b).union b = a.union b := by
  refine ext_find? fun key => ?_
  rw [find?_union, find?_union]
  cases b.find? key <;> rfl

end KeyMap

namespace Document

/-- A map of strings that is put into a document under a key is read back as it was, and every
other key keeps what it had.  A document that is merged into another one overrides it key by key;
merging may be grouped in any way, doing it twice is doing it once, and a document without members
adds nothing on either side. -/
theorem carries_and_overrides :
    (∀ (d : Document) (key : String) (m : KeyMap String),
      stringMap? (d.insert key (ofStrings m).toJson) key = some m ∧
      ∀ other, other ≠ key → (d.insert key (ofStrings m).toJson).find? other = d.find? other) ∧
    ∀ a b c : Document,
      (∀ key, (a.union b).find? key = if b.contains key then b.find? key else a.find? key) ∧
      (a.union b).union c = a.union (b.union c) ∧
      (a.union b).union b = a.union b ∧
      a.union .empty = a ∧ KeyMap.empty.union a = a := by
  constructor
  · intro d key m
    exact ⟨stringMap?_ofStrings d key m, fun other h => d.find?_insert_of_ne (Ne.symm h) _⟩
  · intro a b c
    exact ⟨a.find?_union_of_contains b, a.union_assoc b c, a.union_union_self b, a.union_empty,
      KeyMap.empty_union a⟩

/-- The files of an environment come under a key that was bound to something else; a name is
overridden, and the files stay. -/
theorem carries_and_overrides_renamed :
    let d : Document := KeyMap.ofList [("files", .bool false), ("name", .str "cluster")]
    let files : KeyMap String := KeyMap.ofList [("kubeconfig", "/tmp/k"), ("token", "/tmp/t")]
    let named : Document := KeyMap.ofList [("name", .str "registry"), ("port", .ofNat 5000)]
    let e := d.insert "files" (ofStrings files).toJson
    stringMap? e "files" = some files ∧ "name" ≠ "files" ∧ str? e "name" = some "cluster" ∧
      str? (e.union named) "name" = some "registry" ∧
      stringMap? (e.union named) "files" = some files ∧
      (e.union named).union named = e.union named := by
  intro d files named e
  obtain ⟨carries, overrides⟩ := carries_and_overrides
  obtain ⟨readBack, others⟩ := carries d "files" files
  obtain ⟨merged, -, twice, -, -⟩ := overrides e named .empty
  have apart : "name" ≠ "files" := by decide
  have bound : named.contains "name" = true := by decide +kernel
  have free : named.contains "files" = false := by decide +kernel
  refine ⟨readBack, apart, ?_, ?_, ?_, twice⟩
  · rw [str?, others "name" apart]
    decide +kernel
  · rw [str?, merged, if_pos bound]
    decide +kernel
  · rw [stringMap?, document?, merged, free]
    exact readBack

end Document

end Orchestration
