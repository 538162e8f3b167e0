import Orchestration.Project.Create

/-!
# What replies add up to

Engines reply without a schema: what cannot be read counts as absent.  Over several replies a
later string takes the place of an earlier one under the same key, and a resource is listed once,
where it first occurs:

* `ToolResult.entry?`, `ToolResult.resources` — what one reply says;
* `latest` — the string under a key that counts after several replies;
* `TestEnvironment.Grown` — an environment after replies;
* `Grown.step`, `Grown.trans` — a reply adds to what was there, and replies add up.
-/

namespace Orchestration

/-! ### One reply -/

/-- The string under a key of one of a reply's maps. -/
def ToolResult.entry? (r : ToolResult) (field key : String) : Option String :=
  ((r.structured.bind Document.ofJson?).bind (Document.document? · field)).bind
    (Document.str? · key)

/-- The strings among the resources that a reply lists. -/
def ToolResult.resources (r : ToolResult) : List String :=
  ((r.structured.bind Document.ofJson?).bind (Document.stringList? · "managedResources")).getD []

theorem Document.stringMap?_find? (d : Document) (field key : String) :
    ((d.stringMap? field).getD .empty).find? key =
      (d.document? field).bind (Document.str? · key) := by
  unfold stringMap?
  cases d.document? field with
  | none => rfl
  | some m => exact KeyMap.find?_filterMap Json.asString? m key

namespace SetupOutput

theorem ofResult_files (r : ToolResult) (key : String) :
    (ofResult r).files.find? key = r.entry? "files" key := by
  unfold ofResult ToolResult.entry?
  rw [Document.stringMap?_find?]
  cases r.structured.bind Document.ofJson? <;> rfl

theorem ofResult_metadata (r : ToolResult) (key : String) :
    (ofResult r).metadata.find? key = r.entry? "metadata" key := by
  unfold ofResult ToolResult.entry?
  rw [Document.stringMap?_find?]
  cases r.structured.bind Document.ofJson? <;> rfl

theorem ofResult_resources (r : ToolResult) : (ofResult r).resources = r.resources := by
  unfold ofResult ToolResult.resources
  cases r.structured.bind Document.ofJson? <;> rfl

end SetupOutput

/-! ### Several replies -/

/-- The string under a key that counts after replies: the one that came last. -/
def latest (field key : String) (replies : List ToolResult) : Option String :=
  replies.reverse.findSome? fun r => r.entry? field key

theorem latest_append (field key : String) (rs ss : List ToolResult) :
    latest field key (rs ++ ss) = (latest field key ss).or (latest field key rs) := by
  simp only [latest, List.reverse_append, List.findSome?_append]

theorem latest_singleton (field key : String) (r : ToolResult) :
    latest field key [r] = r.entry? field key := by
  simp [latest]

/-! ### Resources -/

/-- A list with one more resource, unless it is there already. -/
def listed (resources : List String) (resource : String) : List String :=
  if resources.contains resource then resources else resources ++ [resource]

theorem TestEnvironment.addResource_eq (e : TestEnvironment) (resource : String) :
    e.addResource resource =
      { e with managedResources := listed e.managedResources resource } := by
  unfold addResource listed
  split <;> rfl

theorem foldl_addResource (resources : List String) :
    ∀ e : TestEnvironment, resources.foldl TestEnvironment.addResource e =
      { e with managedResources := resources.foldl listed e.managedResources } := by
  induction resources with
  | nil => intro e; rfl
  | cons r rs ih =>
    intro e
    rw [List.foldl_cons, TestEnvironment.addResource_eq, ih, List.foldl_cons]

/-- A list with one more item at its end, each item being listed once. -/
theorem eraseDups_concat {β : Type} [BEq β] [LawfulBEq β] [DecidableEq β] (xs : List β) (x : β) :
    (xs ++ [x]).eraseDups = if x ∈ xs then xs.eraseDups else xs.eraseDups ++ [x] := by
  rw [List.eraseDups_append]
  by_cases there : x ∈ xs
  · simp [there, List.removeAll]
  · simp [there, List.removeAll, List.eraseDups_cons]

theorem listed_eraseDups (xs : List String) (r : String) :
    listed xs.eraseDups r = (xs ++ [r]).eraseDups := by
  rw [eraseDups_concat, listed]
  simp only [List.contains_eq_mem, List.mem_eraseDups, decide_eq_true_eq]

/-- Listing resources one by one keeps each at its first occurrence. -/
theorem foldl_listed (rs : List String) :
    ∀ xs : List String, rs.foldl listed xs.eraseDups = (xs ++ rs).eraseDups := by
  induction rs with
  | nil => intro xs; rw [List.append_nil]; rfl
  | cons r rs ih =>
    intro xs
    rw [List.foldl_cons, listed_eraseDups, ih, List.append_assoc]
    rfl

/-- What is listed once is listed once. -/
theorem nodup_eraseDups {β : Type} [BEq β] [LawfulBEq β] : ∀ xs : List β, xs.eraseDups.Nodup
  | [] => List.nodup_nil
  | x :: xs => by
    rw [List.eraseDups_cons, List.nodup_cons]
    refine ⟨fun again => ?_, nodup_eraseDups _⟩
    have again := (List.mem_filter.1 (List.mem_eraseDups.1 again)).2
    simp at again
termination_by xs => xs.length
decreasing_by exact Nat.lt_succ_of_le (List.length_filter_le _ _)

/-! ### Environments -/

/-- What an environment has become after replies. -/
structure TestEnvironment.Grown (e : TestEnvironment) (replies : List ToolResult)
    (e' : TestEnvironment) : Prop where
  id : e'.id = e.id
  stage : e'.stage = e.stage
  status : e'.status = e.status
  createdAt : e'.createdAt = e.createdAt
  tmpDir : e'.tmpDir = e.tmpDir
  files : ∀ key, e'.files.find? key = (latest "files" key replies).or (e.files.find? key)
  metadata : ∀ key,
    e'.metadata.find? key = (latest "metadata" key replies).or (e.metadata.find? key)
  resources : ∀ xs : List String, e.managedResources = xs.eraseDups →
    e'.managedResources = (xs ++ replies.flatMap ToolResult.resources).eraseDups

namespace TestEnvironment.Grown

theorem refl (e : TestEnvironment) : e.Grown [] e where
  id := rfl
  stage := rfl
  status := rfl
  createdAt := rfl
  tmpDir := rfl
  files _ := rfl
  metadata _ := rfl
  resources xs h := by rw [h, List.flatMap_nil, List.append_nil]

theorem applyTo_eq (e : TestEnvironment) (output : SetupOutput) (now : Timestamp) :
    output.applyTo now e = { e with
      files := e.files.union output.files
      metadata := e.metadata.union output.metadata
      managedResources := output.resources.foldl listed e.managedResources
      updatedAt := now } := by
  simp only [SetupOutput.applyTo, foldl_addResource]

/-- What a reply adds to an environment. -/
theorem step (e : TestEnvironment) (r : ToolResult) (now : Timestamp) :
    e.Grown [r] ((SetupOutput.ofResult r).applyTo now e) := by
  rw [applyTo_eq]
  refine ⟨rfl, rfl, rfl, rfl, rfl, ?_, ?_, ?_⟩
  · intro key
    rw [latest_singleton, ← SetupOutput.ofResult_files]
    exact KeyMap.find?_union _ _ key
  · intro key
    rw [latest_singleton, ← SetupOutput.ofResult_metadata]
    exact KeyMap.find?_union _ _ key
  · intro xs h
    show (SetupOutput.ofResult r).resources.foldl listed e.managedResources = _
    rw [h, foldl_listed, SetupOutput.ofResult_resources]
    simp only [List.flatMap_cons, List.flatMap_nil, List.append_nil]

/-- Replies add up. -/
theorem trans {e e₁ e₂ : TestEnvironment} {rs ss : List ToolResult} (h : e.Grown rs e₁)
    (h' : e₁.Grown ss e₂) : e.Grown (rs ++ ss) e₂ where
  id := h'.id.trans h.id
  stage := h'.stage.trans h.stage
  status := h'.status.trans h.status
  createdAt := h'.createdAt.trans h.createdAt
  tmpDir := h'.tmpDir.trans h.tmpDir
  files key := by rw [h'.files, h.files, latest_append, Option.or_assoc]
  metadata key := by rw [h'.metadata, h.metadata, latest_append, Option.or_assoc]
  resources xs hx := by
    rw [h'.resources _ (h.resources xs hx), List.flatMap_append, List.append_assoc]

end TestEnvironment.Grown

end Orchestration
