import Orchestration.Proofs.Atomicity
import Orchestration.Proofs.Histories
import Orchestration.Proofs.Records
import Orchestration.Proofs.Runs

/-!
# The history that answers tell

The answers to requests tell the history of the environments: one is recorded when it is returned
by a request to create, it has its outcome when that is returned, and it is gone when a request to
delete it succeeds.  What the store holds is what this history leads to, whatever else failed:

* `StoreView.Records`, `StoreView.Follows` — what is on record whenever the store is read, and
  which changes lead there;
* `StageOrchestrator.changes`, `history` — what answers tell;
* `StageOrchestrator.Spared` — a request makes, removes and releases nothing that the store needs;
* `inMemory_sparedAlong`, `inFile_sparedAlong` — where that is so;
* `act_records`, `run_records` — one request, and a run, lead to what the history says.
-/

namespace Orchestration

variable {σ κ : Type} {sv : Services σ} {v : StoreView σ κ}

/-! ### What is on record -/

namespace StoreView

/-- Whenever the store is read, these environments are on record. -/
def Records (v : StoreView σ κ) (w : World σ) (m : KeyMap TestEnvironment) : Prop :=
  ∀ t, ∃ d, v.decode t (v.kept w) = .ok d ∧ d.environments = m ∧ d.CountsFit

/-- A store reads back what it has written. -/
def Rereads (v : StoreView σ κ) : Prop :=
  ∀ t d c, d.CountsFit → v.decode t (v.encode d c) = .ok d

variable {w w' : World σ} {m m' : KeyMap TestEnvironment}

theorem Records.congr (h : v.Records w m) (same : v.kept w' = v.kept w) : v.Records w' m := by
  intro t
  rw [same]
  exact h t

theorem Records.of_read (h : v.Records w m) {t : Timestamp} {d : StoreDocument}
    (read : v.decode t (v.kept w) = .ok d) : d.environments = m ∧ d.CountsFit := by
  obtain ⟨d', read', rest⟩ := h t
  rw [read] at read'
  rwa [Except.ok.inj read']

/-- Environments that were written are on record. -/
theorem Records.written (hv : v.Rereads) (h : v.Records w m) {t t' : Timestamp}
    {d : StoreDocument} (read : v.decode t (v.kept w) = .ok d)
    (written : v.kept w' =
      v.encode { d with environments := m', lastUpdated := t' } (v.kept w)) :
    v.Records w' m' := by
  have counts : d.CountsFit := (h.of_read read).2
  have fits : { d with environments := m', lastUpdated := t' }.CountsFit := counts
  intro t
  rw [written]
  exact ⟨_, hv t _ _ fits, rfl, fits⟩

/-- From given records, changes lead to what is on record in a world. -/
def Follows (v : StoreView σ κ) (m : KeyMap TestEnvironment) (cs : List EnvChange)
    (w : World σ) : Prop :=
  ∃ m', EnvChange.replay m cs = some m' ∧ v.Records w m'

theorem Records.unchanged (h : v.Records w m) : v.Follows m [] w := ⟨m, rfl, h⟩

theorem Records.changed {c : EnvChange} (step : EnvChange.step? m c = some m')
    (h : v.Records w m') : v.Follows m [c] w :=
  ⟨m', (EnvChange.replay_singleton m c).trans step, h⟩

theorem inMemory_rereads : (inMemory (σ := σ)).Rereads := fun _ _ _ _ => rfl

theorem inFile_rereads (path : String) : (inFile path (σ := σ)).Rereads :=
  fun t _ _ fits => (inFile_decode path t _).trans (StoreDocument.ofText_toText t fits)

end StoreView

namespace StageOrchestrator

/-! ### What answers tell -/

/-- The change that the answer to a request tells of. -/
def changes (o : StageOrchestrator) (sv : Services σ) (w : World σ) : Request → List EnvChange
  | .create stage =>
    match (o.create sv stage w).1 with
    | .ok e => [.insert e]
    | .error _ => []
  | .delete id =>
    match (o.delete sv id w).1 with
    | .ok _ => [.remove id]
    | .error _ => []
  | .recordOutcome id passed =>
    match (recordOutcome sv id passed w).1 with
    | .ok e => [.conclude id (if passed then .passed else .failed) e.updatedAt]
    | .error _ => []
  | .list _ => []

/-- The changes that the answers to a row of requests tell of. -/
def history (o : StageOrchestrator) (sv : Services σ) (w : World σ) :
    List Request → List EnvChange
  | [] => []
  | r :: rest => o.changes sv w r ++ o.history sv (o.act sv w r) rest

/-- A request leaves the store's content alone on the disk: the directory that it makes, and
removes when it fails, and everything that it releases. -/
def Spared (o : StageOrchestrator) (sv : Services σ) (v : StoreView σ κ) (w : World σ) :
    Request → Prop
  | .create stage => ∀ setup, o.setupOf stage = .ok setup →
      ∀ t b, v.Spares w (joinPath o.tmpRoot (testId stage t b))
  | .delete id => ∀ e, (sv.perform (.get id) w).1 = .ok e → ∀ resource ∈ e.managedResources,
      ∀ w' : World σ, w'.cwd = w.cwd → v.kept (release resource w').2 = v.kept w'
  | .recordOutcome .. | .list _ => True

/-- Every request of a row leaves the store's content alone on the disk. -/
def SparedAlong (o : StageOrchestrator) (sv : Services σ) (v : StoreView σ κ) (w : World σ) :
    List Request → Prop
  | [] => True
  | r :: rest => o.Spared sv v w r ∧ o.SparedAlong sv v (o.act sv w r) rest

theorem release_state (resource : String) (w : World σ) :
    (release resource w).2.state = w.state := by
  unfold release removeAny
  split
  · cases w.disk.kind? w.cwd resource with
    | error f => rfl
    | ok entry =>
      cases entry with
      | directory => rfl
      | file content executable =>
        show (w.removeFile resource).2.state = w.state
        unfold World.removeFile
        split <;> rfl
  · rfl

/-- Nothing on the disk concerns a store in memory. -/
theorem inMemory_sparedAlong {sv : Services (MemoryStore × σ)} (o : StageOrchestrator)
    (requests : List Request) (w : World (MemoryStore × σ)) :
    o.SparedAlong sv .inMemory w requests := by
  induction requests generalizing w with
  | nil => trivial
  | cons r rest ih =>
    refine ⟨?_, ih _⟩
    cases r with
    | create stage => exact fun _ _ t b => StoreView.inMemory_spares w _
    | delete id => exact fun e _ resource _ w' _ => congrArg Prod.fst (release_state resource w')
    | recordOutcome id passed => trivial
    | list stage => trivial

/-- What a path leads to, and what is below it, is all that a release removes. -/
theorem sameOutside_release (resource : String) (w : World σ) :
    Disk.SameOutside (Disk.reach (Disk.startOf w.cwd resource) (pathParts resource)) w.disk
      (release resource w).2.disk := by
  unfold release removeAny
  split
  · cases w.disk.kind? w.cwd resource with
    | error f => exact fun _ _ => rfl
    | ok entry =>
      cases entry with
      | directory => exact Disk.sameOutside_removeDir w.disk w.cwd resource
      | file content executable =>
        show Disk.SameOutside _ w.disk (w.removeFile resource).2.disk
        unfold World.removeFile
        cases removed : w.disk.removeFile w.cwd resource with
        | error f => exact fun _ _ => rfl
        | ok d => exact Disk.sameOutside_removeFile removed
  · exact fun _ _ => rfl

/-- The store's file is left alone by the release of every path that does not lead to it or to a
directory above it, when its own path does not go up. -/
theorem inFile_spared_delete {path : String} (plain : ".." ∉ pathParts path) {w : World σ}
    (o : StageOrchestrator) (id : String)
    (outside : ∀ e, (sv.perform (.get id) w).1 = .ok e → ∀ resource ∈ e.managedResources,
      isAbsolutePath resource = true → ¬ w.Under path resource) :
    o.Spared sv (.inFile path) w (.delete id) := by
  intro e found resource held w' here
  by_cases absolute : isAbsolutePath resource = true
  · have away := outside e found resource held absolute
    rw [World.Under, ← here] at away
    have place : (release resource w').2.cwd = w'.cwd := (release_trail resource w').cwd
    show ((release resource w').2.disk.read (release resource w').2.cwd path).toOption =
      (w'.disk.read w'.cwd path).toOption
    rw [place, (sameOutside_release resource w').read w'.cwd plain away]
  · rw [release, if_neg absolute]

/-- A request keeps away from a file: on a disk where everything lies in directories, the directory
that it makes is not above the file, and nothing that it releases is the file or above it. -/
def Avoids (o : StageOrchestrator) (sv : Services σ) (path : String) (w : World σ) :
    Request → Prop
  | .create stage => ∀ setup, o.setupOf stage = .ok setup →
      w.disk.Rooted ∧ ∀ t b, ¬ w.Under path (joinPath o.tmpRoot (testId stage t b))
  | .delete id => ∀ e, (sv.perform (.get id) w).1 = .ok e → ∀ resource ∈ e.managedResources,
      isAbsolutePath resource = true → ¬ w.Under path resource
  | .recordOutcome .. | .list _ => True

/-- Every request of a row keeps away from a file. -/
def AvoidsAlong (o : StageOrchestrator) (sv : Services σ) (path : String) (w : World σ) :
    List Request → Prop
  | [] => True
  | r :: rest => o.Avoids sv path w r ∧ o.AvoidsAlong sv path (o.act sv w r) rest

/-- A store in a file is left alone by requests that keep away from the file. -/
theorem inFile_sparedAlong {path : String} (plain : ".." ∉ pathParts path)
    {o : StageOrchestrator} (requests : List Request) : ∀ {w : World σ},
      o.AvoidsAlong sv path w requests → o.SparedAlong sv (.inFile path) w requests := by
  induction requests with
  | nil => exact fun _ => trivial
  | cons r rest ih =>
    intro w away
    refine ⟨?_, ih away.2⟩
    cases r with
    | create stage =>
      intro setup resolved t b
      obtain ⟨rooted, outside⟩ := away.1 setup resolved
      exact StoreView.inFile_spares plain rooted (outside t b)
    | delete id => exact inFile_spared_delete plain o id away.1
    | recordOutcome id passed => trivial
    | list stage => trivial

/-! ### One request -/

/-- Releasing what concerns the store's content nowhere leaves it alone. -/
theorem Releases.kept {resources : List String} {w w' : World σ} {steps : List TeardownStep}
    (freed : Releases resources w steps w') (spared : ∀ resource ∈ resources, ∀ u : World σ,
      u.cwd = w.cwd → v.kept (release resource u).2 = v.kept u) : v.kept w' = v.kept w := by
  induction freed with
  | nil w => rfl
  | @cons resource rest status steps w w₁ w' first _ ih =>
    have one := spared resource List.mem_cons_self w rfl
    have still := (release_trail resource w).cwd
    rw [first] at one still
    refine (ih fun other hr u place => ?_).trans one
    exact spared other (List.mem_cons_of_mem _ hr) u (place.trans still)

section
variable (hq : sv.Quiet) (hk : sv.Keeps v) (hv : v.Rereads) {w : World σ}
  {m : KeyMap TestEnvironment}
include hq hk hv

theorem create_records (o : StageOrchestrator) (stage : String) (h : v.Records w m)
    (spared : o.Spared sv v w (.create stage)) :
    v.Follows m (o.changes sv w (.create stage)) (o.create sv stage w).2 := by
  cases resolved : o.setupOf stage with
  | error err =>
    have whole : o.create sv stage w = (.error err, w) := by simp only [create, resolved]
    simp only [changes, whole]
    exact h.unchanged
  | ok setup =>
  have ends := create_kept hq hk (spared setup resolved)
  simp only [changes]
  cases created : o.create sv stage w with | mk result w'
  rw [created] at ends
  cases result with
  | error err => exact (h.congr ends).unchanged
  | ok e =>
    obtain ⟨t, d, read, free, written⟩ := ends
    obtain ⟨rfl, -⟩ := h.of_read read
    exact (h.written hv read written).changed (EnvChange.step?_insert.2 ⟨free, rfl⟩)

omit hv in
/-- Before the record is removed, a deletion leaves the store's content alone. -/
theorem delete_removes (o : StageOrchestrator) {id : String} {e : TestEnvironment}
    (blank : blankText id = false) (held : (sv.perform (.get id) w).1 = .ok e)
    (spared : o.Spared sv v w (.delete id)) :
    ∃ steps w', v.kept w' = v.kept w ∧ o.delete sv id w =
      ((sv.perform (.remove e.id) w').1.map fun _ => ⟨e.id, steps⟩,
        (sv.perform (.remove e.id) w').2) := by
  have asked : v.kept (sv.perform (.get id) w).2 = v.kept w := hk.kept_of_reads rfl w
  have here := (hq.perform (.get id) w).cwd
  obtain ⟨said, w₁, released, w₂, spoken, -, freed, torn⟩ :=
    o.deleteEnvironment_eq sv e (sv.perform (.get id) w).2
  refine ⟨o.engineSteps e said ++ released, w₂, ?_, (delete_eq blank held).trans torn⟩
  have place : w₁.cwd = w.cwd := ((spoken.trail hq).cwd).trans here
  calc v.kept w₂ = v.kept w₁ := freed.kept fun r hr u there =>
        spared e held r (List.mem_reverse.1 hr) u (there.trans place)
    _ = v.kept (sv.perform (.get id) w).2 := hk.kept_exchanges spoken
    _ = v.kept w := asked

theorem delete_records (o : StageOrchestrator) (id : String) (filed : EnvChange.Filed m)
    (h : v.Records w m) (spared : o.Spared sv v w (.delete id)) :
    v.Follows m (o.changes sv w (.delete id)) (o.delete sv id w).2 := by
  cases blank : blankText id with
  | true =>
    have whole : o.delete sv id w = (.error (.invalidArgument "test ID is empty"), w) := by
      rw [delete, blank]
      rfl
    simp only [changes, whole]
    exact h.unchanged
  | false =>
  cases found : sv.perform (.get id) w with | mk answer w₀
  cases answer with
  | error err =>
    have whole : o.delete sv id w = (.error err, w₀) := by
      rw [delete, blank, found]
      rfl
    simp only [changes, whole]
    exact (h.congr (hk.kept_of_failed found)).unchanged
  | ok e =>
    have held : (sv.perform (.get id) w).1 = .ok e := congrArg Prod.fst found
    obtain ⟨steps, w₁, stayed, whole⟩ := delete_removes hq hk o blank held spared
    -- what was asked for is what is removed
    obtain ⟨d, read, there⟩ := hk.get_done (Services.perform_ok found)
    obtain ⟨rfl, -⟩ := h.of_read read
    have named : e.id = id := filed id e there
    have h₁ : v.Records w₁ d.environments := h.congr stayed
    cases removed : sv.perform (.remove e.id) w₁ with | mk answer w₂
    simp only [changes, whole, removed]
    cases answer with
    | error err => exact (h₁.congr (hk.kept_of_failed removed)).unchanged
    | ok gone =>
      obtain ⟨d', read', -, written⟩ := hk.remove_done (Services.perform_ok removed)
      have h₂ : v.Records w₁.now.2 d.environments := h₁.congr rfl
      obtain ⟨same, -⟩ := h₂.of_read read'
      rw [same, named] at written
      exact (h₂.written hv read' written).changed (EnvChange.step?_remove.2 ⟨⟨e, there⟩, rfl⟩)

omit hq in
theorem recordOutcome_records (o : StageOrchestrator) (id : String) (passed : Bool)
    (h : v.Records w m) :
    v.Follows m (o.changes sv w (.recordOutcome id passed)) (recordOutcome sv id passed w).2 := by
  cases blank : blankText id with
  | true =>
    have whole : recordOutcome sv id passed w =
        (.error (.invalidArgument "test ID is empty"), w) := by
      rw [recordOutcome, blank]
      rfl
    simp only [changes, whole]
    exact h.unchanged
  | false =>
  have whole : recordOutcome sv id passed w =
      sv.perform (.setStatus id (if passed then .passed else .failed)) w := by
    rw [recordOutcome, blank]
    rfl
  cases answered : sv.perform (.setStatus id (if passed then .passed else .failed)) w with
  | mk answer w'
  simp only [changes, whole, answered]
  cases answer with
  | error err => exact (h.congr (hk.kept_of_failed answered)).unchanged
  | ok e =>
    obtain ⟨d, old, read, found, may, rfl, written⟩ :=
      hk.setStatus_done (Services.perform_ok answered)
    obtain ⟨rfl, -⟩ := h.of_read read
    exact (h.written hv read written).changed
      (EnvChange.step?_conclude.2 ⟨old, found, may, rfl⟩)

/-- One request leads to what its answer tells. -/
theorem act_records (o : StageOrchestrator) (r : Request) (filed : EnvChange.Filed m)
    (h : v.Records w m) (spared : o.Spared sv v w r) :
    v.Follows m (o.changes sv w r) (o.act sv w r) := by
  cases r with
  | create stage => exact create_records hq hk hv o stage h spared
  | delete id => exact delete_records hq hk hv o id filed h spared
  | recordOutcome id passed => exact recordOutcome_records hk hv o id passed h
  | list stage =>
    have reads : (StoreOp.list stage).mutates = false := rfl
    exact (h.congr (hk.kept_of_reads reads w)).unchanged

/-- A run leads to what its answers tell. -/
theorem run_records (o : StageOrchestrator) (requests : List Request)
    (filed : EnvChange.Filed m) (h : v.Records w m) (spared : o.SparedAlong sv v w requests) :
    v.Follows m (o.history sv w requests) (o.run sv requests w) := by
  induction requests generalizing w m with
  | nil => exact h.unchanged
  | cons r rest ih =>
    obtain ⟨m₁, first, h₁⟩ := act_records hq hk hv o r filed h spared.1
    obtain ⟨m', later, h'⟩ := ih (EnvChange.replay_filed filed first) h₁ spared.2
    refine ⟨m', ?_, h'⟩
    rw [history, EnvChange.replay_append, first]
    exact later

end

end StageOrchestrator

end Orchestration
