import Orchestration.KeyMap
import Orchestration.Project.Stage

/-!
# What validation promises

A configuration is accepted exactly when it follows the rules, and then its tables hold every
definition under its own name: no later one has taken the place of an earlier one, so the order of
the definitions does not matter:

* `KeyMap.find?_ofNamed_iff`, `KeyMap.ofNamed_of_perm` — tables of things with different names;
* `Unseen` — names that come once, and not among those seen before;
* `ProjectConfig.validate_eq_ok_iff` — the rules of validation are those of `ProjectConfig.Valid`;
* `Valid.aliases_find?_iff`, `Valid.stages_find?_iff` — the tables hold the definitions and nothing
  else;
* `ProjectConfig.Answers` — what the tables of a configuration answer to any name and role;
* `validate_exact` — the whole.
-/

namespace Orchestration

/-! ### Tables of named things -/

theorem Entries.find?_eq_some_iff {α : Type} {key : String} {value : α}
    {es : List (String × α)} (distinct : (es.map Prod.fst).Nodup) :
    Entries.find? key es = some value ↔ (key, value) ∈ es := by
  induction es with
  | nil => simp [Entries.find?]
  | cons e es ih =>
    obtain ⟨k, v⟩ := e
    obtain ⟨apart, distinct⟩ := List.nodup_cons.1 distinct
    rw [Entries.find?, List.mem_cons]
    by_cases here : k = key
    · subst here
      have later : (k, value) ∉ es := fun mem => apart (List.mem_map.2 ⟨_, mem, rfl⟩)
      simp [later, eq_comm]
    · simp [here, ih distinct, Ne.symm here]

namespace KeyMap

variable {α : Type} {key : α → String} {xs ys : List α}

/-- A table of things by different names holds those things and nothing else. -/
theorem find?_ofNamed_iff (distinct : (xs.map key).Nodup) {name : String} {x : α} :
    (ofList (xs.map fun x => (key x, x))).find? name = some x ↔ x ∈ xs ∧ key x = name := by
  have keys : ((xs.map fun x => (key x, x)).map Prod.fst).Nodup := by
    rw [List.map_map]
    exact distinct
  rw [ofList, find?_insertAll name _ .empty keys, find?_empty, Option.or_none,
    Entries.find?_eq_some_iff keys, List.mem_map]
  constructor
  · rintro ⟨other, mem, same⟩
    cases same
    exact ⟨mem, rfl⟩
  · rintro ⟨mem, rfl⟩
    exact ⟨x, mem, rfl⟩

/-- The order of things with different names does not matter. -/
theorem ofNamed_of_perm (distinct : (xs.map key).Nodup) (h : ys.Perm xs) :
    ofList (ys.map fun x => (key x, x)) = ofList (xs.map fun x => (key x, x)) := by
  have distinct' : (ys.map key).Nodup := (h.map key).nodup_iff.2 distinct
  refine ext_find? fun name => Option.ext fun x => ?_
  rw [find?_ofNamed_iff distinct', find?_ofNamed_iff distinct, h.mem_iff]

end KeyMap

/-! ### Names that were not seen before -/

/-- Names that come once each, and not among those that were seen before. -/
def Unseen (seen names : List String) : Prop := names.Nodup ∧ ∀ name ∈ names, name ∉ seen

theorem unseen_nil (seen : List String) : Unseen seen [] :=
  ⟨List.nodup_nil, fun _ mem => absurd mem List.not_mem_nil⟩

theorem unseen_cons {seen names : List String} {name : String} :
    Unseen seen (name :: names) ↔ name ∉ seen ∧ Unseen (name :: seen) names := by
  constructor
  · rintro ⟨distinct, new⟩
    obtain ⟨apart, distinct⟩ := List.nodup_cons.1 distinct
    refine ⟨new name List.mem_cons_self, distinct, fun other mem among => ?_⟩
    rcases List.mem_cons.1 among with rfl | before
    · exact apart mem
    · exact new other (List.mem_cons_of_mem _ mem) before
  · rintro ⟨first, distinct, new⟩
    refine ⟨List.nodup_cons.2 ⟨fun mem => new name mem List.mem_cons_self, distinct⟩, ?_⟩
    intro other mem before
    rcases List.mem_cons.1 mem with rfl | mem
    · exact first before
    · exact new other mem (List.mem_cons_of_mem _ before)

theorem unseen_nil_left {names : List String} : Unseen [] names ↔ names.Nodup :=
  ⟨And.left, fun distinct => ⟨distinct, fun _ _ => List.not_mem_nil⟩⟩

namespace ProjectConfig

/-! ### The rules -/

theorem checkEngines_eq_ok_iff (ds : List AliasDefinition) : ∀ seen : List String,
    checkEngines seen ds = .ok () ↔
      (∀ d ∈ ds, blankText d.name = false ∧ d.chain ≠ []) ∧
      Unseen seen (ds.map AliasDefinition.name) := by
  induction ds with
  | nil =>
    exact fun seen => ⟨fun _ => ⟨fun d mem => absurd mem List.not_mem_nil, unseen_nil seen⟩,
      fun _ => rfl⟩
  | cons d rest ih =>
    intro seen
    rw [List.forall_mem_cons, List.map_cons, unseen_cons, checkEngines]
    split
    · next blank => simp [blank]
    · next named =>
      split
      · next again => simp_all
      · next first =>
        split
        · next empty => simp [List.isEmpty_iff.1 empty]
        · next someEntry =>
          rw [ih]
          have here : blankText d.name = false := Bool.eq_false_iff.2 named
          have new : d.name ∉ seen := by simpa using first
          have chained : d.chain ≠ [] := by simpa using someEntry
          exact ⟨fun ⟨rules, unseen⟩ => ⟨⟨⟨here, chained⟩, rules⟩, new, unseen⟩,
            fun ⟨⟨_, rules⟩, _, unseen⟩ => ⟨rules, unseen⟩⟩

theorem checkStages_eq_ok_iff (ss : List StageConfig) : ∀ seen : List String,
    checkStages seen ss = .ok () ↔
      (∀ s ∈ ss, blankText s.name = false) ∧ Unseen seen (ss.map StageConfig.name) := by
  induction ss with
  | nil =>
    exact fun seen => ⟨fun _ => ⟨fun s mem => absurd mem List.not_mem_nil, unseen_nil seen⟩,
      fun _ => rfl⟩
  | cons s rest ih =>
    intro seen
    rw [List.forall_mem_cons, List.map_cons, unseen_cons, checkStages]
    split
    · next blank => simp [blank]
    · next named =>
      split
      · next again => simp_all
      · next first =>
        rw [ih]
        have here : blankText s.name = false := Bool.eq_false_iff.2 named
        have new : s.name ∉ seen := by simpa using first
        exact ⟨fun ⟨rules, unseen⟩ => ⟨⟨here, rules⟩, new, unseen⟩,
          fun ⟨⟨_, rules⟩, _, unseen⟩ => ⟨rules, unseen⟩⟩

/-- A configuration is accepted exactly when it follows the rules. -/
theorem validate_eq_ok_iff (c : ProjectConfig) : c.validate = .ok () ↔ c.Valid := by
  unfold validate
  split
  · next zero =>
    exact ⟨fun h => (nomatch h), fun valid => absurd zero (Nat.ne_of_gt valid.engineTimeout)⟩
  · next engineTimeout =>
    split
    · next zero =>
      exact ⟨fun h => (nomatch h), fun valid => absurd zero (Nat.ne_of_gt valid.handshakeTimeout)⟩
    · next handshakeTimeout =>
      have both : (do checkEngines [] c.engines; checkStages [] c.test) = .ok () ↔
          checkEngines [] c.engines = .ok () ∧ checkStages [] c.test = .ok () := by
        cases checkEngines [] c.engines <;> simp [bind, Except.bind]
      rw [both, checkEngines_eq_ok_iff, checkStages_eq_ok_iff, unseen_nil_left, unseen_nil_left]
      constructor
      · rintro ⟨⟨aliases, aliasOnce⟩, stageNamed, stageOnce⟩
        exact ⟨Nat.pos_of_ne_zero engineTimeout, Nat.pos_of_ne_zero handshakeTimeout,
          fun d mem => (aliases d mem).1, aliasOnce, fun d mem => (aliases d mem).2, stageNamed,
          stageOnce⟩
      · intro valid
        exact ⟨⟨fun d mem => ⟨valid.aliasNamed d mem, valid.aliasChain d mem⟩, valid.aliasOnce⟩,
          valid.stageNamed, valid.stageOnce⟩

/-! ### The tables -/

namespace Valid

variable {c : ProjectConfig}

/-- The registry of aliases holds the definitions of the configuration, and nothing else. -/
theorem aliases_find?_iff (valid : c.Valid) {name : String} {d : AliasDefinition} :
    c.aliases.find? name = some d ↔ d ∈ c.engines ∧ d.name = name :=
  KeyMap.find?_ofNamed_iff valid.aliasOnce

/-- The table of stages holds the stages of the configuration, and nothing else. -/
theorem stages_find?_iff (valid : c.Valid) {name : String} {s : StageConfig} :
    c.stages.find? name = some s ↔ s ∈ c.test ∧ s.name = name :=
  KeyMap.find?_ofNamed_iff valid.stageOnce

/-- Rearranged definitions and stages follow the same rules. -/
theorem rearranged (valid : c.Valid) {engines : List AliasDefinition} {test : List StageConfig}
    (aliases : engines.Perm c.engines) (stages : test.Perm c.test) :
    Valid { c with engines, test } where
  engineTimeout := valid.engineTimeout
  handshakeTimeout := valid.handshakeTimeout
  aliasNamed d mem := valid.aliasNamed d (aliases.mem_iff.1 mem)
  aliasOnce := (aliases.map AliasDefinition.name).nodup_iff.2 valid.aliasOnce
  aliasChain d mem := valid.aliasChain d (aliases.mem_iff.1 mem)
  stageNamed s mem := valid.stageNamed s (stages.mem_iff.1 mem)
  stageOnce := (stages.map StageConfig.name).nodup_iff.2 valid.stageOnce

theorem aliases_of_perm (valid : c.Valid) {engines : List AliasDefinition}
    (h : engines.Perm c.engines) : AliasRegistry.ofDefinitions engines = c.aliases :=
  KeyMap.ofNamed_of_perm valid.aliasOnce h

theorem stages_of_perm (valid : c.Valid) {test : List StageConfig} (h : test.Perm c.test) :
    KeyMap.ofList (test.map fun s => (s.name, s)) = c.stages :=
  KeyMap.ofNamed_of_perm valid.stageOnce h

/-! ### Looking up -/

theorem lookup_of_mem (valid : c.Valid) {d : AliasDefinition} (mem : d ∈ c.engines)
    (role : EngineRole) : c.aliases.lookup d.name role =
      if d.role ≠ role then .error (.wrongRole d.name role d.role)
      else match d.chain.find? fun e => e.engine.isChain with
        | some nested => .error (.nestedAlias d.name nested.engine)
        | none => .ok d.chain := by
  have found : c.aliases.find? d.name = some d := valid.aliases_find?_iff.2 ⟨mem, rfl⟩
  have someEntry : d.chain.isEmpty = false := by simpa using valid.aliasChain d mem
  cases nested : d.chain.find? fun e => e.engine.isChain <;>
    simp only [AliasRegistry.lookup, found, someEntry, nested, Bool.false_eq_true, if_false]

theorem lookup_of_absent (valid : c.Valid) {name : String}
    (absent : name ∉ c.engines.map AliasDefinition.name) (role : EngineRole) :
    c.aliases.lookup name role = .error (.unknownAlias name) := by
  have none : c.aliases.find? name = none := by
    refine Option.eq_none_iff_forall_ne_some.2 fun d found => ?_
    obtain ⟨mem, named⟩ := valid.aliases_find?_iff.1 found
    exact absent (List.mem_map.2 ⟨d, mem, named⟩)
  simp only [AliasRegistry.lookup, none]

end Valid

/-- What the tables of a configuration answer, whatever name is looked up for whatever role. -/
structure Answers (c : ProjectConfig) : Prop where
  /-- An alias stands for its chain, in the order in which it was configured. -/
  chain : ∀ d ∈ c.engines, (∀ e ∈ d.chain, e.engine.isChain = false) →
    c.aliases.lookup d.name d.role = .ok d.chain
  /-- A chain with aliases in it is refused for the first of them. -/
  nested : ∀ d ∈ c.engines, ∀ before e after, d.chain = before ++ e :: after →
    (∀ x ∈ before, x.engine.isChain = false) → e.engine.isChain = true →
    c.aliases.lookup d.name d.role = .error (.nestedAlias d.name e.engine)
  /-- An alias has one role. -/
  wrongRole : ∀ d ∈ c.engines, ∀ role, role ≠ d.role →
    c.aliases.lookup d.name role = .error (.wrongRole d.name role d.role)
  /-- A name that no definition carries is unknown. -/
  unknown : ∀ name, name ∉ c.engines.map AliasDefinition.name → ∀ role,
    c.aliases.lookup name role = .error (.unknownAlias name)
  /-- No alias has an empty chain. -/
  neverEmpty : ∀ name role other, c.aliases.lookup name role ≠ .error (.emptyChain other)
  /-- A stage is found under its name, as it was configured. -/
  stage : ∀ systemTmp, ∀ s ∈ c.test, (StageOrchestrator.ofConfig systemTmp c).stage s.name = .ok s
  /-- The order of definitions and of stages does not matter. -/
  rearranged : ∀ engines test, engines.Perm c.engines → test.Perm c.test →
    let c' : ProjectConfig := { c with engines, test }
    c'.validate = .ok () ∧
    (∀ name role, c'.aliases.lookup name role = c.aliases.lookup name role) ∧
    ∀ systemTmp name,
      (StageOrchestrator.ofConfig systemTmp c').stage name =
        (StageOrchestrator.ofConfig systemTmp c).stage name ∧
      (StageOrchestrator.ofConfig systemTmp c').setupOf name =
        (StageOrchestrator.ofConfig systemTmp c).setupOf name

/-- Every lookup in a configuration that follows the rules gives what is configured, or fails for
the reason that is stated. -/
theorem Valid.answers {c : ProjectConfig} (valid : c.Valid) : c.Answers where
  chain d mem plain := by
    have none : (d.chain.find? fun e => e.engine.isChain) = none :=
      List.find?_eq_none.2 fun e among => by simp [plain e among]
    rw [valid.lookup_of_mem mem, if_neg (by simp), none]
  nested d mem before e after chain plain aliased := by
    have first : (d.chain.find? fun e => e.engine.isChain) = some e :=
      chain ▸ List.find?_eq_some_iff_append.2
        ⟨aliased, before, after, rfl, fun x among => by simp [plain x among]⟩
    rw [valid.lookup_of_mem mem, if_neg (by simp), first]
  wrongRole d mem role other := by rw [valid.lookup_of_mem mem, if_pos (Ne.symm other)]
  unknown name absent role := valid.lookup_of_absent absent role
  neverEmpty name role other := by
    by_cases carried : name ∈ c.engines.map AliasDefinition.name
    · obtain ⟨d, mem, rfl⟩ := List.mem_map.1 carried
      rw [valid.lookup_of_mem mem]
      split
      · exact fun h => by cases h
      · split <;> exact fun h => by cases h
    · rw [valid.lookup_of_absent carried]
      exact fun h => by cases h
  stage systemTmp s mem := by
    have found : (StageOrchestrator.ofConfig systemTmp c).stages.find? s.name = some s :=
      valid.stages_find?_iff.2 ⟨mem, rfl⟩
    simp only [StageOrchestrator.stage, valid.stageNamed s mem, found, Bool.false_eq_true,
      if_false]
  rearranged engines test aliases stages := by
    intro c'
    have sameAliases : c'.aliases = c.aliases := valid.aliases_of_perm aliases
    have sameStages : c'.stages = c.stages := valid.stages_of_perm stages
    have same : ∀ systemTmp, StageOrchestrator.ofConfig systemTmp c' =
        StageOrchestrator.ofConfig systemTmp c := by
      intro systemTmp
      unfold StageOrchestrator.ofConfig
      rw [sameAliases, sameStages]
      rfl
    refine ⟨(validate_eq_ok_iff c').2 (valid.rearranged aliases stages), fun name role => ?_,
      fun systemTmp name => ?_⟩
    · rw [sameAliases]
    · rw [same]
      exact ⟨rfl, rfl⟩

/-! ### The whole -/

/-- Validation accepts a configuration exactly when it follows the rules, and then every lookup
gives what is configured or fails for a stated reason. -/
theorem validate_exact (c : ProjectConfig) :
    (c.validate = .ok () ↔ c.Valid) ∧ (c.validate = .ok () → c.Answers) :=
  ⟨validate_eq_ok_iff c, fun accepted => ((validate_eq_ok_iff c).1 accepted).answers⟩

/-- A project with an alias for environments, one for builders that refers to it, and a stage. -/
def nesting : ProjectConfig where
  name := "nesting"
  artifactStorePath := "artifacts.json"
  tmpRoot := none
  buildDir := "build"
  engineTimeoutSecs := 600
  handshakeTimeoutSecs := 30
  build := []
  test := [⟨"unit", some (.chain "setup")⟩]
  engines := [
    .ofChain "setup" .testenv
      [⟨.package .go "network" none, none⟩, ⟨.package .go "disk" none, none⟩],
    .ofChain "release" .builder [⟨.package .go "compiler" none, none⟩, ⟨.chain "setup", none⟩]]
  rootDir := "."

/-- The first alias is found with its chain, the second one is refused for what is in it. -/
theorem validate_exact_nesting : nesting.validate = .ok () ∧ nesting.Valid ∧
    nesting.aliases.lookup "setup" .testenv =
      .ok [⟨.package .go "network" none, none⟩, ⟨.package .go "disk" none, none⟩] ∧
    nesting.aliases.lookup "release" .builder = .error (.nestedAlias "release" (.chain "setup")) ∧
    nesting.aliases.lookup "setup" .builder = .error (.wrongRole "setup" .builder .testenv) ∧
    nesting.aliases.lookup "deploy" .builder = .error (.unknownAlias "deploy") ∧
    (StageOrchestrator.ofConfig "/tmp" nesting).stage "unit" =
      .ok ⟨"unit", some (.chain "setup")⟩ := by
  obtain ⟨rules, tables⟩ := validate_exact nesting
  have accepted : nesting.validate = .ok () := by rfl
  have answers := tables accepted
  have setup := nesting.engines.head_mem (by simp [nesting])
  have release := nesting.engines.getLast_mem (by simp [nesting])
  refine ⟨accepted, rules.1 accepted, ?_, ?_, ?_, ?_, ?_⟩
  · exact answers.chain _ setup (by decide)
  · exact answers.nested _ release [⟨.package .go "compiler" none, none⟩] ⟨.chain "setup", none⟩ []
      rfl (by decide) rfl
  · exact answers.wrongRole _ setup .builder (by decide)
  · exact answers.unknown "deploy" (by decide) .builder
  · exact answers.stage "/tmp" ⟨"unit", some (.chain "setup")⟩ (by simp [nesting])

end ProjectConfig

end Orchestration
