import Orchestration.Project.Build
import Orchestration.Proofs.References
import Orchestration.Proofs.Validation

/-!
# Referring to configured aliases

Validation asks of the name of an alias only that it is not blank, and that it comes once.  A
reference has less room: what follows its scheme is one segment without a version.  So an alias of
an accepted configuration can be referred to exactly when its name holds neither a slash nor what
starts a version, and then every stage and build of its role gets its chain:

* `EngineReference.parse_eq_chain_iff`, `parse_alias_eq_error` — the texts that refer to a chain;
* `ProjectConfig.Leads` — what stages and builds get that refer to an alias;
* `ProjectConfig.referable_iff` — the aliases of an accepted configuration;
* `ProjectConfig.slashed_unreferable` — one of them that no text refers to.
-/

namespace Orchestration

/-! ### References to chains -/

namespace EngineReference

/-- One text at most refers to a chain. -/
theorem parse_eq_chain_iff {s name : String} :
    parse s = .ok (.chain name) ↔ s = "alias://" ++ name ∧ IsChainName name := by
  rw [parse_eq_ok_iff]
  constructor
  · intro spelled
    cases spelled with
    | chain named => exact ⟨rfl, named⟩
  · rintro ⟨rfl, named⟩
    exact .chain named

theorem parse_alias_eq_error {name : String} (h : ¬ IsChainName name) :
    parse ("alias://" ++ name) = .error (.malformed ("alias://" ++ name) .badAliasName) := by
  have refused : parseChain name.toList = .error .badAliasName := by
    cases read : parseChain name.toList with
    | ok r =>
      rw [parseChain_eq_ok_iff, String.ofList_toList] at read
      exact absurd read.1 h
    | error fault =>
      -- the reader of names has one fault
      unfold parseChain at read
      split at read
      · exact read.symm
      · cases read
  rw [parse_of_chain name.toList (by simp), refused]
  rfl

end EngineReference

open EngineReference

theorem ne_empty_of_blankText {s : String} (h : blankText s = false) : s ≠ "" := by
  rintro rfl
  exact absurd h (by decide)

namespace ProjectConfig

/-! ### What users of an alias get -/

/-- What is given to the stages and the builds that refer to an alias of their role. -/
structure Leads (c : ProjectConfig) (d : AliasDefinition)
    (answer : Except OrchestratorError (List ChainEntry)) : Prop where
  stages : d.role = .testenv → ∀ systemTmp, ∀ s ∈ c.test, s.testenv = some (.chain d.name) →
    (StageOrchestrator.ofConfig systemTmp c).setupOf s.name = answer.map Setup.chain
  builds : d.role = .builder → ∀ systemTmp, ∀ b ∈ c.build, b.engine = .chain d.name →
    (BuildCoordinator.ofConfig systemTmp c).builders b.engine = answer

namespace Valid

variable {c : ProjectConfig} (valid : c.Valid) {d : AliasDefinition}
include valid

/-- Stages and builds get what the table of aliases answers. -/
theorem leads {answer : Except ResolveError (List ChainEntry)}
    (found : c.aliases.lookup d.name d.role = answer) : c.Leads d (answer.mapError .ofResolve) where
  stages role systemTmp s mem refers := by
    rw [role] at found
    have here : (StageOrchestrator.ofConfig systemTmp c).aliases.lookup d.name .testenv = answer :=
      found
    rw [StageOrchestrator.setupOf, valid.answers.stage systemTmp s mem]
    show (StageOrchestrator.ofConfig systemTmp c).setup s = _
    simp only [StageOrchestrator.setup, refers, here]
    cases answer <;> rfl
  builds role systemTmp b mem refers := by
    rw [role] at found
    rw [refers, ← found]
    rfl

/-- An accepted name lacks nothing but two characters to be the name of a chain. -/
theorem isChainName_iff (mem : d ∈ c.engines) :
    IsChainName d.name ↔ '/' ∉ d.name.toList ∧ '@' ∉ d.name.toList :=
  and_iff_right (ne_empty_of_blankText (valid.aliasNamed d mem))

end Valid

/-! ### The whole -/

/-- In a configuration that is accepted, an alias can be referred to exactly when its name holds
neither a slash nor an `@`, by the text that is its name behind the scheme; with one of the two in
it that text is refused.  Stages and builds that refer to an alias of their role get its chain,
unless there are aliases in the chain: then it is refused for the first of them. -/
theorem referable_iff {c : ProjectConfig} (accepted : c.validate = .ok ()) {d : AliasDefinition}
    (mem : d ∈ c.engines) :
    (∀ s, parse s = .ok (.chain d.name) ↔
      s = "alias://" ++ d.name ∧ '/' ∉ d.name.toList ∧ '@' ∉ d.name.toList) ∧
    ('/' ∈ d.name.toList ∨ '@' ∈ d.name.toList →
      parse ("alias://" ++ d.name) = .error (.malformed ("alias://" ++ d.name) .badAliasName)) ∧
    ((∀ e ∈ d.chain, e.engine.isChain = false) → c.Leads d (.ok d.chain)) ∧
    ∀ before e after, d.chain = before ++ e :: after →
      (∀ x ∈ before, x.engine.isChain = false) → e.engine.isChain = true →
      c.Leads d (.error (.ofResolve (.nestedAlias d.name e.engine))) := by
  have valid : c.Valid := (validate_eq_ok_iff c).1 accepted
  refine ⟨fun s => ?_, fun unnamed => ?_, fun plain => ?_, ?_⟩
  · rw [parse_eq_chain_iff, valid.isChainName_iff mem]
  · refine parse_alias_eq_error fun named => ?_
    rcases unnamed with slash | version
    · exact named.2.1 slash
    · exact named.2.2 version
  · exact valid.leads (valid.answers.chain d mem plain)
  · intro before e after chain plain aliased
    exact valid.leads (valid.answers.nested d mem before e after chain plain aliased)

/-- The stage of a project gets the chain of one alias, and a build that refers to the other one
is refused for what is in it. -/
theorem referable_iff_nesting :
    let c : ProjectConfig := { nesting with
      build := [⟨"api", "./cmd/api", "./build/bin", .chain "release", .empty⟩] }
    c.validate = .ok () ∧
      parse "alias://setup" = .ok (.chain "setup") ∧
      (StageOrchestrator.ofConfig "/tmp" c).setupOf "unit" =
        .ok (.chain [⟨.package .go "network" none, none⟩, ⟨.package .go "disk" none, none⟩]) ∧
      parse "alias://release" = .ok (.chain "release") ∧
      (BuildCoordinator.ofConfig "/tmp" c).builders (.chain "release") =
        .error (.ofResolve (.nestedAlias "release" (.chain "setup"))) := by
  intro c
  have accepted : c.validate = .ok () := by rfl
  have setup := c.engines.head_mem (by simp [c, nesting])
  have release := c.engines.getLast_mem (by simp [c, nesting])
  obtain ⟨setupRead, -, setupLeads, -⟩ := referable_iff accepted setup
  obtain ⟨releaseRead, -, -, releaseRefused⟩ := referable_iff accepted release
  refine ⟨accepted, (setupRead _).2 (by decide), ?_, (releaseRead _).2 (by decide), ?_⟩
  · exact (setupLeads (by decide)).stages rfl "/tmp" ⟨"unit", some (.chain "setup")⟩
      (by simp [c, nesting]) rfl
  · have refused := releaseRefused [⟨.package .go "compiler" none, none⟩] ⟨.chain "setup", none⟩ []
      rfl (by decide) rfl
    exact refused.builds rfl "/tmp" ⟨"api", "./cmd/api", "./build/bin", .chain "release", .empty⟩
      (by simp [c]) rfl

/-- An alias with a slash in its name is accepted, and nothing refers to it. -/
theorem slashed_unreferable :
    let d := AliasDefinition.ofChain "team/env" .testenv [⟨.package .go "kind" none, none⟩]
    let c : ProjectConfig := { nesting with engines := [d], test := [⟨"unit", none⟩] }
    c.validate = .ok () ∧ d ∈ c.engines ∧
      c.aliases.lookup "team/env" .testenv = .ok d.chain ∧
      parse ("alias://" ++ d.name) = .error (.malformed "alias://team/env" .badAliasName) ∧
      ∀ s, parse s ≠ .ok (.chain d.name) := by
  intro d c
  have unnamed : ¬ IsChainName d.name := fun named => named.2.1 (by decide)
  exact ⟨by decide +kernel, List.mem_singleton.2 rfl, by rfl, parse_alias_eq_error unnamed,
    fun s read => unnamed (parse_eq_chain_iff.1 read).2⟩

end ProjectConfig

end Orchestration
