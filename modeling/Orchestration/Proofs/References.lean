import Mathlib.Data.List.TakeWhile
import Orchestration.Engine.Reference
import Orchestration.Proofs.Fields
import Orchestration.Proofs.Paths

/-!
# The grammar of engine references

A text is read as a reference exactly when it spells one, and the reference has the parts that
the text was put together from.  Slashes behind a path say nothing; apart from them a reference
has one spelling, which is the one it is displayed with:

* `cutFirst?_append`, `cutLast?_eq_some_iff`, `dropSlashes_append` — what cutting leaves of a text
  that was put together;
* `IsPackagePath`, `IsChainName`, `IsVersion` — the parts of references;
* `EngineReference.Spells` — the grammar, `EngineReference.WellFormed` — what it spells;
* `parseChain_eq_ok_iff`, `parsePath_eq_ok_iff`, `parsePackage_eq_ok_iff`, `parse_eq_ok_iff` — each
  reader accepts what its part of the grammar spells;
* `parse_grammar` — the whole.
-/

namespace Orchestration

/-! ### Cutting -/

/-- A text is cut at the first word of its kind if nothing before it begins like the word. -/
theorem cutFirst?_append {c : Char} {before : List Char} (h : c ∉ before)
    (word rest : List Char) :
    cutFirst? (c :: word) (before ++ (c :: word ++ rest)) = some (before, rest) := by
  induction before with
  | nil =>
    have strips : stripStart? (c :: word) (c :: (word ++ rest)) = some rest :=
      (stripStart?_eq_some_iff _ _ _).2 rfl
    rw [List.nil_append, List.cons_append, cutFirst?, strips]
  | cons b before ih =>
    have other : c ≠ b := fun same => h (same ▸ List.mem_cons_self)
    rw [List.cons_append, cutFirst?, stripStart?, if_neg other,
      ih fun mem => h (List.mem_cons_of_mem _ mem)]
    rfl

theorem eq_of_cutFirst? {word : List Char} : ∀ {cs before after : List Char},
    cutFirst? word cs = some (before, after) → cs = before ++ (word ++ after)
  | [], before, after, h => by
    rw [cutFirst?] at h
    split at h
    · next blank =>
      cases h
      rw [List.isEmpty_iff.1 blank]
      rfl
    · cases h
  | c :: rest, before, after, h => by
    rw [cutFirst?] at h
    split at h
    · next strips =>
      cases h
      exact (stripStart?_eq_some_iff word _ _).1 strips
    · obtain ⟨⟨front, behind⟩, cut, same⟩ := Option.map_eq_some_iff.1 h
      cases same
      exact congrArg (c :: ·) (eq_of_cutFirst? cut)

theorem cutLast?_eq_none_iff {sep : Char} (cs : List Char) : cutLast? sep cs = none ↔ sep ∉ cs := by
  induction cs with
  | nil => simp [cutLast?]
  | cons c rest ih =>
    rw [cutLast?, List.mem_cons, not_or]
    cases cut : cutLast? sep rest with
    | some parts =>
      refine ⟨fun h => (nomatch h), fun absent => ?_⟩
      rw [ih.2 absent.2] at cut
      cases cut
    | none =>
      have absent := ih.1 cut
      by_cases same : c = sep
      · simp [same]
      · simp [same, absent, Ne.symm same]

theorem cutLast?_append {sep : Char} {after : List Char} (h : sep ∉ after) (before : List Char) :
    cutLast? sep (before ++ sep :: after) = some (before, after) := by
  induction before with
  | nil => rw [List.nil_append, cutLast?, (cutLast?_eq_none_iff after).2 h]; exact if_pos rfl
  | cons b before ih => rw [List.cons_append, cutLast?, ih]

/-- A text is cut where it was put together if the character does not come again. -/
theorem cutLast?_eq_some_iff {sep : Char} {cs before after : List Char} :
    cutLast? sep cs = some (before, after) ↔ cs = before ++ sep :: after ∧ sep ∉ after := by
  refine ⟨fun h => ?_, fun ⟨text, last⟩ => text ▸ cutLast?_append last before⟩
  induction cs generalizing before with
  | nil => cases h
  | cons c rest ih =>
    rw [cutLast?] at h
    cases cut : cutLast? sep rest with
    | some parts =>
      rw [cut] at h
      cases h
      obtain ⟨whole, last⟩ := ih cut
      exact ⟨congrArg (c :: ·) whole, last⟩
    | none =>
      rw [cut] at h
      dsimp only at h
      split at h
      · next same =>
        cases h
        exact ⟨same ▸ rfl, (cutLast?_eq_none_iff _).1 cut⟩
      · cases h

/-- The text without slashes at its end, as it is read. -/
theorem dropSlashes_append {cs : List Char} (h : cs.getLast? ≠ some '/') (slashes : Nat) :
    ((cs ++ List.replicate slashes '/').reverse.dropWhile (· == '/')).reverse = cs := by
  rw [List.reverse_append, List.reverse_replicate,
    List.dropWhile_append_of_pos fun c mem => by simp [List.eq_of_mem_replicate mem]]
  have kept : cs.reverse.dropWhile (· == '/') = cs.reverse := by
    cases rev : cs.reverse with
    | nil => rfl
    | cons c rest =>
      have last : cs.getLast? = some c := by rw [List.getLast?_eq_head?_reverse, rev]; rfl
      rw [List.dropWhile_cons_of_neg]
      intro slash
      exact h (beq_iff_eq.1 slash ▸ last)
  rw [kept, List.reverse_reverse]

theorem not_mem_append_slashes {c : Char} {cs : List Char} (h : c ∉ cs) (other : c ≠ '/')
    (slashes : Nat) : c ∉ cs ++ List.replicate slashes '/' := by
  intro mem
  rcases List.mem_append.1 mem with mem | mem
  · exact h mem
  · exact other (List.eq_of_mem_replicate mem)

theorem eq_dropSlashes_append (cs : List Char) : ∃ slashes,
    cs = (cs.reverse.dropWhile (· == '/')).reverse ++ List.replicate slashes '/' := by
  have whole := List.takeWhile_append_dropWhile (p := (· == '/')) (l := cs.reverse)
  have dropped : cs.reverse.takeWhile (· == '/') =
      List.replicate (cs.reverse.takeWhile (· == '/')).length '/' := by
    refine List.eq_replicate_iff.2 ⟨rfl, fun c mem => ?_⟩
    simpa using List.mem_takeWhile_imp mem
  refine ⟨(cs.reverse.takeWhile (· == '/')).length, ?_⟩
  have turned := congrArg List.reverse whole
  rw [List.reverse_append, List.reverse_reverse, dropped, List.reverse_replicate] at turned
  exact turned.symm

/-! ### The parts of a reference -/

/-- The name of a chain: not empty, without slashes and without what starts a version. -/
def IsChainName (name : String) : Prop := name ≠ "" ∧ '/' ∉ name.toList ∧ '@' ∉ name.toList

/-- A version: not empty, and without what would start another one. -/
def IsVersion (version : String) : Prop := version ≠ "" ∧ '@' ∉ version.toList

/-- The path of a package: one segment or more between slashes, none of them empty. -/
def IsPackagePath (path : String) : Prop :=
  ∃ segments : List String, segments ≠ [] ∧
    (∀ segment ∈ segments, segment ≠ "" ∧ '/' ∉ segment.toList) ∧
    path.toList = joinWith '/' (segments.map String.toList)

/-- The parts of a package's path are its segments. -/
theorem isPackagePath_iff (path : String) : IsPackagePath path ↔ "" ∉ pathParts path := by
  constructor
  · rintro ⟨segments, hne, each, text⟩
    have parts : pathParts path = segments := by
      have same : path = String.ofList (joinWith '/' (segments.map String.toList)) := by
        rw [← text, String.ofList_toList]
      rw [same]
      exact pathParts_joined hne fun segment mem => (each segment mem).2
    rw [parts]
    exact fun mem => (each "" mem).1 rfl
  · intro full
    exact ⟨pathParts path, pathParts_ne_nil path,
      fun part mem => ⟨fun blank => full (blank ▸ mem), pathParts_no_slash mem⟩,
      (joinWith_pathParts path).symm⟩

theorem IsPackagePath.ne_empty {path : String} (h : IsPackagePath path) : path ≠ "" := by
  rintro rfl
  exact (isPackagePath_iff "").1 h (by decide)

theorem IsPackagePath.unslashed {path : String} (h : IsPackagePath path) :
    path.toList.getLast? ≠ some '/' := by
  intro slashed
  obtain ⟨front, last, parts⟩ : ∃ front last, pathParts path = front ++ [last] :=
    ⟨_, _, (List.dropLast_concat_getLast (pathParts_ne_nil path)).symm⟩
  have blank : last = "" := parts_of_lastSlash slashed parts
  exact (isPackagePath_iff path).1 h (by simp [parts, blank])

namespace EngineReference

/-! ### The grammar -/

/-- A text spells a reference: the name of a chain behind its scheme, or the path of a package
behind the scheme of its toolchain, with any number of slashes behind it, and a version behind
those, if there is one.  Only a path with a version may have an `@` in it. -/
inductive Spells : String → EngineReference → Prop
  | chain {name : String} (named : IsChainName name) : Spells ("alias://" ++ name) (.chain name)
  | unversioned {toolchain : Toolchain} {path : String} (located : IsPackagePath path)
      (plain : '@' ∉ path.toList) (slashes : Nat) :
      Spells (toolchain.scheme ++ "://" ++ path ++ String.ofList (List.replicate slashes '/'))
        (.package toolchain path none)
  | versioned {toolchain : Toolchain} {path version : String} (located : IsPackagePath path)
      (numbered : IsVersion version) (slashes : Nat) :
      Spells (toolchain.scheme ++ "://" ++ path ++ String.ofList (List.replicate slashes '/')
        ++ "@" ++ version) (.package toolchain path (some version))

/-- A reference that has a spelling. -/
def WellFormed : EngineReference → Prop
  | .chain name => IsChainName name
  | .package _ path none => IsPackagePath path ∧ '@' ∉ path.toList
  | .package _ path (some version) => IsPackagePath path ∧ IsVersion version

/-- Only well-formed references are spelled. -/
theorem Spells.wellFormed {s : String} {r : EngineReference} (h : Spells s r) : r.WellFormed := by
  cases h with
  | chain named => exact named
  | unversioned located plain => exact ⟨located, plain⟩
  | versioned located numbered => exact ⟨located, numbered⟩

/-- A well-formed reference is spelled as it is displayed. -/
theorem WellFormed.spells {r : EngineReference} (h : r.WellFormed) : Spells r.display r := by
  have unslashed : String.ofList (List.replicate 0 '/') = "" := rfl
  match r, h with
  | .chain name, named => exact .chain named
  | .package toolchain path none, ⟨located, plain⟩ =>
    have spelled := @Spells.unversioned toolchain path located plain 0
    rwa [unslashed, String.append_empty] at spelled
  | .package toolchain path (some version), ⟨located, numbered⟩ =>
    have spelled := @Spells.versioned toolchain path version located numbered 0
    rwa [unslashed, String.append_empty] at spelled

/-- The short name of a well-formed reference is one segment. -/
theorem WellFormed.shortName {r : EngineReference} (h : r.WellFormed) :
    r.shortName ≠ "" ∧ '/' ∉ r.shortName.toList := by
  have package : ∀ {toolchain path version}, IsPackagePath path →
      (EngineReference.package toolchain path version).shortName ≠ "" ∧
        '/' ∉ (EngineReference.package toolchain path version).shortName.toList := by
    intro toolchain path version located
    simp only [EngineReference.shortName]
    cases cut : cutLast? '/' path.toList with
    | none => exact ⟨located.ne_empty, (cutLast?_eq_none_iff _).1 cut⟩
    | some parts =>
      obtain ⟨front, last⟩ := parts
      obtain ⟨text, single⟩ := cutLast?_eq_some_iff.1 cut
      refine ⟨fun blank => located.unslashed ?_, by rwa [String.toList_ofList]⟩
      have none : last = [] := by simpa using congrArg String.toList blank
      rw [text, none]
      exact List.getLast?_concat
  match r, h with
  | .chain name, ⟨named, slashless, _⟩ => exact ⟨named, slashless⟩
  | .package _ path none, ⟨located, _⟩ => exact package located
  | .package _ path (some _), ⟨located, _⟩ => exact package located

/-! ### Reading -/

theorem parseChain_eq_ok_iff {rest : List Char} {r : EngineReference} :
    parseChain rest = .ok r ↔
      IsChainName (String.ofList rest) ∧ r = .chain (String.ofList rest) := by
  have named : (rest.isEmpty || rest.contains '/' || rest.contains '@') = false ↔
      IsChainName (String.ofList rest) := by
    simp [IsChainName, and_assoc]
  rw [← named, parseChain]
  cases rest.isEmpty || rest.contains '/' || rest.contains '@' with
  | true => simp
  | false => simp [eq_comm]

/-- A path is read without the slashes behind it, if what is left is the path of a package. -/
theorem parsePath_eq_ok_iff {toolchain : Toolchain} {cs : List Char}
    {version : Option (List Char)} {r : EngineReference} :
    parsePath toolchain cs version = .ok r ↔ ∃ path slashes, IsPackagePath path ∧
      cs = path.toList ++ List.replicate slashes '/' ∧
      r = .package toolchain path (version.map String.ofList) := by
  -- the two checks of the reader are one: the empty text has one part, and that is empty
  have checks : ∀ path : List Char,
      (path.isEmpty = false ∧ (splitOn '/' path).any List.isEmpty = false) ↔
        IsPackagePath (String.ofList path) := by
    intro path
    have segments : "" ∈ pathParts (String.ofList path) ↔ [] ∈ splitOn '/' path := by
      rw [pathParts, String.toList_ofList, List.mem_map]
      constructor
      · rintro ⟨part, mem, blank⟩
        have none : part = [] := by simpa using congrArg String.toList blank
        exact none ▸ mem
      · exact fun mem => ⟨[], mem, rfl⟩
    have some : (splitOn '/' path).any List.isEmpty = false ↔ [] ∉ splitOn '/' path := by
      rw [← Bool.not_eq_true, List.any_eq_true]
      simp
    rw [isPackagePath_iff, segments, some]
    refine ⟨And.right, fun absent => ⟨?_, absent⟩⟩
    cases path with
    | nil => exact absurd (List.mem_singleton.2 rfl) absent
    | cons => rfl
  obtain ⟨slashes, whole⟩ := eq_dropSlashes_append cs
  unfold parsePath
  dsimp only
  constructor
  · intro h
    split at h
    · cases h
    · split at h
      · cases h
      · next someChar full =>
        cases h
        refine ⟨_, slashes, (checks _).1 ⟨Bool.eq_false_iff.2 someChar, Bool.eq_false_iff.2 full⟩,
          ?_, rfl⟩
        rwa [String.toList_ofList]
  · rintro ⟨path, slashes, located, rfl, rfl⟩
    rw [dropSlashes_append located.unslashed slashes]
    obtain ⟨someChar, full⟩ := (checks path.toList).2 (by rwa [String.ofList_toList])
    rw [someChar, full, String.ofList_toList]
    rfl

/-- What follows the scheme of a toolchain is read as the path of a package with any number of
slashes behind it, and a version behind the last `@`, if there is one. -/
theorem parsePackage_eq_ok_iff {toolchain : Toolchain} {rest : List Char} {r : EngineReference} :
    parsePackage toolchain rest = .ok r ↔ ∃ path slashes, IsPackagePath path ∧
      (('@' ∉ path.toList ∧ rest = path.toList ++ List.replicate slashes '/' ∧
          r = .package toolchain path none) ∨
        ∃ version, IsVersion version ∧
          rest = path.toList ++ List.replicate slashes '/' ++ '@' :: version.toList ∧
          r = .package toolchain path (some version)) := by
  unfold parsePackage
  split
  · -- nothing behind the last `@`
    next front cut =>
    obtain ⟨text, _⟩ := cutLast?_eq_some_iff.1 cut
    refine ⟨fun h => (nomatch h), ?_⟩
    rintro ⟨path, slashes, _, ⟨plain, rfl, _⟩ | ⟨version, ⟨someChar, last⟩, rfl, _⟩⟩
    · exact absurd (text ▸ List.mem_append_right _ List.mem_cons_self)
        (not_mem_append_slashes plain (by decide) slashes)
    · have same := cut.symm.trans (cutLast?_eq_some_iff.2 ⟨rfl, last⟩)
      have none : version.toList = [] := (Prod.mk.inj (Option.some.inj same)).2.symm
      exact absurd (String.toList_inj.1 none) someChar
  · next front version numberless cut =>
    obtain ⟨text, last⟩ := cutLast?_eq_some_iff.1 cut
    have numbered : IsVersion (String.ofList version) := by
      refine ⟨fun blank => ?_, by rwa [String.toList_ofList]⟩
      have none : version = [] := by simpa using congrArg String.toList blank
      exact numberless none
    rw [parsePath_eq_ok_iff]
    constructor
    · rintro ⟨path, slashes, located, rfl, rfl⟩
      exact ⟨path, slashes, located, .inr ⟨_, numbered, by rw [text, String.toList_ofList], rfl⟩⟩
    · rintro ⟨path, slashes, located, ⟨plain, rest, _⟩ | ⟨v, ⟨_, again⟩, rest, rfl⟩⟩
      · exact absurd (rest ▸ text ▸ List.mem_append_right _ List.mem_cons_self)
          (not_mem_append_slashes plain (by decide) slashes)
      · have same := cut.symm.trans (cutLast?_eq_some_iff.2 ⟨rest, again⟩)
        cases same
        exact ⟨path, slashes, located, rfl, by rw [Option.map_some, String.ofList_toList]⟩
  · next cut =>
    have plain := (cutLast?_eq_none_iff _).1 cut
    rw [parsePath_eq_ok_iff]
    constructor
    · rintro ⟨path, slashes, located, rfl, rfl⟩
      exact ⟨path, slashes, located,
        .inl ⟨fun mem => plain (List.mem_append_left _ mem), rfl, rfl⟩⟩
    · rintro ⟨path, slashes, located, ⟨_, rfl, rfl⟩ | ⟨version, _, rfl, _⟩⟩
      · exact ⟨path, slashes, located, rfl, rfl⟩
      · exact absurd (List.mem_append_right _ List.mem_cons_self) plain

/-! ### Schemes -/

theorem parse_of_chain {s : String} (rest : List Char)
    (text : s.toList = "alias".toList ++ ("://".toList ++ rest)) :
    parse s = (parseChain rest).mapError (.malformed s) := by
  have cut : cutFirst? [':', '/', '/'] s.toList = some ("alias".toList, rest) := by
    rw [text]
    exact cutFirst?_append (by decide) ['/', '/'] rest
  simp only [parse, cut]
  rfl

theorem parse_of_package {s : String} (toolchain : Toolchain) (rest : List Char)
    (text : s.toList = toolchain.scheme.toList ++ ("://".toList ++ rest)) :
    parse s = (parsePackage toolchain rest).mapError (.malformed s) := by
  have cut : cutFirst? [':', '/', '/'] s.toList = some (toolchain.scheme.toList, rest) := by
    rw [text]
    exact cutFirst?_append (by cases toolchain <;> decide) ['/', '/'] rest
  simp only [parse, cut]
  cases toolchain <;> rfl

theorem spells_of_parseChain {s : String} {rest : List Char} {r : EngineReference}
    (text : s.toList = "alias".toList ++ ("://".toList ++ rest)) (h : parseChain rest = .ok r) :
    Spells s r := by
  obtain ⟨named, rfl⟩ := parseChain_eq_ok_iff.1 h
  have whole : s = "alias://" ++ String.ofList rest :=
    String.toList_inj.1 (by simp [text])
  exact whole ▸ .chain named

theorem spells_of_parsePackage {s : String} (toolchain : Toolchain) {rest : List Char}
    {r : EngineReference} (text : s.toList = toolchain.scheme.toList ++ ("://".toList ++ rest))
    (h : parsePackage toolchain rest = .ok r) : Spells s r := by
  obtain ⟨path, slashes, located, ⟨plain, rfl, rfl⟩ | ⟨version, numbered, rfl, rfl⟩⟩ :=
    parsePackage_eq_ok_iff.1 h
  · have whole : s = toolchain.scheme ++ "://" ++ path ++
        String.ofList (List.replicate slashes '/') := String.toList_inj.1 (by simp [text])
    exact whole ▸ .unversioned located plain slashes
  · have whole : s = toolchain.scheme ++ "://" ++ path ++
        String.ofList (List.replicate slashes '/') ++ "@" ++ version :=
      String.toList_inj.1 (by simp [text])
    exact whole ▸ .versioned located numbered slashes

/-- A text is read as a reference exactly when it spells the reference. -/
theorem parse_eq_ok_iff {s : String} {r : EngineReference} : parse s = .ok r ↔ Spells s r := by
  constructor
  · intro h
    unfold parse at h
    split at h
    · cases h
    · next scheme rest cut =>
      have text := eq_of_cutFirst? cut
      dsimp only at h
      split at h
      · next known => exact spells_of_parseChain (known ▸ text) (mapError_eq_ok.1 h)
      · split at h
        · next known =>
          exact spells_of_parsePackage .go (known ▸ text) (mapError_eq_ok.1 h)
        · split at h
          · next known =>
            exact spells_of_parsePackage .cargo (known ▸ text) (mapError_eq_ok.1 h)
          · cases h
  · intro h
    cases h with
    | @chain name named =>
      rw [parse_of_chain name.toList (by simp), mapError_eq_ok, parseChain_eq_ok_iff,
        String.ofList_toList]
      exact ⟨named, rfl⟩
    | @unversioned toolchain path located plain slashes =>
      rw [parse_of_package toolchain (path.toList ++ List.replicate slashes '/') (by simp),
        mapError_eq_ok, parsePackage_eq_ok_iff]
      exact ⟨path, slashes, located, .inl ⟨plain, rfl, rfl⟩⟩
    | @versioned toolchain path version located numbered slashes =>
      rw [parse_of_package toolchain
        (path.toList ++ List.replicate slashes '/' ++ '@' :: version.toList) (by simp),
        mapError_eq_ok, parsePackage_eq_ok_iff]
      exact ⟨path, slashes, located, .inr ⟨version, numbered, rfl, rfl⟩⟩

/-- The references that are read back from their display are the well-formed ones. -/
theorem parse_display_eq_ok_iff (r : EngineReference) :
    parse r.display = .ok r ↔ r.WellFormed :=
  ⟨fun h => (parse_eq_ok_iff.1 h).wellFormed, fun h => parse_eq_ok_iff.2 h.spells⟩

/-! ### The whole -/

/-- Reading accepts exactly what the grammar spells, and gives the parts that were spelled: a path
without empty segments and without a slash at its end, and a short name that is one segment.  What
was read is displayed as a spelling of its own, and whatever reference there may be, it is read
back from its display exactly when it is well-formed. -/
theorem parse_grammar :
    (∀ s r, parse s = .ok r ↔ Spells s r) ∧
    (∀ s r, parse s = .ok r → r.WellFormed ∧ parse r.display = .ok r ∧
      r.shortName ≠ "" ∧ '/' ∉ r.shortName.toList) ∧
    (∀ s toolchain path version, parse s = .ok (.package toolchain path version) →
      "" ∉ pathParts path ∧ path.toList.getLast? ≠ some '/') ∧
    ∀ r : EngineReference, parse r.display = .ok r ↔ r.WellFormed := by
  refine ⟨fun s r => parse_eq_ok_iff, fun s r h => ?_, fun s toolchain path version h => ?_,
    parse_display_eq_ok_iff⟩
  · have shaped := (parse_eq_ok_iff.1 h).wellFormed
    exact ⟨shaped, (parse_display_eq_ok_iff r).2 shaped, shaped.shortName⟩
  · have located : IsPackagePath path := by
      have shaped := (parse_eq_ok_iff.1 h).wellFormed
      cases version with
      | none => exact shaped.1
      | some version => exact shaped.1
    exact ⟨(isPackagePath_iff path).1 located, located.unslashed⟩

/-- Only the last `@` starts a version, and the slashes before it are not part of the path. -/
theorem parse_grammar_scoped :
    let r : EngineReference := .package .cargo "tools@home/lint" (some "0.2/rc")
    parse "cargo://tools@home/lint//@0.2/rc" = .ok r ∧
      Spells "cargo://tools@home/lint//@0.2/rc" r ∧ r.WellFormed ∧
      r.display = "cargo://tools@home/lint@0.2/rc" ∧ parse r.display = .ok r ∧
      r.shortName = "lint" ∧ "" ∉ pathParts "tools@home/lint" := by
  intro r
  obtain ⟨spelled, read, parts, _⟩ := parse_grammar
  have given : parse "cargo://tools@home/lint//@0.2/rc" = .ok r := by decide +kernel
  obtain ⟨shaped, again, _, _⟩ := read _ r given
  exact ⟨given, (spelled _ r).1 given, shaped, by decide +kernel, again, by decide +kernel,
    (parts _ _ _ _ given).1⟩

end EngineReference

end Orchestration
