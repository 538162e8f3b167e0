import Orchestration.Project.Build
import Orchestration.Proofs.Values

/-!
# Artifacts in a result

A builder describes its artifacts in one value, which its result has as structured output or as
text.  What is read depends on the value alone, and every item of it counts:

* `Json.IsText` — the texts of a value, from which the value is read back;
* `ToolResult.Carries` — the value that a result has, in either place;
* `parseArtifacts_congr` — the artifacts depend on the value inside the object that may be around
  them;
* `readArtifacts_eq_ok`, `readArtifacts_malformed` — items are read one for one, or not at all;
* `artifacts_read` — every result that carries a value is read as that value is.
-/

namespace Orchestration

/-! ### Texts of values -/

/-- The text is that of the value, on one line or over several, and the value can be read back:
it has no doubles and does not nest deeper than a reader goes. -/
structure Json.IsText (v : Json) (s : String) : Prop where
  plain : v.Plain
  nesting : v.levels ≤ 127
  written : s = v.compact ∨ s = v.pretty

/-- The value in a text is the one that was written. -/
theorem Json.IsText.parse_eq {v : Json} {s : String} (h : v.IsText s) :
    Json.parse (RawText.ofString s) = .ok v := by
  have hroom : JsonText.maxDepth.Allows 127 := by
    rintro n ⟨⟩
    decide
  have hends : NumberEnds [] := trivial
  have hread : JsonText.ofRaw (RawText.ofString s) = (JsonText.ofJson v, []) := by
    rcases h.written with rfl | rfl
    · rw [← JsonText.ofRaw_compact h.plain.whole hends, List.append_nil, RawText.ofString,
        Json.compact, String.toList_ofList]
    · rw [← JsonText.ofRaw_pretty h.plain.whole hends, List.append_nil, RawText.ofString,
        Json.pretty, String.toList_ofList]
  have hvalue := JsonText.json_ofJson v (hroom.mono h.nesting)
  rw [Json.canonical_of_canonical h.plain.canonical] at hvalue
  rw [Json.parse, hread]
  exact bind_eq_ok.2 ⟨v, hvalue, rfl⟩

/-! ### The value that a result carries -/

/-- The result has the value as its structured output or, having none, as its text. -/
inductive ToolResult.Carries (r : ToolResult) (v : Json) : Prop
  | structured (h : r.structured = some v)
  | text (absent : r.structured = none) (h : v.IsText r.text)

/-- A result whose only content is a value's text carries the value. -/
theorem ToolResult.carries_ofText {v : Json} (plain : v.Plain) (nesting : v.levels ≤ 127)
    (isError : Bool) : Carries ⟨[.ofText v.compact], none, isError⟩ v := by
  have htext : text ⟨[.ofText v.compact], none, isError⟩ = v.compact := by
    simp [text, Content.ofText]
  exact .text rfl ⟨plain, nesting, .inl htext⟩

/-- The data of a result is the value that it carries. -/
theorem artifactData_of_carries {r : ToolResult} {v : Json} (h : r.Carries v) :
    artifactData r = .ok v := by
  cases h with
  | structured h => rw [artifactData, h]
  | text absent h => rw [artifactData, absent, h.parse_eq, mapError_ok]

/-! ### Items -/

section Items

variable {now : Timestamp}

/-- Items are read when each of them is, one artifact an item and in their order. -/
theorem readArtifacts_eq_ok {items : List Json} {as : List Artifact} :
    readArtifacts now items = .ok as ↔
      List.Forall₂ (fun item a => decodeValue (Artifact.read now) item = .ok a) items as := by
  induction items generalizing as with
  | nil =>
    rw [List.forall₂_nil_left_iff, readArtifacts, Except.ok.injEq]
    exact eq_comm
  | cons item items ih =>
    rw [readArtifacts, bind_eq_ok, List.forall₂_cons_left_iff]
    refine exists_congr fun a => ?_
    rw [bind_eq_ok]
    constructor
    · rintro ⟨hitem, more, hmore, heq⟩
      exact ⟨more, hitem, ih.1 hmore, (Except.ok.inj heq).symm⟩
    · rintro ⟨more, hitem, hmore, rfl⟩
      exact ⟨hitem, more, ih.2 hmore, rfl⟩

/-- What is wrong with a list of items is wrong with one of them. -/
theorem exists_malformed {items : List Json} {e : DecodeError}
    (h : readArtifacts now items = .error e) :
    ∃ item ∈ items, decodeValue (Artifact.read now) item = .error e := by
  induction items with
  | nil => cases h
  | cons item items ih =>
    rw [readArtifacts] at h
    cases hitem : decodeValue (Artifact.read now) item with
    | error e' =>
      rw [hitem] at h
      cases h
      exact ⟨item, List.mem_cons_self, hitem⟩
    | ok a =>
      cases hmore : readArtifacts now items with
      | ok more =>
        rw [hitem, hmore] at h
        cases h
      | error e' =>
        rw [hitem, hmore] at h
        cases h
        obtain ⟨bad, hbad, hreads⟩ := ih hmore
        exact ⟨bad, List.mem_cons_of_mem _ hbad, hreads⟩

/-- Items that have been read are artifacts, every one of them. -/
theorem decodes_of_readArtifacts {items : List Json} {as : List Artifact} {item : Json}
    (h : readArtifacts now items = .ok as) (mem : item ∈ items) :
    ∃ a, decodeValue (Artifact.read now) item = .ok a := by
  have hreads := readArtifacts_eq_ok.1 h
  clear h
  induction hreads with
  | nil => cases mem
  | @cons first a rest as hfirst _ ih =>
    rcases List.mem_cons.1 mem with rfl | hrest
    · exact ⟨a, hfirst⟩
    · exact ih hrest

/-- With one malformed item nothing is read of a list. -/
theorem readArtifacts_malformed {items : List Json} {item : Json} {e : DecodeError}
    (mem : item ∈ items) (malformed : decodeValue (Artifact.read now) item = .error e) :
    ∃ first ∈ items, ∃ e', decodeValue (Artifact.read now) first = .error e' ∧
      readArtifacts now items = .error e' := by
  cases hread : readArtifacts now items with
  | error e' =>
    obtain ⟨first, hfirst, hreads⟩ := exists_malformed hread
    exact ⟨first, hfirst, e', hreads, rfl⟩
  | ok as =>
    obtain ⟨a, ha⟩ := decodes_of_readArtifacts hread mem
    rw [malformed] at ha
    cases ha

end Items

/-! ### Results -/

section Results

variable {now : Timestamp} {r s : ToolResult} {v w : Json}

/-- What is wrong with a malformed artifact, as it is reported. -/
def malformedArtifact (e : DecodeError) : OrchestratorError :=
  .protocol ("malformed artifact: " ++ e.message)

/-- The artifacts depend on the value inside the object that may be around them. -/
theorem parseArtifacts_congr (hr : r.Carries v) (hs : s.Carries w)
    (same : unwrapArtifacts v = unwrapArtifacts w) :
    parseArtifacts now r = parseArtifacts now s := by
  simp only [parseArtifacts, artifactData_of_carries hr, artifactData_of_carries hs, bind,
    Except.bind, same]

theorem parseArtifacts_list {items : List Json} (hr : r.Carries v)
    (inside : unwrapArtifacts v = .arr items) :
    parseArtifacts now r = (readArtifacts now items).mapError malformedArtifact := by
  simp only [parseArtifacts, artifactData_of_carries hr, bind, Except.bind, inside]
  rfl

theorem parseArtifacts_object {members : List (String × Json)} (hr : r.Carries v)
    (inside : unwrapArtifacts v = .obj members) :
    parseArtifacts now r = (readArtifacts now [.obj members]).mapError malformedArtifact := by
  simp only [parseArtifacts, artifactData_of_carries hr, bind, Except.bind, inside]
  rfl

theorem unwrapArtifacts_bare (bare : v.member? "artifacts" = none) : unwrapArtifacts v = v := by
  rw [unwrapArtifacts, bare, Option.getD_none]

theorem unwrapArtifacts_wrapped (inside : v.member? "artifacts" = some w) :
    unwrapArtifacts v = w := by
  rw [unwrapArtifacts, inside, Option.getD_some]

/-- What is read from every result that carries a value, in whichever place the result has it.
The value inside is the one in the object that may be around artifacts, or the value itself. -/
structure ArtifactsRead (now : Timestamp) (v : Json) : Prop where
  /-- As structured output and as text the value is read alike, be it as artifacts or as an
  error. -/
  alike {r s : ToolResult} : r.Carries v → s.Carries v →
    parseArtifacts now r = parseArtifacts now s
  /-- The object around artifacts makes no difference. -/
  wrapped {w : Json} {r s : ToolResult} : v.member? "artifacts" = some w →
    w.member? "artifacts" = none → r.Carries v → s.Carries w →
    parseArtifacts now r = parseArtifacts now s
  /-- A list inside is read when each of its items is, as one artifact an item in their order. -/
  list {items : List Json} {as : List Artifact} {r : ToolResult} :
    unwrapArtifacts v = .arr items → r.Carries v →
    (parseArtifacts now r = .ok as ↔
      List.Forall₂ (fun item a => decodeValue (Artifact.read now) item = .ok a) items as)
  /-- An object inside is one artifact. -/
  object {members : List (String × Json)} {as : List Artifact} {r : ToolResult} :
    unwrapArtifacts v = .obj members → r.Carries v →
    (parseArtifacts now r = .ok as ↔
      ∃ a, decodeValue (Artifact.read now) (.obj members) = .ok a ∧ as = [a])
  /-- One malformed item makes the whole result malformed; what is reported is wrong with one of
  the items. -/
  malformedItem {items : List Json} {item : Json} {e : DecodeError} {r : ToolResult} :
    unwrapArtifacts v = .arr items → item ∈ items →
    decodeValue (Artifact.read now) item = .error e → r.Carries v →
    ∃ bad ∈ items, ∃ e', decodeValue (Artifact.read now) bad = .error e' ∧
      parseArtifacts now r = .error (malformedArtifact e')
  /-- A malformed object makes the result malformed. -/
  malformedObject {members : List (String × Json)} {e : DecodeError} {r : ToolResult} :
    unwrapArtifacts v = .obj members →
    decodeValue (Artifact.read now) (.obj members) = .error e → r.Carries v →
    parseArtifacts now r = .error (malformedArtifact e)

/-- A value is read alike from every result that carries it, with nothing left out. -/
theorem artifacts_read (now : Timestamp) (v : Json) : ArtifactsRead now v where
  alike hr hs := parseArtifacts_congr hr hs rfl
  wrapped inside bare hr hs := by
    refine parseArtifacts_congr hr hs ?_
    rw [unwrapArtifacts_wrapped inside, unwrapArtifacts_bare bare]
  list inside hr := by
    rw [parseArtifacts_list hr inside, mapError_eq_ok, readArtifacts_eq_ok]
  object inside hr := by
    rw [parseArtifacts_object hr inside, mapError_eq_ok, readArtifacts_eq_ok,
      List.forall₂_cons_left_iff]
    refine exists_congr fun a => ?_
    constructor
    · rintro ⟨_, hitem, ⟨⟩, has⟩
      exact ⟨hitem, has⟩
    · rintro ⟨hitem, has⟩
      exact ⟨[], hitem, .nil, has⟩
  malformedItem inside mem malformed hr := by
    obtain ⟨bad, hbad, e', hreads, hread⟩ := readArtifacts_malformed mem malformed
    refine ⟨bad, hbad, e', hreads, ?_⟩
    rw [parseArtifacts_list hr inside, hread]
    rfl
  malformedObject inside malformed hr := by
    rw [parseArtifacts_object hr inside, readArtifacts, malformed]
    rfl

/-- A list in an object that is told as text is read as the list itself is. -/
theorem artifacts_read_of_text (now : Timestamp) :
    let app := Json.ofMembers
      [("name", .str "app"), ("type", .str "file"), ("location", .str "bin/app")]
    let told := Json.ofMembers [("artifacts", .arr [app])]
    parseArtifacts now ⟨[.ofText told.compact], none, false⟩ =
      .ok [⟨"app", "file", "bin/app", now, none⟩] := by
  intro app told
  have happ : app.Plain := .ofMembers (by simp [Json.Plain.str])
  have hlist : (Json.arr [app]).Plain :=
    ⟨.arr _ (by simp [happ.whole]), .arr _ (by simp [happ.canonical])⟩
  have htold : told.Plain := .ofMembers (by simp [hlist])
  have htext := ToolResult.carries_ofText htold (by decide) false
  have hdirect : ToolResult.Carries ⟨[], some (.arr [app]), false⟩ (.arr [app]) := .structured rfl
  rw [(artifacts_read now told).wrapped rfl rfl htext hdirect]
  rfl

end Results

end Orchestration
