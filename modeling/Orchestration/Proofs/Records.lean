import Orchestration.Proofs.Fields
import Orchestration.Proofs.Instants
import Orchestration.Proofs.Scripted
import Orchestration.Proofs.Spelling
import Orchestration.Store.File

/-!
# The content of a store's file holds its records

* `Artifact.decodes`, `TestEnvironment.decodes`, `TestReport.decodes`, `StoreDocument.decodes` —
  every record is read from the value that is written for it;
* `StoreDocument.CountsFit` — the counts of all reports are numbers of 64 bits, as every reader
  takes care of: `StoreDocument.countsFit_of_ofText`;
* `StoreDocument.ofText_toText` — what is written of all records is read back as it was;
* `StoreDocument.rewrite` — reading a content, changing the records and writing them;
* `StoreDocument.rewrites_keep_records` — nothing else ever happens to records in a file.
-/

namespace Orchestration

/-! ### Single values -/

theorem decodes_text (s : String) : Decodes readText 0 (.str s) s := fun _ _ _ => rfl

theorem decodes_path (s : String) : Decodes readPath 0 (.str s) s := fun _ _ _ => rfl

theorem decodes_instant (t : Timestamp) : Decodes Timestamp.read 0 (.str t.text) t := by
  intro depth origin _
  refine bind_eq_ok.2 ⟨t.text, rfl, ?_⟩
  rw [Timestamp.parse_text]
  rfl

theorem decodes_status (s : TestStatus) : Decodes TestStatus.read 0 (.str s.name) s := by
  intro depth origin _
  cases origin <;> cases s <;> rfl

/-- The natural numbers that are kept as numbers of 64 bits. -/
def Fits64 (n : Nat) : Prop := n < 18446744073709551616

instance (n : Nat) : Decidable (Fits64 n) := inferInstanceAs (Decidable (n < _))

theorem Fits64.inRange {n : Nat} (h : Fits64 n) : IntegerRange n := by
  unfold Fits64 at h
  unfold IntegerRange
  omega

theorem decodes_nat {n : Nat} (h : Fits64 n) : Decodes Source.nat64 0 (Json.ofNat n) n := by
  intro depth origin _
  rw [Json.ofNat, Number.ofNat, Number.ofInt_of_range h.inRange]
  show JsonInput.nat64 _ = _
  rw [JsonInput.nat64]
  exact if_pos (Int.natCast_nonneg n)

/-- A number that is read has 64 bits. -/
theorem nat64_fits {v : JsonInput} {n : Nat} (h : Source.nat64 v = .ok n) : Fits64 n := by
  have h : JsonInput.nat64 v = .ok n := h
  unfold JsonInput.nat64 at h
  split at h
  · next i hi _ =>
    split at h
    · cases h
      unfold Fits64
      unfold IntegerRange at hi
      omega
    · cases h
  · obtain ⟨found, -, h⟩ := bind_eq_ok.1 h
    cases h

/-! ### Records -/

namespace Artifact

theorem decodes (now : Timestamp) (a : Artifact) :
    Decodes (Artifact.read now) 1 a.toJson a := by
  obtain ⟨name, kind, location, timestamp, version⟩ := a
  refine Decodes.record (r := (name, kind, location, timestamp, version, ())) _ ?_
  refine .present (decodes_text name) ?_ (.present (decodes_text kind) ?_
    (.present (decodes_text location) ?_ (.present (decodes_instant timestamp) ?_ ?_)))
  · cases version <;> simp
  · cases version <;> simp
  · cases version <;> simp
  · cases version <;> simp
  · cases version with
    | none => exact .absent (by simp) .nil
    | some v => exact .present (Decodes.option (by simp) (decodes_text v)) (by simp) .nil

end Artifact

namespace TestEnvironment

/-- The members of an environment fill the fields of its reader. -/
theorem written (e : TestEnvironment) :
    (Fields.required "id" readText <| .required "name" readText <|
      .required "status" TestStatus.read <| .required "createdAt" Timestamp.read <|
      .required "updatedAt" Timestamp.read <| .required "tmpDir" readPath <|
      .defaulted "files" (readMap readText) .empty <|
      .defaulted "metadata" (readMap readText) .empty <|
      .defaulted "managedResources" (Source.list readText) [] .nil :
      Fields JsonInput _ _).Written 1
      [("id", .str e.id), ("name", .str e.stage), ("status", .str e.status.name),
        ("createdAt", .str e.createdAt.text), ("updatedAt", .str e.updatedAt.text),
        ("tmpDir", .str e.tmpDir), ("files", Json.ofStringMap e.files),
        ("metadata", Json.ofStringMap e.metadata),
        ("managedResources", Json.ofStrings e.managedResources)]
      (e.id, e.stage, e.status, e.createdAt, e.updatedAt, e.tmpDir, e.files, e.metadata,
        e.managedResources, ()) := by
  have hfiles : Decodes (readMap readText) 1 (Json.ofStringMap e.files) e.files :=
    Decodes.map fun e _ => decodes_text e.2
  have hmetadata : Decodes (readMap readText) 1 (Json.ofStringMap e.metadata) e.metadata :=
    Decodes.map fun e _ => decodes_text e.2
  have hresources : Decodes (Source.list readText) 1 (Json.ofStrings e.managedResources)
      e.managedResources :=
    Decodes.list fun s _ => decodes_text s
  exact .present ((decodes_text e.id).mono (by decide)) (by simp) <|
    .present ((decodes_text e.stage).mono (by decide)) (by simp) <|
    .present ((decodes_status e.status).mono (by decide)) (by simp) <|
    .present ((decodes_instant e.createdAt).mono (by decide)) (by simp) <|
    .present ((decodes_instant e.updatedAt).mono (by decide)) (by simp) <|
    .present ((decodes_path e.tmpDir).mono (by decide)) (by simp) <|
    .present hfiles (by simp) <| .present hmetadata (by simp) <|
    .present hresources (by simp) .nil

theorem decodes (e : TestEnvironment) : Decodes TestEnvironment.read 2 e.toJson e :=
  Decodes.record _ e.written

end TestEnvironment

namespace TestReport

/-- The counts are numbers of 64 bits. -/
def CountsFit (r : TestReport) : Prop := Fits64 r.total ∧ Fits64 r.passed ∧ Fits64 r.failed

theorem decodes {r : TestReport} (h : r.CountsFit) : Decodes TestReport.read 1 r.toJson r := by
  obtain ⟨id, stage, status, startedAt, finishedAt, testEnvId, total, passed, failed⟩ := r
  obtain ⟨htotal, hpassed, hfailed⟩ := h
  have hcounts : (Fields.defaulted "total" Source.nat64 0 <|
      .defaulted "passed" Source.nat64 0 <| .defaulted "failed" Source.nat64 0 .nil).Written 0
      [("total", Json.ofNat total), ("passed", Json.ofNat passed), ("failed", Json.ofNat failed)]
      (total, passed, failed, ()) :=
    .present (decodes_nat htotal) (by simp) <| .present (decodes_nat hpassed) (by simp) <|
      .present (decodes_nat hfailed) (by simp) .nil
  refine Decodes.record (r := (id, stage, status, startedAt, finishedAt, testEnvId, total, passed,
    failed, ())) _ ?_
  refine .present (decodes_text id) ?_ (.present (decodes_text stage) ?_
    (.present (decodes_status status) ?_ (.present (decodes_instant startedAt) ?_ ?_)))
  · cases finishedAt <;> cases testEnvId <;> simp
  · cases finishedAt <;> cases testEnvId <;> simp
  · cases finishedAt <;> cases testEnvId <;> simp
  · cases finishedAt <;> cases testEnvId <;> simp
  · have hid : (Fields.optional "testEnvId" readText <| Fields.defaulted "total" Source.nat64 0 <|
        .defaulted "passed" Source.nat64 0 <| .defaulted "failed" Source.nat64 0 .nil).Written 0
        ((testEnvId.map fun id => ("testEnvId", Json.str id)).toList ++
          [("total", Json.ofNat total), ("passed", Json.ofNat passed),
            ("failed", Json.ofNat failed)]) (testEnvId, total, passed, failed, ()) := by
      cases testEnvId with
      | none => exact .absent (by simp) hcounts
      | some id => exact .present (Decodes.option (by simp) (decodes_text id)) (by simp) hcounts
    cases finishedAt with
    | none => exact .absent (by cases testEnvId <;> simp) hid
    | some t =>
      exact .present (Decodes.option (by simp) (decodes_instant t))
        (by cases testEnvId <;> simp) hid

/-- The counts of a report that is read are numbers of 64 bits. -/
theorem countsFit_of_read {v : JsonInput} {r : TestReport} (h : TestReport.read v = .ok r) :
    r.CountsFit := by
  obtain ⟨fields, hfields, rfl⟩ := map_eq_ok.1 h
  have hzero : ∀ n ∈ some 0, Fits64 n := by
    rintro n ⟨⟩
    decide
  have hgives := readRecord_gives (.any <| .any <| .any <| .any <| .any <| .any <|
    .cons nat64_fits hzero <| .cons nat64_fits hzero <| .cons nat64_fits hzero .nil) hfields
  obtain ⟨-, -, -, -, -, -, htotal, hpassed, hfailed, -⟩ := hgives
  exact ⟨htotal, hpassed, hfailed⟩

end TestReport

/-! ### All records -/

namespace StoreDocument

/-- The counts of every report are numbers of 64 bits. -/
def CountsFit (d : StoreDocument) : Prop := ∀ e ∈ d.reports.entries, e.2.CountsFit

theorem decodes (now : Timestamp) {d : StoreDocument} (h : d.CountsFit) :
    Decodes (StoreDocument.read now) 4 d.toJson d := by
  obtain ⟨version, lastUpdated, artifacts, environments, reports⟩ := d
  have hartifacts : Decodes (Source.list (Artifact.read now)) 2
      (.arr (artifacts.map Artifact.toJson)) artifacts :=
    Decodes.list fun a _ => Artifact.decodes now a
  have henvironments : Decodes (readMap TestEnvironment.read) 3
      (Json.ofMap (environments.map TestEnvironment.toJson)) environments :=
    Decodes.map fun e _ => TestEnvironment.decodes e.2
  have hreports : Decodes (readMap TestReport.read) 2
      (Json.ofMap (reports.map TestReport.toJson)) reports :=
    Decodes.map fun e he => TestReport.decodes (h e he)
  refine Decodes.record (r := (version, lastUpdated, artifacts, environments, reports, ())) _ ?_
  exact .present ((decodes_text version).mono (by decide)) (by simp) <|
    .present ((decodes_instant lastUpdated).mono (by decide)) (by simp) <|
    .present (hartifacts.mono (by decide)) (by simp) <| .present henvironments (by simp) <|
    .present (hreports.mono (by decide)) (by simp) .nil

/-- Whatever is read, the counts of its reports are numbers of 64 bits. -/
theorem countsFit_of_read {now : Timestamp} {v : JsonInput} {d : StoreDocument}
    (h : StoreDocument.read now v = .ok d) : d.CountsFit := by
  obtain ⟨fields, hfields, rfl⟩ := map_eq_ok.1 h
  have hempty : ∀ m ∈ some (KeyMap.empty : KeyMap TestReport), ∀ e ∈ m.entries, e.2.CountsFit := by
    rintro m ⟨⟩ e he
    cases he
  have hgives := readRecord_gives (.any <| .any <| .any <| .any <|
    .cons (readMap_gives TestReport.countsFit_of_read) hempty .nil) hfields
  obtain ⟨-, -, -, -, hreports, -⟩ := hgives
  exact hreports

end StoreDocument

/-! ### Values without doubles -/

theorem Json.whole_nat {n : Nat} (h : Fits64 n) : (Json.ofNat n).Whole := by
  rw [Json.ofNat, Number.ofNat, Number.ofInt_of_range h.inRange]
  exact .int _ _

theorem Json.whole_map {α : Type} {f : α → Json} {m : KeyMap α}
    (h : ∀ e ∈ m.entries, (f e.2).Whole) : (Json.ofMap (m.map f)).Whole := by
  refine .obj _ fun e he => ?_
  obtain ⟨e', he', rfl⟩ := List.mem_map.1 he
  exact h e' he'

theorem Json.whole_list {α : Type} {f : α → Json} {as : List α} (h : ∀ a ∈ as, (f a).Whole) :
    (Json.arr (as.map f)).Whole := by
  refine .arr _ fun v hv => ?_
  obtain ⟨a, ha, rfl⟩ := List.mem_map.1 hv
  exact h a ha

theorem Artifact.whole_toJson (a : Artifact) : a.toJson.Whole := by
  refine .obj _ ?_
  cases a.version <;> simp [Json.Whole.str]

theorem TestEnvironment.whole_toJson (e : TestEnvironment) : e.toJson.Whole := by
  have hfiles : (Json.ofStringMap e.files).Whole := Json.whole_map fun _ _ => .str _
  have hmetadata : (Json.ofStringMap e.metadata).Whole := Json.whole_map fun _ _ => .str _
  have hresources : (Json.ofStrings e.managedResources).Whole := Json.whole_list fun _ _ => .str _
  refine .obj _ ?_
  simp [Json.Whole.str, hfiles, hmetadata, hresources]

theorem TestReport.whole_toJson {r : TestReport} (h : r.CountsFit) : r.toJson.Whole := by
  obtain ⟨htotal, hpassed, hfailed⟩ := h
  refine .obj _ ?_
  cases r.finishedAt <;> cases r.testEnvId <;>
    simp [Json.Whole.str, Json.whole_nat htotal, Json.whole_nat hpassed, Json.whole_nat hfailed]

namespace StoreDocument

theorem whole_toJson {d : StoreDocument} (h : d.CountsFit) : d.toJson.Whole := by
  have hartifacts : (Json.arr (d.artifacts.map Artifact.toJson)).Whole :=
    Json.whole_list fun a _ => a.whole_toJson
  have henvironments : (Json.ofMap (d.environments.map TestEnvironment.toJson)).Whole :=
    Json.whole_map fun e _ => e.2.whole_toJson
  have hreports : (Json.ofMap (d.reports.map TestReport.toJson)).Whole :=
    Json.whole_map fun e he => TestReport.whole_toJson (h e he)
  refine .obj _ ?_
  simp [Json.Whole.str, hartifacts, henvironments, hreports]

/-! ### The content of a file -/

theorem toText_ne_nil (d : StoreDocument) : d.toText.isEmpty = false := rfl

/-- What is written of all records is read back as it was, at any later time. -/
theorem ofText_toText (now : Timestamp) {d : StoreDocument} (h : d.CountsFit) :
    ofText now d.toText = .ok d := by
  have hraw : JsonText.ofRaw d.toText = (JsonText.ofJson d.toJson, []) := by
    have hread := JsonText.ofRaw_pretty (whole_toJson h) (show NumberEnds [] from trivial)
    rwa [List.append_nil] at hread
  have hroom : JsonText.maxDepth.Allows 4 := by
    rintro n ⟨⟩
    decide
  have hdecode : decodeText (StoreDocument.read now) d.toText = .ok d := by
    rw [decodeText, hraw]
    exact bind_eq_ok.2 ⟨d, decodes now h _ .text hroom, rfl⟩
  rw [ofText, toText_ne_nil, if_neg (by decide), hdecode]

/-- Whatever content is read, the counts of its reports are numbers of 64 bits. -/
theorem countsFit_of_ofText {now : Timestamp} {t : RawText} {d : StoreDocument}
    (h : ofText now t = .ok d) : d.CountsFit := by
  unfold ofText at h
  split at h
  · cases h
    intro e he
    cases he
  · split at h
    · next d' hd =>
      cases h
      obtain ⟨d', hd', hd⟩ := bind_eq_ok.1 hd
      obtain ⟨-, -, hd⟩ := bind_eq_ok.1 hd
      cases hd
      exact countsFit_of_read hd'
    · cases h

/-- Read a content, change the records, and write them. -/
def rewrite (t : RawText) (change : Timestamp × (StoreDocument → StoreDocument)) :
    Except StoreError RawText :=
  (ofText change.1 t).map fun d => (change.2 d).toText

/-- Rewriting a written content any number of times does to it what is done to the records. -/
theorem rewrites_toText (changes : List (Timestamp × (StoreDocument → StoreDocument)))
    (hfit : ∀ c ∈ changes, ∀ d, d.CountsFit → (c.2 d).CountsFit) {d : StoreDocument}
    (hd : d.CountsFit) :
    changes.foldlM rewrite d.toText = .ok (changes.foldl (fun d c => c.2 d) d).toText ∧
      (changes.foldl (fun d c => c.2 d) d).CountsFit := by
  induction changes generalizing d with
  | nil => exact ⟨rfl, hd⟩
  | cons c changes ih =>
    obtain ⟨hc, hchanges⟩ := List.forall_mem_cons.1 hfit
    obtain ⟨hrest, hfits⟩ := ih hchanges (hc d hd)
    refine ⟨?_, hfits⟩
    have hfirst : rewrite d.toText c = .ok (c.2 d).toText := by
      rw [rewrite, ofText_toText c.1 hd]
      rfl
    rw [List.foldlM_cons, hfirst]
    exact hrest

/-- The records that a content holds are the records that are written of them: what is written
is read back as it was, and of a content of any origin, however it is spelled and whatever it
leaves out, the first rewrite already writes the records that were read, and later rewrites do to
it what is done to the records, no more. -/
theorem rewrites_keep_records :
    (∀ now (d : StoreDocument), d.CountsFit → ofText now d.toText = .ok d) ∧
    ∀ now t d, ofText now t = .ok d →
      ∀ first : StoreDocument → StoreDocument, (∀ d, d.CountsFit → (first d).CountsFit) →
      ∀ changes : List (Timestamp × (StoreDocument → StoreDocument)),
        (∀ c ∈ changes, ∀ d, d.CountsFit → (c.2 d).CountsFit) →
        ∃ t', ((now, first) :: changes).foldlM rewrite t = .ok t' ∧
          ∀ later, ofText later t' = .ok (changes.foldl (fun d c => c.2 d) (first d)) := by
  refine ⟨fun now d hd => ofText_toText now hd, ?_⟩
  intro now t d ht first hfirst changes hfit
  have hd : d.CountsFit := countsFit_of_ofText ht
  obtain ⟨hrest, hfits⟩ := rewrites_toText changes hfit (hfirst d hd)
  refine ⟨_, ?_, fun later => ofText_toText later hfits⟩
  have hrewrite : rewrite t (now, first) = .ok (first d).toText := by
    rw [rewrite, ht]
    rfl
  rw [List.foldlM_cons, hrewrite]
  exact hrest

/-- A content written by hand: an offset from universal time, an inserted second, a member of no
meaning, a report given as a list, and nothing of what may be left out. -/
def handWritten : RawText :=
  RawText.ofString <| "\x7b\"version\":\"1\",\"note\":[]," ++
    "\"lastUpdated\":\"2026-1-1T2:00:00.5+02:00\"," ++
    "\"artifacts\":[\x7b\"type\":\"lib\",\"name\":\"core\",\"location\":\"out\"\x7d]," ++
    "\"testReports\":\x7b\"r\":[\"r\",\"unit\",\"passed\",\"2016-12-31 23:59:60Z\"," ++
    "null,null,18446744073709551615]\x7d\x7d"

/-- The records of that content. -/
def handRecorded : StoreDocument where
  version := "1"
  lastUpdated := ⟨2026, 1, 1, 0, 0, 0, 500000000, by decide⟩
  artifacts := [⟨"core", "lib", "out", .epoch, none⟩]
  environments := .empty
  reports := .ofList [("r", ⟨"r", "unit", .passed,
    ⟨2016, 12, 31, 23, 59, 59, 1000000000, by decide⟩, none, none, 18446744073709551615, 0, 0⟩)]

theorem ofText_handWritten : ofText .epoch handWritten = .ok handRecorded := by decide +kernel

/-- The records written by hand are kept while another one is added to the artifacts. -/
theorem rewrites_keep_records_handWritten :
    handRecorded.CountsFit ∧ ofText .epoch handRecorded.toText = .ok handRecorded ∧
    ∃ t', [(Timestamp.epoch, fun d => d.append [default]), (.epoch, id)].foldlM rewrite
        handWritten = .ok t' ∧
      ∀ later, ofText later t' = .ok (handRecorded.append [default]) := by
  have hfit : handRecorded.CountsFit := countsFit_of_ofText ofText_handWritten
  refine ⟨hfit, rewrites_keep_records.1 .epoch handRecorded hfit, ?_⟩
  exact rewrites_keep_records.2 .epoch handWritten handRecorded ofText_handWritten
    (fun d => d.append [default]) (fun _ h => h) [(.epoch, id)] (by simp)

end StoreDocument

end Orchestration
