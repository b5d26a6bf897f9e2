import AyyoHumanoid.DocumentSizes
import AyyoHumanoid.ScenarioAdapter

/-!
# References of a verified report

A report that the adapter verifies is the one its constructor builds for a
scenario of the catalog. Its references, actions and annotations are then built
without an exception, and their documents are short.
-/

namespace AyyoHumanoid
namespace Teach

open PyText JsonText Artifacts Scenario

section Identities

/-- Every element of none has every property. -/
theorem forall_mem_none {α : Type} {P : α → Prop} : ∀ item ∈ (none : Option α), P item :=
  fun item hitem => absurd hitem (Option.not_mem_none item)

/-- An identity of a canonical tag is a digest of at most its tag's length and 72 characters. -/
theorem semanticSha256_fingerprint (p : Platform) {tag : PyStr} (document : Json)
    (htag : World.isIdentifier tag = true)
    (hplain : World.isIdentifier (tag ++ py "-sha256-" ++ py "0") = true)
    (hlength : tag.length ≤ 128) :
    IsFingerprint (semanticSha256 p tag document) ∧
      (semanticSha256 p tag document).length = tag.length + 72 := by
  have hhex := p.sha256_hex (encode document)
  have hinfix : (py "-sha256-").length = 8 := by decide
  have htotal : (semanticSha256 p tag document).length = tag.length + 72 := by
    rw [semanticSha256, List.length_append, List.length_append, hinfix, hhex.1]
  have hsome : p.sha256 (encode document) ≠ [] := by
    intro hempty
    have hcount := hhex.1
    rw [hempty] at hcount
    cases hcount
  have hspelled : World.isIdentifier (semanticSha256 p tag document) = true := by
    rw [World.isIdentifier, semanticSha256, World.identifierRest_hex hhex.2 hsome]
    exact hplain
  have hparts : semanticSha256 p tag document =
      tag ++ (py "-sha256-" ++ p.sha256 (encode document)) := by
    rw [semanticSha256, List.append_assoc]
  have hwidth : (semanticSha256 p tag document).length - 72 = tag.length := by omega
  have hfingerprint : isFingerprint (semanticSha256 p tag document) = true := by
    have hrest : (semanticSha256 p tag document).drop tag.length =
        py "-sha256-" ++ p.sha256 (encode document) := by
      rw [hparts, List.drop_left]
    have hdigest : (semanticSha256 p tag document).drop (tag.length + 8) =
        p.sha256 (encode document) := by
      rw [← List.drop_drop, hrest, ← hinfix, List.drop_left]
    have hstart : (semanticSha256 p tag document).take tag.length = tag := by
      rw [hparts, List.take_left]
    have hmark : (py "-sha256-" ++ p.sha256 (encode document)).take 8 = py "-sha256-" := by
      rw [← hinfix, List.take_left]
    simp only [isFingerprint, hwidth, hstart, hrest, hdigest, hmark, htag, beq_self_eq_true,
      decide_eq_true hhex, Bool.and_self]
  have hname : IsIdentifier (semanticSha256 p tag document) := by
    refine ⟨?_, (strip_identifier hspelled).symm, ?_, hspelled⟩
    · intro hempty
      rw [hempty, List.length_nil] at htotal
      omega
    · rw [htotal, maxIdentifierLength]
      omega
  exact ⟨⟨hname, hfingerprint⟩, htotal⟩

/-- A shorter identifier is a name. -/
theorem canonical_of_shorter {maximum : Nat} (name : World.Identifier maximum)
    (h : maximum ≤ 256) : World.IsCanonical 256 name.text :=
  ⟨name.canonical.1, le_trans name.canonical.2 h⟩

/-- A digest is a name. -/
theorem canonical_of_fingerprint {text : PyStr} (h : IsFingerprint text) :
    World.IsCanonical 256 text :=
  ⟨h.1.2.2.2, h.1.2.2.1⟩

/-- A digest passes `_fingerprint`. -/
theorem fingerprint_of_spelled {text : PyStr} (h : IsFingerprint text) (fieldName : PyStr) :
    fingerprint (.str text) fieldName = .ok ⟨text, h⟩ := by
  have hname := identifier_of_canonical (canonical_of_fingerprint h) fieldName
  rw [fingerprint, hname, Checks.ok_bind]
  simp only [Checks.ensure_bind_ok]
  exact ⟨h, rfl⟩

/-- A digest passes `_optional_fingerprint`. -/
theorem optionalFingerprint_of_spelled {text : PyStr} (h : IsFingerprint text)
    (fieldName : PyStr) : optionalFingerprint (.str text) fieldName = .ok (some ⟨text, h⟩) := by
  rw [optionalFingerprint, fingerprint_of_spelled h]
  · rfl
  · exact fun h => Json.noConfusion h

/-- A name passes `_optional_identifier`. -/
theorem optionalIdentifier_of_canonical {text : PyStr} (h : World.IsCanonical 256 text)
    (fieldName : PyStr) : optionalIdentifier (.str text) fieldName = .ok (some ⟨text, h⟩) := by
  rw [optionalIdentifier, identifier_of_canonical h]
  · rfl
  · exact fun h => Json.noConfusion h

end Identities

section Sizes

/-- A name of bounded length takes two bytes for each character at most. -/
theorem documentSize_name (name : World.Name) {bound : Nat} (h : name.text.length ≤ bound) :
    documentSize (.str name.text) ≤ 2 * bound + 2 := by
  have hsize := documentSize_str (printable_identifier name)
  omega

/-- A name that may be absent takes no more than one that is there. -/
theorem documentSize_optionalName {name : Option World.Name} {bound : Nat} (hbound : 1 ≤ bound)
    (h : ∀ item ∈ name, item.text.length ≤ bound) :
    documentSize (optionalName name) ≤ 2 * bound + 2 := by
  refine documentSize_optionalText hbound ?_
  intro text htext
  obtain ⟨item, hitem, rfl⟩ := Option.map_eq_some_iff.mp htext
  exact ⟨printable_identifier item, h item hitem⟩

/-- A digest that may be absent takes no more than one that is there. -/
theorem documentSize_optionalDigest {value : Option FingerprintText} {bound : Nat}
    (hbound : 1 ≤ bound) (h : ∀ item ∈ value, item.text.length ≤ bound) :
    documentSize (optionalDigest value) ≤ 2 * bound + 2 := by
  refine documentSize_optionalText hbound ?_
  intro text htext
  obtain ⟨item, hitem, rfl⟩ := Option.map_eq_some_iff.mp htext
  exact ⟨printable_identifierRest item.spelled.1.2.2.2, h item hitem⟩

/-- A reference whose texts are short. -/
structure ShortReference (reference : DemonstrationObservationReference) : Prop where
  /-- The identity is short. -/
  referenceId : reference.referenceId.text.length ≤ 128
  /-- The digest is short. -/
  fingerprint : ∀ item ∈ reference.fingerprint, item.text.length ≤ 128
  /-- The provenance is short. -/
  provenanceKind : ∀ item ∈ reference.provenanceKind, item.text.length ≤ 128
  /-- The interface is short. -/
  interfaceId : ∀ item ∈ reference.interfaceId, item.text.length ≤ 128

/-- A short reference takes 1200 bytes at most. -/
theorem ShortReference.size {reference : DemonstrationObservationReference}
    (h : ShortReference reference) : documentSize reference.asDict ≤ 1200 := by
  have hid := documentSize_name reference.referenceId h.referenceId
  have hdigest := documentSize_optionalDigest (by omega) h.fingerprint
  have hprovenance := documentSize_optionalName (by omega) h.provenanceKind
  have hinterface := documentSize_optionalName (by omega) h.interfaceId
  have hkind : documentSize (.str reference.kind.value) ≤ 29 := by
    cases reference.kind <;> decide
  have hstatus : documentSize (.str reference.status.value) ≤ 16 := by
    cases reference.status <;> decide
  have hkeys : keyBudget [py "fingerprint", py "interface_id", py "kind", py "provenance_kind",
      py "reference_id", py "status"] = 84 := by decide
  have hsize := documentSize_obj [(py "fingerprint", optionalDigest reference.fingerprint),
    (py "interface_id", optionalName reference.interfaceId),
    (py "kind", .str reference.kind.value),
    (py "provenance_kind", optionalName reference.provenanceKind),
    (py "reference_id", .str reference.referenceId.text),
    (py "status", .str reference.status.value)]
  rw [DemonstrationObservationReference.asDict]
  simp only [List.map_cons, List.map_nil, List.sum_cons, List.sum_nil] at hsize
  omega

/-- An action whose texts are short. -/
structure ShortAction (action : DemonstrationActionReference) : Prop where
  /-- The identity is short. -/
  actionId : action.actionId.text.length ≤ 128
  /-- The evidence is named shortly. -/
  evidenceRef : action.evidenceRef.text.length ≤ 128
  /-- The reason is short. -/
  reasonCode : ∀ item ∈ action.reasonCode, item.text.length ≤ 128
  /-- The target is named shortly. -/
  targetId : ∀ item ∈ action.targetId, item.text.length ≤ 128
  /-- The target value is printed shortly. -/
  targetValue : documentSize (optionalFloat action.targetValue) ≤ 4

/-- A short action takes 1300 bytes at most. -/
theorem ShortAction.size {action : DemonstrationActionReference} (h : ShortAction action) :
    documentSize action.asDict ≤ 1300 := by
  have hid := documentSize_name action.actionId h.actionId
  have hevidence := documentSize_name action.evidenceRef h.evidenceRef
  have hreason := documentSize_optionalName (by omega) h.reasonCode
  have htarget := documentSize_optionalName (by omega) h.targetId
  have hvalue := h.targetValue
  have hkind : documentSize (.str action.kind.value) ≤ 28 := by
    cases action.kind <;> decide
  have hauthority : documentSize (.str action.authority.value) ≤ 18 := by
    cases action.authority <;> decide
  have hdisposition : documentSize (.str action.disposition.value) ≤ 16 := by
    cases action.disposition <;> decide
  have hunit : documentSize (.str action.targetUnit.value) ≤ 8 := by
    cases action.targetUnit <;> decide
  have hkeys : keyBudget [py "action_id", py "authority", py "disposition", py "evidence_ref",
      py "kind", py "reason_code", py "target_id", py "target_unit", py "target_value"] = 124 := by
    decide
  have hsize := documentSize_obj [(py "action_id", .str action.actionId.text),
    (py "authority", .str action.authority.value),
    (py "disposition", .str action.disposition.value),
    (py "evidence_ref", .str action.evidenceRef.text),
    (py "kind", .str action.kind.value),
    (py "reason_code", optionalName action.reasonCode),
    (py "target_id", optionalName action.targetId),
    (py "target_unit", .str action.targetUnit.value),
    (py "target_value", optionalFloat action.targetValue)]
  rw [DemonstrationActionReference.asDict]
  simp only [List.map_cons, List.map_nil, List.sum_cons, List.sum_nil] at hsize
  omega

end Sizes

section Verified

/-- A report that the adapter verified: its scenario is in the catalog, its evidence passed the
checks of the constructor and its identities are the computed ones. -/
structure Verified (p : Platform) (definition : DevelopmentScenarioDefinition)
    (report : DevelopmentScenarioReport) : Prop where
  /-- The scenario is reviewed. -/
  found : scenarioById report.scenarioId = .ok definition
  /-- The evidence passed the checks. -/
  checked : checkReport definition report.toScenarioEvidence = .ok ()
  /-- The framework is this one. -/
  framework : report.frameworkId = Scenario.frameworkId
  /-- The scenario's digest is recorded. -/
  fingerprint : report.scenarioFingerprint = definition.fingerprint p
  /-- The report is named by its contents. -/
  named : report.reportId =
    semanticSha256 p (py "scenario-report") (reportDocument p definition report.toScenarioEvidence)
  /-- The robot is observed once. -/
  robot : (report.observedIdentities.filter (·.kind.text = py "robot")).map (·.value.text) =
    [ayyoRobotId]

variable {p : Platform} {report : DevelopmentScenarioReport}
  {definition : DevelopmentScenarioDefinition}

/-- What verification establishes. -/
theorem verified_of_ok (h : verifiedReport p report = .ok ()) :
    ∃ definition, Verified p definition report := by
  rw [verifiedReport, Checks.bind_ok] at h
  obtain ⟨rebuilt, hrebuilt, h⟩ := h
  simp only [Checks.require_bind_ok, Checks.require_ok] at h
  obtain ⟨⟨hframework, hequal⟩, hrobot⟩ := h
  rw [Checks.mapError_ok, rebuiltReport, Checks.bind_ok] at hrebuilt
  obtain ⟨definition, hfound, hinit⟩ := hrebuilt
  rw [DevelopmentScenarioReport.init, Checks.bind_ok] at hinit
  obtain ⟨_, hchecked, hinit⟩ := hinit
  cases hinit
  have hfingerprint := congrArg DevelopmentScenarioReport.scenarioFingerprint hequal
  have hnamed := congrArg DevelopmentScenarioReport.reportId hequal
  exact ⟨definition, hfound, hchecked, hframework, hfingerprint.symm, hnamed.symm, hrobot⟩

/-- A report that the constructor built for a scenario of the catalog and that observes the robot
once is verified. -/
theorem verifiedReport_built {evidence : ScenarioEvidence}
    (hfound : scenarioById definition.scenarioId = .ok definition)
    (hchecked : checkReport definition evidence = .ok ())
    (hrobot : (evidence.observedIdentities.filter (·.kind.text = py "robot")).map
      (·.value.text) = [ayyoRobotId]) :
    verifiedReport p (builtReport p definition evidence) = .ok () := by
  have hrebuilt : rebuiltReport p (builtReport p definition evidence) =
      .ok (builtReport p definition evidence) := by
    have hid : (builtReport p definition evidence).scenarioId = definition.scenarioId := rfl
    have hevidence : (builtReport p definition evidence).toScenarioEvidence = evidence := rfl
    rw [rebuiltReport, hid, hfound, Checks.ok_bind, DevelopmentScenarioReport.init, hevidence,
      hchecked]
    rfl
  rw [verifiedReport, hrebuilt]
  simp only [Except.mapError, Checks.ok_bind, Checks.require_bind_ok, Checks.require_ok]
  exact ⟨⟨rfl, trivial⟩, hrobot⟩

/-- The digest of a verified report. -/
theorem Verified.reportId (h : Verified p definition report) :
    IsFingerprint report.reportId ∧ report.reportId.length ≤ 128 := by
  have hfingerprint := @semanticSha256_fingerprint p (py "scenario-report")
    (reportDocument p definition report.toScenarioEvidence) (by decide) (by decide) (by decide)
  have hlength : (py "scenario-report").length = 15 := by decide
  rw [h.named]
  exact ⟨hfingerprint.1, by omega⟩

/-- The digest of a verified report's scenario. -/
theorem Verified.scenarioFingerprint (h : Verified p definition report) :
    IsFingerprint report.scenarioFingerprint ∧ report.scenarioFingerprint.length ≤ 128 := by
  have hfingerprint := @semanticSha256_fingerprint p (py "development-scenario")
    definition.semanticDocument (by decide) (by decide) (by decide)
  have hlength : (py "development-scenario").length = 20 := by decide
  rw [h.fingerprint]
  exact ⟨hfingerprint.1, by
    rw [DevelopmentScenarioDefinition.fingerprint]
    omega⟩

/-- A text that `_optional_identifier` accepts, or none. -/
inductive NameGiven : Json → Prop where
  /-- No text. -/
  | absent : NameGiven .null
  /-- A short name. -/
  | named (text : PyStr) (h : World.IsCanonical 128 text) : NameGiven (.str text)

/-- The name that is read, which is short. -/
theorem NameGiven.run {value : Json} (h : NameGiven value) (fieldName : PyStr) :
    ∃ name, optionalIdentifier value fieldName = .ok name ∧
      (∀ item ∈ name, item.text.length ≤ 128) ∧ (value ≠ .null → name ≠ none) := by
  cases h with
  | absent => exact ⟨none, rfl, forall_mem_none, fun hnull => absurd rfl hnull⟩
  | named text htext =>
    have hwide : World.IsCanonical 256 text := ⟨htext.1, le_trans htext.2 (by omega)⟩
    refine ⟨_, optionalIdentifier_of_canonical hwide _, ?_, fun _ => Option.some_ne_none _⟩
    intro item hitem
    cases hitem
    exact htext.2

/-- A text that `_optional_fingerprint` accepts, or none. -/
inductive DigestGiven : Json → Prop where
  /-- No text. -/
  | absent : DigestGiven .null
  /-- A short digest. -/
  | spelled (text : PyStr) (h : IsFingerprint text ∧ text.length ≤ 128) : DigestGiven (.str text)

/-- A reference whose parts are given, and are there for sensor evidence. -/
theorem reference_ok {kind : ObservationReferenceKind} (status : ReferenceEvidenceStatus)
    {referenceId : PyStr} {digest provenance interface : Json}
    (hid : World.IsCanonical 256 referenceId ∧ referenceId.length ≤ 128)
    (hdigest : DigestGiven digest) (hprovenance : NameGiven provenance)
    (hinterface : NameGiven interface)
    (hsensed : kind = .sensorEvidence → provenance ≠ .null ∧ interface ≠ .null)
    (hrecorded : kind ≠ .externalRecording) :
    ∃ reference, observationReference kind status (.str referenceId) digest provenance interface =
        .ok reference ∧
      reference.kind = kind ∧ reference.referenceId.text = referenceId ∧
      ShortReference reference := by
  obtain ⟨content, hcontent, hshort⟩ : ∃ content,
      optionalFingerprint digest (py "observation reference fingerprint") = .ok content ∧
        ∀ item ∈ content, item.text.length ≤ 128 := by
    cases hdigest with
    | absent => exact ⟨none, rfl, forall_mem_none⟩
    | spelled text htext =>
      refine ⟨_, optionalFingerprint_of_spelled htext.1 _, ?_⟩
      intro item hitem
      cases hitem
      exact htext.2
  obtain ⟨source, hsource, hsourceShort, hsourced⟩ :=
    hprovenance.run (py "observation provenance kind")
  obtain ⟨used, hused, husedShort, hinterfaced⟩ :=
    hinterface.run (py "observation interface_id")
  simp only [observationReference, identifier_of_canonical hid.1, hcontent, hsource, hused,
    Checks.ok_bind, Checks.ensure_bind_ok]
  exact ⟨_, ⟨fun hsensor => ⟨hsourced (hsensed hsensor).1, hinterfaced (hsensed hsensor).2⟩,
    fun hrecording => absurd hrecording hrecorded, rfl⟩, rfl, rfl, hid.2, hshort, hsourceShort,
    husedShort⟩

/-- The provenance of scenario evidence is an identifier. -/
theorem scenarioProvenance_given : NameGiven (.str (py "development-scenario")) :=
  .named _ (by decide)

/-- The framework is named by an identifier. -/
theorem Verified.framework_given (h : Verified p definition report) :
    NameGiven (.str report.frameworkId) := by
  rw [h.framework]
  exact .named _ (by decide)

/-- The reference to a verified report. -/
theorem Verified.reportReference (h : Verified p definition report) :
    ∃ reference, Teach.reportReference report = .ok reference ∧
      reference.kind = .scenarioReport ∧ reference.referenceId.text = report.reportId ∧
      ShortReference reference :=
  reference_ok _ ⟨canonical_of_fingerprint h.reportId.1, h.reportId.2⟩
    (.spelled _ h.scenarioFingerprint) scenarioProvenance_given h.framework_given
    (fun hsensor => by cases hsensor) (fun hrecording => by cases hrecording)

/-- The kind under which an observed identity is recorded. -/
def identityKind (item : ScenarioObservedIdentity) : ObservationReferenceKind :=
  if item.kind.text = py "robot" then .robotBodyState else .publicEvidence

/-- The reference to an observed identity. -/
theorem identityReference (item : ScenarioObservedIdentity) :
    ∃ reference, observationReference (identityKind item) .observed (.str item.value.text) .null
        .null .null = .ok reference ∧
      (reference.kind, reference.referenceId.text) = (identityKind item, item.value.text) ∧
      ShortReference reference := by
  have hkind : identityKind item ≠ .sensorEvidence ∧ identityKind item ≠ .externalRecording := by
    unfold identityKind
    by_cases hrobot : item.kind.text = py "robot"
    · rw [if_pos hrobot]
      decide
    · rw [if_neg hrobot]
      decide
  obtain ⟨reference, hrun, hsame, hname, hshort⟩ := reference_ok .observed
    ⟨canonical_of_shorter item.value (by omega), item.value.canonical.2⟩ .absent .absent .absent
    (fun hsensor => absurd hsensor hkind.1) hkind.2
  exact ⟨reference, hrun, Prod.ext hsame hname, hshort⟩

/-- The reference to a source. -/
theorem sourceReference (item : ScenarioSourceSummary) :
    ∃ reference, observationReference .sensorEvidence .observed (.str item.sourceId.text) .null
        (.str item.provenanceKind.text) (.str item.interface.text) = .ok reference ∧
      (reference.kind, reference.referenceId.text) = (.sensorEvidence, item.sourceId.text) ∧
      ShortReference reference := by
  have hgiven : ∀ text : PyStr, Json.str text ≠ .null := fun _ h => Json.noConfusion h
  obtain ⟨reference, hrun, hsame, hname, hshort⟩ :=
    @reference_ok .sensorEvidence .observed _ _ _ _
      ⟨canonical_of_shorter item.sourceId (by omega), item.sourceId.canonical.2⟩ .absent
      (.named _ item.provenanceKind.canonical) (.named _ item.interface.canonical)
      (fun _ => ⟨hgiven _, hgiven _⟩) (fun hrecording => by cases hrecording)
  exact ⟨reference, hrun, Prod.ext hsame hname, hshort⟩

/-- References made of the items of a list, one for each. -/
theorem references_of_items {α : Type} {items : List α}
    {build : α → Except TeachRaised DemonstrationObservationReference}
    {key : α → ObservationReferenceKind × PyStr}
    (h : ∀ item, ∃ reference, build item = .ok reference ∧
      (reference.kind, reference.referenceId.text) = key item ∧ ShortReference reference) :
    ∃ references, items.mapM build = .ok references ∧
      (references.map fun reference => (reference.kind, reference.referenceId.text)) =
        items.map key ∧
      ∀ reference ∈ references, ShortReference reference := by
  obtain ⟨references, hrun⟩ := Checks.exists_mapM_ok.mpr fun item (_ : item ∈ items) =>
    (h item).imp fun _ hitem => hitem.1
  refine ⟨references, hrun, ?_, ?_⟩
  · refine Checks.map_of_mapM_ok hrun key ?_
    intro item reference hitem
    obtain ⟨built, hbuilt, hkey, -⟩ := h item
    rw [hbuilt] at hitem
    cases hitem
    exact hkey
  · intro reference hreference
    obtain ⟨item, -, hitem⟩ := (Checks.mem_of_mapM_ok hrun).mp hreference
    obtain ⟨built, hbuilt, -, hshort⟩ := h item
    rw [hbuilt] at hitem
    cases hitem
    exact hshort

/-- An assertion of the scenario has one result in a verified report. -/
theorem Verified.result (h : Verified p definition report) {assertionId : PyStr}
    (hid : assertionId ∈ definition.assertions.map (·.assertionId)) :
    ∃ result ∈ report.assertionResults, result.assertionId.text = assertionId ∧
      report.assertionResults.filter (fun item => item.assertionId.text = assertionId) =
        [result] := by
  have hchecked := h.checked
  simp only [checkReport, uniqueTyped, Checks.unit_bind_ok, Checks.require_ok] at hchecked
  have hnodup : (report.assertionResults.map (·.assertionId.text)).Nodup := by
    have hids := hchecked.1.2
    have htexts := hids.map (f := fun name : ScenarioName => name.text) (by
      intro a b hab
      cases a
      cases b
      simp only at hab
      cases hab
      rfl)
    rwa [List.map_map] at htexts
  obtain ⟨item, hitem, rfl⟩ := List.mem_map.mp hid
  obtain ⟨result, hresult, htext⟩ := List.mem_map.mp (hchecked.2.1.2 item hitem)
  refine ⟨result, hresult, htext, ?_⟩
  have hmem : result ∈ report.assertionResults.filter
      (fun other => other.assertionId.text = item.assertionId) :=
    List.mem_filter.mpr ⟨hresult, decide_eq_true htext⟩
  have hsame : ∀ other ∈ report.assertionResults.filter
      (fun other => other.assertionId.text = item.assertionId), other = result := by
    intro other hfound
    obtain ⟨hin, hother⟩ := List.mem_filter.mp hfound
    exact List.inj_on_of_nodup_map hnodup hin hresult
      ((of_decide_eq_true hother).trans htext.symm)
  have hall := List.eq_replicate_of_mem hsame
  have hfew := (hnodup.of_map).filter (fun other => other.assertionId.text = item.assertionId)
  rw [hall, List.nodup_replicate] at hfew
  have hpos := List.length_pos_of_mem hmem
  have hone : (report.assertionResults.filter
      fun other => other.assertionId.text = item.assertionId).length = 1 := by
    omega
  rw [hone] at hall
  exact hall

/-- The reference to an assertion of the scenario. -/
theorem Verified.assertionReference (h : Verified p definition report) {assertionId : PyStr}
    (hid : assertionId ∈ definition.assertions.map (·.assertionId)) :
    ∃ reference, Teach.assertionReference report assertionId = .ok reference ∧
      reference.kind = .scenarioAssertion ∧ reference.referenceId.text = assertionId ∧
      ShortReference reference := by
  obtain ⟨result, -, htext, hfilter⟩ := h.result hid
  have hname : World.IsCanonical 256 assertionId ∧ assertionId.length ≤ 128 := by
    rw [← htext]
    exact ⟨canonical_of_shorter result.assertionId (by omega), result.assertionId.canonical.2⟩
  rw [Teach.assertionReference, hfilter]
  exact reference_ok _ hname (.spelled _ h.reportId) scenarioProvenance_given h.framework_given
    (fun hsensor => by cases hsensor) (fun hrecording => by cases hrecording)

end Verified

section Actions

variable {p : Platform} {report : DevelopmentScenarioReport}
  {definition : DevelopmentScenarioDefinition}

/-- A target of the adapter's literals, or none. -/
inductive TargetGiven : Json → Json → Prop where
  /-- No target. -/
  | absent : TargetGiven .null .null
  /-- A position of the neck joint. -/
  | neck (token : FloatToken) (h : documentSize (.float token) ≤ 4) :
    TargetGiven neckJoint (.float token)

/-- An action of the adapter. -/
theorem Verified.action (h : Verified p definition report) (floats : TargetFloats)
    (actionId : PyStr) (kind : DemonstrationActionKind) (authority : DemonstrationActionAuthority)
    (disposition : DemonstrationActionDisposition) {reasonCode targetId targetValue : Json}
    (hid : World.IsCanonical 128 actionId) (hreason : NameGiven reasonCode)
    (htarget : TargetGiven targetId targetValue)
    (hcovered : kind.IsDevelopment → authority = .developmentOnly) :
    ∃ action, scenarioAction report floats ⟨actionId, kind, authority, disposition⟩ reasonCode
        targetId targetValue = .ok action ∧
      action.actionId.text = actionId ∧ action.disposition = disposition ∧
      ShortAction action := by
  have hreport := h.reportId
  have hname : World.IsCanonical 256 actionId := ⟨hid.1, le_trans hid.2 (by omega)⟩
  have hneck : World.IsCanonical 256 (py "neck_yaw_joint") := by decide
  have hneckShort : (py "neck_yaw_joint").length ≤ 128 := by decide
  have hnull : documentSize (optionalFloat none) ≤ 4 := by decide
  obtain ⟨reason, hreasonRun, hreasonShort, -⟩ := hreason.run (py "action reason_code")
  cases htarget with
  | absent =>
    rw [scenarioAction, if_neg (not_not.mpr rfl), actionReference]
    have hnone : optionalIdentifier .null (py "action target_id") = .ok none := rfl
    simp only [identifier_of_canonical hname, identifier_of_canonical
      (canonical_of_fingerprint hreport.1), hreasonRun, hnone, targetFloat,
      Checks.ok_bind, Checks.ensure_bind_ok]
    exact ⟨_, ⟨by decide, ⟨hcovered, rfl⟩⟩, rfl, rfl, hid.2, hreport.2, hreasonShort,
      forall_mem_none, hnull⟩
  | neck token htoken =>
    have hgiven : Json.float token ≠ .null := fun h => Json.noConfusion h
    rw [scenarioAction, if_pos hgiven, actionReference]
    simp only [neckJoint, identifier_of_canonical hname, identifier_of_canonical
      (canonical_of_fingerprint hreport.1), hreasonRun, optionalIdentifier_of_canonical hneck,
      targetFloat, Checks.ok_bind, Checks.ensure_bind_ok]
    refine ⟨_, ⟨?_, ⟨hcovered, rfl⟩⟩, rfl, rfl, hid.2, hreport.2, hreasonShort, ?_, htoken⟩
    · rw [TargetComplete, if_pos (Or.inl (Option.some_ne_none _))]
      exact ⟨Option.some_ne_none _, Option.some_ne_none _,
        fun h => DemonstrationActionUnit.noConfusion h⟩
    · intro item hitem
      cases hitem
      exact hneckShort

end Actions

end Teach
end AyyoHumanoid
