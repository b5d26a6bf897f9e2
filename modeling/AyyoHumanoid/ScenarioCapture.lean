import AyyoHumanoid.DemonstrationSessions
import AyyoHumanoid.ScenarioDeferral

/-!
# Faithfulness of scenario captures

What an episode may claim of a report, and when the capture of a verified report
claims no more: the outcome has to be a pass where the scenario moves or rejects,
and the report has to fit into the events.
-/

namespace AyyoHumanoid
namespace Teach

open PyText JsonText Artifacts Scenario

section Outcomes

variable {nfc : Nfc}

/-- The names of reasons that are identifiers. -/
theorem reasonNames_ok {reasons : List PyStr} (h : ∀ reason ∈ reasons,
      World.IsCanonical 256 reason) :
    ∃ names, reasonNames (reasons.map .str) = .ok names ∧ names.1.map (·.text) = reasons := by
  induction reasons with
  | nil => exact ⟨_, rfl, rfl⟩
  | cons reason reasons ih =>
    obtain ⟨names, hrun, htexts⟩ := ih fun other hother => h other (List.mem_cons_of_mem _ hother)
    have hname := identifier_of_canonical (h reason (List.mem_cons_self ..)) (py "outcome reason")
    refine ⟨⟨⟨reason, h reason (List.mem_cons_self ..)⟩ :: names.1, by
      rw [List.length_cons, names.2, List.map_cons, List.length_cons]⟩, ?_, ?_⟩
    · change reasonNames (.str reason :: reasons.map .str) = _
      simp only [reasonNames, hname, hrun, Checks.ok_bind]
      rfl
    · rw [List.map_cons, htexts]

/-- An outcome of short distinct reasons and a printable note is built, and is short. -/
theorem demonstrationOutcome_ok
    (hnfc : ∀ text : PyStr, text.all isPrintable = true → nfc.normalize text = text)
    (status : Learning.DemonstrationOutcomeStatus) {reasons : List PyStr} {detail : PyStr}
    (hreasons : ∀ reason ∈ reasons, World.IsCanonical 64 reason) (hcount : reasons.length ≤ 16)
    (hsome : reasons ≠ []) (hdistinct : reasons.Nodup)
    (hprintable : detail.all isPrintable = true) (hnote : IsNote detail)
    (hshort : detail.length ≤ 128) :
    ∃ outcome, demonstrationOutcome nfc status (reasons.map .str) (.str detail) = .ok outcome ∧
      outcome.status = status ∧ documentSize outcome.asDict ≤ 2500 := by
  have hwide : ∀ reason ∈ reasons, World.IsCanonical 256 reason := fun reason hreason =>
    ⟨(hreasons reason hreason).1, le_trans (hreasons reason hreason).2 (by omega)⟩
  obtain ⟨names, hrun, htexts⟩ := reasonNames_ok hwide
  have hsame := hnfc detail hprintable
  have hdetail : noteText nfc (.str detail) (py "outcome detail") =
      .ok ⟨detail, hsame, hnote⟩ := by
    simp only [noteText, hsame, Checks.require_bind_ok, Checks.ensure_bind_ok]
    exact ⟨⟨hnote.1, hnote.2.1⟩, hnote.2.2.1, hnote, rfl⟩
  have htyped : (reasons.map Json.str).length ≤ maxOutcomeReasons ∧
      (reasons.map Json.str).all isText = true := by
    constructor
    · rw [List.length_map]
      exact hcount
    · rw [List.all_map, List.all_eq_true]
      intro reason _
      rfl
  have hpresent : reasons.map Json.str ≠ [] := fun hempty =>
    hsome (List.map_eq_nil_iff.mp hempty)
  have hapart : names.1.Nodup := by
    rw [← htexts] at hdistinct
    exact hdistinct.of_map
  have hbuilt : ∃ outcome, demonstrationOutcome nfc status (reasons.map .str) (.str detail) =
      .ok outcome ∧ outcome.status = status ∧ outcome.reasonCodes = names.1 ∧
        outcome.detail.text = detail := by
    simp only [demonstrationOutcome, hrun, hdetail, Checks.ok_bind, Checks.ensure_bind_ok]
    exact ⟨_, ⟨htyped, hpresent, hapart, rfl⟩, rfl, rfl, rfl⟩
  obtain ⟨outcome, hok, hstatus, hcodes, htext⟩ := hbuilt
  refine ⟨outcome, hok, hstatus, ?_⟩
  have hlist : documentSize (.arr (outcome.reasonCodes.map fun reason => .str reason.text)) ≤
      2 + outcome.reasonCodes.length * (130 + 1) := by
    refine documentSize_arr_map ?_
    intro name hname
    rw [hcodes] at hname
    have hmem : name.text ∈ reasons := by
      rw [← htexts]
      exact List.mem_map.mpr ⟨name, hname, rfl⟩
    have hsize := documentSize_name name (hreasons _ hmem).2
    omega
  have hlength : outcome.reasonCodes.length ≤ 16 := by
    have hnames := congrArg List.length htexts
    rw [List.length_map] at hnames
    rw [hcodes, hnames]
    exact hcount
  have hdetailSize : documentSize (.str outcome.detail.text) ≤ 258 := by
    have hsize := documentSize_str hprintable
    rw [htext]
    omega
  have hvalue : documentSize (.str outcome.status.value) ≤ 16 := by
    cases outcome.status <;> decide
  have hkeys : keyBudget [py "detail", py "reason_codes", py "status"] ≤ 40 := by decide
  have hsize := documentSize_obj [(py "detail", .str outcome.detail.text),
    (py "reason_codes", .arr (outcome.reasonCodes.map fun reason => .str reason.text)),
    (py "status", .str outcome.status.value)]
  rw [DemonstrationOutcome.asDict]
  simp only [List.map_cons, List.map_nil, List.sum_cons, List.sum_nil] at hsize
  have hproduct : outcome.reasonCodes.length * (130 + 1) ≤ 16 * 131 :=
    Nat.mul_le_mul_right _ hlength
  omega

/-- The status that matches a report's outcome. -/
def matchingStatus (report : DevelopmentScenarioReport) : Learning.DemonstrationOutcomeStatus :=
  match report.outcome with
  | .fail => .failure
  | .notApplicable => .incomplete
  | .pass =>
    if report.scenarioId = productionDeferScenario then .deferred
    else if report.scenarioId = invalidCommandScenario then .rejected
    else .success

/-- Reasons with one text are one. -/
theorem failureReason_injective : Function.Injective ScenarioFailureReason.value := by
  intro a b h
  cases a <;> cases b <;> first | rfl | exact absurd h (by decide)

variable {p : Platform} {report : DevelopmentScenarioReport}
  {definition : DevelopmentScenarioDefinition}

/-- The outcome of a verified report's episode has the matching status. -/
theorem Verified.outcomeFor (h : Verified p definition report)
    (hnfc : ∀ text : PyStr, text.all isPrintable = true → nfc.normalize text = text) :
    ∃ outcome, Teach.outcomeFor nfc report = .ok outcome ∧
      outcome.status = matchingStatus report ∧ documentSize outcome.asDict ≤ 2500 := by
  unfold Teach.outcomeFor matchingStatus
  cases report.outcome with
  | fail =>
    have hdetail : (py "The source Stage-6 scenario reported failure.").all isPrintable = true ∧
        IsNote (py "The source Stage-6 scenario reported failure.") ∧
        (py "The source Stage-6 scenario reported failure.").length ≤ 128 := by decide
    have hchecked := h.checked
    simp only [checkReport, uniqueTyped, Checks.unit_bind_ok, Checks.require_ok] at hchecked
    obtain ⟨-, -, -, -, hreasons, -⟩ := hchecked
    by_cases hnone : report.failureReasons = []
    · simp only [if_pos hnone]
      exact demonstrationOutcome_ok hnfc .failure (List.forall_mem_singleton.mpr (by decide))
        (by decide) (List.cons_ne_nil (py "scenario-failed") []) (List.nodup_singleton _)
        hdetail.1 hdetail.2.1 hdetail.2.2
    · simp only [if_neg hnone]
      have hmap : (report.failureReasons.map fun item => Json.str item.value) =
          (report.failureReasons.map (·.value)).map .str := by
        rw [List.map_map]
        rfl
      have hcanonical : ∀ reason : ScenarioFailureReason, World.IsCanonical 64 reason.value := by
        intro reason
        cases reason <;> decide
      rw [hmap]
      refine demonstrationOutcome_ok hnfc .failure ?_ ?_ ?_ (hreasons.2.map
        failureReason_injective) hdetail.1 hdetail.2.1 hdetail.2.2
      · intro text htext
        obtain ⟨reason, -, rfl⟩ := List.mem_map.mp htext
        exact hcanonical reason
      · rw [List.length_map]
        exact hreasons.1
      · exact fun hempty => hnone (List.map_eq_nil_iff.mp hempty)
  | notApplicable =>
    exact demonstrationOutcome_ok hnfc .incomplete
      (List.forall_mem_singleton.mpr (by decide)) (by decide)
      (List.cons_ne_nil (py "scenario-not-applicable") []) (List.nodup_singleton _) (by decide)
      (by decide) (by decide)
  | pass =>
    by_cases hproduction : report.scenarioId = productionDeferScenario
    · simp only [if_pos hproduction]
      exact @demonstrationOutcome_ok nfc hnfc .deferred
        [py "physical-movement-information-unavailable", py "production-dispatch-zero"] _
        (by decide) (by decide) (List.cons_ne_nil _ _) (by decide) (by decide) (by decide)
        (by decide)
    · by_cases hinvalid : report.scenarioId = invalidCommandScenario
      · simp only [if_neg hproduction, if_pos hinvalid]
        exact @demonstrationOutcome_ok nfc hnfc .rejected
          [py "above-maximum", py "invalid-target-not-reached"] _ (by decide) (by decide)
          (List.cons_ne_nil _ _) (by decide) (by decide) (by decide) (by decide)
      · simp only [if_neg hproduction, if_neg hinvalid]
        exact @demonstrationOutcome_ok nfc hnfc .success [py "scenario-pass"] _
          (List.forall_mem_singleton.mpr (by decide)) (by decide) (List.cons_ne_nil _ _)
          (List.nodup_singleton _) (by decide) (by decide) (by decide)

end Outcomes

section Episodes

variable {nfc : Nfc} {p : Platform}

/-- Appending events in their order to a new session keeps them all. -/
theorem DemonstrationCaptureSession.appendAll_ok {session : DemonstrationCaptureSession nfc}
    {events : List (DemonstrationEvent nfc)} (hopen : session.finished = false)
    (hordered : (session.events ++ events).map (·.sequenceIndex) =
      List.range (session.events ++ events).length)
    (hdistinct : ((session.events ++ events).map (·.eventId)).Nodup)
    (hfew : (session.events ++ events).length ≤ maxEventsPerEpisode) :
    session.appendAll events = .ok { session with events := session.events ++ events } := by
  induction events generalizing session with
  | nil =>
    rw [appendAll, List.append_nil]
  | cons event events ih =>
    have hsplit : session.events ++ event :: events = session.events ++ [event] ++ events := by
      rw [List.append_assoc]
      rfl
    have hroom : ¬ maxEventsPerEpisode ≤ session.events.length := by
      rw [List.length_append, List.length_cons] at hfew
      omega
    have hindex : event.sequenceIndex = session.events.length := by
      have hat := congrArg (fun indices : List Nat => indices[session.events.length]?) hordered
      simp only [List.getElem?_map, List.getElem?_append_right (Nat.le_refl _), Nat.sub_self,
        List.getElem?_cons_zero, Option.map_some, List.length_append, List.length_cons] at hat
      rw [List.getElem?_range (by omega)] at hat
      exact Option.some.inj hat
    have hfresh : ¬ session.events.any (fun item => item.eventId = event.eventId) = true := by
      intro hany
      obtain ⟨item, hitem, hsame⟩ := List.any_eq_true.mp hany
      rw [List.map_append, List.nodup_append] at hdistinct
      exact hdistinct.2.2 _ (List.mem_map.mpr ⟨item, hitem, rfl⟩) _
        (List.mem_map.mpr ⟨event, List.mem_cons_self .., rfl⟩) (of_decide_eq_true hsame)
    have hstep : session.append event =
        (.ok (), { session with events := session.events ++ [event] }) := by
      rw [append, if_neg (by rw [hopen]; exact Bool.false_ne_true), if_neg hroom,
        if_neg (not_not.mpr hindex), if_neg hfresh]
    have hrest := @ih { session with events := session.events ++ [event] } hopen
      (by rw [← hsplit]; exact hordered) (by rw [← hsplit]; exact hdistinct)
      (by rw [← hsplit]; exact hfew)
    rw [appendAll, hstep, hsplit]
    exact hrest

/-- An episode of short parts is short. -/
theorem documentSize_episode {sourceTime : DemonstrationSourceTimeRange}
    {provenance : DemonstrationProvenance} {name : World.Name}
    {events : List (DemonstrationEvent nfc)} {outcome : DemonstrationOutcome nfc}
    (hrobot : name.text.length ≤ 16)
    (hclock : sourceTime.clockKind = .unavailable ∧ sourceTime.startNs = none ∧
      sourceTime.endNs = none)
    (hsource : provenance.sourceRef.text.length ≤ 128)
    (hfingerprint : provenance.sourceFingerprint.text.length ≤ 128)
    (hevents : documentSize (.arr (events.map (·.asDict))) ≤ 60500)
    (houtcome : documentSize outcome.asDict ≤ 2500) :
    documentSize (episodeOf p .developmentScenario (some name) sourceTime provenance events
      outcome).asDict ≤ maxSerializedEpisodeBytes := by
  have hdigest : ∀ (tag : String) (document : Json),
      World.isIdentifier (py tag) = true →
      World.isIdentifier (py tag ++ py "-sha256-" ++ py "0") = true → (py tag).length ≤ 32 →
        documentSize (.str (semanticSha256 p (py tag) document)) ≤ 210 := by
    intro tag document htag hplain hlength
    have hspelled := semanticSha256_fingerprint p document htag hplain (by omega)
    have hprintable := printable_identifierRest hspelled.1.1.2.2.2
    have hsize := documentSize_str hprintable
    omega
  have hpolicyDigest := hdigest "teach-mode-capture-policy" capturePolicyDocument (by decide)
    (by decide) (by decide)
  have hpolicyConstants : documentSize (.str Learning.capturePolicyId) +
      documentSize (.str Learning.capturePolicyVersion) ≤ 60 ∧
      keyBudget [py "fingerprint", py "id", py "version"] ≤ 40 := by decide
  have hpolicyFingerprint : documentSize (.str (capturePolicyFingerprint p)) ≤ 210 :=
    hpolicyDigest
  have hpolicy : documentSize (.obj [
      (py "fingerprint", .str (capturePolicyFingerprint p)),
      (py "id", .str Learning.capturePolicyId),
      (py "version", .str Learning.capturePolicyVersion)]) ≤ 320 := by
    have hsize := documentSize_obj [(py "fingerprint", .str (capturePolicyFingerprint p)),
      (py "id", .str Learning.capturePolicyId),
      (py "version", .str Learning.capturePolicyVersion)]
    simp only [List.map_cons, List.map_nil, List.sum_cons, List.sum_nil] at hsize
    omega
  have hschema : documentSize (schemaDocument teachModeSchemaId teachModeSchemaVersion) ≤ 90 := by
    decide
  have hkind : documentSize (.str Learning.DemonstrationSourceKind.developmentScenario.value) ≤
      24 := by decide
  have hname : documentSize (optionalName (some name)) ≤ 34 := documentSize_name name hrobot
  have htime : documentSize sourceTime.asDict ≤ 80 := by
    rw [DemonstrationSourceTimeRange.asDict, hclock.1, hclock.2.1, hclock.2.2]
    decide
  have hreference := documentSize_name provenance.sourceRef hsource
  have hcontents : documentSize (.str provenance.sourceFingerprint.text) ≤ 258 := by
    have hprintable := printable_identifierRest provenance.sourceFingerprint.spelled.1.2.2.2
    have hsize := documentSize_str hprintable
    omega
  have hteacher : documentSize (optionalName provenance.teacherSourceRef) ≤ 2 * 256 + 2 :=
    documentSize_optionalName (by omega) fun item _ => item.canonical.2
  have hprovenanceKeys : keyBudget [py "source_fingerprint", py "source_ref",
      py "teacher_source_ref"] ≤ 60 := by decide
  have hprovenance : documentSize provenance.asDict ≤ 1100 := by
    have hsize := documentSize_obj [
      (py "source_fingerprint", .str provenance.sourceFingerprint.text),
      (py "source_ref", .str provenance.sourceRef.text),
      (py "teacher_source_ref", optionalName provenance.teacherSourceRef)]
    rw [DemonstrationProvenance.asDict]
    simp only [List.map_cons, List.map_nil, List.sum_cons, List.sum_nil] at hsize
    omega
  have hfirst : documentSize (.str ((episodeOf p .developmentScenario (some name) sourceTime
      provenance events outcome).episodeFingerprint)) ≤ 210 :=
    hdigest "demonstration-episode-content" _ (by decide) (by decide) (by decide)
  have hsecond : documentSize (.str ((episodeOf p .developmentScenario (some name) sourceTime
      provenance events outcome).episodeId)) ≤ 210 :=
    hdigest "demonstration-episode" _ (by decide) (by decide) (by decide)
  have hkeys : keyBudget [py "capture_policy", py "events", py "outcome", py "provenance",
      py "robot_id", py "schema", py "source_kind", py "source_time", py "episode_fingerprint",
      py "episode_id"] ≤ 150 := by decide
  generalize hepisode : episodeOf p .developmentScenario (some name) sourceTime provenance events
    outcome = episode at hfirst hsecond ⊢
  have hparts : episode.semanticDocument = [
      (py "capture_policy", .obj [(py "fingerprint", .str (capturePolicyFingerprint p)),
        (py "id", .str Learning.capturePolicyId),
        (py "version", .str Learning.capturePolicyVersion)]),
      (py "events", .arr (events.map (·.asDict))), (py "outcome", outcome.asDict),
      (py "provenance", provenance.asDict), (py "robot_id", optionalName (some name)),
      (py "schema", schemaDocument teachModeSchemaId teachModeSchemaVersion),
      (py "source_kind", .str Learning.DemonstrationSourceKind.developmentScenario.value),
      (py "source_time", sourceTime.asDict)] := by
    rw [← hepisode]
    rfl
  have hsize := documentSize_obj (episode.semanticDocument ++
    [(py "episode_fingerprint", .str episode.episodeFingerprint),
      (py "episode_id", .str episode.episodeId)])
  rw [DemonstrationEpisode.asDict, maxSerializedEpisodeBytes]
  rw [hparts] at hsize ⊢
  simp only [List.map_cons, List.map_nil, List.sum_cons, List.sum_nil, List.cons_append,
    List.nil_append] at hsize ⊢
  omega

/-- The clock of a scenario report is not available. -/
theorem scenarioTime_ok : ∃ sourceTime, sourceTimeRange .unavailable .null .null = .ok sourceTime ∧
    sourceTime.clockKind = .unavailable ∧ sourceTime.startNs = none ∧ sourceTime.endNs = none :=
  ⟨_, rfl, rfl, rfl, rfl⟩

variable {report : DevelopmentScenarioReport} {definition : DevelopmentScenarioDefinition}
  {floats : TargetFloats} {teacherSourceRef : Json} {events : List (DemonstrationEvent nfc)}

/-- The provenance of a verified report. -/
theorem Verified.provenance (h : Verified p definition report)
    (hteacher : TeacherNamed teacherSourceRef) :
    ∃ provenance, demonstrationProvenance (.str report.reportId) (.str report.scenarioFingerprint)
        teacherSourceRef = .ok provenance ∧ provenance.sourceRef.text.length ≤ 128 ∧
      provenance.sourceFingerprint.text.length ≤ 128 := by
  have hid := h.reportId
  have hdigest := h.scenarioFingerprint
  obtain ⟨name, hname⟩ := (@teacher_ok teacherSourceRef (py "teacher_source_ref")).mpr hteacher
  have hfingerprint := fingerprint_of_spelled hdigest.1 (py "provenance source fingerprint")
  refine ⟨⟨⟨report.reportId, canonical_of_fingerprint hid.1⟩,
    ⟨report.scenarioFingerprint, hdigest.1⟩, name⟩, ?_, hid.2, hdigest.2⟩
  rw [demonstrationProvenance, identifier_of_canonical (canonical_of_fingerprint hid.1),
    Checks.ok_bind, hfingerprint, Checks.ok_bind, hname, Checks.ok_bind]
  rfl

/-- A session that is open and has events finishes with the episode that they make. -/
theorem finish_of_built {session : DemonstrationCaptureSession nfc}
    {outcome : DemonstrationOutcome nfc} {episode : DemonstrationEpisode nfc}
    (hopen : ¬session.finished = true) (hpresent : ¬session.events = [])
    (hbuilt : demonstrationEpisode p session.sourceKind session.robotId session.sourceTime
      session.provenance session.events outcome = .ok episode) :
    (session.finish p outcome).1 = .ok (captureResult p episode) := by
  rw [DemonstrationCaptureSession.finish, if_neg hopen, if_neg hpresent, hbuilt]

/-- The events of a verified report are captured in an episode when the teacher can be named. -/
theorem Verified.captured (h : Verified p definition report)
    (hverified : verifiedReport p report = .ok ())
    (hnfc : ∀ text : PyStr, text.all isPrintable = true → nfc.normalize text = text)
    (hevents : scenarioEvents nfc floats report = .ok events) (hrecordable : Recordable events)
    (hteacher : TeacherNamed teacherSourceRef) :
    ∃ result, captureDevelopmentScenarioReport nfc report p floats teacherSourceRef =
        .ok result ∧ result.episode.events = events ∧
      result.episode.outcome.status = matchingStatus report := by
  obtain ⟨sourceTime, htime, hclock⟩ := scenarioTime_ok
  obtain ⟨provenance, hprovenance, hsource, hfingerprint⟩ := h.provenance hteacher
  obtain ⟨outcome, houtcome, hstatus, houtcomeSize⟩ := h.outcomeFor hnfc
  have hdistinct : (events.map (·.eventId)).Nodup := by
    have htexts : (events.map (·.eventId.text)) = (events.map (·.eventId)).map (·.text) := by
      rw [List.map_map]
      rfl
    have hnames := hrecordable.distinct
    rw [htexts] at hnames
    exact hnames.of_map
  have hfew : events.length ≤ maxEventsPerEpisode := hrecordable.few
  have happended := @DemonstrationCaptureSession.appendAll_ok nfc
    (beginSession nfc .developmentScenario (.str ayyoRobotId) sourceTime provenance) events rfl
    hrecordable.ordered hdistinct hfew
  have hcanonical : World.IsCanonical 256 ayyoRobotId := by decide
  have hrobotShort : ayyoRobotId.length ≤ 16 := by decide
  have hbuilt : demonstrationEpisode p .developmentScenario (.str ayyoRobotId) sourceTime
      provenance events outcome = .ok (episodeOf p .developmentScenario
        (some ⟨ayyoRobotId, hcanonical⟩) sourceTime provenance events outcome) := by
    rw [demonstrationEpisode_ok]
    refine ⟨some ⟨ayyoRobotId, hcanonical⟩, optionalIdentifier_of_canonical hcanonical _, ?_, ?_,
      rfl⟩
    · refine ⟨fun _ => rfl, hfew, hrecordable.present, hrecordable.ordered, hdistinct, ?_,
        hrecordable.annotated⟩
      rw [checkEventTimes, if_pos hclock.1, Checks.require_ok]
      exact hrecordable.untimed
    · exact documentSize_episode hrobotShort hclock hsource hfingerprint hrecordable.short
        houtcomeSize
  refine ⟨captureResult p (episodeOf p .developmentScenario (some ⟨ayyoRobotId, hcanonical⟩)
    sourceTime provenance events outcome), ?_, rfl, hstatus⟩
  rw [captureDevelopmentScenarioReport, hverified, Checks.ok_bind, hevents, Checks.ok_bind, htime,
    Checks.ok_bind, hprovenance, Checks.ok_bind, happended, Checks.ok_bind, houtcome,
    Checks.ok_bind]
  have hopen : ¬ (beginSession nfc .developmentScenario (.str ayyoRobotId) sourceTime
      provenance).finished = true := Bool.false_ne_true
  have hpresent : ¬ (beginSession nfc .developmentScenario (.str ayyoRobotId) sourceTime
      provenance).events ++ events = [] := hrecordable.present
  exact finish_of_built hopen hpresent hbuilt

/-- A teacher who cannot be named is a validation error. -/
theorem Verified.unnamed (h : Verified p definition report)
    (hverified : verifiedReport p report = .ok ())
    (hevents : scenarioEvents nfc floats report = .ok events)
    (hteacher : ¬ TeacherNamed teacherSourceRef) :
    ∃ message, captureDevelopmentScenarioReport nfc report p floats teacherSourceRef =
      .error (validationError message) := by
  obtain ⟨sourceTime, htime, -⟩ := scenarioTime_ok
  have hid := h.reportId
  have hdigest := h.scenarioFingerprint
  have hfingerprint := fingerprint_of_spelled hdigest.1 (py "provenance source fingerprint")
  cases hname : optionalIdentifier teacherSourceRef (py "teacher_source_ref") with
  | ok name => exact absurd (teacher_ok.mp ⟨name, hname⟩) hteacher
  | error raised =>
    obtain ⟨message, hmessage⟩ := raises_optionalIdentifier _ _ raised hname
    refine ⟨message, ?_⟩
    rw [captureDevelopmentScenarioReport, hverified, Checks.ok_bind, hevents, Checks.ok_bind,
      htime, Checks.ok_bind, demonstrationProvenance,
      identifier_of_canonical (canonical_of_fingerprint hid.1), Checks.ok_bind, hfingerprint,
      Checks.ok_bind, hname, hmessage]
    rfl

/-- What stops the events stops the capture. -/
theorem captured_error {raised : TeachRaised} (hverified : verifiedReport p report = .ok ())
    (hevents : scenarioEvents nfc floats report = .error raised) :
    captureDevelopmentScenarioReport nfc report p floats teacherSourceRef = .error raised := by
  rw [captureDevelopmentScenarioReport, hverified, Checks.ok_bind, hevents]
  rfl

end Episodes

section Faithful

variable {nfc : Nfc}

/-- The assertions about an action whose completion or rejection is recorded. -/
def assertionsAbout : List (PyStr × List PyStr) :=
  [(py "development-neck-target-result",
      [py "development-command-completed", py "neck-target-observed"]),
    (py "development-neck-neutral-reset", [py "neck-restored-neutral"]),
    (py "invalid-development-neck-rejection",
      [py "invalid-command-rejected", py "typed-rejection-reason", py "invalid-not-clamped"])]

/-- The assertions that an annotation states of a motion or of a rejection. -/
def assertionsStated : List (PyStr × List PyStr) :=
  [(py motionObserved, [py "neck-target-observed", py "neck-restored-neutral"]),
    (py rejectionObserved, [py "invalid-command-rejected", py "invalid-target-not-reached"])]

/-- The assertions passed in the report. -/
def Passed (report : DevelopmentScenarioReport) (assertionIds : List PyStr) : Prop :=
  ∀ id ∈ assertionIds, ∃ result ∈ report.assertionResults,
    result.assertionId.text = id ∧ result.outcome = .pass

/-- The disposition says that an action was completed or rejected. -/
def IsSettled (disposition : DemonstrationActionDisposition) : Prop :=
  disposition = .completed ∨ disposition = .rejected

instance (disposition : DemonstrationActionDisposition) : Decidable (IsSettled disposition) :=
  inferInstanceAs (Decidable (_ ∨ _))

/-- The event claims that a motion was completed or a command rejected. -/
def Claims (event : DemonstrationEvent nfc) : Prop :=
  (∃ action ∈ event.actionReferences, IsSettled action.disposition) ∨
    ∃ note ∈ event.annotations, note.text.text ∈ assertionsStated.map Prod.fst

/-- An episode claims no more than the report it was captured from. -/
structure EpisodeFaithful (report : DevelopmentScenarioReport)
    (episode : DemonstrationEpisode nfc) : Prop where
  /-- Completed and rejected actions are backed by assertions that passed. -/
  settled : ∀ event ∈ episode.events, ∀ action ∈ event.actionReferences,
    IsSettled action.disposition →
      ∃ ids, (action.actionId.text, ids) ∈ assertionsAbout ∧ Passed report ids
  /-- Stated motions and rejections are backed by assertions that passed. -/
  stated : ∀ event ∈ episode.events, ∀ note ∈ event.annotations,
    note.text.text ∈ assertionsStated.map Prod.fst →
      ∃ ids, (note.text.text, ids) ∈ assertionsStated ∧ Passed report ids
  /-- A report that did not pass gives no claim. -/
  unclaimed : report.outcome ≠ .pass → ∀ event ∈ episode.events, ¬ Claims event
  /-- The statuses match. -/
  status : episode.outcome.status = matchingStatus report

/-- A capture is faithful or raises an error of the adapter. -/
def CaptureFaithful (report : DevelopmentScenarioReport)
    (run : Except TeachRaised (DemonstrationCaptureResult nfc)) : Prop :=
  match run with
  | .ok result => EpisodeFaithful report result.episode
  | .error raised => IsAdapter raised

/-- The decisions of the report prove that the request was deferred. -/
def ProvesDeferral (report : DevelopmentScenarioReport) : Prop :=
  ∃ decisions, deferredDecisions report = .ok decisions

/-- When the capture of a report is faithful: in the scenarios that move or reject, the report has
to pass and to fit into one event; in the production scenario it has to fit into two events
unless its decisions are refused; in the others an identity must not be observed twice unless
there are too many; and a teacher, where one is looked at, has to be named by an identifier. -/
def CaptureCondition (report : DevelopmentScenarioReport) (teacherSourceRef : Json) : Prop :=
  if report.scenarioId = developmentMotionScenario ∨ report.scenarioId = invalidCommandScenario then
    report.outcome = .pass ∧ FitsOneEvent report ∧ TeacherNamed teacherSourceRef
  else if report.scenarioId = productionDeferScenario then
    ProvesDeferral report → FitsTwoEvents report ∧ TeacherNamed teacherSourceRef
  else 15 < report.observedIdentities.length + report.sources.length ∨
    DistinctIdentities report ∧ TeacherNamed teacherSourceRef

end Faithful

section Backing

variable {nfc : Nfc} {p : Platform} {report : DevelopmentScenarioReport}
  {definition : DevelopmentScenarioDefinition} {episode : DemonstrationEpisode nfc}
  {claims : List (List (PyStr × DemonstrationActionDisposition) × List PyStr)}

/-- A table names required assertions under a text. -/
def NamesRequired (definition : DevelopmentScenarioDefinition)
    (table : List (PyStr × List PyStr)) (text : PyStr) : Prop :=
  ∃ entry ∈ table, entry.1 = text ∧ ∀ id ∈ entry.2, id ∈ definition.required

instance (definition : DevelopmentScenarioDefinition) (table : List (PyStr × List PyStr))
    (text : PyStr) : Decidable (NamesRequired definition table text) :=
  inferInstanceAs (Decidable (∃ entry ∈ table, entry.1 = text ∧ ∀ id ∈ entry.2,
    id ∈ definition.required))

/-- What is claimed is about required assertions. -/
structure Backed (definition : DevelopmentScenarioDefinition)
    (claims : List (List (PyStr × DemonstrationActionDisposition) × List PyStr)) : Prop where
  settled : ∀ claim ∈ claims, ∀ action ∈ claim.1, IsSettled action.2 →
    NamesRequired definition assertionsAbout action.1
  stated : ∀ claim ∈ claims, ∀ text ∈ claim.2, text ∈ assertionsStated.map Prod.fst →
    NamesRequired definition assertionsStated text

/-- Nothing is claimed. -/
def Claimless (claims : List (List (PyStr × DemonstrationActionDisposition) × List PyStr)) :
    Prop :=
  ∀ claim ∈ claims, (∀ action ∈ claim.1, ¬ IsSettled action.2) ∧
    ∀ text ∈ claim.2, text ∉ assertionsStated.map Prod.fst

/-- The required assertions of a report that passed have passed. -/
theorem Verified.passed (h : Verified p definition report) (hpass : report.outcome = .pass)
    {assertionIds : List PyStr} (hids : ∀ id ∈ assertionIds, id ∈ definition.required) :
    Passed report assertionIds := by
  intro id hid
  have hrequired := hids id hid
  have hdeclared : id ∈ definition.assertions.map (·.assertionId) := by
    obtain ⟨item, hitem, htext⟩ := List.mem_map.mp hrequired
    exact List.mem_map.mpr ⟨item, (List.mem_filter.mp hitem).1, htext⟩
  obtain ⟨result, hresult, htext, -⟩ := h.result hdeclared
  have hchecked := h.checked
  simp only [checkReport, uniqueTyped, Checks.unit_bind_ok, Checks.require_ok] at hchecked
  obtain ⟨-, -, -, hmet, -⟩ := hchecked
  exact ⟨result, hresult, htext, hmet hpass result hresult (by rw [htext]; exact hrequired)⟩

/-- An event's actions and annotations are those it was seen with. -/
theorem mem_claims {events : List (DemonstrationEvent nfc)} {event : DemonstrationEvent nfc}
    (hclaims : events.map claimsOf = claims) (hevent : event ∈ events) :
    ∃ claim ∈ claims,
      (∀ action ∈ event.actionReferences,
        (action.actionId.text, action.disposition) ∈ claim.1) ∧
      ∀ note ∈ event.annotations, note.text.text ∈ claim.2 := by
  refine ⟨claimsOf event, ?_, ?_, ?_⟩
  · rw [← hclaims]
    exact List.mem_map.mpr ⟨event, hevent, rfl⟩
  · intro action haction
    exact List.mem_map.mpr ⟨action, haction, rfl⟩
  · intro note hnote
    exact List.mem_map.mpr ⟨note, hnote, rfl⟩

/-- A passing report backs claims about its required assertions. -/
theorem Verified.faithful_of_pass (h : Verified p definition report)
    (hpass : report.outcome = .pass) (hclaims : episode.events.map claimsOf = claims)
    (hbacked : Backed definition claims)
    (hstatus : episode.outcome.status = matchingStatus report) :
    EpisodeFaithful report episode := by
  refine ⟨?_, ?_, fun hnot => absurd hpass hnot, hstatus⟩
  · intro event hevent action haction hsettled
    obtain ⟨claim, hclaim, hactions, -⟩ := mem_claims hclaims hevent
    obtain ⟨entry, hentry, hid, hrequired⟩ :=
      hbacked.settled claim hclaim _ (hactions action haction) hsettled
    have hname : entry.1 = action.actionId.text := hid
    refine ⟨entry.2, ?_, h.passed hpass hrequired⟩
    rw [← hname]
    exact hentry
  · intro event hevent note hnote hstated
    obtain ⟨claim, hclaim, -, hnotes⟩ := mem_claims hclaims hevent
    obtain ⟨entry, hentry, htext, hrequired⟩ :=
      hbacked.stated claim hclaim _ (hnotes note hnote) hstated
    refine ⟨entry.2, ?_, h.passed hpass hrequired⟩
    rw [← htext]
    exact hentry

/-- An episode without claims is faithful when the statuses match. -/
theorem faithful_of_claimless (hclaims : episode.events.map claimsOf = claims)
    (hnone : Claimless claims) (hstatus : episode.outcome.status = matchingStatus report) :
    EpisodeFaithful report episode := by
  have haction : ∀ event ∈ episode.events, ∀ action ∈ event.actionReferences,
      ¬ IsSettled action.disposition := by
    intro event hevent action hmem
    obtain ⟨claim, hclaim, hactions, -⟩ := mem_claims hclaims hevent
    exact (hnone claim hclaim).1 _ (hactions action hmem)
  have hnote : ∀ event ∈ episode.events, ∀ note ∈ event.annotations,
      note.text.text ∉ assertionsStated.map Prod.fst := by
    intro event hevent note hmem
    obtain ⟨claim, hclaim, -, hnotes⟩ := mem_claims hclaims hevent
    exact (hnone claim hclaim).2 _ (hnotes note hmem)
  refine ⟨?_, ?_, ?_, hstatus⟩
  · intro event hevent action hmem hsettled
    exact absurd hsettled (haction event hevent action hmem)
  · intro event hevent note hmem hstated
    exact absurd hstated (hnote event hevent note hmem)
  · intro _ event hevent hclaim
    cases hclaim with
    | inl hsettled =>
      obtain ⟨action, hmem, hdone⟩ := hsettled
      exact haction event hevent action hmem hdone
    | inr hstated =>
      obtain ⟨note, hmem, htext⟩ := hstated
      exact hnote event hevent note hmem htext

/-- An episode with a settled action is not faithful to a report that did not pass. -/
theorem not_faithful_of_settled (hnot : report.outcome ≠ .pass)
    (hclaims : episode.events.map claimsOf = claims)
    (hsettled : ∃ claim ∈ claims, ∃ action ∈ claim.1, IsSettled action.2) :
    ¬ EpisodeFaithful report episode := by
  intro hfaithful
  obtain ⟨claim, hclaim, action, haction, hdone⟩ := hsettled
  rw [← hclaims] at hclaim
  obtain ⟨event, hevent, heq⟩ := List.mem_map.mp hclaim
  rw [← heq] at haction
  obtain ⟨reference, hreference, hpair⟩ := List.mem_map.mp haction
  refine hfaithful.unclaimed hnot event hevent (Or.inl ⟨reference, hreference, ?_⟩)
  rw [← hpair] at hdone
  exact hdone

/-- A validation error is not one of the adapter. -/
theorem not_isAdapter (message : PyStr) : ¬ IsAdapter (validationError message) := by
  intro h
  obtain ⟨text, htext⟩ := h
  simp only [validationError, adapterError, Raised.typed.injEq, TeachModeError.mk.injEq,
    reduceCtorEq, false_and] at htext

end Backing

section Conditions

variable {nfc : Nfc} {p : Platform} {report : DevelopmentScenarioReport}
  {definition : DevelopmentScenarioDefinition} {floats : TargetFloats} {teacherSourceRef : Json}

/-- A verified report is of the scenario that it names. -/
theorem Verified.ofCatalog (h : Verified p definition report) :
    definition ∈ scenarioCatalog ∧ definition.scenarioId = report.scenarioId := by
  have hfound := h.found
  unfold scenarioById at hfound
  cases hrun : scenarioCatalog.find? fun item => item.scenarioId = report.scenarioId with
  | none =>
    rw [hrun] at hfound
    cases hfound
  | some item =>
    rw [hrun] at hfound
    cases hfound
    have hid := List.find?_some hrun
    rw [decide_eq_true_eq] at hid
    exact ⟨List.mem_of_find?_eq_some hrun, hid⟩

/-- No two scenarios of the catalog have one name. -/
theorem catalog_nodup : (scenarioCatalog.map (·.scenarioId)).Nodup := by decide

/-- The scenarios with branches of their own are in the catalog. -/
theorem branches_cataloged : developmentNeckActuation ∈ scenarioCatalog ∧
    productionMotionDeferred ∈ scenarioCatalog ∧ invalidDevelopmentCommand ∈ scenarioCatalog := by
  simp [scenarioCatalog]

/-- The scenario of a name of the catalog. -/
theorem Verified.definition_eq (h : Verified p definition report)
    {expected : DevelopmentScenarioDefinition} (hid : report.scenarioId = expected.scenarioId)
    (hexpected : expected ∈ scenarioCatalog) : definition = expected :=
  List.inj_on_of_nodup_map catalog_nodup h.ofCatalog.1 hexpected (h.ofCatalog.2.trans hid)

/-- Where the events are recorded just when the report fits, and an episode of them is faithful just
when `backed`, the capture is faithful exactly when both hold and the teacher is named. -/
theorem Verified.captured_iff (h : Verified p definition report)
    (hverified : verifiedReport p report = .ok ())
    (hnfc : ∀ text : PyStr, text.all isPrintable = true → nfc.normalize text = text)
    {claims : List (List (PyStr × DemonstrationActionDisposition) × List PyStr)}
    {fits backed : Prop} [Decidable fits]
    (hevents : if fits then
        ∃ events, scenarioEvents nfc floats report = .ok events ∧ Recordable events ∧
          events.map claimsOf = claims
      else ∃ message, scenarioEvents nfc floats report = .error (validationError message))
    (hbacked : ∀ episode : DemonstrationEpisode nfc, episode.events.map claimsOf = claims →
      episode.outcome.status = matchingStatus report → (EpisodeFaithful report episode ↔ backed)) :
    CaptureFaithful report
        (captureDevelopmentScenarioReport nfc report p floats teacherSourceRef) ↔
      backed ∧ fits ∧ TeacherNamed teacherSourceRef := by
  by_cases hfits : fits
  · rw [if_pos hfits] at hevents
    obtain ⟨events, hrun, hrecordable, hclaims⟩ := hevents
    by_cases hteacher : TeacherNamed teacherSourceRef
    · obtain ⟨result, hcaptured, hheld, hstatus⟩ :=
        h.captured hverified hnfc hrun hrecordable hteacher
      rw [hcaptured]
      have hiff := hbacked result.episode (by rw [hheld, hclaims]) hstatus
      exact hiff.trans ⟨fun hgood => ⟨hgood, hfits, hteacher⟩, fun hall => hall.1⟩
    · obtain ⟨message, hrefused⟩ := @Verified.unnamed nfc p report definition floats
        teacherSourceRef events h hverified hrun hteacher
      rw [hrefused]
      exact ⟨fun hfaithful => absurd hfaithful (not_isAdapter message),
        fun hcondition => absurd hcondition.2.2 hteacher⟩
  · rw [if_neg hfits] at hevents
    obtain ⟨message, hrun⟩ := hevents
    rw [captured_error hverified hrun]
    exact ⟨fun hfaithful => absurd hfaithful (not_isAdapter message),
      fun hcondition => absurd hcondition.2.1 hfits⟩

/-- An episode whose settled actions are backed is faithful exactly to a report that passed. -/
theorem Verified.faithful_iff_pass (h : Verified p definition report)
    {claims : List (List (PyStr × DemonstrationActionDisposition) × List PyStr)}
    (hbacked : Backed definition claims)
    (hsettled : ∃ claim ∈ claims, ∃ action ∈ claim.1, IsSettled action.2)
    (episode : DemonstrationEpisode nfc) (hclaims : episode.events.map claimsOf = claims)
    (hstatus : episode.outcome.status = matchingStatus report) :
    EpisodeFaithful report episode ↔ report.outcome = .pass := by
  constructor
  · intro hfaithful
    by_contra hnot
    exact not_faithful_of_settled hnot hclaims hsettled hfaithful
  · exact fun hpass => h.faithful_of_pass hpass hclaims hbacked hstatus

/-- In a scenario whose events claim nothing, the capture is faithful exactly when its events are
built and the teacher is named. -/
theorem Verified.claimless_iff (h : Verified p definition report)
    (hverified : verifiedReport p report = .ok ())
    (hnfc : ∀ text : PyStr, text.all isPrintable = true → nfc.normalize text = text)
    {claims : List (List (PyStr × DemonstrationActionDisposition) × List PyStr)} {fits : Prop}
    [Decidable fits]
    (hevents : if fits then
        ∃ events, scenarioEvents nfc floats report = .ok events ∧ Recordable events ∧
          events.map claimsOf = claims
      else ∃ message, scenarioEvents nfc floats report = .error (validationError message))
    (hnone : Claimless claims) :
    CaptureFaithful report
        (captureDevelopmentScenarioReport nfc report p floats teacherSourceRef) ↔
      fits ∧ TeacherNamed teacherSourceRef := by
  rw [h.captured_iff hverified hnfc hevents fun episode hclaims hstatus =>
    iff_true_intro (faithful_of_claimless hclaims hnone hstatus), true_and]

/-- The claims of the motion scenario. -/
def motionClaims : List (List (PyStr × DemonstrationActionDisposition) × List PyStr) :=
  [([], []), ([(py "development-neck-target-request", .requested)], [py motionLimitation]),
    ([(py "development-neck-target-result", .completed)], []),
    ([(py "development-neck-neutral-reset", .completed)], []), ([], [py motionObserved])]

/-- The claims of the invalid command's scenario. -/
def rejectionClaims : List (List (PyStr × DemonstrationActionDisposition) × List PyStr) :=
  [([], []), ([(py "invalid-development-neck-request", .requested),
      (py "invalid-development-neck-rejection", .rejected)], []),
    ([], []), ([], [py rejectionObserved])]

/-- The claims are about required assertions. -/
theorem claims_backed : Backed developmentNeckActuation motionClaims ∧
    Backed invalidDevelopmentCommand rejectionClaims :=
  ⟨⟨by decide, by decide⟩, ⟨by decide, by decide⟩⟩

/-- Each of the two scenarios settles an action. -/
theorem claims_settled :
    (∃ claim ∈ motionClaims, ∃ action ∈ claim.1, IsSettled action.2) ∧
      ∃ claim ∈ rejectionClaims, ∃ action ∈ claim.1, IsSettled action.2 := by
  decide

/-- The production scenario and the others claim nothing. -/
theorem claims_none :
    Claimless [
      ([(py "production-neck-position-request", .requested)], []),
      ([(py "executive-neck-proposal", .proposed)], []),
      ([(py "safety-neck-decision", .deferred)], []),
      ([(py "skill-neck-binding", .ineligible)], []),
      ([(py "runtime-neck-eligibility", .deferred),
        (py "production-neck-nondispatch", .notDispatched)], []),
      ([], []),
      ([], [py deferralKept])] ∧
    Claimless [([], []), ([], [py resultPreserved])] := by
  unfold Claimless
  decide

/-- In the two scenarios that settle an action the capture is faithful exactly when the report
passed, fits and the teacher is named. -/
theorem Verified.settling (h : Verified p definition report)
    (hverified : verifiedReport p report = .ok ())
    (hnfc : ∀ text : PyStr, text.all isPrintable = true → nfc.normalize text = text)
    (hscenario : report.scenarioId = developmentMotionScenario ∨
      report.scenarioId = invalidCommandScenario) :
    CaptureFaithful report
        (captureDevelopmentScenarioReport nfc report p floats teacherSourceRef) ↔
      report.outcome = .pass ∧ FitsOneEvent report ∧ TeacherNamed teacherSourceRef := by
  by_cases hmotion : report.scenarioId = developmentMotionScenario
  · have hdefinition := @Verified.definition_eq p report definition h developmentNeckActuation
      hmotion branches_cataloged.1
    rw [hdefinition] at h
    have hevents := @Verified.motionEvents nfc p report h hnfc floats
    have hbranch : scenarioEvents nfc floats report = developmentMotionEvents nfc floats report :=
      if_pos hmotion
    rw [← hbranch] at hevents
    exact h.captured_iff hverified hnfc hevents
      (h.faithful_iff_pass claims_backed.1 claims_settled.1)
  · have hinvalid := hscenario.resolve_left hmotion
    have hdefinition := @Verified.definition_eq p report definition h invalidDevelopmentCommand
      hinvalid branches_cataloged.2.2
    rw [hdefinition] at h
    have hevents := @Verified.rejectionEvents nfc p report h hnfc floats
    have hproduction : report.scenarioId ≠ productionDeferScenario := by
      rw [hinvalid]
      decide
    have hbranch : scenarioEvents nfc floats report = invalidCommandEvents nfc floats report := by
      rw [scenarioEvents, if_neg hmotion, if_neg hproduction, if_pos hinvalid]
    rw [← hbranch] at hevents
    exact h.captured_iff hverified hnfc hevents
      (h.faithful_iff_pass claims_backed.2 claims_settled.2)

/-- The capture of a verified report is faithful, or raises an error of the adapter, exactly under
the condition: in the scenarios that move or reject the report has to have passed. -/
theorem capture_faithful_iff (p : Platform) (nfc : Nfc)
    (hnfc : ∀ text : PyStr, text.all isPrintable = true → nfc.normalize text = text)
    (floats : TargetFloats) (report : DevelopmentScenarioReport) (teacherSourceRef : Json)
    (hverified : verifiedReport p report = .ok ()) :
    CaptureFaithful report
        (captureDevelopmentScenarioReport nfc report p floats teacherSourceRef) ↔
      CaptureCondition report teacherSourceRef := by
  obtain ⟨definition, h⟩ := verified_of_ok hverified
  unfold CaptureCondition
  by_cases hsettling : report.scenarioId = developmentMotionScenario ∨
      report.scenarioId = invalidCommandScenario
  · rw [if_pos hsettling]
    exact h.settling hverified hnfc hsettling
  · have hmotion : report.scenarioId ≠ developmentMotionScenario :=
      fun hid => hsettling (Or.inl hid)
    have hinvalid : report.scenarioId ≠ invalidCommandScenario :=
      fun hid => hsettling (Or.inr hid)
    rw [if_neg hsettling]
    by_cases hproduction : report.scenarioId = productionDeferScenario
    · rw [if_pos hproduction]
      have hdefinition := @Verified.definition_eq p report definition h productionMotionDeferred
        hproduction branches_cataloged.2.1
      rw [hdefinition] at h
      have hbranch : scenarioEvents nfc floats report =
          productionDeferEvents nfc floats report := by
        rw [scenarioEvents, if_neg hmotion, if_pos hproduction]
      cases hdecisions : deferredDecisions report with
      | error raised =>
        have hadapter := raises_deferredDecisions report raised hdecisions
        have hrun : scenarioEvents nfc floats report = .error raised := by
          rw [hbranch, productionDeferEvents, hdecisions]
          rfl
        rw [captured_error hverified hrun]
        constructor
        · intro _ hproves
          obtain ⟨decisions, hok⟩ := hproves
          rw [hok] at hdecisions
          cases hdecisions
        · intro _
          exact hadapter
      | ok decisions =>
        have hevents := @Verified.deferralEvents nfc p report h hnfc floats decisions hdecisions
        rw [← hbranch] at hevents
        have hiff := @Verified.claimless_iff nfc p report _ floats teacherSourceRef h hverified
          hnfc _ _ _ hevents claims_none.1
        rw [hiff]
        exact ⟨fun hfits _ => hfits, fun hfits => hfits ⟨decisions, hdecisions⟩⟩
    · rw [if_neg hproduction]
      have hbranch : scenarioEvents nfc floats report = genericEvents nfc report := by
        rw [scenarioEvents, if_neg hmotion, if_neg hproduction, if_neg hinvalid]
      have hevents := @Verified.genericEvents nfc p report definition h hnfc
      rw [← hbranch] at hevents
      by_cases hmany : 15 < report.observedIdentities.length + report.sources.length
      · rw [if_pos hmany] at hevents
        obtain ⟨message, hrun⟩ := hevents
        rw [captured_error hverified hrun]
        exact ⟨fun _ => Or.inl hmany, fun _ => ⟨message, rfl⟩⟩
      · rw [if_neg hmany] at hevents
        have hiff := @Verified.claimless_iff nfc p report _ floats teacherSourceRef h hverified
          hnfc _ _ _ hevents claims_none.2
        rw [hiff]
        exact ⟨fun hfits => Or.inr hfits, fun hfits => hfits.resolve_left hmany⟩

/-- A report of a scenario that settles an action and did not pass is not captured faithfully. -/
theorem unfaithful_of_not_passed (p : Platform) (nfc : Nfc)
    (hnfc : ∀ text : PyStr, text.all isPrintable = true → nfc.normalize text = text)
    (report : DevelopmentScenarioReport) (floats : TargetFloats) (teacherSourceRef : Json)
    (hverified : verifiedReport p report = .ok ())
    (hscenario : report.scenarioId = developmentMotionScenario ∨
      report.scenarioId = invalidCommandScenario)
    (houtcome : report.outcome ≠ .pass) :
    ¬ (verifiedReport p report = .ok () → CaptureFaithful report
        (captureDevelopmentScenarioReport nfc report p floats teacherSourceRef)) := by
  intro hfaithful
  obtain ⟨definition, h⟩ := verified_of_ok hverified
  exact houtcome ((h.settling hverified hnfc hscenario).mp (hfaithful hverified)).1

end Conditions

section Unperformed

/-- A detail can be reported. -/
theorem notRun_checked : IsReportText (py "not run") := by decide

/-- The detail of an assertion that was not run. -/
def notRun : ReportText := ⟨py "not run", notRun_checked⟩

/-- The result of an assertion that was not run. -/
def skipped (assertionId : ScenarioName) : DevelopmentScenarioAssertionResult where
  assertionId := assertionId
  outcome := .notApplicable
  detail := notRun
  reasons := []
  few := ⟨Nat.zero_le _, List.nodup_nil⟩
  passing := fun _ => rfl
  failed := fun h => nomatch h

/-- The motion scenario's assertions are named by identifiers. -/
theorem motionNames_canonical : ∀ item ∈ developmentNeckActuation.assertions,
    World.IsCanonical 128 item.assertionId := by
  decide

/-- The names of the motion scenario's assertions. -/
def motionAssertions : List ScenarioName :=
  developmentNeckActuation.assertions.attach.map fun item =>
    ⟨item.1.assertionId, motionNames_canonical item.1 item.2⟩

/-- The robot's identity is named by identifiers. -/
theorem robotNames_canonical : World.IsCanonical 128 (py "robot") ∧
    World.IsCanonical 128 (py "ayyo.robot.v1") := by
  decide

/-- A motion scenario of which nothing was run. -/
def unperformed : ScenarioEvidence where
  outcome := .notApplicable
  assertionResults := motionAssertions.map skipped
  failureReasons := []
  observedIdentities := [⟨⟨py "robot", robotNames_canonical.1⟩,
    ⟨py "ayyo.robot.v1", robotNames_canonical.2⟩⟩]
  policyDecisions := []
  developmentAuthorityUsed := false
  productionDispatchCount := 0
  sources := []
  cleanup := ⟨.clean, 0, notRun, Nat.zero_le _, fun _ => rfl⟩

/-- Floats that no integer converts to, which the adapter does not ask for. -/
def noFloats : TargetFloats := ⟨fun _ => none⟩

/-- The report of a motion scenario of which nothing was run. -/
def unperformedReport : DevelopmentScenarioReport :=
  builtReport Platform.ascii developmentNeckActuation unperformed

/-- The motion scenario is found by its name. -/
theorem neckActuation_found :
    scenarioById developmentNeckActuation.scenarioId = .ok developmentNeckActuation := by
  unfold scenarioById
  cases hrun : scenarioCatalog.find? fun item =>
      item.scenarioId = developmentNeckActuation.scenarioId with
  | none =>
    rw [List.find?_eq_none] at hrun
    exact absurd (decide_eq_true rfl) (hrun developmentNeckActuation branches_cataloged.1)
  | some item =>
    have hid := List.find?_some hrun
    rw [decide_eq_true_eq] at hid
    rw [List.inj_on_of_nodup_map catalog_nodup (List.mem_of_find?_eq_some hrun)
      branches_cataloged.1 hid]

/-- Results of assertions that were not run carry the names of the assertions. -/
theorem skipped_names {assertions : List DevelopmentScenarioAssertion}
    (h : ∀ item ∈ assertions, World.IsCanonical 128 item.assertionId) :
    ((assertions.attach.map fun item =>
      (⟨item.1.assertionId, h item.1 item.2⟩ : ScenarioName)).map skipped).map
        (·.assertionId.text) = assertions.map (·.assertionId) := by
  rw [List.map_map, List.map_map]
  exact assertions.attach_map_val (f := fun item => item.assertionId)

/-- The texts of the assertions that were not run are the names of the scenario's assertions. -/
theorem unperformed_names :
    unperformed.assertionResults.map (·.assertionId.text) =
      developmentNeckActuation.assertions.map (·.assertionId) :=
  skipped_names motionNames_canonical

/-- The motion scenario names no assertion twice, and few enough. -/
theorem motionNames_nodup :
    (developmentNeckActuation.assertions.map (·.assertionId)).Nodup ∧
      developmentNeckActuation.assertions.length ≤ maxAssertionsPerScenario := by
  decide

/-- Every assertion that was not run is not applicable. -/
theorem unperformed_outcomes :
    ∀ item ∈ unperformed.assertionResults, item.outcome = .notApplicable := by
  intro item hitem
  obtain ⟨name, _, rfl⟩ := List.mem_map.mp hitem
  rfl

/-- The report constructor accepts a motion scenario of which nothing was run. -/
theorem unperformed_checked : checkReport developmentNeckActuation unperformed = .ok () := by
  have hnames := unperformed_names
  have hnodup := motionNames_nodup
  have hlength : unperformed.assertionResults.length ≤ maxAssertionsPerScenario := by
    have h := congrArg List.length hnames
    rw [List.length_map, List.length_map] at h
    rw [h]
    exact hnodup.2
  have hdistinct : (unperformed.assertionResults.map (·.assertionId)).Nodup := by
    apply List.Nodup.of_map (·.text)
    rw [List.map_map]
    exact hnames ▸ hnodup.1
  have hnot : ¬ unperformed.MustFail developmentNeckActuation := by
    intro h
    cases h with
    | inl h =>
      obtain ⟨item, hitem, _, hfailed⟩ := h
      rw [unperformed_outcomes item hitem] at hfailed
      cases hfailed
    | inr h => cases h
  have hmatched : (∀ item ∈ unperformed.assertionResults,
        item.assertionId.text ∈ developmentNeckActuation.assertions.map (·.assertionId)) ∧
      ∀ item ∈ developmentNeckActuation.assertions,
        item.assertionId ∈ unperformed.assertionResults.map (·.assertionId.text) := by
    rw [hnames]
    refine ⟨fun item hitem => ?_, fun item hitem => List.mem_map_of_mem hitem⟩
    rw [← hnames]
    exact List.mem_map_of_mem (f := fun x : DevelopmentScenarioAssertionResult =>
      x.assertionId.text) hitem
  have hoverall : unperformed.outcome ≠ .pass := fun h => nomatch h
  have hfailed : unperformed.outcome ≠ .fail := fun h => nomatch h
  have hidentities : unperformed.observedIdentities.length ≤ maxObservedIdentities ∧
      (unperformed.observedIdentities.map id).Nodup :=
    ⟨Nat.succ_le_succ (Nat.zero_le _), List.nodup_singleton _⟩
  have hcount : 0 ≤ unperformed.productionDispatchCount ∧
      unperformed.productionDispatchCount ≤ 16 :=
    ⟨Int.le_refl 0, Int.zero_le_ofNat 16⟩
  simp only [checkReport, uniqueTyped, Checks.unit_bind_ok, Checks.require_ok]
  exact ⟨⟨hlength, hdistinct⟩, hmatched, ⟨fun h => absurd h hfailed, fun h => absurd h hnot⟩,
    fun h => absurd h hoverall, ⟨Nat.zero_le _, List.nodup_nil⟩, fun _ => rfl, hidentities,
    ⟨Nat.zero_le _, List.nodup_nil⟩, fun _ => rfl, hcount, Nat.zero_le _, List.nodup_nil⟩

/-- The report is verified. -/
theorem unperformed_verified : verifiedReport Platform.ascii unperformedReport = .ok () :=
  verifiedReport_built neckActuation_found unperformed_checked rfl

/-- It is a report of the motion scenario that did not pass. -/
theorem unperformedReport_shown : unperformedReport.scenarioId = developmentMotionScenario ∧
    unperformedReport.outcome ≠ .pass := by
  have hscenario : ∀ definition, (builtReport Platform.ascii definition unperformed).scenarioId =
      definition.scenarioId := fun _ => rfl
  have houtcome : ∀ definition, (builtReport Platform.ascii definition unperformed).outcome =
      unperformed.outcome := fun _ => rfl
  rw [unperformedReport, hscenario, houtcome]
  exact ⟨rfl, fun h => nomatch h⟩

/-- Its capture is not faithful: the target and the reset are recorded as completed. -/
theorem unperformed_unfaithful :
    ¬ (verifiedReport Platform.ascii unperformedReport = .ok () →
      CaptureFaithful unperformedReport (captureDevelopmentScenarioReport Nfc.ascii
        unperformedReport Platform.ascii noFloats .null)) :=
  unfaithful_of_not_passed Platform.ascii Nfc.ascii (fun _ _ => rfl) unperformedReport
    noFloats .null unperformed_verified (Or.inl unperformedReport_shown.1)
    unperformedReport_shown.2

/-- The condition at that report. -/
theorem unperformed_condition :
    CaptureFaithful unperformedReport (captureDevelopmentScenarioReport Nfc.ascii
        unperformedReport Platform.ascii noFloats .null) ↔
      CaptureCondition unperformedReport .null :=
  capture_faithful_iff Platform.ascii Nfc.ascii (fun _ _ => rfl) noFloats unperformedReport .null
    unperformed_verified

end Unperformed

end Teach
end AyyoHumanoid
