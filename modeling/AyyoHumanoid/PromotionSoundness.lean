import AyyoHumanoid.LearningSoundness
import AyyoHumanoid.PromotionModels

/-!
# Eligible promotions stay within their criteria

An eligible decision was made on a verified report, so its counts are the counts
of the holdout episodes themselves. The limits of the criteria therefore hold of
the failed and of the unevaluated episodes.
-/

namespace AyyoHumanoid
namespace Promotion

open PyText PyCollections Artifacts Learning

section Episodes

instance {trials : List OfflineTrialResult} {episodeId : PyStr}
    {condition : OfflineTrialStatus → Prop} [DecidablePred condition] :
    Decidable (HasTrial trials episodeId condition) :=
  inferInstanceAs (Decidable (∃ trial ∈ trials, _))

/-- The identifiers of the holdout episodes of a report. -/
def holdoutIds (report : OfflineEvaluationReport) : List PyStr :=
  report.corpus.holdoutEvaluation.episodes.map (·.episodeId)

/-- The holdout episodes with a different outcome. -/
def failedEpisodes (report : OfflineEvaluationReport) : List PyStr :=
  (holdoutIds report).filter fun id => HasTrial report.trialEvidence id (· = .outcomeMismatch)

/-- The holdout episodes without a result. -/
def unevaluatedEpisodes (report : OfflineEvaluationReport) : List PyStr :=
  (holdoutIds report).filter fun id => ¬HasTrial report.trialEvidence id (· ≠ .incomplete)

/-- The failed and the unevaluated episodes are within the limits of the criteria. -/
structure WithinLimits (criteria : PromotionCriteria) (report : OfflineEvaluationReport) :
    Prop where
  /-- Not too many episodes failed. -/
  failed : ((failedEpisodes report).length : Int) ≤ criteria.maximumFailedTrials
  /-- Enough episodes were evaluated. -/
  evaluated : criteria.minimumEvaluatedTrials + (unevaluatedEpisodes report).length ≤
    (holdoutIds report).length
  /-- A required complete evaluation leaves no episode out. -/
  complete : criteria.requireCompleteEvaluation = true → unevaluatedEpisodes report = []
  /-- Unevaluated episodes occur only when an incomplete evaluation is accepted. -/
  incompleteAccepted : unevaluatedEpisodes report ≠ [] →
    OfflineEvaluationDisposition.incomplete ∈ criteria.acceptedDispositions
  /-- Failed episodes in a complete evaluation occur only when such evaluations are accepted. -/
  failureAccepted : unevaluatedEpisodes report = [] → failedEpisodes report ≠ [] →
    OfflineEvaluationDisposition.doesNotMeetOfflineCriteria ∈ criteria.acceptedDispositions
  /-- The episodes are those that the criteria name. -/
  holdout : report.holdoutEvidenceSetId = criteria.holdoutEvidenceSetId ∧
    report.holdoutEvidenceSetFingerprint = criteria.holdoutEvidenceSetFingerprint

/-- Distinct trials of distinct episodes are counted by their episodes. -/
theorem length_filter_hasTrial {trials : List OfflineTrialResult} {ids : List PyStr}
    {condition : OfflineTrialStatus → Prop} [DecidablePred condition] (hids : ids.Nodup)
    (hepisodes : (trials.map (·.holdoutEpisodeId)).Nodup)
    (hsub : ∀ trial ∈ trials, trial.holdoutEpisodeId ∈ ids) :
    (ids.filter fun id => HasTrial trials id condition).length =
      trials.countP fun trial => condition trial.status := by
  have hlisted : ((trials.filter fun trial => condition trial.status).map
      (·.holdoutEpisodeId)).Nodup := hepisodes.sublist (List.filter_sublist.map _)
  have hperm : (ids.filter fun id => HasTrial trials id condition).Perm
      ((trials.filter fun trial => condition trial.status).map (·.holdoutEpisodeId)) := by
    refine (List.perm_ext_iff_of_nodup (hids.filter _) hlisted).mpr fun id => ?_
    rw [List.mem_filter, decide_eq_true_eq, mem_map_filter]
    refine ⟨fun h => h.2, fun h => ⟨?_, h⟩⟩
    obtain ⟨trial, hmem, hid, -⟩ := h
    exact hid ▸ hsub trial hmem
  rw [hperm.length_eq, List.length_map, List.countP_eq_length_filter]

end Episodes

section Reports

variable {p : Platform} {nfc : Nfc} {report : OfflineEvaluationReport}

/-- A verified report is sound for its own evidence. -/
theorem reportSound_of_verified (h : verifyEvaluationReport p nfc report = true) :
    ReportSound report.corpus report.trialEvidence report := by
  obtain ⟨hcorpus, hreport⟩ := verifyEvaluationReport_iff.mp h
  exact reportSound_of_ok hcorpus hreport

/-- A verified report has verified trials. -/
theorem verifiedTrials_of_verified (h : verifyEvaluationReport p nfc report = true) :
    VerifiedTrials p report.corpus report.candidateId report.candidateFingerprint
      report.trialEvidence := by
  obtain ⟨-, hreport⟩ := verifyEvaluationReport_iff.mp h
  simp only [reportFromEvidence, Checks.bind_ok] at hreport
  obtain ⟨ordered, hordered, -⟩ := hreport
  exact (verifiedOrderedTrials_ok.mp hordered).1

/-- The count of mismatches is the count of failed episodes. -/
theorem mismatchCount_eq (h : verifyEvaluationReport p nfc report = true) :
    mismatchCount report = (failedEpisodes report).length := by
  have hsound := reportSound_of_verified h
  have htrials := verifiedTrials_of_verified h
  have hcount : (failedEpisodes report).length =
      report.trialEvidence.countP (·.status = .outcomeMismatch) :=
    length_filter_hasTrial hsound.distinct htrials.episodes fun trial hmem =>
      htrials.mem_holdout hmem
  obtain ⟨matched, rest, hlist, hmatched, hrest⟩ := List.map_eq_cons_iff.mp hsound.statusCounts
  obtain ⟨mismatched, last, hlast, hmismatched, htail⟩ := List.map_eq_cons_iff.mp hrest
  obtain ⟨incomplete, none, hnone, hincomplete, hempty⟩ := List.map_eq_cons_iff.mp htail
  rw [List.map_eq_nil_iff.mp hempty] at hnone
  rw [hnone] at hlast
  rw [hlast] at hlist
  have hvalue : mismatched.value = OfflineTrialStatus.outcomeMismatch.value :=
    congrArg Prod.fst hmismatched
  have hother : incomplete.value ≠ OfflineTrialStatus.outcomeMismatch.value := by
    rw [show incomplete.value = OfflineTrialStatus.incomplete.value from congrArg Prod.fst hincomplete]
    decide
  have hfound : mismatchCount report = mismatched.count := by
    simp [mismatchCount, hlist, hvalue, hother]
  rw [hfound, hcount]
  exact congrArg Prod.snd hmismatched

/-- The covered and the unevaluated episodes are all holdout episodes. -/
theorem coverage_add_unevaluated (h : verifyEvaluationReport p nfc report = true) :
    report.coverageNumerator + (unevaluatedEpisodes report).length = (holdoutIds report).length := by
  have hsound := reportSound_of_verified h
  have hcovered : ((holdoutIds report).filter fun id =>
      HasTrial report.trialEvidence id (· ≠ .incomplete)).Perm
      report.evaluatedHoldoutEpisodeIds := by
    have hnodup : report.evaluatedHoldoutEpisodeIds.Nodup := by
      have hall := hsound.partition.nodup_iff.mpr hsound.distinct
      exact (List.nodup_append.mp (List.nodup_append.mp hall).1).1
    refine (List.perm_ext_iff_of_nodup (hsound.distinct.filter _) hnodup).mpr fun id => ?_
    rw [List.mem_filter, decide_eq_true_eq, hsound.evaluated]
    refine ⟨fun h => h.2, fun h => ⟨?_, h⟩⟩
    refine hsound.partition.mem_iff.mp ?_
    exact List.mem_append_left _ (List.mem_append_left _ ((hsound.evaluated id).mpr h))
  have hsplit := List.length_eq_length_filter_add (l := holdoutIds report)
    fun id => decide (HasTrial report.trialEvidence id (· ≠ .incomplete))
  rw [hsound.coverage.1, ← hcovered.length_eq, hsplit]
  simp only [unevaluatedEpisodes, decide_not]

/-- The evaluation is incomplete exactly when an episode is unevaluated. -/
theorem incomplete_iff_unevaluated (h : verifyEvaluationReport p nfc report = true) :
    report.disposition = .incomplete ↔ unevaluatedEpisodes report ≠ [] := by
  rw [(reportSound_of_verified h).unfinished]
  constructor
  · rintro ⟨episode, hepisode, hnone⟩
    refine List.ne_nil_of_mem (a := episode.episodeId) (List.mem_filter.mpr ⟨?_, ?_⟩)
    · exact List.mem_map.mpr ⟨episode, hepisode, rfl⟩
    · exact decide_eq_true hnone
  · intro hsome
    obtain ⟨id, hid⟩ := List.exists_mem_of_ne_nil _ hsome
    rw [unevaluatedEpisodes, List.mem_filter, decide_eq_true_eq] at hid
    obtain ⟨episode, hepisode, rfl⟩ := List.mem_map.mp hid.1
    exact ⟨episode, hepisode, hid.2⟩

/-- A report with a failed episode does not meet the criteria. -/
theorem not_meets_of_failed (h : verifyEvaluationReport p nfc report = true)
    (hfailed : failedEpisodes report ≠ []) : report.disposition ≠ .meetsOfflineCriteria := by
  have hsound := reportSound_of_verified h
  have htrials := verifiedTrials_of_verified h
  obtain ⟨hcorpus, -⟩ := verifyEvaluationReport_iff.mp h
  intro hmeets
  obtain ⟨id, hid⟩ := List.exists_mem_of_ne_nil _ hfailed
  rw [failedEpisodes, List.mem_filter, decide_eq_true_eq] at hid
  obtain ⟨trial, hmem, -, hstatus⟩ := hid.2
  have hall := (htrials.matched_iff hcorpus).mpr (hsound.meets.mp hmeets)
  exact hall.2 trial hmem hstatus

end Reports

section Decisions

variable {p : Platform} {nfc : Nfc} {criteria : PromotionCriteria}
  {request : CandidatePromotionRequest} {candidate : CandidatePolicyManifest}
  {report : OfflineEvaluationReport} {decision : PromotionDecision}

/-- A reason is absent exactly when its condition fails. -/
theorem reasonWhen_eq_nil {condition : Prop} [Decidable condition]
    {reason : PromotionDecisionReason} : reasonWhen condition reason = [] ↔ ¬condition := by
  by_cases h : condition <;> simp [reasonWhen, h]

/-- A created decision has the status it was given. -/
theorem createDecision_status {fields : DecisionFields} (h : createDecision p fields = .ok decision) :
    decision.status = fields.status := by
  simp only [createDecision, rewrap_ok, initializeDecision, Checks.bind_ok, Checks.pure_ok] at h
  obtain ⟨-, -, -, -, -, -, -, -, -, -, -, -, -, -, -, -, reasons, -, -, -, -, -, rfl⟩ := h
  rfl

/-- What an eligible decision has checked. -/
theorem evaluatePromotion_eligible (h : evaluatePromotion p nfc criteria request candidate report =
    .ok decision) (heligible : decision.status = .eligible) :
    verifyEvaluationReport p nfc report = true ∧ shortfalls criteria request candidate report = [] := by
  simp only [evaluatePromotion, Checks.require_bind_ok] at h
  obtain ⟨-, -, -, hreport, hcreate⟩ := h
  refine ⟨hreport, ?_⟩
  have hstatus := createDecision_status hcreate
  by_contra hne
  rw [heligible, if_neg hne] at hstatus
  cases hstatus

/-- An eligible promotion is within the limits of its criteria. -/
theorem withinLimits_of_eligible (h : evaluatePromotion p nfc criteria request candidate report =
    .ok decision) (heligible : decision.status = .eligible) : WithinLimits criteria report := by
  obtain ⟨hreport, hnone⟩ := evaluatePromotion_eligible h heligible
  simp only [shortfalls, List.append_eq_nil_iff, reasonWhen_eq_nil, and_assoc] at hnone
  obtain ⟨-, -, -, -, -, -, -, -, haccepted, hcomplete, henough, hfailed, hholdout⟩ := hnone
  rw [not_not] at haccepted
  rw [not_or, not_not, not_not] at hholdout
  have hcoverage := coverage_add_unevaluated hreport
  have hunfinished := incomplete_iff_unevaluated hreport
  exact {
    failed := by
      rw [← mismatchCount_eq hreport]
      omega
    evaluated := by omega
    complete := by
      intro hrequired
      by_contra hsome
      have hdenominator := (reportSound_of_verified hreport).coverage.2
      have hholdoutLength : (holdoutIds report).length =
          report.corpus.holdoutEvaluation.episodes.length := List.length_map _
      have hpositive := List.length_pos_iff.mpr hsome
      refine hcomplete ⟨hrequired, Or.inl ?_⟩
      omega
    incompleteAccepted := fun hsome => hunfinished.mpr hsome ▸ haccepted
    failureAccepted := by
      intro hnoneLeft hfailures
      have hmeets := not_meets_of_failed hreport hfailures
      have hincomplete : report.disposition ≠ .incomplete := fun heq =>
        hunfinished.mp heq hnoneLeft
      have hdisposition : report.disposition = .doesNotMeetOfflineCriteria := by
        cases hcase : report.disposition with
        | meetsOfflineCriteria => exact absurd hcase hmeets
        | doesNotMeetOfflineCriteria => rfl
        | incomplete => exact absurd hcase hincomplete
      exact hdisposition ▸ haccepted
    holdout := hholdout }

end Decisions

section Evaluation

/-- Reports are sound for the evidence they were computed from, whatever its order, exactly the
recomputed reports are accepted, and eligible promotions are within their limits. -/
theorem offline_evaluation_sound (p : Platform) (nfc : Nfc) :
    (∀ corpus candidate trials report,
      evaluateOffline p nfc corpus candidate trials = .ok report →
        ReportSound corpus trials report ∧ ∀ others : List OfflineTrialResult,
          others.Perm trials → evaluateOffline p nfc corpus candidate others = .ok report) ∧
    (∀ report, verifyEvaluationReport p nfc report = true ↔
      verifyCorpus p nfc report.corpus = true ∧
        reportFromEvidence p report.corpus report.candidateId report.candidateFingerprint
          report.trialEvidence = .ok report) ∧
    ∀ criteria request candidate report decision,
      evaluatePromotion p nfc criteria request candidate report = .ok decision →
        decision.status = .eligible → WithinLimits criteria report := by
  refine ⟨?_, fun report => verifyEvaluationReport_iff, ?_⟩
  · intro corpus candidate trials report h
    obtain ⟨hcorpus, hcandidate, hlineage, hreport, hverify⟩ := evaluateOffline_ok.mp h
    refine ⟨reportSound_of_ok hcorpus hreport, fun others hperm => ?_⟩
    have hothers := reportFromEvidence_perm hreport hperm.symm
    exact evaluateOffline_ok.mpr ⟨hcorpus, hcandidate, hlineage, hothers, hverify⟩
  · intro criteria request candidate report decision h heligible
    exact withinLimits_of_eligible h heligible

end Evaluation

end Promotion
end AyyoHumanoid
