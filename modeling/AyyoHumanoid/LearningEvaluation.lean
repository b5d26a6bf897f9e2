import AyyoHumanoid.LearningTrials
import AyyoHumanoid.PyDict

/-!
# Offline evaluation reports

A report is computed from a verified corpus and a sequence of trials: which
holdout episodes were evaluated, which are incomplete or missing, the counts and
the summed metrics, and the disposition. It carries its evidence, so that it is
verified by computing it again.
-/

namespace AyyoHumanoid
namespace Learning

open PyText JsonText PyCollections Artifacts

/-- `EvaluationReportIntegrityError(message)`. -/
def reportError (message : PyStr) : LearningError := ⟨.evaluationReportIntegrity, message⟩

/-- `CandidateLineageError(message)`. -/
def lineageError (message : PyStr) : LearningError := ⟨.candidateLineage, message⟩

/-- `EVALUATION_REPORT_SCHEMA_ID`. -/
def evaluationReportSchemaId : PyStr := py "ayyo.learning-evaluation.offline-report.v1"

/-- `MAX_SERIALIZED_REPORT_BYTES`. -/
def maxSerializedReportBytes : Nat := 131072

section Enumerations

/-- `OfflineEvaluationDisposition`. -/
inductive OfflineEvaluationDisposition where
  | meetsOfflineCriteria | doesNotMeetOfflineCriteria | incomplete
  deriving DecidableEq, Repr

/-- The text of a disposition. -/
def OfflineEvaluationDisposition.value : OfflineEvaluationDisposition → PyStr
  | .meetsOfflineCriteria => py "meets_offline_criteria"
  | .doesNotMeetOfflineCriteria => py "does_not_meet_offline_criteria"
  | .incomplete => py "incomplete"

/-- `EvaluationReportReason`. -/
inductive EvaluationReportReason where
  | allHoldoutOutcomesMatch | holdoutOutcomeMismatch | missingHoldoutTrial
  | incompleteHoldoutTrial
  deriving DecidableEq, Repr

/-- The text of a reason. -/
def EvaluationReportReason.value : EvaluationReportReason → PyStr
  | .allHoldoutOutcomesMatch => py "all_holdout_outcomes_match"
  | .holdoutOutcomeMismatch => py "holdout_outcome_mismatch"
  | .missingHoldoutTrial => py "missing_holdout_trial"
  | .incompleteHoldoutTrial => py "incomplete_holdout_trial"

end Enumerations

section Summaries

/-- The checks of `EvaluationCount.__post_init__`. -/
def checkCount (count : PyStr × Nat) : Except LearningError Unit := do
  identifier trialError count.1 (py "count value")
  require (count.2 ≤ maxTrialsPerEvaluation)
    (reportError (py "evaluation count is outside v1 bounds"))

/-- `EvaluationCount`. -/
structure EvaluationCount where
  value : PyStr
  count : Nat
  /-- It passed the checks. -/
  checked : checkCount (value, count) = .ok ()
  deriving DecidableEq

/-- `EvaluationCount(value, count)`. -/
def evaluationCount (value : PyStr) (count : Nat) : Except LearningError EvaluationCount :=
  construct checkCount (fun fields h => ⟨fields.1, fields.2, h⟩) (value, count)

/-- `EvaluationCount.as_dict`. -/
def EvaluationCount.asDict (count : EvaluationCount) : Json :=
  .obj [(py "count", .int count.count), (py "value", .str count.value)]

/-- The checks of `AggregateExactMetric.__post_init__`. -/
def checkAggregate (metric : PyStr × Nat × Nat) : Except LearningError Unit := do
  identifier trialError metric.1 (py "aggregate metric_id")
  let maximum := maxMetricComponent * maxTrialsPerEvaluation
  require (metric.2.1 ≤ maximum ∧ 1 ≤ metric.2.2 ∧ metric.2.2 ≤ maximum)
    (reportError (py "aggregate metric is outside v1 bounds"))

/-- `AggregateExactMetric`. -/
structure AggregateExactMetric where
  metricId : PyStr
  numerator : Nat
  denominator : Nat
  /-- It passed the checks. -/
  checked : checkAggregate (metricId, numerator, denominator) = .ok ()
  deriving DecidableEq

/-- `AggregateExactMetric(metric_id, numerator, denominator)`. -/
def aggregateExactMetric (metric : PyStr × Nat × Nat) :
    Except LearningError AggregateExactMetric :=
  construct checkAggregate (fun fields h => ⟨fields.1, fields.2.1, fields.2.2, h⟩) metric

/-- `totals = metric_values.setdefault(metric_id, [0, 0])`, with the metric added. -/
def addMetric (totals : PyDict PyStr (Nat × Nat)) (metric : ExactMetric) :
    PyDict PyStr (Nat × Nat) :=
  let total := (totals.get? metric.metricId).getD (0, 0)
  totals.set metric.metricId (total.1 + metric.numerator, total.2 + metric.denominator)

/-- `metric_values`. -/
def metricValues (trials : List OfflineTrialResult) : PyDict PyStr (Nat × Nat) :=
  (trials.flatMap (·.metrics)).foldl addMetric .empty

end Summaries

section Reports

/-- The fields that `OfflineEvaluationReport._create` takes. -/
structure ReportFields where
  candidateId : PyStr
  candidateFingerprint : PyStr
  candidateEvidenceSetId : PyStr
  candidateEvidenceSetFingerprint : PyStr
  holdoutEvidenceSetId : PyStr
  holdoutEvidenceSetFingerprint : PyStr
  evaluationContractId : PyStr
  evaluationContractVersion : PyStr
  corpus : DemonstrationEvaluationCorpus
  trialEvidence : List OfflineTrialResult
  trialIds : List PyStr
  evaluatedHoldoutEpisodeIds : List PyStr
  missingHoldoutEpisodeIds : List PyStr
  incompleteHoldoutEpisodeIds : List PyStr
  statusCounts : List EvaluationCount
  historicalOutcomeCounts : List EvaluationCount
  aggregateMetrics : List AggregateExactMetric
  coverageNumerator : Nat
  coverageDenominator : Nat
  reasons : List EvaluationReportReason
  disposition : OfflineEvaluationDisposition
  deriving DecidableEq

/-- `OfflineEvaluationReport`, as stored. -/
structure OfflineEvaluationReport extends ReportFields where
  schemaId : PyStr
  schemaVersion : PyStr
  reportId : PyStr
  reportFingerprint : PyStr
  deriving DecidableEq

/-- A list of texts as a document. -/
def textsDocument (texts : List PyStr) : Json := .arr (texts.map .str)

/-- `OfflineEvaluationReport.semantic_document`. -/
def OfflineEvaluationReport.semanticDocument (report : OfflineEvaluationReport) :
    List (PyStr × Json) :=
  [(py "aggregate_metrics", .arr (report.aggregateMetrics.map fun metric =>
      metricDocument metric.metricId metric.numerator metric.denominator)),
    (py "candidate", identityDocument report.candidateId report.candidateFingerprint),
    (py "candidate_evidence_set", identityDocument report.candidateEvidenceSetId
      report.candidateEvidenceSetFingerprint),
    (py "corpus", report.corpus.asDict),
    (py "coverage", .obj [(py "denominator", .int report.coverageDenominator),
      (py "numerator", .int report.coverageNumerator)]),
    (py "disposition", .str report.disposition.value),
    (py "evaluated_holdout_episode_ids", textsDocument report.evaluatedHoldoutEpisodeIds),
    (py "evaluation_contract", schemaDocument report.evaluationContractId
      report.evaluationContractVersion),
    (py "historical_outcome_counts", .arr (report.historicalOutcomeCounts.map (·.asDict))),
    (py "holdout_evidence_set", identityDocument report.holdoutEvidenceSetId
      report.holdoutEvidenceSetFingerprint),
    (py "incomplete_holdout_episode_ids", textsDocument report.incompleteHoldoutEpisodeIds),
    (py "missing_holdout_episode_ids", textsDocument report.missingHoldoutEpisodeIds),
    (py "reasons", .arr (report.reasons.map fun reason => .str reason.value)),
    (py "schema", schemaDocument report.schemaId report.schemaVersion),
    (py "status_counts", .arr (report.statusCounts.map (·.asDict))),
    (py "trial_evidence", .arr (report.trialEvidence.map (·.asDict))),
    (py "trial_ids", textsDocument report.trialIds)]

/-- `OfflineEvaluationReport.as_dict`. -/
def OfflineEvaluationReport.asDict (report : OfflineEvaluationReport) : Json :=
  .obj (report.semanticDocument ++
    [(py "report_fingerprint", .str report.reportFingerprint),
      (py "report_id", .str report.reportId)])

variable (p : Platform) (nfc : Nfc)

/-- The report with its digest and identity computed from its contents. -/
def OfflineEvaluationReport.identified (report : OfflineEvaluationReport) :
    OfflineEvaluationReport :=
  let fingerprint := semanticSha256 p (py "offline-evaluation-report-content")
    (.obj report.semanticDocument)
  { report with
    reportFingerprint := fingerprint
    reportId := contentIdentity p (py "offline-evaluation-report") (py "report_fingerprint")
      fingerprint evaluationReportSchemaId }

/-- `OfflineEvaluationReport._create`. -/
def createReport (fields : ReportFields) : Except LearningError OfflineEvaluationReport := do
  let report := OfflineEvaluationReport.identified p {
    toReportFields := fields
    schemaId := evaluationReportSchemaId
    schemaVersion := schemaVersion
    reportId := []
    reportFingerprint := [] }
  require (documentSize report.asDict ≤ maxSerializedReportBytes)
    (reportError (py "serialized report exceeds its v1 bound"))
  pure report

/-- The checks of `_verified_ordered_trials` on one trial; the identifiers of the holdout
episodes of a verified corpus are distinct. -/
def checkTrial (corpus : DemonstrationEvaluationCorpus) (candidateId candidateFingerprint : PyStr)
    (trial : OfflineTrialResult) : Except LearningError Unit := do
  require (trial.candidateId = candidateId ∧ trial.candidateFingerprint = candidateFingerprint)
    (lineageError (py "trial belongs to a different candidate"))
  require (trial.evaluationContractId = offlineEvaluationContractId ∧
      trial.evaluationContractVersion = offlineEvaluationContractVersion)
    (trialError (py "trial uses an incompatible evaluation contract"))
  require (trial.holdoutEpisodeId ∉ corpus.candidateEvidence.episodes.map (·.episodeId))
    ⟨.holdoutPartition, py "candidate evidence is masquerading as holdout"⟩
  match corpus.holdoutEvaluation.episodes.find? fun episode =>
      episode.episodeId = trial.holdoutEpisodeId with
  | none => .error (trialError (py "trial references an unknown holdout episode"))
  | some reference => do
    require (trial.holdoutEpisodeFingerprint = reference.episodeFingerprint)
      (trialError (py "trial holdout episode fingerprint is wrong"))
    require (trial.expectedOutcome = reference.outcomeStatus)
      (trialError (py "trial reinterprets the historical episode outcome"))

/-- `_verified_ordered_trials`. -/
def verifiedOrderedTrials (corpus : DemonstrationEvaluationCorpus)
    (candidateId candidateFingerprint : PyStr) (trials : List OfflineTrialResult) :
    Except LearningError (List OfflineTrialResult) := do
  fingerprint trialError candidateId (py "candidate_id")
  fingerprint trialError candidateFingerprint (py "candidate_fingerprint")
  require (trials.length ≤ maxTrialsPerEvaluation)
    (trialError (py "trial count exceeds its v1 bound"))
  require (∀ trial ∈ trials, verifyTrialResult p trial = true)
    (trialError (py "a trial result failed integrity verification"))
  require ((trials.map (·.holdoutEpisodeId)).Nodup ∧ (trials.map (·.trialId)).Nodup)
    (trialError (py "duplicate trial or holdout episode result"))
  trials.forM (checkTrial corpus candidateId candidateFingerprint)
  pure (sortBy (fun trial => trial.holdoutEpisodeId) trials)

/-- The reasons and the disposition of `_report_from_evidence`. -/
def judge (missingIds incompleteIds : List PyStr) (trials : List OfflineTrialResult) :
    List EvaluationReportReason × OfflineEvaluationDisposition :=
  let gaps := (if missingIds ≠ [] then [.missingHoldoutTrial] else []) ++
    (if incompleteIds ≠ [] then [.incompleteHoldoutTrial] else [])
  if missingIds ≠ [] ∨ incompleteIds ≠ [] then (gaps, .incomplete)
  else if ∃ trial ∈ trials, trial.status = .outcomeMismatch then
    (gaps ++ [.holdoutOutcomeMismatch], .doesNotMeetOfflineCriteria)
  else (gaps ++ [.allHoldoutOutcomesMatch], .meetsOfflineCriteria)

/-- The fields of the report on ordered trials, with the given summaries. -/
def reportFields (corpus : DemonstrationEvaluationCorpus) (candidateId candidateFingerprint : PyStr)
    (ordered : List OfflineTrialResult) (statusCounts historicalCounts : List EvaluationCount)
    (aggregateMetrics : List AggregateExactMetric) : ReportFields :=
  let holdoutIds := corpus.holdoutEvaluation.episodes.map (·.episodeId)
  let suppliedIds := ordered.map (·.holdoutEpisodeId)
  let evaluatedIds := (ordered.filter (·.status ≠ .incomplete)).map (·.holdoutEpisodeId)
  let incompleteIds := (ordered.filter (·.status = .incomplete)).map (·.holdoutEpisodeId)
  let missingIds := sortedSet (holdoutIds.filter (· ∉ suppliedIds))
  { candidateId := candidateId
    candidateFingerprint := candidateFingerprint
    candidateEvidenceSetId := corpus.candidateEvidence.evidenceSetId
    candidateEvidenceSetFingerprint := corpus.candidateEvidence.evidenceSetFingerprint
    holdoutEvidenceSetId := corpus.holdoutEvaluation.evidenceSetId
    holdoutEvidenceSetFingerprint := corpus.holdoutEvaluation.evidenceSetFingerprint
    evaluationContractId := offlineEvaluationContractId
    evaluationContractVersion := offlineEvaluationContractVersion
    corpus := corpus
    trialEvidence := ordered
    trialIds := sortBy id (ordered.map (·.trialId))
    evaluatedHoldoutEpisodeIds := evaluatedIds
    missingHoldoutEpisodeIds := missingIds
    incompleteHoldoutEpisodeIds := incompleteIds
    statusCounts := statusCounts
    historicalOutcomeCounts := historicalCounts
    aggregateMetrics := aggregateMetrics
    coverageNumerator := evaluatedIds.length
    coverageDenominator := (sortedSet holdoutIds).length
    reasons := (judge missingIds incompleteIds ordered).1
    disposition := (judge missingIds incompleteIds ordered).2 }

/-- `_report_from_evidence`. -/
def reportFromEvidence (corpus : DemonstrationEvaluationCorpus)
    (candidateId candidateFingerprint : PyStr) (trials : List OfflineTrialResult) :
    Except LearningError OfflineEvaluationReport := do
  let ordered ← verifiedOrderedTrials p corpus candidateId candidateFingerprint trials
  let statusCounts ← OfflineTrialStatus.members.mapM fun status =>
    evaluationCount status.value (ordered.countP (·.status = status))
  let historicalCounts ← DemonstrationOutcomeStatus.members.mapM fun outcome =>
    evaluationCount outcome.value
      (corpus.holdoutEvaluation.episodes.countP (·.outcomeStatus = outcome))
  let aggregateMetrics ← (sortBy Prod.fst (metricValues ordered).entries).mapM
    aggregateExactMetric
  createReport p (reportFields corpus candidateId candidateFingerprint ordered statusCounts
    historicalCounts aggregateMetrics)

/-- `verify_evaluation_report`. -/
def verifyEvaluationReport (report : OfflineEvaluationReport) : Bool :=
  verifyCorpus p nfc report.corpus &&
    decide (reportFromEvidence p report.corpus report.candidateId report.candidateFingerprint
      report.trialEvidence = .ok report)

/-- `evaluate_offline`. -/
def evaluateOffline (corpus : DemonstrationEvaluationCorpus) (candidate : CandidatePolicyManifest)
    (trials : List OfflineTrialResult) : Except LearningError OfflineEvaluationReport := do
  require (verifyCorpus p nfc corpus = true)
    (lineageError (py "evaluation requires a verified corpus"))
  require (verifyCandidatePolicy p nfc candidate = true)
    (lineageError (py "evaluation requires a verified candidate"))
  require (candidate.candidateEvidenceSetId = corpus.candidateEvidence.evidenceSetId ∧
      candidate.candidateEvidenceSetFingerprint =
        corpus.candidateEvidence.evidenceSetFingerprint)
    (lineageError (py "candidate does not belong to this corpus evidence set"))
  let report ← reportFromEvidence p corpus candidate.candidateId candidate.candidateFingerprint
    trials
  require (verifyEvaluationReport p nfc report = true)
    (reportError (py "constructed report failed integrity verification"))
  pure report

end Reports

end Learning
end AyyoHumanoid
