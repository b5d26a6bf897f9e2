import AyyoHumanoid.LearningModels

/-!
# Offline trial results

A trial records what a supplied result says about one holdout episode. Its
status, its reasons and its outcomes have to agree, and its metrics are exact
fractions with distinct identifiers.
-/

namespace AyyoHumanoid
namespace Learning

open PyText JsonText PyCollections Artifacts

/-- `EvaluationTrialError(message)`. -/
def trialError (message : PyStr) : LearningError := ⟨.evaluationTrial, message⟩

/-- `OFFLINE_EVALUATION_CONTRACT_ID`. -/
def offlineEvaluationContractId : PyStr := py "ayyo.learning-evaluation.offline-trial.v1"

/-- `OFFLINE_EVALUATION_CONTRACT_VERSION`. -/
def offlineEvaluationContractVersion : PyStr := py "1.0.0"

/-- `MAX_TRIALS_PER_EVALUATION`. -/
def maxTrialsPerEvaluation : Nat := maxEpisodesPerPartition

/-- `MAX_TRIAL_REASONS`. -/
def maxTrialReasons : Nat := 8

/-- `MAX_METRICS_PER_TRIAL`. -/
def maxMetricsPerTrial : Nat := 8

/-- `MAX_METRIC_COMPONENT`. -/
def maxMetricComponent : Nat := 1000000000

section Enumerations

/-- `OfflineTrialStatus`. -/
inductive OfflineTrialStatus where
  | outcomeMatch | outcomeMismatch | incomplete
  deriving DecidableEq, Repr

/-- The text of a status. -/
def OfflineTrialStatus.value : OfflineTrialStatus → PyStr
  | .outcomeMatch => py "outcome_match"
  | .outcomeMismatch => py "outcome_mismatch"
  | .incomplete => py "incomplete"

/-- The statuses in the order of their class. -/
def OfflineTrialStatus.members : List OfflineTrialStatus :=
  [.outcomeMatch, .outcomeMismatch, .incomplete]

/-- `OfflineTrialReason`. -/
inductive OfflineTrialReason where
  | expectedOutcomeObserved | differentOutcomeObserved | resultUnavailable | resultRejected
  | unsupportedResult
  deriving DecidableEq, Repr

/-- The text of a reason. -/
def OfflineTrialReason.value : OfflineTrialReason → PyStr
  | .expectedOutcomeObserved => py "expected_outcome_observed"
  | .differentOutcomeObserved => py "different_outcome_observed"
  | .resultUnavailable => py "result_unavailable"
  | .resultRejected => py "result_rejected"
  | .unsupportedResult => py "unsupported_result"

/-- `expected_reasons[status]`. -/
def OfflineTrialStatus.expectedReasons : OfflineTrialStatus → List OfflineTrialReason
  | .outcomeMatch => [.expectedOutcomeObserved]
  | .outcomeMismatch => [.differentOutcomeObserved]
  | .incomplete => [.resultUnavailable, .resultRejected, .unsupportedResult]

end Enumerations

/-- `ExactMetric`. -/
@[ext] structure ExactMetric where
  metricId : PyStr
  numerator : Nat
  denominator : Nat
  named : IsIdentifier metricId
  /-- The numerator is not too large. -/
  bounded : numerator ≤ maxMetricComponent
  /-- The denominator is positive and not too large. -/
  positive : 1 ≤ denominator ∧ denominator ≤ maxMetricComponent

instance : DecidableEq ExactMetric := fun _ _ =>
  decidable_of_iff _ ExactMetric.ext_iff.symm

/-- The document of a fraction with an identifier. -/
def metricDocument (metricId : PyStr) (numerator denominator : Nat) : Json :=
  .obj [(py "denominator", .int denominator), (py "metric_id", .str metricId),
    (py "numerator", .int numerator)]

section Trials

/-- The fields that `OfflineTrialResult._from_fields` takes. -/
structure TrialFields where
  candidateId : PyStr
  candidateFingerprint : PyStr
  holdoutEpisodeId : PyStr
  holdoutEpisodeFingerprint : PyStr
  expectedOutcome : DemonstrationOutcomeStatus
  observedOutcome : Option DemonstrationOutcomeStatus
  status : OfflineTrialStatus
  reasons : List OfflineTrialReason
  metrics : List ExactMetric
  resultSourceRef : PyStr
  resultSourceFingerprint : PyStr
  deriving DecidableEq

/-- `OfflineTrialResult`, as stored. -/
structure OfflineTrialResult extends TrialFields where
  evaluationContractId : PyStr
  evaluationContractVersion : PyStr
  trialId : PyStr
  trialFingerprint : PyStr
  deriving DecidableEq

/-- `OfflineTrialResult.semantic_document`. -/
def OfflineTrialResult.semanticDocument (trial : OfflineTrialResult) : List (PyStr × Json) :=
  [(py "candidate", identityDocument trial.candidateId trial.candidateFingerprint),
    (py "evaluation_contract", schemaDocument trial.evaluationContractId
      trial.evaluationContractVersion),
    (py "expected_outcome", .str trial.expectedOutcome.value),
    (py "holdout_episode", identityDocument trial.holdoutEpisodeId
      trial.holdoutEpisodeFingerprint),
    (py "metrics", .arr (trial.metrics.map fun metric =>
      metricDocument metric.metricId metric.numerator metric.denominator)),
    (py "observed_outcome", optionalText (trial.observedOutcome.map (·.value))),
    (py "provenance", .obj [(py "source_fingerprint", .str trial.resultSourceFingerprint),
      (py "source_ref", .str trial.resultSourceRef)]),
    (py "reasons", .arr (trial.reasons.map fun reason => .str reason.value)),
    (py "status", .str trial.status.value)]

/-- `OfflineTrialResult.as_dict`. -/
def OfflineTrialResult.asDict (trial : OfflineTrialResult) : Json :=
  .obj (trial.semanticDocument ++
    [(py "trial_fingerprint", .str trial.trialFingerprint), (py "trial_id", .str trial.trialId)])

/-- The agreement of a status with the two outcomes. -/
def checkOutcome (status : OfflineTrialStatus) (expected : DemonstrationOutcomeStatus)
    (observed : Option DemonstrationOutcomeStatus) : Except LearningError Unit := do
  require (¬(status = .outcomeMatch ∧ observed ≠ some expected))
    (trialError (py "OUTCOME_MATCH must preserve the expected outcome"))
  require (¬(status = .outcomeMismatch ∧ (observed = none ∨ observed = some expected)))
    (trialError (py "OUTCOME_MISMATCH requires a different observed outcome"))
  require (¬(status = .incomplete ∧ observed ≠ none))
    (trialError (py "INCOMPLETE cannot fabricate an observed outcome"))

/-- The checks of `OfflineTrialResult._initialize`. -/
def TrialFields.check (fields : TrialFields) : Except LearningError Unit := do
  identifier trialError fields.candidateId (py "candidate_id")
  fingerprint trialError fields.candidateFingerprint (py "candidate_fingerprint")
  identifier trialError fields.holdoutEpisodeId (py "holdout_episode_id")
  fingerprint trialError fields.holdoutEpisodeFingerprint (py "holdout_episode_fingerprint")
  require (1 ≤ fields.reasons.length ∧ fields.reasons.length ≤ maxTrialReasons ∧
      fields.reasons.Nodup)
    (trialError (py "trial reasons are invalid, duplicate, or out of bounds"))
  require (fields.metrics.length ≤ maxMetricsPerTrial ∧
      (fields.metrics.map (·.metricId)).Nodup)
    (trialError (py "trial metrics are invalid, duplicate, or out of bounds"))
  checkOutcome fields.status fields.expectedOutcome fields.observedOutcome
  require (∀ reason ∈ fields.reasons, reason ∈ fields.status.expectedReasons)
    (trialError (py "trial reasons do not correspond to its status"))
  identifier trialError fields.resultSourceRef (py "result_source_ref")
  fingerprint trialError fields.resultSourceFingerprint (py "result_source_fingerprint")

variable (p : Platform)

/-- The trial with its digest and identity computed from its contents. -/
def OfflineTrialResult.identified (trial : OfflineTrialResult) : OfflineTrialResult :=
  let fingerprint := semanticSha256 p (py "offline-evaluation-trial-content")
    (.obj trial.semanticDocument)
  { trial with
    trialFingerprint := fingerprint
    trialId := semanticSha256 p (py "offline-evaluation-trial") (.obj [
      (py "evaluation_contract_id", .str offlineEvaluationContractId),
      (py "evaluation_contract_version", .str offlineEvaluationContractVersion),
      (py "trial_fingerprint", .str fingerprint)]) }

/-- `OfflineTrialResult._from_fields`. -/
def trialFromFields (fields : TrialFields) : Except LearningError OfflineTrialResult := do
  fields.check
  pure (OfflineTrialResult.identified p {
    toTrialFields := { fields with
      reasons := sortBy OfflineTrialReason.value fields.reasons
      metrics := sortBy (fun metric => metric.metricId) fields.metrics }
    evaluationContractId := offlineEvaluationContractId
    evaluationContractVersion := offlineEvaluationContractVersion
    trialId := []
    trialFingerprint := [] })

/-- `verify_trial_result`. -/
def verifyTrialResult (trial : OfflineTrialResult) : Bool :=
  trialFromFields p trial.toTrialFields = .ok trial

end Trials

section Outcomes

variable {p : Platform} {trial : OfflineTrialResult}

/-- A verified trial matches exactly when it observed the expected outcome. -/
theorem outcomeMatch_iff (h : verifyTrialResult p trial = true) :
    trial.status = .outcomeMatch ↔ trial.observedOutcome = some trial.expectedOutcome := by
  have hfields : trialFromFields p trial.toTrialFields = .ok trial := of_decide_eq_true h
  simp only [trialFromFields, TrialFields.check, checkOutcome, Checks.unit_bind_ok,
    Checks.require_ok] at hfields
  obtain ⟨⟨-, -, -, -, -, -, ⟨hmatch, hmismatch, hincomplete⟩, -⟩, -⟩ := hfields
  cases hstatus : trial.status with
  | outcomeMatch => simpa [hstatus] using hmatch
  | outcomeMismatch =>
    have hobserved : trial.observedOutcome ≠ some trial.expectedOutcome := fun heq =>
      hmismatch ⟨hstatus, Or.inr heq⟩
    simp [hobserved]
  | incomplete =>
    have hobserved : trial.observedOutcome = none := by
      by_contra hne
      exact hincomplete ⟨hstatus, hne⟩
    simp [hobserved]

end Outcomes

end Learning
end AyyoHumanoid
