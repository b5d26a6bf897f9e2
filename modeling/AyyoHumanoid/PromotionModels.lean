import AyyoHumanoid.LearningEvaluation

/-!
# Promotion criteria, requests and decisions

Caller-owned criteria say which evaluation reports are good enough for a
candidate. A request binds one candidate, one report and one set of criteria, and
a decision lists every way in which the evidence falls short. Each artifact is
verified by building it again from its own fields.
-/

namespace AyyoHumanoid
namespace Promotion

open PyText JsonText PyCollections Artifacts
open Learning (OfflineEvaluationDisposition OfflineEvaluationReport OfflineTrialStatus
  CandidatePolicyManifest contentIdentity schemaVersion maxTrialsPerEvaluation)

/-- The exception classes of the promotion control package. -/
inductive PromotionErrorKind where
  | integrity | criteria | request | decision
  deriving DecidableEq, Repr

/-- An exception with its message. -/
structure PromotionError where
  /-- The exception class. -/
  kind : PromotionErrorKind
  /-- The message text. -/
  message : PyStr
  deriving DecidableEq

/-- `PromotionControlIntegrityError(message)`. -/
def integrityError (message : PyStr) : PromotionError := ⟨.integrity, message⟩

/-- The handler of `_initialize`: other errors become an error of the artifact. -/
def rewrap {α : Type} (kind : PromotionErrorKind) (message : PyStr) (x : Except PromotionError α) :
    Except PromotionError α :=
  match x with
  | .ok a => .ok a
  | .error e => if e.kind = kind then .error e else .error ⟨kind, message⟩

/-- The handler lets results pass. -/
@[simp] theorem rewrap_ok {α : Type} {kind : PromotionErrorKind} {message : PyStr}
    {x : Except PromotionError α} {a : α} : rewrap kind message x = .ok a ↔ x = .ok a := by
  cases x with
  | ok b => rfl
  | error e => by_cases h : e.kind = kind <;> simp [rewrap, h]

/-- `MAX_SERIALIZED_ARTIFACT_BYTES`. -/
def maxSerializedArtifactBytes : Nat := 32768

/-- `MAX_SEQUENCE_ITEMS`. -/
def maxSequenceItems : Nat := 16

section Enumerations

/-- `PromotionTargetStage`. -/
inductive PromotionTargetStage where
  | reviewedCandidate | futureDeploymentReview
  deriving DecidableEq, Repr

/-- The text of a stage. -/
def PromotionTargetStage.value : PromotionTargetStage → PyStr
  | .reviewedCandidate => py "reviewed_candidate"
  | .futureDeploymentReview => py "future_deployment_review"

/-- `PromotionDecisionStatus`. -/
inductive PromotionDecisionStatus where
  | eligible | notEligible
  deriving DecidableEq, Repr

/-- The text of a status. -/
def PromotionDecisionStatus.value : PromotionDecisionStatus → PyStr
  | .eligible => py "eligible"
  | .notEligible => py "not_eligible"

/-- `PromotionDecisionReason`. -/
inductive PromotionDecisionReason where
  | criteriaSatisfied | requestCriteriaMismatch | requestCandidateMismatch
  | requestReportMismatch | reportCandidateMismatch | criteriaCandidateMismatch
  | targetNotAllowed | unsupportedEvaluationSchema | unsupportedEvaluationVersion
  | dispositionNotAccepted | incompleteEvaluation | insufficientEvaluatedTrials
  | failedTrialLimitExceeded | holdoutIdentityMismatch
  deriving DecidableEq, Repr

/-- The text of a reason. -/
def PromotionDecisionReason.value : PromotionDecisionReason → PyStr
  | .criteriaSatisfied => py "criteria_satisfied"
  | .requestCriteriaMismatch => py "request_criteria_mismatch"
  | .requestCandidateMismatch => py "request_candidate_mismatch"
  | .requestReportMismatch => py "request_report_mismatch"
  | .reportCandidateMismatch => py "report_candidate_mismatch"
  | .criteriaCandidateMismatch => py "criteria_candidate_mismatch"
  | .targetNotAllowed => py "target_not_allowed"
  | .unsupportedEvaluationSchema => py "unsupported_evaluation_schema"
  | .unsupportedEvaluationVersion => py "unsupported_evaluation_version"
  | .dispositionNotAccepted => py "disposition_not_accepted"
  | .incompleteEvaluation => py "incomplete_evaluation"
  | .insufficientEvaluatedTrials => py "insufficient_evaluated_trials"
  | .failedTrialLimitExceeded => py "failed_trial_limit_exceeded"
  | .holdoutIdentityMismatch => py "holdout_identity_mismatch"

end Enumerations

section Checks

/-- `optional_note`. -/
def optionalNote {ε : Type} (error : PyStr → ε) (nfc : Nfc) (value : Option PyStr) :
    Except ε (Option PyStr) :=
  match value with
  | none => .ok none
  | some text => do
    require (IsNote (nfc.normalize text)) (error (py "note violates the v1 text bound"))
    pure (some (nfc.normalize text))

/-- `bounded_enum_tuple`. -/
def boundedEnumTuple {α : Type} [DecidableEq α] (value : α → PyStr) (values : List α)
    (fieldName : PyStr) : Except PromotionError (List α) := do
  require (1 ≤ values.length ∧ values.length ≤ maxSequenceItems ∧ values.Nodup)
    (integrityError (fieldName ++ py " is empty, duplicate, invalid, or out of bounds"))
  pure (sortBy value values)

/-- `assert_size`. -/
def assertSize (document : Json) : Except PromotionError Unit :=
  require (documentSize document ≤ maxSerializedArtifactBytes)
    (integrityError (py "serialized control artifact exceeds its v1 bound"))

end Checks

section Criteria

/-- `PROMOTION_CRITERIA_SCHEMA_ID`. -/
def promotionCriteriaSchemaId : PyStr := py "ayyo.promotion-control.promotion-criteria.v1"

/-- The fields that `PromotionCriteria` takes. -/
structure CriteriaFields where
  candidateId : PyStr
  candidateFingerprint : PyStr
  requiredReportSchemaId : PyStr
  requiredReportSchemaVersion : PyStr
  holdoutEvidenceSetId : PyStr
  holdoutEvidenceSetFingerprint : PyStr
  acceptedDispositions : List OfflineEvaluationDisposition
  minimumEvaluatedTrials : Int
  maximumFailedTrials : Int
  requireCompleteEvaluation : Bool
  allowedTargetStages : List PromotionTargetStage
  deriving DecidableEq

/-- `PromotionCriteria`, as stored. -/
structure PromotionCriteria extends CriteriaFields where
  schemaId : PyStr
  schemaVersion : PyStr
  criteriaId : PyStr
  criteriaFingerprint : PyStr
  deriving DecidableEq

/-- `PromotionCriteria.semantic_document`. -/
def PromotionCriteria.semanticDocument (criteria : PromotionCriteria) : List (PyStr × Json) :=
  [(py "accepted_dispositions", .arr (criteria.acceptedDispositions.map fun item =>
      .str item.value)),
    (py "allowed_target_stages", .arr (criteria.allowedTargetStages.map fun item =>
      .str item.value)),
    (py "candidate", identityDocument criteria.candidateId criteria.candidateFingerprint),
    (py "holdout_evidence_set", identityDocument criteria.holdoutEvidenceSetId
      criteria.holdoutEvidenceSetFingerprint),
    (py "maximum_failed_trials", .int criteria.maximumFailedTrials),
    (py "minimum_evaluated_trials", .int criteria.minimumEvaluatedTrials),
    (py "require_complete_evaluation", .bool criteria.requireCompleteEvaluation),
    (py "required_report_schema", schemaDocument criteria.requiredReportSchemaId
      criteria.requiredReportSchemaVersion),
    (py "schema", schemaDocument criteria.schemaId criteria.schemaVersion)]

/-- `PromotionCriteria.as_dict`. -/
def PromotionCriteria.asDict (criteria : PromotionCriteria) : Json :=
  .obj (criteria.semanticDocument ++
    [(py "criteria_fingerprint", .str criteria.criteriaFingerprint),
      (py "criteria_id", .str criteria.criteriaId)])

variable (p : Platform)

/-- The criteria with their digest and identity computed from their contents. -/
def PromotionCriteria.identified (criteria : PromotionCriteria) : PromotionCriteria :=
  let fingerprint := semanticSha256 p (py "promotion-criteria-content")
    (.obj criteria.semanticDocument)
  { criteria with
    criteriaFingerprint := fingerprint
    criteriaId := contentIdentity p (py "promotion-criteria") (py "content_fingerprint")
      fingerprint promotionCriteriaSchemaId }

/-- The body of `PromotionCriteria._initialize`. -/
def initializeCriteria (fields : CriteriaFields) : Except PromotionError PromotionCriteria := do
  identifier integrityError fields.candidateId (py "candidate_id")
  fingerprint integrityError fields.candidateFingerprint (py "candidate_fingerprint")
  identifier integrityError fields.requiredReportSchemaId (py "required_report_schema_id")
  semanticVersion integrityError fields.requiredReportSchemaVersion
    (py "required_report_schema_version")
  identifier integrityError fields.holdoutEvidenceSetId (py "holdout_evidence_set_id")
  fingerprint integrityError fields.holdoutEvidenceSetFingerprint
    (py "holdout_evidence_set_fingerprint")
  let acceptedDispositions ← boundedEnumTuple OfflineEvaluationDisposition.value
    fields.acceptedDispositions (py "accepted_dispositions")
  require (1 ≤ fields.minimumEvaluatedTrials ∧
      fields.minimumEvaluatedTrials ≤ maxTrialsPerEvaluation)
    ⟨.criteria, py "minimum_evaluated_trials is outside v1 bounds"⟩
  require (0 ≤ fields.maximumFailedTrials ∧ fields.maximumFailedTrials ≤ maxTrialsPerEvaluation)
    ⟨.criteria, py "maximum_failed_trials is outside v1 bounds"⟩
  let allowedTargetStages ← boundedEnumTuple PromotionTargetStage.value
    fields.allowedTargetStages (py "allowed_target_stages")
  let criteria := PromotionCriteria.identified p {
    toCriteriaFields := { fields with
      acceptedDispositions := acceptedDispositions
      allowedTargetStages := allowedTargetStages }
    schemaId := promotionCriteriaSchemaId
    schemaVersion := schemaVersion
    criteriaId := []
    criteriaFingerprint := [] }
  assertSize criteria.asDict
  pure criteria

/-- `PromotionCriteria._from_fields`. -/
def criteriaFromFields (fields : CriteriaFields) : Except PromotionError PromotionCriteria :=
  rewrap .criteria (py "promotion criteria violate the v1 contract") (initializeCriteria p fields)

/-- `verify_promotion_criteria`. -/
def verifyPromotionCriteria (criteria : PromotionCriteria) : Bool :=
  criteriaFromFields p criteria.toCriteriaFields = .ok criteria

end Criteria

section Requests

/-- `PROMOTION_REQUEST_SCHEMA_ID`. -/
def promotionRequestSchemaId : PyStr := py "ayyo.promotion-control.promotion-request.v1"

/-- The fields that `CandidatePromotionRequest._from_fields` takes. -/
structure RequestFields where
  candidateId : PyStr
  candidateFingerprint : PyStr
  reportId : PyStr
  reportFingerprint : PyStr
  criteriaId : PyStr
  criteriaFingerprint : PyStr
  targetStage : PromotionTargetStage
  provenanceRef : PyStr
  provenanceFingerprint : PyStr
  note : Option PyStr
  deriving DecidableEq

/-- `CandidatePromotionRequest`, as stored. -/
structure CandidatePromotionRequest extends RequestFields where
  schemaId : PyStr
  schemaVersion : PyStr
  requestId : PyStr
  requestFingerprint : PyStr
  deriving DecidableEq

/-- The document of a source reference. -/
def provenanceDocument (sourceRef fingerprint : PyStr) : Json :=
  .obj [(py "fingerprint", .str fingerprint), (py "source_ref", .str sourceRef)]

/-- `CandidatePromotionRequest.semantic_document`. -/
def CandidatePromotionRequest.semanticDocument (request : CandidatePromotionRequest) :
    List (PyStr × Json) :=
  [(py "candidate", identityDocument request.candidateId request.candidateFingerprint),
    (py "criteria", identityDocument request.criteriaId request.criteriaFingerprint),
    (py "note", optionalText request.note),
    (py "provenance", provenanceDocument request.provenanceRef request.provenanceFingerprint),
    (py "report", identityDocument request.reportId request.reportFingerprint),
    (py "schema", schemaDocument request.schemaId request.schemaVersion),
    (py "target_stage", .str request.targetStage.value)]

/-- `CandidatePromotionRequest.as_dict`. -/
def CandidatePromotionRequest.asDict (request : CandidatePromotionRequest) : Json :=
  .obj (request.semanticDocument ++
    [(py "request_fingerprint", .str request.requestFingerprint),
      (py "request_id", .str request.requestId)])

variable (p : Platform) (nfc : Nfc)

/-- The request with its digest and identity computed from its contents. -/
def CandidatePromotionRequest.identified (request : CandidatePromotionRequest) :
    CandidatePromotionRequest :=
  let fingerprint := semanticSha256 p (py "promotion-request-content")
    (.obj request.semanticDocument)
  { request with
    requestFingerprint := fingerprint
    requestId := contentIdentity p (py "promotion-request") (py "content_fingerprint")
      fingerprint promotionRequestSchemaId }

/-- The body of `CandidatePromotionRequest._initialize`. -/
def initializeRequest (fields : RequestFields) :
    Except PromotionError CandidatePromotionRequest := do
  identifier integrityError fields.candidateId (py "candidate_id")
  identifier integrityError fields.reportId (py "report_id")
  identifier integrityError fields.criteriaId (py "criteria_id")
  identifier integrityError fields.provenanceRef (py "provenance_ref")
  fingerprint integrityError fields.candidateFingerprint (py "candidate_fingerprint")
  fingerprint integrityError fields.reportFingerprint (py "report_fingerprint")
  fingerprint integrityError fields.criteriaFingerprint (py "criteria_fingerprint")
  fingerprint integrityError fields.provenanceFingerprint (py "provenance_fingerprint")
  let note ← optionalNote integrityError nfc fields.note
  let request := CandidatePromotionRequest.identified p {
    toRequestFields := { fields with note := note }
    schemaId := promotionRequestSchemaId
    schemaVersion := schemaVersion
    requestId := []
    requestFingerprint := [] }
  assertSize request.asDict
  pure request

/-- `CandidatePromotionRequest._from_fields`. -/
def requestFromFields (fields : RequestFields) :
    Except PromotionError CandidatePromotionRequest :=
  rewrap .request (py "promotion request violates the v1 contract")
    (initializeRequest p nfc fields)

/-- `verify_promotion_request`. -/
def verifyPromotionRequest (request : CandidatePromotionRequest) : Bool :=
  requestFromFields p nfc request.toRequestFields = .ok request

end Requests

section Decisions

/-- `PROMOTION_DECISION_SCHEMA_ID`. -/
def promotionDecisionSchemaId : PyStr := py "ayyo.promotion-control.promotion-decision.v1"

/-- The fields that `PromotionDecision._create` takes. -/
structure DecisionFields where
  requestId : PyStr
  requestFingerprint : PyStr
  criteriaId : PyStr
  criteriaFingerprint : PyStr
  candidateId : PyStr
  candidateFingerprint : PyStr
  reportId : PyStr
  reportFingerprint : PyStr
  targetStage : PromotionTargetStage
  status : PromotionDecisionStatus
  reasons : List PromotionDecisionReason
  deriving DecidableEq

/-- `PromotionDecision`, as stored. -/
structure PromotionDecision extends DecisionFields where
  schemaId : PyStr
  schemaVersion : PyStr
  decisionId : PyStr
  decisionFingerprint : PyStr
  deriving DecidableEq

/-- `PromotionDecision.semantic_document`. -/
def PromotionDecision.semanticDocument (decision : PromotionDecision) : List (PyStr × Json) :=
  [(py "candidate", identityDocument decision.candidateId decision.candidateFingerprint),
    (py "criteria", identityDocument decision.criteriaId decision.criteriaFingerprint),
    (py "reasons", .arr (decision.reasons.map fun reason => .str reason.value)),
    (py "report", identityDocument decision.reportId decision.reportFingerprint),
    (py "request", identityDocument decision.requestId decision.requestFingerprint),
    (py "schema", schemaDocument decision.schemaId decision.schemaVersion),
    (py "status", .str decision.status.value),
    (py "target_stage", .str decision.targetStage.value)]

/-- `PromotionDecision.as_dict`. -/
def PromotionDecision.asDict (decision : PromotionDecision) : Json :=
  .obj (decision.semanticDocument ++
    [(py "decision_fingerprint", .str decision.decisionFingerprint),
      (py "decision_id", .str decision.decisionId)])

variable (p : Platform) (nfc : Nfc)

/-- The decision with its digest and identity computed from its contents. -/
def PromotionDecision.identified (decision : PromotionDecision) : PromotionDecision :=
  let fingerprint := semanticSha256 p (py "promotion-decision-content")
    (.obj decision.semanticDocument)
  { decision with
    decisionFingerprint := fingerprint
    decisionId := contentIdentity p (py "promotion-decision") (py "content_fingerprint")
      fingerprint promotionDecisionSchemaId }

/-- The agreement of a status with its reasons. -/
def checkReasons (status : PromotionDecisionStatus) (reasons : List PromotionDecisionReason) :
    Except PromotionError Unit :=
  match status with
  | .eligible => require (reasons = [.criteriaSatisfied])
      ⟨.decision, py "eligible decision requires only criteria_satisfied"⟩
  | .notEligible => require (PromotionDecisionReason.criteriaSatisfied ∉ reasons)
      ⟨.decision, py "not-eligible decision cannot claim criteria_satisfied"⟩

/-- The body of `PromotionDecision._initialize`. -/
def initializeDecision (fields : DecisionFields) : Except PromotionError PromotionDecision := do
  identifier integrityError fields.requestId (py "request_id")
  identifier integrityError fields.criteriaId (py "criteria_id")
  identifier integrityError fields.candidateId (py "candidate_id")
  identifier integrityError fields.reportId (py "report_id")
  fingerprint integrityError fields.requestFingerprint (py "request_fingerprint")
  fingerprint integrityError fields.criteriaFingerprint (py "criteria_fingerprint")
  fingerprint integrityError fields.candidateFingerprint (py "candidate_fingerprint")
  fingerprint integrityError fields.reportFingerprint (py "report_fingerprint")
  let reasons ← boundedEnumTuple PromotionDecisionReason.value fields.reasons
    (py "promotion decision reasons")
  checkReasons fields.status reasons
  let decision := PromotionDecision.identified p {
    toDecisionFields := { fields with reasons := reasons }
    schemaId := promotionDecisionSchemaId
    schemaVersion := schemaVersion
    decisionId := []
    decisionFingerprint := [] }
  assertSize decision.asDict
  pure decision

/-- `PromotionDecision._create`. -/
def createDecision (fields : DecisionFields) : Except PromotionError PromotionDecision :=
  rewrap .decision (py "promotion decision violates the v1 contract")
    (initializeDecision p fields)

/-- `verify_promotion_decision`. -/
def verifyPromotionDecision (decision : PromotionDecision) : Bool :=
  createDecision p decision.toDecisionFields = .ok decision

/-- `status_counts.get(OfflineTrialStatus.OUTCOME_MISMATCH.value, 0)`. -/
def mismatchCount (report : OfflineEvaluationReport) : Nat :=
  ((report.statusCounts.reverse.find? fun count =>
    count.value = OfflineTrialStatus.outcomeMismatch.value).map (·.count)).getD 0

/-- A reason with its condition. -/
def reasonWhen (condition : Prop) [Decidable condition] (reason : PromotionDecisionReason) :
    List PromotionDecisionReason := if condition then [reason] else []

/-- The reasons that `evaluate_promotion` collects. -/
def shortfalls (criteria : PromotionCriteria) (request : CandidatePromotionRequest)
    (candidate : CandidatePolicyManifest) (report : OfflineEvaluationReport) :
    List PromotionDecisionReason :=
  reasonWhen ((request.criteriaId, request.criteriaFingerprint) ≠
    (criteria.criteriaId, criteria.criteriaFingerprint)) .requestCriteriaMismatch ++
  reasonWhen ((request.candidateId, request.candidateFingerprint) ≠
    (candidate.candidateId, candidate.candidateFingerprint)) .requestCandidateMismatch ++
  reasonWhen ((request.reportId, request.reportFingerprint) ≠
    (report.reportId, report.reportFingerprint)) .requestReportMismatch ++
  reasonWhen ((report.candidateId, report.candidateFingerprint) ≠
      (candidate.candidateId, candidate.candidateFingerprint) ∨
    (report.candidateEvidenceSetId, report.candidateEvidenceSetFingerprint) ≠
      (candidate.candidateEvidenceSetId, candidate.candidateEvidenceSetFingerprint))
    .reportCandidateMismatch ++
  reasonWhen ((criteria.candidateId, criteria.candidateFingerprint) ≠
    (candidate.candidateId, candidate.candidateFingerprint)) .criteriaCandidateMismatch ++
  reasonWhen (request.targetStage ∉ criteria.allowedTargetStages) .targetNotAllowed ++
  reasonWhen (report.schemaId ≠ criteria.requiredReportSchemaId) .unsupportedEvaluationSchema ++
  reasonWhen (report.schemaVersion ≠ criteria.requiredReportSchemaVersion)
    .unsupportedEvaluationVersion ++
  reasonWhen (report.disposition ∉ criteria.acceptedDispositions) .dispositionNotAccepted ++
  reasonWhen (criteria.requireCompleteEvaluation = true ∧
    (report.coverageNumerator ≠ report.coverageDenominator ∨
      report.missingHoldoutEpisodeIds ≠ [] ∨ report.incompleteHoldoutEpisodeIds ≠ []))
    .incompleteEvaluation ++
  reasonWhen ((report.coverageNumerator : Int) < criteria.minimumEvaluatedTrials)
    .insufficientEvaluatedTrials ++
  reasonWhen ((mismatchCount report : Int) > criteria.maximumFailedTrials)
    .failedTrialLimitExceeded ++
  reasonWhen (report.holdoutEvidenceSetId ≠ criteria.holdoutEvidenceSetId ∨
    report.holdoutEvidenceSetFingerprint ≠ criteria.holdoutEvidenceSetFingerprint)
    .holdoutIdentityMismatch

/-- `PromotionDecisionError(message)`. -/
def decisionError (message : PyStr) : PromotionError := ⟨.decision, message⟩

/-- `evaluate_promotion`. -/
def evaluatePromotion (criteria : PromotionCriteria) (request : CandidatePromotionRequest)
    (candidate : CandidatePolicyManifest) (report : OfflineEvaluationReport) :
    Except PromotionError PromotionDecision := do
  require (verifyPromotionCriteria p criteria = true)
    (decisionError (py "promotion criteria failed integrity verification"))
  require (verifyPromotionRequest p nfc request = true)
    (decisionError (py "promotion request failed integrity verification"))
  require (Learning.verifyCandidatePolicy p nfc candidate = true)
    (decisionError (py "candidate failed integrity verification"))
  require (Learning.verifyEvaluationReport p nfc report = true)
    (decisionError (py "evaluation report failed integrity verification"))
  let reasons := shortfalls criteria request candidate report
  createDecision p {
    requestId := request.requestId
    requestFingerprint := request.requestFingerprint
    criteriaId := criteria.criteriaId
    criteriaFingerprint := criteria.criteriaFingerprint
    candidateId := candidate.candidateId
    candidateFingerprint := candidate.candidateFingerprint
    reportId := report.reportId
    reportFingerprint := report.reportFingerprint
    targetStage := request.targetStage
    status := if reasons = [] then .eligible else .notEligible
    reasons := if reasons = [] then [.criteriaSatisfied] else reasons }

end Decisions

end Promotion
end AyyoHumanoid
