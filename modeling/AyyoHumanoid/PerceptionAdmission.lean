import AyyoHumanoid.PerceptionAuthorization

/-!
# Admission

Evidence is rebuilt, checked, compared with what is retained and then retained
itself. The comparison is with the latest record of its source key, or with the
admitted semantic observations. A failure report is admitted as the health fact
that it stands for.
-/

namespace AyyoHumanoid
namespace Perception

open PyText JsonText World Rgbd

section Times

/-- `validate_time`. -/
def validateTime (value : Int) (fieldName : String) : Except PerceptionError Nat := do
  require (0 ≤ value ∧ value ≤ maxObservationTimeNs) (.configuration
    (py fieldName ++ py " must be non-negative bounded integer nanoseconds"))
  pure value.toNat

end Times

section Results

variable {p : Platform} (normalize : Quaternion → Option Quaternion)

/-- What an admission returns or raises. -/
abbrev Outcome (p : Platform) : Type := Except PerceptionError (AdmissionResult p)

/-- `rebuild_observation` or `rebuild_semantic_observation`. -/
def rebuildEvidence : Evidence p → Except WorldError (Evidence p)
  | .observation o => Evidence.observation <$> rebuildObservation normalize o
  | .semantic o => .ok (.semantic o)

/-- `AdmissionResult` of accepted evidence, which is rebuilt once more. -/
def acceptedResult (rebuilt : Evidence p) : Outcome p :=
  match rebuildEvidence normalize rebuilt with
  | .error error => .error (.world error)
  | .ok again => do
    require (rebuilt.evidenceId = again.evidenceId)
      (.configuration (py "accepted evidence identity is inconsistent"))
    pure {
      status := .accepted
      reason := .accepted
      observationId := some rebuilt.evidenceId
      observation := some again
      detail := py "evidence admitted under the exact reviewed source contract" }

end Results

namespace TrustBoundary

variable {p : Platform}

section Settlement

/-- `_reject`. -/
def reject (s : TrustBoundary p) (refusal : Refusal) (id : Option EvidenceId) :
    TrustBoundary p × Outcome p :=
  ({ s with rejectedCount := s.rejectedCount + 1 },
    .ok ⟨.rejected, refusal.reason, id, none, refusal.detail⟩)

/-- Evidence that is retained already. -/
def duplicate (s : TrustBoundary p) (id : EvidenceId) : TrustBoundary p × Outcome p :=
  ({ s with duplicateCount := s.duplicateCount + 1 },
    .ok ⟨.duplicate, .duplicate, some id, none, py "equivalent evidence is already admitted"⟩)

/-- How evidence compares with what is retained. -/
inductive Comparison where
  /-- It is retained already. -/
  | same
  /-- It may not be retained. -/
  | refused (refusal : Refusal)
  /-- It is retained now. -/
  | fresh
  deriving DecidableEq

/-- An observation against the latest record of its key. -/
def compareLatest (source : PerceptionSourceContract) (o : Observation p) (s : TrustBoundary p) :
    Comparison :=
  match s.lastByKey.get? (stateKey source o) with
  | none => .fresh
  | some current =>
    if o.observationId = current.2 then .same
    else if orderingTime o < current.1 then
      .refused (refusal .outOfOrder "newer evidence for this source key is already admitted")
    else if orderingTime o = current.1 then
      .refused (refusal .temporalConflict "same source key and time carry conflicting evidence")
    else .fresh

/-- A semantic observation against those admitted. -/
def compareSemantic (o : SemanticObservation) (s : TrustBoundary p) : Comparison :=
  if o.observationId p ∈ s.semanticAdmissions.keys then .same
  else if maxSemanticAdmissions ≤ s.semanticAdmissions.size then
    .refused (refusal .semanticCapacityReached
      "semantic admission capacity is exhausted for this epoch")
  else .fresh

/-- Evidence against what is retained. -/
def compare (source : PerceptionSourceContract) (s : TrustBoundary p) : Evidence p → Comparison
  | .semantic o => compareSemantic o s
  | .observation o => compareLatest source o s

/-- The record of a key is replaced. -/
def recordLatest (source : PerceptionSourceContract) (o : Observation p) (s : TrustBoundary p) :
    TrustBoundary p :=
  { s with lastByKey := s.lastByKey.set (stateKey source o) (orderingTime o, o.observationId) }

/-- What later evidence may refer to is kept. -/
def remember (o : Observation p) (s : TrustBoundary p) : TrustBoundary p :=
  match o with
  | .visualFrame frame => s.rememberVisualSource frame
  | .depthFrame frame => s.rememberDepthSource frame
  | .visualInterpretation interpretation => s.rememberVisualInterpretation interpretation
  | _ => s

/-- Fresh evidence is retained, after what has expired was dropped. -/
def retain (config : PerceptionTrustConfig) (nowNs : Nat) (source : PerceptionSourceContract)
    (s : TrustBoundary p) : Evidence p → TrustBoundary p
  | .observation o =>
    remember o ((recordLatest source o s).purgeVisualSources config nowNs)
  | .semantic o =>
    let kept := s.purgeVisualSources config nowNs
    { kept with semanticAdmissions := kept.semanticAdmissions.set (o.observationId p) o }

/-- Checked evidence is a duplicate, is refused or is accepted. -/
def settle (config : PerceptionTrustConfig) (normalize : Quaternion → Option Quaternion)
    (nowNs : Nat) (rebuilt : Evidence p) (source : PerceptionSourceContract)
    (s : TrustBoundary p) : TrustBoundary p × Outcome p :=
  match s.compare source rebuilt with
  | .same => s.duplicate rebuilt.evidenceId
  | .refused refusal => s.reject refusal rebuilt.evidenceId
  | .fresh =>
    let kept := s.retain config nowNs source rebuilt
    ({ kept with acceptedCount := kept.acceptedCount + 1 }, acceptedResult normalize rebuilt)

end Settlement

section Admission

variable (config : PerceptionTrustConfig) (normalize : Quaternion → Option Quaternion)

/-- Evidence of a known source is checked against it and settled. -/
def admitFrom (nowNs : Nat) (rebuilt : Evidence p) (source : PerceptionSourceContract)
    (s : TrustBoundary p) : TrustBoundary p × Outcome p :=
  match checkAgainst config nowNs rebuilt source s with
  | (s, some refusal) => s.reject refusal rebuilt.evidenceId
  | (s, none) => s.settle config normalize nowNs rebuilt source

/-- Evidence whose times are in order. -/
def admitTimely (nowNs : Nat) (rebuilt : Evidence p) (s : TrustBoundary p) :
    TrustBoundary p × Outcome p :=
  if rebuilt.robotId.text ≠ config.robotId then
    s.reject (refusal .wrongRobotIdentity
      "observation robot identity does not match the trust boundary") rebuilt.evidenceId
  else if rebuilt.provenance.clock ≠ config.sourceClock then
    s.reject (refusal .clockDomainMismatch
      "observation clock is not the configured evidence clock") rebuilt.evidenceId
  else
    match sourceFor config rebuilt with
    | none => s.reject (refusal (sourceReason config rebuilt)
        "observation does not match one exact reviewed source contract") rebuilt.evidenceId
    | some source => s.admitFrom config normalize nowNs rebuilt source

/-- Rebuilt evidence at valid times. -/
def admitAt (nowNs receiptNs : Nat) (rebuilt : Evidence p) (s : TrustBoundary p) :
    TrustBoundary p × Outcome p :=
  if ∃ last ∈ s.lastNowNs, nowNs < last then
    (s, .error (.clockRegression
      (py "source clock regressed; reset the evidence epoch before reuse")))
  else
    let s := { s with lastNowNs := some nowNs }
    if ∃ last ∈ s.lastReceiptMonotonicNs, receiptNs < last then
      s.reject (refusal .receiptTimeRegression "monotonic receipt time regressed")
        rebuilt.evidenceId
    else
      let s := { s with lastReceiptMonotonicNs := some receiptNs }
      s.admitTimely config normalize nowNs rebuilt

/-- Rebuilt evidence at given times. -/
def admitRebuilt (nowNs receivedAtMonotonicNs : Int) (rebuilt : Evidence p)
    (s : TrustBoundary p) : TrustBoundary p × Outcome p :=
  match validateTime nowNs "source now" with
  | .error error => (s, .error error)
  | .ok now =>
    match validateTime receivedAtMonotonicNs "monotonic receipt" with
    | .error error => (s, .error error)
    | .ok receipt => s.admitAt config normalize now receipt rebuilt

/-- The refusal of evidence that cannot be rebuilt. -/
def rebuildRefusal (error : WorldError) : Refusal :=
  ⟨if error.kind = .observationIdentity then .identityMismatch else .malformedObservation,
    error.detail⟩

/-- `admit`. -/
def admitEvidence (evidence : Evidence p) (nowNs receivedAtMonotonicNs : Int) (s : TrustBoundary p) :
    TrustBoundary p × Outcome p :=
  match rebuildEvidence normalize evidence with
  | .error error => s.reject (rebuildRefusal error) none
  | .ok (.observation (.environmentEntity entity)) =>
    s.reject (refusal .malformedObservation "v1 perception admits proprioceptive evidence only")
      (EvidenceId.observation (Observation.environmentEntity (p := p) entity).observationId)
  | .ok rebuilt => s.admitRebuilt config normalize nowNs receivedAtMonotonicNs rebuilt

end Admission

end TrustBoundary

section Failures

/-- The texts of the failures are details of sensor health. -/
theorem EvidenceFailureKind.value_detail (failure : EvidenceFailureKind) :
    IsHealthDetail failure.value := by
  cases failure <;> decide

/-- The texts of the failures can be encoded. -/
theorem EvidenceFailureKind.value_encodable (failure : EvidenceFailureKind) :
    utf8Encodable failure.value = true := by
  cases failure <;> decide

variable (config : PerceptionTrustConfig)

/-- The health fact that a failure stands for. -/
def failureHealth (source : PerceptionSourceContract) (failure : EvidenceFailureKind)
    (observedAtNs : Int) : Except WorldError SensorHealthObservation := do
  let canonical ← ensure (IsCanonical 256 config.robotId) (identifierError "robot_id")
  let bounded ← ensure (0 ≤ observedAtNs ∧ observedAtNs.toNat ≤ maxObservationTimeNs)
    (invalid .malformedObservation "observed_at_ns must be non-negative integer source time")
  pure {
    robotId := ⟨config.robotId, canonical.down⟩
    sensor := source.sensor
    availability := failure.availability
    observedAtNs := observedAtNs.toNat
    provenance := source.provenance
    evidenceDetail := failure.value
    bounded := bounded.down.2
    detail := failure.value_detail
    encodable := failure.value_encodable }

/-- What a report returns for the admission of its health fact. -/
def failureResult {p : Platform} (failure : EvidenceFailureKind) (result : AdmissionResult p) :
    AdmissionResult p :=
  if result.status = .accepted then { result with
    reason := failure.reason
    detail := py "typed failure retained as " ++ failure.availability.value ++ py " evidence" }
  else result

/-- `report_failure`. -/
def TrustBoundary.reportFailure {p : Platform} (normalize : Quaternion → Option Quaternion)
    (sensorId : PyStr) (failure : EvidenceFailureKind)
    (observedAtNs nowNs receivedAtMonotonicNs : Int) (s : TrustBoundary p) :
    TrustBoundary p × Outcome p :=
  match config.sources.filter (·.sensor.sensorId.text = sensorId) with
  | [source] =>
    match failureHealth config source failure observedAtNs with
    | .error error => (s, .error (.world error))
    | .ok health =>
      let admitted := s.admitEvidence config normalize (.observation (.sensorHealth health)) nowNs
        receivedAtMonotonicNs
      (admitted.1, failureResult failure <$> admitted.2)
  | _ => s.reject (refusal .unknownSensor
      "failure report does not identify one reviewed source") none

end Failures

end Perception
end AyyoHumanoid
