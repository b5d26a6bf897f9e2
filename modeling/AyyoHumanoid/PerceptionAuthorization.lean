import AyyoHumanoid.PerceptionChecks

/-!
# Authorizations

An adapter, an evaluator or the synchronizer hands over sealed evidence. Under
its exact requirement the boundary keeps one authorization for each observation
that it carries, the newest ones up to a capacity. What the adapters carry is
rebuilt unchanged.
-/

namespace AyyoHumanoid
namespace Perception

open PyText JsonText World Rgbd

section Adapters

variable {p : Platform} (config : PerceptionTrustConfig)

/-- The authorizations kept after new ones were stored. -/
def trimAuthorizations (authorizations : PyDict ObservationId (Observation p)) :
    PyDict ObservationId (Observation p) :=
  authorizations.trim (fun id o => evictionRank o.observedAtNs id) maxVisualSourceReferences

/-- The authorizations of a frame and of its health fact. -/
def authorizeBoth (frame health : Observation p)
    (authorizations : PyDict ObservationId (Observation p)) :
    PyDict ObservationId (Observation p) :=
  trimAuthorizations
    ((authorizations.set frame.observationId frame).set health.observationId health)

/-- A health fact is about the frame of its admission. -/
def HealthAgrees (frame : Observation p) (health : SensorHealthObservation) : Prop :=
  health.robotId = frame.robotId ∧ some health.sensor = frame.sensor? ∧
    health.provenance = frame.provenance ∧ health.observedAtNs = frame.observedAtNs

instance (frame : Observation p) (health : SensorHealthObservation) :
    Decidable (HealthAgrees frame health) :=
  inferInstanceAs (Decidable (_ ∧ _))

/-- A reviewed source has a requirement that the admission was made under. -/
def Sealed {ρ : Type} (requirement : Option ρ) (given : ρ) (agrees : ρ → Prop)
    (frame : Observation p) (health : SensorHealthObservation) : Prop :=
  (∃ found ∈ requirement, given = found ∧ agrees found) ∧
    sourceFor config (.observation frame) ≠ none ∧ HealthAgrees frame health

instance {ρ : Type} [DecidableEq ρ] (requirement : Option ρ) (given : ρ) (agrees : ρ → Prop)
    [DecidablePred agrees] (frame : Observation p) (health : SensorHealthObservation) :
    Decidable (Sealed config requirement given agrees frame health) :=
  inferInstanceAs (Decidable (_ ∧ _))

end Adapters

namespace TrustBoundary

variable {p : Platform} (config : PerceptionTrustConfig)

section Pairs

/-- `authorize_physical_camera`. -/
def authorizePhysicalCamera (admission : PhysicalCameraAdmission) (s : TrustBoundary p) :
    TrustBoundary p × Bool :=
  let frame : Observation p := .visualFrame admission.frame
  if Sealed config (physicalCameraRequirement config frame) admission.requirement
      (·.MatchesUnsealed admission.frame) frame admission.health then
    ({ s with
      physicalCameraAuthorizations :=
        authorizeBoth frame (.sensorHealth admission.health) s.physicalCameraAuthorizations }, true)
  else (s, false)

/-- `authorize_depth_camera`. -/
def authorizeDepthCamera (admission : DepthCameraAdmission) (s : TrustBoundary p) :
    TrustBoundary p × Bool :=
  let frame : Observation p := .depthFrame admission.frame
  if Sealed config (depthCameraRequirement config frame) admission.requirement
      (·.MatchesUnsealed admission.frame) frame admission.health then
    ({ s with
      depthCameraAuthorizations :=
        authorizeBoth frame (.sensorHealth admission.health) s.depthCameraAuthorizations }, true)
  else (s, false)

/-- `authorize_audio`. -/
def authorizeAudio (admission : AudioCaptureAdmission) (s : TrustBoundary p) :
    TrustBoundary p × Bool :=
  let frame : Observation p := .audioFrame admission.frame
  if Sealed config (audioRequirement config frame) admission.requirement
      (·.MatchesUnsealed admission.frame) frame admission.health then
    ({ s with
      audioAuthorizations :=
        authorizeBoth frame (.sensorHealth admission.health) s.audioAuthorizations }, true)
  else (s, false)

end Pairs

section Evaluated

/-- An evaluated result has the requirement and the reference of its admission. -/
def Evaluated (admission : EvaluatedVisualAdmission p) : Prop :=
  ∃ reference ∈ admission.observation.evaluationReference,
    ∃ requirement ∈ evaluationRequirement config admission.observation,
      admission.requirement = requirement ∧ admission.reference = reference ∧
        requirement.Matches p admission.observation.producer reference

instance (admission : EvaluatedVisualAdmission p) : Decidable (Evaluated config admission) := by
  unfold Evaluated
  infer_instance

/-- `authorize_evaluated_visual`. -/
def authorizeEvaluatedVisual (admission : EvaluatedVisualAdmission p) (s : TrustBoundary p) :
    TrustBoundary p × Bool :=
  let rebuilt := admission.observation
  if Evaluated config admission ∧
      ∃ source ∈ s.visualSources.get? rebuilt.sourceVisualObservationId,
        FrameAgrees source rebuilt then
    ({ s with
      evaluatedVisualAuthorizations :=
        (s.evaluatedVisualAuthorizations.set rebuilt.observationId rebuilt).trim
          (fun id o => evictionRank o.resultAtNs id) maxVisualSourceReferences }, true)
  else (s, false)

end Evaluated

section Fusion

/-- A pair has the requirement of its admission. -/
def Fused (admission : FusionAdmission) : Prop :=
  ∃ requirement ∈ fusionRequirement config admission.observation,
    admission.requirement = requirement ∧ requirement.MatchesFused admission.observation

instance (admission : FusionAdmission) : Decidable (Fused config admission) := by
  unfold Fused
  infer_instance

/-- Both frames of a pair are retained. -/
def ComponentsRetained (s : TrustBoundary p) (o : FusedRgbdObservation) : Prop :=
  s.visualSources.get? (o.rgbObservation.observationId p) = some o.rgbObservation ∧
    s.depthSources.get? (o.depthObservation.observationId p) = some o.depthObservation

instance (s : TrustBoundary p) (o : FusedRgbdObservation) : Decidable (ComponentsRetained s o) :=
  inferInstanceAs (Decidable (_ ∧ _))

/-- `authorize_rgbd_fusion`. -/
def authorizeRgbdFusion (admission : FusionAdmission) (s : TrustBoundary p) :
    TrustBoundary p × Bool :=
  let observation := admission.observation
  if Fused config admission ∧ ComponentsRetained s observation then
    ({ s with
      rgbdFusionAuthorizations :=
        (s.rgbdFusionAuthorizations.set (observation.fingerprint p).observationId observation).trim
          (fun id o => evictionRank o.observedAtNs id) maxVisualSourceReferences }, true)
  else (s, false)

end Fusion

end TrustBoundary

end Perception
end AyyoHumanoid
