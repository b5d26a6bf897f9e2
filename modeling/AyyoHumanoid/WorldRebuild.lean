import AyyoHumanoid.WorldInterpretations

/-!
# Observations and their reconstruction

Both the perception boundary and the working memory rebuild an observation
before they use it. The records here satisfy their checks already, so a rebuilt
observation is the same one, except that the orientation of an inertial unit is
normalized again in floating point. The runtime supplies that normalization.
-/

namespace AyyoHumanoid
namespace World

open PyText JsonText PyCollections

/-- `Observation`. -/
inductive Observation (p : Platform) where
  /-- `RobotStateObservation`. -/
  | robotState (observation : RobotStateObservation)
  /-- `ImuObservation`. -/
  | imu (observation : ImuObservation)
  /-- `AudioFrameObservation`. -/
  | audioFrame (observation : AudioFrameObservation)
  /-- `VisualFrameObservation`. -/
  | visualFrame (observation : VisualFrameObservation)
  /-- `DepthFrameObservation`. -/
  | depthFrame (observation : DepthFrameObservation)
  /-- `FusedRgbdObservation`. -/
  | fusedRgbd (observation : FusedRgbdObservation)
  /-- `VisualInterpretationObservation`. -/
  | visualInterpretation (observation : VisualInterpretationObservation p)
  /-- `SemanticEvidenceObservation`. -/
  | semanticEvidence (observation : SemanticEvidenceObservation p)
  /-- `BodyPoseObservation`. -/
  | bodyPose (observation : BodyPoseObservation)
  /-- `SensorHealthObservation`. -/
  | sensorHealth (observation : SensorHealthObservation)
  /-- `EnvironmentEntityObservation`. -/
  | environmentEntity (observation : EnvironmentEntityObservation)
  deriving DecidableEq

namespace Observation

variable {p : Platform}

/-- `robot_id`. -/
def robotId : Observation p → Name
  | .robotState o => o.robotId
  | .imu o => o.robotId
  | .audioFrame o => o.robotId
  | .visualFrame o => o.robotId
  | .depthFrame o => o.robotId
  | .fusedRgbd o => o.robotId
  | .visualInterpretation o => o.robotId
  | .semanticEvidence o => o.source.robotId
  | .bodyPose o => o.robotId
  | .sensorHealth o => o.robotId
  | .environmentEntity o => o.robotId

/-- `observed_at_ns`. -/
def observedAtNs : Observation p → Nat
  | .robotState o => o.observedAtNs
  | .imu o => o.observedAtNs
  | .audioFrame o => o.observedAtNs
  | .visualFrame o => o.observedAtNs
  | .depthFrame o => o.observedAtNs
  | .fusedRgbd o => o.observedAtNs
  | .visualInterpretation o => o.observedAtNs
  | .semanticEvidence o => o.source.observedAtNs
  | .bodyPose o => o.observedAtNs
  | .sensorHealth o => o.observedAtNs
  | .environmentEntity o => o.observedAtNs

/-- `provenance`. -/
def provenance : Observation p → ObservationProvenance
  | .robotState o => o.provenance
  | .imu o => o.provenance
  | .audioFrame o => o.provenance
  | .visualFrame o => o.provenance
  | .depthFrame o => o.provenance
  | .fusedRgbd o => o.provenance
  | .visualInterpretation o => o.provenance
  | .semanticEvidence o => o.source.provenance
  | .bodyPose o => o.provenance
  | .sensorHealth o => o.provenance
  | .environmentEntity o => o.provenance

/-- `sensor`, which robot states and entities lack. -/
def sensor? : Observation p → Option SensorIdentity
  | .robotState _ | .environmentEntity _ => none
  | .imu o => some o.sensor
  | .audioFrame o => some o.sensor
  | .visualFrame o => some o.sensor
  | .depthFrame o => some o.sensor
  | .fusedRgbd o => some o.sensor
  | .visualInterpretation o => some o.sensor
  | .semanticEvidence o => some o.source.sensor
  | .bodyPose o => some o.sensor
  | .sensorHealth o => some o.sensor

/-- `fingerprint`. -/
def fingerprint : Observation p → ObservationFingerprint
  | .robotState o => o.fingerprint p
  | .imu o => o.fingerprint p
  | .audioFrame o => o.fingerprint p
  | .visualFrame o => o.fingerprint p
  | .depthFrame o => o.fingerprint p
  | .fusedRgbd o => o.fingerprint p
  | .visualInterpretation o => o.fingerprint
  | .semanticEvidence o => o.fingerprint
  | .bodyPose o => o.fingerprint p
  | .sensorHealth o => o.fingerprint p
  | .environmentEntity o => o.fingerprint p

/-- `observation_id`. -/
def observationId (observation : Observation p) : ObservationId :=
  observation.fingerprint.observationId

end Observation

section Rebuild

variable (p : Platform) (normalize : Quaternion → Option Quaternion)

/-- `_quaternion(orientation, "IMU orientation")` of an orientation that may be absent. -/
def normalizeOrientation : Option Quaternion → Except WorldError (Option Quaternion)
  | none => .ok none
  | some rotation =>
    match normalize rotation with
    | some normalized => .ok (some normalized)
    | none => .error (invalid .malformedObservation
        "IMU orientation must be a normalized non-zero quaternion")

/-- The reconstruction of an IMU observation. -/
def ImuObservation.rebuild (observation : ImuObservation) : Except WorldError ImuObservation := do
  let orientation ← normalizeOrientation normalize observation.orientationXyzw
  let supported ← ensure (Supported orientation observation.orientationCovariance)
    (invalid .malformedCovariance "IMU orientation covariance cannot exist without an estimate")
  let evident ← ensure (orientation ≠ none ∨ observation.angularVelocityXyz ≠ none ∨
      observation.linearAccelerationXyz ≠ none)
    (invalid .malformedObservation "IMU evidence must contain at least one supplied estimate")
  let rebuilt : ImuObservation := { observation with
    orientationXyzw := orientation
    orientation_supported := supported.down
    evident := evident.down }
  require (rebuilt.fingerprint p = observation.fingerprint p)
    (identityError "IMU observation fingerprint does not match its content")
  pure rebuilt

variable {p}

/-- `rebuild_observation`. -/
def rebuildObservation : Observation p → Except WorldError (Observation p)
  | .imu observation => Observation.imu <$> observation.rebuild p normalize
  | observation => .ok observation

end Rebuild

/-- A rebuilt inertial observation has the robot, source and time of the given one. -/
theorem ImuObservation.rebuild_ok {p : Platform} {normalize : Quaternion → Option Quaternion}
    {observation rebuilt : ImuObservation} (h : observation.rebuild p normalize = .ok rebuilt) :
    rebuilt.fingerprint p = observation.fingerprint p := by
  simp only [ImuObservation.rebuild, Checks.bind_ok, Checks.require_ok, Checks.pure_ok] at h
  obtain ⟨_, -, _, -, _, -, _, hsame, rfl⟩ := h
  exact hsame

/-- A rebuilt observation has the fingerprint of the given one. -/
theorem rebuildObservation_fingerprint {p : Platform} {normalize : Quaternion → Option Quaternion}
    {observation rebuilt : Observation p} (h : rebuildObservation normalize observation =
      .ok rebuilt) : rebuilt.fingerprint = observation.fingerprint := by
  cases observation with
  | imu imu =>
    rw [rebuildObservation, Checks.map_ok] at h
    obtain ⟨imu', himu, rfl⟩ := h
    exact ImuObservation.rebuild_ok himu
  | _ =>
    obtain rfl := Except.ok.inj h
    rfl

/-- Only inertial observations are changed by a reconstruction. -/
theorem rebuildObservation_eq {p : Platform} {normalize : Quaternion → Option Quaternion}
    {observation rebuilt : Observation p} (h : rebuildObservation normalize observation =
      .ok rebuilt) (hkind : ∀ imu, rebuilt ≠ .imu imu) : rebuilt = observation := by
  cases observation with
  | imu imu =>
    rw [rebuildObservation, Checks.map_ok] at h
    obtain ⟨imu', himu, rfl⟩ := h
    exact absurd rfl (hkind imu')
  | _ => exact (Except.ok.inj h).symm

end World
end AyyoHumanoid
