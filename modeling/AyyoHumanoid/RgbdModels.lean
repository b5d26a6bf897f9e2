import AyyoHumanoid.JsonAscii
import AyyoHumanoid.WorldDerived

/-!
# Requirements and admissions of the RGB-D synchronizer

A requirement fixes the robot, the two cameras, their sources and calibrations
and the pairing policy. A frame or a pair matches it field by field. An
admission is a pair with the requirement it was made under.
-/

namespace AyyoHumanoid
namespace Rgbd

open PyText JsonText World

/-- `MAX_RGBD_PENDING_PER_STREAM`. -/
def maxRgbdPendingPerStream : Nat := 8

/-- `MAX_RGBD_COUNT`. -/
def maxRgbdCount : Nat := 2 ^ 63 - 1

/-- `RgbdFusionLifecycleState`. -/
inductive LifecycleState where
  | unconfigured | inactive | active | finalized
  deriving DecidableEq, Repr

/-- `RgbdFusionEvent`. -/
inductive FusionEvent where
  | unconfigured | configured | active | pairAccepted | missingCounterpart | wrongComponent
  | sessionMismatch | timestampMismatch | futureEvidence | staleEvidence | regressedEvidence
  | duplicateEvidence | pendingEvicted | inactive | shutdown
  deriving DecidableEq, Repr

/-- The exceptions of the synchronizer. -/
inductive FusionError where
  /-- `RgbdFusionConfigurationError`. -/
  | configuration (detail : PyStr)
  /-- `RgbdFusionLifecycleError`. -/
  | lifecycle (detail : PyStr)
  /-- `RgbdFusionValidationError`. -/
  | validation (detail : PyStr)
  /-- An exception of the world model. -/
  | world (error : WorldError)
  /-- A failed assertion. -/
  | assertion
  deriving DecidableEq

/-- `RgbdFusionRequirement`. -/
structure FusionRequirement where
  robotId : Name
  fusionSensor : SensorIdentity
  rgbSensor : SensorIdentity
  depthSensor : SensorIdentity
  rgbProvenance : ObservationProvenance
  depthProvenance : ObservationProvenance
  fusionProvenance : ObservationProvenance
  rgbProducerId : Name
  depthProducerId : Name
  rgbProducerImplementationSha256 : Digest
  depthProducerImplementationSha256 : Digest
  rgbSourceFingerprintSha256 : Digest
  depthSourceFingerprintSha256 : Digest
  rgbCameraFrameId : FrameId
  depthCameraFrameId : FrameId
  rgbCalibrationId : CalibrationId
  depthCalibrationId : CalibrationId
  pairingPolicyId : Name
  pairingPolicyVersion : Name
  /-- The robot is the canonical one. -/
  robot_eq : robotId = ayyoRobotId
  /-- The sensors are of their kinds. -/
  sensor_kinds : fusionSensor.kind = .rgbdFusion ∧ rgbSensor.kind = .rgbCamera ∧
    depthSensor.kind = .depthCamera
  /-- There is one clock. -/
  clock_eq : rgbProvenance.clock = depthProvenance.clock ∧
    depthProvenance.clock = fusionProvenance.clock
  /-- The mounts are not the optical frames. -/
  mounts : rgbCameraFrameId ≠ rgbSensor.frameId ∧ depthCameraFrameId ≠ depthSensor.frameId
  deriving DecidableEq

namespace FusionRequirement

/-- The document that names a requirement. -/
def document (requirement : FusionRequirement) : Json :=
  .obj [(py "depth_calibration_id", .str requirement.depthCalibrationId.text),
    (py "depth_camera_frame_id", .str requirement.depthCameraFrameId.text),
    (py "depth_producer_id", .str requirement.depthProducerId.text),
    (py "depth_producer_implementation_sha256",
      .str requirement.depthProducerImplementationSha256.text),
    (py "depth_provenance", requirement.depthProvenance.document),
    (py "depth_sensor", requirement.depthSensor.document),
    (py "depth_source_fingerprint_sha256", .str requirement.depthSourceFingerprintSha256.text),
    (py "fusion_provenance", requirement.fusionProvenance.document),
    (py "fusion_sensor", requirement.fusionSensor.document),
    (py "pairing_policy_id", .str requirement.pairingPolicyId.text),
    (py "pairing_policy_version", .str requirement.pairingPolicyVersion.text),
    (py "rgb_calibration_id", .str requirement.rgbCalibrationId.text),
    (py "rgb_camera_frame_id", .str requirement.rgbCameraFrameId.text),
    (py "rgb_producer_id", .str requirement.rgbProducerId.text),
    (py "rgb_producer_implementation_sha256",
      .str requirement.rgbProducerImplementationSha256.text),
    (py "rgb_provenance", requirement.rgbProvenance.document),
    (py "rgb_sensor", requirement.rgbSensor.document),
    (py "rgb_source_fingerprint_sha256", .str requirement.rgbSourceFingerprintSha256.text),
    (py "robot_id", .str requirement.robotId.text),
    (py "schema", .str (py "ayyo.rgbd-fusion-requirement.v1"))]

/-- `requirement_id`. -/
def requirementId (p : Platform) (requirement : FusionRequirement) : PyStr :=
  py "rgbd-requirement-sha256-" ++ p.sha256 (encodeAscii requirement.document)

/-- `matches_rgb`. -/
def MatchesRgb (requirement : FusionRequirement) (frame : VisualFrameObservation) : Prop :=
  frame.robotId = requirement.robotId ∧ frame.sensor = requirement.rgbSensor ∧
    frame.provenance = requirement.rgbProvenance ∧
    frame.calibrationId = requirement.rgbCalibrationId ∧ frame.availability = .available

instance (requirement : FusionRequirement) (frame : VisualFrameObservation) :
    Decidable (requirement.MatchesRgb frame) :=
  inferInstanceAs (Decidable (_ ∧ _))

/-- `matches_depth`. -/
def MatchesDepth (requirement : FusionRequirement) (frame : DepthFrameObservation) : Prop :=
  frame.robotId = requirement.robotId ∧ frame.sensor = requirement.depthSensor ∧
    frame.provenance = requirement.depthProvenance ∧
    frame.calibrationId = requirement.depthCalibrationId ∧
    frame.sourceManifestId = ⟨requirement.depthSourceFingerprintSha256⟩ ∧
    frame.availability = .available

instance (requirement : FusionRequirement) (frame : DepthFrameObservation) :
    Decidable (requirement.MatchesDepth frame) :=
  inferInstanceAs (Decidable (_ ∧ _))

/-- `matches_fused`. -/
def MatchesFused (requirement : FusionRequirement) (observation : FusedRgbdObservation) : Prop :=
  observation.robotId = requirement.robotId ∧ observation.sensor = requirement.fusionSensor ∧
    observation.rgbObservation.sensor = requirement.rgbSensor ∧
    observation.depthObservation.sensor = requirement.depthSensor ∧
    observation.rgbObservation.provenance = requirement.rgbProvenance ∧
    observation.depthObservation.provenance = requirement.depthProvenance ∧
    observation.provenance = requirement.fusionProvenance ∧
    observation.sources.rgbProducerId = requirement.rgbProducerId ∧
    observation.sources.depthProducerId = requirement.depthProducerId ∧
    observation.sources.rgbSourceFingerprintSha256 = requirement.rgbSourceFingerprintSha256 ∧
    observation.sources.depthSourceFingerprintSha256 = requirement.depthSourceFingerprintSha256 ∧
    observation.sources.rgbCameraFrameId = requirement.rgbCameraFrameId ∧
    observation.sources.depthCameraFrameId = requirement.depthCameraFrameId ∧
    observation.rgbObservation.calibrationId = requirement.rgbCalibrationId ∧
    observation.depthObservation.calibrationId = requirement.depthCalibrationId ∧
    observation.sources.pairingPolicyId = requirement.pairingPolicyId ∧
    observation.sources.pairingPolicyVersion = requirement.pairingPolicyVersion

instance (requirement : FusionRequirement) (observation : FusedRgbdObservation) :
    Decidable (requirement.MatchesFused observation) := by
  unfold MatchesFused
  infer_instance

/-- What a pair takes over from its requirement and the sessions. -/
def sources (requirement : FusionRequirement)
    (rgbSession depthSession synchronizationSession : PyStr) : FusionSources where
  rgbProducerId := requirement.rgbProducerId
  depthProducerId := requirement.depthProducerId
  rgbSourceFingerprintSha256 := requirement.rgbSourceFingerprintSha256
  depthSourceFingerprintSha256 := requirement.depthSourceFingerprintSha256
  rgbSessionId := rgbSession
  depthSessionId := depthSession
  rgbCameraFrameId := requirement.rgbCameraFrameId
  depthCameraFrameId := requirement.depthCameraFrameId
  pairingPolicyId := requirement.pairingPolicyId
  pairingPolicyVersion := requirement.pairingPolicyVersion
  synchronizationSessionId := synchronizationSession

end FusionRequirement

/-- `RgbdFusionDiagnostics`. -/
structure FusionDiagnostics where
  lifecycleState : LifecycleState
  event : FusionEvent
  synchronizationSessionId : Option PyStr
  rgbSessionId : Option PyStr
  depthSessionId : Option PyStr
  acceptedCount : Nat
  rejectedCount : Nat
  duplicateCount : Nat
  evictedCount : Nat
  pendingRgbCount : Nat
  pendingDepthCount : Nat
  deriving DecidableEq

/-- The counts of `RgbdFusionDiagnostics.__post_init__`. -/
def FusionDiagnostics.counts (diagnostics : FusionDiagnostics) : List Nat :=
  [diagnostics.acceptedCount, diagnostics.rejectedCount, diagnostics.duplicateCount,
    diagnostics.evictedCount, diagnostics.pendingRgbCount, diagnostics.pendingDepthCount]

/-- The checks of `RgbdFusionDiagnostics.__post_init__`. -/
def FusionDiagnostics.check (diagnostics : FusionDiagnostics) : Except FusionError Unit := do
  require (∀ count ∈ diagnostics.counts, count ≤ maxRgbdCount)
    (.configuration (py "RGB-D diagnostics counts are invalid"))
  require (diagnostics.pendingRgbCount ≤ maxRgbdPendingPerStream ∧
      diagnostics.pendingDepthCount ≤ maxRgbdPendingPerStream)
    (.configuration (py "RGB-D diagnostics pending state exceeds its hard bound"))

/-- `RgbdFusionAdmission`. -/
structure FusionAdmission where
  observation : FusedRgbdObservation
  requirement : FusionRequirement
  diagnostics : FusionDiagnostics
  deriving DecidableEq

/-- `_issue_admission`. -/
def issueAdmission (observation : FusedRgbdObservation) (requirement : FusionRequirement)
    (diagnostics : FusionDiagnostics) : Except FusionError FusionAdmission := do
  require (observation.sensor = requirement.fusionSensor)
    (.configuration (py "RGB-D admission sensor differs from its requirement"))
  pure ⟨observation, requirement, diagnostics⟩

end Rgbd
end AyyoHumanoid
