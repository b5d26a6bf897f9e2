import AyyoHumanoid.RgbdModels
import AyyoHumanoid.SemanticObservations

/-!
# Policy and results of the perception boundary

The boundary trusts a list of sources and, for cameras, microphones, fusion and
evaluated producers, only what a lifecycle adapter sealed under an exact
requirement. Evidence is an observation of the world model or a semantic
observation.
-/

namespace AyyoHumanoid
namespace Perception

open PyText JsonText World Rgbd

section Requirements

/-- `PhysicalCameraSourceClassification`. -/
inductive PhysicalCameraSourceClassification where
  | testFixture | projectReviewedDevice
  deriving DecidableEq, Repr

/-- `PhysicalCameraTrustRequirement`. -/
@[ext] structure PhysicalCameraTrustRequirement where
  sourceId : Name
  robotId : Name
  camera : SensorIdentity
  adapterId : Name
  adapterImplementationSha256 : Digest
  provenance : ObservationProvenance
  classification : PhysicalCameraSourceClassification
  calibrationId : CalibrationId
  calibrationRecordId : TaggedDigest "physical-camera-calibration-sha256-"
  sourceManifestId : TaggedDigest "physical-camera-source-sha256-"
  /-- The camera is a colour camera. -/
  camera_kind : camera.kind = .rgbCamera
  physical : provenance.sourceKind = .physicalSensor ∧ provenance.sourceId = sourceId

instance : DecidableEq PhysicalCameraTrustRequirement := fun _ _ =>
  decidable_of_iff _ PhysicalCameraTrustRequirement.ext_iff.symm

/-- `matches_unsealed`. -/
def PhysicalCameraTrustRequirement.MatchesUnsealed (requirement : PhysicalCameraTrustRequirement)
    (frame : VisualFrameObservation) : Prop :=
  frame.robotId = requirement.robotId ∧ frame.sensor = requirement.camera ∧
    frame.provenance = requirement.provenance ∧ frame.calibrationId = requirement.calibrationId

instance (requirement : PhysicalCameraTrustRequirement) (frame : VisualFrameObservation) :
    Decidable (requirement.MatchesUnsealed frame) :=
  inferInstanceAs (Decidable (_ ∧ _))

/-- What the boundary reads of `PhysicalCameraAdmission`. -/
structure PhysicalCameraAdmission where
  frame : VisualFrameObservation
  health : SensorHealthObservation
  requirement : PhysicalCameraTrustRequirement

/-- `DepthSourceClassification`. -/
inductive DepthSourceClassification where
  | testFixture | simulation | recordedFixture | projectReviewedDevice
  deriving DecidableEq, Repr

/-- `DepthTrustRequirement`. -/
@[ext] structure DepthTrustRequirement where
  sourceId : Name
  robotId : Name
  sensor : SensorIdentity
  producerId : Name
  producerImplementationSha256 : Digest
  provenance : ObservationProvenance
  classification : DepthSourceClassification
  calibrationId : CalibrationId
  calibrationRecordId : DepthCalibrationRecordId
  sourceManifestId : DepthSourceManifestId
  sensor_kind : sensor.kind = .depthCamera
  source_eq : provenance.sourceId = sourceId

instance : DecidableEq DepthTrustRequirement := fun _ _ =>
  decidable_of_iff _ DepthTrustRequirement.ext_iff.symm

/-- `matches_unsealed`. -/
def DepthTrustRequirement.MatchesUnsealed (requirement : DepthTrustRequirement)
    (frame : DepthFrameObservation) : Prop :=
  frame.robotId = requirement.robotId ∧ frame.sensor = requirement.sensor ∧
    frame.provenance = requirement.provenance ∧
    frame.calibrationId = requirement.calibrationId ∧
    frame.calibrationRecordId = requirement.calibrationRecordId ∧
    frame.sourceManifestId = requirement.sourceManifestId

instance (requirement : DepthTrustRequirement) (frame : DepthFrameObservation) :
    Decidable (requirement.MatchesUnsealed frame) :=
  inferInstanceAs (Decidable (_ ∧ _))

/-- What the boundary reads of `DepthCameraAdmission`. -/
structure DepthCameraAdmission where
  frame : DepthFrameObservation
  health : SensorHealthObservation
  requirement : DepthTrustRequirement

/-- `AudioTrustRequirement`: the format is fixed and the payload bound derived. -/
@[ext] structure AudioTrustRequirement where
  sourceId : Name
  robotId : Name
  microphone : SensorIdentity
  producerId : Name
  producerImplementationSha256 : Digest
  provenance : ObservationProvenance
  sourceManifestId : AudioSourceManifestId
  maximumFrameCount : Nat
  /-- The sensor is a microphone. -/
  microphone_kind : microphone.kind = .microphone
  source_eq : provenance.sourceId = sourceId
  /-- The number of frames is bounded. -/
  frames : 1 ≤ maximumFrameCount ∧ maximumFrameCount ≤ 16000

instance : DecidableEq AudioTrustRequirement := fun _ _ =>
  decidable_of_iff _ AudioTrustRequirement.ext_iff.symm

/-- `matches_unsealed`. -/
def AudioTrustRequirement.MatchesUnsealed (requirement : AudioTrustRequirement)
    (frame : AudioFrameObservation) : Prop :=
  frame.robotId = requirement.robotId ∧ frame.sensor = requirement.microphone ∧
    frame.producerId = requirement.producerId ∧
    frame.sourceManifestId = requirement.sourceManifestId ∧ frame.sampleRateHz = 16000 ∧
    frame.frameCount ≤ requirement.maximumFrameCount ∧
    frame.frameCount * 2 ≤ requirement.maximumFrameCount * 2 ∧
    frame.provenance = requirement.provenance

instance (requirement : AudioTrustRequirement) (frame : AudioFrameObservation) :
    Decidable (requirement.MatchesUnsealed frame) :=
  inferInstanceAs (Decidable (_ ∧ _))

/-- What the boundary reads of `AudioCaptureAdmission`. -/
structure AudioCaptureAdmission where
  frame : AudioFrameObservation
  health : SensorHealthObservation
  requirement : AudioTrustRequirement

/-- What the boundary reads of `EvaluatedVisualAdmission`. -/
structure EvaluatedVisualAdmission (p : Platform) where
  observation : VisualInterpretationObservation p
  reference : VisualEvaluationReference
  requirement : VisualEvaluationRequirement

end Requirements

section Results

/-- `AdmissionStatus`. -/
inductive AdmissionStatus where
  | accepted | duplicate | rejected
  deriving DecidableEq, Repr

/-- `AdmissionReason`. -/
inductive AdmissionReason where
  | accepted | duplicate | malformedObservation | identityMismatch | wrongRobotIdentity
  | unknownSensor | provenanceNotAllowed | clockDomainMismatch | frameMismatch
  | futureObservation | staleObservation | outOfOrder | temporalConflict
  | receiptTimeRegression | frameLookupUnavailable | frameLookupConnectivity
  | frameLookupExtrapolation | frameLookupTimeout | invalidFrameRequest | staleTransform
  | rejectedProvenance | malformedNumericPose | invalidQuaternion | invalidCovariance
  | sourceUnavailable | adapterRestarted | unknownProducer | sourceFrameNotAdmitted
  | sourceFrameMismatch | resultTimeInvalid | evaluationRequired | evaluationMismatch
  | evaluationNotAuthorized | physicalCameraRequired | physicalCameraMismatch
  | physicalCameraNotAuthorized | depthCameraRequired | depthCameraMismatch
  | depthCameraNotAuthorized | audioRequired | audioMismatch | audioNotAuthorized
  | semanticCapacityReached | sourceInterpretationNotAdmitted | sourceDetectionNotAdmitted
  | semanticMappingMismatch
  deriving DecidableEq, Repr

/-- `EvidenceFailureKind`. -/
inductive EvidenceFailureKind where
  | frameLookupUnavailable | frameLookupConnectivity | frameLookupExtrapolation
  | frameLookupTimeout | invalidFrameRequest | staleTransform | rejectedProvenance
  | malformedNumericPose | invalidQuaternion | invalidCovariance | sourceUnavailable
  | adapterRestarted
  deriving DecidableEq, Repr

namespace EvidenceFailureKind

/-- The text of a failure. -/
def value : EvidenceFailureKind → PyStr
  | .frameLookupUnavailable => py "frame_lookup_unavailable"
  | .frameLookupConnectivity => py "frame_lookup_connectivity"
  | .frameLookupExtrapolation => py "frame_lookup_extrapolation"
  | .frameLookupTimeout => py "frame_lookup_timeout"
  | .invalidFrameRequest => py "invalid_frame_request"
  | .staleTransform => py "stale_transform"
  | .rejectedProvenance => py "rejected_provenance"
  | .malformedNumericPose => py "malformed_numeric_pose"
  | .invalidQuaternion => py "invalid_quaternion"
  | .invalidCovariance => py "invalid_covariance"
  | .sourceUnavailable => py "source_unavailable"
  | .adapterRestarted => py "adapter_restarted"

/-- `AdmissionReason(failure.value)`. -/
def reason : EvidenceFailureKind → AdmissionReason
  | .frameLookupUnavailable => .frameLookupUnavailable
  | .frameLookupConnectivity => .frameLookupConnectivity
  | .frameLookupExtrapolation => .frameLookupExtrapolation
  | .frameLookupTimeout => .frameLookupTimeout
  | .invalidFrameRequest => .invalidFrameRequest
  | .staleTransform => .staleTransform
  | .rejectedProvenance => .rejectedProvenance
  | .malformedNumericPose => .malformedNumericPose
  | .invalidQuaternion => .invalidQuaternion
  | .invalidCovariance => .invalidCovariance
  | .sourceUnavailable => .sourceUnavailable
  | .adapterRestarted => .adapterRestarted

/-- `availability_by_failure`. -/
def availability : EvidenceFailureKind → SensorAvailability
  | .frameLookupUnavailable => .unavailable
  | .frameLookupConnectivity => .error
  | .frameLookupExtrapolation => .error
  | .frameLookupTimeout => .unavailable
  | .invalidFrameRequest => .error
  | .staleTransform => .stale
  | .rejectedProvenance => .error
  | .malformedNumericPose => .error
  | .invalidQuaternion => .error
  | .invalidCovariance => .error
  | .sourceUnavailable => .unavailable
  | .adapterRestarted => .unavailable

end EvidenceFailureKind

/-- Evidence given to the boundary. -/
inductive Evidence (p : Platform) where
  /-- An observation of the world model. -/
  | observation (observation : Observation p)
  | semantic (observation : SemanticObservation)
  deriving DecidableEq

/-- The identity of evidence. -/
inductive EvidenceId where
  /-- Of an observation of the world model. -/
  | observation (id : ObservationId)
  | semantic (id : SemanticObservationId)
  deriving DecidableEq

namespace Evidence

variable {p : Platform}

/-- `observation_id`. -/
def evidenceId : Evidence p → EvidenceId
  | .observation o => .observation o.observationId
  | .semantic o => .semantic (o.observationId p)

/-- `robot_id`. -/
def robotId : Evidence p → Name
  | .observation o => o.robotId
  | .semantic o => o.robotId

/-- `observed_at_ns`. -/
def observedAtNs : Evidence p → Nat
  | .observation o => o.observedAtNs
  | .semantic o => o.observedAtNs

/-- `provenance`. -/
def provenance : Evidence p → ObservationProvenance
  | .observation o => o.provenance
  | .semantic o => o.provenance

/-- `getattr(evidence, "sensor", None)`. -/
def sensor? : Evidence p → Option SensorIdentity
  | .observation o => o.sensor?
  | .semantic o => some o.sensor

end Evidence

/-- `AdmissionResult`. -/
structure AdmissionResult (p : Platform) where
  status : AdmissionStatus
  reason : AdmissionReason
  observationId : Option EvidenceId
  observation : Option (Evidence p)
  detail : PyStr
  deriving DecidableEq

end Results

section Configuration

/-- `PerceptionSourceContract`. -/
structure PerceptionSourceContract where
  sensor : SensorIdentity
  provenance : ObservationProvenance
  poseSourceFrameId : Option FrameId
  /-- Body-pose sources, and no others, have a pose source frame. -/
  pose : poseSourceFrameId ≠ none ↔ sensor.kind = .bodyPose
  deriving DecidableEq

/-- Every requirement has a key of its own, and the keys are those of the sources of a kind. -/
def Covers {α : Type} (sources : List PerceptionSourceContract)
    (covered : PerceptionSourceContract → Prop) (requirements : List α)
    (sensor : α → SensorIdentity) (sourceId : α → Name) : Prop :=
  (requirements.map fun requirement => ((sensor requirement).sensorId, sourceId requirement)).Nodup ∧
    ∀ key : Name × Name,
      (∃ source ∈ sources, covered source ∧
          (source.sensor.sensorId, source.provenance.sourceId) = key) ↔
        ∃ requirement ∈ requirements, ((sensor requirement).sensorId, sourceId requirement) = key

/-- A sensor with its provenance is among the sources. -/
def Binds (sources : List PerceptionSourceContract) (sensor : SensorIdentity)
    (provenance : ObservationProvenance) : Prop :=
  ∃ source ∈ sources, source.sensor = sensor ∧ source.provenance = provenance

/-- `PerceptionTrustConfig`. -/
structure PerceptionTrustConfig where
  robotId : PyStr
  sourceClock : ObservationClock
  sources : List PerceptionSourceContract
  freshnessNs : Nat
  retentionTtlNs : Nat
  permittedFutureSkewNs : Nat
  visualInterpretationProducers : List VisualInterpretationProducer
  visualEvaluationRequirements : List VisualEvaluationRequirement
  physicalCameraRequirements : List PhysicalCameraTrustRequirement
  depthCameraRequirements : List DepthTrustRequirement
  rgbdFusionRequirements : List FusionRequirement
  audioRequirements : List AudioTrustRequirement
  /-- The robot identity is exact text. -/
  robot : robotId ≠ [] ∧ robotId = strip robotId
  /-- There are sources, and not too many. -/
  some_sources : sources ≠ [] ∧ sources.length ≤ 32
  sources_unique : (sources.map fun source =>
    (source.sensor.sensorId, source.sensor.kind, source.provenance)).Nodup
  /-- A sensor identity stands for one sensor. -/
  sensors_exact : ∀ source ∈ sources, ∀ other ∈ sources,
    source.sensor.sensorId = other.sensor.sensorId → source.sensor = other.sensor
  /-- All sources use the configured clock. -/
  clock_eq : ∀ source ∈ sources, source.provenance.clock = sourceClock
  /-- Freshness and retention form a bounded interval. -/
  retention : freshnessNs < retentionTtlNs ∧ retentionTtlNs ≤ 300000000000
  /-- The skew is at most a second. -/
  skew : permittedFutureSkewNs ≤ 1000000000
  /-- The producers are few and unique. -/
  producers : visualInterpretationProducers.length ≤ 16 ∧
    (visualInterpretationProducers.map (·.producerId)).Nodup
  /-- The evaluation requirements bind producers. -/
  evaluations : visualEvaluationRequirements.length ≤ 16 ∧
    (visualEvaluationRequirements.map (·.producerId)).Nodup ∧
    ∀ requirement ∈ visualEvaluationRequirements,
      requirement.producerId ∈ visualInterpretationProducers.map (·.producerId)
  /-- Every physical colour source has its requirement. -/
  physical : physicalCameraRequirements.length ≤ 16 ∧
    Covers sources (fun source => source.sensor.kind = .rgbCamera ∧
      source.provenance.sourceKind = .physicalSensor) physicalCameraRequirements
      (·.camera) (·.sourceId) ∧
    ∀ requirement ∈ physicalCameraRequirements,
      Binds sources requirement.camera requirement.provenance
  /-- Every depth source has its requirement. -/
  depth : depthCameraRequirements.length ≤ 16 ∧
    Covers sources (fun source => source.sensor.kind = .depthCamera) depthCameraRequirements
      (·.sensor) (·.sourceId) ∧
    ∀ requirement ∈ depthCameraRequirements,
      Binds sources requirement.sensor requirement.provenance
  /-- Every fusion source has its requirement. -/
  fusion : rgbdFusionRequirements.length ≤ 32 ∧
    Covers sources (fun source => source.sensor.kind = .rgbdFusion) rgbdFusionRequirements
      (·.fusionSensor) (·.fusionProvenance.sourceId) ∧
    ∀ requirement ∈ rgbdFusionRequirements,
      Binds sources requirement.rgbSensor requirement.rgbProvenance ∧
        Binds sources requirement.depthSensor requirement.depthProvenance ∧
        Binds sources requirement.fusionSensor requirement.fusionProvenance
  /-- Every audio source has its requirement. -/
  audio : audioRequirements.length ≤ 16 ∧
    Covers sources (fun source => source.sensor.kind = .microphone) audioRequirements
      (·.microphone) (·.sourceId) ∧
    ∀ requirement ∈ audioRequirements,
      Binds sources requirement.microphone requirement.provenance

end Configuration

end Perception
end AyyoHumanoid
