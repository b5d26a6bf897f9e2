import AyyoHumanoid.WorldCanonical
import AyyoHumanoid.WorldEvidence

/-!
# Observations of single sensors

Every observation names its robot, its source and its acquisition time, and is
identified by the digest of a canonical document of its whole content. What a
constructor checks is carried by the record, so the identity is a function of
it. The batches derived from other observations follow in a module of their own.
-/

namespace AyyoHumanoid
namespace World

open PyText JsonText PyCollections

/-- The fingerprint of an observation with the given payload. -/
def fingerprintOf (p : Platform) (kind : ObservationFingerprintKind) (robotId : Name)
    (observedAtNs : Nat) (provenance : ObservationProvenance) (confidence payload : Json) :
    ObservationFingerprint :=
  ⟨kind, documentDigest p
    (observationDocument kind robotId observedAtNs provenance confidence payload)⟩

section Body

/-- `RobotStateObservation`. -/
structure RobotStateObservation where
  robotId : Name
  /-- `joints`, ordered by name. -/
  joints : List JointObservation
  basePose : Option Pose3D
  observedAtNs : Nat
  provenance : ObservationProvenance
  confidence : UnitFloat
  /-- The number of joints is limited. -/
  few : joints.length ≤ maxObservationItems
  /-- There is a joint or a base pose. -/
  evident : joints ≠ [] ∨ basePose ≠ none
  /-- The joint names increase. -/
  ordered : KeyOrdered (fun joint : JointObservation => joint.jointName.text) joints
  bounded : observedAtNs ≤ maxObservationTimeNs
  deriving DecidableEq

/-- The payload of a robot state. -/
def RobotStateObservation.payload (observation : RobotStateObservation) : Json :=
  .obj [(py "base_pose", observation.basePose.elim .null Pose3D.document),
    (py "joints", .arr (observation.joints.map JointObservation.document))]

/-- `fingerprint`. -/
def RobotStateObservation.fingerprint (p : Platform) (observation : RobotStateObservation) :
    ObservationFingerprint :=
  fingerprintOf p .robotState observation.robotId observation.observedAtNs observation.provenance
    (.float observation.confidence.token) observation.payload

/-- A covariance is a 3x3 matrix beside an estimate. -/
def Supported {α : Type} (estimate : Option α) (covariance : Option CovarianceMatrix) : Prop :=
  ∀ matrix ∈ covariance, matrix.dimension = 3 ∧ estimate ≠ none

instance {α : Type} (estimate : Option α) (covariance : Option CovarianceMatrix) :
    Decidable (Supported estimate covariance) := by
  unfold Supported
  infer_instance

/-- `ImuObservation`. -/
structure ImuObservation where
  robotId : Name
  sensor : SensorIdentity
  orientationXyzw : Option Quaternion
  orientationCovariance : Option CovarianceMatrix
  angularVelocityXyz : Option Vector3
  angularVelocityCovariance : Option CovarianceMatrix
  linearAccelerationXyz : Option Vector3
  linearAccelerationCovariance : Option CovarianceMatrix
  observedAtNs : Nat
  provenance : ObservationProvenance
  availability : SensorAvailability
  quality : Option UnitFloat
  /-- The sensor is an inertial unit. -/
  sensor_kind : sensor.kind = .imu
  orientation_supported : Supported orientationXyzw orientationCovariance
  angular_supported : Supported angularVelocityXyz angularVelocityCovariance
  linear_supported : Supported linearAccelerationXyz linearAccelerationCovariance
  /-- There is an estimate. -/
  evident : orientationXyzw ≠ none ∨ angularVelocityXyz ≠ none ∨ linearAccelerationXyz ≠ none
  bounded : observedAtNs ≤ maxObservationTimeNs
  /-- The evidence bears a measurement. -/
  measuring : availability.Measuring
  deriving DecidableEq

/-- `ImuObservation.payload_document`. -/
def ImuObservation.payload (observation : ImuObservation) : Json :=
  .obj [(py "angular_velocity_covariance",
      observation.angularVelocityCovariance.elim .null CovarianceMatrix.document),
    (py "angular_velocity_xyz", observation.angularVelocityXyz.elim .null Vector3.document),
    (py "availability", .str observation.availability.value),
    (py "linear_acceleration_covariance",
      observation.linearAccelerationCovariance.elim .null CovarianceMatrix.document),
    (py "linear_acceleration_xyz", observation.linearAccelerationXyz.elim .null Vector3.document),
    (py "orientation_covariance",
      observation.orientationCovariance.elim .null CovarianceMatrix.document),
    (py "orientation_xyzw", observation.orientationXyzw.elim .null Quaternion.document),
    (py "quality", optionalShare observation.quality), (py "sensor", observation.sensor.document)]

/-- `fingerprint`. -/
def ImuObservation.fingerprint (p : Platform) (observation : ImuObservation) :
    ObservationFingerprint :=
  fingerprintOf p .imu observation.robotId observation.observedAtNs observation.provenance
    (optionalShare observation.quality) observation.payload

/-- `BodyPoseObservation`. -/
structure BodyPoseObservation where
  robotId : Name
  sensor : SensorIdentity
  pose : Pose3D
  covariance : Option CovarianceMatrix
  observedAtNs : Nat
  provenance : ObservationProvenance
  availability : SensorAvailability
  quality : Option UnitFloat
  /-- The sensor is a source of body poses. -/
  sensor_kind : sensor.kind = .bodyPose
  frame_eq : pose.childFrameId = sensor.frameId
  /-- A covariance is a 6x6 matrix. -/
  covariance_dimension : ∀ matrix, covariance = some matrix → matrix.dimension = 6
  bounded : observedAtNs ≤ maxObservationTimeNs
  /-- The evidence bears a measurement. -/
  measuring : availability.Measuring
  deriving DecidableEq

/-- The payload of a body pose. -/
def BodyPoseObservation.payload (observation : BodyPoseObservation) : Json :=
  .obj [(py "availability", .str observation.availability.value),
    (py "covariance", observation.covariance.elim .null CovarianceMatrix.document),
    (py "pose", observation.pose.document), (py "quality", optionalShare observation.quality),
    (py "sensor", observation.sensor.document)]

/-- `fingerprint`. -/
def BodyPoseObservation.fingerprint (p : Platform) (observation : BodyPoseObservation) :
    ObservationFingerprint :=
  fingerprintOf p .bodyPose observation.robotId observation.observedAtNs observation.provenance
    (optionalShare observation.quality) observation.payload

/-- The checks of `evidence_detail`. -/
def IsHealthDetail (text : PyStr) : Prop := text.length ≤ 1024 ∧ 0 ∉ text

instance (text : PyStr) : Decidable (IsHealthDetail text) := inferInstanceAs (Decidable (_ ∧ _))

/-- `SensorHealthObservation`. -/
structure SensorHealthObservation where
  robotId : Name
  sensor : SensorIdentity
  availability : SensorAvailability
  observedAtNs : Nat
  provenance : ObservationProvenance
  evidenceDetail : PyStr
  bounded : observedAtNs ≤ maxObservationTimeNs
  /-- The detail is bounded text. -/
  detail : IsHealthDetail evidenceDetail
  /-- The detail can be encoded. -/
  encodable : utf8Encodable evidenceDetail = true
  deriving DecidableEq

/-- The payload of sensor health. -/
def SensorHealthObservation.payload (observation : SensorHealthObservation) : Json :=
  .obj [(py "availability", .str observation.availability.value),
    (py "evidence_detail", .str observation.evidenceDetail),
    (py "sensor", observation.sensor.document)]

/-- `fingerprint`. -/
def SensorHealthObservation.fingerprint (p : Platform) (observation : SensorHealthObservation) :
    ObservationFingerprint :=
  fingerprintOf p .sensorHealth observation.robotId observation.observedAtNs
    observation.provenance .null observation.payload

end Body

section Frames

/-- The identity of an audio source manifest. -/
abbrev AudioSourceManifestId : Type := TaggedDigest "audio-source-sha256-"

/-- The identity of an audio session. -/
abbrev AudioSessionId : Type := TaggedDigest "audio-session-sha256-"

/-- `AudioFrameObservation`: one channel of signed 16-bit samples. -/
structure AudioFrameObservation where
  robotId : Name
  sensor : SensorIdentity
  producerId : Name
  sourceManifestId : AudioSourceManifestId
  sessionId : AudioSessionId
  sampleRateHz : Nat
  frameCount : Nat
  peakAmplitude : Nat
  rmsAmplitude : UnitFloat
  payloadSha256 : Digest
  observedAtNs : Nat
  resultAtNs : Nat
  provenance : ObservationProvenance
  availability : SensorAvailability
  sensor_kind : sensor.kind = .microphone
  /-- The sample rate is reviewed. -/
  rate : 8000 ≤ sampleRateHz ∧ sampleRateHz ≤ 48000
  /-- The number of frames is bounded. -/
  frames : 1 ≤ frameCount ∧ frameCount ≤ 16000
  /-- The duration is bounded. -/
  lasting : 0 < frameCount * 1000000000 / sampleRateHz ∧
    frameCount * 1000000000 / sampleRateHz ≤ 1000000000
  /-- The peak is a sample. -/
  peak : peakAmplitude ≤ 32768
  bounded : 1 ≤ observedAtNs ∧ observedAtNs ≤ resultAtNs ∧ resultAtNs ≤ maxObservationTimeNs
  /-- The evidence bears a measurement. -/
  measuring : availability.Measuring
  deriving DecidableEq

/-- `duration_ns`. -/
def AudioFrameObservation.durationNs (observation : AudioFrameObservation) : Nat :=
  observation.frameCount * 1000000000 / observation.sampleRateHz

/-- `AudioFrameObservation.payload_document`. -/
def AudioFrameObservation.payload (observation : AudioFrameObservation) : Json :=
  .obj [(py "availability", .str observation.availability.value),
    (py "channel_count", .int 1),
    (py "data_size_bytes", .int (observation.frameCount * 2 : Nat)),
    (py "duration_ns", .int observation.durationNs),
    (py "encoding", .str (py "pcm_s16le")),
    (py "frame_count", .int observation.frameCount),
    (py "payload_sha256", .str observation.payloadSha256.text),
    (py "peak_amplitude", .int observation.peakAmplitude),
    (py "producer_id", .str observation.producerId.text),
    (py "result_at_ns", .int observation.resultAtNs),
    (py "rms_amplitude", .float observation.rmsAmplitude.token),
    (py "sample_count", .int observation.frameCount),
    (py "sample_rate_hz", .int observation.sampleRateHz),
    (py "sensor", observation.sensor.document),
    (py "session_id", .str observation.sessionId.text),
    (py "source_manifest_id", .str observation.sourceManifestId.text)]

/-- `fingerprint`. -/
def AudioFrameObservation.fingerprint (p : Platform) (observation : AudioFrameObservation) :
    ObservationFingerprint :=
  fingerprintOf p .audioFrame observation.robotId observation.observedAtNs observation.provenance
    .null observation.payload

/-- `MAX_IMAGE_DATA_BYTES`. -/
def maxImageDataBytes : Nat := 64 * 1024 * 1024

/-- The size checks of an image with the given number of bytes a pixel. -/
def ImageFits (bytesPerPixel width height step : Nat) : Prop :=
  1 ≤ width ∧ width ≤ 4096 ∧ 1 ≤ height ∧ height ≤ 4096 ∧ width * height ≤ 16777216 ∧
    width * bytesPerPixel ≤ step ∧ step ≤ maxImageDataBytes ∧ 1 ≤ step * height ∧
    step * height ≤ maxImageDataBytes

instance (bytesPerPixel width height step : Nat) :
    Decidable (ImageFits bytesPerPixel width height step) :=
  inferInstanceAs (Decidable (_ ∧ _))

/-- `VisualFrameObservation`: the encoding is fixed and the byte count derived. -/
structure VisualFrameObservation where
  robotId : Name
  sensor : SensorIdentity
  width : Nat
  height : Nat
  step : Nat
  isBigendian : Bool
  calibrationId : CalibrationId
  observedAtNs : Nat
  provenance : ObservationProvenance
  availability : SensorAvailability
  /-- The sensor is a colour camera. -/
  sensor_kind : sensor.kind = .rgbCamera
  /-- The image is within the limits. -/
  fits : ImageFits 3 width height step
  bounded : 1 ≤ observedAtNs ∧ observedAtNs ≤ maxObservationTimeNs
  /-- The evidence bears a measurement. -/
  measuring : availability.Measuring
  deriving DecidableEq

/-- `VisualFrameObservation.payload_document`. -/
def VisualFrameObservation.payload (observation : VisualFrameObservation) : Json :=
  .obj [(py "availability", .str observation.availability.value),
    (py "calibration_id", .str observation.calibrationId.text),
    (py "data_size_bytes", .int (observation.step * observation.height : Nat)),
    (py "encoding", .str (py "rgb8")), (py "height", .int observation.height),
    (py "is_bigendian", .bool observation.isBigendian),
    (py "sensor", observation.sensor.document), (py "step", .int observation.step),
    (py "width", .int observation.width)]

/-- `fingerprint`. -/
def VisualFrameObservation.fingerprint (p : Platform) (observation : VisualFrameObservation) :
    ObservationFingerprint :=
  fingerprintOf p .visualFrame observation.robotId observation.observedAtNs
    observation.provenance .null observation.payload

/-- `observation_id`. -/
def VisualFrameObservation.observationId (p : Platform) (observation : VisualFrameObservation) :
    ObservationId :=
  (observation.fingerprint p).observationId

/-- The reviewed depth encodings. -/
inductive DepthEncoding where
  | mono16 | float32
  deriving DecidableEq, Repr

/-- The text of a depth encoding. -/
def DepthEncoding.value : DepthEncoding → PyStr
  | .mono16 => py "16UC1"
  | .float32 => py "32FC1"

/-- The bytes of a pixel. -/
def DepthEncoding.bytesPerPixel : DepthEncoding → Nat
  | .mono16 => 2
  | .float32 => 4

/-- The identity of a depth calibration record. -/
abbrev DepthCalibrationRecordId : Type := TaggedDigest "depth-camera-calibration-sha256-"

/-- The identity of a depth source manifest. -/
abbrev DepthSourceManifestId : Type := TaggedDigest "depth-camera-source-sha256-"

/-- The identity of a depth session. -/
abbrev DepthSessionId : Type := TaggedDigest "depth-camera-session-sha256-"

/-- `DepthFrameObservation`. -/
structure DepthFrameObservation where
  robotId : Name
  sensor : SensorIdentity
  width : Nat
  height : Nat
  encoding : DepthEncoding
  step : Nat
  isBigendian : Bool
  calibrationId : CalibrationId
  calibrationRecordId : DepthCalibrationRecordId
  sourceManifestId : DepthSourceManifestId
  sessionId : DepthSessionId
  validDepthCount : Nat
  invalidDepthCount : Nat
  minimumDepthM : FloatToken
  maximumDepthM : FloatToken
  payloadSha256 : Digest
  observedAtNs : Nat
  provenance : ObservationProvenance
  availability : SensorAvailability
  sensor_kind : sensor.kind = .depthCamera
  /-- The image is within the limits. -/
  fits : ImageFits encoding.bytesPerPixel width height step
  /-- The counts cover the pixels and one of them is valid. -/
  counted : 1 ≤ validDepthCount ∧ validDepthCount + invalidDepthCount = width * height
  /-- The range is positive and bounded. -/
  range : 0 < minimumDepthM.toRat ∧ minimumDepthM.toRat ≤ maximumDepthM.toRat ∧
    maximumDepthM.toRat ≤ 10000
  bounded : 1 ≤ observedAtNs ∧ observedAtNs ≤ maxObservationTimeNs
  /-- The evidence bears a measurement. -/
  measuring : availability.Measuring
  deriving DecidableEq

/-- `DepthFrameObservation.payload_document`. -/
def DepthFrameObservation.payload (observation : DepthFrameObservation) : Json :=
  .obj [(py "availability", .str observation.availability.value),
    (py "calibration_id", .str observation.calibrationId.text),
    (py "calibration_record_id", .str observation.calibrationRecordId.text),
    (py "data_size_bytes", .int (observation.step * observation.height : Nat)),
    (py "encoding", .str observation.encoding.value), (py "height", .int observation.height),
    (py "invalid_depth_count", .int observation.invalidDepthCount),
    (py "is_bigendian", .bool observation.isBigendian),
    (py "maximum_depth_m", .float observation.maximumDepthM),
    (py "minimum_depth_m", .float observation.minimumDepthM),
    (py "payload_sha256", .str observation.payloadSha256.text),
    (py "sensor", observation.sensor.document),
    (py "session_id", .str observation.sessionId.text),
    (py "source_manifest_id", .str observation.sourceManifestId.text),
    (py "step", .int observation.step),
    (py "valid_depth_count", .int observation.validDepthCount),
    (py "width", .int observation.width)]

/-- `fingerprint`. -/
def DepthFrameObservation.fingerprint (p : Platform) (observation : DepthFrameObservation) :
    ObservationFingerprint :=
  fingerprintOf p .depthFrame observation.robotId observation.observedAtNs
    observation.provenance .null observation.payload

/-- `observation_id`. -/
def DepthFrameObservation.observationId (p : Platform) (observation : DepthFrameObservation) :
    ObservationId :=
  (observation.fingerprint p).observationId

end Frames

section Environment

/-- `EnvironmentEntityObservation`. -/
structure EnvironmentEntityObservation where
  robotId : Name
  entity : WorldEntityIdentity
  pose : Option Pose3D
  properties : List (PyStr × Json)
  observedAtNs : Nat
  provenance : ObservationProvenance
  confidence : UnitFloat
  /-- The properties are bounded. -/
  within : WithinLimits .ingress (.obj properties)
  /-- There is a property or a pose. -/
  evident : properties ≠ [] ∨ pose ≠ none
  bounded : observedAtNs ≤ maxObservationTimeNs
  deriving DecidableEq

/-- The payload of an environment entity. -/
def EnvironmentEntityObservation.payload (observation : EnvironmentEntityObservation) : Json :=
  .obj [(py "entity_id", .str observation.entity.entityId.text),
    (py "entity_kind", .str observation.entity.kind.value),
    (py "pose", observation.pose.elim .null Pose3D.document),
    (py "properties", .obj observation.properties)]

/-- `fingerprint`. -/
def EnvironmentEntityObservation.fingerprint (p : Platform)
    (observation : EnvironmentEntityObservation) : ObservationFingerprint :=
  fingerprintOf p .environmentEntity observation.robotId observation.observedAtNs
    observation.provenance (.float observation.confidence.token) observation.payload

end Environment

end World
end AyyoHumanoid
