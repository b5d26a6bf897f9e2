import AyyoHumanoid.WorldObservations

/-!
# Observations derived from observations

A fused pair holds its two frames. An interpretation and a semantic batch name
the frame and the interpretation they come from by identity and fingerprint.
These records are also built inside the program, so their constructors are
functions here, with the checks in the order of the source.
-/

namespace AyyoHumanoid
namespace World

open PyText JsonText PyCollections

section Fusion

/-- What a fused pair takes over from its session. -/
structure FusionSources where
  rgbProducerId : Name
  depthProducerId : Name
  rgbSourceFingerprintSha256 : Digest
  depthSourceFingerprintSha256 : Digest
  rgbSessionId : PyStr
  depthSessionId : PyStr
  rgbCameraFrameId : FrameId
  depthCameraFrameId : FrameId
  pairingPolicyId : Name
  pairingPolicyVersion : Name
  synchronizationSessionId : PyStr
  deriving DecidableEq

/-- `FusedRgbdObservation`. -/
@[ext] structure FusedRgbdObservation where
  robotId : Name
  sensor : SensorIdentity
  rgbObservation : VisualFrameObservation
  depthObservation : DepthFrameObservation
  /-- The producers, sessions and frames of the pair. -/
  sources : FusionSources
  resultAtNs : Nat
  provenance : ObservationProvenance
  availability : SensorAvailability
  sensor_kind : sensor.kind = .rgbdFusion
  /-- Both frames are of the robot. -/
  robot_eq : rgbObservation.robotId = robotId ∧ depthObservation.robotId = robotId
  /-- The frames were acquired at one time. -/
  time_eq : rgbObservation.observedAtNs = depthObservation.observedAtNs
  /-- The RGB session has an identifier. -/
  rgb_session : IsCanonical 256 sources.rgbSessionId
  /-- The depth session has an identifier. -/
  depth_session : IsCanonical 256 sources.depthSessionId
  /-- The synchronization session has an identifier. -/
  session : IsCanonical 256 sources.synchronizationSessionId
  /-- The mounts are not the optical frames. -/
  mounts : sources.rgbCameraFrameId ≠ rgbObservation.sensor.frameId ∧
    sources.depthCameraFrameId ≠ depthObservation.sensor.frameId
  /-- There is one clock. -/
  clock_eq : rgbObservation.provenance.clock = depthObservation.provenance.clock ∧
    depthObservation.provenance.clock = provenance.clock
  /-- The result does not precede the frames. -/
  bounded : rgbObservation.observedAtNs ≤ resultAtNs ∧ resultAtNs ≤ maxObservationTimeNs
  /-- The evidence bears a measurement. -/
  measuring : availability.Measuring

instance : DecidableEq FusedRgbdObservation := fun _ _ =>
  decidable_of_iff _ FusedRgbdObservation.ext_iff.symm

/-- `observed_at_ns`. -/
def FusedRgbdObservation.observedAtNs (observation : FusedRgbdObservation) : Nat :=
  observation.rgbObservation.observedAtNs

/-- The document that names a pair. -/
def pairDocument (p : Platform) (rgb : VisualFrameObservation) (depth : DepthFrameObservation)
    (sources : FusionSources) : Json :=
  .obj [(py "depth_observation_id", .str (depth.observationId p).text),
    (py "depth_producer_id", .str sources.depthProducerId.text),
    (py "depth_session_id", .str sources.depthSessionId),
    (py "depth_source_fingerprint_sha256", .str sources.depthSourceFingerprintSha256.text),
    (py "observed_at_ns", .int rgb.observedAtNs),
    (py "pairing_policy_id", .str sources.pairingPolicyId.text),
    (py "pairing_policy_version", .str sources.pairingPolicyVersion.text),
    (py "rgb_observation_id", .str (rgb.observationId p).text),
    (py "rgb_producer_id", .str sources.rgbProducerId.text),
    (py "rgb_session_id", .str sources.rgbSessionId),
    (py "rgb_source_fingerprint_sha256", .str sources.rgbSourceFingerprintSha256.text),
    (py "schema", .str (py "ayyo.rgbd-pair.v1")),
    (py "synchronization_session_id", .str sources.synchronizationSessionId)]

/-- The document of a component. -/
def componentDocument (fingerprint : ObservationFingerprint) (payload : Json)
    (provenance : ObservationProvenance) : Json :=
  .obj [(py "fingerprint", .str fingerprint.text),
    (py "observation_id", .str fingerprint.observationId.text), (py "payload", payload),
    (py "provenance", provenance.document)]

/-- `FusedRgbdObservation.payload_document`, of the parts of a pair. -/
def fusedPayload (p : Platform) (sensor : SensorIdentity) (rgb : VisualFrameObservation)
    (depth : DepthFrameObservation) (sources : FusionSources) (resultAtNs : Nat) : Json :=
  .obj [(py "depth_camera_frame_id", .str sources.depthCameraFrameId.text),
    (py "depth_observation", componentDocument (depth.fingerprint p) depth.payload
      depth.provenance),
    (py "depth_producer_id", .str sources.depthProducerId.text),
    (py "depth_session_id", .str sources.depthSessionId),
    (py "depth_source_fingerprint_sha256", .str sources.depthSourceFingerprintSha256.text),
    (py "pair_id", .str (py "rgbd-pair-sha256-" ++
      (documentDigest p (pairDocument p rgb depth sources)).text)),
    (py "pairing_policy_id", .str sources.pairingPolicyId.text),
    (py "pairing_policy_version", .str sources.pairingPolicyVersion.text),
    (py "result_at_ns", .int resultAtNs),
    (py "rgb_camera_frame_id", .str sources.rgbCameraFrameId.text),
    (py "rgb_observation", componentDocument (rgb.fingerprint p) rgb.payload rgb.provenance),
    (py "rgb_producer_id", .str sources.rgbProducerId.text),
    (py "rgb_session_id", .str sources.rgbSessionId),
    (py "rgb_source_fingerprint_sha256", .str sources.rgbSourceFingerprintSha256.text),
    (py "sensor", sensor.document), (py "spatial_registration_validated", .bool false),
    (py "synchronization_session_id", .str sources.synchronizationSessionId)]

/-- `fingerprint`. -/
def FusedRgbdObservation.fingerprint (p : Platform) (observation : FusedRgbdObservation) :
    ObservationFingerprint :=
  fingerprintOf p .fusedRgbd observation.robotId observation.observedAtNs observation.provenance
    .null (fusedPayload p observation.sensor observation.rgbObservation
      observation.depthObservation observation.sources observation.resultAtNs)

/-- `FusedRgbdObservation(...)`. The other identifiers, the digests and the frames are of checked
types. -/
def FusedRgbdObservation.build (p : Platform) (robotId : Name) (sensor : SensorIdentity)
    (rgb : VisualFrameObservation) (depth : DepthFrameObservation) (sources : FusionSources)
    (resultAtNs : Nat) (provenance : ObservationProvenance) (availability : SensorAvailability) :
    Except WorldError FusedRgbdObservation := do
  let sensorKind ← ensure (sensor.kind = .rgbdFusion) (invalid .malformedObservation
    "fused RGB-D evidence requires one typed fusion identity")
  let robotEq ← ensure (rgb.robotId = robotId ∧ depth.robotId = robotId)
    (invalid .wrongRobotIdentity "fused RGB-D components must belong to the same robot")
  let timeEq ← ensure (rgb.observedAtNs = depth.observedAtNs) (invalid .malformedObservation
    "v1 fused RGB-D components require exact source acquisition time")
  let rgbSession ← ensure (IsCanonical 256 sources.rgbSessionId)
    (identifierError "RGB-D RGB session")
  let depthSession ← ensure (IsCanonical 256 sources.depthSessionId)
    (identifierError "RGB-D depth session")
  let session ← ensure (IsCanonical 256 sources.synchronizationSessionId)
    (identifierError "RGB-D synchronization session")
  let mounts ← ensure (sources.rgbCameraFrameId ≠ rgb.sensor.frameId ∧
      sources.depthCameraFrameId ≠ depth.sensor.frameId) (invalid .malformedObservation
    "RGB-D mount and optical frame identities must remain distinct")
  let clockEq ← ensure (rgb.provenance.clock = depth.provenance.clock ∧
      depth.provenance.clock = provenance.clock) (invalid .malformedProvenance
    "RGB-D components and fusion result must share one reviewed clock")
  let bounded ← ensure (rgb.observedAtNs ≤ resultAtNs ∧
      resultAtNs ≤ maxObservationTimeNs) (invalid .malformedObservation
    "RGB-D result time must not precede source acquisition")
  let measuring ← ensure availability.Measuring (invalid .malformedObservation
    "fused RGB-D evidence must be available or degraded")
  let _ ← sha256Document p (pairDocument p rgb depth sources)
  let _ ← sha256Document p (observationDocument .fusedRgbd robotId rgb.observedAtNs provenance
    .null (fusedPayload p sensor rgb depth sources resultAtNs))
  pure {
    robotId := robotId
    sensor := sensor
    rgbObservation := rgb
    depthObservation := depth
    sources := sources
    resultAtNs := resultAtNs
    provenance := provenance
    availability := availability
    sensor_kind := sensorKind.down
    robot_eq := robotEq.down
    time_eq := timeEq.down
    rgb_session := rgbSession.down
    depth_session := depthSession.down
    session := session.down
    mounts := mounts.down
    clock_eq := clockEq.down
    bounded := bounded.down
    measuring := measuring.down }

/-- A built pair holds what it was built from. -/
theorem FusedRgbdObservation.build_ok {p : Platform} {robotId : Name} {sensor : SensorIdentity}
    {rgb : VisualFrameObservation} {depth : DepthFrameObservation} {sources : FusionSources}
    {resultAtNs : Nat} {provenance : ObservationProvenance} {availability : SensorAvailability}
    {observation : FusedRgbdObservation}
    (h : build p robotId sensor rgb depth sources resultAtNs provenance availability =
      .ok observation) :
    observation.robotId = robotId ∧ observation.sensor = sensor ∧
      observation.rgbObservation = rgb ∧ observation.depthObservation = depth ∧
      observation.sources = sources ∧ observation.provenance = provenance := by
  simp only [build, Checks.ensure_bind_ok] at h
  simp only [Checks.bind_ok, Checks.pure_ok] at h
  obtain ⟨_, _, _, _, _, _, _, _, _, _, _, -, _, -, rfl⟩ := h
  exact ⟨rfl, rfl, rfl, rfl, rfl, rfl⟩

end Fusion

end World
end AyyoHumanoid
