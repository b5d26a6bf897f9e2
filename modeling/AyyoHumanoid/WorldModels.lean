import AyyoHumanoid.JsonBounds
import AyyoHumanoid.Platform
import AyyoHumanoid.PyCollections

/-!
# Identities of the world model

The world model names robots, sensors, producers and evidence by bounded
lowercase identifiers, frame names and SHA-256 digests. A text that its check
accepted is a value of its own type here, so that the records built from it
need no further check. Records whose checks relate several fields carry the
relation as a field.
-/

namespace AyyoHumanoid
namespace World

open PyText JsonText PyCollections

/-- `WorldModelFailureCode`. -/
inductive FailureCode where
  | malformedObservation | malformedCovariance | malformedProvenance | identityMismatch
  | wrongRobotIdentity | unknownJoint | unknownSensor | fixedJoint | jointBelowMinimum
  | jointAboveMaximum | jointVelocityExceeded | jointEffortExceeded | malformedCatalog
  | snapshotInvariant
  deriving DecidableEq, Repr

/-- The exception classes of the world model. -/
inductive WorldErrorKind where
  | validation | observationIdentity | snapshotIdentity
  deriving DecidableEq, Repr

/-- An exception with its code and detail. -/
structure WorldError where
  /-- The exception class. -/
  kind : WorldErrorKind
  code : FailureCode
  detail : PyStr
  deriving DecidableEq

/-- `_invalid(code, detail)`. -/
def invalid (code : FailureCode) (detail : String) : WorldError := ⟨.validation, code, py detail⟩

/-- `ObservationIdentityError(IDENTITY_MISMATCH, detail)`. -/
def identityError (detail : String) : WorldError :=
  ⟨.observationIdentity, .identityMismatch, py detail⟩

/-- `MAX_OBSERVATION_ITEMS`. -/
def maxObservationItems : Nat := 128

/-- `MAX_ENVIRONMENT_ENTITIES`. -/
def maxEnvironmentEntities : Nat := 256

/-- `MAX_OBSERVATION_TIME_NS`. -/
def maxObservationTimeNs : Nat := 2 ^ 63 - 1

/-- `MAX_VISUAL_DETECTIONS`, `MAX_SEMANTIC_EVIDENCE_ITEMS`. -/
def maxVisualDetections : Nat := 32

/-- `MAX_VISUAL_SOURCE_REFERENCES`, `MAX_SEMANTIC_EVIDENCE_STATES`. -/
def maxVisualSourceReferences : Nat := 64

section Texts

/-- A lowercase ASCII letter or a digit. -/
def isLowerAlnum (c : CodePoint) : Bool :=
  (97 ≤ c.val && c.val ≤ 122) || (48 ≤ c.val && c.val ≤ 57)

/-- The rest of an identifier, after a letter or digit or after a separator. -/
def identifierRest : Bool → PyStr → Bool
  | afterAlnum, [] => afterAlnum
  | afterAlnum, c :: text =>
    if isLowerAlnum c then identifierRest true text
    else if afterAlnum && (c.val == 46 || c.val == 95 || c.val == 45) then
      identifierRest false text
    else false

/-- `_IDENTIFIER.fullmatch(text)`: runs of letters and digits joined by one of `.`, `_`, `-`. -/
def isIdentifier (text : PyStr) : Bool := identifierRest false text

/-- Hexadecimal digits continue an identifier like a single digit. -/
theorem identifierRest_hex {text digits : PyStr} (hdigits : digits.all isHexDigit = true)
    (hsome : digits ≠ []) (afterAlnum : Bool) :
    identifierRest afterAlnum (text ++ digits) = identifierRest afterAlnum (text ++ py "0") := by
  induction text generalizing afterAlnum with
  | nil =>
    have hall : ∀ digits : PyStr, digits.all isHexDigit = true →
        identifierRest true digits = true := by
      intro digits hdigits
      induction digits with
      | nil => rfl
      | cons c digits ih =>
        rw [List.all_cons, Bool.and_eq_true] at hdigits
        have halnum : isLowerAlnum c = true := by
          have hdigit := hdigits.1
          simp only [isHexDigit, Bool.or_eq_true, Bool.and_eq_true, decide_eq_true_eq] at hdigit
          simp only [isLowerAlnum, Bool.or_eq_true, Bool.and_eq_true, decide_eq_true_eq]
          omega
        rw [identifierRest, if_pos halnum]
        exact ih hdigits.2
    have hzero : identifierRest afterAlnum (py "0") = true := by
      cases afterAlnum <;> decide
    cases digits with
    | nil => exact absurd rfl hsome
    | cons c digits =>
      have hrest := hall (c :: digits) hdigits
      have hc : isLowerAlnum c = true := by
        by_contra hnot
        have hdigit := hdigits
        rw [List.all_cons, Bool.and_eq_true] at hdigit
        simp only [isHexDigit, Bool.or_eq_true, Bool.and_eq_true, decide_eq_true_eq] at hdigit
        simp only [isLowerAlnum, Bool.or_eq_true, Bool.and_eq_true, decide_eq_true_eq] at hnot
        omega
      rw [identifierRest, if_pos hc] at hrest
      rw [List.nil_append, List.nil_append, hzero, identifierRest, if_pos hc]
      exact hrest
  | cons c text ih =>
    rw [List.cons_append, List.cons_append, identifierRest, identifierRest, ih, ih]

/-- The checks of `canonical_identifier`. -/
def IsCanonical (maximum : Nat) (text : PyStr) : Prop :=
  isIdentifier text = true ∧ text.length ≤ maximum

instance (maximum : Nat) (text : PyStr) : Decidable (IsCanonical maximum text) :=
  inferInstanceAs (Decidable (_ ∧ _))

/-- `canonical_identifier(text, field_name, maximum=maximum)` raises. -/
def identifierError (fieldName : String) : WorldError :=
  ⟨.validation, .malformedObservation,
    py fieldName ++ py " must be a bounded lowercase ASCII identifier"⟩

/-- A text that `canonical_identifier(text, maximum=maximum)` accepts. -/
structure Identifier (maximum : Nat) where
  text : PyStr
  /-- It passed the checks. -/
  canonical : IsCanonical maximum text
  deriving DecidableEq

/-- An identifier of the default length. -/
abbrev Name : Type := Identifier 256

/-- `MAX_VISUAL_PRODUCER_ID_LENGTH`. -/
def maxVisualProducerIdLength : Nat := 128

/-- `AYYO_ROBOT_ID`. -/
def ayyoRobotId : Name := ⟨py "ayyo.robot.v1", by decide⟩

/-- An identifier of a producer. -/
abbrev ProducerName : Type := Identifier maxVisualProducerIdLength

/-- `MAX_VISUAL_LABEL_LENGTH`. -/
def maxVisualLabelLength : Nat := 64

/-- An ASCII letter. -/
def isAsciiLetter (c : CodePoint) : Bool :=
  (65 ≤ c.val && c.val ≤ 90) || (97 ≤ c.val && c.val ≤ 122)

/-- A character of a frame name. -/
def isFrameChar (c : CodePoint) : Bool :=
  isAsciiLetter c || (48 ≤ c.val && c.val ≤ 57) || c.val == 95 || c.val == 47 || c.val == 45

/-- `"//" in text`. -/
def hasDoubleSlash : PyStr → Bool
  | first :: second :: text => (first.val == 47 && second.val == 47) || hasDoubleSlash (second :: text)
  | _ => false

/-- The checks of `_frame_id`. -/
def IsFrame (text : PyStr) : Prop :=
  text.head?.any isAsciiLetter = true ∧ text.all isFrameChar = true ∧ text.length ≤ 256 ∧
    hasDoubleSlash text = false ∧ text.getLast? ≠ some 47

instance (text : PyStr) : Decidable (IsFrame text) := inferInstanceAs (Decidable (_ ∧ _))

/-- A frame identifier. -/
structure FrameId where
  text : PyStr
  /-- It passed the checks. -/
  frame : IsFrame text
  deriving DecidableEq

/-- A lowercase SHA-256 digest. -/
structure Digest where
  text : PyStr
  /-- It passed the check. -/
  hex : IsHexDigest text
  deriving DecidableEq

/-- A digest behind a fixed tag. -/
structure TaggedDigest (tag : String) where
  digest : Digest
  deriving DecidableEq

/-- Tagged digests are compared by equality. -/
instance {tag : String} : LawfulBEq (TaggedDigest tag) := inferInstance

/-- The whole text. -/
def TaggedDigest.text {tag : String} (id : TaggedDigest tag) : PyStr := py tag ++ id.digest.text

/-- An observation identity. -/
abbrev ObservationId : Type := TaggedDigest "world-observation-"

/-- The identity of a detection. -/
abbrev DetectionId : Type := TaggedDigest "visual-detection-sha256-"

/-- The identity of a camera calibration. -/
abbrev CalibrationId : Type := TaggedDigest "camera-calibration-sha256-"

end Texts

section Digests

/-- The digest of a text. -/
def digestOf (p : Platform) (text : PyStr) : Digest := ⟨p.sha256 text, p.sha256_hex text⟩

/-- `sha256_document(document)`, of a document within the limits. -/
def documentDigest (p : Platform) (document : Json) : Digest := digestOf p (encode document)

end Digests

section Enumerations

/-- `ObservationSourceKind`. -/
inductive ObservationSourceKind where
  | simulation | physicalSensor | recordedData | testFixture
  deriving DecidableEq, Repr

/-- The text of a source kind. -/
def ObservationSourceKind.value : ObservationSourceKind → PyStr
  | .simulation => py "simulation"
  | .physicalSensor => py "physical_sensor"
  | .recordedData => py "recorded_data"
  | .testFixture => py "test_fixture"

/-- `ObservationClock`. -/
inductive ObservationClock where
  | rosSimulationTime | rosSystemTime | recordedTime | testTime
  deriving DecidableEq, Repr

/-- The text of a clock. -/
def ObservationClock.value : ObservationClock → PyStr
  | .rosSimulationTime => py "ros_simulation_time"
  | .rosSystemTime => py "ros_system_time"
  | .recordedTime => py "recorded_time"
  | .testTime => py "test_time"

/-- `ObservationTransport`. -/
inductive ObservationTransport where
  | ros2 | direct | recorded
  deriving DecidableEq, Repr

/-- The text of a transport. -/
def ObservationTransport.value : ObservationTransport → PyStr
  | .ros2 => py "ros2"
  | .direct => py "direct"
  | .recorded => py "recorded"

/-- `SensorKind`. -/
inductive SensorKind where
  | jointState | imu | bodyPose | rgbCamera | depthCamera | rgbdFusion | microphone
  deriving DecidableEq, Repr

/-- The text of a sensor kind. -/
def SensorKind.value : SensorKind → PyStr
  | .jointState => py "joint_state"
  | .imu => py "imu"
  | .bodyPose => py "body_pose"
  | .rgbCamera => py "rgb_camera"
  | .depthCamera => py "depth_camera"
  | .rgbdFusion => py "rgbd_fusion"
  | .microphone => py "microphone"

/-- `SensorAvailability`. -/
inductive SensorAvailability where
  | available | degraded | error | stale | unavailable
  deriving DecidableEq, Repr

/-- The text of an availability. -/
def SensorAvailability.value : SensorAvailability → PyStr
  | .available => py "available"
  | .degraded => py "degraded"
  | .error => py "error"
  | .stale => py "stale"
  | .unavailable => py "unavailable"

/-- The availabilities of evidence that bears a measurement. -/
def SensorAvailability.Measuring (availability : SensorAvailability) : Prop :=
  availability = .available ∨ availability = .degraded

instance (availability : SensorAvailability) : Decidable availability.Measuring :=
  inferInstanceAs (Decidable (_ ∨ _))

/-- `VisualSemanticCategory`. -/
inductive VisualSemanticCategory where
  | testPattern | object | person | surface | landmark | obstacle | unknown
  deriving DecidableEq, Repr

/-- The text of a category. -/
def VisualSemanticCategory.value : VisualSemanticCategory → PyStr
  | .testPattern => py "test_pattern"
  | .object => py "object"
  | .person => py "person"
  | .surface => py "surface"
  | .landmark => py "landmark"
  | .obstacle => py "obstacle"
  | .unknown => py "unknown"

/-- `SemanticEvidenceKind`, `SemanticObservationKind`. -/
inductive SemanticKind where
  | person | object
  deriving DecidableEq, Repr

/-- The text of a semantic kind. -/
def SemanticKind.value : SemanticKind → PyStr
  | .person => py "person"
  | .object => py "object"

/-- `VisualProducerKind`. -/
inductive VisualProducerKind where
  | testFixture | simulationProcessor | physicalProcessor | recordedProcessor
  deriving DecidableEq, Repr

/-- The text of a producer kind. -/
def VisualProducerKind.value : VisualProducerKind → PyStr
  | .testFixture => py "test_fixture"
  | .simulationProcessor => py "simulation_processor"
  | .physicalProcessor => py "physical_processor"
  | .recordedProcessor => py "recorded_processor"

/-- `WorldEntityKind`. -/
inductive WorldEntityKind where
  | object | person | surface | landmark | obstacle | unknown
  deriving DecidableEq, Repr

/-- The text of an entity kind. -/
def WorldEntityKind.value : WorldEntityKind → PyStr
  | .object => py "object"
  | .person => py "person"
  | .surface => py "surface"
  | .landmark => py "landmark"
  | .obstacle => py "obstacle"
  | .unknown => py "unknown"

/-- `ObservationFingerprintKind`. -/
inductive ObservationFingerprintKind where
  | robotState | imu | bodyPose | sensorHealth | visualFrame | depthFrame | fusedRgbd | audioFrame
  | visualInterpretation | semanticEvidence | environmentEntity
  deriving DecidableEq, Repr

/-- The text of a fingerprint kind. -/
def ObservationFingerprintKind.value : ObservationFingerprintKind → PyStr
  | .robotState => py "robot_state"
  | .imu => py "imu"
  | .bodyPose => py "body_pose"
  | .sensorHealth => py "sensor_health"
  | .visualFrame => py "visual_frame"
  | .depthFrame => py "depth_frame"
  | .fusedRgbd => py "fused_rgbd"
  | .audioFrame => py "audio_frame"
  | .visualInterpretation => py "visual_interpretation"
  | .semanticEvidence => py "semantic_evidence"
  | .environmentEntity => py "environment_entity"

end Enumerations

section Records

/-- `_CLOCK_BY_SOURCE`. -/
def clockBySource : ObservationSourceKind → ObservationClock
  | .simulation => .rosSimulationTime
  | .physicalSensor => .rosSystemTime
  | .recordedData => .recordedTime
  | .testFixture => .testTime

/-- `ObservationProvenance`. -/
structure ObservationProvenance where
  sourceKind : ObservationSourceKind
  sourceId : Name
  clock : ObservationClock
  transport : ObservationTransport
  interface : Name
  /-- The source kind has its own clock. -/
  clock_eq : clock = clockBySource sourceKind
  /-- Recorded evidence uses the recorded transport. -/
  recorded : sourceKind = .recordedData → transport = .recorded
  deriving DecidableEq

/-- `ObservationProvenance.document`. -/
def ObservationProvenance.document (provenance : ObservationProvenance) : Json :=
  .obj [(py "clock", .str provenance.clock.value),
    (py "interface", .str provenance.interface.text),
    (py "source_id", .str provenance.sourceId.text),
    (py "source_kind", .str provenance.sourceKind.value),
    (py "transport", .str provenance.transport.value)]

/-- `SensorIdentity`. -/
structure SensorIdentity where
  sensorId : Name
  kind : SensorKind
  frameId : FrameId
  deriving DecidableEq

/-- `SensorIdentity.document`. -/
def SensorIdentity.document (sensor : SensorIdentity) : Json :=
  .obj [(py "frame_id", .str sensor.frameId.text), (py "kind", .str sensor.kind.value),
    (py "sensor_id", .str sensor.sensorId.text)]

/-- `VisualInterpretationProducer`. -/
structure VisualInterpretationProducer where
  producerId : ProducerName
  kind : VisualProducerKind
  modelId : ProducerName
  adapterId : ProducerName
  interface : ProducerName
  deriving DecidableEq

/-- `VisualInterpretationProducer.document`. -/
def VisualInterpretationProducer.document (producer : VisualInterpretationProducer) : Json :=
  .obj [(py "adapter_id", .str producer.adapterId.text),
    (py "interface", .str producer.interface.text), (py "kind", .str producer.kind.value),
    (py "model_id", .str producer.modelId.text),
    (py "producer_id", .str producer.producerId.text)]

/-- `ObservationFingerprint`: the algorithm and the schema version are fixed. -/
structure ObservationFingerprint where
  kind : ObservationFingerprintKind
  digest : Digest
  deriving DecidableEq

/-- `str(fingerprint)`. -/
def ObservationFingerprint.text (fingerprint : ObservationFingerprint) : PyStr :=
  fingerprint.kind.value ++ py ":sha256:" ++ fingerprint.digest.text

/-- `f"world-observation-{fingerprint.digest}"`. -/
def ObservationFingerprint.observationId (fingerprint : ObservationFingerprint) : ObservationId :=
  ⟨fingerprint.digest⟩

/-- `_observation_document`. -/
def observationDocument (kind : ObservationFingerprintKind) (robotId : Name) (observedAtNs : Nat)
    (provenance : ObservationProvenance) (confidence : Json) (payload : Json) : Json :=
  .obj [(py "confidence", confidence), (py "kind", .str kind.value),
    (py "observed_at_ns", .int observedAtNs), (py "payload", payload),
    (py "provenance", provenance.document), (py "robot_id", .str robotId.text),
    (py "schema", .str (py "ayyo.world-model.observation.v1"))]

end Records

end World
end AyyoHumanoid
