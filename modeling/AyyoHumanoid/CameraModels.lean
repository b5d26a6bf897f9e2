import AyyoHumanoid.PyDictAlongside
import AyyoHumanoid.PerceptionModels

/-!
# Sources, calibrations and submissions of the camera adapters

The physical camera and the head-depth camera are registered, calibrated and
submitted through records of one shape. What differs between the two is indexed
by the kind of camera: the tags of the identities, the classifications, and what
an image says beyond its geometry.
-/

namespace AyyoHumanoid
namespace Camera

open PyText JsonText World Perception

/-- `MAX_PHYSICAL_CAMERA_PENDING_PAIRS`, `MAX_DEPTH_PENDING_PAIRS`. -/
def maxPendingPairs : Nat := 8

/-- `MAX_PHYSICAL_CAMERA_COUNT`, `MAX_DEPTH_COUNT`. -/
def maxCameraCount : Nat := 2 ^ 63 - 1

/-- `MAX_CAMERA_DIMENSION`. -/
def maxCameraDimension : Nat := 4096

/-- `MAX_CAMERA_PIXELS`. -/
def maxCameraPixels : Nat := 16777216

section Enumerations

/-- `PhysicalCameraCalibrationSource`. -/
inductive PhysicalCameraCalibrationSource where
  | testFixture | projectFile | deviceReported | manufacturerRecord
  deriving DecidableEq, Repr

/-- `DepthCalibrationSource`. -/
inductive DepthCalibrationSource where
  | testFixture | simulationModel | projectFile | deviceReported
  deriving DecidableEq, Repr

/-- `PhysicalCameraCalibrationState`, `DepthCalibrationState`. -/
inductive CalibrationState where
  | unknown | valid | invalid
  deriving DecidableEq, Repr

/-- The text of a calibration state. -/
def CalibrationState.value : CalibrationState → PyStr
  | .unknown => py "unknown"
  | .valid => py "valid"
  | .invalid => py "invalid"

/-- `PhysicalCameraLifecycleState`, `DepthLifecycleState`. -/
inductive LifecycleState where
  | unconfigured | inactive | active | finalized
  deriving DecidableEq, Repr

/-- The text of a lifecycle state. -/
def LifecycleState.value : LifecycleState → PyStr
  | .unconfigured => py "unconfigured"
  | .inactive => py "inactive"
  | .active => py "active"
  | .finalized => py "finalized"

/-- `PhysicalCameraDiagnosticEvent`; `DepthDiagnosticEvent` has all but `deviceError`. -/
inductive DiagnosticEvent where
  | unconfigured | calibrationMissing | configured | acquisitionActive | frameAccepted
  | lifecycleInactive | sessionMismatch | wrongSource | wrongFrame | wrongDimensions
  | unsupportedEncoding | calibrationInvalid | pairMismatch | staleFrame | futureFrame
  | sourceClockRegression | repeatedTimestamp | pendingEvicted | malformedInput | deviceError
  | shutdown
  deriving DecidableEq, Repr

/-- The text of an event. -/
def DiagnosticEvent.value : DiagnosticEvent → PyStr
  | .unconfigured => py "unconfigured"
  | .calibrationMissing => py "calibration_missing"
  | .configured => py "configured"
  | .acquisitionActive => py "acquisition_active"
  | .frameAccepted => py "frame_accepted"
  | .lifecycleInactive => py "lifecycle_inactive"
  | .sessionMismatch => py "session_mismatch"
  | .wrongSource => py "wrong_source"
  | .wrongFrame => py "wrong_frame"
  | .wrongDimensions => py "wrong_dimensions"
  | .unsupportedEncoding => py "unsupported_encoding"
  | .calibrationInvalid => py "calibration_invalid"
  | .pairMismatch => py "pair_mismatch"
  | .staleFrame => py "stale_frame"
  | .futureFrame => py "future_frame"
  | .sourceClockRegression => py "source_clock_regression"
  | .repeatedTimestamp => py "repeated_timestamp"
  | .pendingEvicted => py "pending_evicted"
  | .malformedInput => py "malformed_input"
  | .deviceError => py "device_error"
  | .shutdown => py "shutdown"

end Enumerations

/-- The exceptions of the adapters. -/
inductive CameraError where
  /-- `PhysicalCameraConfigurationError`, `DepthCameraConfigurationError`. -/
  | configuration (detail : PyStr)
  /-- `PhysicalCameraLifecycleError`, `DepthCameraLifecycleError`. -/
  | lifecycle (detail : PyStr)
  /-- `PhysicalCameraValidationError`, `DepthCameraValidationError`. -/
  | validation (detail : PyStr)
  /-- An exception of the world model. -/
  | world (error : WorldError)
  /-- A failed assertion. -/
  | assertion
  deriving DecidableEq

section Kinds

/-- What a depth image says of its payload. -/
structure DepthSummary where
  validDepthCount : Int
  invalidDepthCount : Int
  minimumDepthM : FloatToken
  maximumDepthM : FloatToken
  payloadSha256 : Digest
  deriving DecidableEq

/-- The two adapters. -/
inductive CameraKind where
  | physical | depth
  deriving DecidableEq, Repr

namespace CameraKind

/-- The sensor of an adapter. -/
abbrev sensorKind : CameraKind → SensorKind
  | physical => .rgbCamera
  | depth => .depthCamera

/-- The name of an adapter in its messages. -/
def noun : CameraKind → PyStr
  | physical => py "physical camera"
  | depth => py "depth camera"

/-- The name of an adapter in its messages about sources and times. -/
def shortNoun : CameraKind → PyStr
  | physical => py "physical camera"
  | depth => py "depth"

/-- The tag of a session identity. -/
abbrev sessionTag : CameraKind → String
  | physical => "physical-camera-session-sha256-"
  | depth => "depth-camera-session-sha256-"

/-- The tag of a calibration record identity. -/
abbrev calibrationTag : CameraKind → String
  | physical => "physical-camera-calibration-sha256-"
  | depth => "depth-camera-calibration-sha256-"

/-- The tag of a source manifest identity. -/
abbrev sourceTag : CameraKind → String
  | physical => "physical-camera-source-sha256-"
  | depth => "depth-camera-source-sha256-"

/-- A session identity. -/
abbrev SessionId (kind : CameraKind) : Type := TaggedDigest kind.sessionTag

/-- A calibration record identity. -/
abbrev CalibrationRecordId (kind : CameraKind) : Type := TaggedDigest kind.calibrationTag

/-- A source manifest identity. -/
abbrev SourceManifestId (kind : CameraKind) : Type := TaggedDigest kind.sourceTag

/-- The classification of a source. -/
abbrev Classification : CameraKind → Type
  | physical => PhysicalCameraSourceClassification
  | depth => DepthSourceClassification

/-- Where a calibration comes from. -/
abbrev CalibrationSource : CameraKind → Type
  | physical => PhysicalCameraCalibrationSource
  | depth => DepthCalibrationSource

/-- What an image says of its payload. -/
abbrev Summary : CameraKind → Type
  | physical => Unit
  | depth => DepthSummary

/-- The frame that a pair becomes. -/
abbrev Frame : CameraKind → Type
  | physical => VisualFrameObservation
  | depth => DepthFrameObservation

/-- The requirement of an admission. -/
abbrev Requirement : CameraKind → Type
  | physical => PhysicalCameraTrustRequirement
  | depth => DepthTrustRequirement

instance : (kind : CameraKind) → DecidableEq kind.Classification
  | physical => inferInstanceAs (DecidableEq PhysicalCameraSourceClassification)
  | depth => inferInstanceAs (DecidableEq DepthSourceClassification)

instance : (kind : CameraKind) → DecidableEq kind.CalibrationSource
  | physical => inferInstanceAs (DecidableEq PhysicalCameraCalibrationSource)
  | depth => inferInstanceAs (DecidableEq DepthCalibrationSource)

instance : (kind : CameraKind) → DecidableEq kind.Summary
  | physical => inferInstanceAs (DecidableEq Unit)
  | depth => inferInstanceAs (DecidableEq DepthSummary)

/-- The provenance and the encodings that the constructor of a source accepts. -/
abbrev Reviewed : CameraKind → ObservationProvenance → List PyStr → Prop
  | physical, provenance, encodings =>
    provenance.sourceKind = .physicalSensor ∧ encodings = [py "rgb8"]
  | depth, _, encodings =>
    encodings ≠ [] ∧ ∀ encoding ∈ encodings, encoding = py "16UC1" ∨ encoding = py "32FC1"

/-- The geometry checks of the constructor of an image. -/
abbrev ImageValid : (kind : CameraKind) → (width height step dataSizeBytes : Int) →
    kind.Summary → Prop
  | physical, width, height, step, dataSizeBytes, _ =>
    (1 ≤ width ∧ width ≤ maxCameraDimension) ∧ (1 ≤ height ∧ height ≤ maxCameraDimension) ∧
      (1 ≤ step ∧ step ≤ maxImageDataBytes) ∧ dataSizeBytes = step * height ∧
      dataSizeBytes ≤ maxImageDataBytes
  | depth, width, height, _, _, summary =>
    (1 ≤ summary.validDepthCount ∧ 0 ≤ summary.invalidDepthCount ∧
      summary.validDepthCount + summary.invalidDepthCount = width * height) ∧
      0 < summary.minimumDepthM.toRat ∧
      summary.minimumDepthM.toRat ≤ summary.maximumDepthM.toRat

end CameraKind

end Kinds

section Records

/-- `CameraCalibration` of the world model. -/
structure CameraCalibration where
  width : Nat
  height : Nat
  distortionModel : PyStr
  d : List FloatToken
  k : List FloatToken
  r : List FloatToken
  p : List FloatToken
  binningX : Nat
  binningY : Nat
  roi : Nat × Nat × Nat × Nat × Bool
  calibrationId : CalibrationId
  /-- The dimensions are within the limits. -/
  dimensions : (1 ≤ width ∧ width ≤ maxCameraDimension) ∧
    (1 ≤ height ∧ height ≤ maxCameraDimension) ∧ width * height ≤ maxCameraPixels
  deriving DecidableEq

/-- `PhysicalCameraCalibration`, `DepthCameraCalibration`. -/
structure Calibration (kind : CameraKind) where
  /-- `camera`, `sensor`. -/
  camera : SensorIdentity
  sourceId : Name
  /-- `camera_frame_id`, `mount_frame_id`. -/
  mountFrameId : FrameId
  opticalFrameId : FrameId
  calibrationVersion : Name
  calibrationSource : kind.CalibrationSource
  importIdentity : Option Name
  calibration : CameraCalibration
  calibrationRecordId : kind.CalibrationRecordId
  deriving DecidableEq

/-- `PhysicalCameraSourceManifest`, `DepthSourceManifest`. -/
structure SourceManifest (kind : CameraKind) where
  sourceId : Name
  robotId : Name
  /-- `camera`, `sensor`. -/
  camera : SensorIdentity
  /-- `adapter_id`, `producer_id`. -/
  adapterId : Name
  /-- `adapter_implementation_sha256`, `producer_implementation_sha256`. -/
  adapterImplementationSha256 : Digest
  provenance : ObservationProvenance
  classification : kind.Classification
  /-- `camera_frame_id`, `mount_frame_id`. -/
  mountFrameId : FrameId
  encodings : List PyStr
  minimumWidth : Nat
  maximumWidth : Nat
  minimumHeight : Nat
  maximumHeight : Nat
  calibrationId : CalibrationId
  calibrationRecordId : kind.CalibrationRecordId
  manifestId : kind.SourceManifestId
  camera_kind : camera.kind = kind.sensorKind
  source_eq : provenance.sourceId = sourceId
  reviewed : kind.Reviewed provenance encodings

/-- `PhysicalCameraSourceManifest.requirement`, `DepthSourceManifest.requirement`. -/
def SourceManifest.requirement : {kind : CameraKind} → SourceManifest kind → kind.Requirement
  | .physical, source =>
    { sourceId := source.sourceId
      robotId := source.robotId
      camera := source.camera
      adapterId := source.adapterId
      adapterImplementationSha256 := source.adapterImplementationSha256
      provenance := source.provenance
      classification := source.classification
      calibrationId := source.calibrationId
      calibrationRecordId := source.calibrationRecordId
      sourceManifestId := source.manifestId
      camera_kind := source.camera_kind
      physical := ⟨source.reviewed.1, source.source_eq⟩ }
  | .depth, source =>
    { sourceId := source.sourceId
      robotId := source.robotId
      sensor := source.camera
      producerId := source.adapterId
      producerImplementationSha256 := source.adapterImplementationSha256
      provenance := source.provenance
      classification := source.classification
      calibrationId := source.calibrationId
      calibrationRecordId := source.calibrationRecordId
      sourceManifestId := source.manifestId
      sensor_kind := source.camera_kind
      source_eq := source.source_eq }

/-- What an image and a CameraInfo have in common. -/
@[ext] structure Metadata (kind : CameraKind) where
  sourceId : Name
  sessionId : kind.SessionId
  robotId : Name
  /-- `camera`, `sensor`. -/
  camera : SensorIdentity
  frameId : FrameId
  observedAtNs : Nat
  provenance : ObservationProvenance
  camera_kind : camera.kind = kind.sensorKind
  bounded : 1 ≤ observedAtNs ∧ observedAtNs ≤ maxObservationTimeNs

instance {kind : CameraKind} : DecidableEq (Metadata kind) := fun _ _ =>
  decidable_of_iff _ Metadata.ext_iff.symm

/-- `PhysicalCameraImageMetadata`, `DepthImageMetadata`. -/
structure ImageMetadata (kind : CameraKind) extends Metadata kind where
  width : Int
  height : Int
  encoding : PyStr
  step : Int
  dataSizeBytes : Int
  isBigendian : Bool
  /-- What the image says of its payload. -/
  summary : kind.Summary
  /-- The geometry passed the checks. -/
  valid : kind.ImageValid width height step dataSizeBytes summary
  deriving DecidableEq

/-- `PhysicalCameraInfoMetadata`, `DepthCameraInfoMetadata`. -/
structure InfoMetadata (kind : CameraKind) extends Metadata kind where
  calibration : Calibration kind
  deriving DecidableEq

end Records

section Counts

/-- A count that saturates. -/
structure Count where
  /-- The number. -/
  value : Nat
  /-- It is within the limit. -/
  le : value ≤ maxCameraCount
  deriving DecidableEq

/-- No count. -/
def Count.zero : Count := ⟨0, Nat.zero_le _⟩

/-- `_increment`. -/
def Count.increment (count : Count) : Count :=
  ⟨min (count.value + 1) maxCameraCount, min_le_right _ _⟩

/-- Submissions that wait, by acquisition time. -/
structure Pending (α : Type) where
  /-- `_pending_images`, `_pending_camera_info`. -/
  items : PyDict Nat α
  /-- They are within the limit. -/
  fits : items.size ≤ maxPendingPairs

/-- Nothing waits. -/
def Pending.empty {α : Type} : Pending α := ⟨PyDict.empty, Nat.zero_le _⟩

/-- The body of the loop of `_evict_pending`. -/
def Pending.evict {α : Type} (cutoff : Int) (items : PyDict Nat α) : Pending α where
  items := (items.keep fun time _ => ¬(time : Int) < cutoff).trim (fun time _ => time)
    maxPendingPairs
  fits := PyDict.size_trim _ _ _

/-- The number of deletions in the body of the loop. -/
def Pending.evicted {α : Type} (cutoff : Int) (items : PyDict Nat α) : Nat :=
  items.size - (Pending.evict cutoff items).items.size

/-- `del pending[observed_at_ns]`. -/
def Pending.remove {α : Type} (pending : Pending α) (observedAtNs : Nat) : Pending α where
  items := pending.items.remove observedAtNs
  fits := (PyDict.size_keep_le _ _).trans pending.fits

end Counts

section Diagnostics

/-- What only the physical camera reports. -/
structure PhysicalReport where
  sourceAvailable : Bool
  acquisitionActive : Bool
  observedFrequencyMillihz : Option Nat
  droppedFrameCount : Option Nat
  deriving DecidableEq

/-- What only one of the adapters reports. -/
abbrev CameraKind.Report : CameraKind → Type
  | .physical => PhysicalReport
  | .depth => Unit

/-- `PhysicalCameraDiagnostics`, `DepthDiagnostics`. -/
structure Diagnostics (kind : CameraKind) where
  sourceId : Name
  sessionId : Option kind.SessionId
  lifecycleState : LifecycleState
  calibrationState : CalibrationState
  event : DiagnosticEvent
  availability : SensorAvailability
  acceptedCount : Count
  rejectedCount : Count
  duplicateCount : Count
  evictedCount : Count
  pendingImageCount : Nat
  pendingCameraInfoCount : Nat
  observedAtNs : Nat
  /-- What only one of the adapters reports. -/
  report : kind.Report
  /-- The pending counts are within the limit. -/
  fits : pendingImageCount ≤ maxPendingPairs ∧ pendingCameraInfoCount ≤ maxPendingPairs
  bounded : observedAtNs ≤ maxObservationTimeNs

/-- The start of a detail. -/
def CameraKind.detailTag : CameraKind → PyStr
  | physical => py "physical_camera:"
  | depth => py "depth_camera:"

/-- The text that `evidence_detail` returns. -/
def Diagnostics.detailText {kind : CameraKind} (diagnostics : Diagnostics kind) : PyStr :=
  kind.detailTag ++ diagnostics.event.value ++ py ":lifecycle=" ++
    diagnostics.lifecycleState.value ++ py ":calibration=" ++ diagnostics.calibrationState.value ++
    py ":session=" ++ (diagnostics.sessionId.map TaggedDigest.text).getD (py "unknown") ++
    py ":accepted=" ++ natDigits diagnostics.acceptedCount.value ++ py ":rejected=" ++
    natDigits diagnostics.rejectedCount.value

/-- `evidence_detail`: only the physical camera bounds the text. -/
def Diagnostics.evidenceDetail : {kind : CameraKind} → Diagnostics kind → Except CameraError PyStr
  | .physical, diagnostics =>
    if 512 < diagnostics.detailText.length then
      .error (.validation (py "physical diagnostics detail exceeds its bound"))
    else .ok diagnostics.detailText
  | .depth, diagnostics => .ok diagnostics.detailText

/-- `PhysicalCameraAdmission`, `DepthCameraAdmission`. -/
structure Admission (kind : CameraKind) where
  frame : kind.Frame
  health : SensorHealthObservation
  requirement : kind.Requirement
  sessionId : kind.SessionId
  diagnostics : Diagnostics kind

end Diagnostics

end Camera
end AyyoHumanoid
