import AyyoHumanoid.CameraModels

/-!
# The camera adapters

`PhysicalCameraLifecycleAdapter` and `DepthLifecycleAdapter` pair images and
CameraInfo of one acquisition time during an active session and issue sealed
evidence of the pairs. A call returns or raises, and may have changed the state
before it raised. Where the two adapters do the same the function is defined once
for either kind; where they differ each has its own.
-/

namespace AyyoHumanoid
namespace Camera

open PyText JsonText World Perception

/-- The bounds that the constructors check. -/
structure CameraBounds where
  pairWaitNs : Nat
  retentionNs : Nat
  futureSkewNs : Nat
  /-- Submissions wait for at most a second. -/
  wait : pairWaitNs ≤ 1000000000
  /-- They wait for less than they are kept. -/
  waiting : pairWaitNs < retentionNs ∧ retentionNs ≤ 300000000000
  /-- The skew is at most a second. -/
  skew : futureSkewNs ≤ 1000000000

/-- The fields of an adapter. -/
structure CameraState (kind : CameraKind) where
  source : Option (SourceManifest kind)
  calibration : Option (Calibration kind)
  state : LifecycleState
  sessionId : Option kind.SessionId
  epoch : Count
  pendingImages : Pending (ImageMetadata kind)
  pendingCameraInfo : Pending (InfoMetadata kind)
  lastAcceptedAtNs : Option Nat
  /-- `_last_interval_ns`, of the physical camera only. -/
  lastIntervalNs : Option Int
  acceptedCount : Count
  rejectedCount : Count
  duplicateCount : Count
  evictedCount : Count
  diagnostics : Diagnostics kind

variable {kind : CameraKind}

section Reporting

/-- The source that the diagnostics name without one. -/
def CameraKind.unconfiguredSourceId : CameraKind → Name
  | .physical => ⟨py "physical.camera.unconfigured.v1", by decide⟩
  | .depth => ⟨py "depth.camera.unconfigured.v1", by decide⟩

/-- The frequency that `_make_diagnostics` derives from the last interval. -/
def observedFrequency (lastIntervalNs : Option Int) : Option Nat :=
  match lastIntervalNs with
  | some interval =>
    if 0 < interval then some (min 1000000000 (1000000000000 / interval).toNat) else none
  | none => none

/-- What only one of the adapters reports. -/
def CameraState.report : {kind : CameraKind} → CameraState kind → kind.Report
  | .physical, state =>
    { sourceAvailable := state.source.isSome
      acquisitionActive := state.state = .active
      observedFrequencyMillihz := observedFrequency state.lastIntervalNs
      droppedFrameCount := none }
  | .depth, _ => ()

/-- `_make_diagnostics`. -/
def CameraState.makeDiagnostics (state : CameraState kind) (event : DiagnosticEvent)
    (availability : SensorAvailability) (observedAtNs : Nat)
    (bounded : observedAtNs ≤ maxObservationTimeNs) : Diagnostics kind where
  sourceId := (state.source.map (·.sourceId)).getD kind.unconfiguredSourceId
  sessionId := state.sessionId
  lifecycleState := state.state
  calibrationState := if state.calibration.isSome then .valid else .unknown
  event := event
  availability := availability
  acceptedCount := state.acceptedCount
  rejectedCount := state.rejectedCount
  duplicateCount := state.duplicateCount
  evictedCount := state.evictedCount
  pendingImageCount := state.pendingImages.items.size
  pendingCameraInfoCount := state.pendingCameraInfo.items.size
  observedAtNs := observedAtNs
  report := state.report
  fits := ⟨state.pendingImages.fits, state.pendingCameraInfo.fits⟩
  bounded := bounded

/-- `_set_event`. -/
def CameraState.setEvent (state : CameraState kind) (event : DiagnosticEvent)
    (availability : SensorAvailability) (observedAtNs : Nat)
    (bounded : observedAtNs ≤ maxObservationTimeNs) : CameraState kind :=
  { state with diagnostics := state.makeDiagnostics event availability observedAtNs bounded }

/-- `_set_event` with the time of a lifecycle call. -/
def CameraState.setRest (state : CameraState kind) (event : DiagnosticEvent) : CameraState kind :=
  state.setEvent event .unavailable 0 (Nat.zero_le _)

/-- `_set_event` with the time of a submission. -/
def CameraState.setAt (state : CameraState kind) (event : DiagnosticEvent)
    (availability : SensorAvailability) (value : Metadata kind) : CameraState kind :=
  state.setEvent event availability value.observedAtNs value.bounded.2

/-- The state after the constructor. -/
def CameraState.initial (kind : CameraKind) : CameraState kind where
  source := none
  calibration := none
  state := .unconfigured
  sessionId := none
  epoch := .zero
  pendingImages := .empty
  pendingCameraInfo := .empty
  lastAcceptedAtNs := none
  lastIntervalNs := none
  acceptedCount := .zero
  rejectedCount := .zero
  duplicateCount := .zero
  evictedCount := .zero
  diagnostics :=
    { sourceId := kind.unconfiguredSourceId
      sessionId := none
      lifecycleState := .unconfigured
      calibrationState := .unknown
      event := .unconfigured
      availability := .unavailable
      acceptedCount := .zero
      rejectedCount := .zero
      duplicateCount := .zero
      evictedCount := .zero
      pendingImageCount := 0
      pendingCameraInfoCount := 0
      observedAtNs := 0
      report :=
        match kind with
        | .physical => ⟨false, false, none, none⟩
        | .depth => ()
      fits := ⟨Nat.zero_le _, Nat.zero_le _⟩
      bounded := Nat.zero_le _ }

/-- `_reject`. -/
def CameraState.reject (state : CameraState kind) (event : DiagnosticEvent)
    (availability : SensorAvailability) (observedAtNs : Nat)
    (bounded : observedAtNs ≤ maxObservationTimeNs) : CameraState kind :=
  { state with rejectedCount := state.rejectedCount.increment }.setEvent event availability
    observedAtNs bounded

/-- `_reject` of a submission. -/
def CameraState.rejectAt (state : CameraState kind) (event : DiagnosticEvent)
    (availability : SensorAvailability) (value : Metadata kind) : CameraState kind :=
  state.reject event availability value.observedAtNs value.bounded.2

/-- The submission repeats a timestamp. -/
def CameraState.repeated (state : CameraState kind) (value : Metadata kind) : CameraState kind :=
  state.setAt .repeatedTimestamp .degraded value

/-- A submission was seen before. -/
def CameraState.countDuplicate (state : CameraState kind) : CameraState kind :=
  { state with duplicateCount := state.duplicateCount.increment }

/-- A submission is not admitted. -/
def CameraState.countRejected (state : CameraState kind) : CameraState kind :=
  { state with rejectedCount := state.rejectedCount.increment }

/-- `_clear_pending`. -/
def CameraState.clearPending (state : CameraState kind) : CameraState kind :=
  { state with pendingImages := .empty, pendingCameraInfo := .empty }

end Reporting

section Lifecycle

/-- `PhysicalCameraSourceRegistry`, `DepthSourceRegistry`. -/
abbrev SourceRegistry (kind : CameraKind) : Type := PyDict PyStr (SourceManifest kind)

/-- `resolve`. -/
def SourceRegistry.resolve (registry : SourceRegistry kind) (sourceId : PyStr) :
    Except CameraError (SourceManifest kind) :=
  match registry.get? sourceId with
  | some source => .ok source
  | none =>
    .error (.configuration (kind.shortNoun ++ py " source is not explicitly registered"))

/-- The checks of `configure` on a calibration. -/
def Calibration.Matches (calibration : Calibration kind) (source : SourceManifest kind) : Prop :=
  calibration.camera = source.camera ∧ calibration.sourceId = source.sourceId ∧
    calibration.mountFrameId = source.mountFrameId ∧
    calibration.opticalFrameId = source.camera.frameId ∧
    calibration.calibration.calibrationId = source.calibrationId ∧
    calibration.calibrationRecordId = source.calibrationRecordId ∧
    (source.minimumWidth ≤ calibration.calibration.width ∧
      calibration.calibration.width ≤ source.maximumWidth) ∧
    source.minimumHeight ≤ calibration.calibration.height ∧
      calibration.calibration.height ≤ source.maximumHeight

instance (calibration : Calibration kind) (source : SourceManifest kind) :
    Decidable (calibration.Matches source) := by
  unfold Calibration.Matches
  infer_instance

/-- `configure` outside the two lifecycle states. -/
def configureError (kind : CameraKind) : CameraError :=
  .lifecycle (kind.noun ++ py " can only configure while unconfigured or inactive")

/-- `PhysicalCameraLifecycleAdapter.configure`: the fields are set after the checks. -/
def configurePhysical (registry : SourceRegistry .physical) (state : CameraState .physical)
    (sourceId : PyStr) (calibration : Option (Calibration .physical)) :
    CameraState .physical × Except CameraError Unit :=
  if ¬(state.state = .unconfigured ∨ state.state = .inactive) then
    (state, .error (configureError .physical))
  else
    match registry.resolve sourceId with
    | .error error => (state, .error error)
    | .ok source =>
      match calibration with
      | none =>
        ({ state with
            source := some source
            calibration := none
            state := .inactive
            sessionId := none }.setRest .calibrationMissing, .ok ())
      | some calibration =>
        if ¬calibration.Matches source then
          (state, .error (.configuration
            (py "physical calibration does not match the exact registered source")))
        else
          ({ state with
              source := some source
              calibration := some calibration
              state := .inactive
              sessionId := none }.clearPending.setRest .configured, .ok ())

/-- `DepthLifecycleAdapter.configure`: source, session and pending are set before the checks. -/
def configureDepth (registry : SourceRegistry .depth) (state : CameraState .depth)
    (sourceId : PyStr) (calibration : Option (Calibration .depth)) :
    CameraState .depth × Except CameraError Unit :=
  if ¬(state.state = .unconfigured ∨ state.state = .inactive) then
    (state, .error (configureError .depth))
  else
    match registry.resolve sourceId with
    | .error error => (state, .error error)
    | .ok source =>
      let resolved : CameraState .depth :=
        { state with source := some source, sessionId := none }.clearPending
      match calibration with
      | none =>
        ({ resolved with calibration := none, state := .inactive }.setRest .calibrationMissing,
          .ok ())
      | some calibration =>
        if ¬calibration.Matches source then
          (resolved, .error (.configuration
            (py "depth calibration does not match the exact source")))
        else
          ({ resolved with
              calibration := some calibration
              state := .inactive }.setRest .configured, .ok ())

/-- `configure`. -/
def configure : {kind : CameraKind} → SourceRegistry kind → CameraState kind → PyStr →
    Option (Calibration kind) → CameraState kind × Except CameraError Unit
  | .physical => configurePhysical
  | .depth => configureDepth

/-- The schema of a session document. -/
def CameraKind.sessionSchema : CameraKind → PyStr
  | physical => py "ayyo.physical-camera-session.v1"
  | depth => py "ayyo.depth-camera-session.v1"

/-- The document that names a session. -/
def sessionDocument (manifestId : kind.SourceManifestId) (epoch : Count) : Json :=
  .obj [(py "epoch", .int epoch.value), (py "manifest_id", .str manifestId.text),
    (py "schema", .str kind.sessionSchema)]

/-- `physical_camera_session_id`, `depth_camera_session_id`, of an epoch that was counted. -/
def sessionIdOf (p : Platform) (manifestId : kind.SourceManifestId) (epoch : Count) :
    kind.SessionId :=
  ⟨digestOf p (encodeAscii (sessionDocument manifestId epoch))⟩

/-- `activate`. -/
def activate (p : Platform) (state : CameraState kind) :
    CameraState kind × Except CameraError kind.SessionId :=
  if state.state ≠ .inactive then
    (state, .error (.lifecycle (kind.noun ++ py " can only activate from inactive")))
  else
    match state.source, state.calibration with
    | some source, some _ =>
      let epoch := state.epoch.increment
      let sessionId := sessionIdOf p source.manifestId epoch
      ({ state with
          epoch := epoch
          sessionId := some sessionId
          state := .active
          lastAcceptedAtNs := none
          lastIntervalNs := none }.clearPending.setRest .acquisitionActive, .ok sessionId)
    | _, _ =>
      (state, .error (.lifecycle
        (kind.noun ++ py " cannot activate without reviewed calibration")))

/-- What `deactivate` and `shutdown` leave of the time accepted last: only the depth camera
forgets it before the next session. -/
def CameraKind.atRest : CameraKind → Option Nat → Option Nat
  | physical, lastAcceptedAtNs => lastAcceptedAtNs
  | depth, _ => none

/-- `deactivate`: the diagnostics still name the session. -/
def deactivate (state : CameraState kind) : CameraState kind × Except CameraError Unit :=
  if state.state ≠ .active then
    (state, .error (.lifecycle (kind.noun ++ py " can only deactivate from active")))
  else
    ({ { state with
          state := .inactive
          lastAcceptedAtNs := kind.atRest state.lastAcceptedAtNs }.clearPending.setRest
            .lifecycleInactive with
        sessionId := none }, .ok ())

/-- `cleanup`. -/
def cleanup (state : CameraState kind) : CameraState kind × Except CameraError Unit :=
  if state.state = .active then
    (state, .error (.lifecycle (kind.noun ++ py " must deactivate before cleanup")))
  else if state.state = .finalized then
    (state, .error (.lifecycle (py "finalized " ++ kind.noun ++ py " cannot be cleaned up")))
  else
    ({ state with
        source := none
        calibration := none
        sessionId := none
        lastAcceptedAtNs := none
        lastIntervalNs := none
        state := .unconfigured }.clearPending.setRest .unconfigured, .ok ())

/-- `shutdown`: the diagnostics still name the source. -/
def shutdown (state : CameraState kind) : CameraState kind :=
  { { state with
        state := .finalized
        sessionId := none
        lastAcceptedAtNs := kind.atRest state.lastAcceptedAtNs }.clearPending.setRest .shutdown with
      source := none
      calibration := none }

end Lifecycle

section Submission

/-- The event of an active session without a source. -/
def CameraKind.incompleteEvent : CameraKind → DiagnosticEvent
  | physical => .deviceError
  | depth => .malformedInput

/-- A time that is out of bounds. -/
def timeError (kind : CameraKind) : CameraError :=
  .validation (kind.shortNoun ++ py " current source time is invalid")

/-- The checks of `_validate_common` once the session is complete. -/
def validateActive (bounds : CameraBounds) (state : CameraState kind)
    (source : SourceManifest kind) (sessionId : kind.SessionId) (value : Metadata kind)
    (nowNs : Int) : CameraState kind × Except CameraError Bool :=
  if ¬(0 ≤ nowNs ∧ nowNs ≤ 2 ^ 63 - 1) then (state, .error (timeError kind))
  else if value.sessionId ≠ sessionId then
    (state.rejectAt .sessionMismatch .error value, .ok false)
  else if value.sourceId ≠ source.sourceId ∨ value.robotId ≠ source.robotId ∨
      value.camera ≠ source.camera ∨ value.provenance ≠ source.provenance then
    (state.rejectAt .wrongSource .error value, .ok false)
  else if value.frameId ≠ source.camera.frameId then
    (state.rejectAt .wrongFrame .error value, .ok false)
  else if nowNs + bounds.futureSkewNs < value.observedAtNs then
    (state.rejectAt .futureFrame .error value, .ok false)
  else if (value.observedAtNs : Int) < nowNs - bounds.retentionNs then
    (state.rejectAt .staleFrame .stale value, .ok false)
  else if state.lastAcceptedAtNs.any (fun last => decide (value.observedAtNs < last)) then
    (state.rejectAt .sourceClockRegression .error value, .ok false)
  else if state.lastAcceptedAtNs = some value.observedAtNs then
    (state.countDuplicate.repeated value, .ok false)
  else (state, .ok true)

/-- `_validate_common`. -/
def validateCommon (bounds : CameraBounds) (state : CameraState kind) (value : Metadata kind)
    (nowNs : Int) : CameraState kind × Except CameraError Bool :=
  if state.state ≠ .active then
    (state.reject .lifecycleInactive .unavailable 0 (Nat.zero_le _), .ok false)
  else
    match state.source, state.calibration, state.sessionId with
    | some source, some _, some sessionId =>
      validateActive bounds state source sessionId value nowNs
    | _, _, _ => (state.reject kind.incompleteEvent .error 0 (Nat.zero_le _), .ok false)

/-- The loop of `_evict_pending`, over the submissions that wait. -/
def CameraState.expire (bounds : CameraBounds) (state : CameraState kind)
    (images : PyDict Nat (ImageMetadata kind)) (infos : PyDict Nat (InfoMetadata kind))
    (newestNs : Nat) : CameraState kind :=
  let cutoff : Int := newestNs - bounds.pairWaitNs
  { state with
      pendingImages := .evict cutoff images
      pendingCameraInfo := .evict cutoff infos
      evictedCount :=
        Count.increment^[Pending.evicted cutoff images + Pending.evicted cutoff infos]
          state.evictedCount }

/-- `PhysicalCameraLifecycleAdapter._evict_pending` with the `_set_event` that follows it: the
event is of any eviction ever counted, and the diagnostics are made anew. -/
def evictPhysical (bounds : CameraBounds) (state : CameraState .physical)
    (images : PyDict Nat (ImageMetadata .physical)) (infos : PyDict Nat (InfoMetadata .physical))
    (newest : Metadata .physical) : CameraState .physical :=
  let expired := state.expire bounds images infos newest.observedAtNs
  let reported :=
    if expired.evictedCount.value ≠ 0 then expired.setAt .pendingEvicted .degraded newest
    else expired
  reported.setAt reported.diagnostics.event reported.diagnostics.availability newest

/-- `DepthLifecycleAdapter._evict_pending`: the event is of a count that changed. -/
def evictDepth (bounds : CameraBounds) (state : CameraState .depth)
    (images : PyDict Nat (ImageMetadata .depth)) (infos : PyDict Nat (InfoMetadata .depth))
    (newest : Metadata .depth) : CameraState .depth :=
  let expired := state.expire bounds images infos newest.observedAtNs
  if expired.evictedCount ≠ state.evictedCount then
    expired.setAt .pendingEvicted .degraded newest
  else expired

/-- `_evict_pending`. -/
def evictPending (bounds : CameraBounds) : {kind : CameraKind} → CameraState kind →
    PyDict Nat (ImageMetadata kind) → PyDict Nat (InfoMetadata kind) → Metadata kind →
    CameraState kind
  | .physical => evictPhysical bounds
  | .depth => evictDepth bounds

end Submission

section Frames

/-- The dimension check of a frame. -/
def DimensionsFit (width height : Int) : Prop :=
  (1 ≤ width ∧ width ≤ maxCameraDimension) ∧ (1 ≤ height ∧ height ≤ maxCameraDimension) ∧
    width * height ≤ maxCameraPixels

instance (width height : Int) : Decidable (DimensionsFit width height) :=
  inferInstanceAs (Decidable (_ ∧ _))

/-- The stride check of a frame. -/
def StrideFits (bytesPerPixel width height step dataSizeBytes : Int) : Prop :=
  width * bytesPerPixel ≤ step ∧ step ≤ maxImageDataBytes ∧ dataSizeBytes = step * height ∧
    1 ≤ dataSizeBytes ∧ dataSizeBytes ≤ maxImageDataBytes

instance (bytesPerPixel width height step dataSizeBytes : Int) :
    Decidable (StrideFits bytesPerPixel width height step dataSizeBytes) :=
  inferInstanceAs (Decidable (_ ∧ _))

/-- The checks on integers give those of a frame. -/
theorem imageFits {bytesPerPixel : Nat} {width height step dataSizeBytes : Int}
    (hdimensions : DimensionsFit width height)
    (hstride : StrideFits bytesPerPixel width height step dataSizeBytes) :
    ImageFits bytesPerPixel width.toNat height.toNat step.toNat := by
  obtain ⟨⟨hw, hw'⟩, ⟨hh, hh'⟩, hpixels⟩ := hdimensions
  obtain ⟨hs, hs', hsize, hd, hd'⟩ := hstride
  have hbytes : 0 ≤ width * bytesPerPixel := by positivity
  lift width to Nat using by omega
  lift height to Nat using by omega
  lift step to Nat using by omega
  simp only [maxCameraDimension, maxCameraPixels] at hw' hh' hpixels
  rw [hsize] at hd hd'
  simp only [Int.toNat_natCast]
  refine ⟨by omega, by omega, by omega, by omega, ?_, ?_, by omega, ?_, ?_⟩
  · exact_mod_cast hpixels
  · exact_mod_cast hs
  · exact_mod_cast hd
  · exact_mod_cast hd'

/-- An exception of a frame's constructor. -/
def frameError (detail : String) : CameraError := .world (invalid .malformedObservation detail)

/-- An available frame bears a measurement. -/
theorem measuring_available : SensorAvailability.available.Measuring := Or.inl rfl

/-- The frame of a pair of the physical camera. -/
def visualFrame (source : SourceManifest .physical) (image : ImageMetadata .physical)
    (calibration : CameraCalibration) : Except CameraError VisualFrameObservation := do
  let dimensions ← ensure (DimensionsFit image.width image.height)
    (frameError "visual frame dimensions are outside reviewed bounds")
  require (image.encoding = py "rgb8")
    (frameError "v1 visual evidence accepts only the reviewed rgb8 encoding")
  let stride ← ensure (StrideFits (3 : Nat) image.width image.height image.step image.dataSizeBytes)
    (frameError "visual frame row stride or byte-count metadata is inconsistent")
  pure
    { robotId := source.robotId
      sensor := source.camera
      width := image.width.toNat
      height := image.height.toNat
      step := image.step.toNat
      isBigendian := image.isBigendian
      calibrationId := calibration.calibrationId
      observedAtNs := image.observedAtNs
      provenance := source.provenance
      availability := .available
      sensor_kind := source.camera_kind
      fits := imageFits dimensions.down stride.down
      bounded := image.bounded
      measuring := measuring_available }

/-- The depth encoding of a text. -/
def depthEncoding? (text : PyStr) : Option DepthEncoding :=
  if text = py "16UC1" then some .mono16 else if text = py "32FC1" then some .float32 else none

/-- The checks of a depth frame on its counts. -/
def CountsFit (summary : DepthSummary) (width height : Int) : Prop :=
  (1 ≤ summary.validDepthCount ∧ summary.validDepthCount ≤ width * height) ∧
    (0 ≤ summary.invalidDepthCount ∧ summary.invalidDepthCount < width * height) ∧
    summary.validDepthCount + summary.invalidDepthCount = width * height

instance (summary : DepthSummary) (width height : Int) :
    Decidable (CountsFit summary width height) :=
  inferInstanceAs (Decidable (_ ∧ _))

/-- The checks on integers give those of a frame. -/
theorem countsFit {summary : DepthSummary} {width height : Int}
    (hdimensions : DimensionsFit width height) (hcounts : CountsFit summary width height) :
    1 ≤ summary.validDepthCount.toNat ∧
      summary.validDepthCount.toNat + summary.invalidDepthCount.toNat =
        width.toNat * height.toNat := by
  obtain ⟨⟨hw, -⟩, ⟨hh, -⟩, -⟩ := hdimensions
  obtain ⟨⟨hvalid, -⟩, ⟨hinvalid, -⟩, hsum⟩ := hcounts
  have harea : ((width.toNat * height.toNat : Nat) : Int) = width * height := by
    rw [Int.natCast_mul, Int.toNat_of_nonneg (by omega), Int.toNat_of_nonneg (by omega)]
  omega

/-- The availability of a frame with the given count of invalid depths. -/
def depthAvailability (invalidDepthCount : Int) : SensorAvailability :=
  if invalidDepthCount ≠ 0 then .degraded else .available

/-- A frame with some valid depth bears a measurement. -/
theorem measuring_depthAvailability (invalidDepthCount : Int) :
    (depthAvailability invalidDepthCount).Measuring := by
  rw [depthAvailability]
  by_cases h : invalidDepthCount ≠ 0
  · rw [if_pos h]
    exact Or.inr rfl
  · rw [if_neg h]
    exact Or.inl rfl

/-- The frame of a pair of the depth camera. -/
def depthFrame (source : SourceManifest .depth) (sessionId : CameraKind.depth.SessionId)
    (record : CameraKind.depth.CalibrationRecordId) (image : ImageMetadata .depth)
    (calibration : CameraCalibration) : Except CameraError DepthFrameObservation := do
  let dimensions ← ensure (DimensionsFit image.width image.height)
    (frameError "depth frame dimensions are outside reviewed bounds")
  match depthEncoding? image.encoding with
  | none => .error (frameError "depth encoding is outside the reviewed v1 allowlist")
  | some encoding =>
    let stride ← ensure (StrideFits encoding.bytesPerPixel image.width image.height image.step
      image.dataSizeBytes) (frameError "depth row stride or byte-count metadata is inconsistent")
    let counts ← ensure (CountsFit image.summary image.width image.height)
      (frameError "depth validity summary is inconsistent with frame geometry")
    let range ← ensure (0 < image.summary.minimumDepthM.toRat ∧
        image.summary.minimumDepthM.toRat ≤ image.summary.maximumDepthM.toRat ∧
        image.summary.maximumDepthM.toRat ≤ 10000)
      (frameError "depth range summary is invalid")
    pure
      { robotId := source.robotId
        sensor := source.camera
        width := image.width.toNat
        height := image.height.toNat
        encoding := encoding
        step := image.step.toNat
        isBigendian := image.isBigendian
        calibrationId := calibration.calibrationId
        calibrationRecordId := record
        sourceManifestId := source.manifestId
        sessionId := sessionId
        validDepthCount := image.summary.validDepthCount.toNat
        invalidDepthCount := image.summary.invalidDepthCount.toNat
        minimumDepthM := image.summary.minimumDepthM
        maximumDepthM := image.summary.maximumDepthM
        payloadSha256 := image.summary.payloadSha256
        observedAtNs := image.observedAtNs
        provenance := source.provenance
        availability := depthAvailability image.summary.invalidDepthCount
        sensor_kind := source.camera_kind
        fits := imageFits dimensions.down stride.down
        counted := countsFit dimensions.down counts.down
        range := range.down
        bounded := image.bounded
        measuring := measuring_depthAvailability _ }

/-- The frame of a pair. -/
def buildFrame : {kind : CameraKind} → SourceManifest kind → kind.SessionId → Calibration kind →
    ImageMetadata kind → CameraCalibration → Except CameraError kind.Frame
  | .physical, source, _, _, image, calibration => visualFrame source image calibration
  | .depth, source, sessionId, configured, image, calibration =>
    depthFrame source sessionId configured.calibrationRecordId image calibration

/-- `frame.availability`. -/
def frameAvailability : {kind : CameraKind} → kind.Frame → SensorAvailability
  | .physical, frame => VisualFrameObservation.availability frame
  | .depth, frame => DepthFrameObservation.availability frame

/-- The health fact of an accepted frame. -/
def healthOf (source : SourceManifest kind) (diagnostics : Diagnostics kind)
    (value : Metadata kind) : Except CameraError SensorHealthObservation := do
  let detail ← diagnostics.evidenceDetail
  let bounded ← ensure (IsHealthDetail detail)
    (frameError "sensor health detail must be bounded text")
  let encodable ← ensure (utf8Encodable detail = true)
    (frameError "sensor health detail must be bounded text")
  pure
    { robotId := source.robotId
      sensor := source.camera
      availability := diagnostics.availability
      observedAtNs := value.observedAtNs
      provenance := source.provenance
      evidenceDetail := detail
      bounded := value.bounded.2
      detail := bounded.down
      encodable := encodable.down }

/-- The checks of the constructor of an admission. -/
def SealMatches : {kind : CameraKind} → kind.Frame → SensorHealthObservation → kind.Requirement →
    kind.SessionId → Diagnostics kind → Prop
  | .physical, frame, health, requirement, sessionId, diagnostics =>
    diagnostics.sessionId = some sessionId ∧
      PhysicalCameraTrustRequirement.MatchesUnsealed requirement frame ∧
      health.sensor = VisualFrameObservation.sensor frame ∧
      health.provenance = VisualFrameObservation.provenance frame ∧
      health.observedAtNs = VisualFrameObservation.observedAtNs frame
  | .depth, frame, health, requirement, sessionId, diagnostics =>
    diagnostics.sessionId = some sessionId ∧ DepthFrameObservation.sessionId frame = sessionId ∧
      DepthTrustRequirement.MatchesUnsealed requirement frame ∧
      health.sensor = DepthFrameObservation.sensor frame ∧
      health.provenance = DepthFrameObservation.provenance frame ∧
      health.observedAtNs = DepthFrameObservation.observedAtNs frame

instance : {kind : CameraKind} → (frame : kind.Frame) → (health : SensorHealthObservation) →
    (requirement : kind.Requirement) → (sessionId : kind.SessionId) →
    (diagnostics : Diagnostics kind) →
    Decidable (SealMatches frame health requirement sessionId diagnostics)
  | .physical, _, _, _, _, _ => inferInstanceAs (Decidable (_ ∧ _))
  | .depth, _, _, _, _, _ => inferInstanceAs (Decidable (_ ∧ _))

/-- The message of a frame and a health fact that do not match. -/
def CameraKind.sealMessage : CameraKind → PyStr
  | physical => py "physical admission evidence does not match its exact requirement"
  | depth => py "depth admission does not match its exact requirement"

/-- `_issue_admission`. -/
def issueAdmission (frame : kind.Frame) (health : SensorHealthObservation)
    (requirement : kind.Requirement) (sessionId : kind.SessionId)
    (diagnostics : Diagnostics kind) : Except CameraError (Admission kind) := do
  require (SealMatches frame health requirement sessionId diagnostics)
    (.validation kind.sealMessage)
  pure ⟨frame, health, requirement, sessionId, diagnostics⟩

end Frames

section Pairing

/-- What `_try_pair` records of an accepted pair: only the physical camera keeps the interval. -/
def CameraState.accept (state : CameraState kind) (observedAtNs : Nat) : CameraState kind :=
  { state with
      lastIntervalNs :=
        match kind, state.lastAcceptedAtNs with
        | .physical, some last => some ((observedAtNs : Int) - last)
        | _, _ => state.lastIntervalNs
      lastAcceptedAtNs := some observedAtNs
      acceptedCount := state.acceptedCount.increment }

/-- `_try_pair`, once both submissions are taken from the pending ones, where each waited under
its own time. -/
def pair (state : CameraState kind) (image : ImageMetadata kind) (info : InfoMetadata kind) :
    CameraState kind × Except CameraError (Option (Admission kind)) :=
  match state.source, state.calibration, state.sessionId with
  | some source, some configured, some sessionId =>
    let calibration := info.calibration.calibration
    if image.width ≠ calibration.width ∨ image.height ≠ calibration.height then
      (state.rejectAt .pairMismatch .error image.toMetadata, .ok none)
    else
      match buildFrame source sessionId configured image calibration with
      | .error error => (state, .error error)
      | .ok frame =>
        let accepted := (state.accept image.observedAtNs).setAt .frameAccepted
          (frameAvailability frame) image.toMetadata
        (accepted, do
          let health ← healthOf source accepted.diagnostics image.toMetadata
          let admission ← issueAdmission frame health source.requirement sessionId
            accepted.diagnostics
          pure (some admission))
  | _, _, _ => (state, .error .assertion)

/-- `_try_pair`. -/
def tryPair (state : CameraState kind) (observedAtNs : Nat) :
    CameraState kind × Except CameraError (Option (Admission kind)) :=
  match state.pendingImages.items.get? observedAtNs,
    state.pendingCameraInfo.items.get? observedAtNs with
  | some image, some info =>
    pair { state with
      pendingImages := state.pendingImages.remove observedAtNs
      pendingCameraInfo := state.pendingCameraInfo.remove observedAtNs } image info
  | _, _ => (state, .ok none)

/-- A submission whose time is pending already. -/
def settleRepeated {α : Type} [DecidableEq α] (state : CameraState kind) (value : Metadata kind)
    (existing offered : α) : CameraState kind :=
  (if existing = offered then state.countDuplicate else state.countRejected).repeated value

/-- `submit_image`, once the image passed its checks. -/
def storeImage (bounds : CameraBounds) (state : CameraState kind) (image : ImageMetadata kind) :
    CameraState kind × Except CameraError (Option (Admission kind)) :=
  match state.pendingImages.items.get? image.observedAtNs with
  | some existing => (settleRepeated state image.toMetadata existing image, .ok none)
  | none =>
    tryPair (evictPending bounds state (state.pendingImages.items.set image.observedAtNs image)
      state.pendingCameraInfo.items image.toMetadata) image.observedAtNs

/-- `submit_camera_info`, once the CameraInfo passed its checks. -/
def storeInfo (bounds : CameraBounds) (state : CameraState kind) (info : InfoMetadata kind) :
    CameraState kind × Except CameraError (Option (Admission kind)) :=
  match state.pendingCameraInfo.items.get? info.observedAtNs with
  | some existing => (settleRepeated state info.toMetadata existing info, .ok none)
  | none =>
    tryPair (evictPending bounds state state.pendingImages.items
      (state.pendingCameraInfo.items.set info.observedAtNs info) info.toMetadata) info.observedAtNs

/-- What of `submit_image` follows `_validate_common` in the physical adapter. -/
def offerPhysical (bounds : CameraBounds) (state : CameraState .physical)
    (source : SourceManifest .physical) (image : ImageMetadata .physical) :
    CameraState .physical × Except CameraError (Option (Admission .physical)) :=
  if image.encoding ∉ source.encodings ∨ image.step < image.width * 3 then
    (state.rejectAt .unsupportedEncoding .error image.toMetadata, .ok none)
  else if ¬(((source.minimumWidth : Int) ≤ image.width ∧ image.width ≤ source.maximumWidth) ∧
      (source.minimumHeight : Int) ≤ image.height ∧ image.height ≤ source.maximumHeight) then
    (state.rejectAt .wrongDimensions .error image.toMetadata, .ok none)
  else storeImage bounds state image

/-- What of `submit_image` follows `_validate_common` in the depth adapter. -/
def offerDepth (bounds : CameraBounds) (state : CameraState .depth)
    (source : SourceManifest .depth) (image : ImageMetadata .depth) :
    CameraState .depth × Except CameraError (Option (Admission .depth)) :=
  if image.encoding ∉ source.encodings then
    (state.rejectAt .unsupportedEncoding .error image.toMetadata, .ok none)
  else storeImage bounds state image

/-- What of `submit_image` follows `_validate_common`. -/
def offerImage (bounds : CameraBounds) : {kind : CameraKind} → CameraState kind →
    SourceManifest kind → ImageMetadata kind →
    CameraState kind × Except CameraError (Option (Admission kind))
  | .physical => offerPhysical bounds
  | .depth => offerDepth bounds

/-- `submit_image`. -/
def submitImage (bounds : CameraBounds) (state : CameraState kind) (image : ImageMetadata kind)
    (nowNs : Int) : CameraState kind × Except CameraError (Option (Admission kind)) :=
  match validateCommon bounds state image.toMetadata nowNs with
  | (checked, .error error) => (checked, .error error)
  | (checked, .ok false) => (checked, .ok none)
  | (checked, .ok true) =>
    match checked.source with
    | none => (checked, .error .assertion)
    | some source => offerImage bounds checked source image

/-- `submit_camera_info`. -/
def submitCameraInfo (bounds : CameraBounds) (state : CameraState kind) (info : InfoMetadata kind)
    (nowNs : Int) : CameraState kind × Except CameraError (Option (Admission kind)) :=
  match validateCommon bounds state info.toMetadata nowNs with
  | (checked, .error error) => (checked, .error error)
  | (checked, .ok false) => (checked, .ok none)
  | (checked, .ok true) =>
    if some info.calibration ≠ checked.calibration then
      (checked.rejectAt .calibrationInvalid .error info.toMetadata, .ok none)
    else storeInfo bounds checked info

end Pairing

end Camera
end AyyoHumanoid
