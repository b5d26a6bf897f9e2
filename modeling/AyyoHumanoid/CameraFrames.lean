import AyyoHumanoid.ArtifactText
import AyyoHumanoid.CameraAdapter
import AyyoHumanoid.JsonFields

/-!
# The evidence of a pair

An image that its source supports, with the dimensions of a calibration, makes a
frame; the detail of its health fact is short printable text; and the two match
the requirement of the source. So a pair of supported submissions is admitted.
-/

namespace AyyoHumanoid
namespace Camera

open PyText JsonText World Perception Artifacts Checks

variable {kind : CameraKind}

section Details

/-- A short text of printable characters. -/
def Plain (maximum : Nat) (text : PyStr) : Prop :=
  text.all isPrintable = true ∧ text.length ≤ maximum

/-- Plain texts are joined. -/
theorem Plain.append {m n : Nat} {left right : PyStr} (hleft : Plain m left)
    (hright : Plain n right) : Plain (m + n) (left ++ right) := by
  constructor
  · rw [List.all_append, hleft.1, hright.1]
    rfl
  · have hlength := hleft.2
    have hlength' := hright.2
    rw [List.length_append]
    omega

/-- The text of an event is plain. -/
theorem plain_event (event : DiagnosticEvent) : Plain 24 event.value := by
  cases event <;> exact ⟨by decide, by decide⟩

/-- The text of a lifecycle state is plain. -/
theorem plain_lifecycle (state : LifecycleState) : Plain 12 state.value := by
  cases state <;> exact ⟨by decide, by decide⟩

/-- The text of a calibration state is plain. -/
theorem plain_calibrationState (state : CalibrationState) : Plain 7 state.value := by
  cases state <;> exact ⟨by decide, by decide⟩

/-- The text of a session is plain. -/
theorem plain_session (id : kind.SessionId) : Plain 95 id.text := by
  have htag : Plain 31 (py kind.sessionTag) := by
    cases kind <;> exact ⟨by decide, by decide⟩
  have hdigest : Plain 64 id.digest.text := ⟨printable_digest _, id.digest.hex.1.le⟩
  exact htag.append hdigest

/-- The digits of a count are plain. -/
theorem plain_count (count : Count) : Plain 19 (natDigits count.value) := by
  have hle := count.le
  rw [maxCameraCount] at hle
  exact ⟨printable_natDigits _,
    length_natDigitsFrom_le (count.value + 1) count.value 18 (by omega)⟩

/-- The detail of a health fact is plain. -/
theorem plain_detail (diagnostics : Diagnostics kind) : Plain 300 diagnostics.detailText := by
  have hhead : Plain 16 kind.detailTag := by
    cases kind <;> exact ⟨by decide, by decide⟩
  have hsession : Plain 95 ((diagnostics.sessionId.map TaggedDigest.text).getD (py "unknown")) := by
    cases diagnostics.sessionId with
    | none =>
      have hunknown : Plain 95 (py "unknown") := ⟨by decide, by decide⟩
      exact hunknown
    | some id => exact plain_session id
  have hlifecycle : Plain 11 (py ":lifecycle=") := ⟨by decide, by decide⟩
  have hcalibration : Plain 13 (py ":calibration=") := ⟨by decide, by decide⟩
  have hlabel : Plain 9 (py ":session=") := ⟨by decide, by decide⟩
  have haccepted : Plain 10 (py ":accepted=") := ⟨by decide, by decide⟩
  have hrejected : Plain 10 (py ":rejected=") := ⟨by decide, by decide⟩
  have hplain := (((((((((((hhead.append (plain_event diagnostics.event)).append hlifecycle).append
    (plain_lifecycle diagnostics.lifecycleState)).append hcalibration).append
    (plain_calibrationState diagnostics.calibrationState)).append hlabel).append hsession).append
    haccepted).append (plain_count diagnostics.acceptedCount)).append hrejected).append
    (plain_count diagnostics.rejectedCount))
  exact ⟨hplain.1, hplain.2.trans (by decide)⟩

/-- The detail is returned. -/
theorem evidenceDetail_eq (diagnostics : Diagnostics kind) :
    diagnostics.evidenceDetail = .ok diagnostics.detailText := by
  cases kind with
  | physical =>
    have hlength := (plain_detail diagnostics).2
    rw [Diagnostics.evidenceDetail, if_neg (by omega)]
  | depth => rfl

/-- A plain text is the detail of a health fact. -/
theorem Plain.detail {maximum : Nat} {text : PyStr} (h : Plain maximum text)
    (hmaximum : maximum ≤ 1024) : IsHealthDetail text := by
  refine ⟨h.2.trans hmaximum, fun hzero => ?_⟩
  have hchar := List.all_eq_true.mp h.1 0 hzero
  exact absurd hchar (by decide)

/-- The health fact of a frame can be made. -/
theorem healthOf_ok (source : SourceManifest kind) (diagnostics : Diagnostics kind)
    (value : Metadata kind) : ∃ health, healthOf source diagnostics value = .ok health ∧
      health.sensor = source.camera ∧ health.provenance = source.provenance ∧
      health.observedAtNs = value.observedAtNs := by
  have hplain := plain_detail diagnostics
  have hdetail := hplain.detail (by decide)
  have hencodable := utf8Encodable_of_printable hplain.1
  refine ⟨⟨source.robotId, source.camera, diagnostics.availability, value.observedAtNs,
    source.provenance, diagnostics.detailText, value.bounded.2, hdetail, hencodable⟩, ?_, rfl, rfl,
    rfl⟩
  rw [healthOf, evidenceDetail_eq, bind_ok]
  refine ⟨_, rfl, ?_⟩
  rw [ensure_bind_ok]
  refine ⟨hdetail, ?_⟩
  rw [ensure_bind_ok]
  exact ⟨hencodable, rfl⟩

end Details

section Images

/-- The image has an encoding and a stride that the physical source supports. -/
def SupportedVisual (source : SourceManifest .physical) (image : ImageMetadata .physical) : Prop :=
  image.encoding ∈ source.encodings ∧ image.width * 3 ≤ image.step ∧
    ((source.minimumWidth : Int) ≤ image.width ∧ image.width ≤ source.maximumWidth) ∧
    (source.minimumHeight : Int) ≤ image.height ∧ image.height ≤ source.maximumHeight

/-- The image has an encoding that the depth source supports, a stride that fits it, a bounded
range and no invalid depth. -/
def SupportedDepth (source : SourceManifest .depth) (image : ImageMetadata .depth) : Prop :=
  image.encoding ∈ source.encodings ∧
    (∀ encoding, depthEncoding? image.encoding = some encoding →
      StrideFits encoding.bytesPerPixel image.width image.height image.step image.dataSizeBytes) ∧
    image.summary.maximumDepthM.toRat ≤ 10000 ∧ image.summary.invalidDepthCount = 0

/-- The image has the dimensions of a calibration. -/
def SameDimensions (image : ImageMetadata kind) (calibration : CameraCalibration) : Prop :=
  image.width = calibration.width ∧ image.height = calibration.height

/-- Dimensions of a calibration are within the limits of a frame. -/
theorem SameDimensions.fit {image : ImageMetadata kind} {calibration : CameraCalibration}
    (h : SameDimensions image calibration) : DimensionsFit image.width image.height := by
  obtain ⟨⟨hw, hw'⟩, ⟨hh, hh'⟩, hpixels⟩ := calibration.dimensions
  rw [h.1, h.2]
  exact ⟨⟨by omega, by omega⟩, ⟨by omega, by omega⟩, by exact_mod_cast hpixels⟩

/-- A supported image of the calibrated dimensions makes a visual frame. -/
theorem visualFrame_ok {source : SourceManifest .physical} {image : ImageMetadata .physical}
    {calibration : CameraCalibration} (hsupported : SupportedVisual source image)
    (hdimensions : SameDimensions image calibration) :
    ∃ frame, visualFrame source image calibration = .ok frame := by
  have hencoding : image.encoding = py "rgb8" := by
    have hmem := hsupported.1
    rw [source.reviewed.2] at hmem
    exact List.mem_singleton.mp hmem
  have hstride : StrideFits (3 : Nat) image.width image.height image.step image.dataSizeBytes := by
    obtain ⟨⟨hw, hw'⟩, ⟨hh, hh'⟩, ⟨hs, hs'⟩, hsize, hbytes⟩ := image.valid
    have hpositive : 1 ≤ image.step * image.height := by nlinarith
    exact ⟨hsupported.2.1, hs', hsize, by omega, hbytes⟩
  rw [visualFrame]
  simp only [ensure_bind_ok, require_bind_ok]
  exact ⟨_, hdimensions.fit, hencoding, hstride, rfl⟩

/-- A supported image of the calibrated dimensions makes a depth frame. -/
theorem depthFrame_ok {source : SourceManifest .depth} {sessionId : CameraKind.depth.SessionId}
    {record : CameraKind.depth.CalibrationRecordId} {image : ImageMetadata .depth}
    {calibration : CameraCalibration} (hsupported : SupportedDepth source image)
    (hdimensions : SameDimensions image calibration) :
    ∃ frame, depthFrame source sessionId record image calibration = .ok frame := by
  obtain ⟨hmem, hstride, hmaximum, hinvalid⟩ := hsupported
  obtain ⟨⟨hvalid, -, hsum⟩, hminimum, hordered⟩ := image.valid
  have hencoding : ∃ encoding, depthEncoding? image.encoding = some encoding := by
    rcases source.reviewed.2 image.encoding hmem with hmono | hfloat
    · exact ⟨.mono16, by rw [hmono]; decide⟩
    · exact ⟨.float32, by rw [hfloat]; decide⟩
  obtain ⟨encoding, hencoding⟩ := hencoding
  have hcounts : CountsFit image.summary image.width image.height :=
    ⟨⟨hvalid, by omega⟩, ⟨by omega, by omega⟩, hsum⟩
  rw [depthFrame, hencoding]
  simp only [ensure_bind_ok]
  exact ⟨_, hdimensions.fit, hstride encoding hencoding, hcounts, ⟨hminimum, hordered, hmaximum⟩,
    rfl⟩

/-- What a visual frame takes over. -/
theorem visualFrame_fields {source : SourceManifest .physical} {image : ImageMetadata .physical}
    {calibration : CameraCalibration} {frame : VisualFrameObservation}
    (h : visualFrame source image calibration = .ok frame) :
    frame.robotId = source.robotId ∧ frame.sensor = source.camera ∧
      frame.provenance = source.provenance ∧
      frame.calibrationId = calibration.calibrationId ∧
      frame.observedAtNs = image.observedAtNs ∧
      (frame.width : Int) = image.width ∧ (frame.height : Int) = image.height := by
  rw [visualFrame] at h
  simp only [ensure_bind_ok, require_bind_ok] at h
  obtain ⟨hdimensions, -, hstride, hframe⟩ := h
  cases hframe
  have hwidth := hdimensions.1.1
  have hheight := hdimensions.2.1.1
  exact ⟨rfl, rfl, rfl, rfl, rfl, Int.toNat_of_nonneg (by omega), Int.toNat_of_nonneg (by omega)⟩

/-- What a depth frame takes over. -/
theorem depthFrame_fields {source : SourceManifest .depth}
    {sessionId : CameraKind.depth.SessionId} {record : CameraKind.depth.CalibrationRecordId}
    {image : ImageMetadata .depth} {calibration : CameraCalibration}
    {frame : DepthFrameObservation}
    (h : depthFrame source sessionId record image calibration = .ok frame) :
    (frame.robotId = source.robotId ∧ frame.sensor = source.camera ∧
      frame.provenance = source.provenance ∧
      frame.calibrationId = calibration.calibrationId ∧ frame.calibrationRecordId = record ∧
      frame.sourceManifestId = source.manifestId) ∧ frame.sessionId = sessionId ∧
      frame.observedAtNs = image.observedAtNs ∧
      (frame.width : Int) = image.width ∧ (frame.height : Int) = image.height := by
  rw [depthFrame] at h
  rw [ensure_bind_ok] at h
  obtain ⟨hdimensions, h⟩ := h
  cases hencoding : depthEncoding? image.encoding with
  | none =>
    rw [hencoding] at h
    cases h
  | some encoding =>
    rw [hencoding] at h
    simp only [ensure_bind_ok] at h
    obtain ⟨hstride, hcounts, hrange, hframe⟩ := h
    cases hframe
    have hwidth := hdimensions.1.1
    have hheight := hdimensions.2.1.1
    exact ⟨⟨rfl, rfl, rfl, rfl, rfl, rfl⟩, rfl, rfl, Int.toNat_of_nonneg (by omega),
      Int.toNat_of_nonneg (by omega)⟩

end Images

section Admissions

/-- The image is one that its source supports. -/
def Supported : {kind : CameraKind} → SourceManifest kind → ImageMetadata kind → Prop
  | .physical => SupportedVisual
  | .depth => SupportedDepth

/-- A supported image of the calibrated dimensions makes a frame. -/
theorem buildFrame_ok {source : SourceManifest kind} (sessionId : kind.SessionId)
    (configured : Calibration kind) {image : ImageMetadata kind} {calibration : CameraCalibration}
    (hsupported : Supported source image) (hdimensions : SameDimensions image calibration) :
    ∃ frame, buildFrame source sessionId configured image calibration = .ok frame := by
  cases kind with
  | physical => exact visualFrame_ok hsupported hdimensions
  | depth => exact depthFrame_ok hsupported hdimensions

/-- A frame and a health fact of a source with a matching calibration can be sealed. -/
theorem sealMatches {source : SourceManifest kind} {sessionId : kind.SessionId}
    {configured : Calibration kind} {image : ImageMetadata kind} {frame : kind.Frame}
    {health : SensorHealthObservation} {diagnostics : Diagnostics kind}
    (hmatches : configured.Matches source)
    (hframe : buildFrame source sessionId configured image configured.calibration = .ok frame)
    (hhealth : health.sensor = source.camera ∧ health.provenance = source.provenance ∧
      health.observedAtNs = image.observedAtNs)
    (hsession : diagnostics.sessionId = some sessionId) :
    SealMatches frame health source.requirement sessionId diagnostics := by
  obtain ⟨-, -, -, -, hcalibration, hrecord, -⟩ := hmatches
  obtain ⟨hsensor, hprovenance, htime⟩ := hhealth
  cases kind with
  | physical =>
    obtain ⟨hrobot, hcamera, hsource, hid, hobserved, -⟩ := visualFrame_fields hframe
    exact ⟨hsession, ⟨hrobot, hcamera, hsource, hid.trans hcalibration⟩, hsensor.trans hcamera.symm,
      hprovenance.trans hsource.symm, htime.trans hobserved.symm⟩
  | depth =>
    obtain ⟨⟨hrobot, hcamera, hsource, hid, hkept, hmanifest⟩, hown, hobserved, -⟩ :=
      depthFrame_fields hframe
    exact ⟨hsession, hown, ⟨hrobot, hcamera, hsource, hid.trans hcalibration,
      hkept.trans hrecord, hmanifest⟩, hsensor.trans hcamera.symm,
      hprovenance.trans hsource.symm, htime.trans hobserved.symm⟩

/-- What stays fixed while a session is active: the configured calibration is of the source. -/
structure Session (kind : CameraKind) where
  source : SourceManifest kind
  calibration : Calibration kind
  /-- The session identity. -/
  sessionId : kind.SessionId
  configured : calibration.Matches source

/-- The adapter is active in the session. -/
structure Active (session : Session kind) (s : CameraState kind) : Prop where
  state : s.state = .active
  source : s.source = some session.source
  calibration : s.calibration = some session.calibration
  /-- It has the session identity. -/
  sessionId : s.sessionId = some session.sessionId

/-- A pair of other dimensions is rejected. -/
theorem pair_mismatch {session : Session kind} {s : CameraState kind} (h : Active session s)
    {image : ImageMetadata kind} {info : InfoMetadata kind}
    (hdimensions : ¬SameDimensions image info.calibration.calibration) :
    pair s image info = (s.rejectAt .pairMismatch .error image.toMetadata, .ok none) := by
  have hother : image.width ≠ info.calibration.calibration.width ∨
      image.height ≠ info.calibration.calibration.height := by
    by_cases hwidth : image.width = info.calibration.calibration.width
    · exact Or.inr fun hheight => hdimensions ⟨hwidth, hheight⟩
    · exact Or.inl hwidth
  rw [pair, h.source, h.calibration, h.sessionId]
  exact if_pos hother

/-- A supported pair of the calibrated dimensions is admitted. -/
theorem pair_admitted {session : Session kind} {s : CameraState kind} (h : Active session s)
    {image : ImageMetadata kind} {info : InfoMetadata kind}
    (hinfo : info.calibration = session.calibration) (hsupported : Supported session.source image)
    (hdimensions : SameDimensions image session.calibration.calibration) :
    ∃ availability admission, pair s image info =
      ((s.accept image.observedAtNs).setAt .frameAccepted availability image.toMetadata,
        .ok (some admission)) := by
  obtain ⟨frame, hframe⟩ := buildFrame_ok session.sessionId session.calibration hsupported
    hdimensions
  obtain ⟨health, hhealth, hfields⟩ := healthOf_ok session.source
    ((s.accept image.observedAtNs).setAt .frameAccepted (frameAvailability frame)
      image.toMetadata).diagnostics image.toMetadata
  have hkept : ((s.accept image.observedAtNs).setAt .frameAccepted (frameAvailability frame)
      image.toMetadata).diagnostics.sessionId = some session.sessionId := h.sessionId
  have hseal := sealMatches session.configured hframe hfields hkept
  have hsame : ¬(image.width ≠ session.calibration.calibration.width ∨
      image.height ≠ session.calibration.calibration.height) := by
    rw [not_or, not_not, not_not]
    exact hdimensions
  refine ⟨frameAvailability frame, ⟨frame, health, session.source.requirement, session.sessionId,
    ((s.accept image.observedAtNs).setAt .frameAccepted (frameAvailability frame)
      image.toMetadata).diagnostics⟩, ?_⟩
  rw [pair, h.source, h.calibration, h.sessionId]
  simp only
  rw [hinfo, if_neg hsame, hframe]
  refine Prod.ext rfl ?_
  simp only [bind_ok]
  refine ⟨health, hhealth, _, ?_, rfl⟩
  rw [issueAdmission, require_bind_ok]
  exact ⟨hseal, rfl⟩

end Admissions

end Camera
end AyyoHumanoid
