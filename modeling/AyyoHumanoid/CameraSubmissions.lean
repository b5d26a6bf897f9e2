import AyyoHumanoid.CameraFrames

/-!
# Submissions to a camera adapter

A submission to an active session either is not timely and changes nothing but
the counts and the diagnostics, or passes the common checks and goes on with the
checks of its kind. One that passes these and repeats nothing is stored, evicts
what expired, and completes a pair or waits.
-/

namespace AyyoHumanoid
namespace Camera

open PyText JsonText World Perception

section Submissions

variable {kind : CameraKind}

/-- A call of `submit_image` or `submit_camera_info`. -/
inductive Submission (kind : CameraKind) where
  /-- `submit_image`. -/
  | image (image : ImageMetadata kind) (nowNs : Int)
  /-- `submit_camera_info`. -/
  | cameraInfo (info : InfoMetadata kind) (nowNs : Int)

/-- One submission. -/
def submit (bounds : CameraBounds) (s : CameraState kind) :
    Submission kind → CameraState kind × Except CameraError (Option (Admission kind))
  | .image metadata nowNs => submitImage bounds s metadata nowNs
  | .cameraInfo info nowNs => submitCameraInfo bounds s info nowNs

/-- The state after some submissions. -/
def submitAll (bounds : CameraBounds) (s : CameraState kind) (calls : List (Submission kind)) :
    CameraState kind :=
  calls.foldl (fun state call => (submit bounds state call).1) s

namespace Submission

/-- What a submission has in common with the others. -/
def value : Submission kind → Metadata kind
  | .image metadata _ => metadata.toMetadata
  | .cameraInfo info _ => info.toMetadata

/-- The time of the call. -/
def nowNs : Submission kind → Int
  | .image _ nowNs => nowNs
  | .cameraInfo _ nowNs => nowNs

/-- The image that is submitted. -/
def image? : Submission kind → Option (ImageMetadata kind)
  | .image metadata _ => some metadata
  | .cameraInfo _ _ => none

/-- The CameraInfo that is submitted. -/
def info? : Submission kind → Option (InfoMetadata kind)
  | .image _ _ => none
  | .cameraInfo info _ => some info

/-- The images that wait once the submission is stored. -/
def storedImages (s : CameraState kind) : Submission kind → PyDict Nat (ImageMetadata kind)
  | .image metadata _ => s.pendingImages.items.set metadata.observedAtNs metadata
  | .cameraInfo _ _ => s.pendingImages.items

/-- The CameraInfo that wait once the submission is stored. -/
def storedInfos (s : CameraState kind) : Submission kind → PyDict Nat (InfoMetadata kind)
  | .image _ _ => s.pendingCameraInfo.items
  | .cameraInfo info _ => s.pendingCameraInfo.items.set info.observedAtNs info

/-- The time before which nothing waits any more. -/
def cutoff (bounds : CameraBounds) (x : Submission kind) : Int :=
  x.value.observedAtNs - bounds.pairWaitNs

/-- The number of submissions that storing this one evicts. -/
def evictions (bounds : CameraBounds) (s : CameraState kind) (x : Submission kind) : Nat :=
  Pending.evicted (x.cutoff bounds) (x.storedImages s) +
    Pending.evicted (x.cutoff bounds) (x.storedInfos s)

/-- An image and a CameraInfo of the time wait once this one is stored. -/
def Completes (bounds : CameraBounds) (s : CameraState kind) (x : Submission kind) : Prop :=
  ((Pending.evict (x.cutoff bounds) (x.storedImages s)).items.get?
      x.value.observedAtNs).isSome = true ∧
    ((Pending.evict (x.cutoff bounds) (x.storedInfos s)).items.get?
      x.value.observedAtNs).isSome = true

end Submission

/-- The submission is of the source of the session. -/
def FromSource (source : SourceManifest kind) (value : Metadata kind) : Prop :=
  value.sourceId = source.sourceId ∧ value.robotId = source.robotId ∧
    value.camera = source.camera ∧ value.provenance = source.provenance

/-- A submission to the active session at a time it accepts. -/
structure Timely (bounds : CameraBounds) (session : Session kind) (s : CameraState kind)
    (value : Metadata kind) (nowNs : Int) : Prop where
  /-- The time of the call is bounded. -/
  now : 0 ≤ nowNs ∧ nowNs ≤ 2 ^ 63 - 1
  ofSession : value.sessionId = session.sessionId
  ofSource : FromSource session.source value
  /-- It is of the optical frame. -/
  ofFrame : value.frameId = session.source.camera.frameId
  /-- It is not of the future. -/
  arrived : (value.observedAtNs : Int) ≤ nowNs + bounds.futureSkewNs
  /-- It is not stale. -/
  recent : nowNs - bounds.retentionNs ≤ value.observedAtNs
  /-- It is later than the pair accepted last. -/
  later : ∀ last, s.lastAcceptedAtNs = some last → last < value.observedAtNs

/-- The submission is one that its session supports. -/
def Submission.Supported (session : Session kind) : Submission kind → Prop
  | .image metadata _ => Camera.Supported session.source metadata
  | .cameraInfo info _ => info.calibration = session.calibration

/-- Nothing of its kind waits at its time. -/
def Submission.IsNew (s : CameraState kind) : Submission kind → Prop
  | .image metadata _ => s.pendingImages.items.get? metadata.observedAtNs = none
  | .cameraInfo info _ => s.pendingCameraInfo.items.get? info.observedAtNs = none

/-- The submission passes the checks and is stored. -/
structure Submission.Reaches (bounds : CameraBounds) (session : Session kind)
    (s : CameraState kind) (x : Submission kind) : Prop where
  /-- It passes the common checks. -/
  timely : Timely bounds session s x.value x.nowNs
  /-- It passes the checks of its kind. -/
  supported : x.Supported session
  /-- It repeats nothing that waits. -/
  isNew : x.IsNew s

/-- The submission evicts something that waits. -/
def Submission.Evicts (bounds : CameraBounds) (session : Session kind) (s : CameraState kind)
    (x : Submission kind) : Prop :=
  x.Reaches bounds session s ∧ 0 < x.evictions bounds s

/-- The submission is stored and only waits, evicting nothing that is counted, in a session where
something was evicted before and another event is reported. -/
structure Lingers (bounds : CameraBounds) (session : Session kind) (s : CameraState kind)
    (x : Submission kind) : Prop where
  /-- It is stored. -/
  reaches : x.Reaches bounds session s
  /-- It completes no pair. -/
  waits : ¬x.Completes bounds s
  /-- The event is another one. -/
  event : s.diagnostics.event ≠ .pendingEvicted
  /-- Something was evicted before. -/
  evicted : s.evictedCount.value ≠ 0
  /-- It evicts nothing, or the count of evictions is saturated. -/
  uncounted : x.evictions bounds s = 0 ∨ s.evictedCount.value = maxCameraCount

end Submissions

section Evictions

/-- The state with other diagnostics. -/
def CameraState.reporting {kind : CameraKind} (s : CameraState kind) (d : Diagnostics kind) :
    CameraState kind :=
  { s with diagnostics := d }

variable {kind : CameraKind} (bounds : CameraBounds)

/-- A saturating count after an increment. -/
theorem increment_value (count : Count) :
    count.increment.value = min (count.value + 1) maxCameraCount := rfl

/-- A saturating count after some increments. -/
theorem iterate_increment (n : Nat) (count : Count) :
    (Count.increment^[n] count).value = min (count.value + n) maxCameraCount := by
  have hle := count.le
  induction n with
  | zero =>
    rw [Function.iterate_zero, id_eq]
    omega
  | succ n ih =>
    rw [Function.iterate_succ_apply', increment_value, ih]
    omega

/-- The event that the physical adapter reports after evicting. -/
def physicalEvent (expired : CameraState .physical) : DiagnosticEvent :=
  if expired.evictedCount.value ≠ 0 then .pendingEvicted else expired.diagnostics.event

/-- The event that the depth adapter reports after evicting. -/
def depthEvent (expired t : CameraState .depth) : DiagnosticEvent :=
  if expired.evictedCount ≠ t.evictedCount then .pendingEvicted else expired.diagnostics.event

/-- Evicting changes nothing but the pending submissions, their count and the diagnostics. -/
theorem evictPhysical_eq (s : CameraState .physical)
    (images : PyDict Nat (ImageMetadata .physical)) (infos : PyDict Nat (InfoMetadata .physical))
    (newest : Metadata .physical) : ∃ d, evictPending bounds s images infos newest =
      (s.expire bounds images infos newest.observedAtNs).reporting d ∧
        d.event = physicalEvent (s.expire bounds images infos newest.observedAtNs) := by
  refine ⟨(evictPending bounds s images infos newest).diagnostics, ?_, ?_⟩
  · rw [evictPending, evictPhysical]
    split <;> rfl
  · rw [evictPending, evictPhysical, physicalEvent]
    split <;> rfl

/-- Evicting changes nothing but the pending submissions, their count and the diagnostics. -/
theorem evictDepth_eq (t : CameraState .depth)
    (images : PyDict Nat (ImageMetadata .depth)) (infos : PyDict Nat (InfoMetadata .depth))
    (newest : Metadata .depth) : ∃ d, evictPending bounds t images infos newest =
      (t.expire bounds images infos newest.observedAtNs).reporting d ∧
        d.event = depthEvent (t.expire bounds images infos newest.observedAtNs) t := by
  refine ⟨(evictPending bounds t images infos newest).diagnostics, ?_, ?_⟩
  · rw [evictPending, evictDepth]
    split <;> rfl
  · rw [evictPending, evictDepth, depthEvent]
    split <;> rfl

end Evictions

section Checks

variable {kind : CameraKind} {session : Session kind} {bounds : CameraBounds} {s : CameraState kind}
  {value : Metadata kind} {nowNs : Int}

variable (bounds value nowNs) in
/-- In an active session the common checks are those of the session. -/
theorem validateCommon_active (h : Active session s) : validateCommon bounds s value nowNs =
    validateActive bounds s session.source session.sessionId value nowNs := by
  rw [validateCommon, h.source, h.calibration, h.sessionId]
  exact if_neg (not_not.mpr h.state)

/-- A timely submission passes the common checks, which change nothing. -/
theorem validateActive_timely (h : Timely bounds session s value nowNs) :
    validateActive bounds s session.source session.sessionId value nowNs = (s, .ok true) := by
  have hsource : ¬(value.sourceId ≠ session.source.sourceId ∨
      value.robotId ≠ session.source.robotId ∨ value.camera ≠ session.source.camera ∨
      value.provenance ≠ session.source.provenance) := by
    obtain ⟨h₁, h₂, h₃, h₄⟩ := h.ofSource
    rintro (hne | hne | hne | hne)
    · exact hne h₁
    · exact hne h₂
    · exact hne h₃
    · exact hne h₄
  have harrived := h.arrived
  have hrecent := h.recent
  have hlast : ¬s.lastAcceptedAtNs.any (fun last => decide (value.observedAtNs < last)) = true := by
    intro hany
    obtain ⟨last, hlast, hlater⟩ := (Option.any_eq_true _ _).mp hany
    have hafter := h.later last hlast
    have hbefore := of_decide_eq_true hlater
    omega
  have hrepeated : s.lastAcceptedAtNs ≠ some value.observedAtNs := fun hlast =>
    absurd (h.later _ hlast) (lt_irrefl _)
  rw [validateActive, if_neg (not_not.mpr h.now), if_neg (not_not.mpr h.ofSession), if_neg hsource,
    if_neg (not_not.mpr h.ofFrame), if_neg (by omega), if_neg (by omega), if_neg hlast,
    if_neg hrepeated]

/-- Only a timely submission passes the common checks. -/
theorem timely_of_validateActive
    (h : (validateActive bounds s session.source session.sessionId value nowNs).2 = .ok true) :
    Timely bounds session s value nowNs := by
  rw [validateActive] at h
  split_ifs at h with hnow hsession hsource hframe hfuture hstale hlast hrepeated
  all_goals try cases h
  simp only [not_or, not_not] at hsource
  refine ⟨hnow, not_not.mp hsession, hsource, not_not.mp hframe, by omega, by omega, ?_⟩
  intro last haccepted
  rw [haccepted, Option.any_some, decide_eq_true_eq] at hlast
  rw [haccepted, Option.some.injEq] at hrepeated
  omega

/-- What a submission returns that does not pass the common checks. -/
def declined : CameraState kind × Except CameraError Bool →
    CameraState kind × Except CameraError (Option (Admission kind))
  | (state, .error error) => (state, .error error)
  | (state, .ok _) => (state, .ok none)

/-- What follows the common checks of a submission. -/
def Submission.continue (bounds : CameraBounds) (session : Session kind) (s : CameraState kind) :
    Submission kind → CameraState kind × Except CameraError (Option (Admission kind))
  | .image metadata _ => offerImage bounds s session.source metadata
  | .cameraInfo info _ =>
    if some info.calibration ≠ s.calibration then
      (s.rejectAt .calibrationInvalid .error info.toMetadata, .ok none)
    else storeInfo bounds s info

/-- A timely submission goes on with the checks of its kind. -/
theorem submit_timely {x : Submission kind} (h : Active session s)
    (htimely : Timely bounds session s x.value x.nowNs) :
    submit bounds s x = x.continue bounds session s := by
  have hchecks := (validateCommon_active _ _ _ h).trans (validateActive_timely htimely)
  cases x with
  | image metadata nowNs =>
    rw [submit, submitImage]
    simp only [Submission.value, Submission.nowNs] at hchecks
    rw [hchecks]
    simp only [h.source]
    rfl
  | cameraInfo info nowNs =>
    rw [submit, submitCameraInfo]
    simp only [Submission.value, Submission.nowNs] at hchecks
    rw [hchecks]
    rfl

/-- A submission that is not timely is declined by the common checks. -/
theorem submit_declined {x : Submission kind} (h : Active session s)
    (htimely : ¬Timely bounds session s x.value x.nowNs) :
    submit bounds s x =
      declined (validateActive bounds s session.source session.sessionId x.value x.nowNs) := by
  have hchecks := validateCommon_active bounds x.value x.nowNs h
  have hfalse : (validateActive bounds s session.source session.sessionId x.value x.nowNs).2 ≠
      .ok true := fun htrue => htimely (timely_of_validateActive htrue)
  generalize validateActive bounds s session.source session.sessionId x.value x.nowNs = outcome
    at hchecks hfalse
  obtain ⟨checked, reply⟩ := outcome
  cases x with
  | image metadata nowNs =>
    rw [submit, submitImage]
    simp only [Submission.value, Submission.nowNs] at hchecks
    rw [hchecks]
    cases reply with
    | error error => rfl
    | ok passed =>
      cases passed with
      | false => rfl
      | true => exact absurd rfl hfalse
  | cameraInfo info nowNs =>
    rw [submit, submitCameraInfo]
    simp only [Submission.value, Submission.nowNs] at hchecks
    rw [hchecks]
    cases reply with
    | error error => rfl
    | ok passed =>
      cases passed with
      | false => rfl
      | true => exact absurd rfl hfalse

/-- The state once a submission is stored and what expired is evicted, with its pair. -/
def Submission.settle (bounds : CameraBounds) (s : CameraState kind) (x : Submission kind) :
    CameraState kind × Except CameraError (Option (Admission kind)) :=
  tryPair (evictPending bounds s (x.storedImages s) (x.storedInfos s) x.value)
    x.value.observedAtNs

/-- A supported image is offered to the pending ones. -/
theorem offerImage_supported {image : ImageMetadata kind}
    (h : Supported session.source image) :
    offerImage bounds s session.source image = storeImage bounds s image := by
  cases kind with
  | physical =>
    obtain ⟨hencoding, hstep, hwidth, hheight⟩ := h
    have hsupported : ¬(image.encoding ∉ session.source.encodings ∨
        image.step < image.width * 3) := by
      rw [not_or, not_not]
      exact ⟨hencoding, by omega⟩
    rw [offerImage, offerPhysical, if_neg hsupported, if_neg (not_not.mpr ⟨hwidth, hheight⟩)]
  | depth =>
    have hencoding := h.1
    rw [offerImage, offerDepth, if_neg (not_not.mpr hencoding)]

/-- A submission that passes all checks is stored. -/
theorem submit_reaches {x : Submission kind} (h : Active session s)
    (hreaches : x.Reaches bounds session s) : submit bounds s x = x.settle bounds s := by
  rw [submit_timely h hreaches.timely]
  have hsupported := hreaches.supported
  have hnew := hreaches.isNew
  cases x with
  | image metadata nowNs =>
    rw [Submission.continue, offerImage_supported hsupported, storeImage]
    rw [Submission.IsNew] at hnew
    rw [hnew]
    rfl
  | cameraInfo info nowNs =>
    rw [Submission.Supported] at hsupported
    rw [Submission.IsNew] at hnew
    rw [Submission.continue, h.calibration, hsupported, if_neg (not_not.mpr rfl), storeInfo, hnew]
    rfl

/-- A repeated submission is counted, as a duplicate if it is the one that waits. -/
theorem submit_repeated_image {metadata existing : ImageMetadata kind} {nowNs : Int}
    (h : Active session s) (htimely : Timely bounds session s metadata.toMetadata nowNs)
    (hsupported : Supported session.source metadata)
    (hwaits : s.pendingImages.items.get? metadata.observedAtNs = some existing) :
    submit bounds s (.image metadata nowNs) =
      (settleRepeated s metadata.toMetadata existing metadata, .ok none) := by
  rw [submit_timely h htimely, Submission.continue, offerImage_supported hsupported, storeImage,
    hwaits]

/-- A repeated submission is counted, as a duplicate if it is the one that waits. -/
theorem submit_repeated_info {info existing : InfoMetadata kind} {nowNs : Int}
    (h : Active session s) (htimely : Timely bounds session s info.toMetadata nowNs)
    (hsupported : info.calibration = session.calibration)
    (hwaits : s.pendingCameraInfo.items.get? info.observedAtNs = some existing) :
    submit bounds s (.cameraInfo info nowNs) =
      (settleRepeated s info.toMetadata existing info, .ok none) := by
  rw [submit_timely h htimely, Submission.continue, h.calibration, hsupported,
    if_neg (not_not.mpr rfl), storeInfo, hwaits]

/-- A CameraInfo of another calibration is rejected. -/
theorem submit_uncalibrated {info : InfoMetadata kind} {nowNs : Int}
    (h : Active session s) (htimely : Timely bounds session s info.toMetadata nowNs)
    (hother : info.calibration ≠ session.calibration) :
    submit bounds s (.cameraInfo info nowNs) =
      (s.rejectAt .calibrationInvalid .error info.toMetadata, .ok none) := by
  have hdifferent : some info.calibration ≠ some session.calibration := fun hsame =>
    hother (Option.some.inj hsame)
  rw [submit_timely h htimely, Submission.continue, h.calibration, if_pos hdifferent]

/-- Nothing is paired while one of the two is missing. -/
theorem tryPair_waits {time : Nat} (h : ¬((s.pendingImages.items.get? time).isSome = true ∧
    (s.pendingCameraInfo.items.get? time).isSome = true)) : tryPair s time = (s, .ok none) := by
  rw [tryPair]
  cases himage : s.pendingImages.items.get? time with
  | none => rfl
  | some image =>
    cases hinfo : s.pendingCameraInfo.items.get? time with
    | none => rfl
    | some info =>
      rw [himage, hinfo] at h
      exact absurd ⟨rfl, rfl⟩ h

/-- An image and a CameraInfo of one time are taken and paired. -/
theorem tryPair_pairs {time : Nat} {image : ImageMetadata kind} {info : InfoMetadata kind}
    (himage : s.pendingImages.items.get? time = some image)
    (hinfo : s.pendingCameraInfo.items.get? time = some info) :
    tryPair s time = pair { s with
      pendingImages := s.pendingImages.remove time
      pendingCameraInfo := s.pendingCameraInfo.remove time } image info := by
  rw [tryPair, himage, hinfo]

end Checks

end Camera
end AyyoHumanoid
