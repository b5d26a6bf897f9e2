import AyyoHumanoid.CameraSubmissions
import AyyoHumanoid.SessionLogs

/-!
# Calls of a camera adapter

Every call of an adapter, the state it leaves and what it returns. The lifecycle
calls either change nothing or leave the adapter at rest, an activation starts
with nothing waiting, and a submission to an active adapter keeps the session and
admits only a pair that waited in it.
-/

namespace AyyoHumanoid
namespace Camera

open PyText JsonText World Perception Checks

variable {kind : CameraKind}

section Calls

/-- A call, with the registry as it is at the call. -/
inductive CameraCall (kind : CameraKind) where
  | configure (registry : SourceRegistry kind) (sourceId : PyStr)
    (calibration : Option (Calibration kind))
  | activate
  | deactivate
  | cleanup
  | shutdown
  /-- `submit_image`, `submit_camera_info`. -/
  | submit (submission : Submission kind)

/-- What a call returns. -/
inductive CameraReply (kind : CameraKind) where
  /-- Nothing. -/
  | done
  /-- The session that was activated. -/
  | session (sessionId : kind.SessionId)
  /-- An admission, if there is one. -/
  | admission (admission : Option (Admission kind))

/-- One call. -/
def perform (p : Platform) (bounds : CameraBounds) (s : CameraState kind) :
    CameraCall kind → CameraState kind × Except CameraError (CameraReply kind)
  | .configure registry sourceId calibration =>
    let result := Camera.configure registry s sourceId calibration
    (result.1, (fun _ => .done) <$> result.2)
  | .activate =>
    let result := Camera.activate p s
    (result.1, .session <$> result.2)
  | .deactivate =>
    let result := Camera.deactivate s
    (result.1, (fun _ => .done) <$> result.2)
  | .cleanup =>
    let result := Camera.cleanup s
    (result.1, (fun _ => .done) <$> result.2)
  | .shutdown => (Camera.shutdown s, .ok .done)
  | .submit submission =>
    let result := Camera.submit bounds s submission
    (result.1, .admission <$> result.2)

end Calls

section Waiting

/-- Every submission that waits under a time has the property of its kind. -/
structure Waits (P : Nat → ImageMetadata kind → Prop) (Q : Nat → InfoMetadata kind → Prop)
    (s : CameraState kind) : Prop where
  images : ∀ time image, s.pendingImages.items.get? time = some image → P time image
  infos : ∀ time info, s.pendingCameraInfo.items.get? time = some info → Q time info

/-- Nothing waits. -/
def Idle (s : CameraState kind) : Prop := s.pendingImages = .empty ∧ s.pendingCameraInfo = .empty

/-- Where nothing waits everything that waits has every property. -/
theorem Idle.waits {P : Nat → ImageMetadata kind → Prop} {Q : Nat → InfoMetadata kind → Prop}
    {s : CameraState kind} (h : Idle s) : Waits P Q s := by
  constructor
  · intro time image hfound
    rw [h.1] at hfound
    cases hfound
  · intro time info hfound
    rw [h.2] at hfound
    cases hfound

/-- Two states of one session: all but the waiting submissions, the time accepted last, the counts
and the diagnostics are the same. -/
structure SameSession (s t : CameraState kind) : Prop where
  /-- The lifecycle state. -/
  state : t.state = s.state
  source : t.source = s.source
  calibration : t.calibration = s.calibration
  /-- The session identity. -/
  sessionId : t.sessionId = s.sessionId
  epoch : t.epoch = s.epoch

/-- Two states that differ in counts and diagnostics only. -/
structure Unchanged (s t : CameraState kind) : Prop extends SameSession s t where
  /-- The images that wait. -/
  images : t.pendingImages = s.pendingImages
  /-- The CameraInfo that wait. -/
  infos : t.pendingCameraInfo = s.pendingCameraInfo
  /-- The time accepted last. -/
  last : t.lastAcceptedAtNs = s.lastAcceptedAtNs

variable {s t u : CameraState kind} {P : Nat → ImageMetadata kind → Prop}
  {Q : Nat → InfoMetadata kind → Prop}

/-- A state is in its own session. -/
theorem SameSession.refl (s : CameraState kind) : SameSession s s := ⟨rfl, rfl, rfl, rfl, rfl⟩

/-- A state is unchanged from itself. -/
theorem Unchanged.refl (s : CameraState kind) : Unchanged s s :=
  ⟨.refl s, rfl, rfl, rfl⟩

/-- A rejection changes counts and diagnostics only. -/
theorem unchanged_reject (event : DiagnosticEvent) (availability : SensorAvailability)
    (observedAtNs : Nat) (bounded : observedAtNs ≤ maxObservationTimeNs) :
    Unchanged s (s.reject event availability observedAtNs bounded) :=
  ⟨⟨rfl, rfl, rfl, rfl, rfl⟩, rfl, rfl, rfl⟩

/-- A rejected submission changes counts and diagnostics only. -/
theorem unchanged_rejectAt (event : DiagnosticEvent) (availability : SensorAvailability)
    (value : Metadata kind) : Unchanged s (s.rejectAt event availability value) :=
  unchanged_reject event availability _ _

/-- A repeated submission changes counts and diagnostics only. -/
theorem unchanged_repeated (value : Metadata kind) :
    Unchanged s (s.countDuplicate.repeated value) ∧ Unchanged s (s.countRejected.repeated value) :=
  ⟨⟨⟨rfl, rfl, rfl, rfl, rfl⟩, rfl, rfl, rfl⟩, ⟨⟨rfl, rfl, rfl, rfl, rfl⟩, rfl, rfl, rfl⟩⟩

/-- A submission under a time that is taken changes counts and diagnostics only. -/
theorem unchanged_settleRepeated {α : Type} [DecidableEq α] (value : Metadata kind)
    (existing offered : α) : Unchanged s (settleRepeated s value existing offered) := by
  rw [settleRepeated]
  split_ifs
  · exact (unchanged_repeated value).1
  · exact (unchanged_repeated value).2

/-- What waits in an unchanged state has the same properties. -/
theorem Unchanged.waits (h : Unchanged s t) (hwaits : Waits P Q s) : Waits P Q t := by
  constructor
  · rw [h.images]
    exact hwaits.images
  · rw [h.infos]
    exact hwaits.infos

end Waiting

section Outcomes

/-- What a submission to an active adapter leads to. -/
structure Settles (P : Nat → ImageMetadata kind → Prop) (Q : Nat → InfoMetadata kind → Prop)
    (Made : ImageMetadata kind → InfoMetadata kind → Admission kind → Prop) (s : CameraState kind)
    (outcome : CameraState kind × Except CameraError (Option (Admission kind))) : Prop where
  /-- The session stays. -/
  same : SameSession s outcome.1
  /-- What waits has the properties. -/
  waits : Waits P Q outcome.1
  /-- The time accepted last does not get earlier. -/
  later : ∀ last ∈ s.lastAcceptedAtNs, ∃ next ∈ outcome.1.lastAcceptedAtNs, last ≤ next
  /-- An admission is made of a pair of one time, later than the time accepted last. -/
  admitted : ∀ admission, outcome.2 = .ok (some admission) →
    ∃ time image info, P time image ∧ Q time info ∧ Made image info admission ∧
      outcome.1.lastAcceptedAtNs = some time ∧ ∀ last ∈ s.lastAcceptedAtNs, last < time

variable {s t : CameraState kind} {P : Nat → ImageMetadata kind → Prop}
  {Q : Nat → InfoMetadata kind → Prop}
  {Made : ImageMetadata kind → InfoMetadata kind → Admission kind → Prop}

/-- A call that admits nothing and changes counts and diagnostics only. -/
theorem settles_unchanged (h : Unchanged s t) (hwaits : Waits P Q s)
    {reply : Except CameraError (Option (Admission kind))}
    (hquiet : ∀ admission, reply ≠ .ok (some admission)) : Settles P Q Made s (t, reply) where
  same := h.toSameSession
  waits := h.waits hwaits
  later := by
    intro last hlast
    rw [h.last]
    exact ⟨last, hlast, le_rfl⟩
  admitted := fun admission hadmission => absurd hadmission (hquiet admission)

/-- No admission. -/
theorem quiet_none : ∀ admission : Admission kind,
    (.ok none : Except CameraError (Option (Admission kind))) ≠ .ok (some admission) :=
  fun _ h => nomatch h

/-- An exception is no admission. -/
theorem quiet_error (error : CameraError) : ∀ admission : Admission kind,
    (.error error : Except CameraError (Option (Admission kind))) ≠ .ok (some admission) :=
  fun _ h => nomatch h

/-- What an admission is made of: the frame is built of the pair, and what the constructors check
was checked. -/
structure MadeOf (source : SourceManifest kind) (configured : Calibration kind)
    (sessionId : kind.SessionId) (image : ImageMetadata kind) (info : InfoMetadata kind)
    (admission : Admission kind) : Prop where
  /-- The image has the dimensions of the CameraInfo. -/
  dimensions : SameDimensions image info.calibration.calibration
  /-- The frame is built of the image. -/
  frame : buildFrame source sessionId configured image info.calibration.calibration =
    .ok admission.frame
  /-- The health fact is of the source, at the time of the image. -/
  health : healthOf source admission.diagnostics image.toMetadata = .ok admission.health
  requirement : admission.requirement = source.requirement
  /-- The session is the one given. -/
  session : admission.sessionId = sessionId
  sealed : SealMatches admission.frame admission.health admission.requirement
    admission.sessionId admission.diagnostics
  /-- It was issued while active. -/
  active : admission.diagnostics.lifecycleState = .active

/-- What follows the pairing of two submissions. -/
theorem pair_spec {source : SourceManifest kind} {configured : Calibration kind}
    {sessionId : kind.SessionId} (hactive : s.state = .active) (hsource : s.source = some source)
    (hcalibration : s.calibration = some configured) (hsession : s.sessionId = some sessionId)
    (image : ImageMetadata kind) (info : InfoMetadata kind) :
    SameSession s (pair s image info).1 ∧
      (pair s image info).1.pendingImages = s.pendingImages ∧
      (pair s image info).1.pendingCameraInfo = s.pendingCameraInfo ∧
      ((pair s image info).1.lastAcceptedAtNs = s.lastAcceptedAtNs ∧
          (∀ admission, (pair s image info).2 ≠ .ok (some admission)) ∨
        (pair s image info).1.lastAcceptedAtNs = some image.observedAtNs ∧
          ∀ admission, (pair s image info).2 = .ok (some admission) →
            MadeOf source configured sessionId image info admission) := by
  rw [pair, hsource, hcalibration, hsession]
  simp only
  by_cases hdimensions : image.width ≠ info.calibration.calibration.width ∨
      image.height ≠ info.calibration.calibration.height
  · rw [if_pos hdimensions]
    exact ⟨(unchanged_rejectAt _ _ _).toSameSession, rfl, rfl, Or.inl ⟨rfl, quiet_none⟩⟩
  · rw [if_neg hdimensions]
    cases hframe : buildFrame source sessionId configured image info.calibration.calibration with
    | error error => exact ⟨.refl s, rfl, rfl, Or.inl ⟨rfl, quiet_error error⟩⟩
    | ok frame =>
      refine ⟨⟨rfl, rfl, rfl, rfl, rfl⟩, rfl, rfl, Or.inr ⟨rfl, ?_⟩⟩
      intro admission hadmission
      simp only [bind_ok] at hadmission
      obtain ⟨health, hhealth, sealed, hsealed, hsame⟩ := hadmission
      have hsame := Option.some.inj (Except.ok.inj hsame)
      rw [issueAdmission, require_bind_ok] at hsealed
      obtain ⟨hmatches, hissued⟩ := hsealed
      have hissued := Except.ok.inj hissued
      rw [not_or, not_not, not_not] at hdimensions
      rw [← hsame, ← hissued]
      exact ⟨hdimensions, hframe, hhealth, rfl, rfl, hmatches, hactive⟩

end Outcomes

end Camera
end AyyoHumanoid
