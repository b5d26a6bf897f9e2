import AyyoHumanoid.CameraSettling
import AyyoHumanoid.SemanticIdentities

/-!
# Sessions of the camera adapters

Over every run of calls, in any order and with any that fail, a camera adapter
admits only pairs of one image and one CameraInfo that were submitted in the
session they are admitted in, of one acquisition time, while it is active. The
times admitted in a session increase, no two sessions have one identity unless a
digest collides or the epochs are used up, and nothing waits outside a session.
-/

namespace AyyoHumanoid
namespace Camera

open PyText JsonText World Perception Checks

variable {kind : CameraKind} {p : Platform} {bounds : CameraBounds} {s : CameraState kind}

section Frames

/-- The acquisition time of a frame. -/
def frameTime : {kind : CameraKind} → kind.Frame → Nat
  | .physical, frame => VisualFrameObservation.observedAtNs frame
  | .depth, frame => DepthFrameObservation.observedAtNs frame

/-- A frame is acquired when its image is. -/
theorem frameTime_of_build {source : SourceManifest kind} {sessionId : kind.SessionId}
    {configured : Calibration kind} {image : ImageMetadata kind} {calibration : CameraCalibration}
    {frame : kind.Frame}
    (h : buildFrame source sessionId configured image calibration = .ok frame) :
    frameTime frame = image.observedAtNs := by
  cases kind with
  | physical => exact (visualFrame_fields h).2.2.2.2.1
  | depth => exact (depthFrame_fields h).2.2.1

end Frames

section Sessions

/-- What an activation starts. -/
structure Activation (kind : CameraKind) where
  source : SourceManifest kind
  calibration : Calibration kind
  epoch : Count
  /-- The session identity. -/
  sessionId : kind.SessionId

/-- What a call returns or raises. -/
abbrev CameraOutcome (kind : CameraKind) : Type := Except CameraError (CameraReply kind)

/-- A call, the state it was made in, and its outcome. -/
abbrev CameraStep (kind : CameraKind) : Type :=
  SessionLogs.Step (CameraState kind) (CameraCall kind) (CameraOutcome kind)

/-- The image that a call submitted. -/
def submittedImage? (step : CameraStep kind) : Option (ImageMetadata kind) :=
  match step.call with
  | .submit submission => submission.image?
  | _ => none

/-- The CameraInfo that a call submitted. -/
def submittedInfo? (step : CameraStep kind) : Option (InfoMetadata kind) :=
  match step.call with
  | .submit submission => submission.info?
  | _ => none

/-- What a call in a state started. -/
def started? (s : CameraState kind) (call : CameraCall kind) (outcome : CameraOutcome kind) :
    Option (Activation kind) :=
  match call, outcome, s.source, s.calibration with
  | .activate, .ok (.session sessionId), some source, some calibration =>
    some ⟨source, calibration, s.epoch.increment, sessionId⟩
  | _, _, _, _ => none

/-- What an outcome admits. -/
def admitted? (outcome : CameraOutcome kind) : Option (Admission kind) :=
  match outcome with
  | .ok (.admission admission) => admission
  | _ => none

/-- An adapter as a component with sessions. -/
def component (kind : CameraKind) (p : Platform) (bounds : CameraBounds) :
    SessionLogs.Component (CameraState kind) (CameraCall kind) (CameraOutcome kind)
      (Activation kind) (Admission kind) where
  initial := .initial kind
  perform := perform p bounds
  Running := fun s => s.state = .active
  started := started?
  admitted := admitted?
  time := fun admission => frameTime admission.frame
  last := fun s => s.lastAcceptedAtNs

/-- An image that may wait under a time in a session. -/
def ImageOf (activation : Activation kind) (steps : List (CameraStep kind)) (time : Nat)
    (image : ImageMetadata kind) : Prop :=
  image.observedAtNs = time ∧ image.sessionId = activation.sessionId ∧
    image ∈ steps.filterMap submittedImage?

/-- A CameraInfo that may wait under a time in a session. -/
def InfoOf (activation : Activation kind) (steps : List (CameraStep kind)) (time : Nat)
    (info : InfoMetadata kind) : Prop :=
  info.observedAtNs = time ∧ info.sessionId = activation.sessionId ∧
    info.calibration = activation.calibration ∧ info ∈ steps.filterMap submittedInfo?

/-- The adapter stands in a session after the given calls of it. -/
structure InSession (activation : Activation kind) (steps : List (CameraStep kind))
    (s : CameraState kind) : Prop where
  state : s.state = .active
  source : s.source = some activation.source
  calibration : s.calibration = some activation.calibration
  /-- It has the session identity of the activation. -/
  sessionId : s.sessionId = some activation.sessionId
  /-- What waits was submitted in the session. -/
  waits : Waits (ImageOf activation steps) (InfoOf activation steps) s

/-- An admission of one image and one CameraInfo that were submitted in the session by then. -/
def SoundAdmission (activation : Activation kind) (steps : List (CameraStep kind))
    (admission : Admission kind) : Prop :=
  ∃ image info, ImageOf activation steps (frameTime admission.frame) image ∧
    InfoOf activation steps (frameTime admission.frame) info ∧
    MadeOf activation.source activation.calibration activation.sessionId image info admission

/-- What holds of every state: nothing waits and no session is named outside a session, a session
has all it needs, and what waits stands under its own time. -/
structure Coherent (s : CameraState kind) : Prop where
  /-- Outside a session. -/
  resting : s.state ≠ .active → Idle s ∧ s.sessionId = none
  /-- In a session. -/
  complete : s.state = .active → s.source.isSome = true ∧ s.calibration.isSome = true ∧
    s.sessionId.isSome = true
  /-- What waits stands under its own time. -/
  stamped : Waits (fun time image => image.observedAtNs = time)
    (fun time info => info.observedAtNs = time) s

/-- The activation was counted, and named its session. -/
def Counted (p : Platform) (activation : Activation kind) (s : CameraState kind) : Prop :=
  activation.epoch.value ≤ s.epoch.value ∧
    activation.sessionId = sessionIdOf p activation.source.manifestId activation.epoch

/-- The epochs of two activations: they increase until they are used up. -/
def Precedes (earlier later : Activation kind) : Prop :=
  earlier.epoch.value < later.epoch.value ∨ earlier.epoch.value = maxCameraCount

end Sessions

section Lifecycle

/-- A state outside a session. -/
structure AtRest (s : CameraState kind) : Prop where
  /-- It is not active. -/
  state : s.state ≠ .active
  /-- Nothing waits. -/
  idle : Idle s
  /-- No session is named. -/
  sessionId : s.sessionId = none

/-- A state outside a session is coherent. -/
theorem AtRest.coherent (h : AtRest s) : Coherent s :=
  ⟨fun _ => ⟨h.idle, h.sessionId⟩, fun hactive => absurd hactive h.state, h.idle.waits⟩

/-- `configure` changes nothing or leaves the adapter outside a session; it keeps the epoch. -/
theorem configure_spec (h : Coherent s) (registry : SourceRegistry kind) (sourceId : PyStr)
    (calibration : Option (Calibration kind)) :
    ((configure registry s sourceId calibration).1 = s ∨
        AtRest (configure registry s sourceId calibration).1) ∧
      (configure registry s sourceId calibration).1.epoch = s.epoch := by
  have hinactive : ¬LifecycleState.inactive = .active := fun h => by cases h
  cases kind with
  | physical =>
    rw [configure, configurePhysical]
    by_cases hstate : ¬(s.state = .unconfigured ∨ s.state = .inactive)
    · rw [if_pos hstate]
      exact ⟨Or.inl rfl, rfl⟩
    · rw [if_neg hstate]
      have hresting : s.state ≠ .active := by
        intro hactive
        rw [hactive] at hstate
        exact hstate fun h => h.elim (fun h => by cases h) fun h => by cases h
      cases registry.resolve sourceId with
      | error error => exact ⟨Or.inl rfl, rfl⟩
      | ok source =>
        cases calibration with
        | none => exact ⟨Or.inr ⟨hinactive, (h.resting hresting).1, rfl⟩, rfl⟩
        | some calibration =>
          by_cases hmatches : ¬calibration.Matches source
          · simp only [if_pos hmatches]
            exact ⟨Or.inl trivial, trivial⟩
          · simp only [if_neg hmatches]
            exact ⟨Or.inr ⟨hinactive, ⟨rfl, rfl⟩, rfl⟩, rfl⟩
  | depth =>
    rw [configure, configureDepth]
    by_cases hstate : ¬(s.state = .unconfigured ∨ s.state = .inactive)
    · rw [if_pos hstate]
      exact ⟨Or.inl rfl, rfl⟩
    · rw [if_neg hstate]
      have hresting : s.state ≠ .active := by
        intro hactive
        rw [hactive] at hstate
        exact hstate fun h => h.elim (fun h => by cases h) fun h => by cases h
      cases registry.resolve sourceId with
      | error error => exact ⟨Or.inl rfl, rfl⟩
      | ok source =>
        cases calibration with
        | none => exact ⟨Or.inr ⟨hinactive, ⟨rfl, rfl⟩, rfl⟩, rfl⟩
        | some calibration =>
          by_cases hmatches : ¬calibration.Matches source
          · simp only [if_pos hmatches]
            exact ⟨Or.inr ⟨hresting, ⟨rfl, rfl⟩, rfl⟩, rfl⟩
          · simp only [if_neg hmatches]
            exact ⟨Or.inr ⟨hinactive, ⟨rfl, rfl⟩, rfl⟩, rfl⟩

/-- `deactivate` changes nothing or leaves the adapter outside a session; it keeps the epoch. -/
theorem deactivate_spec : ((deactivate s).1 = s ∨ AtRest (deactivate s).1) ∧
    (deactivate s).1.epoch = s.epoch := by
  rw [deactivate]
  split_ifs
  · exact ⟨Or.inl rfl, rfl⟩
  · exact ⟨Or.inr ⟨(fun h => by cases h), ⟨rfl, rfl⟩, rfl⟩, rfl⟩

/-- `cleanup` changes nothing or leaves the adapter outside a session; it keeps the epoch. -/
theorem cleanup_spec : ((cleanup s).1 = s ∨ AtRest (cleanup s).1) ∧
    (cleanup s).1.epoch = s.epoch := by
  rw [cleanup]
  split_ifs
  · exact ⟨Or.inl rfl, rfl⟩
  · exact ⟨Or.inl rfl, rfl⟩
  · exact ⟨Or.inr ⟨(fun h => by cases h), ⟨rfl, rfl⟩, rfl⟩, rfl⟩

/-- `shutdown` leaves the adapter outside a session and keeps the epoch. -/
theorem shutdown_spec : AtRest (shutdown s) ∧ (shutdown s).epoch = s.epoch :=
  ⟨⟨(fun h => by cases h), ⟨rfl, rfl⟩, rfl⟩, rfl⟩

/-- `activate` is refused and changes nothing, or starts the session of the next epoch with
nothing waiting. -/
theorem activate_spec (p : Platform) (s : CameraState kind) :
    ((activate p s).1 = s ∧ ∃ error, (activate p s).2 = .error error) ∨
      ∃ source calibration, s.source = some source ∧ s.calibration = some calibration ∧
        (activate p s).2 = .ok (sessionIdOf p source.manifestId s.epoch.increment) ∧
        (activate p s).1.epoch = s.epoch.increment ∧
        ∀ steps, InSession ⟨source, calibration, s.epoch.increment,
          sessionIdOf p source.manifestId s.epoch.increment⟩ steps (activate p s).1 := by
  rw [activate]
  by_cases hstate : s.state ≠ .inactive
  · rw [if_pos hstate]
    exact Or.inl ⟨rfl, _, rfl⟩
  · rw [if_neg hstate]
    cases hsource : s.source with
    | none => exact Or.inl ⟨rfl, _, rfl⟩
    | some source =>
      cases hcalibration : s.calibration with
      | none => exact Or.inl ⟨rfl, _, rfl⟩
      | some calibration =>
        refine Or.inr ⟨source, calibration, rfl, rfl, rfl, rfl, fun steps => ?_⟩
        exact ⟨rfl, rfl, rfl, rfl, Idle.waits ⟨rfl, rfl⟩⟩

end Lifecycle

section Runs

variable {activation : Activation kind} {steps : List (CameraStep kind)} {call : CameraCall kind}

/-- What was submitted before stays submitted. -/
theorem waits_extend (step : CameraStep kind)
    (h : Waits (ImageOf activation steps) (InfoOf activation steps) s) :
    Waits (ImageOf activation (steps ++ [step])) (InfoOf activation (steps ++ [step])) s := by
  constructor
  · intro time image hfound
    obtain ⟨htime, hown, hmem⟩ := h.images time image hfound
    rw [ImageOf, List.filterMap_append]
    exact ⟨htime, hown, List.mem_append_left _ hmem⟩
  · intro time info hfound
    obtain ⟨htime, hown, hcalibrated, hmem⟩ := h.infos time info hfound
    rw [InfoOf, List.filterMap_append]
    exact ⟨htime, hown, hcalibrated, List.mem_append_left _ hmem⟩

/-- An adapter that a call leaves alone stays in its session. -/
theorem InSession.extend (h : InSession activation steps s) (step : CameraStep kind) :
    InSession activation (steps ++ [step]) s :=
  ⟨h.state, h.source, h.calibration, h.sessionId, waits_extend step h.waits⟩

/-- The effect of a call that starts and admits nothing and leaves the adapter alone or at rest. -/
theorem effect_quiet (hunstarted : started? s call (perform p bounds s call).2 = none)
    (hquiet : admitted? (perform p bounds s call).2 = none)
    (hspec : (perform p bounds s call).1 = s ∨ AtRest (perform p bounds s call).1) :
    (component kind p bounds).Effect InSession SoundAdmission s call := by
  cases hspec with
  | inr hrest => exact .rests hunstarted hquiet hrest.state
  | inl hsame =>
    by_cases hactive : s.state = .active
    · apply SessionLogs.Component.Effect.stays hunstarted hquiet hactive
      · intro activation steps hinside
        have hextended := hinside.extend ⟨s, call, (perform p bounds s call).2⟩
        exact hsame.symm ▸ hextended
      · intro time htime
        have hkept : time ∈ (perform p bounds s call).1.lastAcceptedAtNs := by
          rw [hsame]
          exact htime
        exact ⟨time, hkept, Nat.le_refl _⟩
    · apply SessionLogs.Component.Effect.rests hunstarted hquiet
      intro hrunning
      have hrunning : (perform p bounds s call).1.state = .active := hrunning
      rw [hsame] at hrunning
      exact hactive hrunning

/-- A call that returns nothing admits nothing. -/
theorem admitted_done {α : Type} (outcome : Except CameraError α) :
    admitted? ((fun _ => (.done : CameraReply kind)) <$> outcome) = none := by
  cases outcome with
  | error error => rfl
  | ok value => rfl

/-- Submissions to an adapter that is not active are counted and refused. -/
theorem submit_inactive (h : s.state ≠ .active) (x : Submission kind) :
    submit bounds s x = (s.reject .lifecycleInactive .unavailable 0 (Nat.zero_le _), .ok none) := by
  cases x with
  | image image nowNs => rw [submit, submitImage, validateCommon, if_pos h]
  | cameraInfo info nowNs => rw [submit, submitCameraInfo, validateCommon, if_pos h]

/-- The outcome of a submission admits what the submission admitted. -/
theorem admitted_submission {outcome : Except CameraError (Option (Admission kind))}
    {admission : Admission kind} :
    admitted? (CameraReply.admission <$> outcome) = some admission ↔
      outcome = .ok (some admission) := by
  cases outcome with
  | error error => exact ⟨(fun h => by cases h), (fun h => by cases h)⟩
  | ok reply => exact ⟨fun h => congrArg Except.ok h, fun h => Except.ok.inj h⟩

/-- What an activation of a configured adapter starts. -/
theorem started_session {source : SourceManifest kind} {calibration : Calibration kind}
    (hsource : s.source = some source) (hcalibration : s.calibration = some calibration)
    (sessionId : kind.SessionId) : started? s .activate (.ok (.session sessionId)) =
      some ⟨source, calibration, s.epoch.increment, sessionId⟩ := by
  simp only [started?, hsource, hcalibration]

/-- What settles in a session is sound there. -/
theorem InSession.submit (h : InSession activation steps s) (x : Submission kind) :
    Settles (ImageOf activation (steps ++ [⟨s, .submit x, (perform p bounds s (.submit x)).2⟩]))
      (InfoOf activation (steps ++ [⟨s, .submit x, (perform p bounds s (.submit x)).2⟩]))
      (MadeOf activation.source activation.calibration activation.sessionId) s
      (submit bounds s x) := by
  apply submit_spec h.state h.source h.calibration h.sessionId (waits_extend _ h.waits) x
  · intro image himage hown
    refine ⟨rfl, hown, ?_⟩
    rw [List.filterMap_append]
    exact List.mem_append_right _ (List.mem_filterMap.mpr ⟨_, List.mem_singleton_self _, himage⟩)
  · intro info hinfo hown hcalibrated
    refine ⟨rfl, hown, hcalibrated, ?_⟩
    rw [List.filterMap_append]
    exact List.mem_append_right _ (List.mem_filterMap.mpr ⟨_, List.mem_singleton_self _, hinfo⟩)
  · exact fun time image himage => himage.1

/-- A submission to an active adapter settles, whatever session it is in. -/
theorem Coherent.submit (h : Coherent s) (hactive : s.state = .active) (x : Submission kind) :
    ∃ source configured sessionId, s.source = some source ∧
      Settles (fun time image => image.observedAtNs = time)
        (fun time info => info.observedAtNs = time) (MadeOf source configured sessionId) s
        (Camera.submit bounds s x) := by
  obtain ⟨hsource, hcalibration, hsession⟩ := h.complete hactive
  obtain ⟨source, hsource⟩ := Option.isSome_iff_exists.mp hsource
  obtain ⟨configured, hcalibration⟩ := Option.isSome_iff_exists.mp hcalibration
  obtain ⟨sessionId, hsession⟩ := Option.isSome_iff_exists.mp hsession
  refine ⟨source, configured, sessionId, hsource, ?_⟩
  exact submit_spec hactive hsource hcalibration hsession h.stamped x (fun _ _ _ => rfl)
    (fun _ _ _ _ => rfl) fun _ _ hstamp => hstamp

/-- The effect of a submission to an active adapter. -/
theorem effect_submit (h : Coherent s) (hactive : s.state = .active) (x : Submission kind) :
    (component kind p bounds).Effect InSession SoundAdmission s (.submit x) := by
  obtain ⟨source, configured, sessionId, hsource, hsettles⟩ := @Coherent.submit kind bounds s h
    hactive x
  have hstays : ∀ activation steps, InSession activation steps s → InSession activation
      (steps ++ [⟨s, .submit x, (perform p bounds s (.submit x)).2⟩])
      (perform p bounds s (.submit x)).1 := by
    intro activation steps hinside
    have hsettled := @InSession.submit kind p bounds s activation steps hinside x
    have hsame := hsettled.same
    exact ⟨hsame.state.trans hinside.state, hsame.source.trans hinside.source,
      hsame.calibration.trans hinside.calibration, hsame.sessionId.trans hinside.sessionId,
      hsettled.waits⟩
  cases hadmitted : admitted? (perform p bounds s (.submit x)).2 with
  | none => exact .stays rfl hadmitted hactive hstays hsettles.later
  | some admission =>
    have houtcome := admitted_submission.mp hadmitted
    obtain ⟨time, image, info, hstamp, -, hmade, hlast, hlater⟩ :=
      hsettles.admitted admission houtcome
    have htime : frameTime admission.frame = time := (frameTime_of_build hmade.frame).trans hstamp
    apply SessionLogs.Component.Effect.admits admission rfl hadmitted hactive
    · intro activation steps hinside
      refine ⟨hstays activation steps hinside, ?_⟩
      have hsettled := @InSession.submit kind p bounds s activation steps hinside x
      obtain ⟨time, image, info, himage, hinfo, hmade, -, -⟩ :=
        hsettled.admitted admission houtcome
      have htime : frameTime admission.frame = time :=
        (frameTime_of_build hmade.frame).trans himage.1
      rw [← htime] at himage hinfo
      exact ⟨image, info, himage, hinfo, hmade⟩
    · intro last haccepted
      have hbefore := hlater last haccepted
      rw [← htime] at hbefore
      exact hbefore
    · rw [← htime] at hlast
      exact hlast

/-- Every call has one of the effects. -/
theorem effect_perform (h : Coherent s) (call : CameraCall kind) :
    (component kind p bounds).Effect InSession SoundAdmission s call := by
  cases call with
  | configure registry sourceId calibration =>
    exact effect_quiet rfl (admitted_done _) (configure_spec h registry sourceId calibration).1
  | deactivate => exact effect_quiet rfl (admitted_done _) deactivate_spec.1
  | cleanup => exact effect_quiet rfl (admitted_done _) cleanup_spec.1
  | shutdown => exact effect_quiet rfl rfl (Or.inr shutdown_spec.1)
  | activate =>
    have hquiet : admitted? (CameraReply.session <$> (activate p s).2) = none := by
      cases (activate p s).2 with
      | error error => rfl
      | ok sessionId => rfl
    cases activate_spec p s with
    | inl hrefused =>
      obtain ⟨hsame, error, herror⟩ := hrefused
      have hunstarted : started? s .activate (CameraReply.session <$> (activate p s).2) = none := by
        rw [herror]
        rfl
      exact effect_quiet hunstarted hquiet (Or.inl hsame)
    | inr hstarted =>
      obtain ⟨source, calibration, hsource, hcalibration, hreply, -, hinside⟩ := hstarted
      have hstarted : started? s .activate (CameraReply.session <$> (activate p s).2) =
          some ⟨source, calibration, s.epoch.increment,
            sessionIdOf p source.manifestId s.epoch.increment⟩ := by
        rw [hreply]
        exact started_session hsource hcalibration _
      exact .starts _ hstarted hquiet (hinside [])
  | submit x =>
    by_cases hactive : s.state = .active
    · exact effect_submit h hactive x
    · have hrun := @submit_inactive kind bounds s hactive x
      have hrest : ¬(perform p bounds s (.submit x)).1.state = .active := by
        rw [perform, hrun]
        exact hactive
      have hquiet : admitted? (perform p bounds s (.submit x)).2 = none := by
        rw [perform, hrun]
        rfl
      exact .rests rfl hquiet hrest

/-- A state that a call leaves alone or at rest is coherent. -/
theorem Coherent.of_spec (h : Coherent s) {t : CameraState kind} (hspec : t = s ∨ AtRest t) :
    Coherent t := by
  cases hspec with
  | inl hsame =>
    rw [hsame]
    exact h
  | inr hrest => exact hrest.coherent

/-- Every call keeps the states coherent. -/
theorem Coherent.perform (h : Coherent s) (call : CameraCall kind) :
    Coherent (perform p bounds s call).1 := by
  cases call with
  | configure registry sourceId calibration =>
    exact h.of_spec (configure_spec h registry sourceId calibration).1
  | deactivate => exact h.of_spec deactivate_spec.1
  | cleanup => exact h.of_spec cleanup_spec.1
  | shutdown => exact h.of_spec (Or.inr shutdown_spec.1)
  | activate =>
    cases activate_spec p s with
    | inl hrefused => exact h.of_spec (Or.inl hrefused.1)
    | inr hstarted =>
      obtain ⟨source, calibration, -, -, -, -, hinside⟩ := hstarted
      have hinside := hinside []
      have hwaits : Waits (fun time image => image.observedAtNs = time)
          (fun time info => info.observedAtNs = time) (activate p s).1 :=
        ⟨fun time image hfound => (hinside.waits.images time image hfound).1,
          fun time info hfound => (hinside.waits.infos time info hfound).1⟩
      refine ⟨fun hresting => absurd hinside.state hresting, fun _ => ?_, hwaits⟩
      rw [Camera.perform, hinside.source, hinside.calibration, hinside.sessionId]
      exact ⟨rfl, rfl, rfl⟩
  | submit x =>
    by_cases hactive : s.state = .active
    · obtain ⟨source, configured, sessionId, -, hsettles⟩ := @Coherent.submit kind bounds s h
        hactive x
      have hsame := hsettles.same
      refine ⟨fun hresting => absurd (hsame.state.trans hactive) hresting, fun _ => ?_,
        hsettles.waits⟩
      rw [Camera.perform, hsame.source, hsame.calibration, hsame.sessionId]
      exact h.complete hactive
    · have hrun := @submit_inactive kind bounds s hactive x
      rw [Camera.perform, hrun]
      exact ⟨h.resting, fun hrunning => absurd hrunning hactive, ⟨h.stamped.images, h.stamped.infos⟩⟩

/-- The epoch after a call: the next one after an activation, else the same. -/
theorem epoch_perform (h : Coherent s) (call : CameraCall kind) :
    (perform p bounds s call).1.epoch = s.epoch ∨
      (perform p bounds s call).1.epoch = s.epoch.increment := by
  cases call with
  | configure registry sourceId calibration =>
    exact Or.inl (configure_spec h registry sourceId calibration).2
  | deactivate => exact Or.inl deactivate_spec.2
  | cleanup => exact Or.inl cleanup_spec.2
  | shutdown => exact Or.inl shutdown_spec.2
  | activate =>
    cases activate_spec p s with
    | inl hrefused => exact Or.inl (congrArg CameraState.epoch hrefused.1)
    | inr hstarted =>
      obtain ⟨source, calibration, -, -, -, hepoch, -⟩ := hstarted
      exact Or.inr hepoch
  | submit x =>
    by_cases hactive : s.state = .active
    · obtain ⟨source, configured, sessionId, -, hsettles⟩ := @Coherent.submit kind bounds s h
        hactive x
      exact Or.inl hsettles.same.epoch
    · have hrun := @submit_inactive kind bounds s hactive x
      rw [Camera.perform, hrun]
      exact Or.inl rfl

/-- What a call starts is the session of the next epoch. -/
theorem started_counted {activation : Activation kind}
    (h : started? s call (perform p bounds s call).2 = some activation) :
    activation.epoch = s.epoch.increment ∧
      activation.sessionId = sessionIdOf p activation.source.manifestId activation.epoch ∧
      (perform p bounds s call).1.epoch = s.epoch.increment := by
  cases call with
  | activate =>
    cases activate_spec p s with
    | inl hrefused =>
      obtain ⟨-, error, herror⟩ := hrefused
      rw [perform, herror] at h
      cases h
    | inr hstarted =>
      obtain ⟨source, calibration, hsource, hcalibration, hreply, hepoch, -⟩ := hstarted
      rw [perform, hreply] at h
      have hsame := h.symm.trans (started_session hsource hcalibration _)
      cases hsame
      exact ⟨rfl, rfl, hepoch⟩
  | configure registry sourceId calibration => cases h
  | deactivate => cases h
  | cleanup => cases h
  | shutdown => cases h
  | submit x => cases h

/-- The adapters are lawful components. -/
theorem component_lawful (kind : CameraKind) (p : Platform) (bounds : CameraBounds) :
    (component kind p bounds).Lawful Coherent InSession SoundAdmission (Counted p) Precedes where
  initial := (⟨(fun h => by cases h), ⟨rfl, rfl⟩, rfl⟩ : AtRest (.initial kind)).coherent
  resting := fun h => by cases h
  keeps := fun _ call h => h.perform call
  effect := fun _ call h => effect_perform h call
  covered := by
    intro s call activation h hcounted
    refine ⟨?_, hcounted.2⟩
    have hepoch := @epoch_perform kind p bounds s h call
    have hle := s.epoch.le
    have hbefore := hcounted.1
    have hnext := increment_value s.epoch
    have hafter : s.epoch.value ≤ ((component kind p bounds).perform s call).1.epoch.value := by
      cases hepoch with
      | inl hsame => exact Nat.le_of_eq (congrArg Count.value hsame).symm
      | inr hincrement =>
        have hvalue := congrArg Count.value hincrement
        rw [hnext] at hvalue
        have hvalue : ((component kind p bounds).perform s call).1.epoch.value =
          min (s.epoch.value + 1) maxCameraCount := hvalue
        omega
    omega
  fresh := by
    intro s call activation h hstarted
    obtain ⟨hepoch, hnamed, hafter⟩ := started_counted hstarted
    have hvalue := congrArg Count.value hafter
    refine ⟨⟨Nat.le_of_eq ?_, hnamed⟩, ?_⟩
    · rw [hepoch]
      exact hvalue.symm
    · intro earlier hcounted
      have hle := s.epoch.le
      have hbefore := hcounted.1
      rw [Precedes, hepoch, increment_value]
      omega

end Runs

section Names

/-- The text whose digest names the session of an activation. -/
def sessionText (activation : Activation kind) : PyStr :=
  encodeAscii (sessionDocument activation.source.manifestId activation.epoch)

/-- A session document is printable. -/
theorem printable_sessionDocument (manifestId : kind.SourceManifestId) (epoch : Count) :
    Printable (sessionDocument manifestId epoch) := by
  have hmanifest : manifestId.text.all isPrintable = true := by
    apply printable_tagged
    cases kind <;> decide
  have hschema : kind.sessionSchema.all isPrintable = true := by
    cases kind <;> decide
  apply printable_obj
  · simp only [List.map_cons, List.map_nil]
    decide
  · rw [List.forall_mem_cons, List.forall_mem_cons, List.forall_mem_singleton]
    exact ⟨printable_int _, printable_str hmanifest, printable_str hschema⟩

/-- An epoch has few digits. -/
theorem dumpable_epoch (epoch : Count) : (Json.int epoch.value).dumpable = true := by
  apply dumpable_int
  have hle := epoch.le
  rw [maxCameraCount] at hle
  omega

/-- A session document has distinct keys and values that can be written. -/
theorem dumpable_sessionDocument (manifestId : kind.SourceManifestId) (epoch : Count) :
    (sessionDocument manifestId epoch).dumpable = true := by
  rw [sessionDocument, dumpable_obj]
  constructor
  · simp only [List.map_cons, List.map_nil]
    decide
  · rw [List.forall_mem_cons, List.forall_mem_cons, List.forall_mem_singleton]
    exact ⟨dumpable_epoch epoch, rfl, rfl⟩

/-- The text that names a session determines its epoch. -/
theorem epoch_of_sessionText {first second : Activation kind}
    (h : sessionText first = sessionText second) : first.epoch.value = second.epoch.value := by
  rw [sessionText, sessionText, encodeAscii_eq (printable_sessionDocument _ _),
    encodeAscii_eq (printable_sessionDocument _ _)] at h
  have hvalue := encode_field (dumpable_sessionDocument _ _) (dumpable_sessionDocument _ _) h
    (py "epoch") List.mem_cons_self List.mem_cons_self
  have hepoch := encode_int_injective (dumpable_epoch _) (dumpable_epoch _) hvalue
  exact Int.ofNat.inj hepoch

/-- Activations with one session identity have one epoch, when the digest does not collide. -/
theorem epoch_of_sessionId {first second : Activation kind}
    (hfirst : first.sessionId = sessionIdOf p first.source.manifestId first.epoch)
    (hsecond : second.sessionId = sessionIdOf p second.source.manifestId second.epoch)
    (hfree : CollisionFree p [sessionText first, sessionText second])
    (h : first.sessionId = second.sessionId) : first.epoch.value = second.epoch.value := by
  rw [hfirst, hsecond] at h
  have hdigest := congrArg TaggedDigest.digest h
  exact epoch_of_sessionText
    (hfree.text_eq List.mem_cons_self (List.mem_cons_of_mem _ (List.mem_singleton_self _)) hdigest)

end Names

section Finality

/-- A finalized adapter stays finalized. -/
theorem finalized_perform (h : s.state = .finalized) (call : CameraCall kind) :
    (perform p bounds s call).1.state = .finalized := by
  have hinactive : s.state ≠ .active := by
    rw [h]
    exact fun h => by cases h
  have hunconfigurable : ¬(s.state = .unconfigured ∨ s.state = .inactive) := by
    rw [h]
    exact fun h => h.elim (fun h => by cases h) fun h => by cases h
  cases call with
  | configure registry sourceId calibration =>
    cases kind with
    | physical => rw [perform, configure, configurePhysical, if_pos hunconfigurable, h]
    | depth => rw [perform, configure, configureDepth, if_pos hunconfigurable, h]
  | activate =>
    have hrefused : s.state ≠ .inactive := fun hstate => hunconfigurable (Or.inr hstate)
    rw [perform, activate, if_pos hrefused, h]
  | deactivate => rw [perform, deactivate, if_pos hinactive, h]
  | cleanup => rw [perform, cleanup, if_neg hinactive, if_pos h, h]
  | shutdown => rfl
  | submit x =>
    rw [perform, @submit_inactive kind bounds s hinactive x]
    exact h

/-- A finalized adapter starts no session. -/
theorem finalized_started (h : s.state = .finalized) (call : CameraCall kind) :
    started? s call (perform p bounds s call).2 = none := by
  cases call with
  | activate =>
    have hrefused : s.state ≠ .inactive := by
      rw [h]
      exact fun h => by cases h
    rw [perform, activate, if_pos hrefused]
    rfl
  | configure registry sourceId calibration => rfl
  | deactivate => rfl
  | cleanup => rfl
  | shutdown => rfl
  | submit x => rfl

/-- After `shutdown` no call leaves the state, and no session starts. -/
theorem finalized_run {history : SessionLogs.History (CameraState kind) (CameraCall kind)
      (CameraOutcome kind) (Activation kind)} (h : history.state.state = .finalized)
    (calls : List (CameraCall kind)) :
    (calls.foldl (component kind p bounds).call history).state.state = .finalized ∧
      (calls.foldl (component kind p bounds).call history).sessions.map (·.start) =
        history.sessions.map (·.start) := by
  induction calls generalizing history with
  | nil => exact ⟨h, rfl⟩
  | cons call calls ih =>
    have hstep : ((component kind p bounds).call history call).state.state = .finalized :=
      finalized_perform h call
    have hunstarted := @finalized_started kind p bounds history.state h call
    have hstarts : ((component kind p bounds).call history call).sessions.map (·.start) =
        history.sessions.map (·.start) := by
      have hsessions : ((component kind p bounds).call history call).sessions =
          SessionLogs.extendLatest ⟨history.state, call, (perform p bounds history.state call).2⟩
            history.sessions :=
        congrArg (fun started => SessionLogs.recordStep started _ history.sessions) hunstarted
      rw [hsessions, SessionLogs.Component.starts_extendLatest]
    have hrest := ih hstep
    exact ⟨hrest.1, hrest.2.trans hstarts⟩

end Finality

section Results

/-- Over every run of calls, in any order and with any that fail: everything a session admits is
made of one image and one CameraInfo submitted in that session by then, while the adapter was
active, at increasing times; two sessions have different identities unless their texts collide or
the epochs are used up; nothing waits outside a session; and after `shutdown` nothing starts. -/
theorem camera_sessions_sound (kind : CameraKind) (p : Platform) (bounds : CameraBounds)
    (calls : List (CameraCall kind)) :
    (∀ session ∈ ((component kind p bounds).after calls).sessions,
        (component kind p bounds).Sound SoundAdmission session) ∧
      (((component kind p bounds).after calls).sessions.Pairwise fun later earlier =>
        earlier.start.epoch.value ≠ maxCameraCount →
          CollisionFree p [sessionText earlier.start, sessionText later.start] →
            earlier.start.sessionId ≠ later.start.sessionId) ∧
      (((component kind p bounds).after calls).state.state ≠ .active →
        Idle ((component kind p bounds).after calls).state ∧
          ((component kind p bounds).after calls).state.sessionId = none) ∧
      (((component kind p bounds).after calls).state.state = .finalized →
        ∀ more, ((component kind p bounds).after (calls ++ more)).state.state = .finalized ∧
          ((component kind p bounds).after (calls ++ more)).sessions.map (·.start) =
            ((component kind p bounds).after calls).sessions.map (·.start)) := by
  have hinvariant := SessionLogs.Component.invariant_after (component_lawful kind p bounds) calls
  refine ⟨hinvariant.sound, ?_, hinvariant.state.resting, ?_⟩
  · have hpairs := List.Pairwise.and_mem.mp hinvariant.ordered
    apply hpairs.imp
    intro later earlier hboth hleft hfree hsame
    have hlater := hinvariant.covered later hboth.1
    have hearlier := hinvariant.covered earlier hboth.2.1
    have hepoch := epoch_of_sessionId hearlier.2 hlater.2 hfree hsame
    cases hboth.2.2 with
    | inl hlt => omega
    | inr hused => exact hleft hused
  · intro hfinalized more
    rw [SessionLogs.Component.after, List.foldl_append]
    exact finalized_run hfinalized more

end Results

end Camera
end AyyoHumanoid
