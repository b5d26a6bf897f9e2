import AyyoHumanoid.RgbdSubmission

/-!
# Sessions of the RGB-D synchronizer

A session runs from an activation to the next one and records every call made
in it with its reply. Nothing of the record is stored by the synchronizer. The
record says which frames were submitted in the session and which pairs came out
of it, so that a pair can be compared with what the session was given.
-/

namespace AyyoHumanoid
namespace Rgbd

open PyText World

/-- A call and its reply. -/
structure FusionStep where
  call : FusionCall
  outcome : Except FusionError FusionReply

/-- The pair that a call returned. -/
def FusionStep.pair? (step : FusionStep) : Option FusedRgbdObservation :=
  match step.outcome with
  | .ok (.admission (some admission)) => some admission.observation
  | _ => none

/-- The colour frame that a call submitted. -/
def FusionStep.rgb? (step : FusionStep) : Option VisualFrameObservation :=
  match step.call with
  | .submitRgb frame _ => some frame
  | _ => none

/-- The depth frame that a call submitted. -/
def FusionStep.depth? (step : FusionStep) : Option DepthFrameObservation :=
  match step.call with
  | .submitDepth frame _ => some frame
  | _ => none

/-- What was configured at an activation, and the calls since. -/
structure Session where
  requirement : FusionRequirement
  /-- The depth session given. -/
  depthSessionId : PyStr
  /-- The calls and replies. -/
  steps : List FusionStep

/-- The pairs of a session, in the order they came out. -/
def Session.pairs (session : Session) : List FusedRgbdObservation :=
  session.steps.filterMap FusionStep.pair?

/-- The synchronizer and its sessions, the latest first. -/
structure History where
  /-- The state of the synchronizer. -/
  state : FusionState
  sessions : List Session

/-- A session with one more call. -/
def Session.extend (session : Session) (step : FusionStep) : Session :=
  { session with steps := session.steps ++ [step] }

/-- The session that an activation starts. -/
def FusionStep.started? (requirement : Option FusionRequirement) (step : FusionStep) :
    Option Session :=
  match step.call, step.outcome with
  | .activate depthSessionId, .ok _ => requirement.map fun chosen => ⟨chosen, depthSessionId, []⟩
  | _, _ => none

/-- The sessions after a call that starts none: it belongs to the latest. -/
def extendLatest (step : FusionStep) : List Session → List Session
  | [] => []
  | session :: earlier => session.extend step :: earlier

/-- The sessions after a call. -/
def recordStep (requirement : Option FusionRequirement) (step : FusionStep)
    (sessions : List Session) : List Session :=
  match step.started? requirement with
  | some session => session :: sessions
  | none => extendLatest step sessions

/-- One call. -/
def History.call (p : Platform) (bounds : FusionBounds) (history : History) (call : FusionCall) :
    History :=
  let result := perform p bounds history.state call
  ⟨result.1, recordStep history.state.requirement ⟨call, result.2⟩ history.sessions⟩

/-- A run of calls on a new synchronizer. -/
def History.after (p : Platform) (bounds : FusionBounds) (calls : List FusionCall) : History :=
  calls.foldl (History.call p bounds) ⟨.initial, []⟩

/-- A pair made in a session after the given calls of it. -/
structure SoundPair (session : Session) (submitted : List FusionStep)
    (pair : FusedRgbdObservation) : Prop where
  /-- The two frames were acquired at one time. -/
  time_eq : pair.rgbObservation.observedAtNs = pair.depthObservation.observedAtNs
  /-- The pair has the configured identities. -/
  fused : session.requirement.MatchesFused pair
  /-- The colour frame has the configured identities. -/
  rgb : session.requirement.MatchesRgb pair.rgbObservation
  /-- The depth frame has the configured identities. -/
  depth : session.requirement.MatchesDepth pair.depthObservation
  /-- The depth frame is of the depth session of the activation. -/
  depth_session : pair.depthObservation.sessionId.text = session.depthSessionId
  /-- The colour frame was submitted in the session. -/
  rgb_submitted : pair.rgbObservation ∈ submitted.filterMap FusionStep.rgb?
  /-- The depth frame was submitted in the session. -/
  depth_submitted : pair.depthObservation ∈ submitted.filterMap FusionStep.depth?

/-- A session all of whose pairs are sound. -/
structure Session.Sound (session : Session) : Prop where
  /-- Each pair is made of frames submitted up to its call. -/
  paired : ∀ earlier step pair, earlier ++ [step] <+: session.steps → step.pair? = some pair →
    SoundPair session (earlier ++ [step]) pair
  /-- The times of the pairs increase. -/
  increasing : session.pairs.Pairwise fun first later => first.observedAtNs < later.observedAtNs

/-- Increasing times make every frame part of one pair. -/
theorem Session.Sound.framesOnce {session : Session} (h : session.Sound) :
    (session.pairs.map (·.rgbObservation)).Nodup ∧
      (session.pairs.map (·.depthObservation)).Nodup := by
  have htimes : (session.pairs.map (·.observedAtNs)).Nodup :=
    List.pairwise_map.mpr (h.increasing.imp fun hlt => ne_of_lt hlt)
  constructor
  · have hmap : session.pairs.map (·.observedAtNs) =
        (session.pairs.map (·.rgbObservation)).map (·.observedAtNs) := by
      rw [List.map_map]
      rfl
    rw [hmap] at htimes
    exact htimes.of_map _
  · have hmap : session.pairs.map (·.observedAtNs) =
        (session.pairs.map (·.depthObservation)).map (·.observedAtNs) := by
      rw [List.map_map]
      exact List.map_congr_left fun pair _ => pair.time_eq
    rw [hmap] at htimes
    exact htimes.of_map _

/-- Where the synchronizer stands in its latest session. -/
structure Current (session : Session) (state : FusionState) : Prop where
  /-- The requirement is the one of the activation. -/
  requirement : state.requirement = some session.requirement
  /-- The depth session is the one of the activation. -/
  depth_session : state.session.map (·.depth) = some session.depthSessionId
  /-- Every pending frame matches, stands at its time and was submitted in the session. -/
  pending : Pending
    (fun t f => f.observedAtNs = t ∧ session.requirement.MatchesRgb f ∧
      f ∈ session.steps.filterMap FusionStep.rgb?)
    (fun t f => f.observedAtNs = t ∧ session.requirement.MatchesDepth f ∧
      f.sessionId.text = session.depthSessionId ∧
      f ∈ session.steps.filterMap FusionStep.depth?) state
  /-- No pair is later than the last accepted time. -/
  accepted : ∀ pair ∈ session.pairs, ∃ last, state.lastAcceptedAtNs = some last ∧
    pair.observedAtNs ≤ last

/-- No frame is pending. -/
def Idle (state : FusionState) : Prop := Pending (fun _ _ => False) (fun _ _ => False) state

/-- What holds after every call. -/
structure Invariant (history : History) : Prop where
  /-- Every session is sound. -/
  sound : ∀ session ∈ history.sessions, session.Sound
  /-- The queues are bounded. -/
  bounded : Bounded history.state
  /-- An active synchronizer is in its latest session. -/
  active : history.state.state = .active → ∃ session ∈ history.sessions.head?,
    Current session history.state
  /-- Otherwise nothing is pending. -/
  idle : history.state.state ≠ .active → Idle history.state

section Extension

variable {session : Session} {step : FusionStep} {state : FusionState}

/-- A pair of the new call comes last. -/
theorem pairs_extend : (session.extend step).pairs = session.pairs ++ step.pair?.toList := by
  rw [Session.pairs, Session.extend, List.filterMap_append]
  cases hpair : step.pair? <;> simp [Session.pairs, hpair]

/-- A sound pair of the new call keeps a session sound. -/
theorem Session.Sound.extend (h : session.Sound)
    (hpair : ∀ pair, step.pair? = some pair → SoundPair session (session.steps ++ [step]) pair ∧
      ∀ earlier ∈ session.pairs, earlier.observedAtNs < pair.observedAtNs) :
    (session.extend step).Sound := by
  have hsame {submitted : List FusionStep} {pair : FusedRgbdObservation}
      (hsound : SoundPair session submitted pair) :
      SoundPair (session.extend step) submitted pair :=
    ⟨hsound.time_eq, hsound.fused, hsound.rgb, hsound.depth, hsound.depth_session,
      hsound.rgb_submitted, hsound.depth_submitted⟩
  constructor
  · intro earlier last pair hprefix hlast
    rcases List.prefix_concat_iff.mp hprefix with hall | hold
    · obtain ⟨rfl, hstep⟩ := List.append_inj' hall rfl
      obtain rfl := List.singleton_inj.mp hstep
      exact hsame (hpair pair hlast).1
    · exact hsame (h.paired earlier last pair hold hlast)
  · rw [pairs_extend, List.pairwise_append]
    refine ⟨h.increasing, ?_, ?_⟩
    · cases hlast : step.pair? <;> simp
    · intro first hfirst later hlater
      exact (hpair later (Option.mem_toList.mp hlater)).2 first hfirst

/-- A call without a pair keeps a session sound. -/
theorem Session.Sound.extend_quiet (h : session.Sound) (hpair : step.pair? = none) :
    (session.extend step).Sound :=
  h.extend fun pair hsome => by
    rw [hpair] at hsome
    cases hsome

/-- Frames submitted before stay submitted. -/
theorem mem_submitted {α : Type} {get : FusionStep → Option α} {f : α}
    (h : f ∈ session.steps.filterMap get) : f ∈ (session.extend step).steps.filterMap get := by
  rw [Session.extend, List.filterMap_append]
  exact List.mem_append_left _ h

/-- A call that leaves the state alone leaves the synchronizer in its session. -/
theorem Current.extend (h : Current session state) (hpair : step.pair? = none) :
    Current (session.extend step) state where
  requirement := h.requirement
  depth_session := h.depth_session
  pending :=
    ⟨fun t f hf => ⟨(h.pending.rgb t f hf).1, (h.pending.rgb t f hf).2.1,
        mem_submitted (h.pending.rgb t f hf).2.2⟩,
      fun t f hf => ⟨(h.pending.depth t f hf).1, (h.pending.depth t f hf).2.1,
        (h.pending.depth t f hf).2.2.1, mem_submitted (h.pending.depth t f hf).2.2.2⟩⟩
  accepted := by
    rw [pairs_extend, hpair, Option.toList_none, List.append_nil]
    exact h.accepted

end Extension

section Lifecycle

variable {p : Platform} {s : FusionState}

/-- Cleared streams hold no frame. -/
theorem idle_of_cleared (hrgb : s.rgb = .cleared) (hdepth : s.depth = .cleared) : Idle s := by
  constructor
  · intro t f hf
    rw [hrgb] at hf
    cases hf
  · intro t f hf
    rw [hdepth] at hf
    cases hf

/-- Cleared streams are within the bound. -/
theorem bounded_of_cleared (hrgb : s.rgb = .cleared) (hdepth : s.depth = .cleared) :
    Bounded s := by
  constructor
  · rw [hrgb]
    exact Nat.zero_le _
  · rw [hdepth]
    exact Nat.zero_le _

/-- A call refused, or one that leaves the synchronizer at rest. -/
structure AtRest (s : FusionState) : Prop where
  /-- It is not active. -/
  state : s.state ≠ .active
  /-- Nothing is pending. -/
  idle : Idle s
  /-- The queues are bounded. -/
  bounded : Bounded s

/-- `configure` is refused or leaves the synchronizer at rest. -/
theorem configure_spec (requirement : FusionRequirement) :
    (configure s requirement).1 = s ∨ AtRest (configure s requirement).1 := by
  rw [configure]
  split
  · exact Or.inr ⟨by simp, idle_of_cleared rfl rfl, bounded_of_cleared rfl rfl⟩
  · exact Or.inl rfl

/-- `deactivate` is refused or leaves the synchronizer at rest. -/
theorem deactivate_spec : (deactivate s).1 = s ∨ AtRest (deactivate s).1 := by
  rw [deactivate]
  split
  · exact Or.inr ⟨by simp, idle_of_cleared rfl rfl, bounded_of_cleared rfl rfl⟩
  · exact Or.inl rfl

/-- `cleanup` is refused or leaves the synchronizer at rest. -/
theorem cleanup_spec : (cleanup s).1 = s ∨ AtRest (cleanup s).1 := by
  rw [cleanup]
  split
  · exact Or.inl rfl
  · split
    · exact Or.inl rfl
    · exact Or.inr ⟨by simp, idle_of_cleared rfl rfl, bounded_of_cleared rfl rfl⟩

/-- `shutdown` leaves the synchronizer at rest. -/
theorem shutdown_spec : AtRest (shutdown s) :=
  ⟨by simp [shutdown], idle_of_cleared rfl rfl, bounded_of_cleared rfl rfl⟩

/-- `activate` is refused, or starts with empty queues under the configured requirement. -/
theorem activate_spec (depthSessionId : PyStr) :
    ((activate p s depthSessionId).1 = s ∧
        ∀ ids, (activate p s depthSessionId).2 ≠ .ok ids) ∨
      ∃ requirement ids, s.requirement = some requirement ∧
        (activate p s depthSessionId).2 = .ok ids ∧
        (activate p s depthSessionId).1.requirement = some requirement ∧
        (activate p s depthSessionId).1.session.map (·.depth) = some depthSessionId ∧
        (activate p s depthSessionId).1.state = .active ∧
        Idle (activate p s depthSessionId).1 ∧ Bounded (activate p s depthSessionId).1 := by
  rw [activate]
  cases hrequirement : s.requirement with
  | none => exact Or.inl ⟨rfl, fun ids h => by cases h⟩
  | some requirement =>
    simp only
    split_ifs with hstate hempty
    · exact Or.inl ⟨rfl, fun ids h => by cases h⟩
    · exact Or.inl ⟨rfl, fun ids h => by cases h⟩
    · exact Or.inr ⟨requirement, _, rfl, rfl, hrequirement, rfl, rfl, idle_of_cleared rfl rfl,
        bounded_of_cleared rfl rfl⟩

end Lifecycle

section Runs

variable {p : Platform} {bounds : FusionBounds} {history : History} {step : FusionStep}
  {s' : FusionState}

/-- Extending the latest session keeps every session sound. -/
theorem sound_extendLatest {sessions : List Session}
    (h : ∀ session ∈ sessions, session.Sound)
    (hlatest : ∀ session ∈ sessions.head?, (session.extend step).Sound) :
    ∀ session ∈ extendLatest step sessions, session.Sound := by
  cases sessions with
  | nil => exact h
  | cons latest earlier =>
    rw [extendLatest, List.forall_mem_cons]
    exact ⟨hlatest latest rfl, fun session hsession => h session (List.mem_cons_of_mem _ hsession)⟩

/-- The latest session after extending it. -/
theorem head_extendLatest {sessions : List Session} {session : Session}
    (h : session ∈ sessions.head?) : session.extend step ∈ (extendLatest step sessions).head? := by
  cases sessions with
  | nil => cases h
  | cons latest earlier =>
    obtain rfl := Option.some.inj h
    rfl

/-- A refused call and a call that leaves the synchronizer at rest keep the invariant. -/
theorem Invariant.rest (h : Invariant history) (hpair : step.pair? = none)
    (hrest : s' = history.state ∨ AtRest s') :
    Invariant ⟨s', extendLatest step history.sessions⟩ := by
  have hsound : ∀ session ∈ extendLatest step history.sessions, session.Sound :=
    sound_extendLatest h.sound fun session hsession =>
      (h.sound session (List.mem_of_mem_head? hsession)).extend_quiet hpair
  rcases hrest with rfl | hrest
  · refine ⟨hsound, h.bounded, fun hactive => ?_, h.idle⟩
    obtain ⟨session, hsession, hcurrent⟩ := h.active hactive
    exact ⟨session.extend step, head_extendLatest hsession, hcurrent.extend hpair⟩
  · exact ⟨hsound, hrest.bounded, fun hactive => absurd hactive hrest.state, fun _ => hrest.idle⟩

/-- What holds of a pending colour frame once the call is recorded. -/
def RgbPending (session : Session) (step : FusionStep) (t : Nat) (f : VisualFrameObservation) :
    Prop :=
  f.observedAtNs = t ∧ session.requirement.MatchesRgb f ∧
    f ∈ (session.extend step).steps.filterMap FusionStep.rgb?

/-- What holds of a pending depth frame once the call is recorded. -/
def DepthPending (session : Session) (step : FusionStep) (t : Nat) (f : DepthFrameObservation) :
    Prop :=
  f.observedAtNs = t ∧ session.requirement.MatchesDepth f ∧
    f.sessionId.text = session.depthSessionId ∧
    f ∈ (session.extend step).steps.filterMap FusionStep.depth?

/-- A submission in the latest session keeps the invariant. -/
theorem Invariant.submit (h : Invariant history) {session : Session}
    {outcome : Except FusionError (Option FusionAdmission)}
    (hsession : session ∈ history.sessions.head?) (hcurrent : Current session history.state)
    (hactive : history.state.state = .active)
    (houtcome : step.outcome = .admission <$> outcome)
    (hresult : SubmitResult (RgbPending session step) (DepthPending session step) history.state s'
      outcome) :
    Invariant ⟨s', extendLatest step history.sessions⟩ := by
  have hpair : ∀ pair, step.pair? = some pair → ∃ admission, outcome = .ok (some admission) ∧
      admission.observation = pair := by
    intro pair hsome
    rw [FusionStep.pair?, houtcome] at hsome
    cases outcome with
    | error error => cases hsome
    | ok result =>
      cases result with
      | none => cases hsome
      | some admission => exact ⟨admission, rfl, Option.some.inj hsome⟩
  have hmade : ∀ pair, step.pair? = some pair →
      SoundPair session (session.steps ++ [step]) pair ∧
        s'.lastAcceptedAtNs = some pair.observedAtNs ∧
        ∀ earlier ∈ session.pairs, earlier.observedAtNs < pair.observedAtNs := by
    intro pair hsome
    obtain ⟨admission, hadmission, rfl⟩ := hpair pair hsome
    obtain ⟨t, requirement, ids, hrequirement, hids, ⟨hrgbTime, hrgb, hrgbMem⟩,
      ⟨hdepthTime, hdepth, hdepthSession, hdepthMem⟩, hunder, hlast, hafter⟩ :=
      hresult.admitted admission hadmission
    obtain rfl := Option.some.inj (hcurrent.requirement.symm.trans hrequirement)
    have hobserved : admission.observation.observedAtNs = t := hrgbTime
    refine ⟨⟨hrgbTime.trans hdepthTime.symm, ?_, hrgb, hdepth, hdepthSession, hrgbMem, hdepthMem⟩,
      by rw [hobserved]; exact hlast, ?_⟩
    · rw [FusionRequirement.MatchesFused, hunder.robotId, hunder.sensor, hunder.sources,
        hunder.provenance]
      exact ⟨rfl, rfl, hrgb.2.1, hdepth.2.1, hrgb.2.2.1, hdepth.2.2.1, rfl, rfl, rfl, rfl, rfl,
        rfl, rfl, hrgb.2.2.2.1, hdepth.2.2.2.1, rfl, rfl⟩
    · intro earlier hearlier
      obtain ⟨last, hsomeLast, hle⟩ := hcurrent.accepted earlier hearlier
      have hlt := hafter last hsomeLast
      omega
  refine ⟨?_, hresult.bounded, fun _ => ?_, fun hinactive => ?_⟩
  · refine sound_extendLatest h.sound fun latest hlatest => ?_
    obtain rfl := Option.mem_unique hsession hlatest
    exact (h.sound session (List.mem_of_mem_head? hsession)).extend fun pair hsome =>
      ⟨(hmade pair hsome).1, (hmade pair hsome).2.2⟩
  · refine ⟨session.extend step, head_extendLatest hsession, ?_⟩
    exact {
      requirement := hresult.requirement.trans hcurrent.requirement
      depth_session := by
        rw [hresult.session]
        exact hcurrent.depth_session
      pending := hresult.pending
      accepted := by
        intro pair hmem
        rw [pairs_extend, List.mem_append, Option.mem_toList] at hmem
        rcases hmem with hold | hnew
        · obtain ⟨last, hsomeLast, hle⟩ := hcurrent.accepted pair hold
          obtain ⟨next, hnext, hlater⟩ := hresult.later last hsomeLast
          exact ⟨next, hnext, hle.trans hlater⟩
        · exact ⟨_, (hmade pair hnew).2.1, le_rfl⟩ }
  · exact absurd (hresult.state.trans hactive) hinactive

/-- A reply without an admission carries no pair. -/
theorem pair_of_reply {α : Type} {call : FusionCall} {outcome : Except FusionError α}
    {reply : α → FusionReply} (h : ∀ a, (⟨call, .ok (reply a)⟩ : FusionStep).pair? = none) :
    (⟨call, reply <$> outcome⟩ : FusionStep).pair? = none := by
  cases outcome with
  | error error => rfl
  | ok a => exact h a

/-- A frame of the call itself was submitted. -/
theorem mem_submitted_last {α : Type} {session : Session} {get : FusionStep → Option α} {f : α}
    (h : get step = some f) : f ∈ (session.extend step).steps.filterMap get := by
  rw [Session.extend, List.filterMap_append]
  exact List.mem_append_right _ (by simp [h])

/-- Pending frames stay as they are when the call is recorded. -/
theorem Current.recorded {session : Session} (h : Current session history.state) :
    Pending (RgbPending session step) (DepthPending session step) history.state where
  rgb := fun t f hf => ⟨(h.pending.rgb t f hf).1, (h.pending.rgb t f hf).2.1,
    mem_submitted (h.pending.rgb t f hf).2.2⟩
  depth := fun t f hf => ⟨(h.pending.depth t f hf).1, (h.pending.depth t f hf).2.1,
    (h.pending.depth t f hf).2.2.1, mem_submitted (h.pending.depth t f hf).2.2.2⟩

/-- Frames submitted to a synchronizer that is not active are only counted. -/
theorem Invariant.inactive (h : Invariant history) (hinactive : history.state.state ≠ .active)
    (hpair : step.pair? = none) :
    Invariant ⟨history.state.reject .inactive, extendLatest step history.sessions⟩ := by
  have hidle : Idle (history.state.reject .inactive) :=
    ⟨(h.idle hinactive).rgb, (h.idle hinactive).depth⟩
  exact h.rest hpair (Or.inr ⟨hinactive, hidle, ⟨h.bounded.rgb, h.bounded.depth⟩⟩)

/-- Every call keeps the invariant. -/
theorem Invariant.call (h : Invariant history) (call : FusionCall) :
    Invariant (history.call p bounds call) := by
  cases call with
  | configure requirement =>
    exact h.rest (pair_of_reply fun _ => rfl) (configure_spec requirement)
  | deactivate => exact h.rest (pair_of_reply fun _ => rfl) deactivate_spec
  | cleanup => exact h.rest (pair_of_reply fun _ => rfl) cleanup_spec
  | shutdown => exact h.rest rfl (Or.inr shutdown_spec)
  | activate depthSessionId =>
    rw [History.call, perform]
    simp only
    rcases activate_spec (p := p) (s := history.state) depthSessionId with
      ⟨hsame, hrefused⟩ | ⟨requirement, ids, hconfigured, hids, hrequirement, hsession, hactive,
        hidle, hbounded⟩
    · cases hresult : (activate p history.state depthSessionId).2 with
      | ok ids => exact absurd hresult (hrefused ids)
      | error error => exact h.rest rfl (Or.inl hsame)
    · rw [hids, hconfigured]
      refine ⟨?_, hbounded, fun _ => ⟨_, rfl, ?_⟩, fun hinactive => absurd hactive hinactive⟩
      · rw [recordStep, FusionStep.started?]
        simp only [Functor.map, Except.map, Option.map_some, List.forall_mem_cons]
        refine ⟨⟨fun earlier last pair hprefix => ?_, List.Pairwise.nil⟩, h.sound⟩
        have hlength := hprefix.length_le
        simp at hlength
      · exact {
          requirement := hrequirement
          depth_session := hsession
          pending := ⟨fun t f hf => (hidle.rgb t f hf).elim, fun t f hf => (hidle.depth t f hf).elim⟩
          accepted := fun pair hmem => by cases hmem }
  | submitRgb frame now =>
    by_cases hactive : history.state.state = .active
    · obtain ⟨session, hsession, hcurrent⟩ := h.active hactive
      refine h.submit hsession hcurrent hactive rfl
        (submitRgb_result hcurrent.recorded h.bounded fun requirement hrequirement hmatches => ?_)
      obtain rfl := Option.some.inj (hcurrent.requirement.symm.trans hrequirement)
      exact ⟨rfl, hmatches, mem_submitted_last rfl⟩
    · have hrefused : submitRgb p bounds history.state frame now =
          (history.state.reject .inactive, .ok none) := by
        rw [submitRgb, if_pos hactive]
      rw [History.call, perform, hrefused]
      exact h.inactive hactive rfl
  | submitDepth frame now =>
    by_cases hactive : history.state.state = .active
    · obtain ⟨session, hsession, hcurrent⟩ := h.active hactive
      refine h.submit hsession hcurrent hactive rfl
        (submitDepth_result hcurrent.recorded h.bounded
          fun requirement hrequirement hmatches hdepth => ?_)
      obtain rfl := Option.some.inj (hcurrent.requirement.symm.trans hrequirement)
      have htext := Option.some.inj (hdepth.symm.trans hcurrent.depth_session)
      exact ⟨rfl, hmatches, htext, mem_submitted_last rfl⟩
    · have hrefused : submitDepth p bounds history.state frame now =
          (history.state.reject .inactive, .ok none) := by
        rw [submitDepth, if_pos hactive]
      rw [History.call, perform, hrefused]
      exact h.inactive hactive rfl

/-- A new synchronizer has no session and nothing pending. -/
theorem invariant_initial : Invariant ⟨.initial, []⟩ where
  sound := fun session hsession => by cases hsession
  bounded := bounded_of_cleared rfl rfl
  active := fun hactive => by cases hactive
  idle := fun _ => idle_of_cleared rfl rfl

/-- The invariant holds after every run. -/
theorem invariant_after (p : Platform) (bounds : FusionBounds) (calls : List FusionCall) :
    Invariant (History.after p bounds calls) := by
  have hrun : ∀ history, Invariant history →
      Invariant (calls.foldl (History.call p bounds) history) := by
    induction calls with
    | nil => exact fun history h => h
    | cons call calls ih => exact fun history h => ih _ (h.call call)
  exact hrun _ invariant_initial

end Runs

/-- Every pending frame was submitted in the latest session. -/
def PendingSubmitted (history : History) : Prop :=
  Pending
    (fun _ f => ∃ session ∈ history.sessions.head?, f ∈ session.steps.filterMap FusionStep.rgb?)
    (fun _ f => ∃ session ∈ history.sessions.head?, f ∈ session.steps.filterMap FusionStep.depth?)
    history.state

/-- In every session each pair is made of one frame of either stream, both submitted in it, with
one time and the configured identities. No frame is in two pairs, the times of the pairs increase,
and the queues are bounded and hold frames of the latest session only. -/
theorem synchronizer_sound (p : Platform) (bounds : FusionBounds) (calls : List FusionCall) :
    (∀ session ∈ (History.after p bounds calls).sessions, session.Sound ∧
        (session.pairs.map (·.rgbObservation)).Nodup ∧
        (session.pairs.map (·.depthObservation)).Nodup) ∧
      Bounded (History.after p bounds calls).state ∧
      PendingSubmitted (History.after p bounds calls) := by
  have h := invariant_after p bounds calls
  refine ⟨fun session hsession => ⟨h.sound session hsession, (h.sound session hsession).framesOnce⟩,
    h.bounded, ?_⟩
  by_cases hactive : (History.after p bounds calls).state.state = .active
  · obtain ⟨session, hsession, hcurrent⟩ := h.active hactive
    exact ⟨fun t f hf => ⟨session, hsession, (hcurrent.pending.rgb t f hf).2.2⟩,
      fun t f hf => ⟨session, hsession, (hcurrent.pending.depth t f hf).2.2.2⟩⟩
  · have hidle := h.idle hactive
    exact ⟨fun t f hf => (hidle.rgb t f hf).elim, fun t f hf => (hidle.depth t f hf).elim⟩

end Rgbd
end AyyoHumanoid
