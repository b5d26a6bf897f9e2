import AyyoHumanoid.RgbdAdapter

/-!
# What a submission does

A refused frame leaves both queues and the last accepted time alone. A stored
frame joins its queue, old frames leave, and at most one pair leaves both
queues at once. One statement covers every branch: whatever holds of the
frames in the queues and of the submitted frame holds of the queues afterwards
and of the two frames of a pair.
-/

namespace AyyoHumanoid
namespace Rgbd

open PyText World

/-- A property of every frame in the queues. -/
structure Pending (R : Nat → VisualFrameObservation → Prop)
    (D : Nat → DepthFrameObservation → Prop) (s : FusionState) : Prop where
  /-- Of the colour frames. -/
  rgb : ∀ t f, s.rgb.pending.get? t = some f → R t f
  /-- Of the depth frames. -/
  depth : ∀ t f, s.depth.pending.get? t = some f → D t f

/-- Both queues are within their bound. -/
structure Bounded (s : FusionState) : Prop where
  /-- The colour queue. -/
  rgb : s.rgb.pending.size ≤ maxRgbdPendingPerStream
  /-- The depth queue. -/
  depth : s.depth.pending.size ≤ maxRgbdPendingPerStream

/-- Only counts and the event changed. -/
structure Quiet (s s' : FusionState) : Prop where
  requirement : s'.requirement = s.requirement
  /-- The lifecycle state. -/
  state : s'.state = s.state
  /-- The session identities. -/
  session : s'.session = s.session
  /-- The colour stream. -/
  rgb : s'.rgb = s.rgb
  /-- The depth stream. -/
  depth : s'.depth = s.depth
  /-- The last accepted time. -/
  lastAcceptedAtNs : s'.lastAcceptedAtNs = s.lastAcceptedAtNs

/-- Nothing changed. -/
theorem Quiet.refl (s : FusionState) : Quiet s s := ⟨rfl, rfl, rfl, rfl, rfl, rfl⟩

/-- A rejection changes counts and the event. -/
theorem quiet_reject (s : FusionState) (event : FusionEvent) : Quiet s (s.reject event) :=
  ⟨rfl, rfl, rfl, rfl, rfl, rfl⟩

/-- The pair was accepted later than any pair before it. -/
def After (last : Option Nat) (t : Nat) : Prop := ∀ earlier, last = some earlier → earlier < t

/-- A pair made under a requirement and a session. -/
structure MadeUnder (requirement : FusionRequirement) (ids : SessionIds)
    (observation : FusedRgbdObservation) : Prop where
  robotId : observation.robotId = requirement.robotId
  sensor : observation.sensor = requirement.fusionSensor
  sources : observation.sources = requirement.sources ids.rgb ids.depth ids.synchronization
  provenance : observation.provenance = requirement.fusionProvenance

/-- What a submission did and answered. -/
structure SubmitResult (R : Nat → VisualFrameObservation → Prop)
    (D : Nat → DepthFrameObservation → Prop) (s s' : FusionState)
    (outcome : Except FusionError (Option FusionAdmission)) : Prop where
  /-- The requirement stays. -/
  requirement : s'.requirement = s.requirement
  /-- The lifecycle state stays. -/
  state : s'.state = s.state
  /-- The session stays. -/
  session : s'.session = s.session
  /-- The property holds of the queues. -/
  pending : Pending R D s'
  /-- The queues are bounded. -/
  bounded : Bounded s'
  /-- The last accepted time does not decrease. -/
  later : ∀ last, s.lastAcceptedAtNs = some last →
    ∃ next, s'.lastAcceptedAtNs = some next ∧ last ≤ next
  /-- A pair takes one frame of each queue at one time, later than every pair before. -/
  admitted : ∀ admission, outcome = .ok (some admission) →
    ∃ t requirement ids, s.requirement = some requirement ∧ s.session = some ids ∧
      R t admission.observation.rgbObservation ∧ D t admission.observation.depthObservation ∧
      MadeUnder requirement ids admission.observation ∧ s'.lastAcceptedAtNs = some t ∧
      After s.lastAcceptedAtNs t

section Branches

variable {R : Nat → VisualFrameObservation → Prop} {D : Nat → DepthFrameObservation → Prop}
  {p : Platform} {bounds : FusionBounds} {s s' : FusionState}

/-- A call that changes counts and the event only, and makes no pair. -/
theorem Quiet.result (h : Quiet s s') (hpending : Pending R D s) (hbounded : Bounded s)
    {outcome : Except FusionError (Option FusionAdmission)}
    (hnone : ∀ admission, outcome ≠ .ok (some admission)) : SubmitResult R D s s' outcome where
  requirement := h.requirement
  state := h.state
  session := h.session
  pending := ⟨by rw [h.rgb]; exact hpending.rgb, by rw [h.depth]; exact hpending.depth⟩
  bounded := ⟨by rw [h.rgb]; exact hbounded.rgb, by rw [h.depth]; exact hbounded.depth⟩
  later := fun last hlast => ⟨last, by rw [h.lastAcceptedAtNs]; exact hlast, le_rfl⟩
  admitted := fun admission hadmission => absurd hadmission (hnone admission)

/-- What is left of a stream was there. -/
theorem Stream.get_evict {α : Type} {stream : Stream α} {cutoff : Int} {t : Nat} {f : α}
    (h : (stream.evict cutoff).pending.get? t = some f) :
    stream.pending.get? t = some f :=
  (PyDict.get?_keep_eq_some.mp (PyDict.get?_of_trim h)).1

/-- What is left of a stream is within the bound. -/
theorem Stream.size_evict {α : Type} (stream : Stream α) (cutoff : Int) :
    (stream.evict cutoff).pending.size ≤ maxRgbdPendingPerStream :=
  PyDict.size_trim _ _ _

/-- A stored frame is found at its time, and the others stay. -/
theorem Stream.get_offer {α : Type} [DecidableEq α] {stream stream' : Stream α} {t u : Nat}
    {frame f : α} (h : stream.offer t frame = .stored stream')
    (hfound : stream'.pending.get? u = some f) :
    stream.pending.get? u = some f ∨ (u = t ∧ f = frame) := by
  rw [Stream.offer] at h
  cases hexisting : stream.pending.get? t with
  | some existing =>
    rw [hexisting] at h
    by_cases hsame : existing = frame <;> simp [hsame] at h
  | none =>
    simp only [hexisting] at h
    split_ifs at h
    obtain rfl := Offer.stored.inj h
    rw [PyDict.get?_set] at hfound
    by_cases hu : u = t
    · rw [if_pos hu] at hfound
      exact Or.inr ⟨hu, (Option.some.inj hfound).symm⟩
    · rw [if_neg hu] at hfound
      exact Or.inl hfound

/-- Eviction keeps the property. -/
theorem Pending.evict (h : Pending R D s) (n : Nat) : Pending R D (evictPending bounds s n) where
  rgb := fun t f hf => h.rgb t f (Stream.get_evict hf)
  depth := fun t f hf => h.depth t f (Stream.get_evict hf)

/-- Eviction bounds the queues. -/
theorem bounded_evictPending (n : Nat) : Bounded (evictPending bounds s n) where
  rgb := Stream.size_evict _ _
  depth := Stream.size_evict _ _

/-- Deleting a key does not enlarge a queue. -/
theorem size_remove_le {α : Type} (d : PyDict Nat α) (t : Nat) : (d.remove t).size ≤ d.size :=
  d.size_keep_le _

/-- A pair is made of the two frames given, and recorded as the last accepted. -/
theorem pair_admitted {rgb : VisualFrameObservation} {depth : DepthFrameObservation} {t : Nat}
    {now : Int} {admission : FusionAdmission}
    (h : (pair p s rgb depth t now).2 = .ok admission) :
    ∃ requirement ids, s.requirement = some requirement ∧ s.session = some ids ∧
      admission.observation.rgbObservation = rgb ∧
      admission.observation.depthObservation = depth ∧
      MadeUnder requirement ids admission.observation ∧
      (pair p s rgb depth t now).1.lastAcceptedAtNs = some t := by
  rw [pair] at h ⊢
  cases hrequirement : s.requirement with
  | none => simp [hrequirement] at h
  | some requirement =>
    cases hids : s.session with
    | none => simp [hrequirement, hids] at h
    | some ids =>
      simp only [hrequirement, hids] at h ⊢
      cases hbuild : FusedRgbdObservation.build p requirement.robotId requirement.fusionSensor rgb
          depth (requirement.sources ids.rgb ids.depth ids.synchronization)
          (max now.toNat t) requirement.fusionProvenance .available with
      | error error => simp [hbuild] at h
      | ok observation =>
        simp only [hbuild, issueAdmission, Checks.unit_bind_ok, Checks.require_ok,
          Checks.pure_ok] at h
        obtain ⟨-, -, rfl⟩ := h
        obtain ⟨hrobot, hsensor, hrgb, hdepth, hsources, hprovenance⟩ :=
          FusedRgbdObservation.build_ok hbuild
        exact ⟨requirement, ids, rfl, rfl, hrgb, hdepth,
          ⟨hrobot, hsensor, hsources, hprovenance⟩, rfl⟩

/-- Pairing changes the last accepted time, counts and the event. -/
theorem pair_fields (rgb : VisualFrameObservation) (depth : DepthFrameObservation) (t : Nat)
    (now : Int) :
    (pair p s rgb depth t now).1.requirement = s.requirement ∧
      (pair p s rgb depth t now).1.state = s.state ∧
      (pair p s rgb depth t now).1.session = s.session ∧
      (pair p s rgb depth t now).1.rgb = s.rgb ∧
      (pair p s rgb depth t now).1.depth = s.depth ∧
      ((pair p s rgb depth t now).1.lastAcceptedAtNs = s.lastAcceptedAtNs ∨
        (pair p s rgb depth t now).1.lastAcceptedAtNs = some t) := by
  rw [pair]
  cases hrequirement : s.requirement with
  | none => simp [hrequirement]
  | some requirement =>
    cases hids : s.session with
    | none => simp [hrequirement, hids]
    | some ids =>
      simp only
      split <;> simp [hrequirement, hids]

/-- Without one of the frames there is no pair. -/
theorem tryPair_missing {t : Nat} {now : Int}
    (h : s.rgb.pending.get? t = none ∨ s.depth.pending.get? t = none) :
    tryPair p s t now = ({ s with event := .missingCounterpart }, .ok none) := by
  rw [tryPair]
  rcases h with h | h
  · simp only [h]
  · cases hrgb : s.rgb.pending.get? t <;> simp only [h]

/-- Pairing at a time after the last accepted one. -/
theorem tryPair_result {t : Nat} {now : Int} (hpending : Pending R D s) (hbounded : Bounded s)
    (hafter : After s.lastAcceptedAtNs t) :
    SubmitResult R D s (tryPair p s t now).1 (tryPair p s t now).2 := by
  have hmissing (h : s.rgb.pending.get? t = none ∨ s.depth.pending.get? t = none) :
      SubmitResult R D s (tryPair p s t now).1 (tryPair p s t now).2 := by
    rw [tryPair_missing h]
    have hquiet : Quiet s { s with event := .missingCounterpart } := ⟨rfl, rfl, rfl, rfl, rfl, rfl⟩
    exact hquiet.result hpending hbounded fun admission hadmission => by cases hadmission
  cases hrgb : s.rgb.pending.get? t with
  | none => exact hmissing (Or.inl hrgb)
  | some rgb =>
    cases hdepth : s.depth.pending.get? t with
    | none => exact hmissing (Or.inr hdepth)
    | some depth =>
      simp only [tryPair, hrgb, hdepth]
      obtain ⟨hrequirement, hstate, hsession, hqueue, hqueue', hlast⟩ := pair_fields (p := p)
        (s := { s with
          rgb := { s.rgb with pending := s.rgb.pending.remove t }
          depth := { s.depth with pending := s.depth.pending.remove t } }) rgb depth t now
      exact {
        requirement := hrequirement
        state := hstate
        session := hsession
        pending := by
          constructor
          · intro u f hf
            rw [hqueue] at hf
            exact hpending.rgb u f (PyDict.get?_remove_eq_some.mp hf).1
          · intro u f hf
            rw [hqueue'] at hf
            exact hpending.depth u f (PyDict.get?_remove_eq_some.mp hf).1
        bounded := by
          constructor
          · rw [hqueue]
            exact (size_remove_le _ _).trans hbounded.rgb
          · rw [hqueue']
            exact (size_remove_le _ _).trans hbounded.depth
        later := by
          intro last hsome
          rcases hlast with hsame | hnew
          · exact ⟨last, hsame.trans hsome, le_rfl⟩
          · exact ⟨t, hnew, le_of_lt (hafter last hsome)⟩
        admitted := by
          intro admission hadmission
          rw [Checks.map_ok] at hadmission
          obtain ⟨made, hmade, hsome⟩ := hadmission
          obtain rfl := Option.some.inj hsome
          obtain ⟨requirement, ids, hreq, hids, hrgb', hdepth', hunder, hnew⟩ := pair_admitted hmade
          refine ⟨t, requirement, ids, hreq, hids, ?_, ?_, hunder, hnew, hafter⟩
          · rw [hrgb']
            exact hpending.rgb t rgb hrgb
          · rw [hdepth']
            exact hpending.depth t depth hdepth }

end Branches

section Submissions

variable {R : Nat → VisualFrameObservation → Prop} {D : Nat → DepthFrameObservation → Prop}
  {p : Platform} {bounds : FusionBounds} {s : FusionState} {t : Nat} {now : Int}

variable (bounds s t now) in
/-- The time checks change counts and the event, and pass only after the last accepted time. -/
theorem validateTime_spec :
    Quiet s (validateTime bounds s t now).1 ∧
      ((validateTime bounds s t now).2 = .ok true →
        (validateTime bounds s t now).1 = s ∧ After s.lastAcceptedAtNs t) := by
  rw [validateTime]
  split_ifs with hnow hfuture hstale hregressed hduplicate
  · exact ⟨Quiet.refl s, by simp⟩
  · exact ⟨quiet_reject s _, by simp⟩
  · exact ⟨quiet_reject s _, by simp⟩
  · exact ⟨quiet_reject s _, by simp⟩
  · exact ⟨⟨rfl, rfl, rfl, rfl, rfl, rfl⟩, by simp⟩
  · refine ⟨Quiet.refl s, fun _ => ⟨rfl, fun earlier hearlier => ?_⟩⟩
    have hnotBefore : ¬t < earlier := by simpa [hearlier] using hregressed
    have hne : earlier ≠ t := fun heq => hduplicate (heq ▸ hearlier)
    omega

/-- A result from a state with the same requirement, session and last accepted time. -/
theorem SubmitResult.from {s₁ s' : FusionState}
    {outcome : Except FusionError (Option FusionAdmission)} (h : SubmitResult R D s₁ s' outcome)
    (hrequirement : s₁.requirement = s.requirement) (hstate : s₁.state = s.state)
    (hsession : s₁.session = s.session) (hlast : s₁.lastAcceptedAtNs = s.lastAcceptedAtNs) :
    SubmitResult R D s s' outcome where
  requirement := h.requirement.trans hrequirement
  state := h.state.trans hstate
  session := h.session.trans hsession
  pending := h.pending
  bounded := h.bounded
  later := hlast ▸ h.later
  admitted := hrequirement ▸ hsession ▸ hlast ▸ h.admitted

/-- What a store function does to a state. -/
structure Stores {α : Type} (store : FusionState → Stream α → FusionState) (s : FusionState)
    (stream : Stream α) : Prop where
  /-- The requirement stays. -/
  requirement : (store s stream).requirement = s.requirement
  /-- The lifecycle state stays. -/
  state : (store s stream).state = s.state
  /-- The session stays. -/
  session : (store s stream).session = s.session
  /-- The last accepted time stays. -/
  lastAcceptedAtNs : (store s stream).lastAcceptedAtNs = s.lastAcceptedAtNs

/-- Every answer to an offer. -/
theorem settleOffer_result {α : Type} {store : FusionState → Stream α → FusionState}
    {offer : Offer α} (hafter : After s.lastAcceptedAtNs t) (hpending : Pending R D s)
    (hbounded : Bounded s)
    (hstore : ∀ stream, offer = .stored stream →
      Stores store s stream ∧ Pending R D (store s stream)) :
    SubmitResult R D s (settleOffer p bounds s store t now offer).1
      (settleOffer p bounds s store t now offer).2 := by
  have hquiet {s' : FusionState} (h : Quiet s s') : SubmitResult R D s s' (.ok none) :=
    h.result hpending hbounded fun admission hadmission => by cases hadmission
  cases offer with
  | repeated => exact hquiet ⟨rfl, rfl, rfl, rfl, rfl, rfl⟩
  | conflicting => exact hquiet (quiet_reject s _)
  | regressed => exact hquiet (quiet_reject s _)
  | duplicate => exact hquiet ⟨rfl, rfl, rfl, rfl, rfl, rfl⟩
  | stored stream =>
    obtain ⟨hkept, hheld⟩ := hstore stream rfl
    have hlast : After (evictPending bounds (store s stream) t).lastAcceptedAtNs t :=
      fun earlier hearlier => hafter earlier (hkept.lastAcceptedAtNs ▸ hearlier)
    exact (tryPair_result (hheld.evict t) (bounded_evictPending t) hlast).from
      hkept.requirement hkept.state hkept.session hkept.lastAcceptedAtNs

/-- A submission whose offers are answered so is answered so. -/
theorem submitTimed_result
    {offer : FusionState → FusionState × Except FusionError (Option FusionAdmission)}
    (hpending : Pending R D s) (hbounded : Bounded s)
    (hoffer : After s.lastAcceptedAtNs t → SubmitResult R D s (offer s).1 (offer s).2) :
    SubmitResult R D s (submitTimed bounds s t now offer).1
      (submitTimed bounds s t now offer).2 := by
  obtain ⟨hquiet, hpassed⟩ := validateTime_spec bounds s t now
  rw [submitTimed]
  cases hresult : validateTime bounds s t now with
  | mk timed verdict =>
    rw [hresult] at hquiet hpassed
    cases verdict with
    | error error =>
      exact hquiet.result hpending hbounded fun admission hadmission => by cases hadmission
    | ok passed =>
      cases passed with
      | false =>
        exact hquiet.result hpending hbounded fun admission hadmission => by cases hadmission
      | true =>
        obtain ⟨hsame, hafter⟩ := hpassed rfl
        simp only at hsame
        rw [hsame]
        exact hoffer hafter

/-- What `submit_rgb` did and answered. -/
theorem submitRgb_result {frame : VisualFrameObservation} (hpending : Pending R D s)
    (hbounded : Bounded s)
    (hframe : ∀ requirement, s.requirement = some requirement → requirement.MatchesRgb frame →
      R frame.observedAtNs frame) :
    SubmitResult R D s (submitRgb p bounds s frame now).1 (submitRgb p bounds s frame now).2 := by
  have hquiet {s' : FusionState} (h : Quiet s s') : SubmitResult R D s s' (.ok none) :=
    h.result hpending hbounded fun admission hadmission => by cases hadmission
  rw [submitRgb]
  by_cases hstate : s.state = .active
  · rw [if_neg (not_not.mpr hstate)]
    cases hrequirement : s.requirement with
    | none =>
      exact (Quiet.refl s).result hpending hbounded fun admission hadmission => by cases hadmission
    | some requirement =>
      simp only
      by_cases hmatches : requirement.MatchesRgb frame
      · rw [if_neg (not_not.mpr hmatches)]
        apply submitTimed_result hpending hbounded
        intro hafter
        apply settleOffer_result hafter hpending hbounded
        intro stream hstored
        refine ⟨⟨rfl, rfl, rfl, rfl⟩, ⟨fun u f hf => ?_, hpending.depth⟩⟩
        rcases Stream.get_offer hstored hf with hold | ⟨rfl, rfl⟩
        · exact hpending.rgb u f hold
        · exact hframe requirement hrequirement hmatches
      · rw [if_pos hmatches]
        exact hquiet (quiet_reject s _)
  · rw [if_pos hstate]
    exact hquiet (quiet_reject s _)

/-- What `submit_depth` did and answered. -/
theorem submitDepth_result {frame : DepthFrameObservation} (hpending : Pending R D s)
    (hbounded : Bounded s)
    (hframe : ∀ requirement, s.requirement = some requirement → requirement.MatchesDepth frame →
      s.session.map (·.depth) = some frame.sessionId.text → D frame.observedAtNs frame) :
    SubmitResult R D s (submitDepth p bounds s frame now).1
      (submitDepth p bounds s frame now).2 := by
  have hquiet {s' : FusionState} (h : Quiet s s') : SubmitResult R D s s' (.ok none) :=
    h.result hpending hbounded fun admission hadmission => by cases hadmission
  rw [submitDepth]
  by_cases hstate : s.state = .active
  · rw [if_neg (not_not.mpr hstate)]
    cases hrequirement : s.requirement with
    | none =>
      exact (Quiet.refl s).result hpending hbounded fun admission hadmission => by cases hadmission
    | some requirement =>
      simp only
      by_cases hmatches : requirement.MatchesDepth frame
      · rw [if_neg (not_not.mpr hmatches)]
        by_cases hsession : s.session.map (·.depth) = some frame.sessionId.text
        · rw [if_neg (not_not.mpr hsession)]
          apply submitTimed_result hpending hbounded
          intro hafter
          apply settleOffer_result hafter hpending hbounded
          intro stream hstored
          refine ⟨⟨rfl, rfl, rfl, rfl⟩, ⟨hpending.rgb, fun u f hf => ?_⟩⟩
          rcases Stream.get_offer hstored hf with hold | ⟨rfl, rfl⟩
          · exact hpending.depth u f hold
          · exact hframe requirement hrequirement hmatches hsession
        · rw [if_pos hsession]
          exact hquiet (quiet_reject s _)
      · rw [if_pos hmatches]
        exact hquiet (quiet_reject s _)
  · rw [if_pos hstate]
    exact hquiet (quiet_reject s _)

end Submissions

end Rgbd
end AyyoHumanoid
