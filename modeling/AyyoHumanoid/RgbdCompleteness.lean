import AyyoHumanoid.PerceptionEviction
import AyyoHumanoid.RgbdWaiting

/-!
# Which frames are paired

Two frames of one time are paired when the second of them arrives, whichever it
is, as long as the first still waits. The constructor of the pair refuses only a
result time beyond the largest observation time, and the time checks of a
submission do not look at that bound.
-/

namespace AyyoHumanoid
namespace Rgbd

open PyText JsonText World

section Calls

variable {p : Platform} {bounds : FusionBounds} {s s' : FusionState} {t : Nat} {now : Int}

/-- The counts are within their bound. -/
structure Counted (s : FusionState) : Prop where
  /-- `_accepted_count`. -/
  accepted : s.acceptedCount ≤ maxRgbdCount
  /-- `_rejected_count`. -/
  rejected : s.rejectedCount ≤ maxRgbdCount
  /-- `_duplicate_count`. -/
  duplicate : s.duplicateCount ≤ maxRgbdCount
  /-- `_evicted_count`. -/
  evicted : s.evictedCount ≤ maxRgbdCount

/-- Counting stays within the bound. -/
theorem increment_le (value : Nat) : increment value ≤ maxRgbdCount := min_le_right _ _

/-- Counting often stays within the bound. -/
theorem iterate_increment_le {value : Nat} (h : value ≤ maxRgbdCount) (n : Nat) :
    increment^[n] value ≤ maxRgbdCount := by
  cases n with
  | zero => exact h
  | succ n =>
    rw [Function.iterate_succ_apply']
    exact increment_le _

/-- A rejection is counted within the bound. -/
theorem Counted.reject (h : Counted s) (event : FusionEvent) : Counted (s.reject event) :=
  ⟨h.accepted, increment_le _, h.duplicate, h.evicted⟩

/-- A repetition is counted within the bound. -/
theorem Counted.countDuplicate (h : Counted s) : Counted s.countDuplicate :=
  ⟨h.accepted, h.rejected, increment_le _, h.evicted⟩

/-- Only counts and the event changed, and the counts stay within their bound. -/
def Silent (s s' : FusionState) : Prop := Quiet s s' ∧ (Counted s → Counted s')

/-- A rejection is silent. -/
theorem silent_reject (s : FusionState) (event : FusionEvent) : Silent s (s.reject event) :=
  ⟨quiet_reject s event, fun h => h.reject event⟩

/-- Nothing changed. -/
theorem Silent.refl (s : FusionState) : Silent s s := ⟨Quiet.refl s, fun h => h⟩

/-- The frames of a time are taken from both queues. -/
def FusionState.taken (s : FusionState) (t : Nat) : FusionState :=
  { s with
    rgb := { s.rgb with pending := s.rgb.pending.remove t }
    depth := { s.depth with pending := s.depth.pending.remove t } }

/-- Both queues hold a frame of the time. -/
def BothPending (s : FusionState) (t : Nat) : Prop :=
  (∃ rgb, s.rgb.pending.get? t = some rgb) ∧ ∃ depth, s.depth.pending.get? t = some depth

/-- What pairing does to a state. -/
structure Settled (s s' : FusionState) (t : Nat) : Prop where
  /-- The requirement stays. -/
  requirement : s'.requirement = s.requirement
  /-- The lifecycle state stays. -/
  state : s'.state = s.state
  /-- The session stays. -/
  session : s'.session = s.session
  /-- The frames of the time are taken, or the queues stay. -/
  streams : (s'.rgb = s.rgb ∧ s'.depth = s.depth) ∨
    (s'.rgb = (s.taken t).rgb ∧ s'.depth = (s.taken t).depth ∧ BothPending s t)
  /-- The last accepted time stays, or is the time of the pair. -/
  accepted : s'.lastAcceptedAtNs = s.lastAcceptedAtNs ∨
    (s'.lastAcceptedAtNs = some t ∧ BothPending s t)
  /-- The counts stay within their bound. -/
  counted : Counted s → Counted s'

/-- Pairing counts within the bound. -/
theorem pair_counted (rgb : VisualFrameObservation) (depth : DepthFrameObservation)
    (h : Counted s) : Counted (pair p s rgb depth t now).1 := by
  rw [pair]
  cases s.requirement with
  | none => exact h
  | some requirement =>
    cases s.session with
    | none => exact h
    | some ids =>
      simp only
      split
      · exact h
      · exact ⟨increment_le _, h.rejected, h.duplicate, h.evicted⟩

/-- Pairing settles a time. -/
theorem tryPair_settled (s : FusionState) (t : Nat) (now : Int) :
    Settled s (tryPair p s t now).1 t := by
  have hmissing (h : s.rgb.pending.get? t = none ∨ s.depth.pending.get? t = none) :
      Settled s (tryPair p s t now).1 t := by
    rw [tryPair_missing h]
    exact ⟨rfl, rfl, rfl, Or.inl ⟨rfl, rfl⟩, Or.inl rfl,
      fun hcounted => ⟨hcounted.accepted, hcounted.rejected, hcounted.duplicate,
        hcounted.evicted⟩⟩
  cases hrgb : s.rgb.pending.get? t with
  | none => exact hmissing (Or.inl hrgb)
  | some rgb =>
    cases hdepth : s.depth.pending.get? t with
    | none => exact hmissing (Or.inr hdepth)
    | some depth =>
      have hboth : BothPending s t := ⟨⟨rgb, hrgb⟩, depth, hdepth⟩
      have htaken : (tryPair p s t now).1 = (pair p (s.taken t) rgb depth t now).1 := by
        simp only [tryPair, hrgb, hdepth]
        rfl
      obtain ⟨hrequirement, hstate, hsession, hrgbStream, hdepthStream, hlast⟩ :=
        @pair_fields p (s.taken t) rgb depth t now
      rw [htaken]
      exact {
        requirement := hrequirement
        state := hstate
        session := hsession
        streams := Or.inr ⟨hrgbStream, hdepthStream, hboth⟩
        accepted := hlast.imp id fun hnew => ⟨hnew, hboth⟩
        counted := fun hcounted => pair_counted rgb depth
          ⟨hcounted.accepted, hcounted.rejected, hcounted.duplicate, hcounted.evicted⟩ }

/-- A frame is stored exactly when none of its time is pending and no later one was stored. -/
theorem Stream.offer_stored {α : Type} [DecidableEq α] {stream stream' : Stream α} {frame : α} :
    stream.offer t frame = .stored stream' ↔ stream.pending.get? t = none ∧
      After stream.lastAtNs t ∧ ⟨stream.pending.set t frame, some t⟩ = stream' := by
  have hafter : After stream.lastAtNs t ↔
      ¬(stream.lastAtNs.any (fun last => decide (t < last)) = true) ∧
        stream.lastAtNs ≠ some t := by
    cases stream.lastAtNs with
    | none => simp [After]
    | some last =>
      simp only [After, Option.some.injEq, forall_eq', Option.any_some, decide_eq_true_eq, ne_eq]
      omega
  rw [Stream.offer, hafter]
  cases hexisting : stream.pending.get? t with
  | some existing =>
    by_cases hsame : existing = frame <;> simp [hsame]
  | none =>
    by_cases hregressed : stream.lastAtNs.any (fun last => decide (t < last)) = true
    · simp [hregressed]
    · by_cases hduplicate : stream.lastAtNs = some t
      · simp [hduplicate]
      · simp [hregressed, hduplicate]

/-- An offer is settled silently unless the frame was stored. -/
theorem settleOffer_cases {α : Type} (store : FusionState → Stream α → FusionState)
    (offer : Offer α) : Silent s (settleOffer p bounds s store t now offer).1 ∨
      ∃ stream, offer = .stored stream ∧ settleOffer p bounds s store t now offer =
        tryPair p (evictPending bounds (store s stream) t) t now := by
  cases offer with
  | repeated => exact Or.inl ⟨⟨rfl, rfl, rfl, rfl, rfl, rfl⟩, fun h => h.countDuplicate⟩
  | conflicting => exact Or.inl (silent_reject s _)
  | regressed => exact Or.inl (silent_reject s _)
  | duplicate =>
    exact Or.inl ⟨⟨rfl, rfl, rfl, rfl, rfl, rfl⟩, fun h => ⟨h.accepted, h.rejected,
      increment_le _, h.evicted⟩⟩
  | stored stream => exact Or.inr ⟨stream, rfl, rfl⟩

/-- The time checks are silent unless the time passes. -/
theorem submitTimed_cases
    (offer : FusionState → FusionState × Except FusionError (Option FusionAdmission)) :
    Silent s (submitTimed bounds s t now offer).1 ∨
      (After s.lastAcceptedAtNs t ∧ submitTimed bounds s t now offer = offer s) := by
  have hsilent : Silent s (validateTime bounds s t now).1 := by
    refine ⟨(validateTime_spec bounds s t now).1, fun h => ?_⟩
    rw [validateTime]
    split_ifs
    · exact h
    · exact h.reject _
    · exact h.reject _
    · exact h.reject _
    · exact ⟨h.accepted, h.rejected, increment_le _, h.evicted⟩
    · exact h
  obtain ⟨-, hpassed⟩ := validateTime_spec bounds s t now
  rw [submitTimed]
  cases hresult : validateTime bounds s t now with
  | mk timed verdict =>
    rw [hresult] at hsilent hpassed
    cases verdict with
    | error error => exact Or.inl hsilent
    | ok passed =>
      cases passed with
      | false => exact Or.inl hsilent
      | true =>
        obtain ⟨hsame, hafter⟩ := hpassed rfl
        simp only at hsame
        exact Or.inr ⟨hafter, by rw [hsame]⟩

end Calls

section Submitted

variable {p : Platform} {bounds : FusionBounds} {s s' : FusionState} {now : Int}

/-- A colour frame is stored, and what is too old leaves the queues. -/
def FusionState.withRgb (bounds : FusionBounds) (s : FusionState)
    (frame : VisualFrameObservation) : FusionState :=
  evictPending bounds { s with
    rgb := ⟨s.rgb.pending.set frame.observedAtNs frame, some frame.observedAtNs⟩ }
    frame.observedAtNs

/-- A depth frame is stored, and what is too old leaves the queues. -/
def FusionState.withDepth (bounds : FusionBounds) (s : FusionState)
    (frame : DepthFrameObservation) : FusionState :=
  evictPending bounds { s with
    depth := ⟨s.depth.pending.set frame.observedAtNs frame, some frame.observedAtNs⟩ }
    frame.observedAtNs

/-- Storing a colour frame counts within the bound. -/
theorem Counted.withRgb (h : Counted s) (frame : VisualFrameObservation) :
    Counted (s.withRgb bounds frame) :=
  ⟨h.accepted, h.rejected, h.duplicate, iterate_increment_le h.evicted _⟩

/-- Storing a depth frame counts within the bound. -/
theorem Counted.withDepth (h : Counted s) (frame : DepthFrameObservation) :
    Counted (s.withDepth bounds frame) :=
  ⟨h.accepted, h.rejected, h.duplicate, iterate_increment_le h.evicted _⟩

/-- `submit_rgb` is silent, or stores the frame and settles its time. -/
theorem submitRgb_cases (frame : VisualFrameObservation) :
    Silent s (submitRgb p bounds s frame now).1 ∨
      (After s.rgb.lastAtNs frame.observedAtNs ∧ After s.lastAcceptedAtNs frame.observedAtNs ∧
        Settled (s.withRgb bounds frame) (submitRgb p bounds s frame now).1
          frame.observedAtNs) := by
  rw [submitRgb]
  by_cases hstate : s.state = .active
  · rw [if_neg (not_not.mpr hstate)]
    cases s.requirement with
    | none => exact Or.inl (Silent.refl s)
    | some requirement =>
      simp only
      by_cases hmatches : requirement.MatchesRgb frame
      · rw [if_neg (not_not.mpr hmatches)]
        rcases submitTimed_cases (fun timed => settleOffer p bounds timed
          (fun s stream => { s with rgb := stream }) frame.observedAtNs now
          (timed.rgb.offer frame.observedAtNs frame)) with hsilent | ⟨hafter, hsame⟩
        · exact Or.inl hsilent
        · rw [hsame]
          rcases settleOffer_cases (fun s stream => { s with rgb := stream })
            (s.rgb.offer frame.observedAtNs frame) with hsilent | ⟨stream, hoffer, hsettled⟩
          · exact Or.inl hsilent
          · obtain ⟨-, hlast, rfl⟩ := Stream.offer_stored.mp hoffer
            rw [hsettled]
            exact Or.inr ⟨hlast, hafter, tryPair_settled _ _ _⟩
      · rw [if_pos hmatches]
        exact Or.inl (silent_reject s _)
  · rw [if_pos hstate]
    exact Or.inl (silent_reject s _)

/-- `submit_depth` is silent, or stores the frame and settles its time. -/
theorem submitDepth_cases (frame : DepthFrameObservation) :
    Silent s (submitDepth p bounds s frame now).1 ∨
      (After s.depth.lastAtNs frame.observedAtNs ∧ After s.lastAcceptedAtNs frame.observedAtNs ∧
        Settled (s.withDepth bounds frame) (submitDepth p bounds s frame now).1
          frame.observedAtNs) := by
  rw [submitDepth]
  by_cases hstate : s.state = .active
  · rw [if_neg (not_not.mpr hstate)]
    cases s.requirement with
    | none => exact Or.inl (Silent.refl s)
    | some requirement =>
      simp only
      by_cases hmatches : requirement.MatchesDepth frame
      · rw [if_neg (not_not.mpr hmatches)]
        by_cases hsession : s.session.map (·.depth) = some frame.sessionId.text
        · rw [if_neg (not_not.mpr hsession)]
          rcases submitTimed_cases (fun timed => settleOffer p bounds timed
            (fun s stream => { s with depth := stream }) frame.observedAtNs now
            (timed.depth.offer frame.observedAtNs frame)) with hsilent | ⟨hafter, hsame⟩
          · exact Or.inl hsilent
          · rw [hsame]
            rcases settleOffer_cases (fun s stream => { s with depth := stream })
              (s.depth.offer frame.observedAtNs frame) with hsilent | ⟨stream, hoffer, hsettled⟩
            · exact Or.inl hsilent
            · obtain ⟨-, hlast, rfl⟩ := Stream.offer_stored.mp hoffer
              rw [hsettled]
              exact Or.inr ⟨hlast, hafter, tryPair_settled _ _ _⟩
        · rw [if_pos hsession]
          exact Or.inl (silent_reject s _)
      · rw [if_pos hmatches]
        exact Or.inl (silent_reject s _)
  · rw [if_pos hstate]
    exact Or.inl (silent_reject s _)

/-- A refused frame leaves both streams. -/
theorem Silent.streams (h : Silent s s') :
    StreamStep bounds s.rgb s'.rgb s.depth s'.depth ∧
      StreamStep bounds s.depth s'.depth s.rgb s'.rgb :=
  ⟨.quiet h.1.rgb h.1.depth, .quiet h.1.depth h.1.rgb⟩

/-- A stored colour frame, seen from both streams. -/
theorem streams_of_rgb {frame : VisualFrameObservation}
    (hafter : After s.rgb.lastAtNs frame.observedAtNs)
    (h : Settled (s.withRgb bounds frame) s' frame.observedAtNs) :
    StreamStep bounds s.rgb s'.rgb s.depth s'.depth ∧
      StreamStep bounds s.depth s'.depth s.rgb s'.rgb := by
  rcases h.streams with ⟨hrgb, hdepth⟩ | ⟨hrgb, hdepth, -, other, hother⟩
  · rw [hrgb, hdepth]
    exact ⟨.ownStored frame.observedAtNs frame hafter rfl rfl (Or.inl rfl),
      .otherStored frame.observedAtNs rfl hafter rfl (Or.inl rfl)⟩
  · have hpending : s.depth.pending.get? frame.observedAtNs = some other :=
      Stream.get_evict hother
    rw [hrgb, hdepth]
    exact ⟨.ownStored frame.observedAtNs frame hafter rfl rfl (Or.inr ⟨rfl, other, hpending⟩),
      .otherStored frame.observedAtNs rfl hafter rfl (Or.inr rfl)⟩

/-- A stored depth frame, seen from both streams. -/
theorem streams_of_depth {frame : DepthFrameObservation}
    (hafter : After s.depth.lastAtNs frame.observedAtNs)
    (h : Settled (s.withDepth bounds frame) s' frame.observedAtNs) :
    StreamStep bounds s.rgb s'.rgb s.depth s'.depth ∧
      StreamStep bounds s.depth s'.depth s.rgb s'.rgb := by
  rcases h.streams with ⟨hrgb, hdepth⟩ | ⟨hrgb, hdepth, ⟨other, hother⟩, -⟩
  · rw [hrgb, hdepth]
    exact ⟨.otherStored frame.observedAtNs rfl hafter rfl (Or.inl rfl),
      .ownStored frame.observedAtNs frame hafter rfl rfl (Or.inl rfl)⟩
  · have hpending : s.rgb.pending.get? frame.observedAtNs = some other :=
      Stream.get_evict hother
    rw [hrgb, hdepth]
    exact ⟨.otherStored frame.observedAtNs rfl hafter rfl (Or.inr rfl),
      .ownStored frame.observedAtNs frame hafter rfl rfl (Or.inr ⟨rfl, other, hpending⟩)⟩

end Submitted

section Sessions

/-- A session identity is an identifier when its label is. -/
theorem sessionId_canonical {p : Platform} {label requirementId : PyStr} {epoch : Nat}
    (hlabel : identifierRest false (label ++ py "-sha256-" ++ py "0") = true)
    (hlength : label.length ≤ 100) :
    IsCanonical 256 (sessionId p label requirementId epoch) := by
  have hhex := p.sha256_hex (label ++ py "|" ++ requirementId ++ py "|" ++ natDigits epoch)
  have hmiddle : (py "-sha256-").length = 8 := by decide
  constructor
  · have hsome : p.sha256 (label ++ py "|" ++ requirementId ++ py "|" ++ natDigits epoch) ≠ [] := by
      intro hnone
      have hdigits := hhex.1
      rw [hnone] at hdigits
      cases hdigits
    rw [isIdentifier, sessionId, identifierRest_hex hhex.2 hsome]
    exact hlabel
  · rw [sessionId, List.length_append, List.length_append, hmiddle, hhex.1]
    omega

end Sessions

section Reachable

variable {p : Platform} {bounds : FusionBounds} {s s' : FusionState}

/-- What holds in every reachable state. -/
structure Ready (s : FusionState) : Prop where
  /-- The colour queue is in order. -/
  rgb : s.rgb.Ordered
  /-- The depth queue is in order. -/
  depth : s.depth.Ordered
  /-- The queues are bounded. -/
  bounded : Bounded s
  /-- Both streams reached the time of the last pair. -/
  accepted : ∀ t, s.lastAcceptedAtNs = some t →
    Reached s.rgb.lastAtNs t ∧ Reached s.depth.lastAtNs t
  /-- The counts are within their bound. -/
  counted : Counted s
  /-- Without a session there is no pair. -/
  idle : s.state ≠ .active → s.lastAcceptedAtNs = none
  /-- A session has a requirement and identities. -/
  active : s.state = .active → ∃ requirement ids, s.requirement = some requirement ∧
    s.session = some ids ∧ IsCanonical 256 ids.rgb ∧ IsCanonical 256 ids.synchronization

/-- A state with empty queues. -/
theorem Ready.of_cleared (hrgb : s.rgb = .cleared) (hdepth : s.depth = .cleared)
    (hlast : s.lastAcceptedAtNs = none) (hcounted : Counted s)
    (hactive : s.state = .active → ∃ requirement ids, s.requirement = some requirement ∧
      s.session = some ids ∧ IsCanonical 256 ids.rgb ∧ IsCanonical 256 ids.synchronization) :
    Ready s where
  rgb := by
    intro t f hf
    rw [hrgb] at hf
    cases hf
  depth := by
    intro t f hf
    rw [hdepth] at hf
    cases hf
  bounded := ⟨by rw [hrgb]; decide, by rw [hdepth]; decide⟩
  accepted := by
    intro t ht
    rw [hlast] at ht
    cases ht
  counted := hcounted
  idle := fun _ => hlast
  active := hactive

/-- A silent call. -/
theorem Ready.silent (h : Ready s) (hsilent : Silent s s') : Ready s' := by
  obtain ⟨hquiet, hcounted⟩ := hsilent
  exact {
    rgb := hquiet.rgb ▸ h.rgb
    depth := hquiet.depth ▸ h.depth
    bounded := ⟨hquiet.rgb ▸ h.bounded.rgb, hquiet.depth ▸ h.bounded.depth⟩
    accepted := by
      rw [hquiet.lastAcceptedAtNs, hquiet.rgb, hquiet.depth]
      exact h.accepted
    counted := hcounted h.counted
    idle := by
      rw [hquiet.state, hquiet.lastAcceptedAtNs]
      exact h.idle
    active := by
      rw [hquiet.state, hquiet.requirement, hquiet.session]
      exact h.active }

/-- A stream never falls behind. -/
theorem StreamStep.reached {α β : Type} {own own' : Stream α} {other other' : Stream β} {t : Nat}
    (hstep : StreamStep bounds own own' other other') (h : Reached own.lastAtNs t) :
    Reached own'.lastAtNs t := by
  obtain ⟨latest, hlatest, hle⟩ := h
  cases hstep with
  | quiet hown hother => exact ⟨latest, hown ▸ hlatest, hle⟩
  | ownStored u g hafter hlast hother hpending =>
    exact ⟨u, hlast, hle.trans (hafter latest hlatest).le⟩
  | otherStored u hlast hafter hown hpending => exact ⟨latest, hown.trans hlatest, hle⟩

/-- Settling a time keeps the last stored times. -/
theorem Settled.lastAtNs {t : Nat} (h : Settled s s' t) :
    s'.rgb.lastAtNs = s.rgb.lastAtNs ∧ s'.depth.lastAtNs = s.depth.lastAtNs := by
  rcases h.streams with ⟨hrgb, hdepth⟩ | ⟨hrgb, hdepth, -⟩
  · rw [hrgb, hdepth]
    exact ⟨rfl, rfl⟩
  · rw [hrgb, hdepth]
    exact ⟨rfl, rfl⟩

/-- Settling a time bounds the queues. -/
theorem Settled.bounded {t : Nat} (h : Settled s s' t) (hbounded : Bounded s) : Bounded s' := by
  rcases h.streams with ⟨hrgb, hdepth⟩ | ⟨hrgb, hdepth, -⟩
  · exact ⟨hrgb ▸ hbounded.rgb, hdepth ▸ hbounded.depth⟩
  · rw [FusionState.taken] at hrgb hdepth
    exact ⟨by rw [hrgb]; exact (size_remove_le _ _).trans hbounded.rgb,
      by rw [hdepth]; exact (size_remove_le _ _).trans hbounded.depth⟩

/-- A stored frame. -/
theorem Ready.settled {s₁ : FusionState} {t : Nat} (h : Ready s) (hsettled : Settled s₁ s' t)
    (hrequirement : s₁.requirement = s.requirement) (hstate : s₁.state = s.state)
    (hsession : s₁.session = s.session) (hlast : s₁.lastAcceptedAtNs = s.lastAcceptedAtNs)
    (hrgb : s₁.rgb.Ordered) (hdepth : s₁.depth.Ordered) (hbounded : Bounded s₁)
    (hcounted : Counted s₁) (hactive : s.state = .active)
    (hstep : StreamStep bounds s.rgb s'.rgb s.depth s'.depth)
    (hstep' : StreamStep bounds s.depth s'.depth s.rgb s'.rgb) : Ready s' where
  rgb := hstep.ordered h.rgb
  depth := hstep'.ordered h.depth
  bounded := hsettled.bounded hbounded
  accepted := by
    obtain ⟨hrgbLast, hdepthLast⟩ := hsettled.lastAtNs
    intro u hu
    rcases hsettled.accepted with hsame | ⟨hnew, ⟨rgb, hpending⟩, depth, hpending'⟩
    · have hbefore := h.accepted u (by rw [← hlast, ← hsame]; exact hu)
      exact ⟨hstep.reached hbefore.1, hstep'.reached hbefore.2⟩
    · obtain rfl : t = u := Option.some.inj (hnew.symm.trans hu)
      rw [hrgbLast, hdepthLast]
      exact ⟨hrgb t rgb hpending, hdepth t depth hpending'⟩
  counted := hsettled.counted hcounted
  idle := fun hinactive => absurd (hsettled.state.trans (hstate.trans hactive)) hinactive
  active := by
    rw [hsettled.state, hstate, hsettled.requirement, hrequirement, hsettled.session, hsession]
    exact h.active

variable {now : Int}

/-- `submit_rgb` keeps the invariant and moves both streams by a step. -/
theorem Ready.submitRgb (h : Ready s) (hactive : s.state = .active)
    (frame : VisualFrameObservation) : Ready (submitRgb p bounds s frame now).1 ∧
      StreamStep bounds s.rgb (submitRgb p bounds s frame now).1.rgb
        s.depth (submitRgb p bounds s frame now).1.depth ∧
      StreamStep bounds s.depth (submitRgb p bounds s frame now).1.depth
        s.rgb (submitRgb p bounds s frame now).1.rgb := by
  rcases @submitRgb_cases p bounds s now frame with hsilent | ⟨hafter, -, hsettled⟩
  · exact ⟨h.silent hsilent, hsilent.streams⟩
  · have hstreams := streams_of_rgb hafter hsettled
    have hrgb : (s.withRgb bounds frame).rgb.Ordered := (h.rgb.store hafter frame).evict
    have hdepth : (s.withRgb bounds frame).depth.Ordered := h.depth.evict
    exact ⟨h.settled hsettled rfl rfl rfl rfl hrgb hdepth (bounded_evictPending _)
      (h.counted.withRgb frame) hactive hstreams.1 hstreams.2, hstreams⟩

/-- `submit_depth` keeps the invariant and moves both streams by a step. -/
theorem Ready.submitDepth (h : Ready s) (hactive : s.state = .active)
    (frame : DepthFrameObservation) : Ready (submitDepth p bounds s frame now).1 ∧
      StreamStep bounds s.rgb (submitDepth p bounds s frame now).1.rgb
        s.depth (submitDepth p bounds s frame now).1.depth ∧
      StreamStep bounds s.depth (submitDepth p bounds s frame now).1.depth
        s.rgb (submitDepth p bounds s frame now).1.rgb := by
  rcases @submitDepth_cases p bounds s now frame with hsilent | ⟨hafter, -, hsettled⟩
  · exact ⟨h.silent hsilent, hsilent.streams⟩
  · have hstreams := streams_of_depth hafter hsettled
    have hrgb : (s.withDepth bounds frame).rgb.Ordered := h.rgb.evict
    have hdepth : (s.withDepth bounds frame).depth.Ordered := (h.depth.store hafter frame).evict
    exact ⟨h.settled hsettled rfl rfl rfl rfl hrgb hdepth (bounded_evictPending _)
      (h.counted.withDepth frame) hactive hstreams.1 hstreams.2, hstreams⟩

/-- Every call keeps the invariant. -/
theorem Ready.perform (h : Ready s) (call : FusionCall) : Ready (perform p bounds s call).1 := by
  have hcounted := h.counted
  cases call with
  | configure requirement =>
    rw [Rgbd.perform, configure]
    by_cases hstate : s.state = .unconfigured ∨ s.state = .inactive
    · rw [if_pos hstate]
      have hinactive : s.state ≠ .active := by
        rcases hstate with hstate | hstate <;> rw [hstate] <;> decide
      exact .of_cleared rfl rfl (h.idle hinactive)
        ⟨hcounted.accepted, hcounted.rejected, hcounted.duplicate, hcounted.evicted⟩
        fun hactive => by cases hactive
    · rw [if_neg hstate]
      exact h
  | activate depthSessionId =>
    rw [Rgbd.perform, activate]
    cases hrequirement : s.requirement with
    | none => exact h
    | some requirement =>
      simp only
      by_cases hstate : s.state = .inactive
      · rw [if_neg (not_not.mpr hstate)]
        by_cases hempty : depthSessionId = []
        · rw [if_pos hempty]
          exact h
        · rw [if_neg hempty]
          exact .of_cleared rfl rfl rfl
            ⟨hcounted.accepted, hcounted.rejected, hcounted.duplicate, hcounted.evicted⟩
            fun _ => ⟨requirement, _, hrequirement, rfl,
              sessionId_canonical (by decide) (by decide),
              sessionId_canonical (by decide) (by decide)⟩
      · rw [if_pos hstate]
        exact h
  | deactivate =>
    rw [Rgbd.perform, deactivate]
    by_cases hstate : s.state = .active
    · rw [if_pos hstate]
      exact .of_cleared rfl rfl rfl
        ⟨hcounted.accepted, hcounted.rejected, hcounted.duplicate, hcounted.evicted⟩
        fun hactive => by cases hactive
    · rw [if_neg hstate]
      exact h
  | cleanup =>
    rw [Rgbd.perform, cleanup]
    by_cases hstate : s.state = .active
    · rw [if_pos hstate]
      exact h
    · rw [if_neg hstate]
      by_cases hfinal : s.state = .finalized
      · rw [if_pos hfinal]
        exact h
      · rw [if_neg hfinal]
        exact .of_cleared rfl rfl (h.idle hstate)
          ⟨hcounted.accepted, hcounted.rejected, hcounted.duplicate, hcounted.evicted⟩
          fun hactive => by cases hactive
  | shutdown =>
    exact .of_cleared rfl rfl rfl
      ⟨hcounted.accepted, hcounted.rejected, hcounted.duplicate, hcounted.evicted⟩
      fun hactive => by cases hactive
  | submitRgb frame now =>
    by_cases hactive : s.state = .active
    · exact (h.submitRgb hactive frame).1
    · rw [Rgbd.perform, Rgbd.submitRgb, if_pos hactive]
      exact h.silent (silent_reject s _)
  | submitDepth frame now =>
    by_cases hactive : s.state = .active
    · exact (h.submitDepth hactive frame).1
    · rw [Rgbd.perform, Rgbd.submitDepth, if_pos hactive]
      exact h.silent (silent_reject s _)

/-- The state after calls. -/
def FusionState.after (p : Platform) (bounds : FusionBounds) (s : FusionState)
    (calls : List FusionCall) : FusionState :=
  calls.foldl (fun state call => (Rgbd.perform p bounds state call).1) s

/-- A new synchronizer. -/
theorem ready_initial : Ready .initial :=
  .of_cleared rfl rfl rfl ⟨Nat.zero_le _, Nat.zero_le _, Nat.zero_le _, Nat.zero_le _⟩
    fun hactive => by cases hactive

/-- The invariant holds after every run. -/
theorem Ready.after (h : Ready s) (calls : List FusionCall) : Ready (s.after p bounds calls) := by
  induction calls generalizing s with
  | nil => exact h
  | cons call calls ih => exact ih (h.perform call)

/-- A call that ends a session. -/
def FusionCall.EndsSession (call : FusionCall) : Prop := call = .deactivate ∨ call = .shutdown

/-- The session stays, and each stream moves by a step. -/
structure Continues (bounds : FusionBounds) (s s' : FusionState) : Prop where
  requirement : s'.requirement = s.requirement
  /-- The lifecycle state. -/
  state : s'.state = s.state
  session : s'.session = s.session
  /-- The colour stream. -/
  rgb : StreamStep bounds s.rgb s'.rgb s.depth s'.depth
  depth : StreamStep bounds s.depth s'.depth s.rgb s'.rgb

/-- A silent call continues the session. -/
theorem Silent.continues (h : Silent s s') : Continues bounds s s' :=
  ⟨h.1.requirement, h.1.state, h.1.session, h.streams.1, h.streams.2⟩

/-- A call in a session that does not end it continues it. -/
theorem continues_perform (hactive : s.state = .active) {call : FusionCall}
    (hends : ¬call.EndsSession) : Continues bounds s (Rgbd.perform p bounds s call).1 := by
  cases call with
  | configure requirement =>
    have hrefused : ¬(s.state = .unconfigured ∨ s.state = .inactive) := by
      rw [hactive]
      decide
    rw [Rgbd.perform, configure, if_neg hrefused]
    exact (Silent.refl s).continues
  | activate depthSessionId =>
    have hrefused : s.state ≠ .inactive := by
      rw [hactive]
      decide
    rw [Rgbd.perform, activate]
    cases s.requirement with
    | none => exact (Silent.refl s).continues
    | some requirement =>
      simp only
      rw [if_pos hrefused]
      exact (Silent.refl s).continues
  | deactivate => exact absurd (Or.inl rfl) hends
  | cleanup =>
    rw [Rgbd.perform, cleanup, if_pos hactive]
    exact (Silent.refl s).continues
  | shutdown => exact absurd (Or.inr rfl) hends
  | submitRgb frame now =>
    rcases @submitRgb_cases p bounds s now frame with hsilent | ⟨hafter, -, hsettled⟩
    · exact hsilent.continues
    · have hstreams := streams_of_rgb hafter hsettled
      exact ⟨hsettled.requirement, hsettled.state, hsettled.session, hstreams.1, hstreams.2⟩
  | submitDepth frame now =>
    rcases @submitDepth_cases p bounds s now frame with hsilent | ⟨hafter, -, hsettled⟩
    · exact hsilent.continues
    · have hstreams := streams_of_depth hafter hsettled
      exact ⟨hsettled.requirement, hsettled.state, hsettled.session, hstreams.1, hstreams.2⟩

/-- What a run in a session keeps. -/
structure Lasts (bounds : FusionBounds) (s s' : FusionState) : Prop where
  requirement : s'.requirement = s.requirement
  /-- The lifecycle state. -/
  state : s'.state = s.state
  session : s'.session = s.session
  /-- A waiting colour frame. -/
  rgb : ∀ t f, Waits bounds t f s.rgb s.depth → Waits bounds t f s'.rgb s'.depth
  /-- A waiting depth frame. -/
  depth : ∀ t f, Waits bounds t f s.depth s.rgb → Waits bounds t f s'.depth s'.rgb

/-- A waiting frame waits throughout a run in its session, or the state shows why it does not. -/
theorem Ready.lasts (h : Ready s) (hactive : s.state = .active) {calls : List FusionCall}
    (hsession : ∀ call ∈ calls, ¬call.EndsSession) : Lasts bounds s (s.after p bounds calls) := by
  induction calls generalizing s with
  | nil => exact ⟨rfl, rfl, rfl, fun _ _ hwaits => hwaits, fun _ _ hwaits => hwaits⟩
  | cons call calls ih =>
    rw [List.forall_mem_cons] at hsession
    have hready : Ready (Rgbd.perform p bounds s call).1 := h.perform call
    have hcontinues : Continues bounds s (Rgbd.perform p bounds s call).1 :=
      continues_perform hactive hsession.1
    have hrest := ih hready (hcontinues.state.trans hactive) hsession.2
    exact {
      requirement := hrest.requirement.trans hcontinues.requirement
      state := hrest.state.trans hcontinues.state
      session := hrest.session.trans hcontinues.session
      rgb := fun t f hwaits => hrest.rgb t f (hwaits.step h.rgb h.depth hcontinues.rgb)
      depth := fun t f hwaits => hrest.depth t f (hwaits.step h.depth h.rgb hcontinues.depth) }

end Reachable

section Pairing

variable {p : Platform} {bounds : FusionBounds} {s : FusionState} {t : Nat} {now : Int}
  {rgb : VisualFrameObservation} {depth : DepthFrameObservation}

/-- A time that the time checks let pass unless a pair is as late. -/
def Fresh (bounds : FusionBounds) (t : Nat) (now : Int) : Prop :=
  0 ≤ now ∧ (t : Int) ≤ now + bounds.futureSkewNs ∧ now - bounds.retentionNs ≤ t

/-- A fresh time after the last pair passes the time checks. -/
theorem submitTimed_fresh (hfresh : Fresh bounds t now) (hafter : After s.lastAcceptedAtNs t)
    (offer : FusionState → FusionState × Except FusionError (Option FusionAdmission)) :
    submitTimed bounds s t now offer = offer s := by
  obtain ⟨hnow, hfuture, hstale⟩ := hfresh
  have hregressed : ¬(s.lastAcceptedAtNs.any (fun last => decide (t < last)) = true) := by
    intro hany
    cases hlast : s.lastAcceptedAtNs with
    | none =>
      rw [hlast] at hany
      cases hany
    | some last =>
      have hbefore := hafter last hlast
      rw [hlast, Option.any_some, decide_eq_true_eq] at hany
      omega
  have hduplicate : s.lastAcceptedAtNs ≠ some t := fun hlast => lt_irrefl t (hafter t hlast)
  rw [submitTimed, validateTime, if_neg (by omega), if_neg (by omega), if_neg (by omega),
    if_neg hregressed, if_neg hduplicate]

/-- A time after the last stored one is after the last pair. -/
theorem Ready.after_accepted (h : Ready s)
    (hlast : After s.rgb.lastAtNs t ∨ After s.depth.lastAtNs t) : After s.lastAcceptedAtNs t := by
  intro earlier hearlier
  obtain ⟨⟨latest, hlatest, hle⟩, latest', hlatest', hle'⟩ := h.accepted earlier hearlier
  rcases hlast with hafter | hafter
  · exact hle.trans_lt (hafter latest hlatest)
  · exact hle'.trans_lt (hafter latest' hlatest')

/-- A valid colour frame in order is stored. -/
theorem Ready.submitRgb_eq (h : Ready s) (hactive : s.state = .active)
    {requirement : FusionRequirement} (hrequirement : s.requirement = some requirement)
    (hmatches : requirement.MatchesRgb rgb) (hfresh : Fresh bounds rgb.observedAtNs now)
    (hlast : After s.rgb.lastAtNs rgb.observedAtNs) : Rgbd.submitRgb p bounds s rgb now =
      tryPair p (s.withRgb bounds rgb) rgb.observedAtNs now := by
  have hnone : s.rgb.pending.get? rgb.observedAtNs = none := by
    rw [Option.eq_none_iff_forall_ne_some]
    intro frame hframe
    exact hlast.not_reached (h.rgb _ frame hframe)
  rw [Rgbd.submitRgb, if_neg (not_not.mpr hactive), hrequirement]
  simp only
  rw [if_neg (not_not.mpr hmatches), submitTimed_fresh hfresh (h.after_accepted (Or.inl hlast)),
    Stream.offer_stored.mpr ⟨hnone, hlast, rfl⟩]
  rfl

/-- A valid depth frame in order is stored. -/
theorem Ready.submitDepth_eq (h : Ready s) (hactive : s.state = .active)
    {requirement : FusionRequirement} (hrequirement : s.requirement = some requirement)
    (hmatches : requirement.MatchesDepth depth)
    (hsession : s.session.map (·.depth) = some depth.sessionId.text)
    (hfresh : Fresh bounds depth.observedAtNs now)
    (hlast : After s.depth.lastAtNs depth.observedAtNs) : Rgbd.submitDepth p bounds s depth now =
      tryPair p (s.withDepth bounds depth) depth.observedAtNs now := by
  have hnone : s.depth.pending.get? depth.observedAtNs = none := by
    rw [Option.eq_none_iff_forall_ne_some]
    intro frame hframe
    exact hlast.not_reached (h.depth _ frame hframe)
  rw [Rgbd.submitDepth, if_neg (not_not.mpr hactive), hrequirement]
  simp only
  rw [if_neg (not_not.mpr hmatches), if_neg (not_not.mpr hsession),
    submitTimed_fresh hfresh (h.after_accepted (Or.inr hlast)),
    Stream.offer_stored.mpr ⟨hnone, hlast, rfl⟩]
  rfl

/-- The tag of a depth session is an identifier. -/
theorem depthSession_canonical (id : DepthSessionId) : IsCanonical 256 id.text := by
  have hdigest := id.digest.hex
  have hsome : id.digest.text ≠ [] := by
    intro hnone
    have hlength := hdigest.1
    rw [hnone] at hlength
    cases hlength
  have htag : (py "depth-camera-session-sha256-").length = 28 := by decide
  constructor
  · rw [isIdentifier, TaggedDigest.text, identifierRest_hex hdigest.2 hsome]
    decide
  · rw [TaggedDigest.text, List.length_append, htag, hdigest.1]
    decide

/-- Two matching frames of one time may be paired. -/
theorem pairable {requirement : FusionRequirement} {ids : SessionIds}
    (hrgb : requirement.MatchesRgb rgb) (hdepth : requirement.MatchesDepth depth)
    (htime : rgb.observedAtNs = depth.observedAtNs) (hids : IsCanonical 256 ids.rgb)
    (hsession : ids.depth = depth.sessionId.text) (hids' : IsCanonical 256 ids.synchronization) :
    Pairable requirement.robotId requirement.fusionSensor rgb depth
      (requirement.sources ids.rgb ids.depth ids.synchronization)
      requirement.fusionProvenance := by
  obtain ⟨hrobot, hsensor, hprovenance, -⟩ := hrgb
  obtain ⟨hrobot', hsensor', hprovenance', -⟩ := hdepth
  exact {
    sensor_kind := requirement.sensor_kinds.1
    robot_eq := ⟨hrobot, hrobot'⟩
    time_eq := htime
    canonical := ⟨hids, hsession ▸ depthSession_canonical depth.sessionId, hids'⟩
    mounts := by
      rw [hsensor, hsensor']
      exact requirement.mounts
    clock_eq := by
      rw [hprovenance, hprovenance']
      exact requirement.clock_eq }

/-- The pair of two frames in a session, with the time of the call that returns it. -/
def IsPair (p : Platform) (s : FusionState) (rgb : VisualFrameObservation)
    (depth : DepthFrameObservation) (now : Int) (observation : FusedRgbdObservation) : Prop :=
  ∃ requirement ids, s.requirement = some requirement ∧ s.session = some ids ∧
    FusedRgbdObservation.build p requirement.robotId requirement.fusionSensor rgb depth
      (requirement.sources ids.rgb ids.depth ids.synchronization)
      (max now.toNat rgb.observedAtNs) requirement.fusionProvenance .available = .ok observation

/-- A pair was accepted. -/
def FusionState.paired (s : FusionState) (t : Nat) : FusionState :=
  { s with
    lastAcceptedAtNs := some t
    acceptedCount := increment s.acceptedCount
    event := .pairAccepted }

/-- A pair that can be built is accepted. -/
theorem pair_of_build {requirement : FusionRequirement} {ids : SessionIds}
    {observation : FusedRgbdObservation} (hrequirement : s.requirement = some requirement)
    (hids : s.session = some ids)
    (hbuild : FusedRgbdObservation.build p requirement.robotId requirement.fusionSensor rgb depth
      (requirement.sources ids.rgb ids.depth ids.synchronization)
      (max now.toNat t) requirement.fusionProvenance .available = .ok observation) :
    pair p s rgb depth t now = (s.paired t, do
      (s.paired t).diagnostics.check
      issueAdmission observation requirement (s.paired t).diagnostics) := by
  cases s
  simp only at hrequirement hids
  subst hrequirement
  subst hids
  simp only [pair, hbuild]
  rfl

/-- The diagnostics of a bounded state pass their checks. -/
theorem diagnostics_check (hcounted : Counted s) (hbounded : Bounded s) :
    s.diagnostics.check = .ok () := by
  have hfew : maxRgbdPendingPerStream ≤ maxRgbdCount := by decide
  rw [FusionDiagnostics.check, Checks.require_bind_ok, Checks.require_ok]
  simp only [FusionDiagnostics.counts, FusionState.diagnostics, List.forall_mem_cons]
  exact ⟨⟨hcounted.accepted, hcounted.rejected, hcounted.duplicate, hcounted.evicted,
    hbounded.rgb.trans hfew, hbounded.depth.trans hfew, List.forall_mem_nil _⟩, hbounded.rgb,
    hbounded.depth⟩

/-- A pending pair is returned exactly when it can be built. -/
theorem tryPair_iff (hcounted : Counted s) (hbounded : Bounded s)
    (hrgb : s.rgb.pending.get? t = some rgb) (hdepth : s.depth.pending.get? t = some depth)
    (htime : rgb.observedAtNs = t) :
    (∃ admission, (tryPair p s t now).2 = .ok (some admission) ∧
      IsPair p s rgb depth now admission.observation) ↔
        ∃ observation, IsPair p s rgb depth now observation := by
  constructor
  · rintro ⟨admission, -, hpair⟩
    exact ⟨admission.observation, hpair⟩
  · rintro ⟨observation, requirement, ids, hrequirement, hids, hbuild⟩
    have hsensor := (FusedRgbdObservation.build_ok hbuild).2.1
    have hpaired : Counted ((s.taken t).paired t) :=
      ⟨increment_le _, hcounted.rejected, hcounted.duplicate, hcounted.evicted⟩
    have hfew : Bounded ((s.taken t).paired t) :=
      ⟨(size_remove_le s.rgb.pending t).trans hbounded.rgb,
        (size_remove_le s.depth.pending t).trans hbounded.depth⟩
    have hadmission : (pair p (s.taken t) rgb depth t now).2 =
        .ok ⟨observation, requirement, ((s.taken t).paired t).diagnostics⟩ := by
      have hrequirement' : (s.taken t).requirement = some requirement := hrequirement
      have hids' : (s.taken t).session = some ids := hids
      rw [htime] at hbuild
      rw [pair_of_build hrequirement' hids' hbuild]
      simp only
      rw [diagnostics_check hpaired hfew, Checks.ok_bind, issueAdmission, Checks.require_bind_ok]
      exact ⟨hsensor, rfl⟩
    refine ⟨⟨observation, requirement, ((s.taken t).paired t).diagnostics⟩, ?_, requirement, ids,
      hrequirement, hids, hbuild⟩
    rw [FusionState.taken] at hadmission
    simp only [tryPair, hrgb, hdepth, hadmission]
    rfl

end Pairing

section Arrivals

/-- Which of two frames arrives first. -/
inductive ArrivalOrder where
  | rgbFirst | depthFirst
  deriving DecidableEq, Repr

namespace ArrivalOrder

/-- The submission of the first frame. -/
def first (order : ArrivalOrder) (rgb : VisualFrameObservation) (depth : DepthFrameObservation)
    (nowNs : Int) : FusionCall :=
  match order with
  | .rgbFirst => .submitRgb rgb nowNs
  | .depthFirst => .submitDepth depth nowNs

/-- The submission of the second frame. -/
def second (order : ArrivalOrder) (rgb : VisualFrameObservation) (depth : DepthFrameObservation)
    (nowNs : Int) : FusionCall :=
  match order with
  | .rgbFirst => .submitDepth depth nowNs
  | .depthFirst => .submitRgb rgb nowNs

/-- The time stored last in the stream of the first frame. -/
def firstLast (order : ArrivalOrder) (s : FusionState) : Option Nat :=
  match order with
  | .rgbFirst => s.rgb.lastAtNs
  | .depthFirst => s.depth.lastAtNs

/-- The time stored last in the stream of the second frame. -/
def secondLast (order : ArrivalOrder) (s : FusionState) : Option Nat :=
  match order with
  | .rgbFirst => s.depth.lastAtNs
  | .depthFirst => s.rgb.lastAtNs

/-- Every place of the queue of the first frame is taken by a later frame. -/
def Crowded (order : ArrivalOrder) (s : FusionState) (t : Nat) : Prop :=
  match order with
  | .rgbFirst => s.rgb.Crowded t
  | .depthFirst => s.depth.Crowded t

end ArrivalOrder

variable {p : Platform} {bounds : FusionBounds} {order : ArrivalOrder}
  {rgb : VisualFrameObservation} {depth : DepthFrameObservation} {s : FusionState}
  {firstNow secondNow : Int} {between : List FusionCall}

/-- The state at the second arrival. -/
def atSecond (p : Platform) (bounds : FusionBounds) (order : ArrivalOrder)
    (rgb : VisualFrameObservation) (depth : DepthFrameObservation) (s : FusionState)
    (firstNow : Int) (between : List FusionCall) : FusionState :=
  s.after p bounds (order.first rgb depth firstNow :: between)

/-- Two frames of one time arrive in one session, and the first waits for the second. In order,
they are later than every pair before. -/
structure Arrivals (p : Platform) (bounds : FusionBounds) (order : ArrivalOrder)
    (rgb : VisualFrameObservation) (depth : DepthFrameObservation) (s : FusionState)
    (firstNow : Int) (between : List FusionCall) (secondNow : Int) : Prop where
  /-- The first frame arrives in a session. -/
  active : s.state = .active
  /-- The frames are the ones required. -/
  matching : ∃ requirement, s.requirement = some requirement ∧ requirement.MatchesRgb rgb ∧
    requirement.MatchesDepth depth
  /-- The depth frame is of the depth session. -/
  depth_session : s.session.map (·.depth) = some depth.sessionId.text
  /-- The frames were acquired at one time. -/
  time_eq : rgb.observedAtNs = depth.observedAtNs
  /-- The first frame is neither early nor stale. -/
  first_fresh : Fresh bounds rgb.observedAtNs firstNow
  /-- The second frame is neither early nor stale. -/
  second_fresh : Fresh bounds rgb.observedAtNs secondNow
  /-- The first frame is in order. -/
  first_ordered : After (order.firstLast s) rgb.observedAtNs
  /-- The second frame is in order. -/
  second_ordered : After (order.secondLast (atSecond p bounds order rgb depth s firstNow between))
    rgb.observedAtNs
  /-- The session does not end in between. -/
  session : ∀ call ∈ between, ¬call.EndsSession
  /-- The stream of the first frame does not move past the waiting time. -/
  waited : ∀ latest,
    order.firstLast (atSecond p bounds order rgb depth s firstNow between) = some latest →
      latest ≤ rgb.observedAtNs + bounds.pairWaitNs
  /-- The bound on the queue does not remove the first frame. -/
  room : ¬order.Crowded (atSecond p bounds order rgb depth s firstNow between) rgb.observedAtNs

/-- A time that was not reached is still to come. -/
theorem reached_or_after (last : Option Nat) (t : Nat) : Reached last t ∨ After last t := by
  by_cases hafter : After last t
  · exact Or.inr hafter
  · rw [After] at hafter
    push Not at hafter
    obtain ⟨latest, hlast, hle⟩ := hafter
    exact Or.inl ⟨latest, hlast, hle⟩

/-- A frame that was just stored is pending after eviction. -/
theorem Stream.pending_stored {α : Type} {stream : Stream α} {t : Nat} {f : α} {cutoff : Int}
    (hordered : stream.Ordered) (hlast : After stream.lastAtNs t) (hage : cutoff ≤ t) :
    ((⟨stream.pending.set t f, some t⟩ : Stream α).evict cutoff).pending.get? t = some f := by
  have hstored : (⟨stream.pending.set t f, some t⟩ : Stream α).Holds t f :=
    Or.inl PyDict.get?_set_self
  rcases hstored.evict hage with hpending | hcrowded
  · exact hpending
  · obtain ⟨later, frame, hframe, hlt⟩ := hcrowded.exists_later
    obtain ⟨latest, hlatest, hle⟩ := hordered.store hlast f later frame (Stream.get_evict hframe)
    have heq : t = latest := Option.some.inj hlatest
    omega

/-- The first frame waits after its submission, or the second stream has passed it. -/
theorem Ready.waits_rgb (h : Ready s) (hlast : After s.rgb.lastAtNs rgb.observedAtNs) {now : Int}
    (hsettled : Rgbd.submitRgb p bounds s rgb now =
      tryPair p (s.withRgb bounds rgb) rgb.observedAtNs now) :
    Waits bounds rgb.observedAtNs rgb (Rgbd.submitRgb p bounds s rgb now).1.rgb
      (Rgbd.submitRgb p bounds s rgb now).1.depth := by
  rw [hsettled]
  rcases reached_or_after s.depth.lastAtNs rgb.observedAtNs with hreached | hother
  · have hstep := streams_of_rgb hlast
      (@tryPair_settled p (s.withRgb bounds rgb) rgb.observedAtNs now)
    exact Or.inl (hstep.2.reached hreached)
  · have hnone : (s.withRgb bounds rgb).depth.pending.get? rgb.observedAtNs = none := by
      rw [Option.eq_none_iff_forall_ne_some]
      intro frame hframe
      exact hother.not_reached (h.depth _ frame (Stream.get_evict hframe))
    rw [tryPair_missing (Or.inr hnone)]
    exact waits_of_pending (Stream.pending_stored h.rgb hlast (by omega))

/-- The first frame waits after its submission, or the second stream has passed it. -/
theorem Ready.waits_depth (h : Ready s) (hlast : After s.depth.lastAtNs depth.observedAtNs)
    {now : Int} (hsettled : Rgbd.submitDepth p bounds s depth now =
      tryPair p (s.withDepth bounds depth) depth.observedAtNs now) :
    Waits bounds depth.observedAtNs depth (Rgbd.submitDepth p bounds s depth now).1.depth
      (Rgbd.submitDepth p bounds s depth now).1.rgb := by
  rw [hsettled]
  rcases reached_or_after s.rgb.lastAtNs depth.observedAtNs with hreached | hother
  · have hstep := streams_of_depth hlast
      (@tryPair_settled p (s.withDepth bounds depth) depth.observedAtNs now)
    exact Or.inl (hstep.1.reached hreached)
  · have hnone : (s.withDepth bounds depth).rgb.pending.get? depth.observedAtNs = none := by
      rw [Option.eq_none_iff_forall_ne_some]
      intro frame hframe
      exact hother.not_reached (h.rgb _ frame (Stream.get_evict hframe))
    rw [tryPair_missing (Or.inl hnone)]
    exact waits_of_pending (Stream.pending_stored h.depth hlast (by omega))

/-- Two pending frames of a session are paired exactly when the result time is bounded. -/
theorem pairs_iff (s₃ : FusionState) {requirement : FusionRequirement} {t : Nat} {now : Int}
    (hready : Ready s) (hactive : s.state = .active)
    (hrequirement : s.requirement = some requirement) (hrgb : requirement.MatchesRgb rgb)
    (hdepth : requirement.MatchesDepth depth)
    (hsession : s.session.map (·.depth) = some depth.sessionId.text)
    (htime : rgb.observedAtNs = t) (htime' : depth.observedAtNs = t)
    (hsame : s₃.requirement = s.requirement) (hsame' : s₃.session = s.session)
    (hcounted : Counted s₃) (hbounded : Bounded s₃)
    (hpending : s₃.rgb.pending.get? t = some rgb)
    (hpending' : s₃.depth.pending.get? t = some depth) :
    (∃ admission, (tryPair p s₃ t now).2 = .ok (some admission) ∧
      IsPair p s rgb depth now admission.observation) ↔ now ≤ maxObservationTimeNs := by
  obtain ⟨required, ids, hrequired, hids, hrgbId, hpairId⟩ := hready.active hactive
  obtain rfl : required = requirement := Option.some.inj (hrequired.symm.trans hrequirement)
  have hdepthId : ids.depth = depth.sessionId.text := by
    rw [hids, Option.map_some, Option.some.injEq] at hsession
    exact hsession
  have hbuild := FusedRgbdObservation.exists_build_iff (p := p)
    (pairable hrgb hdepth (htime.trans htime'.symm) hrgbId hdepthId hpairId) (Or.inl rfl)
    (le_max_right now.toNat rgb.observedAtNs)
  have hview : ∀ observation, IsPair p s₃ rgb depth now observation ↔
      IsPair p s rgb depth now observation := by
    intro observation
    rw [IsPair, IsPair, hsame, hsame']
  have hexists : (∃ observation, IsPair p s₃ rgb depth now observation) ↔
      now ≤ maxObservationTimeNs := by
    have hframe := rgb.bounded.2
    have harith : max now.toNat rgb.observedAtNs ≤ maxObservationTimeNs ↔
        now ≤ maxObservationTimeNs := by
      rw [max_le_iff, and_iff_left hframe, Int.toNat_le]
    rw [← harith, ← hbuild]
    constructor
    · rintro ⟨observation, other, others, hother, hothers, hok⟩
      rw [hsame, hrequired, Option.some.injEq] at hother
      rw [hsame', hids, Option.some.injEq] at hothers
      subst hother
      subst hothers
      exact ⟨observation, hok⟩
    · rintro ⟨observation, hok⟩
      exact ⟨observation, required, ids, hsame.trans hrequired, hsame'.trans hids, hok⟩
  rw [← hexists, ← tryPair_iff hcounted hbounded hpending hpending' htime]
  simp only [hview]

/-- A reply with an admission. -/
theorem admission_reply {outcome : Except FusionError (Option FusionAdmission)}
    {admission : FusionAdmission} :
    FusionReply.admission <$> outcome = .ok (.admission (some admission)) ↔
      outcome = .ok (some admission) := by
  rw [Checks.map_ok]
  constructor
  · rintro ⟨result, hresult, hsame⟩
    rw [hresult, FusionReply.admission.inj hsame]
  · intro h
    exact ⟨some admission, h, rfl⟩

/-- A submission of either frame does not end the session. -/
theorem ArrivalOrder.first_lasts (order : ArrivalOrder) (rgb : VisualFrameObservation)
    (depth : DepthFrameObservation) (nowNs : Int) : ¬(order.first rgb depth nowNs).EndsSession := by
  cases order <;> simp [FusionCall.EndsSession, ArrivalOrder.first]

/-- The first frame is pending at the second arrival of a colour frame and a depth frame. -/
theorem Arrivals.rgb_pending (hready : Ready s)
    (h : Arrivals p bounds .rgbFirst rgb depth s firstNow between secondNow) :
    (atSecond p bounds .rgbFirst rgb depth s firstNow between).rgb.pending.get?
      rgb.observedAtNs = some rgb := by
  obtain ⟨requirement, hrequirement, hrgb, -⟩ := h.matching
  have hfirst := hready.submitRgb_eq (p := p) h.active hrequirement hrgb h.first_fresh
    h.first_ordered
  have hwaits := hready.waits_rgb h.first_ordered hfirst
  have hactive : (Rgbd.perform p bounds s (.submitRgb rgb firstNow)).1.state = .active :=
    (continues_perform h.active
      (ArrivalOrder.first_lasts .rgbFirst rgb depth firstNow)).state.trans h.active
  have hlasts : Lasts bounds (Rgbd.submitRgb p bounds s rgb firstNow).1
      (atSecond p bounds .rgbFirst rgb depth s firstNow between) :=
    (hready.submitRgb h.active rgb).1.lasts hactive h.session
  exact (hlasts.rgb _ _ hwaits).pending h.second_ordered h.waited h.room

/-- The first frame is pending at the second arrival of a depth frame and a colour frame. -/
theorem Arrivals.depth_pending (hready : Ready s)
    (h : Arrivals p bounds .depthFirst rgb depth s firstNow between secondNow) :
    (atSecond p bounds .depthFirst rgb depth s firstNow between).depth.pending.get?
      rgb.observedAtNs = some depth := by
  obtain ⟨requirement, hrequirement, -, hdepth⟩ := h.matching
  have hfresh := h.first_fresh
  have hordered : After s.depth.lastAtNs rgb.observedAtNs := h.first_ordered
  have hsecond := h.second_ordered
  have hwaited := h.waited
  have hroom := h.room
  rw [h.time_eq] at hfresh hordered hsecond hwaited hroom ⊢
  have hfirst := hready.submitDepth_eq (p := p) h.active hrequirement hdepth h.depth_session hfresh
    hordered
  have hwaits := hready.waits_depth hordered hfirst
  have hactive : (Rgbd.perform p bounds s (.submitDepth depth firstNow)).1.state = .active :=
    (continues_perform h.active
      (ArrivalOrder.first_lasts .depthFirst rgb depth firstNow)).state.trans h.active
  have hlasts : Lasts bounds (Rgbd.submitDepth p bounds s depth firstNow).1
      (atSecond p bounds .depthFirst rgb depth s firstNow between) :=
    (hready.submitDepth h.active depth).1.lasts hactive h.session
  exact (hlasts.depth _ _ hwaits).pending hsecond hwaited hroom

/-- The second arrival from any state that satisfies the invariant. -/
theorem Arrivals.paired_iff (hready : Ready s)
    (h : Arrivals p bounds order rgb depth s firstNow between secondNow) :
    (∃ admission, (Rgbd.perform p bounds (atSecond p bounds order rgb depth s firstNow between)
        (order.second rgb depth secondNow)).2 = .ok (.admission (some admission)) ∧
      IsPair p s rgb depth secondNow admission.observation) ↔
        secondNow ≤ maxObservationTimeNs := by
  obtain ⟨requirement, hrequirement, hrgb, hdepth⟩ := h.matching
  have hstay : Lasts bounds s (atSecond p bounds order rgb depth s firstNow between) :=
    hready.lasts h.active (List.forall_mem_cons.mpr ⟨order.first_lasts rgb depth firstNow, h.session⟩)
  have hready₂ : Ready (atSecond p bounds order rgb depth s firstNow between) := hready.after _
  have hactive₂ := hstay.state.trans h.active
  have hrequirement₂ := hstay.requirement.trans hrequirement
  have hcounted := hready₂.counted
  have htime := h.time_eq
  have hordered := h.second_ordered
  have hfresh := h.second_fresh
  cases order with
  | rgbFirst =>
    have hpending := h.rgb_pending hready
    rw [htime] at hordered hfresh hpending
    have hsubmit := hready₂.submitDepth_eq (p := p) hactive₂ hrequirement₂ hdepth
      (hstay.session ▸ h.depth_session) hfresh hordered
    have hage : (depth.observedAtNs : Int) - bounds.pairWaitNs ≤ depth.observedAtNs := by omega
    simp only [ArrivalOrder.second, Rgbd.perform, admission_reply, hsubmit]
    exact pairs_iff ((atSecond p bounds .rgbFirst rgb depth s firstNow between).withDepth bounds
      depth) hready h.active hrequirement hrgb hdepth h.depth_session htime rfl hstay.requirement
      hstay.session (hready₂.counted.withDepth depth) (bounded_evictPending _)
      (Stream.get_evict_of_bounded hpending hage hready₂.bounded.rgb)
      (Stream.pending_stored hready₂.depth hordered hage)
  | depthFirst =>
    have hpending := h.depth_pending hready
    have hsubmit := hready₂.submitRgb_eq (p := p) hactive₂ hrequirement₂ hrgb hfresh hordered
    have hage : (rgb.observedAtNs : Int) - bounds.pairWaitNs ≤ rgb.observedAtNs := by omega
    simp only [ArrivalOrder.second, Rgbd.perform, admission_reply, hsubmit]
    exact pairs_iff ((atSecond p bounds .depthFirst rgb depth s firstNow between).withRgb bounds
      rgb) hready h.active hrequirement hrgb hdepth h.depth_session rfl htime.symm
      hstay.requirement hstay.session (hready₂.counted.withRgb rgb) (bounded_evictPending _)
      (Stream.pending_stored hready₂.rgb hordered hage)
      (Stream.get_evict_of_bounded hpending hage hready₂.bounded.depth)

/-- After any run, the second of two frames of one time that arrive in order in one session, the
first of which still waits, is answered with their pair, whichever arrives first: exactly when its
submission does not come after the largest observation time. -/
theorem second_arrival_pairs_iff (p : Platform) (bounds : FusionBounds)
    (before between : List FusionCall) (order : ArrivalOrder) (rgb : VisualFrameObservation)
    (depth : DepthFrameObservation) (firstNow secondNow : Int)
    (h : Arrivals p bounds order rgb depth (FusionState.initial.after p bounds before) firstNow
      between secondNow) :
    (∃ admission, (perform p bounds
        (atSecond p bounds order rgb depth (FusionState.initial.after p bounds before) firstNow
          between) (order.second rgb depth secondNow)).2 = .ok (.admission (some admission)) ∧
      IsPair p (FusionState.initial.after p bounds before) rgb depth secondNow
        admission.observation) ↔ secondNow ≤ maxObservationTimeNs :=
  h.paired_iff (ready_initial.after before)

end Arrivals

section Latest

open Perception

/-- No skew is a skew within the bound. -/
theorem noSkew_bounded : 0 ≤ 1000000000 := Nat.zero_le _

/-- Frames wait a nanosecond and are kept for two. -/
def shortBounds : FusionBounds := ⟨1, 2, 0, by decide, noSkew_bounded⟩

/-- A colour frame of the largest observation time. -/
def latestColour : VisualFrameObservation :=
  { colourFrame 0 with
    observedAtNs := maxObservationTimeNs
    bounded := ⟨by decide, le_rfl⟩ }

/-- A depth frame of the largest observation time. -/
def latestDepth : DepthFrameObservation :=
  { depthFrame with
    observedAtNs := maxObservationTimeNs
    bounded := ⟨by decide, le_rfl⟩ }

/-- A synchronizer is configured and activated. -/
def startedCalls : List FusionCall :=
  [.configure pairRequirement, .activate latestDepth.sessionId.text]

/-- The synchronizer in its first session. -/
def startedState : FusionState := FusionState.initial.after .ascii shortBounds startedCalls

/-- It has a requirement and no frame. -/
theorem startedState_fields : startedState.state = .active ∧
    startedState.requirement = some pairRequirement ∧
    startedState.session.map (·.depth) = some latestDepth.sessionId.text ∧
    startedState.rgb = .cleared ∧ startedState.depth = .cleared := by
  refine ⟨rfl, rfl, rfl, rfl, rfl⟩

/-- The two frames arrive at once. -/
theorem latest_arrivals {secondNow : Int}
    (hfresh : Fresh shortBounds maxObservationTimeNs secondNow) :
    Arrivals .ascii shortBounds .rgbFirst latestColour latestDepth startedState
      maxObservationTimeNs [] secondNow := by
  obtain ⟨hactive, hrequirement, hsession, hrgb, hdepth⟩ := startedState_fields
  have hready : Ready startedState := ready_initial.after startedCalls
  have hmatches : pairRequirement.MatchesRgb latestColour := by decide
  have hfirst : Fresh shortBounds latestColour.observedAtNs maxObservationTimeNs := by
    simp only [Fresh, shortBounds, latestColour]
    omega
  have hordered : After startedState.rgb.lastAtNs latestColour.observedAtNs := by
    rw [hrgb]
    intro earlier hearlier
    cases hearlier
  have hstored := hready.submitRgb_eq (p := .ascii) hactive hrequirement hmatches hfirst hordered
  have hnone : (startedState.withRgb shortBounds latestColour).depth.pending.get?
      latestColour.observedAtNs = none := by
    rw [Option.eq_none_iff_forall_ne_some]
    intro frame hframe
    have hbefore : startedState.depth.pending.get? latestColour.observedAtNs = some frame :=
      Stream.get_evict hframe
    rw [hdepth] at hbefore
    cases hbefore
  have hsecond : atSecond .ascii shortBounds .rgbFirst latestColour latestDepth startedState
      maxObservationTimeNs [] =
        { startedState.withRgb shortBounds latestColour with event := .missingCounterpart } := by
    rw [tryPair_missing (Or.inr hnone)] at hstored
    exact congrArg Prod.fst hstored
  exact {
    active := hactive
    matching := ⟨pairRequirement, hrequirement, hmatches, by decide⟩
    depth_session := hsession
    time_eq := rfl
    first_fresh := hfirst
    second_fresh := hfresh
    first_ordered := hordered
    second_ordered := by
      rw [hsecond]
      intro earlier hearlier
      have hlast : startedState.depth.lastAtNs = some earlier := hearlier
      rw [hdepth] at hlast
      cases hlast
    session := List.forall_mem_nil _
    waited := by
      rw [hsecond]
      intro latest hlatest
      have hlast : latestColour.observedAtNs = latest := Option.some.inj hlatest
      omega
    room := by
      rw [hsecond]
      intro hcrowded
      have hpending := Stream.pending_stored (f := latestColour) hready.rgb hordered
        (show (latestColour.observedAtNs : Int) - shortBounds.pairWaitNs ≤
          latestColour.observedAtNs by omega)
      exact Stream.Crowded.not_pending hcrowded hpending }

/-- A submission at the largest observation time returns the pair. -/
theorem second_arrival_pairs_latest : ∃ admission, (perform .ascii shortBounds
    (atSecond .ascii shortBounds .rgbFirst latestColour latestDepth startedState
      maxObservationTimeNs []) (.submitDepth latestDepth maxObservationTimeNs)).2 =
        .ok (.admission (some admission)) ∧
      IsPair .ascii startedState latestColour latestDepth maxObservationTimeNs
        admission.observation := by
  have hfresh : Fresh shortBounds maxObservationTimeNs maxObservationTimeNs := by
    simp only [Fresh, shortBounds]
    omega
  exact (second_arrival_pairs_iff .ascii shortBounds startedCalls [] .rgbFirst latestColour
    latestDepth maxObservationTimeNs maxObservationTimeNs (latest_arrivals hfresh)).mpr le_rfl

/-- A nanosecond later the pair is lost, although both frames are fresh and in order. -/
theorem not_forall_second_arrival_pairs : ¬∀ (p : Platform) (bounds : FusionBounds)
    (before between : List FusionCall) (order : ArrivalOrder) (rgb : VisualFrameObservation)
    (depth : DepthFrameObservation) (firstNow secondNow : Int),
    Arrivals p bounds order rgb depth (FusionState.initial.after p bounds before) firstNow
      between secondNow → ∃ admission, (perform p bounds
        (atSecond p bounds order rgb depth (FusionState.initial.after p bounds before) firstNow
          between) (order.second rgb depth secondNow)).2 = .ok (.admission (some admission)) ∧
      IsPair p (FusionState.initial.after p bounds before) rgb depth secondNow
        admission.observation := by
  intro hall
  have hfresh : Fresh shortBounds maxObservationTimeNs (maxObservationTimeNs + 1) := by
    simp only [Fresh, shortBounds]
    omega
  have harrivals := latest_arrivals hfresh
  have hpair := hall .ascii shortBounds startedCalls [] .rgbFirst latestColour latestDepth
    maxObservationTimeNs (maxObservationTimeNs + 1) harrivals
  have hbound := (harrivals.paired_iff (ready_initial.after startedCalls)).mp hpair
  omega

end Latest

end Rgbd
end AyyoHumanoid
