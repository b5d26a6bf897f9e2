import AyyoHumanoid.PyDict
import AyyoHumanoid.RgbdModels

/-!
# The RGB-D synchronizer

`RgbdFusionLifecycleAdapter` queues the frames of two streams by acquisition
time and pairs frames of one time. A call returns a reply or raises, and may
have changed the state before it raised. Both streams are stored the same way,
so a stream is one type with the two queues as its instances.
-/

namespace AyyoHumanoid
namespace Rgbd

open PyText JsonText World

section Streams

/-- A queue by acquisition time and the time stored last. -/
structure Stream (α : Type) where
  /-- `_pending_rgb`, `_pending_depth`. -/
  pending : PyDict Nat α
  /-- `_last_rgb_at_ns`, `_last_depth_at_ns`. -/
  lastAtNs : Option Nat

/-- The part of `_clear_pending` for one stream. -/
def Stream.cleared {α : Type} : Stream α := ⟨PyDict.empty, none⟩

/-- What a stream makes of a frame. -/
inductive Offer (α : Type) where
  /-- The frame is pending already. -/
  | repeated
  /-- Another frame is pending at its time. -/
  | conflicting
  /-- A later frame was stored. -/
  | regressed
  /-- A frame of its time was stored. -/
  | duplicate
  | stored (stream : Stream α)

/-- The lookup of a pending frame, `_validate_stream_time` and the storing. -/
def Stream.offer {α : Type} [DecidableEq α] (stream : Stream α) (observedAtNs : Nat) (frame : α) :
    Offer α :=
  match stream.pending.get? observedAtNs with
  | some existing => if existing = frame then .repeated else .conflicting
  | none =>
    if stream.lastAtNs.any (fun last => decide (observedAtNs < last)) then .regressed
    else if stream.lastAtNs = some observedAtNs then .duplicate
    else .stored ⟨stream.pending.set observedAtNs frame, some observedAtNs⟩

/-- `_increment`. -/
def increment (value : Nat) : Nat := min (value + 1) maxRgbdCount

/-- The body of the loop of `_evict_pending`. -/
def Stream.evict {α : Type} (cutoff : Int) (stream : Stream α) : Stream α :=
  let recent := stream.pending.keep fun time _ => ¬(time : Int) < cutoff
  { stream with pending := recent.trim (fun time _ => time) maxRgbdPendingPerStream }

/-- The number of frames that leave a queue. -/
def Stream.evicted {α : Type} (cutoff : Int) (stream : Stream α) : Nat :=
  stream.pending.size - (stream.evict cutoff).pending.size

end Streams

/-- The bounds that the constructor checks. -/
structure FusionBounds where
  pairWaitNs : Nat
  retentionNs : Nat
  futureSkewNs : Nat
  /-- Frames wait for less than they are kept. -/
  waiting : pairWaitNs < retentionNs ∧ retentionNs ≤ 300000000000
  /-- The skew is at most a second. -/
  skew : futureSkewNs ≤ 1000000000

/-- The session identities, which are set and cleared together. -/
structure SessionIds where
  /-- `_rgb_session_id`. -/
  rgb : PyStr
  /-- `_depth_session_id`. -/
  depth : PyStr
  /-- `_synchronization_session_id`. -/
  synchronization : PyStr

/-- `RgbdFusionLifecycleAdapter`. -/
structure FusionState where
  requirement : Option FusionRequirement
  state : LifecycleState
  epoch : Nat
  /-- The session identities. -/
  session : Option SessionIds
  /-- The colour stream. -/
  rgb : Stream VisualFrameObservation
  depth : Stream DepthFrameObservation
  lastAcceptedAtNs : Option Nat
  acceptedCount : Nat
  rejectedCount : Nat
  duplicateCount : Nat
  evictedCount : Nat
  event : FusionEvent

namespace FusionState

/-- The state after the constructor. -/
def initial : FusionState where
  requirement := none
  state := .unconfigured
  epoch := 0
  session := none
  rgb := .cleared
  depth := .cleared
  lastAcceptedAtNs := none
  acceptedCount := 0
  rejectedCount := 0
  duplicateCount := 0
  evictedCount := 0
  event := .unconfigured

/-- `diagnostics`. -/
def diagnostics (state : FusionState) : FusionDiagnostics where
  lifecycleState := state.state
  event := state.event
  synchronizationSessionId := state.session.map (·.synchronization)
  rgbSessionId := state.session.map (·.rgb)
  depthSessionId := state.session.map (·.depth)
  acceptedCount := state.acceptedCount
  rejectedCount := state.rejectedCount
  duplicateCount := state.duplicateCount
  evictedCount := state.evictedCount
  pendingRgbCount := state.rgb.pending.size
  pendingDepthCount := state.depth.pending.size

/-- `_clear_pending`. -/
def clearPending (state : FusionState) : FusionState :=
  { state with rgb := .cleared, depth := .cleared }

/-- `_reject`. -/
def reject (state : FusionState) (event : FusionEvent) : FusionState :=
  { state with rejectedCount := increment state.rejectedCount, event := event }

/-- A frame was seen before. -/
def countDuplicate (state : FusionState) : FusionState :=
  { state with duplicateCount := increment state.duplicateCount }

end FusionState

section Lifecycle

/-- `configure`. -/
def configure (state : FusionState) (requirement : FusionRequirement) :
    FusionState × Except FusionError Unit :=
  if state.state = .unconfigured ∨ state.state = .inactive then
    ({ state.clearPending with
        requirement := some requirement
        state := .inactive
        event := .configured }, .ok ())
  else (state, .error (.lifecycle (py "RGB-D synchronizer cannot configure while active")))

/-- `_session`. -/
def sessionId (p : Platform) (label requirementId : PyStr) (epoch : Nat) : PyStr :=
  label ++ py "-sha256-" ++
    p.sha256 (label ++ py "|" ++ requirementId ++ py "|" ++ natDigits epoch)

/-- `activate`. -/
def activate (p : Platform) (state : FusionState) (depthSessionId : PyStr) :
    FusionState × Except FusionError (PyStr × PyStr) :=
  match state.requirement with
  | some requirement =>
    if state.state ≠ .inactive then
      (state, .error (.lifecycle (py "RGB-D synchronizer can only activate when configured")))
    else if depthSessionId = [] then
      (state, .error (.lifecycle (py "RGB-D activation requires the active depth session")))
    else
      let epoch := increment state.epoch
      let rgb := sessionId p (py "rgbd-rgb-session") (requirement.requirementId p) epoch
      let synchronization :=
        sessionId p (py "rgbd-synchronization-session") (requirement.requirementId p) epoch
      ({ state.clearPending with
          epoch := epoch
          session := some ⟨rgb, depthSessionId, synchronization⟩
          lastAcceptedAtNs := none
          state := .active
          event := .active }, .ok (rgb, synchronization))
  | none =>
    (state, .error (.lifecycle (py "RGB-D synchronizer can only activate when configured")))

/-- `deactivate`. -/
def deactivate (state : FusionState) : FusionState × Except FusionError Unit :=
  if state.state = .active then
    ({ state.clearPending with
        session := none
        lastAcceptedAtNs := none
        state := .inactive
        event := .inactive }, .ok ())
  else
    (state, .error (.lifecycle (py "RGB-D synchronizer can only deactivate while active")))

/-- `cleanup`. -/
def cleanup (state : FusionState) : FusionState × Except FusionError Unit :=
  if state.state = .active then
    (state, .error (.lifecycle (py "RGB-D synchronizer must deactivate before cleanup")))
  else if state.state = .finalized then
    (state, .error (.lifecycle (py "finalized RGB-D synchronizer cannot clean up")))
  else
    ({ state.clearPending with
        requirement := none
        state := .unconfigured
        event := .unconfigured }, .ok ())

/-- `shutdown`. -/
def shutdown (state : FusionState) : FusionState :=
  { state.clearPending with
      requirement := none
      session := none
      lastAcceptedAtNs := none
      state := .finalized
      event := .shutdown }

end Lifecycle

section Submission

/-- `_validate_time`. -/
def validateTime (bounds : FusionBounds) (state : FusionState) (observedAtNs : Nat)
    (nowNs : Int) : FusionState × Except FusionError Bool :=
  if nowNs < 0 then
    (state, .error (.validation (py "RGB-D current source time is invalid")))
  else if nowNs + bounds.futureSkewNs < observedAtNs then
    (state.reject .futureEvidence, .ok false)
  else if (observedAtNs : Int) < nowNs - bounds.retentionNs then
    (state.reject .staleEvidence, .ok false)
  else if state.lastAcceptedAtNs.any (fun last => decide (observedAtNs < last)) then
    (state.reject .regressedEvidence, .ok false)
  else if state.lastAcceptedAtNs = some observedAtNs then
    ({ state.countDuplicate with event := .duplicateEvidence }, .ok false)
  else (state, .ok true)

/-- `_evict_pending`. -/
def evictPending (bounds : FusionBounds) (state : FusionState) (newestNs : Nat) : FusionState :=
  let cutoff : Int := newestNs - bounds.pairWaitNs
  let evictedCount :=
    increment^[state.rgb.evicted cutoff + state.depth.evicted cutoff] state.evictedCount
  { state with
      rgb := state.rgb.evict cutoff
      depth := state.depth.evict cutoff
      evictedCount := evictedCount
      event := if evictedCount ≠ state.evictedCount then .pendingEvicted else state.event }

/-- `_try_pair`, once both frames are taken from the queues. -/
def pair (p : Platform) (state : FusionState) (rgb : VisualFrameObservation)
    (depth : DepthFrameObservation) (observedAtNs : Nat) (resultAtNs : Int) :
    FusionState × Except FusionError FusionAdmission :=
  match state.requirement, state.session with
  | some requirement, some session =>
    match FusedRgbdObservation.build p requirement.robotId requirement.fusionSensor rgb depth
        (requirement.sources session.rgb session.depth session.synchronization)
        (max resultAtNs.toNat observedAtNs) requirement.fusionProvenance .available with
    | .error error => (state, .error (.world error))
    | .ok observation =>
      let accepted := { state with
        lastAcceptedAtNs := some observedAtNs
        acceptedCount := increment state.acceptedCount
        event := .pairAccepted }
      (accepted, do
        accepted.diagnostics.check
        issueAdmission observation requirement accepted.diagnostics)
  | _, _ => (state, .error .assertion)

/-- `_try_pair`. -/
def tryPair (p : Platform) (state : FusionState) (observedAtNs : Nat) (resultAtNs : Int) :
    FusionState × Except FusionError (Option FusionAdmission) :=
  match state.rgb.pending.get? observedAtNs, state.depth.pending.get? observedAtNs with
  | some rgb, some depth =>
    let paired := pair p { state with
      rgb := { state.rgb with pending := state.rgb.pending.remove observedAtNs }
      depth := { state.depth with pending := state.depth.pending.remove observedAtNs } }
      rgb depth observedAtNs resultAtNs
    (paired.1, some <$> paired.2)
  | _, _ => ({ state with event := .missingCounterpart }, .ok none)

/-- What follows the offer of a frame. -/
def settleOffer {α : Type} (p : Platform) (bounds : FusionBounds) (state : FusionState)
    (store : FusionState → Stream α → FusionState) (observedAtNs : Nat) (nowNs : Int) :
    Offer α → FusionState × Except FusionError (Option FusionAdmission)
  | .repeated => (state.countDuplicate, .ok none)
  | .conflicting => (state.reject .duplicateEvidence, .ok none)
  | .regressed => (state.reject .regressedEvidence, .ok none)
  | .duplicate => ({ state.countDuplicate with event := .duplicateEvidence }, .ok none)
  | .stored stream =>
    tryPair p (evictPending bounds (store state stream) observedAtNs) observedAtNs nowNs

/-- What follows the identity checks of a frame. -/
def submitTimed (bounds : FusionBounds) (state : FusionState) (observedAtNs : Nat) (nowNs : Int)
    (offer : FusionState → FusionState × Except FusionError (Option FusionAdmission)) :
    FusionState × Except FusionError (Option FusionAdmission) :=
  match validateTime bounds state observedAtNs nowNs with
  | (timed, .error error) => (timed, .error error)
  | (timed, .ok false) => (timed, .ok none)
  | (timed, .ok true) => offer timed

/-- `submit_rgb`. -/
def submitRgb (p : Platform) (bounds : FusionBounds) (state : FusionState)
    (frame : VisualFrameObservation) (nowNs : Int) :
    FusionState × Except FusionError (Option FusionAdmission) :=
  if state.state ≠ .active then (state.reject .inactive, .ok none)
  else
    match state.requirement with
    | none => (state, .error .assertion)
    | some requirement =>
      if ¬requirement.MatchesRgb frame then (state.reject .wrongComponent, .ok none)
      else
        submitTimed bounds state frame.observedAtNs nowNs fun timed =>
          settleOffer p bounds timed (fun s stream => { s with rgb := stream })
            frame.observedAtNs nowNs (timed.rgb.offer frame.observedAtNs frame)

/-- `submit_depth`. -/
def submitDepth (p : Platform) (bounds : FusionBounds) (state : FusionState)
    (frame : DepthFrameObservation) (nowNs : Int) :
    FusionState × Except FusionError (Option FusionAdmission) :=
  if state.state ≠ .active then (state.reject .inactive, .ok none)
  else
    match state.requirement with
    | none => (state, .error .assertion)
    | some requirement =>
      if ¬requirement.MatchesDepth frame then (state.reject .wrongComponent, .ok none)
      else if state.session.map (·.depth) ≠ some frame.sessionId.text then
        (state.reject .sessionMismatch, .ok none)
      else
        submitTimed bounds state frame.observedAtNs nowNs fun timed =>
          settleOffer p bounds timed (fun s stream => { s with depth := stream })
            frame.observedAtNs nowNs (timed.depth.offer frame.observedAtNs frame)

end Submission

/-- A call of the synchronizer. -/
inductive FusionCall where
  | configure (requirement : FusionRequirement)
  | activate (depthSessionId : PyStr)
  | deactivate
  | cleanup
  | shutdown
  | submitRgb (frame : VisualFrameObservation) (nowNs : Int)
  | submitDepth (frame : DepthFrameObservation) (nowNs : Int)

/-- What a call returns. -/
inductive FusionReply where
  /-- `None` of a lifecycle call. -/
  | done
  /-- The two sessions of an activation. -/
  | sessions (rgb synchronization : PyStr)
  /-- The admission of a submission, or `None`. -/
  | admission (admission : Option FusionAdmission)

/-- One call: the state it leaves and its reply. -/
def perform (p : Platform) (bounds : FusionBounds) (state : FusionState) :
    FusionCall → FusionState × Except FusionError FusionReply
  | .configure requirement =>
    let result := configure state requirement
    (result.1, (fun _ => .done) <$> result.2)
  | .activate depthSessionId =>
    let result := activate p state depthSessionId
    (result.1, (fun ids => .sessions ids.1 ids.2) <$> result.2)
  | .deactivate =>
    let result := deactivate state
    (result.1, (fun _ => .done) <$> result.2)
  | .cleanup =>
    let result := cleanup state
    (result.1, (fun _ => .done) <$> result.2)
  | .shutdown => (shutdown state, .ok .done)
  | .submitRgb frame nowNs =>
    let result := submitRgb p bounds state frame nowNs
    (result.1, .admission <$> result.2)
  | .submitDepth frame nowNs =>
    let result := submitDepth p bounds state frame nowNs
    (result.1, .admission <$> result.2)

end Rgbd
end AyyoHumanoid
