import AyyoHumanoid.TeachModels

/-!
# Demonstration episodes and capture sessions

An episode seals events in their order under the digest of its contents. A
capture session collects the events that its caller appends and builds the
episode when it finishes; a call that raises leaves the session as it was.
-/

namespace AyyoHumanoid
namespace Teach

open PyText JsonText Artifacts

/-- `TEACH_MODE_SCHEMA_ID`. -/
def teachModeSchemaId : PyStr := py "ayyo.teach-mode.demonstration-episode.v1"

/-- `TEACH_MODE_SCHEMA_VERSION`. -/
def teachModeSchemaVersion : PyStr := py "1.0.0"

section Sources

/-- A clock that is not available has no range, and any other has an ordered bounded one. -/
def RangeFits (clockKind : DemonstrationClockKind) (startNs endNs : Option Nat) : Prop :=
  if clockKind = .unavailable then startNs = none ∧ endNs = none
  else startNs.any (fun first => endNs.any fun last =>
    decide (first ≤ last) && decide (last ≤ maxSourceTimeNs)) = true

instance (clockKind : DemonstrationClockKind) (startNs endNs : Option Nat) :
    Decidable (RangeFits clockKind startNs endNs) :=
  inferInstanceAs (Decidable (ite _ _ _))

/-- `DemonstrationSourceTimeRange`. -/
structure DemonstrationSourceTimeRange where
  clockKind : DemonstrationClockKind
  startNs : Option Nat
  endNs : Option Nat
  fits : RangeFits clockKind startNs endNs
  deriving DecidableEq

/-- A time as `type(time) is int` and `0 <= time` accept it. -/
def timeOf : Json → Option Nat
  | .int value => if 0 ≤ value then some value.toNat else none
  | _ => none

/-- `DemonstrationSourceTimeRange(clock_kind, start_ns, end_ns)`. -/
def sourceTimeRange (clockKind : DemonstrationClockKind) (startNs endNs : Json) :
    Except TeachRaised DemonstrationSourceTimeRange :=
  if hclock : clockKind = .unavailable then do
    require (startNs = .null ∧ endNs = .null)
      (validationError (py "unavailable source time cannot contain fabricated timestamps"))
    pure ⟨clockKind, none, none, by rw [RangeFits, if_pos hclock]; exact ⟨rfl, rfl⟩⟩
  else do
    let ⟨hfits⟩ ← ensure (RangeFits clockKind (timeOf startNs) (timeOf endNs))
      (validationError (py "available source time requires an ordered bounded range"))
    pure ⟨clockKind, timeOf startNs, timeOf endNs, hfits⟩

/-- `DemonstrationSourceTimeRange.as_dict`. -/
def DemonstrationSourceTimeRange.asDict (range : DemonstrationSourceTimeRange) : Json :=
  .obj [(py "clock_kind", .str range.clockKind.value), (py "end_ns", optionalTime range.endNs),
    (py "start_ns", optionalTime range.startNs)]

/-- `DemonstrationProvenance`. -/
structure DemonstrationProvenance where
  sourceRef : World.Name
  sourceFingerprint : FingerprintText
  teacherSourceRef : Option World.Name
  deriving DecidableEq

/-- `DemonstrationProvenance(source_ref, source_fingerprint, teacher_source_ref)`. -/
def demonstrationProvenance (sourceRef sourceFingerprint teacherSourceRef : Json) :
    Except TeachRaised DemonstrationProvenance := do
  let sourceRef ← identifier sourceRef (py "provenance source_ref")
  let sourceFingerprint ← fingerprint sourceFingerprint (py "provenance source fingerprint")
  let teacherSourceRef ← optionalIdentifier teacherSourceRef (py "teacher_source_ref")
  pure ⟨sourceRef, sourceFingerprint, teacherSourceRef⟩

/-- `DemonstrationProvenance.as_dict`. -/
def DemonstrationProvenance.asDict (provenance : DemonstrationProvenance) : Json :=
  .obj [(py "source_fingerprint", .str provenance.sourceFingerprint.text),
    (py "source_ref", .str provenance.sourceRef.text),
    (py "teacher_source_ref", optionalName provenance.teacherSourceRef)]

end Sources

section Policy

/-- `DemonstrationSourceKind` in the order of its class. -/
def sourceKinds : List Learning.DemonstrationSourceKind :=
  [.developmentScenario, .testFixture, .recordedSourceReference]

/-- `DemonstrationCapturePolicy.semantic_document`. -/
def capturePolicyDocument : Json :=
  .obj [
    (py "allowed_action_authorities",
      .arr (DemonstrationActionAuthority.members.map fun item => .str item.value)),
    (py "allowed_action_dispositions",
      .arr (DemonstrationActionDisposition.members.map fun item => .str item.value)),
    (py "allowed_action_kinds",
      .arr (DemonstrationActionKind.members.map fun item => .str item.value)),
    (py "allowed_annotation_kinds",
      .arr (DemonstrationAnnotationKind.members.map fun item => .str item.value)),
    (py "allowed_clocks", .arr (DemonstrationClockKind.members.map fun item => .str item.value)),
    (py "allowed_event_types",
      .arr (DemonstrationEventType.members.map fun item => .str item.value)),
    (py "allowed_observation_references",
      .arr (ObservationReferenceKind.members.map fun item => .str item.value)),
    (py "allowed_outcomes",
      .arr (Learning.DemonstrationOutcomeStatus.members.map fun item => .str item.value)),
    (py "allowed_source_kinds", .arr (sourceKinds.map fun item => .str item.value)),
    (py "bounds", .obj [
      (py "annotation_text_length", .int maxNoteLength),
      (py "annotations_per_episode", .int maxAnnotationsPerEpisode),
      (py "annotations_per_event", .int maxAnnotationsPerEvent),
      (py "events_per_episode", .int maxEventsPerEpisode),
      (py "identifier_length", .int maxIdentifierLength),
      (py "outcome_reasons", .int maxOutcomeReasons),
      (py "references_per_event", .int maxReferencesPerEvent),
      (py "serialized_episode_bytes", .int maxSerializedEpisodeBytes)]),
    (py "ordering", .str (py "contiguous-zero-based-with-nondecreasing-source-time")),
    (py "policy_id", .str Learning.capturePolicyId),
    (py "version", .str Learning.capturePolicyVersion)]

/-- `DemonstrationCapturePolicy().fingerprint`. -/
def capturePolicyFingerprint (p : Platform) : PyStr :=
  semanticSha256 p (py "teach-mode-capture-policy") capturePolicyDocument

end Policy

section Episodes

variable {nfc : Nfc}

/-- `DemonstrationEpisode`, as stored. -/
structure DemonstrationEpisode (nfc : Nfc) where
  schemaId : PyStr
  schemaVersion : PyStr
  capturePolicyId : PyStr
  capturePolicyVersion : PyStr
  capturePolicyFingerprint : PyStr
  episodeId : PyStr
  episodeFingerprint : PyStr
  sourceKind : Learning.DemonstrationSourceKind
  robotId : Option World.Name
  sourceTime : DemonstrationSourceTimeRange
  provenance : DemonstrationProvenance
  events : List (DemonstrationEvent nfc)
  outcome : DemonstrationOutcome nfc
  deriving DecidableEq

namespace DemonstrationEpisode

/-- `DemonstrationEpisode.semantic_document`. -/
def semanticDocument (episode : DemonstrationEpisode nfc) : List (PyStr × Json) :=
  [(py "capture_policy", .obj [(py "fingerprint", .str episode.capturePolicyFingerprint),
      (py "id", .str episode.capturePolicyId), (py "version", .str episode.capturePolicyVersion)]),
    (py "events", .arr (episode.events.map (·.asDict))),
    (py "outcome", episode.outcome.asDict),
    (py "provenance", episode.provenance.asDict),
    (py "robot_id", optionalName episode.robotId),
    (py "schema", schemaDocument episode.schemaId episode.schemaVersion),
    (py "source_kind", .str episode.sourceKind.value),
    (py "source_time", episode.sourceTime.asDict)]

/-- `DemonstrationEpisode.as_dict`. -/
def asDict (episode : DemonstrationEpisode nfc) : Json :=
  .obj (episode.semanticDocument ++
    [(py "episode_fingerprint", .str episode.episodeFingerprint),
      (py "episode_id", .str episode.episodeId)])

variable (p : Platform)

/-- `DemonstrationEpisode.recompute_fingerprint`. -/
def recomputeFingerprint (episode : DemonstrationEpisode nfc) : PyStr :=
  semanticSha256 p (py "demonstration-episode-content") (.obj episode.semanticDocument)

/-- `DemonstrationEpisode.recompute_episode_id`. -/
def recomputeEpisodeId (episode : DemonstrationEpisode nfc) : PyStr :=
  semanticSha256 p (py "demonstration-episode") (.obj [
    (py "episode_fingerprint", .str (episode.recomputeFingerprint p)),
    (py "schema_id", .str episode.schemaId), (py "schema_version", .str episode.schemaVersion)])

/-- The episode with its digest and identity computed from its contents. -/
def identified (episode : DemonstrationEpisode nfc) : DemonstrationEpisode nfc :=
  { episode with
    episodeFingerprint := episode.recomputeFingerprint p
    episodeId := episode.recomputeEpisodeId p }

end DemonstrationEpisode

/-- The event times fit the clock and the declared range. -/
def checkEventTimes (sourceTime : DemonstrationSourceTimeRange)
    (events : List (DemonstrationEvent nfc)) : Except TeachRaised Unit :=
  if sourceTime.clockKind = .unavailable then
    require (∀ event ∈ events, event.sourceTimeNs = none)
      (validationError (py "unavailable source clock cannot contain event timestamps"))
  else do
    require (∀ event ∈ events, event.sourceTimeNs ≠ none)
      (validationError (py "an available source clock requires every event timestamp"))
    let times := events.filterMap (·.sourceTimeNs)
    require (times.Pairwise (· ≤ ·))
      (validationError (py "event source times cannot move backwards"))
    require ((∀ first ∈ times.head?, ∀ start ∈ sourceTime.startNs, start ≤ first) ∧
        ∀ last ∈ times.getLast?, ∀ stop ∈ sourceTime.endNs, last ≤ stop)
      (validationError (py "event source time falls outside the declared source range"))

variable (p : Platform)

/-- The episode of its parts, with its identities. -/
def episodeOf (sourceKind : Learning.DemonstrationSourceKind) (robotId : Option World.Name)
    (sourceTime : DemonstrationSourceTimeRange) (provenance : DemonstrationProvenance)
    (events : List (DemonstrationEvent nfc)) (outcome : DemonstrationOutcome nfc) :
    DemonstrationEpisode nfc :=
  DemonstrationEpisode.identified p {
    schemaId := teachModeSchemaId
    schemaVersion := teachModeSchemaVersion
    capturePolicyId := Learning.capturePolicyId
    capturePolicyVersion := Learning.capturePolicyVersion
    capturePolicyFingerprint := capturePolicyFingerprint p
    episodeId := []
    episodeFingerprint := []
    sourceKind := sourceKind
    robotId := robotId
    sourceTime := sourceTime
    provenance := provenance
    events := events
    outcome := outcome }

/-- `DemonstrationEpisode(source_kind, ...)`. -/
def demonstrationEpisode (sourceKind : Learning.DemonstrationSourceKind) (robotId : Json)
    (sourceTime : DemonstrationSourceTimeRange) (provenance : DemonstrationProvenance)
    (events : List (DemonstrationEvent nfc)) (outcome : DemonstrationOutcome nfc) :
    Except TeachRaised (DemonstrationEpisode nfc) := do
  let robotId ← optionalIdentifier robotId (py "robot_id")
  require (sourceKind = .developmentScenario → robotId.map (·.text) = some ayyoRobotId)
    (validationError (py "Stage-6 demonstration evidence requires the canonical Ayyo robot"))
  checkCount events.length maxEventsPerEpisode (py "episode events")
  require (events ≠ []) (validationError (py "an episode requires at least one event"))
  require (events.map (·.sequenceIndex) = List.range events.length) (validationError
    (py "episode event sequence must be contiguous, zero-based, and caller ordered"))
  require (events.map (·.eventId)).Nodup
    (validationError (py "episode event IDs must be unique"))
  checkEventTimes sourceTime events
  require ((events.map fun event => event.annotations.length).sum ≤ maxAnnotationsPerEpisode)
    (validationError (py "episode annotations exceed the v1 bound"))
  let episode := episodeOf p sourceKind robotId sourceTime provenance events outcome
  require (documentSize episode.asDict ≤ maxSerializedEpisodeBytes)
    (validationError (py "serialized episode exceeds the v1 bound"))
  pure episode

/-- `DemonstrationCaptureResult`; its status is always `captured`. -/
structure DemonstrationCaptureResult (nfc : Nfc) where
  episode : DemonstrationEpisode nfc
  resultId : PyStr
  deriving DecidableEq

/-- `DemonstrationCaptureResult(episode)`. -/
def captureResult (episode : DemonstrationEpisode nfc) : DemonstrationCaptureResult nfc where
  episode := episode
  resultId := semanticSha256 p (py "demonstration-capture-result") (.obj [
    (py "episode_fingerprint", .str episode.episodeFingerprint),
    (py "episode_id", .str episode.episodeId), (py "status", .str (py "captured"))])

end Episodes

section Sessions

variable {nfc : Nfc}

/-- `DemonstrationCaptureSession`. -/
structure DemonstrationCaptureSession (nfc : Nfc) where
  sourceKind : Learning.DemonstrationSourceKind
  robotId : Json
  sourceTime : DemonstrationSourceTimeRange
  provenance : DemonstrationProvenance
  events : List (DemonstrationEvent nfc)
  finished : Bool

/-- `DemonstrationRecorder.begin`. -/
def beginSession (nfc : Nfc) (sourceKind : Learning.DemonstrationSourceKind) (robotId : Json)
    (sourceTime : DemonstrationSourceTimeRange) (provenance : DemonstrationProvenance) :
    DemonstrationCaptureSession nfc where
  sourceKind := sourceKind
  robotId := robotId
  sourceTime := sourceTime
  provenance := provenance
  events := []
  finished := false

namespace DemonstrationCaptureSession

/-- `DemonstrationCaptureSession.append`: what it raises, and the session after it. -/
def append (session : DemonstrationCaptureSession nfc) (event : DemonstrationEvent nfc) :
    Except TeachRaised Unit × DemonstrationCaptureSession nfc :=
  if session.finished then
    (.error (sessionError (py "a finished capture session is sealed")), session)
  else if maxEventsPerEpisode ≤ session.events.length then
    (.error (sessionError (py "capture exceeds the event bound")), session)
  else if event.sequenceIndex ≠ session.events.length then
    (.error (sessionError
      (py "capture event index must equal the next explicit sequence index")), session)
  else if session.events.any (fun item => item.eventId = event.eventId) then
    (.error (sessionError (py "capture event IDs must be unique")), session)
  else (.ok (), { session with events := session.events ++ [event] })

/-- `DemonstrationCaptureSession.finish`: its result, and the session after it. -/
def finish (p : Platform) (session : DemonstrationCaptureSession nfc)
    (outcome : DemonstrationOutcome nfc) :
    Except TeachRaised (DemonstrationCaptureResult nfc) × DemonstrationCaptureSession nfc :=
  if session.finished then
    (.error (sessionError (py "a capture session can finish only once")), session)
  else if session.events = [] then
    (.error (sessionError (py "an empty capture session cannot finish")), session)
  else
    match demonstrationEpisode p session.sourceKind session.robotId session.sourceTime
      session.provenance session.events outcome with
    | .error raised => (.error raised, session)
    | .ok episode => (.ok (captureResult p episode), { session with finished := true })

/-- `for event in events: session.append(event)`. -/
def appendAll (session : DemonstrationCaptureSession nfc) :
    List (DemonstrationEvent nfc) → Except TeachRaised (DemonstrationCaptureSession nfc)
  | [] => .ok session
  | event :: events => do
    (session.append event).1
    (session.append event).2.appendAll events

end DemonstrationCaptureSession

end Sessions

end Teach
end AyyoHumanoid
