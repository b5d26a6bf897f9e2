import AyyoHumanoid.LearningModels
import AyyoHumanoid.PyFloat
import AyyoHumanoid.Raising

/-!
# Demonstration evidence

An event of a demonstration refers to observations and actions and carries short
notes. Every constructor takes Python values of any type, so its arguments are
JSON values here, and what it returns is typed by what it has checked.
-/

namespace AyyoHumanoid
namespace Teach

open PyText JsonText Artifacts

/-- The exception classes of the Teach Mode package. -/
inductive TeachModeErrorKind where
  | demonstrationValidation | demonstrationIntegrity | demonstrationSession
  | scenarioDemonstrationAdapter
  deriving DecidableEq, Repr

/-- An exception with its message. -/
structure TeachModeError where
  /-- The exception class. -/
  kind : TeachModeErrorKind
  /-- The message text. -/
  message : PyStr
  deriving DecidableEq

/-- What a function of the package may raise. -/
abbrev TeachRaised : Type := Raised TeachModeError

/-- `DemonstrationValidationError(message)`. -/
def validationError (message : PyStr) : TeachRaised := .typed ⟨.demonstrationValidation, message⟩

/-- `DemonstrationSessionError(message)`. -/
def sessionError (message : PyStr) : TeachRaised := .typed ⟨.demonstrationSession, message⟩

/-- `AYYO_ROBOT_ID`. -/
def ayyoRobotId : PyStr := py "ayyo.robot.v1"

/-- `MAX_EVENTS_PER_EPISODE`. -/
def maxEventsPerEpisode : Nat := 64

/-- `MAX_REFERENCES_PER_EVENT`. -/
def maxReferencesPerEvent : Nat := 16

/-- `MAX_ANNOTATIONS_PER_EVENT`. -/
def maxAnnotationsPerEvent : Nat := 8

/-- `MAX_ANNOTATIONS_PER_EPISODE`. -/
def maxAnnotationsPerEpisode : Nat := 32

/-- `MAX_OUTCOME_REASONS`. -/
def maxOutcomeReasons : Nat := 16

/-- `MAX_SERIALIZED_EPISODE_BYTES`. -/
def maxSerializedEpisodeBytes : Nat := 65536

/-- `MAX_SOURCE_TIME_NS`. -/
def maxSourceTimeNs : Nat := 9223372036854775807

section Enumerations

/-- `DemonstrationClockKind`. -/
inductive DemonstrationClockKind where
  | simulationTime | testTime | recordedSourceTime | monotonicTime | unavailable
  deriving DecidableEq, Repr

/-- The text of a clock. -/
def DemonstrationClockKind.value : DemonstrationClockKind → PyStr
  | .simulationTime => py "simulation_time"
  | .testTime => py "test_time"
  | .recordedSourceTime => py "recorded_source_time"
  | .monotonicTime => py "monotonic_time"
  | .unavailable => py "unavailable"

/-- The clocks in the order of their class. -/
def DemonstrationClockKind.members : List DemonstrationClockKind :=
  [.simulationTime, .testTime, .recordedSourceTime, .monotonicTime, .unavailable]

/-- `DemonstrationEventType`. -/
inductive DemonstrationEventType where
  | observation | intent | executiveProposal | safetyDecision | skillBinding | runtimeResult
  | developmentAction | outcome | annotated
  deriving DecidableEq, Repr

/-- The text of an event type. -/
def DemonstrationEventType.value : DemonstrationEventType → PyStr
  | .observation => py "observation"
  | .intent => py "intent"
  | .executiveProposal => py "executive_proposal"
  | .safetyDecision => py "safety_decision"
  | .skillBinding => py "skill_binding"
  | .runtimeResult => py "runtime_result"
  | .developmentAction => py "development_action"
  | .outcome => py "outcome"
  | .annotated => py "annotation"

/-- The event types in the order of their class. -/
def DemonstrationEventType.members : List DemonstrationEventType :=
  [.observation, .intent, .executiveProposal, .safetyDecision, .skillBinding, .runtimeResult,
    .developmentAction, .outcome, .annotated]

/-- `ObservationReferenceKind`. -/
inductive ObservationReferenceKind where
  | worldSnapshot | workingMemoryEvidence | anonymousSemanticEvidence | robotBodyState
  | scenarioReport | scenarioAssertion | sensorEvidence | externalRecording | publicEvidence
  deriving DecidableEq, Repr

/-- The text of a kind of reference. -/
def ObservationReferenceKind.value : ObservationReferenceKind → PyStr
  | .worldSnapshot => py "world_snapshot"
  | .workingMemoryEvidence => py "working_memory_evidence"
  | .anonymousSemanticEvidence => py "anonymous_semantic_evidence"
  | .robotBodyState => py "robot_body_state"
  | .scenarioReport => py "scenario_report"
  | .scenarioAssertion => py "scenario_assertion"
  | .sensorEvidence => py "sensor_evidence"
  | .externalRecording => py "external_recording"
  | .publicEvidence => py "public_evidence"

/-- The kinds of reference in the order of their class. -/
def ObservationReferenceKind.members : List ObservationReferenceKind :=
  [.worldSnapshot, .workingMemoryEvidence, .anonymousSemanticEvidence, .robotBodyState,
    .scenarioReport, .scenarioAssertion, .sensorEvidence, .externalRecording, .publicEvidence]

/-- `ReferenceEvidenceStatus`. -/
inductive ReferenceEvidenceStatus where
  | observed | pass | fail | notApplicable
  deriving DecidableEq, Repr

/-- The text of a status. -/
def ReferenceEvidenceStatus.value : ReferenceEvidenceStatus → PyStr
  | .observed => py "observed"
  | .pass => py "pass"
  | .fail => py "fail"
  | .notApplicable => py "not_applicable"

/-- `DemonstrationActionKind`. -/
inductive DemonstrationActionKind where
  | executiveRequest | executiveProposal | safetyDecision | skillBinding | runtimeResult
  | developmentJointPosition | developmentReset
  deriving DecidableEq, Repr

/-- The text of a kind of action. -/
def DemonstrationActionKind.value : DemonstrationActionKind → PyStr
  | .executiveRequest => py "executive_request"
  | .executiveProposal => py "executive_proposal"
  | .safetyDecision => py "safety_decision"
  | .skillBinding => py "skill_binding"
  | .runtimeResult => py "runtime_result"
  | .developmentJointPosition => py "development_joint_position"
  | .developmentReset => py "development_reset"

/-- The kinds of action in the order of their class. -/
def DemonstrationActionKind.members : List DemonstrationActionKind :=
  [.executiveRequest, .executiveProposal, .safetyDecision, .skillBinding, .runtimeResult,
    .developmentJointPosition, .developmentReset]

/-- `DemonstrationActionAuthority`. -/
inductive DemonstrationActionAuthority where
  | none | developmentOnly
  deriving DecidableEq, Repr

/-- The text of an authority. -/
def DemonstrationActionAuthority.value : DemonstrationActionAuthority → PyStr
  | .none => py "none"
  | .developmentOnly => py "development_only"

/-- The authorities in the order of their class. -/
def DemonstrationActionAuthority.members : List DemonstrationActionAuthority :=
  [.none, .developmentOnly]

/-- `DemonstrationActionDisposition`. -/
inductive DemonstrationActionDisposition where
  | requested | proposed | completed | deferred | ineligible | notDispatched | rejected | observed
  deriving DecidableEq, Repr

/-- The text of a disposition. -/
def DemonstrationActionDisposition.value : DemonstrationActionDisposition → PyStr
  | .requested => py "requested"
  | .proposed => py "proposed"
  | .completed => py "completed"
  | .deferred => py "deferred"
  | .ineligible => py "ineligible"
  | .notDispatched => py "not_dispatched"
  | .rejected => py "rejected"
  | .observed => py "observed"

/-- The dispositions in the order of their class. -/
def DemonstrationActionDisposition.members : List DemonstrationActionDisposition :=
  [.requested, .proposed, .completed, .deferred, .ineligible, .notDispatched, .rejected, .observed]

/-- `DemonstrationActionUnit`. -/
inductive DemonstrationActionUnit where
  | none | radian
  deriving DecidableEq, Repr

/-- The text of a unit. -/
def DemonstrationActionUnit.value : DemonstrationActionUnit → PyStr
  | .none => py "none"
  | .radian => py "radian"

/-- `DemonstrationAnnotationKind`. -/
inductive DemonstrationAnnotationKind where
  | callerNote | evidenceNote | outcomeReason | limitation
  deriving DecidableEq, Repr

/-- The text of a kind of annotation. -/
def DemonstrationAnnotationKind.value : DemonstrationAnnotationKind → PyStr
  | .callerNote => py "caller_note"
  | .evidenceNote => py "evidence_note"
  | .outcomeReason => py "outcome_reason"
  | .limitation => py "limitation"

/-- The kinds of annotation in the order of their class. -/
def DemonstrationAnnotationKind.members : List DemonstrationAnnotationKind :=
  [.callerNote, .evidenceNote, .outcomeReason, .limitation]

end Enumerations

section Texts

/-- A text that `_fingerprint` accepts. -/
structure FingerprintText where
  text : PyStr
  /-- It passed the checks. -/
  spelled : IsFingerprint text

instance : DecidableEq FingerprintText := fun left right =>
  decidable_of_iff (left.text = right.text)
    ⟨fun h => by cases left; cases right; cases h; rfl, fun h => congrArg FingerprintText.text h⟩

/-- A text that `_text` returns. -/
structure NoteText (nfc : Nfc) where
  text : PyStr
  /-- It is normalized. -/
  normal : nfc.normalize text = text
  /-- It passed the checks. -/
  checked : IsNote text
  deriving DecidableEq

/-- `_identifier`. -/
def identifier (value : Json) (fieldName : PyStr) : Except TeachRaised World.Name :=
  match value with
  | .str text => do
    require (text ≠ [] ∧ text = strip text)
      (validationError (fieldName ++ py " must be a non-empty trimmed identifier"))
    let ⟨hcanonical⟩ ← ensure (World.IsCanonical 256 text)
      (validationError (fieldName ++ py " must be a bounded lowercase identifier"))
    pure ⟨text, hcanonical⟩
  | _ => .error (validationError (fieldName ++ py " must be a non-empty trimmed identifier"))

/-- `_optional_identifier`. -/
def optionalIdentifier (value : Json) (fieldName : PyStr) :
    Except TeachRaised (Option World.Name) :=
  match value with
  | .null => .ok none
  | value => some <$> identifier value fieldName

/-- `_fingerprint`. -/
def fingerprint (value : Json) (fieldName : PyStr) : Except TeachRaised FingerprintText := do
  let name ← identifier value fieldName
  let ⟨hspelled⟩ ← ensure (IsFingerprint name.text)
    (validationError (fieldName ++ py " is not a SHA-256 identity"))
  pure ⟨name.text, hspelled⟩

/-- `_optional_fingerprint`. -/
def optionalFingerprint (value : Json) (fieldName : PyStr) :
    Except TeachRaised (Option FingerprintText) :=
  match value with
  | .null => .ok none
  | value => some <$> fingerprint value fieldName

variable (nfc : Nfc)

/-- `_text`; its limit is 512 characters wherever it is called. -/
def noteText (value : Json) (fieldName : PyStr) : Except TeachRaised (NoteText nfc) :=
  match value with
  | .str text => do
    let normalized := nfc.normalize text
    require (normalized ≠ [] ∧ normalized = strip normalized)
      (validationError (fieldName ++ py " must be non-empty normalized trimmed text"))
    require (normalized.length ≤ maxNoteLength)
      (validationError (fieldName ++ py " exceeds its v1 bound"))
    let ⟨hchecked⟩ ← ensure (IsNote normalized)
      (validationError (fieldName ++ py " contains unsupported characters"))
    pure ⟨normalized, nfc.idempotent text, hchecked⟩
  | _ => .error (validationError (fieldName ++ py " must be text"))

/-- The JSON of a name that may be absent. -/
def optionalName (name : Option World.Name) : Json := optionalText (name.map (·.text))

/-- The JSON of a digest that may be absent. -/
def optionalDigest (value : Option FingerprintText) : Json := optionalText (value.map (·.text))

end Texts

section References

/-- `DemonstrationObservationReference`. -/
structure DemonstrationObservationReference where
  kind : ObservationReferenceKind
  referenceId : World.Name
  status : ReferenceEvidenceStatus
  fingerprint : Option FingerprintText
  provenanceKind : Option World.Name
  interfaceId : Option World.Name
  /-- Sensor evidence names its provenance and interface. -/
  sensed : kind = .sensorEvidence → provenanceKind ≠ none ∧ interfaceId ≠ none
  /-- A recording has a digest. -/
  recorded : kind = .externalRecording → fingerprint ≠ none
  deriving DecidableEq

/-- `DemonstrationObservationReference(kind, ...)`. -/
def observationReference (kind : ObservationReferenceKind) (status : ReferenceEvidenceStatus)
    (referenceId contentFingerprint provenanceKind interfaceId : Json) :
    Except TeachRaised DemonstrationObservationReference := do
  let referenceId ← identifier referenceId (py "observation reference_id")
  let contentFingerprint ← optionalFingerprint contentFingerprint
    (py "observation reference fingerprint")
  let provenanceKind ← optionalIdentifier provenanceKind (py "observation provenance kind")
  let interfaceId ← optionalIdentifier interfaceId (py "observation interface_id")
  let ⟨hsensed⟩ ← ensure (kind = .sensorEvidence → provenanceKind ≠ none ∧ interfaceId ≠ none)
    (validationError (py "sensor evidence requires provenance and interface identities"))
  let ⟨hrecorded⟩ ← ensure (kind = .externalRecording → contentFingerprint ≠ none)
    (validationError (py "an external recording reference requires verified content identity"))
  pure ⟨kind, referenceId, status, contentFingerprint, provenanceKind, interfaceId, hsensed,
    hrecorded⟩

/-- `DemonstrationObservationReference.as_dict`. -/
def DemonstrationObservationReference.asDict (reference : DemonstrationObservationReference) :
    Json :=
  .obj [(py "fingerprint", optionalDigest reference.fingerprint),
    (py "interface_id", optionalName reference.interfaceId),
    (py "kind", .str reference.kind.value),
    (py "provenance_kind", optionalName reference.provenanceKind),
    (py "reference_id", .str reference.referenceId.text),
    (py "status", .str reference.status.value)]

/-- The actions that only the development authority covers. -/
def DemonstrationActionKind.IsDevelopment (kind : DemonstrationActionKind) : Prop :=
  kind = .developmentJointPosition ∨ kind = .developmentReset

instance (kind : DemonstrationActionKind) : Decidable kind.IsDevelopment :=
  inferInstanceAs (Decidable (_ ∨ _))

/-- A target has an identity, a value and a unit, or none of them. -/
def TargetComplete (targetId : Option World.Name) (targetValue : Option FloatToken)
    (targetUnit : DemonstrationActionUnit) : Prop :=
  if targetId ≠ none ∨ targetValue ≠ none then
    targetId ≠ none ∧ targetValue ≠ none ∧ targetUnit ≠ .none
  else targetUnit = .none

instance (targetId : Option World.Name) (targetValue : Option FloatToken)
    (targetUnit : DemonstrationActionUnit) :
    Decidable (TargetComplete targetId targetValue targetUnit) :=
  inferInstanceAs (Decidable (ite _ _ _))

/-- `DemonstrationActionReference`. -/
structure DemonstrationActionReference where
  actionId : World.Name
  kind : DemonstrationActionKind
  authority : DemonstrationActionAuthority
  disposition : DemonstrationActionDisposition
  evidenceRef : World.Name
  reasonCode : Option World.Name
  targetId : Option World.Name
  targetValue : Option FloatToken
  targetUnit : DemonstrationActionUnit
  complete : TargetComplete targetId targetValue targetUnit
  /-- Development actions have the development authority. -/
  covered : kind.IsDevelopment → authority = .developmentOnly
  deriving DecidableEq

/-- What the runtime's floating point supplies to the package. -/
structure TargetFloats where
  /-- `float(value)` of an integer; `none` is its `OverflowError`. -/
  ofInt : Int → Option FloatToken

/-- The float that `target_value` is stored as. -/
def targetFloat (floats : TargetFloats) (value : Json) : Except TeachRaised (Option FloatToken) :=
  match value with
  | .null => .ok none
  | .float token => .ok (some token)
  | .int value =>
    match floats.ofInt value with
    | some token => .ok (some token)
    | none => .error (.builtin .overflowError)
  | _ => .error (validationError (py "action target value is invalid"))

/-- The arguments of a `DemonstrationActionReference` that are not of a closed enumeration. -/
structure ActionArguments where
  actionId : Json
  evidenceRef : Json
  reasonCode : Json
  targetId : Json
  targetValue : Json

/-- `DemonstrationActionReference(action_id, ...)`. -/
def actionReference (floats : TargetFloats) (kind : DemonstrationActionKind)
    (authority : DemonstrationActionAuthority) (disposition : DemonstrationActionDisposition)
    (targetUnit : DemonstrationActionUnit) (arguments : ActionArguments) :
    Except TeachRaised DemonstrationActionReference := do
  let actionId ← identifier arguments.actionId (py "action_id")
  let evidenceRef ← identifier arguments.evidenceRef (py "action evidence_ref")
  let reasonCode ← optionalIdentifier arguments.reasonCode (py "action reason_code")
  let targetId ← optionalIdentifier arguments.targetId (py "action target_id")
  let targetValue ← targetFloat floats arguments.targetValue
  let ⟨hcomplete⟩ ← ensure (TargetComplete targetId targetValue targetUnit)
    (validationError (if targetId ≠ none ∨ targetValue ≠ none then
      py "an action target requires identity, finite value, and unit"
      else py "an untargeted action must use no unit"))
  let ⟨hcovered⟩ ← ensure (kind.IsDevelopment → authority = .developmentOnly)
    (validationError (py "development action evidence must retain DEVELOPMENT-only authority"))
  pure ⟨actionId, kind, authority, disposition, evidenceRef, reasonCode, targetId, targetValue,
    targetUnit, hcomplete, hcovered⟩

/-- `DemonstrationActionReference.as_dict`. -/
def DemonstrationActionReference.asDict (action : DemonstrationActionReference) : Json :=
  .obj [(py "action_id", .str action.actionId.text),
    (py "authority", .str action.authority.value),
    (py "disposition", .str action.disposition.value),
    (py "evidence_ref", .str action.evidenceRef.text),
    (py "kind", .str action.kind.value),
    (py "reason_code", optionalName action.reasonCode),
    (py "target_id", optionalName action.targetId),
    (py "target_unit", .str action.targetUnit.value),
    (py "target_value", optionalFloat action.targetValue)]

variable {nfc : Nfc}

/-- `DemonstrationAnnotation`. -/
structure DemonstrationAnnotation (nfc : Nfc) where
  kind : DemonstrationAnnotationKind
  text : NoteText nfc
  deriving DecidableEq

/-- `DemonstrationAnnotation(kind, text)`. -/
def annotation (nfc : Nfc) (kind : DemonstrationAnnotationKind) (text : Json) :
    Except TeachRaised ( DemonstrationAnnotation nfc) := do
  let text ← noteText nfc text (py "annotation text")
  pure ⟨kind, text⟩

/-- `DemonstrationAnnotation.as_dict`. -/
def DemonstrationAnnotation.asDict ( annotation : DemonstrationAnnotation nfc) : Json :=
  .obj [(py "kind", .str annotation.kind.value), (py "text", .str annotation.text.text)]

end References

section Events

variable {nfc : Nfc}

/-- `DemonstrationEvent`. -/
structure DemonstrationEvent (nfc : Nfc) where
  eventId : World.Name
  sequenceIndex : Nat
  eventType : DemonstrationEventType
  sourceTimeNs : Option Nat
  observationReferences : List DemonstrationObservationReference
  actionReferences : List DemonstrationActionReference
  annotations : List ( DemonstrationAnnotation nfc)
  /-- The index is bounded. -/
  indexed : sequenceIndex < maxEventsPerEpisode
  /-- A time is bounded. -/
  timed : ∀ time ∈ sourceTimeNs, time ≤ maxSourceTimeNs
  /-- There are few references. -/
  few : observationReferences.length + actionReferences.length ≤ maxReferencesPerEvent
  /-- An observation is named once. -/
  observed : (observationReferences.map fun item => (item.kind, item.referenceId)).Nodup
  /-- An action is named once. -/
  acted : (actionReferences.map fun item => item.actionId).Nodup
  /-- There are few annotations. -/
  annotated : annotations.length ≤ maxAnnotationsPerEvent
  /-- There is some evidence. -/
  evident : observationReferences ≠ [] ∨ actionReferences ≠ [] ∨ annotations ≠ []
  deriving DecidableEq

/-- The index that `sequence_index` is accepted as. -/
def sequenceIndexOf (value : Json) : Except TeachRaised {n : Nat // n < maxEventsPerEpisode} :=
  match value with
  | .int value => do
    let ⟨h⟩ ← ensure (0 ≤ value ∧ value < maxEventsPerEpisode)
      (validationError (py "event sequence index is outside v1 bounds"))
    pure ⟨value.toNat, by omega⟩
  | _ => .error (validationError (py "event sequence index is outside v1 bounds"))

/-- The time that `source_time_ns` is accepted as. -/
def sourceTimeOf (value : Json) :
    Except TeachRaised {time : Option Nat // ∀ n ∈ time, n ≤ maxSourceTimeNs} :=
  match value with
  | .null => .ok ⟨none, nofun⟩
  | .int value => do
    let ⟨h⟩ ← ensure (0 ≤ value ∧ value ≤ maxSourceTimeNs)
      (validationError (py "event source timestamp is invalid"))
    pure ⟨some value.toNat, fun n hn => by
      cases hn
      omega⟩
  | _ => .error (validationError (py "event source timestamp is invalid"))

/-- `_typed_tuple` of typed items. -/
def checkCount (count limit : Nat) (fieldName : PyStr) : Except TeachRaised Unit :=
  require (count ≤ limit)
    (validationError (fieldName ++ py " has an invalid item or exceeds its v1 bound"))

/-- `DemonstrationEvent(event_id, ...)`. -/
def demonstrationEvent (eventType : DemonstrationEventType) (eventId sequenceIndex sourceTimeNs :
    Json) (observations : List DemonstrationObservationReference)
    (actions : List DemonstrationActionReference)
    (annotations : List ( DemonstrationAnnotation nfc)) :
    Except TeachRaised (DemonstrationEvent nfc) := do
  let eventId ← identifier eventId (py "event_id")
  let ⟨sequenceIndex, hindexed⟩ ← sequenceIndexOf sequenceIndex
  let ⟨sourceTimeNs, htimed⟩ ← sourceTimeOf sourceTimeNs
  checkCount observations.length maxReferencesPerEvent (py "event observation references")
  checkCount actions.length maxReferencesPerEvent (py "event action references")
  let ⟨hfew⟩ ← ensure (observations.length + actions.length ≤ maxReferencesPerEvent)
    (validationError (py "event references exceed the combined bound"))
  let ⟨hobserved⟩ ← ensure (observations.map fun item => (item.kind, item.referenceId)).Nodup
    (validationError (py "observation references must be unique"))
  let ⟨hacted⟩ ← ensure (actions.map fun item => item.actionId).Nodup
    (validationError (py "action references must be unique"))
  let ⟨hannotated⟩ ← ensure (annotations.length ≤ maxAnnotationsPerEvent)
    (validationError (py "event annotations has an invalid item or exceeds its v1 bound"))
  let ⟨hevident⟩ ← ensure (observations ≠ [] ∨ actions ≠ [] ∨ annotations ≠ [])
    (validationError (py "an event must contain explicit evidence"))
  pure ⟨eventId, sequenceIndex, eventType, sourceTimeNs, observations, actions, annotations,
    hindexed, htimed, hfew, hobserved, hacted, hannotated, hevident⟩

/-- The JSON of a time that may be absent. -/
def optionalTime (time : Option Nat) : Json := time.elim .null fun n => .int n

/-- `DemonstrationEvent.as_dict`. -/
def DemonstrationEvent.asDict (event : DemonstrationEvent nfc) : Json :=
  .obj [(py "action_references", .arr (event.actionReferences.map (·.asDict))),
    (py "annotations", .arr (event.annotations.map (·.asDict))),
    (py "event_id", .str event.eventId.text),
    (py "event_type", .str event.eventType.value),
    (py "observation_references", .arr (event.observationReferences.map (·.asDict))),
    (py "sequence_index", .int event.sequenceIndex),
    (py "source_time_ns", optionalTime event.sourceTimeNs)]

/-- `DemonstrationOutcome`. -/
structure DemonstrationOutcome (nfc : Nfc) where
  status : Learning.DemonstrationOutcomeStatus
  reasonCodes : List World.Name
  detail : NoteText nfc
  /-- There are few reasons. -/
  few : reasonCodes.length ≤ maxOutcomeReasons
  /-- There is a reason. -/
  reasoned : reasonCodes ≠ []
  /-- A reason is given once. -/
  distinct : reasonCodes.Nodup
  deriving DecidableEq

/-- A value of `type(item) is str`. -/
def isText : Json → Bool
  | .str _ => true
  | _ => false

/-- The identifiers of the reasons, one for each. -/
def reasonNames : (items : List Json) →
    Except TeachRaised {names : List World.Name // names.length = items.length}
  | [] => .ok ⟨[], rfl⟩
  | item :: items => do
    let name ← identifier item (py "outcome reason")
    let ⟨names, hlength⟩ ← reasonNames items
    pure ⟨name :: names, by rw [List.length_cons, hlength, List.length_cons]⟩

/-- `DemonstrationOutcome(status, reason_codes, detail)`. -/
def demonstrationOutcome (nfc : Nfc) (status : Learning.DemonstrationOutcomeStatus)
    (reasonCodes : List Json) (detail : Json) : Except TeachRaised (DemonstrationOutcome nfc) := do
  let ⟨hcount⟩ ← ensure (reasonCodes.length ≤ maxOutcomeReasons ∧ reasonCodes.all isText = true)
    (validationError (py "outcome reasons has an invalid item or exceeds its v1 bound"))
  let ⟨hsome⟩ ← ensure (reasonCodes ≠ [])
    (validationError (py "an explicit outcome requires a reason"))
  let ⟨reasons, hlength⟩ ← reasonNames reasonCodes
  let ⟨hdistinct⟩ ← ensure reasons.Nodup (validationError (py "outcome reasons must be unique"))
  let detail ← noteText nfc detail (py "outcome detail")
  pure ⟨status, reasons, detail, hlength ▸ hcount.1,
    fun hnil => hsome (List.length_eq_zero_iff.mp (by rw [← hlength, hnil, List.length_nil])),
    hdistinct⟩

/-- `DemonstrationOutcome.as_dict`. -/
def DemonstrationOutcome.asDict (outcome : DemonstrationOutcome nfc) : Json :=
  .obj [(py "detail", .str outcome.detail.text),
    (py "reason_codes", .arr (outcome.reasonCodes.map fun reason => .str reason.text)),
    (py "status", .str outcome.status.value)]

end Events

end Teach
end AyyoHumanoid
