import AyyoHumanoid.TeachEpisodes

/-!
# Verification of demonstration episodes

The verifier recomputes the structure and the identities of a stored episode and
collects the reasons why it fails. An episode that the constructor returned gives
it no reason.
-/

namespace AyyoHumanoid
namespace Teach

open PyText JsonText Artifacts

section Verification

/-- `DemonstrationIntegrityReason`. -/
inductive DemonstrationIntegrityReason where
  | invalidType | invalidSchema | invalidCapturePolicy | invalidEnum | invalidEventOrder
  | duplicateEventId | resourceBoundExceeded | sourceRobotMismatch | invalidClockSemantics
  | invalidContent | fingerprintMismatch | episodeIdMismatch
  deriving DecidableEq, Repr

/-- The reasons in the order of their class. -/
def DemonstrationIntegrityReason.members : List DemonstrationIntegrityReason :=
  [.invalidType, .invalidSchema, .invalidCapturePolicy, .invalidEnum, .invalidEventOrder,
    .duplicateEventId, .resourceBoundExceeded, .sourceRobotMismatch, .invalidClockSemantics,
    .invalidContent, .fingerprintMismatch, .episodeIdMismatch]

/-- `DemonstrationIntegrityVerification`. -/
structure DemonstrationIntegrityVerification where
  verified : Bool
  reasons : List DemonstrationIntegrityReason
  episodeId : Option PyStr
  recomputedFingerprint : Option PyStr
  deriving DecidableEq

variable {nfc : Nfc}

/-- A reason that is added when its condition holds. -/
def reasonIf (condition : Prop) [Decidable condition] (reason : DemonstrationIntegrityReason) :
    List DemonstrationIntegrityReason :=
  if condition then [reason] else []

/-- A reason whose condition fails is not added. -/
theorem reasonIf_false {condition : Prop} [Decidable condition]
    {reason : DemonstrationIntegrityReason} (h : ¬ condition) : reasonIf condition reason = [] :=
  if_neg h

/-- The loop over the events, after the last time that was given; each event is typed. -/
def eventReasons (clockKind : DemonstrationClockKind) :
    Option Nat → List (DemonstrationEvent nfc) → List DemonstrationIntegrityReason
  | _, [] => []
  | priorTime, event :: events =>
    reasonIf (maxReferencesPerEvent <
        event.observationReferences.length + event.actionReferences.length)
      .resourceBoundExceeded ++
    reasonIf (if clockKind = .unavailable then event.sourceTimeNs ≠ none
        else event.sourceTimeNs = none ∨
          ∃ prior ∈ priorTime, ∃ time ∈ event.sourceTimeNs, time < prior)
      .invalidClockSemantics ++
    eventReasons clockKind (event.sourceTimeNs.or priorTime) events

/-- `except (AttributeError, TypeError, ValueError)` catches it. -/
def isValueError : TeachRaised → Bool
  | .typed error => error.kind != .demonstrationSession
  | .builtin error => error == .unicodeEncodeError || error == .valueError

variable (p : Platform)

/-- The `try` block: the recomputed digest, the identities and the rebuilt episode. -/
def identityReasons (episode : DemonstrationEpisode nfc) :
    Except TeachRaised (List DemonstrationIntegrityReason × Option PyStr) :=
  -- encoding the document raises on a lone surrogate
  if utf8Encodable (encode (.obj episode.semanticDocument)) = false then
    .ok ([.invalidContent], none)
  else
    let recomputed := episode.recomputeFingerprint p
    let identities :=
      reasonIf (episode.episodeFingerprint ≠ recomputed) .fingerprintMismatch ++
        reasonIf (episode.episodeId ≠ episode.recomputeEpisodeId p) .episodeIdMismatch
    if utf8Encodable (encode episode.asDict) = false then
      .ok (identities ++ [.invalidContent], some recomputed)
    else
      let sized := identities ++
        reasonIf (maxSerializedEpisodeBytes < documentSize episode.asDict) .resourceBoundExceeded
      match demonstrationEpisode p episode.sourceKind (optionalName episode.robotId)
        episode.sourceTime episode.provenance episode.events episode.outcome with
      | .ok rebuilt =>
        .ok (sized ++ reasonIf (rebuilt.semanticDocument ≠ episode.semanticDocument)
          .invalidContent, some recomputed)
      | .error raised =>
        if isValueError raised then .ok (sized ++ [.invalidContent], some recomputed)
        else .error raised

/-- The reasons before the `try` block. -/
def structureReasons (episode : DemonstrationEpisode nfc) : List DemonstrationIntegrityReason :=
  reasonIf (episode.schemaId ≠ teachModeSchemaId ∨ episode.schemaVersion ≠ teachModeSchemaVersion)
    .invalidSchema ++
  reasonIf (episode.capturePolicyId ≠ Learning.capturePolicyId ∨
      episode.capturePolicyVersion ≠ Learning.capturePolicyVersion ∨
      episode.capturePolicyFingerprint ≠ capturePolicyFingerprint p)
    .invalidCapturePolicy ++
  reasonIf (episode.sourceKind = .developmentScenario ∧
      episode.robotId.map (·.text) ≠ some ayyoRobotId)
    .sourceRobotMismatch ++
  reasonIf (¬ (1 ≤ episode.events.length ∧ episode.events.length ≤ maxEventsPerEpisode))
    .resourceBoundExceeded ++
  reasonIf (episode.events.map (·.sequenceIndex) ≠ List.range episode.events.length)
    .invalidEventOrder ++
  reasonIf (¬ (episode.events.map (·.eventId)).Nodup) .duplicateEventId ++
  eventReasons episode.sourceTime.clockKind none episode.events ++
  reasonIf (maxAnnotationsPerEpisode <
      (episode.events.map fun event => event.annotations.length).sum)
    .resourceBoundExceeded

/-- `verify_episode`; the episode's type carries the checks of types and enumerations. -/
def verifyEpisode (episode : DemonstrationEpisode nfc) :
    Except TeachRaised DemonstrationIntegrityVerification := do
  let (identities, recomputed) ← identityReasons p episode
  let reasons := structureReasons p episode ++ identities
  let ordered := DemonstrationIntegrityReason.members.filter fun reason => decide (reason ∈ reasons)
  pure {
    verified := ordered.isEmpty
    reasons := ordered
    episodeId := some episode.episodeId
    recomputedFingerprint := recomputed }

end Verification

section Names

/-- An identifier is not empty. -/
theorem nonempty_name (name : World.Name) : name.text ≠ [] := by
  intro hempty
  have hspelled := name.canonical.1
  rw [hempty] at hspelled
  cases hspelled

/-- A printable character that is no space is not white space. -/
theorem not_isSpace_of_identifier {afterAlnum : Bool} {text : PyStr}
    (h : World.identifierRest afterAlnum text = true) : ∀ c ∈ text, isSpace c = false := by
  induction text generalizing afterAlnum with
  | nil =>
    intro c hc
    cases hc
  | cons c text ih =>
    intro d hd
    rw [World.identifierRest] at h
    by_cases halnum : World.isLowerAlnum c = true
    · rw [if_pos halnum] at h
      cases List.mem_cons.mp hd with
      | inl heq =>
        rw [heq]
        simp only [World.isLowerAlnum, Bool.or_eq_true, Bool.and_eq_true,
          decide_eq_true_eq] at halnum
        simp only [isSpace, Bool.or_eq_false_iff, Bool.and_eq_false_iff, decide_eq_false_iff_not,
          beq_eq_false_iff_ne]
        omega
      | inr htail => exact ih h d htail
    · rw [if_neg halnum] at h
      by_cases hseparator : (afterAlnum && (c.val == 46 || c.val == 95 || c.val == 45)) = true
      · rw [if_pos hseparator] at h
        cases List.mem_cons.mp hd with
        | inl heq =>
          rw [heq]
          simp only [Bool.and_eq_true, Bool.or_eq_true, beq_iff_eq] at hseparator
          simp only [isSpace, Bool.or_eq_false_iff, Bool.and_eq_false_iff,
            decide_eq_false_iff_not, beq_eq_false_iff_ne]
          omega
        | inr htail => exact ih h d htail
      · rw [if_neg hseparator] at h
        cases h

/-- An identifier is trimmed. -/
theorem strip_identifier {text : PyStr} (h : World.isIdentifier text = true) :
    strip text = text := by
  have hnone := not_isSpace_of_identifier h
  refine strip_eq_self (fun c hc => hnone c ?_) fun c hc => hnone c ?_
  · exact List.mem_of_mem_head? hc
  · exact List.mem_of_mem_getLast? hc

/-- A checked name passes `_identifier`. -/
theorem identifier_of_canonical {text : PyStr} (h : World.IsCanonical 256 text)
    (fieldName : PyStr) : identifier (.str text) fieldName = .ok ⟨text, h⟩ := by
  have hnonempty := nonempty_name ⟨text, h⟩
  have htrimmed := strip_identifier h.1
  simp only [identifier, Checks.require_bind_ok, Checks.ensure_bind_ok]
  exact ⟨⟨hnonempty, htrimmed.symm⟩, h, rfl⟩

/-- A checked name that may be absent passes `_optional_identifier`. -/
theorem optionalIdentifier_optionalName (name : Option World.Name) (fieldName : PyStr) :
    optionalIdentifier (optionalName name) fieldName = .ok name := by
  cases name with
  | none => rfl
  | some name =>
    have hname := identifier_of_canonical name.canonical fieldName
    change some <$> identifier (.str name.text) fieldName = _
    rw [hname]
    rfl

end Names

section Texts

variable {nfc : Nfc}

/-- A checked digest can be encoded. -/
theorem FingerprintText.encodable (value : FingerprintText) : utf8Encodable value.text = true :=
  utf8Encodable_of_printable (printable_identifierRest value.spelled.1.2.2.2)

/-- A note can be encoded. -/
theorem NoteText.encodable (note : NoteText nfc) : utf8Encodable note.text = true := by
  have hclean := note.checked.2.2.2
  rw [utf8Encodable, List.all_eq_true]
  intro c hc
  have hchar := List.any_eq_false.mp hclean c hc
  simp only [isControlOrSurrogate, Bool.or_eq_true, not_or] at hchar
  rw [Bool.not_eq_true']
  exact Bool.eq_false_iff.mpr hchar.2

/-- A name that may be absent can be encoded. -/
theorem encodable_optionalName (name : Option World.Name) :
    utf8Encodable (encode (optionalName name)) = true := by
  rw [optionalName, utf8Encodable_optionalText]
  intro text htext
  obtain ⟨item, -, rfl⟩ := Option.map_eq_some_iff.mp htext
  exact utf8Encodable_of_printable (printable_identifier item)

/-- A digest that may be absent can be encoded. -/
theorem encodable_optionalDigest (value : Option FingerprintText) :
    utf8Encodable (encode (optionalDigest value)) = true := by
  rw [optionalDigest, utf8Encodable_optionalText]
  intro text htext
  obtain ⟨item, -, rfl⟩ := Option.map_eq_some_iff.mp htext
  exact item.encodable

/-- A time that may be absent can be encoded. -/
theorem encodable_optionalTime (time : Option Nat) :
    utf8Encodable (encode (optionalTime time)) = true := by
  cases time with
  | none => exact utf8Encodable_null
  | some n => exact utf8Encodable_int n

/-- A reference can be encoded. -/
theorem DemonstrationObservationReference.encodable
    (reference : DemonstrationObservationReference) :
    utf8Encodable (encode reference.asDict) = true := by
  have hid := utf8Encodable_of_printable (printable_identifier reference.referenceId)
  have hkind : utf8Encodable reference.kind.value = true := by
    cases reference.kind <;> exact utf8Encodable_py _
  have hstatus : utf8Encodable reference.status.value = true := by
    cases reference.status <;> exact utf8Encodable_py _
  rw [DemonstrationObservationReference.asDict, utf8Encodable_obj]
  simp only [List.forall_mem_cons, List.not_mem_nil, false_imp_iff, implies_true, and_true,
    utf8Encodable_py, utf8Encodable_str, true_and]
  exact ⟨encodable_optionalDigest _, encodable_optionalName _, hkind, encodable_optionalName _,
    hid, hstatus⟩

/-- An action can be encoded. -/
theorem DemonstrationActionReference.encodable (action : DemonstrationActionReference) :
    utf8Encodable (encode action.asDict) = true := by
  have hid := utf8Encodable_of_printable (printable_identifier action.actionId)
  have hevidence := utf8Encodable_of_printable (printable_identifier action.evidenceRef)
  have hkind : utf8Encodable action.kind.value = true := by
    cases action.kind <;> exact utf8Encodable_py _
  have hauthority : utf8Encodable action.authority.value = true := by
    cases action.authority <;> exact utf8Encodable_py _
  have hdisposition : utf8Encodable action.disposition.value = true := by
    cases action.disposition <;> exact utf8Encodable_py _
  have hunit : utf8Encodable action.targetUnit.value = true := by
    cases action.targetUnit <;> exact utf8Encodable_py _
  have htarget : utf8Encodable (encode (optionalFloat action.targetValue)) = true := by
    cases action.targetValue with
    | none => exact utf8Encodable_null
    | some token => exact utf8Encodable_float token
  rw [DemonstrationActionReference.asDict, utf8Encodable_obj]
  simp only [List.forall_mem_cons, List.not_mem_nil, false_imp_iff, implies_true, and_true,
    utf8Encodable_py, utf8Encodable_str, true_and]
  exact ⟨hid, hauthority, hdisposition, hevidence, hkind, encodable_optionalName _,
    encodable_optionalName _, hunit, htarget⟩

/-- An annotation can be encoded. -/
theorem DemonstrationAnnotation.encodable ( annotation : DemonstrationAnnotation nfc) :
    utf8Encodable (encode annotation.asDict) = true := by
  have hkind : utf8Encodable annotation.kind.value = true := by
    cases annotation.kind <;> exact utf8Encodable_py _
  rw [ DemonstrationAnnotation.asDict, utf8Encodable_obj]
  simp only [List.forall_mem_cons, List.not_mem_nil, false_imp_iff, implies_true, and_true,
    utf8Encodable_py, utf8Encodable_str, true_and]
  exact ⟨hkind, annotation.text.encodable⟩

/-- A list of documents can be encoded when each of them can. -/
theorem encodable_map {α : Type} {items : List α} {document : α → Json}
    (h : ∀ item, utf8Encodable (encode (document item)) = true) :
    utf8Encodable (encode (.arr (items.map document))) = true := by
  rw [utf8Encodable_arr]
  intro item hitem
  obtain ⟨source, -, rfl⟩ := List.mem_map.mp hitem
  exact h source

/-- An event can be encoded. -/
theorem DemonstrationEvent.encodable (event : DemonstrationEvent nfc) :
    utf8Encodable (encode event.asDict) = true := by
  have hid := utf8Encodable_of_printable (printable_identifier event.eventId)
  have htype : utf8Encodable event.eventType.value = true := by
    cases event.eventType <;> exact utf8Encodable_py _
  rw [DemonstrationEvent.asDict, utf8Encodable_obj]
  simp only [List.forall_mem_cons, List.not_mem_nil, false_imp_iff, implies_true, and_true,
    utf8Encodable_py, utf8Encodable_str, true_and]
  exact ⟨encodable_map DemonstrationActionReference.encodable,
    encodable_map DemonstrationAnnotation.encodable, hid, htype,
    encodable_map DemonstrationObservationReference.encodable, utf8Encodable_int _,
    encodable_optionalTime _⟩

/-- An outcome can be encoded. -/
theorem DemonstrationOutcome.encodable (outcome : DemonstrationOutcome nfc) :
    utf8Encodable (encode outcome.asDict) = true := by
  have hstatus : utf8Encodable outcome.status.value = true := by
    cases outcome.status <;> exact utf8Encodable_py _
  have hreasons : ∀ reason : World.Name, utf8Encodable (encode (.str reason.text)) = true := by
    intro reason
    rw [utf8Encodable_str]
    exact utf8Encodable_of_printable (printable_identifier reason)
  rw [DemonstrationOutcome.asDict, utf8Encodable_obj]
  simp only [List.forall_mem_cons, List.not_mem_nil, false_imp_iff, implies_true, and_true,
    utf8Encodable_py, utf8Encodable_str, true_and]
  exact ⟨outcome.detail.encodable, encodable_map hreasons, hstatus⟩

/-- A provenance can be encoded. -/
theorem DemonstrationProvenance.encodable (provenance : DemonstrationProvenance) :
    utf8Encodable (encode provenance.asDict) = true := by
  have hsource := utf8Encodable_of_printable (printable_identifier provenance.sourceRef)
  rw [DemonstrationProvenance.asDict, utf8Encodable_obj]
  simp only [List.forall_mem_cons, List.not_mem_nil, false_imp_iff, implies_true, and_true,
    utf8Encodable_py, utf8Encodable_str, true_and]
  exact ⟨provenance.sourceFingerprint.encodable, hsource, encodable_optionalName _⟩

/-- A range of times can be encoded. -/
theorem DemonstrationSourceTimeRange.encodable (range : DemonstrationSourceTimeRange) :
    utf8Encodable (encode range.asDict) = true := by
  have hclock : utf8Encodable range.clockKind.value = true := by
    cases range.clockKind <;> exact utf8Encodable_py _
  rw [DemonstrationSourceTimeRange.asDict, utf8Encodable_obj]
  simp only [List.forall_mem_cons, List.not_mem_nil, false_imp_iff, implies_true, and_true,
    utf8Encodable_py, utf8Encodable_str, true_and]
  exact ⟨hclock, encodable_optionalTime _, encodable_optionalTime _⟩

variable (p : Platform)

/-- An identity of the package can be encoded. -/
theorem encodable_semanticSha256 (tag : String) (document : Json) :
    utf8Encodable (semanticSha256 p (py tag) document) = true := by
  rw [semanticSha256, utf8Encodable_append, utf8Encodable_append, utf8Encodable_py,
    utf8Encodable_py, (p.sha256_hex _).encodable]
  rfl

/-- The contents of a built episode can be encoded. -/
theorem encodable_semanticDocument (sourceKind : Learning.DemonstrationSourceKind)
    (robotId : Option World.Name) (sourceTime : DemonstrationSourceTimeRange)
    (provenance : DemonstrationProvenance) (events : List (DemonstrationEvent nfc))
    (outcome : DemonstrationOutcome nfc) :
    ∀ entry ∈ (episodeOf p sourceKind robotId sourceTime provenance events
        outcome).semanticDocument,
      utf8Encodable entry.1 = true ∧ utf8Encodable (encode entry.2) = true := by
  have hkind : utf8Encodable sourceKind.value = true := by
    cases sourceKind <;> exact utf8Encodable_py _
  have hpolicy := encodable_semanticSha256 p "teach-mode-capture-policy" capturePolicyDocument
  simp only [episodeOf, DemonstrationEpisode.identified, DemonstrationEpisode.semanticDocument,
    List.forall_mem_cons, List.not_mem_nil, false_imp_iff, implies_true, and_true,
    utf8Encodable_py, utf8Encodable_str, true_and, utf8Encodable_obj, schemaDocument]
  exact ⟨⟨hpolicy, utf8Encodable_py _, utf8Encodable_py _⟩,
    encodable_map DemonstrationEvent.encodable, outcome.encodable, provenance.encodable,
    encodable_optionalName _, ⟨utf8Encodable_py _, utf8Encodable_py _⟩, hkind,
    sourceTime.encodable⟩

end Texts

section Built

variable {nfc : Nfc}

/-- What the constructor of an episode checks of its parts before it takes the digest. -/
structure EpisodeFits (sourceKind : Learning.DemonstrationSourceKind)
    (robotId : Option World.Name) (sourceTime : DemonstrationSourceTimeRange)
    (events : List (DemonstrationEvent nfc)) : Prop where
  /-- A scenario is about the robot. -/
  robot : sourceKind = .developmentScenario → robotId.map (·.text) = some ayyoRobotId
  few : events.length ≤ maxEventsPerEpisode
  /-- There is an event. -/
  present : events ≠ []
  /-- The indices count the events. -/
  ordered : events.map (·.sequenceIndex) = List.range events.length
  /-- An identity names one event. -/
  distinct : (events.map (·.eventId)).Nodup
  /-- The times fit. -/
  timed : checkEventTimes sourceTime events = .ok ()
  /-- The annotations are few. -/
  annotated : (events.map fun event => event.annotations.length).sum ≤ maxAnnotationsPerEpisode

variable {p : Platform} {sourceKind : Learning.DemonstrationSourceKind} {robotId : Json}
  {name : Option World.Name} {sourceTime : DemonstrationSourceTimeRange}
  {provenance : DemonstrationProvenance} {events : List (DemonstrationEvent nfc)}
  {outcome : DemonstrationOutcome nfc} {episode : DemonstrationEpisode nfc}

/-- The constructor returns the episode of its parts exactly when they pass the checks. -/
theorem demonstrationEpisode_ok :
    demonstrationEpisode p sourceKind robotId sourceTime provenance events outcome = .ok episode ↔
      ∃ name, optionalIdentifier robotId (py "robot_id") = .ok name ∧
        EpisodeFits sourceKind name sourceTime events ∧
        documentSize (episodeOf p sourceKind name sourceTime provenance events outcome).asDict ≤
          maxSerializedEpisodeBytes ∧
        episodeOf p sourceKind name sourceTime provenance events outcome = episode := by
  rw [demonstrationEpisode, Checks.bind_ok]
  constructor
  · rintro ⟨name, hname, h⟩
    simp only [checkCount, Checks.require_bind_ok] at h
    obtain ⟨hrobot, hfew, hpresent, hordered, hdistinct, h⟩ := h
    obtain ⟨_, htimed, h⟩ := Checks.bind_ok.mp h
    simp only [Checks.require_bind_ok, Checks.pure_ok] at h
    obtain ⟨hannotated, hsize, hepisode⟩ := h
    exact ⟨name, hname, ⟨hrobot, hfew, hpresent, hordered, hdistinct, htimed, hannotated⟩, hsize,
      hepisode⟩
  · rintro ⟨name, hname, hfits, hsize, hepisode⟩
    refine ⟨name, hname, ?_⟩
    simp only [checkCount, Checks.require_bind_ok]
    refine ⟨hfits.robot, hfits.few, hfits.present, hfits.ordered, hfits.distinct, ?_⟩
    refine Checks.bind_ok.mpr ⟨(), hfits.timed, ?_⟩
    simp only [Checks.require_bind_ok, Checks.pure_ok]
    exact ⟨hfits.annotated, hsize, hepisode⟩

/-- Events whose times fit give the loop of the verifier no reason. -/
theorem eventReasons_ordered {clockKind : DemonstrationClockKind} {priorTime : Option Nat}
    (htimes : if clockKind = .unavailable then ∀ event ∈ events, event.sourceTimeNs = none
      else (∀ event ∈ events, event.sourceTimeNs ≠ none) ∧
        (events.filterMap (·.sourceTimeNs)).Pairwise (· ≤ ·) ∧
        ∀ prior ∈ priorTime, ∀ time ∈ events.filterMap (·.sourceTimeNs), prior ≤ time) :
    eventReasons clockKind priorTime events = [] := by
  induction events generalizing priorTime with
  | nil => rfl
  | cons event events ih =>
    have hfew : ¬ maxReferencesPerEvent <
        event.observationReferences.length + event.actionReferences.length :=
      Nat.not_lt.mpr event.few
    rw [eventReasons, reasonIf_false hfew]
    by_cases hclock : clockKind = .unavailable
    · rw [if_pos hclock] at htimes
      have hnone := htimes event (List.mem_cons_self ..)
      have hrest := @ih (event.sourceTimeNs.or priorTime) (by
        rw [if_pos hclock]
        intro item hitem
        exact htimes item (List.mem_cons_of_mem _ hitem))
      have hquiet : ¬ (if clockKind = .unavailable then event.sourceTimeNs ≠ none
          else event.sourceTimeNs = none ∨
            ∃ prior ∈ priorTime, ∃ time ∈ event.sourceTimeNs, time < prior) := by
        rw [if_pos hclock]
        exact fun hsome => hsome hnone
      rw [hrest, reasonIf_false hquiet]
      rfl
    · rw [if_neg hclock] at htimes
      obtain ⟨hsome, hpairwise, hprior⟩ := htimes
      obtain ⟨time, htime⟩ := Option.ne_none_iff_exists'.mp (hsome event (List.mem_cons_self ..))
      have hlist : (event :: events).filterMap (·.sourceTimeNs) =
          time :: events.filterMap (·.sourceTimeNs) := by
        rw [List.filterMap_cons, htime]
      rw [hlist] at hpairwise hprior
      have hlater : ∀ later ∈ events.filterMap (·.sourceTimeNs), time ≤ later :=
        (List.pairwise_cons.mp hpairwise).1
      have hrest := @ih (event.sourceTimeNs.or priorTime) (by
        rw [if_neg hclock]
        refine ⟨fun item hitem => hsome item (List.mem_cons_of_mem _ hitem),
          hpairwise.of_cons, ?_⟩
        intro prior hmem later hlatermem
        rw [htime, Option.some_or] at hmem
        cases hmem
        exact hlater later hlatermem)
      have hquiet : ¬ (if clockKind = .unavailable then event.sourceTimeNs ≠ none
          else event.sourceTimeNs = none ∨
            ∃ prior ∈ priorTime, ∃ time ∈ event.sourceTimeNs, time < prior) := by
        rw [if_neg hclock, htime]
        intro h
        cases h with
        | inl hnone => cases hnone
        | inr hbackwards =>
          obtain ⟨prior, hmem, later, hlatermem, hlt⟩ := hbackwards
          cases hlatermem
          have hle := hprior prior hmem time (List.mem_cons_self ..)
          omega
      rw [hrest, reasonIf_false hquiet]
      rfl

/-- The times of checked events are ordered. -/
theorem ordered_of_checkEventTimes (h : checkEventTimes sourceTime events = .ok ()) :
    if sourceTime.clockKind = .unavailable then ∀ event ∈ events, event.sourceTimeNs = none
    else (∀ event ∈ events, event.sourceTimeNs ≠ none) ∧
      (events.filterMap (·.sourceTimeNs)).Pairwise (· ≤ ·) ∧
      ∀ prior ∈ (none : Option Nat), ∀ time ∈ events.filterMap (·.sourceTimeNs), prior ≤ time := by
  by_cases hclock : sourceTime.clockKind = .unavailable
  · rw [checkEventTimes, if_pos hclock, Checks.require_ok] at h
    rw [if_pos hclock]
    exact h
  · rw [checkEventTimes, if_neg hclock] at h
    simp only [Checks.require_bind_ok, Checks.require_ok] at h
    rw [if_neg hclock]
    exact ⟨h.1, h.2.1, nofun⟩

/-- An episode that the constructor returned gives no reason before its identities. -/
theorem structureReasons_built (hfits : EpisodeFits sourceKind name sourceTime events)
    (hepisode : episodeOf p sourceKind name sourceTime provenance events outcome = episode) :
    structureReasons p episode = [] := by
  have hevents : episode.events = events := by rw [← hepisode]; rfl
  have hschema : ¬ (episode.schemaId ≠ teachModeSchemaId ∨
      episode.schemaVersion ≠ teachModeSchemaVersion) := by
    rw [← hepisode]
    exact fun h => h.elim (fun hid => hid rfl) fun hversion => hversion rfl
  have hpolicy : ¬ (episode.capturePolicyId ≠ Learning.capturePolicyId ∨
      episode.capturePolicyVersion ≠ Learning.capturePolicyVersion ∨
      episode.capturePolicyFingerprint ≠ capturePolicyFingerprint p) := by
    rw [← hepisode]
    exact fun h => h.elim (fun hid => hid rfl) fun hrest =>
      hrest.elim (fun hversion => hversion rfl) fun hfingerprint => hfingerprint rfl
  have hrobot : ¬ (episode.sourceKind = .developmentScenario ∧
      episode.robotId.map (·.text) ≠ some ayyoRobotId) := by
    rw [← hepisode]
    exact fun h => h.2 (hfits.robot h.1)
  have hcount : ¬ ¬ (1 ≤ episode.events.length ∧ episode.events.length ≤ maxEventsPerEpisode) := by
    rw [hevents]
    exact not_not.mpr ⟨List.length_pos_iff.mpr hfits.present, hfits.few⟩
  have hordered : ¬ (episode.events.map (·.sequenceIndex) ≠
      List.range episode.events.length) := by
    rw [hevents]
    exact not_not.mpr hfits.ordered
  have hdistinct : ¬ ¬ (episode.events.map (·.eventId)).Nodup := by
    rw [hevents]
    exact not_not.mpr hfits.distinct
  have hannotated : ¬ maxAnnotationsPerEpisode <
      (episode.events.map fun event => event.annotations.length).sum := by
    rw [hevents]
    exact Nat.not_lt.mpr hfits.annotated
  have hloop : eventReasons episode.sourceTime.clockKind none episode.events = [] := by
    rw [← hepisode]
    exact eventReasons_ordered (ordered_of_checkEventTimes hfits.timed)
  rw [structureReasons, reasonIf_false hschema, reasonIf_false hpolicy, reasonIf_false hrobot,
    reasonIf_false hcount, reasonIf_false hordered, reasonIf_false hdistinct, hloop,
    reasonIf_false hannotated]
  rfl

/-- An episode that the constructor returned gives no reason by its identities. -/
theorem identityReasons_built (hfits : EpisodeFits sourceKind name sourceTime events)
    (hsize : documentSize (episodeOf p sourceKind name sourceTime provenance events
      outcome).asDict ≤ maxSerializedEpisodeBytes)
    (hepisode : episodeOf p sourceKind name sourceTime provenance events outcome = episode) :
    identityReasons p episode = .ok ([], some episode.episodeFingerprint) := by
  have hsemantic := encodable_semanticDocument p sourceKind name sourceTime provenance events
    outcome
  rw [hepisode] at hsemantic hsize
  have hfingerprint : episode.recomputeFingerprint p = episode.episodeFingerprint := by
    rw [← hepisode]
    rfl
  have hid : episode.recomputeEpisodeId p = episode.episodeId := by
    rw [← hepisode]
    rfl
  have hdocument : ¬ utf8Encodable (encode (.obj episode.semanticDocument)) = false := by
    rw [(utf8Encodable_obj _).mpr hsemantic]
    exact Bool.noConfusion
  have hstored : ¬ utf8Encodable (encode episode.asDict) = false := by
    have hencodable : utf8Encodable (encode episode.asDict) = true := by
      rw [DemonstrationEpisode.asDict, utf8Encodable_obj]
      intro entry hentry
      cases List.mem_append.mp hentry with
      | inl hmem => exact hsemantic entry hmem
      | inr hmem =>
        rw [← hfingerprint, ← hid] at hmem
        simp only [List.mem_cons, List.not_mem_nil, or_false] at hmem
        cases hmem with
        | inl heq =>
          rw [heq]
          exact ⟨utf8Encodable_py _, by
            rw [utf8Encodable_str]
            exact encodable_semanticSha256 p "demonstration-episode-content" _⟩
        | inr heq =>
          rw [heq]
          exact ⟨utf8Encodable_py _, by
            rw [utf8Encodable_str]
            exact encodable_semanticSha256 p "demonstration-episode" _⟩
    rw [hencodable]
    exact Bool.noConfusion
  have hrebuilt : demonstrationEpisode p episode.sourceKind (optionalName episode.robotId)
      episode.sourceTime episode.provenance episode.events episode.outcome = .ok episode := by
    rw [demonstrationEpisode_ok]
    refine ⟨name, ?_, ?_, ?_, ?_⟩
    · rw [← hepisode]
      exact optionalIdentifier_optionalName name _
    · rw [← hepisode]
      exact hfits
    · rw [← hepisode] at hsize ⊢
      exact hsize
    · rw [← hepisode]
      rfl
  rw [identityReasons, if_neg hdocument, if_neg hstored, hrebuilt]
  simp only [hfingerprint, hid]
  rw [reasonIf_false (not_not.mpr rfl), reasonIf_false (not_not.mpr rfl),
    reasonIf_false (Nat.not_lt.mpr hsize), reasonIf_false (not_not.mpr rfl)]
  rfl

/-- An episode that the constructor returned is verified. -/
theorem verifyEpisode_built
    (h : demonstrationEpisode p sourceKind robotId sourceTime provenance events outcome =
      .ok episode) :
    verifyEpisode p episode = .ok {
      verified := true
      reasons := []
      episodeId := some episode.episodeId
      recomputedFingerprint := some episode.episodeFingerprint } := by
  obtain ⟨name, -, hfits, hsize, hepisode⟩ := demonstrationEpisode_ok.mp h
  have hstructure := structureReasons_built hfits hepisode
  rw [verifyEpisode, identityReasons_built hfits hsize hepisode, Checks.ok_bind, hstructure]
  rfl

end Built

end Teach
end AyyoHumanoid
