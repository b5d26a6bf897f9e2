import AyyoHumanoid.JsonBounds
import AyyoHumanoid.SelectionModels

/-!
# The reviewed selection policy

The policy measures every candidate of a batch, names it by the digest of its
canonical document and gives it a first outcome. Candidates with one name become
one, and candidates that repeat a proposition or contradict each other are
deferred.
-/

namespace AyyoHumanoid
namespace Consolidation

open PyText JsonText PyCollections Memory Validation

/-- `_SUPPORTED_MEMORY_TYPES`. -/
def supportedMemoryTypes : List MemoryType :=
  [.episodic, .semantic, .preference, .social, .spatial, .failure]

/-- `_PROVENANCE_BY_MEMORY_TYPE`. -/
def provenanceByMemoryType : MemoryType → List ProvenanceType
  | .episodic => [.directObservation, .explicitOwnerStatement, .systemEvent, .trustedManualImport]
  | .semantic => [.directObservation, .explicitOwnerStatement, .trustedManualImport]
  | .preference => [.explicitOwnerStatement, .trustedManualImport]
  | .social => [.explicitOwnerStatement, .trustedManualImport]
  | .spatial => [.directObservation, .trustedManualImport]
  | .failure => [.directObservation, .systemEvent, .trustedManualImport]
  | .procedural => []

/-- `MAX_JSON_COLLECTION`, `MAX_JSON_DEPTH`, `MAX_JSON_NODES`, `MAX_JSON_TEXT` and
`MAX_INTEGER_BITS` of the world model. -/
def maxJsonCollection : Nat := 256

@[inherit_doc maxJsonCollection] def maxJsonDepth : Nat := 16

@[inherit_doc maxJsonCollection] def maxJsonNodes : Nat := 2048

@[inherit_doc maxJsonCollection] def maxJsonText : Nat := 4096

@[inherit_doc maxJsonCollection] def maxIntegerBits : Nat := 1024

/-- `MIN_REVIEW_CONFIDENCE`. -/
def minReviewConfidence : UnitFloat := ⟨⟨py "0.5", by decide⟩, by decide, by decide⟩

/-- `_POLICY_DOCUMENT`. -/
def policyDocument : Json := .obj [
  (py "anonymous_semantic_behavior", .str (py "exact_anonymous_episodic_claim_only")),
  (py "bounds", .obj [
    (py "aggregate_characters", .int maxCandidateSelectionAggregateCharacters),
    (py "candidate_count", .int maxCandidateSelectionCount),
    (py "identity_text", .int maxConsolidationIdentityText),
    (py "json_collection", .int maxJsonCollection),
    (py "json_depth", .int maxJsonDepth),
    (py "json_nodes", .int maxJsonNodes),
    (py "json_text", .int maxJsonText),
    (py "metadata_fields", .int maxConsolidationMetadataFields),
    (py "reason_count", .int maxCandidateSelectionReasons)]),
  (py "conflicting_candidate_behavior", .str (py "defer_all_candidates")),
  (py "correction_behavior", .str (py "reject_selection")),
  (py "derived_inference_behavior", .str (py "defer_for_confirmation")),
  (py "direct_observation_behavior", .obj [
    (py "requires_exact_eligible_staging", .bool true),
    (py "selection_memory_type", .str MemoryType.episodic.value),
    (py "selection_subject", .str (py "source_robot_id"))]),
  (py "duplicate_candidate_behavior", .str (py "defer_collapsed_candidate")),
  (py "duplicate_proposition_behavior", .str (py "defer_all_candidates")),
  (py "minimum_review_confidence", .float minReviewConfidence.token),
  (py "policy_id", .str candidateSelectionPolicyId),
  (py "policy_version", .int candidateSelectionPolicyVersion),
  (py "provenance_by_memory_type", .obj (supportedMemoryTypes.map fun memoryType =>
    (memoryType.value,
      .arr ((sortedSet ((provenanceByMemoryType memoryType).map ProvenanceType.value)).map
        Json.str))))]

/-- `CANDIDATE_SELECTION_POLICY_FINGERPRINT`. -/
def candidateSelectionPolicyFingerprint (p : Platform) : PyStr :=
  selectionPolicyPrefix ++ p.sha256 (encode policyDocument)

section Measures

/-- The characters of one value that `_json_measure` meets, unless the value exceeds a bound. -/
def measureValue : Json → Except SelectionError Nat
  | .int value => do
    require (Json.bitLength value ≤ maxIntegerBits)
      (selectionError (py "candidate integer exceeds its bound"))
    pure 0
  | .str text => do
    require (text.length ≤ maxJsonText) (selectionError (py "candidate text exceeds its bound"))
    pure text.length
  | .arr items => do
    require (items.length ≤ maxJsonCollection)
      (selectionError (py "candidate collection exceeds its bound"))
    pure 0
  | .obj entries => do
    require (entries.length ≤ maxJsonCollection)
      (selectionError (py "candidate collection exceeds its bound"))
    require (∀ entry ∈ entries, entry.1.length ≤ maxJsonText)
      (selectionError (py "candidate key exceeds its bound"))
    pure (entries.map fun entry => entry.1.length).sum
  | .null | .bool _ | .float _ => pure 0

/-- The loop of `_json_measure` over the values and their depths in the order of their visits,
with the counts of values and characters so far. A value holds no reference to itself, so there is
nothing to leave. -/
def measureLoop : Nat → Nat → List (Json × Nat) → Except SelectionError (Nat × Nat)
  | nodes, text, [] => .ok (nodes, text)
  | nodes, text, (current, depth) :: rest => do
    require (nodes + 1 ≤ maxJsonNodes ∧ depth ≤ maxJsonDepth)
      (selectionError (py "candidate JSON exceeds structural bounds"))
    let own ← measureValue current
    measureLoop (nodes + 1) (text + own) rest

/-- `_json_measure`: values, characters and canonical length. -/
def jsonMeasure (value : Json) : Except SelectionError (Nat × Nat × Nat) := do
  let (nodes, text) ← measureLoop 0 0 (value.visits 1)
  let canonical ← fromPolicy (Validation.canonicalizeJson value)
  pure (nodes, text, canonical.length)

/-- `except CandidateSelectionError`: what the measurements are, if they end within the bounds. -/
def measured {α : Type} : Except SelectionError α → Except SelectionError (Option α)
  | .ok measurements => .ok (some measurements)
  | .error ⟨.candidateSelection, _⟩ => .ok none
  | .error e => .error e

variable {nfc : Nfc}

/-- `_candidate_within_bounds`. -/
def candidateWithinBounds (candidate : CandidateEvidence nfc) :
    Except SelectionError (Bool × Nat) := do
  let provenance ← fromPolicy candidate.provenance
  if ∃ text ∈ [candidate.subject, candidate.predicate, provenance.sourceId],
      text = [] ∨ maxConsolidationIdentityText < text.length then
    return (false, 0)
  if ∃ reason ∈ candidate.correctionReason, maxJsonText < reason.length then
    return (false, 0)
  let metadata ← fromPolicy candidate.metadata
  if maxConsolidationMetadataFields < metadata.length then
    return (false, 0)
  let value ← fromPolicy candidate.value
  match ← measured ([value, .obj metadata, .obj provenance.details].mapM jsonMeasure) with
  | none => return (false, 0)
  | some measurements =>
    let nodes := (measurements.map fun item => item.1).sum
    let characters := (measurements.map fun item => item.2.1 + item.2.2).sum +
      candidate.subject.length + candidate.predicate.length + provenance.sourceId.length +
      (candidate.correctionReason.elim 0 List.length)
    return (decide (nodes ≤ maxJsonNodes), characters)

end Measures

section Identity

variable {nfc : Nfc}

/-- `observed_at.isoformat(timespec="microseconds")` of a UTC instant. -/
def isoformatMicroseconds (t : Civil) : PyStr :=
  (IsoText.datetimeToText t).dropLast ++ py "+00:00"

/-- The document of the source of a candidate. -/
def sourceDocument (provenance : Provenance) : Json := .obj [
  (py "details", .obj provenance.details),
  (py "provenance_type", .str provenance.provenanceType.value),
  (py "source_id", .str provenance.sourceId)]

/-- The document that names a candidate. -/
def candidateDocument (candidate : CandidateEvidence nfc) (provenance : Provenance)
    (metadata : List (PyStr × Json)) (value : Json) : Json := .obj [
  (py "confidence", .float candidate.confidence.token),
  (py "correction_reason", optionalText candidate.correctionReason),
  (py "correction_target_id", optionalText (candidate.correctionTargetId.map UUID.text)),
  (py "memory_type", .str candidate.memoryType.value),
  (py "metadata", .obj metadata),
  (py "observed_at", .str (isoformatMicroseconds candidate.observedAt.civil)),
  (py "predicate", .str candidate.predicate),
  (py "provenance", sourceDocument provenance),
  (py "schema", .str (py "ayyo.memory-candidate.v1")),
  (py "subject", .str candidate.subject),
  (py "value", value)]

/-- The canonical text of the document that names a candidate. -/
def candidateText (candidate : CandidateEvidence nfc) : Except SelectionError PyStr := do
  let provenance ← fromPolicy candidate.provenance
  let metadata ← fromPolicy candidate.metadata
  let value ← fromPolicy candidate.value
  fromPolicy (Validation.canonicalizeJson (candidateDocument candidate provenance metadata value))

/-- `candidate_identity`. -/
def candidateIdentity (p : Platform) (candidate : CandidateEvidence nfc) :
    Except SelectionError PyStr := do
  let text ← candidateText candidate
  require (utf8Encodable text = true) ⟨.unicodeEncode, py "surrogates not allowed"⟩
  pure (candidatePrefix ++ p.sha256 text)

end Identity

section Outcomes

variable {nfc : Nfc}

/-- `value == 1`. -/
def equalsOne : Json → Bool
  | .int value => value == 1
  | .bool value => value
  | .float token => token.toRat == 1
  | _ => false

/-- `type(value) is str`. -/
def isText : Option Json → Bool
  | some (.str _) => true
  | _ => false

/-- `type(value) is dict`. -/
def isDict : Option Json → Bool
  | some (.obj _) => true
  | _ => false

/-- `_has_exact_staging_eligibility`. -/
def hasExactStagingEligibility (item : CandidateReviewItem nfc)
    (details : List (PyStr × Json)) : Bool :=
  decide (∃ result ∈ item.stagingResult, result.status = .eligible ∧ result.reason = .eligible ∧
      ∃ staged ∈ result.candidate, SameCandidate staged item.candidate) &&
    (details.lookup (py "bridge_schema_version")).any equalsOne &&
    isText (details.lookup (py "robot_id")) &&
    isText (details.lookup (py "source_observation_id")) &&
    isText (details.lookup (py "source_observation_fingerprint")) &&
    isDict (details.lookup (py "source_provenance"))

/-- The part of `_anonymous_semantic_claim_is_bounded` after the kind is known. -/
def claimIsBounded (candidate : CandidateEvidence nfc) (provenance : Provenance) (value : Json)
    (kind : PyStr) : Bool :=
  match value with
  | .obj entries =>
    let expectedKeys := [py "anonymous", py "kind", py "region"] ++
      if kind = py "object" then [py "category"] else []
    decide (candidate.memoryType = .episodic) &&
      decide (provenance.details.lookup (py "robot_id") = some (.str candidate.subject)) &&
      decide (candidate.predicate = py "observed_anonymous_" ++ kind) &&
      decide (sortedSet (entries.map Prod.fst) = sortedSet expectedKeys) &&
      decide (entries.lookup (py "anonymous") = some (.bool true)) &&
      decide (entries.lookup (py "kind") = some (.str kind)) &&
      isDict (entries.lookup (py "region")) &&
      (decide (kind = py "person") ||
        (isText (entries.lookup (py "category")) &&
          decide (entries.lookup (py "category") ≠ some (.str [])))) &&
      decide (provenance.details.lookup (py "semantic_item_id") = some (.str provenance.sourceId)) &&
      isText (provenance.details.lookup (py "source_detection_id"))
  | _ => false

/-- `_anonymous_semantic_claim_is_bounded`. Membership in a set of texts hashes the kind first. -/
def anonymousSemanticClaimIsBounded (candidate : CandidateEvidence nfc) (provenance : Provenance)
    (value : Json) : Except SelectionError Bool :=
  match provenance.details.lookup (py "semantic_evidence_kind") with
  | none | some .null => .ok true
  | some (.arr _) => .error ⟨.typeError, py "unhashable type: 'list'"⟩
  | some (.obj _) => .error ⟨.typeError, py "unhashable type: 'dict'"⟩
  | some (.str kind) =>
    .ok (decide (kind ∈ [py "person", py "object"]) &&
      claimIsBounded candidate provenance value kind)
  | some _ => .ok false

/-- An outcome with its reason. -/
abbrev BaseOutcome := CandidateSelectionOutcome × CandidateSelectionReason

/-- The part of `_base_outcome` after the checks on direct observations. -/
def reviewOutcome (candidate : CandidateEvidence nfc) (provenance : Provenance) : BaseOutcome :=
  if provenance.provenanceType = .derivedInference then
    (.defer, if candidate.memoryType ∈ [.preference, .social] then .ownerConfirmationRequired
      else .provenanceRequiresConfirmation)
  else if provenance.provenanceType ∉ provenanceByMemoryType candidate.memoryType then
    (.rejectSelection, .provenanceNotAllowedForMemoryType)
  else if candidate.confidence.token.toRat < minReviewConfidence.token.toRat then
    (.defer, .lowConfidenceForPolicy)
  else if provenance.provenanceType = .directObservation ∧
      (candidate.memoryType ≠ .episodic ∨
        provenance.details.lookup (py "robot_id") ≠ some (.str candidate.subject)) then
    (.defer, .directObservationRequiresConfirmation)
  else (.selectForReview, .eligibleForReview)

/-- The checks of `_base_outcome` on a direct observation: its outcome if they fail. -/
def directOutcome (item : CandidateReviewItem nfc) (provenance : Provenance) (value : Json) :
    Except SelectionError (Option BaseOutcome) := do
  if hasExactStagingEligibility item provenance.details then
    let bounded ← anonymousSemanticClaimIsBounded item.candidate provenance value
    return if bounded then none else some (.rejectSelection, .semanticClaimExceedsEvidence)
  else return some (.rejectSelection, .sourceEligibilityRequired)

/-- `_base_outcome`. -/
def baseOutcome (item : CandidateReviewItem nfc) (withinBounds : Bool) :
    Except SelectionError BaseOutcome := do
  let provenance ← fromPolicy item.candidate.provenance
  if withinBounds = false then
    return (.rejectSelection, .resourceLimitExceeded)
  if item.candidate.memoryType ∉ supportedMemoryTypes then
    return (.rejectSelection, .unsupportedMemoryType)
  if item.candidate.correctionTargetId ≠ none ∨ item.candidate.correctionReason ≠ none then
    return (.rejectSelection, .correctionNotAllowed)
  let value ← fromPolicy item.candidate.value
  let direct ← if provenance.provenanceType = .directObservation then
      directOutcome item provenance value else pure none
  return direct.getD (reviewOutcome item.candidate provenance)

end Outcomes

section Selection

variable {nfc : Nfc}

/-- A candidate of the batch while its outcome is being settled. -/
structure PreparedCandidate (nfc : Nfc) where
  candidateId : PyStr
  /-- The candidate of the item. -/
  candidate : CandidateEvidence nfc
  outcome : CandidateSelectionOutcome
  reasons : Finset CandidateSelectionReason
  occurrenceCount : Nat := 1
  deriving DecidableEq

/-- One pass of the first loop of `select`: the prepared item and its characters. -/
def prepare (p : Platform) (item : CandidateReviewItem nfc) :
    Except SelectionError (PreparedCandidate nfc × Nat) := do
  let (withinBounds, characters) ← candidateWithinBounds item.candidate
  let candidateId ← candidateIdentity p item.candidate
  let (outcome, reason) ← baseOutcome item withinBounds
  pure ({
    candidateId := candidateId
    candidate := item.candidate
    outcome := outcome
    reasons := {reason} }, characters)

/-- `_defer_unless_rejected`. -/
def PreparedCandidate.deferUnlessRejected (prepared : PreparedCandidate nfc)
    (reason : CandidateSelectionReason) : PreparedCandidate nfc :=
  { prepared with
    outcome := if prepared.outcome = .rejectSelection then .rejectSelection else .defer
    reasons := insert reason (prepared.reasons.erase .eligibleForReview) }

/-- The reasons of several occurrences. -/
def unionReasons (occurrences : List (PreparedCandidate nfc)) : Finset CandidateSelectionReason :=
  (occurrences.map fun occurrence => occurrence.reasons).foldr (· ∪ ·) ∅

/-- The representative of the occurrences of one candidate. -/
def representative : List (PreparedCandidate nfc) → Option (PreparedCandidate nfc)
  | [] => none
  | [only] => some { only with occurrenceCount := 1 }
  | first :: rest => some (PreparedCandidate.deferUnlessRejected
      { first with
        outcome := worstOutcome first.outcome (rest.map fun other => other.outcome)
        reasons := (unionReasons (first :: rest)).erase .eligibleForReview
        occurrenceCount := (first :: rest).length }
      .duplicateCandidate)

/-- The candidates of the batch, each once, in the order of their names. -/
def uniqueCandidates (prepared : List (PreparedCandidate nfc)) : List (PreparedCandidate nfc) :=
  (groupsBy (fun item => item.candidateId) prepared).filterMap representative

/-- The normalized identity that candidates are grouped by. -/
abbrev SelectionIdentity := PyStr × PyStr × PyStr

/-- The normalized identity of a candidate. -/
def selectionIdentity (candidate : CandidateEvidence nfc) :
    Except SelectionError SelectionIdentity := do
  let subject ← fromPolicy (normalizeIdentityText nfc candidate.subject (py "subject"))
  let predicate ← fromPolicy (normalizeIdentityText nfc candidate.predicate (py "predicate"))
  pure (candidate.memoryType.value, subject, predicate)

/-- A candidate with its identity. -/
abbrev Identified (nfc : Nfc) := SelectionIdentity × PreparedCandidate nfc

/-- Defer the members of every group with more than one candidate of one proposition. -/
def deferRepeated (unique : List (Identified nfc)) : List (Identified nfc) :=
  unique.map fun entry =>
    let proposition := unique.filter fun other =>
      other.1 = entry.1 ∧ other.2.candidate.valueJson = entry.2.candidate.valueJson
    if 1 < proposition.length then
      (entry.1, entry.2.deferUnlessRejected .duplicateProposition)
    else entry

/-- Defer the members of every group with more than one value of one identity. -/
def deferConflicting (unique : List (Identified nfc)) : List (Identified nfc) :=
  unique.map fun entry =>
    let values := (unique.filter fun other => other.1 = entry.1).map
      fun other => other.2.candidate.valueJson
    if 1 < values.dedup.length then
      (entry.1, entry.2.deferUnlessRejected .conflictingCandidate)
    else entry

/-- The item decision of a settled candidate. -/
def itemDecision (prepared : PreparedCandidate nfc) :
    Except SelectionError (CandidateSelectionItemDecision nfc) :=
  CandidateSelectionItemDecision.construct {
    candidateId := prepared.candidateId
    candidate := prepared.candidate
    outcome := prepared.outcome
    reasons := orderedSelectionReasons prepared.reasons
    occurrenceCount := prepared.occurrenceCount }

/-- The document that names a selection. -/
def selectionDocument (p : Platform) (outcome : CandidateSelectionOutcome)
    (reasons : List CandidateSelectionReason) (items : List (CandidateSelectionItemDecision nfc))
    (inputCount : Nat) : Json := .obj [
  (py "input_candidate_count", .int inputCount),
  (py "items", .arr (items.map fun item => .obj [
    (py "candidate_id", .str item.candidateId),
    (py "occurrence_count", .int item.occurrenceCount),
    (py "outcome", .str item.outcome.value),
    (py "reasons", .arr (item.reasons.map fun reason => .str reason.value))])),
  (py "outcome", .str outcome.value),
  (py "policy_fingerprint", .str (candidateSelectionPolicyFingerprint p)),
  (py "policy_id", .str candidateSelectionPolicyId),
  (py "policy_version", .int candidateSelectionPolicyVersion),
  (py "reasons", .arr (reasons.map fun reason => .str reason.value)),
  (py "schema", .str (py "ayyo.memory-candidate-selection.v1"))]

/-- `_selection_decision`. -/
def selectionDecision (p : Platform) (outcome : CandidateSelectionOutcome)
    (reasons : List CandidateSelectionReason) (items : List (CandidateSelectionItemDecision nfc))
    (inputCount : Nat) : Except SelectionError (CandidateSelectionDecision nfc) := do
  let canonicalItems := sortBy (fun item => item.candidateId) items
  let text ← fromPolicy (Validation.canonicalizeJson
    (selectionDocument p outcome reasons canonicalItems inputCount))
  require (utf8Encodable text = true) ⟨.unicodeEncode, py "surrogates not allowed"⟩
  CandidateSelectionDecision.construct {
    policyId := candidateSelectionPolicyId
    policyVersion := candidateSelectionPolicyVersion
    policyFingerprint := candidateSelectionPolicyFingerprint p
    selectionId := selectionPrefix ++ p.sha256 text
    outcome := outcome
    reasons := orderedSelectionReasons reasons.toFinset
    items := canonicalItems
    inputCandidateCount := inputCount }

/-- `_batch_rejection`. -/
def batchRejection (p : Platform) (inputCount : Nat) (reason : CandidateSelectionReason) :
    Except SelectionError (CandidateSelectionDecision nfc) :=
  selectionDecision p .rejectSelection [reason] [] inputCount

/-- The part of `select` after the resource limits. -/
def settleBatch (p : Platform) (prepared : List (PreparedCandidate nfc)) (inputCount : Nat) :
    Except SelectionError (CandidateSelectionDecision nfc) := do
  let unique ← (uniqueCandidates prepared).mapM fun item => do
    let identity ← selectionIdentity item.candidate
    pure (identity, item)
  let decisions ← (deferConflicting (deferRepeated unique)).mapM fun entry =>
    itemDecision entry.2
  match decisions.map fun item => item.outcome with
  | [] => .error ⟨.typeError, py "max() iterable argument is empty"⟩
  | first :: rest =>
    let outcome := worstOutcome first rest
    selectionDecision p outcome (orderedSelectionReasons (batchReasons outcome decisions))
      decisions inputCount

/-- `ReviewedMemoryCandidateSelectionPolicy.select`. -/
def select (p : Platform) (candidates : List (CandidateReviewItem nfc)) :
    Except SelectionError (CandidateSelectionDecision nfc) := do
  let inputCount := candidates.length
  if inputCount = 0 then
    batchRejection p 0 .insufficientEvidence
  else if maxCandidateSelectionCount < inputCount then
    batchRejection p inputCount .resourceLimitExceeded
  else do
    let prepared ← candidates.mapM (prepare p)
    if maxCandidateSelectionAggregateCharacters < (prepared.map Prod.snd).sum then
      batchRejection p inputCount .resourceLimitExceeded
    else settleBatch p (prepared.map Prod.fst) inputCount

end Selection

end Consolidation
end AyyoHumanoid
