import AyyoHumanoid.ConsolidationModels
import AyyoHumanoid.Platform
import AyyoHumanoid.PyGroups
import Mathlib.Data.Finset.Basic
import Mathlib.Data.Finset.Dedup

/-!
# Selection decisions

Candidate selection decides for each candidate of a batch whether it is put up
for review, deferred or rejected, and for the batch what the strictest of these
outcomes is. A decision exists only with fields that passed the checks of its
constructor.
-/

namespace AyyoHumanoid
namespace Consolidation

open PyText PyCollections Memory Validation

/-- `CANDIDATE_SELECTION_POLICY_ID`. -/
def candidateSelectionPolicyId : PyStr := py "ayyo.reviewed-memory-candidate-selection.v1"

/-- `CANDIDATE_SELECTION_POLICY_VERSION`. -/
def candidateSelectionPolicyVersion : Int := 1

/-- `MAX_CANDIDATE_SELECTION_COUNT`. -/
def maxCandidateSelectionCount : Nat := 32

/-- `MAX_CANDIDATE_SELECTION_REASONS`. -/
def maxCandidateSelectionReasons : Nat := 16

/-- `MAX_CANDIDATE_SELECTION_AGGREGATE_CHARACTERS`. -/
def maxCandidateSelectionAggregateCharacters : Nat := 65536

/-- The exception classes of candidate selection. -/
inductive SelectionErrorKind where
  /-- `CandidateSelectionError`. -/
  | candidateSelection
  /-- `UnicodeEncodeError` of a text with a lone surrogate. -/
  | unicodeEncode
  | typeError
  /-- An exception of the validation layer. -/
  | validation (kind : PolicyErrorKind)
  deriving DecidableEq, Repr

/-- An exception with its message. -/
structure SelectionError where
  /-- The exception class. -/
  kind : SelectionErrorKind
  /-- The message text. -/
  message : PyStr
  deriving DecidableEq

/-- `CandidateSelectionError(message)`. -/
def selectionError (message : PyStr) : SelectionError := ⟨.candidateSelection, message⟩

/-- Use a computation of the validation layer in candidate selection. -/
def fromPolicy {α : Type} (x : Except PolicyError α) : Except SelectionError α :=
  x.mapError fun e => ⟨.validation e.kind, e.message⟩

/-- A used computation returns what it returned. -/
@[simp] theorem fromPolicy_ok {α : Type} {x : Except PolicyError α} {a : α} :
    fromPolicy x = .ok a ↔ x = .ok a := by
  cases x <;> simp [fromPolicy, Except.mapError]

/-- `CandidateSelectionOutcome`. -/
inductive CandidateSelectionOutcome where
  | selectForReview | defer | rejectSelection
  deriving DecidableEq, Repr

/-- `CandidateSelectionOutcome.value`. -/
def CandidateSelectionOutcome.value : CandidateSelectionOutcome → PyStr
  | .selectForReview => py "select_for_review"
  | .defer => py "defer"
  | .rejectSelection => py "reject_selection"

/-- The rank of an outcome: the stricter, the greater. -/
def CandidateSelectionOutcome.rank : CandidateSelectionOutcome → Nat
  | .selectForReview => 0
  | .defer => 1
  | .rejectSelection => 2

/-- Outcomes with one rank are the same. -/
theorem CandidateSelectionOutcome.rank_injective : Function.Injective rank := by
  intro left right h
  cases left <;> cases right <;> first | rfl | cases h

/-- The stricter outcome. -/
def stricter (left right : CandidateSelectionOutcome) : CandidateSelectionOutcome :=
  if left.rank < right.rank then right else left

/-- `_worst_outcome` of a first outcome and more. -/
def worstOutcome (first : CandidateSelectionOutcome) (rest : List CandidateSelectionOutcome) :
    CandidateSelectionOutcome :=
  rest.foldl stricter first

/-- `CandidateSelectionReason`. -/
inductive CandidateSelectionReason where
  | eligibleForReview | duplicateCandidate | duplicateProposition | conflictingCandidate
  | unsupportedMemoryType | sourceEligibilityRequired | lowConfidenceForPolicy
  | directObservationRequiresConfirmation | ownerConfirmationRequired
  | provenanceRequiresConfirmation | provenanceNotAllowedForMemoryType | unsupportedProvenance
  | missingRequiredConfidence | semanticClaimExceedsEvidence | correctionNotAllowed
  | insufficientEvidence | resourceLimitExceeded
  deriving DecidableEq, Repr

namespace CandidateSelectionReason

/-- `CandidateSelectionReason.value`. -/
def value : CandidateSelectionReason → PyStr
  | .eligibleForReview => py "eligible_for_review"
  | .duplicateCandidate => py "duplicate_candidate"
  | .duplicateProposition => py "duplicate_proposition"
  | .conflictingCandidate => py "conflicting_candidate"
  | .unsupportedMemoryType => py "unsupported_memory_type"
  | .sourceEligibilityRequired => py "source_eligibility_required"
  | .lowConfidenceForPolicy => py "low_confidence_for_policy"
  | .directObservationRequiresConfirmation => py "direct_observation_requires_confirmation"
  | .ownerConfirmationRequired => py "owner_confirmation_required"
  | .provenanceRequiresConfirmation => py "provenance_requires_confirmation"
  | .provenanceNotAllowedForMemoryType => py "provenance_not_allowed_for_memory_type"
  | .unsupportedProvenance => py "unsupported_provenance"
  | .missingRequiredConfidence => py "missing_required_confidence"
  | .semanticClaimExceedsEvidence => py "semantic_claim_exceeds_evidence"
  | .correctionNotAllowed => py "correction_not_allowed"
  | .insufficientEvidence => py "insufficient_evidence"
  | .resourceLimitExceeded => py "resource_limit_exceeded"

/-- `_REASON_ORDER`: the reasons in the order of their definition. -/
def ordered : List CandidateSelectionReason :=
  [.eligibleForReview, .duplicateCandidate, .duplicateProposition, .conflictingCandidate,
    .unsupportedMemoryType, .sourceEligibilityRequired, .lowConfidenceForPolicy,
    .directObservationRequiresConfirmation, .ownerConfirmationRequired,
    .provenanceRequiresConfirmation, .provenanceNotAllowedForMemoryType, .unsupportedProvenance,
    .missingRequiredConfidence, .semanticClaimExceedsEvidence, .correctionNotAllowed,
    .insufficientEvidence, .resourceLimitExceeded]

/-- `_DEFER_REASONS`. -/
def deferReasons : List CandidateSelectionReason :=
  [.duplicateCandidate, .duplicateProposition, .conflictingCandidate, .lowConfidenceForPolicy,
    .directObservationRequiresConfirmation, .ownerConfirmationRequired,
    .provenanceRequiresConfirmation]

/-- `_REJECT_REASONS`. -/
def rejectReasons : List CandidateSelectionReason :=
  [.unsupportedMemoryType, .sourceEligibilityRequired, .provenanceNotAllowedForMemoryType,
    .unsupportedProvenance, .missingRequiredConfidence, .semanticClaimExceedsEvidence,
    .correctionNotAllowed, .insufficientEvidence, .resourceLimitExceeded]

/-- Every reason is in the order. -/
theorem mem_ordered (reason : CandidateSelectionReason) : reason ∈ ordered := by
  cases reason <;> decide

end CandidateSelectionReason

/-- `ordered_selection_reasons`. -/
def orderedSelectionReasons (reasons : Finset CandidateSelectionReason) :
    List CandidateSelectionReason :=
  CandidateSelectionReason.ordered.filter (· ∈ reasons)

/-- Ordering keeps the reasons. -/
@[simp] theorem mem_orderedSelectionReasons {reasons : Finset CandidateSelectionReason}
    {reason : CandidateSelectionReason} :
    reason ∈ orderedSelectionReasons reasons ↔ reason ∈ reasons := by
  rw [orderedSelectionReasons, List.mem_filter, decide_eq_true_eq]
  exact and_iff_right reason.mem_ordered

/-- Ordering ordered reasons changes nothing. -/
@[simp] theorem toFinset_orderedSelectionReasons (reasons : Finset CandidateSelectionReason) :
    (orderedSelectionReasons reasons).toFinset = reasons := by
  ext reason
  rw [List.mem_toFinset, mem_orderedSelectionReasons]

/-- `CandidateReviewItem`: a candidate and its optional exact staging eligibility. -/
structure CandidateReviewItem (nfc : Nfc) where
  candidate : CandidateEvidence nfc
  stagingResult : Option (CandidateStagingResult nfc) := none
  /-- The staging result is eligible for the exact candidate. -/
  exact : ∀ result ∈ stagingResult, result.status = .eligible ∧
    ∃ staged ∈ result.candidate, SameCandidate staged candidate

section Decisions

variable {nfc : Nfc}

/-- A text is the prefix and a SHA-256 digest. -/
def Tagged (label text : PyStr) : Prop :=
  label.isPrefixOf text = true ∧ text.length = label.length + 64 ∧
    (text.drop label.length).all isHexDigit = true

instance (label text : PyStr) : Decidable (Tagged label text) :=
  inferInstanceAs (Decidable (_ ∧ _ ∧ _))

/-- A prefix and a digest pass the check. -/
theorem tagged_digest (p : Platform) (label text : PyStr) : Tagged label (label ++ p.sha256 text) := by
  have hhex := p.sha256_hex text
  refine ⟨List.isPrefixOf_iff_prefix.mpr (List.prefix_append _ _), ?_, ?_⟩
  · rw [List.length_append, hhex.1]
  · rw [List.drop_left]
    exact hhex.2

/-- `"memory-candidate-sha256-"`. -/
def candidatePrefix : PyStr := py "memory-candidate-sha256-"

/-- `"candidate-selection-policy-sha256-"`. -/
def selectionPolicyPrefix : PyStr := py "candidate-selection-policy-sha256-"

/-- `"candidate-selection-sha256-"`. -/
def selectionPrefix : PyStr := py "candidate-selection-sha256-"

/-- The fields given to the `CandidateSelectionItemDecision` constructor. -/
structure ItemDecisionFields (nfc : Nfc) where
  candidateId : PyStr
  candidate : CandidateEvidence nfc
  outcome : CandidateSelectionOutcome
  reasons : List CandidateSelectionReason
  occurrenceCount : Nat
  deriving DecidableEq

/-- The checks on a tuple of reasons. -/
def checkReasons (reasons : List CandidateSelectionReason) (message : PyStr) :
    Except SelectionError Unit :=
  require (reasons ≠ [] ∧ reasons.length ≤ maxCandidateSelectionReasons ∧
    reasons = orderedSelectionReasons reasons.toFinset) (selectionError message)

/-- The checks that tie an item's reasons to its outcome. -/
def checkItemOutcome (outcome : CandidateSelectionOutcome)
    (reasons : List CandidateSelectionReason) : Except SelectionError Unit :=
  if outcome = .selectForReview then
    require (reasons = [.eligibleForReview])
      (selectionError (py "selected candidate must have only the eligible reason"))
  else if .eligibleForReview ∈ reasons then
    .error (selectionError (py "non-selected candidate cannot claim review eligibility"))
  else if outcome = .defer then
    require (∀ reason ∈ reasons, reason ∈ CandidateSelectionReason.deferReasons)
      (selectionError (py "deferred candidate has an invalid reason"))
  else
    require (∃ reason ∈ reasons, reason ∈ CandidateSelectionReason.rejectReasons)
      (selectionError (py "rejected candidate requires a rejection reason"))

/-- `CandidateSelectionItemDecision.__post_init__`. -/
def ItemDecisionFields.postInit (f : ItemDecisionFields nfc) : Except SelectionError Unit := do
  require (Tagged candidatePrefix f.candidateId)
    (selectionError (py "candidate identity is malformed"))
  checkReasons f.reasons (py "item reasons must be non-empty, bounded, unique, and ordered")
  require (1 ≤ f.occurrenceCount ∧ f.occurrenceCount ≤ maxCandidateSelectionCount)
    (selectionError (py "candidate occurrence count is invalid"))
  checkItemOutcome f.outcome f.reasons

/-- `CandidateSelectionItemDecision`: fields that passed the constructor's checks. -/
structure CandidateSelectionItemDecision (nfc : Nfc) extends ItemDecisionFields nfc where
  /-- The checks passed. -/
  checked : toItemDecisionFields.postInit = .ok ()
  deriving DecidableEq

/-- `CandidateSelectionItemDecision(...)`. -/
def CandidateSelectionItemDecision.construct (fields : ItemDecisionFields nfc) :
    Except SelectionError (CandidateSelectionItemDecision nfc) :=
  match h : fields.postInit with
  | .ok () => .ok ⟨fields, h⟩
  | .error e => .error e

/-- The fields given to the `CandidateSelectionDecision` constructor. -/
structure SelectionFields (nfc : Nfc) where
  policyId : PyStr
  policyVersion : Int
  policyFingerprint : PyStr
  selectionId : PyStr
  outcome : CandidateSelectionOutcome
  reasons : List CandidateSelectionReason
  items : List (CandidateSelectionItemDecision nfc)
  inputCandidateCount : Nat
  deriving DecidableEq

/-- The reasons that a batch takes over from its items. -/
def batchReasons (outcome : CandidateSelectionOutcome)
    (items : List (CandidateSelectionItemDecision nfc)) : Finset CandidateSelectionReason :=
  ((items.flatMap fun item => item.reasons).filter fun reason =>
    outcome = .selectForReview ∨ reason ≠ .eligibleForReview).toFinset

/-- The checks on a decision without items. -/
def checkEmptySelection (f : SelectionFields nfc) : Except SelectionError Unit := do
  require (f.outcome = .rejectSelection)
    (selectionError (py "empty selection must fail closed"))
  require (f.reasons =
      if f.inputCandidateCount = 0 then [.insufficientEvidence] else [.resourceLimitExceeded])
    (selectionError (py "empty selection lost its reason"))

/-- The checks of a decision against its items. -/
def checkSummary (f : SelectionFields nfc) : Except SelectionError Unit :=
  match f.items with
  | [] => checkEmptySelection f
  | first :: rest => do
    require (f.inputCandidateCount = (f.items.map fun item => item.occurrenceCount).sum)
      (selectionError (py "input count does not match candidate occurrences"))
    require (f.outcome = worstOutcome first.outcome (rest.map fun item => item.outcome))
      (selectionError (py "selection outcome does not summarize its items"))
    require (f.reasons = orderedSelectionReasons (batchReasons f.outcome f.items))
      (selectionError (py "selection reasons do not summarize its items"))

/-- `CandidateSelectionDecision.__post_init__`. -/
def SelectionFields.postInit (f : SelectionFields nfc) : Except SelectionError Unit := do
  require (f.policyId = candidateSelectionPolicyId)
    (selectionError (py "selection policy identity is invalid"))
  require (f.policyVersion = candidateSelectionPolicyVersion)
    (selectionError (py "selection policy version is invalid"))
  require (Tagged selectionPolicyPrefix f.policyFingerprint)
    (selectionError (py "policy fingerprint is malformed"))
  require (Tagged selectionPrefix f.selectionId)
    (selectionError (py "selection identity is malformed"))
  checkReasons f.reasons (py "selection reasons must be non-empty, bounded, unique, and ordered")
  require (f.items.length ≤ maxCandidateSelectionCount ∧
      f.items = sortBy (fun item => item.candidateId) f.items ∧
      (f.items.map fun item => item.candidateId).Nodup)
    (selectionError (py "selection items must be bounded, unique, and canonically ordered"))
  checkSummary f

/-- `CandidateSelectionDecision`: fields that passed the constructor's checks. -/
structure CandidateSelectionDecision (nfc : Nfc) extends SelectionFields nfc where
  /-- The checks passed. -/
  checked : toSelectionFields.postInit = .ok ()
  deriving DecidableEq

/-- `CandidateSelectionDecision(...)`. -/
def CandidateSelectionDecision.construct (fields : SelectionFields nfc) :
    Except SelectionError (CandidateSelectionDecision nfc) :=
  match h : fields.postInit with
  | .ok () => .ok ⟨fields, h⟩
  | .error e => .error e

/-- The items that a decision selects for review. -/
def CandidateSelectionDecision.selected (d : CandidateSelectionDecision nfc) :
    List (CandidateSelectionItemDecision nfc) :=
  d.items.filter fun item => item.outcome = .selectForReview

end Decisions

end Consolidation
end AyyoHumanoid
