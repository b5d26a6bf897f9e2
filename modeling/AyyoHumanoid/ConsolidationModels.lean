import AyyoHumanoid.ValidationModels

/-!
# Staged candidates

A staging attempt ends with a status, a reason and, exactly when it is eligible,
the candidate that it derived from retained evidence.
-/

namespace AyyoHumanoid
namespace Consolidation

open PyText Memory Validation

/-- `MEMORY_CONSOLIDATION_SCHEMA_VERSION`. -/
def memoryConsolidationSchemaVersion : Int := 1

/-- `MAX_CONSOLIDATION_METADATA_FIELDS`. -/
def maxConsolidationMetadataFields : Nat := 16

/-- `MAX_CONSOLIDATION_IDENTITY_TEXT`. -/
def maxConsolidationIdentityText : Nat := 256

/-- `MAX_STAGING_DETAIL_TEXT`. -/
def maxStagingDetailText : Nat := 512

/-- `CandidateStagingStatus`. -/
inductive CandidateStagingStatus where
  | eligible | ineligible
  deriving DecidableEq, Repr

/-- `CandidateStagingReason`. -/
inductive CandidateStagingReason where
  | eligible | evidenceNotFound | evidenceStale | evidenceTimeInFuture | robotMismatch
  | sourceMismatch | unsupportedClock | timestampNotUtcConvertible | missingRequiredConfidence
  | provenanceNotAllowed | memoryTypeNotAllowed | semanticClaimExceedsEvidence
  | sourceClockRegression | invalidStagingTime
  deriving DecidableEq, Repr

/-- `CandidateEvidence.__eq__`: confidences are compared as numbers. -/
def SameCandidate {nfc : Nfc} (left right : CandidateEvidence nfc) : Prop :=
  { left.toCandidateFields with confidence := right.confidence } = right.toCandidateFields ∧
    left.confidence.token.toRat = right.confidence.token.toRat

instance {nfc : Nfc} (left right : CandidateEvidence nfc) : Decidable (SameCandidate left right) :=
  inferInstanceAs (Decidable (_ ∧ _))

/-- `CandidateStagingResult`: only an eligible result has the eligible reason and a candidate. -/
structure CandidateStagingResult (nfc : Nfc) where
  status : CandidateStagingStatus
  reason : CandidateStagingReason
  candidate : Option (CandidateEvidence nfc)
  detail : PyStr
  bounded : detail.length ≤ maxStagingDetailText
  /-- The reason is the eligible one exactly for an eligible result. -/
  reason_iff : reason = .eligible ↔ status = .eligible
  /-- There is a candidate exactly in an eligible result. -/
  candidate_iff : candidate.isSome = true ↔ status = .eligible
  deriving DecidableEq

end Consolidation
end AyyoHumanoid
