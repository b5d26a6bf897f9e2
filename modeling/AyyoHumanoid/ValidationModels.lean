import AyyoHumanoid.MemoryModels
import AyyoHumanoid.MemoryStore
import AyyoHumanoid.PyFloat
import AyyoHumanoid.TextNormalization

/-!
# Candidate evidence and validation decisions

The public types of the memory validation layer. Candidate evidence holds the
canonical texts that its constructor took of the caller's data. A validation
decision and an application result exist only with fields that passed their
constructors' checks.
-/

namespace AyyoHumanoid
namespace Validation

open PyText JsonText Memory

/-- The exception classes of the validation layer. -/
inductive PolicyErrorKind where
  | candidateValidation | candidateProvenance | candidateConfidence | candidateTimestamp
  | invalidCorrectionRequest | normalization | unsupportedValue | decisionNotApplicable
  | staleDecision | policyInvariant
  /-- An exception that the Memory OS or its codecs raised. -/
  | memory (kind : MemoryErrorKind)
  deriving DecidableEq, Repr

/-- An exception with its message. -/
structure PolicyError where
  /-- The exception class. -/
  kind : PolicyErrorKind
  /-- The message text. -/
  message : PyStr
  deriving DecidableEq

/-- `PolicyInvariantError(message)`. -/
def invariantError (message : PyStr) : PolicyError := ⟨.policyInvariant, message⟩

/-- An exception of the Memory OS passes through the validation layer. -/
def PolicyError.ofMemory (error : MemoryError) : PolicyError :=
  ⟨.memory error.kind, error.message⟩

/-- Use a Memory OS computation in the validation layer. -/
def fromMemory {α : Type} (x : Except MemoryError α) : Except PolicyError α :=
  x.mapError PolicyError.ofMemory

/-- A used computation returns what it returned. -/
@[simp] theorem fromMemory_ok {α : Type} {x : Except MemoryError α} {a : α} :
    fromMemory x = .ok a ↔ x = .ok a := by
  cases x <;> simp [fromMemory, Except.mapError]

/-- `normalize_identity_text`. -/
def normalizeIdentityText (nfc : Nfc) (value fieldName : PyStr) : Except PolicyError PyStr :=
  if collapse nfc value = [] then
    .error ⟨.normalization, fieldName ++ py " must contain non-whitespace text"⟩
  else .ok (collapse nfc value)

/-- Normalization returns the collapsed text when it is not empty. -/
theorem normalizeIdentityText_ok {nfc : Nfc} {value fieldName result : PyStr} :
    normalizeIdentityText nfc value fieldName = .ok result ↔
      collapse nfc value = result ∧ result ≠ [] := by
  unfold normalizeIdentityText
  split
  · next h => simp [h]
  · next h =>
    rw [Except.ok.injEq]
    exact ⟨fun heq => ⟨heq, heq ▸ h⟩, fun heq => heq.1⟩

/-- `canonicalize_json`. -/
def canonicalizeJson (value : Json) : Except PolicyError PyStr :=
  if value.dumpable then .ok (encode value)
  else .error ⟨.unsupportedValue, py "value cannot be represented as deterministic JSON"⟩

/-- Canonical text exists exactly for printable values. -/
theorem canonicalizeJson_ok {value : Json} {text : PyStr} :
    canonicalizeJson value = .ok text ↔ value.dumpable = true ∧ encode value = text := by
  unfold canonicalizeJson
  split <;> simp_all

/-- `VALIDATION_METADATA_KEY`. -/
def validationMetadataKey : PyStr := py "ayyo_memory_validation"

/-- `POLICY_VERSION`. -/
def policyVersion : Int := 1

/-- A number that a caller gives as a confidence. -/
inductive GivenConfidence where
  /-- An integer. -/
  | int (value : Int)
  /-- A finite float. -/
  | float (value : FloatToken)
  /-- An infinity or a NaN. -/
  | nonFinite
  deriving DecidableEq

/-- `0.0`. -/
def zeroFloat : UnitFloat := ⟨⟨py "0.0", by decide⟩, by decide, by decide⟩

/-- `1.0`. -/
def oneFloat : UnitFloat := ⟨⟨py "1.0", by decide⟩, by decide, by decide⟩

/-- `float(confidence)` of a finite number from zero to one. -/
def GivenConfidence.toUnit : GivenConfidence → Option UnitFloat
  | .int value =>
    if value = 0 then some zeroFloat else if value = 1 then some oneFloat else none
  | .float token =>
    if h : 0 ≤ token.toRat ∧ token.toRat ≤ 1 then some ⟨token, h.1, h.2⟩ else none
  | .nonFinite => none

/-- The constructor's check on the confidence, and the float it stores. -/
def GivenConfidence.checked (given : GivenConfidence) : Except PolicyError UnitFloat :=
  match given.toUnit with
  | some confidence => .ok confidence
  | none => .error
    ⟨.candidateConfidence, py "confidence must be a finite number from 0.0 to 1.0"⟩

/-- The number that a stored confidence is. -/
def confidenceNumber (confidence : UnitFloat) : PyNumber := .finite confidence.token.toRat

/-- The arguments of the `CandidateEvidence` constructor. -/
structure CandidateArgs where
  memoryType : MemoryType
  subject : PyStr
  predicate : PyStr
  value : Json
  provenance : Provenance
  confidence : GivenConfidence
  observedAt : PyDatetime
  metadata : Option (List (PyStr × Json)) := none
  correctionTargetId : Option UUID := none
  correctionReason : Option PyStr := none
  deriving DecidableEq

/-- The attributes of a `CandidateEvidence`. -/
@[ext] structure CandidateFields where
  memoryType : MemoryType
  subject : PyStr
  predicate : PyStr
  confidence : UnitFloat
  observedAt : PyDatetime
  correctionTargetId : Option UUID
  correctionReason : Option PyStr
  valueJson : PyStr
  metadataJson : PyStr
  provenanceType : ProvenanceType
  provenanceSourceId : PyStr
  provenanceDetailsJson : PyStr
  deriving DecidableEq

/-- The constructor's checks on the correction intent. -/
def checkCorrectionIntent (targetId : Option UUID) (reason : Option PyStr) :
    Except PolicyError Unit :=
  match targetId with
  | none =>
    require (reason = none)
      ⟨.invalidCorrectionRequest, py "correction_reason requires correction_target_id"⟩
  | some _ => do
    require (∃ text ∈ reason, strip text ≠ [])
      ⟨.invalidCorrectionRequest, py "correction_reason must be non-empty for a correction"⟩
    require (∀ text ∈ reason, text = strip text)
      ⟨.invalidCorrectionRequest, py "correction_reason must not have surrounding whitespace"⟩

/-- `except NormalizationError` around the provenance details. -/
def canonicalizeDetails (details : List (PyStr × Json)) : Except PolicyError PyStr :=
  (canonicalizeJson (.obj details)).mapError fun _ =>
    ⟨.candidateProvenance, py "provenance details must contain only JSON-compatible data"⟩

/-- `CandidateEvidence.__init__`. -/
def CandidateArgs.init (nfc : Nfc) (a : CandidateArgs) : Except PolicyError CandidateFields := do
  let _ ← normalizeIdentityText nfc a.subject (py "subject")
  let _ ← normalizeIdentityText nfc a.predicate (py "predicate")
  let confidence ← a.confidence.checked
  require (a.observedAt.utcoffset ≠ none)
    ⟨.candidateTimestamp, py "observed_at must be timezone-aware UTC"⟩
  require (a.observedAt.utcoffset = some 0)
    ⟨.candidateTimestamp, py "observed_at must use UTC"⟩
  let metadata := a.metadata.getD []
  require (validationMetadataKey ∉ metadata.map Prod.fst)
    ⟨.candidateValidation, py "metadata key 'ayyo_memory_validation' is reserved"⟩
  checkCorrectionIntent a.correctionTargetId a.correctionReason
  let detailsJson ← canonicalizeDetails a.provenance.details
  let valueJson ← canonicalizeJson a.value
  let metadataJson ← canonicalizeJson (.obj metadata)
  pure {
    memoryType := a.memoryType
    subject := a.subject
    predicate := a.predicate
    confidence := confidence
    observedAt := a.observedAt
    correctionTargetId := a.correctionTargetId
    correctionReason := a.correctionReason
    valueJson := valueJson
    metadataJson := metadataJson
    provenanceType := a.provenance.provenanceType
    provenanceSourceId := a.provenance.sourceId
    provenanceDetailsJson := detailsJson }

/-- `CandidateEvidence`: attributes that the constructor set. -/
structure CandidateEvidence (nfc : Nfc) extends CandidateFields where
  /-- Some arguments passed the constructor's checks and gave these attributes. -/
  built : ∃ args : CandidateArgs, args.init nfc = .ok toCandidateFields
  deriving DecidableEq

/-- `CandidateEvidence(...)`. -/
def CandidateEvidence.construct (nfc : Nfc) (args : CandidateArgs) :
    Except PolicyError (CandidateEvidence nfc) :=
  match h : args.init nfc with
  | .ok fields => .ok ⟨fields, args, h⟩
  | .error e => .error e

section Properties

variable {nfc : Nfc}

/-- `CandidateEvidence.value`. -/
def CandidateEvidence.value (c : CandidateEvidence nfc) : Except PolicyError Json :=
  fromMemory (parseJson c.valueJson)

/-- `CandidateEvidence.metadata`. -/
def CandidateEvidence.metadata (c : CandidateEvidence nfc) :
    Except PolicyError (List (PyStr × Json)) :=
  fromMemory (parseMapping (invalidData (py "metadata must be a mapping")) c.metadataJson)

/-- `CandidateEvidence.provenance`. -/
def CandidateEvidence.provenance (c : CandidateEvidence nfc) : Except PolicyError Provenance := do
  let details ← fromMemory (parseMapping
    ⟨.invalidProvenance, py "provenance details must be a mapping"⟩ c.provenanceDetailsJson)
  fromMemory (Provenance.construct c.provenanceType c.provenanceSourceId details)

end Properties

/-- The fields given to the `NormalizedIdentity` constructor. -/
structure IdentityFields where
  memoryType : MemoryType
  subject : PyStr
  predicate : PyStr
  deriving DecidableEq

/-- `NormalizedIdentity.__post_init__`. -/
def IdentityFields.postInit (nfc : Nfc) (f : IdentityFields) : Except PolicyError Unit := do
  let subject ← normalizeIdentityText nfc f.subject (py "subject")
  require (subject = f.subject) (invariantError (py "normalized subject is not canonical"))
  let predicate ← normalizeIdentityText nfc f.predicate (py "predicate")
  require (predicate = f.predicate) (invariantError (py "normalized predicate is not canonical"))

/-- `NormalizedIdentity`: an identity whose texts are their own normalization. -/
structure NormalizedIdentity (nfc : Nfc) extends IdentityFields where
  /-- The checks passed. -/
  checked : toIdentityFields.postInit nfc = .ok ()
  deriving DecidableEq

/-- `NormalizedIdentity(...)`. -/
def NormalizedIdentity.construct (nfc : Nfc) (fields : IdentityFields) :
    Except PolicyError (NormalizedIdentity nfc) :=
  match h : fields.postInit nfc with
  | .ok () => .ok ⟨fields, h⟩
  | .error e => .error e

/-- The normalized identity of a type and two texts, whose names appear in messages. -/
def identityOf (nfc : Nfc) (memoryType : MemoryType) (subject predicate : PyStr)
    (subjectName predicateName : PyStr) : Except PolicyError (NormalizedIdentity nfc) := do
  let subject ← normalizeIdentityText nfc subject subjectName
  let predicate ← normalizeIdentityText nfc predicate predicateName
  NormalizedIdentity.construct nfc ⟨memoryType, subject, predicate⟩

section Decision

variable {nfc : Nfc}

/-- The normalized identity of candidate evidence. -/
def CandidateEvidence.identity (c : CandidateEvidence nfc) :
    Except PolicyError (NormalizedIdentity nfc) :=
  identityOf nfc c.memoryType c.subject c.predicate (py "subject") (py "predicate")

/-- `identity_for_record`. -/
def identityForRecord (nfc : Nfc) (record : MemoryRecord) :
    Except PolicyError (NormalizedIdentity nfc) :=
  identityOf nfc record.memoryType record.subject record.predicate (py "stored subject")
    (py "stored predicate")

/-- The fields given to the `NormalizedCandidate` constructor. -/
structure NormalizedFields (nfc : Nfc) where
  candidate : CandidateEvidence nfc
  identity : NormalizedIdentity nfc
  canonicalValue : PyStr
  deriving DecidableEq

/-- `NormalizedCandidate.__post_init__`. -/
def NormalizedFields.postInit (f : NormalizedFields nfc) : Except PolicyError Unit := do
  let expected ← f.candidate.identity
  require (f.identity = expected)
    (invariantError (py "normalized identity does not match candidate"))
  require (f.canonicalValue = f.candidate.valueJson)
    (invariantError (py "normalized candidate value is inconsistent"))

/-- `NormalizedCandidate`. -/
structure NormalizedCandidate (nfc : Nfc) extends NormalizedFields nfc where
  /-- The checks passed. -/
  checked : toNormalizedFields.postInit = .ok ()
  deriving DecidableEq

/-- `NormalizedCandidate(...)`. -/
def NormalizedCandidate.construct (fields : NormalizedFields nfc) :
    Except PolicyError (NormalizedCandidate nfc) :=
  match h : fields.postInit with
  | .ok () => .ok ⟨fields, h⟩
  | .error e => .error e

/-- `DecisionType`. -/
inductive DecisionType where
  | acceptNew | exactDuplicate | conflictReview | applyCorrection | reject
  deriving DecidableEq, Repr

/-- `DecisionType.value`. -/
def DecisionType.value : DecisionType → PyStr
  | .acceptNew => py "accept_new"
  | .exactDuplicate => py "exact_duplicate"
  | .conflictReview => py "conflict_review"
  | .applyCorrection => py "apply_correction"
  | .reject => py "reject"

/-- `DecisionReason`. -/
inductive DecisionReason where
  | noActiveMemory | exactValueAlreadyActive | exactValueActiveWithConflicts
  | differentActiveValue | canonicalIdentityVariantRequiresReview | explicitCorrectionAllowed
  | correctionAlreadyApplied | correctionTargetNotFound | correctionTargetNotActive
  | correctionIdentityMismatch | correctionAuthorityForbidden
  deriving DecidableEq, Repr

/-- `DecisionReason.value`. -/
def DecisionReason.value : DecisionReason → PyStr
  | .noActiveMemory => py "no_active_memory"
  | .exactValueAlreadyActive => py "exact_value_already_active"
  | .exactValueActiveWithConflicts => py "exact_value_active_with_conflicts"
  | .differentActiveValue => py "different_active_value"
  | .canonicalIdentityVariantRequiresReview => py "canonical_identity_variant_requires_review"
  | .explicitCorrectionAllowed => py "explicit_correction_allowed"
  | .correctionAlreadyApplied => py "correction_already_applied"
  | .correctionTargetNotFound => py "correction_target_not_found"
  | .correctionTargetNotActive => py "correction_target_not_active"
  | .correctionIdentityMismatch => py "correction_identity_mismatch"
  | .correctionAuthorityForbidden => py "correction_authority_forbidden"

/-- `_DECISION_REASONS`. -/
def decisionReasons : DecisionType → List DecisionReason
  | .acceptNew => [.noActiveMemory]
  | .exactDuplicate =>
    [.exactValueAlreadyActive, .exactValueActiveWithConflicts, .correctionAlreadyApplied]
  | .conflictReview => [.differentActiveValue, .canonicalIdentityVariantRequiresReview]
  | .applyCorrection => [.explicitCorrectionAllowed]
  | .reject =>
    [.correctionTargetNotFound, .correctionTargetNotActive, .correctionIdentityMismatch,
      .correctionAuthorityForbidden]

/-- `_CORRECTION_AUTHORITY_TYPES`. -/
def correctionAuthorityTypes : List ProvenanceType :=
  [.explicitOwnerStatement, .trustedManualImport]

/-- `_CORRECTION_ONLY_REASONS`. -/
def correctionOnlyReasons : List DecisionReason :=
  [.explicitCorrectionAllowed, .correctionAlreadyApplied, .correctionTargetNotFound,
    .correctionTargetNotActive, .correctionIdentityMismatch, .correctionAuthorityForbidden]

/-- `DecisionMetadataValue`. -/
inductive DecisionMetadataValue where
  | str (text : PyStr)
  | int (value : Int)
  | float (value : PyNumber)
  | bool (value : Bool)
  | none
  deriving DecidableEq

/-- `_DECISION_METADATA_KEYS`. -/
def decisionMetadataKeys : List PyStr :=
  [py "active_memory_count", py "correction_requested", py "exact_duplicate_count",
    py "identity_was_normalized", py "policy_version", py "storage_identity_variant_count"]

/-- The fields given to the `ValidationDecision` constructor. -/
structure DecisionFields (nfc : Nfc) where
  decisionType : DecisionType
  reasonCode : DecisionReason
  normalizedIdentity : NormalizedIdentity nfc
  candidate : CandidateEvidence nfc
  relevantMemoryIds : List UUID
  conflictIds : List UUID
  persistencePermitted : Bool
  explanatoryMetadata : List (PyStr × DecisionMetadataValue)
  deriving DecidableEq

/-- `tuple(sorted(set(values), key=str))`. -/
def sortedIds (values : List UUID) : List UUID :=
  values.dedup.insertionSort (· ≤ ·)

namespace DecisionFields

variable (f : DecisionFields nfc)

/-- The checks of the constructor on the persistence permission. -/
def checkPermission : Except PolicyError Unit := do
  require (f.decisionType ∈ [.acceptNew, .applyCorrection] → f.persistencePermitted = true)
    (invariantError (py "mutating decision must permit persistence"))
  require (f.decisionType ∈ [.exactDuplicate, .reject] → f.persistencePermitted = false)
    (invariantError (py "non-mutating decision cannot permit persistence"))
  require (f.decisionType = .conflictReview →
      f.persistencePermitted = decide (f.reasonCode = .differentActiveValue))
    (invariantError (py "conflict persistence permission is inconsistent with its reason"))

/-- `_validate_uuid_tuple`. -/
def validateUuidTuple (values : List UUID) (fieldName : PyStr) : Except PolicyError Unit :=
  require (values = sortedIds values) (invariantError (fieldName ++ py " must be unique and sorted"))

/-- The correction target is one of the relevant memories. -/
def TargetRelevant : Prop := ∃ id ∈ f.candidate.correctionTargetId, id ∈ f.relevantMemoryIds

instance : Decidable f.TargetRelevant :=
  inferInstanceAs (Decidable (∃ id ∈ f.candidate.correctionTargetId, id ∈ f.relevantMemoryIds))

/-- `_validate_decision_shape`. -/
def validateDecisionShape : Except PolicyError Unit := do
  let targetId := f.candidate.correctionTargetId
  require (f.reasonCode ∈ correctionOnlyReasons → targetId ≠ none)
    (invariantError (py "correction reason requires correction intent"))
  require (f.decisionType ∈ [.applyCorrection, .reject] → targetId ≠ none)
    (invariantError (py "correction decision requires correction intent"))
  requireWhen (f.decisionType = .acceptNew) do
    require (targetId = none)
      (invariantError (py "a correction cannot be accepted as new evidence"))
    require (f.relevantMemoryIds = [] ∧ f.conflictIds = [])
      (invariantError (py "new evidence cannot reference existing state"))
  requireWhen (f.decisionType = .exactDuplicate)
    (require (f.relevantMemoryIds ≠ [])
      (invariantError (py "duplicate decision requires a relevant memory")))
  requireWhen (f.decisionType = .conflictReview) do
    require (f.relevantMemoryIds ≠ [])
      (invariantError (py "conflict decision requires a relevant memory"))
    require (targetId ≠ none → f.reasonCode = .canonicalIdentityVariantRequiresReview)
      (invariantError (py "correction review requires a canonical identity variant"))
  requireWhen (f.decisionType = .applyCorrection) do
    require f.TargetRelevant
      (invariantError (py "correction decision must reference its target"))
    let provenance ← f.candidate.provenance
    require (provenance.provenanceType ∈ correctionAuthorityTypes)
      (invariantError (py "correction decision requires authoritative provenance"))
  require (targetId ≠ none → f.reasonCode ≠ .correctionTargetNotFound → f.TargetRelevant)
    (invariantError (py "correction decision state must reference its target"))

/-- The constructor's check on one metadata entry. -/
def checkMetadataEntry (entry : PyStr × DecisionMetadataValue) : Except PolicyError Unit := do
  require (entry.1 ≠ []) (invariantError (py "explanatory metadata keys must be text"))
  require (entry.2 ≠ .float .nonFinite)
    (invariantError (py "explanatory metadata numbers must be finite"))

/-- `self.metadata[key]`. -/
def metadataAt (key : PyStr) : Option DecisionMetadataValue :=
  f.explanatoryMetadata.lookup key

/-- A count in the metadata must be a non-negative integer. -/
def countAt (key : PyStr) : Except PolicyError Nat :=
  match f.metadataAt key with
  | some (.int (.ofNat count)) => .ok count
  | _ => .error (invariantError
      (py "explanatory metadata " ++ key ++ py " must be a non-negative integer"))

/-- `_validate_explanatory_metadata`. -/
def validateExplanatoryMetadata : Except PolicyError Unit := do
  let keys := f.explanatoryMetadata.map Prod.fst
  require (keys ⊆ decisionMetadataKeys ∧ decisionMetadataKeys ⊆ keys)
    (invariantError (py "explanatory metadata does not match the policy schema"))
  let activeCount ← f.countAt (py "active_memory_count")
  let exactCount ← f.countAt (py "exact_duplicate_count")
  let variantCount ← f.countAt (py "storage_identity_variant_count")
  require (exactCount ≤ activeCount ∧ variantCount ≤ activeCount)
    (invariantError (py "decision counts cannot exceed active memory count"))
  require (f.metadataAt (py "policy_version") = some (.int policyVersion))
    (invariantError (py "decision policy_version is invalid"))
  require (f.metadataAt (py "correction_requested") =
      some (.bool (decide (f.candidate.correctionTargetId ≠ none))))
    (invariantError (py "correction_requested metadata is inconsistent"))
  require (f.metadataAt (py "identity_was_normalized") =
      some (.bool (decide (f.candidate.subject ≠ f.normalizedIdentity.subject ∨
        f.candidate.predicate ≠ f.normalizedIdentity.predicate))))
    (invariantError (py "identity normalization metadata is inconsistent"))
  require (f.decisionType = .acceptNew → activeCount = 0)
    (invariantError (py "new evidence requires empty active state"))
  require (f.decisionType = .exactDuplicate → exactCount ≠ 0)
    (invariantError (py "duplicate decision requires an exact match"))
  require (f.decisionType ∈ [.conflictReview, .applyCorrection] → activeCount ≠ 0)
    (invariantError (py "mutating decision requires active state"))
  require (f.conflictIds ≠ [] → 2 ≤ activeCount ∧ 2 ≤ f.relevantMemoryIds.length)
    (invariantError (py "unresolved conflicts require at least two active memories"))
  require (f.reasonCode = .exactValueActiveWithConflicts → f.conflictIds ≠ [])
    (invariantError (py "duplicate-with-conflicts reason requires a conflict"))

/-- `ValidationDecision.__post_init__`. -/
def postInit : Except PolicyError Unit := do
  let expected ← f.candidate.identity
  require (f.normalizedIdentity = expected)
    (invariantError (py "decision identity does not match candidate"))
  require (f.reasonCode ∈ decisionReasons f.decisionType)
    (invariantError (py "reason_code is incompatible with decision_type"))
  f.checkPermission
  validateUuidTuple f.relevantMemoryIds (py "relevant_memory_ids")
  validateUuidTuple f.conflictIds (py "conflict_ids")
  f.validateDecisionShape
  f.explanatoryMetadata.forM checkMetadataEntry
  let keys := f.explanatoryMetadata.map Prod.fst
  require (keys.Pairwise (· ≤ ·) ∧ keys.Nodup)
    (invariantError (py "explanatory metadata keys must be unique and sorted"))
  f.validateExplanatoryMetadata

end DecisionFields

/-- `ValidationDecision`: fields that passed the constructor's checks. -/
structure ValidationDecision (nfc : Nfc) extends DecisionFields nfc where
  /-- The checks passed. -/
  checked : toDecisionFields.postInit = .ok ()
  deriving DecidableEq

/-- `ValidationDecision(...)`. -/
def ValidationDecision.construct (fields : DecisionFields nfc) :
    Except PolicyError (ValidationDecision nfc) :=
  match h : fields.postInit with
  | .ok () => .ok ⟨fields, h⟩
  | .error e => .error e

/-- The fields given to the `ApplicationResult` constructor. -/
structure ResultFields (nfc : Nfc) where
  decision : ValidationDecision nfc
  mutationApplied : Bool
  memory : Option MemoryRecord
  deriving DecidableEq

/-- The checks on the memory that a result returns. -/
def checkResultMemory (decision : ValidationDecision nfc) (memory : MemoryRecord) :
    Except PolicyError Unit := do
  let identity ← identityForRecord nfc memory
  require (identity = decision.normalizedIdentity)
    (invariantError (py "application memory identity does not match decision"))
  let value ← canonicalizeJson memory.value
  require (value = decision.candidate.valueJson)
    (invariantError (py "application memory value does not match decision"))

/-- `ApplicationResult.__post_init__`. -/
def ResultFields.postInit (f : ResultFields nfc) : Except PolicyError Unit := do
  require (f.mutationApplied = true → f.memory ≠ none)
    (invariantError (py "a successful mutation must return its memory"))
  require (f.mutationApplied = true → f.decision.persistencePermitted = true)
    (invariantError (py "mutation requires persistence permission"))
  require (f.mutationApplied = false →
      f.decision.decisionType = .exactDuplicate ∧ f.memory ≠ none)
    (invariantError (py "a no-op result requires an equivalent active memory"))
  match f.memory with
  | none => pure ()
  | some memory => checkResultMemory f.decision memory

/-- `ApplicationResult`: fields that passed the constructor's checks. -/
structure ApplicationResult (nfc : Nfc) extends ResultFields nfc where
  /-- The checks passed. -/
  checked : toResultFields.postInit = .ok ()
  deriving DecidableEq

/-- `ApplicationResult(...)`. -/
def ApplicationResult.construct (fields : ResultFields nfc) :
    Except PolicyError (ApplicationResult nfc) :=
  match h : fields.postInit with
  | .ok () => .ok ⟨fields, h⟩
  | .error e => .error e

end Decision

end Validation
end AyyoHumanoid
