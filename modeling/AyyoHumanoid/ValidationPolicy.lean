import AyyoHumanoid.MemoryService
import AyyoHumanoid.ValidationModels

/-!
# The deterministic validation policy and its service

The policy maps a normalized candidate and the state read from the Memory OS to
a decision, after checking that the state is consistent. The service reads that
state, and applies a decision only when a fresh evaluation repeats it.
-/

namespace AyyoHumanoid
namespace Validation

open PyText JsonText Memory

variable {nfc : Nfc}

/-- The state that the policy evaluates a candidate against. -/
structure PolicyState where
  activeMemories : List MemoryRecord
  conflicts : List MemoryConflict
  correctionTarget : Option MemoryRecord
  correctionTargetMissing : Bool
  revisionHistory : List MemoryRecord

/-- The loop of `_validate_context` over the active memories; `seen` are the identifiers
already in `active_by_id`. -/
def validateActive (identity : NormalizedIdentity nfc) :
    List UUID → List MemoryRecord → Except PolicyError Unit
  | _, [] => .ok ()
  | seen, record :: records => do
    require (record.status = .active)
      (invariantError (py "policy active state contains history"))
    let recordIdentity ← identityForRecord nfc record
    require (recordIdentity = identity)
      (invariantError (py "policy state contains an unrelated memory"))
    require (record.memoryId ∉ seen)
      (invariantError (py "policy active state contains duplicate IDs"))
    validateActive identity (record.memoryId :: seen) records

/-- `active_by_id[memory_id]`. -/
def activeById (active : List MemoryRecord) (memoryId : UUID) : Option MemoryRecord :=
  active.find? fun record => record.memoryId = memoryId

/-- Both memories of a conflict have the identity; the right one is only asked for when the
left one has it. -/
def conflictHasIdentity (identity : NormalizedIdentity nfc) (conflict : MemoryConflict) :
    Except PolicyError Bool := do
  let left ← identityForRecord nfc conflict.leftMemory
  if left = identity then do
    let right ← identityForRecord nfc conflict.rightMemory
    pure (decide (right = identity))
  else pure false

/-- The frozenset of a conflict's two identifiers, as their sorted pair. -/
def conflictPair (conflict : MemoryConflict) : UUID × UUID :=
  UUID.sortedPair conflict.leftMemory.memoryId conflict.rightMemory.memoryId

/-- The checks of `_validate_context` on one conflict. -/
def checkConflict (identity : NormalizedIdentity nfc) (active : List MemoryRecord)
    (conflictIds : List UUID) (actualPairs : List (UUID × UUID)) (conflict : MemoryConflict) :
    Except PolicyError Unit := do
  require (conflict.resolvedAt = none)
    (invariantError (py "policy conflict state contains history"))
  let related ← conflictHasIdentity identity conflict
  require (related = true) (invariantError (py "policy state contains an unrelated conflict"))
  require (conflict.leftMemory.status = .active ∧ conflict.rightMemory.status = .active)
    (invariantError (py "unresolved conflict references inactive memory"))
  require (activeById active conflict.leftMemory.memoryId ≠ none ∧
      activeById active conflict.rightMemory.memoryId ≠ none)
    (invariantError (py "policy conflict state is absent from active state"))
  require (activeById active conflict.leftMemory.memoryId = some conflict.leftMemory ∧
      activeById active conflict.rightMemory.memoryId = some conflict.rightMemory)
    (invariantError (py "policy conflict state does not match active snapshots"))
  require (conflict.conflictId ∉ conflictIds ∧ conflictPair conflict ∉ actualPairs)
    (invariantError (py "policy conflict state contains duplicates"))
  let left ← canonicalizeJson conflict.leftMemory.value
  let right ← canonicalizeJson conflict.rightMemory.value
  require (left ≠ right) (invariantError (py "unresolved conflict contains equivalent values"))

/-- The loop of `_validate_context` over the conflicts; the result is `actual_pairs`. -/
def validateConflicts (identity : NormalizedIdentity nfc) (active : List MemoryRecord) :
    List UUID → List (UUID × UUID) → List MemoryConflict → Except PolicyError (List (UUID × UUID))
  | _, actualPairs, [] => .ok actualPairs
  | conflictIds, actualPairs, conflict :: conflicts => do
    checkConflict identity active conflictIds actualPairs conflict
    validateConflicts identity active (conflict.conflictId :: conflictIds)
      (conflictPair conflict :: actualPairs) conflicts

/-- The condition of `expected_pairs` on two active records. -/
def recordsContradict (left right : MemoryRecord) : Except PolicyError Bool :=
  if left.key = right.key then do
    let leftValue ← canonicalizeJson left.value
    let rightValue ← canonicalizeJson right.value
    pure (decide (leftValue ≠ rightValue))
  else pure false

/-- `expected_pairs`: each record is compared with the records after it. -/
def expectedPairs : List MemoryRecord → Except PolicyError (List (UUID × UUID))
  | [] => .ok []
  | left :: rest => do
    let rivals ← selectM (recordsContradict left) rest
    let others ← expectedPairs rest
    pure ((rivals.map fun right => UUID.sortedPair left.memoryId right.memoryId) ++ others)

/-- `_validate_context`. -/
def validateContext (normalized : NormalizedCandidate nfc) (active : List MemoryRecord)
    (conflicts : List MemoryConflict) : Except PolicyError Unit := do
  validateActive normalized.identity [] active
  let actualPairs ← validateConflicts normalized.identity active [] [] conflicts
  let expected ← expectedPairs active
  require (actualPairs ⊆ expected ∧ expected ⊆ actualPairs)
    (invariantError (py "policy conflict state does not match active contradictory evidence"))

/-- The loop of `_validate_correction_context` over the revision history. -/
def validateHistory (targetIdentity : NormalizedIdentity nfc) :
    List UUID → Option MemoryRecord → List MemoryRecord → Except PolicyError Unit
  | _, _, [] => .ok ()
  | historyIds, previous, record :: records => do
    require (record.memoryId ∉ historyIds)
      (invariantError (py "revision history contains duplicate IDs"))
    match previous with
    | none =>
      require (record.supersedes = none)
        (invariantError (py "revision history does not start at its root"))
    | some earlier =>
      require (record.supersedes = some earlier.memoryId)
        (invariantError (py "revision history is not a contiguous chain"))
    let recordIdentity ← identityForRecord nfc record
    require (recordIdentity = targetIdentity)
      (invariantError (py "revision history changes logical identity"))
    validateHistory targetIdentity (record.memoryId :: historyIds) (some record) records

/-- The checks of `_validate_correction_context` on the history of an inactive target. Since
the identifiers are unique, the target's snapshot is the only record with its identifier. -/
def validateInactiveTarget (nfc : Nfc) (target : MemoryRecord) (history : List MemoryRecord) :
    Except PolicyError Unit := do
  require (history ≠ []) (invariantError (py "inactive correction target requires history"))
  let targetIdentity ← identityForRecord nfc target
  validateHistory targetIdentity [] none history
  require (∃ record ∈ history, record.memoryId = target.memoryId ∧ record = target)
    (invariantError (py "revision history does not contain the correction target snapshot"))
  require (∀ record ∈ history.dropLast, record.status = .superseded)
    (invariantError (py "revision history has an active intermediate record"))
  require (∀ last ∈ history.getLast?, last.status ≠ .superseded)
    (invariantError (py "revision history has no terminal record"))

/-- `_validate_correction_context`. -/
def validateCorrectionContext (normalized : NormalizedCandidate nfc) (state : PolicyState) :
    Except PolicyError Unit :=
  match normalized.candidate.correctionTargetId with
  | none => do
    require (state.correctionTarget = none ∧ state.correctionTargetMissing = false)
      (invariantError (py "unexpected correction target state"))
    require (state.revisionHistory = [])
      (invariantError (py "unexpected correction revision history"))
  | some targetId =>
    if state.correctionTargetMissing then do
      require (state.correctionTarget = none)
        (invariantError (py "missing correction target cannot be present"))
      require (state.revisionHistory = [])
        (invariantError (py "missing correction target cannot have history"))
    else
      match state.correctionTarget with
      | none => .error (invariantError (py "correction target state is missing"))
      | some target => do
        require (targetId = target.memoryId)
          (invariantError (py "correction target does not match candidate intent"))
        if target.status = .active then
          require (state.revisionHistory = [])
            (invariantError (py "active correction target cannot have history"))
        else validateInactiveTarget nfc target state.revisionHistory

/-- The numbers of active, exactly matching and differently spelled memories. -/
structure DecisionCounts where
  /-- `active_count`. -/
  active : Nat
  /-- `exact_count`. -/
  exact : Nat
  /-- `variant_count`. -/
  variant : Nat

/-- The metadata of a decision. -/
def decisionMetadata (normalized : NormalizedCandidate nfc) (counts : DecisionCounts) :
    List (PyStr × DecisionMetadataValue) :=
  sortByKey [
    (py "active_memory_count", .int counts.active),
    (py "correction_requested", .bool (decide (normalized.candidate.correctionTargetId ≠ none))),
    (py "exact_duplicate_count", .int counts.exact),
    (py "identity_was_normalized",
      .bool (decide (normalized.candidate.subject ≠ normalized.identity.subject ∨
        normalized.candidate.predicate ≠ normalized.identity.predicate))),
    (py "policy_version", .int policyVersion),
    (py "storage_identity_variant_count", .int counts.variant)]

/-- `_decision`. -/
def decision (normalized : NormalizedCandidate nfc) (decisionType : DecisionType)
    (reason : DecisionReason) (relevantIds conflictIds : List UUID) (persistencePermitted : Bool)
    (counts : DecisionCounts) : Except PolicyError (ValidationDecision nfc) :=
  ValidationDecision.construct {
    decisionType := decisionType
    reasonCode := reason
    normalizedIdentity := normalized.identity
    candidate := normalized.candidate
    relevantMemoryIds := relevantIds
    conflictIds := conflictIds
    persistencePermitted := persistencePermitted
    explanatoryMetadata := decisionMetadata normalized counts }

/-- The exact-duplicate reason of a state with or without open conflicts. -/
def duplicateReason (conflictIds : List UUID) : DecisionReason :=
  if conflictIds ≠ [] then .exactValueActiveWithConflicts else .exactValueAlreadyActive

/-- The value of a record is the canonical value. -/
def hasValue (canonicalValue : PyStr) (record : MemoryRecord) : Except PolicyError Bool := do
  let value ← canonicalizeJson record.value
  pure (decide (value = canonicalValue))

/-- `tip_matches`; later conditions are only asked for when the earlier ones hold. -/
def tipMatches (normalized : NormalizedCandidate nfc) (tip : MemoryRecord) :
    Except PolicyError Bool :=
  if tip.status = .active then do
    let tipIdentity ← identityForRecord nfc tip
    if tipIdentity = normalized.identity then hasValue normalized.canonicalValue tip
    else pure false
  else pure false

/-- The active tip of the history, when it already holds the candidate's value. -/
def appliedTip (normalized : NormalizedCandidate nfc) (history : List MemoryRecord) :
    Except PolicyError (Option MemoryRecord) :=
  match history.getLast? with
  | none => .ok none
  | some tip => do
    let applied ← tipMatches normalized tip
    pure (if applied then some tip else none)

/-- The branches of `_evaluate_correction` for a target that exists. -/
def evaluateTarget (normalized : NormalizedCandidate nfc) (state : PolicyState)
    (target : MemoryRecord) (conflictIds : List UUID) (counts : DecisionCounts) :
    Except PolicyError (ValidationDecision nfc) := do
  let activeIds := state.activeMemories.map (·.memoryId)
  let relevantIds := sortedIds (activeIds ++ [target.memoryId])
  let provenance ← normalized.candidate.provenance
  if provenance.provenanceType ∉ correctionAuthorityTypes then
    decision normalized .reject .correctionAuthorityForbidden relevantIds conflictIds false counts
  else do
    let targetIdentity ← identityForRecord nfc target
    if targetIdentity ≠ normalized.identity then
      decision normalized .reject .correctionIdentityMismatch relevantIds conflictIds false counts
    else if target.status ≠ .active then do
      match ← appliedTip normalized state.revisionHistory with
      | some tip =>
        decision normalized .exactDuplicate .correctionAlreadyApplied
          (sortedIds (activeIds ++ [target.memoryId, tip.memoryId])) conflictIds false
          { counts with exact := max 1 counts.exact }
      | none =>
        decision normalized .reject .correctionTargetNotActive relevantIds conflictIds false counts
    else do
      require (target.memoryId ∈ activeIds)
        (invariantError (py "active correction target is absent from canonical identity state"))
      if counts.variant ≠ 0 then
        decision normalized .conflictReview .canonicalIdentityVariantRequiresReview relevantIds
          conflictIds false counts
      else do
        let unchanged ← hasValue normalized.canonicalValue target
        if unchanged then
          decision normalized .exactDuplicate (duplicateReason conflictIds) relevantIds conflictIds
            false { counts with exact := max 1 counts.exact, variant := 0 }
        else
          decision normalized .applyCorrection .explicitCorrectionAllowed relevantIds conflictIds
            true { counts with variant := 0 }

/-- `_evaluate_correction`. -/
def evaluateCorrection (normalized : NormalizedCandidate nfc) (state : PolicyState)
    (conflictIds : List UUID) (counts : DecisionCounts) :
    Except PolicyError (ValidationDecision nfc) :=
  if state.correctionTargetMissing then
    decision normalized .reject .correctionTargetNotFound
      (sortedIds (state.activeMemories.map (·.memoryId))) conflictIds false counts
  else
    match state.correctionTarget with
    | none => .error (invariantError (py "correction target state is missing"))
    | some target => evaluateTarget normalized state target conflictIds counts

/-- The branches of `evaluate` for a candidate that corrects nothing. -/
def evaluateNew (normalized : NormalizedCandidate nfc) (state : PolicyState)
    (conflictIds : List UUID) (counts : DecisionCounts) :
    Except PolicyError (ValidationDecision nfc) :=
  let relevantIds := sortedIds (state.activeMemories.map (·.memoryId))
  if counts.exact ≠ 0 then
    decision normalized .exactDuplicate (duplicateReason conflictIds) relevantIds conflictIds false
      counts
  else if state.activeMemories ≠ [] then
    if counts.variant ≠ 0 then
      decision normalized .conflictReview .canonicalIdentityVariantRequiresReview relevantIds
        conflictIds false { counts with exact := 0 }
    else
      decision normalized .conflictReview .differentActiveValue relevantIds conflictIds true
        { counts with exact := 0 }
  else decision normalized .acceptNew .noActiveMemory [] [] true ⟨0, 0, 0⟩

/-- The record is stored under another spelling of the identity. -/
def IsVariant (identity : NormalizedIdentity nfc) (record : MemoryRecord) : Prop :=
  (record.subject, record.predicate) ≠ (identity.subject, identity.predicate)

instance (identity : NormalizedIdentity nfc) : DecidablePred (IsVariant identity) := fun record =>
  inferInstanceAs (Decidable ((record.subject, record.predicate) ≠
    (identity.subject, identity.predicate)))

/-- `DeterministicValidationPolicy.evaluate`. -/
def evaluatePolicy (normalized : NormalizedCandidate nfc) (state : PolicyState) :
    Except PolicyError (ValidationDecision nfc) := do
  validateContext normalized state.activeMemories state.conflicts
  validateCorrectionContext normalized state
  let exactMemories ← selectM (hasValue normalized.canonicalValue) state.activeMemories
  let counts : DecisionCounts :=
    { active := state.activeMemories.length
      exact := exactMemories.length
      variant := state.activeMemories.countP fun record => IsVariant normalized.identity record }
  let conflictIds := sortedIds (state.conflicts.map (·.conflictId))
  if normalized.candidate.correctionTargetId ≠ none then
    evaluateCorrection normalized state conflictIds counts
  else evaluateNew normalized state conflictIds counts

/-- `MemoryValidationService.normalize`. -/
def normalize (candidate : CandidateEvidence nfc) :
    Except PolicyError (NormalizedCandidate nfc) := do
  let identity ← candidate.identity
  NormalizedCandidate.construct ⟨candidate, identity, candidate.valueJson⟩

/-- The normalized identity of a record is the given one. -/
def recordHasIdentity (identity : NormalizedIdentity nfc) (record : MemoryRecord) :
    Except PolicyError Bool := do
  let recordIdentity ← identityForRecord nfc record
  pure (decide (recordIdentity = identity))

/-- `_active_memories`. -/
def activeMemories (store : MemoryStore) (identity : NormalizedIdentity nfc) :
    Except PolicyError (List MemoryRecord) := do
  let records ← fromMemory (queryMemories store { memoryType := some identity.memoryType })
  let relevant ← selectM (recordHasIdentity identity) records
  pure (relevant.insertionSort fun left right => left.memoryId ≤ right.memoryId)

/-- `_active_conflicts`. -/
def activeConflicts (store : MemoryStore) (identity : NormalizedIdentity nfc) :
    Except PolicyError (List MemoryConflict) := do
  let conflicts ← fromMemory (listConflicts store none none false)
  let relevant ← selectM (conflictHasIdentity identity) conflicts
  pure (relevant.insertionSort fun left right => left.conflictId ≤ right.conflictId)

/-- The correction target, whether it is missing, and its revision history. -/
def correctionState (store : MemoryStore) :
    Option UUID → Except PolicyError (Option MemoryRecord × Bool × List MemoryRecord)
  | none => .ok (none, false, [])
  | some targetId =>
    match demandMemory store.memories targetId with
    | .error e =>
      if e.kind = .memoryNotFound then .ok (none, true, []) else .error (.ofMemory e)
    | .ok target =>
      if target.status ≠ .active then do
        let history ← fromMemory (getRevisionHistory store target.memoryId)
        pure (some target, false, history)
      else .ok (some target, false, [])

/-- `MemoryValidationService.evaluate`. -/
def evaluate (store : MemoryStore) (candidate : CandidateEvidence nfc) :
    Except PolicyError (ValidationDecision nfc) := do
  let normalized ← normalize candidate
  let active ← activeMemories store normalized.identity
  let conflicts ← activeConflicts store normalized.identity
  let (target, missing, history) ← correctionState store candidate.correctionTargetId
  evaluatePolicy normalized ⟨active, conflicts, target, missing, history⟩

/-- The record is active and equivalent to the decision's candidate. -/
def isActiveDuplicate (decision : ValidationDecision nfc) (memory : MemoryRecord) :
    Except PolicyError Bool :=
  if memory.status = .active then do
    let identity ← identityForRecord nfc memory
    if identity = decision.normalizedIdentity then hasValue decision.candidate.valueJson memory
    else pure false
  else pure false

/-- The loop of `_require_active_duplicate`. -/
def findActiveDuplicate (store : MemoryStore) (decision : ValidationDecision nfc) :
    List UUID → Except PolicyError MemoryRecord
  | [] => .error (invariantError (py "duplicate decision has no equivalent active memory"))
  | memoryId :: memoryIds => do
    let memory ← fromMemory (demandMemory store.memories memoryId)
    let found ← isActiveDuplicate decision memory
    if found then pure memory else findActiveDuplicate store decision memoryIds

/-- `_require_active_duplicate`. -/
def requireActiveDuplicate (store : MemoryStore) (decision : ValidationDecision nfc) :
    Except PolicyError MemoryRecord :=
  findActiveDuplicate store decision decision.relevantMemoryIds

/-- `_persistence_metadata`. The reserved key is not in the candidate's metadata, so the
assignment appends it. -/
def persistenceMetadata (decision : ValidationDecision nfc) :
    Except PolicyError (List (PyStr × Json)) := do
  let metadata ← decision.candidate.metadata
  pure (setEntry metadata validationMetadataKey (.obj [
    (py "decision", .str decision.decisionType.value),
    (py "normalized_predicate", .str decision.normalizedIdentity.predicate),
    (py "normalized_subject", .str decision.normalizedIdentity.subject),
    (py "original_predicate", .str decision.candidate.predicate),
    (py "original_subject", .str decision.candidate.subject),
    (py "policy_version", .int policyVersion),
    (py "reason_code", .str decision.reasonCode.value)]))

/-- The evidence that a decision persists. -/
def persistedEvidence (decision : ValidationDecision nfc) (metadata : List (PyStr × Json)) :
    Except PolicyError Evidence := do
  let value ← decision.candidate.value
  let provenance ← decision.candidate.provenance
  pure ⟨value, provenance, confidenceNumber decision.candidate.confidence,
    decision.candidate.observedAt, some metadata⟩

/-- The Memory OS call that `apply` makes for a decision that permits persistence. -/
def mutation (decision : ValidationDecision nfc) (supply : Supply) :
    Except PolicyError ServiceCall := do
  let metadata ← persistenceMetadata decision
  if decision.decisionType ∈ [.acceptNew, .conflictReview] then do
    let evidence ← persistedEvidence decision metadata
    pure (.create decision.normalizedIdentity.memoryType decision.normalizedIdentity.subject
      decision.normalizedIdentity.predicate evidence supply)
  else if decision.decisionType = .applyCorrection then
    match decision.candidate.correctionTargetId, decision.candidate.correctionReason with
    | some targetId, some reason => do
      let evidence ← persistedEvidence decision metadata
      pure (.correct targetId evidence reason supply)
    | _, _ => .error (invariantError (py "correction decision lost correction intent"))
  else
    .error (invariantError (py "unsupported mutating decision " ++ decision.decisionType.value))

/-- What `apply` returns without a mutation. -/
def duplicateResult (store : MemoryStore) (current : ValidationDecision nfc) :
    Except PolicyError (ApplicationResult nfc) := do
  let memory ← requireActiveDuplicate store current
  ApplicationResult.construct ⟨current, false, some memory⟩

/-- The mutating end of `apply`. The result is built after the transaction committed. -/
def persist (store : MemoryStore) (current : ValidationDecision nfc) (supply : Supply) :
    Except PolicyError (ApplicationResult nfc) × MemoryStore :=
  match mutation current supply with
  | .error e => (.error e, store)
  | .ok call =>
    match call.run.run store with
    | .error e => (.error (.ofMemory e), store)
    | .ok (memory, store') => (ApplicationResult.construct ⟨current, true, some memory⟩, store')

/-- `MemoryValidationService.apply`: what it returns or raises, and the store it leaves. -/
def applyDecision (store : MemoryStore) (decision : ValidationDecision nfc) (supply : Supply) :
    Except PolicyError (ApplicationResult nfc) × MemoryStore :=
  match evaluate store decision.candidate with
  | .error e => (.error e, store)
  | .ok current =>
    if current ≠ decision then
      if decision.persistencePermitted = true ∧ current.decisionType = .exactDuplicate then
        (duplicateResult store current, store)
      else
        (.error ⟨.staleDecision,
          py "active memory state changed after this decision was evaluated"⟩, store)
    else if current.decisionType = .exactDuplicate then (duplicateResult store current, store)
    else if current.persistencePermitted = false then
      (.error ⟨.decisionNotApplicable,
        py "decision " ++ current.decisionType.value ++ py " does not permit persistence"⟩, store)
    else persist store current supply

end Validation
end AyyoHumanoid
