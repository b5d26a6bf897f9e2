import AyyoHumanoid.ContextEntries

/-!
# The personal context projector

The projection of active memories and unresolved conflicts to a snapshot. The
projector checks every memory and every conflict it is given, checks that the
conflicts are exactly the contradictions between the memories, and groups the
memories by identity and by canonical value.
-/

namespace AyyoHumanoid
namespace PersonalContext

open PyText JsonText PyCollections
open Memory (MemoryRecord MemoryConflict MemoryType)

/-- `_DOMAIN_BY_MEMORY_TYPE`. -/
def domainByMemoryType : MemoryType → Option ContextDomain
  | .semantic => some .semantic
  | .preference => some .preference
  | .social => some .social
  | .spatial => some .spatial
  | .procedural => some .procedural
  | .episodic | .failure => none

/-- A memory of a type that belongs to a context domain. -/
structure SupportedMemory where
  record : MemoryRecord
  domain : ContextDomain
  supported : domainByMemoryType record.memoryType = some domain
  deriving DecidableEq

/-- The memory with its domain, if its type has one. -/
def supportedMemory (record : MemoryRecord) : Option SupportedMemory :=
  match h : domainByMemoryType record.memoryType with
  | some domain => some ⟨record, domain, h⟩
  | none => none

/-- A supported memory is the memory itself. -/
theorem supportedMemory_record {record : MemoryRecord} {memory : SupportedMemory}
    (h : supportedMemory record = some memory) : memory.record = record := by
  unfold supportedMemory at h
  split at h
  · rw [← Option.some.inj h]
  · cases h

/-- `_identity_for`. -/
def SupportedMemory.identity (memory : SupportedMemory) : ContextIdentity where
  domain := memory.domain
  subject := memory.record.subject
  predicate := memory.record.predicate
  subjectText := memory.record.valid.subject
  predicateText := memory.record.valid.predicate

/-- What `_record_signature` compares. -/
structure RecordSignature where
  memoryId : UUID
  /-- `memory_type`, `subject` and `predicate`. -/
  key : MemoryType × PyStr × PyStr
  /-- Canonical text of the value. -/
  value : PyStr
  provenanceType : Memory.ProvenanceType
  sourceId : PyStr
  /-- Canonical text of the provenance details. -/
  details : PyStr
  /-- `float(confidence)`. -/
  confidence : Memory.PyNumber
  observedAt : PyDatetime
  createdAt : PyDatetime
  status : Memory.MemoryStatus
  statusChangedAt : PyDatetime
  supersedes : Option UUID
  revisionReason : Option PyStr
  statusReason : Option PyStr
  /-- Canonical text of the metadata. -/
  metadata : PyStr
  deriving DecidableEq

/-- `_record_signature`. -/
def recordSignature (record : MemoryRecord) : Except ContextError RecordSignature := do
  let value ← canonicalizeJson record.value
  let details ← canonicalizeJson (.obj record.provenance.details)
  let metadata ← canonicalizeJson (.obj record.metadata)
  pure {
    memoryId := record.memoryId
    key := record.key
    value := value
    provenanceType := record.provenance.provenanceType
    sourceId := record.provenance.sourceId
    details := details
    confidence := record.confidence
    observedAt := record.observedAt
    createdAt := record.createdAt
    status := record.status
    statusChangedAt := record.statusChangedAt
    supersedes := record.supersedes
    revisionReason := record.revisionReason
    statusReason := record.statusReason
    metadata := metadata }

/-- The loop of `_validated_memories`, after the given identifiers. -/
def checkMemories (ownerSubject : PyStr) :
    List UUID → List MemoryRecord → Except ContextError (List SupportedMemory)
  | _, [] => .ok []
  | seenIds, record :: later => do
    require (record.subject = ownerSubject)
      (inconsistentSource (py "owner-filtered memory state contains another subject"))
    require (record.status = .active)
      (inconsistentSource (py "active memory state contains an inactive record"))
    require (record.memoryId ∉ seenIds)
      (inconsistentSource (py "active memory state contains duplicate memory IDs"))
    let relevant ← checkMemories ownerSubject (record.memoryId :: seenIds) later
    pure ((supportedMemory record).toList ++ relevant)

/-- `_validated_memories`. -/
def validatedMemories (ownerSubject : PyStr) (activeMemories : List MemoryRecord) :
    Except ContextError (List SupportedMemory) := do
  let relevant ← checkMemories ownerSubject [] activeMemories
  pure (sortBy (fun memory => memory.record.memoryId.text) relevant)

/-- A conflict between memories of a context domain. -/
structure SupportedConflict where
  conflict : MemoryConflict
  /-- The left memory with its domain. -/
  left : SupportedMemory
  /-- It is the conflict's left memory. -/
  isLeft : left.record = conflict.leftMemory
  deriving DecidableEq

/-- The conflict with its left memory's domain, if that has one. -/
def supportedConflict (conflict : MemoryConflict) : Option SupportedConflict :=
  match h : supportedMemory conflict.leftMemory with
  | some left => some ⟨conflict, left, supportedMemory_record h⟩
  | none => none

/-- The identifiers of a conflict's memories in either order. -/
def memoryPair (conflict : MemoryConflict) : UUID × UUID :=
  UUID.sortedPair conflict.leftMemory.memoryId conflict.rightMemory.memoryId

/-- `active_by_id.get(memory_id)`. -/
def activeById (active : List SupportedMemory) (memoryId : UUID) : Option SupportedMemory :=
  active.find? fun memory => memory.record.memoryId = memoryId

/-- A conflict's memory has the signature of the active memory under its identifier. -/
def sameSignature (active : List SupportedMemory) (record : MemoryRecord) :
    Except ContextError Bool := do
  match activeById active record.memoryId with
  | none => .error (inconsistentSource (py "unresolved conflict is absent from active memory state"))
  | some memory =>
    let current ← recordSignature memory.record
    let snapshot ← recordSignature record
    pure (current = snapshot)

/-- Both memories of a conflict have the signatures of the active memories; the right one is
compared only when the left one agrees. -/
def sameSignatures (active : List SupportedMemory) (conflict : MemoryConflict) :
    Except ContextError Bool := do
  if ← sameSignature active conflict.leftMemory then sameSignature active conflict.rightMemory
  else pure false

/-- What the loop of `_validated_conflicts` has seen. -/
structure SeenConflicts where
  /-- `conflict_ids`. -/
  ids : List UUID
  /-- `memory_pairs`. -/
  pairs : List (UUID × UUID)

/-- The checks of a conflict between supported memories. -/
def checkConflict (active : List SupportedMemory) (seen : SeenConflicts)
    (conflict : MemoryConflict) : Except ContextError Unit := do
  require (conflict.resolvedAt = none)
    (inconsistentSource (py "unresolved conflict state contains a resolved conflict"))
  require (conflict.leftMemory.status = .active ∧ conflict.rightMemory.status = .active)
    (inconsistentSource (py "unresolved conflict references inactive memory"))
  require (conflict.leftMemory.key = conflict.rightMemory.key)
    (inconsistentSource (py "unresolved conflict changes exact Memory OS identity"))
  let leftValue ← canonicalizeJson conflict.leftMemory.value
  let rightValue ← canonicalizeJson conflict.rightMemory.value
  require (leftValue ≠ rightValue)
    (inconsistentSource (py "unresolved conflict contains equivalent values"))
  require (conflict.conflictId ∉ seen.ids ∧ memoryPair conflict ∉ seen.pairs)
    (inconsistentSource (py "conflict state contains duplicate identities or pairs"))
  require (activeById active conflict.leftMemory.memoryId ≠ none ∧
      activeById active conflict.rightMemory.memoryId ≠ none)
    (inconsistentSource (py "unresolved conflict is absent from active memory state"))
  let same ← sameSignatures active conflict
  require (same = true)
    (inconsistentSource (py "conflict snapshots do not match active memory state"))

/-- The loop of `_validated_conflicts`, after the given conflicts. -/
def checkConflicts (ownerSubject : PyStr) (active : List SupportedMemory) :
    SeenConflicts → List MemoryConflict → Except ContextError (List SupportedConflict)
  | _, [] => .ok []
  | seen, conflict :: later => do
    require (conflict.leftMemory.subject = ownerSubject ∧
        conflict.rightMemory.subject = ownerSubject)
      (inconsistentSource (py "owner-filtered conflict state contains another subject"))
    match supportedConflict conflict, supportedMemory conflict.rightMemory with
    | none, none => checkConflicts ownerSubject active seen later
    | some item, some _ =>
      checkConflict active seen conflict
      let relevant ← checkConflicts ownerSubject active
        ⟨conflict.conflictId :: seen.ids, memoryPair conflict :: seen.pairs⟩ later
      pure (item :: relevant)
    | _, _ => .error (inconsistentSource
        (py "conflict crosses supported and excluded context domains"))

/-- `_validated_conflicts`. -/
def validatedConflicts (ownerSubject : PyStr) (unresolvedConflicts : List MemoryConflict)
    (active : List SupportedMemory) : Except ContextError (List SupportedConflict) := do
  let relevant ← checkConflicts ownerSubject active ⟨[], []⟩ unresolvedConflicts
  pure (sortBy (fun item => item.conflict.conflictId.text) relevant)

/-- `itertools.combinations(values, 2)`. -/
def combinations {α : Type} : List α → List (α × α)
  | [] => []
  | value :: later => later.map (value, ·) ++ combinations later

/-- Two memories have one identity and different canonical values. -/
def contradicts (left right : SupportedMemory) : Except ContextError Bool :=
  if left.record.key = right.record.key then do
    let leftValue ← canonicalizeJson left.record.value
    let rightValue ← canonicalizeJson right.record.value
    pure (leftValue ≠ rightValue)
  else pure false

/-- `_require_complete_conflicts`. -/
def requireCompleteConflicts (active : List SupportedMemory)
    (conflicts : List SupportedConflict) : Except ContextError Unit := do
  let contradictory ← selectM (fun pair => contradicts pair.1 pair.2) (combinations active)
  let expected := contradictory.map fun pair =>
    UUID.sortedPair pair.1.record.memoryId pair.2.record.memoryId
  let actual := conflicts.map fun item => memoryPair item.conflict
  require (actual ⊆ expected ∧ expected ⊆ actual)
    (inconsistentSource (py "unresolved conflicts do not match active contradictory evidence"))

/-- The evidence that a memory is. -/
def evidenceFields (record : MemoryRecord) : EvidenceFields where
  memoryId := record.memoryId
  provenanceType := record.provenance.provenanceType
  provenanceSourceId := record.provenance.sourceId
  provenanceDetails := record.provenance.details
  metadata := record.metadata
  confidence := record.confidence
  observedAt := record.observedAt
  recordedAt := record.createdAt
  supersedes := record.supersedes
  revisionReason := record.revisionReason

/-- The value that memories agree on, with the memories as its evidence. -/
def contextValue (valueRecords : List SupportedMemory) : Except ContextError ContextValue := do
  let evidence ← valueRecords.mapM fun memory =>
    EvidenceReference.construct (evidenceFields memory.record)
  -- A group of records is never empty.
  let value := (valueRecords.head?.map fun memory => memory.record.value).getD .null
  ContextValue.construct ⟨value, sortBy (fun reference => reference.memoryId.text) evidence⟩

/-- The canonical text by which memories are grouped. -/
def SupportedMemory.canonicalValue (memory : SupportedMemory) : PyStr :=
  canonicalText memory.record.value

/-- The conflicts of one identity. -/
def conflictIdsFor (identity : ContextIdentity) (conflicts : List SupportedConflict) : List UUID :=
  sortBy UUID.text ((conflicts.filter fun item => item.left.identity = identity).map
    (·.conflict.conflictId))

/-- The entry of one identity. -/
def buildEntry (active : List SupportedMemory) (conflicts : List SupportedConflict)
    (identity : ContextIdentity) : Except ContextError ContextEntry := do
  let records := groupOf SupportedMemory.identity active identity
  let _ ← records.mapM fun memory => canonicalizeJson memory.record.value
  let values ← (groupsBy SupportedMemory.canonicalValue records).mapM contextValue
  ContextEntry.construct {
    identity := identity
    state := if values.length = 1 then .resolved else .conflicted
    values := values
    conflictIds := conflictIdsFor identity conflicts }

/-- `_build_entries`: one entry for each identity, in the order of identities. -/
def buildEntries (active : List SupportedMemory) (conflicts : List SupportedConflict) :
    Except ContextError (List ContextEntry) :=
  (sortedSet (active.map SupportedMemory.identity)).mapM (buildEntry active conflicts)

section Project

variable (floatRepr : Rat → FloatToken) (p : Platform)

/-- The part of `project` after its inputs are validated. -/
def projectValidated (ownerSubject : PyStr) (active : List SupportedMemory)
    (conflicts : List SupportedConflict) :
    Except ContextError (PersonalContextSnapshot floatRepr p) := do
  let entries ← buildEntries active conflicts
  let version ← computeSnapshotVersion floatRepr p ownerSubject entries
  PersonalContextSnapshot.construct floatRepr p ⟨ownerSubject, entries, version⟩

/-- `PersonalContextProjector.project`. -/
def project (ownerSubject : PyStr) (activeMemories : List MemoryRecord)
    (unresolvedConflicts : List MemoryConflict) :
    Except ContextError (PersonalContextSnapshot floatRepr p) := do
  validateOwnerSubject ownerSubject
  let active ← validatedMemories ownerSubject activeMemories
  let conflicts ← validatedConflicts ownerSubject unresolvedConflicts active
  requireCompleteConflicts active conflicts
  projectValidated floatRepr p ownerSubject active conflicts

/-- The query that reads an owner's active memories. -/
def ownerQuery (ownerSubject : PyStr) : Memory.MemoryQuery where
  subject := some ownerSubject

/-- `PersonalContextService.build_snapshot`, with no write between its reads. -/
def buildSnapshot (store : Memory.MemoryStore) (ownerSubject : PyStr) :
    Except ContextError (PersonalContextSnapshot floatRepr p) := do
  let activeMemories ← (Memory.queryMemories store (ownerQuery ownerSubject)).mapError ofMemoryError
  let unresolvedConflicts ←
    (Memory.listConflicts store (some ownerSubject) none false).mapError ofMemoryError
  project floatRepr p ownerSubject activeMemories unresolvedConflicts

end Project

end PersonalContext
end AyyoHumanoid
