import AyyoHumanoid.MemoryTransactions

/-!
# Reading the memory store

The read operations: filtered queries, the conflict listing, and the revision
history, which walks the supersedes links back to a root and forward again.
Each is a function of the store, because a read changes nothing.
-/

namespace AyyoHumanoid
namespace Memory

open PyText IsoText

/-- The fields given to the `MemoryConflict` constructor. -/
structure ConflictFields where
  conflictId : UUID
  leftMemory : MemoryRecord
  rightMemory : MemoryRecord
  createdAt : PyDatetime
  reason : PyStr
  resolvedAt : Option PyDatetime
  resolutionMemoryId : Option UUID
  deriving DecidableEq

/-- The checks on the resolution time of a conflict. -/
def checkResolvedAt (createdAt : PyDatetime) : Option PyDatetime → Except MemoryError Unit
  | none => .ok ()
  | some resolvedAt => do
    validateUtcDatetime resolvedAt (py "conflict resolved_at")
    require (createdAt.civil ≤ resolvedAt.civil)
      (invalidData (py "conflict resolved_at cannot precede created_at"))

/-- `MemoryConflict.__post_init__`. -/
def ConflictFields.postInit (f : ConflictFields) : Except MemoryError Unit := do
  require (f.leftMemory.memoryId ≠ f.rightMemory.memoryId)
    (invalidData (py "a conflict requires two different memories"))
  validateUtcDatetime f.createdAt (py "conflict created_at")
  validateNonemptyText (some f.reason) (py "conflict reason")
  checkResolvedAt f.createdAt f.resolvedAt
  require (f.resolutionMemoryId ≠ none → f.resolvedAt ≠ none)
    (invalidData (py "resolution_memory_id requires resolved_at"))

/-- `MemoryConflict`: fields that passed the constructor's checks. -/
structure MemoryConflict extends ConflictFields where
  /-- The checks passed. -/
  checked : toConflictFields.postInit = .ok ()
  deriving DecidableEq

/-- `MemoryConflict(...)`. -/
def MemoryConflict.construct (fields : ConflictFields) : Except MemoryError MemoryConflict :=
  match h : fields.postInit with
  | .ok () => .ok ⟨fields, h⟩
  | .error e => .error e

/-- Parse an optional timestamp column. -/
def parseOptionalDatetime : Option PyStr → Except MemoryError (Option PyDatetime)
  | none => .ok none
  | some text => (parseDatetime text).map some

/-- Rebuild one conflict from its row and the stored memories. -/
def conflictFromRow (memories : List MemoryRow) (row : ConflictRow) :
    Except MemoryError MemoryConflict := do
  let left ← demandMemory memories row.leftMemoryId
  let right ← demandMemory memories row.rightMemoryId
  let createdAt ← parseDatetime row.createdAt
  let resolvedAt ← parseOptionalDatetime row.resolvedAt
  MemoryConflict.construct {
    conflictId := row.conflictId
    leftMemory := left
    rightMemory := right
    createdAt := createdAt
    reason := row.reason
    resolvedAt := resolvedAt
    resolutionMemoryId := row.resolutionMemoryId }

/-- `ORDER BY conflicts.created_at ASC, conflicts.conflict_id ASC`. -/
def ConflictRow.Before (left right : ConflictRow) : Prop :=
  left.createdAt < right.createdAt ∨
    (left.createdAt = right.createdAt ∧ left.conflictId ≤ right.conflictId)

instance : DecidableRel ConflictRow.Before := fun left right =>
  inferInstanceAs (Decidable (left.createdAt < right.createdAt ∨
    (left.createdAt = right.createdAt ∧ left.conflictId ≤ right.conflictId)))

/-- The optional filters of `list_conflicts`, joined over the left memory's row. -/
def ConflictRow.Selected (row : ConflictRow) (memories : List MemoryRow)
    (subject predicate : Option PyStr) (includeResolved : Bool) : Prop :=
  (∃ left ∈ memories, left.memoryId = row.leftMemoryId ∧
    (∀ text ∈ subject, left.subject = text) ∧ ∀ text ∈ predicate, left.predicate = text) ∧
  (includeResolved = true ∨ row.resolvedAt = none)

instance (row : ConflictRow) (memories : List MemoryRow) (subject predicate : Option PyStr)
    (includeResolved : Bool) :
    Decidable (row.Selected memories subject predicate includeResolved) :=
  inferInstanceAs (Decidable ((∃ left ∈ memories, _) ∧ _))

/-- Check an optional text filter. -/
def validateFilter (value : Option PyStr) (fieldName : PyStr) : Except MemoryError Unit :=
  requireWhen (value ≠ none) (validateNonemptyText value fieldName)

/-- The rows `list_conflicts` selects, in order. -/
def selectConflicts (store : MemoryStore) (subject predicate : Option PyStr)
    (includeResolved : Bool) : List ConflictRow :=
  (store.conflicts.filter fun row =>
    row.Selected store.memories subject predicate includeResolved).insertionSort
      ConflictRow.Before

/-- `list_conflicts`. -/
def listConflicts (store : MemoryStore) (subject predicate : Option PyStr)
    (includeResolved : Bool) : Except MemoryError (List MemoryConflict) := do
  validateFilter subject (py "subject filter")
  validateFilter predicate (py "predicate filter")
  bindTexts (subject.toList ++ predicate.toList)
  (selectConflicts store subject predicate includeResolved).mapM (conflictFromRow store.memories)

/-- `MemoryQuery`. -/
structure MemoryQuery where
  /-- Filter on the type. -/
  memoryType : Option MemoryType := none
  /-- Filter on the subject. -/
  subject : Option PyStr := none
  /-- Filter on the predicate. -/
  predicate : Option PyStr := none
  /-- Leave out superseded and retracted memories. -/
  activeOnly : Bool := true
  deriving DecidableEq

/-- `MemoryQuery.__post_init__`. -/
def MemoryQuery.postInit (query : MemoryQuery) : Except MemoryError Unit := do
  validateFilter query.subject (py "subject filter")
  validateFilter query.predicate (py "predicate filter")

/-- The rows a query selects. -/
def MemoryQuery.Selects (query : MemoryQuery) (row : MemoryRow) : Prop :=
  (∀ memoryType ∈ query.memoryType, row.memoryType = memoryType) ∧
    (∀ text ∈ query.subject, row.subject = text) ∧
    (∀ text ∈ query.predicate, row.predicate = text) ∧
    (query.activeOnly = true → row.status = .active)

instance (query : MemoryQuery) : DecidablePred query.Selects := fun _ =>
  inferInstanceAs (Decidable (_ ∧ _ ∧ _ ∧ _))

/-- `query_memories`, after the query's own checks. -/
def queryMemories (store : MemoryStore) (query : MemoryQuery) :
    Except MemoryError (List MemoryRecord) := do
  query.postInit
  bindTexts (query.subject.toList ++ query.predicate.toList)
  ((store.memories.filter fun row => query.Selects row).insertionSort MemoryRow.Before).mapM
    memoryFromRow

/-- `MemoryPersistenceError("revision history contains a cycle")`. -/
def cycleError : MemoryError := ⟨.memoryPersistence, py "revision history contains a cycle"⟩

/-- The error of a loop that exceeded its bound; no run of the source has it. -/
def boundError : MemoryError := ⟨.nonterminating, py "the loop did not end within its bound"⟩

/-- The first loop of `get_revision_history`: follow the supersedes links to a root. -/
def walkBack (memories : List MemoryRow) :
    Nat → List UUID → MemoryRecord → Except MemoryError MemoryRecord
  | 0, _, _ => .error boundError
  | bound + 1, seen, record =>
    match record.supersedes with
    | none => .ok record
    | some previous =>
      if record.memoryId ∈ seen then .error cycleError
      else do
        let record' ← demandMemory memories previous
        walkBack memories bound (record.memoryId :: seen) record'

/-- `SELECT * FROM memories WHERE supersedes_id = ?`. -/
def successorRow (memories : List MemoryRow) (memoryId : UUID) : Option MemoryRow :=
  memories.find? fun row => row.supersedesId = some memoryId

/-- The second loop of `get_revision_history`: collect the revisions from a root. -/
def walkForward (memories : List MemoryRow) :
    Nat → List UUID → MemoryRecord → Except MemoryError (List MemoryRecord)
  | 0, _, _ => .error boundError
  | bound + 1, seen, record =>
    if record.memoryId ∈ seen then .error cycleError
    else
      match successorRow memories record.memoryId with
      | none => .ok [record]
      | some row => do
        let next ← memoryFromRow row
        let rest ← walkForward memories bound (record.memoryId :: seen) next
        pure (record :: rest)

/-- `get_revision_history`. Each loop is bounded by the number of stored memories, beyond
which an identifier would have been seen before. -/
def getRevisionHistory (store : MemoryStore) (memoryId : UUID) :
    Except MemoryError (List MemoryRecord) := do
  let record ← demandMemory store.memories memoryId
  let root ← walkBack store.memories (store.memories.length + 1) [] record
  walkForward store.memories (store.memories.length + 1) [] root

end Memory
end AyyoHumanoid
