import AyyoHumanoid.MemoryModels

/-!
# The SQLite memory store

Two tables and the statements the store runs on them. A row holds what the
source binds: canonical JSON text, ISO timestamps, reasons. Constraint
violations raise `sqlite3.IntegrityError`, every mutation is one transaction,
and reads rebuild the typed records, which can fail.
-/

namespace AyyoHumanoid
namespace Memory

open PyText JsonText IsoText

/-- A row of table `memories`. -/
structure MemoryRow where
  /-- Primary key. -/
  memoryId : UUID
  memoryType : MemoryType
  subject : PyStr
  predicate : PyStr
  /-- Canonical JSON text of the value. -/
  valueJson : PyStr
  provenanceType : ProvenanceType
  provenanceSourceId : PyStr
  /-- Canonical JSON text of the provenance details. -/
  provenanceDetailsJson : PyStr
  confidence : Rat
  /-- ISO text. -/
  observedAt : PyStr
  /-- ISO text. -/
  createdAt : PyStr
  status : MemoryStatus
  /-- ISO text. -/
  statusChangedAt : PyStr
  /-- The superseded memory, if any. -/
  supersedesId : Option UUID
  /-- Why the row supersedes another. -/
  revisionReason : Option PyStr
  /-- Why the row is not active. -/
  statusReason : Option PyStr
  /-- Canonical JSON text of the metadata. -/
  metadataJson : PyStr
  deriving DecidableEq

/-- A row of table `memory_conflicts`. -/
structure ConflictRow where
  /-- Primary key. -/
  conflictId : UUID
  /-- The smaller memory identifier. -/
  leftMemoryId : UUID
  /-- The larger memory identifier. -/
  rightMemoryId : UUID
  /-- ISO text. -/
  createdAt : PyStr
  /-- Why the memories conflict. -/
  reason : PyStr
  /-- ISO text of the resolution, absent while unresolved. -/
  resolvedAt : Option PyStr
  /-- The memory that resolved the conflict, if any. -/
  resolutionMemoryId : Option UUID
  deriving DecidableEq

/-- The rows of both tables in insertion order. -/
structure MemoryStore where
  /-- Table `memories`. -/
  memories : List MemoryRow
  /-- Table `memory_conflicts`. -/
  conflicts : List ConflictRow
  deriving DecidableEq

/-- The freshly migrated database. -/
def MemoryStore.empty : MemoryStore := ⟨[], []⟩

/-- A store operation. -/
abbrev StoreM (α : Type) := Transaction MemoryStore MemoryError α

/-- `sqlite3.IntegrityError`. -/
def integrityError : MemoryError := ⟨.integrity, py "constraint failed"⟩

/-- `_CONFLICT_REASON`. -/
def conflictReason : PyStr :=
  py "different values for the same memory type, subject, and predicate"

/-- `_canonical_json`: integers beyond Python's digit limit have no text. -/
def canonicalJson (value : Json) : Except MemoryError PyStr :=
  if value.dumpable then .ok (encode value)
  else .error ⟨.valueError, py "Exceeds the limit for integer string conversion"⟩

/-- The values `_insert_memory` binds for a record. -/
def recordRow (record : MemoryRecord) : Except MemoryError MemoryRow := do
  let valueJson ← canonicalJson record.value
  let detailsJson ← canonicalJson (.obj record.provenance.details)
  let metadataJson ← canonicalJson (.obj record.metadata)
  pure {
    memoryId := record.memoryId
    memoryType := record.memoryType
    subject := record.subject
    predicate := record.predicate
    valueJson := valueJson
    provenanceType := record.provenance.provenanceType
    provenanceSourceId := record.provenance.sourceId
    provenanceDetailsJson := detailsJson
    confidence := record.confidence.toRat
    observedAt := datetimeToText record.observedAt.civil
    createdAt := datetimeToText record.createdAt.civil
    status := record.status
    statusChangedAt := datetimeToText record.statusChangedAt.civil
    supersedesId := record.supersedes
    revisionReason := record.revisionReason
    statusReason := record.statusReason
    metadataJson := metadataJson }

/-- The texts of a row that SQLite receives as UTF-8. -/
def MemoryRow.texts (row : MemoryRow) : List PyStr :=
  [row.subject, row.predicate, row.valueJson, row.provenanceSourceId, row.provenanceDetailsJson] ++
    row.revisionReason.toList ++ row.statusReason.toList ++ [row.metadataJson]

/-- Binding a text with a lone surrogate raises `UnicodeEncodeError`. -/
def bindTexts (texts : List PyStr) : Except MemoryError Unit :=
  require (∀ text ∈ texts, utf8Encodable text = true)
    ⟨.unicodeEncode, py "surrogates not allowed"⟩

/-- SQLite's `length(trim(text)) > 0`: spaces are trimmed and counting stops at a NUL. -/
def trimmedLengthPositive (text : PyStr) : Bool :=
  match text.dropWhile fun c => c = space with
  | [] => false
  | c :: _ => c.val ≠ 0

/-- A reason column's length check; a `NULL` comparison does not fail a check. -/
def reasonCheck : Option PyStr → Bool
  | none => true
  | some text => trimmedLengthPositive text

/-- The `CHECK` constraints of table `memories`. -/
def MemoryRow.checks (row : MemoryRow) : Bool :=
  (0 ≤ row.confidence && row.confidence ≤ 1) &&
    (match row.supersedesId with
      | none => row.revisionReason == none
      | some _ => reasonCheck row.revisionReason) &&
    (match row.status with
      | .active => row.statusReason == none
      | _ => reasonCheck row.statusReason)

/-- The constraints an inserted memory row must meet. -/
structure MemoryRow.Admissible (row : MemoryRow) (memories : List MemoryRow) : Prop where
  /-- The primary key is new. -/
  primaryKey : ∀ other ∈ memories, other.memoryId ≠ row.memoryId
  /-- The check constraints hold. -/
  checks : row.checks = true
  /-- No other row supersedes the same memory. -/
  uniqueSupersedes : ∀ id ∈ row.supersedesId, ∀ other ∈ memories, other.supersedesId ≠ some id
  /-- The superseded memory exists. -/
  foreignKey : ∀ id ∈ row.supersedesId,
    id = row.memoryId ∨ ∃ other ∈ memories, other.memoryId = id

instance (row : MemoryRow) (memories : List MemoryRow) : Decidable (row.Admissible memories) :=
  decidable_of_iff
    ((∀ other ∈ memories, other.memoryId ≠ row.memoryId) ∧ row.checks = true ∧
      (∀ id ∈ row.supersedesId, ∀ other ∈ memories, other.supersedesId ≠ some id) ∧
      ∀ id ∈ row.supersedesId, id = row.memoryId ∨ ∃ other ∈ memories, other.memoryId = id)
    ⟨fun ⟨h1, h2, h3, h4⟩ => ⟨h1, h2, h3, h4⟩, fun ⟨h1, h2, h3, h4⟩ => ⟨h1, h2, h3, h4⟩⟩

/-- A memory identifier is stored. -/
def Stored (memories : List MemoryRow) (id : UUID) : Prop :=
  ∃ row ∈ memories, row.memoryId = id

instance (memories : List MemoryRow) (id : UUID) : Decidable (Stored memories id) :=
  inferInstanceAs (Decidable (∃ row ∈ memories, row.memoryId = id))

/-- The constraints an inserted conflict row must meet. -/
structure ConflictRow.Admissible (row : ConflictRow) (store : MemoryStore) : Prop where
  /-- The primary key is new. -/
  primaryKey : ∀ other ∈ store.conflicts, other.conflictId ≠ row.conflictId
  /-- The pair is new. -/
  uniquePair : ∀ other ∈ store.conflicts,
    ¬(other.leftMemoryId = row.leftMemoryId ∧ other.rightMemoryId = row.rightMemoryId)
  /-- The pair is sorted. -/
  ordered : row.leftMemoryId < row.rightMemoryId
  /-- The left memory exists. -/
  left : Stored store.memories row.leftMemoryId
  /-- The right memory exists. -/
  right : Stored store.memories row.rightMemoryId
  /-- The resolving memory exists. -/
  resolution : ∀ id ∈ row.resolutionMemoryId, Stored store.memories id
  /-- Only a resolved conflict names a resolving memory. -/
  resolved : row.resolutionMemoryId = none ∨ row.resolvedAt ≠ none

instance (row : ConflictRow) (store : MemoryStore) : Decidable (row.Admissible store) :=
  decidable_of_iff
    ((∀ other ∈ store.conflicts, other.conflictId ≠ row.conflictId) ∧
      (∀ other ∈ store.conflicts,
        ¬(other.leftMemoryId = row.leftMemoryId ∧ other.rightMemoryId = row.rightMemoryId)) ∧
      row.leftMemoryId < row.rightMemoryId ∧ Stored store.memories row.leftMemoryId ∧
      Stored store.memories row.rightMemoryId ∧
      (∀ id ∈ row.resolutionMemoryId, Stored store.memories id) ∧
      (row.resolutionMemoryId = none ∨ row.resolvedAt ≠ none))
    ⟨fun ⟨h1, h2, h3, h4, h5, h6, h7⟩ => ⟨h1, h2, h3, h4, h5, h6, h7⟩,
      fun ⟨h1, h2, h3, h4, h5, h6, h7⟩ => ⟨h1, h2, h3, h4, h5, h6, h7⟩⟩

/-- `_datetime_from_text`. -/
def parseDatetime (text : PyStr) : Except MemoryError PyDatetime :=
  match datetimeFromText text with
  | some civil => .ok (PyDatetime.utc civil)
  | none => .error ⟨.valueError, py "Invalid isoformat string"⟩

/-- `json.loads` of a stored column. -/
def parseJson (text : PyStr) : Except MemoryError Json :=
  match loads FloatToken.read text with
  | some value => .ok value
  | none => .error ⟨.valueError, py "Expecting value"⟩

/-- `json.loads` of a column whose value must be a dictionary. -/
def parseMapping (error : MemoryError) (text : PyStr) : Except MemoryError (List (PyStr × Json)) := do
  match ← parseJson text with
  | .obj entries => pure entries
  | _ => .error error

/-- `_memory_from_row`. -/
def memoryFromRow (row : MemoryRow) : Except MemoryError MemoryRecord := do
  let value ← parseJson row.valueJson
  let details ← parseMapping ⟨.invalidProvenance, py "provenance details must be a mapping"⟩
    row.provenanceDetailsJson
  let provenance ← Provenance.construct row.provenanceType row.provenanceSourceId details
  let observedAt ← parseDatetime row.observedAt
  let createdAt ← parseDatetime row.createdAt
  let statusChangedAt ← parseDatetime row.statusChangedAt
  let metadata ← parseMapping (invalidData (py "metadata must be a mapping")) row.metadataJson
  MemoryRecord.construct {
    memoryId := row.memoryId
    memoryType := row.memoryType
    subject := row.subject
    predicate := row.predicate
    value := value
    provenance := provenance
    confidence := .finite row.confidence
    observedAt := observedAt
    createdAt := createdAt
    status := row.status
    statusChangedAt := statusChangedAt
    supersedes := row.supersedesId
    revisionReason := row.revisionReason
    statusReason := row.statusReason
    metadata := metadata }

/-- `INSERT INTO memories`. -/
def insertMemory (record : MemoryRecord) : StoreM Unit := do
  let row ← Transaction.lift (recordRow record)
  Transaction.lift (bindTexts row.texts)
  let store ← get
  Transaction.lift (require (row.Admissible store.memories) integrityError)
  set { store with memories := store.memories ++ [row] }

/-- `SELECT * FROM memories WHERE memory_id = ?`. -/
def rowFor (memories : List MemoryRow) (memoryId : UUID) : Option MemoryRow :=
  memories.find? fun row => row.memoryId = memoryId

/-- `get_memory`: the record of a stored identifier. -/
def readMemory (memories : List MemoryRow) (memoryId : UUID) :
    Except MemoryError (Option MemoryRecord) :=
  match rowFor memories memoryId with
  | none => .ok none
  | some row => (memoryFromRow row).map some

/-- The text `memory {memory_id}` that starts most messages, with its ending. -/
def memoryMessage (memoryId : UUID) (suffix : PyStr) : PyStr :=
  py "memory " ++ memoryId.text ++ suffix

/-- `_require_memory`. -/
def demandMemory (memories : List MemoryRow) (memoryId : UUID) : Except MemoryError MemoryRecord :=
  match readMemory memories memoryId with
  | .ok (some record) => .ok record
  | .ok none => .error ⟨.memoryNotFound, memoryMessage memoryId (py " was not found")⟩
  | .error e => .error e

/-- `_require_memory` inside a transaction. -/
def requireMemory (memoryId : UUID) : StoreM MemoryRecord := do
  let store ← get
  Transaction.lift (demandMemory store.memories memoryId)

/-- `ORDER BY created_at ASC, memory_id ASC`. -/
def MemoryRow.Before (left right : MemoryRow) : Prop :=
  left.createdAt < right.createdAt ∨
    (left.createdAt = right.createdAt ∧ left.memoryId ≤ right.memoryId)

instance : DecidableRel MemoryRow.Before := fun left right =>
  inferInstanceAs (Decidable (left.createdAt < right.createdAt ∨
    (left.createdAt = right.createdAt ∧ left.memoryId ≤ right.memoryId)))

/-- Build a conflict row over two memories. -/
def conflictRow (conflictId first second : UUID) (createdAt : Civil) (resolvedAt : Option Civil)
    (resolutionMemoryId : Option UUID) : ConflictRow where
  conflictId := conflictId
  leftMemoryId := (UUID.sortedPair first second).1
  rightMemoryId := (UUID.sortedPair first second).2
  createdAt := datetimeToText createdAt
  reason := conflictReason
  resolvedAt := resolvedAt.map datetimeToText
  resolutionMemoryId := resolutionMemoryId

/-- `_insert_conflict`; `conflictId` is the value `uuid4()` returns. -/
def insertConflict (conflictId first second : UUID) (createdAt : Civil)
    (resolvedAt : Option Civil) (resolutionMemoryId : Option UUID) : StoreM Unit := do
  Transaction.lift (require (first ≠ second)
    (invalidData (py "a memory cannot conflict with itself")))
  let row := conflictRow conflictId first second createdAt resolvedAt resolutionMemoryId
  let store ← get
  Transaction.lift (require (row.Admissible store) integrityError)
  set { store with conflicts := store.conflicts ++ [row] }

/-- The loop of `_create_unresolved_conflicts` over the selected rows; `uuids` are the
values successive `uuid4()` calls return. -/
def createConflictsFor (record : MemoryRecord) (valueJson : PyStr) :
    List MemoryRow → (Nat → UUID) → StoreM Unit
  | [], _ => pure ()
  | row :: rows, uuids =>
    if row.valueJson ≠ valueJson then do
      insertConflict (uuids 0) row.memoryId record.memoryId record.createdAt.civil none none
      createConflictsFor record valueJson rows fun n => uuids (n + 1)
    else createConflictsFor record valueJson rows uuids

/-- The rows that `_create_unresolved_conflicts` compares with a record. -/
def rivalRows (record : MemoryRecord) (memories : List MemoryRow) : List MemoryRow :=
  (memories.filter fun row =>
    row.memoryType = record.memoryType ∧ row.subject = record.subject ∧
      row.predicate = record.predicate ∧ row.status = .active ∧
      row.memoryId ≠ record.memoryId).insertionSort MemoryRow.Before

/-- `_create_unresolved_conflicts`. -/
def createUnresolvedConflicts (record : MemoryRecord) (uuids : Nat → UUID) : StoreM Unit := do
  let valueJson ← Transaction.lift (canonicalJson record.value)
  let store ← get
  createConflictsFor record valueJson (rivalRows record store.memories) uuids

/-- The conflict rows `_resolve_conflicts` updates. -/
def ConflictRow.OpenOver (row : ConflictRow) (memoryId : UUID) : Prop :=
  row.resolvedAt = none ∧ (row.leftMemoryId = memoryId ∨ row.rightMemoryId = memoryId)

instance (row : ConflictRow) (memoryId : UUID) : Decidable (row.OpenOver memoryId) :=
  inferInstanceAs (Decidable (row.resolvedAt = none ∧
    (row.leftMemoryId = memoryId ∨ row.rightMemoryId = memoryId)))

/-- A resolved copy of a conflict row. -/
def ConflictRow.resolve (row : ConflictRow) (memoryId : UUID) (resolvedAt : Civil)
    (resolutionMemoryId : Option UUID) : ConflictRow :=
  if row.OpenOver memoryId then
    { row with
      resolvedAt := some (datetimeToText resolvedAt)
      resolutionMemoryId := resolutionMemoryId }
  else row

/-- `_resolve_conflicts`. -/
def resolveConflicts (memoryId : UUID) (resolvedAt : Civil) (resolutionMemoryId : Option UUID) :
    StoreM Unit := do
  let store ← get
  Transaction.lift (require
    ((∃ row ∈ store.conflicts, row.OpenOver memoryId) →
      ∀ id ∈ resolutionMemoryId, Stored store.memories id) integrityError)
  set { store with
    conflicts := store.conflicts.map fun row : ConflictRow =>
      row.resolve memoryId resolvedAt resolutionMemoryId }

/-- A row with a new status. -/
def MemoryRow.withStatus (row : MemoryRow) (status : MemoryStatus) (changedAt : Civil)
    (reason : Option PyStr) : MemoryRow :=
  { row with
    status := status
    statusChangedAt := datetimeToText changedAt
    statusReason := reason }

/-- The row an update of one memory's status leaves. -/
def MemoryRow.mark (row : MemoryRow) (memoryId : UUID) (status : MemoryStatus) (changedAt : Civil)
    (reason : Option PyStr) : MemoryRow :=
  if row.memoryId = memoryId ∧ row.status = .active then row.withStatus status changedAt reason
  else row

/-- `UPDATE memories SET status ... WHERE memory_id = ? AND status = 'active'`. The result
is the number of updated rows. -/
def updateStatus (memoryId : UUID) (status : MemoryStatus) (changedAt : Civil)
    (reason : Option PyStr) : StoreM Nat := do
  Transaction.lift (bindTexts reason.toList)
  let store ← get
  let updated := store.memories.map fun row => row.mark memoryId status changedAt reason
  Transaction.lift (require (∀ row ∈ updated, row.checks = true) integrityError)
  set { store with memories := updated }
  pure (store.memories.countP fun row => row.memoryId = memoryId ∧ row.status = .active)

/-- `except sqlite3.IntegrityError as error: raise PersistenceConflictError(...)`. -/
def asPersistenceConflict (message : PyStr) (error : MemoryError) : MemoryError :=
  if error.kind = .integrity then ⟨.persistenceConflict, message⟩ else error

/-- `add_memory`. -/
def addMemory (record : MemoryRecord) (uuids : Nat → UUID) : StoreM MemoryRecord := do
  Transaction.lift (require (record.status = .active ∧ record.supersedes = none)
    (invalidData (py "new evidence must be an active, initial memory")))
  Transaction.mapError (asPersistenceConflict (py "memory could not be persisted")) do
    insertMemory record
    createUnresolvedConflicts record uuids
  pure record

/-- The transaction body of `correct_memory`. -/
def correctMemoryBody (targetId : UUID) (replacement : MemoryRecord) (uuids : Nat → UUID) :
    StoreM Unit := do
  let target ← requireMemory targetId
  Transaction.lift (require (target.status ≠ .retracted)
    ⟨.alreadyRetracted, memoryMessage targetId (py " is retracted")⟩)
  Transaction.lift (require (target.status = .active)
    ⟨.invalidCorrectionTarget, memoryMessage targetId (py " is already superseded")⟩)
  Transaction.lift (require (target.createdAt.civil ≤ replacement.createdAt.civil)
    (invalidData (py "correction timestamp cannot precede the target memory")))
  Transaction.lift (require (replacement.key = target.key)
    ⟨.invalidCorrectionTarget,
      py "a correction must preserve memory type, subject, and predicate"⟩)
  let rowcount ← updateStatus targetId .superseded replacement.createdAt.civil
    replacement.revisionReason
  Transaction.lift (require (rowcount = 1)
    ⟨.invalidCorrectionTarget, memoryMessage targetId (py " is no longer active")⟩)
  insertMemory replacement
  resolveConflicts targetId replacement.createdAt.civil (some replacement.memoryId)
  let targetJson ← Transaction.lift (canonicalJson target.value)
  let replacementJson ← Transaction.lift (canonicalJson replacement.value)
  if targetJson ≠ replacementJson then do
    insertConflict (uuids 0) target.memoryId replacement.memoryId replacement.createdAt.civil
      (some replacement.createdAt.civil) (some replacement.memoryId)
    createUnresolvedConflicts replacement fun n => uuids (n + 1)
  else createUnresolvedConflicts replacement uuids

/-- `correct_memory`. -/
def correctMemory (targetId : UUID) (replacement : MemoryRecord) (uuids : Nat → UUID) :
    StoreM MemoryRecord := do
  Transaction.lift (require (replacement.status = .active)
    (invalidData (py "a correction replacement must be active")))
  Transaction.lift (require (replacement.supersedes = some targetId)
    (invalidData (py "replacement must link to its correction target")))
  Transaction.mapError (asPersistenceConflict (py "correction could not be persisted"))
    (correctMemoryBody targetId replacement uuids)
  pure replacement

/-- `retract_memory`. -/
def retractMemory (memoryId : UUID) (reason : PyStr) (retractedAt : PyDatetime) :
    StoreM MemoryRecord := do
  Transaction.lift (validateNonemptyText (some reason) (py "retraction reason"))
  Transaction.lift (validateUtcDatetime retractedAt (py "retracted_at"))
  let record ← requireMemory memoryId
  Transaction.lift (require (record.status ≠ .retracted)
    ⟨.alreadyRetracted, memoryMessage memoryId (py " is already retracted")⟩)
  Transaction.lift (require (record.status = .active)
    ⟨.invalidRetractionTarget, memoryMessage memoryId (py " is already superseded")⟩)
  Transaction.lift (require (record.createdAt.civil ≤ retractedAt.civil)
    (invalidData (py "retraction timestamp cannot precede the target memory")))
  let rowcount ← updateStatus memoryId .retracted retractedAt.civil (some reason)
  Transaction.lift (require (rowcount = 1)
    ⟨.invalidRetractionTarget, memoryMessage memoryId (py " is no longer active")⟩)
  resolveConflicts memoryId retractedAt.civil none
  requireMemory memoryId

end Memory
end AyyoHumanoid
