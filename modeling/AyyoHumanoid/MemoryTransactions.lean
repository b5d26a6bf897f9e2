import AyyoHumanoid.MemoryStore

/-!
# What each store statement does

One lemma for each statement and operation of the store: when it commits, and
the state it leaves. Rows written from a record read back as a record that
would be written the same way.
-/

namespace AyyoHumanoid
namespace Memory

open PyText JsonText IsoText Transaction

/-- Canonical text exists exactly for printable values. -/
theorem canonicalJson_ok {value : Json} {text : PyStr} :
    canonicalJson value = .ok text ↔ value.dumpable = true ∧ encode value = text := by
  unfold canonicalJson
  split <;> simp_all

/-- A stored canonical text reads as its value with sorted keys. -/
theorem parseJson_encode {value : Json} (h : value.dumpable = true) :
    parseJson (encode value) = .ok value.sortKeys := by
  rw [parseJson, loads_encode FloatToken.read_text h]

/-- A parsed column is what the decoder returns. -/
theorem parseJson_ok {text : PyStr} {value : Json} :
    parseJson text = .ok value ↔ loads FloatToken.read text = some value := by
  unfold parseJson
  cases loads FloatToken.read text <;> simp

/-- The entries of a dictionary with sorted keys. -/
def sortedEntries (entries : List (PyStr × Json)) : List (PyStr × Json) :=
  sortByKey (Json.sortKeysEntries entries)

/-- A stored dictionary reads as its entries with sorted keys. -/
theorem parseMapping_encode (error : MemoryError) {entries : List (PyStr × Json)}
    (h : (Json.obj entries).dumpable = true) :
    parseMapping error (encode (.obj entries)) = .ok (sortedEntries entries) := by
  rw [parseMapping, parseJson_encode h]
  rfl

/-- A stored timestamp reads as the UTC instant it was written from. -/
theorem parseDatetime_toText (t : Civil) :
    parseDatetime (datetimeToText t) = .ok (PyDatetime.utc t) := by
  rw [parseDatetime, datetimeFromText_toText]

/-- A datetime with zero offset is the UTC datetime of its fields. -/
theorem PyDatetime.eq_utc {t : PyDatetime} (h : t.utcoffset = some 0) : PyDatetime.utc t.civil = t := by
  cases t
  cases h
  rfl

/-- A finite confidence is stored as itself. -/
theorem PyNumber.finite_toRat {number : PyNumber} (h : number.InUnit) :
    PyNumber.finite number.toRat = number := by
  cases number with
  | finite value => rfl
  | nonFinite => exact h.elim

/-- The columns a record is bound to. -/
theorem recordRow_ok {record : MemoryRecord} {row : MemoryRow} :
    recordRow record = .ok row ↔
      record.value.dumpable = true ∧ (Json.obj record.provenance.details).dumpable = true ∧
        (Json.obj record.metadata).dumpable = true ∧
        row = {
          memoryId := record.memoryId
          memoryType := record.memoryType
          subject := record.subject
          predicate := record.predicate
          valueJson := encode record.value
          provenanceType := record.provenance.provenanceType
          provenanceSourceId := record.provenance.sourceId
          provenanceDetailsJson := encode (.obj record.provenance.details)
          confidence := record.confidence.toRat
          observedAt := datetimeToText record.observedAt.civil
          createdAt := datetimeToText record.createdAt.civil
          status := record.status
          statusChangedAt := datetimeToText record.statusChangedAt.civil
          supersedesId := record.supersedes
          revisionReason := record.revisionReason
          statusReason := record.statusReason
          metadataJson := encode (.obj record.metadata) } := by
  simp only [recordRow, Checks.bind_ok, canonicalJson_ok, Checks.pure_ok]
  constructor
  · rintro ⟨_, ⟨hvalue, rfl⟩, _, ⟨hdetails, rfl⟩, _, ⟨hmetadata, rfl⟩, rfl⟩
    exact ⟨hvalue, hdetails, hmetadata, rfl⟩
  · rintro ⟨hvalue, hdetails, hmetadata, rfl⟩
    exact ⟨_, ⟨hvalue, rfl⟩, _, ⟨hdetails, rfl⟩, _, ⟨hmetadata, rfl⟩, rfl⟩

/-- The fields that a record read from a row takes over from it. -/
structure RowRead (row : MemoryRow) (record : MemoryRecord) : Prop where
  /-- The identifier. -/
  memoryId : record.memoryId = row.memoryId
  memoryType : record.memoryType = row.memoryType
  subject : record.subject = row.subject
  predicate : record.predicate = row.predicate
  value : loads FloatToken.read row.valueJson = some record.value
  /-- The creation time. -/
  createdAt : datetimeFromText row.createdAt = some record.createdAt.civil
  status : record.status = row.status
  /-- The superseded memory. -/
  supersedes : record.supersedes = row.supersedesId
  revisionReason : record.revisionReason = row.revisionReason
  statusReason : record.statusReason = row.statusReason

/-- A parsed timestamp has the fields of its text. -/
theorem parseDatetime_ok {text : PyStr} {t : PyDatetime} (h : parseDatetime text = .ok t) :
    datetimeFromText text = some t.civil := by
  unfold parseDatetime at h
  cases hread : datetimeFromText text with
  | none => simp [hread] at h
  | some civil =>
    simp only [hread, Except.ok.injEq] at h
    rw [← h]
    rfl

/-- A record read from a row has the row's fields. -/
theorem memoryFromRow_ok {row : MemoryRow} {record : MemoryRecord}
    (h : memoryFromRow row = .ok record) : RowRead row record := by
  simp only [memoryFromRow, Checks.bind_ok, MemoryRecord.construct_ok, parseJson_ok] at h
  obtain ⟨value, hvalue, details, -, provenance, -, observedAt, -, createdAt, hcreated,
    statusChangedAt, -, metadata, -, hfields⟩ := h
  have hcivil := parseDatetime_ok hcreated
  constructor <;> simp only [hfields]
  · exact hvalue
  · exact hcivil

/-- A row that reads back as a record that would be written as the same row. -/
structure Rehydrates (row : MemoryRow) (record : MemoryRecord) : Prop where
  read : memoryFromRow row = .ok record
  /-- The record is written as the row. -/
  write : recordRow record = .ok row

/-- A row that some record was written as. -/
def MemoryRow.WellFormed (row : MemoryRow) : Prop :=
  ∃ record, recordRow record = .ok row

/-- A provenance with the keys of its details sorted. -/
def Provenance.sortDetails (provenance : Provenance) : Provenance where
  provenanceType := provenance.provenanceType
  sourceId := provenance.sourceId
  details := sortedEntries provenance.details
  checked := provenance.checked

/-- A record with the keys of its dictionaries sorted, as it comes back from the store. -/
def RecordFields.normalizeKeys (f : RecordFields) : RecordFields :=
  { f with
    value := f.value.sortKeys
    provenance := f.provenance.sortDetails
    metadata := sortedEntries f.metadata }

/-- A stored record as it reads back. -/
def MemoryRecord.normalizeKeys (record : MemoryRecord) : MemoryRecord where
  toRecordFields := record.toRecordFields.normalizeKeys
  checked := record.checked

/-- A written record reads back with sorted keys and no other change. -/
theorem memoryFromRow_recordRow {record : MemoryRecord} {row : MemoryRow}
    (h : recordRow record = .ok row) : memoryFromRow row = .ok record.normalizeKeys := by
  obtain ⟨hvalue, hdetails, hmetadata, rfl⟩ := recordRow_ok.mp h
  have hvalid := record.valid
  have hprovenance : Provenance.construct record.provenance.provenanceType
      record.provenance.sourceId (sortedEntries record.provenance.details) =
        .ok record.provenance.sortDetails :=
    Provenance.construct_ok.mpr ⟨rfl, rfl, rfl⟩
  simp only [memoryFromRow, parseJson_encode hvalue, parseMapping_encode _ hdetails,
    parseMapping_encode _ hmetadata, parseDatetime_toText, Checks.bind_ok,
    PyDatetime.eq_utc hvalid.observedUtc, PyDatetime.eq_utc hvalid.createdUtc,
    PyDatetime.eq_utc hvalid.statusChangedUtc, PyNumber.finite_toRat hvalid.confidence,
    MemoryRecord.construct_ok]
  exact ⟨_, rfl, _, rfl, _, hprovenance, _, rfl, _, rfl, _, rfl, _, rfl, rfl⟩

/-- A record that came back from the store is written the same way again. -/
theorem recordRow_normalizeKeys {record : MemoryRecord} {row : MemoryRow}
    (h : recordRow record = .ok row) : recordRow record.normalizeKeys = .ok row := by
  obtain ⟨hvalue, hdetails, hmetadata, rfl⟩ := recordRow_ok.mp h
  have hdetailsText := encode_sortKeys (.obj record.provenance.details)
  have hmetadataText := encode_sortKeys (.obj record.metadata)
  refine recordRow_ok.mpr ⟨dumpable_sortKeys hvalue, dumpable_sortKeys hdetails,
    dumpable_sortKeys hmetadata, ?_⟩
  simp only [MemoryRecord.normalizeKeys, RecordFields.normalizeKeys, Provenance.sortDetails,
    encode_sortKeys]
  rw [sortedEntries, sortedEntries, ← Json.sortKeys, ← Json.sortKeys, hdetailsText, hmetadataText]

/-- A well-formed row reads back. -/
theorem MemoryRow.WellFormed.rehydrates {row : MemoryRow} (h : row.WellFormed) :
    ∃ record, Rehydrates row record := by
  obtain ⟨record, hrecord⟩ := h
  exact ⟨_, memoryFromRow_recordRow hrecord, recordRow_normalizeKeys hrecord⟩

/-- The record a well-formed row reads as is written as the row. -/
theorem MemoryRow.WellFormed.write {row : MemoryRow} (h : row.WellFormed) {record : MemoryRecord}
    (hread : memoryFromRow row = .ok record) : recordRow record = .ok row := by
  obtain ⟨other, hother, hwrite⟩ := h.rehydrates
  rw [hread] at hother
  cases hother
  exact hwrite

/-- A row with a later inactive status stays well formed. -/
theorem MemoryRow.WellFormed.withStatus {row : MemoryRow} {record : MemoryRecord}
    (hrow : row.WellFormed) (hread : memoryFromRow row = .ok record) {status : MemoryStatus}
    {changedAt : Civil} {reason : PyStr} (hstatus : status ≠ .active)
    (htime : record.createdAt.civil ≤ changedAt) (hreason : NonemptyText reason) :
    (row.withStatus status changedAt (some reason)).WellFormed := by
  have hvalid := record.valid
  have hchecked : RecordFields.Valid { record.toRecordFields with
      status := status
      statusChangedAt := PyDatetime.utc changedAt
      statusReason := some reason } :=
    { hvalid with
      statusChangedUtc := rfl
      statusChanged := htime
      activeReason := fun h => absurd h hstatus
      statusReason := fun _ => ⟨reason, rfl, hreason⟩ }
  obtain ⟨hvalue, hdetails, hmetadata, hrow⟩ := recordRow_ok.mp (hrow.write hread)
  refine ⟨⟨_, (RecordFields.postInit_ok _).mpr hchecked⟩,
    recordRow_ok.mpr ⟨hvalue, hdetails, hmetadata, ?_⟩⟩
  rw [hrow]
  rfl

/-- A found row is stored under the identifier. -/
theorem rowFor_some {memories : List MemoryRow} {memoryId : UUID} {row : MemoryRow}
    (h : rowFor memories memoryId = some row) : row ∈ memories ∧ row.memoryId = memoryId := by
  refine ⟨List.mem_of_find?_eq_some h, ?_⟩
  simpa using List.find?_some h

/-- No row is found only when none is stored. -/
theorem rowFor_none {memories : List MemoryRow} {memoryId : UUID} :
    rowFor memories memoryId = none ↔ ¬Stored memories memoryId := by
  simp [rowFor, Stored]

/-- With unique identifiers, a stored row is the one found. -/
theorem rowFor_of_mem {memories : List MemoryRow} (hunique : (memories.map (·.memoryId)).Nodup)
    {row : MemoryRow} (hrow : row ∈ memories) : rowFor memories row.memoryId = some row := by
  induction memories with
  | nil => cases hrow
  | cons first memories ih =>
    rw [List.map_cons, List.nodup_cons] at hunique
    rcases List.mem_cons.mp hrow with rfl | hrow
    · simp [rowFor]
    · have hne : first.memoryId ≠ row.memoryId := by
        intro heq
        exact hunique.1 (heq ▸ List.mem_map_of_mem hrow)
      simp only [rowFor, List.find?_cons, hne, decide_false]
      exact ih hunique.2 hrow

/-- A demanded memory is one that is stored and reads back. -/
theorem demandMemory_ok {memories : List MemoryRow} {memoryId : UUID} {record : MemoryRecord} :
    demandMemory memories memoryId = .ok record ↔
      ∃ row, rowFor memories memoryId = some row ∧ memoryFromRow row = .ok record := by
  unfold demandMemory readMemory
  cases hfind : rowFor memories memoryId with
  | none => simp
  | some row =>
    cases hrecord : memoryFromRow row with
    | error e => simp [Except.map, hrecord]
    | ok found => simp [Except.map, hrecord]

section Statements

variable {s s' : MemoryStore}

/-- A required memory is one that is stored and reads back. -/
theorem requireMemory_ok {memoryId : UUID} {record : MemoryRecord} :
    (requireMemory memoryId).run s = .ok (record, s') ↔ s = s' ∧
      ∃ row, rowFor s.memories memoryId = some row ∧ memoryFromRow row = .ok record := by
  simp only [requireMemory, run_bind_ok, run_get_ok, run_lift_ok, demandMemory_ok]
  constructor
  · rintro ⟨_, _, ⟨rfl, rfl⟩, hrecord, rfl⟩
    exact ⟨rfl, hrecord⟩
  · rintro ⟨rfl, hrecord⟩
    exact ⟨s, s, ⟨rfl, rfl⟩, hrecord, rfl⟩

/-- An inserted memory is written as one new row. -/
theorem insertMemory_ok {record : MemoryRecord} {u : Unit} :
    (insertMemory record).run s = .ok (u, s') ↔ ∃ row, recordRow record = .ok row ∧
      bindTexts row.texts = .ok () ∧ row.Admissible s.memories ∧
        s' = { s with memories := s.memories ++ [row] } := by
  simp only [insertMemory, run_bind_ok, run_lift_ok, run_get_ok, run_set_ok, Checks.require_ok]
  constructor
  · rintro ⟨row, _, ⟨hrow, rfl⟩, _, _, ⟨htexts, rfl⟩, _, _, ⟨rfl, rfl⟩, _, _, ⟨hok, rfl⟩, rfl⟩
    exact ⟨row, hrow, htexts, hok, rfl⟩
  · rintro ⟨row, hrow, htexts, hok, rfl⟩
    exact ⟨row, s, ⟨hrow, rfl⟩, (), s, ⟨htexts, rfl⟩, s, s, ⟨rfl, rfl⟩, (), s, ⟨hok, rfl⟩, rfl⟩

/-- An inserted conflict is one new row over two different memories. -/
theorem insertConflict_ok {conflictId first second : UUID} {createdAt : Civil}
    {resolvedAt : Option Civil} {resolutionMemoryId : Option UUID} {u : Unit} :
    (insertConflict conflictId first second createdAt resolvedAt resolutionMemoryId).run s =
        .ok (u, s') ↔ first ≠ second ∧
      (conflictRow conflictId first second createdAt resolvedAt resolutionMemoryId).Admissible s ∧
        s' = { s with conflicts := s.conflicts ++
          [conflictRow conflictId first second createdAt resolvedAt resolutionMemoryId] } := by
  simp only [insertConflict, run_bind_ok, run_lift_ok, run_get_ok, run_set_ok, Checks.require_ok]
  constructor
  · rintro ⟨_, _, ⟨hne, rfl⟩, _, _, ⟨rfl, rfl⟩, _, _, ⟨hok, rfl⟩, rfl⟩
    exact ⟨hne, hok, rfl⟩
  · rintro ⟨hne, hok, rfl⟩
    exact ⟨(), s, ⟨hne, rfl⟩, s, s, ⟨rfl, rfl⟩, (), s, ⟨hok, rfl⟩, rfl⟩

/-- Resolving closes every open conflict of one memory. -/
theorem resolveConflicts_ok {memoryId : UUID} {resolvedAt : Civil}
    {resolutionMemoryId : Option UUID} {u : Unit} :
    (resolveConflicts memoryId resolvedAt resolutionMemoryId).run s = .ok (u, s') ↔
      ((∃ row ∈ s.conflicts, row.OpenOver memoryId) →
        ∀ id ∈ resolutionMemoryId, Stored s.memories id) ∧
      s' = { s with
        conflicts := s.conflicts.map fun row : ConflictRow =>
          row.resolve memoryId resolvedAt resolutionMemoryId } := by
  simp only [resolveConflicts, run_bind_ok, run_lift_ok, run_get_ok, run_set_ok,
    Checks.require_ok]
  constructor
  · rintro ⟨_, _, ⟨rfl, rfl⟩, _, _, ⟨hok, rfl⟩, rfl⟩
    exact ⟨hok, rfl⟩
  · rintro ⟨hok, rfl⟩
    exact ⟨s, s, ⟨rfl, rfl⟩, (), s, ⟨hok, rfl⟩, rfl⟩

/-- A status update marks the active row of one memory. -/
theorem updateStatus_ok {memoryId : UUID} {status : MemoryStatus} {changedAt : Civil}
    {reason : Option PyStr} {count : Nat} :
    (updateStatus memoryId status changedAt reason).run s = .ok (count, s') ↔
      bindTexts reason.toList = .ok () ∧
      (∀ row ∈ s.memories, (row.mark memoryId status changedAt reason).checks = true) ∧
      s' = { s with
        memories := s.memories.map fun row => row.mark memoryId status changedAt reason } ∧
      count = s.memories.countP fun row => row.memoryId = memoryId ∧ row.status = .active := by
  simp only [updateStatus, run_bind_ok, run_lift_ok, run_get_ok, run_set_ok, run_pure_ok,
    Checks.require_ok, List.forall_mem_map]
  constructor
  · rintro ⟨_, _, ⟨hbind, rfl⟩, _, _, ⟨rfl, rfl⟩, _, _, ⟨hok, rfl⟩, _, _, rfl, rfl, rfl⟩
    exact ⟨hbind, hok, rfl, rfl⟩
  · rintro ⟨hbind, hok, rfl, rfl⟩
    exact ⟨(), s, ⟨hbind, rfl⟩, s, s, ⟨rfl, rfl⟩, (), s, ⟨hok, rfl⟩, ⟨⟩, _, rfl, rfl, rfl⟩

end Statements

/-- The conflict rows that `_create_unresolved_conflicts` adds for the selected rows. -/
def newConflicts (record : MemoryRecord) (valueJson : PyStr) :
    List MemoryRow → (Nat → UUID) → List ConflictRow
  | [], _ => []
  | row :: rows, uuids =>
    if row.valueJson ≠ valueJson then
      conflictRow (uuids 0) row.memoryId record.memoryId record.createdAt.civil none none ::
        newConflicts record valueJson rows fun n => uuids (n + 1)
    else newConflicts record valueJson rows uuids

/-- Every new conflict pairs the record with a selected row of another value. -/
theorem mem_newConflicts {record : MemoryRecord} {valueJson : PyStr} {rows : List MemoryRow}
    {uuids : Nat → UUID} {conflict : ConflictRow}
    (h : conflict ∈ newConflicts record valueJson rows uuids) :
    ∃ row ∈ rows, row.valueJson ≠ valueJson ∧ ∃ conflictId,
      conflict = conflictRow conflictId row.memoryId record.memoryId record.createdAt.civil
        none none := by
  induction rows generalizing uuids with
  | nil => cases h
  | cons row rows ih =>
    simp only [newConflicts] at h
    split at h
    · next hne =>
      rcases List.mem_cons.mp h with rfl | h
      · exact ⟨row, by simp, hne, _, rfl⟩
      · obtain ⟨other, hother, hrest⟩ := ih h
        exact ⟨other, by simp [hother], hrest⟩
    · obtain ⟨other, hother, hrest⟩ := ih h
      exact ⟨other, by simp [hother], hrest⟩

/-- Every selected row of another value gets a new conflict. -/
theorem exists_newConflict {record : MemoryRecord} {valueJson : PyStr} {rows : List MemoryRow}
    {row : MemoryRow} (hrow : row ∈ rows) (hne : row.valueJson ≠ valueJson)
    (uuids : Nat → UUID) :
    ∃ conflictId, conflictRow conflictId row.memoryId record.memoryId record.createdAt.civil
      none none ∈ newConflicts record valueJson rows uuids := by
  induction rows generalizing uuids with
  | nil => cases hrow
  | cons first rows ih =>
    simp only [newConflicts]
    rcases List.mem_cons.mp hrow with rfl | hrow
    · rw [if_pos hne]
      exact ⟨uuids 0, by simp⟩
    · split
      · obtain ⟨conflictId, hmem⟩ := ih hrow fun n => uuids (n + 1)
        exact ⟨conflictId, by simp [hmem]⟩
      · exact ih hrow uuids

/-- The selected rows are the other active rows of the record's key. -/
theorem mem_rivalRows {record : MemoryRecord} {memories : List MemoryRow} {row : MemoryRow} :
    row ∈ rivalRows record memories ↔ row ∈ memories ∧ row.memoryType = record.memoryType ∧
      row.subject = record.subject ∧ row.predicate = record.predicate ∧ row.status = .active ∧
        row.memoryId ≠ record.memoryId := by
  simp [rivalRows, (List.perm_insertionSort _ _).mem_iff]

/-- The constraints that hold of the conflict table at any time. -/
structure ConflictTable (s : MemoryStore) : Prop where
  /-- Primary keys are unique. -/
  ids : (s.conflicts.map (·.conflictId)).Nodup
  /-- Pairs are unique. -/
  pairs : (s.conflicts.map fun row => (row.leftMemoryId, row.rightMemoryId)).Nodup
  /-- Pairs are sorted. -/
  ordered : ∀ row ∈ s.conflicts, row.leftMemoryId < row.rightMemoryId
  /-- Both memories are stored. -/
  stored : ∀ row ∈ s.conflicts, Stored s.memories row.leftMemoryId ∧
    Stored s.memories row.rightMemoryId

/-- Appending an admissible row keeps the table's constraints. -/
theorem ConflictTable.append {s : MemoryStore} (h : ConflictTable s) {row : ConflictRow}
    (hrow : row.Admissible s) :
    ConflictTable { s with conflicts := s.conflicts ++ [row] } where
  ids := by
    rw [List.map_append, List.nodup_append]
    refine ⟨h.ids, by simp, ?_⟩
    intro id hid other hother heq
    obtain ⟨existing, hexisting, rfl⟩ := List.mem_map.mp hid
    simp only [List.map_cons, List.map_nil, List.mem_singleton] at hother
    exact hrow.primaryKey existing hexisting (heq.trans hother)
  pairs := by
    rw [List.map_append, List.nodup_append]
    refine ⟨h.pairs, by simp, ?_⟩
    intro pair hpair other hother heq
    obtain ⟨existing, hexisting, rfl⟩ := List.mem_map.mp hpair
    simp only [List.map_cons, List.map_nil, List.mem_singleton] at hother
    exact hrow.uniquePair existing hexisting (Prod.mk.inj (heq.trans hother))
  ordered := by
    intro other hother
    rcases List.mem_append.mp hother with hother | hother
    · exact h.ordered other hother
    · rw [List.mem_singleton.mp hother]
      exact hrow.ordered
  stored := by
    intro other hother
    rcases List.mem_append.mp hother with hother | hother
    · exact h.stored other hother
    · rw [List.mem_singleton.mp hother]
      exact ⟨hrow.left, hrow.right⟩

/-- The table's constraints only need the stored identifiers to stay. -/
theorem ConflictTable.mono {s : MemoryStore} (h : ConflictTable s) {memories : List MemoryRow}
    (hstored : ∀ id, Stored s.memories id → Stored memories id) :
    ConflictTable { s with memories := memories } where
  ids := h.ids
  pairs := h.pairs
  ordered := h.ordered
  stored := fun row hrow => ⟨hstored _ (h.stored row hrow).1, hstored _ (h.stored row hrow).2⟩

/-- Resolving a conflict does not change what it is about. -/
@[simp] theorem ConflictRow.resolve_conflictId (row : ConflictRow) (memoryId : UUID)
    (resolvedAt : Civil) (resolution : Option UUID) :
    (row.resolve memoryId resolvedAt resolution).conflictId = row.conflictId := by
  unfold ConflictRow.resolve
  split <;> rfl

/-- Resolving a conflict keeps its left memory. -/
@[simp] theorem ConflictRow.resolve_left (row : ConflictRow) (memoryId : UUID)
    (resolvedAt : Civil) (resolution : Option UUID) :
    (row.resolve memoryId resolvedAt resolution).leftMemoryId = row.leftMemoryId := by
  unfold ConflictRow.resolve
  split <;> rfl

/-- Resolving a conflict keeps its right memory. -/
@[simp] theorem ConflictRow.resolve_right (row : ConflictRow) (memoryId : UUID)
    (resolvedAt : Civil) (resolution : Option UUID) :
    (row.resolve memoryId resolvedAt resolution).rightMemoryId = row.rightMemoryId := by
  unfold ConflictRow.resolve
  split <;> rfl

/-- A conflict stays unresolved exactly when it was and does not involve the memory. -/
theorem ConflictRow.resolve_resolvedAt_eq_none {row : ConflictRow} {memoryId : UUID}
    {resolvedAt : Civil} {resolution : Option UUID} :
    (row.resolve memoryId resolvedAt resolution).resolvedAt = none ↔
      row.resolvedAt = none ∧ row.leftMemoryId ≠ memoryId ∧ row.rightMemoryId ≠ memoryId := by
  unfold ConflictRow.resolve
  split
  · next h =>
    simp only [reduceCtorEq, false_iff]
    rintro ⟨-, hleft, hright⟩
    rcases h.2 with h | h
    · exact hleft h
    · exact hright h
  · next h =>
    constructor
    · intro hnone
      refine ⟨hnone, fun hleft => h ⟨hnone, Or.inl hleft⟩, fun hright => h ⟨hnone, Or.inr hright⟩⟩
    · exact fun hrow => hrow.1

/-- Resolving keeps the table's constraints. -/
theorem ConflictTable.resolve {s : MemoryStore} (h : ConflictTable s) (memoryId : UUID)
    (resolvedAt : Civil) (resolution : Option UUID) :
    ConflictTable { s with
      conflicts := s.conflicts.map fun row : ConflictRow =>
        row.resolve memoryId resolvedAt resolution } where
  ids := by
    simpa only [List.map_map, Function.comp_def, ConflictRow.resolve_conflictId] using h.ids
  pairs := by
    simpa only [List.map_map, Function.comp_def, ConflictRow.resolve_left,
      ConflictRow.resolve_right] using h.pairs
  ordered := by
    intro row hrow
    obtain ⟨old, hold, rfl⟩ := List.mem_map.mp hrow
    simpa using h.ordered old hold
  stored := by
    intro row hrow
    obtain ⟨old, hold, rfl⟩ := List.mem_map.mp hrow
    simpa using h.stored old hold

section Operations

variable {s s' : MemoryStore}

/-- Creating conflicts appends exactly the new rows. -/
theorem createConflictsFor_ok {record : MemoryRecord} {valueJson : PyStr} {rows : List MemoryRow}
    {uuids : Nat → UUID} {u : Unit}
    (h : (createConflictsFor record valueJson rows uuids).run s = .ok (u, s')) :
    s' = { s with conflicts := s.conflicts ++ newConflicts record valueJson rows uuids } ∧
      (ConflictTable s → ConflictTable s') := by
  induction rows generalizing s uuids with
  | nil =>
    simp only [createConflictsFor, run_pure_ok] at h
    obtain ⟨-, rfl⟩ := h
    simp [newConflicts]
  | cons row rows ih =>
    simp only [createConflictsFor] at h
    by_cases hne : row.valueJson ≠ valueJson
    · rw [if_pos hne, run_bind_ok] at h
      obtain ⟨_, middle, hinsert, hrest⟩ := h
      obtain ⟨-, hadmissible, rfl⟩ := insertConflict_ok.mp hinsert
      obtain ⟨rfl, htable⟩ := ih hrest
      refine ⟨?_, fun hs => htable (hs.append hadmissible)⟩
      simp [newConflicts, hne]
    · rw [if_neg hne] at h
      obtain ⟨rfl, htable⟩ := ih h
      refine ⟨?_, htable⟩
      simp [newConflicts, not_not.mp hne]

/-- Creating a record's conflicts appends exactly the rows for its rivals. -/
theorem createUnresolvedConflicts_ok {record : MemoryRecord} {uuids : Nat → UUID} {u : Unit}
    (h : (createUnresolvedConflicts record uuids).run s = .ok (u, s')) :
    record.value.dumpable = true ∧
      s' = { s with conflicts := s.conflicts ++
        newConflicts record (encode record.value) (rivalRows record s.memories) uuids } ∧
      (ConflictTable s → ConflictTable s') := by
  simp only [createUnresolvedConflicts, run_bind_ok, run_lift_ok, run_get_ok,
    canonicalJson_ok] at h
  obtain ⟨_, _, ⟨⟨hdump, rfl⟩, rfl⟩, _, _, ⟨rfl, rfl⟩, h⟩ := h
  exact ⟨hdump, createConflictsFor_ok h⟩

/-- What a committed `add_memory` did. -/
structure Added (record : MemoryRecord) (uuids : Nat → UUID) (s s' : MemoryStore)
    (row : MemoryRow) : Prop where
  /-- New evidence is active. -/
  active : record.status = .active
  /-- New evidence supersedes nothing. -/
  initial : record.supersedes = none
  /-- The row is the record's. -/
  written : recordRow record = .ok row
  /-- The row meets the table's constraints. -/
  admissible : row.Admissible s.memories
  /-- One row is added. -/
  memories : s'.memories = s.memories ++ [row]
  /-- The conflicts with rivals are added. -/
  conflicts : s'.conflicts = s.conflicts ++
    newConflicts record row.valueJson (rivalRows record s'.memories) uuids
  /-- The conflict table keeps its constraints. -/
  table : ConflictTable s → ConflictTable s'

/-- The value column of a written record. -/
theorem recordRow_valueJson {record : MemoryRecord} {row : MemoryRow}
    (h : recordRow record = .ok row) : row.valueJson = encode record.value := by
  obtain ⟨-, -, -, rfl⟩ := recordRow_ok.mp h
  rfl

/-- Appending rows keeps the stored identifiers. -/
theorem Stored.append {memories more : List MemoryRow} {id : UUID} (h : Stored memories id) :
    Stored (memories ++ more) id := by
  obtain ⟨row, hrow, hid⟩ := h
  exact ⟨row, List.mem_append_left _ hrow, hid⟩

/-- A committed `add_memory` inserts the record and its conflicts. -/
theorem addMemory_ok {record result : MemoryRecord} {uuids : Nat → UUID}
    (h : (addMemory record uuids).run s = .ok (result, s')) :
    result = record ∧ ∃ row, Added record uuids s s' row := by
  simp only [addMemory, run_bind_ok, run_lift_ok, run_mapError_ok, run_pure_ok,
    Checks.require_ok] at h
  obtain ⟨_, _, ⟨⟨hactive, hinitial⟩, rfl⟩, _, _, ⟨_, middle, hinsert, hcreate⟩, rfl, rfl⟩ := h
  obtain ⟨row, hrow, -, hadmissible, rfl⟩ := insertMemory_ok.mp hinsert
  obtain ⟨-, hstate, htable⟩ := createUnresolvedConflicts_ok hcreate
  refine ⟨rfl, row, ⟨hactive, hinitial, hrow, hadmissible, ?_, ?_, ?_⟩⟩
  · rw [hstate]
  · rw [hstate, recordRow_valueJson hrow]
  · exact fun hs => htable (hs.mono fun _ hid => hid.append)

/-- The memories after one status update. -/
def markRows (memories : List MemoryRow) (memoryId : UUID) (status : MemoryStatus)
    (changedAt : Civil) (reason : Option PyStr) : List MemoryRow :=
  memories.map fun row => row.mark memoryId status changedAt reason

/-- The conflicts after resolving those of one memory. -/
def resolveRows (conflicts : List ConflictRow) (memoryId : UUID) (resolvedAt : Civil)
    (resolution : Option UUID) : List ConflictRow :=
  conflicts.map fun row : ConflictRow => row.resolve memoryId resolvedAt resolution

/-- A status update keeps a row's identifier. -/
@[simp] theorem MemoryRow.mark_memoryId (row : MemoryRow) (memoryId : UUID)
    (status : MemoryStatus) (changedAt : Civil) (reason : Option PyStr) :
    (row.mark memoryId status changedAt reason).memoryId = row.memoryId := by
  unfold MemoryRow.mark
  split <;> rfl

/-- A status update keeps the stored identifiers. -/
theorem stored_markRows {memories : List MemoryRow} {memoryId id : UUID}
    {status : MemoryStatus} {changedAt : Civil} {reason : Option PyStr} :
    Stored (markRows memories memoryId status changedAt reason) id ↔ Stored memories id := by
  simp [Stored, markRows]

/-- The resolved conflict a correction records between its target and its replacement. -/
def correctionConflict (conflictId : UUID) (target replacement : MemoryRecord) : ConflictRow :=
  conflictRow conflictId target.memoryId replacement.memoryId replacement.createdAt.civil
    (some replacement.createdAt.civil) (some replacement.memoryId)

/-- What a committed `correct_memory` did. -/
structure Corrected (targetId : UUID) (replacement : MemoryRecord) (s s' : MemoryStore)
    (targetRow : MemoryRow) (target : MemoryRecord) (row : MemoryRow)
    (recorded added : List ConflictRow) : Prop where
  replacementActive : replacement.status = .active
  supersedes : replacement.supersedes = some targetId
  /-- The target is stored. -/
  found : rowFor s.memories targetId = some targetRow
  /-- The target reads back. -/
  read : memoryFromRow targetRow = .ok target
  targetActive : target.status = .active
  /-- The replacement is not older than the target. -/
  time : target.createdAt.civil ≤ replacement.createdAt.civil
  /-- The replacement keeps the target's key. -/
  key : replacement.key = target.key
  /-- The replacement's row. -/
  written : recordRow replacement = .ok row
  /-- The row meets the constraints of the updated table. -/
  admissible : row.Admissible (markRows s.memories targetId .superseded
    replacement.createdAt.civil replacement.revisionReason)
  /-- The target is superseded and the replacement is added. -/
  memories : s'.memories = markRows s.memories targetId .superseded
    replacement.createdAt.civil replacement.revisionReason ++ [row]
  /-- At most the conflict of target and replacement is recorded, as resolved. -/
  recordedShape : recorded = [] ∨
    ∃ conflictId, recorded = [correctionConflict conflictId target replacement]
  /-- The replacement's own conflicts. -/
  addedShape : ∃ uuids, added = newConflicts replacement row.valueJson
    (rivalRows replacement s'.memories) uuids
  /-- The target's conflicts are resolved and the others are added. -/
  conflicts : s'.conflicts = resolveRows s.conflicts targetId replacement.createdAt.civil
    (some replacement.memoryId) ++ recorded ++ added
  /-- The conflict table keeps its constraints. -/
  table : ConflictTable s → ConflictTable s'

/-- A committed `correct_memory` supersedes its target, inserts the replacement, resolves
the target's conflicts and creates the replacement's. -/
theorem correctMemory_ok {targetId : UUID} {replacement result : MemoryRecord}
    {uuids : Nat → UUID}
    (h : (correctMemory targetId replacement uuids).run s = .ok (result, s')) :
    result = replacement ∧ ∃ targetRow target row recorded added,
      Corrected targetId replacement s s' targetRow target row recorded added := by
  simp only [correctMemory, run_bind_ok, run_lift_ok, run_mapError_ok, run_pure_ok,
    Checks.require_ok] at h
  obtain ⟨_, _, ⟨hactive, rfl⟩, _, _, ⟨hsupersedes, rfl⟩, _, _, hbody, rfl, rfl⟩ := h
  simp only [correctMemoryBody, run_bind_ok, run_lift_ok, requireMemory_ok, Checks.require_ok,
    updateStatus_ok, canonicalJson_ok] at hbody
  obtain ⟨target, _, ⟨rfl, targetRow, hfound, hread⟩, _, _, ⟨-, rfl⟩, _, _, ⟨htargetActive, rfl⟩,
    _, _, ⟨htime, rfl⟩, _, _, ⟨hkey, rfl⟩, _, _, ⟨-, -, rfl, -⟩, _, _, ⟨-, rfl⟩,
    _, _, hinsert, _, _, hresolve, _, _, ⟨⟨-, rfl⟩, rfl⟩, _, _, ⟨⟨-, rfl⟩, rfl⟩, hrest⟩ := hbody
  obtain ⟨row, hrow, -, hadmissible, rfl⟩ := insertMemory_ok.mp hinsert
  obtain ⟨-, rfl⟩ := resolveConflicts_ok.mp hresolve
  have hstored : ∀ id, Stored s.memories id →
      Stored (markRows s.memories targetId .superseded replacement.createdAt.civil
        replacement.revisionReason ++ [row]) id := fun id hid =>
    (stored_markRows.mpr hid).append
  have htable : ConflictTable s → ConflictTable
      ⟨markRows s.memories targetId .superseded replacement.createdAt.civil
        replacement.revisionReason ++ [row],
        resolveRows s.conflicts targetId replacement.createdAt.civil
          (some replacement.memoryId)⟩ := fun hs => (hs.mono hstored).resolve _ _ _
  refine ⟨rfl, targetRow, target, row, ?_⟩
  split at hrest
  · -- The values differ: one resolved conflict is recorded before the others.
    simp only [run_bind_ok] at hrest
    obtain ⟨_, _, hconflict, hcreate⟩ := hrest
    obtain ⟨-, hconflictOk, rfl⟩ := insertConflict_ok.mp hconflict
    obtain ⟨-, hstate, hcreated⟩ := createUnresolvedConflicts_ok hcreate
    refine ⟨[correctionConflict (uuids 0) target replacement], _, hactive, hsupersedes, hfound,
      hread, htargetActive, htime, hkey, hrow, hadmissible, ?_, Or.inr ⟨_, rfl⟩,
      ⟨fun n => uuids (n + 1), rfl⟩, ?_, fun hs => hcreated ((htable hs).append hconflictOk)⟩
    · rw [hstate]
      rfl
    · rw [hstate, recordRow_valueJson hrow]
      rfl
  · obtain ⟨-, hstate, hcreated⟩ := createUnresolvedConflicts_ok hrest
    refine ⟨[], _, hactive, hsupersedes, hfound, hread, htargetActive, htime, hkey, hrow,
      hadmissible, ?_, Or.inl rfl, ⟨uuids, rfl⟩, ?_, fun hs => hcreated (htable hs)⟩
    · rw [hstate]
      rfl
    · rw [hstate, recordRow_valueJson hrow, List.append_nil]
      rfl

/-- What a committed `retract_memory` did. -/
structure Retracted (memoryId : UUID) (reason : PyStr) (retractedAt : Civil)
    (s s' : MemoryStore) (row : MemoryRow) (record : MemoryRecord) : Prop where
  reasonText : NonemptyText reason
  /-- The memory is stored. -/
  found : rowFor s.memories memoryId = some row
  /-- The memory reads back. -/
  read : memoryFromRow row = .ok record
  /-- The memory is active. -/
  active : record.status = .active
  /-- The retraction is not older than the memory. -/
  time : record.createdAt.civil ≤ retractedAt
  /-- The memory is marked. -/
  memories : s'.memories = markRows s.memories memoryId .retracted retractedAt (some reason)
  /-- The memory's conflicts are resolved. -/
  conflicts : s'.conflicts = resolveRows s.conflicts memoryId retractedAt none

/-- A committed `retract_memory` marks its memory, resolves its conflicts and returns the
marked record. -/
theorem retractMemory_ok {memoryId : UUID} {reason : PyStr} {retractedAt : PyDatetime}
    {result : MemoryRecord}
    (h : (retractMemory memoryId reason retractedAt).run s = .ok (result, s')) :
    retractedAt.utcoffset = some 0 ∧
      (∃ row, rowFor s'.memories memoryId = some row ∧ memoryFromRow row = .ok result) ∧
      ∃ row record, Retracted memoryId reason retractedAt.civil s s' row record := by
  simp only [retractMemory, run_bind_ok, run_lift_ok, requireMemory_ok, Checks.require_ok,
    updateStatus_ok, validateNonemptyText_ok, validateUtcDatetime_ok, Option.some.injEq,
    exists_eq_left'] at h
  obtain ⟨_, _, ⟨hreason, rfl⟩, _, _, ⟨hutc, rfl⟩, record, _, ⟨rfl, row, hfound, hread⟩,
    _, _, ⟨-, rfl⟩, _, _, ⟨hactive, rfl⟩, _, _, ⟨htime, rfl⟩, _, _, ⟨-, -, rfl, -⟩,
    _, _, ⟨-, rfl⟩, _, _, hresolve, rfl, hresult⟩ := h
  obtain ⟨-, rfl⟩ := resolveConflicts_ok.mp hresolve
  exact ⟨hutc, hresult, row, record, hreason, hfound, hread, hactive, htime, rfl, rfl⟩

end Operations

end Memory
end AyyoHumanoid
