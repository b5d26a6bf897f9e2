import AyyoHumanoid.MemoryReaders
import AyyoHumanoid.TextOrder

/-!
# Records through their rows

What a record is after it was written and read back, when it can be written at
all, and the order in which a query returns records. The store compares the
texts of instants and identifiers; the records come back in the order of the
instants and identifiers themselves.
-/

namespace AyyoHumanoid
namespace Memory

open PyText JsonText IsoText Transaction

/-- Records that are equal: every field agrees, where dictionaries are compared without
regard to the order of their keys. -/
def MemoryRecord.Same (left right : MemoryRecord) : Prop :=
  left.normalizeKeys = right.normalizeKeys

/-- What the tables ask of a new row beyond its own columns. -/
structure Room (record : MemoryRecord) (memories : List MemoryRow) : Prop where
  /-- The primary key is new. -/
  primaryKey : ∀ other ∈ memories, other.memoryId ≠ record.memoryId
  /-- No other row supersedes the same memory. -/
  uniqueSupersedes : ∀ id ∈ record.supersedes, ∀ other ∈ memories, other.supersedesId ≠ some id
  /-- The superseded memory exists. -/
  foreignKey : ∀ id ∈ record.supersedes, Stored memories id

/-- The record can be written, and what is then stored under its identifier reads back as an
equal record. -/
def WritesBack (s : MemoryStore) (record : MemoryRecord) : Prop :=
  ∃ s' row readBack, (insertMemory record).run s = .ok ((), s') ∧
    rowFor s'.memories record.memoryId = some row ∧ memoryFromRow row = .ok readBack ∧
      readBack.Same record

/-- A record whose columns SQLite accepts. -/
structure Storable (record : MemoryRecord) : Prop where
  /-- The value can be printed. -/
  value : record.value.dumpable = true
  /-- The provenance details can be printed. -/
  details : (Json.obj record.provenance.details).dumpable = true
  /-- The metadata can be printed. -/
  metadata : (Json.obj record.metadata).dumpable = true
  /-- The texts have a UTF-8 form. -/
  encodable : ∀ text ∈ [record.subject, record.predicate, encode record.value,
    record.provenance.sourceId, encode (.obj record.provenance.details)] ++
      record.revisionReason.toList ++ record.statusReason.toList ++
        [encode (.obj record.metadata)], utf8Encodable text = true
  /-- The revision reason has a character before any NUL. -/
  revisionReason : reasonCheck record.revisionReason = true
  /-- The status reason has a character before any NUL. -/
  statusReason : reasonCheck record.statusReason = true

/-- A record that came back from the store equals the record that was written. -/
theorem MemoryRecord.normalizeKeys_same {record : MemoryRecord} {row : MemoryRow}
    (h : recordRow record = .ok row) : record.normalizeKeys.Same record := by
  have hagain := memoryFromRow_recordRow (recordRow_normalizeKeys h)
  rw [memoryFromRow_recordRow h] at hagain
  exact (Except.ok.inj hagain).symm

section Insert

variable {record : MemoryRecord} {row : MemoryRow} {s : MemoryStore}

/-- The columns of a record meet the check constraints exactly when its reasons do. -/
theorem checks_recordRow (h : recordRow record = .ok row) : row.checks = true ↔
    reasonCheck record.revisionReason = true ∧ reasonCheck record.statusReason = true := by
  have hvalid := record.valid
  obtain ⟨-, -, -, rfl⟩ := recordRow_ok.mp h
  have hconfidence : 0 ≤ record.confidence.toRat ∧ record.confidence.toRat ≤ 1 := by
    have hunit := hvalid.confidence
    rw [← PyNumber.finite_toRat hunit] at hunit
    exact hunit
  simp only [MemoryRow.checks, hconfidence, decide_true, Bool.true_and, Bool.and_eq_true]
  refine and_congr ?_ ?_
  · cases hsupersedes : record.supersedes with
    | none => simp [hvalid.rootReason hsupersedes, reasonCheck]
    | some target => exact Iff.rfl
  · cases hstatus : record.status with
    | active => simp [hvalid.activeReason hstatus, reasonCheck]
    | superseded => exact Iff.rfl
    | retracted => exact Iff.rfl

/-- With room in the tables, a row is admissible exactly when its checks hold. -/
theorem Room.admissible_iff (hroom : Room record s.memories) (h : recordRow record = .ok row) :
    row.Admissible s.memories ↔ row.checks = true := by
  obtain ⟨-, -, -, hrow⟩ := recordRow_ok.mp h
  constructor
  · exact fun hadmissible => hadmissible.checks
  · intro hchecks
    refine ⟨?_, hchecks, ?_, ?_⟩ <;> simp only [hrow]
    · exact hroom.primaryKey
    · exact hroom.uniqueSupersedes
    · exact fun id hid => .inr (hroom.foreignKey id hid)

/-- With room in the tables, a record is inserted exactly when it is storable. -/
theorem insertMemory_iff (hroom : Room record s.memories) :
    (∃ s', (insertMemory record).run s = .ok ((), s')) ↔ Storable record := by
  constructor
  · intro ⟨s', hrun⟩
    obtain ⟨row, hrow, htexts, hadmissible, -⟩ := insertMemory_ok.mp hrun
    have hreasons := (checks_recordRow hrow).mp ((hroom.admissible_iff hrow).mp hadmissible)
    obtain ⟨hvalue, hdetails, hmetadata, hcolumns⟩ := recordRow_ok.mp hrow
    rw [bindTexts, Checks.require_ok, MemoryRow.texts, hcolumns] at htexts
    exact ⟨hvalue, hdetails, hmetadata, htexts, hreasons.1, hreasons.2⟩
  · intro h
    obtain ⟨row, hrow⟩ : ∃ row, recordRow record = .ok row :=
      ⟨_, recordRow_ok.mpr ⟨h.value, h.details, h.metadata, rfl⟩⟩
    obtain ⟨-, -, -, hcolumns⟩ := recordRow_ok.mp hrow
    have hchecks := (checks_recordRow hrow).mpr ⟨h.revisionReason, h.statusReason⟩
    have htexts : bindTexts row.texts = .ok () := by
      rw [bindTexts, Checks.require_ok, MemoryRow.texts, hcolumns]
      exact h.encodable
    exact ⟨_, insertMemory_ok.mpr ⟨_, hrow, htexts, (hroom.admissible_iff hrow).mpr hchecks, rfl⟩⟩

/-- An inserted record reads back as an equal record. -/
theorem readBack_of_insert {s' : MemoryStore} (hroom : Room record s.memories)
    (hrun : (insertMemory record).run s = .ok ((), s')) :
    ∃ row readBack, rowFor s'.memories record.memoryId = some row ∧
      memoryFromRow row = .ok readBack ∧ readBack.Same record := by
  obtain ⟨row, hrow, -, -, rfl⟩ := insertMemory_ok.mp hrun
  obtain ⟨-, -, -, hcolumns⟩ := recordRow_ok.mp hrow
  have hid : row.memoryId = record.memoryId := by rw [hcolumns]
  have hfound : rowFor (s.memories ++ [row]) record.memoryId = some row := by
    have hearlier : s.memories.find? (fun other => other.memoryId = record.memoryId) = none :=
      List.find?_eq_none.mpr fun other hother => by simpa using hroom.primaryKey other hother
    rw [rowFor, List.find?_append, hearlier, Option.none_or, List.find?_cons]
    simp [hid]
  exact ⟨row, _, hfound, memoryFromRow_recordRow hrow, MemoryRecord.normalizeKeys_same hrow⟩

/-- With room in the tables, a record comes back exactly when it is storable. -/
theorem writesBack_iff (hroom : Room record s.memories) :
    WritesBack s record ↔ Storable record := by
  rw [← insertMemory_iff hroom]
  constructor
  · intro h
    obtain ⟨s', row, readBack, hrun, -⟩ := h
    exact ⟨s', hrun⟩
  · intro ⟨s', hrun⟩
    obtain ⟨row, readBack, hread⟩ := readBack_of_insert hroom hrun
    exact ⟨s', row, readBack, hrun, hread⟩

/-- Some tables have room for a record. -/
theorem exists_room (record : MemoryRecord) : ∃ s : MemoryStore, Room record s.memories := by
  have hself := record.valid.notSelf
  cases hsupersedes : record.supersedes with
  | none => exact ⟨.empty, by simp [MemoryStore.empty], by simp [hsupersedes], by simp [hsupersedes]⟩
  | some target =>
    have hne : target ≠ record.memoryId := by
      intro heq
      exact hself (by rw [hsupersedes, heq])
    let parent : MemoryRow := ⟨target, .semantic, [], [], [], .systemEvent, [], [], 0, [], [],
      .superseded, [], none, none, none, []⟩
    refine ⟨⟨[parent], []⟩, ?_, ?_, ?_⟩
    · simpa [parent] using hne
    · simp [parent]
    · simp [hsupersedes, Stored, parent]

end Insert

/-- Strictly increasing creation time, then identifier. -/
def MemoryRecord.Before (left right : MemoryRecord) : Prop :=
  left.createdAt.civil < right.createdAt.civil ∨
    (left.createdAt.civil = right.createdAt.civil ∧ left.memoryId < right.memoryId)

/-- A store whose rows were written from records with distinct identifiers. -/
structure HoldsRecords (s : MemoryStore) : Prop where
  /-- Every row was written from a record. -/
  wellFormed : ∀ row ∈ s.memories, row.WellFormed
  /-- Memory identifiers are unique. -/
  unique : (s.memories.map (·.memoryId)).Nodup

/-- Queries return the selected records in order. -/
structure QueriesInOrder (s : MemoryStore) : Prop where
  /-- Every query with valid filters returns. -/
  returns : ∀ query : MemoryQuery, query.postInit = .ok () →
    bindTexts (query.subject.toList ++ query.predicate.toList) = .ok () →
      ∃ records, queryMemories s query = .ok records
  /-- What a query returns are the selected records. -/
  selected : ∀ query records, queryMemories s query = .ok records →
    ∀ record, record ∈ records ↔ ∃ row ∈ s.memories, query.Selects row ∧
      memoryFromRow row = .ok record
  /-- They come in strictly increasing order. -/
  ordered : ∀ query records, queryMemories s query = .ok records →
    records.Pairwise MemoryRecord.Before

section Queries

/-- The order of rows is total. -/
instance totalBefore : Std.Total MemoryRow.Before where
  total a b := by
    rcases lt_trichotomy a.createdAt b.createdAt with h | h | h
    · exact .inl (.inl h)
    · rcases le_total a.memoryId b.memoryId with hid | hid
      · exact .inl (.inr ⟨h, hid⟩)
      · exact .inr (.inr ⟨h.symm, hid⟩)
    · exact .inr (.inl h)

/-- The order of rows is transitive. -/
instance transBefore : IsTrans MemoryRow MemoryRow.Before where
  trans a b c hab hbc := by
    rcases hab with hab | ⟨hab, hid⟩ <;> rcases hbc with hbc | ⟨hbc, hid'⟩
    · exact .inl (hab.trans hbc)
    · exact .inl (hbc ▸ hab)
    · exact .inl (hab ▸ hbc)
    · exact .inr ⟨hab.trans hbc, hid.trans hid'⟩

variable {s : MemoryStore} {query : MemoryQuery} {records : List MemoryRecord}

/-- The rows a query reads, in order. -/
def MemoryQuery.rows (query : MemoryQuery) (s : MemoryStore) : List MemoryRow :=
  (s.memories.filter fun row => query.Selects row).insertionSort MemoryRow.Before

/-- The rows a query reads are the selected ones. -/
theorem MemoryQuery.mem_rows {row : MemoryRow} :
    row ∈ query.rows s ↔ row ∈ s.memories ∧ query.Selects row := by
  rw [rows, (List.perm_insertionSort _ _).mem_iff, List.mem_filter, decide_eq_true_eq]

/-- A query returns what its rows read as. -/
theorem queryMemories_iff : queryMemories s query = .ok records ↔ query.postInit = .ok () ∧
    bindTexts (query.subject.toList ++ query.predicate.toList) = .ok () ∧
      (query.rows s).mapM memoryFromRow = .ok records := by
  rw [queryMemories, Checks.unit_bind_ok, Checks.unit_bind_ok]
  rfl

/-- Rows in text order with distinct identifiers read as records in order. -/
theorem before_of_read {left right : MemoryRow} {first second : MemoryRecord}
    (hleft : left.WellFormed) (hright : right.WellFormed) (hbefore : left.Before right)
    (hne : left.memoryId ≠ right.memoryId) (hfirst : memoryFromRow left = .ok first)
    (hsecond : memoryFromRow right = .ok second) : first.Before second := by
  have hleftRow := (recordRow_ok.mp (hleft.write hfirst)).2.2.2
  have hrightRow := (recordRow_ok.mp (hright.write hsecond)).2.2.2
  have hfirstId : left.memoryId = first.memoryId := by rw [hleftRow]
  have hsecondId : right.memoryId = second.memoryId := by rw [hrightRow]
  have hfirstTime : left.createdAt = datetimeToText first.createdAt.civil := by rw [hleftRow]
  have hsecondTime : right.createdAt = datetimeToText second.createdAt.civil := by rw [hrightRow]
  rw [MemoryRow.Before, hfirstTime, hsecondTime, datetimeToText_lt, hfirstId, hsecondId] at hbefore
  rw [hfirstId, hsecondId] at hne
  rcases hbefore with htime | ⟨htext, hid⟩
  · exact .inl htime
  · exact .inr ⟨datetimeToText_injective htext, lt_of_le_of_ne hid hne⟩

/-- Reading a list of rows keeps what every pair of them reads to. -/
theorem pairwise_of_mapM {rows : List MemoryRow} {related : MemoryRow → MemoryRow → Prop}
    (hrows : rows.Pairwise related)
    (hread : ∀ left ∈ rows, ∀ right ∈ rows, related left right → ∀ first second,
      memoryFromRow left = .ok first → memoryFromRow right = .ok second → first.Before second)
    (h : rows.mapM memoryFromRow = .ok records) : records.Pairwise MemoryRecord.Before := by
  rw [Checks.mapM_ok] at h
  induction h with
  | nil => exact .nil
  | cons hfirst hrest ih =>
    rename_i row record rows records
    rw [List.pairwise_cons] at hrows
    have htail := ih hrows.2 fun left hleft right hright =>
      hread left (List.mem_cons_of_mem _ hleft) right (List.mem_cons_of_mem _ hright)
    refine .cons (fun later hlater => ?_) htail
    obtain ⟨other, hother, hlaterRead⟩ :=
      (Checks.mem_of_mapM_ok (Checks.mapM_ok.mpr hrest)).mp hlater
    exact hread row (List.mem_cons_self ..) other (List.mem_cons_of_mem _ hother)
      (hrows.1 other hother) record later hfirst hlaterRead

/-- Queries over stored records return the selected records in order. -/
theorem HoldsRecords.queriesInOrder (h : HoldsRecords s) : QueriesInOrder s where
  returns := by
    intro query hcheck hbound
    have hrows : ∃ records, (query.rows s).mapM memoryFromRow = .ok records :=
      Checks.exists_mapM_ok.mpr fun row hrow => by
        obtain ⟨record, hrecord⟩ := (h.wellFormed row (MemoryQuery.mem_rows.mp hrow).1).rehydrates
        exact ⟨record, hrecord.read⟩
    obtain ⟨records, hrecords⟩ := hrows
    exact ⟨records, queryMemories_iff.mpr ⟨hcheck, hbound, hrecords⟩⟩
  selected := by
    intro query records hquery record
    rw [Checks.mem_of_mapM_ok (queryMemories_iff.mp hquery).2.2]
    simp only [MemoryQuery.mem_rows, and_assoc]
  ordered := by
    intro query records hquery
    have hdistinct : (query.rows s).Pairwise fun left right => left.memoryId ≠ right.memoryId := by
      have hfiltered : ((s.memories.filter fun row => query.Selects row).map (·.memoryId)).Nodup :=
        h.unique.sublist (List.filter_sublist.map _)
      have hperm := (List.perm_insertionSort MemoryRow.Before
        (s.memories.filter fun row => query.Selects row)).map (·.memoryId)
      exact List.pairwise_map.mp (hperm.nodup_iff.mpr hfiltered)
    have hsorted : (query.rows s).Pairwise MemoryRow.Before := List.pairwise_insertionSort _ _
    refine pairwise_of_mapM (hsorted.and hdistinct) ?_ (queryMemories_iff.mp hquery).2.2
    intro left hleft right hright hboth first second hfirst hsecond
    exact before_of_read (h.wellFormed left (MemoryQuery.mem_rows.mp hleft).1)
      (h.wellFormed right (MemoryQuery.mem_rows.mp hright).1) hboth.1 hboth.2 hfirst hsecond

end Queries

/-- A lone high surrogate, a valid Python text without a UTF-8 form. -/
def loneSurrogate : PyStr := [0xd800]

/-- The first instant of 2026. -/
def newYear2026 : Civil := ⟨⟨2026, 1, 1, 0, 0, 0, 0⟩, by decide⟩

/-- A valid active record whose subject is a lone surrogate. -/
def surrogateRecord : MemoryRecord where
  memoryId := ⟨1⟩
  memoryType := .semantic
  subject := loneSurrogate
  predicate := py "likes"
  value := .str (py "tea")
  provenance := ⟨.explicitOwnerStatement, py "owner", [], by decide⟩
  confidence := .finite 1
  observedAt := PyDatetime.utc newYear2026
  createdAt := PyDatetime.utc newYear2026
  status := .active
  statusChangedAt := PyDatetime.utc newYear2026
  checked := by decide

/-- Not every valid record comes back: the empty store cannot write this one. -/
theorem not_forall_writesBack : ¬ ∀ (record : MemoryRecord) (s : MemoryStore),
    Room record s.memories → WritesBack s record := by
  intro hall
  have hroom : Room surrogateRecord MemoryStore.empty.memories :=
    ⟨by simp [MemoryStore.empty], by simp [surrogateRecord], by simp [surrogateRecord]⟩
  have hstorable := (writesBack_iff hroom).mp (hall surrogateRecord .empty hroom)
  have hsubject : utf8Encodable loneSurrogate = true := hstorable.encodable _ (by simp [surrogateRecord])
  have hlone : utf8Encodable loneSurrogate = false := by decide
  rw [hlone] at hsubject
  exact absurd hsubject (by decide)

/-- A record comes back from every store with room for it exactly when it is storable; the
texts of instants and identifiers are ordered as these are; and queries over stored records
return them in strictly increasing order. -/
theorem roundTrip_iff (record : MemoryRecord) :
    ((∀ s : MemoryStore, Room record s.memories → WritesBack s record) ↔ Storable record) ∧
    (∀ a b : Civil, datetimeToText a < datetimeToText b ↔ a < b) ∧
    (∀ a b : UUID, a.text < b.text ↔ a < b) ∧
    ∀ s, HoldsRecords s → QueriesInOrder s := by
  refine ⟨?_, datetimeToText_lt, UUID.text_lt, fun s h => h.queriesInOrder⟩
  constructor
  · intro h
    obtain ⟨s, hroom⟩ := exists_room record
    exact (writesBack_iff hroom).mp (h s hroom)
  · intro h s hroom
    exact (writesBack_iff hroom).mpr h

end Memory
end AyyoHumanoid
