import AyyoHumanoid.MemoryConflictTimes

/-!
# What readers of the memory store find

Every stored row reads back as a record whose canonical texts can be written and
encoded, and every unresolved conflict rebuilds. A committed call neither
removes a conflict row nor changes the memories it is over, so a later reader
finds every earlier pair under its own identifier.
-/

namespace AyyoHumanoid
namespace Memory

open PyText JsonText IsoText Transaction

/-- The texts of a row's evidence, which no status update changes. -/
def MemoryRow.evidenceTexts (row : MemoryRow) : List PyStr :=
  [row.subject, row.predicate, row.valueJson, row.provenanceSourceId, row.provenanceDetailsJson,
    row.metadataJson] ++ row.revisionReason.toList

/-- The texts of a row's evidence have a UTF-8 form. -/
def MemoryRow.Encodable (row : MemoryRow) : Prop :=
  ∀ text ∈ row.evidenceTexts, utf8Encodable text = true

/-- A row whose texts were bound is encodable. -/
theorem MemoryRow.encodable_of_bind {row : MemoryRow} (h : bindTexts row.texts = .ok ()) :
    row.Encodable := by
  intro text htext
  rw [bindTexts, Checks.require_ok] at h
  have hmem : text ∈ row.texts := by
    simp only [evidenceTexts, texts, List.mem_append, List.mem_cons, List.not_mem_nil] at htext ⊢
    tauto
  exact h text hmem

/-- A status update keeps a row's evidence. -/
@[simp] theorem MemoryRow.mark_evidenceTexts (row : MemoryRow) (memoryId : UUID)
    (status : MemoryStatus) (changedAt : Civil) (reason : Option PyStr) :
    (row.mark memoryId status changedAt reason).evidenceTexts = row.evidenceTexts := by
  unfold MemoryRow.mark
  split <;> rfl

/-- How a committed call changes the tables: it may update the status of one memory and
resolve that memory's conflicts, and then appends rows. -/
structure StepShape (s s' : MemoryStore) (keptMemories added : List MemoryRow)
    (keptConflicts opened : List ConflictRow) : Prop where
  /-- Table `memories`. -/
  memories : s'.memories = keptMemories ++ added
  /-- The earlier memories, with at most one status changed. -/
  keptMemories : keptMemories = s.memories ∨ ∃ memoryId status changedAt reason,
    keptMemories = markRows s.memories memoryId status changedAt reason
  /-- New rows are encodable. -/
  added : ∀ row ∈ added, row.Encodable
  /-- Table `memory_conflicts`. -/
  conflicts : s'.conflicts = keptConflicts ++ opened
  /-- The earlier conflicts, with those of at most one memory resolved. -/
  keptConflicts : keptConflicts = s.conflicts ∨ ∃ memoryId resolvedAt resolution,
    keptConflicts = resolveRows s.conflicts memoryId resolvedAt resolution
  /-- New conflicts are written by the store. -/
  opened : ∀ row ∈ opened, row.WellFormed

section Steps

variable {s s' : MemoryStore}

/-- A committed `add_memory` bound the texts of its row. -/
theorem addMemory_bound {record result : MemoryRecord} {uuids : Nat → UUID}
    (h : (addMemory record uuids).run s = .ok (result, s')) {row : MemoryRow}
    (hrow : recordRow record = .ok row) : row.Encodable := by
  simp only [addMemory, run_bind_ok, run_lift_ok, run_mapError_ok, run_pure_ok,
    Checks.require_ok] at h
  obtain ⟨_, _, -, _, _, ⟨_, middle, hinsert, -⟩, -, -⟩ := h
  obtain ⟨written, hwritten, hbound, -, -⟩ := insertMemory_ok.mp hinsert
  rw [hrow] at hwritten
  cases hwritten
  exact MemoryRow.encodable_of_bind hbound

/-- A committed `correct_memory` bound the texts of its replacement's row. -/
theorem correctMemory_bound {targetId : UUID} {replacement result : MemoryRecord}
    {uuids : Nat → UUID}
    (h : (correctMemory targetId replacement uuids).run s = .ok (result, s')) {row : MemoryRow}
    (hrow : recordRow replacement = .ok row) : row.Encodable := by
  simp only [correctMemory, run_bind_ok, run_lift_ok, run_mapError_ok, run_pure_ok,
    Checks.require_ok] at h
  obtain ⟨_, _, -, _, _, -, _, _, hbody, -, -⟩ := h
  simp only [correctMemoryBody, run_bind_ok] at hbody
  obtain ⟨_, _, -, _, _, -, _, _, -, _, _, -, _, _, -, _, _, -, _, _, -, _, _, hinsert, -⟩ := hbody
  obtain ⟨written, hwritten, hbound, -, -⟩ := insertMemory_ok.mp hinsert
  rw [hrow] at hwritten
  cases hwritten
  exact MemoryRow.encodable_of_bind hbound

/-- Every committed call has this shape. -/
theorem StoreCall.shape {call : StoreCall} {result : MemoryRecord}
    (h : call.run.run s = .ok (result, s')) :
    ∃ keptMemories added keptConflicts opened,
      StepShape s s' keptMemories added keptConflicts opened := by
  cases call with
  | add record uuids =>
    obtain ⟨-, row, hadded⟩ := addMemory_ok h
    refine ⟨s.memories, [row], s.conflicts, _, hadded.memories, Or.inl rfl, ?_,
      hadded.conflicts, Or.inl rfl, fun conflict hconflict => (newConflicts_open hconflict).1⟩
    intro other hother
    rw [List.mem_singleton.mp hother]
    exact addMemory_bound h hadded.written
  | correct targetId replacement uuids =>
    obtain ⟨-, targetRow, target, row, recorded, added, hcorrected⟩ := correctMemory_ok h
    refine ⟨_, [row], _, recorded ++ added, hcorrected.memories, Or.inr ⟨_, _, _, _, rfl⟩, ?_,
      by rw [hcorrected.conflicts, List.append_assoc], Or.inr ⟨_, _, _, rfl⟩, ?_⟩
    · intro other hother
      rw [List.mem_singleton.mp hother]
      exact correctMemory_bound h hcorrected.written
    · intro conflict hconflict
      rcases List.mem_append.mp hconflict with hrecorded | hnew
      · rcases hcorrected.recordedShape with hshape | ⟨conflictId, hshape⟩ <;>
          rw [hshape] at hrecorded
        · cases hrecorded
        · rw [List.mem_singleton.mp hrecorded]
          exact (correctionConflict_inOrder conflictId target replacement).1
      · obtain ⟨ids, hadded⟩ := hcorrected.addedShape
        rw [hadded] at hnew
        exact (newConflicts_open hnew).1
  | retract memoryId reason retractedAt =>
    obtain ⟨-, -, row, record, hretracted⟩ := retractMemory_ok h
    exact ⟨_, [], _, [], by rw [hretracted.memories, List.append_nil],
      Or.inr ⟨_, _, _, _, rfl⟩, by simp, by rw [hretracted.conflicts, List.append_nil],
      Or.inr ⟨_, _, _, rfl⟩, by simp⟩

/-- What holds of every store that readers can see. -/
structure ReadInvariant (s : MemoryStore) : Prop extends StoreInvariant s where
  /-- The texts of the rows have a UTF-8 form. -/
  encodable : ∀ row ∈ s.memories, row.Encodable
  /-- Conflict rows were written by the store. -/
  conflictsWritten : ∀ row ∈ s.conflicts, row.WellFormed

/-- Every committed call keeps the readers' invariant. -/
theorem ReadInvariant.step {call : StoreCall} {result : MemoryRecord} (h : ReadInvariant s)
    (hrun : call.run.run s = .ok (result, s')) : ReadInvariant s' := by
  obtain ⟨keptMemories, added, keptConflicts, opened, hshape⟩ := call.shape hrun
  refine ⟨h.toStoreInvariant.step hrun, ?_, ?_⟩
  · intro row hrow
    rw [hshape.memories] at hrow
    rcases List.mem_append.mp hrow with hkept | hadded
    · rcases hshape.keptMemories with hsame | ⟨memoryId, status, changedAt, reason, hmarked⟩
      · rw [hsame] at hkept
        exact h.encodable row hkept
      · rw [hmarked] at hkept
        obtain ⟨old, hold, rfl⟩ := List.mem_map.mp hkept
        intro text htext
        rw [MemoryRow.mark_evidenceTexts] at htext
        exact h.encodable old hold text htext
    · exact hshape.added row hadded
  · intro row hrow
    rw [hshape.conflicts] at hrow
    rcases List.mem_append.mp hrow with hkept | hopened
    · rcases hshape.keptConflicts with hsame | ⟨memoryId, resolvedAt, resolution, hresolved⟩
      · rw [hsame] at hkept
        exact h.conflictsWritten row hkept
      · rw [hresolved] at hkept
        exact resolveRows_wellFormed h.conflictsWritten memoryId resolvedAt resolution row hkept
    · exact hshape.opened row hopened

/-- The empty store satisfies the readers' invariant. -/
theorem readInvariant_empty : ReadInvariant .empty :=
  ⟨storeInvariant_empty, by simp [MemoryStore.empty], by simp [MemoryStore.empty]⟩

/-- The readers' invariant holds after every sequence of service calls. -/
theorem readInvariant_serviceAfter (calls : List ServiceCall) :
    ReadInvariant (serviceAfter calls) := by
  refine runAll_invariant (fun call s result s' hs hrun => ?_) readInvariant_empty calls
  obtain ⟨storeCall, hstore⟩ := call.refines hrun
  exact hs.step hstore

/-- A later store still holds every conflict row, over the same memories, and every memory. -/
structure Extends (s s' : MemoryStore) : Prop where
  /-- Every conflict row is still there. -/
  conflicts : ∀ row ∈ s.conflicts, ∃ later ∈ s'.conflicts, later.conflictId = row.conflictId ∧
    later.leftMemoryId = row.leftMemoryId ∧ later.rightMemoryId = row.rightMemoryId
  /-- Every memory is still stored. -/
  stored : ∀ memoryId, Stored s.memories memoryId → Stored s'.memories memoryId

/-- A store extends itself. -/
theorem Extends.refl (s : MemoryStore) : Extends s s :=
  ⟨fun row hrow => ⟨row, hrow, rfl, rfl, rfl⟩, fun _ h => h⟩

/-- Extending twice extends. -/
theorem Extends.trans {s'' : MemoryStore} (h : Extends s s') (h' : Extends s' s'') :
    Extends s s'' where
  conflicts := by
    intro row hrow
    obtain ⟨middle, hmiddle, hid, hleft, hright⟩ := h.conflicts row hrow
    obtain ⟨later, hlater, hid', hleft', hright'⟩ := h'.conflicts middle hmiddle
    exact ⟨later, hlater, hid'.trans hid, hleft'.trans hleft, hright'.trans hright⟩
  stored := fun memoryId hstored => h'.stored memoryId (h.stored memoryId hstored)

/-- A committed call extends the store. -/
theorem StoreCall.extends {call : StoreCall} {result : MemoryRecord}
    (h : call.run.run s = .ok (result, s')) : Extends s s' := by
  obtain ⟨keptMemories, added, keptConflicts, opened, hshape⟩ := call.shape h
  constructor
  · intro row hrow
    rcases hshape.keptConflicts with hsame | ⟨memoryId, resolvedAt, resolution, hresolved⟩
    · refine ⟨row, ?_, rfl, rfl, rfl⟩
      rw [hshape.conflicts, hsame]
      exact List.mem_append_left _ hrow
    · refine ⟨row.resolve memoryId resolvedAt resolution, ?_, ConflictRow.resolve_conflictId ..,
        ConflictRow.resolve_left .., ConflictRow.resolve_right ..⟩
      rw [hshape.conflicts, hresolved]
      exact List.mem_append_left _ (List.mem_map_of_mem hrow)
  · intro memoryId hstored
    rw [hshape.memories]
    refine Stored.append ?_
    rcases hshape.keptMemories with hsame | ⟨target, status, changedAt, reason, hmarked⟩
    · rw [hsame]
      exact hstored
    · rw [hmarked]
      exact stored_markRows.mpr hstored

/-- After any further calls the invariant still holds of an extension of the store. -/
theorem readInvariant_runAll (h : ReadInvariant s) (calls : List StoreCall) :
    ReadInvariant (runAll StoreCall.run s calls) ∧ Extends s (runAll StoreCall.run s calls) :=
  runAll_invariant (P := fun later => ReadInvariant later ∧ Extends s later)
    (fun _ _ _ _ hlater hrun =>
      ⟨hlater.1.step hrun, hlater.2.trans (StoreCall.extends hrun)⟩) ⟨h, Extends.refl s⟩ calls

end Steps

/-- A record whose canonical texts can be written and encoded. -/
structure Writable (record : MemoryRecord) : Prop where
  /-- The value can be printed. -/
  value : record.value.dumpable = true
  /-- The provenance details can be printed. -/
  details : (Json.obj record.provenance.details).dumpable = true
  /-- The metadata can be printed. -/
  metadata : (Json.obj record.metadata).dumpable = true
  /-- The texts have a UTF-8 form. -/
  encodable : ∀ text ∈ [record.subject, record.predicate, encode record.value,
    record.provenance.sourceId, encode (.obj record.provenance.details),
    encode (.obj record.metadata)] ++ record.revisionReason.toList, utf8Encodable text = true

/-- An encodable row reads as a writable record. -/
theorem writable_of_write {row : MemoryRow} {record : MemoryRecord}
    (hwrite : recordRow record = .ok row) (hrow : row.Encodable) : Writable record := by
  obtain ⟨hvalue, hdetails, hmetadata, rfl⟩ := recordRow_ok.mp hwrite
  exact ⟨hvalue, hdetails, hmetadata, hrow⟩

section Reads

variable {s : MemoryStore} {subject : PyStr}

/-- A subject filter passes its check exactly when it is nonempty text. -/
theorem validateFilter_some {fieldName : PyStr} : validateFilter (some subject) fieldName = .ok () ↔
    NonemptyText subject := by
  simp only [validateFilter, Checks.requireWhen_ok, validateNonemptyText_ok, ne_eq, reduceCtorEq,
    not_false_eq_true, forall_true_left, Option.some.injEq, exists_eq_left']

/-- A missing filter passes its check. -/
theorem validateFilter_none {fieldName : PyStr} : validateFilter none fieldName = .ok () := by
  simp [validateFilter, requireWhen]

/-- One text is bound exactly when it has a UTF-8 form. -/
theorem bindTexts_singleton : bindTexts [subject] = .ok () ↔ utf8Encodable subject = true := by
  simp only [bindTexts, Checks.require_ok, List.mem_singleton, forall_eq]

/-- The query for a subject's active memories, part by part. -/
theorem queryMemories_ok {records : List MemoryRecord} :
    queryMemories s { subject := some subject } = .ok records ↔
      NonemptyText subject ∧ utf8Encodable subject = true ∧
        ((s.memories.filter fun row => MemoryQuery.Selects { subject := some subject } row).insertionSort
          MemoryRow.Before).mapM memoryFromRow = .ok records := by
  have hcheck : (MemoryQuery.postInit { subject := some subject }) = .ok () ↔
      NonemptyText subject := by
    rw [MemoryQuery.postInit, Checks.unit_bind_ok, validateFilter_some]
    exact and_iff_left validateFilter_none
  rw [queryMemories, Checks.unit_bind_ok, Checks.unit_bind_ok, hcheck]
  simp only [Option.toList_some, Option.toList_none, List.append_nil, bindTexts_singleton]

/-- The listing of a subject's unresolved conflicts, part by part. -/
theorem listConflicts_ok {conflicts : List MemoryConflict} :
    listConflicts s (some subject) none false = .ok conflicts ↔
      NonemptyText subject ∧ utf8Encodable subject = true ∧
        (selectConflicts s (some subject) none false).mapM (conflictFromRow s.memories) =
          .ok conflicts := by
  rw [listConflicts, Checks.unit_bind_ok, Checks.unit_bind_ok, Checks.unit_bind_ok,
    validateFilter_some]
  simp only [Option.toList_some, Option.toList_none, List.append_nil, bindTexts_singleton,
    validateFilter_none, true_and]

/-- The records of a subject's active memories. -/
structure ActiveRecords (s : MemoryStore) (subject : PyStr) (records : List MemoryRecord) :
    Prop where
  /-- They are read from the subject's active rows. -/
  mem : ∀ record, record ∈ records ↔ ∃ row ∈ s.memories, row.subject = subject ∧
    row.status = .active ∧ memoryFromRow row = .ok record
  /-- No identifier repeats. -/
  ids : (records.map (·.memoryId)).Nodup

/-- The query for a subject's active memories returns for a valid subject. -/
theorem exists_queryMemories (h : ReadInvariant s) (htext : NonemptyText subject)
    (hencodable : utf8Encodable subject = true) :
    ∃ records, queryMemories s { subject := some subject } = .ok records := by
  have hrows : ∃ records, ((s.memories.filter fun row =>
      MemoryQuery.Selects { subject := some subject } row).insertionSort
        MemoryRow.Before).mapM memoryFromRow = .ok records := by
    refine Checks.exists_mapM_ok.mpr fun row hrow => ?_
    rw [(List.perm_insertionSort _ _).mem_iff, List.mem_filter] at hrow
    obtain ⟨record, hrecord⟩ := (h.wellFormed row hrow.1).rehydrates
    exact ⟨record, hrecord.read⟩
  obtain ⟨records, hrecords⟩ := hrows
  exact ⟨records, queryMemories_ok.mpr ⟨htext, hencodable, hrecords⟩⟩

/-- What the query for a subject's active memories returns. -/
theorem activeRecords_of_query (h : ReadInvariant s) {records : List MemoryRecord}
    (hquery : queryMemories s { subject := some subject } = .ok records) :
    ActiveRecords s subject records := by
  obtain ⟨-, -, hrows⟩ := queryMemories_ok.mp hquery
  have hselects : ∀ row : MemoryRow, MemoryQuery.Selects { subject := some subject } row ↔
      row.subject = subject ∧ row.status = .active := by
    intro row
    simp [MemoryQuery.Selects]
  constructor
  · intro record
    rw [Checks.mem_of_mapM_ok hrows]
    constructor
    · rintro ⟨row, hrow, hread⟩
      rw [(List.perm_insertionSort _ _).mem_iff, List.mem_filter, decide_eq_true_eq,
        hselects] at hrow
      exact ⟨row, hrow.1, hrow.2.1, hrow.2.2, hread⟩
    · rintro ⟨row, hrow, hsubject, hactive, hread⟩
      refine ⟨row, ?_, hread⟩
      rw [(List.perm_insertionSort _ _).mem_iff, List.mem_filter, decide_eq_true_eq, hselects]
      exact ⟨hrow, hsubject, hactive⟩
  · have hids : records.map (fun record => record.memoryId) =
        ((s.memories.filter fun row => MemoryQuery.Selects { subject := some subject } row
          ).insertionSort MemoryRow.Before).map (fun row => row.memoryId) :=
      Checks.map_of_mapM_ok hrows (fun row => row.memoryId) fun row record hread =>
        (memoryFromRow_ok hread).memoryId
    rw [hids, ((List.perm_insertionSort _ _).map _).nodup_iff]
    exact h.unique.sublist (List.filter_sublist.map _)

/-- The rows that the listing of a subject's unresolved conflicts selects. -/
theorem mem_selectConflicts {row : ConflictRow} :
    row ∈ selectConflicts s (some subject) none false ↔ row ∈ s.conflicts ∧
      row.resolvedAt = none ∧
      ∃ left ∈ s.memories, left.memoryId = row.leftMemoryId ∧ left.subject = subject := by
  have hselected : row.Selected s.memories (some subject) none false ↔ row.resolvedAt = none ∧
      ∃ left ∈ s.memories, left.memoryId = row.leftMemoryId ∧ left.subject = subject := by
    simp [ConflictRow.Selected, and_comm]
  rw [selectConflicts, (List.perm_insertionSort _ _).mem_iff, List.mem_filter, decide_eq_true_eq,
    hselected]

/-- Selected rows have different identifiers. -/
theorem nodup_selectConflicts (h : ReadInvariant s) :
    ((selectConflicts s (some subject) none false).map (·.conflictId)).Nodup := by
  rw [selectConflicts, ((List.perm_insertionSort _ _).map _).nodup_iff]
  exact h.table.ids.sublist (List.filter_sublist.map _)

/-- What a conflict rebuilt from its row and the memories read for it takes over. -/
structure ConflictRead (row : ConflictRow) (left right : MemoryRecord)
    (conflict : MemoryConflict) : Prop where
  /-- The identifier. -/
  conflictId : conflict.conflictId = row.conflictId
  leftMemory : conflict.leftMemory = left
  rightMemory : conflict.rightMemory = right
  /-- The resolution time is absent when the column is. -/
  resolvedAt : row.resolvedAt = none → conflict.resolvedAt = none

/-- The constructor of a conflict packs its fields. -/
theorem MemoryConflict.construct_fields {fields : ConflictFields} {conflict : MemoryConflict}
    (h : MemoryConflict.construct fields = .ok conflict) : conflict.toConflictFields = fields := by
  unfold MemoryConflict.construct at h
  split at h
  · cases h
    rfl
  · cases h

/-- Rebuild one conflict from its row, with its memories read from the given tables. -/
def conflictFromReads (leftMemories rightMemories : List MemoryRow) (row : ConflictRow) :
    Except MemoryError MemoryConflict := do
  let left ← demandMemory leftMemories row.leftMemoryId
  let right ← demandMemory rightMemories row.rightMemoryId
  let createdAt ← parseDatetime row.createdAt
  let resolvedAt ← parseOptionalDatetime row.resolvedAt
  MemoryConflict.construct {
    conflictId := row.conflictId
    leftMemory := left
    rightMemory := right
    createdAt := createdAt
    reason := row.reason
    resolvedAt := resolvedAt
    resolutionMemoryId := row.resolutionMemoryId }

/-- One table serves both reads when nothing is written between them. -/
theorem conflictFromReads_self (memories : List MemoryRow) :
    conflictFromReads memories memories = conflictFromRow memories := rfl

/-- A rebuilt conflict holds the memories that were read for it. -/
theorem conflictFromReads_read {leftMemories rightMemories : List MemoryRow} {row : ConflictRow}
    {conflict : MemoryConflict}
    (h : conflictFromReads leftMemories rightMemories row = .ok conflict) :
    ∃ left right, demandMemory leftMemories row.leftMemoryId = .ok left ∧
      demandMemory rightMemories row.rightMemoryId = .ok right ∧
        ConflictRead row left right conflict := by
  simp only [conflictFromReads, Checks.bind_ok] at h
  obtain ⟨left, hleft, right, hright, createdAt, -, resolvedAt, hresolved, hconstruct⟩ := h
  have hfields := MemoryConflict.construct_fields hconstruct
  refine ⟨left, right, hleft, hright, ?_⟩
  constructor
  · rw [hfields]
  · rw [hfields]
  · rw [hfields]
  · intro hnone
    rw [hnone, parseOptionalDatetime, Except.ok.injEq] at hresolved
    rw [hfields, ← hresolved]

/-- An unresolved conflict row rebuilds from any tables that hold its memories. -/
theorem exists_conflictFromReads {leftStore rightStore : MemoryStore}
    (hleft : ReadInvariant leftStore) (hright : ReadInvariant rightStore) {row : ConflictRow}
    (hwritten : row.WellFormed) (hordered : row.leftMemoryId < row.rightMemoryId)
    (hopen : row.resolvedAt = none) (hleftStored : Stored leftStore.memories row.leftMemoryId)
    (hrightStored : Stored rightStore.memories row.rightMemoryId) :
    ∃ conflict, conflictFromReads leftStore.memories rightStore.memories row = .ok conflict := by
  obtain ⟨created, hcreated⟩ := hwritten
  obtain ⟨left, hleftRead, hleftId⟩ := demandMemory_of_stored hleft.wellFormed hleftStored
  obtain ⟨right, hrightRead, hrightId⟩ := demandMemory_of_stored hright.wellFormed hrightStored
  have hsides : left.memoryId ≠ right.memoryId := by
    rw [hleftId, hrightId]
    exact ne_of_lt hordered
  have hresolution : row.resolutionMemoryId = none := by
    by_contra hne
    exact hcreated.resolution hne hopen
  simp only [conflictFromReads, hleftRead, hrightRead, hcreated.createdAt, parseDatetime_toText,
    hopen, parseOptionalDatetime, Checks.bind_ok, Except.ok.injEq, exists_eq_left']
  rw [MemoryConflict.construct_ok, ConflictFields.postInit_ok]
  exact ⟨hsides, rfl, hcreated.reason ▸ conflictReason_nonempty, rfl, by simp [hresolution]⟩

/-- The listing of a subject's unresolved conflicts returns for a valid subject. -/
theorem exists_listConflicts (h : ReadInvariant s) (htext : NonemptyText subject)
    (hencodable : utf8Encodable subject = true) :
    ∃ conflicts, listConflicts s (some subject) none false = .ok conflicts := by
  have hrows : ∃ conflicts, (selectConflicts s (some subject) none false).mapM
      (conflictFromRow s.memories) = .ok conflicts := by
    refine Checks.exists_mapM_ok.mpr fun row hrow => ?_
    obtain ⟨hmem, hopen, -⟩ := mem_selectConflicts.mp hrow
    obtain ⟨hleft, hright⟩ := h.table.stored row hmem
    exact exists_conflictFromReads h h (h.conflictsWritten row hmem) (h.table.ordered row hmem)
      hopen hleft hright
  obtain ⟨conflicts, hconflicts⟩ := hrows
  exact ⟨conflicts, listConflicts_ok.mpr ⟨htext, hencodable, hconflicts⟩⟩

end Reads

end Memory
end AyyoHumanoid
