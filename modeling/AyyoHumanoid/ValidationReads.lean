import AyyoHumanoid.ValidationFacts

/-!
# What the validation service reads

On a reachable store the service's queries return, except where a stored name
has nothing left after normalization. The active memories and the unresolved
conflicts they deliver are exactly the stored ones of the candidate's identity.
-/

namespace AyyoHumanoid
namespace Memory

open PyText JsonText IsoText Transaction

/-- What holds of the memories and conflicts of every store that service calls reach. -/
structure MemoryInvariant (s : MemoryStore) : Prop extends RevisionInvariant s where
  /-- Conflict rows were written by the store. -/
  conflictsWritten : ∀ row ∈ s.conflicts, row.WellFormed

/-- The empty store satisfies the invariant. -/
theorem memoryInvariant_empty : MemoryInvariant .empty :=
  ⟨revisionInvariant_empty, by simp [MemoryStore.empty]⟩

/-- Every committed service call keeps the invariant. -/
theorem MemoryInvariant.step {call : ServiceCall} {s s' : MemoryStore} {result : MemoryRecord}
    (h : MemoryInvariant s) (hrun : call.run.run s = .ok (result, s')) : MemoryInvariant s' := by
  obtain ⟨storeCall, hstore⟩ := call.refines hrun
  have hservice : ServiceInvariant s := ⟨h.toStoreInvariant, h.conflictsWritten⟩
  exact ⟨h.toRevisionInvariant.step hstore, (hservice.step hrun).conflictsWritten⟩

/-- The invariant holds after every sequence of service calls. -/
theorem memoryInvariant_serviceAfter (calls : List ServiceCall) :
    MemoryInvariant (serviceAfter calls) :=
  runAll_invariant (fun _ _ _ _ h hrun => h.step hrun) memoryInvariant_empty calls

/-- The record is what a stored row reads as. -/
structure StoredAs (s : MemoryStore) (row : MemoryRow) (record : MemoryRecord) : Prop where
  /-- The row is stored. -/
  mem : row ∈ s.memories
  read : memoryFromRow row = .ok record

section Reads

variable {s : MemoryStore}

/-- Every stored row reads as some record. -/
theorem MemoryInvariant.exists_storedAs (h : MemoryInvariant s) {row : MemoryRow}
    (hrow : row ∈ s.memories) : ∃ record, StoredAs s row record := by
  obtain ⟨record, hrecord⟩ := (h.wellFormed row hrow).rehydrates
  exact ⟨record, hrow, hrecord.read⟩

/-- A row reads as one record only. -/
theorem StoredAs.record_unique {row : MemoryRow} {left right : MemoryRecord}
    (hleft : StoredAs s row left) (hright : StoredAs s row right) : left = right := by
  have hread := hright.read
  rw [hleft.read] at hread
  exact Except.ok.inj hread

/-- The value a stored record reads has the stored canonical text. -/
theorem StoredAs.value (h : MemoryInvariant s) {row : MemoryRow} {record : MemoryRecord}
    (hrow : StoredAs s row record) :
    record.value.dumpable = true ∧ encode record.value = row.valueJson := by
  have hwrite := (h.wellFormed row hrow.mem).write hrow.read
  obtain ⟨hvalue, -, -, hrecord⟩ := recordRow_ok.mp hwrite
  exact ⟨hvalue, by rw [hrecord]⟩

/-- Demanding a stored memory returns its record. -/
theorem StoredAs.demand (h : MemoryInvariant s) {row : MemoryRow} {record : MemoryRecord}
    (hrow : StoredAs s row record) : demandMemory s.memories row.memoryId = .ok record :=
  demandMemory_ok.mpr ⟨row, rowFor_of_mem h.unique hrow.mem, hrow.read⟩

/-- A demanded memory is stored. -/
theorem storedAs_of_demand {memoryId : UUID} {record : MemoryRecord}
    (h : demandMemory s.memories memoryId = .ok record) :
    ∃ row, StoredAs s row record ∧ row.memoryId = memoryId := by
  obtain ⟨row, hfound, hread⟩ := demandMemory_ok.mp h
  obtain ⟨hmem, hid⟩ := rowFor_some hfound
  exact ⟨row, ⟨hmem, hread⟩, hid⟩

/-- The query of one type's active memories returns exactly those records. -/
theorem MemoryInvariant.queryMemories_ok (h : MemoryInvariant s) (memoryType : MemoryType) :
    ∃ records, queryMemories s { memoryType := some memoryType } = .ok records ∧
      (records.map (·.memoryId)).Nodup ∧ ∀ record, record ∈ records ↔
        ∃ row, StoredAs s row record ∧ row.status = .active ∧ row.memoryType = memoryType := by
  have hselect : ∀ row, row ∈ (s.memories.filter fun row =>
      MemoryQuery.Selects { memoryType := some memoryType } row).insertionSort MemoryRow.Before ↔
        row ∈ s.memories ∧ row.status = .active ∧ row.memoryType = memoryType := by
    intro row
    rw [List.mem_insertionSort, List.mem_filter, decide_eq_true_eq]
    simp only [MemoryQuery.Selects, Option.mem_def, Option.some.injEq, forall_eq', reduceCtorEq,
      false_implies, implies_true, true_and, forall_const]
    rw [and_comm (a := row.memoryType = memoryType)]
  obtain ⟨records, hrecords⟩ := Checks.exists_mapM_ok.mpr fun row hrow =>
    (h.exists_storedAs ((hselect row).mp hrow).1).imp fun _ hread => hread.read
  refine ⟨records, ?_, ?_, ?_⟩
  · exact hrecords
  · rw [Checks.map_of_mapM_ok hrecords (·.memoryId) fun row record hread =>
      (memoryFromRow_ok hread).memoryId]
    have hperm := (List.perm_insertionSort MemoryRow.Before (s.memories.filter fun row =>
      MemoryQuery.Selects { memoryType := some memoryType } row)).map (·.memoryId)
    exact hperm.nodup_iff.mpr (h.unique.sublist (List.filter_sublist.map _))
  · intro record
    rw [Checks.mem_of_mapM_ok hrecords]
    constructor
    · rintro ⟨row, hrow, hread⟩
      obtain ⟨hmem, hstatus, htype⟩ := (hselect row).mp hrow
      exact ⟨row, ⟨hmem, hread⟩, hstatus, htype⟩
    · rintro ⟨row, hstored, hstatus, htype⟩
      exact ⟨row, (hselect row).mpr ⟨hstored.mem, hstatus, htype⟩, hstored.read⟩

/-- The constructor keeps the fields of a conflict. -/
theorem MemoryConflict.construct_eq {fields : ConflictFields} {conflict : MemoryConflict}
    (h : MemoryConflict.construct fields = .ok conflict) : conflict.toConflictFields = fields := by
  unfold MemoryConflict.construct at h
  split at h
  · cases h
    rfl
  · cases h

/-- The conflict that an open conflict row reads as. -/
structure OpenAs (s : MemoryStore) (row : ConflictRow) (conflict : MemoryConflict) : Prop where
  /-- The row is stored. -/
  mem : row ∈ s.conflicts
  /-- The row is unresolved. -/
  openRow : row.resolvedAt = none
  read : conflictFromRow s.memories row = .ok conflict

/-- The fields of the conflict that an open row reads as. -/
theorem OpenAs.fields {row : ConflictRow} {conflict : MemoryConflict} (h : OpenAs s row conflict) :
    conflict.conflictId = row.conflictId ∧ conflict.resolvedAt = none ∧
      demandMemory s.memories row.leftMemoryId = .ok conflict.leftMemory ∧
      demandMemory s.memories row.rightMemoryId = .ok conflict.rightMemory := by
  have hread := h.read
  simp only [conflictFromRow, h.openRow, parseOptionalDatetime, Checks.bind_ok, Except.ok.injEq,
    exists_eq_left'] at hread
  obtain ⟨left, hleft, right, hright, createdAt, -, hconstruct⟩ := hread
  have hfields := MemoryConflict.construct_eq hconstruct
  refine ⟨by rw [hfields], by rw [hfields], ?_, ?_⟩
  · rw [hleft, hfields]
  · rw [hright, hfields]

/-- The two rows behind the conflict of an open row: they are stored and contradict each other. -/
theorem OpenAs.contradict (h : MemoryInvariant s) {row : ConflictRow} {conflict : MemoryConflict}
    (hopen : OpenAs s row conflict) : ∃ left right, StoredAs s left conflict.leftMemory ∧
      StoredAs s right conflict.rightMemory ∧ left.memoryId = row.leftMemoryId ∧
      right.memoryId = row.rightMemoryId ∧ left.memoryId < right.memoryId ∧
      Contradict left right := by
  obtain ⟨-, -, hleft, hright⟩ := hopen.fields
  obtain ⟨left, hleftStored, hleftId⟩ := storedAs_of_demand hleft
  obtain ⟨right, hrightStored, hrightId⟩ := storedAs_of_demand hright
  have hlt : left.memoryId < right.memoryId := by
    rw [hleftId, hrightId]
    exact h.table.ordered row hopen.mem
  refine ⟨left, right, hleftStored, hrightStored, hleftId, hrightId, hlt, ?_⟩
  refine (h.complete left hleftStored.mem right hrightStored.mem (ne_of_lt hlt)).mp ?_
  exact ⟨row, hopen.mem, hopen.openRow, by rw [UUID.sortedPair_of_lt hlt, hleftId, hrightId]⟩

/-- Every open conflict row reads as some conflict. -/
theorem MemoryInvariant.exists_openAs (h : MemoryInvariant s) {row : ConflictRow}
    (hrow : row ∈ s.conflicts) (hopen : row.resolvedAt = none) :
    ∃ conflict, OpenAs s row conflict := by
  obtain ⟨created, hwritten⟩ := h.conflictsWritten row hrow
  obtain ⟨hleft, hright⟩ := h.table.stored row hrow
  obtain ⟨conflict, hread⟩ := (conflictFromRow_ok h.wellFormed hwritten (h.table.ordered row hrow)
    hleft hright).mpr (row.inOrder_of_open hopen)
  exact ⟨conflict, hrow, hopen, hread⟩

/-- The listing of unresolved conflicts returns exactly those conflicts. -/
theorem MemoryInvariant.listConflicts_ok (h : MemoryInvariant s) :
    ∃ conflicts, listConflicts s none none false = .ok conflicts ∧
      (conflicts.map (·.conflictId)).Nodup ∧
      ∀ conflict, conflict ∈ conflicts ↔ ∃ row, OpenAs s row conflict := by
  have hselect : ∀ row, row ∈ selectConflicts s none none false ↔
      row ∈ s.conflicts ∧ row.resolvedAt = none := by
    intro row
    rw [selectConflicts, List.mem_insertionSort, List.mem_filter, decide_eq_true_eq]
    constructor
    · rintro ⟨hrow, -, hopen⟩
      exact ⟨hrow, hopen.resolve_left (by decide)⟩
    · rintro ⟨hrow, hopen⟩
      obtain ⟨left, hleft, hid⟩ := (h.table.stored row hrow).1
      exact ⟨hrow, ⟨left, hleft, hid, by simp, by simp⟩, Or.inr hopen⟩
  have hreads : ∀ row ∈ selectConflicts s none none false,
      ∃ conflict, conflictFromRow s.memories row = .ok conflict := by
    intro row hrow
    obtain ⟨hmem, hopen⟩ := (hselect row).mp hrow
    exact (h.exists_openAs hmem hopen).imp fun _ hread => hread.read
  obtain ⟨conflicts, hconflicts⟩ := Checks.exists_mapM_ok.mpr hreads
  have hmem : ∀ conflict, conflict ∈ conflicts ↔ ∃ row, OpenAs s row conflict := by
    intro conflict
    rw [Checks.mem_of_mapM_ok hconflicts]
    constructor
    · rintro ⟨row, hrow, hread⟩
      obtain ⟨hstored, hopen⟩ := (hselect row).mp hrow
      exact ⟨row, hstored, hopen, hread⟩
    · rintro ⟨row, hopen⟩
      exact ⟨row, (hselect row).mpr ⟨hopen.mem, hopen.openRow⟩, hopen.read⟩
  refine ⟨conflicts, ?_, ?_, hmem⟩
  · exact hconflicts
  · have hids : conflicts.map (·.conflictId) =
        (selectConflicts s none none false).map (·.conflictId) := by
      refine Checks.map_of_mapM_ok hconflicts _ ?_
      intro row conflict hread
      simp only [conflictFromRow, Checks.bind_ok] at hread
      obtain ⟨_, _, _, _, _, _, _, _, hconstruct⟩ := hread
      rw [MemoryConflict.construct_eq hconstruct]
    rw [hids]
    have hperm := (List.perm_insertionSort ConflictRow.Before (s.conflicts.filter fun row =>
      row.Selected s.memories none none false)).map (·.conflictId)
    exact hperm.nodup_iff.mpr (h.table.ids.sublist (List.filter_sublist.map _))

end Reads
end Memory
end AyyoHumanoid
