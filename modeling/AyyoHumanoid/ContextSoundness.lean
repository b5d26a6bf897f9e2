import AyyoHumanoid.ContextCoherence

/-!
# Soundness of personal context over reachable stores

The reads of an owner's active memories and unresolved conflicts from one
reachable store are coherent, and the snapshot of coherent inputs reflects them.
-/

namespace AyyoHumanoid
namespace PersonalContext

open PyText JsonText PyCollections
open Memory (MemoryRecord MemoryConflict MemoryStore MemoryRow ConflictRow Writable ReadInvariant
  ServiceCall serviceAfter queryMemories listConflicts)

section Reads

variable {s : MemoryStore} {ownerSubject : PyStr} {memories : List MemoryRecord}
  {conflicts : List MemoryConflict}

/-- A demanded memory is read from the row with the identifier. -/
theorem exists_row_of_demand {rows : List MemoryRow} {memoryId : UUID} {record : MemoryRecord}
    (h : Memory.demandMemory rows memoryId = .ok record) : ∃ row ∈ rows,
      row.memoryId = memoryId ∧ Memory.memoryFromRow row = .ok record ∧
        record.memoryId = memoryId := by
  obtain ⟨row, hfound, hread⟩ := Memory.demandMemory_ok.mp h
  obtain ⟨hrow, hid⟩ := Memory.rowFor_some hfound
  exact ⟨row, hrow, hid, hread, (Memory.memoryFromRow_ok hread).memoryId.trans hid⟩

/-- A rebuilt conflict is over the identifiers of its row. -/
theorem memoryPair_of_read {leftRows rightRows : List MemoryRow} {row : ConflictRow}
    {conflict : MemoryConflict} (hordered : row.leftMemoryId < row.rightMemoryId)
    (h : Memory.conflictFromReads leftRows rightRows row = .ok conflict) :
    conflict.conflictId = row.conflictId ∧
      memoryPair conflict = (row.leftMemoryId, row.rightMemoryId) := by
  obtain ⟨left, right, hleft, hright, hread⟩ := Memory.conflictFromReads_read h
  obtain ⟨-, -, -, -, hleftId⟩ := exists_row_of_demand hleft
  obtain ⟨-, -, -, -, hrightId⟩ := exists_row_of_demand hright
  refine ⟨hread.conflictId, ?_⟩
  rw [memoryPair, hread.leftMemory, hread.rightMemory, hleftId, hrightId,
    UUID.sortedPair_of_lt hordered]

/-- The canonical text of a record read from a row is the row's. -/
theorem encode_of_read (h : ReadInvariant s) {row : MemoryRow} (hrow : row ∈ s.memories)
    {record : MemoryRecord} (hread : Memory.memoryFromRow row = .ok record) :
    encode record.value = row.valueJson :=
  (Memory.recordRow_valueJson ((h.wellFormed row hrow).write hread)).symm

/-- The key of a record read from a row is the row's. -/
theorem key_of_read {row : MemoryRow} {record : MemoryRecord}
    (hread : Memory.memoryFromRow row = .ok record) :
    record.key = (row.memoryType, row.subject, row.predicate) := by
  have hfields := Memory.memoryFromRow_ok hread
  rw [Memory.RecordFields.key, hfields.memoryType, hfields.subject, hfields.predicate]

/-- Reads of one store are coherent. -/
theorem coherent_reads (h : ReadInvariant s)
    (hquery : queryMemories s (ownerQuery ownerSubject) = .ok memories)
    (hlist : listConflicts s (some ownerSubject) none false = .ok conflicts) :
    Coherent ownerSubject memories conflicts := by
  have hrecords := Memory.activeRecords_of_query h hquery
  obtain ⟨-, -, hrows⟩ := Memory.listConflicts_ok.mp hlist
  rw [← Memory.conflictFromReads_self] at hrows
  have hselected : ∀ conflict ∈ conflicts, ∃ row ∈ s.conflicts, row.resolvedAt = none ∧
      (∃ left ∈ s.memories, left.memoryId = row.leftMemoryId ∧ left.subject = ownerSubject) ∧
        Memory.conflictFromReads s.memories s.memories row = .ok conflict := by
    intro conflict hconflict
    obtain ⟨row, hrow, hread⟩ := (Checks.mem_of_mapM_ok hrows).mp hconflict
    obtain ⟨hstored, hopen, hleft⟩ := Memory.mem_selectConflicts.mp hrow
    exact ⟨row, hstored, hopen, hleft, hread⟩
  -- A selected conflict is over two contradicting rows of the owner.
  have hover : ∀ conflict ∈ conflicts, conflict.resolvedAt = none ∧
      ∃ a ∈ s.memories, ∃ b ∈ s.memories, Memory.Contradict a b ∧ a.subject = ownerSubject ∧
        Memory.memoryFromRow a = .ok conflict.leftMemory ∧
          Memory.memoryFromRow b = .ok conflict.rightMemory := by
    intro conflict hconflict
    obtain ⟨row, hrow, hopen, ⟨owned, howned, hownedId, hsubject⟩, hread⟩ :=
      hselected conflict hconflict
    obtain ⟨left, right, hleft, hright, hfields⟩ := Memory.conflictFromReads_read hread
    obtain ⟨a, ha, haId, haRead, -⟩ := exists_row_of_demand hleft
    obtain ⟨b, hb, hbId, hbRead, -⟩ := exists_row_of_demand hright
    have hordered := h.table.ordered row hrow
    have hne : a.memoryId ≠ b.memoryId := by
      rw [haId, hbId]
      exact ne_of_lt hordered
    have hpair : Memory.OpenPair s.conflicts a.memoryId b.memoryId := by
      refine ⟨row, hrow, hopen, ?_⟩
      rw [haId, hbId, UUID.sortedPair_of_lt hordered]
    have hsame : owned = a :=
      Memory.StoreInvariant.eq_of_memoryId h.unique howned ha (hownedId.trans haId.symm)
    refine ⟨hfields.resolvedAt hopen, a, ha, b, hb, (h.complete a ha b hb hne).mp hpair, ?_, ?_, ?_⟩
    · rw [← hsame]
      exact hsubject
    · rw [hfields.leftMemory]
      exact haRead
    · rw [hfields.rightMemory]
      exact hbRead
  constructor
  · intro record hrecord
    obtain ⟨row, -, hsubject, hactive, hread⟩ := (hrecords.mem record).mp hrecord
    have hfields := Memory.memoryFromRow_ok hread
    exact ⟨hfields.subject.trans hsubject, hfields.status.trans hactive⟩
  · exact hrecords.ids
  · intro record hrecord
    obtain ⟨row, hrow, -, -, hread⟩ := (hrecords.mem record).mp hrecord
    exact Memory.writable_of_write ((h.wellFormed row hrow).write hread) (h.encodable row hrow)
  · exact fun conflict hconflict => (hover conflict hconflict).1
  · intro conflict hconflict
    obtain ⟨-, a, ha, b, hb, hcontra, hsubject, hleft, hright⟩ := hover conflict hconflict
    exact ⟨(hrecords.mem _).mpr ⟨a, ha, hsubject, hcontra.leftActive, hleft⟩,
      (hrecords.mem _).mpr ⟨b, hb, hcontra.subject.symm.trans hsubject, hcontra.rightActive,
        hright⟩⟩
  · intro conflict hconflict
    obtain ⟨-, a, ha, b, hb, hcontra, -, hleft, hright⟩ := hover conflict hconflict
    rw [key_of_read hleft, key_of_read hright, encode_of_read h ha hleft,
      encode_of_read h hb hright, hcontra.memoryType, hcontra.subject, hcontra.predicate]
    exact ⟨rfl, hcontra.value⟩
  · have hids : conflicts.map (fun conflict => conflict.conflictId) =
        (Memory.selectConflicts s (some ownerSubject) none false).map (fun row => row.conflictId) :=
      Checks.map_of_mapM_ok hrows (fun row => row.conflictId) fun row conflict hread => by
        obtain ⟨left, right, -, -, hfields⟩ := Memory.conflictFromReads_read hread
        exact hfields.conflictId
    rw [hids]
    exact Memory.nodup_selectConflicts h
  · have hpairs : conflicts.map memoryPair =
        (Memory.selectConflicts s (some ownerSubject) none false).map
          fun row => UUID.sortedPair row.leftMemoryId row.rightMemoryId :=
      Checks.map_of_mapM_ok hrows _ fun row conflict hread => by
        obtain ⟨left, right, hleft, hright, hfields⟩ := Memory.conflictFromReads_read hread
        obtain ⟨-, -, -, -, hleftId⟩ := exists_row_of_demand hleft
        obtain ⟨-, -, -, -, hrightId⟩ := exists_row_of_demand hright
        rw [memoryPair, hfields.leftMemory, hfields.rightMemory, hleftId, hrightId]
    have hsorted : (Memory.selectConflicts s (some ownerSubject) none false).map
        (fun row => UUID.sortedPair row.leftMemoryId row.rightMemoryId) =
        (Memory.selectConflicts s (some ownerSubject) none false).map
          fun row => (row.leftMemoryId, row.rightMemoryId) := by
      refine List.map_congr_left fun row hrow => ?_
      exact UUID.sortedPair_of_lt (h.table.ordered row (Memory.mem_selectConflicts.mp hrow).1)
    rw [hpairs, hsorted, Memory.selectConflicts, ((List.perm_insertionSort _ _).map _).nodup_iff]
    exact h.table.pairs.sublist (List.filter_sublist.map _)
  · intro left hleft right hright hkey hvalues
    obtain ⟨a, ha, haSubject, haActive, haRead⟩ := (hrecords.mem left).mp hleft
    obtain ⟨b, hb, hbSubject, hbActive, hbRead⟩ := (hrecords.mem right).mp hright
    rw [key_of_read haRead, key_of_read hbRead, Prod.mk.injEq, Prod.mk.injEq] at hkey
    rw [encode_of_read h ha haRead, encode_of_read h hb hbRead] at hvalues
    have hcontra : Memory.Contradict a b :=
      ⟨haActive, hbActive, hkey.1, hkey.2.1, hkey.2.2, hvalues⟩
    have hne : a.memoryId ≠ b.memoryId := fun hid =>
      hvalues (by rw [Memory.StoreInvariant.eq_of_memoryId h.unique ha hb hid])
    obtain ⟨row, hrow, hopen, hpair⟩ := (h.complete a ha b hb hne).mpr hcontra
    have howned : ∃ owned ∈ s.memories, owned.memoryId = row.leftMemoryId ∧
        owned.subject = ownerSubject := by
      rcases UUID.sortedPair_cases a.memoryId b.memoryId with hsorted | hsorted <;>
        rw [hsorted, Prod.mk.injEq] at hpair
      · exact ⟨a, ha, hpair.1.symm, haSubject⟩
      · exact ⟨b, hb, hpair.1.symm, hbSubject⟩
    have hselect := Memory.mem_selectConflicts.mpr ⟨hrow, hopen, howned⟩
    obtain ⟨hleftStored, hrightStored⟩ := h.table.stored row hrow
    obtain ⟨conflict, hconflict⟩ := Memory.exists_conflictFromReads h h
      (h.conflictsWritten row hrow) (h.table.ordered row hrow) hopen hleftStored hrightStored
    refine ⟨conflict, (Checks.mem_of_mapM_ok hrows).mpr ⟨row, hselect, hconflict⟩, ?_⟩
    rw [(memoryPair_of_read (h.table.ordered row hrow) hconflict).2, hpair,
      (Memory.memoryFromRow_ok haRead).memoryId, (Memory.memoryFromRow_ok hbRead).memoryId]

end Reads

/-- A memory belongs to an identity. -/
def HasIdentity (record : MemoryRecord) (identity : ContextIdentity) : Prop :=
  ∃ memory, supportedMemory record = some memory ∧ memory.identity = identity

/-- A conflict identifier names the pair of two memories. -/
def NamesPair (conflicts : List MemoryConflict) (conflictId : UUID) (left right : MemoryRecord) :
    Prop :=
  ∃ conflict ∈ conflicts, conflict.conflictId = conflictId ∧
    memoryPair conflict = UUID.sortedPair left.memoryId right.memoryId

/-- Two given memories of an identity have different values. -/
structure DifferingPair (memories : List MemoryRecord) (identity : ContextIdentity)
    (left right : MemoryRecord) : Prop where
  /-- The first is given. -/
  leftGiven : left ∈ memories
  /-- The second is given. -/
  rightGiven : right ∈ memories
  /-- The first belongs to the identity. -/
  leftIdentity : HasIdentity left identity
  /-- The second belongs to the identity. -/
  rightIdentity : HasIdentity right identity
  /-- Their canonical values differ. -/
  values : encode left.value ≠ encode right.value

/-- An entry says what the memories and conflicts of its identity say. -/
structure EntryReflects (memories : List MemoryRecord) (conflicts : List MemoryConflict)
    (entry : ContextEntry) : Prop where
  /-- Its evidence is the memories of the identity. -/
  evidence : ∀ memoryId, (∃ value ∈ entry.values, ∃ reference ∈ value.evidence,
    reference.memoryId = memoryId) ↔
      ∃ record ∈ memories, HasIdentity record entry.identity ∧ record.memoryId = memoryId
  /-- It is resolved or conflicted. -/
  state : entry.state = .resolved ∨ entry.state = .conflicted
  /-- It is resolved exactly when no two values differ. -/
  resolved : entry.state = .resolved ↔ ¬∃ left right, DifferingPair memories entry.identity left right
  /-- Every conflict identifier names a pair of memories with different values. -/
  named : ∀ conflictId ∈ entry.conflictIds, ∃ left right,
    DifferingPair memories entry.identity left right ∧ NamesPair conflicts conflictId left right
  /-- Every such pair is named by exactly one conflict identifier. -/
  covered : ∀ left right, DifferingPair memories entry.identity left right →
    ∃ conflictId ∈ entry.conflictIds, NamesPair conflicts conflictId left right ∧
      ∀ other, NamesPair conflicts other left right → other = conflictId

/-- The entries of a snapshot say what the memories and conflicts say. -/
structure Reflects (memories : List MemoryRecord) (conflicts : List MemoryConflict)
    (entries : List ContextEntry) : Prop where
  /-- No identity has two entries. -/
  identities : (entries.map (·.identity)).Nodup
  /-- An identity has an entry exactly when a memory belongs to it. -/
  entryFor : ∀ identity, identity ∈ entries.map (·.identity) ↔
    ∃ record ∈ memories, HasIdentity record identity
  /-- Every entry says what its identity's memories and conflicts say. -/
  entry : ∀ entry ∈ entries, EntryReflects memories conflicts entry

section Reflection

variable {ownerSubject : PyStr} {memories : List MemoryRecord} {conflicts : List MemoryConflict}

/-- A given memory belongs to an identity when it is among the identity's active memories. -/
theorem mem_memoriesOf {memory : SupportedMemory} {identity : ContextIdentity} :
    memory ∈ memoriesOf (activeOf memories) identity ↔
      memory.record ∈ memories ∧ memory.identity = identity := by
  rw [mem_groupOf, mem_activeOf]

/-- The differing pairs are the contradictory pairs of active memories. -/
theorem differingPair_iff {identity : ContextIdentity} {left right : MemoryRecord} :
    DifferingPair memories identity left right ↔
      ∃ a ∈ memoriesOf (activeOf memories) identity,
        ∃ b ∈ memoriesOf (activeOf memories) identity, a.record = left ∧ b.record = right ∧
          a.canonicalValue ≠ b.canonicalValue := by
  constructor
  · rintro ⟨hleft, hright, ⟨a, ha, haIdentity⟩, ⟨b, hb, hbIdentity⟩, hvalues⟩
    have haRecord := supportedMemory_record ha
    have hbRecord := supportedMemory_record hb
    refine ⟨a, mem_memoriesOf.mpr ⟨by rw [haRecord]; exact hleft, haIdentity⟩, b,
      mem_memoriesOf.mpr ⟨by rw [hbRecord]; exact hright, hbIdentity⟩, haRecord, hbRecord, ?_⟩
    rw [SupportedMemory.canonicalValue_eq, SupportedMemory.canonicalValue_eq, haRecord, hbRecord]
    exact hvalues
  · rintro ⟨a, ha, b, hb, rfl, rfl, hvalues⟩
    obtain ⟨haGiven, haIdentity⟩ := mem_memoriesOf.mp ha
    obtain ⟨hbGiven, hbIdentity⟩ := mem_memoriesOf.mp hb
    rw [SupportedMemory.canonicalValue_eq, SupportedMemory.canonicalValue_eq] at hvalues
    exact ⟨haGiven, hbGiven, ⟨a, supportedMemory_eq_some.mpr rfl, haIdentity⟩,
      ⟨b, supportedMemory_eq_some.mpr rfl, hbIdentity⟩, hvalues⟩

/-- An identity has one value exactly when no two of its memories differ. -/
theorem length_values_eq_one {records : List SupportedMemory} (hsome : records ≠ []) :
    (sortedSet (records.map SupportedMemory.canonicalValue)).length = 1 ↔
      ∀ a ∈ records, ∀ b ∈ records, a.canonicalValue = b.canonicalValue := by
  obtain ⟨first, rest, hrecords⟩ := List.exists_cons_of_ne_nil hsome
  have hfirst : first ∈ records := by
    rw [hrecords]
    exact List.mem_cons_self
  have hmem : ∀ memory ∈ records, memory.canonicalValue ∈
      sortedSet (records.map SupportedMemory.canonicalValue) := fun memory hmemory =>
    mem_sortedSet.mpr (List.mem_map_of_mem hmemory)
  constructor
  · intro hone a ha b hb
    obtain ⟨only, honly⟩ := List.length_eq_one_iff.mp hone
    have haOnly := hmem a ha
    have hbOnly := hmem b hb
    rw [honly, List.mem_singleton] at haOnly hbOnly
    rw [haOnly, hbOnly]
  · intro hall
    have hsame : ∀ text, text ∈ records.map SupportedMemory.canonicalValue ↔
        text ∈ [first.canonicalValue] := by
      intro text
      rw [List.mem_map, List.mem_singleton]
      constructor
      · rintro ⟨memory, hmemory, rfl⟩
        exact hall memory hmemory first hfirst
      · rintro rfl
        exact ⟨first, hfirst, rfl⟩
    rw [sortedSet_congr hsame]
    rfl

/-- An entry built from coherent inputs reflects them. -/
theorem entry_reflects (h : Coherent ownerSubject memories conflicts) {identity : ContextIdentity}
    {entry : ContextEntry}
    (hidentity : ∃ memory ∈ activeOf memories, memory.identity = identity)
    (hentry : EntryFor (activeOf memories) (relevantOf conflicts) identity entry) :
    EntryReflects memories conflicts entry := by
  obtain ⟨-, hvalidated⟩ := h.validated
  have hsame := hentry.sameIdentity
  have hcanonical := canonicalValues_eq hentry.values
  have hlength : entry.values.length = (sortedSet
      ((memoriesOf (activeOf memories) identity).map SupportedMemory.canonicalValue)).length := by
    rw [← hcanonical, List.length_map]
  have hsome : memoriesOf (activeOf memories) identity ≠ [] := by
    obtain ⟨memory, hmemory, hid⟩ := hidentity
    exact List.ne_nil_of_mem (mem_groupOf.mpr ⟨hmemory, hid⟩)
  have hone := length_values_eq_one hsome
  have hresolved : entry.state = .resolved ↔ entry.values.length = 1 := by
    rw [hentry.state]
    by_cases hvalues : entry.values.length = 1 <;> simp [hvalues]
  constructor
  · intro memoryId
    have hperm := evidence_perm hentry.values
    have hevidence : (∃ value ∈ entry.values, ∃ reference ∈ value.evidence,
        reference.memoryId = memoryId) ↔
          memoryId ∈ (entry.values.flatMap (·.evidence)).map (·.memoryId) := by
      simp only [List.mem_map, List.mem_flatMap]
      constructor
      · rintro ⟨value, hvalue, reference, hreference, hid⟩
        exact ⟨reference, ⟨value, hvalue, hreference⟩, hid⟩
      · rintro ⟨reference, ⟨value, hvalue, hreference⟩, hid⟩
        exact ⟨value, hvalue, reference, hreference, hid⟩
    rw [hevidence, hperm.mem_iff, hsame]
    simp only [List.mem_map, List.mem_flatten, mem_groupsBy]
    constructor
    · rintro ⟨memory, ⟨_, ⟨other, -, rfl⟩, hmemory⟩, hid⟩
      obtain ⟨hgiven, hmember⟩ := mem_memoriesOf.mp (mem_groupOf.mp hmemory).1
      exact ⟨memory.record, hgiven, ⟨memory, supportedMemory_eq_some.mpr rfl, hmember⟩, hid⟩
    · rintro ⟨record, hrecord, ⟨memory, hmemory, hmember⟩, hid⟩
      have hsupported := supportedMemory_record hmemory
      have hinside : memory ∈ memoriesOf (activeOf memories) identity :=
        mem_memoriesOf.mpr ⟨by rw [hsupported]; exact hrecord, hmember⟩
      refine ⟨memory, ⟨_, ⟨memory, hinside, rfl⟩, mem_groupOf.mpr ⟨hinside, rfl⟩⟩, ?_⟩
      rw [SupportedMemory.memoryId, hsupported]
      exact hid
  · rw [hentry.state]
    by_cases hvalues : entry.values.length = 1 <;> simp [hvalues]
  · rw [hresolved, hlength, hone, hsame]
    constructor
    · rintro hall ⟨left, right, hdiffer⟩
      obtain ⟨a, ha, b, hb, -, -, hvalues⟩ := differingPair_iff.mp hdiffer
      exact hvalues (hall a ha b hb)
    · intro hnone a ha b hb
      by_contra hvalues
      exact hnone ⟨a.record, b.record, differingPair_iff.mpr ⟨a, ha, b, hb, rfl, rfl, hvalues⟩⟩
  · intro conflictId hconflictId
    rw [hentry.conflictIds, conflictIdsFor, mem_sortBy, List.mem_map] at hconflictId
    obtain ⟨item, hitem, rfl⟩ := hconflictId
    rw [List.mem_filter, decide_eq_true_eq] at hitem
    obtain ⟨left, hleft, right, hright, hcontra, hpair⟩ := hvalidated.covers.sound item hitem.1
    have hleftIdentity := (hvalidated.identities item hitem.1 left hleft right hright hcontra
      hpair).symm.trans hitem.2
    have hrightIdentity : right.identity = identity :=
      (SupportedMemory.identity_eq_iff.mpr hcontra.key).symm.trans hleftIdentity
    refine ⟨left.record, right.record, ?_, item.conflict, mem_relevantOf.mp hitem.1, rfl, hpair⟩
    rw [hsame]
    exact differingPair_iff.mpr ⟨left, mem_groupOf.mpr ⟨hleft, hleftIdentity⟩, right,
      mem_groupOf.mpr ⟨hright, hrightIdentity⟩, rfl, rfl, hcontra.values⟩
  · intro left right hdiffer
    rw [hsame] at hdiffer
    obtain ⟨a, ha, b, hb, rfl, rfl, hvalues⟩ := differingPair_iff.mp hdiffer
    obtain ⟨haActive, haIdentity⟩ := mem_groupOf.mp ha
    obtain ⟨hbActive, hbIdentity⟩ := mem_groupOf.mp hb
    have hcontra : Contradictory a b :=
      ⟨SupportedMemory.identity_eq_iff.mp (haIdentity.trans hbIdentity.symm), hvalues⟩
    obtain ⟨item, hitem, hpair⟩ := hvalidated.covers.complete a haActive b hbActive hcontra
    have hitemIdentity := (hvalidated.identities item hitem a haActive b hbActive hcontra
      hpair).trans haIdentity
    refine ⟨item.conflict.conflictId, ?_, ⟨item.conflict, mem_relevantOf.mp hitem, rfl, hpair⟩, ?_⟩
    · rw [hentry.conflictIds, conflictIdsFor, mem_sortBy]
      exact List.mem_map.mpr ⟨item, List.mem_filter.mpr ⟨hitem, decide_eq_true hitemIdentity⟩, rfl⟩
    · rintro other ⟨conflict, hconflict, rfl, hother⟩
      have hsameConflict := List.inj_on_of_nodup_map h.pairs hconflict
        (mem_relevantOf.mp hitem) (hother.trans hpair.symm)
      rw [hsameConflict]

/-- The entries built from coherent inputs reflect them. -/
theorem entries_reflect (h : Coherent ownerSubject memories conflicts) {entries : List ContextEntry}
    (hentries : buildEntries (activeOf memories) (relevantOf conflicts) = .ok entries) :
    Reflects memories conflicts entries := by
  have hidentities := identities_of_entries hentries
  have hfound : ∀ identity, identity ∈ sortedSet ((activeOf memories).map SupportedMemory.identity) ↔
      ∃ memory ∈ activeOf memories, memory.identity = identity := fun identity => by
    rw [mem_sortedSet, List.mem_map]
  constructor
  · rw [hidentities]
    exact (pairwise_sortedSet _).imp fun hlt => ne_of_lt hlt
  · intro identity
    rw [hidentities, hfound]
    constructor
    · rintro ⟨memory, hmemory, hidentity⟩
      exact ⟨memory.record, mem_activeOf.mp hmemory, memory, supportedMemory_eq_some.mpr rfl,
        hidentity⟩
    · rintro ⟨record, hrecord, memory, hmemory, hidentity⟩
      refine ⟨memory, mem_activeOf.mpr ?_, hidentity⟩
      rw [supportedMemory_record hmemory]
      exact hrecord
  · intro entry hentry
    obtain ⟨identity, hidentity, hbuilt⟩ := (Checks.mem_of_mapM_ok hentries).mp hentry
    exact entry_reflects h ((hfound identity).mp hidentity) (buildEntry_ok hbuilt)

end Reflection

section Soundness

variable (floatRepr : Rat → FloatToken) (p : Platform)

/-- The personal context of an owner over a store: the reads return for a valid owner, and what
they return projects, in every order, to one snapshot that reflects it. -/
structure ProjectsSoundly (s : MemoryStore) (ownerSubject : PyStr) : Prop where
  /-- The reads return for an owner that can be stored. -/
  reads : Memory.NonemptyText ownerSubject → utf8Encodable ownerSubject = true →
    ∃ memories conflicts, queryMemories s (ownerQuery ownerSubject) = .ok memories ∧
      listConflicts s (some ownerSubject) none false = .ok conflicts
  /-- What the reads return projects to a snapshot that reflects it. -/
  projects : ∀ memories conflicts,
    queryMemories s (ownerQuery ownerSubject) = .ok memories →
    listConflicts s (some ownerSubject) none false = .ok conflicts →
    ∃ snapshot, Reflects memories conflicts snapshot.entries ∧
      ∀ memories' conflicts', memories'.Perm memories → conflicts'.Perm conflicts →
        project floatRepr p ownerSubject memories' conflicts' = .ok snapshot

end Soundness

end PersonalContext
end AyyoHumanoid
