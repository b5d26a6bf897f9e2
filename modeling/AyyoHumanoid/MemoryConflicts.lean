import AyyoHumanoid.MemoryTransactions

/-!
# Conflict completeness of the memory store

Two stored memories contradict each other when both are active, have one key
and different canonical values. The store keeps one unresolved conflict row for
every contradicting pair and none for any other pair, through every sequence of
additions, corrections and retractions, rolled-back calls included.
-/

namespace AyyoHumanoid
namespace Memory

open PyText JsonText IsoText Transaction

/-- Two memories contradict each other. -/
structure Contradict (a b : MemoryRow) : Prop where
  /-- The first is active. -/
  leftActive : a.status = .active
  /-- The second is active. -/
  rightActive : b.status = .active
  /-- They have one type. -/
  memoryType : a.memoryType = b.memoryType
  /-- They have one subject. -/
  subject : a.subject = b.subject
  /-- They have one predicate. -/
  predicate : a.predicate = b.predicate
  /-- Their canonical values differ. -/
  value : a.valueJson ≠ b.valueJson

instance (a b : MemoryRow) : Decidable (Contradict a b) :=
  decidable_of_iff
    (a.status = .active ∧ b.status = .active ∧ a.memoryType = b.memoryType ∧
      a.subject = b.subject ∧ a.predicate = b.predicate ∧ a.valueJson ≠ b.valueJson)
    ⟨fun ⟨h1, h2, h3, h4, h5, h6⟩ => ⟨h1, h2, h3, h4, h5, h6⟩,
      fun ⟨h1, h2, h3, h4, h5, h6⟩ => ⟨h1, h2, h3, h4, h5, h6⟩⟩

/-- Contradiction is symmetric. -/
theorem Contradict.symm {a b : MemoryRow} (h : Contradict a b) : Contradict b a :=
  ⟨h.rightActive, h.leftActive, h.memoryType.symm, h.subject.symm, h.predicate.symm,
    h.value.symm⟩

/-- An unresolved conflict row over two identifiers is stored. -/
def OpenPair (conflicts : List ConflictRow) (x y : UUID) : Prop :=
  ∃ conflict ∈ conflicts, conflict.resolvedAt = none ∧
    (conflict.leftMemoryId, conflict.rightMemoryId) = UUID.sortedPair x y

/-- A pair is open in either order. -/
theorem openPair_comm {conflicts : List ConflictRow} {x y : UUID} :
    OpenPair conflicts x y ↔ OpenPair conflicts y x := by
  rw [OpenPair, OpenPair, UUID.sortedPair_comm x y]

/-- A pair open in joined tables is open in one of them. -/
theorem openPair_append {left right : List ConflictRow} {x y : UUID} :
    OpenPair (left ++ right) x y ↔ OpenPair left x y ∨ OpenPair right x y := by
  simp only [OpenPair, List.mem_append, or_and_right, exists_or]

/-- The identifiers of an open pair belong to a row's two memories. -/
theorem OpenPair.stored {s : MemoryStore} (htable : ConflictTable s) {x y : UUID}
    (h : OpenPair s.conflicts x y) : Stored s.memories x ∧ Stored s.memories y := by
  obtain ⟨conflict, hconflict, -, hpair⟩ := h
  obtain ⟨hleft, hright⟩ := htable.stored conflict hconflict
  rcases UUID.sortedPair_cases x y with hsorted | hsorted <;> rw [hsorted] at hpair <;>
    obtain ⟨hl, hr⟩ := Prod.mk.inj hpair <;> rw [hl] at hleft <;> rw [hr] at hright
  · exact ⟨hleft, hright⟩
  · exact ⟨hright, hleft⟩

/-- Two sorted pairs that share one identifier share the other. -/
theorem sortedPair_right_inj {x y z : UUID} (h : UUID.sortedPair x z = UUID.sortedPair y z) :
    x = y := by
  rcases UUID.sortedPair_cases x z with hx | hx <;> rcases UUID.sortedPair_cases y z with hy | hy <;>
    rw [hx, hy] at h <;> obtain ⟨h1, h2⟩ := Prod.mk.inj h
  · exact h1
  · exact h1.trans h2
  · exact h2.trans h1
  · exact h2

/-- Open conflicts are exactly the contradictions between stored memories. -/
def Complete (s : MemoryStore) : Prop :=
  ∀ a ∈ s.memories, ∀ b ∈ s.memories, a.memoryId ≠ b.memoryId →
    (OpenPair s.conflicts a.memoryId b.memoryId ↔ Contradict a b)

/-- What holds of every reachable store. -/
structure StoreInvariant (s : MemoryStore) : Prop where
  /-- Memory identifiers are unique. -/
  unique : (s.memories.map (·.memoryId)).Nodup
  /-- Every row was written from a record. -/
  wellFormed : ∀ row ∈ s.memories, row.WellFormed
  /-- The conflict table meets its constraints. -/
  table : ConflictTable s
  /-- Open conflicts are exactly the contradictions. -/
  complete : Complete s

/-- Rows with one identifier are one row. -/
theorem StoreInvariant.eq_of_memoryId {s : MemoryStore}
    (hunique : (s.memories.map (·.memoryId)).Nodup) {a b : MemoryRow} (ha : a ∈ s.memories)
    (hb : b ∈ s.memories) (h : a.memoryId = b.memoryId) : a = b := by
  have hfound := rowFor_of_mem hunique ha
  rw [h, rowFor_of_mem hunique hb] at hfound
  exact (Option.some.inj hfound).symm

/-- The empty store satisfies the invariant. -/
theorem storeInvariant_empty : StoreInvariant .empty where
  unique := List.nodup_nil
  wellFormed := by simp [MemoryStore.empty]
  table := ⟨List.nodup_nil, List.nodup_nil, by simp [MemoryStore.empty],
    by simp [MemoryStore.empty]⟩
  complete := by simp [Complete, MemoryStore.empty]

/-- A fresh row keeps identifiers unique. -/
theorem nodup_append_fresh {memories : List MemoryRow} {row : MemoryRow}
    (hunique : (memories.map (·.memoryId)).Nodup)
    (hfresh : ∀ other ∈ memories, other.memoryId ≠ row.memoryId) :
    ((memories ++ [row]).map (·.memoryId)).Nodup := by
  rw [List.map_append, List.nodup_append]
  refine ⟨hunique, by simp, ?_⟩
  intro id hid other hother heq
  obtain ⟨existing, hexisting, rfl⟩ := List.mem_map.mp hid
  simp only [List.map_cons, List.map_nil, List.mem_singleton] at hother
  exact hfresh existing hexisting (heq.trans hother)

section Insert

variable {memories : List MemoryRow} {conflicts recorded : List ConflictRow} {row : MemoryRow}
  {record : MemoryRecord}

/-- The columns of a written record that decide its contradictions. -/
theorem recordRow_key {record : MemoryRecord} {row : MemoryRow}
    (h : recordRow record = .ok row) : row.memoryId = record.memoryId ∧
      row.memoryType = record.memoryType ∧ row.subject = record.subject ∧
        row.predicate = record.predicate ∧ row.status = record.status := by
  obtain ⟨-, -, -, rfl⟩ := recordRow_ok.mp h
  exact ⟨rfl, rfl, rfl, rfl, rfl⟩

/-- A new conflict pairs the new row with a contradicting row, and every contradicting row
gets one. -/
theorem openPair_newConflicts (hwritten : recordRow record = .ok row)
    (hactive : record.status = .active)
    (hunique : ((memories ++ [row]).map (·.memoryId)).Nodup) {a : MemoryRow}
    (ha : a ∈ memories) (hne : a.memoryId ≠ row.memoryId) (uuids : Nat → UUID) :
    OpenPair (newConflicts record row.valueJson (rivalRows record (memories ++ [row])) uuids)
      a.memoryId row.memoryId ↔ Contradict a row := by
  obtain ⟨hid, htype, hsubject, hpredicate, hstatus⟩ := recordRow_key hwritten
  have hmem : a ∈ memories ++ [row] := List.mem_append_left _ ha
  constructor
  · rintro ⟨conflict, hconflict, -, hpair⟩
    obtain ⟨rival, hrival, hvalue, conflictId, rfl⟩ := mem_newConflicts hconflict
    obtain ⟨hstored, hrtype, hrsubject, hrpredicate, hractive, -⟩ := mem_rivalRows.mp hrival
    rw [hid] at hpair
    have hsame : rival.memoryId = a.memoryId := sortedPair_right_inj hpair
    obtain rfl := StoreInvariant.eq_of_memoryId (s := ⟨memories ++ [row], []⟩) hunique hstored
      hmem hsame
    exact ⟨hractive, hstatus.trans hactive, hrtype.trans htype.symm,
      hrsubject.trans hsubject.symm, hrpredicate.trans hpredicate.symm, hvalue⟩
  · intro hcontradict
    have hrival : a ∈ rivalRows record (memories ++ [row]) := mem_rivalRows.mpr
      ⟨hmem, hcontradict.memoryType.trans htype, hcontradict.subject.trans hsubject,
        hcontradict.predicate.trans hpredicate, hcontradict.leftActive, hid ▸ hne⟩
    obtain ⟨conflictId, hconflict⟩ := exists_newConflict hrival hcontradict.value uuids
    exact ⟨_, hconflict, rfl, by rw [hid]; rfl⟩

/-- New conflicts never pair two rows other than the new one. -/
theorem not_openPair_newConflicts (hwritten : recordRow record = .ok row) {rows : List MemoryRow}
    {uuids : Nat → UUID} {x y : UUID} (hx : x ≠ row.memoryId) (hy : y ≠ row.memoryId) :
    ¬OpenPair (newConflicts record row.valueJson rows uuids) x y := by
  rintro ⟨conflict, hconflict, -, hpair⟩
  obtain ⟨rival, -, -, conflictId, rfl⟩ := mem_newConflicts hconflict
  obtain ⟨hid, -⟩ := recordRow_key hwritten
  have hrecord : record.memoryId = x ∨ record.memoryId = y := by
    have hpair : UUID.sortedPair rival.memoryId record.memoryId = UUID.sortedPair x y := hpair
    rcases UUID.sortedPair_cases rival.memoryId record.memoryId with h | h <;>
      rcases UUID.sortedPair_cases x y with h' | h' <;> rw [h, h'] at hpair <;>
      obtain ⟨h1, h2⟩ := Prod.mk.inj hpair
    · exact Or.inr h2
    · exact Or.inl h2
    · exact Or.inl h1
    · exact Or.inr h1
  rcases hrecord with h | h
  · exact hx (h.symm.trans hid.symm)
  · exact hy (h.symm.trans hid.symm)

/-- Inserting an active row together with its conflicts keeps completeness; conflicts that
are recorded as resolved do not matter. -/
theorem Complete.insert (hcomplete : Complete ⟨memories, conflicts⟩)
    (htable : ConflictTable ⟨memories, conflicts⟩)
    (hunique : (memories.map (·.memoryId)).Nodup)
    (hfresh : ∀ other ∈ memories, other.memoryId ≠ row.memoryId)
    (hwritten : recordRow record = .ok row) (hactive : record.status = .active)
    (hrecorded : ∀ conflict ∈ recorded, conflict.resolvedAt ≠ none) (uuids : Nat → UUID) :
    Complete ⟨memories ++ [row], conflicts ++ recorded ++
      newConflicts record row.valueJson (rivalRows record (memories ++ [row])) uuids⟩ := by
  have hclosed : ∀ x y, ¬OpenPair recorded x y := fun x y ⟨conflict, hconflict, hopen, _⟩ =>
    hrecorded conflict hconflict hopen
  have hold : ∀ x, ¬OpenPair conflicts x row.memoryId := fun x hopen => by
    obtain ⟨other, hother, hid⟩ := (hopen.stored htable).2
    exact hfresh other hother hid
  have hwith : ∀ a ∈ memories,
      (OpenPair (conflicts ++ recorded ++
        newConflicts record row.valueJson (rivalRows record (memories ++ [row])) uuids)
          a.memoryId row.memoryId ↔ Contradict a row) := by
    intro a ha
    rw [openPair_append, openPair_append, openPair_newConflicts hwritten hactive
      (nodup_append_fresh hunique hfresh) ha (hfresh a ha)]
    simp [hold, hclosed]
  intro a ha b hb hne
  rcases List.mem_append.mp ha with ha | ha <;> rcases List.mem_append.mp hb with hb | hb
  · rw [openPair_append, openPair_append, hcomplete a ha b hb hne]
    simp [hclosed, not_openPair_newConflicts hwritten (hfresh a ha) (hfresh b hb)]
  · rw [List.mem_singleton.mp hb]
    exact hwith a ha
  · rw [List.mem_singleton.mp ha, openPair_comm, hwith b hb]
    exact ⟨Contradict.symm, Contradict.symm⟩
  · rw [List.mem_singleton.mp ha, List.mem_singleton.mp hb] at hne
    exact absurd rfl hne

end Insert

/-- A status update keeps the columns of a row's key and value. -/
theorem MemoryRow.mark_key (row : MemoryRow) (memoryId : UUID) (status : MemoryStatus)
    (changedAt : Civil) (reason : Option PyStr) :
    (row.mark memoryId status changedAt reason).memoryType = row.memoryType ∧
      (row.mark memoryId status changedAt reason).subject = row.subject ∧
      (row.mark memoryId status changedAt reason).predicate = row.predicate ∧
      (row.mark memoryId status changedAt reason).valueJson = row.valueJson := by
  unfold MemoryRow.mark
  split <;> exact ⟨rfl, rfl, rfl, rfl⟩

section Mark

variable {memoryId : UUID} {status : MemoryStatus} {changedAt : Civil} {reason : Option PyStr}

/-- After a row became inactive, the active rows are the other active rows. -/
theorem MemoryRow.mark_active {row : MemoryRow} (hstatus : status ≠ .active) :
    (row.mark memoryId status changedAt reason).status = .active ↔
      row.status = .active ∧ row.memoryId ≠ memoryId := by
  unfold MemoryRow.mark
  split
  · next h => simp [MemoryRow.withStatus, hstatus, h.1]
  · next h =>
    constructor
    · intro hactive
      exact ⟨hactive, fun hid => h ⟨hid, hactive⟩⟩
    · exact fun hactive => hactive.1

/-- After a row became inactive, contradictions are those of the other rows. -/
theorem contradict_mark {a b : MemoryRow} (hstatus : status ≠ .active) :
    Contradict (a.mark memoryId status changedAt reason)
        (b.mark memoryId status changedAt reason) ↔
      Contradict a b ∧ a.memoryId ≠ memoryId ∧ b.memoryId ≠ memoryId := by
  obtain ⟨hat, has, hap, hav⟩ := a.mark_key memoryId status changedAt reason
  obtain ⟨hbt, hbs, hbp, hbv⟩ := b.mark_key memoryId status changedAt reason
  constructor
  · rintro ⟨h1, h2, h3, h4, h5, h6⟩
    obtain ⟨ha, haid⟩ := (MemoryRow.mark_active hstatus).mp h1
    obtain ⟨hb, hbid⟩ := (MemoryRow.mark_active hstatus).mp h2
    exact ⟨⟨ha, hb, by rw [← hat, ← hbt, h3], by rw [← has, ← hbs, h4], by rw [← hap, ← hbp, h5],
      by rwa [hav, hbv] at h6⟩, haid, hbid⟩
  · rintro ⟨⟨h1, h2, h3, h4, h5, h6⟩, haid, hbid⟩
    exact ⟨(MemoryRow.mark_active hstatus).mpr ⟨h1, haid⟩,
      (MemoryRow.mark_active hstatus).mpr ⟨h2, hbid⟩, by rw [hat, hbt, h3], by rw [has, hbs, h4],
      by rw [hap, hbp, h5], by rwa [hav, hbv]⟩

/-- After resolving a memory's conflicts, the open pairs are those without the memory. -/
theorem openPair_resolveRows {conflicts : List ConflictRow} {x y : UUID} {resolvedAt : Civil}
    {resolution : Option UUID} :
    OpenPair (resolveRows conflicts memoryId resolvedAt resolution) x y ↔
      OpenPair conflicts x y ∧ x ≠ memoryId ∧ y ≠ memoryId := by
  have hpair : ∀ conflict : ConflictRow,
      (conflict.leftMemoryId, conflict.rightMemoryId) = UUID.sortedPair x y →
        ((conflict.leftMemoryId ≠ memoryId ∧ conflict.rightMemoryId ≠ memoryId) ↔
          x ≠ memoryId ∧ y ≠ memoryId) := by
    intro conflict h
    rcases UUID.sortedPair_cases x y with hsorted | hsorted <;> rw [hsorted] at h <;>
      obtain ⟨hl, hr⟩ := Prod.mk.inj h <;> rw [hl, hr]
    exact and_comm
  constructor
  · rintro ⟨conflict, hconflict, hopen, hsorted⟩
    obtain ⟨old, hold, rfl⟩ := List.mem_map.mp hconflict
    obtain ⟨hopen, hsides⟩ := ConflictRow.resolve_resolvedAt_eq_none.mp hopen
    simp only [ConflictRow.resolve_left, ConflictRow.resolve_right] at hsorted
    exact ⟨⟨old, hold, hopen, hsorted⟩, (hpair old hsorted).mp hsides⟩
  · rintro ⟨⟨old, hold, hopen, hsorted⟩, hsides⟩
    refine ⟨old.resolve memoryId resolvedAt resolution, List.mem_map_of_mem hold, ?_, by simpa⟩
    exact ConflictRow.resolve_resolvedAt_eq_none.mpr ⟨hopen, (hpair old hsorted).mpr hsides⟩

/-- Making a memory inactive and resolving its conflicts keeps completeness. -/
theorem Complete.mark {memories : List MemoryRow} {conflicts : List ConflictRow}
    (hcomplete : Complete ⟨memories, conflicts⟩) (hstatus : status ≠ .active)
    (resolvedAt : Civil) (resolution : Option UUID) :
    Complete ⟨markRows memories memoryId status changedAt reason,
      resolveRows conflicts memoryId resolvedAt resolution⟩ := by
  intro a ha b hb hne
  obtain ⟨x, hx, rfl⟩ := List.mem_map.mp ha
  obtain ⟨y, hy, rfl⟩ := List.mem_map.mp hb
  rw [MemoryRow.mark_memoryId, MemoryRow.mark_memoryId] at hne ⊢
  rw [openPair_resolveRows, contradict_mark hstatus, hcomplete x hx y hy hne]

/-- A status update keeps identifiers unique. -/
theorem nodup_markRows {memories : List MemoryRow}
    (hunique : (memories.map (·.memoryId)).Nodup) :
    ((markRows memories memoryId status changedAt reason).map (·.memoryId)).Nodup := by
  simpa [markRows, Function.comp_def] using hunique

/-- A status update with a valid reason and time keeps every row well formed. -/
theorem wellFormed_markRows {memories : List MemoryRow}
    (hunique : (memories.map (·.memoryId)).Nodup) (hrows : ∀ row ∈ memories, row.WellFormed)
    {targetRow : MemoryRow} {target : MemoryRecord} {text : PyStr}
    (hfound : rowFor memories memoryId = some targetRow)
    (hread : memoryFromRow targetRow = .ok target) (hstatus : status ≠ .active)
    (htime : target.createdAt.civil ≤ changedAt) (htext : NonemptyText text) :
    ∀ row ∈ markRows memories memoryId status changedAt (some text), row.WellFormed := by
  intro row hrow
  obtain ⟨old, hold, rfl⟩ := List.mem_map.mp hrow
  unfold MemoryRow.mark
  split
  · next h =>
    have hsame := rowFor_of_mem hunique hold
    rw [h.1, hfound] at hsame
    cases hsame
    exact (hrows _ hold).withStatus hread hstatus htime htext
  · exact hrows old hold

/-- A status update and the resolution of conflicts keep the conflict table's constraints. -/
theorem ConflictTable.mark {s : MemoryStore} (h : ConflictTable s) (resolvedAt : Civil)
    (resolution : Option UUID) :
    ConflictTable ⟨markRows s.memories memoryId status changedAt reason,
      resolveRows s.conflicts memoryId resolvedAt resolution⟩ :=
  (h.mono fun _ hid => stored_markRows.mpr hid).resolve _ _ _

end Mark

/-- A call on the store. `uuids` are the values its `uuid4()` calls return. -/
inductive StoreCall where
  /-- `add_memory`. -/
  | add (record : MemoryRecord) (uuids : Nat → UUID)
  /-- `correct_memory`. -/
  | correct (targetId : UUID) (replacement : MemoryRecord) (uuids : Nat → UUID)
  /-- `retract_memory`. -/
  | retract (memoryId : UUID) (reason : PyStr) (retractedAt : PyDatetime)

/-- Run one call. -/
def StoreCall.run : StoreCall → StoreM MemoryRecord
  | .add record uuids => addMemory record uuids
  | .correct targetId replacement uuids => correctMemory targetId replacement uuids
  | .retract memoryId reason retractedAt => retractMemory memoryId reason retractedAt

/-- The store after a sequence of calls on the empty store; a call that raises is rolled back. -/
def storeAfter (calls : List StoreCall) : MemoryStore :=
  runAll StoreCall.run .empty calls

/-- The reason of a revision is nonempty text. -/
theorem revisionReason_text {replacement : MemoryRecord} {targetId : UUID}
    (h : replacement.supersedes = some targetId) :
    ∃ text, replacement.revisionReason = some text ∧ NonemptyText text :=
  replacement.valid.revisionReason (by simp [h])

/-- An addition keeps the invariant. -/
theorem StoreInvariant.add {s s' : MemoryStore} (h : StoreInvariant s) {record : MemoryRecord}
    {uuids : Nat → UUID} {row : MemoryRow} (hadded : Added record uuids s s' row) :
    StoreInvariant s' := by
  have hmemories := hadded.memories
  have hconflicts := hadded.conflicts
  have hnone : ∀ conflict ∈ ([] : List ConflictRow), conflict.resolvedAt ≠ none := by simp
  have hcomplete := Complete.insert h.complete h.table h.unique
    hadded.admissible.primaryKey hadded.written hadded.active hnone uuids
  rw [List.append_nil, ← hmemories, ← hconflicts] at hcomplete
  refine ⟨?_, ?_, hadded.table h.table, hcomplete⟩
  · rw [hmemories]
    exact nodup_append_fresh h.unique hadded.admissible.primaryKey
  · rw [hmemories]
    intro other hother
    rcases List.mem_append.mp hother with hother | hother
    · exact h.wellFormed other hother
    · rw [List.mem_singleton.mp hother]
      exact ⟨record, hadded.written⟩

/-- A correction keeps the invariant. -/
theorem StoreInvariant.correct {s s' : MemoryStore} (h : StoreInvariant s) {targetId : UUID}
    {replacement target : MemoryRecord} {targetRow row : MemoryRow}
    {recorded added : List ConflictRow}
    (hcorrected : Corrected targetId replacement s s' targetRow target row recorded added) :
    StoreInvariant s' := by
  obtain ⟨text, hreason, htext⟩ := revisionReason_text hcorrected.supersedes
  have hmemories := hcorrected.memories
  have hadmissible := hcorrected.admissible
  have hclosed : ∀ conflict ∈ recorded, conflict.resolvedAt ≠ none := by
    intro conflict hconflict
    rcases hcorrected.recordedShape with rfl | ⟨conflictId, rfl⟩
    · cases hconflict
    · rw [List.mem_singleton.mp hconflict]
      simp [correctionConflict, conflictRow]
  obtain ⟨uuids, hadded⟩ := hcorrected.addedShape
  have hsuperseded : MemoryStatus.superseded ≠ .active := by decide
  rw [hreason] at hmemories hadmissible
  have hunique : ((markRows s.memories targetId .superseded replacement.createdAt.civil
      (some text)).map (·.memoryId)).Nodup := nodup_markRows h.unique
  have hcomplete := Complete.insert
    (h.complete.mark hsuperseded replacement.createdAt.civil (some replacement.memoryId))
    (h.table.mark replacement.createdAt.civil (some replacement.memoryId)) hunique
    hadmissible.primaryKey hcorrected.written hcorrected.replacementActive hclosed uuids
  rw [← hmemories, ← hadded, ← hcorrected.conflicts] at hcomplete
  refine ⟨?_, ?_, hcorrected.table h.table, hcomplete⟩
  · rw [hmemories]
    exact nodup_append_fresh hunique hadmissible.primaryKey
  · rw [hmemories]
    intro other hother
    rcases List.mem_append.mp hother with hother | hother
    · exact wellFormed_markRows h.unique h.wellFormed hcorrected.found hcorrected.read
        hsuperseded hcorrected.time htext other hother
    · rw [List.mem_singleton.mp hother]
      exact ⟨replacement, hcorrected.written⟩

/-- A retraction keeps the invariant. -/
theorem StoreInvariant.retract {s s' : MemoryStore} (h : StoreInvariant s) {memoryId : UUID}
    {reason : PyStr} {retractedAt : Civil} {row : MemoryRow} {record : MemoryRecord}
    (hretracted : Retracted memoryId reason retractedAt s s' row record) :
    StoreInvariant s' := by
  have hstate : s' = ⟨markRows s.memories memoryId .retracted retractedAt (some reason),
      resolveRows s.conflicts memoryId retractedAt none⟩ := by
    cases s'
    exact congrArg₂ _ hretracted.memories hretracted.conflicts
  have hstatus : MemoryStatus.retracted ≠ .active := by decide
  rw [hstate]
  exact ⟨nodup_markRows h.unique,
    wellFormed_markRows h.unique h.wellFormed hretracted.found hretracted.read hstatus
      hretracted.time hretracted.reasonText,
    h.table.mark _ _, h.complete.mark hstatus _ _⟩

/-- Every committed call keeps the invariant. -/
theorem StoreInvariant.step {call : StoreCall} {s s' : MemoryStore} {result : MemoryRecord}
    (h : StoreInvariant s) (hrun : call.run.run s = .ok (result, s')) : StoreInvariant s' := by
  cases call with
  | add record uuids =>
    obtain ⟨-, row, hadded⟩ := addMemory_ok hrun
    exact h.add hadded
  | correct targetId replacement uuids =>
    obtain ⟨-, targetRow, target, row, recorded, added, hcorrected⟩ := correctMemory_ok hrun
    exact h.correct hcorrected
  | retract memoryId reason retractedAt =>
    obtain ⟨-, -, row, record, hretracted⟩ := retractMemory_ok hrun
    exact h.retract hretracted

/-- The invariant holds after every sequence of calls. -/
theorem storeInvariant_storeAfter (calls : List StoreCall) : StoreInvariant (storeAfter calls) :=
  runAll_invariant (fun _ _ _ _ h hrun => h.step hrun) storeInvariant_empty calls

/-- The unresolved conflict rows over two memories. -/
def unresolvedOver (s : MemoryStore) (a b : UUID) : List ConflictRow :=
  s.conflicts.filter fun row => row.resolvedAt = none ∧
    ((row.leftMemoryId = a ∧ row.rightMemoryId = b) ∨
      (row.leftMemoryId = b ∧ row.rightMemoryId = a))

/-- A sorted row is over two memories when its pair is their sorted pair. -/
theorem over_iff_sortedPair {row : ConflictRow} (hordered : row.leftMemoryId < row.rightMemoryId)
    (a b : UUID) :
    ((row.leftMemoryId = a ∧ row.rightMemoryId = b) ∨
      (row.leftMemoryId = b ∧ row.rightMemoryId = a)) ↔
      (row.leftMemoryId, row.rightMemoryId) = UUID.sortedPair a b := by
  constructor
  · rintro (⟨rfl, rfl⟩ | ⟨rfl, rfl⟩)
    · rw [UUID.sortedPair_of_lt hordered]
    · rw [UUID.sortedPair_comm, UUID.sortedPair_of_lt hordered]
  · intro h
    rcases UUID.sortedPair_cases a b with hsorted | hsorted <;> rw [hsorted] at h <;>
      obtain ⟨hl, hr⟩ := Prod.mk.inj h
    · exact Or.inl ⟨hl, hr⟩
    · exact Or.inr ⟨hl, hr⟩

/-- At most one row of a table is over two memories. -/
theorem unresolvedOver_length_le {s : MemoryStore} (htable : ConflictTable s) (a b : UUID) :
    (unresolvedOver s a b).length ≤ 1 := by
  have hsub : (unresolvedOver s a b).Sublist s.conflicts := List.filter_sublist
  have hnodup := htable.pairs.sublist (hsub.map fun row => (row.leftMemoryId, row.rightMemoryId))
  have hpair : ∀ row ∈ unresolvedOver s a b,
      (row.leftMemoryId, row.rightMemoryId) = UUID.sortedPair a b := by
    intro row hrow
    simp only [unresolvedOver, List.mem_filter, decide_eq_true_eq] at hrow
    exact (over_iff_sortedPair (htable.ordered row hrow.1) a b).mp hrow.2.2
  match hrows : unresolvedOver s a b with
  | [] => simp
  | [_] => simp
  | first :: second :: rest =>
    rw [hrows] at hnodup hpair
    have hsame := (hpair first (by simp)).trans (hpair second (by simp)).symm
    simp [hsame] at hnodup

/-- An unresolved row over two memories exists exactly when their pair is open. -/
theorem unresolvedOver_ne_nil_iff {s : MemoryStore} (htable : ConflictTable s) (a b : UUID) :
    unresolvedOver s a b ≠ [] ↔ OpenPair s.conflicts a b := by
  constructor
  · intro hne
    obtain ⟨row, hrow⟩ := List.exists_mem_of_ne_nil _ hne
    simp only [unresolvedOver, List.mem_filter, decide_eq_true_eq] at hrow
    exact ⟨row, hrow.1, hrow.2.1, (over_iff_sortedPair (htable.ordered row hrow.1) a b).mp hrow.2.2⟩
  · rintro ⟨row, hrow, hopen, hpair⟩
    refine List.ne_nil_of_mem (a := row) ?_
    simp only [unresolvedOver, List.mem_filter, decide_eq_true_eq]
    exact ⟨hrow, hopen, (over_iff_sortedPair (htable.ordered row hrow) a b).mpr hpair⟩

/-- The origin of an owner statement, for concrete runs. -/
def ownerVoice : Provenance := ⟨.explicitOwnerStatement, py "voice", [], by decide⟩

/-- A record of one owner statement, for concrete runs. -/
def ownerRecord (memoryId : Fin (2 ^ 128)) (value : Json) (createdAt : PyDatetime) : RecordFields where
  memoryId := ⟨memoryId⟩
  memoryType := .preference
  subject := py "owner"
  predicate := py "drink"
  value := value
  provenance := ownerVoice
  confidence := .finite 1
  observedAt := createdAt
  createdAt := createdAt
  status := .active
  statusChangedAt := createdAt

/-- A UTC instant on the first day of 2026 at a given minute, for concrete runs. -/
def minuteOf2026 (minute : Nat) : PyDatetime :=
  PyDatetime.utc ⟨⟨2026, 1, 1, 0, minute % 60, 0, 0⟩, by
    constructor <;> (simp; try first | omega | decide)⟩

/-- Two owner statements with different values, for concrete runs. -/
def teaThenCoffee : List StoreCall :=
  [.add ⟨ownerRecord 1 (.str (py "tea")) (minuteOf2026 0), by decide⟩ fun n => ⟨Fin.ofNat _ n⟩,
    .add ⟨ownerRecord 2 (.str (py "coffee")) (minuteOf2026 1), by decide⟩
      fun n => ⟨Fin.ofNat _ (n + 10)⟩]

/-- After any sequence of calls, two stored memories have exactly one unresolved conflict row
when they contradict each other, and none otherwise. -/
theorem unresolvedOver_storeAfter (calls : List StoreCall) (a b : MemoryRow)
    (ha : a ∈ (storeAfter calls).memories) (hb : b ∈ (storeAfter calls).memories) (hne : a ≠ b) :
    (unresolvedOver (storeAfter calls) a.memoryId b.memoryId).length =
      if Contradict a b then 1 else 0 := by
  have hinv := storeInvariant_storeAfter calls
  have hid : a.memoryId ≠ b.memoryId := fun h =>
    hne (StoreInvariant.eq_of_memoryId hinv.unique ha hb h)
  have hopen := hinv.complete a ha b hb hid
  have hrows := unresolvedOver_ne_nil_iff hinv.table a.memoryId b.memoryId
  have hle := unresolvedOver_length_le hinv.table a.memoryId b.memoryId
  by_cases hcontradict : Contradict a b
  · rw [if_pos hcontradict]
    have hpos := List.length_pos_iff.mpr (hrows.mpr (hopen.mpr hcontradict))
    omega
  · rw [if_neg hcontradict, List.length_eq_zero_iff]
    by_contra hsome
    exact hcontradict (hopen.mp (hrows.mp hsome))

/-- After the two statements, the contradicting memories have one unresolved conflict row. -/
theorem unresolvedOver_teaThenCoffee :
    ∃ a b : MemoryRow, Contradict a b ∧
      (unresolvedOver (storeAfter teaThenCoffee) a.memoryId b.memoryId).length =
        if Contradict a b then 1 else 0 := by
  have hrows : ∃ a ∈ (storeAfter teaThenCoffee).memories,
      ∃ b ∈ (storeAfter teaThenCoffee).memories, a ≠ b ∧ Contradict a b := by decide
  obtain ⟨a, ha, b, hb, hne, hcontradict⟩ := hrows
  exact ⟨a, b, hcontradict, unresolvedOver_storeAfter teaThenCoffee a b ha hb hne⟩

end Memory
end AyyoHumanoid
