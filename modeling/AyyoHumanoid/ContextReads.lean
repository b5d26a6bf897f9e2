import AyyoHumanoid.ContextSoundness

/-!
# Reads that other clients interleave with

Building a snapshot reads the store several times: the memories, then the rows
of the unresolved conflicts, then the two memories of every such row. Other
clients commit any transactions in between. Conflict rows never move to another
pair of memories, so conflicts that pass the projector's checks against the
memories of the first read carry the identifiers they had at the first read, and
the snapshot is that of the first read.
-/

namespace AyyoHumanoid
namespace PersonalContext

open PyText JsonText PyCollections Transaction
open Memory (MemoryRecord MemoryConflict MemoryStore ConflictRow Writable ReadInvariant StoreCall
  storeAfter queryMemories)

/-- The store that each read of a call sees, when other clients commit the given transactions
after that many reads. -/
def storeAtRead (s : MemoryStore) (writes : Nat → List StoreCall) : Nat → MemoryStore
  | 0 => s
  | read + 1 => runAll StoreCall.run (storeAtRead s writes read) (writes read)

/-- The loop of `list_conflicts` over the selected rows, from the given read on. -/
def readConflicts (stores : Nat → MemoryStore) :
    Nat → List ConflictRow → Except Memory.MemoryError (List MemoryConflict)
  | _, [] => .ok []
  | read, row :: rows => do
    let conflict ← Memory.conflictFromReads (stores read).memories (stores (read + 1)).memories row
    let later ← readConflicts stores (read + 2) rows
    pure (conflict :: later)

/-- `list_conflicts` of a subject's unresolved conflicts: one query followed by two reads for
every row. -/
def listConflictsDuring (stores : Nat → MemoryStore) (read : Nat) (subject : PyStr) :
    Except Memory.MemoryError (List MemoryConflict) := do
  Memory.validateFilter (some subject) (py "subject filter")
  Memory.bindTexts [subject]
  readConflicts stores (read + 1) (Memory.selectConflicts (stores read) (some subject) none false)

section Build

variable (floatRepr : Rat → FloatToken) (p : Platform)

/-- `PersonalContextService.build_snapshot` over the stores that its reads see. -/
def buildSnapshotDuring (stores : Nat → MemoryStore) (ownerSubject : PyStr) :
    Except ContextError (PersonalContextSnapshot floatRepr p) := do
  let activeMemories ←
    (queryMemories (stores 0) (ownerQuery ownerSubject)).mapError ofMemoryError
  let unresolvedConflicts ← (listConflictsDuring stores 1 ownerSubject).mapError ofMemoryError
  project floatRepr p ownerSubject activeMemories unresolvedConflicts

end Build

section Reads

variable {s : MemoryStore} {writes : Nat → List StoreCall}

/-- The readers' invariant holds after every sequence of store calls. -/
theorem readInvariant_storeAfter (calls : List StoreCall) : ReadInvariant (storeAfter calls) :=
  runAll_invariant (fun _ _ _ _ h hrun => h.step hrun) Memory.readInvariant_empty calls

/-- Every read sees a store with the readers' invariant. -/
theorem readInvariant_storeAtRead (h : ReadInvariant s) (read : Nat) :
    ReadInvariant (storeAtRead s writes read) := by
  induction read with
  | zero => exact h
  | succ read ih => exact (Memory.readInvariant_runAll ih (writes read)).1

/-- A later read sees an extension of the store an earlier read saw. -/
theorem extends_storeAtRead (h : ReadInvariant s) {earlier later : Nat} (hle : earlier ≤ later) :
    Memory.Extends (storeAtRead s writes earlier) (storeAtRead s writes later) := by
  induction later with
  | zero =>
    have hzero : earlier = 0 := by omega
    rw [hzero]
    exact Memory.Extends.refl _
  | succ later ih =>
    rcases Nat.lt_or_ge later earlier with hlt | hge
    · have hsame : earlier = later + 1 := by omega
      rw [hsame]
      exact Memory.Extends.refl _
    · exact (ih hge).trans
        (Memory.readInvariant_runAll (readInvariant_storeAtRead h later) (writes later)).2

/-- Conflicts that were rebuilt from rows of a store. -/
def FromRows (conflicts : List MemoryConflict) (s : MemoryStore) : Prop :=
  ∀ conflict ∈ conflicts, ∃ row ∈ s.conflicts, conflict.conflictId = row.conflictId ∧
    memoryPair conflict = (row.leftMemoryId, row.rightMemoryId)

/-- A conflict whose memories can be written. -/
def WritableConflict (conflict : MemoryConflict) : Prop :=
  Writable conflict.leftMemory ∧ Writable conflict.rightMemory

/-- A demanded memory can be written. -/
theorem writable_of_demand (h : ReadInvariant s) {memoryId : UUID} {record : MemoryRecord}
    (hread : Memory.demandMemory s.memories memoryId = .ok record) : Writable record := by
  obtain ⟨row, hrow, -, hrecord, -⟩ := exists_row_of_demand hread
  exact Memory.writable_of_write ((h.wellFormed row hrow).write hrecord) (h.encodable row hrow)

/-- The memories of every selected row can be read, whatever was written meanwhile. -/
theorem exists_readConflicts (h : ReadInvariant s) {rows : List ConflictRow} {read : Nat}
    (hrows : ∀ row ∈ rows, row ∈ (storeAtRead s writes 1).conflicts ∧ row.resolvedAt = none)
    (hread : 1 ≤ read) :
    ∃ conflicts, readConflicts (storeAtRead s writes) read rows = .ok conflicts ∧
      FromRows conflicts (storeAtRead s writes 1) ∧
        ∀ conflict ∈ conflicts, WritableConflict conflict := by
  induction rows generalizing read with
  | nil => exact ⟨[], rfl, by simp [FromRows], by simp⟩
  | cons row rows ih =>
    obtain ⟨hrow, hlater⟩ := List.forall_mem_cons.mp hrows
    have hfirst : ReadInvariant (storeAtRead s writes 1) := readInvariant_storeAtRead h 1
    have hleftInv : ReadInvariant (storeAtRead s writes read) := readInvariant_storeAtRead h read
    have hrightInv : ReadInvariant (storeAtRead s writes (read + 1)) :=
      readInvariant_storeAtRead h (read + 1)
    obtain ⟨hleft, hright⟩ := hfirst.table.stored row hrow.1
    have hordered := hfirst.table.ordered row hrow.1
    obtain ⟨conflict, hconflict⟩ := Memory.exists_conflictFromReads hleftInv hrightInv
      (hfirst.conflictsWritten row hrow.1) hordered hrow.2
      ((extends_storeAtRead h hread).stored _ hleft)
      ((extends_storeAtRead h (by omega)).stored _ hright)
    have hnext : 1 ≤ read + 2 := by omega
    obtain ⟨conflicts, hconflicts, hfrom, hwritable⟩ := ih hlater hnext
    obtain ⟨leftRead, rightRead, hleftRead, hrightRead, hfields⟩ :=
      Memory.conflictFromReads_read hconflict
    refine ⟨conflict :: conflicts, ?_, ?_, ?_⟩
    · simp only [readConflicts, Checks.bind_ok, Checks.pure_ok]
      exact ⟨conflict, hconflict, conflicts, hconflicts, rfl⟩
    · exact List.forall_mem_cons.mpr ⟨⟨row, hrow.1, memoryPair_of_read hordered hconflict⟩, hfrom⟩
    · refine List.forall_mem_cons.mpr ⟨⟨?_, ?_⟩, hwritable⟩
      · rw [hfields.leftMemory]
        exact writable_of_demand hleftInv hleftRead
      · rw [hfields.rightMemory]
        exact writable_of_demand hrightInv hrightRead

end Reads

/-- An error of inconsistent sources. -/
def Inconsistent (error : ContextError) : Prop := error.kind = .inconsistentSourceState

section Errors

variable {active : List SupportedMemory} {ownerSubject : PyStr}

/-- A check for inconsistent sources raises nothing else. -/
theorem raises_require {condition : Prop} [Decidable condition] {message : PyStr} :
    RaisesOnly Inconsistent (require condition (inconsistentSource message)) := by
  intro e he
  obtain ⟨-, rfl⟩ := Checks.require_error.mp he
  rfl

/-- Signatures of writable memories are compared without another error. -/
theorem raises_sameSignature (hactive : ∀ memory ∈ active, Writable memory.record)
    {record : MemoryRecord} (hrecord : Writable record) :
    RaisesOnly Inconsistent (sameSignature active record) := by
  unfold sameSignature
  cases hfind : activeById active record.memoryId with
  | none =>
    intro e he
    cases he
    rfl
  | some memory =>
    obtain ⟨current, hcurrent⟩ := exists_recordSignature
      (hactive memory (activeById_eq_some hfind).1)
    obtain ⟨snapshot, hsnapshot⟩ := exists_recordSignature hrecord
    have hanswer : sameSignature active record = .ok (decide (current = snapshot)) := by
      rw [sameSignature, hfind]
      simp only [hcurrent, hsnapshot, Checks.ok_bind]
      rfl
    rw [sameSignature, hfind] at hanswer
    exact RaisesOnly.of_ok hanswer

/-- The checks of a writable conflict raise no other error. -/
theorem raises_checkConflict (hactive : ∀ memory ∈ active, Writable memory.record)
    {conflict : MemoryConflict} (hconflict : WritableConflict conflict) {seen : SeenConflicts} :
    RaisesOnly Inconsistent (checkConflict active seen conflict) := by
  have hleft := canonicalizeJson_ok.mpr ⟨hconflict.1.value, rfl⟩
  have hright := canonicalizeJson_ok.mpr ⟨hconflict.2.value, rfl⟩
  have hsame : RaisesOnly Inconsistent (sameSignatures active conflict) := by
    refine (raises_sameSignature hactive hconflict.1).bind fun same _ => ?_
    cases same with
    | false => exact RaisesOnly.of_ok rfl
    | true => exact raises_sameSignature hactive hconflict.2
  rw [checkConflict, hleft, hright]
  exact raises_require.bind fun _ _ => raises_require.bind fun _ _ => raises_require.bind fun _ _ =>
    raises_require.bind fun _ _ => raises_require.bind fun _ _ => raises_require.bind fun _ _ =>
      hsame.bind fun _ _ => raises_require

/-- The checks of writable conflicts raise no other error. -/
theorem raises_checkConflicts (hactive : ∀ memory ∈ active, Writable memory.record)
    {conflicts : List MemoryConflict} (hconflicts : ∀ conflict ∈ conflicts, WritableConflict conflict)
    {seen : SeenConflicts} :
    RaisesOnly Inconsistent (checkConflicts ownerSubject active seen conflicts) := by
  induction conflicts generalizing seen with
  | nil => exact RaisesOnly.of_ok rfl
  | cons conflict later ih =>
    obtain ⟨hconflict, hlater⟩ := List.forall_mem_cons.mp hconflicts
    rw [checkConflicts]
    refine raises_require.bind fun _ _ => ?_
    split
    · exact ih hlater
    · exact (raises_checkConflict hactive hconflict).bind fun _ _ => (ih hlater).bind fun _ _ =>
        RaisesOnly.of_ok rfl
    · intro e he
      cases he
      rfl

/-- The completeness check over writable memories raises no other error. -/
theorem raises_requireCompleteConflicts (hactive : ∀ memory ∈ active, Writable memory.record)
    {conflicts : List SupportedConflict} :
    RaisesOnly Inconsistent (requireCompleteConflicts active conflicts) := by
  refine RaisesOnly.bind (RaisesOnly.selectM fun pair hpair => ?_) fun _ _ => raises_require
  obtain ⟨hleft, hright⟩ := mem_of_mem_combinations hpair
  by_cases h : Contradictory pair.1 pair.2
  · have hanswer : contradicts pair.1 pair.2 = .ok true :=
      (contradicts_ok (hactive _ hleft).value (hactive _ hright).value).mpr (by simp [h])
    exact RaisesOnly.of_ok hanswer
  · have hanswer : contradicts pair.1 pair.2 = .ok false :=
      (contradicts_ok (hactive _ hleft).value (hactive _ hright).value).mpr (by simp [h])
    exact RaisesOnly.of_ok hanswer

end Errors

section Agreement

variable {active : List SupportedMemory} {first later : List SupportedConflict}

/-- Conflicts over one pair of memories have one identifier, if the second were rebuilt from an
extension of the store of the first. -/
theorem conflictId_of_pair {s s' : MemoryStore} (hextends : Memory.Extends s s')
    (htable : Memory.ConflictTable s') {earlier torn : List MemoryConflict}
    (hearlier : FromRows earlier s) (htorn : FromRows torn s') {left right : MemoryConflict}
    (hleft : left ∈ earlier) (hright : right ∈ torn) (hpair : memoryPair left = memoryPair right) :
    left.conflictId = right.conflictId := by
  obtain ⟨row, hrow, hid, hrowPair⟩ := hearlier left hleft
  obtain ⟨row', hrow', hid', hrowPair'⟩ := htorn right hright
  obtain ⟨kept, hkept, hkeptId, hkeptLeft, hkeptRight⟩ := hextends.conflicts row hrow
  have hsame : kept = row' := by
    refine List.inj_on_of_nodup_map htable.pairs hkept hrow' ?_
    rw [hkeptLeft, hkeptRight, ← hrowPair, hpair, hrowPair']
  rw [hid, hid', ← hkeptId, hsame]

/-- Validated conflicts over the same memories that agree on the identifiers of their pairs are
counted alike under every identity. -/
theorem conflictIdsFor_congr (hfirst : Validated active first) (hlater : Validated active later)
    (hids : ∀ left ∈ first, ∀ right ∈ later,
      memoryPair left.conflict = memoryPair right.conflict →
        left.conflict.conflictId = right.conflict.conflictId) (identity : ContextIdentity) :
    conflictIdsFor identity first = conflictIdsFor identity later := by
  have hnodup : ∀ {items : List SupportedConflict}, Validated active items →
      ((items.filter fun item => item.left.identity = identity).map
        (·.conflict.conflictId)).Nodup := fun h =>
    h.conflictIds.sublist (List.filter_sublist.map _)
  -- Both hold the pairs of memories with different values, so an item of one has its pair in the
  -- other, counted under the same identity.
  have hpartner : ∀ {items others : List SupportedConflict}, Validated active items →
      Validated active others → ∀ item ∈ items, ∃ other ∈ others,
        memoryPair item.conflict = memoryPair other.conflict ∧
          other.left.identity = item.left.identity := by
    intro items others hitems hothers item hitem
    obtain ⟨left, hleft, right, hright, hcontra, hpair⟩ := hitems.covers.sound item hitem
    obtain ⟨other, hother, hsame⟩ := hothers.covers.complete left hleft right hright hcontra
    have hidentity := hitems.identities item hitem left hleft right hright hcontra hpair
    have hidentity' := hothers.identities other hother left hleft right hright hcontra hsame
    exact ⟨other, hother, hpair.trans hsame.symm, hidentity'.trans hidentity.symm⟩
  have hperm : ((first.filter fun item => item.left.identity = identity).map
      (·.conflict.conflictId)).Perm ((later.filter fun item => item.left.identity = identity).map
        (·.conflict.conflictId)) := by
    refine (List.perm_ext_iff_of_nodup (hnodup hfirst) (hnodup hlater)).mpr fun conflictId => ?_
    simp only [List.mem_map, List.mem_filter, decide_eq_true_eq]
    constructor
    · rintro ⟨item, ⟨hitem, hidentity⟩, rfl⟩
      obtain ⟨other, hother, hpair, hsame⟩ := hpartner hfirst hlater item hitem
      exact ⟨other, ⟨hother, hsame.trans hidentity⟩, (hids item hitem other hother hpair).symm⟩
    · rintro ⟨item, ⟨hitem, hidentity⟩, rfl⟩
      obtain ⟨other, hother, hpair, hsame⟩ := hpartner hlater hfirst item hitem
      exact ⟨other, ⟨hother, hsame.trans hidentity⟩, hids other hother item hitem hpair.symm⟩
  refine sortBy_eq_of_perm hperm ?_
  exact (hnodup hfirst).map UUID.text_injective

/-- Entries depend on the conflicts through the identifiers counted under each identity. -/
theorem buildEntries_congr
    (h : ∀ identity, conflictIdsFor identity first = conflictIdsFor identity later) :
    buildEntries active first = buildEntries active later := by
  have hentry : buildEntry active first = buildEntry active later := by
    funext identity
    rw [buildEntry, buildEntry, h identity]
  rw [buildEntries, buildEntries, hentry]

end Agreement

section Torn

variable (floatRepr : Rat → FloatToken) (p : Platform)

/-- The rebuilt conflicts of one store come from its rows. -/
theorem fromRows_listConflicts {s : MemoryStore} (h : ReadInvariant s) {ownerSubject : PyStr}
    {conflicts : List MemoryConflict}
    (hlist : Memory.listConflicts s (some ownerSubject) none false = .ok conflicts) :
    FromRows conflicts s := by
  obtain ⟨-, -, hrows⟩ := Memory.listConflicts_ok.mp hlist
  rw [← Memory.conflictFromReads_self] at hrows
  intro conflict hconflict
  obtain ⟨row, hrow, hread⟩ := (Checks.mem_of_mapM_ok hrows).mp hconflict
  have hstored := (Memory.mem_selectConflicts.mp hrow).1
  exact ⟨row, hstored, memoryPair_of_read (h.table.ordered row hstored) hread⟩

/-- Conflicts read from an extension of the store project to the snapshot of the store, or their
inconsistency is noticed. -/
theorem project_torn {s s' : MemoryStore} (h : ReadInvariant s) (h' : ReadInvariant s')
    (hextends : Memory.Extends s s') {ownerSubject : PyStr} {memories : List MemoryRecord}
    {conflicts torn : List MemoryConflict}
    (hquery : queryMemories s (ownerQuery ownerSubject) = .ok memories)
    (hlist : Memory.listConflicts s (some ownerSubject) none false = .ok conflicts)
    (htorn : FromRows torn s') (hwritable : ∀ conflict ∈ torn, WritableConflict conflict) :
    project floatRepr p ownerSubject memories torn =
        project floatRepr p ownerSubject memories conflicts ∨
      ∃ error, Inconsistent error ∧
        project floatRepr p ownerSubject memories torn = .error error := by
  have hcoherent := coherent_reads h hquery hlist
  obtain ⟨howner, hencodable, -⟩ := Memory.queryMemories_ok.mp hquery
  have hownerOk : validateOwnerSubject ownerSubject = .ok () :=
    validateExactText_ok.mpr ⟨ownerSubject, rfl, howner⟩
  obtain ⟨hcomplete, hvalidated⟩ := hcoherent.validated
  have hplain : project floatRepr p ownerSubject memories conflicts =
      projectValidated floatRepr p ownerSubject (activeOf memories) (relevantOf conflicts) := by
    rw [project, hownerOk, hcoherent.memories_pass, Checks.ok_bind, Checks.ok_bind,
      hcoherent.conflicts_pass, Checks.ok_bind, hcomplete, Checks.ok_bind]
  rw [hplain, project, hownerOk, hcoherent.memories_pass, Checks.ok_bind, Checks.ok_bind]
  have hchecks : RaisesOnly Inconsistent
      (validatedConflicts ownerSubject torn (activeOf memories)) :=
    (raises_checkConflicts hvalidated.writable hwritable).bind fun _ _ => RaisesOnly.of_ok rfl
  rcases hchecks.cases with ⟨relevant, hrelevant⟩ | ⟨error, herror, hkind⟩
  · rw [hrelevant, Checks.ok_bind]
    have hraises : RaisesOnly Inconsistent
        (requireCompleteConflicts (activeOf memories) relevant) :=
      raises_requireCompleteConflicts hvalidated.writable
    rcases hraises.cases with ⟨passed, hpassed⟩ | ⟨error, herror, hkind⟩
    · -- Every check passed: both lists of conflicts cover the same contradictions.
      left
      have hlater := validated_of_checks hcoherent.memories_pass hcoherent.writable hrelevant
        hpassed
      have hgiven : ∀ item ∈ relevant, item.conflict ∈ torn := by
        intro item hitem
        simp only [validatedConflicts, Checks.bind_ok, checkConflicts_ok, Checks.pure_ok]
          at hrelevant
        obtain ⟨_, ⟨-, rfl⟩, rfl⟩ := hrelevant
        rw [mem_sortBy] at hitem
        exact mem_supportedConflicts.mp hitem
      have hids : ∀ left ∈ relevantOf conflicts, ∀ right ∈ relevant,
          memoryPair left.conflict = memoryPair right.conflict →
            left.conflict.conflictId = right.conflict.conflictId :=
        fun left hleft right hright hpair =>
          conflictId_of_pair hextends h'.table (fromRows_listConflicts h hlist) htorn
            (mem_relevantOf.mp hleft) (hgiven right hright) hpair
      have hentries : buildEntries (activeOf memories) (relevantOf conflicts) =
          buildEntries (activeOf memories) relevant :=
        buildEntries_congr (conflictIdsFor_congr hvalidated hlater hids)
      rw [hpassed, Checks.ok_bind, projectValidated, projectValidated, hentries]
    · right
      exact ⟨error, hkind, by rw [herror]; rfl⟩
  · right
    exact ⟨error, hkind, by rw [herror]; rfl⟩

end Torn

end PersonalContext
end AyyoHumanoid
