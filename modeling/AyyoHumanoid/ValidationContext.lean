import AyyoHumanoid.ValidationReads

/-!
# The policy's consistency checks hold on reachable stores

The policy derives the expected conflicts from the active memories and compares
them with the conflicts it was given. On a reachable store the two agree,
because the store keeps one open conflict for every contradicting pair. The
checks on the correction target and its revision history hold as well.
-/

namespace AyyoHumanoid
namespace Validation

open PyText JsonText Memory LinkedChains

variable {nfc : Nfc} {s : MemoryStore}

/-- Nothing is left of a stored name after normalization. -/
def Blank (nfc : Nfc) (row : MemoryRow) : Prop :=
  collapse nfc row.subject = [] ∨ collapse nfc row.predicate = []

/-- The rows whose names the evaluation of a candidate normalizes. -/
inductive InScope (s : MemoryStore) (c : CandidateEvidence nfc) (row : MemoryRow) : Prop
  /-- Active memories of the candidate's type. -/
  | active (hstatus : row.status = .active) (htype : row.memoryType = c.memoryType)
  /-- Memories in an unresolved conflict. -/
  | conflict (other : MemoryRow) (hother : other ∈ s.memories) (h : Contradict row other)
  | target (h : c.correctionTargetId = some row.memoryId)

/-- A stored name in scope has nothing left after normalization. -/
def BlankInScope (s : MemoryStore) (c : CandidateEvidence nfc) : Prop :=
  ∃ row ∈ s.memories, InScope s c row ∧ Blank nfc row

/-- The error of an evaluation that meets such a name. -/
def NamingFailure (s : MemoryStore) (c : CandidateEvidence nfc) (e : PolicyError) : Prop :=
  e.kind = .normalization ∧ BlankInScope s c

/-- The identity of a record depends on its key only. -/
theorem identityForRecord_of_key {left right : MemoryRecord} (h : left.key = right.key) :
    identityForRecord nfc left = identityForRecord nfc right := by
  simp only [RecordFields.key, Prod.mk.injEq] at h
  obtain ⟨htype, hsubject, hpredicate⟩ := h
  rw [identityForRecord, identityForRecord, htype, hsubject, hpredicate]

/-- The identity of a stored record is the one of its row's columns. -/
theorem identityForRecord_ok {row : MemoryRow} {record : MemoryRecord}
    (h : StoredAs s row record) {identity : NormalizedIdentity nfc} :
    identityForRecord nfc record = .ok identity ↔ identity.memoryType = row.memoryType ∧
      identity.subject = collapse nfc row.subject ∧
      identity.predicate = collapse nfc row.predicate := by
  have hread := memoryFromRow_ok h.read
  rw [identityForRecord, identityOf_ok, hread.memoryType, hread.subject, hread.predicate]

/-- A stored record has an identity exactly when its name is not blank. -/
theorem exists_identityForRecord {row : MemoryRow} {record : MemoryRecord}
    (h : StoredAs s row record) :
    (∃ identity, identityForRecord nfc record = .ok identity) ↔ ¬Blank nfc row := by
  have hread := memoryFromRow_ok h.read
  simp only [identityForRecord, exists_identityOf, Blank, hread.subject, hread.predicate, not_or]

/-- Normalizing a name in scope fails only on a blank name. -/
theorem identityForRecord_raises {row : MemoryRow} {record : MemoryRecord}
    (h : StoredAs s row record) {c : CandidateEvidence nfc} (hscope : InScope s c row) :
    RaisesOnly (NamingFailure s c) (identityForRecord nfc record) := by
  intro e he
  obtain ⟨hkind, hblank⟩ := identityOf_error he
  have hread := memoryFromRow_ok h.read
  rw [hread.subject, hread.predicate] at hblank
  exact ⟨hkind, row, h.mem, hscope, hblank⟩

/-- A stored record's canonical value is its row's text. -/
theorem canonicalizeJson_stored (h : MemoryInvariant s) {row : MemoryRow} {record : MemoryRecord}
    (hrow : StoredAs s row record) : canonicalizeJson record.value = .ok row.valueJson := by
  obtain ⟨hdump, htext⟩ := hrow.value h
  exact canonicalizeJson_ok.mpr ⟨hdump, htext⟩

/-- The memories that the service passes to the policy as active. -/
structure ActiveFor (s : MemoryStore) (identity : NormalizedIdentity nfc)
    (active : List MemoryRecord) : Prop where
  /-- Their identifiers are distinct. -/
  nodup : (active.map (·.memoryId)).Nodup
  /-- They are the stored active memories of the identity. -/
  mem : ∀ record, record ∈ active ↔ ∃ row, StoredAs s row record ∧ row.status = .active ∧
    identityForRecord nfc record = .ok identity

/-- The filter on the identity passes exactly the records of the identity. -/
theorem recordHasIdentity_passes {identity : NormalizedIdentity nfc} {record : MemoryRecord} :
    passes (recordHasIdentity identity record) = true ↔
      identityForRecord nfc record = .ok identity := by
  unfold recordHasIdentity
  cases h : identityForRecord nfc record with
  | error e => simp [passes, bind, Except.bind]
  | ok found => simp [pure, Except.pure]

/-- The service reads the active memories of the candidate's identity. -/
theorem activeMemories_ok (h : MemoryInvariant s) {identity : NormalizedIdentity nfc}
    {active : List MemoryRecord} (hread : activeMemories s identity = .ok active) :
    ActiveFor s identity active := by
  obtain ⟨records, hquery, hnodup, hmem⟩ := h.queryMemories_ok identity.memoryType
  simp only [activeMemories, Checks.bind_ok, fromMemory_ok, hquery, Except.ok.injEq,
    exists_eq_left', selectM_ok, Checks.pure_ok] at hread
  obtain ⟨relevant, ⟨-, rfl⟩, rfl⟩ := hread
  refine ⟨?_, ?_⟩
  · have hperm := List.perm_insertionSort (fun left right : MemoryRecord =>
      left.memoryId ≤ right.memoryId) (records.filter fun r => passes (recordHasIdentity identity r))
    exact (hperm.map _).nodup_iff.mpr (hnodup.sublist (List.filter_sublist.map _))
  · intro record
    rw [List.mem_insertionSort, List.mem_filter, recordHasIdentity_passes, hmem]
    constructor
    · rintro ⟨⟨row, hstored, hstatus, -⟩, hidentity⟩
      exact ⟨row, hstored, hstatus, hidentity⟩
    · rintro ⟨row, hstored, hstatus, hidentity⟩
      exact ⟨⟨row, hstored, hstatus, ((identityForRecord_ok hstored).mp hidentity).1.symm⟩,
        hidentity⟩

/-- Reading the active memories fails only on a blank name in scope. -/
theorem activeMemories_raises (h : MemoryInvariant s) {identity : NormalizedIdentity nfc}
    {c : CandidateEvidence nfc} (htype : identity.memoryType = c.memoryType) :
    RaisesOnly (NamingFailure s c) (activeMemories s identity) := by
  obtain ⟨records, hquery, -, hmem⟩ := h.queryMemories_ok identity.memoryType
  have hfrom := fromMemory_ok.mpr hquery
  refine RaisesOnly.bind (.of_ok hfrom) fun found hfound => ?_
  rw [hfrom, Except.ok.injEq] at hfound
  subst hfound
  refine RaisesOnly.bind (.selectM fun record hrecord => ?_) fun _ _ => .of_ok rfl
  obtain ⟨row, hstored, hstatus, hrowType⟩ := (hmem record).mp hrecord
  refine RaisesOnly.bind (identityForRecord_raises hstored ?_) fun _ _ => .of_ok rfl
  exact .active hstatus (hrowType.trans htype)

/-- Records that contradict each other in the policy's terms. -/
theorem recordsContradict_ok {left right : MemoryRecord} :
    recordsContradict left right = .ok true ↔ left.key = right.key ∧
      ∃ x y, canonicalizeJson left.value = .ok x ∧ canonicalizeJson right.value = .ok y ∧
        x ≠ y := by
  unfold recordsContradict
  split
  · next hkey =>
    simp only [hkey, true_and, Checks.bind_ok, Checks.pure_ok, decide_eq_true_eq]
    constructor
    · rintro ⟨x, hx, y, hy, hne⟩
      exact ⟨x, y, hx, hy, hne⟩
    · rintro ⟨x, y, hx, hy, hne⟩
      exact ⟨x, hx, y, hy, hne⟩
  · next hkey => simp [hkey, pure, Except.pure]

/-- Contradiction of records is symmetric. -/
theorem recordsContradict_comm {left right : MemoryRecord} :
    recordsContradict left right = .ok true ↔ recordsContradict right left = .ok true := by
  rw [recordsContradict_ok, recordsContradict_ok]
  constructor <;> rintro ⟨hkey, x, y, hx, hy, hne⟩ <;> exact ⟨hkey.symm, y, x, hy, hx, hne.symm⟩

/-- No record contradicts itself. -/
theorem recordsContradict_irrefl {record : MemoryRecord} :
    recordsContradict record record ≠ .ok true := by
  rw [Ne, recordsContradict_ok]
  rintro ⟨-, x, y, hx, hy, hne⟩
  rw [hx, Except.ok.injEq] at hy
  exact hne hy

/-- Stored active records contradict each other exactly when their rows do. -/
theorem recordsContradict_stored (h : MemoryInvariant s) {left right : MemoryRow}
    {leftRecord rightRecord : MemoryRecord} (hleft : StoredAs s left leftRecord)
    (hright : StoredAs s right rightRecord) (hleftActive : left.status = .active)
    (hrightActive : right.status = .active) :
    recordsContradict leftRecord rightRecord = .ok true ↔ Contradict left right := by
  have hl := memoryFromRow_ok hleft.read
  have hr := memoryFromRow_ok hright.read
  rw [recordsContradict_ok, canonicalizeJson_stored h hleft, canonicalizeJson_stored h hright]
  simp only [RecordFields.key, hl.memoryType, hl.subject, hl.predicate, hr.memoryType, hr.subject,
    hr.predicate, Prod.mk.injEq, Except.ok.injEq, exists_and_left, exists_eq_left']
  constructor
  · rintro ⟨⟨h1, h2, h3⟩, h4⟩
    exact ⟨hleftActive, hrightActive, h1, h2, h3, h4⟩
  · rintro ⟨-, -, h1, h2, h3, h4⟩
    exact ⟨⟨h1, h2, h3⟩, h4⟩

/-- The conflicts that the service passes to the policy. -/
structure ConflictsFor (s : MemoryStore) (identity : NormalizedIdentity nfc)
    (conflicts : List MemoryConflict) : Prop where
  /-- Their identifiers are distinct. -/
  nodup : (conflicts.map (·.conflictId)).Nodup
  /-- They are the unresolved conflicts of the identity. -/
  mem : ∀ conflict, conflict ∈ conflicts ↔ (∃ row, OpenAs s row conflict) ∧
    identityForRecord nfc conflict.leftMemory = .ok identity

/-- The two memories of an unresolved conflict have one key. -/
theorem openAs_key (h : MemoryInvariant s) {row : ConflictRow} {conflict : MemoryConflict}
    (hopen : OpenAs s row conflict) : conflict.leftMemory.key = conflict.rightMemory.key := by
  obtain ⟨left, right, hleft, hright, -, -, -, hcontradict⟩ := hopen.contradict h
  exact ((recordsContradict_ok).mp ((recordsContradict_stored h hleft hright
    hcontradict.leftActive hcontradict.rightActive).mpr hcontradict)).1

/-- An unresolved conflict has the identity that its left memory has. -/
theorem conflictHasIdentity_ok (h : MemoryInvariant s) {row : ConflictRow}
    {conflict : MemoryConflict} (hopen : OpenAs s row conflict)
    {identity : NormalizedIdentity nfc} :
    conflictHasIdentity identity conflict = .ok true ↔
      identityForRecord nfc conflict.leftMemory = .ok identity := by
  have hsame : identityForRecord nfc conflict.rightMemory =
      identityForRecord nfc conflict.leftMemory :=
    identityForRecord_of_key (openAs_key h hopen).symm
  unfold conflictHasIdentity
  rw [hsame]
  cases hleft : identityForRecord nfc conflict.leftMemory with
  | error e => simp [bind, Except.bind]
  | ok found =>
    simp only [Checks.ok_bind, Except.ok.injEq]
    split <;> simp_all [pure, Except.pure]

/-- Asking whether an unresolved conflict has an identity fails only on a blank name. -/
theorem conflictHasIdentity_raises (h : MemoryInvariant s) {row : ConflictRow}
    {conflict : MemoryConflict} (hopen : OpenAs s row conflict)
    {identity : NormalizedIdentity nfc} {c : CandidateEvidence nfc} :
    RaisesOnly (NamingFailure s c) (conflictHasIdentity identity conflict) := by
  obtain ⟨left, right, hleft, hright, -, -, -, hcontradict⟩ := hopen.contradict h
  refine RaisesOnly.bind (identityForRecord_raises hleft
    (.conflict right hright.mem hcontradict)) fun found _ => ?_
  split
  · exact RaisesOnly.bind (identityForRecord_raises hright
      (.conflict left hleft.mem hcontradict.symm)) fun _ _ => .of_ok rfl
  · exact .of_ok rfl

/-- The service reads the unresolved conflicts of the candidate's identity. -/
theorem activeConflicts_ok (h : MemoryInvariant s) {identity : NormalizedIdentity nfc}
    {conflicts : List MemoryConflict} (hread : activeConflicts s identity = .ok conflicts) :
    ConflictsFor s identity conflicts := by
  obtain ⟨listed, hlist, hnodup, hmem⟩ := h.listConflicts_ok
  simp only [activeConflicts, Checks.bind_ok, fromMemory_ok, hlist, Except.ok.injEq,
    exists_eq_left', selectM_ok, Checks.pure_ok] at hread
  obtain ⟨relevant, ⟨hall, rfl⟩, rfl⟩ := hread
  refine ⟨?_, ?_⟩
  · have hperm := List.perm_insertionSort (fun left right : MemoryConflict =>
      left.conflictId ≤ right.conflictId)
      (listed.filter fun c => passes (conflictHasIdentity identity c))
    exact (hperm.map _).nodup_iff.mpr (hnodup.sublist (List.filter_sublist.map _))
  · intro conflict
    rw [List.mem_insertionSort, List.mem_filter, hmem]
    refine and_congr_right fun hopen => ?_
    obtain ⟨row, hrow⟩ := hopen
    obtain ⟨keep, hkeep⟩ := hall conflict ((hmem conflict).mpr ⟨row, hrow⟩)
    rw [← conflictHasIdentity_ok h hrow, hkeep, passes_ok, Except.ok.injEq]

/-- Reading the conflicts fails only on a blank name in scope. -/
theorem activeConflicts_raises (h : MemoryInvariant s) {identity : NormalizedIdentity nfc}
    {c : CandidateEvidence nfc} :
    RaisesOnly (NamingFailure s c) (activeConflicts s identity) := by
  obtain ⟨listed, hlist, -, hmem⟩ := h.listConflicts_ok
  have hfrom := fromMemory_ok.mpr hlist
  refine RaisesOnly.bind (.of_ok hfrom) fun found hfound => ?_
  rw [hfrom, Except.ok.injEq] at hfound
  subst hfound
  refine RaisesOnly.bind (.selectM fun conflict hconflict => ?_) fun _ _ => .of_ok rfl
  obtain ⟨row, hopen⟩ := (hmem conflict).mp hconflict
  exact conflictHasIdentity_raises h hopen

/-- The loop over the active memories passes. -/
theorem validateActive_ok {identity : NormalizedIdentity nfc} {active : List MemoryRecord}
    {seen : List UUID} (hnodup : (active.map (·.memoryId)).Nodup)
    (hactive : ∀ record ∈ active, record.status = .active ∧
      identityForRecord nfc record = .ok identity)
    (hseen : ∀ record ∈ active, record.memoryId ∉ seen) :
    validateActive identity seen active = .ok () := by
  induction active generalizing seen with
  | nil => rfl
  | cons record active ih =>
    rw [List.map_cons, List.nodup_cons] at hnodup
    obtain ⟨hstatus, hidentity⟩ := hactive record (by simp)
    have hrest : validateActive identity (record.memoryId :: seen) active = .ok () := by
      refine ih hnodup.2 (fun other hother => hactive other (by simp [hother])) ?_
      intro other hother hin
      rcases List.mem_cons.mp hin with heq | hin
      · exact hnodup.1 (heq ▸ List.mem_map_of_mem hother)
      · exact hseen other (by simp [hother]) hin
    simp only [validateActive, Checks.unit_bind_ok, Checks.require_ok, hidentity, Checks.ok_bind]
    exact ⟨hstatus, trivial, hseen record (by simp), hrest⟩

/-- What the policy asks of one conflict, apart from the conflicts before it. -/
structure ConflictFits (identity : NormalizedIdentity nfc) (active : List MemoryRecord)
    (conflict : MemoryConflict) : Prop where
  unresolved : conflict.resolvedAt = none
  related : conflictHasIdentity identity conflict = .ok true
  /-- Both memories are active. -/
  status : conflict.leftMemory.status = .active ∧ conflict.rightMemory.status = .active
  /-- The left memory is the active one of its identifier. -/
  left : activeById active conflict.leftMemory.memoryId = some conflict.leftMemory
  /-- The right memory is the active one of its identifier. -/
  right : activeById active conflict.rightMemory.memoryId = some conflict.rightMemory
  /-- The memories contradict each other. -/
  contradict : recordsContradict conflict.leftMemory conflict.rightMemory = .ok true

/-- A fitting conflict passes its checks when neither its identifier nor its pair was seen. -/
theorem checkConflict_ok {identity : NormalizedIdentity nfc} {active : List MemoryRecord}
    {ids : List UUID} {pairs : List (UUID × UUID)} {conflict : MemoryConflict}
    (h : ConflictFits identity active conflict)
    (hid : conflict.conflictId ∉ ids) (hpair : conflictPair conflict ∉ pairs) :
    checkConflict identity active ids pairs conflict = .ok () := by
  obtain ⟨-, x, y, hx, hy, hne⟩ := recordsContradict_ok.mp h.contradict
  simp only [checkConflict, Checks.unit_bind_ok, Checks.require_ok, h.related, Checks.ok_bind, hx,
    hy, h.left, h.right]
  exact ⟨h.unresolved, trivial, h.status, by simp, ⟨trivial, trivial⟩, ⟨hid, hpair⟩, hne⟩

/-- The loop over fitting conflicts with distinct identifiers and pairs collects their pairs. -/
theorem validateConflicts_ok {identity : NormalizedIdentity nfc} {active : List MemoryRecord}
    (ids : List UUID) (pairs : List (UUID × UUID)) {conflicts : List MemoryConflict}
    (hfits : ∀ conflict ∈ conflicts, ConflictFits identity active conflict)
    (hids : (conflicts.map (·.conflictId)).Nodup) (hpairs : (conflicts.map conflictPair).Nodup)
    (hfreshIds : ∀ conflict ∈ conflicts, conflict.conflictId ∉ ids)
    (hfreshPairs : ∀ conflict ∈ conflicts, conflictPair conflict ∉ pairs) :
    ∃ actual, validateConflicts identity active ids pairs conflicts = .ok actual ∧
      ∀ pair, pair ∈ actual ↔ pair ∈ pairs ∨ ∃ conflict ∈ conflicts, conflictPair conflict = pair := by
  induction conflicts generalizing ids pairs with
  | nil => exact ⟨pairs, rfl, by simp⟩
  | cons conflict conflicts ih =>
    rw [List.map_cons, List.nodup_cons] at hids hpairs
    have hcheck := checkConflict_ok (hfits conflict (by simp)) (hfreshIds conflict (by simp))
      (hfreshPairs conflict (by simp))
    obtain ⟨actual, hrun, hmem⟩ := ih (conflict.conflictId :: ids)
      (conflictPair conflict :: pairs)
      (fun other hother => hfits other (by simp [hother])) hids.2 hpairs.2
      (by
        intro other hother hin
        rcases List.mem_cons.mp hin with heq | hin
        · exact hids.1 (heq ▸ List.mem_map_of_mem hother)
        · exact hfreshIds other (by simp [hother]) hin)
      (by
        intro other hother hin
        rcases List.mem_cons.mp hin with heq | hin
        · exact hpairs.1 (heq ▸ List.mem_map_of_mem hother)
        · exact hfreshPairs other (by simp [hother]) hin)
    refine ⟨actual, by rw [validateConflicts, hcheck, Checks.ok_bind, hrun], ?_⟩
    intro pair
    rw [hmem, List.mem_cons]
    simp only [List.mem_cons, exists_eq_or_imp]
    rw [eq_comm, or_assoc, or_left_comm]

/-- The expected pairs are those of contradicting active memories. -/
theorem expectedPairs_ok (active : List MemoryRecord)
    (hvalues : ∀ record ∈ active, ∃ text, canonicalizeJson record.value = .ok text) :
    ∃ pairs, expectedPairs active = .ok pairs ∧ ∀ pair, pair ∈ pairs ↔
      ∃ left ∈ active, ∃ right ∈ active, recordsContradict left right = .ok true ∧
        pair = UUID.sortedPair left.memoryId right.memoryId := by
  induction active with
  | nil => exact ⟨[], rfl, by simp⟩
  | cons record active ih =>
    obtain ⟨others, hothers, hmem⟩ := ih fun other hother => hvalues other (by simp [hother])
    have htests : ∀ other ∈ active, ∃ keep, recordsContradict record other = .ok keep := by
      intro other hother
      obtain ⟨x, hx⟩ := hvalues record (by simp)
      obtain ⟨y, hy⟩ := hvalues other (by simp [hother])
      unfold recordsContradict
      split
      · exact ⟨_, by simp only [hx, hy, Checks.ok_bind]; rfl⟩
      · exact ⟨false, rfl⟩
    have hpasses : ∀ other ∈ active, passes (recordsContradict record other) = true ↔
        recordsContradict record other = .ok true := by
      intro other hother
      obtain ⟨keep, hkeep⟩ := htests other hother
      rw [hkeep, passes_ok, Except.ok.injEq]
    have hrivals := selectM_ok.mpr ⟨htests, rfl⟩
    refine ⟨_, by rw [expectedPairs, hrivals, Checks.ok_bind, hothers, Checks.ok_bind]; rfl, ?_⟩
    intro pair
    rw [List.mem_append, List.mem_map, hmem]
    constructor
    · rintro (⟨other, hother, rfl⟩ | ⟨left, hleft, right, hright, hcontradict, rfl⟩)
      · obtain ⟨hactive, hpass⟩ := List.mem_filter.mp hother
        exact ⟨record, by simp, other, by simp [hactive], (hpasses other hactive).mp hpass, rfl⟩
      · exact ⟨left, by simp [hleft], right, by simp [hright], hcontradict, rfl⟩
    · rintro ⟨left, hleft, right, hright, hcontradict, rfl⟩
      have hrival : ∀ other ∈ active, recordsContradict record other = .ok true →
          other ∈ active.filter fun other => passes (recordsContradict record other) :=
        fun other hother h => List.mem_filter.mpr ⟨hother, (hpasses other hother).mpr h⟩
      rcases List.mem_cons.mp hleft with hl | hl <;> rcases List.mem_cons.mp hright with hr | hr
      · rw [hl, hr] at hcontradict
        exact absurd hcontradict recordsContradict_irrefl
      · rw [hl] at hcontradict ⊢
        exact Or.inl ⟨right, hrival right hr hcontradict, rfl⟩
      · rw [hr] at hcontradict ⊢
        exact Or.inl ⟨left, hrival left hl (recordsContradict_comm.mp hcontradict),
          UUID.sortedPair_comm _ _⟩
      · exact Or.inr ⟨left, hl, right, hr, hcontradict, rfl⟩

section Context

variable {identity : NormalizedIdentity nfc} {active : List MemoryRecord}
  {conflicts : List MemoryConflict}

/-- The memories of a passed conflict are active ones, which contradict each other, and its
pair is the row's. -/
theorem ConflictsFor.sides (h : MemoryInvariant s) (hactive : ActiveFor s identity active)
    {row : ConflictRow} {conflict : MemoryConflict} (hopen : OpenAs s row conflict)
    (hidentity : identityForRecord nfc conflict.leftMemory = .ok identity) :
    conflict.leftMemory ∈ active ∧ conflict.rightMemory ∈ active ∧
      recordsContradict conflict.leftMemory conflict.rightMemory = .ok true ∧
      conflictPair conflict = (row.leftMemoryId, row.rightMemoryId) := by
  obtain ⟨left, right, hleft, hright, hleftId, hrightId, hlt, hcontradict⟩ := hopen.contradict h
  have hright' : identityForRecord nfc conflict.rightMemory = .ok identity := by
    rw [← hidentity]
    exact identityForRecord_of_key (openAs_key h hopen).symm
  refine ⟨(hactive.mem _).mpr ⟨left, hleft, hcontradict.leftActive, hidentity⟩,
    (hactive.mem _).mpr ⟨right, hright, hcontradict.rightActive, hright'⟩,
    (recordsContradict_stored h hleft hright hcontradict.leftActive
      hcontradict.rightActive).mpr hcontradict, ?_⟩
  rw [conflictPair, (memoryFromRow_ok hleft.read).memoryId, (memoryFromRow_ok hright.read).memoryId,
    UUID.sortedPair_of_lt hlt, hleftId, hrightId]

/-- Looking up an active memory by its identifier finds it. -/
theorem ActiveFor.activeById (hactive : ActiveFor s identity active) {record : MemoryRecord}
    (hrecord : record ∈ active) : activeById active record.memoryId = some record := by
  cases hfind : Validation.activeById active record.memoryId with
  | none =>
    have hnone := List.find?_eq_none.mp hfind record hrecord
    simp at hnone
  | some found =>
    have hid : found.memoryId = record.memoryId := by simpa using List.find?_some hfind
    exact congrArg some (List.inj_on_of_nodup_map hactive.nodup (List.mem_of_find?_eq_some hfind)
      hrecord hid)

/-- The consistency checks on the active state pass on every reachable store. -/
theorem validateContext_ok (h : MemoryInvariant s) {normalized : NormalizedCandidate nfc}
    (hactive : ActiveFor s normalized.identity active)
    (hconflicts : ConflictsFor s normalized.identity conflicts) :
    validateContext normalized active conflicts = .ok () := by
  have hfirst : validateActive normalized.identity [] active = .ok () := by
    refine validateActive_ok hactive.nodup (fun record hrecord => ?_) (by simp)
    obtain ⟨row, hstored, hstatus, hidentity⟩ := (hactive.mem record).mp hrecord
    exact ⟨(memoryFromRow_ok hstored.read).status.trans hstatus, hidentity⟩
  have hsides := fun conflict hconflict =>
    let hmem := (hconflicts.mem conflict).mp hconflict
    ConflictsFor.sides h hactive hmem.1.choose_spec hmem.2
  have hfits : ∀ conflict ∈ conflicts, ConflictFits normalized.identity active conflict := by
    intro conflict hconflict
    obtain ⟨⟨row, hopen⟩, hidentity⟩ := (hconflicts.mem conflict).mp hconflict
    obtain ⟨hleft, hright, hcontradict, -⟩ := ConflictsFor.sides h hactive hopen hidentity
    obtain ⟨_, hl, hls, -⟩ := (hactive.mem _).mp hleft
    obtain ⟨_, hr, hrs, -⟩ := (hactive.mem _).mp hright
    exact ⟨hopen.fields.2.1, (conflictHasIdentity_ok h hopen).mpr hidentity,
      ⟨(memoryFromRow_ok hl.read).status.trans hls, (memoryFromRow_ok hr.read).status.trans hrs⟩,
      hactive.activeById hleft, hactive.activeById hright, hcontradict⟩
  have hpairs : (conflicts.map conflictPair).Nodup := by
    have hnodup : conflicts.Nodup := hconflicts.nodup.of_map _
    refine hnodup.map_on fun a ha b hb hsame => ?_
    obtain ⟨⟨rowA, hopenA⟩, hidA⟩ := (hconflicts.mem a).mp ha
    obtain ⟨⟨rowB, hopenB⟩, hidB⟩ := (hconflicts.mem b).mp hb
    rw [(ConflictsFor.sides h hactive hopenA hidA).2.2.2,
      (ConflictsFor.sides h hactive hopenB hidB).2.2.2] at hsame
    have hrows := List.inj_on_of_nodup_map h.table.pairs hopenA.mem hopenB.mem hsame
    subst hrows
    have hread := hopenB.read
    rw [hopenA.read] at hread
    exact Except.ok.inj hread
  obtain ⟨actual, hactual, hactualMem⟩ := validateConflicts_ok [] [] hfits
    hconflicts.nodup hpairs (by simp) (by simp)
  obtain ⟨expected, hexpected, hexpectedMem⟩ := expectedPairs_ok active (by
    intro record hrecord
    obtain ⟨row, hstored, -, -⟩ := (hactive.mem record).mp hrecord
    exact ⟨_, canonicalizeJson_stored h hstored⟩)
  simp only [validateContext, hfirst, hactual, hexpected, Checks.ok_bind, Checks.require_ok]
  refine ⟨fun pair hpair => ?_, fun pair hpair => ?_⟩
  · rcases (hactualMem pair).mp hpair with hnone | ⟨conflict, hconflict, rfl⟩
    · cases hnone
    · obtain ⟨hleft, hright, hcontradict, -⟩ := hsides conflict hconflict
      exact (hexpectedMem _).mpr ⟨_, hleft, _, hright, hcontradict, rfl⟩
  · obtain ⟨left, hleft, right, hright, hcontradict, rfl⟩ := (hexpectedMem pair).mp hpair
    -- The store holds an open conflict over every contradicting pair.
    obtain ⟨leftRow, hl, hls, hlid⟩ := (hactive.mem left).mp hleft
    obtain ⟨rightRow, hr, hrs, hrid⟩ := (hactive.mem right).mp hright
    have hrows := (recordsContradict_stored h hl hr hls hrs).mp hcontradict
    have hne : leftRow.memoryId ≠ rightRow.memoryId := by
      intro hsame
      have hsameRow := StoreInvariant.eq_of_memoryId h.unique hl.mem hr.mem hsame
      exact hrows.value (by rw [hsameRow])
    obtain ⟨row, hrow, hopen, hpairRow⟩ :=
      (h.complete leftRow hl.mem rightRow hr.mem hne).mpr hrows
    obtain ⟨conflict, hread⟩ := h.exists_openAs hrow hopen
    have hidentity : identityForRecord nfc conflict.leftMemory = .ok normalized.identity := by
      obtain ⟨first, -, hfirstStored, -, hfirstId, -⟩ := hread.contradict h
      have hside : first.memoryId = leftRow.memoryId ∨ first.memoryId = rightRow.memoryId := by
        rw [hfirstId]
        rcases UUID.sortedPair_cases leftRow.memoryId rightRow.memoryId with hsorted | hsorted <;>
          rw [hsorted] at hpairRow
        · exact Or.inl (Prod.mk.inj hpairRow).1
        · exact Or.inr (Prod.mk.inj hpairRow).1
      rcases hside with hside | hside
      · have hsame := StoreInvariant.eq_of_memoryId h.unique hfirstStored.mem hl.mem hside
        subst hsame
        rw [hfirstStored.record_unique hl]
        exact hlid
      · have hsame := StoreInvariant.eq_of_memoryId h.unique hfirstStored.mem hr.mem hside
        subst hsame
        rw [hfirstStored.record_unique hr]
        exact hrid
    refine (hactualMem _).mpr (Or.inr ⟨conflict, (hconflicts.mem _).mpr ⟨⟨row, hread⟩, hidentity⟩, ?_⟩)
    rw [(ConflictsFor.sides h hactive hread hidentity).2.2.2, hpairRow,
      (memoryFromRow_ok hl.read).memoryId, (memoryFromRow_ok hr.read).memoryId]

end Context

end Validation
end AyyoHumanoid
