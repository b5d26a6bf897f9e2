import AyyoHumanoid.ContextProjector
import AyyoHumanoid.MemoryReaders

/-!
# What the projector's checks establish

One lemma for each check of the projector. Memories and conflicts that pass are
the given ones of a context domain; each conflict is over two active memories
that contradict each other, and the conflicts together are over all such pairs.
-/

namespace AyyoHumanoid
namespace PersonalContext

open PyText JsonText PyCollections
open Memory (MemoryRecord MemoryConflict Writable)

/-- A memory is supported with the domain of its type. -/
theorem supportedMemory_eq_some {record : MemoryRecord} {memory : SupportedMemory} :
    supportedMemory record = some memory ↔ memory.record = record := by
  constructor
  · exact supportedMemory_record
  · rintro rfl
    obtain ⟨record, domain, hsupported⟩ := memory
    unfold supportedMemory
    split
    · next other hother =>
      have hsame : other = domain := Option.some.inj (hother.symm.trans hsupported)
      cases hsame
      rfl
    · next hnone =>
      rw [hnone] at hsupported
      cases hsupported

/-- A memory is unsupported exactly when its type has no domain. -/
theorem supportedMemory_eq_none {record : MemoryRecord} :
    supportedMemory record = none ↔ domainByMemoryType record.memoryType = none := by
  unfold supportedMemory
  split
  · next domain hdomain => simp [hdomain]
  · next hnone => simp [hnone]

/-- Supported memories of one record are one. -/
theorem SupportedMemory.eq_of_record {left right : SupportedMemory}
    (h : left.record = right.record) : left = right := by
  have hleft := supportedMemory_eq_some.mpr h
  have hright := supportedMemory_eq_some.mpr (rfl : right.record = right.record)
  exact Option.some.inj (hleft.symm.trans hright)

/-- Two memories have one identity exactly when they have one type, subject and predicate. -/
theorem SupportedMemory.identity_eq_iff {left right : SupportedMemory} :
    left.identity = right.identity ↔ left.record.key = right.record.key := by
  have hdomains : ∀ leftType rightType, ∀ domain,
      domainByMemoryType leftType = some domain → domainByMemoryType rightType = some domain →
        leftType = rightType := by
    intro leftType rightType domain hleft hright
    cases leftType <;> cases rightType <;> cases domain <;>
      first | rfl | exact absurd hleft (by decide) | exact absurd hright (by decide)
  have hkey : ∀ record : MemoryRecord, record.key =
      (record.memoryType, record.subject, record.predicate) := fun _ => rfl
  rw [hkey, hkey, Prod.mk.injEq, Prod.mk.injEq]
  constructor
  · intro h
    have hdomain : left.domain = right.domain := congrArg ContextIdentity.domain h
    exact ⟨hdomains _ _ _ left.supported (hdomain ▸ right.supported),
      congrArg ContextIdentity.subject h, congrArg ContextIdentity.predicate h⟩
  · rintro ⟨htype, hsubject, hpredicate⟩
    have hdomain : some left.domain = some right.domain := by
      rw [← left.supported, ← right.supported, htype]
    exact ContextIdentity.ext (Option.some.inj hdomain) hsubject hpredicate

/-- The memories that pass are the given ones of a context domain. -/
theorem checkMemories_ok {ownerSubject : PyStr} {seenIds : List UUID}
    {records : List MemoryRecord} {relevant : List SupportedMemory} :
    checkMemories ownerSubject seenIds records = .ok relevant ↔
      (∀ record ∈ records, record.subject = ownerSubject ∧ record.status = .active) ∧
        (records.map (·.memoryId)).Nodup ∧ (∀ record ∈ records, record.memoryId ∉ seenIds) ∧
          relevant = records.filterMap supportedMemory := by
  induction records generalizing seenIds relevant with
  | nil => simp [checkMemories, eq_comm]
  | cons record later ih =>
    rw [checkMemories, Checks.unit_bind_ok, Checks.unit_bind_ok, Checks.unit_bind_ok,
      Checks.bind_ok]
    simp only [Checks.require_ok, ih, Checks.pure_ok, List.forall_mem_cons, List.map_cons,
      List.nodup_cons]
    have htail : (supportedMemory record).toList ++ later.filterMap supportedMemory =
        (record :: later).filterMap supportedMemory := by
      rw [List.filterMap_cons]
      cases supportedMemory record <;> rfl
    constructor
    · rintro ⟨hsubject, hactive, hnew, _, ⟨hall, hnodup, hfresh, rfl⟩, rfl⟩
      refine ⟨⟨⟨hsubject, hactive⟩, hall⟩, ⟨?_, hnodup⟩, ⟨hnew, fun other hother hseen => ?_⟩, htail⟩
      · intro hmem
        obtain ⟨other, hother, hid⟩ := List.mem_map.mp hmem
        exact hfresh other hother (by rw [hid]; exact List.mem_cons_self)
      · exact hfresh other hother (List.mem_cons_of_mem _ hseen)
    · rintro ⟨⟨⟨hsubject, hactive⟩, hall⟩, ⟨hnotMem, hnodup⟩, ⟨hnew, hfresh⟩, rfl⟩
      refine ⟨hsubject, hactive, hnew, _, ⟨hall, hnodup, fun other hother hseen => ?_, rfl⟩, htail⟩
      rcases List.mem_cons.mp hseen with hsame | hseen
      · exact hnotMem (hsame ▸ List.mem_map_of_mem hother)
      · exact hfresh other hother hseen

/-- A lookup finds an active memory with the identifier. -/
theorem activeById_eq_some {active : List SupportedMemory} {memoryId : UUID}
    {memory : SupportedMemory} (h : activeById active memoryId = some memory) :
    memory ∈ active ∧ memory.record.memoryId = memoryId := by
  refine ⟨List.mem_of_find?_eq_some h, ?_⟩
  simpa using List.find?_some h

/-- Among memories with different identifiers, a lookup finds the memory itself. -/
theorem activeById_of_mem {active : List SupportedMemory}
    (hids : (active.map fun memory => memory.record.memoryId).Nodup) {memory : SupportedMemory}
    (h : memory ∈ active) : activeById active memory.record.memoryId = some memory :=
  find_of_nodup hids h

/-- The signature of a record, part by part. -/
theorem recordSignature_ok {record : MemoryRecord} {signature : RecordSignature}
    (h : recordSignature record = .ok signature) : signature.memoryId = record.memoryId ∧
      signature.key = record.key ∧ signature.value = encode record.value := by
  simp only [recordSignature, Checks.bind_ok, canonicalizeJson_ok, Checks.pure_ok] at h
  obtain ⟨value, ⟨-, rfl⟩, details, -, metadata, -, rfl⟩ := h
  exact ⟨rfl, rfl, rfl⟩

/-- A writable record has a signature. -/
theorem exists_recordSignature {record : MemoryRecord} (h : Writable record) :
    ∃ signature, recordSignature record = .ok signature := by
  simp only [recordSignature, Checks.bind_ok, canonicalizeJson_ok, Checks.pure_ok]
  exact ⟨_, _, ⟨h.value, rfl⟩, _, ⟨h.details, rfl⟩, _, ⟨h.metadata, rfl⟩, rfl⟩

/-- A conflict's memory agrees with an active memory. -/
structure AgreesWith (memory : SupportedMemory) (record : MemoryRecord) : Prop where
  /-- They have one identifier. -/
  memoryId : memory.record.memoryId = record.memoryId
  /-- They have one signature. -/
  signature : ∃ signature, recordSignature memory.record = .ok signature ∧
    recordSignature record = .ok signature

/-- Memories that agree have one key and one canonical value. -/
theorem AgreesWith.same {memory : SupportedMemory} {record : MemoryRecord}
    (h : AgreesWith memory record) : memory.record.key = record.key ∧
      encode memory.record.value = encode record.value := by
  obtain ⟨signature, hmemory, hrecord⟩ := h.signature
  obtain ⟨-, hkey, hvalue⟩ := recordSignature_ok hmemory
  obtain ⟨-, hkey', hvalue'⟩ := recordSignature_ok hrecord
  exact ⟨hkey.symm.trans hkey', hvalue.symm.trans hvalue'⟩

/-- The signatures are compared with those of the active memory under the identifier. -/
theorem sameSignature_ok {active : List SupportedMemory} {record : MemoryRecord} :
    sameSignature active record = .ok true ↔
      ∃ memory, activeById active record.memoryId = some memory ∧ AgreesWith memory record := by
  unfold sameSignature
  cases hfind : activeById active record.memoryId with
  | none => simp
  | some memory =>
    have hid := (activeById_eq_some hfind).2
    simp only [Checks.bind_ok, Checks.pure_ok, decide_eq_true_eq, Option.some.injEq,
      exists_eq_left']
    constructor
    · rintro ⟨current, hcurrent, snapshot, hsnapshot, rfl⟩
      exact ⟨hid, current, hcurrent, hsnapshot⟩
    · rintro ⟨-, signature, hmemory, hrecord⟩
      exact ⟨signature, hmemory, signature, hrecord, rfl⟩

/-- Both memories of a conflict are compared with the active memories. -/
theorem sameSignatures_ok {active : List SupportedMemory} {conflict : MemoryConflict} :
    sameSignatures active conflict = .ok true ↔
      (∃ memory, activeById active conflict.leftMemory.memoryId = some memory ∧
        AgreesWith memory conflict.leftMemory) ∧
      ∃ memory, activeById active conflict.rightMemory.memoryId = some memory ∧
        AgreesWith memory conflict.rightMemory := by
  rw [← sameSignature_ok, ← sameSignature_ok, sameSignatures, Checks.bind_ok]
  constructor
  · rintro ⟨sameLeft, hleft, hright⟩
    cases sameLeft with
    | false => cases hright
    | true => exact ⟨hleft, hright⟩
  · rintro ⟨hleft, hright⟩
    exact ⟨true, hleft, hright⟩

/-- A conflict agrees with the active memories. -/
structure ConflictAgrees (active : List SupportedMemory) (conflict : MemoryConflict) : Prop where
  unresolved : conflict.resolvedAt = none
  /-- Its memories are active. -/
  bothActive : conflict.leftMemory.status = .active ∧ conflict.rightMemory.status = .active
  /-- Its memories have one key. -/
  key : conflict.leftMemory.key = conflict.rightMemory.key
  /-- Their values can be printed. -/
  printable : conflict.leftMemory.value.dumpable = true ∧
    conflict.rightMemory.value.dumpable = true
  /-- Their canonical values differ. -/
  values : encode conflict.leftMemory.value ≠ encode conflict.rightMemory.value
  /-- The left memory agrees with an active memory. -/
  left : ∃ memory, activeById active conflict.leftMemory.memoryId = some memory ∧
    AgreesWith memory conflict.leftMemory
  /-- The right memory agrees with an active memory. -/
  right : ∃ memory, activeById active conflict.rightMemory.memoryId = some memory ∧
    AgreesWith memory conflict.rightMemory

/-- The checks of one conflict pass exactly when it agrees with the active memories and is
new. -/
theorem checkConflict_ok {active : List SupportedMemory} {seen : SeenConflicts}
    {conflict : MemoryConflict} {u : Unit} : checkConflict active seen conflict = .ok u ↔
      ConflictAgrees active conflict ∧ conflict.conflictId ∉ seen.ids ∧
        memoryPair conflict ∉ seen.pairs := by
  simp only [checkConflict, Checks.require_ok, Checks.bind_ok, canonicalizeJson_ok]
  constructor
  · rintro ⟨_, hopen, _, hactive, _, hkey, _, ⟨hleftPrint, rfl⟩, _, ⟨hrightPrint, rfl⟩, _, hvalues,
      _, hnew, _, -, _, hsame, rfl⟩
    obtain ⟨hleft, hright⟩ := sameSignatures_ok.mp hsame
    exact ⟨⟨hopen, hactive, hkey, ⟨hleftPrint, hrightPrint⟩, hvalues, hleft, hright⟩, hnew⟩
  · rintro ⟨h, hnew⟩
    have hsame := sameSignatures_ok.mpr ⟨h.left, h.right⟩
    obtain ⟨left, hleftFound, -⟩ := h.left
    obtain ⟨right, hrightFound, -⟩ := h.right
    exact ⟨(), h.unresolved, (), h.bothActive, (), h.key, _, ⟨h.printable.1, rfl⟩, _,
      ⟨h.printable.2, rfl⟩, (), h.values, (), hnew, (),
      ⟨by simp [hleftFound], by simp [hrightFound]⟩, true, hsame, rfl⟩

/-- A conflict is supported with the domain of its left memory. -/
theorem supportedConflict_eq_some {conflict : MemoryConflict} {item : SupportedConflict} :
    supportedConflict conflict = some item ↔ item.conflict = conflict := by
  constructor
  · intro h
    unfold supportedConflict at h
    split at h
    · rw [← Option.some.inj h]
    · cases h
  · rintro rfl
    obtain ⟨conflict, left, hleft⟩ := item
    have hfound := supportedMemory_eq_some.mpr hleft
    unfold supportedConflict
    split
    · next other hother =>
      have hsame : other = left := Option.some.inj (hother.symm.trans hfound)
      cases hsame
      rfl
    · next hnone =>
      rw [hnone] at hfound
      cases hfound

/-- A conflict without support is over a left memory without support. -/
theorem supportedConflict_eq_none {conflict : MemoryConflict} :
    supportedConflict conflict = none ↔ supportedMemory conflict.leftMemory = none := by
  unfold supportedConflict
  split
  · next left hleft => simp [hleft]
  · next hnone => simp [hnone]

/-- What passing the conflict checks means for a list of conflicts. -/
structure ConflictsPass (ownerSubject : PyStr) (active : List SupportedMemory)
    (seen : SeenConflicts) (conflicts : List MemoryConflict) : Prop where
  /-- Both memories are the owner's. -/
  subjects : ∀ conflict ∈ conflicts, conflict.leftMemory.subject = ownerSubject ∧
    conflict.rightMemory.subject = ownerSubject
  /-- Both memories have a domain or neither has. -/
  domains : ∀ conflict ∈ conflicts, (supportedMemory conflict.leftMemory = none ↔
    supportedMemory conflict.rightMemory = none)
  /-- The supported conflicts agree with the active memories. -/
  agree : ∀ item ∈ conflicts.filterMap supportedConflict, ConflictAgrees active item.conflict
  /-- Their identifiers are different. -/
  ids : (conflicts.filterMap supportedConflict |>.map (·.conflict.conflictId)).Nodup
  /-- Their pairs are different. -/
  pairs : (conflicts.filterMap supportedConflict |>.map fun item =>
    memoryPair item.conflict).Nodup
  /-- They are new. -/
  fresh : ∀ item ∈ conflicts.filterMap supportedConflict,
    item.conflict.conflictId ∉ seen.ids ∧ memoryPair item.conflict ∉ seen.pairs

/-- The conflicts that pass are the given ones of a context domain. -/
theorem checkConflicts_ok {ownerSubject : PyStr} {active : List SupportedMemory}
    {seen : SeenConflicts} {conflicts : List MemoryConflict} {relevant : List SupportedConflict} :
    checkConflicts ownerSubject active seen conflicts = .ok relevant ↔
      ConflictsPass ownerSubject active seen conflicts ∧
        relevant = conflicts.filterMap supportedConflict := by
  induction conflicts generalizing seen relevant with
  | nil =>
    simp only [checkConflicts, Except.ok.injEq, List.filterMap_nil, eq_comm (a := relevant)]
    refine (and_iff_right ⟨by simp, by simp, by simp, by simp, by simp, by simp⟩).symm
  | cons conflict later ih =>
    rw [checkConflicts, Checks.unit_bind_ok, Checks.require_ok]
    cases hitem : supportedConflict conflict with
    | none =>
      have hleft := supportedConflict_eq_none.mp hitem
      cases hright : supportedMemory conflict.rightMemory with
      | none =>
        simp only [ih, List.filterMap_cons, hitem]
        constructor
        · rintro ⟨hsubjects, h, rfl⟩
          refine ⟨⟨List.forall_mem_cons.mpr ⟨hsubjects, h.subjects⟩,
            List.forall_mem_cons.mpr ⟨by simp [hleft, hright], h.domains⟩, ?_, ?_, ?_, ?_⟩, rfl⟩
          · simpa only [List.filterMap_cons, hitem] using h.agree
          · simpa only [List.filterMap_cons, hitem] using h.ids
          · simpa only [List.filterMap_cons, hitem] using h.pairs
          · simpa only [List.filterMap_cons, hitem] using h.fresh
        · rintro ⟨h, rfl⟩
          refine ⟨h.subjects conflict List.mem_cons_self,
            ⟨(List.forall_mem_cons.mp h.subjects).2, (List.forall_mem_cons.mp h.domains).2, ?_, ?_,
              ?_, ?_⟩, rfl⟩
          · simpa only [List.filterMap_cons, hitem] using h.agree
          · simpa only [List.filterMap_cons, hitem] using h.ids
          · simpa only [List.filterMap_cons, hitem] using h.pairs
          · simpa only [List.filterMap_cons, hitem] using h.fresh
      | some right =>
        simp only [reduceCtorEq, and_false, false_iff, not_and]
        intro h
        have hdomains := (h.domains conflict List.mem_cons_self).mp hleft
        rw [hright] at hdomains
        cases hdomains
    | some item =>
      have hsame := supportedConflict_eq_some.mp hitem
      have hleft : supportedMemory conflict.leftMemory ≠ none := by
        intro hnone
        rw [supportedConflict_eq_none.mpr hnone] at hitem
        cases hitem
      cases hright : supportedMemory conflict.rightMemory with
      | none =>
        simp only [reduceCtorEq, and_false, false_iff, not_and]
        intro h
        exact absurd ((h.domains conflict List.mem_cons_self).mpr hright) hleft
      | some right =>
        simp only [Checks.bind_ok, checkConflict_ok, ih, Checks.pure_ok, List.filterMap_cons,
          hitem]
        constructor
        · rintro ⟨hsubjects, _, ⟨hagrees, hnewId, hnewPair⟩, _, ⟨h, rfl⟩, rfl⟩
          refine ⟨⟨List.forall_mem_cons.mpr ⟨hsubjects, h.subjects⟩,
            List.forall_mem_cons.mpr ⟨by simp [hleft, hright], h.domains⟩, ?_, ?_, ?_, ?_⟩, rfl⟩ <;>
            simp only [List.filterMap_cons, hitem, List.forall_mem_cons, List.map_cons,
              List.nodup_cons, hsame]
          · exact ⟨hagrees, h.agree⟩
          · refine ⟨fun hmem => ?_, h.ids⟩
            obtain ⟨other, hother, hid⟩ := List.mem_map.mp hmem
            exact (h.fresh other hother).1 (by rw [hid]; exact List.mem_cons_self)
          · refine ⟨fun hmem => ?_, h.pairs⟩
            obtain ⟨other, hother, hpair⟩ := List.mem_map.mp hmem
            exact (h.fresh other hother).2 (by rw [hpair]; exact List.mem_cons_self)
          · refine ⟨⟨hnewId, hnewPair⟩, fun other hother => ?_⟩
            exact ⟨fun hseen => (h.fresh other hother).1 (List.mem_cons_of_mem _ hseen),
              fun hseen => (h.fresh other hother).2 (List.mem_cons_of_mem _ hseen)⟩
        · rintro ⟨h, rfl⟩
          have hagree := h.agree
          have hids := h.ids
          have hpairs := h.pairs
          have hfresh := h.fresh
          simp only [List.filterMap_cons, hitem, List.forall_mem_cons, List.map_cons,
            List.nodup_cons, hsame] at hagree hids hpairs hfresh
          refine ⟨h.subjects conflict List.mem_cons_self, (), ⟨hagree.1, hfresh.1⟩, _,
            ⟨⟨(List.forall_mem_cons.mp h.subjects).2, (List.forall_mem_cons.mp h.domains).2,
              hagree.2, hids.2, hpairs.2, fun other hother => ⟨?_, ?_⟩⟩, rfl⟩, rfl⟩
          · intro hseen
            rcases List.mem_cons.mp hseen with hid | hseen
            · exact hids.1 (List.mem_map.mpr ⟨other, hother, hid⟩)
            · exact (hfresh.2 other hother).1 hseen
          · intro hseen
            rcases List.mem_cons.mp hseen with hpair | hseen
            · exact hpairs.1 (List.mem_map.mpr ⟨other, hother, hpair⟩)
            · exact (hfresh.2 other hother).2 hseen

/-- Two memories of one identity have different canonical values. -/
structure Contradictory (left right : SupportedMemory) : Prop where
  /-- They have one identity. -/
  key : left.record.key = right.record.key
  /-- Their canonical values differ. -/
  values : left.canonicalValue ≠ right.canonicalValue

/-- The test of the projector for a contradiction. -/
theorem contradicts_ok {left right : SupportedMemory} (hleft : left.record.value.dumpable = true)
    (hright : right.record.value.dumpable = true) {answer : Bool} :
    contradicts left right = .ok answer ↔ (answer = true ↔ Contradictory left right) := by
  have htexts : ∀ memory : SupportedMemory, memory.canonicalValue = encode memory.record.value :=
    fun memory => canonicalText_eq memory.record.value
  unfold contradicts
  by_cases hkey : left.record.key = right.record.key
  · rw [if_pos hkey]
    simp only [Checks.bind_ok, canonicalizeJson_ok, Checks.pure_ok, hleft, hright, true_and,
      exists_eq_left']
    constructor
    · rintro rfl
      rw [decide_eq_true_eq]
      exact ⟨fun hne => ⟨hkey, by rwa [htexts, htexts]⟩, fun h => by
        simpa only [htexts] using h.values⟩
    · intro h
      by_cases hvalues : encode left.record.value = encode right.record.value
      · have hfalse : answer = false := by
          rw [← Bool.not_eq_true, h]
          intro hcontra
          exact hcontra.values (by rw [htexts, htexts, hvalues])
        simp [hfalse, hvalues]
      · have htrue := h.mpr ⟨hkey, by rwa [htexts, htexts]⟩
        simp [htrue, hvalues]
  · rw [if_neg hkey, Checks.pure_ok]
    have hnot : ¬Contradictory left right := fun h => hkey h.key
    cases answer <;> simp [hnot]

/-- Pairs are pairs of given values. -/
theorem mem_of_mem_combinations {α : Type} {values : List α} {pair : α × α}
    (h : pair ∈ combinations values) : pair.1 ∈ values ∧ pair.2 ∈ values := by
  induction values with
  | nil => cases h
  | cons value later ih =>
    rw [combinations, List.mem_append, List.mem_map] at h
    rcases h with ⟨other, hother, rfl⟩ | h
    · exact ⟨List.mem_cons_self, List.mem_cons_of_mem _ hother⟩
    · exact ⟨List.mem_cons_of_mem _ (ih h).1, List.mem_cons_of_mem _ (ih h).2⟩

/-- Two different values form a pair in one of the orders. -/
theorem mem_combinations {α : Type} {values : List α} {left right : α} (hleft : left ∈ values)
    (hright : right ∈ values) (hne : left ≠ right) :
    (left, right) ∈ combinations values ∨ (right, left) ∈ combinations values := by
  induction values with
  | nil => cases hleft
  | cons value later ih =>
    simp only [combinations, List.mem_append, List.mem_map, Prod.mk.injEq]
    rcases List.mem_cons.mp hleft with rfl | hleftLater <;>
      rcases List.mem_cons.mp hright with rfl | hrightLater
    · exact absurd rfl hne
    · exact Or.inl (Or.inl ⟨right, hrightLater, rfl, rfl⟩)
    · exact Or.inr (Or.inl ⟨left, hleftLater, rfl, rfl⟩)
    · rcases ih hleftLater hrightLater with h | h
      · exact Or.inl (Or.inr h)
      · exact Or.inr (Or.inr h)

/-- The conflicts are over exactly the contradictions between the active memories. -/
structure Covers (active : List SupportedMemory) (conflicts : List SupportedConflict) : Prop where
  /-- Every conflict is over a contradiction. -/
  sound : ∀ item ∈ conflicts, ∃ left ∈ active, ∃ right ∈ active, Contradictory left right ∧
    memoryPair item.conflict = UUID.sortedPair left.record.memoryId right.record.memoryId
  /-- Every contradiction has a conflict. -/
  complete : ∀ left ∈ active, ∀ right ∈ active, Contradictory left right →
    ∃ item ∈ conflicts,
      memoryPair item.conflict = UUID.sortedPair left.record.memoryId right.record.memoryId

/-- The completeness check passes exactly when the conflicts cover the contradictions. -/
theorem requireCompleteConflicts_ok {active : List SupportedMemory}
    {conflicts : List SupportedConflict}
    (hactive : ∀ memory ∈ active, memory.record.value.dumpable = true) :
    requireCompleteConflicts active conflicts = .ok () ↔ Covers active conflicts := by
  have htests : ∀ pair ∈ combinations active, ∃ answer, contradicts pair.1 pair.2 = .ok answer := by
    intro pair hpair
    obtain ⟨hleft, hright⟩ := mem_of_mem_combinations hpair
    by_cases h : Contradictory pair.1 pair.2
    · exact ⟨true, (contradicts_ok (hactive _ hleft) (hactive _ hright)).mpr (by simp [h])⟩
    · exact ⟨false, (contradicts_ok (hactive _ hleft) (hactive _ hright)).mpr (by simp [h])⟩
  have hexpected : ∀ pair : UUID × UUID,
      (pair ∈ ((combinations active).filter fun pair => passes (contradicts pair.1 pair.2)).map
        fun pair => UUID.sortedPair pair.1.record.memoryId pair.2.record.memoryId) ↔
      ∃ left ∈ active, ∃ right ∈ active, Contradictory left right ∧
        pair = UUID.sortedPair left.record.memoryId right.record.memoryId := by
    intro pair
    have hpasses : ∀ tested ∈ combinations active,
        (passes (contradicts tested.1 tested.2) = true ↔ Contradictory tested.1 tested.2) := by
      intro tested htested
      obtain ⟨answer, hanswer⟩ := htests tested htested
      obtain ⟨hleft, hright⟩ := mem_of_mem_combinations htested
      rw [hanswer, passes_ok]
      exact (contradicts_ok (hactive _ hleft) (hactive _ hright)).mp hanswer
    rw [List.mem_map]
    constructor
    · rintro ⟨tested, htested, rfl⟩
      rw [List.mem_filter] at htested
      obtain ⟨hleft, hright⟩ := mem_of_mem_combinations htested.1
      exact ⟨tested.1, hleft, tested.2, hright, (hpasses tested htested.1).mp htested.2, rfl⟩
    · rintro ⟨left, hleft, right, hright, hcontra, rfl⟩
      have hne : left ≠ right := fun heq => hcontra.values (by rw [heq])
      rcases mem_combinations hleft hright hne with hpair | hpair
      · exact ⟨(left, right), List.mem_filter.mpr ⟨hpair, (hpasses _ hpair).mpr hcontra⟩, rfl⟩
      · refine ⟨(right, left), List.mem_filter.mpr ⟨hpair, (hpasses _ hpair).mpr ?_⟩,
          UUID.sortedPair_comm _ _⟩
        exact ⟨hcontra.key.symm, hcontra.values.symm⟩
  simp only [requireCompleteConflicts, Checks.bind_ok, selectM_ok, Checks.require_ok]
  constructor
  · rintro ⟨_, ⟨-, rfl⟩, hsound, hcomplete⟩
    constructor
    · intro item hitem
      exact (hexpected _).mp (hsound (List.mem_map_of_mem hitem))
    · intro left hleft right hright hcontra
      have hmem := hcomplete ((hexpected _).mpr ⟨left, hleft, right, hright, hcontra, rfl⟩)
      obtain ⟨item, hitem, hpair⟩ := List.mem_map.mp hmem
      exact ⟨item, hitem, hpair⟩
  · intro h
    refine ⟨_, ⟨htests, rfl⟩, fun pair hpair => ?_, fun pair hpair => ?_⟩
    · obtain ⟨item, hitem, rfl⟩ := List.mem_map.mp hpair
      exact (hexpected _).mpr (h.sound item hitem)
    · obtain ⟨left, hleft, right, hright, hcontra, rfl⟩ := (hexpected pair).mp hpair
      obtain ⟨item, hitem, hsame⟩ := h.complete left hleft right hright hcontra
      exact List.mem_map.mpr ⟨item, hitem, hsame⟩

end PersonalContext
end AyyoHumanoid
