import AyyoHumanoid.ContextProjection

/-!
# Personal context over the Memory OS

What a reader finds in one reachable store is coherent, and coherent memories
and conflicts project to one snapshot in whatever order they are supplied: one
entry for each identity, resolved exactly when all active values are equal, with
one conflict for each pair of memories that contradict each other.
-/

namespace AyyoHumanoid
namespace PersonalContext

open PyText JsonText PyCollections
open Memory (MemoryRecord MemoryConflict MemoryStore Writable ReadInvariant)

variable {ownerSubject : PyStr} {memories : List MemoryRecord} {conflicts : List MemoryConflict}

section Checks

variable {active : List SupportedMemory} {relevant : List SupportedConflict}

/-- The active memories are the given ones of a context domain. -/
theorem validatedMemories_ok (h : validatedMemories ownerSubject memories = .ok active) :
    (∀ record ∈ memories, record.subject = ownerSubject ∧ record.status = .active) ∧
      (memories.map (·.memoryId)).Nodup ∧
        active = sortBy (fun memory => memory.record.memoryId.text)
          (memories.filterMap supportedMemory) := by
  simp only [validatedMemories, Checks.bind_ok, checkMemories_ok, Checks.pure_ok] at h
  obtain ⟨_, ⟨hall, hids, -, rfl⟩, rfl⟩ := h
  exact ⟨hall, hids, rfl⟩

/-- A supported memory is given when its record is. -/
theorem mem_supported {memory : SupportedMemory} :
    memory ∈ memories.filterMap supportedMemory ↔ memory.record ∈ memories := by
  rw [List.mem_filterMap]
  constructor
  · rintro ⟨record, hrecord, hsupported⟩
    rw [supportedMemory_record hsupported]
    exact hrecord
  · intro hrecord
    exact ⟨memory.record, hrecord, supportedMemory_eq_some.mpr rfl⟩

/-- A supported conflict is given when its conflict is. -/
theorem mem_supportedConflicts {item : SupportedConflict} :
    item ∈ conflicts.filterMap supportedConflict ↔ item.conflict ∈ conflicts := by
  rw [List.mem_filterMap]
  constructor
  · rintro ⟨conflict, hconflict, hsupported⟩
    rw [supportedConflict_eq_some.mp hsupported]
    exact hconflict
  · intro hconflict
    exact ⟨item.conflict, hconflict, supportedConflict_eq_some.mpr rfl⟩

/-- Supported memories of different records have different identifiers. -/
theorem nodup_supported (h : (memories.map (·.memoryId)).Nodup) :
    ((memories.filterMap supportedMemory).map SupportedMemory.memoryId).Nodup := by
  have hnodup : (memories.filterMap supportedMemory).Nodup := by
    refine List.Nodup.filterMap (fun left right memory hleft hright => ?_) h.of_map
    exact (supportedMemory_record hleft).symm.trans (supportedMemory_record hright)
  refine List.Nodup.map_on (fun left hleft right hright hid => ?_) hnodup
  exact SupportedMemory.eq_of_record (List.inj_on_of_nodup_map h (mem_supported.mp hleft)
    (mem_supported.mp hright) hid)

/-- Inputs that pass the checks are validated. -/
theorem validated_of_checks (hmemories : validatedMemories ownerSubject memories = .ok active)
    (hwritable : ∀ record ∈ memories, Writable record)
    (hconflicts : validatedConflicts ownerSubject conflicts active = .ok relevant)
    (hcomplete : requireCompleteConflicts active relevant = .ok ()) :
    Validated active relevant := by
  obtain ⟨-, hids, hactive⟩ := validatedMemories_ok hmemories
  simp only [validatedConflicts, Checks.bind_ok, checkConflicts_ok, Checks.pure_ok] at hconflicts
  obtain ⟨_, ⟨hpass, rfl⟩, hrelevant⟩ := hconflicts
  have hmem : ∀ item, item ∈ relevant ↔ item ∈ conflicts.filterMap supportedConflict := by
    intro item
    rw [← hrelevant, mem_sortBy]
  have hactiveIds : (active.map SupportedMemory.memoryId).Nodup := by
    rw [hactive, ((sortBy_perm _ _).map _).nodup_iff]
    exact nodup_supported hids
  have hactiveWritable : ∀ memory ∈ active, Writable memory.record := by
    intro memory hmemory
    rw [hactive, mem_sortBy] at hmemory
    exact hwritable _ (mem_supported.mp hmemory)
  constructor
  · exact hactiveIds
  · exact hactiveWritable
  · rw [← hrelevant, ((sortBy_perm _ _).map _).nodup_iff]
    exact hpass.ids
  · rw [← hrelevant, ((sortBy_perm _ _).map _).nodup_iff]
    exact hpass.pairs
  · exact (requireCompleteConflicts_ok fun memory hmemory =>
      (hactiveWritable memory hmemory).value).mp hcomplete
  · -- The left memory agrees with one of the pair, and both have one identity.
    intro item hitem left hleft right hright hcontra hpair
    obtain ⟨memory, hfound, hagrees⟩ := (hpass.agree item ((hmem item).mp hitem)).left
    obtain ⟨hmemory, hid⟩ := activeById_eq_some hfound
    have hkey : item.left.record.key = memory.record.key := by
      rw [item.isLeft]
      exact hagrees.same.1.symm
    have hsides : memory = left ∨ memory = right := by
      have hone : memory.memoryId = left.memoryId ∨ memory.memoryId = right.memoryId := by
        rw [memoryPair, ← hid] at hpair
        rcases UUID.sortedPair_cases memory.record.memoryId
            item.conflict.rightMemory.memoryId with h1 | h1 <;>
          rcases UUID.sortedPair_cases left.memoryId right.memoryId with h2 | h2 <;>
          rw [h1, h2, Prod.mk.injEq] at hpair
        · exact Or.inl hpair.1
        · exact Or.inr hpair.1
        · exact Or.inr hpair.2
        · exact Or.inl hpair.2
      rcases hone with hone | hone
      · exact Or.inl (List.inj_on_of_nodup_map hactiveIds hmemory hleft hone)
      · exact Or.inr (List.inj_on_of_nodup_map hactiveIds hmemory hright hone)
    rw [SupportedMemory.identity_eq_iff, hkey]
    rcases hsides with rfl | rfl
    · rfl
    · exact hcontra.key.symm

end Checks

/-- Memories and conflicts that belong together: the conflicts are over exactly the pairs of
memories that contradict each other. -/
structure Coherent (ownerSubject : PyStr) (memories : List MemoryRecord)
    (conflicts : List MemoryConflict) : Prop where
  /-- The memories are the owner's and active. -/
  owned : ∀ record ∈ memories, record.subject = ownerSubject ∧ record.status = .active
  /-- They are different. -/
  ids : (memories.map (·.memoryId)).Nodup
  /-- Their texts can be written. -/
  writable : ∀ record ∈ memories, Writable record
  unresolved : ∀ conflict ∈ conflicts, conflict.resolvedAt = none
  /-- They are over the memories. -/
  members : ∀ conflict ∈ conflicts,
    conflict.leftMemory ∈ memories ∧ conflict.rightMemory ∈ memories
  /-- Their memories have one key and different values. -/
  contradict : ∀ conflict ∈ conflicts, conflict.leftMemory.key = conflict.rightMemory.key ∧
    encode conflict.leftMemory.value ≠ encode conflict.rightMemory.value
  /-- They are different. -/
  conflictIds : (conflicts.map (·.conflictId)).Nodup
  /-- They are over different pairs. -/
  pairs : (conflicts.map memoryPair).Nodup
  /-- Every contradiction has one. -/
  complete : ∀ left ∈ memories, ∀ right ∈ memories, left.key = right.key →
    encode left.value ≠ encode right.value →
      ∃ conflict ∈ conflicts, memoryPair conflict = UUID.sortedPair left.memoryId right.memoryId

/-- Coherence does not depend on the order. -/
theorem Coherent.perm (h : Coherent ownerSubject memories conflicts)
    {memories' : List MemoryRecord} {conflicts' : List MemoryConflict}
    (hmemories : memories'.Perm memories) (hconflicts : conflicts'.Perm conflicts) :
    Coherent ownerSubject memories' conflicts' where
  owned := fun record hrecord => h.owned record (hmemories.mem_iff.mp hrecord)
  ids := (hmemories.map _).nodup_iff.mpr h.ids
  writable := fun record hrecord => h.writable record (hmemories.mem_iff.mp hrecord)
  unresolved := fun conflict hconflict => h.unresolved conflict (hconflicts.mem_iff.mp hconflict)
  members := by
    intro conflict hconflict
    rw [hmemories.mem_iff, hmemories.mem_iff]
    exact h.members conflict (hconflicts.mem_iff.mp hconflict)
  contradict := fun conflict hconflict => h.contradict conflict (hconflicts.mem_iff.mp hconflict)
  conflictIds := (hconflicts.map _).nodup_iff.mpr h.conflictIds
  pairs := (hconflicts.map _).nodup_iff.mpr h.pairs
  complete := by
    intro left hleft right hright hkey hvalues
    obtain ⟨conflict, hconflict, hpair⟩ := h.complete left (hmemories.mem_iff.mp hleft) right
      (hmemories.mem_iff.mp hright) hkey hvalues
    exact ⟨conflict, hconflicts.mem_iff.mpr hconflict, hpair⟩

/-- The memories of a context domain, as the projector orders them. -/
def activeOf (memories : List MemoryRecord) : List SupportedMemory :=
  sortBy (fun memory => memory.record.memoryId.text) (memories.filterMap supportedMemory)

/-- The conflicts of a context domain, as the projector orders them. -/
def relevantOf (conflicts : List MemoryConflict) : List SupportedConflict :=
  sortBy (fun item => item.conflict.conflictId.text) (conflicts.filterMap supportedConflict)

/-- A memory is active for the projector when its record is given. -/
theorem mem_activeOf {memory : SupportedMemory} :
    memory ∈ activeOf memories ↔ memory.record ∈ memories := by
  rw [activeOf, mem_sortBy, mem_supported]

/-- A conflict is relevant for the projector when it is given. -/
theorem mem_relevantOf {item : SupportedConflict} :
    item ∈ relevantOf conflicts ↔ item.conflict ∈ conflicts := by
  rw [relevantOf, mem_sortBy, mem_supportedConflicts]

section Coherent

/-- Memories of one key have a domain together. -/
theorem supportedMemory_none_iff {left right : MemoryRecord} (hkey : left.key = right.key) :
    supportedMemory left = none ↔ supportedMemory right = none := by
  have htype : left.memoryType = right.memoryType := congrArg Prod.fst hkey
  rw [supportedMemory_eq_none, supportedMemory_eq_none, htype]

variable (h : Coherent ownerSubject memories conflicts)

include h in
/-- Coherent memories pass their checks. -/
theorem Coherent.memories_pass :
    validatedMemories ownerSubject memories = .ok (activeOf memories) := by
  simp only [validatedMemories, Checks.bind_ok, checkMemories_ok, Checks.pure_ok]
  exact ⟨_, ⟨h.owned, h.ids, by simp, rfl⟩, rfl⟩

include h in
/-- A coherent conflict's memory agrees with the active memory it is. -/
theorem Coherent.agrees {memory : SupportedMemory} (hmemory : memory.record ∈ memories) :
    ∃ other, activeById (activeOf memories) memory.record.memoryId = some other ∧
      AgreesWith other memory.record := by
  have hids : ((activeOf memories).map fun memory => memory.record.memoryId).Nodup := by
    rw [activeOf, ((sortBy_perm _ _).map _).nodup_iff]
    exact nodup_supported h.ids
  obtain ⟨signature, hsignature⟩ := exists_recordSignature (h.writable _ hmemory)
  exact ⟨memory, activeById_of_mem hids (mem_activeOf.mpr hmemory), rfl, signature, hsignature,
    hsignature⟩

include h in
/-- Coherent conflicts pass their checks. -/
theorem Coherent.conflicts_pass :
    validatedConflicts ownerSubject conflicts (activeOf memories) = .ok (relevantOf conflicts) := by
  simp only [validatedConflicts, Checks.bind_ok, checkConflicts_ok,
    Checks.pure_ok]
  refine ⟨_, ⟨⟨?_, ?_, ?_, ?_, ?_, by simp⟩, rfl⟩, rfl⟩
  · intro conflict hconflict
    obtain ⟨hleft, hright⟩ := h.members conflict hconflict
    exact ⟨(h.owned _ hleft).1, (h.owned _ hright).1⟩
  · intro conflict hconflict
    exact supportedMemory_none_iff (h.contradict conflict hconflict).1
  · intro item hitem
    have hconflict := mem_supportedConflicts.mp hitem
    obtain ⟨hleft, hright⟩ := h.members _ hconflict
    obtain ⟨hkey, hvalues⟩ := h.contradict _ hconflict
    have hrightSupported : supportedMemory item.conflict.rightMemory ≠ none := by
      rw [ne_eq, ← supportedMemory_none_iff hkey, supportedMemory_eq_some.mpr item.isLeft]
      simp
    obtain ⟨right, hrightMemory⟩ := Option.ne_none_iff_exists'.mp hrightSupported
    have hrightRecord := supportedMemory_record hrightMemory
    have hleftRecord := item.isLeft
    refine ⟨h.unresolved _ hconflict, ⟨(h.owned _ hleft).2, (h.owned _ hright).2⟩, hkey,
      ⟨(h.writable _ hleft).value, (h.writable _ hright).value⟩, hvalues, ?_, ?_⟩
    · rw [← hleftRecord]
      exact h.agrees (by rw [hleftRecord]; exact hleft)
    · rw [← hrightRecord]
      exact h.agrees (by rw [hrightRecord]; exact hright)
  · refine List.Nodup.map_on (fun left hleft right hright hid => ?_) ?_
    · have hsame := List.inj_on_of_nodup_map h.conflictIds (mem_supportedConflicts.mp hleft)
        (mem_supportedConflicts.mp hright) hid
      exact Option.some.inj ((supportedConflict_eq_some.mpr hsame).symm.trans
        (supportedConflict_eq_some.mpr rfl))
    · refine List.Nodup.filterMap (fun left right item hleft hright => ?_) h.conflictIds.of_map
      exact (supportedConflict_eq_some.mp hleft).symm.trans (supportedConflict_eq_some.mp hright)
  · refine List.Nodup.map_on (fun left hleft right hright hpair => ?_) ?_
    · have hsame := List.inj_on_of_nodup_map h.pairs (mem_supportedConflicts.mp hleft)
        (mem_supportedConflicts.mp hright) hpair
      exact Option.some.inj ((supportedConflict_eq_some.mpr hsame).symm.trans
        (supportedConflict_eq_some.mpr rfl))
    · refine List.Nodup.filterMap (fun left right item hleft hright => ?_) h.conflictIds.of_map
      exact (supportedConflict_eq_some.mp hleft).symm.trans (supportedConflict_eq_some.mp hright)

/-- A memory's canonical text is that of its value. -/
theorem SupportedMemory.canonicalValue_eq (memory : SupportedMemory) :
    memory.canonicalValue = encode memory.record.value := canonicalText_eq _

include h in
/-- Coherent conflicts cover the contradictions. -/
theorem Coherent.covers : Covers (activeOf memories) (relevantOf conflicts) where
  sound := by
    intro item hitem
    have hconflict := mem_relevantOf.mp hitem
    obtain ⟨hleft, hright⟩ := h.members _ hconflict
    obtain ⟨hkey, hvalues⟩ := h.contradict _ hconflict
    have hrightSupported : supportedMemory item.conflict.rightMemory ≠ none := by
      rw [ne_eq, ← supportedMemory_none_iff hkey, supportedMemory_eq_some.mpr item.isLeft]
      simp
    obtain ⟨right, hrightMemory⟩ := Option.ne_none_iff_exists'.mp hrightSupported
    have hrightRecord := supportedMemory_record hrightMemory
    have hleftRecord := item.isLeft
    refine ⟨item.left, mem_activeOf.mpr (by rw [hleftRecord]; exact hleft), right,
      mem_activeOf.mpr (by rw [hrightRecord]; exact hright), ⟨?_, ?_⟩, ?_⟩
    · rw [hleftRecord, hrightRecord]
      exact hkey
    · rw [SupportedMemory.canonicalValue_eq, SupportedMemory.canonicalValue_eq, hleftRecord,
        hrightRecord]
      exact hvalues
    · rw [hleftRecord, hrightRecord]
      rfl
  complete := by
    intro left hleft right hright hcontra
    have hvalues := hcontra.values
    rw [SupportedMemory.canonicalValue_eq, SupportedMemory.canonicalValue_eq] at hvalues
    have hleftGiven := mem_activeOf.mp hleft
    have hrightGiven := mem_activeOf.mp hright
    obtain ⟨conflict, hconflict, hpair⟩ := h.complete _ hleftGiven _ hrightGiven hcontra.key hvalues
    have hsides : conflict.leftMemory = left.record ∨ conflict.leftMemory = right.record := by
      have hmember := (h.members conflict hconflict).1
      have hone : conflict.leftMemory.memoryId = left.record.memoryId ∨
          conflict.leftMemory.memoryId = right.record.memoryId := by
        rw [memoryPair] at hpair
        rcases UUID.sortedPair_cases conflict.leftMemory.memoryId
            conflict.rightMemory.memoryId with h1 | h1 <;>
          rcases UUID.sortedPair_cases left.record.memoryId right.record.memoryId with h2 | h2 <;>
          rw [h1, h2, Prod.mk.injEq] at hpair
        · exact Or.inl hpair.1
        · exact Or.inr hpair.1
        · exact Or.inr hpair.2
        · exact Or.inl hpair.2
      rcases hone with hone | hone
      · exact Or.inl (List.inj_on_of_nodup_map h.ids hmember hleftGiven hone)
      · exact Or.inr (List.inj_on_of_nodup_map h.ids hmember hrightGiven hone)
    have hsupported : supportedMemory conflict.leftMemory ≠ none := by
      rcases hsides with hside | hside <;>
        rw [hside, supportedMemory_eq_some.mpr rfl] <;> simp
    obtain ⟨memory, hmemory⟩ := Option.ne_none_iff_exists'.mp hsupported
    exact ⟨⟨conflict, memory, supportedMemory_record hmemory⟩, mem_relevantOf.mpr hconflict, hpair⟩

include h in
/-- Coherent inputs are validated. -/
theorem Coherent.validated : requireCompleteConflicts (activeOf memories) (relevantOf conflicts) =
    .ok () ∧ Validated (activeOf memories) (relevantOf conflicts) := by
  have hcomplete : requireCompleteConflicts (activeOf memories) (relevantOf conflicts) = .ok () :=
    (requireCompleteConflicts_ok fun memory hmemory =>
      (h.writable _ (mem_activeOf.mp hmemory)).value).mpr h.covers
  exact ⟨hcomplete, validated_of_checks h.memories_pass h.writable h.conflicts_pass
    hcomplete⟩

end Coherent

section Project

variable (floatRepr : Rat → FloatToken) (p : Platform)

/-- Coherent inputs of a valid owner project to a snapshot. -/
theorem Coherent.exists_project (h : Coherent ownerSubject memories conflicts)
    (howner : Memory.NonemptyText ownerSubject) (hencodable : utf8Encodable ownerSubject = true) :
    ∃ snapshot, project floatRepr p ownerSubject memories conflicts = .ok snapshot ∧
      projectValidated floatRepr p ownerSubject (activeOf memories) (relevantOf conflicts) =
        .ok snapshot ∧
      buildEntries (activeOf memories) (relevantOf conflicts) = .ok snapshot.entries := by
  obtain ⟨hcomplete, hvalidated⟩ := h.validated
  have hsubjects : ∀ memory ∈ activeOf memories, memory.record.subject = ownerSubject :=
    fun memory hmemory => (h.owned _ (mem_activeOf.mp hmemory)).1
  obtain ⟨snapshot, hsnapshot, hentries⟩ := exists_projectValidated floatRepr p hvalidated
    hsubjects howner hencodable
  refine ⟨snapshot, ?_, hsnapshot, hentries⟩
  simp only [project, Checks.bind_ok]
  exact ⟨(), validateExactText_ok.mpr ⟨ownerSubject, rfl, howner⟩, _, h.memories_pass, _,
    h.conflicts_pass, (), hcomplete, hsnapshot⟩

/-- Coherent inputs project to the same result in every order. -/
theorem Coherent.project_perm (h : Coherent ownerSubject memories conflicts)
    {memories' : List MemoryRecord} {conflicts' : List MemoryConflict}
    (hmemories : memories'.Perm memories) (hconflicts : conflicts'.Perm conflicts) :
    project floatRepr p ownerSubject memories' conflicts' =
      project floatRepr p ownerSubject memories conflicts := by
  have h' := h.perm hmemories hconflicts
  have hactive : activeOf memories' = activeOf memories := by
    refine sortBy_eq_of_perm (hmemories.filterMap _) ?_
    have hids := (nodup_supported h'.ids).map UUID.text_injective
    rwa [List.map_map] at hids
  have hrelevant : relevantOf conflicts' = relevantOf conflicts := by
    refine sortBy_eq_of_perm (hconflicts.filterMap _) ?_
    have hids := h'.validated.2.conflictIds
    rw [relevantOf, ((sortBy_perm _ _).map _).nodup_iff] at hids
    have htexts := hids.map UUID.text_injective
    rwa [List.map_map] at htexts
  have hchecked : validatedConflicts ownerSubject conflicts' (activeOf memories) =
      .ok (relevantOf conflicts) := by
    rw [← hactive, h'.conflicts_pass, hrelevant]
  rw [project, project, h.memories_pass, h'.memories_pass, hactive, Checks.ok_bind,
    Checks.ok_bind, hchecked, h.conflicts_pass]

end Project

end PersonalContext
end AyyoHumanoid
