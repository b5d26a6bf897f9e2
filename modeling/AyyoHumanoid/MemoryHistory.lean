import AyyoHumanoid.LinkedChains
import AyyoHumanoid.MemoryService

/-!
# Revision histories

The supersedes links of a reachable store form disjoint chains: each link leads
to a superseded row of the same key that was stored earlier, a row is
superseded by at most one other, and exactly the superseded rows have a
successor. On such a store the two walks of `get_revision_history` end and
return the chain of the memory asked for.
-/

namespace AyyoHumanoid
namespace Memory

open PyText IsoText Transaction LinkedChains

/-- The later row supersedes the earlier one. -/
structure Supersedes (memories : List MemoryRow) (earlier later : MemoryRow) : Prop where
  /-- The earlier row is stored. -/
  earlier_mem : earlier ∈ memories
  /-- The later row is stored. -/
  later_mem : later ∈ memories
  /-- The later row links to the earlier one. -/
  link : later.supersedesId = some earlier.memoryId

/-- What a stored link guarantees about its two rows. -/
structure LinkSound (earlier later : MemoryRow) : Prop where
  /-- The earlier row was superseded. -/
  superseded : earlier.status = .superseded
  /-- The types agree. -/
  memoryType : earlier.memoryType = later.memoryType
  /-- The subjects agree. -/
  subject : earlier.subject = later.subject
  /-- The predicates agree. -/
  predicate : earlier.predicate = later.predicate
  /-- The later row was not created before the earlier one. -/
  time : ∃ before after, earlier.createdAt = datetimeToText before ∧
    later.createdAt = datetimeToText after ∧ before ≤ after

/-- The shape of the supersedes links of a reachable store. -/
structure ChainInvariant (memories : List MemoryRow) : Prop where
  /-- Every link leads to a stored row and is sound. -/
  linked : ∀ row ∈ memories, ∀ id, row.supersedesId = some id →
    ∃ earlier ∈ memories, earlier.memoryId = id ∧ LinkSound earlier row
  /-- Every superseded row has a successor. -/
  successor : ∀ row ∈ memories, row.status = .superseded →
    ∃ later ∈ memories, later.supersedesId = some row.memoryId
  /-- No memory is superseded by two rows. -/
  unforked : ∀ a ∈ memories, ∀ b ∈ memories, ∀ id, a.supersedesId = some id →
    b.supersedesId = some id → a = b
  /-- No row supersedes a row stored after it. -/
  ordered : memories.Pairwise fun earlier later => earlier.supersedesId ≠ some later.memoryId

/-- The empty table has no links. -/
theorem chainInvariant_nil : ChainInvariant [] :=
  ⟨by simp, by simp, by simp, List.Pairwise.nil⟩

section Mark

variable {memories : List MemoryRow} {memoryId : UUID} {status : MemoryStatus}
  {changedAt : Civil} {reason : Option PyStr}

/-- A status update keeps the link and the creation time of a row. -/
theorem MemoryRow.mark_link (row : MemoryRow) (memoryId : UUID) (status : MemoryStatus)
    (changedAt : Civil) (reason : Option PyStr) :
    (row.mark memoryId status changedAt reason).supersedesId = row.supersedesId ∧
      (row.mark memoryId status changedAt reason).createdAt = row.createdAt := by
  unfold MemoryRow.mark
  split <;> exact ⟨rfl, rfl⟩

/-- A status update does not touch superseded rows. -/
theorem MemoryRow.mark_superseded {row : MemoryRow} (h : row.status = .superseded) :
    row.mark memoryId status changedAt reason = row := by
  refine if_neg fun hactive => ?_
  rw [h] at hactive
  cases hactive.2

/-- A sound link stays sound when rows are marked. -/
theorem LinkSound.mark {earlier later : MemoryRow} (h : LinkSound earlier later)
    (memoryId : UUID) (status : MemoryStatus) (changedAt : Civil) (reason : Option PyStr) :
    LinkSound (earlier.mark memoryId status changedAt reason)
      (later.mark memoryId status changedAt reason) := by
  obtain ⟨htype, hsubject, hpredicate, -⟩ := later.mark_key memoryId status changedAt reason
  obtain ⟨-, hcreated⟩ := later.mark_link memoryId status changedAt reason
  rw [MemoryRow.mark_superseded h.superseded]
  refine ⟨h.superseded, h.memoryType.trans htype.symm, h.subject.trans hsubject.symm,
    h.predicate.trans hpredicate.symm, ?_⟩
  rw [hcreated]
  exact h.time

/-- Links stay sound when rows are marked. -/
theorem linked_markRows (h : ChainInvariant memories) :
    ∀ row ∈ markRows memories memoryId status changedAt reason, ∀ id,
      row.supersedesId = some id → ∃ earlier ∈ markRows memories memoryId status changedAt reason,
        earlier.memoryId = id ∧ LinkSound earlier row := by
  intro row hrow id hid
  obtain ⟨old, hold, rfl⟩ := List.mem_map.mp hrow
  rw [(old.mark_link memoryId status changedAt reason).1] at hid
  obtain ⟨earlier, hearlier, hearlierId, hsound⟩ := h.linked old hold id hid
  exact ⟨_, List.mem_map_of_mem hearlier, by rw [MemoryRow.mark_memoryId, hearlierId],
    hsound.mark memoryId status changedAt reason⟩

/-- Marking rows keeps every memory superseded at most once. -/
theorem unforked_markRows (h : ChainInvariant memories) :
    ∀ a ∈ markRows memories memoryId status changedAt reason,
      ∀ b ∈ markRows memories memoryId status changedAt reason, ∀ id,
        a.supersedesId = some id → b.supersedesId = some id → a = b := by
  intro a ha b hb id haid hbid
  obtain ⟨x, hx, rfl⟩ := List.mem_map.mp ha
  obtain ⟨y, hy, rfl⟩ := List.mem_map.mp hb
  rw [(x.mark_link memoryId status changedAt reason).1] at haid
  rw [(y.mark_link memoryId status changedAt reason).1] at hbid
  rw [h.unforked x hx y hy id haid hbid]

/-- Marking rows keeps the storage order of links. -/
theorem ordered_markRows (h : ChainInvariant memories) :
    (markRows memories memoryId status changedAt reason).Pairwise fun earlier later =>
      earlier.supersedesId ≠ some later.memoryId := by
  refine List.pairwise_map.mpr (h.ordered.imp ?_)
  intro x y hne
  rw [(x.mark_link memoryId status changedAt reason).1, MemoryRow.mark_memoryId]
  exact hne

/-- A retraction keeps the chains. -/
theorem ChainInvariant.retract (h : ChainInvariant memories) :
    ChainInvariant (markRows memories memoryId .retracted changedAt reason) where
  linked := linked_markRows h
  successor := by
    intro row hrow hstatus
    obtain ⟨old, hold, rfl⟩ := List.mem_map.mp hrow
    have hsuperseded : old.status = .superseded := by
      unfold MemoryRow.mark at hstatus
      split at hstatus
      · cases hstatus
      · exact hstatus
    obtain ⟨later, hlater, hid⟩ := h.successor old hold hsuperseded
    refine ⟨_, List.mem_map_of_mem hlater, ?_⟩
    rw [(later.mark_link memoryId .retracted changedAt reason).1, MemoryRow.mark_memoryId, hid]
  unforked := unforked_markRows h
  ordered := ordered_markRows h

end Mark

/-- No stored row links to an identifier that is not stored. -/
theorem ChainInvariant.no_link_to_fresh {memories : List MemoryRow} (h : ChainInvariant memories)
    {id : UUID} (hfresh : ∀ other ∈ memories, other.memoryId ≠ id) :
    ∀ row ∈ memories, row.supersedesId ≠ some id := by
  intro row hrow hid
  obtain ⟨earlier, hearlier, hsame, -⟩ := h.linked row hrow id hid
  exact hfresh earlier hearlier hsame

/-- Appending a root keeps the chains. -/
theorem ChainInvariant.add {memories : List MemoryRow} (h : ChainInvariant memories)
    {row : MemoryRow} (hfresh : ∀ other ∈ memories, other.memoryId ≠ row.memoryId)
    (hroot : row.supersedesId = none) (hactive : row.status = .active) :
    ChainInvariant (memories ++ [row]) where
  linked := by
    intro other hother id hid
    rcases List.mem_append.mp hother with hother | hother
    · obtain ⟨earlier, hearlier, hsound⟩ := h.linked other hother id hid
      exact ⟨earlier, List.mem_append_left _ hearlier, hsound⟩
    · rw [List.mem_singleton.mp hother, hroot] at hid
      cases hid
  successor := by
    intro other hother hstatus
    rcases List.mem_append.mp hother with hother | hother
    · obtain ⟨later, hlater, hid⟩ := h.successor other hother hstatus
      exact ⟨later, List.mem_append_left _ hlater, hid⟩
    · rw [List.mem_singleton.mp hother, hactive] at hstatus
      cases hstatus
  unforked := by
    intro a ha b hb id haid hbid
    rcases List.mem_append.mp ha with ha | ha
    · rcases List.mem_append.mp hb with hb | hb
      · exact h.unforked a ha b hb id haid hbid
      · rw [List.mem_singleton.mp hb, hroot] at hbid
        cases hbid
    · rw [List.mem_singleton.mp ha, hroot] at haid
      cases haid
  ordered := by
    rw [List.pairwise_append]
    refine ⟨h.ordered, List.pairwise_singleton _ _, ?_⟩
    intro earlier hearlier later hlater
    rw [List.mem_singleton.mp hlater]
    exact h.no_link_to_fresh hfresh earlier hearlier

/-- Superseding an active row and appending its replacement keeps the chains. -/
theorem ChainInvariant.correct {memories : List MemoryRow} (h : ChainInvariant memories)
    {target row : MemoryRow} {changedAt : Civil}
    {reason : Option PyStr} (htarget : target ∈ memories) (hactive : target.status = .active)
    (hrow : row.Admissible (markRows memories target.memoryId .superseded changedAt reason))
    (hlink : row.supersedesId = some target.memoryId) (hrowActive : row.status = .active)
    (hsound : LinkSound (target.withStatus .superseded changedAt reason) row) :
    ChainInvariant (markRows memories target.memoryId .superseded changedAt reason ++ [row]) := by
  have hmarked : target.mark target.memoryId .superseded changedAt reason =
      target.withStatus .superseded changedAt reason := if_pos ⟨rfl, hactive⟩
  have hfreshOld : ∀ other ∈ memories, other.memoryId ≠ row.memoryId := by
    intro other hother
    have hne := hrow.primaryKey _ (List.mem_map_of_mem hother)
    rwa [MemoryRow.mark_memoryId] at hne
  refine ⟨?_, ?_, ?_, ?_⟩
  · intro other hother id hid
    rcases List.mem_append.mp hother with hother | hother
    · obtain ⟨earlier, hearlier, hearlierId⟩ := linked_markRows h other hother id hid
      exact ⟨earlier, List.mem_append_left _ hearlier, hearlierId⟩
    · rw [List.mem_singleton.mp hother] at hid ⊢
      rw [hlink, Option.some.injEq] at hid
      refine ⟨_, List.mem_append_left _ (List.mem_map_of_mem htarget), ?_, hmarked ▸ hsound⟩
      rw [MemoryRow.mark_memoryId, hid]
  · intro other hother hstatus
    rcases List.mem_append.mp hother with hother | hother
    · obtain ⟨old, hold, rfl⟩ := List.mem_map.mp hother
      rw [MemoryRow.mark_memoryId]
      by_cases hsame : old.memoryId = target.memoryId
      · -- The freshly superseded row is the target, whose successor is the replacement.
        exact ⟨row, by simp, hsame ▸ hlink⟩
      · have hsuperseded : old.status = .superseded := by
          rwa [MemoryRow.mark, if_neg fun hboth => hsame hboth.1] at hstatus
        obtain ⟨later, hlater, hid⟩ := h.successor old hold hsuperseded
        refine ⟨_, List.mem_append_left _ (List.mem_map_of_mem hlater), ?_⟩
        rw [(later.mark_link target.memoryId .superseded changedAt reason).1, hid]
    · rw [List.mem_singleton.mp hother, hrowActive] at hstatus
      cases hstatus
  · intro a ha b hb id haid hbid
    have hnew : ∀ other ∈ markRows memories target.memoryId .superseded changedAt reason,
        other.supersedesId ≠ some target.memoryId :=
      hrow.uniqueSupersedes target.memoryId hlink
    rcases List.mem_append.mp ha with ha | ha <;> rcases List.mem_append.mp hb with hb | hb
    · exact unforked_markRows h a ha b hb id haid hbid
    · rw [List.mem_singleton.mp hb, hlink, Option.some.injEq] at hbid
      exact absurd (hbid ▸ haid) (hnew a ha)
    · rw [List.mem_singleton.mp ha, hlink, Option.some.injEq] at haid
      exact absurd (haid ▸ hbid) (hnew b hb)
    · rw [List.mem_singleton.mp ha, List.mem_singleton.mp hb]
  · rw [List.pairwise_append]
    refine ⟨ordered_markRows h, List.pairwise_singleton _ _, ?_⟩
    intro earlier hearlier later hlater
    rw [List.mem_singleton.mp hlater]
    obtain ⟨old, hold, rfl⟩ := List.mem_map.mp hearlier
    rw [(old.mark_link target.memoryId .superseded changedAt reason).1]
    exact h.no_link_to_fresh hfreshOld old hold

/-- The creation column of a written record. -/
theorem recordRow_createdAt {record : MemoryRecord} {row : MemoryRow}
    (h : recordRow record = .ok row) :
    row.createdAt = datetimeToText record.createdAt.civil ∧
      row.supersedesId = record.supersedes := by
  obtain ⟨-, -, -, rfl⟩ := recordRow_ok.mp h
  exact ⟨rfl, rfl⟩

/-- What holds of the memories of every reachable store. -/
structure RevisionInvariant (s : MemoryStore) : Prop extends StoreInvariant s where
  /-- The supersedes links form chains. -/
  chains : ChainInvariant s.memories

/-- Every committed store call keeps the revision invariant. -/
theorem RevisionInvariant.step {call : StoreCall} {s s' : MemoryStore} {result : MemoryRecord}
    (h : RevisionInvariant s) (hrun : call.run.run s = .ok (result, s')) :
    RevisionInvariant s' := by
  refine ⟨h.toStoreInvariant.step hrun, ?_⟩
  cases call with
  | add record uuids =>
    obtain ⟨-, row, hadded⟩ := addMemory_ok hrun
    obtain ⟨-, -, -, -, hstatus⟩ := recordRow_key hadded.written
    rw [hadded.memories]
    exact h.chains.add hadded.admissible.primaryKey
      ((recordRow_createdAt hadded.written).2.trans hadded.initial)
      (hstatus.trans hadded.active)
  | correct targetId replacement uuids =>
    obtain ⟨-, targetRow, target, row, recorded, added, hcorrected⟩ := correctMemory_ok hrun
    obtain ⟨hmem, hid⟩ := rowFor_some hcorrected.found
    have hread := memoryFromRow_ok hcorrected.read
    obtain ⟨-, htype, hsubject, hpredicate, hstatus⟩ := recordRow_key hcorrected.written
    obtain ⟨hcreated, hlink⟩ := recordRow_createdAt hcorrected.written
    have htargetWritten := (h.wellFormed targetRow hmem).write hcorrected.read
    have hkey := hcorrected.key
    simp only [RecordFields.key, Prod.mk.injEq] at hkey
    obtain ⟨hktype, hksubject, hkpredicate⟩ := hkey
    have hsound : LinkSound (targetRow.withStatus .superseded replacement.createdAt.civil
        replacement.revisionReason) row :=
      ⟨rfl, hread.memoryType.symm.trans (hktype.symm.trans htype.symm),
        hread.subject.symm.trans (hksubject.symm.trans hsubject.symm),
        hread.predicate.symm.trans (hkpredicate.symm.trans hpredicate.symm),
        target.createdAt.civil, replacement.createdAt.civil,
        (recordRow_createdAt htargetWritten).1, hcreated, hcorrected.time⟩
    have hadmissible := hcorrected.admissible
    rw [hcorrected.memories]
    rw [← hid] at hadmissible ⊢
    exact h.chains.correct hmem (hread.status.symm.trans hcorrected.targetActive) hadmissible
      (hlink.trans (hcorrected.supersedes.trans (by rw [hid])))
      (hstatus.trans hcorrected.replacementActive) hsound
  | retract memoryId reason retractedAt =>
    obtain ⟨-, -, row, record, hretracted⟩ := retractMemory_ok hrun
    rw [hretracted.memories]
    exact h.chains.retract

/-- The revision invariant holds of the empty store. -/
theorem revisionInvariant_empty : RevisionInvariant .empty :=
  ⟨storeInvariant_empty, chainInvariant_nil⟩

end Memory
end AyyoHumanoid
