import AyyoHumanoid.ContextValidation
import AyyoHumanoid.JsonUtf8

/-!
# Building entries from validated inputs

Validated memories and conflicts always give entries, one for each identity. The
values of an entry are the canonical values of the identity's memories with
these memories as evidence, and its conflicts are as many as there are pairs of
evidence for different values, so the entry's own checks pass.
-/

namespace AyyoHumanoid
namespace PersonalContext

open PyText JsonText PyCollections
open Memory (MemoryRecord MemoryConflict Writable)

/-- The identifier of a supported memory. -/
def SupportedMemory.memoryId (memory : SupportedMemory) : UUID := memory.record.memoryId

/-- Inputs that passed the projector's checks. -/
structure Validated (active : List SupportedMemory) (conflicts : List SupportedConflict) :
    Prop where
  /-- The memories are different. -/
  ids : (active.map SupportedMemory.memoryId).Nodup
  /-- Their texts can be written. -/
  writable : ∀ memory ∈ active, Writable memory.record
  /-- The conflicts are different. -/
  conflictIds : (conflicts.map (·.conflict.conflictId)).Nodup
  /-- They are over different pairs. -/
  pairs : (conflicts.map fun item => memoryPair item.conflict).Nodup
  /-- They are over the contradictions. -/
  covers : Covers active conflicts
  /-- A conflict is counted under the identity of its pair. -/
  identities : ∀ item ∈ conflicts, ∀ left ∈ active, ∀ right ∈ active,
    Contradictory left right →
    memoryPair item.conflict = UUID.sortedPair left.memoryId right.memoryId →
      item.left.identity = left.identity

section Evidence

/-- What the checks of evidence establish. -/
structure EvidenceFields.Valid (f : EvidenceFields) : Prop where
  /-- The source is exact text. -/
  source : Memory.NonemptyText f.provenanceSourceId
  /-- The details can be printed. -/
  details : (Json.obj f.provenanceDetails).dumpable = true
  /-- The metadata can be printed. -/
  metadata : (Json.obj f.metadata).dumpable = true
  /-- The confidence is between zero and one. -/
  confidence : f.confidence.InUnit
  /-- The observation time is UTC. -/
  observedUtc : f.observedAt.utcoffset = some 0
  /-- The recording time is UTC. -/
  recordedUtc : f.recordedAt.utcoffset = some 0
  /-- No evidence supersedes itself. -/
  notSelf : f.supersedes ≠ some f.memoryId
  /-- A root has no revision reason. -/
  rootReason : f.supersedes = none → f.revisionReason = none
  revisionReason : f.supersedes ≠ none →
    ∃ text, f.revisionReason = some text ∧ Memory.NonemptyText text

/-- The checks of evidence pass exactly on valid fields. -/
theorem EvidenceFields.postInit_ok {f : EvidenceFields} : f.postInit = .ok () ↔ f.Valid := by
  simp only [postInit, Checks.bind_ok, validateExactText_ok, canonicalizeJson_ok, validateUtc,
    Checks.require_ok, Checks.requireWhen_ok, Option.some.injEq, exists_eq_left']
  constructor
  · rintro ⟨_, h1, _, ⟨h2, -⟩, _, ⟨h3, -⟩, _, h4, _, h5, _, h6, _, h7, _, h8, h9⟩
    exact ⟨h1, h2, h3, h4, h5, h6, h7, h8, h9⟩
  · rintro ⟨h1, h2, h3, h4, h5, h6, h7, h8, h9⟩
    exact ⟨(), h1, _, ⟨h2, rfl⟩, _, ⟨h3, rfl⟩, (), h4, (), h5, (), h6, (), h7, (), h8, h9⟩

/-- The checks of evidence pass for a writable record. -/
theorem evidenceFields_ok {record : MemoryRecord} (h : Writable record) :
    (evidenceFields record).postInit = .ok () := by
  have hvalid := record.valid
  have hsource : Memory.NonemptyText record.provenance.sourceId := by
    have hchecked := record.provenance.checked
    rw [Memory.validateNonemptyText_ok] at hchecked
    obtain ⟨text, htext, hnonempty⟩ := hchecked
    cases htext
    exact hnonempty
  exact EvidenceFields.postInit_ok.mpr ⟨hsource, h.details, h.metadata, hvalid.confidence,
    hvalid.observedUtc, hvalid.createdUtc, hvalid.notSelf, hvalid.rootReason,
    hvalid.revisionReason⟩

/-- The evidence of a record is the reference to it. -/
theorem evidence_construct_ok {record : MemoryRecord} {reference : EvidenceReference}
    (h : EvidenceReference.construct (evidenceFields record) = .ok reference) :
    reference.toEvidenceFields = evidenceFields record := by
  obtain ⟨hchecked, rfl⟩ := Checks.construct_ok.mp h
  rfl

end Evidence

/-- A value stands for the memories of its group. -/
structure ValueFor (group : List SupportedMemory) (value : ContextValue) : Prop where
  /-- Its canonical text is that of a member. -/
  canonical : ∃ first ∈ group, value.canonicalValue = first.canonicalValue
  /-- Its evidence is the members. -/
  evidence : (value.evidence.map (·.toEvidenceFields)).Perm
    (group.map fun memory => evidenceFields memory.record)

/-- The identifiers of a value's evidence are those of its group. -/
theorem ValueFor.ids {group : List SupportedMemory} {value : ContextValue}
    (h : ValueFor group value) :
    (value.evidence.map (·.memoryId)).Perm (group.map SupportedMemory.memoryId) := by
  have hids := h.evidence.map EvidenceFields.memoryId
  rw [List.map_map, List.map_map] at hids
  exact hids

/-- A value has as much evidence as its group has members. -/
theorem ValueFor.length {group : List SupportedMemory} {value : ContextValue}
    (h : ValueFor group value) : value.evidence.length = group.length := by
  simpa using h.evidence.length_eq

/-- A value that is built stands for its group. -/
theorem contextValue_ok {group : List SupportedMemory} {value : ContextValue}
    (h : contextValue group = .ok value) : ValueFor group value := by
  simp only [contextValue, Checks.bind_ok] at h
  obtain ⟨evidence, hevidence, hconstruct⟩ := h
  obtain ⟨hchecked, rfl⟩ := Checks.construct_ok.mp hconstruct
  have hfields : evidence.map (·.toEvidenceFields) =
      group.map fun memory => evidenceFields memory.record :=
    Checks.map_of_mapM_ok hevidence _ fun memory reference hreference =>
      evidence_construct_ok hreference
  have hnonempty : group ≠ [] := by
    rintro rfl
    simp only [ValueFields.postInit, Checks.bind_ok, Checks.require_ok] at hchecked
    obtain ⟨_, -, _, ⟨hsome, -⟩, -⟩ := hchecked
    rw [List.map_nil, List.map_eq_nil_iff] at hfields
    rw [hfields] at hsome
    exact hsome rfl
  obtain ⟨first, rest, rfl⟩ := List.exists_cons_of_ne_nil hnonempty
  refine ⟨⟨first, List.mem_cons_self, rfl⟩, ?_⟩
  rw [← hfields]
  exact (sortBy_perm _ _).map _

/-- Memories with different identifiers that can be written give a value. -/
theorem exists_contextValue {group : List SupportedMemory} (hnonempty : group ≠ [])
    (hids : (group.map SupportedMemory.memoryId).Nodup)
    (hwritable : ∀ memory ∈ group, Writable memory.record) :
    ∃ value, contextValue group = .ok value := by
  have hevidence : ∃ evidence, (group.mapM fun memory =>
      EvidenceReference.construct (evidenceFields memory.record)) = .ok evidence := by
    refine Checks.exists_mapM_ok.mpr fun memory hmemory => ?_
    exact ⟨_, Checks.construct_ok.mpr ⟨evidenceFields_ok (hwritable memory hmemory), rfl⟩⟩
  obtain ⟨evidence, hevidence⟩ := hevidence
  have hsame : evidence.map (fun reference => reference.memoryId) =
      group.map SupportedMemory.memoryId :=
    Checks.map_of_mapM_ok hevidence _ fun memory reference hreference => by
      rw [evidence_construct_ok hreference]
      rfl
  have hevidenceIds : (evidence.map fun reference => reference.memoryId).Nodup := by
    rw [hsame]
    exact hids
  have htexts : (evidence.map fun reference => reference.memoryId.text).Nodup := by
    have hmapped := hevidenceIds.map UUID.text_injective
    rwa [List.map_map] at hmapped
  have hpositive : evidence ≠ [] := by
    rintro rfl
    rw [List.map_nil, eq_comm, List.map_eq_nil_iff] at hsame
    exact hnonempty hsame
  obtain ⟨first, rest, rfl⟩ := List.exists_cons_of_ne_nil hnonempty
  have hvalue := (hwritable first List.mem_cons_self).value
  have hchecked : (ValueFields.mk first.record.value
      (sortBy (fun reference => reference.memoryId.text) evidence)).postInit = .ok () := by
    simp only [ValueFields.postInit, Checks.bind_ok, Checks.require_ok, canonicalizeJson_ok]
    refine ⟨_, ⟨hvalue, rfl⟩, (), ⟨?_, (sortBy_sortBy htexts).symm⟩, ?_⟩
    · intro hempty
      have hlength := length_sortBy (fun reference : EvidenceReference => reference.memoryId.text)
        evidence
      rw [hempty, List.length_nil, eq_comm, List.length_eq_zero_iff] at hlength
      exact hpositive hlength
    · exact ((sortBy_perm _ _).map _).nodup_iff.mpr hevidenceIds
  refine ⟨⟨_, hchecked⟩, ?_⟩
  rw [contextValue, hevidence]
  exact Checks.construct_ok.mpr ⟨hchecked, rfl⟩

/-- The number of contradictory pairs is that of the pairs across the values' evidence. -/
theorem contradictoryPairs_eq (values : List ContextValue) :
    contradictoryPairs values = (crossPairs (values.map (·.evidence))).length := by
  induction values with
  | nil => rfl
  | cons left later ih =>
    rw [contradictoryPairs, List.map_cons, crossPairs, List.length_append, List.length_product,
      List.length_flatten, List.map_map, ← ih]
    congr 1
    induction later with
    | nil => simp
    | cons right later ihLater =>
      rw [List.map_cons, List.map_cons, List.sum_cons, List.sum_cons, Nat.mul_add]
      have htail : (later.map fun right => left.evidence.length * right.evidence.length).sum =
          left.evidence.length * (later.map (List.length ∘ fun value => value.evidence)).sum := by
        clear ih ihLater
        induction later with
        | nil => rfl
        | cons next later ih =>
          rw [List.map_cons, List.map_cons, List.sum_cons, List.sum_cons, Nat.mul_add, ih]
          rfl
      rw [htail]
      rfl

/-- Two values with evidence form a contradictory pair. -/
theorem contradictoryPairs_pos {values : List ContextValue} (htwo : 2 ≤ values.length)
    (hevidence : ∀ value ∈ values, value.evidence ≠ []) : 0 < contradictoryPairs values := by
  match values, htwo, hevidence with
  | left :: right :: later, _, hevidence =>
    have hleft := List.length_pos_iff.mpr (hevidence left (by simp))
    have hright := List.length_pos_iff.mpr (hevidence right (by simp))
    have hproduct := Nat.mul_pos hleft hright
    rw [contradictoryPairs, List.map_cons, List.sum_cons]
    omega

section Entries

variable {active : List SupportedMemory} {conflicts : List SupportedConflict}

/-- The memories of one identity. -/
abbrev memoriesOf (active : List SupportedMemory) (identity : ContextIdentity) :
    List SupportedMemory :=
  groupOf SupportedMemory.identity active identity

/-- The conflicts of an identity are as many as the pairs of its memories with different
values. -/
theorem length_conflictIdsFor (h : Validated active conflicts) (identity : ContextIdentity) :
    (conflictIdsFor identity conflicts).length =
      (crossPairs (groupsBy SupportedMemory.canonicalValue (memoriesOf active identity))).length := by
  set records := memoriesOf active identity with hrecords
  set pairs := crossPairs (groupsBy SupportedMemory.canonicalValue records) with hpairs
  have hrecordIds : (records.map SupportedMemory.memoryId).Nodup :=
    h.ids.sublist (List.filter_sublist.map _)
  have hsame : ∀ left ∈ records, ∀ right ∈ records, left.memoryId = right.memoryId →
      left = right := fun left hleft right hright hid =>
    List.inj_on_of_nodup_map hrecordIds hleft hright hid
  have hmem : ∀ left right, (left, right) ∈ pairs ↔ left ∈ records ∧ right ∈ records ∧
      left.canonicalValue < right.canonicalValue := fun left right => mem_crossPairs_groupsBy
  -- Pairs in the order of their values are told apart by their identifiers in either order.
  have hnodup : (pairs.map fun pair => UUID.sortedPair pair.1.memoryId pair.2.memoryId).Nodup := by
    refine List.Nodup.map_on ?_ (nodup_crossPairs (nodup_flatten_groupsBy hrecordIds.of_map))
    rintro ⟨a, b⟩ hab ⟨c, d⟩ hcd hsorted
    obtain ⟨ha, hb, hlt⟩ := (hmem a b).mp hab
    obtain ⟨hc, hd, hlt'⟩ := (hmem c d).mp hcd
    have hcases : (a.memoryId = c.memoryId ∧ b.memoryId = d.memoryId) ∨
        (a.memoryId = d.memoryId ∧ b.memoryId = c.memoryId) := by
      have hsorted : UUID.sortedPair a.memoryId b.memoryId =
          UUID.sortedPair c.memoryId d.memoryId := hsorted
      rcases UUID.sortedPair_cases a.memoryId b.memoryId with h1 | h1 <;>
        rcases UUID.sortedPair_cases c.memoryId d.memoryId with h2 | h2 <;>
        rw [h1, h2, Prod.mk.injEq] at hsorted
      · exact Or.inl hsorted
      · exact Or.inr hsorted
      · exact Or.inr ⟨hsorted.2, hsorted.1⟩
      · exact Or.inl ⟨hsorted.2, hsorted.1⟩
    rcases hcases with ⟨hac, hbd⟩ | ⟨had, hbc⟩
    · rw [hsame a ha c hc hac, hsame b hb d hd hbd]
    · rw [hsame a ha d hd had, hsame b hb c hc hbc] at hlt
      exact absurd hlt (lt_asymm hlt')
  have hcounted : ((conflicts.filter fun item => item.left.identity = identity).map fun item =>
      memoryPair item.conflict).Nodup := h.pairs.sublist (List.filter_sublist.map _)
  have hperm : ((conflicts.filter fun item => item.left.identity = identity).map fun item =>
      memoryPair item.conflict).Perm
        (pairs.map fun pair => UUID.sortedPair pair.1.memoryId pair.2.memoryId) := by
    refine (List.perm_ext_iff_of_nodup hcounted hnodup).mpr fun pair => ?_
    simp only [List.mem_map, List.mem_filter, decide_eq_true_eq]
    constructor
    · rintro ⟨item, ⟨hitem, hidentity⟩, rfl⟩
      obtain ⟨left, hleft, right, hright, hcontra, hpair⟩ := h.covers.sound item hitem
      have hleftIdentity := h.identities item hitem left hleft right hright hcontra hpair
      have hrightIdentity : left.identity = right.identity :=
        SupportedMemory.identity_eq_iff.mpr hcontra.key
      have hleftRecord : left ∈ records := mem_groupOf.mpr
        ⟨hleft, hleftIdentity.symm.trans hidentity⟩
      have hrightRecord : right ∈ records := mem_groupOf.mpr
        ⟨hright, hrightIdentity.symm.trans (hleftIdentity.symm.trans hidentity)⟩
      rcases lt_or_gt_of_ne hcontra.values with hlt | hgt
      · exact ⟨(left, right), (hmem _ _).mpr ⟨hleftRecord, hrightRecord, hlt⟩, hpair.symm⟩
      · refine ⟨(right, left), (hmem _ _).mpr ⟨hrightRecord, hleftRecord, hgt⟩, ?_⟩
        rw [hpair]
        exact UUID.sortedPair_comm _ _
    · rintro ⟨⟨left, right⟩, hmember, rfl⟩
      obtain ⟨hleft, hright, hlt⟩ := (hmem left right).mp hmember
      obtain ⟨hleftActive, hleftIdentity⟩ := mem_groupOf.mp hleft
      obtain ⟨hrightActive, hrightIdentity⟩ := mem_groupOf.mp hright
      have hcontra : Contradictory left right :=
        ⟨SupportedMemory.identity_eq_iff.mp (hleftIdentity.trans hrightIdentity.symm),
          ne_of_lt hlt⟩
      obtain ⟨item, hitem, hpair⟩ := h.covers.complete left hleftActive right hrightActive hcontra
      have hidentity := h.identities item hitem left hleftActive right hrightActive hcontra hpair
      exact ⟨item, ⟨hitem, hidentity.trans hleftIdentity⟩, hpair⟩
  have hlength := hperm.length_eq
  rw [List.length_map, List.length_map] at hlength
  rw [conflictIdsFor, length_sortBy, List.length_map, hlength]

/-- An entry stands for the memories and conflicts of an identity. -/
structure EntryFor (active : List SupportedMemory) (conflicts : List SupportedConflict)
    (identity : ContextIdentity) (entry : ContextEntry) : Prop where
  sameIdentity : entry.identity = identity
  /-- The values stand for the memories of one value each. -/
  values : List.Forall₂ ValueFor
    (groupsBy SupportedMemory.canonicalValue (memoriesOf active identity)) entry.values
  /-- One value resolves the entry. -/
  state : entry.state = if entry.values.length = 1 then .resolved else .conflicted
  /-- The conflicts are those of the identity. -/
  conflictIds : entry.conflictIds = conflictIdsFor identity conflicts

/-- Every value of an entry stands for one of the groups. -/
theorem EntryFor.exists_group {identity : ContextIdentity} {entry : ContextEntry}
    (h : EntryFor active conflicts identity entry) {value : ContextValue}
    (hvalue : value ∈ entry.values) :
    ∃ group ∈ groupsBy SupportedMemory.canonicalValue (memoriesOf active identity),
      ValueFor group value := by
  have hvalues := h.values
  generalize groupsBy SupportedMemory.canonicalValue (memoriesOf active identity) = groups
    at hvalues ⊢
  generalize entry.values = values at hvalues hvalue
  induction hvalues with
  | nil => cases hvalue
  | cons hfirst hrest ih =>
    rcases List.mem_cons.mp hvalue with rfl | hlater
    · exact ⟨_, List.mem_cons_self, hfirst⟩
    · obtain ⟨group, hgroup, hstands⟩ := ih hlater
      exact ⟨group, List.mem_cons_of_mem _ hgroup, hstands⟩

/-- An entry that is built stands for its identity. -/
theorem buildEntry_ok {identity : ContextIdentity} {entry : ContextEntry}
    (h : buildEntry active conflicts identity = .ok entry) :
    EntryFor active conflicts identity entry := by
  simp only [buildEntry, Checks.bind_ok] at h
  obtain ⟨_, -, values, hvalues, hconstruct⟩ := h
  obtain ⟨hchecked, rfl⟩ := Checks.construct_ok.mp hconstruct
  exact ⟨rfl, (Checks.mapM_ok.mp hvalues).imp fun _ _ hvalue => contextValue_ok hvalue, rfl, rfl⟩

/-- Values that stand for groups have the groups' evidence. -/
theorem evidence_perm {groups : List (List SupportedMemory)} {values : List ContextValue}
    (h : List.Forall₂ ValueFor groups values) :
    ((values.flatMap (·.evidence)).map (·.memoryId)).Perm
      (groups.flatten.map SupportedMemory.memoryId) := by
  induction h with
  | nil => exact .nil
  | cons hvalue hrest ih =>
    rw [List.flatMap_cons, List.flatten_cons, List.map_append, List.map_append]
    exact hvalue.ids.append ih

/-- Values that stand for groups have evidence of the groups' sizes. -/
theorem evidence_lengths {groups : List (List SupportedMemory)} {values : List ContextValue}
    (h : List.Forall₂ ValueFor groups values) :
    (values.map (·.evidence)).map List.length = groups.map List.length := by
  induction h with
  | nil => rfl
  | cons hvalue hrest ih => rw [List.map_cons, List.map_cons, List.map_cons, ih, hvalue.length]

/-- The canonical texts of the values are those of the memories. -/
theorem canonicalValues_eq {records : List SupportedMemory} {values : List ContextValue}
    (h : List.Forall₂ ValueFor (groupsBy SupportedMemory.canonicalValue records) values) :
    values.map ContextValue.canonicalValue =
      sortedSet (records.map SupportedMemory.canonicalValue) := by
  rw [groupsBy, List.forall₂_map_left_iff] at h
  generalize sortedSet (records.map SupportedMemory.canonicalValue) = texts at h
  induction h with
  | nil => rfl
  | cons hvalue hrest ih =>
    obtain ⟨first, hfirst, hcanonical⟩ := hvalue.canonical
    rw [List.map_cons, ih, hcanonical, (mem_groupOf.mp hfirst).2]

/-- The checks of an entry pass for validated inputs. -/
theorem entryFields_ok (h : Validated active conflicts) {identity : ContextIdentity}
    (hidentity : ∃ memory ∈ active, memory.identity = identity) {values : List ContextValue}
    (hvalues : List.Forall₂ ValueFor
      (groupsBy SupportedMemory.canonicalValue (memoriesOf active identity)) values) :
    (EntryFields.mk identity (if values.length = 1 then .resolved else .conflicted) values
      (conflictIdsFor identity conflicts)).postInit = .ok () := by
  set records := memoriesOf active identity with hrecords
  have hcanonical := canonicalValues_eq hvalues
  have hordered : KeyOrdered ContextValue.canonicalValue values := by
    rw [KeyOrdered, hcanonical]
    exact pairwise_sortedSet _
  have hrecordIds : (records.map SupportedMemory.memoryId).Nodup :=
    h.ids.sublist (List.filter_sublist.map _)
  have hevidenceIds : ((values.flatMap (·.evidence)).map (·.memoryId)).Nodup := by
    rw [(evidence_perm hvalues).nodup_iff]
    refine List.Nodup.map_on ?_ (nodup_flatten_groupsBy hrecordIds.of_map)
    intro left hleft right hright hid
    have hmember : ∀ memory ∈ (groupsBy SupportedMemory.canonicalValue records).flatten,
        memory ∈ records := by
      intro memory hmemory
      obtain ⟨group, hgroup, hinside⟩ := List.mem_flatten.mp hmemory
      obtain ⟨other, -, rfl⟩ := mem_groupsBy.mp hgroup
      exact (mem_groupOf.mp hinside).1
    exact List.inj_on_of_nodup_map hrecordIds (hmember left hleft) (hmember right hright) hid
  have hcount : (conflictIdsFor identity conflicts).length = contradictoryPairs values := by
    rw [length_conflictIdsFor h, contradictoryPairs_eq]
    exact length_crossPairs_congr (evidence_lengths hvalues).symm
  have hconflictNodup : ((conflicts.filter fun item => item.left.identity = identity).map
      (·.conflict.conflictId)).Nodup := h.conflictIds.sublist (List.filter_sublist.map _)
  have hconflictTexts := hconflictNodup.map UUID.text_injective
  have hsorted : conflictIdsFor identity conflicts =
      sortBy UUID.text (conflictIdsFor identity conflicts).dedup := by
    have hnodup : (conflictIdsFor identity conflicts).Nodup :=
      (sortBy_perm _ _).nodup_iff.mpr hconflictNodup
    rw [hnodup.dedup, conflictIdsFor, sortBy_sortBy hconflictTexts]
  have hsome : values ≠ [] := by
    rintro rfl
    obtain ⟨memory, hmemory, hsame⟩ := hidentity
    have hrecord : memory ∈ records := mem_groupOf.mpr ⟨hmemory, hsame⟩
    have htext : memory.canonicalValue ∈ sortedSet (records.map SupportedMemory.canonicalValue) :=
      mem_sortedSet.mpr (List.mem_map_of_mem hrecord)
    rw [← hcanonical, List.map_nil] at htext
    cases htext
  have hlength := List.length_pos_iff.mpr hsome
  have hnonempty : ∀ value ∈ values, value.evidence ≠ [] := by
    intro value hvalue hempty
    have hchecked := value.checked
    simp only [ValueFields.postInit, Checks.bind_ok, Checks.require_ok] at hchecked
    obtain ⟨_, -, _, ⟨hfilled, -⟩, -⟩ := hchecked
    exact hfilled hempty
  simp only [EntryFields.postInit, Checks.bind_ok, Checks.require_ok]
  by_cases hone : values.length = 1
  · obtain ⟨only, rfl⟩ := List.length_eq_one_iff.mp hone
    have hzero : conflictIdsFor identity conflicts = [] := by
      rw [← List.length_eq_zero_iff, hcount]
      rfl
    refine ⟨(), Or.inl (if_pos hone), (), (sortBy_eq_self hordered).symm, (), hordered.nodup, (),
      hevidenceIds, (), hsorted, (), fun _ => ⟨hone, hzero⟩, (), ?_, ?_⟩ <;> simp
  · have htwo : 2 ≤ values.length := by omega
    have hpositive := contradictoryPairs_pos htwo hnonempty
    have hpresent : conflictIdsFor identity conflicts ≠ [] := by
      intro hempty
      rw [hempty, List.length_nil] at hcount
      omega
    rw [if_neg hone]
    exact ⟨(), Or.inr rfl, (), (sortBy_eq_self hordered).symm, (), hordered.nodup, (),
      hevidenceIds, (), hsorted, (), by simp, (), fun _ => ⟨htwo, hpresent⟩, fun _ => hcount⟩

/-- Every identity of validated memories gets an entry. -/
theorem exists_buildEntry (h : Validated active conflicts) {identity : ContextIdentity}
    (hidentity : ∃ memory ∈ active, memory.identity = identity) :
    ∃ entry, buildEntry active conflicts identity = .ok entry := by
  have hrecordIds : ((memoriesOf active identity).map SupportedMemory.memoryId).Nodup :=
    h.ids.sublist (List.filter_sublist.map _)
  have hwritable : ∀ memory ∈ memoriesOf active identity, Writable memory.record :=
    fun memory hmemory => h.writable memory (mem_groupOf.mp hmemory).1
  have htexts : ∃ texts, ((memoriesOf active identity).mapM fun memory =>
      canonicalizeJson memory.record.value) = .ok texts := by
    refine Checks.exists_mapM_ok.mpr fun memory hmemory => ?_
    exact ⟨_, canonicalizeJson_ok.mpr ⟨(hwritable memory hmemory).value, rfl⟩⟩
  have hvalues : ∃ values, (groupsBy SupportedMemory.canonicalValue
      (memoriesOf active identity)).mapM contextValue = .ok values := by
    refine Checks.exists_mapM_ok.mpr fun group hgroup => ?_
    have hnonempty := groupsBy_ne_nil hgroup
    obtain ⟨member, -, rfl⟩ := mem_groupsBy.mp hgroup
    exact exists_contextValue hnonempty (hrecordIds.sublist (List.filter_sublist.map _))
      fun memory hmemory => hwritable memory (mem_groupOf.mp hmemory).1
  obtain ⟨texts, htexts⟩ := htexts
  obtain ⟨values, hvalues⟩ := hvalues
  have hchecked := entryFields_ok h hidentity
    ((Checks.mapM_ok.mp hvalues).imp fun _ _ hvalue => contextValue_ok hvalue)
  refine ⟨⟨_, hchecked⟩, ?_⟩
  simp only [buildEntry, Checks.bind_ok]
  exact ⟨texts, htexts, values, hvalues, Checks.construct_ok.mpr ⟨hchecked, rfl⟩⟩

/-- Validated inputs always give entries. -/
theorem exists_buildEntries (h : Validated active conflicts) :
    ∃ entries, buildEntries active conflicts = .ok entries := by
  refine Checks.exists_mapM_ok.mpr fun identity hidentity => ?_
  rw [mem_sortedSet, List.mem_map] at hidentity
  exact exists_buildEntry h hidentity

/-- The identities of the entries are those of the memories. -/
theorem identities_of_entries {entries : List ContextEntry}
    (h : buildEntries active conflicts = .ok entries) :
    entries.map (·.identity) = sortedSet (active.map SupportedMemory.identity) := by
  have hidentities : entries.map (·.identity) =
      (sortedSet (active.map SupportedMemory.identity)).map id :=
    Checks.map_of_mapM_ok h id fun identity entry hentry => (buildEntry_ok hentry).sameIdentity
  rwa [List.map_id] at hidentities

end Entries

end PersonalContext
end AyyoHumanoid
