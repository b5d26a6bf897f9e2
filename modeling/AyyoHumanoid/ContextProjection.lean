import AyyoHumanoid.ContextBuilding

/-!
# The projection of a coherent store

Memories and conflicts that are read from one reachable store are coherent: the
conflicts are over exactly the contradictions between the memories. Coherent
inputs pass every check of the projector, in whatever order they are supplied,
and the snapshot has one entry for each identity.
-/

namespace AyyoHumanoid
namespace PersonalContext

open PyText JsonText PyCollections
open Memory (MemoryRecord MemoryConflict MemoryStore Writable ReadInvariant)

section Documents

variable (floatRepr : Rat → FloatToken)

/-- The document of evidence can be printed. -/
theorem dumpable_evidenceDocument (reference : EvidenceReference) :
    (evidenceDocument floatRepr reference).dumpable = true := by
  have hvalid := EvidenceFields.postInit_ok.mp reference.checked
  have hkeys : [py "confidence", py "memory_id", py "metadata", py "observed_at",
      py "provenance_details", py "provenance_source_id", py "provenance_type", py "recorded_at",
      py "revision_reason", py "supersedes"].Nodup := by decide
  refine dumpable_obj.mpr ⟨hkeys, ?_⟩
  simp [hvalid.details, hvalid.metadata]

/-- The document of a value can be printed. -/
theorem dumpable_valueDocument (value : ContextValue) :
    (valueDocument floatRepr value).dumpable = true := by
  have hchecked := value.checked
  simp only [ValueFields.postInit, Checks.bind_ok, canonicalizeJson_ok] at hchecked
  obtain ⟨_, ⟨hvalue, -⟩, -⟩ := hchecked
  have hkeys : [py "evidence", py "value"].Nodup := by decide
  refine dumpable_obj.mpr ⟨hkeys, ?_⟩
  simp [hvalue, dumpable_evidenceDocument]

/-- The document of a snapshot can be printed. -/
theorem dumpable_snapshotDocument (ownerSubject : PyStr) (entries : List ContextEntry) :
    (snapshotDocument floatRepr ownerSubject entries).dumpable = true := by
  have hentry : ∀ entry : ContextEntry, (entryDocument floatRepr entry).dumpable = true := by
    intro entry
    have hkeys : [py "conflict_ids", py "domain", py "predicate", py "state", py "subject",
        py "values"].Nodup := by decide
    refine dumpable_obj.mpr ⟨hkeys, ?_⟩
    simp [dumpable_valueDocument]
  have hkeys : [py "entries", py "owner_subject", py "schema"].Nodup := by decide
  refine dumpable_obj.mpr ⟨hkeys, ?_⟩
  simp [hentry]

/-- The document of a writable record's evidence can be encoded. -/
theorem encodable_evidenceDocument {reference : EvidenceReference} {record : MemoryRecord}
    (hfields : reference.toEvidenceFields = evidenceFields record) (h : Writable record) :
    utf8Encodable (encode (evidenceDocument floatRepr reference)) = true := by
  have htexts := h.encodable
  simp only [List.forall_mem_append, List.forall_mem_cons, List.not_mem_nil, false_implies,
    implies_true, and_true] at htexts
  obtain ⟨⟨-, -, -, hsource, hdetails, hmetadata⟩, hreason⟩ := htexts
  have htype : utf8Encodable record.provenance.provenanceType.value = true := by
    cases record.provenance.provenanceType <;> exact utf8Encodable_py _
  have hsupersedes : ∀ text ∈ record.supersedes.map UUID.text, utf8Encodable text = true := by
    intro text htext
    obtain ⟨id, -, rfl⟩ := Option.map_eq_some_iff.mp htext
    exact utf8Encodable_uuid id
  have hrevision : ∀ text ∈ record.revisionReason, utf8Encodable text = true := fun text htext =>
    hreason text (Option.mem_toList.mpr htext)
  simp only [evidenceDocument, hfields, evidenceFields, utcText, utf8Encodable_obj,
    List.forall_mem_cons, List.not_mem_nil, false_implies, implies_true, and_true,
    utf8Encodable_py, true_and, utf8Encodable_float, utf8Encodable_str, utf8Encodable_uuid,
    utf8Encodable_datetime, utf8Encodable_optionalText]
  rw [utf8Encodable_obj] at hdetails hmetadata
  exact ⟨hmetadata, hdetails, hsource, htype, hrevision, hsupersedes⟩

end Documents

section Projection

variable (floatRepr : Rat → FloatToken) (p : Platform)
variable {active : List SupportedMemory} {conflicts : List SupportedConflict}
  {ownerSubject : PyStr}

/-- The document of a value that stands for writable memories can be encoded. -/
theorem encodable_valueDocument {group : List SupportedMemory} {value : ContextValue}
    (hvalue : ValueFor group value) (hwritable : ∀ memory ∈ group, Writable memory.record) :
    utf8Encodable (encode (valueDocument floatRepr value)) = true := by
  obtain ⟨first, hfirst, hcanonical⟩ := hvalue.canonical
  have htext : utf8Encodable (encode value.value) = true := by
    have hsame : encode value.value = encode first.record.value := by
      rw [← canonicalText_eq, ← canonicalText_eq]
      exact hcanonical
    rw [hsame]
    exact (hwritable first hfirst).encodable _ (by simp)
  have hevidence : ∀ reference ∈ value.evidence,
      utf8Encodable (encode (evidenceDocument floatRepr reference)) = true := by
    intro reference hreference
    have hmem := hvalue.evidence.mem_iff.mp (List.mem_map_of_mem hreference)
    obtain ⟨memory, hmemory, hfields⟩ := List.mem_map.mp hmem
    exact encodable_evidenceDocument floatRepr hfields.symm (hwritable memory hmemory)
  simp only [valueDocument, utf8Encodable_obj, List.forall_mem_cons, List.not_mem_nil,
    false_implies, implies_true, and_true, utf8Encodable_py, true_and, utf8Encodable_arr,
    List.forall_mem_map]
  exact ⟨hevidence, htext⟩

/-- The document of an entry that stands for validated inputs can be encoded. -/
theorem encodable_entryDocument (h : Validated active conflicts) {identity : ContextIdentity}
    {entry : ContextEntry} (hidentity : ∃ memory ∈ active, memory.identity = identity)
    (hentry : EntryFor active conflicts identity entry) :
    utf8Encodable (encode (entryDocument floatRepr entry)) = true := by
  obtain ⟨memory, hmemory, rfl⟩ := hidentity
  have htexts := (h.writable memory hmemory).encodable
  have hsubject : utf8Encodable memory.record.subject = true := htexts _ (by simp)
  have hpredicate : utf8Encodable memory.record.predicate = true := htexts _ (by simp)
  have hdomain : utf8Encodable memory.domain.value = true := by
    cases memory.domain <;> exact utf8Encodable_py _
  have hstate : utf8Encodable entry.state.value = true := by
    cases entry.state <;> exact utf8Encodable_py _
  have hvalues : ∀ value ∈ entry.values,
      utf8Encodable (encode (valueDocument floatRepr value)) = true := by
    intro value hvalue
    obtain ⟨group, hgroup, hstands⟩ := hentry.exists_group hvalue
    obtain ⟨other, -, rfl⟩ := mem_groupsBy.mp hgroup
    exact encodable_valueDocument floatRepr hstands fun member hmember =>
      h.writable member (mem_groupOf.mp (mem_groupOf.mp hmember).1).1
  simp only [entryDocument, utf8Encodable_obj, List.forall_mem_cons, List.not_mem_nil,
    false_implies, implies_true, and_true, utf8Encodable_py, true_and, utf8Encodable_arr,
    List.forall_mem_map, utf8Encodable_str, hentry.sameIdentity]
  exact ⟨fun conflictId _ => utf8Encodable_uuid conflictId, hdomain, hpredicate, hstate, hsubject,
    hvalues⟩

/-- Validated inputs of an owner give a snapshot with their entries. -/
theorem exists_projectValidated (h : Validated active conflicts)
    (hsubjects : ∀ memory ∈ active, memory.record.subject = ownerSubject)
    (howner : Memory.NonemptyText ownerSubject) (hencodable : utf8Encodable ownerSubject = true) :
    ∃ snapshot, projectValidated floatRepr p ownerSubject active conflicts = .ok snapshot ∧
      buildEntries active conflicts = .ok snapshot.entries := by
  obtain ⟨entries, hentries⟩ := exists_buildEntries h
  have hidentities := identities_of_entries hentries
  have hordered : KeyOrdered (fun entry : ContextEntry => entry.identity) entries := by
    rw [KeyOrdered, hidentities]
    exact pairwise_sortedSet _
  have hfound : ∀ identity ∈ sortedSet (active.map SupportedMemory.identity),
      ∃ memory ∈ active, memory.identity = identity := fun identity hidentity =>
    List.mem_map.mp (mem_sortedSet.mp hidentity)
  have howned : ∀ entry ∈ entries, entry.identity.subject = ownerSubject := by
    intro entry hentry
    have hmem : entry.identity ∈ sortedSet (active.map SupportedMemory.identity) := by
      rw [← hidentities]
      exact List.mem_map_of_mem hentry
    obtain ⟨memory, hmemory, hidentity⟩ := hfound _ hmem
    rw [← hidentity]
    exact hsubjects memory hmemory
  have hdocuments : ∀ entry ∈ entries,
      utf8Encodable (encode (entryDocument floatRepr entry)) = true := by
    intro entry hentry
    obtain ⟨identity, hidentity, hbuilt⟩ := (Checks.mem_of_mapM_ok hentries).mp hentry
    exact encodable_entryDocument floatRepr h (hfound identity hidentity) (buildEntry_ok hbuilt)
  have hdocument : utf8Encodable
      (encode (snapshotDocument floatRepr ownerSubject entries)) = true := by
    simp only [snapshotDocument, utf8Encodable_obj, List.forall_mem_cons, List.not_mem_nil,
      false_implies, implies_true, and_true, utf8Encodable_py, true_and, utf8Encodable_arr,
      List.forall_mem_map, utf8Encodable_str]
    exact ⟨hdocuments, hencodable⟩
  have hversion : computeSnapshotVersion floatRepr p ownerSubject entries =
      .ok { digest := p.sha256 (encode (snapshotDocument floatRepr ownerSubject entries)) } := by
    simp only [computeSnapshotVersion, Checks.bind_ok, canonicalizeJson_ok, Checks.require_ok,
      Checks.pure_ok]
    exact ⟨_, ⟨dumpable_snapshotDocument floatRepr ownerSubject entries, rfl⟩, (), hdocument, rfl⟩
  have hchecked : (SnapshotFields.mk ownerSubject entries
      { digest := p.sha256 (encode (snapshotDocument floatRepr ownerSubject entries)) }).postInit
        floatRepr p = .ok () := by
    simp only [SnapshotFields.postInit, Checks.bind_ok, Checks.require_ok, hversion]
    exact ⟨(), validateExactText_ok.mpr ⟨ownerSubject, rfl, howner⟩, (),
      (sortBy_eq_self hordered).symm, (), hordered.nodup, (), howned, _, rfl, rfl⟩
  refine ⟨⟨_, hchecked⟩, ?_, hentries⟩
  simp only [projectValidated, Checks.bind_ok]
  exact ⟨entries, hentries, _, hversion, Checks.construct_ok.mpr ⟨hchecked, rfl⟩⟩

end Projection

end PersonalContext
end AyyoHumanoid
