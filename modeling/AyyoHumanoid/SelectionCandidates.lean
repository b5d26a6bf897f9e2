import AyyoHumanoid.JsonUtf8
import AyyoHumanoid.SelectionPolicy
import AyyoHumanoid.ValidationFacts

/-!
# Names of candidates

What a candidate stores reads back, so its document can always be written. The
document can be encoded exactly when no text of the candidate holds a surrogate,
and it determines the candidate.
-/

namespace AyyoHumanoid
namespace Consolidation

open PyText JsonText Memory Validation

section Injectivity

/-- The value of a memory type determines it. -/
theorem memoryType_value_injective : Function.Injective MemoryType.value := by
  intro a b h
  cases a <;> cases b <;> first | rfl | exact absurd h (by decide)

/-- The value of a provenance type determines it. -/
theorem provenanceType_value_injective : Function.Injective ProvenanceType.value := by
  intro a b h
  cases a <;> cases b <;> first | rfl | exact absurd h (by decide)

/-- The text of a UTC instant determines it. -/
theorem isoformatMicroseconds_injective : Function.Injective isoformatMicroseconds := by
  have hsplit : ∀ t : Civil, IsoText.datetimeToText t =
      (IsoText.datetimeToText t).dropLast ++ [IsoText.letterZ] := by
    intro t
    have hne : IsoText.datetimeToText t ≠ [] := by simp [IsoText.datetimeToText]
    have hlast : (IsoText.datetimeToText t).getLast hne = IsoText.letterZ := by
      simp [IsoText.datetimeToText]
    rw [← hlast, List.dropLast_append_getLast]
  intro a b h
  have hinit := List.append_cancel_right (show (IsoText.datetimeToText a).dropLast ++ _ = _ from h)
  have htext : IsoText.datetimeToText a = IsoText.datetimeToText b := by
    rw [hsplit a, hsplit b, hinit]
  have hread := congrArg IsoText.datetimeFromText htext
  rw [IsoText.datetimeFromText_toText, IsoText.datetimeFromText_toText] at hread
  exact Option.some.inj hread

/-- Floats from zero to one are the same when they print alike. -/
theorem unitFloat_eq_of_text {a b : UnitFloat}
    (h : encode (.float a.token) = encode (.float b.token)) : a = b := by
  have htext : a.token.text = b.token.text := h
  have htoken : a.token = b.token := by
    cases ha : a.token with
    | mk left hleft =>
      cases hb : b.token with
      | mk right hright =>
        rw [ha, hb] at htext
        simpa using htext
  cases a
  cases b
  simpa using htoken

/-- Candidates with the same attributes are the same. -/
theorem candidate_ext {nfc : Nfc} {a b : CandidateEvidence nfc}
    (h : a.toCandidateFields = b.toCandidateFields) : a = b := by
  cases a
  cases b
  simpa using h

end Injectivity

section Readings

variable {nfc : Nfc}

/-- What the stored texts of a candidate read as. -/
structure Reads (c : CandidateEvidence nfc) (provenance : Provenance)
    (metadata : List (PyStr × Json)) (value : Json) : Prop where
  provenance_eq : c.provenance = .ok provenance
  metadata_eq : c.metadata = .ok metadata
  value_eq : c.value = .ok value
  /-- The stored type. -/
  provenanceType : provenance.provenanceType = c.provenanceType
  /-- The stored source. -/
  sourceId : provenance.sourceId = c.provenanceSourceId
  /-- The details have the stored text. -/
  details : Validation.canonicalizeJson (.obj provenance.details) = .ok c.provenanceDetailsJson
  /-- The metadata has the stored text. -/
  metadataText : Validation.canonicalizeJson (.obj metadata) = .ok c.metadataJson
  /-- The value has the stored text. -/
  valueText : Validation.canonicalizeJson value = .ok c.valueJson

/-- Every candidate reads back. -/
theorem exists_reads (c : CandidateEvidence nfc) :
    ∃ provenance metadata value, Reads c provenance metadata value := by
  obtain ⟨provenance, hprovenance, htype, hsource, hdetails⟩ := c.provenance_ok
  obtain ⟨metadata, hmetadata, hmetadataText⟩ := c.metadata_ok
  obtain ⟨value, hvalue, hvalueText⟩ := c.value_ok
  exact ⟨provenance, metadata, value, hprovenance, hmetadata, hvalue, htype, hsource, hdetails,
    hmetadataText, hvalueText⟩

variable {c : CandidateEvidence nfc} {provenance : Provenance} {metadata : List (PyStr × Json)}
  {value : Json}

/-- The document of a candidate's provenance can be written. -/
theorem Reads.dumpable_source (h : Reads c provenance metadata value) :
    (sourceDocument provenance).dumpable = true := by
  have hdetails := (canonicalizeJson_ok.mp h.details).1
  refine dumpable_obj.mpr ⟨by simp only [List.map_cons, List.map_nil]; decide, ?_⟩
  simp [hdetails]

/-- The document of a candidate can be written. -/
theorem Reads.dumpable (h : Reads c provenance metadata value) :
    (candidateDocument c provenance metadata value).dumpable = true := by
  have hmetadata := (canonicalizeJson_ok.mp h.metadataText).1
  have hvalue := (canonicalizeJson_ok.mp h.valueText).1
  have hsource := h.dumpable_source
  refine dumpable_obj.mpr ⟨by simp only [List.map_cons, List.map_nil]; decide, ?_⟩
  simp [hsource, hmetadata, hvalue, dumpable_optionalText]

/-- The document of a candidate is written as its encoding. -/
theorem Reads.candidateText_eq (h : Reads c provenance metadata value) :
    candidateText c = .ok (encode (candidateDocument c provenance metadata value)) := by
  have hcanonical := canonicalizeJson_ok.mpr ⟨h.dumpable, rfl⟩
  have hread : ∀ {α : Type} (a : α), fromPolicy (.ok a) = .ok a := fun _ => rfl
  rw [candidateText, h.provenance_eq, h.metadata_eq, h.value_eq]
  simp only [hread, Checks.ok_bind, hcanonical]

/-- No text of a candidate holds a surrogate. -/
structure Encodable (c : CandidateEvidence nfc) : Prop where
  subject : utf8Encodable c.subject = true
  predicate : utf8Encodable c.predicate = true
  /-- `correction_reason`. -/
  reason : ∀ text ∈ c.correctionReason, utf8Encodable text = true
  value : utf8Encodable c.valueJson = true
  metadata : utf8Encodable c.metadataJson = true
  source : utf8Encodable c.provenanceSourceId = true
  details : utf8Encodable c.provenanceDetailsJson = true

/-- A UTC instant can be encoded. -/
theorem utf8Encodable_isoformat (t : Civil) : utf8Encodable (isoformatMicroseconds t) = true := by
  have htext := utf8Encodable_datetime t
  have hinit : utf8Encodable (IsoText.datetimeToText t).dropLast = true := by
    rw [utf8Encodable, List.all_eq_true] at htext ⊢
    exact fun c hc => htext c (List.mem_of_mem_dropLast hc)
  rw [isoformatMicroseconds, utf8Encodable_append, hinit, utf8Encodable_py, Bool.true_and]

/-- The document of a candidate can be encoded exactly when the texts of the candidate can. -/
theorem Reads.utf8Encodable_iff (h : Reads c provenance metadata value) :
    utf8Encodable (encode (candidateDocument c provenance metadata value)) = true ↔
      Encodable c := by
  have hmemory : utf8Encodable c.memoryType.value = true := by
    cases c.memoryType <;> exact utf8Encodable_py _
  have htype : utf8Encodable c.provenanceType.value = true := by
    cases c.provenanceType <;> exact utf8Encodable_py _
  have htarget : ∀ t ∈ c.correctionTargetId.map UUID.text, utf8Encodable t = true := by
    intro t ht
    obtain ⟨id, -, rfl⟩ := Option.map_eq_some_iff.mp ht
    exact utf8Encodable_uuid id
  have hsource : utf8Encodable (encode (sourceDocument provenance)) = true ↔
      utf8Encodable c.provenanceDetailsJson = true ∧
        utf8Encodable c.provenanceSourceId = true := by
    rw [sourceDocument, utf8Encodable_obj]
    simp only [List.forall_mem_cons, utf8Encodable_py, utf8Encodable_str, h.provenanceType,
      h.sourceId, htype, (canonicalizeJson_ok.mp h.details).2, true_and, List.not_mem_nil,
      false_implies, implies_true, and_true]
  rw [candidateDocument, utf8Encodable_obj]
  simp only [List.forall_mem_cons, hsource, utf8Encodable_py, utf8Encodable_str,
    utf8Encodable_float, utf8Encodable_optionalText, hmemory, utf8Encodable_isoformat,
    (canonicalizeJson_ok.mp h.metadataText).2, (canonicalizeJson_ok.mp h.valueText).2, true_and,
    and_true, List.not_mem_nil, false_implies, implies_true]
  constructor
  · rintro ⟨hreason, -, hmetadata, hpredicate, ⟨hdetails, hsourceId⟩, hsubject, hvalue⟩
    exact ⟨hsubject, hpredicate, hreason, hvalue, hmetadata, hsourceId, hdetails⟩
  · intro hall
    exact ⟨hall.reason, htarget, hall.metadata, hall.predicate, ⟨hall.details, hall.source⟩,
      hall.subject, hall.value⟩

/-- The document of a candidate determines it. -/
theorem candidate_eq_of_text {a b : CandidateEvidence nfc} {text : PyStr}
    (ha : candidateText a = .ok text) (hb : candidateText b = .ok text) : a = b := by
  obtain ⟨provenanceA, metadataA, valueA, hreadA⟩ := exists_reads a
  obtain ⟨provenanceB, metadataB, valueB, hreadB⟩ := exists_reads b
  have htext : encode (candidateDocument a provenanceA metadataA valueA) =
      encode (candidateDocument b provenanceB metadataB valueB) := by
    have hA := hreadA.candidateText_eq
    have hB := hreadB.candidateText_eq
    rw [ha] at hA
    rw [hb] at hB
    rw [← Except.ok.inj hA, ← Except.ok.inj hB]
  have hvalues := encode_values hreadA.dumpable hreadB.dumpable rfl htext
  simp only [List.map_cons, List.map_nil, List.cons.injEq, encode_str_inj, and_true] at hvalues
  obtain ⟨hconfidence, hreason, htarget, hmemory, hmetadata, hobserved, hpredicate, hprovenance,
    -, hsubject, hvalue⟩ := hvalues
  have hsources := encode_values hreadA.dumpable_source hreadB.dumpable_source rfl hprovenance
  simp only [List.map_cons, List.map_nil, List.cons.injEq, encode_str_inj, and_true] at hsources
  obtain ⟨hdetails, htype, hsourceId⟩ := hsources
  have htargets : a.correctionTargetId = b.correctionTargetId :=
    Option.map_injective UUID.text_injective (encode_optionalText_injective htarget)
  have hcivil := isoformatMicroseconds_injective hobserved
  have hoffset : a.observedAt.utcoffset = b.observedAt.utcoffset := by
    obtain ⟨_, hargsA⟩ := a.exists_args
    obtain ⟨_, hargsB⟩ := b.exists_args
    rw [hargsA.observedUtc, hargsB.observedUtc]
  rw [(canonicalizeJson_ok.mp hreadA.details).2, (canonicalizeJson_ok.mp hreadB.details).2]
    at hdetails
  rw [(canonicalizeJson_ok.mp hreadA.metadataText).2,
    (canonicalizeJson_ok.mp hreadB.metadataText).2] at hmetadata
  rw [(canonicalizeJson_ok.mp hreadA.valueText).2, (canonicalizeJson_ok.mp hreadB.valueText).2]
    at hvalue
  rw [hreadA.provenanceType, hreadB.provenanceType] at htype
  rw [hreadA.sourceId, hreadB.sourceId] at hsourceId
  have hobservedAt : a.observedAt = b.observedAt := by
    cases hA : a.observedAt
    cases hB : b.observedAt
    rw [hA, hB] at hcivil hoffset
    rw [PyDatetime.mk.injEq]
    exact ⟨hcivil, hoffset⟩
  exact candidate_ext (CandidateFields.ext (memoryType_value_injective hmemory) hsubject hpredicate
    (unitFloat_eq_of_text hconfidence) hobservedAt htargets (encode_optionalText_injective hreason)
    hvalue hmetadata (provenanceType_value_injective htype) hsourceId hdetails)

end Readings

end Consolidation
end AyyoHumanoid
