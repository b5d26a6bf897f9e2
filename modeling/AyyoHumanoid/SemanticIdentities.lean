import AyyoHumanoid.ArtifactText
import AyyoHumanoid.JsonPrintable
import AyyoHumanoid.SemanticObservations
import AyyoHumanoid.WorldIdentities

/-!
# What the identity of a person or object observation determines

All texts in a semantic observation are printable, so its ASCII form is its
canonical form, and one text means one frame and one detection.
-/

namespace AyyoHumanoid
namespace Perception

open PyText JsonText World
open Artifacts (printable_digest printable_identifier)

section Texts

/-- A frame is printable. -/
theorem printable_frame (frame : FrameId) : frame.text.all isPrintable = true := by
  rw [List.all_eq_true]
  intro c hc
  have hchar := List.all_eq_true.mp frame.frame.2.1 c hc
  simp only [isFrameChar, isAsciiLetter, Bool.or_eq_true, Bool.and_eq_true, decide_eq_true_eq,
    beq_iff_eq] at hchar
  simp only [isPrintable, Bool.and_eq_true, decide_eq_true_eq]
  omega

/-- A digest behind a printable tag is printable. -/
theorem printable_tagged {tag : String} (id : TaggedDigest tag)
    (htag : (py tag).all isPrintable = true) : id.text.all isPrintable = true := by
  rw [TaggedDigest.text, List.all_append, htag, printable_digest]
  rfl

/-- The identity of an observation is printable. -/
theorem printable_observationId (id : ObservationId) : id.text.all isPrintable = true :=
  printable_tagged id (by decide)

end Texts

section Parts

/-- A sensor has a printable document. -/
theorem printable_sensor (sensor : SensorIdentity) : Printable sensor.document := by
  have hkind : sensor.kind.value.all isPrintable = true := by
    cases sensor.kind <;> decide
  refine printable_obj ?_ ?_
  · simp only [List.map_cons, List.map_nil]
    decide
  · simp only [List.forall_mem_cons]
    exact ⟨printable_str (printable_frame _), printable_str hkind,
      printable_str (printable_identifier _), List.forall_mem_nil _⟩

/-- A provenance has a printable document. -/
theorem printable_provenance (provenance : ObservationProvenance) :
    Printable provenance.document := by
  have hclock : provenance.clock.value.all isPrintable = true := by
    cases provenance.clock <;> decide
  have hkind : provenance.sourceKind.value.all isPrintable = true := by
    cases provenance.sourceKind <;> decide
  have htransport : provenance.transport.value.all isPrintable = true := by
    cases provenance.transport <;> decide
  refine printable_obj ?_ ?_
  · simp only [List.map_cons, List.map_nil]
    decide
  · simp only [List.forall_mem_cons]
    exact ⟨printable_str hclock, printable_str (printable_identifier _),
      printable_str (printable_identifier _), printable_str hkind, printable_str htransport,
      List.forall_mem_nil _⟩

/-- A region has a printable document. -/
theorem printable_region (region : ImageRegion2D) : Printable region.document := by
  refine printable_obj ?_ ?_
  · simp only [List.map_cons, List.map_nil]
    decide
  · simp only [List.forall_mem_cons]
    exact ⟨printable_str (by decide), printable_float _, printable_float _, printable_float _,
      printable_float _, List.forall_mem_nil _⟩

/-- A share that may be absent has a printable document. -/
theorem printable_optionalShare (value : Option UnitFloat) : Printable (optionalShare value) := by
  cases value with
  | none => exact printable_null
  | some share => exact printable_float _

/-- A detection source has a printable document. -/
theorem printable_detectionSource (source : SemanticDetectionSource) :
    Printable source.document := by
  refine printable_obj ?_ ?_
  · simp only [List.map_cons, List.map_nil]
    decide
  · simp only [List.forall_mem_cons]
    exact ⟨printable_str (printable_tagged _ (by decide)),
      printable_str (printable_observationId _), List.forall_mem_nil _⟩

/-- A detection source can be printed. -/
theorem dumpable_detectionSource (source : SemanticDetectionSource) :
    source.document.dumpable = true := by
  simp [SemanticDetectionSource.document, dumpable_obj, py_inj]

end Parts

section Documents

variable (o : SemanticObservation)

/-- The texts of the kinds are printable. -/
theorem printable_semanticKind (kind : SemanticKind) : kind.value.all isPrintable = true := by
  cases kind <;> decide

/-- A semantic observation has a printable document. -/
theorem printable_semantic : Printable o.document := by
  have hschema : (py "ayyo." ++ o.content.kind.value ++ py "-observation.v1").all isPrintable =
      true := by
    cases o.content.kind <;> decide
  have hspecific : ∀ entry ∈ o.specific, entry.1 = py "category" ∧ Printable entry.2 := by
    intro entry hentry
    rw [SemanticObservation.specific] at hentry
    cases hcontent : o.content with
    | person =>
      rw [hcontent] at hentry
      cases hentry
    | object category other =>
      rw [hcontent] at hentry
      rw [List.mem_singleton.mp hentry]
      exact ⟨rfl, printable_str (printable_identifier _)⟩
  refine printable_obj ?_ ?_
  · rw [List.map_append, List.all_append, Bool.and_eq_true]
    constructor
    · simp only [List.map_cons, List.map_nil]
      decide
    · rw [List.all_eq_true, List.forall_mem_map]
      intro entry hentry
      rw [(hspecific entry hentry).1]
      decide
  · refine List.forall_mem_append.mpr ⟨?_, fun entry hentry => (hspecific entry hentry).2⟩
    simp only [List.forall_mem_cons]
    exact ⟨printable_optionalShare _, printable_str (printable_semanticKind _), printable_int _,
      printable_provenance _, printable_str (printable_frame _), printable_region _,
      printable_int _, printable_str (printable_identifier _), printable_str hschema,
      printable_sensor _, printable_detectionSource _,
      printable_str (printable_observationId _), List.forall_mem_nil _⟩

/-- A semantic observation can be printed. -/
theorem dumpable_semantic : o.document.dumpable = true := by
  have hobserved := dumpable_nat (o.bounded.1.trans o.bounded.2)
  have hresult := dumpable_nat o.bounded.2
  rw [SemanticObservation.document, SemanticObservation.specific]
  cases o.content with
  | person =>
    simp [dumpable_obj, py_inj, hobserved, hresult, dumpable_detectionSource]
  | object category other =>
    simp [dumpable_obj, py_inj, hobserved, hresult, dumpable_detectionSource]

variable {o} {o' : SemanticObservation}

/-- Semantic observations with one text are of one frame and of one interpretation. -/
theorem semantic_sources_eq (h : encodeAscii o.document = encodeAscii o'.document) :
    o.sourceVisualObservationId = o'.sourceVisualObservationId ∧
      o.sourceDetection.visualInterpretationObservationId =
        o'.sourceDetection.visualInterpretationObservationId := by
  rw [encodeAscii_eq (printable_semantic o), encodeAscii_eq (printable_semantic o')] at h
  have hframe : encode (.str o.sourceVisualObservationId.text) =
      encode (.str o'.sourceVisualObservationId.text) :=
    encode_field (dumpable_semantic o) (dumpable_semantic o') h
      (py "source_visual_observation_id") (by simp) (by simp)
  have hsource : encode o.sourceDetection.document = encode o'.sourceDetection.document :=
    encode_field (dumpable_semantic o) (dumpable_semantic o') h (py "source_detection") (by simp)
      (by simp)
  have hinterpretation :
      encode (.str o.sourceDetection.visualInterpretationObservationId.text) =
        encode (.str o'.sourceDetection.visualInterpretationObservationId.text) :=
    encode_field (dumpable_detectionSource _) (dumpable_detectionSource _) hsource
      (py "visual_interpretation_observation_id") (by simp) (by simp)
  exact ⟨TaggedDigest.text_inj.mp (encode_str_inj.mp hframe),
    TaggedDigest.text_inj.mp (encode_str_inj.mp hinterpretation)⟩

end Documents

end Perception
end AyyoHumanoid
