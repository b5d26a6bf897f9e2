import AyyoHumanoid.PerceptionClosure
import AyyoHumanoid.WorldIdentities

/-!
# Identities in a run of the boundary

The evidence handed over in a run is named by digests of texts. As long as the
digest function does not collide on these texts, observations with one identity
come from one source and count under one key and time, and interpretations with
one identity are of one frame.
-/

namespace AyyoHumanoid
namespace Perception

open PyText JsonText World

section Texts

variable {p : Platform}

/-- The text that evidence is named by. -/
def Evidence.text : Evidence p → PyStr
  | .observation o => o.text
  | .semantic o => encodeAscii o.document

/-- The evidence that a call hands over. -/
def BoundaryCall.handed (config : PerceptionTrustConfig) : BoundaryCall p → Option (Evidence p)
  | .admitEvidence evidence _ _ => some evidence
  | .reportFailure sensorId failure observedAtNs _ _ =>
    (reportedHealth config sensorId failure observedAtNs).map fun health =>
      .observation (.sensorHealth health)
  | _ => none

/-- The texts of the evidence handed over in a run. -/
def runTexts (config : PerceptionTrustConfig) (calls : List (BoundaryCall p)) : List PyStr :=
  (calls.filterMap (BoundaryCall.handed config)).map Evidence.text

/-- The text of evidence that a call of a run hands over is a text of the run. -/
theorem text_mem_runTexts {config : PerceptionTrustConfig} {calls : List (BoundaryCall p)}
    {call : BoundaryCall p} (evidence : Evidence p) (hcall : call ∈ calls)
    (hhanded : call.handed config = some evidence) : evidence.text ∈ runTexts config calls :=
  List.mem_map_of_mem (List.mem_filterMap.mpr ⟨call, hcall, hhanded⟩)

end Texts

section Interpretations

variable {p : Platform} {o o' : VisualInterpretationObservation p}

/-- Interpretations of one record. -/
abbrev SameInterpretation (o o' : VisualInterpretationObservation p) : Prop :=
  SameRecord (.visualInterpretation o) (.visualInterpretation o')

/-- Interpretations of one record are of one frame. -/
theorem SameInterpretation.frame_eq (h : SameInterpretation o o') :
    o.sourceVisualObservationId = o'.sourceVisualObservationId := by
  have htext : encode (.str o.sourceVisualObservationId.text) =
      encode (.str o'.sourceVisualObservationId.text) :=
    h.field trivial trivial (py "source_visual_observation_id") rfl rfl (by simp) (by simp)
  exact TaggedDigest.text_inj.mp (encode_str_inj.mp htext)

/-- They have one result time. -/
theorem SameInterpretation.resultAtNs_eq (h : SameInterpretation o o') :
    o.resultAtNs = o'.resultAtNs := by
  have htext : encode (.int o.resultAtNs) = encode (.int o'.resultAtNs) :=
    h.field trivial trivial (py "result_at_ns") rfl rfl (by simp) (by simp)
  exact Int.ofNat.inj (encode_int_injective (dumpable_nat o.bounded.2) (dumpable_nat o'.bounded.2)
    htext)

/-- They have one producer. -/
theorem SameInterpretation.producerId_eq (h : SameInterpretation o o') :
    o.producer.producerId = o'.producer.producerId := by
  have htext : encode o.producer.document = encode o'.producer.document :=
    h.field trivial trivial (py "producer") rfl rfl (by simp) (by simp)
  have hid : encode (.str o.producer.producerId.text) = encode (.str o'.producer.producerId.text) :=
    encode_field (dumpable_producer o.producer) (dumpable_producer o'.producer) htext
      (py "producer_id") (by simp) (by simp)
  exact Identifier.text_inj.mp (encode_str_inj.mp hid)

end Interpretations

section Keys

variable {p : Platform} {a b : Observation p}

/-- The key and the time that an observation counts under. -/
def latestEntry (config : PerceptionTrustConfig) (o : Observation p) :
    Option ((PyStr × PyStr) × Nat) :=
  (sourceFor config (.observation o)).map fun source => (stateKey source o, orderingTime o)

/-- Observations of one record agree with the same sources. -/
theorem sourceFor_eq (config : PerceptionTrustConfig) (h : SameRecord a b) (ha : a.Sensed)
    (hb : b.Sensed) : sourceFor config (.observation a) = sourceFor config (.observation b) := by
  have hkind := h.kind
  have hsensor := h.sensor_eq ha hb
  have hprovenance := h.provenance
  have hmatching : matchingSources config (.observation a) =
      matchingSources config (.observation b) := by
    cases a with
    | robotState o =>
      cases b with
      | robotState o' =>
        have hsame : o.provenance = o'.provenance := hprovenance
        refine List.filter_congr fun source _ => decide_eq_decide.mpr ?_
        rw [hsame]
      | _ => cases hkind
    | semanticEvidence o => exact ha.elim
    | environmentEntity o => exact ha.elim
    | _ =>
      cases b <;> first
        | refine List.filter_congr fun source _ => decide_eq_decide.mpr ?_
          simp only [Evidence.sensor?, Evidence.provenance, hsensor, hprovenance]
          done
        | cases hkind
  rw [sourceFor, sourceFor, hmatching]

/-- They have one key. -/
theorem stateKey_eq (source : PerceptionSourceContract) (h : SameRecord a b) (ha : a.Sensed)
    (hb : b.Sensed) : stateKey source a = stateKey source b := by
  have hkind := h.kind
  have hsensor := h.sensor_eq ha hb
  cases a with
  | visualInterpretation o =>
    cases b with
    | visualInterpretation o' =>
      have hproducer := SameInterpretation.producerId_eq h
      rw [stateKey, stateKey, hproducer]
    | _ => cases hkind
  | fusedRgbd o =>
    cases b with
    | fusedRgbd o' =>
      have hfusion : o.sensor = o'.sensor := Option.some.inj hsensor
      rw [stateKey, stateKey, hfusion]
    | _ => cases hkind
  | semanticEvidence o => exact ha.elim
  | environmentEntity o => exact ha.elim
  | _ =>
    cases b <;> first
      | rfl
      | cases hkind

/-- They have one ordering time. -/
theorem orderingTime_eq (h : SameRecord a b) : orderingTime a = orderingTime b := by
  have hkind := h.kind
  cases a with
  | visualInterpretation o =>
    cases b with
    | visualInterpretation o' => exact SameInterpretation.resultAtNs_eq h
    | _ => cases hkind
  | _ =>
    cases b <;> first
      | exact h.observedAtNs
      | cases hkind

/-- Observations of one record count under one key and time. -/
theorem latestEntry_eq (config : PerceptionTrustConfig) (h : SameRecord a b) (ha : a.Sensed)
    (hb : b.Sensed) : latestEntry config a = latestEntry config b := by
  rw [latestEntry, latestEntry, sourceFor_eq config h ha hb, orderingTime_eq h]
  simp only [stateKey_eq _ h ha hb]

end Keys

section Runs

variable {p : Platform} {config : PerceptionTrustConfig} {calls : List (BoundaryCall p)}

/-- Observations of one identity that a run hands over are of one record. -/
theorem sameRecord_of_id {a b : Observation p} (h : CollisionFree p (runTexts config calls))
    (ha : a.Sensed) (hb : b.Sensed) (hmem : a.text ∈ runTexts config calls)
    (hmem' : b.text ∈ runTexts config calls) (hid : a.observationId = b.observationId) :
    SameRecord a b := by
  rw [Observation.observationId_eq, Observation.observationId_eq, TaggedDigest.mk.injEq] at hid
  exact sameRecord_of_text ha hb (h.text_eq hmem hmem' hid)

/-- Interpretations of one identity that a run offers are of one frame. -/
theorem determined_offered (h : CollisionFree p (runTexts config calls)) :
    Determined (Offered calls) := by
  intro o o' hoffered hoffered' hid
  have htext : ∀ o : VisualInterpretationObservation p, Offered calls o →
      (Observation.visualInterpretation o).text ∈ runTexts config calls := by
    rintro o ⟨nowNs, receiptNs, hcall⟩
    exact text_mem_runTexts (.observation (.visualInterpretation o)) hcall rfl
  exact SameInterpretation.frame_eq (sameRecord_of_id h trivial trivial (htext o hoffered)
    (htext o' hoffered') hid)

end Runs

end Perception
end AyyoHumanoid
