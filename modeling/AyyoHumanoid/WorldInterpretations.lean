import AyyoHumanoid.WorldDerived

/-!
# Interpretations and semantic evidence

An interpretation lists detections in one admitted frame. A semantic batch
lists anonymous facts, each of one detection of an interpretation, and derives
the identity of every fact again from its own content.
-/

namespace AyyoHumanoid
namespace World

open PyText JsonText PyCollections

section Interpretation

/-- `VisualInterpretationObservation`. -/
@[ext] structure VisualInterpretationObservation (p : Platform) where
  robotId : Name
  sensor : SensorIdentity
  referenceFrameId : FrameId
  sourceVisualObservationId : ObservationId
  sourceVisualFingerprint : ObservationFingerprint
  observedAtNs : Nat
  resultAtNs : Nat
  producer : VisualInterpretationProducer
  evaluationReference : Option VisualEvaluationReference
  /-- `detections`, ordered by identity. -/
  detections : List VisualDetection
  provenance : ObservationProvenance
  availability : SensorAvailability
  /-- The sensor is a colour camera. -/
  sensor_kind : sensor.kind = .rgbCamera
  /-- The frame is the optical frame. -/
  frame_eq : referenceFrameId = sensor.frameId
  source_kind : sourceVisualFingerprint.kind = .visualFrame
  /-- The identity is that of the fingerprint. -/
  source_eq : sourceVisualObservationId = sourceVisualFingerprint.observationId
  /-- The times are ordered and bounded. -/
  bounded : observedAtNs ≤ resultAtNs ∧ resultAtNs ≤ maxObservationTimeNs
  /-- An evaluated model is of the producer. -/
  evaluated : ∀ reference, evaluationReference = some reference →
    reference.model.producerId = producer.producerId ∧ reference.model.modelId = producer.modelId
  /-- The number of detections is limited. -/
  few : detections.length ≤ maxVisualDetections
  /-- The identities of the detections increase. -/
  ordered : KeyOrdered (fun detection => (VisualDetection.detectionId p detection).text) detections
  /-- The detections are of the frame. -/
  sourced : ∀ detection ∈ detections,
    detection.sourceVisualObservationId = sourceVisualObservationId
  /-- The evidence bears a measurement. -/
  measuring : availability.Measuring

instance {p : Platform} : DecidableEq (VisualInterpretationObservation p) := fun _ _ =>
  decidable_of_iff _ VisualInterpretationObservation.ext_iff.symm

/-- `VisualInterpretationObservation.payload_document`. -/
def VisualInterpretationObservation.payload {p : Platform}
    (observation : VisualInterpretationObservation p) : Json :=
  .obj ([(py "availability", .str observation.availability.value),
    (py "detections", .arr (observation.detections.map (VisualDetection.document p))),
    (py "producer", observation.producer.document),
    (py "reference_frame_id", .str observation.referenceFrameId.text),
    (py "result_at_ns", .int observation.resultAtNs),
    (py "sensor", observation.sensor.document),
    (py "source_visual_fingerprint", .str observation.sourceVisualFingerprint.text),
    (py "source_visual_observation_id", .str observation.sourceVisualObservationId.text)] ++
    observation.evaluationReference.toList.map fun reference =>
      (py "evaluation_reference", reference.document p))

/-- `fingerprint`. -/
def VisualInterpretationObservation.fingerprint {p : Platform}
    (observation : VisualInterpretationObservation p) : ObservationFingerprint :=
  fingerprintOf p .visualInterpretation observation.robotId observation.observedAtNs
    observation.provenance .null observation.payload

/-- `observation_id`. -/
def VisualInterpretationObservation.observationId {p : Platform}
    (observation : VisualInterpretationObservation p) : ObservationId :=
  observation.fingerprint.observationId

end Interpretation

section Semantics

/-- The identity of a semantic observation. -/
structure SemanticObservationId where
  /-- The kind that the text starts with. -/
  kind : SemanticKind
  digest : Digest
  deriving DecidableEq

/-- The whole text. -/
def SemanticObservationId.text (id : SemanticObservationId) : PyStr :=
  id.kind.value ++ py "-observation-sha256-" ++ id.digest.text

/-- The category that evidence of a kind may have. -/
def Categorized : SemanticKind → Option Label → Prop
  | .person, category => category = none
  | .object, category => ∃ label ∈ category, label.text ≠ SemanticKind.person.value

/-- `SemanticEvidenceItem`. -/
structure SemanticEvidenceItem where
  kind : SemanticKind
  sourceSemanticObservationId : SemanticObservationId
  sourceDetectionId : DetectionId
  region : ImageRegion2D
  confidence : Option UnitFloat
  category : Option Label
  /-- The identity is of the kind. -/
  id_kind : sourceSemanticObservationId.kind = kind
  categorized : Categorized kind category
  deriving DecidableEq

/-- `SemanticEvidenceItem.document`. -/
def SemanticEvidenceItem.document (item : SemanticEvidenceItem) : Json :=
  .obj [(py "category", optionalText (item.category.map (·.text))),
    (py "confidence", optionalShare item.confidence), (py "kind", .str item.kind.value),
    (py "region", item.region.document),
    (py "source_detection_id", .str item.sourceDetectionId.text),
    (py "source_semantic_observation_id", .str item.sourceSemanticObservationId.text)]

/-- What the facts of a batch share. -/
structure SemanticSource where
  robotId : Name
  sensor : SensorIdentity
  referenceFrameId : FrameId
  sourceVisualObservationId : ObservationId
  sourceVisualFingerprint : ObservationFingerprint
  sourceInterpretationObservationId : ObservationId
  sourceInterpretationFingerprint : ObservationFingerprint
  observedAtNs : Nat
  resultAtNs : Nat
  producer : VisualInterpretationProducer
  evaluationReferenceSha256 : Option Digest
  provenance : ObservationProvenance
  availability : SensorAvailability
  deriving DecidableEq

/-- The members of an object's document that a person's lacks. -/
def categoryMember (kind : SemanticKind) (category : Option Label) : List (PyStr × Json) :=
  match kind with
  | .person => []
  | .object => [(py "category", optionalText (category.map (·.text)))]

/-- The document that names a fact. -/
def semanticSourceDocument (source : SemanticSource) (item : SemanticEvidenceItem) : Json :=
  .obj ([(py "confidence", optionalShare item.confidence), (py "kind", .str item.kind.value),
    (py "observed_at_ns", .int source.observedAtNs),
    (py "provenance", source.provenance.document),
    (py "reference_frame_id", .str source.referenceFrameId.text),
    (py "region", item.region.document), (py "result_at_ns", .int source.resultAtNs),
    (py "robot_id", .str source.robotId.text),
    (py "schema", .str (py "ayyo." ++ item.kind.value ++ py "-observation.v1")),
    (py "sensor", source.sensor.document),
    (py "source_detection", .obj [
      (py "visual_detection_id", .str item.sourceDetectionId.text),
      (py "visual_interpretation_observation_id",
        .str source.sourceInterpretationObservationId.text)]),
    (py "source_visual_observation_id", .str source.sourceVisualObservationId.text)] ++
    categoryMember item.kind item.category)

/-- `_semantic_source_observation_id`. -/
def semanticSourceObservationId (p : Platform) (source : SemanticSource)
    (item : SemanticEvidenceItem) : SemanticObservationId :=
  ⟨item.kind, documentDigest p (semanticSourceDocument source item)⟩

/-- The order of the facts in a batch. -/
def itemKey (item : SemanticEvidenceItem) : PyStr ×ₗ PyStr :=
  toLex (item.sourceDetectionId.text, item.sourceSemanticObservationId.text)

/-- `SemanticEvidenceObservation`. -/
structure SemanticEvidenceObservation (p : Platform) where
  /-- What the facts share. -/
  source : SemanticSource
  /-- `items`, in canonical order. -/
  items : List SemanticEvidenceItem
  /-- The sensor is a colour camera. -/
  sensor_kind : source.sensor.kind = .rgbCamera
  /-- The frame is the optical frame. -/
  frame_eq : source.referenceFrameId = source.sensor.frameId
  visual_source : source.sourceVisualFingerprint.kind = .visualFrame ∧
    source.sourceVisualObservationId = source.sourceVisualFingerprint.observationId
  /-- The fingerprint of the interpretation. -/
  interpretation_source :
    source.sourceInterpretationFingerprint.kind = .visualInterpretation ∧
      source.sourceInterpretationObservationId =
        source.sourceInterpretationFingerprint.observationId
  /-- The times are ordered and bounded. -/
  bounded : source.observedAtNs ≤ source.resultAtNs ∧ source.resultAtNs ≤ maxObservationTimeNs
  /-- There are facts, and not too many. -/
  some_items : items ≠ [] ∧ items.length ≤ maxVisualDetections
  /-- The facts are in order. -/
  ordered : sortBy itemKey items = items
  /-- The facts and their detections are distinct. -/
  unique : (items.map (·.sourceSemanticObservationId)).Nodup ∧
    (items.map (·.sourceDetectionId)).Nodup
  /-- Every identity is derived from the content. -/
  derived : ∀ item ∈ items,
    item.sourceSemanticObservationId = semanticSourceObservationId p source item
  /-- The evidence bears a measurement. -/
  measuring : source.availability.Measuring
  deriving DecidableEq

/-- `SemanticEvidenceObservation.payload_document`, of the parts of a batch. -/
def semanticPayload (source : SemanticSource) (items : List SemanticEvidenceItem) : Json :=
  .obj [(py "availability", .str source.availability.value),
    (py "evaluation_reference_sha256",
      optionalText (source.evaluationReferenceSha256.map (·.text))),
    (py "items", .arr (items.map SemanticEvidenceItem.document)),
    (py "producer", source.producer.document),
    (py "reference_frame_id", .str source.referenceFrameId.text),
    (py "result_at_ns", .int source.resultAtNs), (py "sensor", source.sensor.document),
    (py "source_interpretation_fingerprint", .str source.sourceInterpretationFingerprint.text),
    (py "source_interpretation_observation_id",
      .str source.sourceInterpretationObservationId.text),
    (py "source_visual_fingerprint", .str source.sourceVisualFingerprint.text),
    (py "source_visual_observation_id", .str source.sourceVisualObservationId.text)]

/-- `fingerprint`. -/
def SemanticEvidenceObservation.fingerprint {p : Platform}
    (observation : SemanticEvidenceObservation p) : ObservationFingerprint :=
  fingerprintOf p .semanticEvidence observation.source.robotId observation.source.observedAtNs
    observation.source.provenance .null (semanticPayload observation.source observation.items)

end Semantics

end World
end AyyoHumanoid
