import AyyoHumanoid.JsonAscii
import AyyoHumanoid.WorldRebuild

/-!
# Person and object observations

A semantic observation is one detection of an interpretation, read as a person
or as an object of a category. Its identity is the digest of its whole content,
written in ASCII.
-/

namespace AyyoHumanoid
namespace Perception

open PyText JsonText World

/-- The exceptions of the perception package. -/
inductive PerceptionError where
  /-- `PerceptionConfigurationError`. -/
  | configuration (detail : PyStr)
  /-- `PerceptionClockRegressionError`. -/
  | clockRegression (detail : PyStr)
  /-- `PerceptionObservationValidationError`. -/
  | observationValidation (detail : PyStr)
  /-- An exception of the world model. -/
  | world (error : WorldError)
  deriving DecidableEq

/-- `SemanticDetectionSource`. -/
structure SemanticDetectionSource where
  visualInterpretationObservationId : ObservationId
  visualDetectionId : DetectionId
  deriving DecidableEq

/-- `SemanticDetectionSource.document`. -/
def SemanticDetectionSource.document (source : SemanticDetectionSource) : Json :=
  .obj [(py "visual_detection_id", .str source.visualDetectionId.text),
    (py "visual_interpretation_observation_id",
      .str source.visualInterpretationObservationId.text)]

/-- What tells a person observation from an object observation. -/
inductive SemanticContent where
  /-- `PersonObservation`. -/
  | person
  /-- `ObjectObservation` with its category, which is not that of a person. -/
  | object (category : Label) (other : category.text ≠ SemanticKind.person.value)
  deriving DecidableEq

/-- `kind`. -/
def SemanticContent.kind : SemanticContent → SemanticKind
  | .person => .person
  | .object _ _ => .object

/-- `category`, which a person lacks. -/
def SemanticContent.category? : SemanticContent → Option Label
  | .person => none
  | .object category _ => some category

/-- `SemanticObservation`. -/
@[ext] structure SemanticObservation where
  /-- The kind and the category. -/
  content : SemanticContent
  robotId : Name
  sensor : SensorIdentity
  referenceFrameId : FrameId
  sourceVisualObservationId : ObservationId
  sourceDetection : SemanticDetectionSource
  observedAtNs : Nat
  resultAtNs : Nat
  confidence : Option UnitFloat
  region : ImageRegion2D
  provenance : ObservationProvenance
  /-- The sensor is a colour camera. -/
  sensor_kind : sensor.kind = .rgbCamera
  /-- The frame is the optical frame. -/
  frame_eq : referenceFrameId = sensor.frameId
  /-- The times are ordered and bounded. -/
  bounded : observedAtNs ≤ resultAtNs ∧ resultAtNs ≤ maxObservationTimeNs

instance : DecidableEq SemanticObservation := fun _ _ =>
  decidable_of_iff _ SemanticObservation.ext_iff.symm

namespace SemanticObservation

/-- The members that only an object has. -/
def specific (observation : SemanticObservation) : List (PyStr × Json) :=
  match observation.content with
  | .person => []
  | .object category _ => [(py "category", .str category.text)]

/-- The document that names a semantic observation. -/
def document (observation : SemanticObservation) : Json :=
  .obj ([(py "confidence", optionalShare observation.confidence),
    (py "kind", .str observation.content.kind.value),
    (py "observed_at_ns", .int observation.observedAtNs),
    (py "provenance", observation.provenance.document),
    (py "reference_frame_id", .str observation.referenceFrameId.text),
    (py "region", observation.region.document),
    (py "result_at_ns", .int observation.resultAtNs),
    (py "robot_id", .str observation.robotId.text),
    (py "schema", .str (py "ayyo." ++ observation.content.kind.value ++ py "-observation.v1")),
    (py "sensor", observation.sensor.document),
    (py "source_detection", observation.sourceDetection.document),
    (py "source_visual_observation_id", .str observation.sourceVisualObservationId.text)] ++
    observation.specific)

/-- `observation_id`. -/
def observationId (p : Platform) (observation : SemanticObservation) : SemanticObservationId :=
  ⟨observation.content.kind, digestOf p (encodeAscii observation.document)⟩

end SemanticObservation

/-- `ObjectObservation` of the label of a detection. -/
def objectContent (label : Label) : Except PerceptionError SemanticContent := do
  let other ← ensure (label.text ≠ SemanticKind.person.value) (.observationValidation
    (py "object observation category cannot substitute for a person"))
  pure (.object label other.down)

/-- The content that a detection has. -/
def contentOf (detection : VisualDetection) : Except PerceptionError SemanticContent :=
  match detection.category with
  | .person => .ok .person
  | .object => objectContent detection.label
  | _ => .error (.observationValidation
      (py "visual detection category cannot produce person or object evidence"))

/-- `semantic_observation_from_detection`. -/
def semanticObservationFromDetection (p : Platform)
    (interpretation : VisualInterpretationObservation p) (detectionId : DetectionId) :
    Except PerceptionError SemanticObservation :=
  match interpretation.detections.filter fun detection =>
      detection.detectionId p = detectionId with
  | [detection] => do
    let content ← contentOf detection
    pure {
      content := content
      robotId := interpretation.robotId
      sensor := interpretation.sensor
      referenceFrameId := interpretation.referenceFrameId
      sourceVisualObservationId := interpretation.sourceVisualObservationId
      sourceDetection := ⟨interpretation.observationId, detectionId⟩
      observedAtNs := interpretation.observedAtNs
      resultAtNs := interpretation.resultAtNs
      confidence := detection.confidence
      region := detection.region
      provenance := interpretation.provenance
      sensor_kind := interpretation.sensor_kind
      frame_eq := interpretation.frame_eq
      bounded := interpretation.bounded }
  | _ => .error (.observationValidation
      (py "semantic source detection is not present in the interpretation"))

end Perception
end AyyoHumanoid
