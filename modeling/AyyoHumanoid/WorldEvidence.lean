import AyyoHumanoid.PyFloat
import AyyoHumanoid.WorldModels

/-!
# Evidence records of the world model

Poses, covariances, image regions, detections and the provenance of evaluated
visual results are the parts that observations are made of. A float that a
constructor normalized is kept as its token.
-/

namespace AyyoHumanoid
namespace World

open PyText JsonText PyCollections

section Geometry

/-- A vector of three floats. -/
structure Vector3 where
  /-- The first coordinate. -/
  x : FloatToken
  /-- The second coordinate. -/
  y : FloatToken
  /-- The third coordinate. -/
  z : FloatToken
  deriving DecidableEq

/-- `list(vector)`. -/
def Vector3.document (vector : Vector3) : Json :=
  .arr [.float vector.x, .float vector.y, .float vector.z]

/-- A canonical rotation. -/
structure Quaternion where
  /-- The first component. -/
  x : FloatToken
  /-- The second component. -/
  y : FloatToken
  /-- The third component. -/
  z : FloatToken
  /-- The scalar component. -/
  w : FloatToken
  deriving DecidableEq

/-- `list(quaternion)`. -/
def Quaternion.document (rotation : Quaternion) : Json :=
  .arr [.float rotation.x, .float rotation.y, .float rotation.z, .float rotation.w]

/-- `CovarianceMatrix`. -/
structure CovarianceMatrix where
  dimension : Nat
  values : List FloatToken
  /-- The dimension is three or six. -/
  dimension_eq : dimension = 3 ∨ dimension = 6
  /-- The matrix is square. -/
  square : values.length = dimension * dimension
  deriving DecidableEq

/-- `CovarianceMatrix.document`. -/
def CovarianceMatrix.document (covariance : CovarianceMatrix) : Json :=
  .obj [(py "dimension", .int covariance.dimension),
    (py "values", .arr (covariance.values.map .float))]

/-- `Pose3D`. -/
structure Pose3D where
  frameId : FrameId
  childFrameId : FrameId
  positionXyz : Vector3
  orientationXyzw : Quaternion
  /-- The frames are distinct. -/
  frames_ne : frameId ≠ childFrameId
  deriving DecidableEq

/-- `Pose3D.document`. -/
def Pose3D.document (pose : Pose3D) : Json :=
  .obj [(py "child_frame_id", .str pose.childFrameId.text),
    (py "frame_id", .str pose.frameId.text),
    (py "orientation_xyzw", pose.orientationXyzw.document),
    (py "position_xyz", pose.positionXyz.document)]

/-- `JointObservation`. -/
structure JointObservation where
  jointName : Name
  position : FloatToken
  velocity : Option FloatToken
  effort : Option FloatToken
  deriving DecidableEq

/-- `JointObservation.document`. -/
def JointObservation.document (joint : JointObservation) : Json :=
  .obj [(py "effort", optionalFloat joint.effort), (py "joint_name", .str joint.jointName.text),
    (py "position", .float joint.position), (py "velocity", optionalFloat joint.velocity)]

/-- `WorldEntityIdentity`. -/
structure WorldEntityIdentity where
  entityId : Name
  kind : WorldEntityKind
  deriving DecidableEq

end Geometry

section Images

/-- `ImageRegion2D`: the coordinate space is fixed. -/
structure ImageRegion2D where
  xMin : FloatToken
  yMin : FloatToken
  xMax : FloatToken
  yMax : FloatToken
  /-- The region is a positive rectangle inside the image. -/
  inside : 0 ≤ xMin.toRat ∧ xMin.toRat < xMax.toRat ∧ xMax.toRat ≤ 1 ∧
    0 ≤ yMin.toRat ∧ yMin.toRat < yMax.toRat ∧ yMax.toRat ≤ 1
  deriving DecidableEq

/-- `ImageRegion2D.document`. -/
def ImageRegion2D.document (region : ImageRegion2D) : Json :=
  .obj [(py "coordinate_space", .str (py "normalized_image")), (py "x_max", .float region.xMax),
    (py "x_min", .float region.xMin), (py "y_max", .float region.yMax),
    (py "y_min", .float region.yMin)]

/-- A label of a detection or a category of an object. -/
abbrev Label : Type := Identifier maxVisualLabelLength

/-- `VisualDetection`: the identity is derived. -/
structure VisualDetection where
  sourceVisualObservationId : ObservationId
  category : VisualSemanticCategory
  label : Label
  region : ImageRegion2D
  confidence : Option UnitFloat
  deriving DecidableEq

/-- The document that names a detection. -/
def VisualDetection.content (detection : VisualDetection) : Json :=
  .obj [(py "category", .str detection.category.value),
    (py "confidence", optionalShare detection.confidence),
    (py "label", .str detection.label.text), (py "region", detection.region.document),
    (py "schema", .str (py "ayyo.visual-detection.v1")),
    (py "source_visual_observation_id", .str detection.sourceVisualObservationId.text)]

/-- `detection_id`. -/
def VisualDetection.detectionId (p : Platform) (detection : VisualDetection) : DetectionId :=
  ⟨documentDigest p detection.content⟩

/-- `VisualDetection.document`. -/
def VisualDetection.document (p : Platform) (detection : VisualDetection) : Json :=
  .obj [(py "category", .str detection.category.value),
    (py "confidence", optionalShare detection.confidence),
    (py "detection_id", .str (detection.detectionId p).text),
    (py "label", .str detection.label.text), (py "region", detection.region.document),
    (py "source_visual_observation_id", .str detection.sourceVisualObservationId.text)]

end Images

section Evaluation

/-- `VisualModelFormat`. -/
inductive VisualModelFormat where
  | deterministicFixture | onnx | tensorflowLite | torchscript | otherReviewed
  deriving DecidableEq, Repr

/-- The text of a model format. -/
def VisualModelFormat.value : VisualModelFormat → PyStr
  | .deterministicFixture => py "deterministic_fixture"
  | .onnx => py "onnx"
  | .tensorflowLite => py "tensorflow_lite"
  | .torchscript => py "torchscript"
  | .otherReviewed => py "other_reviewed"

/-- `VisualModelCapability`. -/
inductive VisualModelCapability where
  | boundedDetection | classification | keypoints | ocr | sceneLabels
  deriving DecidableEq, Repr

/-- The text of a model capability. -/
def VisualModelCapability.value : VisualModelCapability → PyStr
  | .boundedDetection => py "bounded_detection"
  | .classification => py "classification"
  | .keypoints => py "keypoints"
  | .ocr => py "ocr"
  | .sceneLabels => py "scene_labels"

/-- `VisualModelSourceClassification`. -/
inductive VisualModelSourceClassification where
  | testFixture | evaluationCandidate | projectReviewedArtifact
  deriving DecidableEq, Repr

/-- The text of a source classification. -/
def VisualModelSourceClassification.value : VisualModelSourceClassification → PyStr
  | .testFixture => py "test_fixture"
  | .evaluationCandidate => py "evaluation_candidate"
  | .projectReviewedArtifact => py "project_reviewed_artifact"

/-- `VisualModelProvenance`: the fingerprint is derived. -/
structure VisualModelProvenance where
  modelId : ProducerName
  modelVersion : ProducerName
  producerId : ProducerName
  artifactSha256 : Digest
  modelFormat : VisualModelFormat
  capability : VisualModelCapability
  configurationSha256 : Digest
  labelSchemaId : ProducerName
  labelSchemaVersion : ProducerName
  sourceClassification : VisualModelSourceClassification
  buildExportId : Option ProducerName
  deriving DecidableEq

/-- The members that both documents of a model share. -/
def VisualModelProvenance.members (model : VisualModelProvenance) : List (PyStr × Json) :=
  [(py "artifact_sha256", .str model.artifactSha256.text),
    (py "build_export_id", optionalText (model.buildExportId.map (·.text))),
    (py "capability", .str model.capability.value),
    (py "configuration_sha256", .str model.configurationSha256.text),
    (py "label_schema_id", .str model.labelSchemaId.text),
    (py "label_schema_version", .str model.labelSchemaVersion.text),
    (py "model_format", .str model.modelFormat.value),
    (py "model_id", .str model.modelId.text),
    (py "model_version", .str model.modelVersion.text),
    (py "producer_id", .str model.producerId.text),
    (py "source_classification", .str model.sourceClassification.value)]

/-- `provenance_sha256`. -/
def VisualModelProvenance.provenanceSha256 (p : Platform) (model : VisualModelProvenance) :
    Digest :=
  documentDigest p (.obj (model.members ++
    [(py "schema", .str (py "ayyo.visual-model-provenance.v1"))]))

/-- `VisualModelProvenance.document`. -/
def VisualModelProvenance.document (p : Platform) (model : VisualModelProvenance) : Json :=
  .obj (model.members ++ [(py "provenance_sha256", .str (model.provenanceSha256 p).text)])

/-- `VisualEvaluationReference`: only a met policy may be carried, so the decision is fixed. -/
structure VisualEvaluationReference where
  producerVersion : ProducerName
  producerImplementationSha256 : Digest
  producerManifestSha256 : Digest
  model : VisualModelProvenance
  datasetId : ProducerName
  datasetVersion : ProducerName
  datasetManifestSha256 : Digest
  policyId : ProducerName
  policyVersion : ProducerName
  policySha256 : Digest
  reportSemanticSha256 : Digest
  resultSchemaVersion : ProducerName
  deriving DecidableEq

/-- `VisualEvaluationReference.document`. -/
def VisualEvaluationReference.document (p : Platform) (reference : VisualEvaluationReference) :
    Json :=
  .obj [(py "dataset_id", .str reference.datasetId.text),
    (py "dataset_manifest_sha256", .str reference.datasetManifestSha256.text),
    (py "dataset_version", .str reference.datasetVersion.text),
    (py "decision", .str (py "meets_mechanical_policy")),
    (py "model", reference.model.document p),
    (py "policy_id", .str reference.policyId.text),
    (py "policy_sha256", .str reference.policySha256.text),
    (py "policy_version", .str reference.policyVersion.text),
    (py "producer_implementation_sha256", .str reference.producerImplementationSha256.text),
    (py "producer_manifest_sha256", .str reference.producerManifestSha256.text),
    (py "producer_version", .str reference.producerVersion.text),
    (py "report_semantic_sha256", .str reference.reportSemanticSha256.text),
    (py "result_schema_version", .str reference.resultSchemaVersion.text)]

/-- `visual_evaluation_reference_sha256`. -/
def visualEvaluationReferenceSha256 (p : Platform)
    (reference : Option VisualEvaluationReference) : Option Digest :=
  reference.map fun reference => documentDigest p (reference.document p)

/-- `VisualEvaluationRequirement`. -/
structure VisualEvaluationRequirement where
  producerId : ProducerName
  producerVersion : ProducerName
  producerImplementationSha256 : Digest
  producerManifestSha256 : Digest
  modelProvenanceSha256 : Digest
  modelArtifactSha256 : Digest
  datasetId : ProducerName
  datasetVersion : ProducerName
  datasetManifestSha256 : Digest
  policyId : ProducerName
  policyVersion : ProducerName
  policySha256 : Digest
  reportSemanticSha256 : Digest
  resultSchemaVersion : ProducerName
  deriving DecidableEq

/-- `VisualEvaluationRequirement.matches`. -/
def VisualEvaluationRequirement.Matches (p : Platform) (requirement : VisualEvaluationRequirement)
    (producer : VisualInterpretationProducer) (reference : VisualEvaluationReference) : Prop :=
  producer.producerId = requirement.producerId ∧
    reference.model.producerId = producer.producerId ∧
    reference.model.modelId = producer.modelId ∧
    reference.producerVersion = requirement.producerVersion ∧
    reference.producerImplementationSha256 = requirement.producerImplementationSha256 ∧
    reference.producerManifestSha256 = requirement.producerManifestSha256 ∧
    reference.model.provenanceSha256 p = requirement.modelProvenanceSha256 ∧
    reference.model.artifactSha256 = requirement.modelArtifactSha256 ∧
    reference.datasetId = requirement.datasetId ∧
    reference.datasetVersion = requirement.datasetVersion ∧
    reference.datasetManifestSha256 = requirement.datasetManifestSha256 ∧
    reference.policyId = requirement.policyId ∧
    reference.policyVersion = requirement.policyVersion ∧
    reference.policySha256 = requirement.policySha256 ∧
    reference.reportSemanticSha256 = requirement.reportSemanticSha256 ∧
    reference.resultSchemaVersion = requirement.resultSchemaVersion

instance (p : Platform) (requirement : VisualEvaluationRequirement)
    (producer : VisualInterpretationProducer) (reference : VisualEvaluationReference) :
    Decidable (requirement.Matches p producer reference) := by
  unfold VisualEvaluationRequirement.Matches
  infer_instance

end Evaluation

end World
end AyyoHumanoid
