import AyyoHumanoid.PyDictLimits
import AyyoHumanoid.WorldCatalog
import AyyoHumanoid.WorldRebuild
import Mathlib.Algebra.Group.Int.Defs

/-!
# Configuration and results of the working memory

The working memory keeps the current evidence of every state key and a window of
recent evidence. Its configuration names the sensors and producers it trusts and
bounds what it keeps; every ingestion ends in a result with a status, a reason
and the state keys it changed.
-/

namespace AyyoHumanoid
namespace Working

open PyText JsonText PyCollections World

section Enumerations

/-- `IngestionStatus`. -/
inductive IngestionStatus where
  | accepted | duplicate | rejected
  deriving DecidableEq, Repr

/-- `IngestionReason`. -/
inductive IngestionReason where
  | acceptedNew | acceptedReplacement | duplicateObservation | olderObservation
  | receiptTimeRegression | temporalConflict | futureObservation | expiredObservation
  | wrongRobotIdentity | provenanceNotAllowed | unknownJoint | fixedJoint | invalidJointValue
  | malformedObservation | unknownSensor | unknownProducer | sourceObservationMismatch
  | evaluationRequired | evaluationMismatch
  deriving DecidableEq, Repr

/-- `StateKeyKind`. -/
inductive StateKeyKind where
  | robotJoint | robotBasePose | robotImu | robotAudio | robotVisual | robotDepth
  | robotRgbdFusion | robotVisualInterpretation | robotSemanticEvidence | sensorHealth
  | environmentEntity
  deriving DecidableEq, Repr

/-- The text of a state key kind. -/
def StateKeyKind.value : StateKeyKind → PyStr
  | .robotJoint => py "robot_joint"
  | .robotBasePose => py "robot_base_pose"
  | .robotImu => py "robot_imu"
  | .robotAudio => py "robot_audio"
  | .robotVisual => py "robot_visual"
  | .robotDepth => py "robot_depth"
  | .robotRgbdFusion => py "robot_rgbd_fusion"
  | .robotVisualInterpretation => py "robot_visual_interpretation"
  | .robotSemanticEvidence => py "robot_semantic_evidence"
  | .sensorHealth => py "sensor_health"
  | .environmentEntity => py "environment_entity"

/-- The exceptions of the working memory: an error of the world model or one of its own. -/
inductive WorkingFault where
  /-- `WorldModelValidationError` and its subclasses. -/
  | world (error : WorldError)
  /-- `WorkingMemoryConfigurationError`. -/
  | configuration (message : PyStr)
  /-- `WorkingMemoryClockRegressionError`. -/
  | clockRegression (message : PyStr)
  deriving DecidableEq

end Enumerations

section Keys

/-- `StateKey`; the identities are identifiers, which have no surrounding whitespace. -/
structure StateKey where
  kind : StateKeyKind
  identity : PyStr
  deriving DecidableEq

/-- The order of state keys in results. -/
def StateKey.order (key : StateKey) : PyStr ×ₗ PyStr := toLex (key.kind.value, key.identity)

/-- `tuple(sorted(set(keys), key=lambda item: (item.kind.value, item.identity)))`. -/
def sortedKeys (keys : List StateKey) : List StateKey := sortBy StateKey.order keys.dedup

/-- A sensor with one of its producers. -/
abbrev SourceKey : Type := Name × ProducerName

/-- Where a piece of current evidence is kept. -/
inductive Slot where
  /-- `_joint_evidence[joint_name]`. -/
  | joint (jointName : Name)
  /-- `_pose_evidence`. -/
  | basePose
  /-- `_audio_evidence[sensor_id]`. -/
  | audio (sensorId : Name)
  /-- `_imu_evidence[sensor_id]`. -/
  | imu (sensorId : Name)
  /-- `_depth_evidence[sensor_id]`. -/
  | depth (sensorId : Name)
  /-- `_fused_rgbd_evidence[sensor_id]`. -/
  | fusedRgbd (sensorId : Name)
  /-- `_visual_evidence[sensor_id]`. -/
  | visual (sensorId : Name)
  /-- `_visual_interpretation_evidence[(sensor_id, producer_id)]`. -/
  | interpretation (source : SourceKey)
  /-- `_body_pose_evidence[sensor_id]`. -/
  | bodyPose (sensorId : Name)
  /-- `_health_evidence[sensor_id]`. -/
  | health (sensorId : Name)
  /-- `_entity_evidence[entity_id]`. -/
  | entity (entityId : Name)
  /-- `_semantic_evidence[observation_id]`. -/
  | semantic (observationId : ObservationId)
  deriving DecidableEq

/-- The state key of a slot, in the memory of a robot. -/
def Slot.key (robotId : Name) : Slot → StateKey
  | .joint jointName => ⟨.robotJoint, jointName.text⟩
  | .basePose => ⟨.robotBasePose, robotId.text⟩
  | .audio sensorId => ⟨.robotAudio, sensorId.text⟩
  | .imu sensorId => ⟨.robotImu, sensorId.text⟩
  | .depth sensorId => ⟨.robotDepth, sensorId.text⟩
  | .fusedRgbd sensorId => ⟨.robotRgbdFusion, sensorId.text⟩
  | .visual sensorId => ⟨.robotVisual, sensorId.text⟩
  | .interpretation source =>
    ⟨.robotVisualInterpretation, source.1.text ++ py "|" ++ source.2.text⟩
  | .bodyPose sensorId => ⟨.robotBasePose, sensorId.text⟩
  | .health sensorId => ⟨.sensorHealth, sensorId.text⟩
  | .entity entityId => ⟨.environmentEntity, entityId.text⟩
  | .semantic observationId => ⟨.robotSemanticEvidence, observationId.text⟩

end Keys

section Configuration

/-- `MAX_RECENT_EVIDENCE_CAPACITY`. -/
def maxRecentEvidenceCapacity : Nat := 4096

/-- `MAX_ENTITY_CAPACITY`. -/
def maxEntityCapacity : Nat := 256

/-- `MAX_RETENTION_NS`. -/
def maxRetentionNs : Nat := 300000000000

/-- `MAX_SENSOR_IDENTITIES`. -/
def maxSensorIdentities : Nat := 32

/-- `MAX_VISUAL_INTERPRETATION_PRODUCERS`, `MAX_VISUAL_EVALUATION_REQUIREMENTS`. -/
def maxVisualInterpretationProducers : Nat := 16

/-- `WorkingMemoryConfig`. -/
structure WorkingMemoryConfig where
  robotId : Name
  sourceClock : ObservationClock
  allowedProvenance : List ObservationProvenance
  sensors : List SensorIdentity
  freshnessNs : Nat
  retentionTtlNs : Nat
  permittedFutureSkewNs : Nat
  recentEvidenceCapacity : Nat
  environmentEntityCapacity : Nat
  semanticEvidenceCapacity : Nat
  visualInterpretationProducers : List VisualInterpretationProducer
  visualEvaluationRequirements : List VisualEvaluationRequirement
  /-- There are some provenance profiles, not too many, and they are distinct. -/
  profiles : allowedProvenance ≠ [] ∧ allowedProvenance.length ≤ 16 ∧ allowedProvenance.Nodup
  /-- Every profile has the clock of the configuration. -/
  one_clock : ∀ provenance ∈ allowedProvenance, provenance.clock = sourceClock
  /-- The number of sensors is limited. -/
  few_sensors : sensors.length ≤ maxSensorIdentities
  /-- The sensor identities increase. -/
  ordered : KeyOrdered (fun sensor => sensor.sensorId.text) sensors
  /-- Evidence stays fresh for a shorter time than it is retained. -/
  interval : freshnessNs < retentionTtlNs ∧ retentionTtlNs ≤ maxRetentionNs
  /-- The permitted skew is bounded. -/
  skew : permittedFutureSkewNs ≤ 1000000000
  /-- The capacity for recent evidence is bounded and positive. -/
  recent_capacity : 1 ≤ recentEvidenceCapacity ∧ recentEvidenceCapacity ≤ maxRecentEvidenceCapacity
  /-- The capacity for entities is bounded and positive. -/
  entity_capacity : 1 ≤ environmentEntityCapacity ∧ environmentEntityCapacity ≤ maxEntityCapacity
  /-- The capacity for semantic evidence is bounded and positive. -/
  semantic_capacity : 1 ≤ semanticEvidenceCapacity ∧
    semanticEvidenceCapacity ≤ maxVisualSourceReferences
  /-- The producers are few and distinct. -/
  producers : visualInterpretationProducers.length ≤ maxVisualInterpretationProducers ∧
    (visualInterpretationProducers.map (·.producerId)).Nodup
  /-- The evaluated producers are few and distinct. -/
  requirements : visualEvaluationRequirements.length ≤ maxVisualInterpretationProducers ∧
    (visualEvaluationRequirements.map (·.producerId)).Nodup
  /-- The evaluated producers are configured. -/
  required : ∀ requirement ∈ visualEvaluationRequirements,
    requirement.producerId ∈ visualInterpretationProducers.map (·.producerId)

/-- The catalog and the configuration that a `WorkingMemory` is built with. -/
structure WorkingMemory where
  catalog : RobotJointCatalog
  config : WorkingMemoryConfig
  /-- Both are of one robot. -/
  robot_eq : catalog.robotId = config.robotId

/-- What the runtime's floating point supplies. -/
structure WorkingRuntime where
  /-- The widened limits of a joint. -/
  limits : LimitRuntime
  /-- The normalization of a rotation. -/
  normalize : Quaternion → Option Quaternion

end Configuration

section Results

variable {p : Platform}

/-- `EvidenceEnvelope`. -/
structure EvidenceEnvelope (p : Platform) where
  observation : Observation p
  receivedAtMonotonicNs : Nat
  deriving DecidableEq

/-- `EvidenceEnvelope(...)`, of an observation that was rebuilt once already. -/
def EvidenceEnvelope.build (normalize : Quaternion → Option Quaternion)
    (observation : Observation p) (receivedAtMonotonicNs : Int) :
    Except WorkingFault (EvidenceEnvelope p) := do
  let rebuilt ← (rebuildObservation normalize observation).mapError .world
  require (0 ≤ receivedAtMonotonicNs ∧ receivedAtMonotonicNs ≤ 2 ^ 63 - 1)
    (.configuration (py "receipt time must be non-negative monotonic nanoseconds"))
  pure ⟨rebuilt, receivedAtMonotonicNs.toNat⟩

/-- `IngestionResult`. -/
structure IngestionResult where
  status : IngestionStatus
  reason : IngestionReason
  observationId : ObservationId
  updatedKeys : List StateKey
  evictedKeys : List StateKey
  detail : PyStr
  deriving DecidableEq

/-- Why an observation is not accepted: the memory has it already, or it is refused. -/
inductive Refusal where
  | duplicate (detail : PyStr)
  | rejected (reason : IngestionReason) (detail : PyStr)
  deriving DecidableEq

/-- A rejection with a constant detail. -/
def refuse (reason : IngestionReason) (detail : String) : Refusal := .rejected reason (py detail)

end Results

end Working
end AyyoHumanoid
