import AyyoHumanoid.WorkingModels

/-!
# What the working memory retains

The current evidence is kept in one dictionary for each kind of state key, beside
the recent evidence and the watermarks of the semantic sources. Expiry keeps the
evidence from a threshold on and drops semantic batches whose frame or
interpretation is gone.
-/

namespace AyyoHumanoid
namespace Working

open PyText JsonText PyCollections World

section Evidence

/-- What a `WorkingMemory` retains. -/
structure Evidence (p : Platform) where
  jointEvidence : PyDict Name RobotStateObservation
  poseEvidence : Option RobotStateObservation
  audioEvidence : PyDict Name AudioFrameObservation
  imuEvidence : PyDict Name ImuObservation
  depthEvidence : PyDict Name DepthFrameObservation
  fusedRgbdEvidence : PyDict Name FusedRgbdObservation
  visualEvidence : PyDict Name VisualFrameObservation
  visualInterpretationEvidence : PyDict SourceKey (VisualInterpretationObservation p)
  bodyPoseEvidence : PyDict Name BodyPoseObservation
  healthEvidence : PyDict Name SensorHealthObservation
  entityEvidence : PyDict Name EnvironmentEntityObservation
  semanticEvidence : PyDict ObservationId (SemanticEvidenceObservation p)
  semanticWatermarks : PyDict SourceKey (Nat × ObservationId)
  recent : List (EvidenceEnvelope p)

variable {p : Platform}

/-- The evidence after `reset`. -/
def Evidence.empty : Evidence p where
  jointEvidence := .empty
  poseEvidence := none
  audioEvidence := .empty
  imuEvidence := .empty
  depthEvidence := .empty
  fusedRgbdEvidence := .empty
  visualEvidence := .empty
  visualInterpretationEvidence := .empty
  bodyPoseEvidence := .empty
  healthEvidence := .empty
  entityEvidence := .empty
  semanticEvidence := .empty
  semanticWatermarks := .empty
  recent := []

/-- The current evidence of a slot. -/
def Evidence.current (evidence : Evidence p) : Slot → Option (Observation p)
  | .joint jointName => (evidence.jointEvidence.get? jointName).map .robotState
  | .basePose => evidence.poseEvidence.map .robotState
  | .audio sensorId => (evidence.audioEvidence.get? sensorId).map .audioFrame
  | .imu sensorId => (evidence.imuEvidence.get? sensorId).map .imu
  | .depth sensorId => (evidence.depthEvidence.get? sensorId).map .depthFrame
  | .fusedRgbd sensorId => (evidence.fusedRgbdEvidence.get? sensorId).map .fusedRgbd
  | .visual sensorId => (evidence.visualEvidence.get? sensorId).map .visualFrame
  | .interpretation source =>
    (evidence.visualInterpretationEvidence.get? source).map .visualInterpretation
  | .bodyPose sensorId => (evidence.bodyPoseEvidence.get? sensorId).map .bodyPose
  | .health sensorId => (evidence.healthEvidence.get? sensorId).map .sensorHealth
  | .entity entityId => (evidence.entityEvidence.get? entityId).map .environmentEntity
  | .semantic observationId => (evidence.semanticEvidence.get? observationId).map .semanticEvidence

/-- The slot of an observation of one sensor or entity or of a batch. -/
def slotOf : Observation p → Option Slot
  | .robotState _ => none
  | .imu o => some (.imu o.sensor.sensorId)
  | .audioFrame o => some (.audio o.sensor.sensorId)
  | .visualFrame o => some (.visual o.sensor.sensorId)
  | .depthFrame o => some (.depth o.sensor.sensorId)
  | .fusedRgbd o => some (.fusedRgbd o.sensor.sensorId)
  | .visualInterpretation o => some (.interpretation (o.sensor.sensorId, o.producer.producerId))
  | .semanticEvidence o => some (.semantic o.fingerprint.observationId)
  | .bodyPose o => some (.bodyPose o.sensor.sensorId)
  | .sensorHealth o => some (.health o.sensor.sensorId)
  | .environmentEntity o => some (.entity o.entity.entityId)

/-- Store an observation of one sensor or entity or a batch as current evidence. -/
def Evidence.store (evidence : Evidence p) : Observation p → Evidence p
  | .robotState _ => evidence
  | .imu o => { evidence with imuEvidence := evidence.imuEvidence.set o.sensor.sensorId o }
  | .audioFrame o => { evidence with audioEvidence := evidence.audioEvidence.set o.sensor.sensorId o }
  | .visualFrame o =>
    { evidence with visualEvidence := evidence.visualEvidence.set o.sensor.sensorId o }
  | .depthFrame o => { evidence with depthEvidence := evidence.depthEvidence.set o.sensor.sensorId o }
  | .fusedRgbd o =>
    { evidence with fusedRgbdEvidence := evidence.fusedRgbdEvidence.set o.sensor.sensorId o }
  | .visualInterpretation o =>
    { evidence with visualInterpretationEvidence :=
        evidence.visualInterpretationEvidence.set (o.sensor.sensorId, o.producer.producerId) o }
  | .semanticEvidence o =>
    { evidence with semanticEvidence :=
        evidence.semanticEvidence.set o.fingerprint.observationId o }
  | .bodyPose o =>
    { evidence with bodyPoseEvidence := evidence.bodyPoseEvidence.set o.sensor.sensorId o }
  | .sensorHealth o =>
    { evidence with healthEvidence := evidence.healthEvidence.set o.sensor.sensorId o }
  | .environmentEntity o =>
    { evidence with entityEvidence := evidence.entityEvidence.set o.entity.entityId o }

/-- Store a robot state as the evidence of one of its joints or of its base pose. -/
def Evidence.storeRobot (observation : RobotStateObservation) (evidence : Evidence p) :
    Slot → Evidence p
  | .joint jointName =>
    { evidence with jointEvidence := evidence.jointEvidence.set jointName observation }
  | _ => { evidence with poseEvidence := some observation }

end Evidence

section Retained

variable {p : Platform}

/-- The colour frames of a list of envelopes. -/
def recentFrames (recent : List (EvidenceEnvelope p)) : List VisualFrameObservation :=
  recent.filterMap fun item =>
    match item.observation with
    | .visualFrame o => some o
    | _ => none

/-- The depth frames of a list of envelopes. -/
def recentDepthFrames (recent : List (EvidenceEnvelope p)) : List DepthFrameObservation :=
  recent.filterMap fun item =>
    match item.observation with
    | .depthFrame o => some o
    | _ => none

/-- The interpretations of a list of envelopes. -/
def recentInterpretations (recent : List (EvidenceEnvelope p)) :
    List (VisualInterpretationObservation p) :=
  recent.filterMap fun item =>
    match item.observation with
    | .visualInterpretation o => some o
    | _ => none

/-- The retained colour frames: the current ones before the recent ones. -/
def Evidence.frames (evidence : Evidence p) : List VisualFrameObservation :=
  evidence.visualEvidence.values ++ recentFrames evidence.recent

/-- The retained depth frames: the current ones before the recent ones. -/
def Evidence.depthFrames (evidence : Evidence p) : List DepthFrameObservation :=
  evidence.depthEvidence.values ++ recentDepthFrames evidence.recent

/-- The retained interpretations: the current ones before the recent ones. -/
def Evidence.interpretations (evidence : Evidence p) : List (VisualInterpretationObservation p) :=
  evidence.visualInterpretationEvidence.values ++ recentInterpretations evidence.recent

/-- `_retained_visual_sources`. -/
def Evidence.retainedVisualSources (evidence : Evidence p) :
    PyDict ObservationId VisualFrameObservation :=
  .ofPairs (evidence.frames.map fun frame => (frame.observationId p, frame))

/-- `_retained_visual_interpretations`. -/
def Evidence.retainedVisualInterpretations (evidence : Evidence p) :
    PyDict ObservationId (VisualInterpretationObservation p) :=
  .ofPairs (evidence.interpretations.map fun item => (item.observationId, item))

/-- The frame and the interpretation of a batch are retained. -/
def Evidence.Sourced (evidence : Evidence p) (observation : SemanticEvidenceObservation p) : Prop :=
  observation.source.sourceVisualObservationId ∈ evidence.retainedVisualSources.keys ∧
    observation.source.sourceInterpretationObservationId ∈
      evidence.retainedVisualInterpretations.keys

instance (evidence : Evidence p) (observation : SemanticEvidenceObservation p) :
    Decidable (evidence.Sourced observation) := inferInstanceAs (Decidable (_ ∧ _))

/-- The orphaned identities of `_drop_orphaned_semantic_evidence`. -/
def Evidence.orphans (evidence : Evidence p) : List ObservationId :=
  (evidence.semanticEvidence.keep fun _ observation => ¬evidence.Sourced observation).keys

/-- `_drop_orphaned_semantic_evidence`. -/
def Evidence.dropOrphans (evidence : Evidence p) : Evidence p :=
  { evidence with semanticEvidence :=
      evidence.semanticEvidence.keep fun _ observation => evidence.Sourced observation }

/-- The evidence with a source time from the threshold on. -/
def Evidence.keepFrom (threshold : Int) (evidence : Evidence p) : Evidence p where
  jointEvidence := evidence.jointEvidence.keep fun _ o => threshold ≤ o.observedAtNs
  poseEvidence := evidence.poseEvidence.filter fun o => threshold ≤ o.observedAtNs
  audioEvidence := evidence.audioEvidence.keep fun _ o => threshold ≤ o.observedAtNs
  imuEvidence := evidence.imuEvidence.keep fun _ o => threshold ≤ o.observedAtNs
  depthEvidence := evidence.depthEvidence.keep fun _ o => threshold ≤ o.observedAtNs
  fusedRgbdEvidence := evidence.fusedRgbdEvidence.keep fun _ o => threshold ≤ o.observedAtNs
  visualEvidence := evidence.visualEvidence.keep fun _ o => threshold ≤ o.observedAtNs
  visualInterpretationEvidence :=
    evidence.visualInterpretationEvidence.keep fun _ o => threshold ≤ o.observedAtNs
  bodyPoseEvidence := evidence.bodyPoseEvidence.keep fun _ o => threshold ≤ o.observedAtNs
  healthEvidence := evidence.healthEvidence.keep fun _ o => threshold ≤ o.observedAtNs
  entityEvidence := evidence.entityEvidence.keep fun _ o => threshold ≤ o.observedAtNs
  semanticEvidence := evidence.semanticEvidence.keep fun _ o => threshold ≤ o.source.observedAtNs
  semanticWatermarks := evidence.semanticWatermarks
  recent := evidence.recent.filter fun item => threshold ≤ item.observation.observedAtNs

/-- `_purge_expired`. -/
def Evidence.purge (config : WorkingMemoryConfig) (nowNs : Nat) (evidence : Evidence p) :
    Evidence p :=
  (evidence.keepFrom (nowNs - config.retentionTtlNs)).dropOrphans

/-- `_current_observation_ids`. -/
def Evidence.currentObservationIds (evidence : Evidence p) : List ObservationId :=
  evidence.jointEvidence.values.map (fun o => (o.fingerprint p).observationId) ++
    evidence.entityEvidence.values.map (fun o => (o.fingerprint p).observationId) ++
    evidence.poseEvidence.toList.map (fun o => (o.fingerprint p).observationId) ++
    evidence.imuEvidence.values.map (fun o => (o.fingerprint p).observationId) ++
    evidence.audioEvidence.values.map (fun o => (o.fingerprint p).observationId) ++
    evidence.depthEvidence.values.map (fun o => (o.fingerprint p).observationId) ++
    evidence.fusedRgbdEvidence.values.map (fun o => (o.fingerprint p).observationId) ++
    evidence.visualEvidence.values.map (fun o => (o.fingerprint p).observationId) ++
    evidence.visualInterpretationEvidence.values.map (fun o => o.fingerprint.observationId) ++
    evidence.bodyPoseEvidence.values.map (fun o => (o.fingerprint p).observationId) ++
    evidence.healthEvidence.values.map (fun o => (o.fingerprint p).observationId) ++
    evidence.semanticEvidence.keys

/-- The identities that `ingest` knows: the current and the recent ones. -/
def Evidence.knownIds (evidence : Evidence p) : List ObservationId :=
  evidence.currentObservationIds ++ evidence.recent.map (·.observation.observationId)

end Retained

end Working
end AyyoHumanoid
