import AyyoHumanoid.WorkingEvidence

/-!
# Ingestion into the working memory

An observation is rebuilt, the clock advances and expired evidence goes. Then the
observation is checked against the configuration, against what is known, and
against the current evidence of its state keys; an accepted one becomes current
evidence, enters the recent evidence and may evict other evidence.
-/

namespace AyyoHumanoid
namespace Working

open PyText JsonText PyCollections World

variable {p : Platform}

section States

/-- The state of a `WorkingMemory`. -/
structure WorkingState (p : Platform) where
  /-- What is retained. -/
  evidence : Evidence p
  lastNowNs : Option Nat
  lastReceiptMonotonicNs : Option Nat
  acceptedCount : Nat
  duplicateCount : Nat
  rejectedCount : Nat
  evictionCount : Nat

/-- The state after `__init__` and after `reset`. -/
def WorkingState.reset : WorkingState p := ⟨.empty, none, none, 0, 0, 0, 0⟩

/-- `_advance_time`. -/
def WorkingState.advanceTime (config : WorkingMemoryConfig) (nowNs : Int)
    (state : WorkingState p) : Except WorkingFault (WorkingState p) := do
  require (0 ≤ nowNs ∧ nowNs ≤ maxObservationTimeNs)
    (.configuration (py "Working Memory requires non-negative integer source time"))
  require (∀ last ∈ state.lastNowNs, ¬nowNs < last)
    (.clockRegression (py "source clock regressed; reset temporary state before reuse"))
  pure { state with
    evidence := state.evidence.purge config nowNs.toNat
    lastNowNs := some nowNs.toNat }

/-- The result of a refusal, with the counter it raises. -/
def WorkingState.decline (state : WorkingState p) (observationId : ObservationId) :
    Refusal → IngestionResult × WorkingState p
  | .duplicate detail =>
    (⟨.duplicate, .duplicateObservation, observationId, [], [], detail⟩,
      { state with duplicateCount := state.duplicateCount + 1 })
  | .rejected reason detail =>
    (⟨.rejected, reason, observationId, [], [], detail⟩,
      { state with rejectedCount := state.rejectedCount + 1 })

end States

section Admission

/-- `result_at_ns`, of the observations that have one. -/
def resultAtNs? : Observation p → Option Nat
  | .audioFrame o => some o.resultAtNs
  | .visualInterpretation o => some o.resultAtNs
  | .semanticEvidence o => some o.source.resultAtNs
  | .fusedRgbd o => some o.resultAtNs
  | _ => none

/-- The checks of `ingest` against the configuration and the clock. -/
def checkSource (config : WorkingMemoryConfig) (observation : Observation p) (nowNs : Nat) :
    Except Refusal Unit := do
  require (observation.robotId = config.robotId) (refuse .wrongRobotIdentity
    "observation robot identity does not match Working Memory")
  require (observation.provenance ∈ config.allowedProvenance) (refuse .provenanceNotAllowed
    "observation provenance is outside the reviewed source profiles")
  require (∀ sensor ∈ observation.sensor?,
      config.sensors.find? (fun known => known.sensorId = sensor.sensorId) = some sensor)
    (refuse .unknownSensor "observation sensor is outside the reviewed sensor catalog")
  require (¬observation.observedAtNs > nowNs + config.permittedFutureSkewNs)
    (refuse .futureObservation "observation source time is beyond permitted future skew")
  require (∀ result ∈ resultAtNs? observation, ¬result > nowNs + config.permittedFutureSkewNs)
    (refuse .futureObservation "visual result time is beyond permitted future skew")
  require (¬(observation.observedAtNs : Int) < nowNs - config.retentionTtlNs)
    (refuse .expiredObservation "observation expired before ingestion")

/-- `_compare_current`. -/
inductive Comparison where
  | new | older | sameTimeConflict | newer
  deriving DecidableEq, Repr

/-- `_compare_current(current, incoming)`, of the times that are compared. -/
def compareCurrent (current : Option Nat) (incoming : Nat) : Comparison :=
  match current with
  | none => .new
  | some time =>
    if incoming < time then .older
    else if incoming = time then .sameTimeConflict
    else .newer

/-- What an accepted observation makes of the evidence. -/
structure Placement (p : Platform) where
  /-- The evidence with the observation in it. -/
  evidence : Evidence p
  updated : List StateKey
  replaced : Bool

/-- The two refusals of a comparison: whether there was current evidence before. -/
def settleComparison (conflict older : String) : Comparison → Except Refusal Bool
  | .new => .ok false
  | .newer => .ok true
  | .sameTimeConflict => .error (refuse .temporalConflict conflict)
  | .older => .error (refuse .olderObservation older)

end Admission

section Robots

/-- `_WORLD_FAILURE_TO_REASON.get(code, MALFORMED_OBSERVATION)`. -/
def reasonOf : FailureCode → IngestionReason
  | .wrongRobotIdentity => .wrongRobotIdentity
  | .unknownJoint => .unknownJoint
  | .fixedJoint => .fixedJoint
  | .jointBelowMinimum | .jointAboveMaximum | .jointVelocityExceeded | .jointEffortExceeded =>
    .invalidJointValue
  | _ => .malformedObservation

/-- The decisions of `_ingest_robot`. -/
def robotDecisions (evidence : Evidence p) (observation : RobotStateObservation) :
    List (Slot × Comparison) :=
  observation.joints.map (fun joint => (.joint joint.jointName,
    compareCurrent ((evidence.jointEvidence.get? joint.jointName).map (·.observedAtNs))
      observation.observedAtNs)) ++
  observation.basePose.toList.map fun _ => (.basePose,
    compareCurrent (evidence.poseEvidence.map (·.observedAtNs)) observation.observedAtNs)

/-- The slots that `_ingest_robot` updates, in the order of their keys. -/
def updatedSlots (robotId : Name) (decisions : List (Slot × Comparison)) : List Slot :=
  sortBy (fun slot => (slot.key robotId).order)
    ((decisions.filter fun decision => decision.2 = .new ∨ decision.2 = .newer).map Prod.fst)

/-- `_ingest_robot`, after `catalog.validate_observation`. -/
def placeRobot (evidence : Evidence p) (observation : RobotStateObservation) :
    Except Refusal (Placement p) := do
  let decisions := robotDecisions evidence observation
  require (∀ decision ∈ decisions, decision.2 ≠ .sameTimeConflict)
    (refuse .temporalConflict "same state key and source time carry different evidence")
  let updated := updatedSlots observation.robotId decisions
  require (updated ≠ [])
    (refuse .olderObservation "all affected robot state is newer than this observation")
  pure {
    evidence := updated.foldl (fun evidence slot => evidence.storeRobot observation slot) evidence
    updated := updated.map (Slot.key observation.robotId)
    replaced := decisions.any fun decision => decision.2 = .newer }

end Robots

section Semantics

/-- The batch repeats the metadata of its interpretation. -/
def RepeatsInterpretation (source : SemanticSource)
    (interpretation : VisualInterpretationObservation p) : Prop :=
  interpretation.fingerprint = source.sourceInterpretationFingerprint ∧
    interpretation.robotId = source.robotId ∧ interpretation.sensor = source.sensor ∧
    interpretation.referenceFrameId = source.referenceFrameId ∧
    interpretation.sourceVisualObservationId = source.sourceVisualObservationId ∧
    interpretation.sourceVisualFingerprint = source.sourceVisualFingerprint ∧
    interpretation.observedAtNs = source.observedAtNs ∧
    interpretation.resultAtNs = source.resultAtNs ∧ interpretation.producer = source.producer ∧
    visualEvaluationReferenceSha256 p interpretation.evaluationReference =
      source.evaluationReferenceSha256 ∧
    interpretation.provenance = source.provenance ∧
    interpretation.availability = source.availability

instance (source : SemanticSource) (interpretation : VisualInterpretationObservation p) :
    Decidable (RepeatsInterpretation source interpretation) := inferInstanceAs (Decidable (_ ∧ _))

/-- The batch repeats the metadata of its frame. -/
def RepeatsFrame (p : Platform) (source : SemanticSource) (frame : VisualFrameObservation) : Prop :=
  frame.fingerprint p = source.sourceVisualFingerprint ∧ frame.robotId = source.robotId ∧
    frame.sensor = source.sensor ∧ frame.observedAtNs = source.observedAtNs ∧
    frame.provenance = source.provenance

instance (source : SemanticSource) (frame : VisualFrameObservation) :
    Decidable (RepeatsFrame p source frame) := inferInstanceAs (Decidable (_ ∧ _))

/-- The category of an item agrees with its detection. -/
def CategoryMatches (item : SemanticEvidenceItem) (detection : VisualDetection) : Prop :=
  match item.kind with
  | .person => detection.category = .person ∧ item.category = none
  | .object => detection.category = .object ∧ item.category = some detection.label

instance (item : SemanticEvidenceItem) (detection : VisualDetection) :
    Decidable (CategoryMatches item detection) := by
  unfold CategoryMatches
  split <;> infer_instance

/-- The item says what one of the detections says. -/
def ItemMatches (source : SemanticSource) (interpretation : VisualInterpretationObservation p)
    (item : SemanticEvidenceItem) : Prop :=
  ∃ detection ∈ interpretation.detections.find? fun detection =>
      detection.detectionId p = item.sourceDetectionId,
    CategoryMatches item detection ∧
      detection.sourceVisualObservationId = source.sourceVisualObservationId ∧
      detection.region = item.region ∧ detection.confidence = item.confidence

instance (source : SemanticSource) (interpretation : VisualInterpretationObservation p)
    (item : SemanticEvidenceItem) : Decidable (ItemMatches source interpretation item) :=
  inferInstanceAs (Decidable (∃ detection ∈ (_ : Option VisualDetection), _))

/-- The checks of `_ingest_semantic` on the producer, the sources and the items. -/
def checkSemantic (config : WorkingMemoryConfig) (evidence : Evidence p)
    (observation : SemanticEvidenceObservation p) : Except Refusal Unit := do
  let source := observation.source
  require (config.visualInterpretationProducers.find? (fun candidate =>
      candidate.producerId = source.producer.producerId) = some source.producer)
    (refuse .unknownProducer "semantic evidence producer is outside the reviewed catalog")
  match evidence.retainedVisualInterpretations.get? source.sourceInterpretationObservationId with
  | none => .error (refuse .sourceObservationMismatch
      "semantic evidence does not reference a retained interpretation")
  | some interpretation => do
    require (RepeatsInterpretation source interpretation) (refuse .sourceObservationMismatch
      "semantic evidence metadata differs from its retained interpretation")
    require (∃ frame ∈ evidence.retainedVisualSources.get? source.sourceVisualObservationId,
        RepeatsFrame p source frame)
      (refuse .sourceObservationMismatch
        "semantic evidence does not match a retained source frame")
    observation.items.forM fun item => require (ItemMatches source interpretation item)
      (refuse .sourceObservationMismatch
        "semantic evidence changes or invents its source detection")

/-- The key of the watermark of a batch. -/
def sourceKey (observation : SemanticEvidenceObservation p) : SourceKey :=
  (observation.source.sensor.sensorId, observation.source.producer.producerId)

/-- The checks of `_ingest_semantic` against the watermark of the source. -/
def checkWatermark (evidence : Evidence p) (observation : SemanticEvidenceObservation p) :
    Except Refusal Unit :=
  match evidence.semanticWatermarks.get? (sourceKey observation) with
  | none => .ok ()
  | some (currentResultAtNs, currentObservationId) => do
    require (¬observation.source.resultAtNs < currentResultAtNs) (refuse .olderObservation
      "newer semantic evidence is already retained for this source")
    require (observation.source.resultAtNs = currentResultAtNs →
        observation.fingerprint.observationId ≠ currentObservationId)
      (.duplicate (py "equivalent semantic evidence is already retained"))
    require (observation.source.resultAtNs ≠ currentResultAtNs) (refuse .temporalConflict
      "same semantic source and result time carry different evidence")

/-- `_ingest_semantic`. -/
def placeSemantic (config : WorkingMemoryConfig) (evidence : Evidence p)
    (observation : SemanticEvidenceObservation p) : Except Refusal (Placement p) := do
  checkSemantic config evidence observation
  checkWatermark evidence observation
  let observationId := observation.fingerprint.observationId
  pure {
    evidence := { evidence.store (.semanticEvidence observation) with
      semanticWatermarks := evidence.semanticWatermarks.set (sourceKey observation)
        (observation.source.resultAtNs, observationId) }
    updated := [(Slot.semantic observationId).key config.robotId]
    replaced := false }

end Semantics

section Sensors

/-- The checks of `_ingest_sensor` on a fused pair. -/
def checkComponents (evidence : Evidence p) (observation : FusedRgbdObservation) :
    Except Refusal Unit :=
  require (observation.rgbObservation ∈ evidence.frames ∧
      observation.depthObservation ∈ evidence.depthFrames)
    (refuse .sourceObservationMismatch
      "fused RGB-D evidence does not match retained trusted components")

/-- The retained frames that an interpretation names. -/
def sourceFrames (evidence : Evidence p) (observation : VisualInterpretationObservation p) :
    List VisualFrameObservation :=
  evidence.frames.filter fun frame =>
    frame.observationId p = observation.sourceVisualObservationId

/-- The checks of `_ingest_sensor` on an interpretation. -/
def checkInterpretation (config : WorkingMemoryConfig) (evidence : Evidence p)
    (observation : VisualInterpretationObservation p) : Except Refusal Unit := do
  require (config.visualInterpretationProducers.find? (fun candidate =>
      candidate.producerId = observation.producer.producerId) = some observation.producer)
    (refuse .unknownProducer "visual result producer is outside the reviewed producer catalog")
  let requirement := config.visualEvaluationRequirements.find? fun item =>
    item.producerId = observation.producer.producerId
  match observation.evaluationReference with
  | none => require (requirement = none) (refuse .evaluationRequired
      "visual producer requires evaluated provenance")
  | some reference =>
    require (∃ required ∈ requirement, required.Matches p observation.producer reference)
      (refuse .evaluationMismatch "visual evaluation provenance differs from the allowlist")
  require (sourceFrames evidence observation ≠ [] ∧
      ∀ frame ∈ sourceFrames evidence observation, frame.robotId = observation.robotId ∧
        frame.sensor = observation.sensor ∧ frame.observedAtNs = observation.observedAtNs ∧
        frame.provenance = observation.provenance ∧
        frame.fingerprint p = observation.sourceVisualFingerprint)
    (refuse .sourceObservationMismatch
      "visual result does not match retained trusted frame metadata")

/-- The checks of `_ingest_sensor` that depend on the kind of observation. -/
def checkSensor (config : WorkingMemoryConfig) (evidence : Evidence p) :
    Observation p → Except Refusal Unit
  | .fusedRgbd observation => checkComponents evidence observation
  | .visualInterpretation observation => checkInterpretation config evidence observation
  | _ => .ok ()

/-- The time by which an observation follows the current one. -/
def orderTime : Observation p → Nat
  | .visualInterpretation observation => observation.resultAtNs
  | observation => observation.observedAtNs

/-- `_ingest_sensor`, of an observation with the given slot. -/
def placeSensor (config : WorkingMemoryConfig) (evidence : Evidence p)
    (observation : Observation p) (slot : Slot) : Except Refusal (Placement p) := do
  checkSensor config evidence observation
  let replaced ← settleComparison
    "same sensor state key and source time carry different evidence"
    "newer evidence for this sensor state key is already current"
    (compareCurrent ((evidence.current slot).map orderTime) (orderTime observation))
  pure ⟨evidence.store observation, [slot.key config.robotId], replaced⟩

/-- `_ingest_entity`. -/
def placeEntity (config : WorkingMemoryConfig) (evidence : Evidence p)
    (observation : EnvironmentEntityObservation) : Except Refusal (Placement p) := do
  let entityId := observation.entity.entityId
  let replaced ← settleComparison
    "same entity and source time carry different evidence"
    "a newer environment observation is already current"
    (compareCurrent ((evidence.entityEvidence.get? entityId).map (·.observedAtNs))
      observation.observedAtNs)
  pure ⟨evidence.store (.environmentEntity observation),
    [(Slot.entity entityId).key config.robotId], replaced⟩

end Sensors

section Ingestion

/-- Place an observation that is not known yet. -/
def placeNew (runtime : WorkingRuntime) (memory : WorkingMemory) (evidence : Evidence p) :
    Observation p → Except Refusal (Placement p)
  | .robotState o => do
    (memory.catalog.validateObservation runtime.limits o).mapError fun error =>
      .rejected (reasonOf error.code) error.detail
    placeRobot evidence o
  | .semanticEvidence o => placeSemantic memory.config evidence o
  | .environmentEntity o => placeEntity memory.config evidence o
  | .imu o => placeSensor memory.config evidence (.imu o) (.imu o.sensor.sensorId)
  | .audioFrame o => placeSensor memory.config evidence (.audioFrame o) (.audio o.sensor.sensorId)
  | .visualFrame o =>
    placeSensor memory.config evidence (.visualFrame o) (.visual o.sensor.sensorId)
  | .depthFrame o => placeSensor memory.config evidence (.depthFrame o) (.depth o.sensor.sensorId)
  | .fusedRgbd o => placeSensor memory.config evidence (.fusedRgbd o) (.fusedRgbd o.sensor.sensorId)
  | .visualInterpretation o => placeSensor memory.config evidence (.visualInterpretation o)
      (.interpretation (o.sensor.sensorId, o.producer.producerId))
  | .bodyPose o => placeSensor memory.config evidence (.bodyPose o) (.bodyPose o.sensor.sensorId)
  | .sensorHealth o =>
    placeSensor memory.config evidence (.sensorHealth o) (.health o.sensor.sensorId)

/-- `ingest` from the robot check on, without the counters. -/
def place (runtime : WorkingRuntime) (memory : WorkingMemory) (evidence : Evidence p)
    (observation : Observation p) (nowNs : Nat) : Except Refusal (Placement p) := do
  checkSource memory.config observation nowNs
  require (observation.observationId ∉ evidence.knownIds)
    (.duplicate (py "equivalent evidence is already retained"))
  placeNew runtime memory evidence observation

/-- The order of recent evidence. -/
def recentOrder (item : EvidenceEnvelope p) : ℕ ×ₗ PyStr :=
  toLex (item.observation.observedAtNs, item.observation.observationId.text)

/-- The order in which entities are evicted. -/
def entityRank (p : Platform) (entityId : Name) (observation : EnvironmentEntityObservation) :
    ℕ ×ₗ PyStr ×ₗ PyStr :=
  toLex (observation.observedAtNs,
    toLex ((observation.fingerprint p).observationId.text, entityId.text))

/-- The order in which semantic batches are evicted. -/
def semanticRank (observationId : ObservationId) (observation : SemanticEvidenceObservation p) :
    ℕ ×ₗ ℕ ×ₗ PyStr :=
  toLex (observation.source.observedAtNs, toLex (observation.source.resultAtNs, observationId.text))

/-- The recent evidence with a new envelope, within the capacity. -/
def remember (capacity : Nat) (recent : List (EvidenceEnvelope p)) (envelope : EvidenceEnvelope p) :
    List (EvidenceEnvelope p) :=
  let sorted := sortBy recentOrder (recent ++ [envelope])
  sorted.drop (sorted.length - capacity)

/-- The recent evidence after `_accept` and the current evidence within its capacities. -/
def Evidence.bound (config : WorkingMemoryConfig) (envelope : EvidenceEnvelope p)
    (evidence : Evidence p) : Evidence p :=
  { evidence with
    recent := remember config.recentEvidenceCapacity evidence.recent envelope
    entityEvidence :=
      evidence.entityEvidence.keepGreatest (entityRank p) config.environmentEntityCapacity
    semanticEvidence :=
      evidence.semanticEvidence.keepGreatest semanticRank config.semanticEvidenceCapacity }

/-- `evicted` in `_accept`. -/
def evictedSlots (config : WorkingMemoryConfig) (envelope : EvidenceEnvelope p)
    (evidence : Evidence p) : List Slot :=
  (evidence.entityEvidence.excess (entityRank p) config.environmentEntityCapacity).map .entity ++
    (evidence.semanticEvidence.excess semanticRank config.semanticEvidenceCapacity).map .semantic ++
    (evidence.bound config envelope).orphans.map .semantic

/-- `_accept`. -/
def WorkingState.accept (config : WorkingMemoryConfig) (envelope : EvidenceEnvelope p)
    (observationId : ObservationId) (placement : Placement p) (state : WorkingState p) :
    IngestionResult × WorkingState p :=
  let evicted := sortedKeys
    ((evictedSlots config envelope placement.evidence).map (Slot.key config.robotId))
  (⟨.accepted, if placement.replaced then .acceptedReplacement else .acceptedNew, observationId,
      placement.updated, evicted, py "observation retained within configured bounds"⟩,
    { state with
      evidence := (placement.evidence.bound config envelope).dropOrphans
      acceptedCount := state.acceptedCount + 1
      evictionCount := state.evictionCount + evicted.length })

/-- `ingest` from the receipt check on. -/
def WorkingState.receive (runtime : WorkingRuntime) (memory : WorkingMemory)
    (observation : Observation p) (envelope : EvidenceEnvelope p) (nowNs : Nat)
    (state : WorkingState p) : IngestionResult × WorkingState p :=
  if ∃ last ∈ state.lastReceiptMonotonicNs, envelope.receivedAtMonotonicNs < last then
    state.decline observation.observationId
      (refuse .receiptTimeRegression "monotonic receipt time regressed")
  else
    let received := { state with lastReceiptMonotonicNs := some envelope.receivedAtMonotonicNs }
    match place runtime memory received.evidence observation nowNs with
    | .error refusal => received.decline observation.observationId refusal
    | .ok placement =>
      received.accept memory.config envelope observation.observationId placement

/-- `ingest`. -/
def WorkingState.ingest (runtime : WorkingRuntime) (memory : WorkingMemory)
    (observation : Observation p) (nowNs receivedAtMonotonicNs : Int) (state : WorkingState p) :
    Except WorkingFault (IngestionResult × WorkingState p) := do
  let rebuilt ← (rebuildObservation runtime.normalize observation).mapError .world
  let envelope ← EvidenceEnvelope.build runtime.normalize rebuilt receivedAtMonotonicNs
  let advanced ← state.advanceTime memory.config nowNs
  pure (advanced.receive runtime memory rebuilt envelope nowNs.toNat)

end Ingestion

end Working
end AyyoHumanoid
