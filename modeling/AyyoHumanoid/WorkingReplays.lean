import AyyoHumanoid.PlatformDigests
import AyyoHumanoid.WorkingDuplicates
import AyyoHumanoid.WorldIdentities

/-!
# A batch that is brought back

Two producers interpret one frame and each has one batch. With room for one
batch, the batch with the earlier result is evicted at once. Another observation
fills the recent evidence, so the memory holds nothing of the evicted batch; yet
when it comes again it is reported as retained.
-/

namespace AyyoHumanoid
namespace Working

open PyText JsonText PyCollections World

section Fixture

/-- A camera. -/
def camera : SensorIdentity := ⟨⟨py "camera", by decide⟩, .rgbCamera, ⟨py "optical", by decide⟩⟩

/-- Test evidence is not recorded. -/
theorem testSource_recorded : ObservationSourceKind.testFixture = .recordedData →
    ObservationTransport.direct = .recorded := by
  intro heq
  cases heq

/-- The source of test evidence. -/
def testSource : ObservationProvenance where
  sourceKind := .testFixture
  sourceId := ⟨py "test", by decide⟩
  clock := .testTime
  transport := .direct
  interface := ⟨py "test", by decide⟩
  clock_eq := rfl
  recorded := testSource_recorded

/-- One of two producers. -/
def producer (second : Bool) : VisualInterpretationProducer where
  producerId := if second then ⟨py "second", by decide⟩ else ⟨py "first", by decide⟩
  kind := .testFixture
  modelId := ⟨py "model", by decide⟩
  adapterId := ⟨py "adapter", by decide⟩
  interface := ⟨py "test", by decide⟩

/-- The availability tells the evidence of the two producers apart. -/
def availability (second : Bool) : SensorAvailability := if second then .degraded else .available

/-- Evidence of both bears a measurement. -/
theorem measuring (second : Bool) : (availability second).Measuring := by
  cases second <;> decide

/-- The second result is later. -/
def resultTime (second : Bool) : Nat := if second then 120 else 110

/-- The results follow the frame. -/
theorem resultTime_bounded (second : Bool) :
    100 ≤ resultTime second ∧ resultTime second ≤ maxObservationTimeNs := by
  cases second <;> decide

/-- A memory with room for one of everything. -/
def tightConfig : WorkingMemoryConfig where
  robotId := ayyoRobotId
  sourceClock := .testTime
  allowedProvenance := [testSource]
  sensors := [camera]
  freshnessNs := 1
  retentionTtlNs := 1000
  permittedFutureSkewNs := 0
  recentEvidenceCapacity := 1
  environmentEntityCapacity := 1
  semanticEvidenceCapacity := 1
  visualInterpretationProducers := [producer false, producer true]
  visualEvaluationRequirements := []
  profiles := by decide
  one_clock := by decide
  few_sensors := by decide
  ordered := List.pairwise_singleton _ _
  interval := by decide
  skew := by decide
  recent_capacity := by decide
  entity_capacity := by decide
  semantic_capacity := by decide
  producers := by decide
  requirements := by decide
  required := nofun

/-- The memory, of a robot with one joint. -/
def tightMemory : WorkingMemory where
  catalog := {
    robotId := ayyoRobotId
    joints := [{
      jointName := ⟨py "joint", by decide⟩
      jointType := .fixed
      lower := none
      upper := none
      velocityLimit := none
      effortLimit := none
      ranged := by decide
      proper := by decide
      positive := ⟨nofun, nofun⟩ }]
    bounded := by decide
    ordered := List.pairwise_singleton _ _ }
  config := tightConfig
  robot_eq := rfl

/-- Health of the camera, observed after the frame. -/
def cameraHealth : SensorHealthObservation where
  robotId := ayyoRobotId
  sensor := camera
  availability := .available
  observedAtNs := 101
  provenance := testSource
  evidenceDetail := []
  bounded := by decide
  detail := by decide
  encodable := rfl

/-- Zeroes are a digest. -/
theorem zeroes_hex : IsHexDigest (List.replicate 64 48) := by
  decide

/-- One pixel of three bytes fits. -/
theorem pixel_fits : ImageFits 3 1 1 3 := by
  decide

/-- Available evidence bears a measurement. -/
theorem available_measuring : SensorAvailability.available.Measuring :=
  Or.inl rfl

/-- The time of the frame is bounded. -/
theorem frame_bounded : 1 ≤ 100 ∧ 100 ≤ maxObservationTimeNs := by
  decide

/-- A frame of one pixel. -/
def frame : VisualFrameObservation where
  robotId := ayyoRobotId
  sensor := camera
  width := 1
  height := 1
  step := 3
  isBigendian := false
  calibrationId := ⟨⟨List.replicate 64 48, zeroes_hex⟩⟩
  observedAtNs := 100
  provenance := testSource
  availability := .available
  sensor_kind := rfl
  fits := pixel_fits
  bounded := frame_bounded
  measuring := available_measuring

variable (p : Platform)

/-- A label. -/
def cupLabel : Label := ⟨py "cup", by decide⟩

/-- The label is not the one of persons. -/
theorem cupLabel_ne : cupLabel.text ≠ SemanticKind.person.value := by
  decide

/-- `0.0` is the text of a float. -/
theorem lowEdge_isFloat : isFloatToken (py "0.0") = true := by
  decide

/-- `1.0` is the text of a float. -/
theorem highEdge_isFloat : isFloatToken (py "1.0") = true := by
  decide

/-- The edge where an image begins. -/
def lowEdge : FloatToken := ⟨py "0.0", lowEdge_isFloat⟩

/-- The edge where an image ends. -/
def highEdge : FloatToken := ⟨py "1.0", highEdge_isFloat⟩

/-- A cup in the whole frame. -/
def detection : VisualDetection where
  sourceVisualObservationId := frame.observationId p
  category := .object
  label := cupLabel
  region := {
    xMin := lowEdge
    yMin := lowEdge
    xMax := highEdge
    yMax := highEdge
    inside := by decide }
  confidence := none

/-- What a producer sees in the frame. -/
def interpretation (second : Bool) : VisualInterpretationObservation p where
  robotId := ayyoRobotId
  sensor := camera
  referenceFrameId := camera.frameId
  sourceVisualObservationId := frame.observationId p
  sourceVisualFingerprint := frame.fingerprint p
  observedAtNs := 100
  resultAtNs := resultTime second
  producer := producer second
  evaluationReference := none
  detections := [detection p]
  provenance := testSource
  availability := availability second
  sensor_kind := rfl
  frame_eq := rfl
  source_kind := rfl
  source_eq := rfl
  bounded := resultTime_bounded second
  evaluated := fun _ h => nomatch h
  few := Nat.le_of_ble_eq_true rfl
  ordered := List.pairwise_singleton _ _
  sourced := List.forall_mem_singleton.mpr rfl
  measuring := measuring second

/-- What the facts of a producer share. -/
def batchSource (second : Bool) : SemanticSource where
  robotId := ayyoRobotId
  sensor := camera
  referenceFrameId := camera.frameId
  sourceVisualObservationId := frame.observationId p
  sourceVisualFingerprint := frame.fingerprint p
  sourceInterpretationObservationId := (interpretation p second).observationId
  sourceInterpretationFingerprint := (interpretation p second).fingerprint
  observedAtNs := 100
  resultAtNs := resultTime second
  producer := producer second
  evaluationReferenceSha256 := none
  provenance := testSource
  availability := availability second

/-- The fact with some identity. -/
def cupWith (id : SemanticObservationId) (hkind : id.kind = .object) : SemanticEvidenceItem where
  kind := .object
  sourceSemanticObservationId := id
  sourceDetectionId := (detection p).detectionId p
  region := (detection p).region
  confidence := none
  category := some (detection p).label
  id_kind := hkind
  categorized := ⟨_, rfl, cupLabel_ne⟩

/-- The identity of the fact of a producer. -/
def cupId (second : Bool) : SemanticObservationId :=
  semanticSourceObservationId p (batchSource p second)
    (cupWith p ⟨.object, ⟨List.replicate 64 48, zeroes_hex⟩⟩ rfl)

/-- The batch of a producer. -/
def batch (second : Bool) : SemanticEvidenceObservation p where
  source := batchSource p second
  items := [cupWith p (cupId p second) rfl]
  sensor_kind := rfl
  frame_eq := rfl
  visual_source := ⟨rfl, rfl⟩
  interpretation_source := ⟨rfl, rfl⟩
  bounded := resultTime_bounded second
  some_items := ⟨List.cons_ne_nil _ _, Nat.le_of_ble_eq_true rfl⟩
  ordered := rfl
  unique := ⟨List.nodup_singleton _, List.nodup_singleton _⟩
  derived := List.forall_mem_singleton.mpr rfl
  measuring := measuring second

/-- The observations of the run, in their order, and the batch that is brought back. -/
def story : List (Observation p) :=
  [.sensorHealth cameraHealth, .visualFrame frame, .visualInterpretation (interpretation p false),
    .visualInterpretation (interpretation p true), .semanticEvidence (batch p true),
    .semanticEvidence (batch p false)]

/-- The run: every observation is ingested at one time. -/
def storyCalls : List (WorkingCall p) := (story p).map fun observation => .ingest observation 200 0

/-- A runtime with exact limits and rotations. -/
def plainRuntime : WorkingRuntime := ⟨⟨id, id⟩, some⟩

end Fixture

section Steps

variable {p : Platform} {state : WorkingState p} {evidence after : Evidence p}
  {observation : Observation p} {placement : Placement p}

/-- The memory has the evidence, and no time beyond the one of the run. -/
structure Stands (state : WorkingState p) (evidence : Evidence p) : Prop where
  holding : state.evidence = evidence
  clock : ∀ last ∈ state.lastNowNs, last ≤ 200
  /-- The receipt time. -/
  receipt : ∀ last ∈ state.lastReceiptMonotonicNs, last ≤ 0

/-- The evidence has its sources. -/
def AllSourced (evidence : Evidence p) : Prop :=
  ∀ observationId batch, evidence.semanticEvidence.get? observationId = some batch →
    evidence.Sourced batch

/-- Sourced evidence loses no orphans. -/
theorem dropOrphans_eq_self (h : AllSourced evidence) : evidence.dropOrphans = evidence := by
  rw [Evidence.dropOrphans, PyDict.keep_eq_self h]

/-- Nothing expires before the retention interval is over. -/
theorem purge_eq_self {config : WorkingMemoryConfig} {nowNs : Nat}
    (hearly : nowNs ≤ config.retentionTtlNs) (h : AllSourced evidence) :
    evidence.purge config nowNs = evidence := by
  have hthreshold : ∀ time : Nat, ((nowNs : Int) - config.retentionTtlNs) ≤ time := by
    intro time
    omega
  have hpose : (evidence.poseEvidence.filter fun o =>
      decide (((nowNs : Int) - config.retentionTtlNs) ≤ o.observedAtNs)) =
        evidence.poseEvidence := by
    cases evidence.poseEvidence with
    | none => rfl
    | some o => simp [Option.filter, hthreshold]
  have hkept : evidence.keepFrom ((nowNs : Int) - config.retentionTtlNs) = evidence := by
    rw [Evidence.keepFrom, hpose]
    simp only [PyDict.keep_eq_self fun _ _ _ => hthreshold _]
    rw [List.filter_eq_self.mpr fun item _ => decide_eq_true (hthreshold _)]
  rw [Evidence.purge, hkept, dropOrphans_eq_self h]

/-- An observation that is placed is accepted. -/
theorem Stands.accepts {memory : WorkingMemory} (h : Stands state evidence)
    (hsourced : AllSourced evidence) (hlong : 200 ≤ memory.config.retentionTtlNs)
    (hrebuilt : rebuildObservation plainRuntime.normalize observation = .ok observation)
    (hplace : place plainRuntime memory evidence observation 200 = .ok placement) :
    ∃ result later, state.ingest plainRuntime memory observation 200 0 = .ok (result, later) ∧
      result.status = .accepted ∧
      Stands later (placement.evidence.bound memory.config ⟨observation, 0⟩).dropOrphans := by
  have hpurge : state.evidence.purge memory.config (200 : Int).toNat = evidence := by
    rw [h.holding]
    exact purge_eq_self hlong hsourced
  have hbuilt : EvidenceEnvelope.build plainRuntime.normalize observation 0 =
      .ok ⟨observation, 0⟩ := build_ok.mpr ⟨hrebuilt, by decide, rfl⟩
  have hclock : ∀ last ∈ state.lastNowNs, ¬(200 : Int) < last := by
    intro last hlast
    have hle := h.clock last hlast
    omega
  let advanced : WorkingState p := { state with
    evidence := state.evidence.purge memory.config (200 : Int).toNat
    lastNowNs := some (200 : Int).toNat }
  have hadvance : state.advanceTime memory.config 200 = .ok advanced :=
    advanceTime_ok.mpr ⟨by decide, hclock, rfl⟩
  have hreceipt : ¬∃ last ∈ advanced.lastReceiptMonotonicNs, 0 < last := by
    rintro ⟨last, hlast, hless⟩
    have hle := h.receipt last hlast
    omega
  have hingest : state.ingest plainRuntime memory observation 200 0 =
      .ok (advanced.receive plainRuntime memory observation ⟨observation, 0⟩ 200) := by
    simp only [WorkingState.ingest, Checks.bind_ok, Checks.mapError_ok, Checks.pure_ok]
    exact ⟨observation, hrebuilt, _, hbuilt, advanced, hadvance, rfl⟩
  have hplaced : place plainRuntime memory advanced.evidence observation 200 =
      .ok placement := by
    rw [← hplace, ← hpurge]
  rw [hingest, WorkingState.receive, if_neg hreceipt]
  simp only [hplaced]
  exact ⟨_, _, rfl, rfl, rfl, fun last hlast => by cases hlast; decide,
    fun last hlast => by cases hlast; rfl⟩

/-- After the call of a placed observation the memory stands at what the placement left. -/
theorem Stands.ingest (h : Stands state evidence) (hsourced : AllSourced evidence)
    (hrebuilt : rebuildObservation plainRuntime.normalize observation = .ok observation)
    (hplace : place plainRuntime tightMemory evidence observation 200 = .ok placement)
    (hafter : (placement.evidence.bound tightConfig ⟨observation, 0⟩).dropOrphans = after) :
    Stands (state.apply plainRuntime tightMemory (.ingest observation 200 0)) after := by
  obtain ⟨result, later, hingest, -, hlater⟩ := h.accepts hsourced (by decide) hrebuilt hplace
  rw [WorkingState.apply, hingest, ← hafter]
  exact hlater

/-- An observation of the camera passes the checks of the configuration. -/
theorem checkSource_tight (hrobot : observation.robotId = ayyoRobotId)
    (hprovenance : observation.provenance = testSource)
    (hsensor : observation.sensor? = some camera) (htime : observation.observedAtNs ≤ 200)
    (hresult : ∀ result ∈ resultAtNs? observation, result ≤ 200) :
    checkSource tightConfig observation 200 = .ok () := by
  simp only [checkSource, Checks.unit_bind_ok, Checks.require_ok]
  refine ⟨hrobot, ?_, ?_, ?_, ?_, ?_⟩
  · rw [hprovenance]
    exact List.mem_singleton.mpr rfl
  · intro sensor hmem
    rw [hsensor] at hmem
    cases hmem
    exact List.find?_cons_of_pos (decide_eq_true rfl)
  · have hskew : tightConfig.permittedFutureSkewNs = 0 := rfl
    omega
  · intro result hmem
    have hle := hresult result hmem
    omega
  · have hretention : tightConfig.retentionTtlNs = 1000 := rfl
    omega

/-- A new observation that passes the checks is placed. -/
theorem place_of_new (hsource : checkSource tightConfig observation 200 = .ok ())
    (hnew : observation.observationId ∉ evidence.knownIds)
    (hplace : placeNew plainRuntime tightMemory evidence observation = .ok placement) :
    place plainRuntime tightMemory evidence observation 200 = .ok placement := by
  rw [place, Checks.unit_bind_ok, Checks.require_bind_ok]
  exact ⟨hsource, hnew, hplace⟩

/-- The envelope of the camera's health. -/
def healthEnvelope : EvidenceEnvelope p := ⟨.sensorHealth cameraHealth, 0⟩

/-- The camera's health is later than the other evidence and stays the recent one. -/
theorem remember_health (htime : observation.observedAtNs = 100) :
    remember 1 [healthEnvelope] ⟨observation, 0⟩ = [healthEnvelope] := by
  have hless : ¬recentOrder (healthEnvelope : EvidenceEnvelope p) ≤ recentOrder ⟨observation, 0⟩ := by
    rw [not_le, recentOrder, recentOrder, Prod.Lex.toLex_lt_toLex]
    refine Or.inl ?_
    rw [htime]
    exact (by decide : 100 < 101)
  simp [remember, sortBy, List.insertionSort, List.orderedInsert, hless]

/-- Evidence that fits stays as it is. -/
theorem bound_tight (hrecent : evidence.recent = [healthEnvelope])
    (hentity : evidence.entityEvidence.size ≤ 1) (hsemantic : evidence.semanticEvidence.size ≤ 1)
    (htime : observation.observedAtNs = 100) :
    evidence.bound tightConfig ⟨observation, 0⟩ = evidence := by
  have hkept := remember_health htime
  rw [← hrecent] at hkept
  rw [Evidence.bound]
  have hentities : evidence.entityEvidence.keepGreatest (entityRank p)
      tightConfig.environmentEntityCapacity = evidence.entityEvidence :=
    PyDict.keepGreatest_eq_self hentity
  have hbatches : evidence.semanticEvidence.keepGreatest semanticRank
      tightConfig.semanticEvidenceCapacity = evidence.semanticEvidence :=
    PyDict.keepGreatest_eq_self hsemantic
  have hcapacity : tightConfig.recentEvidenceCapacity = 1 := rfl
  rw [hentities, hbatches, hcapacity, hkept]

end Steps

section Story

variable (p : Platform)

/-- The evidence after the camera's health. -/
def heldHealth : Evidence p := { Evidence.empty with
  healthEvidence := PyDict.empty.set camera.sensorId cameraHealth
  recent := [healthEnvelope] }

/-- The evidence after the frame. -/
def heldFrame : Evidence p := { heldHealth p with
  visualEvidence := PyDict.empty.set camera.sensorId frame }

/-- The evidence after the first interpretation. -/
def heldFirst : Evidence p := { heldFrame p with
  visualInterpretationEvidence := PyDict.empty.set
    (camera.sensorId, (producer false).producerId) (interpretation p false) }

/-- The evidence after both interpretations. -/
def heldBoth : Evidence p := { heldFrame p with
  visualInterpretationEvidence := (heldFirst p).visualInterpretationEvidence.set
    (camera.sensorId, (producer true).producerId) (interpretation p true) }

/-- The watermark of a batch. -/
def mark (second : Bool) : Nat × ObservationId :=
  (resultTime second, (batch p second).fingerprint.observationId)

/-- The evidence after the batch with the later result. -/
def heldBatch : Evidence p := { heldBoth p with
  semanticEvidence := PyDict.empty.set (batch p true).fingerprint.observationId (batch p true)
  semanticWatermarks := PyDict.empty.set (sourceKey (batch p true)) (mark p true) }

/-- The evidence after both batches: only the watermark shows the earlier one. -/
def heldMark : Evidence p := { heldBatch p with
  semanticWatermarks := (heldBatch p).semanticWatermarks.set (sourceKey (batch p false))
    (mark p false) }

/-- The observations of the run have identities of their own. -/
structure Distinct (p : Platform) : Prop where
  frame : Working.frame.observationId p ≠
    (Observation.sensorHealth cameraHealth : Observation p).observationId
  interpretation : ∀ second, (Working.interpretation p second).observationId ∉
    [Working.frame.observationId p,
      (Observation.sensorHealth cameraHealth : Observation p).observationId]
  /-- The two interpretations. -/
  interpretations : (Working.interpretation p false).observationId ≠
    (Working.interpretation p true).observationId
  batch : ∀ second, (Working.batch p second).fingerprint.observationId ∉
    [Working.frame.observationId p, (Working.interpretation p false).observationId,
      (Working.interpretation p true).observationId,
      (Observation.sensorHealth cameraHealth : Observation p).observationId]
  /-- The two batches. -/
  batches : (Working.batch p false).fingerprint.observationId ≠
    (Working.batch p true).fingerprint.observationId

variable {p} {state : WorkingState p}

/-- The producers are in the catalog. -/
theorem producer_listed : ∀ second, tightConfig.visualInterpretationProducers.find?
    (fun candidate => candidate.producerId = (producer second).producerId) =
      some (producer second) := by
  decide

/-- The frame is looked up. -/
theorem frame_lookup {evidence : Evidence p}
    (hvisual : evidence.visualEvidence = PyDict.empty.set camera.sensorId frame)
    (hrecent : evidence.recent = [healthEnvelope]) :
    evidence.frames = [frame] ∧
      evidence.retainedVisualSources.get? (frame.observationId p) = some frame := by
  have hframes : evidence.frames = [frame] := by
    rw [Evidence.frames, hvisual, hrecent]
    rfl
  rw [Evidence.retainedVisualSources, hframes]
  exact ⟨rfl, PyDict.get?_set_self⟩

/-- Both interpretations are looked up. -/
theorem interpretation_lookup {evidence : Evidence p} (hne : (interpretation p false).observationId ≠
      (interpretation p true).observationId)
    (hinterpretations : evidence.visualInterpretationEvidence =
      (heldBoth p).visualInterpretationEvidence) (hrecent : evidence.recent = [healthEnvelope])
    (second : Bool) :
    evidence.retainedVisualInterpretations.get? (interpretation p second).observationId =
      some (interpretation p second) := by
  have hvalues : (heldBoth p).visualInterpretationEvidence.values =
      [interpretation p false, interpretation p true] := rfl
  have hlist : evidence.interpretations = [interpretation p false, interpretation p true] := by
    rw [Evidence.interpretations, hinterpretations, hrecent, hvalues]
    rfl
  rw [Evidence.retainedVisualInterpretations, hlist]
  cases second with
  | true => exact PyDict.get?_set_self
  | false =>
    have hother : ((PyDict.empty.set (interpretation p false).observationId
        (interpretation p false)).set (interpretation p true).observationId
          (interpretation p true)).get? (interpretation p false).observationId =
        (PyDict.empty.set (interpretation p false).observationId
          (interpretation p false)).get? (interpretation p false).observationId :=
      PyDict.get?_set_of_ne hne
    rw [PyDict.get?_set_self] at hother
    exact hother

/-- A batch passes the checks when the frame and the interpretations are retained. -/
theorem checkSemantic_tight {evidence : Evidence p} (hne : (interpretation p false).observationId ≠
      (interpretation p true).observationId)
    (hvisual : evidence.visualEvidence = PyDict.empty.set camera.sensorId frame)
    (hinterpretations : evidence.visualInterpretationEvidence =
      (heldBoth p).visualInterpretationEvidence) (hrecent : evidence.recent = [healthEnvelope])
    (second : Bool) : checkSemantic tightConfig evidence (batch p second) = .ok () := by
  have hfound := interpretation_lookup hne hinterpretations hrecent second
  have hframe := (frame_lookup hvisual hrecent).2
  have hproducer : tightConfig.visualInterpretationProducers.find? (fun candidate =>
      candidate.producerId = (batch p second).source.producer.producerId) =
        some (batch p second).source.producer := producer_listed second
  have hrepeats : RepeatsInterpretation (batch p second).source (interpretation p second) :=
    ⟨rfl, rfl, rfl, rfl, rfl, rfl, rfl, rfl, rfl, rfl, rfl, rfl⟩
  have hsource : ∃ frame ∈ evidence.retainedVisualSources.get?
      (batch p second).source.sourceVisualObservationId,
        RepeatsFrame p (batch p second).source frame :=
    ⟨frame, hframe, rfl, rfl, rfl, rfl, rfl⟩
  have hitem : ItemMatches (batch p second).source (interpretation p second)
      (cupWith p (cupId p second) rfl) :=
    ⟨detection p, List.find?_cons_of_pos (decide_eq_true rfl), ⟨rfl, rfl⟩, rfl, rfl, rfl⟩
  rw [checkSemantic, Checks.unit_bind_ok]
  refine ⟨Checks.require_ok.mpr hproducer, ?_⟩
  have hid : (batch p second).source.sourceInterpretationObservationId =
      (interpretation p second).observationId := rfl
  rw [hid, hfound]
  simp only [Checks.unit_bind_ok, Checks.require_ok]
  refine ⟨hrepeats, hsource, Checks.forM_ok.mpr ?_⟩
  intro item hmem
  rw [List.mem_singleton.mp hmem]
  exact Checks.require_ok.mpr hitem

/-- Without batches there is nothing to source. -/
theorem allSourced_empty {evidence : Evidence p} (h : evidence.semanticEvidence = .empty) :
    AllSourced evidence := by
  intro observationId batch hbatch
  rw [h] at hbatch
  cases hbatch

/-- The retained batch has its sources. -/
theorem allSourced_batch {evidence : Evidence p} (hne : (interpretation p false).observationId ≠
      (interpretation p true).observationId)
    (hvisual : evidence.visualEvidence = PyDict.empty.set camera.sensorId frame)
    (hinterpretations : evidence.visualInterpretationEvidence =
      (heldBoth p).visualInterpretationEvidence) (hrecent : evidence.recent = [healthEnvelope])
    (hbatches : evidence.semanticEvidence = (heldBatch p).semanticEvidence) :
    AllSourced evidence := by
  intro observationId other hother
  have hstored : other = batch p true := by
    rw [hbatches, heldBatch, PyDict.get?_set] at hother
    split at hother
    · exact (Option.some.inj hother).symm
    · cases hother
  have hfound := interpretation_lookup hne hinterpretations hrecent true
  have hframe := (frame_lookup hvisual hrecent).2
  rw [hstored]
  exact ⟨PyDict.mem_keys.mpr ⟨frame, hframe⟩, PyDict.mem_keys.mpr ⟨interpretation p true, hfound⟩⟩

/-- A reset memory stands empty. -/
theorem stands_reset : Stands (.reset : WorkingState p) .empty where
  holding := rfl
  clock := fun _ hlast => nomatch hlast
  receipt := fun _ hlast => nomatch hlast

/-- The first step: the camera's health. -/
theorem stands_health : Stands ((WorkingState.reset : WorkingState p).apply plainRuntime tightMemory
    (.ingest (.sensorHealth cameraHealth) 200 0)) (heldHealth p) := by
  have hearly : 101 ≤ 200 := by decide
  have hsource : checkSource tightConfig (.sensorHealth cameraHealth : Observation p) 200 =
      .ok () := checkSource_tight rfl rfl rfl hearly (fun _ hresult => nomatch hresult)
  exact stands_reset.ingest (allSourced_empty rfl) rfl
    (place_of_new hsource List.not_mem_nil rfl) rfl

/-- The second step: the frame. -/
theorem stands_frame (hdistinct : Distinct p) (h : Stands state (heldHealth p)) :
    Stands (state.apply plainRuntime tightMemory (.ingest (.visualFrame frame) 200 0))
      (heldFrame p) := by
  have hearly : 100 ≤ 200 := by decide
  have hsource : checkSource tightConfig (.visualFrame frame : Observation p) 200 = .ok () :=
    checkSource_tight rfl rfl rfl hearly (fun _ hresult => nomatch hresult)
  have hnew : (Observation.visualFrame frame : Observation p).observationId ∉
      (heldHealth p).knownIds := by
    have hknown : (heldHealth p).knownIds =
        [(Observation.sensorHealth cameraHealth : Observation p).observationId,
          (Observation.sensorHealth cameraHealth : Observation p).observationId] := rfl
    have hne := hdistinct.frame
    have hid : (Observation.visualFrame frame : Observation p).observationId =
      frame.observationId p := rfl
    rw [hknown, hid]
    simp [hne]
  refine h.ingest (allSourced_empty rfl) rfl (place_of_new hsource hnew rfl) ?_
  have hbound : (heldFrame p).bound tightConfig ⟨.visualFrame frame, 0⟩ = heldFrame p :=
    bound_tight rfl (Nat.zero_le _) (Nat.zero_le _) rfl
  exact (congrArg Evidence.dropOrphans hbound).trans (dropOrphans_eq_self (allSourced_empty rfl))

/-- An interpretation is placed when its producer has none. -/
theorem place_interpretation {evidence : Evidence p} (second : Bool)
    (hvisual : evidence.visualEvidence = PyDict.empty.set camera.sensorId frame)
    (hrecent : evidence.recent = [healthEnvelope])
    (hfirst : evidence.visualInterpretationEvidence.get?
      (camera.sensorId, (producer second).producerId) = none) :
    placeNew plainRuntime tightMemory evidence (.visualInterpretation (interpretation p second)) =
      .ok ⟨evidence.store (.visualInterpretation (interpretation p second)),
        [(Slot.interpretation (camera.sensorId, (producer second).producerId)).key ayyoRobotId],
        false⟩ := by
  have hframes : sourceFrames evidence (interpretation p second) = [frame] := by
    rw [sourceFrames, (frame_lookup hvisual hrecent).1]
    exact List.filter_cons_of_pos (decide_eq_true rfl)
  have hchecked : checkInterpretation tightConfig evidence (interpretation p second) = .ok () := by
    rw [checkInterpretation, Checks.unit_bind_ok]
    refine ⟨Checks.require_ok.mpr (producer_listed second), ?_⟩
    have hreference : (interpretation p second).evaluationReference = none := rfl
    rw [hreference]
    simp only [Checks.unit_bind_ok, Checks.require_ok]
    refine ⟨?_, ?_⟩
    · rfl
    · rw [hframes]
      exact ⟨List.cons_ne_nil _ _, List.forall_mem_singleton.mpr ⟨rfl, rfl, rfl, rfl, rfl⟩⟩
  have hcurrent : evidence.current (.interpretation (camera.sensorId, (producer second).producerId)) =
      none := by
    rw [Evidence.current, hfirst]
    rfl
  have hsensor : checkSensor tightConfig evidence
      (.visualInterpretation (interpretation p second)) = .ok () := hchecked
  change placeSensor tightConfig evidence _
    (.interpretation (camera.sensorId, (producer second).producerId)) = _
  rw [placeSensor, hsensor, hcurrent]
  rfl

/-- The third step: the first interpretation. -/
theorem stands_first (hdistinct : Distinct p) (h : Stands state (heldFrame p)) :
    Stands (state.apply plainRuntime tightMemory
      (.ingest (.visualInterpretation (interpretation p false)) 200 0)) (heldFirst p) := by
  have hearly : 100 ≤ 200 := by decide
  have hresult : 110 ≤ 200 := by decide
  have hsource : checkSource tightConfig (.visualInterpretation (interpretation p false)) 200 =
      .ok () := by
    refine checkSource_tight rfl rfl rfl hearly ?_
    intro result hmem
    rw [← Option.some.inj hmem]
    exact hresult
  have hnew : (Observation.visualInterpretation (interpretation p false)).observationId ∉
      (heldFrame p).knownIds := by
    have hknown : (heldFrame p).knownIds =
        [frame.observationId p, (Observation.sensorHealth cameraHealth : Observation p).observationId,
          (Observation.sensorHealth cameraHealth : Observation p).observationId] := rfl
    have hne := hdistinct.interpretation false
    have hid : (Observation.visualInterpretation (interpretation p false)).observationId =
      (interpretation p false).observationId := rfl
    rw [hknown, hid]
    simpa using hne
  refine h.ingest (allSourced_empty rfl) rfl
    (place_of_new hsource hnew (place_interpretation false rfl rfl rfl)) ?_
  have hbound : (heldFirst p).bound tightConfig
      ⟨.visualInterpretation (interpretation p false), 0⟩ = heldFirst p :=
    bound_tight rfl (Nat.zero_le _) (Nat.zero_le _) rfl
  exact (congrArg Evidence.dropOrphans hbound).trans (dropOrphans_eq_self (allSourced_empty rfl))

/-- The fourth step: the second interpretation. -/
theorem stands_both (hdistinct : Distinct p) (h : Stands state (heldFirst p)) :
    Stands (state.apply plainRuntime tightMemory
      (.ingest (.visualInterpretation (interpretation p true)) 200 0)) (heldBoth p) := by
  have hearly : 100 ≤ 200 := by decide
  have hresult : 120 ≤ 200 := by decide
  have hsource : checkSource tightConfig (.visualInterpretation (interpretation p true)) 200 =
      .ok () := by
    refine checkSource_tight rfl rfl rfl hearly ?_
    intro result hmem
    rw [← Option.some.inj hmem]
    exact hresult
  have hnew : (Observation.visualInterpretation (interpretation p true)).observationId ∉
      (heldFirst p).knownIds := by
    have hknown : (heldFirst p).knownIds =
        [frame.observationId p, (interpretation p false).observationId,
          (Observation.sensorHealth cameraHealth : Observation p).observationId,
          (Observation.sensorHealth cameraHealth : Observation p).observationId] := rfl
    have hne := hdistinct.interpretation true
    have hother := hdistinct.interpretations
    have hid : (Observation.visualInterpretation (interpretation p true)).observationId =
      (interpretation p true).observationId := rfl
    rw [hknown, hid]
    simp only [List.mem_cons, List.not_mem_nil, or_false, not_or] at hne ⊢
    exact ⟨hne.1, hother.symm, hne.2, hne.2⟩
  refine h.ingest (allSourced_empty rfl) rfl
    (place_of_new hsource hnew (place_interpretation true rfl rfl rfl)) ?_
  have hbound : (heldBoth p).bound tightConfig
      ⟨.visualInterpretation (interpretation p true), 0⟩ = heldBoth p :=
    bound_tight rfl (Nat.zero_le _) (Nat.zero_le _) rfl
  exact (congrArg Evidence.dropOrphans hbound).trans (dropOrphans_eq_self (allSourced_empty rfl))

/-- A batch is placed when its source has no watermark. -/
theorem place_batch {evidence : Evidence p} (second : Bool)
    (hchecked : checkSemantic tightConfig evidence (batch p second) = .ok ())
    (hmark : evidence.semanticWatermarks.get? (sourceKey (batch p second)) = none) :
    placeNew plainRuntime tightMemory evidence (.semanticEvidence (batch p second)) =
      .ok ⟨{ evidence.store (.semanticEvidence (batch p second)) with
        semanticWatermarks :=
          evidence.semanticWatermarks.set (sourceKey (batch p second)) (mark p second) },
        [(Slot.semantic (batch p second).fingerprint.observationId).key ayyoRobotId], false⟩ := by
  have hwatermark : checkWatermark evidence (batch p second) = .ok () := by
    rw [checkWatermark, hmark]
  change placeSemantic tightConfig evidence (batch p second) = _
  rw [placeSemantic, hchecked, hwatermark]
  rfl

/-- The identities that are known before a batch comes. -/
theorem knownIds_heldBoth : (heldBoth p).knownIds =
    [frame.observationId p, (interpretation p false).observationId,
      (interpretation p true).observationId,
      (Observation.sensorHealth cameraHealth : Observation p).observationId,
      (Observation.sensorHealth cameraHealth : Observation p).observationId] := rfl

/-- The identities that are known after the batch with the later result. -/
theorem knownIds_heldBatch : (heldBatch p).knownIds =
    [frame.observationId p, (interpretation p false).observationId,
      (interpretation p true).observationId,
      (Observation.sensorHealth cameraHealth : Observation p).observationId,
      (batch p true).fingerprint.observationId,
      (Observation.sensorHealth cameraHealth : Observation p).observationId] := rfl

/-- A batch passes the checks against the configuration. -/
theorem checkSource_batch (second : Bool) :
    checkSource tightConfig (.semanticEvidence (batch p second)) 200 = .ok () := by
  have hearly : 100 ≤ 200 := by decide
  have hresult : ∀ second, resultTime second ≤ 200 := by decide
  refine checkSource_tight rfl rfl rfl hearly ?_
  intro result hmem
  rw [← Option.some.inj hmem]
  exact hresult second

/-- The fifth step: the batch with the later result. -/
theorem stands_batch (hdistinct : Distinct p) (h : Stands state (heldBoth p)) :
    Stands (state.apply plainRuntime tightMemory (.ingest (.semanticEvidence (batch p true)) 200 0))
      (heldBatch p) := by
  have hchecked : checkSemantic tightConfig (heldBoth p) (batch p true) = .ok () :=
    checkSemantic_tight hdistinct.interpretations rfl rfl rfl true
  have hnew : (Observation.semanticEvidence (batch p true)).observationId ∉
      (heldBoth p).knownIds := by
    have hne := hdistinct.batch true
    have hid : (Observation.semanticEvidence (batch p true)).observationId =
      (batch p true).fingerprint.observationId := rfl
    rw [knownIds_heldBoth, hid]
    simp only [List.mem_cons, List.not_mem_nil, or_false, not_or] at hne ⊢
    exact ⟨hne.1, hne.2.1, hne.2.2.1, hne.2.2.2, hne.2.2.2⟩
  refine h.ingest (allSourced_empty rfl) rfl
    (place_of_new (checkSource_batch true) hnew (place_batch true hchecked rfl)) ?_
  have hbound : (heldBatch p).bound tightConfig ⟨.semanticEvidence (batch p true), 0⟩ =
      heldBatch p := bound_tight rfl (Nat.zero_le _) (Nat.le_refl _) rfl
  exact (congrArg Evidence.dropOrphans hbound).trans
    (dropOrphans_eq_self (allSourced_batch hdistinct.interpretations rfl rfl rfl rfl))

/-- Of both batches the one with the earlier result is evicted. -/
theorem keepGreatest_batches (hne : (batch p false).fingerprint.observationId ≠
      (batch p true).fingerprint.observationId) :
    ((heldBatch p).semanticEvidence.set (batch p false).fingerprint.observationId
      (batch p false)).keepGreatest semanticRank 1 = (heldBatch p).semanticEvidence := by
  have hless : semanticRank (batch p false).fingerprint.observationId (batch p false) <
      semanticRank (batch p true).fingerprint.observationId (batch p true) := by
    have hresult : 110 < 120 := by decide
    rw [semanticRank, semanticRank, Prod.Lex.toLex_lt_toLex]
    refine Or.inr ⟨rfl, ?_⟩
    rw [Prod.Lex.toLex_lt_toLex]
    exact Or.inl hresult
  have hentries : ((heldBatch p).semanticEvidence.set (batch p false).fingerprint.observationId
      (batch p false)).entries =
      [((batch p true).fingerprint.observationId, batch p true),
        ((batch p false).fingerprint.observationId, batch p false)] := by
    change PyDict.setEntries (batch p false).fingerprint.observationId (batch p false)
      [((batch p true).fingerprint.observationId, batch p true)] = _
    simp [PyDict.setEntries, hne.symm]
  have hexcess : ((heldBatch p).semanticEvidence.set (batch p false).fingerprint.observationId
      (batch p false)).excess semanticRank 1 = [(batch p false).fingerprint.observationId] := by
    rw [PyDict.excess, PyDict.size, hentries]
    simp [sortBy, List.insertionSort, List.orderedInsert, not_le.mpr hless]
  have hkept : (((heldBatch p).semanticEvidence.set (batch p false).fingerprint.observationId
      (batch p false)).keepGreatest semanticRank 1).entries =
        (heldBatch p).semanticEvidence.entries := by
    have hheld : (heldBatch p).semanticEvidence.entries =
      [((batch p true).fingerprint.observationId, batch p true)] := rfl
    rw [PyDict.keepGreatest, hexcess, hheld]
    simp only [PyDict.dropAll, PyDict.keep, hentries]
    simp [hne.symm]
  exact PyDict.eq_of_entries hkept

/-- The sixth step: the batch with the earlier result is accepted and evicted. -/
theorem stands_mark (hdistinct : Distinct p) (h : Stands state (heldBatch p)) :
    Stands (state.apply plainRuntime tightMemory (.ingest (.semanticEvidence (batch p false)) 200 0))
      (heldMark p) := by
  have hsourced : AllSourced (heldBatch p) :=
    allSourced_batch hdistinct.interpretations rfl rfl rfl rfl
  have hchecked : checkSemantic tightConfig (heldBatch p) (batch p false) = .ok () :=
    checkSemantic_tight hdistinct.interpretations rfl rfl rfl false
  have hnew : (Observation.semanticEvidence (batch p false)).observationId ∉
      (heldBatch p).knownIds := by
    have hne := hdistinct.batch false
    have hother := hdistinct.batches
    have hid : (Observation.semanticEvidence (batch p false)).observationId =
      (batch p false).fingerprint.observationId := rfl
    rw [knownIds_heldBatch, hid]
    simp only [List.mem_cons, List.not_mem_nil, or_false, not_or] at hne ⊢
    exact ⟨hne.1, hne.2.1, hne.2.2.1, hne.2.2.2, hother, hne.2.2.2⟩
  refine h.ingest hsourced rfl
    (place_of_new (checkSource_batch false) hnew (place_batch false hchecked rfl)) ?_
  have hremembered : remember 1 [healthEnvelope] ⟨.semanticEvidence (batch p false), 0⟩ =
      [healthEnvelope] := remember_health rfl
  have hbound : Evidence.bound tightConfig ⟨.semanticEvidence (batch p false), 0⟩
      { (heldBatch p).store (.semanticEvidence (batch p false)) with
        semanticWatermarks :=
          (heldBatch p).semanticWatermarks.set (sourceKey (batch p false)) (mark p false) } =
      heldMark p := by
    have hkept := keepGreatest_batches hdistinct.batches
    have hrecent : remember tightConfig.recentEvidenceCapacity (heldBatch p).recent
        ⟨.semanticEvidence (batch p false), 0⟩ = (heldMark p).recent := hremembered
    have hentities : (heldBatch p).entityEvidence.keepGreatest (entityRank p)
        tightConfig.environmentEntityCapacity = (heldMark p).entityEvidence :=
      PyDict.keepGreatest_eq_self (Nat.zero_le _)
    change ({ heldMark p with
      recent := remember tightConfig.recentEvidenceCapacity (heldBatch p).recent
        ⟨.semanticEvidence (batch p false), 0⟩
      entityEvidence := (heldBatch p).entityEvidence.keepGreatest (entityRank p)
        tightConfig.environmentEntityCapacity
      semanticEvidence := ((heldBatch p).semanticEvidence.set
        (batch p false).fingerprint.observationId (batch p false)).keepGreatest semanticRank 1 } :
          Evidence p) = heldMark p
    rw [hkept, hrecent, hentities]
    rfl
  exact (congrArg Evidence.dropOrphans hbound).trans
    (dropOrphans_eq_self (allSourced_batch hdistinct.interpretations rfl rfl rfl rfl))

/-- The run ends with the watermark of the evicted batch. -/
theorem stands_story (hdistinct : Distinct p) :
    Stands (stateAfter plainRuntime tightMemory (storyCalls p)) (heldMark p) := by
  have hframe := stands_frame hdistinct (stands_health (p := p))
  have hboth := stands_both hdistinct (stands_first hdistinct hframe)
  have hmark := stands_mark hdistinct (stands_batch hdistinct hboth)
  simp only [stateAfter, storyCalls, story, List.map_cons, List.map_nil, List.foldl_cons,
    List.foldl_nil]
  exact hmark

/-- The evicted batch is not held any more. -/
theorem not_holds_heldMark (hdistinct : Distinct p) :
    ¬Holds (heldMark p) (batch p false).fingerprint.observationId := by
  have hkeyed : KeyedBatches (stateAfter plainRuntime tightMemory (storyCalls p)).evidence :=
    keyedBatches_stateAfter (storyCalls p)
  rw [(stands_story hdistinct).holding] at hkeyed
  have hne := hdistinct.batch false
  have hother := hdistinct.batches
  have hknown : (heldMark p).knownIds =
      [frame.observationId p, (interpretation p false).observationId,
        (interpretation p true).observationId,
        (Observation.sensorHealth cameraHealth : Observation p).observationId,
        (batch p true).fingerprint.observationId,
        (Observation.sensorHealth cameraHealth : Observation p).observationId] := rfl
  rw [← mem_knownIds hkeyed, hknown]
  simp only [List.mem_cons, List.not_mem_nil, or_false, not_or] at hne ⊢
  exact ⟨hne.1, hne.2.1, hne.2.2.1, hne.2.2.2, hother, hne.2.2.2⟩

/-- The batch that comes again is brought back. -/
theorem bringsBack_batch (hdistinct : Distinct p) :
    BringsBack tightMemory (stateAfter plainRuntime tightMemory (storyCalls p))
      (.semanticEvidence (batch p false)) 200 0 (batch p false) := by
  have hstands := stands_story hdistinct
  have hsourced : AllSourced (heldMark p) :=
    allSourced_batch hdistinct.interpretations rfl rfl rfl rfl
  have hearly : (200 : Int).toNat ≤ tightConfig.retentionTtlNs := by decide
  have hpurge : (stateAfter plainRuntime tightMemory (storyCalls p)).evidence.purge
      tightMemory.config (200 : Int).toNat = heldMark p := by
    rw [hstands.holding]
    exact purge_eq_self hearly hsourced
  have hmarked : Marked (heldMark p) (batch p false) := PyDict.get?_set_self
  refine ⟨rfl, ⟨by decide, ?_⟩, ⟨by decide, ?_⟩, checkSource_batch false, ?_, ?_, ?_⟩
  · intro last hlast
    have hle := hstands.clock last hlast
    omega
  · intro last hlast
    have hle := hstands.receipt last hlast
    omega
  · rw [hpurge]
    exact checkSemantic_tight hdistinct.interpretations rfl rfl rfl false
  · rw [hstands.holding]
    exact hmarked
  · rw [hpurge]
    exact not_holds_heldMark hdistinct

end Story

section Digests

/-- A runtime whose digests depend on two characters of the text: of the kind and of the
availability of an observation. -/
def sampledPlatform : Platform := .sampled 34 100

/-- The texts of the run differ in these characters. -/
theorem samples_nodup :
    ((story sampledPlatform).map fun o => sampleText 34 100 o.text).Nodup := by
  decide

/-- Observations whose texts differ in these characters have different identities. -/
theorem observationId_ne {first second : Observation sampledPlatform}
    (hne : sampleText 34 100 first.text ≠ sampleText 34 100 second.text) :
    first.observationId ≠ second.observationId := by
  intro hid
  rw [Observation.observationId_eq, Observation.observationId_eq] at hid
  have htext : (digestOf sampledPlatform first.text).text =
      (digestOf sampledPlatform second.text).text :=
    congrArg (fun id : ObservationId => id.digest.text) hid
  exact hne (Platform.sampled_injective htext)

/-- The observations of the run have different identities. -/
theorem story_nodup : ((story sampledPlatform).map Observation.observationId).Nodup := by
  have hsamples := samples_nodup
  rw [List.Nodup, List.pairwise_map] at hsamples ⊢
  exact hsamples.imp observationId_ne

/-- Different identities of the observations are those that the run needs. -/
theorem distinct_of_nodup {p : Platform}
    (hnodup : ((story p).map Observation.observationId).Nodup) : Distinct p := by
  have hlist : (story p).map Observation.observationId =
      [(Observation.sensorHealth cameraHealth : Observation p).observationId,
        frame.observationId p, (interpretation p false).observationId,
        (interpretation p true).observationId, (batch p true).fingerprint.observationId,
        (batch p false).fingerprint.observationId] := rfl
  rw [hlist] at hnodup
  simp only [List.nodup_cons, List.mem_cons, List.not_mem_nil, or_false, not_or] at hnodup
  obtain ⟨hhealth, hframe, hfirst, hboth, hbatches, -⟩ := hnodup
  constructor
  · exact Ne.symm hhealth.1
  · intro second
    simp only [List.mem_cons, List.not_mem_nil, or_false, not_or]
    cases second with
    | false => exact ⟨Ne.symm hframe.1, Ne.symm hhealth.2.1⟩
    | true => exact ⟨Ne.symm hframe.2.1, Ne.symm hhealth.2.2.1⟩
  · exact hfirst.1
  · intro second
    simp only [List.mem_cons, List.not_mem_nil, or_false, not_or]
    cases second with
    | false => exact ⟨Ne.symm hframe.2.2.2, Ne.symm hfirst.2.2, Ne.symm hboth.2,
        Ne.symm hhealth.2.2.2.2⟩
    | true => exact ⟨Ne.symm hframe.2.2.1, Ne.symm hfirst.2.1, Ne.symm hboth.1,
        Ne.symm hhealth.2.2.2.1⟩
  · exact Ne.symm hbatches

/-- Not every reported duplicate is held. -/
theorem duplicate_not_held : ¬∀ (p : Platform) (runtime : WorkingRuntime) (memory : WorkingMemory)
    (calls : List (WorkingCall p)) (observation : Observation p)
    (nowNs receivedAtMonotonicNs : Int),
    DuplicateSound runtime memory (stateAfter runtime memory calls) observation nowNs
      receivedAtMonotonicNs := by
  intro hsound
  have hdistinct := distinct_of_nodup story_nodup
  have hkeyed : KeyedBatches (stateAfter plainRuntime tightMemory
      (storyCalls sampledPlatform)).evidence := keyedBatches_stateAfter _
  have hback := bringsBack_batch hdistinct
  have hnot : ¬DuplicateSound plainRuntime tightMemory
      (stateAfter plainRuntime tightMemory (storyCalls sampledPlatform))
      (.semanticEvidence (batch sampledPlatform false)) 200 0 :=
    hback.not_sound (hkeyed.purge tightMemory.config (200 : Int).toNat)
  exact hnot (hsound sampledPlatform plainRuntime tightMemory (storyCalls sampledPlatform)
    (.semanticEvidence (batch sampledPlatform false)) 200 0)

end Digests

end Working
end AyyoHumanoid
