import AyyoHumanoid.PerceptionIdentities
import AyyoHumanoid.PlatformDigests

/-!
# Eviction of a component

Provenance stays closed in exactly the runs that never evict the colour frame of
an outstanding pair. The run given here does: it authorizes a pair and then
admits more colour frames than are kept, and the oldest of them is the
component of the pair.
-/

namespace AyyoHumanoid
namespace Perception

open PyText JsonText World Rgbd

section Exactly

variable {p : Platform}

/-- Provenance is closed over a run exactly when no call of it evicts a component of an outstanding
pair, as long as digests do not collide. -/
theorem traced_iff_spared (config : PerceptionTrustConfig)
    (normalize : Quaternion → Option Quaternion) (calls : List (BoundaryCall p))
    (hcollisions : CollisionFree p (runTexts config calls)) :
    Traced config normalize calls ↔ ∀ done call rest, calls = done ++ call :: rest →
      ¬EvictsComponent config (stateAfter config normalize done) call :=
  traced_iff (determined_offered hcollisions)

end Exactly

section Sources

/-- A provenance of test evidence. -/
def fixtureProvenance (sourceId : Name) : ObservationProvenance where
  sourceKind := .testFixture
  sourceId := sourceId
  clock := .testTime
  transport := .direct
  interface := ⟨py "fixture", by decide⟩
  clock_eq := rfl
  recorded := fun hkind => nomatch hkind

/-- A source of test evidence that is not of body poses. -/
def fixtureSource (id : Name) (kind : SensorKind) (frameId : FrameId) (hkind : kind ≠ .bodyPose) :
    PerceptionSourceContract where
  sensor := ⟨id, kind, frameId⟩
  provenance := fixtureProvenance id
  poseSourceFrameId := none
  pose := iff_of_false (fun hne => hne rfl) hkind

/-- The colour camera. -/
def colourSource : PerceptionSourceContract :=
  fixtureSource ⟨py "rgb", by decide⟩ .rgbCamera ⟨py "rgb_optical", by decide⟩ nofun

/-- The depth camera. -/
def depthSource : PerceptionSourceContract :=
  fixtureSource ⟨py "depth", by decide⟩ .depthCamera ⟨py "depth_optical", by decide⟩ nofun

/-- The fusion of both. -/
def fusionSource : PerceptionSourceContract :=
  fixtureSource ⟨py "rgbd", by decide⟩ .rgbdFusion ⟨py "rgbd_frame", by decide⟩ nofun

/-- A digest. -/
def zeroDigest : Digest := ⟨List.replicate 64 48, by decide⟩

/-- What the depth camera's adapter seals under. -/
def depthRequirement : DepthTrustRequirement where
  sourceId := depthSource.provenance.sourceId
  robotId := ayyoRobotId
  sensor := depthSource.sensor
  producerId := ⟨py "depth-producer", by decide⟩
  producerImplementationSha256 := zeroDigest
  provenance := depthSource.provenance
  classification := .testFixture
  calibrationId := ⟨zeroDigest⟩
  calibrationRecordId := ⟨zeroDigest⟩
  sourceManifestId := ⟨zeroDigest⟩
  sensor_kind := rfl
  source_eq := rfl

/-- What the synchronizer pairs under. -/
def pairRequirement : FusionRequirement where
  robotId := ayyoRobotId
  fusionSensor := fusionSource.sensor
  rgbSensor := colourSource.sensor
  depthSensor := depthSource.sensor
  rgbProvenance := colourSource.provenance
  depthProvenance := depthSource.provenance
  fusionProvenance := fusionSource.provenance
  rgbProducerId := ⟨py "rgb-producer", by decide⟩
  depthProducerId := depthRequirement.producerId
  rgbProducerImplementationSha256 := zeroDigest
  depthProducerImplementationSha256 := zeroDigest
  rgbSourceFingerprintSha256 := zeroDigest
  depthSourceFingerprintSha256 := zeroDigest
  rgbCameraFrameId := ⟨py "rgb_mount", by decide⟩
  depthCameraFrameId := ⟨py "depth_mount", by decide⟩
  rgbCalibrationId := ⟨zeroDigest⟩
  depthCalibrationId := ⟨zeroDigest⟩
  pairingPolicyId := ⟨py "exact-time", by decide⟩
  pairingPolicyVersion := ⟨py "v1", by decide⟩
  robot_eq := rfl
  sensor_kinds := ⟨rfl, rfl, rfl⟩
  clock_eq := ⟨rfl, rfl⟩
  mounts := by decide

/-- The keys that a source covers. -/
theorem covers_single (source : PerceptionSourceContract) {α : Type} {requirement : α}
    {sources : List PerceptionSourceContract} {covered : PerceptionSourceContract → Prop}
    {sensor : α → SensorIdentity} {sourceId : α → Name}
    (honly : ∀ other ∈ sources, covered other ↔ other = source) (hmem : source ∈ sources)
    (hkey : (source.sensor.sensorId, source.provenance.sourceId) =
      ((sensor requirement).sensorId, sourceId requirement)) :
    Covers sources covered [requirement] sensor sourceId := by
  refine ⟨List.nodup_singleton _, fun key => ⟨?_, ?_⟩⟩
  · rintro ⟨other, hother, hcovered, rfl⟩
    rw [(honly other hother).mp hcovered]
    exact ⟨requirement, List.mem_singleton_self _, hkey.symm⟩
  · rintro ⟨other, hother, rfl⟩
    rw [List.mem_singleton.mp hother]
    exact ⟨source, hmem, (honly source hmem).mpr rfl, hkey⟩

/-- No source is covered. -/
theorem covers_nil {α : Type} {sources : List PerceptionSourceContract}
    {covered : PerceptionSourceContract → Prop} {sensor : α → SensorIdentity} {sourceId : α → Name}
    (hnone : ∀ other ∈ sources, ¬covered other) : Covers sources covered [] sensor sourceId := by
  refine ⟨List.nodup_nil, fun key => ⟨?_, ?_⟩⟩
  · rintro ⟨other, hother, hcovered, -⟩
    exact absurd hcovered (hnone other hother)
  · rintro ⟨other, hother, -⟩
    cases hother

/-- The reviewed sources. -/
def fixtureSources : List PerceptionSourceContract := [colourSource, depthSource, fusionSource]

/-- The colour camera is not a physical one. -/
theorem fixture_physical : Covers fixtureSources (fun source => source.sensor.kind = .rgbCamera ∧
    source.provenance.sourceKind = .physicalSensor) ([] : List PhysicalCameraTrustRequirement)
    (·.camera) (·.sourceId) :=
  covers_nil (by decide)

/-- The depth camera has its requirement. -/
theorem fixture_depth : Covers fixtureSources (fun source => source.sensor.kind = .depthCamera)
    [depthRequirement] (·.sensor) (·.sourceId) :=
  covers_single depthSource (by decide) (by decide) rfl

/-- The fusion has its requirement. -/
theorem fixture_fusion : Covers fixtureSources (fun source => source.sensor.kind = .rgbdFusion)
    [pairRequirement] (·.fusionSensor) (·.fusionProvenance.sourceId) :=
  covers_single fusionSource (by decide) (by decide) rfl

/-- There is no microphone. -/
theorem fixture_audio : Covers fixtureSources (fun source => source.sensor.kind = .microphone)
    ([] : List AudioTrustRequirement) (·.microphone) (·.sourceId) :=
  covers_nil (by decide)

/-- The depth requirement is of a source. -/
theorem fixture_depth_binds : ∀ requirement ∈ [depthRequirement],
    Binds fixtureSources requirement.sensor requirement.provenance :=
  List.forall_mem_singleton.mpr ⟨depthSource, by decide, rfl, rfl⟩

/-- The fusion requirement is of three sources. -/
theorem fixture_fusion_binds : ∀ requirement ∈ [pairRequirement],
    Binds fixtureSources requirement.rgbSensor requirement.rgbProvenance ∧
      Binds fixtureSources requirement.depthSensor requirement.depthProvenance ∧
      Binds fixtureSources requirement.fusionSensor requirement.fusionProvenance :=
  List.forall_mem_singleton.mpr ⟨⟨colourSource, by decide, rfl, rfl⟩,
    ⟨depthSource, by decide, rfl, rfl⟩, ⟨fusionSource, by decide, rfl, rfl⟩⟩

/-- The sources are unique. -/
theorem fixture_unique : (fixtureSources.map fun source =>
    (source.sensor.sensorId, source.sensor.kind, source.provenance)).Nodup := by
  decide

/-- Their sensors differ. -/
theorem fixture_exact : ∀ source ∈ fixtureSources, ∀ other ∈ fixtureSources,
    source.sensor.sensorId = other.sensor.sensorId → source.sensor = other.sensor := by
  decide

/-- They use the clock of tests. -/
theorem fixture_clock : ∀ source ∈ fixtureSources, source.provenance.clock = .testTime := by
  decide

/-- The text of the robot is exact. -/
theorem ayyoRobotId_exact : ayyoRobotId.text ≠ [] ∧ ayyoRobotId.text = strip ayyoRobotId.text := by
  decide

/-- The boundary of a colour camera, a depth camera and their fusion. -/
def fixtureConfig : PerceptionTrustConfig where
  robotId := ayyoRobotId.text
  sourceClock := .testTime
  sources := fixtureSources
  freshnessNs := 500000000
  retentionTtlNs := 2000000000
  permittedFutureSkewNs := 50000000
  visualInterpretationProducers := []
  visualEvaluationRequirements := []
  physicalCameraRequirements := []
  depthCameraRequirements := [depthRequirement]
  rgbdFusionRequirements := [pairRequirement]
  audioRequirements := []
  robot := ayyoRobotId_exact
  some_sources := by decide
  sources_unique := fixture_unique
  sensors_exact := fixture_exact
  clock_eq := fixture_clock
  retention := by decide
  skew := by decide
  producers := by decide
  evaluations := by decide
  physical := ⟨Nat.zero_le _, fixture_physical, List.forall_mem_nil _⟩
  depth := ⟨by decide, fixture_depth, fixture_depth_binds⟩
  fusion := ⟨by decide, fixture_fusion, fixture_fusion_binds⟩
  audio := ⟨Nat.zero_le _, fixture_audio, List.forall_mem_nil _⟩

end Sources

section Frames

/-- An acquisition time. -/
theorem time_bounded (k : Nat) : 1 ≤ k % 100 + 1 ∧ k % 100 + 1 ≤ maxObservationTimeNs := by
  rw [maxObservationTimeNs]
  omega

/-- A colour frame of one pixel, a nanosecond after the one before. -/
def colourFrame (k : Nat) : VisualFrameObservation where
  robotId := ayyoRobotId
  sensor := colourSource.sensor
  width := 1
  height := 1
  step := 3
  isBigendian := false
  calibrationId := ⟨zeroDigest⟩
  observedAtNs := k % 100 + 1
  provenance := colourSource.provenance
  availability := .available
  sensor_kind := rfl
  fits := by decide
  bounded := time_bounded k
  measuring := Or.inl rfl

/-- `1.0` is the text of a float. -/
theorem oneMetre_isFloat : isFloatToken (py "1.0") = true := by
  decide

/-- One metre. -/
def oneMetre : FloatToken := ⟨py "1.0", oneMetre_isFloat⟩

/-- One metre is a depth. -/
theorem oneMetre_range : 0 < oneMetre.toRat ∧ oneMetre.toRat ≤ oneMetre.toRat ∧
    oneMetre.toRat ≤ 10000 := by
  decide

/-- A depth frame of one pixel, acquired with the first colour frame. -/
def depthFrame : DepthFrameObservation where
  robotId := ayyoRobotId
  sensor := depthSource.sensor
  width := 1
  height := 1
  encoding := .mono16
  step := 2
  isBigendian := false
  calibrationId := ⟨zeroDigest⟩
  calibrationRecordId := ⟨zeroDigest⟩
  sourceManifestId := ⟨zeroDigest⟩
  sessionId := ⟨zeroDigest⟩
  validDepthCount := 1
  invalidDepthCount := 0
  minimumDepthM := oneMetre
  maximumDepthM := oneMetre
  payloadSha256 := zeroDigest
  observedAtNs := 1
  provenance := depthSource.provenance
  availability := .available
  sensor_kind := rfl
  fits := by decide
  counted := by decide
  range := oneMetre_range
  bounded := time_bounded 0
  measuring := Or.inl rfl

/-- The depth camera is available. -/
def depthHealth : SensorHealthObservation where
  robotId := ayyoRobotId
  sensor := depthSource.sensor
  availability := .available
  observedAtNs := 1
  provenance := depthSource.provenance
  evidenceDetail := py "available"
  bounded := (time_bounded 0).2
  detail := by decide
  encodable := by decide

/-- The pair of the depth frame and the first colour frame. -/
def framePair : FusedRgbdObservation where
  robotId := ayyoRobotId
  sensor := fusionSource.sensor
  rgbObservation := colourFrame 0
  depthObservation := depthFrame
  sources := pairRequirement.sources (py "rgb-session") (py "depth-session") (py "pair-session")
  resultAtNs := 1
  provenance := fusionSource.provenance
  availability := .available
  sensor_kind := rfl
  robot_eq := ⟨rfl, rfl⟩
  time_eq := rfl
  rgb_session := by decide
  depth_session := by decide
  session := by decide
  mounts := pairRequirement.mounts
  clock_eq := ⟨rfl, rfl⟩
  bounded := ⟨le_rfl, (time_bounded 0).2⟩
  measuring := Or.inl rfl

/-- The text of a colour frame. -/
def colourText (k : Nat) : PyStr :=
  (Observation.visualFrame (colourFrame k) : Observation Platform.ascii).text

/-- The text of the depth frame. -/
def depthText : PyStr := (Observation.depthFrame depthFrame : Observation Platform.ascii).text

/-- The text of the depth camera's health. -/
def healthText : PyStr :=
  (Observation.sensorHealth depthHealth : Observation Platform.ascii).text

/-- The texts of the run. -/
def fixtureTexts : List PyStr := depthText :: healthText :: (List.range 65).map colourText

/-- The platform of the run: the digests of its texts differ. -/
def fixturePlatform : Platform := .indexed fixtureTexts

/-- The texts of the run have one digest each. -/
theorem fixture_collisionFree {texts : List PyStr} (h : ∀ text ∈ texts, text ∈ fixtureTexts) :
    CollisionFree fixturePlatform texts := by
  intro a ha b hb hdigest
  have hfew : fixtureTexts.length ≤ 16 ^ 64 := by
    rw [fixtureTexts, List.length_cons, List.length_cons, List.length_map, List.length_range]
    decide
  exact Platform.indexed_injective hfew (h a ha) (h b hb) hdigest

/-- The text of a colour frame that the run hands over. -/
theorem colourText_mem {k : Nat} (hk : k < 65) : colourText k ∈ fixtureTexts :=
  List.mem_cons_of_mem _ (List.mem_cons_of_mem _
    (List.mem_map_of_mem (List.mem_range.mpr hk)))

/-- Colour frames of the run have identities of their own. -/
theorem colourFrame_id_inj {j k : Nat} (hj : j < 65) (hk : k < 65)
    (h : (colourFrame j).observationId fixturePlatform =
      (colourFrame k).observationId fixturePlatform) : j = k := by
  have hdigest : digestOf fixturePlatform (colourText j) = digestOf fixturePlatform (colourText k) :=
    congrArg TaggedDigest.digest h
  have htext : (Observation.visualFrame (colourFrame j) : Observation Platform.ascii).text =
      (Observation.visualFrame (colourFrame k)).text :=
    (fixture_collisionFree fun _ hmem => hmem).text_eq (colourText_mem hj) (colourText_mem hk)
      hdigest
  have hsame : SameRecord (Observation.visualFrame (colourFrame j) : Observation Platform.ascii)
      (.visualFrame (colourFrame k)) := sameRecord_of_text trivial trivial htext
  have htime := hsame.observedAtNs
  simp only [Observation.observedAtNs, colourFrame] at htime
  omega

/-- The depth frame and its health fact have identities of their own. -/
theorem depthFrame_id_ne :
    (Observation.depthFrame depthFrame : Observation fixturePlatform).observationId ≠
      (Observation.sensorHealth depthHealth : Observation fixturePlatform).observationId := by
  intro h
  have hdigest : digestOf fixturePlatform depthText = digestOf fixturePlatform healthText :=
    congrArg TaggedDigest.digest h
  have htext : (Observation.depthFrame depthFrame : Observation Platform.ascii).text =
      (Observation.sensorHealth depthHealth).text :=
    (fixture_collisionFree fun _ hmem => hmem).text_eq List.mem_cons_self
      (List.mem_cons_of_mem _ List.mem_cons_self) hdigest
  have hsame : SameRecord (Observation.depthFrame depthFrame : Observation Platform.ascii)
      (.sensorHealth depthHealth) := sameRecord_of_text trivial trivial htext
  cases hsame.kind

end Frames

section Admissions

variable {s : TrustBoundary fixturePlatform} {k : Nat}

/-- Evidence of the colour camera. -/
def colourEvidence (k : Nat) : Evidence fixturePlatform := .observation (.visualFrame (colourFrame k))

/-- The key of the colour camera. -/
def colourKey : PyStr × PyStr := stateKey (p := fixturePlatform) colourSource
  (.visualFrame (colourFrame 0))

/-- A colour frame is of the colour camera. -/
theorem colour_sourceFor (k : Nat) :
    sourceFor fixtureConfig (colourEvidence k) = some colourSource := by
  have hmatching : (fixtureSources.filter fun source => some source.sensor =
      some colourSource.sensor ∧ source.provenance = colourSource.provenance) = [colourSource] := by
    decide
  have hsources : matchingSources fixtureConfig (colourEvidence k) = [colourSource] := hmatching
  rw [sourceFor, hsources]

/-- A colour frame needs no seal. -/
theorem colour_checkCall (hk : k < 65) :
    checkCall fixtureConfig (k + 1 : Nat) (k + 1 : Nat) (colourEvidence k) colourSource s =
      (s.timed (k + 1) (k + 1), none) := by
  have htime : k % 100 = k := by omega
  refine Stage.sequence_idle ?_
  rw [checksAgainst, colourEvidence, checkKind]
  · simp only [List.cons_append, List.nil_append, List.forall_mem_cons]
    refine ⟨Stage.onlyWhen_idle ?_, Stage.onlyWhen_idle id,
      Stage.onlyWhen_idle id, Stage.refuseWhen_idle ?_, Stage.refuseWhen_idle ?_,
      List.forall_mem_nil _⟩
    · rintro ⟨-, hnone⟩
      cases hnone
    · change ¬(k + 1 : Nat) + 50000000 < k % 100 + 1
      omega
    · change ¬((k % 100 + 1 : Nat) : Int) < ((k + 1 : Nat) : Int) - (2000000000 : Nat)
      omega
  all_goals
    intro _ heq
    cases heq

/-- A colour frame that is newer than the record of its key is retained. -/
theorem colour_admissible (hk : k < 65) (hclock : ¬∃ last ∈ s.lastNowNs, k + 1 < last)
    (hreceipt : ¬∃ last ∈ s.lastReceiptMonotonicNs, k + 1 < last)
    (hlatest : ∀ current, s.lastByKey.get? colourKey = some current →
      (colourFrame k).observationId fixturePlatform ≠ current.2 ∧ current.1 < k + 1) :
    Admissible fixtureConfig (k + 1 : Nat) (k + 1 : Nat) (colourEvidence k) colourSource s where
  times := by
    rw [IsTime, maxObservationTimeNs]
    omega
  clock := hclock
  receipt := hreceipt
  robot := rfl
  domain := rfl
  source_eq := colour_sourceFor k
  passed := by rw [colour_checkCall hk]
  fresh := by
    have htime : k % 100 = k := by omega
    rw [colour_checkCall hk]
    change TrustBoundary.compareLatest colourSource (.visualFrame (colourFrame k))
      (s.timed (k + 1) (k + 1)) = .fresh
    have hkey : (s.timed (k + 1) (k + 1)).lastByKey.get?
        (stateKey (p := fixturePlatform) colourSource (.visualFrame (colourFrame k))) =
          s.lastByKey.get? colourKey := rfl
    rw [TrustBoundary.compareLatest, hkey]
    cases hcurrent : s.lastByKey.get? colourKey with
    | none => rfl
    | some current =>
      obtain ⟨hid, hbefore⟩ := hlatest current hcurrent
      have horder : orderingTime (p := fixturePlatform) (.visualFrame (colourFrame k)) = k + 1 := by
        change k % 100 + 1 = k + 1
        rw [htime]
      have hid' : (Observation.visualFrame (colourFrame k) : Observation fixturePlatform).observationId ≠
          current.2 := hid
      simp only
      rw [if_neg hid', horder, if_neg (by omega), if_neg (by omega)]

end Admissions

section Filling

variable {s : TrustBoundary fixturePlatform} {n : Nat}

/-- The boundary holds the depth frame and the first colour frames. -/
structure Holding (n : Nat) (s : TrustBoundary fixturePlatform) : Prop where
  /-- The source clock is not ahead. -/
  now : ¬∃ last ∈ s.lastNowNs, n + 1 < last
  /-- The receipt time is not ahead. -/
  receipt : ¬∃ last ∈ s.lastReceiptMonotonicNs, n + 1 < last
  /-- The latest record of the colour camera is of one of the frames. -/
  latest : ∀ current, s.lastByKey.get? colourKey = some current →
    ∃ j < n, current = (j + 1, (colourFrame j).observationId fixturePlatform)
  /-- There are no more frames. -/
  size : s.visualSources.size = n
  /-- The frames are stored under their identities. -/
  frames : ∀ id frame, s.visualSources.get? id = some frame ↔
    ∃ j < n, id = (colourFrame j).observationId fixturePlatform ∧ frame = colourFrame j
  /-- The depth frame is stored. -/
  depth : s.depthSources.get? (depthFrame.observationId fixturePlatform) = some depthFrame

/-- The identity of the pair. -/
def framePairId : ObservationId := (framePair.fingerprint fixturePlatform).observationId

/-- The pair is authorized. -/
def PairOutstanding (s : TrustBoundary fixturePlatform) : Prop :=
  s.rgbdFusionAuthorizations.get? framePairId = some framePair

/-- The next colour frame is retained. -/
theorem Holding.admissible (h : Holding n s) (hn : n < 65) :
    Admissible fixtureConfig (n + 1 : Nat) (n + 1 : Nat) (colourEvidence n) colourSource s := by
  refine colour_admissible hn h.now h.receipt fun current hcurrent => ?_
  obtain ⟨j, hj, rfl⟩ := h.latest current hcurrent
  refine ⟨fun hid => ?_, by simp only; omega⟩
  have hsame := colourFrame_id_inj hn (by omega) hid
  omega

/-- No frame has expired. -/
theorem Holding.purge_visualSources (h : Holding n s) (hn : n < 65) :
    (s.purgeVisualSources fixtureConfig (n + 1)).visualSources = s.visualSources := by
  change s.visualSources.keep (fun _ frame =>
    ¬(frame.observedAtNs : Int) < ((n + 1 : Nat) : Int) - fixtureConfig.retentionTtlNs) = _
  refine PyDict.keep_eq_self fun id frame hframe => ?_
  obtain ⟨j, hj, -, rfl⟩ := (h.frames id frame).mp hframe
  change ¬((j % 100 + 1 : Nat) : Int) < ((n + 1 : Nat) : Int) - (2000000000 : Nat)
  omega

/-- The depth frame has not expired. -/
theorem Holding.purge_depth (h : Holding n s) (hn : n < 65) :
    (s.purgeVisualSources fixtureConfig (n + 1)).depthSources.get?
      (depthFrame.observationId fixturePlatform) = some depthFrame := by
  refine PyDict.get?_keep_eq_some.mpr ⟨h.depth, ?_⟩
  change ((n + 1 : Nat) : Int) - (2000000000 : Nat) ≤ ((1 : Nat) : Int)
  omega

/-- An outstanding pair has not expired. -/
theorem Holding.purge_pair (h : Holding n s) (hn : n < 65) (hfirst : 0 < n)
    (hpair : PairOutstanding s) : PairOutstanding (s.purgeVisualSources fixtureConfig (n + 1)) := by
  have hrgb : framePair.rgbObservation.observationId fixturePlatform ∈
      (s.purgeVisualSources fixtureConfig (n + 1)).visualSources.keys := by
    rw [h.purge_visualSources hn]
    exact PyDict.mem_keys.mpr ⟨colourFrame 0, (h.frames _ _).mpr ⟨0, hfirst, rfl, rfl⟩⟩
  have hdepth : framePair.depthObservation.observationId fixturePlatform ∈
      (s.purgeVisualSources fixtureConfig (n + 1)).depthSources.keys :=
    PyDict.mem_keys.mpr ⟨depthFrame, h.purge_depth hn⟩
  exact PyDict.get?_keep_eq_some.mpr ⟨hpair, hrgb, hdepth⟩

/-- A new frame has a new identity. -/
theorem Holding.fresh (h : Holding n s) (hn : n < 65) :
    (colourFrame n).observationId fixturePlatform ∉ s.visualSources.keys := by
  intro hmem
  obtain ⟨frame, hframe⟩ := PyDict.mem_keys.mp hmem
  obtain ⟨j, hj, hid, -⟩ := (h.frames _ frame).mp hframe
  have hsame := colourFrame_id_inj hn (by omega) hid
  omega

/-- The admission of a colour frame. -/
def colourCall (n : Nat) : BoundaryCall fixturePlatform :=
  .admitEvidence (colourEvidence n) (n + 1 : Nat) (n + 1 : Nat)

/-- The state in which a colour frame is remembered. -/
def beforeColour (n : Nat) (s : TrustBoundary fixturePlatform) : TrustBoundary fixturePlatform :=
  (TrustBoundary.recordLatest colourSource (.visualFrame (colourFrame n))
    (s.timed (n + 1) (n + 1))).purgeVisualSources fixtureConfig (n + 1)

/-- As long as there is room a colour frame is stored. -/
theorem Holding.remembered (h : Holding n s) (hn : n < 64) :
    (beforeColour n s).rememberVisualSource (colourFrame n) =
      withFrame (colourFrame n) (beforeColour n s) := by
  have hsources : (beforeColour n s).visualSources = s.visualSources :=
    h.purge_visualSources (by omega)
  have hfew : (beforeColour n s).visualSources.size ≤ maxVisualSourceReferences := by
    rw [hsources, h.size, maxVisualSourceReferences]
    omega
  have hroom : ¬maxVisualSourceReferences <
      (withFrame (colourFrame n) (beforeColour n s)).visualSources.size := by
    rw [withFrame, hsources, PyDict.size_set_of_not_mem (h.fresh (by omega)), h.size,
      maxVisualSourceReferences]
    omega
  rw [rememberVisualSource_eq _ hfew, evictedFor, if_neg hroom]

/-- What the admission of a colour frame does. -/
theorem Holding.perform_eq (h : Holding n s) (hn : n < 65) :
    (perform fixtureConfig some s (colourCall n)).1 =
      { (beforeColour n s).rememberVisualSource (colourFrame n) with
        acceptedCount :=
          ((beforeColour n s).rememberVisualSource (colourFrame n)).acceptedCount + 1 } := by
  have hrebuilt : rebuildEvidence some (colourEvidence n) = .ok (colourEvidence n) := rfl
  have hperform : (perform fixtureConfig some s (colourCall n)).1 =
      (s.admitEvidence fixtureConfig some (colourEvidence n) (n + 1 : Nat) (n + 1 : Nat)).1 := by
    rw [colourCall, perform, Prod.map_fst, id]
  have hkind : ∀ entity, colourEvidence n ≠ .observation (.environmentEntity entity) := by
    intro entity heq
    cases heq
  rw [hperform, admitEvidence_eq hrebuilt hkind (h.admissible hn)]
  simp only [retainedAfter, colour_checkCall hn]
  rfl

/-- A colour frame is added as long as there is room. -/
theorem Holding.add (h : Holding n s) (hn : n < 64) :
    Holding (n + 1) (perform fixtureConfig some s (colourCall n)).1 := by
  have hsources : (beforeColour n s).visualSources = s.visualSources :=
    h.purge_visualSources (by omega)
  rw [h.perform_eq (by omega), h.remembered hn]
  have hkey : (s.lastByKey.set colourKey (orderingTime (p := fixturePlatform)
      (.visualFrame (colourFrame n)), (colourFrame n).observationId fixturePlatform)) =
      (beforeColour n s).lastByKey := rfl
  exact {
    now := by
      rintro ⟨last, hlast, hless⟩
      have heq : n + 1 = last := Option.some.inj hlast
      omega
    receipt := by
      rintro ⟨last, hlast, hless⟩
      have heq : n + 1 = last := Option.some.inj hlast
      omega
    latest := fun current hcurrent => by
      change (beforeColour n s).lastByKey.get? colourKey = some current at hcurrent
      rw [← hkey, PyDict.get?_set_self] at hcurrent
      have htime : orderingTime (p := fixturePlatform) (.visualFrame (colourFrame n)) = n + 1 := by
        change n % 100 + 1 = n + 1
        omega
      rw [htime] at hcurrent
      exact ⟨n, by omega, (Option.some.inj hcurrent).symm⟩
    size := by
      change ((beforeColour n s).visualSources.set _ _).size = n + 1
      rw [hsources, PyDict.size_set_of_not_mem (h.fresh (by omega)), h.size]
    frames := fun id frame => by
      change ((beforeColour n s).visualSources.set _ _).get? id = some frame ↔ _
      rw [hsources, PyDict.get?_set]
      by_cases hid : id = (colourFrame n).observationId fixturePlatform
      · rw [if_pos hid, Option.some.injEq]
        constructor
        · rintro rfl
          exact ⟨n, by omega, hid, rfl⟩
        · rintro ⟨j, hj, hother, rfl⟩
          rw [colourFrame_id_inj (by omega) (by omega) (hid.symm.trans hother)]
      · rw [if_neg hid, h.frames]
        constructor
        · rintro ⟨j, hj, hstored⟩
          exact ⟨j, by omega, hstored⟩
        · rintro ⟨j, hj, hother, rfl⟩
          have hne : j ≠ n := fun heq => hid (heq ▸ hother)
          exact ⟨j, by omega, hother, rfl⟩
    depth := h.purge_depth (by omega) }

/-- An outstanding pair stays. -/
theorem Holding.add_pair (h : Holding n s) (hn : n < 64) (hfirst : 0 < n)
    (hpair : PairOutstanding s) :
    PairOutstanding (perform fixtureConfig some s (colourCall n)).1 := by
  rw [h.perform_eq (by omega), h.remembered hn]
  exact h.purge_pair (by omega) hfirst hpair

/-- The frame after the last for which there is room evicts the first one. -/
theorem Holding.evicts (h : Holding 64 s) (hpair : PairOutstanding s) :
    EvictsComponent fixtureConfig s (colourCall 64) := by
  have hsources := h.purge_visualSources (by omega)
  refine ⟨⟨colourSource, h.admissible (by omega)⟩, fun hspares => ?_⟩
  have hover : maxVisualSourceReferences < (withFrame (colourFrame 64)
      (s.purgeVisualSources fixtureConfig 65)).visualSources.size := by
    change _ < ((s.purgeVisualSources fixtureConfig 65).visualSources.set _ _).size
    rw [hsources, PyDict.size_set_of_not_mem (h.fresh (by omega)), h.size,
      maxVisualSourceReferences]
    omega
  cases holdest : oldestFrame (withFrame (colourFrame 64)
      (s.purgeVisualSources fixtureConfig 65)) with
  | none =>
    have hempty := PyDict.least_eq_none holdest
    omega
  | some oldest =>
    have hevicted : evictedFor (colourFrame 64) (s.purgeVisualSources fixtureConfig 65) =
        some oldest := by
      rw [evictedFor, if_pos hover, holdest]
    have hpurged := h.purge_pair (by omega) (by omega) hpair
    refine hspares oldest hevicted framePairId framePair hpurged ?_
    -- The first frame ranks below every other one.
    obtain ⟨frame, hframe, hleast⟩ := PyDict.least_eq_some holdest
    change ((s.purgeVisualSources fixtureConfig 65).visualSources.set _ _).get? oldest = some frame
      at hframe
    have hstored : ∀ id stored, s.visualSources.get? id = some stored →
        ((s.purgeVisualSources fixtureConfig 65).visualSources.set
          ((colourFrame 64).observationId fixturePlatform) (colourFrame 64)).get? id =
          some stored := by
      intro id stored hbefore
      rw [hsources, PyDict.get?_set_of_ne, hbefore]
      rintro rfl
      exact h.fresh (by omega) (PyDict.mem_keys.mpr ⟨stored, hbefore⟩)
    have hfirst := hleast _ _ (hstored _ _ ((h.frames _ (colourFrame 0)).mpr ⟨0, by omega, rfl, rfl⟩))
    have htime : frame.observedAtNs ≤ 1 := by
      rcases Prod.Lex.le_iff.mp hfirst with hless | ⟨heq, -⟩
      · exact Nat.le_of_lt hless
      · exact Nat.le_of_eq heq
    rw [hsources, PyDict.get?_set] at hframe
    by_cases hid : oldest = (colourFrame 64).observationId fixturePlatform
    · rw [if_pos hid] at hframe
      rw [← Option.some.inj hframe] at htime
      change 64 % 100 + 1 ≤ 1 at htime
      omega
    · rw [if_neg hid] at hframe
      obtain ⟨j, hj, hoid, rfl⟩ := (h.frames _ _).mp hframe
      change j % 100 + 1 ≤ 1 at htime
      have hzero : j = 0 := by omega
      rw [hoid, hzero]
      rfl

end Filling

section Opening

/-- The sealed depth frame. -/
def depthAdmission : DepthCameraAdmission := ⟨depthFrame, depthHealth, depthRequirement⟩

/-- Evidence of the depth camera. -/
def depthEvidence : Evidence fixturePlatform := .observation (.depthFrame depthFrame)

/-- The admission of the depth frame. -/
def depthCall : BoundaryCall fixturePlatform := .admitEvidence depthEvidence (1 : Nat) (1 : Nat)

/-- The diagnostics of the synchronizer. -/
def pairDiagnostics : FusionDiagnostics where
  lifecycleState := .active
  event := .pairAccepted
  synchronizationSessionId := some (py "pair-session")
  rgbSessionId := some (py "rgb-session")
  depthSessionId := some (py "depth-session")
  acceptedCount := 1
  rejectedCount := 0
  duplicateCount := 0
  evictedCount := 0
  pendingRgbCount := 0
  pendingDepthCount := 0

/-- The sealed pair. -/
def pairAdmission : FusionAdmission := ⟨framePair, pairRequirement, pairDiagnostics⟩

/-- The boundary after the depth frame was authorized. -/
def depthAuthorized : TrustBoundary fixturePlatform :=
  { (.reset : TrustBoundary fixturePlatform) with
    depthCameraAuthorizations :=
      authorizeBoth (.depthFrame depthFrame) (.sensorHealth depthHealth) .empty }

/-- The depth frame is sealed under its requirement. -/
theorem depth_sealed : Sealed fixtureConfig
    (depthCameraRequirement (p := fixturePlatform) fixtureConfig (.depthFrame depthFrame))
    depthAdmission.requirement (·.MatchesUnsealed depthAdmission.frame)
    (.depthFrame depthFrame : Observation fixturePlatform) depthAdmission.health := by
  decide

/-- The depth frame is authorized. -/
theorem authorizeDepth_eq : (perform fixtureConfig some (.reset : TrustBoundary fixturePlatform)
    (.authorizeDepthCamera depthAdmission)).1 = depthAuthorized := by
  rw [perform, Prod.map_fst, id, TrustBoundary.authorizeDepthCamera]
  exact congrArg Prod.fst (if_pos depth_sealed)

/-- The first authorization of a frame and its health fact is of the frame. -/
theorem get?_authorizeBoth_empty {p : Platform} {frame health : Observation p}
    (hne : frame.observationId ≠ health.observationId) :
    (authorizeBoth frame health .empty).get? frame.observationId = some frame := by
  have hfirst := PyDict.size_set_le PyDict.empty frame.observationId frame
  have hsecond := PyDict.size_set_le (PyDict.empty.set frame.observationId frame)
    health.observationId health
  have hempty : (PyDict.empty : PyDict ObservationId (Observation p)).size = 0 := rfl
  have hfew : maxVisualSourceReferences = 64 := rfl
  rw [authorizeBoth, trimAuthorizations, PyDict.trim_eq_self (by omega),
    PyDict.get?_set_of_ne hne, PyDict.get?_set_self]

/-- The authorization of the depth frame is outstanding. -/
theorem depthAuthorized_get : depthAuthorized.depthCameraAuthorizations.get?
    (Observation.depthFrame depthFrame : Observation fixturePlatform).observationId =
      some (.depthFrame depthFrame) := by
  have hstored := get?_authorizeBoth_empty depthFrame_id_ne
  simp only [depthAuthorized]
  exact hstored

/-- The depth frame is of the depth camera. -/
theorem depth_sourceFor : sourceFor fixtureConfig depthEvidence = some depthSource := by
  decide

/-- The state after the checks of the depth frame. -/
def depthChecked : TrustBoundary fixturePlatform :=
  { depthAuthorized.timed 1 1 with
    depthCameraAuthorizations :=
      depthAuthorized.depthCameraAuthorizations.remove
        (Observation.depthFrame depthFrame : Observation fixturePlatform).observationId }

/-- The depth frame passes its checks. -/
theorem depth_checkCall : checkCall fixtureConfig (1 : Nat) (1 : Nat) depthEvidence depthSource
    depthAuthorized = (depthChecked, none) := by
  have hrequirement : depthCameraRequirement (p := fixturePlatform) fixtureConfig
      (.depthFrame depthFrame) = some depthRequirement := by
    decide
  have hagrees : AgreesDepth (p := fixturePlatform) depthRequirement (.depthFrame depthFrame) := by
    decide
  have hdepth : checkDepthCamera fixtureConfig (.depthFrame depthFrame)
      (depthAuthorized.timed 1 1) = (depthChecked, none) := by
    refine (Stage.onlyWhen_passed rfl).mpr (checkSeal_passed.mpr ?_)
    refine ⟨depthRequirement, hrequirement, hagrees, consume_passed.mpr ⟨?_, ?_⟩⟩
    · simp only [TrustBoundary.timed]
      exact depthAuthorized_get
    · rw [depthChecked]
      simp only [TrustBoundary.timed]
  rw [checkCall, checkAgainst, checksAgainst, depthEvidence, checkKind]
  · simp only [List.cons_append, List.nil_append]
    refine Stage.sequence_cons.mpr ⟨_, Stage.onlyWhen_idle id, Stage.sequence_cons.mpr
      ⟨_, hdepth, Stage.sequence_idle ?_⟩⟩
    simp only [List.forall_mem_cons]
    refine ⟨Stage.onlyWhen_idle id, Stage.refuseWhen_idle (by decide),
      Stage.refuseWhen_idle (by decide), List.forall_mem_nil _⟩
  all_goals
    intro _ heq
    cases heq

/-- The depth frame is retained. -/
theorem depth_admissible : Admissible fixtureConfig (1 : Nat) (1 : Nat) depthEvidence depthSource
    depthAuthorized where
  times := by
    rw [IsTime, maxObservationTimeNs]
    omega
  clock := by
    rintro ⟨last, hlast, -⟩
    cases hlast
  receipt := by
    rintro ⟨last, hlast, -⟩
    cases hlast
  robot := rfl
  domain := rfl
  source_eq := depth_sourceFor
  passed := by rw [depth_checkCall]
  fresh := by
    rw [depth_checkCall]
    rfl

/-- The state in which the depth frame is remembered. -/
def beforeDepth : TrustBoundary fixturePlatform :=
  (TrustBoundary.recordLatest depthSource (.depthFrame depthFrame)
    depthChecked).purgeVisualSources fixtureConfig 1

/-- The boundary after the depth frame was stored. -/
def depthStored : TrustBoundary fixturePlatform :=
  { beforeDepth with
    depthSources := beforeDepth.depthSources.set (depthFrame.observationId fixturePlatform) depthFrame
    acceptedCount := beforeDepth.acceptedCount + 1 }

/-- The depth frame is stored. -/
theorem depthCall_eq : (perform fixtureConfig some depthAuthorized depthCall).1 = depthStored := by
  have hrebuilt : rebuildEvidence some depthEvidence = .ok depthEvidence := rfl
  have hkind : ∀ entity, depthEvidence ≠ .observation (.environmentEntity entity) := by
    intro entity heq
    cases heq
  have hempty : beforeDepth.depthSources.size = 0 := rfl
  have hremembered : beforeDepth.rememberDepthSource depthFrame =
      { beforeDepth with
        depthSources :=
          beforeDepth.depthSources.set (depthFrame.observationId fixturePlatform) depthFrame } := by
    refine PyDict.whileLoop_skip ?_
    have hsize := PyDict.size_set_le beforeDepth.depthSources
      (depthFrame.observationId fixturePlatform) depthFrame
    change ¬maxVisualSourceReferences < (beforeDepth.depthSources.set _ _).size
    rw [maxVisualSourceReferences]
    omega
  rw [depthCall, perform, Prod.map_fst, id,
    admitEvidence_eq hrebuilt hkind depth_admissible]
  simp only [retainedAfter, depth_checkCall]
  change { beforeDepth.rememberDepthSource depthFrame with
    acceptedCount := (beforeDepth.rememberDepthSource depthFrame).acceptedCount + 1 } = _
  rw [hremembered]
  rfl

/-- No colour frame is held yet. -/
theorem holding_depthStored : Holding 0 depthStored where
  now := by
    rintro ⟨last, hlast, hless⟩
    have heq : 1 = last := Option.some.inj hlast
    omega
  receipt := by
    rintro ⟨last, hlast, hless⟩
    have heq : 1 = last := Option.some.inj hlast
    omega
  latest := fun current hcurrent => by
    have hkey : colourKey ≠ stateKey (p := fixturePlatform) depthSource (.depthFrame depthFrame) := by
      decide
    change (PyDict.set _ (stateKey (p := fixturePlatform) depthSource (.depthFrame depthFrame))
      _).get? colourKey = some current at hcurrent
    rw [PyDict.get?_set_of_ne hkey] at hcurrent
    cases hcurrent
  size := rfl
  frames := fun id frame => by
    constructor
    · intro hstored
      cases hstored
    · rintro ⟨j, hj, -⟩
      omega
  depth := PyDict.get?_set_self

end Opening

section Run

variable {s : TrustBoundary fixturePlatform} {n : Nat}

/-- The pair has its requirement. -/
theorem pair_fused : TrustBoundary.Fused fixtureConfig pairAdmission := by
  decide

/-- The boundary after the pair was authorized. -/
def withPair (s : TrustBoundary fixturePlatform) : TrustBoundary fixturePlatform :=
  { s with
    rgbdFusionAuthorizations := (s.rgbdFusionAuthorizations.set framePairId framePair).trim
      (fun id o => evictionRank o.observedAtNs id) maxVisualSourceReferences }

/-- The pair of retained frames is authorized. -/
theorem Holding.authorizePair_eq (h : Holding 1 s) :
    (perform fixtureConfig some s (.authorizeRgbdFusion pairAdmission)).1 = withPair s := by
  have hretained : TrustBoundary.ComponentsRetained s framePair :=
    ⟨(h.frames _ _).mpr ⟨0, by omega, rfl, rfl⟩, h.depth⟩
  rw [perform, Prod.map_fst, id, TrustBoundary.authorizeRgbdFusion]
  exact congrArg Prod.fst (if_pos ⟨pair_fused, hretained⟩)

/-- The authorization of a pair changes no frame. -/
theorem Holding.pair (h : Holding n s) : Holding n (withPair s) :=
  ⟨h.now, h.receipt, h.latest, h.size, h.frames, h.depth⟩

/-- The first pair is outstanding. -/
theorem pairOutstanding_withPair (h : s.rgbdFusionAuthorizations.size = 0) :
    PairOutstanding (withPair s) := by
  have hsize := PyDict.size_set_le s.rgbdFusionAuthorizations framePairId framePair
  have hfew : maxVisualSourceReferences = 64 := rfl
  rw [PairOutstanding, withPair]
  simp only
  rw [PyDict.trim_eq_self (by omega), PyDict.get?_set_self]

/-- The calls that authorize the pair of the depth frame and the first colour frame. -/
def opening : List (BoundaryCall fixturePlatform) :=
  [.authorizeDepthCamera depthAdmission, depthCall, colourCall 0, .authorizeRgbdFusion pairAdmission]

/-- A run that admits a pair's frames, authorizes the pair and admits colour frames. -/
def crowding (n : Nat) : List (BoundaryCall fixturePlatform) :=
  opening ++ (List.range n).map fun k => colourCall (k + 1)

/-- One more colour frame. -/
theorem crowding_succ (n : Nat) : crowding (n + 1) = crowding n ++ [colourCall (n + 1)] := by
  rw [crowding, crowding, List.range_succ, List.map_append, List.append_assoc]
  rfl

/-- The state after the authorization of the depth frame. -/
theorem stateAfter_authorizeDepth :
    stateAfter fixtureConfig some [.authorizeDepthCamera depthAdmission] = depthAuthorized :=
  (stateAfter_append [] (.authorizeDepthCamera depthAdmission)).trans authorizeDepth_eq

/-- The state after the admission of the depth frame. -/
theorem stateAfter_depthCall :
    stateAfter fixtureConfig some [.authorizeDepthCamera depthAdmission, depthCall] =
      depthStored := by
  rw [← depthCall_eq, ← stateAfter_authorizeDepth]
  exact stateAfter_append [.authorizeDepthCamera depthAdmission] depthCall

/-- After the opening the first colour frame is held and the pair is outstanding. -/
theorem holding_opening : Holding 1 (stateAfter fixtureConfig some opening) ∧
    PairOutstanding (stateAfter fixtureConfig some opening) := by
  have hcolour := holding_depthStored.add (by omega)
  have hbefore : stateAfter fixtureConfig some
      [.authorizeDepthCamera depthAdmission, depthCall, colourCall 0] =
        (perform fixtureConfig some depthStored (colourCall 0)).1 := by
    rw [← stateAfter_depthCall]
    exact stateAfter_append [.authorizeDepthCamera depthAdmission, depthCall] (colourCall 0)
  have hafter : stateAfter fixtureConfig some opening =
      withPair (perform fixtureConfig some depthStored (colourCall 0)).1 := by
    rw [← hcolour.authorizePair_eq, ← hbefore]
    exact stateAfter_append [.authorizeDepthCamera depthAdmission, depthCall, colourCall 0]
      (.authorizeRgbdFusion pairAdmission)
  have hnone : (perform fixtureConfig some depthStored
      (colourCall 0)).1.rgbdFusionAuthorizations.size = 0 := by
    rw [holding_depthStored.perform_eq (by omega), holding_depthStored.remembered (by omega)]
    exact Nat.le_zero.mp (PyDict.size_keep_le _ _)
  rw [hafter]
  exact ⟨hcolour.pair, pairOutstanding_withPair hnone⟩

/-- The boundary fills up with colour frames while the pair is outstanding. -/
theorem holding_crowding {n : Nat} (hn : n < 64) :
    Holding (n + 1) (stateAfter fixtureConfig some (crowding n)) ∧
      PairOutstanding (stateAfter fixtureConfig some (crowding n)) := by
  induction n with
  | zero => exact holding_opening
  | succ n ih =>
    obtain ⟨hholding, hpair⟩ := ih (by omega)
    rw [crowding_succ, stateAfter_append]
    exact ⟨hholding.add hn, hholding.add_pair hn (by omega) hpair⟩

/-- The text of a colour frame is the same on every platform. -/
theorem visualFrame_text (p q : Platform) (frame : VisualFrameObservation) :
    (Observation.visualFrame frame : Observation p).text =
      (Observation.visualFrame frame : Observation q).text := rfl

/-- The text of a depth frame is the same on every platform. -/
theorem depthFrame_text (p q : Platform) (frame : DepthFrameObservation) :
    (Observation.depthFrame frame : Observation p).text =
      (Observation.depthFrame frame : Observation q).text := rfl

/-- The text of evidence of the colour camera. -/
theorem colourEvidence_text (k : Nat) : (colourEvidence k).text = colourText k := by
  rw [colourEvidence, Evidence.text, colourText]
  exact visualFrame_text _ _ _

/-- The text of evidence of the depth camera. -/
theorem depthEvidence_text : depthEvidence.text = depthText := by
  rw [depthEvidence, Evidence.text, depthText]
  exact depthFrame_text _ _ _

/-- The evidence of the run has one digest for each text. -/
theorem crowding_collisionFree {n : Nat} (hn : n < 65) :
    CollisionFree fixturePlatform (runTexts fixtureConfig (crowding n)) := by
  refine fixture_collisionFree fun text htext => ?_
  obtain ⟨evidence, hevidence, rfl⟩ := List.mem_map.mp htext
  obtain ⟨call, hcall, hhanded⟩ := List.mem_filterMap.mp hevidence
  have hcolour : ∀ k < 65, (colourEvidence k).text ∈ fixtureTexts := fun k hk => by
    rw [colourEvidence_text]
    exact colourText_mem hk
  have hdepth : depthEvidence.text ∈ fixtureTexts := by
    rw [depthEvidence_text]
    exact List.mem_cons_self
  rcases List.mem_append.mp hcall with hopening | hlater
  · simp only [opening, List.mem_cons, List.not_mem_nil, or_false] at hopening
    rcases hopening with rfl | rfl | rfl | rfl
    · cases hhanded
    · rw [← Option.some.inj hhanded]
      exact hdepth
    · rw [← Option.some.inj hhanded]
      exact hcolour 0 (by omega)
    · cases hhanded
  · obtain ⟨k, hk, rfl⟩ := List.mem_map.mp hlater
    rw [List.mem_range] at hk
    rw [← Option.some.inj hhanded]
    exact hcolour (k + 1) (by omega)

/-- The provenance of a run that goes on as long as there is room is closed exactly when no call of
it evicts a component. -/
theorem traced_iff_spared_crowding :
    Traced fixtureConfig some (crowding 63) ↔ ∀ done call rest, crowding 63 = done ++ call :: rest →
      ¬EvictsComponent fixtureConfig (stateAfter fixtureConfig some done) call :=
  traced_iff_spared fixtureConfig some (crowding 63) (crowding_collisionFree (by omega))

/-- One colour frame more evicts a component of the pair and leaves its authorization behind. -/
theorem not_traced_crowding : ¬Traced fixtureConfig some (crowding 64) := by
  have hoffered : Determined (Offered (crowding 64)) :=
    determined_offered (crowding_collisionFree (by omega))
  rw [traced_iff hoffered]
  intro hspared
  obtain ⟨hholding, hpair⟩ := holding_crowding (n := 63) (by omega)
  exact hspared (crowding 63) (colourCall 64) [] (crowding_succ 63) (hholding.evicts hpair)

end Run

end Perception
end AyyoHumanoid
