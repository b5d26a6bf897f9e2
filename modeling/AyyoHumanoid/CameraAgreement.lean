import AyyoHumanoid.CameraLockstep
import Mathlib.Data.List.Induction

/-!
# The two camera adapters over a run

Corresponding submissions to the two adapters, in sessions activated with equal
counts, have corresponding results: the same times wait, the same submissions are
admitted, the counts and the reported events are equal. One kind of submission
breaks it. The physical adapter reports an eviction whenever any was ever
counted, so a submission that only waits, and evicts nothing itself, turns its
event into `pendingEvicted` where the depth adapter's stays. The adapters agree
over a run exactly when no submission of the run is of that kind.
-/

namespace AyyoHumanoid
namespace Camera

open PyText JsonText World Perception

section Runs

/-- The event turns into one of an eviction only if the submission evicted something that
waited. -/
def ReportsOwnEviction {kind : CameraKind} (bounds : CameraBounds) (session : Session kind)
    (s : CameraState kind) (x : Submission kind) : Prop :=
  s.diagnostics.event ≠ .pendingEvicted →
    (submit bounds s x).1.diagnostics.event = .pendingEvicted → x.Evicts bounds session s

/-- Two submissions have corresponding results. -/
structure StepAgrees (bounds : CameraBounds) (S : Session .physical) (T : Session .depth)
    (s : CameraState .physical) (t : CameraState .depth) (x : Submission .physical)
    (y : Submission .depth) : Prop where
  /-- Images wait at the same times. -/
  images : (submit bounds s x).1.pendingImages.items.keys =
    (submit bounds t y).1.pendingImages.items.keys
  /-- CameraInfo wait at the same times. -/
  infos : (submit bounds s x).1.pendingCameraInfo.items.keys =
    (submit bounds t y).1.pendingCameraInfo.items.keys
  /-- Both issue an admission or neither. -/
  admits : Admits (submit bounds s x).2 ↔ Admits (submit bounds t y).2
  /-- Both raise or neither. -/
  raises : Raises (submit bounds s x).2 ↔ Raises (submit bounds t y).2
  /-- The counts are equal. -/
  counts : SameCounts (submit bounds s x).1 (submit bounds t y).1
  /-- The events are equal. -/
  event : SameEvent (submit bounds s x).1 (submit bounds t y).1
  /-- The physical adapter reports its own evictions only. -/
  physical : ReportsOwnEviction bounds S s x
  /-- The depth adapter reports its own evictions only. -/
  depth : ReportsOwnEviction bounds T t y

variable {S : Session .physical} {T : Session .depth} {bounds : CameraBounds}
  {pairs : List (Submission .physical × Submission .depth)} {s : CameraState .physical}
  {t : CameraState .depth} {x : Submission .physical} {y : Submission .depth}

/-- Settled results correspond. -/
theorem Settled.stepAgrees (hevent : SameEvent s t)
    (h : Settled S T pairs s.diagnostics.event (submit bounds s x) (submit bounds t y)) :
    StepAgrees bounds S T s t x y := by
  have hquiet : s.diagnostics.event ≠ .pendingEvicted →
      (submit bounds s x).1.diagnostics.event ≠ .pendingEvicted := fun hother hreported =>
    h.quiet.elim (fun hkept => hother (hkept.symm.trans hreported)) fun hne => hne hreported
  exact {
    images := h.inStep.images.keys
    infos := h.inStep.infos.keys
    admits := h.admits
    raises := h.raises
    counts := h.inStep.counts
    event := h.event
    physical := fun hother hreported => absurd hreported (hquiet hother)
    depth := fun hother hreported =>
      absurd (h.event.trans hreported) (hquiet fun hsame => hother (hevent.symm.trans hsame)) }

/-- A count that grows over a submission was of evictions of its own. -/
theorem evictions_pos {kind : CameraKind} {state : CameraState kind} {call : Submission kind}
    (h : (call.expired bounds state).evictedCount ≠ state.evictedCount) :
    0 < call.evictions bounds state := by
  by_contra hnone
  have hzero : call.evictions bounds state = 0 := by omega
  apply h
  have hcount : (call.expired bounds state).evictedCount =
      Count.increment^[call.evictions bounds state] state.evictedCount := rfl
  rw [hcount, hzero, Function.iterate_zero, id_eq]

variable (bounds) in
/-- The results of corresponding submissions correspond exactly when the submission does not
linger, and then the adapters stay in step. -/
theorem step_iff (h : InStep S T pairs s t) (hevent : SameEvent s t)
    (hpairs : Corresponding S T pairs)
    (hdimensions : S.calibration.calibration.width = T.calibration.calibration.width ∧
      S.calibration.calibration.height = T.calibration.calibration.height)
    (hx : (x, y) ∈ pairs) :
    (StepAgrees bounds S T s t x y ↔ ¬Lingers bounds S s x) ∧
      (¬Lingers bounds S s x → InStep S T pairs (submit bounds s x).1 (submit bounds t y).1 ∧
        SameEvent (submit bounds s x).1 (submit bounds t y).1) := by
  have hxy : SubmissionsAgree S T x y := hpairs.agree _ hx
  rcases reaches_or_settled bounds h hevent hpairs hx with
    ⟨hleft, hright⟩ | ⟨hdeclined, hsettled⟩
  · have hsubmit := submit_reaches h.physical hleft
    have hsubmit' := submit_reaches h.depth hright
    rcases settle_cases bounds h hdimensions hx hxy hleft.supported hright.supported
      with ⟨hcompletes, hsettled⟩ | ⟨hwaits, hexpired, ⟨d, hd, hdevent⟩, e, he, heevent⟩
    · rw [← hsubmit, ← hsubmit'] at hsettled
      have hnot : ¬Lingers bounds S s x := fun hlingers => hlingers.waits hcompletes
      exact ⟨iff_of_true (hsettled.stepAgrees hevent) hnot, fun _ =>
        ⟨hsettled.inStep, hsettled.event⟩⟩
    · have hiff := sameEvent_iff h hevent hleft hwaits hexpired
      rw [← hsubmit] at hd
      rw [← hsubmit'] at he
      have hinStep : InStep S T pairs (submit bounds s x).1 (submit bounds t y).1 := by
        rw [hd, he]
        exact hexpired.diagnostics d e
      have hevents : SameEvent (submit bounds s x).1 (submit bounds t y).1 ↔
          ¬Lingers bounds S s x := by
        rw [← hiff, ← hdevent, ← heevent, hd, he]
        rfl
      refine ⟨⟨fun hagrees => hevents.mp hagrees.event, fun hnot => ?_⟩, fun hnot =>
        ⟨hinStep, hevents.mpr hnot⟩⟩
      have hsame := hevents.mpr hnot
      have hown : t.diagnostics.event ≠ .pendingEvicted →
          (submit bounds t y).1.diagnostics.event = .pendingEvicted →
          (y.expired bounds t).evictedCount ≠ t.evictedCount := by
        intro hother hreported hkept
        have hafter : (submit bounds t y).1.diagnostics.event = e.event := by
          rw [he]
          rfl
        rw [hafter, heevent, depthEvent, if_neg (not_not.mpr hkept)] at hreported
        exact hother hreported
      exact {
        images := hinStep.images.keys
        infos := hinStep.infos.keys
        admits := by
          rw [hd, he]
          exact iff_of_false not_admits_none not_admits_none
        raises := by
          rw [hd, he]
          exact iff_of_false not_raises_ok not_raises_ok
        counts := hinStep.counts
        event := hsame
        physical := fun hother hreported => by
          have hchanged := hown (fun hkept => hother (hevent.trans hkept))
            (hsame.symm.trans hreported)
          rw [← hexpired.counts.evicted, ← h.counts.evicted] at hchanged
          exact ⟨hleft, evictions_pos hchanged⟩
        depth := fun hother hreported => ⟨hright, evictions_pos (hown hother hreported)⟩ }
  · have hnot : ¬Lingers bounds S s x := fun hlingers => hdeclined hlingers.reaches
    exact ⟨iff_of_true (hsettled.stepAgrees hevent) hnot, fun _ =>
      ⟨hsettled.inStep, hsettled.event⟩⟩

/-- The state was just activated in the session. -/
def FreshlyActivated {kind : CameraKind} (p : Platform) (session : Session kind)
    (s : CameraState kind) : Prop :=
  ∃ before : CameraState kind, before.source = some session.source ∧
    before.calibration = some session.calibration ∧
    activate p before = (s, .ok session.sessionId)

/-- The state after an activation. -/
theorem FreshlyActivated.fields {kind : CameraKind} {p : Platform} {session : Session kind}
    {s : CameraState kind} (h : FreshlyActivated p session s) :
    Active session s ∧ s.pendingImages = .empty ∧ s.pendingCameraInfo = .empty ∧
      s.lastAcceptedAtNs = none ∧ s.diagnostics.event = .acquisitionActive := by
  obtain ⟨before, hsource, hcalibration, hactivate⟩ := h
  rw [activate, hsource, hcalibration] at hactivate
  by_cases hstate : before.state ≠ .inactive
  · rw [if_pos hstate] at hactivate
    cases congrArg Prod.snd hactivate
  · rw [if_neg hstate] at hactivate
    have hid := Except.ok.inj (congrArg Prod.snd hactivate)
    have hfields := congrArg Prod.fst hactivate
    simp only at hid hfields
    subst hfields
    exact ⟨⟨rfl, rfl, rfl, congrArg some hid⟩, rfl, rfl, rfl, rfl⟩

variable (pairs) in
/-- Freshly activated adapters with equal counts are in step. -/
theorem inStep_fresh {p : Platform} (hs : FreshlyActivated p S s) (ht : FreshlyActivated p T t)
    (hcounts : SameCounts s t) : InStep S T pairs s t ∧ SameEvent s t := by
  obtain ⟨hactive, himages, hinfos, hlast, hevent⟩ := hs.fields
  obtain ⟨hactive', himages', hinfos', hlast', hevent'⟩ := ht.fields
  refine ⟨⟨hactive, hactive', hlast.trans hlast'.symm, ?_, ?_, hcounts⟩, hevent.trans hevent'.symm⟩
  · rw [himages, himages']
    exact PyDict.alongside_empty
  · rw [hinfos, hinfos']
    exact PyDict.alongside_empty

/-- Every submission of a run has corresponding results. -/
def AgreesThroughout (bounds : CameraBounds) (S : Session .physical) (T : Session .depth)
    (s : CameraState .physical) (t : CameraState .depth)
    (pairs : List (Submission .physical × Submission .depth)) : Prop :=
  ∀ before x y after, pairs = before ++ (x, y) :: after →
    StepAgrees bounds S T (submitAll bounds s (before.map Prod.fst))
      (submitAll bounds t (before.map Prod.snd)) x y

/-- Some submission of a run lingers. -/
def LingersIn (bounds : CameraBounds) (S : Session .physical) (s : CameraState .physical)
    (calls : List (Submission .physical)) : Prop :=
  ∃ before x after, calls = before ++ x :: after ∧ Lingers bounds S (submitAll bounds s before) x

/-- Adapters whose runs agree so far are in step, as are those whose submissions do not linger. -/
theorem inStep_of_prefix (h : InStep S T pairs s t) (hevent : SameEvent s t)
    (hpairs : Corresponding S T pairs)
    (hdimensions : S.calibration.calibration.width = T.calibration.calibration.width ∧
      S.calibration.calibration.height = T.calibration.calibration.height)
    (run : List (Submission .physical × Submission .depth)) (hrun : ∀ z ∈ run, z ∈ pairs)
    (hlinger : ∀ before x y after, run = before ++ (x, y) :: after →
      ¬Lingers bounds S (submitAll bounds s (before.map Prod.fst)) x) :
    InStep S T pairs (submitAll bounds s (run.map Prod.fst))
        (submitAll bounds t (run.map Prod.snd)) ∧
      SameEvent (submitAll bounds s (run.map Prod.fst))
        (submitAll bounds t (run.map Prod.snd)) := by
  induction run using List.reverseRecOn with
  | nil => exact ⟨h, hevent⟩
  | append_singleton run z ih =>
    obtain ⟨x, y⟩ := z
    have hbefore := ih (fun z hz => hrun z (List.mem_append_left _ hz))
      fun before x' y' after hsplit => hlinger before x' y' (after ++ [(x, y)]) (by
        rw [hsplit, List.append_assoc, List.cons_append])
    have hmem : (x, y) ∈ pairs := hrun _ (List.mem_append_right _ (List.mem_singleton_self _))
    have hstep := (step_iff bounds hbefore.1 hbefore.2 hpairs hdimensions hmem).2
      (hlinger run x y [] rfl)
    rw [List.map_append, List.map_append, submitAll, submitAll, List.foldl_append,
      List.foldl_append]
    exact hstep

/-- From sessions activated with equal counts, corresponding submissions have corresponding results
throughout a run exactly when no submission of the run lingers. -/
theorem cameras_agree_iff (p : Platform) (bounds : CameraBounds) (S : Session .physical)
    (T : Session .depth) (s : CameraState .physical) (t : CameraState .depth)
    (hs : FreshlyActivated p S s) (ht : FreshlyActivated p T t) (hcounts : SameCounts s t)
    (hdimensions : S.calibration.calibration.width = T.calibration.calibration.width ∧
      S.calibration.calibration.height = T.calibration.calibration.height)
    (pairs : List (Submission .physical × Submission .depth)) (hpairs : Corresponding S T pairs) :
    AgreesThroughout bounds S T s t pairs ↔ ¬LingersIn bounds S s (pairs.map Prod.fst) := by
  obtain ⟨hinStep, hevent⟩ := inStep_fresh pairs hs ht hcounts
  have hafter : ∀ before x y after, pairs = before ++ (x, y) :: after →
      (∀ earlier x' y' later, before = earlier ++ (x', y') :: later →
        ¬Lingers bounds S (submitAll bounds s (earlier.map Prod.fst)) x') →
      (StepAgrees bounds S T (submitAll bounds s (before.map Prod.fst))
        (submitAll bounds t (before.map Prod.snd)) x y ↔
        ¬Lingers bounds S (submitAll bounds s (before.map Prod.fst)) x) := by
    intro before x y after hsplit hearlier
    have hmem : ∀ z ∈ before, z ∈ pairs := fun z hz => hsplit ▸ List.mem_append_left _ hz
    obtain ⟨hstep, hsame⟩ := inStep_of_prefix hinStep hevent hpairs hdimensions before hmem hearlier
    have hxy : (x, y) ∈ pairs := hsplit ▸ List.mem_append_right _ List.mem_cons_self
    exact (step_iff bounds hstep hsame hpairs hdimensions hxy).1
  constructor
  · intro hagrees
    -- by induction on the length of what comes before, no submission lingers
    have hnone : ∀ n before x y after, before.length = n → pairs = before ++ (x, y) :: after →
        ¬Lingers bounds S (submitAll bounds s (before.map Prod.fst)) x := by
      intro n
      induction n using Nat.strong_induction_on with
      | _ n ih =>
        intro before x y after hlength hsplit
        refine (hafter before x y after hsplit ?_).mp (hagrees before x y after hsplit)
        intro earlier x' y' later hbefore
        have hshorter : earlier.length < n := by
          rw [← hlength, hbefore, List.length_append, List.length_cons]
          omega
        refine ih _ hshorter earlier x' y' (later ++ (x, y) :: after) rfl ?_
        rw [hsplit, hbefore, List.append_assoc, List.cons_append]
    rintro ⟨calls, x, later, hsplit, hlingers⟩
    obtain ⟨before, rest, hpairs', hbefore, hrest⟩ := List.map_eq_append_iff.mp hsplit
    obtain ⟨⟨x', y⟩, after, hcons, hx, -⟩ := List.map_eq_cons_iff.mp hrest
    rw [hcons] at hpairs'
    rw [← hbefore, ← hx] at hlingers
    exact hnone _ before x' y after rfl hpairs' hlingers
  · intro hlingers before x y after hsplit
    have hnone : ∀ earlier x' y' later, pairs = earlier ++ (x', y') :: later →
        ¬Lingers bounds S (submitAll bounds s (earlier.map Prod.fst)) x' := by
      intro earlier x' y' later hpairs' hlinger
      refine hlingers ⟨earlier.map Prod.fst, x', later.map Prod.fst, ?_, hlinger⟩
      rw [hpairs', List.map_append, List.map_cons]
    refine (hafter before x y after hsplit fun earlier x' y' later hbefore =>
      hnone earlier x' y' (later ++ (x, y) :: after) ?_).mpr (hnone before x y after hsplit)
    rw [hsplit, hbefore, List.append_assoc, List.cons_append]

end Runs

section Lingering

variable (kind : CameraKind)

/-- A name. -/
def headName : Name := ⟨py "head.camera.v1", by decide⟩

/-- The optical frame. -/
def opticalFrame : FrameId := ⟨py "head_optical", by decide⟩

/-- The mount frame. -/
def mountFrame : FrameId := ⟨py "head_mount", by decide⟩

/-- The sensor. -/
def headSensor : SensorIdentity := ⟨headName, kind.sensorKind, opticalFrame⟩

/-- The provenance. -/
def headProvenance : ObservationProvenance where
  sourceKind := .physicalSensor
  sourceId := headName
  clock := .rosSystemTime
  transport := .ros2
  interface := headName
  clock_eq := rfl
  recorded := fun h => by cases h

/-- Sixty-four zeros are a digest. -/
theorem headDigest_hex : IsHexDigest (List.replicate 64 48) := by decide

/-- A digest. -/
def headDigest : Digest := ⟨List.replicate 64 48, headDigest_hex⟩

/-- A calibration of one pixel. -/
def pixelCalibration : CameraCalibration where
  width := 1
  height := 1
  distortionModel := py "plumb_bob"
  d := []
  k := []
  r := []
  p := []
  binningX := 0
  binningY := 0
  roi := (0, 0, 0, 0, false)
  calibrationId := ⟨headDigest⟩
  dimensions := by decide

/-- The encoding of the images. -/
def CameraKind.headEncoding : CameraKind → PyStr
  | physical => py "rgb8"
  | depth => py "16UC1"

/-- The classification of the source. -/
def CameraKind.headClassification : (kind : CameraKind) → kind.Classification
  | physical => PhysicalCameraSourceClassification.projectReviewedDevice
  | depth => DepthSourceClassification.projectReviewedDevice

/-- Where the calibration comes from. -/
def CameraKind.headCalibrationSource : (kind : CameraKind) → kind.CalibrationSource
  | physical => PhysicalCameraCalibrationSource.projectFile
  | depth => DepthCalibrationSource.projectFile

/-- A source of images of one pixel. -/
def headSource : SourceManifest kind where
  sourceId := headName
  robotId := ayyoRobotId
  camera := headSensor kind
  adapterId := headName
  adapterImplementationSha256 := headDigest
  provenance := headProvenance
  classification := kind.headClassification
  mountFrameId := mountFrame
  encodings := [kind.headEncoding]
  minimumWidth := 1
  maximumWidth := 1
  minimumHeight := 1
  maximumHeight := 1
  calibrationId := ⟨headDigest⟩
  calibrationRecordId := ⟨headDigest⟩
  manifestId := ⟨headDigest⟩
  camera_kind := rfl
  source_eq := rfl
  reviewed := by
    cases kind with
    | physical => exact ⟨rfl, rfl⟩
    | depth => exact ⟨by decide, by decide⟩

/-- Its calibration. -/
def headCalibration : Calibration kind where
  camera := headSensor kind
  sourceId := headName
  mountFrameId := mountFrame
  opticalFrameId := opticalFrame
  calibrationVersion := headName
  calibrationSource := kind.headCalibrationSource
  importIdentity := none
  calibration := pixelCalibration
  calibrationRecordId := ⟨headDigest⟩

/-- The first session of the source. -/
def headSession : Session kind where
  source := headSource kind
  calibration := headCalibration kind
  sessionId := sessionIdOf .ascii (headSource kind).manifestId Count.zero.increment
  configured := ⟨rfl, rfl, rfl, rfl, rfl, rfl, ⟨le_rfl, le_rfl⟩, le_rfl, le_rfl⟩

/-- The adapter once it is configured. -/
def headConfigured : CameraState kind :=
  { CameraState.initial kind with
    source := some (headSource kind)
    calibration := some (headCalibration kind)
    state := .inactive }

/-- The adapter once it is activated. -/
def headActivated : CameraState kind := (activate .ascii (headConfigured kind)).1

/-- The adapter was just activated. -/
theorem headActivated_fresh : FreshlyActivated .ascii (headSession kind) (headActivated kind) :=
  ⟨headConfigured kind, rfl, rfl, rfl⟩

/-- No skew is a skew within the bound. -/
theorem noSkew_bounded : 0 ≤ 1000000000 := Nat.zero_le _

/-- Submissions wait for one nanosecond. -/
def headBounds : CameraBounds where
  pairWaitNs := 1
  retentionNs := 300000000000
  futureSkewNs := 0
  wait := by decide
  waiting := by decide
  skew := noSkew_bounded

/-- What the submissions at a time have in common. -/
def headMetadata (k : Fin 100) : Metadata kind where
  sourceId := headName
  sessionId := (headSession kind).sessionId
  robotId := ayyoRobotId
  camera := headSensor kind
  frameId := opticalFrame
  observedAtNs := k + 1
  provenance := headProvenance
  camera_kind := rfl
  bounded := ⟨by omega, by rw [maxObservationTimeNs]; omega⟩

/-- A depth of one metre is printed as a float. -/
theorem headDepth_float : isFloatToken (py "1.0") = true := by decide

/-- A depth of one metre. -/
def headDepth : FloatToken := ⟨py "1.0", headDepth_float⟩

/-- What a depth image of one metre says. -/
def CameraKind.headSummary : (kind : CameraKind) → kind.Summary
  | physical => ()
  | depth => DepthSummary.mk 1 0 headDepth headDepth headDigest

/-- An image of one pixel. -/
def headImage (k : Fin 100) : ImageMetadata kind where
  toMetadata := headMetadata kind k
  width := 1
  height := 1
  encoding := kind.headEncoding
  step := 3
  dataSizeBytes := 3
  isBigendian := false
  summary := kind.headSummary
  valid := by
    cases kind with
    | physical => exact ⟨by decide, by decide, by decide, by decide, by decide⟩
    | depth => exact ⟨by decide, by decide, le_rfl⟩

/-- Its CameraInfo. -/
def headInfo (k : Fin 100) : InfoMetadata kind where
  toMetadata := headMetadata kind k
  calibration := headCalibration kind

/-- The submission of an image or of a CameraInfo, at a time after the others. -/
def headSubmission : Bool × Fin 100 → Submission kind
  | (true, k) => .image (headImage kind k) 100
  | (false, k) => .cameraInfo (headInfo kind k) 100

/-- One submission to both adapters. -/
def headPair (call : Bool × Fin 100) : Submission .physical × Submission .depth :=
  (headSubmission .physical call, headSubmission .depth call)

/-- Images are equal when their times are. -/
theorem headImage_inj {j k : Fin 100} : headImage kind j = headImage kind k ↔ j = k := by
  constructor
  · intro h
    have htime : (j : Nat) + 1 = k + 1 := congrArg (fun image => image.observedAtNs) h
    omega
  · rintro rfl
    rfl

/-- CameraInfo are equal when their times are. -/
theorem headInfo_inj {j k : Fin 100} : headInfo kind j = headInfo kind k ↔ j = k := by
  constructor
  · intro h
    have htime : (j : Nat) + 1 = k + 1 := congrArg (fun info => info.observedAtNs) h
    omega
  · rintro rfl
    rfl

/-- The submissions to the two adapters say the same. -/
theorem headMetadata_agree (k : Fin 100) : MetadataAgree (headSession .physical)
    (headSession .depth) (headMetadata .physical k) (headMetadata .depth k) :=
  ⟨rfl, iff_of_true rfl rfl, iff_of_true ⟨rfl, rfl, rfl, rfl⟩ ⟨rfl, rfl, rfl, rfl⟩,
    iff_of_true rfl rfl⟩

/-- The images correspond. -/
theorem headImage_agree (k : Fin 100) : ImagesAgree (headSession .physical)
    (headSession .depth) (headImage .physical k) (headImage .depth k) where
  metadata := headMetadata_agree k
  physical := ⟨List.mem_singleton_self _, le_rfl, ⟨le_rfl, le_rfl⟩, le_rfl, le_rfl⟩
  depth := by
    have hmaximum : headDepth.toRat ≤ 10000 := by decide
    have hmono : depthEncoding? (py "16UC1") = some .mono16 := by decide
    have hstride : StrideFits DepthEncoding.mono16.bytesPerPixel 1 1 3 3 := by decide
    refine ⟨List.mem_singleton_self _, fun encoding hencoding => ?_, hmaximum, rfl⟩
    have hsame : encoding = .mono16 := Option.some.inj (hencoding.symm.trans hmono)
    rw [hsame]
    exact hstride
  dimensions := ⟨rfl, rfl⟩

/-- Any calls make a run of corresponding submissions. -/
theorem headPairs_corresponding (calls : List (Bool × Fin 100)) :
    Corresponding (headSession .physical) (headSession .depth) (calls.map headPair) := by
  refine ⟨fun x hx => ?_, fun x hx y hy => ?_, fun x hx y hy => ?_⟩
  · obtain ⟨⟨isImage, k⟩, -, rfl⟩ := List.mem_map.mp hx
    cases isImage with
    | true => exact .image 100 (headImage_agree k)
    | false => exact .cameraInfo 100 ⟨headMetadata_agree k, iff_of_true rfl rfl⟩
  · obtain ⟨⟨isImage, j⟩, -, rfl⟩ := List.mem_map.mp hx
    obtain ⟨⟨isImage', k⟩, -, rfl⟩ := List.mem_map.mp hy
    cases isImage <;> cases isImage'
    · exact iff_of_true rfl rfl
    · exact iff_of_false (fun h => by cases h) fun h => by cases h
    · exact iff_of_false (fun h => by cases h) fun h => by cases h
    · simp only [headPair, headSubmission, Submission.image?, Option.some.injEq, headImage_inj]
  · obtain ⟨⟨isImage, j⟩, -, rfl⟩ := List.mem_map.mp hx
    obtain ⟨⟨isImage', k⟩, -, rfl⟩ := List.mem_map.mp hy
    cases isImage <;> cases isImage'
    · simp only [headPair, headSubmission, Submission.info?, Option.some.injEq, headInfo_inj]
    · exact iff_of_false (fun h => by cases h) fun h => by cases h
    · exact iff_of_false (fun h => by cases h) fun h => by cases h
    · exact iff_of_true rfl rfl

/-- A lone image, an image that evicts it, its CameraInfo, and another lone image. -/
def lingeringCalls : List (Bool × Fin 100) := [(true, 9), (true, 19), (false, 19), (true, 20)]

/-- The activated adapters count alike. -/
theorem headActivated_counts : SameCounts (headActivated .physical) (headActivated .depth) :=
  ⟨rfl, rfl, rfl, rfl⟩

/-- The condition on a run of both adapters. -/
theorem cameras_agree_lingering : AgreesThroughout headBounds (headSession .physical)
    (headSession .depth) (headActivated .physical) (headActivated .depth)
    (lingeringCalls.map headPair) ↔ ¬LingersIn headBounds (headSession .physical)
      (headActivated .physical) ((lingeringCalls.map headPair).map Prod.fst) :=
  cameras_agree_iff .ascii headBounds _ _ _ _ (headActivated_fresh _) (headActivated_fresh _)
    headActivated_counts ⟨rfl, rfl⟩ _ (headPairs_corresponding _)

/-- The adapters report different events after the run. -/
theorem lingering_events :
    (submitAll headBounds (headActivated .physical)
      (lingeringCalls.map (headSubmission .physical))).diagnostics.event = .pendingEvicted ∧
    (submitAll headBounds (headActivated .depth)
      (lingeringCalls.map (headSubmission .depth))).diagnostics.event = .frameAccepted := by
  constructor
  · decide
  · decide

/-- The adapters do not agree on every run. -/
theorem not_forall_cameras_agree : ¬∀ (p : Platform) (bounds : CameraBounds)
    (S : Session .physical) (T : Session .depth) (s : CameraState .physical)
    (t : CameraState .depth), FreshlyActivated p S s → FreshlyActivated p T t → SameCounts s t →
      (S.calibration.calibration.width = T.calibration.calibration.width ∧
        S.calibration.calibration.height = T.calibration.calibration.height) →
      ∀ pairs, Corresponding S T pairs → AgreesThroughout bounds S T s t pairs := by
  intro h
  have hagrees := h .ascii headBounds _ _ _ _ (headActivated_fresh _) (headActivated_fresh _)
    headActivated_counts ⟨rfl, rfl⟩ _ (headPairs_corresponding lingeringCalls)
    ([(true, 9), (true, 19), (false, 19)].map headPair) _ _ [] rfl
  have hevents := lingering_events
  have hsame := (hevents.1.symm.trans hagrees.event).trans hevents.2
  cases hsame

end Lingering

end Camera
end AyyoHumanoid
