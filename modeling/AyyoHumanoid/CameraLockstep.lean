import AyyoHumanoid.CameraSubmissions

/-!
# Two camera adapters in step

Corresponding submissions to the physical and the depth adapter pass the same
checks, store corresponding items and complete the same pairs. Adapters in step
stay in step; only the events they report may come to differ, where a submission
is stored and completes no pair.
-/

namespace AyyoHumanoid
namespace Camera

open PyText JsonText World Perception

section Correspondence

variable (S : Session .physical) (T : Session .depth)

/-- The two say the same: the time, and whether they are of the session, the source and the
frame. -/
structure MetadataAgree (a : Metadata .physical) (b : Metadata .depth) : Prop where
  /-- The times are equal. -/
  time : a.observedAtNs = b.observedAtNs
  /-- Both are of the session or neither. -/
  session : a.sessionId = S.sessionId ↔ b.sessionId = T.sessionId
  /-- Both are of the source or neither. -/
  source : FromSource S.source a ↔ FromSource T.source b
  /-- Both are of the optical frame or neither. -/
  frame : a.frameId = S.source.camera.frameId ↔ b.frameId = T.source.camera.frameId

/-- The images correspond: each source supports its own, and the dimensions are equal. -/
structure ImagesAgree (a : ImageMetadata .physical) (b : ImageMetadata .depth) : Prop where
  /-- They say the same. -/
  metadata : MetadataAgree S T a.toMetadata b.toMetadata
  /-- The physical source supports the image. -/
  physical : SupportedVisual S.source a
  /-- The depth source supports the image. -/
  depth : SupportedDepth T.source b
  /-- The dimensions are equal. -/
  dimensions : a.width = b.width ∧ a.height = b.height

/-- The CameraInfo correspond: both calibrations match or neither. -/
structure InfosAgree (a : InfoMetadata .physical) (b : InfoMetadata .depth) : Prop where
  /-- They say the same. -/
  metadata : MetadataAgree S T a.toMetadata b.toMetadata
  /-- Both have the calibration of the session or neither. -/
  calibration : a.calibration = S.calibration ↔ b.calibration = T.calibration

/-- The submissions correspond: they are of one kind and made at one time. -/
inductive SubmissionsAgree : Submission .physical → Submission .depth → Prop where
  /-- Two images. -/
  | image {a : ImageMetadata .physical} {b : ImageMetadata .depth} (nowNs : Int)
      (h : ImagesAgree S T a b) : SubmissionsAgree (.image a nowNs) (.image b nowNs)
  /-- Two CameraInfo. -/
  | cameraInfo {a : InfoMetadata .physical} {b : InfoMetadata .depth} (nowNs : Int)
      (h : InfosAgree S T a b) : SubmissionsAgree (.cameraInfo a nowNs) (.cameraInfo b nowNs)

/-- A run of corresponding submissions, where one side repeats an item exactly when the other
does. -/
structure Corresponding (pairs : List (Submission .physical × Submission .depth)) : Prop where
  /-- The submissions correspond. -/
  agree : ∀ x ∈ pairs, SubmissionsAgree S T x.1 x.2
  /-- The images repeat alike. -/
  images : ∀ x ∈ pairs, ∀ y ∈ pairs, x.1.image? = y.1.image? ↔ x.2.image? = y.2.image?
  /-- The CameraInfo repeat alike. -/
  infos : ∀ x ∈ pairs, ∀ y ∈ pairs, x.1.info? = y.1.info? ↔ x.2.info? = y.2.info?

/-- Two images that wait at a time were submitted together. -/
structure ImagesFrom (pairs : List (Submission .physical × Submission .depth)) (time : Nat)
    (a : ImageMetadata .physical) (b : ImageMetadata .depth) : Prop where
  /-- They wait at their time. -/
  time_eq : a.observedAtNs = time ∧ b.observedAtNs = time
  /-- They correspond. -/
  agree : ImagesAgree S T a b
  /-- They were submitted. -/
  submitted : ∃ x ∈ pairs, x.1.image? = some a ∧ x.2.image? = some b

/-- Two CameraInfo that wait at a time were submitted together, with the calibrations of the
sessions. -/
structure InfosFrom (pairs : List (Submission .physical × Submission .depth)) (time : Nat)
    (a : InfoMetadata .physical) (b : InfoMetadata .depth) : Prop where
  /-- They wait at their time. -/
  time_eq : a.observedAtNs = time ∧ b.observedAtNs = time
  /-- Their calibrations are those of the sessions. -/
  calibration : a.calibration = S.calibration ∧ b.calibration = T.calibration
  /-- They were submitted. -/
  submitted : ∃ x ∈ pairs, x.1.info? = some a ∧ x.2.info? = some b

/-- The counts are equal. -/
structure SameCounts (s : CameraState .physical) (t : CameraState .depth) : Prop where
  /-- The accepted pairs. -/
  accepted : s.acceptedCount = t.acceptedCount
  /-- The rejected submissions. -/
  rejected : s.rejectedCount = t.rejectedCount
  /-- The repeated submissions. -/
  duplicate : s.duplicateCount = t.duplicateCount
  /-- The evicted submissions. -/
  evicted : s.evictedCount = t.evictedCount

/-- The adapters are in step, whatever events they report. -/
structure InStep (pairs : List (Submission .physical × Submission .depth))
    (s : CameraState .physical) (t : CameraState .depth) : Prop where
  /-- The physical adapter is active. -/
  physical : Active S s
  /-- The depth adapter is active. -/
  depth : Active T t
  /-- They accepted a pair of one time last. -/
  last : s.lastAcceptedAtNs = t.lastAcceptedAtNs
  /-- Corresponding images wait. -/
  images : PyDict.Alongside (ImagesFrom S T pairs) s.pendingImages.items t.pendingImages.items
  /-- Corresponding CameraInfo wait. -/
  infos : PyDict.Alongside (InfosFrom S T pairs) s.pendingCameraInfo.items
    t.pendingCameraInfo.items
  /-- The counts are equal. -/
  counts : SameCounts s t

/-- The adapters report one event. -/
def SameEvent (s : CameraState .physical) (t : CameraState .depth) : Prop :=
  s.diagnostics.event = t.diagnostics.event

end Correspondence

section Updates

variable {S : Session .physical} {T : Session .depth}
  {pairs : List (Submission .physical × Submission .depth)} {s : CameraState .physical}
  {t : CameraState .depth}

/-- The diagnostics do not matter. -/
theorem InStep.diagnostics (h : InStep S T pairs s t) (d : Diagnostics .physical)
    (e : Diagnostics .depth) : InStep S T pairs (s.reporting d) (t.reporting e) :=
  ⟨⟨h.physical.state, h.physical.source, h.physical.calibration, h.physical.sessionId⟩,
    ⟨h.depth.state, h.depth.source, h.depth.calibration, h.depth.sessionId⟩, h.last, h.images,
    h.infos, ⟨h.counts.accepted, h.counts.rejected, h.counts.duplicate, h.counts.evicted⟩⟩

/-- Counting a rejection keeps the adapters in step. -/
theorem InStep.countRejected (h : InStep S T pairs s t) :
    InStep S T pairs s.countRejected t.countRejected :=
  ⟨⟨h.physical.state, h.physical.source, h.physical.calibration, h.physical.sessionId⟩,
    ⟨h.depth.state, h.depth.source, h.depth.calibration, h.depth.sessionId⟩, h.last, h.images,
    h.infos, ⟨h.counts.accepted, congrArg Count.increment h.counts.rejected, h.counts.duplicate,
      h.counts.evicted⟩⟩

/-- Counting a duplicate keeps the adapters in step. -/
theorem InStep.countDuplicate (h : InStep S T pairs s t) :
    InStep S T pairs s.countDuplicate t.countDuplicate :=
  ⟨⟨h.physical.state, h.physical.source, h.physical.calibration, h.physical.sessionId⟩,
    ⟨h.depth.state, h.depth.source, h.depth.calibration, h.depth.sessionId⟩, h.last, h.images,
    h.infos, ⟨h.counts.accepted, h.counts.rejected,
      congrArg Count.increment h.counts.duplicate, h.counts.evicted⟩⟩

/-- Rejecting both submissions keeps the adapters in step. -/
theorem InStep.rejectAt (h : InStep S T pairs s t) (event : DiagnosticEvent)
    (availability : SensorAvailability) (a : Metadata .physical) (b : Metadata .depth) :
    InStep S T pairs (s.rejectAt event availability a) (t.rejectAt event availability b) :=
  h.countRejected.diagnostics _ _

/-- Accepting a pair of one time keeps the adapters in step. -/
theorem InStep.accept (h : InStep S T pairs s t) (time : Nat) :
    InStep S T pairs (s.accept time) (t.accept time) :=
  ⟨⟨h.physical.state, h.physical.source, h.physical.calibration, h.physical.sessionId⟩,
    ⟨h.depth.state, h.depth.source, h.depth.calibration, h.depth.sessionId⟩, rfl, h.images,
    h.infos, ⟨congrArg Count.increment h.counts.accepted, h.counts.rejected, h.counts.duplicate,
      h.counts.evicted⟩⟩

/-- Taking the submissions of one time keeps the adapters in step. -/
theorem InStep.taken (h : InStep S T pairs s t) (time : Nat) :
    InStep S T pairs
      { s with
        pendingImages := s.pendingImages.remove time
        pendingCameraInfo := s.pendingCameraInfo.remove time }
      { t with
        pendingImages := t.pendingImages.remove time
        pendingCameraInfo := t.pendingCameraInfo.remove time } :=
  ⟨⟨h.physical.state, h.physical.source, h.physical.calibration, h.physical.sessionId⟩,
    ⟨h.depth.state, h.depth.source, h.depth.calibration, h.depth.sessionId⟩, h.last,
    h.images.remove time, h.infos.remove time,
    ⟨h.counts.accepted, h.counts.rejected, h.counts.duplicate, h.counts.evicted⟩⟩

/-- Evicting keeps dictionaries side by side. -/
theorem evict_alongside {α β : Type} {R : Nat → α → β → Prop} {d : PyDict Nat α}
    {e : PyDict Nat β} (h : PyDict.Alongside R d e) (cutoff : Int) :
    PyDict.Alongside R (Pending.evict cutoff d).items (Pending.evict cutoff e).items :=
  h.keep.trim _

/-- As much is evicted from dictionaries side by side. -/
theorem evicted_alongside {α β : Type} {R : Nat → α → β → Prop} {d : PyDict Nat α}
    {e : PyDict Nat β} (h : PyDict.Alongside R d e) (cutoff : Int) :
    Pending.evicted cutoff d = Pending.evicted cutoff e := by
  rw [Pending.evicted, Pending.evicted, h.size, (evict_alongside h cutoff).size]

/-- Evicting keeps the adapters in step. -/
theorem InStep.expire (h : InStep S T pairs s t) (bounds : CameraBounds)
    {images : PyDict Nat (ImageMetadata .physical)} {images' : PyDict Nat (ImageMetadata .depth)}
    {infos : PyDict Nat (InfoMetadata .physical)} {infos' : PyDict Nat (InfoMetadata .depth)}
    (himages : PyDict.Alongside (ImagesFrom S T pairs) images images')
    (hinfos : PyDict.Alongside (InfosFrom S T pairs) infos infos') (newestNs : Nat) :
    InStep S T pairs (s.expire bounds images infos newestNs)
      (t.expire bounds images' infos' newestNs) := by
  have hevicted : (s.expire bounds images infos newestNs).evictedCount =
      (t.expire bounds images' infos' newestNs).evictedCount := by
    simp only [CameraState.expire]
    rw [h.counts.evicted, evicted_alongside himages, evicted_alongside hinfos]
  exact ⟨⟨h.physical.state, h.physical.source, h.physical.calibration, h.physical.sessionId⟩,
    ⟨h.depth.state, h.depth.source, h.depth.calibration, h.depth.sessionId⟩, h.last,
    evict_alongside himages _, evict_alongside hinfos _,
    ⟨h.counts.accepted, h.counts.rejected, h.counts.duplicate, hevicted⟩⟩

end Updates

section Outcomes

variable {S : Session .physical} {T : Session .depth} {bounds : CameraBounds}
  {pairs : List (Submission .physical × Submission .depth)} {s : CameraState .physical}
  {t : CameraState .depth}

/-- A call issued an admission. -/
def Admits {kind : CameraKind} (outcome : Except CameraError (Option (Admission kind))) : Prop :=
  ∃ admission, outcome = .ok (some admission)

/-- A call raised. -/
def Raises {kind : CameraKind} (outcome : Except CameraError (Option (Admission kind))) : Prop :=
  ∃ error, outcome = .error error

/-- Two results after which the adapters are in step and report one event, which is the one
before or not of an eviction. -/
structure Settled (S : Session .physical) (T : Session .depth)
    (pairs : List (Submission .physical × Submission .depth)) (before : DiagnosticEvent)
    (x : CameraState .physical × Except CameraError (Option (Admission .physical)))
    (y : CameraState .depth × Except CameraError (Option (Admission .depth))) : Prop where
  /-- The adapters are in step. -/
  inStep : InStep S T pairs x.1 y.1
  /-- They report one event. -/
  event : SameEvent x.1 y.1
  /-- Both issue an admission or neither. -/
  admits : Admits x.2 ↔ Admits y.2
  /-- Both raise or neither. -/
  raises : Raises x.2 ↔ Raises y.2
  /-- No eviction is reported anew. -/
  quiet : x.1.diagnostics.event = before ∨ x.1.diagnostics.event ≠ .pendingEvicted

/-- Nothing is admitted by returning nothing. -/
theorem not_admits_none {kind : CameraKind} :
    ¬Admits (.ok none : Except CameraError (Option (Admission kind))) := by
  rintro ⟨admission, h⟩
  cases h

/-- Nothing is raised by returning. -/
theorem not_raises_ok {kind : CameraKind} {reply : Option (Admission kind)} :
    ¬Raises (.ok reply : Except CameraError (Option (Admission kind))) := by
  rintro ⟨error, h⟩
  cases h

/-- An admission is issued by returning it. -/
theorem admits_some {kind : CameraKind} {admission : Admission kind} :
    Admits (.ok (some admission) : Except CameraError (Option (Admission kind))) :=
  ⟨admission, rfl⟩

/-- Results without an admission, after which the adapters are in step. -/
theorem settled_none {before : DiagnosticEvent} (h : InStep S T pairs s t) (hevent : SameEvent s t)
    (hquiet : s.diagnostics.event = before ∨ s.diagnostics.event ≠ .pendingEvicted) :
    Settled S T pairs before (s, .ok none) (t, .ok none) where
  inStep := h
  event := hevent
  admits := iff_of_false not_admits_none not_admits_none
  raises := iff_of_false not_raises_ok not_raises_ok
  quiet := hquiet

/-- Both submissions are rejected for one reason. -/
theorem settled_reject (h : InStep S T pairs s t) {event before : DiagnosticEvent}
    (hevent : event ≠ .pendingEvicted) (availability : SensorAvailability)
    (a : Metadata .physical) (b : Metadata .depth) :
    Settled S T pairs before (s.rejectAt event availability a, .ok none)
      (t.rejectAt event availability b, .ok none) :=
  settled_none (h.rejectAt event availability a b) rfl (Or.inr hevent)

/-- Both submissions repeat a time. -/
theorem settled_repeated (h : InStep S T pairs s t) (before : DiagnosticEvent)
    (a : Metadata .physical) (b : Metadata .depth) :
    Settled S T pairs before (s.repeated a, .ok none) (t.repeated b, .ok none) := by
  have hother : DiagnosticEvent.repeatedTimestamp ≠ .pendingEvicted := by decide
  exact settled_none (h.diagnostics _ _) rfl (Or.inr hother)

/-- Corresponding images are of the calibrated dimensions in both adapters or in neither. -/
theorem sameDimensions_iff {time : Nat} {a : ImageMetadata .physical} {b : ImageMetadata .depth}
    (hab : ImagesFrom S T pairs time a b)
    (hdimensions : S.calibration.calibration.width = T.calibration.calibration.width ∧
      S.calibration.calibration.height = T.calibration.calibration.height) :
    SameDimensions a S.calibration.calibration ↔ SameDimensions b T.calibration.calibration := by
  rw [SameDimensions, SameDimensions, hab.agree.dimensions.1, hab.agree.dimensions.2,
    hdimensions.1, hdimensions.2]

/-- Corresponding pairs are admitted by both adapters or rejected by both. -/
theorem pair_settled (h : InStep S T pairs s t) {time : Nat} {a : ImageMetadata .physical}
    {b : ImageMetadata .depth} {i : InfoMetadata .physical} {j : InfoMetadata .depth}
    (hab : ImagesFrom S T pairs time a b) (hij : InfosFrom S T pairs time i j)
    (hdimensions : S.calibration.calibration.width = T.calibration.calibration.width ∧
      S.calibration.calibration.height = T.calibration.calibration.height)
    (before : DiagnosticEvent) : Settled S T pairs before (pair s a i) (pair t b j) := by
  have hsame := sameDimensions_iff hab hdimensions
  by_cases hfit : SameDimensions a S.calibration.calibration
  · obtain ⟨availability, admission, hleft⟩ :=
      pair_admitted h.physical hij.calibration.1 hab.agree.physical hfit
    obtain ⟨availability', admission', hright⟩ :=
      pair_admitted h.depth hij.calibration.2 hab.agree.depth (hsame.mp hfit)
    have hother : DiagnosticEvent.frameAccepted ≠ .pendingEvicted := by decide
    rw [hleft, hright, hab.time_eq.1, hab.time_eq.2]
    exact {
      inStep := (h.accept time).diagnostics _ _
      event := rfl
      admits := iff_of_true admits_some admits_some
      raises := iff_of_false not_raises_ok not_raises_ok
      quiet := Or.inr hother }
  · have hfit' : ¬SameDimensions b T.calibration.calibration := fun hother =>
      hfit (hsame.mpr hother)
    rw [← hij.calibration.1] at hfit
    rw [← hij.calibration.2] at hfit'
    have hleft := pair_mismatch h.physical hfit
    have hright := pair_mismatch h.depth hfit'
    rw [hleft, hright]
    exact settled_reject h (by decide) .error _ _

end Outcomes

section Lockstep

variable {S : Session .physical} {T : Session .depth} {bounds : CameraBounds}
  {pairs : List (Submission .physical × Submission .depth)} {s : CameraState .physical}
  {t : CameraState .depth}

variable (bounds) in
/-- Corresponding submissions are timely alike. -/
theorem timely_iff (h : InStep S T pairs s t) {a : Metadata .physical} {b : Metadata .depth}
    (hab : MetadataAgree S T a b) (nowNs : Int) :
    Timely bounds S s a nowNs ↔ Timely bounds T t b nowNs := by
  have htime := hab.time
  constructor
  · intro ha
    have harrived := ha.arrived
    have hrecent := ha.recent
    have hlater := ha.later
    rw [h.last, htime] at hlater
    exact ⟨ha.now, hab.session.mp ha.ofSession, hab.source.mp ha.ofSource, hab.frame.mp ha.ofFrame,
      by omega, by omega, hlater⟩
  · intro hb
    have harrived := hb.arrived
    have hrecent := hb.recent
    have hlater := hb.later
    rw [← h.last, ← htime] at hlater
    exact ⟨hb.now, hab.session.mpr hb.ofSession, hab.source.mpr hb.ofSource,
      hab.frame.mpr hb.ofFrame, by omega, by omega, hlater⟩

/-- The source test of the common checks. -/
theorem not_fromSource {kind : CameraKind} {source : SourceManifest kind} {value : Metadata kind} :
    ¬FromSource source value ↔ value.sourceId ≠ source.sourceId ∨ value.robotId ≠ source.robotId ∨
      value.camera ≠ source.camera ∨ value.provenance ≠ source.provenance := by
  rw [FromSource, not_and_or, not_and_or, not_and_or]

/-- Both adapters decline a submission that is not timely, for one reason. -/
theorem declined_settled (h : InStep S T pairs s t) (hevent : SameEvent s t)
    {a : Metadata .physical} {b : Metadata .depth} (hab : MetadataAgree S T a b) (nowNs : Int) :
    Settled S T pairs s.diagnostics.event
      (declined (validateActive bounds s S.source S.sessionId a nowNs))
      (declined (validateActive bounds t T.source T.sessionId b nowNs)) := by
  have htime := hab.time
  rw [validateActive, validateActive]
  rw [← htime, ← h.last]
  by_cases hnow : ¬(0 ≤ nowNs ∧ nowNs ≤ 2 ^ 63 - 1)
  · rw [if_pos hnow, if_pos hnow]
    exact {
      inStep := h
      event := hevent
      admits := iff_of_false (fun hadmits => by cases hadmits; contradiction)
        (fun hadmits => by cases hadmits; contradiction)
      raises := iff_of_true ⟨_, rfl⟩ ⟨_, rfl⟩
      quiet := Or.inl rfl }
  rw [if_neg hnow, if_neg hnow]
  by_cases hsession : a.sessionId ≠ S.sessionId
  · rw [if_pos hsession, if_pos fun hsame => hsession (hab.session.mpr hsame)]
    exact settled_reject h (by decide) .error a b
  rw [if_neg hsession, if_neg (not_not.mpr (hab.session.mp (not_not.mp hsession)))]
  by_cases hsource : ¬FromSource S.source a
  · have hsource' : ¬FromSource T.source b := fun hsame => hsource (hab.source.mpr hsame)
    rw [if_pos (not_fromSource.mp hsource), if_pos (not_fromSource.mp hsource')]
    exact settled_reject h (by decide) .error a b
  have hsource' : FromSource T.source b := hab.source.mp (not_not.mp hsource)
  rw [if_neg fun hother => hsource (not_fromSource.mpr hother),
    if_neg fun hother => not_fromSource.mpr hother hsource']
  by_cases hframe : a.frameId ≠ S.source.camera.frameId
  · rw [if_pos hframe, if_pos fun hsame => hframe (hab.frame.mpr hsame)]
    exact settled_reject h (by decide) .error a b
  rw [if_neg hframe, if_neg (not_not.mpr (hab.frame.mp (not_not.mp hframe)))]
  by_cases hfuture : nowNs + bounds.futureSkewNs < a.observedAtNs
  · rw [if_pos hfuture, if_pos hfuture]
    exact settled_reject h (by decide) .error a b
  rw [if_neg hfuture, if_neg hfuture]
  by_cases hstale : (a.observedAtNs : Int) < nowNs - bounds.retentionNs
  · rw [if_pos hstale, if_pos hstale]
    exact settled_reject h (by decide) .stale a b
  rw [if_neg hstale, if_neg hstale]
  by_cases hlast : s.lastAcceptedAtNs.any (fun last => decide (a.observedAtNs < last)) = true
  · rw [if_pos hlast, if_pos hlast]
    exact settled_reject h (by decide) .error a b
  rw [if_neg hlast, if_neg hlast]
  by_cases hrepeated : s.lastAcceptedAtNs = some a.observedAtNs
  · rw [if_pos hrepeated, if_pos hrepeated]
    exact settled_repeated h.countDuplicate _ a b
  rw [if_neg hrepeated, if_neg hrepeated]
  exact settled_none h hevent (Or.inl rfl)

/-- Corresponding submissions leave corresponding images waiting. -/
theorem storedImages_alongside (h : InStep S T pairs s t)
    {x : Submission .physical} {y : Submission .depth} (hx : (x, y) ∈ pairs)
    (hxy : SubmissionsAgree S T x y) :
    PyDict.Alongside (ImagesFrom S T pairs) (x.storedImages s) (y.storedImages t) := by
  cases hxy with
  | @image a b nowNs hab =>
    have htime : a.observedAtNs = b.observedAtNs := hab.metadata.time
    simp only [Submission.storedImages]
    rw [← htime]
    exact h.images.set ⟨⟨rfl, htime.symm⟩, hab, _, hx, rfl, rfl⟩
  | cameraInfo nowNs hab => exact h.images

/-- Corresponding submissions leave corresponding CameraInfo waiting. -/
theorem storedInfos_alongside (h : InStep S T pairs s t)
    {x : Submission .physical} {y : Submission .depth} (hx : (x, y) ∈ pairs)
    (hxy : SubmissionsAgree S T x y) (hleft : x.Supported S) (hright : y.Supported T) :
    PyDict.Alongside (InfosFrom S T pairs) (x.storedInfos s) (y.storedInfos t) := by
  cases hxy with
  | image nowNs hab => exact h.infos
  | @cameraInfo a b nowNs hab =>
    have htime : a.observedAtNs = b.observedAtNs := hab.metadata.time
    simp only [Submission.storedInfos]
    rw [← htime]
    exact h.infos.set ⟨⟨rfl, htime.symm⟩, ⟨hleft, hright⟩, _, hx, rfl, rfl⟩

/-- Corresponding submissions have one time. -/
theorem SubmissionsAgree.metadata {x : Submission .physical} {y : Submission .depth}
    (h : SubmissionsAgree S T x y) : MetadataAgree S T x.value y.value ∧ x.nowNs = y.nowNs := by
  cases h with
  | image nowNs hab => exact ⟨hab.metadata, rfl⟩
  | cameraInfo nowNs hab => exact ⟨hab.metadata, rfl⟩

/-- The state once a submission is stored and what expired is evicted. -/
def Submission.expired {kind : CameraKind} (bounds : CameraBounds) (s : CameraState kind)
    (x : Submission kind) : CameraState kind :=
  s.expire bounds (x.storedImages s) (x.storedInfos s) x.value.observedAtNs

variable (bounds) in
/-- What two stored submissions lead to: a pair in both adapters or in neither. -/
theorem settle_cases (h : InStep S T pairs s t)
    (hdimensions : S.calibration.calibration.width = T.calibration.calibration.width ∧
      S.calibration.calibration.height = T.calibration.calibration.height)
    {x : Submission .physical} {y : Submission .depth} (hx : (x, y) ∈ pairs)
    (hxy : SubmissionsAgree S T x y) (hleft : x.Supported S) (hright : y.Supported T) :
    (x.Completes bounds s ∧ Settled S T pairs s.diagnostics.event (x.settle bounds s)
        (y.settle bounds t)) ∨
      (¬x.Completes bounds s ∧ InStep S T pairs (x.expired bounds s) (y.expired bounds t) ∧
        (∃ d, x.settle bounds s = ((x.expired bounds s).reporting d, .ok none) ∧
          d.event = physicalEvent (x.expired bounds s)) ∧
        ∃ e, y.settle bounds t = ((y.expired bounds t).reporting e, .ok none) ∧
          e.event = depthEvent (y.expired bounds t) t) := by
  have htime := hxy.metadata.1.time
  have himages := storedImages_alongside h hx hxy
  have hinfos := storedInfos_alongside h hx hxy hleft hright
  have hexpired : InStep S T pairs (x.expired bounds s) (y.expired bounds t) := by
    rw [Submission.expired, Submission.expired, ← htime]
    exact h.expire bounds himages hinfos _
  obtain ⟨d, hd, hdevent⟩ := evictPhysical_eq bounds s (x.storedImages s)
    (x.storedInfos s) x.value
  obtain ⟨e, he, heevent⟩ := evictDepth_eq bounds t (y.storedImages t)
    (y.storedInfos t) y.value
  rw [Submission.settle, Submission.settle, hd, he, ← htime]
  have hcompletes : x.Completes bounds s ↔
      (((x.expired bounds s).pendingImages.items.get? x.value.observedAtNs).isSome = true ∧
        ((x.expired bounds s).pendingCameraInfo.items.get?
          x.value.observedAtNs).isSome = true) := Iff.rfl
  have hfound := hexpired.images.isSome_get? x.value.observedAtNs
  have hfound' := hexpired.infos.isSome_get? x.value.observedAtNs
  by_cases hpair : x.Completes bounds s
  · left
    refine ⟨hpair, ?_⟩
    obtain ⟨himage, hinfo⟩ := hcompletes.mp hpair
    obtain ⟨a, ha⟩ := Option.isSome_iff_exists.mp himage
    obtain ⟨i, hi⟩ := Option.isSome_iff_exists.mp hinfo
    obtain ⟨b, hb, hab⟩ := hexpired.images.exists_get? ha
    obtain ⟨j, hj, hij⟩ := hexpired.infos.exists_get? hi
    have hleft' := tryPair_pairs (s := (x.expired bounds s).reporting d) ha hi
    have hright' := tryPair_pairs (s := (y.expired bounds t).reporting e) hb hj
    simp only [Submission.expired, ← htime] at hleft' hright'
    rw [hleft', hright']
    have htaken := (hexpired.diagnostics d e).taken x.value.observedAtNs
    simp only [Submission.expired, ← htime] at htaken
    exact pair_settled htaken hab hij hdimensions _
  · right
    have hmissing := fun hsome => hpair (hcompletes.mpr hsome)
    have hmissing' := hmissing
    rw [hfound, hfound'] at hmissing'
    refine ⟨hpair, hexpired, ⟨d, ?_, hdevent⟩, ⟨e, ?_, ?_⟩⟩
    · exact tryPair_waits (s := (x.expired bounds s).reporting d) hmissing
    · have hwaits := tryPair_waits (s := (y.expired bounds t).reporting e) hmissing'
      simp only [Submission.expired, ← htime] at hwaits ⊢
      exact hwaits
    · exact heevent

/-- Corresponding submissions repeat what waits alike. -/
theorem existing_iff {α β γ δ : Type} {item : γ → Option α} {item' : δ → Option β}
    {pairs : List (γ × δ)}
    (hrepeat : ∀ x ∈ pairs, ∀ y ∈ pairs, item x.1 = item y.1 ↔ item' x.2 = item' y.2)
    {a existing : α} {b existing' : β} {x : γ × δ} (hx : x ∈ pairs)
    (hitem : item x.1 = some a ∧ item' x.2 = some b)
    (hfrom : ∃ y ∈ pairs, item y.1 = some existing ∧ item' y.2 = some existing') :
    existing = a ↔ existing' = b := by
  obtain ⟨y, hy, hleft, hright⟩ := hfrom
  have hiff := hrepeat y hy x hx
  rw [hleft, hright, hitem.1, hitem.2, Option.some.injEq, Option.some.injEq] at hiff
  exact hiff

/-- Both adapters count a repeated submission alike. -/
theorem repeated_settled (h : InStep S T pairs s t) {α β : Type} [DecidableEq α] [DecidableEq β]
    {a existing : α} {b existing' : β} (hsame : existing = a ↔ existing' = b)
    (before : DiagnosticEvent) (value : Metadata .physical) (value' : Metadata .depth) :
    Settled S T pairs before (settleRepeated s value existing a, .ok none)
      (settleRepeated t value' existing' b, .ok none) := by
  rw [settleRepeated, settleRepeated]
  by_cases heq : existing = a
  · rw [if_pos heq, if_pos (hsame.mp heq)]
    exact settled_repeated h.countDuplicate before value value'
  · rw [if_neg heq, if_neg fun hother => heq (hsame.mpr hother)]
    exact settled_repeated h.countRejected before value value'

variable (bounds) in
/-- Either both submissions are stored, or neither is and the adapters stay in step. -/
theorem reaches_or_settled (h : InStep S T pairs s t) (hevent : SameEvent s t)
    (hpairs : Corresponding S T pairs) {x : Submission .physical} {y : Submission .depth}
    (hx : (x, y) ∈ pairs) :
    (x.Reaches bounds S s ∧ y.Reaches bounds T t) ∨
      (¬x.Reaches bounds S s ∧
        Settled S T pairs s.diagnostics.event (submit bounds s x) (submit bounds t y)) := by
  have hxy : SubmissionsAgree S T x y := hpairs.agree _ hx
  have hmetadata := hxy.metadata
  have htimely := timely_iff bounds h hmetadata.1 x.nowNs
  by_cases hleft : Timely bounds S s x.value x.nowNs
  · have hright := htimely.mp hleft
    cases hxy with
    | @image a b nowNs hab =>
      have htime : a.observedAtNs = b.observedAtNs := hab.metadata.time
      have hleft' : Timely bounds S s a.toMetadata nowNs := hleft
      have hright' : Timely bounds T t b.toMetadata nowNs := hright
      cases hfound : s.pendingImages.items.get? a.observedAtNs with
      | none =>
        have hfound' := h.images.get?_eq_none hfound
        rw [htime] at hfound'
        exact Or.inl ⟨⟨hleft, hab.physical, hfound⟩, hright, hab.depth, hfound'⟩
      | some existing =>
        obtain ⟨existing', hfound', hfrom⟩ := h.images.exists_get? hfound
        have hsame := existing_iff hpairs.images hx ⟨rfl, rfl⟩ hfrom.submitted
        rw [htime] at hfound'
        rw [submit_repeated_image h.physical hleft' hab.physical hfound,
          submit_repeated_image h.depth hright' hab.depth hfound']
        refine Or.inr ⟨fun hreaches => ?_, repeated_settled h hsame _ _ _⟩
        have hnew : s.pendingImages.items.get? a.observedAtNs = none := hreaches.isNew
        rw [hfound] at hnew
        cases hnew
    | @cameraInfo a b nowNs hab =>
      have htime : a.observedAtNs = b.observedAtNs := hab.metadata.time
      have hleft' : Timely bounds S s a.toMetadata nowNs := hleft
      have hright' : Timely bounds T t b.toMetadata nowNs := hright
      by_cases hcalibration : a.calibration = S.calibration
      · have hcalibration' := hab.calibration.mp hcalibration
        cases hfound : s.pendingCameraInfo.items.get? a.observedAtNs with
        | none =>
          have hfound' := h.infos.get?_eq_none hfound
          rw [htime] at hfound'
          exact Or.inl ⟨⟨hleft, hcalibration, hfound⟩, hright, hcalibration', hfound'⟩
        | some existing =>
          obtain ⟨existing', hfound', hfrom⟩ := h.infos.exists_get? hfound
          have hsame := existing_iff hpairs.infos hx ⟨rfl, rfl⟩ hfrom.submitted
          rw [htime] at hfound'
          rw [submit_repeated_info h.physical hleft' hcalibration hfound,
            submit_repeated_info h.depth hright' hcalibration' hfound']
          refine Or.inr ⟨fun hreaches => ?_, repeated_settled h hsame _ _ _⟩
          have hnew : s.pendingCameraInfo.items.get? a.observedAtNs = none := hreaches.isNew
          rw [hfound] at hnew
          cases hnew
      · have hcalibration' : b.calibration ≠ T.calibration := fun hsame =>
          hcalibration (hab.calibration.mpr hsame)
        rw [submit_uncalibrated h.physical hleft' hcalibration,
          submit_uncalibrated h.depth hright' hcalibration']
        exact Or.inr ⟨fun hreaches => hcalibration hreaches.supported,
          settled_reject h (by decide) .error _ _⟩
  · have hright : ¬Timely bounds T t y.value y.nowNs := fun hright =>
      hleft (htimely.mpr (hmetadata.2 ▸ hright))
    rw [submit_declined h.physical hleft, submit_declined h.depth hright, ← hmetadata.2]
    exact Or.inr ⟨fun hreaches => hleft hreaches.timely, declined_settled h hevent hmetadata.1 _⟩

/-- A stored submission that completes no pair makes the events of the two adapters differ exactly
when it lingers. -/
theorem sameEvent_iff (h : InStep S T pairs s t) (hevent : SameEvent s t)
    {x : Submission .physical} {y : Submission .depth} (hreaches : x.Reaches bounds S s)
    (hwaits : ¬x.Completes bounds s)
    (hexpired : InStep S T pairs (x.expired bounds s) (y.expired bounds t)) :
    physicalEvent (x.expired bounds s) = depthEvent (y.expired bounds t) t ↔
      ¬Lingers bounds S s x := by
  have hcount : (x.expired bounds s).evictedCount.value =
      min (s.evictedCount.value + x.evictions bounds s) maxCameraCount :=
    iterate_increment _ _
  have hle := s.evictedCount.le
  have hchanged : (y.expired bounds t).evictedCount ≠ t.evictedCount ↔
      (x.expired bounds s).evictedCount.value ≠ s.evictedCount.value := by
    rw [← hexpired.counts.evicted, ← h.counts.evicted, ne_eq, ne_eq, not_iff_not]
    exact ⟨congrArg Count.value, fun hvalue => by
      cases hleft : (x.expired bounds s).evictedCount
      cases hright : s.evictedCount
      rw [hleft, hright] at hvalue
      simp only at hvalue
      subst hvalue
      rfl⟩
  have hbefore : (x.expired bounds s).diagnostics.event = s.diagnostics.event := rfl
  have hbefore' : (y.expired bounds t).diagnostics.event = s.diagnostics.event := hevent.symm
  rw [physicalEvent, depthEvent, hbefore, hbefore']
  have hmax : 0 < maxCameraCount := by decide
  constructor
  · rintro hsame ⟨-, -, hother, hevicted, huncounted⟩
    have hpositive : (x.expired bounds s).evictedCount.value ≠ 0 := by omega
    have hkept : ¬(y.expired bounds t).evictedCount ≠ t.evictedCount := by
      rw [hchanged]
      omega
    rw [if_pos hpositive, if_neg hkept] at hsame
    exact hother hsame.symm
  · intro hlingers
    by_cases hsame : s.diagnostics.event = .pendingEvicted
    · rw [hsame, ite_self, ite_self]
    by_cases hkept : (x.expired bounds s).evictedCount.value = s.evictedCount.value
    · have hnone : s.evictedCount.value = 0 := by
        by_contra hevicted
        exact hlingers ⟨hreaches, hwaits, hsame, hevicted, by omega⟩
      rw [if_neg (by rw [hkept, hnone]; exact fun hne => hne rfl),
        if_neg fun hne => hchanged.mp hne hkept]
    · rw [if_pos (by omega), if_pos (hchanged.mpr hkept)]

end Lockstep

end Camera
end AyyoHumanoid
