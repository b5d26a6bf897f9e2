import AyyoHumanoid.WorkingProvenance

/-!
# What is reported as a duplicate

An observation whose identity is retained is a duplicate. A semantic batch that
repeats the watermark of its source is reported as one too, and the watermark
outlives the batch: when the batch was evicted and left the recent evidence, the
memory reports as retained what it does not hold any more.
-/

namespace AyyoHumanoid
namespace Working

open PyText JsonText PyCollections World

variable {p : Platform}

section Holding

/-- The memory holds an observation with the identity, as current or recent evidence. -/
def Holds (evidence : Evidence p) (observationId : ObservationId) : Prop :=
  (∃ slot found, evidence.current slot = some found ∧ found.observationId = observationId) ∨
    ∃ item ∈ evidence.recent, item.observation.observationId = observationId

/-- The batches are kept under their identities. -/
def KeyedBatches (evidence : Evidence p) : Prop :=
  ∀ observationId batch, evidence.semanticEvidence.get? observationId = some batch →
    batch.fingerprint.observationId = observationId

variable {runtime : WorkingRuntime} {memory : WorkingMemory} {evidence : Evidence p}

/-- The identities of a dictionary of evidence. -/
theorem mem_map_values {κ α : Type} [DecidableEq κ] (d : PyDict κ α) (make : α → Observation p)
    {observationId : ObservationId} :
    observationId ∈ d.values.map (fun o => (make o).observationId) ↔
      ∃ key found, (d.get? key).map make = some found ∧ found.observationId = observationId := by
  rw [List.mem_map]
  constructor
  · rintro ⟨o, ho, hid⟩
    obtain ⟨key, hkey⟩ := PyDict.mem_values.mp ho
    exact ⟨key, make o, by rw [hkey]; rfl, hid⟩
  · rintro ⟨key, found, hfound, hid⟩
    obtain ⟨o, ho, rfl⟩ := Option.map_eq_some_iff.mp hfound
    exact ⟨o, PyDict.mem_values.mpr ⟨key, ho⟩, hid⟩

/-- The identity of the base pose. -/
theorem mem_map_pose {observationId : ObservationId} :
    observationId ∈ evidence.poseEvidence.toList.map
        (fun o => (Observation.robotState o : Observation p).observationId) ↔
      ∃ found, evidence.current .basePose = some found ∧ found.observationId = observationId := by
  rw [List.mem_map]
  constructor
  · rintro ⟨o, ho, hid⟩
    rw [Option.mem_toList] at ho
    exact ⟨.robotState o, by rw [Evidence.current, ho]; rfl, hid⟩
  · rintro ⟨found, hfound, hid⟩
    obtain ⟨o, ho, rfl⟩ := Option.map_eq_some_iff.mp hfound
    exact ⟨o, Option.mem_toList.mpr ho, hid⟩

/-- The identities of the batches. -/
theorem mem_semanticKeys (h : KeyedBatches evidence) {observationId : ObservationId} :
    observationId ∈ evidence.semanticEvidence.keys ↔
      ∃ key found, evidence.current (.semantic key) = some found ∧
        found.observationId = observationId := by
  rw [PyDict.mem_keys]
  constructor
  · rintro ⟨batch, hbatch⟩
    exact ⟨observationId, .semanticEvidence batch, by rw [Evidence.current, hbatch]; rfl,
      h observationId batch hbatch⟩
  · rintro ⟨key, found, hfound, hid⟩
    obtain ⟨batch, hbatch, rfl⟩ := Option.map_eq_some_iff.mp hfound
    have hkey : batch.fingerprint.observationId = observationId := hid
    rw [h key batch hbatch] at hkey
    exact ⟨batch, hkey ▸ hbatch⟩

/-- The current identities are those of the current evidence. -/
theorem mem_currentObservationIds (h : KeyedBatches evidence) {observationId : ObservationId} :
    observationId ∈ evidence.currentObservationIds ↔
      ∃ slot found, evidence.current slot = some found ∧ found.observationId = observationId := by
  simp only [Evidence.currentObservationIds, List.mem_append]
  constructor
  · rintro (((((((((((hid | hid) | hid) | hid) | hid) | hid) | hid) | hid) | hid) | hid) | hid) | hid)
    · obtain ⟨key, hkey⟩ := (mem_map_values evidence.jointEvidence .robotState).mp hid
      exact ⟨.joint key, hkey⟩
    · obtain ⟨key, hkey⟩ := (mem_map_values evidence.entityEvidence .environmentEntity).mp hid
      exact ⟨.entity key, hkey⟩
    · exact ⟨.basePose, mem_map_pose.mp hid⟩
    · obtain ⟨key, hkey⟩ := (mem_map_values evidence.imuEvidence .imu).mp hid
      exact ⟨.imu key, hkey⟩
    · obtain ⟨key, hkey⟩ := (mem_map_values evidence.audioEvidence .audioFrame).mp hid
      exact ⟨.audio key, hkey⟩
    · obtain ⟨key, hkey⟩ := (mem_map_values evidence.depthEvidence .depthFrame).mp hid
      exact ⟨.depth key, hkey⟩
    · obtain ⟨key, hkey⟩ := (mem_map_values evidence.fusedRgbdEvidence .fusedRgbd).mp hid
      exact ⟨.fusedRgbd key, hkey⟩
    · obtain ⟨key, hkey⟩ := (mem_map_values evidence.visualEvidence .visualFrame).mp hid
      exact ⟨.visual key, hkey⟩
    · obtain ⟨key, hkey⟩ :=
        (mem_map_values evidence.visualInterpretationEvidence .visualInterpretation).mp hid
      exact ⟨.interpretation key, hkey⟩
    · obtain ⟨key, hkey⟩ := (mem_map_values evidence.bodyPoseEvidence .bodyPose).mp hid
      exact ⟨.bodyPose key, hkey⟩
    · obtain ⟨key, hkey⟩ := (mem_map_values evidence.healthEvidence .sensorHealth).mp hid
      exact ⟨.health key, hkey⟩
    · obtain ⟨key, hkey⟩ := (mem_semanticKeys h).mp hid
      exact ⟨.semantic key, hkey⟩
  · rintro ⟨slot, found, hfound⟩
    cases slot with
    | joint key =>
      have hid := (mem_map_values evidence.jointEvidence .robotState).mpr ⟨key, found, hfound⟩
      exact Or.inl (by tauto)
    | entity key =>
      have hid := (mem_map_values evidence.entityEvidence .environmentEntity).mpr
        ⟨key, found, hfound⟩
      exact Or.inl (by tauto)
    | basePose =>
      have hid := mem_map_pose.mpr ⟨found, hfound⟩
      exact Or.inl (by tauto)
    | imu key =>
      have hid := (mem_map_values evidence.imuEvidence .imu).mpr ⟨key, found, hfound⟩
      exact Or.inl (by tauto)
    | audio key =>
      have hid := (mem_map_values evidence.audioEvidence .audioFrame).mpr ⟨key, found, hfound⟩
      exact Or.inl (by tauto)
    | depth key =>
      have hid := (mem_map_values evidence.depthEvidence .depthFrame).mpr ⟨key, found, hfound⟩
      exact Or.inl (by tauto)
    | fusedRgbd key =>
      have hid := (mem_map_values evidence.fusedRgbdEvidence .fusedRgbd).mpr ⟨key, found, hfound⟩
      exact Or.inl (by tauto)
    | visual key =>
      have hid := (mem_map_values evidence.visualEvidence .visualFrame).mpr ⟨key, found, hfound⟩
      exact Or.inl (by tauto)
    | interpretation key =>
      have hid := (mem_map_values evidence.visualInterpretationEvidence .visualInterpretation).mpr
        ⟨key, found, hfound⟩
      exact Or.inl (by tauto)
    | bodyPose key =>
      have hid := (mem_map_values evidence.bodyPoseEvidence .bodyPose).mpr ⟨key, found, hfound⟩
      exact Or.inl (by tauto)
    | health key =>
      have hid := (mem_map_values evidence.healthEvidence .sensorHealth).mpr ⟨key, found, hfound⟩
      exact Or.inl (by tauto)
    | semantic key => exact Or.inr ((mem_semanticKeys h).mpr ⟨key, found, hfound⟩)

/-- What is known is what is held. -/
theorem mem_knownIds (h : KeyedBatches evidence) {observationId : ObservationId} :
    observationId ∈ evidence.knownIds ↔ Holds evidence observationId := by
  rw [Evidence.knownIds, List.mem_append, mem_currentObservationIds h, List.mem_map, Holds]

/-- Expiry keeps the batches under their identities. -/
theorem KeyedBatches.purge (h : KeyedBatches evidence) (config : WorkingMemoryConfig)
    (nowNs : Nat) : KeyedBatches (evidence.purge config nowNs) := by
  intro observationId batch hbatch
  have hkept := (get?_dropOrphans.mp hbatch).1
  exact h observationId batch (PyDict.get?_keep_eq_some.mp hkept).1

/-- Every effect keeps the batches under their identities. -/
theorem KeyedBatches.effect {before after : Evidence p}
    (heffect : Effect runtime memory before after) (h : KeyedBatches before) :
    KeyedBatches after := by
  have hpurge : ∀ nowNs, KeyedBatches (before.purge memory.config nowNs) := fun nowNs =>
    h.purge memory.config nowNs
  cases heffect with
  | unchanged => exact h
  | reset => exact fun _ _ hbatch => nomatch hbatch
  | purged nowNs => exact hpurge nowNs
  | @placed nowNs observation envelope placement hplace hrebuilt =>
    intro observationId batch hbatch
    obtain ⟨-, -, hplaced⟩ := place_ok hplace
    have hkept := (PyDict.get?_dropAll.mp (get?_dropOrphans.mp hbatch).1).1
    have hcurrent : placement.evidence.current (.semantic observationId) =
        some (.semanticEvidence batch) := Option.map_eq_some_iff.mpr ⟨batch, hkept, rfl⟩
    cases hplaced with
    | robot hrobot hrobotPlaced =>
      rw [(placeRobot_ok hrobotPlaced).2.2.1,
        current_foldl_storeRobot fun _ hslot => robotSlot_of_updated hslot] at hcurrent
      split at hcurrent
      · cases Option.some.inj hcurrent
      · obtain ⟨found, hfound, heq⟩ := Option.map_eq_some_iff.mp hcurrent
        cases heq
        exact hpurge nowNs observationId batch hfound
    | @semantic o _ hsemantic =>
      have hstored : (Evidence.store (before.purge memory.config nowNs)
          (.semanticEvidence o)).current (.semantic observationId) =
            some (.semanticEvidence batch) := by
        rw [(placeSemantic_ok hsemantic).2.2.1] at hcurrent
        exact hcurrent
      rw [current_store rfl] at hstored
      split at hstored
      · next hslot =>
        cases Option.some.inj hstored
        exact (Slot.semantic.inj hslot).symm
      · obtain ⟨found, hfound, heq⟩ := Option.map_eq_some_iff.mp hstored
        cases heq
        exact hpurge nowNs observationId batch hfound
    | stored hslot hsemantic hchecked hahead =>
      rw [current_store hslot] at hcurrent
      split at hcurrent
      · exact absurd (Option.some.inj hcurrent) (hsemantic batch)
      · obtain ⟨found, hfound, heq⟩ := Option.map_eq_some_iff.mp hcurrent
        cases heq
        exact hpurge nowNs observationId batch hfound

/-- After every run the batches are kept under their identities. -/
theorem keyedBatches_stateAfter (calls : List (WorkingCall p)) :
    KeyedBatches (stateAfter runtime memory calls).evidence :=
  evidence_invariant (fun _ _ hbatch => nomatch hbatch)
    (fun _ _ heffect h => KeyedBatches.effect heffect h) calls

end Holding

section Duplicates

variable {runtime : WorkingRuntime} {memory : WorkingMemory} {config : WorkingMemoryConfig}
  {evidence : Evidence p} {observation : Observation p} {nowNs : Nat}

/-- The refusal is not that of a duplicate. -/
def IsRejection (refusal : Refusal) : Prop := ∀ detail, refusal ≠ .duplicate detail

/-- A check that rejects finds no duplicate. -/
theorem rejects_require {condition : Prop} [Decidable condition] (reason : IngestionReason)
    (detail : String) : RaisesOnly IsRejection (require condition (refuse reason detail)) := by
  intro refusal hrefusal text
  obtain ⟨-, rfl⟩ := Checks.require_error.mp hrefusal
  exact fun h => nomatch h

/-- A settled comparison finds no duplicate. -/
theorem rejects_settleComparison {conflict older : String} {comparison : Comparison} :
    RaisesOnly IsRejection (settleComparison conflict older comparison) := by
  intro refusal hrefusal text
  cases comparison with
  | new => cases hrefusal
  | newer => cases hrefusal
  | older =>
    rw [← Except.error.inj hrefusal]
    exact fun h => nomatch h
  | sameTimeConflict =>
    rw [← Except.error.inj hrefusal]
    exact fun h => nomatch h

/-- The checks against the configuration find no duplicate. -/
theorem rejects_checkSource : RaisesOnly IsRejection (checkSource config observation nowNs) := by
  refine RaisesOnly.bind (rejects_require _ _) fun _ _ => ?_
  refine RaisesOnly.bind (rejects_require _ _) fun _ _ => ?_
  refine RaisesOnly.bind (rejects_require _ _) fun _ _ => ?_
  refine RaisesOnly.bind (rejects_require _ _) fun _ _ => ?_
  refine RaisesOnly.bind (rejects_require _ _) fun _ _ => ?_
  exact rejects_require _ _

/-- Checks of items find no duplicate. -/
theorem rejects_forM {α : Type} {f : α → Except Refusal Unit} {items : List α}
    (h : ∀ item, RaisesOnly IsRejection (f item)) : RaisesOnly IsRejection (items.forM f) := by
  induction items with
  | nil => exact RaisesOnly.of_ok rfl
  | cons item items ih =>
    change RaisesOnly IsRejection (f item >>= fun _ => items.forM f)
    exact RaisesOnly.bind (h item) fun _ _ => ih

/-- The checks of a batch find no duplicate. -/
theorem rejects_checkSemantic {batch : SemanticEvidenceObservation p} :
    RaisesOnly IsRejection (checkSemantic config evidence batch) := by
  refine RaisesOnly.bind (rejects_require _ _) fun _ _ => ?_
  split
  · intro refusal hrefusal text
    rw [← Except.error.inj hrefusal]
    exact fun h => nomatch h
  · refine RaisesOnly.bind (rejects_require _ _) fun _ _ => ?_
    refine RaisesOnly.bind (rejects_require _ _) fun _ _ => ?_
    exact rejects_forM fun item => rejects_require _ _

/-- The checks of a sensor observation find no duplicate. -/
theorem rejects_placeSensor {slot : Slot} :
    RaisesOnly IsRejection (placeSensor config evidence observation slot) := by
  have hchecked : RaisesOnly IsRejection (checkSensor config evidence observation) := by
    cases observation with
    | fusedRgbd o => exact rejects_require _ _
    | visualInterpretation o =>
      refine RaisesOnly.bind (rejects_require _ _) fun _ _ => ?_
      dsimp only
      split
      · refine RaisesOnly.bind (rejects_require _ _) fun _ _ => ?_
        exact rejects_require _ _
      · refine RaisesOnly.bind (rejects_require _ _) fun _ _ => ?_
        exact rejects_require _ _
    | _ => exact RaisesOnly.of_ok rfl
  refine RaisesOnly.bind hchecked fun _ _ => ?_
  exact RaisesOnly.bind rejects_settleComparison fun _ _ => RaisesOnly.of_ok rfl

/-- The watermark of the source of the batch is the batch itself. -/
def Marked (evidence : Evidence p) (batch : SemanticEvidenceObservation p) : Prop :=
  evidence.semanticWatermarks.get? (sourceKey batch) =
    some (batch.source.resultAtNs, batch.fingerprint.observationId)

/-- The watermark makes a duplicate of the batch that it names. -/
theorem checkWatermark_duplicate {batch : SemanticEvidenceObservation p} {detail : PyStr} :
    checkWatermark evidence batch = .error (.duplicate detail) ↔
      Marked evidence batch ∧ detail = py "equivalent semantic evidence is already retained" := by
  rw [checkWatermark, Marked]
  cases hmark : evidence.semanticWatermarks.get? (sourceKey batch) with
  | none => simp
  | some mark =>
    obtain ⟨resultAtNs, observationId⟩ := mark
    simp only [Option.some.injEq, Prod.mk.injEq]
    by_cases hless : batch.source.resultAtNs < resultAtNs
    · have hne : resultAtNs ≠ batch.source.resultAtNs := by omega
      simp [require, hless, hne, bind, Except.bind, refuse]
    · by_cases htime : batch.source.resultAtNs = resultAtNs
      · by_cases hid : batch.fingerprint.observationId = observationId
        · simp [require, htime, hid, bind, Except.bind, eq_comm]
        · have hne : observationId ≠ batch.fingerprint.observationId := fun h => hid h.symm
          simp [require, htime, hid, hne, bind, Except.bind, refuse]
      · have hne : resultAtNs ≠ batch.source.resultAtNs := fun h => htime h.symm
        simp [require, hless, htime, hne, bind, Except.bind]

variable (runtime) in
/-- A new observation that is placed as a duplicate is named by the watermark of its source. -/
theorem placeNew_duplicate {detail : PyStr} :
    placeNew runtime memory evidence observation = .error (.duplicate detail) ↔
      ∃ batch, observation = .semanticEvidence batch ∧
        checkSemantic memory.config evidence batch = .ok () ∧ Marked evidence batch ∧
        detail = py "equivalent semantic evidence is already retained" := by
  have hnone : RaisesOnly IsRejection (placeNew runtime memory evidence observation) →
      (∀ batch, observation ≠ .semanticEvidence batch) →
      (placeNew runtime memory evidence observation = .error (.duplicate detail) ↔
        ∃ batch, observation = .semanticEvidence batch ∧
          checkSemantic memory.config evidence batch = .ok () ∧ Marked evidence batch ∧
          detail = py "equivalent semantic evidence is already retained") := by
    intro hrejects hkind
    constructor
    · intro herror
      exact absurd rfl (hrejects _ herror detail)
    · rintro ⟨batch, hbatch, -⟩
      exact absurd hbatch (hkind batch)
  cases observation with
  | semanticEvidence batch =>
    have hown : (∃ other, (Observation.semanticEvidence batch : Observation p) =
        .semanticEvidence other ∧ checkSemantic memory.config evidence other = .ok () ∧
          Marked evidence other ∧
          detail = py "equivalent semantic evidence is already retained") ↔
        checkSemantic memory.config evidence batch = .ok () ∧ Marked evidence batch ∧
          detail = py "equivalent semantic evidence is already retained" := by
      constructor
      · rintro ⟨other, heq, hother⟩
        cases heq
        exact hother
      · intro hbatch
        exact ⟨batch, rfl, hbatch⟩
    rw [hown, ← checkWatermark_duplicate, placeNew, placeSemantic]
    cases hchecked : checkSemantic memory.config evidence batch with
    | error refusal =>
      have hrejection := rejects_checkSemantic refusal hchecked detail
      constructor
      · intro herror
        exact absurd (Except.error.inj herror) hrejection
      · rintro ⟨hpassed, -⟩
        cases hpassed
    | ok u =>
      cases hmark : checkWatermark evidence batch with
      | error refusal =>
        constructor
        · intro herror
          exact ⟨rfl, congrArg Except.error (Except.error.inj herror)⟩
        · rintro ⟨-, herror⟩
          exact congrArg Except.error (Except.error.inj herror)
      | ok u =>
        constructor
        · rintro ⟨⟩
        · rintro ⟨-, ⟨⟩⟩
  | robotState o =>
    refine hnone (RaisesOnly.bind ?_ fun _ _ => ?_) ?_
    · intro refusal hrefusal text
      cases hvalid : memory.catalog.validateObservation runtime.limits o with
      | error error =>
        rw [hvalid] at hrefusal
        rw [← Except.error.inj hrefusal]
        intro heq
        cases heq
      | ok u =>
        rw [hvalid] at hrefusal
        cases hrefusal
    · refine RaisesOnly.bind (rejects_require _ _) fun _ _ => ?_
      refine RaisesOnly.bind (rejects_require _ _) fun _ _ => ?_
      exact RaisesOnly.of_ok rfl
    · intro batch heq
      cases heq
  | environmentEntity o =>
    refine hnone (RaisesOnly.bind rejects_settleComparison fun _ _ => ?_) ?_
    · exact RaisesOnly.of_ok rfl
    · intro batch heq
      cases heq
  | _ =>
    refine hnone rejects_placeSensor ?_
    intro batch heq
    cases heq

variable (runtime) in
/-- What is placed as a duplicate is known, or is named by the watermark of its source. -/
theorem place_duplicate {detail : PyStr} :
    place runtime memory evidence observation nowNs = .error (.duplicate detail) ↔
      checkSource memory.config observation nowNs = .ok () ∧
        ((observation.observationId ∈ evidence.knownIds ∧
          detail = py "equivalent evidence is already retained") ∨
        observation.observationId ∉ evidence.knownIds ∧ ∃ batch,
          observation = .semanticEvidence batch ∧
          checkSemantic memory.config evidence batch = .ok () ∧ Marked evidence batch ∧
          detail = py "equivalent semantic evidence is already retained") := by
  rw [← placeNew_duplicate runtime, place]
  cases hsource : checkSource memory.config observation nowNs with
  | error refusal =>
    have hrejection := rejects_checkSource refusal hsource detail
    constructor
    · intro herror
      exact absurd (Except.error.inj herror) hrejection
    · rintro ⟨hpassed, -⟩
      cases hpassed
  | ok u =>
    rw [Checks.ok_bind]
    by_cases hknown : observation.observationId ∈ evidence.knownIds
    · have hrequire : require (observation.observationId ∉ evidence.knownIds)
          (Refusal.duplicate (py "equivalent evidence is already retained")) =
            .error (.duplicate (py "equivalent evidence is already retained")) :=
        Checks.require_error.mpr ⟨not_not.mpr hknown, rfl⟩
      rw [hrequire]
      constructor
      · intro herror
        exact ⟨rfl, Or.inl ⟨hknown, (Refusal.duplicate.inj (Except.error.inj herror)).symm⟩⟩
      · rintro ⟨-, ⟨-, rfl⟩ | ⟨hnew, -⟩⟩
        · rfl
        · exact absurd hknown hnew
    · have hrequire : require (observation.observationId ∉ evidence.knownIds)
          (Refusal.duplicate (py "equivalent evidence is already retained")) = .ok () :=
        Checks.require_ok.mpr hknown
      rw [hrequire, Checks.ok_bind]
      constructor
      · intro herror
        exact ⟨rfl, Or.inr ⟨hknown, herror⟩⟩
      · rintro ⟨-, ⟨hin, -⟩ | ⟨-, herror⟩⟩
        · exact absurd hin hknown
        · exact herror

end Duplicates

section Soundness

variable {runtime : WorkingRuntime} {memory : WorkingMemory}

/-- A reported duplicate is held, and reporting it changes clocks and a counter only. -/
def DuplicateSound (runtime : WorkingRuntime) (memory : WorkingMemory) (state : WorkingState p)
    (observation : Observation p) (nowNs receivedAtMonotonicNs : Int) : Prop :=
  ∀ result after,
    state.ingest runtime memory observation nowNs receivedAtMonotonicNs = .ok (result, after) →
    result.status = .duplicate →
      Holds after.evidence observation.observationId ∧
      after.evidence = state.evidence.purge memory.config nowNs.toNat ∧
      after.acceptedCount = state.acceptedCount ∧ after.evictionCount = state.evictionCount ∧
      after.rejectedCount = state.rejectedCount

/-- The call brings back a batch that the memory does not hold any more. -/
structure BringsBack (memory : WorkingMemory) (state : WorkingState p)
    (observation : Observation p) (nowNs receivedAtMonotonicNs : Int)
    (batch : SemanticEvidenceObservation p) : Prop where
  semantic : observation = .semanticEvidence batch
  /-- The time is valid and does not precede the last one. -/
  clock : (0 ≤ nowNs ∧ nowNs ≤ maxObservationTimeNs) ∧ ∀ last ∈ state.lastNowNs, ¬nowNs < last
  /-- The receipt time is valid and does not precede the last one. -/
  receipt : (0 ≤ receivedAtMonotonicNs ∧ receivedAtMonotonicNs ≤ 2 ^ 63 - 1) ∧
    ∀ last ∈ state.lastReceiptMonotonicNs, ¬receivedAtMonotonicNs < last
  /-- The batch passes the checks against the configuration and the clock. -/
  admissible : checkSource memory.config observation nowNs.toNat = .ok ()
  /-- The producer, the interpretation, the frame and the items are as they should be. -/
  sourced :
    checkSemantic memory.config (state.evidence.purge memory.config nowNs.toNat) batch = .ok ()
  /-- The watermark of its source names the batch. -/
  marked : Marked state.evidence batch
  /-- The memory does not hold it after expiry. -/
  forgotten : ¬Holds (state.evidence.purge memory.config nowNs.toNat) observation.observationId

/-- What the receipt of an observation reports as a duplicate. -/
theorem receive_duplicate {state after : WorkingState p} {observation : Observation p}
    {envelope : EvidenceEnvelope p} {nowNs : Nat} {result : IngestionResult}
    (h : state.receive runtime memory observation envelope nowNs = (result, after))
    (hduplicate : result.status = .duplicate) :
    (∃ detail, place runtime memory state.evidence observation nowNs =
      .error (.duplicate detail)) ∧ after.evidence = state.evidence ∧
      after.acceptedCount = state.acceptedCount ∧ after.evictionCount = state.evictionCount ∧
      after.rejectedCount = state.rejectedCount ∧
      ∀ last ∈ state.lastReceiptMonotonicNs, ¬envelope.receivedAtMonotonicNs < last := by
  have hresult := congrArg Prod.fst h
  have hafter := congrArg Prod.snd h
  simp only at hresult hafter
  rw [← hresult] at hduplicate
  rw [← hafter]
  unfold WorkingState.receive at hduplicate ⊢
  split at hduplicate
  · cases hduplicate
  · next hreceipt =>
    rw [if_neg hreceipt]
    dsimp only at hduplicate ⊢
    cases hplace : place runtime memory state.evidence observation nowNs with
    | ok placement =>
      rw [hplace] at hduplicate
      cases hduplicate
    | error refusal =>
      rw [hplace] at hduplicate
      cases refusal with
      | rejected reason detail => cases hduplicate
      | duplicate detail =>
        exact ⟨⟨detail, rfl⟩, rfl, rfl, rfl, rfl, fun last hlast hless =>
          hreceipt ⟨last, hlast, hless⟩⟩

/-- A placement that is a duplicate is reported as one. -/
theorem receive_of_duplicate (state : WorkingState p) (envelope : EvidenceEnvelope p)
    {observation : Observation p} {nowNs : Nat} {detail : PyStr}
    (hplace : place runtime memory state.evidence observation nowNs = .error (.duplicate detail))
    (hreceipt : ∀ last ∈ state.lastReceiptMonotonicNs, ¬envelope.receivedAtMonotonicNs < last) :
    ∃ result after, state.receive runtime memory observation envelope nowNs = (result, after) ∧
      result.status = .duplicate ∧ after.evidence = state.evidence := by
  have hnot : ¬∃ last ∈ state.lastReceiptMonotonicNs, envelope.receivedAtMonotonicNs < last := by
    rintro ⟨last, hlast, hless⟩
    exact hreceipt last hlast hless
  rw [WorkingState.receive, if_neg hnot]
  dsimp only
  rw [hplace]
  exact ⟨_, _, rfl, rfl, rfl⟩

/-- A batch that is brought back is reported as a duplicate that is not held. -/
theorem BringsBack.not_sound {state : WorkingState p} {observation : Observation p}
    {nowNs receivedAtMonotonicNs : Int} {batch : SemanticEvidenceObservation p}
    (hkeyed : KeyedBatches (state.evidence.purge memory.config nowNs.toNat))
    (hback : BringsBack memory state observation nowNs receivedAtMonotonicNs batch) :
    ¬DuplicateSound runtime memory state observation nowNs receivedAtMonotonicNs := by
  intro hsound
  have hsemantic := hback.semantic
  subst hsemantic
  obtain ⟨hvalid, hlast⟩ := hback.receipt
  have hunknown : (Observation.semanticEvidence batch).observationId ∉
      (state.evidence.purge memory.config nowNs.toNat).knownIds := fun hknown =>
    hback.forgotten ((mem_knownIds hkeyed).mp hknown)
  have hplace := (place_duplicate runtime).mpr ⟨hback.admissible,
    Or.inr ⟨hunknown, batch, rfl, hback.sourced, hback.marked, rfl⟩⟩
  let advanced : WorkingState p := { state with
    evidence := state.evidence.purge memory.config nowNs.toNat
    lastNowNs := some nowNs.toNat }
  let envelope : EvidenceEnvelope p :=
    ⟨.semanticEvidence batch, receivedAtMonotonicNs.toNat⟩
  have hreceipt : ∀ last ∈ advanced.lastReceiptMonotonicNs,
      ¬envelope.receivedAtMonotonicNs < last := by
    intro last hmem hless
    have hnot := hlast last hmem
    have hto : receivedAtMonotonicNs.toNat < last := hless
    omega
  obtain ⟨result, after, hreceive, hstatus, hevidence⟩ :=
    receive_of_duplicate advanced envelope hplace hreceipt
  have hingest : state.ingest runtime memory (.semanticEvidence batch) nowNs
      receivedAtMonotonicNs = .ok (result, after) := by
    simp only [WorkingState.ingest, Checks.bind_ok, Checks.mapError_ok, Checks.pure_ok]
    exact ⟨_, rfl, envelope, build_ok.mpr ⟨rfl, hvalid, rfl⟩, advanced,
      advanceTime_ok.mpr ⟨hback.clock.1, hback.clock.2, rfl⟩, hreceive⟩
  have hheld := (hsound result after hingest hstatus).1
  rw [hevidence] at hheld
  exact hback.forgotten hheld

/-- In every reachable state duplicates are sound, unless a forgotten batch is brought back. -/
theorem duplicateSound_iff (runtime : WorkingRuntime) (memory : WorkingMemory)
    (calls : List (WorkingCall p)) (observation : Observation p)
    (nowNs receivedAtMonotonicNs : Int) :
    DuplicateSound runtime memory (stateAfter runtime memory calls) observation nowNs
        receivedAtMonotonicNs ↔
      ¬∃ batch, BringsBack memory (stateAfter runtime memory calls) observation nowNs
        receivedAtMonotonicNs batch := by
  have hkeyed : KeyedBatches
      ((stateAfter runtime memory calls).evidence.purge memory.config nowNs.toNat) :=
    (keyedBatches_stateAfter calls).purge memory.config nowNs.toNat
  generalize stateAfter runtime memory calls = state at hkeyed ⊢
  constructor
  · rintro hsound ⟨batch, hback⟩
    exact hback.not_sound hkeyed hsound
  · intro hnone result after hingest hstatus
    obtain ⟨rebuilt, envelope, advanced, hrebuilt, henvelope, hadvance, hreceive⟩ :=
      ingest_ok hingest
    obtain ⟨hclock, hlast, rfl⟩ := advanceTime_ok.mp hadvance
    obtain ⟨⟨detail, hplace⟩, hevidence, haccepted, heviction, hrejected, hreceipt⟩ :=
      receive_duplicate hreceive hstatus
    have hid : rebuilt.observationId = observation.observationId := by
      rw [Observation.observationId, Observation.observationId,
        rebuildObservation_fingerprint hrebuilt]
    obtain ⟨hsource, ⟨hknown, -⟩ | ⟨hunknown, batch, rfl, hchecked, hmarked, -⟩⟩ :=
      (place_duplicate runtime).mp hplace
    · refine ⟨?_, hevidence, haccepted, heviction, hrejected⟩
      rw [hevidence, ← hid]
      exact (mem_knownIds hkeyed).mp hknown
    · have hsame := rebuildObservation_eq hrebuilt fun imu himu => nomatch himu
      refine absurd ⟨batch, ?_⟩ hnone
      obtain ⟨-, hvalid, hreceived⟩ := build_ok.mp henvelope
      refine ⟨hsame.symm, ⟨hclock, hlast⟩, ⟨hvalid, ?_⟩, ?_, hchecked, hmarked, ?_⟩
      · intro last hmem hless
        have hnot := hreceipt last hmem
        rw [← hreceived] at hnot
        omega
      · rw [← hsame]
        exact hsource
      · intro hheld
        rw [← hid] at hheld
        exact hunknown ((mem_knownIds hkeyed).mpr hheld)

end Soundness

end Working
end AyyoHumanoid
