import AyyoHumanoid.WorkingChronology

/-!
# Freshness queries of the working memory

A query looks a state key up by its text. The key of every slot finds the evidence
of the slot, except that the key of the robot's base pose finds the body pose of a
sensor with the robot's identity first. So the keys that an accepted observation
reports as updated are found just when no such body pose is in the way.
-/

namespace AyyoHumanoid
namespace Working

open PyText JsonText PyCollections World

variable {p : Platform}

section Queries

/-- `WorkingMemoryFreshness`. -/
inductive WorkingMemoryFreshness where
  | unknown | fresh | stale
  deriving DecidableEq, Repr

/-- `FreshnessQueryResult`. -/
structure FreshnessQueryResult where
  key : StateKey
  freshness : WorkingMemoryFreshness
  observationId : Option ObservationId
  observedAtNs : Option Nat
  ageNs : Option Int

/-- `d.get(identity)`, of a dictionary whose keys have names. -/
def getNamed {κ α β : Type} [DecidableEq β] (name : κ → β) (d : PyDict κ α) (identity : β) :
    Option α :=
  (d.entries.find? fun entry => name entry.1 = identity).map Prod.snd

/-- The separator of a composite identity. -/
def bar : CodePoint := 124

/-- `identity.split("|", 1)`, when it has two parts. -/
def splitBar (identity : PyStr) : Option (PyStr × PyStr) :=
  match identity.dropWhile fun c => c ≠ bar with
  | [] => none
  | _ :: rest => some (identity.takeWhile fun c => c ≠ bar, rest)

/-- What `query_freshness` looks up. -/
def Evidence.lookup (robotId : Name) (evidence : Evidence p) (key : StateKey) :
    Option (Observation p) :=
  match key.kind with
  | .robotJoint => (getNamed Identifier.text evidence.jointEvidence key.identity).map .robotState
  | .robotBasePose =>
    match getNamed Identifier.text evidence.bodyPoseEvidence key.identity with
    | some o => some (.bodyPose o)
    | none =>
      if key.identity = robotId.text then evidence.poseEvidence.map .robotState else none
  | .robotImu => (getNamed Identifier.text evidence.imuEvidence key.identity).map .imu
  | .robotAudio => (getNamed Identifier.text evidence.audioEvidence key.identity).map .audioFrame
  | .robotDepth => (getNamed Identifier.text evidence.depthEvidence key.identity).map .depthFrame
  | .robotRgbdFusion =>
    (getNamed Identifier.text evidence.fusedRgbdEvidence key.identity).map .fusedRgbd
  | .robotVisual => (getNamed Identifier.text evidence.visualEvidence key.identity).map .visualFrame
  | .robotVisualInterpretation =>
    (splitBar key.identity).bind fun parts =>
      (getNamed (fun source : SourceKey => (source.1.text, source.2.text))
        evidence.visualInterpretationEvidence parts).map .visualInterpretation
  | .robotSemanticEvidence =>
    (getNamed TaggedDigest.text evidence.semanticEvidence key.identity).map .semanticEvidence
  | .sensorHealth => (getNamed Identifier.text evidence.healthEvidence key.identity).map .sensorHealth
  | .environmentEntity =>
    (getNamed Identifier.text evidence.entityEvidence key.identity).map .environmentEntity

/-- The answer about what was looked up. -/
def answer (config : WorkingMemoryConfig) (key : StateKey) (nowNs : Int) :
    Option (Observation p) → FreshnessQueryResult
  | none => ⟨key, .unknown, none, none, none⟩
  | some observation =>
    let age := max 0 (nowNs - observation.observedAtNs)
    ⟨key, if age ≤ config.freshnessNs then .fresh else .stale, some observation.observationId,
      some observation.observedAtNs, some age⟩

/-- `query_freshness`. -/
def WorkingState.queryFreshness (memory : WorkingMemory) (key : StateKey) (nowNs : Int)
    (state : WorkingState p) : Except WorkingFault (FreshnessQueryResult × WorkingState p) := do
  let advanced ← state.advanceTime memory.config nowNs
  pure (answer memory.config key nowNs (advanced.evidence.lookup memory.config.robotId key),
    advanced)

end Queries

section Lookup

variable {evidence : Evidence p} {robotId : Name} {slot : Slot} {found : Observation p}

/-- Where names are distinct, a key is found by its name. -/
theorem getNamed_name {κ α β : Type} [DecidableEq κ] [DecidableEq β] {name : κ → β}
    (hinjective : Function.Injective name) (d : PyDict κ α) (key : κ) :
    getNamed name d (name key) = d.get? key := by
  rw [getNamed, PyDict.get?]
  congr 1
  congr 1
  funext entry
  rw [decide_eq_decide]
  exact hinjective.eq_iff

/-- Identifiers are distinguished by their texts. -/
theorem identifier_injective (maximum : Nat) :
    Function.Injective (Identifier.text : Identifier maximum → PyStr) := by
  intro first second h
  cases first
  cases second
  cases h
  rfl

/-- Observation identities are distinguished by their texts. -/
theorem observationId_injective : Function.Injective (TaggedDigest.text : ObservationId → PyStr) := by
  intro first second h
  have hdigits := List.append_cancel_left h
  cases first with
  | mk first =>
    cases second with
    | mk second =>
      cases first
      cases second
      cases hdigits
      rfl

/-- Sources are distinguished by the texts of both parts. -/
theorem sourceName_injective :
    Function.Injective fun source : SourceKey => (source.1.text, source.2.text) := by
  intro first second h
  rw [Prod.mk.injEq] at h
  exact Prod.ext (identifier_injective _ h.1) (identifier_injective _ h.2)

/-- An identifier has no separator. -/
theorem bar_not_mem {text : PyStr} {afterAlnum : Bool}
    (h : identifierRest afterAlnum text = true) : bar ∉ text := by
  have hbar : bar.val = 124 := rfl
  induction text generalizing afterAlnum with
  | nil => exact List.not_mem_nil
  | cons c text ih =>
    rw [identifierRest] at h
    rw [List.mem_cons, not_or]
    by_cases halnum : isLowerAlnum c = true
    · rw [if_pos halnum] at h
      refine ⟨fun heq => ?_, ih h⟩
      rw [← heq] at halnum
      exact absurd halnum (by decide)
    · rw [if_neg halnum] at h
      by_cases hseparator : (afterAlnum && (c.val == 46 || c.val == 95 || c.val == 45)) = true
      · rw [if_pos hseparator] at h
        refine ⟨fun heq => ?_, ih h⟩
        rw [← heq, hbar] at hseparator
        cases afterAlnum <;> exact absurd hseparator (by decide)
      · rw [if_neg hseparator] at h
        cases h

/-- The key of a source splits into its parts. -/
theorem splitBar_source (source : SourceKey) :
    splitBar (source.1.text ++ py "|" ++ source.2.text) = some (source.1.text, source.2.text) := by
  have hfree : ∀ c ∈ source.1.text, decide (c ≠ bar) = true := by
    intro c hc
    rw [decide_eq_true_eq]
    intro heq
    rw [heq] at hc
    exact bar_not_mem source.1.canonical.1 hc
  have hseparator : py "|" = [bar] := by decide
  have hstop : decide (bar ≠ bar) = false := by simp
  rw [splitBar, hseparator, List.append_assoc, List.singleton_append,
    List.dropWhile_append_of_pos hfree, List.takeWhile_append_of_pos hfree,
    List.dropWhile_cons_of_neg (by rw [hstop]; exact Bool.false_ne_true),
    List.takeWhile_cons_of_neg (by rw [hstop]; exact Bool.false_ne_true), List.append_nil]

/-- The key of the base pose finds the body pose of a sensor with the robot's identity first. -/
theorem lookup_basePose : evidence.lookup robotId (Slot.basePose.key robotId) =
    (evidence.current (.bodyPose robotId)).or (evidence.current .basePose) := by
  simp only [Slot.key, Evidence.lookup, getNamed_name (identifier_injective 256), Evidence.current]
  cases evidence.bodyPoseEvidence.get? robotId with
  | none => simp
  | some o => rfl

/-- The key of a slot with evidence finds it, unless a body pose is before the base pose. -/
theorem lookup_of_current (h : evidence.current slot = some found)
    (hfree : slot = .basePose → evidence.current (.bodyPose robotId) = none) :
    evidence.lookup robotId (slot.key robotId) = some found := by
  cases slot with
  | basePose =>
    rw [lookup_basePose, hfree rfl]
    exact h
  | bodyPose sensorId =>
    obtain ⟨o, ho, hsame⟩ := Option.map_eq_some_iff.mp h
    simp only [Slot.key, Evidence.lookup, getNamed_name (identifier_injective 256), ho]
    rw [hsame]
  | interpretation source =>
    simp only [Slot.key, Evidence.lookup, splitBar_source, Option.bind_some]
    have hnamed := getNamed_name sourceName_injective evidence.visualInterpretationEvidence source
    rw [hnamed]
    exact h
  | semantic observationId =>
    simp only [Slot.key, Evidence.lookup, getNamed_name observationId_injective]
    exact h
  | _ =>
    simp only [Slot.key, Evidence.lookup, getNamed_name (identifier_injective 256)]
    exact h

end Lookup

section Acceptance

variable {runtime : WorkingRuntime} {memory : WorkingMemory} {evidence : Evidence p}
  {observation found : Observation p} {placement : Placement p} {envelope : EvidenceEnvelope p}
  {slot : Slot}

/-- Every key that a placement reports is of a slot where the observation is current. -/
theorem Placed.updated (h : Placed memory evidence observation placement) {key : StateKey}
    (hkey : key ∈ placement.updated) : ∃ slot, slot.key memory.config.robotId = key ∧
      placement.evidence.current slot = some observation := by
  cases h with
  | robot hrobot h =>
    obtain ⟨-, -, hevidence, hupdated⟩ := placeRobot_ok h
    rw [hupdated, hrobot, List.mem_map] at hkey
    obtain ⟨slot, hslot, hsame⟩ := hkey
    refine ⟨slot, hsame, ?_⟩
    rw [hevidence, current_foldl_storeRobot fun _ hmem => robotSlot_of_updated hmem, hrobot,
      if_pos hslot]
  | @semantic o _ h =>
    obtain ⟨-, -, hevidence, hupdated⟩ := placeSemantic_ok h
    rw [hupdated, List.mem_singleton] at hkey
    refine ⟨_, hkey.symm, ?_⟩
    rw [hevidence]
    have hstored := @current_store p evidence (.semanticEvidence o) _
      (.semantic o.fingerprint.observationId) rfl
    rw [if_pos rfl] at hstored
    exact hstored
  | @stored _ slot _ hslot hsemantic hchecked hahead =>
    rw [List.mem_singleton] at hkey
    refine ⟨slot, hkey.symm, ?_⟩
    rw [current_store hslot, if_pos rfl]

/-- What was placed stays within the capacities, unless its key is reported as evicted. -/
theorem current_accepted {config : WorkingMemoryConfig} (h : evidence.current slot = some found)
    (hkept : slot.key config.robotId ∉
      (evictedSlots config envelope evidence).map (Slot.key config.robotId)) :
    (evidence.bound config envelope).dropOrphans.current slot = some found := by
  have hslot : slot ∉ evictedSlots config envelope evidence := fun hmem =>
    hkept (List.mem_map_of_mem hmem)
  rw [evictedSlots, List.mem_append, List.mem_append, not_or, not_or] at hslot
  obtain ⟨⟨hentity, hsemantic⟩, horphan⟩ := hslot
  cases slot with
  | entity entityId =>
    obtain ⟨o, ho, hsame⟩ := Option.map_eq_some_iff.mp h
    have hleft : (evidence.bound config envelope).entityEvidence.get? entityId = some o :=
      PyDict.get?_dropAll.mpr ⟨ho, fun hmem => hentity (List.mem_map_of_mem hmem)⟩
    exact Option.map_eq_some_iff.mpr ⟨o, hleft, hsame⟩
  | semantic observationId =>
    obtain ⟨batch, hbatch, hsame⟩ := Option.map_eq_some_iff.mp h
    have hleft : (evidence.bound config envelope).semanticEvidence.get? observationId =
        some batch :=
      PyDict.get?_dropAll.mpr ⟨hbatch, fun hmem => hsemantic (List.mem_map_of_mem hmem)⟩
    have hsourced : (evidence.bound config envelope).Sourced batch := by
      by_contra hnot
      have hlost : observationId ∈ (evidence.bound config envelope).orphans :=
        PyDict.mem_keys.mpr ⟨batch, PyDict.get?_keep_eq_some.mpr ⟨hleft, hnot⟩⟩
      exact horphan (List.mem_map_of_mem hlost)
    exact Option.map_eq_some_iff.mpr ⟨batch, get?_dropOrphans.mpr ⟨hleft, hsourced⟩, hsame⟩
  | _ => exact h

/-- Late evidence that is current or recent stays so. -/
theorem held_keepFrom {ι : Type} {slotOf : ι → Slot} {threshold : Int}
    (hlate : threshold ≤ found.observedAtNs)
    (h : (∃ i, evidence.current (slotOf i) = some found) ∨
      ∃ item ∈ evidence.recent, item.observation = found) :
    (∃ i, (evidence.keepFrom threshold).current (slotOf i) = some found) ∨
      ∃ item ∈ (evidence.keepFrom threshold).recent, item.observation = found := by
  cases h with
  | inl hcurrent =>
    obtain ⟨i, hcurrent⟩ := hcurrent
    exact Or.inl ⟨i, current_keepFrom.mpr ⟨hcurrent, hlate⟩⟩
  | inr hrecent =>
    obtain ⟨item, hitem, hsame⟩ := hrecent
    refine Or.inr ⟨item, List.mem_filter.mpr ⟨hitem, decide_eq_true ?_⟩, hsame⟩
    rw [hsame]
    exact hlate

/-- Evidence whose sources agree stays current while it is within the retention interval. -/
theorem current_purge_of_agree {config : WorkingMemoryConfig} {nowNs : Nat}
    (hagree : SourcesAgree evidence) (h : evidence.current slot = some found)
    (htime : (nowNs : Int) - config.retentionTtlNs ≤ found.observedAtNs) :
    (evidence.purge config nowNs).current slot = some found := by
  have hleft := current_keepFrom.mpr ⟨h, htime⟩
  cases slot with
  | semantic observationId =>
    obtain ⟨batch, hbatch, hsame⟩ := Option.map_eq_some_iff.mp h
    obtain ⟨other, hother, hfound⟩ := Option.map_eq_some_iff.mp hleft
    rw [← hsame] at hfound htime
    cases hfound
    obtain ⟨hframe, hinterpretation⟩ := hagree.sourced observationId batch hbatch
    have hsourced : (evidence.keepFrom (nowNs - config.retentionTtlNs)).Sourced batch := by
      constructor
      · obtain ⟨frame, hmem, hid⟩ := mem_keys_retainedVisualSources.mp hframe
        have hrepeats := hagree.framed observationId batch hbatch frame hmem hid
        refine mem_keys_retainedVisualSources.mpr ⟨frame, mem_frames.mpr
          (held_keepFrom ?_ (mem_frames.mp hmem)), hid⟩
        change _ ≤ (frame.observedAtNs : Int)
        rw [hrepeats.2.2.2.1]
        exact htime
      · obtain ⟨interpretation, hmem, hid⟩ :=
          mem_keys_retainedVisualInterpretations.mp hinterpretation
        have hrepeats := hagree.interpreted observationId batch hbatch interpretation hmem hid
        refine mem_keys_retainedVisualInterpretations.mpr ⟨interpretation, mem_interpretations.mpr
          (held_keepFrom ?_ (mem_interpretations.mp hmem)), hid⟩
        change _ ≤ (interpretation.observedAtNs : Int)
        rw [hrepeats.2.2.2.2.2.2.1]
        exact htime
    exact Option.map_eq_some_iff.mpr ⟨batch, get?_dropOrphans.mpr ⟨hother, hsourced⟩, hsame⟩
  | _ => exact hleft

/-- What an accepted ingestion did. -/
structure Accepted (runtime : WorkingRuntime) (memory : WorkingMemory) (state : WorkingState p)
    (observation : Observation p) (nowNs : Nat) (result : IngestionResult)
    (after : WorkingState p) (rebuilt : Observation p) (envelope : EvidenceEnvelope p)
    (placement : Placement p) : Prop where
  reconstructed : rebuildObservation runtime.normalize observation = .ok rebuilt
  /-- The envelope holds it again. -/
  enveloped : rebuildObservation runtime.normalize rebuilt = .ok envelope.observation
  placed : place runtime memory (state.evidence.purge memory.config nowNs) rebuilt nowNs =
    .ok placement
  /-- The time is valid. -/
  clock : nowNs ≤ maxObservationTimeNs
  evidence : after.evidence = (placement.evidence.bound memory.config envelope).dropOrphans
  /-- The clock stands at the time. -/
  now : after.lastNowNs = some nowNs
  updated : result.updatedKeys = placement.updated
  evicted : ∀ key, key ∈ result.evictedKeys ↔ key ∈
    (evictedSlots memory.config envelope placement.evidence).map (Slot.key memory.config.robotId)

variable {state after : WorkingState p} {result : IngestionResult} {nowNs received : Int}

/-- An ingestion that reports acceptance has placed the observation. -/
theorem accepted_of_status
    (h : state.ingest runtime memory observation nowNs received = .ok (result, after))
    (haccepted : result.status = .accepted) : 0 ≤ nowNs ∧ ∃ rebuilt envelope placement,
      Accepted runtime memory state observation nowNs.toNat result after rebuilt envelope
        placement := by
  obtain ⟨rebuilt, envelope, advanced, hrebuilt, henvelope, hadvance, hreceive⟩ := ingest_ok h
  obtain ⟨hclock, -, hsame⟩ := advanceTime_ok.mp hadvance
  refine ⟨hclock.1, rebuilt, envelope, ?_⟩
  rw [WorkingState.receive] at hreceive
  by_cases hreceipt : ∃ last ∈ advanced.lastReceiptMonotonicNs,
      envelope.receivedAtMonotonicNs < last
  · rw [if_pos hreceipt] at hreceive
    have hstatus := @decline_status p advanced (refuse .receiptTimeRegression
      "monotonic receipt time regressed") rebuilt.observationId
    rw [hreceive] at hstatus
    exact absurd haccepted hstatus
  · rw [if_neg hreceipt] at hreceive
    cases hplace : place runtime memory advanced.evidence rebuilt nowNs.toNat with
    | error refusal =>
      simp only [hplace] at hreceive
      have hstatus := @decline_status p { advanced with
        lastReceiptMonotonicNs := some envelope.receivedAtMonotonicNs } refusal
        rebuilt.observationId
      rw [hreceive] at hstatus
      exact absurd haccepted hstatus
    | ok placement =>
      simp only [hplace, WorkingState.accept, Prod.mk.injEq] at hreceive
      obtain ⟨hresult, hafter⟩ := hreceive
      have hle : nowNs.toNat ≤ maxObservationTimeNs := by omega
      rw [← hsame] at hplace hafter
      refine ⟨placement, hrebuilt, (build_ok.mp henvelope).1, hplace, hle, ?_, ?_, ?_, ?_⟩
      · rw [← hafter]
      · rw [← hafter]
      · rw [← hresult]
      · intro key
        rw [← hresult, sortedKeys, mem_sortBy, List.mem_dedup]

/-- The evidence after an accepted ingestion is that of a run. -/
theorem Accepted.agree {rebuilt : Observation p} (hagree : SourcesAgree state.evidence)
    {nowNs : Nat} (h : Accepted runtime memory state observation nowNs result after rebuilt envelope
      placement) : SourcesAgree after.evidence := by
  have heffect := Effect.placed nowNs h.placed h.enveloped
  rw [← h.evidence] at heffect
  exact hagree.effect heffect

/-- A query at the time of an accepted ingestion looks up what is current after it and within the
retention interval. -/
theorem Accepted.query {rebuilt : Observation p} {nowNs : Nat}
    (h : Accepted runtime memory state observation nowNs result after rebuilt envelope placement)
    (key : StateKey) :
    ∃ later, after.queryFreshness memory key nowNs = .ok (answer memory.config key nowNs
      ((after.evidence.purge memory.config nowNs).lookup memory.config.robotId key), later) := by
  have hclock : 0 ≤ (nowNs : Int) ∧ (nowNs : Int) ≤ maxObservationTimeNs :=
    ⟨Int.natCast_nonneg _, Int.ofNat_le.mpr h.clock⟩
  have hlast : ∀ last ∈ after.lastNowNs, ¬(nowNs : Int) < last := by
    intro last hlast
    rw [h.now] at hlast
    cases hlast
    omega
  have hadvance := (@advanceTime_ok p memory after _ nowNs).mpr ⟨hclock, hlast, rfl⟩
  rw [WorkingState.queryFreshness, hadvance]
  exact ⟨_, rfl⟩

end Acceptance

section Resolution

variable {runtime : WorkingRuntime} {memory : WorkingMemory}

/-- Every updated key that was not evicted finds the observation at the time of its ingestion. -/
def Resolves (memory : WorkingMemory) (observation : Observation p) (nowNs : Int)
    (result : IngestionResult) (after : WorkingState p) : Prop :=
  ∀ key ∈ result.updatedKeys, key ∉ result.evictedKeys →
    ∃ found later, after.queryFreshness memory key nowNs = .ok (found, later) ∧
      found.freshness ≠ .unknown ∧ found.observationId = some observation.observationId

/-- The observation is a robot state that makes its base pose current, while the memory has the
body pose of a sensor with the robot's identity. -/
def Shadowed (memory : WorkingMemory) (evidence : Evidence p) (observation : Observation p) : Prop :=
  ∃ robot, observation = .robotState robot ∧ robot.basePose.isSome = true ∧
    (∀ pose ∈ evidence.poseEvidence, pose.observedAtNs < robot.observedAtNs) ∧
    (evidence.bodyPoseEvidence.get? memory.config.robotId).isSome = true

/-- An answer about an observation is known and names it. -/
theorem answer_some {config : WorkingMemoryConfig} {key : StateKey} {nowNs : Int}
    (observation : Observation p) : (answer config key nowNs (some observation)).freshness ≠
        .unknown ∧ (answer config key nowNs (some observation)).observationId =
      some observation.observationId := by
  rw [answer]
  refine ⟨?_, rfl⟩
  by_cases hfresh : max 0 (nowNs - observation.observedAtNs) ≤ config.freshnessNs
  · simp [hfresh]
  · simp [hfresh]

/-- An accepted observation was not known. -/
theorem unknown_of_place {evidence : Evidence p} {observation found : Observation p}
    {placement : Placement p} {nowNs : Nat} {slot : Slot} (hkeyed : KeyedBatches evidence)
    (hplace : place runtime memory evidence observation nowNs = .ok placement)
    (hcurrent : evidence.current slot = some found) :
    found.observationId ≠ observation.observationId := by
  intro hsame
  exact (place_ok hplace).2.1 ((mem_knownIds hkeyed).mpr (Or.inl ⟨slot, found, hcurrent, hsame⟩))

/-- A rebuilt observation has the time and the identity of the given one, and a robot state is
given as it is rebuilt. -/
theorem rebuilt_same {normalize : Quaternion → Option Quaternion} {observation rebuilt : Observation p}
    (h : rebuildObservation normalize observation = .ok rebuilt) :
    rebuilt.observationId = observation.observationId ∧
      ∀ robot, rebuilt = .robotState robot ↔ observation = .robotState robot := by
  constructor
  · rw [Observation.observationId, Observation.observationId, rebuildObservation_fingerprint h]
  · intro robot
    constructor
    · intro hrobot
      have hsame := rebuildObservation_eq h fun imu himu => by
        rw [hrobot] at himu
        cases himu
      rw [← hsame]
      exact hrobot
    · intro hrobot
      rw [hrobot] at h
      exact (Except.ok.inj h).symm

variable {evidence : Evidence p} {observation rebuilt body : Observation p}
  {envelope : EvidenceEnvelope p} {placement : Placement p} {state after : WorkingState p}
  {result : IngestionResult} {nowNs : Nat}

/-- A robot state leaves the body poses alone. -/
theorem bodyPose_of_robot {robot : RobotStateObservation} {sensorId : Name}
    (h : placeRobot evidence robot = .ok placement) :
    placement.evidence.current (.bodyPose sensorId) = evidence.current (.bodyPose sensorId) := by
  rw [(placeRobot_ok h).2.2.1, current_foldl_storeRobot fun _ hslot => robotSlot_of_updated hslot,
    if_neg]
  exact fun hmem => robotSlot_of_updated hmem

/-- A placement after which the observation is the base pose, and a sensor with the robot's identity
has a body pose, is in the shadow of that body pose. -/
theorem shadowed_of_placed (hkeyed : KeyedBatches evidence)
    (hplace : place runtime memory evidence rebuilt nowNs = .ok placement)
    (hbase : placement.evidence.current .basePose = some rebuilt)
    (hbody : placement.evidence.current (.bodyPose memory.config.robotId) = some body) :
    Shadowed memory evidence rebuilt := by
  have hnew : evidence.current .basePose ≠ some rebuilt := fun hold =>
    unknown_of_place hkeyed hplace hold rfl
  cases (place_ok hplace).2.2 with
  | @robot robot _ hrobot h =>
    rw [bodyPose_of_robot h] at hbody
    obtain ⟨-, -, hevidence, -⟩ := placeRobot_ok h
    rw [hevidence, current_foldl_storeRobot fun _ hslot => robotSlot_of_updated hslot] at hbase
    by_cases hmem : Slot.basePose ∈ updatedSlots robot.robotId (robotDecisions evidence robot)
    · obtain ⟨hown, hlater⟩ := mem_updatedSlots.mp hmem
      have hpose : robot.basePose.isSome = true := by
        cases hown with
        | inl hjoint =>
          obtain ⟨joint, -, hjoint⟩ := hjoint
          cases hjoint
        | inr hpose => exact hpose.1
      refine ⟨robot, rfl, hpose, fun pose hmem => ?_, ?_⟩
      · exact hlater (.robotState pose) (Option.map_eq_some_iff.mpr ⟨pose, hmem, rfl⟩)
      · obtain ⟨o, ho, -⟩ := Option.map_eq_some_iff.mp hbody
        rw [ho]
        rfl
    · rw [if_neg hmem] at hbase
      exact absurd hbase hnew
  | semantic h =>
    obtain ⟨robot, -, hrobot⟩ := Option.map_eq_some_iff.mp hbase
    cases hrobot
  | stored hslot hsemantic hchecked hahead =>
    obtain ⟨robot, -, hrobot⟩ := Option.map_eq_some_iff.mp hbase
    rw [← hrobot] at hslot
    cases hslot

/-- Outside the shadow of a body pose every updated key resolves. -/
theorem Accepted.resolves (hagree : SourcesAgree state.evidence)
    (hkeyed : KeyedBatches (state.evidence.purge memory.config nowNs))
    (h : Accepted runtime memory state observation nowNs result after rebuilt envelope placement)
    (hfree : ¬Shadowed memory (state.evidence.purge memory.config nowNs) rebuilt) :
    Resolves memory rebuilt nowNs result after := by
  intro key hkey hkept
  obtain ⟨hsource, -, hplaced⟩ := place_ok h.placed
  rw [h.updated] at hkey
  obtain ⟨slot, hslot, hcurrent⟩ := hplaced.updated hkey
  rw [h.evicted, ← hslot] at hkept
  have hafter := @current_accepted p _ _ envelope slot memory.config hcurrent hkept
  rw [← h.evidence] at hafter
  have htime : (nowNs : Int) - memory.config.retentionTtlNs ≤ rebuilt.observedAtNs := by
    simp only [checkSource, Checks.unit_bind_ok, Checks.require_ok] at hsource
    have hfresh := hsource.2.2.2.2.2
    omega
  have hpurged := current_purge_of_agree (h.agree hagree) hafter htime
  have hclear : slot = .basePose → (after.evidence.purge memory.config nowNs).current
      (.bodyPose memory.config.robotId) = none := by
    intro hbase
    rw [hbase] at hcurrent
    cases hbody : (after.evidence.purge memory.config nowNs).current
      (.bodyPose memory.config.robotId) with
    | none => rfl
    | some body =>
      have hheld := (current_of_purge hbody).1
      rw [h.evidence] at hheld
      have hheld := current_of_bound (current_of_dropOrphans hheld)
      exact absurd (shadowed_of_placed hkeyed h.placed hcurrent hheld) hfree
  obtain ⟨later, hquery⟩ := h.query key
  rw [← hslot, lookup_of_current hpurged hclear, hslot] at hquery
  exact ⟨_, later, hquery, answer_some rebuilt⟩

/-- The base pose is never evicted. -/
theorem basePose_not_evicted {config : WorkingMemoryConfig} {robotId : Name} :
    Slot.basePose.key robotId ∉ (evictedSlots config envelope evidence).map (Slot.key robotId) := by
  rw [List.mem_map]
  intro hevicted
  obtain ⟨slot, hslot, hsame⟩ := hevicted
  rw [evictedSlots, List.mem_append, List.mem_append, List.mem_map, List.mem_map,
    List.mem_map] at hslot
  obtain ((⟨id, -, hid⟩ | ⟨id, -, hid⟩) | ⟨id, -, hid⟩) := hslot
  · rw [← hid] at hsame
    cases hsame
  · rw [← hid] at hsame
    cases hsame
  · rw [← hid] at hsame
    cases hsame

/-- In the shadow of a body pose the key of the base pose finds the body pose. -/
theorem Accepted.not_resolves (hagree : SourcesAgree state.evidence)
    (hkeyed : KeyedBatches (state.evidence.purge memory.config nowNs))
    (h : Accepted runtime memory state observation nowNs result after rebuilt envelope placement)
    (hshadowed : Shadowed memory (state.evidence.purge memory.config nowNs) rebuilt) :
    ¬Resolves memory rebuilt nowNs result after := by
  intro hresolves
  obtain ⟨robot, hrebuilt, hpose, hlater, hbody⟩ := hshadowed
  obtain ⟨body, hbody⟩ := Option.isSome_iff_exists.mp hbody
  have hheld : (state.evidence.purge memory.config nowNs).current
      (.bodyPose memory.config.robotId) = some (.bodyPose body) :=
    Option.map_eq_some_iff.mpr ⟨body, hbody, rfl⟩
  have hplaced := (place_ok h.placed).2.2
  have hunknown := unknown_of_place hkeyed h.placed hheld
  rw [hrebuilt] at hplaced
  cases hplaced with
  | stored hslot hsemantic hchecked hahead => cases hslot
  | robot hrobot hplace =>
    obtain ⟨-, -, -, hupdated⟩ := placeRobot_ok hplace
    have hmem : Slot.basePose ∈ updatedSlots robot.robotId
        (robotDecisions (state.evidence.purge memory.config nowNs) robot) := by
      refine mem_updatedSlots.mpr ⟨Or.inr ⟨hpose, rfl⟩, fun current hcurrent => ?_⟩
      obtain ⟨pose, hmem, hsame⟩ := Option.map_eq_some_iff.mp hcurrent
      rw [← hsame]
      exact hlater pose hmem
    have hkey : Slot.basePose.key memory.config.robotId ∈ result.updatedKeys := by
      rw [h.updated, hupdated, ← hrobot]
      exact List.mem_map_of_mem hmem
    have hkept : Slot.basePose.key memory.config.robotId ∉ result.evictedKeys := by
      rw [h.evicted]
      exact basePose_not_evicted
    have hcurrent : after.evidence.current (.bodyPose memory.config.robotId) =
        some (.bodyPose body) := by
      rw [h.evidence]
      exact (bodyPose_of_robot hplace).trans hheld
    have hleft := current_purge_of_agree (h.agree hagree) hcurrent (current_of_purge hheld).2
    obtain ⟨found, later, hquery, -, hfound⟩ := hresolves _ hkey hkept
    obtain ⟨other, hother⟩ := h.query (Slot.basePose.key memory.config.robotId)
    rw [hother, lookup_basePose, hleft] at hquery
    cases hquery
    exact hunknown (Option.some.inj hfound)

/-- In every run, an updated key of an accepted observation finds it just outside the shadow. -/
theorem resolves_iff {calls : List (WorkingCall p)} {observation : Observation p}
    {nowNs received : Int} {after : WorkingState p}
    (hingest : (stateAfter runtime memory calls).ingest runtime memory observation nowNs received =
      .ok (result, after)) (haccepted : result.status = .accepted) :
    Resolves memory observation nowNs result after ↔
      ¬Shadowed memory ((stateAfter runtime memory calls).evidence.purge memory.config nowNs.toNat)
        observation := by
  obtain ⟨hnonneg, rebuilt, envelope, placement, h⟩ := accepted_of_status hingest haccepted
  have hagree : SourcesAgree (stateAfter runtime memory calls).evidence :=
    evidence_invariant sourcesAgree_empty
      (fun _ _ heffect h => SourcesAgree.effect heffect h) calls
  have hkeyed : KeyedBatches ((stateAfter runtime memory calls).evidence.purge memory.config
      nowNs.toNat) := (keyedBatches_stateAfter calls).purge memory.config nowNs.toNat
  obtain ⟨hid, hrobot⟩ := rebuilt_same h.reconstructed
  have hnow : ((nowNs.toNat : Nat) : Int) = nowNs := Int.toNat_of_nonneg hnonneg
  have hresolves : Resolves memory rebuilt (nowNs.toNat : Nat) result after ↔
      Resolves memory observation nowNs result after := by
    rw [Resolves, Resolves, hid, hnow]
  have hshadowed : Shadowed memory ((stateAfter runtime memory calls).evidence.purge memory.config
      nowNs.toNat) rebuilt ↔ Shadowed memory ((stateAfter runtime memory calls).evidence.purge
        memory.config nowNs.toNat) observation := by
    unfold Shadowed
    exact exists_congr fun robot => and_congr_left fun _ => hrobot robot
  rw [← hresolves, ← hshadowed]
  constructor
  · exact fun hall hbad => h.not_resolves hagree hkeyed hbad hall
  · exact fun hfree => h.resolves hagree hkeyed hfree

/-- In every run, the keys that an accepted observation updated and that were not evicted find it at
the time of its ingestion, exactly when the observation is no robot state whose base pose becomes
current while a sensor with the robot's identity has a body pose. -/
theorem acceptedKeys_resolve_iff (runtime : WorkingRuntime) (memory : WorkingMemory)
    (calls : List (WorkingCall p)) (observation : Observation p) (nowNs received : Int)
    (result : IngestionResult) (after : WorkingState p)
    (hingest : (stateAfter runtime memory calls).ingest runtime memory observation nowNs received =
      .ok (result, after)) (haccepted : result.status = .accepted) :
    Resolves memory observation nowNs result after ↔
      ¬Shadowed memory ((stateAfter runtime memory calls).evidence.purge memory.config nowNs.toNat)
        observation :=
  resolves_iff hingest haccepted

end Resolution

section Namesake

/-- The names of two frames. -/
theorem baseFrame_checked : IsFrame (py "base") := by decide

/-- The name of the frame of the map. -/
theorem mapFrame_checked : IsFrame (py "map") := by decide

/-- A source of body poses that has the robot's identity. -/
def namesake : SensorIdentity := ⟨ayyoRobotId, .bodyPose, ⟨py "base", baseFrame_checked⟩⟩

/-- A memory with that source. -/
def namesakeMemory : WorkingMemory where
  catalog := tightMemory.catalog
  config := { tightConfig with
    sensors := [namesake]
    few_sensors := by decide
    ordered := List.pairwise_singleton _ _ }
  robot_eq := tightMemory.robot_eq

/-- The robot stands at the origin of a map. -/
def originPose : Pose3D where
  frameId := ⟨py "map", mapFrame_checked⟩
  childFrameId := ⟨py "base", baseFrame_checked⟩
  positionXyz := ⟨lowEdge, lowEdge, lowEdge⟩
  orientationXyzw := ⟨lowEdge, lowEdge, lowEdge, highEdge⟩
  frames_ne := by decide

/-- The time of the observations is bounded. -/
theorem hundred_bounded : 100 ≤ maxObservationTimeNs := by decide

/-- No covariance has no dimension. -/
theorem noCovariance_dimension : ∀ matrix : CovarianceMatrix, none = some matrix →
    matrix.dimension = 6 := by
  intro matrix hmatrix
  cases hmatrix

/-- A body pose of the source. -/
def namesakePose : BodyPoseObservation where
  robotId := ayyoRobotId
  sensor := namesake
  pose := originPose
  covariance := none
  observedAtNs := 100
  provenance := testSource
  availability := .available
  quality := none
  sensor_kind := rfl
  frame_eq := rfl
  covariance_dimension := noCovariance_dimension
  bounded := hundred_bounded
  measuring := available_measuring

/-- A whole confidence is not negative. -/
theorem wholly_nonneg : 0 ≤ highEdge.toRat := by decide

/-- A whole confidence is at most one. -/
theorem wholly_le : highEdge.toRat ≤ 1 := by decide

/-- No joint is few joints. -/
theorem noJoints_few : ([] : List JointObservation).length ≤ maxObservationItems := Nat.zero_le _

/-- No joints are in the order of their names. -/
theorem noJoints_ordered :
    KeyOrdered (fun joint : JointObservation => joint.jointName.text) [] := List.Pairwise.nil

/-- A robot state with a base pose alone. -/
def originState : RobotStateObservation where
  robotId := ayyoRobotId
  joints := []
  basePose := some originPose
  observedAtNs := 100
  provenance := testSource
  confidence := ⟨highEdge, wholly_nonneg, wholly_le⟩
  few := noJoints_few
  evident := Or.inr (Option.some_ne_none _)
  ordered := noJoints_ordered
  bounded := hundred_bounded

/-- The run: the body pose is ingested. -/
def namesakeCalls : List (WorkingCall p) := [.ingest (.bodyPose namesakePose) 200 0]

/-- The evidence of the body pose. -/
def heldPose : Evidence p := { Evidence.empty with
  bodyPoseEvidence := PyDict.empty.set ayyoRobotId namesakePose
  recent := [⟨.bodyPose namesakePose, 0⟩] }

/-- An observation of the robot passes the checks of the configuration. -/
theorem checkSource_namesake {observation : Observation p}
    (hrobot : observation.robotId = ayyoRobotId) (hprovenance : observation.provenance = testSource)
    (hsensor : ∀ sensor ∈ observation.sensor?, sensor = namesake)
    (htime : observation.observedAtNs = 100) (hresult : resultAtNs? observation = none) :
    checkSource namesakeMemory.config observation 200 = .ok () := by
  have hskew : namesakeMemory.config.permittedFutureSkewNs = 0 := rfl
  have hretention : namesakeMemory.config.retentionTtlNs = 1000 := rfl
  simp only [checkSource, Checks.unit_bind_ok, Checks.require_ok]
  refine ⟨hrobot, ?_, ?_, ?_, ?_, ?_⟩
  · rw [hprovenance]
    exact List.mem_singleton_self _
  · intro sensor hmem
    rw [hsensor sensor hmem]
    exact List.find?_cons_of_pos (decide_eq_true rfl)
  · omega
  · intro result hmem
    rw [hresult] at hmem
    cases hmem
  · omega

/-- The body pose is placed in an empty memory. -/
theorem place_namesake : place plainRuntime namesakeMemory (.empty : Evidence p)
    (.bodyPose namesakePose) 200 = .ok ⟨Evidence.empty.store (.bodyPose namesakePose),
      [(Slot.bodyPose ayyoRobotId).key ayyoRobotId], false⟩ := by
  have hsource : checkSource namesakeMemory.config (.bodyPose namesakePose : Observation p) 200 =
      .ok () := by
    apply checkSource_namesake rfl rfl ?_ rfl rfl
    intro sensor hsensor
    exact (Option.some.inj hsensor).symm
  rw [place, Checks.unit_bind_ok, Checks.require_bind_ok]
  exact ⟨hsource, List.not_mem_nil, rfl⟩

/-- After the run the memory has the body pose. -/
theorem stands_namesake :
    Stands (stateAfter plainRuntime namesakeMemory (namesakeCalls (p := p))) heldPose := by
  obtain ⟨result, later, hingest, -, hlater⟩ := stands_reset.accepts (allSourced_empty rfl)
    (by decide) rfl (place_namesake (p := p))
  have hrun : stateAfter plainRuntime namesakeMemory (namesakeCalls (p := p)) = later := by
    rw [namesakeCalls, stateAfter, List.foldl_cons, List.foldl_nil, WorkingState.apply, hingest]
  rw [hrun]
  exact hlater

/-- The robot state differs from the body pose in its text. -/
theorem namesake_ne : (Observation.robotState originState : Observation sampledPlatform).observationId
    ≠ (Observation.bodyPose namesakePose : Observation sampledPlatform).observationId := by
  apply observationId_ne
  decide

/-- The robot state is placed beside the body pose. -/
theorem place_origin : ∃ placement, place plainRuntime namesakeMemory
    (heldPose : Evidence sampledPlatform) (.robotState originState) 200 = .ok placement := by
  have hsource : checkSource namesakeMemory.config
      (.robotState originState : Observation sampledPlatform) 200 = .ok () := by
    apply checkSource_namesake rfl rfl ?_ rfl rfl
    intro sensor hsensor
    cases hsensor
  have hknown : (heldPose : Evidence sampledPlatform).knownIds =
      [(Observation.bodyPose namesakePose : Observation sampledPlatform).observationId,
        (Observation.bodyPose namesakePose : Observation sampledPlatform).observationId] := rfl
  have hnew : (Observation.robotState originState : Observation sampledPlatform).observationId ∉
      (heldPose : Evidence sampledPlatform).knownIds := by
    rw [hknown]
    simpa using namesake_ne
  have hplaced : ∃ placement, placeNew plainRuntime namesakeMemory
      (heldPose : Evidence sampledPlatform) (.robotState originState) = .ok placement :=
    ⟨_, rfl⟩
  obtain ⟨placement, hplaced⟩ := hplaced
  refine ⟨placement, ?_⟩
  rw [place, Checks.unit_bind_ok, Checks.require_bind_ok]
  exact ⟨hsource, hnew, hplaced⟩

/-- The robot state is accepted in the shadow of the body pose. -/
theorem originState_shadowed : ∃ result after,
    (stateAfter plainRuntime namesakeMemory (namesakeCalls (p := sampledPlatform))).ingest
        plainRuntime namesakeMemory (.robotState originState) 200 0 = .ok (result, after) ∧
      result.status = .accepted ∧
      Shadowed namesakeMemory ((stateAfter plainRuntime namesakeMemory
        (namesakeCalls (p := sampledPlatform))).evidence.purge namesakeMemory.config
          (200 : Int).toNat) (.robotState originState : Observation sampledPlatform) := by
  have hstands := @stands_namesake sampledPlatform
  have hevidence := hstands.holding
  obtain ⟨placement, hplace⟩ := place_origin
  obtain ⟨result, after, hingest, haccepted, -⟩ :=
    hstands.accepts (allSourced_empty rfl) (by decide) rfl hplace
  refine ⟨result, after, hingest, haccepted, originState, rfl, rfl, ?_, ?_⟩
  · intro pose hpose
    rw [hevidence] at hpose
    cases hpose
  · rw [hevidence]
    rfl

/-- The keys of that robot state resolve just when it is not in the shadow. -/
theorem originState_resolves_iff : ∃ result after,
    (stateAfter plainRuntime namesakeMemory (namesakeCalls (p := sampledPlatform))).ingest
        plainRuntime namesakeMemory (.robotState originState) 200 0 = .ok (result, after) ∧
      (Resolves namesakeMemory (.robotState originState : Observation sampledPlatform) 200 result
          after ↔ ¬Shadowed namesakeMemory ((stateAfter plainRuntime namesakeMemory
            (namesakeCalls (p := sampledPlatform))).evidence.purge namesakeMemory.config
              (200 : Int).toNat) (.robotState originState : Observation sampledPlatform)) := by
  obtain ⟨result, after, hingest, haccepted, -⟩ := originState_shadowed
  exact ⟨result, after, hingest, acceptedKeys_resolve_iff plainRuntime namesakeMemory namesakeCalls
    (.robotState originState) 200 0 result after hingest haccepted⟩

/-- Not every updated key of an accepted observation finds it: the key of that robot state's base
pose finds the body pose. -/
theorem acceptedKey_unresolved : ¬∀ (p : Platform) (runtime : WorkingRuntime) (memory : WorkingMemory)
    (calls : List (WorkingCall p)) (observation : Observation p) (nowNs received : Int)
    (result : IngestionResult) (after : WorkingState p),
    (stateAfter runtime memory calls).ingest runtime memory observation nowNs received =
      .ok (result, after) → result.status = .accepted →
        Resolves memory observation nowNs result after := by
  intro hall
  obtain ⟨result, after, hingest, haccepted, hshadowed⟩ := originState_shadowed
  have hresolves := hall sampledPlatform plainRuntime namesakeMemory namesakeCalls
    (.robotState originState) 200 0 result after hingest haccepted
  exact (resolves_iff hingest haccepted).mp hresolves hshadowed

end Namesake

end Working
end AyyoHumanoid
