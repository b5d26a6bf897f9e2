import AyyoHumanoid.WorkingRuns

/-!
# What an accepted observation changes

Storing changes the slots of the observation and no others, expiry and the
capacities only remove evidence, and the observations afterwards are those from
before and the accepted one.
-/

namespace AyyoHumanoid
namespace Working

open PyText JsonText PyCollections World

variable {p : Platform}

section Slots

variable {evidence : Evidence p} {observation found : Observation p} {slot other : Slot}

/-- Storing an observation changes its slot alone. -/
theorem current_store (h : slotOf observation = some slot) :
    (evidence.store observation).current other =
      if other = slot then some observation else evidence.current other := by
  cases observation with
  | robotState o => cases h
  | _ =>
    obtain rfl := Option.some.inj h
    cases other <;> simp [Evidence.store, Evidence.current, PyDict.get?_set]
    split <;> simp_all

/-- A slot of a robot state. -/
def RobotSlot : Slot → Prop
  | .joint _ => True
  | .basePose => True
  | _ => False

/-- Storing a robot state changes the given slot alone. -/
theorem current_storeRobot {o : RobotStateObservation} (h : RobotSlot slot) :
    (evidence.storeRobot o slot).current other =
      if other = slot then some (.robotState o) else evidence.current other := by
  cases slot with
  | joint jointName =>
    cases other <;> simp [Evidence.storeRobot, Evidence.current, PyDict.get?_set]
    split <;> simp_all
  | basePose => cases other <;> simp [Evidence.storeRobot, Evidence.current]
  | _ => cases h

/-- The entries of a dictionary from a threshold on, as observations. -/
theorem map_get?_keep {κ α : Type} [DecidableEq κ] {d : PyDict κ α} {key : κ} {time : α → Nat}
    {make : α → Observation p} {threshold : Int} (h : ∀ o, (make o).observedAtNs = time o) :
    ((d.keep fun _ o => threshold ≤ (time o : Int)).get? key).map make = some found ↔
      (d.get? key).map make = some found ∧ threshold ≤ found.observedAtNs := by
  simp only [Option.map_eq_some_iff, PyDict.get?_keep_eq_some]
  constructor
  · rintro ⟨o, ⟨hfound, htime⟩, rfl⟩
    rw [h]
    exact ⟨⟨o, hfound, rfl⟩, htime⟩
  · rintro ⟨⟨o, hfound, rfl⟩, htime⟩
    rw [h] at htime
    exact ⟨o, ⟨hfound, htime⟩, rfl⟩

/-- Expiry keeps the evidence from the threshold on. -/
theorem current_keepFrom {threshold : Int} : (evidence.keepFrom threshold).current slot = some found ↔
    evidence.current slot = some found ∧ threshold ≤ found.observedAtNs := by
  cases slot with
  | basePose =>
    simp only [Evidence.keepFrom, Evidence.current, Option.map_eq_some_iff,
      Option.filter_eq_some_iff, decide_eq_true_eq]
    constructor
    · rintro ⟨o, ⟨hfound, htime⟩, rfl⟩
      exact ⟨⟨o, hfound, rfl⟩, htime⟩
    · rintro ⟨⟨o, hfound, rfl⟩, htime⟩
      exact ⟨o, ⟨hfound, htime⟩, rfl⟩
  | _ => exact map_get?_keep fun _ => rfl

/-- Dropping orphans removes semantic batches only. -/
theorem current_dropOrphans (h : ∀ observationId, slot ≠ .semantic observationId) :
    evidence.dropOrphans.current slot = evidence.current slot := by
  cases slot with
  | semantic observationId => exact absurd rfl (h observationId)
  | _ => rfl

/-- The semantic batches that are no orphans. -/
theorem get?_dropOrphans {observationId : ObservationId} {batch : SemanticEvidenceObservation p} :
    evidence.dropOrphans.semanticEvidence.get? observationId = some batch ↔
      evidence.semanticEvidence.get? observationId = some batch ∧ evidence.Sourced batch :=
  PyDict.get?_keep_eq_some

/-- What is left when orphans are dropped was there. -/
theorem current_of_dropOrphans (h : evidence.dropOrphans.current slot = some found) :
    evidence.current slot = some found := by
  cases slot with
  | semantic observationId =>
    obtain ⟨batch, hbatch, rfl⟩ := Option.map_eq_some_iff.mp h
    exact Option.map_eq_some_iff.mpr ⟨batch, (get?_dropOrphans.mp hbatch).1, rfl⟩
  | _ => exact h

/-- What is left after expiry was there and is within the threshold. -/
theorem current_of_purge {config : WorkingMemoryConfig} {nowNs : Nat}
    (h : (evidence.purge config nowNs).current slot = some found) :
    evidence.current slot = some found ∧
      (nowNs : Int) - config.retentionTtlNs ≤ found.observedAtNs :=
  current_keepFrom.mp (current_of_dropOrphans h)

/-- What is within the capacities was there. -/
theorem current_of_bound {config : WorkingMemoryConfig} {envelope : EvidenceEnvelope p}
    (h : (evidence.bound config envelope).current slot = some found) :
    evidence.current slot = some found := by
  cases slot with
  | entity entityId =>
    obtain ⟨o, ho, rfl⟩ := Option.map_eq_some_iff.mp h
    exact Option.map_eq_some_iff.mpr ⟨o, (PyDict.get?_dropAll.mp ho).1, rfl⟩
  | semantic observationId =>
    obtain ⟨o, ho, rfl⟩ := Option.map_eq_some_iff.mp h
    exact Option.map_eq_some_iff.mpr ⟨o, (PyDict.get?_dropAll.mp ho).1, rfl⟩
  | _ => exact h

/-- The capacities concern entities and semantic batches. -/
theorem current_bound {config : WorkingMemoryConfig} {envelope : EvidenceEnvelope p}
    (hentity : ∀ entityId, slot ≠ .entity entityId)
    (hsemantic : ∀ observationId, slot ≠ .semantic observationId) :
    (evidence.bound config envelope).current slot = evidence.current slot := by
  cases slot with
  | entity entityId => exact absurd rfl (hentity entityId)
  | semantic observationId => exact absurd rfl (hsemantic observationId)
  | _ => rfl

end Slots

section Placements

variable {runtime : WorkingRuntime} {memory : WorkingMemory} {config : WorkingMemoryConfig}
  {evidence : Evidence p} {observation : Observation p} {placement : Placement p} {nowNs : Nat}

/-- The comparison does not refuse the observation. -/
def Comparison.Ahead (comparison : Comparison) : Prop := comparison = .new ∨ comparison = .newer

/-- A comparison that is settled is ahead. -/
theorem settleComparison_ok {conflict older : String} {comparison : Comparison} {replaced : Bool}
    (h : settleComparison conflict older comparison = .ok replaced) :
    comparison.Ahead ∧ (replaced = true ↔ comparison = .newer) := by
  cases comparison with
  | new => exact ⟨Or.inl rfl, by simp [← Except.ok.inj h]⟩
  | newer => exact ⟨Or.inr rfl, by simp [← Except.ok.inj h]⟩
  | older => cases h
  | sameTimeConflict => cases h

/-- An observation is ahead when there is no current one or it is later. -/
theorem compareCurrent_ahead {current : Option Nat} {incoming : Nat} :
    (compareCurrent current incoming).Ahead ↔ ∀ time ∈ current, time < incoming := by
  cases current with
  | none => simp [compareCurrent, Comparison.Ahead]
  | some time =>
    rw [compareCurrent, Comparison.Ahead]
    by_cases hless : incoming < time
    · have hnot : ¬time < incoming := by omega
      simp [hless, hnot]
    · by_cases heq : incoming = time
      · simp [heq]
      · have hlater : time < incoming := by omega
        simp [hless, heq, hlater]

/-- How a new observation is placed. -/
inductive Placed (memory : WorkingMemory) (evidence : Evidence p) :
    Observation p → Placement p → Prop where
  /-- A robot state becomes the evidence of those of its slots where it is ahead. -/
  | robot {o : RobotStateObservation} {placement : Placement p}
      (hrobot : o.robotId = memory.config.robotId) (h : placeRobot evidence o = .ok placement) :
      Placed memory evidence (.robotState o) placement
  /-- A batch is stored when it passes the checks and the watermark. -/
  | semantic {o : SemanticEvidenceObservation p} {placement : Placement p}
      (h : placeSemantic memory.config evidence o = .ok placement) :
      Placed memory evidence (.semanticEvidence o) placement
  /-- Any other observation is stored when it is ahead in its slot. -/
  | stored {observation : Observation p} {slot : Slot} {replaced : Bool}
      (hslot : slotOf observation = some slot)
      (hsemantic : ∀ o, observation ≠ .semanticEvidence o)
      (hchecked : checkSensor memory.config evidence observation = .ok ())
      (hahead : (compareCurrent ((evidence.current slot).map orderTime)
        (orderTime observation)).Ahead) :
      Placed memory evidence observation
        ⟨evidence.store observation, [slot.key memory.config.robotId], replaced⟩

/-- A sensor observation is stored when it is ahead. -/
theorem placed_of_placeSensor {slot : Slot} (hslot : slotOf observation = some slot)
    (hsemantic : ∀ o, observation ≠ .semanticEvidence o)
    (h : placeSensor memory.config evidence observation slot = .ok placement) :
    Placed memory evidence observation placement := by
  simp only [placeSensor, Checks.bind_ok, Checks.pure_ok] at h
  obtain ⟨_, hchecked, replaced, hsettled, rfl⟩ := h
  exact .stored hslot hsemantic hchecked (settleComparison_ok hsettled).1

/-- A new observation is placed in one of the three ways. -/
theorem placed_of_placeNew (hrobot : observation.robotId = memory.config.robotId)
    (h : placeNew runtime memory evidence observation = .ok placement) :
    Placed memory evidence observation placement := by
  cases observation with
  | robotState o =>
    simp only [placeNew, Checks.bind_ok] at h
    obtain ⟨_, -, hplace⟩ := h
    exact .robot hrobot hplace
  | semanticEvidence o => exact .semantic h
  | environmentEntity o =>
    simp only [placeNew, placeEntity, Checks.bind_ok, Checks.pure_ok] at h
    obtain ⟨replaced, hsettled, rfl⟩ := h
    have hahead := (settleComparison_ok hsettled).1
    have hsame : (evidence.current (.entity o.entity.entityId)).map orderTime =
        (evidence.entityEvidence.get? o.entity.entityId).map (·.observedAtNs) := by
      rw [Evidence.current, Option.map_map]
      rfl
    have hslot : slotOf (.environmentEntity o : Observation p) =
        some (.entity o.entity.entityId) := rfl
    exact .stored hslot (fun _ h => nomatch h) rfl (hsame ▸ hahead)
  | _ => exact placed_of_placeSensor rfl (fun _ h => nomatch h) h

/-- What a placed observation has passed. -/
theorem place_ok (h : place runtime memory evidence observation nowNs = .ok placement) :
    checkSource memory.config observation nowNs = .ok () ∧
      observation.observationId ∉ evidence.knownIds ∧
      Placed memory evidence observation placement := by
  rw [place, Checks.unit_bind_ok, Checks.require_bind_ok] at h
  obtain ⟨hsource, hnew, hplace⟩ := h
  refine ⟨hsource, hnew, placed_of_placeNew ?_ hplace⟩
  simp only [checkSource, Checks.unit_bind_ok, Checks.require_ok] at hsource
  exact hsource.1

/-- Storing a robot state in several slots changes these alone. -/
theorem current_foldl_storeRobot {o : RobotStateObservation} {slots : List Slot} {other : Slot}
    (h : ∀ slot ∈ slots, RobotSlot slot) :
    (slots.foldl (fun evidence slot => evidence.storeRobot o slot) evidence).current other =
      if other ∈ slots then some (.robotState o) else evidence.current other := by
  induction slots generalizing evidence with
  | nil => rfl
  | cons slot slots ih =>
    rw [List.foldl_cons, ih fun later hlater => h later (List.mem_cons_of_mem _ hlater),
      current_storeRobot (h slot List.mem_cons_self)]
    by_cases hlater : other ∈ slots
    · simp [hlater]
    · by_cases hslot : other = slot <;> simp [hlater, hslot]

/-- What one storage of a robot state leaves alone is left alone by several. -/
theorem foldl_storeRobot_field {β : Type} {field : Evidence p → β} {o : RobotStateObservation}
    {slots : List Slot} (h : ∀ evidence slot, field (Evidence.storeRobot o evidence slot) = field evidence) :
    field (slots.foldl (fun evidence slot => evidence.storeRobot o slot) evidence) =
      field evidence := by
  induction slots generalizing evidence with
  | nil => rfl
  | cons slot slots ih => rw [List.foldl_cons, ih, h]

/-- The decisions about a robot state concern its own slots. -/
theorem mem_robotDecisions {o : RobotStateObservation} {decision : Slot × Comparison} :
    decision ∈ robotDecisions evidence o ↔
      ((∃ joint ∈ o.joints, decision.1 = .joint joint.jointName) ∨
        (o.basePose.isSome = true ∧ decision.1 = .basePose)) ∧
      decision.2 = compareCurrent ((evidence.current decision.1).map (·.observedAtNs))
        o.observedAtNs := by
  obtain ⟨slot, comparison⟩ := decision
  have hjoint : ∀ jointName, (evidence.current (.joint jointName)).map (·.observedAtNs) =
      (evidence.jointEvidence.get? jointName).map (·.observedAtNs) := fun jointName => by
    rw [Evidence.current, Option.map_map]
    rfl
  have hpose : (evidence.current .basePose).map (·.observedAtNs) =
      evidence.poseEvidence.map (·.observedAtNs) := by
    rw [Evidence.current, Option.map_map]
    rfl
  rw [robotDecisions, List.mem_append, List.mem_map, List.mem_map]
  constructor
  · rintro (⟨joint, hmem, heq⟩ | ⟨pose, hmem, heq⟩)
    · rw [Prod.mk.injEq] at heq
      obtain ⟨rfl, rfl⟩ := heq
      exact ⟨Or.inl ⟨joint, hmem, rfl⟩, by rw [hjoint]⟩
    · rw [Prod.mk.injEq] at heq
      obtain ⟨rfl, rfl⟩ := heq
      rw [Option.mem_toList] at hmem
      refine ⟨Or.inr ⟨?_, rfl⟩, by rw [hpose]⟩
      rw [hmem]
      rfl
  · rintro ⟨⟨joint, hmem, hslot⟩ | ⟨hsome, hslot⟩, hcomparison⟩
    · refine Or.inl ⟨joint, hmem, ?_⟩
      simp only at hslot hcomparison
      rw [hcomparison, hslot, hjoint]
    · obtain ⟨pose, hposeEq⟩ := Option.isSome_iff_exists.mp hsome
      refine Or.inr ⟨pose, Option.mem_toList.mpr hposeEq, ?_⟩
      simp only at hslot hcomparison
      rw [hcomparison, hslot, hpose]

/-- The slots that a robot state updates: its own ones where it is ahead. -/
theorem mem_updatedSlots {o : RobotStateObservation} {robotId : Name} {slot : Slot} :
    slot ∈ updatedSlots robotId (robotDecisions evidence o) ↔
      ((∃ joint ∈ o.joints, slot = .joint joint.jointName) ∨
        (o.basePose.isSome = true ∧ slot = .basePose)) ∧
      ∀ current ∈ evidence.current slot, current.observedAtNs < o.observedAtNs := by
  rw [updatedSlots, mem_sortBy, List.mem_map]
  have hahead : (compareCurrent ((evidence.current slot).map (·.observedAtNs))
      o.observedAtNs).Ahead ↔
      ∀ current ∈ evidence.current slot, current.observedAtNs < o.observedAtNs := by
    rw [compareCurrent_ahead]
    constructor
    · intro h current hcurrent
      exact h _ (Option.mem_map_of_mem _ hcurrent)
    · intro h time htime
      obtain ⟨current, hcurrent, rfl⟩ := Option.map_eq_some_iff.mp htime
      exact h current hcurrent
  constructor
  · rintro ⟨decision, hmem, rfl⟩
    rw [List.mem_filter, decide_eq_true_eq, mem_robotDecisions] at hmem
    obtain ⟨⟨hown, hcomparison⟩, hsettled⟩ := hmem
    rw [hcomparison] at hsettled
    exact ⟨hown, hahead.mp hsettled⟩
  · rintro ⟨hown, hlater⟩
    refine ⟨(slot, compareCurrent ((evidence.current slot).map (·.observedAtNs))
      o.observedAtNs), ?_, rfl⟩
    rw [List.mem_filter, decide_eq_true_eq, mem_robotDecisions]
    exact ⟨⟨hown, rfl⟩, hahead.mpr hlater⟩

/-- The slots that a robot state updates are slots of robot states. -/
theorem robotSlot_of_updated {o : RobotStateObservation} {robotId : Name} {slot : Slot}
    (h : slot ∈ updatedSlots robotId (robotDecisions evidence o)) : RobotSlot slot := by
  rcases (mem_updatedSlots.mp h).1 with ⟨joint, -, rfl⟩ | ⟨-, rfl⟩ <;> trivial

/-- How a robot state is placed. -/
theorem placeRobot_ok {o : RobotStateObservation} (h : placeRobot evidence o = .ok placement) :
    (∀ decision ∈ robotDecisions evidence o, decision.2 ≠ .sameTimeConflict) ∧
      updatedSlots o.robotId (robotDecisions evidence o) ≠ [] ∧
      placement.evidence = (updatedSlots o.robotId (robotDecisions evidence o)).foldl
        (fun evidence slot => evidence.storeRobot o slot) evidence ∧
      placement.updated = (updatedSlots o.robotId (robotDecisions evidence o)).map
        (Slot.key o.robotId) := by
  simp only [placeRobot, Checks.require_bind_ok, Checks.pure_ok] at h
  obtain ⟨hconflict, hupdated, rfl⟩ := h
  exact ⟨hconflict, hupdated, rfl, rfl⟩

/-- How a batch is placed. -/
theorem placeSemantic_ok {o : SemanticEvidenceObservation p}
    (h : placeSemantic config evidence o = .ok placement) :
    checkSemantic config evidence o = .ok () ∧ checkWatermark evidence o = .ok () ∧
      placement.evidence = { evidence.store (.semanticEvidence o) with
        semanticWatermarks := evidence.semanticWatermarks.set (sourceKey o)
          (o.source.resultAtNs, o.fingerprint.observationId) } ∧
      placement.updated = [(Slot.semantic o.fingerprint.observationId).key config.robotId] := by
  simp only [placeSemantic, Checks.unit_bind_ok, Checks.pure_ok] at h
  obtain ⟨hchecked, hwatermark, rfl⟩ := h
  exact ⟨hchecked, hwatermark, rfl, rfl⟩

/-- The current evidence after a placement was there or is the observation. -/
theorem Placed.current (h : Placed memory evidence observation placement) {slot : Slot}
    {found : Observation p} (hfound : placement.evidence.current slot = some found) :
    evidence.current slot = some found ∨ found = observation := by
  cases h with
  | robot hrobot h =>
    rw [(placeRobot_ok h).2.2.1, current_foldl_storeRobot fun _ hslot => robotSlot_of_updated hslot]
      at hfound
    split at hfound
    · exact Or.inr (Option.some.inj hfound).symm
    · exact Or.inl hfound
  | @semantic o _ h =>
    have hstored : (evidence.store (.semanticEvidence o)).current slot = some found := by
      rw [(placeSemantic_ok h).2.2.1] at hfound
      cases slot <;> exact hfound
    rw [current_store rfl] at hstored
    split at hstored
    · exact Or.inr (Option.some.inj hstored).symm
    · exact Or.inl hstored
  | stored hslot hsemantic hchecked hahead =>
    rw [current_store hslot] at hfound
    split at hfound
    · exact Or.inr (Option.some.inj hfound).symm
    · exact Or.inl hfound

/-- A placement leaves the recent evidence alone. -/
theorem Placed.recent (h : Placed memory evidence observation placement) :
    placement.evidence.recent = evidence.recent := by
  cases h with
  | robot hrobot h =>
    rw [(placeRobot_ok h).2.2.1]
    exact foldl_storeRobot_field fun _ slot => by cases slot <;> rfl
  | semantic h =>
    rw [(placeSemantic_ok h).2.2.1]
    rfl
  | stored hslot hsemantic hchecked hahead =>
    cases observation <;> rfl

/-- The slots that an observation is evidence for. -/
inductive Concerns : Observation p → Slot → Prop where
  /-- One of the joints of a robot state. -/
  | joint {o : RobotStateObservation} {joint : JointObservation} (h : joint ∈ o.joints) :
      Concerns (.robotState o) (.joint joint.jointName)
  | basePose {o : RobotStateObservation} (h : o.basePose.isSome = true) :
      Concerns (.robotState o) .basePose
  /-- The slot of any other observation. -/
  | own {observation : Observation p} {slot : Slot} (h : slotOf observation = some slot) :
      Concerns observation slot

/-- Every piece of current evidence is of its slot. -/
def Keyed (evidence : Evidence p) : Prop :=
  ∀ slot found, evidence.current slot = some found → Concerns found slot

/-- What is placed is current in its own slots. -/
theorem Placed.concerns (h : Placed memory evidence observation placement) {slot : Slot}
    {found : Observation p} (hfound : placement.evidence.current slot = some found) :
    evidence.current slot = some found ∨ Concerns found slot := by
  cases h with
  | robot hrobot h =>
    rw [(placeRobot_ok h).2.2.1, current_foldl_storeRobot fun _ hslot => robotSlot_of_updated hslot]
      at hfound
    split at hfound
    · next hmem =>
      rw [← Option.some.inj hfound]
      rcases (mem_updatedSlots.mp hmem).1 with ⟨joint, hjoint, rfl⟩ | ⟨hpose, rfl⟩
      · exact Or.inr (.joint hjoint)
      · exact Or.inr (.basePose hpose)
    · exact Or.inl hfound
  | @semantic o _ h =>
    have hstored : (evidence.store (.semanticEvidence o)).current slot = some found := by
      rw [(placeSemantic_ok h).2.2.1] at hfound
      cases slot <;> exact hfound
    rw [current_store rfl] at hstored
    split at hstored
    · next heq =>
      rw [← Option.some.inj hstored, heq]
      exact Or.inr (.own rfl)
    · exact Or.inl hstored
  | stored hslot hsemantic hchecked hahead =>
    rw [current_store hslot] at hfound
    split at hfound
    · next heq =>
      rw [← Option.some.inj hfound, heq]
      exact Or.inr (.own hslot)
    · exact Or.inl hfound

/-- Every effect keeps the evidence in its slots. -/
theorem Keyed.effect {before after : Evidence p} (heffect : Effect runtime memory before after)
    (h : Keyed before) : Keyed after := by
  cases heffect with
  | unchanged => exact h
  | reset =>
    intro slot found hfound
    cases slot <;> cases hfound
  | purged nowNs =>
    intro slot found hfound
    exact h slot found (current_of_purge hfound).1
  | @placed nowNs observation envelope placement hplace hrebuilt =>
    intro slot found hfound
    have hplaced := current_of_bound (current_of_dropOrphans hfound)
    rcases (place_ok hplace).2.2.concerns hplaced with hbefore | hconcerns
    · exact h slot found (current_of_purge hbefore).1
    · exact hconcerns

/-- After every run the evidence is in its slots. -/
theorem keyed_stateAfter (runtime : WorkingRuntime) (memory : WorkingMemory)
    (calls : List (WorkingCall p)) : Keyed (stateAfter runtime memory calls).evidence := by
  refine evidence_invariant (P := Keyed) ?_ (fun _ _ heffect h => h.effect heffect) calls
  intro slot found hfound
  cases slot <;> cases hfound

end Placements

section Recent

variable {evidence : Evidence p} {envelope item : EvidenceEnvelope p}

/-- The recent evidence is old or new. -/
theorem mem_remember {capacity : Nat} {recent : List (EvidenceEnvelope p)}
    (h : item ∈ remember capacity recent envelope) : item ∈ recent ∨ item = envelope := by
  have hmem := mem_sortBy.mp (List.mem_of_mem_drop h)
  rwa [List.mem_append, List.mem_singleton] at hmem

/-- The retained frames are current or recent. -/
theorem mem_frames {frame : VisualFrameObservation} : frame ∈ evidence.frames ↔
    (∃ sensorId, evidence.current (.visual sensorId) = some (.visualFrame frame)) ∨
      ∃ item ∈ evidence.recent, item.observation = .visualFrame frame := by
  rw [Evidence.frames, List.mem_append, PyDict.mem_values, recentFrames, List.mem_filterMap]
  refine or_congr (exists_congr fun sensorId => ?_) (exists_congr fun item => and_congr_right
    fun _ => ?_)
  · rw [Evidence.current, Option.map_eq_some_iff]
    simp
  · split
    · next o ho => simp [ho]
    · next hother =>
      constructor
      · intro hnone
        cases hnone
      · intro hframe
        exact absurd hframe (hother frame)

/-- The retained interpretations are current or recent. -/
theorem mem_interpretations {interpretation : VisualInterpretationObservation p} :
    interpretation ∈ evidence.interpretations ↔
      (∃ source, evidence.current (.interpretation source) =
        some (.visualInterpretation interpretation)) ∨
      ∃ item ∈ evidence.recent, item.observation = .visualInterpretation interpretation := by
  rw [Evidence.interpretations, List.mem_append, PyDict.mem_values, recentInterpretations,
    List.mem_filterMap]
  refine or_congr (exists_congr fun source => ?_) (exists_congr fun item => and_congr_right
    fun _ => ?_)
  · rw [Evidence.current, Option.map_eq_some_iff]
    simp
  · split
    · next o ho => simp [ho]
    · next hother =>
      constructor
      · intro hnone
        cases hnone
      · intro hinterpretation
        exact absurd hinterpretation (hother interpretation)

end Recent

end Working
end AyyoHumanoid
