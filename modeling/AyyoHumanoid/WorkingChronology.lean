import AyyoHumanoid.PlatformDigests
import AyyoHumanoid.WorkingReplays

/-!
# The order in which evidence becomes current

Between two resets the memory remembers of every accepted observation that it is
outlived, or that its slot holds one that is no earlier, or, for an entity, that the
capacity is taken by observations that rank higher. What becomes current later is
therefore not earlier. Interpretations are ordered by their results and batches by
the watermark of their source. An accepted observation is accepted again only when
it is an entity that the capacity evicts at once, or an interpretation whose
successors are outlived.
-/

namespace AyyoHumanoid
namespace Working

open PyText JsonText PyCollections World

variable {p : Platform}

section Acceptance

variable {runtime : WorkingRuntime} {memory : WorkingMemory} {state after : WorkingState p}
  {observation : Observation p} {call : WorkingCall p}

/-- The call accepts the observation. -/
def Accepts (runtime : WorkingRuntime) (memory : WorkingMemory) (state : WorkingState p)
    (call : WorkingCall p) (observation : Observation p) : Prop :=
  ∃ given nowNs receivedAtMonotonicNs result after,
    call = .ingest given nowNs receivedAtMonotonicNs ∧
      state.ingest runtime memory given nowNs receivedAtMonotonicNs = .ok (result, after) ∧
      result.status = .accepted ∧ rebuildObservation runtime.normalize given = .ok observation

/-- What accepting an observation does to a state. -/
structure Acceptance (runtime : WorkingRuntime) (memory : WorkingMemory) (state : WorkingState p)
    (observation : Observation p) (after : WorkingState p) (nowNs : Nat)
    (placement : Placement p) : Prop where
  /-- The clock does not go back. -/
  later : ∀ last ∈ state.lastNowNs, last ≤ nowNs
  /-- The observation is placed in the unexpired evidence. -/
  placed : place runtime memory (state.evidence.purge memory.config nowNs) observation nowNs =
    .ok placement
  /-- The clock shows the time of the call. -/
  now : after.lastNowNs = some nowNs
  /-- The capacities are applied. -/
  bounded : ∃ envelope,
    after.evidence = (placement.evidence.bound memory.config envelope).dropOrphans

/-- What a call other than a reset does to a state. -/
inductive Proceeding (runtime : WorkingRuntime) (memory : WorkingMemory) (state : WorkingState p) :
    WorkingState p → Prop where
  /-- The call raised. -/
  | unchanged : Proceeding runtime memory state state
  /-- The clock advanced. -/
  | aged {after : WorkingState p} (nowNs : Nat) (hlater : ∀ last ∈ state.lastNowNs, last ≤ nowNs)
      (hnow : after.lastNowNs = some nowNs)
      (hevidence : after.evidence = state.evidence.purge memory.config nowNs) :
      Proceeding runtime memory state after
  | accepted {observation : Observation p} {after : WorkingState p} {nowNs : Nat}
      {placement : Placement p}
      (h : Acceptance runtime memory state observation after nowNs placement) :
      Proceeding runtime memory state after

/-- The clock does not go back. -/
theorem advanceTime_later {nowNs : Int} {advanced : WorkingState p}
    (h : state.advanceTime memory.config nowNs = .ok advanced) :
    (∀ last ∈ state.lastNowNs, last ≤ nowNs.toNat) ∧
      advanced.lastNowNs = some nowNs.toNat ∧
      advanced.evidence = state.evidence.purge memory.config nowNs.toNat := by
  obtain ⟨⟨hnonneg, -⟩, hlast, rfl⟩ := advanceTime_ok.mp h
  refine ⟨fun last hmem => ?_, rfl, rfl⟩
  have hnot := hlast last hmem
  omega

/-- A refusal leaves the clock alone. -/
theorem decline_now {refusal : Refusal} {observationId : ObservationId} :
    (state.decline observationId refusal).2.lastNowNs = state.lastNowNs := by
  cases refusal <;> rfl

/-- Receiving leaves the clock alone. -/
theorem receive_now {envelope : EvidenceEnvelope p} {nowNs : Nat} :
    (state.receive runtime memory observation envelope nowNs).2.lastNowNs = state.lastNowNs := by
  rw [WorkingState.receive]
  split
  · exact decline_now
  · dsimp only
    cases hplace : place runtime memory state.evidence observation nowNs with
    | error refusal => exact decline_now
    | ok placement => rfl

/-- An ingestion that returns declines, or accepts the rebuilt observation. -/
theorem ingest_cases {given : Observation p} {nowNs receivedAtMonotonicNs : Int}
    {result : IngestionResult}
    (h : state.ingest runtime memory given nowNs receivedAtMonotonicNs = .ok (result, after)) :
    (∀ last ∈ state.lastNowNs, last ≤ nowNs.toNat) ∧ after.lastNowNs = some nowNs.toNat ∧
      ((after.evidence = state.evidence.purge memory.config nowNs.toNat ∧
          result.status ≠ .accepted) ∨
        ∃ rebuilt placement, rebuildObservation runtime.normalize given = .ok rebuilt ∧
          Acceptance runtime memory state rebuilt after nowNs.toNat placement ∧
          result.status = .accepted) := by
  obtain ⟨rebuilt, envelope, advanced, hrebuilt, -, hadvance, hreceive⟩ := ingest_ok h
  obtain ⟨hlater, hnow, hevidence⟩ := advanceTime_later hadvance
  have hafter : after.lastNowNs = some nowNs.toNat := by
    have hsame : after.lastNowNs = advanced.lastNowNs := by
      have hreceived : (advanced.receive runtime memory rebuilt envelope nowNs.toNat).2.lastNowNs =
          advanced.lastNowNs := receive_now
      rwa [hreceive] at hreceived
    rw [hsame, hnow]
  refine ⟨hlater, hafter, ?_⟩
  rcases receive_cases hreceive with ⟨hsame, hstatus⟩ | ⟨placement, hplace, hbound, hstatus, -⟩
  · exact Or.inl ⟨hsame.trans hevidence, hstatus⟩
  · rw [hevidence] at hplace
    exact Or.inr ⟨rebuilt, placement, hrebuilt, ⟨hlater, hplace, hafter, envelope, hbound⟩, hstatus⟩

/-- What a call other than a reset does. -/
theorem proceeding_apply (hcall : call ≠ .reset) :
    Proceeding runtime memory state (state.apply runtime memory call) := by
  cases call with
  | reset => exact absurd rfl hcall
  | read nowNs =>
    rw [WorkingState.apply]
    cases hadvance : state.advanceTime memory.config nowNs with
    | error fault => exact .unchanged
    | ok advanced =>
      obtain ⟨hlater, hnow, hevidence⟩ := advanceTime_later hadvance
      exact .aged nowNs.toNat hlater hnow hevidence
  | ingest given nowNs receivedAtMonotonicNs =>
    rw [WorkingState.apply]
    cases hingest : state.ingest runtime memory given nowNs receivedAtMonotonicNs with
    | error fault => exact .unchanged
    | ok outcome =>
      obtain ⟨hlater, hnow, ⟨hevidence, -⟩ | ⟨rebuilt, placement, -, haccepted, -⟩⟩ :=
        ingest_cases hingest
      · exact .aged nowNs.toNat hlater hnow hevidence
      · exact .accepted haccepted

/-- What a call that accepts an observation does. -/
theorem acceptance_of_accepts (h : Accepts runtime memory state call observation) :
    ∃ nowNs placement, Acceptance runtime memory state observation
      (state.apply runtime memory call) nowNs placement := by
  obtain ⟨given, nowNs, receivedAtMonotonicNs, result, after, rfl, hingest, hstatus, hrebuilt⟩ := h
  obtain ⟨-, -, ⟨-, hnot⟩ | ⟨rebuilt, placement, hagain, haccepted, -⟩⟩ := ingest_cases hingest
  · exact absurd hstatus hnot
  · have hsame : rebuilt = observation := Except.ok.inj (hagain.symm.trans hrebuilt)
    rw [hsame] at haccepted
    rw [WorkingState.apply, hingest]
    exact ⟨nowNs.toNat, placement, haccepted⟩

end Acceptance

section Keeping

variable {runtime : WorkingRuntime} {memory : WorkingMemory} {state after : WorkingState p}
  {evidence : Evidence p} {observation : Observation p} {placement : Placement p} {slot : Slot}
  {nowNs time : Nat}

/-- The observation is older than the retention allows. -/
def Outlived (memory : WorkingMemory) (state : WorkingState p) (observation : Observation p) : Prop :=
  ∃ now ∈ state.lastNowNs, (observation.observedAtNs : Int) < now - memory.config.retentionTtlNs

/-- What is outlived stays outlived. -/
theorem Outlived.later (h : Outlived memory state observation)
    (hlater : ∀ last ∈ state.lastNowNs, last ≤ nowNs) (hnow : after.lastNowNs = some nowNs) :
    Outlived memory after observation := by
  obtain ⟨now, hmem, hbefore⟩ := h
  have hle := hlater now hmem
  refine ⟨nowNs, hnow, ?_⟩
  omega

/-- What is accepted is not outlived. -/
theorem Acceptance.not_outlived
    (h : Acceptance runtime memory state observation after nowNs placement) :
    ¬Outlived memory after observation := by
  rintro ⟨now, hmem, hbefore⟩
  have hnow : now = nowNs := Option.some.inj (hmem.symm.trans h.now)
  have hsource := (place_ok h.placed).1
  simp only [checkSource, Checks.unit_bind_ok, Checks.require_ok] at hsource
  have hfresh := hsource.2.2.2.2.2
  rw [hnow] at hbefore
  exact hfresh hbefore

/-- A slot in which evidence is only replaced or expires. -/
def Ordinary : Slot → Prop
  | .entity _ => False
  | .semantic _ => False
  | _ => True

/-- The capacities and the orphans do not concern an ordinary slot. -/
theorem Acceptance.current (h : Acceptance runtime memory state observation after nowNs placement)
    (hslot : Ordinary slot) : after.evidence.current slot = placement.evidence.current slot := by
  obtain ⟨envelope, hafter⟩ := h.bounded
  rw [hafter]
  cases slot with
  | entity entityId => cases hslot
  | semantic observationId => cases hslot
  | _ => rfl

/-- Evidence of an ordinary slot survives expiry unless it is too old. -/
theorem current_purge {found : Observation p} (hslot : Ordinary slot)
    (h : evidence.current slot = some found) :
    (evidence.purge memory.config nowNs).current slot = some found ∨
      (found.observedAtNs : Int) < nowNs - memory.config.retentionTtlNs := by
  have hsame : (evidence.purge memory.config nowNs).current slot =
      (evidence.keepFrom (nowNs - memory.config.retentionTtlNs)).current slot := by
    cases slot with
    | entity entityId => cases hslot
    | semantic observationId => cases hslot
    | _ => rfl
  by_cases hold : (found.observedAtNs : Int) < nowNs - memory.config.retentionTtlNs
  · exact Or.inr hold
  · have htime : (nowNs : Int) - memory.config.retentionTtlNs ≤ found.observedAtNs := by omega
    rw [hsame]
    exact Or.inl (current_keepFrom.mpr ⟨h, htime⟩)

/-- Only interpretations are ordered by another time than the observed one. -/
theorem orderTime_current {found : Observation p} (hslot : ∀ source, slot ≠ .interpretation source)
    (h : evidence.current slot = some found) : orderTime found = found.observedAtNs := by
  cases slot with
  | interpretation source => exact absurd rfl (hslot source)
  | _ =>
    obtain ⟨o, -, rfl⟩ := Option.map_eq_some_iff.mp h
    rfl

/-- A slot of a robot state is ordinary, and it is none of interpretations. -/
theorem RobotSlot.ordinary (h : RobotSlot slot) :
    Ordinary slot ∧ ∀ source, slot ≠ .interpretation source := by
  cases slot with
  | joint jointName =>
    refine ⟨trivial, fun source heq => ?_⟩
    cases heq
  | basePose =>
    refine ⟨trivial, fun source heq => ?_⟩
    cases heq
  | _ => cases h

/-- A placement leaves an ordinary slot alone or is ahead in it. -/
theorem Placed.ahead (h : Placed memory evidence observation placement) (hslot : Ordinary slot) :
    placement.evidence.current slot = evidence.current slot ∨
      placement.evidence.current slot = some observation ∧
        ∀ current ∈ evidence.current slot, orderTime current < orderTime observation := by
  cases h with
  | @robot o placement hrobot h =>
    rw [(placeRobot_ok h).2.2.1, current_foldl_storeRobot fun _ hmem => robotSlot_of_updated hmem]
    by_cases hmem : slot ∈ updatedSlots o.robotId (robotDecisions evidence o)
    · rw [if_pos hmem]
      refine Or.inr ⟨rfl, fun current hcurrent => ?_⟩
      have hordinary := (robotSlot_of_updated hmem).ordinary.2
      rw [orderTime_current hordinary hcurrent]
      exact (mem_updatedSlots.mp hmem).2 current hcurrent
    · rw [if_neg hmem]
      exact Or.inl rfl
  | @semantic o placement h =>
    have hstored : (evidence.store (.semanticEvidence o)).current slot = evidence.current slot := by
      rw [current_store rfl, if_neg]
      intro heq
      rw [heq] at hslot
      exact hslot
    rw [(placeSemantic_ok h).2.2.1]
    refine Or.inl (Eq.trans ?_ hstored)
    cases slot <;> rfl
  | @stored observation own replaced hown hsemantic hchecked hahead =>
    rw [current_store hown]
    by_cases heq : slot = own
    · rw [if_pos heq, heq]
      refine Or.inr ⟨rfl, fun current hcurrent => ?_⟩
      exact compareCurrent_ahead.mp hahead _ (Option.mem_map_of_mem _ hcurrent)
    · rw [if_neg heq]
      exact Or.inl rfl

/-- In its ordinary slots a placed observation is not behind the current evidence. -/
theorem Placed.held (h : Placed memory evidence observation placement) (hslot : Ordinary slot)
    (hconcerns : Concerns observation slot) :
    ∃ current, placement.evidence.current slot = some current ∧
      orderTime observation ≤ orderTime current := by
  have hrobot : ∀ o : RobotStateObservation, observation = .robotState o →
      ((∃ joint ∈ o.joints, slot = .joint joint.jointName) ∨
        (o.basePose.isSome = true ∧ slot = .basePose)) → RobotSlot slot →
      ∃ current, placement.evidence.current slot = some current ∧
        orderTime observation ≤ orderTime current := by
    rintro o rfl hown hkind
    cases h with
    | robot hrobot h =>
      rw [(placeRobot_ok h).2.2.1, current_foldl_storeRobot fun _ hmem => robotSlot_of_updated hmem]
      by_cases hmem : slot ∈ updatedSlots o.robotId (robotDecisions evidence o)
      · rw [if_pos hmem]
        exact ⟨_, rfl, le_refl _⟩
      · rw [if_neg hmem]
        rw [mem_updatedSlots] at hmem
        have hbehind : ¬∀ current ∈ evidence.current slot, current.observedAtNs < o.observedAtNs :=
          fun hlater => hmem ⟨hown, hlater⟩
        simp only [not_forall, not_lt] at hbehind
        obtain ⟨current, hcurrent, hle⟩ := hbehind
        refine ⟨current, hcurrent, ?_⟩
        rw [orderTime_current hkind.ordinary.2 hcurrent]
        exact hle
    | stored hown hsemantic hchecked hahead => cases hown
  cases hconcerns with
  | joint hjoint => exact hrobot _ rfl (Or.inl ⟨_, hjoint, rfl⟩) trivial
  | basePose hpose => exact hrobot _ rfl (Or.inr ⟨hpose, rfl⟩) trivial
  | own hown =>
    cases h with
    | robot hrobot h => cases hown
    | semantic h =>
      have hsame := Option.some.inj hown
      rw [← hsame] at hslot
      cases hslot
    | @stored observation own replaced hstored hsemantic hchecked hahead =>
      have hsame : own = slot := Option.some.inj (hstored.symm.trans hown)
      rw [hsame, current_store hown, if_pos rfl]
      exact ⟨_, rfl, le_refl _⟩

/-- Evidence no earlier than the time is current in the slot, or some was seen that is outlived. -/
def Kept (memory : WorkingMemory) (state : WorkingState p) (seen : Observation p → Prop)
    (slot : Slot) (time : Nat) : Prop :=
  (∃ current, state.evidence.current slot = some current ∧ time ≤ orderTime current) ∨
    ∃ current, seen current ∧ time ≤ orderTime current ∧ Outlived memory state current

/-- Expiry keeps what was seen. -/
theorem Kept.purge {seen : Observation p → Prop} (h : Kept memory state seen slot time)
    (hslot : Ordinary slot) (hseen : ∀ current ∈ state.evidence.current slot, seen current)
    (hlater : ∀ last ∈ state.lastNowNs, last ≤ nowNs) (hnow : after.lastNowNs = some nowNs) :
    (∃ current, (state.evidence.purge memory.config nowNs).current slot = some current ∧
        time ≤ orderTime current) ∨
      ∃ current, seen current ∧ time ≤ orderTime current ∧ Outlived memory after current := by
  rcases h with ⟨current, hcurrent, htime⟩ | ⟨current, hcurrent, htime, houtlived⟩
  · rcases current_purge hslot hcurrent with hstays | hold
    · exact Or.inl ⟨current, hstays, htime⟩
    · exact Or.inr ⟨current, hseen current hcurrent, htime, nowNs, hnow, hold⟩
  · exact Or.inr ⟨current, hcurrent, htime, houtlived.later hlater hnow⟩

/-- A call other than a reset keeps what was seen. -/
theorem Kept.proceed {seen : Observation p → Prop} (h : Kept memory state seen slot time)
    (hslot : Ordinary slot) (hseen : ∀ current ∈ state.evidence.current slot, seen current)
    (hproceeding : Proceeding runtime memory state after) : Kept memory after seen slot time := by
  cases hproceeding with
  | unchanged => exact h
  | aged nowNs hlater hnow hevidence =>
    have hkept := h.purge hslot hseen hlater hnow
    rwa [← hevidence] at hkept
  | accepted haccepted =>
    rcases h.purge hslot hseen haccepted.later haccepted.now with ⟨current, hcurrent, htime⟩ | hold
    · rw [Kept, haccepted.current hslot]
      rcases (place_ok haccepted.placed).2.2.ahead hslot with hsame | ⟨hnew, hahead⟩
      · rw [hsame]
        exact Or.inl ⟨current, hcurrent, htime⟩
      · exact Or.inl ⟨_, hnew, htime.trans (le_of_lt (hahead current hcurrent))⟩
    · exact Or.inr hold

end Keeping

section Entities

variable {runtime : WorkingRuntime} {memory : WorkingMemory} {state after : WorkingState p}
  {evidence : Evidence p} {observation : Observation p} {placement : Placement p}
  {entity : EnvironmentEntityObservation} {nowNs : Nat}

/-- Entities rank differently. -/
theorem separates_entityRank (p : Platform) : PyDict.Separates (entityRank p) := by
  intro entityId observation other stored heq
  simp only [entityRank, EmbeddingLike.apply_eq_iff_eq, Prod.mk.injEq] at heq
  exact Identifier.text_inj.mp heq.2.2

/-- A placed entity is stored over an earlier one. -/
theorem Placed.stored_entity (h : Placed memory evidence (.environmentEntity entity) placement) :
    placement.evidence.entityEvidence =
        evidence.entityEvidence.set entity.entity.entityId entity ∧
      ∀ old ∈ evidence.entityEvidence.get? entity.entity.entityId,
        old.observedAtNs < entity.observedAtNs := by
  cases h with
  | stored hslot hsemantic hchecked hahead =>
    have hsame := Option.some.inj hslot
    rw [← hsame, compareCurrent_ahead] at hahead
    refine ⟨rfl, fun old hold => ?_⟩
    exact hahead _ (Option.mem_map_of_mem _ (Option.mem_map_of_mem _ hold))

/-- What a placement makes of the entities. -/
theorem Placed.entities (h : Placed memory evidence observation placement) :
    placement.evidence.entityEvidence = evidence.entityEvidence ∨
      ∃ entity, observation = .environmentEntity entity := by
  cases h with
  | robot hrobot h =>
    rw [(placeRobot_ok h).2.2.1]
    exact Or.inl (foldl_storeRobot_field fun _ slot => by cases slot <;> rfl)
  | semantic h =>
    rw [(placeSemantic_ok h).2.2.1]
    exact Or.inl rfl
  | stored hslot hsemantic hchecked hahead =>
    cases observation with
    | environmentEntity entity => exact Or.inr ⟨entity, rfl⟩
    | _ => exact Or.inl rfl

/-- An entity that is observed later ranks higher. -/
theorem entityRank_lt {entityId : Name} {old : EnvironmentEntityObservation}
    (h : old.observedAtNs < entity.observedAtNs) :
    entityRank p entityId old < entityRank p entityId entity :=
  Prod.Lex.toLex_lt_toLex.mpr (Or.inl h)

/-- An entity that ranks at least as high is not observed earlier. -/
theorem observedAt_le_of_rank {entityId other : Name} {old : EnvironmentEntityObservation}
    (h : entityRank p entityId old ≤ entityRank p other entity) :
    old.observedAtNs ≤ entity.observedAtNs := by
  rcases Prod.Lex.toLex_le_toLex.mp h with hlt | ⟨heq, -⟩
  · exact le_of_lt hlt
  · exact le_of_eq heq

/-- The entity is topped by what is retained. -/
def EntityTopped (memory : WorkingMemory) (entity : EnvironmentEntityObservation)
    (evidence : Evidence p) : Prop :=
  evidence.entityEvidence.Topped (entityRank p) memory.config.environmentEntityCapacity
    entity.entity.entityId (entityRank p entity.entity.entityId entity)

/-- An accepted entity is outlived or topped. -/
def EntityKept (memory : WorkingMemory) (state : WorkingState p)
    (entity : EnvironmentEntityObservation) : Prop :=
  EntityTopped memory entity state.evidence ∨ Outlived memory state (.environmentEntity entity)

/-- The entities after an acceptance. -/
theorem Acceptance.entities
    (h : Acceptance runtime memory state observation after nowNs placement) :
    after.evidence.entityEvidence = placement.evidence.entityEvidence.keepGreatest (entityRank p)
      memory.config.environmentEntityCapacity := by
  obtain ⟨envelope, hafter⟩ := h.bounded
  rw [hafter]
  rfl

/-- Expiry keeps an entity topped unless it is outlived. -/
theorem EntityTopped.purge (h : EntityTopped memory entity evidence)
    (hyoung : ¬(entity.observedAtNs : Int) < nowNs - memory.config.retentionTtlNs) :
    EntityTopped memory entity (evidence.purge memory.config nowNs) := by
  have hhigh : ∀ other (stored : EnvironmentEntityObservation),
      entityRank p entity.entity.entityId entity ≤ entityRank p other stored →
      (nowNs : Int) - memory.config.retentionTtlNs ≤ stored.observedAtNs := by
    intro other stored hrank
    have htime := observedAt_le_of_rank hrank
    omega
  exact PyDict.Topped.keep h hhigh

/-- Expiry keeps what is known of an entity. -/
theorem EntityKept.purge (h : EntityKept memory state entity)
    (hlater : ∀ last ∈ state.lastNowNs, last ≤ nowNs) (hnow : after.lastNowNs = some nowNs) :
    EntityTopped memory entity (state.evidence.purge memory.config nowNs) ∨
      Outlived memory after (.environmentEntity entity : Observation p) := by
  rcases h with htopped | houtlived
  · by_cases hold : (entity.observedAtNs : Int) < nowNs - memory.config.retentionTtlNs
    · exact Or.inr ⟨nowNs, hnow, hold⟩
    · exact Or.inl (htopped.purge hold)
  · exact Or.inr (houtlived.later hlater hnow)

/-- Applying the capacity to a full dictionary keeps an entity topped. -/
theorem EntityTopped.bound (h : EntityTopped memory entity evidence) :
    (evidence.entityEvidence.keepGreatest (entityRank p)
      memory.config.environmentEntityCapacity).Topped (entityRank p)
        memory.config.environmentEntityCapacity entity.entity.entityId
        (entityRank p entity.entity.entityId entity) := by
  rcases h with ⟨value, hvalue, hbound⟩ | ⟨hfull, habove⟩
  · exact PyDict.topped_keepGreatest (separates_entityRank p) hvalue hbound
  · refine Or.inr ⟨?_, fun other stored hstored => ?_⟩
    · rw [PyDict.size_keepGreatest]
      omega
    · exact habove other stored (PyDict.get?_dropAll.mp hstored).1

/-- A call other than a reset keeps what is known of an entity. -/
theorem EntityKept.proceed (h : EntityKept memory state entity)
    (hproceeding : Proceeding runtime memory state after) : EntityKept memory after entity := by
  cases hproceeding with
  | unchanged => exact h
  | aged nowNs hlater hnow hevidence =>
    have hkept := h.purge hlater hnow
    rwa [← hevidence] at hkept
  | accepted haccepted =>
    rcases h.purge haccepted.later haccepted.now with htopped | houtlived
    · refine Or.inl ?_
      rw [EntityTopped, haccepted.entities]
      have hplaced := (place_ok haccepted.placed).2.2
      rcases hplaced.entities with hsame | ⟨newer, rfl⟩
      · rw [hsame]
        exact htopped.bound
      · obtain ⟨hset, hahead⟩ := hplaced.stored_entity
        rw [hset]
        exact PyDict.Topped.set (separates_entityRank p) htopped fun old hold =>
          entityRank_lt (hahead old hold)
    · exact Or.inr houtlived

/-- An entity is topped when it was accepted. -/
theorem Acceptance.entityKept
    (h : Acceptance runtime memory state (.environmentEntity entity) after nowNs placement) :
    EntityKept memory after entity := by
  have hset := (place_ok h.placed).2.2.stored_entity.1
  refine Or.inl ?_
  rw [EntityTopped, h.entities, hset]
  exact PyDict.topped_keepGreatest (separates_entityRank p) PyDict.get?_set_self (le_refl _)

/-- What is accepted of a topped entity is later, ranks higher or is evicted at once. -/
theorem Acceptance.later_entity {newer : EnvironmentEntityObservation}
    (h : Acceptance runtime memory state (.environmentEntity newer) after nowNs placement)
    (hkept : EntityKept memory state entity)
    (hsame : newer.entity.entityId = entity.entity.entityId) :
    entity.observedAtNs < newer.observedAtNs ∨
      entityRank p newer.entity.entityId entity < entityRank p newer.entity.entityId newer ∨
      after.evidence.entityEvidence.get? newer.entity.entityId = none := by
  obtain ⟨hset, hahead⟩ := (place_ok h.placed).2.2.stored_entity
  rcases hkept.purge h.later h.now with htopped | ⟨now, hmem, hold⟩
  · rw [EntityTopped, ← hsame] at htopped
    cases hcurrent : (state.evidence.purge memory.config nowNs).entityEvidence.get?
        newer.entity.entityId with
    | some old =>
      have hlater := hahead old hcurrent
      refine Or.inl ?_
      rcases htopped with ⟨value, hvalue, hbound⟩ | hsurpassed
      · have heq : value = old := Option.some.inj (hvalue.symm.trans hcurrent)
        rw [heq] at hbound
        exact (observedAt_le_of_rank hbound).trans_lt hlater
      · have hbelow := hsurpassed.2 newer.entity.entityId old hcurrent
        exact (observedAt_le_of_rank (le_of_lt hbelow)).trans_lt hlater
    | none =>
      have hsurpassed : PyDict.Surpassed (entityRank p) memory.config.environmentEntityCapacity
          (entityRank p newer.entity.entityId entity)
          (state.evidence.purge memory.config nowNs).entityEvidence := by
        rcases htopped with ⟨value, hvalue, -⟩ | hsurpassed
        · rw [hcurrent] at hvalue
          cases hvalue
        · exact hsurpassed
      by_cases hrank : entityRank p newer.entity.entityId newer ≤
          entityRank p newer.entity.entityId entity
      · rw [h.entities, hset]
        exact Or.inr (Or.inr (hsurpassed.lost hcurrent hrank))
      · exact Or.inr (Or.inl (not_le.mp hrank))
  · have hyoung := h.not_outlived
    refine Or.inl ?_
    by_contra hnot
    refine hyoung ⟨now, hmem, ?_⟩
    have htime : newer.observedAtNs ≤ entity.observedAtNs := not_lt.mp hnot
    change (entity.observedAtNs : Int) < _ at hold
    change (newer.observedAtNs : Int) < _
    omega

end Entities

section Batches

variable {runtime : WorkingRuntime} {memory : WorkingMemory} {state after : WorkingState p}
  {evidence : Evidence p} {observation : Observation p} {placement : Placement p}
  {batch : SemanticEvidenceObservation p} {nowNs : Nat}

/-- The watermark of the source is at the result of the batch or after it. -/
def Watermarked (evidence : Evidence p) (batch : SemanticEvidenceObservation p) : Prop :=
  ∃ mark ∈ evidence.semanticWatermarks.get? (sourceKey batch), batch.source.resultAtNs ≤ mark.1

/-- A batch that is placed is later than the watermark, and becomes it. -/
theorem Placed.stored_batch (h : Placed memory evidence (.semanticEvidence batch) placement) :
    placement.evidence.semanticWatermarks = evidence.semanticWatermarks.set (sourceKey batch)
        (batch.source.resultAtNs, batch.fingerprint.observationId) ∧
      ∀ mark ∈ evidence.semanticWatermarks.get? (sourceKey batch),
        mark.1 < batch.source.resultAtNs := by
  cases h with
  | semantic h =>
    obtain ⟨-, hmark, hevidence, -⟩ := placeSemantic_ok h
    refine ⟨congrArg Evidence.semanticWatermarks hevidence, ?_⟩
    rintro ⟨result, observationId⟩ hcurrent
    rw [checkWatermark, Option.mem_def.mp hcurrent] at hmark
    simp only [Checks.unit_bind_ok, Checks.require_ok] at hmark
    obtain ⟨hearlier, -, hdifferent⟩ := hmark
    change result < batch.source.resultAtNs
    omega
  | stored hslot hsemantic hchecked hahead => exact absurd rfl (hsemantic batch)

/-- Only batches change the watermarks. -/
theorem Placed.watermarks (h : Placed memory evidence observation placement) :
    placement.evidence.semanticWatermarks = evidence.semanticWatermarks ∨
      ∃ batch, observation = .semanticEvidence batch := by
  cases h with
  | robot hrobot h =>
    rw [(placeRobot_ok h).2.2.1]
    exact Or.inl (foldl_storeRobot_field fun _ slot => by cases slot <;> rfl)
  | @semantic batch placement h => exact Or.inr ⟨batch, rfl⟩
  | stored hslot hsemantic hchecked hahead =>
    cases observation with
    | semanticEvidence batch => exact Or.inr ⟨batch, rfl⟩
    | _ => exact Or.inl rfl

/-- The watermarks after an acceptance. -/
theorem Acceptance.watermarks
    (h : Acceptance runtime memory state observation after nowNs placement) :
    after.evidence.semanticWatermarks = placement.evidence.semanticWatermarks := by
  obtain ⟨envelope, hafter⟩ := h.bounded
  rw [hafter]
  rfl

/-- A call other than a reset does not lower a watermark. -/
theorem Watermarked.proceed (h : Watermarked state.evidence batch)
    (hproceeding : Proceeding runtime memory state after) : Watermarked after.evidence batch := by
  cases hproceeding with
  | unchanged => exact h
  | aged nowNs hlater hnow hevidence =>
    rw [hevidence]
    exact h
  | accepted haccepted =>
    have hplaced := (place_ok haccepted.placed).2.2
    rw [Watermarked, haccepted.watermarks]
    rcases hplaced.watermarks with hsame | ⟨newer, rfl⟩
    · rw [hsame]
      exact h
    · obtain ⟨hset, hahead⟩ := hplaced.stored_batch
      obtain ⟨mark, hmark, hle⟩ := h
      rw [hset]
      by_cases hkey : sourceKey batch = sourceKey newer
      · have hlater := hahead mark (hkey ▸ hmark)
        rw [hkey, PyDict.get?_set_self]
        exact ⟨_, rfl, hle.trans (le_of_lt hlater)⟩
      · rw [PyDict.get?_set_of_ne hkey]
        exact ⟨mark, hmark, hle⟩

/-- An accepted batch is watermarked. -/
theorem Acceptance.watermarked
    (h : Acceptance runtime memory state (.semanticEvidence batch) after nowNs placement) :
    Watermarked after.evidence batch := by
  rw [Watermarked, h.watermarks, (place_ok h.placed).2.2.stored_batch.1, PyDict.get?_set_self]
  exact ⟨_, rfl, le_refl _⟩

/-- What is accepted of a watermarked source is later. -/
theorem Acceptance.later_batch {newer : SemanticEvidenceObservation p}
    (h : Acceptance runtime memory state (.semanticEvidence newer) after nowNs placement)
    (hmarked : Watermarked state.evidence batch) (hkey : sourceKey batch = sourceKey newer) :
    batch.source.resultAtNs < newer.source.resultAtNs := by
  obtain ⟨mark, hmark, hle⟩ := hmarked
  have hahead := (place_ok h.placed).2.2.stored_batch.2 mark (hkey ▸ hmark)
  omega

end Batches

section Runs

variable {runtime : WorkingRuntime} {memory : WorkingMemory} {older newer : Observation p}
  {slot : Slot}

/-- Calls from one acceptance to a later one. -/
structure Turn (p : Platform) where
  /-- The calls before. -/
  start : List (WorkingCall p)
  /-- The call that accepts the first observation. -/
  first : WorkingCall p
  between : List (WorkingCall p)
  /-- The call that accepts the second observation. -/
  last : WorkingCall p

/-- The calls before the second acceptance. -/
def Turn.until (turn : Turn p) : List (WorkingCall p) := turn.start ++ turn.first :: turn.between

/-- An observation is accepted and later, with no reset in between, another one. -/
structure Succession (runtime : WorkingRuntime) (memory : WorkingMemory) (turn : Turn p)
    (older newer : Observation p) : Prop where
  /-- The first call accepts the first observation. -/
  first : Accepts runtime memory (stateAfter runtime memory turn.start) turn.first older
  /-- There is no reset in between. -/
  unreset : .reset ∉ turn.between
  /-- The last call accepts the second observation. -/
  last : Accepts runtime memory (stateAfter runtime memory turn.until) turn.last newer

/-- The state after the first acceptance. -/
def Turn.opened (runtime : WorkingRuntime) (memory : WorkingMemory) (turn : Turn p) :
    WorkingState p :=
  stateAfter runtime memory (turn.start ++ [turn.first])

/-- The state after the second acceptance. -/
def Turn.closed (runtime : WorkingRuntime) (memory : WorkingMemory) (turn : Turn p) :
    WorkingState p :=
  stateAfter runtime memory (turn.until ++ [turn.last])

/-- The observation was current in the slot after some call from the first acceptance on. -/
def Seen (runtime : WorkingRuntime) (memory : WorkingMemory) (turn : Turn p) (slot : Slot)
    (observation : Observation p) : Prop :=
  ∃ earlier, earlier <+: turn.between ∧
    (stateAfter runtime memory (turn.start ++ turn.first :: earlier)).evidence.current slot =
      some observation

/-- What the first acceptance establishes and calls other than resets keep holds before the last. -/
theorem Succession.reaches {P : WorkingState p → Prop} {turn : Turn p}
    (h : Succession runtime memory turn older newer) (hfirst : P (turn.opened runtime memory))
    (hstep : ∀ earlier call, earlier ++ [call] <+: turn.between →
      Proceeding runtime memory (stateAfter runtime memory (turn.start ++ turn.first :: earlier))
        ((stateAfter runtime memory (turn.start ++ turn.first :: earlier)).apply
          runtime memory call) →
      P (stateAfter runtime memory (turn.start ++ turn.first :: earlier)) →
      P ((stateAfter runtime memory (turn.start ++ turn.first :: earlier)).apply
        runtime memory call)) :
    P (stateAfter runtime memory turn.until) := by
  have hprefix : ∀ earlier, earlier <+: turn.between →
      P (stateAfter runtime memory (turn.start ++ turn.first :: earlier)) := by
    intro earlier
    induction earlier using List.reverseRecOn with
    | nil =>
      intro _
      exact hfirst
    | append_singleton earlier call ih =>
      intro hearlier
      have hsplit : turn.start ++ turn.first :: (earlier ++ [call]) =
          (turn.start ++ turn.first :: earlier) ++ [call] := by
        rw [List.append_assoc, List.cons_append]
      have hcall : call ≠ .reset := by
        intro heq
        have hmem : call ∈ turn.between := hearlier.subset (by simp)
        rw [heq] at hmem
        exact h.unreset hmem
      rw [hsplit, stateAfter_concat]
      exact hstep earlier call hearlier (proceeding_apply hcall)
        (ih ((List.prefix_append _ _).trans hearlier))
  exact hprefix turn.between (List.prefix_refl _)

/-- Since the first acceptance there was evidence of the slot that is no earlier, and the last
call finds it outlived. -/
def Lapsed (runtime : WorkingRuntime) (memory : WorkingMemory) (turn : Turn p) (slot : Slot)
    (time : Nat) : Prop :=
  ∃ current, Seen runtime memory turn slot current ∧ time ≤ orderTime current ∧
    Outlived memory (turn.closed runtime memory) current

/-- The slot holds evidence that is no earlier after the first acceptance. -/
def Turn.Opens (runtime : WorkingRuntime) (memory : WorkingMemory) (turn : Turn p) (slot : Slot)
    (time : Nat) : Prop :=
  ∃ current, (turn.opened runtime memory).evidence.current slot = some current ∧
    time ≤ orderTime current

/-- What the last acceptance finds in an ordinary slot. -/
theorem Succession.finds {turn : Turn p} {time : Nat}
    (h : Succession runtime memory turn older newer) (hslot : Ordinary slot)
    (hopens : turn.Opens runtime memory slot time) :
    ∃ nowNs placement, Acceptance runtime memory (stateAfter runtime memory turn.until) newer
        (turn.closed runtime memory) nowNs placement ∧
      ((∃ current, ((stateAfter runtime memory turn.until).evidence.purge
          memory.config nowNs).current slot = some current ∧ time ≤ orderTime current) ∨
        Lapsed runtime memory turn slot time) := by
  have hkept : Kept memory (stateAfter runtime memory turn.until)
      (Seen runtime memory turn slot) slot time := by
    refine h.reaches (P := fun state => Kept memory state (Seen runtime memory turn slot) slot
      time) (Or.inl hopens) fun earlier call hearlier hproceeding hkept => ?_
    refine hkept.proceed hslot (fun current hcurrent => ?_) hproceeding
    exact ⟨earlier, (List.prefix_append _ _).trans hearlier, hcurrent⟩
  obtain ⟨nowNs, placement, haccepted⟩ := acceptance_of_accepts h.last
  rw [← stateAfter_concat] at haccepted
  refine ⟨nowNs, placement, haccepted, hkept.purge hslot (fun current hcurrent => ?_)
    haccepted.later haccepted.now⟩
  exact ⟨turn.between, List.prefix_refl _, hcurrent⟩

/-- What lapsed in a slot that is not of interpretations is earlier than what is accepted. -/
theorem Succession.lapsed_earlier {turn : Turn p} {time : Nat}
    (h : Succession runtime memory turn older newer)
    (hslot : ∀ source, slot ≠ .interpretation source) (hlapsed : Lapsed runtime memory turn slot time) :
    time < newer.observedAtNs := by
  obtain ⟨current, ⟨earlier, -, hseen⟩, htime, now, hmem, hold⟩ := hlapsed
  obtain ⟨nowNs, placement, haccepted⟩ := acceptance_of_accepts h.last
  rw [← stateAfter_concat] at haccepted
  rw [orderTime_current hslot hseen] at htime
  by_contra hnot
  refine haccepted.not_outlived ⟨now, hmem, ?_⟩
  omega

/-- What becomes current later is no earlier, unless it lapsed. -/
theorem Succession.ordered {turn : Turn p} (h : Succession runtime memory turn older newer)
    (hslot : Ordinary slot)
    (holder : (turn.opened runtime memory).evidence.current slot = some older)
    (hnewer : (turn.closed runtime memory).evidence.current slot = some newer) :
    orderTime older ≤ orderTime newer ∨ Lapsed runtime memory turn slot (orderTime older) := by
  obtain ⟨nowNs, placement, haccepted, ⟨current, hcurrent, htime⟩ | hlapsed⟩ :=
    h.finds hslot ⟨older, holder, le_refl _⟩
  · refine Or.inl ?_
    rw [haccepted.current hslot] at hnewer
    rcases (place_ok haccepted.placed).2.2.ahead hslot with hsame | ⟨-, hahead⟩
    · have heq : newer = current :=
        Option.some.inj (hnewer.symm.trans (hsame.trans hcurrent))
      rw [heq]
      exact htime
    · exact htime.trans (le_of_lt (hahead current hcurrent))
  · exact Or.inr hlapsed

/-- A placed observation that is no entity and no batch is ahead in one of its slots. -/
theorem Placed.somewhere {evidence : Evidence p} {observation : Observation p}
    {placement : Placement p} (h : Placed memory evidence observation placement)
    (hentity : ∀ entity, observation ≠ .environmentEntity entity)
    (hbatch : ∀ batch, observation ≠ .semanticEvidence batch) :
    ∃ slot, Ordinary slot ∧ Concerns observation slot ∧
      ∀ current ∈ evidence.current slot, orderTime current < orderTime observation := by
  cases h with
  | @robot o placement hrobot h =>
    obtain ⟨slot, hmem⟩ := List.exists_mem_of_ne_nil _ (placeRobot_ok h).2.1
    have hkind := (robotSlot_of_updated hmem).ordinary
    obtain ⟨hown, hahead⟩ := mem_updatedSlots.mp hmem
    refine ⟨slot, hkind.1, ?_, fun current hcurrent => ?_⟩
    · rcases hown with ⟨joint, hjoint, rfl⟩ | ⟨hpose, rfl⟩
      · exact .joint hjoint
      · exact .basePose hpose
    · rw [orderTime_current hkind.2 hcurrent]
      exact hahead current hcurrent
  | @semantic batch placement h => exact absurd rfl (hbatch batch)
  | @stored observation slot replaced hown hsemantic hchecked hahead =>
    refine ⟨slot, ?_, .own hown, fun current hcurrent => ?_⟩
    · cases observation with
      | environmentEntity entity => exact absurd rfl (hentity entity)
      | semanticEvidence batch => exact absurd rfl (hbatch batch)
      | robotState o => cases hown
      | _ =>
        rw [← Option.some.inj hown]
        trivial
    · exact compareCurrent_ahead.mp hahead _ (Option.mem_map_of_mem _ hcurrent)

/-- What is accepted again, and is no entity and no batch, lapsed. -/
theorem Succession.lapsed {turn : Turn p} (h : Succession runtime memory turn newer newer)
    (hentity : ∀ entity, newer ≠ .environmentEntity entity)
    (hbatch : ∀ batch, newer ≠ .semanticEvidence batch) :
    ∃ slot, Concerns newer slot ∧ Lapsed runtime memory turn slot (orderTime newer) := by
  obtain ⟨nowNs, placement, hlast⟩ := acceptance_of_accepts h.last
  obtain ⟨slot, hslot, hconcerns, hahead⟩ :=
    (place_ok hlast.placed).2.2.somewhere hentity hbatch
  have hopens : turn.Opens runtime memory slot (orderTime newer) := by
    obtain ⟨firstNs, opening, hfirst⟩ := acceptance_of_accepts h.first
    rw [Turn.Opens, Turn.opened, stateAfter_concat, hfirst.current hslot]
    exact (place_ok hfirst.placed).2.2.held hslot hconcerns
  obtain ⟨laterNs, closing, hclosed, ⟨current, hcurrent, htime⟩ | hlapsed⟩ := h.finds hslot hopens
  · have hsame : laterNs = nowNs := by
      have hnow := hlast.now
      rw [← stateAfter_concat] at hnow
      exact Option.some.inj (hclosed.now.symm.trans hnow)
    rw [hsame] at hcurrent
    exact absurd htime (not_le.mpr (hahead current hcurrent))
  · exact ⟨slot, hconcerns, hlapsed⟩

/-- Before the last acceptance an accepted entity is outlived or topped. -/
theorem Succession.entityKept {turn : Turn p} {entity : EnvironmentEntityObservation}
    (h : Succession runtime memory turn (.environmentEntity entity) newer) :
    EntityKept memory (stateAfter runtime memory turn.until) entity := by
  refine h.reaches (P := fun state => EntityKept memory state entity) ?_
    fun earlier call hearlier hproceeding hkept => hkept.proceed hproceeding
  obtain ⟨nowNs, placement, haccepted⟩ := acceptance_of_accepts h.first
  rw [Turn.opened, stateAfter_concat]
  exact haccepted.entityKept

/-- Before the last acceptance an accepted batch is watermarked. -/
theorem Succession.watermarked {turn : Turn p} {batch : SemanticEvidenceObservation p}
    (h : Succession runtime memory turn (.semanticEvidence batch) newer) :
    Watermarked (stateAfter runtime memory turn.until).evidence batch := by
  refine h.reaches (P := fun state => Watermarked state.evidence batch) ?_
    fun earlier call hearlier hproceeding hmarked => hmarked.proceed hproceeding
  obtain ⟨nowNs, placement, haccepted⟩ := acceptance_of_accepts h.first
  rw [Turn.opened, stateAfter_concat]
  exact haccepted.watermarked

end Runs

section Order

/-- The order of what becomes current between two resets, and of what is accepted again. -/
structure Chronology (p : Platform) (runtime : WorkingRuntime) (memory : WorkingMemory) :
    Prop where
  /-- The observed times of a joint, of the base pose, of an entity and of a sensor key that is
  not of interpretations never decrease. -/
  observed : ∀ (turn : Turn p) (older newer : Observation p) (slot : Slot),
    Succession runtime memory turn older newer →
    (turn.opened runtime memory).evidence.current slot = some older →
    (turn.closed runtime memory).evidence.current slot = some newer →
    (∀ source, slot ≠ .interpretation source) → (∀ observationId, slot ≠ .semantic observationId) →
    older.observedAtNs ≤ newer.observedAtNs
  /-- The result times of the interpretations of a sensor by a producer never decrease, unless
  one that was current and is no earlier is outlived. -/
  results : ∀ (turn : Turn p) (older newer : VisualInterpretationObservation p) (source : SourceKey),
    Succession runtime memory turn (.visualInterpretation older) (.visualInterpretation newer) →
    (turn.opened runtime memory).evidence.current (.interpretation source) =
      some (.visualInterpretation older) →
    (turn.closed runtime memory).evidence.current (.interpretation source) =
      some (.visualInterpretation newer) →
    older.resultAtNs ≤ newer.resultAtNs ∨
      Lapsed runtime memory turn (.interpretation source) older.resultAtNs
  /-- The result times of the batches of a source increase. -/
  streams : ∀ (turn : Turn p) (older newer : SemanticEvidenceObservation p),
    Succession runtime memory turn (.semanticEvidence older) (.semanticEvidence newer) →
    sourceKey older = sourceKey newer → older.source.resultAtNs < newer.source.resultAtNs
  /-- What is accepted again is an entity that is evicted at once, or an interpretation whose
  key had one that is no earlier and is outlived. -/
  once : ∀ (turn : Turn p) (observation : Observation p),
    Succession runtime memory turn observation observation →
    (∃ entity, observation = .environmentEntity entity ∧
      (turn.closed runtime memory).evidence.current (.entity entity.entity.entityId) = none) ∨
    ∃ interpretation, observation = .visualInterpretation interpretation ∧
      Lapsed runtime memory turn
        (.interpretation (interpretation.sensor.sensorId, interpretation.producer.producerId))
        interpretation.resultAtNs

variable {runtime : WorkingRuntime} {memory : WorkingMemory} {turn : Turn p}

/-- Entities that become current are not observed earlier. -/
theorem Succession.entity_ordered {older newer : Observation p} {entityId : Name}
    (h : Succession runtime memory turn older newer)
    (holder : (turn.opened runtime memory).evidence.current (.entity entityId) = some older)
    (hnewer : (turn.closed runtime memory).evidence.current (.entity entityId) = some newer) :
    older.observedAtNs ≤ newer.observedAtNs := by
  have hold := keyed_stateAfter runtime memory _ _ _ holder
  have hnew := keyed_stateAfter runtime memory _ _ _ hnewer
  obtain ⟨entity, -, rfl⟩ := Option.map_eq_some_iff.mp holder
  obtain ⟨later, hlater, rfl⟩ := Option.map_eq_some_iff.mp hnewer
  have hentity : entity.entity.entityId = entityId := by
    cases hold with
    | own hslot => exact Slot.entity.inj (Option.some.inj hslot)
  have hsame : later.entity.entityId = entityId := by
    cases hnew with
    | own hslot => exact Slot.entity.inj (Option.some.inj hslot)
  obtain ⟨nowNs, placement, haccepted⟩ := acceptance_of_accepts h.last
  rw [← stateAfter_concat] at haccepted
  rcases haccepted.later_entity h.entityKept (hsame.trans hentity.symm) with hless | hrank | hnone
  · exact le_of_lt hless
  · exact observedAt_le_of_rank (le_of_lt hrank)
  · rw [hsame] at hnone
    exact absurd (hlater.symm.trans hnone) (Option.some_ne_none _)

/-- An entity that is accepted again is evicted at once. -/
theorem Succession.entity_evicted {entity : EnvironmentEntityObservation}
    (h : Succession runtime memory turn (.environmentEntity entity) (.environmentEntity entity)) :
    (turn.closed runtime memory).evidence.current (.entity entity.entity.entityId) = none := by
  obtain ⟨nowNs, placement, haccepted⟩ := acceptance_of_accepts h.last
  rw [← stateAfter_concat] at haccepted
  rcases haccepted.later_entity h.entityKept rfl with hless | hrank | hnone
  · exact absurd hless (lt_irrefl _)
  · exact absurd hrank (lt_irrefl _)
  · rw [Evidence.current]
    exact Option.map_eq_none_iff.mpr hnone

/-- Of the observations that are no entities and no batches only interpretations are accepted
again. -/
theorem Succession.interpretation_lapsed {observation : Observation p}
    (h : Succession runtime memory turn observation observation)
    (hentity : ∀ entity, observation ≠ .environmentEntity entity)
    (hbatch : ∀ batch, observation ≠ .semanticEvidence batch) :
    ∃ interpretation, observation = .visualInterpretation interpretation ∧
      Lapsed runtime memory turn
        (.interpretation (interpretation.sensor.sensorId, interpretation.producer.producerId))
        interpretation.resultAtNs := by
  obtain ⟨slot, hconcerns, hlapsed⟩ := h.lapsed hentity hbatch
  by_cases hkind : ∃ source, slot = .interpretation source
  · obtain ⟨source, rfl⟩ := hkind
    cases hconcerns with
    | own hslot =>
      cases observation with
      | visualInterpretation interpretation =>
        have hsource := Slot.interpretation.inj (Option.some.inj hslot)
        rw [← hsource] at hlapsed
        exact ⟨interpretation, rfl, hlapsed⟩
      | robotState o => cases hslot
      | _ => cases hslot
  · have hearlier := h.lapsed_earlier (fun source heq => hkind ⟨source, heq⟩) hlapsed
    have horder : orderTime observation = observation.observedAtNs := by
      cases observation with
      | visualInterpretation interpretation =>
        cases hconcerns with
        | own hslot => exact absurd ⟨_, (Option.some.inj hslot).symm⟩ hkind
      | _ => rfl
    rw [horder] at hearlier
    exact absurd hearlier (lt_irrefl _)

variable (p) in
/-- The evidence becomes current in the order of its times. -/
theorem chronology (runtime : WorkingRuntime) (memory : WorkingMemory) :
    Chronology p runtime memory where
  observed := by
    intro turn older newer slot h holder hnewer hinterpretation hsemantic
    have hkind : (∃ entityId, slot = .entity entityId) ∨ Ordinary slot := by
      cases slot with
      | entity entityId => exact Or.inl ⟨entityId, rfl⟩
      | semantic observationId => exact absurd rfl (hsemantic observationId)
      | _ => exact Or.inr trivial
    rcases hkind with ⟨entityId, rfl⟩ | hordinary
    · exact h.entity_ordered holder hnewer
    · rcases h.ordered hordinary holder hnewer with hordered | hlapsed
      · rwa [orderTime_current hinterpretation holder,
          orderTime_current hinterpretation hnewer] at hordered
      · rw [orderTime_current hinterpretation holder] at hlapsed
        exact le_of_lt (h.lapsed_earlier hinterpretation hlapsed)
  results := by
    intro turn older newer source h holder hnewer
    have hordinary : Ordinary (.interpretation source) := trivial
    exact h.ordered hordinary holder hnewer
  streams := by
    intro turn older newer h hkey
    obtain ⟨nowNs, placement, haccepted⟩ := acceptance_of_accepts h.last
    exact haccepted.later_batch h.watermarked hkey
  once := by
    intro turn observation h
    cases observation with
    | environmentEntity entity => exact Or.inl ⟨entity, rfl, h.entity_evicted⟩
    | semanticEvidence batch =>
      obtain ⟨nowNs, placement, haccepted⟩ := acceptance_of_accepts h.last
      exact absurd (haccepted.later_batch h.watermarked rfl) (lt_irrefl _)
    | _ =>
      refine Or.inr (h.interpretation_lapsed ?_ ?_)
      · intro entity heq
        cases heq
      · intro batch heq
        cases heq

end Order

section Returns

/-- A memory with room for three recent observations. -/
def roomyMemory : WorkingMemory where
  catalog := tightMemory.catalog
  config := { tightConfig with
    recentEvidenceCapacity := 3
    recent_capacity := by decide }
  robot_eq := rfl

/-- When a frame is observed. -/
def sightTime (later : Bool) : Nat := if later then 200 else 100

/-- When its interpretation comes: that of the later frame comes first. -/
def sightResult (later : Bool) : Nat := if later then 210 else 220

/-- The times are in order. -/
theorem sightTimes_bounded (later : Bool) :
    1 ≤ sightTime later ∧ sightTime later ≤ sightResult later ∧
      sightResult later ≤ maxObservationTimeNs := by
  cases later <;> decide

/-- One of two frames. -/
def sightFrame (later : Bool) : VisualFrameObservation := { frame with
  observedAtNs := sightTime later
  bounded := ⟨(sightTimes_bounded later).1,
    (sightTimes_bounded later).2.1.trans (sightTimes_bounded later).2.2⟩ }

/-- What the first producer sees in a frame. -/
def sight (p : Platform) (later : Bool) : VisualInterpretationObservation p :=
  { interpretation p false with
    sourceVisualObservationId := (sightFrame later).observationId p
    sourceVisualFingerprint := (sightFrame later).fingerprint p
    observedAtNs := sightTime later
    resultAtNs := sightResult later
    detections := []
    source_kind := rfl
    source_eq := rfl
    bounded := (sightTimes_bounded later).2
    few := Nat.zero_le _
    ordered := List.Pairwise.nil
    sourced := List.forall_mem_nil _ }

/-- Health after both frames. -/
def healthAt (k : Fin 3) : SensorHealthObservation := { cameraHealth with
  observedAtNs := 201 + k.val
  bounded := (Nat.add_le_add_left k.isLt.le 201).trans (by decide) }

/-- One of two cups. -/
def cupName (other : Bool) : Name :=
  if other then ⟨py "second", by decide⟩ else ⟨py "first", by decide⟩

/-- When a cup is observed. -/
def cupTime (other : Bool) : Nat := if other then 150 else 100

/-- The times are valid. -/
theorem cupTime_bounded (other : Bool) : cupTime other ≤ maxObservationTimeNs := by
  cases other <;> decide

/-- What is known of the cups. -/
def cupProperties : List (PyStr × Json) := [(py "state", .str (py "seen"))]

/-- The values in them. -/
theorem cupProperties_visits : Json.visits 0 (.obj cupProperties) =
    [(.obj cupProperties, 0), (.str (py "seen"), 1)] := rfl

/-- They are within the limits. -/
theorem cupProperties_within : WithinLimits .ingress (.obj cupProperties) where
  nodes := by decide
  depth := by
    rw [Json.FitsDepth, cupProperties_visits]
    decide
  characters := by decide
  own := by
    rw [cupProperties_visits]
    simp only [List.forall_mem_cons]
    exact ⟨⟨by decide, by decide⟩, ⟨by decide, by decide⟩, List.forall_mem_nil _⟩

/-- A cup as an entity. -/
def cupAt (other : Bool) : EnvironmentEntityObservation where
  robotId := ayyoRobotId
  entity := ⟨cupName other, .object⟩
  pose := none
  properties := cupProperties
  observedAtNs := cupTime other
  provenance := testSource
  confidence := ⟨highEdge, by decide, by decide⟩
  within := cupProperties_within
  evident := Or.inl (List.cons_ne_nil _ _)
  bounded := cupTime_bounded other

/-- The status of an ingestion. -/
def statusOf {p : Platform} (memory : WorkingMemory) (state : WorkingState p)
    (observation : Observation p) (nowNs : Int) : Option IngestionStatus :=
  match state.ingest plainRuntime memory observation nowNs 0 with
  | .ok (result, _) => some result.status
  | .error _ => none

/-- A call with the status of an acceptance accepts. -/
theorem accepts_of_status {p : Platform} {memory : WorkingMemory} {state : WorkingState p}
    {observation : Observation p} {nowNs : Int}
    (hstatus : statusOf memory state observation nowNs = some .accepted)
    (hrebuilt : rebuildObservation plainRuntime.normalize observation = .ok observation) :
    Accepts plainRuntime memory state (.ingest observation nowNs 0) observation := by
  rw [statusOf] at hstatus
  cases hingest : state.ingest plainRuntime memory observation nowNs 0 with
  | error fault =>
    rw [hingest] at hstatus
    cases hstatus
  | ok outcome =>
    rw [hingest] at hstatus
    exact ⟨observation, nowNs, 0, outcome.1, outcome.2, rfl, hingest, Option.some.inj hstatus,
      hrebuilt⟩

/-- One cup is seen, the other one later, and the first one comes again. -/
def cupTurn : Turn .checksummed where
  start := []
  first := .ingest (.environmentEntity (cupAt false)) 220 0
  between := [.ingest (.environmentEntity (cupAt true)) 220 0]
  last := .ingest (.environmentEntity (cupAt false)) 220 0

/-- The interpretation of the later frame is followed by that of the earlier one. -/
def sightTurn : Turn .checksummed where
  start := [.ingest (.visualFrame (sightFrame false)) 220 0,
    .ingest (.visualFrame (sightFrame true)) 220 0]
  first := .ingest (.visualInterpretation (sight _ true)) 220 0
  between := []
  last := .ingest (.visualInterpretation (sight _ false)) 220 0

/-- Then health pushes it out of the recent evidence, and it comes again when the other one is
outlived. -/
def returnTurn : Turn .checksummed where
  start := sightTurn.start
  first := sightTurn.first
  between := sightTurn.last :: (List.finRange 3).map fun k => .ingest (.sensorHealth (healthAt k)) 220 0
  last := .ingest (.visualInterpretation (sight _ true)) 1101 0

/-- The slot of the interpretations. -/
def sightSlot : Slot := .interpretation (camera.sensorId, (producer false).producerId)

set_option maxRecDepth 20000 in
/-- An entity is accepted twice; an interpretation of an earlier frame becomes current after that
of a later one; and that one is accepted again and becomes current after one with a later result. -/
theorem accepted_again :
    Succession plainRuntime tightMemory cupTurn (.environmentEntity (cupAt false))
        (.environmentEntity (cupAt false)) ∧
      (Succession plainRuntime roomyMemory sightTurn (.visualInterpretation (sight _ true))
          (.visualInterpretation (sight _ false)) ∧
        (sightTurn.opened plainRuntime roomyMemory).evidence.current sightSlot =
          some (.visualInterpretation (sight _ true)) ∧
        (sightTurn.closed plainRuntime roomyMemory).evidence.current sightSlot =
          some (.visualInterpretation (sight _ false)) ∧
        (sight .checksummed false).observedAtNs < (sight .checksummed true).observedAtNs) ∧
      Succession plainRuntime roomyMemory returnTurn (.visualInterpretation (sight _ true))
          (.visualInterpretation (sight _ true)) ∧
        (returnTurn.closed plainRuntime roomyMemory).evidence.current sightSlot =
          some (.visualInterpretation (sight _ true)) ∧
        (sight .checksummed true).resultAtNs < (sight .checksummed false).resultAtNs := by
  have hcup : Succession plainRuntime tightMemory cupTurn (.environmentEntity (cupAt false))
      (.environmentEntity (cupAt false)) := by
    refine ⟨accepts_of_status ?_ rfl, ?_, accepts_of_status ?_ rfl⟩
    · decide
    · simp [cupTurn]
    · decide
  have hsight : Succession plainRuntime roomyMemory sightTurn (.visualInterpretation (sight _ true))
      (.visualInterpretation (sight _ false)) := by
    refine ⟨accepts_of_status ?_ rfl, ?_, accepts_of_status ?_ rfl⟩
    · decide
    · simp [sightTurn]
    · decide
  have hreturn : Succession plainRuntime roomyMemory returnTurn
      (.visualInterpretation (sight _ true)) (.visualInterpretation (sight _ true)) := by
    refine ⟨hsight.first, ?_, accepts_of_status ?_ rfl⟩
    · simp [returnTurn, sightTurn]
    · decide
  refine ⟨hcup, ⟨hsight, ?_, ?_, by decide⟩, hreturn, ?_, by decide⟩
  · decide
  · decide
  · decide

end Returns

end Working
end AyyoHumanoid
