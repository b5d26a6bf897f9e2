import AyyoHumanoid.WorkingPlacement

/-!
# The sources of retained semantic batches

A batch enters with a frame and an interpretation that are retained and agree
with it. No other retained frame or interpretation can take over their
identities while they are retained, and a batch whose frame or interpretation is
gone is dropped at once.
-/

namespace AyyoHumanoid
namespace Working

open PyText JsonText PyCollections World

variable {p : Platform}

section Closure

/-- Every batch has its frame and its interpretation, and there are not too many batches. -/
structure ProvenanceClosed (config : WorkingMemoryConfig) (evidence : Evidence p) : Prop where
  /-- The capacity is kept. -/
  sized : evidence.semanticEvidence.size ≤ config.semanticEvidenceCapacity
  /-- A retained frame has the identity and the metadata that the batch names. -/
  framed : ∀ observationId batch, evidence.semanticEvidence.get? observationId = some batch →
    ∃ frame ∈ evidence.frames,
      frame.observationId p = batch.source.sourceVisualObservationId ∧
      RepeatsFrame p batch.source frame
  /-- A retained interpretation has the identity and the metadata that the batch names. -/
  interpreted : ∀ observationId batch, evidence.semanticEvidence.get? observationId = some batch →
    ∃ interpretation ∈ evidence.interpretations,
      interpretation.observationId = batch.source.sourceInterpretationObservationId ∧
      RepeatsInterpretation batch.source interpretation

/-- Retained sources with one identity are the same, and batches agree with all of theirs. -/
structure SourcesAgree (evidence : Evidence p) : Prop where
  /-- A retained frame is determined by its identity. -/
  frames : ∀ frame ∈ evidence.frames, ∀ other ∈ evidence.frames,
    frame.observationId p = other.observationId p → frame = other
  /-- A retained interpretation is determined by its identity. -/
  interpretations : ∀ interpretation ∈ evidence.interpretations,
    ∀ other ∈ evidence.interpretations,
    interpretation.observationId = other.observationId → interpretation = other
  /-- A batch agrees with a retained frame that it names. -/
  framed : ∀ observationId batch, evidence.semanticEvidence.get? observationId = some batch →
    ∀ frame ∈ evidence.frames,
      frame.observationId p = batch.source.sourceVisualObservationId →
        RepeatsFrame p batch.source frame
  /-- A batch agrees with a retained interpretation that it names. -/
  interpreted : ∀ observationId batch, evidence.semanticEvidence.get? observationId = some batch →
    ∀ interpretation ∈ evidence.interpretations,
      interpretation.observationId = batch.source.sourceInterpretationObservationId →
        RepeatsInterpretation batch.source interpretation
  /-- The sources of a batch are retained. -/
  sourced : ∀ observationId batch, evidence.semanticEvidence.get? observationId = some batch →
    evidence.Sourced batch

variable {evidence after : Evidence p} {batch : SemanticEvidenceObservation p}

/-- A retained source frame is one of the retained frames. -/
theorem mem_keys_retainedVisualSources {observationId : ObservationId} :
    observationId ∈ evidence.retainedVisualSources.keys ↔
      ∃ frame ∈ evidence.frames, frame.observationId p = observationId := by
  rw [Evidence.retainedVisualSources, PyDict.mem_keys_ofPairs]
  simp only [List.mem_map, Prod.mk.injEq]
  constructor
  · rintro ⟨found, frame, hframe, hid, -⟩
    exact ⟨frame, hframe, hid⟩
  · rintro ⟨frame, hframe, hid⟩
    exact ⟨frame, frame, hframe, hid, rfl⟩

/-- A retained source interpretation is one of the retained interpretations. -/
theorem mem_keys_retainedVisualInterpretations {observationId : ObservationId} :
    observationId ∈ evidence.retainedVisualInterpretations.keys ↔
      ∃ interpretation ∈ evidence.interpretations,
        interpretation.observationId = observationId := by
  rw [Evidence.retainedVisualInterpretations, PyDict.mem_keys_ofPairs]
  simp only [List.mem_map, Prod.mk.injEq]
  constructor
  · rintro ⟨found, interpretation, hmem, hid, -⟩
    exact ⟨interpretation, hmem, hid⟩
  · rintro ⟨interpretation, hmem, hid⟩
    exact ⟨interpretation, interpretation, hmem, hid, rfl⟩

/-- A frame that is looked up is retained and has the identity. -/
theorem frame_of_get? {observationId : ObservationId} {frame : VisualFrameObservation}
    (h : evidence.retainedVisualSources.get? observationId = some frame) :
    frame ∈ evidence.frames ∧ frame.observationId p = observationId := by
  have hmem := PyDict.mem_of_get?_ofPairs h
  rw [List.mem_map] at hmem
  obtain ⟨found, hfound, heq⟩ := hmem
  rw [Prod.mk.injEq] at heq
  obtain ⟨hid, rfl⟩ := heq
  exact ⟨hfound, hid⟩

/-- An interpretation that is looked up is retained and has the identity. -/
theorem interpretation_of_get? {observationId : ObservationId}
    {interpretation : VisualInterpretationObservation p}
    (h : evidence.retainedVisualInterpretations.get? observationId = some interpretation) :
    interpretation ∈ evidence.interpretations ∧
      interpretation.observationId = observationId := by
  have hmem := PyDict.mem_of_get?_ofPairs h
  rw [List.mem_map] at hmem
  obtain ⟨found, hfound, heq⟩ := hmem
  rw [Prod.mk.injEq] at heq
  obtain ⟨hid, rfl⟩ := heq
  exact ⟨hfound, hid⟩

/-- Agreeing sources close the provenance of batches within the capacity. -/
theorem SourcesAgree.closed {config : WorkingMemoryConfig} (h : SourcesAgree evidence)
    (hsized : evidence.semanticEvidence.size ≤ config.semanticEvidenceCapacity) :
    ProvenanceClosed config evidence where
  sized := hsized
  framed := by
    intro observationId batch hbatch
    obtain ⟨frame, hframe, hid⟩ :=
      mem_keys_retainedVisualSources.mp (h.sourced observationId batch hbatch).1
    exact ⟨frame, hframe, hid, h.framed observationId batch hbatch frame hframe hid⟩
  interpreted := by
    intro observationId batch hbatch
    obtain ⟨interpretation, hmem, hid⟩ :=
      mem_keys_retainedVisualInterpretations.mp (h.sourced observationId batch hbatch).2
    exact ⟨interpretation, hmem, hid,
      h.interpreted observationId batch hbatch interpretation hmem hid⟩

end Closure

section Steps

variable {runtime : WorkingRuntime} {memory : WorkingMemory} {evidence fewer : Evidence p}
  {observation : Observation p} {placement : Placement p} {envelope : EvidenceEnvelope p}
  {nowNs : Nat}

/-- The sources that are left agree, once the orphans are dropped. -/
theorem SourcesAgree.dropOrphans (h : SourcesAgree evidence)
    (hframes : ∀ frame ∈ fewer.frames, frame ∈ evidence.frames)
    (hinterpretations : ∀ interpretation ∈ fewer.interpretations,
      interpretation ∈ evidence.interpretations)
    (hbatches : ∀ observationId batch, fewer.semanticEvidence.get? observationId = some batch →
      evidence.semanticEvidence.get? observationId = some batch) :
    SourcesAgree fewer.dropOrphans where
  frames := fun frame hframe other hother =>
    h.frames frame (hframes frame hframe) other (hframes other hother)
  interpretations := fun interpretation hmem other hother =>
    h.interpretations interpretation (hinterpretations interpretation hmem) other
      (hinterpretations other hother)
  framed := by
    intro observationId batch hbatch frame hframe
    have hbefore := hbatches observationId batch (get?_dropOrphans.mp hbatch).1
    exact h.framed observationId batch hbefore frame (hframes frame hframe)
  interpreted := by
    intro observationId batch hbatch interpretation hmem
    have hbefore := hbatches observationId batch (get?_dropOrphans.mp hbatch).1
    exact h.interpreted observationId batch hbefore interpretation
      (hinterpretations interpretation hmem)
  sourced := fun _ _ hbatch => (get?_dropOrphans.mp hbatch).2

/-- Expiry keeps the sources in agreement. -/
theorem SourcesAgree.purge {config : WorkingMemoryConfig} (h : SourcesAgree evidence)
    (nowNs : Nat) : SourcesAgree (evidence.purge config nowNs) := by
  refine h.dropOrphans ?_ ?_ ?_
  · intro frame hframe
    rcases mem_frames.mp hframe with ⟨sensorId, hcurrent⟩ | ⟨item, hitem, hobservation⟩
    · exact mem_frames.mpr (Or.inl ⟨sensorId, (current_keepFrom.mp hcurrent).1⟩)
    · exact mem_frames.mpr (Or.inr ⟨item, (List.mem_filter.mp hitem).1, hobservation⟩)
  · intro interpretation hmem
    rcases mem_interpretations.mp hmem with ⟨source, hcurrent⟩ | ⟨item, hitem, hobservation⟩
    · exact mem_interpretations.mpr (Or.inl ⟨source, (current_keepFrom.mp hcurrent).1⟩)
    · exact mem_interpretations.mpr (Or.inr ⟨item, (List.mem_filter.mp hitem).1, hobservation⟩)
  · intro observationId batch hbatch
    exact (PyDict.get?_keep_eq_some.mp hbatch).1

/-- A retained frame is known. -/
theorem known_of_frame {frame : VisualFrameObservation} (h : frame ∈ evidence.frames) :
    frame.observationId p ∈ evidence.knownIds := by
  rw [Evidence.frames, List.mem_append, recentFrames, List.mem_filterMap] at h
  rw [Evidence.knownIds, List.mem_append]
  rcases h with hvalue | ⟨item, hitem, hframe⟩
  · have hmapped := List.mem_map_of_mem
      (f := fun o : VisualFrameObservation => (o.fingerprint p).observationId) hvalue
    exact Or.inl (by simp only [Evidence.currentObservationIds, List.mem_append]; tauto)
  · refine Or.inr (List.mem_map.mpr ⟨item, hitem, ?_⟩)
    split at hframe
    · next o ho =>
      rw [ho, ← Option.some.inj hframe]
      rfl
    · cases hframe

/-- A retained interpretation is known. -/
theorem known_of_interpretation {interpretation : VisualInterpretationObservation p}
    (h : interpretation ∈ evidence.interpretations) :
    interpretation.observationId ∈ evidence.knownIds := by
  rw [Evidence.interpretations, List.mem_append, recentInterpretations, List.mem_filterMap] at h
  rw [Evidence.knownIds, List.mem_append]
  rcases h with hvalue | ⟨item, hitem, hinterpretation⟩
  · have hmapped := List.mem_map_of_mem
      (f := fun o : VisualInterpretationObservation p => o.fingerprint.observationId) hvalue
    exact Or.inl (by simp only [Evidence.currentObservationIds, List.mem_append]; tauto)
  · refine Or.inr (List.mem_map.mpr ⟨item, hitem, ?_⟩)
    split at hinterpretation
    · next o ho =>
      rw [ho, ← Option.some.inj hinterpretation]
      rfl
    · cases hinterpretation

/-- The evidence after an acceptance, before orphans are dropped. -/
theorem frames_of_placed (h : Placed memory evidence observation placement)
    (hrebuilt : rebuildObservation runtime.normalize observation = .ok envelope.observation)
    {frame : VisualFrameObservation}
    (hframe : frame ∈ (placement.evidence.bound memory.config envelope).frames) :
    frame ∈ evidence.frames ∨ observation = .visualFrame frame := by
  rcases mem_frames.mp hframe with ⟨sensorId, hcurrent⟩ | ⟨item, hitem, hobservation⟩
  · rcases h.current (current_of_bound hcurrent) with hbefore | hnew
    · exact Or.inl (mem_frames.mpr (Or.inl ⟨sensorId, hbefore⟩))
    · exact Or.inr hnew.symm
  · rcases mem_remember hitem with hbefore | rfl
    · rw [h.recent] at hbefore
      exact Or.inl (mem_frames.mpr (Or.inr ⟨item, hbefore, hobservation⟩))
    · rw [hobservation] at hrebuilt
      have hsame := rebuildObservation_eq hrebuilt fun imu himu => nomatch himu
      exact Or.inr hsame.symm

/-- The interpretations after an acceptance, before orphans are dropped. -/
theorem interpretations_of_placed (h : Placed memory evidence observation placement)
    (hrebuilt : rebuildObservation runtime.normalize observation = .ok envelope.observation)
    {interpretation : VisualInterpretationObservation p}
    (hmem : interpretation ∈ (placement.evidence.bound memory.config envelope).interpretations) :
    interpretation ∈ evidence.interpretations ∨
      observation = .visualInterpretation interpretation := by
  rcases mem_interpretations.mp hmem with ⟨source, hcurrent⟩ | ⟨item, hitem, hobservation⟩
  · rcases h.current (current_of_bound hcurrent) with hbefore | hnew
    · exact Or.inl (mem_interpretations.mpr (Or.inl ⟨source, hbefore⟩))
    · exact Or.inr hnew.symm
  · rcases mem_remember hitem with hbefore | rfl
    · rw [h.recent] at hbefore
      exact Or.inl (mem_interpretations.mpr (Or.inr ⟨item, hbefore, hobservation⟩))
    · rw [hobservation] at hrebuilt
      have hsame := rebuildObservation_eq hrebuilt fun imu himu => nomatch himu
      exact Or.inr hsame.symm

/-- The batches after an acceptance are old, or one that passed the checks. -/
theorem batches_of_placed (h : Placed memory evidence observation placement)
    {observationId : ObservationId} {batch : SemanticEvidenceObservation p}
    (hbatch : placement.evidence.semanticEvidence.get? observationId = some batch) :
    evidence.semanticEvidence.get? observationId = some batch ∨
      (observation = .semanticEvidence batch ∧
        checkSemantic memory.config evidence batch = .ok ()) := by
  have hcurrent : placement.evidence.current (.semantic observationId) =
      some (.semanticEvidence batch) := Option.map_eq_some_iff.mpr ⟨batch, hbatch, rfl⟩
  rcases h.current hcurrent with hbefore | hnew
  · obtain ⟨o, ho, heq⟩ := Option.map_eq_some_iff.mp hbefore
    cases heq
    exact Or.inl ho
  · subst hnew
    cases h with
    | semantic h => exact Or.inr ⟨rfl, (placeSemantic_ok h).1⟩
    | stored hslot hsemantic hchecked hahead => exact absurd rfl (hsemantic batch)

/-- What the checks of a batch find. -/
theorem sources_of_checkSemantic {config : WorkingMemoryConfig}
    {batch : SemanticEvidenceObservation p} (h : checkSemantic config evidence batch = .ok ()) :
    (∃ frame ∈ evidence.frames,
      frame.observationId p = batch.source.sourceVisualObservationId ∧
        RepeatsFrame p batch.source frame) ∧
    ∃ interpretation ∈ evidence.interpretations,
      interpretation.observationId = batch.source.sourceInterpretationObservationId ∧
        RepeatsInterpretation batch.source interpretation := by
  rw [checkSemantic, Checks.unit_bind_ok] at h
  obtain ⟨-, h⟩ := h
  split at h
  · cases h
  · next interpretation hinterpretation =>
    simp only [Checks.unit_bind_ok, Checks.require_ok] at h
    obtain ⟨hrepeats, ⟨frame, hfound, hframe⟩, -⟩ := h
    obtain ⟨hretained, hid⟩ := frame_of_get? hfound
    obtain ⟨hkept, hidentity⟩ := interpretation_of_get? hinterpretation
    exact ⟨⟨frame, hretained, hid, hframe⟩, interpretation, hkept, hidentity, hrepeats⟩

/-- An accepted observation keeps the sources in agreement. -/
theorem SourcesAgree.placed (h : SourcesAgree evidence)
    (hplace : place runtime memory evidence observation nowNs = .ok placement)
    (hrebuilt : rebuildObservation runtime.normalize observation = .ok envelope.observation) :
    SourcesAgree (placement.evidence.bound memory.config envelope).dropOrphans := by
  obtain ⟨-, hnew, hplaced⟩ := place_ok hplace
  -- a new source has an identity that no retained one has
  have hfresh : ∀ frame, observation = .visualFrame frame → ∀ other ∈ evidence.frames,
      other.observationId p ≠ frame.observationId p := by
    rintro frame rfl other hother heq
    have hknown := known_of_frame hother
    rw [heq] at hknown
    exact hnew hknown
  have hunseen : ∀ interpretation, observation = .visualInterpretation interpretation →
      ∀ other ∈ evidence.interpretations,
        other.observationId ≠ interpretation.observationId := by
    rintro interpretation rfl other hother heq
    have hknown := known_of_interpretation hother
    rw [heq] at hknown
    exact hnew hknown
  have hbatchBefore : ∀ observationId batch,
      (placement.evidence.bound memory.config envelope).dropOrphans.semanticEvidence.get?
        observationId = some batch → evidence.semanticEvidence.get? observationId = some batch ∨
      (observation = .semanticEvidence batch ∧
        checkSemantic memory.config evidence batch = .ok ()) := by
    intro observationId batch hbatch
    exact batches_of_placed hplaced (PyDict.get?_dropAll.mp (get?_dropOrphans.mp hbatch).1).1
  constructor
  · intro frame hframe other hother heq
    rcases frames_of_placed hplaced hrebuilt hframe with hold | hthis
    · rcases frames_of_placed hplaced hrebuilt hother with holdOther | hthisOther
      · exact h.frames frame hold other holdOther heq
      · exact absurd heq (hfresh other hthisOther frame hold)
    · rcases frames_of_placed hplaced hrebuilt hother with holdOther | hthisOther
      · exact absurd heq.symm (hfresh frame hthis other holdOther)
      · have hsame := hthis.symm.trans hthisOther
        cases hsame
        rfl
  · intro interpretation hmem other hother heq
    rcases interpretations_of_placed hplaced hrebuilt hmem with hold | hthis
    · rcases interpretations_of_placed hplaced hrebuilt hother with holdOther | hthisOther
      · exact h.interpretations interpretation hold other holdOther heq
      · exact absurd heq (hunseen other hthisOther interpretation hold)
    · rcases interpretations_of_placed hplaced hrebuilt hother with holdOther | hthisOther
      · exact absurd heq.symm (hunseen interpretation hthis other holdOther)
      · have hsame := hthis.symm.trans hthisOther
        cases hsame
        rfl
  · intro observationId batch hbatch frame hframe hid
    rcases hbatchBefore observationId batch hbatch with hold | ⟨hthis, hchecked⟩
    · rcases frames_of_placed hplaced hrebuilt hframe with holdFrame | hthisFrame
      · exact h.framed observationId batch hold frame holdFrame hid
      · obtain ⟨other, hother, hotherId⟩ :=
          mem_keys_retainedVisualSources.mp (h.sourced observationId batch hold).1
        exact absurd (hotherId.trans hid.symm) (hfresh frame hthisFrame other hother)
    · obtain ⟨⟨other, hother, hotherId, hrepeats⟩, -⟩ := sources_of_checkSemantic hchecked
      rcases frames_of_placed hplaced hrebuilt hframe with holdFrame | hthisFrame
      · rw [h.frames frame holdFrame other hother (hid.trans hotherId.symm)]
        exact hrepeats
      · cases hthis.symm.trans hthisFrame
  · intro observationId batch hbatch interpretation hmem hid
    rcases hbatchBefore observationId batch hbatch with hold | ⟨hthis, hchecked⟩
    · rcases interpretations_of_placed hplaced hrebuilt hmem with holdMem | hthisMem
      · exact h.interpreted observationId batch hold interpretation holdMem hid
      · obtain ⟨other, hother, hotherId⟩ :=
          mem_keys_retainedVisualInterpretations.mp (h.sourced observationId batch hold).2
        exact absurd (hotherId.trans hid.symm) (hunseen interpretation hthisMem other hother)
    · obtain ⟨-, other, hother, hotherId, hrepeats⟩ := sources_of_checkSemantic hchecked
      rcases interpretations_of_placed hplaced hrebuilt hmem with holdMem | hthisMem
      · rw [h.interpretations interpretation holdMem other hother (hid.trans hotherId.symm)]
        exact hrepeats
      · cases hthis.symm.trans hthisMem
  · intro observationId batch hbatch
    exact (get?_dropOrphans.mp hbatch).2

/-- A new memory has no sources. -/
theorem sourcesAgree_empty : SourcesAgree (.empty : Evidence p) := by
  have hbatch : ∀ observationId (batch : SemanticEvidenceObservation p),
      (Evidence.empty : Evidence p).semanticEvidence.get? observationId ≠ some batch := by
    intro observationId batch h
    cases h
  constructor
  · exact fun frame h => absurd h List.not_mem_nil
  · exact fun interpretation h => absurd h List.not_mem_nil
  · exact fun observationId batch h => absurd h (hbatch observationId batch)
  · exact fun observationId batch h => absurd h (hbatch observationId batch)
  · exact fun observationId batch h => absurd h (hbatch observationId batch)

/-- Every effect keeps the sources in agreement. -/
theorem SourcesAgree.effect {before after : Evidence p} (heffect : Effect runtime memory before after)
    (h : SourcesAgree before) : SourcesAgree after := by
  cases heffect with
  | unchanged => exact h
  | reset => exact sourcesAgree_empty
  | purged nowNs => exact h.purge nowNs
  | placed nowNs hplace hrebuilt => exact (h.purge nowNs).placed hplace hrebuilt

/-- Dropping orphans does not add batches. -/
theorem size_dropOrphans (evidence : Evidence p) :
    evidence.dropOrphans.semanticEvidence.size ≤ evidence.semanticEvidence.size :=
  PyDict.size_keep_le _ _

/-- Every effect keeps the number of batches within the capacity. -/
theorem sized_effect {before after : Evidence p} (heffect : Effect runtime memory before after)
    (h : before.semanticEvidence.size ≤ memory.config.semanticEvidenceCapacity) :
    after.semanticEvidence.size ≤ memory.config.semanticEvidenceCapacity := by
  cases heffect with
  | unchanged => exact h
  | reset => exact Nat.zero_le _
  | purged nowNs => exact (size_dropOrphans _).trans ((PyDict.size_keep_le _ _).trans h)
  | @placed nowNs _ envelope placement hplace hrebuilt =>
    refine (size_dropOrphans _).trans ?_
    have hsize := PyDict.size_keepGreatest semanticRank memory.config.semanticEvidenceCapacity
      placement.evidence.semanticEvidence
    rw [Evidence.bound, hsize]
    exact min_le_right _ _

end Steps

/-- After every run the retained batches have their sources and stay within the capacity. -/
theorem provenanceClosed_stateAfter (runtime : WorkingRuntime) (memory : WorkingMemory)
    (calls : List (WorkingCall p)) :
    ProvenanceClosed memory.config (stateAfter runtime memory calls).evidence := by
  have hagree : SourcesAgree (stateAfter runtime memory calls).evidence :=
    evidence_invariant sourcesAgree_empty
      (fun _ _ heffect h => SourcesAgree.effect heffect h) calls
  have hsized : (stateAfter runtime memory calls).evidence.semanticEvidence.size ≤
      memory.config.semanticEvidenceCapacity :=
    evidence_invariant (P := fun evidence => evidence.semanticEvidence.size ≤
      memory.config.semanticEvidenceCapacity) (Nat.zero_le _)
      (fun _ _ heffect h => sized_effect heffect h) calls
  exact hagree.closed hsized

end Working
end AyyoHumanoid
