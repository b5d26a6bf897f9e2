import AyyoHumanoid.OneUse
import AyyoHumanoid.PerceptionEviction

/-!
# Sealed evidence is admitted once for each authorization

Frames and health facts of physical cameras, depth cameras and microphones,
evaluated interpretations and fused pairs need an authorization that carries
exactly them. Authorizations are tokens: a call that authorizes issues them, an
admission uses one, and the boundary holds those that were not used or dropped.
-/

namespace AyyoHumanoid
namespace Perception

open PyText JsonText World Rgbd

/-- The kinds of authorizations. -/
inductive Seal where
  | physicalCamera | depthCamera | audio | evaluatedVisual | rgbdFusion
  deriving DecidableEq, Repr

variable {p : Platform}

/-- The seal that an observation needs. -/
def sealOf : Observation p → Option Seal
  | .visualFrame o =>
    if o.sensor.kind = .rgbCamera ∧ o.provenance.sourceKind = .physicalSensor then
      some .physicalCamera else none
  | .depthFrame o => if o.sensor.kind = .depthCamera then some .depthCamera else none
  | .audioFrame o => if o.sensor.kind = .microphone then some .audio else none
  | .sensorHealth o =>
    if o.sensor.kind = .rgbCamera ∧ o.provenance.sourceKind = .physicalSensor then
      some .physicalCamera
    else if o.sensor.kind = .depthCamera then some .depthCamera
    else if o.sensor.kind = .microphone then some .audio
    else none
  | .visualInterpretation o => if o.evaluationReference ≠ none then some .evaluatedVisual else none
  | .fusedRgbd _ => some .rgbdFusion
  | _ => none

/-- The authorization of a kind under an identity. -/
def TrustBoundary.authorization (s : TrustBoundary p) :
    Seal → ObservationId → Option (Observation p)
  | .physicalCamera, id => s.physicalCameraAuthorizations.get? id
  | .depthCamera, id => s.depthCameraAuthorizations.get? id
  | .audio, id => s.audioAuthorizations.get? id
  | .evaluatedVisual, id =>
    (s.evaluatedVisualAuthorizations.get? id).map .visualInterpretation
  | .rgbdFusion, id => (s.rgbdFusionAuthorizations.get? id).map .fusedRgbd

/-- The boundary holds an authorization of an observation. -/
def Held (s : TrustBoundary p) (o : Observation p) : Prop :=
  ∃ kind, sealOf o = some kind ∧ s.authorization kind o.observationId = some o

section Steps

/-- The observations that a call authorized. -/
def BoundaryStep.granted (step : BoundaryStep p) : List (Observation p) :=
  match step.call, step.reply with
  | .authorizePhysicalCamera admission, .authorized true =>
    [.visualFrame admission.frame, .sensorHealth admission.health]
  | .authorizeDepthCamera admission, .authorized true =>
    [.depthFrame admission.frame, .sensorHealth admission.health]
  | .authorizeAudio admission, .authorized true =>
    [.audioFrame admission.frame, .sensorHealth admission.health]
  | .authorizeEvaluatedVisual admission, .authorized true =>
    [.visualInterpretation admission.observation]
  | .authorizeRgbdFusion admission, .authorized true => [.fusedRgbd admission.observation]
  | _, _ => []

/-- A call authorized an observation. -/
def Issues (step : BoundaryStep p) (o : Observation p) : Prop := o ∈ step.granted

/-- A call accepted a sealed observation. -/
def Uses (step : BoundaryStep p) (o : Observation p) : Prop :=
  step.accepted? = some (.observation o) ∧ sealOf o ≠ none

end Steps

section Shrinking

/-- Authorizations only go. -/
def Shrinks (s s' : TrustBoundary p) : Prop :=
  ∀ kind id o, s'.authorization kind id = some o → s.authorization kind id = some o

/-- Nothing went. -/
theorem Shrinks.refl (s : TrustBoundary p) : Shrinks s s := fun _ _ _ h => h

/-- One after another. -/
theorem Shrinks.trans {a b c : TrustBoundary p} (h : Shrinks a b) (h' : Shrinks b c) :
    Shrinks a c := fun kind id o hc => h kind id o (h' kind id o hc)

/-- The counts are not authorizations. -/
theorem Tallied.shrinks {s s' : TrustBoundary p} (h : Tallied s s') : Shrinks s s' := by
  obtain ⟨_, _, _, _, _, rfl⟩ := h
  exact fun kind id o hfound => by cases kind <;> exact hfound

/-- Expired evidence takes its authorizations along. -/
theorem shrinks_purge (config : PerceptionTrustConfig) (nowNs : Nat) (s : TrustBoundary p) :
    Shrinks s (s.purgeVisualSources config nowNs) := by
  intro kind id o hfound
  cases kind with
  | evaluatedVisual =>
    obtain ⟨v, hv, rfl⟩ := Option.map_eq_some_iff.mp hfound
    have hkept := (PyDict.get?_keep_eq_some.mp hv).1
    exact Option.map_eq_some_iff.mpr ⟨v, hkept, rfl⟩
  | rgbdFusion =>
    obtain ⟨v, hv, rfl⟩ := Option.map_eq_some_iff.mp hfound
    have hkept := (PyDict.get?_keep_eq_some.mp hv).1
    exact Option.map_eq_some_iff.mpr ⟨v, hkept, rfl⟩
  | _ => exact hfound

/-- An evicted frame takes its authorizations along. -/
theorem shrinks_evictVisualSource (s : TrustBoundary p) : Shrinks s s.evictVisualSource := by
  rw [TrustBoundary.evictVisualSource]
  split
  · exact Shrinks.refl s
  · intro kind id o hfound
    cases kind with
    | evaluatedVisual =>
      obtain ⟨v, hv, rfl⟩ := Option.map_eq_some_iff.mp hfound
      have hkept := (PyDict.get?_keep_eq_some.mp hv).1
      exact Option.map_eq_some_iff.mpr ⟨v, hkept, rfl⟩
    | _ => exact hfound

/-- An evicted interpretation has no authorizations to take along. -/
theorem shrinks_evictVisualInterpretation (s : TrustBoundary p) :
    Shrinks s s.evictVisualInterpretation := by
  rw [TrustBoundary.evictVisualInterpretation]
  split
  · exact Shrinks.refl s
  · exact fun kind id o hfound => by cases kind <;> exact hfound

/-- An evicted depth frame takes its authorizations along. -/
theorem shrinks_evictDepthSource (s : TrustBoundary p) : Shrinks s s.evictDepthSource := by
  rw [TrustBoundary.evictDepthSource]
  split
  · exact Shrinks.refl s
  · intro kind id o hfound
    cases kind with
    | rgbdFusion =>
      obtain ⟨v, hv, rfl⟩ := Option.map_eq_some_iff.mp hfound
      have hkept := (PyDict.get?_keep_eq_some.mp hv).1
      exact Option.map_eq_some_iff.mpr ⟨v, hkept, rfl⟩
    | _ => exact hfound

/-- Remembering authorizes nothing. -/
theorem shrinks_remember (o : Observation p) (s : TrustBoundary p) :
    Shrinks s (TrustBoundary.remember o s) := by
  have hloop : ∀ (condition : TrustBoundary p → Prop) [DecidablePred condition]
      (evict : TrustBoundary p → TrustBoundary p) (n : Nat) (stored : TrustBoundary p),
      (∀ s, Shrinks s (evict s)) → Shrinks s stored →
      Shrinks s (PyDict.whileLoop condition evict n stored) := by
    intro condition _ evict n stored hevict hstored
    exact PyDict.whileLoop_invariant (fun state _ h => h.trans (hevict state)) n stored hstored
  cases o with
  | visualFrame frame =>
    refine hloop _ _ _ _ shrinks_evictVisualSource ?_
    exact fun kind id o hfound => by cases kind <;> exact hfound
  | depthFrame frame =>
    refine hloop _ _ _ _ shrinks_evictDepthSource ?_
    exact fun kind id o hfound => by cases kind <;> exact hfound
  | visualInterpretation interpretation =>
    refine hloop _ _ _ _ shrinks_evictVisualInterpretation ?_
    exact fun kind id o hfound => by cases kind <;> exact hfound
  | _ => exact Shrinks.refl s

/-- Retaining authorizes nothing. -/
theorem shrinks_retain (config : PerceptionTrustConfig) (nowNs : Nat)
    (source : PerceptionSourceContract) (s : TrustBoundary p) (rebuilt : Evidence p) :
    Shrinks s (s.retain config nowNs source rebuilt) := by
  cases rebuilt with
  | observation o =>
    have hrecord : Shrinks s (TrustBoundary.recordLatest source o s) :=
      fun kind id o hfound => by cases kind <;> exact hfound
    exact (hrecord.trans (shrinks_purge config nowNs _)).trans (shrinks_remember o _)
  | semantic o =>
    refine (shrinks_purge config nowNs s).trans ?_
    exact fun kind id o hfound => by cases kind <;> exact hfound

/-- A check only takes authorizations out. -/
theorem checkRelation_shrinks (config : PerceptionTrustConfig) :
    CheckRelation config (Shrinks (p := p)) where
  refl := Shrinks.refl
  trans := Shrinks.trans
  purge := shrinks_purge config
  physical := fun s id kind other o hfound => by
    cases kind with
    | physicalCamera => exact (PyDict.get?_remove_eq_some.mp hfound).1
    | _ => exact hfound
  depth := fun s id kind other o hfound => by
    cases kind with
    | depthCamera => exact (PyDict.get?_remove_eq_some.mp hfound).1
    | _ => exact hfound
  audio := fun s id kind other o hfound => by
    cases kind with
    | audio => exact (PyDict.get?_remove_eq_some.mp hfound).1
    | _ => exact hfound
  fusion := fun s id kind other o hfound => by
    cases kind with
    | rgbdFusion =>
      obtain ⟨v, hv, rfl⟩ := Option.map_eq_some_iff.mp hfound
      exact Option.map_eq_some_iff.mpr ⟨v, (PyDict.get?_remove_eq_some.mp hv).1, rfl⟩
    | _ => exact hfound
  evaluated := fun s id kind other o hfound => by
    cases kind with
    | evaluatedVisual =>
      obtain ⟨v, hv, rfl⟩ := Option.map_eq_some_iff.mp hfound
      exact Option.map_eq_some_iff.mpr ⟨v, (PyDict.get?_remove_eq_some.mp hv).1, rfl⟩
    | _ => exact hfound

end Shrinking

section Taking

variable {config : PerceptionTrustConfig}

/-- The authorization of sealed evidence was there and is gone. -/
def Taken (kind : Seal) (o : Observation p) (s s' : TrustBoundary p) : Prop :=
  s.authorization kind o.observationId = some o ∧ s'.authorization kind o.observationId = none

/-- Physical RGB evidence. -/
theorem taken_physical {o : Observation p} {s s' : TrustBoundary p} (hkind : IsPhysicalCamera o)
    (h : checkPhysicalCamera config o s = (s', none)) : Taken .physicalCamera o s s' := by
  rw [checkPhysicalCamera, Stage.onlyWhen_passed hkind] at h
  obtain ⟨requirement, -, -, htaken⟩ := checkSeal_passed.mp h
  obtain ⟨hfound, rfl⟩ := consume_passed.mp htaken
  exact ⟨hfound, PyDict.get?_remove_self⟩

/-- Depth evidence. -/
theorem taken_depth {o : Observation p} {s s' : TrustBoundary p} (hkind : IsDepthCamera o)
    (h : checkDepthCamera config o s = (s', none)) : Taken .depthCamera o s s' := by
  rw [checkDepthCamera, Stage.onlyWhen_passed hkind] at h
  obtain ⟨requirement, -, -, htaken⟩ := checkSeal_passed.mp h
  obtain ⟨hfound, rfl⟩ := consume_passed.mp htaken
  exact ⟨hfound, PyDict.get?_remove_self⟩

/-- Audio evidence. -/
theorem taken_audio {o : Observation p} {s s' : TrustBoundary p} (hkind : IsAudio o)
    (h : checkAudio config o s = (s', none)) : Taken .audio o s s' := by
  rw [checkAudio, Stage.onlyWhen_passed hkind] at h
  obtain ⟨requirement, -, -, htaken⟩ := checkSeal_passed.mp h
  obtain ⟨hfound, rfl⟩ := consume_passed.mp htaken
  exact ⟨hfound, PyDict.get?_remove_self⟩

/-- A fused pair. -/
theorem taken_fusion {o : FusedRgbdObservation} {s s' : TrustBoundary p}
    (h : checkFusion config o s = (s', none)) : Taken .rgbdFusion (.fusedRgbd o) s s' := by
  obtain ⟨requirement, -, -, htaken⟩ := checkSeal_passed.mp h
  obtain ⟨hfound, rfl⟩ := consume_passed.mp htaken
  exact ⟨Option.map_eq_some_iff.mpr ⟨o, hfound, rfl⟩,
    Option.map_eq_none_iff.mpr PyDict.get?_remove_self⟩

/-- An evaluated result. -/
theorem taken_evaluated {o : VisualInterpretationObservation p} {s s' : TrustBoundary p}
    (hkind : o.evaluationReference ≠ none) (h : checkEvaluation config o s = (s', none)) :
    Taken .evaluatedVisual (.visualInterpretation o) s s' := by
  rw [checkEvaluation] at h
  cases hreference : o.evaluationReference with
  | none => exact absurd hreference hkind
  | some reference =>
    simp only [hreference] at h
    obtain ⟨requirement, -, -, htaken⟩ := checkSeal_passed.mp h
    obtain ⟨hfound, rfl⟩ := consume_passed.mp htaken
    exact ⟨Option.map_eq_some_iff.mpr ⟨o, hfound, rfl⟩,
      Option.map_eq_none_iff.mpr PyDict.get?_remove_self⟩

/-- Taking out counts whatever else goes before and after. -/
theorem Taken.widen {kind : Seal} {o : Observation p} {before s s' checked : TrustBoundary p}
    (h : Taken kind o s s') (hbefore : Shrinks before s) (hafter : Shrinks s' checked) :
    Taken kind o before checked := by
  refine ⟨hbefore kind _ o h.1, Option.eq_none_iff_forall_ne_some.mpr fun v hv => ?_⟩
  have hv' := hafter kind _ v hv
  rw [h.2] at hv'
  cases hv'

/-- Sealed evidence that passed the checks had its authorization taken out. -/
theorem taken_of_passed {kind : Seal} {o : Observation p} {nowNs : Nat}
    {source : PerceptionSourceContract} {before checked : TrustBoundary p}
    (hseal : sealOf o = some kind)
    (hpassed : checkAgainst config nowNs (.observation o) source before = (checked, none)) :
    Taken kind o before checked := by
  have hrelation := checkRelation_shrinks (p := p) config
  have htaken : ∀ check ∈ checkKind config source nowNs (.observation o),
      (∀ s s', check s = (s', none) → Taken kind o s s') → Taken kind o before checked := by
    intro check hmem hcheck
    obtain ⟨s, s', hbefore, hstage, hafter⟩ := hrelation.passed_kind hpassed hmem
    exact (hcheck s s' hstage).widen hbefore hafter
  cases o with
  | visualFrame frame =>
    by_cases hkind : frame.sensor.kind = .rgbCamera ∧ frame.provenance.sourceKind = .physicalSensor
    · rw [sealOf, if_pos hkind] at hseal
      obtain rfl := Option.some.inj hseal
      exact htaken _ List.mem_cons_self fun s s' => taken_physical hkind
    · rw [sealOf, if_neg hkind] at hseal
      cases hseal
  | depthFrame frame =>
    rw [sealOf, if_pos frame.sensor_kind] at hseal
    obtain rfl := Option.some.inj hseal
    exact htaken _ (List.mem_cons_of_mem _ List.mem_cons_self) fun s s' =>
      taken_depth frame.sensor_kind
  | audioFrame frame =>
    rw [sealOf, if_pos frame.sensor_kind] at hseal
    obtain rfl := Option.some.inj hseal
    exact htaken _ List.mem_cons_self fun s s' => taken_audio frame.sensor_kind
  | sensorHealth health =>
    by_cases hphysical : health.sensor.kind = .rgbCamera ∧
        health.provenance.sourceKind = .physicalSensor
    · rw [sealOf, if_pos hphysical] at hseal
      obtain rfl := Option.some.inj hseal
      exact htaken _ List.mem_cons_self fun s s' => taken_physical hphysical
    · rw [sealOf, if_neg hphysical] at hseal
      by_cases hdepth : health.sensor.kind = .depthCamera
      · rw [if_pos hdepth] at hseal
        obtain rfl := Option.some.inj hseal
        exact htaken _ (List.mem_cons_of_mem _ List.mem_cons_self) fun s s' => taken_depth hdepth
      · rw [if_neg hdepth] at hseal
        by_cases haudio : health.sensor.kind = .microphone
        · rw [if_pos haudio] at hseal
          obtain rfl := Option.some.inj hseal
          exact htaken _ (List.mem_cons_of_mem _ (List.mem_cons_of_mem _ List.mem_cons_self))
            fun s s' => taken_audio haudio
        · rw [if_neg haudio] at hseal
          cases hseal
  | visualInterpretation interpretation =>
    by_cases hkind : interpretation.evaluationReference ≠ none
    · rw [sealOf, if_pos hkind] at hseal
      obtain rfl := Option.some.inj hseal
      refine htaken _ List.mem_cons_self fun s s' h => ?_
      exact taken_evaluated hkind (checkInterpretation_passed h).1
    · rw [sealOf, if_neg hkind] at hseal
      cases hseal
  | fusedRgbd pair =>
    obtain rfl := Option.some.inj hseal
    exact htaken _ List.mem_cons_self fun s s' => taken_fusion
  | _ => cases hseal

end Taking

section Admissions

variable {config : PerceptionTrustConfig} {normalize : Quaternion → Option Quaternion}

/-- The checks of a call add no authorization. -/
theorem shrinks_checkCall (nowNs receiptNs : Int) (rebuilt : Evidence p)
    (source : PerceptionSourceContract) (s : TrustBoundary p) :
    Shrinks s (checkCall config nowNs receiptNs rebuilt source s).1 :=
  (tallied_timed nowNs.toNat receiptNs.toNat s).shrinks.trans
    ((checkRelation_shrinks config).respects_checkAgainst nowNs.toNat rebuilt source _)

/-- An admission adds no authorization. -/
theorem AdmissionCases.shrinks {evidence : Evidence p} {nowNs receiptNs : Int}
    {s : TrustBoundary p} {result : TrustBoundary p × Outcome p}
    (h : AdmissionCases config normalize evidence nowNs receiptNs s result) :
    Shrinks s result.1 := by
  rcases h with ⟨-, htallied | hlooked⟩ | ⟨rebuilt, source, hadmitted, -⟩
  · exact htallied.shrinks
  · obtain ⟨nowNs, receiptNs, rebuilt, source, htallied⟩ := hlooked
    exact (shrinks_checkCall nowNs receiptNs rebuilt source s).trans htallied.shrinks
  · have hretained := shrinks_retain config nowNs.toNat source
      (checkCall config nowNs receiptNs rebuilt source s).1 rebuilt
    exact ((shrinks_checkCall nowNs receiptNs rebuilt source s).trans hretained).trans
      hadmitted.retained.shrinks

/-- Accepted sealed evidence was held and is not held any more. -/
theorem AdmissionCases.used {evidence : Evidence p} {nowNs receiptNs : Int} {s : TrustBoundary p}
    {result : TrustBoundary p × Outcome p} {o : Observation p}
    (h : AdmissionCases config normalize evidence nowNs receiptNs s result)
    (haccepted : acceptedEvidence result.2 = some (.observation o)) (hsealed : sealOf o ≠ none) :
    Held s o ∧ ¬Held result.1 o := by
  obtain ⟨kind, hkind⟩ := Option.ne_none_iff_exists'.mp hsealed
  rcases h with ⟨hrefused, -⟩ | ⟨rebuilt, source, hadmitted, houtcome⟩
  · rw [hrefused] at haccepted
    cases haccepted
  · rw [houtcome] at haccepted
    have hinertial : ∀ imu, (Evidence.observation o : Evidence p) ≠ .observation (.imu imu) := by
      intro imu heq
      cases heq
      exact hsealed rfl
    obtain rfl := rebuildEvidence_eq (rebuild_of_accepted haccepted) hinertial
    have hretained := (shrinks_retain config nowNs.toNat source _ (.observation o)).trans
      hadmitted.retained.shrinks
    have htaken := (taken_of_passed hkind hadmitted.admissible.checked).widen
      (tallied_timed nowNs.toNat receiptNs.toNat s).shrinks hretained
    refine ⟨⟨kind, hkind, htaken.1⟩, ?_⟩
    rintro ⟨other, hother, hfound⟩
    obtain rfl := Option.some.inj (hkind.symm.trans hother)
    rw [htaken.2] at hfound
    cases hfound

end Admissions

section Authorizations

variable {config : PerceptionTrustConfig} {s : TrustBoundary p} {kind : Seal} {id : ObservationId}
  {o : Observation p}

/-- Both authorizations of an admission are stored, and others may be dropped. -/
theorem get?_authorizeBoth {frame health : Observation p}
    {authorizations : PyDict ObservationId (Observation p)}
    (h : (authorizeBoth frame health authorizations).get? id = some o) :
    authorizations.get? id = some o ∨ o = frame ∨ o = health := by
  have hset := PyDict.get?_of_trim h
  rw [PyDict.get?_set] at hset
  by_cases hhealth : id = health.observationId
  · rw [if_pos hhealth] at hset
    exact Or.inr (Or.inr (Option.some.inj hset).symm)
  · rw [if_neg hhealth, PyDict.get?_set] at hset
    by_cases hframe : id = frame.observationId
    · rw [if_pos hframe] at hset
      exact Or.inr (Or.inl (Option.some.inj hset).symm)
    · rw [if_neg hframe] at hset
      exact Or.inl hset

/-- What a physical camera's adapter may authorize. -/
theorem authorizePhysicalCamera_authorization {admission : PhysicalCameraAdmission}
    (h : (s.authorizePhysicalCamera config admission).1.authorization kind id = some o) :
    s.authorization kind id = some o ∨ (s.authorizePhysicalCamera config admission).2 = true ∧
      o ∈ [.visualFrame admission.frame, .sensorHealth admission.health] := by
  rw [TrustBoundary.authorizePhysicalCamera] at h ⊢
  split at h
  · rename_i hsealed
    cases kind with
    | physicalCamera =>
      rcases get?_authorizeBoth h with hbefore | hgranted
      · exact Or.inl hbefore
      · refine Or.inr ⟨by rw [if_pos hsealed], ?_⟩
        simpa using hgranted
    | _ => exact Or.inl h
  · exact Or.inl h

/-- What a depth camera's adapter may authorize. -/
theorem authorizeDepthCamera_authorization {admission : DepthCameraAdmission}
    (h : (s.authorizeDepthCamera config admission).1.authorization kind id = some o) :
    s.authorization kind id = some o ∨ (s.authorizeDepthCamera config admission).2 = true ∧
      o ∈ [.depthFrame admission.frame, .sensorHealth admission.health] := by
  rw [TrustBoundary.authorizeDepthCamera] at h ⊢
  split at h
  · rename_i hsealed
    cases kind with
    | depthCamera =>
      rcases get?_authorizeBoth h with hbefore | hgranted
      · exact Or.inl hbefore
      · refine Or.inr ⟨by rw [if_pos hsealed], ?_⟩
        simpa using hgranted
    | _ => exact Or.inl h
  · exact Or.inl h

/-- What a microphone's adapter may authorize. -/
theorem authorizeAudio_authorization {admission : AudioCaptureAdmission}
    (h : (s.authorizeAudio config admission).1.authorization kind id = some o) :
    s.authorization kind id = some o ∨ (s.authorizeAudio config admission).2 = true ∧
      o ∈ [.audioFrame admission.frame, .sensorHealth admission.health] := by
  rw [TrustBoundary.authorizeAudio] at h ⊢
  split at h
  · rename_i hsealed
    cases kind with
    | audio =>
      rcases get?_authorizeBoth h with hbefore | hgranted
      · exact Or.inl hbefore
      · refine Or.inr ⟨by rw [if_pos hsealed], ?_⟩
        simpa using hgranted
    | _ => exact Or.inl h
  · exact Or.inl h

/-- What the evaluator may authorize. -/
theorem authorizeEvaluatedVisual_authorization {admission : EvaluatedVisualAdmission p}
    (h : (s.authorizeEvaluatedVisual config admission).1.authorization kind id = some o) :
    s.authorization kind id = some o ∨ (s.authorizeEvaluatedVisual config admission).2 = true ∧
      o ∈ [.visualInterpretation admission.observation] := by
  rw [TrustBoundary.authorizeEvaluatedVisual] at h ⊢
  split at h
  · rename_i hevaluated
    cases kind with
    | evaluatedVisual =>
      obtain ⟨v, hv, rfl⟩ := Option.map_eq_some_iff.mp h
      rcases PyDict.get?_set_trim hv with hbefore | rfl
      · exact Or.inl (Option.map_eq_some_iff.mpr ⟨v, hbefore, rfl⟩)
      · exact Or.inr ⟨by rw [if_pos hevaluated], List.mem_singleton_self _⟩
    | _ => exact Or.inl h
  · exact Or.inl h

/-- What the synchronizer may authorize. -/
theorem authorizeRgbdFusion_authorization {admission : FusionAdmission}
    (h : (s.authorizeRgbdFusion config admission).1.authorization kind id = some o) :
    s.authorization kind id = some o ∨ (s.authorizeRgbdFusion config admission).2 = true ∧
      o ∈ [.fusedRgbd admission.observation] := by
  rw [TrustBoundary.authorizeRgbdFusion] at h ⊢
  split at h
  · rename_i hfused
    cases kind with
    | rgbdFusion =>
      obtain ⟨v, hv, rfl⟩ := Option.map_eq_some_iff.mp h
      rcases PyDict.get?_set_trim hv with hbefore | rfl
      · exact Or.inl (Option.map_eq_some_iff.mpr ⟨v, hbefore, rfl⟩)
      · exact Or.inr ⟨by rw [if_pos hfused], List.mem_singleton_self _⟩
    | _ => exact Or.inl h
  · exact Or.inl h

end Authorizations

section Calls

variable {config : PerceptionTrustConfig} {normalize : Quaternion → Option Quaternion}

/-- What is held after a call was held before or was authorized by it. -/
theorem held_of_perform {s : TrustBoundary p} {call : BoundaryCall p} {o : Observation p}
    (hcall : call ≠ .reset) (h : Held (perform config normalize s call).1 o) :
    Held s o ∨ Issues ⟨call, (perform config normalize s call).2⟩ o := by
  obtain ⟨kind, hkind, hfound⟩ := h
  have hshrinks : Shrinks s (perform config normalize s call).1 → Held s o := fun hshrinks =>
    ⟨kind, hkind, hshrinks kind _ o hfound⟩
  cases call with
  | reset => exact absurd rfl hcall
  | admitEvidence evidence nowNs receiptNs =>
    exact Or.inl (hshrinks (admit_cases _ _ evidence nowNs receiptNs s).shrinks)
  | reportFailure sensorId failure observedAtNs nowNs receiptNs =>
    refine Or.inl (hshrinks ?_)
    rcases reportFailure_cases _ _ sensorId failure observedAtNs nowNs receiptNs s with
      ⟨-, htallied⟩ | ⟨health, -, hcases⟩
    · exact htallied.shrinks
    · exact hcases.shrinks
  | authorizePhysicalCamera admission =>
    rcases authorizePhysicalCamera_authorization hfound with hbefore | ⟨htrue, hmem⟩
    · exact Or.inl ⟨kind, hkind, hbefore⟩
    · refine Or.inr ?_
      rw [Issues, BoundaryStep.granted, perform, Prod.map_snd, htrue]
      exact hmem
  | authorizeDepthCamera admission =>
    rcases authorizeDepthCamera_authorization hfound with hbefore | ⟨htrue, hmem⟩
    · exact Or.inl ⟨kind, hkind, hbefore⟩
    · refine Or.inr ?_
      rw [Issues, BoundaryStep.granted, perform, Prod.map_snd, htrue]
      exact hmem
  | authorizeAudio admission =>
    rcases authorizeAudio_authorization hfound with hbefore | ⟨htrue, hmem⟩
    · exact Or.inl ⟨kind, hkind, hbefore⟩
    · refine Or.inr ?_
      rw [Issues, BoundaryStep.granted, perform, Prod.map_snd, htrue]
      exact hmem
  | authorizeEvaluatedVisual admission =>
    rcases authorizeEvaluatedVisual_authorization hfound with hbefore | ⟨htrue, hmem⟩
    · exact Or.inl ⟨kind, hkind, hbefore⟩
    · refine Or.inr ?_
      rw [Issues, BoundaryStep.granted, perform, Prod.map_snd, htrue]
      exact hmem
  | authorizeRgbdFusion admission =>
    rcases authorizeRgbdFusion_authorization hfound with hbefore | ⟨htrue, hmem⟩
    · exact Or.inl ⟨kind, hkind, hbefore⟩
    · refine Or.inr ?_
      rw [Issues, BoundaryStep.granted, perform, Prod.map_snd, htrue]
      exact hmem

/-- A call that accepts a sealed observation held it before and does not hold it afterwards. -/
theorem used_of_perform {s : TrustBoundary p} {call : BoundaryCall p} {o : Observation p}
    (h : Uses ⟨call, (perform config normalize s call).2⟩ o) :
    Held s o ∧ ¬Held (perform config normalize s call).1 o := by
  obtain ⟨haccepted, hsealed⟩ := h
  cases call with
  | admitEvidence evidence nowNs receiptNs =>
    exact (admit_cases _ _ evidence nowNs receiptNs s).used haccepted hsealed
  | reportFailure sensorId failure observedAtNs nowNs receiptNs =>
    rcases reportFailure_cases _ _ sensorId failure observedAtNs nowNs receiptNs s with
      ⟨hrefused, -⟩ | ⟨health, -, hcases⟩
    · exact absurd (hrefused.symm.trans haccepted) (fun heq => nomatch heq)
    · exact hcases.used haccepted hsealed
  | _ => cases haccepted

/-- A call accepts at most one observation. -/
theorem uses_single {step : BoundaryStep p} {o other : Observation p} (h : Uses step o)
    (hother : Uses step other) : o = other := by
  have heq := Option.some.inj (h.1.symm.trans hother.1)
  exact Evidence.observation.inj heq

end Calls

/-- In every epoch each accepted sealed observation is charged to an earlier call of the epoch that
authorized exactly it, and no authorization is charged twice. -/
theorem sealed_once (config : PerceptionTrustConfig) (normalize : Quaternion → Option Quaternion)
    (calls : List (BoundaryCall p)) :
    ∀ epoch ∈ (BoundaryHistory.after config normalize calls).epochs,
      ∃ charge, OneUse.Charged Issues Uses epoch charge := by
  have hinvariant := epochs_invariant config normalize calls
    (P := fun s steps => OneUse.Backed Issues Uses (Held s) steps)
    (Q := fun steps => ∃ charge, OneUse.Charged Issues Uses steps charge)
    (OneUse.backed_nil fun o hheld => by
      obtain ⟨kind, -, hfound⟩ := hheld
      cases kind <;> cases hfound)
    (fun s steps call _ hcall hbacked => hbacked.extend
      (fun o other huses hother => uses_single huses hother)
      (fun o huses => used_of_perform huses)
      (fun o hheld => held_of_perform hcall hheld))
    (fun s steps hbacked => by
      obtain ⟨charge, hcharged, -⟩ := hbacked
      exact ⟨charge, hcharged⟩)
  exact hinvariant.2

/-- The depth frame of the run that fills the boundary is charged to its authorization. -/
theorem sealed_once_crowding :
    ∃ charge, OneUse.Charged Issues Uses
      (BoundaryHistory.after fixtureConfig some (crowding 64)).current charge :=
  sealed_once fixtureConfig some (crowding 64) _ List.mem_cons_self

end Perception
end AyyoHumanoid
