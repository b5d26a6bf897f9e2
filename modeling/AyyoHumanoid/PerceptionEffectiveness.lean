import AyyoHumanoid.PerceptionSeals
import AyyoHumanoid.PyDictLimits

/-!
# Authorizations that take effect

An authorization is granted for the admission that follows it. The authorizations
of a kind are kept up to a capacity and the oldest go first, so the one just
granted may be the one that goes. An admission that gets as far as the
authorization of its evidence finds it exactly when it survived.
-/

namespace AyyoHumanoid
namespace Perception

open PyText JsonText World Rgbd

variable {p : Platform}

section Statement

/-- A refusal of sealed evidence without its authorization. -/
def LacksAuthorization (why : Refusal) : Prop :=
  why.reason ∈ [AdmissionReason.physicalCameraNotAuthorized, .depthCameraNotAuthorized,
      .audioNotAuthorized, .evaluationNotAuthorized] ∨
    why = refusal .sourceFrameNotAdmitted
      "fused RGB-D evidence was not sealed from admitted components"

/-- An admission was rejected for lack of authorization. -/
def Unauthorized (outcome : Outcome p) : Prop :=
  ∃ result, outcome = .ok result ∧ result.status = .rejected ∧
    LacksAuthorization ⟨result.reason, result.detail⟩

/-- Every authorization of a run takes effect in an admission that follows it at once. -/
def Effective (config : PerceptionTrustConfig) (normalize : Quaternion → Option Quaternion)
    (calls : List (BoundaryCall p)) : Prop :=
  ∀ done call rest, calls = done ++ call :: rest →
    ∀ o, Issues ⟨call, (perform config normalize (stateAfter config normalize done) call).2⟩ o →
      ∀ nowNs receiptNs, ¬Unauthorized
        ((perform config normalize (stateAfter config normalize done) call).1.admitEvidence config
          normalize (.observation o) nowNs receiptNs).2

/-- The producer of an interpretation is reviewed. -/
def Reviewed (config : PerceptionTrustConfig) (o : Observation p) : Prop :=
  ∀ interpretation, o = .visualInterpretation interpretation →
    interpretation.producer ∈ config.visualInterpretationProducers

/-- An admission gets as far as the authorization of its evidence. -/
structure Asked (config : PerceptionTrustConfig) (s : TrustBoundary p) (o : Observation p)
    (nowNs receiptNs : Int) : Prop where
  /-- The times are valid. -/
  times : IsTime nowNs ∧ IsTime receiptNs
  /-- The source clock did not go back. -/
  clock : ¬∃ last ∈ s.lastNowNs, nowNs.toNat < last
  /-- The receipt time did not go back. -/
  receipt : ¬∃ last ∈ s.lastReceiptMonotonicNs, receiptNs.toNat < last
  /-- The robot is the configured one. -/
  robot : o.robotId.text = config.robotId
  /-- The source is known. -/
  source : sourceFor config (.observation o) ≠ none
  /-- The producer is reviewed. -/
  reviewed : Reviewed config o

/-- The authorizations after a frame and its health fact were stored, before any goes. -/
def storedBoth (frame health : Observation p)
    (authorizations : PyDict ObservationId (Observation p)) :
    PyDict ObservationId (Observation p) :=
  (authorizations.set frame.observationId frame).set health.observationId health

/-- The authorization of an adapter is among the latest that are kept. -/
def RemainsOfAdapter (frame health o : Observation p)
    (authorizations : PyDict ObservationId (Observation p)) : Prop :=
  (storedBoth frame health authorizations).Survives (fun id o => evictionRank o.observedAtNs id)
    maxVisualSourceReferences o.observationId o

/-- The authorization that a call grants is among the latest of its kind that are kept. -/
def Remains (s : TrustBoundary p) : BoundaryCall p → Observation p → Prop
  | .authorizePhysicalCamera admission, o =>
    RemainsOfAdapter (.visualFrame admission.frame) (.sensorHealth admission.health) o
      s.physicalCameraAuthorizations
  | .authorizeDepthCamera admission, o =>
    RemainsOfAdapter (.depthFrame admission.frame) (.sensorHealth admission.health) o
      s.depthCameraAuthorizations
  | .authorizeAudio admission, o =>
    RemainsOfAdapter (.audioFrame admission.frame) (.sensorHealth admission.health) o
      s.audioAuthorizations
  | .authorizeEvaluatedVisual admission, _ =>
    (s.evaluatedVisualAuthorizations.set admission.observation.observationId
      admission.observation).Survives (fun id o => evictionRank o.resultAtNs id)
      maxVisualSourceReferences admission.observation.observationId admission.observation
  | .authorizeRgbdFusion admission, _ =>
    (s.rgbdFusionAuthorizations.set (admission.observation.fingerprint p).observationId
      admission.observation).Survives (fun id o => evictionRank o.observedAtNs id)
      maxVisualSourceReferences (admission.observation.fingerprint p).observationId
      admission.observation
  | _, _ => True

end Statement

section Survival

/-- Ranks of authorizations tell identities apart. -/
theorem separates_evictionRank {α : Type} (time : α → Nat) :
    PyDict.Separates fun (id : ObservationId) (value : α) => evictionRank (time value) id := by
  intro key value other stored heq
  have htext : key.text = other.text := congrArg (fun rank => (ofLex rank).2) heq
  exact TaggedDigest.text_inj.mp htext

/-- An authorization of a pair is kept exactly when it remains. -/
theorem get?_authorizeBoth_iff {frame health o : Observation p}
    {authorizations : PyDict ObservationId (Observation p)} :
    (authorizeBoth frame health authorizations).get? o.observationId = some o ↔
      RemainsOfAdapter frame health o authorizations :=
  PyDict.get?_trim (separates_evictionRank fun o : Observation p => o.observedAtNs)

end Survival

section Qualification

variable {config : PerceptionTrustConfig}

/-- Sealed evidence whose requirement is there and agrees with it. -/
def Qualified (config : PerceptionTrustConfig) : Seal → Observation p → Prop
  | .physicalCamera, o => IsPhysicalCamera o ∧
    ∃ requirement, physicalCameraRequirement config o = some requirement ∧
      AgreesPhysical requirement o
  | .depthCamera, o => IsDepthCamera o ∧
    ∃ requirement, depthCameraRequirement config o = some requirement ∧ AgreesDepth requirement o
  | .audio, o => IsAudio o ∧
    ∃ requirement, audioRequirement config o = some requirement ∧ AgreesAudio requirement o
  | .evaluatedVisual, o => ∃ interpretation, o = .visualInterpretation interpretation ∧
    ∃ reference, interpretation.evaluationReference = some reference ∧
      ∃ requirement, evaluationRequirement config interpretation = some requirement ∧
        requirement.Matches p interpretation.producer reference
  | .rgbdFusion, o => ∃ pair, o = .fusedRgbd pair ∧
    ∃ requirement, fusionRequirement config pair = some requirement ∧ requirement.MatchesFused pair

/-- The health fact of a frame has the source of the frame. -/
theorem HealthAgrees.source_eq {frame : Observation p} {health : SensorHealthObservation}
    (h : HealthAgrees frame health) :
    (Observation.sensorHealth health : Observation p).sensor? = frame.sensor? ∧
      (Observation.sensorHealth health : Observation p).provenance = frame.provenance :=
  ⟨h.2.1, h.2.2.1⟩

/-- What a physical camera's adapter seals qualifies. -/
theorem qualified_physical {frame : VisualFrameObservation} {health : SensorHealthObservation}
    {given : PhysicalCameraTrustRequirement}
    (h : Sealed config (physicalCameraRequirement config (.visualFrame frame : Observation p)) given
      (·.MatchesUnsealed frame) (.visualFrame frame : Observation p) health) :
    Qualified config .physicalCamera (.visualFrame frame : Observation p) ∧
      Qualified config .physicalCamera (.sensorHealth health : Observation p) := by
  obtain ⟨⟨requirement, hfound, -, hagrees⟩, -, hhealth⟩ := h
  have hkind : frame.provenance.sourceKind = .physicalSensor := by
    rw [hagrees.2.2.1]
    exact requirement.physical.1
  have hsensor : health.sensor = frame.sensor := Option.some.inj hhealth.source_eq.1
  have hprovenance : health.provenance = frame.provenance := hhealth.source_eq.2
  have hsame : physicalCameraRequirement config (.sensorHealth health : Observation p) =
      physicalCameraRequirement config (.visualFrame frame : Observation p) := by
    rw [physicalCameraRequirement, physicalCameraRequirement, hhealth.source_eq.1,
      hhealth.source_eq.2]
  refine ⟨⟨⟨frame.sensor_kind, hkind⟩, requirement, hfound, hagrees⟩, ⟨⟨?_, ?_⟩, requirement, ?_,
    trivial⟩⟩
  · rw [hsensor]
    exact frame.sensor_kind
  · rw [hprovenance]
    exact hkind
  · rw [hsame]
    exact hfound

/-- What a depth camera's adapter seals qualifies. -/
theorem qualified_depth {frame : DepthFrameObservation} {health : SensorHealthObservation}
    {given : DepthTrustRequirement}
    (h : Sealed config (depthCameraRequirement config (.depthFrame frame : Observation p)) given
      (·.MatchesUnsealed frame) (.depthFrame frame : Observation p) health) :
    Qualified config .depthCamera (.depthFrame frame : Observation p) ∧
      Qualified config .depthCamera (.sensorHealth health : Observation p) := by
  obtain ⟨⟨requirement, hfound, -, hagrees⟩, -, hhealth⟩ := h
  have hsensor : health.sensor = frame.sensor := Option.some.inj hhealth.source_eq.1
  have hsame : depthCameraRequirement config (.sensorHealth health : Observation p) =
      depthCameraRequirement config (.depthFrame frame : Observation p) := by
    rw [depthCameraRequirement, depthCameraRequirement, hhealth.source_eq.1, hhealth.source_eq.2]
  refine ⟨⟨frame.sensor_kind, requirement, hfound, hagrees⟩, ⟨?_, requirement, ?_, trivial⟩⟩
  · change health.sensor.kind = .depthCamera
    rw [hsensor]
    exact frame.sensor_kind
  · rw [hsame]
    exact hfound

/-- What a microphone's adapter seals qualifies. -/
theorem qualified_audio {frame : AudioFrameObservation} {health : SensorHealthObservation}
    {given : AudioTrustRequirement}
    (h : Sealed config (audioRequirement config (.audioFrame frame : Observation p)) given
      (·.MatchesUnsealed frame) (.audioFrame frame : Observation p) health) :
    Qualified config .audio (.audioFrame frame : Observation p) ∧
      Qualified config .audio (.sensorHealth health : Observation p) := by
  obtain ⟨⟨requirement, hfound, -, hagrees⟩, -, hhealth⟩ := h
  have hsensor : health.sensor = frame.sensor := Option.some.inj hhealth.source_eq.1
  have hsame : audioRequirement config (.sensorHealth health : Observation p) =
      audioRequirement config (.audioFrame frame : Observation p) := by
    rw [audioRequirement, audioRequirement, hhealth.source_eq.1, hhealth.source_eq.2]
  refine ⟨⟨frame.sensor_kind, requirement, hfound, hagrees⟩, ⟨?_, requirement, ?_, trivial⟩⟩
  · change health.sensor.kind = .microphone
    rw [hsensor]
    exact frame.sensor_kind
  · rw [hsame]
    exact hfound

end Qualification

section Granting

variable {config : PerceptionTrustConfig} {normalize : Quaternion → Option Quaternion}
  {s : TrustBoundary p} {call : BoundaryCall p} {o : Observation p}

/-- What a call grants: evidence that qualifies, with its authorization kept exactly when it
remains. -/
def Granted (config : PerceptionTrustConfig) (s s' : TrustBoundary p) (call : BoundaryCall p)
    (o : Observation p) : Prop :=
  s'.lastNowNs = s.lastNowNs ∧ s'.lastReceiptMonotonicNs = s.lastReceiptMonotonicNs ∧
    ∃ kind, Qualified config kind o ∧
      (s'.authorization kind o.observationId = some o ↔ Remains s call o)

/-- The adapter of a physical camera. -/
theorem granted_physical {admission : PhysicalCameraAdmission}
    (htrue : (s.authorizePhysicalCamera config admission).2 = true)
    (hmem : o ∈ [.visualFrame admission.frame, .sensorHealth admission.health]) :
    Granted config s (s.authorizePhysicalCamera config admission).1
      (.authorizePhysicalCamera admission) o := by
  rw [TrustBoundary.authorizePhysicalCamera] at htrue ⊢
  split at htrue
  · rename_i hsealed
    rw [if_pos hsealed]
    have hqualified := qualified_physical hsealed
    rcases List.mem_cons.mp hmem with rfl | hlater
    · exact ⟨rfl, rfl, .physicalCamera, hqualified.1, get?_authorizeBoth_iff⟩
    · rw [List.mem_singleton] at hlater
      subst hlater
      exact ⟨rfl, rfl, .physicalCamera, hqualified.2, get?_authorizeBoth_iff⟩
  · cases htrue

/-- The adapter of a depth camera. -/
theorem granted_depth {admission : DepthCameraAdmission}
    (htrue : (s.authorizeDepthCamera config admission).2 = true)
    (hmem : o ∈ [.depthFrame admission.frame, .sensorHealth admission.health]) :
    Granted config s (s.authorizeDepthCamera config admission).1
      (.authorizeDepthCamera admission) o := by
  rw [TrustBoundary.authorizeDepthCamera] at htrue ⊢
  split at htrue
  · rename_i hsealed
    rw [if_pos hsealed]
    have hqualified := qualified_depth hsealed
    rcases List.mem_cons.mp hmem with rfl | hlater
    · exact ⟨rfl, rfl, .depthCamera, hqualified.1, get?_authorizeBoth_iff⟩
    · rw [List.mem_singleton] at hlater
      subst hlater
      exact ⟨rfl, rfl, .depthCamera, hqualified.2, get?_authorizeBoth_iff⟩
  · cases htrue

/-- The adapter of a microphone. -/
theorem granted_audio {admission : AudioCaptureAdmission}
    (htrue : (s.authorizeAudio config admission).2 = true)
    (hmem : o ∈ [.audioFrame admission.frame, .sensorHealth admission.health]) :
    Granted config s (s.authorizeAudio config admission).1 (.authorizeAudio admission) o := by
  rw [TrustBoundary.authorizeAudio] at htrue ⊢
  split at htrue
  · rename_i hsealed
    rw [if_pos hsealed]
    have hqualified := qualified_audio hsealed
    rcases List.mem_cons.mp hmem with rfl | hlater
    · exact ⟨rfl, rfl, .audio, hqualified.1, get?_authorizeBoth_iff⟩
    · rw [List.mem_singleton] at hlater
      subst hlater
      exact ⟨rfl, rfl, .audio, hqualified.2, get?_authorizeBoth_iff⟩
  · cases htrue

/-- The evaluator. -/
theorem granted_evaluated {admission : EvaluatedVisualAdmission p}
    (htrue : (s.authorizeEvaluatedVisual config admission).2 = true)
    (hmem : o ∈ [.visualInterpretation admission.observation]) :
    Granted config s (s.authorizeEvaluatedVisual config admission).1
      (.authorizeEvaluatedVisual admission) o := by
  rw [TrustBoundary.authorizeEvaluatedVisual] at htrue ⊢
  split at htrue
  · rename_i hevaluated
    rw [if_pos hevaluated]
    rw [List.mem_singleton] at hmem
    subst hmem
    obtain ⟨⟨reference, hreference, requirement, hfound, -, hsame, hmatches⟩, -⟩ := hevaluated
    refine ⟨rfl, rfl, .evaluatedVisual, ⟨_, rfl, reference, hreference, requirement, hfound,
      hmatches⟩, ?_⟩
    have hinjective : Function.Injective (Observation.visualInterpretation (p := p)) :=
      fun _ _ heq => Observation.visualInterpretation.inj heq
    rw [Remains, ← PyDict.get?_trim
      (separates_evictionRank fun o : VisualInterpretationObservation p => o.resultAtNs)]
    exact (Option.map_injective hinjective).eq_iff (b := some admission.observation)
  · cases htrue

/-- The synchronizer. -/
theorem granted_fusion {admission : FusionAdmission}
    (htrue : (s.authorizeRgbdFusion config admission).2 = true)
    (hmem : o ∈ [.fusedRgbd admission.observation]) :
    Granted config s (s.authorizeRgbdFusion config admission).1 (.authorizeRgbdFusion admission)
      o := by
  rw [TrustBoundary.authorizeRgbdFusion] at htrue ⊢
  split at htrue
  · rename_i hfused
    rw [if_pos hfused]
    rw [List.mem_singleton] at hmem
    subst hmem
    obtain ⟨⟨requirement, hfound, -, hmatches⟩, -⟩ := hfused
    refine ⟨rfl, rfl, .rgbdFusion, ⟨_, rfl, requirement, hfound, hmatches⟩, ?_⟩
    have hinjective : Function.Injective (Observation.fusedRgbd (p := p)) :=
      fun _ _ heq => Observation.fusedRgbd.inj heq
    rw [Remains, ← PyDict.get?_trim
      (separates_evictionRank fun o : FusedRgbdObservation => o.observedAtNs)]
    exact (Option.map_injective hinjective).eq_iff (b := some admission.observation)
  · cases htrue

/-- What a call grants. -/
theorem granted_of_issues
    (h : Issues ⟨call, (perform config normalize s call).2⟩ o) :
    Granted config s (perform config normalize s call).1 call o := by
  rw [Issues, BoundaryStep.granted] at h
  cases call with
  | authorizePhysicalCamera admission =>
    cases hresult : (s.authorizePhysicalCamera config admission).2 with
    | true =>
      rw [perform, Prod.map_snd, hresult] at h
      exact granted_physical hresult h
    | false =>
      rw [perform, Prod.map_snd, hresult] at h
      cases h
  | authorizeDepthCamera admission =>
    cases hresult : (s.authorizeDepthCamera config admission).2 with
    | true =>
      rw [perform, Prod.map_snd, hresult] at h
      exact granted_depth hresult h
    | false =>
      rw [perform, Prod.map_snd, hresult] at h
      cases h
  | authorizeAudio admission =>
    cases hresult : (s.authorizeAudio config admission).2 with
    | true =>
      rw [perform, Prod.map_snd, hresult] at h
      exact granted_audio hresult h
    | false =>
      rw [perform, Prod.map_snd, hresult] at h
      cases h
  | authorizeEvaluatedVisual admission =>
    cases hresult : (s.authorizeEvaluatedVisual config admission).2 with
    | true =>
      rw [perform, Prod.map_snd, hresult] at h
      exact granted_evaluated hresult h
    | false =>
      rw [perform, Prod.map_snd, hresult] at h
      cases h
  | authorizeRgbdFusion admission =>
    cases hresult : (s.authorizeRgbdFusion config admission).2 with
    | true =>
      rw [perform, Prod.map_snd, hresult] at h
      exact granted_fusion hresult h
    | false =>
      rw [perform, Prod.map_snd, hresult] at h
      cases h
  | _ => cases h

end Granting

section Refusing

variable {config : PerceptionTrustConfig} {s : TrustBoundary p} {o : Observation p}
  {source : PerceptionSourceContract} {nowNs : Nat}

/-- A refusal with another reason is not for lack of authorization. -/
theorem not_lacksAuthorization {reason : AdmissionReason} {detail : PyStr}
    (h : reason ∉ [AdmissionReason.physicalCameraNotAuthorized, .depthCameraNotAuthorized,
      .audioNotAuthorized, .evaluationNotAuthorized, .sourceFrameNotAdmitted]) :
    ¬LacksAuthorization ⟨reason, detail⟩ := by
  simp only [List.mem_cons, List.not_mem_nil, or_false, not_or] at h
  rintro (hreason | hfusion)
  · simp only [List.mem_cons, List.not_mem_nil, or_false] at hreason
    tauto
  · exact h.2.2.2.2 (congrArg Refusal.reason hfusion)

/-- Taking an authorization out refuses exactly when it is not the evidence. -/
theorem refuses_consume {α : Type} [DecidableEq α]
    {authorizations : TrustBoundary p → PyDict ObservationId α}
    {put : TrustBoundary p → PyDict ObservationId α → TrustBoundary p} {id : ObservationId}
    {rebuilt : α} {why : Refusal} (h : LacksAuthorization why) :
    Stage.Refuses LacksAuthorization (consume authorizations put id rebuilt why) s ↔
      (authorizations s).get? id ≠ some rebuilt := by
  rw [Stage.Refuses, consume]
  by_cases hfound : (authorizations s).get? id = some rebuilt
  · simp [hfound]
  · simp [hfound, h]

/-- With a requirement that agrees, a check of sealed evidence only takes the authorization out. -/
theorem refuses_checkSeal {ρ : Type} {requirement : ρ} {agrees : ρ → Prop} [DecidablePred agrees]
    {required mismatch : Refusal} {taken : Check p} (hagrees : agrees requirement) :
    Stage.Refuses LacksAuthorization (checkSeal (some requirement) agrees required mismatch taken)
      s ↔ Stage.Refuses LacksAuthorization taken s := by
  have hidle : Stage.refuseWhen (fun _ : TrustBoundary p => ¬agrees requirement) mismatch s =
      (s, none) := Stage.refuseWhen_idle (not_not.mpr hagrees)
  have hseal : checkSeal (some requirement) agrees required mismatch taken s =
      Stage.sequence [.refuseWhen (fun _ => ¬agrees requirement) mismatch, taken] s := rfl
  have hrest : Stage.Refuses LacksAuthorization (Stage.sequence [taken]) s ↔
      Stage.Refuses LacksAuthorization taken s :=
    Stage.refuses_sequence_first (List.forall_mem_nil _)
  rw [Stage.Refuses, hseal]
  exact (Stage.refuses_sequence_idle hidle).trans hrest

/-- The checks of times are of another kind. -/
theorem harmless_times (nowNs : Nat) (rebuilt : Evidence p) :
    ∀ check ∈ ([
      .refuseWhen (fun _ => nowNs + config.permittedFutureSkewNs < rebuilt.observedAtNs)
        (refusal .futureObservation "observation time is beyond permitted future skew"),
      .refuseWhen (fun _ => (rebuilt.observedAtNs : Int) < (nowNs : Int) - config.retentionTtlNs)
        (refusal .staleObservation "observation was already beyond retention at admission")] :
      List (Check p)), Stage.Harmless LacksAuthorization check := by
  refine List.forall_mem_cons.mpr ⟨?_, List.forall_mem_singleton.mpr ?_⟩
  · exact Stage.harmless_refuseWhen (not_lacksAuthorization (by decide))
  · exact Stage.harmless_refuseWhen (not_lacksAuthorization (by decide))

end Refusing

section Kinds

variable {config : PerceptionTrustConfig} {s : TrustBoundary p} {o : Observation p}
  {source : PerceptionSourceContract} {nowNs : Nat}

/-- The check of physical evidence. -/
theorem refuses_physical (h : Qualified config .physicalCamera o) :
    Stage.Refuses LacksAuthorization (checkPhysicalCamera config o) s ↔
      s.authorization .physicalCamera o.observationId ≠ some o := by
  obtain ⟨hkind, requirement, hfound, hagrees⟩ := h
  have hlacks : LacksAuthorization (refusal .physicalCameraNotAuthorized
      "physical evidence was not sealed by the lifecycle adapter") := Or.inl (by decide)
  rw [Stage.Refuses, checkPhysicalCamera, Stage.onlyWhen, if_pos hkind, hfound]
  exact Iff.trans (refuses_checkSeal (by exact hagrees)) (refuses_consume hlacks)

/-- The check of depth evidence. -/
theorem refuses_depth (h : Qualified config .depthCamera o) :
    Stage.Refuses LacksAuthorization (checkDepthCamera config o) s ↔
      s.authorization .depthCamera o.observationId ≠ some o := by
  obtain ⟨hkind, requirement, hfound, hagrees⟩ := h
  have hlacks : LacksAuthorization (refusal .depthCameraNotAuthorized
      "depth evidence was not sealed by the lifecycle adapter") := Or.inl (by decide)
  rw [Stage.Refuses, checkDepthCamera, Stage.onlyWhen, if_pos hkind, hfound]
  exact Iff.trans (refuses_checkSeal (by exact hagrees)) (refuses_consume hlacks)

/-- The check of audio evidence. -/
theorem refuses_audio (h : Qualified config .audio o) :
    Stage.Refuses LacksAuthorization (checkAudio config o) s ↔
      s.authorization .audio o.observationId ≠ some o := by
  obtain ⟨hkind, requirement, hfound, hagrees⟩ := h
  have hlacks : LacksAuthorization (refusal .audioNotAuthorized
      "audio evidence was not sealed by the lifecycle adapter") := Or.inl (by decide)
  rw [Stage.Refuses, checkAudio, Stage.onlyWhen, if_pos hkind, hfound]
  exact Iff.trans (refuses_checkSeal (by exact hagrees)) (refuses_consume hlacks)

/-- The check of a fused pair. -/
theorem refuses_fusion {pair : FusedRgbdObservation}
    (h : Qualified config .rgbdFusion (.fusedRgbd pair : Observation p)) :
    Stage.Refuses LacksAuthorization (checkFusion config pair) s ↔
      s.authorization .rgbdFusion (.fusedRgbd pair : Observation p).observationId ≠
        some (.fusedRgbd pair) := by
  obtain ⟨_, heq, requirement, hfound, hagrees⟩ := h
  obtain rfl := Observation.fusedRgbd.inj heq
  have hlacks : LacksAuthorization (refusal .sourceFrameNotAdmitted
      "fused RGB-D evidence was not sealed from admitted components") := Or.inr rfl
  have hinjective : Function.Injective (Observation.fusedRgbd (p := p)) :=
    fun _ _ heq => Observation.fusedRgbd.inj heq
  rw [checkFusion, hfound]
  refine Iff.trans (refuses_checkSeal (by exact hagrees)) (Iff.trans (refuses_consume hlacks) ?_)
  exact not_congr ((Option.map_injective hinjective).eq_iff (b := some pair)).symm

/-- The check of an evaluated result. -/
theorem refuses_evaluation {interpretation : VisualInterpretationObservation p}
    (h : Qualified config .evaluatedVisual (.visualInterpretation interpretation)) :
    Stage.Refuses LacksAuthorization (checkEvaluation config interpretation) s ↔
      s.authorization .evaluatedVisual
        (Observation.visualInterpretation interpretation).observationId ≠
          some (.visualInterpretation interpretation) := by
  obtain ⟨_, heq, reference, hreference, requirement, hfound, hagrees⟩ := h
  obtain rfl := Observation.visualInterpretation.inj heq
  have hlacks : LacksAuthorization (refusal .evaluationNotAuthorized
      "evaluated result was not registered by the evaluator") := Or.inl (by decide)
  have hinjective : Function.Injective (Observation.visualInterpretation (p := p)) :=
    fun _ _ heq => Observation.visualInterpretation.inj heq
  rw [checkEvaluation, hreference]
  simp only [hfound]
  refine Iff.trans (refuses_checkSeal (by exact hagrees)) (Iff.trans (refuses_consume hlacks) ?_)
  exact not_congr ((Option.map_injective hinjective).eq_iff (b := some interpretation)).symm

/-- A producer is reviewed when the review of its identity is of it. -/
theorem find_producer (producer : VisualInterpretationProducer) :
    config.visualInterpretationProducers.find? (·.producerId = producer.producerId) =
      some producer ↔ producer ∈ config.visualInterpretationProducers := by
  constructor
  · exact List.mem_of_find?_eq_some
  · intro hmem
    cases hfound : config.visualInterpretationProducers.find?
        (·.producerId = producer.producerId) with
    | none =>
      have hother := List.find?_eq_none.mp hfound producer hmem
      simp at hother
    | some other =>
      have hid : other.producerId = producer.producerId := by
        simpa using List.find?_some hfound
      rw [List.inj_on_of_nodup_map config.producers.2 (List.mem_of_find?_eq_some hfound) hmem hid]

/-- The checks of an interpretation, of a reviewed producer or not. -/
theorem refuses_interpretation {interpretation : VisualInterpretationObservation p}
    (h : Qualified config .evaluatedVisual (.visualInterpretation interpretation)) :
    Stage.Refuses LacksAuthorization (checkInterpretation config nowNs interpretation) s ↔
      interpretation.producer ∈ config.visualInterpretationProducers ∧
        s.authorization .evaluatedVisual
          (Observation.visualInterpretation interpretation).observationId ≠
            some (.visualInterpretation interpretation) := by
  have hunknown : ¬LacksAuthorization (refusal .unknownProducer
      "visual result producer is not one exact reviewed producer") :=
    not_lacksAuthorization (by decide)
  rw [checkInterpretation]
  by_cases hproducer : interpretation.producer ∈ config.visualInterpretationProducers
  · have hfound := (find_producer interpretation.producer).mpr hproducer
    have hfirst : Stage.requiring (fun _ => config.visualInterpretationProducers.find?
          (·.producerId = interpretation.producer.producerId))
        (refusal .unknownProducer "visual result producer is not one exact reviewed producer")
        (fun producer => Stage.refuseWhen (fun _ => producer ≠ interpretation.producer)
          (refusal .unknownProducer "visual result producer is not one exact reviewed producer"))
        s = (s, none) := by
      rw [Stage.requiring, hfound]
      exact Stage.refuseWhen_idle (not_not.mpr rfl)
    have hrest : Stage.Refuses LacksAuthorization (checkEvaluation config interpretation) s ↔
        interpretation.producer ∈ config.visualInterpretationProducers ∧
          s.authorization .evaluatedVisual
            (Observation.visualInterpretation interpretation).observationId ≠
              some (.visualInterpretation interpretation) :=
      (refuses_evaluation h).trans (and_iff_right hproducer).symm
    refine (Stage.refuses_sequence_idle hfirst).trans
      ((Stage.refuses_sequence_first ?_).trans hrest)
    simp only [List.forall_mem_cons]
    refine ⟨Stage.harmless_requiring ?_ fun frame => Stage.harmless_refuseWhen ?_,
      Stage.harmless_refuseWhen ?_, List.forall_mem_nil _⟩
    · rintro (hreason | hfusion)
      · simp [refusal] at hreason
      · exact absurd (congrArg Refusal.detail hfusion) (by decide)
    · exact not_lacksAuthorization (by decide)
    · exact not_lacksAuthorization (by decide)
  · refine iff_of_false ?_ fun hboth => hproducer hboth.1
    rintro ⟨given, hgiven, hlacks⟩
    rw [Stage.sequence, Stage.requiring] at hgiven
    cases hfound : config.visualInterpretationProducers.find?
        (·.producerId = interpretation.producer.producerId) with
    | none =>
      rw [hfound] at hgiven
      exact hunknown (Option.some.inj hgiven ▸ hlacks)
    | some other =>
      have hne : other ≠ interpretation.producer := by
        rintro rfl
        exact hproducer ((find_producer _).mp hfound)
      simp only [hfound, Stage.refuseWhen, hne, ne_eq, not_false_eq_true, if_true] at hgiven
      exact hunknown (Option.some.inj hgiven ▸ hlacks)

end Kinds

section Sequences

variable {config : PerceptionTrustConfig} {s : TrustBoundary p} {o : Observation p}
  {source : PerceptionSourceContract} {nowNs : Nat}

/-- A check that is not made is harmless. -/
theorem harmless_skipped {condition : Prop} [Decidable condition] {check : Check p}
    (h : ¬condition) : Stage.Harmless LacksAuthorization (Stage.onlyWhen condition check) := by
  rintro s ⟨given, hgiven, -⟩
  rw [Stage.onlyWhen_idle h] at hgiven
  cases hgiven

/-- Frames and health facts are checked by the three adapters' checks. -/
def OfAdapters : Observation p → Prop
  | .visualFrame _ | .depthFrame _ | .sensorHealth _ => True
  | _ => False

/-- The checks of a frame or a health fact. -/
theorem checksAgainst_adapters (h : OfAdapters o) :
    checksAgainst config nowNs (.observation o) source =
      [checkPhysicalCamera config o, checkDepthCamera config o, checkAudio config o,
        .refuseWhen (fun _ => nowNs + config.permittedFutureSkewNs < o.observedAtNs)
          (refusal .futureObservation "observation time is beyond permitted future skew"),
        .refuseWhen (fun _ => (o.observedAtNs : Int) < (nowNs : Int) - config.retentionTtlNs)
          (refusal .staleObservation "observation was already beyond retention at admission")] := by
  cases o with
  | visualFrame frame => rfl
  | depthFrame frame => rfl
  | sensorHealth health => rfl
  | _ => cases h

/-- Physical evidence, against its source. -/
theorem refuses_against_physical (h : Qualified config .physicalCamera o) :
    Stage.Refuses LacksAuthorization (checkAgainst config nowNs (.observation o) source) s ↔
      s.authorization .physicalCamera o.observationId ≠ some o := by
  have hkinds : OfAdapters o ∧ ¬IsDepthCamera o ∧ ¬IsAudio o := by
    have hkind := h.1
    cases o with
    | visualFrame frame => exact ⟨trivial, id, id⟩
    | sensorHealth health =>
      refine ⟨trivial, fun hdepth => ?_, fun haudio => ?_⟩
      · cases hkind.1.symm.trans hdepth
      · cases hkind.1.symm.trans haudio
    | _ => cases hkind
  rw [checkAgainst, checksAgainst_adapters hkinds.1]
  refine (Stage.refuses_sequence_first ?_).trans (refuses_physical h)
  refine List.forall_mem_cons.mpr ⟨harmless_skipped hkinds.2.1, List.forall_mem_cons.mpr
    ⟨harmless_skipped hkinds.2.2, harmless_times nowNs (.observation o)⟩⟩

/-- Depth evidence, against its source. -/
theorem refuses_against_depth (h : Qualified config .depthCamera o) :
    Stage.Refuses LacksAuthorization (checkAgainst config nowNs (.observation o) source) s ↔
      s.authorization .depthCamera o.observationId ≠ some o := by
  have hkinds : OfAdapters o ∧ ¬IsPhysicalCamera o ∧ ¬IsAudio o := by
    have hkind := h.1
    cases o with
    | depthFrame frame => exact ⟨trivial, id, id⟩
    | sensorHealth health =>
      have hdepth : health.sensor.kind = .depthCamera := hkind
      refine ⟨trivial, fun hphysical => ?_, fun haudio => ?_⟩
      · cases hdepth.symm.trans hphysical.1
      · cases hdepth.symm.trans haudio
    | _ => cases hkind
  rw [checkAgainst, checksAgainst_adapters hkinds.1]
  refine (Stage.refuses_sequence_idle (Stage.onlyWhen_idle hkinds.2.1)).trans
    ((Stage.refuses_sequence_first ?_).trans (refuses_depth h))
  exact List.forall_mem_cons.mpr
    ⟨harmless_skipped hkinds.2.2, harmless_times nowNs (.observation o)⟩

/-- Audio evidence, against its source. -/
theorem refuses_against_audio (h : Qualified config .audio o) :
    Stage.Refuses LacksAuthorization (checkAgainst config nowNs (.observation o) source) s ↔
      s.authorization .audio o.observationId ≠ some o := by
  have hkind := h.1
  have htimes := @harmless_times p config nowNs (.observation o)
  cases o with
  | audioFrame frame =>
    refine (Stage.refuses_sequence_first ?_).trans (refuses_audio h)
    exact List.forall_mem_cons.mpr
      ⟨Stage.harmless_refuseWhen (not_lacksAuthorization (by decide)), htimes⟩
  | sensorHealth health =>
    have haudio : health.sensor.kind = .microphone := hkind
    have hphysical : ¬IsPhysicalCamera (.sensorHealth health : Observation p) := fun hother => by
      cases haudio.symm.trans hother.1
    have hdepth : ¬IsDepthCamera (.sensorHealth health : Observation p) := fun hother => by
      cases haudio.symm.trans hother
    have hadapters : OfAdapters (.sensorHealth health : Observation p) := trivial
    rw [checkAgainst, checksAgainst_adapters hadapters]
    exact (Stage.refuses_sequence_idle (Stage.onlyWhen_idle hphysical)).trans
      ((Stage.refuses_sequence_idle (Stage.onlyWhen_idle hdepth)).trans
        ((Stage.refuses_sequence_first htimes).trans (refuses_audio h)))
  | _ => cases hkind

/-- The checks of evidence that qualifies miss its authorization exactly when it is not there. -/
theorem refuses_against {kind : Seal} (h : Qualified config kind o) :
    Stage.Refuses LacksAuthorization (checkAgainst config nowNs (.observation o) source) s ↔
      Reviewed config o ∧ s.authorization kind o.observationId ≠ some o := by
  have hother : (∀ interpretation, o ≠ .visualInterpretation interpretation) →
      Reviewed config o := fun hne interpretation heq => absurd heq (hne interpretation)
  cases kind with
  | physicalCamera =>
    have hreviewed := hother (by
      rintro interpretation rfl
      cases h.1)
    exact (refuses_against_physical h).trans (and_iff_right hreviewed).symm
  | depthCamera =>
    have hreviewed := hother (by
      rintro interpretation rfl
      cases h.1)
    exact (refuses_against_depth h).trans (and_iff_right hreviewed).symm
  | audio =>
    have hreviewed := hother (by
      rintro interpretation rfl
      cases h.1)
    exact (refuses_against_audio h).trans (and_iff_right hreviewed).symm
  | evaluatedVisual =>
    obtain ⟨interpretation, rfl, -⟩ := id h
    have hchecks : checksAgainst config nowNs (.observation (.visualInterpretation interpretation))
        source = checkInterpretation config nowNs interpretation :: _ := rfl
    have hreviewed : Reviewed config (.visualInterpretation interpretation) ↔
        interpretation.producer ∈ config.visualInterpretationProducers := by
      constructor
      · exact fun hall => hall interpretation rfl
      · intro hmem other heq
        rw [← Observation.visualInterpretation.inj heq]
        exact hmem
    rw [checkAgainst, hchecks, hreviewed]
    exact (Stage.refuses_sequence_first (harmless_times _ _)).trans (refuses_interpretation h)
  | rgbdFusion =>
    obtain ⟨pair, rfl, -⟩ := id h
    have hchecks : checksAgainst config nowNs (.observation (.fusedRgbd pair : Observation p))
        source = checkFusion config pair :: _ := rfl
    have hreviewed := hother (by
      rintro interpretation heq
      cases heq)
    rw [checkAgainst, hchecks]
    exact (Stage.refuses_sequence_first (harmless_times _ _)).trans
      ((refuses_fusion h).trans (and_iff_right hreviewed).symm)

end Sequences

section Admitting

variable {config : PerceptionTrustConfig} {normalize : Quaternion → Option Quaternion}
  {s : TrustBoundary p} {o : Observation p} {kind : Seal}

/-- A rejection is for lack of authorization when its refusal is. -/
theorem unauthorized_reject {why : Refusal} {id : Option EvidenceId} :
    Unauthorized (s.reject why id).2 ↔ LacksAuthorization why := by
  constructor
  · rintro ⟨result, heq, -, hlacks⟩
    rw [← Except.ok.inj heq] at hlacks
    exact hlacks
  · intro hlacks
    exact ⟨_, rfl, rfl, hlacks⟩

/-- What raises is not rejected. -/
theorem not_unauthorized_error {error : PerceptionError} :
    ¬Unauthorized (.error error : Outcome p) := by
  rintro ⟨result, heq, -⟩
  cases heq

/-- Checked evidence is not rejected for lack of authorization. -/
theorem not_unauthorized_settle {nowNs : Nat} {source : PerceptionSourceContract} :
    ¬Unauthorized (s.settle config normalize nowNs (.observation o) source).2 := by
  rw [TrustBoundary.settle]
  cases hcompare : s.compare source (.observation o) with
  | same =>
    rintro ⟨result, heq, hstatus, -⟩
    rw [← Except.ok.inj heq] at hstatus
    cases hstatus
  | refused why =>
    simp only
    rw [unauthorized_reject]
    -- the comparison with the latest record refuses evidence that is not newer
    rw [TrustBoundary.compare, TrustBoundary.compareLatest] at hcompare
    split at hcompare
    · cases hcompare
    · split_ifs at hcompare
      · rw [← TrustBoundary.Comparison.refused.inj hcompare]
        exact not_lacksAuthorization (by decide)
      · rw [← TrustBoundary.Comparison.refused.inj hcompare]
        exact not_lacksAuthorization (by decide)
  | fresh =>
    rintro ⟨result, heq, hstatus, -⟩
    simp only [acceptedResult] at heq
    split at heq
    · cases heq
    · rw [Checks.require_bind_ok] at heq
      rw [← Except.ok.inj heq.2] at hstatus
      cases hstatus

/-- Evidence that qualifies is no entity. -/
theorem Qualified.not_entity (h : Qualified config kind o) (entity : EnvironmentEntityObservation) :
    o ≠ .environmentEntity entity := by
  rintro rfl
  cases kind with
  | evaluatedVisual =>
    obtain ⟨interpretation, heq, -⟩ := h
    cases heq
  | rgbdFusion =>
    obtain ⟨pair, heq, -⟩ := h
    cases heq
  | _ => cases h.1

/-- Evidence that qualifies is rebuilt unchanged. -/
theorem Qualified.rebuild_eq (h : Qualified config kind o) :
    rebuildEvidence normalize (.observation o) = .ok (.observation o) := by
  cases o with
  | imu imu =>
    cases kind with
    | evaluatedVisual =>
      obtain ⟨interpretation, heq, -⟩ := h
      cases heq
    | rgbdFusion =>
      obtain ⟨pair, heq, -⟩ := h
      cases heq
    | _ => cases h.1
  | _ => rfl

/-- The source of evidence has its provenance. -/
theorem mem_matchingSources {evidence : Evidence p} {source : PerceptionSourceContract}
    (h : source ∈ matchingSources config evidence) :
    source ∈ config.sources ∧ source.provenance = evidence.provenance := by
  unfold matchingSources at h
  split at h
  · rw [List.mem_filter, decide_eq_true_eq] at h
    exact ⟨h.1, h.2.2⟩
  · cases h
  · cases h
  · rw [List.mem_filter, decide_eq_true_eq] at h
    exact ⟨h.1, h.2.2⟩

/-- Evidence of a known source has the configured clock. -/
theorem clock_of_source {evidence : Evidence p} {source : PerceptionSourceContract}
    (h : sourceFor config evidence = some source) :
    evidence.provenance.clock = config.sourceClock := by
  have hmem : source ∈ matchingSources config evidence := by
    rw [sourceFor] at h
    split at h
    · rename_i other hmatching
      rw [hmatching, Option.some.inj h]
      exact List.mem_singleton_self _
    · cases h
  obtain ⟨hsource, hprovenance⟩ := mem_matchingSources hmem
  rw [← hprovenance]
  exact config.clock_eq source hsource

/-- Evidence of a known source is rejected for lack of authorization when its checks miss it. -/
theorem unauthorized_admitFrom {nowNs : Nat} {source : PerceptionSourceContract} :
    Unauthorized (s.admitFrom config normalize nowNs (.observation o) source).2 ↔
      Stage.Refuses LacksAuthorization (checkAgainst config nowNs (.observation o) source) s := by
  rw [TrustBoundary.admitFrom, Stage.Refuses]
  cases hchecked : checkAgainst config nowNs (.observation o) source s with
  | mk checked why =>
    cases why with
    | some why =>
      simp only [unauthorized_reject, Option.some.injEq, exists_eq_left']
    | none =>
      refine iff_of_false not_unauthorized_settle ?_
      rintro ⟨why, heq, -⟩
      cases heq

/-- Evidence whose times are in order is rejected for lack of authorization when it is asked for and
missing. -/
theorem unauthorized_admitTimely {nowNs : Nat} (h : Qualified config kind o) :
    Unauthorized (s.admitTimely config normalize nowNs (.observation o)).2 ↔
      o.robotId.text = config.robotId ∧ sourceFor config (.observation o) ≠ none ∧
        Reviewed config o ∧ s.authorization kind o.observationId ≠ some o := by
  rw [TrustBoundary.admitTimely]
  by_cases hrobot : (Evidence.observation o).robotId.text = config.robotId
  · rw [if_neg (not_not.mpr hrobot)]
    cases hsource : sourceFor config (.observation o) with
    | none =>
      refine iff_of_false ?_ fun hall => hall.2.1 rfl
      by_cases hdomain : (Evidence.observation o).provenance.clock = config.sourceClock
      · rw [if_neg (not_not.mpr hdomain)]
        simp only
        rw [unauthorized_reject, refusal, sourceReason]
        split
        · exact not_lacksAuthorization (by decide)
        · simp only
          split_ifs
          all_goals exact not_lacksAuthorization (by decide)
      · rw [if_pos hdomain, unauthorized_reject]
        exact not_lacksAuthorization (by decide)
    | some source =>
      rw [if_neg (not_not.mpr (clock_of_source hsource))]
      simp only
      rw [unauthorized_admitFrom, refuses_against h]
      have hknown : (some source : Option PerceptionSourceContract) ≠ none :=
        Option.some_ne_none source
      exact ⟨fun hmissing => ⟨hrobot, hknown, hmissing⟩, fun hall => hall.2.2⟩
  · rw [if_pos hrobot, unauthorized_reject]
    exact iff_of_false (not_lacksAuthorization (by decide)) fun hall => hrobot hall.1

/-- The admission of evidence that qualifies is rejected for lack of authorization exactly when it
asks for the authorization and does not find it. -/
theorem unauthorized_admission {nowNs receiptNs : Int} (h : Qualified config kind o) :
    Unauthorized (s.admitEvidence config normalize (.observation o) nowNs receiptNs).2 ↔
      Asked config s o nowNs receiptNs ∧ s.authorization kind o.observationId ≠ some o := by
  have hrebuilt : s.admitEvidence config normalize (.observation o) nowNs receiptNs =
      s.admitRebuilt config normalize nowNs receiptNs (.observation o) := by
    rw [TrustBoundary.admitEvidence, h.rebuild_eq]
    split
    · rename_i heq
      cases heq
    · rename_i entity heq
      exact absurd (Evidence.observation.inj (Except.ok.inj heq)) (h.not_entity entity)
    · rename_i heq
      rw [← Except.ok.inj heq]
  rw [hrebuilt, TrustBoundary.admitRebuilt]
  cases hnow : validateTime nowNs "source now" with
  | error error =>
    refine iff_of_false not_unauthorized_error fun hall => ?_
    have htime : validateTime nowNs "source now" = .ok nowNs.toNat :=
      validateTime_ok.mpr ⟨hall.1.times.1, rfl⟩
    rw [hnow] at htime
    cases htime
  | ok now =>
    obtain ⟨htime, rfl⟩ := validateTime_ok.mp hnow
    simp only
    cases hreceipt : validateTime receiptNs "monotonic receipt" with
    | error error =>
      refine iff_of_false not_unauthorized_error fun hall => ?_
      have htime' : validateTime receiptNs "monotonic receipt" = .ok receiptNs.toNat :=
        validateTime_ok.mpr ⟨hall.1.times.2, rfl⟩
      rw [hreceipt] at htime'
      cases htime'
    | ok receipt =>
      obtain ⟨htime', rfl⟩ := validateTime_ok.mp hreceipt
      simp only [TrustBoundary.admitAt]
      by_cases hclock : ∃ last ∈ s.lastNowNs, nowNs.toNat < last
      · rw [if_pos hclock]
        exact iff_of_false not_unauthorized_error fun hall => hall.1.clock hclock
      · rw [if_neg hclock]
        by_cases hlast : ∃ last ∈ s.lastReceiptMonotonicNs, receiptNs.toNat < last
        · rw [if_pos hlast, unauthorized_reject]
          exact iff_of_false (not_lacksAuthorization (by decide)) fun hall => hall.1.receipt hlast
        · rw [if_neg hlast, unauthorized_admitTimely h]
          constructor
          · rintro ⟨hrobot, hsource, hreviewed, hmissing⟩
            exact ⟨⟨⟨htime, htime'⟩, hclock, hlast, hrobot, hsource, hreviewed⟩, hmissing⟩
          · rintro ⟨hasked, hmissing⟩
            exact ⟨hasked.robot, hasked.source, hasked.reviewed, hmissing⟩

end Admitting

section Runs

variable {config : PerceptionTrustConfig} {normalize : Quaternion → Option Quaternion}
  {s : TrustBoundary p} {call : BoundaryCall p} {o : Observation p}

/-- An admission right after its authorization is rejected for lack of it exactly when it asks for
the authorization and it does not remain. -/
theorem unauthorized_issued (h : Issues ⟨call, (perform config normalize s call).2⟩ o)
    {nowNs receiptNs : Int} :
    Unauthorized ((perform config normalize s call).1.admitEvidence config normalize
        (.observation o) nowNs receiptNs).2 ↔
      Asked config s o nowNs receiptNs ∧ ¬Remains s call o := by
  obtain ⟨hnow, hreceipt, kind, hqualified, hkept⟩ := granted_of_issues h
  have hasked : Asked config (perform config normalize s call).1 o nowNs receiptNs ↔
      Asked config s o nowNs receiptNs := by
    constructor
    · intro hasked
      exact ⟨hasked.times, hnow ▸ hasked.clock, hreceipt ▸ hasked.receipt, hasked.robot,
        hasked.source, hasked.reviewed⟩
    · intro hasked
      exact ⟨hasked.times, hnow ▸ hasked.clock, hreceipt ▸ hasked.receipt, hasked.robot,
        hasked.source, hasked.reviewed⟩
  rw [unauthorized_admission hqualified, hasked, ne_eq, hkept]

/-- The authorizations of a run take effect exactly when each of them that is asked for at once is
among the latest of its kind that are kept. -/
theorem effective_iff (config : PerceptionTrustConfig)
    (normalize : Quaternion → Option Quaternion) (calls : List (BoundaryCall p)) :
    Effective config normalize calls ↔
      ∀ done call rest, calls = done ++ call :: rest →
        ∀ o, Issues ⟨call, (perform config normalize (stateAfter config normalize done) call).2⟩ o →
          ∀ nowNs receiptNs, Asked config (stateAfter config normalize done) o nowNs receiptNs →
            Remains (stateAfter config normalize done) call o := by
  constructor
  · intro heffective done call rest hcalls o hissues nowNs receiptNs hasked
    by_contra hlost
    exact heffective done call rest hcalls o hissues nowNs receiptNs
      ((unauthorized_issued hissues).mpr ⟨hasked, hlost⟩)
  · intro hremains done call rest hcalls o hissues nowNs receiptNs hrejected
    obtain ⟨hasked, hlost⟩ := (unauthorized_issued hissues).mp hrejected
    exact hlost (hremains done call rest hcalls o hissues nowNs receiptNs hasked)

end Runs

section Crowding

/-- A depth frame of one pixel, acquired after the first one. -/
def laterDepthFrame (k : Nat) : DepthFrameObservation :=
  { depthFrame with
    observedAtNs := k % 100 + 2
    bounded := by
      rw [maxObservationTimeNs]
      omega }

/-- The depth camera is available then. -/
def laterDepthHealth (k : Nat) : SensorHealthObservation :=
  { depthHealth with
    observedAtNs := k % 100 + 2
    bounded := by
      rw [maxObservationTimeNs]
      omega }

/-- The text of a later depth frame. -/
def laterDepthText (k : Nat) : PyStr :=
  (Observation.depthFrame (laterDepthFrame k) : Observation Platform.ascii).text

/-- The text of a later health fact. -/
def laterHealthText (k : Nat) : PyStr :=
  (Observation.sensorHealth (laterDepthHealth k) : Observation Platform.ascii).text

/-- The texts of the observations that are authorized. -/
def authorizedTexts : List PyStr :=
  depthText :: healthText ::
    ((List.range 32).map laterDepthText ++ (List.range 32).map laterHealthText)

/-- A platform on which their digests differ. -/
def authorizedPlatform : Platform := .indexed authorizedTexts

/-- The texts of the observations have one digest each. -/
theorem authorizedTexts_collisionFree : CollisionFree authorizedPlatform authorizedTexts := by
  intro a ha b hb hdigest
  have hfew : authorizedTexts.length ≤ 16 ^ 64 := by
    rw [authorizedTexts, List.length_cons, List.length_cons, List.length_append, List.length_map,
      List.length_map, List.length_range]
    decide
  exact Platform.indexed_injective hfew ha hb hdigest

/-- The observations of the run: depth frames and health facts. -/
inductive Authorized : Observation authorizedPlatform → Nat → Prop where
  /-- The first frame. -/
  | frame : Authorized (.depthFrame depthFrame) 1
  /-- Its health fact. -/
  | health : Authorized (.sensorHealth depthHealth) 1
  | laterFrame (k : Nat) (hk : k < 32) : Authorized (.depthFrame (laterDepthFrame k)) (k + 2)
  /-- A later health fact. -/
  | laterHealth (k : Nat) (hk : k < 32) : Authorized (.sensorHealth (laterDepthHealth k)) (k + 2)

/-- Their times. -/
theorem Authorized.time {o : Observation authorizedPlatform} {time : Nat} (h : Authorized o time) :
    o.observedAtNs = time := by
  cases h with
  | frame => rfl
  | health => rfl
  | laterFrame k hk =>
    change k % 100 + 2 = k + 2
    omega
  | laterHealth k hk =>
    change k % 100 + 2 = k + 2
    omega

/-- The text of a health fact is the same on every platform. -/
theorem sensorHealth_text (p q : Platform) (health : SensorHealthObservation) :
    (Observation.sensorHealth health : Observation p).text =
      (Observation.sensorHealth health : Observation q).text := rfl

/-- Their texts are listed. -/
theorem Authorized.text_mem {o : Observation authorizedPlatform} {time : Nat}
    (h : Authorized o time) : o.text ∈ authorizedTexts := by
  cases h with
  | frame =>
    rw [depthFrame_text authorizedPlatform .ascii, ← depthText]
    exact List.mem_cons_self
  | health =>
    rw [sensorHealth_text authorizedPlatform .ascii, ← healthText]
    exact List.mem_cons_of_mem _ List.mem_cons_self
  | laterFrame k hk =>
    rw [depthFrame_text authorizedPlatform .ascii, ← laterDepthText]
    exact List.mem_cons_of_mem _ (List.mem_cons_of_mem _ (List.mem_append_left _
      (List.mem_map_of_mem (List.mem_range.mpr hk))))
  | laterHealth k hk =>
    rw [sensorHealth_text authorizedPlatform .ascii, ← laterHealthText]
    exact List.mem_cons_of_mem _ (List.mem_cons_of_mem _ (List.mem_append_right _
      (List.mem_map_of_mem (List.mem_range.mpr hk))))

/-- They are sensed. -/
theorem Authorized.sensed {o : Observation authorizedPlatform} {time : Nat}
    (h : Authorized o time) : o.Sensed := by
  cases h <;> exact trivial

/-- One identity means one record. -/
theorem Authorized.sameRecord {a b : Observation authorizedPlatform} {m n : Nat}
    (ha : Authorized a m) (hb : Authorized b n) (h : a.observationId = b.observationId) :
    SameRecord a b := by
  rw [Observation.observationId_eq, Observation.observationId_eq, TaggedDigest.mk.injEq] at h
  exact sameRecord_of_text ha.sensed hb.sensed
    (authorizedTexts_collisionFree.text_eq ha.text_mem hb.text_mem h)

/-- Observations of other times have other identities. -/
theorem Authorized.id_ne {a b : Observation authorizedPlatform} {m n : Nat}
    (ha : Authorized a m) (hb : Authorized b n) (h : m ≠ n) :
    a.observationId ≠ b.observationId := by
  intro hid
  have htime := (ha.sameRecord hb hid).observedAtNs
  rw [ha.time, hb.time] at htime
  exact h htime

/-- A frame and a health fact have identities of their own. -/
theorem Authorized.kind_ne {frame : DepthFrameObservation} {health : SensorHealthObservation}
    {m n : Nat} (ha : Authorized (.depthFrame frame) m) (hb : Authorized (.sensorHealth health) n) :
    (Observation.depthFrame frame : Observation authorizedPlatform).observationId ≠
      (Observation.sensorHealth health : Observation authorizedPlatform).observationId := by
  intro hid
  cases (ha.sameRecord hb hid).kind

/-- The sealed frame and health fact of a later time. -/
def laterAdmission (k : Nat) : DepthCameraAdmission :=
  ⟨laterDepthFrame k, laterDepthHealth k, depthRequirement⟩

/-- They are sealed under the requirement. -/
theorem later_sealed (k : Nat) : Sealed fixtureConfig
    (depthCameraRequirement (p := authorizedPlatform) fixtureConfig
      (.depthFrame (laterDepthFrame k)))
    (laterAdmission k).requirement (·.MatchesUnsealed (laterAdmission k).frame)
    (.depthFrame (laterDepthFrame k) : Observation authorizedPlatform)
    (laterAdmission k).health := by
  have hfound : depthCameraRequirement (p := authorizedPlatform) fixtureConfig
      (.depthFrame depthFrame) = some depthRequirement := by
    decide
  have hsource : sourceFor (p := authorizedPlatform) fixtureConfig
      (.observation (.depthFrame depthFrame)) ≠ none := by
    decide
  exact ⟨⟨depthRequirement, hfound, rfl, rfl, rfl, rfl, rfl, rfl, rfl⟩, hsource, rfl, rfl, rfl, rfl⟩

/-- The boundary was given the later pairs of a number and holds all of their authorizations. -/
structure Crowded (n : Nat) (s : TrustBoundary authorizedPlatform) : Prop where
  /-- The source clock has not started. -/
  now : s.lastNowNs = none
  /-- Nothing was received. -/
  receipt : s.lastReceiptMonotonicNs = none
  /-- Both authorizations of every pair are there. -/
  size : s.depthCameraAuthorizations.size = 2 * n
  /-- They are of the later times. -/
  later : ∀ id o, s.depthCameraAuthorizations.get? id = some o →
    ∃ time, Authorized o time ∧ id = o.observationId ∧ 2 ≤ time ∧ time < n + 2

/-- An observation of another time is not stored yet. -/
theorem Crowded.not_mem {n time : Nat} {s : TrustBoundary authorizedPlatform} (h : Crowded n s)
    {o : Observation authorizedPlatform} (ho : Authorized o time) (htime : time < 2 ∨ n + 2 ≤ time) :
    o.observationId ∉ s.depthCameraAuthorizations.keys := by
  intro hmem
  obtain ⟨stored, hstored⟩ := PyDict.mem_keys.mp hmem
  obtain ⟨other, hother, hid, hlow, hhigh⟩ := h.later _ _ hstored
  exact ho.id_ne hother (by omega) hid

/-- The authorizations of the next pair are added as long as there is room. -/
theorem Crowded.add {n : Nat} {s : TrustBoundary authorizedPlatform} (h : Crowded n s)
    (hn : n < 32) :
    Crowded (n + 1)
      (perform fixtureConfig some s (.authorizeDepthCamera (laterAdmission n))).1 := by
  have hframe : Authorized (.depthFrame (laterDepthFrame n)) (n + 2) := .laterFrame n hn
  have hhealth : Authorized (.sensorHealth (laterDepthHealth n)) (n + 2) := .laterHealth n hn
  have hfirst := h.not_mem hframe (Or.inr le_rfl)
  have hsecond : (Observation.sensorHealth (laterDepthHealth n) :
      Observation authorizedPlatform).observationId ∉
      (s.depthCameraAuthorizations.set (Observation.depthFrame (laterDepthFrame n) :
        Observation authorizedPlatform).observationId (.depthFrame (laterDepthFrame n))).keys := by
    rw [PyDict.mem_keys_set, not_or]
    exact ⟨fun heq => hframe.kind_ne hhealth heq.symm, h.not_mem hhealth (Or.inr le_rfl)⟩
  have hsize := PyDict.size_set_of_not_mem hfirst (.depthFrame (laterDepthFrame n))
  have hsize' := PyDict.size_set_of_not_mem hsecond (.sensorHealth (laterDepthHealth n))
  have hbefore := h.size
  have hstored : (perform fixtureConfig some s (.authorizeDepthCamera (laterAdmission n))).1 =
      { s with
        depthCameraAuthorizations := authorizeBoth (.depthFrame (laterDepthFrame n))
          (.sensorHealth (laterDepthHealth n)) s.depthCameraAuthorizations } := by
    rw [perform, Prod.map_fst, id, TrustBoundary.authorizeDepthCamera]
    exact congrArg Prod.fst (if_pos (later_sealed n))
  have hkept : authorizeBoth (.depthFrame (laterDepthFrame n))
      (.sensorHealth (laterDepthHealth n)) s.depthCameraAuthorizations =
      storedBoth (.depthFrame (laterDepthFrame n)) (.sensorHealth (laterDepthHealth n))
        s.depthCameraAuthorizations := by
    refine PyDict.trim_eq_self ?_
    rw [hsize', hsize, hbefore, maxVisualSourceReferences]
    omega
  rw [hstored, hkept]
  refine ⟨h.now, h.receipt, ?_, ?_⟩
  · simp only [storedBoth]
    omega
  · intro id o ho
    simp only [storedBoth, PyDict.get?_set] at ho
    by_cases hid : id = (Observation.sensorHealth (laterDepthHealth n) :
        Observation authorizedPlatform).observationId
    · rw [if_pos hid, Option.some.injEq] at ho
      subst ho
      exact ⟨n + 2, hhealth, hid, by omega, by omega⟩
    · rw [if_neg hid] at ho
      by_cases hid' : id = (Observation.depthFrame (laterDepthFrame n) :
          Observation authorizedPlatform).observationId
      · rw [if_pos hid', Option.some.injEq] at ho
        subst ho
        exact ⟨n + 2, hframe, hid', by omega, by omega⟩
      · rw [if_neg hid'] at ho
        obtain ⟨time, hauthorized, heq, hlow, hhigh⟩ := h.later id o ho
        exact ⟨time, hauthorized, heq, hlow, by omega⟩

/-- In a full boundary the authorizations of the first pair go at once. -/
theorem Crowded.not_remains {s : TrustBoundary authorizedPlatform} (h : Crowded 32 s) :
    ¬Remains s (.authorizeDepthCamera depthAdmission) (.depthFrame depthFrame) := by
  rintro ⟨-, hfew⟩
  have hstored : ∀ id o, s.depthCameraAuthorizations.get? id = some o →
      (storedBoth (.depthFrame depthFrame) (.sensorHealth depthHealth)
        s.depthCameraAuthorizations).get? id = some o := by
    intro id o ho
    have hmem : id ∈ s.depthCameraAuthorizations.keys := PyDict.mem_keys.mpr ⟨o, ho⟩
    have hframe : id ≠ (Observation.depthFrame depthFrame :
        Observation authorizedPlatform).observationId := fun heq =>
      h.not_mem .frame (Or.inl (by omega)) (heq ▸ hmem)
    have hhealth : id ≠ (Observation.sensorHealth depthHealth :
        Observation authorizedPlatform).observationId := fun heq =>
      h.not_mem .health (Or.inl (by omega)) (heq ▸ hmem)
    rw [storedBoth, PyDict.get?_set_of_ne hhealth, PyDict.get?_set_of_ne hframe, ho]
  -- all the authorizations that were there rank above
  have hsub : s.depthCameraAuthorizations.keys ⊆
      ((storedBoth (.depthFrame depthFrame) (.sensorHealth depthHealth)
        s.depthCameraAuthorizations).keep fun id o =>
          evictionRank (Observation.depthFrame depthFrame :
            Observation authorizedPlatform).observedAtNs
            (Observation.depthFrame depthFrame : Observation authorizedPlatform).observationId <
          evictionRank o.observedAtNs id).keys := by
    intro id hid
    obtain ⟨o, ho⟩ := PyDict.mem_keys.mp hid
    obtain ⟨time, hauthorized, -, hlow, -⟩ := h.later id o ho
    refine PyDict.mem_keys.mpr ⟨o, PyDict.get?_keep_eq_some.mpr ⟨hstored id o ho, ?_⟩⟩
    have htime := hauthorized.time
    have hfirst : (Observation.depthFrame depthFrame :
        Observation authorizedPlatform).observedAtNs = 1 := Authorized.frame.time
    refine Prod.Lex.lt_iff.mpr (Or.inl ?_)
    change (Observation.depthFrame depthFrame : Observation authorizedPlatform).observedAtNs <
      o.observedAtNs
    omega
  have hnodup : s.depthCameraAuthorizations.keys.Nodup := s.depthCameraAuthorizations.nodup
  have hlength := (List.subperm_of_subset hnodup hsub).length_le
  have hsize := h.size
  rw [PyDict.length_keys, PyDict.length_keys] at hlength
  have hless : s.depthCameraAuthorizations.size < maxVisualSourceReferences := hlength.trans_lt hfew
  rw [maxVisualSourceReferences] at hless
  omega

/-- The later pairs are authorized. -/
def crowdedCalls (n : Nat) : List (BoundaryCall authorizedPlatform) :=
  (List.range n).map fun k => .authorizeDepthCamera (laterAdmission k)

/-- The boundary fills up with their authorizations. -/
theorem crowded_crowdedCalls {n : Nat} (hn : n ≤ 32) :
    Crowded n (stateAfter fixtureConfig some (crowdedCalls n)) := by
  induction n with
  | zero =>
    refine ⟨rfl, rfl, rfl, fun id o ho => ?_⟩
    cases ho
  | succ n ih =>
    have hcalls : crowdedCalls (n + 1) =
        crowdedCalls n ++ [.authorizeDepthCamera (laterAdmission n)] := by
      rw [crowdedCalls, crowdedCalls, List.range_succ, List.map_append]
      rfl
    rw [hcalls, stateAfter_append]
    exact (ih (by omega)).add (by omega)

/-- An older pair is authorized while the later ones fill the boundary: the call grants its
authorizations, and the admission that follows is rejected for lack of them. -/
theorem not_effective_crowdedCalls : ¬Effective fixtureConfig some
    (crowdedCalls 32 ++ [.authorizeDepthCamera depthAdmission]) := by
  intro heffective
  have hcrowded := crowded_crowdedCalls (n := 32) le_rfl
  have hsealed : Sealed fixtureConfig
      (depthCameraRequirement (p := authorizedPlatform) fixtureConfig (.depthFrame depthFrame))
      depthAdmission.requirement (·.MatchesUnsealed depthAdmission.frame)
      (.depthFrame depthFrame : Observation authorizedPlatform) depthAdmission.health := by
    decide
  have hgranted : (perform fixtureConfig some (stateAfter fixtureConfig some (crowdedCalls 32))
      (.authorizeDepthCamera depthAdmission)).2 = .authorized true := by
    rw [perform, Prod.map_snd, TrustBoundary.authorizeDepthCamera]
    exact congrArg BoundaryReply.authorized (congrArg Prod.snd (if_pos hsealed))
  have hissues : Issues ⟨.authorizeDepthCamera depthAdmission,
      (perform fixtureConfig some (stateAfter fixtureConfig some (crowdedCalls 32))
        (.authorizeDepthCamera depthAdmission)).2⟩
      (.depthFrame depthFrame : Observation authorizedPlatform) := by
    rw [Issues, hgranted]
    exact List.mem_cons_self
  have hasked : Asked fixtureConfig (stateAfter fixtureConfig some (crowdedCalls 32))
      (.depthFrame depthFrame : Observation authorizedPlatform) (1 : Nat) (1 : Nat) := by
    refine ⟨by rw [IsTime, maxObservationTimeNs]; omega, ?_, ?_, rfl, hsealed.2.1, ?_⟩
    · rw [hcrowded.now]
      rintro ⟨last, hlast, -⟩
      cases hlast
    · rw [hcrowded.receipt]
      rintro ⟨last, hlast, -⟩
      cases hlast
    · intro interpretation heq
      cases heq
  exact heffective (crowdedCalls 32) (.authorizeDepthCamera depthAdmission) [] rfl _ hissues _ _
    ((unauthorized_issued hissues).mpr ⟨hasked, hcrowded.not_remains⟩)

end Crowding

end Perception
end AyyoHumanoid
