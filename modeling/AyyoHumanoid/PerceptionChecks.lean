import AyyoHumanoid.PerceptionState
import AyyoHumanoid.Stages

/-!
# The checks of an admission

An admission runs one check after another and rejects at the first that fails.
Most checks only look. A check of sealed evidence takes the authorization out,
whether it agrees or not, and the check of semantic evidence first drops what
has expired.
-/

namespace AyyoHumanoid
namespace Perception

open PyText JsonText World Rgbd

/-- The reason and the detail of a rejection. -/
structure Refusal where
  reason : AdmissionReason
  detail : PyStr
  deriving DecidableEq

/-- A check of the boundary. -/
abbrev Check (p : Platform) : Type := Stage (TrustBoundary p) Refusal

/-- A refusal with its texts. -/
def refusal (reason : AdmissionReason) (detail : String) : Refusal := ⟨reason, py detail⟩

section Checks

variable {p : Platform} (config : PerceptionTrustConfig)

/-- Why no source agrees with evidence. -/
def sourceReason (evidence : Evidence p) : AdmissionReason :=
  match evidence.sensor? with
  | none => .provenanceNotAllowed
  | some sensor =>
    let matching := (config.sources.map (·.sensor)).filter (·.sensorId = sensor.sensorId)
    if matching = [] then .unknownSensor
    else if ∃ identity ∈ matching, identity.kind = sensor.kind ∧ identity.frameId ≠ sensor.frameId
    then .frameMismatch
    else .provenanceNotAllowed

/-- `authorizations.pop(observation_id, None) != rebuilt`. -/
def consume {α : Type} [DecidableEq α] (authorizations : TrustBoundary p → PyDict ObservationId α)
    (put : TrustBoundary p → PyDict ObservationId α → TrustBoundary p) (id : ObservationId)
    (rebuilt : α) (notAuthorized : Refusal) : Check p := fun s =>
  (put s ((authorizations s).remove id),
    if (authorizations s).get? id = some rebuilt then none else some notAuthorized)

/-- A requirement is found and agrees, and the authorization is taken out. -/
def checkSeal {ρ : Type} (requirement : Option ρ) (agrees : ρ → Prop) [DecidablePred agrees]
    (required mismatch : Refusal) (taken : Check p) : Check p :=
  .requiring (fun _ => requirement) required fun requirement =>
    .sequence [.refuseWhen (fun _ => ¬agrees requirement) mismatch, taken]

section Sealed

/-- Physical RGB evidence. -/
def IsPhysicalCamera : Observation p → Prop
  | .visualFrame o => o.sensor.kind = .rgbCamera ∧ o.provenance.sourceKind = .physicalSensor
  | .sensorHealth o => o.sensor.kind = .rgbCamera ∧ o.provenance.sourceKind = .physicalSensor
  | _ => False

instance : DecidablePred (IsPhysicalCamera (p := p)) := fun o => by
  unfold IsPhysicalCamera
  split <;> infer_instance

/-- Depth evidence. -/
def IsDepthCamera : Observation p → Prop
  | .depthFrame o => o.sensor.kind = .depthCamera
  | .sensorHealth o => o.sensor.kind = .depthCamera
  | _ => False

instance : DecidablePred (IsDepthCamera (p := p)) := fun o => by
  unfold IsDepthCamera
  split <;> infer_instance

/-- Audio evidence. -/
def IsAudio : Observation p → Prop
  | .audioFrame o => o.sensor.kind = .microphone
  | .sensorHealth o => o.sensor.kind = .microphone
  | _ => False

instance : DecidablePred (IsAudio (p := p)) := fun o => by
  unfold IsAudio
  split <;> infer_instance

/-- `matches_unsealed`, of a frame. -/
def AgreesPhysical (requirement : PhysicalCameraTrustRequirement) : Observation p → Prop
  | .visualFrame frame => requirement.MatchesUnsealed frame
  | _ => True

instance (requirement : PhysicalCameraTrustRequirement) :
    DecidablePred (AgreesPhysical (p := p) requirement) := fun o => by
  unfold AgreesPhysical
  split <;> infer_instance

/-- `matches_unsealed`, of a frame. -/
def AgreesDepth (requirement : DepthTrustRequirement) : Observation p → Prop
  | .depthFrame frame => requirement.MatchesUnsealed frame
  | _ => True

instance (requirement : DepthTrustRequirement) :
    DecidablePred (AgreesDepth (p := p) requirement) := fun o => by
  unfold AgreesDepth
  split <;> infer_instance

/-- `matches_unsealed`, of a frame. -/
def AgreesAudio (requirement : AudioTrustRequirement) : Observation p → Prop
  | .audioFrame frame => requirement.MatchesUnsealed frame
  | _ => True

instance (requirement : AudioTrustRequirement) :
    DecidablePred (AgreesAudio (p := p) requirement) := fun o => by
  unfold AgreesAudio
  split <;> infer_instance

/-- The requirement of a physical camera. -/
def physicalCameraRequirement (o : Observation p) : Option PhysicalCameraTrustRequirement :=
  config.physicalCameraRequirements.find? fun item =>
    some item.camera = o.sensor? ∧ item.sourceId = o.provenance.sourceId

/-- The requirement of a depth camera. -/
def depthCameraRequirement (o : Observation p) : Option DepthTrustRequirement :=
  config.depthCameraRequirements.find? fun item =>
    some item.sensor = o.sensor? ∧ item.sourceId = o.provenance.sourceId

/-- The requirement of a microphone. -/
def audioRequirement (o : Observation p) : Option AudioTrustRequirement :=
  config.audioRequirements.find? fun item =>
    some item.microphone = o.sensor? ∧ item.sourceId = o.provenance.sourceId

/-- The requirement of a fused pair. -/
def fusionRequirement (o : FusedRgbdObservation) : Option FusionRequirement :=
  config.rgbdFusionRequirements.find? fun item =>
    item.fusionSensor = o.sensor ∧ item.fusionProvenance = o.provenance

/-- Physical RGB evidence was sealed by its adapter. -/
def checkPhysicalCamera (o : Observation p) : Check p :=
  .onlyWhen (IsPhysicalCamera o) (checkSeal (physicalCameraRequirement config o)
    (fun requirement => AgreesPhysical requirement o)
    (refusal .physicalCameraRequired
      "physical RGB evidence requires an exact adapter requirement")
    (refusal .physicalCameraMismatch
      "physical frame differs from its source/calibration requirement")
    (consume (·.physicalCameraAuthorizations)
      (fun s rest => { s with physicalCameraAuthorizations := rest }) o.observationId o
      (refusal .physicalCameraNotAuthorized
        "physical evidence was not sealed by the lifecycle adapter")))

/-- Depth evidence was sealed by its adapter. -/
def checkDepthCamera (o : Observation p) : Check p :=
  .onlyWhen (IsDepthCamera o) (checkSeal (depthCameraRequirement config o)
    (fun requirement => AgreesDepth requirement o)
    (refusal .depthCameraRequired
      "depth evidence requires an exact lifecycle adapter requirement")
    (refusal .depthCameraMismatch
      "depth frame differs from its source/calibration requirement")
    (consume (·.depthCameraAuthorizations)
      (fun s rest => { s with depthCameraAuthorizations := rest }) o.observationId o
      (refusal .depthCameraNotAuthorized
        "depth evidence was not sealed by the lifecycle adapter")))

/-- Audio evidence was sealed by its adapter. -/
def checkAudio (o : Observation p) : Check p :=
  .onlyWhen (IsAudio o) (checkSeal (audioRequirement config o)
    (fun requirement => AgreesAudio requirement o)
    (refusal .audioRequired "audio evidence requires an exact lifecycle adapter requirement")
    (refusal .audioMismatch "audio frame differs from its source and format requirement")
    (consume (·.audioAuthorizations)
      (fun s rest => { s with audioAuthorizations := rest }) o.observationId o
      (refusal .audioNotAuthorized
        "audio evidence was not sealed by the lifecycle adapter")))

/-- A fused pair was sealed from admitted frames. -/
def checkFusion (o : FusedRgbdObservation) : Check p :=
  checkSeal (fusionRequirement config o) (fun requirement => requirement.MatchesFused o)
    (refusal .provenanceNotAllowed
      "fused RGB-D evidence differs from its synchronization requirement")
    (refusal .provenanceNotAllowed
      "fused RGB-D evidence differs from its synchronization requirement")
    (consume (·.rgbdFusionAuthorizations)
      (fun s rest => { s with rgbdFusionAuthorizations := rest }) (o.fingerprint p).observationId o
      (refusal .sourceFrameNotAdmitted
        "fused RGB-D evidence was not sealed from admitted components"))

end Sealed

section Interpretations

/-- The evaluation requirement of a producer. -/
def evaluationRequirement (o : VisualInterpretationObservation p) :
    Option VisualEvaluationRequirement :=
  config.visualEvaluationRequirements.find? (·.producerId = o.producer.producerId)

/-- The provenance of an evaluated result was registered, and only where it is required. -/
def checkEvaluation (o : VisualInterpretationObservation p) : Check p :=
  match o.evaluationReference with
  | none => .refuseWhen (fun _ => evaluationRequirement config o ≠ none)
      (refusal .evaluationRequired "visual producer requires evaluated provenance")
  | some reference => checkSeal (evaluationRequirement config o)
      (fun requirement => requirement.Matches p o.producer reference)
      (refusal .evaluationMismatch "visual evaluation provenance differs from the allowlist")
      (refusal .evaluationMismatch "visual evaluation provenance differs from the allowlist")
      (consume (·.evaluatedVisualAuthorizations)
        (fun s rest => { s with evaluatedVisualAuthorizations := rest }) o.observationId o
        (refusal .evaluationNotAuthorized
          "evaluated result was not registered by the evaluator"))

/-- The frame of an interpretation has its metadata. -/
def FrameAgrees (frame : VisualFrameObservation) (o : VisualInterpretationObservation p) : Prop :=
  frame.robotId = o.robotId ∧ frame.sensor = o.sensor ∧
    frame.sensor.frameId = o.referenceFrameId ∧ frame.observedAtNs = o.observedAtNs ∧
    frame.provenance = o.provenance ∧ frame.fingerprint p = o.sourceVisualFingerprint

instance (frame : VisualFrameObservation) (o : VisualInterpretationObservation p) :
    Decidable (FrameAgrees frame o) :=
  inferInstanceAs (Decidable (_ ∧ _))

/-- An interpretation has a reviewed producer, its evaluation and its frame. -/
def checkInterpretation (nowNs : Nat) (o : VisualInterpretationObservation p) : Check p :=
  .sequence [
    .requiring (fun _ => config.visualInterpretationProducers.find?
        (·.producerId = o.producer.producerId))
      (refusal .unknownProducer "visual result producer is not one exact reviewed producer")
      fun producer => .refuseWhen (fun _ => producer ≠ o.producer)
        (refusal .unknownProducer "visual result producer is not one exact reviewed producer"),
    checkEvaluation config o,
    .requiring (fun s => s.visualSources.get? o.sourceVisualObservationId)
      (refusal .sourceFrameNotAdmitted
        "visual result does not reference a retained admitted frame")
      fun frame => .refuseWhen (fun _ => ¬FrameAgrees frame o)
        (refusal .sourceFrameMismatch
          "visual result source metadata differs from its admitted frame"),
    .refuseWhen (fun _ => nowNs + config.permittedFutureSkewNs < o.resultAtNs)
      (refusal .resultTimeInvalid "processing result time is beyond permitted future skew")]

end Interpretations

section Semantics

/-- The frame of semantic evidence has its metadata. -/
def SemanticFrameAgrees (frame : VisualFrameObservation) (o : SemanticObservation) : Prop :=
  frame.robotId = o.robotId ∧ frame.sensor = o.sensor ∧
    frame.sensor.frameId = o.referenceFrameId ∧ frame.observedAtNs = o.observedAtNs ∧
    frame.provenance = o.provenance

instance (frame : VisualFrameObservation) (o : SemanticObservation) :
    Decidable (SemanticFrameAgrees frame o) :=
  inferInstanceAs (Decidable (_ ∧ _))

/-- The interpretation of semantic evidence has its metadata. -/
def InterpretationAgrees (interpretation : VisualInterpretationObservation p)
    (o : SemanticObservation) : Prop :=
  interpretation.robotId = o.robotId ∧ interpretation.sensor = o.sensor ∧
    interpretation.referenceFrameId = o.referenceFrameId ∧
    interpretation.sourceVisualObservationId = o.sourceVisualObservationId ∧
    interpretation.observedAtNs = o.observedAtNs ∧ interpretation.resultAtNs = o.resultAtNs ∧
    interpretation.provenance = o.provenance

instance (interpretation : VisualInterpretationObservation p) (o : SemanticObservation) :
    Decidable (InterpretationAgrees interpretation o) :=
  inferInstanceAs (Decidable (_ ∧ _))

/-- The category of a detection is that of the evidence. -/
def CategoryMatches (detection : VisualDetection) : SemanticContent → Prop
  | .person => detection.category = .person
  | .object category _ => detection.category = .object ∧ category = detection.label

instance (detection : VisualDetection) : DecidablePred (CategoryMatches detection) := fun content => by
  unfold CategoryMatches
  split <;> infer_instance

/-- Semantic evidence repeats its detection. -/
def DetectionAgrees (detection : VisualDetection) (o : SemanticObservation) : Prop :=
  CategoryMatches detection o.content ∧
    detection.sourceVisualObservationId = o.sourceVisualObservationId ∧
    o.region = detection.region ∧ o.confidence = detection.confidence

instance (detection : VisualDetection) (o : SemanticObservation) :
    Decidable (DetectionAgrees detection o) :=
  inferInstanceAs (Decidable (_ ∧ _))

/-- The retained frame of semantic evidence can be read and has its metadata. -/
def checkSemanticFrame (o : SemanticObservation) : Check p :=
  .requiring (fun s => s.visualSources.get? o.sourceVisualObservationId)
    (refusal .sourceFrameNotAdmitted
      "semantic evidence does not reference a retained admitted frame")
    fun frame => .sequence [
      .refuseWhen (fun _ => ¬frame.availability.Measuring)
        (refusal .sourceUnavailable "semantic evidence requires an available source frame"),
      .refuseWhen (fun _ => ¬SemanticFrameAgrees frame o)
        (refusal .sourceFrameMismatch
          "semantic evidence metadata differs from its admitted frame")]

/-- The retained interpretation of semantic evidence has its metadata and its detection. -/
def checkSemanticInterpretation (o : SemanticObservation) : Check p :=
  .requiring (fun s => s.visualInterpretations.get?
      o.sourceDetection.visualInterpretationObservationId)
    (refusal .sourceInterpretationNotAdmitted
      "semantic evidence does not reference a retained admitted interpretation")
    fun interpretation => .sequence [
      .refuseWhen (fun _ => ¬InterpretationAgrees interpretation o)
        (refusal .semanticMappingMismatch
          "semantic evidence metadata differs from its admitted interpretation"),
      .requiring (fun _ => interpretation.detections.find? fun detection =>
          detection.detectionId p = o.sourceDetection.visualDetectionId)
        (refusal .sourceDetectionNotAdmitted
          "semantic evidence does not reference a detection in its admitted interpretation")
        fun detection => .refuseWhen (fun _ => ¬DetectionAgrees detection o)
          (refusal .semanticMappingMismatch
            "semantic evidence changes its exact source detection")]

/-- Semantic evidence repeats one detection of a retained interpretation. -/
def checkSemantic (nowNs : Nat) (o : SemanticObservation) : Check p :=
  .sequence [
    fun s => (s.purgeVisualSources config nowNs, none),
    .refuseWhen (fun _ => nowNs + config.permittedFutureSkewNs < o.observedAtNs)
      (refusal .futureObservation "semantic source time is beyond permitted future skew"),
    .refuseWhen (fun _ => (o.observedAtNs : Int) < (nowNs : Int) - config.freshnessNs)
      (refusal .staleObservation "semantic evidence no longer has a fresh source frame"),
    checkSemanticFrame o,
    .refuseWhen (fun _ => nowNs + config.permittedFutureSkewNs < o.resultAtNs)
      (refusal .resultTimeInvalid "semantic result time is beyond permitted future skew"),
    checkSemanticInterpretation o]

end Semantics

section Sequence

/-- The checks that depend on the kind of an observation. -/
def checkKind (source : PerceptionSourceContract) (nowNs : Nat) : Evidence p → List (Check p)
  | .semantic o => [checkSemantic config nowNs o]
  | .observation (.fusedRgbd o) => [checkFusion config o]
  | .observation (.visualInterpretation o) => [checkInterpretation config nowNs o]
  | .observation (.audioFrame o) => [checkAudio config (.audioFrame o),
      .refuseWhen (fun _ => nowNs + config.permittedFutureSkewNs < o.resultAtNs)
        (refusal .resultTimeInvalid
          "audio processing result time is beyond permitted future skew")]
  | .observation (.bodyPose o) => [
      .refuseWhen (fun _ => some o.pose.frameId ≠ source.poseSourceFrameId ∨
          o.pose.childFrameId ≠ source.sensor.frameId)
        (refusal .frameMismatch "body pose does not match the reviewed source/target frames")]
  | .observation o =>
      [checkPhysicalCamera config o, checkDepthCamera config o, checkAudio config o]

/-- The checks against the source of evidence. -/
def checksAgainst (nowNs : Nat) (rebuilt : Evidence p) (source : PerceptionSourceContract) :
    List (Check p) :=
  checkKind config source nowNs rebuilt ++ [
    .refuseWhen (fun _ => nowNs + config.permittedFutureSkewNs < rebuilt.observedAtNs)
      (refusal .futureObservation "observation time is beyond permitted future skew"),
    .refuseWhen (fun _ => (rebuilt.observedAtNs : Int) < (nowNs : Int) - config.retentionTtlNs)
      (refusal .staleObservation "observation was already beyond retention at admission")]

/-- The checks against the source of evidence, one after another. -/
def checkAgainst (nowNs : Nat) (rebuilt : Evidence p) (source : PerceptionSourceContract) :
    Check p :=
  .sequence (checksAgainst config nowNs rebuilt source)

end Sequence

end Checks
section Passed

variable {p : Platform} {config : PerceptionTrustConfig} {s s' : TrustBoundary p}

/-- An authorization is taken out when it is exactly of the evidence. -/
theorem consume_passed {α : Type} [DecidableEq α]
    {authorizations : TrustBoundary p → PyDict ObservationId α}
    {put : TrustBoundary p → PyDict ObservationId α → TrustBoundary p} {id : ObservationId}
    {rebuilt : α} {why : Refusal} :
    consume authorizations put id rebuilt why s = (s', none) ↔
      (authorizations s).get? id = some rebuilt ∧ put s ((authorizations s).remove id) = s' := by
  rw [consume, Prod.mk.injEq, and_comm]
  by_cases h : (authorizations s).get? id = some rebuilt <;> simp [h]

/-- A check of sealed evidence passes when the requirement agrees and the authorization is taken
out. -/
theorem checkSeal_passed {ρ : Type} {requirement : Option ρ} {agrees : ρ → Prop}
    [DecidablePred agrees] {required mismatch : Refusal} {taken : Check p} :
    checkSeal requirement agrees required mismatch taken s = (s', none) ↔
      ∃ found, requirement = some found ∧ agrees found ∧ taken s = (s', none) := by
  rw [checkSeal, Stage.requiring_passed]
  refine exists_congr fun found => and_congr_right fun _ => ?_
  simp only [Stage.sequence_cons, Stage.refuseWhen_passed, Stage.sequence_nil, not_not]
  constructor
  · rintro ⟨middle, ⟨hagrees, rfl⟩, last, htaken, rfl⟩
    exact ⟨hagrees, htaken⟩
  · rintro ⟨hagrees, htaken⟩
    exact ⟨s, ⟨hagrees, rfl⟩, s', htaken, rfl⟩

/-- An interpretation that passed had its evaluation and its frame. -/
theorem checkInterpretation_passed {nowNs : Nat} {o : VisualInterpretationObservation p}
    (h : checkInterpretation config nowNs o s = (s', none)) :
    checkEvaluation config o s = (s', none) ∧
      ∃ frame, s'.visualSources.get? o.sourceVisualObservationId = some frame ∧
        FrameAgrees frame o := by
  simp only [checkInterpretation, Stage.sequence_cons, Stage.refuseWhen_passed,
    Stage.requiring_passed, Stage.sequence_nil, not_not] at h
  obtain ⟨_, ⟨producer, -, -, rfl⟩, _, hevaluation, _, ⟨frame, hframe, hagrees, rfl⟩, _,
    ⟨-, rfl⟩, rfl⟩ := h
  exact ⟨hevaluation, frame, hframe, hagrees⟩

/-- The frame of semantic evidence that passed. -/
theorem checkSemanticFrame_passed {o : SemanticObservation}
    (h : checkSemanticFrame o s = (s', none)) :
    s' = s ∧ ∃ frame, s.visualSources.get? o.sourceVisualObservationId = some frame ∧
      frame.availability.Measuring ∧ SemanticFrameAgrees frame o := by
  simp only [checkSemanticFrame, Stage.sequence_cons, Stage.refuseWhen_passed,
    Stage.requiring_passed, Stage.sequence_nil, not_not] at h
  obtain ⟨frame, hframe, _, ⟨hmeasuring, rfl⟩, _, ⟨hagrees, rfl⟩, rfl⟩ := h
  exact ⟨rfl, frame, hframe, hmeasuring, hagrees⟩

/-- Semantic evidence repeats a detection of an interpretation. -/
def RepeatsDetection (interpretation : VisualInterpretationObservation p)
    (o : SemanticObservation) : Prop :=
  InterpretationAgrees interpretation o ∧
    ∃ detection ∈ interpretation.detections.find? (fun detection =>
      detection.detectionId p = o.sourceDetection.visualDetectionId), DetectionAgrees detection o

/-- The interpretation of semantic evidence that passed. -/
theorem checkSemanticInterpretation_passed {o : SemanticObservation}
    (h : checkSemanticInterpretation o s = (s', none)) :
    s' = s ∧ ∃ interpretation, s.visualInterpretations.get?
        o.sourceDetection.visualInterpretationObservationId = some interpretation ∧
      RepeatsDetection interpretation o := by
  simp only [checkSemanticInterpretation, Stage.sequence_cons, Stage.refuseWhen_passed,
    Stage.requiring_passed, Stage.sequence_nil, not_not] at h
  obtain ⟨interpretation, hfound, _, ⟨hagrees, rfl⟩, _, ⟨detection, hdetection, hrepeats, rfl⟩,
    rfl⟩ := h
  exact ⟨rfl, interpretation, hfound, hagrees, detection, hdetection, hrepeats⟩

/-- Semantic evidence that passed found its frame and its interpretation after the purge. -/
theorem checkSemantic_passed {nowNs : Nat} {o : SemanticObservation}
    (h : checkSemantic config nowNs o s = (s', none)) :
    s' = s.purgeVisualSources config nowNs ∧
      (∃ frame, s'.visualSources.get? o.sourceVisualObservationId = some frame ∧
        frame.availability.Measuring ∧ SemanticFrameAgrees frame o) ∧
      ∃ interpretation, s'.visualInterpretations.get?
          o.sourceDetection.visualInterpretationObservationId = some interpretation ∧
        RepeatsDetection interpretation o := by
  simp only [checkSemantic, Stage.sequence_cons, Stage.refuseWhen_passed, Stage.sequence_nil,
    Prod.mk.injEq, and_true] at h
  obtain ⟨purged, rfl, _, ⟨-, rfl⟩, _, ⟨-, rfl⟩, _, hfirst, _, ⟨-, rfl⟩, _, hsecond, rfl⟩ := h
  obtain ⟨rfl, hframe⟩ := checkSemanticFrame_passed hfirst
  obtain ⟨rfl, hinterpretation⟩ := checkSemanticInterpretation_passed hsecond
  exact ⟨rfl, hframe, hinterpretation⟩

end Passed

end Perception
end AyyoHumanoid
