import AyyoHumanoid.PerceptionModels
import AyyoHumanoid.PyDict

/-!
# State of the perception boundary

The boundary keeps the latest record of every source key, the admitted frames
that later evidence may refer to, the admitted interpretations and semantic
observations, and the authorizations that were not used yet. Frames and
interpretations are evicted by age and by capacity, and what depends on them
goes with them.
-/

namespace AyyoHumanoid
namespace Perception

open PyText JsonText World Rgbd

/-- `MAX_SEMANTIC_ADMISSIONS`. -/
def maxSemanticAdmissions : Nat := 64

/-- `MAX_SEMANTIC_SOURCE_INTERPRETATIONS`. -/
def maxSemanticSourceInterpretations : Nat := 64

/-- `PerceptionTrustBoundary`. -/
structure TrustBoundary (p : Platform) where
  lastByKey : PyDict (PyStr × PyStr) (Nat × ObservationId)
  lastNowNs : Option Nat
  lastReceiptMonotonicNs : Option Nat
  acceptedCount : Nat
  duplicateCount : Nat
  rejectedCount : Nat
  visualSources : PyDict ObservationId VisualFrameObservation
  evaluatedVisualAuthorizations : PyDict ObservationId (VisualInterpretationObservation p)
  physicalCameraAuthorizations : PyDict ObservationId (Observation p)
  audioAuthorizations : PyDict ObservationId (Observation p)
  depthCameraAuthorizations : PyDict ObservationId (Observation p)
  depthSources : PyDict ObservationId DepthFrameObservation
  rgbdFusionAuthorizations : PyDict ObservationId FusedRgbdObservation
  semanticAdmissions : PyDict SemanticObservationId SemanticObservation
  visualInterpretations : PyDict ObservationId (VisualInterpretationObservation p)
  deriving DecidableEq

/-- `PerceptionTrustBoundary.__init__`, `reset`. -/
def TrustBoundary.reset {p : Platform} : TrustBoundary p where
  lastByKey := .empty
  lastNowNs := none
  lastReceiptMonotonicNs := none
  acceptedCount := 0
  duplicateCount := 0
  rejectedCount := 0
  visualSources := .empty
  evaluatedVisualAuthorizations := .empty
  physicalCameraAuthorizations := .empty
  audioAuthorizations := .empty
  depthCameraAuthorizations := .empty
  depthSources := .empty
  rgbdFusionAuthorizations := .empty
  semanticAdmissions := .empty
  visualInterpretations := .empty

/-- The order in which retained records are evicted. -/
def evictionRank (timeNs : Nat) (id : ObservationId) : Nat ×ₗ PyStr := toLex (timeNs, id.text)

section Selection

variable {p : Platform} (config : PerceptionTrustConfig)

/-- `_source_for`: the sources that agree with evidence. -/
def matchingSources : Evidence p → List PerceptionSourceContract
  | .observation (.robotState o) => config.sources.filter fun source =>
      source.sensor.kind = .jointState ∧ source.provenance = o.provenance
  | .observation (.environmentEntity _) | .observation (.semanticEvidence _) => []
  | evidence => config.sources.filter fun source =>
      some source.sensor = evidence.sensor? ∧ source.provenance = evidence.provenance

/-- `_source_for`. -/
def sourceFor (evidence : Evidence p) : Option PerceptionSourceContract :=
  match matchingSources config evidence with
  | [source] => some source
  | _ => none

/-- `_state_key`. -/
def stateKey (source : PerceptionSourceContract) : Observation p → PyStr × PyStr
  | .sensorHealth _ => (py "health:" ++ source.sensor.kind.value, source.sensor.sensorId.text)
  | .visualInterpretation o =>
    (py "visual_interpretation:" ++ source.sensor.sensorId.text, o.producer.producerId.text)
  | .fusedRgbd o => (py "rgbd_fusion", o.sensor.sensorId.text)
  | _ => (source.sensor.kind.value, source.sensor.sensorId.text)

/-- The time that orders the records of a key. -/
def orderingTime : Observation p → Nat
  | .visualInterpretation o => o.resultAtNs
  | o => o.observedAtNs

end Selection

namespace TrustBoundary

variable {p : Platform}

section Purge

/-- `_purge_visual_sources`. -/
def purgeVisualSources (config : PerceptionTrustConfig) (nowNs : Nat) (s : TrustBoundary p) :
    TrustBoundary p :=
  let cutoff : Int := (nowNs : Int) - config.retentionTtlNs
  let sources := s.visualSources.keep fun _ frame => ¬(frame.observedAtNs : Int) < cutoff
  let interpretations := s.visualInterpretations.keep fun _ observation =>
    observation.sourceVisualObservationId ∈ sources.keys
  let depthSources := s.depthSources.keep fun _ frame => cutoff ≤ (frame.observedAtNs : Int)
  { s with
    visualSources := sources
    visualInterpretations := interpretations
    semanticAdmissions := s.semanticAdmissions.keep fun _ observation =>
      observation.sourceVisualObservationId ∈ sources.keys ∧
        observation.sourceDetection.visualInterpretationObservationId ∈ interpretations.keys
    evaluatedVisualAuthorizations := s.evaluatedVisualAuthorizations.keep fun _ observation =>
      observation.sourceVisualObservationId ∈ sources.keys
    depthSources := depthSources
    rgbdFusionAuthorizations := s.rgbdFusionAuthorizations.keep fun _ observation =>
      observation.rgbObservation.observationId p ∈ sources.keys ∧
        observation.depthObservation.observationId p ∈ depthSources.keys }

end Purge

section Remember

/-- The oldest frame and what was derived from it, except fused pairs, go. -/
def evictVisualSource (s : TrustBoundary p) : TrustBoundary p :=
  match s.visualSources.least fun id frame => evictionRank frame.observedAtNs id with
  | none => s
  | some oldest => { s with
    visualSources := s.visualSources.remove oldest
    evaluatedVisualAuthorizations := s.evaluatedVisualAuthorizations.keep fun _ observation =>
      observation.sourceVisualObservationId ≠ oldest
    semanticAdmissions := s.semanticAdmissions.keep fun _ observation =>
      observation.sourceVisualObservationId ≠ oldest
    visualInterpretations := s.visualInterpretations.keep fun _ observation =>
      observation.sourceVisualObservationId ≠ oldest }

/-- `_remember_visual_source`. -/
def rememberVisualSource (frame : VisualFrameObservation) (s : TrustBoundary p) :
    TrustBoundary p :=
  let stored := { s with visualSources := s.visualSources.set (frame.observationId p) frame }
  PyDict.whileLoop (fun s => maxVisualSourceReferences < s.visualSources.size) evictVisualSource
    stored.visualSources.size stored

/-- The oldest interpretation and the semantic observations of its detections go. -/
def evictVisualInterpretation (s : TrustBoundary p) : TrustBoundary p :=
  match s.visualInterpretations.least fun id observation =>
      evictionRank observation.resultAtNs id with
  | none => s
  | some oldest => { s with
    visualInterpretations := s.visualInterpretations.remove oldest
    semanticAdmissions := s.semanticAdmissions.keep fun _ observation =>
      observation.sourceDetection.visualInterpretationObservationId ≠ oldest }

/-- `_remember_visual_interpretation`. -/
def rememberVisualInterpretation (interpretation : VisualInterpretationObservation p)
    (s : TrustBoundary p) : TrustBoundary p :=
  let stored := { s with
    visualInterpretations :=
      s.visualInterpretations.set interpretation.observationId interpretation }
  PyDict.whileLoop (fun s => maxSemanticSourceInterpretations < s.visualInterpretations.size)
    evictVisualInterpretation stored.visualInterpretations.size stored

/-- The oldest depth frame and the pairs that hold it go. -/
def evictDepthSource (s : TrustBoundary p) : TrustBoundary p :=
  match s.depthSources.least fun id frame => evictionRank frame.observedAtNs id with
  | none => s
  | some oldest => { s with
    depthSources := s.depthSources.remove oldest
    rgbdFusionAuthorizations := s.rgbdFusionAuthorizations.keep fun _ observation =>
      observation.depthObservation.observationId p ≠ oldest }

/-- `_remember_depth_source`. -/
def rememberDepthSource (frame : DepthFrameObservation) (s : TrustBoundary p) : TrustBoundary p :=
  let stored := { s with depthSources := s.depthSources.set (frame.observationId p) frame }
  PyDict.whileLoop (fun s => maxVisualSourceReferences < s.depthSources.size) evictDepthSource
    stored.depthSources.size stored

end Remember

end TrustBoundary

end Perception
end AyyoHumanoid
