import AyyoHumanoid.PerceptionSteps
import Mathlib.Data.List.Induction

/-!
# Provenance of what the boundary retains

An interpretation depends on its frame, a semantic observation on both, an
evaluated authorization on its frame and a fusion authorization on its two
frames. Three of the four ways in which a frame or an interpretation goes take
all that depends on it along. The eviction of a colour frame for capacity leaves
fusion authorizations behind, and closure holds exactly as long as it never
evicts a component of one.
-/

namespace AyyoHumanoid
namespace Perception

open PyText JsonText World Rgbd

variable {p : Platform}

/-- Everything that depends on a frame or an interpretation is retained together with it. -/
structure Closed (s : TrustBoundary p) : Prop where
  /-- Every interpretation has its frame. -/
  interpretations : ∀ id o, s.visualInterpretations.get? id = some o →
    o.sourceVisualObservationId ∈ s.visualSources.keys
  /-- Every semantic observation has its frame and its interpretation. -/
  semantics : ∀ id o, s.semanticAdmissions.get? id = some o →
    o.sourceVisualObservationId ∈ s.visualSources.keys ∧
      o.sourceDetection.visualInterpretationObservationId ∈ s.visualInterpretations.keys
  /-- Every evaluated authorization has its frame. -/
  evaluated : ∀ id o, s.evaluatedVisualAuthorizations.get? id = some o →
    o.sourceVisualObservationId ∈ s.visualSources.keys
  /-- Every fusion authorization has its two frames. -/
  fusion : ∀ id o, s.rgbdFusionAuthorizations.get? id = some o →
    o.rgbObservation.observationId p ∈ s.visualSources.keys ∧
      o.depthObservation.observationId p ∈ s.depthSources.keys

/-- A semantic observation and its interpretation are of one frame. -/
def OneFrame (s : TrustBoundary p) : Prop :=
  ∀ id o, s.semanticAdmissions.get? id = some o → ∀ interpretation,
    s.visualInterpretations.get? o.sourceDetection.visualInterpretationObservationId =
        some interpretation →
      interpretation.sourceVisualObservationId = o.sourceVisualObservationId

/-- What a run keeps besides closure, given which interpretations are offered in it. -/
structure Linked (offered : VisualInterpretationObservation p → Prop) (s : TrustBoundary p) :
    Prop where
  /-- Semantic observations and their interpretations are of one frame. -/
  source_eq : OneFrame s
  /-- Interpretations are stored under their identities and were offered. -/
  stored : ∀ id o, s.visualInterpretations.get? id = some o → id = o.observationId ∧ offered o
  /-- There are not too many frames. -/
  few : s.visualSources.size ≤ maxVisualSourceReferences

/-- Closed and linked. -/
structure Kept (offered : VisualInterpretationObservation p → Prop) (s : TrustBoundary p) :
    Prop where
  /-- Nothing depends on what is not retained. -/
  closed : Closed s
  /-- What a run keeps besides. -/
  linked : Linked offered s

section Dropping

variable {config : PerceptionTrustConfig} {offered : VisualInterpretationObservation p → Prop}
  {s s' : TrustBoundary p}

/-- The counts are not retained evidence. -/
theorem Kept.tally (h : Kept offered s) (htallied : Tallied s s') : Kept offered s' := by
  obtain ⟨_, _, _, _, _, rfl⟩ := htallied
  exact ⟨⟨h.closed.interpretations, h.closed.semantics, h.closed.evaluated, h.closed.fusion⟩,
    ⟨h.linked.source_eq, h.linked.stored, h.linked.few⟩⟩

/-- Nor do they make evidence depend on them. -/
theorem Closed.untally (h : Closed s') (htallied : Tallied s s') : Closed s := by
  obtain ⟨_, _, _, _, _, rfl⟩ := htallied
  exact ⟨h.interpretations, h.semantics, h.evaluated, h.fusion⟩

/-- What has expired goes with all that depends on it. -/
theorem Kept.purge (config : PerceptionTrustConfig) (nowNs : Nat) (h : Kept offered s) :
    Kept offered (s.purgeVisualSources config nowNs) where
  closed := {
    interpretations := fun _ _ ho => (PyDict.get?_keep_eq_some.mp ho).2
    semantics := fun _ _ ho => (PyDict.get?_keep_eq_some.mp ho).2
    evaluated := fun _ _ ho => (PyDict.get?_keep_eq_some.mp ho).2
    fusion := fun _ _ ho => (PyDict.get?_keep_eq_some.mp ho).2 }
  linked := {
    source_eq := fun id o ho interpretation hinterpretation =>
      h.linked.source_eq id o (PyDict.get?_keep_eq_some.mp ho).1 interpretation
        (PyDict.get?_keep_eq_some.mp hinterpretation).1
    stored := fun id o ho => h.linked.stored id o (PyDict.get?_keep_eq_some.mp ho).1
    few := (PyDict.size_keep_le _ _).trans h.linked.few }

/-- Authorizations of adapters are not retained evidence. -/
theorem Kept.congr (h : Kept offered s) (hsources : s'.visualSources = s.visualSources)
    (hinterpretations : s'.visualInterpretations = s.visualInterpretations)
    (hsemantics : s'.semanticAdmissions = s.semanticAdmissions)
    (hdepth : s'.depthSources = s.depthSources)
    (hevaluated : ∀ id o, s'.evaluatedVisualAuthorizations.get? id = some o →
      o.sourceVisualObservationId ∈ s.visualSources.keys)
    (hfusion : ∀ id o, s'.rgbdFusionAuthorizations.get? id = some o →
      o.rgbObservation.observationId p ∈ s.visualSources.keys ∧
        o.depthObservation.observationId p ∈ s.depthSources.keys) : Kept offered s' := by
  refine ⟨⟨?_, ?_, ?_, ?_⟩, ⟨?_, ?_, ?_⟩⟩
  · rw [hsources, hinterpretations]
    exact h.closed.interpretations
  · rw [hsources, hinterpretations, hsemantics]
    exact h.closed.semantics
  · rw [hsources]
    exact hevaluated
  · rw [hsources, hdepth]
    exact hfusion
  · rw [OneFrame, hinterpretations, hsemantics]
    exact h.linked.source_eq
  · rw [hinterpretations]
    exact h.linked.stored
  · rw [hsources]
    exact h.linked.few

/-- The checks keep closure. -/
theorem checkRelation_kept (config : PerceptionTrustConfig)
    (offered : VisualInterpretationObservation p → Prop) :
    CheckRelation config fun s s' : TrustBoundary p => Kept offered s → Kept offered s' where
  refl := fun _ h => h
  trans := fun hab hbc ha => hbc (hab ha)
  purge := fun nowNs _ h => h.purge config nowNs
  physical := fun _ _ h => h.congr rfl rfl rfl rfl h.closed.evaluated h.closed.fusion
  depth := fun _ _ h => h.congr rfl rfl rfl rfl h.closed.evaluated h.closed.fusion
  audio := fun _ _ h => h.congr rfl rfl rfl rfl h.closed.evaluated h.closed.fusion
  fusion := fun _ _ h => h.congr rfl rfl rfl rfl h.closed.evaluated fun id o ho =>
    h.closed.fusion id o (PyDict.get?_remove_eq_some.mp ho).1
  evaluated := fun _ _ h => h.congr rfl rfl rfl rfl
    (fun id o ho => h.closed.evaluated id o (PyDict.get?_remove_eq_some.mp ho).1) h.closed.fusion

end Dropping

section Remembering

variable {offered : VisualInterpretationObservation p → Prop} {s : TrustBoundary p}

/-- An evicted interpretation takes its semantic observations along. -/
theorem Kept.evictVisualInterpretation (h : Kept offered s) :
    Kept offered s.evictVisualInterpretation := by
  rw [TrustBoundary.evictVisualInterpretation]
  split
  · exact h
  · exact {
      closed := {
        interpretations := fun id o ho =>
          h.closed.interpretations id o (PyDict.get?_remove_eq_some.mp ho).1
        semantics := fun id o ho => by
          obtain ⟨hstored, hother⟩ := PyDict.get?_keep_eq_some.mp ho
          obtain ⟨hframe, hinterpretation⟩ := h.closed.semantics id o hstored
          exact ⟨hframe, PyDict.mem_keys_remove hinterpretation hother⟩
        evaluated := h.closed.evaluated
        fusion := h.closed.fusion }
      linked := {
        source_eq := fun id o ho interpretation hinterpretation =>
          h.linked.source_eq id o (PyDict.get?_keep_eq_some.mp ho).1 interpretation
            (PyDict.get?_remove_eq_some.mp hinterpretation).1
        stored := fun id o ho => h.linked.stored id o (PyDict.get?_remove_eq_some.mp ho).1
        few := h.linked.few } }

/-- Interpretations with one identity are of one frame. -/
def Determined (offered : VisualInterpretationObservation p → Prop) : Prop :=
  ∀ a b, offered a → offered b → a.observationId = b.observationId →
    a.sourceVisualObservationId = b.sourceVisualObservationId

/-- An interpretation of a retained frame is remembered. -/
theorem Kept.rememberVisualInterpretation {interpretation : VisualInterpretationObservation p}
    (h : Kept offered s) (hdetermined : Determined offered) (hoffered : offered interpretation)
    (hframe : interpretation.sourceVisualObservationId ∈ s.visualSources.keys) :
    Kept offered (s.rememberVisualInterpretation interpretation) := by
  refine PyDict.whileLoop_invariant (P := Kept offered)
    (fun _ _ hkept => hkept.evictVisualInterpretation) _ _ ?_
  -- Of the stored interpretations only the one with this identity is new.
  have hcases : ∀ {id o},
      (s.visualInterpretations.set interpretation.observationId interpretation).get? id = some o →
      (id = interpretation.observationId ∧ o = interpretation) ∨
        s.visualInterpretations.get? id = some o := by
    intro id o ho
    rw [PyDict.get?_set] at ho
    by_cases hid : id = interpretation.observationId
    · rw [if_pos hid] at ho
      exact Or.inl ⟨hid, (Option.some.inj ho).symm⟩
    · rw [if_neg hid] at ho
      exact Or.inr ho
  exact {
    closed := {
      interpretations := fun id o ho => by
        rcases hcases ho with ⟨-, rfl⟩ | hbefore
        · exact hframe
        · exact h.closed.interpretations id o hbefore
      semantics := fun id o ho =>
        ⟨(h.closed.semantics id o ho).1,
          PyDict.mem_keys_set.mpr (Or.inr (h.closed.semantics id o ho).2)⟩
      evaluated := h.closed.evaluated
      fusion := h.closed.fusion }
    linked := {
      source_eq := fun id o ho other hother => by
        rcases hcases hother with ⟨hid, rfl⟩ | hbefore
        · obtain ⟨earlier, hearlier⟩ := PyDict.mem_keys.mp (h.closed.semantics id o ho).2
          obtain ⟨hid', hoffered'⟩ := h.linked.stored _ earlier hearlier
          have hsame := hdetermined other earlier hoffered hoffered' (hid.symm.trans hid')
          exact hsame.trans (h.linked.source_eq id o ho earlier hearlier)
        · exact h.linked.source_eq id o ho other hbefore
      stored := fun id o ho => by
        rcases hcases ho with ⟨rfl, rfl⟩ | hbefore
        · exact ⟨rfl, hoffered⟩
        · exact h.linked.stored id o hbefore
      few := h.linked.few } }

/-- An evicted depth frame takes its fusion authorizations along. -/
theorem Kept.evictDepthSource (h : Kept offered s) : Kept offered s.evictDepthSource := by
  rw [TrustBoundary.evictDepthSource]
  split
  · exact h
  · exact {
      closed := {
        interpretations := h.closed.interpretations
        semantics := h.closed.semantics
        evaluated := h.closed.evaluated
        fusion := fun id o ho => by
          obtain ⟨hstored, hother⟩ := PyDict.get?_keep_eq_some.mp ho
          obtain ⟨hrgb, hdepth⟩ := h.closed.fusion id o hstored
          exact ⟨hrgb, PyDict.mem_keys_remove hdepth hother⟩ }
      linked := ⟨h.linked.source_eq, h.linked.stored, h.linked.few⟩ }

/-- A depth frame is remembered. -/
theorem Kept.rememberDepthSource (frame : DepthFrameObservation) (h : Kept offered s) :
    Kept offered (s.rememberDepthSource frame) := by
  refine PyDict.whileLoop_invariant (P := Kept offered) (fun _ _ hkept => hkept.evictDepthSource)
    _ _ ?_
  exact {
    closed := {
      interpretations := h.closed.interpretations
      semantics := h.closed.semantics
      evaluated := h.closed.evaluated
      fusion := fun id o ho => ⟨(h.closed.fusion id o ho).1,
        PyDict.mem_keys_set.mpr (Or.inr (h.closed.fusion id o ho).2)⟩ }
    linked := ⟨h.linked.source_eq, h.linked.stored, h.linked.few⟩ }

end Remembering

section Frames

variable {offered : VisualInterpretationObservation p → Prop} {s : TrustBoundary p}
  {frame : VisualFrameObservation}

/-- The state with a frame stored, before any eviction. -/
def withFrame (frame : VisualFrameObservation) (s : TrustBoundary p) : TrustBoundary p :=
  { s with visualSources := s.visualSources.set (frame.observationId p) frame }

/-- The oldest colour frame. -/
def oldestFrame (s : TrustBoundary p) : Option ObservationId :=
  s.visualSources.least fun id frame => evictionRank frame.observedAtNs id

/-- The colour frame that goes for capacity when another one is remembered. -/
def evictedFor (frame : VisualFrameObservation) (s : TrustBoundary p) : Option ObservationId :=
  if maxVisualSourceReferences < (withFrame frame s).visualSources.size then
    oldestFrame (withFrame frame s)
  else none

/-- The state without a colour frame and what was derived from it, except fused pairs. -/
def withoutFrame (oldest : ObservationId) (s : TrustBoundary p) : TrustBoundary p :=
  { s with
    visualSources := s.visualSources.remove oldest
    evaluatedVisualAuthorizations := s.evaluatedVisualAuthorizations.keep fun _ observation =>
      observation.sourceVisualObservationId ≠ oldest
    semanticAdmissions := s.semanticAdmissions.keep fun _ observation =>
      observation.sourceVisualObservationId ≠ oldest
    visualInterpretations := s.visualInterpretations.keep fun _ observation =>
      observation.sourceVisualObservationId ≠ oldest }

/-- Evicting is dropping the oldest frame. -/
theorem evictVisualSource_eq (s : TrustBoundary p) :
    s.evictVisualSource = match oldestFrame s with
      | none => s
      | some oldest => withoutFrame oldest s := rfl

/-- Within the capacity at most one frame goes. -/
theorem rememberVisualSource_eq (frame : VisualFrameObservation)
    (hfew : s.visualSources.size ≤ maxVisualSourceReferences) :
    s.rememberVisualSource frame = match evictedFor frame s with
      | none => withFrame frame s
      | some oldest => withoutFrame oldest (withFrame frame s) := by
  have hsize : (withFrame frame s).visualSources.size ≤ maxVisualSourceReferences + 1 :=
    (PyDict.size_set_le _ _ _).trans (by omega)
  change PyDict.whileLoop _ _ (withFrame frame s).visualSources.size (withFrame frame s) = _
  rw [evictedFor]
  by_cases hover : maxVisualSourceReferences < (withFrame frame s).visualSources.size
  · have hlower : ((withFrame frame s).visualSources.removeLeast fun id frame =>
        evictionRank frame.observedAtNs id).size < (withFrame frame s).visualSources.size :=
      PyDict.size_removeLeast (by omega)
    rw [if_pos hover, ← evictVisualSource_eq]
    refine PyDict.whileLoop_once hover ?_ (by omega)
    rw [PyDict.removeLeast] at hlower
    rw [evictVisualSource_eq, oldestFrame]
    cases hleast : (withFrame frame s).visualSources.least fun id frame =>
        evictionRank frame.observedAtNs id with
    | none => simp [hleast] at hlower
    | some oldest =>
      simp only [hleast] at hlower
      simp only [withoutFrame]
      omega
  · rw [if_neg hover]
    exact PyDict.whileLoop_skip hover

/-- A colour frame is stored. -/
theorem closed_withFrame (h : Kept offered s) : Closed (withFrame frame s) where
  interpretations := fun id o ho =>
    PyDict.mem_keys_set.mpr (Or.inr (h.closed.interpretations id o ho))
  semantics := fun id o ho =>
    ⟨PyDict.mem_keys_set.mpr (Or.inr (h.closed.semantics id o ho).1), (h.closed.semantics id o ho).2⟩
  evaluated := fun id o ho => PyDict.mem_keys_set.mpr (Or.inr (h.closed.evaluated id o ho))
  fusion := fun id o ho =>
    ⟨PyDict.mem_keys_set.mpr (Or.inr (h.closed.fusion id o ho).1), (h.closed.fusion id o ho).2⟩

/-- Dropping a frame that is no component of an outstanding pair keeps closure. -/
theorem closed_withoutFrame {oldest : ObservationId} (h : Closed s) (hframe : OneFrame s)
    (hspared : ∀ id pair, s.rgbdFusionAuthorizations.get? id = some pair →
      pair.rgbObservation.observationId p ≠ oldest) : Closed (withoutFrame oldest s) where
  interpretations := fun id o ho => by
    obtain ⟨hstored, hother⟩ := PyDict.get?_keep_eq_some.mp ho
    exact PyDict.mem_keys_remove (h.interpretations id o hstored) hother
  semantics := fun id o ho => by
    obtain ⟨hstored, hother⟩ := PyDict.get?_keep_eq_some.mp ho
    obtain ⟨hsource, hinterpretation⟩ := h.semantics id o hstored
    obtain ⟨interpretation, hfound⟩ := PyDict.mem_keys.mp hinterpretation
    have hsame := hframe id o hstored interpretation hfound
    exact ⟨PyDict.mem_keys_remove hsource hother, PyDict.mem_keys.mpr ⟨interpretation,
      PyDict.get?_keep_eq_some.mpr ⟨hfound, fun heq => hother (hsame.symm.trans heq)⟩⟩⟩
  evaluated := fun id o ho => by
    obtain ⟨hstored, hother⟩ := PyDict.get?_keep_eq_some.mp ho
    exact PyDict.mem_keys_remove (h.evaluated id o hstored) hother
  fusion := fun id o ho => by
    obtain ⟨hrgb, hdepth⟩ := h.fusion id o ho
    exact ⟨PyDict.mem_keys_remove hrgb (hspared id o ho), hdepth⟩

/-- Dropping a component of an outstanding pair breaks closure. -/
theorem not_closed_withoutFrame {id : ObservationId} {pair : FusedRgbdObservation}
    (hpair : s.rgbdFusionAuthorizations.get? id = some pair) :
    ¬Closed (withoutFrame (pair.rgbObservation.observationId p) (withFrame frame s)) := fun h =>
  PyDict.not_mem_keys_remove (h.fusion id pair hpair).1

/-- One frame may be evicted for a new one. -/
theorem size_rememberVisualSource (frame : VisualFrameObservation)
    (hfew : s.visualSources.size ≤ maxVisualSourceReferences) :
    (s.rememberVisualSource frame).visualSources.size ≤ maxVisualSourceReferences := by
  have hsize : (withFrame frame s).visualSources.size ≤ maxVisualSourceReferences + 1 :=
    (PyDict.size_set_le _ _ _).trans (Nat.add_le_add_right hfew 1)
  rw [rememberVisualSource_eq frame hfew]
  cases hevicted : evictedFor frame s with
  | none =>
    by_contra hover
    rw [evictedFor, if_pos (Nat.lt_of_not_le hover)] at hevicted
    have hempty := PyDict.least_eq_none hevicted
    simp only at hover
    omega
  | some oldest =>
    have hleast : oldestFrame (withFrame frame s) = some oldest := by
      rw [evictedFor] at hevicted
      split at hevicted
      · exact hevicted
      · cases hevicted
    obtain ⟨value, hvalue, -⟩ := PyDict.least_eq_some hleast
    have hremoved := PyDict.size_remove (PyDict.mem_keys.mpr ⟨value, hvalue⟩)
    simp only [withoutFrame]
    omega

/-- A colour frame is remembered without dropping a component of an outstanding pair. -/
theorem Kept.rememberVisualSource (h : Kept offered s)
    (hspared : ∀ oldest, evictedFor frame s = some oldest → ∀ id pair,
      s.rgbdFusionAuthorizations.get? id = some pair →
        pair.rgbObservation.observationId p ≠ oldest) :
    Kept offered (s.rememberVisualSource frame) := by
  have hfew := size_rememberVisualSource frame h.linked.few
  rw [rememberVisualSource_eq frame h.linked.few] at hfew ⊢
  cases hevicted : evictedFor frame s with
  | none =>
    rw [hevicted] at hfew
    exact ⟨closed_withFrame h, h.linked.source_eq, h.linked.stored, hfew⟩
  | some oldest =>
    rw [hevicted] at hfew
    refine ⟨closed_withoutFrame (closed_withFrame h) h.linked.source_eq (hspared oldest hevicted),
      ?_, ?_, hfew⟩
    · intro id o ho interpretation hinterpretation
      exact h.linked.source_eq id o (PyDict.get?_keep_eq_some.mp ho).1 interpretation
        (PyDict.get?_keep_eq_some.mp hinterpretation).1
    · exact fun id o ho => h.linked.stored id o (PyDict.get?_keep_eq_some.mp ho).1

end Frames

section Retaining

variable {config : PerceptionTrustConfig} {offered : VisualInterpretationObservation p → Prop}
  {s : TrustBoundary p} {source : PerceptionSourceContract} {nowNs : Nat}

/-- A time within the retention. -/
def Unexpired (config : PerceptionTrustConfig) (nowNs : Int) (timeNs : Nat) : Prop :=
  ¬(timeNs : Int) < nowNs - config.retentionTtlNs

/-- The admission of a colour frame evicts no component of an outstanding pair. -/
def Spares (config : PerceptionTrustConfig) (nowNs : Nat) (frame : VisualFrameObservation)
    (s : TrustBoundary p) : Prop :=
  ∀ oldest, evictedFor frame (s.purgeVisualSources config nowNs) = some oldest → ∀ id pair,
    (s.purgeVisualSources config nowNs).rgbdFusionAuthorizations.get? id = some pair →
      pair.rgbObservation.observationId p ≠ oldest

/-- Recording the latest time is no evidence. -/
theorem Kept.recordLatest (source : PerceptionSourceContract) (o : Observation p)
    (h : Kept offered s) :
    Kept offered (TrustBoundary.recordLatest source o s) :=
  h.congr rfl rfl rfl rfl h.closed.evaluated h.closed.fusion

/-- An interpretation of a frame that is retained and has not expired. -/
theorem Kept.retain_interpretation {interpretation : VisualInterpretationObservation p}
    {frame : VisualFrameObservation} (h : Kept offered s) (hdetermined : Determined offered)
    (hoffered : offered interpretation)
    (hframe : s.visualSources.get? interpretation.sourceVisualObservationId = some frame)
    (htime : Unexpired config nowNs frame.observedAtNs) :
    Kept offered
      (s.retain config nowNs source (.observation (.visualInterpretation interpretation))) :=
  ((h.recordLatest source _).purge config nowNs).rememberVisualInterpretation hdetermined hoffered
    (PyDict.mem_keys.mpr ⟨frame, PyDict.get?_keep_eq_some.mpr ⟨hframe, htime⟩⟩)

/-- Semantic evidence of a frame and an interpretation that are retained and have not expired. -/
theorem Kept.retain_semantic {o : SemanticObservation} {frame : VisualFrameObservation}
    {interpretation : VisualInterpretationObservation p} (h : Kept offered s)
    (hframe : s.visualSources.get? o.sourceVisualObservationId = some frame)
    (htime : Unexpired config nowNs frame.observedAtNs)
    (hfound : s.visualInterpretations.get? o.sourceDetection.visualInterpretationObservationId =
      some interpretation)
    (hsame : interpretation.sourceVisualObservationId = o.sourceVisualObservationId) :
    Kept offered (s.retain config nowNs source (.semantic o)) := by
  have hpurged := h.purge config nowNs
  have hsource : o.sourceVisualObservationId ∈
      (s.purgeVisualSources config nowNs).visualSources.keys :=
    PyDict.mem_keys.mpr ⟨frame, PyDict.get?_keep_eq_some.mpr ⟨hframe, htime⟩⟩
  have hinterpretation : (s.purgeVisualSources config nowNs).visualInterpretations.get?
      o.sourceDetection.visualInterpretationObservationId = some interpretation :=
    PyDict.get?_keep_eq_some.mpr ⟨hfound, by rw [hsame]; exact hsource⟩
  -- Only the semantic observation stored last is new.
  have hcases : ∀ {id other},
      ((s.purgeVisualSources config nowNs).semanticAdmissions.set (o.observationId p) o).get? id =
        some other → other = o ∨
        (s.purgeVisualSources config nowNs).semanticAdmissions.get? id = some other := by
    intro id other hother
    rw [PyDict.get?_set] at hother
    by_cases hid : id = o.observationId p
    · rw [if_pos hid] at hother
      exact Or.inl (Option.some.inj hother).symm
    · rw [if_neg hid] at hother
      exact Or.inr hother
  exact {
    closed := {
      interpretations := hpurged.closed.interpretations
      semantics := fun id other hother => by
        rcases hcases hother with rfl | hbefore
        · exact ⟨hsource, PyDict.mem_keys.mpr ⟨interpretation, hinterpretation⟩⟩
        · exact hpurged.closed.semantics id other hbefore
      evaluated := hpurged.closed.evaluated
      fusion := hpurged.closed.fusion }
    linked := {
      source_eq := fun id other hother found hfound' => by
        rcases hcases hother with rfl | hbefore
        · rw [Option.some.inj (hfound'.symm.trans hinterpretation)]
          exact hsame
        · exact hpurged.linked.source_eq id other hbefore found hfound'
      stored := hpurged.linked.stored
      few := hpurged.linked.few } }

end Retaining

section Steps

variable {config : PerceptionTrustConfig} {normalize : Quaternion → Option Quaternion}
  {offered : VisualInterpretationObservation p → Prop} {s s' : TrustBoundary p}
  {nowNs receiptNs : Int} {source : PerceptionSourceContract}

/-- The frames and the authorizations of pairs are the same. -/
def SameComponents (s s' : TrustBoundary p) : Prop :=
  s'.visualSources = s.visualSources ∧ s'.depthSources = s.depthSources ∧
    s'.rgbdFusionAuthorizations = s.rgbdFusionAuthorizations

/-- The checks of a colour frame leave the frames and the authorizations of pairs alone. -/
theorem sameComponents_checkCall (frame : VisualFrameObservation) :
    SameComponents s (checkCall config nowNs receiptNs (.observation (.visualFrame frame)) source
      s).1 := by
  have hrefl : ∀ s : TrustBoundary p, SameComponents s s := fun s => ⟨rfl, rfl, rfl⟩
  have htrans : ∀ {a b c : TrustBoundary p}, SameComponents a b → SameComponents b c →
      SameComponents a c := fun hab hbc =>
    ⟨hbc.1.trans hab.1, hbc.2.1.trans hab.2.1, hbc.2.2.trans hab.2.2⟩
  have hchecks : Stage.Respects (SameComponents (p := p))
      (checkAgainst config nowNs.toNat (.observation (.visualFrame frame)) source) := by
    refine Stage.respects_sequence hrefl htrans ?_
    rw [checksAgainst, checkKind]
    · simp only [List.cons_append, List.nil_append, List.forall_mem_cons]
      refine ⟨Stage.respects_onlyWhen hrefl fun _ => respects_checkSeal hrefl htrans ?_,
        Stage.respects_onlyWhen hrefl fun _ => respects_checkSeal hrefl htrans ?_,
        Stage.respects_onlyWhen hrefl fun _ => respects_checkSeal hrefl htrans ?_,
        Stage.respects_refuseWhen hrefl, Stage.respects_refuseWhen hrefl, List.forall_mem_nil _⟩
      · exact fun s => ⟨rfl, rfl, rfl⟩
      · exact fun s => ⟨rfl, rfl, rfl⟩
      · exact fun s => ⟨rfl, rfl, rfl⟩
    all_goals
      intro _ heq
      cases heq
  exact htrans (b := s.timed nowNs.toNat receiptNs.toNat) ⟨rfl, rfl, rfl⟩ (hchecks _)

/-- What is spared depends on the frames and the authorizations of pairs only. -/
theorem spares_congr {frame : VisualFrameObservation} {now : Nat} (h : SameComponents s s') :
    Spares config now frame s' ↔ Spares config now frame s := by
  cases s
  cases s'
  simp only [SameComponents] at h
  obtain ⟨rfl, rfl, rfl⟩ := h
  exact Iff.rfl

/-- A call evicts a component of an outstanding pair: it is the admission of a colour frame that is
to be retained, when the oldest of too many frames is such a component. -/
def EvictsComponent (config : PerceptionTrustConfig) (s : TrustBoundary p) :
    BoundaryCall p → Prop
  | .admitEvidence (.observation (.visualFrame frame)) nowNs receiptNs =>
    (∃ source, Admissible config nowNs receiptNs (.observation (.visualFrame frame)) source s) ∧
      ¬Spares config nowNs.toNat frame s
  | _ => False

/-- An interpretation that the calls of a run offer. -/
def Offered (calls : List (BoundaryCall p)) (o : VisualInterpretationObservation p) : Prop :=
  ∃ nowNs receiptNs,
    BoundaryCall.admitEvidence (.observation (.visualInterpretation o)) nowNs receiptNs ∈ calls

/-- The checks of a call keep closure. -/
theorem Kept.checkCall (config : PerceptionTrustConfig) (nowNs receiptNs : Int)
    (source : PerceptionSourceContract) (rebuilt : Evidence p) (h : Kept offered s) :
    Kept offered (checkCall config nowNs receiptNs rebuilt source s).1 :=
  (checkRelation_kept config offered).respects_checkAgainst _ _ _ _
    (h.tally (tallied_timed nowNs.toNat receiptNs.toNat s))

/-- An admission that evicts no component keeps closure. -/
theorem Kept.admitted {evidence rebuilt : Evidence p} (h : Kept offered s)
    (hdetermined : Determined offered)
    (hoffered : ∀ o, evidence = .observation (.visualInterpretation o) → offered o)
    (hspared : ∀ frame, evidence = .observation (.visualFrame frame) →
      Spares config nowNs.toNat frame s)
    (hadmitted : Admitted config normalize evidence nowNs receiptNs rebuilt source s s') :
    Kept offered s' := by
  have hchecked := hadmitted.admissible.checked
  have hkept := h.checkCall config nowNs receiptNs source rebuilt
  have htime : 0 ≤ nowNs := hadmitted.admissible.times.1.1
  refine Kept.tally ?_ hadmitted.retained
  cases rebuilt with
  | semantic o =>
    obtain ⟨hpassed, hretained⟩ := checkAgainst_single rfl hchecked
    obtain ⟨-, ⟨frame, hframe, -, hagrees⟩, interpretation, hfound, hrepeats, -⟩ :=
      checkSemantic_passed hpassed
    refine hkept.retain_semantic hframe ?_ hfound hrepeats.2.2.2.1
    rw [hagrees.2.2.2.1]
    exact hretained
  | observation o =>
    cases o with
    | visualFrame frame =>
      obtain rfl := rebuildEvidence_eq hadmitted.rebuilt_eq fun _ heq => nomatch heq
      refine Kept.rememberVisualSource ((hkept.recordLatest source _).purge config _) ?_
      have hsame : SameComponents s (TrustBoundary.recordLatest source (.visualFrame frame)
          (Perception.checkCall config nowNs receiptNs (.observation (.visualFrame frame)) source
            s).1) := sameComponents_checkCall frame
      exact (spares_congr hsame).mpr (hspared frame rfl)
    | depthFrame frame => exact ((hkept.recordLatest source _).purge config _).rememberDepthSource frame
    | visualInterpretation o =>
      obtain ⟨hpassed, hretained⟩ := checkAgainst_single rfl hchecked
      obtain ⟨-, frame, hframe, hagrees⟩ := checkInterpretation_passed hpassed
      have hevidence := rebuildEvidence_eq hadmitted.rebuilt_eq fun _ heq => nomatch heq
      refine hkept.retain_interpretation hdetermined (hoffered o hevidence.symm) hframe ?_
      rw [hagrees.2.2.2.1]
      exact hretained
    | _ => exact (hkept.recordLatest source _).purge config _

/-- An admission that evicts a component breaks closure. -/
theorem not_closed_of_evicts {frame : VisualFrameObservation} (h : Kept offered s)
    (hspared : ¬Spares config nowNs.toNat frame s)
    (hadmitted : Admitted config normalize (.observation (.visualFrame frame)) nowNs receiptNs
      (.observation (.visualFrame frame)) source s s') : ¬Closed s' := by
  have hsame : SameComponents s (TrustBoundary.recordLatest source (.visualFrame frame)
      (Perception.checkCall config nowNs receiptNs (.observation (.visualFrame frame)) source
        s).1) := sameComponents_checkCall frame
  have hkept := ((h.checkCall config nowNs receiptNs source
    (.observation (.visualFrame frame))).recordLatest source (.visualFrame frame)).purge config
      nowNs.toNat
  rw [← spares_congr hsame, Spares] at hspared
  push Not at hspared
  obtain ⟨oldest, hevicted, id, pair, hpair, rfl⟩ := hspared
  intro hclosed
  have hretained := hclosed.untally hadmitted.retained
  rw [TrustBoundary.retain, TrustBoundary.remember,
    rememberVisualSource_eq frame hkept.linked.few, hevicted] at hretained
  exact not_closed_withoutFrame hpair hretained

end Steps

section Calls

variable {config : PerceptionTrustConfig} {normalize : Quaternion → Option Quaternion}
  {offered : VisualInterpretationObservation p → Prop} {s : TrustBoundary p}

/-- Whatever an admission does keeps closure when it evicts no component. -/
theorem Kept.admission {evidence : Evidence p} {nowNs receiptNs : Int}
    {result : TrustBoundary p × Outcome p} (h : Kept offered s) (hdetermined : Determined offered)
    (hoffered : ∀ o, evidence = .observation (.visualInterpretation o) → offered o)
    (hspared : ¬EvictsComponent config s (.admitEvidence evidence nowNs receiptNs))
    (hcases : AdmissionCases config normalize evidence nowNs receiptNs s result) :
    Kept offered result.1 := by
  rcases hcases with ⟨-, htallied | hlooked⟩ | ⟨rebuilt, source, hadmitted, -⟩
  · exact h.tally htallied
  · obtain ⟨nowNs, receiptNs, rebuilt, source, htallied⟩ := hlooked
    exact (h.checkCall config nowNs receiptNs source rebuilt).tally htallied
  · refine h.admitted hdetermined hoffered (fun frame heq => ?_) hadmitted
    subst heq
    by_contra hevicts
    refine hspared ⟨⟨source, ?_⟩, hevicts⟩
    have hrebuilt := Except.ok.inj hadmitted.rebuilt_eq
    rw [← hrebuilt] at hadmitted
    exact hadmitted.admissible

/-- Nothing is retained after a reset. -/
theorem kept_reset : Kept offered (.reset : TrustBoundary p) where
  closed := {
    interpretations := fun _ _ ho => by cases ho
    semantics := fun _ _ ho => by cases ho
    evaluated := fun _ _ ho => by cases ho
    fusion := fun _ _ ho => by cases ho }
  linked := {
    source_eq := fun _ _ ho => by cases ho
    stored := fun _ _ ho => by cases ho
    few := Nat.zero_le _ }

/-- A call that evicts no component keeps closure. -/
theorem Kept.perform {call : BoundaryCall p} (h : Kept offered s)
    (hdetermined : Determined offered) (hoffered : ∀ o, Offered [call] o → offered o)
    (hspared : ¬EvictsComponent config s call) :
    Kept offered (perform config normalize s call).1 := by
  cases call with
  | authorizePhysicalCamera admission =>
    rw [Perception.perform, TrustBoundary.authorizePhysicalCamera]
    split
    · exact h.congr rfl rfl rfl rfl h.closed.evaluated h.closed.fusion
    · exact h
  | authorizeDepthCamera admission =>
    rw [Perception.perform, TrustBoundary.authorizeDepthCamera]
    split
    · exact h.congr rfl rfl rfl rfl h.closed.evaluated h.closed.fusion
    · exact h
  | authorizeAudio admission =>
    rw [Perception.perform, TrustBoundary.authorizeAudio]
    split
    · exact h.congr rfl rfl rfl rfl h.closed.evaluated h.closed.fusion
    · exact h
  | authorizeEvaluatedVisual admission =>
    rw [Perception.perform, TrustBoundary.authorizeEvaluatedVisual]
    split
    · rename_i hgranted
      obtain ⟨-, frame, hframe, -⟩ := hgranted
      refine h.congr rfl rfl rfl rfl (fun id o ho => ?_) h.closed.fusion
      rcases PyDict.get?_set_trim ho with hbefore | rfl
      · exact h.closed.evaluated id o hbefore
      · exact PyDict.mem_keys.mpr ⟨frame, hframe⟩
    · exact h
  | authorizeRgbdFusion admission =>
    rw [Perception.perform, TrustBoundary.authorizeRgbdFusion]
    split
    · rename_i hgranted
      refine h.congr rfl rfl rfl rfl h.closed.evaluated fun id o ho => ?_
      rcases PyDict.get?_set_trim ho with hbefore | rfl
      · exact h.closed.fusion id o hbefore
      · exact ⟨PyDict.mem_keys.mpr ⟨_, hgranted.2.1⟩, PyDict.mem_keys.mpr ⟨_, hgranted.2.2⟩⟩
    · exact h
  | admitEvidence evidence nowNs receiptNs =>
    refine h.admission hdetermined (fun o heq => ?_) hspared (admit_cases _ _ evidence nowNs receiptNs s)
    exact hoffered o ⟨nowNs, receiptNs, by rw [heq]; exact List.mem_singleton_self _⟩
  | reportFailure sensorId failure observedAtNs nowNs receiptNs =>
    rcases reportFailure_cases config normalize sensorId failure
      observedAtNs nowNs receiptNs s with ⟨-, htallied⟩ | ⟨health, -, hcases⟩
    · exact h.tally htallied
    · refine h.admission hdetermined ?_ ?_ hcases
      · intro o heq
        cases heq
      · exact fun hevicts => hevicts
  | reset => exact kept_reset

end Calls

section Runs

variable {config : PerceptionTrustConfig} {normalize : Quaternion → Option Quaternion}

/-- The state after a run. -/
def stateAfter (config : PerceptionTrustConfig) (normalize : Quaternion → Option Quaternion)
    (calls : List (BoundaryCall p)) : TrustBoundary p :=
  (BoundaryHistory.after config normalize calls).state

/-- The state after one call more. -/
theorem stateAfter_append (calls : List (BoundaryCall p)) (call : BoundaryCall p) :
    stateAfter config normalize (calls ++ [call]) =
      (perform config normalize (stateAfter config normalize calls) call).1 := by
  rw [stateAfter, BoundaryHistory.after, List.foldl_append, List.foldl_cons, List.foldl_nil]
  cases call <;> rfl

/-- The components of fused or semantic evidence are retained and have not expired. -/
def ComponentsKept (config : PerceptionTrustConfig) (nowNs : Int) (s : TrustBoundary p) :
    Evidence p → Prop
  | .observation (.fusedRgbd o) =>
    (o.rgbObservation.observationId p ∈ s.visualSources.keys ∧
        Unexpired config nowNs o.rgbObservation.observedAtNs) ∧
      o.depthObservation.observationId p ∈ s.depthSources.keys ∧
        Unexpired config nowNs o.depthObservation.observedAtNs
  | .semantic o =>
    (o.sourceVisualObservationId ∈ s.visualSources.keys ∧
        Unexpired config nowNs o.observedAtNs) ∧
      o.sourceDetection.visualInterpretationObservationId ∈ s.visualInterpretations.keys
  | _ => True

/-- Fused or semantic evidence is accepted while its components are retained. -/
theorem componentsKept_of_accepted {s : TrustBoundary p} {evidence accepted : Evidence p}
    {nowNs receiptNs : Int} (h : Closed s)
    (haccepted : acceptedEvidence (s.admitEvidence config normalize evidence nowNs receiptNs).2 =
      some accepted) : ComponentsKept config nowNs s accepted := by
  rcases admit_cases config normalize evidence nowNs receiptNs s with
    ⟨hrefused, -⟩ | ⟨rebuilt, source, hadmitted, houtcome⟩
  · rw [hrefused] at haccepted
    cases haccepted
  · rw [houtcome] at haccepted
    have hchecked := hadmitted.admissible.checked
    have hnow := Int.toNat_of_nonneg hadmitted.admissible.times.1.1
    have hrebuild := rebuild_of_accepted haccepted
    cases accepted with
    | semantic o =>
      obtain rfl := rebuildEvidence_eq hrebuild fun _ heq => nomatch heq
      obtain ⟨hpassed, hretained⟩ := checkAgainst_single rfl hchecked
      obtain ⟨hpurged, ⟨frame, hframe, -⟩, interpretation, hfound, -⟩ := checkSemantic_passed hpassed
      rw [hpurged] at hframe hfound
      rw [hnow] at hretained
      exact ⟨⟨PyDict.mem_keys.mpr ⟨frame, (PyDict.get?_keep_eq_some.mp hframe).1⟩, hretained⟩,
        PyDict.mem_keys.mpr ⟨interpretation, (PyDict.get?_keep_eq_some.mp hfound).1⟩⟩
    | observation o =>
      cases o with
      | fusedRgbd pair =>
        obtain rfl := rebuildEvidence_eq hrebuild fun _ heq => nomatch heq
        obtain ⟨hpassed, hretained⟩ := checkAgainst_single rfl hchecked
        obtain ⟨requirement, -, -, htaken⟩ := checkSeal_passed.mp hpassed
        obtain ⟨hrgb, hdepth⟩ := h.fusion _ pair (consume_passed.mp htaken).1
        rw [hnow] at hretained
        refine ⟨⟨hrgb, hretained⟩, hdepth, ?_⟩
        rw [Unexpired, ← pair.time_eq]
        exact hretained
      | _ => trivial

/-- The provenance of a run is closed: nothing retained depends on what is not, in any state on the
way, and fused or semantic evidence is accepted only while its components are retained. -/
structure Traced (config : PerceptionTrustConfig) (normalize : Quaternion → Option Quaternion)
    (calls : List (BoundaryCall p)) : Prop where
  /-- Every state is closed. -/
  closed : ∀ done rest, calls = done ++ rest → Closed (stateAfter config normalize done)
  /-- The components of accepted evidence are retained. -/
  components : ∀ done evidence nowNs receiptNs rest accepted,
    calls = done ++ .admitEvidence evidence nowNs receiptNs :: rest →
    acceptedEvidence ((stateAfter config normalize done).admitEvidence config normalize evidence nowNs
      receiptNs).2 = some accepted →
    ComponentsKept config nowNs (stateAfter config normalize done) accepted

/-- A run is closed as long as no call evicts a component. -/
theorem kept_after {calls : List (BoundaryCall p)} (hdetermined : Determined (Offered calls))
    (done : List (BoundaryCall p)) :
    ∀ rest, calls = done ++ rest →
      (∀ earlier call later, done = earlier ++ call :: later →
        ¬EvictsComponent config (stateAfter config normalize earlier) call) →
      Kept (Offered calls) (stateAfter config normalize done) := by
  induction done using List.reverseRecOn with
  | nil => exact fun _ _ _ => kept_reset
  | append_singleton done call ih =>
    intro rest hcalls hspared
    rw [List.append_assoc, List.singleton_append] at hcalls
    have hkept := ih (call :: rest) hcalls fun earlier other later hsplit =>
      hspared earlier other (later ++ [call]) (by rw [hsplit]; simp)
    rw [stateAfter_append]
    refine hkept.perform hdetermined (fun o hoffered => ?_) (hspared done call [] rfl)
    obtain ⟨nowNs, receiptNs, hmem⟩ := hoffered
    refine ⟨nowNs, receiptNs, ?_⟩
    rw [hcalls, ← List.mem_singleton.mp hmem]
    simp

/-- A call that evicts a component leaves a state that is not closed. -/
theorem not_closed_of_evictsComponent (normalize : Quaternion → Option Quaternion)
    {offered : VisualInterpretationObservation p → Prop}
    {s : TrustBoundary p} {call : BoundaryCall p} (h : Kept offered s)
    (hevicts : EvictsComponent config s call) : ¬Closed (perform config normalize s call).1 := by
  cases call with
  | admitEvidence evidence nowNs receiptNs =>
    cases evidence with
    | semantic o => exact hevicts.elim
    | observation o =>
      cases o with
      | visualFrame frame =>
        obtain ⟨⟨source, hadmissible⟩, hspared⟩ := hevicts
        have hrebuilt : rebuildEvidence normalize
            (.observation (.visualFrame frame) : Evidence p) =
          .ok (.observation (.visualFrame frame)) := rfl
        have hadmitted := admit_of_admissible hrebuilt (fun entity heq => nomatch heq) hadmissible
        exact not_closed_of_evicts h hspared hadmitted.1
      | _ => exact hevicts.elim
  | _ => exact hevicts.elim

/-- Provenance is closed over a run exactly when no call of it evicts a component of an outstanding
pair. -/
theorem traced_iff {calls : List (BoundaryCall p)} (hdetermined : Determined (Offered calls)) :
    Traced config normalize calls ↔ ∀ done call rest, calls = done ++ call :: rest →
      ¬EvictsComponent config (stateAfter config normalize done) call := by
  constructor
  · intro h
    -- Up to a call nothing was evicted, so the state is kept and the call would break closure.
    have hspared : ∀ done : List (BoundaryCall p), ∀ rest, calls = done ++ rest →
        ∀ earlier call later, done = earlier ++ call :: later →
          ¬EvictsComponent config (stateAfter config normalize earlier) call := by
      intro done
      induction done using List.reverseRecOn with
      | nil => exact fun _ _ earlier call later hsplit => by simp at hsplit
      | append_singleton done last ih =>
        intro rest hcalls earlier call later hsplit
        rw [List.append_assoc, List.singleton_append] at hcalls
        have hearlier := ih (last :: rest) hcalls
        rcases List.eq_nil_or_concat later with rfl | ⟨later, final, rfl⟩
        · obtain ⟨rfl, hlast⟩ := List.append_inj' hsplit rfl
          obtain rfl := List.singleton_inj.mp hlast
          intro hevicts
          have hkept := kept_after hdetermined done (last :: rest) hcalls hearlier
          have hbroken := not_closed_of_evictsComponent normalize hkept hevicts
          rw [← stateAfter_append] at hbroken
          exact hbroken (h.closed (done ++ [last]) rest (by simpa using hcalls))
        · have hsplit' : done ++ [last] = (earlier ++ call :: later) ++ [final] := by
            simpa using hsplit
          exact hearlier earlier call later (List.append_inj' hsplit' rfl).1
    exact fun done call rest hcalls =>
      hspared calls [] (by simp) done call rest hcalls
  · intro h
    have hclosed : ∀ done rest, calls = done ++ rest →
        Closed (stateAfter config normalize done) := by
      intro done rest hcalls
      refine (kept_after hdetermined done rest hcalls ?_).closed
      intro earlier call later hsplit
      exact h earlier call (later ++ rest) (by rw [hcalls, hsplit]; simp)
    exact {
      closed := hclosed
      components := fun done evidence nowNs receiptNs rest accepted hcalls haccepted =>
        componentsKept_of_accepted (hclosed done _ hcalls) haccepted }

end Runs

end Perception
end AyyoHumanoid
