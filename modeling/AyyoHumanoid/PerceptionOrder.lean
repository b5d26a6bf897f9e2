import AyyoHumanoid.PerceptionEviction
import AyyoHumanoid.SemanticIdentities

/-!
# Order of accepted evidence

What a run accepts under one key gets later and later, so no observation is
accepted twice. A semantic observation has no key. While its record is kept it
is a duplicate, and its record goes only together with its frame or its
interpretation, neither of which is ever accepted again.
-/

namespace AyyoHumanoid
namespace Perception

open PyText JsonText World

section Settled

variable {p : Platform}

/-- A semantic observation is on record, or what it was read from is gone. -/
def Settled (o : SemanticObservation) (s : TrustBoundary p) : Prop :=
  s.semanticAdmissions.get? (o.observationId p) = some o ∨
    o.sourceVisualObservationId ∉ s.visualSources.keys ∨
    o.sourceDetection.visualInterpretationObservationId ∉ s.visualInterpretations.keys

/-- Frames and interpretations only go, and semantic records go with them. -/
structure Thins (s s' : TrustBoundary p) : Prop where
  /-- Frames only go. -/
  frames : ∀ id frame, s'.visualSources.get? id = some frame →
    s.visualSources.get? id = some frame
  /-- Interpretations only go. -/
  interpretations : ∀ id o, s'.visualInterpretations.get? id = some o →
    s.visualInterpretations.get? id = some o
  /-- Semantic records go with them. -/
  settled : ∀ o, Settled o s → Settled o s'

variable {s s' s'' : TrustBoundary p}

/-- Nothing goes. -/
theorem Thins.refl (s : TrustBoundary p) : Thins s s :=
  ⟨fun _ _ h => h, fun _ _ h => h, fun _ h => h⟩

/-- What goes in two steps goes. -/
theorem Thins.trans (h : Thins s s') (h' : Thins s' s'') : Thins s s'' where
  frames := fun id frame hframe => h.frames id frame (h'.frames id frame hframe)
  interpretations := fun id o ho => h.interpretations id o (h'.interpretations id o ho)
  settled := fun o ho => h'.settled o (h.settled o ho)

/-- The other parts of the state do not matter. -/
theorem Thins.congr (hframes : s'.visualSources = s.visualSources)
    (hinterpretations : s'.visualInterpretations = s.visualInterpretations)
    (hsemantics : s'.semanticAdmissions = s.semanticAdmissions) : Thins s s' where
  frames := fun id frame hframe => by rwa [hframes] at hframe
  interpretations := fun id o ho => by rwa [hinterpretations] at ho
  settled := fun o ho => by rwa [Settled, hframes, hinterpretations, hsemantics]

/-- Counting does not matter. -/
theorem Tallied.thins (h : Tallied s s') : Thins s s' := by
  obtain ⟨_, _, _, _, _, rfl⟩ := h
  exact Thins.congr rfl rfl rfl

/-- A key that was missing is missing among fewer. -/
theorem not_mem_of_subset {κ α : Type} [DecidableEq κ] {d d' : PyDict κ α} {key : κ}
    (hsubset : ∀ value, d'.get? key = some value → d.get? key = some value) (h : key ∉ d.keys) :
    key ∉ d'.keys := by
  intro hmem
  obtain ⟨value, hvalue⟩ := PyDict.mem_keys.mp hmem
  exact h (PyDict.mem_keys.mpr ⟨value, hsubset value hvalue⟩)

/-- Frames and interpretations go, and a semantic record stays unless its own goes. -/
theorem Thins.of_subset
    (hframes : ∀ id frame, s'.visualSources.get? id = some frame →
      s.visualSources.get? id = some frame)
    (hinterpretations : ∀ id o, s'.visualInterpretations.get? id = some o →
      s.visualInterpretations.get? id = some o)
    (hsemantics : ∀ o : SemanticObservation,
      s.semanticAdmissions.get? (o.observationId p) = some o → Settled o s') : Thins s s' where
  frames := hframes
  interpretations := hinterpretations
  settled := fun o ho => by
    rcases ho with hrecord | hframe | hinterpretation
    · exact hsemantics o hrecord
    · exact Or.inr (Or.inl (not_mem_of_subset (hframes _) hframe))
    · exact Or.inr (Or.inr (not_mem_of_subset (hinterpretations _) hinterpretation))

/-- What has expired goes. -/
theorem thins_purge (config : PerceptionTrustConfig) (nowNs : Nat) (s : TrustBoundary p) :
    Thins s (s.purgeVisualSources config nowNs) := by
  refine Thins.of_subset (fun _ _ h => (PyDict.get?_keep_eq_some.mp h).1)
    (fun _ _ h => (PyDict.get?_keep_eq_some.mp h).1) fun o hrecord => ?_
  by_cases hframe : o.sourceVisualObservationId ∈
      (s.purgeVisualSources config nowNs).visualSources.keys
  · by_cases hinterpretation : o.sourceDetection.visualInterpretationObservationId ∈
        (s.purgeVisualSources config nowNs).visualInterpretations.keys
    · exact Or.inl (PyDict.get?_keep_eq_some.mpr ⟨hrecord, hframe, hinterpretation⟩)
    · exact Or.inr (Or.inr hinterpretation)
  · exact Or.inr (Or.inl hframe)

/-- The oldest frame goes. -/
theorem thins_evictVisualSource (s : TrustBoundary p) : Thins s s.evictVisualSource := by
  rw [TrustBoundary.evictVisualSource]
  split
  · exact Thins.refl s
  · rename_i oldest _
    refine Thins.of_subset (fun _ _ h => (PyDict.get?_remove_eq_some.mp h).1)
      (fun _ _ h => (PyDict.get?_keep_eq_some.mp h).1) fun o hrecord => ?_
    by_cases hsource : o.sourceVisualObservationId = oldest
    · refine Or.inr (Or.inl ?_)
      rw [hsource]
      exact PyDict.not_mem_keys_remove
    · exact Or.inl (PyDict.get?_keep_eq_some.mpr ⟨hrecord, hsource⟩)

/-- The oldest interpretation goes. -/
theorem thins_evictVisualInterpretation (s : TrustBoundary p) :
    Thins s s.evictVisualInterpretation := by
  rw [TrustBoundary.evictVisualInterpretation]
  split
  · exact Thins.refl s
  · rename_i oldest _
    refine Thins.of_subset (fun _ _ h => h) (fun _ _ h => (PyDict.get?_remove_eq_some.mp h).1)
      fun o hrecord => ?_
    by_cases hsource : o.sourceDetection.visualInterpretationObservationId = oldest
    · refine Or.inr (Or.inr ?_)
      rw [hsource]
      exact PyDict.not_mem_keys_remove
    · exact Or.inl (PyDict.get?_keep_eq_some.mpr ⟨hrecord, hsource⟩)

/-- Depth frames do not matter. -/
theorem thins_evictDepthSource (s : TrustBoundary p) : Thins s s.evictDepthSource := by
  rw [TrustBoundary.evictDepthSource]
  split
  · exact Thins.refl s
  · exact Thins.congr rfl rfl rfl

/-- Evictions in a loop. -/
theorem thins_whileLoop {condition : TrustBoundary p → Prop} [DecidablePred condition]
    {step : TrustBoundary p → TrustBoundary p} (hstep : ∀ s, Thins s (step s)) (n : Nat)
    (s : TrustBoundary p) : Thins s (PyDict.whileLoop condition step n s) :=
  PyDict.whileLoop_invariant (P := fun s' => Thins s s')
    (fun s' _ h => h.trans (hstep s')) n s (Thins.refl s)

/-- The checks only take away. -/
theorem checkRelation_thins (config : PerceptionTrustConfig) :
    CheckRelation config (Thins (p := p)) where
  refl := Thins.refl
  trans := Thins.trans
  purge := fun nowNs s => thins_purge config nowNs s
  physical := fun _ _ => Thins.congr rfl rfl rfl
  depth := fun _ _ => Thins.congr rfl rfl rfl
  audio := fun _ _ => Thins.congr rfl rfl rfl
  fusion := fun _ _ => Thins.congr rfl rfl rfl
  evaluated := fun _ _ => Thins.congr rfl rfl rfl

/-- The checks of a call only take away. -/
theorem thins_checkCall (config : PerceptionTrustConfig) (nowNs receiptNs : Int)
    (rebuilt : Evidence p) (source : PerceptionSourceContract) (s : TrustBoundary p) :
    Thins s (checkCall config nowNs receiptNs rebuilt source s).1 :=
  (tallied_timed nowNs.toNat receiptNs.toNat s).thins.trans
    ((checkRelation_thins config).respects_checkAgainst _ _ _ _)

end Settled

section Latest

variable {p : Platform} {config : PerceptionTrustConfig} {s s' : TrustBoundary p}

/-- The checks leave the latest records alone. -/
theorem checkRelation_lastByKey (config : PerceptionTrustConfig) :
    CheckRelation config fun s s' : TrustBoundary p => s'.lastByKey = s.lastByKey where
  refl := fun _ => rfl
  trans := fun hab hbc => hbc.trans hab
  purge := fun _ _ => rfl
  physical := fun _ _ => rfl
  depth := fun _ _ => rfl
  audio := fun _ _ => rfl
  fusion := fun _ _ => rfl
  evaluated := fun _ _ => rfl

/-- The checks of a call leave the latest records alone. -/
theorem lastByKey_checkCall {nowNs receiptNs : Int} {rebuilt : Evidence p}
    {source : PerceptionSourceContract} :
    (checkCall config nowNs receiptNs rebuilt source s).1.lastByKey = s.lastByKey :=
  (checkRelation_lastByKey config).respects_checkAgainst _ _ _ _

/-- Counting leaves the latest records alone. -/
theorem Tallied.lastByKey_eq (h : Tallied s s') : s'.lastByKey = s.lastByKey := by
  obtain ⟨_, _, _, _, _, rfl⟩ := h
  rfl

/-- A loop of evictions leaves the latest records alone. -/
theorem lastByKey_whileLoop {condition : TrustBoundary p → Prop} [DecidablePred condition]
    {step : TrustBoundary p → TrustBoundary p} (hstep : ∀ s, (step s).lastByKey = s.lastByKey)
    (n : Nat) (s : TrustBoundary p) :
    (PyDict.whileLoop condition step n s).lastByKey = s.lastByKey :=
  PyDict.whileLoop_invariant (P := fun s' : TrustBoundary p => s'.lastByKey = s.lastByKey)
    (fun s' _ h => (hstep s').trans h) n s rfl

/-- Remembering leaves the latest records alone. -/
theorem lastByKey_remember (o : Observation p) (s : TrustBoundary p) :
    (TrustBoundary.remember o s).lastByKey = s.lastByKey := by
  rw [TrustBoundary.remember.eq_def]
  split
  · refine lastByKey_whileLoop (fun s => ?_) _ _
    rw [TrustBoundary.evictVisualSource]
    split <;> rfl
  · refine lastByKey_whileLoop (fun s => ?_) _ _
    rw [TrustBoundary.evictDepthSource]
    split <;> rfl
  · refine lastByKey_whileLoop (fun s => ?_) _ _
    rw [TrustBoundary.evictVisualInterpretation]
    split <;> rfl
  · rfl

/-- A fresh observation is later than the record of its key. -/
theorem compareLatest_fresh {source : PerceptionSourceContract} {o : Observation p}
    (h : TrustBoundary.compareLatest source o s = .fresh) (current : Nat × ObservationId)
    (hcurrent : s.lastByKey.get? (stateKey source o) = some current) :
    current.1 < orderingTime o := by
  rw [TrustBoundary.compareLatest, hcurrent] at h
  simp only at h
  by_contra hnot
  by_cases hid : o.observationId = current.2
  · rw [if_pos hid] at h
    cases h
  · rw [if_neg hid] at h
    by_cases hbefore : orderingTime o < current.1
    · rw [if_pos hbefore] at h
      cases h
    · rw [if_neg hbefore, if_pos (by omega)] at h
      cases h

end Latest

section Entries

variable {p : Platform} {config : PerceptionTrustConfig}
  {normalize : Quaternion → Option Quaternion}

/-- The key and the time that evidence counts under. -/
def Evidence.entry (config : PerceptionTrustConfig) : Evidence p → Option ((PyStr × PyStr) × Nat)
  | .observation o => latestEntry config o
  | .semantic _ => none

/-- Evidence with an identity of its own that is later than what its key has. -/
def Before (config : PerceptionTrustConfig) (earlier later : Evidence p) : Prop :=
  earlier.evidenceId ≠ later.evidenceId ∧
    ∀ key time time', earlier.entry config = some (key, time) →
      later.entry config = some (key, time') → time < time'

/-- Evidence of a known source counts under the key of that source. -/
theorem latestEntry_of_source {o : Observation p} {source : PerceptionSourceContract}
    (h : sourceFor config (.observation o) = some source) :
    latestEntry config o = some (stateKey source o, orderingTime o) := by
  rw [latestEntry, h]
  rfl

/-- Evidence that counts is of a sensor. -/
theorem sensed_of_entry {o : Observation p} {entry : (PyStr × PyStr) × Nat}
    (h : latestEntry config o = some entry) : o.Sensed := by
  cases o with
  | semanticEvidence o => cases h
  | environmentEntity o => cases h
  | _ => trivial

/-- Rebuilt evidence has the identity and the entry of the given one. -/
theorem rebuilt_entry (config : PerceptionTrustConfig) {given rebuilt : Evidence p}
    (h : rebuildEvidence normalize given = .ok rebuilt) :
    rebuilt.evidenceId = given.evidenceId ∧ rebuilt.entry config = given.entry config := by
  cases given with
  | semantic o =>
    obtain rfl := Except.ok.inj h
    exact ⟨rfl, rfl⟩
  | observation o =>
    rw [rebuildEvidence, Checks.map_ok] at h
    obtain ⟨o', ho, rfl⟩ := h
    have hfingerprint := rebuildObservation_fingerprint ho
    refine ⟨congrArg (fun f => EvidenceId.observation (ObservationFingerprint.observationId f))
      hfingerprint, ?_⟩
    cases o with
    | imu imu =>
      rw [rebuildObservation, Checks.map_ok] at ho
      obtain ⟨imu', himu, rfl⟩ := ho
      simp only [ImuObservation.rebuild, Checks.bind_ok, Checks.require_ok, Checks.pure_ok] at himu
      obtain ⟨_, -, _, -, _, -, _, -, rfl⟩ := himu
      rfl
    | _ =>
      obtain rfl := Except.ok.inj ho
      rfl

variable {calls : List (BoundaryCall p)}

/-- Evidence that a call of the run hands over. -/
def HandedOver (config : PerceptionTrustConfig) (calls : List (BoundaryCall p))
    (evidence : Evidence p) : Prop :=
  ∃ call ∈ calls, call.handed config = some evidence

/-- Observations of one identity that a run hands over count under one entry. -/
theorem entry_eq_of_id (hfree : CollisionFree p (runTexts config calls)) {a b : Evidence p}
    (ha : HandedOver config calls a) (hb : HandedOver config calls b)
    (hid : a.evidenceId = b.evidenceId) {entry entry' : (PyStr × PyStr) × Nat}
    (hentry : a.entry config = some entry) (hentry' : b.entry config = some entry') :
    entry = entry' := by
  obtain ⟨call, hcall, hhanded⟩ := ha
  obtain ⟨call', hcall', hhanded'⟩ := hb
  have htext := text_mem_runTexts a hcall hhanded
  have htext' := text_mem_runTexts b hcall' hhanded'
  cases a with
  | semantic o => cases hentry
  | observation o =>
    cases b with
    | semantic o' => cases hentry'
    | observation o' =>
      have hsensed := sensed_of_entry hentry
      have hsensed' := sensed_of_entry hentry'
      have hsame := sameRecord_of_id hfree hsensed hsensed' htext htext'
        (EvidenceId.observation.inj hid)
      have hequal := latestEntry_eq config hsame hsensed hsensed'
      have hsome : some entry = some entry' := hentry.symm.trans (hequal.trans hentry')
      exact Option.some.inj hsome

/-- Semantic observations of one identity that a run hands over are of one frame and of one
interpretation. -/
theorem semantic_sources_of_id (hfree : CollisionFree p (runTexts config calls))
    {o o' : SemanticObservation} (ho : HandedOver config calls (.semantic o))
    (ho' : HandedOver config calls (.semantic o'))
    (hid : o.observationId p = o'.observationId p) :
    o.sourceVisualObservationId = o'.sourceVisualObservationId ∧
      o.sourceDetection.visualInterpretationObservationId =
        o'.sourceDetection.visualInterpretationObservationId := by
  obtain ⟨call, hcall, hhanded⟩ := ho
  obtain ⟨call', hcall', hhanded'⟩ := ho'
  have hdigest : digestOf p (encodeAscii o.document) = digestOf p (encodeAscii o'.document) :=
    congrArg SemanticObservationId.digest hid
  exact semantic_sources_eq (hfree.text_eq (text_mem_runTexts (.semantic o) hcall hhanded)
    (text_mem_runTexts (.semantic o') hcall' hhanded') hdigest)

end Entries

section Remembering

variable {p : Platform} {s : TrustBoundary p}

/-- A frame or an interpretation is stored, before the oldest ones go. -/
def stored (o : Observation p) (s : TrustBoundary p) : TrustBoundary p :=
  match o with
  | .visualFrame frame =>
    { s with visualSources := s.visualSources.set (frame.observationId p) frame }
  | .depthFrame frame => { s with depthSources := s.depthSources.set (frame.observationId p) frame }
  | .visualInterpretation interpretation => { s with
    visualInterpretations :=
      s.visualInterpretations.set interpretation.observationId interpretation }
  | _ => s

/-- After it was stored, frames and interpretations only go. -/
theorem thins_remember (o : Observation p) (s : TrustBoundary p) :
    Thins (stored o s) (TrustBoundary.remember o s) := by
  cases o with
  | visualFrame frame => exact thins_whileLoop thins_evictVisualSource _ _
  | depthFrame frame => exact thins_whileLoop thins_evictDepthSource _ _
  | visualInterpretation o => exact thins_whileLoop thins_evictVisualInterpretation _ _
  | _ => exact Thins.refl s

/-- Fewer frames. -/
theorem Thins.mem_frames {s' : TrustBoundary p} (h : Thins s s') {id : ObservationId}
    (hid : id ∈ s'.visualSources.keys) : id ∈ s.visualSources.keys := by
  obtain ⟨frame, hframe⟩ := PyDict.mem_keys.mp hid
  exact PyDict.mem_keys.mpr ⟨frame, h.frames id frame hframe⟩

/-- Fewer interpretations. -/
theorem Thins.mem_interpretations {s' : TrustBoundary p} (h : Thins s s') {id : ObservationId}
    (hid : id ∈ s'.visualInterpretations.keys) : id ∈ s.visualInterpretations.keys := by
  obtain ⟨o, ho⟩ := PyDict.mem_keys.mp hid
  exact PyDict.mem_keys.mpr ⟨o, h.interpretations id o ho⟩

/-- A remembered frame is the only new one. -/
theorem visualSources_remember {o : Observation p} {id : ObservationId}
    (h : id ∈ (TrustBoundary.remember o s).visualSources.keys) :
    id ∈ s.visualSources.keys ∨ id = o.observationId := by
  have hstored := (thins_remember o s).mem_frames h
  cases o with
  | visualFrame frame => exact (PyDict.mem_keys_set.mp hstored).symm
  | _ => exact Or.inl hstored

/-- A remembered interpretation is the only new one. -/
theorem visualInterpretations_remember {o : Observation p} {id : ObservationId}
    (h : id ∈ (TrustBoundary.remember o s).visualInterpretations.keys) :
    id ∈ s.visualInterpretations.keys ∨ id = o.observationId := by
  have hstored := (thins_remember o s).mem_interpretations h
  cases o with
  | visualInterpretation interpretation => exact (PyDict.mem_keys_set.mp hstored).symm
  | _ => exact Or.inl hstored

/-- What a semantic observation was read from does not come back with another identity. -/
theorem Settled.remember {o : Observation p} {semantic : SemanticObservation}
    (h : Settled semantic s) (hframe : semantic.sourceVisualObservationId ≠ o.observationId)
    (hinterpretation : semantic.sourceDetection.visualInterpretationObservationId ≠
      o.observationId) : Settled semantic (TrustBoundary.remember o s) := by
  refine (thins_remember o s).settled semantic ?_
  rcases h with hrecord | hgone | hgone
  · refine Or.inl ?_
    cases o <;> exact hrecord
  · refine Or.inr (Or.inl fun hmem => ?_)
    cases o with
    | visualFrame frame =>
      rcases PyDict.mem_keys_set.mp hmem with hnew | hold
      · exact hframe hnew
      · exact hgone hold
    | _ => exact hgone hmem
  · refine Or.inr (Or.inr fun hmem => ?_)
    cases o with
    | visualInterpretation interpretation =>
      rcases PyDict.mem_keys_set.mp hmem with hnew | hold
      · exact hinterpretation hnew
      · exact hgone hold
    | _ => exact hgone hmem

end Remembering

section Progress

variable {p : Platform} {config : PerceptionTrustConfig}
  {normalize : Quaternion → Option Quaternion} {calls : List (BoundaryCall p)}

/-- What a run has accepted since the last reset, against what the boundary retains. -/
structure Progress (config : PerceptionTrustConfig) (calls : List (BoundaryCall p))
    (s : TrustBoundary p) (accepted : List (Evidence p)) : Prop where
  /-- What was accepted is in order. -/
  order : accepted.Pairwise (Before config)
  /-- It was handed over, or rebuilt from what was. -/
  handed : ∀ e ∈ accepted, ∃ given, HandedOver config calls given ∧
    e.evidenceId = given.evidenceId ∧ e.entry config = given.entry config ∧
      ∀ o, e = .semantic o → given = e
  /-- Accepted observations count under a key, and the record of the key is not before them. -/
  recorded : ∀ o, Evidence.observation o ∈ accepted → ∃ key time current,
    latestEntry config o = some (key, time) ∧ s.lastByKey.get? key = some current ∧
      time ≤ current.1
  /-- Retained frames were accepted. -/
  frames : ∀ id ∈ s.visualSources.keys, EvidenceId.observation id ∈ accepted.map Evidence.evidenceId
  /-- Retained interpretations were accepted. -/
  interpretations : ∀ id ∈ s.visualInterpretations.keys,
    EvidenceId.observation id ∈ accepted.map Evidence.evidenceId
  /-- Accepted semantic observations are on record, or what they were read from, which was
  accepted too, is gone. -/
  semantics : ∀ o, Evidence.semantic o ∈ accepted → Settled o s ∧
    .observation o.sourceVisualObservationId ∈ accepted.map Evidence.evidenceId ∧
      .observation o.sourceDetection.visualInterpretationObservationId ∈
        accepted.map Evidence.evidenceId

variable {s s' : TrustBoundary p} {accepted : List (Evidence p)}

/-- Nothing was accepted at a reset. -/
theorem progress_reset : Progress config calls .reset [] where
  order := List.Pairwise.nil
  handed := fun _ he => nomatch he
  recorded := fun _ ho => nomatch ho
  frames := fun _ hid => nomatch hid
  interpretations := fun _ hid => nomatch hid
  semantics := fun _ ho => nomatch ho

/-- What is retained only goes while nothing is accepted. -/
theorem Progress.thin (h : Progress config calls s accepted) (hthins : Thins s s')
    (hlatest : s'.lastByKey = s.lastByKey) : Progress config calls s' accepted where
  order := h.order
  handed := h.handed
  recorded := by
    rw [hlatest]
    exact h.recorded
  frames := fun id hid => h.frames id (hthins.mem_frames hid)
  interpretations := fun id hid => h.interpretations id (hthins.mem_interpretations hid)
  semantics := fun o ho => by
    obtain ⟨hsettled, hsources⟩ := h.semantics o ho
    exact ⟨hthins.settled o hsettled, hsources⟩

/-- Calls that only count, or that only grant authorizations, keep the progress. -/
theorem Progress.congr (h : Progress config calls s accepted)
    (hlatest : s'.lastByKey = s.lastByKey) (hframes : s'.visualSources = s.visualSources)
    (hinterpretations : s'.visualInterpretations = s.visualInterpretations)
    (hsemantics : s'.semanticAdmissions = s.semanticAdmissions) :
    Progress config calls s' accepted :=
  h.thin (Thins.congr hframes hinterpretations hsemantics) hlatest

/-- Accepted evidence has the identity and the entry of handed evidence. -/
theorem handed_of_accepted {given rebuilt evidence : Evidence p}
    (hgiven : HandedOver config calls given)
    (hrebuilt : rebuildEvidence normalize given = .ok rebuilt)
    (hevidence : rebuildEvidence normalize rebuilt = .ok evidence) :
    ∃ given, HandedOver config calls given ∧ evidence.evidenceId = given.evidenceId ∧
      evidence.entry config = given.entry config ∧ ∀ o, evidence = .semantic o → given = evidence := by
  obtain ⟨hid, hentry⟩ := rebuilt_entry config hrebuilt
  obtain ⟨hid', hentry'⟩ := rebuilt_entry config hevidence
  refine ⟨given, hgiven, hid'.trans hid, hentry'.trans hentry, fun o ho => ?_⟩
  subst ho
  have hsame := rebuildEvidence_eq hevidence fun imu heq => nomatch heq
  rw [← hsame] at hrebuilt
  exact (rebuildEvidence_eq hrebuilt fun imu heq => nomatch heq).symm

/-- Fresh evidence of a handed identity comes after everything accepted. -/
theorem Progress.before (h : Progress config calls s accepted)
    (hfree : CollisionFree p (runTexts config calls)) {evidence : Evidence p}
    (hhanded : ∃ given, HandedOver config calls given ∧ evidence.evidenceId = given.evidenceId ∧
      evidence.entry config = given.entry config ∧ ∀ o, evidence = .semantic o → given = evidence)
    {key : PyStr × PyStr} {time : Nat} (hentry : evidence.entry config = some (key, time))
    (hlater : ∀ current, s.lastByKey.get? key = some current → current.1 < time) :
    ∀ e ∈ accepted, Before config e evidence := by
  intro e he
  have hafter : ∀ key' earlier, e.entry config = some (key', earlier) →
      key' = key → earlier < time := by
    intro key' earlier hearlier hkey
    cases e with
    | semantic o => cases hearlier
    | observation o =>
      obtain ⟨_, _, current, hcounted, hcurrent, hle⟩ := h.recorded o he
      have hsame : some _ = some _ := hcounted.symm.trans hearlier
      rw [Option.some.injEq, Prod.mk.injEq] at hsame
      rw [hsame.1, hkey] at hcurrent
      have hlt := hlater current hcurrent
      omega
  refine ⟨fun hid => ?_, ?_⟩
  · -- One identity would mean one entry, which is not later than itself.
    obtain ⟨given, hgiven, hgivenId, hgivenEntry, -⟩ := h.handed e he
    obtain ⟨given', hgiven', hgivenId', hgivenEntry', -⟩ := hhanded
    cases e with
    | semantic o =>
      cases evidence with
      | semantic o' => cases hentry
      | observation o' => cases hid
    | observation o =>
      obtain ⟨_, _, _, hcounted, -⟩ := h.recorded o he
      have hids : given.evidenceId = given'.evidenceId :=
        hgivenId.symm.trans (hid.trans hgivenId')
      have hequal := entry_eq_of_id hfree hgiven hgiven' hids (hgivenEntry.symm.trans hcounted)
        (hgivenEntry'.symm.trans hentry)
      have hlt := hafter key time (hcounted.trans (congrArg some hequal)) rfl
      omega
  · intro key' time' time'' hearlier hnew
    have hsame : some _ = some _ := hentry.symm.trans hnew
    rw [Option.some.injEq, Prod.mk.injEq] at hsame
    have hlt := hafter key' time' hearlier hsame.1.symm
    omega

/-- A later record of a key keeps the progress. -/
theorem Progress.record (h : Progress config calls s accepted) {key : PyStr × PyStr} {time : Nat}
    (hlater : ∀ current, s.lastByKey.get? key = some current → current.1 < time)
    (id : ObservationId) :
    Progress config calls { s with lastByKey := s.lastByKey.set key (time, id) } accepted where
  order := h.order
  handed := h.handed
  recorded := by
    intro o ho
    obtain ⟨key', time', current, hentry, hcurrent, hle⟩ := h.recorded o ho
    by_cases hkey : key' = key
    · have hlt := hlater current (hkey ▸ hcurrent)
      refine ⟨key', time', (time, id), hentry, ?_, hle.trans hlt.le⟩
      rw [hkey]
      exact PyDict.get?_set_self
    · exact ⟨key', time', current, hentry, (PyDict.get?_set_of_ne hkey).trans hcurrent, hle⟩
  frames := h.frames
  interpretations := h.interpretations
  semantics := h.semantics

/-- An observation that is remembered under its entry after all accepted ones. -/
theorem Progress.remember (h : Progress config calls s accepted) {o : Observation p}
    {evidence : Evidence p} {key : PyStr × PyStr} {time : Nat}
    (hhanded : ∃ given, HandedOver config calls given ∧ evidence.evidenceId = given.evidenceId ∧
      evidence.entry config = given.entry config ∧ ∀ o, evidence = .semantic o → given = evidence)
    (hid : evidence.evidenceId = .observation o.observationId)
    (hentry : evidence.entry config = some (key, time))
    (hlater : ∀ current, s.lastByKey.get? key = some current → current.1 < time)
    (hbefore : ∀ e ∈ accepted, Before config e evidence) (config' : PerceptionTrustConfig)
    (nowNs : Nat) :
    Progress config calls (TrustBoundary.remember o
      ({ s with lastByKey := s.lastByKey.set key (time, o.observationId) }.purgeVisualSources
        config' nowNs)) (accepted ++ [evidence]) := by
  -- The identity is new, so no semantic observation was read from it.
  have hnew : ∀ id, EvidenceId.observation id ∈ accepted.map Evidence.evidenceId →
      id ≠ o.observationId := by
    intro id hmem hsame
    obtain ⟨e, he, heid⟩ := List.mem_map.mp hmem
    exact (hbefore e he).1 (heid.trans (hsame ▸ hid.symm))
  have hids : ∀ id : EvidenceId, id ∈ (accepted ++ [evidence]).map Evidence.evidenceId ↔
      id ∈ accepted.map Evidence.evidenceId ∨ id = .observation o.observationId := by
    intro id
    rw [List.map_append, List.mem_append, List.map_singleton, List.mem_singleton, hid]
  have hpurged := thins_purge config' nowNs
    { s with lastByKey := s.lastByKey.set key (time, o.observationId) }
  have hlatest := lastByKey_remember o
    ({ s with lastByKey := s.lastByKey.set key (time, o.observationId) }.purgeVisualSources
      config' nowNs)
  refine ⟨?_, ?_, ?_, ?_, ?_, ?_⟩
  · rw [List.pairwise_append]
    exact ⟨h.order, List.pairwise_singleton _ _, fun e he other hother =>
      List.mem_singleton.mp hother ▸ hbefore e he⟩
  · intro e he
    rcases List.mem_append.mp he with hold | hlast
    · exact h.handed e hold
    · rw [List.mem_singleton.mp hlast]
      exact hhanded
  · intro counted hcounted
    rw [hlatest]
    rcases List.mem_append.mp hcounted with hold | hlast
    · exact (h.record hlater o.observationId).recorded counted hold
    · rw [← List.mem_singleton.mp hlast] at hentry
      exact ⟨key, time, (time, o.observationId), hentry, PyDict.get?_set_self, le_rfl⟩
  · intro id hmem
    rw [hids]
    rcases visualSources_remember hmem with hold | hsame
    · exact Or.inl (h.frames id (hpurged.mem_frames hold))
    · exact Or.inr (congrArg EvidenceId.observation hsame)
  · intro id hmem
    rw [hids]
    rcases visualInterpretations_remember hmem with hold | hsame
    · exact Or.inl (h.interpretations id (hpurged.mem_interpretations hold))
    · exact Or.inr (congrArg EvidenceId.observation hsame)
  · intro semantic hsemantic
    have hold : Evidence.semantic semantic ∈ accepted := by
      rcases List.mem_append.mp hsemantic with hold | hlast
      · exact hold
      · rw [← List.mem_singleton.mp hlast] at hid
        cases hid
    obtain ⟨hsettled, hframe, hinterpretation⟩ := h.semantics semantic hold
    have hkept : Settled semantic
        { s with lastByKey := s.lastByKey.set key (time, o.observationId) } := hsettled
    refine ⟨(hpurged.settled semantic hkept).remember (hnew _ hframe) (hnew _ hinterpretation),
      ?_, ?_⟩
    · rw [hids]
      exact Or.inl hframe
    · rw [hids]
      exact Or.inl hinterpretation

/-- An accepted observation keeps the progress. -/
theorem Progress.observation (h : Progress config calls s accepted)
    (hfree : CollisionFree p (runTexts config calls)) {given evidence : Evidence p}
    {o : Observation p} {nowNs receiptNs : Int} {source : PerceptionSourceContract}
    (hgiven : HandedOver config calls given)
    (hadmitted : Admitted config normalize given nowNs receiptNs (.observation o) source s s')
    (hevidence : rebuildEvidence normalize (.observation o) = .ok evidence) :
    Progress config calls s' (accepted ++ [evidence]) := by
  have hchecked := h.thin (thins_checkCall config nowNs receiptNs (.observation o) source s)
    lastByKey_checkCall
  have hhanded := handed_of_accepted hgiven hadmitted.rebuilt_eq hevidence
  obtain ⟨hid, hsame⟩ := rebuilt_entry config hevidence
  have hentry : evidence.entry config = some (stateKey source o, orderingTime o) :=
    hsame.trans (latestEntry_of_source hadmitted.admissible.source_eq)
  have hlater := compareLatest_fresh hadmitted.admissible.fresh
  have hbefore := hchecked.before hfree hhanded hentry hlater
  have hremembered := hchecked.remember hhanded hid hentry hlater hbefore config nowNs.toNat
  exact hremembered.thin hadmitted.retained.thins hadmitted.retained.lastByKey_eq

/-- An accepted semantic observation keeps the progress. -/
theorem Progress.semantic (h : Progress config calls s accepted)
    (hfree : CollisionFree p (runTexts config calls)) {given : Evidence p}
    {o : SemanticObservation} {nowNs receiptNs : Int} {source : PerceptionSourceContract}
    (hgiven : HandedOver config calls given)
    (hadmitted : Admitted config normalize given nowNs receiptNs (.semantic o) source s s') :
    Progress config calls s' (accepted ++ [.semantic o]) := by
  have hthins := thins_checkCall config nowNs receiptNs (.semantic o) source s
  have hchecked := h.thin hthins lastByKey_checkCall
  obtain ⟨hpassed, -⟩ := checkAgainst_single rfl hadmitted.admissible.checked
  obtain ⟨-, ⟨frame, hframe, -⟩, interpretation, hinterpretation, -⟩ := checkSemantic_passed hpassed
  have hfresh := hadmitted.admissible.fresh
  have hretained := hadmitted.retained
  generalize (checkCall config nowNs receiptNs (.semantic o) source s).1 = checked at *
  have hframeKey := PyDict.mem_keys.mpr ⟨frame, hframe⟩
  have hinterpretationKey := PyDict.mem_keys.mpr ⟨interpretation, hinterpretation⟩
  have hmissing : o.observationId p ∉ checked.semanticAdmissions.keys := by
    intro hmem
    rw [TrustBoundary.compare, TrustBoundary.compareSemantic, if_pos hmem] at hfresh
    cases hfresh
  have hagain : rebuildEvidence normalize (.semantic o : Evidence p) = .ok (.semantic o) := rfl
  have hhanded := handed_of_accepted hgiven hadmitted.rebuilt_eq hagain
  have hbefore : ∀ e ∈ accepted, Before config e (.semantic o) := by
    intro e he
    refine ⟨fun hid => ?_, fun _ _ _ _ hnew => nomatch hnew⟩
    cases e with
    | observation other => cases hid
    | semantic other =>
      obtain ⟨given', hgiven', -, -, hgivenSame'⟩ := h.handed _ he
      obtain ⟨given'', hgiven'', -, -, hgivenSame''⟩ := hhanded
      rw [hgivenSame' other rfl] at hgiven'
      rw [hgivenSame'' o rfl] at hgiven''
      have hsame : other.observationId p = o.observationId p := EvidenceId.semantic.inj hid
      obtain ⟨hsource, hsource'⟩ := semantic_sources_of_id hfree hgiven' hgiven'' hsame
      rcases (hchecked.semantics other he).1 with hrecord | hgone | hgone
      · exact hmissing (hsame ▸ PyDict.mem_keys.mpr ⟨other, hrecord⟩)
      · exact hgone (hsource ▸ hframeKey)
      · exact hgone (hsource' ▸ hinterpretationKey)
  have hpurged := thins_purge config nowNs.toNat checked
  have hkept := hchecked.thin hpurged rfl
  have hids : ∀ id : EvidenceId, id ∈ accepted.map Evidence.evidenceId →
      id ∈ (accepted ++ [Evidence.semantic o]).map Evidence.evidenceId := by
    intro id hmem
    rw [List.map_append]
    exact List.mem_append_left _ hmem
  have hstored : Progress config calls (checked.retain config nowNs.toNat source (.semantic o))
      (accepted ++ [.semantic o]) := by
    refine ⟨?_, ?_, ?_, fun id hmem => hids _ (hkept.frames id hmem),
      fun id hmem => hids _ (hkept.interpretations id hmem), ?_⟩
    · rw [List.pairwise_append]
      exact ⟨h.order, List.pairwise_singleton _ _, fun e he other hother =>
        List.mem_singleton.mp hother ▸ hbefore e he⟩
    · intro e he
      rcases List.mem_append.mp he with hold | hlast
      · exact h.handed e hold
      · rw [List.mem_singleton.mp hlast]
        exact hhanded
    · intro counted hcounted
      rcases List.mem_append.mp hcounted with hold | hlast
      · exact hkept.recorded counted hold
      · exact nomatch List.mem_singleton.mp hlast
    · intro other hother
      rcases List.mem_append.mp hother with hold | hlast
      · obtain ⟨hsettled, hframe', hinterpretation'⟩ := hkept.semantics other hold
        refine ⟨?_, hids _ hframe', hids _ hinterpretation'⟩
        rcases hsettled with hrecord | hgone
        · have hne : other.observationId p ≠ o.observationId p := fun hsame =>
            hmissing (hsame ▸ PyDict.mem_keys_of_keep (PyDict.mem_keys.mpr ⟨other, hrecord⟩))
          refine Or.inl ?_
          rw [← hrecord]
          exact PyDict.get?_set_of_ne hne
        · exact Or.inr hgone
      · obtain rfl := Evidence.semantic.inj (List.mem_singleton.mp hlast)
        exact ⟨Or.inl PyDict.get?_set_self, hids _ (hchecked.frames _ hframeKey),
          hids _ (hchecked.interpretations _ hinterpretationKey)⟩
  exact hstored.thin hretained.thins hretained.lastByKey_eq

/-- Evidence other than that of an inertial unit is accepted as it is. -/
theorem accepted_of_not_imu {rebuilt : Evidence p} (h : ∀ imu, rebuilt ≠ .observation (.imu imu)) :
    acceptedEvidence (acceptedResult normalize rebuilt) = some rebuilt := by
  have hsame : rebuildEvidence normalize rebuilt = .ok rebuilt := by
    cases rebuilt with
    | semantic o => rfl
    | observation o =>
      cases o with
      | imu imu => exact absurd rfl (h imu)
      | _ => rfl
  rw [acceptedResult, hsame]
  simp only [require, if_true, Checks.ok_bind]
  rfl

/-- Retained evidence keeps the progress, whether it can be returned or not. -/
theorem Progress.admitted {given rebuilt : Evidence p} {nowNs receiptNs : Int}
    {source : PerceptionSourceContract} (h : Progress config calls s accepted)
    (hfree : CollisionFree p (runTexts config calls)) (hgiven : HandedOver config calls given)
    (hadmitted : Admitted config normalize given nowNs receiptNs rebuilt source s s') :
    Progress config calls s'
      (accepted ++ (acceptedEvidence (acceptedResult normalize rebuilt)).toList) := by
  cases hresult : acceptedEvidence (acceptedResult normalize rebuilt) with
  | some evidence =>
    have hevidence := rebuild_of_accepted hresult
    cases rebuilt with
    | observation o => exact h.observation hfree hgiven hadmitted hevidence
    | semantic o =>
      obtain rfl := Except.ok.inj hevidence
      exact h.semantic hfree hgiven hadmitted
  | none =>
    rw [Option.toList_none, List.append_nil]
    by_cases hkind : ∃ imu, rebuilt = .observation (.imu imu)
    · -- The record of an inertial unit is kept although its observation was not returned.
      obtain ⟨imu, rfl⟩ := hkind
      have hchecked := h.thin (thins_checkCall config nowNs receiptNs (.observation (.imu imu))
        source s) lastByKey_checkCall
      have hrecorded := hchecked.record (compareLatest_fresh hadmitted.admissible.fresh)
        (Observation.imu (p := p) imu).observationId
      have hpurged := hrecorded.thin (thins_purge config nowNs.toNat _) rfl
      exact hpurged.thin hadmitted.retained.thins hadmitted.retained.lastByKey_eq
    · rw [accepted_of_not_imu fun imu heq => hkind ⟨imu, heq⟩] at hresult
      cases hresult

/-- Whatever an admission does keeps the progress. -/
theorem Progress.admission {given : Evidence p} {nowNs receiptNs : Int}
    {result : TrustBoundary p × Outcome p} (h : Progress config calls s accepted)
    (hfree : CollisionFree p (runTexts config calls)) (hgiven : HandedOver config calls given)
    (hcases : AdmissionCases config normalize given nowNs receiptNs s result) :
    Progress config calls result.1 (accepted ++ (acceptedEvidence result.2).toList) := by
  rcases hcases with ⟨hnone, htallied | hlooked⟩ | ⟨rebuilt, source, hadmitted, houtcome⟩
  · rw [hnone, Option.toList_none, List.append_nil]
    exact h.thin htallied.thins htallied.lastByKey_eq
  · obtain ⟨nowNs, receiptNs, rebuilt, source, htallied⟩ := hlooked
    rw [hnone, Option.toList_none, List.append_nil]
    exact (h.thin (thins_checkCall config nowNs receiptNs rebuilt source s)
      lastByKey_checkCall).thin htallied.thins htallied.lastByKey_eq
  · rw [houtcome]
    exact h.admitted hfree hgiven hadmitted

/-- Granting an authorization keeps the progress. -/
theorem Progress.authorize {call : BoundaryCall p} (h : Progress config calls s accepted)
    (hreply : ∀ outcome, (perform config normalize s call).2 ≠ .decided outcome)
    (hreset : call ≠ .reset) :
    Progress config calls (perform config normalize s call).1 accepted := by
  cases call with
  | authorizePhysicalCamera admission =>
    rw [perform, TrustBoundary.authorizePhysicalCamera]
    split
    · exact h.congr rfl rfl rfl rfl
    · exact h
  | authorizeDepthCamera admission =>
    rw [perform, TrustBoundary.authorizeDepthCamera]
    split
    · exact h.congr rfl rfl rfl rfl
    · exact h
  | authorizeAudio admission =>
    rw [perform, TrustBoundary.authorizeAudio]
    split
    · exact h.congr rfl rfl rfl rfl
    · exact h
  | authorizeEvaluatedVisual admission =>
    rw [perform, TrustBoundary.authorizeEvaluatedVisual]
    split
    · exact h.congr rfl rfl rfl rfl
    · exact h
  | authorizeRgbdFusion admission =>
    rw [perform, TrustBoundary.authorizeRgbdFusion]
    split
    · exact h.congr rfl rfl rfl rfl
    · exact h
  | admitEvidence evidence nowNs receiptNs => exact absurd rfl (hreply _)
  | reportFailure sensorId failure observedAtNs nowNs receiptNs => exact absurd rfl (hreply _)
  | reset => exact absurd rfl hreset

variable (normalize) in
/-- A call of the run keeps the progress. -/
theorem Progress.perform (h : Progress config calls s accepted)
    (hfree : CollisionFree p (runTexts config calls)) {call : BoundaryCall p} (hcall : call ∈ calls)
    (hreset : call ≠ .reset) :
    Progress config calls (perform config normalize s call).1
      (accepted ++ (BoundaryStep.accepted? ⟨call, (perform config normalize s call).2⟩).toList) := by
  cases call with
  | admitEvidence evidence nowNs receiptNs =>
    exact h.admission hfree ⟨_, hcall, rfl⟩ (admit_cases config normalize evidence nowNs receiptNs s)
  | reportFailure sensorId failure observedAtNs nowNs receiptNs =>
    rcases reportFailure_cases config normalize sensorId failure observedAtNs nowNs receiptNs s with
      ⟨hnone, htallied⟩ | ⟨health, hreported, hcases⟩
    · have hkept : Progress config calls (s.reportFailure config normalize sensorId failure
          observedAtNs nowNs receiptNs).1 (accepted ++ (acceptedEvidence (s.reportFailure config
            normalize sensorId failure observedAtNs nowNs receiptNs).2).toList) := by
        rw [hnone, Option.toList_none, List.append_nil]
        exact h.thin htallied.thins htallied.lastByKey_eq
      exact hkept
    · refine h.admission hfree ⟨_, hcall, ?_⟩ hcases
      rw [BoundaryCall.handed, hreported]
      rfl
  | reset => exact absurd rfl hreset
  | _ =>
    change Progress config calls _ (accepted ++ [])
    rw [List.append_nil]
    exact h.authorize (fun _ heq => nomatch heq) hreset

/-- What has progressed is in order. -/
theorem Progress.in_order (h : Progress config calls s accepted) :
    (accepted.map Evidence.evidenceId).Nodup ∧
      (∀ o, Evidence.observation o ∈ accepted →
        ∃ source, sourceFor config (.observation o) = some source) ∧
      accepted.Pairwise fun earlier later => ∀ o o' source source',
        earlier = .observation o → later = .observation o' →
          sourceFor config (.observation o) = some source →
          sourceFor config (.observation o') = some source' →
          stateKey source o = stateKey source' o' → orderingTime o < orderingTime o' := by
  refine ⟨?_, fun o ho => ?_, ?_⟩
  · rw [List.Nodup, List.pairwise_map]
    exact h.order.imp fun hbefore => hbefore.1
  · obtain ⟨key, time, current, hentry, -⟩ := h.recorded o ho
    rw [latestEntry, Option.map_eq_some_iff] at hentry
    obtain ⟨source, hsource, -⟩ := hentry
    exact ⟨source, hsource⟩
  · refine h.order.imp fun hbefore o o' source source' hearlier hlater hsource hsource' hkey => ?_
    rw [hearlier, hlater] at hbefore
    refine hbefore.2 (stateKey source o) _ _ (latestEntry_of_source hsource) ?_
    rw [hkey]
    exact latestEntry_of_source hsource'

end Progress

section Runs

variable {p : Platform}

/-- In every run, between resets, an identity is accepted at most once, an accepted observation
counts under the key of its source, and what is accepted under one key gets later and later. -/
theorem accepted_in_order (config : PerceptionTrustConfig)
    (normalize : Quaternion → Option Quaternion) (calls : List (BoundaryCall p))
    (hfree : CollisionFree p (runTexts config calls)) :
    ∀ epoch ∈ (BoundaryHistory.after config normalize calls).epochs,
      ((epoch.filterMap BoundaryStep.accepted?).map Evidence.evidenceId).Nodup ∧
      (∀ o, Evidence.observation o ∈ epoch.filterMap BoundaryStep.accepted? →
        ∃ source, sourceFor config (.observation o) = some source) ∧
      (epoch.filterMap BoundaryStep.accepted?).Pairwise fun earlier later =>
        ∀ o o' source source', earlier = .observation o → later = .observation o' →
          sourceFor config (.observation o) = some source →
          sourceFor config (.observation o') = some source' →
          stateKey source o = stateKey source' o' → orderingTime o < orderingTime o' := by
  refine (epochs_invariant config normalize calls
    (P := fun s steps => Progress config calls s (steps.filterMap BoundaryStep.accepted?))
    progress_reset ?_ fun s steps h => h.in_order).2
  intro s steps call hcall hreset h
  have hstep := h.perform normalize hfree hcall hreset
  rw [List.filterMap_append, List.filterMap_cons, List.filterMap_nil]
  cases haccepted : BoundaryStep.accepted? ⟨call, (perform config normalize s call).2⟩ with
  | none =>
    rw [haccepted] at hstep
    exact hstep
  | some evidence =>
    rw [haccepted] at hstep
    exact hstep

/-- The colour frames that fill the boundary have different identities. -/
theorem accepted_in_order_crowding :
    (((BoundaryHistory.after fixtureConfig some (crowding 64)).current.filterMap
      BoundaryStep.accepted?).map Evidence.evidenceId).Nodup :=
  (accepted_in_order fixtureConfig some (crowding 64) (crowding_collisionFree (by decide)) _
    List.mem_cons_self).1

end Runs

end Perception
end AyyoHumanoid
