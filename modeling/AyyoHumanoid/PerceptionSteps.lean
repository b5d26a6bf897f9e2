import AyyoHumanoid.PerceptionAdmission

/-!
# What an admission can do

An admission that accepts evidence has passed every check, found the evidence
fresh and retained it. Any other admission leaves the state as the checks left
it. The counts and the times of the last call are of no concern to what is
retained, so they are set apart.
-/

namespace AyyoHumanoid
namespace Perception

open PyText JsonText World Rgbd

section Tally

variable {p : Platform}

/-- Only the counts and the times of the last call differ. -/
def Tallied (s s' : TrustBoundary p) : Prop :=
  ∃ now receipt accepted duplicates rejected, s' = { s with
    lastNowNs := now
    lastReceiptMonotonicNs := receipt
    acceptedCount := accepted
    duplicateCount := duplicates
    rejectedCount := rejected }

/-- A state differs from itself in nothing. -/
theorem Tallied.refl (s : TrustBoundary p) : Tallied s s := ⟨_, _, _, _, _, rfl⟩

/-- Counting on. -/
theorem Tallied.trans {s s' s'' : TrustBoundary p} (h : Tallied s s') (h' : Tallied s' s'') :
    Tallied s s'' := by
  obtain ⟨_, _, _, _, _, rfl⟩ := h
  obtain ⟨_, _, _, _, _, rfl⟩ := h'
  exact ⟨_, _, _, _, _, rfl⟩

end Tally

section Inversion

variable {p : Platform} (config : PerceptionTrustConfig)
  (normalize : Quaternion → Option Quaternion)

/-- The times of a call are stored. -/
def TrustBoundary.timed (nowNs receiptNs : Nat) (s : TrustBoundary p) : TrustBoundary p :=
  { s with
    lastNowNs := some nowNs
    lastReceiptMonotonicNs := some receiptNs }

/-- A valid time. -/
def IsTime (value : Int) : Prop := 0 ≤ value ∧ value ≤ maxObservationTimeNs

/-- The checks of evidence of a source, in the state of a call. -/
def checkCall (nowNs receiptNs : Int) (rebuilt : Evidence p) (source : PerceptionSourceContract)
    (s : TrustBoundary p) : TrustBoundary p × Option Refusal :=
  checkAgainst config nowNs.toNat rebuilt source (s.timed nowNs.toNat receiptNs.toNat)

/-- Evidence that a call retains: its times are in order, its source is known, it passes the checks
and it is fresh. -/
structure Admissible (nowNs receiptNs : Int) (rebuilt : Evidence p)
    (source : PerceptionSourceContract) (s : TrustBoundary p) : Prop where
  /-- The times are valid. -/
  times : IsTime nowNs ∧ IsTime receiptNs
  /-- The source clock did not go back. -/
  clock : ¬∃ last ∈ s.lastNowNs, nowNs.toNat < last
  /-- The receipt time did not go back. -/
  receipt : ¬∃ last ∈ s.lastReceiptMonotonicNs, receiptNs.toNat < last
  /-- The robot is the configured one. -/
  robot : rebuilt.robotId.text = config.robotId
  /-- The clock is the configured one. -/
  domain : rebuilt.provenance.clock = config.sourceClock
  /-- The source agrees with it. -/
  source_eq : sourceFor config rebuilt = some source
  /-- It passes the checks. -/
  passed : (checkCall config nowNs receiptNs rebuilt source s).2 = none
  fresh : (checkCall config nowNs receiptNs rebuilt source s).1.compare source rebuilt = .fresh

/-- The evidence that an outcome accepts. -/
def acceptedEvidence : Outcome p → Option (Evidence p)
  | .ok result => if result.status = .accepted then result.observation else none
  | .error _ => none

/-- Evidence was rebuilt and retained. -/
structure Admitted (evidence : Evidence p) (nowNs receiptNs : Int) (rebuilt : Evidence p)
    (source : PerceptionSourceContract) (s s' : TrustBoundary p) : Prop where
  rebuilt_eq : rebuildEvidence normalize evidence = .ok rebuilt
  /-- It was to be retained. -/
  admissible : Admissible config nowNs receiptNs rebuilt source s
  retained : Tallied ((checkCall config nowNs receiptNs rebuilt source s).1.retain config
    nowNs.toNat source rebuilt) s'

/-- The state is as some checks left it. -/
def Looked (s s' : TrustBoundary p) : Prop :=
  ∃ nowNs receiptNs rebuilt source,
    Tallied (checkCall config nowNs receiptNs rebuilt source s).1 s'

/-- What an admission can do. -/
def AdmissionCases (evidence : Evidence p) (nowNs receiptNs : Int) (s : TrustBoundary p)
    (result : TrustBoundary p × Outcome p) : Prop :=
  (acceptedEvidence result.2 = none ∧ (Tallied s result.1 ∨ Looked config s result.1)) ∨
    ∃ rebuilt source,
      Admitted config normalize evidence nowNs receiptNs rebuilt source s result.1 ∧
        acceptedEvidence result.2 = acceptedEvidence (acceptedResult normalize rebuilt)

variable {config normalize} {nowNs receiptNs : Int} {evidence rebuilt : Evidence p}
  {source : PerceptionSourceContract} {s s' : TrustBoundary p}

/-- Storing the times counts as a tally. -/
theorem tallied_timed (now receipt : Nat) (s : TrustBoundary p) :
    Tallied s (s.timed now receipt) := ⟨_, _, _, _, _, rfl⟩

/-- A retained observation passed the checks. -/
theorem Admissible.checked (h : Admissible config nowNs receiptNs rebuilt source s) :
    checkAgainst config nowNs.toNat rebuilt source (s.timed nowNs.toNat receiptNs.toNat) =
      ((checkCall config nowNs receiptNs rebuilt source s).1, none) :=
  Prod.ext rfl h.passed

/-- A time passes its check. -/
theorem validateTime_ok {value : Int} {fieldName : String} {time : Nat} :
    validateTime value fieldName = .ok time ↔ IsTime value ∧ value.toNat = time := by
  rw [validateTime, Checks.require_bind_ok, Checks.pure_ok]
  rfl

/-- A rejection is counted. -/
theorem tallied_reject {why : Refusal} {id : Option EvidenceId} :
    Tallied s (s.reject why id).1 := ⟨_, _, _, _, _, rfl⟩

/-- A rejection is a case of an admission. -/
theorem cases_reject {before : TrustBoundary p} {why : Refusal} {id : Option EvidenceId}
    (hbefore : Tallied s before) :
    AdmissionCases config normalize evidence nowNs receiptNs s (before.reject why id) :=
  Or.inl ⟨rfl, Or.inl (hbefore.trans tallied_reject)⟩

/-- Evidence of a known source. -/
theorem admitFrom_cases (hrebuilt : rebuildEvidence normalize evidence = .ok rebuilt)
    (hadmissible : (checkCall config nowNs receiptNs rebuilt source s).2 = none →
      (checkCall config nowNs receiptNs rebuilt source s).1.compare source rebuilt = .fresh →
      Admissible config nowNs receiptNs rebuilt source s) :
    AdmissionCases config normalize evidence nowNs receiptNs s
      ((s.timed nowNs.toNat receiptNs.toNat).admitFrom config normalize nowNs.toNat rebuilt
        source) := by
  have hlooked : ∀ s', Tallied (checkCall config nowNs receiptNs rebuilt source s).1 s' →
      Looked config s s' := fun s' htallied => ⟨nowNs, receiptNs, rebuilt, source, htallied⟩
  cases hchecked : checkCall config nowNs receiptNs rebuilt source s with
  | mk checked why =>
    have hchecks : checkAgainst config nowNs.toNat rebuilt source
        (s.timed nowNs.toNat receiptNs.toNat) = (checked, why) := hchecked
    rw [TrustBoundary.admitFrom, hchecks]
    rw [hchecked] at hlooked hadmissible
    cases why with
    | some why => exact Or.inl ⟨rfl, Or.inr (hlooked _ tallied_reject)⟩
    | none =>
      simp only [TrustBoundary.settle]
      cases hcompare : checked.compare source rebuilt with
      | same =>
        have hduplicate : Tallied checked (checked.duplicate rebuilt.evidenceId).1 :=
          ⟨_, _, _, _, _, rfl⟩
        exact Or.inl ⟨rfl, Or.inr (hlooked _ hduplicate)⟩
      | refused why => exact Or.inl ⟨rfl, Or.inr (hlooked _ tallied_reject)⟩
      | fresh =>
        refine Or.inr ⟨rebuilt, source, ?_, rfl⟩
        exact {
          rebuilt_eq := hrebuilt
          admissible := hadmissible rfl hcompare
          retained := by
            rw [hchecked]
            exact ⟨_, _, _, _, _, rfl⟩ }

/-- Rebuilt evidence at valid times. -/
theorem admitAt_cases (hrebuilt : rebuildEvidence normalize evidence = .ok rebuilt)
    (htimes : IsTime nowNs ∧ IsTime receiptNs) :
    AdmissionCases config normalize evidence nowNs receiptNs s
      (s.admitAt config normalize nowNs.toNat receiptNs.toNat rebuilt) := by
  rw [TrustBoundary.admitAt]
  by_cases hclock : ∃ last ∈ s.lastNowNs, nowNs.toNat < last
  · rw [if_pos hclock]
    exact Or.inl ⟨rfl, Or.inl (Tallied.refl s)⟩
  · rw [if_neg hclock]
    have hnow : Tallied s { s with lastNowNs := some nowNs.toNat } := ⟨_, _, _, _, _, rfl⟩
    by_cases hreceipt : ∃ last ∈ s.lastReceiptMonotonicNs, receiptNs.toNat < last
    · simp only [if_pos hreceipt]
      exact cases_reject hnow
    · simp only [if_neg hreceipt, TrustBoundary.admitTimely]
      have htimed := tallied_timed nowNs.toNat receiptNs.toNat s
      by_cases hrobot : rebuilt.robotId.text ≠ config.robotId
      · rw [if_pos hrobot]
        exact cases_reject htimed
      · rw [if_neg hrobot]
        by_cases hdomain : rebuilt.provenance.clock ≠ config.sourceClock
        · rw [if_pos hdomain]
          exact cases_reject htimed
        · rw [if_neg hdomain]
          cases hsource : sourceFor config rebuilt with
          | none => exact cases_reject htimed
          | some source =>
            exact admitFrom_cases hrebuilt fun hpassed hfresh => {
              times := htimes
              clock := hclock
              receipt := hreceipt
              robot := not_not.mp hrobot
              domain := not_not.mp hdomain
              source_eq := hsource
              passed := hpassed
              fresh := hfresh }

variable (config normalize) in
/-- What an admission can do. -/
theorem admit_cases (evidence : Evidence p) (nowNs receiptNs : Int) (s : TrustBoundary p) :
    AdmissionCases config normalize evidence nowNs receiptNs s
      (s.admitEvidence config normalize evidence nowNs receiptNs) := by
  have hrebuild : ∀ rebuilt, rebuildEvidence normalize evidence = .ok rebuilt →
      AdmissionCases config normalize evidence nowNs receiptNs s
        (s.admitRebuilt config normalize nowNs receiptNs rebuilt) := by
    intro rebuilt hrebuilt
    rw [TrustBoundary.admitRebuilt]
    cases hnow : validateTime nowNs "source now" with
    | error error => exact Or.inl ⟨rfl, Or.inl (Tallied.refl s)⟩
    | ok now =>
      cases hreceipt : validateTime receiptNs "monotonic receipt" with
      | error error => exact Or.inl ⟨rfl, Or.inl (Tallied.refl s)⟩
      | ok receipt =>
        obtain ⟨htime, rfl⟩ := validateTime_ok.mp hnow
        obtain ⟨htime', rfl⟩ := validateTime_ok.mp hreceipt
        exact admitAt_cases hrebuilt ⟨htime, htime'⟩
  rw [TrustBoundary.admitEvidence]
  split
  · exact cases_reject (Tallied.refl s)
  · exact cases_reject (Tallied.refl s)
  · exact hrebuild _ ‹_›

/-- The state after evidence was checked, retained and counted. -/
def retainedAfter (config : PerceptionTrustConfig) (nowNs receiptNs : Int) (rebuilt : Evidence p)
    (source : PerceptionSourceContract) (s : TrustBoundary p) : TrustBoundary p :=
  let kept := (checkCall config nowNs receiptNs rebuilt source s).1.retain config nowNs.toNat source
    rebuilt
  { kept with acceptedCount := kept.acceptedCount + 1 }

/-- Evidence that a call is to retain is retained and counted. -/
theorem admitEvidence_eq (hrebuilt : rebuildEvidence normalize evidence = .ok rebuilt)
    (hkind : ∀ entity, rebuilt ≠ .observation (.environmentEntity entity))
    (h : Admissible config nowNs receiptNs rebuilt source s) :
    s.admitEvidence config normalize evidence nowNs receiptNs =
      (retainedAfter config nowNs receiptNs rebuilt source s, acceptedResult normalize rebuilt) := by
  have hrebuild : s.admitEvidence config normalize evidence nowNs receiptNs =
      s.admitRebuilt config normalize nowNs receiptNs rebuilt := by
    rw [TrustBoundary.admitEvidence, hrebuilt]
    split
    · rename_i heq
      cases heq
    · rename_i entity heq
      exact absurd (Except.ok.inj heq) (hkind entity)
    · rename_i heq
      rw [Except.ok.inj heq]
  have hfrom : s.admitRebuilt config normalize nowNs receiptNs rebuilt =
      (s.timed nowNs.toNat receiptNs.toNat).admitFrom config normalize nowNs.toNat rebuilt
        source := by
    rw [TrustBoundary.admitRebuilt, validateTime_ok.mpr ⟨h.times.1, rfl⟩,
      validateTime_ok.mpr ⟨h.times.2, rfl⟩]
    simp only [TrustBoundary.admitAt, if_neg h.clock, if_neg h.receipt, TrustBoundary.admitTimely,
      h.robot, h.domain, h.source_eq, ne_eq, not_true_eq_false, if_false]
    rfl
  rw [hrebuild, hfrom, TrustBoundary.admitFrom, h.checked]
  simp only [TrustBoundary.settle, h.fresh]
  rfl

/-- Evidence that a call is to retain is retained. -/
theorem admit_of_admissible (hrebuilt : rebuildEvidence normalize evidence = .ok rebuilt)
    (hkind : ∀ entity, rebuilt ≠ .observation (.environmentEntity entity))
    (h : Admissible config nowNs receiptNs rebuilt source s) :
    Admitted config normalize evidence nowNs receiptNs rebuilt source s
        (s.admitEvidence config normalize evidence nowNs receiptNs).1 ∧
      (s.admitEvidence config normalize evidence nowNs receiptNs).2 =
        acceptedResult normalize rebuilt := by
  rw [admitEvidence_eq hrebuilt hkind h]
  exact ⟨⟨hrebuilt, h, ⟨_, _, _, _, _, rfl⟩⟩, rfl⟩

/-- A report adds to the result of the admission, but accepts the same evidence. -/
theorem acceptedEvidence_failureResult (failure : EvidenceFailureKind) (outcome : Outcome p) :
    acceptedEvidence (failureResult failure <$> outcome) = acceptedEvidence outcome := by
  cases outcome with
  | error error => rfl
  | ok result =>
    change acceptedEvidence (.ok (failureResult failure result)) = _
    rw [failureResult]
    by_cases hstatus : result.status = .accepted
    · rw [if_pos hstatus]
      rfl
    · rw [if_neg hstatus]

variable (config) in
/-- The health fact that a report hands over. -/
def reportedHealth (sensorId : PyStr) (failure : EvidenceFailureKind) (observedAtNs : Int) :
    Option SensorHealthObservation :=
  match config.sources.filter (·.sensor.sensorId.text = sensorId) with
  | [source] => (failureHealth config source failure observedAtNs).toOption
  | _ => none

variable (config normalize) in
/-- What a report can do. -/
theorem reportFailure_cases (sensorId : PyStr) (failure : EvidenceFailureKind)
    (observedAtNs nowNs receiptNs : Int) (s : TrustBoundary p) :
    (acceptedEvidence (s.reportFailure config normalize sensorId failure observedAtNs nowNs
          receiptNs).2 = none ∧
        Tallied s (s.reportFailure config normalize sensorId failure observedAtNs nowNs
          receiptNs).1) ∨
      ∃ health, reportedHealth config sensorId failure observedAtNs = some health ∧
        AdmissionCases config normalize (.observation (.sensorHealth health)) nowNs receiptNs s
          (s.reportFailure config normalize sensorId failure observedAtNs nowNs receiptNs) := by
  rw [TrustBoundary.reportFailure]
  split
  · rename_i source hsource
    cases hhealth : failureHealth config source failure observedAtNs with
    | error error => exact Or.inl ⟨rfl, Tallied.refl s⟩
    | ok health =>
      have hcases := admit_cases config normalize (.observation (.sensorHealth health)) nowNs
        receiptNs s
      have hreported : reportedHealth config sensorId failure observedAtNs = some health := by
        rw [reportedHealth, hsource]
        change (failureHealth config source failure observedAtNs).toOption = some health
        rw [hhealth]
        rfl
      refine Or.inr ⟨health, hreported, ?_⟩
      simp only [AdmissionCases, acceptedEvidence_failureResult]
      exact hcases
  · exact Or.inl ⟨rfl, tallied_reject⟩

/-- Accepted evidence is the rebuilt evidence, rebuilt once more. -/
theorem rebuild_of_accepted {accepted : Evidence p}
    (h : acceptedEvidence (acceptedResult normalize rebuilt) = some accepted) :
    rebuildEvidence normalize rebuilt = .ok accepted := by
  rw [acceptedResult] at h
  cases hagain : rebuildEvidence normalize rebuilt with
  | error error =>
    rw [hagain] at h
    cases h
  | ok again =>
    rw [hagain] at h
    by_cases hid : rebuilt.evidenceId = again.evidenceId
    · simp only [hid, require, if_true, Checks.ok_bind] at h
      exact congrArg Except.ok (Option.some.inj h)
    · simp only [hid, require, if_false] at h
      cases h

/-- Only inertial observations are changed when they are rebuilt. -/
theorem rebuildEvidence_eq {given : Evidence p}
    (h : rebuildEvidence normalize given = .ok rebuilt)
    (hkind : ∀ imu, rebuilt ≠ .observation (.imu imu)) : rebuilt = given := by
  cases given with
  | semantic o => exact (Except.ok.inj h).symm
  | observation o =>
    rw [rebuildEvidence, Checks.map_ok] at h
    obtain ⟨o', ho, rfl⟩ := h
    have hsame := rebuildObservation_eq ho fun imu heq => hkind imu (congrArg _ heq)
    rw [hsame]

end Inversion

section Relations

variable {p : Platform}

/-- A relation that holds between the states before and after whatever a check does. -/
structure CheckRelation (config : PerceptionTrustConfig)
    (R : TrustBoundary p → TrustBoundary p → Prop) : Prop where
  /-- It is reflexive. -/
  refl : ∀ s, R s s
  /-- It is transitive. -/
  trans : ∀ {a b c}, R a b → R b c → R a c
  /-- Expired evidence is dropped. -/
  purge : ∀ nowNs s, R s (s.purgeVisualSources config nowNs)
  /-- A physical camera's authorization is taken out. -/
  physical : ∀ s id, R s { s with
    physicalCameraAuthorizations := s.physicalCameraAuthorizations.remove id }
  /-- A depth camera's authorization is taken out. -/
  depth : ∀ s id, R s { s with
    depthCameraAuthorizations := s.depthCameraAuthorizations.remove id }
  /-- A microphone's authorization is taken out. -/
  audio : ∀ s id, R s { s with audioAuthorizations := s.audioAuthorizations.remove id }
  /-- A pair's authorization is taken out. -/
  fusion : ∀ s id, R s { s with rgbdFusionAuthorizations := s.rgbdFusionAuthorizations.remove id }
  /-- An evaluated result's authorization is taken out. -/
  evaluated : ∀ s id, R s { s with
    evaluatedVisualAuthorizations := s.evaluatedVisualAuthorizations.remove id }

variable {config : PerceptionTrustConfig} {R : TrustBoundary p → TrustBoundary p → Prop}

/-- A check of sealed evidence respects what taking out does. -/
theorem respects_checkSeal (hrefl : ∀ s, R s s) (htrans : ∀ {a b c}, R a b → R b c → R a c)
    {ρ : Type} {requirement : Option ρ} {agrees : ρ → Prop} [DecidablePred agrees]
    {required mismatch : Refusal} {taken : Check p} (htaken : Stage.Respects R taken) :
    Stage.Respects R (checkSeal requirement agrees required mismatch taken) := by
  refine Stage.respects_requiring hrefl fun value => ?_
  refine Stage.respects_sequence hrefl htrans ?_
  rw [List.forall_mem_cons, List.forall_mem_singleton]
  exact ⟨Stage.respects_refuseWhen hrefl, htaken⟩

/-- The check of physical RGB evidence. -/
theorem CheckRelation.respects_checkPhysicalCamera (h : CheckRelation config R)
    (o : Observation p) : Stage.Respects R (checkPhysicalCamera config o) :=
  Stage.respects_onlyWhen h.refl fun _ => respects_checkSeal h.refl h.trans fun s => h.physical s _

/-- The check of depth evidence. -/
theorem CheckRelation.respects_checkDepthCamera (h : CheckRelation config R)
    (o : Observation p) : Stage.Respects R (checkDepthCamera config o) :=
  Stage.respects_onlyWhen h.refl fun _ => respects_checkSeal h.refl h.trans fun s => h.depth s _

/-- The check of audio evidence. -/
theorem CheckRelation.respects_checkAudio (h : CheckRelation config R)
    (o : Observation p) : Stage.Respects R (checkAudio config o) :=
  Stage.respects_onlyWhen h.refl fun _ => respects_checkSeal h.refl h.trans fun s => h.audio s _

/-- The check of an evaluation. -/
theorem CheckRelation.respects_checkEvaluation (h : CheckRelation config R)
    (o : VisualInterpretationObservation p) : Stage.Respects R (checkEvaluation config o) := by
  rw [checkEvaluation]
  cases o.evaluationReference with
  | none => exact Stage.respects_refuseWhen h.refl
  | some reference => exact respects_checkSeal h.refl h.trans fun s => h.evaluated s _

/-- The check of an interpretation. -/
theorem CheckRelation.respects_checkInterpretation (h : CheckRelation config R) (nowNs : Nat)
    (o : VisualInterpretationObservation p) :
    Stage.Respects R (checkInterpretation config nowNs o) := by
  refine Stage.respects_sequence h.refl h.trans ?_
  simp only [List.forall_mem_cons]
  exact ⟨Stage.respects_requiring h.refl fun _ => Stage.respects_refuseWhen h.refl,
    h.respects_checkEvaluation o,
    Stage.respects_requiring h.refl fun _ => Stage.respects_refuseWhen h.refl,
    Stage.respects_refuseWhen h.refl, List.forall_mem_nil _⟩

/-- The check of semantic evidence. -/
theorem CheckRelation.respects_checkSemantic (h : CheckRelation config R) (nowNs : Nat)
    (o : SemanticObservation) : Stage.Respects R (checkSemantic (p := p) config nowNs o) := by
  have hframe : Stage.Respects R (checkSemanticFrame o) := by
    refine Stage.respects_requiring h.refl fun _ => Stage.respects_sequence h.refl h.trans ?_
    rw [List.forall_mem_cons, List.forall_mem_singleton]
    exact ⟨Stage.respects_refuseWhen h.refl, Stage.respects_refuseWhen h.refl⟩
  have hinterpretation : Stage.Respects R (checkSemanticInterpretation o) := by
    refine Stage.respects_requiring h.refl fun _ => Stage.respects_sequence h.refl h.trans ?_
    rw [List.forall_mem_cons, List.forall_mem_singleton]
    exact ⟨Stage.respects_refuseWhen h.refl,
      Stage.respects_requiring h.refl fun _ => Stage.respects_refuseWhen h.refl⟩
  refine Stage.respects_sequence h.refl h.trans ?_
  simp only [List.forall_mem_cons]
  exact ⟨h.purge nowNs, Stage.respects_refuseWhen h.refl, Stage.respects_refuseWhen h.refl, hframe,
    Stage.respects_refuseWhen h.refl, hinterpretation, List.forall_mem_nil _⟩

/-- The checks that depend on the kind of evidence. -/
theorem CheckRelation.respects_checkKind (h : CheckRelation config R)
    {source : PerceptionSourceContract} {nowNs : Nat} {rebuilt : Evidence p} :
    ∀ check ∈ checkKind config source nowNs rebuilt, Stage.Respects R check := by
  intro check hmem
  rw [checkKind.eq_def] at hmem
  split at hmem <;> simp only [List.mem_cons, List.not_mem_nil, or_false] at hmem
  · exact hmem ▸ h.respects_checkSemantic nowNs _
  · exact hmem ▸ respects_checkSeal h.refl h.trans fun s => h.fusion s _
  · exact hmem ▸ h.respects_checkInterpretation nowNs _
  · rcases hmem with rfl | rfl
    · exact h.respects_checkAudio _
    · exact Stage.respects_refuseWhen h.refl
  · exact hmem ▸ Stage.respects_refuseWhen h.refl
  · rcases hmem with rfl | rfl | rfl
    · exact h.respects_checkPhysicalCamera _
    · exact h.respects_checkDepthCamera _
    · exact h.respects_checkAudio _

/-- Every check of an admission. -/
theorem CheckRelation.respects_each (h : CheckRelation config R)
    {source : PerceptionSourceContract} {nowNs : Nat} {rebuilt : Evidence p} {check : Check p}
    (hmem : check ∈ checksAgainst config nowNs rebuilt source) :
    Stage.Respects R check := by
  rw [checksAgainst, List.mem_append, List.mem_cons, List.mem_singleton] at hmem
  rcases hmem with hkind | rfl | rfl
  · exact h.respects_checkKind check hkind
  · exact Stage.respects_refuseWhen h.refl
  · exact Stage.respects_refuseWhen h.refl

/-- The checks against a source. -/
theorem CheckRelation.respects_checkAgainst (h : CheckRelation config R) (nowNs : Nat)
    (rebuilt : Evidence p) (source : PerceptionSourceContract) :
    Stage.Respects R (checkAgainst config nowNs rebuilt source) :=
  Stage.respects_sequence h.refl h.trans fun _ hmem => h.respects_each hmem

/-- A check of the kind of the evidence was passed on the way. -/
theorem CheckRelation.passed_kind (h : CheckRelation config R) {nowNs : Nat}
    {rebuilt : Evidence p} {source : PerceptionSourceContract} {before checked : TrustBoundary p}
    {check : Check p} (hpassed : checkAgainst config nowNs rebuilt source before = (checked, none))
    (hmem : check ∈ checkKind config source nowNs rebuilt) :
    ∃ s s', R before s ∧ check s = (s', none) ∧ R s' checked :=
  Stage.passed_stage h.refl h.trans (fun _ hother => h.respects_each hother)
    (List.mem_append_left _ hmem) hpassed

/-- Evidence with a single check of its kind passed it, and is not older than the retention. -/
theorem checkAgainst_single {nowNs : Nat} {rebuilt : Evidence p}
    {source : PerceptionSourceContract} {s s' : TrustBoundary p} {check : Check p}
    (hkind : checkKind config source nowNs rebuilt = [check])
    (h : checkAgainst config nowNs rebuilt source s = (s', none)) :
    check s = (s', none) ∧
      ¬(rebuilt.observedAtNs : Int) < (nowNs : Int) - config.retentionTtlNs := by
  rw [checkAgainst, checksAgainst, hkind, List.cons_append, List.nil_append] at h
  simp only [Stage.sequence_cons, Stage.refuseWhen_passed, Stage.sequence_nil] at h
  obtain ⟨_, hcheck, _, ⟨-, rfl⟩, _, ⟨hretained, rfl⟩, rfl⟩ := h
  exact ⟨hcheck, hretained⟩

end Relations

section Calls

variable {p : Platform}

/-- A call of the boundary. -/
inductive BoundaryCall (p : Platform) where
  | authorizePhysicalCamera (admission : PhysicalCameraAdmission)
  | authorizeDepthCamera (admission : DepthCameraAdmission)
  | authorizeAudio (admission : AudioCaptureAdmission)
  | authorizeEvaluatedVisual (admission : EvaluatedVisualAdmission p)
  | authorizeRgbdFusion (admission : FusionAdmission)
  /-- `admit`. -/
  | admitEvidence (evidence : Evidence p) (nowNs receivedAtMonotonicNs : Int)
  | reportFailure (sensorId : PyStr) (failure : EvidenceFailureKind)
      (observedAtNs nowNs receivedAtMonotonicNs : Int)
  | reset

/-- What a call returns or raises. -/
inductive BoundaryReply (p : Platform) where
  /-- An authorization was granted or not. -/
  | authorized (granted : Bool)
  /-- An admission was decided. -/
  | decided (outcome : Outcome p)
  /-- Nothing. -/
  | done

/-- One call. -/
def perform (config : PerceptionTrustConfig) (normalize : Quaternion → Option Quaternion)
    (s : TrustBoundary p) : BoundaryCall p → TrustBoundary p × BoundaryReply p
  | .authorizePhysicalCamera admission =>
    (s.authorizePhysicalCamera config admission).map id .authorized
  | .authorizeDepthCamera admission =>
    (s.authorizeDepthCamera config admission).map id .authorized
  | .authorizeAudio admission => (s.authorizeAudio config admission).map id .authorized
  | .authorizeEvaluatedVisual admission =>
    (s.authorizeEvaluatedVisual config admission).map id .authorized
  | .authorizeRgbdFusion admission =>
    (s.authorizeRgbdFusion config admission).map id .authorized
  | .admitEvidence evidence nowNs receivedAtMonotonicNs =>
    (s.admitEvidence config normalize evidence nowNs receivedAtMonotonicNs).map id .decided
  | .reportFailure sensorId failure observedAtNs nowNs receivedAtMonotonicNs =>
    (s.reportFailure config normalize sensorId failure observedAtNs nowNs
      receivedAtMonotonicNs).map id .decided
  | .reset => (.reset, .done)

/-- A call and its reply. -/
structure BoundaryStep (p : Platform) where
  call : BoundaryCall p
  reply : BoundaryReply p

/-- The evidence that a call accepted. -/
def BoundaryStep.accepted? (step : BoundaryStep p) : Option (Evidence p) :=
  match step.reply with
  | .decided outcome => acceptedEvidence outcome
  | _ => none

/-- The boundary and its epochs, which start at a reset, each with its calls in order. -/
structure BoundaryHistory (p : Platform) where
  state : TrustBoundary p
  /-- The calls since the last reset. -/
  current : List (BoundaryStep p)
  /-- The calls of the epochs before, the latest first. -/
  earlier : List (List (BoundaryStep p))

/-- All epochs. -/
def BoundaryHistory.epochs (history : BoundaryHistory p) : List (List (BoundaryStep p)) :=
  history.current :: history.earlier

/-- One call. -/
def BoundaryHistory.call (config : PerceptionTrustConfig)
    (normalize : Quaternion → Option Quaternion) (history : BoundaryHistory p) :
    BoundaryCall p → BoundaryHistory p
  | .reset => ⟨.reset, [], history.epochs⟩
  | call =>
    let result := perform config normalize history.state call
    ⟨result.1, history.current ++ [⟨call, result.2⟩], history.earlier⟩

/-- A run of calls on a new boundary. -/
def BoundaryHistory.after (config : PerceptionTrustConfig)
    (normalize : Quaternion → Option Quaternion) (calls : List (BoundaryCall p)) :
    BoundaryHistory p :=
  calls.foldl (BoundaryHistory.call config normalize) ⟨.reset, [], []⟩

end Calls

section Runs

variable {p : Platform} {config : PerceptionTrustConfig}
  {normalize : Quaternion → Option Quaternion}

variable (config normalize) in
/-- What holds at a reset and is kept by every other call holds of every epoch. -/
theorem epochs_invariant (calls : List (BoundaryCall p))
    {P : TrustBoundary p → List (BoundaryStep p) → Prop} {Q : List (BoundaryStep p) → Prop}
    (hreset : P .reset [])
    (hstep : ∀ s steps, ∀ call ∈ calls, call ≠ .reset → P s steps →
      P (perform config normalize s call).1
        (steps ++ [⟨call, (perform config normalize s call).2⟩]))
    (hepoch : ∀ s steps, P s steps → Q steps) :
    P (BoundaryHistory.after config normalize calls).state
        (BoundaryHistory.after config normalize calls).current ∧
      ∀ epoch ∈ (BoundaryHistory.after config normalize calls).epochs, Q epoch := by
  have hcall : ∀ (history : BoundaryHistory p), ∀ call ∈ calls,
      P history.state history.current → (∀ epoch ∈ history.earlier, Q epoch) →
      P (history.call config normalize call).state (history.call config normalize call).current ∧
        ∀ epoch ∈ (history.call config normalize call).earlier, Q epoch := by
    intro history call hmem hstate hearlier
    cases call with
    | reset =>
      refine ⟨hreset, fun epoch hepoch' => ?_⟩
      rcases List.mem_cons.mp hepoch' with rfl | hbefore
      · exact hepoch _ _ hstate
      · exact hearlier epoch hbefore
    | _ => exact ⟨hstep _ _ _ hmem (fun hreset => nomatch hreset) hstate, hearlier⟩
  have hrun : ∀ rest : List (BoundaryCall p), (∀ call ∈ rest, call ∈ calls) →
      ∀ history : BoundaryHistory p, P history.state history.current →
      (∀ epoch ∈ history.earlier, Q epoch) →
      P (rest.foldl (BoundaryHistory.call config normalize) history).state
          (rest.foldl (BoundaryHistory.call config normalize) history).current ∧
        ∀ epoch ∈ (rest.foldl (BoundaryHistory.call config normalize) history).earlier,
          Q epoch := by
    intro rest
    induction rest with
    | nil => exact fun _ history hstate hearlier => ⟨hstate, hearlier⟩
    | cons call rest ih =>
      intro hrest history hstate hearlier
      obtain ⟨hcurrent, hrest⟩ := List.forall_mem_cons.mp hrest
      obtain ⟨hstate', hearlier'⟩ := hcall history call hcurrent hstate hearlier
      exact ih hrest _ hstate' hearlier'
  obtain ⟨hstate, hearlier⟩ := hrun calls (fun _ hmem => hmem) ⟨.reset, [], []⟩ hreset
    (fun epoch hmem => nomatch hmem)
  refine ⟨hstate, fun epoch hmem => ?_⟩
  rcases List.mem_cons.mp hmem with rfl | hmem
  · exact hepoch _ _ hstate
  · exact hearlier epoch hmem

end Runs

end Perception
end AyyoHumanoid
