import AyyoHumanoid.SafetyEligibility

/-!
# Requirements of a step

Evaluation of a step gathers approvals and prerequisites from the capability
rule, the hazard rule, the step and the assumptions of the proposal. Each origin
keeps its requirements apart from those of the others, so that no two of a step
have one key.
-/

namespace AyyoHumanoid
namespace Safety

open PyText JsonText PyCollections

section Lists

variable {ε α β : Type}

/-- A fallible function that returns at every element maps a list. -/
theorem mapM_of_forall {f : α → Except ε β} {g : α → β} {values : List α}
    (h : ∀ value ∈ values, f value = .ok (g value)) : values.mapM f = .ok (values.map g) := by
  rw [Checks.mapM_ok, List.forall₂_map_right_iff, List.forall₂_same]
  exact h

end Lists

section Gathering

variable {p : Platform}

/-- The prerequisites for required identifiers that a step does not declare. -/
def missingItems (kind : SafetyPrerequisiteKind) (description stepId : PyStr)
    (required declared : List PyStr) : List UnresolvedSafetyPrerequisite :=
  (required.filter (· ∉ declared)).map fun id => {
    kind := kind
    prerequisiteId := id
    description := description
    affectedStepId := stepId }

/-- The prerequisites for metadata that the rule about a capability requires. -/
def ruleItems (s : PlanStepSnapshot) : Option (CapabilitySafetyRule p) →
    List UnresolvedSafetyPrerequisite
  | none => []
  | some rule =>
    missingItems .requiredPrecondition
      (py "The capability safety rule requires this explicit plan precondition.")
      s.stepId rule.requiredPreconditionIds (s.preconditions.map (·.preconditionId)) ++
    missingItems .requiredConstraint
      (py "The capability safety rule requires this explicit plan constraint.")
      s.stepId rule.requiredConstraintIds (s.constraints.map (·.constraintId))

/-- The prerequisites that a hazard rule names. -/
def hazardItems (s : PlanStepSnapshot) (rule : HazardRule) : List UnresolvedSafetyPrerequisite :=
  rule.prerequisites.map fun prerequisite => {
    kind := prerequisite.kind
    prerequisiteId := prerequisite.prerequisiteId
    description := prerequisite.description
    affectedStepId := s.stepId }

/-- The prerequisites for assumptions. -/
def assumptionItems (s : PlanStepSnapshot) (assumptions : List AssumptionSnapshot) :
    List UnresolvedSafetyPrerequisite :=
  assumptions.map fun assumption => {
    kind := .assumptionVerification
    prerequisiteId := assumption.assumptionId
    description := assumption.description
    affectedStepId := s.stepId }

/-- The approval that a hazard rule requires, if any. -/
def policyItems (s : PlanStepSnapshot) (rule : HazardRule) : List SafetyApprovalRequirement :=
  rule.approvalClass.toList.map fun approvalClass => {
    approvalClass := approvalClass
    source := .safetyPolicy
    requirementId := py "policy." ++ approvalClass.value
    description := py "External approval is required by the immutable safety policy for " ++
      rule.hazardClass.value ++ py "."
    affectedStepId := s.stepId }

/-- The approvals that a step declares. -/
def declaredItems (s : PlanStepSnapshot) : List SafetyApprovalRequirement :=
  s.requiredApprovals.map fun approval => {
    approvalClass := .executiveDeclared
    source := .executive
    requirementId := approval.approvalId
    description := approval.description
    affectedStepId := s.stepId }

/-- The approvals of a step. -/
def stepApprovals (s : PlanStepSnapshot) (rule : HazardRule) : List SafetyApprovalRequirement :=
  policyItems s rule ++ declaredItems s

/-- The prerequisites of a step. -/
def stepPrerequisites (s : PlanStepSnapshot) (capabilityRule : Option (CapabilitySafetyRule p))
    (rule : HazardRule) (assumptions : List AssumptionSnapshot) :
    List UnresolvedSafetyPrerequisite :=
  ruleItems s capabilityRule ++ hazardItems s rule ++ assumptionItems s assumptions

/-- An approval requirement that its constructor accepts. -/
def SafetyApprovalRequirement.Clean (p : Platform) (a : SafetyApprovalRequirement) : Prop :=
  CleanIdentifier p maxIdentifierLength a.requirementId ∧
    CleanIdentifier p maxIdentifierLength a.affectedStepId ∧ CleanText a.description

/-- A prerequisite that its constructor accepts. -/
def UnresolvedSafetyPrerequisite.Clean (p : Platform) (u : UnresolvedSafetyPrerequisite) : Prop :=
  CleanIdentifier p maxIdentifierLength u.prerequisiteId ∧
    CleanIdentifier p maxIdentifierLength u.affectedStepId ∧ CleanText u.description

/-- What a capability rule requires is a list of distinct clean identifiers. -/
structure ValidMetadata (p : Platform) (ids : List PyStr) : Prop where
  clean : ∀ id ∈ ids, CleanIdentifier p maxIdentifierLength id
  /-- The identifiers are distinct. -/
  nodup : ids.Nodup
  /-- There are not too many. -/
  bounded : ids.length ≤ maxSafetyItems

/-- An accepted tuple of identifiers is valid metadata. -/
theorem validMetadata_of_tuple {error : PyStr → SafetyError} {values ids : List PyStr}
    {fieldName : PyStr}
    (h : identifierTuple p error values fieldName maxIdentifierLength = .ok ids) :
    ValidMetadata p ids := by
  rw [identifierTuple, Checks.require_bind_ok, Checks.unit_bind_ok, Checks.require_bind_ok,
    Checks.pure_ok, Checks.forM_ok] at h
  obtain ⟨hbounded, hclean, -, rfl⟩ := h
  have hlength := length_sortedSet_le values
  have hsorted := pairwise_sortedSet values
  exact {
    clean := fun id hid => validateIdentifier_ok.mp (hclean id (mem_sortedSet.mp hid))
    nodup := hsorted.imp fun hless => ne_of_lt hless
    bounded := hlength.trans hbounded }

/-- Both lists of a capability rule are valid metadata. -/
theorem CapabilitySafetyRule.metadata (rule : CapabilitySafetyRule p) :
    ValidMetadata p rule.requiredPreconditionIds ∧ ValidMetadata p rule.requiredConstraintIds := by
  obtain ⟨arguments, h⟩ := rule.built
  rw [CapabilityRuleContent.init, Checks.unit_bind_ok, Checks.require_bind_ok, Checks.bind_ok] at h
  obtain ⟨-, -, preconditions, hpreconditions, h⟩ := h
  rw [Checks.bind_ok] at h
  obtain ⟨constraints, hconstraints, h⟩ := h
  rw [Checks.pure_ok] at h
  rw [← h]
  exact ⟨validMetadata_of_tuple hpreconditions, validMetadata_of_tuple hconstraints⟩

/-- The texts of the two descriptions of missing metadata are clean. -/
theorem clean_missingDescriptions :
    CleanText (py "The capability safety rule requires this explicit plan precondition.") ∧
      CleanText (py "The capability safety rule requires this explicit plan constraint.") := by
  refine ⟨⟨?_, ?_, ?_, utf8Encodable_py _⟩, ⟨?_, ?_, ?_, utf8Encodable_py _⟩⟩ <;> decide

set_option maxRecDepth 20000 in
/-- The prerequisites that the hazard rules of version 1 name are clean. -/
theorem v1_prerequisites : ∀ rule ∈ v1HazardRules, rule.prerequisites.length ≤ 1 ∧
    ∀ prerequisite ∈ rule.prerequisites,
      (isAsciiIdentifier prerequisite.prerequisiteId = true ∧
        prerequisite.prerequisiteId.length ≤ 30) ∧
      (prerequisite.description ≠ [] ∧ prerequisite.description.length ≤ 140 ∧
        prerequisite.description = strip prerequisite.description ∧
        utf8Encodable prerequisite.description = true) ∧
      (prerequisite.kind = .motionSafetyEvaluation ∨
        prerequisite.kind = .contactSafetyEvaluation) := by
  decide

/-- A step snapshot keeps clean identifiers and clean approvals with distinct identifiers. -/
structure ValidStep (p : Platform) (s : PlanStepSnapshot) : Prop where
  stepId : CleanIdentifier p maxIdentifierLength s.stepId
  capabilityId : CleanIdentifier p maxIdentifierLength s.capabilityId
  /-- The approvals are clean. -/
  approvals : ∀ a ∈ s.requiredApprovals,
    CleanIdentifier p maxIdentifierLength a.approvalId ∧ CleanText a.description
  /-- The approvals are distinct. -/
  approvals_nodup : (s.requiredApprovals.map (·.approvalId)).Nodup
  /-- There are not too many approvals. -/
  approvals_bounded : s.requiredApprovals.length ≤ maxProposalItems

/-- The snapshot of a step is valid. -/
theorem StepSnapshotOf.validStep {step : Executive.PlanStep} {s : PlanStepSnapshot}
    (h : StepSnapshotOf p step s) : ValidStep p s where
  stepId := h.stepId ▸ h.stepIdClean
  capabilityId := h.capabilityId ▸ h.capabilityIdClean
  approvals := by
    intro a ha
    obtain ⟨value, -, hvalue⟩ := (mem_snapshotItems h.requiredApprovals).mp ha
    obtain ⟨hid, htext, rfl⟩ := snapshotApproval_ok.mp hvalue
    exact ⟨hid, htext⟩
  approvals_nodup := KeyOrdered.nodup (keyOrdered_snapshotItems h.requiredApprovals)
  approvals_bounded := by
    rw [length_snapshotItems h.requiredApprovals]
    exact (snapshotItems_ok h.requiredApprovals).1

/-- Assumptions with clean texts and distinct identifiers. -/
structure ValidAssumptions (p : Platform) (assumptions : List AssumptionSnapshot) : Prop where
  clean : ∀ a ∈ assumptions,
    CleanIdentifier p maxIdentifierLength a.assumptionId ∧ CleanText a.description
  /-- The assumptions are distinct. -/
  nodup : (assumptions.map (·.assumptionId)).Nodup
  /-- There are not too many. -/
  bounded : assumptions.length ≤ maxProposalItems

/-- The assumptions of an accepted proposal are valid at every position. -/
theorem Accepted.validAssumptions {requireSourceIntegrity : Bool}
    {proposal : Executive.ExecutiveDecision} {parts : ProposalParts}
    (h : Accepted p requireSourceIntegrity proposal parts) (index : Nat) :
    ValidAssumptions p (assumptionsAt (snapshotOf p proposal parts) index) := by
  by_cases hindex : index = 0
  · rw [assumptionsAt, if_pos hindex, snapshotOf]
    exact {
      clean := by
        intro a ha
        obtain ⟨value, -, hvalue⟩ := (mem_snapshotItems h.assumptions).mp ha
        obtain ⟨hid, htext, rfl⟩ := snapshotAssumption_ok.mp hvalue
        exact ⟨hid, htext⟩
      nodup := KeyOrdered.nodup (keyOrdered_snapshotItems h.assumptions)
      bounded := by
        rw [length_snapshotItems h.assumptions]
        exact (snapshotItems_ok h.assumptions).1 }
  · rw [assumptionsAt, if_neg hindex]
    exact ⟨by simp, by simp, by simp⟩

section Steps

variable {s : PlanStepSnapshot} {rule : HazardRule} {assumptions : List AssumptionSnapshot}

/-- The approval of a hazard rule is clean and short. -/
theorem policyItems_clean (hs : ValidStep p s) {a : SafetyApprovalRequirement}
    (ha : a ∈ policyItems s rule) :
    a.Clean p ∧ a.source = .safetyPolicy ∧ a.affectedStepId = s.stepId ∧
      a.requirementId.length ≤ 40 ∧ a.description.length ≤ 100 := by
  obtain ⟨approvalClass, -, rfl⟩ := List.mem_map.mp ha
  have hid : isAsciiIdentifier (py "policy." ++ approvalClass.value) = true ∧
      (py "policy." ++ approvalClass.value).length ≤ 40 := by
    cases approvalClass <;> decide
  have htext : ∀ hazardClass : HazardClass,
      (py "External approval is required by the immutable safety policy for " ++
        hazardClass.value ++ py ".") ≠ [] ∧
      (py "External approval is required by the immutable safety policy for " ++
        hazardClass.value ++ py ".").length ≤ 100 ∧
      (py "External approval is required by the immutable safety policy for " ++
        hazardClass.value ++ py ".") =
        strip (py "External approval is required by the immutable safety policy for " ++
          hazardClass.value ++ py ".") := by
    intro hazardClass
    cases hazardClass <;> decide
  obtain ⟨hnonempty, hlength, hstripped⟩ := htext rule.hazardClass
  refine ⟨⟨cleanIdentifier_ascii hid.1 (hid.2.trans (by decide)) (by decide), hs.stepId, ?_⟩, rfl,
    rfl, hid.2, hlength⟩
  exact ⟨hnonempty, hlength.trans (by decide), hstripped, by
    rw [utf8Encodable_append, utf8Encodable_append, encodable_hazardClass]
    simp⟩

/-- The approvals that a step declares are clean. -/
theorem declaredItems_clean (hs : ValidStep p s) {a : SafetyApprovalRequirement}
    (ha : a ∈ declaredItems s) :
    a.Clean p ∧ a.source = .executive ∧ a.affectedStepId = s.stepId := by
  obtain ⟨approval, happroval, rfl⟩ := List.mem_map.mp ha
  obtain ⟨hid, htext⟩ := hs.approvals approval happroval
  exact ⟨⟨hid, hs.stepId, htext⟩, rfl, rfl⟩

/-- The prerequisites for missing metadata are clean and short. -/
theorem missingItems_clean (hs : ValidStep p s) {kind : SafetyPrerequisiteKind}
    {description : PyStr} (hdescription : CleanText description) {required declared : List PyStr}
    (hrequired : ValidMetadata p required) {u : UnresolvedSafetyPrerequisite}
    (hu : u ∈ missingItems kind description s.stepId required declared) :
    u.Clean p ∧ u.kind = kind ∧ u.affectedStepId = s.stepId ∧ u.description = description := by
  obtain ⟨id, hid, rfl⟩ := List.mem_map.mp hu
  exact ⟨⟨hrequired.clean id (List.mem_of_mem_filter hid), hs.stepId, hdescription⟩, rfl, rfl, rfl⟩

/-- The prerequisites for the metadata of a capability rule are clean and short. -/
theorem ruleItems_clean (hs : ValidStep p s) {capabilityRule : Option (CapabilitySafetyRule p)}
    {u : UnresolvedSafetyPrerequisite} (hu : u ∈ ruleItems s capabilityRule) :
    u.Clean p ∧ (u.kind = .requiredPrecondition ∨ u.kind = .requiredConstraint) ∧
      u.affectedStepId = s.stepId ∧ u.description.length ≤ 68 := by
  obtain ⟨hfirst, hsecond⟩ := clean_missingDescriptions
  have hlengths : (py "The capability safety rule requires this explicit plan precondition.").length
      = 68 ∧ (py "The capability safety rule requires this explicit plan constraint.").length
        = 66 := by decide
  cases capabilityRule with
  | none => cases hu
  | some rule =>
    obtain ⟨hpreconditions, hconstraints⟩ := rule.metadata
    rcases List.mem_append.mp hu with hmem | hmem
    · obtain ⟨hclean, hkind, hstep, htext⟩ := missingItems_clean hs hfirst hpreconditions hmem
      exact ⟨hclean, Or.inl hkind, hstep, htext ▸ hlengths.1.le⟩
    · obtain ⟨hclean, hkind, hstep, htext⟩ := missingItems_clean hs hsecond hconstraints hmem
      refine ⟨hclean, Or.inr hkind, hstep, ?_⟩
      rw [htext, hlengths.2]
      omega

/-- The prerequisites of a hazard rule of version 1 are clean and short. -/
theorem hazardItems_clean (hs : ValidStep p s) (hrule : rule ∈ v1HazardRules)
    {u : UnresolvedSafetyPrerequisite} (hu : u ∈ hazardItems s rule) :
    u.Clean p ∧ (u.kind = .motionSafetyEvaluation ∨ u.kind = .contactSafetyEvaluation) ∧
      u.affectedStepId = s.stepId ∧ u.prerequisiteId.length ≤ 30 ∧
        u.description.length ≤ 140 := by
  obtain ⟨prerequisite, hprerequisite, rfl⟩ := List.mem_map.mp hu
  obtain ⟨-, hall⟩ := v1_prerequisites rule hrule
  obtain ⟨⟨hascii, hshort⟩, ⟨hnonempty, hlength, hstripped, hencodable⟩, hkind⟩ :=
    hall prerequisite hprerequisite
  exact ⟨⟨cleanIdentifier_ascii hascii (hshort.trans (by decide)) (by decide), hs.stepId,
    ⟨hnonempty, hlength.trans (by decide), hstripped, hencodable⟩⟩, hkind, rfl, hshort, hlength⟩

/-- The prerequisites for assumptions are clean. -/
theorem assumptionItems_clean (hs : ValidStep p s) (hassumptions : ValidAssumptions p assumptions)
    {u : UnresolvedSafetyPrerequisite} (hu : u ∈ assumptionItems s assumptions) :
    u.Clean p ∧ u.kind = .assumptionVerification ∧ u.affectedStepId = s.stepId := by
  obtain ⟨assumption, hassumption, rfl⟩ := List.mem_map.mp hu
  obtain ⟨hid, htext⟩ := hassumptions.clean assumption hassumption
  exact ⟨⟨hid, hs.stepId, htext⟩, rfl, rfl⟩

end Steps

section Totality

variable {s : PlanStepSnapshot} {rule : HazardRule} {assumptions : List AssumptionSnapshot}
  {capabilityRule : Option (CapabilitySafetyRule p)}

/-- A clean approval requirement is constructed. -/
theorem SafetyApprovalRequirement.Clean.construct {a : SafetyApprovalRequirement} (h : a.Clean p) :
    a.construct p = .ok a :=
  SafetyApprovalRequirement.construct_ok.mpr ⟨h, rfl⟩

/-- A clean prerequisite is constructed. -/
theorem UnresolvedSafetyPrerequisite.Clean.construct {u : UnresolvedSafetyPrerequisite}
    (h : u.Clean p) : u.construct p = .ok u :=
  UnresolvedSafetyPrerequisite.construct_ok.mpr ⟨h, rfl⟩

/-- Missing metadata is listed. -/
theorem missingMetadata_eq (hs : ValidStep p s) {kind : SafetyPrerequisiteKind}
    {description : PyStr} (hdescription : CleanText description) {required : List PyStr}
    (hrequired : ValidMetadata p required) (declared : List PyStr) :
    missingMetadata p kind description s.stepId required declared =
      .ok (missingItems kind description s.stepId required declared) :=
  mapM_of_forall fun id hid => UnresolvedSafetyPrerequisite.Clean.construct
    ⟨hrequired.clean id (List.mem_of_mem_filter hid), hs.stepId, hdescription⟩

/-- The metadata that a step lacks is listed. -/
theorem stepMissing_eq (hs : ValidStep p s) :
    stepMissing s capabilityRule = .ok (ruleItems s capabilityRule) := by
  cases capabilityRule with
  | none => rfl
  | some rule =>
    obtain ⟨hpreconditions, hconstraints⟩ := rule.metadata
    obtain ⟨hfirst, hsecond⟩ := clean_missingDescriptions
    rw [stepMissing, ruleMetadata, missingMetadata_eq hs hfirst hpreconditions,
      Checks.ok_bind, missingMetadata_eq hs hsecond hconstraints]
    rfl

/-- The approval of a hazard rule is listed. -/
theorem policyApproval_eq (hs : ValidStep p s) :
    policyApproval p s rule.hazardClass rule = .ok (policyItems s rule) := by
  have hclean := fun a (ha : a ∈ policyItems s rule) => (policyItems_clean hs ha).1.construct
  rw [policyItems] at hclean ⊢
  rw [policyApproval]
  cases happroval : rule.approvalClass with
  | none => rfl
  | some approvalClass =>
    rw [happroval] at hclean
    have hsingle := hclean _ (List.mem_singleton_self _)
    exact Checks.bind_ok.mpr ⟨_, hsingle, rfl⟩

/-- The approvals that a step declares are listed. -/
theorem declared_eq (hs : ValidStep p s) :
    s.requiredApprovals.mapM (executiveApproval p s) = .ok (declaredItems s) :=
  mapM_of_forall fun _ happroval =>
    (declaredItems_clean hs (List.mem_map_of_mem happroval)).1.construct

/-- The prerequisites of a hazard rule are listed. -/
theorem hazards_eq (hs : ValidStep p s) (hrule : rule ∈ v1HazardRules) :
    rule.prerequisites.mapM (hazardPrerequisite p s) = .ok (hazardItems s rule) :=
  mapM_of_forall fun _ hprerequisite =>
    (hazardItems_clean hs hrule (List.mem_map_of_mem hprerequisite)).1.construct

/-- The prerequisites for assumptions are listed. -/
theorem unverified_eq (hs : ValidStep p s) (hassumptions : ValidAssumptions p assumptions) :
    assumptions.mapM (assumptionPrerequisite p s) = .ok (assumptionItems s assumptions) :=
  mapM_of_forall fun _ hassumption =>
    (assumptionItems_clean hs hassumptions (List.mem_map_of_mem hassumption)).1.construct

end Totality

section Keys

variable {s : PlanStepSnapshot} {rule : HazardRule} {assumptions : List AssumptionSnapshot}
  {capabilityRule : Option (CapabilitySafetyRule p)}

/-- Approvals with distinct identifiers have distinct keys. -/
theorem nodup_approvalKeys {approvals : List SafetyApprovalRequirement}
    (h : (approvals.map (·.requirementId)).Nodup) :
    (approvals.map SafetyApprovalRequirement.key).Nodup := by
  refine List.Nodup.of_map (fun key => (ofLex (ofLex (ofLex key).2).2).2) ?_
  rw [List.map_map]
  exact h

/-- Prerequisites with distinct identifiers have distinct keys. -/
theorem nodup_prerequisiteKeys {prerequisites : List UnresolvedSafetyPrerequisite}
    (h : (prerequisites.map (·.prerequisiteId)).Nodup) :
    (prerequisites.map UnresolvedSafetyPrerequisite.key).Nodup := by
  refine List.Nodup.of_map (fun key => (ofLex (ofLex key).2).2) ?_
  rw [List.map_map]
  exact h

/-- Prerequisites of different kinds have different keys. -/
theorem disjoint_prerequisiteKeys {left right : List UnresolvedSafetyPrerequisite}
    (h : ∀ u ∈ left, ∀ v ∈ right, u.kind ≠ v.kind) :
    List.Disjoint (left.map UnresolvedSafetyPrerequisite.key)
      (right.map UnresolvedSafetyPrerequisite.key) := by
  have hkinds : Function.Injective SafetyPrerequisiteKind.value := by
    intro first second hsame
    cases first <;> cases second <;> first | rfl | exact absurd hsame (by decide)
  intro key hleft hright
  obtain ⟨u, hu, rfl⟩ := List.mem_map.mp hleft
  obtain ⟨v, hv, hkey⟩ := List.mem_map.mp hright
  have hvalue : v.kind.value = u.kind.value := congrArg (fun k => (ofLex (ofLex k).2).1) hkey
  exact h u hu v hv (hkinds hvalue).symm

/-- The approvals of a step have distinct keys. -/
theorem stepApprovals_nodup (hs : ValidStep p s) :
    ((stepApprovals s rule).map SafetyApprovalRequirement.key).Nodup := by
  rw [stepApprovals, List.map_append, List.nodup_append']
  refine ⟨?_, ?_, ?_⟩
  · rw [policyItems]
    cases rule.approvalClass <;> simp
  · refine nodup_approvalKeys ?_
    rw [declaredItems, List.map_map]
    exact hs.approvals_nodup
  · intro key hpolicy hdeclared
    obtain ⟨a, ha, rfl⟩ := List.mem_map.mp hpolicy
    obtain ⟨b, hb, hkey⟩ := List.mem_map.mp hdeclared
    have hsource : b.source.value = a.source.value :=
      congrArg (fun k => (ofLex (ofLex k).2).1) hkey
    rw [(policyItems_clean hs ha).2.1, (declaredItems_clean hs hb).2.1] at hsource
    exact absurd hsource (by decide)

/-- The metadata that a step lacks has distinct keys. -/
theorem ruleItems_nodup :
    ((ruleItems s capabilityRule).map UnresolvedSafetyPrerequisite.key).Nodup := by
  cases capabilityRule with
  | none => exact List.nodup_nil
  | some rule =>
    have hitems : ∀ kind description (required declared : List PyStr), required.Nodup →
        ((missingItems kind description s.stepId required declared).map
          UnresolvedSafetyPrerequisite.key).Nodup := by
      intro kind description required declared hnodup
      refine nodup_prerequisiteKeys ?_
      rw [missingItems, List.map_map]
      exact (List.map_id' _).symm ▸ hnodup.filter _
    obtain ⟨hpreconditions, hconstraints⟩ := rule.metadata
    rw [ruleItems, List.map_append, List.nodup_append']
    refine ⟨hitems _ _ _ _ hpreconditions.nodup, hitems _ _ _ _ hconstraints.nodup,
      disjoint_prerequisiteKeys fun u hu v hv => ?_⟩
    obtain ⟨first, -, rfl⟩ := List.mem_map.mp hu
    obtain ⟨second, -, rfl⟩ := List.mem_map.mp hv
    exact fun h => by cases h

/-- The prerequisites of a step have distinct keys. -/
theorem stepPrerequisites_nodup (hs : ValidStep p s) (hrule : rule ∈ v1HazardRules)
    (hassumptions : ValidAssumptions p assumptions) :
    ((stepPrerequisites s capabilityRule rule assumptions).map
      UnresolvedSafetyPrerequisite.key).Nodup := by
  have hhazards : ((hazardItems s rule).map UnresolvedSafetyPrerequisite.key).Nodup := by
    have hlength := (v1_prerequisites rule hrule).1
    rw [hazardItems]
    cases hprerequisites : rule.prerequisites with
    | nil => exact List.nodup_nil
    | cons prerequisite others =>
      rw [hprerequisites, List.length_cons] at hlength
      have hnone : others = [] := List.length_eq_zero_iff.mp (by omega)
      rw [hnone]
      exact List.nodup_singleton _
  have hunverified : ((assumptionItems s assumptions).map
      UnresolvedSafetyPrerequisite.key).Nodup := by
    refine nodup_prerequisiteKeys ?_
    rw [assumptionItems, List.map_map]
    exact hassumptions.nodup
  rw [stepPrerequisites, List.map_append, List.map_append, List.nodup_append', List.nodup_append']
  refine ⟨⟨ruleItems_nodup, hhazards, disjoint_prerequisiteKeys fun u hu v hv hsame => ?_⟩,
    hunverified, ?_⟩
  · obtain ⟨-, hkind, -⟩ := ruleItems_clean hs hu
    obtain ⟨-, hother, -⟩ := hazardItems_clean hs hrule hv
    rw [hsame] at hkind
    rcases hkind with hkind | hkind <;> rcases hother with hother | hother <;>
      rw [hkind] at hother <;> cases hother
  · rw [← List.map_append]
    refine disjoint_prerequisiteKeys fun u hu v hv hsame => ?_
    obtain ⟨-, hother, -⟩ := assumptionItems_clean hs hassumptions hv
    rw [hother] at hsame
    rcases List.mem_append.mp hu with hmem | hmem
    · obtain ⟨-, hkind, -⟩ := ruleItems_clean hs hmem
      rcases hkind with hkind | hkind <;> rw [hkind] at hsame <;> cases hsame
    · obtain ⟨-, hkind, -⟩ := hazardItems_clean hs hrule hmem
      rcases hkind with hkind | hkind <;> rw [hkind] at hsame <;> cases hsame

end Keys

end Gathering

end Safety
end AyyoHumanoid
