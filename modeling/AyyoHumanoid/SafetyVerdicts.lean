import AyyoHumanoid.SafetyRequirements

/-!
# Decisions on steps

Evaluation passes the requirements of a step, the disposition that they settle
and the reasons for it to the constructor of a step decision. Whichever
disposition is settled, a reason explains it and the requirements that it leaves
open are there, so the constructor accepts every valid step.
-/

namespace AyyoHumanoid
namespace Safety

open PyText JsonText PyCollections

variable {p : Platform} {s : PlanStepSnapshot} {rule : HazardRule} {assumptions : List AssumptionSnapshot}
  {capabilityRule : Option (CapabilitySafetyRule p)}

/-- The step expects a result that its hazard class excludes. -/
def conflicts (s : PlanStepSnapshot) (rule : HazardRule) : Bool :=
  s.expectedResult ∉ expectedResults rule.hazardClass

/-- The arguments that evaluation passes to the constructor of a step decision. -/
def stepArguments (s : PlanStepSnapshot) (capabilityRule : Option (CapabilitySafetyRule p))
    (rule : HazardRule) (assumptions : List AssumptionSnapshot) : SafetyStepDecision where
  stepId := s.stepId
  capabilityId := s.capabilityId
  hazardClass := rule.hazardClass
  disposition := settledDisposition
    (declaredDisposition rule (ruleItems s capabilityRule) (conflicts s rule))
    (stepPrerequisites s capabilityRule rule assumptions) (stepApprovals s rule)
  reasonCodes := orderedReasons (stepReasons rule (ruleItems s capabilityRule) (conflicts s rule)
    (declaredItems s) (assumptionItems s assumptions))
  triggeringPolicyRules := sortedSet (stepRules rule capabilityRule)
  requiredApprovals := stepApprovals s rule
  unresolvedPrerequisites := stepPrerequisites s capabilityRule rule assumptions

/-- Evaluation of a valid step constructs a decision from its requirements. -/
theorem evaluateStep_eq {policy : SafetyPolicy p} (hs : ValidStep p s)
    (hassumptions : ValidAssumptions p assumptions) (hrule : rule ∈ v1HazardRules)
    (hclass : rule.hazardClass = policy.hazardOf s.capabilityId) :
    evaluateStep policy s assumptions =
      (stepArguments s (policy.ruleFor s.capabilityId) rule assumptions).init p := by
  have hcapability : policy.capabilityRule s.capabilityId =
      .ok (policy.ruleFor s.capabilityId) := capabilityRule_ok.mpr ⟨hs.capabilityId, rfl⟩
  have hhazard : policy.hazardRule (policy.hazardOf s.capabilityId) = .ok rule :=
    hazardRule_ok.mpr ⟨hrule, hclass⟩
  have hstepHazard : stepHazard (policy.ruleFor s.capabilityId) = rule.hazardClass := hclass.symm
  rw [evaluateStep, hcapability, Checks.ok_bind]
  simp only [hstepHazard]
  rw [← hclass] at hhazard
  rw [hhazard, Checks.ok_bind, stepMissing_eq hs, Checks.ok_bind, policyApproval_eq hs,
    Checks.ok_bind, declared_eq hs, Checks.ok_bind, hazards_eq hs hrule, Checks.ok_bind,
    unverified_eq hs hassumptions, Checks.ok_bind]
  rfl

/-- The reason of a hazard rule of version 1 explains its disposition. -/
theorem v1_reasons : ∀ rule ∈ v1HazardRules,
    (rule.disposition = .blocked → rule.reason ∈ SafetyStepDecision.blockingReasons) ∧
      (rule.disposition = .externalApprovalRequired →
        rule.reason ∈ SafetyStepDecision.approvalReasons) ∧
      (rule.disposition = .deferred → rule.reason ∈ SafetyStepDecision.deferReasons) ∧
      (rule.hazardClass = .unclassified →
        rule.disposition = .blocked ∧ rule.reason = .unknownCapabilityClass) := by
  decide

/-- The rules of version 1 have short identifiers. -/
theorem v1_ruleIds : ∀ rule ∈ v1HazardRules,
    isAsciiIdentifier rule.ruleId = true ∧ rule.ruleId.length ≤ 40 := by
  decide

/-- Every reason is a member. -/
theorem SafetyReason.mem_members (reason : SafetyReason) : reason ∈ SafetyReason.members := by
  cases reason <;> decide

/-- Ordering keeps the reasons. -/
theorem mem_orderedReasons {values : List SafetyReason} {reason : SafetyReason} :
    reason ∈ orderedReasons values ↔ reason ∈ values := by
  rw [orderedReasons, List.mem_filter, decide_eq_true_eq]
  exact and_iff_right reason.mem_members

/-- Ordered reasons are unique and in the order of their ranks. -/
theorem orderedReasons_sorted (values : List SafetyReason) :
    orderedReasons values = sortBy SafetyReason.rank (orderedReasons values).dedup := by
  have hmembers : SafetyReason.members.Pairwise fun left right => left.rank < right.rank := by
    decide
  have hsorted := hmembers.sublist (List.filter_sublist (p := fun reason => reason ∈ values))
  have hnodup : (orderedReasons values).Nodup :=
    hsorted.imp fun hless hsame => absurd (congrArg SafetyReason.rank hsame) (ne_of_lt hless)
  rw [hnodup.dedup]
  exact (sortBy_eq_self (List.pairwise_map.mpr hsorted)).symm

/-- There are at most five reasons for a step. -/
theorem length_stepReasons {missing unverified : List UnresolvedSafetyPrerequisite}
    {conflicting : Bool} {declared : List SafetyApprovalRequirement} :
    (orderedReasons (stepReasons rule missing conflicting declared unverified)).length ≤ 5 := by
  have hnodup : (orderedReasons
      (stepReasons rule missing conflicting declared unverified)).Nodup := by
    rw [orderedReasons_sorted, (sortBy_perm _ _).nodup_iff]
    exact List.nodup_dedup _
  have hsubset : orderedReasons (stepReasons rule missing conflicting declared unverified) ⊆
      stepReasons rule missing conflicting declared unverified :=
    fun reason hreason => mem_orderedReasons.mp hreason
  have hlength := (hnodup.subperm hsubset).length_le
  refine hlength.trans ?_
  rw [stepReasons]
  split_ifs <;> simp

/-- What leads to the disposition that evaluation settles. -/
theorem settled_cases {declared : SafetyDisposition}
    {prerequisites : List UnresolvedSafetyPrerequisite}
    {approvals : List SafetyApprovalRequirement}
    (happroval : declared = .externalApprovalRequired → approvals ≠ [])
    (hdeferred : declared = .deferred → prerequisites ≠ []) :
    (settledDisposition declared prerequisites approvals = .blocked ∧ declared = .blocked) ∨
      (settledDisposition declared prerequisites approvals = .deferred ∧ declared ≠ .blocked ∧
        prerequisites ≠ []) ∨
      (settledDisposition declared prerequisites approvals = .externalApprovalRequired ∧
        (declared = .externalApprovalRequired ∨ declared = .eligibleForDownstream) ∧
        prerequisites = [] ∧ approvals ≠ []) ∨
      (settledDisposition declared prerequisites approvals = .eligibleForDownstream ∧
        declared = .eligibleForDownstream ∧ prerequisites = [] ∧ approvals = []) := by
  rw [settledDisposition]
  by_cases hprerequisites : prerequisites = []
  · by_cases happrovals : approvals = []
    · cases declared with
      | blocked => simp
      | deferred => exact absurd hprerequisites (hdeferred rfl)
      | externalApprovalRequired => exact absurd happrovals (happroval rfl)
      | eligibleForDownstream => simp [hprerequisites, happrovals]
    · cases declared with
      | blocked => simp
      | deferred => exact absurd hprerequisites (hdeferred rfl)
      | externalApprovalRequired => simp [hprerequisites, happrovals, stronger,
          SafetyDisposition.rank]
      | eligibleForDownstream => simp [hprerequisites, happrovals, stronger,
          SafetyDisposition.rank]
  · cases declared <;> simp [hprerequisites, stronger, SafetyDisposition.rank]

/-- The rules that decide a step have short clean identifiers. -/
theorem stepRules_clean (hrule : rule ∈ v1HazardRules) {id : PyStr}
    (hid : id ∈ stepRules rule capabilityRule) :
    CleanIdentifier p SafetyStepDecision.maxRuleIdLength id := by
  have hhazard : CleanIdentifier p SafetyStepDecision.maxRuleIdLength rule.ruleId := by
    obtain ⟨hascii, hshort⟩ := v1_ruleIds rule hrule
    exact cleanIdentifier_ascii hascii (hshort.trans (by decide)) (by decide)
  cases capabilityRule with
  | none =>
    rw [stepRules, List.mem_singleton] at hid
    exact hid ▸ hhazard
  | some other =>
    simp only [stepRules, List.mem_cons, List.not_mem_nil, or_false] at hid
    rcases hid with rfl | rfl
    · exact hhazard
    · obtain ⟨arguments, h⟩ := other.built
      rw [CapabilityRuleContent.init, Checks.unit_bind_ok, Checks.require_bind_ok,
        Checks.bind_ok] at h
      obtain ⟨hclean, -, preconditions, -, h⟩ := h
      rw [Checks.bind_ok] at h
      obtain ⟨constraints, -, h⟩ := h
      rw [Checks.pure_ok] at h
      have hsame : other.capabilityId = arguments.capabilityId := by rw [← h]
      rw [CapabilityRuleContent.ruleId, hsame]
      exact cleanRuleId (validateIdentifier_ok.mp hclean)

/-- At most two rules decide a step. -/
theorem length_stepRules : (sortedSet (stepRules rule capabilityRule)).length ≤ 2 := by
  refine (length_sortedSet_le _).trans ?_
  cases capabilityRule <;> simp [stepRules]

/-- The decision on a step. -/
def stepDecision (s : PlanStepSnapshot) (capabilityRule : Option (CapabilitySafetyRule p))
    (rule : HazardRule) (assumptions : List AssumptionSnapshot) : SafetyStepDecision :=
  { stepArguments s capabilityRule rule assumptions with
    requiredApprovals := sortBy SafetyApprovalRequirement.key (stepApprovals s rule)
    unresolvedPrerequisites := sortBy UnresolvedSafetyPrerequisite.key
      (stepPrerequisites s capabilityRule rule assumptions) }

/-- The approvals of a step are clean and name the step. -/
theorem stepApprovals_clean (hs : ValidStep p s) {a : SafetyApprovalRequirement}
    (ha : a ∈ stepApprovals s rule) : a.Clean p ∧ a.affectedStepId = s.stepId := by
  rcases List.mem_append.mp ha with hmem | hmem
  · have h := policyItems_clean hs hmem
    exact ⟨h.1, h.2.2.1⟩
  · have h := declaredItems_clean hs hmem
    exact ⟨h.1, h.2.2⟩

/-- The prerequisites of a step are clean and name the step. -/
theorem stepPrerequisites_clean (hs : ValidStep p s) (hrule : rule ∈ v1HazardRules)
    (hassumptions : ValidAssumptions p assumptions) {u : UnresolvedSafetyPrerequisite}
    (hu : u ∈ stepPrerequisites s capabilityRule rule assumptions) :
    u.Clean p ∧ u.affectedStepId = s.stepId := by
  rw [stepPrerequisites, List.mem_append, List.mem_append] at hu
  rcases hu with (hmem | hmem) | hmem
  · have h := ruleItems_clean hs hmem
    exact ⟨h.1, h.2.2.1⟩
  · have h := hazardItems_clean hs hrule hmem
    exact ⟨h.1, h.2.2.1⟩
  · have h := assumptionItems_clean hs hassumptions hmem
    exact ⟨h.1, h.2.2⟩

/-- A hazard rule that waits for approval names one. -/
theorem stepApprovals_ne_nil (hrule : rule ∈ v1HazardRules)
    (h : rule.disposition = .externalApprovalRequired) : stepApprovals s rule ≠ [] := by
  obtain ⟨-, -, happroval, -⟩ := v1_facts rule hrule
  have hsome : rule.approvalClass ≠ none := fun hnone => happroval.mp hnone h
  obtain ⟨approvalClass, hclass⟩ := Option.ne_none_iff_exists'.mp hsome
  simp [stepApprovals, policyItems, hclass]

/-- A hazard rule that defers names a prerequisite. -/
theorem stepPrerequisites_ne_nil (hrule : rule ∈ v1HazardRules)
    (h : rule.disposition = .deferred) :
    stepPrerequisites s capabilityRule rule assumptions ≠ [] := by
  obtain ⟨-, -, -, hprerequisites⟩ := v1_facts rule hrule
  have hsome : rule.prerequisites ≠ [] := fun hnone => hprerequisites.mp hnone h
  simp [stepPrerequisites, hazardItems, hsome]

/-- A declared disposition is blocked or the one of the hazard rule. -/
theorem declared_cases {missing : List UnresolvedSafetyPrerequisite} {conflicting : Bool} :
    declaredDisposition rule missing conflicting = rule.disposition ∧ missing = [] ∨
      declaredDisposition rule missing conflicting = .blocked ∧
        (missing ≠ [] ∨ conflicting = true) := by
  rw [declaredDisposition]
  by_cases hrefused : missing ≠ [] ∨ conflicting = true
  · exact Or.inr ⟨if_pos hrefused, hrefused⟩
  · rw [not_or, not_not] at hrefused
    exact Or.inl ⟨if_neg (by simp [hrefused]), hrefused.1⟩

/-- The ways in which a step is decided. -/
theorem stepDecision_cases (hrule : rule ∈ v1HazardRules) :
    ((stepDecision s capabilityRule rule assumptions).disposition = .blocked ∧
        (rule.disposition = .blocked ∨ ruleItems s capabilityRule ≠ [] ∨
          conflicts s rule = true)) ∨
      ((stepDecision s capabilityRule rule assumptions).disposition = .deferred ∧
        rule.disposition ≠ .blocked ∧ ruleItems s capabilityRule = [] ∧
        stepPrerequisites s capabilityRule rule assumptions ≠ []) ∨
      ((stepDecision s capabilityRule rule assumptions).disposition =
          .externalApprovalRequired ∧
        (rule.disposition = .externalApprovalRequired ∨
          rule.disposition = .eligibleForDownstream) ∧
        stepPrerequisites s capabilityRule rule assumptions = [] ∧ stepApprovals s rule ≠ []) ∨
      ((stepDecision s capabilityRule rule assumptions).disposition = .eligibleForDownstream ∧
        rule.disposition = .eligibleForDownstream ∧
        stepPrerequisites s capabilityRule rule assumptions = [] ∧
        stepApprovals s rule = []) := by
  have hcases := @settled_cases
    (declaredDisposition rule (ruleItems s capabilityRule) (conflicts s rule))
    (stepPrerequisites s capabilityRule rule assumptions) (stepApprovals s rule)
  rcases @declared_cases rule (ruleItems s capabilityRule) (conflicts s rule) with
    ⟨hdeclared, hmissing⟩ | ⟨hdeclared, hrefused⟩
  · rw [hdeclared] at hcases
    have hsettled := hcases (fun h => stepApprovals_ne_nil hrule h)
      fun h => stepPrerequisites_ne_nil hrule h
    have hdisposition : (stepDecision s capabilityRule rule assumptions).disposition =
        settledDisposition rule.disposition
          (stepPrerequisites s capabilityRule rule assumptions) (stepApprovals s rule) := by
      rw [← hdeclared]
      rfl
    rw [hdisposition]
    rcases hsettled with h | h | h | h
    · exact Or.inl ⟨h.1, Or.inl h.2⟩
    · exact Or.inr (Or.inl ⟨h.1, h.2.1, hmissing, h.2.2⟩)
    · exact Or.inr (Or.inr (Or.inl h))
    · exact Or.inr (Or.inr (Or.inr h))
  · refine Or.inl ⟨?_, Or.inr hrefused⟩
    have hdisposition : (stepDecision s capabilityRule rule assumptions).disposition =
        settledDisposition .blocked
          (stepPrerequisites s capabilityRule rule assumptions) (stepApprovals s rule) := by
      rw [← hdeclared]
      rfl
    rw [hdisposition, settledDisposition]
    simp

/-- A decided step passes the checks on its requirements. -/
theorem stepDecision_requirements (hs : ValidStep p s) (hrule : rule ∈ v1HazardRules)
    (hassumptions : ValidAssumptions p assumptions) :
    (stepDecision s capabilityRule rule assumptions).checkRequirements = .ok () := by
  have hnone : ∀ {κ α : Type} [LinearOrder κ] {key : α → κ} {values : List α},
      sortBy key values = [] ↔ values = [] := by
    intro κ α _ key values
    rw [← List.length_eq_zero_iff, length_sortBy, List.length_eq_zero_iff]
  simp only [SafetyStepDecision.checkRequirements, Checks.unit_bind_ok, Checks.require_ok]
  refine ⟨fun a ha => (stepApprovals_clean hs (mem_sortBy.mp ha)).2,
    fun u hu => (stepPrerequisites_clean hs hrule hassumptions (mem_sortBy.mp hu)).2, ?_⟩
  rw [stepDecision]
  simp only [ne_eq, hnone]
  rcases @stepDecision_cases p s rule assumptions capabilityRule hrule with
    ⟨hdisposition, -⟩ | ⟨hdisposition, -, -, hsome⟩ | ⟨hdisposition, -, hempty, hsome⟩ |
      ⟨hdisposition, -, hempty, hnothing⟩
  all_goals
    rw [stepDecision] at hdisposition
    rw [hdisposition]
  · simp
  · simpa using hsome
  · simpa [hempty] using hsome
  · simp [hempty, hnothing]

/-- A decided step passes the checks on its reasons. -/
theorem stepDecision_reasons (hrule : rule ∈ v1HazardRules) :
    (stepDecision s capabilityRule rule assumptions).checkReasons = .ok () := by
  obtain ⟨hminimum, hbase, happroval, hprerequisites⟩ := v1_facts rule hrule
  obtain ⟨hblocked, hexternal, hdeferred, hunclassified⟩ := v1_reasons rule hrule
  have hreason : ∀ {reason : SafetyReason}, reason ∈ stepReasons rule
      (ruleItems s capabilityRule) (conflicts s rule) (declaredItems s)
      (assumptionItems s assumptions) →
        reason ∈ (stepDecision s capabilityRule rule assumptions).reasonCodes :=
    fun h => mem_orderedReasons.mpr h
  have hown : rule.reason ∈ (stepDecision s capabilityRule rule assumptions).reasonCodes :=
    hreason (by simp [stepReasons])
  have hclass : (stepDecision s capabilityRule rule assumptions).hazardClass =
      rule.hazardClass := rfl
  have hcases := @stepDecision_cases p s rule assumptions capabilityRule hrule
  simp only [SafetyStepDecision.checkReasons, Checks.unit_bind_ok, Checks.require_ok, hclass,
    ← hminimum, ← hbase]
  refine ⟨fun h => ?_, fun h => ?_, hown, ?_, fun h => ?_, fun h => ?_⟩
  · rcases hcases with hcase | hcase | hcase | hcase
    · rcases hcase.2 with hrefused | hmissing | hconflict
      · exact ⟨_, hown, hblocked hrefused⟩
      · exact ⟨.requiredSafetyMetadataMissing, hreason (by simp [stepReasons, hmissing]),
          by decide⟩
      · exact ⟨.capabilityDeclarationConflict, hreason (by simp [stepReasons, hconflict]),
          by decide⟩
    all_goals
      rw [hcase.1] at h
      cases h
  · obtain ⟨hrefused, hunknown⟩ := hunclassified h
    refine ⟨?_, hunknown ▸ hown⟩
    rcases hcases with hcase | hcase | hcase | hcase
    · exact hcase.1
    · exact absurd hrefused hcase.2.1
    · rw [hrefused] at hcase
      rcases hcase.2.1 with hother | hother <;> cases hother
    · rw [hrefused] at hcase
      cases hcase.2.1
  · rcases hcases with hcase | hcase | hcase | hcase
    · rw [hcase.1]
      cases rule.disposition <;> decide
    · rw [hcase.1]
      cases hdisposition : rule.disposition with
      | blocked => exact absurd hdisposition hcase.2.1
      | deferred | externalApprovalRequired | eligibleForDownstream => decide
    · rw [hcase.1]
      rcases hcase.2.1 with hdisposition | hdisposition
      · rw [hdisposition]
      · rw [hdisposition]
        decide
    · rw [hcase.1, hcase.2.1]
  · rcases hcases with hcase | hcase | hcase | hcase
    · rw [hcase.1] at h
      cases h
    · rw [hcase.1] at h
      cases h
    · rcases hcase.2.1 with hdisposition | hdisposition
      · exact ⟨_, hown, hexternal hdisposition⟩
      · have hnone : rule.approvalClass = none := happroval.mpr (by simp [hdisposition])
        have hdeclared : declaredItems s ≠ [] := by
          intro hnothing
          refine hcase.2.2.2 ?_
          rw [stepApprovals, hnothing, policyItems, hnone]
          rfl
        exact ⟨.executiveApprovalUnverified, hreason (by simp [stepReasons, hdeclared]),
          by decide⟩
    · rw [hcase.1] at h
      cases h
  · rcases hcases with hcase | hcase | hcase | hcase
    · rw [hcase.1] at h
      cases h
    · by_cases hdisposition : rule.disposition = .deferred
      · exact ⟨_, hown, hdeferred hdisposition⟩
      · have hnone : rule.prerequisites = [] := hprerequisites.mpr hdisposition
        have hunverified : assumptionItems s assumptions ≠ [] := by
          intro hnothing
          refine hcase.2.2.2 ?_
          rw [stepPrerequisites, hnothing, hcase.2.2.1, hazardItems, hnone]
          rfl
        exact ⟨.unverifiedAssumption, hreason (by simp [stepReasons, hunverified]), by decide⟩
    · rw [hcase.1] at h
      cases h
    · rw [hcase.1] at h
      cases h

/-- A step has few approvals. -/
theorem length_stepApprovals (hs : ValidStep p s) : (stepApprovals s rule).length ≤ 129 := by
  have hbounded : s.requiredApprovals.length ≤ 128 := hs.approvals_bounded
  have hpolicy : (policyItems s rule).length ≤ 1 := by
    rw [policyItems, List.length_map]
    cases rule.approvalClass <;> simp
  rw [stepApprovals, List.length_append, declaredItems, List.length_map]
  omega

/-- A step lacks few required identifiers. -/
theorem length_ruleItems : (ruleItems s capabilityRule).length ≤ 256 := by
  cases capabilityRule with
  | none => exact Nat.zero_le _
  | some rule =>
    obtain ⟨hpreconditions, hconstraints⟩ := rule.metadata
    have hfirst : rule.requiredPreconditionIds.length ≤ 128 := hpreconditions.bounded
    have hsecond : rule.requiredConstraintIds.length ≤ 128 := hconstraints.bounded
    have hitems : ∀ kind description (required declared : List PyStr),
        (missingItems kind description s.stepId required declared).length ≤ required.length := by
      intro kind description required declared
      rw [missingItems, List.length_map]
      exact List.length_filter_le _ _
    rw [ruleItems, List.length_append]
    exact (Nat.add_le_add (hitems _ _ _ _) (hitems _ _ _ _)).trans (by omega)

/-- A step has few prerequisites. -/
theorem length_stepPrerequisites (hrule : rule ∈ v1HazardRules) :
    (stepPrerequisites s capabilityRule rule assumptions).length ≤ 257 + assumptions.length := by
  have hmissing := @length_ruleItems p s capabilityRule
  have hhazards := (v1_prerequisites rule hrule).1
  rw [stepPrerequisites, List.length_append, List.length_append, hazardItems, List.length_map,
    assumptionItems, List.length_map]
  omega

/-- The constructor of a step decision accepts the arguments of evaluation. -/
theorem stepArguments_init (hs : ValidStep p s) (hrule : rule ∈ v1HazardRules)
    (hassumptions : ValidAssumptions p assumptions) :
    (stepArguments s capabilityRule rule assumptions).init p =
      .ok (stepDecision s capabilityRule rule assumptions) := by
  have hself : sortedSet (sortedSet (stepRules rule capabilityRule)) =
      sortedSet (stepRules rule capabilityRule) :=
    (sortedSet_eq_self.mpr (pairwise_sortedSet _)).symm
  have hrules : identifierTuple p decisionError (sortedSet (stepRules rule capabilityRule))
      (py "triggering policy rules") SafetyStepDecision.maxRuleIdLength =
        .ok (sortedSet (stepRules rule capabilityRule)) := by
    rw [identifierTuple, Checks.require_bind_ok, Checks.unit_bind_ok, Checks.require_bind_ok,
      Checks.pure_ok, Checks.forM_ok, hself]
    exact ⟨length_stepRules.trans (by decide), fun id hid => validateIdentifier_ok.mpr
      (stepRules_clean hrule (mem_sortedSet.mp hid)), rfl, rfl⟩
  have hsome : sortedSet (stepRules rule capabilityRule) ≠ [] := by
    have hmem : rule.ruleId ∈ sortedSet (stepRules rule capabilityRule) := by
      cases capabilityRule <;> simp [stepRules]
    exact List.ne_nil_of_mem hmem
  have happrovals : orderedObjects (stepApprovals s rule) SafetyApprovalRequirement.key
      (py "step approval requirements") =
        .ok (sortBy SafetyApprovalRequirement.key (stepApprovals s rule)) := by
    rw [orderedObjects, Checks.require_bind_ok, orderedUnique_ok]
    exact ⟨(length_stepApprovals hs).trans (by decide), stepApprovals_nodup hs, rfl⟩
  have hprerequisites : orderedObjects (stepPrerequisites s capabilityRule rule assumptions)
      UnresolvedSafetyPrerequisite.key (py "step unresolved prerequisites") =
        .ok (sortBy UnresolvedSafetyPrerequisite.key
          (stepPrerequisites s capabilityRule rule assumptions)) := by
    have hbounded : assumptions.length ≤ 128 := hassumptions.bounded
    have hlimit : maxSafetyDecisionItems = 512 := rfl
    rw [orderedObjects, Checks.require_bind_ok, orderedUnique_ok]
    exact ⟨(length_stepPrerequisites hrule).trans (by omega),
      stepPrerequisites_nodup hs hrule hassumptions, rfl⟩
  have hreasons : (stepArguments s capabilityRule rule assumptions).reasonCodes ≠ [] := by
    have hmem : rule.reason ∈ (stepArguments s capabilityRule rule assumptions).reasonCodes :=
      mem_orderedReasons.mpr (by simp [stepReasons])
    exact List.ne_nil_of_mem hmem
  rw [SafetyStepDecision.init, Checks.unit_bind_ok, Checks.unit_bind_ok, Checks.require_bind_ok,
    Checks.require_bind_ok, Checks.bind_ok]
  refine ⟨validateIdentifier_ok.mpr hs.stepId, validateIdentifier_ok.mpr hs.capabilityId,
    hreasons, orderedReasons_sorted _, _, hrules, ?_⟩
  rw [Checks.require_bind_ok, Checks.bind_ok]
  refine ⟨hsome, _, happrovals, ?_⟩
  rw [Checks.bind_ok]
  refine ⟨_, hprerequisites, ?_⟩
  rw [Checks.unit_bind_ok, Checks.unit_bind_ok, Checks.pure_ok]
  exact ⟨stepDecision_requirements hs hrule hassumptions, stepDecision_reasons hrule, rfl⟩

end Safety
end AyyoHumanoid
