import AyyoHumanoid.SafetyOutcomes

/-!
# Fail-closed evaluation

A proposal is eligible for downstream work exactly when it carries no assumption
and every step of its plan demands nothing. Everything else that evaluation
returns carries the greatest disposition of its steps and keeps every approval
and assumption of the proposal.
-/

namespace AyyoHumanoid
namespace Safety

open PyText JsonText PyCollections

variable {p : Platform}

/-- A plan step has no rule, lacks metadata of its rule or declares a disallowed result. -/
def StepRefused (policy : SafetyPolicy p) (step : Executive.PlanStep) : Prop :=
  (∀ rule ∈ policy.capabilityRules, rule.capabilityId ≠ step.capabilityId) ∨
    ∃ rule ∈ policy.capabilityRules, rule.capabilityId = step.capabilityId ∧
      ((∃ id ∈ rule.requiredPreconditionIds, id ∉ step.preconditions.map (·.preconditionId)) ∨
        (∃ id ∈ rule.requiredConstraintIds, id ∉ step.constraints.map (·.constraintId)) ∨
        step.expectedResult ∉ expectedResults rule.hazardClass)

/-- A plan step has a rule of an eligible class, all metadata of the rule, an allowed result and
no required approval. -/
def StepEligible (policy : SafetyPolicy p) (step : Executive.PlanStep) : Prop :=
  (∃ rule ∈ policy.capabilityRules, rule.capabilityId = step.capabilityId ∧
    (rule.hazardClass = .informationalReadOnly ∨ rule.hazardClass = .internalNonActuating) ∧
    (∀ id ∈ rule.requiredPreconditionIds, id ∈ step.preconditions.map (·.preconditionId)) ∧
    (∀ id ∈ rule.requiredConstraintIds, id ∈ step.constraints.map (·.constraintId)) ∧
    step.expectedResult ∈ expectedResults rule.hazardClass) ∧
  step.requiredApprovals = []

/-- A class with the least minimum is one of the two eligible ones. -/
theorem minimumDisposition_eq_eligible {hazardClass : HazardClass} :
    hazardClass.minimumDisposition = .eligibleForDownstream ↔
      hazardClass = .informationalReadOnly ∨ hazardClass = .internalNonActuating := by
  cases hazardClass <;> decide

section Step

variable {policy : SafetyPolicy p} {step : Executive.PlanStep} {s : PlanStepSnapshot}

/-- The class of a capability with a rule is that of the rule. -/
theorem hazardOf_of_rule {rule : CapabilitySafetyRule p}
    (h : policy.ruleFor s.capabilityId = some rule) :
    policy.hazardOf s.capabilityId = rule.hazardClass := by
  rw [SafetyPolicy.hazardOf, h]
  rfl

/-- A capability without a rule is unclassified. -/
theorem hazardOf_of_none (h : policy.ruleFor s.capabilityId = none) :
    policy.hazardOf s.capabilityId = .unclassified := by
  rw [SafetyPolicy.hazardOf, h]
  rfl

/-- There is no rule about a capability when no rule has its identifier. -/
theorem ruleFor_eq_none {capabilityId : PyStr} : policy.ruleFor capabilityId = none ↔
    ∀ rule ∈ policy.capabilityRules, rule.capabilityId ≠ capabilityId := by
  rw [SafetyPolicy.ruleFor, List.find?_eq_none]
  simp

/-- A refused step demands a block. -/
theorem demands_of_refused (hs : StepSnapshotOf p step s) (h : StepRefused policy step)
    (assumptions : List AssumptionSnapshot) : Demands policy s assumptions .blocked := by
  rcases h with hnone | ⟨rule, hrule, hid, hreason⟩
  · rw [← hs.capabilityId, ← ruleFor_eq_none] at hnone
    refine .result ?_
    rw [hazardOf_of_none hnone]
    simp [expectedResults]
  · have hfor : policy.ruleFor s.capabilityId = some rule :=
      SafetyPolicy.ruleFor_eq_some.mpr ⟨hrule, hid.trans hs.capabilityId.symm⟩
    rcases hreason with ⟨id, hrequired, hmissing⟩ | ⟨id, hrequired, hmissing⟩ | hresult
    · rw [← hs.mem_preconditionIds] at hmissing
      exact .metadata ⟨rule, hfor, Or.inl ⟨id, hrequired, hmissing⟩⟩
    · rw [← hs.mem_constraintIds] at hmissing
      exact .metadata ⟨rule, hfor, Or.inr ⟨id, hrequired, hmissing⟩⟩
    · refine .result ?_
      rw [hs.expectedResult, hazardOf_of_rule hfor]
      exact hresult

/-- A step that demands nothing above eligibility is eligible. -/
theorem stepEligible_of_demands (hs : StepSnapshotOf p step s)
    {assumptions : List AssumptionSnapshot}
    (h : ∀ x, Demands policy s assumptions x → x = .eligibleForDownstream) :
    StepEligible policy step := by
  have hminimum := minimumDisposition_eq_eligible.mp (h _ .hazard)
  have happrovals : s.requiredApprovals = [] := by
    by_contra hne
    exact absurd (h _ (.approval hne)) (by decide)
  refine ⟨?_, (snapshotItems_eq_nil hs.requiredApprovals).mp happrovals⟩
  cases hfor : policy.ruleFor s.capabilityId with
  | none =>
    rw [hazardOf_of_none hfor] at hminimum
    simp at hminimum
  | some rule =>
    obtain ⟨hrule, hid⟩ := SafetyPolicy.ruleFor_eq_some.mp hfor
    rw [hazardOf_of_rule hfor] at hminimum
    have hlacks : ¬StepLacks policy s := by
      intro hlacks
      exact absurd (h _ (.metadata hlacks)) (by decide)
    have hcomplete : ¬Lacks rule.toCapabilityRuleContent
        (s.preconditions.map (·.preconditionId)) (s.constraints.map (·.constraintId)) :=
      fun hlack => hlacks ⟨rule, hfor, hlack⟩
    refine ⟨rule, hrule, hid.trans hs.capabilityId, hminimum, ?_, ?_, ?_⟩
    · intro id hrequired
      by_contra hmissing
      rw [← hs.mem_preconditionIds] at hmissing
      exact hcomplete (Or.inl ⟨id, hrequired, hmissing⟩)
    · intro id hrequired
      by_contra hmissing
      rw [← hs.mem_constraintIds] at hmissing
      exact hcomplete (Or.inr ⟨id, hrequired, hmissing⟩)
    · by_contra hresult
      rw [← hs.expectedResult, ← hazardOf_of_rule hfor] at hresult
      exact absurd (h _ (.result hresult)) (by decide)

/-- The hazard rule identifier of an eligible class. -/
def eligibleRuleId (hazardClass : HazardClass) : PyStr :=
  if hazardClass = .informationalReadOnly then py "hazard.informational-read-only"
  else py "hazard.internal-non-actuating"

/-- The decision on a step that demands nothing. -/
def eligibleDecision (s : PlanStepSnapshot) (hazardClass : HazardClass) : SafetyStepDecision where
  stepId := s.stepId
  capabilityId := s.capabilityId
  hazardClass := hazardClass
  disposition := .eligibleForDownstream
  reasonCodes := [hazardClass.baseReason]
  triggeringPolicyRules := sortedSet [eligibleRuleId hazardClass,
    py "capability." ++ s.capabilityId]
  requiredApprovals := []
  unresolvedPrerequisites := []

/-- The limit on rule identifiers covers a prefixed capability. -/
theorem cleanRuleId {capabilityId : PyStr} (h : CleanIdentifier p maxIdentifierLength capabilityId) :
    CleanIdentifier p SafetyStepDecision.maxRuleIdLength (py "capability." ++ capabilityId) := by
  have hlimit : SafetyStepDecision.maxRuleIdLength =
      (py "capability.").length + maxIdentifierLength := by decide
  rw [hlimit]
  exact h.prefixed (by decide) (by decide)

/-- The rules named for a step that demands nothing are clean identifiers. -/
theorem eligibleDecision_rules {hazardClass : HazardClass}
    (hclass : hazardClass = .informationalReadOnly ∨ hazardClass = .internalNonActuating)
    (hcapability : CleanIdentifier p maxIdentifierLength s.capabilityId) :
    ∀ id ∈ (eligibleDecision s hazardClass).triggeringPolicyRules,
      CleanIdentifier p SafetyStepDecision.maxRuleIdLength id := by
  intro id hid
  simp only [eligibleDecision, mem_sortedSet, List.mem_cons, List.not_mem_nil, or_false] at hid
  rcases hid with rfl | rfl
  · rcases hclass with rfl | rfl
    · exact cleanIdentifier_ascii (by decide) (by decide) (by decide)
    · exact cleanIdentifier_ascii (by decide) (by decide) (by decide)
  · exact cleanRuleId hcapability

/-- The constructor of a step decision accepts the decision on a step that demands nothing. -/
theorem init_eligibleDecision {hazardClass : HazardClass}
    (hclass : hazardClass = .informationalReadOnly ∨ hazardClass = .internalNonActuating)
    (hstep : CleanIdentifier p maxIdentifierLength s.stepId)
    (hcapability : CleanIdentifier p maxIdentifierLength s.capabilityId) :
    (eligibleDecision s hazardClass).init p = .ok (eligibleDecision s hazardClass) := by
  have hrules := eligibleDecision_rules hclass hcapability
  have hsorted := pairwise_sortedSet
    [eligibleRuleId hazardClass, py "capability." ++ s.capabilityId]
  have hself : sortedSet (eligibleDecision s hazardClass).triggeringPolicyRules =
      (eligibleDecision s hazardClass).triggeringPolicyRules :=
    (sortedSet_eq_self.mpr hsorted).symm
  have hlength : (eligibleDecision s hazardClass).triggeringPolicyRules.length ≤ 2 :=
    length_sortedSet_le _
  have hne : (eligibleDecision s hazardClass).triggeringPolicyRules ≠ [] := by
    have hmem : eligibleRuleId hazardClass ∈
        (eligibleDecision s hazardClass).triggeringPolicyRules := by
      simp [eligibleDecision]
    intro hnil
    rw [hnil] at hmem
    cases hmem
  have htuple : identifierTuple p decisionError
      (eligibleDecision s hazardClass).triggeringPolicyRules (py "triggering policy rules")
      SafetyStepDecision.maxRuleIdLength =
        .ok (eligibleDecision s hazardClass).triggeringPolicyRules := by
    rw [identifierTuple, Checks.require_bind_ok, Checks.unit_bind_ok, Checks.require_bind_ok,
      Checks.pure_ok, Checks.forM_ok, hself]
    exact ⟨hlength.trans (by decide), fun id hid => validateIdentifier_ok.mpr (hrules id hid),
      rfl, rfl⟩
  have hrequirements : (eligibleDecision s hazardClass).checkRequirements = .ok () := by
    simp [SafetyStepDecision.checkRequirements, eligibleDecision, Checks.unit_bind_ok]
  have hreasons : (eligibleDecision s hazardClass).checkReasons = .ok () := by
    rcases hclass with rfl | rfl <;>
      simp [SafetyStepDecision.checkReasons, eligibleDecision, Checks.unit_bind_ok,
        HazardClass.minimumDisposition, SafetyDisposition.rank]
  rw [SafetyStepDecision.init, Checks.unit_bind_ok, Checks.unit_bind_ok, Checks.require_bind_ok,
    Checks.require_bind_ok]
  refine ⟨validateIdentifier_ok.mpr hstep, validateIdentifier_ok.mpr hcapability,
    by simp [eligibleDecision], ?_, ?_⟩
  · simp [eligibleDecision, sortBy]
  · rw [htuple, Checks.ok_bind, Checks.require_bind_ok]
    refine ⟨hne, ?_⟩
    change ((eligibleDecision s hazardClass).checkRequirements >>= fun _ =>
      (eligibleDecision s hazardClass).checkReasons >>= fun _ =>
        pure (eligibleDecision s hazardClass)) = _
    rw [hrequirements, Checks.ok_bind, hreasons]
    rfl

/-- The hazard rule of an eligible class requires nothing. -/
theorem v1_eligible : ∀ rule ∈ v1HazardRules,
    (rule.hazardClass = .informationalReadOnly ∨ rule.hazardClass = .internalNonActuating) →
      rule.ruleId = eligibleRuleId rule.hazardClass ∧ rule.approvalClass = none ∧
        rule.prerequisites = [] ∧ rule.disposition = .eligibleForDownstream ∧
        orderedReasons [rule.reason] = [rule.hazardClass.baseReason] := by
  decide

/-- Declared metadata is not listed as missing. -/
theorem missingMetadata_of_declared {kind : SafetyPrerequisiteKind} {description stepId : PyStr}
    {required declared : List PyStr} (h : ∀ id ∈ required, id ∈ declared) :
    missingMetadata p kind description stepId required declared = .ok [] := by
  have hnone : required.filter (· ∉ declared) = [] := by
    rw [List.filter_eq_nil_iff]
    simpa using h
  rw [missingMetadata, hnone]
  rfl

/-- Evaluation of a step that demands nothing returns its eligible decision. -/
theorem evaluateStep_eligible (hs : StepSnapshotOf p step s) (h : StepEligible policy step) :
    ∃ hazardClass, (hazardClass = .informationalReadOnly ∨ hazardClass = .internalNonActuating) ∧
      evaluateStep policy s [] = .ok (eligibleDecision s hazardClass) := by
  obtain ⟨⟨rule, hrule, hid, hclass, hpreconditions, hconstraints, hresult⟩, happrovals⟩ := h
  have hstepClean : CleanIdentifier p maxIdentifierLength s.stepId := hs.stepId ▸ hs.stepIdClean
  have hcapabilityClean : CleanIdentifier p maxIdentifierLength s.capabilityId :=
    hs.capabilityId ▸ hs.capabilityIdClean
  have hcapability : policy.capabilityRule s.capabilityId = .ok (some rule) :=
    capabilityRule_ok.mpr ⟨hcapabilityClean,
      SafetyPolicy.ruleFor_eq_some.mpr ⟨hrule, hid.trans hs.capabilityId.symm⟩⟩
  obtain ⟨hazardRule, hmem, hhazardClass⟩ := v1_complete rule.hazardClass
  have hhazard : policy.hazardRule rule.hazardClass = .ok hazardRule :=
    hazardRule_ok.mpr ⟨hmem, hhazardClass⟩
  obtain ⟨hruleId, happrovalClass, hprerequisites, hdisposition, hreasons⟩ :=
    v1_eligible hazardRule hmem (by rw [hhazardClass]; exact hclass)
  rw [hhazardClass] at hruleId hreasons
  have hmissing : stepMissing s (some rule) = .ok [] := by
    rw [stepMissing, ruleMetadata, missingMetadata_of_declared, missingMetadata_of_declared]
    · rfl
    · exact fun id hmem => hs.mem_constraintIds.mpr (hconstraints id hmem)
    · exact fun id hmem => hs.mem_preconditionIds.mpr (hpreconditions id hmem)
  have hdeclared : s.requiredApprovals = [] :=
    (snapshotItems_eq_nil hs.requiredApprovals).mpr happrovals
  have hpolicy : policyApproval p s rule.hazardClass hazardRule = .ok [] := by
    rw [policyApproval, happrovalClass]
  refine ⟨rule.hazardClass, hclass, ?_⟩
  rw [evaluateStep, hcapability, Checks.ok_bind]
  simp only [stepHazard, hhazard, Checks.ok_bind, hmissing, hpolicy, hdeclared, hprerequisites,
    List.mapM_nil]
  rw [← hs.expectedResult] at hresult
  have hsame : rule.capabilityId = s.capabilityId := hid.trans hs.capabilityId.symm
  have hdecision := init_eligibleDecision hclass hstepClean hcapabilityClean
  simp only [pure, Except.pure, Checks.ok_bind, hresult, not_true_eq_false, decide_false,
    List.append_nil, declaredDisposition, ne_eq, Bool.false_eq_true, or_self, if_false,
    hdisposition, settledDisposition, reduceCtorEq, not_false_eq_true, if_true, stepReasons,
    hreasons, stepRules, hruleId, CapabilityRuleContent.ruleId, hsame]
  exact hdecision

end Step

section Document

/-- The text of a hazard class is short. -/
theorem length_hazardClass (hazardClass : HazardClass) : hazardClass.value.length ≤ 40 := by
  cases hazardClass <;> decide

/-- The text of a reason is short. -/
theorem length_reason (reason : SafetyReason) : reason.value.length ≤ 50 := by
  cases reason <;> decide

/-- The text of a hazard class can be encoded. -/
theorem encodable_hazardClass (hazardClass : HazardClass) :
    utf8Encodable hazardClass.value = true := by
  cases hazardClass <;> exact utf8Encodable_py _

/-- The text of a reason can be encoded. -/
theorem encodable_reason (reason : SafetyReason) : utf8Encodable reason.value = true := by
  cases reason <;> exact utf8Encodable_py _

/-- A step decision for a step that demands nothing, with clean identifiers. -/
structure EligibleStep (p : Platform) (d : SafetyStepDecision) : Prop where
  /-- The decision has the shape of an eligible one. -/
  shape : ∃ s hazardClass, d = eligibleDecision s hazardClass
  stepId : CleanIdentifier p maxIdentifierLength d.stepId
  capabilityId : CleanIdentifier p maxIdentifierLength d.capabilityId
  rules : ∀ id ∈ d.triggeringPolicyRules, CleanIdentifier p SafetyStepDecision.maxRuleIdLength id

variable {d : SafetyStepDecision}

/-- An eligible step names at most two rules. -/
theorem EligibleStep.length_rules (h : EligibleStep p d) : d.triggeringPolicyRules.length ≤ 2 := by
  obtain ⟨s, hazardClass, rfl⟩ := h.shape
  exact length_sortedSet_le _

/-- The document of an eligible step has few values. -/
theorem EligibleStep.nodes (h : EligibleStep p d) : d.document.nodes ≤ 14 := by
  have hrules := h.length_rules
  obtain ⟨s, hazardClass, rfl⟩ := h.shape
  simp only [SafetyStepDecision.document, eligibleDecision, Json.nodes_obj, Json.nodes_arr,
    Json.nodes_str, Executive.nodes_textItems, List.map_cons, List.map_nil, List.sum_cons,
    List.sum_nil, List.length_cons, List.length_nil] at hrules ⊢
  omega

/-- The document of an eligible step has few characters. -/
theorem EligibleStep.characters (h : EligibleStep p d) : d.document.characters ≤ 5000 := by
  have hrules : (d.triggeringPolicyRules.map List.length).sum ≤
      d.triggeringPolicyRules.length * SafetyStepDecision.maxRuleIdLength :=
    Json.sum_map_le fun id hid => (h.rules id hid).short
  have hlength := h.length_rules
  have hlimit : SafetyStepDecision.maxRuleIdLength = 267 := by decide
  have hidentifier : maxIdentifierLength = 256 := rfl
  have hstep := h.stepId.short
  have hcapability := h.capabilityId.short
  obtain ⟨s, hazardClass, rfl⟩ := h.shape
  have hhazard := length_hazardClass hazardClass
  have hreason := length_reason hazardClass.baseReason
  have hdisposition : SafetyDisposition.eligibleForDownstream.value.length = 23 := by decide
  rw [hlimit] at hrules
  simp only [eligibleDecision] at hrules hlength hstep hcapability
  refine (Json.characters_obj_le 200 (8 * 600) ?_ (Json.sum_map_le ?_)).trans (by decide)
  · simp only [List.map_cons, List.map_nil, List.sum_cons, List.sum_nil]
    decide
  · simp only [eligibleDecision, Json.characters_arr, Json.characters_str,
      Executive.characters_textItems, List.map_cons, List.map_nil, List.sum_cons, List.sum_nil,
      List.forall_mem_cons, List.not_mem_nil, false_implies, implies_true, Nat.add_zero,
      Nat.zero_le, true_and, and_true]
    exact ⟨hcapability.trans (by decide), hdisposition.le.trans (by decide),
      hhazard.trans (by decide), hreason.trans (by decide), hstep.trans (by decide),
      hrules.trans ((Nat.mul_le_mul_right _ hlength).trans (by decide))⟩

/-- The document of an eligible step is flat. -/
theorem EligibleStep.fitsDepth (h : EligibleStep p d) : d.document.FitsDepth 256 2 := by
  obtain ⟨s, hazardClass, rfl⟩ := h.shape
  simp [SafetyStepDecision.document, eligibleDecision, Executive.fitsDepth_textItems]

/-- The document of an eligible step may be written. -/
theorem EligibleStep.allValid (h : EligibleStep p d) : d.document.AllValid := by
  have hrules : ∀ id ∈ d.triggeringPolicyRules, utf8Encodable id = true :=
    fun id hid => (h.rules id hid).encodable
  have hstep := h.stepId.encodable
  have hcapability := h.capabilityId.encodable
  obtain ⟨s, hazardClass, rfl⟩ := h.shape
  have hdisposition : utf8Encodable SafetyDisposition.eligibleForDownstream.value = true :=
    utf8Encodable_py _
  simp only [eligibleDecision] at hrules hstep hcapability
  simp [SafetyStepDecision.document, eligibleDecision, hdisposition, encodable_hazardClass,
    encodable_reason, hstep, hcapability, hrules]

variable {c : SafetyDecisionContent}

/-- A decision content whose steps demand nothing. -/
structure EligibleContent (p : Platform) (c : SafetyDecisionContent) : Prop where
  /-- The sources pass the checks of the constructor. -/
  sources : c.checkSources = .ok ()
  /-- The policy digest is one. -/
  policyDigest : IsHexDigest c.policyFingerprint.digest
  /-- The proposal digest is one. -/
  proposalDigest : IsHexDigest c.proposalFingerprint.digest
  /-- The source digest is one. -/
  sourceDigest : IsHexDigest c.sourceDecisionFingerprint.digest
  /-- The source algorithm is the expected one. -/
  sourceAlgorithm : c.sourceDecisionFingerprint.algorithm = py "sha256"
  /-- The steps demand nothing. -/
  steps : ∀ step ∈ c.stepDecisions, EligibleStep p step
  /-- There is a step. -/
  nonempty : c.stepDecisions ≠ []
  /-- There are not too many steps. -/
  bounded : c.stepDecisions.length ≤ maxSafetySteps
  /-- The steps are distinct. -/
  nodup : (c.stepDecisions.map (·.stepId)).Nodup

namespace EligibleContent

/-- Steps that demand nothing need no approval. -/
theorem approvals_eq_nil (h : EligibleContent p c) : c.approvals = [] := by
  have hnone : c.stepDecisions.flatMap (·.requiredApprovals) = [] := by
    rw [List.flatMap_eq_nil_iff]
    intro step hstep
    obtain ⟨s, hazardClass, rfl⟩ := (h.steps step hstep).shape
    rfl
  rw [SafetyDecisionContent.approvals, hnone]
  rfl

/-- Steps that demand nothing have no open prerequisite. -/
theorem prerequisites_eq_nil (h : EligibleContent p c) : c.prerequisites = [] := by
  have hnone : c.stepDecisions.flatMap (·.unresolvedPrerequisites) = [] := by
    rw [List.flatMap_eq_nil_iff]
    intro step hstep
    obtain ⟨s, hazardClass, rfl⟩ := (h.steps step hstep).shape
    rfl
  rw [SafetyDecisionContent.prerequisites, hnone]
  rfl

/-- There are at most as many reasons as steps. -/
theorem length_reasons (h : EligibleContent p c) : c.reasons.length ≤ 64 := by
  have hsingle : (c.stepDecisions.flatMap (·.reasonCodes)).length = c.stepDecisions.length := by
    rw [List.length_flatMap]
    have hone : c.stepDecisions.map (fun step => step.reasonCodes.length) =
        c.stepDecisions.map fun _ => 1 := by
      refine List.map_congr_left fun step hstep => ?_
      obtain ⟨s, hazardClass, rfl⟩ := (h.steps step hstep).shape
      rfl
    rw [hone]
    simp
  have hdedup := (List.dedup_sublist (c.stepDecisions.flatMap (·.reasonCodes))).length_le
  have hbound : c.stepDecisions.length ≤ 64 := h.bounded
  rw [SafetyDecisionContent.reasons, length_sortBy]
  omega

/-- The texts of the sources are clean. -/
theorem cleanSources (h : EligibleContent p c) : CleanText c.sourceDecisionId ∧
    CleanText c.sourceRequestId ∧ CleanText c.ownerSubject ∧ CleanText c.policyVersion := by
  have hsources := h.sources
  simp only [SafetyDecisionContent.checkSources, Checks.unit_bind_ok, validateText_ok] at hsources
  exact ⟨hsources.1, hsources.2.1, hsources.2.2.1, hsources.2.2.2.1⟩

/-- The text of a safety fingerprint is short. -/
theorem length_fingerprint {f : SafetyFingerprint} (h : IsHexDigest f.digest) :
    f.text.length ≤ 100 := by
  have hdigest := h.1
  have hkind : f.kind.value.length ≤ 8 := by cases f.kind <;> decide
  have hmiddle : (py ":sha256:").length = 8 := by decide
  rw [SafetyFingerprint.text, List.length_append, List.length_append, hmiddle, hdigest]
  omega

/-- The text of a safety fingerprint can be encoded. -/
theorem encodable_fingerprint {f : SafetyFingerprint} (h : IsHexDigest f.digest) :
    utf8Encodable f.text = true := by
  have hkind : utf8Encodable f.kind.value = true := by
    cases f.kind <;> exact utf8Encodable_py _
  rw [SafetyFingerprint.text, utf8Encodable_append, utf8Encodable_append, hkind, h.encodable]
  simp

/-- The text of a source fingerprint is short. -/
theorem length_source {f : Executive.Fingerprint} (hdigest : IsHexDigest f.digest)
    (halgorithm : f.algorithm = py "sha256") : f.text.length ≤ 100 := by
  have hlength := hdigest.1
  have hkind : f.kind.value.length ≤ 20 := by
    cases f.kind <;> decide
  have hname : f.algorithm.length = 6 := by
    rw [halgorithm]
    decide
  have hcolon : (py ":").length = 1 := by decide
  simp only [Executive.Fingerprint.text, List.length_append, hcolon, hname, hlength]
  omega

/-- The text of a source fingerprint can be encoded. -/
theorem encodable_source {f : Executive.Fingerprint} (hdigest : IsHexDigest f.digest)
    (halgorithm : f.algorithm = py "sha256") : utf8Encodable f.text = true := by
  have hkind : utf8Encodable f.kind.value = true := by
    cases f.kind <;> exact utf8Encodable_py _
  simp [Executive.Fingerprint.text, halgorithm, hkind, hdigest.encodable]

/-- The document of a decision whose steps demand nothing has few values. -/
theorem nodes_le (h : EligibleContent p c) :
    (c.document .eligibleForDownstream).nodes ≤ 250000 := by
  have hsteps : c.stepDecisions.length ≤ 64 := h.bounded
  have hreasons := h.length_reasons
  have hnodes : (c.stepDecisions.map fun step => step.document.nodes).sum ≤
      c.stepDecisions.length * 14 := Json.sum_map_le fun step hstep => (h.steps step hstep).nodes
  refine (Json.nodes_obj_le (13 * 1000) (Json.sum_map_le ?_)).trans (by decide)
  simp only [h.approvals_eq_nil, h.prerequisites_eq_nil, Json.nodes_arr, Json.nodes_str,
    Executive.nodes_textItems, List.map_nil, List.sum_nil, List.length_map, List.map_map,
    Function.comp_def, List.forall_mem_cons, List.not_mem_nil, false_implies, implies_true,
    and_true]
  have hmany : 1 + (c.stepDecisions.map fun step => step.document.nodes).sum ≤ 1000 := by
    omega
  have hfew : 1 + c.reasons.length ≤ 1000 := by omega
  simp [hmany, hfew]

/-- The document of a decision whose steps demand nothing is flat. -/
theorem fitsDepth (h : EligibleContent p c) :
    (c.document .eligibleForDownstream).FitsDepth 256 0 := by
  have hinside : ∀ step ∈ c.stepDecisions, step.document.FitsDepth 256 2 :=
    fun step hstep => (h.steps step hstep).fitsDepth
  simpa [SafetyDecisionContent.document, h.approvals_eq_nil, h.prerequisites_eq_nil,
    Executive.fitsDepth_textItems] using hinside

/-- The document of a decision whose steps demand nothing has few characters. -/
theorem characters_le (h : EligibleContent p c) :
    (c.document .eligibleForDownstream).characters ≤ 32000000 := by
  obtain ⟨hdecisionId, hrequestId, howner, hversion⟩ := h.cleanSources
  have hsteps : c.stepDecisions.length ≤ 64 := h.bounded
  have hreasons := h.length_reasons
  have hdisposition : SafetyDisposition.eligibleForDownstream.value.length = 23 := by decide
  have hcharacters : (c.stepDecisions.map fun step => step.document.characters).sum ≤
      c.stepDecisions.length * 5000 :=
    Json.sum_map_le fun step hstep => (h.steps step hstep).characters
  have htexts : (c.reasons.map fun reason => reason.value.length).sum ≤
      c.reasons.length * 50 := Json.sum_map_le fun reason _ => length_reason reason
  have hschema : (py "ayyo.safety.decision.v1").length = 23 := by decide
  have hpolicy := length_fingerprint h.policyDigest
  have hproposal := length_fingerprint h.proposalDigest
  have hsource := length_source h.sourceDigest h.sourceAlgorithm
  have hbound1 : c.sourceDecisionId.length ≤ 16384 := hdecisionId.bounded
  have hbound2 : c.sourceRequestId.length ≤ 16384 := hrequestId.bounded
  have hbound3 : c.ownerSubject.length ≤ 16384 := howner.bounded
  have hbound4 : c.policyVersion.length ≤ 16384 := hversion.bounded
  refine (Json.characters_obj_le 500 (13 * 320000) ?_ (Json.sum_map_le ?_)).trans (by decide)
  · simp only [List.map_cons, List.map_nil, List.sum_cons, List.sum_nil]
    decide
  · simp only [h.approvals_eq_nil, h.prerequisites_eq_nil, Json.characters_arr,
      Json.characters_str, Executive.characters_textItems, List.map_nil, List.sum_nil,
      List.map_map, Function.comp_def, List.forall_mem_cons,
      List.not_mem_nil, false_implies, implies_true, Nat.zero_le, true_and, and_true]
    exact ⟨hdisposition.le.trans (by decide), hbound3.trans (by decide),
      hpolicy.trans (by decide), hbound4.trans (by decide), hproposal.trans (by decide),
      htexts.trans ((Nat.mul_le_mul_right 50 hreasons).trans (by decide)),
      hschema.le.trans (by decide), hsource.trans (by decide), hbound1.trans (by decide),
      hbound2.trans (by decide),
      hcharacters.trans ((Nat.mul_le_mul_right 5000 hsteps).trans (by decide))⟩

/-- The document of a decision whose steps demand nothing may be written. -/
theorem allValid (h : EligibleContent p c) : (c.document .eligibleForDownstream).AllValid := by
  obtain ⟨hdecisionId, hrequestId, howner, hversion⟩ := h.cleanSources
  have hdisposition : utf8Encodable SafetyDisposition.eligibleForDownstream.value = true :=
    utf8Encodable_py _
  have hinside : ∀ step ∈ c.stepDecisions, step.document.AllValid :=
    fun step hstep => (h.steps step hstep).allValid
  simpa [SafetyDecisionContent.document, h.approvals_eq_nil, h.prerequisites_eq_nil,
    hdisposition, hdecisionId.encodable, hrequestId.encodable, howner.encodable,
    hversion.encodable, encodable_reason, encodable_fingerprint h.policyDigest,
    encodable_fingerprint h.proposalDigest,
    encodable_source h.sourceDigest h.sourceAlgorithm] using hinside

/-- The document of a decision whose steps demand nothing can be digested. -/
theorem within (h : EligibleContent p c) :
    Within fingerprintLimits (c.document .eligibleForDownstream) where
  nodes := h.nodes_le
  depth := h.fitsDepth
  characters := h.characters_le
  valid := h.allValid

/-- The constructor of a decision accepts steps that demand nothing. -/
theorem init_ok (h : EligibleContent p c) :
    ∃ d, c.init p = .ok d ∧ d.disposition = .eligibleForDownstream := by
  have hall : ∀ step ∈ c.stepDecisions, step.disposition = .eligibleForDownstream := by
    intro step hstep
    obtain ⟨s, hazardClass, rfl⟩ := (h.steps step hstep).shape
    rfl
  cases hsteps : c.stepDecisions with
  | nil => exact absurd hsteps h.nonempty
  | cons first others =>
    have hstrongest : strongest first.disposition (others.map (·.disposition)) =
        .eligibleForDownstream := by
      have hmem := (strongest_isGreatest first.disposition (others.map (·.disposition))).1
      simp only [Set.mem_ofPred_eq, List.mem_cons, List.mem_map] at hmem
      rcases hmem with heq | ⟨step, hstep, heq⟩
      · rw [heq]
        exact hall first (by simp [hsteps])
      · rw [← heq]
        exact hall step (by simp [hsteps, hstep])
    have hfingerprint : fingerprintDocument p .decision (c.document .eligibleForDownstream)
        .decisionInvariant = .ok {
          kind := .decision
          digest := p.sha256 (encode (c.document .eligibleForDownstream)) } :=
      fingerprintDocument_ok.mpr ⟨h.within, rfl⟩
    have hnodup := h.nodup
    have hbounded := h.bounded
    rw [SafetyDecisionContent.init, h.sources, Checks.ok_bind, hsteps]
    simp only [h.approvals_eq_nil, h.prerequisites_eq_nil, hstrongest, hfingerprint,
      Checks.require_bind_ok, Checks.ok_bind, Checks.pure_ok]
    rw [hsteps] at hnodup hbounded
    exact ⟨_, ⟨hbounded, hnodup, by simp, by simp, rfl⟩, rfl⟩

end EligibleContent
end Document

section Evaluation

variable {policy : SafetyPolicy p} {proposal : Executive.ExecutiveDecision}
  {parts : ProposalParts} {d : SafetyDecision}

/-- A returned eligible decision means that nothing is demanded. -/
theorem Evaluated.demands_nothing (h : Evaluated policy proposal parts d)
    (heligible : d.disposition = .eligibleForDownstream) {s : PlanStepSnapshot} {index : Nat}
    (hs : parts.steps[index]? = some s) {x : SafetyDisposition}
    (hx : Demands policy s (assumptionsAt (snapshotOf p proposal parts) index) x) :
    x = .eligibleForDownstream := by
  obtain ⟨step, hstep, hverdict⟩ := h.exists_decision hs
  have hle : x ≤ step.disposition := hverdict.greatest.2 hx
  have htop : step.disposition ≤ d.disposition := h.greatest.2 ⟨step, hstep, rfl⟩
  rw [heligible] at htop
  exact le_antisymm (hle.trans htop) x.eligible_le

/-- An eligible decision needs a proposal without assumptions. -/
theorem Evaluated.assumptions_eq_nil (h : Evaluated policy proposal parts d)
    (heligible : d.disposition = .eligibleForDownstream) : proposal.assumptions = [] := by
  cases hsteps : parts.steps with
  | nil => exact absurd hsteps h.accepted.steps_ne_nil
  | cons first others =>
    have hfirst : parts.steps[0]? = some first := by simp [hsteps]
    refine (snapshotItems_eq_nil h.accepted.assumptions).mp ?_
    by_contra hne
    have hdemand := h.demands_nothing heligible hfirst (.assumption (by simpa [assumptionsAt,
      snapshotOf] using hne))
    cases hdemand

/-- An eligible decision needs eligible steps. -/
theorem Evaluated.stepEligible (h : Evaluated policy proposal parts d)
    (heligible : d.disposition = .eligibleForDownstream) {step : Executive.PlanStep}
    (hstep : step ∈ planSteps proposal) : StepEligible policy step := by
  obtain ⟨s, hs, hsnapshot⟩ := h.accepted.exists_snapshot hstep
  obtain ⟨index, hindex⟩ := List.getElem?_of_mem hs
  exact stepEligible_of_demands hsnapshot fun x hx => h.demands_nothing heligible hindex hx

/-- The step snapshots of an eligible proposal are evaluated as eligible. -/
theorem evaluateSteps_eligible (haccepted : Accepted p true proposal parts)
    (hassumptions : proposal.assumptions = [])
    (hsteps : ∀ step ∈ planSteps proposal, StepEligible policy step) :
    ∃ stepDecisions, evaluateSteps policy (snapshotOf p proposal parts) = .ok stepDecisions ∧
      ∀ d ∈ stepDecisions, EligibleStep p d := by
  have hnone : parts.assumptions = [] :=
    (snapshotItems_eq_nil haccepted.assumptions).mpr hassumptions
  have hat : ∀ index, assumptionsAt (snapshotOf p proposal parts) index = [] := by
    intro index
    rw [assumptionsAt, snapshotOf]
    split
    · exact hnone
    · rfl
  have heach : ∀ item ∈ parts.steps.zipIdx, ∃ d, evaluateStep policy item.1
      (assumptionsAt (snapshotOf p proposal parts) item.2) = .ok d ∧ EligibleStep p d := by
    intro item hitem
    have hmem : item.1 ∈ parts.steps := List.fst_mem_of_mem_zipIdx hitem
    obtain ⟨step, hstep, hs⟩ := haccepted.exists_step hmem
    obtain ⟨hazardClass, hclass, hok⟩ := evaluateStep_eligible hs (hsteps step hstep)
    have hcapability : CleanIdentifier p maxIdentifierLength item.1.capabilityId :=
      hs.capabilityId ▸ hs.capabilityIdClean
    have hid : CleanIdentifier p maxIdentifierLength item.1.stepId := hs.stepId ▸ hs.stepIdClean
    rw [hat]
    exact ⟨_, hok, ⟨item.1, hazardClass, rfl⟩, hid, hcapability,
      eligibleDecision_rules hclass hcapability⟩
  obtain ⟨stepDecisions, hdecisions⟩ := Checks.exists_mapM_ok.mpr fun item hitem =>
    (heach item hitem).imp fun d hd => hd.1
  refine ⟨stepDecisions, hdecisions, fun d hd => ?_⟩
  obtain ⟨item, hitem, hok⟩ := (Checks.mem_of_mapM_ok hdecisions).mp hd
  obtain ⟨other, hother, heligible⟩ := heach item hitem
  rw [hok, Except.ok.injEq] at hother
  exact hother ▸ heligible

/-- Evaluation of an eligible proposal returns an eligible decision. -/
theorem evaluate_of_eligible (haccepted : Accepted p true proposal parts)
    (hassumptions : proposal.assumptions = [])
    (hsteps : ∀ step ∈ planSteps proposal, StepEligible policy step) :
    ∃ d, evaluate policy proposal = .ok d ∧ d.disposition = .eligibleForDownstream := by
  obtain ⟨stepDecisions, hdecisions, heligible⟩ :=
    evaluateSteps_eligible haccepted hassumptions hsteps
  have hprovenance := validProvenance haccepted.provenance
  obtain ⟨hversion, -, hfingerprint⟩ := policy.fingerprint_eq
  have hversionClean : CleanText policy.version := by
    rw [hversion]
    have hclean : CleanIdentifier p maxIdentifierLength safetyPolicyVersion :=
      cleanIdentifier_ascii (by decide) (by decide) (by decide)
    exact hclean.toCleanText
  have hids : stepDecisions.map (·.stepId) = parts.steps.map (·.stepId) := by
    have hview := Checks.map_of_mapM_ok hdecisions (PlanStepSnapshot.stepId ∘ Prod.fst)
      fun item step hok => (evaluateStep_ok hok).stepId
    rw [hview, ← List.map_map, List.zipIdx_map_fst]
    rfl
  have hlength : stepDecisions.length = parts.steps.length := by
    have hmap := congrArg List.length hids
    rwa [List.length_map, List.length_map] at hmap
  have hcontent : EligibleContent p
      (decisionContent policy (snapshotOf p proposal parts) stepDecisions) := {
    sources := by
      simp only [SafetyDecisionContent.checkSources, Checks.unit_bind_ok, validateText_ok,
        Checks.require_ok]
      refine ⟨hprovenance.decisionId, hprovenance.requestId, hprovenance.ownerSubject,
        hversionClean, hversion, hprovenance.decisionKind, ?_, rfl⟩
      rw [decisionContent, hfingerprint]
    policyDigest := by
      rw [decisionContent, hfingerprint]
      exact p.sha256_hex _
    proposalDigest := p.sha256_hex _
    sourceDigest := hprovenance.decisionDigest
    sourceAlgorithm := hprovenance.decisionAlgorithm
    steps := heligible
    nonempty := by
      intro hnil
      have hempty : stepDecisions = [] := hnil
      rw [hempty] at hlength
      exact haccepted.steps_ne_nil (List.length_eq_zero_iff.mp hlength.symm)
    bounded := by
      have hbound := haccepted.steps_length
      rw [← hlength] at hbound
      exact hbound
    nodup := by
      have hnodup := haccepted.stepIds_nodup
      rw [← hids] at hnodup
      exact hnodup }
  obtain ⟨d, hinit, hdisposition⟩ := hcontent.init_ok
  exact ⟨d, evaluate_ok.mpr ⟨parts, stepDecisions, haccepted, hdecisions, hinit⟩, hdisposition⟩

/-- Refused steps are blocked whatever else they declare. -/
theorem Evaluated.blocked_of_refused (h : Evaluated policy proposal parts d)
    {step : Executive.PlanStep} (hstep : step ∈ planSteps proposal)
    (hrefused : StepRefused policy step) {decision : SafetyStepDecision}
    (hdecision : decision ∈ d.stepDecisions) (hid : decision.stepId = step.stepId) :
    decision.disposition = .blocked := by
  obtain ⟨s, hs, hsnapshot⟩ := h.accepted.exists_snapshot hstep
  obtain ⟨other, index, hindex, hverdict⟩ := h.exists_snapshot hdecision
  have hsame : other = s := by
    refine List.inj_on_of_nodup_map h.accepted.stepIds_nodup (List.mem_of_getElem? hindex) hs ?_
    rw [← hverdict.stepId, hid, hsnapshot.stepId]
  rw [hsame] at hverdict
  exact le_antisymm (SafetyDisposition.le_blocked _)
    (hverdict.greatest.2 (demands_of_refused hsnapshot hrefused _))

/-- Every approval that a step requires is kept. -/
theorem Evaluated.approval_kept (h : Evaluated policy proposal parts d)
    {step : Executive.PlanStep} (hstep : step ∈ planSteps proposal)
    {approval : Executive.ApprovalRequirement} (happroval : approval ∈ step.requiredApprovals) :
    SafetyApprovalRequirement.mk .executiveDeclared .executive approval.approvalId
      approval.description step.stepId ∈ d.requiredApprovals := by
  obtain ⟨s, hs, hsnapshot⟩ := h.accepted.exists_snapshot hstep
  obtain ⟨index, hindex⟩ := List.getElem?_of_mem hs
  obtain ⟨decision, hdecision, hverdict⟩ := h.exists_decision hindex
  have hitem : ApprovalSnapshot.mk approval.approvalId approval.description ∈
      s.requiredApprovals := by
    obtain ⟨-, snapshots, hsnapshots, -⟩ := snapshotItems_ok hsnapshot.requiredApprovals
    obtain ⟨item, hitem⟩ := Checks.exists_mapM_ok.mp ⟨snapshots, hsnapshots⟩ approval happroval
    refine (mem_snapshotItems hsnapshot.requiredApprovals).mpr ⟨approval, happroval, ?_⟩
    rw [hitem, (snapshotApproval_ok.mp hitem).2.2]
  rw [h.approvals]
  refine ⟨decision, hdecision, ?_⟩
  rw [← hsnapshot.stepId]
  exact hverdict.approvals _ hitem

/-- Every assumption is kept, at a step of the plan. -/
theorem Evaluated.assumption_kept (h : Evaluated policy proposal parts d)
    {assumption : Executive.Assumption} (hassumption : assumption ∈ proposal.assumptions) :
    ∃ step ∈ planSteps proposal,
      UnresolvedSafetyPrerequisite.mk .assumptionVerification assumption.assumptionId
        assumption.description step.stepId ∈ d.unresolvedPrerequisites := by
  cases hsteps : parts.steps with
  | nil => exact absurd hsteps h.accepted.steps_ne_nil
  | cons first others =>
    have hfirst : parts.steps[0]? = some first := by simp [hsteps]
    obtain ⟨step, hstep, hsnapshot⟩ := h.accepted.exists_step (List.mem_of_getElem? hfirst)
    obtain ⟨decision, hdecision, hverdict⟩ := h.exists_decision hfirst
    have hitem : AssumptionSnapshot.mk assumption.assumptionId assumption.description ∈
        parts.assumptions := by
      have hassumptions := h.accepted.assumptions
      obtain ⟨-, snapshots, hsnapshots, -⟩ := snapshotItems_ok hassumptions
      obtain ⟨item, hitem⟩ := Checks.exists_mapM_ok.mp ⟨snapshots, hsnapshots⟩ assumption
        hassumption
      refine (mem_snapshotItems hassumptions).mpr ⟨assumption, hassumption, ?_⟩
      rw [hitem, (snapshotAssumption_ok.mp hitem).2.2]
    refine ⟨step, hstep, ?_⟩
    rw [h.prerequisites]
    refine ⟨decision, hdecision, ?_⟩
    rw [← hsnapshot.stepId]
    exact hverdict.assumptions _ hitem

/-- Evaluation is fail-closed: an accepted proposal is eligible exactly when it carries no
assumption and all its steps are eligible, every returned decision has the greatest disposition
of its steps, refused steps are blocked, and no approval and no assumption is dropped. -/
theorem evaluate_failClosed (policy : SafetyPolicy p) (proposal : Executive.ExecutiveDecision)
    (snapshot : SafetyProposalSnapshot) (haccepted : snapshotProposal p true proposal = .ok snapshot) :
    ((∃ d, evaluate policy proposal = .ok d ∧ d.disposition = .eligibleForDownstream) ↔
      proposal.assumptions = [] ∧ ∀ step ∈ planSteps proposal, StepEligible policy step) ∧
    ∀ d, evaluate policy proposal = .ok d →
      (d.stepDecisions.map (·.stepId)).Perm ((planSteps proposal).map (·.stepId)) ∧
      IsGreatest {x | ∃ decision ∈ d.stepDecisions, decision.disposition = x} d.disposition ∧
      (∀ step ∈ planSteps proposal, StepRefused policy step →
        ∀ decision ∈ d.stepDecisions, decision.stepId = step.stepId →
          decision.disposition = .blocked) ∧
      (∀ step ∈ planSteps proposal, ∀ approval ∈ step.requiredApprovals,
        SafetyApprovalRequirement.mk .executiveDeclared .executive approval.approvalId
          approval.description step.stepId ∈ d.requiredApprovals) ∧
      ∀ assumption ∈ proposal.assumptions, ∃ step ∈ planSteps proposal,
        UnresolvedSafetyPrerequisite.mk .assumptionVerification assumption.assumptionId
          assumption.description step.stepId ∈ d.unresolvedPrerequisites := by
  obtain ⟨parts, hparts, -⟩ := snapshotProposal_ok.mp haccepted
  refine ⟨⟨?_, ?_⟩, ?_⟩
  · rintro ⟨d, hd, heligible⟩
    obtain ⟨parts, hevaluated⟩ := evaluated hd
    exact ⟨hevaluated.assumptions_eq_nil heligible,
      fun step hstep => hevaluated.stepEligible heligible hstep⟩
  · rintro ⟨hassumptions, hsteps⟩
    exact evaluate_of_eligible hparts hassumptions hsteps
  · intro d hd
    obtain ⟨parts, hevaluated⟩ := evaluated hd
    refine ⟨hevaluated.stepIds_perm, hevaluated.greatest, ?_, ?_, ?_⟩
    · intro step hstep hrefused decision hdecision hid
      exact hevaluated.blocked_of_refused hstep hrefused hdecision hid
    · intro step hstep approval happroval
      exact hevaluated.approval_kept hstep happroval
    · intro assumption hassumption
      exact hevaluated.assumption_kept hassumption

end Evaluation

section Sample

/-- A digest text. -/
def sampleDigest : PyStr := List.replicate 64 48

/-- The content of a capability rule of an eligible class. -/
def sampleRuleContent : CapabilityRuleContent where
  capabilityId := py "calendar.read"
  hazardClass := .informationalReadOnly

/-- The constructor accepts the content of the rule. -/
theorem sampleRule_built : ∃ arguments : CapabilityRuleContent,
    arguments.init Platform.ascii = .ok sampleRuleContent :=
  ⟨sampleRuleContent, by decide⟩

/-- A capability rule of an eligible class. -/
def sampleRule : CapabilitySafetyRule Platform.ascii :=
  ⟨sampleRuleContent, sampleRule_built⟩

/-- The content of a policy with that rule alone. -/
def samplePolicyContent : SafetyPolicyContent Platform.ascii where
  version := safetyPolicyVersion
  capabilityRules := [sampleRule]
  hazardRules := sortBy (fun rule => rule.hazardClass.value) v1HazardRules
  fingerprint := { kind := .policy, digest := sampleDigest }

set_option maxRecDepth 20000 in
/-- The document of the policy is small enough to be named. -/
theorem samplePolicy_within : Within fingerprintLimits (SafetyPolicyContent.document [sampleRule]
    (sortBy (fun rule => rule.hazardClass.value) v1HazardRules)) :=
  validateJson_ok.mp (by decide)

/-- The constructor accepts the content of the policy. -/
theorem samplePolicy_built :
    ∃ rules, SafetyPolicyContent.init rules = .ok samplePolicyContent := by
  refine ⟨[sampleRule], ?_⟩
  rw [SafetyPolicyContent.init, Checks.require_bind_ok, Checks.require_bind_ok,
    Checks.require_bind_ok, Checks.bind_ok]
  exact ⟨by decide, by decide, by decide, _,
    fingerprintDocument_ok.mpr ⟨samplePolicy_within, rfl⟩, rfl⟩

/-- A policy with that rule alone. -/
def samplePolicy : SafetyPolicy Platform.ascii := ⟨samplePolicyContent, samplePolicy_built⟩

/-- A step that reads information. -/
def sampleStep : Executive.PlanStep where
  stepId := py "read-agenda"
  capabilityId := py "calendar.read"
  dependencies := []
  preconditions := []
  requiredContext := []
  requiredApprovals := []
  constraints := []
  expectedResult := .information
  failurePolicy := .stopPlan
  storedParameters := []
  canonicalParameters := encode (.obj [])

/-- A proposal with one step and the given assumptions. -/
def sampleProposal (assumptions : List Executive.Assumption) : Executive.ExecutiveDecision where
  requestId := py "request-1"
  ownerSubject := py "owner"
  decisionType := .propose
  reasonCodes := [.readyForSafetyReview]
  explanation := py "The plan is ready for safety review."
  contextSnapshotVersion := { digest := sampleDigest }
  requestFingerprint := { kind := .request, digest := sampleDigest }
  capabilityContractFingerprint := { kind := .capabilityContract, digest := sampleDigest }
  contextReferences := []
  assumptions := assumptions
  requiredCapabilities := [py "calendar.read"]
  requiredApprovals := []
  constraints := []
  proposedPlan := some ⟨[sampleStep]⟩
  decisionId := py "decision-" ++ sampleDigest
  relevantContextFingerprint := { kind := .relevantContext, digest := sampleDigest }
  decisionFingerprint := { kind := .decision, digest := sampleDigest }
  missingContext := []
  conflictedContext := []

/-- The step is eligible under the policy. -/
theorem sampleStep_eligible : StepEligible samplePolicy sampleStep := by
  refine ⟨⟨sampleRule, by simp [samplePolicy, samplePolicyContent], rfl, Or.inl rfl, ?_, ?_,
    by decide⟩, rfl⟩
  · intro id hid
    cases hid
  · intro id hid
    cases hid

/-- A returned value exists when there is one. -/
theorem exists_ok_of_isSome {ε α : Type} {x : Except ε α} (h : x.toOption.isSome = true) :
    ∃ a, x = .ok a := by
  cases x with
  | error e => cases h
  | ok a => exact ⟨a, rfl⟩

/-- The proposal without assumptions is accepted. -/
theorem sampleProposal_accepted : ∃ snapshot,
    snapshotProposal Platform.ascii true (sampleProposal []) = .ok snapshot :=
  exists_ok_of_isSome (by decide)

/-- The proposal without assumptions is accepted and eligible. -/
theorem sampleProposal_failClosed : ∃ d, evaluate samplePolicy (sampleProposal []) = .ok d ∧
    d.disposition = .eligibleForDownstream := by
  obtain ⟨snapshot, hsnapshot⟩ := sampleProposal_accepted
  refine (evaluate_failClosed samplePolicy (sampleProposal []) snapshot hsnapshot).1.mpr
    ⟨rfl, fun step hstep => ?_⟩
  have hsame : step = sampleStep := List.mem_singleton.mp hstep
  exact hsame ▸ sampleStep_eligible

end Sample
end Safety
end AyyoHumanoid
