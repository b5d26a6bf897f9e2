import AyyoHumanoid.JsonFields
import AyyoHumanoid.PlatformDigests
import AyyoHumanoid.SafetyMonotonicity

/-!
# Soundness of revalidation

A decision revalidates as current only when its fingerprints are those of the
proposal and of the policy in force. Without digest collisions the canonical
texts are then equal, and canonical text determines everything that evaluation
reads. The order in which a plan lists its steps is not part of that text, so
evaluation can still refuse a reordered proposal, but it never returns another
decision.
-/

namespace AyyoHumanoid
namespace Safety

open PyText JsonText PyCollections

section Documents

/-- A list of strings is determined by its text. -/
theorem textItems_determined : Determined Executive.textItems where
  dumpable := Determined.str.dumpable_list
  injective := fun _ _ h => Determined.str.list h

/-- Lists of strings are equal when their texts are. -/
theorem encode_textItems_inj {left right : List PyStr} :
    encode (Executive.textItems left) = encode (Executive.textItems right) ↔ left = right :=
  ⟨textItems_determined.injective left right, fun h => by rw [h]⟩

/-- An approval is determined by its document. -/
theorem ApprovalSnapshot.determined : Determined ApprovalSnapshot.document := by
  refine .record [py "approval_id", py "description"]
    (fun a => [.str a.approvalId, .str a.description]) (by decide) (fun _ => rfl) (fun _ => rfl)
    (by simp) ?_
  intro a b h
  cases a
  cases b
  simpa using h

/-- An assumption is determined by its document. -/
theorem AssumptionSnapshot.determined : Determined AssumptionSnapshot.document := by
  refine .record [py "assumption_id", py "description"]
    (fun a => [.str a.assumptionId, .str a.description]) (by decide) (fun _ => rfl) (fun _ => rfl)
    (by simp) ?_
  intro a b h
  cases a
  cases b
  simpa using h

/-- A constraint is determined by its document. -/
theorem ConstraintSnapshot.determined : Determined ConstraintSnapshot.document := by
  refine .record [py "constraint_id", py "description", py "parameters_canonical_json"]
    (fun c => [.str c.constraintId, .str c.description, .str c.canonicalParameters]) (by decide)
    (fun _ => rfl) (fun _ => rfl) (by simp) ?_
  intro a b h
  cases a
  cases b
  simpa using h

/-- A context requirement is determined by its document. -/
theorem ContextRequirementSnapshot.determined :
    Determined ContextRequirementSnapshot.document := by
  refine .record [py "domain", py "predicate"] (fun c => [.str c.domain, .str c.predicate])
    (by decide) (fun _ => rfl) (fun _ => rfl) (by simp) ?_
  intro a b h
  cases a
  cases b
  simpa using h

/-- A precondition is determined by its document. -/
theorem PreconditionSnapshot.determined : Determined PreconditionSnapshot.document := by
  refine .record [py "description", py "precondition_id"]
    (fun c => [.str c.description, .str c.preconditionId]) (by decide) (fun _ => rfl)
    (fun _ => rfl) (by simp) ?_
  intro a b h
  cases a
  cases b
  simp only [List.map_cons, List.map_nil, List.cons.injEq, encode_str_inj, and_true] at h
  simp [h.1, h.2]

/-- An expected result is determined by its text. -/
theorem expectedResult_injective :
    Function.Injective Executive.ExpectedResultCategory.value := by
  intro left right h
  cases left <;> cases right <;> first | rfl | exact absurd h (by decide)

/-- A failure policy is determined by its text. -/
theorem failurePolicy_injective : Function.Injective Executive.FailurePolicy.value := by
  intro left right h
  cases left <;> cases right <;> first | rfl | exact absurd h (by decide)

/-- A plan step is determined by its document. -/
theorem PlanStepSnapshot.determined : Determined PlanStepSnapshot.document := by
  refine .record [py "capability_id", py "constraints", py "dependencies", py "expected_result",
      py "failure_policy", py "parameters_canonical_json", py "preconditions",
      py "required_approvals", py "required_context", py "step_id"]
    (fun s => [.str s.capabilityId, .arr (s.constraints.map ConstraintSnapshot.document),
      Executive.textItems s.dependencies, .str s.expectedResult.value,
      .str s.failurePolicy.value, .str s.canonicalParameters,
      .arr (s.preconditions.map PreconditionSnapshot.document),
      .arr (s.requiredApprovals.map ApprovalSnapshot.document),
      .arr (s.requiredContext.map ContextRequirementSnapshot.document), .str s.stepId])
    (by decide) (fun _ => rfl) (fun _ => rfl) ?_ ?_
  · intro s
    simp only [List.forall_mem_cons, dumpable_str, ConstraintSnapshot.determined.dumpable_list,
      PreconditionSnapshot.determined.dumpable_list, ApprovalSnapshot.determined.dumpable_list,
      ContextRequirementSnapshot.determined.dumpable_list, textItems_determined.dumpable,
      List.not_mem_nil, false_implies, implies_true, and_true]
  · intro a b h
    cases a
    cases b
    simp only [List.map_cons, List.map_nil, List.cons.injEq, encode_str_inj,
      encode_textItems_inj, ConstraintSnapshot.determined.list_inj,
      PreconditionSnapshot.determined.list_inj, ApprovalSnapshot.determined.list_inj,
      ContextRequirementSnapshot.determined.list_inj, expectedResult_injective.eq_iff,
      failurePolicy_injective.eq_iff, and_true] at h
    obtain ⟨h1, h2, h3, h4, h5, h6, h7, h8, h9, h10⟩ := h
    simp only [PlanStepSnapshot.mk.injEq]
    exact ⟨h10, h1, h6, h3, h7, h9, h8, h2, h4, h5⟩

/-- A context reference is determined by its document. -/
theorem ContextReferenceSnapshot.determined : Determined ContextReferenceSnapshot.document := by
  refine .record [py "conflict_ids", py "domain", py "memory_ids", py "predicate", py "required",
      py "state", py "value_digests"]
    (fun c => [Executive.textItems c.conflictIds, .str c.requirement.domain,
      Executive.textItems c.memoryIds, .str c.requirement.predicate, .bool c.required,
      .str c.state, Executive.textItems c.valueDigests])
    (by decide) (fun _ => rfl) (fun _ => rfl) ?_ ?_
  · intro c
    simp only [List.forall_mem_cons, dumpable_str, dumpable_bool, textItems_determined.dumpable,
      List.not_mem_nil, false_implies, implies_true, and_true]
  · intro a b h
    obtain ⟨⟨_, _⟩, _, _, _, _, _⟩ := a
    obtain ⟨⟨_, _⟩, _, _, _, _, _⟩ := b
    simp only [List.map_cons, List.map_nil, List.cons.injEq, encode_str_inj, encode_bool_inj,
      encode_textItems_inj, and_true] at h
    obtain ⟨h1, h2, h3, h4, h5, h6, h7⟩ := h
    simp only [ContextReferenceSnapshot.mk.injEq, ContextRequirementSnapshot.mk.injEq]
    exact ⟨⟨h2, h4⟩, h5, h6, h7, h3, h1⟩

/-- A hazard class is determined by its text. -/
theorem hazardClass_injective : Function.Injective HazardClass.value := by
  intro left right h
  cases left <;> cases right <;> first | rfl | exact absurd h (by decide)

/-- A capability rule is determined by its document. -/
theorem CapabilityRuleContent.determined : Determined CapabilityRuleContent.document := by
  refine .record [py "capability_id", py "hazard_class", py "required_constraint_ids",
      py "required_precondition_ids", py "rule_id"]
    (fun r => [.str r.capabilityId, .str r.hazardClass.value,
      Executive.textItems r.requiredConstraintIds, Executive.textItems r.requiredPreconditionIds,
      .str r.ruleId])
    (by decide) (fun _ => rfl) (fun _ => rfl) ?_ ?_
  · intro r
    simp only [List.forall_mem_cons, dumpable_str, textItems_determined.dumpable,
      List.not_mem_nil, false_implies, implies_true, and_true]
  · intro a b h
    cases a
    cases b
    simp only [List.map_cons, List.map_nil, List.cons.injEq, encode_str_inj,
      encode_textItems_inj, hazardClass_injective.eq_iff, and_true] at h
    obtain ⟨h1, h2, h3, h4, -⟩ := h
    simp only [CapabilityRuleContent.mk.injEq]
    exact ⟨h1, h2, h4, h3⟩

/-- A hazard rule has a printable document. -/
theorem HazardRule.dumpable (rule : HazardRule) : rule.document.dumpable = true := by
  have happroval : ((rule.approvalClass.map fun approval => approval.value).elim .null
      Json.str).dumpable = true := by
    cases rule.approvalClass <;> rfl
  have hprerequisites : (Json.arr
      (rule.prerequisites.map SafetyPrerequisiteDefinition.document)).dumpable = true := by
    rw [dumpable_arr, List.forall_mem_map]
    intro d _
    refine dumpable_obj.mpr ⟨?_, by simp⟩
    simp only [List.map_cons, List.map_nil]
    decide
  refine dumpable_obj.mpr ⟨?_, ?_⟩
  · simp only [List.map_cons, List.map_nil]
    decide
  · simp only [List.forall_mem_cons, dumpable_str, happroval, hprerequisites, List.not_mem_nil,
      false_implies, implies_true, and_true]

variable {p : Platform}

/-- A policy has a printable document. -/
theorem policyDocument_dumpable (rules : List (CapabilitySafetyRule p))
    (hazards : List HazardRule) :
    (SafetyPolicyContent.document rules hazards).dumpable = true := by
  have hrules : (Json.arr (rules.map fun rule => rule.document)).dumpable = true := by
    rw [dumpable_arr, List.forall_mem_map]
    exact fun rule _ => CapabilityRuleContent.determined.dumpable rule.toCapabilityRuleContent
  have hhazards : (Json.arr (hazards.map HazardRule.document)).dumpable = true := by
    rw [dumpable_arr, List.forall_mem_map]
    exact fun rule _ => rule.dumpable
  refine dumpable_obj.mpr ⟨?_, ?_⟩
  · simp only [List.map_cons, List.map_nil]
    decide
  · simp only [List.forall_mem_cons, dumpable_str, hrules, hhazards, List.not_mem_nil,
      false_implies, implies_true, and_true]

/-- Capability rules are equal when their attributes are. -/
theorem CapabilitySafetyRule.content_injective :
    Function.Injective (CapabilitySafetyRule.toCapabilityRuleContent (p := p)) := by
  intro left right h
  cases left
  cases right
  simp only at h
  subst h
  rfl

/-- Policies with one canonical text are equal. -/
theorem policy_eq_of_document {first second : SafetyPolicy p}
    (h : encode (SafetyPolicyContent.document first.capabilityRules first.hazardRules) =
      encode (SafetyPolicyContent.document second.capabilityRules second.hazardRules)) :
    first = second := by
  have hrules := encode_field (policyDocument_dumpable _ _) (policyDocument_dumpable _ _) h _
    (List.mem_cons_self ..) (List.mem_cons_self ..)
  have hcontents : first.capabilityRules.map (·.toCapabilityRuleContent) =
      second.capabilityRules.map (·.toCapabilityRuleContent) := by
    refine CapabilityRuleContent.determined.list ?_
    rw [List.map_map, List.map_map]
    exact hrules
  have hsame : first.capabilityRules = second.capabilityRules :=
    List.map_injective_iff.mpr CapabilitySafetyRule.content_injective hcontents
  obtain ⟨hversion, hhazards, hfingerprint⟩ := first.fingerprint_eq
  obtain ⟨hversion', hhazards', hfingerprint'⟩ := second.fingerprint_eq
  rw [hsame, hhazards, ← hhazards', ← hfingerprint'] at hfingerprint
  rw [← hversion'] at hversion
  rw [← hhazards'] at hhazards
  obtain ⟨⟨_, _, _, _⟩, _⟩ := first
  obtain ⟨⟨_, _, _, _⟩, _⟩ := second
  simp only at hversion hsame hhazards hfingerprint
  subst hversion hsame hhazards hfingerprint
  rfl

end Documents

section Proposal

variable {p : Platform} {proposal proposal' : Executive.ExecutiveDecision}
  {parts parts' : ProposalParts}

/-- A proposal has a printable document. -/
theorem proposalDocument_dumpable (proposal : Executive.ExecutiveDecision)
    (parts : ProposalParts) : (proposalDocument proposal parts).dumpable = true := by
  refine dumpable_obj.mpr ⟨?_, ?_⟩
  · simp only [List.map_cons, List.map_nil]
    decide
  · simp only [List.forall_mem_cons, dumpable_str, AssumptionSnapshot.determined.dumpable_list,
      ContextReferenceSnapshot.determined.dumpable_list,
      PlanStepSnapshot.determined.dumpable_list, textItems_determined.dumpable,
      List.not_mem_nil, false_implies, implies_true, and_true]

/-- Two texts with the same start and digests of the same length have the same digest. -/
theorem digest_eq_of_text {first second : Executive.Fingerprint}
    (hkind : first.kind = second.kind) (halgorithm : first.algorithm = second.algorithm)
    (h : first.text = second.text) : first.digest = second.digest := by
  rw [Executive.Fingerprint.text, Executive.Fingerprint.text, hkind, halgorithm] at h
  exact List.append_cancel_left h

/-- Accepted proposals with one canonical text have the same snapshot. -/
theorem snapshotOf_eq_of_document {integrity integrity' : Bool}
    (haccepted : Accepted p integrity proposal parts)
    (haccepted' : Accepted p integrity' proposal' parts')
    (h : encode (proposalDocument proposal parts) = encode (proposalDocument proposal' parts')) :
    snapshotOf p proposal parts = snapshotOf p proposal' parts' := by
  have hvalues := encode_values (proposalDocument_dumpable proposal parts)
    (proposalDocument_dumpable proposal' parts') rfl h
  simp only [List.map_cons, List.map_nil, List.cons.injEq, encode_str_inj,
    AssumptionSnapshot.determined.list_inj, ContextReferenceSnapshot.determined.list_inj,
    PlanStepSnapshot.determined.list_inj, and_true] at hvalues
  obtain ⟨hassumptions, -, hreferences, hversion, -, howner, -, -, -, -, hfingerprint, hid, -,
    hrequest, hsteps⟩ := hvalues
  have hprovenance := validProvenance haccepted.provenance
  have hprovenance' := validProvenance haccepted'.provenance
  have hkind := hprovenance.decisionKind.trans hprovenance'.decisionKind.symm
  have halgorithm := hprovenance.decisionAlgorithm.trans hprovenance'.decisionAlgorithm.symm
  have hschema := hprovenance.decisionSchema.trans hprovenance'.decisionSchema.symm
  have hdigest := digest_eq_of_text hkind halgorithm hfingerprint
  have hsource : proposal.decisionFingerprint = proposal'.decisionFingerprint := by
    cases hfirst : proposal.decisionFingerprint
    cases hsecond : proposal'.decisionFingerprint
    rw [hfirst, hsecond] at hkind halgorithm hschema hdigest
    simp only [Executive.Fingerprint.mk.injEq]
    exact ⟨hkind, hdigest, halgorithm, hschema⟩
  simp only [snapshotOf, SafetyProposalSnapshot.mk.injEq]
  exact ⟨hid, hrequest, howner, hsource, hversion, hsteps, hreferences, hassumptions, by rw [h]⟩

/-- The error of a proposal that does not match its declared fingerprint. -/
def integrityError : SafetyError :=
  proposalError (py "proposal content does not match its Executive fingerprint")

/-- A proposal accepted without source integrity either has it or fails with its error. -/
theorem checkSourceIntegrity_cases (h : checkSourceIntegrity p false proposal = .ok ()) :
    checkSourceIntegrity p true proposal = .ok () ∨
      checkSourceIntegrity p true proposal = .error integrityError := by
  rw [checkSourceIntegrity, Checks.bind_ok] at h
  obtain ⟨rebuilt, hrebuilt, -⟩ := h
  rw [checkSourceIntegrity, hrebuilt, Checks.ok_bind]
  by_cases hmatch : rebuilt.decisionFingerprint ≠ proposal.decisionFingerprint ∨
      rebuilt.relevantContextFingerprint ≠ proposal.relevantContextFingerprint
  · exact Or.inr (Checks.require_error.mpr ⟨fun hnot => hnot ⟨rfl, hmatch⟩, rfl⟩)
  · exact Or.inl (Checks.require_ok.mpr fun hboth => hmatch hboth.2)

/-- A proposal accepted without source integrity is accepted with it when it has it. -/
theorem Accepted.withIntegrity (h : Accepted p false proposal parts)
    (hintegrity : checkSourceIntegrity p true proposal = .ok ()) :
    Accepted p true proposal parts :=
  ⟨h.valid, h.capabilities, h.agreement, h.provenance, hintegrity, h.within⟩

/-- A proposal accepted only without source integrity is refused with the error of that check. -/
theorem Accepted.refused (h : Accepted p false proposal parts)
    (hintegrity : checkSourceIntegrity p true proposal = .error integrityError) :
    snapshotProposal p true proposal = .error integrityError := by
  rw [snapshotProposal, h.valid, Checks.ok_bind, h.capabilities, Checks.ok_bind, h.agreement,
    Checks.ok_bind, h.provenance, Checks.ok_bind, hintegrity]
  rfl

end Proposal

section Revalidation

variable {p : Platform}

/-- The canonical texts that the fingerprints of a policy and of a proposal digest. -/
def DigestedText (policy : SafetyPolicy p) (proposal : Executive.ExecutiveDecision)
    (text : PyStr) : Prop :=
  text = encode (SafetyPolicyContent.document policy.capabilityRules policy.hazardRules) ∨
    ∃ parts, snapshotParts p proposal = .ok parts ∧
      text = encode (proposalDocument proposal parts)

/-- No two of the given texts share a digest. -/
def CollisionFree (p : Platform) (texts : PyStr → Prop) : Prop :=
  ∀ left right, texts left → texts right → p.sha256 left = p.sha256 right → left = right

variable {policy : SafetyPolicy p} {proposal : Executive.ExecutiveDecision} {d : SafetyDecision}
  {result : SafetyRevalidationResult}

/-- A current revalidation compares equal fingerprints. -/
theorem revalidate_current (h : revalidate policy d proposal = .ok result)
    (hcurrent : result.status = .current) :
    ∃ parts, Accepted p false proposal parts ∧
      d.proposalFingerprint = (snapshotOf p proposal parts).fingerprint ∧
      d.policyFingerprint = policy.fingerprint := by
  rw [revalidate, Checks.bind_ok] at h
  obtain ⟨snapshot, hsnapshot, h⟩ := h
  obtain ⟨parts, haccepted, rfl⟩ := snapshotProposal_ok.mp hsnapshot
  rw [Checks.unit_bind_ok, Checks.pure_ok] at h
  obtain ⟨-, rfl⟩ := h
  refine ⟨parts, haccepted, ?_⟩
  have hnone : changedFingerprints d.proposalFingerprint (snapshotOf p proposal parts).fingerprint
      d.policyFingerprint policy.fingerprint = [] := by
    by_contra hsome
    rw [if_neg hsome] at hcurrent
    cases hcurrent
  rw [changedFingerprints, List.append_eq_nil_iff] at hnone
  constructor
  · by_contra hne
    rw [if_pos hne] at hnone
    cases hnone.1
  · by_contra hne
    rw [if_pos hne] at hnone
    cases hnone.2

/-- A digest is an identifier. -/
theorem cleanIdentifier_digest {text : PyStr} (h : IsHexDigest text) :
    CleanIdentifier p 64 text := by
  refine cleanIdentifier_ascii ?_ h.1.le (by decide)
  have halnum : ∀ c ∈ text, isAsciiAlnum c = true := by
    intro c hc
    have hdigit := List.all_eq_true.mp h.2 c hc
    simp only [isHexDigit, Bool.or_eq_true, Bool.and_eq_true, decide_eq_true_eq] at hdigit
    simp only [isAsciiAlnum, Bool.or_eq_true, Bool.and_eq_true, decide_eq_true_eq]
    omega
  have hlength := h.1
  cases text with
  | nil => cases hlength
  | cons c text =>
    rw [isAsciiIdentifier, Bool.and_eq_true, List.all_eq_true]
    refine ⟨halnum c List.mem_cons_self, fun c' hc' => ?_⟩
    rw [halnum c' hc']
    rfl

/-- The identity of a decision is text. -/
theorem SafetyDecisionContent.init_decisionId {c : SafetyDecisionContent} (h : c.init p = .ok d) :
    CleanText d.decisionId := by
  rw [SafetyDecisionContent.init, Checks.unit_bind_ok] at h
  obtain ⟨-, h⟩ := h
  split at h
  · cases h
  · rw [Checks.require_bind_ok, Checks.require_bind_ok, Checks.require_bind_ok,
      Checks.require_bind_ok, Checks.bind_ok] at h
    obtain ⟨-, -, -, -, fingerprint, hfingerprint, h⟩ := h
    obtain ⟨-, rfl⟩ := fingerprintDocument_ok.mp hfingerprint
    rw [Checks.pure_ok] at h
    rw [← h]
    exact (CleanIdentifier.prefixed (by decide) (cleanIdentifier_digest (p := p) (p.sha256_hex _))
      (by decide)).toCleanText

/-- Revalidation is current when both fingerprints are the decision's. -/
theorem revalidate_unchanged {parts : ProposalParts} (hclean : CleanText d.decisionId)
    (haccepted : Accepted p false proposal parts)
    (hproposal : d.proposalFingerprint = (snapshotOf p proposal parts).fingerprint)
    (hpolicy : d.policyFingerprint = policy.fingerprint) :
    ∃ result, revalidate policy d proposal = .ok result ∧ result.status = .current := by
  have hkind : policy.fingerprint.kind = .policy := by
    rw [policy.fingerprint_eq.2.2]
  have hnone : ∀ a b : SafetyFingerprint, changedFingerprints a a b b = [] := by
    intro a b
    rw [changedFingerprints, if_neg (not_not.mpr rfl), if_neg (not_not.mpr rfl)]
    rfl
  rw [revalidate, snapshotProposal_ok.mpr ⟨parts, haccepted, rfl⟩, Checks.ok_bind, hproposal,
    hpolicy, hnone]
  refine ⟨_, Checks.unit_bind_ok.mpr ⟨?_, rfl⟩, rfl⟩
  simp only [SafetyRevalidationResult.postInit, Checks.unit_bind_ok, Checks.require_ok,
    validateText_ok, hnone]
  exact ⟨hclean, rfl, rfl, rfl, hkind, hkind, fun _ _ => trivial, by simp⟩

/-- A decision that revalidates as current is the one that evaluation of the proposal under the
policy in force returns, unless evaluation refuses the proposal because its content does not
match its declared fingerprint. -/
theorem revalidate_sound (policy₀ policy : SafetyPolicy p)
    (proposal₀ proposal : Executive.ExecutiveDecision) (d : SafetyDecision)
    (result : SafetyRevalidationResult)
    (hcollision : CollisionFree p fun text =>
      DigestedText policy₀ proposal₀ text ∨ DigestedText policy proposal text)
    (hd : evaluate policy₀ proposal₀ = .ok d)
    (hresult : revalidate policy d proposal = .ok result) (hcurrent : result.status = .current) :
    evaluate policy proposal = .ok d ∨
      (checkSourceIntegrity p true proposal = .error integrityError ∧
        evaluate policy proposal = .error integrityError) := by
  obtain ⟨parts, haccepted, hproposal, hpolicy⟩ := revalidate_current hresult hcurrent
  obtain ⟨parts₀, stepDecisions, haccepted₀, hsteps, hinit⟩ := evaluate_ok.mp hd
  have hcontent := (SafetyDecisionContent.init_ok hinit).1
  have hproposal₀ : d.proposalFingerprint = (snapshotOf p proposal₀ parts₀).fingerprint :=
    congrArg SafetyDecisionContent.proposalFingerprint hcontent
  have hpolicy₀ : d.policyFingerprint = policy₀.fingerprint :=
    congrArg SafetyDecisionContent.policyFingerprint hcontent
  have hpolicyText : encode (SafetyPolicyContent.document policy₀.capabilityRules
      policy₀.hazardRules) = encode (SafetyPolicyContent.document policy.capabilityRules
      policy.hazardRules) := by
    refine hcollision _ _ (Or.inl (Or.inl rfl)) (Or.inr (Or.inl rfl)) ?_
    have hfingerprint := hpolicy₀.symm.trans hpolicy
    rw [policy₀.fingerprint_eq.2.2, policy.fingerprint_eq.2.2] at hfingerprint
    exact congrArg SafetyFingerprint.digest hfingerprint
  have hproposalText : encode (proposalDocument proposal₀ parts₀) =
      encode (proposalDocument proposal parts) := by
    refine hcollision _ _ (Or.inl (Or.inr ⟨parts₀, haccepted₀.valid, rfl⟩))
      (Or.inr (Or.inr ⟨parts, haccepted.valid, rfl⟩)) ?_
    exact congrArg SafetyFingerprint.digest (hproposal₀.symm.trans hproposal)
  have hsamePolicy : policy₀ = policy := policy_eq_of_document hpolicyText
  have hsameSnapshot := snapshotOf_eq_of_document haccepted₀ haccepted hproposalText
  rcases checkSourceIntegrity_cases haccepted.integrity with hintegrity | hrefused
  · refine Or.inl (evaluate_ok.mpr ⟨parts, stepDecisions, haccepted.withIntegrity hintegrity, ?_, ?_⟩)
    · rw [← hsamePolicy, ← hsameSnapshot]
      exact hsteps
    · rw [← hsamePolicy, ← hsameSnapshot]
      exact hinit
  · refine Or.inr ⟨hrefused, ?_⟩
    rw [evaluate, haccepted.refused hrefused]
    rfl

end Revalidation

section Sample

/-- The number of characters before the first `Z`, as a digest that depends on their order. -/
def checksum (text : PyStr) : Nat := text.idxOf 90

/-- A checksum is written as a digest. -/
theorem checksum_hex (text : PyStr) : IsHexDigest (UUID.hexDigits 64 (checksum text)) :=
  ⟨UUID.hexDigits_length 64 _, hexDigits_all 64 _⟩

/-- A runtime with ASCII characters and checksums for digests. -/
def Platform.checked : Platform where
  isAlnum := isAsciiAlnum
  alnum_ascii := fun _ h => h
  sha256 := fun text => UUID.hexDigits 64 (checksum text)
  sha256_hex := checksum_hex

/-- A digest under checksums. -/
theorem Platform.sha256_checked (text : PyStr) :
    Platform.checked.sha256 text = UUID.hexDigits 64 (checksum text) :=
  rfl

/-- The constructor accepts the content of the rule under checksums. -/
theorem checkedRule_built : ∃ arguments : CapabilityRuleContent,
    arguments.init Platform.checked = .ok sampleRuleContent :=
  ⟨sampleRuleContent, by decide⟩

/-- The capability rule under checksums. -/
def checkedRule : CapabilitySafetyRule Platform.checked := ⟨sampleRuleContent, checkedRule_built⟩

/-- The canonical text of a policy with the given rules. -/
def policyText {p : Platform} (rules : List (CapabilitySafetyRule p)) : PyStr :=
  encode (SafetyPolicyContent.document (sortBy (fun rule => rule.capabilityId) rules)
    (sortBy (fun rule => rule.hazardClass.value) v1HazardRules))

/-- The content of a policy with the given rules. -/
def policyContent {p : Platform} (rules : List (CapabilitySafetyRule p)) :
    SafetyPolicyContent p where
  version := safetyPolicyVersion
  capabilityRules := sortBy (fun rule => rule.capabilityId) rules
  hazardRules := sortBy (fun rule => rule.hazardClass.value) v1HazardRules
  fingerprint := { kind := .policy, digest := p.sha256 (policyText rules) }

/-- The constructor accepts one rule with a small document. -/
theorem policyContent_built {p : Platform} {rule : CapabilitySafetyRule p}
    (hwithin : Within fingerprintLimits (SafetyPolicyContent.document [rule]
      (sortBy (fun rule => rule.hazardClass.value) v1HazardRules))) :
    ∃ rules, SafetyPolicyContent.init rules = .ok (policyContent [rule]) := by
  have hone : [rule].length ≤ maxSafetyCapabilities := by
    rw [List.length_singleton]
    decide
  refine ⟨[rule], ?_⟩
  rw [SafetyPolicyContent.init, Checks.require_bind_ok, Checks.require_bind_ok,
    Checks.require_bind_ok, Checks.bind_ok]
  exact ⟨hone, List.nodup_singleton _, by decide, _,
    fingerprintDocument_ok.mpr ⟨hwithin, rfl⟩, rfl⟩

/-- The document of the policy says nothing of digests. -/
theorem checkedRule_document (hazardRules : List HazardRule) :
    SafetyPolicyContent.document [checkedRule] hazardRules =
      SafetyPolicyContent.document [sampleRule] hazardRules := by
  rw [SafetyPolicyContent.document, SafetyPolicyContent.document, List.map_singleton,
    List.map_singleton]
  rfl

/-- The constructor accepts the content of the policy under checksums. -/
theorem checkedPolicy_built :
    ∃ rules, SafetyPolicyContent.init rules = .ok (policyContent [checkedRule]) := by
  refine policyContent_built ?_
  rw [checkedRule_document]
  exact samplePolicy_within

/-- The policy under checksums. -/
def checkedPolicy : SafetyPolicy Platform.checked := ⟨policyContent [checkedRule], checkedPolicy_built⟩

/-- A second step that reads information. -/
def secondStep : Executive.PlanStep := { sampleStep with stepId := py "read-Z" }

/-- The checksum of a decision with both steps. -/
def checkedDigest : PyStr :=
  py "0000000000000000000000000000000000000000000000000000000000000315"

/-- A proposal with the given steps and the fingerprints that the Executive constructor gives
it for the two steps in order. -/
def checkedProposal (steps : List Executive.PlanStep) : Executive.ExecutiveDecision :=
  { sampleProposal [] with
    proposedPlan := some ⟨steps⟩
    decisionId := py "decision-" ++ checkedDigest
    relevantContextFingerprint := {
      kind := .relevantContext
      digest := py "000000000000000000000000000000000000000000000000000000000000003f" }
    decisionFingerprint := { kind := .decision, digest := checkedDigest } }

/-- The proposal as the Executive made it. -/
def orderedProposal : Executive.ExecutiveDecision := checkedProposal [sampleStep, secondStep]

/-- The same proposal with its steps listed the other way round. -/
def reorderedProposal : Executive.ExecutiveDecision := checkedProposal [secondStep, sampleStep]

/-- The canonical text of a proposal. -/
def proposalText (p : Platform) (proposal : Executive.ExecutiveDecision) : Option PyStr :=
  (snapshotParts p proposal).toOption.map fun parts => encode (proposalDocument proposal parts)

/-- The canonical text of a proposal is the text of its parts. -/
theorem proposalText_of_parts {p : Platform} {proposal : Executive.ExecutiveDecision}
    {parts : ProposalParts} (h : snapshotParts p proposal = .ok parts) :
    proposalText p proposal = some (encode (proposalDocument proposal parts)) := by
  rw [proposalText, h]
  rfl

set_option maxRecDepth 20000 in
/-- Both orders of the steps have the same parts. -/
theorem reordered_parts : snapshotParts Platform.checked reorderedProposal =
    snapshotParts Platform.checked orderedProposal := by
  decide

set_option maxRecDepth 20000 in
/-- The order that the Executive made is accepted. -/
theorem ordered_accepted : ∃ parts, Accepted Platform.checked true orderedProposal parts := by
  obtain ⟨snapshot, hsnapshot⟩ := exists_ok_of_isSome
    (x := snapshotProposal Platform.checked true orderedProposal) (by decide)
  obtain ⟨parts, haccepted, -⟩ := snapshotProposal_ok.mp hsnapshot
  exact ⟨parts, haccepted⟩

set_option maxRecDepth 20000 in
/-- The other order is rebuilt with another fingerprint. -/
theorem reordered_rebuilt : ∃ rebuilt ∈
    (reorderedProposal.toDecisionContent.init Platform.checked).toOption,
      rebuilt.decisionFingerprint ≠ reorderedProposal.decisionFingerprint := by
  decide

set_option maxRecDepth 20000 in
/-- The canonical text of the proposal has its first `Z` there. -/
theorem ordered_checksum :
    (proposalText Platform.checked orderedProposal).map checksum = some 1199 := by
  decide

set_option maxRecDepth 20000 in
/-- The canonical text of the policy has no `Z`. -/
theorem policyText_checksum : checksum (policyText [checkedRule]) = 2345 := by
  decide

/-- The other order does not match its declared fingerprint, and is accepted when that is not
checked. -/
theorem reordered_integrity :
    checkSourceIntegrity Platform.checked true reorderedProposal = .error integrityError ∧
      checkSourceIntegrity Platform.checked false reorderedProposal = .ok () := by
  obtain ⟨rebuilt, hrebuilt, hdiffers⟩ := reordered_rebuilt
  have hinit : inspected (reorderedProposal.toDecisionContent.init Platform.checked) =
      .ok rebuilt := by
    rw [inspected_ok]
    cases hresult : reorderedProposal.toDecisionContent.init Platform.checked with
    | error e =>
      rw [hresult] at hrebuilt
      cases hrebuilt
    | ok content =>
      rw [hresult] at hrebuilt
      exact congrArg Except.ok (Option.some.inj hrebuilt)
  constructor
  · rw [checkSourceIntegrity, hinit, Checks.ok_bind]
    exact Checks.require_error.mpr ⟨fun hnot => hnot ⟨rfl, Or.inl hdiffers⟩, rfl⟩
  · rw [checkSourceIntegrity, hinit, Checks.ok_bind]
    exact Checks.require_ok.mpr fun hboth => by cases hboth.1

/-- Without the integrity check both orders are accepted with the same parts. -/
theorem Accepted.reordered {parts : ProposalParts}
    (h : Accepted Platform.checked true orderedProposal parts) :
    Accepted Platform.checked false reorderedProposal parts where
  valid := reordered_parts.trans h.valid
  capabilities := h.capabilities
  agreement := h.agreement
  provenance := h.provenance
  integrity := reordered_integrity.2
  within := h.within

/-- No two of the texts of the policy and of both proposals share a checksum. -/
theorem checked_collisionFree : CollisionFree Platform.checked fun text =>
    DigestedText checkedPolicy orderedProposal text ∨
      DigestedText checkedPolicy reorderedProposal text := by
  have htext : ∀ text, (DigestedText checkedPolicy orderedProposal text ∨
      DigestedText checkedPolicy reorderedProposal text) →
        text = policyText [checkedRule] ∨
          proposalText Platform.checked orderedProposal = some text := by
    rintro text ((rfl | ⟨parts, hparts, rfl⟩) | (rfl | ⟨parts, hparts, rfl⟩))
    · exact Or.inl rfl
    · exact Or.inr (proposalText_of_parts hparts)
    · exact Or.inl rfl
    · exact Or.inr (proposalText_of_parts (reordered_parts.symm.trans hparts))
  have hchecked : ∀ text, proposalText Platform.checked orderedProposal = some text →
      Platform.checked.sha256 text ≠ Platform.checked.sha256 (policyText [checkedRule]) := by
    intro text hproposal hdigest
    have hchecksum := ordered_checksum
    rw [hproposal, Option.map_some, Option.some.injEq] at hchecksum
    rw [Platform.sha256_checked, Platform.sha256_checked, hchecksum, policyText_checksum] at hdigest
    have hsame : 1199 = 2345 := UUID.hexDigits_injective (by decide) (by decide) hdigest
    omega
  intro left right hleft hright hdigest
  rcases htext left hleft with rfl | hleft <;> rcases htext right hright with rfl | hright
  · rfl
  · exact absurd hdigest.symm (hchecked right hright)
  · exact absurd hdigest (hchecked left hleft)
  · exact Option.some.inj (hleft.symm.trans hright)

/-- The decision on the ordered proposal is current for the reordered one. -/
theorem reordered_current : ∃ d result, evaluate checkedPolicy orderedProposal = .ok d ∧
    revalidate checkedPolicy d reorderedProposal = .ok result ∧ result.status = .current := by
  obtain ⟨parts, haccepted⟩ := ordered_accepted
  have hsteps : ∀ step ∈ planSteps orderedProposal, StepEligible checkedPolicy step := by
    intro step hstep
    have hcases : step = sampleStep ∨ step = secondStep := by
      simpa [planSteps, orderedProposal, checkedProposal] using hstep
    rcases hcases with rfl | rfl <;>
      exact ⟨⟨checkedRule, List.mem_singleton.mpr rfl, rfl, Or.inl rfl,
        fun _ hid => absurd hid List.not_mem_nil, fun _ hid => absurd hid List.not_mem_nil,
        by decide⟩, rfl⟩
  obtain ⟨d, hd, -⟩ := (evaluate_failClosed checkedPolicy orderedProposal _
    (snapshotProposal_ok.mpr ⟨parts, haccepted, rfl⟩)).1.mpr ⟨rfl, hsteps⟩
  obtain ⟨parts', stepDecisions, haccepted', -, hinit⟩ := evaluate_ok.mp hd
  have hcontent := (SafetyDecisionContent.init_ok hinit).1
  obtain ⟨result, hresult, hcurrent⟩ := revalidate_unchanged
    (SafetyDecisionContent.init_decisionId hinit) haccepted'.reordered
    (congrArg SafetyDecisionContent.proposalFingerprint hcontent)
    (congrArg SafetyDecisionContent.policyFingerprint hcontent)
  exact ⟨d, result, hd, hresult, hcurrent⟩

/-- The decision on the ordered proposal revalidates as current for the reordered one, and
evaluation refuses the reordered one. -/
theorem reorderedProposal_sound : ∃ d, evaluate checkedPolicy orderedProposal = .ok d ∧
    (evaluate checkedPolicy reorderedProposal = .ok d ∨
      (checkSourceIntegrity Platform.checked true reorderedProposal = .error integrityError ∧
        evaluate checkedPolicy reorderedProposal = .error integrityError)) := by
  obtain ⟨d, result, hd, hresult, hcurrent⟩ := reordered_current
  exact ⟨d, hd, revalidate_sound checkedPolicy checkedPolicy orderedProposal reorderedProposal d
    result checked_collisionFree hd hresult hcurrent⟩

/-- A decision that revalidates as current on a proposal that evaluation refuses: its steps were
listed the other way round after construction. -/
theorem not_forall_revalidate_evaluate : ¬ ∀ (p : Platform) (policy₀ policy : SafetyPolicy p)
    (proposal₀ proposal : Executive.ExecutiveDecision) (d : SafetyDecision)
    (result : SafetyRevalidationResult),
    (CollisionFree p fun text =>
      DigestedText policy₀ proposal₀ text ∨ DigestedText policy proposal text) →
    evaluate policy₀ proposal₀ = .ok d → revalidate policy d proposal = .ok result →
    result.status = .current → evaluate policy proposal = .ok d := by
  intro hsound
  obtain ⟨d, result, hd, hresult, hcurrent⟩ := reordered_current
  have hsame := hsound Platform.checked checkedPolicy checkedPolicy orderedProposal
    reorderedProposal d result checked_collisionFree hd hresult hcurrent
  have hrefused := reordered_integrity.1
  obtain ⟨parts, -, haccepted, -⟩ := evaluate_ok.mp hsame
  rw [haccepted.integrity] at hrefused
  cases hrefused

end Sample
end Safety
end AyyoHumanoid
