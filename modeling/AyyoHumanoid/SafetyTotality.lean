import AyyoHumanoid.JsonSizes
import AyyoHumanoid.SafetyBudget
import Mathlib.Tactic.Linarith

/-!
# Totality of evaluation

A safety decision repeats the requirements of its steps once for each step and
once for the whole plan. What the steps declare is limited by the document of
the Executive decision, what the policy adds by the number of steps, and both
together stay below the limits on the document of the safety decision. So every
accepted proposal is decided.
-/

namespace AyyoHumanoid
namespace Safety

open PyText JsonText PyCollections

section Requirements

/-- The keys of an approval document. -/
def approvalKeys : List PyStr :=
  [py "affected_step_id", py "approval_class", py "description", py "requirement_id", py "source"]

/-- The keys of a prerequisite document. -/
def prerequisiteKeys : List PyStr :=
  [py "affected_step_id", py "description", py "kind", py "prerequisite_id"]

/-- The keys of a step decision document. -/
def stepKeys : List PyStr :=
  [py "capability_id", py "disposition", py "hazard_class", py "reason_codes",
    py "required_approvals", py "step_id", py "triggering_policy_rules",
    py "unresolved_prerequisites"]

/-- The keys of a decision document. -/
def decisionKeys : List PyStr :=
  [py "disposition", py "owner_subject", py "policy_fingerprint", py "policy_version",
    py "proposal_fingerprint", py "reason_codes", py "required_approvals", py "schema",
    py "source_decision_fingerprint", py "source_decision_id", py "source_request_id",
    py "step_decisions", py "unresolved_prerequisites"]

/-- The characters of the keys. -/
theorem keys_length : (approvalKeys.map List.length).sum = 61 ∧
    (prerequisiteKeys.map List.length).sum = 46 ∧ (stepKeys.map List.length).sum = 120 ∧
      (decisionKeys.map List.length).sum = 212 := by
  decide

/-- The characters of the fixed texts. -/
theorem values_length : (∀ kind : SafetyPrerequisiteKind, kind.value.length ≤ 25) ∧
    (∀ approvalClass : ApprovalClass, approvalClass.value.length ≤ 23) ∧
    (∀ disposition : SafetyDisposition, disposition.value.length ≤ 26) ∧
    ApprovalClass.executiveDeclared.value.length = 18 ∧ ApprovalSource.executive.value.length = 9 ∧
    ApprovalSource.safetyPolicy.value.length = 13 ∧
    SafetyPrerequisiteKind.assumptionVerification.value.length = 23 ∧
    SafetyPrerequisiteKind.requiredPrecondition.value.length = 21 ∧
    SafetyPrerequisiteKind.requiredConstraint.value.length = 19 := by
  refine ⟨?_, ?_, ?_, by decide⟩
  · intro kind
    cases kind <;> decide
  · intro approvalClass
    cases approvalClass <;> decide
  · intro disposition
    cases disposition <;> decide

/-- An approval document has six values. -/
theorem nodes_approval (a : SafetyApprovalRequirement) : a.document.nodes = 6 := by
  simp [SafetyApprovalRequirement.document]

/-- A prerequisite document has five values. -/
theorem nodes_prerequisite (u : UnresolvedSafetyPrerequisite) : u.document.nodes = 5 := by
  simp [UnresolvedSafetyPrerequisite.document]

/-- The characters of an approval document. -/
theorem characters_approval (a : SafetyApprovalRequirement) : a.document.characters =
    61 + (a.affectedStepId.length + a.approvalClass.value.length + a.description.length +
      a.requirementId.length + a.source.value.length) := by
  rw [SafetyApprovalRequirement.document, Json.characters_of_keys approvalKeys rfl, keys_length.1]
  simp only [Json.characters_str, List.map_cons, List.map_nil, List.sum_cons, List.sum_nil]
  omega

/-- The characters of a prerequisite document. -/
theorem characters_prerequisite (u : UnresolvedSafetyPrerequisite) : u.document.characters =
    46 + (u.affectedStepId.length + u.description.length + u.kind.value.length +
      u.prerequisiteId.length) := by
  rw [UnresolvedSafetyPrerequisite.document, Json.characters_of_keys prerequisiteKeys rfl,
    keys_length.2.1]
  simp only [Json.characters_str, List.map_cons, List.map_nil, List.sum_cons, List.sum_nil]
  omega

variable {p : Platform}

/-- The document of a clean approval requirement is flat and may be written. -/
theorem SafetyApprovalRequirement.Clean.document {a : SafetyApprovalRequirement} (h : a.Clean p)
    {depth : Nat} (hdepth : depth + 1 ≤ 256) :
    a.document.FitsDepth 256 depth ∧ a.document.AllValid := by
  have hclass : utf8Encodable a.approvalClass.value = true := by
    cases a.approvalClass <;> exact utf8Encodable_py _
  have hsource : utf8Encodable a.source.value = true := by
    cases a.source <;> exact utf8Encodable_py _
  have hless : depth ≤ 256 := by omega
  constructor
  · simp [SafetyApprovalRequirement.document, hdepth, hless]
  · simp [SafetyApprovalRequirement.document, hclass, hsource, h.1.encodable, h.2.1.encodable,
      h.2.2.encodable]

/-- The document of a clean prerequisite is flat and may be written. -/
theorem UnresolvedSafetyPrerequisite.Clean.document {u : UnresolvedSafetyPrerequisite}
    (h : u.Clean p) {depth : Nat} (hdepth : depth + 1 ≤ 256) :
    u.document.FitsDepth 256 depth ∧ u.document.AllValid := by
  have hkind : utf8Encodable u.kind.value = true := by
    cases u.kind <;> exact utf8Encodable_py _
  have hless : depth ≤ 256 := by omega
  constructor
  · simp [UnresolvedSafetyPrerequisite.document, hdepth, hless]
  · simp [UnresolvedSafetyPrerequisite.document, hkind, h.1.encodable, h.2.1.encodable,
      h.2.2.encodable]

end Requirements

section Steps

variable {p : Platform} {s : PlanStepSnapshot} {rule : HazardRule}
  {assumptions : List AssumptionSnapshot} {capabilityRule : Option (CapabilitySafetyRule p)}

/-- The approvals of a step are small, apart from what the step declares. -/
theorem stepApprovals_size (hs : ValidStep p s) :
    ((stepApprovals s rule).map fun a => a.document.nodes).sum ≤
        6 + 6 * s.requiredApprovals.length ∧
      ((stepApprovals s rule).map fun a => a.document.characters).sum ≤
        493 + (344 * s.requiredApprovals.length + declaredTexts s) := by
  obtain ⟨-, hclasses, -, hdeclaredClass, hexecutive, hpolicySource, -⟩ := values_length
  have hstep : s.stepId.length ≤ 256 := hs.stepId.short
  have hcount : (policyItems s rule).length ≤ 1 := by
    rw [policyItems, List.length_map]
    cases rule.approvalClass <;> simp
  have hpolicy : ((policyItems s rule).map fun a => a.document.characters).sum ≤
      (policyItems s rule).length * 493 := by
    refine Json.sum_map_le fun a ha => ?_
    obtain ⟨-, hsource, haffected, hid, htext⟩ := policyItems_clean hs ha
    have hclass := hclasses a.approvalClass
    rw [characters_approval, hsource, haffected, hpolicySource]
    omega
  have hdeclared : ((declaredItems s).map fun a => a.document.characters).sum ≤
      344 * s.requiredApprovals.length + declaredTexts s := by
    rw [declaredItems, List.map_map]
    refine Json.sum_map_le_add fun approval _ => ?_
    rw [Function.comp_apply, characters_approval, hdeclaredClass, hexecutive]
    dsimp only
    omega
  have hnodes : ((stepApprovals s rule).map fun a => a.document.nodes).sum ≤
      (stepApprovals s rule).length * 6 :=
    Json.sum_map_le fun a _ => (nodes_approval a).le
  have hlength : (declaredItems s).length = s.requiredApprovals.length := by
    rw [declaredItems, List.length_map]
  constructor
  · rw [stepApprovals, List.length_append, hlength] at hnodes
    rw [stepApprovals]
    omega
  · rw [stepApprovals, List.map_append, List.sum_append]
    omega

/-- The prerequisites of a step are small, apart from the assumptions. -/
theorem stepPrerequisites_size (hs : ValidStep p s) (hrule : rule ∈ v1HazardRules) :
    ((stepPrerequisites s capabilityRule rule assumptions).map fun u => u.document.nodes).sum ≤
        1285 + 5 * assumptions.length ∧
      ((stepPrerequisites s capabilityRule rule assumptions).map
          fun u => u.document.characters).sum ≤
        166129 + (325 * assumptions.length + unverifiedTexts assumptions) := by
  obtain ⟨hkinds, -, -, -, -, -, hverification, hprecondition, hconstraint⟩ := values_length
  have hstep : s.stepId.length ≤ 256 := hs.stepId.short
  have hmissingCount := @length_ruleItems p s capabilityRule
  have hhazardCount := (v1_prerequisites rule hrule).1
  have hmissing : ((ruleItems s capabilityRule).map fun u => u.document.characters).sum ≤
      (ruleItems s capabilityRule).length * 647 := by
    refine Json.sum_map_le fun u hu => ?_
    obtain ⟨hclean, hkind, haffected, htext⟩ := ruleItems_clean hs hu
    have hid : u.prerequisiteId.length ≤ 256 := hclean.1.short
    have hkindLength : u.kind.value.length ≤ 21 := by
      rcases hkind with h | h
      · rw [h, hprecondition]
      · rw [h, hconstraint]
        omega
    rw [characters_prerequisite, haffected]
    omega
  have hhazards : ((hazardItems s rule).map fun u => u.document.characters).sum ≤
      (hazardItems s rule).length * 497 := by
    refine Json.sum_map_le fun u hu => ?_
    obtain ⟨-, -, haffected, hid, htext⟩ := hazardItems_clean hs hrule hu
    have hkind := hkinds u.kind
    rw [characters_prerequisite, haffected]
    omega
  have hunverified : ((assumptionItems s assumptions).map fun u => u.document.characters).sum ≤
      325 * assumptions.length + unverifiedTexts assumptions := by
    rw [assumptionItems, List.map_map]
    refine Json.sum_map_le_add fun assumption _ => ?_
    rw [Function.comp_apply, characters_prerequisite, hverification]
    dsimp only
    omega
  have hnodes : ((stepPrerequisites s capabilityRule rule assumptions).map
      fun u => u.document.nodes).sum ≤
        (stepPrerequisites s capabilityRule rule assumptions).length * 5 :=
    Json.sum_map_le fun u _ => (nodes_prerequisite u).le
  have hlengths : (hazardItems s rule).length = rule.prerequisites.length ∧
      (assumptionItems s assumptions).length = assumptions.length := by
    rw [hazardItems, assumptionItems, List.length_map, List.length_map]
    exact ⟨rfl, rfl⟩
  constructor
  · rw [stepPrerequisites, List.length_append, List.length_append, hlengths.1, hlengths.2]
      at hnodes
    rw [stepPrerequisites]
    omega
  · rw [stepPrerequisites, List.map_append, List.map_append, List.sum_append, List.sum_append]
    omega

/-- A decided step, with the sizes of its requirements and of its document. -/
structure SizedStep (p : Platform) (s : PlanStepSnapshot) (assumptions : List AssumptionSnapshot)
    (d : SafetyStepDecision) : Prop where
  /-- The decision is about the step. -/
  stepId : d.stepId = s.stepId
  /-- There are few approvals. -/
  approvals_length : d.requiredApprovals.length ≤ 129
  /-- There are few prerequisites. -/
  prerequisites_length : d.unresolvedPrerequisites.length ≤ 257 + assumptions.length
  approvals_clean : ∀ a ∈ d.requiredApprovals, a.Clean p
  prerequisites_clean : ∀ u ∈ d.unresolvedPrerequisites, u.Clean p
  /-- The values of the approvals. -/
  approvals_nodes : (d.requiredApprovals.map fun a => a.document.nodes).sum ≤
    6 + 6 * s.requiredApprovals.length
  approvals_characters : (d.requiredApprovals.map fun a => a.document.characters).sum ≤
    493 + (344 * s.requiredApprovals.length + declaredTexts s)
  /-- The values of the prerequisites. -/
  prerequisites_nodes : (d.unresolvedPrerequisites.map fun u => u.document.nodes).sum ≤
    1285 + 5 * assumptions.length
  prerequisites_characters : (d.unresolvedPrerequisites.map fun u => u.document.characters).sum ≤
    166129 + (325 * assumptions.length + unverifiedTexts assumptions)
  /-- The values of the document. -/
  nodes : d.document.nodes ≤ 16 + ((d.requiredApprovals.map fun a => a.document.nodes).sum +
    (d.unresolvedPrerequisites.map fun u => u.document.nodes).sum)
  characters : d.document.characters ≤ 1500 +
    ((d.requiredApprovals.map fun a => a.document.characters).sum +
      (d.unresolvedPrerequisites.map fun u => u.document.characters).sum)
  /-- The document is flat. -/
  depth : d.document.FitsDepth 256 2
  /-- The document may be written. -/
  valid : d.document.AllValid

/-- The decision on a valid step is sized. -/
theorem stepDecision_sized (hs : ValidStep p s) (hrule : rule ∈ v1HazardRules)
    (hassumptions : ValidAssumptions p assumptions) :
    SizedStep p s assumptions (stepDecision s capabilityRule rule assumptions) := by
  have happrovals := sortBy_perm SafetyApprovalRequirement.key (stepApprovals s rule)
  have hprerequisites := sortBy_perm UnresolvedSafetyPrerequisite.key
    (stepPrerequisites s capabilityRule rule assumptions)
  obtain ⟨hanodes, hacharacters⟩ := @stepApprovals_size p s rule hs
  obtain ⟨hunodes, hucharacters⟩ := @stepPrerequisites_size p s rule assumptions capabilityRule
    hs hrule
  have haclean : ∀ a ∈ (stepDecision s capabilityRule rule assumptions).requiredApprovals,
      a.Clean p := fun a ha => (stepApprovals_clean hs (mem_sortBy.mp ha)).1
  have huclean : ∀ u ∈ (stepDecision s capabilityRule rule assumptions).unresolvedPrerequisites,
      u.Clean p := fun u hu =>
    (stepPrerequisites_clean hs hrule hassumptions (mem_sortBy.mp hu)).1
  have hrules : ∀ id ∈ sortedSet (stepRules rule capabilityRule),
      CleanIdentifier p SafetyStepDecision.maxRuleIdLength id :=
    fun id hid => stepRules_clean hrule (mem_sortedSet.mp hid)
  have hrulesLength := @length_stepRules p rule capabilityRule
  have hreasonsLength := @length_stepReasons rule (ruleItems s capabilityRule)
    (assumptionItems s assumptions) (conflicts s rule) (declaredItems s)
  exact {
    stepId := rfl
    approvals_length := by
      rw [stepDecision, length_sortBy]
      exact length_stepApprovals hs
    prerequisites_length := by
      rw [stepDecision, length_sortBy]
      exact length_stepPrerequisites hrule
    approvals_clean := haclean
    prerequisites_clean := huclean
    approvals_nodes := ((happrovals.map _).sum_eq).trans_le hanodes
    approvals_characters := ((happrovals.map _).sum_eq).trans_le hacharacters
    prerequisites_nodes := ((hprerequisites.map _).sum_eq).trans_le hunodes
    prerequisites_characters := ((hprerequisites.map _).sum_eq).trans_le hucharacters
    nodes := by
      simp only [SafetyStepDecision.document, Json.nodes_obj, Json.nodes_arr, Json.nodes_str,
        Executive.nodes_textItems, List.map_cons, List.map_nil, List.sum_cons, List.sum_nil,
        List.map_map, Function.comp_def, List.length_map]
      have hreasons : (stepDecision s capabilityRule rule assumptions).reasonCodes.length ≤ 5 :=
        hreasonsLength
      have hnames : (stepDecision s capabilityRule rule
        assumptions).triggeringPolicyRules.length ≤ 2 := hrulesLength
      omega
    characters := by
      have hlimit : SafetyStepDecision.maxRuleIdLength = 267 := by decide
      have hnames : ((stepDecision s capabilityRule rule assumptions).triggeringPolicyRules.map
          List.length).sum ≤ 534 := by
        have hsum : ((sortedSet (stepRules rule capabilityRule)).map List.length).sum ≤
            (sortedSet (stepRules rule capabilityRule)).length * 267 :=
          Json.sum_map_le fun id hid => hlimit ▸ (hrules id hid).short
        exact hsum.trans (by omega)
      have hreasons : ((stepDecision s capabilityRule rule assumptions).reasonCodes.map
          fun reason => reason.value.length).sum ≤ 250 := by
        have hsum := @Json.sum_map_le SafetyReason
          (stepDecision s capabilityRule rule assumptions).reasonCodes
          (fun reason => reason.value.length) 50 fun reason _ => length_reason reason
        have hfew : (stepDecision s capabilityRule rule assumptions).reasonCodes.length ≤ 5 :=
          hreasonsLength
        exact hsum.trans (by omega)
      have hstep : (stepDecision s capabilityRule rule assumptions).stepId.length ≤ 256 :=
        hs.stepId.short
      have hcapability : (stepDecision s capabilityRule rule assumptions).capabilityId.length ≤
        256 := hs.capabilityId.short
      have hhazard := length_hazardClass
        (stepDecision s capabilityRule rule assumptions).hazardClass
      have hdisposition := values_length.2.2.1
        (stepDecision s capabilityRule rule assumptions).disposition
      rw [SafetyStepDecision.document, Json.characters_of_keys stepKeys rfl, keys_length.2.2.1]
      simp only [Json.characters_arr, Json.characters_str, Executive.characters_textItems,
        List.map_cons, List.map_nil, List.sum_cons, List.sum_nil, List.map_map,
        Function.comp_def]
      omega
    depth := by
      have ha := fun a ha => (haclean a ha).document (show 4 + 1 ≤ 256 by omega)
      have hu := fun u hu => (huclean u hu).document (show 4 + 1 ≤ 256 by omega)
      simp only [SafetyStepDecision.document, Json.fitsDepth_obj, List.forall_mem_cons,
        Json.fitsDepth_str, Json.fitsDepth_arr, List.forall_mem_map]
      exact ⟨by omega, by omega, by omega, by omega,
        Executive.fitsDepth_textItems _ (by omega), ⟨by omega, fun a h => (ha a h).1⟩, by omega,
        Executive.fitsDepth_textItems _ (by omega), ⟨by omega, fun u h => (hu u h).1⟩,
        fun entry hentry => absurd hentry List.not_mem_nil⟩
    valid := by
      have ha := fun a ha => ((haclean a ha).document (show 4 + 1 ≤ 256 by omega)).2
      have hu := fun u hu => ((huclean u hu).document (show 4 + 1 ≤ 256 by omega)).2
      have hdisposition : ∀ disposition : SafetyDisposition,
          utf8Encodable disposition.value = true := by
        intro disposition
        cases disposition <;> exact utf8Encodable_py _
      have hstep : utf8Encodable (stepDecision s capabilityRule rule assumptions).stepId = true :=
        hs.stepId.encodable
      have hcapability : utf8Encodable
        (stepDecision s capabilityRule rule assumptions).capabilityId = true :=
        hs.capabilityId.encodable
      have hnames : ∀ id ∈ (stepDecision s capabilityRule rule
          assumptions).triggeringPolicyRules, utf8Encodable id = true :=
        fun id hid => (hrules id hid).encodable
      simp only [SafetyStepDecision.document, Json.allValid_obj, List.forall_mem_cons,
        Json.allValid_str, Json.allValid_arr, List.forall_mem_map,
        Executive.allValid_textItems, utf8Encodable_py, true_and]
      exact ⟨hcapability, hdisposition _, encodable_hazardClass _,
        fun reason _ => encodable_reason reason, ha, hstep, hnames, hu,
        fun entry hentry => absurd hentry List.not_mem_nil⟩ }

/-- Every valid step is decided, and its decision is sized. -/
theorem evaluateStep_total (policy : SafetyPolicy p) (hs : ValidStep p s)
    (hassumptions : ValidAssumptions p assumptions) :
    ∃ d, evaluateStep policy s assumptions = .ok d ∧ SizedStep p s assumptions d := by
  obtain ⟨rule, hrule, hclass⟩ := v1_complete (policy.hazardOf s.capabilityId)
  refine ⟨stepDecision s (policy.ruleFor s.capabilityId) rule assumptions, ?_,
    stepDecision_sized hs hrule hassumptions⟩
  rw [evaluateStep_eq hs hassumptions hrule hclass]
  exact stepArguments_init hs hrule hassumptions

end Steps

section Sums

variable {α β : Type}

/-- A sum over related values exceeds the sum over the others by at most a constant for each. -/
theorem sum_le_of_forall₂ {R : α → β → Prop} {values : List α} {results : List β}
    (h : List.Forall₂ R values results) {measure : β → Nat} {constant : Nat} {other : α → Nat}
    (hle : ∀ value result, R value result → measure result ≤ constant + other value) :
    (results.map measure).sum ≤ constant * values.length + (values.map other).sum := by
  induction h with
  | nil => simp
  | @cons value result values results hhead htail ih =>
    have hfirst := hle value result hhead
    rw [List.map_cons, List.sum_cons, List.map_cons, List.sum_cons, List.length_cons,
      Nat.mul_add, Nat.mul_one]
    omega

/-- Every result is related to some value. -/
theorem exists_of_mem_forall₂ {R : α → β → Prop} {values : List α} {results : List β}
    (h : List.Forall₂ R values results) {result : β} (hmem : result ∈ results) :
    ∃ value ∈ values, R value result := by
  induction h with
  | nil => cases hmem
  | @cons value other values results hhead htail ih =>
    rcases List.mem_cons.mp hmem with rfl | hrest
    · exact ⟨value, List.mem_cons_self, hhead⟩
    · obtain ⟨found, hfound, hrelated⟩ := ih hrest
      exact ⟨found, List.mem_cons_of_mem _ hfound, hrelated⟩

/-- An amount at the first position is counted at most once. -/
theorem sum_first_le (values : List α) (amount : Nat → Nat) (total : Nat)
    (hfirst : amount 0 ≤ total) (hlater : ∀ index, index ≠ 0 → amount index = 0) :
    (values.zipIdx.map fun item => amount item.2).sum ≤ total := by
  cases values with
  | nil => simp
  | cons value values =>
    have hrest : ((values.zipIdx 1).map fun item => amount item.2).sum ≤
        (values.zipIdx 1).length * 0 := by
      refine Json.sum_map_le fun item hitem => ?_
      have hindex := List.le_snd_of_mem_zipIdx hitem
      exact (hlater item.2 (by omega)).le
    rw [List.zipIdx_cons, List.map_cons, List.sum_cons, Nat.zero_add]
    dsimp only
    omega

/-- Sorting values without repetitions counts no more than all values. -/
theorem sum_sortBy_dedup_le {κ : Type} [LinearOrder κ] [DecidableEq α] {key : α → κ}
    (values : List α) (measure : α → Nat) :
    ((sortBy key values.dedup).map measure).sum ≤ (values.map measure).sum := by
  have hperm := (sortBy_perm key values.dedup).map measure
  have hsublist := (List.dedup_sublist values).map measure
  rw [hperm.sum_eq]
  exact hsublist.sum_le_sum fun _ _ => Nat.zero_le _

/-- A sum over all parts of all values. -/
theorem sum_flatMap (values : List α) (part : α → List β) (measure : β → Nat) :
    ((values.flatMap part).map measure).sum =
      (values.map fun value => ((part value).map measure).sum).sum := by
  rw [List.flatMap_def, List.map_flatten, List.sum_flatten, List.map_map, List.map_map]
  rfl

end Sums

section Decisions

variable {p : Platform} {policy : SafetyPolicy p} {proposal : Executive.ExecutiveDecision}
  {parts : ProposalParts} {stepDecisions : List SafetyStepDecision}

/-- The step decisions of the snapshot with the given parts, each sized. -/
def Sized (proposal : Executive.ExecutiveDecision) (p : Platform) (parts : ProposalParts)
    (stepDecisions : List SafetyStepDecision) : Prop :=
  List.Forall₂ (fun item d =>
      SizedStep p item.1 (assumptionsAt (snapshotOf p proposal parts) item.2) d)
    parts.steps.zipIdx stepDecisions

/-- The steps of an accepted proposal are decided. -/
theorem evaluateSteps_total (policy : SafetyPolicy p) (h : Accepted p true proposal parts) :
    ∃ stepDecisions, evaluateSteps policy (snapshotOf p proposal parts) = .ok stepDecisions ∧
      Sized proposal p parts stepDecisions := by
  have hvalid : ∀ item ∈ parts.steps.zipIdx, ValidStep p item.1 := by
    intro item hitem
    obtain ⟨step, -, hs⟩ := h.exists_step (List.fst_mem_of_mem_zipIdx hitem)
    exact hs.validStep
  have htotal : ∀ item ∈ parts.steps.zipIdx, ∃ d, evaluateStep policy item.1
      (assumptionsAt (snapshotOf p proposal parts) item.2) = .ok d ∧
        SizedStep p item.1 (assumptionsAt (snapshotOf p proposal parts) item.2) d :=
    fun item hitem => evaluateStep_total policy (hvalid item hitem) (h.validAssumptions item.2)
  obtain ⟨stepDecisions, hsteps⟩ := Checks.exists_mapM_ok.mpr fun item hitem =>
    (htotal item hitem).imp fun d hd => hd.1
  refine ⟨stepDecisions, hsteps, ?_⟩
  have hboth := (Checks.mapM_ok.mp hsteps)
  rw [List.forall₂_iff_zip] at hboth
  rw [Sized, List.forall₂_iff_zip]
  refine ⟨hboth.1, fun hmem => ?_⟩
  obtain ⟨d, hd, hsized⟩ := htotal _ (List.of_mem_zip hmem).1
  rw [hboth.2 hmem, Except.ok.injEq] at hd
  exact hd ▸ hsized

/-- What the requirements of all steps of an accepted proposal take. -/
structure Totals (stepDecisions : List SafetyStepDecision) : Prop where
  /-- There are few steps. -/
  steps : stepDecisions.length ≤ 64
  /-- There are few approvals. -/
  approvals_length : (stepDecisions.map fun d => d.requiredApprovals.length).sum ≤ 8256
  /-- There are few prerequisites. -/
  prerequisites_length :
    (stepDecisions.map fun d => d.unresolvedPrerequisites.length).sum ≤ 16576
  /-- The values of the requirements. -/
  nodes : (stepDecisions.map fun d => (d.requiredApprovals.map fun a => a.document.nodes).sum).sum +
    (stepDecisions.map fun d =>
      (d.unresolvedPrerequisites.map fun u => u.document.nodes).sum).sum ≤ 103262
  /-- The characters of the requirements. -/
  characters : (stepDecisions.map fun d =>
      (d.requiredApprovals.map fun a => a.document.characters).sum).sum +
    (stepDecisions.map fun d =>
      (d.unresolvedPrerequisites.map fun u => u.document.characters).sum).sum ≤ 15851960
  /-- The values of the documents. -/
  documents_nodes : (stepDecisions.map fun d => d.document.nodes).sum ≤ 104286
  documents_characters : (stepDecisions.map fun d => d.document.characters).sum ≤ 15947960

/-- The requirements of an accepted proposal are limited. -/
theorem totals (h : Accepted p true proposal parts) (hsized : Sized proposal p parts stepDecisions) :
    Totals stepDecisions := by
  have hlength : stepDecisions.length = parts.steps.length := by
    rw [← hsized.length_eq, List.length_zipIdx]
  have hitems : parts.steps.zipIdx.length = parts.steps.length := List.length_zipIdx
  have hsteps : parts.steps.length ≤ 64 := h.steps_length
  have hassumptions : parts.assumptions.length ≤ 128 := (h.validAssumptions 0).bounded
  obtain ⟨hdeclared, htexts⟩ := h.declared
  -- Sums over the positions are sums over the steps.
  have hover : ∀ measure : PlanStepSnapshot → Nat,
      (parts.steps.zipIdx.map fun item => measure item.1).sum = (parts.steps.map measure).sum := by
    intro measure
    rw [← List.zipIdx_map_fst 0 parts.steps, List.map_map, List.zipIdx_map_fst]
    rfl
  -- Only the first position carries the assumptions.
  have honce : ∀ measure : List AssumptionSnapshot → Nat, measure [] = 0 →
      (parts.steps.zipIdx.map fun item =>
        measure (assumptionsAt (snapshotOf p proposal parts) item.2)).sum ≤
          measure parts.assumptions := by
    intro measure hnone
    refine sum_first_le parts.steps
      (fun index => measure (assumptionsAt (snapshotOf p proposal parts) index)) _ le_rfl ?_
    intro index hindex
    rw [assumptionsAt, if_neg hindex]
    exact hnone
  have hanodes := sum_le_of_forall₂ hsized (fun item d hd => hd.approvals_nodes)
  have hacharacters := sum_le_of_forall₂ hsized (fun item d hd => hd.approvals_characters)
  have hunodes := sum_le_of_forall₂ hsized (fun item d hd => hd.prerequisites_nodes)
  have hucharacters := sum_le_of_forall₂ hsized (fun item d hd => hd.prerequisites_characters)
  have hulength := sum_le_of_forall₂ hsized (fun item d hd => hd.prerequisites_length)
  have halength : (stepDecisions.map fun d => d.requiredApprovals.length).sum ≤
      stepDecisions.length * 129 := by
    refine Json.sum_map_le fun d hd => ?_
    obtain ⟨item, -, hstep⟩ := exists_of_mem_forall₂ hsized hd
    exact hstep.approvals_length
  have hdnodes := @Json.sum_map_le_add _ stepDecisions (fun d => d.document.nodes) _ 16
    fun d hd => (exists_of_mem_forall₂ hsized hd).elim fun item hitem => hitem.2.nodes
  have hdcharacters := @Json.sum_map_le_add _ stepDecisions (fun d => d.document.characters) _
    1500 fun d hd => (exists_of_mem_forall₂ hsized hd).elim fun item hitem => hitem.2.characters
  rw [List.sum_map_add] at hdnodes hdcharacters
  rw [hover fun s => 6 * s.requiredApprovals.length, List.sum_map_mul_left, hitems] at hanodes
  rw [hover fun s => 344 * s.requiredApprovals.length + declaredTexts s, List.sum_map_add,
    List.sum_map_mul_left, hitems] at hacharacters
  have hunodesOnce := honce (fun assumptions => 5 * assumptions.length) rfl
  have hucharactersOnce := honce
    (fun assumptions => 325 * assumptions.length + unverifiedTexts assumptions) rfl
  have hulengthOnce := honce List.length rfl
  rw [hitems] at hunodes hucharacters hulength
  exact {
    steps := by omega
    approvals_length := by omega
    prerequisites_length := by omega
    nodes := by omega
    characters := by omega
    documents_nodes := by omega
    documents_characters := by omega }

/-- The sources of a decision on an accepted proposal pass the checks of the constructor. -/
theorem checkSources_ok (h : Accepted p true proposal parts) :
    (decisionContent policy (snapshotOf p proposal parts) stepDecisions).checkSources = .ok () := by
  have hprovenance := validProvenance h.provenance
  obtain ⟨hversion, -, hfingerprint⟩ := policy.fingerprint_eq
  have hclean : CleanIdentifier p maxIdentifierLength safetyPolicyVersion :=
    cleanIdentifier_ascii (by decide) (by decide) (by decide)
  simp only [SafetyDecisionContent.checkSources, Checks.unit_bind_ok, validateText_ok,
    Checks.require_ok, decisionContent, hversion, hfingerprint]
  exact ⟨hprovenance.decisionId, hprovenance.requestId, hprovenance.ownerSubject,
    hclean.toCleanText, trivial, hprovenance.decisionKind, trivial, rfl⟩

/-- A decision content whose steps are limited. -/
structure LimitedContent (p : Platform) (c : SafetyDecisionContent) : Prop where
  /-- The sources pass the checks of the constructor. -/
  sources : c.checkSources = .ok ()
  /-- The policy digest is one. -/
  policyDigest : IsHexDigest c.policyFingerprint.digest
  /-- The proposal digest is one. -/
  proposalDigest : IsHexDigest c.proposalFingerprint.digest
  /-- The source digest is one. -/
  sourceDigest : IsHexDigest c.sourceDecisionFingerprint.digest
  /-- The source algorithm is the expected one. -/
  sourceAlgorithm : c.sourceDecisionFingerprint.algorithm = py "sha256"
  /-- The requirements are limited. -/
  totals : Totals c.stepDecisions
  steps : ∀ d ∈ c.stepDecisions, ∃ s assumptions, SizedStep p s assumptions d

namespace LimitedContent

variable {c : SafetyDecisionContent}

/-- The texts of the sources are clean. -/
theorem cleanSources (h : LimitedContent p c) : CleanText c.sourceDecisionId ∧
    CleanText c.sourceRequestId ∧ CleanText c.ownerSubject ∧ CleanText c.policyVersion := by
  have hsources := h.sources
  simp only [SafetyDecisionContent.checkSources, Checks.unit_bind_ok, validateText_ok] at hsources
  exact ⟨hsources.1, hsources.2.1, hsources.2.2.1, hsources.2.2.2.1⟩

/-- The distinct reasons of all steps are few. -/
theorem length_reasons (c : SafetyDecisionContent) : c.reasons.length ≤ 13 := by
  have hnodup : c.reasons.Nodup := by
    rw [SafetyDecisionContent.reasons, (sortBy_perm _ _).nodup_iff]
    exact List.nodup_dedup _
  have hsubset : c.reasons ⊆ SafetyReason.members := fun reason _ => reason.mem_members
  exact (hnodup.subperm hsubset).length_le.trans (by decide)

/-- The approvals of the plan are clean. -/
theorem approvals_clean (h : LimitedContent p c) : ∀ a ∈ c.approvals, a.Clean p := by
  intro a ha
  rw [SafetyDecisionContent.approvals, mem_sortBy, List.mem_dedup, List.mem_flatMap] at ha
  obtain ⟨d, hd, ha⟩ := ha
  obtain ⟨s, assumptions, hsized⟩ := h.steps d hd
  exact hsized.approvals_clean a ha

/-- The prerequisites of the plan are clean. -/
theorem prerequisites_clean (h : LimitedContent p c) : ∀ u ∈ c.prerequisites, u.Clean p := by
  intro u hu
  rw [SafetyDecisionContent.prerequisites, mem_sortBy, List.mem_dedup, List.mem_flatMap] at hu
  obtain ⟨d, hd, hu⟩ := hu
  obtain ⟨s, assumptions, hsized⟩ := h.steps d hd
  exact hsized.prerequisites_clean u hu

/-- The plan requires no more approvals than its steps. -/
theorem sum_approvals_le (c : SafetyDecisionContent) (measure : SafetyApprovalRequirement → Nat) :
    (c.approvals.map measure).sum ≤
      (c.stepDecisions.map fun d => (d.requiredApprovals.map measure).sum).sum := by
  rw [SafetyDecisionContent.approvals, ← sum_flatMap]
  exact sum_sortBy_dedup_le _ measure

/-- The plan leaves no more prerequisites open than its steps. -/
theorem sum_prerequisites_le (c : SafetyDecisionContent)
    (measure : UnresolvedSafetyPrerequisite → Nat) :
    (c.prerequisites.map measure).sum ≤
      (c.stepDecisions.map fun d => (d.unresolvedPrerequisites.map measure).sum).sum := by
  rw [SafetyDecisionContent.prerequisites, ← sum_flatMap]
  exact sum_sortBy_dedup_le _ measure

/-- The document of a limited decision has few values. -/
theorem nodes_le (h : LimitedContent p c) (disposition : SafetyDisposition) :
    (c.document disposition).nodes ≤ 250000 := by
  have hreasons := length_reasons c
  have happrovals := sum_approvals_le c fun a => a.document.nodes
  have hprerequisites := sum_prerequisites_le c fun u => u.document.nodes
  have hrequirements := h.totals.nodes
  have hsteps := h.totals.documents_nodes
  simp only [SafetyDecisionContent.document, Json.nodes_obj, Json.nodes_arr, Json.nodes_str,
    Executive.nodes_textItems, List.map_cons, List.map_nil, List.sum_cons, List.sum_nil,
    List.map_map, Function.comp_def, List.length_map]
  linarith

/-- The keys, the texts, the reasons, the requirements and the steps together. -/
theorem characters_sum_le {disposition owner policy version proposal reasons approvals source
    decisionId requestId steps prerequisites : Nat} (hdisposition : disposition ≤ 26)
    (howner : owner ≤ 16384) (hpolicy : policy ≤ 100) (hversion : version ≤ 16384)
    (hproposal : proposal ≤ 100) (hreasons : reasons ≤ 13 * 50)
    (hrequirements : approvals + prerequisites ≤ 15851960) (hsource : source ≤ 100)
    (hdecisionId : decisionId ≤ 16384) (hrequestId : requestId ≤ 16384)
    (hsteps : steps ≤ 15947960) :
    212 + (disposition + (owner + (policy + (version + (proposal + (reasons + (approvals + (23 +
      (source + (decisionId + (requestId + (steps + (prerequisites + 0))))))))))))) ≤ 32000000 := by
  linarith

/-- The document of a limited decision has few characters. -/
theorem characters_le (h : LimitedContent p c) (disposition : SafetyDisposition) :
    (c.document disposition).characters ≤ 32000000 := by
  obtain ⟨hdecisionId, hrequestId, howner, hversion⟩ := h.cleanSources
  have hbound1 : c.sourceDecisionId.length ≤ 16384 := hdecisionId.bounded
  have hbound2 : c.sourceRequestId.length ≤ 16384 := hrequestId.bounded
  have hbound3 : c.ownerSubject.length ≤ 16384 := howner.bounded
  have hbound4 : c.policyVersion.length ≤ 16384 := hversion.bounded
  have hschema : (py "ayyo.safety.decision.v1").length = 23 := by decide
  have hpolicy := EligibleContent.length_fingerprint h.policyDigest
  have hproposal := EligibleContent.length_fingerprint h.proposalDigest
  have hsource := EligibleContent.length_source h.sourceDigest h.sourceAlgorithm
  have hdisposition := values_length.2.2.1 disposition
  have hmany := length_reasons c
  have hreasons : (c.reasons.map fun reason => reason.value.length).sum ≤
      c.reasons.length * 50 := Json.sum_map_le fun reason _ => length_reason reason
  have happrovals := sum_approvals_le c fun a => a.document.characters
  have hprerequisites := sum_prerequisites_le c fun u => u.document.characters
  have hrequirements := h.totals.characters
  have hsteps := h.totals.documents_characters
  rw [SafetyDecisionContent.document, Json.characters_of_keys decisionKeys rfl, keys_length.2.2.2]
  simp only [Json.characters_arr, Json.characters_str, Executive.characters_textItems,
    List.map_cons, List.map_nil, List.sum_cons, List.sum_nil, List.map_map, Function.comp_def,
    hschema]
  exact characters_sum_le hdisposition hbound3 hpolicy hbound4 hproposal
    (hreasons.trans (Nat.mul_le_mul_right 50 hmany))
    ((Nat.add_le_add happrovals hprerequisites).trans hrequirements) hsource hbound1 hbound2 hsteps

/-- The document of a limited decision is flat. -/
theorem fitsDepth (h : LimitedContent p c) (disposition : SafetyDisposition) :
    (c.document disposition).FitsDepth 256 0 := by
  have happrovals : ∀ a ∈ c.approvals, a.document.FitsDepth 256 2 :=
    fun a ha => ((h.approvals_clean a ha).document (by omega)).1
  have hprerequisites : ∀ u ∈ c.prerequisites, u.document.FitsDepth 256 2 :=
    fun u hu => ((h.prerequisites_clean u hu).document (by omega)).1
  have hsteps : ∀ d ∈ c.stepDecisions, d.document.FitsDepth 256 2 := by
    intro d hd
    obtain ⟨s, assumptions, hsized⟩ := h.steps d hd
    exact hsized.depth
  simpa [SafetyDecisionContent.document, Executive.fitsDepth_textItems] using
    ⟨happrovals, hsteps, hprerequisites⟩

/-- The document of a limited decision may be written. -/
theorem allValid (h : LimitedContent p c) (disposition : SafetyDisposition) :
    (c.document disposition).AllValid := by
  obtain ⟨hdecisionId, hrequestId, howner, hversion⟩ := h.cleanSources
  have hdisposition : utf8Encodable disposition.value = true := by
    cases disposition <;> exact utf8Encodable_py _
  have happrovals : ∀ a ∈ c.approvals, a.document.AllValid :=
    fun a ha => ((h.approvals_clean a ha).document (show 0 + 1 ≤ 256 by omega)).2
  have hprerequisites : ∀ u ∈ c.prerequisites, u.document.AllValid :=
    fun u hu => ((h.prerequisites_clean u hu).document (show 0 + 1 ≤ 256 by omega)).2
  have hsteps : ∀ d ∈ c.stepDecisions, d.document.AllValid := by
    intro d hd
    obtain ⟨s, assumptions, hsized⟩ := h.steps d hd
    exact hsized.valid
  simpa [SafetyDecisionContent.document, hdisposition, hdecisionId.encodable,
    hrequestId.encodable, howner.encodable, hversion.encodable, encodable_reason,
    EligibleContent.encodable_fingerprint h.policyDigest,
    EligibleContent.encodable_fingerprint h.proposalDigest,
    EligibleContent.encodable_source h.sourceDigest h.sourceAlgorithm] using
    ⟨happrovals, hsteps, hprerequisites⟩

/-- The document of a limited decision can be digested. -/
theorem within (h : LimitedContent p c) (disposition : SafetyDisposition) :
    Within fingerprintLimits (c.document disposition) where
  nodes := h.nodes_le disposition
  depth := h.fitsDepth disposition
  characters := h.characters_le disposition
  valid := h.allValid disposition

/-- There are not too many approvals. -/
theorem length_approvals (h : LimitedContent p c) :
    c.approvals.length ≤ maxSafetyAggregateItems := by
  rw [SafetyDecisionContent.approvals, length_sortBy]
  refine (List.dedup_sublist _).length_le.trans ?_
  rw [List.length_flatMap]
  exact h.totals.approvals_length.trans (by decide)

/-- There are not too many prerequisites. -/
theorem length_prerequisites (h : LimitedContent p c) :
    c.prerequisites.length ≤ maxSafetyAggregateItems := by
  rw [SafetyDecisionContent.prerequisites, length_sortBy]
  refine (List.dedup_sublist _).length_le.trans ?_
  rw [List.length_flatMap]
  exact h.totals.prerequisites_length.trans (by decide)

/-- The constructor of a decision accepts limited steps. -/
theorem init_ok (h : LimitedContent p c) (hsome : c.stepDecisions ≠ [])
    (hnodup : (c.stepDecisions.map (·.stepId)).Nodup) : ∃ d, c.init p = .ok d := by
  have hfingerprint : ∀ disposition, fingerprintDocument p .decision (c.document disposition)
      .decisionInvariant = .ok {
        kind := .decision
        digest := p.sha256 (encode (c.document disposition)) } :=
    fun disposition => fingerprintDocument_ok.mpr ⟨h.within disposition, rfl⟩
  have hbounded : c.stepDecisions.length ≤ maxSafetySteps := h.totals.steps
  cases hsteps : c.stepDecisions with
  | nil => exact absurd hsteps hsome
  | cons first others =>
    rw [hsteps] at hnodup hbounded
    rw [SafetyDecisionContent.init, h.sources, Checks.ok_bind, hsteps]
    simp only [hfingerprint, Checks.require_bind_ok, Checks.ok_bind, Checks.pure_ok]
    exact ⟨_, hbounded, hnodup, h.length_approvals, h.length_prerequisites, rfl⟩

end LimitedContent

/-- The content of the decision on an accepted proposal is limited. -/
theorem limitedContent (policy : SafetyPolicy p) (h : Accepted p true proposal parts)
    (hsized : Sized proposal p parts stepDecisions) :
    LimitedContent p (decisionContent policy (snapshotOf p proposal parts) stepDecisions) := by
  have hprovenance := validProvenance h.provenance
  obtain ⟨-, -, hfingerprint⟩ := policy.fingerprint_eq
  exact {
    sources := checkSources_ok h
    policyDigest := by
      rw [decisionContent, hfingerprint]
      exact p.sha256_hex _
    proposalDigest := p.sha256_hex _
    sourceDigest := hprovenance.decisionDigest
    sourceAlgorithm := hprovenance.decisionAlgorithm
    totals := totals h hsized
    steps := fun d hd => (exists_of_mem_forall₂ hsized hd).elim fun item hitem =>
      ⟨_, _, hitem.2⟩ }

/-- Every accepted proposal is decided. -/
theorem evaluate_of_accepted (policy : SafetyPolicy p) (h : Accepted p true proposal parts) :
    ∃ d, evaluate policy proposal = .ok d := by
  obtain ⟨stepDecisions, hsteps, hsized⟩ := evaluateSteps_total policy h
  have hids : stepDecisions.map (·.stepId) = parts.steps.map (·.stepId) := by
    have hview := Checks.map_of_mapM_ok hsteps (PlanStepSnapshot.stepId ∘ Prod.fst)
      fun item step hok => (evaluateStep_ok hok).stepId
    rw [hview, ← List.map_map, List.zipIdx_map_fst]
    rfl
  have hnodup : (stepDecisions.map (·.stepId)).Nodup := by
    rw [hids]
    exact h.stepIds_nodup
  have hsome : stepDecisions ≠ [] := by
    intro hnone
    rw [hnone, List.map_nil, eq_comm, List.map_eq_nil_iff] at hids
    exact h.steps_ne_nil hids
  obtain ⟨d, hinit⟩ := (limitedContent policy h hsized).init_ok hsome hnodup
  exact ⟨d, evaluate_ok.mpr ⟨parts, stepDecisions, h, hsteps, hinit⟩⟩

/-- Whatever passes the validation of the proposal is decided: no check on the decision and no
limit on a document refuses it. -/
theorem evaluate_total (policy : SafetyPolicy p) (proposal : Executive.ExecutiveDecision)
    (snapshot : SafetyProposalSnapshot)
    (h : snapshotProposal p true proposal = .ok snapshot) :
    ∃ d, evaluate policy proposal = .ok d := by
  obtain ⟨parts, haccepted, -⟩ := snapshotProposal_ok.mp h
  exact evaluate_of_accepted policy haccepted

/-- The sample proposal is decided. -/
theorem evaluate_total_sample : ∃ d, evaluate samplePolicy (sampleProposal []) = .ok d := by
  obtain ⟨snapshot, hsnapshot⟩ := sampleProposal_accepted
  exact evaluate_total samplePolicy (sampleProposal []) snapshot hsnapshot

end Decisions

end Safety
end AyyoHumanoid
