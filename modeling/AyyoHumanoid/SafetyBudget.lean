import AyyoHumanoid.SafetyVerdicts
import Mathlib.Algebra.BigOperators.Ring.List
import Mathlib.Algebra.Order.BigOperators.Group.List
import Mathlib.Algebra.Order.Group.Nat
import Mathlib.Algebra.Ring.Nat

/-!
# What an Executive decision can declare

A proposal is accepted only when its Executive decision can be rebuilt, and the
constructor of that decision digests a document that repeats every declared
approval and every assumption. The limits on that document therefore limit what
the steps of an accepted proposal declare together, far below what the limits on
each step alone allow.
-/

namespace AyyoHumanoid
namespace Safety

open PyText JsonText PyCollections

section Executive

variable {p : Platform}

/-- The characters that declared approvals spell. -/
def approvalTexts (approvals : List Executive.ApprovalRequirement) : Nat :=
  (approvals.map fun a => a.approvalId.length + a.description.length).sum

/-- The characters that assumptions spell. -/
def assumptionTexts (assumptions : List Executive.Assumption) : Nat :=
  (assumptions.map fun a => a.assumptionId.length + a.description.length).sum

/-- The document of a step repeats its approvals. -/
theorem stepDocument_size {step : Executive.PlanStep} {document : Json}
    (h : step.document = .ok document) :
    3 * step.requiredApprovals.length ≤ document.nodes ∧
      approvalTexts step.requiredApprovals ≤ document.characters := by
  rw [Executive.PlanStep.document, Checks.bind_ok] at h
  obtain ⟨constraints, -, h⟩ := h
  rw [Checks.bind_ok] at h
  obtain ⟨parameters, -, h⟩ := h
  rw [Checks.pure_ok] at h
  have hthree : ∀ a : Executive.ApprovalRequirement, a.document.nodes = 3 := by
    intro a
    simp [Executive.ApprovalRequirement.document]
  have hnodes : ∀ approvals : List Executive.ApprovalRequirement,
      (approvals.map fun a => a.document.nodes).sum = 3 * approvals.length := by
    intro approvals
    induction approvals with
    | nil => rfl
    | cons a approvals ih =>
      rw [List.map_cons, List.sum_cons, ih, hthree, List.length_cons]
      omega
  have hcharacters : approvalTexts step.requiredApprovals ≤
      (step.requiredApprovals.map fun a => a.document.characters).sum := by
    refine List.sum_le_sum fun a _ => ?_
    simp only [Executive.ApprovalRequirement.document, Json.characters_obj, Json.characters_str,
      List.map_cons, List.map_nil, List.sum_cons, List.sum_nil]
    omega
  rw [← h]
  simp only [Json.nodes_obj, Json.nodes_arr, Json.characters_obj, Json.characters_arr,
    List.map_map, Function.comp_def, List.map_cons, List.map_nil, List.sum_cons, List.sum_nil,
    hnodes]
  constructor
  · omega
  · omega

/-- An ordered decision has the assumptions and the plan of its arguments. -/
theorem ordered_ok {arguments content : Executive.DecisionContent}
    (h : arguments.ordered p = .ok content) :
    content.assumptions.Perm arguments.assumptions ∧
      content.proposedPlan = arguments.proposedPlan := by
  simp only [Executive.DecisionContent.ordered, Checks.bind_ok] at h
  obtain ⟨-, -, references, -, assumptions, hassumptions, approvals, -, constraints, -,
    capabilities, -, -, -, h⟩ := h
  rw [Executive.DecisionContent.decisionTuple, Checks.require_bind_ok, orderedUnique_ok]
    at hassumptions
  obtain ⟨-, -, hassumptions⟩ := hassumptions
  have hcontent : { arguments with
      contextReferences := references
      assumptions := assumptions
      requiredApprovals := approvals
      constraints := constraints
      requiredCapabilities := capabilities } = content := by
    cases hplan : arguments.proposedPlan with
    | none =>
      rw [hplan] at h
      exact Checks.pure_ok.mp h
    | some plan =>
      rw [hplan] at h
      exact Checks.pure_ok.mp (Checks.unit_bind_ok.mp h).2
  rw [← hcontent, ← hassumptions]
  exact ⟨sortBy_perm _ _, rfl⟩

/-- The document of an Executive decision is within the limits when it can be digested. -/
theorem executive_fingerprint_ok {kind : Executive.FingerprintKind} {document : Json}
    {fingerprint : Executive.Fingerprint}
    (h : Executive.fingerprintDocument p kind document = .ok fingerprint) :
    Within .standard document := by
  rw [Executive.fingerprintDocument, Checks.bind_ok] at h
  obtain ⟨canonical, hcanonical, -⟩ := h
  rw [Executive.canonicalize, Checks.mapError_ok, canonicalizeJson_ok] at hcanonical
  exact hcanonical.1

/-- The document of a decision repeats the assumptions and the steps. -/
theorem decisionDocument_size {content : Executive.DecisionContent}
    {relevant : Executive.Fingerprint} {plan : Executive.Plan} {document : Json}
    (hplan : content.proposedPlan = some plan) (h : content.document relevant = .ok document) :
    (plan.steps.map fun step => 3 * step.requiredApprovals.length).sum ≤ document.nodes ∧
      (plan.steps.map fun step => approvalTexts step.requiredApprovals).sum +
        assumptionTexts content.assumptions ≤ document.characters := by
  rw [Executive.DecisionContent.document, hplan, Checks.bind_ok] at h
  obtain ⟨constraints, -, h⟩ := h
  rw [Checks.bind_ok] at h
  obtain ⟨planDocument, hplanDocument, h⟩ := h
  rw [Executive.DecisionContent.planDocument, Checks.bind_ok] at hplanDocument
  obtain ⟨steps, hsteps, hplanDocument⟩ := hplanDocument
  rw [Checks.pure_ok] at h hplanDocument
  have hsizes := Checks.mapM_ok.mp hsteps
  have hnodes : (plan.steps.map fun step => 3 * step.requiredApprovals.length).sum ≤
      (steps.map Json.nodes).sum := by
    refine List.Forall₂.sum_le_sum (List.forall₂_map_left_iff.mpr
      (List.forall₂_map_right_iff.mpr (hsizes.imp fun step item hitem => ?_)))
    exact (stepDocument_size hitem).1
  have hcharacters : (plan.steps.map fun step => approvalTexts step.requiredApprovals).sum ≤
      (steps.map Json.characters).sum := by
    refine List.Forall₂.sum_le_sum (List.forall₂_map_left_iff.mpr
      (List.forall₂_map_right_iff.mpr (hsizes.imp fun step item hitem => ?_)))
    exact (stepDocument_size hitem).2
  have hassumptions : assumptionTexts content.assumptions ≤
      (content.assumptions.map fun a => a.document.characters).sum := by
    refine List.sum_le_sum fun a _ => ?_
    simp only [Executive.Assumption.document, Json.characters_obj, Json.characters_str,
      List.map_cons, List.map_nil, List.sum_cons, List.sum_nil]
    omega
  rw [← h, ← hplanDocument]
  simp only [Json.nodes_obj, Json.nodes_arr, Json.characters_obj, Json.characters_arr,
    List.map_map, Function.comp_def, List.map_cons, List.map_nil, List.sum_cons, List.sum_nil]
  constructor
  · refine hnodes.trans ?_
    clear hnodes hcharacters hassumptions
    omega
  · refine (Nat.add_le_add hcharacters hassumptions).trans ?_
    clear hnodes hcharacters hassumptions
    omega

/-- What the steps of an accepted proposal declare together, and its assumptions, are limited. -/
theorem Accepted.budget {requireSourceIntegrity : Bool} {proposal : Executive.ExecutiveDecision}
    {parts : ProposalParts} (h : Accepted p requireSourceIntegrity proposal parts) :
    ((planSteps proposal).map fun step => step.requiredApprovals.length).sum ≤ 3333 ∧
      ((planSteps proposal).map fun step => approvalTexts step.requiredApprovals).sum +
        assumptionTexts proposal.assumptions ≤ 4000000 := by
  have hintegrity := h.integrity
  rw [checkSourceIntegrity, Checks.bind_ok] at hintegrity
  obtain ⟨rebuilt, hrebuilt, -⟩ := hintegrity
  rw [inspected_ok, Executive.DecisionContent.init, Checks.bind_ok] at hrebuilt
  obtain ⟨content, hcontent, hrebuilt⟩ := hrebuilt
  rw [Checks.bind_ok] at hrebuilt
  obtain ⟨relevant, -, hrebuilt⟩ := hrebuilt
  rw [Checks.bind_ok] at hrebuilt
  obtain ⟨document, hdocument, hrebuilt⟩ := hrebuilt
  rw [Checks.bind_ok] at hrebuilt
  obtain ⟨fingerprint, hfingerprint, -⟩ := hrebuilt
  have hwithin := executive_fingerprint_ok hfingerprint
  obtain ⟨hassumptions, hsame⟩ := ordered_ok hcontent
  have hnodesLimit : document.nodes ≤ 10000 := hwithin.nodes
  have hcharactersLimit : document.characters ≤ 4000000 := hwithin.characters
  have hsome := (snapshotSteps_ok h.steps).1
  cases hplan : proposal.proposedPlan with
  | none =>
    rw [planSteps, hplan] at hsome
    exact absurd rfl hsome
  | some plan =>
    rw [hplan] at hsame
    obtain ⟨hnodes, hcharacters⟩ := decisionDocument_size hsame hdocument
    have hsum : (plan.steps.map fun step => 3 * step.requiredApprovals.length).sum =
        3 * (plan.steps.map fun step => step.requiredApprovals.length).sum :=
      List.sum_map_mul_left _ _ _
    have htexts : assumptionTexts content.assumptions = assumptionTexts proposal.assumptions :=
      (hassumptions.map _).sum_eq
    rw [planSteps, hplan]
    dsimp only
    omega

end Executive

section Snapshots

variable {p : Platform} {requireSourceIntegrity : Bool} {proposal : Executive.ExecutiveDecision}
  {parts : ProposalParts}

/-- The characters that the approvals of a step snapshot spell. -/
def declaredTexts (s : PlanStepSnapshot) : Nat :=
  (s.requiredApprovals.map fun a => a.approvalId.length + a.description.length).sum

/-- The characters that assumption snapshots spell. -/
def unverifiedTexts (assumptions : List AssumptionSnapshot) : Nat :=
  (assumptions.map fun a => a.assumptionId.length + a.description.length).sum

/-- A view that the snapshots keep has the same sum. -/
theorem sum_snapshotItems {α β κ : Type} [LinearOrder κ] {values : List α}
    {snapshot : α → Except SafetyError β} {key : β → κ} {fieldName : PyStr} {items : List β}
    (h : snapshotItems values snapshot key fieldName = .ok items) {before : α → Nat}
    {after : β → Nat} (hview : ∀ value item, snapshot value = .ok item → after item = before value) :
    (items.map after).sum = (values.map before).sum := by
  obtain ⟨-, snapshots, hsnapshots, -, rfl⟩ := snapshotItems_ok h
  rw [← Checks.map_of_mapM_ok hsnapshots before hview]
  exact ((sortBy_perm key snapshots).map after).sum_eq

/-- The snapshot of a step declares as much as the step. -/
theorem StepSnapshotOf.declared {step : Executive.PlanStep} {s : PlanStepSnapshot}
    (h : StepSnapshotOf p step s) :
    s.requiredApprovals.length = step.requiredApprovals.length ∧
      declaredTexts s = approvalTexts step.requiredApprovals := by
  refine ⟨length_snapshotItems h.requiredApprovals,
    sum_snapshotItems h.requiredApprovals fun value item hitem => ?_⟩
  obtain ⟨-, -, rfl⟩ := snapshotApproval_ok.mp hitem
  rfl

/-- A sum over the step snapshots is the sum over the plan, for a view that they keep. -/
theorem Accepted.sum_steps (h : Accepted p requireSourceIntegrity proposal parts)
    {before : Executive.PlanStep → Nat} {after : PlanStepSnapshot → Nat}
    (hview : ∀ step s, StepSnapshotOf p step s → after s = before step) :
    (parts.steps.map after).sum = ((planSteps proposal).map before).sum := by
  obtain ⟨-, -, snapshots, hsnapshots, hsteps⟩ := snapshotSteps_ok h.steps
  rw [← Checks.map_of_mapM_ok hsnapshots before fun step s hs => hview step s (snapshotStep_ok hs)]
  exact ((topologicalSteps_perm hsteps).1.map after).sum_eq

/-- What the snapshots of an accepted proposal declare together is limited. -/
theorem Accepted.declared (h : Accepted p requireSourceIntegrity proposal parts) :
    (parts.steps.map fun s => s.requiredApprovals.length).sum ≤ 3333 ∧
      (parts.steps.map declaredTexts).sum + unverifiedTexts parts.assumptions ≤ 4000000 := by
  obtain ⟨hcount, htexts⟩ := h.budget
  have hassumptions : unverifiedTexts parts.assumptions = assumptionTexts proposal.assumptions := by
    refine sum_snapshotItems h.assumptions fun value item hitem => ?_
    obtain ⟨-, -, rfl⟩ := snapshotAssumption_ok.mp hitem
    rfl
  rw [h.sum_steps fun step s hs => hs.declared.1, h.sum_steps fun step s hs => hs.declared.2,
    hassumptions]
  exact ⟨hcount, htexts⟩

end Snapshots

end Safety
end AyyoHumanoid
