import AyyoHumanoid.SafetyService

/-!
# What an accepted proposal establishes

Each check of the snapshot is stated as the fact it establishes: clean texts and
identifiers, snapshots with the attributes of their sources, steps that permute
the steps of the plan. The policy's rules are found by their keys.
-/

namespace AyyoHumanoid
namespace Safety

open PyText JsonText PyCollections

/-- The text check of a snapshot passes exactly on clean text. -/
theorem snapshotText_ok {value fieldName : PyStr} :
    snapshotText value fieldName = .ok () ↔ CleanText value := by
  simp only [snapshotText, Checks.unit_bind_ok, Checks.require_ok]
  constructor
  · rintro ⟨⟨hnonempty, -, hstripped, hbounded⟩, hencodable⟩
    exact ⟨hnonempty, hbounded, hstripped, hencodable⟩
  · intro h
    exact ⟨⟨h.nonempty, h.stripped ▸ h.nonempty, h.stripped, h.bounded⟩, h.encodable⟩

/-- The identifier check of a snapshot passes exactly on clean identifiers. -/
theorem snapshotIdentifier_ok {p : Platform} {value fieldName : PyStr} :
    snapshotIdentifier p value fieldName = .ok () ↔
      CleanIdentifier p maxIdentifierLength value := by
  simp only [snapshotIdentifier, Checks.unit_bind_ok, Checks.require_ok, snapshotText_ok]
  constructor
  · rintro ⟨hclean, hshort, hspelled⟩
    exact ⟨hclean, hshort, hspelled⟩
  · intro h
    exact ⟨h.toCleanText, h.short, h.spelled⟩

/-- Reading the proposal returns when the Executive code does. -/
@[simp] theorem inspected_ok {α : Type} {x : Except Executive.ExecutiveError α} {a : α} :
    inspected x = .ok a ↔ x = .ok a := by
  cases x <;> simp [inspected, Except.mapError]

section Items

variable {α β κ : Type} [LinearOrder κ] {values : List α} {snapshot : α → Except SafetyError β}
  {key : β → κ} {fieldName : PyStr} {items : List β}

/-- The snapshots of values are the snapshots of each value, sorted. -/
theorem snapshotItems_ok (h : snapshotItems values snapshot key fieldName = .ok items) :
    values.length ≤ maxProposalItems ∧
      ∃ snapshots, values.mapM snapshot = .ok snapshots ∧ (snapshots.map key).Nodup ∧
        sortBy key snapshots = items := by
  rw [snapshotItems, limitItems, Checks.require_bind_ok, Checks.bind_ok] at h
  simp only [uniqueOrdered, orderedUnique_ok] at h
  exact h

/-- A snapshot is one of the values' snapshots. -/
theorem mem_snapshotItems (h : snapshotItems values snapshot key fieldName = .ok items)
    {item : β} : item ∈ items ↔ ∃ value ∈ values, snapshot value = .ok item := by
  obtain ⟨-, snapshots, hsnapshots, -, rfl⟩ := snapshotItems_ok h
  rw [mem_sortBy, Checks.mem_of_mapM_ok hsnapshots]

/-- There are as many snapshots as values. -/
theorem length_snapshotItems (h : snapshotItems values snapshot key fieldName = .ok items) :
    items.length = values.length := by
  obtain ⟨-, snapshots, hsnapshots, -, rfl⟩ := snapshotItems_ok h
  rw [length_sortBy, (Checks.mapM_ok.mp hsnapshots).length_eq]

/-- A view that the snapshots keep has the same values. -/
theorem mem_map_snapshotItems {γ : Type} (h : snapshotItems values snapshot key fieldName = .ok items)
    {before : α → γ} {after : β → γ}
    (hview : ∀ value item, snapshot value = .ok item → after item = before value) {view : γ} :
    view ∈ items.map after ↔ view ∈ values.map before := by
  obtain ⟨-, snapshots, hsnapshots, -, rfl⟩ := snapshotItems_ok h
  rw [← Checks.map_of_mapM_ok hsnapshots before hview]
  exact ((sortBy_perm key snapshots).map after).mem_iff

/-- Snapshots are empty when there are no values. -/
theorem snapshotItems_eq_nil (h : snapshotItems values snapshot key fieldName = .ok items) :
    items = [] ↔ values = [] := by
  rw [← List.length_eq_zero_iff, length_snapshotItems h, List.length_eq_zero_iff]

/-- Snapshots have distinct keys in increasing order. -/
theorem keyOrdered_snapshotItems (h : snapshotItems values snapshot key fieldName = .ok items) :
    KeyOrdered key items := by
  obtain ⟨-, snapshots, -, hnodup, rfl⟩ := snapshotItems_ok h
  exact keyOrdered_sortBy hnodup

end Items

section Parts

variable {p : Platform}

/-- The snapshot of an approval has its attributes. -/
theorem snapshotApproval_ok {value : Executive.ApprovalRequirement} {item : ApprovalSnapshot} :
    snapshotApproval p value = .ok item ↔
      CleanIdentifier p maxIdentifierLength value.approvalId ∧ CleanText value.description ∧
        ⟨value.approvalId, value.description⟩ = item := by
  simp only [snapshotApproval, Checks.unit_bind_ok, snapshotIdentifier_ok, snapshotText_ok,
    Checks.pure_ok]

/-- The snapshot of an assumption has its attributes. -/
theorem snapshotAssumption_ok {value : Executive.Assumption} {item : AssumptionSnapshot} :
    snapshotAssumption p value = .ok item ↔
      CleanIdentifier p maxIdentifierLength value.assumptionId ∧ CleanText value.description ∧
        ⟨value.assumptionId, value.description⟩ = item := by
  simp only [snapshotAssumption, Checks.unit_bind_ok, snapshotIdentifier_ok, snapshotText_ok,
    Checks.pure_ok]

/-- The snapshot of a precondition has its attributes. -/
theorem snapshotPrecondition_ok {value : Executive.Precondition} {item : PreconditionSnapshot} :
    snapshotPrecondition p value = .ok item ↔
      CleanIdentifier p maxIdentifierLength value.preconditionId ∧ CleanText value.description ∧
        ⟨value.preconditionId, value.description⟩ = item := by
  simp only [snapshotPrecondition, Checks.unit_bind_ok, snapshotIdentifier_ok, snapshotText_ok,
    Checks.pure_ok]

/-- Executive parameters are returned as stored when they are within the limits. -/
theorem executive_copyParameters_ok {parameters copy : Executive.JsonDict} {fieldName : PyStr} :
    Executive.copyParameters parameters fieldName = .ok copy ↔
      Within .standard (.obj parameters) ∧ parameters = copy := by
  simp only [Executive.copyParameters, Checks.bind_ok, Checks.mapError_ok, copyJson_ok, Checks.pure_ok]
  constructor
  · rintro ⟨_, ⟨hwithin, rfl⟩, rfl⟩
    exact ⟨hwithin, rfl⟩
  · rintro ⟨hwithin, rfl⟩
    exact ⟨_, ⟨hwithin, rfl⟩, rfl⟩

/-- Safety parameters are copied when they are within the limits. -/
theorem copyParameters_ok {parameters : Executive.JsonDict} {copy : Json} {fieldName : PyStr} :
    copyParameters parameters fieldName = .ok copy ↔
      Within .standard (.obj parameters) ∧ Json.obj parameters = copy := by
  rw [copyParameters, Checks.mapError_ok, copyJson_ok]

/-- Canonical text exists exactly for documents within the limits. -/
theorem canonicalize_ok {kind : SafetyErrorKind} {limits : JsonLimits} {fieldName text : PyStr}
    {value : Json} : canonicalize kind limits fieldName value = .ok text ↔
      Within limits value ∧ encode value = text := by
  rw [canonicalize, Checks.mapError_ok, canonicalizeJson_ok]

/-- A fingerprint exists exactly for documents within the limits. -/
theorem fingerprintDocument_ok {kind : SafetyFingerprintKind} {document : Json}
    {errorKind : SafetyErrorKind} {fingerprint : SafetyFingerprint} :
    fingerprintDocument p kind document errorKind = .ok fingerprint ↔
      Within fingerprintLimits document ∧
        { kind := kind, digest := p.sha256 (encode document) } = fingerprint := by
  rw [fingerprintDocument, Checks.bind_ok]
  simp only [canonicalize_ok, Checks.unit_bind_ok, SafetyFingerprint.postInit, Checks.require_ok,
    Checks.pure_ok]
  constructor
  · rintro ⟨_, ⟨hwithin, rfl⟩, -, rfl⟩
    exact ⟨hwithin, rfl⟩
  · rintro ⟨hwithin, rfl⟩
    exact ⟨_, ⟨hwithin, rfl⟩, ⟨trivial, trivial, p.sha256_hex _⟩, rfl⟩

/-- The snapshot of a constraint has its attributes and the canonical text of its parameters. -/
theorem snapshotConstraint_ok {value : Executive.Constraint} {item : ConstraintSnapshot} :
    snapshotConstraint p value = .ok item ↔
      Within .standard (.obj value.storedParameters) ∧
        CleanIdentifier p maxIdentifierLength value.constraintId ∧ CleanText value.description ∧
        ⟨value.constraintId, value.description, encode (.obj value.storedParameters)⟩ = item := by
  constructor
  · intro h
    rw [snapshotConstraint, Checks.bind_ok] at h
    obtain ⟨source, hsource, h⟩ := h
    rw [inspected_ok, Executive.Constraint.parameters, executive_copyParameters_ok] at hsource
    obtain ⟨hwithin, rfl⟩ := hsource
    rw [Checks.bind_ok] at h
    obtain ⟨parameters, hparameters, h⟩ := h
    rw [Checks.unit_bind_ok, Checks.unit_bind_ok, Checks.bind_ok] at h
    obtain ⟨hid, htext, canonical, hcanonical, h⟩ := h
    obtain ⟨-, rfl⟩ := copyParameters_ok.mp hparameters
    obtain ⟨-, rfl⟩ := canonicalize_ok.mp hcanonical
    exact ⟨hwithin, snapshotIdentifier_ok.mp hid, snapshotText_ok.mp htext, Checks.pure_ok.mp h⟩
  · rintro ⟨hwithin, hid, htext, rfl⟩
    have hsource : inspected value.parameters = .ok value.storedParameters :=
      inspected_ok.mpr (executive_copyParameters_ok.mpr ⟨hwithin, rfl⟩)
    have hcopy : copyParameters value.storedParameters (py "constraint parameters") =
        .ok (.obj value.storedParameters) := copyParameters_ok.mpr ⟨hwithin, rfl⟩
    have hcanonical : canonicalize .invalidProposal .standard (py "constraint parameters")
        (.obj value.storedParameters) = .ok (encode (.obj value.storedParameters)) :=
      canonicalize_ok.mpr ⟨hwithin, rfl⟩
    rw [snapshotConstraint, hsource, Checks.ok_bind, hcopy, Checks.ok_bind,
      snapshotIdentifier_ok.mpr hid, Checks.ok_bind, snapshotText_ok.mpr htext, Checks.ok_bind,
      hcanonical]
    rfl

/-- What the snapshot of a plan step keeps of the step. -/
structure StepSnapshotOf (p : Platform) (step : Executive.PlanStep) (s : PlanStepSnapshot) :
    Prop where
  /-- The step identifier. -/
  stepId : s.stepId = step.stepId
  capabilityId : s.capabilityId = step.capabilityId
  dependencies : s.dependencies = step.dependencies
  expectedResult : s.expectedResult = step.expectedResult
  failurePolicy : s.failurePolicy = step.failurePolicy
  /-- The canonical text of the parameters. -/
  canonicalParameters : s.canonicalParameters = encode (.obj step.storedParameters)
  /-- The parameters are within the limits. -/
  within : Within .standard (.obj step.storedParameters)
  stepIdClean : CleanIdentifier p maxIdentifierLength step.stepId
  capabilityIdClean : CleanIdentifier p maxIdentifierLength step.capabilityId
  preconditions : snapshotItems step.preconditions (snapshotPrecondition p) (·.preconditionId)
    (py "preconditions") = .ok s.preconditions
  requiredContext : snapshotItems step.requiredContext snapshotContextRequirement
    ContextRequirementSnapshot.key (py "required context") = .ok s.requiredContext
  requiredApprovals : snapshotItems step.requiredApprovals (snapshotApproval p) (·.approvalId)
    (py "required approvals") = .ok s.requiredApprovals
  constraints : snapshotItems step.constraints (snapshotConstraint p) (·.constraintId)
    (py "constraints") = .ok s.constraints

/-- A returned step snapshot keeps the step. -/
theorem snapshotStep_ok {step : Executive.PlanStep} {s : PlanStepSnapshot}
    (h : snapshotStep p step = .ok s) : StepSnapshotOf p step s := by
  rw [snapshotStep, Checks.unit_bind_ok, Checks.unit_bind_ok, Checks.bind_ok] at h
  obtain ⟨hstep, hcapability, source, hsource, h⟩ := h
  rw [Checks.bind_ok] at h
  obtain ⟨parameters, hparameters, h⟩ := h
  rw [Checks.unit_bind_ok] at h
  obtain ⟨-, h⟩ := h
  simp only [Checks.bind_ok, Checks.pure_ok] at h
  obtain ⟨preconditions, hpre, contexts, hcontext, approvals, happrovals, constraints,
    hconstraints, canonical, hcanonical, rfl⟩ := h
  rw [inspected_ok, Executive.PlanStep.parameters, executive_copyParameters_ok] at hsource
  rw [copyParameters_ok] at hparameters
  rw [canonicalize_ok] at hcanonical
  have hcopy : Json.obj step.storedParameters = parameters := by
    rw [hsource.2]
    exact hparameters.2
  exact {
    stepId := rfl
    capabilityId := rfl
    dependencies := rfl
    expectedResult := rfl
    failurePolicy := rfl
    canonicalParameters := by rw [hcopy]; exact hcanonical.2.symm
    within := hsource.1
    stepIdClean := snapshotIdentifier_ok.mp hstep
    capabilityIdClean := snapshotIdentifier_ok.mp hcapability
    preconditions := hpre
    requiredContext := hcontext
    requiredApprovals := happrovals
    constraints := hconstraints }

/-- The identifiers of the preconditions are those of the step. -/
theorem StepSnapshotOf.mem_preconditionIds {step : Executive.PlanStep} {s : PlanStepSnapshot}
    (h : StepSnapshotOf p step s) {id : PyStr} :
    id ∈ s.preconditions.map (·.preconditionId) ↔
      id ∈ step.preconditions.map (·.preconditionId) := by
  refine mem_map_snapshotItems h.preconditions fun value item hitem => ?_
  rw [← (snapshotPrecondition_ok.mp hitem).2.2]

/-- The identifiers of the constraints are those of the step. -/
theorem StepSnapshotOf.mem_constraintIds {step : Executive.PlanStep} {s : PlanStepSnapshot}
    (h : StepSnapshotOf p step s) {id : PyStr} :
    id ∈ s.constraints.map (·.constraintId) ↔ id ∈ step.constraints.map (·.constraintId) := by
  refine mem_map_snapshotItems h.constraints fun value item hitem => ?_
  rw [← (snapshotConstraint_ok.mp hitem).2.2.2]

/-- Steps in dependency order are the given steps, each once. -/
theorem topologicalSteps_perm {steps ordered : List PlanStepSnapshot}
    (h : topologicalSteps steps = .ok ordered) :
    ordered.Perm steps ∧ (steps.map (·.stepId)).Nodup := by
  rw [topologicalSteps, Checks.require_bind_ok, Checks.require_bind_ok] at h
  obtain ⟨hnodup, -, h⟩ := h
  split at h
  · cases h
  · rename_i order horder
    rw [Checks.pure_ok] at h
    have hkeys : (steps.map fun step => (step.stepId, step.dependencies)).map Prod.fst =
        steps.map (·.stepId) := by
      rw [List.map_map]
      rfl
    have hperm : order.Perm (steps.map (·.stepId)) := by
      rw [← hkeys]
      exact DependencyRounds.rounds_perm (by rw [hkeys]; exact hnodup) horder
    have hfound : (steps.map (·.stepId)).filterMap
        (fun id => steps.find? fun step => step.stepId = id) = steps := by
      have hsome : ∀ step ∈ steps,
          (steps.find? fun other => other.stepId = step.stepId) = some step :=
        fun step hstep => find_of_nodup hnodup hstep
      rw [List.filterMap_map, Function.comp_def, List.filterMap_congr hsome, List.filterMap_some]
    rw [← h]
    refine ⟨(hperm.filterMap _).trans ?_, hnodup⟩
    rw [hfound]

/-- The order of the steps is the order by rounds of their identifiers. -/
theorem topologicalSteps_order {steps ordered : List PlanStepSnapshot}
    (h : topologicalSteps steps = .ok ordered) :
    DependencyRounds.rounds steps.length
      (steps.map fun step => (step.stepId, step.dependencies)) =
        some (ordered.map (·.stepId)) := by
  obtain ⟨hperm, hnodup⟩ := topologicalSteps_perm h
  rw [topologicalSteps, Checks.require_bind_ok, Checks.require_bind_ok] at h
  obtain ⟨-, -, h⟩ := h
  split at h
  · cases h
  · rename_i order horder
    rw [Checks.pure_ok] at h
    rw [horder, Option.some.injEq, ← h, List.map_filterMap]
    have hkeys : (steps.map fun step => (step.stepId, step.dependencies)).map Prod.fst =
        steps.map (·.stepId) := by
      rw [List.map_map]
      rfl
    have horderPerm : order.Perm (steps.map (·.stepId)) := by
      rw [← hkeys]
      exact DependencyRounds.rounds_perm (by rw [hkeys]; exact hnodup) horder
    have hfound : ∀ id ∈ order,
        ((steps.find? fun step => step.stepId = id).map (·.stepId)) = some id := by
      intro id hid
      obtain ⟨step, hstep, rfl⟩ := List.mem_map.mp (horderPerm.subset hid)
      rw [find_of_nodup hnodup hstep]
      rfl
    rw [List.filterMap_congr hfound, List.filterMap_some]

end Parts

section Proposal

variable {p : Platform} {proposal : Executive.ExecutiveDecision}

/-- The steps of the proposed plan. -/
def planSteps (proposal : Executive.ExecutiveDecision) : List Executive.PlanStep :=
  match proposal.proposedPlan with
  | none => []
  | some plan => plan.steps

/-- Step snapshots in dependency order are the snapshots of the plan's steps. -/
theorem snapshotSteps_ok {steps : List PlanStepSnapshot} (h : snapshotSteps p proposal = .ok steps) :
    planSteps proposal ≠ [] ∧ (planSteps proposal).length ≤ maxProposalSteps ∧
      ∃ snapshots, (planSteps proposal).mapM (snapshotStep p) = .ok snapshots ∧
        topologicalSteps snapshots = .ok steps := by
  rw [snapshotSteps] at h
  split at h
  · cases h
  · rename_i plan hplan
    rw [Checks.require_bind_ok, Checks.bind_ok] at h
    rw [planSteps, hplan]
    exact ⟨h.1.1, h.1.2, h.2⟩

/-- The parts of a proposal are returned when each part is. -/
theorem snapshotParts_ok {parts : ProposalParts} :
    snapshotParts p proposal = .ok parts ↔
      checkDecisionType proposal = .ok () ∧ snapshotSteps p proposal = .ok parts.steps ∧
        snapshotContext proposal = .ok parts.contextReferences ∧
        snapshotItems proposal.assumptions (snapshotAssumption p) (·.assumptionId)
          (py "assumptions") = .ok parts.assumptions ∧
        snapshotItems proposal.requiredApprovals (snapshotApproval p) (·.approvalId)
          (py "decision approvals") = .ok parts.approvals ∧
        snapshotItems proposal.constraints (snapshotConstraint p) (·.constraintId)
          (py "decision constraints") = .ok parts.constraints := by
  rw [snapshotParts, Checks.unit_bind_ok]
  refine and_congr_right fun _ => ?_
  simp only [Checks.bind_ok, Checks.pure_ok]
  constructor
  · rintro ⟨_, hsteps, _, hcontext, _, hassumptions, _, happrovals, _, hconstraints, rfl⟩
    exact ⟨hsteps, hcontext, hassumptions, happrovals, hconstraints⟩
  · rintro ⟨hsteps, hcontext, hassumptions, happrovals, hconstraints⟩
    exact ⟨_, hsteps, _, hcontext, _, hassumptions, _, happrovals, _, hconstraints, rfl⟩

/-- The snapshot of a proposal with the given parts. -/
def snapshotOf (p : Platform) (proposal : Executive.ExecutiveDecision) (parts : ProposalParts) :
    SafetyProposalSnapshot where
  sourceDecisionId := proposal.decisionId
  sourceRequestId := proposal.requestId
  ownerSubject := proposal.ownerSubject
  sourceDecisionFingerprint := proposal.decisionFingerprint
  contextSnapshotVersion := contextVersionText proposal
  steps := parts.steps
  contextReferences := parts.contextReferences
  assumptions := parts.assumptions
  fingerprint := {
    kind := .proposal
    digest := p.sha256 (encode (proposalDocument proposal parts)) }

/-- What an accepted proposal establishes about its parts. -/
structure Accepted (p : Platform) (requireSourceIntegrity : Bool)
    (proposal : Executive.ExecutiveDecision) (parts : ProposalParts) : Prop where
  valid : snapshotParts p proposal = .ok parts
  /-- The capabilities are those of the steps. -/
  capabilities : checkCapabilities p proposal.requiredCapabilities parts.steps = .ok ()
  /-- The decision repeats what its steps declare. -/
  agreement : checkAgreement proposal.decisionType parts = .ok ()
  /-- The provenance is valid. -/
  provenance : checkProvenance proposal = .ok ()
  /-- The rebuilt decision agrees. -/
  integrity : checkSourceIntegrity p requireSourceIntegrity proposal = .ok ()
  /-- The document can be digested. -/
  within : Within fingerprintLimits (proposalDocument proposal parts)

/-- A proposal is accepted when its parts are, and its snapshot is that of the parts. -/
theorem snapshotProposal_ok {requireSourceIntegrity : Bool} {snapshot : SafetyProposalSnapshot} :
    snapshotProposal p requireSourceIntegrity proposal = .ok snapshot ↔
      ∃ parts, Accepted p requireSourceIntegrity proposal parts ∧
        snapshotOf p proposal parts = snapshot := by
  rw [snapshotProposal, Checks.bind_ok]
  refine exists_congr fun parts => ?_
  rw [Checks.unit_bind_ok, Checks.unit_bind_ok, Checks.unit_bind_ok, Checks.unit_bind_ok]
  simp only [Checks.bind_ok, fingerprintDocument_ok, Checks.pure_ok]
  constructor
  · rintro ⟨hparts, hcapabilities, hagreement, hprovenance, hintegrity, _, ⟨hwithin, rfl⟩, rfl⟩
    exact ⟨⟨hparts, hcapabilities, hagreement, hprovenance, hintegrity, hwithin⟩, rfl⟩
  · rintro ⟨h, rfl⟩
    exact ⟨h.valid, h.capabilities, h.agreement, h.provenance, h.integrity, _, ⟨h.within, rfl⟩, rfl⟩

namespace Accepted

variable {requireSourceIntegrity : Bool} {parts : ProposalParts}

/-- The step snapshots of an accepted proposal. -/
theorem steps (h : Accepted p requireSourceIntegrity proposal parts) :
    snapshotSteps p proposal = .ok parts.steps :=
  (snapshotParts_ok.mp h.valid).2.1

/-- The assumptions of an accepted proposal. -/
theorem assumptions (h : Accepted p requireSourceIntegrity proposal parts) :
    snapshotItems proposal.assumptions (snapshotAssumption p) (·.assumptionId)
      (py "assumptions") = .ok parts.assumptions :=
  (snapshotParts_ok.mp h.valid).2.2.2.1

/-- Every step of the plan has a snapshot. -/
theorem exists_snapshot (h : Accepted p requireSourceIntegrity proposal parts)
    {step : Executive.PlanStep} (hstep : step ∈ planSteps proposal) :
    ∃ s ∈ parts.steps, StepSnapshotOf p step s := by
  obtain ⟨-, -, snapshots, hsnapshots, hsteps⟩ := snapshotSteps_ok h.steps
  obtain ⟨s, hs⟩ := Checks.exists_mapM_ok.mp ⟨snapshots, hsnapshots⟩ step hstep
  refine ⟨s, ?_, snapshotStep_ok hs⟩
  rw [(topologicalSteps_perm hsteps).1.mem_iff, Checks.mem_of_mapM_ok hsnapshots]
  exact ⟨step, hstep, hs⟩

/-- Every step snapshot is one of a step of the plan. -/
theorem exists_step (h : Accepted p requireSourceIntegrity proposal parts)
    {s : PlanStepSnapshot} (hs : s ∈ parts.steps) :
    ∃ step ∈ planSteps proposal, StepSnapshotOf p step s := by
  obtain ⟨-, -, snapshots, hsnapshots, hsteps⟩ := snapshotSteps_ok h.steps
  rw [(topologicalSteps_perm hsteps).1.mem_iff, Checks.mem_of_mapM_ok hsnapshots] at hs
  obtain ⟨step, hstep, hok⟩ := hs
  exact ⟨step, hstep, snapshotStep_ok hok⟩

/-- The identifiers of the step snapshots are those of the plan's steps. -/
theorem stepIds_perm (h : Accepted p requireSourceIntegrity proposal parts) :
    (parts.steps.map (·.stepId)).Perm ((planSteps proposal).map (·.stepId)) := by
  obtain ⟨-, -, snapshots, hsnapshots, hsteps⟩ := snapshotSteps_ok h.steps
  rw [← Checks.map_of_mapM_ok hsnapshots (·.stepId) fun step s hs => (snapshotStep_ok hs).stepId]
  exact (topologicalSteps_perm hsteps).1.map (·.stepId)

/-- The step snapshots have distinct identifiers. -/
theorem stepIds_nodup (h : Accepted p requireSourceIntegrity proposal parts) :
    (parts.steps.map (·.stepId)).Nodup := by
  obtain ⟨-, -, snapshots, -, hsteps⟩ := snapshotSteps_ok h.steps
  obtain ⟨hperm, hnodup⟩ := topologicalSteps_perm hsteps
  exact (hperm.map (·.stepId)).nodup_iff.mpr hnodup

/-- There is a step. -/
theorem steps_ne_nil (h : Accepted p requireSourceIntegrity proposal parts) :
    parts.steps ≠ [] := by
  have hperm := h.stepIds_perm.length_eq
  have hne := (snapshotSteps_ok h.steps).1
  intro hnil
  rw [hnil] at hperm
  exact hne (List.length_eq_zero_iff.mp (by simpa using hperm.symm))

/-- There are not too many steps. -/
theorem steps_length (h : Accepted p requireSourceIntegrity proposal parts) :
    parts.steps.length ≤ maxProposalSteps := by
  have hperm := h.stepIds_perm.length_eq
  have hbound := (snapshotSteps_ok h.steps).2.1
  rw [List.length_map, List.length_map] at hperm
  omega

end Accepted

/-- What valid provenance establishes. -/
structure ValidProvenance (proposal : Executive.ExecutiveDecision) : Prop where
  /-- The decision fingerprint is one. -/
  decisionKind : proposal.decisionFingerprint.kind = .decision
  /-- The digest of the decision is one. -/
  decisionDigest : IsHexDigest proposal.decisionFingerprint.digest
  decisionAlgorithm : proposal.decisionFingerprint.algorithm = py "sha256"
  decisionSchema : proposal.decisionFingerprint.schemaVersion = 1
  /-- The decision identifier is text. -/
  decisionId : CleanText proposal.decisionId
  /-- The request identifier is text. -/
  requestId : CleanText proposal.requestId
  ownerSubject : CleanText proposal.ownerSubject

/-- Checked provenance is valid. -/
theorem validProvenance (h : checkProvenance proposal = .ok ()) : ValidProvenance proposal := by
  simp only [checkProvenance, checkFingerprint, Checks.unit_bind_ok, Checks.require_ok,
    snapshotText_ok] at h
  obtain ⟨⟨hkind, hversion, hdigest⟩, -, -, -, hid, -, hrequest, howner, -⟩ := h
  exact ⟨hkind, hdigest, hversion.1, hversion.2, hid, hrequest, howner⟩

end Proposal

section Policy

variable {p : Platform}

/-- A built policy has its rules in the order of distinct capabilities. -/
theorem SafetyPolicy.capabilityIds_nodup (policy : SafetyPolicy p) :
    (policy.capabilityRules.map (·.capabilityId)).Nodup := by
  obtain ⟨rules, hbuilt⟩ := policy.built
  rw [SafetyPolicyContent.init, Checks.require_bind_ok, Checks.require_bind_ok] at hbuilt
  obtain ⟨-, hnodup, hrest⟩ := hbuilt
  rw [Checks.require_bind_ok, Checks.bind_ok] at hrest
  obtain ⟨-, fingerprint, -, hcontent⟩ := hrest
  rw [Checks.pure_ok] at hcontent
  rw [← hcontent]
  exact hnodup

/-- A built policy has the hazard rules of version 1, in the order of their classes. -/
theorem SafetyPolicy.hazardRules_perm (policy : SafetyPolicy p) :
    policy.hazardRules.Perm v1HazardRules := by
  obtain ⟨rules, hbuilt⟩ := policy.built
  rw [SafetyPolicyContent.init, Checks.require_bind_ok, Checks.require_bind_ok] at hbuilt
  obtain ⟨-, -, hrest⟩ := hbuilt
  rw [Checks.require_bind_ok, Checks.bind_ok] at hrest
  obtain ⟨-, fingerprint, -, hcontent⟩ := hrest
  rw [Checks.pure_ok] at hcontent
  rw [← hcontent]
  exact sortBy_perm _ _

/-- The fingerprint of a built policy is that of its document. -/
theorem SafetyPolicy.fingerprint_eq (policy : SafetyPolicy p) :
    policy.version = safetyPolicyVersion ∧
      policy.hazardRules = sortBy (fun rule => rule.hazardClass.value) v1HazardRules ∧
      policy.fingerprint = {
        kind := .policy
        digest := p.sha256
          (encode (SafetyPolicyContent.document policy.capabilityRules policy.hazardRules)) } := by
  obtain ⟨rules, hbuilt⟩ := policy.built
  rw [SafetyPolicyContent.init, Checks.require_bind_ok, Checks.require_bind_ok] at hbuilt
  obtain ⟨-, -, hrest⟩ := hbuilt
  rw [Checks.require_bind_ok, Checks.bind_ok] at hrest
  obtain ⟨-, fingerprint, hfingerprint, hcontent⟩ := hrest
  obtain ⟨-, rfl⟩ := fingerprintDocument_ok.mp hfingerprint
  rw [Checks.pure_ok] at hcontent
  rw [← hcontent]
  exact ⟨rfl, rfl, rfl⟩

/-- The hazard rules of version 1 are about distinct classes. -/
theorem v1_nodup : (v1HazardRules.map (·.hazardClass)).Nodup := by decide

/-- A hazard rule of version 1 follows its class. -/
theorem v1_facts : ∀ rule ∈ v1HazardRules,
    rule.disposition = rule.hazardClass.minimumDisposition ∧
      rule.reason = rule.hazardClass.baseReason ∧
      (rule.approvalClass = none ↔ rule.disposition ≠ .externalApprovalRequired) ∧
      (rule.prerequisites = [] ↔ rule.disposition ≠ .deferred) := by
  decide

/-- Every hazard class has a rule of version 1. -/
theorem v1_complete (hazardClass : HazardClass) :
    ∃ rule ∈ v1HazardRules, rule.hazardClass = hazardClass := by
  cases hazardClass <;> decide

/-- The hazard rule of a class is the rule of version 1 about it. -/
theorem hazardRule_ok {policy : SafetyPolicy p} {hazardClass : HazardClass} {rule : HazardRule} :
    policy.hazardRule hazardClass = .ok rule ↔
      rule ∈ v1HazardRules ∧ rule.hazardClass = hazardClass := by
  have hnodup : (policy.hazardRules.map (·.hazardClass)).Nodup :=
    (policy.hazardRules_perm.map (·.hazardClass)).nodup_iff.mpr v1_nodup
  have hfind : (policy.hazardRules.find? fun other => other.hazardClass = hazardClass) =
      some rule ↔ rule ∈ policy.hazardRules ∧ rule.hazardClass = hazardClass :=
    find_eq_some_iff hnodup
  rw [policy.hazardRules_perm.mem_iff] at hfind
  rw [← hfind, SafetyPolicy.hazardRule]
  cases policy.hazardRules.find? fun other => other.hazardClass = hazardClass <;> simp

/-- The capability rule of a clean identifier is the rule about it, if there is one. -/
theorem capabilityRule_ok {policy : SafetyPolicy p} {capabilityId : PyStr}
    {rule : Option (CapabilitySafetyRule p)} :
    policy.capabilityRule capabilityId = .ok rule ↔
      CleanIdentifier p maxIdentifierLength capabilityId ∧
        (policy.capabilityRules.find? fun other => other.capabilityId = capabilityId) = rule := by
  rw [SafetyPolicy.capabilityRule, Checks.unit_bind_ok, validateIdentifier_ok, Checks.pure_ok]

end Policy
end Safety
end AyyoHumanoid
