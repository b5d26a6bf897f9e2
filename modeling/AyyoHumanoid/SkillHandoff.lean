import AyyoHumanoid.SafetyOutcomes
import AyyoHumanoid.SkillBinding

/-!
# What a binding establishes

A binding either carries no invocation and names its blockers, or it carries one
invocation of the registered skill for the selected step, built from a safety
decision that a fresh evaluation of the proposal confirms.
-/

namespace AyyoHumanoid
namespace Skills

open PyText JsonText PyCollections Contracts
open Executive (ContextReference JsonDict PlanStep)
open Safety (SafetyDecision SafetyPolicy SafetyStepDecision)

section Members

/-- A blocker is listed. -/
theorem BindingReason.mem_members (reason : BindingReason) : reason ∈ BindingReason.members := by
  cases reason <;> decide

/-- Ordering keeps the blockers. -/
theorem mem_orderedReasons {reasons : List BindingReason} {reason : BindingReason} :
    reason ∈ orderedReasons reasons ↔ reason ∈ reasons := by
  rw [orderedReasons, List.mem_filter]
  simp [BindingReason.mem_members]

end Members

section Selections

/-- A name in a record. -/
theorem slim_name (name : World.Name) : Slim (.str name.text) :=
  Slim.str (name.canonical.2.trans (by decide))
    (utf8Encodable_of_printable (Artifacts.printable_identifier name))

/-- A version in a record. -/
theorem slim_version (version : SemanticVersion) : Slim (.str version.value) :=
  Slim.str (version.clean.bounded.trans (by decide)) version.clean.encodable

/-- A fingerprint in a record. -/
theorem slim_fingerprint (kind : SkillFingerprintKind) (digest : World.Digest) :
    Slim (.str (kind.text digest)) := by
  have hkind : kind.value.length ≤ 10 ∧ kind.value.all isPrintable = true := by
    cases kind <;> decide
  have htag : (py ":sha256:").length = 8 ∧ (py ":sha256:").all isPrintable = true := by decide
  have hdigest : digest.text.length = 64 := digest.hex.1
  refine Slim.str ?_ (utf8Encodable_of_printable ?_)
  · rw [SkillFingerprintKind.text, List.length_append, List.length_append, maxSlimCharacters]
    omega
  · rw [SkillFingerprintKind.text, List.all_append, List.all_append, hkind.2, htag.2,
      Artifacts.printable_digest]
    rfl

/-- The document of a selection is within the limits. -/
theorem SkillSelection.allowed (selection : SkillSelection) : Allowed selection.document := by
  refine allowed_record ?_ ?_ ?_
  · simp only [List.length_cons, List.length_nil]
    decide
  · simp only [List.map_cons, List.map_nil]
    decide
  · simp only [List.map_cons, List.map_nil, List.forall_mem_cons]
    exact ⟨slim_name _, slim_fingerprint _ _, slim_version _,
      Slim.str (by decide) (by decide), slim_fingerprint _ _, slim_name _, slim_version _,
      slim_name _, fun value hvalue => absurd hvalue List.not_mem_nil⟩

/-- The constructor accepts every selection unchanged. -/
theorem SkillSelection.init_self (selection : SkillSelection) :
    selection.init = .ok selection := by
  rw [init, Checks.unit_bind_ok, checkDocument_ok, Checks.pure_ok]
  exact ⟨selection.allowed, rfl⟩

end Selections

section Construction

variable {p : Platform}

/-- The constructor of an invocation keeps its arguments, with the context references in order. -/
theorem InvocationContent.init_ok {arguments invocation : InvocationContent}
    (h : arguments.init p = .ok invocation) : ∃ references,
      orderContext arguments.skillDefinition arguments.contextReferences = .ok references ∧
      invocation = { arguments with contextReferences := references } ∧
      Pins p arguments.selection arguments.skillDefinition ∧
      validateParameters arguments.skillDefinition.inputSchema.schema
        (.obj arguments.parameters) = .ok arguments.parameters ∧
      invocation.checkApprovals = .ok () ∧ invocation.checkSources = .ok () ∧
      Allowed (invocation.document p) := by
  rw [init, Checks.require_bind_ok, Checks.bind_ok] at h
  obtain ⟨hpins, parameters, hparameters, h⟩ := h
  rw [Checks.mapError_ok] at hparameters
  obtain ⟨-, -, -, hsame, -⟩ :=
    (validateParameters_ok arguments.skillDefinition.inputSchema.built).mp hparameters
  rw [Checks.bind_ok] at h
  obtain ⟨references, hreferences, h⟩ := h
  simp only [Checks.unit_bind_ok, Checks.pure_ok, checkDocument_ok] at h
  obtain ⟨happrovals, hsources, hdocument, rfl⟩ := h
  rw [Json.obj.injEq] at hsame
  subst hsame
  exact ⟨references, hreferences, rfl, hpins, hparameters, happrovals, hsources, hdocument⟩

/-- Ordered context references are ordered already. -/
theorem InvocationContent.orderContext_self {skill : SkillDefinition}
    {references ordered : List ContextReference} (h : orderContext skill references = .ok ordered) :
    orderContext skill ordered = .ok ordered := by
  rw [orderContext, Checks.bind_ok] at h ⊢
  obtain ⟨sorted, hsorted, h⟩ := h
  rw [Checks.require_bind_ok, Checks.require_bind_ok, Checks.pure_ok] at h
  obtain ⟨hrequired, hcontext, rfl⟩ := h
  refine ⟨sorted, orderedUnique_self hsorted, ?_⟩
  rw [Checks.require_bind_ok, Checks.require_bind_ok, Checks.pure_ok]
  exact ⟨hrequired, hcontext, rfl⟩

/-- What the constructor of an invocation returns it accepts unchanged. -/
theorem InvocationContent.init_self {arguments invocation : InvocationContent}
    (h : arguments.init p = .ok invocation) : invocation.init p = .ok invocation := by
  obtain ⟨references, hreferences, rfl, hpins, hparameters, happrovals, hsources, hdocument⟩ :=
    init_ok h
  rw [init, Checks.require_bind_ok, Checks.bind_ok]
  refine ⟨hpins, arguments.parameters, Checks.mapError_ok.mpr hparameters, ?_⟩
  rw [Checks.bind_ok]
  refine ⟨references, orderContext_self hreferences, ?_⟩
  simp only [Checks.unit_bind_ok, Checks.pure_ok, checkDocument_ok]
  exact ⟨happrovals, hsources, hdocument, trivial⟩

/-- The constructor accepts the attributes of an invocation unchanged. -/
theorem SkillInvocation.init_self (invocation : SkillInvocation p) :
    invocation.toInvocationContent.init p = .ok invocation.toInvocationContent :=
  invocation.constructed.elim fun _ h => InvocationContent.init_self h

/-- The selection of an invocation pins its skill. -/
theorem SkillInvocation.pins (invocation : SkillInvocation p) :
    InvocationContent.Pins p invocation.selection invocation.skillDefinition := by
  obtain ⟨references, -, -, hpins, -⟩ := InvocationContent.init_ok invocation.init_self
  exact hpins

/-- The document of an invocation is within the limits. -/
theorem SkillInvocation.allowed (invocation : SkillInvocation p) :
    Allowed (invocation.document p) := by
  obtain ⟨references, -, -, -, -, -, -, hallowed⟩ := InvocationContent.init_ok invocation.init_self
  exact hallowed

/-- Constructing an invocation again gives the invocation. -/
theorem SkillInvocation.build_self (invocation : SkillInvocation p) :
    invocation.toInvocationContent.build p = .ok invocation :=
  Checks.constructFrom_ok.mpr ⟨invocation.toInvocationContent, invocation.init_self, rfl⟩

/-- An invocation equals itself. -/
theorem InvocationContent.same_self (p : Platform) (invocation : InvocationContent) :
    invocation.same p invocation = true := by
  rw [same, SkillContent.same_self]
  simp

/-- A built invocation has the attributes that the constructor returns. -/
theorem build_ok {arguments : InvocationContent} {invocation : SkillInvocation p}
    (h : arguments.build p = .ok invocation) :
    arguments.init p = .ok invocation.toInvocationContent := by
  rw [InvocationContent.build, Checks.constructFrom_ok] at h
  obtain ⟨content, hinit, rfl⟩ := h
  exact hinit

/-- A made binding has its fields. -/
theorem makeBinding_ok {fields : BindingFields p} {result : SkillBindingResult p} :
    makeBinding fields = .ok result ↔ result.toBindingFields = fields := by
  rw [makeBinding, Checks.construct_ok]
  constructor
  · rintro ⟨-, rfl⟩
    rfl
  · rintro rfl
    exact ⟨result.checked, rfl⟩

end Construction

section Outcomes

variable {p : Platform} {policy : SafetyPolicy p} {registry : SkillRegistry p}
  {proposal : Executive.ExecutiveDecision} {decision : SafetyDecision} {selection : SkillSelection}
  {skill : SkillDefinition} {result : SkillBindingResult p}

/-- The step that a selection names, its safety decision and the skill agree. -/
structure StepMatches (skill : SkillDefinition) (selection : SkillSelection)
    (step : PlanStep) (safetyStep : SafetyStepDecision) : Prop where
  /-- The selection names the step. -/
  stepId : step.stepId = selection.sourceStepId.text
  /-- The safety decision is about the step. -/
  safetyStepId : safetyStep.stepId = selection.sourceStepId.text
  /-- The step uses the selected capability. -/
  capability : step.capabilityId = selection.capabilityId.text
  /-- The skill serves the capability. -/
  served : selection.capabilityId ∈ skill.capabilityIds
  available : skill.availability = .available
  hazard : safetyStep.hazardClass = skill.safetyClassification
  /-- The step expects the result of the skill. -/
  result : step.expectedResult = skill.expectedResult
  /-- The step runs in the context of the skill. -/
  context : step.requiredContext = skill.requiredContext

/-- What a binding with an invocation rests on. -/
structure Bound (policy : SafetyPolicy p) (registry : SkillRegistry p)
    (proposal : Executive.ExecutiveDecision) (decision : SafetyDecision)
    (selection : SkillSelection) (result : SkillBindingResult p) (invocation : SkillInvocation p)
    (step : PlanStep) (safetyStep : SafetyStepDecision) : Prop where
  /-- The binding carries the invocation. -/
  carried : result.invocation = some invocation
  /-- The binding is about the selection. -/
  selected : result.selection = selection ∧ invocation.selection = selection
  /-- The binding is about the safety decision. -/
  reviewed : result.sourceSafetyDecisionId = decision.decisionId
  /-- A fresh evaluation of the proposal gives the safety decision. -/
  evaluated : Safety.evaluate policy proposal = .ok decision
  /-- The safety decision neither blocks nor defers. -/
  permitted : decision.disposition ≠ .blocked ∧ decision.disposition ≠ .deferred
  /-- The binding waits for approval exactly when the safety decision does. -/
  status : result.status = if decision.disposition = .externalApprovalRequired then
    .externalApprovalRequired else .eligibleForRuntimeHandoff
  /-- The invocation carries the approvals of the safety decision. -/
  approvals : invocation.requiredApprovals = decision.requiredApprovals
  /-- The skill is the registered one. -/
  registered : registry.resolve selection.skillId = some invocation.skillDefinition
  current : SelectionCurrent registry selection invocation.skillDefinition
  /-- The step is one of the proposal. -/
  step_mem : ∃ plan, proposal.proposedPlan = some plan ∧ step ∈ plan.steps
  safetyStep_mem : safetyStep ∈ decision.stepDecisions
  /-- The step, its safety decision and the skill agree. -/
  agrees : StepMatches invocation.skillDefinition selection step safetyStep
  /-- The parameters of the invocation are those of the step. -/
  parameters : step.parameters = .ok invocation.parameters
  conforms : Conforms invocation.skillDefinition.inputSchema.schema (.obj invocation.parameters)

/-- A binding without an invocation. -/
structure Refused (decision : SafetyDecision) (selection : SkillSelection)
    (result : SkillBindingResult p) : Prop where
  /-- The binding is ineligible. -/
  status : result.status = .ineligible
  /-- There is no invocation. -/
  invocation : result.invocation = none
  /-- The binding is about the selection. -/
  selected : result.selection = selection
  /-- The binding is about the safety decision. -/
  reviewed : result.sourceSafetyDecisionId = decision.decisionId
  /-- The binding does not wait for approval. -/
  unapproved : .safetyApprovalRequired ∉ result.reasons

/-- An ineligible binding carries no invocation. -/
theorem refused_of_ineligible {reasons : List BindingReason}
    (hreasons : .safetyApprovalRequired ∉ reasons)
    (h : ineligible selection decision reasons = .ok result) :
    Refused decision selection result := by
  rw [ineligible, Checks.mapError_ok, makeBinding_ok] at h
  refine ⟨by rw [h], by rw [h], by rw [h], by rw [h], ?_⟩
  rw [h, mem_orderedReasons]
  exact hreasons

/-- No blocker of a step waits for approval. -/
theorem approval_notMem_blockers {step : Option PlanStep} {safetyStep : Option SafetyStepDecision}
    {parameters : Option JsonDict} :
    .safetyApprovalRequired ∉ blockers skill selection decision step safetyStep parameters := by
  have hstep : .safetyApprovalRequired ∉ stepBlockers skill parameters step := by
    cases step with
    | none => simp [stepBlockers]
    | some step => simp [stepBlockers]
  have hclass : .safetyApprovalRequired ∉ classBlockers skill safetyStep := by
    cases safetyStep with
    | none => simp [classBlockers]
    | some safetyStep => simp [classBlockers]
  simp [blockers, hstep, hclass]

/-- No blocker means that the step, its safety decision and the skill agree. -/
theorem matches_of_blockers {step : Option PlanStep} {safetyStep : Option SafetyStepDecision}
    {parameters : Option JsonDict}
    (hstep : ∀ item ∈ step, item.stepId = selection.sourceStepId.text)
    (hsafety : ∀ item ∈ safetyStep, item.stepId = selection.sourceStepId.text)
    (h : blockers skill selection decision step safetyStep parameters = []) :
    ∃ item safetyItem, step = some item ∧ safetyStep = some safetyItem ∧
      StepMatches skill selection item safetyItem ∧ parameters ≠ none := by
  simp only [blockers, List.append_eq_nil_iff, ite_eq_left_iff, List.cons_ne_nil,
    imp_false, not_not] at h
  obtain ⟨⟨⟨⟨⟨⟨⟨item, hitem, hcapability⟩, hsome⟩, hserved⟩, havailable⟩, hblockers⟩, hclass⟩, -⟩ := h
  obtain ⟨safetyItem, hsafetyItem⟩ := Option.isSome_iff_exists.mp hsome
  rw [Option.mem_def] at hitem
  subst hitem hsafetyItem
  simp only [stepBlockers, classBlockers, List.append_eq_nil_iff, ite_eq_right_iff,
    List.cons_ne_nil, imp_false, not_not] at hblockers hclass
  exact ⟨item, safetyItem, rfl, rfl,
    { stepId := hstep item rfl
      safetyStepId := hsafety safetyItem rfl
      capability := hcapability
      served := hserved
      available := havailable
      hazard := hclass
      result := hblockers.2
      context := hblockers.1.2 },
    hblockers.1.1⟩

/-- The parameters of a selected step conform to the skill. -/
theorem stepParameters_some {step : PlanStep} {parameters : JsonDict}
    (h : stepParameters skill (some step) = .ok (some parameters)) :
    step.parameters = .ok parameters ∧
      Conforms skill.inputSchema.schema (.obj parameters) := by
  rw [stepParameters, Checks.bind_ok] at h
  obtain ⟨source, hsource, h⟩ := h
  rw [Checks.mapError_ok] at hsource
  split at h
  · next copied hvalid =>
    obtain ⟨-, -, -, hsame, hfits⟩ := (validateParameters_ok skill.inputSchema.built).mp hvalid
    rw [Checks.pure_ok, Option.some.injEq] at h
    rw [Json.obj.injEq] at hsame
    subst h hsame
    exact ⟨hsource, hfits⟩
  · cases h
  · cases h

/-- The end of a binding carries the invocation it builds. -/
theorem bound_of_bindInvocation {step : PlanStep} {safetyStep : SafetyStepDecision}
    {references : List ContextReference} {parameters : JsonDict}
    (hevaluated : Safety.evaluate policy proposal = .ok decision)
    (hpermitted : decision.disposition ≠ .blocked ∧ decision.disposition ≠ .deferred)
    (hregistered : registry.resolve selection.skillId = some skill)
    (hcurrent : SelectionCurrent registry selection skill)
    (hstep : ∃ plan, proposal.proposedPlan = some plan ∧ step ∈ plan.steps)
    (hsafetyStep : safetyStep ∈ decision.stepDecisions)
    (hmatches : StepMatches skill selection step safetyStep)
    (hparameters : step.parameters = .ok parameters ∧
      Conforms skill.inputSchema.schema (.obj parameters))
    (h : bindInvocation skill selection decision references parameters = .ok result) :
    ∃ invocation, Bound policy registry proposal decision selection result invocation step
      safetyStep := by
  rw [bindInvocation, Checks.bind_ok] at h
  obtain ⟨invocation, hbuild, h⟩ := h
  rw [Checks.mapError_ok] at hbuild h
  rw [makeBinding_ok] at h
  obtain ⟨ordered, -, hcontent, -⟩ := InvocationContent.init_ok (build_ok hbuild)
  refine ⟨invocation, ?_⟩
  exact {
    carried := by rw [h]
    selected := ⟨by rw [h], by rw [hcontent]⟩
    reviewed := by rw [h]
    evaluated := hevaluated
    permitted := hpermitted
    status := by
      rw [h]
      by_cases happroval : decision.disposition = .externalApprovalRequired <;> simp [happroval]
    approvals := by rw [hcontent]
    registered := by rw [hcontent]; exact hregistered
    current := by rw [hcontent]; exact hcurrent
    step_mem := hstep
    safetyStep_mem := hsafetyStep
    agrees := by rw [hcontent]; exact hmatches
    parameters := by rw [hcontent]; exact hparameters.1
    conforms := by rw [hcontent]; exact hparameters.2 }

/-- A binding of a current selection names its blockers or carries an invocation. -/
theorem bindStep_ok (hevaluated : Safety.evaluate policy proposal = .ok decision)
    (hregistered : registry.resolve selection.skillId = some skill)
    (hcurrent : SelectionCurrent registry selection skill)
    (h : bindStep skill proposal decision selection = .ok result) :
    Refused decision selection result ∨ ∃ invocation step safetyStep,
      Bound policy registry proposal decision selection result invocation step safetyStep := by
  unfold bindStep at h
  split at h
  · exact Or.inl (refused_of_ineligible (by decide) h)
  next hblocked =>
  split at h
  · exact Or.inl (refused_of_ineligible (by decide) h)
  next hdeferred =>
  split at h
  · cases h
  next plan hplan =>
  rw [Checks.bind_ok] at h
  obtain ⟨parameters, hparameters, h⟩ := h
  dsimp only at h
  split at h
  · exact Or.inl (refused_of_ineligible approval_notMem_blockers h)
  next hblockers =>
  split at h
  · exact Or.inl (refused_of_ineligible (by decide) h)
  rw [not_not] at hblockers
  have hnamed : ∀ item ∈ plan.steps.find? fun item =>
      item.stepId = selection.sourceStepId.text, item.stepId = selection.sourceStepId.text := by
    intro item hitem
    simpa using List.find?_some hitem
  have hdecided : ∀ item ∈ decision.stepDecisions.find? fun item =>
      item.stepId = selection.sourceStepId.text, item.stepId = selection.sourceStepId.text := by
    intro item hitem
    simpa using List.find?_some hitem
  obtain ⟨step, safetyStep, hstep, hsafetyStep, hmatches, hsome⟩ :=
    matches_of_blockers hnamed hdecided hblockers
  obtain ⟨values, rfl⟩ := Option.ne_none_iff_exists'.mp hsome
  rw [hstep] at hparameters
  obtain ⟨invocation, hbound⟩ := bound_of_bindInvocation hevaluated ⟨hblocked, hdeferred⟩
    hregistered hcurrent ⟨plan, hplan, List.mem_of_find?_eq_some hstep⟩
    (List.mem_of_find?_eq_some hsafetyStep) hmatches (stepParameters_some hparameters) h
  exact Or.inr ⟨invocation, step, safetyStep, hbound⟩

/-- A binding either names its blockers or carries an invocation with all it rests on. -/
theorem bind_ok (h : bind policy registry proposal decision selection = .ok result) :
    Refused decision selection result ∨ ∃ invocation step safetyStep,
      Bound policy registry proposal decision selection result invocation step safetyStep := by
  rw [bind, Checks.bind_ok] at h
  obtain ⟨revalidation, -, h⟩ := h
  split at h
  · exact Or.inl (refused_of_ineligible (by decide) h)
  rw [Checks.bind_ok] at h
  obtain ⟨rebuilt, hrebuilt, h⟩ := h
  rw [Checks.mapError_ok] at hrebuilt
  rw [Checks.require_bind_ok] at h
  obtain ⟨rfl, h⟩ := h
  unfold bindSelection at h
  split at h
  · exact Or.inl (refused_of_ineligible (by decide) h)
  next skill hregistered =>
  by_cases hcurrent : SelectionCurrent registry selection skill
  · rw [if_neg (not_not_intro hcurrent), Checks.bind_ok] at h
    obtain ⟨current, -, h⟩ := h
    split at h
    · exact Or.inl (refused_of_ineligible (by decide) h)
    exact bindStep_ok hrebuilt hregistered hcurrent h
  · rw [if_pos hcurrent] at h
    exact Or.inl (refused_of_ineligible (by decide) h)

/-- A binding names its safety decision by a text. -/
theorem bind_reviewed (h : bind policy registry proposal decision selection = .ok result) :
    CleanText result.sourceSafetyDecisionId := by
  have hreviewed : result.sourceSafetyDecisionId = decision.decisionId := by
    rcases bind_ok h with hrefused | ⟨invocation, step, safetyStep, hbound⟩
    · exact hrefused.reviewed
    · exact hbound.reviewed
  rw [bind, Checks.bind_ok] at h
  obtain ⟨revalidation, hrevalidation, -⟩ := h
  rw [Checks.mapError_ok, Safety.revalidate, Checks.bind_ok] at hrevalidation
  obtain ⟨current, -, hrevalidation⟩ := hrevalidation
  rw [Checks.unit_bind_ok, Safety.SafetyRevalidationResult.postInit, Checks.unit_bind_ok,
    validateText_ok] at hrevalidation
  rw [hreviewed]
  exact hrevalidation.1.1

end Outcomes

end Skills
end AyyoHumanoid
