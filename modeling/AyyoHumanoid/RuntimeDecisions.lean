import AyyoHumanoid.RuntimeRequests

/-!
# Runtime decisions

The bridge evaluates a binding of the skill manager against its registry. It
rebuilds both, maps the status of the binding and, for a binding that is eligible
for handoff, looks for the exact endpoint. Only an eligible decision carries a
request. A later evaluation either returns an earlier decision or says that it is
stale.
-/

namespace AyyoHumanoid
namespace Runtime

open PyText JsonText PyCollections Contracts Skills
open World (Name Digest)

section Statuses

/-- `RuntimeEligibility`. -/
inductive RuntimeEligibility where
  | eligible | approvalRequired | deferred | blocked | rejected | unavailable | stale
  deriving DecidableEq, Repr

/-- The text of a status. -/
def RuntimeEligibility.value : RuntimeEligibility → PyStr
  | .eligible => py "eligible"
  | .approvalRequired => py "approval_required"
  | .deferred => py "deferred"
  | .blocked => py "blocked"
  | .rejected => py "rejected"
  | .unavailable => py "unavailable"
  | .stale => py "stale"

/-- `rank` of `evaluate`. -/
def RuntimeEligibility.rank : RuntimeEligibility → Int
  | .rejected => 0
  | .unavailable => 1
  | .stale => 2
  | .approvalRequired => 3
  | .deferred => 4
  | .blocked => 5
  | .eligible => -1

/-- `RuntimeReason`. -/
inductive RuntimeReason where
  | upstreamApprovalRequired | upstreamBlocked | upstreamDeferred | upstreamStale
  | upstreamIneligible | skillUnavailable | endpointNotRegistered | endpointUnavailable
  | skillFingerprintMismatch | runtimeRegistryChanged | upstreamBindingChanged | endpointChanged
  deriving DecidableEq, Repr

/-- The members of `RuntimeReason` in order. -/
def RuntimeReason.members : List RuntimeReason :=
  [.upstreamApprovalRequired, .upstreamBlocked, .upstreamDeferred, .upstreamStale,
    .upstreamIneligible, .skillUnavailable, .endpointNotRegistered, .endpointUnavailable,
    .skillFingerprintMismatch, .runtimeRegistryChanged, .upstreamBindingChanged, .endpointChanged]

/-- The text of a reason. -/
def RuntimeReason.value : RuntimeReason → PyStr
  | .upstreamApprovalRequired => py "upstream_approval_required"
  | .upstreamBlocked => py "upstream_blocked"
  | .upstreamDeferred => py "upstream_deferred"
  | .upstreamStale => py "upstream_stale"
  | .upstreamIneligible => py "upstream_ineligible"
  | .skillUnavailable => py "skill_unavailable"
  | .endpointNotRegistered => py "endpoint_not_registered"
  | .endpointUnavailable => py "endpoint_unavailable"
  | .skillFingerprintMismatch => py "skill_fingerprint_mismatch"
  | .runtimeRegistryChanged => py "runtime_registry_changed"
  | .upstreamBindingChanged => py "upstream_binding_changed"
  | .endpointChanged => py "endpoint_changed"

/-- `_ordered_reasons`. -/
def orderedReasons (reasons : List RuntimeReason) : List RuntimeReason :=
  RuntimeReason.members.filter (· ∈ reasons)

end Statuses

section Rebuilding

variable {p : Platform}

/-- `_rebuild_selection` of a binding. -/
def rebuildSelection (selection : SkillSelection) : Except RuntimeError SkillSelection := do
  let rebuilt ← selection.init.mapError fun _ =>
    .invalidBinding (py "Skill binding selection failed integrity review")
  require (rebuilt = selection)
    (.invalidBinding (py "Skill binding selection fingerprint is stale"))
  pure rebuilt

/-- `left == right` of the invocations of two bindings. -/
def sameInvocation : Option (SkillInvocation p) → Option (SkillInvocation p) → Bool
  | none, none => true
  | some left, some right => left.same p right.toInvocationContent
  | _, _ => false

/-- `left == right` of bindings. -/
def sameBinding (left right : SkillBindingResult p) : Bool :=
  decide (left.status = right.status) && decide (left.reasons = right.reasons) &&
    decide (left.selection = right.selection) &&
    decide (left.sourceSafetyDecisionId = right.sourceSafetyDecisionId) &&
    sameInvocation left.invocation right.invocation

/-- `rebuild_binding_result`. -/
def rebuildBindingResult (binding : SkillBindingResult p) :
    Except RuntimeError (SkillBindingResult p) := do
  let selection ← rebuildSelection binding.selection
  let invocation ← binding.invocation.mapM rebuildInvocation
  let rebuilt ← (makeBinding {
    status := binding.status
    reasons := binding.reasons
    selection := selection
    sourceSafetyDecisionId := binding.sourceSafetyDecisionId
    invocation := invocation }).mapError fun _ =>
      .invalidBinding (py "Skill binding result failed integrity review")
  require (sameBinding rebuilt binding = true)
    (.invalidBinding (py "Skill binding result is internally inconsistent"))
  pure rebuilt

end Rebuilding

section Decisions

variable (p : Platform)

/-- The arguments of a `RuntimeDecision`; its fingerprint of a registry is known by its digest. -/
structure DecisionContent where
  status : RuntimeEligibility
  reasons : List RuntimeReason
  bindingResult : SkillBindingResult p
  /-- The digest of `runtime_registry_fingerprint`. -/
  runtimeRegistryDigest : Digest
  request : Option (RuntimeRequest p)

/-- The attributes of a `RuntimeDecision` that are no request. -/
structure DecisionHeader where
  status : RuntimeEligibility
  reasons : List RuntimeReason
  sourceBindingStatus : BindingStatus
  /-- The digest of `source_selection_fingerprint`. -/
  sourceSelectionDigest : Digest
  sourceSafetyDecisionId : PyStr
  /-- The digest of `source_invocation_fingerprint`. -/
  sourceInvocationDigest : Option Digest
  /-- The digest of `runtime_registry_fingerprint`. -/
  runtimeRegistryDigest : Digest
  deriving DecidableEq

/-- The attributes of a `RuntimeDecision`. -/
structure DecisionAttributes extends DecisionHeader where
  request : Option (RuntimeRequest p)

variable {p}

/-- An optional text. -/
def optionalFingerprint (text : Option PyStr) : Json := text.elim .null .str

namespace DecisionAttributes

/-- The document that names a decision. -/
def document (decision : DecisionAttributes p) : Json :=
  .obj [(py "reasons", Executive.textItems (decision.reasons.map RuntimeReason.value)),
    (py "request_fingerprint", optionalFingerprint (decision.request.map fun request =>
      RuntimeFingerprintKind.request.text request.digest)),
    (py "runtime_registry_fingerprint",
      .str (RuntimeFingerprintKind.registry.text decision.runtimeRegistryDigest)),
    (py "schema", .str (py "ayyo.runtime-bridge.decision.v1")),
    (py "source_binding_status", .str decision.sourceBindingStatus.value),
    (py "source_invocation_fingerprint",
      optionalFingerprint (decision.sourceInvocationDigest.map SkillFingerprintKind.invocation.text)),
    (py "source_safety_decision_id", .str decision.sourceSafetyDecisionId),
    (py "source_selection_fingerprint",
      .str (SkillFingerprintKind.selection.text decision.sourceSelectionDigest)),
    (py "status", .str decision.status.value)]

/-- The digest of `fingerprint`. -/
def digest (decision : DecisionAttributes p) : Digest :=
  World.documentDigest p decision.document

/-- `decision_id`. -/
def decisionId (decision : DecisionAttributes p) : PyStr :=
  py "runtime-decision-" ++ decision.digest.text

/-- `left == right` of the requests of two decisions. -/
def sameRequest : Option (RuntimeRequest p) → Option (RuntimeRequest p) → Bool
  | none, none => true
  | some left, some right => left.same right.toRequestAttributes
  | _, _ => false

/-- `left == right`. -/
def same (left right : DecisionAttributes p) : Bool :=
  decide (left.toDecisionHeader = right.toDecisionHeader) &&
    sameRequest left.request right.request && decide (left.digest = right.digest)

end DecisionAttributes

namespace DecisionContent

/-- The request is rebuilt and compared with what was given. -/
def rebuildRequest (request : RuntimeRequest p) : Except RuntimeError (RuntimeRequest p) := do
  let rebuilt ← request.toRequestContent.build
  require (rebuilt.same request.toRequestAttributes = true ∧
      sameJson (.obj rebuilt.requestFields) (.obj request.requestFields) = true)
    (.invalidContract (py "runtime request fingerprint is stale"))
  pure rebuilt

/-- The checks of the constructor on the request: the rebuilt request. -/
def checkRequest (arguments : DecisionContent p) :
    Except RuntimeError (Option (RuntimeRequest p)) :=
  if arguments.status = .eligible then
    match arguments.request, arguments.reasons with
    | some request, [] => some <$> rebuildRequest request
    | _, _ =>
      .error (.invalidContract (py "eligible runtime decision requires one unblocked request"))
  else
    match arguments.request, arguments.reasons with
    | none, _ :: _ => .ok none
    | _, _ =>
      .error (.invalidContract (py "ineligible runtime decision requires reasons and no request"))

/-- `required_reason`. -/
def requiredReason : RuntimeEligibility → Option RuntimeReason
  | .approvalRequired => some .upstreamApprovalRequired
  | .deferred => some .upstreamDeferred
  | .blocked => some .upstreamBlocked
  | .stale => some .upstreamStale
  | .unavailable => some .endpointUnavailable
  | .eligible | .rejected => none

/-- The checks of the constructor on the status. -/
def checkStatus (status : RuntimeEligibility) (reasons : List RuntimeReason)
    (binding : SkillBindingResult p) : Except RuntimeError Unit := do
  require (∀ reason ∈ requiredReason status, reason ∈ reasons ∨
      (status = .unavailable ∧ RuntimeReason.skillUnavailable ∈ reasons))
    (.invalidContract (status.value ++ py " decision lacks its required typed reason"))
  require (status = .approvalRequired → binding.status = .externalApprovalRequired)
    (.invalidContract (py "approval-required runtime decision must preserve its upstream status"))
  require (status = .blocked →
      binding.status = .ineligible ∧ BindingReason.safetyBlocked ∈ binding.reasons)
    (.invalidContract (py "blocked runtime decision must preserve an upstream Safety block"))
  require (status = .deferred →
      binding.status = .ineligible ∧ BindingReason.safetyDeferred ∈ binding.reasons)
    (.invalidContract (py "deferred runtime decision must preserve upstream Safety deferral"))

/-- `RuntimeDecision.__init__`. -/
def init (arguments : DecisionContent p) : Except RuntimeError (DecisionAttributes p) := do
  let binding ← rebuildBindingResult arguments.bindingResult
  require (arguments.reasons = orderedReasons arguments.reasons)
    (.invalidContract (py "runtime decision reasons must be unique and canonically ordered"))
  let request ← arguments.checkRequest
  checkStatus arguments.status arguments.reasons binding
  let decision : DecisionAttributes p := {
    status := arguments.status
    reasons := arguments.reasons
    sourceBindingStatus := binding.status
    sourceSelectionDigest := binding.selection.digest p
    sourceSafetyDecisionId := binding.sourceSafetyDecisionId
    sourceInvocationDigest := binding.invocation.map fun invocation => invocation.digest p
    runtimeRegistryDigest := arguments.runtimeRegistryDigest
    request := request }
  checkDocument .decision decision.document .invalidContract
  pure decision

end DecisionContent

variable (p)

/-- A `RuntimeDecision`: attributes that its constructor returned. -/
structure RuntimeDecision extends DecisionAttributes p where
  /-- The constructor returned these attributes. -/
  constructed : ∃ arguments : DecisionContent p, arguments.init = .ok toDecisionAttributes

variable {p}

/-- `RuntimeDecision(...)`. -/
def DecisionContent.build (arguments : DecisionContent p) :
    Except RuntimeError (RuntimeDecision p) :=
  constructFrom DecisionContent.init RuntimeDecision.mk arguments

end Decisions

section Evaluation

variable {p : Platform}

/-- `reason_map` of `evaluate`. -/
def reasonMap : BindingReason → Option (RuntimeEligibility × RuntimeReason)
  | .safetyBlocked => some (.blocked, .upstreamBlocked)
  | .safetyDeferred => some (.deferred, .upstreamDeferred)
  | .safetyDecisionStale => some (.stale, .upstreamStale)
  | .registrySelectionStale => some (.stale, .upstreamStale)
  | .skillUnavailable => some (.unavailable, .skillUnavailable)
  | _ => none

/-- `max(statuses, key=rank.get)` of a first status and others. -/
def strongest (first : RuntimeEligibility) (others : List RuntimeEligibility) :
    RuntimeEligibility :=
  others.foldl (fun best status => if best.rank < status.rank then status else best) first

/-- The status and the reasons of an ineligible binding. -/
def mappedStatus (reasons : List BindingReason) : RuntimeEligibility × List RuntimeReason :=
  match reasons.filterMap reasonMap with
  | [] => (.rejected, [.upstreamIneligible])
  | first :: others =>
    (strongest first.1 (others.map Prod.fst), (first :: others).map Prod.snd)

/-- The outcome of `evaluate` for an invocation that is eligible for handoff. -/
def evaluateInvocation (binding : SkillBindingResult p) (registry : RuntimeEndpointRegistry p)
    (invocation : SkillInvocation p) : Except RuntimeError (RuntimeDecision p) :=
  match registry.resolveInvocation invocation with
  | none =>
    DecisionContent.build
      ⟨.rejected, [.endpointNotRegistered], binding, registry.digest, none⟩
  | some endpointBinding =>
    if endpointBinding.skillDefinition.digest p ≠ invocation.selection.skillDigest then
      DecisionContent.build
        ⟨.stale, [.upstreamStale, .skillFingerprintMismatch], binding, registry.digest, none⟩
    else if endpointBinding.endpoint.availability ≠ .available then
      DecisionContent.build
        ⟨.unavailable, [.endpointUnavailable], binding, registry.digest, none⟩
    else do
      let request ← bindRuntimeRequest invocation registry
      DecisionContent.build ⟨.eligible, [], binding, registry.digest, some request⟩

/-- `RuntimeBridge.evaluate`. -/
def evaluate (registry : RuntimeEndpointRegistry p) (bindingResult : SkillBindingResult p) :
    Except RuntimeError (RuntimeDecision p) := do
  let binding ← rebuildBindingResult bindingResult
  let registry ← rebuildRegistry registry
  match binding.status with
  | .ineligible =>
    DecisionContent.build ⟨(mappedStatus binding.reasons).1,
      orderedReasons (mappedStatus binding.reasons).2, binding, registry.digest, none⟩
  | .externalApprovalRequired =>
    DecisionContent.build
      ⟨.approvalRequired, [.upstreamApprovalRequired], binding, registry.digest, none⟩
  | .eligibleForRuntimeHandoff =>
    match binding.invocation with
    | none => .error .assertion
    | some invocation => evaluateInvocation binding registry invocation

/-- The digest of the endpoint of a request, when there is one. -/
def endpointDigest (request : Option (RuntimeRequest p)) : Option Digest :=
  request.map fun request => request.endpointBinding.endpoint.digest p

/-- The reasons of `revalidate` for a decision that is no longer current. -/
def staleReasons (current prior : RuntimeDecision p) : List RuntimeReason :=
  .upstreamStale ::
    ((if current.runtimeRegistryDigest ≠ prior.runtimeRegistryDigest then
        [.runtimeRegistryChanged] else []) ++
      (if current.sourceSelectionDigest ≠ prior.sourceSelectionDigest ∨
          current.sourceSafetyDecisionId ≠ prior.sourceSafetyDecisionId ∨
          current.sourceInvocationDigest ≠ prior.sourceInvocationDigest then
        [.upstreamBindingChanged] else []) ++
      (if endpointDigest prior.request ≠ endpointDigest current.request then
        [.endpointChanged] else []))

variable (p)

/-- Which object `revalidate` returns. -/
inductive Revalidation where
  /-- The prior decision itself. -/
  | unchanged
  /-- A new decision. -/
  | replaced (decision : RuntimeDecision p)

variable {p}

/-- The decision that is returned. -/
def Revalidation.decision (prior : RuntimeDecision p) : Revalidation p → RuntimeDecision p
  | .unchanged => prior
  | .replaced decision => decision

/-- `RuntimeBridge.revalidate`. -/
def revalidate (registry : RuntimeEndpointRegistry p) (prior : RuntimeDecision p)
    (currentBinding : SkillBindingResult p) : Except RuntimeError (Revalidation p) := do
  let current ← evaluate registry currentBinding
  if current.same prior.toDecisionAttributes = true then pure .unchanged
  else do
    let binding ← rebuildBindingResult currentBinding
    let decision ← DecisionContent.build ⟨.stale, orderedReasons (staleReasons current prior),
      binding, current.runtimeRegistryDigest, none⟩
    pure (.replaced decision)

end Evaluation

section Facts

variable {p : Platform}

/-- A reason is listed. -/
theorem RuntimeReason.mem_members (reason : RuntimeReason) : reason ∈ RuntimeReason.members := by
  cases reason <;> decide

/-- Ordering keeps the reasons. -/
theorem mem_orderedReasons {reasons : List RuntimeReason} {reason : RuntimeReason} :
    reason ∈ orderedReasons reasons ↔ reason ∈ reasons := by
  rw [orderedReasons, List.mem_filter]
  simp [RuntimeReason.mem_members]

/-- Ordered reasons are ordered already. -/
theorem orderedReasons_self (reasons : List RuntimeReason) :
    orderedReasons (orderedReasons reasons) = orderedReasons reasons := by
  rw [orderedReasons]
  conv_rhs => rw [orderedReasons]
  exact List.filter_congr fun reason _ => by simp [mem_orderedReasons]

/-- Ordered reasons are few. -/
theorem length_orderedReasons (reasons : List RuntimeReason) :
    (orderedReasons reasons).length ≤ 12 :=
  List.length_filter_le _ _

/-- Ordering keeps reasons unless there are none. -/
theorem orderedReasons_ne_nil {reasons : List RuntimeReason} (h : reasons ≠ []) :
    orderedReasons reasons ≠ [] := by
  obtain ⟨reason, hreason⟩ := List.exists_mem_of_ne_nil reasons h
  exact List.ne_nil_of_mem (mem_orderedReasons.mpr hreason)

/-- A binding equals itself. -/
theorem sameBinding_self (binding : SkillBindingResult p) : sameBinding binding binding = true := by
  have hinvocation : sameInvocation binding.invocation binding.invocation = true := by
    cases binding.invocation with
    | none => rfl
    | some invocation => exact InvocationContent.same_self p _
  rw [sameBinding, hinvocation]
  simp

/-- A rebuilt selection is the selection. -/
theorem rebuildSelection_self (selection : SkillSelection) :
    rebuildSelection selection = .ok selection := by
  rw [rebuildSelection, SkillSelection.init_self, Checks.bind_ok]
  refine ⟨selection, rfl, ?_⟩
  rw [Checks.require_bind_ok, Checks.pure_ok]
  exact ⟨rfl, rfl⟩

/-- A rebuilt binding is the binding. -/
theorem rebuildBindingResult_self (binding : SkillBindingResult p) :
    rebuildBindingResult binding = .ok binding := by
  have hinvocation : binding.invocation.mapM rebuildInvocation = .ok binding.invocation := by
    cases binding.invocation with
    | none => rfl
    | some invocation =>
      rw [Option.mapM_some, rebuildInvocation_self]
      rfl
  rw [rebuildBindingResult, rebuildSelection_self, Checks.ok_bind, hinvocation, Checks.ok_bind,
    Checks.bind_ok]
  refine ⟨binding, Checks.mapError_ok.mpr (makeBinding_ok.mpr rfl), ?_⟩
  rw [Checks.require_bind_ok, Checks.pure_ok]
  exact ⟨sameBinding_self binding, rfl⟩

/-- A rebuilt request is the request. -/
theorem rebuildRequest_self (request : RuntimeRequest p) :
    DecisionContent.rebuildRequest request = .ok request := by
  rw [DecisionContent.rebuildRequest, request.build_self, Checks.ok_bind, Checks.require_bind_ok,
    Checks.pure_ok]
  exact ⟨⟨RequestAttributes.same_self _, sameJson_self _⟩, rfl⟩

namespace DecisionContent

/-- The attributes of a decision with these arguments. -/
def attributes (arguments : DecisionContent p) : DecisionAttributes p where
  status := arguments.status
  reasons := arguments.reasons
  sourceBindingStatus := arguments.bindingResult.status
  sourceSelectionDigest := arguments.bindingResult.selection.digest p
  sourceSafetyDecisionId := arguments.bindingResult.sourceSafetyDecisionId
  sourceInvocationDigest :=
    arguments.bindingResult.invocation.map fun invocation => invocation.digest p
  runtimeRegistryDigest := arguments.runtimeRegistryDigest
  request := arguments.request

/-- An eligible decision has a request and no reason, another has a reason and no request. -/
def Carries (arguments : DecisionContent p) : Prop :=
  if arguments.status = .eligible then arguments.request.isSome ∧ arguments.reasons = []
  else arguments.request = none ∧ arguments.reasons ≠ []

/-- The request passes its checks unchanged. -/
theorem checkRequest_ok {arguments : DecisionContent p} {request : Option (RuntimeRequest p)} :
    arguments.checkRequest = .ok request ↔ request = arguments.request ∧ arguments.Carries := by
  obtain ⟨status, reasons, binding, digest, held⟩ := arguments
  by_cases hstatus : status = .eligible
  · cases held with
    | none => simp [checkRequest, Carries, hstatus]
    | some held =>
      cases reasons with
      | nil => simp [checkRequest, Carries, hstatus, rebuildRequest_self, eq_comm]
      | cons reason reasons => simp [checkRequest, Carries, hstatus]
  · cases held with
    | none =>
      cases reasons with
      | nil => simp [checkRequest, Carries, hstatus]
      | cons reason reasons => simp [checkRequest, Carries, hstatus, eq_comm]
    | some held => simp [checkRequest, Carries, hstatus]

/-- The checks of the constructor on the status. -/
theorem checkStatus_ok {status : RuntimeEligibility} {reasons : List RuntimeReason}
    {binding : SkillBindingResult p} : checkStatus status reasons binding = .ok () ↔
      (∀ reason ∈ requiredReason status, reason ∈ reasons ∨
        (status = .unavailable ∧ RuntimeReason.skillUnavailable ∈ reasons)) ∧
      (status = .approvalRequired → binding.status = .externalApprovalRequired) ∧
      (status = .blocked →
        binding.status = .ineligible ∧ BindingReason.safetyBlocked ∈ binding.reasons) ∧
      (status = .deferred →
        binding.status = .ineligible ∧ BindingReason.safetyDeferred ∈ binding.reasons) := by
  rw [checkStatus, Checks.require_bind_ok, Checks.require_bind_ok, Checks.require_bind_ok,
    Checks.require_ok]

/-- What the constructor of a decision checks. -/
structure Accepted (arguments : DecisionContent p) : Prop where
  /-- The reasons are in order. -/
  ordered : arguments.reasons = orderedReasons arguments.reasons
  /-- The request and the reasons fit the status. -/
  carries : arguments.Carries
  justified : checkStatus arguments.status arguments.reasons arguments.bindingResult = .ok ()
  /-- The document is within the limits. -/
  allowed : Allowed arguments.attributes.document

/-- The constructor of a decision returns its attributes when it accepts the arguments. -/
theorem init_ok {arguments : DecisionContent p} {decision : DecisionAttributes p} :
    arguments.init = .ok decision ↔ decision = arguments.attributes ∧ arguments.Accepted := by
  rw [init, rebuildBindingResult_self, Checks.ok_bind, Checks.require_bind_ok, Checks.bind_ok]
  constructor
  · rintro ⟨ordered, request, hrequest, h⟩
    rw [checkRequest_ok] at hrequest
    obtain ⟨rfl, carries⟩ := hrequest
    rw [Checks.unit_bind_ok, Checks.unit_bind_ok, checkDocument_ok, Checks.pure_ok] at h
    obtain ⟨justified, allowed, rfl⟩ := h
    exact ⟨rfl, ⟨ordered, carries, justified, allowed⟩⟩
  · rintro ⟨rfl, h⟩
    refine ⟨h.ordered, arguments.request, checkRequest_ok.mpr ⟨rfl, h.carries⟩, ?_⟩
    rw [Checks.unit_bind_ok, Checks.unit_bind_ok, checkDocument_ok, Checks.pure_ok]
    exact ⟨h.justified, h.allowed, rfl⟩

/-- A built decision has the attributes of its accepted arguments. -/
theorem build_ok {arguments : DecisionContent p} {decision : RuntimeDecision p}
    (h : arguments.build = .ok decision) :
    decision.toDecisionAttributes = arguments.attributes ∧ arguments.Accepted := by
  rw [build, Checks.constructFrom_ok] at h
  obtain ⟨content, hinit, rfl⟩ := h
  exact init_ok.mp hinit

/-- Accepted arguments build a decision. -/
theorem Accepted.build {arguments : DecisionContent p} (h : arguments.Accepted) :
    ∃ decision, arguments.build = .ok decision := by
  have hinit : arguments.init = .ok arguments.attributes := init_ok.mpr ⟨rfl, h⟩
  exact ⟨_, Checks.constructFrom_ok.mpr ⟨arguments.attributes, hinit, rfl⟩⟩

end DecisionContent

/-- The texts of reasons are short and printable. -/
theorem RuntimeReason.value_short (reason : RuntimeReason) :
    reason.value.length ≤ 100 ∧ utf8Encodable reason.value = true := by
  cases reason <;> decide

/-- An optional fingerprint in a record. -/
theorem slim_optionalFingerprint {text : Option PyStr} (h : ∀ t ∈ text, Slim (.str t)) :
    Slim (optionalFingerprint text) := by
  cases text with
  | none => exact Slim.null
  | some text => exact h text rfl

/-- The document of a decision with a short decision identifier is within the limits. -/
theorem DecisionAttributes.allowed {decision : DecisionAttributes p}
    (hreasons : decision.reasons = orderedReasons decision.reasons)
    (hid : CleanText decision.sourceSafetyDecisionId) : Allowed decision.document := by
  have hfew : (decision.reasons.map RuntimeReason.value).length ≤ 50 := by
    have hlength := length_orderedReasons decision.reasons
    rw [← hreasons] at hlength
    rw [List.length_map]
    omega
  have htexts : Slim (Executive.textItems (decision.reasons.map RuntimeReason.value)) := by
    refine Slim.texts hfew ?_
    rw [List.forall_mem_map]
    exact fun reason _ => reason.value_short
  have hbinding : decision.sourceBindingStatus.value.length ≤ 100 ∧
      utf8Encodable decision.sourceBindingStatus.value = true := by
    cases decision.sourceBindingStatus <;> decide
  have hstatus : decision.status.value.length ≤ 100 ∧
      utf8Encodable decision.status.value = true := by
    cases decision.status <;> decide
  refine allowed_record ?_ ?_ ?_
  · simp only [List.length_cons, List.length_nil]
    decide
  · simp only [List.map_cons, List.map_nil]
    decide
  · simp only [List.map_cons, List.map_nil, List.forall_mem_cons]
    refine ⟨htexts, slim_optionalFingerprint ?_, slim_runtimeFingerprint _ _,
      Slim.str (by decide) (by decide), Slim.str (hbinding.1.trans (by decide)) hbinding.2,
      slim_optionalFingerprint ?_, Slim.str (hid.bounded.trans (by decide)) hid.encodable,
      slim_fingerprint _ _, Slim.str (hstatus.1.trans (by decide)) hstatus.2,
      fun value hvalue => absurd hvalue List.not_mem_nil⟩
    · intro text htext
      rw [Option.mem_def, Option.map_eq_some_iff] at htext
      obtain ⟨request, -, rfl⟩ := htext
      exact slim_runtimeFingerprint _ _
    · intro text htext
      rw [Option.mem_def, Option.map_eq_some_iff] at htext
      obtain ⟨digest, -, rfl⟩ := htext
      exact slim_fingerprint _ _

end Facts

end Runtime
end AyyoHumanoid
