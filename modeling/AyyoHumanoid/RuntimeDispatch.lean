import AyyoHumanoid.RuntimeHandoff
import AyyoHumanoid.RuntimeTransport

/-!
# What a dispatch comes to

A dispatch calls the transport only for an eligible decision that is current, and
hands over a request at most once. Once the transport was called, the outcome is
a result, unless the receipt contradicts the request or the text of a typed
error is not one that a result may carry.
-/

namespace AyyoHumanoid
namespace Runtime

open PyText JsonText Contracts Skills Interaction
open World (Name Digest IsCanonical)

variable {p : Platform} {registry : RuntimeEndpointRegistry p} {binding : SkillBindingResult p}
  {decision : RuntimeDecision p} {request : RuntimeRequest p}

section Results

/-- A short name with a digest is text. -/
theorem cleanText_named (p : Platform) {start : PyStr} (digest : Digest)
    (hstart : isAsciiIdentifier start = true) (hshort : start.length ≤ 64) :
    CleanText (start ++ digest.text) := by
  have hlimit : start.length + 64 ≤ maxTextLength := by
    rw [maxTextLength]
    omega
  exact (CleanIdentifier.prefixed hstart (Safety.cleanIdentifier_digest (p := p) digest.hex)
    hlimit).toCleanText

/-- The fields of a result pass the checks exactly when the detail is text and the receipt fits
the status. -/
theorem resultFields_check {status : RuntimeResultStatus} {code : Option RuntimeFailureCode}
    {detail : PyStr} {transportId : Option Name} {receipt : Option TransportReceipt} :
    (resultFields decision status code detail transportId receipt).check = .ok () ↔
      CleanText detail ∧
        (resultFields decision status code detail transportId receipt).checkReceipt = .ok () := by
  have hdecision : CleanText decision.decisionId :=
    cleanText_named p _ (by decide) (by decide)
  have hidentity : checkIdentity (decision.request.map fun request =>
      ⟨request.requestId, request.digest⟩) = .ok () := by
    cases decision.request with
    | none => rfl
    | some request => exact validateText_ok.mpr (cleanText_named p _ (by decide) (by decide))
  rw [DispatchFields.check, Checks.unit_bind_ok, Checks.unit_bind_ok, Checks.unit_bind_ok,
    validateText_ok, validateText_ok]
  exact ⟨fun h => h.2.2, fun h => ⟨hdecision, hidentity, h⟩⟩

variable {events : List (TransportEvent p)} {outcome : Except DispatchError RuntimeDispatchResult}

/-- A report makes no call and returns its fields when they pass the checks. -/
theorem runs_report {fields : DispatchFields} (h : Runs (report (p := p) fields) events outcome) :
    events = [] ∧ ((∃ result, outcome = .ok result) ↔ fields.check = .ok ()) ∧
      ∀ result, outcome = .ok result → result.toDispatchFields = fields := by
  obtain ⟨hevents, houtcome⟩ := runs_done.mp h
  have hmade : ∀ result, outcome = .ok result ↔
      ∃ h, (⟨fields, h⟩ : RuntimeDispatchResult) = result := by
    intro result
    rw [← houtcome, Checks.mapError_ok, makeDispatchResult, Checks.construct_ok]
  refine ⟨hevents, ?_, ?_⟩
  · constructor
    · rintro ⟨result, hresult⟩
      obtain ⟨hchecked, -⟩ := (hmade result).mp hresult
      exact hchecked
    · intro hchecked
      exact ⟨_, (hmade _).mpr ⟨hchecked, rfl⟩⟩
  · intro result hresult
    obtain ⟨hchecked, hsame⟩ := (hmade result).mp hresult
    rw [← hsame]

/-- A failed result without receipt is reported exactly when its detail is text. -/
theorem runs_report_failed {status : RuntimeResultStatus} {code : RuntimeFailureCode}
    {detail : PyStr} {transportId : Option Name} (hstatus : status ≠ .acceptedByTransport)
    (h : Runs (report (resultFields decision status (some code) detail transportId none)) events
      outcome) :
    events = [] ∧ ((∃ result, outcome = .ok result) ↔ CleanText detail) ∧
      ∀ result, outcome = .ok result → result.status = status := by
  obtain ⟨hevents, hreturned, hfields⟩ := runs_report h
  have hother : (resultFields decision status (some code) detail transportId none).status ≠
      .acceptedByTransport := hstatus
  have hreceipt : (resultFields decision status (some code) detail transportId
      none).checkReceipt = .ok () := by
    rw [DispatchFields.checkReceipt, if_neg hother, Checks.require_bind_ok, Checks.require_ok]
    exact ⟨fun receipt hmem => absurd hmem (Option.not_mem_none receipt), Option.some_ne_none code⟩
  rw [resultFields_check] at hreturned
  refine ⟨hevents, hreturned.trans ⟨And.left, fun hclean => ⟨hclean, hreceipt⟩⟩, ?_⟩
  intro result hresult
  rw [hfields result hresult]
  rfl

end Results

section Runs

variable {events : List (TransportEvent p)} {outcome : Except DispatchError RuntimeDispatchResult}

/-- A dispatch that calls the transport does so for an eligible decision that is current. -/
structure Calling (registry : RuntimeEndpointRegistry p) (binding : SkillBindingResult p)
    (decision : RuntimeDecision p) (request : RuntimeRequest p) (current : RuntimeDecision p) :
    Prop where
  eligible : decision.status = .eligible
  /-- It carries the request. -/
  request : decision.request = some request
  /-- The binding is evaluated anew. -/
  evaluated : evaluate registry binding = .ok current
  /-- The decision equals what that gives. -/
  same : current.same decision.toDecisionAttributes = true

/-- A dispatch that ends before any call accepts nothing. -/
def EndsUncalled (events : List (TransportEvent p))
    (outcome : Except DispatchError RuntimeDispatchResult) : Prop :=
  events = [] ∧ ∀ result, outcome = .ok result → result.status ≠ .acceptedByTransport

/-- A refusal ends before any call. -/
theorem endsUncalled_refuse {error : RuntimeError} (h : Runs (refuse (p := p) error) events outcome) :
    EndsUncalled events outcome := by
  obtain ⟨hevents, houtcome⟩ := runs_done.mp h
  refine ⟨hevents, fun result hresult => ?_⟩
  rw [← houtcome] at hresult
  cases hresult

/-- A failed result without a call ends before any call. -/
theorem endsUncalled_report {status : RuntimeResultStatus} {code : RuntimeFailureCode}
    {detail : PyStr} {transportId : Option Name} (hstatus : status ≠ .acceptedByTransport)
    (h : Runs (report (resultFields decision status (some code) detail transportId none)) events
      outcome) : EndsUncalled events outcome := by
  obtain ⟨hevents, -, hresults⟩ := runs_report_failed hstatus h
  refine ⟨hevents, fun result hresult => ?_⟩
  rw [hresults result hresult]
  exact hstatus

/-- A run of a dispatch ends before any call or goes on to the calls. -/
theorem runs_dispatch {transportId : PyStr}
    (h : Runs (dispatch registry decision binding transportId) events outcome) :
    EndsUncalled events outcome ∨
      ∃ request current name, Calling registry binding decision request current ∧
        name.text = transportId ∧ Runs (askAvailability decision request name) events outcome := by
  unfold dispatch at h
  by_cases heligible : decision.status = .eligible
  · rw [if_pos heligible] at h
    split at h
    · exact Or.inl (endsUncalled_refuse h)
    next request hrequest =>
    have hsame : ¬(request.same request.toRequestAttributes ≠ true ∨
        sameJson (.obj request.requestFields) (.obj request.requestFields) ≠ true) := by
      simp [RequestAttributes.same_self, sameJson_self]
    rw [dispatchRequest, request.build_self] at h
    dsimp only at h
    rw [if_neg hsame] at h
    cases hevaluate : evaluate registry binding with
    | error error =>
      rw [hevaluate] at h
      exact Or.inl (endsUncalled_refuse h)
    | ok current =>
      rw [hevaluate, attempt] at h
      by_cases hcurrent : current.same decision.toDecisionAttributes = true
      · rw [if_neg (not_not_intro hcurrent)] at h
        cases hname : validateIdentifier transportId (py "transport_id") with
        | error error =>
          rw [hname] at h
          exact Or.inl (endsUncalled_refuse h)
        | ok name =>
          rw [hname, attempt] at h
          exact Or.inr ⟨request, current, name, ⟨heligible, hrequest, hevaluate, hcurrent⟩,
            validateIdentifier_ok hname, h⟩
      · rw [if_pos hcurrent] at h
        exact Or.inl (endsUncalled_report (by decide) h)
  · rw [if_neg heligible] at h
    exact Or.inl (endsUncalled_report (by decide) h)

/-- The receipt is not about the request or not of the transport. -/
def Contradicts (request : RuntimeRequest p) (transportId : PyStr) (receipt : TransportReceipt) :
    Prop :=
  receipt.transportId.text ≠ transportId ∨ receipt.requestId.text ≠ request.requestId ∨
    receipt.requestDigest ≠ request.digest

/-- The result rests on an accepted receipt for the request. -/
def AcceptedBy (request : RuntimeRequest p) (transportId : PyStr) (result : RuntimeDispatchResult)
    (receipt : TransportReceipt) : Prop :=
  receipt.acceptance = .accepted ∧ ¬Contradicts request transportId receipt ∧
    result.receipt = some receipt

/-- The detail of an accepted result is text. -/
theorem cleanText_accepted : CleanText acceptedDetail :=
  ⟨by decide, by decide, by decide, by decide⟩

/-- What a receipt comes to. -/
theorem runs_settle {transportId : Name} {receipt : TransportReceipt}
    (h : Runs (settle decision request transportId receipt) events outcome) :
    events = [] ∧
      ((∃ result, outcome = .ok result) ↔ ¬Contradicts request transportId.text receipt) ∧
      ∀ result, outcome = .ok result → result.status = .acceptedByTransport →
        AcceptedBy request transportId.text result receipt := by
  have hcontradicts : Contradicts request transportId.text receipt ↔
      (receipt.transportId ≠ transportId ∨ receipt.requestId.text ≠ request.requestId ∨
        receipt.requestDigest ≠ request.digest) := by
    have hname : receipt.transportId.text ≠ transportId.text ↔ receipt.transportId ≠ transportId :=
      not_congr ⟨name_ext, congrArg World.Identifier.text⟩
    rw [Contradicts, hname]
  unfold settle at h
  by_cases hmismatch : receipt.transportId ≠ transportId ∨
      receipt.requestId.text ≠ request.requestId ∨ receipt.requestDigest ≠ request.digest
  · rw [if_pos hmismatch] at h
    obtain ⟨hevents, houtcome⟩ := runs_done.mp h
    have hnone : ∀ result, outcome ≠ .ok result := by
      intro result hresult
      rw [← houtcome] at hresult
      cases hresult
    refine ⟨hevents, ?_, fun result hresult => absurd hresult (hnone result)⟩
    rw [hcontradicts]
    exact ⟨fun hresult => absurd hresult.choose_spec (hnone _), fun hno => absurd hmismatch hno⟩
  · rw [if_neg hmismatch] at h
    by_cases hrejected : receipt.acceptance = .rejected
    · rw [if_pos hrejected] at h
      obtain ⟨hevents, hreturned, hfields⟩ := runs_report h
      refine ⟨hevents, ?_, ?_⟩
      · rw [hreturned, resultFields_check, hcontradicts]
        refine ⟨fun _ => hmismatch, fun _ => ⟨receipt.detail.clean, ?_⟩⟩
        simp [DispatchFields.checkReceipt, resultFields, Checks.require_bind_ok, hrejected]
      · intro result hresult hstatus
        rw [hfields result hresult] at hstatus
        cases hstatus
    · rw [if_neg hrejected] at h
      have haccepted : receipt.acceptance = .accepted := by
        cases hacceptance : receipt.acceptance with
        | accepted => rfl
        | rejected => exact absurd hacceptance hrejected
      obtain ⟨hevents, hreturned, hfields⟩ := runs_report h
      refine ⟨hevents, ?_, ?_⟩
      · rw [hreturned, resultFields_check, hcontradicts]
        refine ⟨fun _ => hmismatch, fun _ => ⟨cleanText_accepted, ?_⟩⟩
        simp [DispatchFields.checkReceipt, resultFields, haccepted]
      · intro result hresult hstatus
        refine ⟨haccepted, fun hother => hmismatch (hcontradicts.mp hother), ?_⟩
        rw [hfields result hresult]
        rfl

/-- What the call of `transport.dispatch` comes to. -/
structure HandedOver (request : RuntimeRequest p) (transportId : PyStr)
    (events : List (TransportEvent p)) (outcome : Except DispatchError RuntimeDispatchResult)
    (reply : Reply TransportReceipt) : Prop where
  /-- It is the only call. -/
  events : events = [⟨.dispatch request, reply⟩]
  /-- A typed reply is reported when the text of its error can be, unless it contradicts. -/
  reported : reply.Typed → (((∃ result, outcome = .ok result) ∨
    ∃ receipt, reply = .returned receipt ∧ Contradicts request transportId receipt) ↔
      ∀ error ∈ reply.error, CleanText error.message)
  /-- An accepted result rests on an accepted receipt. -/
  accepted : ∀ result, outcome = .ok result → result.status = .acceptedByTransport →
    ∃ receipt, reply = .returned receipt ∧ AcceptedBy request transportId result receipt

/-- A typed error is reported when its text can be. -/
theorem runs_typedFailure {transportId : Name} {error : TransportError}
    {rejected : RuntimeResultStatus × RuntimeFailureCode}
    (hrejected : rejected.1 ≠ .acceptedByTransport)
    (h : Runs (typedFailure decision transportId rejected error) events outcome) :
    events = [] ∧ ((∃ result, outcome = .ok result) ↔ CleanText error.message) ∧
      ∀ result, outcome = .ok result → result.status ≠ .acceptedByTransport := by
  cases error with
  | unavailable message =>
    obtain ⟨hevents, hreturned, hstatus⟩ := runs_report_failed (by decide) h
    exact ⟨hevents, hreturned, fun result hresult => by simp [hstatus result hresult]⟩
  | rejected message =>
    obtain ⟨hevents, hreturned, hstatus⟩ := runs_report_failed hrejected h
    exact ⟨hevents, hreturned, fun result hresult => by rwa [hstatus result hresult]⟩
  | failed message =>
    obtain ⟨hevents, hreturned, hstatus⟩ := runs_report_failed (by decide) h
    exact ⟨hevents, hreturned, fun result hresult => by simp [hstatus result hresult]⟩

/-- The steps from the call of `transport.dispatch` on. -/
theorem runs_handOver {transportId : Name}
    (h : Runs (handOver decision request transportId) events outcome) :
    ∃ reply, HandedOver request transportId.text events outcome reply := by
  obtain ⟨reply, rest, hevents, h⟩ := runs_ask.mp h
  refine ⟨reply, ?_⟩
  cases reply with
  | returned receipt =>
    obtain ⟨hrest, hreturned, haccepted⟩ := runs_settle h
    refine ⟨by rw [hevents, hrest], fun _ => ?_, fun result hresult hstatus => ?_⟩
    · rw [hreturned]
      constructor
      · intro _ error herror
        exact absurd herror (Option.not_mem_none error)
      · intro _
        by_cases hcontradicts : Contradicts request transportId.text receipt
        · exact Or.inr ⟨receipt, rfl, hcontradicts⟩
        · exact Or.inl hcontradicts
    · exact ⟨receipt, rfl, haccepted result hresult hstatus⟩
  | raised error =>
    obtain ⟨hrest, hreturned, hstatus⟩ := runs_typedFailure (by decide) h
    refine ⟨by rw [hevents, hrest], fun _ => ?_,
      fun result hresult hother => absurd hother (hstatus result hresult)⟩
    rw [hreturned]
    constructor
    · rintro (hclean | ⟨receipt, hreceipt, -⟩)
      · intro other hother
        rw [← Option.some.inj hother]
        exact hclean
      · cases hreceipt
    · exact fun hclean => Or.inl (hclean error rfl)
  | malformed =>
    obtain ⟨hrest, hstatus⟩ := endsUncalled_refuse h
    exact ⟨by rw [hevents, hrest], fun htyped => absurd rfl htyped.1,
      fun result hresult hother => absurd hother (hstatus result hresult)⟩
  | escaped =>
    obtain ⟨hrest, houtcome⟩ := runs_done.mp h
    refine ⟨by rw [hevents, hrest], fun htyped => absurd rfl htyped.2,
      fun result hresult => ?_⟩
    rw [← houtcome] at hresult
    cases hresult

/-- What the call of `transport.availability` comes to when it leads to no other call. -/
structure Turned (request : RuntimeRequest p) (events : List (TransportEvent p))
    (outcome : Except DispatchError RuntimeDispatchResult)
    (reply : Reply TransportAvailability) : Prop where
  /-- It is the only call. -/
  events : events = [⟨.availability request, reply⟩]
  /-- A typed reply is reported when the text of its error can be. -/
  reported : reply.Typed → ((∃ result, outcome = .ok result) ↔
    ∀ error ∈ reply.error, CleanText error.message)
  /-- Nothing is accepted. -/
  accepted : ∀ result, outcome = .ok result → result.status ≠ .acceptedByTransport

/-- The steps from the call of `transport.availability` on. -/
theorem runs_askAvailability {transportId : Name}
    (h : Runs (askAvailability decision request transportId) events outcome) :
    (∃ reply, Turned request events outcome reply) ∨
      ∃ rest reply, events = ⟨.availability request, .returned .available⟩ :: rest ∧
        HandedOver request transportId.text rest outcome reply := by
  obtain ⟨reply, rest, hevents, h⟩ := runs_ask.mp h
  cases reply with
  | returned availability =>
    cases availability with
    | available =>
      obtain ⟨next, hnext⟩ := runs_handOver h
      exact Or.inr ⟨rest, next, hevents, hnext⟩
    | unavailable =>
      obtain ⟨hrest, hreturned, hstatus⟩ := runs_report_failed (by decide) h
      have hclean : CleanText (py "The configured transport reported itself unavailable.") :=
        ⟨by decide, by decide, by decide, by decide⟩
      refine Or.inl ⟨_, by rw [hevents, hrest], fun _ => ?_, fun result hresult => ?_⟩
      · rw [hreturned]
        exact ⟨fun _ error herror => absurd herror (Option.not_mem_none error), fun _ => hclean⟩
      · simp [hstatus result hresult]
  | raised error =>
    obtain ⟨hrest, hreturned, hstatus⟩ := runs_typedFailure (by decide) h
    refine Or.inl ⟨_, by rw [hevents, hrest], fun _ => ?_, hstatus⟩
    rw [hreturned]
    constructor
    · intro hclean other hother
      rw [← Option.some.inj hother]
      exact hclean
    · exact fun hclean => hclean error rfl
  | malformed =>
    obtain ⟨hrest, hstatus⟩ := endsUncalled_refuse h
    exact Or.inl ⟨_, by rw [hevents, hrest], fun htyped => absurd rfl htyped.1, hstatus⟩
  | escaped =>
    obtain ⟨hrest, houtcome⟩ := runs_done.mp h
    refine Or.inl ⟨_, by rw [hevents, hrest], fun htyped => absurd rfl htyped.2,
      fun result hresult => ?_⟩
    rw [← houtcome] at hresult
    cases hresult

end Runs

section Totality

variable {events : List (TransportEvent p)} {outcome : Except DispatchError RuntimeDispatchResult}

/-- The call ended as it is declared to. -/
def TypedEvent : TransportEvent p → Prop
  | ⟨.availability _, reply⟩ => Reply.Typed (α := TransportAvailability) reply
  | ⟨.dispatch _, reply⟩ => Reply.Typed (α := TransportReceipt) reply

/-- The typed error that the call raised. -/
def raisedError : TransportEvent p → Option TransportError
  | ⟨.availability _, reply⟩ => Reply.error (α := TransportAvailability) reply
  | ⟨.dispatch _, reply⟩ => Reply.error (α := TransportReceipt) reply

/-- A receipt contradicts the request that was handed over. -/
def ReceiptContradicts (transportId : PyStr) (events : List (TransportEvent p)) : Prop :=
  ∃ (request : RuntimeRequest p) (receipt : TransportReceipt),
    ⟨.dispatch request, Reply.returned receipt⟩ ∈ events ∧ Contradicts request transportId receipt

/-- The outcome is a result, or the receipt contradicts the request. -/
def Reported (transportId : PyStr) (events : List (TransportEvent p))
    (outcome : Except DispatchError RuntimeDispatchResult) : Prop :=
  (∃ result, outcome = .ok result) ∨ ReceiptContradicts transportId events

/-- A call of `transport.availability` is reported when the text of its error can be. -/
theorem reported_of_turned {transportId : PyStr} {reply : Reply TransportAvailability}
    (h : Turned request events outcome reply) (htyped : ∀ event ∈ events, TypedEvent event) :
    Reported transportId events outcome ↔
      ∀ event ∈ events, ∀ error ∈ raisedError event, CleanText error.message := by
  have hevents := h.events
  subst hevents
  have hreply : reply.Typed := htyped _ (List.mem_singleton_self _)
  have hnone : ¬ReceiptContradicts transportId
      [(⟨.availability request, reply⟩ : TransportEvent p)] := by
    rintro ⟨other, receipt, hmem, -⟩
    rw [List.mem_singleton] at hmem
    cases hmem
  rw [Reported, or_iff_left hnone, h.reported hreply, List.forall_mem_singleton]
  rfl

/-- A call of `transport.dispatch` is reported when the text of its error can be. -/
theorem reported_of_handedOver {transportId : PyStr} {reply : Reply TransportReceipt}
    (h : HandedOver request transportId events outcome reply)
    (htyped : ∀ event ∈ events, TypedEvent event) :
    Reported transportId (⟨.availability request, Reply.returned .available⟩ :: events) outcome ↔
      ∀ event ∈ (⟨.availability request, Reply.returned .available⟩ ::
        events : List (TransportEvent p)), ∀ error ∈ raisedError event,
          CleanText error.message := by
  have hevents := h.events
  subst hevents
  have hreply : reply.Typed := htyped _ (List.mem_singleton_self _)
  have hreceipt : ReceiptContradicts transportId
      [(⟨.availability request, Reply.returned .available⟩ : TransportEvent p),
        ⟨.dispatch request, reply⟩] ↔
      ∃ receipt, reply = .returned receipt ∧ Contradicts request transportId receipt := by
    constructor
    · rintro ⟨other, receipt, hmem, hcontradicts⟩
      rw [List.mem_cons, List.mem_singleton] at hmem
      rcases hmem with hmem | hmem
      · cases hmem
      · cases hmem
        exact ⟨receipt, rfl, hcontradicts⟩
    · rintro ⟨receipt, rfl, hcontradicts⟩
      exact ⟨request, receipt, by simp, hcontradicts⟩
  rw [Reported, hreceipt, h.reported hreply, List.forall_mem_cons, List.forall_mem_singleton]
  constructor
  · exact fun hclean => ⟨fun error herror => absurd herror (Option.not_mem_none error), hclean⟩
  · exact fun hclean => hclean.2

/-- Once the transport was called, which means that the decision is eligible and current, the
outcome is reported exactly when the texts of the typed errors are clean. -/
theorem reported_iff {p : Platform} (registry : RuntimeEndpointRegistry p)
    (decision : RuntimeDecision p) (binding : SkillBindingResult p) (transportId : PyStr)
    (events : List (TransportEvent p)) (outcome : Except DispatchError RuntimeDispatchResult)
    (hrun : Runs (dispatch registry decision binding transportId) events outcome)
    (htyped : ∀ event ∈ events, TypedEvent event) (hinvoked : events ≠ []) :
    Reported transportId events outcome ↔
      ∀ event ∈ events, ∀ error ∈ raisedError event, CleanText error.message := by
  rcases runs_dispatch hrun with hended | ⟨request, current, name, -, rfl, hcalls⟩
  · exact absurd hended.1 hinvoked
  · rcases runs_askAvailability hcalls with ⟨reply, hturned⟩ | ⟨rest, reply, rfl, hhanded⟩
    · exact reported_of_turned hturned htyped
    · exact reported_of_handedOver hhanded fun event hmem => htyped event (List.mem_cons_of_mem _ hmem)

end Totality

section Sample

/-- The parameters conform to the schema that lists the number as an integer. -/
theorem conforms_integer : Conforms integerSchema.schema (.obj [(py "day", .int 1)]) := by
  have hvalid : (validateParameters integerSchema.schema (.obj [(py "day", .int 1)])).toOption =
      some [(py "day", .int 1)] := by
    decide
  exact ((validateParameters_ok integerSchema.built).mp (ok_of_toOption hvalid)).2.2.2.2

/-- The eligible decision on the agenda binding is current. -/
theorem agenda_calling : ∃ skills proposal safety selection registry binding current request,
    bind agendaPolicy skills proposal safety selection = .ok binding ∧
      Calling (p := agendaPlatform) registry binding current request current ∧
      ∀ invocation ∈ binding.invocation, invocation.parameters = [(py "day", .int 1)] := by
  obtain ⟨skills, proposal, safety, selection, registry, binding, invocation, endpointBinding,
    hbind, hstatus, hinvocation, hexact, hschema, hparameters, hcharacters⟩ :=
    agendaServed_parts agendaServed_integer
  have hrequestable : Requestable registry binding := by
    intro _ other hother another hanother
    rw [hinvocation, Option.mem_def, Option.some.injEq] at hother
    subst hother
    rw [hanother.unique hexact, hschema, hparameters]
    exact ⟨conforms_integer, hcharacters⟩
  obtain ⟨current, hevaluate, hdecides⟩ := (decides_iff (handed_of_bind hbind)).mpr hrequestable
  have heligible := hdecides.eligible.mpr ⟨hstatus, invocation, hinvocation, endpointBinding, hexact⟩
  obtain ⟨request, hrequest⟩ := Option.isSome_iff_exists.mp (hdecides.request.mp heligible)
  refine ⟨skills, proposal, safety, selection, registry, binding, current, request, hbind,
    ⟨heligible, hrequest, hevaluate, DecisionAttributes.same_self _⟩, ?_⟩
  intro other hother
  rw [hinvocation, Option.mem_def, Option.some.injEq] at hother
  rw [← hother, hparameters]

/-- A name for the transport of the sample runs. -/
def agendaTransport : Name := ⟨py "ros.service", by decide⟩

/-- The name is accepted. -/
theorem agendaTransport_accepted :
    validateIdentifier agendaTransport.text (py "transport_id") = .ok agendaTransport := by
  rw [validateIdentifier, Checks.unit_bind_ok, validateText_ok, dif_pos agendaTransport.canonical]
  exact ⟨⟨by decide, by decide, by decide, by decide⟩, rfl⟩

/-- A current decision leads to the calls. -/
theorem dispatch_calling {current : RuntimeDecision p}
    (h : Calling registry binding decision request current) :
    dispatch registry decision binding agendaTransport.text =
      askAvailability decision request agendaTransport := by
  have hsame : ¬(request.same request.toRequestAttributes ≠ true ∨
      sameJson (.obj request.requestFields) (.obj request.requestFields) ≠ true) := by
    simp [RequestAttributes.same_self, sameJson_self]
  rw [dispatch, if_pos h.eligible, h.request]
  dsimp only
  rw [dispatchRequest, request.build_self]
  dsimp only
  rw [if_neg hsame, h.evaluated, attempt]
  rw [if_neg (not_not_intro h.same), agendaTransport_accepted, attempt]

/-- The calls when the available transport fails with a message. -/
def failing (request : RuntimeRequest p) (message : PyStr) : List (TransportEvent p) :=
  [⟨.availability request, Reply.returned .available⟩,
    ⟨.dispatch request, Reply.raised (.failed message)⟩]

/-- The calls are typed. -/
theorem failing_typed (message : PyStr) : ∀ event ∈ failing request message, TypedEvent event := by
  intro event hmem
  rw [failing, List.mem_cons, List.mem_singleton] at hmem
  rcases hmem with rfl | rfl
  · exact ⟨nofun, nofun⟩
  · exact ⟨nofun, nofun⟩

/-- A current decision can run into the failure, which is a result when the message is text. -/
theorem runs_failing (h : Calling registry binding decision request decision) (message : PyStr) :
    ∃ outcome, Runs (dispatch registry decision binding agendaTransport.text)
      (failing request message) outcome ∧ ((∃ result, outcome = .ok result) ↔ CleanText message) := by
  have hfailure : Runs (dispatchFailure decision agendaTransport (.failed message)) []
      ((makeDispatchResult (resultFields decision .transportFailure (some .transportFailure) message
        (some agendaTransport) none)).mapError .runtime) := .done _
  have hreported := (runs_typedFailure (by decide) hfailure).2.1
  refine ⟨_, ?_, hreported⟩
  rw [dispatch_calling h]
  exact runs_ask.mpr ⟨Reply.returned .available, _, rfl,
    runs_ask.mpr ⟨Reply.raised (.failed message), _, rfl, hfailure⟩⟩

/-- A failure with a message is reported. -/
theorem reported_agenda : ∃ (registry : RuntimeEndpointRegistry agendaPlatform)
    (decision : RuntimeDecision agendaPlatform) (binding : SkillBindingResult agendaPlatform)
    (events : List (TransportEvent agendaPlatform))
    (outcome : Except DispatchError RuntimeDispatchResult),
    Runs (dispatch registry decision binding agendaTransport.text) events outcome ∧ events ≠ [] ∧
      (Reported agendaTransport.text events outcome ↔
        ∀ event ∈ events, ∀ error ∈ raisedError event, CleanText error.message) := by
  obtain ⟨-, -, -, -, registry, binding, current, request, -, hcalling, -⟩ :=
    agenda_calling
  obtain ⟨outcome, hrun, -⟩ := runs_failing hcalling (py "timeout")
  exact ⟨registry, current, binding, failing request (py "timeout"), outcome,
    hrun, List.cons_ne_nil _ _, reported_iff registry current binding agendaTransport.text _ outcome hrun
      (failing_typed _) (List.cons_ne_nil _ _)⟩

/-- A failure without message raises instead of being reported. -/
theorem not_forall_reported : ¬ ∀ (p : Platform) (registry : RuntimeEndpointRegistry p)
    (decision : RuntimeDecision p) (binding : SkillBindingResult p) (transportId : PyStr)
    (events : List (TransportEvent p)) (outcome : Except DispatchError RuntimeDispatchResult),
    decision.status = .eligible →
    (∃ current, evaluate registry binding = .ok current ∧
      current.same decision.toDecisionAttributes = true) →
    Runs (dispatch registry decision binding transportId) events outcome →
    (∀ event ∈ events, TypedEvent event) → events ≠ [] →
      Reported transportId events outcome := by
  intro hall
  obtain ⟨-, -, -, -, registry, binding, current, request, -, hcalling, -⟩ :=
    agenda_calling
  obtain ⟨outcome, hrun, hreported⟩ := runs_failing hcalling []
  have houtcome := hall agendaPlatform registry current binding agendaTransport.text _ outcome
    hcalling.eligible ⟨current, hcalling.evaluated, hcalling.same⟩ hrun (failing_typed [])
    (List.cons_ne_nil _ _)
  rcases houtcome with hresult | ⟨other, receipt, hmem, -⟩
  · exact (hreported.mp hresult).nonempty rfl
  · rw [failing, List.mem_cons, List.mem_singleton] at hmem
    rcases hmem with hmem | hmem
    · cases hmem
    · cases hmem

end Sample

end Runtime
end AyyoHumanoid
