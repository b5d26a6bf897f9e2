import AyyoHumanoid.Interactions
import AyyoHumanoid.RuntimeDecisions

/-!
# The transport boundary

The dispatcher reviews an eligible decision once more, asks an explicitly given
transport whether it is available and hands it the request. The transport is the
environment: it answers each call as it likes, with a value, with one of the
typed transport errors or otherwise.
-/

namespace AyyoHumanoid
namespace Runtime

open PyText JsonText Contracts Skills
open World (Name Digest IsCanonical)

section Contracts

/-- `validate_text` of the runtime bridge. -/
def validateText (value fieldName : PyStr) : Except RuntimeError Unit := do
  require (value ≠ [] ∧ value = strip value)
    (.invalidContract (fieldName ++ py " must be a non-empty trimmed string"))
  require (value.length ≤ maxTextLength)
    (.invalidContract (fieldName ++ py " exceeds the text length limit"))
  require (utf8Encodable value = true)
    (.invalidContract (fieldName ++ py " contains invalid Unicode"))

/-- The text check passes exactly on clean text. -/
theorem validateText_ok {value fieldName : PyStr} :
    validateText value fieldName = .ok () ↔ CleanText value := by
  rw [validateText, Checks.require_bind_ok, Checks.require_bind_ok, Checks.require_ok]
  constructor
  · intro h
    exact ⟨h.1.1, h.2.1, h.1.2, h.2.2⟩
  · intro h
    exact ⟨⟨h.nonempty, h.stripped⟩, h.bounded, h.encodable⟩

/-- `validate_identifier` of the runtime bridge. -/
def validateIdentifier (value fieldName : PyStr) : Except RuntimeError Name := do
  validateText value fieldName
  if hcanonical : IsCanonical 256 value then pure ⟨value, hcanonical⟩
  else .error (.invalidContract
    (fieldName ++ py " must be a lowercase ASCII identifier using '.', '-', or '_'"))

/-- The identifier check returns the identifier. -/
theorem validateIdentifier_ok {value fieldName : PyStr} {name : Name}
    (h : validateIdentifier value fieldName = .ok name) : name.text = value := by
  rw [validateIdentifier, Checks.unit_bind_ok] at h
  by_cases hcanonical : IsCanonical 256 value
  · rw [dif_pos hcanonical, Checks.pure_ok] at h
    exact congrArg World.Identifier.text h.2.symm
  · rw [dif_neg hcanonical] at h
    cases h.2

/-- `RuntimeTransportAvailability`. -/
inductive TransportAvailability where
  | available | unavailable
  deriving DecidableEq, Repr

/-- `TransportAcceptance`. -/
inductive TransportAcceptance where
  | accepted | rejected
  deriving DecidableEq, Repr

/-- `TransportReceipt`; its request fingerprint is known by its digest. -/
structure TransportReceipt where
  transportId : Name
  requestId : ContractText
  /-- The digest of `request_fingerprint`. -/
  requestDigest : Digest
  acceptance : TransportAcceptance
  correlationId : ContractText
  detail : ContractText
  deriving DecidableEq

/-- `RuntimeResultStatus`. -/
inductive RuntimeResultStatus where
  | notEligible | notDispatched | transportUnavailable | rejectedBeforeDispatch
  | transportRejected | acceptedByTransport | transportFailure
  deriving DecidableEq, Repr

/-- `RuntimeFailureCode`. -/
inductive RuntimeFailureCode where
  | decisionNotEligible | dispatchNotAttempted | staleDecision | transportUnavailable
  | transportRejected | transportFailure
  deriving DecidableEq, Repr

/-- The identity of a request: `request_id` and the digest of `request_fingerprint`. -/
structure RequestIdentity where
  requestId : PyStr
  /-- The digest of `request_fingerprint`. -/
  digest : Digest
  deriving DecidableEq

/-- The fields of a `RuntimeDispatchResult`; its fingerprints are known by their digests. -/
structure DispatchFields where
  status : RuntimeResultStatus
  decisionId : PyStr
  /-- The digest of `decision_fingerprint`. -/
  decisionDigest : Digest
  /-- `request_id` and `request_fingerprint`. -/
  request : Option RequestIdentity
  transportId : Option Name
  failureCode : Option RuntimeFailureCode
  detail : PyStr
  receipt : Option TransportReceipt
  deriving DecidableEq

/-- The check of the request identity. -/
def checkIdentity : Option RequestIdentity → Except RuntimeError Unit
  | none => .ok ()
  | some request => validateText request.requestId (py "runtime result request_id")

/-- The checks of the receipt and the failure code against the status. -/
def DispatchFields.checkReceipt (fields : DispatchFields) : Except RuntimeError Unit :=
  if fields.status = .acceptedByTransport then
    require (fields.failureCode = none ∧
        ∃ receipt ∈ fields.receipt, receipt.acceptance = .accepted)
      (.invalidContract (py "accepted result requires an accepted transport receipt"))
  else do
    require (∀ receipt ∈ fields.receipt,
        fields.status = .transportRejected ∧ receipt.acceptance = .rejected)
      (.invalidContract
        (py "only accepted or explicitly rejected results may carry receipts"))
    require (fields.failureCode ≠ none)
      (.invalidContract (py "non-accepted runtime result requires a typed failure code"))

/-- The checks of `RuntimeDispatchResult`. -/
def DispatchFields.check (fields : DispatchFields) : Except RuntimeError Unit := do
  validateText fields.decisionId (py "runtime result decision_id")
  checkIdentity fields.request
  validateText fields.detail (py "runtime result detail")
  fields.checkReceipt

/-- A `RuntimeDispatchResult`: fields that passed the checks of its constructor. -/
structure RuntimeDispatchResult extends DispatchFields where
  /-- The fields passed the checks. -/
  checked : toDispatchFields.check = .ok ()

/-- `RuntimeDispatchResult(...)`. -/
def makeDispatchResult : DispatchFields → Except RuntimeError RuntimeDispatchResult :=
  construct DispatchFields.check fun fields h => ⟨fields, h⟩

end Contracts

section Calls

variable (p : Platform)

/-- The typed transport errors with `str(error)`. -/
inductive TransportError where
  /-- `RuntimeTransportUnavailableError`. -/
  | unavailable (message : PyStr)
  /-- `RuntimeTransportRejectedError`. -/
  | rejected (message : PyStr)
  /-- Another `RuntimeTransportError`. -/
  | failed (message : PyStr)
  deriving DecidableEq

/-- `str(error)`. -/
def TransportError.message : TransportError → PyStr
  | .unavailable message => message
  | .rejected message => message
  | .failed message => message

/-- How a call of the transport ends. -/
inductive Reply (α : Type) where
  /-- It returns a value of the declared type. -/
  | returned (value : α)
  /-- It raises a typed transport error. -/
  | raised (error : TransportError)
  /-- It returns something else. -/
  | malformed
  /-- It raises another exception. -/
  | escaped
  deriving DecidableEq

/-- The call ended as it is declared to. -/
def Reply.Typed {α : Type} (reply : Reply α) : Prop := reply ≠ .malformed ∧ reply ≠ .escaped

/-- The typed error that the call raised. -/
def Reply.error {α : Type} : Reply α → Option TransportError
  | .raised error => some error
  | _ => none

/-- The calls that the dispatcher makes to the transport. -/
inductive TransportCall where
  /-- `transport.availability`. -/
  | availability (request : RuntimeRequest p)
  /-- `transport.dispatch`. -/
  | dispatch (request : RuntimeRequest p)

variable {p}

/-- The type of the answer to a call. -/
def TransportCall.Answer : TransportCall p → Type
  | .availability _ => Reply TransportAvailability
  | .dispatch _ => Reply TransportReceipt

/-- A call of the transport with its answer. -/
abbrev TransportEvent (p : Platform) : Type :=
  Interaction.Event (TransportCall p) TransportCall.Answer

/-- What `dispatch` raises. -/
inductive DispatchError where
  /-- An exception of the runtime bridge. -/
  | runtime (error : RuntimeError)
  /-- Another exception of the transport. -/
  | escaped
  deriving DecidableEq

/-- What `dispatch` comes to: it calls the transport and returns a result or raises. -/
abbrev Dispatching (p : Platform) : Type :=
  Interaction (TransportCall p) TransportCall.Answer (Except DispatchError RuntimeDispatchResult)

end Calls

section Dispatcher

variable {p : Platform}

/-- An exception of the runtime bridge leaves `dispatch`. -/
def refuse (error : RuntimeError) : Dispatching p := .done (.error (.runtime error))

/-- The steps after a computation that may raise. -/
def attempt {α : Type} (result : Except RuntimeError α) (next : α → Dispatching p) :
    Dispatching p :=
  match result with
  | .error error => refuse error
  | .ok value => next value

/-- The fields of `_result`. -/
def resultFields (decision : RuntimeDecision p) (status : RuntimeResultStatus)
    (failureCode : Option RuntimeFailureCode) (detail : PyStr) (transportId : Option Name)
    (receipt : Option TransportReceipt) : DispatchFields where
  status := status
  decisionId := decision.decisionId
  decisionDigest := decision.digest
  request := decision.request.map fun request => ⟨request.requestId, request.digest⟩
  transportId := transportId
  failureCode := failureCode
  detail := detail
  receipt := receipt

/-- `return _result(...)`. -/
def report (fields : DispatchFields) : Dispatching p :=
  .done ((makeDispatchResult fields).mapError .runtime)

/-- The exception is a `RuntimeValidationError`. -/
def RuntimeError.isValidation : RuntimeError → Bool
  | .assertion => false
  | _ => true

/-- The result of a refusal before any call of the transport. -/
def withheld (decision : RuntimeDecision p) (detail : String) : Dispatching p :=
  report (resultFields decision .rejectedBeforeDispatch (some .staleDecision) (py detail) none none)

/-- The detail of a result that the transport accepted. -/
def acceptedDetail : PyStr :=
  py "Transport accepted the request; physical or task completion is not established."

/-- `dispatch` from the receipt on. -/
def settle (decision : RuntimeDecision p) (request : RuntimeRequest p) (transportId : Name)
    (receipt : TransportReceipt) : Dispatching p :=
  if receipt.transportId ≠ transportId ∨ receipt.requestId.text ≠ request.requestId ∨
      receipt.requestDigest ≠ request.digest then
    refuse (.invalidContract (py "transport receipt does not match the dispatched runtime request"))
  else if receipt.acceptance = .rejected then
    report (resultFields decision .transportRejected (some .transportRejected) receipt.detail.text
      (some transportId) (some receipt))
  else
    report (resultFields decision .acceptedByTransport none acceptedDetail (some transportId)
      (some receipt))

/-- The result of a typed error; the calls differ in what a rejection comes to. -/
def typedFailure (decision : RuntimeDecision p) (transportId : Name)
    (rejected : RuntimeResultStatus × RuntimeFailureCode) : TransportError → Dispatching p
  | .unavailable message => report (resultFields decision .transportUnavailable
      (some .transportUnavailable) message (some transportId) none)
  | .rejected message => report (resultFields decision rejected.1 (some rejected.2) message
      (some transportId) none)
  | .failed message => report (resultFields decision .transportFailure
      (some .transportFailure) message (some transportId) none)

/-- The result of a typed error that `transport.dispatch` raises. -/
def dispatchFailure (decision : RuntimeDecision p) (transportId : Name) :
    TransportError → Dispatching p :=
  typedFailure decision transportId (.transportRejected, .transportRejected)

/-- The result of a typed error that `transport.availability` raises. -/
def availabilityFailure (decision : RuntimeDecision p) (transportId : Name) :
    TransportError → Dispatching p :=
  typedFailure decision transportId (.transportFailure, .transportFailure)

/-- `dispatch` from the call of `transport.dispatch` on. -/
def handOver (decision : RuntimeDecision p) (request : RuntimeRequest p) (transportId : Name) :
    Dispatching p :=
  .ask (.dispatch request) fun reply => match reply with
    | .returned receipt => settle decision request transportId receipt
    | .raised error => dispatchFailure decision transportId error
    | .malformed =>
      refuse (.invalidContract (py "transport returned an invalid receipt contract"))
    | .escaped => .done (.error .escaped)

/-- `dispatch` from the call of `transport.availability` on. -/
def askAvailability (decision : RuntimeDecision p) (request : RuntimeRequest p)
    (transportId : Name) : Dispatching p :=
  .ask (.availability request) fun reply => match reply with
    | .returned .available => handOver decision request transportId
    | .returned .unavailable => report (resultFields decision .transportUnavailable
        (some .transportUnavailable) (py "The configured transport reported itself unavailable.")
        (some transportId) none)
    | .raised error => availabilityFailure decision transportId error
    | .malformed =>
      refuse (.invalidContract (py "transport returned an invalid availability state"))
    | .escaped => .done (.error .escaped)

/-- `dispatch` of an eligible decision. -/
def dispatchRequest (registry : RuntimeEndpointRegistry p) (decision : RuntimeDecision p)
    (request : RuntimeRequest p) (currentBinding : SkillBindingResult p) (transportId : PyStr) :
    Dispatching p :=
  match request.toRequestContent.build with
  | .error error =>
    if error.isValidation then
      withheld decision "The runtime request failed integrity reconstruction."
    else refuse error
  | .ok rebuilt =>
    if rebuilt.same request.toRequestAttributes ≠ true ∨
        sameJson (.obj rebuilt.requestFields) (.obj request.requestFields) ≠ true then
      withheld decision "The runtime request changed after eligibility evaluation."
    else
      attempt (evaluate registry currentBinding) fun current =>
        if current.same decision.toDecisionAttributes ≠ true then
          withheld decision "Runtime or upstream state changed after eligibility evaluation."
        else
          attempt (validateIdentifier transportId (py "transport_id")) fun transportId =>
            askAvailability decision request transportId

/-- `RuntimeDispatcher.dispatch` of a dispatcher with a registry. -/
def dispatch (registry : RuntimeEndpointRegistry p) (decision : RuntimeDecision p)
    (currentBinding : SkillBindingResult p) (transportId : PyStr) : Dispatching p :=
  if decision.status = .eligible then
    match decision.request with
    | none => refuse .assertion
    | some request => dispatchRequest registry decision request currentBinding transportId
  else
    report (resultFields decision .notEligible (some .decisionNotEligible)
      (py "Runtime eligibility was not established; no transport was called.") none none)

end Dispatcher

end Runtime
end AyyoHumanoid
