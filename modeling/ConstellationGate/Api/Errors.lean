import ConstellationGate.Errors
import Mathlib.Tactic.Common

/-!
# Exceptions as HTTP answers

`api/errors.py`: the exception of a request is answered with a status, a code and a message.

The model keeps one class for the dispatch failures of the SDK that Gate's coroutines do not tell
apart.  Here they are told apart by a function `kind`, which is consulted for that class alone.
-/

namespace ConstellationGate

/-- The dispatch failures of the SDK that are neither connection errors nor timeouts. -/
inductive DispatchFailure
  /-- `GateDispatchAuthorityError`. -/
  | authority
  /-- `GateDispatchConfigurationError`. -/
  | configuration
  /-- `GateDispatchSecurityError`, with its direction. -/
  | security (outbound : Bool)
  /-- Any other `GateDispatchError`. -/
  | other
deriving DecidableEq, Repr

/-- `fastapi.HTTPException`; `node` is the entry `node` of its detail, where there is one. -/
structure HttpException where
  statusCode : ℕ
  code : String
  message : String
  node : Option (Option String) := none
deriving DecidableEq, Repr

/-- `_INTERNAL_ERROR_DETAIL`. -/
def internalError : HttpException := ⟨500, "internal_error", "internal server error", none⟩

/-- The answers to dispatch failures: some are Gate's own fault, the others name the worker. -/
def DispatchFailure.answer (exc : PyError) : DispatchFailure → HttpException
  | .authority => internalError
  | .configuration => internalError
  | .security true => internalError
  | .security false =>
    { statusCode := 502, code := "worker_response_untrusted", message := exc.message
      node := some exc.nodeName }
  | .other =>
    { statusCode := 502, code := "worker_transport_failed", message := exc.message
      node := some exc.nodeName }

/-- `_ADMISSION_ERRORS`. -/
def admissionErrors : List ErrorClass :=
  [.rateLimitExceededError, .loadShedError, .backpressureExceededError, .circuitBreakerOpenError]

/-- `to_http_exception`. -/
def toHttpException (kind : PyError → DispatchFailure) (exc : PyError) : HttpException :=
  if exc.isInstance [.ingressAuthorizationError] then
    { statusCode := 403, code := "action_not_permitted", message := exc.message }
  else if exc.isInstance [.ingressValidationError] then
    { statusCode := 400, code := "invalid_transport_packet", message := exc.message }
  else if exc.isInstance admissionErrors then
    { statusCode := 429, code := "admission_rejected", message := exc.message }
  else if exc.isInstance [.routingPolicyError] then
    { statusCode := 403, code := "routing_policy_violation", message := exc.message }
  else if exc.isInstance [.permissionError] then
    { statusCode := 401, code := "admin_auth_failed", message := exc.message }
  else if exc.isInstance [.noHealthyNodeError] then
    { statusCode := 503, code := "no_healthy_node", message := exc.message }
  else if exc.isInstance [.lookupError] then
    { statusCode := 404, code := "not_found", message := exc.message }
  -- before the dispatch failures: the SDK's timeout is both
  else if exc.isInstance [.timeoutError] then
    { statusCode := 504, code := "execution_timeout", message := exc.message }
  else if exc.isInstance [.gateDispatchError] then
    if exc.cls = .gateDispatchError then (kind exc).answer exc else DispatchFailure.other.answer exc
  else if exc.isInstance [.valueError] then
    { statusCode := 400, code := "invalid_request", message := exc.message }
  else internalError

/-! ### What an answer says about the exception -/

/-- The classes of the failures of a network attempt. -/
def workerErrors : List ErrorClass :=
  [.workerConnectionError, .workerTimeoutError, .gateDispatchError]

/-- The classes with which the ingress validator refuses a request. -/
def ingressErrors : List ErrorClass := [.ingressValidationError, .ingressAuthorizationError]

/-- The classes of timeouts of Gate's own. -/
def timeoutErrors : List ErrorClass := [.timeoutError, .deadlineExceeded]

/-- The classes of the exceptions that Gate and its collaborators raise for other reasons. -/
def plainErrors : List ErrorClass :=
  [.baseException, .exception, .cancelledError, .valueError, .typeError, .validationError,
    .lookupError, .runtimeError, .arithmeticError, .overflowError, .osError,
    .nodeLimitExceededError, .actionOwnershipError, .collaboratorError]

section Answers

variable {kind : PyError → DispatchFailure} {exc : PyError}

/-- An exception for another reason is answered as a bad request, as something that is not found or
as an internal error. -/
lemma toHttpException_of_plain (kind : PyError → DispatchFailure) (h : exc.cls ∈ plainErrors) :
    (toHttpException kind exc).statusCode ∈ [400, 404, 500] ∧
      (toHttpException kind exc).code ∈ ["invalid_request", "not_found", "internal_error"] := by
  obtain ⟨cls, message, nodeName, timer⟩ := exc
  simp only [plainErrors, List.mem_cons, List.not_mem_nil, or_false] at h
  rcases h with rfl | rfl | rfl | rfl | rfl | rfl | rfl | rfl | rfl | rfl | rfl | rfl | rfl |
      rfl <;>
    simp [toHttpException, PyError.isInstance, ErrorClass.mro, admissionErrors, internalError]

lemma toHttpException_of_timeout (h : exc.cls ∈ timeoutErrors) :
    toHttpException kind exc = ⟨504, "execution_timeout", exc.message, none⟩ := by
  obtain ⟨cls, message, nodeName, timer⟩ := exc
  simp only [timeoutErrors, List.mem_cons, List.not_mem_nil, or_false] at h
  rcases h with rfl | rfl <;>
    simp [toHttpException, PyError.isInstance, ErrorClass.mro, admissionErrors]

lemma toHttpException_of_admission (h : exc.cls ∈ admissionErrors) :
    toHttpException kind exc = ⟨429, "admission_rejected", exc.message, none⟩ := by
  obtain ⟨cls, message, nodeName, timer⟩ := exc
  simp only [admissionErrors, List.mem_cons, List.not_mem_nil, or_false] at h
  rcases h with rfl | rfl | rfl | rfl <;>
    simp [toHttpException, PyError.isInstance, ErrorClass.mro, admissionErrors]

lemma toHttpException_of_ingress (kind : PyError → DispatchFailure) (h : exc.cls ∈ ingressErrors) :
    (toHttpException kind exc).statusCode ∈ [400, 403] ∧
      (toHttpException kind exc).code ∈ ["invalid_transport_packet", "action_not_permitted"] := by
  obtain ⟨cls, message, nodeName, timer⟩ := exc
  simp only [ingressErrors, List.mem_cons, List.not_mem_nil, or_false] at h
  rcases h with rfl | rfl <;> simp [toHttpException, PyError.isInstance, ErrorClass.mro]

lemma toHttpException_of_noHealthyNode (h : exc.cls = .noHealthyNodeError) :
    toHttpException kind exc = ⟨503, "no_healthy_node", exc.message, none⟩ := by
  obtain ⟨cls, message, nodeName, timer⟩ := exc
  obtain rfl := h
  simp [toHttpException, PyError.isInstance, ErrorClass.mro, admissionErrors]

lemma toHttpException_of_routingPolicy (h : exc.cls = .routingPolicyError) :
    toHttpException kind exc = ⟨403, "routing_policy_violation", exc.message, none⟩ := by
  obtain ⟨cls, message, nodeName, timer⟩ := exc
  obtain rfl := h
  simp [toHttpException, PyError.isInstance, ErrorClass.mro, admissionErrors]

lemma DispatchFailure.answer_cases (failure : DispatchFailure) (exc : PyError) :
    failure.answer exc = internalError ∨
      ∃ code ∈ ["worker_response_untrusted", "worker_transport_failed"],
        failure.answer exc = ⟨502, code, exc.message, some exc.nodeName⟩ := by
  rcases failure with _ | _ | ⟨_ | _⟩ | _
  · exact .inl rfl
  · exact .inl rfl
  · exact .inr ⟨_, by simp, rfl⟩
  · exact .inl rfl
  · exact .inr ⟨_, by simp, rfl⟩

/-- A failure of a network attempt is answered as a timeout, as an internal error, or as a failure
of the worker that it names. -/
lemma toHttpException_of_worker (kind : PyError → DispatchFailure) (h : exc.cls ∈ workerErrors) :
    toHttpException kind exc = ⟨504, "execution_timeout", exc.message, none⟩ ∨
      ∃ failure : DispatchFailure, toHttpException kind exc = failure.answer exc := by
  obtain ⟨cls, message, nodeName, timer⟩ := exc
  simp only [workerErrors, List.mem_cons, List.not_mem_nil, or_false] at h
  rcases h with rfl | rfl | rfl
  · refine .inr ⟨.other, ?_⟩
    simp [toHttpException, PyError.isInstance, ErrorClass.mro, admissionErrors]
  · refine .inl ?_
    simp [toHttpException, PyError.isInstance, ErrorClass.mro, admissionErrors]
  · refine .inr ⟨kind ⟨.gateDispatchError, message, nodeName, timer⟩, ?_⟩
    simp [toHttpException, PyError.isInstance, ErrorClass.mro, admissionErrors]

end Answers

end ConstellationGate
