import ConstellationGate.Lib.Binary64
import ConstellationGate.Lib.Text

/-!
# Exceptions

The exception classes that Gate raises, catches or distinguishes, with the classes they
derive from.  The classes of the node SDK are `workerConnectionError`,
`workerTimeoutError` (a `TimeoutError` as well) and their base `gateDispatchError`, which
stands for its other dispatch failures; `collaboratorError` stands for any other
exception of injected code.
-/

namespace ConstellationGate

-- the names of the source are compared after `normalize` everywhere
export Text (normalize)

/-- The classes of exceptions. -/
inductive ErrorClass
  | baseException
  | exception
  | cancelledError
  | valueError
  | typeError
  | lookupError
  | runtimeError
  | arithmeticError
  | overflowError
  | osError
  | permissionError
  | timeoutError
  | validationError
  | deadlineExceeded
  | noHealthyNodeError
  | actionOwnershipError
  | nodeLimitExceededError
  | routingPolicyError
  | ingressValidationError
  | ingressAuthorizationError
  | rateLimitExceededError
  | loadShedError
  | backpressureExceededError
  | circuitBreakerOpenError
  | workerConnectionError
  | workerTimeoutError
  | gateDispatchError
  | collaboratorError
deriving DecidableEq, Repr

namespace ErrorClass

/-- A class and the classes it derives from. -/
def mro : ErrorClass → List ErrorClass
  | baseException => [baseException]
  | exception => [exception, baseException]
  | cancelledError => [cancelledError, baseException]
  | valueError => [valueError, exception, baseException]
  | typeError => [typeError, exception, baseException]
  | lookupError => [lookupError, exception, baseException]
  | runtimeError => [runtimeError, exception, baseException]
  | arithmeticError => [arithmeticError, exception, baseException]
  | overflowError => [overflowError, arithmeticError, exception, baseException]
  | osError => [osError, exception, baseException]
  | permissionError => [permissionError, osError, exception, baseException]
  | timeoutError => [timeoutError, osError, exception, baseException]
  | validationError => [validationError, valueError, exception, baseException]
  | deadlineExceeded => [deadlineExceeded, timeoutError, osError, exception, baseException]
  | noHealthyNodeError => [noHealthyNodeError, lookupError, exception, baseException]
  | actionOwnershipError => [actionOwnershipError, valueError, exception, baseException]
  | nodeLimitExceededError => [nodeLimitExceededError, runtimeError, exception, baseException]
  | routingPolicyError => [routingPolicyError, exception, baseException]
  | ingressValidationError => [ingressValidationError, exception, baseException]
  | ingressAuthorizationError => [ingressAuthorizationError, exception, baseException]
  | rateLimitExceededError => [rateLimitExceededError, runtimeError, exception, baseException]
  | loadShedError => [loadShedError, runtimeError, exception, baseException]
  | backpressureExceededError =>
    [backpressureExceededError, runtimeError, exception, baseException]
  | circuitBreakerOpenError => [circuitBreakerOpenError, runtimeError, exception, baseException]
  | workerConnectionError =>
    [workerConnectionError, gateDispatchError, exception, baseException]
  | workerTimeoutError =>
    [workerTimeoutError, gateDispatchError, timeoutError, osError, exception, baseException]
  | gateDispatchError => [gateDispatchError, exception, baseException]
  | collaboratorError => [collaboratorError, exception, baseException]

/-- The name of the class. -/
def name : ErrorClass → String
  | baseException => "BaseException"
  | exception => "Exception"
  | cancelledError => "CancelledError"
  | valueError => "ValueError"
  | typeError => "TypeError"
  | lookupError => "LookupError"
  | runtimeError => "RuntimeError"
  | arithmeticError => "ArithmeticError"
  | overflowError => "OverflowError"
  | osError => "OSError"
  | permissionError => "PermissionError"
  | timeoutError => "TimeoutError"
  | validationError => "ValidationError"
  | deadlineExceeded => "DeadlineExceeded"
  | noHealthyNodeError => "NoHealthyNodeError"
  | actionOwnershipError => "ActionOwnershipError"
  | nodeLimitExceededError => "NodeLimitExceededError"
  | routingPolicyError => "RoutingPolicyError"
  | ingressValidationError => "IngressValidationError"
  | ingressAuthorizationError => "IngressAuthorizationError"
  | rateLimitExceededError => "RateLimitExceededError"
  | loadShedError => "LoadShedError"
  | backpressureExceededError => "BackpressureExceededError"
  | circuitBreakerOpenError => "CircuitBreakerOpenError"
  | workerConnectionError => "WorkerConnectionError"
  | workerTimeoutError => "WorkerTimeoutError"
  | gateDispatchError => "GateDispatchError"
  | collaboratorError => "Exception"

end ErrorClass

/-- A raised exception. -/
structure PyError where
  cls : ErrorClass
  message : String := ""
  /-- The worker to which the dispatcher attributes a failure. -/
  nodeName : Option String := none
  /-- For a cancellation: it comes from the timer of the enclosing `wait_for` alone. -/
  timer : Bool := false
deriving DecidableEq, Repr

namespace PyError

/-- `isinstance(exc, classes)`. -/
def isInstance (e : PyError) (classes : List ErrorClass) : Bool :=
  e.cls.mro.any fun c => decide (c ∈ classes)

/-- Nothing is an instance of no class. -/
lemma isInstance_nil (e : PyError) : e.isInstance [] = false := by
  simp [isInstance]

/-- Every exception is an instance of its class. -/
lemma isInstance_self (e : PyError) (classes : List ErrorClass) :
    e.isInstance (e.cls :: classes) = true := by
  rw [isInstance, List.any_eq_true]
  refine ⟨e.cls, ?_, by simp⟩
  cases e.cls <;> simp [ErrorClass.mro]

/-- The exception is caught by `except Exception`. -/
def isException (e : PyError) : Bool := e.isInstance [.exception]

/-- `asyncio.CancelledError`, raised at an await by `Task.cancel`. -/
def cancelled : PyError := { cls := .cancelledError }

/-- The cancellation by which `asyncio.wait_for` ends what it waits for. -/
def expired : PyError := { cls := .cancelledError, timer := true }

end PyError

/-- An outcome whose value passes a test is a value. -/
lemma exists_ok_of_any {α : Type*} {x : Except PyError α} {p : α → Bool}
    (h : x.toOption.any p = true) : ∃ a, x = .ok a ∧ p a = true := by
  cases x with
  | error e => cases h
  | ok a => exact ⟨a, rfl, h⟩

/-- A sequence of two computations returns when both do. -/
lemma bind_ok_iff {α β : Type} {x : Except PyError α} {f : α → Except PyError β} {b : β} :
    (x >>= f) = .ok b ↔ ∃ a, x = .ok a ∧ f a = .ok b := by
  rcases x with e | a
  · simp [bind, Except.bind]
  · simp [bind, Except.bind]

/-- A sequence of two computations fails when one of them does. -/
lemma bind_error_iff {α β : Type} {x : Except PyError α} {f : α → Except PyError β} {e : PyError} :
    (x >>= f) = .error e ↔ (∃ a, x = .ok a ∧ f a = .error e) ∨ x = .error e := by
  rcases x with e' | a
  · simp [bind, Except.bind]
  · simp [bind, Except.bind]

lemma pure_ok_iff {α : Type*} {a b : α} : (pure a : Except PyError α) = .ok b ↔ a = b :=
  Except.ok.injEq a b ▸ Iff.rfl

/-- What a guard lets through. -/
lemma guard_ok_iff {α : Type*} {p : Prop} [Decidable p] {e : PyError} {x : Except PyError α}
    {a : α} : (if p then .error e else x) = .ok a ↔ ¬ p ∧ x = .ok a := by
  by_cases hp : p
  · simp [hp]
  · simp [hp]

/-- A loop over checks passes when every check does. -/
lemma forM_eq_ok_iff {α : Type*} {l : List α} {f : α → Except PyError PUnit} :
    l.forM f = .ok ⟨⟩ ↔ ∀ a ∈ l, f a = .ok ⟨⟩ := by
  induction l with
  | nil => simp [pure, Except.pure]
  | cons a l ih =>
    change (f a >>= fun _ => l.forM f) = _ ↔ _
    rcases ha : f a with e | u
    · simp [bind, Except.bind, ha]
    · simp only [bind, Except.bind, List.mem_cons, forall_eq_or_imp, ha, true_and]
      exact ih

/-! ### Floats that overflow -/

/-- `float(n)`. -/
def floatOfNat (n : ℕ) : Except PyError ℚ :=
  if n < Binary64.overflowThreshold then .ok n
  else .error { cls := .overflowError, message := "int too large to convert to float" }

/-- What the power of a float raises that is out of range. -/
def powerOverflow : PyError :=
  { cls := .overflowError, message := "(34, 'Numerical result out of range')" }

/-- `x ** n`, for a float `x` that is not negative. -/
def floatPow (x : ℚ) (n : ℕ) : Except PyError ℚ :=
  if x ^ n < Binary64.overflowThreshold then .ok (x ^ n) else .error powerOverflow

end ConstellationGate
