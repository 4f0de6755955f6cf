import ConstellationGate.Gate

/-!
# Retries

`resilience/retry_policy.py`: an execution is attempted again after certain exceptions, with
a growing delay, and within the deadline of its packet.
-/

namespace ConstellationGate

/-- How often, how long after each other, and after which exceptions an execution is
attempted. -/
structure RetryPolicy where
  maxAttempts : ℕ := defaultMaxAttempts
  delaySeconds : ℚ := 1 / 10
  backoffMultiplier : ℚ := 1
  retryableExceptions : List ErrorClass := [.timeoutError]
  one_le_maxAttempts : 1 ≤ maxAttempts
  delaySeconds_nonneg : 0 ≤ delaySeconds
  one_le_backoffMultiplier : 1 ≤ backoffMultiplier

/-- What to do after a failed attempt. -/
structure RetryDecision where
  shouldRetry : Bool
  delaySeconds : ℚ

namespace RetryPolicy

variable {Dump : Type} {α : Type}

/-- `decision_for`, for an attempt counted from 1.  The power of the multiplier has to be a float;
a delay that is too large for one is infinite, and is no failure. -/
def decisionFor (policy : RetryPolicy) (attempt : ℕ) (exc : PyError) :
    Except PyError RetryDecision :=
  if attempt < 1 then .error { cls := .valueError, message := "attempt must be >= 1" }
  else if !exc.isInstance policy.retryableExceptions || policy.maxAttempts ≤ attempt then
    .ok ⟨false, 0⟩
  else do
    let backoff ← floatPow policy.backoffMultiplier (attempt - 1)
    return ⟨true, policy.delaySeconds * backoff⟩

/-- No backoff of the policy overflows: nothing is retried, or the backoff before the last attempt,
which is the largest one, is a float. -/
def BackoffFits (policy : RetryPolicy) : Prop :=
  policy.retryableExceptions = [] ∨
    policy.backoffMultiplier ^ (policy.maxAttempts - 2) < Binary64.overflowThreshold

/-- A backoff that overflows is one of a policy that does not fit. -/
lemma not_backoffFits {policy : RetryPolicy} {attempt : ℕ} {exc : PyError}
    (hretryable : exc.isInstance policy.retryableExceptions = true)
    (hattempt : attempt < policy.maxAttempts)
    (hover : (Binary64.overflowThreshold : ℚ) ≤ policy.backoffMultiplier ^ (attempt - 1)) :
    ¬ policy.BackoffFits := by
  rintro (hnone | hfits)
  · rw [hnone, PyError.isInstance_nil] at hretryable
    cases hretryable
  · have hmono : policy.backoffMultiplier ^ (attempt - 1) ≤
        policy.backoffMultiplier ^ (policy.maxAttempts - 2) :=
      pow_le_pow_right₀ policy.one_le_backoffMultiplier (by omega)
    exact absurd (hover.trans hmono) (not_le.2 hfits)

/-- A policy that does not fit retries an exception, and has more than two attempts. -/
lemma of_not_backoffFits {policy : RetryPolicy} (h : ¬ policy.BackoffFits) :
    (∃ cls rest, policy.retryableExceptions = cls :: rest) ∧ 2 < policy.maxAttempts ∧
      (Binary64.overflowThreshold : ℚ) ≤ policy.backoffMultiplier ^ (policy.maxAttempts - 2) := by
  rw [BackoffFits, not_or, not_lt] at h
  obtain ⟨hretryable, hover⟩ := h
  refine ⟨List.exists_cons_of_ne_nil hretryable, ?_, hover⟩
  by_contra hfew
  have hzero : policy.maxAttempts - 2 = 0 := by omega
  rw [hzero, pow_zero] at hover
  have hone : (1 : ℚ) < Binary64.overflowThreshold := by
    exact_mod_cast Binary64.one_lt_overflowThreshold
  exact absurd hover (not_le.2 hone)

/-- `deadline is not None and deadline.expired()`. -/
def deadlineExpired : Option Deadline → Co (gate Dump) Bool
  | none => pure false
  | some d => do
    let now ← Co.call readMonotonic
    pure (d.expired now)

/-- `deadline is not None and delay_seconds >= deadline.remaining_seconds()`. -/
def sleepOutlives (delaySeconds : ℚ) : Option Deadline → Co (gate Dump) Bool
  | none => pure false
  | some d => do
    let now ← Co.call readMonotonic
    pure (decide (d.remainingSeconds now ≤ delaySeconds))

/-- `asyncio.sleep(delay_seconds)`, for a positive delay. -/
def sleep (delaySeconds : ℚ) : Co (gate Dump) Unit :=
  if 0 < delaySeconds then retrySleep delaySeconds else pure ()

/-- The loop of `run`, with the attempts that are left, the number of the next one and the
last exception. -/
def attempts (policy : RetryPolicy) (func : Co (gate Dump) α) (deadline : Option Deadline) :
    ℕ → ℕ → Option PyError → Co (gate Dump) α
  | 0, _, lastExc =>
    -- not reached: a policy has at least one attempt, and the last one raises
    Co.raise (lastExc.getD { cls := .exception, message := "AssertionError" })
  | left + 1, attempt, _ =>
    func.handle fun
      | .ok a => Co.done (.ok a)
      | .error exc => do
        let decision ← liftExcept (policy.decisionFor attempt exc)
        if !decision.shouldRetry then Co.raise exc
        else if ← sleepOutlives decision.delaySeconds deadline then Co.raise exc
        else
          sleep decision.delaySeconds
          if ← deadlineExpired deadline then Co.raise exc
          else policy.attempts func deadline left (attempt + 1) (some exc)

/-- `run`: attempt an execution until it returns or is not to be attempted again. -/
def run (policy : RetryPolicy) (func : Co (gate Dump) α) (deadline : Option Deadline) :
    Co (gate Dump) α :=
  policy.attempts func deadline policy.maxAttempts 1 none

end RetryPolicy

end ConstellationGate
