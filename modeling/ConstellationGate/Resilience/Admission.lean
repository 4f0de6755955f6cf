import ConstellationGate.Errors
import ConstellationGate.Lib.Clock
import ConstellationGate.Lib.Dict
import Mathlib.Data.Rat.Floor
import Mathlib.Tactic.Linarith

/-!
# Admission control

`resilience/rate_limiter.py`, `load_shedding.py`, `backpressure.py` and
`circuit_breaker.py`: the guards that an `execute` call passes before it counts as in
flight.  A guard that refuses raises and changes nothing, except that an open breaker
whose recovery time is over lets a call through as half-open.
-/

namespace ConstellationGate

/-- The default limit of every guard, a million, is admissible. -/
lemma one_le_million : 1 ≤ 1000000 := by omega

/-! ### Rate limiter -/

/-- A fixed-window rate limiter: for each key the window of its last call and the number of
calls accepted in it. -/
structure FixedWindowRateLimiter where
  maxRequests : ℕ
  windowSeconds : ℚ
  counters : Dict String (ℤ × ℕ)
  one_le_maxRequests : 1 ≤ maxRequests
  windowSeconds_pos : 0 < windowSeconds

/-- What `decision_for` answers. -/
structure RateLimitDecision where
  allowed : Bool
  retryAfterSeconds : ℚ

namespace FixedWindowRateLimiter

variable (limiter : FixedWindowRateLimiter)

/-- `_window_index`. -/
def windowIndex (now : ℚ) : ℤ := ⌊now / limiter.windowSeconds⌋

/-- `_count_for`. -/
def countFor (key : String) (windowIndex : ℤ) : ℕ :=
  match limiter.counters.get? key with
  | none => 0
  | some stored => if stored.1 ≠ windowIndex then 0 else stored.2

/-- `_retry_after`. -/
def retryAfter (windowIndex : ℤ) (now : ℚ) : ℚ :=
  max 0 ((windowIndex + 1) * limiter.windowSeconds - now)

/-- `decision_for`. -/
def decisionFor (key : String) (now : ℚ) : RateLimitDecision :=
  let index := limiter.windowIndex now
  if limiter.countFor key index < limiter.maxRequests then ⟨true, 0⟩
  else ⟨false, limiter.retryAfter index now⟩

/-- `allow`. -/
def allow (key : String) (now : ℚ) : Except PyError Unit × FixedWindowRateLimiter :=
  let index := limiter.windowIndex now
  let count := limiter.countFor key index
  if limiter.maxRequests ≤ count then
    (.error { cls := .rateLimitExceededError,
              message := "rate limit exceeded for key=" ++ Text.quoted key ++ "; retry after "
                ++ Text.fixed3 (limiter.retryAfter index now) ++ "s" }, limiter)
  else (.ok (), { limiter with counters := limiter.counters.set key (index, count + 1) })

/-- The limiter refuses with one class of exception. -/
lemma cls_of_allow {limiter : FixedWindowRateLimiter} {key : String} {now : ℚ}
    {e : PyError} (h : (limiter.allow key now).1 = .error e) : e.cls = .rateLimitExceededError := by
  rw [allow] at h
  split at h
  · cases h
    rfl
  · cases h

end FixedWindowRateLimiter

/-! ### Load shedding and backpressure -/

/-- The limit on the requests in flight. -/
structure LoadSheddingPolicy where
  maxInFlight : ℕ
  one_le_maxInFlight : 1 ≤ maxInFlight

/-- `LoadSheddingPolicy.enforce`. -/
def LoadSheddingPolicy.enforce (policy : LoadSheddingPolicy) (inFlight : ℤ) : Except PyError Unit :=
  if inFlight < 0 then .error { cls := .valueError, message := "in_flight must be >= 0" }
  else if policy.maxInFlight ≤ inFlight then
    .error { cls := .loadShedError, message := "in_flight_limit_exceeded" }
  else .ok ()

/-- A refusal of the load shedding means that the limit is reached. -/
lemma LoadSheddingPolicy.le_of_enforce {policy : LoadSheddingPolicy} {inFlight : ℤ} {e : PyError}
    (h : policy.enforce inFlight = .error e) :
    e.cls = .valueError ∨ e.cls = .loadShedError ∧ policy.maxInFlight ≤ inFlight := by
  rw [enforce] at h
  split at h
  · cases h
    exact Or.inl rfl
  split at h
  · rename_i hle
    cases h
    exact Or.inr ⟨rfl, hle⟩
  · cases h

/-- The limit on the depth of the queue. -/
structure BackpressurePolicy where
  maxQueueDepth : ℕ
  one_le_maxQueueDepth : 1 ≤ maxQueueDepth

/-- `BackpressurePolicy.enforce`. -/
def BackpressurePolicy.enforce (policy : BackpressurePolicy) (queueDepth : ℤ) :
    Except PyError Unit :=
  if queueDepth < 0 then .error { cls := .valueError, message := "queue_depth must be >= 0" }
  else if policy.maxQueueDepth ≤ queueDepth then
    .error { cls := .backpressureExceededError, message := "queue_depth_limit_exceeded" }
  else .ok ()

lemma BackpressurePolicy.cls_of_enforce {policy : BackpressurePolicy} {queueDepth : ℤ}
    {e : PyError} (h : policy.enforce queueDepth = .error e) :
    e.cls = .valueError ∨ e.cls = .backpressureExceededError := by
  rw [enforce] at h
  split at h
  · cases h
    exact Or.inl rfl
  split at h
  · cases h
    exact Or.inr rfl
  · cases h

/-! ### Circuit breaker -/

inductive BreakerState
  | closed | opened | halfOpen
deriving DecidableEq, Repr

/-- A circuit breaker; an open one knows since when. -/
structure CircuitBreaker where
  failureThreshold : ℕ
  recoveryTimeoutSeconds : ℚ
  state : BreakerState
  failureCount : ℕ
  openedAt : Option ℚ
  one_le_failureThreshold : 1 ≤ failureThreshold
  recoveryTimeoutSeconds_pos : 0 < recoveryTimeoutSeconds
  openedAt_of_opened : state = .opened → openedAt.isSome

/-- A closed breaker needs no time of opening. -/
lemma openedAt_of_closed : BreakerState.closed = .opened → (none : Option ℚ).isSome := by
  intro h
  cases h

namespace CircuitBreaker

variable (b : CircuitBreaker)

/-- `before_call`. -/
def beforeCall (now : ℚ) : Except PyError Unit × CircuitBreaker :=
  if h : b.state = .opened then
    let openedAt := b.openedAt.get (b.openedAt_of_opened h)
    if b.recoveryTimeoutSeconds ≤ now - openedAt then
      (.ok (), { b with state := .halfOpen, openedAt_of_opened := fun h => by cases h })
    else
      (.error { cls := .circuitBreakerOpenError, message := "circuit breaker is open" }, b)
  else (.ok (), b)

lemma cls_of_beforeCall {b : CircuitBreaker} {now : ℚ} {e : PyError}
    (h : (b.beforeCall now).1 = .error e) : e.cls = .circuitBreakerOpenError := by
  rw [beforeCall] at h
  split at h
  · simp only at h
    split at h
    · cases h
    · cases h
      rfl
  · cases h

lemma failureCount_beforeCall (now : ℚ) :
    (b.beforeCall now).2.failureCount = b.failureCount := by
  rw [beforeCall]
  split
  · simp only
    split <;> rfl
  · rfl

/-- `record_success`. -/
def recordSuccess : CircuitBreaker :=
  { b with state := .closed, failureCount := 0, openedAt := none,
           openedAt_of_opened := fun h => by cases h }

/-- `_trip_open`. -/
def tripOpen (now : ℚ) : CircuitBreaker :=
  { b with state := .opened, openedAt := some now, openedAt_of_opened := fun _ => rfl }

/-- `record_failure`. -/
def recordFailure (now : ℚ) : CircuitBreaker :=
  if b.state = .halfOpen then b.tripOpen now
  else
    let counted := { b with failureCount := b.failureCount + 1 }
    if b.failureThreshold ≤ b.failureCount + 1 then counted.tripOpen now else counted

/-- The failure opens the breaker. -/
def trips : Bool :=
  b.state = .halfOpen ∨ b.failureThreshold ≤ b.failureCount + 1

variable (now : ℚ)

/-- A half-open breaker needs no time of opening. -/
lemma openedAt_of_halfOpen : BreakerState.halfOpen = .opened → b.openedAt.isSome := by
  intro h
  cases h

/-- The breaker that lets a call through to see whether the service is back. -/
def halfOpened : CircuitBreaker :=
  { b with state := .halfOpen, openedAt_of_opened := b.openedAt_of_halfOpen }

/-- A breaker refuses a call only while it is open and its recovery time is not over. -/
lemma beforeCall_cases :
    b.state ≠ .opened ∧ b.beforeCall now = (.ok (), b) ∨
      ∃ openedAt, b.state = .opened ∧ b.openedAt = some openedAt ∧
        (now < openedAt + b.recoveryTimeoutSeconds ∧ (b.beforeCall now).1.toBool = false ∧
            (b.beforeCall now).2 = b ∨
          openedAt + b.recoveryTimeoutSeconds ≤ now ∧
            b.beforeCall now = (.ok (), b.halfOpened)) := by
  rw [beforeCall]
  split
  · rename_i hopen
    obtain ⟨openedAt, ho⟩ := Option.isSome_iff_exists.1 (b.openedAt_of_opened hopen)
    have hget : b.openedAt.get (b.openedAt_of_opened hopen) = openedAt := by
      simp only [ho, Option.get_some]
    refine Or.inr ⟨openedAt, hopen, ho, ?_⟩
    simp only [hget]
    split
    · rename_i hover
      exact Or.inr ⟨by linarith, rfl⟩
    · rename_i hover
      exact Or.inl ⟨by linarith, rfl, rfl⟩
  · rename_i hopen
    exact Or.inl ⟨hopen, rfl⟩

/-- A failure opens the breaker, or only counts. -/
lemma recordFailure_cases :
    (b.recordFailure now).failureThreshold = b.failureThreshold ∧
      (b.recordFailure now).recoveryTimeoutSeconds = b.recoveryTimeoutSeconds ∧
      (b.trips = true ∧ (b.recordFailure now).state = .opened ∧
          (b.recordFailure now).openedAt = some now ∨
        b.trips = false ∧ (b.recordFailure now).state = b.state ∧
          (b.recordFailure now).openedAt = b.openedAt ∧
          (b.recordFailure now).failureCount = b.failureCount + 1) := by
  rw [recordFailure, trips]
  split
  · rename_i hhalf
    exact ⟨rfl, rfl, Or.inl ⟨by simp [hhalf], rfl, rfl⟩⟩
  · rename_i hhalf
    simp only
    split
    · rename_i hcount
      exact ⟨rfl, rfl, Or.inl ⟨by simp [hcount], rfl, rfl⟩⟩
    · rename_i hcount
      exact ⟨rfl, rfl, Or.inr ⟨by simp [hhalf, hcount], rfl, rfl, rfl⟩⟩

end CircuitBreaker

end ConstellationGate
