import ConstellationGate.Lib.Script
import ConstellationGate.Resilience.RetryPolicy

/-!
# The law of retries

`RetryPolicy.run` is played against a script, which says how each call of the function ends, how
long the sleeps take and what becomes of the shared state, its clock included, meanwhile.

The calls and the sleeps of a run are read off its requests (`callsIn`, `sleepsIn`).  An attempt is
followed by another one only when it has failed with a retryable exception, when the sleep before
the next one fits into the budget that remains, and when the deadline is not over after the sleep.
The induction is on the attempts that are left; their number and that of the attempts made make up
`max_attempts`, so that the last one is not retried and the loop is never left at its end.

The power of the backoff multiplier is computed inside of the exception handler of `run`.  Where it
is no float, its error takes the place of the exception that is handled: `retry_law_iff` says for
which policies this cannot happen.
-/

namespace ConstellationGate

variable {Dump α : Type}

/-- A call of the function that is retried: the last clock reading before it, and its outcome, when
it has ended. -/
structure AttemptCall (α : Type) where
  reading : ℚ
  outcome : Option (Except PyError α)

/-- A sleep before a retry, and the last clock reading before it. -/
structure RetrySleep where
  reading : ℚ
  seconds : ℚ

/-- A function that awaits once, and whose outcome depends on the reply. -/
def awaitOnce (packet : TransportPacket) (budget : Option Deadline)
    (outcome : Except PyError TransportPacket → Except PyError α) : Co (gate Dump) α :=
  (injectedDispatch packet budget).handle fun reply => Co.done (outcome reply)

/-- The request as a call of the function. -/
def attemptCall? (outcome : Except PyError TransportPacket → Except PyError α) :
    Exchange (gate Dump) → Option (AttemptCall α)
  | ⟨s, .dispatch _ _, reply⟩ => some ⟨s.monotonic.last, reply.map outcome⟩
  | _ => none

/-- The request as a sleep. -/
def retrySleep? : Exchange (gate Dump) → Option RetrySleep
  | ⟨s, .retrySleep seconds, _⟩ => some ⟨s.monotonic.last, seconds⟩
  | _ => none

/-- The calls among the requests. -/
def callsIn (outcome : Except PyError TransportPacket → Except PyError α)
    (es : List (Exchange (gate Dump))) : List (AttemptCall α) :=
  es.filterMap (attemptCall? outcome)

/-- The sleeps among the requests. -/
def sleepsIn (es : List (Exchange (gate Dump))) : List RetrySleep := es.filterMap retrySleep?

/-- The call has failed with an exception that is retried. -/
def FailedRetryably (policy : RetryPolicy) (call : AttemptCall α) : Prop :=
  ∃ exc, call.outcome = some (.error exc) ∧ exc.isInstance policy.retryableExceptions = true

/-- What the calls and sleeps of a run obey that may make `n` calls. -/
structure AttemptsLaw (policy : RetryPolicy) (deadline : Option Deadline) (n : ℕ)
    (calls : List (AttemptCall α)) (sleeps : List RetrySleep) : Prop where
  length_le : calls.length ≤ n
  failed : ∀ call ∈ calls.dropLast, FailedRetryably policy call
  unexpired : ∀ call ∈ calls.tail, ∀ d ∈ deadline, d.expired call.reading = false
  within : ∀ sleep ∈ sleeps, ∀ d ∈ deadline, sleep.seconds < d.remainingSeconds sleep.reading

/-- The law of a run: it ends with the outcome of its last call. -/
structure RetryLaw (policy : RetryPolicy) (deadline : Option Deadline) (n : ℕ)
    (calls : List (AttemptCall α)) (sleeps : List RetrySleep)
    (outcome : Option (Except PyError α)) : Prop extends
    AttemptsLaw policy deadline n calls sleeps where
  last : ∀ r, outcome = some r → ∃ call ∈ calls.getLast?, call.outcome = some r

/-- What a run may end with after its last call: the outcome of the call, or the error of a backoff
that overflows. -/
def MayEnd (policy : RetryPolicy) (last : Option (Except PyError α)) (r : Except PyError α) :
    Prop :=
  last = some r ∨ ¬ policy.BackoffFits ∧ r = .error powerOverflow

namespace AttemptsLaw

variable {policy : RetryPolicy} {deadline : Option Deadline} {n : ℕ} {calls : List (AttemptCall α)}
  {sleeps : List RetrySleep}

/-- A call after which there is no other. -/
lemma single (call : AttemptCall α) (hn : 1 ≤ n)
    (hsleeps : ∀ sleep ∈ sleeps, ∀ d ∈ deadline,
      sleep.seconds < d.remainingSeconds sleep.reading) :
    AttemptsLaw policy deadline n [call] sleeps where
  length_le := hn
  failed _ h := by cases h
  unexpired _ h := by cases h
  within := hsleeps

/-- A call that fails, and the others after it. -/
lemma again {next : AttemptCall α} (h : AttemptsLaw policy deadline n (next :: calls) sleeps)
    {call : AttemptCall α} (hcall : FailedRetryably policy call)
    (hnext : ∀ d ∈ deadline, d.expired next.reading = false) {slept : List RetrySleep}
    (hslept : ∀ sleep ∈ slept, ∀ d ∈ deadline,
      sleep.seconds < d.remainingSeconds sleep.reading) :
    AttemptsLaw policy deadline (n + 1) (call :: next :: calls) (slept ++ sleeps) := by
  refine ⟨Nat.succ_le_succ h.length_le, ?_, ?_, ?_⟩
  · intro c hc
    rw [List.dropLast_cons_cons] at hc
    rcases List.mem_cons.1 hc with rfl | hc
    · exact hcall
    · exact h.failed c hc
  · intro c hc
    rcases List.mem_cons.1 hc with rfl | hc
    · exact hnext
    · exact h.unexpired c hc
  · intro sleep hsleep
    rcases List.mem_append.1 hsleep with hsleep | hsleep
    · exact hslept sleep hsleep
    · exact h.within sleep hsleep

end AttemptsLaw

/-! ### What follows a failed attempt -/

namespace RetryPolicy

/-- The wait after a failed attempt, and what comes next. -/
def retryAfter (deadline : Option Deadline) (exc : PyError) (delaySeconds : ℚ)
    (next : Co (gate Dump) α) : Co (gate Dump) α := do
  if ← sleepOutlives delaySeconds deadline then Co.raise exc
  else
    sleep delaySeconds
    if ← deadlineExpired deadline then Co.raise exc
    else next

variable (policy : RetryPolicy) (deadline : Option Deadline)

/-- What follows an attempt. -/
def afterAttempt (attempt : ℕ) (next : PyError → Co (gate Dump) α) :
    Except PyError α → Co (gate Dump) α
  | .ok a => Co.done (.ok a)
  | .error exc => do
    let decision ← liftExcept (policy.decisionFor attempt exc)
    if !decision.shouldRetry then Co.raise exc
    else retryAfter deadline exc decision.delaySeconds (next exc)

lemma attempts_succ (func : Co (gate Dump) α) (left attempt : ℕ) (lastExc : Option PyError) :
    policy.attempts func deadline (left + 1) attempt lastExc =
      func.handle (policy.afterAttempt deadline attempt fun exc =>
        policy.attempts func deadline left (attempt + 1) (some exc)) := by
  rw [attempts]
  congr 1
  funext r
  cases r <;> rfl

/-- An exception is raised, unless it is retryable and attempts are left. -/
lemma afterAttempt_raise {attempt : ℕ} (hattempt : 1 ≤ attempt)
    (next : PyError → Co (gate Dump) α) {exc : PyError}
    (h : exc.isInstance policy.retryableExceptions = false ∨ policy.maxAttempts ≤ attempt) :
    policy.afterAttempt deadline attempt next (.error exc) = Co.raise exc := by
  rw [afterAttempt, decisionFor, if_neg (Nat.not_lt.2 hattempt), if_pos (by simpa using h)]
  rfl

/-- A retryable exception, with attempts left, is followed by a wait, unless the backoff
overflows. -/
lemma afterAttempt_retry {attempt : ℕ} (hattempt : 1 ≤ attempt)
    (next : PyError → Co (gate Dump) α) {exc : PyError}
    (hretryable : exc.isInstance policy.retryableExceptions = true)
    (hlt : attempt < policy.maxAttempts) :
    (policy.backoffMultiplier ^ (attempt - 1) < Binary64.overflowThreshold ∧
        ∃ delaySeconds, policy.afterAttempt deadline attempt next (.error exc) =
          retryAfter deadline exc delaySeconds (next exc)) ∨
      (Binary64.overflowThreshold : ℚ) ≤ policy.backoffMultiplier ^ (attempt - 1) ∧
        policy.afterAttempt deadline attempt next (.error exc) = Co.raise powerOverflow := by
  have hretry : ¬ (!exc.isInstance policy.retryableExceptions ||
      decide (policy.maxAttempts ≤ attempt)) = true := by
    simp [hretryable, hlt]
  rw [afterAttempt, decisionFor, if_neg (Nat.not_lt.2 hattempt), if_neg hretry, floatPow]
  split
  · rename_i hfits
    exact Or.inl ⟨hfits, _, rfl⟩
  · rename_i hover
    exact Or.inr ⟨not_lt.1 hover, rfl⟩

/-- The loop of `run`, with something else at its end. -/
def attemptsOr (func atEnd : Co (gate Dump) α) : ℕ → ℕ → Co (gate Dump) α
  | 0, _ => atEnd
  | left + 1, attempt => func.handle (policy.afterAttempt deadline attempt fun _ =>
      attemptsOr func atEnd left (attempt + 1))

/-- The end of the loop is not reached. -/
lemma attempts_eq_attemptsOr (func atEnd : Co (gate Dump) α) {left attempt : ℕ}
    (hleft : attempt + left = policy.maxAttempts) (hattempt : 1 ≤ attempt)
    (lastExc : Option PyError) :
    policy.attempts func deadline (left + 1) attempt lastExc =
      policy.attemptsOr deadline func atEnd (left + 1) attempt := by
  induction left generalizing attempt lastExc with
  | zero =>
    rw [attempts_succ, attemptsOr]
    congr 1
    funext r
    cases r with
    | ok a => rfl
    | error exc =>
      -- the last attempt is not retried, whatever comes next
      have hlast : policy.maxAttempts ≤ attempt := by omega
      rw [policy.afterAttempt_raise deadline hattempt _ (Or.inr hlast),
        policy.afterAttempt_raise deadline hattempt _ (Or.inr hlast)]
  | succ left ih =>
    rw [attempts_succ, attemptsOr]
    congr 2
    funext exc
    exact ih (by omega) (Nat.le_add_left 1 _) (some exc)

end RetryPolicy

/-- The requests of a program that is played, and its outcome. -/
def trial (p : Co (gate Dump) α) (s : GateState Dump) (turns : List (Turn (gate Dump))) :
    List (Exchange (gate Dump)) × Option (Except PyError α) :=
  (p.exchanges s turns, (p.play s turns).outcome)

/-- The delay would outlive the deadline. -/
def outlives (delaySeconds : ℚ) (deadline : Option Deadline) (s : GateState Dump) : Bool :=
  deadline.any fun d => decide (d.remainingSeconds s.monotonic.now ≤ delaySeconds)

/-- The deadline is over. -/
def isOver (deadline : Option Deadline) (s : GateState Dump) : Bool :=
  deadline.any fun d => d.expired s.monotonic.now

/-- The state after the deadline was checked. -/
def checked : Option Deadline → GateState Dump → GateState Dump
  | none, s => s
  | some _, s => { s with monotonic := s.monotonic.tick }

lemma trial_sleepOutlives (delaySeconds : ℚ) (deadline : Option Deadline)
    (k : Bool → Co (gate Dump) α) (s : GateState Dump) (turns : List (Turn (gate Dump))) :
    trial (RetryPolicy.sleepOutlives delaySeconds deadline >>= k) s turns =
      trial (k (outlives delaySeconds deadline s)) (checked deadline s) turns := by
  cases deadline <;> rfl

lemma trial_deadlineExpired (deadline : Option Deadline) (k : Bool → Co (gate Dump) α)
    (s : GateState Dump) (turns : List (Turn (gate Dump))) :
    trial (RetryPolicy.deadlineExpired deadline >>= k) s turns =
      trial (k (isOver deadline s)) (checked deadline s) turns := by
  cases deadline <;> rfl

lemma lt_remaining_of_outlives {delaySeconds : ℚ} {deadline : Option Deadline}
    {s : GateState Dump} (h : outlives delaySeconds deadline s = false) :
    ∀ d ∈ deadline, delaySeconds < d.remainingSeconds (checked deadline s).monotonic.last := by
  rintro d rfl
  simpa [outlives, checked] using h

lemma unexpired_of_isOver {deadline : Option Deadline} {s : GateState Dump}
    (h : isOver deadline s = false) :
    ∀ d ∈ deadline, d.expired (checked deadline s).monotonic.last = false := by
  rintro d rfl
  simpa [isOver, checked] using h

/-- No sleep is cancelled. -/
def SleepsEnd (turns : List (Turn (gate Dump))) : Prop :=
  ∀ turn ∈ turns, ∀ seconds, turn.reply (.retrySleep seconds) = .ok ()

/-- Requests to sleep, within the budget. -/
def Slept (deadline : Option Deadline) (es : List (Exchange (gate Dump))) : Prop :=
  ∀ e ∈ es, ∃ seconds, e.request = .retrySleep seconds ∧
    ∀ d ∈ deadline, seconds < d.remainingSeconds e.state.monotonic.last

namespace Slept

variable {deadline : Option Deadline} {es : List (Exchange (gate Dump))}

lemma callsIn_eq (h : Slept deadline es)
    (outcome : Except PyError TransportPacket → Except PyError α) : callsIn outcome es = [] := by
  refine List.filterMap_eq_nil_iff.2 fun e he => ?_
  obtain ⟨s, request, reply⟩ := e
  obtain ⟨seconds, rfl, -⟩ := h _ he
  rfl

lemma within (h : Slept deadline es) :
    ∀ sleep ∈ sleepsIn es, ∀ d ∈ deadline, sleep.seconds < d.remainingSeconds sleep.reading := by
  intro sleep hsleep
  obtain ⟨⟨s, request, reply⟩, he, hsome⟩ := List.mem_filterMap.1 hsleep
  obtain ⟨seconds, rfl, hwithin⟩ := h _ he
  obtain rfl := Option.some.inj hsome
  exact hwithin

end Slept

/-- A sleep of the delay, and what follows it. -/
lemma trial_sleep_cases {deadline : Option Deadline} {delaySeconds : ℚ}
    {k : Unit → Co (gate Dump) α} {s : GateState Dump} {turns : List (Turn (gate Dump))}
    (hsleeps : SleepsEnd turns)
    (hwithin : ∀ d ∈ deadline, delaySeconds < d.remainingSeconds s.monotonic.last) :
    ∃ slept, Slept deadline slept ∧
      (trial (RetryPolicy.sleep delaySeconds >>= k) s turns = (slept, none) ∨
        ∃ s' turns', SleepsEnd turns' ∧ trial (RetryPolicy.sleep delaySeconds >>= k) s turns =
          (slept ++ (trial (k ()) s' turns').1, (trial (k ()) s' turns').2)) := by
  rw [RetryPolicy.sleep]
  split
  · rcases turns with - | ⟨turn, turns⟩
    · refine ⟨[⟨s, .retrySleep delaySeconds, none⟩], ?_, Or.inl rfl⟩
      intro e he
      rw [List.mem_singleton.1 he]
      exact ⟨delaySeconds, rfl, hwithin⟩
    · refine ⟨[⟨s, .retrySleep delaySeconds, some (turn.reply _)⟩], ?_,
        Or.inr ⟨turn.change s, turns, ?_, ?_⟩⟩
      · intro e he
        rw [List.mem_singleton.1 he]
        exact ⟨delaySeconds, rfl, hwithin⟩
      · exact fun turn' h => hsleeps turn' (List.mem_cons_of_mem _ h)
      · have hok := hsleeps turn List.mem_cons_self delaySeconds
        have hawoken : trial (retrySleep delaySeconds >>= k) s (turn :: turns) =
            (⟨s, .retrySleep delaySeconds, some (turn.reply _)⟩ ::
              (trial ((Co.done (turn.reply (.retrySleep delaySeconds)) : Co (gate Dump) Unit) >>= k)
                (turn.change s) turns).1,
              (trial ((Co.done (turn.reply (.retrySleep delaySeconds)) : Co (gate Dump) Unit) >>= k)
                (turn.change s) turns).2) := rfl
        rw [hawoken, hok]
        rfl
  · refine ⟨[], ?_, Or.inr ⟨s, turns, hsleeps, rfl⟩⟩
    intro e he
    cases he

/-- After a failed attempt the exception is raised, or the script ends during the sleep, or there is
another attempt at an unexpired deadline. -/
lemma trial_retryAfter_cases (deadline : Option Deadline) (exc : PyError) (delaySeconds : ℚ)
    (next : Co (gate Dump) α) (s : GateState Dump) {turns : List (Turn (gate Dump))}
    (hsleeps : SleepsEnd turns) :
    ∃ slept, Slept deadline slept ∧
      (trial (RetryPolicy.retryAfter deadline exc delaySeconds next) s turns = (slept, none) ∨
        trial (RetryPolicy.retryAfter deadline exc delaySeconds next) s turns =
          (slept, some (.error exc)) ∨
        ∃ s' turns', SleepsEnd turns' ∧ (∀ d ∈ deadline, d.expired s'.monotonic.last = false) ∧
          trial (RetryPolicy.retryAfter deadline exc delaySeconds next) s turns =
            (slept ++ (trial next s' turns').1, (trial next s' turns').2)) := by
  rw [RetryPolicy.retryAfter, trial_sleepOutlives]
  cases houtlives : outlives delaySeconds deadline s with
  | true =>
    refine ⟨[], ?_, Or.inr (Or.inl rfl)⟩
    intro e he
    cases he
  | false =>
    rw [if_neg Bool.false_ne_true]
    obtain ⟨slept, hslept, hends | ⟨s', turns', hsleeps', hnext⟩⟩ :=
      trial_sleep_cases hsleeps (lt_remaining_of_outlives houtlives)
    · exact ⟨slept, hslept, Or.inl hends⟩
    · refine ⟨slept, hslept, ?_⟩
      rw [hnext, trial_deadlineExpired]
      cases hover : isOver deadline s' with
      | true =>
        refine Or.inr (Or.inl ?_)
        rw [if_pos rfl]
        exact Prod.ext (List.append_nil slept) rfl
      | false =>
        refine Or.inr (Or.inr
          ⟨checked deadline s', turns', hsleeps', unexpired_of_isOver hover, ?_⟩)
        rw [if_neg Bool.false_ne_true]

/-! ### The run -/

section Run

variable {policy : RetryPolicy} {deadline : Option Deadline}

/-- The exchange of a call. -/
def callExchange (packet : TransportPacket) (budget : Option Deadline) (s : GateState Dump)
    (reply : Option (Except PyError TransportPacket)) : Exchange (gate Dump) :=
  ⟨s, .dispatch packet budget, reply⟩

variable (policy deadline) {packet : TransportPacket} {budget : Option Deadline}
  {outcome : Except PyError TransportPacket → Except PyError α} {func : Co (gate Dump) α}
  (hfunc : func = awaitOnce packet budget outcome) (left : ℕ) {attempt : ℕ}
  (lastExc : Option PyError) (s : GateState Dump) {turns : List (Turn (gate Dump))}

include hfunc in
/-- A call ends with the reply of the script, and the handler goes on. -/
lemma exists_trial_call (turn : Turn (gate Dump)) (turns : List (Turn (gate Dump))) :
    ∃ reply, ∀ k : Except PyError α → Co (gate Dump) α,
      trial (func.handle k) s (turn :: turns) =
        (callExchange packet budget s (some reply) ::
          (trial (k (outcome reply)) (turn.change s) turns).1,
          (trial (k (outcome reply)) (turn.change s) turns).2) := by
  refine ⟨turn.reply (.dispatch packet budget), fun k => ?_⟩
  subst hfunc
  rfl

/-- A failed attempt is the last one, or it is retryable and there is another one.  It is the last
one too when the backoff after it overflows. -/
lemma trial_afterAttempt_cases (next : PyError → Co (gate Dump) α) (exc : PyError)
    (hattempt : 1 ≤ attempt) (hsleeps : SleepsEnd turns) :
    ∃ slept, Slept deadline slept ∧
      ((∃ ended, (∀ r, ended = some r → MayEnd policy (some (.error exc)) r) ∧
          trial (policy.afterAttempt deadline attempt next (.error exc)) s turns =
            (slept, ended)) ∨
        ∃ s' turns', exc.isInstance policy.retryableExceptions = true ∧
          attempt < policy.maxAttempts ∧ SleepsEnd turns' ∧
          (∀ d ∈ deadline, d.expired s'.monotonic.last = false) ∧
          trial (policy.afterAttempt deadline attempt next (.error exc)) s turns =
            (slept ++ (trial (next exc) s' turns').1, (trial (next exc) s' turns').2)) := by
  have hnone : Slept deadline ([] : List (Exchange (gate Dump))) := fun e he => by cases he
  have hlast : ∀ r : Except PyError α, some (.error exc) = some r →
      MayEnd policy (some (.error exc)) r := fun r hr => Or.inl hr
  by_cases hretryable : exc.isInstance policy.retryableExceptions = true ∧
      attempt < policy.maxAttempts
  swap
  · rw [not_and_or, Bool.not_eq_true, not_lt] at hretryable
    rw [policy.afterAttempt_raise deadline hattempt _ hretryable]
    exact ⟨[], hnone, Or.inl ⟨some (.error exc), hlast, rfl⟩⟩
  obtain ⟨hretryable, hlt⟩ := hretryable
  rcases policy.afterAttempt_retry deadline hattempt next hretryable hlt with
    ⟨-, delaySeconds, hretry⟩ | ⟨hover, hraise⟩
  swap
  · rw [hraise]
    refine ⟨[], hnone, Or.inl ⟨some (.error powerOverflow), ?_, rfl⟩⟩
    intro r hr
    exact Or.inr ⟨RetryPolicy.not_backoffFits hretryable hlt hover, (Option.some.inj hr).symm⟩
  rw [hretry]
  obtain ⟨slept, hslept, hends | hends | ⟨s', turns', hsleeps', hunexpired, hnext⟩⟩ :=
    trial_retryAfter_cases deadline exc delaySeconds (next exc) s hsleeps
  · refine ⟨slept, hslept, Or.inl ⟨none, ?_, hends⟩⟩
    intro r hr
    cases hr
  · exact ⟨slept, hslept, Or.inl ⟨some (.error exc), hlast, hends⟩⟩
  · exact ⟨slept, hslept, Or.inr ⟨s', turns', hretryable, hlt, hsleeps', hunexpired, hnext⟩⟩

include hfunc in
/-- An attempt is the last one, or it fails retryably and there is another one.  It is the last one
too when the backoff after it overflows. -/
lemma trial_attempts_cases (hattempt : 1 ≤ attempt) (hsleeps : SleepsEnd turns) :
    ∃ reply slept, Slept deadline slept ∧
      ((∃ ended, (∀ r, ended = some r → MayEnd policy (reply.map outcome) r) ∧
          trial (policy.attempts func deadline (left + 1) attempt lastExc) s turns =
            (callExchange packet budget s reply :: slept, ended)) ∨
        ∃ exc s' turns', reply.map outcome = some (.error exc) ∧
          exc.isInstance policy.retryableExceptions = true ∧ attempt < policy.maxAttempts ∧
          SleepsEnd turns' ∧ (∀ d ∈ deadline, d.expired s'.monotonic.last = false) ∧
          trial (policy.attempts func deadline (left + 1) attempt lastExc) s turns =
            (callExchange packet budget s reply :: (slept ++
                (trial (policy.attempts func deadline left (attempt + 1) (some exc)) s' turns').1),
              (trial (policy.attempts func deadline left (attempt + 1) (some exc)) s'
                turns').2)) := by
  have hnone : Slept deadline ([] : List (Exchange (gate Dump))) := fun e he => by cases he
  rw [RetryPolicy.attempts_succ]
  rcases turns with - | ⟨turn, turns⟩
  · refine ⟨none, [], hnone, Or.inl ⟨none, ?_, ?_⟩⟩
    · intro r hr
      cases hr
    · rw [hfunc]
      rfl
  have hrest : SleepsEnd turns := fun turn' h => hsleeps turn' (List.mem_cons_of_mem _ h)
  obtain ⟨reply, hcall⟩ := exists_trial_call hfunc s turn turns
  rw [hcall]
  cases houtcome : outcome reply with
  | ok a =>
    exact ⟨some reply, [], hnone, Or.inl ⟨some (.ok a),
      fun r hr => Or.inl ((congrArg some houtcome).trans hr), rfl⟩⟩
  | error exc =>
    have hreply : (some reply).map outcome = some (.error exc) := congrArg some houtcome
    obtain ⟨slept, hslept, ⟨ended, hended, htrial⟩ |
        ⟨s', turns', hretryable, hlt, hsleeps', hunexpired, htrial⟩⟩ :=
      trial_afterAttempt_cases policy deadline (turn.change s) _ exc hattempt hrest
    · refine ⟨some reply, slept, hslept, Or.inl ⟨ended, ?_, ?_⟩⟩
      · rwa [hreply]
      · rw [htrial]
    · refine ⟨some reply, slept, hslept, Or.inr ⟨exc, s', turns', hreply, hretryable, hlt, hsleeps',
        hunexpired, ?_⟩⟩
      rw [htrial]

/-- What is played makes its first call after the clock reading, and obeys the law. -/
def Conforms (policy : RetryPolicy) (deadline : Option Deadline)
    (outcome : Except PyError TransportPacket → Except PyError α) (n : ℕ) (reading : ℚ)
    (played : List (Exchange (gate Dump)) × Option (Except PyError α)) : Prop :=
  ∃ call calls, callsIn outcome played.1 = call :: calls ∧ call.reading = reading ∧
    AttemptsLaw policy deadline n (call :: calls) (sleepsIn played.1) ∧
    ∀ r, played.2 = some r → ∃ last ∈ (call :: calls).getLast?, MayEnd policy last.outcome r

/-- The calls and sleeps of an attempt and what follows it. -/
lemma callsIn_callExchange {deadline : Option Deadline} {slept : List (Exchange (gate Dump))}
    (hslept : Slept deadline slept)
    (outcome : Except PyError TransportPacket → Except PyError α) (packet : TransportPacket)
    (budget : Option Deadline) (s : GateState Dump)
    (reply : Option (Except PyError TransportPacket)) (es : List (Exchange (gate Dump))) :
    callsIn outcome (callExchange packet budget s reply :: (slept ++ es)) =
        ⟨s.monotonic.last, reply.map outcome⟩ :: callsIn outcome es ∧
      sleepsIn (callExchange packet budget s reply :: (slept ++ es)) =
        sleepsIn slept ++ sleepsIn es := by
  refine ⟨congrArg (List.cons _) ?_, List.filterMap_append⟩
  have hcalls := hslept.callsIn_eq outcome
  rw [callsIn] at hcalls
  rw [List.filterMap_append, hcalls, List.nil_append]
  rfl

/-- The last attempt. -/
lemma conforms_last {slept : List (Exchange (gate Dump))} (hslept : Slept deadline slept)
    {reply : Option (Except PyError TransportPacket)} {ended : Option (Except PyError α)}
    (hended : ∀ r, ended = some r → MayEnd policy (reply.map outcome) r) {n : ℕ} (hn : 1 ≤ n) :
    Conforms policy deadline outcome n s.monotonic.last
      (callExchange packet budget s reply :: slept, ended) := by
  obtain ⟨hcalls, hsleeps⟩ := callsIn_callExchange hslept outcome packet budget s reply []
  rw [List.append_nil] at hcalls hsleeps
  refine ⟨_, _, hcalls, rfl, ?_⟩
  have hnone : sleepsIn ([] : List (Exchange (gate Dump))) = [] := rfl
  rw [hsleeps, hnone, List.append_nil]
  exact ⟨.single _ hn hslept.within, fun r hr => ⟨_, rfl, hended r hr⟩⟩

/-- An attempt that fails retryably, before others. -/
lemma conforms_again {slept : List (Exchange (gate Dump))} (hslept : Slept deadline slept)
    {reply : Option (Except PyError TransportPacket)} {exc : PyError}
    (hreply : reply.map outcome = some (.error exc))
    (hretryable : exc.isInstance policy.retryableExceptions = true) {n : ℕ} {reading : ℚ}
    (hreading : ∀ d ∈ deadline, d.expired reading = false)
    {played : List (Exchange (gate Dump)) × Option (Except PyError α)}
    (h : Conforms policy deadline outcome n reading played) :
    Conforms policy deadline outcome (n + 1) s.monotonic.last
      (callExchange packet budget s reply :: (slept ++ played.1), played.2) := by
  obtain ⟨next, calls, hnext, rfl, hlaw, hends⟩ := h
  obtain ⟨hcalls, hsleeps⟩ := callsIn_callExchange hslept outcome packet budget s reply played.1
  refine ⟨_, _, hcalls, rfl, ?_⟩
  rw [hsleeps, hnext, List.getLast?_cons_cons]
  exact ⟨hlaw.again ⟨exc, hreply, hretryable⟩ hreading hslept.within, hends⟩

include hfunc in
/-- The attempts that are left obey the law, and the first one is made at once. -/
lemma conforms_attempts (hleft : attempt + left = policy.maxAttempts) (hattempt : 1 ≤ attempt)
    (hsleeps : SleepsEnd turns) :
    Conforms policy deadline outcome (left + 1) s.monotonic.last
      (trial (policy.attempts func deadline (left + 1) attempt lastExc) s turns) := by
  induction left generalizing attempt lastExc s turns with
  | zero =>
    obtain ⟨reply, slept, hslept, ⟨ended, hended, heq⟩ | ⟨exc, s', turns', -, -, hlt, -⟩⟩ :=
      trial_attempts_cases policy deadline hfunc 0 lastExc s hattempt hsleeps
    · rw [heq]
      exact conforms_last policy deadline s hslept hended le_rfl
    · -- a retry after the last attempt
      omega
  | succ left ih =>
    obtain ⟨reply, slept, hslept, ⟨ended, hended, heq⟩ |
        ⟨exc, s', turns', hreply, hretryable, -, hsleeps', hunexpired, heq⟩⟩ :=
      trial_attempts_cases policy deadline hfunc (left + 1) lastExc s hattempt hsleeps
    · rw [heq]
      exact conforms_last policy deadline s hslept hended (Nat.le_add_left 1 _)
    · rw [heq]
      refine conforms_again policy deadline s hslept hreply hretryable hunexpired ?_
      exact ih (some exc) s' (by omega) (Nat.le_add_left 1 _) hsleeps'

end Run

/-! ### The law, and when a run obeys it -/

/-- A run of the attempts in which nothing is cancelled: the deadline, the function with its
outcomes, and what happens meanwhile. -/
structure RetryTrial (Dump α : Type) where
  deadline : Option Deadline
  packet : TransportPacket
  budget : Option Deadline
  outcome : Except PyError TransportPacket → Except PyError α
  state : GateState Dump
  turns : List (Turn (gate Dump))
  sleepsEnd : SleepsEnd turns

namespace RetryTrial

variable (t : RetryTrial Dump α)

/-- The function that is retried. -/
def func : Co (gate Dump) α := awaitOnce t.packet t.budget t.outcome

/-- The requests of `run`, and its outcome. -/
def played (policy : RetryPolicy) : List (Exchange (gate Dump)) × Option (Except PyError α) :=
  trial (policy.run t.func t.deadline) t.state t.turns

/-- The run makes these calls and these sleeps within the law; it ends with the outcome of the last
call, or with the error of a backoff that overflows. -/
lemma conforms (policy : RetryPolicy) :
    AttemptsLaw policy t.deadline policy.maxAttempts (callsIn t.outcome (t.played policy).1)
        (sleepsIn (t.played policy).1) ∧
      ∀ r, (t.played policy).2 = some r →
        ∃ call ∈ (callsIn t.outcome (t.played policy).1).getLast?,
          MayEnd policy call.outcome r := by
  obtain ⟨left, hleft⟩ : ∃ left, policy.maxAttempts = left + 1 :=
    ⟨_, (Nat.sub_add_cancel policy.one_le_maxAttempts).symm⟩
  have hconforms : Conforms policy t.deadline t.outcome policy.maxAttempts t.state.monotonic.last
      (t.played policy) := by
    rw [played, RetryPolicy.run, hleft]
    exact conforms_attempts policy t.deadline rfl left none t.state (by omega) le_rfl t.sleepsEnd
  obtain ⟨call, calls, hcalls, -, hlaw, hends⟩ := hconforms
  rw [hcalls]
  exact ⟨hlaw, hends⟩

/-- The statement after the loop is not reached: `run` is the same with any other in its place. -/
lemma run_eq_attemptsOr (policy : RetryPolicy) (atEnd : Co (gate Dump) α) :
    policy.run t.func t.deadline =
      policy.attemptsOr t.deadline t.func atEnd policy.maxAttempts 1 := by
  obtain ⟨left, hleft⟩ : ∃ left, policy.maxAttempts = left + 1 :=
    ⟨_, (Nat.sub_add_cancel policy.one_le_maxAttempts).symm⟩
  rw [RetryPolicy.run, hleft]
  exact policy.attempts_eq_attemptsOr t.deadline t.func atEnd (by omega) le_rfl none

/-- Every call whose reply is there has this outcome, when every reply has. -/
lemma outcome_of_mem_callsIn {outcome : Except PyError TransportPacket → Except PyError α}
    {r : Except PyError α} (houtcome : ∀ reply, outcome reply = r)
    {es : List (Exchange (gate Dump))} {call : AttemptCall α} (h : call ∈ callsIn outcome es)
    {r' : Except PyError α} (hcall : call.outcome = some r') : r' = r := by
  obtain ⟨⟨s, request, reply⟩, -, hsome⟩ := List.mem_filterMap.1 h
  cases request with
  | dispatch packet budget =>
    obtain rfl := Option.some.inj hsome
    obtain ⟨a, -, ha⟩ := Option.map_eq_some_iff.1 hcall
    rw [← ha, houtcome]
  | limiterYield nodeName => cases hsome
  | send nodeName packet url => cases hsome
  | retrySleep seconds => cases hsome

end RetryTrial

/-! ### A backoff that overflows -/

/-- Turns in which everything is answered and nothing changes. -/
def patience (n : ℕ) : List (Turn (gate Dump)) :=
  List.replicate n ⟨id, answering (clientPacket "acme" "score" none)⟩

lemma sleepsEnd_patience (n : ℕ) : SleepsEnd (patience n : List (Turn (gate Dump))) := by
  intro turn hturn seconds
  rw [List.eq_of_mem_replicate hturn]
  rfl

/-- Without a deadline, what comes next comes after one turn at most. -/
lemma trial_retryAfter_patience (exc : PyError) (delaySeconds : ℚ) (next : Co (gate Dump) α)
    (s : GateState Dump) (n : ℕ) :
    ∃ n', n ≤ n' ∧
      (trial (RetryPolicy.retryAfter none exc delaySeconds next) s (patience (n + 1))).2 =
        (trial next s (patience n')).2 := by
  by_cases hdelay : 0 < delaySeconds
  · refine ⟨n, le_rfl, ?_⟩
    rw [RetryPolicy.retryAfter, trial_sleepOutlives, outlives, RetryPolicy.sleep, if_pos hdelay]
    rfl
  · refine ⟨n + 1, Nat.le_succ n, ?_⟩
    rw [RetryPolicy.retryAfter, trial_sleepOutlives, outlives, RetryPolicy.sleep, if_neg hdelay]
    rfl

section Overflow

variable {policy : RetryPolicy} {packet : TransportPacket} {budget : Option Deadline}
  {outcome : Except PyError TransportPacket → Except PyError α} {exc : PyError}

/-- The function is called, and what comes next comes after one turn. -/
lemma trial_awaitOnce_patience (houtcome : ∀ reply, outcome reply = .error exc)
    (k : Except PyError α → Co (gate Dump) α) (s : GateState Dump) (n : ℕ) :
    (trial ((awaitOnce packet budget outcome).handle k) s (patience (n + 1))).2 =
      (trial (k (.error exc)) s (patience n)).2 := by
  rw [← houtcome (.ok (clientPacket "acme" "score" none))]
  rfl

/-- When all attempts fail retryably and the backoff before the last one overflows, a run without a
deadline ends with the error of a backoff.  The induction is on the attempts that are left. -/
lemma outcome_of_overflow (houtcome : ∀ reply, outcome reply = .error exc)
    (hretryable : exc.isInstance policy.retryableExceptions = true)
    (hover : (Binary64.overflowThreshold : ℚ) ≤
      policy.backoffMultiplier ^ (policy.maxAttempts - 2))
    (left : ℕ) {attempt n : ℕ} (lastExc : Option PyError) (s : GateState Dump)
    (hleft : attempt + (left + 1) = policy.maxAttempts) (hattempt : 1 ≤ attempt)
    (hn : 2 * (left + 1) ≤ n) :
    (trial (policy.attempts (awaitOnce packet budget outcome) none (left + 2) attempt lastExc) s
      (patience n)).2 = some (.error powerOverflow) := by
  induction left generalizing attempt n lastExc s with
  | zero =>
    obtain ⟨n, rfl⟩ : ∃ m, n = m + 1 := ⟨n - 1, by omega⟩
    rw [RetryPolicy.attempts_succ, trial_awaitOnce_patience houtcome]
    rcases policy.afterAttempt_retry none hattempt _ hretryable (by omega) with
      ⟨hfits, -⟩ | ⟨-, hraise⟩
    · -- this is the backoff before the last attempt
      rw [show attempt - 1 = policy.maxAttempts - 2 by omega] at hfits
      exact absurd hfits (not_lt.2 hover)
    · rw [hraise]
      rfl
  | succ left ih =>
    obtain ⟨n, rfl⟩ : ∃ m, n = m + 2 := ⟨n - 2, by omega⟩
    rw [RetryPolicy.attempts_succ, trial_awaitOnce_patience houtcome]
    rcases policy.afterAttempt_retry none hattempt _ hretryable (by omega) with
      ⟨-, delaySeconds, hretry⟩ | ⟨-, hraise⟩
    · obtain ⟨n', hn', hnext⟩ := trial_retryAfter_patience exc delaySeconds
        (policy.attempts (awaitOnce packet budget outcome) none (left + 2) (attempt + 1)
          (some exc)) s n
      rw [hretry, hnext]
      exact ih (some exc) s (by omega) (Nat.le_add_left 1 _) (by omega)
    · rw [hraise]
      rfl

end Overflow

lemma four_attempts : 1 ≤ 4 := by omega

lemma no_delay_nonneg : (0 : ℚ) ≤ 0 := le_rfl

lemma one_le_steepness : (1 : ℚ) ≤ 10 ^ 200 := one_le_pow₀ (by norm_num)

/-- Four attempts without a delay, and a multiplier of `1e200`. -/
def steepBackoff : RetryPolicy where
  maxAttempts := 4
  delaySeconds := 0
  backoffMultiplier := 10 ^ 200
  one_le_maxAttempts := four_attempts
  delaySeconds_nonneg := no_delay_nonneg
  one_le_backoffMultiplier := one_le_steepness

/-- All attempts time out, and there is no deadline. -/
def timesOut : RetryTrial TransportPacket Unit where
  deadline := none
  packet := clientPacket "acme" "score" none
  budget := none
  outcome _ := .error { cls := .timeoutError }
  state := GateState.fresh NodeRegistry.empty none (.stopped 0) ⟨fun _ => 0, 0⟩
  turns := patience 8
  sleepsEnd := sleepsEnd_patience 8

end ConstellationGate
