import ConstellationGate.Lib.Spans
import ConstellationGate.Resilience.BreakerCalls

/-!
# The load that a breaker lets through while everything fails

A stretch of calls, one after the other, each of which fails when it is admitted.  It may start in
any state that calls, overlapping or not, have brought a breaker to.

While the breaker is closed, each admission is followed by a failure that counts, so that it opens
when `failure_threshold` failures have been reported in a row.  From then on only a success could
close it, and each admission waits for the recovery time since the failure of the last one.  Each
admission is marked with the number of failures in a row reported before it (`admissions`): these
numbers increase, and an admission whose number has reached the threshold keeps the distance of
the recovery time from every earlier one (`Outage`).
-/

namespace ConstellationGate

variable {α : Type}

/-- The failures in a row after an event, of which there were `n` before it. -/
def BreakerEvent.failuresInARow (n : ℕ) : BreakerEvent → ℕ
  | asked _ _ => n
  | succeeded => 0
  | failed _ _ => n + 1

/-- The failures that have been reported since the last success. -/
def failuresInARow (log : List (ℕ × BreakerEvent)) : ℕ :=
  log.foldl (fun n event => event.2.failuresInARow n) 0

/-- The times at which calls are admitted, each with the failures in a row reported before; there
were `n` of them at first. -/
def admissions : ℕ → List (ℕ × BreakerEvent) → List (ℚ × ℕ)
  | _, [] => []
  | n, (_, .asked now true) :: log => (now, n) :: admissions n log
  | n, event :: log => admissions (event.2.failuresInARow n) log

/-- The moves of calls that fail with the exceptions, one call after the other; the first one is
call `i`. -/
def failingCalls (i : ℕ) : List PyError → List (CallMove α)
  | [] => []
  | exc :: excs => .start :: .finish i (.error exc) :: failingCalls (i + 1) excs

/-- The admissions of calls that fail with the exceptions, one call after the other, from the state
that the moves lead to. -/
def outageAdmissions (s : BreakerClock) (ms : List (CallMove α)) (excs : List PyError) :
    List (ℚ × ℕ) :=
  let c := runCalls s ms
  let c' := c.run ((failingCalls c.tasks.length excs).map CallMove.toMove)
  admissions (failuresInARow c.world.log) (c'.world.log.drop c.world.log.length)

lemma failuresInARow_append (log events : List (ℕ × BreakerEvent)) :
    failuresInARow (log ++ events) =
      events.foldl (fun n event => event.2.failuresInARow n) (failuresInARow log) :=
  List.foldl_append

lemma admissions_append (n : ℕ) (log events : List (ℕ × BreakerEvent)) :
    admissions n (log ++ events) = admissions n log ++
      admissions (log.foldl (fun n event => event.2.failuresInARow n) n) events := by
  fun_induction admissions n log with
  | case1 n => rfl
  | case2 n tid now log ih => exact congrArg (List.cons (now, n)) ih
  | case3 n event log hnot ih =>
    rw [List.cons_append, admissions, ih, List.foldl_cons]
    exact hnot

lemma admissions_refused (n tid : ℕ) (now : ℚ) :
    admissions n [(tid, .asked now false)] = [] := rfl

lemma admissions_admitted (n tid : ℕ) (now t : ℚ) (tripped : Bool) :
    admissions n [(tid, .asked now true), (tid, .failed t tripped)] = [(now, n)] := rfl

/-! ### The count of failures -/

/-- While the breaker is closed its count is that of the failures in a row, which are fewer than the
threshold; otherwise they have reached it. -/
structure Tallied (b : CircuitBreaker) (w : World (breakerCalls α)) : Prop where
  threshold_eq : w.state.breaker.failureThreshold = b.failureThreshold
  recovery_eq : w.state.breaker.recoveryTimeoutSeconds = b.recoveryTimeoutSeconds
  counted : w.state.breaker.state = .closed →
    w.state.breaker.failureCount = failuresInARow w.log ∧ failuresInARow w.log < b.failureThreshold
  reached : w.state.breaker.state ≠ .closed → b.failureThreshold ≤ failuresInARow w.log

namespace Tallied

variable {b : CircuitBreaker} {w : World (breakerCalls α)}

/-- A move that neither changes the breaker nor the failures in a row. -/
lemma congr (h : Tallied b w) {w' : World (breakerCalls α)}
    (hbreaker : w'.state.breaker = w.state.breaker)
    (hrow : failuresInARow w'.log = failuresInARow w.log) : Tallied b w' := by
  constructor
  · rw [hbreaker, h.threshold_eq]
  · rw [hbreaker, h.recovery_eq]
  · rw [hbreaker, hrow]
    exact h.counted
  · rw [hbreaker, hrow]
    exact h.reached

/-- A call asks the breaker. -/
lemma ask (h : Tallied b w) (tid : ℕ) : Tallied b (afterAsking tid w) := by
  have hrow : failuresInARow (afterAsking tid w).log = failuresInARow w.log :=
    failuresInARow_append _ _
  rcases w.state.breaker.beforeCall_cases w.state.clock.now with
    ⟨-, heq⟩ | ⟨openedAt, hopen, -, ⟨-, -, heq⟩ | ⟨-, heq⟩⟩
  · exact h.congr (congrArg Prod.snd heq) hrow
  · exact h.congr heq hrow
  · have hbreaker : (afterAsking tid w).state.breaker = w.state.breaker.halfOpened :=
      congrArg Prod.snd heq
    refine ⟨?_, ?_, ?_, fun _ => ?_⟩
    · rw [hbreaker]
      exact h.threshold_eq
    · rw [hbreaker]
      exact h.recovery_eq
    · rw [hbreaker]
      intro hclosed
      cases hclosed
    · rw [hrow]
      refine h.reached ?_
      rw [hopen]
      decide

/-- A success is reported. -/
lemma succeed (h : Tallied b w) (tid : ℕ) : Tallied b (afterSuccess tid w) := by
  have hrow : failuresInARow (afterSuccess tid w).log = 0 := failuresInARow_append _ _
  refine ⟨h.threshold_eq, h.recovery_eq, fun _ => ?_, fun hnot => absurd rfl hnot⟩
  rw [hrow]
  exact ⟨rfl, b.one_le_failureThreshold⟩

/-- A failure is reported. -/
lemma fail (h : Tallied b w) (tid : ℕ) : Tallied b (afterFailure tid w) := by
  have hrow : failuresInARow (afterFailure tid w).log = failuresInARow w.log + 1 :=
    failuresInARow_append _ _
  obtain ⟨hthreshold, hrecovery, hcases⟩ :=
    w.state.breaker.recordFailure_cases w.state.clock.now
  refine ⟨hthreshold.trans h.threshold_eq, hrecovery.trans h.recovery_eq, ?_, ?_⟩
  · rw [hrow]
    rintro (hclosed : (w.state.breaker.recordFailure w.state.clock.now).state = .closed)
    change (w.state.breaker.recordFailure w.state.clock.now).failureCount = _ ∧ _
    rcases hcases with ⟨-, hopen, -⟩ | ⟨htrips, hstate, -, hcount⟩
    · rw [hopen] at hclosed
      cases hclosed
    · obtain ⟨hcounted, -⟩ := h.counted (hstate.symm.trans hclosed)
      simp only [CircuitBreaker.trips, decide_eq_false_iff_not, not_or, h.threshold_eq] at htrips
      omega
  · rw [hrow]
    rintro (hnot : (w.state.breaker.recordFailure w.state.clock.now).state ≠ .closed)
    by_cases hclosed : w.state.breaker.state = .closed
    · obtain ⟨hcounted, -⟩ := h.counted hclosed
      rcases hcases with ⟨htrips, -⟩ | ⟨-, hstate, -⟩
      · simpa [CircuitBreaker.trips, hclosed, h.threshold_eq, hcounted] using htrips
      · exact absurd (hstate.trans hclosed) hnot
    · exact (h.reached hclosed).trans (Nat.le_succ _)

end Tallied

/-- Every run of calls of a new breaker. -/
lemma tallied_run {b : CircuitBreaker} (hstate : b.state = .closed) (hcount : b.failureCount = 0)
    (clock : MonotonicClock) (ms : List (CallMove α)) :
    (∀ t ∈ (runCalls ⟨b, clock⟩ ms).tasks, IsCall t) ∧
      Tallied b (runCalls ⟨b, clock⟩ ms).world := by
  induction ms using List.reverseRecOn with
  | nil =>
    refine ⟨fun t ht => ?_, rfl, rfl, fun _ => ⟨hcount, b.one_le_failureThreshold⟩, ?_⟩
    · cases ht
    · intro hnot
      exact absurd hstate hnot
  | append_singleton ms m ih =>
    obtain ⟨hcalls, h⟩ := ih
    have hconcat : runCalls ⟨b, clock⟩ (ms ++ [m]) = (runCalls ⟨b, clock⟩ ms).step m.toMove := by
      simp [runCalls, Pool.run]
    rw [hconcat]
    obtain ⟨hcalls', heq | ⟨tid, heq⟩ | ⟨i, result, k, -, -, heq⟩ | ⟨tid, heq⟩⟩ :=
      step_cases m hcalls
    · exact ⟨hcalls', heq ▸ h⟩
    · exact ⟨hcalls', heq ▸ h.ask tid⟩
    · exact ⟨hcalls', heq ▸ h.succeed i⟩
    · exact ⟨hcalls', heq ▸ h.fail tid⟩

/-! ### One call of the stretch -/

/-- A call that fails when it is admitted is refused, or asks and reports its failure. -/
lemma failingCall_cases (c : Pool (breakerCalls α) α) {exc : PyError}
    (hexc : exc.isException = true) :
    let c' := (c.step (CallMove.start (α := α)).toMove).step
      (CallMove.finish c.tasks.length (.error exc)).toMove
    c'.tasks.length = c.tasks.length + 1 ∧
      ((c.world.state.breaker.beforeCall c.world.state.clock.now).1.toBool = false ∧
          c'.world = afterAsking c.tasks.length c.world ∨
        (c.world.state.breaker.beforeCall c.world.state.clock.now).1.toBool = true ∧
          c'.world = afterFailure c.tasks.length (afterAsking c.tasks.length c.world)) := by
  obtain ⟨t, hsegment, ht⟩ := segment_breakerRun (α := α) c.tasks.length c.world
  have hstart : c.step (CallMove.start (α := α)).toMove =
      ⟨afterAsking c.tasks.length c.world, c.tasks ++ [t]⟩ := by
    simp only [CallMove.toMove, Pool.step, hsegment]
  have hget : (c.tasks ++ [t])[c.tasks.length]? = some t := by simp
  simp only [hstart]
  rcases ht with ⟨hpassed, rfl⟩ | ⟨hrefused, r, rfl⟩
  · have hfinish :
        (⟨afterAsking c.tasks.length c.world, c.tasks ++ [Status.waiting () reportOutcome]⟩ :
          Pool (breakerCalls α) α).step (CallMove.finish c.tasks.length (.error exc)).toMove =
        ⟨afterFailure c.tasks.length (afterAsking c.tasks.length c.world),
          (c.tasks ++ [Status.waiting () reportOutcome]).set c.tasks.length
            (.finished (.error exc))⟩ := by
      simp only [CallMove.toMove, Pool.step, hget, segment_reportOutcome_error, hexc, if_true]
    rw [hfinish]
    exact ⟨by simp, Or.inr ⟨hpassed, rfl⟩⟩
  · have hfinish : (⟨afterAsking c.tasks.length c.world, c.tasks ++ [.finished r]⟩ :
        Pool (breakerCalls α) α).step (CallMove.finish c.tasks.length (.error exc)).toMove =
        ⟨afterAsking c.tasks.length c.world, c.tasks ++ [.finished r]⟩ := by
      simp only [CallMove.toMove, Pool.step, hget]
    rw [hfinish]
    exact ⟨by simp, Or.inl ⟨hrefused, rfl⟩⟩

/-- What holds between the calls of the stretch, in which the calls marked were admitted. -/
structure Outage (b : CircuitBreaker) (w : World (breakerCalls α)) (marks : List (ℚ × ℕ)) :
    Prop where
  tallied : Tallied b w
  apart : marks.Pairwise fun m m' =>
    m.2 < m'.2 ∧ (b.failureThreshold ≤ m'.2 → m.1 + b.recoveryTimeoutSeconds ≤ m'.1)
  past : ∀ m ∈ marks, m.1 ≤ w.state.clock.now ∧ m.2 < failuresInARow w.log
  opened : ∀ openedAt, w.state.breaker.state = .opened → w.state.breaker.openedAt = some openedAt →
    ∀ m ∈ marks, m.1 ≤ openedAt
  halfOpen : w.state.breaker.state = .halfOpen → marks = []

/-- A breaker that lets a call through is not open then. -/
lemma notOpen_of_passed {w : World (breakerCalls α)} (tid : ℕ)
    (hpassed : (w.state.breaker.beforeCall w.state.clock.now).1.toBool = true) :
    (afterAsking tid w).state.breaker.state ≠ .opened := by
  change (w.state.breaker.beforeCall w.state.clock.now).2.state ≠ .opened
  rcases w.state.breaker.beforeCall_cases w.state.clock.now with
    ⟨hnot, heq⟩ | ⟨openedAt, -, -, ⟨-, hrefused, -⟩ | ⟨-, heq⟩⟩
  · rw [heq]
    exact hnot
  · rw [hrefused] at hpassed
    cases hpassed
  · rw [heq]
    intro hopen
    cases hopen

namespace Outage

variable {b : CircuitBreaker} {w : World (breakerCalls α)} {marks : List (ℚ × ℕ)}

/-- A call is refused. -/
lemma refuse (h : Outage b w marks) (tid : ℕ)
    (hrefused : (w.state.breaker.beforeCall w.state.clock.now).1.toBool = false) :
    Outage b (afterAsking tid w) marks := by
  have hbreaker : (afterAsking tid w).state.breaker = w.state.breaker := by
    rcases w.state.breaker.beforeCall_cases w.state.clock.now with
      ⟨-, heq⟩ | ⟨openedAt, -, -, ⟨-, -, heq⟩ | ⟨-, heq⟩⟩
    · exact congrArg Prod.snd heq
    · exact heq
    · rw [heq] at hrefused
      cases hrefused
  have hrow : failuresInARow (afterAsking tid w).log = failuresInARow w.log :=
    failuresInARow_append _ _
  refine ⟨h.tallied.ask tid, h.apart, fun m hm => ⟨?_, ?_⟩, ?_, ?_⟩
  · exact (h.past m hm).1.trans (now_le_tick w.state.clock)
  · exact (h.past m hm).2.trans_eq hrow.symm
  · rw [hbreaker]
    exact h.opened
  · rw [hbreaker]
    exact h.halfOpen

/-- A call that is admitted keeps the distance of the recovery time from the earlier ones once the
threshold is reached. -/
lemma admitted_apart (h : Outage b w marks)
    (hpassed : (w.state.breaker.beforeCall w.state.clock.now).1.toBool = true) :
    ∀ m ∈ marks, b.failureThreshold ≤ failuresInARow w.log →
      m.1 + b.recoveryTimeoutSeconds ≤ w.state.clock.now := by
  intro m hm hreached
  rcases w.state.breaker.beforeCall_cases w.state.clock.now with
    ⟨hnot, -⟩ | ⟨openedAt, hopen, ho, ⟨-, hrefused, -⟩ | ⟨hover, -⟩⟩
  · -- the breaker is half-open, so that no call was admitted before
    cases hstate : w.state.breaker.state with
    | closed =>
      have hlt := (h.tallied.counted hstate).2
      omega
    | opened => exact absurd hstate hnot
    | halfOpen =>
      rw [h.halfOpen hstate] at hm
      cases hm
  · rw [hrefused] at hpassed
    cases hpassed
  · have hle := h.opened openedAt hopen ho m hm
    rw [h.tallied.recovery_eq] at hover
    linarith

/-- A call is admitted and fails. -/
lemma pass (h : Outage b w marks) (tid : ℕ)
    (hpassed : (w.state.breaker.beforeCall w.state.clock.now).1.toBool = true) :
    Outage b (afterFailure tid (afterAsking tid w))
      (marks ++ [(w.state.clock.now, failuresInARow w.log)]) := by
  have htallied := (h.tallied.ask tid).fail tid
  have hrow : failuresInARow (afterFailure tid (afterAsking tid w)).log =
      failuresInARow w.log + 1 := by
    rw [afterFailure, World.emit, failuresInARow_append]
    exact congrArg Nat.succ (failuresInARow_append _ _)
  have hnow := now_le_tick w.state.clock
  have hnow' := now_le_tick w.state.clock.tick
  have hmarks : ∀ m ∈ marks ++ [(w.state.clock.now, failuresInARow w.log)],
      m.1 ≤ w.state.clock.tick.now ∧ m.2 < failuresInARow w.log + 1 := by
    intro m hm
    rcases List.mem_append.1 hm with hm | hm
    · exact ⟨(h.past m hm).1.trans hnow, (h.past m hm).2.trans (Nat.lt_succ_self _)⟩
    · rw [List.mem_singleton.1 hm]
      exact ⟨hnow, Nat.lt_succ_self _⟩
  -- the failure opens the breaker, unless it was closed and stays so
  have hstate : (afterFailure tid (afterAsking tid w)).state.breaker.state = .opened ∧
        (afterFailure tid (afterAsking tid w)).state.breaker.openedAt =
          some w.state.clock.tick.now ∨
      (afterFailure tid (afterAsking tid w)).state.breaker.state = .closed := by
    obtain ⟨-, -, ⟨-, hopen, ho⟩ | ⟨htrips, hsame, -⟩⟩ :=
      (afterAsking tid w).state.breaker.recordFailure_cases w.state.clock.tick.now
    · exact Or.inl ⟨hopen, ho⟩
    · have hnot := notOpen_of_passed tid hpassed
      refine Or.inr (hsame.trans ?_)
      cases hasked : (afterAsking tid w).state.breaker.state with
      | closed => rfl
      | opened => exact absurd hasked hnot
      | halfOpen => simp [CircuitBreaker.trips, hasked] at htrips
  refine ⟨htallied, ?_, fun m hm => ⟨?_, ?_⟩, ?_, ?_⟩
  · refine List.pairwise_append.2 ⟨h.apart, List.pairwise_singleton _ _, fun m hm m' hm' => ?_⟩
    rw [List.mem_singleton.1 hm']
    exact ⟨(h.past m hm).2, h.admitted_apart hpassed m hm⟩
  · exact (hmarks m hm).1.trans hnow'
  · rw [hrow]
    exact (hmarks m hm).2
  · intro openedAt hopen ho m hm
    rcases hstate with ⟨-, hat⟩ | hclosed
    · obtain rfl := Option.some.inj (ho.symm.trans hat)
      exact (hmarks m hm).1
    · rw [hclosed] at hopen
      cases hopen
  · intro hhalf
    rcases hstate with ⟨hopen, -⟩ | hclosed
    · rw [hopen] at hhalf
      cases hhalf
    · rw [hclosed] at hhalf
      cases hhalf

end Outage

/-- The calls of the stretch. -/
lemma outage_run {b : CircuitBreaker} {excs : List PyError}
    (hexcs : ∀ exc ∈ excs, exc.isException = true) {c : Pool (breakerCalls α) α}
    {marks : List (ℚ × ℕ)} (h : Outage b c.world marks) :
    ∃ events,
      (c.run ((failingCalls c.tasks.length excs).map CallMove.toMove)).world.log =
        c.world.log ++ events ∧
      Outage b (c.run ((failingCalls c.tasks.length excs).map CallMove.toMove)).world
        (marks ++ admissions (failuresInARow c.world.log) events) := by
  induction excs generalizing c marks with
  | nil =>
    refine ⟨[], (List.append_nil _).symm, ?_⟩
    rw [admissions, List.append_nil]
    exact h
  | cons exc excs ih =>
    obtain ⟨hlength, hcases⟩ := failingCall_cases c (hexcs exc List.mem_cons_self)
    have hrest := fun exc' hexc' => hexcs exc' (List.mem_cons_of_mem exc hexc')
    rw [failingCalls, List.map_cons, List.map_cons, Pool.run_cons, Pool.run_cons, ← hlength]
    generalize (c.step (CallMove.start (α := α)).toMove).step
      (CallMove.finish c.tasks.length (.error exc)).toMove = c' at hcases ⊢
    -- the events of the call, and what was admitted by then
    obtain ⟨events, hlog, hcall⟩ : ∃ events, c'.world.log = c.world.log ++ events ∧
        Outage b c'.world (marks ++ admissions (failuresInARow c.world.log) events) := by
      rcases hcases with ⟨hrefused, hworld⟩ | ⟨hpassed, hworld⟩
      · refine ⟨[(c.tasks.length, .asked c.world.state.clock.now false)], ?_, ?_⟩
        · rw [hworld, afterAsking, hrefused]
          rfl
        · rw [hworld, admissions_refused, List.append_nil]
          exact h.refuse _ hrefused
      · refine ⟨[(c.tasks.length, .asked c.world.state.clock.now true),
          (c.tasks.length, .failed c.world.state.clock.tick.now
            (afterAsking c.tasks.length c.world).state.breaker.trips)], ?_, ?_⟩
        · rw [hworld, afterFailure, afterAsking, hpassed]
          exact List.append_assoc _ _ _
        · rw [hworld, admissions_admitted]
          exact h.pass _ hpassed
    obtain ⟨events', hlog', hrun⟩ := ih hrest hcall
    refine ⟨events ++ events', by rw [hlog', hlog, List.append_assoc], ?_⟩
    rw [admissions_append, ← failuresInARow_append, ← hlog, ← List.append_assoc]
    exact hrun

/-- From every state that calls have brought a new breaker to, while calls are made one after the
other and each fails when it is admitted, a span of time of length `T` has at most
`failure_threshold + ⌊T / recovery_timeout_seconds⌋` admissions.  Two admissions before which
`failure_threshold` failures in a row have been reported are at least the recovery time apart. -/
theorem outage_load {b : CircuitBreaker} (hstate : b.state = .closed) (hcount : b.failureCount = 0)
    (clock : MonotonicClock) (ms : List (CallMove α)) {excs : List PyError}
    (hexcs : ∀ exc ∈ excs, exc.isException = true) :
    (∀ start T, ((outageAdmissions ⟨b, clock⟩ ms excs).map Prod.fst).inSpan start T ≤
      b.failureThreshold + ⌊T / b.recoveryTimeoutSeconds⌋₊) ∧
    (outageAdmissions ⟨b, clock⟩ ms excs).Pairwise fun earlier later =>
      b.failureThreshold ≤ earlier.2 → earlier.1 + b.recoveryTimeoutSeconds ≤ later.1 := by
  obtain ⟨-, htallied⟩ := tallied_run hstate hcount clock ms
  have hstart : Outage b (runCalls ⟨b, clock⟩ ms).world [] := by
    refine ⟨htallied, List.Pairwise.nil, ?_, ?_, fun _ => rfl⟩
    · intro m hm
      cases hm
    · intro openedAt _ _ m hm
      cases hm
  obtain ⟨events, hlog, houtage⟩ := outage_run hexcs hstart
  have hmarks : outageAdmissions ⟨b, clock⟩ ms excs =
      admissions (failuresInARow (runCalls ⟨b, clock⟩ ms).world.log) events := by
    rw [outageAdmissions]
    simp only [hlog, List.drop_left]
  rw [hmarks]
  refine ⟨fun start T => ?_, ?_⟩
  · exact List.inSpan_le_of_ranked b.recoveryTimeoutSeconds_pos b.one_le_failureThreshold
      houtage.apart start T
  · refine List.Pairwise.imp ?_ houtage.apart
    intro earlier later hapart hreached
    exact hapart.2 (hreached.trans hapart.1.le)

lemma mono_strides : Monotone fun n : ℕ => (20 * n : ℚ) := by
  intro m n hmn
  have hcast : (m : ℚ) ≤ n := by exact_mod_cast hmn
  show (20 * m : ℚ) ≤ 20 * n
  linarith

/-- A clock that shows twenty seconds more at each reading. -/
def stridesClock : MonotonicClock := ⟨⟨fun n => 20 * n, 0⟩, mono_strides⟩

/-- Four calls that fail. -/
def fourFailures : List PyError := List.replicate 4 { cls := .runtimeError }

lemma fourFailures_isException : ∀ exc ∈ fourFailures, exc.isException = true := by
  decide +kernel

/-- After two calls have opened the breaker two of four more calls are admitted, each when the
recovery time is over. -/
theorem outage_load_fourFailures :
    outageAdmissions ⟨touchyBreaker, stridesClock⟩ lateFailure fourFailures =
        [(100, 2), (160, 3)] ∧
      ((outageAdmissions ⟨touchyBreaker, stridesClock⟩ lateFailure fourFailures).map
        Prod.fst).inSpan 100 60 ≤
          touchyBreaker.failureThreshold + ⌊60 / touchyBreaker.recoveryTimeoutSeconds⌋₊ ∧
      (outageAdmissions ⟨touchyBreaker, stridesClock⟩ lateFailure fourFailures).Pairwise
        fun earlier later => touchyBreaker.failureThreshold ≤ earlier.2 →
          earlier.1 + touchyBreaker.recoveryTimeoutSeconds ≤ later.1 := by
  obtain ⟨hspans, hapart⟩ :=
    outage_load (b := touchyBreaker) rfl rfl stridesClock lateFailure fourFailures_isException
  exact ⟨by decide +kernel, hspans 100 60, hapart⟩

end ConstellationGate
