import ConstellationGate.Lib.Coroutine
import ConstellationGate.Resilience.Admission
import Mathlib.Tactic.Linarith
import Mathlib.Tactic.NormNum

/-!
# Calls under a circuit breaker

`CircuitBreaker.run`: a call asks the breaker, awaits what it guards and reports the outcome.
Any number of calls share one breaker, so that a call that was admitted before the breaker
opened reports its outcome while it is open.

A late failure opens the breaker again, later.  A late success closes it, whatever its state:
the breaker refuses every call for its recovery time when no success is reported within it
(`open_for_recovery`), and `lateSuccess_reopens` is a run in which one is.
-/

namespace ConstellationGate

variable {α : Type}

/-- A breaker with its time source. -/
structure BreakerClock where
  breaker : CircuitBreaker
  /-- `time_source`. -/
  clock : MonotonicClock

/-- What is recorded of the calls. -/
inductive BreakerEvent
  /-- A call has asked the breaker at a clock reading, and has passed or not. -/
  | asked (now : ℚ) (passed : Bool)
  /-- A call has reported a success. -/
  | succeeded
  /-- A call has reported a failure at a clock reading, and has opened the breaker or not. -/
  | failed (now : ℚ) (tripped : Bool)
deriving DecidableEq

/-- What calls may do: they await what the breaker guards. -/
abbrev breakerCalls (α : Type) : Signature where
  State := BreakerClock
  Event := BreakerEvent
  Error := PyError
  Request := Unit
  Reply _ := α

/-- `self.before_call()`. -/
def askBreaker : Co (breakerCalls α) Unit := do
  let now ← Co.read fun s : BreakerClock => s.clock.now
  let outcome ← (Co.call (S := breakerCalls α) fun s =>
    ((s.breaker.beforeCall now).1, ⟨(s.breaker.beforeCall now).2, s.clock.tick⟩)).attempt
  Co.log (S := breakerCalls α) (.asked now outcome.toBool)
  Co.done outcome

/-- `self.record_success()`. -/
def reportSuccess : Co (breakerCalls α) Unit := do
  Co.call (S := breakerCalls α) fun s => (.ok (), { s with breaker := s.breaker.recordSuccess })
  Co.log (S := breakerCalls α) .succeeded

/-- `self.record_failure()`. -/
def reportFailure : Co (breakerCalls α) Unit := do
  let now ← Co.read fun s : BreakerClock => s.clock.now
  let tripped ← Co.read fun s : BreakerClock => s.breaker.trips
  Co.call (S := breakerCalls α) fun s => (.ok (), ⟨s.breaker.recordFailure now, s.clock.tick⟩)
  Co.log (S := breakerCalls α) (.failed now tripped)

/-- What a call does when the awaited function has ended; a cancellation is not reported. -/
def reportOutcome : Except PyError α → Co (breakerCalls α) α
  | .ok result => do
    reportSuccess
    pure result
  | .error exc => do
    if exc.isException then reportFailure
    Co.raise exc

/-- `CircuitBreaker.run`. -/
def breakerRun : Co (breakerCalls α) α := do
  askBreaker
  (Co.request (S := breakerCalls α) ()).handle reportOutcome

/-! ### Runs -/

/-- One move of a run. -/
inductive CallMove (α : Type)
  /-- A call is started. -/
  | start
  /-- What call `i` awaits ends, or the call is cancelled. -/
  | finish (i : ℕ) (outcome : Except PyError α)

/-- The move as a move of the pool of calls. -/
def CallMove.toMove : CallMove α → Move (breakerCalls α) α
  | start => .spawn breakerRun
  | finish i outcome => .resume i fun _ => outcome

/-- The pool after a run. -/
def runCalls (s : BreakerClock) (ms : List (CallMove α)) : Pool (breakerCalls α) α :=
  (Pool.init s).run (ms.map CallMove.toMove)

/-- A success is reported while the breaker is open and its recovery time is not over when the
clock is read next. -/
def ClosesEarly (c : Pool (breakerCalls α) α) (m : CallMove α) : Prop :=
  ∃ i result k openedAt, m = .finish i (.ok result) ∧ c.tasks[i]? = some (.waiting () k) ∧
    c.world.state.breaker.state = .opened ∧ c.world.state.breaker.openedAt = some openedAt ∧
    c.world.state.clock.now < openedAt + c.world.state.breaker.recoveryTimeoutSeconds

/-- After a failure has opened the breaker, every call that asks within the recovery time is
refused. -/
def StaysOpen (recovery : ℚ) (log : List (ℕ × BreakerEvent)) : Prop :=
  ∀ tid t tid' now passed, (tid, .failed t true) ∈ log → (tid', .asked now passed) ∈ log →
    t < now → now < t + recovery → passed = false

/-! ### What one move does -/

/-- A call is finished, or it awaits what the breaker guards. -/
def IsCall (t : Status (breakerCalls α) α) : Prop :=
  (∃ r, t = .finished r) ∨ t = .waiting () reportOutcome

/-- A call has asked the breaker. -/
def afterAsking (tid : ℕ) (w : World (breakerCalls α)) : World (breakerCalls α) :=
  (w.put ⟨(w.state.breaker.beforeCall w.state.clock.now).2, w.state.clock.tick⟩).emit tid
    (.asked w.state.clock.now (w.state.breaker.beforeCall w.state.clock.now).1.toBool)

/-- A call has reported a success. -/
def afterSuccess (tid : ℕ) (w : World (breakerCalls α)) : World (breakerCalls α) :=
  (w.put { w.state with breaker := w.state.breaker.recordSuccess }).emit tid .succeeded

/-- A call has reported a failure. -/
def afterFailure (tid : ℕ) (w : World (breakerCalls α)) : World (breakerCalls α) :=
  (w.put ⟨w.state.breaker.recordFailure w.state.clock.now, w.state.clock.tick⟩).emit tid
    (.failed w.state.clock.now w.state.breaker.trips)

/-- A call that starts asks the breaker; it awaits what the breaker guards, or it is refused. -/
lemma segment_breakerRun (tid : ℕ) (w : World (breakerCalls α)) :
    ∃ t : Status (breakerCalls α) α,
      (breakerRun : Co (breakerCalls α) α).segment tid w = (t, afterAsking tid w) ∧
      ((w.state.breaker.beforeCall w.state.clock.now).1.toBool = true ∧
          t = .waiting () reportOutcome ∨
        (w.state.breaker.beforeCall w.state.clock.now).1.toBool = false ∧
          ∃ r, t = .finished r) := by
  have hask : (breakerRun : Co (breakerCalls α) α).segment tid w =
      ((Co.done (w.state.breaker.beforeCall w.state.clock.now).1 : Co (breakerCalls α) Unit) >>=
        fun _ => (Co.request (S := breakerCalls α) ()).handle reportOutcome).segment tid
        (afterAsking tid w) :=
    rfl
  rw [hask]
  rcases (w.state.breaker.beforeCall w.state.clock.now).1 with e | u
  · exact ⟨_, rfl, Or.inr ⟨rfl, _, rfl⟩⟩
  · exact ⟨_, rfl, Or.inl ⟨rfl, rfl⟩⟩

/-- A call whose outcome is a result reports a success. -/
lemma segment_reportOutcome_ok (tid : ℕ) (w : World (breakerCalls α)) (result : α) :
    (reportOutcome (.ok result)).segment tid w = (.finished (.ok result), afterSuccess tid w) :=
  rfl

/-- A call whose outcome is an exception reports a failure, unless it is cancelled. -/
lemma segment_reportOutcome_error (tid : ℕ) (w : World (breakerCalls α)) (exc : PyError) :
    (reportOutcome (.error exc : Except PyError α)).segment tid w =
      (.finished (.error exc), if exc.isException then afterFailure tid w else w) := by
  rw [reportOutcome]
  cases exc.isException with
  | false => rfl
  | true => rfl

/-- A move records nothing, or a call asks, or a call that waited reports its outcome. -/
lemma step_cases {c : Pool (breakerCalls α) α} (m : CallMove α)
    (hcalls : ∀ t ∈ c.tasks, IsCall t) :
    (∀ t ∈ (c.step m.toMove).tasks, IsCall t) ∧
      ((c.step m.toMove).world = c.world ∨
        (∃ tid, (c.step m.toMove).world = afterAsking tid c.world) ∨
        (∃ i result k, m = .finish i (.ok result) ∧ c.tasks[i]? = some (.waiting () k) ∧
          (c.step m.toMove).world = afterSuccess i c.world) ∨
        ∃ tid, (c.step m.toMove).world = afterFailure tid c.world) := by
  cases m with
  | start =>
    obtain ⟨t, hsegment, ht⟩ := segment_breakerRun (α := α) c.tasks.length c.world
    have hstep : c.step (CallMove.start (α := α)).toMove =
        ⟨afterAsking c.tasks.length c.world, c.tasks ++ [t]⟩ := by
      simp only [CallMove.toMove, Pool.step, hsegment]
    rw [hstep]
    refine ⟨fun t' ht' => ?_, Or.inr (Or.inl ⟨_, rfl⟩)⟩
    rcases List.mem_append.1 ht' with ht' | ht'
    · exact hcalls t' ht'
    · rw [List.mem_singleton.1 ht']
      exact ht.elim (fun hpassed => Or.inr hpassed.2) fun hrefused => Or.inl hrefused.2
  | finish i outcome =>
    rcases hget : c.tasks[i]? with _ | t
    · have hstep : c.step (CallMove.finish i outcome).toMove = c := by
        simp only [CallMove.toMove, Pool.step, hget]
      rw [hstep]
      exact ⟨hcalls, Or.inl rfl⟩
    rcases hcalls t (List.mem_of_getElem? hget) with ⟨r, rfl⟩ | rfl
    · have hstep : c.step (CallMove.finish i outcome).toMove = c := by
        simp only [CallMove.toMove, Pool.step, hget]
      rw [hstep]
      exact ⟨hcalls, Or.inl rfl⟩
    have hstep : c.step (CallMove.finish i outcome).toMove =
        ⟨((reportOutcome outcome).segment i c.world).2,
          c.tasks.set i ((reportOutcome outcome).segment i c.world).1⟩ := by
      simp only [CallMove.toMove, Pool.step, hget]
    rw [hstep]
    have hset : ∀ r : Except PyError α, ∀ t ∈ c.tasks.set i (.finished r), IsCall t := by
      intro r t ht
      rcases List.mem_or_eq_of_mem_set ht with ht | rfl
      · exact hcalls t ht
      · exact Or.inl ⟨r, rfl⟩
    -- the call that waited reports its outcome and is over
    cases outcome with
    | ok result =>
      rw [segment_reportOutcome_ok]
      exact ⟨hset _, Or.inr (Or.inr (Or.inl ⟨i, result, _, rfl, hget, rfl⟩))⟩
    | error exc =>
      rw [segment_reportOutcome_error]
      refine ⟨hset _, ?_⟩
      simp only
      split
      · exact Or.inr (Or.inr (Or.inr ⟨i, rfl⟩))
      · exact Or.inl rfl

/-! ### The invariant -/

/-- After a failure at `t` the breaker is open since then or later, or the recovery time is over
when the clock is read next. -/
def Shut (recovery t : ℚ) (s : BreakerClock) : Prop :=
  (s.breaker.state = .opened ∧ ∃ openedAt, s.breaker.openedAt = some openedAt ∧ t ≤ openedAt) ∨
    t + recovery ≤ s.clock.now

/-- What holds between the moves of a run in which no success closes the breaker early. -/
structure Guarded (recovery : ℚ) (w : World (breakerCalls α)) : Prop where
  recovery_eq : w.state.breaker.recoveryTimeoutSeconds = recovery
  asked_le : ∀ tid now passed, (tid, .asked now passed) ∈ w.log → now ≤ w.state.clock.now
  failed_le : ∀ tid t tripped, (tid, .failed t tripped) ∈ w.log → t ≤ w.state.clock.now
  shut : ∀ tid t, (tid, .failed t true) ∈ w.log → Shut recovery t w.state
  staysOpen : StaysOpen recovery w.log

lemma now_le_tick (clock : MonotonicClock) : clock.now ≤ clock.tick.now :=
  (MonotonicClock.later_tick clock).now_le

namespace Guarded

variable {recovery : ℚ} {w : World (breakerCalls α)}

/-- A call records an event: it is enough to look at this event, and at what becomes of the
failures that have opened the breaker. -/
lemma concat (h : Guarded recovery w) (tid : ℕ) {e : BreakerEvent} {s : BreakerClock}
    (hrecovery : s.breaker.recoveryTimeoutSeconds = w.state.breaker.recoveryTimeoutSeconds)
    (hle : w.state.clock.now ≤ s.clock.now)
    (hread : ∀ now, (∃ passed, e = .asked now passed) ∨ (∃ tripped, e = .failed now tripped) →
      now = w.state.clock.now)
    (hnew : ∀ t, e = .failed t true → Shut recovery t s)
    (hearlier : ∀ tid' t, (tid', .failed t true) ∈ w.log → Shut recovery t s ∧
      ∀ now passed, e = .asked now passed → now < t + recovery → passed = false) :
    Guarded recovery ((w.put s).emit tid e) where
  recovery_eq := hrecovery.trans h.recovery_eq
  asked_le tid' now passed hmem := by
    rcases List.mem_append.1 hmem with hmem | hmem
    · exact (h.asked_le tid' now passed hmem).trans hle
    · obtain ⟨-, heq⟩ := Prod.mk.inj (List.mem_singleton.1 hmem)
      exact (hread now (Or.inl ⟨passed, heq.symm⟩)).trans_le hle
  failed_le tid' t tripped hmem := by
    rcases List.mem_append.1 hmem with hmem | hmem
    · exact (h.failed_le tid' t tripped hmem).trans hle
    · obtain ⟨-, heq⟩ := Prod.mk.inj (List.mem_singleton.1 hmem)
      exact (hread t (Or.inr ⟨tripped, heq.symm⟩)).trans_le hle
  shut tid' t hmem := by
    rcases List.mem_append.1 hmem with hmem | hmem
    · exact (hearlier tid' t hmem).1
    · exact hnew t (Prod.mk.inj (List.mem_singleton.1 hmem)).2.symm
  staysOpen tid₁ t tid₂ now passed hfailed hasked hlt hwithin := by
    rcases List.mem_append.1 hfailed with hfailed | hfailed
    · rcases List.mem_append.1 hasked with hasked | hasked
      · exact h.staysOpen tid₁ t tid₂ now passed hfailed hasked hlt hwithin
      · have heq := (Prod.mk.inj (List.mem_singleton.1 hasked)).2
        exact (hearlier tid₁ t hfailed).2 now passed heq.symm hwithin
    · -- no call has asked after a failure that is reported only now
      have heq := (Prod.mk.inj (List.mem_singleton.1 hfailed)).2
      have ht : t = w.state.clock.now := hread t (Or.inr ⟨true, heq.symm⟩)
      rcases List.mem_append.1 hasked with hasked | hasked
      · have hnow := h.asked_le tid₂ now passed hasked
        exact absurd hlt (not_lt.2 (ht ▸ hnow))
      · rw [← heq] at hasked
        cases List.mem_singleton.1 hasked

/-- A call asks the breaker. -/
lemma ask (h : Guarded recovery w) (tid : ℕ) :
    Guarded recovery (afterAsking tid w) := by
  have hle := now_le_tick w.state.clock
  have hcases := w.state.breaker.beforeCall_cases w.state.clock.now
  have hrec : (w.state.breaker.beforeCall w.state.clock.now).2.recoveryTimeoutSeconds =
      w.state.breaker.recoveryTimeoutSeconds := by
    rcases hcases with ⟨-, heq⟩ | ⟨openedAt, -, -, ⟨-, -, heq⟩ | ⟨-, heq⟩⟩
    · rw [heq]
    · rw [heq]
    · rw [heq]
      rfl
  refine h.concat tid hrec hle ?_ (fun t he => by cases he) fun tid' t hfailed => ?_
  · rintro now (⟨passed, he⟩ | ⟨tripped, he⟩)
    · exact (BreakerEvent.asked.inj he).1.symm
    · cases he
  -- the recovery time of the failure is over by now, or the call is refused and the breaker kept
  have hcase : t + recovery ≤ w.state.clock.now ∨
      (w.state.breaker.beforeCall w.state.clock.now).1.toBool = false ∧
        Shut recovery t
          ⟨(w.state.breaker.beforeCall w.state.clock.now).2, w.state.clock.tick⟩ := by
    rcases h.shut tid' t hfailed with ⟨hopen, o, ho, hto⟩ | hover
    · rcases hcases with ⟨hnot, -⟩ | ⟨o', -, ho', ⟨-, hrefused, hsame⟩ | ⟨hover, -⟩⟩
      · exact absurd hopen hnot
      · exact Or.inr ⟨hrefused, Or.inl ⟨by rw [hsame, hopen], o, by rw [hsame, ho], hto⟩⟩
      · obtain rfl := Option.some.inj (ho.symm.trans ho')
        rw [h.recovery_eq] at hover
        exact Or.inl (by linarith)
    · exact Or.inl hover
  rcases hcase with hover | ⟨hrefused, hshut⟩
  · refine ⟨Or.inr (hover.trans hle), fun now passed he hwithin => ?_⟩
    obtain ⟨rfl, -⟩ := BreakerEvent.asked.inj he
    exact absurd hwithin (not_lt.2 hover)
  · exact ⟨hshut, fun now passed he _ => (BreakerEvent.asked.inj he).2.symm.trans hrefused⟩

/-- A success is reported that does not close the breaker early. -/
lemma succeed (h : Guarded recovery w) (tid : ℕ)
    (hlate : ∀ openedAt, w.state.breaker.state = .opened →
      w.state.breaker.openedAt = some openedAt → openedAt + recovery ≤ w.state.clock.now) :
    Guarded recovery (afterSuccess tid w) := by
  refine h.concat tid rfl le_rfl ?_ (fun t he => by cases he) fun tid' t hfailed => ?_
  · rintro now (⟨passed, he⟩ | ⟨tripped, he⟩)
    · cases he
    · cases he
  refine ⟨Or.inr ?_, fun now passed he => by cases he⟩
  rcases h.shut tid' t hfailed with ⟨hopen, o, ho, hto⟩ | hover
  · have hend := hlate o hopen ho
    linarith
  · exact hover

/-- A failure is reported. -/
lemma fail (h : Guarded recovery w) (tid : ℕ) :
    Guarded recovery (afterFailure tid w) := by
  have hle := now_le_tick w.state.clock
  obtain ⟨-, hrec, hcases⟩ := w.state.breaker.recordFailure_cases w.state.clock.now
  refine h.concat tid hrec hle ?_ (fun t he => ?_) fun tid' t hfailed => ⟨?_, ?_⟩
  · rintro now (⟨passed, he⟩ | ⟨tripped, he⟩)
    · cases he
    · exact (BreakerEvent.failed.inj he).1.symm
  · -- this failure opens the breaker
    obtain ⟨rfl, htrips⟩ := BreakerEvent.failed.inj he
    rcases hcases with ⟨-, hopen, hopenedAt⟩ | ⟨hcounts, -, -, -⟩
    · exact Or.inl ⟨hopen, _, hopenedAt, le_rfl⟩
    · rw [hcounts] at htrips
      cases htrips
  · -- after an earlier failure the breaker opens again, later, or stays as it was
    rcases hcases with ⟨-, hopen, hopenedAt⟩ | ⟨-, hstate, hopenedAt, -⟩
    · exact Or.inl ⟨hopen, _, hopenedAt, h.failed_le tid' t true hfailed⟩
    · rcases h.shut tid' t hfailed with ⟨hopen, o, ho, hto⟩ | hover
      · exact Or.inl ⟨hstate.trans hopen, o, hopenedAt.trans ho, hto⟩
      · exact Or.inr (hover.trans hle)
  · exact fun now passed he => by cases he

end Guarded

/-! ### The recovery time -/

/-- One move. -/
lemma guarded_step {recovery : ℚ} {c : Pool (breakerCalls α) α} (m : CallMove α)
    (hearly : ¬ ClosesEarly c m) (hcalls : ∀ t ∈ c.tasks, IsCall t) (h : Guarded recovery c.world) :
    (∀ t ∈ (c.step m.toMove).tasks, IsCall t) ∧ Guarded recovery (c.step m.toMove).world := by
  obtain ⟨hcalls', heq | ⟨tid, heq⟩ | ⟨i, result, k, hm, hget, heq⟩ | ⟨tid, heq⟩⟩ :=
    step_cases m hcalls
  · exact ⟨hcalls', heq ▸ h⟩
  · exact ⟨hcalls', heq ▸ h.ask tid⟩
  · refine ⟨hcalls', heq ▸ h.succeed i fun openedAt hopen hopenedAt => ?_⟩
    by_contra hover
    refine hearly ⟨i, result, k, openedAt, hm, hget, hopen, hopenedAt, ?_⟩
    rw [h.recovery_eq]
    exact not_le.1 hover
  · exact ⟨hcalls', heq ▸ h.fail tid⟩

/-- Nothing has been recorded before a run. -/
lemma guarded_init (b : CircuitBreaker) (clock : MonotonicClock) :
    Guarded b.recoveryTimeoutSeconds (⟨⟨b, clock⟩, []⟩ : World (breakerCalls α)) where
  recovery_eq := rfl
  asked_le _ _ _ h := by cases h
  failed_le _ _ _ h := by cases h
  shut _ _ h := by cases h
  staysOpen _ _ _ _ _ h := by cases h

/-- A run of moves that do not close the breaker early. -/
lemma guarded_run {b : CircuitBreaker} {clock : MonotonicClock} {ms : List (CallMove α)}
    (h : ∀ pre m, pre ++ [m] <+: ms → ¬ ClosesEarly (runCalls ⟨b, clock⟩ pre) m)
    {pre : List (CallMove α)} (hpre : pre <+: ms) :
    (∀ t ∈ (runCalls ⟨b, clock⟩ pre).tasks, IsCall t) ∧
      Guarded b.recoveryTimeoutSeconds (runCalls ⟨b, clock⟩ pre).world := by
  induction pre using List.reverseRecOn with
  | nil =>
    refine ⟨?_, guarded_init b clock⟩
    intro t ht
    cases ht
  | append_singleton pre m ih =>
    obtain ⟨hcalls, hguarded⟩ := ih ((List.prefix_append pre [m]).trans hpre)
    have hconcat : runCalls ⟨b, clock⟩ (pre ++ [m]) =
        (runCalls ⟨b, clock⟩ pre).step m.toMove := by
      simp [runCalls, Pool.run]
    rw [hconcat]
    exact guarded_step m (h pre m hpre) hcalls hguarded

/-- In every run in which no success is reported while the breaker is open and its recovery time
is not over, a breaker that a failure has opened at `t` refuses every call that asks it between
`t` and the end of its recovery time. -/
theorem open_for_recovery (b : CircuitBreaker) (clock : MonotonicClock) (ms : List (CallMove α))
    (h : ∀ pre m, pre ++ [m] <+: ms → ¬ ClosesEarly (runCalls ⟨b, clock⟩ pre) m) :
    ∀ pre, pre <+: ms →
      StaysOpen b.recoveryTimeoutSeconds (runCalls ⟨b, clock⟩ pre).world.log := by
  intro pre hpre
  obtain ⟨-, hguarded⟩ := guarded_run h hpre
  exact hguarded.staysOpen

lemma thirty_pos : (0 : ℚ) < 30 := by
  norm_num

/-- A breaker that opens at its first failure, for thirty seconds. -/
def touchyBreaker : CircuitBreaker where
  failureThreshold := 1
  recoveryTimeoutSeconds := 30
  state := .closed
  failureCount := 0
  openedAt := none
  one_le_failureThreshold := le_rfl
  recoveryTimeoutSeconds_pos := thirty_pos
  openedAt_of_opened := openedAt_of_closed

/-- Two calls are admitted; the first fails and opens the breaker, then the second succeeds, and a
third call asks. -/
def lateSuccess : List (CallMove Unit) :=
  [.start, .start, .finish 0 (.error { cls := .runtimeError }), .finish 1 (.ok ()), .start]

/-- A clock that shows one second more at each reading. -/
def secondsClock : MonotonicClock := ⟨⟨fun n => n, 0⟩, Nat.mono_cast⟩

/-- Two calls are admitted, both fail, and a third call asks. -/
def lateFailure : List (CallMove Unit) :=
  [.start, .start, .finish 0 (.error { cls := .runtimeError }),
   .finish 1 (.error { cls := .runtimeError }), .start]

/-- The recovery time of the run in which both calls fail. -/
theorem open_for_recovery_lateFailure :
    StaysOpen touchyBreaker.recoveryTimeoutSeconds
      (runCalls ⟨touchyBreaker, secondsClock⟩ lateFailure).world.log := by
  refine open_for_recovery touchyBreaker secondsClock lateFailure ?_ _ (List.prefix_refl _)
  rintro pre m hpre ⟨i, result, k, openedAt, rfl, -⟩
  have hmem : CallMove.finish i (.ok result) ∈ lateFailure := hpre.subset (by simp)
  simp [lateFailure] at hmem

/-- After the late success the third call passes, one second after the breaker was opened. -/
theorem lateSuccess_reopens :
    ¬ ∀ (b : CircuitBreaker) (clock : MonotonicClock) (ms : List (CallMove Unit)),
      StaysOpen b.recoveryTimeoutSeconds (runCalls ⟨b, clock⟩ ms).world.log := by
  intro h
  have hstays := h touchyBreaker secondsClock lateSuccess
  have hfailed : (0, BreakerEvent.failed 2 true) ∈
      (runCalls ⟨touchyBreaker, secondsClock⟩ lateSuccess).world.log := by
    decide +kernel
  have hasked : (2, BreakerEvent.asked 3 true) ∈
      (runCalls ⟨touchyBreaker, secondsClock⟩ lateSuccess).world.log := by
    decide +kernel
  have hrefused := hstays 0 2 2 3 true hfailed hasked (by norm_num) (by
    change (3 : ℚ) < 2 + 30
    norm_num)
  cases hrefused

end ConstellationGate
