import ConstellationGate.Routing.MonitorLoop
import ConstellationGate.Routing.RegistryRuns

/-!
# The lifecycle of the health monitor

The tasks of a monitor are a slot (`Lib/Background.lean`): `_task` names the one that is held.  A
start puts a new task into the slot when the one that it names has ended, and a call of `stop` that
returns empties it.  What could go wrong is a start between the end of a task and the return of a
call of `stop` that has waited for it: the call then gives up the new task, which is alive.
-/

namespace ConstellationGate

variable {Dump : Type}

/-! ### One turn of a task -/

/-- The task has not ended. -/
def LoopTask.Live (t : LoopTask Dump) : Prop := t.done = false

namespace LoopTask

variable {stopEvent : Bool} {tid : ℕ} {wakeup : Wakeup Dump} {w : World (monitored Dump)}
  {t : LoopTask Dump} {exc : PyError}

lemma eq_ended_of_not_live (h : ¬ t.Live) : ∃ outcome, t = .ended outcome := by
  cases t with
  | ended outcome => exact ⟨outcome, rfl⟩
  | _ => exact absurd rfl h

/-- A task that ends returns because it has been stopped, and raises because it has been
cancelled. -/
def EndsRightly (stopEvent : Bool) : LoopTask Dump → Prop
  | .ended (.ok ()) => stopEvent = true
  | .ended (.error exc) => exc.isException = false
  | _ => True

lemma endsRightly_afterRound (stopEvent : Bool) (outcome : Except PyError Unit) :
    (afterRound stopEvent outcome : LoopTask Dump).EndsRightly stopEvent := by
  rcases outcome with exc | ⟨⟩
  · rw [afterRound]
    split
    · cases stopEvent
      · trivial
      · rfl
    · rename_i hexc
      exact Bool.eq_false_iff.2 hexc
  · cases stopEvent
    · trivial
    · rfl

lemma endsRightly_inRound (stopEvent : Bool)
    (r : Status (monitored Dump) Unit × World (monitored Dump)) :
    (inRound stopEvent r).1.EndsRightly stopEvent := by
  rcases r with ⟨outcome | ⟨q, k⟩, w⟩
  · exact endsRightly_afterRound stopEvent outcome
  · trivial

lemma endsRightly_nextRound (stopEvent : Bool) (tid : ℕ) (w : World (monitored Dump)) :
    (nextRound stopEvent tid w).1.EndsRightly stopEvent := by
  rw [nextRound]
  split
  · assumption
  · exact endsRightly_inRound stopEvent _

/-- A turn ends a task rightly, or the task has ended before. -/
lemma turn_endsRightly (t : LoopTask Dump) (stopEvent : Bool) (tid : ℕ) (wakeup : Wakeup Dump)
    (w : World (monitored Dump)) :
    (t.turn stopEvent tid wakeup w).1.EndsRightly stopEvent ∨
      ∃ outcome, t = .ended outcome ∧ (t.turn stopEvent tid wakeup w).1 = t := by
  cases t with
  | created =>
    left
    rw [turn]
    rcases hrun : wakeup.run with exc | ⟨⟩
    · exact wakeup.run_cancelled exc hrun
    · exact endsRightly_nextRound stopEvent tid w
  | probing q k => exact .inl (endsRightly_inRound stopEvent _)
  | sleeping =>
    left
    rw [turn]
    rcases hslept : wakeup.slept with exc | ⟨⟩
    · simp only
      split
      · exact endsRightly_nextRound stopEvent tid w
      · rename_i htimeout
        exact (wakeup.slept_raises exc hslept).resolve_left htimeout
    · exact endsRightly_nextRound stopEvent tid w
  | ended outcome => exact .inr ⟨outcome, rfl, rfl⟩

lemma live_of_turn (h : (t.turn stopEvent tid wakeup w).1.Live) : t.Live := by
  by_contra hended
  obtain ⟨outcome, rfl⟩ := eq_ended_of_not_live hended
  exact hended h

end LoopTask

/-! ### The invariant -/

namespace HealthMonitor

variable {m : HealthMonitor Dump}

/-- The tasks of a monitor. -/
def slot (m : HealthMonitor Dump) : TaskSlot (LoopTask Dump) := ⟨m.task, m.loops⟩

/-- No task is alive. -/
def Quiet (m : HealthMonitor Dump) : Prop := m.slot.Quiet LoopTask.Live

lemma running_iff : m.running = true ↔ m.slot.Occupied LoopTask.Live := by
  rw [running, Option.any_eq_true]
  constructor
  · rintro ⟨i, hi, hany⟩
    obtain ⟨t, ht, hlive⟩ := (Option.any_eq_true _ _).1 hany
    exact ⟨i, t, hi, ht, by simpa [LoopTask.Live] using hlive⟩
  · rintro ⟨i, t, hi, ht, hlive⟩
    refine ⟨i, hi, (Option.any_eq_true _ _).2 ⟨t, ht, ?_⟩⟩
    rw [LoopTask.Live] at hlive
    rw [hlive]
    rfl

lemma outcome?_eq_some {i : ℕ} {outcome : Except PyError Unit} :
    m.outcome? i = some outcome ↔ m.loops[i]? = some (.ended outcome) := by
  rw [outcome?]
  constructor
  · intro h
    split at h
    · rename_i heq
      rw [heq, Option.some.inj h]
    · cases h
  · intro h
    rw [h]

/-- What `stop` does up to its await. -/
lemma stop_cases (m : HealthMonitor Dump) :
    (∃ outcome, (m.task = none ∨ ∃ i, m.task = some i ∧ m.outcome? i = some outcome) ∧
      m.stop = { m.given outcome with
        stopEvent := true, stops := m.stops ++ [.returned outcome] }) ∨
      ∃ i, m.task = some i ∧ m.outcome? i = none ∧
        m.stop = { m with stopEvent := true, stops := m.stops ++ [.awaiting i] } := by
  rcases htask : m.task with _ | i
  · refine .inl ⟨.ok (), .inl rfl, ?_⟩
    simp only [stop, htask, given]
  · rcases hended : m.outcome? i with _ | outcome
    · refine .inr ⟨i, rfl, hended, ?_⟩
      simp only [stop, htask, hended]
    · refine .inl ⟨outcome, .inr ⟨i, rfl, hended⟩, ?_⟩
      simp only [stop, htask, hended]

/-- What `stop` does from its await on. -/
lemma resumeStop_cases (m : HealthMonitor Dump) (j : ℕ) :
    (∃ i outcome, m.stops[j]? = some (.awaiting i) ∧ m.outcome? i = some outcome ∧
      m.resumeStop j = { m.given outcome with stops := m.stops.set j (.returned outcome) }) ∨
      m.resumeStop j = m := by
  rw [resumeStop]
  split
  swap
  · exact .inr rfl
  rename_i i hj
  rcases hended : m.outcome? i with _ | outcome
  · exact .inr rfl
  · exact .inl ⟨i, outcome, hj, hended, rfl⟩

@[simp] lemma stops_given (outcome : Except PyError Unit) : (m.given outcome).stops = m.stops := by
  rcases outcome with exc | ⟨⟩ <;> rfl

@[simp] lemma loops_given (outcome : Except PyError Unit) : (m.given outcome).loops = m.loops := by
  rcases outcome with exc | ⟨⟩ <;> rfl

@[simp] lemma stopEvent_given (outcome : Except PyError Unit) :
    (m.given outcome).stopEvent = m.stopEvent := by
  rcases outcome with exc | ⟨⟩ <;> rfl

/-- What a step does to the tasks. -/
lemma loops_step (m : HealthMonitor Dump) (move : LifecycleMove Dump) :
    ((m.step move).loops = m.loops ∨ move = .start ∧ (m.step move).loops = m.loops ++ [.created]) ∧
        (∀ i wakeup, move = .turn i wakeup → m.loops[i]? = none) ∨
      ∃ i wakeup t, move = .turn i wakeup ∧ m.loops[i]? = some t ∧
        (m.step move).loops = m.loops.set i (t.turn m.stopEvent i wakeup m.world).1 := by
  cases move with
  | start =>
    refine .inl ⟨?_, fun _ _ h => by cases h⟩
    rw [step, start]
    split
    · exact .inl rfl
    · exact .inr ⟨rfl, rfl⟩
  | stop =>
    refine .inl ⟨.inl ?_, fun _ _ h => by cases h⟩
    rw [step]
    rcases m.stop_cases with ⟨outcome, -, heq⟩ | ⟨i, -, -, heq⟩
    · rw [heq]
      exact loops_given outcome
    · rw [heq]
  | resumeStop j =>
    refine .inl ⟨.inl ?_, fun _ _ h => by cases h⟩
    rw [step]
    rcases m.resumeStop_cases j with ⟨i, outcome, -, -, heq⟩ | heq
    · rw [heq]
      exact loops_given outcome
    · rw [heq]
  | turn i wakeup =>
    rcases hget : m.loops[i]? with _ | t
    · refine .inl ⟨.inl ?_, fun i' wakeup' h => by cases h; exact hget⟩
      simp only [step, turn, hget]
    · refine .inr ⟨i, wakeup, t, rfl, hget, ?_⟩
      simp only [step, turn, hget]
  | environ f => exact .inl ⟨.inl rfl, fun _ _ h => by cases h⟩

/-- The slot owns its tasks, a call of `stop` that waits has set the event and waits for the task
that is held, and a task that was not cancelled has been stopped. -/
structure Sound (m : HealthMonitor Dump) : Prop where
  owned : m.slot.Owned LoopTask.Live
  task_lt : ∀ i, m.task = some i → i < m.loops.length
  pending : ∀ i, .awaiting i ∈ m.stops →
    i < m.loops.length ∧ m.stopEvent = true ∧ ∀ i', m.task = some i' → i' = i
  raised : ∀ (i : ℕ) (exc : PyError), m.loops[i]? = some (.ended (.error exc)) →
    exc.isException = false

lemma Sound.running_iff (h : m.Sound) : m.running = true ↔ ¬ m.Quiet :=
  HealthMonitor.running_iff.trans h.owned.occupied_iff

lemma sound_new (s : GateState Dump) : (new s).Sound := by
  constructor
  · intro i t hget
    cases hget
  · intro i hi
    cases hi
  · intro i hi
    cases hi
  · intro i exc hget
    cases hget

/-- A monitor is started when no call of `stop` waits. -/
lemma Sound.start (h : m.Sound) (hapart : m.running = true ∨ ∀ i, .awaiting i ∉ m.stops) :
    m.start.Sound := by
  rw [HealthMonitor.start]
  split
  · exact h
  rename_i hrunning
  have hquiet : m.Quiet := by
    by_contra hquiet
    exact hrunning (h.running_iff.2 hquiet)
  have hnone := hapart.resolve_left hrunning
  constructor
  · exact hquiet.owned_start LoopTask.created
  · intro i hi
    obtain rfl := Option.some.inj hi
    simp
  · intro i hi
    exact absurd hi (hnone i)
  · intro i exc hget
    rcases List.mem_append.1 (List.mem_of_getElem? hget) with hmem | hmem
    · obtain ⟨j, hj⟩ := List.mem_iff_getElem?.1 hmem
      exact h.raised j exc hj
    · cases List.mem_singleton.1 hmem

/-- The task that is held has ended. -/
lemma Sound.quiet (h : m.Sound) {i : ℕ} {outcome : Except PyError Unit}
    (hended : m.outcome? i = some outcome) (htask : ∀ i', m.task = some i' → i' = i) :
    m.Quiet := by
  refine h.owned.quiet fun i' t hi' hget hlive => ?_
  obtain rfl := htask i' hi'
  rw [slot, outcome?_eq_some.1 hended] at hget
  obtain rfl := Option.some.inj hget
  cases hlive

/-- A call of `stop` that has waited for the task that is held returns. -/
lemma Sound.given (h : m.Sound) {i : ℕ} {outcome : Except PyError Unit}
    (hended : m.outcome? i = some outcome) (htask : ∀ i', m.task = some i' → i' = i) :
    (m.given outcome).Sound := by
  rcases outcome with exc | ⟨⟩
  · exact h
  · constructor
    · have hquiet : TaskSlot.Quiet LoopTask.Live ⟨none, m.loops⟩ := h.quiet hended htask
      exact hquiet.owned
    · intro i' hi'
      cases hi'
    · intro i' hi'
      exact ⟨(h.pending i' hi').1, (h.pending i' hi').2.1, fun _ hnone => by cases hnone⟩
    · exact h.raised

lemma Sound.given_of_none (h : m.Sound) (htask : m.task = none) (outcome : Except PyError Unit) :
    (m.given outcome).Sound := by
  rcases outcome with exc | ⟨⟩
  · exact h
  · have heq : m.given (.ok ()) = m := by
      rw [HealthMonitor.given, ← htask]
    rw [heq]
    exact h

/-- The same monitor with other calls of `stop`, of which those that wait have waited before. -/
lemma Sound.of_stops (h : m.Sound) {stops : List StopCall}
    (hstops : ∀ i, .awaiting i ∈ stops → .awaiting i ∈ m.stops) :
    ({ m with stops := stops } : HealthMonitor Dump).Sound :=
  ⟨h.owned, h.task_lt, fun i hi => h.pending i (hstops i hi), h.raised⟩

lemma Sound.signal (h : m.Sound) : ({ m with stopEvent := true } : HealthMonitor Dump).Sound :=
  ⟨h.owned, h.task_lt, fun i hi => ⟨(h.pending i hi).1, rfl, (h.pending i hi).2.2⟩, h.raised⟩

lemma Sound.stop (h : m.Sound) : m.stop.Sound := by
  rcases m.stop_cases with ⟨outcome, hheld, heq⟩ | ⟨i, htask, -, heq⟩
  · -- the call does not wait
    have hgiven : (m.given outcome).Sound := by
      rcases hheld with htask | ⟨i, htask, hended⟩
      · exact h.given_of_none htask outcome
      · exact h.given hended fun i' hi' => (Option.some.inj (htask.symm.trans hi')).symm
    rw [heq]
    refine hgiven.signal.of_stops fun i' hi' => ?_
    rw [stops_given]
    rcases List.mem_append.1 hi' with hi' | hi'
    · exact hi'
    · cases List.mem_singleton.1 hi'
  · rw [heq]
    refine ⟨h.owned, h.task_lt, fun i' hi' => ?_, h.raised⟩
    rcases List.mem_append.1 hi' with hi' | hi'
    · exact ⟨(h.pending i' hi').1, rfl, (h.pending i' hi').2.2⟩
    · obtain rfl : i' = i := by simpa using hi'
      refine ⟨h.task_lt i' htask, rfl, fun i'' hi'' => ?_⟩
      exact (Option.some.inj (htask.symm.trans hi'')).symm

lemma Sound.resumeStop (h : m.Sound) (j : ℕ) : (m.resumeStop j).Sound := by
  rcases m.resumeStop_cases j with ⟨i, outcome, hj, hended, heq⟩ | heq
  · rw [heq]
    have hgiven := h.given hended (h.pending i (List.mem_of_getElem? hj)).2.2
    refine hgiven.of_stops fun i' hi' => ?_
    rw [stops_given]
    rcases List.mem_or_eq_of_mem_set hi' with hi' | hi'
    · exact hi'
    · cases hi'
  · rw [heq]
    exact h

lemma Sound.turn (h : m.Sound) (i : ℕ) (wakeup : Wakeup Dump) : (m.turn i wakeup).Sound := by
  rw [HealthMonitor.turn]
  split
  swap
  · exact h
  rename_i t hget
  constructor
  · exact h.owned.set hget LoopTask.live_of_turn
  · intro i' hi'
    simpa using h.task_lt i' hi'
  · intro i' hi'
    simpa using h.pending i' hi'
  · intro i' exc hget'
    rcases List.mem_or_eq_of_mem_set (List.mem_of_getElem? hget') with hmem | heq
    · obtain ⟨j, hj⟩ := List.mem_iff_getElem?.1 hmem
      exact h.raised j exc hj
    · rcases t.turn_endsRightly m.stopEvent i wakeup m.world with hends | ⟨outcome, rfl, hsame⟩
      · rw [← heq] at hends
        exact hends
      · rw [hsame] at heq
        rw [← heq] at hget
        exact h.raised i exc hget

/-- A start is apart from the calls of `stop`. -/
def Apart (m : HealthMonitor Dump) : LifecycleMove Dump → Prop
  | .start => m.running = true ∨ ∀ i, .awaiting i ∉ m.stops
  | _ => True

lemma Sound.step (h : m.Sound) {move : LifecycleMove Dump} (hapart : m.Apart move) :
    (m.step move).Sound := by
  cases move with
  | start => exact h.start hapart
  | stop => exact h.stop
  | resumeStop j => exact h.resumeStop j
  | turn i wakeup => exact h.turn i wakeup
  | environ f => exact ⟨h.owned, h.task_lt, h.pending, h.raised⟩

/-- In a run, nobody starts the monitor while it is not running and a call of `stop` waits. -/
def StartsApart (m : HealthMonitor Dump) (moves : List (LifecycleMove Dump)) : Prop :=
  ∀ pre move, pre ++ [move] <+: moves → (m.run pre).Apart move

lemma StartsApart.of_append {moves moves' : List (LifecycleMove Dump)}
    (h : m.StartsApart (moves ++ moves')) : m.StartsApart moves :=
  fun pre move hpre => h pre move (hpre.trans (List.prefix_append moves moves'))

lemma Sound.run (h : m.Sound) {moves : List (LifecycleMove Dump)} (hapart : m.StartsApart moves) :
    (m.run moves).Sound := by
  induction moves using List.reverseRecOn with
  | nil => exact h
  | append_singleton moves move ih =>
    rw [run_concat]
    exact (ih hapart.of_append).step (hapart moves move List.prefix_rfl)

/-! ### Stopped tasks -/

/-- A call of `stop` returns or raises in this step. -/
def ReturnedBy (m : HealthMonitor Dump) (move : LifecycleMove Dump) (j : ℕ) : Prop :=
  ∃ outcome, m.stops[j]? ≠ some (.returned outcome) ∧
    (m.step move).stops[j]? = some (.returned outcome)

lemma stops_start : m.start.stops = m.stops := by
  rw [start]
  split <;> rfl

lemma stops_turn (i : ℕ) (wakeup : Wakeup Dump) : (m.turn i wakeup).stops = m.stops := by
  rw [turn]
  split <;> rfl

/-- A call of `stop` that has ended leaves no task alive. -/
lemma Sound.quiet_of_returned (h : m.Sound) (move : LifecycleMove Dump) {j : ℕ}
    (hreturned : m.ReturnedBy move j) : (m.step move).Quiet := by
  obtain ⟨outcome, hbefore, hafter⟩ := hreturned
  cases move with
  | start => exact absurd (stops_start (m := m) ▸ hafter) hbefore
  | turn i wakeup => exact absurd (stops_turn (m := m) i wakeup ▸ hafter) hbefore
  | environ f => exact absurd hafter hbefore
  | stop =>
    rcases m.stop_cases with ⟨outcome, hheld, heq⟩ | ⟨i, htask, -, heq⟩
    · have hquiet : m.Quiet := by
        rcases hheld with htask | ⟨i, htask, hended⟩
        · exact h.owned.quiet fun i t hi => by cases htask.symm.trans hi
        · exact h.quiet hended fun i' hi' => (Option.some.inj (htask.symm.trans hi')).symm
      rw [HealthMonitor.step, heq, Quiet, slot, TaskSlot.Quiet]
      rw [loops_given]
      exact hquiet
    · -- the call waits
      rw [HealthMonitor.step, heq] at hafter
      by_cases hlt : j < m.stops.length
      · rw [List.getElem?_append_left hlt] at hafter
        exact absurd hafter hbefore
      · rw [List.getElem?_append_right (not_lt.1 hlt)] at hafter
        cases List.mem_singleton.1 (List.mem_of_getElem? hafter)
  | resumeStop j' =>
    rcases m.resumeStop_cases j' with ⟨i, outcome, hj, hended, heq⟩ | heq
    · rw [HealthMonitor.step, heq, Quiet, slot, TaskSlot.Quiet, loops_given]
      exact h.quiet hended (h.pending i (List.mem_of_getElem? hj)).2.2
    · rw [HealthMonitor.step, heq] at hafter
      exact absurd hafter hbefore

/-- Without a start, no task is alive again. -/
lemma Quiet.step (h : m.Quiet) {move : LifecycleMove Dump} (hstart : move ≠ .start) :
    (m.step move).Quiet := by
  rw [Quiet, slot, TaskSlot.Quiet]
  rcases m.loops_step move with ⟨hsame | ⟨rfl, -⟩, -⟩ | ⟨i, wakeup, t, -, hget, hset⟩
  · rw [hsame]
    exact h
  · exact absurd rfl hstart
  · rw [hset]
    refine TaskSlot.Quiet.set h (fun hlive => ?_) i m.task
    exact h t (List.mem_of_getElem? hget) (LoopTask.live_of_turn hlive)

lemma Quiet.run (h : m.Quiet) {moves : List (LifecycleMove Dump)}
    (hstart : .start ∉ moves) : (m.run moves).Quiet := by
  induction moves generalizing m with
  | nil => exact h
  | cons move moves ih =>
    rw [List.mem_cons, not_or] at hstart
    exact ih (h.step (Ne.symm hstart.1)) hstart.2

/-- A run has called `stop` since it has created a task. -/
def StoppedSince (m : HealthMonitor Dump) (moves : List (LifecycleMove Dump)) (i : ℕ) : Prop :=
  ∃ pre, pre ++ [.stop] <+: moves ∧ i < (m.run pre).loops.length

/-- The stop event is set by a call of `stop` since the last start, and a task that returns has been
stopped. -/
structure Signalled (m : HealthMonitor Dump) (moves : List (LifecycleMove Dump)) : Prop where
  event : (m.run moves).stopEvent = true →
    ∃ pre, pre ++ [.stop] <+: moves ∧ (m.run pre).loops.length = (m.run moves).loops.length
  returned : ∀ i : ℕ, (m.run moves).loops[i]? = some (.ended (.ok ())) → StoppedSince m moves i

lemma StoppedSince.concat {moves : List (LifecycleMove Dump)} {i : ℕ}
    (h : StoppedSince m moves i) (move : LifecycleMove Dump) :
    StoppedSince m (moves ++ [move]) i := by
  obtain ⟨pre, hpre, hlt⟩ := h
  exact ⟨pre, hpre.trans (List.prefix_append _ _), hlt⟩

/-- A step that sets no event and ends no task. -/
lemma Signalled.of_same {moves : List (LifecycleMove Dump)} (h : m.Signalled moves)
    {move : LifecycleMove Dump}
    (hevent : ((m.run moves).step move).stopEvent = (m.run moves).stopEvent)
    (hloops : ((m.run moves).step move).loops = (m.run moves).loops) :
    m.Signalled (moves ++ [move]) := by
  constructor
  · intro hset
    rw [run_concat, hevent] at hset
    obtain ⟨pre, hpre, hlength⟩ := h.event hset
    rw [run_concat, hloops]
    exact ⟨pre, hpre.trans (List.prefix_append _ _), hlength⟩
  · intro i hget
    rw [run_concat, hloops] at hget
    exact (h.returned i hget).concat move

lemma Signalled.stop {moves : List (LifecycleMove Dump)} (h : m.Signalled moves) :
    m.Signalled (moves ++ [.stop]) := by
  have hloops : ((m.run moves).step .stop).loops = (m.run moves).loops := by
    rw [HealthMonitor.step]
    rcases (m.run moves).stop_cases with ⟨outcome, -, heq⟩ | ⟨i, -, -, heq⟩
    · rw [heq]
      exact loops_given outcome
    · rw [heq]
  constructor
  · intro _
    rw [run_concat, hloops]
    exact ⟨moves, List.prefix_rfl, rfl⟩
  · intro i hget
    rw [run_concat, hloops] at hget
    exact (h.returned i hget).concat .stop

lemma Signalled.start {moves : List (LifecycleMove Dump)} (h : m.Signalled moves) :
    m.Signalled (moves ++ [.start]) := by
  by_cases hrunning : (m.run moves).running = true
  · have heq : (m.run moves).step .start = m.run moves := by
      rw [HealthMonitor.step, HealthMonitor.start, if_pos hrunning]
    exact h.of_same (by rw [heq]) (by rw [heq])
  have heq : (m.run moves).step .start = { m.run moves with
      stopEvent := false, task := some (m.run moves).loops.length,
      loops := (m.run moves).loops ++ [.created] } := by
    rw [HealthMonitor.step, HealthMonitor.start, if_neg hrunning]
  constructor
  · intro hset
    rw [run_concat, heq] at hset
    cases hset
  · intro i hget
    rw [run_concat, heq] at hget
    by_cases hlt : i < (m.run moves).loops.length
    · rw [List.getElem?_append_left hlt] at hget
      exact (h.returned i hget).concat .start
    · rw [List.getElem?_append_right (not_lt.1 hlt)] at hget
      cases List.mem_singleton.1 (List.mem_of_getElem? hget)

lemma Signalled.turn {moves : List (LifecycleMove Dump)} (h : m.Signalled moves) (i : ℕ)
    (wakeup : Wakeup Dump) : m.Signalled (moves ++ [.turn i wakeup]) := by
  rcases hget : (m.run moves).loops[i]? with _ | t
  · have heq : (m.run moves).step (.turn i wakeup) = m.run moves := by
      simp only [HealthMonitor.step, HealthMonitor.turn, hget]
    exact h.of_same (by rw [heq]) (by rw [heq])
  have heq : (m.run moves).step (.turn i wakeup) = { m.run moves with
      world := (t.turn (m.run moves).stopEvent i wakeup (m.run moves).world).2,
      loops := (m.run moves).loops.set i
        (t.turn (m.run moves).stopEvent i wakeup (m.run moves).world).1 } := by
    simp only [HealthMonitor.step, HealthMonitor.turn, hget]
  constructor
  · intro hset
    rw [run_concat, heq] at hset
    obtain ⟨pre, hpre, hlength⟩ := h.event hset
    rw [run_concat, heq]
    refine ⟨pre, hpre.trans (List.prefix_append _ _), ?_⟩
    rw [hlength, List.length_set]
  · intro j hget'
    rw [run_concat, heq] at hget'
    by_cases hij : i = j
    · subst hij
      have hlt := (List.getElem?_eq_some_iff.1 hget).1
      rw [List.getElem?_set_self hlt] at hget'
      have hended := Option.some.inj hget'
      rcases t.turn_endsRightly (m.run moves).stopEvent i wakeup (m.run moves).world with
        hends | ⟨outcome, rfl, hsame⟩
      · -- the event is set when the task returns
        rw [hended] at hends
        obtain ⟨pre, hpre, hlength⟩ := h.event hends
        refine ⟨pre, hpre.trans (List.prefix_append _ _), ?_⟩
        omega
      · rw [hsame] at hended
        rw [hended] at hget
        exact (h.returned i hget).concat _
    · rw [List.getElem?_set_ne hij] at hget'
      exact (h.returned j hget').concat _

lemma signalled_run (s : GateState Dump) (moves : List (LifecycleMove Dump)) :
    (new s).Signalled moves := by
  induction moves using List.reverseRecOn with
  | nil =>
    constructor
    · intro hset
      cases hset
    · intro i hget
      cases hget
  | append_singleton moves move ih =>
    cases move with
    | start => exact ih.start
    | stop => exact ih.stop
    | resumeStop j =>
      rcases ((new s).run moves).resumeStop_cases j with ⟨i, outcome, -, -, heq⟩ | heq
      · refine ih.of_same ?_ ?_
        · rw [HealthMonitor.step, heq]
          exact stopEvent_given outcome
        · rw [HealthMonitor.step, heq]
          exact loops_given outcome
      · exact ih.of_same (by rw [HealthMonitor.step, heq]) (by rw [HealthMonitor.step, heq])
    | turn i wakeup => exact ih.turn i wakeup
    | environ f => exact ih.of_same rfl rfl

/-- When nobody starts the monitor while it is not running and a call of `stop` still waits, then
over every interleaving of starts, stops and turns: at most one loop is alive, and `running` says
whether one is; a loop ends only when `stop` has been called since it was created, or by an
exception that is no `Exception`, such as a cancellation; and after a call of `stop` has returned or
raised no loop is alive until the next start. -/
theorem monitor_lifecycle {s : GateState Dump} {moves : List (LifecycleMove Dump)}
    (h : (new s).StartsApart moves) :
    (∀ (i j : ℕ) t t', ((new s).run moves).loops[i]? = some t → t.Live →
      ((new s).run moves).loops[j]? = some t' → t'.Live → i = j) ∧
    (((new s).run moves).running = true ↔ ∃ t ∈ ((new s).run moves).loops, t.Live) ∧
    (∀ (i : ℕ) outcome, ((new s).run moves).loops[i]? = some (.ended outcome) →
      outcome = .ok () ∧ StoppedSince (new s) moves i ∨
      ∃ exc, outcome = .error exc ∧ exc.isException = false) ∧
    ∀ pre move suf j, moves = pre ++ move :: suf → ((new s).run pre).ReturnedBy move j →
      .start ∉ suf → ∀ t ∈ ((new s).run moves).loops, ¬ t.Live := by
  have hsound := (sound_new s).run h
  refine ⟨fun i j t t' hi hlive hj hlive' => hsound.owned.unique hi hlive hj hlive', ?_, ?_, ?_⟩
  · rw [hsound.running_iff, Quiet, TaskSlot.Quiet]
    push Not
    rfl
  · intro i outcome hget
    rcases outcome with exc | ⟨⟩
    · exact .inr ⟨exc, rfl, hsound.raised i exc hget⟩
    · exact .inl ⟨rfl, (signalled_run s moves).returned i hget⟩
  · rintro pre move suf j rfl hreturned hstart
    have hpre : ((new s).run pre).Sound := (sound_new s).run h.of_append
    have hquiet := (hpre.quiet_of_returned move hreturned).run hstart
    rw [run_append, run_cons]
    exact hquiet

end HealthMonitor

/-- Every probe finds its node healthy. -/
def allHealthy : Wakeup TransportPacket where
  run := .ok ()
  probe
    | .inl _ => .error .cancelled
    | .inr _ => (.ok 200 : Except PyError ℕ)
  slept := .error { cls := .timeoutError }
  run_cancelled _ h := by cases h
  slept_raises exc h := by
    cases h
    exact .inl (by decide)

/-- A monitor of one worker is stopped in the middle of its second round. -/
def stoppedInRound : List (LifecycleMove TransportPacket) :=
  [.start, .turn 0 allHealthy, .turn 0 allHealthy, .turn 0 allHealthy, .stop, .turn 0 allHealthy,
    .resumeStop 0]

lemma stoppedInRound_apart (s : GateState TransportPacket) :
    (HealthMonitor.new s).StartsApart stoppedInRound := by
  intro pre move hpre
  cases move with
  | start =>
    right
    -- the start is the first move
    have hnil : pre = [] := by
      by_contra hne
      obtain ⟨first, rest, rfl⟩ := List.exists_cons_of_ne_nil hne
      rw [stoppedInRound, List.cons_append, List.cons_prefix_cons] at hpre
      have hmem := hpre.2.subset (List.mem_append_right rest List.mem_cons_self)
      simp at hmem
    subst hnil
    intro i hi
    cases hi
  | _ => trivial

/-- A process with one worker. -/
def watchedState : GateState TransportPacket :=
  .fresh (NodeRegistry.oneWorker "worker" "score") none (.stopped 0) ⟨fun _ => 0, 0⟩

/-- The loop ends its second round, because it has been stopped, and the monitor is not running. -/
theorem monitor_lifecycle_stoppedInRound :
    HealthMonitor.StoppedSince (.new watchedState) stoppedInRound 0 ∧
      ((HealthMonitor.new watchedState).run stoppedInRound).running = false := by
  obtain ⟨-, hrunning, hends, hquiet⟩ :=
    HealthMonitor.monitor_lifecycle (stoppedInRound_apart watchedState)
  constructor
  · have houtcome : ((HealthMonitor.new watchedState).run stoppedInRound).outcome? 0 =
        some (.ok ()) := by
      decide +kernel
    rcases hends 0 _ (HealthMonitor.outcome?_eq_some.1 houtcome) with ⟨-, hsince⟩ | ⟨exc, hexc, -⟩
    · exact hsince
    · cases hexc
  · have hdead := hquiet (stoppedInRound.take 6) (.resumeStop 0) [] 0 rfl
      ⟨.ok (), by decide +kernel, by decide +kernel⟩ (by simp)
    rw [Bool.eq_false_iff, ne_eq, hrunning]
    rintro ⟨t, hmem, hlive⟩
    exact hdead t hmem hlive

/-- The monitor is started between the end of its loop and the return of the call of `stop` that has
waited for it, and once more. -/
def startedTwice : List (LifecycleMove TransportPacket) :=
  [.start, .stop, .turn 0 allHealthy, .start, .resumeStop 0, .start]

-- The second loop is given up by the call of `stop`, and goes on next to the third one.
example : ((HealthMonitor.new watchedState).run startedTwice).loops.map LoopTask.done =
    [true, false, false] := by decide +kernel

/-! ### How long `stop` waits -/

/-- The task ends within `n` turns when the stop event is set. -/
def LoopTask.EndsWithin : ℕ → LoopTask Dump → Prop
  | _, .ended _ => True
  | n, .probing _ k => 0 < n ∧ ∀ r, (k r).Bounded (n - 1)
  | n, _ => 0 < n

namespace LoopTask

variable {tid n n' : ℕ} {wakeup : Wakeup Dump} {w : World (monitored Dump)} {t : LoopTask Dump}

lemma EndsWithin.mono (h : t.EndsWithin n) (hle : n ≤ n') : t.EndsWithin n' := by
  cases t with
  | ended outcome => trivial
  | probing q k => exact ⟨lt_of_lt_of_le h.1 hle, fun r => (h.2 r).mono (by omega)⟩
  | created => exact lt_of_lt_of_le h hle
  | sleeping => exact lt_of_lt_of_le h hle

lemma EndsWithin.ended (h : t.EndsWithin 0) : ∃ outcome, t = .ended outcome := by
  cases t with
  | ended outcome => exact ⟨outcome, rfl⟩
  | probing q k => exact absurd h.1 (lt_irrefl 0)
  | created => exact absurd h (lt_irrefl 0)
  | sleeping => exact absurd h (lt_irrefl 0)

lemma endsWithin_afterRound (stopEvent : Bool) (outcome : Except PyError Unit) :
    (afterRound stopEvent outcome : LoopTask Dump).EndsWithin 1 := by
  have hcaught : (if stopEvent then LoopTask.ended (.ok ()) else .sleeping :
      LoopTask Dump).EndsWithin 1 := by
    split
    · trivial
    · exact Nat.one_pos
  rcases outcome with exc | ⟨⟩
  · rw [afterRound]
    split
    · exact hcaught
    · trivial
  · exact hcaught

lemma ended_afterRound (outcome : Except PyError Unit) (n : ℕ) :
    (afterRound true outcome : LoopTask Dump).EndsWithin n := by
  rcases outcome with exc | ⟨⟩
  · rw [afterRound]
    split
    · trivial
    · trivial
  · trivial

/-- A bounded round. -/
lemma endsWithin_inRound {p : Co (monitored Dump) Unit} (h : p.Bounded n) (stopEvent : Bool)
    (tid : ℕ) (w : World (monitored Dump)) :
    (inRound stopEvent (p.segment tid w)).1.EndsWithin (max n 1) := by
  rcases hseg : p.segment tid w with ⟨outcome | ⟨q, k⟩, w'⟩
  · exact (endsWithin_afterRound stopEvent outcome).mono (le_max_right n 1)
  · have hk := Co.segment_bounded h tid w hseg
    exact EndsWithin.mono (t := .probing q k) hk (le_max_left n 1)

/-- A bounded round, when the event is set. -/
lemma endsWithin_inRound_true {p : Co (monitored Dump) Unit} (h : p.Bounded n) (tid : ℕ)
    (w : World (monitored Dump)) : (inRound true (p.segment tid w)).1.EndsWithin n := by
  rcases hseg : p.segment tid w with ⟨outcome | ⟨q, k⟩, w'⟩
  · exact ended_afterRound outcome n
  · exact Co.segment_bounded h tid w hseg

lemma bounded_probeNode (nodeName : String) (registration : NodeRegistration) :
    (probeNode nodeName registration : Co (monitored Dump) Bool).Bounded 1 :=
  ⟨Nat.one_pos, fun _ => trivial⟩

/-- A round asks each node once. -/
lemma bounded_probeNodes (entries : List (String × NodeRegistration)) :
    (probeNodes entries : Co (monitored Dump) Unit).Bounded entries.length := by
  induction entries with
  | nil => trivial
  | cons entry rest ih =>
    obtain ⟨nodeName, registration⟩ := entry
    have hcall : ∀ (g : GateState Dump → Except PyError Unit × GateState Dump) (e : MonitorEvent),
        (Co.call (S := monitored Dump) g >>= fun _ =>
          Co.log (S := monitored Dump) (.inr e) >>= fun _ => probeNodes rest).Bounded
            rest.length := by
      intro g e
      have hg : (Co.call (S := monitored Dump) g).Bounded 0 := fun s => trivial
      have he : (Co.log (S := monitored Dump) (.inr e)).Bounded 0 := trivial
      exact (hg.bind fun _ => (he.bind fun _ => ih).mono (Nat.zero_add _).le).mono
        (Nat.zero_add _).le
    rw [probeNodes, List.length_cons, Nat.add_comm]
    refine (bounded_probeNode nodeName registration).bind fun healthy => ?_
    split
    · exact ih
    split
    · exact hcall _ _
    · exact hcall _ _

/-- The `while` of the loop. -/
lemma endsWithin_nextRound (stopEvent : Bool) (tid : ℕ) (w : World (monitored Dump)) :
    (nextRound stopEvent tid w).1.EndsWithin (max w.state.registry.nodes.entries.length 1) := by
  rw [nextRound]
  split
  · trivial
  · exact endsWithin_inRound (p := probeNodes w.state.registry.nodes.entries)
      (bounded_probeNodes _) stopEvent tid w

lemma endsWithin_nextRound_true (tid n : ℕ) (w : World (monitored Dump)) :
    (nextRound true tid w).1.EndsWithin n := trivial

/-- A turn keeps the bound, when a round has no more nodes than that. -/
lemma EndsWithin.turn (h : t.EndsWithin n) (hnodes : w.state.registry.nodes.entries.length ≤ n)
    (stopEvent : Bool) : (t.turn stopEvent tid wakeup w).1.EndsWithin n := by
  cases t with
  | ended outcome => trivial
  | probing q k =>
    have hpos := h.1
    exact (endsWithin_inRound (h.2 _) stopEvent tid w).mono (max_le (by omega) (by omega))
  | created =>
    rw [LoopTask.turn]
    rcases wakeup.run with exc | ⟨⟩
    · trivial
    · exact (endsWithin_nextRound stopEvent tid w).mono (max_le hnodes h)
  | sleeping =>
    rw [LoopTask.turn]
    rcases wakeup.slept with exc | ⟨⟩
    · simp only
      split
      · exact (endsWithin_nextRound stopEvent tid w).mono (max_le hnodes h)
      · trivial
    · exact (endsWithin_nextRound stopEvent tid w).mono (max_le hnodes h)

/-- When the event is set, a turn comes closer to the end. -/
lemma EndsWithin.turn_true (h : t.EndsWithin n) :
    (t.turn true tid wakeup w).1.EndsWithin (n - 1) := by
  cases t with
  | ended outcome => trivial
  | probing q k => exact endsWithin_inRound_true (h.2 _) tid w
  | created =>
    rw [LoopTask.turn]
    rcases wakeup.run with exc | ⟨⟩
    · trivial
    · exact endsWithin_nextRound_true tid _ w
  | sleeping =>
    rw [LoopTask.turn]
    rcases wakeup.slept with exc | ⟨⟩
    · simp only
      split
      · exact endsWithin_nextRound_true tid _ w
      · trivial
    · exact endsWithin_nextRound_true tid _ w

end LoopTask

namespace HealthMonitor

variable {m : HealthMonitor Dump} {i n : ℕ}

/-- No task is in a longer round. -/
def RoundsWithin (n : ℕ) (m : HealthMonitor Dump) : Prop := ∀ t ∈ m.loops, t.EndsWithin n

lemma RoundsWithin.step (h : m.RoundsWithin n) (hpos : 0 < n)
    (hnodes : m.world.state.registry.nodes.entries.length ≤ n) (move : LifecycleMove Dump) :
    (m.step move).RoundsWithin n := by
  intro t' ht'
  rcases m.loops_step move with ⟨hsame | ⟨-, hnew⟩, -⟩ | ⟨i, wakeup, t, -, hget, hset⟩
  · rw [hsame] at ht'
    exact h t' ht'
  · rw [hnew] at ht'
    rcases List.mem_append.1 ht' with ht' | ht'
    · exact h t' ht'
    · obtain rfl := List.mem_singleton.1 ht'
      exact hpos
  · rw [hset] at ht'
    rcases List.mem_or_eq_of_mem_set ht' with ht' | rfl
    · exact h t' ht'
    · exact (h t (List.mem_of_getElem? hget)).turn hnodes m.stopEvent

lemma RoundsWithin.run (h : m.RoundsWithin n) (hpos : 0 < n) {moves : List (LifecycleMove Dump)}
    (hnodes : ∀ pre, pre <+: moves →
      (m.run pre).world.state.registry.nodes.entries.length ≤ n) :
    (m.run moves).RoundsWithin n := by
  induction moves using List.reverseRecOn with
  | nil => exact h
  | append_singleton moves move ih =>
    rw [run_concat]
    refine (ih fun pre hpre => hnodes pre (hpre.trans (List.prefix_append _ _))).step hpos ?_ move
    exact hnodes moves (List.prefix_append _ _)

/-- A call of `stop` waits for the task, or the task has ended. -/
def Waits (i : ℕ) (m : HealthMonitor Dump) : Prop :=
  .awaiting i ∈ m.stops ∨ ∃ outcome, m.outcome? i = some outcome

/-- A task that has ended stays so. -/
lemma outcome?_step {outcome : Except PyError Unit} (h : m.outcome? i = some outcome)
    (move : LifecycleMove Dump) : (m.step move).outcome? i = some outcome := by
  rw [outcome?_eq_some] at h ⊢
  have hlt := (List.getElem?_eq_some_iff.1 h).1
  rcases m.loops_step move with ⟨hsame | ⟨-, hnew⟩, -⟩ | ⟨i', wakeup, t, -, hget, hset⟩
  · rw [hsame]
    exact h
  · rw [hnew, List.getElem?_append_left hlt]
    exact h
  · rw [hset]
    by_cases hi : i' = i
    · subst hi
      obtain rfl := Option.some.inj (hget.symm.trans h)
      exact List.getElem?_set_self hlt
    · rw [List.getElem?_set_ne hi]
      exact h

lemma Waits.step (h : m.Waits i) (move : LifecycleMove Dump) : (m.step move).Waits i := by
  rcases h with hmem | ⟨outcome, hended⟩
  swap
  · exact .inr ⟨outcome, outcome?_step hended move⟩
  cases move with
  | start => exact .inl (stops_start (m := m) ▸ hmem)
  | turn i' wakeup => exact .inl (stops_turn (m := m) i' wakeup ▸ hmem)
  | environ f => exact .inl hmem
  | stop =>
    rw [HealthMonitor.step]
    rcases m.stop_cases with ⟨outcome, -, heq⟩ | ⟨i', -, -, heq⟩
    · rw [heq]
      exact .inl (List.mem_append_left _ hmem)
    · rw [heq]
      exact .inl (List.mem_append_left _ hmem)
  | resumeStop j =>
    rcases m.resumeStop_cases j with ⟨i', outcome, hj, hended, heq⟩ | heq
    swap
    · rw [HealthMonitor.step, heq]
      exact .inl hmem
    by_cases hi : i' = i
    · -- the task that the call has waited for has ended
      subst hi
      exact .inr ⟨outcome, outcome?_step hended (.resumeStop j)⟩
    · left
      rw [HealthMonitor.step, heq]
      obtain ⟨j', hj'⟩ := List.mem_iff_getElem?.1 hmem
      have hne : j ≠ j' := by
        rintro rfl
        exact hi (StopCall.awaiting.inj (Option.some.inj (hj.symm.trans hj')))
      exact List.mem_of_getElem? ((List.getElem?_set_ne hne).trans hj')

/-- The number of turns that a run gives to a task. -/
def turnsOf (i : ℕ) (moves : List (LifecycleMove Dump)) : ℕ :=
  moves.countP fun move =>
    match move with
    | .turn i' _ => i' = i
    | _ => false

lemma turnsOf_concat (suf : List (LifecycleMove Dump)) (i' : ℕ) (wakeup : Wakeup Dump) :
    turnsOf i (suf ++ [.turn i' wakeup]) = turnsOf i suf + if i' = i then 1 else 0 := by
  rw [turnsOf, List.countP_append, ← turnsOf]
  by_cases hi : i' = i
  · simp [hi]
  · simp [hi]

lemma turnsOf_concat_of_ne (suf : List (LifecycleMove Dump)) {move : LifecycleMove Dump}
    (hmove : ∀ wakeup, move ≠ .turn i wakeup) : turnsOf i (suf ++ [move]) = turnsOf i suf := by
  cases move with
  | turn i' wakeup =>
    rw [turnsOf_concat, if_neg fun hi => hmove wakeup (by rw [hi]), Nat.add_zero]
  | _ =>
    rw [turnsOf, List.countP_append, ← turnsOf]
    rfl

/-- The task comes closer to its end with each turn, while a call of `stop` waits for it. -/
lemma Sound.endsWithin_run (h : m.Sound) {suf : List (LifecycleMove Dump)}
    (hapart : m.StartsApart suf) (hrounds : m.RoundsWithin n) (hwaits : .awaiting i ∈ m.stops) :
    (m.run suf).Waits i ∧
      ∃ t, (m.run suf).loops[i]? = some t ∧ t.EndsWithin (n - turnsOf i suf) := by
  induction suf using List.reverseRecOn with
  | nil =>
    have hget := List.getElem?_eq_getElem (h.pending i hwaits).1
    exact ⟨.inl hwaits, _, hget, hrounds _ (List.mem_of_getElem? hget)⟩
  | append_singleton suf move ih =>
    obtain ⟨hwaits', t, hget, hends⟩ := ih hapart.of_append
    have hlt := (List.getElem?_eq_some_iff.1 hget).1
    rw [run_concat]
    refine ⟨hwaits'.step move, ?_⟩
    rcases (m.run suf).loops_step move with ⟨hloops, hidle⟩ |
      ⟨i', wakeup, t', rfl, hget', hset⟩
    · -- the task has no turn
      rw [turnsOf_concat_of_ne suf fun wakeup hmove => by
        cases (hidle i wakeup hmove).symm.trans hget]
      refine ⟨t, ?_, hends⟩
      rcases hloops with hsame | ⟨-, hnew⟩
      · rw [hsame]
        exact hget
      · rw [hnew, List.getElem?_append_left hlt]
        exact hget
    · rw [turnsOf_concat, hset]
      by_cases hi : i' = i
      · subst hi
        obtain rfl := Option.some.inj (hget.symm.trans hget')
        rw [if_pos rfl, List.getElem?_set_self hlt, ← Nat.sub_sub]
        refine ⟨_, rfl, ?_⟩
        rcases hwaits' with hmem | ⟨outcome, hended⟩
        · -- the event is set while the call waits
          rw [((h.run hapart.of_append).pending i' hmem).2.1]
          exact hends.turn_true
        · obtain rfl := Option.some.inj (hget.symm.trans (outcome?_eq_some.1 hended))
          trivial
      · rw [if_neg hi, Nat.add_zero, List.getElem?_set_ne hi]
        exact ⟨t, hget, hends⟩

/-- A call of `stop` waits for no more than the rest of a round: in a run in which the registry
never has more than `n` nodes, once the loop that it waits for has had as many turns (or one, when
there are no nodes), the loop has ended, whatever the probes are answered and whatever else happens
in between, and the call returns with its outcome at its next turn. -/
theorem stop_completes {s : GateState Dump} {pre suf : List (LifecycleMove Dump)}
    (h : (new s).StartsApart (pre ++ suf))
    (hnodes : ∀ moves, moves <+: pre ++ suf →
      ((new s).run moves).world.state.registry.nodes.entries.length ≤ n)
    (hwaits : .awaiting i ∈ ((new s).run pre).stops) (hturns : max n 1 ≤ turnsOf i suf) :
    ∃ outcome, ((new s).run (pre ++ suf)).outcome? i = some outcome ∧
      ∀ j : ℕ, ((new s).run (pre ++ suf)).stops[j]? = some (.awaiting i) →
        (((new s).run (pre ++ suf)).resumeStop j).stops[j]? = some (.returned outcome) := by
  have hsound : ((new s).run pre).Sound := (sound_new s).run h.of_append
  have hrounds : ((new s).run pre).RoundsWithin (max n 1) := by
    have hnew : (new s).RoundsWithin (max n 1) := fun t ht => by cases ht
    refine hnew.run (by omega) fun moves hmoves => ?_
    exact (hnodes moves (hmoves.trans (List.prefix_append _ _))).trans (le_max_left n 1)
  have hapart : ((new s).run pre).StartsApart suf := by
    rintro moves move hmoves
    have hapart := h (pre ++ moves) move (by
      rw [List.append_assoc]
      exact (List.prefix_append_right_inj pre).2 hmoves)
    rwa [run_append] at hapart
  obtain ⟨-, t, hget, hends⟩ := hsound.endsWithin_run hapart hrounds hwaits
  rw [Nat.sub_eq_zero_of_le hturns] at hends
  obtain ⟨outcome, rfl⟩ := hends.ended
  rw [← run_append] at hget
  have hended := outcome?_eq_some.2 hget
  refine ⟨outcome, hended, fun j hj => ?_⟩
  have hlt := (List.getElem?_eq_some_iff.1 hj).1
  rw [resumeStop, hj]
  simp only [hended]
  exact List.getElem?_set_self hlt

end HealthMonitor

/-- The loop has had one turn since the call of `stop`, in a registry of one node. -/
theorem stop_completes_stoppedInRound :
    ∃ outcome, ((HealthMonitor.new watchedState).run (stoppedInRound.take 6)).outcome? 0 =
      some outcome := by
  have hnodes : (stoppedInRound.take 6).inits.all (fun moves => decide
      (((HealthMonitor.new watchedState).run moves).world.state.registry.nodes.entries.length ≤
        1)) = true := by
    decide +kernel
  have hapart : (HealthMonitor.new watchedState).StartsApart
      (stoppedInRound.take 5 ++ [.turn 0 allHealthy]) :=
    (stoppedInRound_apart watchedState).of_append
  obtain ⟨outcome, hended, -⟩ := HealthMonitor.stop_completes (n := 1) (i := 0) hapart
    (fun moves hmoves => of_decide_eq_true
      (List.all_eq_true.1 hnodes moves ((List.mem_inits _ _).2 hmoves)))
    (by decide +kernel) (by decide)
  exact ⟨outcome, hended⟩

end ConstellationGate
