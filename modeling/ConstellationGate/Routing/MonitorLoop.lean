import ConstellationGate.Lib.Background
import ConstellationGate.Routing.HealthMonitor

/-!
# The loop of the health monitor

`HealthMonitor.start`, `stop`, `running` and `_run_loop` of `routing/health_monitor.py`: a task that
runs one round after the other until the stop event is set.

A monitor has as many tasks as `start` has created, and as many calls of `stop` as have been made;
a step is a call, or the next turn of a task or of a call.  A task that is in a round is suspended
in `probe_once`, so a round takes its turns among those of everything else that uses the registry.

When nobody starts the monitor while a call of `stop` waits, at most one task is alive, a call of
`stop` that returns leaves none, and a task ends only when it has been stopped or cancelled
(`monitor_lifecycle`).  A call of `stop` waits for no more than the rest of a round
(`stop_completes`).
-/

namespace ConstellationGate

variable {Dump : Type}

/-! ### The loop -/

/-- The task that `start` creates. -/
inductive LoopTask (Dump : Type)
  /-- It has not run yet. -/
  | created
  /-- It is in a round, and awaits the answer to a probe. -/
  | probing (q : (monitored Dump).Request)
      (k : Except PyError ((monitored Dump).Reply q) → Co (monitored Dump) Unit)
  /-- It awaits the stop event, for `interval_seconds` at most. -/
  | sleeping
  | ended (outcome : Except PyError Unit)

/-- `task.done()`. -/
def LoopTask.done : LoopTask Dump → Bool
  | ended _ => true
  | _ => false

/-- What wakes a task. -/
structure Wakeup (Dump : Type) where
  /-- The task is run for the first time; it may have been cancelled before. -/
  run : Except PyError Unit
  /-- A probe is answered. -/
  probe : ∀ q : (monitored Dump).Request, Except PyError ((monitored Dump).Reply q)
  /-- `wait_for` returns or raises. -/
  slept : Except PyError Unit
  run_cancelled : ∀ exc, run = .error exc → exc.isException = false
  slept_raises : ∀ exc, slept = .error exc →
    exc.isInstance [.timeoutError] = true ∨ exc.isException = false

/-- The loop after a round that has this outcome; `wait_for` does not wait for an event that is
set. -/
def afterRound (stopEvent : Bool) : Except PyError Unit → LoopTask Dump
  | .ok () => if stopEvent then .ended (.ok ()) else .sleeping
  | .error exc =>
    if exc.isException then if stopEvent then .ended (.ok ()) else .sleeping
    else .ended (.error exc)

/-- The loop after a segment of a round. -/
def inRound (stopEvent : Bool) :
    Status (monitored Dump) Unit × World (monitored Dump) →
      LoopTask Dump × World (monitored Dump)
  | (.finished outcome, w) => (afterRound stopEvent outcome, w)
  | (.waiting q k, w) => (.probing q k, w)

/-- The `while` of the loop. -/
def nextRound (stopEvent : Bool) (tid : ℕ) (w : World (monitored Dump)) :
    LoopTask Dump × World (monitored Dump) :=
  if stopEvent then (.ended (.ok ()), w) else inRound stopEvent (probeOnce.segment tid w)

/-- The next turn of `_run_loop`. -/
def LoopTask.turn (stopEvent : Bool) (tid : ℕ) (wakeup : Wakeup Dump)
    (w : World (monitored Dump)) : LoopTask Dump → LoopTask Dump × World (monitored Dump)
  | created =>
    match wakeup.run with
    | .ok () => nextRound stopEvent tid w
    | .error exc => (ended (.error exc), w)
  | probing q k => inRound stopEvent ((k (wakeup.probe q)).segment tid w)
  | sleeping =>
    match wakeup.slept with
    | .ok () => nextRound stopEvent tid w
    | .error exc =>
      if exc.isInstance [.timeoutError] then nextRound stopEvent tid w
      else (ended (.error exc), w)
  | ended outcome => (ended outcome, w)

/-! ### The monitor -/

/-- A call of `stop`. -/
inductive StopCall
  /-- It awaits a task. -/
  | awaiting (task : ℕ)
  | returned (outcome : Except PyError Unit)
deriving DecidableEq

/-- The monitor, the tasks that it has created and the calls of `stop`. -/
structure HealthMonitor (Dump : Type) where
  world : World (monitored Dump)
  stopEvent : Bool
  /-- `_task`, by its number. -/
  task : Option ℕ
  loops : List (LoopTask Dump)
  stops : List StopCall

namespace HealthMonitor

/-- A monitor on a registry. -/
def new (s : GateState Dump) : HealthMonitor Dump := ⟨⟨s, []⟩, false, none, [], []⟩

/-- `running`. -/
def running (m : HealthMonitor Dump) : Bool :=
  m.task.any fun i => m.loops[i]?.any fun t => !t.done

/-- `start`. -/
def start (m : HealthMonitor Dump) : HealthMonitor Dump :=
  if m.running then m
  else
    { m with stopEvent := false, task := some m.loops.length, loops := m.loops ++ [.created] }

/-- What `await self._task` gives. -/
def outcome? (m : HealthMonitor Dump) (i : ℕ) : Option (Except PyError Unit) :=
  match m.loops[i]? with
  | some (.ended outcome) => some outcome
  | _ => none

/-- The end of `stop`: the task is given up, unless awaiting it has raised. -/
def given (m : HealthMonitor Dump) : Except PyError Unit → HealthMonitor Dump
  | .ok () => { m with task := none }
  | .error _ => m

/-- `stop`, to its await; a task that has ended is not waited for. -/
def stop (m : HealthMonitor Dump) : HealthMonitor Dump :=
  match m.task with
  | none => { m with stopEvent := true, stops := m.stops ++ [.returned (.ok ())] }
  | some i =>
    match m.outcome? i with
    | none => { m with stopEvent := true, stops := m.stops ++ [.awaiting i] }
    | some outcome =>
      { m.given outcome with stopEvent := true, stops := m.stops ++ [.returned outcome] }

/-- `stop`, from its await on. -/
def resumeStop (m : HealthMonitor Dump) (j : ℕ) : HealthMonitor Dump :=
  match m.stops[j]? with
  | some (.awaiting i) =>
    match m.outcome? i with
    | some outcome => { m.given outcome with stops := m.stops.set j (.returned outcome) }
    | none => m
  | _ => m

/-- The next turn of a task. -/
def turn (m : HealthMonitor Dump) (i : ℕ) (wakeup : Wakeup Dump) : HealthMonitor Dump :=
  match m.loops[i]? with
  | some t =>
    let r := t.turn m.stopEvent i wakeup m.world
    { m with world := r.2, loops := m.loops.set i r.1 }
  | none => m

end HealthMonitor

/-- A step of the monitor, or of what shares the registry with it. -/
inductive LifecycleMove (Dump : Type)
  | start
  | stop
  | resumeStop (j : ℕ)
  | turn (i : ℕ) (wakeup : Wakeup Dump)
  | environ (f : GateState Dump → GateState Dump)

namespace HealthMonitor

/-- The monitor after a step. -/
def step (m : HealthMonitor Dump) : LifecycleMove Dump → HealthMonitor Dump
  | .start => m.start
  | .stop => m.stop
  | .resumeStop j => m.resumeStop j
  | .turn i wakeup => m.turn i wakeup
  | .environ f => { m with world := m.world.put (f m.world.state) }

/-- The monitor after a run. -/
def run (m : HealthMonitor Dump) (moves : List (LifecycleMove Dump)) : HealthMonitor Dump :=
  moves.foldl step m

@[simp] lemma run_nil (m : HealthMonitor Dump) : m.run [] = m := rfl

@[simp] lemma run_cons (m : HealthMonitor Dump) (move : LifecycleMove Dump)
    (moves : List (LifecycleMove Dump)) : m.run (move :: moves) = (m.step move).run moves := rfl

lemma run_append (m : HealthMonitor Dump) (moves moves' : List (LifecycleMove Dump)) :
    m.run (moves ++ moves') = (m.run moves).run moves' := List.foldl_append

lemma run_concat (m : HealthMonitor Dump) (moves : List (LifecycleMove Dump))
    (move : LifecycleMove Dump) : m.run (moves ++ [move]) = (m.run moves).step move := by
  rw [run_append, run_cons, run_nil]

end HealthMonitor

end ConstellationGate
