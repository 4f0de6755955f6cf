import ConstellationGate.Routing.MonitorLifecycle

/-!
# The lifespan of the application

`lifespan` of `api/main.py` with the `AsyncHttpClientManager` of `runtime/http_client.py`: the
shared client is opened, the static registry is loaded and the health monitor is started before Gate
serves; in the end the monitor is stopped and the client is closed.

The loop of the monitor uses the client, and takes its turns while the lifespan serves and while it
waits for the monitor to stop.  No loop is ever alive without an open client, however the lifespan
ends (`lifespan_orderly`).
-/

namespace ConstellationGate

variable {Dump : Type}

/-! ### The client -/

/-- `httpx.AsyncClient`. -/
structure HttpClient where
  isClosed : Bool

/-- `AsyncHttpClientManager`. -/
structure AsyncHttpClientManager where
  client : Option HttpClient

namespace AsyncHttpClientManager

/-- `startup`. -/
def startup (manager : AsyncHttpClientManager) : AsyncHttpClientManager :=
  match manager.client with
  | some _ => manager
  | none => ⟨some ⟨false⟩⟩

/-- The client is open. -/
def Open (manager : AsyncHttpClientManager) : Prop :=
  ∃ client, manager.client = some client ∧ client.isClosed = false

end AsyncHttpClientManager

/-! ### The lifespan -/

/-- Where the lifespan is. -/
inductive LifespanPhase
  | created
  /-- At the `yield`. -/
  | serving
  /-- It awaits the call `j` of `monitor.stop`. -/
  | stopping (j : ℕ)
  /-- It awaits `aclose` in `http_client_manager.shutdown`. -/
  | closing
  | finished (outcome : Except PyError Unit)

/-- The lifespan with what it owns. -/
structure Lifespan (Dump : Type) where
  phase : LifespanPhase
  manager : AsyncHttpClientManager
  /-- `build_health_monitor` has returned a monitor. -/
  built : Bool
  /-- The monitor; when none is built, it stands for the process alone. -/
  monitor : HealthMonitor Dump

/-- A step of the lifespan, of the loop of its monitor, or of what Gate serves. -/
inductive LifespanMove (Dump : Type)
  /-- Up to the `yield`: what is read from `GATE_NODE_REGISTRY_PATH`, when it is set, and the
  configured probe interval. -/
  | enter (document : Option (Except PyError YamlDocument)) (interval : ℚ)
  /-- Gate is asked to shut down. -/
  | leave
  /-- `monitor.stop` goes on. -/
  | stopped
  /-- `aclose` returns or raises. -/
  | closed (outcome : Except PyError Unit)
  | turn (i : ℕ) (wakeup : Wakeup Dump)
  | environ (f : GateState Dump → GateState Dump)

/-- `load_static_registry`. -/
def loadStaticRegistry (document : Option (Except PyError YamlDocument)) (s : GateState Dump) :
    Except PyError Unit × GateState Dump :=
  match document with
  | none => (.ok (), s)
  | some (.error exc) => (.error exc, s)
  | some (.ok doc) =>
    let r := s.registry.loadFromYaml doc
    (r.1, { s with registry := r.2 })

namespace Lifespan

/-- A process that has just started. -/
def new (s : GateState Dump) : Lifespan Dump := ⟨.created, ⟨none⟩, false, .new s⟩

/-- `http_client_manager.shutdown`, to its await. -/
def shutdown (l : Lifespan Dump) : Lifespan Dump :=
  match l.manager.client with
  | none => { l with phase := .finished (.ok ()) }
  | some _ => { l with phase := .closing, manager := ⟨some ⟨true⟩⟩ }

/-- What follows `monitor.stop`. -/
def afterStop (l : Lifespan Dump) (j : ℕ) : Lifespan Dump :=
  match l.monitor.stops[j]? with
  | some (.returned (.ok ())) => l.shutdown
  | some (.returned (.error exc)) => { l with phase := .finished (.error exc) }
  | _ => { l with phase := .stopping j }

/-- The startup. -/
def enter (l : Lifespan Dump) (document : Option (Except PyError YamlDocument)) (interval : ℚ) :
    Lifespan Dump :=
  let loaded := loadStaticRegistry document l.monitor.world.state
  let l := { l with
    manager := l.manager.startup
    monitor := { l.monitor with world := l.monitor.world.put loaded.2 } }
  match loaded.1 with
  | .error exc => { l with phase := .finished (.error exc) }
  | .ok () =>
    if interval ≤ 0 then { l with phase := .serving }
    else { l with phase := .serving, built := true, monitor := l.monitor.start }

/-- The `finally` block, to its first await. -/
def leave (l : Lifespan Dump) : Lifespan Dump :=
  if l.built then { l with monitor := l.monitor.stop }.afterStop l.monitor.stops.length
  else l.shutdown

/-- `http_client_manager.shutdown`, from its await on. -/
def closed (l : Lifespan Dump) : Except PyError Unit → Lifespan Dump
  | .ok () => { l with phase := .finished (.ok ()), manager := ⟨none⟩ }
  | .error exc => { l with phase := .finished (.error exc) }

/-- The lifespan after a step; what it is not at does nothing. -/
def step (l : Lifespan Dump) : LifespanMove Dump → Lifespan Dump
  | .enter document interval =>
    match l.phase with
    | .created => l.enter document interval
    | _ => l
  | .leave =>
    match l.phase with
    | .serving => l.leave
    | _ => l
  | .stopped =>
    match l.phase with
    | .stopping j => { l with monitor := l.monitor.resumeStop j }.afterStop j
    | _ => l
  | .closed outcome =>
    match l.phase with
    | .closing => l.closed outcome
    | _ => l
  | .turn i wakeup => { l with monitor := l.monitor.turn i wakeup }
  | .environ f =>
    { l with monitor := { l.monitor with world := l.monitor.world.put (f l.monitor.world.state) } }

/-- The lifespan after a run. -/
def run (l : Lifespan Dump) (moves : List (LifespanMove Dump)) : Lifespan Dump :=
  moves.foldl step l

@[simp] lemma run_nil (l : Lifespan Dump) : l.run [] = l := rfl

@[simp] lemma run_cons (l : Lifespan Dump) (move : LifespanMove Dump)
    (moves : List (LifespanMove Dump)) : l.run (move :: moves) = (l.step move).run moves := rfl

/-! ### The invariant -/

variable {l : Lifespan Dump}

/-- What holds where the lifespan is. -/
def PhaseKept (l : Lifespan Dump) : LifespanPhase → Prop
  | .created => l.manager.client = none ∧ l.monitor.Quiet ∧ l.monitor.stops = []
  | .serving => l.manager.Open ∧ l.monitor.stops = [] ∧ (l.built = false → l.monitor.Quiet)
  | .stopping j => l.manager.Open ∧ ∃ i, l.monitor.stops[j]? = some (.awaiting i)
  | .closing => l.monitor.Quiet
  | .finished outcome => l.monitor.Quiet ∧ (outcome = .ok () → l.manager.client = none)

/-- The monitor is sound, and the client is open while its loop may be alive. -/
structure Orderly (l : Lifespan Dump) : Prop where
  monitor : l.monitor.Sound
  phase : l.PhaseKept l.phase

lemma orderly_new (s : GateState Dump) : (new s).Orderly := by
  refine ⟨HealthMonitor.sound_new s, rfl, ?_, rfl⟩
  intro t ht
  cases ht

lemma orderly_shutdown (hsound : l.monitor.Sound) (hquiet : l.monitor.Quiet) :
    l.shutdown.Orderly := by
  rw [shutdown]
  split
  · rename_i hnone
    exact ⟨hsound, hquiet, fun _ => hnone⟩
  · exact ⟨hsound, hquiet⟩

/-- `monitor.stop` has returned, has raised or waits. -/
lemma orderly_afterStop {j : ℕ} (hsound : l.monitor.Sound) (hopen : l.manager.Open)
    (hcall : (∃ i, l.monitor.stops[j]? = some (.awaiting i)) ∨
      ∃ outcome, l.monitor.stops[j]? = some (.returned outcome) ∧ l.monitor.Quiet) :
    (l.afterStop j).Orderly := by
  rcases hcall with ⟨i, hj⟩ | ⟨outcome, hj, hquiet⟩
  · rw [afterStop, hj]
    exact ⟨hsound, hopen, i, hj⟩
  · rcases outcome with exc | ⟨⟩
    · rw [afterStop, hj]
      exact ⟨hsound, hquiet, fun h => by cases h⟩
    · rw [afterStop, hj]
      exact orderly_shutdown hsound hquiet

lemma Orderly.enter (h : l.Orderly) (hphase : l.phase = .created)
    (document : Option (Except PyError YamlDocument)) (interval : ℚ) :
    (l.enter document interval).Orderly := by
  obtain ⟨hsound, hkept⟩ := h
  rw [hphase] at hkept
  obtain ⟨hnone, hquiet, hstops⟩ := hkept
  have hopen : l.manager.startup.Open := by
    rw [AsyncHttpClientManager.startup, hnone]
    exact ⟨⟨false⟩, rfl, rfl⟩
  have hput : ∀ w, ({ l.monitor with world := w } : HealthMonitor Dump).Sound := fun w =>
    ⟨hsound.owned, hsound.task_lt, hsound.pending, hsound.raised⟩
  rw [Lifespan.enter]
  simp only
  split
  · exact ⟨hput _, hquiet, fun h => by cases h⟩
  split
  · exact ⟨hput _, hopen, hstops, fun _ => hquiet⟩
  · refine ⟨(hput _).start (.inr fun i hi => ?_), hopen, ?_, fun h => by cases h⟩
    · rw [hstops] at hi
      cases hi
    · rw [HealthMonitor.stops_start]
      exact hstops

lemma Orderly.leave (h : l.Orderly) (hphase : l.phase = .serving) : l.leave.Orderly := by
  obtain ⟨hsound, hkept⟩ := h
  rw [hphase] at hkept
  obtain ⟨hopen, hstops, hquiet⟩ := hkept
  rw [Lifespan.leave]
  split
  swap
  · rename_i hbuilt
    exact orderly_shutdown hsound (hquiet (Bool.eq_false_iff.2 hbuilt))
  refine orderly_afterStop hsound.stop hopen ?_
  have hlast : ∀ call : StopCall, (l.monitor.stops ++ [call])[l.monitor.stops.length]? =
      some call := fun call => List.getElem?_concat_length
  rcases l.monitor.stop_cases with ⟨outcome, -, heq⟩ | ⟨i, -, -, heq⟩
  · have hj : l.monitor.stop.stops[l.monitor.stops.length]? = some (.returned outcome) := by
      rw [heq]
      exact hlast _
    refine .inr ⟨outcome, hj, hsound.quiet_of_returned .stop ⟨outcome, ?_, hj⟩⟩
    rw [List.getElem?_eq_none le_rfl]
    exact fun hnone => by cases hnone
  · refine .inl ⟨i, ?_⟩
    rw [heq]
    exact hlast _

lemma Orderly.stopped (h : l.Orderly) {j : ℕ} (hphase : l.phase = .stopping j) :
    ({ l with monitor := l.monitor.resumeStop j }.afterStop j).Orderly := by
  obtain ⟨hsound, hkept⟩ := h
  rw [hphase] at hkept
  obtain ⟨hopen, i, hj⟩ := hkept
  refine orderly_afterStop (hsound.resumeStop j) hopen ?_
  rcases l.monitor.resumeStop_cases j with ⟨i', outcome, hj', hended, heq⟩ | heq
  · have hreturned : (l.monitor.resumeStop j).stops[j]? = some (.returned outcome) := by
      rw [heq]
      exact List.getElem?_set_self (List.getElem?_eq_some_iff.1 hj).1
    refine .inr ⟨outcome, hreturned,
      hsound.quiet_of_returned (.resumeStop j) ⟨outcome, ?_, hreturned⟩⟩
    rw [hj]
    exact fun hawaits => by cases hawaits
  · refine .inl ⟨i, ?_⟩
    rw [heq]
    exact hj

/-- A turn of the loop does not bring it back to life. -/
lemma PhaseKept.turn {phase : LifespanPhase} (h : l.PhaseKept phase) (i : ℕ)
    (wakeup : Wakeup Dump) :
    ({ l with monitor := l.monitor.turn i wakeup } : Lifespan Dump).PhaseKept phase := by
  have hquiet : l.monitor.Quiet → (l.monitor.step (.turn i wakeup)).Quiet := fun hquiet =>
    hquiet.step fun h => by cases h
  have hstops := HealthMonitor.stops_turn (m := l.monitor) i wakeup
  cases phase with
  | created => exact ⟨h.1, hquiet h.2.1, hstops.trans h.2.2⟩
  | serving => exact ⟨h.1, hstops.trans h.2.1, fun hbuilt => hquiet (h.2.2 hbuilt)⟩
  | stopping j =>
    obtain ⟨hopen, i', hj⟩ := h
    exact ⟨hopen, i', (congrArg (·[j]?) hstops).trans hj⟩
  | closing => exact hquiet h
  | finished outcome => exact ⟨hquiet h.1, h.2⟩

lemma Orderly.step (h : l.Orderly) (move : LifespanMove Dump) : (l.step move).Orderly := by
  cases move with
  | enter document interval =>
    rw [Lifespan.step]
    split
    · rename_i hphase
      exact h.enter hphase document interval
    · exact h
  | leave =>
    rw [Lifespan.step]
    split
    · rename_i hphase
      exact h.leave hphase
    · exact h
  | stopped =>
    rw [Lifespan.step]
    split
    · rename_i j hphase
      exact h.stopped hphase
    · exact h
  | closed outcome =>
    rw [Lifespan.step]
    have hkept := h.phase
    split
    swap
    · exact h
    rename_i hphase
    rw [hphase] at hkept
    rcases outcome with exc | ⟨⟩
    · exact ⟨h.monitor, hkept, fun heq => by cases heq⟩
    · exact ⟨h.monitor, hkept, fun _ => rfl⟩
  | turn i wakeup => exact ⟨h.monitor.turn i wakeup, h.phase.turn i wakeup⟩
  | environ f =>
    refine ⟨⟨h.monitor.owned, h.monitor.task_lt, h.monitor.pending, h.monitor.raised⟩, ?_⟩
    have hkept := h.phase
    rw [Lifespan.step]
    cases hphase : l.phase <;> rw [hphase] at hkept <;> exact hkept

lemma Orderly.run (h : l.Orderly) (moves : List (LifespanMove Dump)) : (l.run moves).Orderly := by
  induction moves generalizing l with
  | nil => exact h
  | cons move moves ih => exact ih (h.step move)

/-- In every run of the lifespan, whatever the registry file, the probes, the other tasks and the
close of the client do: a loop of the monitor is alive only while the shared client is open, so that
no probe is sent by a closed client; however the lifespan ends, no loop outlives it, and when it
ends without an exception the client has been given up. -/
theorem lifespan_orderly (s : GateState Dump) (moves : List (LifespanMove Dump)) :
    ((∃ t ∈ ((new s).run moves).monitor.loops, t.Live) → ((new s).run moves).manager.Open) ∧
    ∀ outcome, ((new s).run moves).phase = .finished outcome →
      ((new s).run moves).monitor.running = false ∧
      (∀ t ∈ ((new s).run moves).monitor.loops, ¬ t.Live) ∧
      (outcome = .ok () → ((new s).run moves).manager.client = none) := by
  obtain ⟨hsound, hkept⟩ := (orderly_new s).run moves
  constructor
  · rintro ⟨t, hmem, hlive⟩
    cases hphase : ((new s).run moves).phase with
    | created =>
      rw [hphase] at hkept
      exact absurd hlive (hkept.2.1 t hmem)
    | serving =>
      rw [hphase] at hkept
      exact hkept.1
    | stopping j =>
      rw [hphase] at hkept
      exact hkept.1
    | closing =>
      rw [hphase] at hkept
      exact absurd hlive (hkept t hmem)
    | finished outcome =>
      rw [hphase] at hkept
      exact absurd hlive (hkept.1 t hmem)
  · intro outcome hphase
    rw [hphase] at hkept
    refine ⟨?_, hkept.1, hkept.2⟩
    rw [Bool.eq_false_iff, ne_eq, hsound.running_iff, not_not]
    exact hkept.1

end Lifespan

end ConstellationGate
