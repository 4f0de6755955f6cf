import ConstellationGate.Lib.Outcome
import ConstellationGate.Lib.Segments
import ConstellationGate.Services.CallTrace
import ConstellationGate.Services.CallOpening

/-!
# The segments of an execute call

What one execute call does between two of its awaits.

A call that has come to its execution in its first segment (`Opens`) awaits only in the work on
its packet.  A later segment goes on with the work, or ends the work and with it the call
(`Advance`): what `settle` and the `finally` block do is not interrupted (`ended`).
-/

namespace ConstellationGate

variable {Dump : Type}

/-! ### Admission -/

/-- A packet that is refused is not counted. -/
lemma inFlightRequests_of_refused {cfg : GateConfig Dump} {packet : TransportPacket}
    {s s' : GateState Dump} {e : PyError} (h : passAdmission cfg packet s = (.error e, s')) :
    s'.inFlightRequests = s.inFlightRequests := by
  rw [passAdmission] at h
  simp only at h
  split at h
  · cases h
    rfl
  split at h
  · cases h
    rfl
  split at h
  · cases h
    rfl
  split at h
  · cases h
    rfl
  · cases h

/-- A packet that is admitted is counted, and stays below the limit. -/
lemma inFlightRequests_of_admitted {cfg : GateConfig Dump} {packet : TransportPacket}
    {s s' : GateState Dump} (h : passAdmission cfg packet s = (.ok (), s')) :
    s'.inFlightRequests = s.inFlightRequests + 1 ∧
      s.inFlightRequests < cfg.loadShedding.maxInFlight := by
  rw [passAdmission] at h
  simp only at h
  split at h
  · cases h
  split at h
  · cases h
  rename_i henforce
  split at h
  · cases h
  split at h
  · cases h
  cases h
  refine ⟨rfl, ?_⟩
  rw [LoadSheddingPolicy.enforce] at henforce
  simp only [guard_ok_iff, not_le] at henforce
  exact henforce.2.1

/-! ### The end of a call -/

/-- What `settle` makes of the state. -/
def settled (cfg : GateConfig Dump) (packet : TransportPacket) :
    Except PyError TransportPacket → GateState Dump → GateState Dump
  | .error exc, s => if exc.isException then (recordFailure cfg packet exc s).2 else s
  | .ok result, s =>
    if isTerminalSuccess result then (cacheResult cfg packet result (recordSuccess s).2).2
    else (recordSuccess s).2

/-- What `settle` records. -/
def settledEvents (cfg : GateConfig Dump) (packet : TransportPacket) :
    Except PyError TransportPacket → GateState Dump → List (GateEvent Dump)
  | .error _, _ => []
  | .ok result, s =>
    if isTerminalSuccess result then
      match idempotencyNamespaceKey packet with
      | none => []
      | some key => [.stored key s.monotonic.now (cfg.sdk.dump result)]
    else []

/-- The state after a call whose execution has this outcome in the state `s`. -/
def ended (cfg : GateConfig Dump) (packet : TransportPacket)
    (outcome : Except PyError TransportPacket) (s : GateState Dump) : GateState Dump :=
  (leave (settled cfg packet outcome s)).2

/-- What the end of a call records. -/
def endedEvents (cfg : GateConfig Dump) (packet : TransportPacket)
    (outcome : Except PyError TransportPacket) (s : GateState Dump) : List (GateEvent Dump) :=
  settledEvents cfg packet outcome s ++ [.returned outcome]

/-- What follows the execution runs in one go. -/
lemma segment_settle (cfg : GateConfig Dump) (packet : TransportPacket)
    (outcome : Except PyError TransportPacket) (tid : ℕ) (w : World (gate Dump)) :
    (settle cfg packet outcome).segment tid w =
      (.finished outcome, worldAfter w tid (settled cfg packet outcome w.state)
        (settledEvents cfg packet outcome w.state)) := by
  cases outcome with
  | error exc =>
    rw [settle, settled, settledEvents, ← put_eq_worldAfter]
    split <;> rfl
  | ok result =>
    change Co.segment tid (if isTerminalSuccess result then _ else _)
      (w.put (recordSuccess w.state).2) = _
    rw [settled, settledEvents]
    split
    swap
    · rw [put_eq_worldAfter _ tid]
      rfl
    rcases hkey : idempotencyNamespaceKey packet with _ | key
    · have hcache := CacheKept.cacheResult_none cfg hkey result (recordSuccess w.state).2
      rw [Co.segment_bind_call_ok (w := w.put (recordSuccess w.state).2) hcache, hcache]
      exact congrArg (Prod.mk _) (put_eq_worldAfter w tid (recordSuccess w.state).2)
    · have hcache : cacheResult cfg packet result (recordSuccess w.state).2 =
          (.ok (some (key, w.state.monotonic.now)),
            (cacheResult cfg packet result (recordSuccess w.state).2).2) := by
        rw [cacheResult, hkey]
        rfl
      rw [Co.segment_bind_call_ok (w := w.put (recordSuccess w.state).2) hcache]
      rfl

/-- The end of a call runs in one go. -/
lemma segment_executing_done (cfg : GateConfig Dump) (packet : TransportPacket)
    (outcome : Except PyError TransportPacket) (tid : ℕ) (w : World (gate Dump)) :
    (executing cfg packet (.done outcome)).segment tid w =
      (.finished outcome, worldAfter w tid (ended cfg packet outcome w.state)
        (endedEvents cfg packet outcome w.state)) := by
  have hsettle := segment_settle cfg packet outcome tid w
  have hclosing : ((settle cfg packet outcome).handle fun outcome =>
      Co.call (S := gate Dump) leave >>= fun _ => liftExcept outcome).segment tid w =
      (.finished outcome, worldAfter w tid (ended cfg packet outcome w.state)
        (settledEvents cfg packet outcome w.state)) := by
    rw [Co.segment_handle, hsettle]
    rfl
  rw [executing, closing, Co.handle, Co.segment_handle, hclosing, endedEvents, ← worldAfter_emit]
  rfl

/-! ### A later segment -/

/-- What the work on a packet does: it records only what executions record, and leaves what the
service owns alone; with legal replies, its outcome is in `P`. -/
structure IsWork (L : Replies (gate Dump)) (P : Except PyError TransportPacket → Prop)
    (work : Co (gate Dump) TransportPacket) : Prop where
  within : ∀ s, work.Within (fun e : GateEvent Dump => e.isExecution = true) Working s
  ends : work.Ends L P

/-- How a segment of an execution ends, that begins in the world `w`. -/
inductive Advance (cfg : GateConfig Dump) (packet : TransportPacket) (L : Replies (gate Dump))
    (P : Except PyError TransportPacket → Prop) (tid : ℕ) (w : World (gate Dump)) :
    Status (gate Dump) TransportPacket × World (gate Dump) → Prop
  /-- The work awaits something. -/
  | waits {s : GateState Dump} {events : List (GateEvent Dump)} {q : GateRequest}
      {k : Except PyError q.Reply → Co (gate Dump) TransportPacket} (hs : Working w.state s)
      (hevents : ∀ e ∈ events, e.isExecution = true) (hk : ∀ r, L q r → IsWork L P (k r)) :
      Advance cfg packet L P tid w
        (.waiting q fun r => executing cfg packet (k r), worldAfter w tid s events)
  /-- The work has an outcome, which ends the call. -/
  | ends {s : GateState Dump} {events : List (GateEvent Dump)}
      {outcome : Except PyError TransportPacket} (hs : Working w.state s)
      (hevents : ∀ e ∈ events, e.isExecution = true) (houtcome : P outcome) :
      Advance cfg packet L P tid w
        (.finished outcome, worldAfter w tid (ended cfg packet outcome s)
          (events ++ endedEvents cfg packet outcome s))

/-- An execution is its work, with the end of the call as a handler. -/
lemma executing_eq (cfg : GateConfig Dump) (packet : TransportPacket)
    (work : Co (gate Dump) TransportPacket) :
    executing cfg packet work = work.handle fun r => executing cfg packet (.done r) := by
  induction work with
  | done r => rfl
  | get k ih => exact congrArg Co.get (funext ih)
  | put s k ih => exact congrArg (Co.put s) ih
  | emit e k ih => exact congrArg (Co.emit e) ih
  | await q k ih => exact congrArg (Co.await q) (funext ih)

lemma segment_executing (cfg : GateConfig Dump) (packet : TransportPacket)
    {L : Replies (gate Dump)} {P : Except PyError TransportPacket → Prop}
    {work : Co (gate Dump) TransportPacket} (h : IsWork L P work) (tid : ℕ)
    (w : World (gate Dump)) :
    Advance cfg packet L P tid w ((executing cfg packet work).segment tid w) := by
  have hwithin := Co.segment_within (h.within w.state) tid
  have hends := Co.segment_ends h.ends tid w
  rw [executing_eq, Co.segment_handle]
  obtain ⟨es, hlog, hes⟩ := hwithin.log
  have hs : Working w.state (work.segment tid w).2.state := .of_reflTransGen hwithin.state
  have hw : (work.segment tid w).2 = worldAfter w tid (work.segment tid w).2.state es := by
    rw [worldAfter, ← hlog]
  have hstatus := hwithin.status
  rcases hseg : work.segment tid w with ⟨outcome | ⟨q, k⟩, w'⟩
  · -- the work has an outcome
    rw [hseg] at hw hs hends
    rw [Co.resumeWith, segment_executing_done]
    simp only at hw
    rw [hw]
    simp only [worldAfter_worldAfter]
    exact .ends hs hes hends
  · rw [hseg] at hw hs hends hstatus
    simp only [Co.resumeWith, ← executing_eq]
    simp only at hw
    rw [hw]
    exact .waits hs hes fun r hr => ⟨hstatus r, hends r hr⟩

/-! ### The work under a deadline -/

lemma isWork_deadlineWork (cfg : GateConfig Dump) (packet : TransportPacket) (deadline : Deadline)
    {L : Replies (gate Dump)} {P : Except PyError TransportPacket → Prop}
    (hends : (deadlineWork cfg packet deadline).Ends L P) :
    IsWork L P (deadlineWork cfg packet deadline) := by
  refine ⟨fun s => within_waitFor (within_attempts (fun _ _ h => h) (fun s => ?_) _ _ _ _ _ s),
    hends⟩
  exact within_runOnce (E := fun e => e.isExecution = true) (fun _ _ h => h) cfg rfl
    (fun e he _ => he) deadline s

/-! ### Runs -/

/-- Every reply is legal: a failure and a cancellation too. -/
def anyReply : Replies (gate Dump) := fun _ _ => True

/-- Runs of execute calls with replies in `L`, in an environment that keeps to `Env`. -/
structure ServiceRun (cfg : GateConfig Dump) (L : Replies (gate Dump))
    (Env : GateState Dump → GateState Dump → Prop)
    (ms : List (Move (gate Dump) TransportPacket)) : Prop where
  calls : ∀ p, .spawn p ∈ ms → IsExecute cfg p
  replies : ∀ i reply, .resume i reply ∈ ms → ∀ q, L q (reply q)
  environ : ∀ f, .environ f ∈ ms → ∀ s, Env s (f s)

lemma ServiceRun.of_append {cfg : GateConfig Dump} {L : Replies (gate Dump)}
    {Env : GateState Dump → GateState Dump → Prop}
    {ms ms' : List (Move (gate Dump) TransportPacket)} (h : ServiceRun cfg L Env (ms ++ ms')) :
    ServiceRun cfg L Env ms :=
  ⟨fun p hp => h.calls p (List.mem_append_left _ hp),
    fun i reply hr => h.replies i reply (List.mem_append_left _ hr),
    fun f hf => h.environ f (List.mem_append_left _ hf)⟩

/-- The packet whose execution an event starts. -/
def GateEvent.started? : GateEvent Dump → Option TransportPacket
  | .deadlineStarted packet _ => some packet
  | _ => none

/-- The packet that a call has come to execute. -/
def startedPacket (tid : ℕ) (log : List (ℕ × GateEvent Dump)) : Option TransportPacket :=
  (eventsIn tid log).findSome? GateEvent.started?

lemma startedPacket_append {tid : ℕ} {log : List (ℕ × GateEvent Dump)} {packet : TransportPacket}
    (h : startedPacket tid log = some packet) (log' : List (ℕ × GateEvent Dump)) :
    startedPacket tid (log ++ log') = some packet := by
  rw [startedPacket] at h ⊢
  rw [eventsIn_append, List.findSome?_append, h, Option.some_or]

/-- What another task records does not count. -/
lemma startedPacket_append_of_ne {tid i : ℕ} (h : tid ≠ i) (log : List (ℕ × GateEvent Dump))
    (events : List (GateEvent Dump)) :
    startedPacket tid (log ++ events.map (Prod.mk i)) = startedPacket tid log := by
  rw [startedPacket, Pool.eventsIn_append_of_ne (S := gate Dump) h rfl, startedPacket]

/-- A task that has recorded nothing yet. -/
lemma startedPacket_append_fresh {tid : ℕ} {log : List (ℕ × GateEvent Dump)}
    (h : ∀ e, (tid, e) ∉ log) (events : List (GateEvent Dump)) :
    startedPacket tid (log ++ events.map (Prod.mk tid)) =
      events.findSome? GateEvent.started? := by
  have hnil : eventsIn tid log = [] :=
    List.eq_nil_iff_forall_not_mem.2 fun e he => h e (mem_eventsIn.1 he)
  rw [startedPacket, eventsIn_append, hnil, List.nil_append, eventsIn_map_self]

/-- A call that awaits something works on the packet that it has come to execute. -/
def IsCallTask (cfg : GateConfig Dump) (L : Replies (gate Dump))
    (P : Except PyError TransportPacket → Prop) (started : Option TransportPacket) :
    Status (gate Dump) TransportPacket → Prop
  | .finished _ => True
  | .waiting q k => ∃ (packet : TransportPacket)
      (work : Except PyError q.Reply → Co (gate Dump) TransportPacket),
      started = some packet ∧ k = (fun r => executing cfg packet (work r)) ∧
        ∀ r, L q r → IsWork L P (work r)

lemma Advance.isCallTask {cfg : GateConfig Dump} {packet : TransportPacket}
    {L : Replies (gate Dump)} {P : Except PyError TransportPacket → Prop} {tid : ℕ}
    {w w' : World (gate Dump)} {t : Status (gate Dump) TransportPacket}
    (h : Advance cfg packet L P tid w (t, w')) : IsCallTask cfg L P (some packet) t := by
  cases h with
  | waits hs hevents hk => exact ⟨packet, _, rfl, rfl, hk⟩
  | ends hs hevents houtcome => trivial

lemma Advance.exists_worldAfter {cfg : GateConfig Dump} {packet : TransportPacket}
    {L : Replies (gate Dump)} {P : Except PyError TransportPacket → Prop} {tid : ℕ}
    {w w' : World (gate Dump)} {t : Status (gate Dump) TransportPacket}
    (h : Advance cfg packet L P tid w (t, w')) : ∃ s events, w' = worldAfter w tid s events := by
  cases h with
  | waits hs hevents hk => exact ⟨_, _, rfl⟩
  | ends hs hevents houtcome => exact ⟨_, _, rfl⟩

/-- What one move does to a pool of calls. -/
inductive CallStep (cfg : GateConfig Dump) (L : Replies (gate Dump))
    (P : Except PyError TransportPacket → Prop) (c : Pool (gate Dump) TransportPacket) :
    Move (gate Dump) TransportPacket → Pool (gate Dump) TransportPacket → Prop
  /-- A call is started and does not come to its execution. -/
  | turnedAway {validated outcome : Except PyError TransportPacket} {s : GateState Dump}
      {events : List (GateEvent Dump)} (hfresh : ∀ e, (c.tasks.length, e) ∉ c.world.log)
      (haway : TurnedAway cfg c.world.state validated s events outcome) :
      CallStep cfg L P c (.spawn (execute cfg (dispatch cfg) validated))
        ⟨worldAfter c.world c.tasks.length s events, c.tasks ++ [.finished outcome]⟩
  /-- A call is started and comes to its execution. -/
  | begins {packet : TransportPacket} {now : ℚ} {deadline : Deadline} {s : GateState Dump}
      {t : Status (gate Dump) TransportPacket} {w : World (gate Dump)}
      (hfresh : ∀ e, (c.tasks.length, e) ∉ c.world.log)
      (hbegins : Begins cfg packet c.world.state now deadline s)
      (hadvance : Advance cfg packet L P c.tasks.length
        (worldAfter c.world c.tasks.length s (begunEvents packet now deadline)) (t, w)) :
      CallStep cfg L P c (.spawn (execute cfg (dispatch cfg) (.ok packet))) ⟨w, c.tasks ++ [t]⟩
  /-- A call goes on with its execution. -/
  | goesOn {i : ℕ} {reply : ∀ q : GateRequest, Except PyError q.Reply}
      {packet : TransportPacket} {t : Status (gate Dump) TransportPacket} {w : World (gate Dump)}
      (hwaits : i ∈ waitingTasks c.tasks) (hstarted : startedPacket i c.world.log = some packet)
      (hadvance : Advance cfg packet L P i c.world (t, w)) :
      CallStep cfg L P c (.resume i reply) ⟨w, c.tasks.set i t⟩
  /-- A task that does not wait is resumed. -/
  | idle {i : ℕ} (reply : ∀ q : GateRequest, Except PyError q.Reply)
      (hidle : i ∉ waitingTasks c.tasks) : CallStep cfg L P c (.resume i reply) c
  | environ (f : GateState Dump → GateState Dump) :
      CallStep cfg L P c (.environ f) ⟨c.world.put (f c.world.state), c.tasks⟩

/-- The tasks of the pool are calls, and nobody else has recorded anything. -/
structure CallsKept (cfg : GateConfig Dump) (L : Replies (gate Dump))
    (P : Except PyError TransportPacket → Prop) (c : Pool (gate Dump) TransportPacket) : Prop where
  tasks : ∀ tid t, c.tasks[tid]? = some t →
    IsCallTask cfg L P (startedPacket tid c.world.log) t
  started : ∀ tid e, (tid, e) ∈ c.world.log → tid < c.tasks.length

section CallsKept

variable {cfg : GateConfig Dump} {L : Replies (gate Dump)}
  {P : Except PyError TransportPacket → Prop} {Env : GateState Dump → GateState Dump → Prop}
  {c c' : Pool (gate Dump) TransportPacket} {m : Move (gate Dump) TransportPacket}
  {ms : List (Move (gate Dump) TransportPacket)}

/-- Every move does one of these. -/
lemma CallsKept.callStep
    (hwork : ∀ packet deadline, (deadlineWork cfg packet deadline).Ends L P)
    (hc : CallsKept cfg L P c) (hms : ServiceRun cfg L Env ms) (hm : m ∈ ms) :
    CallStep cfg L P c m (c.step m) := by
  have hfresh : ∀ e, (c.tasks.length, e) ∉ c.world.log :=
    fun e he => absurd (hc.started _ e he) (lt_irrefl _)
  cases m with
  | environ f => exact .environ f
  | spawn p =>
    obtain ⟨validated, rfl⟩ := hms.calls p hm
    have hopens := segment_execute_opens cfg validated c.tasks.length c.world
    rw [Pool.step]
    generalize (execute cfg (dispatch cfg) validated).segment c.tasks.length c.world = r at hopens ⊢
    cases hopens with
    | turnedAway haway => exact .turnedAway hfresh haway
    | @begins packet now deadline s hbegins =>
      exact .begins hfresh hbegins (segment_executing cfg packet
        (isWork_deadlineWork cfg packet deadline (hwork packet deadline)) c.tasks.length _)
  | resume i reply =>
    rcases hi : c.tasks[i]? with _ | (r | ⟨q, k⟩)
    · simp only [Pool.step, hi]
      refine .idle reply fun hwaits => ?_
      obtain ⟨q, k, h⟩ := hwaits
      simp [hi] at h
    · simp only [Pool.step, hi]
      refine .idle reply fun hwaits => ?_
      obtain ⟨q, k, h⟩ := hwaits
      simp [hi] at h
    · obtain ⟨packet, work, hstarted, rfl, hk⟩ := hc.tasks i _ hi
      simp only [Pool.step, hi]
      exact .goesOn ⟨_, _, hi⟩ hstarted
        (segment_executing cfg packet (hk _ (hms.replies i reply hm q)) i c.world)

/-- A task that does not run goes on being a call. -/
lemma CallsKept.isCallTask_append (hc : CallsKept cfg L P c) {tid i : ℕ}
    {t : Status (gate Dump) TransportPacket} (hget : c.tasks[tid]? = some t) (hne : tid ≠ i)
    (events : List (GateEvent Dump)) :
    IsCallTask cfg L P (startedPacket tid (c.world.log ++ events.map (Prod.mk i))) t := by
  rw [startedPacket_append_of_ne hne]
  exact hc.tasks tid t hget

/-- A task is added that is a call. -/
lemma CallsKept.append (hc : CallsKept cfg L P c) {s : GateState Dump}
    {events : List (GateEvent Dump)} {t : Status (gate Dump) TransportPacket}
    (ht : IsCallTask cfg L P (startedPacket c.tasks.length
      (c.world.log ++ events.map (Prod.mk c.tasks.length))) t) :
    CallsKept cfg L P ⟨worldAfter c.world c.tasks.length s events, c.tasks ++ [t]⟩ := by
  refine ⟨fun tid t' hget => ?_, fun tid e he => ?_⟩
  · rcases Nat.lt_trichotomy tid c.tasks.length with hlt | rfl | hgt
    · rw [List.getElem?_append_left hlt] at hget
      exact hc.isCallTask_append hget hlt.ne events
    · rw [List.getElem?_concat_length] at hget
      obtain rfl := Option.some.inj hget
      exact ht
    · rw [List.getElem?_eq_none (by simpa using Nat.succ_le_of_lt hgt)] at hget
      cases hget
  · rw [List.length_append, List.length_singleton]
    rcases Pool.mem_log_of_append (S := gate Dump) he with he | ⟨rfl, -⟩
    · exact (hc.started tid e he).trans (Nat.lt_succ_self _)
    · exact Nat.lt_succ_self _

lemma CallStep.callsKept (h : CallStep cfg L P c m c') (hc : CallsKept cfg L P c) :
    CallsKept cfg L P c' := by
  cases h with
  | turnedAway hfresh haway => exact hc.append trivial
  | @begins packet now deadline s t w hfresh hbegins hadvance =>
    have ht := hadvance.isCallTask
    obtain ⟨s', events, rfl⟩ := hadvance.exists_worldAfter
    rw [worldAfter_worldAfter]
    refine hc.append ?_
    rw [startedPacket_append_fresh hfresh]
    exact ht
  | @goesOn i reply packet t w hwaits hstarted hadvance =>
    have ht := hadvance.isCallTask
    obtain ⟨s', events, rfl⟩ := hadvance.exists_worldAfter
    have hlt := lt_length_of_mem_waitingTasks hwaits
    refine ⟨fun tid t' hget => ?_, fun tid e he => ?_⟩
    · by_cases htid : tid = i
      · subst htid
        rw [List.getElem?_set_self hlt] at hget
        obtain rfl := Option.some.inj hget
        rw [worldAfter_log, startedPacket_append hstarted]
        exact ht
      · rw [List.getElem?_set_ne (Ne.symm htid)] at hget
        exact hc.isCallTask_append hget htid events
    · rw [List.length_set]
      rcases Pool.mem_log_of_append (S := gate Dump) he with he | ⟨rfl, -⟩
      · exact hc.started tid e he
      · exact hlt
  | idle reply hidle => exact hc
  | environ f => exact ⟨hc.tasks, hc.started⟩

/-- A move that runs a task that was started goes on with its execution. -/
lemma CallStep.advance (h : CallStep cfg L P c m c') {tid : ℕ} (hlt : tid < c.tasks.length)
    (hruns : c.runs tid m = true) :
    ∃ packet t w, tid ∈ waitingTasks c.tasks ∧ startedPacket tid c.world.log = some packet ∧
      Advance cfg packet L P tid c.world (t, w) ∧ c' = ⟨w, c.tasks.set tid t⟩ := by
  cases h with
  | turnedAway hfresh haway => exact absurd (of_decide_eq_true hruns) hlt.ne'
  | begins hfresh hbegins hadvance => exact absurd (of_decide_eq_true hruns) hlt.ne'
  | goesOn hwaits hstarted hadvance =>
    obtain ⟨rfl, -⟩ := of_decide_eq_true hruns
    exact ⟨_, _, _, hwaits, hstarted, hadvance, rfl⟩
  | idle reply hidle =>
    obtain ⟨rfl, hwaits⟩ := of_decide_eq_true hruns
    exact absurd (Pool.isSome_request_iff.1 hwaits) hidle
  | environ f => cases hruns

/-- The induction along a run of calls: what each move keeps holds of every reachable pool. -/
lemma ServiceRun.induction
    (hwork : ∀ packet deadline, (deadlineWork cfg packet deadline).Ends L P) {s : GateState Dump}
    {motive : List (Move (gate Dump) TransportPacket) → Pool (gate Dump) TransportPacket → Prop}
    (hinit : motive [] (Pool.init s))
    (hstep : ∀ ms m c c', motive ms c → CallStep cfg L P c m c' →
      (∀ f, m = .environ f → ∀ s, Env s (f s)) → motive (ms ++ [m]) c')
    (h : ServiceRun cfg L Env ms) :
    motive ms ((Pool.init s).run ms) ∧ CallsKept cfg L P ((Pool.init s).run ms) := by
  induction ms using List.reverseRecOn with
  | nil => exact ⟨hinit, fun tid t hget => (by cases hget), fun tid e he => (by cases he)⟩
  | append_singleton ms m ih =>
    obtain ⟨hmotive, hkept⟩ := ih h.of_append
    rw [Pool.run_concat]
    have hm := hkept.callStep hwork h (List.mem_append_right ms (List.mem_singleton_self m))
    refine ⟨hstep _ _ _ _ hmotive hm ?_, hm.callsKept hkept⟩
    rintro f rfl
    exact h.environ f (by simp)

end CallsKept

end ConstellationGate
