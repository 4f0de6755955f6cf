import ConstellationGate.Resilience.RateLimits
import ConstellationGate.Services.CallSegments
import ConstellationGate.Services.ResultCache

/-!
# The rate of admission

The limiter counts the calls of a source before the other guards of admission control have let them
pass.  Over every interleaved run of execute calls, what is admitted from a source keeps to the
limit of its window (`admission_rate`): neither the other sources nor the calls that are still
running, retried or answered from the cache make room for more.
-/

namespace ConstellationGate

variable {Dump : Type}

/-! ### What is admitted -/

/-- The packets that a log admits. -/
def admittedIn (log : List (ℕ × GateEvent Dump)) : List TransportPacket :=
  log.filterMap fun e => e.2.admission?

/-- The sources of the packets that a run admits from a pool on, each with the clock reading at
which its move has begun. -/
def admissionCallsFrom :
    Pool (gate Dump) TransportPacket → List (Move (gate Dump) TransportPacket) → List AllowCall
  | _, [] => []
  | c, m :: ms =>
    ((admittedIn ((c.step m).world.log.drop c.world.log.length)).map fun packet =>
      ⟨packet.address.sourceNode, c.world.state.monotonic.now⟩) ++ admissionCallsFrom (c.step m) ms

/-- The admissions of a run. -/
abbrev admissionCalls (s : GateState Dump) (ms : List (Move (gate Dump) TransportPacket)) :
    List AllowCall :=
  admissionCallsFrom (Pool.init s) ms

@[simp] lemma admittedIn_append (log log' : List (ℕ × GateEvent Dump)) :
    admittedIn (log ++ log') = admittedIn log ++ admittedIn log' := List.filterMap_append

/-- What one task records. -/
lemma admittedIn_map (tid : ℕ) (events : List (GateEvent Dump)) :
    admittedIn (events.map (Prod.mk tid)) = events.filterMap GateEvent.admission? := by
  rw [admittedIn, List.filterMap_map]
  rfl

/-- The events of an execution and of its end admit nothing. -/
lemma admission?_eq_nil {events : List (GateEvent Dump)}
    (h : ∀ e ∈ events, e.admission? = none) : events.filterMap GateEvent.admission? = [] :=
  List.filterMap_eq_nil_iff.2 h

lemma admission?_of_isExecution {e : GateEvent Dump} (h : e.isExecution = true) :
    e.admission? = none := by
  cases e with
  | admitted packet => cases h
  | _ => rfl

lemma admission?_of_mem_endedEvents {cfg : GateConfig Dump} {packet : TransportPacket}
    {outcome : Except PyError TransportPacket} {s : GateState Dump} {e : GateEvent Dump}
    (h : e ∈ endedEvents cfg packet outcome s) : e.admission? = none := by
  rw [endedEvents, List.mem_append, List.mem_singleton] at h
  rcases h with h | rfl
  · cases outcome with
    | error exc => cases h
    | ok result =>
      rw [settledEvents] at h
      split at h
      swap
      · cases h
      split at h
      · cases h
      · obtain rfl := List.mem_singleton.1 h
        rfl
  · rfl

lemma admissionCallsFrom_concat (c : Pool (gate Dump) TransportPacket)
    (ms : List (Move (gate Dump) TransportPacket)) (m : Move (gate Dump) TransportPacket) :
    admissionCallsFrom c (ms ++ [m]) =
      admissionCallsFrom c ms ++ admissionCallsFrom (c.run ms) [m] := by
  induction ms generalizing c with
  | nil => rfl
  | cons m' ms ih => simp only [List.cons_append, admissionCallsFrom, ih, Pool.run_cons,
      List.append_assoc]

/-- The admissions of one move that records events. -/
lemma admissionCallsFrom_singleton {c : Pool (gate Dump) TransportPacket}
    {m : Move (gate Dump) TransportPacket} {log' : List (ℕ × GateEvent Dump)}
    (h : (c.step m).world.log = c.world.log ++ log') :
    admissionCallsFrom c [m] = (admittedIn log').map fun packet =>
      ⟨packet.address.sourceNode, c.world.state.monotonic.now⟩ := by
  simp only [admissionCallsFrom, h, List.drop_left, List.append_nil]

/-! ### The limiter -/

/-- A step leaves the rate limiter alone and does not turn the clock back. -/
structure Unmetered (s s' : GateState Dump) : Prop where
  rateLimiter : s'.rateLimiter = s.rateLimiter
  monotonic : s.monotonic.Later s'.monotonic

namespace Unmetered

lemma trans {s s' s'' : GateState Dump} (h : Unmetered s s') (h' : Unmetered s' s'') :
    Unmetered s s'' :=
  ⟨h'.rateLimiter.trans h.rateLimiter, h.monotonic.trans h'.monotonic⟩

lemma of_working {s s' : GateState Dump} (h : Working s s') : Unmetered s s' :=
  ⟨h.rateLimiter, h.monotonic⟩

lemma of_eq {s s' : GateState Dump} (hlimiter : s'.rateLimiter = s.rateLimiter)
    (hclock : s'.monotonic = s.monotonic) : Unmetered s s' := by
  refine ⟨hlimiter, ?_⟩
  rw [hclock]
  exact MonotonicClock.Later.refl _

lemma lookUp (packet : TransportPacket) (s : GateState Dump) :
    Unmetered s (lookUp packet s).2 := by
  refine ⟨rfl, ?_⟩
  rw [ConstellationGate.lookUp, IdempotencyStore.getForPacket]
  simp only
  split
  · exact MonotonicClock.Later.refl _
  · exact s.idempotencyStore.later_live s.monotonic _

lemma guardReplay (packet : TransportPacket) (s : GateState Dump) :
    Unmetered s (guardReplay packet s).2 := of_eq rfl rfl

lemma startDeadline (cfg : GateConfig Dump) (packet : TransportPacket) (s : GateState Dump) :
    Unmetered s (startDeadline cfg packet s).2 :=
  ⟨rfl, cfg.timeoutPolicy.later_startDeadline packet _⟩

lemma leave (s : GateState Dump) : Unmetered s (leave s).2 := of_eq rfl rfl

lemma ended (cfg : GateConfig Dump) (packet : TransportPacket)
    (outcome : Except PyError TransportPacket) (s : GateState Dump) :
    Unmetered s (ended cfg packet outcome s) := by
  suffices hsettled : Unmetered s (settled cfg packet outcome s) from hsettled.trans (leave _)
  cases outcome with
  | error exc =>
    rw [settled]
    split
    · exact ⟨rfl, MonotonicClock.later_tick _⟩
    · exact of_eq rfl rfl
  | ok result =>
    have hsuccess : Unmetered s (recordSuccess s).2 := of_eq rfl rfl
    rw [settled]
    split
    · exact hsuccess.trans ⟨rfl, later_cacheResult cfg packet result _⟩
    · exact hsuccess

end Unmetered

/-- What admission control does to the limiter. -/
lemma passAdmission_limiter (cfg : GateConfig Dump) (packet : TransportPacket)
    (s : GateState Dump) :
    (passAdmission cfg packet s).2.rateLimiter =
        (s.rateLimiter.allow packet.address.sourceNode s.monotonic.now).2 ∧
      ((passAdmission cfg packet s).1 = .ok () →
        (s.rateLimiter.allow packet.address.sourceNode s.monotonic.now).1 = .ok ()) := by
  rw [passAdmission]
  simp only
  split
  · exact ⟨rfl, fun h => by cases h⟩
  rename_i hallowed
  split
  · exact ⟨rfl, fun h => by cases h⟩
  split
  · exact ⟨rfl, fun h => by cases h⟩
  split
  · exact ⟨rfl, fun h => by cases h⟩
  · exact ⟨rfl, fun _ => hallowed⟩

/-! ### Runs -/

/-- The calls that the limiter has counted include those that were admitted. -/
structure Metered (limiter : FixedWindowRateLimiter) (s : GateState Dump)
    (calls taken : List AllowCall) : Prop where
  maxRequests : s.rateLimiter.maxRequests = limiter.maxRequests
  windowSeconds : s.rateLimiter.windowSeconds = limiter.windowSeconds
  counted : s.rateLimiter.Counted calls s.monotonic.now
  sublist : taken.Sublist calls

namespace Metered

variable {limiter : FixedWindowRateLimiter} {cfg : GateConfig Dump} {s s' : GateState Dump}
  {calls taken : List AllowCall}

lemma unmetered (h : Metered limiter s calls taken) (hstep : Unmetered s s') :
    Metered limiter s' calls taken := by
  constructor
  · rw [hstep.rateLimiter, h.maxRequests]
  · rw [hstep.rateLimiter, h.windowSeconds]
  · rw [hstep.rateLimiter]
    exact h.counted.later hstep.monotonic.now_le
  · exact h.sublist

/-- A packet passes admission control, or is refused by it. -/
lemma passAdmission (h : Metered limiter s calls taken) (cfg : GateConfig Dump)
    (packet : TransportPacket) :
    ∃ calls', Metered limiter (passAdmission cfg packet s).2 calls' taken ∧
      ((ConstellationGate.passAdmission cfg packet s).1 = .ok () →
        Metered limiter (ConstellationGate.passAdmission cfg packet s).2 calls'
          (taken ++ [⟨packet.address.sourceNode, s.monotonic.now⟩])) := by
  obtain ⟨hlimiter, hallowed⟩ := passAdmission_limiter cfg packet s
  have hlater := (passAdmission_admission cfg packet s).monotonic.now_le
  rcases s.rateLimiter.allow_cases packet.address.sourceNode s.monotonic.now with
    ⟨hroom, heq⟩ | ⟨-, hrefused, heq⟩
  · -- the limiter counts the packet, whatever the other guards do
    rw [heq] at hlimiter
    have hcounted := (h.counted.counting hroom).later hlater
    refine ⟨calls ++ [⟨packet.address.sourceNode, s.monotonic.now⟩], ?_, fun _ => ?_⟩
    · constructor
      · rw [hlimiter]
        exact h.maxRequests
      · rw [hlimiter]
        exact h.windowSeconds
      · rw [hlimiter]
        exact hcounted
      · exact h.sublist.trans (List.sublist_append_left _ _)
    · constructor
      · rw [hlimiter]
        exact h.maxRequests
      · rw [hlimiter]
        exact h.windowSeconds
      · rw [hlimiter]
        exact hcounted
      · exact h.sublist.append (List.Sublist.refl _)
  · rw [heq] at hlimiter
    refine ⟨calls, h.unmetered ⟨hlimiter, (passAdmission_admission cfg packet s).monotonic⟩,
      fun hok => absurd (hallowed hok) hrefused⟩

/-- A packet is admitted. -/
lemma admitted (h : Metered limiter s calls taken) {packet : TransportPacket}
    (hadmitted : ConstellationGate.passAdmission cfg packet s = (.ok (), s')) :
    ∃ calls', Metered limiter s' calls'
      (taken ++ [⟨packet.address.sourceNode, s.monotonic.now⟩]) := by
  obtain ⟨calls', -, hmetered⟩ := h.passAdmission cfg packet
  rw [hadmitted] at hmetered
  exact ⟨calls', hmetered rfl⟩

lemma misses (h : Metered limiter s calls taken) {packet : TransportPacket} {now : ℚ}
    (hmisses : Misses cfg packet s now s') :
    ∃ calls', Metered limiter s' calls'
      (taken ++ [⟨packet.address.sourceNode, s.monotonic.now⟩]) := by
  obtain ⟨s₁, hadmitted, hlookUp⟩ := hmisses
  obtain ⟨calls', hmetered⟩ := h.admitted hadmitted
  have hstep := Unmetered.lookUp packet s₁
  rw [hlookUp] at hstep
  exact ⟨calls', hmetered.unmetered hstep⟩

/-- A call that is turned away is admitted or not. -/
lemma turnedAway (h : Metered limiter s calls taken)
    {validated outcome : Except PyError TransportPacket} {events : List (GateEvent Dump)}
    (haway : TurnedAway cfg s validated s' events outcome) :
    ∃ calls', Metered limiter s' calls' (taken ++
      (events.filterMap GateEvent.admission?).map fun packet =>
        ⟨packet.address.sourceNode, s.monotonic.now⟩) := by
  cases haway with
  | invalid e =>
    refine ⟨calls, ?_⟩
    rw [show ([.returned (.error e)] : List (GateEvent Dump)).filterMap GateEvent.admission? = []
      from rfl, List.map_nil, List.append_nil]
    exact h
  | @refused packet e s' hrefused =>
    obtain ⟨calls', hmetered, -⟩ := h.passAdmission cfg packet
    rw [hrefused] at hmetered
    refine ⟨calls', ?_⟩
    rw [show ([.returned (.error e)] : List (GateEvent Dump)).filterMap GateEvent.admission? = []
      from rfl, List.map_nil, List.append_nil]
    exact hmetered
  | @cached packet now dump s₁ s₂ hadmitted hfound =>
    obtain ⟨calls', hmetered⟩ := h.admitted hadmitted
    have hstep := Unmetered.lookUp packet s₁
    rw [hfound] at hstep
    refine ⟨calls', ?_⟩
    exact (hmetered.unmetered hstep).unmetered (.leave s₂)
  | @replayed packet now e s₂ s₃ hmisses hguard =>
    obtain ⟨calls', hmetered⟩ := h.misses hmisses
    have hstep := Unmetered.guardReplay packet s₂
    rw [hguard] at hstep
    refine ⟨calls', ?_⟩
    exact (hmetered.unmetered hstep).unmetered (.leave s₃)
  | @unstarted packet now e s₂ s₃ s₄ hmisses hguard hdeadline =>
    obtain ⟨calls', hmetered⟩ := h.misses hmisses
    have hstep := Unmetered.guardReplay packet s₂
    rw [hguard] at hstep
    have hclock := Unmetered.startDeadline cfg packet s₃
    rw [hdeadline] at hclock
    refine ⟨calls', ?_⟩
    exact ((hmetered.unmetered hstep).unmetered hclock).unmetered (.leave s₄)

lemma begins (h : Metered limiter s calls taken) {packet : TransportPacket} {now : ℚ}
    {deadline : Deadline} (hbegins : Begins cfg packet s now deadline s') :
    ∃ calls', Metered limiter s' calls'
      (taken ++ [⟨packet.address.sourceNode, s.monotonic.now⟩]) := by
  obtain ⟨s₂, s₃, hmisses, hguard, hdeadline⟩ := hbegins
  obtain ⟨calls', hmetered⟩ := h.misses hmisses
  have hstep := Unmetered.guardReplay packet s₂
  rw [hguard] at hstep
  have hclock := Unmetered.startDeadline cfg packet s₃
  rw [hdeadline] at hclock
  exact ⟨calls', (hmetered.unmetered hstep).unmetered hclock⟩

/-- What is admitted of a source in one window is at most what the limiter allows. -/
lemma countP_le (h : Metered limiter s calls taken) (source : String) (index : ℤ) :
    (timesFor source taken).countP (fun t => decide (⌊t / limiter.windowSeconds⌋ = index)) ≤
      limiter.maxRequests := by
  have hcount := h.counted.count_le source index
  rw [FixedWindowRateLimiter.countInWindow, h.maxRequests] at hcount
  simp only [FixedWindowRateLimiter.windowIndex, h.windowSeconds] at hcount
  refine le_trans (List.Sublist.countP_le ?_) hcount
  exact (h.sublist.filter _).map _

end Metered

/-- A segment of an execution admits nothing, and leaves the limiter alone. -/
lemma Advance.unmetered {cfg : GateConfig Dump} {packet : TransportPacket} {L : Replies (gate Dump)}
    {P : Except PyError TransportPacket → Prop} {tid : ℕ} {w w' : World (gate Dump)}
    {t : Status (gate Dump) TransportPacket} (h : Advance cfg packet L P tid w (t, w')) :
    Unmetered w.state w'.state ∧ ∃ events : List (GateEvent Dump),
      w'.log = w.log ++ events.map (Prod.mk tid) ∧
      events.filterMap GateEvent.admission? = [] := by
  cases h with
  | @waits s events q k hs hevents hk =>
    exact ⟨.of_working hs, events, rfl,
      admission?_eq_nil fun e he => admission?_of_isExecution (hevents e he)⟩
  | @ends s events outcome hs hevents houtcome =>
    refine ⟨(Unmetered.of_working hs).trans (.ended cfg packet outcome s), _, rfl,
      admission?_eq_nil fun e he => ?_⟩
    rcases List.mem_append.1 he with he | he
    · exact admission?_of_isExecution (hevents e he)
    · exact admission?_of_mem_endedEvents he

section Runs

variable {cfg : GateConfig Dump} {P : Except PyError TransportPacket → Prop}
  {L : Replies (gate Dump)}

/-- One move: what it admits is counted. -/
lemma Metered.step {limiter : FixedWindowRateLimiter} {c : Pool (gate Dump) TransportPacket}
    {calls taken : List AllowCall} (h : Metered limiter c.world.state calls taken)
    {m : Move (gate Dump) TransportPacket} (hstep : CallStep cfg L P c m (c.step m))
    (henv : ∀ f, m = .environ f → ∀ s, Unmetered s (f s)) :
    ∃ calls', Metered limiter (c.step m).world.state calls'
      (taken ++ admissionCallsFrom c [m]) := by
  generalize hc' : c.step m = c' at hstep
  cases hstep with
  | @turnedAway validated outcome s events hfresh haway =>
    have hlog : (c.step (.spawn (execute cfg (dispatch cfg) validated))).world.log =
        c.world.log ++ events.map (Prod.mk c.tasks.length) := by
      rw [hc']
      rfl
    rw [admissionCallsFrom_singleton hlog, admittedIn_map]
    exact h.turnedAway haway
  | @begins packet now deadline s t w hfresh hbegins hadvance =>
    obtain ⟨hunmetered, events, hevents, hnone⟩ := hadvance.unmetered
    have hlog : (c.step (.spawn (execute cfg (dispatch cfg) (.ok packet)))).world.log =
        c.world.log ++ (begunEvents packet now deadline ++ events).map
          (Prod.mk c.tasks.length) := by
      rw [hc']
      exact hevents.trans (by simp)
    rw [admissionCallsFrom_singleton hlog, admittedIn_map, List.filterMap_append, hnone]
    obtain ⟨calls', hmetered⟩ := h.begins hbegins
    exact ⟨calls', hmetered.unmetered hunmetered⟩
  | @goesOn i reply packet t w hwaits hstarted hadvance =>
    obtain ⟨hunmetered, events, hevents, hnone⟩ := hadvance.unmetered
    have hlog : (c.step (.resume i reply)).world.log =
        c.world.log ++ events.map (Prod.mk i) := by
      rw [hc']
      exact hevents
    rw [admissionCallsFrom_singleton hlog, admittedIn_map, hnone, List.map_nil, List.append_nil]
    exact ⟨calls, h.unmetered hunmetered⟩
  | @idle i reply hidle =>
    have hlog : (c.step (.resume i reply)).world.log = c.world.log ++ [] := by
      rw [hc', List.append_nil]
    rw [admissionCallsFrom_singleton hlog]
    refine ⟨calls, ?_⟩
    simpa [admittedIn] using h
  | environ f =>
    have hlog : (c.step (.environ f)).world.log = c.world.log ++ [] := by
      rw [hc', List.append_nil]
      rfl
    rw [admissionCallsFrom_singleton hlog]
    refine ⟨calls, ?_⟩
    simpa [admittedIn] using h.unmetered (henv f rfl _)

/-- In every run the limiter has counted what was admitted. -/
lemma metered_run {s : GateState Dump} {ms : List (Move (gate Dump) TransportPacket)}
    (hnew : s.rateLimiter.counters = Dict.empty) (h : ServiceRun cfg anyReply Unmetered ms) :
    ∃ calls, Metered s.rateLimiter ((Pool.init s).run ms).world.state calls
      (admissionCalls s ms) := by
  have hwork : ∀ packet deadline,
      (deadlineWork cfg packet deadline).Ends anyReply fun _ => True :=
    fun _ _ => Co.ends_of_forall (fun _ => trivial) _
  induction ms using List.reverseRecOn with
  | nil => exact ⟨[], rfl, rfl, FixedWindowRateLimiter.counted_new hnew _, List.Sublist.refl _⟩
  | append_singleton ms m ih =>
    obtain ⟨calls, hmetered⟩ := ih h.of_append
    have hkept := (h.of_append.induction (s := s) (motive := fun _ _ => True) hwork trivial
      fun _ _ _ _ _ _ _ => trivial).2
    rw [Pool.run_concat, admissionCalls, admissionCallsFrom_concat]
    refine hmetered.step (hkept.callStep hwork h (by simp)) ?_
    rintro f rfl
    exact h.environ f (by simp)

end Runs

/-- The admissions of a run are those that its log records. -/
lemma map_key_admissionCallsFrom (c : Pool (gate Dump) TransportPacket)
    (ms : List (Move (gate Dump) TransportPacket)) :
    (admittedIn (c.run ms).world.log).map (fun packet => packet.address.sourceNode) =
      (admittedIn c.world.log).map (fun packet => packet.address.sourceNode) ++
        (admissionCallsFrom c ms).map AllowCall.key := by
  induction ms generalizing c with
  | nil => exact (List.append_nil _).symm
  | cons m ms ih =>
    obtain ⟨log', hlog⟩ := c.log_prefix_run [m]
    have hstep : (c.step m).world.log = c.world.log ++ log' := hlog.symm
    rw [Pool.run_cons, ih, admissionCallsFrom, hstep, List.drop_left, admittedIn_append,
      List.map_append, List.map_append, List.map_map, List.append_assoc]
    rfl

/-- Every interleaving of execute calls keeps to the rate limit: in each window of the limiter, at
most `max_requests` packets of a source are admitted, and at most twice as many in any span of that
length, however many calls the source starts, retries or leaves waiting, and whoever else calls. -/
theorem admission_rate {cfg : GateConfig Dump} {s : GateState Dump}
    {ms : List (Move (gate Dump) TransportPacket)} (hnew : s.rateLimiter.counters = Dict.empty)
    (h : ServiceRun cfg anyReply Unmetered ms) :
    (admissionCalls s ms).map AllowCall.key =
        (admittedIn (runLog s ms)).map (fun packet => packet.address.sourceNode) ∧
      ∀ source,
        (∀ index : ℤ, (timesFor source (admissionCalls s ms)).countP
            (fun t => decide (⌊t / s.rateLimiter.windowSeconds⌋ = index)) ≤
          s.rateLimiter.maxRequests) ∧
        ∀ start, (timesFor source (admissionCalls s ms)).inSpan start s.rateLimiter.windowSeconds ≤
          2 * s.rateLimiter.maxRequests := by
  obtain ⟨calls, hmetered⟩ := metered_run hnew h
  refine ⟨(map_key_admissionCallsFrom (Pool.init s) ms).symm, fun source => ?_⟩
  have hwindow := hmetered.countP_le source
  exact ⟨hwindow, fun start =>
    List.inSpan_le_two_mul s.rateLimiter.windowSeconds_pos hwindow start⟩

lemma tens_mono : Monotone fun n : ℕ => (10 * n : ℚ) := by
  intro m n h
  have hcast : (m : ℚ) ≤ n := by exact_mod_cast h
  exact mul_le_mul_of_nonneg_left hcast (by norm_num)

/-- A process whose limiter allows one call a minute, and whose clock shows ten seconds more at
each reading. -/
def meteredState : GateState TransportPacket :=
  { scoringState with
    rateLimiter := FixedWindowRateLimiter.onceAMinute
    monotonic := { reading := fun n => 10 * n, next := 0, mono := tens_mono } }

/-- Three calls of one client. -/
def threeOrders : List (Move (gate TransportPacket) TransportPacket) :=
  [.spawn (execute .plain (dispatch .plain) (.ok (order "first" "score"))),
   .spawn (execute .plain (dispatch .plain) (.ok (order "second" "score"))),
   .spawn (execute .plain (dispatch .plain) (.ok (order "third" "score")))]

lemma threeOrders_run : ServiceRun .plain anyReply Unmetered threeOrders := by
  refine ⟨fun p hp => ?_, fun _ _ _ _ => trivial, fun f hf => ?_⟩
  · simp only [threeOrders, List.mem_cons, Move.spawn.injEq, List.not_mem_nil, or_false] at hp
    rcases hp with rfl | rfl | rfl
    · exact ⟨_, rfl⟩
    · exact ⟨_, rfl⟩
    · exact ⟨_, rfl⟩
  · simp [threeOrders] at hf

/-- In that run two of the three calls are admitted, one in each of two minutes. -/
theorem admission_rate_threeOrders :
    (admittedIn (runLog meteredState threeOrders)).length = 2 ∧
      (timesFor "client" (admissionCalls meteredState threeOrders)).inSpan 0 60 ≤ 2 := by
  obtain ⟨hkeys, hsource⟩ := admission_rate (s := meteredState) rfl threeOrders_run
  refine ⟨?_, (hsource "client").2 0⟩
  have hlength := congrArg List.length hkeys
  rw [List.length_map, List.length_map] at hlength
  rw [← hlength]
  decide +kernel

end ConstellationGate
