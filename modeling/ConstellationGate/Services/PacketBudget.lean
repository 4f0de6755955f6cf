import ConstellationGate.Services.CallTrace

/-!
# One budget per packet

An execute call turns the budget of its packet into one deadline.  Every packet that it
derives for a worker, in any attempt and at any step of a workflow, carries a timeout that
ends before this deadline when it is counted from the clock reading from which it was
computed; and a dispatch that would have no time left does nothing.
-/

namespace ConstellationGate

variable {Dump : Type}

/-- An attempt with a deadline ends before it. -/
lemma Budgeted.bounds {d : Deadline} {reading : ℚ} {target : NodeRegistration} {n : ℕ}
    (h : Budgeted (some (d, reading)) target n) :
    n ≤ target.timeoutMs ∧ reading + n / 1000 ≤ d.finish := by
  have heq : (n : ℤ) = min ⌊d.remainingSeconds reading * 1000⌋ target.timeoutMs := h.eq
  refine ⟨by omega, d.add_le_finish reading ?_ ?_⟩
  · have hpos : (0 : ℚ) < n := by exact_mod_cast h.pos
    positivity
  · have hfloor : (n : ℤ) ≤ ⌊d.remainingSeconds reading * 1000⌋ := by omega
    have hle : (n : ℚ) ≤ d.remainingSeconds reading * 1000 := by
      exact_mod_cast Int.le_floor.1 hfloor
    linarith

/-- With a margin that the budget can afford, the budget is the advertised one less the margin. -/
lemma TimeoutPolicy.budgetMs_of_margin {policy : TimeoutPolicy} {packet : TransportPacket}
    (hmargin : 0 < policy.responseMarginMs)
    (hafford : 2 * policy.responseMarginMs < policy.advertisedMs packet) :
    (policy.budgetMs packet : ℚ) = policy.advertisedMs packet - policy.responseMarginMs := by
  have hbudget : policy.budgetMs packet = policy.advertisedMs packet - policy.responseMarginMs := by
    simp only [budgetMs]
    rw [if_pos ⟨by omega, hafford⟩]
  rw [hbudget, Nat.cast_sub (by omega)]

section Runs

variable {cfg : GateConfig Dump} {ttl : ℚ} {log : List (ℕ × GateEvent Dump)} {tid : ℕ}

/-- A call starts one deadline. -/
lemma deadlineStarted_unique (h : Verified (CallJustified cfg ttl) log)
    {packet packet' : TransportPacket} {deadline deadline' : Deadline}
    (hd : (tid, .deadlineStarted packet deadline) ∈ log)
    (hd' : (tid, .deadlineStarted packet' deadline') ∈ log) :
    packet' = packet ∧ deadline' = deadline := by
  have hfirst : ∀ {before : List (ℕ × GateEvent Dump)} {p p' : TransportPacket} {d d' : Deadline},
      (tid, .deadlineStarted p d) ∈ before →
      ¬ CallJustified cfg ttl before tid (.deadlineStarted p' d') := by
    rintro before p p' d d' hmem ⟨⟨now, hevents⟩, -⟩
    have hin := mem_eventsIn.2 hmem
    rw [hevents] at hin
    simp at hin
  rcases h.split_pair hd hd' with heq | ⟨before, -, hmem, hj⟩ | ⟨before, -, hmem, hj⟩
  · simp only [Prod.mk.injEq, GateEvent.deadlineStarted.injEq, true_and] at heq
    exact ⟨heq.1.symm, heq.2.symm⟩
  · exact absurd hj (hfirst hmem)
  · exact absurd hj (hfirst hmem)

lemma Running.deadlineStarted_mem {packet : TransportPacket} {deadline : Deadline}
    (h : Running packet deadline (eventsIn tid log)) :
    (tid, .deadlineStarted packet deadline) ∈ log := by
  obtain ⟨now, work, hevents, -⟩ := h
  refine mem_eventsIn.1 ?_
  rw [hevents]
  simp

end Runs

/-- A packet that a call derives for a worker keeps within the budget of the call's packet. -/
structure WithinBudget (cfg : GateConfig Dump) (packet : TransportPacket) (deadline : Deadline)
    (budget : Option (Deadline × ℚ)) (target : NodeRegistration) (d : ℕ) (reading : ℚ) : Prop where
  budget_eq : budget = some (deadline, reading)
  pos : 1 ≤ d
  le_node : d ≤ target.timeoutMs
  ends : reading + d / 1000 ≤ deadline.startedAt + cfg.timeoutPolicy.budgetMs packet / 1000
  ends_margin : 0 < cfg.timeoutPolicy.responseMarginMs →
    2 * cfg.timeoutPolicy.responseMarginMs < cfg.timeoutPolicy.advertisedMs packet →
    reading + d / 1000 ≤ deadline.startedAt +
      (cfg.timeoutPolicy.advertisedMs packet - cfg.timeoutPolicy.responseMarginMs) / 1000

/-- Every packet derived during a call keeps within the one budget of the call. -/
lemma derived_within_budget {cfg : GateConfig Dump} {s : GateState Dump}
    {ms : List (Move (gate Dump) TransportPacket)} (h : CallRun cfg s ms) {tid : ℕ}
    {budget : Option (Deadline × ℚ)} {target : NodeRegistration} {p : TransportPacket}
    (hderived : (tid, .derived budget target p) ∈ runLog s ms) :
    ∃ packet deadline,
      (∀ packet' deadline', (tid, .deadlineStarted packet' deadline') ∈
        runLog s ms ↔ packet' = packet ∧ deadline' = deadline) ∧
      ∃ d reading, p.header.timeoutMs = some d ∧
        WithinBudget cfg packet deadline budget target d reading := by
  obtain ⟨hverified, -⟩ := calls_verified h
  generalize runLog s ms = log at hverified hderived
  obtain ⟨before, after, hlog⟩ := List.append_of_mem hderived
  obtain ⟨packet, deadline, hrunning, hattempt⟩ := hverified _ _ _ _ hlog
  have hstarted : (tid, .deadlineStarted packet deadline) ∈ log := by
    rw [hlog]
    exact List.mem_append_left _ hrunning.deadlineStarted_mem
  refine ⟨packet, deadline,
    fun packet' deadline' => ⟨deadlineStarted_unique hverified hstarted, ?_⟩,
    ?_⟩
  · rintro ⟨rfl, rfl⟩
    exact hstarted
  -- the total of the deadline is the budget of the packet
  obtain ⟨before', after', hlog'⟩ := List.append_of_mem hstarted
  obtain ⟨-, htotal⟩ := hverified _ _ _ _ hlog'
  obtain ⟨d, hd, hbudgeted⟩ := hattempt.timeoutMs
  obtain ⟨⟨deadline', reading⟩, hbudget, hdeadline⟩ := Option.map_eq_some_iff.1 hattempt.deadline_eq
  obtain rfl : deadline' = deadline := hdeadline
  subst hbudget
  obtain ⟨hnode, hends⟩ := hbudgeted.bounds
  rw [Deadline.finish, htotal] at hends
  refine ⟨d, reading, hd, rfl, hbudgeted.pos, hnode, hends, fun hmargin hafford => ?_⟩
  rwa [TimeoutPolicy.budgetMs_of_margin hmargin hafford] at hends

/-! ### No time left -/

/-- A budget is refused for lack of time only. -/
lemma deadlineExceeded_of_workerBudgetMs {target : NodeRegistration} {deadline : Deadline}
    {clock clock' : MonotonicClock} {e : PyError}
    (h : workerBudgetMs target.timeoutMs (some deadline) clock = (.error e, clock')) :
    e.cls = .deadlineExceeded := by
  unfold workerBudgetMs at h
  simp only at h
  -- it raises when the deadline is over, or when what is left rounds to no millisecond
  split at h
  · rename_i hexpired
    obtain rfl := Except.error.inj (Prod.mk.inj h).1
    unfold Deadline.raiseIfExpired at hexpired
    split at hexpired
    · rw [← Except.error.inj hexpired]
    · cases hexpired
  split at h
  · rename_i hbounded
    unfold Deadline.boundedBy at hbounded
    simp only at hbounded
    split at hbounded
    · -- the timeout of a node is positive
      rename_i hcap
      have hpos : (1 : ℚ) ≤ target.timeoutMs := by exact_mod_cast target.one_le_timeoutMs
      linarith
    · cases hbounded
  · have herr := (Prod.mk.inj h).1
    unfold budgetInMs at herr
    simp only at herr
    split at herr
    · rw [← Except.error.inj herr]
    · cases herr

/-- A dispatch for which no positive number of milliseconds is left raises, and has only read
the clock. -/
lemma dispatch_exceeded {cfg : GateConfig Dump} {packet : TransportPacket} {deadline : Deadline}
    {tid : ℕ} {w : World (gate Dump)} {target : NodeRegistration}
    (htarget : resolvePacket w.state.registry cfg.gateNode packet = .ok target)
    (hnone : ∀ d : ℕ, 1 ≤ d → d ≤ target.timeoutMs →
      ¬ w.state.monotonic.tick.now + d / 1000 ≤ deadline.finish) :
    ∃ e clock, (dispatch cfg packet (some deadline)).segment tid w =
        (.finished (.error e), w.put { w.state with monotonic := clock }) ∧
      e.cls = .deadlineExceeded := by
  rcases hbudget : workerBudgetMs target.timeoutMs (some deadline) w.state.monotonic with
    ⟨e | n, clock⟩
  · refine ⟨e, clock, ?_, deadlineExceeded_of_workerBudgetMs hbudget⟩
    refine Co.segment_bind_call_error ?_
    simp only [derivePacket, htarget, hbudget]
  · have hbudgeted := budgeted_of_workerBudgetMs hbudget
    exact absurd hbudgeted.bounds.2 (hnone n hbudgeted.pos hbudgeted.bounds.1)

/-- One budget per packet.  In every interleaved run of execute calls, with every
non-decreasing clock, each packet derived for a worker during a call carries a timeout that
keeps within the one deadline of the call; and where no positive timeout does, a dispatch
raises `DeadlineExceeded` before it derives a packet, takes a permit or counts a request. -/
theorem one_budget_per_packet (cfg : GateConfig Dump) :
    (∀ s ms, CallRun cfg s ms → ∀ tid budget target p,
      (tid, .derived budget target p) ∈ runLog s ms →
      ∃ packet deadline,
        (∀ packet' deadline', (tid, .deadlineStarted packet' deadline') ∈
          runLog s ms ↔ packet' = packet ∧ deadline' = deadline) ∧
        ∃ d reading, p.header.timeoutMs = some d ∧
          WithinBudget cfg packet deadline budget target d reading) ∧
    ∀ packet deadline tid (w : World (gate Dump)) target,
      resolvePacket w.state.registry cfg.gateNode packet = .ok target →
      (∀ d : ℕ, 1 ≤ d → d ≤ target.timeoutMs →
        ¬ w.state.monotonic.tick.now + d / 1000 ≤ deadline.finish) →
      ∃ e clock, (dispatch cfg packet (some deadline)).segment tid w =
          (.finished (.error e), w.put { w.state with monotonic := clock }) ∧
        e.cls = .deadlineExceeded :=
  ⟨fun _ _ h _ _ _ _ hderived => derived_within_budget h hderived,
    fun _ _ _ _ _ htarget hnone => dispatch_exceeded htarget hnone⟩

lemma one_second_pos : (0 : ℚ) < 1 := by norm_num

/-- A deadline of one second that began two seconds ago. -/
def spentDeadline : Deadline := ⟨1, -2, one_second_pos⟩

/-- The packet of a call, and a dispatch that comes too late. -/
theorem one_budget_per_packet_servedOrder :
    (∃ budget target p packet deadline d reading,
      (0, .derived budget target p) ∈ runLog scoringState servedOrder ∧
        p.header.timeoutMs = some d ∧
        WithinBudget .plain packet deadline budget target d reading) ∧
    ∃ e clock, (dispatch .plain (order "first" "score") (some spentDeadline)).segment 0
        (⟨scoringState, []⟩ : World (gate TransportPacket)) =
          (.finished (.error e), ⟨{ scoringState with monotonic := clock }, []⟩) ∧
      e.cls = .deadlineExceeded := by
  constructor
  · have hderived : (runLog scoringState servedOrder).any (fun
        | (0, .derived _ _ _) => true
        | _ => false) = true := by
      decide +kernel
    obtain ⟨e, he, hcheck⟩ := List.any_eq_true.1 hderived
    split at hcheck
    swap
    · cases hcheck
    rename_i budget target p
    obtain ⟨packet, deadline, -, d, reading, hd, hwithin⟩ :=
      (one_budget_per_packet .plain).1 _ _ servedOrder_run 0 budget target p he
    exact ⟨budget, target, p, packet, deadline, d, reading, he, hd, hwithin⟩
  · have hresolve : (resolvePacket scoringState.registry GateConfig.plain.gateNode
        (order "first" "score")).toOption.any (fun _ => true) = true := by
      decide +kernel
    obtain ⟨target, htarget, -⟩ := exists_ok_of_any hresolve
    refine (one_budget_per_packet .plain).2 _ spentDeadline 0 ⟨scoringState, []⟩ target htarget
      fun d hd _ hends => ?_
    change (0 : ℚ) + d / 1000 ≤ -2 + 1 at hends
    have hpos : (0 : ℚ) ≤ d / 1000 := by positivity
    linarith

end ConstellationGate
