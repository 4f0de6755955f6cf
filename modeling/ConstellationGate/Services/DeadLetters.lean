import ConstellationGate.Services.ExitAccounting

/-!
# The dead letters of a run

The dead-letter queue holds the most recent execution failures of a run, in the order in which the
calls have failed (`DeadLettersKept`).  With the exits of the single calls this is the account of
what execute calls leave behind: `execute_accounted`.
-/

namespace ConstellationGate

variable {Dump : Type}

/-! ### The last entries of a list -/

lemma rtake_rtake_concat {α : Type*} (l : List α) (n : ℕ) (a : α) :
    (l.rtake n ++ [a]).rtake n = (l ++ [a]).rtake n := by
  simp only [List.rtake, List.length_append, List.length_drop, List.length_singleton,
    List.drop_append, List.drop_drop]
  congr 2
  · omega
  · omega

lemma forall₂_rtake {α β : Type*} {R : α → β → Prop} {l : List α} {l' : List β}
    (h : List.Forall₂ R l l') (n : ℕ) : List.Forall₂ R (l.rtake n) (l'.rtake n) := by
  rw [List.rtake, List.rtake, h.length_eq]
  exact List.forall₂_drop _ h

/-! ### The failures of a run -/

/-- The failure that an entry of a log reports: the return of an exception by a call that has come
to execute a packet. -/
def reportedFailure (started : ℕ → Option TransportPacket) (e : ℕ × GateEvent Dump) :
    Option (TransportPacket × PyError) :=
  match e.2 with
  | .returned (.error exc) => (started e.1).map fun packet => (packet, exc)
  | _ => none

/-- The execution failures of a run, in order. -/
def executionFailures (log : List (ℕ × GateEvent Dump)) : List (TransportPacket × PyError) :=
  log.filterMap (reportedFailure fun tid => startedPacket tid log)

/-- The entry is the dead letter of a failure. -/
def IsDeadLetterOf (cfg : GateConfig Dump) (entry : DeadLetterEntry Dump)
    (failure : TransportPacket × PyError) : Prop :=
  ∃ now, entry = DeadLetterQueue.entryFor failure.1 (cfg.sdk.dump failure.1) failure.2 now

section Failures

variable {log : List (ℕ × GateEvent Dump)} {events : List (GateEvent Dump)} {tid : ℕ}

/-- What a task that has not returned adds to the failures. -/
lemma executionFailures_append (h : ∀ outcome, (tid, .returned outcome) ∉ log) :
    executionFailures (log ++ events.map (Prod.mk tid)) = executionFailures log ++
      events.filterMap fun e => reportedFailure
        (fun _ => startedPacket tid (log ++ events.map (Prod.mk tid))) (tid, e) := by
  rw [executionFailures, List.filterMap_append, List.filterMap_map]
  congr 1
  refine List.filterMap_congr fun ⟨tid', e⟩ he => ?_
  cases e with
  | returned outcome =>
    cases outcome with
    | ok result => rfl
    | error exc =>
      have hne : tid' ≠ tid := by
        rintro rfl
        exact h _ he
      simp only [reportedFailure, startedPacket_append_of_ne hne]
  | _ => rfl

/-- Events without a return report no failure. -/
lemma filterMap_reportedFailure_eq_nil (started : ℕ → Option TransportPacket)
    (h : ∀ e ∈ events, e.isExecution = true) :
    events.filterMap (fun e => reportedFailure started (tid, e)) = [] := by
  refine List.filterMap_eq_nil_iff.2 fun e he => ?_
  have hexecution := h e he
  cases e <;> first | rfl | cases hexecution

/-- Of a call that has not come to its execution no failure is reported. -/
lemma filterMap_reportedFailure_of_none {started : ℕ → Option TransportPacket}
    (h : started tid = none) :
    events.filterMap (fun e => reportedFailure started (tid, e)) = [] := by
  refine List.filterMap_eq_nil_iff.2 fun e _ => ?_
  cases e with
  | returned outcome => cases outcome <;> simp [reportedFailure, h]
  | _ => rfl

/-- The end of an execution reports its failure. -/
lemma filterMap_reportedFailure_ended (cfg : GateConfig Dump) (packet : TransportPacket)
    (outcome : Except PyError TransportPacket) (s : GateState Dump)
    {started : ℕ → Option TransportPacket} (h : started tid = some packet) :
    (endedEvents cfg packet outcome s).filterMap (fun e => reportedFailure started (tid, e)) =
      match outcome with
      | .ok _ => []
      | .error e => [(packet, e)] := by
  cases outcome with
  | error e => simp [endedEvents, settledEvents, reportedFailure, h]
  | ok result =>
    rw [endedEvents, settledEvents]
    split
    · split
      · rfl
      · rfl
    · rfl

end Failures

/-! ### Along a run -/

/-- The queue holds the last of the failures of the run, and the calls that wait have not
returned. -/
structure DeadLettersKept (cfg : GateConfig Dump) (limit : ℕ)
    (c : Pool (gate Dump) TransportPacket) : Prop where
  maxEntries : c.world.state.deadLetterQueue.maxEntries = limit
  entries : List.Forall₂ (IsDeadLetterOf cfg) c.world.state.deadLetterQueue.entries
    ((executionFailures c.world.log).rtake limit)
  unreturned : ∀ tid ∈ waitingTasks c.tasks, ∀ outcome, (tid, .returned outcome) ∉ c.world.log

lemma TurnedAway.deadLetterQueue {cfg : GateConfig Dump} {s s' : GateState Dump}
    {validated outcome : Except PyError TransportPacket} {events : List (GateEvent Dump)}
    (h : TurnedAway cfg s validated s' events outcome) :
    s'.deadLetterQueue = s.deadLetterQueue ∧ events.findSome? GateEvent.started? = none := by
  cases h with
  | invalid e => exact ⟨rfl, rfl⟩
  | refused hrefused => exact ⟨(unaffected_of_refused hrefused).deadLetterQueue, rfl⟩
  | cached hadmitted hfound => exact ⟨(unaffected_of_found hadmitted hfound).deadLetterQueue, rfl⟩
  | @replayed packet now e s₂ s₃ hmisses hguard =>
    have hasked := (asked_of_misses hmisses).1.deadLetterQueue
    rw [hguard] at hasked
    exact ⟨hasked, rfl⟩
  | @unstarted packet now e s₂ s₃ s₄ hmisses hguard hdeadline =>
    have hasked := (asked_of_misses hmisses).1.deadLetterQueue
    rw [hguard] at hasked
    obtain rfl : (startDeadline cfg packet s₃).2 = s₄ := by rw [hdeadline]
    exact ⟨hasked, rfl⟩

namespace DeadLettersKept

variable {cfg : GateConfig Dump} {limit : ℕ} {c : Pool (gate Dump) TransportPacket} {tid : ℕ}
  {s : GateState Dump} {events : List (GateEvent Dump)} {packet : TransportPacket}
  {ts : List (Status (gate Dump) TransportPacket)}

/-- A segment that reports no failure and puts nothing into the queue. -/
lemma quiet (h : DeadLettersKept cfg limit c)
    (htid : ∀ outcome, (tid, .returned outcome) ∉ c.world.log)
    (hs : s.deadLetterQueue = c.world.state.deadLetterQueue)
    (hevents : events.filterMap (fun e => reportedFailure (fun _ => startedPacket tid
      (c.world.log ++ events.map (Prod.mk tid))) (tid, e)) = [])
    (hts : ∀ i ∈ waitingTasks ts, ∀ outcome,
      (i, .returned outcome) ∉ c.world.log ++ events.map (Prod.mk tid)) :
    DeadLettersKept cfg limit ⟨worldAfter c.world tid s events, ts⟩ := by
  refine ⟨?_, ?_, hts⟩
  · rw [worldAfter_state, hs, h.maxEntries]
  · rw [worldAfter_state, worldAfter_log, hs, executionFailures_append htid, hevents,
      List.append_nil]
    exact h.entries

/-- A segment that reports one failure and puts its dead letter into the queue. -/
lemma put (h : DeadLettersKept cfg limit c) {e : PyError} {now : ℚ}
    (htid : ∀ outcome, (tid, .returned outcome) ∉ c.world.log)
    (hs : s.deadLetterQueue =
      c.world.state.deadLetterQueue.put packet (cfg.sdk.dump packet) e now)
    (hevents : events.filterMap (fun e => reportedFailure (fun _ => startedPacket tid
      (c.world.log ++ events.map (Prod.mk tid))) (tid, e)) = [(packet, e)])
    (hts : ∀ i ∈ waitingTasks ts, ∀ outcome,
      (i, .returned outcome) ∉ c.world.log ++ events.map (Prod.mk tid)) :
    DeadLettersKept cfg limit ⟨worldAfter c.world tid s events, ts⟩ := by
  have hput : s.deadLetterQueue.entries = (c.world.state.deadLetterQueue.entries ++
      [DeadLetterQueue.entryFor packet (cfg.sdk.dump packet) e now]).rtake limit := by
    rw [hs, ← h.maxEntries]
    rfl
  refine ⟨?_, ?_, hts⟩
  · rw [worldAfter_state, hs, ← h.maxEntries]
    rfl
  · rw [worldAfter_state, worldAfter_log, hput, executionFailures_append htid, hevents,
      ← rtake_rtake_concat (executionFailures c.world.log)]
    have hletters : List.Forall₂ (IsDeadLetterOf cfg)
        (c.world.state.deadLetterQueue.entries ++
          [DeadLetterQueue.entryFor packet (cfg.sdk.dump packet) e now])
        ((executionFailures c.world.log).rtake limit ++ [(packet, e)]) :=
      List.rel_append h.entries (.cons ⟨now, rfl⟩ .nil)
    exact forall₂_rtake hletters limit

/-- The segment in which an execution ends. -/
lemma ended (h : DeadLettersKept cfg limit c)
    (htid : ∀ outcome, (tid, .returned outcome) ∉ c.world.log)
    (hs : s.deadLetterQueue = c.world.state.deadLetterQueue)
    {outcome : Except PyError TransportPacket} (houtcome : OnlyExceptions outcome)
    (hstarted : startedPacket tid (c.world.log ++
      (events ++ endedEvents cfg packet outcome s).map (Prod.mk tid)) = some packet)
    (hevents : events.filterMap
      (fun e => reportedFailure (fun _ => some packet) (tid, e)) = [])
    (hts : ∀ i ∈ waitingTasks ts, i ∈ waitingTasks c.tasks ∧ i ≠ tid) :
    DeadLettersKept cfg limit ⟨worldAfter c.world tid (ConstellationGate.ended cfg packet outcome s)
      (events ++ endedEvents cfg packet outcome s), ts⟩ := by
  have hunreturned : ∀ i ∈ waitingTasks ts, ∀ outcome', (i, .returned outcome') ∉
      c.world.log ++ (events ++ endedEvents cfg packet outcome s).map (Prod.mk tid) := by
    intro i hi outcome' hmem
    rcases Pool.mem_log_of_append (S := gate Dump) hmem with hmem | ⟨heq, -⟩
    · exact h.unreturned i (hts i hi).1 outcome' hmem
    · exact (hts i hi).2 heq
  cases outcome with
  | ok result =>
    have hqueue := (successEnding_ended cfg packet result s).deadLetterQueue
    refine h.quiet htid (hqueue.trans hs) ?_ hunreturned
    rw [hstarted, List.filterMap_append, hevents,
      filterMap_reportedFailure_ended cfg packet _ s rfl]
    rfl
  | error e =>
    have hqueue := (failureEnding_ended cfg packet (houtcome e rfl) s).deadLetterQueue
    rw [hs] at hqueue
    refine h.put htid hqueue ?_ hunreturned
    rw [hstarted, List.filterMap_append, hevents,
      filterMap_reportedFailure_ended cfg packet _ s rfl]
    rfl

/-- A segment after which the call waits. -/
lemma waits (h : DeadLettersKept cfg limit c)
    (htid : ∀ outcome, (tid, .returned outcome) ∉ c.world.log)
    (hs : s.deadLetterQueue = c.world.state.deadLetterQueue)
    (hevents : ∀ outcome, .returned outcome ∉ events)
    (hts : ∀ i ∈ waitingTasks ts, i ∈ waitingTasks c.tasks ∨ i = tid) :
    DeadLettersKept cfg limit ⟨worldAfter c.world tid s events, ts⟩ := by
  refine h.quiet htid hs ?_ ?_
  · refine List.filterMap_eq_nil_iff.2 fun e he => ?_
    cases e with
    | returned outcome => exact absurd he (hevents outcome)
    | _ => rfl
  · intro i hi outcome hmem
    rcases Pool.mem_log_of_append (S := gate Dump) hmem with hlog | ⟨-, hin⟩
    · rcases hts i hi with hold | rfl
      · exact h.unreturned i hold outcome hlog
      · exact htid outcome hlog
    · exact hevents outcome hin

/-- One move keeps the queue. -/
lemma step {L : Replies (gate Dump)} {c' : Pool (gate Dump) TransportPacket}
    {m : Move (gate Dump) TransportPacket} (h : DeadLettersKept cfg limit c)
    (hstep : CallStep cfg L OnlyExceptions c m c')
    (henviron : ∀ f, m = .environ f → ∀ s, (f s).deadLetterQueue = s.deadLetterQueue) :
    DeadLettersKept cfg limit c' := by
  have hwork : ∀ {events : List (GateEvent Dump)}, (∀ e ∈ events, e.isExecution = true) →
      ∀ outcome, .returned outcome ∉ events := fun hevents outcome hmem => by
    cases hevents _ hmem
  cases hstep with
  | @turnedAway validated outcome s events hfresh haway =>
    obtain ⟨hs, hnone⟩ := haway.deadLetterQueue
    have hstarted : startedPacket c.tasks.length
        (c.world.log ++ events.map (Prod.mk c.tasks.length)) = none := by
      rw [startedPacket_append_fresh hfresh, hnone]
    refine h.quiet (fun _ => hfresh _) hs (filterMap_reportedFailure_of_none hstarted)
      fun i hi outcome' hmem => ?_
    rw [waitingTasks_append_finished] at hi
    rcases Pool.mem_log_of_append (S := gate Dump) hmem with hlog | ⟨rfl, -⟩
    · exact h.unreturned i hi outcome' hlog
    · exact lt_irrefl _ (lt_length_of_mem_waitingTasks hi)
  | @begins packet now deadline s t w hfresh hbegins hadvance =>
    have hbegun := (begun_of_begins hbegins).1.deadLetterQueue
    cases hadvance with
    | waits hs hevents hk =>
      rw [worldAfter_worldAfter]
      refine h.waits (fun _ => hfresh _) (hs.deadLetterQueue.trans hbegun) (fun outcome hmem => ?_)
        fun j hj => ?_
      · rcases List.mem_append.1 hmem with hmem | hmem
        · simp [begunEvents] at hmem
        · exact hwork hevents outcome hmem
      · rw [waitingTasks_append_waiting] at hj
        exact (Set.mem_insert_iff.1 hj).symm
    | @ends s₂ events outcome hs hevents houtcome =>
      rw [worldAfter_worldAfter, ← List.append_assoc]
      refine h.ended (fun _ => hfresh _) (hs.deadLetterQueue.trans hbegun) houtcome ?_ ?_
        fun j hj => ?_
      · rw [startedPacket_append_fresh hfresh, List.append_assoc, begunEvents]
        rfl
      · rw [List.filterMap_append, filterMap_reportedFailure_eq_nil _ hevents]
        rfl
      · rw [waitingTasks_append_finished] at hj
        exact ⟨hj, (lt_length_of_mem_waitingTasks hj).ne⟩
  | @goesOn i reply packet t w hwaits hstarted hadvance =>
    have htid := h.unreturned i hwaits
    cases hadvance with
    | waits hs hevents hk =>
      refine h.waits htid hs.deadLetterQueue (hwork hevents) fun j hj => Or.inl ?_
      rwa [waitingTasks_set_waiting hwaits] at hj
    | ends hs hevents houtcome =>
      refine h.ended htid hs.deadLetterQueue houtcome (startedPacket_append hstarted _)
        (filterMap_reportedFailure_eq_nil _ hevents) fun j hj => ?_
      rw [waitingTasks_set_finished] at hj
      exact hj
  | idle reply hidle => exact h
  | environ f =>
    refine ⟨?_, ?_, h.unreturned⟩
    · rw [World.put_state, henviron f rfl, h.maxEntries]
    · rw [World.put_state, henviron f rfl]
      exact h.entries

end DeadLettersKept

/-- The queue is kept along every run. -/
lemma deadLettersKept {cfg : GateConfig Dump} {s : GateState Dump}
    {ms : List (Move (gate Dump) TransportPacket)}
    (h : ServiceRun cfg uncancelled (fun s s' => s'.deadLetterQueue = s.deadLetterQueue) ms)
    (hcfg : RaisesExceptions cfg) (hempty : s.deadLetterQueue.entries = []) :
    DeadLettersKept cfg s.deadLetterQueue.maxEntries ((Pool.init s).run ms) := by
  refine (h.induction (ends_deadlineWork hcfg)
    (motive := fun _ c => DeadLettersKept cfg s.deadLetterQueue.maxEntries c) ⟨rfl, ?_, ?_⟩
    fun ms m c c' hkept hstep henv => hkept.step hstep henv).1
  · simp [Pool.init, hempty, executionFailures]
  · rintro tid ⟨q, k, hget⟩
    cases hget

/-- In every run of execute calls that nobody cancels, each call that has ended has ended in
exactly one way, with the effects that belong to it, if and only if it has not come to its deadline
without a budget; and each call that is always answered ends.  The dead-letter queue holds, in
order, the last of the execution failures, as many as it has room for. -/
theorem execute_accounted_iff {cfg : GateConfig Dump} {s : GateState Dump}
    {ms : List (Move (gate Dump) TransportPacket)}
    (h : ServiceRun cfg uncancelled (fun s s' => s'.deadLetterQueue = s.deadLetterQueue) ms)
    (hcfg : RaisesExceptions cfg) :
    (∀ pre validated outcome, pre ++ [.spawn (execute cfg (dispatch cfg) validated)] <+: ms →
      ((Pool.init s).run ms).tasks[((Pool.init s).run pre).tasks.length]? =
        some (.finished outcome) →
      ((∃! way, Exits cfg validated outcome
          ((Pool.init s).segmentsOf ((Pool.init s).run pre).tasks.length ms) way) ↔
        ComesWithBudget cfg validated ((Pool.init s).run pre).world.state)) ∧
    (∀ tid t, ((Pool.init s).run ms).tasks[tid]? = some t →
      ∀ reply : ℕ → ∀ q : GateRequest, Except PyError q.Reply,
        ∃ n outcome, (((Pool.init s).run ms).run
          ((List.range n).map fun j => .resume tid (reply j))).tasks[tid]? =
            some (.finished outcome)) ∧
    (s.deadLetterQueue.entries = [] →
      List.Forall₂ (IsDeadLetterOf cfg) ((Pool.init s).run ms).world.state.deadLetterQueue.entries
        ((executionFailures (runLog s ms)).rtake s.deadLetterQueue.maxEntries)) := by
  refine ⟨?_, fun tid t hget reply => ?_, fun hempty => (deadLettersKept h hcfg hempty).entries⟩
  · rintro pre validated outcome ⟨ms', rfl⟩ hget
    obtain ⟨t, hget', hkept⟩ := exitKept_run (s := s) hcfg pre h
    obtain rfl := Option.some.inj (hget'.symm.trans hget)
    rw [← show _ ↔ _ from hkept]
    constructor
    · rintro ⟨way, hexits, -⟩
      exact ⟨way, hexits⟩
    · rintro ⟨way, hexits⟩
      exact ⟨way, hexits, fun way' hexits' => hexits.unique hexits'⟩
  · -- the rest of a task is a program of its own
    cases t with
    | finished outcome =>
      exact Pool.exists_finished (.done outcome) _ ((Pool.init s).run ms).world hget reply
    | waiting q k =>
      exact Pool.exists_finished (.await q k) _ ((Pool.init s).run ms).world hget reply

/-- The plain settings satisfy the hypotheses on the collaborators. -/
lemma raisesExceptions_plain : RaisesExceptions .plain where
  derive _ _ _ := .ok _
  withHop _ _ := .ok _
  makeIngressHop _ _ _ _ := .ok _
  makeDispatchHop _ _ _ _ _ := .ok _
  evaluate _ _ := .ok _

/-- A call whose worker cannot be reached. -/
def unreachedOrder : List (Move (gate TransportPacket) TransportPacket) :=
  [.spawn (execute .plain (dispatch .plain) (.ok (order "first" "score"))),
    .resume 0 fun _ => .error { cls := .workerConnectionError }]

lemma unreachedOrder_run :
    ServiceRun .plain uncancelled (fun s s' => s'.deadLetterQueue = s.deadLetterQueue)
      unreachedOrder := by
  refine ⟨fun p hp => ?_, fun i reply hr q => ?_, fun f hf => ?_⟩
  · simp only [unreachedOrder, List.mem_cons, Move.spawn.injEq, reduceCtorEq, List.not_mem_nil,
      or_false] at hp
    exact ⟨_, hp⟩
  · simp only [unreachedOrder, List.mem_cons, Move.resume.injEq, reduceCtorEq, List.not_mem_nil,
      or_false, false_or] at hr
    rw [hr.2]
    exact Failing.error (Or.inl rfl)
  · simp [unreachedOrder] at hf

/-- That call ends in one way, and its dead letter is in the queue. -/
theorem execute_accounted_iff_unreachedOrder :
    (∃ outcome, ∃! way, Exits .plain (.ok (order "first" "score")) outcome
      ((Pool.init scoringState).segmentsOf 0 unreachedOrder) way) ∧
    List.Forall₂ (IsDeadLetterOf .plain)
      ((Pool.init scoringState).run unreachedOrder).world.state.deadLetterQueue.entries
      ((executionFailures (runLog scoringState unreachedOrder)).rtake 1000) ∧
    ((Pool.init scoringState).run unreachedOrder).world.state.deadLetterQueue.entries.length =
      1 := by
  obtain ⟨hexits, -, hletters⟩ :=
    execute_accounted_iff (s := scoringState) unreachedOrder_run raisesExceptions_plain
  refine ⟨?_, hletters rfl, by decide +kernel⟩
  have hended : (((Pool.init scoringState).run unreachedOrder).tasks[0]?.bind
      Status.outcome?).isSome = true := by
    decide +kernel
  have hbudgets : GateConfig.plain.timeoutPolicy.Budgets (order "first" "score") := by
    decide +kernel
  rcases hget : ((Pool.init scoringState).run unreachedOrder).tasks[0]? with _ | (outcome | ⟨q, k⟩)
  · rw [hget] at hended
    cases hended
  · exact ⟨outcome, (hexits [] _ outcome (List.prefix_append [_] [_]) hget).2
      (comesWithBudget_of_budgets hbudgets _)⟩
  · rw [hget] at hended
    cases hended

/-- An order that may take `10 ^ 309` milliseconds. -/
def endlessOrder : TransportPacket :=
  let packet := order "first" "score"
  { packet with header := { packet.header with timeoutMs := some (10 ^ 309) } }

/-- The order is sent, and sent again. -/
def endlessOrders : List (Move (gate TransportPacket) TransportPacket) :=
  [.spawn (execute .plain (dispatch .plain) (.ok endlessOrder)),
    .spawn (execute .plain (dispatch .plain) (.ok endlessOrder))]

lemma endlessOrders_run :
    ServiceRun .plain uncancelled (fun s s' => s'.deadLetterQueue = s.deadLetterQueue)
      endlessOrders := by
  refine ⟨fun p hp => ?_, fun i reply hr => ?_, fun f hf => ?_⟩
  · simp only [endlessOrders, List.mem_cons, Move.spawn.injEq, List.not_mem_nil, or_false,
      or_self] at hp
    exact ⟨_, hp⟩
  · simp [endlessOrders] at hr
  · simp [endlessOrders] at hf

/-- Its budget is no float.  The call fails after the replay guard has recorded the packet, which is
refused as a replay from then on; and it ends in none of the ways. -/
theorem execute_accounted_iff_endlessOrder :
    ((Pool.init scoringState).run endlessOrders).tasks.map Status.exception? =
      [some { cls := .overflowError, message := "int too large to convert to float" },
        some { cls := .valueError, message := "replay detected" }] ∧
    ¬ ∃ way, Exits .plain (.ok endlessOrder)
      (.error { cls := .overflowError, message := "int too large to convert to float" })
      ((Pool.init scoringState).segmentsOf 0 endlessOrders) way := by
  have hraised : ((Pool.init scoringState).run endlessOrders).tasks.map Status.exception? =
      [some { cls := .overflowError, message := "int too large to convert to float" },
        some { cls := .valueError, message := "replay detected" }] := by
    decide +kernel
  refine ⟨hraised, fun hexits => ?_⟩
  have hrun : ServiceRun .plain uncancelled (fun s s' => s'.deadLetterQueue = s.deadLetterQueue)
      ([] ++ [.spawn (execute .plain (dispatch .plain) (.ok endlessOrder))] ++
        endlessOrders.drop 1) := endlessOrders_run
  obtain ⟨t, hget, hkept⟩ := exitKept_run (s := scoringState) raisesExceptions_plain [] hrun
  have hfirst : t.exception? =
      some { cls := .overflowError, message := "int too large to convert to float" } := by
    have hmap := congrArg (fun l => l[0]?) hraised
    rw [List.getElem?_map] at hmap
    rw [show ((Pool.init scoringState).run endlessOrders).tasks[0]? = some t from hget] at hmap
    exact Option.some.inj hmap
  obtain rfl := Status.exception?_eq_some.1 hfirst
  have hpasses : PassesGuard .plain endlessOrder scoringState := by decide +kernel
  have hover : ¬ GateConfig.plain.timeoutPolicy.Budgets endlessOrder := by decide +kernel
  exact hover ((show _ ↔ _ from hkept).1 hexits endlessOrder rfl hpasses)

end ConstellationGate
