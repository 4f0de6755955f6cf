import ConstellationGate.Services.CallSegments
import Mathlib.Data.Set.Card

/-!
# Requests in flight

`ExecuteService._in_flight_requests` counts the calls that have been admitted and have not
returned, whatever the calls end in, so that load shedding sheds a call exactly when the limit is
reached by others (`inFlight_accounted`).

A call is admitted and counted in its first segment; it is counted off in the segment in which it
returns.  So the calls in progress are the tasks that wait, and each segment moves the counter
with them.
-/

namespace ConstellationGate

variable {Dump : Type}

/-- The calls that have passed admission and have not returned. -/
def inProgress (log : List (ℕ × GateEvent Dump)) : Set ℕ :=
  {tid | (∃ packet, (tid, .admitted packet) ∈ log) ∧ ∀ outcome, (tid, .returned outcome) ∉ log}

/-! ### What a segment adds -/

section Append

variable {log : List (ℕ × GateEvent Dump)} {events : List (GateEvent Dump)} {i : ℕ}

lemma mem_append_iff {tid : ℕ} {e : GateEvent Dump} :
    (tid, e) ∈ log ++ events.map (Prod.mk i) ↔ (tid, e) ∈ log ∨ tid = i ∧ e ∈ events := by
  refine ⟨Pool.mem_log_of_append (S := gate Dump), ?_⟩
  rintro (h | ⟨rfl, h⟩)
  · exact List.mem_append_left _ h
  · exact List.mem_append_right _ (List.mem_map_of_mem h)

/-- The work on a packet neither admits nor returns. -/
lemma inProgress_append_work (h : ∀ e ∈ events, e.isExecution = true) :
    inProgress (log ++ events.map (Prod.mk i)) = inProgress log := by
  have hadmitted : ∀ packet, .admitted packet ∉ events := fun packet hmem => by cases h _ hmem
  have hreturned : ∀ outcome, .returned outcome ∉ events := fun outcome hmem => by cases h _ hmem
  ext tid
  simp only [inProgress, Set.mem_ofPred_eq, mem_append_iff, hadmitted, hreturned, and_false,
    or_false]

/-- A call that returns is no longer in progress. -/
lemma inProgress_append_returned {outcome : Except PyError TransportPacket}
    (h : .returned outcome ∈ events) :
    inProgress (log ++ events.map (Prod.mk i)) = inProgress log \ {i} := by
  ext tid
  simp only [inProgress, Set.mem_ofPred_eq, mem_append_iff, Set.mem_sdiff, Set.mem_singleton_iff]
  by_cases htid : tid = i
  · refine iff_of_false (fun hin => hin.2 outcome (Or.inr ⟨htid, h⟩)) fun hin => hin.2 htid
  · simp [htid]

/-- A call that is admitted and does not return is in progress. -/
lemma inProgress_append_admitted {packet : TransportPacket} (h : .admitted packet ∈ events)
    (hreturned : ∀ outcome, .returned outcome ∉ events) (hfresh : ∀ e, (i, e) ∉ log) :
    inProgress (log ++ events.map (Prod.mk i)) = insert i (inProgress log) := by
  ext tid
  simp only [inProgress, Set.mem_ofPred_eq, mem_append_iff, Set.mem_insert_iff]
  by_cases htid : tid = i
  · subst htid
    refine iff_of_true ⟨⟨packet, Or.inr ⟨rfl, h⟩⟩, fun outcome hmem => ?_⟩ (Or.inl rfl)
    rcases hmem with hmem | hmem
    · exact hfresh _ hmem
    · exact hreturned _ hmem.2
  · simp [htid]

end Append

/-! ### What a segment does to the counter -/

lemma inFlightRequests_settled (cfg : GateConfig Dump) (packet : TransportPacket)
    (outcome : Except PyError TransportPacket) (s : GateState Dump) :
    (settled cfg packet outcome s).inFlightRequests = s.inFlightRequests := by
  cases outcome with
  | error e =>
    rw [settled]
    split <;> rfl
  | ok result =>
    rw [settled]
    split <;> rfl

lemma inFlightRequests_ended (cfg : GateConfig Dump) (packet : TransportPacket)
    (outcome : Except PyError TransportPacket) (s : GateState Dump) :
    (ended cfg packet outcome s).inFlightRequests = s.inFlightRequests - 1 := by
  change (settled cfg packet outcome s).inFlightRequests - 1 = _
  rw [inFlightRequests_settled]

lemma inFlightRequests_of_misses {cfg : GateConfig Dump} {packet : TransportPacket}
    {s s' : GateState Dump} {now : ℚ} (h : Misses cfg packet s now s') :
    s'.inFlightRequests = s.inFlightRequests + 1 ∧
      s.inFlightRequests < cfg.loadShedding.maxInFlight := by
  obtain ⟨s₁, hadmitted, hlookUp⟩ := h
  obtain rfl : (lookUp packet s₁).2 = s' := by rw [hlookUp]
  have hcounted := inFlightRequests_of_admitted hadmitted
  exact hcounted

/-- A call that is turned away leaves the counter as it was, and returns. -/
lemma TurnedAway.inFlightRequests {cfg : GateConfig Dump} {s s' : GateState Dump}
    {validated outcome : Except PyError TransportPacket} {events : List (GateEvent Dump)}
    (h : TurnedAway cfg s validated s' events outcome) :
    s'.inFlightRequests = s.inFlightRequests ∧ .returned outcome ∈ events := by
  have hleave : ∀ t : GateState Dump, t.inFlightRequests = s.inFlightRequests + 1 →
      (leave t).2.inFlightRequests = s.inFlightRequests := by
    intro t ht
    rw [leave, ht]
    ring
  cases h with
  | invalid e => exact ⟨rfl, by simp⟩
  | refused hrefused => exact ⟨inFlightRequests_of_refused hrefused, by simp⟩
  | @cached packet now dump s₁ s₂ hadmitted hfound =>
    obtain rfl : (lookUp packet s₁).2 = s₂ := by rw [hfound]
    have hcounted := (inFlightRequests_of_admitted hadmitted).1
    exact ⟨hleave _ hcounted, by simp⟩
  | @replayed packet now e s₂ s₃ hmisses hguard =>
    obtain rfl : (guardReplay packet s₂).2 = s₃ := by rw [hguard]
    have hcounted := (inFlightRequests_of_misses hmisses).1
    exact ⟨hleave _ hcounted, by simp⟩
  | @unstarted packet now e s₂ s₃ s₄ hmisses hguard hdeadline =>
    obtain rfl : (guardReplay packet s₂).2 = s₃ := by rw [hguard]
    obtain rfl : (startDeadline cfg packet _).2 = s₄ := by rw [hdeadline]
    have hcounted := (inFlightRequests_of_misses hmisses).1
    exact ⟨hleave _ hcounted, by simp⟩

/-- A call that comes to its execution is counted. -/
lemma Begins.inFlightRequests {cfg : GateConfig Dump} {packet : TransportPacket}
    {s s' : GateState Dump} {now : ℚ} {deadline : Deadline}
    (h : Begins cfg packet s now deadline s') :
    s'.inFlightRequests = s.inFlightRequests + 1 ∧
      s.inFlightRequests < cfg.loadShedding.maxInFlight := by
  obtain ⟨s₂, s₃, hmisses, hguard, hdeadline⟩ := h
  obtain rfl : (guardReplay packet s₂).2 = s₃ := by rw [hguard]
  obtain rfl : (startDeadline cfg packet _).2 = s' := by rw [hdeadline]
  have hcounted := inFlightRequests_of_misses hmisses
  exact hcounted

/-! ### Runs -/

/-- The counter counts the calls in progress: these are the tasks that wait, and no more than the
limit. -/
structure InFlightKept (cfg : GateConfig Dump) (c : Pool (gate Dump) TransportPacket) : Prop where
  waits : inProgress c.world.log = waitingTasks c.tasks
  count : c.world.state.inFlightRequests = (inProgress c.world.log).ncard
  bound : (inProgress c.world.log).ncard ≤ cfg.loadShedding.maxInFlight

namespace InFlightKept

variable {cfg : GateConfig Dump} {c : Pool (gate Dump) TransportPacket} {i : ℕ} {s : GateState Dump}
  {events : List (GateEvent Dump)} {outcome : Except PyError TransportPacket}

lemma finite (h : InFlightKept cfg c) : (inProgress c.world.log).Finite :=
  (Set.finite_lt_nat c.tasks.length).subset fun _ htid =>
    lt_length_of_mem_waitingTasks (h.waits ▸ htid)

lemma not_mem_length (h : InFlightKept cfg c) : c.tasks.length ∉ inProgress c.world.log :=
  fun hmem => absurd (lt_length_of_mem_waitingTasks (h.waits ▸ hmem)) (lt_irrefl _)

/-- A call that ends in its first segment was never in progress between two segments. -/
lemma opened_finished (h : InFlightKept cfg c)
    (hs : s.inFlightRequests = c.world.state.inFlightRequests)
    (hreturned : .returned outcome ∈ events) :
    InFlightKept cfg ⟨worldAfter c.world c.tasks.length s events,
      c.tasks ++ [.finished outcome]⟩ := by
  have hsame : inProgress (c.world.log ++ events.map (Prod.mk c.tasks.length)) =
      inProgress c.world.log := by
    rw [inProgress_append_returned hreturned]
    exact Set.sdiff_singleton_eq_self h.not_mem_length
  refine ⟨?_, ?_, ?_⟩
  · simp only [worldAfter_log, hsame, waitingTasks_append_finished, h.waits]
  · simp only [worldAfter_state, worldAfter_log, hsame, hs, h.count]
  · simp only [worldAfter_log, hsame, h.bound]

/-- A call that waits after its first segment is in progress. -/
lemma opened_waiting (h : InFlightKept cfg c) {q : GateRequest}
    {k : Except PyError q.Reply → Co (gate Dump) TransportPacket}
    (hs : s.inFlightRequests = c.world.state.inFlightRequests + 1)
    (hlt : c.world.state.inFlightRequests < cfg.loadShedding.maxInFlight)
    (hadmitted : ∃ packet, .admitted packet ∈ events)
    (hreturned : ∀ outcome, .returned outcome ∉ events)
    (hfresh : ∀ e, (c.tasks.length, e) ∉ c.world.log) :
    InFlightKept cfg ⟨worldAfter c.world c.tasks.length s events, c.tasks ++ [.waiting q k]⟩ := by
  have hinsert : inProgress (c.world.log ++ events.map (Prod.mk c.tasks.length)) =
      insert c.tasks.length (inProgress c.world.log) := by
    obtain ⟨packet, hmem⟩ := hadmitted
    exact inProgress_append_admitted hmem hreturned hfresh
  have hcard := Set.ncard_insert_of_notMem h.not_mem_length h.finite
  have hcount := h.count
  refine ⟨?_, ?_, ?_⟩
  · rw [worldAfter_log, hinsert, h.waits]
    exact (waitingTasks_append_waiting c.tasks q k).symm
  · simp only [worldAfter_state, worldAfter_log, hinsert, hs, hcard, hcount]
    push_cast
    ring
  · simp only [worldAfter_log, hinsert, hcard]
    omega

/-- A call that returns later was in progress. -/
lemma resumed_finished (h : InFlightKept cfg c) (hi : i ∈ waitingTasks c.tasks)
    (hs : s.inFlightRequests = c.world.state.inFlightRequests - 1)
    (hreturned : .returned outcome ∈ events) :
    InFlightKept cfg ⟨worldAfter c.world i s events, c.tasks.set i (.finished outcome)⟩ := by
  have hremove :
      inProgress (c.world.log ++ events.map (Prod.mk i)) = inProgress c.world.log \ {i} :=
    inProgress_append_returned hreturned
  have hcard := Set.ncard_sdiff_singleton_add_one (h.waits ▸ hi) h.finite
  have hcount := h.count
  have hbound := h.bound
  refine ⟨?_, ?_, ?_⟩
  · rw [worldAfter_log, hremove, waitingTasks_set_finished, h.waits]
  · simp only [worldAfter_state, worldAfter_log, hremove, hs, hcount]
    omega
  · simp only [worldAfter_log, hremove]
    omega

/-- A call that goes on waiting stays in progress. -/
lemma resumed_waiting (h : InFlightKept cfg c) (hi : i ∈ waitingTasks c.tasks) {q : GateRequest}
    {k : Except PyError q.Reply → Co (gate Dump) TransportPacket}
    (hs : s.inFlightRequests = c.world.state.inFlightRequests)
    (hevents : ∀ e ∈ events, e.isExecution = true) :
    InFlightKept cfg ⟨worldAfter c.world i s events, c.tasks.set i (.waiting q k)⟩ := by
  have hsame : inProgress (c.world.log ++ events.map (Prod.mk i)) = inProgress c.world.log :=
    inProgress_append_work hevents
  refine ⟨?_, ?_, ?_⟩
  · rw [worldAfter_log, hsame, h.waits]
    exact (waitingTasks_set_waiting hi q k).symm
  · simp only [worldAfter_state, worldAfter_log, hsame, hs, h.count]
  · simp only [worldAfter_log, hsame, h.bound]

/-- One move keeps the count. -/
lemma step {L : Replies (gate Dump)} {P : Except PyError TransportPacket → Prop}
    {c' : Pool (gate Dump) TransportPacket} {m : Move (gate Dump) TransportPacket}
    (h : InFlightKept cfg c) (hstep : CallStep cfg L P c m c')
    (henviron : ∀ f, m = .environ f → ∀ s, (f s).inFlightRequests = s.inFlightRequests) :
    InFlightKept cfg c' := by
  have hreturned : ∀ (packet : TransportPacket) (outcome : Except PyError TransportPacket)
      (s : GateState Dump), .returned outcome ∈ endedEvents cfg packet outcome s :=
    fun packet outcome s => List.mem_append_right _ (List.mem_singleton_self _)
  cases hstep with
  | turnedAway hfresh haway =>
    exact h.opened_finished haway.inFlightRequests.1 haway.inFlightRequests.2
  | @begins packet now deadline s t w hfresh hbegins hadvance =>
    obtain ⟨hs, hlt⟩ := hbegins.inFlightRequests
    cases hadvance with
    | waits hwork hevents hk =>
      rw [worldAfter_worldAfter]
      refine h.opened_waiting (hwork.inFlightRequests.trans hs) hlt ?_ ?_ hfresh
      · exact ⟨packet, by simp [begunEvents]⟩
      · intro outcome hmem
        rcases List.mem_append.1 hmem with hmem | hmem
        · simp [begunEvents] at hmem
        · cases hevents _ hmem
    | ends hwork hevents houtcome =>
      rw [worldAfter_worldAfter]
      refine h.opened_finished ?_
        (List.mem_append_right _ (List.mem_append_right _ (hreturned _ _ _)))
      rw [inFlightRequests_ended, hwork.inFlightRequests, worldAfter_state, hs]
      ring
  | goesOn hi hstarted hadvance =>
    cases hadvance with
    | waits hwork hevents hk => exact h.resumed_waiting hi hwork.inFlightRequests hevents
    | ends hwork hevents houtcome =>
      refine h.resumed_finished hi ?_ (List.mem_append_right _ (hreturned _ _ _))
      rw [inFlightRequests_ended, hwork.inFlightRequests]
  | idle reply hidle => exact h
  | environ f => exact ⟨h.waits, (henviron f rfl _).trans h.count, h.bound⟩

end InFlightKept

/-- The count is kept along every run. -/
lemma inFlightKept {cfg : GateConfig Dump} {s : GateState Dump}
    {ms : List (Move (gate Dump) TransportPacket)}
    (h : ServiceRun cfg anyReply (fun s s' => s'.inFlightRequests = s.inFlightRequests) ms)
    (hstart : s.inFlightRequests = 0) : InFlightKept cfg ((Pool.init s).run ms) := by
  refine (h.induction (P := fun _ => True) (fun _ _ => Co.ends_of_forall (fun _ => trivial) _)
    (motive := fun _ c => InFlightKept cfg c) ?_ fun ms m c c' hkept hstep henv =>
      hkept.step hstep henv).1
  have hempty : inProgress ([] : List (ℕ × GateEvent Dump)) = ∅ := by
    ext tid
    simp [inProgress]
  refine ⟨?_, ?_, ?_⟩
  · simp [Pool.init, hempty, waitingTasks]
  · simp [Pool.init, hempty, hstart]
  · simp [Pool.init, hempty]

/-- A call is shed only when the limit is reached. -/
lemma maxInFlight_le_of_shed {cfg : GateConfig Dump} {packet : TransportPacket}
    {s : GateState Dump} {e : PyError} (h : (passAdmission cfg packet s).1 = .error e)
    (hshed : e.cls = .loadShedError) : cfg.loadShedding.maxInFlight ≤ s.inFlightRequests := by
  rw [passAdmission] at h
  simp only at h
  split at h
  · rename_i e' hallow
    obtain rfl := Except.error.inj h
    rw [FixedWindowRateLimiter.cls_of_allow hallow] at hshed
    cases hshed
  split at h
  · rename_i e' henforce
    obtain rfl := Except.error.inj h
    rcases LoadSheddingPolicy.le_of_enforce henforce with hvalue | ⟨-, hle⟩
    · rw [hvalue] at hshed
      cases hshed
    · exact hle
  split at h
  · rename_i e' henforce
    obtain rfl := Except.error.inj h
    rcases BackpressurePolicy.cls_of_enforce henforce with hcls | hcls <;>
      · rw [hcls] at hshed
        cases hshed
  split at h
  · rename_i e' hbefore
    obtain rfl := Except.error.inj h
    rw [CircuitBreaker.cls_of_beforeCall hbefore] at hshed
    cases hshed
  · cases h

/-- In every reachable state of every interleaving of execute calls, whatever they are answered or
interrupted with, the counter of requests in flight is the number of calls that have passed
admission and have not returned; it is within the limit, and 0 when no call is in progress; and a
call is shed only when as many other calls as the limit are in flight. -/
theorem inFlight_accounted {cfg : GateConfig Dump} {s : GateState Dump}
    {ms : List (Move (gate Dump) TransportPacket)}
    (h : ServiceRun cfg anyReply (fun s s' => s'.inFlightRequests = s.inFlightRequests) ms)
    (hstart : s.inFlightRequests = 0) :
    (inProgress (runLog s ms)).Finite ∧
    ((Pool.init s).run ms).world.state.inFlightRequests = (inProgress (runLog s ms)).ncard ∧
    (inProgress (runLog s ms)).ncard ≤ cfg.loadShedding.maxInFlight ∧
    (∀ pre packet e, pre ++ [.spawn (execute cfg (dispatch cfg) (.ok packet))] <+: ms →
      (passAdmission cfg packet ((Pool.init s).run pre).world.state).1 = .error e →
      e.cls = .loadShedError →
        (inProgress (runLog s pre)).ncard = cfg.loadShedding.maxInFlight) ∧
    ((∀ t ∈ ((Pool.init s).run ms).tasks, t.request? = none) →
      ((Pool.init s).run ms).world.state.inFlightRequests = 0) := by
  have hkept := inFlightKept h hstart
  refine ⟨hkept.finite, hkept.count, hkept.bound, ?_, fun hdone => ?_⟩
  · rintro pre packet e ⟨ms', rfl⟩ hrefused hshed
    rw [List.append_assoc] at h
    have hpre := inFlightKept h.of_append hstart
    have hle := maxInFlight_le_of_shed hrefused hshed
    rw [hpre.count] at hle
    exact le_antisymm hpre.bound (by exact_mod_cast hle)
  · have hnone : waitingTasks ((Pool.init s).run ms).tasks = ∅ := by
      refine Set.eq_empty_of_forall_notMem fun tid ⟨q, k, hget⟩ => ?_
      cases hdone _ (List.mem_of_getElem? hget)
    rw [hkept.count, hkept.waits, hnone, Set.ncard_empty]
    rfl

lemma one_le_oneInFlight : 1 ≤ 1 := le_rfl

/-- The standard settings without workflows, with a limit of one call in flight. -/
def oneInFlight : GateConfig TransportPacket :=
  { GateConfig.plain with
    loadShedding := { maxInFlight := 1, one_le_maxInFlight := one_le_oneInFlight } }

/-- A call that waits for its worker. -/
def oneCall : List (Move (gate TransportPacket) TransportPacket) :=
  [.spawn (execute oneInFlight (dispatch oneInFlight) (.ok (order "first" "score")))]

/-- A second call is shed, and the first one returns. -/
def shedCall : List (Move (gate TransportPacket) TransportPacket) :=
  oneCall ++ [.spawn (execute oneInFlight (dispatch oneInFlight) (.ok (order "second" "score"))),
    .resume 0 (answering served)]

lemma shedCall_run :
    ServiceRun oneInFlight anyReply (fun s s' => s'.inFlightRequests = s.inFlightRequests)
      shedCall := by
  refine ⟨fun p hp => ?_, fun _ _ _ _ => trivial, fun f hf => ?_⟩
  · simp only [shedCall, oneCall, List.cons_append, List.nil_append, List.mem_cons,
      Move.spawn.injEq, reduceCtorEq, List.not_mem_nil, or_false] at hp
    rcases hp with rfl | rfl
    · exact ⟨_, rfl⟩
    · exact ⟨_, rfl⟩
  · simp [shedCall, oneCall] at hf

/-- In that run the first call is the one in flight when the second is shed, and none is in the
end. -/
theorem inFlight_accounted_shedCall :
    (inProgress (runLog scoringState oneCall)).ncard = 1 ∧
      ((Pool.init scoringState).run shedCall).world.state.inFlightRequests = 0 := by
  obtain ⟨-, -, -, hshed, hdone⟩ := inFlight_accounted shedCall_run (s := scoringState) rfl
  refine ⟨?_, hdone ?_⟩
  · have hrefused : (passAdmission oneInFlight (order "second" "score")
        ((Pool.init scoringState).run oneCall).world.state).1 =
          (LoadSheddingPolicy.enforce oneInFlight.loadShedding 1) := by
      decide +kernel
    exact hshed oneCall _ _ (List.prefix_append (oneCall ++ [_]) [_]) hrefused rfl
  · have hall : ((Pool.init scoringState).run shedCall).tasks.all (fun t => t.request?.isNone) =
        true := by
      decide +kernel
    exact fun t ht => Option.isNone_iff_eq_none.1 (List.all_eq_true.1 hall t ht)

end ConstellationGate
