import ConstellationGate.Services.CallTrace

/-!
# What the idempotency store caches

Two questions about the results that execute calls share through the idempotency store, over
every interleaved run.

*Which results are stored?*  The service asks whether the final packet is a success.  For a
workflow this packet is built by Gate itself, so that the answers to the steps do not count:
`successes_cached` needs that no step is answered with a failure.

*Which calls share a result?*  The lookup and the store are separated by the whole execution,
and nothing marks a key as being executed: `duplicate_answered_from_cache` is about a call
that looks its packet up after another has stored its result.
-/

namespace ConstellationGate

variable {Dump : Type}

/-! ### What a call can have recorded -/

section Events

variable {packet : TransportPacket} {deadline : Deadline} {result : TransportPacket}
  {events : List (GateEvent Dump)}

lemma Running.mem_cases (h : Running packet deadline events) {e : GateEvent Dump}
    (he : e ∈ events) :
    (∃ now, e = .lookedUp packet now none) ∨ e = .admitted packet ∨
      e = .deadlineStarted packet deadline ∨ e.isWork = true := by
  obtain ⟨now, work, rfl, hwork⟩ := h
  simp only [List.mem_cons] at he
  rcases he with rfl | rfl | rfl | he
  · exact .inr (.inl rfl)
  · exact .inl ⟨now, rfl⟩
  · exact .inr (.inr (.inl rfl))
  · exact .inr (.inr (.inr (hwork e he)))

/-- A call that executes its packet has missed the cache. -/
lemma Running.second (h : Running packet deadline events) :
    ∃ now, events[1]? = some (.lookedUp packet now none) := by
  obtain ⟨now, work, rfl, -⟩ := h
  exact ⟨now, rfl⟩

lemma Finished.mem_cases (h : Finished packet deadline result events) {e : GateEvent Dump}
    (he : e ∈ events) :
    (∃ now, e = .lookedUp packet now none) ∨ e = .admitted packet ∨
      e = .deadlineStarted packet deadline ∨ e.isWork = true ∨ e = .answered result := by
  have hrunning : ∀ {before}, Running packet deadline before → e ∈ before →
      (∃ now, e = .lookedUp packet now none) ∨ e = .admitted packet ∨
        e = .deadlineStarted packet deadline ∨ e.isWork = true ∨ e = .answered result := by
    intro before h he
    rcases h.mem_cases he with h | h | h | h
    · exact .inl h
    · exact .inr (.inl h)
    · exact .inr (.inr (.inl h))
    · exact .inr (.inr (.inr (.inl h)))
  rcases h with h | ⟨before, h, rfl⟩
  · exact hrunning h he
  · rcases List.mem_append.1 he with he | he
    · exact hrunning h he
    · exact .inr (.inr (.inr (.inr (List.mem_singleton.1 he))))

lemma Finished.second (h : Finished packet deadline result events) :
    ∃ now, events[1]? = some (.lookedUp packet now none) := by
  rcases h with h | ⟨before, ⟨now, work, rfl, -⟩, rfl⟩
  · exact h.second
  · exact ⟨now, rfl⟩

/-- A call that has stored a result returns it. -/
lemma Closing.of_stored {cfg : GateConfig Dump} {outcome : Except PyError TransportPacket}
    (h : Closing cfg outcome events) {key : String} {now : ℚ} {value : Dump}
    (hmem : .stored key now value ∈ events) :
    ∃ result, outcome = .ok result ∧ value = cfg.sdk.dump result := by
  cases h with
  | refused e => cases hmem
  | cached packet now value => simp at hmem
  | rejected packet now e => simp at hmem
  | failed e h => simpa [GateEvent.isWork] using h.mem_cases hmem
  | finished h => simpa [GateEvent.isWork] using h.mem_cases hmem
  | @stored packet deadline result events key' now' h =>
    rcases List.mem_append.1 hmem with hmem | hmem
    · simpa [GateEvent.isWork] using h.mem_cases hmem
    · cases List.mem_singleton.1 hmem
      exact ⟨result, rfl, rfl⟩

/-- A call that was answered from the cache returns what was cached. -/
lemma Closing.of_hit {cfg : GateConfig Dump} {outcome : Except PyError TransportPacket}
    (h : Closing cfg outcome events) {now : ℚ} {value : Dump}
    (hsecond : events[1]? = some (.lookedUp packet now (some value))) :
    outcome = cfg.sdk.modelValidate value := by
  cases h with
  | refused e => cases hsecond
  | cached packet' now' value' =>
    simp only [List.getElem?_cons_succ, List.getElem?_cons_zero, Option.some.injEq,
      GateEvent.lookedUp.injEq] at hsecond
    rw [hsecond.2.2]
  | rejected packet' now' e => simp at hsecond
  | failed e h =>
    obtain ⟨now', hnone⟩ := h.second
    rw [hnone] at hsecond
    simp at hsecond
  | finished h =>
    obtain ⟨now', hnone⟩ := h.second
    rw [hnone] at hsecond
    simp at hsecond
  | @stored packet' deadline result events key' now' h =>
    obtain ⟨now', hnone⟩ := h.second
    have hlt : 1 < events.length := (List.getElem?_eq_some_iff.1 hnone).1
    rw [List.getElem?_append_left hlt, hnone] at hsecond
    simp at hsecond

/-- After a hit a call only returns. -/
lemma CallJustified.of_hit {cfg : GateConfig Dump} {ttl : ℚ} {past : List (ℕ × GateEvent Dump)}
    {tid : ℕ} {e : GateEvent Dump} (h : CallJustified cfg ttl past tid e) {now : ℚ} {value : Dump}
    (hsecond : (eventsIn tid past)[1]? = some (.lookedUp packet now (some value))) :
    e = .returned (cfg.sdk.modelValidate value) := by
  -- the lookup of a call that runs has found nothing
  have hrunning : ∀ p d, ¬ Running p d (eventsIn tid past) := by
    intro p d hrun
    obtain ⟨now', hnone⟩ := hrun.second
    rw [hsecond] at hnone
    simp at hnone
  cases e with
  | admitted p =>
    have hnil : eventsIn tid past = [] := h
    rw [hnil] at hsecond
    cases hsecond
  | lookedUp p now' found =>
    have hone : eventsIn tid past = [.admitted p] := h.1
    rw [hone] at hsecond
    cases hsecond
  | deadlineStarted p d =>
    obtain ⟨⟨now', htwo⟩, -⟩ := h
    rw [htwo] at hsecond
    simp at hsecond
  | derived budget target p =>
    obtain ⟨p, d, hrun, -⟩ := h
    exact absurd hrun (hrunning p d)
  | handed budget target p =>
    obtain ⟨p, d, hrun, -⟩ := h
    exact absurd hrun (hrunning p d)
  | stored key now' value' =>
    obtain ⟨p, d, r, hfin, -⟩ := h
    obtain ⟨now', hnone⟩ := hfin.second
    rw [hsecond] at hnone
    simp at hnone
  | returned outcome =>
    rw [Closing.of_hit h hsecond]
  | _ =>
    obtain ⟨p, d, hrun⟩ := h
    exact absurd hrun (hrunning p d)

end Events

/-! ### Only successes are cached -/

/-- Every answer that a call obtained from the dispatcher is a terminal success. -/
def OnlySuccesses (log : List (ℕ × GateEvent Dump)) (tid : ℕ) : Prop :=
  ∀ answer, (tid, .answered answer) ∈ log ∨ (∃ step, (tid, .stepAnswered step answer) ∈ log) →
    isTerminalSuccess answer = true

/-- Only successes are cached: what is in the store was stored by a call, what a call stores is
a success and was produced from successes only, and every cached answer was stored so. -/
structure SuccessesCached (cfg : GateConfig Dump) (w : World (gate Dump)) : Prop where
  entries : ∀ key now value, w.state.idempotencyStore.store.get? key = some (now, value) →
    ∃ tid, (tid, .stored key now value) ∈ w.log
  successes : ∀ tid key now value, (tid, .stored key now value) ∈ w.log →
    OnlySuccesses w.log tid ∧
      ∃ result, value = cfg.sdk.dump result ∧ isTerminalSuccess result = true
  hits : ∀ tid packet now value, (tid, .lookedUp packet now (some value)) ∈ w.log →
    ∃ tid' key storedAt, idempotencyNamespaceKey packet = some key ∧
      (tid', .stored key storedAt value) ∈ w.log

/-- No worker answers a step of a workflow with a failure. -/
def NoStepFails (log : List (ℕ × GateEvent Dump)) : Prop :=
  ∀ tid step answer, (tid, .stepAnswered step answer) ∈ log → isTerminalSuccess answer = true

section Transcript

variable {cfg : GateConfig Dump} {ttl : ℚ} {log : List (ℕ × GateEvent Dump)} {tid : ℕ}

/-- A call that stores a result was answered by it, if it was answered directly. -/
lemma success_of_answered (h : Verified (CallJustified cfg ttl) log) {key : String} {now : ℚ}
    {value : Dump} {answer : TransportPacket} (hstored : (tid, .stored key now value) ∈ log)
    (hanswered : (tid, .answered answer) ∈ log) : isTerminalSuccess answer = true := by
  rcases h.split_pair hanswered hstored with heq | ⟨before, -, hmem, hj⟩ | ⟨before, -, hmem, hj⟩
  · simp at heq
  · -- the answer came before the store: it is the result
    obtain ⟨packet, deadline, result, hfin, -, hsuccess, -⟩ := hj
    have hcases := hfin.mem_cases (mem_eventsIn.2 hmem)
    simp only [reduceCtorEq, exists_false, GateEvent.isWork, Bool.false_eq_true, false_or,
      GateEvent.answered.injEq] at hcases
    rw [hcases]
    exact hsuccess
  · -- a call that has stored a result is not running any more
    obtain ⟨packet, deadline, hrunning⟩ := hj
    simpa [GateEvent.isWork] using hrunning.mem_cases (mem_eventsIn.2 hmem)

/-- A cached answer was stored under the key of the packet. -/
lemma stored_of_hit (h : Verified (CallJustified cfg ttl) log) {packet : TransportPacket} {now : ℚ}
    {value : Dump} (hhit : (tid, .lookedUp packet now (some value)) ∈ log) :
    ∃ tid' key storedAt, idempotencyNamespaceKey packet = some key ∧
      (tid', .stored key storedAt value) ∈ log := by
  obtain ⟨before, after, hlog⟩ := List.append_of_mem hhit
  obtain ⟨-, hfound⟩ := h before tid _ after hlog
  rw [expectedHit_eq] at hfound
  obtain ⟨key, hkey, hlive⟩ := Option.bind_eq_some_iff.1 hfound.symm
  obtain ⟨storedAt, hlast, -⟩ := unexpired_eq_some_iff.1 hlive
  obtain ⟨tid', hmem⟩ := exists_of_lastStored hlast
  refine ⟨tid', key, storedAt, hkey, ?_⟩
  rw [hlog]
  exact List.mem_append_left _ hmem

/-- A lookup finds what was stored last under its key, if it still lives. -/
lemma found_of_stored (h : Verified (CallJustified cfg ttl) log) {j : ℕ} {key : String}
    {packet : TransportPacket} {now now' : ℚ} {value : Dump} {found : Option Dump}
    {before mid after : List (ℕ × GateEvent Dump)}
    (hlog : log = (before ++ (tid, .stored key now value) :: mid) ++
      (j, .lookedUp packet now' found) :: after)
    (hkey : idempotencyNamespaceKey packet = some key)
    (hmid : ∀ tid' now'' value', (tid', GateEvent.stored key now'' value') ∉ mid)
    (hlive : now' - now < ttl) : found = some value := by
  obtain ⟨-, hfound⟩ := h _ j _ after hlog
  rw [hfound, expectedHit_eq, hkey, Option.bind_some]
  exact unexpired_eq_some_iff.2 ⟨now, lastStored_since hmid, hlive⟩

/-- A call that was answered from the cache records only its admission, its lookup and its
return. -/
lemma events_of_hit (h : Verified (CallJustified cfg ttl) log) {packet result : TransportPacket}
    {now : ℚ} {past after : List (ℕ × GateEvent Dump)}
    (hlog : log = past ++ (tid, .lookedUp packet now (some (cfg.sdk.dump result))) :: after)
    {e : GateEvent Dump} (he : (tid, e) ∈ log) :
    e = .admitted packet ∨ e = .lookedUp packet now (some (cfg.sdk.dump result)) ∨
      e = .returned (.ok result) := by
  obtain ⟨hevents, -⟩ := h past tid _ after hlog
  rw [hlog] at he
  rcases List.mem_append.1 he with he | he
  · -- before its lookup the call has only been admitted
    have hin := mem_eventsIn.2 he
    rw [hevents] at hin
    exact .inl (List.mem_singleton.1 hin)
  rcases List.mem_cons.1 he with he | he
  · exact .inr (.inl (Prod.mk.inj he).2)
  · -- after a hit nothing but the return is justified
    obtain ⟨after₁, after₂, rfl⟩ := List.append_of_mem he
    have hj := h (past ++ (tid, .lookedUp packet now (some (cfg.sdk.dump result))) :: after₁) tid e
      after₂ (by simpa using hlog)
    have htrace : eventsIn tid
        (past ++ (tid, .lookedUp packet now (some (cfg.sdk.dump result))) :: after₁) =
        .admitted packet :: .lookedUp packet now (some (cfg.sdk.dump result)) ::
          eventsIn tid after₁ := by
      rw [eventsIn_append, hevents]
      simp [eventsIn]
    have hsecond : (eventsIn tid
        (past ++ (tid, .lookedUp packet now (some (cfg.sdk.dump result))) :: after₁))[1]? =
        some (.lookedUp packet now (some (cfg.sdk.dump result))) := by
      rw [htrace]
      rfl
    rw [hj.of_hit hsecond, cfg.sdk.modelValidate_dump]
    exact .inr (.inr rfl)

/-- A call that stores a result returns it. -/
lemma returned_of_stored (h : Verified (CallJustified cfg ttl) log) {key : String} {now : ℚ}
    {result : TransportPacket} {outcome : Except PyError TransportPacket}
    (hstored : (tid, .stored key now (cfg.sdk.dump result)) ∈ log)
    (houtcome : (tid, .returned outcome) ∈ log) : outcome = .ok result := by
  rcases h.split_pair houtcome hstored with heq | ⟨past, -, hmem, hj⟩ | ⟨past, -, hmem, hj⟩
  · simp at heq
  · -- a call that has returned does not store
    obtain ⟨p, d, r, hfin, -⟩ := hj
    simpa [GateEvent.isWork] using hfin.mem_cases (mem_eventsIn.2 hmem)
  · obtain ⟨result', rfl, hvalue⟩ := Closing.of_stored hj (mem_eventsIn.2 hmem)
    rw [cfg.sdk.dump_injective hvalue]

end Transcript

/-! ### What a log shows of an event -/

/-- The answer of a dispatcher that an event records. -/
def GateEvent.answer? : GateEvent Dump → Option TransportPacket
  | .answered answer => some answer
  | .stepAnswered _ answer => some answer
  | _ => none

lemma GateEvent.answer?_eq_some {e : GateEvent Dump} {answer : TransportPacket} :
    e.answer? = some answer ↔ e = .answered answer ∨ ∃ step, e = .stepAnswered step answer := by
  cases e <;> simp [answer?]

/-- The packet of an attempt. -/
def GateEvent.attempt? : GateEvent Dump → Option TransportPacket
  | .attempted packet => some packet
  | _ => none

lemma GateEvent.attempt?_eq_some {e : GateEvent Dump} {packet : TransportPacket} :
    e.attempt? = some packet ↔ e = .attempted packet := by
  cases e <;> simp [attempt?]

/-- The packet of an admission. -/
def GateEvent.admission? : GateEvent Dump → Option TransportPacket
  | .admitted packet => some packet
  | _ => none

lemma GateEvent.admission?_eq_some {e : GateEvent Dump} {packet : TransportPacket} :
    e.admission? = some packet ↔ e = .admitted packet := by
  cases e <;> simp [admission?]

/-- The packet and the clock reading of a lookup. -/
def GateEvent.lookup? : GateEvent Dump → Option (TransportPacket × ℚ)
  | .lookedUp packet now _ => some (packet, now)
  | _ => none

lemma GateEvent.lookup?_eq_some {e : GateEvent Dump} {packet : TransportPacket} {now : ℚ} :
    e.lookup? = some (packet, now) ↔ ∃ found, e = .lookedUp packet now found := by
  cases e <;> simp [lookup?]

/-- The key and the clock reading of a store. -/
def GateEvent.store? : GateEvent Dump → Option (String × ℚ)
  | .stored key now _ => some (key, now)
  | _ => none

lemma GateEvent.store?_eq_some {e : GateEvent Dump} {key : String} {now : ℚ} :
    e.store? = some (key, now) ↔ ∃ value, e = .stored key now value := by
  cases e <;> simp [store?]

/-- In every interleaved run of execute calls in which no worker answers a step of a workflow
with a failure, only successes are cached. -/
theorem successes_cached {cfg : GateConfig Dump} {s : GateState Dump}
    {ms : List (Move (gate Dump) TransportPacket)} (h : CallRun cfg s ms)
    (hsteps : NoStepFails (runLog s ms)) :
    SuccessesCached cfg ((Pool.init s).run ms).world := by
  obtain ⟨hverified, hkept⟩ := calls_verified h
  unfold runLog at hverified hsteps
  generalize ((Pool.init s).run ms).world = w at hverified hkept hsteps
  refine ⟨fun key now value hget => ?_,
    fun tid key now value hstored => ⟨fun answer hanswer => ?_, ?_⟩,
    fun tid packet now value hhit => stored_of_hit hverified hhit⟩
  · exact exists_of_lastStored ((hkept.holds key).eq_of_some hget)
  · rcases hanswer with hanswer | ⟨step, hanswer⟩
    · exact success_of_answered hverified hstored hanswer
    · exact hsteps tid step answer hanswer
  · obtain ⟨before, after, hlog⟩ := List.append_of_mem hstored
    obtain ⟨packet, deadline, result, -, -, hsuccess, hvalue⟩ := hverified before tid _ after hlog
    exact ⟨result, hvalue, hsuccess⟩

/-- What is cached in that run. -/
theorem successes_cached_servedOrder :
    SuccessesCached .plain ((Pool.init scoringState).run servedOrder).world := by
  refine successes_cached servedOrder_run fun tid step answer hmem => ?_
  have hall : (runLog scoringState servedOrder).all
      (fun e => e.2.answer?.all isTerminalSuccess) = true := by
    decide +kernel
  exact List.all_eq_true.1 hall _ hmem

/-- A call whose packet starts a workflow, of which the one step fails. -/
def failedPipeline : List (Move (gate TransportPacket) TransportPacket) :=
  [.spawn (execute (.scoring none (by simp)) (dispatch (.scoring none (by simp)))
    (.ok (order "first" "pipeline"))),
   .resume 0 (answering (failurePacket "acme" "score"))]

lemma failedPipeline_run : CallRun (.scoring none (by simp)) scoringState failedPipeline where
  empty := rfl
  legal := ⟨⟨_, rfl⟩, fun _ _ _ => trivial, trivial⟩

/-- The result of that workflow is cached. -/
theorem failed_step_cached :
    ¬ ∀ (cfg : GateConfig TransportPacket) (s : GateState TransportPacket) ms, CallRun cfg s ms →
      SuccessesCached cfg ((Pool.init s).run ms).world := by
  intro h
  obtain ⟨-, hsuccesses, -⟩ := h _ _ _ failedPipeline_run
  change ∀ tid key now value, (tid, .stored key now value) ∈ runLog scoringState failedPipeline →
    OnlySuccesses (runLog scoringState failedPipeline) tid ∧ _ at hsuccesses
  generalize hlog : runLog scoringState failedPipeline = log at hsuccesses
  have hstored : log.any (fun e => e.1 = 0 && e.2.store?.isSome) = true := by
    subst hlog
    decide +kernel
  have hfailed : log.any (fun e => e.1 = 0 && e.2.answer?.any (!isTerminalSuccess ·)) = true := by
    subst hlog
    decide +kernel
  simp only [List.any_eq_true, Bool.and_eq_true, decide_eq_true_eq, Option.isSome_iff_exists,
    Option.any_eq_true, Bool.not_eq_true'] at hstored hfailed
  obtain ⟨⟨_, e⟩, hmem, rfl, ⟨key, now⟩, hstore⟩ := hstored
  obtain ⟨⟨_, e'⟩, hmem', rfl, answer, hanswer, hfail⟩ := hfailed
  obtain ⟨value, rfl⟩ := GateEvent.store?_eq_some.1 hstore
  have honly := (hsuccesses 0 key now value hmem).1 answer
  rcases GateEvent.answer?_eq_some.1 hanswer with rfl | ⟨step, rfl⟩
  · rw [honly (.inl hmem')] at hfail
    cases hfail
  · rw [honly (.inr ⟨step, hmem'⟩)] at hfail
    cases hfail

/-! ### Duplicates after a store -/

/-- A call that looks up a key under which another call has stored its result, less than the
time to live ago and with no other store in between, is answered from the cache: it records
nothing but its admission, its lookup and its return, so it dispatches nothing and runs no
workflow, and both calls return the same result. -/
theorem duplicate_answered_from_cache {cfg : GateConfig Dump} {s : GateState Dump}
    {ms : List (Move (gate Dump) TransportPacket)} (h : CallRun cfg s ms) {a b i j : ℕ}
    {key : String} {packet : TransportPacket} {now now' : ℚ} {value : Dump} {found : Option Dump}
    (hab : a < b) (hstored : (runLog s ms)[a]? = some (i, .stored key now value))
    (hlooked : (runLog s ms)[b]? = some (j, .lookedUp packet now' found))
    (hkey : idempotencyNamespaceKey packet = some key)
    (hbetween : ∀ c, a < c → c < b → ∀ tid now'' value',
      (runLog s ms)[c]? ≠ some (tid, .stored key now'' value'))
    (hlive : now' - now < s.idempotencyStore.ttl) :
    ∃ result, found = some (cfg.sdk.dump result) ∧
      (∀ e, (j, e) ∈ runLog s ms →
        e = .admitted packet ∨ e = .lookedUp packet now' found ∨ e = .returned (.ok result)) ∧
      ∀ outcome, (i, .returned outcome) ∈ runLog s ms → outcome = .ok result := by
  obtain ⟨hverified, -⟩ := calls_verified h
  obtain ⟨before, mid, after, hlog, hin⟩ := exists_split_pair hab hstored hlooked
  have hmid : ∀ tid now'' value', (tid, GateEvent.stored key now'' value') ∉ mid := by
    intro tid now'' value' hmem
    obtain ⟨c, hac, hcb, hc⟩ := hin _ hmem
    exact hbetween c hac hcb tid now'' value' hc
  generalize runLog s ms = log at hverified hlog
  have hmem : (i, GateEvent.stored key now value) ∈ log := by
    rw [hlog]
    simp
  obtain ⟨past, rest, hpast⟩ := List.append_of_mem hmem
  -- what a call stores is the dump of a result
  obtain ⟨-, -, result, -, -, -, rfl⟩ := hverified past i _ rest hpast
  obtain rfl := found_of_stored hverified hlog hkey hmid hlive
  exact ⟨result, rfl, fun e he => events_of_hit hverified hlog he,
    fun outcome houtcome => returned_of_stored hverified hmem houtcome⟩

/-- Of two calls with the same key at most one executes its packet, and both return the same
result. -/
structure DuplicatesExecuteOnce (log : List (ℕ × GateEvent Dump)) (i j : ℕ) : Prop where
  once : ¬ ((∃ p, (i, .attempted p) ∈ log) ∧ ∃ p, (j, .attempted p) ∈ log)
  same : ∀ r r', (i, .returned (.ok r)) ∈ log → (j, .returned (.ok r')) ∈ log → r = r'

/-- Two calls with the same key, one after the other. -/
def ordersInTurn : List (Move (gate TransportPacket) TransportPacket) :=
  servedOrder ++ [.spawn (execute .plain (dispatch .plain) (.ok (order "second" "score")))]

lemma ordersInTurn_run : CallRun .plain scoringState ordersInTurn where
  empty := rfl
  legal := ⟨⟨_, rfl⟩, fun _ _ _ => trivial, ⟨_, rfl⟩, trivial⟩

/-- The second of those calls is answered from the cache. -/
theorem duplicate_answered_from_cache_inTurn :
    ∃ result, (∀ e, (1, e) ∈ runLog scoringState ordersInTurn →
        (∃ packet, e = .admitted packet) ∨ (∃ packet now found, e = .lookedUp packet now found) ∨
          e = .returned (.ok result)) ∧
      ∀ outcome, (0, .returned outcome) ∈ runLog scoringState ordersInTurn →
        outcome = .ok result := by
  generalize hlog : runLog scoringState ordersInTurn = log
  -- the first call stores its result, the second looks the same key up in time
  have hcheck : (log[7]?.any fun e => e.1 = 0 && e.2.store?.any fun st =>
      log[10]?.any fun e' => e'.1 = 1 && e'.2.lookup?.any fun look =>
        idempotencyNamespaceKey look.1 = some st.1 && look.2 - st.2 < 86400) = true := by
    subst hlog
    decide +kernel
  have hnone : ∀ c < 10, 7 < c → log[c]?.all (fun e => e.2.store?.isNone) = true := by
    subst hlog
    decide +kernel
  simp only [Option.any_eq_true, Bool.and_eq_true, decide_eq_true_eq] at hcheck
  obtain ⟨⟨_, e⟩, hstored, rfl, ⟨key, now⟩, hstore, ⟨_, e'⟩, hlooked, rfl, ⟨packet, now'⟩, hlook,
    hkey, hlive⟩ := hcheck
  obtain ⟨value, rfl⟩ := GateEvent.store?_eq_some.1 hstore
  obtain ⟨found, rfl⟩ := GateEvent.lookup?_eq_some.1 hlook
  subst hlog
  have hbetween : ∀ c, 7 < c → c < 10 → ∀ tid now'' value',
      (runLog scoringState ordersInTurn)[c]? ≠ some (tid, .stored key now'' value') := by
    intro c h7 h10 tid now'' value' hc
    have hall := hnone c h10 h7
    rw [hc] at hall
    cases hall
  obtain ⟨result, -, hsecond, hfirst⟩ := duplicate_answered_from_cache ordersInTurn_run (by omega)
    hstored hlooked hkey hbetween hlive
  refine ⟨result, fun e he => ?_, hfirst⟩
  rcases hsecond e he with he | he | he
  · exact .inl ⟨_, he⟩
  · exact .inr (.inl ⟨_, _, _, he⟩)
  · exact .inr (.inr he)

/-- Two calls with the same key at the same time. -/
def ordersAtOnce : List (Move (gate TransportPacket) TransportPacket) :=
  [.spawn (execute .plain (dispatch .plain) (.ok (order "first" "score"))),
   .spawn (execute .plain (dispatch .plain) (.ok (order "second" "score"))),
   .resume 0 (answering served), .resume 1 (answering served)]

lemma ordersAtOnce_run : CallRun .plain scoringState ordersAtOnce where
  empty := rfl
  legal := ⟨⟨_, rfl⟩, ⟨_, rfl⟩, fun _ _ _ => trivial, fun _ _ _ => trivial, trivial⟩

/-- Both of those calls execute their packets. -/
theorem duplicates_both_execute :
    ¬ ∀ (cfg : GateConfig TransportPacket) (s : GateState TransportPacket) ms, CallRun cfg s ms →
      (∀ tid answer, (tid, .answered answer) ∈ runLog s ms ∨
        (∃ step, (tid, .stepAnswered step answer) ∈ runLog s ms) →
          isTerminalSuccess answer = true) →
      (∀ m n, s.monotonic.reading m - s.monotonic.reading n < s.idempotencyStore.ttl) →
      ∀ i j p q, i ≠ j → (i, .admitted p) ∈ runLog s ms → (j, .admitted q) ∈ runLog s ms →
        idempotencyNamespaceKey p ≠ none →
        idempotencyNamespaceKey p = idempotencyNamespaceKey q →
        p.header.packetId ≠ q.header.packetId → DuplicatesExecuteOnce (runLog s ms) i j := by
  intro h
  have hrun := h _ _ _ ordersAtOnce_run
  -- the log of the run is evaluated, and read back from its entries
  generalize hlog : runLog scoringState ordersAtOnce = log at hrun
  have hsuccess : log.all (fun e => e.2.answer?.all isTerminalSuccess) = true := by
    subst hlog
    decide +kernel
  have hadmitted : (log[0]?.any fun e => e.1 = 0 && e.2.admission?.any fun p =>
      log[6]?.any fun e' => e'.1 = 1 && e'.2.admission?.any fun q =>
        idempotencyNamespaceKey p ≠ none &&
          idempotencyNamespaceKey p = idempotencyNamespaceKey q &&
          p.header.packetId ≠ q.header.packetId) = true := by
    subst hlog
    decide +kernel
  have hattempted : ∀ tid < 2, log.any (fun e => e.1 = tid && e.2.attempt?.isSome) = true := by
    subst hlog
    decide +kernel
  have hboth : ∀ tid < 2, ∃ p, (tid, .attempted p) ∈ log := by
    intro tid htid
    have hany := hattempted tid htid
    simp only [List.any_eq_true, Bool.and_eq_true, decide_eq_true_eq, Option.isSome_iff_exists,
      GateEvent.attempt?_eq_some] at hany
    obtain ⟨⟨_, _⟩, hmem, rfl, p, rfl⟩ := hany
    exact ⟨p, hmem⟩
  have hall : ∀ tid answer, (tid, .answered answer) ∈ log ∨
      (∃ step, (tid, .stepAnswered step answer) ∈ log) → isTerminalSuccess answer = true := by
    rintro tid answer (hanswer | ⟨step, hanswer⟩)
    · exact List.all_eq_true.1 hsuccess _ hanswer
    · exact List.all_eq_true.1 hsuccess _ hanswer
  simp only [Option.any_eq_true, Bool.and_eq_true, decide_eq_true_eq,
    GateEvent.admission?_eq_some] at hadmitted
  obtain ⟨⟨_, _⟩, hp, rfl, p, rfl, ⟨_, _⟩, hq, rfl, q, rfl, ⟨hkey, hsame⟩, hids⟩ := hadmitted
  have honce := hrun hall (fun m n => ?_) 0 1 p q (by omega)
    (List.mem_of_getElem? hp) (List.mem_of_getElem? hq) hkey hsame hids
  · exact honce.once ⟨hboth 0 (by omega), hboth 1 (by omega)⟩
  · change (0 : ℚ) - 0 < 86400
    norm_num

end ConstellationGate
