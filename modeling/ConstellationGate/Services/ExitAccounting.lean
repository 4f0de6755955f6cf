import ConstellationGate.Services.CallSegments
import ConstellationGate.Services.ReplayWindow
import ConstellationGate.Services.ExecutionErrors
import Mathlib.Data.List.DropRight

/-!
# The exits of execute

In which ways an execute call ends that nobody cancels, and what each of them does to the state of
the service: `exits_accounted`.

A call is described by its segments, each with the state before and the state after it
(`Pool.segmentsOf`).  A call that is refused, answered from the cache or refused as a replay has
one segment.  An execution begins in the first one and ends in the last one; whatever it does in
between is `Working`, so the breaker, the dead-letter queue and the idempotency store are written
when it ends, and only then.
-/

namespace ConstellationGate

variable {Dump : Type}

/-! ### The ways out -/

inductive ExitWay
  | refused | cached | replayed | succeeded | failed
deriving DecidableEq, Repr

/-- Ingress validation or admission control refuses a call that starts in the state `s`. -/
def Refuses (cfg : GateConfig Dump) (validated : Except PyError TransportPacket)
    (s : GateState Dump) (e : PyError) : Prop :=
  validated = .error e ∨
    ∃ packet, validated = .ok packet ∧ (passAdmission cfg packet s).1 = .error e

/-- A call for the packet that starts in the state `s` is admitted and finds a result. -/
def Finds (cfg : GateConfig Dump) (packet : TransportPacket) (s : GateState Dump) (dump : Dump) :
    Prop :=
  ∃ s₁ now s₂, passAdmission cfg packet s = (.ok (), s₁) ∧
    lookUp packet s₁ = (.ok (now, some dump), s₂)

/-- Nothing is left of the call. -/
structure Unaffected (s s' : GateState Dump) : Prop where
  replayGuard : s'.replayGuard = s.replayGuard
  idempotencyStore : s'.idempotencyStore = s.idempotencyStore
  deadLetterQueue : s'.deadLetterQueue = s.deadLetterQueue
  inFlightRequests : s'.inFlightRequests = s.inFlightRequests
  failureCount : s'.circuitBreaker.failureCount = s.circuitBreaker.failureCount

/-- The store has been read, and the replay guard asked. -/
structure Asked (packet : TransportPacket) (s s' : GateState Dump) : Prop where
  replayGuard : s'.replayGuard = (guardAnswer packet s).2
  idempotencyStore : ∃ clock,
    s'.idempotencyStore = (s.idempotencyStore.getForPacket clock packet).2.1
  deadLetterQueue : s'.deadLetterQueue = s.deadLetterQueue
  failureCount : s'.circuitBreaker.failureCount = s.circuitBreaker.failureCount

/-- The end of an execution with a result: one `record_success`, no dead letter, and a write of the
cache when the packet has a key and the result is a terminal success. -/
structure SuccessEnding (cfg : GateConfig Dump) (packet result : TransportPacket)
    (s s' : GateState Dump) : Prop where
  circuitBreaker : s'.circuitBreaker = s.circuitBreaker.recordSuccess
  deadLetterQueue : s'.deadLetterQueue = s.deadLetterQueue
  idempotencyStore : s'.idempotencyStore =
    match idempotencyNamespaceKey packet with
    | some key =>
      if isTerminalSuccess result then
        (s.idempotencyStore.set s.monotonic key (cfg.sdk.dump result)).1
      else s.idempotencyStore
    | none => s.idempotencyStore
  replayGuard : s'.replayGuard = s.replayGuard
  inFlightRequests : s'.inFlightRequests = s.inFlightRequests - 1

/-- The end of an execution with an exception: one `record_failure`, one dead letter for the packet
and no write of the cache. -/
structure FailureEnding (cfg : GateConfig Dump) (packet : TransportPacket) (e : PyError)
    (s s' : GateState Dump) : Prop where
  circuitBreaker : s'.circuitBreaker = s.circuitBreaker.recordFailure s.monotonic.now
  deadLetterQueue : s'.deadLetterQueue =
    s.deadLetterQueue.put packet (cfg.sdk.dump packet) e s.wall.now
  idempotencyStore : s'.idempotencyStore = s.idempotencyStore
  replayGuard : s'.replayGuard = s.replayGuard
  inFlightRequests : s'.inFlightRequests = s.inFlightRequests - 1

/-- The start of an execution: the call has asked the guard and is counted as in flight. -/
structure Begun (packet : TransportPacket) (s s' : GateState Dump) : Prop extends
    Asked packet s s' where
  inFlightRequests : s'.inFlightRequests = s.inFlightRequests + 1

/-- The segments of an execution that starts in the state `s`: it begins once, at the start of the
first segment, and ends once, at the end of the last one. -/
inductive Executed (packet : TransportPacket) (Ending : GateState Dump → GateState Dump → Prop)
    (s : GateState Dump) : List (GateState Dump × GateState Dump) → Prop
  | atOnce {s₁ s₂ s' : GateState Dump} (hbegun : Begun packet s s₁) (hwork : Working s₁ s₂)
      (hending : Ending s₂ s') : Executed packet Ending s [(s, s')]
  | inTurns {s₁ s₂ t t₁ t' : GateState Dump} {mid : List (GateState Dump × GateState Dump)}
      (hbegun : Begun packet s s₁) (hwork : Working s₁ s₂)
      (hmid : ∀ p ∈ mid, Working p.1 p.2) (hlast : Working t t₁) (hending : Ending t₁ t') :
      Executed packet Ending s ((s, s₂) :: (mid ++ [(t, t')]))

/-- A call with this outcome and these segments ends in this way. -/
def Exits (cfg : GateConfig Dump) (validated outcome : Except PyError TransportPacket)
    (segments : List (GateState Dump × GateState Dump)) : ExitWay → Prop
  | .refused => ∃ s s' e, segments = [(s, s')] ∧ outcome = .error e ∧ Refuses cfg validated s e ∧
      Unaffected s s'
  | .cached => ∃ packet s s' dump, segments = [(s, s')] ∧ validated = .ok packet ∧
      Finds cfg packet s dump ∧ outcome = cfg.sdk.modelValidate dump ∧ Unaffected s s'
  | .replayed => ∃ packet s s' e, segments = [(s, s')] ∧ validated = .ok packet ∧
      asksGuard cfg packet s = true ∧ (guardAnswer packet s).1 = .error e ∧ outcome = .error e ∧
      Asked packet s s' ∧ s'.inFlightRequests = s.inFlightRequests
  | .succeeded => ∃ packet s result, validated = .ok packet ∧ PassesGuard cfg packet s ∧
      outcome = .ok result ∧ Executed packet (SuccessEnding cfg packet result) s segments
  | .failed => ∃ packet s e, validated = .ok packet ∧ PassesGuard cfg packet s ∧
      outcome = .error e ∧ e.isException = true ∧
      Executed packet (FailureEnding cfg packet e) s segments

/-! ### The ways exclude each other -/

/-- The way that a call takes, which starts in the state `s` and has this outcome. -/
def exitWay (cfg : GateConfig Dump) (validated outcome : Except PyError TransportPacket)
    (s : GateState Dump) : ExitWay :=
  match validated with
  | .error _ => .refused
  | .ok packet =>
    match passAdmission cfg packet s with
    | (.error _, _) => .refused
    | (.ok (), s₁) =>
      match (lookUp packet s₁).1 with
      | .ok (_, some _) => .cached
      | _ =>
        match (guardAnswer packet s).1, outcome with
        | .error _, _ => .replayed
        | .ok (), .ok _ => .succeeded
        | .ok (), .error _ => .failed

lemma exitWay_of_misses {cfg : GateConfig Dump} {packet : TransportPacket}
    {outcome : Except PyError TransportPacket} {s : GateState Dump}
    (h : asksGuard cfg packet s = true) :
    exitWay cfg (.ok packet) outcome s =
      match (guardAnswer packet s).1, outcome with
      | .error _, _ => .replayed
      | .ok (), .ok _ => .succeeded
      | .ok (), .error _ => .failed := by
  obtain ⟨now, s', s₁, hadmission, hlookUp⟩ := asksGuard_iff.1 h
  simp only [exitWay, hadmission, hlookUp]

/-- The segments of an execution begin with the state in which the call starts. -/
lemma Executed.exists_cons {packet : TransportPacket}
    {Ending : GateState Dump → GateState Dump → Prop} {s : GateState Dump}
    {segments : List (GateState Dump × GateState Dump)} (h : Executed packet Ending s segments) :
    ∃ s' rest, segments = (s, s') :: rest := by
  cases h with
  | atOnce hbegun hwork hending => exact ⟨_, _, rfl⟩
  | inTurns hbegun hwork hmid hlast hending => exact ⟨_, _, rfl⟩

/-- The way is the one that the start and the outcome say. -/
lemma Exits.eq_exitWay {cfg : GateConfig Dump} {validated outcome : Except PyError TransportPacket}
    {segments : List (GateState Dump × GateState Dump)} {way : ExitWay}
    (h : Exits cfg validated outcome segments way) :
    ∃ s s' rest, segments = (s, s') :: rest ∧ way = exitWay cfg validated outcome s := by
  cases way with
  | refused =>
    obtain ⟨s, s', e, rfl, rfl, hrefuses, -⟩ := h
    refine ⟨s, s', [], rfl, ?_⟩
    rcases hrefuses with rfl | ⟨packet, rfl, hrefused⟩
    · rfl
    · rcases hadmission : passAdmission cfg packet s with ⟨e' | u, s₁⟩
      · simp only [exitWay, hadmission]
      · rw [hadmission] at hrefused
        cases hrefused
  | cached =>
    obtain ⟨packet, s, s', dump, rfl, rfl, ⟨s₁, now, s₂, hadmission, hlookUp⟩, -⟩ := h
    exact ⟨s, s', [], rfl, by simp only [exitWay, hadmission, hlookUp]⟩
  | replayed =>
    obtain ⟨packet, s, s', e, rfl, rfl, hasks, hguard, -⟩ := h
    exact ⟨s, s', [], rfl, by rw [exitWay_of_misses hasks, hguard]⟩
  | succeeded =>
    obtain ⟨packet, s, result, rfl, hpass, rfl, hexecuted⟩ := h
    obtain ⟨s', rest, rfl⟩ := hexecuted.exists_cons
    exact ⟨s, s', rest, rfl, by rw [exitWay_of_misses hpass.1, hpass.2]⟩
  | failed =>
    obtain ⟨packet, s, e, rfl, hpass, rfl, -, hexecuted⟩ := h
    obtain ⟨s', rest, rfl⟩ := hexecuted.exists_cons
    exact ⟨s, s', rest, rfl, by rw [exitWay_of_misses hpass.1, hpass.2]⟩

/-- A call ends in one way at most. -/
lemma Exits.unique {cfg : GateConfig Dump} {validated outcome : Except PyError TransportPacket}
    {segments : List (GateState Dump × GateState Dump)} {way way' : ExitWay}
    (h : Exits cfg validated outcome segments way)
    (h' : Exits cfg validated outcome segments way') : way' = way := by
  obtain ⟨s, s₁, rest, rfl, rfl⟩ := h.eq_exitWay
  obtain ⟨t, t₁, rest', heq, rfl⟩ := h'.eq_exitWay
  obtain ⟨hfirst, -⟩ := List.cons.inj heq
  rw [(Prod.mk.inj hfirst).1]

/-! ### The first segment -/

lemma unaffected_of_refused {cfg : GateConfig Dump} {packet : TransportPacket} {e : PyError}
    {s s' : GateState Dump} (h : passAdmission cfg packet s = (.error e, s')) :
    Unaffected s s' := by
  have hadmission := passAdmission_admission cfg packet s
  rw [h] at hadmission
  exact ⟨hadmission.replayGuard, hadmission.idempotencyStore, hadmission.deadLetterQueue,
    inFlightRequests_of_refused h, hadmission.failureCount⟩

/-- A lookup that finds a result leaves the store as it is. -/
lemma unaffected_of_found {cfg : GateConfig Dump} {packet : TransportPacket} {now : ℚ}
    {dump : Dump} {s s₁ s₂ : GateState Dump} (hadmitted : passAdmission cfg packet s = (.ok (), s₁))
    (hfound : lookUp packet s₁ = (.ok (now, some dump), s₂)) : Unaffected s (leave s₂).2 := by
  have hadmission := passAdmission_admission cfg packet s
  have hcounted := inFlightRequests_of_admitted hadmitted
  rw [hadmitted] at hadmission
  have hvalue : (s₁.idempotencyStore.getForPacket s₁.monotonic packet).1 = some dump := by
    have hok : (lookUp packet s₁).1 = .ok (now, some dump) := by rw [hfound]
    exact (Prod.mk.inj (Except.ok.inj hok)).2
  obtain rfl : (lookUp packet s₁).2 = s₂ := by rw [hfound]
  refine ⟨hadmission.replayGuard, ?_, hadmission.deadLetterQueue, ?_, hadmission.failureCount⟩
  · exact (IdempotencyStore.store_of_getForPacket _ _ hvalue).trans hadmission.idempotencyStore
  · change s₁.inFlightRequests - 1 = s.inFlightRequests
    rw [hcounted.1]
    ring

lemma asked_of_misses {cfg : GateConfig Dump} {packet : TransportPacket} {now : ℚ}
    {s s₂ : GateState Dump} (h : Misses cfg packet s now s₂) :
    Asked packet s (guardReplay packet s₂).2 ∧
      (guardReplay packet s₂).2.inFlightRequests = s.inFlightRequests + 1 ∧
      (guardReplay packet s₂).1 = (guardAnswer packet s).1 := by
  have hanswer := (h.answer rfl).1
  obtain ⟨s₁, hadmitted, hlookUp⟩ := h
  have hadmission := passAdmission_admission cfg packet s
  have hcounted := (inFlightRequests_of_admitted hadmitted).1
  rw [hadmitted] at hadmission
  obtain rfl : (lookUp packet s₁).2 = s₂ := by rw [hlookUp]
  refine ⟨⟨(congrArg Prod.snd hanswer).symm, ⟨s₁.monotonic, ?_⟩, hadmission.deadLetterQueue,
    hadmission.failureCount⟩, hcounted, (congrArg Prod.fst hanswer).symm⟩
  rw [← hadmission.idempotencyStore]
  rfl

/-! ### What is left of the start of a call -/

/-- A call for what the ingress validation has made of its request, that starts in the state `s`,
comes to its deadline only with a packet that has a budget. -/
def ComesWithBudget (cfg : GateConfig Dump) (validated : Except PyError TransportPacket)
    (s : GateState Dump) : Prop :=
  ∀ packet, validated = .ok packet → PassesGuard cfg packet s → cfg.timeoutPolicy.Budgets packet

lemma comesWithBudget_of_budgets {cfg : GateConfig Dump} {packet : TransportPacket}
    (h : cfg.timeoutPolicy.Budgets packet) (s : GateState Dump) :
    ComesWithBudget cfg (.ok packet) s := by
  intro packet' hpacket _
  rwa [← Except.ok.inj hpacket]

lemma startDeadline_ok_iff {cfg : GateConfig Dump} {packet : TransportPacket}
    {s : GateState Dump} :
    (∃ deadline, (startDeadline cfg packet s).1 = .ok deadline) ↔
      cfg.timeoutPolicy.Budgets packet :=
  cfg.timeoutPolicy.exists_startDeadline_iff packet s.monotonic

lemma begun_of_begins {cfg : GateConfig Dump} {packet : TransportPacket} {now : ℚ}
    {deadline : Deadline} {s s' : GateState Dump} (h : Begins cfg packet s now deadline s') :
    Begun packet s s' ∧ PassesGuard cfg packet s ∧ cfg.timeoutPolicy.Budgets packet := by
  obtain ⟨s₂, s₃, hmisses, hguard, hdeadline⟩ := h
  obtain ⟨hasked, hcounted, hanswer⟩ := asked_of_misses hmisses
  rw [hguard] at hasked hcounted hanswer
  have hbudgets : cfg.timeoutPolicy.Budgets packet :=
    startDeadline_ok_iff.1 ⟨deadline, congrArg Prod.fst hdeadline⟩
  obtain rfl : (startDeadline cfg packet s₃).2 = s' := by rw [hdeadline]
  exact ⟨⟨⟨hasked.replayGuard, hasked.idempotencyStore, hasked.deadLetterQueue,
    hasked.failureCount⟩, hcounted⟩, ⟨hmisses.asks, hanswer.symm⟩, hbudgets⟩

/-- A packet is admitted by a breaker that is not open. -/
lemma breaker_of_admitted {cfg : GateConfig Dump} {packet : TransportPacket}
    {s s' : GateState Dump} (h : passAdmission cfg packet s = (.ok (), s')) :
    s'.circuitBreaker.state ≠ .opened ∧
      s'.circuitBreaker.failureCount = s.circuitBreaker.failureCount := by
  have hcount := (passAdmission_admission cfg packet s).failureCount
  rw [h] at hcount
  refine ⟨?_, hcount⟩
  rw [passAdmission] at h
  simp only at h
  split at h
  · cases h
  split at h
  · cases h
  split at h
  · cases h
  split at h
  · cases h
  · rename_i hpassed
    cases h
    rcases s.circuitBreaker.beforeCall_cases s.monotonic.tick.now with
      ⟨hstate, hpasses⟩ | ⟨openedAt, -, -, ⟨-, hrefused, -⟩ | ⟨-, hpasses⟩⟩
    · rw [hpasses]
      exact hstate
    · rw [hpassed] at hrefused
      cases hrefused
    · rw [hpasses]
      show BreakerState.halfOpen ≠ .opened
      decide

/-- A failure that the breaker has not counted is not the end of an execution. -/
lemma not_executed_of_uncounted {cfg : GateConfig Dump} {packet : TransportPacket} {e : PyError}
    {s s' : GateState Dump} (hstate : s'.circuitBreaker.state ≠ .opened)
    (hcount : s'.circuitBreaker.failureCount = s.circuitBreaker.failureCount) :
    ¬ Executed packet (FailureEnding cfg packet e) s [(s, s')] := by
  intro h
  generalize hsegments : [(s, s')] = segments at h
  cases h with
  | @atOnce s₁ s₂ t hbegun hwork hending =>
    obtain rfl : s' = t := (Prod.mk.inj (List.cons.inj hsegments).1).2
    obtain ⟨-, -, ⟨-, hopened, -⟩ | ⟨-, -, -, hcounted⟩⟩ :=
      s₂.circuitBreaker.recordFailure_cases s₂.monotonic.now
    · exact hstate (hending.circuitBreaker ▸ hopened)
    · rw [← hending.circuitBreaker, hcount, hwork.circuitBreaker, hbegun.failureCount] at hcounted
      omega
  | inTurns hbegun hwork hmid hlast hending =>
    exact absurd (List.cons.inj hsegments).2 (by simp)

/-- A call without a budget ends in none of the ways. -/
lemma not_exits_of_unstarted {cfg : GateConfig Dump} {packet : TransportPacket} {now : ℚ}
    {e : PyError} {s s₂ s₃ s₄ : GateState Dump} (hmisses : Misses cfg packet s now s₂)
    (hguard : guardReplay packet s₂ = (.ok (), s₃))
    (hdeadline : startDeadline cfg packet s₃ = (.error e, s₄)) (way : ExitWay) :
    ¬ Exits cfg (.ok packet) (.error e) [(s, (leave s₄).2)] way := by
  intro hexits
  -- it has passed the guard and has no result
  have hway : way = .failed := by
    obtain ⟨t, t', rest, hsegments, rfl⟩ := hexits.eq_exitWay
    obtain rfl : s = t := (Prod.mk.inj (List.cons.inj hsegments).1).1
    rw [exitWay_of_misses hmisses.asks, (hmisses.answer hguard).1]
  subst hway
  obtain ⟨packet', t, e', hpacket, -, -, -, hexecuted⟩ := hexits
  obtain rfl := Except.ok.inj hpacket
  obtain ⟨t', rest, hsegments⟩ := hexecuted.exists_cons
  obtain rfl : s = t := (Prod.mk.inj (List.cons.inj hsegments).1).1
  -- but the breaker is as admission control has left it
  obtain ⟨s₁, hadmitted, hlookUp⟩ := hmisses
  obtain ⟨hstate, hcount⟩ := breaker_of_admitted hadmitted
  obtain rfl : (lookUp packet s₁).2 = s₂ := by rw [hlookUp]
  obtain rfl : (guardReplay packet (lookUp packet s₁).2).2 = s₃ := by rw [hguard]
  obtain rfl : (startDeadline cfg packet _).2 = s₄ := by rw [hdeadline]
  refine not_executed_of_uncounted ?_ ?_ hexecuted
  · exact hstate
  · exact hcount

/-- A call that is turned away has one segment.  It ends in one of three ways, unless it comes to
its deadline without a budget: then it ends in none. -/
lemma TurnedAway.exits_iff {cfg : GateConfig Dump} {s s' : GateState Dump}
    {validated outcome : Except PyError TransportPacket} {events : List (GateEvent Dump)}
    (h : TurnedAway cfg s validated s' events outcome) :
    (∃ way, Exits cfg validated outcome [(s, s')] way) ↔ ComesWithBudget cfg validated s := by
  cases h with
  | invalid e =>
    refine iff_of_true
      ⟨.refused, s, s, e, rfl, rfl, Or.inl rfl, rfl, rfl, rfl, rfl, rfl⟩ ?_
    intro packet hpacket
    cases hpacket
  | @refused packet e s' hrefused =>
    refine iff_of_true ⟨.refused, s, s', e, rfl, rfl, Or.inr ⟨packet, rfl, by rw [hrefused]⟩,
      unaffected_of_refused hrefused⟩ ?_
    rintro packet' hpacket ⟨hasks, -⟩
    obtain rfl := Except.ok.inj hpacket
    obtain ⟨now, s₂, s₁, hadmitted, -⟩ := asksGuard_iff.1 hasks
    rw [hrefused] at hadmitted
    cases hadmitted
  | @cached packet now dump s₁ s₂ hadmitted hfound =>
    refine iff_of_true ⟨.cached, packet, s, _, dump, rfl, rfl, ⟨s₁, now, s₂, hadmitted, hfound⟩,
      rfl, unaffected_of_found hadmitted hfound⟩ ?_
    rintro packet' hpacket ⟨hasks, -⟩
    obtain rfl := Except.ok.inj hpacket
    obtain ⟨now', s₂', s₁', hadmitted', hmissed⟩ := asksGuard_iff.1 hasks
    obtain rfl : s₁ = s₁' := (Prod.mk.inj (hadmitted.symm.trans hadmitted')).2
    rw [hfound] at hmissed
    cases hmissed
  | @replayed packet now e s₂ s₃ hmisses hguard =>
    obtain ⟨hasked, hcounted, hanswer⟩ := asked_of_misses hmisses
    rw [hguard] at hasked hcounted hanswer
    refine iff_of_true ⟨.replayed, packet, s, _, e, rfl, rfl, hmisses.asks, hanswer.symm,
      rfl, ⟨hasked.replayGuard, hasked.idempotencyStore, hasked.deadLetterQueue,
        hasked.failureCount⟩, ?_⟩ ?_
    · change s₃.inFlightRequests - 1 = s.inFlightRequests
      rw [show s₃.inFlightRequests = s.inFlightRequests + 1 from hcounted]
      ring
    · rintro packet' hpacket ⟨-, hpassed⟩
      obtain rfl := Except.ok.inj hpacket
      rw [← hanswer] at hpassed
      cases hpassed
  | @unstarted packet now e s₂ s₃ s₄ hmisses hguard hdeadline =>
    refine iff_of_false ?_ fun hbudgeted => ?_
    · rintro ⟨way, hexits⟩
      exact not_exits_of_unstarted hmisses hguard hdeadline way hexits
    · obtain ⟨deadline, hok⟩ := startDeadline_ok_iff.2 (hbudgeted packet rfl
        ⟨hmisses.asks, congrArg Prod.fst (hmisses.answer hguard).1⟩)
      rw [hdeadline] at hok
      cases hok

/-! ### The last segment -/

lemma successEnding_ended (cfg : GateConfig Dump) (packet result : TransportPacket)
    (s : GateState Dump) : SuccessEnding cfg packet result s (ended cfg packet (.ok result) s) := by
  rcases hsuccess : isTerminalSuccess result with _ | _
  · have hended : ended cfg packet (.ok result) s = (leave (recordSuccess s).2).2 := by
      rw [ended, settled, hsuccess]
      rfl
    rw [hended]
    refine ⟨rfl, rfl, ?_, rfl, rfl⟩
    rw [hsuccess]
    cases idempotencyNamespaceKey packet <;> rfl
  · have hended : ended cfg packet (.ok result) s =
        (leave (cacheResult cfg packet result (recordSuccess s).2).2).2 := by
      rw [ended, settled, hsuccess]
      rfl
    rw [hended]
    refine ⟨rfl, rfl, ?_, rfl, rfl⟩
    rw [hsuccess]
    simp only [leave, cacheResult, IdempotencyStore.setForPacket, recordSuccess, if_true]
    cases idempotencyNamespaceKey packet <;> rfl

lemma failureEnding_ended (cfg : GateConfig Dump) (packet : TransportPacket) {e : PyError}
    (he : e.isException = true) (s : GateState Dump) :
    FailureEnding cfg packet e s (ended cfg packet (.error e) s) := by
  have hsettled : settled cfg packet (.error e) s = (recordFailure cfg packet e s).2 := by
    rw [settled, if_pos he]
  rw [ended, hsettled]
  exact ⟨rfl, rfl, rfl, rfl, rfl⟩

lemma Executed.mono {packet : TransportPacket}
    {Ending Ending' : GateState Dump → GateState Dump → Prop} {s : GateState Dump}
    {segments : List (GateState Dump × GateState Dump)}
    (h : Executed packet Ending s segments) (hmono : ∀ t t', Ending t t' → Ending' t t') :
    Executed packet Ending' s segments := by
  cases h with
  | atOnce hbegun hwork hending => exact .atOnce hbegun hwork (hmono _ _ hending)
  | inTurns hbegun hwork hmid hlast hending =>
    exact .inTurns hbegun hwork hmid hlast (hmono _ _ hending)

/-- An execution that ends with a result or an `Exception` is accounted for. -/
lemma exits_of_executed {cfg : GateConfig Dump} {packet : TransportPacket}
    {outcome : Except PyError TransportPacket} {s : GateState Dump}
    {segments : List (GateState Dump × GateState Dump)} (hpass : PassesGuard cfg packet s)
    (houtcome : OnlyExceptions outcome)
    (h : Executed packet (fun t t' => t' = ended cfg packet outcome t) s segments) :
    ∃ way, Exits cfg (.ok packet) outcome segments way := by
  cases outcome with
  | ok result =>
    refine ⟨.succeeded, packet, s, result, rfl, hpass, rfl, h.mono ?_⟩
    rintro t _ rfl
    exact successEnding_ended cfg packet result t
  | error e =>
    refine ⟨.failed, packet, s, e, rfl, hpass, rfl, houtcome e rfl, h.mono ?_⟩
    rintro t _ rfl
    exact failureEnding_ended cfg packet (houtcome e rfl) t

/-! ### Along a run -/

/-- What the segments of a call say that starts in the state `s`: how it has ended, if it came with
a budget, or that it is at work on its packet. -/
def ExitKept (cfg : GateConfig Dump) (validated : Except PyError TransportPacket)
    (s : GateState Dump) (started : Option TransportPacket)
    (segments : List (GateState Dump × GateState Dump)) :
    Status (gate Dump) TransportPacket → Prop
  | .finished outcome =>
    (∃ way, Exits cfg validated outcome segments way) ↔ ComesWithBudget cfg validated s
  | .waiting _ _ => ∃ packet s₁ s₂ mid, validated = .ok packet ∧ started = some packet ∧
      PassesGuard cfg packet s ∧ cfg.timeoutPolicy.Budgets packet ∧ Begun packet s s₁ ∧
      Working s₁ s₂ ∧ (∀ p ∈ mid, Working p.1 p.2) ∧ segments = (s, s₂) :: mid

section Run

variable {cfg : GateConfig Dump} {packet : TransportPacket} {tid : ℕ}

/-- The first segment of a call that comes to its execution. -/
lemma ExitKept.of_begins {s s₁ : GateState Dump} {now : ℚ} {deadline : Deadline}
    {w w' : World (gate Dump)} {t : Status (gate Dump) TransportPacket}
    (hbegins : Begins cfg packet s now deadline s₁) (hw : w.state = s₁)
    (h : Advance cfg packet uncancelled OnlyExceptions tid w (t, w')) :
    ExitKept cfg (.ok packet) s (some packet) [(s, w'.state)] t := by
  obtain ⟨hbegun, hpass, hbudgets⟩ := begun_of_begins hbegins
  subst hw
  cases h with
  | waits hwork hevents hk =>
    exact ⟨packet, _, _, [], rfl, rfl, hpass, hbudgets, hbegun, hwork, by simp, rfl⟩
  | ends hwork hevents houtcome =>
    exact iff_of_true (exits_of_executed hpass houtcome (.atOnce hbegun hwork rfl))
      (comesWithBudget_of_budgets hbudgets s)

/-- A later segment. -/
lemma ExitKept.advance {validated : Except PyError TransportPacket}
    {s : GateState Dump} {segments : List (GateState Dump × GateState Dump)}
    {w w' : World (gate Dump)} {t t' : Status (gate Dump) TransportPacket}
    (hkept : ExitKept cfg validated s (some packet) segments t)
    (hwaits : t.request?.isSome = true)
    (h : Advance cfg packet uncancelled OnlyExceptions tid w (t', w')) :
    ExitKept cfg validated s (some packet) (segments ++ [(w.state, w'.state)]) t' := by
  cases t with
  | finished outcome => cases hwaits
  | waiting q k =>
    obtain ⟨packet', s₁, s₂, mid, rfl, hstarted, hpass, hbudgets, hbegun, hwork, hmid, rfl⟩ := hkept
    obtain rfl := Option.some.inj hstarted
    cases h with
    | waits hwork' hevents hk =>
      refine ⟨packet, s₁, s₂, mid ++ [_], rfl, rfl, hpass, hbudgets, hbegun, hwork, ?_, rfl⟩
      exact List.forall_mem_append.2 ⟨hmid, by simpa using hwork'⟩
    | ends hwork' hevents houtcome =>
      exact iff_of_true (exits_of_executed hpass houtcome (.inTurns hbegun hwork hmid hwork' rfl))
        (comesWithBudget_of_budgets hbudgets s)

/-- With those hypotheses the work on a packet ends with a result or an `Exception`. -/
lemma ends_deadlineWork (hcfg : RaisesExceptions cfg) (packet : TransportPacket)
    (deadline : Deadline) :
    (deadlineWork cfg packet deadline).Ends uncancelled OnlyExceptions := by
  refine ends_waitFor (ends_attempts (ends_runOnce hcfg packet deadline) _ _ _ _ _ ?_)
  intro e he
  cases he

/-- The first segment of a call. -/
lemma ExitKept.of_opens (hcfg : RaisesExceptions cfg) {w : World (gate Dump)}
    (hfresh : ∀ e, (tid, e) ∉ w.log) {validated : Except PyError TransportPacket}
    {r : Status (gate Dump) TransportPacket × World (gate Dump)}
    (hopens : Opens cfg tid w validated r) :
    ExitKept cfg validated w.state (startedPacket tid r.2.log) [(w.state, r.2.state)] r.1 := by
  cases hopens with
  | turnedAway haway => exact haway.exits_iff
  | @begins packet now deadline s₁ hbegins =>
    have hadvance := segment_executing cfg packet
      (isWork_deadlineWork cfg packet deadline (ends_deadlineWork hcfg packet deadline)) tid
      (worldAfter w tid s₁ (begunEvents packet now deadline))
    generalize (executing cfg packet (deadlineWork cfg packet deadline)).segment _ _ = r
      at hadvance ⊢
    have hkept := ExitKept.of_begins hbegins rfl hadvance
    obtain ⟨s', events, hw⟩ := hadvance.exists_worldAfter
    have hstarted : startedPacket tid r.2.log = some packet := by
      rw [hw, worldAfter_worldAfter, worldAfter_log, startedPacket_append_fresh hfresh]
      rfl
    rw [hstarted]
    exact hkept

variable {Env : GateState Dump → GateState Dump → Prop} {s : GateState Dump}
  {ms : List (Move (gate Dump) TransportPacket)}

lemma callsKept_run (hcfg : RaisesExceptions cfg) (h : ServiceRun cfg uncancelled Env ms) :
    CallsKept cfg uncancelled OnlyExceptions ((Pool.init s).run ms) :=
  (h.induction (motive := fun _ _ => True) (ends_deadlineWork hcfg) trivial
    fun _ _ _ _ _ _ _ => trivial).2

/-- The segments of every call of a run say how it has ended, or that it is at work. -/
lemma exitKept_run (hcfg : RaisesExceptions cfg) {validated : Except PyError TransportPacket}
    (pre : List (Move (gate Dump) TransportPacket))
    (h : ServiceRun cfg uncancelled Env
      (pre ++ [.spawn (execute cfg (dispatch cfg) validated)] ++ ms)) :
    ∃ t, ((Pool.init s).run (pre ++ [.spawn (execute cfg (dispatch cfg) validated)] ++
        ms)).tasks[((Pool.init s).run pre).tasks.length]? = some t ∧
      ExitKept cfg validated ((Pool.init s).run pre).world.state
        (startedPacket ((Pool.init s).run pre).tasks.length
          (runLog s (pre ++ [.spawn (execute cfg (dispatch cfg) validated)] ++ ms)))
        ((Pool.init s).segmentsOf ((Pool.init s).run pre).tasks.length
          (pre ++ [.spawn (execute cfg (dispatch cfg) validated)] ++ ms)) t := by
  induction ms using List.reverseRecOn with
  | nil =>
    rw [List.append_nil] at h ⊢
    have hpre : CallsKept cfg uncancelled OnlyExceptions ((Pool.init s).run pre) :=
      callsKept_run hcfg h.of_append
    have hfresh : ∀ e, (((Pool.init s).run pre).tasks.length, e) ∉
        ((Pool.init s).run pre).world.log :=
      fun e he => absurd (hpre.started _ e he) (lt_irrefl _)
    have hopens := segment_execute_opens cfg validated ((Pool.init s).run pre).tasks.length
      ((Pool.init s).run pre).world
    have hruns : ((Pool.init s).run pre).runs ((Pool.init s).run pre).tasks.length
        (.spawn (execute cfg (dispatch cfg) validated)) = true := decide_eq_true rfl
    rw [Pool.segmentsOf_concat_of_runs hruns, Pool.segmentsOf_eq_nil le_rfl, runLog,
      Pool.run_concat, Pool.step]
    exact ⟨_, List.getElem?_concat_length, .of_opens hcfg hfresh hopens⟩
  | append_singleton ms m ih =>
    rw [← List.append_assoc] at h ⊢
    obtain ⟨t, hget, hkept⟩ := ih h.of_append
    generalize pre ++ [.spawn (execute cfg (dispatch cfg) validated)] ++ ms = ms₁ at *
    have hstep := (callsKept_run (s := s) hcfg h.of_append).callStep (ends_deadlineWork hcfg) h
      (List.mem_append_right ms₁ (List.mem_singleton_self m))
    have hlt := (List.getElem?_eq_some_iff.1 hget).1
    rw [runLog, Pool.run_concat]
    rcases hruns : ((Pool.init s).run ms₁).runs ((Pool.init s).run pre).tasks.length m with _ | _
    · obtain ⟨hget', hevents⟩ := Pool.step_of_not_runs hlt hruns
      refine ⟨t, hget'.trans hget, ?_⟩
      rw [Pool.segmentsOf_concat_of_not_runs hruns, startedPacket, hevents]
      exact hkept
    · obtain ⟨packet, t', w, ⟨q, k, hwaits⟩, hstarted, hadvance, hc'⟩ := hstep.advance hlt hruns
      obtain rfl := Option.some.inj (hget.symm.trans hwaits)
      rw [Pool.segmentsOf_concat_of_runs hruns, hc']
      rw [runLog, hstarted] at hkept
      refine ⟨t', List.getElem?_set_self hlt, ?_⟩
      have hadvanced := hkept.advance rfl hadvance
      obtain ⟨s', events, rfl⟩ := hadvance.exists_worldAfter
      rw [worldAfter_log, startedPacket_append hstarted]
      exact hadvanced

end Run

end ConstellationGate
