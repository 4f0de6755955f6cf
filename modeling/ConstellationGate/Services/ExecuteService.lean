import ConstellationGate.Orchestration.WorkflowEngine
import ConstellationGate.Routing.Dispatch

/-!
# The execute service

`services/execute_service.py`: admission control, the idempotency lookup, the replay guard,
one deadline, the execution with its retries, and the caching of the result.

The coroutine `execute` takes the outcome of the ingress validation of its request body.  The
`finally` block of the source is a `Co.handle`, as are its exception handlers.
-/

namespace ConstellationGate

variable {Dump : Type}

/-- `_is_terminal_success`: neither the packet nor its last response hop reports a failure. -/
def isTerminalSuccess (result : TransportPacket) : Bool :=
  if result.header.packetType = .failure then false
  else
    match result.hopTrace.reverse.find? fun hop => hop.direction = .response with
    | some hop => hop.status ≠ .failed
    | none => true

/-- `_retry_policy_for`: the template, with no more attempts than the action is allowed. -/
def retryPolicyFor (cfg : GateConfig Dump) (packet : TransportPacket) : RetryPolicy :=
  let resolved := maxAttemptsFor cfg.replaySafeActions packet.header.action
    (packet.header.idempotencyKey.any fun key => key ≠ "")
  { cfg.retryPolicy with
    maxAttempts := min resolved cfg.retryPolicy.maxAttempts
    one_le_maxAttempts := le_min (one_le_maxAttemptsFor _ _ _) cfg.retryPolicy.one_le_maxAttempts }

/-! ### The calls that do not await -/

/-- Admission control: rate limit, load shedding, backpressure, circuit breaker. -/
def passAdmission (cfg : GateConfig Dump) (packet : TransportPacket) (s : GateState Dump) :
    Except PyError Unit × GateState Dump :=
  let (allowed, rateLimiter) := s.rateLimiter.allow packet.address.sourceNode s.monotonic.now
  let s := { s with rateLimiter := rateLimiter, monotonic := s.monotonic.tick }
  match allowed with
  | .error e => (.error e, s)
  | .ok () =>
    match cfg.loadShedding.enforce s.inFlightRequests with
    | .error e => (.error e, s)
    | .ok () =>
      match cfg.backpressure.enforce s.queueDepth with
      | .error e => (.error e, s)
      | .ok () =>
        let (passed, circuitBreaker) := s.circuitBreaker.beforeCall s.monotonic.now
        let s := { s with circuitBreaker := circuitBreaker, monotonic := s.monotonic.tick }
        match passed with
        | .error e => (.error e, s)
        | .ok () => (.ok (), { s with inFlightRequests := s.inFlightRequests + 1 })

/-- The idempotency lookup, with the clock reading from which it starts. -/
def lookUp (packet : TransportPacket) (s : GateState Dump) :
    Except PyError (ℚ × Option Dump) × GateState Dump :=
  let (found, store, clock) := s.idempotencyStore.getForPacket s.monotonic packet
  (.ok (s.monotonic.now, found), { s with idempotencyStore := store, monotonic := clock })

/-- The replay guard. -/
def guardReplay (packet : TransportPacket) (s : GateState Dump) :
    Except PyError Unit × GateState Dump :=
  let (passed, replayGuard) := s.replayGuard.checkAndRecord packet.header.packetId s.wall.now
  (passed, { s with replayGuard := replayGuard, wall := s.wall.tick })

/-- `Deadline(timeout_seconds)`, for the timeout that the policy resolves. -/
def startDeadline (cfg : GateConfig Dump) (packet : TransportPacket) (s : GateState Dump) :
    Except PyError Deadline × GateState Dump :=
  let (deadline, clock) := cfg.timeoutPolicy.startDeadline packet s.monotonic
  (deadline, { s with monotonic := clock })

/-- The failed execution is counted by the circuit breaker and put into the dead-letter queue. -/
def recordFailure (cfg : GateConfig Dump) (packet : TransportPacket) (exc : PyError)
    (s : GateState Dump) : Except PyError Unit × GateState Dump :=
  (.ok (), { s with
    circuitBreaker := s.circuitBreaker.recordFailure s.monotonic.now
    monotonic := s.monotonic.tick
    deadLetterQueue := s.deadLetterQueue.put packet (cfg.sdk.dump packet) exc s.wall.now
    wall := s.wall.tick })

/-- The circuit breaker learns of the success. -/
def recordSuccess (s : GateState Dump) : Except PyError Unit × GateState Dump :=
  (.ok (), { s with circuitBreaker := s.circuitBreaker.recordSuccess })

/-- `set_for_packet`, with the key under which the result is stored and the clock reading. -/
def cacheResult (cfg : GateConfig Dump) (packet result : TransportPacket) (s : GateState Dump) :
    Except PyError (Option (String × ℚ)) × GateState Dump :=
  let (_, store, clock) :=
    s.idempotencyStore.setForPacket s.monotonic packet (cfg.sdk.dump result)
  (.ok ((idempotencyNamespaceKey packet).map fun key => (key, s.monotonic.now)),
    { s with idempotencyStore := store, monotonic := clock })

/-- The request is no longer in flight. -/
def leave (s : GateState Dump) : Except PyError Unit × GateState Dump :=
  (.ok (), { s with inFlightRequests := s.inFlightRequests - 1 })

/-! ### The coroutine -/

/-- `asyncio.wait_for`: the cancellation by its own timer becomes a `TimeoutError`. -/
def waitFor {α : Type} (p : Co (gate Dump) α) : Co (gate Dump) α :=
  p.handle fun
    | .ok a => Co.done (.ok a)
    | .error e =>
      if e.cls = .cancelledError ∧ e.timer = true then
        Co.raise (S := gate Dump) { cls := .timeoutError }
      else Co.raise (S := gate Dump) e

section Execute

variable (cfg : GateConfig Dump)
  (dispatcher : TransportPacket → Option Deadline → Co (gate Dump) TransportPacket)
  (packet : TransportPacket)

/-- `_run`: one attempt, by the workflow engine or by the dispatcher. -/
def runOnce (deadline : Deadline) : Co (gate Dump) TransportPacket := do
  Co.log (S := gate Dump) (.attempted packet)
  if hasWorkflow cfg packet.header.action then
    executeWorkflow cfg dispatcher packet (some deadline)
  else
    let answer ← dispatcher packet (some deadline)
    Co.log (S := gate Dump) (.answered answer)
    pure answer

/-- What follows the execution: its failure is recorded, its result is cached when it is a
success. -/
def settle : Except PyError TransportPacket → Co (gate Dump) TransportPacket
  | .error exc => do
    -- a cancellation is no `Exception`: it passes without a trace
    if exc.isException then Co.call (S := gate Dump) (recordFailure cfg packet exc)
    Co.raise (S := gate Dump) exc
  | .ok result => do
    Co.call (S := gate Dump) recordSuccess
    if isTerminalSuccess result then
      match ← Co.call (S := gate Dump) (cacheResult cfg packet result) with
      | none => pure result
      | some (key, now) =>
        Co.log (S := gate Dump) (.stored key now (cfg.sdk.dump result))
        pure result
    else pure result

/-- What an admitted request does. -/
def serve : Co (gate Dump) TransportPacket := do
  let (now, cached) ← Co.call (S := gate Dump) (lookUp packet)
  Co.log (S := gate Dump) (.lookedUp packet now cached)
  match cached with
  | some dump => liftExcept (cfg.sdk.modelValidate dump)
  | none =>
    Co.call (S := gate Dump) (guardReplay packet)
    let deadline ← Co.call (S := gate Dump) (startDeadline cfg packet)
    Co.log (S := gate Dump) (.deadlineStarted packet deadline)
    (waitFor ((retryPolicyFor cfg packet).run (runOnce cfg dispatcher packet deadline)
      (some deadline))).handle (settle cfg packet)

/-- `ExecuteService.execute`, without the record of its end. -/
def executePacket (validated : Except PyError TransportPacket) :
    Co (gate Dump) TransportPacket := do
  let packet ← liftExcept validated
  Co.call (S := gate Dump) (passAdmission cfg packet)
  Co.log (S := gate Dump) (.admitted packet)
  (serve cfg dispatcher packet).handle fun outcome => do
    Co.call (S := gate Dump) leave
    liftExcept outcome

/-- `ExecuteService.execute`, for a request body of which the ingress validation has made
`validated`. -/
def execute (validated : Except PyError TransportPacket) : Co (gate Dump) TransportPacket :=
  (executePacket cfg dispatcher validated).handle fun outcome => do
    Co.log (S := gate Dump) (.returned outcome)
    liftExcept outcome

end Execute

/-! ### What admission control touches -/

/-- Admission control touches the rate limiter, the circuit breaker and the clock alone; a packet
that it admits is counted. -/
structure Admission (s s' : GateState Dump) : Prop where
  idempotencyStore : s'.idempotencyStore = s.idempotencyStore
  replayGuard : s'.replayGuard = s.replayGuard
  failureCount : s'.circuitBreaker.failureCount = s.circuitBreaker.failureCount
  deadLetterQueue : s'.deadLetterQueue = s.deadLetterQueue
  wall : s'.wall = s.wall
  monotonic : s.monotonic.Later s'.monotonic

lemma passAdmission_admission (cfg : GateConfig Dump) (packet : TransportPacket)
    (s : GateState Dump) : Admission s (passAdmission cfg packet s).2 := by
  have htick := MonotonicClock.later_tick s.monotonic
  have htwice := htick.trans (MonotonicClock.later_tick s.monotonic.tick)
  have hbreaker := s.circuitBreaker.failureCount_beforeCall s.monotonic.tick.now
  rw [passAdmission]
  simp only
  split
  · exact ⟨rfl, rfl, rfl, rfl, rfl, htick⟩
  split
  · exact ⟨rfl, rfl, rfl, rfl, rfl, htick⟩
  split
  · exact ⟨rfl, rfl, rfl, rfl, rfl, htick⟩
  split <;> exact ⟨rfl, rfl, hbreaker, rfl, rfl, htwice⟩

end ConstellationGate
