import ConstellationGate.Routing.Resolver

/-!
# The dispatcher

`routing/dispatch.py`: a packet is resolved to a node, a child packet with the budget of the
attempt is derived for it, and the child is sent under a permit of the node.

The coroutine `dispatch` follows the source: what precedes the permit is a chain of calls
that do not await (`derivePacket`, `sealPacket`); the `try` block keeps the two flags of
the source (`Permits`), whose values when it ends decide what the `finally` block undoes.
-/

namespace ConstellationGate

variable {Dump : Type}

/-! ### The budget of an attempt -/

/-- `int(budget_seconds * 1000)`, refused when it is not positive; the budget is never negative.
The arithmetic is exact: the product of floats can be truncated to a millisecond less, as that of
`1001 / 1000` is to 1000. -/
def budgetInMs (budgetSeconds : ℚ) : Except PyError ℕ :=
  let budgetMs := ⌊budgetSeconds * 1000⌋
  if budgetMs ≤ 0 then
    .error { cls := .deadlineExceeded,
             message :=
               "remaining budget for worker dispatch rounds to " ++ toString budgetMs ++ "ms" }
  else .ok budgetMs.toNat

/-- `_worker_budget_ms`: the remaining budget of the packet, capped by the node's own timeout, in
exact arithmetic. -/
def workerBudgetMs (nodeTimeoutMs : ℕ) (deadline : Option Deadline) (clock : MonotonicClock) :
    Except PyError ℕ × MonotonicClock :=
  let nodeCapSeconds : ℚ := nodeTimeoutMs / 1000
  match deadline with
  | none => (budgetInMs nodeCapSeconds, clock)
  | some d =>
    match d.raiseIfExpired clock.now "worker dispatch" with
    | .error e => (.error e, clock.tick)
    | .ok () =>
      match d.boundedBy clock.tick.now (some nodeCapSeconds) with
      | .error e => (.error e, clock.tick.tick)
      | .ok budgetSeconds => (budgetInMs budgetSeconds, clock.tick.tick)

/-- The deadline of an attempt, with the clock reading from which its budget is computed. -/
def budgetReading (deadline : Option Deadline) (clock : MonotonicClock) : Option (Deadline × ℚ) :=
  deadline.map fun d => (d, clock.tick.now)

/-! ### The packet for the worker -/

/-- A node that a packet is for, and the packet derived for it. -/
structure DispatchPlan where
  target : NodeRegistration
  budget : Option (Deadline × ℚ)
  packet : TransportPacket

/-- What the dispatcher asks `derive` for. -/
def dispatchArgs (gateNode : String) (target : NodeRegistration) (workerBudgetMs : ℕ)
    (observed : TransportPacket) : DeriveArgs where
  packetType := some observed.header.packetType
  action := some observed.header.action
  sourceNode := some gateNode
  destinationNode := some target.nodeName
  replyTo := some gateNode
  payload := some observed.payload
  timeoutMs := some workerBudgetMs
  provenance := some
    { originKind := .gate
      requestedAction := observed.header.action
      resolvedByGate := true
      routeKind := some "external_ingress"
      originalSourceNode := some observed.address.sourceNode }

/-- The first part of `dispatch`: resolve, compute the budget, observe the ingress, derive. -/
def derivePacket (cfg : GateConfig Dump) (packet : TransportPacket) (deadline : Option Deadline)
    (s : GateState Dump) : Except PyError DispatchPlan × GateState Dump :=
  match resolvePacket s.registry cfg.gateNode packet with
  | .error e => (.error e, s)
  | .ok target =>
    -- budget first, before any packet is minted
    match workerBudgetMs target.timeoutMs deadline s.monotonic with
    | (.error e, clock) => (.error e, { s with monotonic := clock })
    | (.ok budgetMs, clock) =>
      let derived := do
        let hop ← cfg.sdk.makeIngressHop packet cfg.gateNode packet.header.action .validated
        let observed ← cfg.sdk.withHop packet hop
        cfg.sdk.derive s.minted observed (dispatchArgs cfg.gateNode target budgetMs observed)
      let s' := { s with monotonic := clock, minted := s.minted + 1 }
      match derived with
      | .error e => (.error e, s')
      | .ok base => (.ok ⟨target, budgetReading deadline s.monotonic, base⟩, s')

/-- The second part: record the dispatch hop and check Gate's own policy. -/
def sealPacket (cfg : GateConfig Dump) (plan : DispatchPlan) : Except PyError TransportPacket := do
  let hop ← cfg.sdk.makeDispatchHop plan.packet cfg.gateNode plan.packet.header.action
    plan.target.nodeName .delegated
  let packet ← cfg.sdk.withHop plan.packet hop
  validateGateDispatchPolicy packet cfg.gateNode
  return packet

/-! ### The attempt under a permit -/

/-- The flags of `dispatch`: what it holds and has to give back. -/
structure Permits where
  acquiredLimit : Bool
  incremented : Bool

/-- Configure the node's limit and acquire a permit, when there is a limiter; the result says
whether there is one. -/
def acquireLimit (target : NodeRegistration) : Co (gate Dump) Bool := do
  if ← Co.read fun s : GateState Dump => s.nodeLimits.isSome then
    Co.call (onLimits fun m => m.ensureNodeLimit target.nodeName target.maxConcurrent)
    Co.call (onLimits fun m => m.reserve target.nodeName)
    -- `acquire` has taken the permit and now yields to the event loop
    limiterYield target.nodeName
    pure true
  else pure false

/-- `_attribute`: name the node in a failure that names none. -/
def attributeTo (exc : PyError) (nodeName : String) : PyError :=
  { exc with nodeName := exc.nodeName.or (some nodeName) }

/-- The network attempt and its exception handlers. -/
def sendToWorker (target : NodeRegistration) (packet : TransportPacket) :
    Co (gate Dump) TransportPacket :=
  (sendGateAuthoredPacket target.nodeName packet target.internalUrl).handle fun
    | .ok answer => Co.done (.ok answer)
    | .error exc =>
      if exc.isInstance [.workerConnectionError] then do
        -- only an unreachable node is evidence that the node is down
        Co.call (onRegistry fun reg => reg.markUnhealthy target.nodeName)
        Co.raise (attributeTo exc target.nodeName)
      else if exc.isException then Co.raise (attributeTo exc target.nodeName)
      else Co.raise exc

/-- The `try` block: its outcome, with the flags as they stand at its end. -/
def attemptUnderPermit (plan : DispatchPlan) (packet : TransportPacket) :
    Co (gate Dump) (Permits × Except PyError TransportPacket) := do
  match ← (acquireLimit plan.target).attempt with
  | .error exc => pure (⟨false, false⟩, .error exc)
  | .ok acquiredLimit =>
    match ← (Co.call (S := gate Dump) (onRegistry fun reg =>
        reg.incrementActive plan.target.nodeName)).attempt with
    | .error exc => pure (⟨acquiredLimit, false⟩, .error exc)
    | .ok () =>
      Co.log (S := gate Dump) (.handed plan.budget plan.target packet)
      let outcome ← (sendToWorker plan.target packet).attempt
      pure (⟨acquiredLimit, true⟩, outcome)

/-- The `finally` block; when the counter cannot be decremented the permit is not released. -/
def giveBack (target : NodeRegistration) (permits : Permits) : Co (gate Dump) Unit := do
  if permits.incremented then
    Co.call (onRegistry fun reg => reg.decrementActive target.nodeName)
  if permits.acquiredLimit then
    Co.call (onLimits fun m => m.release target.nodeName)

/-- `Dispatcher.dispatch`. -/
def dispatch (cfg : GateConfig Dump) (packet : TransportPacket) (deadline : Option Deadline) :
    Co (gate Dump) TransportPacket := do
  let plan ← Co.call (S := gate Dump) (derivePacket cfg packet deadline)
  Co.log (S := gate Dump) (.derived plan.budget plan.target plan.packet)
  let dispatchPacket ← liftExcept (sealPacket cfg plan)
  let (permits, outcome) ← attemptUnderPermit plan dispatchPacket
  giveBack plan.target permits
  liftExcept outcome

/-- What comes before the permit does not touch the limiter and the registry. -/
lemma derivePacket_frame (cfg : GateConfig Dump) (packet : TransportPacket)
    (deadline : Option Deadline) (s : GateState Dump) :
    (derivePacket cfg packet deadline s).2.nodeLimits = s.nodeLimits ∧
      (derivePacket cfg packet deadline s).2.registry = s.registry := by
  unfold derivePacket
  split
  · exact ⟨rfl, rfl⟩
  split
  · exact ⟨rfl, rfl⟩
  simp only
  split <;> exact ⟨rfl, rfl⟩

/-- A packet is derived for the node that it is resolved to, with the budget that is left, from the
dispatched one with the hop of its ingress. -/
lemma of_derivePacket {cfg : GateConfig Dump} {packet : TransportPacket}
    {deadline : Option Deadline} {s : GateState Dump} {plan : DispatchPlan}
    (h : (derivePacket cfg packet deadline s).1 = .ok plan) :
    resolvePacket s.registry cfg.gateNode packet = .ok plan.target ∧
      plan.budget = budgetReading deadline s.monotonic ∧
      ∃ budgetMs clock observed,
        workerBudgetMs plan.target.timeoutMs deadline s.monotonic = (.ok budgetMs, clock) ∧
        (∃ hop, observed = { packet with hopTrace := packet.hopTrace ++ [hop] }) ∧
        cfg.sdk.derive s.minted observed
          (dispatchArgs cfg.gateNode plan.target budgetMs observed) = .ok plan.packet := by
  unfold derivePacket at h
  split at h
  · cases h
  rename_i target hresolve
  split at h
  · cases h
  rename_i budgetMs clock hbudget
  simp only at h
  split at h
  · cases h
  rename_i base hderive
  obtain rfl := Except.ok.inj h
  obtain ⟨hop, -, hderive⟩ := bind_ok_iff.1 hderive
  obtain ⟨observed, hobserved, hderive⟩ := bind_ok_iff.1 hderive
  exact ⟨hresolve, rfl, budgetMs, clock, observed, hbudget, ⟨hop, cfg.sdk.withHop_ok hobserved⟩,
    hderive⟩

end ConstellationGate
