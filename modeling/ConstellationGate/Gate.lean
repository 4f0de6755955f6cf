import ConstellationGate.Lib.RelyGuarantee
import ConstellationGate.Orchestration.WorkflowModels
import ConstellationGate.Resilience.Admission
import ConstellationGate.Resilience.DeadLetterQueue
import ConstellationGate.Resilience.Deadline
import ConstellationGate.Resilience.Idempotency
import ConstellationGate.Resilience.Replay
import ConstellationGate.Routing.NodeRegistry
import ConstellationGate.Runtime.NodeLimits
import ConstellationGate.Transport.Sdk
import Mathlib.Tactic.NormNum

/-!
# The state of Gate and what its coroutines await

Gate runs on one event loop: its coroutines share the state below and run atomically
between two awaits.  This file collects the mutable objects that the dispatcher, the
workflow engine and the execute service hold (`GateState`), the awaits (`GateRequest`) and
the events by which a run is described (`GateEvent`).  Metrics, logging and tracing are
left out.
-/

namespace ConstellationGate

/-- The mutable objects of a Gate process. -/
structure GateState (Dump : Type) where
  registry : NodeRegistry
  /-- The per-node limiter, when the dispatcher has one. -/
  nodeLimits : Option PerNodeLimiterManager
  idempotencyStore : IdempotencyStore Dump
  replayGuard : ReplayGuard
  rateLimiter : FixedWindowRateLimiter
  circuitBreaker : CircuitBreaker
  deadLetterQueue : DeadLetterQueue Dump
  inFlightRequests : ℤ
  /-- What the queue-depth provider answers. -/
  queueDepth : ℤ
  /-- `time.monotonic`. -/
  monotonic : MonotonicClock
  /-- `datetime.now`. -/
  wall : Clock
  /-- The number of packets that `derive` has been asked for. -/
  minted : ℕ

/-- The state of a process that has just started, with the defaults of `ExecuteService`. -/
def GateState.fresh {Dump : Type} (registry : NodeRegistry)
    (nodeLimits : Option PerNodeLimiterManager) (monotonic : MonotonicClock) (wall : Clock) :
    GateState Dump where
  registry := registry
  nodeLimits := nodeLimits
  idempotencyStore := { ttl := 86400, store := .empty, ttl_pos := by decide }
  replayGuard := { windowSeconds := 300, seen := .empty, windowSeconds_pos := by decide }
  rateLimiter :=
    { maxRequests := 1000000, windowSeconds := 1, counters := .empty,
      one_le_maxRequests := one_le_million, windowSeconds_pos := by decide }
  circuitBreaker :=
    { failureThreshold := 1000000, recoveryTimeoutSeconds := 30, state := .closed,
      failureCount := 0, openedAt := none, one_le_failureThreshold := one_le_million,
      recoveryTimeoutSeconds_pos := by decide, openedAt_of_opened := openedAt_of_closed }
  deadLetterQueue := { entries := [] }
  inFlightRequests := 0
  queueDepth := 0
  monotonic := monotonic
  wall := wall
  minted := 0

/-- The awaits of Gate's coroutines. -/
inductive GateRequest
  /-- `asyncio.sleep(0)` in the limiter's `acquire`. -/
  | limiterYield (nodeName : String)
  /-- `send_gate_authored_packet`: the one network attempt. -/
  | send (nodeName : String) (packet : TransportPacket) (workerBaseUrl : String)
  /-- The sleep before a retry. -/
  | retrySleep (seconds : ℚ)
  /-- A dispatcher that is injected in place of Gate's own. -/
  | dispatch (packet : TransportPacket) (deadline : Option Deadline)

/-- The replies to the awaits. -/
def GateRequest.Reply : GateRequest → Type
  | limiterYield _ => Unit
  | send _ _ _ => TransportPacket
  | retrySleep _ => Unit
  | dispatch _ _ => TransportPacket

/-- What is recorded of a run. -/
inductive GateEvent (Dump : Type)
  /-- An execute call has passed admission. -/
  | admitted (packet : TransportPacket)
  /-- It has looked its packet up in the idempotency store, at a clock reading. -/
  | lookedUp (packet : TransportPacket) (now : ℚ) (found : Option Dump)
  /-- It has started the deadline of its packet. -/
  | deadlineStarted (packet : TransportPacket) (deadline : Deadline)
  /-- An attempt to execute the packet has begun. -/
  | attempted (packet : TransportPacket)
  /-- The workflow engine hands the packet of a step to the dispatcher. -/
  | stepStarted (step : WorkflowStep) (packet : TransportPacket)
  /-- The dispatcher has answered a step. -/
  | stepAnswered (step : WorkflowStep) (answer : TransportPacket)
  /-- The dispatcher has answered the packet of an execute call. -/
  | answered (answer : TransportPacket)
  /-- The dispatcher has derived a packet for a worker, within a budget of which `reading`
  is the clock reading. -/
  | derived (budget : Option (Deadline × ℚ)) (target : NodeRegistration) (packet : TransportPacket)
  /-- The packet is handed to the worker transport. -/
  | handed (budget : Option (Deadline × ℚ)) (target : NodeRegistration) (packet : TransportPacket)
  /-- An execute call has stored its result under a key, at a clock reading. -/
  | stored (key : String) (now : ℚ) (value : Dump)
  /-- An execute call has ended. -/
  | returned (outcome : Except PyError TransportPacket)

/-- What Gate's coroutines may do. -/
abbrev gate (Dump : Type) : Signature where
  State := GateState Dump
  Event := GateEvent Dump
  Error := PyError
  Request := GateRequest
  Reply := GateRequest.Reply

variable {Dump : Type}

/-- The log of a run that starts in `s` without tasks. -/
abbrev runLog {α : Type} (s : GateState Dump) (ms : List (Move (gate Dump) α)) :
    List (ℕ × GateEvent Dump) :=
  ((Pool.init s).run ms).world.log

/-- A method of the registry. -/
def onRegistry (f : NodeRegistry → Except PyError Unit × NodeRegistry) (s : GateState Dump) :
    Except PyError Unit × GateState Dump :=
  ((f s.registry).1, { s with registry := (f s.registry).2 })

/-- A method of the limiter; without a limiter there is nothing to call. -/
def onLimits (f : PerNodeLimiterManager → Except PyError Unit × PerNodeLimiterManager)
    (s : GateState Dump) : Except PyError Unit × GateState Dump :=
  match s.nodeLimits with
  | none => (.ok (), s)
  | some m => ((f m).1, { s with nodeLimits := some (f m).2 })

/-- A reading of the monotonic clock. -/
def readMonotonic (s : GateState Dump) : Except PyError ℚ × GateState Dump :=
  (.ok s.monotonic.now, { s with monotonic := s.monotonic.tick })

/-- A step leaves the idempotency store alone and does not turn the clock back. -/
structure Undisturbed (s s' : GateState Dump) : Prop where
  store : s'.idempotencyStore = s.idempotencyStore
  later : s.monotonic.Later s'.monotonic

/-- An exception or a value that a pure computation has produced. -/
def liftExcept {α : Type} (r : Except PyError α) : Co (gate Dump) α := Co.done r

/-- The worker, or the injected dispatcher, answers with a packet. -/
def answering (answer : TransportPacket) : ∀ q : GateRequest, Except PyError q.Reply
  | .limiterYield _ => .ok ()
  | .send _ _ _ => .ok answer
  | .retrySleep _ => .ok ()
  | .dispatch _ _ => .ok answer

/-! ### The awaits as coroutines -/

/-- `asyncio.sleep(0)` in `acquire`. -/
def limiterYield (nodeName : String) : Co (gate Dump) Unit :=
  Co.request (S := gate Dump) (.limiterYield nodeName)

/-- `send_gate_authored_packet`. -/
def sendGateAuthoredPacket (nodeName : String) (packet : TransportPacket) (workerBaseUrl : String) :
    Co (gate Dump) TransportPacket :=
  Co.request (S := gate Dump) (.send nodeName packet workerBaseUrl)

/-- `asyncio.sleep` before a retry. -/
def retrySleep (seconds : ℚ) : Co (gate Dump) Unit :=
  Co.request (S := gate Dump) (.retrySleep seconds)

/-- The injected dispatcher. -/
def injectedDispatch (packet : TransportPacket) (deadline : Option Deadline) :
    Co (gate Dump) TransportPacket :=
  Co.request (S := gate Dump) (.dispatch packet deadline)

section Wp

variable {P : Protocol (gate Dump)} {tid : ℕ} {st : Start (gate Dump)} {w : World (gate Dump)}

lemma wp_limiterYield (nodeName : String)
    {post : Except PyError Unit → Start (gate Dump) → World (gate Dump) → Prop} :
    (limiterYield nodeName).wp P tid post st w ↔
      P.Guar tid st w (some (.limiterYield nodeName)) ∧
        ∀ (r : Except PyError Unit) (w' : World (gate Dump)), P.Legal (.limiterYield nodeName) r →
          P.Inv w' → P.Rely tid w w' → post r ⟨w', some ⟨.limiterYield nodeName, r⟩⟩ w' := Iff.rfl

lemma wp_sendGateAuthoredPacket (nodeName : String) (packet : TransportPacket)
    (workerBaseUrl : String)
    {post : Except PyError TransportPacket → Start (gate Dump) → World (gate Dump) → Prop} :
    (sendGateAuthoredPacket nodeName packet workerBaseUrl).wp P tid post st w ↔
      P.Guar tid st w (some (.send nodeName packet workerBaseUrl)) ∧
        ∀ (r : Except PyError TransportPacket) (w' : World (gate Dump)),
          P.Legal (.send nodeName packet workerBaseUrl) r → P.Inv w' → P.Rely tid w w' →
          post r ⟨w', some ⟨.send nodeName packet workerBaseUrl, r⟩⟩ w' := Iff.rfl

@[simp] lemma wp_liftExcept {α : Type} (r : Except PyError α)
    {post : Except PyError α → Start (gate Dump) → World (gate Dump) → Prop} :
    (liftExcept r : Co (gate Dump) α).wp P tid post st w ↔ post r st w := Iff.rfl

end Wp

end ConstellationGate
