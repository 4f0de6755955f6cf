import ConstellationGate.Lib.Turns
import ConstellationGate.Routing.Dispatch

/-!
# The health monitor

`routing/health_monitor.py`: a round of the monitor takes a copy of the registrations, asks the
health endpoint of each node in turn, and marks a node whose answer is not what its copy says.

The monitor shares the registry with the dispatcher, so its round is a coroutine over Gate's
signature with the request to a health endpoint added.  The loop around the rounds is modelled in
`MonitorLoop.lean`.
-/

namespace ConstellationGate

variable {Dump : Type}

/-- The `client.get` in `_probe_node`, for the node `nodeName` of the round's copy. -/
structure ProbeRequest where
  nodeName : String
  registration : NodeRegistration

/-- The URL that is asked. -/
def ProbeRequest.url (q : ProbeRequest) : String :=
  q.registration.internalUrl ++ q.registration.healthEndpoint

/-- What the monitor records. -/
inductive MonitorEvent
  /-- `gate.health.restored`. -/
  | restored (nodeName : String)
  /-- `gate.health.lost`. -/
  | lost (nodeName : String)
  /-- `probe_rounds` is incremented. -/
  | probeRound

/-- What Gate's coroutines may do together with the monitor; a probe is answered with a status
code. -/
abbrev monitored (Dump : Type) : Signature :=
  (gate Dump).extend MonitorEvent ProbeRequest fun _ => ℕ

/-- What `_probe_node` returns: an error is "not healthy", a cancellation passes. -/
def probeVerdict : Except PyError ℕ → Except PyError Bool
  | .ok statusCode => .ok (statusCode = 200)
  | .error exc => if exc.isException then .ok false else .error exc

/-- `_probe_node`. -/
def probeNode (nodeName : String) (registration : NodeRegistration) : Co (monitored Dump) Bool :=
  (Co.request (S := monitored Dump) (.inr ⟨nodeName, registration⟩)).handle fun reply =>
    Co.done (probeVerdict reply)

/-- The loop of `probe_once` over the copy. -/
def probeNodes : List (String × NodeRegistration) → Co (monitored Dump) Unit
  | [] => Co.log (S := monitored Dump) (.inr .probeRound)
  | (nodeName, registration) :: rest => do
    let healthy ← probeNode nodeName registration
    if healthy = registration.healthy then probeNodes rest
    else if healthy then
      Co.call (S := monitored Dump) (onRegistry fun reg => reg.markHealthy nodeName)
      Co.log (S := monitored Dump) (.inr (.restored nodeName))
      probeNodes rest
    else
      Co.call (S := monitored Dump) (onRegistry fun reg => reg.markUnhealthy nodeName)
      Co.log (S := monitored Dump) (.inr (.lost nodeName))
      probeNodes rest

/-- `probe_once`; `snapshot` copies the registrations. -/
def probeOnce : Co (monitored Dump) Unit := do
  let snapshot ← Co.read (S := monitored Dump) fun s => s.registry.nodes
  probeNodes snapshot.entries

/-- A dispatch next to the monitor; what it returns is not looked at. -/
def dispatchMonitored (cfg : GateConfig Dump) (packet : TransportPacket)
    (deadline : Option Deadline) : Co (monitored Dump) Unit :=
  (dispatch cfg packet deadline).embed >>= fun _ => pure ()

/-- A call of `register_node`. -/
def registering (name : String) (registration : NodeRegistration) (overwrite : Bool) :
    Co (monitored Dump) Unit :=
  Co.call (S := monitored Dump) (onRegistry fun reg => reg.registerNode name registration overwrite)

end ConstellationGate
