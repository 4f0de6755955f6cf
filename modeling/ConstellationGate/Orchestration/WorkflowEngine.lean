import ConstellationGate.Config

/-!
# The workflow engine

`orchestration/workflow_engine.py`: a composite action is executed step by step.  Each step
whose condition holds is derived as a child packet and given to the dispatcher; its answer is
merged into the payload of the steps that follow.

The engine is a coroutine over any dispatcher, as in the source, where the dispatcher is
injected.
-/

namespace ConstellationGate

variable {Dump : Type}

/-- `has_workflow`. -/
def hasWorkflow (cfg : GateConfig Dump) (name : String) : Bool :=
  cfg.definitions.contains (normalize name)

/-- The steps of the workflow of an action. -/
def workflowSteps (cfg : GateConfig Dump) (action : String) : List WorkflowStep :=
  (cfg.definitions.get? (normalize action)).elim [] (·.steps)

lemma workflowSteps_of_get? {cfg : GateConfig Dump} {action : String}
    {definition : WorkflowDefinition}
    (h : cfg.definitions.get? (normalize action) = some definition) :
    workflowSteps cfg action = definition.steps := by
  rw [workflowSteps, h, Option.elim_some]

/-- `_step_timeout_ms`: the declared timeout of a step, clamped to what is left of the budget. -/
def stepTimeoutMs (stepTimeout packetTimeout : Option ℕ) (deadline : Option Deadline)
    (clock : MonotonicClock) : Except PyError (Option ℕ) × MonotonicClock :=
  let declared := stepTimeout.or packetTimeout
  match deadline with
  | none => (.ok declared, clock)
  | some d =>
    match d.raiseIfExpired clock.now "workflow step" with
    | .error e => (.error e, clock.tick)
    | .ok () =>
      let remainingMs := max 1 ⌊d.remainingSeconds clock.tick.now * 1000⌋.toNat
      (.ok (some (declared.elim remainingMs fun t => min t remainingMs)), clock.tick.tick)

lemma later_stepTimeoutMs (stepTimeout packetTimeout : Option ℕ) (deadline : Option Deadline)
    (clock : MonotonicClock) :
    clock.Later (stepTimeoutMs stepTimeout packetTimeout deadline clock).2 := by
  unfold stepTimeoutMs
  cases deadline with
  | none => exact MonotonicClock.Later.refl clock
  | some d =>
    simp only
    split
    · exact MonotonicClock.later_tick clock
    · exact (MonotonicClock.later_tick clock).trans (MonotonicClock.later_tick clock.tick)

/-- The variables of the loop of `execute`. -/
structure Progress where
  currentPayload : Dict String Value
  latestResponsePayload : Option (Dict String Value)
  currentPacket : TransportPacket

/-- The variables before the first step. -/
def Progress.start (packet : TransportPacket) : Progress := ⟨packet.payload, none, packet⟩

/-- `_should_execute_step`. -/
def shouldExecuteStep (cfg : GateConfig Dump) (step : WorkflowStep) (progress : Progress) :
    Except PyError Bool :=
  match step.condition with
  | none => .ok true
  | some condition =>
    cfg.evaluate condition
      { payload := progress.currentPayload
        response := progress.latestResponsePayload
        action := step.action
        accumulated := progress.currentPayload }

/-- `_merge_payload`. -/
def mergePayload (step : WorkflowStep) (current response : Dict String Value) : Dict String Value :=
  match step.mergeStrategy with
  | .identity => response
  | .mergeResults =>
    match response.get? "data" with
    | some (.dict responseData) => current.update responseData
    | _ => current.update response.entries
  | .mergePayload => current.update response.entries

/-- The variables after the answer to a step. -/
def Progress.after (progress : Progress) (step : WorkflowStep) (answer : TransportPacket) :
    Progress where
  currentPayload := mergePayload step progress.currentPayload answer.payload
  latestResponsePayload := some answer.payload
  currentPacket := answer

/-- What the engine asks `derive` for to make the packet of a step. -/
def stepArgs (gateNode : String) (packet : TransportPacket) (step : WorkflowStep)
    (payload : Dict String Value) (timeoutMs : Option ℕ) : DeriveArgs where
  packetType := some .request
  action := some step.action
  sourceNode := some gateNode
  destinationNode := some gateNode
  replyTo := some gateNode
  payload := some payload
  timeoutMs := timeoutMs
  provenance := some
    { originKind := .gate
      requestedAction := step.action
      resolvedByGate := false
      originalSourceNode := some packet.address.sourceNode }

/-- The packet of a step. -/
def deriveStep (cfg : GateConfig Dump) (packet : TransportPacket) (deadline : Option Deadline)
    (step : WorkflowStep) (progress : Progress) (s : GateState Dump) :
    Except PyError TransportPacket × GateState Dump :=
  match stepTimeoutMs step.timeoutMs progress.currentPacket.header.timeoutMs deadline
      s.monotonic with
  | (.error e, clock) => (.error e, { s with monotonic := clock })
  | (.ok timeoutMs, clock) =>
    (cfg.sdk.derive s.minted progress.currentPacket
        (stepArgs cfg.gateNode packet step progress.currentPayload timeoutMs),
      { s with monotonic := clock, minted := s.minted + 1 })

/-- What the engine asks `derive` for to make the answer of the workflow. -/
def responseArgs (gateNode workflowName : String) (packet : TransportPacket)
    (payload : Dict String Value) : DeriveArgs where
  packetType := some .response
  sourceNode := some gateNode
  destinationNode := some packet.address.replyTo
  replyTo := some gateNode
  payload := some payload
  provenance := some
    { originKind := .gate
      requestedAction := workflowName
      resolvedByGate := true
      originalSourceNode := some packet.address.sourceNode }

/-- The answer of the workflow. -/
def deriveResponse (cfg : GateConfig Dump) (packet : TransportPacket) (progress : Progress)
    (s : GateState Dump) : Except PyError TransportPacket × GateState Dump :=
  (cfg.sdk.derive s.minted packet
      (responseArgs cfg.gateNode (normalize packet.header.action) packet progress.currentPayload),
    { s with minted := s.minted + 1 })

section Execute

variable (cfg : GateConfig Dump)
  (dispatcher : TransportPacket → Option Deadline → Co (gate Dump) TransportPacket)
  (packet : TransportPacket) (deadline : Option Deadline)

/-- The loop of `execute` over the steps that are left, and the answer after it. -/
def executeSteps : List WorkflowStep → Progress → Co (gate Dump) TransportPacket
  | [], progress => Co.call (S := gate Dump) (deriveResponse cfg packet progress)
  | step :: steps, progress => do
    if ← liftExcept (shouldExecuteStep cfg step progress) then
      let stepPacket ← Co.call (S := gate Dump) (deriveStep cfg packet deadline step progress)
      Co.log (S := gate Dump) (.stepStarted step stepPacket)
      let stepResponse ← dispatcher stepPacket deadline
      Co.log (S := gate Dump) (.stepAnswered step stepResponse)
      executeSteps steps (progress.after step stepResponse)
    else executeSteps steps progress

/-- `WorkflowEngine.execute`. -/
def executeWorkflow : Co (gate Dump) TransportPacket :=
  let workflowName := normalize packet.header.action
  match cfg.definitions.get? workflowName with
  | none =>
    Co.raise (S := gate Dump)
      { cls := .lookupError, message := "no workflow defined for action: " ++ workflowName }
  | some definition =>
    executeSteps cfg dispatcher packet deadline definition.steps (.start packet)

end Execute

end ConstellationGate
