import ConstellationGate.Config

/-!
# Resolution of packets

`routing/resolver.py` and the dispatch half of `boundary/routing_policy.py`: which node a
packet is for, and which packets may be sent to a worker.
-/

namespace ConstellationGate

/-- The value of an origin kind. -/
def OriginKind.value : OriginKind → String
  | client => "client"
  | node => "node"
  | gate => "gate"

/-- `_resolve_gate_bound`: a packet for Gate is resolved by its action. -/
def resolveGateBound (registry : NodeRegistry) (packet : TransportPacket) :
    Except PyError NodeRegistration :=
  if normalize packet.header.action = "" then
    .error { cls := .lookupError,
             message := "packet action must not be empty for Gate-bound resolution" }
  else registry.resolveAction (normalize packet.header.action)

lemma of_resolveGateBound {registry : NodeRegistry} {packet : TransportPacket}
    {target : NodeRegistration} (h : resolveGateBound registry packet = .ok target) :
    target ∈ registry.nodes.values ∧
      normalize packet.header.action ∈ target.supportedActions ∧ target.healthy = true := by
  rw [resolveGateBound] at h
  split at h
  · cases h
  obtain ⟨hmem, -⟩ := NodeRegistry.of_resolveAction h
  rwa [Text.normalize_normalize, NodeRegistry.mem_candidates] at hmem

/-- `_resolve_gate_dispatch`: a packet that Gate wrote is resolved by its destination. -/
def resolveGateDispatch (registry : NodeRegistry) (gateNode : String) (packet : TransportPacket) :
    Except PyError NodeRegistration :=
  let destination := normalize packet.address.destinationNode
  if destination = gateNode then
    .error { cls := .lookupError,
             message := "Gate-authored dispatch packets must not target Gate itself" }
  else if packet.provenance.resolvedByGate ≠ true then
    .error { cls := .lookupError,
             message := "Gate-authored dispatch packets must set resolved_by_gate=true" }
  else if normalize packet.address.sourceNode ≠ gateNode then
    .error { cls := .lookupError,
             message := "Gate-authored dispatch packet source_node must equal local Gate node" }
  else registry.resolveDestination destination

lemma of_resolveGateDispatch {registry : NodeRegistry} {gateNode : String}
    {packet : TransportPacket} {target : NodeRegistration}
    (h : resolveGateDispatch registry gateNode packet = .ok target) :
    packet.provenance.resolvedByGate = true ∧ normalize packet.address.sourceNode = gateNode ∧
      registry.nodes.get? (normalize packet.address.destinationNode) = some target ∧
      target.healthy = true := by
  rw [resolveGateDispatch] at h
  split at h
  · cases h
  split at h
  · cases h
  rename_i hresolved
  split at h
  · cases h
  rename_i hsource
  have hdestination := NodeRegistry.of_resolveDestination h
  rw [Text.normalize_normalize] at hdestination
  exact ⟨not_not.1 hresolved, not_not.1 hsource, hdestination⟩

/-- `RouteResolver.resolve`. -/
def resolvePacket (registry : NodeRegistry) (gateNode : String) (packet : TransportPacket) :
    Except PyError NodeRegistration :=
  let destination := normalize packet.address.destinationNode
  if destination = gateNode then resolveGateBound registry packet
  else if packet.provenance.originKind = .gate then resolveGateDispatch registry gateNode packet
  else
    .error { cls := .lookupError,
             message := "packet destination " ++ Text.quoted destination
               ++ " is not routable for origin_kind="
               ++ Text.quoted packet.provenance.originKind.value }

/-- A packet that is resolved goes to a healthy node: to one that advertises its action when the
packet is for Gate, to its destination when Gate has written it for a worker. -/
lemma of_resolvePacket {registry : NodeRegistry} {gateNode : String} {packet : TransportPacket}
    {target : NodeRegistration} (h : resolvePacket registry gateNode packet = .ok target) :
    target.healthy = true ∧
      (normalize packet.address.destinationNode = gateNode ∧ target ∈ registry.nodes.values ∧
          normalize packet.header.action ∈ target.supportedActions ∨
        normalize packet.address.destinationNode ≠ gateNode ∧
          packet.provenance.originKind = .gate ∧ packet.provenance.resolvedByGate = true ∧
          normalize packet.address.sourceNode = gateNode ∧
          registry.nodes.get? (normalize packet.address.destinationNode) = some target) := by
  rw [resolvePacket] at h
  split at h
  · rename_i hgate
    obtain ⟨hmem, hadvertised, hhealthy⟩ := of_resolveGateBound h
    exact ⟨hhealthy, Or.inl ⟨hgate, hmem, hadvertised⟩⟩
  rename_i hworker
  split at h
  swap
  · cases h
  rename_i horigin
  obtain ⟨hresolved, hsource, hget, hhealthy⟩ := of_resolveGateDispatch h
  exact ⟨hhealthy, Or.inr ⟨hworker, horigin, hresolved, hsource, hget⟩⟩

/-- `validate_gate_dispatch_policy`: only Gate writes packets for workers. -/
def validateGateDispatchPolicy (packet : TransportPacket) (gateNode : String) :
    Except PyError Unit :=
  let refuse (message : String) := .error { cls := .routingPolicyError, message := message }
  if packet.provenance.originKind ≠ .gate then
    refuse "direct worker-targeted dispatch packets must have origin_kind='gate'"
  else if packet.address.sourceNode ≠ gateNode then
    refuse "Gate dispatch packet source_node must equal local Gate node"
  else if packet.address.destinationNode = gateNode then
    refuse "Gate dispatch packet destination_node must not point back to Gate"
  else if packet.provenance.resolvedByGate ≠ true then
    refuse "Gate dispatch packet must set resolved_by_gate=true"
  else .ok ()

end ConstellationGate
