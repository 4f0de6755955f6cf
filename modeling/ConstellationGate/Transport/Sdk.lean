import ConstellationGate.Errors
import ConstellationGate.Transport.Packet

/-!
# The node SDK

The packet operations that Gate calls and whose code is not part of the repository.  An
`Sdk` is any implementation that does what `contracts/TRANSPORT_PACKET_SPEC.md` and the
comments at the call sites rely on:

* `derive` mints a child packet with the given fields, which keeps the tenant and the
  idempotency key of its parent, extends its lineage and starts with an empty hop trace;
* `with_hop` only appends to the hop trace, whatever the hop;
* `model_validate` inverts `model_dump_json_dict`.

Whether an operation succeeds is left open.  `Dump` is the type of the dictionaries to
which packets are dumped; Gate stores them and never looks inside.
-/

namespace ConstellationGate

/-- The keyword arguments of `derive`; `none` stands for an argument that is not given. -/
structure DeriveArgs where
  packetType : Option PacketType := none
  action : Option String := none
  sourceNode : Option String := none
  destinationNode : Option String := none
  replyTo : Option String := none
  payload : Option (Dict String Value) := none
  timeoutMs : Option ℕ := none
  provenance : Option RoutingProvenance := none

/-- What `derive` promises about the packet `q` that it derives from `p`. -/
structure Derived (p : TransportPacket) (args : DeriveArgs) (q : TransportPacket) : Prop where
  packetType : ∀ t ∈ args.packetType, q.header.packetType = t
  action : ∀ a ∈ args.action, normalize q.header.action = normalize a
  sourceNode : ∀ n ∈ args.sourceNode, normalize q.address.sourceNode = normalize n
  destinationNode : ∀ n ∈ args.destinationNode, normalize q.address.destinationNode = normalize n
  replyTo : ∀ n ∈ args.replyTo, normalize q.address.replyTo = normalize n
  payload : ∀ d ∈ args.payload, q.payload = d
  timeoutMs : ∀ t ∈ args.timeoutMs, q.header.timeoutMs = some t
  provenance : ∀ r ∈ args.provenance, q.provenance = r
  tenant : q.tenant = p.tenant
  idempotencyKey : q.header.idempotencyKey = p.header.idempotencyKey
  hopTrace : q.hopTrace = []
  parentId : q.lineage.parentId = some p.header.packetId
  rootId : q.lineage.rootId = p.lineage.rootId
  generation : q.lineage.generation = p.lineage.generation + 1

/-- An implementation of the packet operations. -/
structure Sdk (Dump : Type) where
  /-- `packet.derive(…)`; the number names the minted identifiers. -/
  derive : ℕ → TransportPacket → DeriveArgs → Except PyError TransportPacket
  /-- `packet.with_hop(hop)`. -/
  withHop : TransportPacket → TransportHop → Except PyError TransportPacket
  /-- `make_ingress_hop(packet=…, node=…, action=…, status=…)`. -/
  makeIngressHop : TransportPacket → String → String → HopStatus → Except PyError TransportHop
  /-- `make_dispatch_hop(packet=…, node=…, action=…, target_node=…, status=…)`. -/
  makeDispatchHop :
    TransportPacket → String → String → String → HopStatus → Except PyError TransportHop
  /-- `packet.model_dump_json_dict()`. -/
  dump : TransportPacket → Dump
  /-- `TransportPacket.model_validate(dump)`. -/
  modelValidate : Dump → Except PyError TransportPacket
  derive_ok : ∀ {n p args q}, derive n p args = .ok q → Derived p args q
  withHop_ok : ∀ {p h q}, withHop p h = .ok q → q = { p with hopTrace := p.hopTrace ++ [h] }
  modelValidate_dump : ∀ p, modelValidate (dump p) = .ok p

/-- Two packets with one dump are equal. -/
lemma Sdk.dump_injective {Dump : Type} (sdk : Sdk Dump) : Function.Injective sdk.dump := by
  intro p q hdump
  have hp : sdk.modelValidate (sdk.dump q) = .ok p := by
    rw [← hdump, sdk.modelValidate_dump]
  rw [sdk.modelValidate_dump] at hp
  exact (Except.ok.inj hp).symm

/-- The packet that `derive` describes: the given fields, and the parent's where none is given. -/
def TransportPacket.child (n : ℕ) (p : TransportPacket) (args : DeriveArgs) : TransportPacket where
  header := { p.header with
    packetId := "packet-" ++ toString n
    packetType := args.packetType.getD p.header.packetType
    action := args.action.getD p.header.action
    timeoutMs := args.timeoutMs.or p.header.timeoutMs }
  address :=
    { sourceNode := args.sourceNode.getD p.address.sourceNode
      destinationNode := args.destinationNode.getD p.address.destinationNode
      replyTo := args.replyTo.getD p.address.replyTo }
  tenant := p.tenant
  payload := args.payload.getD p.payload
  security := p.security
  provenance := args.provenance.getD p.provenance
  hopTrace := []
  lineage := { parentId := some p.header.packetId, rootId := p.lineage.rootId,
               generation := p.lineage.generation + 1 }

/-- The plainest implementation, in which every operation succeeds. -/
def Sdk.plain : Sdk TransportPacket where
  derive n p args := .ok (p.child n args)
  withHop p h := .ok { p with hopTrace := p.hopTrace ++ [h] }
  makeIngressHop p node action status :=
    .ok { packetId := p.header.packetId, node := node, action := action, direction := .ingress,
          status := status }
  makeDispatchHop p node action target status :=
    .ok { packetId := p.header.packetId, node := node, action := action, direction := .dispatch,
          status := status, targetNode := some target }
  dump p := p
  modelValidate p := .ok p
  derive_ok := by
    rintro n p args q h
    obtain rfl := Except.ok.inj h
    constructor <;> simp +contextual [TransportPacket.child]
  withHop_ok := by
    rintro p h q heq
    exact (Except.ok.inj heq).symm
  modelValidate_dump _ := rfl

end ConstellationGate
