import ConstellationGate.Lib.Dict
import ConstellationGate.Lib.Text

/-!
# Transport packets

The canonical packet as `contracts/transport-packet.schema.json` describes it.  Identifiers,
hashes and times are kept as the strings that are transmitted.  The governance block, the
delegation chain and the attachments, which Gate only passes on, are left out.
-/

namespace ConstellationGate

/-- A value of a payload. -/
inductive Value
  | none
  | bool (b : Bool)
  | int (n : ℤ)
  | float (bits : UInt64)
  | str (s : String)
  | list (items : List Value)
  | dict (entries : List (String × Value))

inductive PacketType
  | request | response | event | command | delegation | failure
  | replayRequest | replayResponse | compensation
deriving DecidableEq, Repr

inductive OriginKind
  | client | node | gate
deriving DecidableEq, Repr

inductive HopDirection
  | ingress | dispatch | execution | response
deriving DecidableEq, Repr

inductive HopStatus
  | received | validated | processing | delegated | completed | failed
deriving DecidableEq, Repr

structure TransportHeader where
  packetId : String
  packetType : PacketType
  action : String
  priority : ℕ := 2
  timeoutMs : Option ℕ
  idempotencyKey : Option String := none
  retryCount : ℕ := 0
  replayMode : Bool := false
deriving DecidableEq

structure TransportAddress where
  sourceNode : String
  destinationNode : String
  replyTo : String
deriving DecidableEq

structure TenantContext where
  actor : String
  onBehalfOf : String
  originator : String
  orgId : String
  userId : Option String := none
deriving DecidableEq

structure TransportSecurity where
  payloadHash : String
  transportHash : String
  signature : Option String := none
  signatureAlgorithm : Option String := none
  signingKeyId : Option String := none
deriving DecidableEq

structure RoutingProvenance where
  originKind : OriginKind
  requestedAction : String
  resolvedByGate : Bool
  routeKind : Option String := none
  originalSourceNode : Option String := none
deriving DecidableEq

structure TransportHop where
  packetId : String
  node : String
  action : String
  direction : HopDirection
  status : HopStatus
  targetNode : Option String := none
deriving DecidableEq

structure TransportLineage where
  parentId : Option String := none
  rootId : String
  generation : ℕ := 0
deriving DecidableEq

/-- The one shape of the traffic between nodes. -/
structure TransportPacket where
  header : TransportHeader
  address : TransportAddress
  tenant : TenantContext
  payload : Dict String Value
  security : TransportSecurity
  provenance : RoutingProvenance
  hopTrace : List TransportHop
  lineage : TransportLineage

/-- A request that the node `client` sends to `gate` for a tenant. -/
def clientPacket (orgId action : String) (idempotencyKey : Option String) : TransportPacket where
  header :=
    { packetId := "root", packetType := .request, action := action, timeoutMs := some 30000,
      idempotencyKey := idempotencyKey }
  address := { sourceNode := "client", destinationNode := "gate", replyTo := "client" }
  tenant := { actor := orgId, onBehalfOf := orgId, originator := orgId, orgId := orgId }
  payload := .empty
  security := { payloadHash := "", transportHash := "" }
  provenance := { originKind := .client, requestedAction := action, resolvedByGate := false }
  hopTrace := []
  lineage := { rootId := "root" }

/-- The packet with which the runtime of a worker reports a failure. -/
def failurePacket (orgId action : String) : TransportPacket :=
  let packet := clientPacket orgId action none
  { packet with header := { packet.header with packetType := .failure } }

end ConstellationGate
