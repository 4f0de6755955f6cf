import ConstellationGate.Errors
import ConstellationGate.Transport.Packet

/-!
# Packet validation

`validate_transport_packet` of the node SDK, whose code is not part of the repository.  A
`PacketValidation` is any implementation that does what its documentation and its caller rely on:

* where it returns, the packet is signed, or need not be, and a signature that is there verifies
  under the key that the key resolver answers for the key id of the packet;
* it returns for a well-formed packet of which that holds;
* a list of allowed actions refuses the packets of other actions, and no others.

A request body is of a type `Body` that stays open.  It stands for the parts of the packet that
`TransportPacket` leaves out when the packet is validated.
-/

namespace ConstellationGate

/-- The value of a packet type in a packet. -/
def PacketType.value : PacketType → String
  | .request => "request"
  | .response => "response"
  | .event => "event"
  | .command => "command"
  | .delegation => "delegation"
  | .failure => "failure"
  | .replayRequest => "replay_request"
  | .replayResponse => "replay_response"
  | .compensation => "compensation"

/-- The keyword arguments of `validate_transport_packet`, but for `allowed_actions`. -/
structure ValidationOptions where
  keyResolver : Option (Option String → Option String) := none
  requireSignature : Bool := false
  maxPacketBytes : ℤ := 262144
  maxHopDepth : ℤ := 64
  maxDelegationDepth : ℤ := 8
  maxAttachments : ℤ := 32
  maxAttachmentSizeBytes : ℤ := 10485760
  allowedAttachmentSchemes : List String := []
  allowPrivateAttachmentHosts : Bool := false
  allowedClockSkewSeconds : ℤ := 30
  localNode : String
  allowedPacketTypes : Option (List String) := none
  requiredIdempotencyActions : Option (List String) := none
  replayEnabled : Bool := true
  devMode : Bool := false
  verifyHopSignatures : Bool := false
  hopKeyResolver : Option (Option String → Option String) := none

/-- The signature of a packet is accepted: a missing one where none is required, and one that is
there if it verifies under the key of its key id.  Dev mode relaxes both. -/
def ValidationOptions.authentic (options : ValidationOptions)
    (verifies : TransportPacket → String → Bool) (packet : TransportPacket) : Bool :=
  match packet.security.signature with
  | none => !options.requireSignature || options.devMode
  | some _ =>
    options.devMode && options.keyResolver.isNone ||
      options.keyResolver.any fun resolver =>
        (resolver packet.security.signingKeyId).any fun key => verifies packet key

/-- Where signatures are required, an authentic packet is signed with the key that the resolver
answers for its key id. -/
lemma ValidationOptions.signed_of_authentic {options : ValidationOptions}
    {verifies : TransportPacket → String → Bool} {packet : TransportPacket}
    (h : options.authentic verifies packet = true) (hsign : options.requireSignature = true)
    (hdev : options.devMode = false) :
    packet.security.signature.isSome = true ∧ ∃ resolver, options.keyResolver = some resolver ∧
      ∃ key, resolver packet.security.signingKeyId = some key ∧ verifies packet key = true := by
  unfold authentic at h
  rcases hsig : packet.security.signature with _ | signature
  · simp [hsig, hsign, hdev] at h
  · simp only [hsig, hdev, Bool.false_and, Bool.false_or] at h
    obtain ⟨resolver, hresolver, hkey⟩ := (Option.any_eq_true _ _).1 h
    obtain ⟨key, hkey, hverifies⟩ := (Option.any_eq_true _ _).1 hkey
    exact ⟨rfl, resolver, hresolver, key, hkey, hverifies⟩

/-- A packet whose signature verifies under the key of its key id is authentic. -/
lemma ValidationOptions.authentic_of_verifies (options : ValidationOptions)
    {verifies : TransportPacket → String → Bool} {packet : TransportPacket}
    {resolver : Option String → Option String} {key : String}
    (hsig : packet.security.signature.isSome = true)
    (hresolver : options.keyResolver = some resolver)
    (hkey : resolver packet.security.signingKeyId = some key)
    (hverifies : verifies packet key = true) : options.authentic verifies packet = true := by
  obtain ⟨signature, hsig⟩ := Option.isSome_iff_exists.1 hsig
  simp [authentic, hsig, hresolver, hkey, hverifies]

/-- An implementation of the decoding and the validation of packets. -/
structure PacketValidation (Body : Type) where
  /-- `decode_request_body(body)`. -/
  decode : Body → Except PyError TransportPacket
  /-- The signature of a packet verifies under a key. -/
  verifies : TransportPacket → String → Bool
  /-- `validate_transport_packet(packet, …, allowed_actions=…)`, at a time, of the packet that a
  body decodes to. -/
  validate : ValidationOptions → Option (List String) → ℚ → Body → TransportPacket →
    Except PyError Unit
  /-- What is asked of a packet besides its signature: its limits, hashes, times and so on. -/
  WellFormed : ValidationOptions → ℚ → Body → TransportPacket → Prop
  validate_ok_iff : ∀ {options now body packet},
    validate options none now body packet = .ok () ↔
      WellFormed options now body packet ∧ options.authentic verifies packet = true
  validate_allowed : ∀ {options actions now body packet},
    validate options (some actions) now body packet = .ok () ↔
      validate options none now body packet = .ok () ∧ packet.header.action ∈ actions

/-- `names or None`. -/
def orNone (names : List String) : Option (List String) := if names = [] then none else some names

/-- An empty list of allowed actions allows every action. -/
lemma PacketValidation.validate_orNone {Body : Type} (sdk : PacketValidation Body)
    {options : ValidationOptions} {actions : List String} {now : ℚ} {body : Body}
    {packet : TransportPacket} :
    sdk.validate options (orNone actions) now body packet = .ok () ↔
      sdk.validate options none now body packet = .ok () ∧
        (actions = [] ∨ packet.header.action ∈ actions) := by
  by_cases hempty : actions = []
  · simp [orNone, hempty]
  · rw [orNone, if_neg hempty, sdk.validate_allowed]
    simp [hempty]

/-! ### The plainest implementation -/

namespace PacketValidation

/-- The checks of the packet alone: each with its error. -/
def plainChecks (options : ValidationOptions) (packet : TransportPacket) : List (Bool × String) :=
  let header := packet.header
  [(options.allowedPacketTypes.all fun types => types.contains header.packetType.value,
      "packet_type not allowed: " ++ header.packetType.value),
   (packet.address.destinationNode = normalize options.localNode,
      "packet destination does not match this node"),
   (packet.hopTrace.length ≤ options.maxHopDepth, "hop trace exceeds maximum depth"),
   (packet.security.payloadHash ≠ "" ∧ packet.security.transportHash ≠ "",
      "packet hashes are missing"),
   (header.replayMode = true ↔ header.packetType = .replayRequest,
      "replay_mode is only permitted for replay_request packets"),
   (header.packetType = .replayRequest → options.replayEnabled = true,
      "replay is disabled on this service"),
   (options.requiredIdempotencyActions.all fun actions =>
        !actions.contains header.action || header.idempotencyKey.any fun key => key ≠ "",
      "idempotency_key required for this action")]

/-- The checks that need the keys and the allowed actions. -/
def plainTrust (options : ValidationOptions) (allowedActions : Option (List String))
    (verifies : TransportPacket → String → Bool) (packet : TransportPacket) :
    List (Bool × String) :=
  [(options.authentic verifies packet, "invalid transport signature"),
   (allowedActions.all fun actions => actions.contains packet.header.action,
      "action not allowed: " ++ packet.header.action)]

/-- A signature of the plainest implementation: the key with what is signed. -/
def plainMac (key : String) (packet : TransportPacket) : String :=
  key ++ ":" ++ packet.security.transportHash

/-- The checks of a packet are made one after the other, up to the first that fails. -/
def runChecks (checks : List (Bool × String)) : Except PyError Unit :=
  match checks.find? fun check => !check.1 with
  | some check => .error { cls := .collaboratorError, message := check.2 }
  | none => .ok ()

lemma runChecks_ok_iff {checks : List (Bool × String)} :
    runChecks checks = .ok () ↔ ∀ check ∈ checks, check.1 = true := by
  unfold runChecks
  split
  · rename_i failed hfind
    refine ⟨fun h => (by cases h), fun hall => ?_⟩
    have hfails := List.find?_some hfind
    rw [hall failed (List.mem_of_find?_eq_some hfind)] at hfails
    cases hfails
  · rename_i hfind
    have hnone := List.find?_eq_none.1 hfind
    refine ⟨fun _ check hcheck => ?_, fun _ => rfl⟩
    simpa using hnone check hcheck

/-- Bodies are packets, and what is checked is what the packet has. -/
def plain : PacketValidation TransportPacket where
  decode packet := .ok packet
  verifies packet key := packet.security.signature = some (plainMac key packet)
  validate options allowedActions _ _ packet :=
    runChecks (plainChecks options packet ++ plainTrust options allowedActions
      (fun packet key => packet.security.signature = some (plainMac key packet)) packet)
  WellFormed options _ _ packet := ∀ check ∈ plainChecks options packet, check.1 = true
  validate_ok_iff := by
    intro options _ _ packet
    rw [runChecks_ok_iff, List.forall_mem_append]
    simp [plainTrust]
  validate_allowed := by
    intro options actions _ _ packet
    rw [runChecks_ok_iff, runChecks_ok_iff, List.forall_mem_append, List.forall_mem_append,
      and_assoc]
    simp [plainTrust]

end PacketValidation

/-- A request that the consumer `odoo` has not signed. -/
def unsignedPacket (action : String) : TransportPacket :=
  let packet := clientPacket "acme" action none
  { packet with
    address := { packet.address with sourceNode := "odoo" }
    security := { payloadHash := "payload", transportHash := "transport" } }

/-- The request, signed with the key of the consumer. -/
def consumerPacket (action : String) : TransportPacket :=
  let packet := unsignedPacket action
  { packet with
    security :=
      { packet.security with
        signature := some (PacketValidation.plainMac "odoo-secret" packet)
        signatureAlgorithm := some "hmac-sha256"
        signingKeyId := some "odoo-k1" } }

end ConstellationGate
