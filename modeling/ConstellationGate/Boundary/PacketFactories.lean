import ConstellationGate.Boundary.IngressValidator
import ConstellationGate.Transport.Sdk

/-!
# The packet factories

`boundary/replay_factory.py` and `boundary/delegation_factory.py`, which derive packets that come
back to Gate, with `boundary/transport_codec.py` and what the hashes of a packet have to do with it.

A `HashingSdk` is any implementation of the packet operations that does what
`contracts/TRANSPORT_PACKET_SPEC.md` says of hashes: a derived packet has both of its hashes right,
the transport hash covers the header and leaves the signature out, and a packet is only constructed
or decoded with the right hashes.  The `Sdk` of the execution path does without hashes, since the
packets that it dumps have all been decoded or derived.

A delegated packet is finalised again after its header has been edited.  A replay packet is not:
its hash is right only when the edit changes nothing (`replay_valid_iff`).
-/

namespace ConstellationGate

/-- The body of a request. -/
inductive RequestBody (Fields : Type)
  | mapping (fields : Fields)
  /-- Not a JSON object. -/
  | other

/-- Both hashes of a packet are those that its contents have. -/
structure Intact (payloadHash : Dict String Value → String)
    (transportHash : TransportPacket → String) (p : TransportPacket) : Prop where
  payload : p.security.payloadHash = payloadHash p.payload
  transport : p.security.transportHash = transportHash p

instance (payloadHash : Dict String Value → String) (transportHash : TransportPacket → String)
    (p : TransportPacket) : Decidable (Intact payloadHash transportHash p) :=
  decidable_of_iff (p.security.payloadHash = payloadHash p.payload ∧
    p.security.transportHash = transportHash p) ⟨fun h => ⟨h.1, h.2⟩, fun h => ⟨h.1, h.2⟩⟩

/-- An implementation of the packet operations with their hashes. -/
structure HashingSdk (Fields : Type) where
  /-- `packet.derive(…)`; the number names the minted identifiers. -/
  derive : ℕ → TransportPacket → DeriveArgs → Except PyError TransportPacket
  /-- `compute_payload_hash(payload)`. -/
  computePayloadHash : Dict String Value → String
  /-- `compute_transport_hash(packet)`. -/
  computeTransportHash : TransportPacket → String
  /-- `TransportPacket(header=…, …)`. -/
  construct : TransportPacket → Except PyError TransportPacket
  /-- `packet.model_dump_json_dict()`. -/
  dump : TransportPacket → Fields
  /-- `TransportPacket.model_validate(fields)`. -/
  modelValidate : Fields → Except PyError TransportPacket
  derive_ok : ∀ {n p args q}, derive n p args = .ok q → Derived p args q ∧
    q.header.replayMode = p.header.replayMode ∧ Intact computePayloadHash computeTransportHash q
  header_covered : ∀ {p q}, computeTransportHash p = computeTransportHash q → p.header = q.header
  signature_left_out : ∀ (p : TransportPacket) (security : TransportSecurity),
    security.payloadHash = p.security.payloadHash →
      computeTransportHash { p with security := security } = computeTransportHash p
  construct_ok_iff : ∀ {p q}, construct p = .ok q ↔
    q = p ∧ Intact computePayloadHash computeTransportHash p
  modelValidate_ok_iff : ∀ {p q}, modelValidate (dump p) = .ok q ↔
    q = p ∧ Intact computePayloadHash computeTransportHash p

variable {Fields : Type} (sdk : HashingSdk Fields)

/-- The packet has its hashes right. -/
abbrev HashingSdk.Intact (p : TransportPacket) : Prop :=
  ConstellationGate.Intact sdk.computePayloadHash sdk.computeTransportHash p

/-! ### The codec -/

/-- `decode_request_body`. -/
def decodeRequestBody : RequestBody Fields → Except PyError TransportPacket
  | .mapping fields => sdk.modelValidate fields
  | .other => .error { cls := .valueError, message := "request body must be a JSON object" }

/-- `encode_response_body`. -/
def encodeResponseBody (packet : TransportPacket) : RequestBody Fields :=
  .mapping (sdk.dump packet)

variable {sdk}

/-- The round trip of a packet. -/
lemma decode_encode_iff {packet packet' : TransportPacket} :
    decodeRequestBody sdk (encodeResponseBody sdk packet) = .ok packet' ↔
      packet' = packet ∧ sdk.Intact packet :=
  sdk.modelValidate_ok_iff

variable (sdk)

/-! ### Delegation -/

/-- `_apply_idempotency_key`. -/
def applyIdempotencyKey (packet : TransportPacket) (idempotencyKey : String) :
    Except PyError TransportPacket :=
  let newHeader := { packet.header with idempotencyKey := some idempotencyKey }
  let zeroedSecurity : TransportSecurity :=
    { packet.security with
      transportHash := "".pushn '0' 64
      signature := none
      signatureAlgorithm := none
      signingKeyId := none }
  let provisional := { packet with header := newHeader, security := zeroedSecurity }
  let transportHash := sdk.computeTransportHash provisional
  sdk.construct
    { provisional with security := { zeroedSecurity with transportHash := transportHash } }

/-- The provenance of a packet that a node sends back to Gate. -/
def reentryProvenance (originKind : OriginKind) (action : String)
    (originalSourceNode : Option String) : RoutingProvenance :=
  { originKind := originKind
    requestedAction := action
    resolvedByGate := false
    originalSourceNode := originalSourceNode }

/-- `DelegationFactory.build`. -/
def DelegationFactory.build (n : ℕ) (parent : TransportPacket) (localNode action : String)
    (payload : Dict String Value) (idempotencyKey : Option String) (timeoutMs : Option ℕ) :
    Except PyError TransportPacket := do
  let child ← sdk.derive n parent
    { action := some action
      sourceNode := some localNode
      destinationNode := some "gate"
      replyTo := some localNode
      payload := some payload
      timeoutMs := timeoutMs.or parent.header.timeoutMs
      provenance := some (reentryProvenance .node action (some localNode)) }
  match idempotencyKey with
  | none => .ok child
  | some key =>
    if child.header.idempotencyKey ≠ some key then applyIdempotencyKey sdk child key
    else .ok child

/-! ### Replay -/

/-- `ReplayFactory.build`. -/
def ReplayFactory.build (n : ℕ) (original : TransportPacket) (sourceNode : String) :
    Except PyError TransportPacket := do
  let packet ← sdk.derive n original
    { packetType := some original.header.packetType
      action := some original.header.action
      sourceNode := some sourceNode
      destinationNode := some "gate"
      replyTo := some sourceNode
      payload := some original.payload
      timeoutMs := original.header.timeoutMs
      provenance := some (reentryProvenance (if sourceNode ≠ "client" then .node else .client)
        original.header.action (if sourceNode = "client" then none else some sourceNode)) }
  .ok { packet with
        header :=
          { packet.header with
            replayMode := true
            idempotencyKey := original.header.idempotencyKey } }

variable {sdk}

lemma applyIdempotencyKey_intact {packet q : TransportPacket} {key : String}
    (h : applyIdempotencyKey sdk packet key = .ok q) : sdk.Intact q := by
  obtain ⟨rfl, hintact⟩ := sdk.construct_ok_iff.1 h
  exact hintact

/-- A packet that the delegation factory builds has its hashes right. -/
lemma DelegationFactory.build_intact {n : ℕ} {parent q : TransportPacket}
    {localNode action : String} {payload : Dict String Value} {idempotencyKey : Option String}
    {timeoutMs : Option ℕ}
    (h : build sdk n parent localNode action payload idempotencyKey timeoutMs = .ok q) :
    sdk.Intact q := by
  obtain ⟨child, hderive, h⟩ := bind_ok_iff.1 h
  have hchild : sdk.Intact child := (sdk.derive_ok hderive).2.2
  cases idempotencyKey with
  | none =>
    obtain rfl := Except.ok.inj h
    exact hchild
  | some key =>
    dsimp only at h
    split at h
    · exact applyIdempotencyKey_intact h
    · obtain rfl := Except.ok.inj h
      exact hchild

/-- The key of a delegated packet is edited and its hash computed again: with its other hash right,
the construction succeeds. -/
lemma applyIdempotencyKey_ok {packet : TransportPacket} (hpacket : sdk.Intact packet)
    (key : String) : ∃ q, applyIdempotencyKey sdk packet key = .ok q ∧
      q.header = { packet.header with idempotencyKey := some key } := by
  refine ⟨_, sdk.construct_ok_iff.2 ⟨rfl, hpacket.payload, ?_⟩, rfl⟩
  -- what the hash is computed of has zeroes where the result has the hash
  refine (sdk.signature_left_out _ _ ?_).symm
  rfl

namespace ReplayFactory

/-- A replay packet is a derived packet with an edited header. -/
lemma of_build {n : ℕ} {original packet : TransportPacket} {sourceNode : String}
    (h : build sdk n original sourceNode = .ok packet) :
    ∃ derived, sdk.Intact derived ∧
      derived.header.replayMode = original.header.replayMode ∧
      packet = { derived with header := { derived.header with replayMode := true } } := by
  obtain ⟨derived, hderive, heq⟩ := bind_ok_iff.1 h
  obtain ⟨hderived, hmode, hintact⟩ := sdk.derive_ok hderive
  obtain rfl := Except.ok.inj heq
  exact ⟨derived, hintact, hmode, by rw [← hderived.idempotencyKey]⟩

/-- The hash is right when the edit leaves the header, and only then. -/
lemma build_transportHash_iff {n : ℕ} {original packet : TransportPacket} {sourceNode : String}
    (h : build sdk n original sourceNode = .ok packet) :
    packet.security.transportHash = sdk.computeTransportHash packet ↔
      original.header.replayMode = true := by
  obtain ⟨derived, hintact, hmode, rfl⟩ := of_build h
  rw [← hmode]
  constructor
  · intro hhash
    have hheader : derived.header = { derived.header with replayMode := true } :=
      sdk.header_covered (hintact.transport.symm.trans hhash)
    rw [hheader]
  · intro hreplayed
    have hheader : { derived.header with replayMode := true } = derived.header := by
      rw [← hreplayed]
    rw [hheader]
    exact hintact.transport

lemma build_intact_iff {n : ℕ} {original packet : TransportPacket} {sourceNode : String}
    (h : build sdk n original sourceNode = .ok packet) :
    sdk.Intact packet ↔ original.header.replayMode = true := by
  rw [← build_transportHash_iff h]
  refine ⟨fun hintact => hintact.transport, fun hhash => ⟨?_, hhash⟩⟩
  obtain ⟨derived, hintact, -, rfl⟩ := of_build h
  exact hintact.payload

/-- A replay packet has the right hash, survives the way over the wire and passes the decoding of
an ingress validator exactly when the original has been in replay mode already. -/
theorem replay_valid_iff {n : ℕ} {original packet : TransportPacket} {sourceNode : String}
    (h : build sdk n original sourceNode = .ok packet) :
    (packet.security.transportHash = sdk.computeTransportHash packet ↔
      original.header.replayMode = true) ∧
    (decodeRequestBody sdk (encodeResponseBody sdk packet) = .ok packet ↔
      original.header.replayMode = true) ∧
    ∀ (validation : PacketValidation (RequestBody Fields)),
      validation.decode = decodeRequestBody sdk →
      ∀ (v : IngressValidator) now accepted,
        v.validate validation now (encodeResponseBody sdk packet) = .ok accepted ↔
          original.header.replayMode = true ∧ accepted = packet ∧
            validation.validate v.options (orNone v.allowedActions) now
              (encodeResponseBody sdk packet) packet = .ok () ∧
            validateNodeOriginPolicy packet v.options.localNode = .ok () ∧
            packet.header.action ≠ admissionAction ∧ v.Permits packet := by
  have hdecode : ∀ packet', decodeRequestBody sdk (encodeResponseBody sdk packet) = .ok packet' ↔
      packet' = packet ∧ original.header.replayMode = true := by
    intro packet'
    rw [decode_encode_iff, build_intact_iff h]
  refine ⟨build_transportHash_iff h, ?_, fun validation hvalidation v now accepted => ?_⟩
  · rw [hdecode, and_iff_right rfl]
  · rw [IngressValidator.validate_ok_iff, IngressValidator.validatePacket_ok_iff, hvalidation,
      hdecode]
    constructor
    · rintro ⟨⟨⟨rfl, hmode⟩, hvalidate, horigin⟩, haction, hpermits⟩
      exact ⟨hmode, rfl, hvalidate, horigin, haction, hpermits⟩
    · rintro ⟨hmode, rfl, hvalidate, horigin, haction, hpermits⟩
      exact ⟨⟨⟨rfl, hmode⟩, hvalidate, horigin⟩, haction, hpermits⟩

end ReplayFactory

/-! ### An implementation that hashes the header -/

/-- A string with each of its characters announced and its end marked. -/
def frame (s : String) : List Char := s.toList.flatMap (fun c => ['.', c]) ++ ['!']

/-- What follows a framed string can be told from it. -/
lemma frame_append_inj {s s' : String} {l l' : List Char} (h : frame s ++ l = frame s' ++ l') :
    s = s' ∧ l = l' := by
  have hchars : ∀ cs cs' : List Char,
      cs.flatMap (fun c => ['.', c]) ++ ['!'] ++ l =
        cs'.flatMap (fun c => ['.', c]) ++ ['!'] ++ l' →
        cs = cs' ∧ l = l' := by
    intro cs
    induction cs with
    | nil =>
      intro cs' heq
      cases cs' with
      | nil => exact ⟨rfl, by simpa using heq⟩
      | cons c' cs' => simp at heq
    | cons c cs ih =>
      intro cs' heq
      cases cs' with
      | nil => simp at heq
      | cons c' cs' =>
        simp only [List.flatMap_cons, List.cons_append, List.nil_append, List.cons.injEq,
          true_and] at heq
        obtain ⟨rfl, hl⟩ := ih cs' heq.2
        exact ⟨by rw [heq.1], hl⟩
  obtain ⟨hs, hl⟩ := hchars _ _ h
  exact ⟨String.toList_inj.1 hs, hl⟩

lemma flatMap_frame_injective : Function.Injective fun fields : List String =>
    fields.flatMap frame := by
  intro fields
  induction fields with
  | nil =>
    intro fields' h
    cases fields' with
    | nil => rfl
    | cons field' fields' => simp [frame] at h
  | cons field fields ih =>
    intro fields' h
    cases fields' with
    | nil => simp [frame] at h
    | cons field' fields' =>
      obtain ⟨rfl, hrest⟩ := frame_append_inj h
      rw [ih hrest]

/-- A number in strokes. -/
def strokes (n : ℕ) : String := String.ofList (List.replicate n '1')

lemma strokes_injective : Function.Injective strokes := by
  intro n m h
  have hlist := congrArg (fun s => s.toList.length) h
  simpa [strokes] using hlist

/-- A string that may be missing. -/
def optionalField : Option String → String
  | none => "-"
  | some s => "+" ++ s

lemma optionalField_injective : Function.Injective optionalField := by
  intro s s' h
  have hlist := congrArg String.toList h
  cases s with
  | none =>
    cases s' with
    | none => rfl
    | some s' => simp [optionalField] at hlist
  | some s =>
    cases s' with
    | none => simp [optionalField] at hlist
    | some s' =>
      simp only [optionalField, String.toList_append, List.append_cancel_left_eq] at hlist
      rw [String.toList_inj.1 hlist]

lemma PacketType.value_injective : Function.Injective PacketType.value := by
  intro t t' h
  cases t <;> cases t' <;> first | rfl | (revert h; decide)

/-- The fields of a header. -/
def TransportHeader.fields (h : TransportHeader) : List String :=
  [h.packetId, h.packetType.value, h.action, strokes h.priority,
   optionalField (h.timeoutMs.map strokes), optionalField h.idempotencyKey,
   strokes h.retryCount, if h.replayMode then "true" else "false"]

lemma TransportHeader.fields_injective : Function.Injective TransportHeader.fields := by
  rintro ⟨id, type, action, priority, timeout, key, count, mode⟩
    ⟨id', type', action', priority', timeout', key', count', mode'⟩ h
  simp only [fields, List.cons.injEq, and_true] at h
  obtain ⟨rfl, htype, rfl, hpriority, htimeout, hkey, hcount, hmode⟩ := h
  obtain rfl := PacketType.value_injective htype
  obtain rfl := strokes_injective hpriority
  obtain rfl := Option.map_injective strokes_injective (optionalField_injective htimeout)
  obtain rfl := optionalField_injective hkey
  obtain rfl := strokes_injective hcount
  have hsame : mode = mode' := by
    cases mode <;> cases mode' <;> simp at hmode ⊢
  rw [hsame]

namespace HashingSdk

/-- The hash of the plainest implementation: the fields of the header. -/
def plainTransportHash (p : TransportPacket) : String :=
  String.ofList (p.header.fields.flatMap frame)

/-- The keys of the payload. -/
def plainPayloadHash (payload : Dict String Value) : String :=
  String.ofList (payload.keys.flatMap frame)

/-- The packet with its hashes, and without a signature. -/
def finalize (p : TransportPacket) : TransportPacket :=
  { p with
    security :=
      { payloadHash := plainPayloadHash p.payload, transportHash := plainTransportHash p } }

/-- `validate_integrity`. -/
def validateIntegrity (p : TransportPacket) : Except PyError TransportPacket :=
  if ConstellationGate.Intact plainPayloadHash plainTransportHash p then .ok p
  else .error { cls := .validationError, message := "transport_hash does not match packet" }

lemma validateIntegrity_ok_iff {p q : TransportPacket} : validateIntegrity p = .ok q ↔
    q = p ∧ ConstellationGate.Intact plainPayloadHash plainTransportHash p := by
  unfold validateIntegrity
  split
  · rename_i hintact
    rw [Except.ok.injEq, eq_comm, and_iff_left hintact]
  · rename_i hintact
    exact iff_of_false (fun h => by cases h) fun h => hintact h.2

/-- The plainest implementation. -/
def plain : HashingSdk TransportPacket where
  derive n p args := .ok (finalize (p.child n args))
  computePayloadHash := plainPayloadHash
  computeTransportHash := plainTransportHash
  construct := validateIntegrity
  dump p := p
  modelValidate := validateIntegrity
  derive_ok := by
    rintro n p args q h
    obtain rfl := Except.ok.inj h
    have hderived : Derived p args (p.child n args) := Sdk.plain.derive_ok rfl
    exact ⟨{ hderived with }, rfl, rfl, rfl⟩
  header_covered := by
    intro p q h
    exact TransportHeader.fields_injective (flatMap_frame_injective (String.ofList_injective h))
  signature_left_out _ _ _ := rfl
  construct_ok_iff := validateIntegrity_ok_iff
  modelValidate_ok_iff := validateIntegrity_ok_iff

end HashingSdk

namespace ReplayFactory

/-- A request with its hashes, to be replayed. -/
def scoreRequest : TransportPacket :=
  HashingSdk.finalize (clientPacket "acme" "score" (some "score-42"))

/-- The same request, replayed before. -/
def replayedRequest : TransportPacket :=
  let packet := clientPacket "acme" "score" (some "score-42")
  HashingSdk.finalize { packet with
    header := { packet.header with packetType := .replayRequest, replayMode := true } }

/-- The replay of a replay is decoded again. -/
theorem replay_valid_replayed :
    ∃ packet, build .plain 1 replayedRequest "orchestrator" = .ok packet ∧
      decodeRequestBody .plain (encodeResponseBody .plain packet) = .ok packet :=
  have hbuild : build .plain 1 replayedRequest "orchestrator" = .ok _ := rfl
  ⟨_, hbuild, (replay_valid_iff hbuild).2.1.2 rfl⟩

/-- The replay of a request has the hash of the packet that it was derived as, and is not decoded
again. -/
theorem replay_hash_stale :
    ¬ ∀ (sdk : HashingSdk TransportPacket) (n : ℕ) (original packet : TransportPacket)
      (sourceNode : String), build sdk n original sourceNode = .ok packet →
        packet.security.transportHash = sdk.computeTransportHash packet ∧
          decodeRequestBody sdk (encodeResponseBody sdk packet) = .ok packet := by
  intro h
  have hbuild : build .plain 1 scoreRequest "orchestrator" = .ok _ := rfl
  have hvalid := h .plain 1 scoreRequest _ "orchestrator" hbuild
  have hmode := (build_transportHash_iff hbuild).1 hvalid.1
  cases hmode

end ReplayFactory

end ConstellationGate
