import ConstellationGate.Boundary.IngressValidator

/-!
# The trust boundary of production

The ingress validator that `api/dependencies.py` wires from the settings.  In `staging` and `prod`
the validators of the settings and the policy lookup of the boundary together decide who is let
in: what is accepted is signed with a verifying key and permitted by the policy of that key, and
so a Gate behind a declared network boundary, which has no keys, accepts nothing.
-/

namespace ConstellationGate

/-- `get_ingress_validator`. -/
def getIngressValidator (settings : GateSettings) : IngressValidator where
  options :=
    { keyResolver := some settings.resolveVerifyingKey
      requireSignature := settings.requireSignature
      maxPacketBytes := settings.maxPacketBytes
      maxHopDepth := settings.maxHopDepth
      maxDelegationDepth := settings.maxDelegationDepth
      maxAttachments := settings.maxAttachments
      maxAttachmentSizeBytes := settings.maxAttachmentSizeBytes
      allowedAttachmentSchemes := settings.attachmentAllowedSchemes
      allowPrivateAttachmentHosts := settings.allowPrivateAttachmentHosts
      allowedClockSkewSeconds := settings.allowedClockSkewSeconds
      localNode := normalize settings.localNode
      allowedPacketTypes := orNone settings.allowedPacketTypes
      requiredIdempotencyActions := orNone settings.requiredIdempotencyActions
      replayEnabled := settings.replayEnabled
      devMode := settings.devMode
      verifyHopSignatures := settings.verifyHopSignatures
      hopKeyResolver := some settings.resolveVerifyingKey }
  allowedActions := settings.allowedActions
  callerPolicies := settings.callerPolicies
  requireCallerPolicy := settings.callerPolicyRequired

/-- Under some options, the SDK has a well-formed packet that is signed with a key under its id
and comes from a node, for a tenant and with an action. -/
def PacketValidation.CanSend {Body : Type} (sdk : PacketValidation Body)
    (options : ValidationOptions) (now : ℚ) (keyId key node tenant action : String) : Prop :=
  ∃ body packet, sdk.decode body = .ok packet ∧ sdk.WellFormed options now body packet ∧
    validateNodeOriginPolicy packet options.localNode = .ok () ∧
    packet.security.signature.isSome = true ∧ packet.security.signingKeyId = some keyId ∧
    sdk.verifies packet key = true ∧ normalize packet.address.sourceNode = node ∧
    normalize packet.tenant.orgId = tenant ∧ packet.header.action = action

namespace GateSettings

variable {Body : Type} {sdk : PacketValidation Body} {settings : GateSettings} {now : ℚ}
  {body : Body} {packet : TransportPacket}

/-! ### What production accepts -/

/-- What the validator returns was validated by the SDK, and the boundary permits it. -/
lemma accepted_iff :
    (getIngressValidator settings).validate sdk now body = .ok packet ↔
      sdk.decode body = .ok packet ∧
        (sdk.WellFormed (getIngressValidator settings).options now body packet ∧
          (getIngressValidator settings).options.authentic sdk.verifies packet = true) ∧
        (settings.allowedActions = [] ∨ packet.header.action ∈ settings.allowedActions) ∧
        validateNodeOriginPolicy packet (getIngressValidator settings).options.localNode = .ok () ∧
        packet.header.action ≠ admissionAction ∧ (getIngressValidator settings).Permits packet := by
  rw [IngressValidator.validate_ok_iff, IngressValidator.validatePacket_ok_iff,
    sdk.validate_orNone, sdk.validate_ok_iff]
  simp only [and_assoc]
  rfl

/-- A packet that the caller of a policy sends names its key, which is the verifying key of its
id: a blank id has no policy, and Gate's own signing key is never asked for. -/
lemma key_of_sentUnder {policy : CallerPolicy}
    (h : (getIngressValidator settings).SentUnder policy packet) :
    ∃ keyId key, packet.security.signingKeyId = some keyId ∧
      settings.verifyingKeys.get? keyId = some key ∧
      settings.resolveVerifyingKey (some keyId) = some key ∧
      settings.callerPolicies.get? keyId = some policy := by
  have hrecord : settings.callerPolicies.get? (packet.security.signingKeyId.getD "") =
      some policy := h.record
  obtain ⟨key, hkey, hresolve⟩ :=
    settings.resolveVerifyingKey_of_policy (Dict.contains_iff.2 ⟨policy, hrecord⟩)
  have hne := settings.valid.key_ne _ _ hkey
  rcases hid : packet.security.signingKeyId with _ | keyId
  · rw [hid] at hne
    exact absurd rfl hne
  · rw [hid] at hkey hresolve hrecord
    exact ⟨keyId, key, rfl, hkey, hresolve, hrecord⟩

/-- Policies are only configured where signatures are required. -/
lemma requireSignature_of_policy {keyId : String} {policy : CallerPolicy}
    (h : settings.callerPolicies.get? keyId = some policy) : settings.requireSignature = true := by
  refine settings.valid.policies_signed fun hempty => ?_
  rw [hempty] at h
  cases h

/-- What production accepts is sent under a policy that permits its action, with a signature that
verifies under the key of that policy. -/
lemma trusted_of_accepted (henv : settings.environment ∈ trustRequiredEnvironments)
    (h : (getIngressValidator settings).validate sdk now body = .ok packet) :
    settings.requireSignature = true ∧
      ∃ policy, (getIngressValidator settings).SentUnder policy packet ∧
        packet.header.action ∈ policy.actions ∧
        ∃ keyId key, packet.security.signingKeyId = some keyId ∧
          settings.verifyingKeys.get? keyId = some key ∧
          settings.resolveVerifyingKey (some keyId) = some key ∧
          settings.callerPolicies.get? keyId = some policy ∧ sdk.verifies packet key = true := by
  have hrequired : settings.callerPolicyRequired = true := decide_eq_true henv
  obtain ⟨-, ⟨-, hauthentic⟩, -, -, -, hpermits⟩ := accepted_iff.1 h
  obtain ⟨policy, hsent, haction⟩ := hpermits (Or.inr hrequired)
  obtain ⟨keyId, key, hid, hkey, hresolve, hrecord⟩ := key_of_sentUnder hsent
  have hsign := requireSignature_of_policy hrecord
  obtain ⟨-, resolver, hresolver, key', hkey', hverifies⟩ :=
    ValidationOptions.signed_of_authentic hauthentic hsign (settings.valid.devMode hrequired)
  obtain rfl : settings.resolveVerifyingKey = resolver := Option.some.inj hresolver
  rw [hid, hresolve] at hkey'
  obtain rfl := Option.some.inj hkey'
  exact ⟨hsign, policy, hsent, haction, keyId, key, hid, hkey, hresolve, hrecord, hverifies⟩

/-- Production ingress is authenticated and scoped: what is accepted is signed with the verifying
key of its key id, and the policy of that key has its node, its tenant and its action. -/
theorem ingress_authenticated (sdk : PacketValidation Body) (settings : GateSettings)
    (henv : settings.environment ∈ trustRequiredEnvironments) (now : ℚ) (body : Body)
    (packet : TransportPacket)
    (h : (getIngressValidator settings).validate sdk now body = .ok packet) :
    settings.requireSignature = true ∧ packet.security.signature.isSome = true ∧
      ∃ keyId key policy, packet.security.signingKeyId = some keyId ∧
        settings.verifyingKeys.get? keyId = some key ∧
        settings.resolveVerifyingKey (some keyId) = some key ∧ sdk.verifies packet key = true ∧
        settings.callerPolicies.get? keyId = some policy ∧
        policy.node = normalize packet.address.sourceNode ∧
        normalize packet.tenant.orgId ∈ policy.tenants ∧
        packet.header.action ∈ policy.actions := by
  obtain ⟨hsign, policy, hsent, haction, keyId, key, hid, hkey, hresolve, hrecord, hverifies⟩ :=
    trusted_of_accepted henv h
  exact ⟨hsign, hsent.signed, keyId, key, policy, hid, hkey, hresolve, hverifies, hrecord,
    hsent.source.symm, hsent.tenant, haction⟩

/-- A Gate in production with the record of one consumer. -/
def consumerArgs : SettingsArgs where
  environment := "prod"
  requireSignature := true
  verifyingKeys := Dict.empty.set "odoo-k1" "odoo-secret"
  callerPolicies :=
    match CallerPolicy.create "odoo" "consumer" ["acme"] ["converge", "match"] with
    | .ok policy => Dict.empty.set "odoo-k1" policy
    | .error _ => .empty
  adminToken := some "token"

/-- The settings are those of a production Gate that accepts a packet. -/
def acceptsInProd (packet : TransportPacket) (settings : GateSettings) : Bool :=
  settings.environment = "prod" &&
    ((getIngressValidator settings).validate .plain 0 packet).toOption.isSome

/-- The consumer's request passes the boundary of the Gate that has its record. -/
lemma consumer_accepted :
    ∃ settings, create consumerArgs = .ok settings ∧
      settings.environment ∈ trustRequiredEnvironments ∧
      (getIngressValidator settings).validate .plain 0 (consumerPacket "match")
        = .ok (consumerPacket "match") := by
  obtain ⟨settings, hcreate, haccepts⟩ := exists_ok_of_any (x := create consumerArgs)
    (p := acceptsInProd (consumerPacket "match")) (by decide +kernel)
  obtain ⟨henv, hsome⟩ := (Bool.and_eq_true_iff).1 haccepts
  refine ⟨settings, hcreate, ?_, IngressValidator.validate_plain _ _ _ hsome⟩
  rw [of_decide_eq_true henv]
  decide

theorem ingress_authenticated_consumer :
    ∃ settings, create consumerArgs = .ok settings ∧ settings.requireSignature = true ∧
      ∃ keyId key policy, (consumerPacket "match").security.signingKeyId = some keyId ∧
        settings.verifyingKeys.get? keyId = some key ∧
        settings.callerPolicies.get? keyId = some policy ∧ "match" ∈ policy.actions := by
  obtain ⟨settings, hcreate, henv, hvalidate⟩ := consumer_accepted
  obtain ⟨hsign, -, keyId, key, policy, hid, hkey, -, -, hrecord, -, -, haction⟩ :=
    ingress_authenticated .plain settings henv 0 _ _ hvalidate
  exact ⟨settings, hcreate, hsign, keyId, key, policy, hid, hkey, hrecord, haction⟩

/-! ### What production can accept -/

/-- A caller can be heard: signatures are required, and under some key whose policy permits an
action that may be executed here, the SDK has a packet of that caller. -/
def CanBeHeard (sdk : PacketValidation Body) (settings : GateSettings) (now : ℚ) : Prop :=
  settings.requireSignature = true ∧
    ∃ keyId key policy, settings.verifyingKeys.get? keyId = some key ∧
      settings.callerPolicies.get? keyId = some policy ∧
      ∃ action ∈ policy.actions, action ≠ admissionAction ∧
        (settings.allowedActions = [] ∨ action ∈ settings.allowedActions) ∧
        ∃ tenant ∈ policy.tenants,
          sdk.CanSend (getIngressValidator settings).options now keyId key policy.node tenant action

theorem ingress_usable_iff (sdk : PacketValidation Body) (settings : GateSettings)
    (henv : settings.environment ∈ trustRequiredEnvironments) (now : ℚ) :
    (∃ body packet, (getIngressValidator settings).validate sdk now body = .ok packet) ↔
      settings.CanBeHeard sdk now := by
  constructor
  · rintro ⟨body, packet, h⟩
    obtain ⟨hdecode, ⟨hwell, -⟩, hallowed, horigin, hreserved, -⟩ := accepted_iff.1 h
    obtain ⟨hsign, policy, hsent, haction, keyId, key, hid, hkey, -, hrecord, hverifies⟩ :=
      trusted_of_accepted henv h
    exact ⟨hsign, keyId, key, policy, hkey, hrecord, packet.header.action, haction, hreserved,
      hallowed, normalize packet.tenant.orgId, hsent.tenant, body, packet, hdecode, hwell, horigin,
      hsent.signed, hid, hverifies, hsent.source, rfl, rfl⟩
  · rintro ⟨hsign, keyId, key, policy, hkey, hrecord, action, haction, hreserved, hallowed, tenant,
      htenant, body, packet, hdecode, hwell, horigin, hsigned, hid, hverifies, hsource, rfl, rfl⟩
    -- the key that verifies the packet is the one that its key id resolves to
    have hresolve : settings.resolveVerifyingKey packet.security.signingKeyId = some key := by
      rw [hid, resolveVerifyingKey, hkey]
    have hauthentic := (getIngressValidator settings).options.authentic_of_verifies hsigned rfl
      hresolve hverifies
    refine ⟨body, packet, accepted_iff.2 ⟨hdecode, ⟨hwell, hauthentic⟩, hallowed, horigin,
      hreserved, fun _ => ⟨policy, ⟨hsigned, ?_, hsource, htenant⟩, haction⟩⟩⟩
    rw [hid]
    exact hrecord

theorem ingress_usable_iff_consumer :
    ∃ settings, create consumerArgs = .ok settings ∧ settings.CanBeHeard .plain 0 := by
  obtain ⟨settings, hcreate, henv, hvalidate⟩ := consumer_accepted
  exact ⟨settings, hcreate, (ingress_usable_iff .plain settings henv 0).1 ⟨_, _, hvalidate⟩⟩

/-- Behind a network boundary alone nobody is heard: without required signatures there is no
policy, and production lets nobody in without one. -/
lemma refused_of_unsigned (henv : settings.environment ∈ trustRequiredEnvironments)
    (hsign : settings.requireSignature = false) :
    (getIngressValidator settings).validate sdk now body ≠ .ok packet := by
  intro h
  obtain ⟨hrequire, -⟩ := trusted_of_accepted henv h
  rw [hsign] at hrequire
  cases hrequire

/-- A Gate in production behind a declared network boundary. -/
def networkArgs : SettingsArgs where
  environment := "prod"
  trustedIngressBoundary := some "network"
  trustedIngressBoundaryEvidence := some "istio mTLS mesh; gate port private-only"
  adminToken := some "token"

/-- The settings are those of a production Gate behind a network boundary, whose SDK validates a
packet. -/
def validatesInProd (packet : TransportPacket) (settings : GateSettings) : Bool :=
  settings.environment = "prod" && settings.requireSignature = false &&
    (PacketValidation.plain.validate (getIngressValidator settings).options none 0 packet
      packet).toOption.isSome

/-- The settings of the network boundary are accepted, the SDK validates a request, and the
boundary refuses that one and every other. -/
theorem networkBoundary_unusable :
    ∃ settings, create networkArgs = .ok settings ∧ settings.environment = "prod" ∧
      PacketValidation.plain.validate (getIngressValidator settings).options none 0
        (unsignedPacket "match") (unsignedPacket "match") = .ok () ∧
      ∀ now body packet,
        (getIngressValidator settings).validate PacketValidation.plain now body ≠ .ok packet := by
  obtain ⟨settings, hcreate, hvalidates⟩ := exists_ok_of_any (x := create networkArgs)
    (p := validatesInProd (unsignedPacket "match")) (by decide +kernel)
  obtain ⟨hsettings, hsome⟩ := Bool.and_eq_true_iff.1 hvalidates
  obtain ⟨henv, hsign⟩ := Bool.and_eq_true_iff.1 hsettings
  have henv := of_decide_eq_true henv
  refine ⟨settings, hcreate, henv, ?_, fun now body packet => ?_⟩
  · rcases hvalidate : PacketValidation.plain.validate (getIngressValidator settings).options none 0
      (unsignedPacket "match") (unsignedPacket "match") with exc | u
    · rw [hvalidate] at hsome
      cases hsome
    · rfl
  · refine refused_of_unsigned ?_ (of_decide_eq_true hsign)
    rw [henv]
    decide

end GateSettings

end ConstellationGate
