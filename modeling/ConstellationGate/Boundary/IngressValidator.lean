import ConstellationGate.Config.Settings
import ConstellationGate.Routing.NodeRegistry
import ConstellationGate.Routing.Resolver
import ConstellationGate.Transport.Validation

/-!
# The ingress validator

`boundary/ingress_validator.py` and the origin rule of `boundary/routing_policy.py`.  What the two
entry points return is said once: `validate_ok_iff` for the bodies that are executed and
`validateAdmission_ok_iff` for the admission probes.  The set of known nodes, which the origin rule
takes and does not use, is left out.
-/

namespace ConstellationGate

/-- `validate_node_origin_policy`: a packet that a node wrote comes back to Gate. -/
def validateNodeOriginPolicy (packet : TransportPacket) (gateNode : String) :
    Except PyError Unit :=
  let normalizedLocal := normalize gateNode
  let source := packet.address.sourceNode
  let destination := packet.address.destinationNode
  let refuse (message : String) := .error { cls := .routingPolicyError, message := message }
  if packet.provenance.originKind = .node then
    if destination ≠ normalizedLocal then
      refuse ("node-originated packets must target " ++ Text.quoted normalizedLocal ++ ", got "
        ++ Text.quoted destination)
    else if packet.provenance.originalSourceNode ∉ [none, some source] then
      refuse "node-originated packet original_source_node must match source_node"
    else .ok ()
  else .ok ()

/-- The configuration of an ingress validator. -/
structure IngressValidator where
  options : ValidationOptions
  allowedActions : List String := []
  callerPolicies : Dict String CallerPolicy := .empty
  requireCallerPolicy : Bool := false

namespace IngressValidator

variable {Body : Type} (sdk : PacketValidation Body) (v : IngressValidator)

/-- What `_validate_packet` tries. -/
def decodeAndValidate (now : ℚ) (body : Body) (allowedActions : Option (List String)) :
    Except PyError TransportPacket := do
  let packet ← sdk.decode body
  sdk.validate v.options allowedActions now body packet
  validateNodeOriginPolicy packet v.options.localNode
  pure packet

/-- `_validate_packet`. -/
def validatePacket (now : ℚ) (body : Body) (allowedActions : Option (List String)) :
    Except PyError TransportPacket :=
  match v.decodeAndValidate sdk now body allowedActions with
  | .ok packet => .ok packet
  | .error exc =>
    if exc.isException then .error { cls := .ingressValidationError, message := exc.message }
    else .error exc

/-- `_resolve_caller_policy`: the record of the caller, or none where no policy is in force. -/
def resolveCallerPolicy (packet : TransportPacket) (checkAction : Bool) :
    Except PyError (Option CallerPolicy) :=
  let refuse (message : String) := .error { cls := .ingressAuthorizationError, message := message }
  if v.callerPolicies = .empty ∧ v.requireCallerPolicy = false then .ok none
  else if packet.security.signature = none then
    refuse "unsigned packet refused: caller policy is in force"
  else
    let keyId := packet.security.signingKeyId.getD ""
    match v.callerPolicies.get? keyId with
    | none => refuse ("key " ++ Text.quoted keyId ++ " has no caller policy")
    | some policy =>
      let source := normalize packet.address.sourceNode
      let tenant := normalize packet.tenant.orgId
      if source ≠ policy.node then
        refuse ("key " ++ Text.quoted keyId ++ " is not permitted to claim source_node "
          ++ Text.quoted source)
      else if tenant ∉ policy.tenants then
        refuse ("key " ++ Text.quoted keyId ++ " is not permitted to act for tenant "
          ++ Text.quoted tenant)
      else if checkAction = true ∧ packet.header.action ∉ policy.actions then
        refuse ("key " ++ Text.quoted keyId ++ " is not permitted to invoke action "
          ++ Text.quoted packet.header.action)
      else .ok (some policy)

/-- `_authorize_action`. -/
def authorizeAction (packet : TransportPacket) : Except PyError Unit := do
  let _ ← v.resolveCallerPolicy packet true
  pure ()

/-- `validate`. -/
def validate (now : ℚ) (body : Body) : Except PyError TransportPacket := do
  let packet ← v.validatePacket sdk now body (orNone v.allowedActions)
  if packet.header.action = admissionAction then
    .error { cls := .ingressValidationError,
             message := Text.quoted admissionAction
               ++ " is reserved for POST /v1/admission and is not routable" }
  else do
    v.authorizeAction packet
    pure packet

/-- `validate_admission`: the probe and the actions of its caller, if a policy is in force. -/
def validateAdmission (now : ℚ) (body : Body) :
    Except PyError (TransportPacket × Option (List String)) := do
  let packet ← v.validatePacket sdk now body none
  if packet.header.action ≠ admissionAction then
    .error { cls := .ingressValidationError,
             message := "admission probes must use action " ++ Text.quoted admissionAction }
  else if packet.security.signature = none then
    .error { cls := .ingressAuthorizationError,
             message := "admission requires a signed packet: "
               ++ "an unsigned caller cannot prove its key id" }
  else do
    let policy ← v.resolveCallerPolicy packet false
    pure (packet, policy.map CallerPolicy.actions)

/-! ### Who may send -/

/-- A caller policy is in force. -/
def PolicyInForce : Prop := v.callerPolicies ≠ .empty ∨ v.requireCallerPolicy = true

/-- A packet is one that the caller of a policy may send, whatever its action. -/
structure SentUnder (policy : CallerPolicy) (packet : TransportPacket) : Prop where
  signed : packet.security.signature.isSome = true
  record : v.callerPolicies.get? (packet.security.signingKeyId.getD "") = some policy
  source : normalize packet.address.sourceNode = policy.node
  tenant : normalize packet.tenant.orgId ∈ policy.tenants

/-- Where a policy is in force, the packet is permitted by the one of its key. -/
def Permits (packet : TransportPacket) : Prop :=
  v.PolicyInForce → ∃ policy, v.SentUnder policy packet ∧ packet.header.action ∈ policy.actions

variable {v}

lemma policyInForce_iff :
    v.PolicyInForce ↔ ¬ (v.callerPolicies = .empty ∧ v.requireCallerPolicy = false) := by
  rw [PolicyInForce, not_and_or, Bool.not_eq_false]

lemma resolveCallerPolicy_none_iff {packet : TransportPacket} {checkAction : Bool} :
    v.resolveCallerPolicy packet checkAction = .ok none ↔ ¬ v.PolicyInForce := by
  rw [policyInForce_iff, not_not, resolveCallerPolicy]
  split
  · rename_i hfree
    exact iff_of_true rfl hfree
  rename_i hforce
  refine iff_of_false (fun h => ?_) hforce
  obtain ⟨-, h⟩ := guard_ok_iff.1 h
  dsimp only at h
  split at h
  · cases h
  simp only [guard_ok_iff] at h
  cases h.2.2.2

lemma resolveCallerPolicy_some_iff {packet : TransportPacket} {checkAction : Bool}
    {policy : CallerPolicy} :
    v.resolveCallerPolicy packet checkAction = .ok (some policy) ↔
      v.PolicyInForce ∧ v.SentUnder policy packet ∧
        (checkAction = true → packet.header.action ∈ policy.actions) := by
  rw [policyInForce_iff, resolveCallerPolicy]
  split
  · rename_i hfree
    exact iff_of_false (fun h => by cases h) fun h => h.1 hfree
  rename_i hforce
  simp only [guard_ok_iff]
  constructor
  · rintro ⟨hsig, h⟩
    split at h
    · cases h
    rename_i record hrecord
    simp only [guard_ok_iff, not_not, not_and] at h
    obtain ⟨hsource, htenant, haction, h⟩ := h
    obtain rfl := Option.some.inj (Except.ok.inj h)
    exact ⟨hforce, ⟨Option.isSome_iff_ne_none.2 hsig, hrecord, hsource, htenant⟩, haction⟩
  · rintro ⟨-, ⟨hsig, hrecord, hsource, htenant⟩, haction⟩
    refine ⟨Option.isSome_iff_ne_none.1 hsig, ?_⟩
    simp only [hrecord, guard_ok_iff, not_not, not_and, and_true]
    exact ⟨hsource, htenant, haction⟩

lemma authorizeAction_ok_iff {packet : TransportPacket} :
    v.authorizeAction packet = .ok () ↔ v.Permits packet := by
  rw [authorizeAction, bind_ok_iff]
  constructor
  · rintro ⟨record, hresolve, -⟩ hforce
    rcases record with _ | policy
    · exact absurd hforce (resolveCallerPolicy_none_iff.1 hresolve)
    · obtain ⟨-, hsent, haction⟩ := resolveCallerPolicy_some_iff.1 hresolve
      exact ⟨policy, hsent, haction rfl⟩
  · intro hpermits
    by_cases hforce : v.PolicyInForce
    · obtain ⟨policy, hsent, haction⟩ := hpermits hforce
      exact ⟨some policy, resolveCallerPolicy_some_iff.2 ⟨hforce, hsent, fun _ => haction⟩, rfl⟩
    · exact ⟨none, resolveCallerPolicy_none_iff.2 hforce, rfl⟩

/-! ### What is accepted -/

variable {sdk} {now : ℚ} {body : Body} {packet : TransportPacket}

lemma validatePacket_ok_iff {allowedActions : Option (List String)} :
    v.validatePacket sdk now body allowedActions = .ok packet ↔
      sdk.decode body = .ok packet ∧
        sdk.validate v.options allowedActions now body packet = .ok () ∧
        validateNodeOriginPolicy packet v.options.localNode = .ok () := by
  have hpass : v.validatePacket sdk now body allowedActions = .ok packet ↔
      v.decodeAndValidate sdk now body allowedActions = .ok packet := by
    unfold validatePacket
    split
    · rename_i heq
      rw [heq]
    · rename_i heq
      rw [heq]
      split_ifs <;> simp
  rw [hpass, decodeAndValidate]
  simp only [bind_ok_iff, pure_ok_iff]
  constructor
  · rintro ⟨decoded, hdecode, ⟨⟩, hvalidate, ⟨⟩, horigin, rfl⟩
    exact ⟨hdecode, hvalidate, horigin⟩
  · rintro ⟨hdecode, hvalidate, horigin⟩
    exact ⟨packet, hdecode, (), hvalidate, (), horigin, rfl⟩

lemma validate_ok_iff :
    v.validate sdk now body = .ok packet ↔
      v.validatePacket sdk now body (orNone v.allowedActions) = .ok packet ∧
        packet.header.action ≠ admissionAction ∧ v.Permits packet := by
  rw [validate]
  simp only [bind_ok_iff, guard_ok_iff, pure_ok_iff]
  constructor
  · rintro ⟨accepted, hpacket, haction, ⟨⟩, hauthorize, rfl⟩
    exact ⟨hpacket, haction, authorizeAction_ok_iff.1 hauthorize⟩
  · rintro ⟨hpacket, haction, hpermits⟩
    exact ⟨packet, hpacket, haction, (), authorizeAction_ok_iff.2 hpermits, rfl⟩

/-- An answered probe: a signed packet, with the actions of the policy under which it is sent. -/
lemma validateAdmission_ok {scope : Option (List String)}
    (h : v.validateAdmission sdk now body = .ok (packet, scope)) :
    v.validatePacket sdk now body none = .ok packet ∧
      packet.header.action = admissionAction ∧ packet.security.signature.isSome = true ∧
      (¬ v.PolicyInForce ∧ scope = none ∨
        v.PolicyInForce ∧ ∃ policy, v.SentUnder policy packet ∧ scope = some policy.actions) := by
  rw [validateAdmission] at h
  simp only [bind_ok_iff, guard_ok_iff, pure_ok_iff, not_not] at h
  obtain ⟨probe, hpacket, haction, hsig, record, hresolve, heq⟩ := h
  obtain ⟨rfl, rfl⟩ := Prod.mk.inj heq
  refine ⟨hpacket, haction, Option.isSome_iff_ne_none.2 hsig, ?_⟩
  rcases record with _ | policy
  · exact Or.inl ⟨resolveCallerPolicy_none_iff.1 hresolve, rfl⟩
  · obtain ⟨hforce, hsent, -⟩ := resolveCallerPolicy_some_iff.1 hresolve
    exact Or.inr ⟨hforce, policy, hsent, rfl⟩

/-! ### With the plainest SDK -/

variable (v now packet)

lemma validatePacket_plain (allowedActions : Option (List String))
    (h : (v.validatePacket .plain now packet allowedActions).toOption.isSome = true) :
    v.validatePacket .plain now packet allowedActions = .ok packet := by
  rcases hvalidate : v.validatePacket .plain now packet allowedActions with exc | accepted
  · rw [hvalidate] at h
    cases h
  · obtain rfl := Except.ok.inj (validatePacket_ok_iff.1 hvalidate).1
    rfl

lemma validate_plain (h : (v.validate .plain now packet).toOption.isSome = true) :
    v.validate .plain now packet = .ok packet := by
  rcases hvalidate : v.validate .plain now packet with exc | accepted
  · rw [hvalidate] at h
    cases h
  · obtain rfl := Except.ok.inj (validatePacket_ok_iff.1 (validate_ok_iff.1 hvalidate).1).1
    rfl

end IngressValidator

end ConstellationGate
