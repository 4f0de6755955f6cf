import ConstellationGate.Boundary.TrustBoundary
import ConstellationGate.Orchestration.RoutableSteps

/-!
# Admission receipts

`services/admission_service.py`, with the response factory: a consumer asks which actions its key
may invoke, and Gate answers from the policy of the key and the registered nodes.  The execution of
a packet decides from other data: the global list of allowed actions, the policy, the registered
nodes and the workflows.  `admission_truthful` says how far the two agree.
-/

namespace ConstellationGate

variable {Body Dump : Type}

/-- `ResponseFactory.build`. -/
def buildResponse (sdk : Sdk Dump) (n : ℕ) (requestPacket : TransportPacket) (sourceNode : String)
    (payload : Dict String Value) : Except PyError TransportPacket :=
  sdk.derive n requestPacket
    { packetType := some .response
      sourceNode := some sourceNode
      destinationNode := some requestPacket.address.replyTo
      replyTo := some sourceNode
      payload := some payload }

/-- A list of strings in a payload. -/
def Value.strings (items : List String) : Value := .list (items.map Value.str)

/-- A string that may be missing, in a payload. -/
def Value.optional (item : Option String) : Value := item.elim .none Value.str

structure AdmissionService where
  localNode : String
  ingressValidator : IngressValidator
  registry : NodeRegistry

namespace AdmissionService

/-- The actions that are routed, of which some caller may invoke those in its scope. -/
def grantedActions (scope : Option (List String)) (routable : List String) : List String :=
  match scope with
  | none => routable
  | some actions => sortedSet (actions.filter fun action => action ∈ routable)

/-- The payload of the answer to a probe. -/
def receipt (service : AdmissionService) (packet : TransportPacket)
    (scope : Option (List String)) : Dict String Value :=
  let routable := sortedSet service.registry.allSupportedActions
  Dict.empty.update
    [("schema", .str "l9.gate.admission.v1"),
     ("gate_node", .str (normalize service.localNode)),
     ("key_id", .optional packet.security.signingKeyId),
     ("source_node", .str packet.address.sourceNode),
     ("scope", .str (if scope.isNone then "unrestricted" else "restricted")),
     ("scoped_actions", scope.elim .none fun actions => .strings (actions.insertionSort (· ≤ ·))),
     ("granted_actions", .strings (grantedActions scope routable)),
     ("routable_actions", .strings routable)]

/-- `admit`. -/
def admitProbe (service : AdmissionService) (validation : PacketValidation Body) (sdk : Sdk Dump)
    (n : ℕ) (now : ℚ) (body : Body) : Except PyError TransportPacket := do
  let probe ← service.ingressValidator.validateAdmission validation now body
  buildResponse sdk n probe.1 (normalize service.localNode) (service.receipt probe.1 probe.2)

variable {service : AdmissionService} {validation : PacketValidation Body} {sdk : Sdk Dump} {n : ℕ}
  {now : ℚ} {body : Body} {response : TransportPacket}

lemma mem_grantedActions {scope : Option (List String)} {actions : List String} {action : String} :
    action ∈ grantedActions scope (sortedSet actions) ↔
      (∀ permitted ∈ scope, action ∈ permitted) ∧ action ∈ actions := by
  rcases scope with _ | permitted
  · simp [grantedActions]
  · simp [grantedActions]

/-- The list of granted actions in an answer. -/
def Grants (response : TransportPacket) (granted : List String) : Prop :=
  response.payload.get? "granted_actions" = some (.strings granted)

lemma admitProbe_ok (h : service.admitProbe validation sdk n now body = .ok response) :
    ∃ probe scope,
      service.ingressValidator.validateAdmission validation now body = .ok (probe, scope) ∧
      Grants response
        (grantedActions scope (sortedSet service.registry.allSupportedActions)) := by
  obtain ⟨⟨probe, scope⟩, hvalidate, hbuild⟩ := bind_ok_iff.1 h
  have hpayload : response.payload = service.receipt probe scope :=
    (sdk.derive_ok hbuild).payload _ rfl
  refine ⟨probe, scope, hvalidate, ?_⟩
  rw [Grants, hpayload]
  simp [receipt, Dict.update, Dict.get?_set]

end AdmissionService

/-- The validator without the list of allowed actions. -/
def IngressValidator.unlisted (v : IngressValidator) : IngressValidator :=
  { v with allowedActions := [] }

/-- What a caller may send does not depend on that list. -/
lemma IngressValidator.permits_unlisted {v : IngressValidator} {packet : TransportPacket} :
    v.unlisted.Permits packet ↔ v.Permits packet := by
  have hsent : ∀ policy, v.unlisted.SentUnder policy packet ↔ v.SentUnder policy packet :=
    fun policy => ⟨fun h => ⟨h.signed, h.record, h.source, h.tenant⟩,
      fun h => ⟨h.signed, h.record, h.source, h.tenant⟩⟩
  simp only [Permits, hsent]
  rfl

/-! ### The probe and the request of one caller -/

/-- Two packets come from one caller: its key id, its node and its tenant. -/
structure SameCaller (p q : TransportPacket) : Prop where
  signed : q.security.signature.isSome = true
  signingKeyId : q.security.signingKeyId = p.security.signingKeyId
  sourceNode : normalize q.address.sourceNode = normalize p.address.sourceNode
  orgId : normalize q.tenant.orgId = normalize p.tenant.orgId

namespace IngressValidator

variable {v : IngressValidator} {validation : PacketValidation Body} {now : ℚ} {body : Body}
  {p q packet : TransportPacket}

/-- Who may send the one may send the other. -/
lemma SentUnder.of_sameCaller {policy : CallerPolicy} (h : v.SentUnder policy p)
    (hcaller : SameCaller p q) : v.SentUnder policy q where
  signed := hcaller.signed
  record := by
    rw [hcaller.signingKeyId]
    exact h.record
  source := hcaller.sourceNode.trans h.source
  tenant := by
    rw [hcaller.orgId]
    exact h.tenant

/-- One key has one policy. -/
lemma SentUnder.unique {policy policy' : CallerPolicy} (h : v.SentUnder policy p)
    (h' : v.SentUnder policy' p) : policy = policy' :=
  Option.some.inj (h.record.symm.trans h'.record)

/-- A packet that is valid but for the list of allowed actions is accepted when the list, the
policy of its caller and the reserved action leave it its action. -/
lemma validate_iff_of_valid (h : v.validatePacket validation now body none = .ok packet) :
    v.validate validation now body = .ok packet ↔
      (v.allowedActions = [] ∨ packet.header.action ∈ v.allowedActions) ∧
        packet.header.action ≠ admissionAction ∧ v.Permits packet := by
  obtain ⟨hdecode, hvalidate, horigin⟩ := validatePacket_ok_iff.1 h
  rw [validate_ok_iff, validatePacket_ok_iff, validation.validate_orNone]
  constructor
  · rintro ⟨⟨-, ⟨-, hallowed⟩, -⟩, hreserved, hpermits⟩
    exact ⟨hallowed, hreserved, hpermits⟩
  · rintro ⟨hallowed, hreserved, hpermits⟩
    exact ⟨⟨hdecode, ⟨hvalidate, hallowed⟩, horigin⟩, hreserved, hpermits⟩

/-- The answer to a probe has the scope in which its caller may send. -/
lemma permits_iff_scope {probe : TransportPacket} {scope : Option (List String)}
    (h : v.validateAdmission validation now body = .ok (probe, scope))
    (hcaller : SameCaller probe packet) :
    v.Permits packet ↔ ∀ permitted ∈ scope, packet.header.action ∈ permitted := by
  obtain ⟨-, -, -, ⟨hfree, rfl⟩ | ⟨hforce, policy, hsent, rfl⟩⟩ := validateAdmission_ok h
  · exact iff_of_true (fun hforce => absurd hforce hfree) (by simp)
  · simp only [Option.mem_some_iff, forall_eq']
    constructor
    · intro hpermits
      obtain ⟨policy', hsent', haction⟩ := hpermits hforce
      obtain rfl := (hsent.of_sameCaller hcaller).unique hsent'
      exact haction
    · exact fun haction _ => ⟨policy, hsent.of_sameCaller hcaller, haction⟩

end IngressValidator

namespace AdmissionService

/-- No node advertises the reserved action. -/
lemma ne_admissionAction_of_supported {registry : NodeRegistry} {action : String}
    (h : action ∈ registry.allSupportedActions) : action ≠ admissionAction := by
  obtain ⟨r, -, hr⟩ := NodeRegistry.mem_allSupportedActions.1 h
  rintro rfl
  exact r.not_reserved hr

/-- An answered probe grants an action exactly when some registered node advertises it and a
packet of the same caller with this action, which is valid otherwise, is accepted where the list of
allowed actions is empty; where that list has the action, it is accepted as things are. -/
theorem admission_truthful (service : AdmissionService) (validation : PacketValidation Body)
    (sdk : Sdk Dump) (n : ℕ) (now : ℚ) (body : Body) (response : TransportPacket)
    (h : service.admitProbe validation sdk n now body = .ok response) :
    ∃ probe granted, validation.decode body = .ok probe ∧ Grants response granted ∧
      ∀ now' body' packet,
        service.ingressValidator.validatePacket validation now' body' none = .ok packet →
        SameCaller probe packet →
        (packet.header.action ∈ granted ↔
          service.ingressValidator.unlisted.validate validation now' body' = .ok packet ∧
            packet.header.action ∈ service.registry.allSupportedActions) ∧
        (service.ingressValidator.allowedActions = [] ∨
            packet.header.action ∈ service.ingressValidator.allowedActions →
          (packet.header.action ∈ granted ↔
            service.ingressValidator.validate validation now' body' = .ok packet ∧
              packet.header.action ∈ service.registry.allSupportedActions)) := by
  obtain ⟨probe, scope, hprobe, hgrants⟩ := admitProbe_ok h
  have hdecode := (IngressValidator.validatePacket_ok_iff.1
    (IngressValidator.validateAdmission_ok hprobe).1).1
  refine ⟨probe, _, hdecode, hgrants, fun now' body' packet hvalid hcaller => ?_⟩
  have hpermits := IngressValidator.permits_iff_scope hprobe hcaller
  have hunlisted := IngressValidator.validate_iff_of_valid
    (v := service.ingressValidator.unlisted) hvalid
  have hlisted := IngressValidator.validate_iff_of_valid hvalid
  -- both conditions are what the probe has granted, up to the list of allowed actions
  rw [mem_grantedActions, ← hpermits]
  constructor
  · rw [hunlisted, IngressValidator.permits_unlisted]
    constructor
    · rintro ⟨hpermit, haction⟩
      exact ⟨⟨Or.inl rfl, ne_admissionAction_of_supported haction, hpermit⟩, haction⟩
    · rintro ⟨⟨-, -, hpermit⟩, haction⟩
      exact ⟨hpermit, haction⟩
  · intro hallowed
    rw [hlisted]
    constructor
    · rintro ⟨hpermit, haction⟩
      exact ⟨⟨hallowed, ne_admissionAction_of_supported haction, hpermit⟩, haction⟩
    · rintro ⟨⟨-, -, hpermit⟩, haction⟩
      exact ⟨hpermit, haction⟩

/-! ### One consumer -/

/-- The admission service of a Gate with one worker, which serves `score`, and one consumer, which
may invoke it and the workflow `inner`. -/
def forConsumer (allowedActions : List String) : AdmissionService where
  localNode := "gate"
  ingressValidator :=
    { options :=
        { keyResolver :=
            some fun keyId => if keyId = some "odoo-k1" then some "odoo-secret" else none
          requireSignature := true
          localNode := "gate" }
      allowedActions := allowedActions
      callerPolicies :=
        match CallerPolicy.create "odoo" "consumer" ["acme"] ["score", "inner"] with
        | .ok policy => Dict.empty.set "odoo-k1" policy
        | .error _ => .empty }
  registry := .oneWorker "worker" "score"

/-- The answer of that service to the probe of its consumer. -/
def answer (allowedActions : List String) : Except PyError TransportPacket :=
  (forConsumer allowedActions).admitProbe .plain Sdk.plain 0 0 (consumerPacket admissionAction)

lemma sameCaller_consumerPacket (action action' : String) :
    SameCaller (consumerPacket action) (consumerPacket action') := ⟨rfl, rfl, rfl, rfl⟩

/-- Without a list of allowed actions the consumer is granted `score`. -/
theorem admission_truthful_forConsumer :
    ∃ response granted, answer [] = .ok response ∧ Grants response granted ∧ "score" ∈ granted := by
  obtain ⟨response, hanswer, -⟩ := exists_ok_of_any (x := answer []) (p := fun _ => true)
    (by decide +kernel)
  obtain ⟨probe, granted, hdecode, hgrants, htruthful⟩ :=
    admission_truthful (forConsumer []) .plain Sdk.plain 0 0 _ response hanswer
  obtain rfl := Except.ok.inj hdecode
  have hvalid := (forConsumer []).ingressValidator.validatePacket_plain 0 (consumerPacket "score")
    none (by decide +kernel)
  have haccepted := (forConsumer []).ingressValidator.validate_plain 0 (consumerPacket "score")
    (by decide +kernel)
  obtain ⟨-, hgranted⟩ := htruthful 0 _ _ hvalid (sameCaller_consumerPacket _ _)
  exact ⟨response, granted, hanswer, hgrants,
    (hgranted (Or.inl rfl)).2 ⟨haccepted, by decide +kernel⟩⟩

/-- An action is served here: a node advertises it, or a workflow has its name. -/
def Served (registry : NodeRegistry) (cfg : GateConfig Dump) (action : String) : Prop :=
  action ∈ registry.allSupportedActions ∨ hasWorkflow cfg action = true

/-- Where only the workflow `inner` is allowed, the consumer is granted `score`, with which its
packet is refused, and not `inner`, with which it is accepted and served. -/
theorem receipt_not_truthful :
    ∃ response granted, answer ["inner"] = .ok response ∧ Grants response granted ∧
      (∀ action, SameCaller (consumerPacket admissionAction) (consumerPacket action)) ∧
      ("score" ∈ granted ∧
        (forConsumer ["inner"]).ingressValidator.validatePacket .plain 0 (consumerPacket "score")
          none = .ok (consumerPacket "score") ∧
        ∀ packet, (forConsumer ["inner"]).ingressValidator.validate .plain 0
          (consumerPacket "score") ≠ .ok packet) ∧
      ("inner" ∉ granted ∧
        (forConsumer ["inner"]).ingressValidator.validate .plain 0 (consumerPacket "inner")
          = .ok (consumerPacket "inner") ∧
        Served (forConsumer ["inner"]).registry (.running innerAlone) "inner") := by
  obtain ⟨response, hanswer, -⟩ := exists_ok_of_any (x := answer ["inner"]) (p := fun _ => true)
    (by decide +kernel)
  obtain ⟨probe, scope, hprobe, hgrants⟩ := admitProbe_ok hanswer
  obtain ⟨admitted, hprobe', hscope⟩ := exists_ok_of_any
    (x := (forConsumer ["inner"]).ingressValidator.validateAdmission .plain 0
      (consumerPacket admissionAction))
    (p := fun admitted => admitted.2 = some ["score", "inner"]) (by decide +kernel)
  obtain rfl := Except.ok.inj (hprobe'.symm.trans hprobe)
  have hscope : scope = some ["score", "inner"] := of_decide_eq_true hscope
  have hactions : (forConsumer ["inner"]).registry.allSupportedActions = ["score"] := by
    decide +kernel
  have hmem : ∀ action, action ∈ grantedActions scope
      (sortedSet (forConsumer ["inner"]).registry.allSupportedActions) ↔
        action ∈ ["score", "inner"] ∧ action ∈ ["score"] := by
    intro action
    rw [mem_grantedActions, hscope, hactions]
    simp
  have hvalid := (forConsumer ["inner"]).ingressValidator.validatePacket_plain 0
    (consumerPacket "score") none (by decide +kernel)
  have haccepted := (forConsumer ["inner"]).ingressValidator.validate_plain 0
    (consumerPacket "inner") (by decide +kernel)
  refine ⟨response, _, hanswer, hgrants, sameCaller_consumerPacket _,
    ⟨(hmem _).2 (by decide), hvalid, fun packet h => ?_⟩,
    fun h => ?_, haccepted, Or.inr (by decide +kernel)⟩
  · -- the list of allowed actions refuses `score`
    have hdecode := (IngressValidator.validatePacket_ok_iff.1
      (IngressValidator.validate_ok_iff.1 h).1).1
    obtain rfl := Except.ok.inj hdecode
    obtain ⟨hallowed, -⟩ := (IngressValidator.validate_iff_of_valid hvalid).1 h
    exact absurd hallowed (by decide)
  · exact absurd ((hmem _).1 h).2 (by decide)

end AdmissionService

end ConstellationGate
