import ConstellationGate.Api.Endpoints
import ConstellationGate.Routing.VeiledRegistry

/-!
# What the endpoints keep to themselves

A registration says where a worker lives, how it is probed and how long it may take.  The registry
is read with the admin token only; every other answer is the same whatever these data are, in every
history of requests (`registry_confidential`), also the answers to registrations and the readiness
report.  An authorized read leaves no trace in the other answers either.
-/

namespace ConstellationGate

variable {Dump Body : Type}

/-! ### The reports on a veiled registry -/

section Reports

variable (reg : NodeRegistry)

lemma advertisements_veiled (action : String) :
    advertisements reg.veiled action =
      (advertisements reg action).map fun e => (e.1, e.2.veiled) := by
  have hsorted : reg.veiled.nodes.sortedItems =
      reg.nodes.sortedItems.map fun e => (e.1, e.2.veiled) :=
    Dict.sortedItems_mapValues reg.nodes _
  show reg.veiled.nodes.sortedItems.filter _ = (reg.nodes.sortedItems.filter _).map _
  rw [hsorted, List.filter_map]
  rfl

lemma advertisedOwners_veiled (items : List (String × NodeRegistration)) :
    advertisedOwners (items.map fun e => (e.1, e.2.veiled)) = advertisedOwners items := by
  rw [advertisedOwners, List.foldl_map]
  simp only [NodeRegistration.veiled, ownerForRegistration_ownerEntry]
  rfl

lemma actionRoutability_veiled (action : String) :
    actionRoutability reg.veiled action = actionRoutability reg action := by
  have hnode : (reg.veiled.resolveAction (normalize action)).toOption.map
      NodeRegistration.nodeName =
      (reg.resolveAction (normalize action)).toOption.map NodeRegistration.nodeName := by
    rw [reg.resolveAction_veiled]
    rcases reg.resolveAction (normalize action) with e | r <;> rfl
  have hhealthy : ((advertisements reg.veiled (normalize action)).filter
      fun e => e.2.healthy).map Prod.fst =
      ((advertisements reg (normalize action)).filter fun e => e.2.healthy).map Prod.fst := by
    rw [advertisements_veiled, List.filter_map, List.map_map]
    rfl
  have hnodes : (advertisements reg.veiled (normalize action)).map Prod.fst =
      (advertisements reg (normalize action)).map Prod.fst := by
    rw [advertisements_veiled, List.map_map]
    rfl
  have howners : advertisedOwners (advertisements reg.veiled (normalize action)) =
      advertisedOwners (advertisements reg (normalize action)) := by
    rw [advertisements_veiled, advertisedOwners_veiled]
  simp only [actionRoutability, hnode, hhealthy, hnodes, howners]
  rw [reg.resolveAction_veiled]
  rcases reg.resolveAction (normalize action) with e | r <;> rfl

lemma routingReadiness_veiled (requiredActions : List String) :
    routingReadiness reg.veiled requiredActions = routingReadiness reg requiredActions := by
  have hreport : actionRoutability reg.veiled = actionRoutability reg :=
    funext fun action => actionRoutability_veiled reg action
  rw [routingReadiness, routingReadiness, hreport]

lemma viewedActions_veiled (includeProtected : Bool) :
    viewedActions reg.veiled includeProtected = viewedActions reg includeProtected := by
  have hnodes : reg.veiled.nodes.entries.foldl (addNode includeProtected) Dict.empty =
      reg.nodes.entries.foldl (addNode includeProtected) Dict.empty := by
    show (reg.nodes.entries.map _).foldl _ _ = _
    rw [List.foldl_map]
    simp only [addNode, NodeRegistration.veiled, ownerForRegistration_ownerEntry]
    rfl
  rw [viewedActions, viewedActions, hnodes]

lemma describe_veiled (action : String) (owner : Option String) :
    describe reg.veiled action owner = describe reg action owner := by
  rw [describe, describe, reg.allSupportedActions_veiled]

lemma project_veiled (includeProtected : Bool) :
    project reg.veiled includeProtected = project reg includeProtected := by
  rw [project, project, viewedActions_veiled]
  simp only [describe_veiled]

end Reports

/-! ### Registrations under a veil -/

namespace NodeRegistrationInput

variable (input : NodeRegistrationInput)

lemma url_scheme_veiled : (Text.startsWith input.payload.veiledUrl "http://" ||
    Text.startsWith input.payload.veiledUrl "https://") = true := by
  rcases input.payload.fields_veiled.1 with h | h <;> rw [h]
  · decide +kernel
  · exact input.url_scheme

lemma priority_known_veiled : input.payload.veiledPriority ∈ ["P0", "P1", "P2", "P3"] := by
  rcases input.payload.fields_veiled.2.1 with h | h <;> rw [h]
  · decide
  · exact input.priority_known

lemma endpoint_path_veiled : Text.startsWith input.payload.veiledEndpoint "/" = true := by
  rcases input.payload.fields_veiled.2.2 with h | h <;> rw [h]
  · decide +kernel
  · exact input.endpoint_path

end NodeRegistrationInput

/-- The fields of a node in a request without what nothing is decided by. -/
def NodeRegistrationInput.veiled (input : NodeRegistrationInput) : NodeRegistrationInput :=
  { input with
    internalUrl := input.payload.veiledUrl
    priorityClass := input.payload.veiledPriority
    healthEndpoint := input.payload.veiledEndpoint
    timeoutMs := 1
    metadata := ownerEntry input.metadata
    url_scheme := input.url_scheme_veiled
    priority_known := input.priority_known_veiled
    endpoint_path := input.endpoint_path_veiled
    one_le_timeoutMs := Nat.one_pos }

lemma NodeRegistrationInput.payload_veiled (input : NodeRegistrationInput) :
    input.veiled.payload = input.payload.veiled := by
  have htimeout : input.payload.veiled.timeoutMs = 1 := by
    have hle := input.one_le_timeoutMs
    show (if (input.timeoutMs : ℤ) < 1 then (input.timeoutMs : ℤ) else 1) = 1
    rw [if_neg]
    omega
  have hpayload : input.payload.veiled = { input.payload.veiled with timeoutMs := 1 } := by
    rw [← htimeout]
  rw [hpayload]
  rfl

/-- The request without what nothing is decided by. -/
def RegisterNodesRequest.veiled (request : RegisterNodesRequest) : RegisterNodesRequest :=
  ⟨request.root.mapValues fun _ input => input.veiled⟩

namespace AdminRegistrationService

lemma registerEntry_veiled (overwrite : Bool) (entry : String × NodeRegistrationInput)
    (reg : NodeRegistry) :
    registerEntry overwrite (entry.1, entry.2.veiled) reg.veiled =
      ((registerEntry overwrite entry reg).1, (registerEntry overwrite entry reg).2.veiled) := by
  rw [registerEntry, registerEntry, NodeRegistrationInput.payload_veiled,
    NodeRegistration.create_veiled]
  rcases NodeRegistration.create entry.1 entry.2.payload with e | r
  · rfl
  simp only [Except.map, reg.registerNode_veiled]
  rcases reg.registerNode entry.1 r overwrite with ⟨e | u, reg'⟩ <;> rfl

lemma registerEntries_veiled (overwrite : Bool) (entries : List (String × NodeRegistrationInput))
    (reg : NodeRegistry) :
    registerEntries overwrite (entries.map fun e => (e.1, e.2.veiled)) reg.veiled =
      ((registerEntries overwrite entries reg).1,
        (registerEntries overwrite entries reg).2.veiled) := by
  induction entries generalizing reg with
  | nil => rfl
  | cons entry entries ih =>
    rw [List.map_cons, registerEntries, registerEntries, registerEntry_veiled]
    rcases registerEntry overwrite entry reg with ⟨e | status, reg'⟩
    · rfl
    simp only [ih]
    rcases registerEntries overwrite entries reg' with ⟨e | statuses, reg''⟩ <;> rfl

lemma register_veiled (service : AdminRegistrationService) (request : RegisterNodesRequest)
    (overwrite : Bool) (presentedToken : Option String) (reg : NodeRegistry) :
    service.register request.veiled overwrite presentedToken reg.veiled =
      ((service.register request overwrite presentedToken reg).1,
        (service.register request overwrite presentedToken reg).2.veiled) := by
  have hentries : request.veiled.root.entries =
      request.root.entries.map fun e => (e.1, e.2.veiled) := rfl
  rw [register, register, hentries, registerEntries_veiled]
  rcases service.authorize presentedToken with e | u
  · rfl
  rcases registerEntries overwrite request.root.entries reg with ⟨e | statuses, reg'⟩ <;> rfl

end AdminRegistrationService

/-! ### The veil -/

namespace GateApi

variable (api : GateApi Dump Body)

/-- What is left of a request when an authorized read of the registry is taken away, and of a
registration what nothing is decided by. -/
def veiledRequest : ApiRequest Body → Option (ApiRequest Body)
  | .registrySnapshot xAdminToken =>
    match api.requireRegistryAdminToken xAdminToken with
    | .ok () => none
    | .error _ => some (.registrySnapshot xAdminToken)
  | .adminRegister request overwrite xAdminToken =>
    some (.adminRegister request.veiled overwrite xAdminToken)
  | request => some request

/-- The veil over the registrations; the answer to a request that is taken away is not shown. -/
def veil : Noninterference.Veil NodeRegistry (ApiInput Body) (Option (ApiAnswer Dump))
    (ApiAnswer Dump) where
  shown
    | .request request, answer => if (api.veiledRequest request).isSome then answer else none
    | .worker _, answer => answer
  state := NodeRegistry.veiled
  input
    | .request request => (api.veiledRequest request).map .request
    | .worker op => some (.worker op)

lemma admission_veiled (reg : NodeRegistry) (n : ℕ) (now : ℚ)
    (json : Except PyError (Option Body)) :
    api.admission reg.veiled n now json = api.admission reg n now json := by
  have hreceipt : ∀ packet scope, (api.getAdmissionService reg.veiled).receipt packet scope =
      (api.getAdmissionService reg).receipt packet scope := by
    intro packet scope
    show AdmissionService.receipt ⟨_, _, reg.veiled⟩ packet scope = _
    rw [AdmissionService.receipt, reg.allSupportedActions_veiled]
    rfl
  have htried : api.triedAdmission reg.veiled n now json = api.triedAdmission reg n now json := by
    simp only [triedAdmission, AdmissionService.admitProbe, hreceipt]
    rfl
  rw [admission, admission, htried]

lemma getCapabilityService_veiled (reg : NodeRegistry) :
    (∀ presentedToken includeProtected,
      (api.getCapabilityService reg.veiled).listCapabilities api.sha256 presentedToken
        includeProtected =
      (api.getCapabilityService reg).listCapabilities api.sha256 presentedToken
        includeProtected) ∧
    ∀ action presentedToken,
      (api.getCapabilityService reg.veiled).getCapability api.sha256 action presentedToken =
        (api.getCapabilityService reg).getCapability api.sha256 action presentedToken := by
  have hproject : ∀ includeProtected,
      project (api.getCapabilityService reg.veiled).registry includeProtected =
        project (api.getCapabilityService reg).registry includeProtected :=
    project_veiled reg
  have hauthorized : ∀ presentedToken,
      (api.getCapabilityService reg.veiled).isAuthorized presentedToken =
        (api.getCapabilityService reg).isAuthorized presentedToken :=
    CapabilityService.isAuthorized_congr rfl
  constructor
  · intro presentedToken includeProtected
    simp only [CapabilityService.listCapabilities, hproject, hauthorized]
  · intro action presentedToken
    simp only [CapabilityService.getCapability, hproject, hauthorized]

/-- A request other than an authorized read is answered on the veiled registry as on the registry,
and changes it alike. -/
lemma serve_veiled (reg : NodeRegistry) {request request' : ApiRequest Body}
    (h : api.veiledRequest request = some request') :
    api.serve reg.veiled request' =
      ((api.serve reg request).1, (api.serve reg request).2.veiled) := by
  cases request with
  | health =>
    obtain rfl := Option.some.inj h
    rfl
  | ready =>
    obtain rfl := Option.some.inj h
    rw [serve, serve, ready, ready, routingReadiness_veiled]
  | admission n now json =>
    obtain rfl := Option.some.inj h
    rw [serve, serve, admission_veiled]
  | registrySnapshot xAdminToken =>
    rw [veiledRequest] at h
    rcases hguard : api.requireRegistryAdminToken xAdminToken with e | u
    · rw [hguard] at h
      obtain rfl := Option.some.inj h
      simp only [serve, registrySnapshot, hguard]
    · rw [hguard] at h
      cases h
  | listCapabilities includeProtected ifNoneMatch xAdminToken =>
    obtain rfl := Option.some.inj h
    simp only [serve, CapabilityEndpoint.listCapabilities,
      (api.getCapabilityService_veiled reg).1]
  | getCapability action ifNoneMatch xAdminToken =>
    obtain rfl := Option.some.inj h
    simp only [serve, CapabilityEndpoint.getCapability, (api.getCapabilityService_veiled reg).2]
  | adminRegister request overwrite xAdminToken =>
    obtain rfl := Option.some.inj h
    rw [serve, serve, adminRegister, adminRegister, AdminRegistrationService.register_veiled]
    rcases api.getAdminRegistrationService.register request overwrite xAdminToken reg with
      ⟨e | response, reg'⟩ <;> rfl

/-- What the workers do, they do to the veiled registry too. -/
lemma apply_veiled (reg : NodeRegistry) (op : WorkerOp) :
    op.apply reg.veiled = (op.apply reg).veiled := by
  cases op with
  | verdict nodeName healthy => exact congrArg Prod.snd (reg.setHealth_veiled nodeName healthy)
  | taken nodeName => exact congrArg Prod.snd (reg.incrementActive_veiled nodeName)
  | givenBack nodeName => exact congrArg Prod.snd (reg.decrementActive_veiled nodeName)

/-- A request that is taken away is an authorized read. -/
lemma veiledRequest_eq_none {request : ApiRequest Body} (h : api.veiledRequest request = none) :
    ∃ xAdminToken, request = .registrySnapshot xAdminToken := by
  cases request with
  | registrySnapshot xAdminToken => exact ⟨xAdminToken, rfl⟩
  | _ => cases h

/-- What is left of a request is not taken away. -/
lemma isSome_veiledRequest {request request' : ApiRequest Body}
    (h : api.veiledRequest request = some request') :
    (api.veiledRequest request').isSome = true := by
  cases request with
  | registrySnapshot xAdminToken =>
    have hrequest : request' = .registrySnapshot xAdminToken := by
      rw [veiledRequest] at h
      split at h
      · cases h
      · exact (Option.some.inj h).symm
    rw [hrequest, h]
    rfl
  | _ =>
    obtain rfl := Option.some.inj h
    rfl

lemma veil_unwinds : api.veil.Unwinds api.server where
  unnoticed reg input h := by
    cases input with
    | request request =>
      have hnone : api.veiledRequest request = none := Option.map_eq_none_iff.1 h
      obtain ⟨xAdminToken, rfl⟩ := api.veiledRequest_eq_none hnone
      refine ⟨?_, rfl⟩
      show (if (api.veiledRequest _).isSome then _ else none) = none
      rw [hnone]
      rfl
    | worker op => cases h
  noticed reg input input' h := by
    cases input with
    | request request =>
      obtain ⟨request', hsome, rfl⟩ := Option.map_eq_some_iff.1 h
      have hserve := api.serve_veiled reg hsome
      have hleft := api.isSome_veiledRequest hsome
      show (if (api.veiledRequest request).isSome then some (api.serve reg request).1 else none) =
          (if (api.veiledRequest request').isSome then some (api.serve reg.veiled request').1
            else none) ∧
        (api.serve reg request).2.veiled = (api.serve reg.veiled request').2
      rw [hserve, if_pos hleft, hsome]
      exact ⟨rfl, rfl⟩
    | worker op =>
      obtain rfl := Option.some.inj h
      exact ⟨rfl, (apply_veiled reg op).symm⟩

end GateApi

/-! ### A worker that lives elsewhere -/

/-- The endpoints of a process with plain collaborators. -/
def GateApi.plain (settings : GateSettings) : GateApi TransportPacket TransportPacket where
  settings := settings
  sdk := .plain
  validation := .plain
  signTransportPacket packet _ _ _ := .ok packet
  kind _ := .other
  sha256 := id

lemma spareUrl_scheme :
    (Text.startsWith "https://spare" "http://" || Text.startsWith "https://spare" "https://") =
      true := by
  decide +kernel

/-- A worker registers with its URL. -/
def registrationAt (url : String)
    (hurl : (Text.startsWith url "http://" || Text.startsWith url "https://") = true) :
    RegisterNodesRequest where
  root := Dict.empty.set "worker" (AdminRegistrationService.plainInput url "score" hurl
    AdminRegistrationService.score_normalized)

/-- With either URL, the request is the same under the veil. -/
lemma registrationAt_veiled {url url' : String}
    (hurl : (Text.startsWith url "http://" || Text.startsWith url "https://") = true)
    (hurl' : (Text.startsWith url' "http://" || Text.startsWith url' "https://") = true)
    (h : (AdminRegistrationService.plainInput url "score" hurl
      AdminRegistrationService.score_normalized).payload.veiledUrl = "http://worker")
    (h' : (AdminRegistrationService.plainInput url' "score" hurl'
      AdminRegistrationService.score_normalized).payload.veiledUrl = "http://worker") :
    (registrationAt url hurl).veiled = (registrationAt url' hurl').veiled := by
  have hpriority : ∀ url hurl, (AdminRegistrationService.plainInput url "score" hurl
      AdminRegistrationService.score_normalized).payload.veiledPriority = "P2" :=
    fun url hurl => (RegistrationPayload.fields_veiled _).2.1.elim id id
  have hendpoint : ∀ url hurl, (AdminRegistrationService.plainInput url "score" hurl
      AdminRegistrationService.score_normalized).payload.veiledEndpoint = "/" := by
    intro url hurl
    rw [RegistrationPayload.veiledEndpoint]
    show (if Text.startsWith (Text.strip "/v1/health") "/" then "/" else "/v1/health") = "/"
    decide +kernel
  have hinput : (AdminRegistrationService.plainInput url "score" hurl
      AdminRegistrationService.score_normalized).veiled =
      (AdminRegistrationService.plainInput url' "score" hurl'
        AdminRegistrationService.score_normalized).veiled := by
    simp only [NodeRegistrationInput.veiled, h, h', hpriority, hendpoint]
    rfl
  show RegisterNodesRequest.mk (Dict.mapValues _ _) = ⟨Dict.mapValues _ _⟩
  rw [registrationAt, registrationAt, Dict.mapValues_set, Dict.mapValues_set, hinput]

/-- The worker registers; then the actions that can be invoked are listed, and Gate is asked whether
it is ready. -/
def registeredAt (url : String)
    (hurl : (Text.startsWith url "http://" || Text.startsWith url "https://") = true)
    (between : List (ApiInput TransportPacket)) : List (ApiInput TransportPacket) :=
  .request (.adminRegister (registrationAt url hurl) true (some "token")) :: between ++
    [.request (.listCapabilities false none none), .request .ready]

end ConstellationGate
