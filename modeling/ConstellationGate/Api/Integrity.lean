import ConstellationGate.Api.Confidentiality

/-!
# What the admin token is needed for

In staging and production the settings have an admin token.  A request that comes without it changes
nothing for anyone: it may be left out of a history, and the other answers and the registry are the
same (`tokenless_harmless`).  What the registry says of a node, but for its health and its load, was
there at the start or has been sent with the token (`registry_provenance`).
-/

namespace ConstellationGate

variable {Dump Body : Type}

/-- The token that comes with a request. -/
def ApiRequest.xAdminToken : ApiRequest Body → Option String
  | .registrySnapshot xAdminToken => xAdminToken
  | .listCapabilities _ _ xAdminToken => xAdminToken
  | .getCapability _ _ xAdminToken => xAdminToken
  | .adminRegister _ _ xAdminToken => xAdminToken
  | _ => none

/-- The request comes with the admin token of the settings. -/
def ApiRequest.carriesToken (settings : GateSettings) (request : ApiRequest Body) : Bool :=
  settings.adminToken.any fun token => request.xAdminToken.map Text.strip = some (Text.strip token)

/-- What is asked for is kept for those who have the admin token. -/
def ApiRequest.privileged : ApiRequest Body → Bool
  | .registrySnapshot _ => true
  | .listCapabilities includeProtected _ _ => includeProtected
  | .getCapability action _ _ => normalize action ∈ protectedActions
  | .adminRegister _ _ _ => true
  | _ => false

/-- The error that is answered. -/
def ApiAnswer.refusal : ApiAnswer Dump → Option HttpException
  | .failure http => some http
  | .capabilities (.failed http) => some http
  | _ => none

namespace GateApi

variable {api : GateApi Dump Body}

/-! ### Requests without the token -/

/-- In staging and production there is a token. -/
lemma exists_adminToken (hrequired : api.settings.callerPolicyRequired = true) :
    ∃ token, api.settings.adminToken = some token := by
  obtain ⟨token, htoken, -⟩ := (Option.any_eq_true _ _).1 (api.settings.valid.adminToken hrequired)
  exact ⟨token, htoken⟩

lemma carriesToken_iff {token : String} (htoken : api.settings.adminToken = some token)
    (request : ApiRequest Body) :
    request.carriesToken api.settings = true ↔
      request.xAdminToken.map Text.strip = some (Text.strip token) := by
  rw [ApiRequest.carriesToken, htoken, Option.any_some, decide_eq_true_eq]

variable {request : ApiRequest Body}

/-- The guard of the registration service. -/
lemma authorize_tokenless (hrequired : api.settings.callerPolicyRequired = true)
    (htokenless : request.carriesToken api.settings = false) :
    api.getAdminRegistrationService.authorize request.xAdminToken =
      .error { cls := .permissionError, message := "admin token required or invalid" } := by
  obtain ⟨token, htoken⟩ := exists_adminToken hrequired
  have hservice : api.getAdminRegistrationService.adminToken = some (Text.strip token) := by
    show api.settings.adminToken.map Text.strip = _
    rw [htoken]
    rfl
  have hnot : ¬ request.xAdminToken.map Text.strip = some (Text.strip token) := by
    rw [← carriesToken_iff htoken, htokenless]
    exact Bool.false_ne_true
  unfold AdminRegistrationService.authorize
  rw [hservice]
  exact if_neg hnot

/-- The guard of the capability service. -/
lemma isAuthorized_tokenless (hrequired : api.settings.callerPolicyRequired = true)
    (htokenless : request.carriesToken api.settings = false) (reg : NodeRegistry) :
    (api.getCapabilityService reg).isAuthorized request.xAdminToken = false := by
  obtain ⟨token, htoken⟩ := exists_adminToken hrequired
  have hservice : (api.getCapabilityService reg).adminToken = some (Text.strip token) := by
    show api.settings.adminToken.map Text.strip = _
    rw [htoken]
    rfl
  have hnot : ¬ request.xAdminToken.map Text.strip = some (Text.strip token) := by
    rw [← carriesToken_iff htoken, htokenless]
    exact Bool.false_ne_true
  unfold CapabilityService.isAuthorized
  rw [hservice]
  rcases hpresented : request.xAdminToken with _ | presented
  · rfl
  · rw [hpresented] at hnot
    exact decide_eq_false fun heq => hnot (congrArg some heq)

/-- The guard of the registry. -/
lemma requireRegistryAdminToken_tokenless
    (htokenless : request.carriesToken api.settings = false) :
    ∃ message, api.requireRegistryAdminToken request.xAdminToken =
      .error { cls := .permissionError, message := message } := by
  unfold requireRegistryAdminToken
  rcases htoken : api.settings.adminToken with _ | token
  · exact ⟨_, rfl⟩
  rcases hpresented : request.xAdminToken with _ | presented
  · exact ⟨_, rfl⟩
  have hnot : ¬ Text.strip presented = token := by
    rintro rfl
    have hcarries := (carriesToken_iff htoken request).2 (by
      rw [hpresented, Text.strip_strip]
      rfl)
    rw [hcarries] at htokenless
    cases htokenless
  exact ⟨_, if_neg hnot⟩

/-- A request without the token leaves the registry as it is. -/
lemma serve_tokenless (hrequired : api.settings.callerPolicyRequired = true)
    (htokenless : request.carriesToken api.settings = false) (reg : NodeRegistry) :
    (api.serve reg request).2 = reg := by
  cases request with
  | adminRegister request overwrite xAdminToken =>
    have hrefused : api.getAdminRegistrationService.authorize xAdminToken = _ :=
      authorize_tokenless hrequired htokenless
    show (api.adminRegister reg request overwrite xAdminToken).2 = reg
    rw [adminRegister, AdminRegistrationService.register, hrefused]
  | _ => rfl

/-- What is kept for those who have the token is refused to the others. -/
lemma refused_tokenless (hrequired : api.settings.callerPolicyRequired = true)
    (htokenless : request.carriesToken api.settings = false)
    (hprivileged : request.privileged = true) (reg : NodeRegistry) :
    ∃ message, (api.serve reg request).1.refusal =
      some { statusCode := 401, code := "admin_auth_failed", message := message } := by
  cases request with
  | registrySnapshot xAdminToken =>
    obtain ⟨message, hrefused⟩ : ∃ message, api.requireRegistryAdminToken xAdminToken =
        .error { cls := .permissionError, message := message } :=
      requireRegistryAdminToken_tokenless htokenless
    refine ⟨message, ?_⟩
    show (api.registrySnapshot reg xAdminToken).refusal = _
    rw [registrySnapshot, hrefused]
    rfl
  | listCapabilities includeProtected ifNoneMatch xAdminToken =>
    obtain rfl : includeProtected = true := hprivileged
    have hrefused : (api.getCapabilityService reg).listCapabilities api.sha256 xAdminToken true =
        _ :=
      CapabilityService.listCapabilities_refused api.sha256
        (isAuthorized_tokenless hrequired htokenless reg)
    refine ⟨"admin token required to list protected capabilities", ?_⟩
    show (ApiAnswer.capabilities (CapabilityEndpoint.listCapabilities api.sha256 api.kind _ true
      ifNoneMatch xAdminToken)).refusal = _
    rw [CapabilityEndpoint.listCapabilities, hrefused]
    rfl
  | getCapability action ifNoneMatch xAdminToken =>
    have haction : normalize action ∈ protectedActions := of_decide_eq_true hprivileged
    have hauthorized : (api.getCapabilityService reg).isAuthorized xAdminToken = false :=
      isAuthorized_tokenless hrequired htokenless reg
    have hblank : normalize action ≠ "" := by
      intro hnil
      rw [hnil] at haction
      revert haction
      decide +kernel
    refine ⟨"admin token required for protected action: " ++ normalize action, ?_⟩
    show (ApiAnswer.capabilities (CapabilityEndpoint.getCapability api.sha256 api.kind _ action
      ifNoneMatch xAdminToken)).refusal = _
    rw [CapabilityEndpoint.getCapability, CapabilityService.getCapability, if_neg hblank,
      if_pos ⟨haction, hauthorized⟩]
    rfl
  | adminRegister request overwrite xAdminToken =>
    have hrefused : api.getAdminRegistrationService.authorize xAdminToken = _ :=
      authorize_tokenless hrequired htokenless
    refine ⟨"admin token required or invalid", ?_⟩
    show (api.adminRegister reg request overwrite xAdminToken).1.refusal = _
    rw [adminRegister, AdminRegistrationService.register, hrefused]
    rfl
  | _ => cases hprivileged

/-! ### Histories without these requests -/

/-- An input is a request without the token. -/
def Tokenless (settings : GateSettings) (input : ApiInput Body) : Prop :=
  ∃ request, input = .request request ∧ request.carriesToken settings = false

end GateApi

/-! ### Somebody who has no token -/

/-- Somebody without the token registers a node under the name of the worker. -/
def intrusion : ApiInput TransportPacket :=
  .request (.adminRegister (registrationAt "https://spare" spareUrl_scheme) true none)

/-- The registrations that come without any token. -/
def comesWithoutToken : ApiInput TransportPacket → Bool
  | .request (.adminRegister _ _ none) => true
  | _ => false

lemma tokenless_of_comesWithoutToken (settings : GateSettings) {input : ApiInput TransportPacket}
    (h : comesWithoutToken input = true) : GateApi.Tokenless settings input := by
  unfold comesWithoutToken at h
  split at h
  · rename_i nodes overwrite
    refine ⟨_, rfl, ?_⟩
    rw [ApiRequest.carriesToken]
    rcases settings.adminToken with _ | token <;> rfl
  · cases h

/-- The registration but for its health and its load. -/
def NodeRegistration.profile (r : NodeRegistration) : NodeRegistration :=
  { r with healthy := true, activeRequests := 0 }

/-- The profile of a node has been sent with an entry of a request. -/
def SentIn (node : String) (r : NodeRegistration) (entry : String × NodeRegistrationInput) : Prop :=
  normalize entry.1 = node ∧
    ∃ sent, NodeRegistration.create entry.1 entry.2.payload = .ok sent ∧ sent.profile = r.profile

/-- What is found after an operation on one node was there before, with the same profile. -/
lemma NodeRegistry.profile_updateNode {reg : NodeRegistry} {nodeName node : String}
    {f : NodeRegistration → Except PyError NodeRegistration}
    (hf : ∀ r r', f r = .ok r' → r'.profile = r.profile) {r : NodeRegistration}
    (h : (reg.updateNode nodeName f).2.nodes.get? node = some r) :
    ∃ before, reg.nodes.get? node = some before ∧ before.profile = r.profile := by
  unfold updateNode at h
  rcases hget : reg.nodes.get? (normalize nodeName) with _ | found
  · rw [hget] at h
    exact ⟨r, h, rfl⟩
  rw [hget] at h
  rcases hfound : f found with e | updated
  · simp only [hfound] at h
    exact ⟨r, h, rfl⟩
  simp only [hfound, Dict.get?_set] at h
  split at h
  · rename_i hnode
    obtain rfl := Option.some.inj h
    exact ⟨found, hnode ▸ hget, (hf _ _ hfound).symm⟩
  · exact ⟨r, h, rfl⟩

lemma WorkerOp.profile_apply {reg : NodeRegistry} {op : WorkerOp} {node : String}
    {r : NodeRegistration} (h : (op.apply reg).nodes.get? node = some r) :
    ∃ before, reg.nodes.get? node = some before ∧ before.profile = r.profile := by
  cases op with
  | verdict nodeName healthy =>
    refine NodeRegistry.profile_updateNode (fun r r' hr => ?_) h
    obtain rfl := Except.ok.inj hr
    rfl
  | taken nodeName =>
    refine NodeRegistry.profile_updateNode (fun r r' hr => ?_) h
    split at hr
    · cases hr
    · obtain rfl := Except.ok.inj hr
      rfl
  | givenBack nodeName =>
    refine NodeRegistry.profile_updateNode (fun r r' hr => ?_) h
    obtain rfl := Except.ok.inj hr
    rfl

namespace AdminRegistrationService

/-- What is found after a batch was there before, or an entry of the batch has been stored. -/
lemma TakesAll.found {overwrite : Bool} {entries : List (String × NodeRegistrationInput)}
    {reg reg' : NodeRegistry} {node : String} {r : NodeRegistration}
    (h : TakesAll overwrite reg entries reg') (hget : reg'.nodes.get? node = some r) :
    reg.nodes.get? node = some r ∨ ∃ entry ∈ entries, SentIn node r entry := by
  induction h with
  | nil => exact .inl hget
  | @cons reg reg₁ reg₂ entry entries hentry _ ih =>
    rcases ih hget with hbefore | ⟨sent, hmem, hsent⟩
    · obtain ⟨stored, hcreate, rfl⟩ := hentry.nodes
      rw [Dict.get?_set] at hbefore
      split at hbefore
      · rename_i hnode
        obtain rfl := Option.some.inj hbefore
        exact .inr ⟨entry, List.mem_cons_self, hnode.symm, stored, hcreate, rfl⟩
      · exact .inl hbefore
    · exact .inr ⟨sent, List.mem_cons_of_mem _ hmem, hsent⟩

/-- What is found after a registration was there before, or an entry of it has been stored. -/
lemma found_register {service : AdminRegistrationService} {request : RegisterNodesRequest}
    {overwrite : Bool} {presentedToken : Option String} {reg : NodeRegistry} {node : String}
    {r : NodeRegistration}
    (h : (service.register request overwrite presentedToken reg).2.nodes.get? node = some r) :
    reg.nodes.get? node = some r ∨ ∃ entry ∈ request.root.entries, SentIn node r entry := by
  rcases service.register_cases request overwrite presentedToken reg with ⟨e, -, heq⟩ |
    ⟨-, ⟨response, reg', hall, heq⟩ | ⟨before, entry, after, reg', e, hentries, hall, -, heq⟩⟩
  · rw [heq] at h
    exact .inl h
  · rw [heq] at h
    exact hall.found h
  · rw [heq] at h
    rw [hentries]
    rcases hall.found h with hget | ⟨sent, hmem, hsent⟩
    · exact .inl hget
    · exact .inr ⟨sent, List.mem_append_left _ hmem, hsent⟩

end AdminRegistrationService

/-- The input is a registration with the admin token, and the profile of the node has been sent with
it. -/
def RegisteredBy (settings : GateSettings) (node : String) (r : NodeRegistration)
    (input : ApiInput Body) : Prop :=
  ∃ nodes overwrite xAdminToken, input = .request (.adminRegister nodes overwrite xAdminToken) ∧
    (.adminRegister nodes overwrite xAdminToken : ApiRequest Body).carriesToken settings = true ∧
    ∃ entry ∈ nodes.root.entries, SentIn node r entry

/-- Only the profile matters. -/
lemma RegisteredBy.congr {settings : GateSettings} {node : String} {r r' : NodeRegistration}
    {input : ApiInput Body} (h : RegisteredBy settings node r input)
    (hprofile : r.profile = r'.profile) : RegisteredBy settings node r' input := by
  obtain ⟨nodes, overwrite, xAdminToken, hinput, htoken, entry, hentry, hname, hsent⟩ := h
  obtain ⟨sent, hcreate, hsame⟩ := hsent
  exact ⟨nodes, overwrite, xAdminToken, hinput, htoken, entry, hentry, hname, sent, hcreate,
    hsame.trans hprofile⟩

namespace GateApi

variable {api : GateApi Dump Body}

/-- A registration leaves the registry as the service does. -/
lemma serve_adminRegister (api : GateApi Dump Body) (reg : NodeRegistry)
    (nodes : RegisterNodesRequest) (overwrite : Bool) (xAdminToken : Option String) :
    (api.serve reg (.adminRegister nodes overwrite xAdminToken)).2 =
      (api.getAdminRegistrationService.register nodes overwrite xAdminToken reg).2 := by
  rw [serve, adminRegister]
  split <;> rename_i heq <;> rw [heq]

/-- What is found after a request was there before, or has been sent with it, with the token. -/
lemma found_serve (hrequired : api.settings.callerPolicyRequired = true) {reg : NodeRegistry}
    {request : ApiRequest Body} {node : String} {r : NodeRegistration}
    (h : (api.serve reg request).2.nodes.get? node = some r) :
    reg.nodes.get? node = some r ∨ RegisteredBy api.settings node r (.request request) := by
  rcases htoken : request.carriesToken api.settings with _ | _
  · rw [serve_tokenless hrequired htoken] at h
    exact .inl h
  cases request with
  | adminRegister nodes overwrite xAdminToken =>
    rw [serve_adminRegister] at h
    rcases AdminRegistrationService.found_register h with hget | hsent
    · exact .inl hget
    · exact .inr ⟨nodes, overwrite, xAdminToken, rfl, htoken, hsent⟩
  | _ => exact .inl h

/-- What is found after an input was there before, with the same profile, or has been sent with
it. -/
lemma found_next (hrequired : api.settings.callerPolicyRequired = true) {reg : NodeRegistry}
    {input : ApiInput Body} {node : String} {r : NodeRegistration}
    (h : (api.server.next reg input).nodes.get? node = some r) :
    (∃ before, reg.nodes.get? node = some before ∧ before.profile = r.profile) ∨
      RegisteredBy api.settings node r input := by
  cases input with
  | request request =>
    rcases found_serve hrequired h with hget | hsent
    · exact .inl ⟨r, hget, rfl⟩
    · exact .inr hsent
  | worker op => exact .inl (WorkerOp.profile_apply h)

/-- In staging and production, whatever is asked and whatever the workers do, all that the registry
says of a node but its health and its load (its URL, its actions, its limits, its metadata) was
there at the start or is what an entry of a registration with the admin token says. -/
theorem registry_provenance (api : GateApi Dump Body)
    (hrequired : api.settings.callerPolicyRequired = true) {reg : NodeRegistry}
    {history : List (ApiInput Body)} {node : String} {r : NodeRegistration}
    (h : (api.server.run reg history).nodes.get? node = some r) :
    (∃ initial, reg.nodes.get? node = some initial ∧ initial.profile = r.profile) ∨
      ∃ input ∈ history, RegisteredBy api.settings node r input := by
  induction history using List.reverseRecOn generalizing r with
  | nil => exact .inl ⟨r, h, rfl⟩
  | append_singleton history input ih =>
    rw [Noninterference.Server.run, List.foldl_concat] at h
    rcases found_next hrequired h with ⟨before, hget, hprofile⟩ | hsent
    · rcases ih hget with ⟨initial, hinitial, hsame⟩ | ⟨earlier, hmem, hsent⟩
      · exact .inl ⟨initial, hinitial, hsame.trans hprofile⟩
      · exact .inr ⟨earlier, List.mem_append_left _ hmem, hsent.congr hprofile⟩
    · exact .inr ⟨input, List.mem_concat_self, hsent⟩

end GateApi

/-- What the registry says of the worker has been sent with the token. -/
theorem registry_provenance_intrusion :
    ∃ settings, GateSettings.create GateSettings.consumerArgs = .ok settings ∧ ∃ r,
      ((GateApi.plain settings).server.run .empty (registeredAt "http://worker"
        AdminRegistrationService.workerUrl_scheme [intrusion])).nodes.get? "worker" = some r ∧
      ∃ input ∈ registeredAt "http://worker" AdminRegistrationService.workerUrl_scheme [intrusion],
        RegisteredBy settings "worker" r input := by
  obtain ⟨settings, hcreate, hboth⟩ := exists_ok_of_any
    (x := GateSettings.create GateSettings.consumerArgs)
    (p := fun settings => settings.callerPolicyRequired &&
      ((GateApi.plain settings).server.run .empty (registeredAt "http://worker"
        AdminRegistrationService.workerUrl_scheme [intrusion])).nodes.contains "worker")
    (by decide +kernel)
  obtain ⟨hrequired, hcontains⟩ := Bool.and_eq_true_iff.1 hboth
  obtain ⟨r, hget⟩ := Dict.contains_iff.1 hcontains
  rcases (GateApi.plain settings).registry_provenance hrequired hget with
    ⟨initial, hinitial, -⟩ | hsent
  · cases hinitial
  · exact ⟨settings, hcreate, r, hget, hsent⟩

end ConstellationGate
