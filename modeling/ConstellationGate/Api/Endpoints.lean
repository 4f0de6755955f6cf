import ConstellationGate.Api.CapabilityEndpoint
import ConstellationGate.Api.ExecuteEndpoint
import ConstellationGate.Lib.Noninterference
import ConstellationGate.Runtime.RoutingReadiness
import ConstellationGate.Services.AdminRegistration
import ConstellationGate.Services.AdmissionService

/-!
# The endpoints around the registry

The endpoints of `api/main.py` other than `POST /v1/execute`, with
`services/registry_query_service.py`.  Each answers from the registry as it is when the request
arrives, and only the registration of nodes changes it.

They are one server, whose state is the registry.  Between two requests the execute calls and the
health monitor may mark nodes and count their load.
-/

namespace ConstellationGate

variable {Dump Body : Type}

/-- `GET /v1/health`. -/
structure HealthReport where
  status : String
  serviceName : String
  nodeName : String
  environment : String

/-- A request, with what FastAPI has read from it.  An admission probe comes with the identifiers
that are minted for its answer and a reading of the wall clock. -/
inductive ApiRequest (Body : Type)
  | health
  | ready
  | admission (n : ℕ) (now : ℚ) (json : Except PyError (Option Body))
  | registrySnapshot (xAdminToken : Option String)
  | listCapabilities (includeProtected : Bool) (ifNoneMatch xAdminToken : Option String)
  | getCapability (action : String) (ifNoneMatch xAdminToken : Option String)
  | adminRegister (request : RegisterNodesRequest) (overwrite : Bool)
      (xAdminToken : Option String)

/-- An answer. -/
inductive ApiAnswer (Dump : Type)
  | health (report : HealthReport)
  | ready (statusCode : ℕ) (report : Readiness)
  | packet (content : Dump)
  | registrySnapshot (nodes : List (String × NodeRegistration))
  | capabilities (answer : CapabilityAnswer)
  | registered (response : RegisterNodesResponse)
  | failure (http : HttpException)
  /-- An exception that is no `Exception` leaves the endpoint. -/
  | raised (exc : PyError)

/-- `RegistryQueryService.snapshot`. -/
def NodeRegistry.sortedSnapshot (reg : NodeRegistry) : List (String × NodeRegistration) :=
  reg.nodes.sortedItems

/-- The collaborators of the endpoints. -/
structure GateApi (Dump Body : Type) where
  settings : GateSettings
  sdk : Sdk Dump
  validation : PacketValidation Body
  /-- `sign_transport_packet`. -/
  signTransportPacket : TransportPacket → String → String → String → Except PyError TransportPacket
  /-- What the dispatch failures of the SDK are. -/
  kind : PyError → DispatchFailure
  /-- The digest of entity tags. -/
  sha256 : String → String

namespace GateApi

variable (api : GateApi Dump Body)

/-- `_require_registry_admin_token`. -/
def requireRegistryAdminToken (presentedToken : Option String) : Except PyError Unit :=
  match api.settings.adminToken, presentedToken with
  | some expected, some presented =>
    if Text.strip presented = expected then .ok ()
    else .error { cls := .permissionError, message := "registry admin token rejected" }
  | _, _ => .error { cls := .permissionError, message := "registry requires X-Admin-Token" }

/-- `raise to_http_exception(exc)`, for an `Exception`. -/
def raiseHttp (exc : PyError) : ApiAnswer Dump :=
  if exc.isException then .failure (toHttpException api.kind exc) else .raised exc

/-- `health`. -/
def health : ApiAnswer Dump :=
  .health ⟨"healthy", "constellation-gate", api.settings.localNode, api.settings.environment⟩

/-- `ready`. -/
def ready (reg : NodeRegistry) : ApiAnswer Dump :=
  let report := routingReadiness reg
  .ready (if report.ready then 200 else 503) report

/-- `get_admission_service`. -/
def getAdmissionService (reg : NodeRegistry) : AdmissionService where
  localNode := api.settings.localNode
  ingressValidator := getIngressValidator api.settings
  registry := reg

/-- What `admission` tries. -/
def triedAdmission (reg : NodeRegistry) (n : ℕ) (now : ℚ) (json : Except PyError (Option Body)) :
    Except PyError TransportPacket := do
  let body ← ExecuteEndpoint.readBody json
  let packet ← (api.getAdmissionService reg).admitProbe api.validation api.sdk n now body
  signGateResponse api.signTransportPacket api.settings packet

/-- `admission`. -/
def admission (reg : NodeRegistry) (n : ℕ) (now : ℚ) (json : Except PyError (Option Body)) :
    ApiAnswer Dump :=
  match api.triedAdmission reg n now json with
  | .ok packet => .packet (api.sdk.dump packet)
  | .error exc => api.raiseHttp exc

/-- `registry_snapshot`. -/
def registrySnapshot (reg : NodeRegistry) (xAdminToken : Option String) : ApiAnswer Dump :=
  match api.requireRegistryAdminToken xAdminToken with
  | .ok () => .registrySnapshot reg.sortedSnapshot
  | .error exc => api.raiseHttp exc

/-- `get_capability_service`. -/
def getCapabilityService (reg : NodeRegistry) : CapabilityService :=
  CapabilityService.init reg api.settings.adminToken

/-- `get_admin_registration_service`. -/
def getAdminRegistrationService : AdminRegistrationService :=
  AdminRegistrationService.create api.settings.adminToken

/-- `admin_register`. -/
def adminRegister (reg : NodeRegistry) (request : RegisterNodesRequest) (overwrite : Bool)
    (xAdminToken : Option String) : ApiAnswer Dump × NodeRegistry :=
  match api.getAdminRegistrationService.register request overwrite xAdminToken reg with
  | (.ok response, reg') => (.registered response, reg')
  | (.error exc, reg') => (api.raiseHttp exc, reg')

/-- The answer to a request, and the registry after it. -/
def serve (reg : NodeRegistry) : ApiRequest Body → ApiAnswer Dump × NodeRegistry
  | .health => (api.health, reg)
  | .ready => (ready reg, reg)
  | .admission n now json => (api.admission reg n now json, reg)
  | .registrySnapshot xAdminToken => (api.registrySnapshot reg xAdminToken, reg)
  | .listCapabilities includeProtected ifNoneMatch xAdminToken =>
    (.capabilities (CapabilityEndpoint.listCapabilities api.sha256 api.kind
      (api.getCapabilityService reg) includeProtected ifNoneMatch xAdminToken), reg)
  | .getCapability action ifNoneMatch xAdminToken =>
    (.capabilities (CapabilityEndpoint.getCapability api.sha256 api.kind
      (api.getCapabilityService reg) action ifNoneMatch xAdminToken), reg)
  | .adminRegister request overwrite xAdminToken =>
    api.adminRegister reg request overwrite xAdminToken

end GateApi

/-! ### The server -/

/-- What the execute calls and the health monitor do to a registration. -/
inductive WorkerOp
  | verdict (nodeName : String) (healthy : Bool)
  | taken (nodeName : String)
  | givenBack (nodeName : String)

/-- The operation on the registry. -/
def WorkerOp.apply (reg : NodeRegistry) : WorkerOp → NodeRegistry
  | .verdict nodeName healthy => (reg.setHealth nodeName healthy).2
  | .taken nodeName => (reg.incrementActive nodeName).2
  | .givenBack nodeName => (reg.decrementActive nodeName).2

/-- What happens to the server. -/
inductive ApiInput (Body : Type)
  | request (request : ApiRequest Body)
  | worker (op : WorkerOp)

/-- The endpoints as a server; nothing is answered to what the workers do. -/
def GateApi.server (api : GateApi Dump Body) :
    Noninterference.Server NodeRegistry (ApiInput Body) (Option (ApiAnswer Dump)) where
  answer reg
    | .request request => some (api.serve reg request).1
    | .worker _ => none
  next reg
    | .request request => (api.serve reg request).2
    | .worker op => op.apply reg

end ConstellationGate
