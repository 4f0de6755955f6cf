import ConstellationGate.Api.Integrity
import ConstellationGate.Services.RegistryUpkeep
import ConstellationGate.Services.SelfRouting

/-!
# The process

All of Gate at once: requests to the endpoints, execute calls between any two of whose segments
other things happen, and the verdicts of the health monitor, over one registry.

What the calls and the requests keep of the registry holds in every state that the process reaches,
and every packet that waits at a worker was sent to a registration of such a registry
(`GateProcess.kept_run`).
-/

namespace ConstellationGate

variable {Dump Body : Type}

/-- The application of `api/main.py`: the execution of packets and the other endpoints. -/
structure GateProcess (Dump Body : Type) where
  executeEndpoint : ExecuteEndpoint Dump Body
  api : GateApi Dump Body
  settings_eq : executeEndpoint.settings = api.settings

/-- What happens to the process. -/
inductive ProcessInput (Dump Body : Type)
  /-- A packet arrives at the execution endpoint. -/
  | post (now : ℚ) (json : Except PyError (Option Body))
  /-- An execute call goes on. -/
  | resume (tid : ℕ) (reply : ∀ q : GateRequest, Except PyError q.Reply)
  /-- A request arrives at another endpoint. -/
  | request (request : ApiRequest Body)
  /-- The health monitor has probed a node. -/
  | verdict (nodeName : String) (healthy : Bool)
  /-- Time passes. -/
  | elapse (f : GateState Dump → GateState Dump) (registry : ∀ s, (f s).registry = s.registry)

namespace GateProcess

variable (process : GateProcess Dump Body)

/-- The move of the process. -/
def move : ProcessInput Dump Body → Move (gate Dump) (ExecuteAnswer Dump)
  | .post now json => .spawn (process.executeEndpoint.post now json)
  | .resume tid reply => .resume tid reply
  | .request request =>
    .environ fun s => { s with registry := (process.api.serve s.registry request).2 }
  | .verdict nodeName healthy =>
    .environ fun s => { s with registry := (s.registry.setHealth nodeName healthy).2 }
  | .elapse f _ => .environ f

/-- The process after some inputs. -/
def run (s : GateState Dump) (inputs : List (ProcessInput Dump Body)) :
    Pool (gate Dump) (ExecuteAnswer Dump) :=
  (Pool.init s).run (inputs.map process.move)

/-! ### What the process keeps -/

section Kept

variable {I : NodeRegistry → Prop} {A : NodeRegistration → Prop}

/-- The execution endpoint does to the registry what its execute call does. -/
lemma tends_post (hI : Upkeep I A) (endpoint : ExecuteEndpoint Dump Body) (now : ℚ)
    (json : Except PyError (Option Body)) {s : GateState Dump} (hs : I s.registry) :
    Tends I A (endpoint.post now json) s := by
  refine tends_handle hs ?_ fun r s _ => ?_
  · refine tends_bind hs (tends_done _ s) fun body s hs => ?_
    refine tends_bind hs (tends_execute hI endpoint.cfg _ hs) fun packet s hs => ?_
    exact tends_bind hs (tends_done _ s) fun signed s _ => tends_done _ s
  · cases r with
    | ok answer => exact tends_done _ s
    | error exc =>
      simp only
      split <;> exact tends_done _ s

/-- A property that the work of the calls keeps, and the requests that arrive. -/
lemma obliged (hI : Upkeep I A) {inputs : List (ProcessInput Dump Body)}
    (hrequests : ∀ request, .request request ∈ inputs →
      ∀ reg, I reg → I (process.api.serve reg request).2) :
    Pool.Obliged (fun s : GateState Dump => I s.registry) (SendsTo A)
      (inputs.map process.move) := by
  constructor
  · intro p hp s hs
    obtain ⟨input, -, hmove⟩ := List.mem_map.1 hp
    cases input with
    | post now json =>
      obtain rfl := Move.spawn.inj hmove
      exact tends_post hI process.executeEndpoint now json hs
    | _ => cases hmove
  · intro f hf s hs
    obtain ⟨input, hinput, hmove⟩ := List.mem_map.1 hf
    cases input with
    | request request =>
      obtain rfl := Move.environ.inj hmove
      exact hrequests request hinput _ hs
    | verdict nodeName healthy =>
      obtain rfl := Move.environ.inj hmove
      exact hI.setHealth _ nodeName healthy hs
    | elapse f' hregistry =>
      obtain rfl := Move.environ.inj hmove
      show I (f' s).registry
      rw [hregistry]
      exact hs
    | _ => cases hmove

/-- The registry keeps the property, and what waits at a worker was sent to a known node. -/
lemma kept_run (hI : Upkeep I A) {inputs : List (ProcessInput Dump Body)}
    (hrequests : ∀ request, .request request ∈ inputs →
      ∀ reg, I reg → I (process.api.serve reg request).2) {s : GateState Dump}
    (hs : I s.registry) :
    I (process.run s inputs).world.state.registry ∧
      ∀ t ∈ (process.run s inputs).tasks, ∀ nodeName packet url,
        t.request? = some (GateRequest.send nodeName packet url) →
        ∃ r, A r ∧ r.nodeName = nodeName ∧ r.internalUrl = url := by
  have hobliged := process.obliged hI hrequests
  exact ⟨(hobliged.run hs fun t ht => by cases ht).1,
    fun t ht nodeName packet url hwaits => hobliged.allowed hs ht hwaits⟩

end Kept

/-! ### Readiness -/

/-- The calls keep the registrations under their names. -/
lemma upkeep_keyed : Upkeep NodeRegistry.Keyed fun _ => True where
  setHealth reg node healthy h := by
    cases healthy with
    | true => exact NodeRegistry.keyed_apply h (.node (.markHealthy node))
    | false => exact NodeRegistry.keyed_apply h (.node (.markUnhealthy node))
  incrementActive reg node h := NodeRegistry.keyed_apply h (.node (.incrementActive node))
  decrementActive reg node h := NodeRegistry.keyed_apply h (.node (.decrementActive node))
  known _ _ _ _ := trivial

lemma keyed_serve (api : GateApi Dump Body) (request : ApiRequest Body) {reg : NodeRegistry}
    (h : reg.Keyed) : (api.serve reg request).2.Keyed := by
  cases request with
  | adminRegister nodes overwrite xAdminToken =>
    rw [api.serve_adminRegister]
    exact NodeRegistry.keyed_call h (.register _ nodes overwrite xAdminToken)
  | _ => exact h

/-- Whatever the process does, it answers 200 to `GET /v1/ready` exactly while every action that is
required resolves to a node that owns it. -/
theorem ready_truthful (process : GateProcess Dump Body) (inputs : List (ProcessInput Dump Body))
    {s : GateState Dump} (hkeyed : s.registry.Keyed) :
    (∃ report, (process.api.serve (process.run s inputs).world.state.registry .ready).1 =
        .ready 200 report) ↔
      ∀ action ∈ seamActions, ∃ r,
        (process.run s inputs).world.state.registry.resolveAction action = .ok r ∧
          OwnsAction r.owner action := by
  have hrun : (process.run s inputs).world.state.registry.Keyed :=
    (process.kept_run upkeep_keyed (fun request _ _ => keyed_serve process.api request) hkeyed).1
  rw [← ready_iff hrun seamActions]
  show (∃ report, (GateApi.ready _ : ApiAnswer Dump) = .ready 200 report) ↔ _
  rw [GateApi.ready]
  rcases hready : (routingReadiness (process.run s inputs).world.state.registry).ready
  · simp
  · simp

end GateProcess

/-! ### Where packets are delivered -/

/-- The profile of a registration under a name was there at the start, or has been sent in a
registration with the admin token. -/
def Approved (settings : GateSettings) (initial : NodeRegistry)
    (inputs : List (ProcessInput Dump Body)) (node : String) (r : NodeRegistration) : Prop :=
  (∃ before, initial.nodes.get? node = some before ∧ before.profile = r.profile) ∨
    ∃ request, .request request ∈ inputs ∧ RegisteredBy settings node r (.request request)

lemma Approved.congr {settings : GateSettings} {initial : NodeRegistry}
    {inputs : List (ProcessInput Dump Body)} {node : String} {r r' : NodeRegistration}
    (h : Approved settings initial inputs node r) (hprofile : r.profile = r'.profile) :
    Approved settings initial inputs node r' := by
  rcases h with ⟨before, hget, hsame⟩ | ⟨request, hmem, hsent⟩
  · exact .inl ⟨before, hget, hsame.trans hprofile⟩
  · exact .inr ⟨request, hmem, hsent.congr hprofile⟩

/-- All that is registered is approved. -/
def AllApproved (settings : GateSettings) (initial : NodeRegistry)
    (inputs : List (ProcessInput Dump Body)) (reg : NodeRegistry) : Prop :=
  ∀ node r, reg.nodes.get? node = some r → Approved settings initial inputs node r

namespace GateProcess

variable {settings : GateSettings} {initial : NodeRegistry}
  {inputs : List (ProcessInput Dump Body)}

/-- The calls and the monitor change no profile. -/
lemma allApproved_apply {reg : NodeRegistry} (h : AllApproved settings initial inputs reg)
    (op : WorkerOp) : AllApproved settings initial inputs (op.apply reg) := by
  intro node r hget
  obtain ⟨before, hbefore, hprofile⟩ := WorkerOp.profile_apply hget
  exact (h node before hbefore).congr hprofile

lemma upkeep_approved : Upkeep (AllApproved settings initial inputs)
    fun r => ∃ node, Approved settings initial inputs node r where
  setHealth _ node healthy h := allApproved_apply h (.verdict node healthy)
  incrementActive _ node h := allApproved_apply h (.taken node)
  decrementActive _ node h := allApproved_apply h (.givenBack node)
  known reg h r hr := by
    obtain ⟨node, hget⟩ := Dict.mem_values_iff.1 hr
    exact ⟨node, h node r hget⟩

/-- In staging and production, whatever is asked and however the calls interleave, every packet that
waits at a worker was sent under the name and to the URL of a registration that was there at the
start or was made with the admin token before. -/
theorem delivery_provenance (process : GateProcess Dump Body)
    (hrequired : process.api.settings.callerPolicyRequired = true) {s : GateState Dump}
    {inputs : List (ProcessInput Dump Body)} {t : Status (gate Dump) (ExecuteAnswer Dump)}
    (ht : t ∈ (process.run s inputs).tasks) {nodeName url : String} {packet : TransportPacket}
    (hsent : t.request? = some (GateRequest.send nodeName packet url)) :
    ∃ node r, Approved process.api.settings s.registry inputs node r ∧ r.nodeName = nodeName ∧
      r.internalUrl = url := by
  have hinitial : AllApproved process.api.settings s.registry inputs s.registry :=
    fun node r hget => .inl ⟨r, hget, rfl⟩
  have hrequests : ∀ request, .request request ∈ inputs → ∀ reg,
      AllApproved process.api.settings s.registry inputs reg →
        AllApproved process.api.settings s.registry inputs (process.api.serve reg request).2 := by
    intro request hmem reg h node r hget
    rcases GateApi.found_serve hrequired hget with hbefore | hregistered
    · exact h node r hbefore
    · exact .inr ⟨request, hmem, hregistered⟩
  obtain ⟨r, ⟨node, happroved⟩, hname, hurl⟩ :=
    (process.kept_run upkeep_approved hrequests hinitial).2 t ht nodeName packet url hsent
  exact ⟨node, r, happroved, hname, hurl⟩

end GateProcess

/-! ### A worker that registers and is given a packet -/

lemma eieUrl_scheme :
    (Text.startsWith "http://eie" "http://" || Text.startsWith "http://eie" "https://") =
      true := by
  decide +kernel

lemma converge_normalized : normalize "converge" = "converge" ∧ "converge" ≠ "" := by
  decide +kernel

/-- The registration of the enrichment engine. -/
def eieRegistration : RegisterNodesRequest where
  root := Dict.empty.set "eie" (AdminRegistrationService.plainInput "http://eie" "converge"
    eieUrl_scheme converge_normalized)

/-- The process with plain collaborators. -/
def GateProcess.plain (settings : GateSettings) : GateProcess TransportPacket TransportPacket where
  executeEndpoint := plainEndpoint settings
  api := .plain settings
  settings_eq := rfl

/-- The engine registers with the token of the settings, and a consumer's packet is posted. -/
def convergence : List (ProcessInput TransportPacket TransportPacket) :=
  [.request (.adminRegister eieRegistration true (some "token")),
    .post 0 (.ok (some (consumerPacket "converge")))]

/-- A process without nodes. -/
def emptyState : GateState TransportPacket :=
  .fresh .empty none (.stopped 0) ⟨fun _ => 0, 0⟩

/-- The request at which a task waits, if it is one to a worker. -/
def sentTo? (t : Status (gate Dump) (ExecuteAnswer Dump)) : Option (String × String) :=
  match t.request? with
  | some (.send nodeName _ url) => some (nodeName, url)
  | _ => none

lemma sentTo?_eq_some {t : Status (gate Dump) (ExecuteAnswer Dump)} {nodeName url : String} :
    sentTo? t = some (nodeName, url) ↔
      ∃ packet, t.request? = some (GateRequest.send nodeName packet url) := by
  rw [sentTo?]
  rcases t.request? with _ | ⟨_ | _ | _ | _⟩ <;> simp

/-- The packet goes to the URL that was registered with the token. -/
theorem delivery_provenance_convergence :
    ∃ settings, GateSettings.create GateSettings.consumerArgs = .ok settings ∧
      ((GateProcess.plain settings).run emptyState convergence).tasks.map sentTo? =
        [some ("eie", "http://eie")] ∧
      ∃ node r request, .request request ∈ convergence ∧
        RegisteredBy settings node r (.request request) ∧ r.nodeName = "eie" ∧
        r.internalUrl = "http://eie" := by
  obtain ⟨settings, hcreate, hboth⟩ := exists_ok_of_any
    (x := GateSettings.create GateSettings.consumerArgs)
    (p := fun settings => settings.callerPolicyRequired &&
      ((GateProcess.plain settings).run emptyState convergence).tasks.map sentTo? =
        [some ("eie", "http://eie")]) (by decide +kernel)
  obtain ⟨hrequired, hsent⟩ := Bool.and_eq_true_iff.1 hboth
  have hsent := of_decide_eq_true hsent
  refine ⟨settings, hcreate, hsent, ?_⟩
  obtain ⟨t, ht, hto⟩ := List.mem_map.1
    (hsent ▸ List.mem_singleton_self (some ("eie", "http://eie")))
  obtain ⟨packet, hpacket⟩ := sentTo?_eq_some.1 hto
  obtain ⟨node, r, ⟨before, hget, -⟩ | ⟨request, hmem, hregistered⟩, hname, hurl⟩ :=
    (GateProcess.plain settings).delivery_provenance hrequired ht hpacket
  · cases hget
  · exact ⟨node, r, request, hmem, hregistered, hname, hurl⟩

/-- The two engines of the seam. -/
def seamFile : YamlDocument :=
  let eie : RegistrationPayload :=
    { internalUrl := "http://eie"
      supportedActions := ["converge", "enrich", "enrich-and-sync", "graph-inference-result"] }
  let ceg : RegistrationPayload :=
    { internalUrl := "http://ceg", supportedActions := ["match", "sync", "outcomes"] }
  .mapping ((Dict.empty.set "eie" (.payload eie)).set "ceg" (.payload ceg))

/-- A process with both engines. -/
def seamState : GateState TransportPacket :=
  .fresh (NodeRegistry.empty.run [.load seamFile]) none (.stopped 0) ⟨fun _ => 0, 0⟩

/-- With both engines the process is ready, and a packet for `match` has a node that owns it; after
one of them is found unhealthy it is not ready any more. -/
theorem ready_truthful_seam :
    ∃ settings, GateSettings.create GateSettings.consumerArgs = .ok settings ∧
      (∃ r, ((GateProcess.plain settings).run seamState []).world.state.registry.resolveAction
        "match" = .ok r ∧ OwnsAction r.owner "match") ∧
      ¬ ∃ report, ((GateProcess.plain settings).api.serve ((GateProcess.plain settings).run
        seamState [.verdict "ceg" false]).world.state.registry .ready).1 = .ready 200 report := by
  obtain ⟨settings, hcreate, -⟩ := exists_ok_of_any
    (x := GateSettings.create GateSettings.consumerArgs) (p := fun _ => true) (by decide +kernel)
  have hkeyed : seamState.registry.Keyed :=
    NodeRegistry.keyed_run NodeRegistry.keyed_empty [.load seamFile]
  refine ⟨settings, hcreate, ?_, fun hready => ?_⟩
  · have hreport : (routingReadiness seamState.registry).ready = true := by decide +kernel
    have hready : (GateApi.ready seamState.registry : ApiAnswer TransportPacket) =
        .ready 200 (routingReadiness seamState.registry) := by
      rw [GateApi.ready, hreport]
      rfl
    exact ((GateProcess.plain settings).ready_truthful [] hkeyed).1 ⟨_, hready⟩ "match" (by decide)
  · obtain ⟨r, hresolve, -⟩ :=
      ((GateProcess.plain settings).ready_truthful [.verdict "ceg" false] hkeyed).1 hready
        "match" (by decide)
    have hresolve : (seamState.registry.setHealth "ceg" false).2.resolveAction "match" = .ok r :=
      hresolve
    have hnone : ((seamState.registry.setHealth "ceg" false).2.resolveAction
        "match").toOption.isNone = true := by
      decide +kernel
    rw [hresolve] at hnone
    cases hnone

end ConstellationGate
