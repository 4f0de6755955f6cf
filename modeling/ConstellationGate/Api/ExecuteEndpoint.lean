import ConstellationGate.Services.PipelineAuthority
import ConstellationGate.Services.RaisedClasses

/-!
# `POST /v1/execute`

The endpoint of `api/main.py` around an execute call, and what its answer says about the call
(`answer_truthful`): an answer that blames the load or the request comes from a call that was not
admitted, an answer that blames the routing from one whose packet is not with a worker, an answer
that blames the time from one whose deadline was running, and an answer that blames a worker names
the node to which the packet was handed.
-/

namespace ConstellationGate

variable {Dump Body : Type}

/-! ### The endpoint -/

/-- `sign_gate_response`, over the SDK's `sign_transport_packet`. -/
def signGateResponse
    (signTransportPacket :
      TransportPacket → String → String → String → Except PyError TransportPacket)
    (settings : GateSettings) (packet : TransportPacket) : Except PyError TransportPacket :=
  match settings.signingKey, settings.signingKeyId, settings.signingAlgorithm with
  | some key, some keyId, some algorithm =>
    if key = "" ∨ keyId = "" ∨ algorithm = "" then .ok packet
    else signTransportPacket packet key keyId algorithm
  | _, _, _ => .ok packet

/-- The collaborators of the endpoint. -/
structure ExecuteEndpoint (Dump Body : Type) where
  cfg : GateConfig Dump
  validation : PacketValidation Body
  settings : GateSettings
  /-- `sign_transport_packet`. -/
  signTransportPacket : TransportPacket → String → String → String → Except PyError TransportPacket
  /-- What the dispatch failures of the SDK are. -/
  kind : PyError → DispatchFailure

/-- What the endpoint answers: the dump of a packet, or an error. -/
inductive ExecuteAnswer (Dump : Type)
  | content (dump : Dump)
  | failure (http : HttpException)

namespace ExecuteEndpoint

variable (api : ExecuteEndpoint Dump Body)

/-- The request body: what `request.json()` has made of it, which must be an object. -/
def readBody : Except PyError (Option Body) → Except PyError Body
  | .error exc => .error exc
  | .ok none => .error { cls := .valueError, message := "request body must be a JSON object" }
  | .ok (some body) => .ok body

/-- What the endpoint tries, at a reading of the wall clock. -/
def tried (now : ℚ) (json : Except PyError (Option Body)) :
    Co (gate Dump) (ExecuteAnswer Dump) := do
  let body ← liftExcept (readBody json)
  let packet ← execute api.cfg (dispatch api.cfg)
    ((getIngressValidator api.settings).validate api.validation now body)
  let signed ← liftExcept (signGateResponse api.signTransportPacket api.settings packet)
  pure (.content (api.cfg.sdk.dump signed))

/-- `execute` of `api/main.py`. -/
def post (now : ℚ) (json : Except PyError (Option Body)) : Co (gate Dump) (ExecuteAnswer Dump) :=
  (api.tried now json).handle fun
    | .ok answer => Co.done (.ok answer)
    | .error exc =>
      if exc.isException then Co.done (.ok (.failure (toHttpException api.kind exc)))
      else Co.raise exc

end ExecuteEndpoint

/-! ### The failures of the work on a packet -/

/-- The node to which a packet was last handed in the current step or attempt. -/
def handedSince (events : List (GateEvent Dump)) : Option NodeRegistration :=
  events.foldl (fun last e =>
    match e with
    | .attempted _ | .stepStarted _ _ => none
    | .handed _ target _ => some target
    | _ => last) none

/-- An exception of the work on a packet, with what has been recorded by then. -/
inductive WorkFails (events : List (GateEvent Dump)) (e : PyError) : Prop
  /-- For a reason that has nothing to do with routing and workers, or for lack of time. -/
  | plain (hcls : e.cls ∈ plainErrors ++ timeoutErrors)
  /-- The packet could not be routed, and has not been handed over. -/
  | unrouted (hnone : handedSince events = none)
      (hcls : e.cls = .noHealthyNodeError ∨ e.cls = .routingPolicyError)
  /-- The network attempt failed; the exception names the node. -/
  | worker {target : NodeRegistration} (hhanded : handedSince events = some target)
      (hcls : e.cls ∈ workerErrors) (hnode : e.nodeName = some target.nodeName)

lemma WorkFails.of_local {events : List (GateEvent Dump)} {e : PyError}
    (hnone : handedSince events = none) (h : e.cls ∈ localErrors) : WorkFails events e := by
  rcases List.mem_append.1 h with h | h
  · refine .unrouted hnone ?_
    simpa using h
  · exact .plain h

/-- The replies to awaits: a network attempt fails with a dispatch failure that names no node; apart
from that there are timeouts, cancellations and plain exceptions. -/
def sdkReplies : Replies (gate Dump)
  | .send _ _ _, r => ∀ e, r = .error e →
      e.cls ∈ workerErrors ∧ e.nodeName = none ∨ e.cls ∈ plainErrors ++ timeoutErrors
  | _, r => ∀ e, r = .error e → e.cls ∈ plainErrors ++ timeoutErrors

/-- No rule for what is recorded. -/
abbrev anyEvent : List (GateEvent Dump) → GateEvent Dump → Prop := fun _ _ => True

section Dispatch

variable {cfg : GateConfig Dump}

lemma ends_acquireLimit_plain (target : NodeRegistration) :
    (acquireLimit target : Co (gate Dump) Bool).Ends sdkReplies
      (RaisesIn (plainErrors ++ timeoutErrors)) := by
  have hlimits : ∀ {f : PerNodeLimiterManager → Except PyError Unit × PerNodeLimiterManager},
      (∀ m, RaisesIn plainErrors (f m).1) → ∀ s : GateState Dump, ∀ e, (onLimits f s).1 = .error e →
        RaisesIn (plainErrors ++ timeoutErrors) (.error e : Except PyError Bool) :=
    fun hf s e he => .error (List.mem_append_left _ (raisesIn_onLimits hf s e he))
  refine Co.ends_bind (fun s e he => by cases he) fun limited => ?_
  cases limited with
  | false => exact .ok _
  | true =>
    refine Co.ends_bind (hlimits fun m => m.raisesIn_ensureNodeLimit _ _) fun u => ?_
    refine Co.ends_bind (hlimits fun m => m.raisesIn_reserve _) fun u => ?_
    exact Co.ends_bind (fun r hr e he => .error (hr e he)) fun u => .ok _

/-- The handlers of the dispatcher name the node in what they raise again. -/
lemma ends_sendToWorker_named (target : NodeRegistration) (packet : TransportPacket) :
    (sendToWorker target packet : Co (gate Dump) TransportPacket).Ends sdkReplies fun r =>
      ∀ e, r = .error e → e.cls ∈ plainErrors ++ timeoutErrors ∨
        e.cls ∈ workerErrors ∧ e.nodeName = some target.nodeName := by
  have hsend : (sendGateAuthoredPacket target.nodeName packet target.internalUrl :
      Co (gate Dump) TransportPacket).Ends sdkReplies fun r => ∀ e, r = .error e →
        e.cls ∈ workerErrors ∧ e.nodeName = none ∨ e.cls ∈ plainErrors ++ timeoutErrors :=
    fun r hr => hr
  refine Co.ends_handle.2 (hsend.mono fun r hr => ?_)
  cases r with
  | ok answer => exact fun e he => by cases he
  | error exc =>
    have hnamed : (attributeTo exc target.nodeName).cls ∈ plainErrors ++ timeoutErrors ∨
        (attributeTo exc target.nodeName).cls ∈ workerErrors ∧
          (attributeTo exc target.nodeName).nodeName = some target.nodeName := by
      rcases hr exc rfl with ⟨hcls, hnode⟩ | hcls
      · refine .inr ⟨hcls, ?_⟩
        rw [attributeTo, hnode]
        rfl
      · exact .inl hcls
    simp only
    split
    · refine Co.ends_bind (fun s e he e' he' => ?_) fun u => ?_
      · obtain rfl := Except.error.inj he'
        exact .inl (List.mem_append_left _
          (s.registry.raisesIn_updateNode _ (fun r => .ok _) e he))
      · rintro e ⟨⟩
        exact hnamed
    split
    · rintro e ⟨⟩
      exact hnamed
    · rename_i hexc
      rintro e ⟨⟩
      exact .inl (List.mem_append_left _
        (plain_of_not_isException (Bool.eq_false_of_not_eq_true hexc)))

lemma ends_giveBack_plain (target : NodeRegistration) (permits : Permits) :
    (giveBack target permits : Co (gate Dump) Unit).Ends sdkReplies (RaisesIn plainErrors) := by
  have hrelease : (if permits.acquiredLimit then
      Co.call (S := gate Dump) (onLimits fun m => m.release target.nodeName)
        else pure ()).Ends sdkReplies (RaisesIn plainErrors) := by
    split
    · exact fun s => raisesIn_onLimits (fun m => m.raisesIn_release _) s
    · exact RaisesIn.ok _
  rw [giveBack]
  split
  · refine Co.ends_bind (fun s e he => ?_) fun u => hrelease
    exact .error (s.registry.raisesIn_updateNode _ (fun r => .ok _) e he)
  · exact hrelease

/-- What the `try` block ends with is a failure of the work on the packet. -/
lemma follows_attemptUnderPermit_fails (plan : DispatchPlan) (packet : TransportPacket)
    (events : List (GateEvent Dump)) (s : GateState Dump) :
    (attemptUnderPermit plan packet).Follows sdkReplies anyEvent
      (fun h r => ∃ attempt, r = .ok attempt ∧ ∀ e, attempt.2 = .error e → WorkFails h e)
      events s := by
  have hwork : ∀ s s' : GateState Dump, Working s s' → True := fun _ _ _ => trivial
  refine Co.follows_attempt_bind (within_acquireLimit hwork plan.target s)
    (ends_acquireLimit_plain plan.target) fun acquired hacquired s => ?_
  cases acquired with
  | error exc =>
    refine ⟨_, rfl, ?_⟩
    rintro e ⟨⟩
    exact .plain (hacquired exc rfl)
  | ok acquiredLimit =>
    have hincrement : (Co.call (S := gate Dump) (onRegistry fun reg =>
        reg.incrementActive plan.target.nodeName)).Ends sdkReplies (RaisesIn plainErrors) :=
      fun s => s.registry.raisesIn_incrementActive plan.target.nodeName
    refine Co.follows_attempt_bind (Co.within_call trivial) hincrement
      fun incremented hincremented s => ?_
    cases incremented with
    | error exc =>
      refine ⟨_, rfl, ?_⟩
      rintro e ⟨⟩
      exact .plain (List.mem_append_left _ (hincremented exc rfl))
    | ok u =>
      -- the packet is handed over, and what the attempt raises names its node
      refine Co.follows_log_bind trivial ?_
      have hhanded : handedSince (events ++ [.handed plan.budget plan.target packet]) =
          some plan.target := by
        simp [handedSince]
      refine Co.follows_attempt_bind (within_sendToWorker hwork plan.target packet s)
        (ends_sendToWorker_named plan.target packet) fun outcome houtcome s => ?_
      refine ⟨_, rfl, fun e he => ?_⟩
      rcases houtcome e he with hcls | ⟨hcls, hnode⟩
      · exact .plain hcls
      · exact .worker hhanded hcls hnode

/-- A dispatch that nothing has been handed over before fails as the work on its packet. -/
lemma follows_dispatch_fails (hcfg : RaisesPlain cfg) (packet : TransportPacket)
    (deadline : Option Deadline) {events : List (GateEvent Dump)}
    (hnone : handedSince events = none) (s : GateState Dump) :
    (dispatch cfg packet deadline).Follows sdkReplies anyEvent
      (fun h r => ∀ e, r = .error e → WorkFails h e) events s := by
  have hwork : ∀ s s' : GateState Dump, Working s s' → True := fun _ _ _ => trivial
  refine Co.follows_call_bind (fun plan _ => Co.follows_log_bind trivial ?_) fun exc hexc => ?_
  swap
  · rintro e ⟨⟩
    exact .of_local hnone (raisesIn_derivePacket hcfg packet deadline s exc hexc)
  have hderived :
      handedSince (events ++ [.derived plan.budget plan.target plan.packet]) = none := by
    rw [← hnone]
    simp [handedSince]
  change (liftExcept (sealPacket cfg plan) >>= _).Follows _ _ _ _ _
  rcases hseal : sealPacket cfg plan with exc | dispatchPacket
  · rintro e ⟨⟩
    exact .of_local hderived (raisesIn_sealPacket hcfg plan exc hseal)
  change (attemptUnderPermit plan dispatchPacket >>= _).Follows _ _ _ _ _
  refine Co.follows_bind ((follows_attemptUnderPermit_fails plan dispatchPacket _ _).mono ?_)
  rintro h r ⟨attempt, rfl, hattempt⟩
  refine ⟨?_, fun e he => by cases he⟩
  rintro a ⟨⟩ s
  refine Co.follows_bind_of_ends (within_giveBack hwork plan.target _ s)
    (ends_giveBack_plain plan.target _) (fun u _ s => hattempt) fun exc hexc => ?_
  rintro e ⟨⟩
  exact .plain (List.mem_append_left _ (hexc exc rfl))

lemma follows_executeSteps_fails (hcfg : RaisesPlain cfg) (packet : TransportPacket)
    (deadline : Option Deadline) (steps : List WorkflowStep) (progress : Progress)
    (events : List (GateEvent Dump)) (s : GateState Dump) :
    (executeSteps cfg (dispatch cfg) packet deadline steps progress).Follows sdkReplies anyEvent
      (fun h r => ∀ e, r = .error e → WorkFails h e) events s := by
  induction steps generalizing progress events s with
  | nil => exact fun e he => .plain (List.mem_append_left _ (hcfg.derive _ _ _ e he))
  | cons step steps ih =>
    rw [executeSteps]
    have hcondition := raisesIn_shouldExecuteStep hcfg step progress
    rcases hshould : shouldExecuteStep cfg step progress with exc | executed
    · rintro e ⟨⟩
      exact .plain (List.mem_append_left _ (hcondition exc hshould))
    cases executed with
    | false => exact ih progress events s
    | true =>
      refine Co.follows_call_bind (fun p hp => ?_) fun exc hexc => ?_
      swap
      · rintro e ⟨⟩
        exact .plain (raisesIn_deriveStep hcfg packet deadline step progress s exc hexc)
      refine Co.follows_log_bind trivial (Co.follows_bind ((follows_dispatch_fails hcfg p deadline
        (by simp [handedSince]) _).mono fun h r hr => ⟨?_, fun e he => ?_⟩))
      · rintro answer rfl s
        exact Co.follows_log_bind trivial (ih _ _ _)
      · rintro e' ⟨⟩
        exact hr e he

lemma follows_runOnce_fails (hcfg : RaisesPlain cfg) (packet : TransportPacket)
    (deadline : Deadline) (events : List (GateEvent Dump)) (s : GateState Dump) :
    (runOnce cfg (dispatch cfg) packet deadline).Follows sdkReplies anyEvent
      (fun h r => ∀ e, r = .error e → WorkFails h e) events s := by
  refine Co.follows_log_bind trivial ?_
  change Co.Follows _ _ _ (if _ then _ else _) _ _
  split
  · rw [executeWorkflow]
    split
    · rintro e ⟨⟩
      exact .plain (by simp [plainErrors])
    · exact follows_executeSteps_fails hcfg packet _ _ _ _ _
  · refine Co.follows_bind ((follows_dispatch_fails hcfg packet _ (by simp [handedSince]) _).mono
      fun h r hr => ⟨?_, fun e he => ?_⟩)
    · rintro answer rfl s
      exact Co.follows_log_bind trivial fun e he => by cases he
    · rintro e' ⟨⟩
      exact hr e he

end Dispatch

/-! ### What an answer says -/

/-- An error answer is true of the call, by what the call has recorded. -/
structure Truthful (events : List (GateEvent Dump)) (http : HttpException) : Prop where
  /-- The load, the packet or the caller is blamed: the call was not admitted. -/
  rejected : http.statusCode = 429 ∨
    http.code ∈ ["invalid_transport_packet", "action_not_permitted"] → ∀ p, .admitted p ∉ events
  /-- The routing is blamed: the last attempt, or the last step, was not handed over. -/
  unrouted : http.statusCode = 503 ∨ http.code = "routing_policy_violation" →
    handedSince events = none
  /-- The time is blamed: the deadline of the packet was running. -/
  timedOut : http.statusCode = 504 → ∃ p deadline, .deadlineStarted p deadline ∈ events
  /-- A worker is blamed: it is the one to which the packet was last handed. -/
  upstream : http.statusCode = 502 → ∃ target, handedSince events = some target ∧
    http.node = some (some target.nodeName)

section Truthful

variable {kind : PyError → DispatchFailure} {events : List (GateEvent Dump)} {e : PyError}

lemma truthful_of_plain (h : e.cls ∈ plainErrors) : Truthful events (toHttpException kind e) := by
  obtain ⟨hstatus, hcode⟩ := toHttpException_of_plain kind h
  generalize toHttpException kind e = http at hstatus hcode
  obtain ⟨statusCode, code, message, node⟩ := http
  simp only [List.mem_cons, List.not_mem_nil, or_false] at hstatus hcode
  constructor
  · rcases hstatus with rfl | rfl | rfl <;> rcases hcode with rfl | rfl | rfl <;> simp
  · rcases hstatus with rfl | rfl | rfl <;> rcases hcode with rfl | rfl | rfl <;> simp
  · rcases hstatus with rfl | rfl | rfl <;> simp
  · rcases hstatus with rfl | rfl | rfl <;> simp

lemma truthful_of_rejected (h : e.cls ∈ admissionErrors ∨ e.cls ∈ ingressErrors)
    (hnone : ∀ p, .admitted p ∉ events) : Truthful events (toHttpException kind e) := by
  refine ⟨fun _ => hnone, ?_, ?_, ?_⟩
  all_goals
    rcases h with h | h
    · rw [toHttpException_of_admission h]
      simp
    · obtain ⟨hstatus, hcode⟩ := toHttpException_of_ingress kind h
      generalize toHttpException kind e = http at hstatus hcode ⊢
      obtain ⟨statusCode, code, message, node⟩ := http
      simp only [List.mem_cons, List.not_mem_nil, or_false] at hstatus hcode
      rcases hstatus with rfl | rfl <;> rcases hcode with rfl | rfl <;> simp

lemma WorkFails.truthful (h : WorkFails events e)
    (hstarted : ∃ p deadline, .deadlineStarted p deadline ∈ events) :
    Truthful events (toHttpException kind e) := by
  have htimeout : Truthful events ⟨504, "execution_timeout", e.message, none⟩ :=
    ⟨by simp, by simp, fun _ => hstarted, by simp⟩
  cases h with
  | plain hcls =>
    rcases List.mem_append.1 hcls with hcls | hcls
    · exact truthful_of_plain hcls
    · rw [toHttpException_of_timeout hcls]
      exact htimeout
  | unrouted hnone hcls =>
    rcases hcls with hcls | hcls
    · rw [toHttpException_of_noHealthyNode hcls]
      exact ⟨by simp, fun _ => hnone, by simp, by simp⟩
    · rw [toHttpException_of_routingPolicy hcls]
      exact ⟨by simp, fun _ => hnone, by simp, by simp⟩
  | worker hhanded hcls hnode =>
    rcases toHttpException_of_worker kind hcls with heq | ⟨failure, heq⟩
    · rw [heq]
      exact htimeout
    rw [heq]
    rcases failure.answer_cases e with hanswer | ⟨code, hcode, hanswer⟩
    · rw [hanswer, internalError]
      exact ⟨by simp, by simp, by simp, by simp⟩
    · rw [hanswer]
      simp only [List.mem_cons, List.not_mem_nil, or_false] at hcode
      refine ⟨?_, ?_, by simp, fun _ => ⟨_, hhanded, by rw [hnode]⟩⟩
      · rcases hcode with rfl | rfl <;> simp
      · rcases hcode with rfl | rfl <;> simp

end Truthful

/-- The collaborators of the endpoint raise plain exceptions, apart from the network attempts. -/
structure ExecuteEndpoint.RaisesPlain (api : ExecuteEndpoint Dump Body) : Prop where
  call : ConstellationGate.RaisesPlain api.cfg
  sign : ∀ packet key keyId algorithm,
    RaisesIn plainErrors (api.signTransportPacket packet key keyId algorithm)

section Post

variable {api : ExecuteEndpoint Dump Body} (hapi : api.RaisesPlain)
include hapi

lemma raisesIn_signGateResponse (packet : TransportPacket) :
    RaisesIn plainErrors (signGateResponse api.signTransportPacket api.settings packet) := by
  rw [signGateResponse]
  split
  · split
    · exact .ok _
    · exact hapi.sign _ _ _ _
  · exact .ok _

/-- The errors of a call are answered truthfully. -/
lemma follows_execute_truthful (packet : TransportPacket) (s : GateState Dump) :
    (execute api.cfg (dispatch api.cfg) (.ok packet)).Follows sdkReplies anyEvent
      (fun h r => ∀ e, r = .error e → Truthful h (toHttpException api.kind e)) [] s := by
  let started : List (GateEvent Dump) → Prop := fun h =>
    ∃ p deadline, .deadlineStarted p deadline ∈ h
  have hcall := follows_execute_of_attempts (L := sdkReplies) (A := started) (J := anyEvent)
    (F := fun h e => started h ∧ WorkFails h e) api.cfg packet (fun _ _ _ => trivial)
    (fun now deadline => ⟨packet, deadline, by simp⟩) ?_ ?_ ?_ ?_ s
  · refine hcall.mono ?_
    rintro h r ⟨events, rfl, hfails⟩ e rfl
    cases hfails e rfl with
    | refused s hnone hrefused =>
      subst hnone
      rcases List.mem_append.1 (raisesIn_passAdmission _ _ _ e hrefused) with hcls | hcls
      · exact truthful_of_rejected (.inl hcls) (by simp)
      · exact truthful_of_plain hcls
    | unreadable value hvalue => exact truthful_of_plain (hapi.call.modelValidate _ e hvalue)
    | replayed s hreplayed => exact truthful_of_plain (raisesIn_guardReplay _ _ e hreplayed)
    | timeless s hdeadline => exact truthful_of_plain (raisesIn_startDeadline _ _ _ e hdeadline)
    | work hwork =>
      obtain ⟨⟨p, deadline, hmem⟩, hwork⟩ := hwork
      -- the record of the end changes nothing
      have hsame : handedSince (events ++ [.returned (.error e)]) = handedSince events := by
        simp [handedSince]
      have hended : WorkFails (events ++ [.returned (.error e)]) e := by
        cases hwork with
        | plain hcls => exact .plain hcls
        | unrouted hnone hcls => exact .unrouted (hsame.trans hnone) hcls
        | worker hhanded hcls hnode => exact .worker (hsame.trans hhanded) hcls hnode
      exact hended.truthful ⟨p, deadline, List.mem_append_left _ hmem⟩
  · rintro deadline events s ⟨p, d, hmem⟩
    refine (follows_runOnce_fails hapi.call packet deadline events s).extends.mono ?_
    rintro h r ⟨⟨es, rfl⟩, hr⟩
    have hstarted : started (events ++ es) := ⟨p, d, List.mem_append_left _ hmem⟩
    exact ⟨hstarted, fun e he => ⟨hstarted, hr e he⟩⟩
  · exact fun events seconds r e hA hr he => ⟨hA, .plain (hr e he)⟩
  · exact fun events hA => ⟨hA, .plain (by simp [plainErrors, powerOverflow])⟩
  · exact fun events e hA _ => ⟨hA, .plain (by simp [plainErrors, timeoutErrors])⟩

lemma follows_post (now : ℚ) {json : Except PyError (Option Body)}
    (hjson : RaisesIn plainErrors json) (s : GateState Dump) :
    (api.post now json).Follows sdkReplies anyEvent
      (fun h r => ∀ http, r = .ok (.failure http) → Truthful h http) [] s := by
  refine Co.follows_handle (Co.Follows.mono (P := fun h r => (∃ dump, r = .ok (.content dump)) ∨
    ∃ e, r = .error e ∧ Truthful h (toHttpException api.kind e)) ?_ fun h r hr s => ?_)
  swap
  · rcases hr with ⟨dump, rfl⟩ | ⟨e, rfl, htruthful⟩
    · rintro http ⟨⟩
    simp only
    split
    · rintro http ⟨⟩
      exact htruthful
    · rintro http ⟨⟩
  rw [ExecuteEndpoint.tried]
  rcases hbody : ExecuteEndpoint.readBody json with exc | body
  · refine .inr ⟨exc, rfl, truthful_of_plain ?_⟩
    rcases json with e | _ | body
    · obtain rfl := Except.error.inj hbody
      exact hjson e rfl
    · obtain rfl := Except.error.inj hbody
      simp [plainErrors]
    · cases hbody
  change (execute api.cfg (dispatch api.cfg) _ >>= _).Follows _ _ _ _ _
  rcases hvalidate : (getIngressValidator api.settings).validate api.validation now body with
    exc | packet
  · -- the request is refused
    refine Co.follows_bind ((follows_execute_refused api.cfg exc (fun _ _ _ => trivial) s).mono ?_)
    rintro h r ⟨rfl, rfl⟩
    refine ⟨fun a ha => (by cases ha), ?_⟩
    rintro e ⟨⟩
    refine .inr ⟨exc, rfl, ?_⟩
    rcases List.mem_append.1 (IngressValidator.raisesIn_validate _ _ _ _ exc hvalidate) with
      hcls | hcls
    · exact truthful_of_rejected (.inr hcls) (by simp)
    · exact truthful_of_plain hcls
  · refine Co.follows_bind ((follows_execute_truthful hapi packet s).mono fun h r hr =>
      ⟨fun answer _ s => ?_, fun e he => .inr ⟨e, rfl, hr e he⟩⟩)
    rcases hsign : signGateResponse api.signTransportPacket api.settings answer with exc | signed
    · exact .inr ⟨exc, rfl, truthful_of_plain (raisesIn_signGateResponse hapi answer exc hsign)⟩
    · exact .inl ⟨_, rfl⟩

end Post

/-- In every interleaved run, whatever the tasks beside it do, the error that `POST /v1/execute`
answers is true of its call: 429 and the refusals of the packet and its caller come from calls that
were not admitted, 503 and the routing violations from calls whose last attempt or step was not
handed over, 504 from calls with a running deadline, and 502 names the node to which the packet was
last handed. -/
theorem answer_truthful {api : ExecuteEndpoint Dump Body} (hapi : api.RaisesPlain)
    {s : GateState Dump} {ms pre : List (Move (gate Dump) (ExecuteAnswer Dump))} {tid : ℕ} {now : ℚ}
    {json : Except PyError (Option Body)} (hjson : RaisesIn plainErrors json)
    (h : Pool.Started s ms tid pre (api.post now json))
    (hreplies : ∀ i reply, .resume i reply ∈ ms → ∀ q, sdkReplies q (reply q))
    {http : HttpException}
    (hanswer : ((Pool.init s).run ms).tasks[tid]? = some (.finished (.ok (.failure http)))) :
    Truthful (eventsIn tid (runLog s ms)) http := by
  obtain ⟨t, hget, hstatus, -⟩ := h.follows (fun s => follows_post hapi now hjson s) hreplies
  obtain rfl := Option.some.inj (hanswer.symm.trans hget)
  exact hstatus http rfl

/-! ### A worker that cannot be reached -/

/-- The endpoint of a process with plain collaborators. -/
def plainEndpoint (settings : GateSettings) : ExecuteEndpoint TransportPacket TransportPacket where
  cfg := .plain
  validation := .plain
  settings := settings
  signTransportPacket packet _ _ _ := .ok packet
  kind _ := .other

lemma plainEndpoint_raisesPlain (settings : GateSettings) : (plainEndpoint settings).RaisesPlain :=
  ⟨raisesPlain_plain, fun _ _ _ _ => .ok _⟩

/-- No worker can be reached. -/
def unreachable : ∀ q : GateRequest, Except PyError q.Reply
  | .limiterYield _ => .ok ()
  | .send _ _ _ => .error { cls := .workerConnectionError, message := "connection refused" }
  | .retrySleep _ => .ok ()
  | .dispatch _ _ => .error { cls := .collaboratorError }

/-- The consumer's request is posted, and its worker cannot be reached. -/
def unreachablePost (settings : GateSettings) :
    List (Move (gate TransportPacket) (ExecuteAnswer TransportPacket)) :=
  [.spawn ((plainEndpoint settings).post 0 (.ok (some (consumerPacket "match")))),
   .resume 0 unreachable]

/-- The error that a task has answered. -/
def errorAnswer? : Status (gate Dump) (ExecuteAnswer Dump) → Option HttpException
  | .finished (.ok (.failure http)) => some http
  | _ => none

lemma errorAnswer?_eq_some {t : Status (gate Dump) (ExecuteAnswer Dump)} {http : HttpException} :
    errorAnswer? t = some http ↔ t = .finished (.ok (.failure http)) := by
  rcases t with ⟨e | ⟨dump⟩ | ⟨http'⟩⟩ | ⟨q, k⟩ <;> simp [errorAnswer?]

/-- The answer names the worker to which the packet was handed. -/
theorem answer_truthful_unreachable :
    ∃ settings, GateSettings.create GateSettings.consumerArgs = .ok settings ∧ ∃ http target,
      ((Pool.init matchState).run (unreachablePost settings)).tasks[0]? =
        some (.finished (.ok (.failure http))) ∧
      handedSince (eventsIn 0 (runLog matchState (unreachablePost settings))) = some target ∧
      http.node = some (some target.nodeName) := by
  obtain ⟨settings, hcreate, hanswer⟩ := exists_ok_of_any
    (x := GateSettings.create GateSettings.consumerArgs)
    (p := fun settings => (((Pool.init matchState).run (unreachablePost settings)).tasks[0]?.bind
      errorAnswer?).any fun http => http.statusCode = 502) (by decide +kernel)
  obtain ⟨http, hhttp, hstatus⟩ := (Option.any_eq_true _ _).1 hanswer
  obtain ⟨t, hget, ht⟩ := Option.bind_eq_some_iff.1 hhttp
  have hfinished := hget.trans (congrArg some (errorAnswer?_eq_some.1 ht))
  have hreplies : ∀ i reply, .resume i reply ∈ unreachablePost settings → ∀ q,
      (sdkReplies : Replies (gate TransportPacket)) q (reply q) := by
    intro i reply hm q
    simp only [unreachablePost, List.mem_cons, reduceCtorEq, Move.resume.injEq, List.not_mem_nil,
      or_false, false_or] at hm
    obtain ⟨-, rfl⟩ := hm
    cases q with
    | send nodeName packet workerBaseUrl =>
      rintro e ⟨⟩
      exact .inl ⟨by simp [workerErrors], rfl⟩
    | dispatch packet deadline =>
      rintro e ⟨⟩
      simp [plainErrors]
    | _ =>
      rintro e ⟨⟩
  have hstarted : Pool.Started matchState (unreachablePost settings) 0 []
      ((plainEndpoint settings).post 0 (.ok (some (consumerPacket "match")))) :=
    ⟨⟨[.resume 0 unreachable], rfl⟩, rfl⟩
  have htruthful := answer_truthful (plainEndpoint_raisesPlain settings) (.ok _) hstarted hreplies
    hfinished
  obtain ⟨target, hhanded, hnode⟩ := htruthful.upstream (of_decide_eq_true hstatus)
  exact ⟨settings, hcreate, http, target, hfinished, hhanded, hnode⟩

end ConstellationGate
