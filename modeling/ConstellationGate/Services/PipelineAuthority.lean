import ConstellationGate.Boundary.TrustBoundary
import ConstellationGate.Orchestration.StepIdentities
import ConstellationGate.Services.CallHistory

/-!
# The authority of what reaches the workers

In production every packet that is handed to a worker descends from a request that the ingress
validator has accepted (`handed_authorized`).  A direct dispatch hands over the action, the tenant
and the lineage of the request, under the name of its caller.  A step of a workflow hands over its
own action, which the policy of the caller need not list, and descends from the answer to the step
before it: its tenant is the one that the worker has answered with.
-/

namespace ConstellationGate

variable {Dump : Type}

/-! ### Descent -/

/-- The packet `q` is derived from `p` in `k` generations. -/
structure Descends (k : ℕ) (p q : TransportPacket) : Prop where
  tenant : q.tenant = p.tenant
  idempotencyKey : q.header.idempotencyKey = p.header.idempotencyKey
  rootId : q.lineage.rootId = p.lineage.rootId
  generation : q.lineage.generation = p.lineage.generation + k

lemma Derived.descends {p q : TransportPacket} {args : DeriveArgs} (h : Derived p args q) :
    Descends 1 p q := ⟨h.tenant, h.idempotencyKey, h.rootId, h.generation⟩

lemma Descends.trans {k l : ℕ} {p q r : TransportPacket} (h : Descends k p q)
    (h' : Descends l q r) : Descends (k + l) p r where
  tenant := h'.tenant.trans h.tenant
  idempotencyKey := h'.idempotencyKey.trans h.idempotencyKey
  rootId := h'.rootId.trans h.rootId
  generation := by
    have := h.generation
    have := h'.generation
    omega

/-- What a dispatch of `packet` hands over: the child of `packet` with its action, which names the
sender of `packet` as the source of the request. -/
structure ChildOf (packet p : TransportPacket) : Prop where
  descends : Descends 1 packet p
  action : normalize p.header.action = normalize packet.header.action
  originalSource : p.provenance.originalSourceNode = some packet.address.sourceNode

/-- The events of a dispatch of `packet`. -/
def HandsChild (packet : TransportPacket) : GateEvent Dump → Prop
  | .handed _ _ p => ChildOf packet p
  | .derived _ _ _ => True
  | _ => False

lemma childOf_derivePacket {cfg : GateConfig Dump} {packet : TransportPacket}
    {deadline : Option Deadline} {s : GateState Dump} {plan : DispatchPlan}
    (h : (derivePacket cfg packet deadline s).1 = .ok plan) : ChildOf packet plan.packet := by
  obtain ⟨-, -, budgetMs, clock, observed, -, ⟨hop, rfl⟩, hderive⟩ := of_derivePacket h
  have hderived := cfg.sdk.derive_ok hderive
  have hprovenance := hderived.provenance _ rfl
  constructor
  · exact ⟨hderived.tenant, hderived.idempotencyKey, hderived.rootId, hderived.generation⟩
  · exact hderived.action _ rfl
  · rw [hprovenance]

lemma within_dispatch_handsChild (cfg : GateConfig Dump) (packet : TransportPacket)
    (deadline : Option Deadline) (s : GateState Dump) :
    (dispatch cfg packet deadline).Within (HandsChild packet) (fun _ _ => True) s := by
  refine ⟨trivial, ?_⟩
  rcases hplan : (derivePacket cfg packet deadline s).1 with e | plan
  · trivial
  have hchild := childOf_derivePacket hplan
  refine within_afterDerive (E := HandsChild packet) (fun _ _ _ => trivial) cfg plan trivial ?_ _
  intro sealed hseal
  -- sealing adds a hop
  obtain ⟨hop, rfl⟩ := of_sealPacket hseal
  exact ⟨⟨hchild.descends.tenant, hchild.descends.idempotencyKey, hchild.descends.rootId,
    hchild.descends.generation⟩, hchild.action, hchild.originalSource⟩

/-! ### What a call hands over -/

/-- The last answer to a step of the current attempt. -/
def answerSince (events : List (GateEvent Dump)) : Option TransportPacket :=
  events.foldl (fun last e =>
    match e with
    | .attempted _ => none
    | .stepAnswered _ answer => some answer
    | _ => last) none

/-- The packet that the next step of a workflow for `packet` is derived from. -/
def parentPacket (packet : TransportPacket) (events : List (GateEvent Dump)) : TransportPacket :=
  (answerSince events).getD packet

/-- What a call for `packet` hands over, after it has recorded some events. -/
inductive InScope (cfg : GateConfig Dump) (packet : TransportPacket)
    (events : List (GateEvent Dump)) (p : TransportPacket) : Prop
  /-- The child of the request, for an action without a workflow. -/
  | direct (hdirect : hasWorkflow cfg packet.header.action = false) (hchild : ChildOf packet p)
  /-- A packet for the current step of the workflow, which names Gate as its source. -/
  | step {step : WorkflowStep} (hmem : step ∈ workflowSteps cfg packet.header.action)
      (hcurrent : currentStep events = some step)
      (hdescends : Descends 2 (parentPacket packet events) p)
      (haction : normalize p.header.action = normalize step.action)
      (hsource : p.provenance.originalSourceNode.map normalize = some (normalize cfg.gateNode))

/-- The rule for what a call hands over. -/
def ScopeRule (cfg : GateConfig Dump) (packet : TransportPacket)
    (events : List (GateEvent Dump)) : GateEvent Dump → Prop
  | .handed _ _ p => InScope cfg packet events p
  | _ => True

section Follows

variable {L : Replies (gate Dump)} (cfg : GateConfig Dump) (packet : TransportPacket)

lemma scopeRule_of_service (events : List (GateEvent Dump)) (e : GateEvent Dump)
    (he : e.isExecution = false) : ScopeRule cfg packet events e := by
  cases e with
  | handed budget target p => cases he
  | _ => trivial

/-- While a dispatch records its events, the step and the last answer are the same. -/
lemma scope_append {p : TransportPacket} (events : List (GateEvent Dump))
    {events' : List (GateEvent Dump)} (h : ∀ e ∈ events', HandsChild p e) :
    currentStep (events ++ events') = currentStep events ∧
      answerSince (events ++ events') = answerSince events := by
  induction events' using List.reverseRecOn with
  | nil =>
    rw [List.append_nil]
    exact ⟨rfl, rfl⟩
  | append_singleton events' e ih =>
    obtain ⟨hcurrent, hanswer⟩ := ih fun e' he' => h e' (by simp [he'])
    have he := h e (by simp)
    rw [← List.append_assoc, ← hcurrent, ← hanswer]
    cases e with
    | derived budget target q => simp [currentStep, answerSince]
    | handed budget target q => simp [currentStep, answerSince]
    | _ => cases he

/-- The loop over the steps hands over packets for its steps, each derived from the answer to the
one before. -/
lemma follows_executeSteps_inScope (deadline : Option Deadline) {steps : List WorkflowStep}
    (hsteps : steps ⊆ workflowSteps cfg packet.header.action) (progress : Progress)
    (events : List (GateEvent Dump)) (s : GateState Dump)
    (hparent : progress.currentPacket = parentPacket packet events) :
    (executeSteps cfg (dispatch cfg) packet deadline steps progress).Follows L
      (ScopeRule cfg packet) (fun _ _ => True) events s := by
  induction steps generalizing progress events s with
  | nil => trivial
  | cons step steps ih =>
    obtain ⟨hstep, hrest⟩ := List.cons_subset.1 hsteps
    rw [executeSteps]
    rcases shouldExecuteStep cfg step progress with e | executed
    · trivial
    cases executed with
    | false => exact ih hrest progress events s hparent
    | true =>
      refine Co.follows_call_bind (fun p hp => ?_) fun _ _ => trivial
      obtain ⟨hdescends, haction, hsource⟩ : Descends 1 (parentPacket packet events) p ∧
          normalize p.header.action = normalize step.action ∧
          normalize p.address.sourceNode = normalize cfg.gateNode := by
        rw [deriveStep] at hp
        split at hp
        · cases hp
        have hderived := cfg.sdk.derive_ok hp
        rw [hparent] at hderived
        exact ⟨hderived.descends, hderived.action _ rfl, hderived.sourceNode _ rfl⟩
      have hkept : answerSince (events ++ [.stepStarted step p]) = answerSince events := by
        simp [answerSince]
      refine ⟨trivial, Co.follows_bind (Co.follows_of_within
        (within_dispatch_handsChild cfg p deadline _) (Co.ends_of_forall (fun _ => trivial) _)
        ?_ ?_)⟩
      · intro es e hes he
        cases e with
        | handed budget target q =>
          obtain ⟨hcurrent, hanswer⟩ := scope_append (events ++ [.stepStarted step p]) hes
          rw [currentStep_started] at hcurrent
          refine .step hstep hcurrent ?_ (he.action.trans haction) ?_
          · rw [parentPacket, hanswer, hkept]
            exact hdescends.trans he.descends
          · rw [he.originalSource, Option.map_some, hsource]
        | _ => trivial
      · refine fun es r _ _ => ⟨?_, fun _ _ => trivial⟩
        rintro answer rfl s
        -- the next step is derived from this answer
        refine ⟨trivial, ih hrest _ _ _ ?_⟩
        simp [Progress.after, parentPacket, answerSince]

lemma follows_runOnce_inScope (deadline : Deadline) (events : List (GateEvent Dump))
    (s : GateState Dump) :
    (runOnce cfg (dispatch cfg) packet deadline).Follows L (ScopeRule cfg packet)
      (fun _ _ => True) events s := by
  refine ⟨trivial, ?_⟩
  change Co.Follows L _ _ (if _ then _ else _) _ _
  split
  · rw [executeWorkflow]
    split
    · trivial
    · rename_i definition hdefinition
      have hsteps := workflowSteps_of_get? hdefinition
      refine follows_executeSteps_inScope cfg packet (some deadline)
        (hsteps ▸ List.Subset.refl _) _ _ s ?_
      simp [Progress.start, parentPacket, answerSince]
  · rename_i hdirect
    refine Co.follows_bind (Co.follows_of_within (within_dispatch_handsChild cfg packet _ s)
      (Co.ends_of_forall (fun _ => trivial) _) ?_ ?_)
    · intro es e hes he
      cases e with
      | handed budget target p => exact .direct (Bool.eq_false_of_not_eq_true hdirect) he
      | _ => trivial
    · exact fun _ _ _ _ => ⟨fun _ _ _ => ⟨trivial, trivial⟩, fun _ _ => trivial⟩

lemma follows_execute_inScope (s : GateState Dump) :
    (execute cfg (dispatch cfg) (.ok packet)).Follows L (ScopeRule cfg packet) (fun _ _ => True)
      [] s := by
  refine (follows_execute_of_attempts (A := fun _ => True) (F := fun _ _ => True) cfg packet
    (scopeRule_of_service cfg packet) (fun _ _ => trivial) (fun deadline events s _ => ?_)
    (fun _ _ _ _ _ _ _ => trivial) (fun _ _ => trivial) (fun _ _ _ _ => trivial) s).mono
      fun _ _ _ => trivial
  exact (follows_runOnce_inScope cfg packet deadline events s).mono fun _ _ _ =>
    ⟨trivial, fun _ _ => trivial⟩

end Follows

/-! ### Runs in production -/

/-- The answer that a step is derived from has been recorded. -/
lemma stepAnswered_of_answerSince {events : List (GateEvent Dump)} {answer : TransportPacket}
    (h : answerSince events = some answer) : ∃ step, .stepAnswered step answer ∈ events := by
  induction events using List.reverseRecOn with
  | nil => cases h
  | append_singleton events e ih =>
    rw [answerSince, List.foldl_append, List.foldl_cons, List.foldl_nil] at h
    cases e with
    | attempted q => cases h
    | stepAnswered step q =>
      obtain rfl := Option.some.inj h
      exact ⟨step, by simp⟩
    | _ =>
      obtain ⟨step, hmem⟩ := ih h
      exact ⟨step, List.mem_append_left _ hmem⟩

/-- Where the answers to the steps have the tenant of the request, so has what is handed over. -/
lemma InScope.tenant {cfg : GateConfig Dump} {packet p : TransportPacket}
    {events : List (GateEvent Dump)} (h : InScope cfg packet events p)
    (hanswers : ∀ step answer, .stepAnswered step answer ∈ events →
      answer.tenant = packet.tenant) : p.tenant = packet.tenant := by
  cases h with
  | direct _ hchild => exact hchild.descends.tenant
  | step _ _ hdescends _ _ =>
    rw [hdescends.tenant, parentPacket]
    rcases hanswer : answerSince events with _ | answer
    · rfl
    · obtain ⟨step, hmem⟩ := stepAnswered_of_answerSince hanswer
      exact hanswers step answer hmem

section Runs

variable {Body : Type} (sdk : PacketValidation Body) (settings : GateSettings)

/-- A call for a request body that is validated at a reading of the clock. -/
def IsIngressCall (cfg : GateConfig Dump) (p : Co (gate Dump) TransportPacket) : Prop :=
  ∃ now body, p = execute cfg (dispatch cfg) ((getIngressValidator settings).validate sdk now body)

/-- The request is signed with the verifying key of a policy that has its node, its tenant and its
action. -/
def Authorized (request : TransportPacket) (policy : CallerPolicy) : Prop :=
  ∃ keyId key, request.security.signingKeyId = some keyId ∧
    settings.verifyingKeys.get? keyId = some key ∧ sdk.verifies request key = true ∧
    settings.callerPolicies.get? keyId = some policy ∧
    normalize request.address.sourceNode = policy.node ∧
    normalize request.tenant.orgId ∈ policy.tenants ∧ request.header.action ∈ policy.actions

lemma authorized_of_accepted {sdk : PacketValidation Body} {settings : GateSettings} {now : ℚ}
    {body : Body} {request : TransportPacket}
    (henv : settings.environment ∈ trustRequiredEnvironments)
    (h : (getIngressValidator settings).validate sdk now body = .ok request) :
    ∃ policy, Authorized sdk settings request policy := by
  obtain ⟨-, policy, hsent, haction, keyId, key, hid, hkey, -, hrecord, hverifies⟩ :=
    GateSettings.trusted_of_accepted henv h
  exact ⟨policy, keyId, key, hid, hkey, hverifies, hrecord, hsent.source, hsent.tenant, haction⟩

end Runs

/-- A process with one worker for the action `match`. -/
def matchState : GateState TransportPacket :=
  .fresh (NodeRegistry.oneWorker "worker" "match") none (.stopped 0) ⟨fun _ => 0, 0⟩

/-- The consumer's request waits for the worker. -/
def matchCall : List (Move (gate TransportPacket) TransportPacket) :=
  [.spawn (execute .plain (dispatch .plain) (.ok (consumerPacket "match")))]

/-- An answer of a step is recorded. -/
def GateEvent.isStepAnswer : GateEvent Dump → Bool
  | .stepAnswered _ _ => true
  | _ => false

end ConstellationGate
