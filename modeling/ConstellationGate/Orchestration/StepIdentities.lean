import ConstellationGate.Lib.History
import ConstellationGate.Orchestration.StepTimeouts
import ConstellationGate.Orchestration.WorkflowFootprint
import ConstellationGate.Routing.Advertised

/-!
# The identities of workflow steps

Under which identities the steps of a workflow reach the workers, that is the tenant, the action
and the idempotency key of the packets that are handed over.

The packet of a step is derived from the answer to the step before it, and derived again by the
dispatcher.  Each derivation keeps the tenant and the key, and so does an answer that is derived
from its packet; the engine gives no step a key of its own.  So the action is all that tells two
steps of a run apart (`step_identities_iff`).
-/

namespace ConstellationGate

variable {Dump : Type}

/-- The identity of a packet for a worker: tenant, action and idempotency key. -/
def routingIdentity (packet : TransportPacket) : String × String × Option String :=
  (tenantSegment packet, actionSegment packet, packet.header.idempotencyKey.map Text.strip)

/-- The packet `q` has the tenant and the idempotency key of `p`. -/
structure KeepsIdentity (p q : TransportPacket) : Prop where
  tenant : q.tenant = p.tenant
  idempotencyKey : q.header.idempotencyKey = p.header.idempotencyKey

lemma KeepsIdentity.refl (p : TransportPacket) : KeepsIdentity p p := ⟨rfl, rfl⟩

lemma KeepsIdentity.trans {p q r : TransportPacket} (h : KeepsIdentity p q)
    (h' : KeepsIdentity q r) : KeepsIdentity p r :=
  ⟨h'.tenant.trans h.tenant, h'.idempotencyKey.trans h.idempotencyKey⟩

lemma Derived.keepsIdentity {p q : TransportPacket} {args : DeriveArgs} (h : Derived p args q) :
    KeepsIdentity p q := ⟨h.tenant, h.idempotencyKey⟩

/-- The replies of workers that answer with packets derived from what they were sent. -/
def derivedAnswers : Replies (gate Dump)
  | .send _ packet _, r => ∀ answer, r = .ok answer → KeepsIdentity packet answer
  | _, _ => True

/-! ### Dispatches -/

/-- What a dispatch of `packet` hands over has the tenant, the key and the action of `packet`. -/
def HandsSame (packet : TransportPacket) : GateEvent Dump → Prop
  | .handed _ _ p => KeepsIdentity packet p ∧
      normalize p.header.action = normalize packet.header.action
  | .derived _ _ _ => True
  | _ => False

/-- An outcome that is an answer has the tenant and the key of the packet. -/
def AnswersSame (packet : TransportPacket) (r : Except PyError TransportPacket) : Prop :=
  ∀ answer, r = .ok answer → KeepsIdentity packet answer

lemma AnswersSame.error (packet : TransportPacket) (e : PyError) :
    AnswersSame packet (.error e) := fun _ h => by cases h

section Dispatch

variable {cfg : GateConfig Dump} {packet : TransportPacket} {deadline : Option Deadline}
  {s : GateState Dump} {plan : DispatchPlan}

lemma keepsIdentity_derivePacket (h : (derivePacket cfg packet deadline s).1 = .ok plan) :
    KeepsIdentity packet plan.packet ∧
      normalize plan.packet.header.action = normalize packet.header.action := by
  obtain ⟨-, -, budgetMs, clock, observed, -, ⟨hop, rfl⟩, hderive⟩ := of_derivePacket h
  have hderived := cfg.sdk.derive_ok hderive
  exact ⟨⟨hderived.tenant, hderived.idempotencyKey⟩, hderived.action _ rfl⟩

lemma keepsIdentity_sealPacket {sealed : TransportPacket} (h : sealPacket cfg plan = .ok sealed) :
    KeepsIdentity plan.packet sealed ∧
      normalize sealed.header.action = normalize plan.packet.header.action := by
  obtain ⟨hop, rfl⟩ := of_sealPacket h
  exact ⟨⟨rfl, rfl⟩, rfl⟩

variable (cfg packet deadline)

lemma within_dispatch_handsSame (s : GateState Dump) :
    (dispatch cfg packet deadline).Within (HandsSame packet) (fun _ _ => True) s := by
  refine ⟨trivial, ?_⟩
  rcases hplan : (derivePacket cfg packet deadline s).1 with e | plan
  · trivial
  obtain ⟨hkeeps, haction⟩ := keepsIdentity_derivePacket hplan
  refine within_afterDerive (E := HandsSame packet) (fun _ _ _ => trivial) cfg plan trivial ?_ _
  intro sealed hseal
  obtain ⟨hkeeps', haction'⟩ := keepsIdentity_sealPacket hseal
  exact ⟨hkeeps.trans hkeeps', haction'.trans haction⟩

/-- The network attempt ends with an answer to its packet. -/
lemma ends_sendToWorker_same (target : NodeRegistration) :
    (sendToWorker target packet : Co (gate Dump) TransportPacket).Ends derivedAnswers
      (AnswersSame packet) := by
  have hsend : (sendGateAuthoredPacket target.nodeName packet target.internalUrl :
      Co (gate Dump) TransportPacket).Ends derivedAnswers (AnswersSame packet) := fun r hr => hr
  refine Co.ends_handle.2 (hsend.mono fun r hr => ?_)
  cases r with
  | ok answer => exact hr
  | error exc =>
    simp only
    split
    · exact Co.ends_bind (fun s e _ => .error packet e) fun _ => .error packet _
    · split <;> exact AnswersSame.error packet _

lemma ends_attemptUnderPermit_same (plan : DispatchPlan) :
    (attemptUnderPermit plan packet : Co (gate Dump) _).Ends derivedAnswers
      fun r => ∀ attempt, r = .ok attempt → AnswersSame packet attempt.2 := by
  have hpure : ∀ (permits : Permits) (outcome : Except PyError TransportPacket),
      AnswersSame packet outcome → (pure (permits, outcome) : Co (gate Dump) _).Ends derivedAnswers
        fun r => ∀ attempt, r = .ok attempt → AnswersSame packet attempt.2 := by
    intro permits outcome houtcome attempt heq
    obtain rfl := Except.ok.inj heq
    exact houtcome
  refine Co.ends_handle.2 (Co.ends_attempt (Co.ends_of_forall (fun r => ?_) _))
  rcases r with exc | acquiredLimit
  · exact hpure _ _ (.error packet exc)
  refine Co.ends_handle.2 (Co.ends_attempt (Co.ends_of_forall (fun r => ?_) _))
  rcases r with exc | u
  · exact hpure _ _ (.error packet exc)
  -- the packet is recorded as handed over, and then sent
  change ((sendToWorker plan.target packet).attempt >>= _).Ends _ _
  refine Co.ends_handle.2 (Co.ends_attempt ?_)
  exact (ends_sendToWorker_same packet plan.target).mono fun r hr => hpure _ _ hr

/-- A dispatch ends with an answer to its packet. -/
lemma ends_dispatch_same : (dispatch cfg packet deadline).Ends derivedAnswers
    (AnswersSame packet) := by
  intro s
  change ((Co.done (S := gate Dump) (derivePacket cfg packet deadline s).1).handle _).Ends _ _
  rcases hplan : (derivePacket cfg packet deadline s).1 with e | plan
  · exact AnswersSame.error packet e
  have hkeeps := (keepsIdentity_derivePacket hplan).1
  change (liftExcept (sealPacket cfg plan) >>= _).Ends _ _
  rcases hseal : sealPacket cfg plan with e | sealed
  · exact AnswersSame.error packet e
  have hsealed := hkeeps.trans (keepsIdentity_sealPacket hseal).1
  change (attemptUnderPermit plan sealed >>= _).Ends _ _
  refine Co.ends_handle.2 ((ends_attemptUnderPermit_same sealed plan).mono fun r hr => ?_)
  cases r with
  | error e => exact AnswersSame.error packet e
  | ok attempt =>
    refine Co.ends_bind (Co.ends_of_forall (fun r e _ => .error packet e) _) fun _ => ?_
    exact fun answer heq => hsealed.trans (hr attempt rfl answer heq)

end Dispatch

/-! ### Workflows -/

/-- What a workflow of the given steps for `packet` hands over has the tenant and the key of
`packet`, and the action of the step that it is executing. -/
def Identified (packet : TransportPacket) (steps : List WorkflowStep)
    (events : List (GateEvent Dump)) : GateEvent Dump → Prop
  | .handed _ _ p => KeepsIdentity packet p ∧ ∃ step ∈ steps, currentStep events = some step ∧
      normalize p.header.action = normalize step.action
  | _ => True

lemma currentStep_started (events : List (GateEvent Dump)) (step : WorkflowStep)
    (p : TransportPacket) : currentStep (events ++ [.stepStarted step p]) = some step := by
  simp [currentStep]

/-- While a dispatch records its events the step is the same. -/
lemma currentStep_append {packet : TransportPacket} (events : List (GateEvent Dump))
    {events' : List (GateEvent Dump)} (h : ∀ e ∈ events', HandsSame packet e) :
    currentStep (events ++ events') = currentStep events := by
  have hnone : currentStep events' = none := by
    refine List.findSome?_eq_none_iff.2 fun e he => ?_
    have hsame := h e (List.mem_reverse.1 he)
    cases e <;> first | rfl | cases hsame
  rw [currentStep, List.reverse_append, List.findSome?_append]
  exact (congrArg (·.or (currentStep events)) hnone).trans Option.none_or

lemma follows_executeSteps (cfg : GateConfig Dump) (packet : TransportPacket)
    (deadline : Option Deadline) {steps all : List WorkflowStep} (hsteps : steps ⊆ all)
    (progress : Progress) (hprogress : KeepsIdentity packet progress.currentPacket)
    (events : List (GateEvent Dump)) (s : GateState Dump) :
    (executeSteps cfg (dispatch cfg) packet deadline steps progress).Follows derivedAnswers
      (Identified packet all) (fun _ _ => True) events s := by
  induction steps generalizing progress events s with
  | nil => trivial
  | cons step steps ih =>
    obtain ⟨hstep, hrest⟩ := List.cons_subset.1 hsteps
    rw [executeSteps]
    rcases shouldExecuteStep cfg step progress with e | executed
    · trivial
    cases executed with
    | false => exact ih hrest progress hprogress events s
    | true =>
      refine Co.follows_call_bind (fun p hp => ?_) fun _ _ => trivial
      -- the packet of the step keeps what its parent had
      obtain ⟨hkeeps, haction⟩ : KeepsIdentity packet p ∧
          normalize p.header.action = normalize step.action := by
        rw [deriveStep] at hp
        split at hp
        · cases hp
        have hderived := cfg.sdk.derive_ok hp
        exact ⟨hprogress.trans hderived.keepsIdentity, hderived.action _ rfl⟩
      refine ⟨trivial, Co.follows_bind (Co.follows_of_within
        (within_dispatch_handsSame cfg p deadline _) (ends_dispatch_same cfg p deadline) ?_ ?_)⟩
      · intro es e hes he
        cases e with
        | handed budget target q =>
          refine ⟨hkeeps.trans he.1, step, hstep, ?_, he.2.trans haction⟩
          rw [currentStep_append _ hes, currentStep_started]
        | _ => trivial
      · refine fun es r _ hr => ⟨?_, fun _ _ => trivial⟩
        rintro answer rfl s
        exact ⟨trivial, ih hrest _ (hkeeps.trans (hr answer rfl)) _ _⟩

lemma follows_executeWorkflow (cfg : GateConfig Dump) (packet : TransportPacket)
    (deadline : Option Deadline) (events : List (GateEvent Dump)) (s : GateState Dump) :
    (executeWorkflow cfg (dispatch cfg) packet deadline).Follows derivedAnswers
      (Identified packet (workflowSteps cfg packet.header.action)) (fun _ _ => True) events s := by
  rw [executeWorkflow]
  split
  · trivial
  · rename_i definition hdefinition
    rw [workflowSteps_of_get? hdefinition]
    exact follows_executeSteps cfg packet deadline (List.Subset.refl _) _ (.refl packet) events s

/-! ### Runs -/

/-- A packet was handed to a worker for a step. -/
def HandedIn (events : List (GateEvent Dump)) (step : WorkflowStep) (p : TransportPacket) : Prop :=
  ∃ i budget target, events[i]? = some (.handed budget target p) ∧
    currentStep (events.take i) = some step

/-- Two different steps are not handed to workers under one identity. -/
def DistinctIdentities (events : List (GateEvent Dump)) : Prop :=
  ∀ step p step' p', HandedIn events step p → HandedIn events step' p' → step ≠ step' →
    routingIdentity p ≠ routingIdentity p'

/-- Two different steps that reach workers do not have one action. -/
def DistinctActions (events : List (GateEvent Dump)) : Prop :=
  ∀ step p step' p', HandedIn events step p → HandedIn events step' p' → step ≠ step' →
    normalize step.action ≠ normalize step'.action

/-- The identity of a packet that a workflow hands over. -/
lemma identity_of_handedIn {packet p : TransportPacket} {steps : List WorkflowStep}
    {events : List (GateEvent Dump)} {step : WorkflowStep}
    (hobeys : Obeys (Identified packet steps) events) (h : HandedIn events step p) :
    step ∈ steps ∧ routingIdentity p = (tenantSegment packet, normalize step.action,
      packet.header.idempotencyKey.map Text.strip) := by
  obtain ⟨i, budget, target, hget, hstep⟩ := h
  obtain ⟨hkeeps, step', hmem, hstep', haction⟩ := hobeys.of_getElem? hget
  obtain rfl := Option.some.inj (hstep.symm.trans hstep')
  refine ⟨hmem, ?_⟩
  rw [routingIdentity, tenantSegment, actionSegment, hkeeps.tenant, hkeeps.idempotencyKey, haction]
  rfl

/-- In every run in which workers answer with packets derived from what they were sent, the steps of
a workflow keep distinct identities exactly when the steps that reach workers have distinct
actions, as they have where the workflow gives each of its steps an action of its own. -/
theorem step_identities_iff {cfg : GateConfig Dump} {s : GateState Dump}
    {ms pre : List (Move (gate Dump) TransportPacket)} {tid : ℕ} {packet : TransportPacket}
    {deadline : Option Deadline}
    (h : Pool.Started s ms tid pre (executeWorkflow cfg (dispatch cfg) packet deadline))
    (hreplies : ∀ i reply, .resume i reply ∈ ms → ∀ q, derivedAnswers q (reply q)) :
    (DistinctIdentities (eventsIn tid (runLog s ms)) ↔
      DistinctActions (eventsIn tid (runLog s ms))) ∧
    (((workflowSteps cfg packet.header.action).map fun step => normalize step.action).Nodup →
      DistinctIdentities (eventsIn tid (runLog s ms))) := by
  obtain ⟨t, -, -, hobeys⟩ :=
    h.follows (fun s => follows_executeWorkflow cfg packet deadline [] s) hreplies
  have hiff : DistinctIdentities (eventsIn tid (runLog s ms)) ↔
      DistinctActions (eventsIn tid (runLog s ms)) := by
    refine forall₄_congr fun step p step' p' => ?_
    refine forall₂_congr fun hp hp' => imp_congr_right fun _ => not_congr ?_
    rw [(identity_of_handedIn hobeys hp).2, (identity_of_handedIn hobeys hp').2]
    simp
  refine ⟨hiff, fun hnodup => hiff.2 fun step p step' p' hp hp' hne haction => hne ?_⟩
  exact List.inj_on_of_nodup_map hnodup (identity_of_handedIn hobeys hp).1
    (identity_of_handedIn hobeys hp').1 haction

/-! ### Workflows of two steps -/

/-- What can be read off the packet that is recorded at a position, and off its step. -/
lemma handedIn_of_any (events : List (GateEvent Dump)) (i : ℕ)
    (check : WorkflowStep → TransportPacket → Bool)
    (h : ((events[i]?.bind GateEvent.handed?).any fun h =>
      (currentStep (events.take i)).any fun step => check step h.2) = true) :
    ∃ step p, HandedIn events step p ∧ check step p = true := by
  obtain ⟨⟨target, p⟩, hhanded, hstep⟩ := (Option.any_eq_true _ _).1 h
  obtain ⟨step, hcurrent, hcheck⟩ := (Option.any_eq_true _ _).1 hstep
  obtain ⟨e, hget, he⟩ := Option.bind_eq_some_iff.1 hhanded
  obtain ⟨budget, rfl⟩ := GateEvent.handed?_eq_some.1 he
  exact ⟨step, p, ⟨i, budget, target, hget, hcurrent⟩, hcheck⟩

/-- A worker that answers with a packet derived from what it is sent. -/
def derivedReply : ∀ q : GateRequest, Except PyError q.Reply
  | .limiterYield _ => .ok ()
  | .send _ packet _ => .ok (packet.child 0 {})
  | .retrySleep _ => .ok ()
  | .dispatch packet _ => .ok (packet.child 0 {})

/-- A request for the workflow, with the idempotency key `order-1`. -/
def keyedRequest : TransportPacket := clientPacket "acme" "pipeline" (some "order-1")

lemma derivedReply_derivedAnswers (q : GateRequest) :
    (derivedAnswers : Replies (gate TransportPacket)) q (derivedReply q) := by
  cases q with
  | send nodeName packet workerBaseUrl =>
    intro answer heq
    obtain rfl := Except.ok.inj heq
    exact ⟨rfl, rfl⟩
  | _ => trivial

/-- A workflow of two steps for the request, of which both reach the worker. -/
def bothSteps (cfg : GateConfig TransportPacket) :
    List (Move (gate TransportPacket) TransportPacket) :=
  [.spawn (executeWorkflow cfg (dispatch cfg) keyedRequest none), .resume 0 derivedReply]

lemma bothSteps_started (cfg : GateConfig TransportPacket) (s : GateState TransportPacket) :
    Pool.Started s (bothSteps cfg) 0 [] (executeWorkflow cfg (dispatch cfg) keyedRequest none) :=
  ⟨⟨[.resume 0 derivedReply], rfl⟩, rfl⟩

lemma bothSteps_derivedAnswers (cfg : GateConfig TransportPacket) (i : ℕ)
    (reply : ∀ q : GateRequest, Except PyError q.Reply) (hm : .resume i reply ∈ bothSteps cfg)
    (q : GateRequest) : (derivedAnswers : Replies (gate TransportPacket)) q (reply q) := by
  simp only [bothSteps, List.mem_cons, reduceCtorEq, Move.resume.injEq, List.not_mem_nil,
    or_false, false_or] at hm
  obtain ⟨-, rfl⟩ := hm
  exact derivedReply_derivedAnswers q

/-- Steps that rank and score keep distinct identities, and both reach the worker. -/
theorem step_identities_iff_ranking :
    DistinctIdentities (eventsIn 0 (runLog rankingState (bothSteps .ranking))) ∧
      ∃ step p step' p', step ≠ step' ∧
        HandedIn (eventsIn 0 (runLog rankingState (bothSteps .ranking))) step p ∧
        HandedIn (eventsIn 0 (runLog rankingState (bothSteps .ranking))) step' p' := by
  have hdistinct := (step_identities_iff (bothSteps_started .ranking rankingState)
    (bothSteps_derivedAnswers .ranking)).2 (by decide +kernel)
  refine ⟨hdistinct, ?_⟩
  obtain ⟨step, p, hhanded, hname⟩ := handedIn_of_any
    (eventsIn 0 (runLog rankingState (bothSteps .ranking))) 2
    (fun step _ => step.name = "first") (by decide +kernel)
  obtain ⟨step', p', hhanded', hname'⟩ := handedIn_of_any
    (eventsIn 0 (runLog rankingState (bothSteps .ranking))) 6
    (fun step _ => step.name = "second") (by decide +kernel)
  refine ⟨step, p, step', p', ?_, hhanded, hhanded'⟩
  rintro rfl
  exact absurd ((of_decide_eq_true hname).symm.trans (of_decide_eq_true hname')) (by decide)

/-- Two steps that call the action `score`. -/
def scoreTwice : List WorkflowStep :=
  [{ name := "first"
     action := "score"
     name_stripped := first_stripped
     action_stripped := score_stripped
     condition_stripped := noCondition_stripped
     one_le_timeoutMs := one_le_noTimeout },
   { name := "second"
     action := "score"
     name_stripped := second_stripped
     action_stripped := score_stripped
     condition_stripped := noCondition_stripped
     one_le_timeoutMs := one_le_noTimeout }]

lemma scoreTwice_ne : scoreTwice ≠ [] := List.cons_ne_nil _ _

lemma scoreTwice_nodup : (scoreTwice.map fun step => normalize step.name).Nodup := by
  decide +kernel

/-- The settings with the workflow `pipeline` of those steps. -/
def scoringTwiceConfig : GateConfig TransportPacket :=
  .standard .plain "gate" (Dict.empty.set "pipeline"
    { name := "pipeline"
      steps := scoreTwice
      steps_ne := scoreTwice_ne
      names_nodup := scoreTwice_nodup }) fun _ _ => .ok true

/-- The two steps are handed to the worker under one identity. -/
theorem step_identities_collide :
    ¬ ∀ (cfg : GateConfig TransportPacket) (s : GateState TransportPacket) ms tid pre packet
      deadline, Pool.Started s ms tid pre (executeWorkflow cfg (dispatch cfg) packet deadline) →
      packet.header.idempotencyKey.isSome →
      (∀ i reply, .resume i reply ∈ ms → ∀ q,
        (derivedAnswers : Replies (gate TransportPacket)) q (reply q)) →
      DistinctIdentities (eventsIn tid (runLog s ms)) := by
  intro h
  have hdistinct := h _ _ _ _ _ _ _ (bothSteps_started scoringTwiceConfig scoringState) rfl
    (bothSteps_derivedAnswers scoringTwiceConfig)
  obtain ⟨step, p, hhanded, hcheck⟩ := handedIn_of_any
    (eventsIn 0 (runLog scoringState (bothSteps scoringTwiceConfig))) 2
    (fun step p => step.name = "first" ∧
      routingIdentity p = ("acme", "score", some "order-1")) (by decide +kernel)
  obtain ⟨step', p', hhanded', hcheck'⟩ := handedIn_of_any
    (eventsIn 0 (runLog scoringState (bothSteps scoringTwiceConfig))) 6
    (fun step p => step.name = "second" ∧
      routingIdentity p = ("acme", "score", some "order-1")) (by decide +kernel)
  obtain ⟨hname, hidentity⟩ := of_decide_eq_true hcheck
  obtain ⟨hname', hidentity'⟩ := of_decide_eq_true hcheck'
  refine hdistinct step p step' p' hhanded hhanded' ?_ (hidentity.trans hidentity'.symm)
  rintro rfl
  exact absurd (hname.symm.trans hname') (by decide)

end ConstellationGate
