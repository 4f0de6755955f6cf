import ConstellationGate.Api.Errors
import ConstellationGate.Boundary.IngressValidator
import ConstellationGate.Services.ExecuteService

/-!
# The classes of the exceptions of a call

Which exceptions the parts of an execute call raise, by the classes that `api/errors.py` answers
alike: refusals of the ingress validator and of admission control, refusals to route, timeouts, and
exceptions for other reasons.
-/

namespace ConstellationGate

variable {Dump : Type} {α β : Type}

/-- What is raised is of one of the classes. -/
def RaisesIn (classes : List ErrorClass) (x : Except PyError α) : Prop :=
  ∀ e, x = .error e → e.cls ∈ classes

namespace RaisesIn

variable {C D : List ErrorClass}

lemma ok (a : α) : RaisesIn C (.ok a : Except PyError α) := fun e h => by cases h

lemma error {e : PyError} (h : e.cls ∈ C) : RaisesIn C (.error e : Except PyError α) := by
  rintro e' ⟨⟩
  exact h

lemma raise {cls : ErrorClass} {message : String} {nodeName : Option String} {timer : Bool}
    (h : cls ∈ C) : RaisesIn C (.error ⟨cls, message, nodeName, timer⟩ : Except PyError α) :=
  error h

lemma bind {x : Except PyError α} {f : α → Except PyError β} (hx : RaisesIn C x)
    (hf : ∀ a, RaisesIn C (f a)) : RaisesIn C (x >>= f) := by
  cases x with
  | error e => exact error (hx e rfl)
  | ok a => exact hf a

lemma mono {x : Except PyError α} (h : RaisesIn C x) (hCD : C ⊆ D) : RaisesIn D x :=
  fun e he => hCD (h e he)

end RaisesIn

/-- The classes of what Gate raises before it hands a packet over. -/
def localErrors : List ErrorClass :=
  [.noHealthyNodeError, .routingPolicyError] ++ (plainErrors ++ timeoutErrors)

lemma plainErrors_subset : plainErrors ⊆ localErrors := by decide

lemma timedErrors_subset : plainErrors ++ timeoutErrors ⊆ localErrors := by decide

/-! ### Routing -/

lemma NodeRegistry.raisesIn_resolveAction (reg : NodeRegistry) (action : String) :
    RaisesIn localErrors (reg.resolveAction action) := by
  rw [resolveAction]
  split
  · exact .raise (by decide)
  split
  · exact .ok _
  split
  · exact .raise (by decide)
  · exact .raise (by decide)

lemma NodeRegistry.raisesIn_resolveDestination (reg : NodeRegistry) (nodeName : String) :
    RaisesIn localErrors (reg.resolveDestination nodeName) := by
  rw [resolveDestination]
  split
  · exact .raise (by decide)
  split
  · exact .raise (by decide)
  split
  · exact .ok _
  · exact .raise (by decide)

lemma raisesIn_resolvePacket (registry : NodeRegistry) (gateNode : String)
    (packet : TransportPacket) : RaisesIn localErrors (resolvePacket registry gateNode packet) := by
  rw [resolvePacket]
  split
  · rw [resolveGateBound]
    split
    · exact .raise (by decide)
    · exact NodeRegistry.raisesIn_resolveAction _ _
  split
  · rw [resolveGateDispatch]
    split
    · exact .raise (by decide)
    split
    · exact .raise (by decide)
    split
    · exact .raise (by decide)
    · exact NodeRegistry.raisesIn_resolveDestination _ _
  · exact .raise (by decide)

lemma raisesIn_validateGateDispatchPolicy (packet : TransportPacket) (gateNode : String) :
    RaisesIn localErrors (validateGateDispatchPolicy packet gateNode) := by
  rw [validateGateDispatchPolicy]
  simp only
  split
  · exact .raise (by decide)
  split
  · exact .raise (by decide)
  split
  · exact .raise (by decide)
  split
  · exact .raise (by decide)
  · exact .ok _

/-! ### Counters and limits -/

lemma NodeRegistry.raisesIn_updateNode (reg : NodeRegistry) (nodeName : String)
    {f : NodeRegistration → Except PyError NodeRegistration}
    (hf : ∀ r, RaisesIn plainErrors (f r)) :
    RaisesIn plainErrors (reg.updateNode nodeName f).1 := by
  rw [updateNode]
  split
  · exact .raise (by decide)
  · rename_i r _
    split
    · rename_i e he
      exact .error (hf r e he)
    · exact .ok _

lemma NodeRegistry.raisesIn_incrementActive (reg : NodeRegistry) (nodeName : String) :
    RaisesIn plainErrors (reg.incrementActive nodeName).1 := by
  refine reg.raisesIn_updateNode nodeName fun r => ?_
  split
  · exact .raise (by decide)
  · exact .ok _

lemma PerNodeLimiterManager.raisesIn_ensureNodeLimit (m : PerNodeLimiterManager)
    (nodeName : String) (maxConcurrent : ℕ) :
    RaisesIn plainErrors (m.ensureNodeLimit nodeName maxConcurrent).1 := by
  rw [ensureNodeLimit]
  split
  · exact .raise (by decide)
  split
  · exact .raise (by decide)
  · exact .ok _

lemma PerNodeLimiterManager.raisesIn_reserve (m : PerNodeLimiterManager) (nodeName : String) :
    RaisesIn plainErrors (m.reserve nodeName).1 := by
  rw [reserve]
  simp only
  split
  · exact .raise (by decide)
  split
  · exact .raise (by decide)
  · exact .ok _

lemma PerNodeLimiterManager.raisesIn_release (m : PerNodeLimiterManager) (nodeName : String) :
    RaisesIn plainErrors (m.release nodeName).1 := by
  rw [release]
  split
  · exact .raise (by decide)
  · exact .ok _

lemma raisesIn_onLimits {f : PerNodeLimiterManager → Except PyError Unit × PerNodeLimiterManager}
    (hf : ∀ m, RaisesIn plainErrors (f m).1) (s : GateState Dump) :
    RaisesIn plainErrors (onLimits f s).1 := by
  rw [onLimits]
  split
  · exact .ok _
  · exact hf _

/-! ### Budgets -/

lemma Deadline.raisesIn_raiseIfExpired (d : Deadline) (now : ℚ) (stage : String) :
    RaisesIn (plainErrors ++ timeoutErrors) (d.raiseIfExpired now stage) := by
  rw [raiseIfExpired]
  split
  · exact .raise (by decide)
  · exact .ok _

lemma raisesIn_budgetInMs (budgetSeconds : ℚ) :
    RaisesIn (plainErrors ++ timeoutErrors) (budgetInMs budgetSeconds) := by
  rw [budgetInMs]
  split
  · exact .raise (by decide)
  · exact .ok _

lemma raisesIn_workerBudgetMs (nodeTimeoutMs : ℕ) (deadline : Option Deadline)
    (clock : MonotonicClock) :
    RaisesIn (plainErrors ++ timeoutErrors) (workerBudgetMs nodeTimeoutMs deadline clock).1 := by
  rcases deadline with _ | d
  · exact raisesIn_budgetInMs _
  rw [workerBudgetMs]
  split
  · rename_i e he
    exact .error (d.raisesIn_raiseIfExpired _ _ e he)
  split
  · rename_i e he
    rw [Deadline.boundedBy] at he
    split at he
    · obtain rfl := Except.error.inj he
      exact .raise (by decide)
    · cases he
  · exact raisesIn_budgetInMs _

lemma raisesIn_stepTimeoutMs (stepTimeout packetTimeout : Option ℕ) (deadline : Option Deadline)
    (clock : MonotonicClock) :
    RaisesIn (plainErrors ++ timeoutErrors)
      (stepTimeoutMs stepTimeout packetTimeout deadline clock).1 := by
  rcases deadline with _ | d
  · exact .ok _
  rw [stepTimeoutMs]
  split
  · rename_i e he
    exact .error (d.raisesIn_raiseIfExpired _ _ e he)
  · exact .ok _

/-! ### The service -/

lemma raisesIn_passAdmission (cfg : GateConfig Dump) (packet : TransportPacket)
    (s : GateState Dump) :
    RaisesIn (admissionErrors ++ plainErrors) (passAdmission cfg packet s).1 := by
  rw [passAdmission]
  simp only
  split
  · rename_i e he
    refine .error ?_
    rw [FixedWindowRateLimiter.cls_of_allow he]
    decide
  split
  · rename_i e he
    refine .error ?_
    rcases LoadSheddingPolicy.le_of_enforce he with hcls | ⟨hcls, -⟩
    · rw [hcls]
      decide
    · rw [hcls]
      decide
  split
  · rename_i e he
    refine .error ?_
    rcases BackpressurePolicy.cls_of_enforce he with hcls | hcls
    · rw [hcls]
      decide
    · rw [hcls]
      decide
  split
  · rename_i e he
    refine .error ?_
    rw [CircuitBreaker.cls_of_beforeCall he]
    decide
  · exact .ok _

lemma raisesIn_guardReplay (packet : TransportPacket) (s : GateState Dump) :
    RaisesIn plainErrors (guardReplay packet s).1 := by
  rw [guardReplay, ReplayGuard.checkAndRecord]
  simp only
  split
  · exact .ok _
  split
  · exact .raise (by decide)
  · exact .ok _

lemma raisesIn_startDeadline (cfg : GateConfig Dump) (packet : TransportPacket)
    (s : GateState Dump) : RaisesIn plainErrors (startDeadline cfg packet s).1 := by
  rw [startDeadline, TimeoutPolicy.startDeadline, TimeoutPolicy.resolve, floatOfNat]
  by_cases hfits : cfg.timeoutPolicy.budgetMs packet < Binary64.overflowThreshold
  · rw [if_pos hfits]
    simp only [bind, Except.bind, pure, Except.pure, Deadline.start]
    split
    · exact .ok _
    · exact .raise (by decide)
  · rw [if_neg hfits]
    exact .raise (by decide)

/-- What is no `Exception` is of a plain class. -/
lemma plain_of_not_isException {e : PyError} (h : e.isException = false) :
    e.cls ∈ plainErrors := by
  have hclass : ∀ c : ErrorClass, ErrorClass.exception ∈ c.mro ∨ c ∈ plainErrors := by
    intro c
    cases c <;> decide
  refine (hclass e.cls).resolve_left fun hmem => ?_
  have hexc : e.isException = true :=
    List.any_eq_true.2 ⟨_, hmem, decide_eq_true (List.mem_singleton_self _)⟩
  rw [h] at hexc
  cases hexc

lemma IngressValidator.raisesIn_validate {Body : Type} (sdk : PacketValidation Body)
    (v : IngressValidator) (now : ℚ) (body : Body) :
    RaisesIn (ingressErrors ++ plainErrors) (v.validate sdk now body) := by
  refine .bind ?_ fun packet => ?_
  · rw [validatePacket]
    split
    · exact .ok _
    · split
      · exact .raise (by decide)
      · rename_i hexc
        exact .error (List.mem_append_right _
          (plain_of_not_isException (Bool.eq_false_of_not_eq_true hexc)))
  · split
    · exact .raise (by decide)
    · refine .bind (.bind ?_ fun _ => .ok _) fun _ => .ok _
      rw [resolveCallerPolicy]
      simp only
      split
      · exact .ok _
      split
      · exact .raise (by decide)
      split
      · exact .raise (by decide)
      split
      · exact .raise (by decide)
      split
      · exact .raise (by decide)
      split
      · exact .raise (by decide)
      · exact .ok _

/-! ### Collaborators -/

/-- The collaborators of a call that are not part of Gate raise plain exceptions only: no refusals
of Gate's own, no timeouts and no dispatch failures. -/
structure RaisesPlain (cfg : GateConfig Dump) : Prop where
  derive : ∀ n p args, RaisesIn plainErrors (cfg.sdk.derive n p args)
  withHop : ∀ p hop, RaisesIn plainErrors (cfg.sdk.withHop p hop)
  makeIngressHop : ∀ p node action status,
    RaisesIn plainErrors (cfg.sdk.makeIngressHop p node action status)
  makeDispatchHop : ∀ p node action target status,
    RaisesIn plainErrors (cfg.sdk.makeDispatchHop p node action target status)
  modelValidate : ∀ dump, RaisesIn plainErrors (cfg.sdk.modelValidate dump)
  evaluate : ∀ condition context, RaisesIn plainErrors (cfg.evaluate condition context)

section Collaborators

variable {cfg : GateConfig Dump} (hcfg : RaisesPlain cfg)
include hcfg

lemma raisesIn_derivePacket (packet : TransportPacket) (deadline : Option Deadline)
    (s : GateState Dump) : RaisesIn localErrors (derivePacket cfg packet deadline s).1 := by
  rw [derivePacket]
  split
  · rename_i e he
    exact .error (raisesIn_resolvePacket _ _ _ e he)
  rename_i target _
  have hbudget := raisesIn_workerBudgetMs target.timeoutMs deadline s.monotonic
  split
  · rename_i e clock he
    rw [he] at hbudget
    exact .error (timedErrors_subset (hbudget e rfl))
  simp only
  split
  · rename_i e he
    refine .error (plainErrors_subset (RaisesIn.bind (hcfg.makeIngressHop _ _ _ _) ?_ e he))
    exact fun hop => .bind (hcfg.withHop _ _) fun observed => hcfg.derive _ _ _
  · exact .ok _

lemma raisesIn_sealPacket (plan : DispatchPlan) : RaisesIn localErrors (sealPacket cfg plan) := by
  refine .bind ((hcfg.makeDispatchHop _ _ _ _ _).mono plainErrors_subset) fun hop => ?_
  refine .bind ((hcfg.withHop _ _).mono plainErrors_subset) fun packet => ?_
  exact .bind (raisesIn_validateGateDispatchPolicy _ _) fun u => .ok _

lemma raisesIn_shouldExecuteStep (step : WorkflowStep) (progress : Progress) :
    RaisesIn plainErrors (shouldExecuteStep cfg step progress) := by
  rw [shouldExecuteStep]
  split
  · exact .ok _
  · exact hcfg.evaluate _ _

lemma raisesIn_deriveStep (packet : TransportPacket) (deadline : Option Deadline)
    (step : WorkflowStep) (progress : Progress) (s : GateState Dump) :
    RaisesIn (plainErrors ++ timeoutErrors) (deriveStep cfg packet deadline step progress s).1 := by
  have htimeout := raisesIn_stepTimeoutMs step.timeoutMs
    progress.currentPacket.header.timeoutMs deadline s.monotonic
  rw [deriveStep]
  split
  · rename_i e clock he
    rw [he] at htimeout
    exact .error (htimeout e rfl)
  · exact (hcfg.derive _ _ _).mono (List.subset_append_left _ _)

end Collaborators

/-- The plainest collaborators raise nothing. -/
lemma raisesPlain_plain : RaisesPlain GateConfig.plain where
  derive _ _ _ := .ok _
  withHop _ _ := .ok _
  makeIngressHop _ _ _ _ := .ok _
  makeDispatchHop _ _ _ _ _ := .ok _
  modelValidate _ := .ok _
  evaluate _ _ := .ok _

end ConstellationGate
