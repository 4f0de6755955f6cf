import ConstellationGate.Lib.Outcome
import ConstellationGate.Services.ExecuteService

/-!
# The exceptions of an execution

When nobody cancels a call, the work on its packet fails only with an `Exception`, which the
execute service records: every exception that Gate raises itself is one, and the cancellation by
which `wait_for` ends the work becomes a `TimeoutError` (`ends_waitFor`).
-/

namespace ConstellationGate

variable {Dump : Type} {α β : Type}

/-! ### Computations that raise exceptions only -/

/-- What is raised is an `Exception`. -/
def OnlyExceptions (x : Except PyError α) : Prop := ∀ e, x = .error e → e.isException = true

namespace OnlyExceptions

lemma ok (a : α) : OnlyExceptions (.ok a : Except PyError α) := fun e h => by cases h

lemma error {e : PyError} (h : e.isException = true) :
    OnlyExceptions (.error e : Except PyError α) := by
  rintro e' heq
  obtain rfl := Except.error.inj heq
  exact h

lemma bind {x : Except PyError α} {f : α → Except PyError β} (hx : OnlyExceptions x)
    (hf : ∀ a, OnlyExceptions (f a)) : OnlyExceptions (x >>= f) := by
  cases x with
  | error e => exact error (hx e rfl)
  | ok a => exact hf a

end OnlyExceptions

lemma NodeRegistry.onlyExceptions_resolveAction (reg : NodeRegistry) (action : String) :
    OnlyExceptions (reg.resolveAction action) := by
  rw [resolveAction]
  split
  · exact .error rfl
  split
  · exact .ok _
  split
  · exact .error rfl
  · exact .error rfl

lemma NodeRegistry.onlyExceptions_resolveDestination (reg : NodeRegistry) (nodeName : String) :
    OnlyExceptions (reg.resolveDestination nodeName) := by
  rw [resolveDestination]
  split
  · exact .error rfl
  split
  · exact .error rfl
  split
  · exact .ok _
  · exact .error rfl

lemma onlyExceptions_resolvePacket (registry : NodeRegistry) (gateNode : String)
    (packet : TransportPacket) : OnlyExceptions (resolvePacket registry gateNode packet) := by
  rw [resolvePacket]
  split
  · rw [resolveGateBound]
    split
    · exact .error rfl
    · exact NodeRegistry.onlyExceptions_resolveAction _ _
  split
  · rw [resolveGateDispatch]
    split
    · exact .error rfl
    split
    · exact .error rfl
    split
    · exact .error rfl
    · exact NodeRegistry.onlyExceptions_resolveDestination _ _
  · exact .error rfl

lemma NodeRegistry.onlyExceptions_updateNode (reg : NodeRegistry) (nodeName : String)
    {f : NodeRegistration → Except PyError NodeRegistration} (hf : ∀ r, OnlyExceptions (f r)) :
    OnlyExceptions (reg.updateNode nodeName f).1 := by
  rw [updateNode]
  split
  · exact .error rfl
  · rename_i r _
    split
    · rename_i e he
      exact .error (hf r e he)
    · exact .ok _

lemma NodeRegistry.onlyExceptions_incrementActive (reg : NodeRegistry) (nodeName : String) :
    OnlyExceptions (reg.incrementActive nodeName).1 := by
  refine reg.onlyExceptions_updateNode nodeName fun r => ?_
  split
  · exact .error rfl
  · exact .ok _

lemma PerNodeLimiterManager.onlyExceptions_ensureNodeLimit (m : PerNodeLimiterManager)
    (nodeName : String) (maxConcurrent : ℕ) :
    OnlyExceptions (m.ensureNodeLimit nodeName maxConcurrent).1 := by
  rw [ensureNodeLimit]
  split
  · exact .error rfl
  split
  · exact .error rfl
  · exact .ok _

lemma PerNodeLimiterManager.onlyExceptions_reserve (m : PerNodeLimiterManager) (nodeName : String) :
    OnlyExceptions (m.reserve nodeName).1 := by
  rw [reserve]
  simp only
  split
  · exact .error rfl
  split
  · exact .error rfl
  · exact .ok _

lemma PerNodeLimiterManager.onlyExceptions_release (m : PerNodeLimiterManager) (nodeName : String) :
    OnlyExceptions (m.release nodeName).1 := by
  rw [release]
  split
  · exact .error rfl
  · exact .ok _

lemma onlyExceptions_onLimits
    {f : PerNodeLimiterManager → Except PyError Unit × PerNodeLimiterManager}
    (hf : ∀ m, OnlyExceptions (f m).1) (s : GateState Dump) : OnlyExceptions (onLimits f s).1 := by
  rw [onLimits]
  split
  · exact .ok _
  · exact hf _

lemma Deadline.onlyExceptions_raiseIfExpired (d : Deadline) (now : ℚ) (stage : String) :
    OnlyExceptions (d.raiseIfExpired now stage) := by
  rw [raiseIfExpired]
  split
  · exact .error rfl
  · exact .ok _

lemma onlyExceptions_budgetInMs (budgetSeconds : ℚ) :
    OnlyExceptions (budgetInMs budgetSeconds) := by
  rw [budgetInMs]
  split
  · exact .error rfl
  · exact .ok _

lemma onlyExceptions_workerBudgetMs (nodeTimeoutMs : ℕ) (deadline : Option Deadline)
    (clock : MonotonicClock) :
    OnlyExceptions (workerBudgetMs nodeTimeoutMs deadline clock).1 := by
  rcases deadline with _ | d
  · exact onlyExceptions_budgetInMs _
  rw [workerBudgetMs]
  split
  · rename_i e he
    exact .error (d.onlyExceptions_raiseIfExpired _ _ e he)
  split
  · rename_i e he
    rw [Deadline.boundedBy] at he
    split at he
    · obtain rfl := Except.error.inj he
      exact .error rfl
    · cases he
  · exact onlyExceptions_budgetInMs _

lemma onlyExceptions_stepTimeoutMs (stepTimeout packetTimeout : Option ℕ)
    (deadline : Option Deadline) (clock : MonotonicClock) :
    OnlyExceptions (stepTimeoutMs stepTimeout packetTimeout deadline clock).1 := by
  rcases deadline with _ | d
  · exact .ok _
  rw [stepTimeoutMs]
  split
  · rename_i e he
    exact .error (d.onlyExceptions_raiseIfExpired _ _ e he)
  · exact .ok _

lemma onlyExceptions_validateGateDispatchPolicy (packet : TransportPacket) (gateNode : String) :
    OnlyExceptions (validateGateDispatchPolicy packet gateNode) := by
  rw [validateGateDispatchPolicy]
  simp only
  split
  · exact .error rfl
  split
  · exact .error rfl
  split
  · exact .error rfl
  split
  · exact .error rfl
  · exact .ok _

lemma RetryPolicy.onlyExceptions_decisionFor (policy : RetryPolicy) (attempt : ℕ) (exc : PyError) :
    OnlyExceptions (policy.decisionFor attempt exc) := by
  rw [decisionFor]
  split
  · exact .error rfl
  split
  · exact .ok _
  rw [floatPow]
  split
  · exact .ok _
  · exact .error rfl

/-- The collaborators that are not part of Gate raise `Exception`s only. -/
structure RaisesExceptions (cfg : GateConfig Dump) : Prop where
  derive : ∀ n p args, OnlyExceptions (cfg.sdk.derive n p args)
  withHop : ∀ p hop, OnlyExceptions (cfg.sdk.withHop p hop)
  makeIngressHop : ∀ p node action status,
    OnlyExceptions (cfg.sdk.makeIngressHop p node action status)
  makeDispatchHop : ∀ p node action target status,
    OnlyExceptions (cfg.sdk.makeDispatchHop p node action target status)
  evaluate : ∀ condition context, OnlyExceptions (cfg.evaluate condition context)

section Collaborators

variable {cfg : GateConfig Dump} (hcfg : RaisesExceptions cfg)
include hcfg

lemma onlyExceptions_derivePacket (packet : TransportPacket) (deadline : Option Deadline)
    (s : GateState Dump) : OnlyExceptions (derivePacket cfg packet deadline s).1 := by
  rw [derivePacket]
  split
  · rename_i e he
    exact .error (onlyExceptions_resolvePacket _ _ _ e he)
  rename_i target _
  have hbudget := onlyExceptions_workerBudgetMs target.timeoutMs deadline s.monotonic
  split
  · rename_i e clock he
    rw [he] at hbudget
    exact .error (hbudget e rfl)
  simp only
  split
  · rename_i e he
    refine .error (OnlyExceptions.bind (hcfg.makeIngressHop _ _ _ _) (fun hop => ?_) e he)
    exact .bind (hcfg.withHop _ _) fun observed => hcfg.derive _ _ _
  · exact .ok _

lemma onlyExceptions_sealPacket (plan : DispatchPlan) : OnlyExceptions (sealPacket cfg plan) := by
  refine .bind (hcfg.makeDispatchHop _ _ _ _ _) fun hop => .bind (hcfg.withHop _ _) fun packet => ?_
  exact .bind (onlyExceptions_validateGateDispatchPolicy _ _) fun u => .ok _

lemma onlyExceptions_shouldExecuteStep (step : WorkflowStep) (progress : Progress) :
    OnlyExceptions (shouldExecuteStep cfg step progress) := by
  rw [shouldExecuteStep]
  split
  · exact .ok _
  · exact hcfg.evaluate _ _

lemma onlyExceptions_deriveStep (packet : TransportPacket) (deadline : Option Deadline)
    (step : WorkflowStep) (progress : Progress) (s : GateState Dump) :
    OnlyExceptions (deriveStep cfg packet deadline step progress s).1 := by
  have htimeout := onlyExceptions_stepTimeoutMs step.timeoutMs
    progress.currentPacket.header.timeoutMs deadline s.monotonic
  rw [deriveStep]
  split
  · rename_i e clock he
    rw [he] at htimeout
    exact .error (htimeout e rfl)
  · exact hcfg.derive _ _ _

end Collaborators

/-! ### Programs that fail -/

/-- An exception of an execution that nobody cancels: an `Exception`, or the cancellation by the
timer of `wait_for`. -/
def PyError.Fails (e : PyError) : Prop :=
  e.isException = true ∨ e.cls = .cancelledError ∧ e.timer = true

/-- An outcome of such an execution. -/
def Failing (r : Except PyError α) : Prop := ∀ e, r = .error e → e.Fails

lemma Failing.ok (a : α) : Failing (.ok a : Except PyError α) := fun e h => by cases h

lemma Failing.error {e : PyError} (h : e.Fails) : Failing (.error e : Except PyError α) := by
  rintro e' heq
  obtain rfl := Except.error.inj heq
  exact h

lemma OnlyExceptions.failing {r : Except PyError α} (h : OnlyExceptions r) : Failing r :=
  fun e he => Or.inl (h e he)

/-- The replies in an environment that cancels no call. -/
def uncancelled : Replies (gate Dump) := fun _ r => Failing r

section Ends

lemma ends_failing_bind {p : Co (gate Dump) α} {f : α → Co (gate Dump) β}
    (hp : p.Ends uncancelled Failing) (hf : ∀ a, (f a).Ends uncancelled Failing) :
    (p >>= f).Ends uncancelled Failing :=
  Co.ends_bind (hp.mono fun _ hr e he => .error (hr e he)) hf

lemma ends_attempt_bind {p : Co (gate Dump) α} (hp : p.Ends uncancelled Failing)
    {f : Except PyError α → Co (gate Dump) β} {P : Except PyError β → Prop}
    (hf : ∀ r, Failing r → (f r).Ends uncancelled P) : (p.attempt >>= f).Ends uncancelled P :=
  Co.ends_handle.2 (Co.ends_attempt (hp.mono hf))

lemma ends_acquireLimit (target : NodeRegistration) :
    (acquireLimit target : Co (gate Dump) Bool).Ends uncancelled Failing := by
  refine ends_failing_bind (fun s => .ok _) fun limited => ?_
  cases limited with
  | false => exact .ok _
  | true =>
    refine ends_failing_bind (fun s => (onlyExceptions_onLimits
      (fun m => m.onlyExceptions_ensureNodeLimit _ _) s).failing) fun u => ?_
    refine ends_failing_bind (fun s => (onlyExceptions_onLimits
      (fun m => m.onlyExceptions_reserve _) s).failing) fun u => ?_
    exact ends_failing_bind (fun r hr => hr) fun u => .ok _

/-- The handlers of the dispatcher raise what they catch. -/
lemma ends_sendToWorker (target : NodeRegistration) (packet : TransportPacket) :
    (sendToWorker target packet : Co (gate Dump) TransportPacket).Ends uncancelled Failing := by
  have hsend : (sendGateAuthoredPacket target.nodeName packet target.internalUrl :
      Co (gate Dump) TransportPacket).Ends uncancelled Failing := fun r hr => hr
  refine Co.ends_handle.2 (hsend.mono fun r hr => ?_)
  cases r with
  | ok answer => exact .ok _
  | error exc =>
    have hexc := hr exc rfl
    simp only
    split
    · have hmark : ∀ s : GateState Dump, Failing
          (onRegistry (fun reg => reg.markUnhealthy target.nodeName) s).1 := fun s =>
        (s.registry.onlyExceptions_updateNode _ fun r => .ok _).failing
      exact ends_failing_bind hmark fun u => .error hexc
    · split
      · exact Failing.error hexc
      · exact Failing.error hexc

lemma ends_giveBack (target : NodeRegistration) (permits : Permits) :
    (giveBack target permits : Co (gate Dump) Unit).Ends uncancelled Failing := by
  have hrelease : (if permits.acquiredLimit then
      Co.call (S := gate Dump) (onLimits fun m => m.release target.nodeName)
        else pure ()).Ends uncancelled Failing := by
    split
    · exact fun s => (onlyExceptions_onLimits (fun m => m.onlyExceptions_release _) s).failing
    · exact Failing.ok _
  rw [giveBack]
  split
  · have hdecrement : ∀ s : GateState Dump, Failing
        (onRegistry (fun reg => reg.decrementActive target.nodeName) s).1 := fun s =>
      (s.registry.onlyExceptions_updateNode _ fun r => .ok _).failing
    exact ends_failing_bind hdecrement fun u => hrelease
  · exact hrelease

/-- The `try` block catches what its parts raise. -/
lemma ends_attemptUnderPermit (plan : DispatchPlan) (packet : TransportPacket) :
    (attemptUnderPermit plan packet : Co (gate Dump) _).Ends uncancelled
      fun r => Failing r ∧ ∀ attempt, r = .ok attempt → Failing attempt.2 := by
  have hpure : ∀ (permits : Permits) (outcome : Except PyError TransportPacket), Failing outcome →
      (pure (permits, outcome) : Co (gate Dump) _).Ends uncancelled
        fun r => Failing r ∧ ∀ attempt, r = .ok attempt → Failing attempt.2 := by
    intro permits outcome houtcome
    refine ⟨.ok _, fun attempt heq => ?_⟩
    obtain rfl := Except.ok.inj heq
    exact houtcome
  refine ends_attempt_bind (ends_acquireLimit plan.target) fun r hr => ?_
  cases r with
  | error exc => exact hpure _ _ (.error (hr exc rfl))
  | ok acquiredLimit =>
    have hincrement : (Co.call (S := gate Dump) (onRegistry fun reg =>
        reg.incrementActive plan.target.nodeName)).Ends uncancelled Failing := fun s =>
      (s.registry.onlyExceptions_incrementActive _).failing
    refine ends_attempt_bind hincrement fun r hr => ?_
    cases r with
    | error exc => exact hpure _ _ (.error (hr exc rfl))
    | ok u =>
      exact ends_attempt_bind (ends_sendToWorker plan.target packet) fun r hr => hpure _ _ hr

/-- A dispatch that nobody cancels fails as its parts do. -/
lemma ends_dispatch {cfg : GateConfig Dump} (hcfg : RaisesExceptions cfg) (packet : TransportPacket)
    (deadline : Option Deadline) : (dispatch cfg packet deadline).Ends uncancelled Failing := by
  refine ends_failing_bind
    (fun s => (onlyExceptions_derivePacket hcfg packet deadline s).failing) fun plan => ?_
  refine ends_failing_bind (.ok _) fun u => ?_
  refine ends_failing_bind (onlyExceptions_sealPacket hcfg plan).failing fun dispatchPacket => ?_
  refine Co.ends_handle.2 ((ends_attemptUnderPermit plan dispatchPacket).mono fun r hr => ?_)
  cases r with
  | error e => exact Failing.error (hr.1 e rfl)
  | ok attempt =>
    exact ends_failing_bind (ends_giveBack plan.target attempt.1) fun u => hr.2 attempt rfl

/-- So does a workflow over such a dispatcher. -/
lemma ends_executeSteps {cfg : GateConfig Dump} (hcfg : RaisesExceptions cfg)
    {dispatcher : TransportPacket → Option Deadline → Co (gate Dump) TransportPacket}
    (packet : TransportPacket) (deadline : Option Deadline)
    (hdispatch : ∀ p, (dispatcher p deadline).Ends uncancelled Failing)
    (steps : List WorkflowStep) (progress : Progress) :
    (executeSteps cfg dispatcher packet deadline steps progress).Ends uncancelled Failing := by
  induction steps generalizing progress with
  | nil => exact fun s => (hcfg.derive _ _ _).failing
  | cons step steps ih =>
    refine ends_failing_bind (onlyExceptions_shouldExecuteStep hcfg step progress).failing
      fun executed => ?_
    cases executed with
    | false => exact ih progress
    | true =>
      refine ends_failing_bind (fun s =>
        (onlyExceptions_deriveStep hcfg packet deadline step progress s).failing) fun p => ?_
      refine ends_failing_bind (.ok _) fun u => ?_
      refine ends_failing_bind (hdispatch p) fun answer => ?_
      exact ends_failing_bind (.ok _) fun u => ih _

lemma ends_executeWorkflow {cfg : GateConfig Dump} (hcfg : RaisesExceptions cfg)
    {dispatcher : TransportPacket → Option Deadline → Co (gate Dump) TransportPacket}
    (packet : TransportPacket) (deadline : Option Deadline)
    (hdispatch : ∀ p, (dispatcher p deadline).Ends uncancelled Failing) :
    (executeWorkflow cfg dispatcher packet deadline).Ends uncancelled Failing := by
  rw [executeWorkflow]
  split
  · exact Failing.error (.inl rfl)
  · exact ends_executeSteps hcfg packet deadline hdispatch _ _

lemma ends_runOnce {cfg : GateConfig Dump} (hcfg : RaisesExceptions cfg) (packet : TransportPacket)
    (deadline : Deadline) :
    (runOnce cfg (dispatch cfg) packet deadline).Ends uncancelled Failing := by
  refine ends_failing_bind (.ok _) fun u => ?_
  split
  · exact ends_executeWorkflow hcfg packet _ fun p => ends_dispatch hcfg p _
  · refine ends_failing_bind (ends_dispatch hcfg packet _) fun answer => ?_
    exact ends_failing_bind (.ok _) fun u => .ok _

lemma ends_deadlineExpired (deadline : Option Deadline) :
    (RetryPolicy.deadlineExpired deadline : Co (gate Dump) Bool).Ends uncancelled Failing := by
  cases deadline with
  | none => exact Failing.ok _
  | some d => exact ends_failing_bind (fun s => .ok _) fun now => .ok _

lemma ends_sleepOutlives (delaySeconds : ℚ) (deadline : Option Deadline) :
    (RetryPolicy.sleepOutlives delaySeconds deadline : Co (gate Dump) Bool).Ends uncancelled
      Failing := by
  cases deadline with
  | none => exact Failing.ok _
  | some d => exact ends_failing_bind (fun s => .ok _) fun now => .ok _

lemma ends_sleep (delaySeconds : ℚ) :
    (RetryPolicy.sleep delaySeconds : Co (gate Dump) Unit).Ends uncancelled Failing := by
  rw [RetryPolicy.sleep]
  split
  · exact fun r hr => hr
  · exact Failing.ok _

/-- Retries fail as their attempts do. -/
lemma ends_attempts {func : Co (gate Dump) α} (hfunc : func.Ends uncancelled Failing)
    (policy : RetryPolicy) (deadline : Option Deadline) (left attempt : ℕ)
    (lastExc : Option PyError) (hlast : ∀ e ∈ lastExc, e.Fails) :
    (policy.attempts func deadline left attempt lastExc).Ends uncancelled Failing := by
  induction left generalizing attempt lastExc with
  | zero =>
    cases lastExc with
    | none => exact Failing.error (.inl rfl)
    | some e => exact Failing.error (hlast e rfl)
  | succ left ih =>
    refine Co.ends_handle.2 (hfunc.mono fun r hr => ?_)
    cases r with
    | ok a => exact .ok _
    | error exc =>
      have hexc := hr exc rfl
      refine ends_failing_bind (policy.onlyExceptions_decisionFor attempt exc).failing
        fun decision => ?_
      split
      · exact Failing.error hexc
      refine ends_failing_bind (ends_sleepOutlives decision.delaySeconds deadline)
        fun outlives => ?_
      cases outlives with
      | true => exact Failing.error hexc
      | false =>
        refine ends_failing_bind (ends_sleep decision.delaySeconds) fun u => ?_
        refine ends_failing_bind (ends_deadlineExpired deadline) fun expired => ?_
        cases expired with
        | true => exact Failing.error hexc
        | false =>
          refine ih _ _ fun e he => ?_
          obtain rfl := Option.some.inj he
          exact hexc

/-- `wait_for` turns the cancellation by its timer into an `Exception`. -/
lemma ends_waitFor {p : Co (gate Dump) α} (hp : p.Ends uncancelled Failing) :
    (waitFor p).Ends uncancelled OnlyExceptions := by
  refine Co.ends_handle.2 (hp.mono fun r hr => ?_)
  cases r with
  | ok a => exact .ok _
  | error e =>
    simp only
    split
    · exact OnlyExceptions.error rfl
    · rename_i hexpired
      exact .error ((hr e rfl).resolve_right hexpired)

end Ends

end ConstellationGate
