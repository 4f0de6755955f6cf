import ConstellationGate.Lib.StateInvariant
import ConstellationGate.Services.ExecuteService

/-!
# What an execute call does to the registry

An execute call touches the registry in three ways: it marks the node that it cannot reach, and it
counts the load of the node that it sends to, up and down.  A property of registries that these keep
is kept by every segment of every call, and every packet that is sent goes to a node of such a
registry (`tends_execute`).
-/

namespace ConstellationGate

variable {Dump : Type}

/-- What the work of the calls keeps of a registry, with what is known of its nodes. -/
structure Upkeep (I : NodeRegistry → Prop) (A : NodeRegistration → Prop) : Prop where
  setHealth : ∀ reg node healthy, I reg → I (reg.setHealth node healthy).2
  incrementActive : ∀ reg node, I reg → I (reg.incrementActive node).2
  decrementActive : ∀ reg node, I reg → I (reg.decrementActive node).2
  known : ∀ reg, I reg → ∀ r ∈ reg.nodes.values, A r

/-- What is sent goes to a node that is known, at its URL. -/
def SendsTo (A : NodeRegistration → Prop) : GateRequest → Prop
  | .send nodeName _ workerBaseUrl =>
    ∃ r, A r ∧ r.nodeName = nodeName ∧ r.internalUrl = workerBaseUrl
  | _ => True

/-- The program keeps the registry and sends to known nodes. -/
abbrev Tends {α : Type} (I : NodeRegistry → Prop) (A : NodeRegistration → Prop)
    (p : Co (gate Dump) α) (s : GateState Dump) : Prop :=
  p.Upholds (fun s : GateState Dump => I s.registry) (SendsTo A) s

section Tends

variable {I : NodeRegistry → Prop} {A : NodeRegistration → Prop}

lemma tends_done {α : Type} (r : Except PyError α) (s : GateState Dump) :
    Tends I A (Co.done r : Co (gate Dump) α) s :=
  Co.upholds_done (S := gate Dump) r s

lemma tends_log (e : GateEvent Dump) (s : GateState Dump) :
    Tends I A (Co.log (S := gate Dump) e) s :=
  Co.upholds_log (S := gate Dump) e s

lemma tends_request (q : GateRequest) (hq : SendsTo A q) (s : GateState Dump) :
    Tends I A (Co.request (S := gate Dump) q) s :=
  Co.upholds_request (S := gate Dump) hq s

lemma tends_handle {α β : Type} {p : Co (gate Dump) α}
    {f : Except PyError α → Co (gate Dump) β} {s : GateState Dump} (hs : I s.registry)
    (hp : Tends I A p s) (hf : ∀ r s, I s.registry → Tends I A (f r) s) :
    Tends I A (p.handle f) s :=
  Co.upholds_handle hs hp hf

lemma tends_bind {α β : Type} {p : Co (gate Dump) α} {f : α → Co (gate Dump) β}
    {s : GateState Dump} (hs : I s.registry) (hp : Tends I A p s)
    (hf : ∀ a s, I s.registry → Tends I A (f a) s) : Tends I A (p >>= f) s :=
  Co.upholds_bind hs hp hf

/-- A call that leaves the registry alone. -/
lemma tends_call {α : Type} {f : GateState Dump → Except PyError α × GateState Dump}
    {s : GateState Dump} (hs : I s.registry) (hf : (f s).2.registry = s.registry) :
    Tends I A (Co.call (S := gate Dump) f) s := by
  refine Co.upholds_call ?_
  show I (f s).2.registry
  rw [hf]
  exact hs

lemma registry_onLimits (f : PerNodeLimiterManager → Except PyError Unit × PerNodeLimiterManager)
    (s : GateState Dump) : (onLimits f s).2.registry = s.registry := by
  rw [onLimits]
  split <;> rfl

/-! ### Dispatches -/

lemma tends_acquireLimit (target : NodeRegistration) {s : GateState Dump} (hs : I s.registry) :
    Tends I A (acquireLimit target : Co (gate Dump) Bool) s := by
  refine tends_bind hs (Co.upholds_read (S := gate Dump) _ s) fun limited s hs => ?_
  cases limited with
  | false => exact tends_done _ s
  | true =>
    refine tends_bind hs (tends_call hs (registry_onLimits _ s)) fun _ s hs => ?_
    refine tends_bind hs (tends_call hs (registry_onLimits _ s)) fun _ s hs => ?_
    exact tends_bind hs (tends_request (.limiterYield _) trivial s) fun _ s _ =>
      tends_done _ s

lemma tends_sendToWorker (hI : Upkeep I A) {target : NodeRegistration} (htarget : A target)
    (packet : TransportPacket) {s : GateState Dump} (hs : I s.registry) :
    Tends I A (sendToWorker target packet : Co (gate Dump) TransportPacket) s := by
  refine tends_handle hs (tends_request (.send _ _ _) ⟨target, htarget, rfl, rfl⟩ s)
    fun r s hs => ?_
  cases r with
  | ok answer => exact tends_done _ s
  | error exc =>
    simp only
    split
    · exact tends_bind hs (Co.upholds_call (hI.setHealth _ _ _ hs)) fun _ s _ =>
        tends_done _ s
    · split <;> exact tends_done _ s

lemma tends_giveBack (hI : Upkeep I A) (target : NodeRegistration) (permits : Permits)
    {s : GateState Dump} (hs : I s.registry) :
    Tends I A (giveBack target permits : Co (gate Dump) Unit) s := by
  have hrelease : ∀ s : GateState Dump, I s.registry → Tends I A (if permits.acquiredLimit then
      Co.call (S := gate Dump) (onLimits fun m => m.release target.nodeName)
        else pure ()) s := by
    intro s hs
    split
    · exact tends_call hs (registry_onLimits _ s)
    · exact tends_done _ s
  unfold giveBack
  simp only
  split
  · exact tends_bind hs (Co.upholds_call (hI.decrementActive _ _ hs)) fun _ s hs =>
      hrelease s hs
  · exact hrelease s hs

lemma tends_attemptUnderPermit (hI : Upkeep I A) {plan : DispatchPlan} (htarget : A plan.target)
    (packet : TransportPacket) {s : GateState Dump} (hs : I s.registry) :
    Tends I A (attemptUnderPermit plan packet : Co (gate Dump) _) s := by
  refine tends_bind hs (Co.upholds_attempt hs (tends_acquireLimit plan.target hs))
    fun r s hs => ?_
  cases r with
  | error exc => exact tends_done _ s
  | ok acquiredLimit =>
    refine tends_bind hs (Co.upholds_attempt hs
      (Co.upholds_call (hI.incrementActive _ _ hs))) fun r s hs => ?_
    cases r with
    | error exc => exact tends_done _ s
    | ok u =>
      refine tends_bind hs (tends_log _ s) fun _ s hs => ?_
      exact tends_bind hs (Co.upholds_attempt hs (tends_sendToWorker hI htarget packet hs))
        fun _ s _ => tends_done _ s

/-- A packet is resolved to a node of the registry. -/
lemma mem_values_of_resolvePacket {reg : NodeRegistry} {gateNode : String}
    {packet : TransportPacket} {target : NodeRegistration}
    (h : resolvePacket reg gateNode packet = .ok target) : target ∈ reg.nodes.values := by
  rcases (of_resolvePacket h).2 with ⟨-, hmem, -⟩ | ⟨-, -, -, -, hget⟩
  · exact hmem
  · exact Dict.mem_values_iff.2 ⟨_, hget⟩

lemma tends_dispatch (hI : Upkeep I A) (cfg : GateConfig Dump) (packet : TransportPacket)
    (deadline : Option Deadline) {s : GateState Dump} (hs : I s.registry) :
    Tends I A (dispatch cfg packet deadline) s := by
  have hregistry := (derivePacket_frame cfg packet deadline s).2
  -- the target is the one that the packet is resolved to in the state `s`
  refine ⟨show I (derivePacket cfg packet deadline s).2.registry from hregistry.symm ▸ hs, ?_⟩
  have hs' : I (derivePacket cfg packet deadline s).2.registry := by rwa [hregistry]
  generalize (derivePacket cfg packet deadline s).2 = s' at hs'
  rcases hplan : (derivePacket cfg packet deadline s).1 with e | plan
  · trivial
  have htarget : A plan.target :=
    hI.known _ hs _ (mem_values_of_resolvePacket (of_derivePacket hplan).1)
  show Tends I A (Co.log (S := gate Dump) (.derived plan.budget plan.target plan.packet) >>= _) s'
  refine tends_bind hs' (tends_log _ s') fun _ s hs => ?_
  refine tends_bind hs (tends_done _ s) fun dispatchPacket s hs => ?_
  refine tends_bind hs (tends_attemptUnderPermit hI htarget dispatchPacket hs)
    fun attempted s hs => ?_
  exact tends_bind hs (tends_giveBack hI plan.target attempted.1 hs) fun _ s _ =>
    tends_done _ s

/-! ### Workflows -/

lemma registry_deriveStep (cfg : GateConfig Dump) (packet : TransportPacket)
    (deadline : Option Deadline) (step : WorkflowStep) (progress : Progress) (s : GateState Dump) :
    (deriveStep cfg packet deadline step progress s).2.registry = s.registry := by
  rw [deriveStep]
  split <;> rfl

lemma tends_executeSteps (hI : Upkeep I A) (cfg : GateConfig Dump) (packet : TransportPacket)
    (deadline : Option Deadline) (steps : List WorkflowStep) (progress : Progress)
    {s : GateState Dump} (hs : I s.registry) :
    Tends I A (executeSteps cfg (dispatch cfg) packet deadline steps progress) s := by
  induction steps generalizing progress s with
  | nil => exact tends_call hs rfl
  | cons step steps ih =>
    rw [executeSteps]
    refine tends_bind hs (tends_done _ s) fun executed s hs => ?_
    cases executed with
    | false => exact ih progress hs
    | true =>
      refine tends_bind hs (tends_call hs (registry_deriveStep cfg packet deadline step _ s))
        fun stepPacket s hs => ?_
      refine tends_bind hs (tends_log _ s) fun _ s hs => ?_
      refine tends_bind hs (tends_dispatch hI cfg stepPacket deadline hs)
        fun answer s hs => ?_
      exact tends_bind hs (tends_log _ s) fun _ s hs => ih _ hs

lemma tends_executeWorkflow (hI : Upkeep I A) (cfg : GateConfig Dump) (packet : TransportPacket)
    (deadline : Option Deadline) {s : GateState Dump} (hs : I s.registry) :
    Tends I A (executeWorkflow cfg (dispatch cfg) packet deadline) s := by
  rw [executeWorkflow]
  split
  · exact tends_done _ s
  · exact tends_executeSteps hI cfg packet deadline _ _ hs

/-! ### Retries -/

lemma tends_deadlineExpired (deadline : Option Deadline) {s : GateState Dump}
    (hs : I s.registry) :
    Tends I A (RetryPolicy.deadlineExpired deadline : Co (gate Dump) Bool) s := by
  cases deadline with
  | none => exact tends_done _ s
  | some d => exact tends_bind hs (tends_call hs rfl) fun _ s _ => tends_done _ s

lemma tends_sleepOutlives (delaySeconds : ℚ) (deadline : Option Deadline) {s : GateState Dump}
    (hs : I s.registry) :
    Tends I A (RetryPolicy.sleepOutlives delaySeconds deadline : Co (gate Dump) Bool) s := by
  cases deadline with
  | none => exact tends_done _ s
  | some d => exact tends_bind hs (tends_call hs rfl) fun _ s _ => tends_done _ s

lemma tends_sleep (delaySeconds : ℚ) (s : GateState Dump) :
    Tends I A (RetryPolicy.sleep delaySeconds : Co (gate Dump) Unit) s := by
  rw [RetryPolicy.sleep]
  split
  · exact tends_request (.retrySleep _) trivial s
  · exact tends_done _ s

/-- Retries do what their attempts do. -/
lemma tends_attempts {α : Type} {func : Co (gate Dump) α}
    (hfunc : ∀ s, I s.registry → Tends I A func s) (policy : RetryPolicy)
    (deadline : Option Deadline) (left attempt : ℕ) (lastExc : Option PyError)
    {s : GateState Dump} (hs : I s.registry) :
    Tends I A (policy.attempts func deadline left attempt lastExc) s := by
  induction left generalizing attempt lastExc s with
  | zero => exact tends_done _ s
  | succ left ih =>
    refine tends_handle hs (hfunc s hs) fun r s hs => ?_
    cases r with
    | ok a => exact tends_done _ s
    | error exc =>
      refine tends_bind hs (tends_done (policy.decisionFor attempt exc) s)
        fun decision s hs => ?_
      split
      · exact tends_done _ s
      refine tends_bind hs (tends_sleepOutlives decision.delaySeconds deadline hs)
        fun outlives s hs => ?_
      cases outlives with
      | true => exact tends_done _ s
      | false =>
        refine tends_bind hs (tends_sleep decision.delaySeconds s) fun _ s hs => ?_
        refine tends_bind hs (tends_deadlineExpired deadline hs) fun expired s hs => ?_
        cases expired with
        | true => exact tends_done _ s
        | false => exact ih _ _ hs

lemma tends_waitFor {α : Type} {p : Co (gate Dump) α} {s : GateState Dump} (hs : I s.registry)
    (hp : Tends I A p s) : Tends I A (waitFor p) s := by
  refine tends_handle hs hp fun r s _ => ?_
  cases r with
  | ok a => exact tends_done _ s
  | error e =>
    simp only
    split <;> exact tends_done _ s

/-! ### The call -/

lemma tends_runOnce (hI : Upkeep I A) (cfg : GateConfig Dump) (packet : TransportPacket)
    (deadline : Deadline) {s : GateState Dump} (hs : I s.registry) :
    Tends I A (runOnce cfg (dispatch cfg) packet deadline) s := by
  refine tends_bind hs (tends_log _ s) fun _ s hs => ?_
  split
  · exact tends_executeWorkflow hI cfg packet _ hs
  · refine tends_bind hs (tends_dispatch hI cfg packet _ hs) fun answer s hs => ?_
    exact tends_bind hs (tends_log _ s) fun _ s _ => tends_done _ s

lemma tends_settle (cfg : GateConfig Dump) (packet : TransportPacket)
    (outcome : Except PyError TransportPacket) {s : GateState Dump} (hs : I s.registry) :
    Tends I A (settle cfg packet outcome) s := by
  cases outcome with
  | error exc =>
    rw [settle]
    split
    · exact tends_bind hs (tends_call hs rfl) fun _ s _ => tends_done _ s
    · exact tends_done _ s
  | ok result =>
    rw [settle]
    refine tends_bind hs (tends_call hs rfl) fun _ s hs => ?_
    split
    · refine tends_bind hs (tends_call hs rfl) fun stored s hs => ?_
      rcases stored with _ | ⟨key, now⟩
      · exact tends_done _ s
      · exact tends_bind hs (tends_log _ s) fun _ s _ => tends_done _ s
    · exact tends_done _ s

lemma tends_serve (hI : Upkeep I A) (cfg : GateConfig Dump) (packet : TransportPacket)
    {s : GateState Dump} (hs : I s.registry) : Tends I A (serve cfg (dispatch cfg) packet) s := by
  refine tends_bind hs (tends_call hs rfl) fun found s hs => ?_
  refine tends_bind hs (tends_log _ s) fun _ s hs => ?_
  rcases found.2 with _ | dump
  swap
  · exact tends_done _ s
  refine tends_bind hs (tends_call hs rfl) fun _ s hs => ?_
  refine tends_bind hs (tends_call hs rfl) fun deadline s hs => ?_
  refine tends_bind hs (tends_log _ s) fun _ s hs => ?_
  refine tends_handle hs (tends_waitFor hs ?_) fun r s hs => tends_settle cfg packet r hs
  exact tends_attempts (fun s hs => tends_runOnce hI cfg packet deadline hs) _ _ _ _ _ hs

lemma registry_passAdmission (cfg : GateConfig Dump) (packet : TransportPacket)
    (s : GateState Dump) : (passAdmission cfg packet s).2.registry = s.registry := by
  rw [passAdmission]
  simp only
  split
  · rfl
  split
  · rfl
  split
  · rfl
  split <;> rfl

/-- An execute call keeps the registry, and sends to nodes that are known. -/
theorem tends_execute (hI : Upkeep I A) (cfg : GateConfig Dump)
    (validated : Except PyError TransportPacket) {s : GateState Dump} (hs : I s.registry) :
    Tends I A (execute cfg (dispatch cfg) validated) s := by
  refine tends_handle hs ?_ fun r s hs =>
    tends_bind hs (tends_log _ s) fun _ s _ => tends_done _ s
  refine tends_bind hs (tends_done validated s) fun packet s hs => ?_
  refine tends_bind hs (tends_call hs (registry_passAdmission cfg packet s))
    fun _ s hs => ?_
  refine tends_bind hs (tends_log _ s) fun _ s hs => ?_
  refine tends_handle hs (tends_serve hI cfg packet hs) fun r s hs => ?_
  exact tends_bind hs (tends_call hs rfl) fun _ s _ => tends_done _ s

end Tends

end ConstellationGate
