import ConstellationGate.Routing.Dispatch
import ConstellationGate.Routing.RegistryRuns
import ConstellationGate.Services.AdminRegistration

/-!
# Dispatches to Gate itself

When the packet that a dispatch derives satisfies Gate's own dispatch policy.

Of the four conditions of the policy the dispatcher establishes three when it derives the packet.
The fourth, that the packet does not point back to Gate, rests on the name of the node that was
resolved.  `RouteResolver` refuses Gate as a destination that is named explicitly, but not as the
node that serves an action, and no registration is refused for its name; so the policy depends on
what is registered under Gate's name (`policy_satisfied_iff`).
-/

namespace ConstellationGate

variable {Dump : Type}

/-! ### Changes of the registry -/

/-- The calls that change a registry. -/
inductive RegistryCall
  /-- `load_from_yaml`, `register_node` and the updates of one node. -/
  | apply (op : RegistryOp)
  /-- `AdminRegistrationService.register`. -/
  | register (service : AdminRegistrationService) (request : RegisterNodesRequest)
      (overwrite : Bool) (presentedToken : Option String)

namespace NodeRegistry

/-- The registry after a call, accepted or rejected. -/
def call (reg : NodeRegistry) : RegistryCall → NodeRegistry
  | .apply op => (reg.apply op).2
  | .register service request overwrite presentedToken =>
    (service.register request overwrite presentedToken reg).2

/-- The registry after calls. -/
def runCalls (reg : NodeRegistry) (calls : List RegistryCall) : NodeRegistry :=
  calls.foldl call reg

end NodeRegistry

/-- The entries that a batch has taken keep the registrations under their names. -/
lemma AdminRegistrationService.TakesAll.keyed {overwrite : Bool} {reg reg' : NodeRegistry}
    {entries : List (String × NodeRegistrationInput)} (h : TakesAll overwrite reg entries reg')
    (hk : reg.Keyed) : reg'.Keyed := by
  induction h with
  | nil => exact hk
  | @cons reg reg₁ reg₂ entry entries hentry _ ih =>
    obtain ⟨r, -, hstored⟩ := hentry
    have hchanged := NodeRegistry.keyed_apply hk (.node (.register entry.1 r overwrite))
    rw [NodeRegistry.apply, NodeRegistry.applyNode, hstored] at hchanged
    exact ih hchanged

namespace NodeRegistry

lemma keyed_call {reg : NodeRegistry} (h : reg.Keyed) (c : RegistryCall) : (reg.call c).Keyed := by
  cases c with
  | apply op => exact keyed_apply h op
  | register service request overwrite presentedToken =>
    rw [call]
    rcases service.register_cases request overwrite presentedToken reg with
      ⟨e, -, heq⟩ | ⟨-, ⟨response, reg', hall, heq⟩ | ⟨before, entry, after, reg', e, -, hall, -,
        heq⟩⟩
    · rw [heq]
      exact h
    · rw [heq]
      exact hall.keyed h
    · rw [heq]
      exact hall.keyed h

lemma keyed_runCalls (calls : List RegistryCall) : (empty.runCalls calls).Keyed := by
  induction calls using List.reverseRecOn with
  | nil => exact keyed_empty
  | append_singleton calls c ih =>
    rw [runCalls, List.foldl_append]
    exact keyed_call ih c

/-! ### The first choice for an action -/

/-- The healthy registration under a name is preferred to every other one for some action that it
advertises. -/
def FirstChoice (reg : NodeRegistry) (node : String) : Prop :=
  ∃ r ∈ reg.nodes.get? node, r.healthy = true ∧
    ∃ action ∈ r.supportedActions, ∀ s ∈ reg.candidates action, r.PreferredTo s

instance (reg : NodeRegistry) (node : String) : Decidable (reg.FirstChoice node) := by
  unfold FirstChoice
  infer_instance

/-- Two registrations that are preferred to each other have one name. -/
lemma nodeName_eq_of_preferred {r s : NodeRegistration} (h : r.PreferredTo s)
    (h' : s.PreferredTo r) : r.nodeName = s.nodeName := by
  unfold NodeRegistration.PreferredTo at h h'
  rcases h with h | ⟨hactive, h | ⟨hmax, hname⟩⟩
  · rcases h' with h' | ⟨hactive', -⟩ <;> omega
  · rcases h' with h' | ⟨hactive', h' | ⟨hmax', -⟩⟩ <;> omega
  · rcases h' with h' | ⟨hactive', h' | ⟨hmax', hname'⟩⟩
    · omega
    · omega
    · exact le_antisymm hname hname'

/-- An action for which there is a candidate is resolved. -/
lemma exists_resolveAction {reg : NodeRegistry} {action : String} {r : NodeRegistration}
    (haction : normalize action = action) (hr : r ∈ reg.candidates action) :
    ∃ target, reg.resolveAction action = .ok target := by
  have hne : action ≠ "" := (r.action_normalized action (mem_candidates.1 hr).2.1).2
  rw [resolveAction, haction, if_neg hne]
  rcases hsort : (reg.candidates action).insertionSort NodeRegistration.PreferredTo with
    _ | ⟨s, rest⟩
  · have hmem : r ∈ (reg.candidates action).insertionSort NodeRegistration.PreferredTo :=
      (List.mem_insertionSort _).2 hr
    rw [hsort] at hmem
    cases hmem
  · exact ⟨s, rfl⟩

/-- A node is the first choice for some action exactly when some action is resolved to it. -/
lemma firstChoice_iff {reg : NodeRegistry} (hk : reg.Keyed) {node : String} :
    reg.FirstChoice node ↔ ∃ action target, normalize action = action ∧ action ≠ "" ∧
      reg.resolveAction action = .ok target ∧ target.nodeName = node := by
  constructor
  · rintro ⟨r, hget, hhealthy, action, haction, hfirst⟩
    obtain ⟨hnorm, hne⟩ := r.action_normalized action haction
    have hr : r ∈ reg.candidates action :=
      mem_candidates.2 ⟨Dict.mem_values_iff.2 ⟨node, hget⟩, haction, hhealthy⟩
    obtain ⟨target, htarget⟩ := exists_resolveAction hnorm hr
    obtain ⟨hmem, hpreferred⟩ := of_resolveAction htarget
    rw [hnorm] at hmem hpreferred
    refine ⟨action, target, hnorm, hne, htarget, ?_⟩
    rw [← hk node r hget]
    exact nodeName_eq_of_preferred (hpreferred r hr) (hfirst target hmem)
  · rintro ⟨action, target, hnorm, hne, htarget, rfl⟩
    obtain ⟨hmem, hpreferred⟩ := of_resolveAction htarget
    rw [hnorm] at hmem hpreferred
    obtain ⟨hvalue, haction, hhealthy⟩ := mem_candidates.1 hmem
    obtain ⟨node, hget⟩ := Dict.mem_values_iff.1 hvalue
    refine ⟨target, ?_, hhealthy, action, haction, hpreferred⟩
    rw [hk node target hget]
    exact hget

end NodeRegistry

/-! ### The policy -/

/-- `derive` sets exactly the addresses that it is given. -/
def Sdk.SetsAddresses (sdk : Sdk Dump) : Prop :=
  ∀ n p args q, sdk.derive n p args = .ok q →
    (∀ node ∈ args.sourceNode, q.address.sourceNode = node) ∧
      ∀ node ∈ args.destinationNode, q.address.destinationNode = node

lemma Sdk.plain_setsAddresses : Sdk.plain.SetsAddresses := by
  rintro n p args q h
  obtain rfl := Except.ok.inj h
  constructor <;> simp +contextual [TransportPacket.child]

/-- Every packet that a dispatch derives over the registry satisfies the dispatch policy, whatever
the other settings are. -/
def PolicySatisfied (localNode : String) (reg : NodeRegistry) : Prop :=
  ∀ (Dump : Type) (cfg : GateConfig Dump), cfg.localNode = localNode → cfg.sdk.SetsAddresses →
    ∀ (s : GateState Dump) (packet : TransportPacket) (deadline : Option Deadline)
      (plan : DispatchPlan) (hop : TransportHop) (sealed : TransportPacket),
      s.registry = reg → (derivePacket cfg packet deadline s).1 = .ok plan →
      cfg.sdk.makeDispatchHop plan.packet cfg.gateNode plan.packet.header.action
        plan.target.nodeName .delegated = .ok hop →
      cfg.sdk.withHop plan.packet hop = .ok sealed →
      validateGateDispatchPolicy sealed cfg.gateNode = .ok ()

/-- The derived packet satisfies the policy exactly when the node is not called like Gate. -/
lemma validateGateDispatchPolicy_ok_iff {cfg : GateConfig Dump} (hsdk : cfg.sdk.SetsAddresses)
    {s : GateState Dump} {packet sealed : TransportPacket} {deadline : Option Deadline}
    {plan : DispatchPlan} {hop : TransportHop}
    (hplan : (derivePacket cfg packet deadline s).1 = .ok plan)
    (hsealed : cfg.sdk.withHop plan.packet hop = .ok sealed) :
    validateGateDispatchPolicy sealed cfg.gateNode = .ok () ↔
      plan.target.nodeName ≠ cfg.gateNode := by
  obtain ⟨-, -, budgetMs, clock, observed, -, -, hderive⟩ := of_derivePacket hplan
  obtain ⟨hsource, hdestination⟩ := hsdk _ _ _ _ hderive
  have hsource : plan.packet.address.sourceNode = cfg.gateNode := hsource _ rfl
  have hdestination : plan.packet.address.destinationNode = plan.target.nodeName :=
    hdestination _ rfl
  have hprovenance := (cfg.sdk.derive_ok hderive).provenance _ rfl
  rw [cfg.sdk.withHop_ok hsealed, validateGateDispatchPolicy]
  simp only [hsource, hdestination, hprovenance, ne_eq, not_true_eq_false, if_false]
  split
  · rename_i heq
    simp [heq]
  · rename_i hne
    simp [hne]

/-- A packet that names its destination is not resolved to Gate. -/
lemma exists_action_of_resolved {reg : NodeRegistry} (hk : reg.Keyed) {gateNode : String}
    {packet : TransportPacket} {target : NodeRegistration}
    (h : resolvePacket reg gateNode packet = .ok target) (hname : target.nodeName = gateNode) :
    ∃ action, normalize action = action ∧ action ≠ "" ∧ reg.resolveAction action = .ok target := by
  rw [resolvePacket] at h
  split at h
  · rw [resolveGateBound] at h
    split at h
    · cases h
    rename_i hne
    exact ⟨_, Text.normalize_normalize _, hne, h⟩
  rename_i hworker
  split at h
  · obtain ⟨-, -, hget, -⟩ := of_resolveGateDispatch h
    exact absurd ((hk _ _ hget).symm.trans hname) hworker
  · cases h

/-- A client's packet for an action. -/
def actionPacket (localNode action : String) : TransportPacket :=
  let packet := clientPacket "acme" action none
  { packet with address := { packet.address with destinationNode := localNode } }

/-- The standard settings of a Gate node. -/
def GateConfig.named (localNode : String) : GateConfig TransportPacket :=
  .standard .plain localNode .empty fun _ _ => .ok true

/-- With the plainest SDK a packet for an action that is resolved is derived for the node. -/
lemma exists_derivePacket (localNode : String) {action : String} {reg : NodeRegistry}
    {target : NodeRegistration} (hnorm : normalize action = action) (hne : action ≠ "")
    (h : reg.resolveAction action = .ok target) :
    ∃ child, (derivePacket (.named localNode) (actionPacket localNode action) none
      (GateState.fresh reg none (.stopped 0) (MonotonicClock.stopped 0).toClock)).1 =
        .ok ⟨target, none, child⟩ := by
  have hresolve : resolvePacket reg (normalize localNode) (actionPacket localNode action) =
      .ok target := by
    rw [resolvePacket]
    simp only [actionPacket, if_true]
    rw [resolveGateBound]
    simp only [clientPacket, hnorm, if_neg hne]
    exact h
  have hbudget : workerBudgetMs target.timeoutMs none (.stopped 0) =
      (.ok target.timeoutMs, .stopped 0) := by
    have hfloor : ⌊(target.timeoutMs : ℚ) / 1000 * 1000⌋ = target.timeoutMs := by
      rw [div_mul_cancel₀ _ (by norm_num)]
      exact Int.floor_natCast _
    have hpos := target.one_le_timeoutMs
    simp only [workerBudgetMs, budgetInMs, hfloor]
    rw [if_neg (by omega), Int.toNat_natCast]
  rw [derivePacket]
  simp only [GateState.fresh, GateConfig.named, GateConfig.standard, GateConfig.gateNode, hresolve,
    hbudget]
  exact ⟨_, rfl⟩

lemma policySatisfied_iff_of_keyed (localNode : String) {reg : NodeRegistry} (hk : reg.Keyed) :
    PolicySatisfied localNode reg ↔ ¬ reg.FirstChoice (normalize localNode) := by
  constructor
  · intro h hfirst
    obtain ⟨action, target, hnorm, hne, hresolve, hname⟩ :=
      (NodeRegistry.firstChoice_iff hk).1 hfirst
    obtain ⟨child, hplan⟩ := exists_derivePacket localNode hnorm hne hresolve
    have hpolicy := h _ (.named localNode) rfl Sdk.plain_setsAddresses _ _ none _ _ _ rfl hplan rfl
      rfl
    exact (validateGateDispatchPolicy_ok_iff Sdk.plain_setsAddresses hplan rfl).1 hpolicy hname
  · rintro hfirst Dump cfg rfl hsdk s packet deadline plan hop sealed rfl hplan - hsealed
    refine (validateGateDispatchPolicy_ok_iff hsdk hplan hsealed).2 fun hname => ?_
    obtain ⟨action, hnorm, hne, hresolve⟩ :=
      exists_action_of_resolved hk (of_derivePacket hplan).1 hname
    exact hfirst ((NodeRegistry.firstChoice_iff hk).2
      ⟨action, plan.target, hnorm, hne, hresolve, hname⟩)

/-- In every registry that the calls reach, the packets that are derived satisfy the dispatch policy
exactly when no healthy registration under Gate's own name is the first choice for an action. -/
theorem policy_satisfied_iff (localNode : String) (calls : List RegistryCall) :
    PolicySatisfied localNode (NodeRegistry.empty.runCalls calls) ↔
      ¬ (NodeRegistry.empty.runCalls calls).FirstChoice (normalize localNode) :=
  policySatisfied_iff_of_keyed localNode (NodeRegistry.keyed_runCalls calls)

/-- A batch with a worker, and a node that is called like Gate. -/
def selfNamedBatch : RegisterNodesRequest where
  root := (Dict.empty.set "worker" (AdminRegistrationService.plainInput "http://worker" "score"
    AdminRegistrationService.workerUrl_scheme AdminRegistrationService.score_normalized)).set "gate"
      (AdminRegistrationService.plainInput "http://worker" "score"
        AdminRegistrationService.workerUrl_scheme AdminRegistrationService.score_normalized)

/-- After that batch a packet for `score` fails the policy. -/
theorem selfNamedBatch_not_satisfied :
    ¬ ∀ (localNode : String) (calls : List RegistryCall),
      PolicySatisfied localNode (NodeRegistry.empty.runCalls calls) := by
  intro h
  have hpolicy := h "gate" [.register (.create none) selfNamedBatch true none]
  rw [policySatisfied_iff_of_keyed _ (NodeRegistry.keyed_runCalls _)] at hpolicy
  exact hpolicy (by decide +kernel)

end ConstellationGate
