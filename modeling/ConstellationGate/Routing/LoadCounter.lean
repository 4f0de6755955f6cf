import ConstellationGate.Routing.DispatchRuns

/-!
# The load counter

How the stored `active_requests` of a node follows the dispatches that have counted
themselves there, over every interleaving of dispatches and registrations.

A dispatch counts itself right before the network attempt and takes itself off right after
it, so that between two of its awaits the counters move with the attempt that it is
suspended at (`LoadStep`); the floor of the decrement does not matter.  A registration
replaces the counter by its own.  The counters are truthful along a run exactly when every
registration that takes effect carries the number of dispatches that are in flight on its
node (`loads_truthful_iff`), and the admin service always stores zero.
-/

namespace ConstellationGate

variable {Dump : Type}

/-- The load that a task puts on a node while it waits for a request. -/
def sentTo (node : String) : GateRequest → ℕ
  | .limiterYield _ => 0
  | .send nodeName _ _ => if normalize nodeName = node then 1 else 0
  | .retrySleep _ => 0
  | .dispatch _ _ => 0

/-- The number of dispatches between their `increment_active` and their `decrement_active` on a
node. -/
def inFlight (node : String) (c : Pool (gate Dump) TransportPacket) : ℕ := c.weight (sentTo node)

/-- The counter of a node; an unknown node has none. -/
def storedLoad (reg : NodeRegistry) (node : String) : ℕ :=
  (reg.nodes.get? node).elim 0 fun r => r.activeRequests

/-- The counter of every stored node is the number of dispatches in flight on it. -/
def LoadsTruthful (c : Pool (gate Dump) TransportPacket) : Prop :=
  ∀ node r, c.world.state.registry.nodes.get? node = some r → r.activeRequests = inFlight node c

/-! ### What the registry operations do to the counters -/

namespace NodeRegistry

lemma updateNode_cases (reg : NodeRegistry) (nodeName : String)
    (f : NodeRegistration → Except PyError NodeRegistration) :
    (∃ e, reg.updateNode nodeName f = (.error e, reg)) ∨
      ∃ r r', reg.nodes.get? (normalize nodeName) = some r ∧ f r = .ok r' ∧
        reg.updateNode nodeName f = (.ok (), ⟨reg.nodes.set (normalize nodeName) r'⟩) := by
  unfold updateNode
  rcases hget : reg.nodes.get? (normalize nodeName) with _ | r
  · exact Or.inl ⟨_, rfl⟩
  · rcases hf : f r with e | r'
    · exact Or.inl ⟨e, by simp only [hf]⟩
    · exact Or.inr ⟨r, r', rfl, hf, by simp only [hf]⟩

/-- An operation on a node adds no node. -/
lemma contains_of_contains_updateNode (reg : NodeRegistry) (nodeName : String)
    (f : NodeRegistration → Except PyError NodeRegistration) {node : String}
    (h : (reg.updateNode nodeName f).2.nodes.contains node = true) :
    reg.nodes.contains node = true := by
  rcases reg.updateNode_cases nodeName f with ⟨e, heq⟩ | ⟨r, r', hget, -, heq⟩
  · rwa [heq] at h
  · rw [heq, Dict.contains_set, Bool.or_eq_true, decide_eq_true_eq] at h
    rcases h with rfl | h
    · exact Dict.contains_iff.2 ⟨r, hget⟩
    · exact h

lemma storedLoad_set (reg : NodeRegistry) (key : String) (r : NodeRegistration) (node : String) :
    storedLoad ⟨reg.nodes.set key r⟩ node =
      if node = key then r.activeRequests else storedLoad reg node := by
  simp only [storedLoad, Dict.get?_set]
  split <;> rfl

lemma storedLoad_setHealth (reg : NodeRegistry) (nodeName : String) (healthy : Bool)
    (node : String) : storedLoad (reg.setHealth nodeName healthy).2 node = storedLoad reg node := by
  rcases reg.updateNode_cases nodeName (fun r => .ok (r.withHealthy healthy)) with
    ⟨e, heq⟩ | ⟨r, r', hget, hr', heq⟩
  · rw [setHealth, heq]
  · obtain rfl := Except.ok.inj hr'
    rw [setHealth, heq, storedLoad_set]
    split
    · rename_i hnode
      rw [hnode, storedLoad, hget]
      rfl
    · rfl

/-- A dispatch that counts itself raises the counter of its node by one. -/
lemma storedLoad_incrementActive (reg : NodeRegistry) (nodeName : String)
    (h : (reg.incrementActive nodeName).1 = .ok ()) (node : String) :
    storedLoad (reg.incrementActive nodeName).2 node =
      storedLoad reg node + if normalize nodeName = node then 1 else 0 := by
  unfold incrementActive at h ⊢
  rcases reg.updateNode_cases nodeName (fun r =>
    if r.maxConcurrent ≤ r.activeRequests then
      .error { cls := .runtimeError,
               message := "node concurrency limit reached: " ++ normalize nodeName }
    else .ok (r.withActiveRequests (r.activeRequests + 1))) with ⟨e, heq⟩ | ⟨r, r', hget, hr', heq⟩
  · rw [heq] at h
    cases h
  · split at hr'
    · cases hr'
    obtain rfl := Except.ok.inj hr'
    rw [heq, storedLoad_set]
    by_cases hnode : node = normalize nodeName
    · rw [if_pos hnode, if_pos hnode.symm, hnode, storedLoad, hget]
      rfl
    · rw [if_neg hnode, if_neg (Ne.symm hnode), Nat.add_zero]

/-- A dispatch that takes itself off lowers the counter of its node by one, if it is not zero. -/
lemma storedLoad_decrementActive (reg : NodeRegistry) (nodeName node : String) :
    storedLoad (reg.decrementActive nodeName).2 node =
      storedLoad reg node - if normalize nodeName = node then 1 else 0 := by
  unfold decrementActive updateNode
  rcases hget : reg.nodes.get? (normalize nodeName) with _ | r
  · by_cases hnode : normalize nodeName = node
    · rw [if_pos hnode, ← hnode, storedLoad, hget]
      rfl
    · rw [if_neg hnode, Nat.sub_zero]
  · simp only
    rw [storedLoad_set]
    by_cases hnode : node = normalize nodeName
    · rw [if_pos hnode, if_pos hnode.symm, hnode, storedLoad, hget]
      rfl
    · rw [if_neg hnode, if_neg (Ne.symm hnode), Nat.sub_zero]

end NodeRegistry

/-! ### A dispatch keeps the counters in step -/

/-- The load that a task had put on a node while it waited for the reply that woke it. -/
def sentBefore (node : String) (wake : Wake (gate Dump)) : ℕ := wake.elim 0 fun r => sentTo node r.1

/-- Since its segment began, a task that now puts the load `k` on the nodes has moved their
counters with it; it added no node. -/
structure LoadStep (k : String → ℕ) (st : Start (gate Dump)) (w : World (gate Dump)) : Prop where
  nodes : ∀ node, w.state.registry.nodes.contains node = true →
    st.world.state.registry.nodes.contains node = true
  load : ∀ node, storedLoad w.state.registry node =
    storedLoad st.world.state.registry node + k node - sentBefore node st.wake

/-- The agreement between dispatches: nothing is assumed, and each keeps the counters in step. -/
def loadProtocol : Protocol (gate Dump) where
  Inv _ := True
  Rely _ _ _ := True
  Guar _ st w q := LoadStep (fun node => q.elim 0 (sentTo node)) st w
  Env _ _ := True
  Legal _ _ := True

lemma loadProtocol_lawful : (loadProtocol : Protocol (gate Dump)).Lawful where
  rely_refl _ _ := trivial
  rely_trans _ _ := trivial
  guar_inv _ _ _ _ _ := trivial
  guar_rely _ _ _ _ _ _ _ := trivial
  env_inv _ _ := trivial
  env_rely _ _ := trivial

namespace LoadStep

variable {k : String → ℕ} {st : Start (gate Dump)} {w w' : World (gate Dump)}

lemma start : LoadStep 0 ⟨w, none⟩ w :=
  ⟨fun _ hnode => hnode, fun node => by simp [sentBefore]⟩

lemma woken {q : GateRequest} {r : Except PyError q.Reply} :
    LoadStep (fun node => sentTo node q) ⟨w, some ⟨q, r⟩⟩ w :=
  ⟨fun _ hnode => hnode, fun node => by simp [sentBefore]⟩

/-- A step that leaves the registry alone. -/
lemma frame (h : LoadStep k st w) (hreg : w'.state.registry = w.state.registry) :
    LoadStep k st w' where
  nodes node hnode := h.nodes node (by rwa [hreg] at hnode)
  load node := by rw [hreg, h.load node]

lemma onLimits (h : LoadStep k st w)
    (f : PerNodeLimiterManager → Except PyError Unit × PerNodeLimiterManager) :
    LoadStep k st (w.put (onLimits f w.state).2) := by
  refine h.frame ?_
  unfold ConstellationGate.onLimits
  split <;> rfl

lemma markUnhealthy (h : LoadStep k st w) (nodeName : String) :
    LoadStep k st (w.put (onRegistry (fun reg => reg.markUnhealthy nodeName) w.state).2) where
  nodes node hnode := h.nodes node (NodeRegistry.contains_of_contains_updateNode _ _ _ hnode)
  load node := by
    rw [← h.load node]
    exact NodeRegistry.storedLoad_setHealth _ _ _ _

/-- A task that has put no load on the nodes counts itself. -/
lemma incrementActive (h : LoadStep 0 st w) (hfirst : ∀ node, sentBefore node st.wake = 0)
    (nodeName : String) (hok : (w.state.registry.incrementActive nodeName).1 = .ok ()) :
    LoadStep (fun node => if normalize nodeName = node then 1 else 0) st
      (w.put (onRegistry (fun reg => reg.incrementActive nodeName) w.state).2) where
  nodes node hnode := h.nodes node (NodeRegistry.contains_of_contains_updateNode _ _ _ hnode)
  load node := by
    have hload := h.load node
    have hinc := NodeRegistry.storedLoad_incrementActive w.state.registry nodeName hok node
    simp only [hfirst node, Pi.zero_apply] at hload ⊢
    change storedLoad (w.state.registry.incrementActive nodeName).2 node = _
    omega

lemma incrementActive_error (h : LoadStep k st w) (nodeName : String) {e : PyError}
    (herr : (w.state.registry.incrementActive nodeName).1 = .error e) :
    LoadStep k st (w.put (onRegistry (fun reg => reg.incrementActive nodeName) w.state).2) := by
  refine h.frame ?_
  change (w.state.registry.incrementActive nodeName).2 = _
  unfold NodeRegistry.incrementActive at herr ⊢
  rcases w.state.registry.updateNode_cases nodeName (fun r =>
    if r.maxConcurrent ≤ r.activeRequests then
      .error { cls := .runtimeError,
               message := "node concurrency limit reached: " ++ normalize nodeName }
    else .ok (r.withActiveRequests (r.activeRequests + 1))) with ⟨e', heq⟩ | ⟨r, r', -, -, heq⟩
  · rw [heq]
  · rw [heq] at herr
    cases herr

/-- A task takes itself off. -/
lemma decrementActive (nodeName : String)
    (h : LoadStep (fun node => if normalize nodeName = node then 1 else 0) st w) :
    LoadStep 0 st (w.put (onRegistry (fun reg => reg.decrementActive nodeName) w.state).2) where
  nodes node hnode := h.nodes node (NodeRegistry.contains_of_contains_updateNode _ _ _ hnode)
  load node := by
    have hload := h.load node
    have hdec := NodeRegistry.storedLoad_decrementActive w.state.registry nodeName node
    change storedLoad (w.state.registry.decrementActive nodeName).2 node = _
    simp only [Pi.zero_apply]
    omega

end LoadStep

/-- Along a dispatch its task is on the counter of its node from the increment to the `finally`
block, and nowhere else. -/
lemma exists_loadOutline (tid : ℕ) (plan : DispatchPlan) (packet : TransportPacket) :
    ∃ O : DispatchOutline (loadProtocol : Protocol (gate Dump)) tid plan packet,
      (∀ st w, (∀ node, sentBefore node st.wake = 0) → LoadStep 0 st w → O.Fresh st w) ∧
        ∀ st w, O.Done st w → LoadStep 0 st w := by
  refine ⟨
    { Fresh st w := (∀ node, sentBefore node st.wake = 0) ∧ LoadStep 0 st w
      Limited st w := (∀ node, sentBefore node st.wake = 0) ∧ LoadStep 0 st w
      Granted _ st w := (∀ node, sentBefore node st.wake = 0) ∧ LoadStep 0 st w
      Counted _ st w :=
        LoadStep (fun node => if normalize plan.target.nodeName = node then 1 else 0) st w
      Holding permits st w := LoadStep (fun node => if permits.incremented then
        if normalize plan.target.nodeName = node then 1 else 0 else 0) st w
      Done st w := LoadStep 0 st w
      unlimited h _ := h
      ensure_ok h _ _ := ⟨h.1, h.2.onLimits _⟩
      ensure_error h _ := h.2.onLimits _
      reserve_ok h _ := ⟨h.2.onLimits _, fun _ _ _ =>
        ⟨fun _ => LoadStep.woken (q := .limiterYield plan.target.nodeName),
          fun _ => rfl, LoadStep.woken (q := .limiterYield plan.target.nodeName)⟩⟩
      reserve_error h _ := h.2.onLimits _
      increment_ok h hok := (h.2.incrementActive h.1 plan.target.nodeName hok).frame rfl
      increment_error h herr := h.2.incrementActive_error plan.target.nodeName herr
      send h := ⟨h, fun _ _ _ _ =>
        LoadStep.woken (q := .send plan.target.nodeName packet plan.target.internalUrl)⟩
      mark h := h.markUnhealthy _
      decrement_ok h _ := LoadStep.decrementActive _ h
      decrement_error h _ := LoadStep.decrementActive _ h
      release h := h.onLimits _
      nothing h := h }, fun _ _ hfirst h => ⟨hfirst, h⟩, fun _ _ h => h⟩

/-- A dispatch keeps the counters in step from each await to the next. -/
theorem dispatch_keeps_loads (cfg : GateConfig Dump) (packet : TransportPacket)
    (deadline : Option Deadline) : (dispatch cfg packet deadline).Correct loadProtocol := by
  intro tid w _ _
  obtain ⟨-, hregistry⟩ := derivePacket_frame cfg packet deadline w.state
  have hderived : LoadStep 0 ⟨w, none⟩ (w.put (derivePacket cfg packet deadline w.state).2) :=
    LoadStep.start.frame hregistry
  have hlogged : ∀ e, LoadStep 0 ⟨w, none⟩
      ((w.put (derivePacket cfg packet deadline w.state).2).emit tid e) :=
    fun _ => hderived.frame rfl
  refine wp_dispatch_outline cfg packet deadline (fun _ _ => hderived) (fun _ _ _ _ => hlogged _)
    fun plan sealed _ _ => ?_
  exact (exists_loadOutline tid plan sealed).imp fun _ hO =>
    ⟨hO.1 _ _ (fun _ => rfl) (hlogged _), fun _ => hO.2⟩

/-! ### Runs -/

lemma inFlight_set (node : String) (w w' : World (gate Dump))
    {ts : List (Status (gate Dump) TransportPacket)} {i : ℕ}
    {t : Status (gate Dump) TransportPacket} (h : ts[i]? = some t)
    (t' : Status (gate Dump) TransportPacket) :
    inFlight node ⟨w', ts.set i t'⟩ + t.request?.elim 0 (sentTo node) =
      inFlight node ⟨w, ts⟩ + t'.request?.elim 0 (sentTo node) :=
  Pool.sum_map_set _ h t'

/-- A segment of a dispatch keeps the counters truthful. -/
lemma LoadStep.truthful {c c' : Pool (gate Dump) TransportPacket} {st : Start (gate Dump)}
    {k : String → ℕ} (h : LoadStep k st c'.world) (hstart : st.world = c.world)
    (hflight : ∀ node, inFlight node c' + sentBefore node st.wake = inFlight node c + k node)
    (hc : LoadsTruthful c) : LoadsTruthful c' := by
  intro node r hget
  obtain ⟨r₀, hget₀⟩ := Dict.contains_iff.1 (h.nodes node (Dict.contains_iff.2 ⟨r, hget⟩))
  rw [hstart] at hget₀
  have hold := hc node r₀ hget₀
  have hload := h.load node
  have hsum := hflight node
  simp only [storedLoad, hget, hstart, hget₀, Option.elim_some] at hload
  omega

lemma dispatch_keeps_loads_of_isDispatch (cfg : GateConfig Dump)
    {p : Co (gate Dump) TransportPacket} (h : IsDispatch cfg p) : p.Correct loadProtocol := by
  obtain ⟨packet, deadline, rfl⟩ := h
  exact dispatch_keeps_loads cfg packet deadline

/-- In a run nothing is illegal. -/
lemma legal_loads (cfg : GateConfig Dump) (c : Pool (gate Dump) TransportPacket)
    (ms : List DispatchMove) :
    c.LegalRun loadProtocol (IsDispatch cfg) (ms.map (DispatchMove.toMove cfg)) :=
  legal_dispatchMoves cfg (fun _ _ => trivial) (fun _ _ => trivial) (fun _ _ _ => trivial) c ms

lemma good_runDispatches (cfg : GateConfig Dump) (s : GateState Dump) (ms : List DispatchMove) :
    (runDispatches cfg s ms).Good loadProtocol :=
  Pool.run_good loadProtocol_lawful (fun _ h => dispatch_keeps_loads_of_isDispatch cfg h)
    (Pool.good_init trivial) (legal_loads cfg _ ms)

/-- The registration takes effect with the load that is in flight. -/
def CountsInFlight (c : Pool (gate Dump) TransportPacket) (call : RegistrationCall) : Prop :=
  ∀ node load, call.Stores c.world.state.registry node load → load = inFlight node c

/-- One move: truthful counters stay truthful, unless a registration stores another count. -/
lemma truthful_step {cfg : GateConfig Dump} {c : Pool (gate Dump) TransportPacket}
    (hgood : c.Good loadProtocol) (m : DispatchMove)
    (hcall : ∀ call, m = .register call → CountsInFlight c call) (hc : LoadsTruthful c) :
    LoadsTruthful (c.step (m.toMove cfg)) := by
  have hmove : c.LegalMove loadProtocol (IsDispatch cfg) (m.toMove cfg) :=
    (legal_loads cfg c [m]).1
  have hstep := (Pool.stepped loadProtocol_lawful
    (fun _ h => dispatch_keeps_loads_of_isDispatch cfg h) hgood hmove).1
  cases m with
  | register call =>
    intro node r hget
    rcases call.get?_apply hget with hstored | hold
    · exact hcall call rfl node _ hstored
    · exact hc node r hold
  | setHealth nodeName healthy =>
    intro node r hget
    -- only the health of the registration changes
    have hsame := NodeRegistry.storedLoad_setHealth c.world.state.registry nodeName healthy node
    have hthere : c.world.state.registry.nodes.contains node = true :=
      NodeRegistry.contains_of_contains_updateNode _ _ _ (Dict.contains_iff.2 ⟨r, hget⟩)
    obtain ⟨r₀, hget₀⟩ := Dict.contains_iff.1 hthere
    have hget' : (c.world.state.registry.setHealth nodeName healthy).2.nodes.get? node = some r :=
      hget
    simp only [storedLoad, hget', hget₀, Option.elim_some] at hsame
    exact hsame.trans (hc node r₀ hget₀)
  -- a dispatch that starts or goes on moves its counter with its place in flight
  | dispatch packet deadline =>
    rw [DispatchMove.toMove] at hstep ⊢
    generalize hnext : c.step (.spawn (dispatch cfg packet deadline)) = c' at hstep ⊢
    cases hstep with
    | @spawn w w' ts t p hguar happ =>
      refine LoadStep.truthful hguar rfl (fun node => ?_) hc
      simp [inFlight, Pool.weight, sentBefore]
  | resume i reply =>
    rw [DispatchMove.toMove] at hstep ⊢
    generalize hnext : c.step (.resume i reply) = c' at hstep ⊢
    cases hstep with
    | @resume w w' ts t i q k reply hwait hlegal hguar happ =>
      refine LoadStep.truthful hguar rfl (fun node => ?_) hc
      exact inFlight_set node w w' hwait t
    | idle _ _ => exact hc

/-- The counters are truthful in every state that a run reaches exactly when they are so at its
start, where no dispatch is in flight, and every registration that takes effect in the run
carries the number of dispatches that are in flight on its node. -/
theorem loads_truthful_iff (cfg : GateConfig Dump) (s : GateState Dump) (ms : List DispatchMove) :
    (∀ pre, pre <+: ms → LoadsTruthful (runDispatches cfg s pre)) ↔
      (∀ node r, s.registry.nodes.get? node = some r → r.activeRequests = 0) ∧
      ∀ pre call, pre ++ [.register call] <+: ms →
        CountsInFlight (runDispatches cfg s pre) call := by
  constructor
  · intro h
    refine ⟨h [] (List.nil_prefix), fun pre call hpre node load hstores => ?_⟩
    obtain ⟨r, hget, rfl⟩ := hstores.get?
    have hafter := h _ hpre
    rw [runDispatches_concat] at hafter
    exact hafter node r hget
  · rintro ⟨hstart, hcalls⟩ pre
    induction pre using List.reverseRecOn with
    | nil => exact fun _ => hstart
    | append_singleton pre m ih =>
      intro hpre
      rw [runDispatches_concat]
      refine truthful_step (good_runDispatches cfg s pre) m ?_
        (ih ((List.prefix_append pre [m]).trans hpre))
      rintro call rfl
      exact hcalls pre call hpre

/-- The request that registers the worker again. -/
def workerAgain : RegisterNodesRequest where
  root := Dict.empty.set "worker" (AdminRegistrationService.plainInput "http://worker" "score"
    AdminRegistrationService.workerUrl_scheme AdminRegistrationService.score_normalized)

/-- While one dispatch is in flight, its worker is registered again. -/
def registeredInFlight : List DispatchMove :=
  [.dispatch (clientPacket "acme" "score" none) none,
   .resume 0 (answering (clientPacket "acme" "score" none)),
   .register (.adminRegister (.create none) workerAgain true none)]

/-- After that run one dispatch is in flight, and the counter is zero. -/
theorem registeredInFlight_not_truthful :
    ¬ ∀ (cfg : GateConfig TransportPacket) (s : GateState TransportPacket) (ms : List DispatchMove),
      (∀ node r, s.registry.nodes.get? node = some r → r.activeRequests = 0) →
        LoadsTruthful (runDispatches cfg s ms) := by
  intro h
  have hstart : ∀ node r, scoreState.registry.nodes.get? node = some r → r.activeRequests = 0 := by
    intro node r hget
    have hall :
        scoreState.registry.nodes.values.all (fun r => decide (r.activeRequests = 0)) = true := by
      decide +kernel
    exact of_decide_eq_true (List.all_eq_true.1 hall r (Dict.mem_values_iff.2 ⟨node, hget⟩))
  have htruthful := h .plain scoreState registeredInFlight hstart
  have hcounter :
      ((runDispatches .plain scoreState registeredInFlight).world.state.registry.nodes.get?
      "worker").map (fun r => r.activeRequests) = some 0 := by
    decide +kernel
  have hflight : inFlight "worker" (runDispatches .plain scoreState registeredInFlight) = 1 := by
    decide +kernel
  obtain ⟨r, hget, hzero⟩ := Option.map_eq_some_iff.1 hcounter
  have hcount := htruthful "worker" r hget
  omega

end ConstellationGate
