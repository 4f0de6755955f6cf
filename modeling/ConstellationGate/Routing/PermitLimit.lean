import ConstellationGate.Routing.LoadCounter

/-!
# The limit of a node

A dispatch is granted its permit in its first segment, right after it has set the limit of
the node to that of the registration that it resolved (`Grants`).  The count that it is
compared with is at least the number of dispatches that hold a permit (`permits_run`), so that
no worker is given more than its registration allows, whatever the registrations that come in
between do to the limits and to the load counters (`granted_below_limit`).
-/

namespace ConstellationGate

variable {Dump : Type}

namespace PerNodeLimiterManager

/-- A permit that is reserved right after the limit was set is below that limit. -/
lemma activeCount_lt_of_reserve (m : PerNodeLimiterManager) {nodeName : String} {limit : ℕ}
    (hensure : (m.ensureNodeLimit nodeName limit).1 = .ok ())
    (hreserve : ((m.ensureNodeLimit nodeName limit).2.reserve nodeName).1 = .ok ()) :
    m.activeCount nodeName < limit := by
  have hlimit : (m.ensureNodeLimit nodeName limit).2.limits.get? (normalize nodeName) =
      some limit := by
    unfold ensureNodeLimit at hensure ⊢
    split at hensure
    · cases hensure
    split at hensure
    · cases hensure
    rename_i hname hone
    rw [if_neg hname, if_neg hone]
    exact Dict.get?_set_self _ _ _
  have hcount := m.activeCount_ensureNodeLimit nodeName limit nodeName
  rw [reserve, hlimit] at hreserve
  simp only at hreserve
  split at hreserve
  · cases hreserve
  · rename_i hroom
    rw [activeCount] at hcount
    omega

end PerNodeLimiterManager

/-- What a segment of a dispatch does about permits, when the registration that the packet is for
is one of `target`: only a segment that starts the dispatch takes a permit, below the limit of
the registration; a dispatch that goes on holds at most the permit that it held. -/
def Grants (Resolves : NodeRegistry → NodeRegistration → Prop) (st : Start (gate Dump))
    (q : Option GateRequest) : Prop :=
  match st.wake with
  | none => st.world.state.nodeLimits.isSome = true → ∀ node, q.elim 0 (heldAt node) ≠ 0 →
    ∃ target, Resolves st.world.state.registry target ∧
      normalize target.nodeName = normalize node ∧
      activePermits st.world.state node < target.maxConcurrent
  | some r => ∀ node, q.elim 0 (heldAt node) ≤ heldAt node r.1

/-- The agreement between dispatches about permits. -/
def grantProtocol (Resolves : NodeRegistry → NodeRegistration → Prop) : Protocol (gate Dump) where
  Inv _ := True
  Rely _ _ _ := True
  Guar _ st _ q := Grants Resolves st q
  Env _ _ := True
  Legal _ _ := True

lemma grantProtocol_lawful (Resolves : NodeRegistry → NodeRegistration → Prop) :
    (grantProtocol Resolves : Protocol (gate Dump)).Lawful where
  rely_refl _ _ := trivial
  rely_trans _ _ := trivial
  guar_inv _ _ _ _ _ := trivial
  guar_rely _ _ _ _ _ _ _ := trivial
  env_inv _ _ := trivial
  env_rely _ _ := trivial

/-- A segment that ends the dispatch takes no permit. -/
lemma grants_none {Resolves : NodeRegistry → NodeRegistration → Prop} {st : Start (gate Dump)} :
    Grants Resolves st none := by
  unfold Grants
  split
  · intro _ node hheld
    exact absurd rfl hheld
  · exact fun node => Nat.zero_le _

/-- Along a dispatch its task takes one permit, in `acquire`, where the limit of its registration
leaves room. -/
lemma exists_grantOutline {Resolves : NodeRegistry → NodeRegistration → Prop} (tid : ℕ)
    (plan : DispatchPlan) (packet : TransportPacket) :
    ∃ O : DispatchOutline (grantProtocol Resolves : Protocol (gate Dump)) tid plan packet,
      ∀ st w, st.wake = none → w.state.nodeLimits = st.world.state.nodeLimits →
        Resolves st.world.state.registry plan.target → O.Fresh st w := by
  refine ⟨
    { Fresh st w := st.wake = none ∧ w.state.nodeLimits = st.world.state.nodeLimits ∧
        Resolves st.world.state.registry plan.target
      Limited st w := st.wake = none ∧ Resolves st.world.state.registry plan.target ∧
        ∃ m, st.world.state.nodeLimits = some m ∧
          (m.ensureNodeLimit plan.target.nodeName plan.target.maxConcurrent).1 = .ok () ∧
          w.state.nodeLimits =
            some (m.ensureNodeLimit plan.target.nodeName plan.target.maxConcurrent).2
      Granted _ st _ := ∀ packet url,
        Grants Resolves st (some (.send plan.target.nodeName packet url))
      Counted _ st _ := Grants Resolves st
        (some (.send plan.target.nodeName packet plan.target.internalUrl))
      Holding _ _ _ := True
      Done _ _ := True
      unlimited := by
        rintro st w ⟨hwake, hlimits, -⟩ hnone packet url
        -- without a limiter there are no permits
        unfold Grants
        rw [hwake]
        intro hlimiter
        rw [← hlimits, hnone] at hlimiter
        cases hlimiter
      ensure_ok := by
        rintro st w ⟨hwake, hlimits, hres⟩ hsome hok
        obtain ⟨m, hm⟩ := Option.isSome_iff_exists.1 hsome
        simp only [ensured, onLimits, hm] at hok ⊢
        exact ⟨hwake, hres, m, hlimits.symm.trans hm, hok, rfl⟩
      ensure_error _ _ := trivial
      reserve_ok := by
        rintro st w ⟨hwake, hres, m, hstart, hensure, hlimits⟩ hok
        simp only [reserved, onLimits, hlimits] at hok
        have hroom := m.activeCount_lt_of_reserve hensure hok
        refine ⟨?_, fun _ _ _ => ⟨fun _ => trivial, fun packet url node => le_rfl⟩⟩
        change Grants Resolves st _
        unfold Grants
        rw [hwake]
        intro _ node hheld
        have hnode : normalize node = normalize plan.target.nodeName := by
          by_contra hne
          exact hheld (if_neg hne)
        refine ⟨plan.target, hres, hnode.symm, ?_⟩
        rw [activePermits, hstart, Option.elim_some, PerNodeLimiterManager.activeCount, hnode]
        exact hroom
      reserve_error _ _ := trivial
      increment_ok h _ := h _ _
      increment_error _ _ := trivial
      send h := ⟨h, fun _ _ _ _ => trivial⟩
      mark _ := trivial
      decrement_ok _ _ := trivial
      decrement_error _ _ := trivial
      release _ := trivial
      nothing _ := trivial }, fun _ _ hwake hlimits hres => ⟨hwake, hlimits, hres⟩⟩

/-- A dispatch takes one permit, in its first segment, below the limit of the registration that
its packet is for. -/
theorem dispatch_grants (Resolves : NodeRegistry → NodeRegistration → Prop) (cfg : GateConfig Dump)
    (packet : TransportPacket) (deadline : Option Deadline)
    (hres : ∀ reg target, resolvePacket reg cfg.gateNode packet = .ok target →
      Resolves reg target) :
    (dispatch cfg packet deadline).Correct (grantProtocol Resolves) := by
  intro tid w _ _
  obtain ⟨hlimits, -⟩ := derivePacket_frame cfg packet deadline w.state
  have hend : ∀ st w', (grantProtocol Resolves : Protocol (gate Dump)).Guar tid st w' none :=
    fun _ _ => grants_none
  refine wp_dispatch_outline cfg packet deadline (fun _ _ => hend _ _)
    (fun _ _ _ _ => hend _ _) fun plan sealed hplan _ => ?_
  have htarget : Resolves w.state.registry plan.target := hres _ _ (of_derivePacket hplan).1
  exact (exists_grantOutline tid plan sealed).imp fun _ hfresh =>
    ⟨hfresh _ _ rfl hlimits htarget, fun _ _ _ _ => hend _ _⟩

/-! ### Runs -/

/-- In every state that a run reaches the count of the limiter is at least the number of
dispatches that hold a permit. -/
lemma holders_le_active (cfg : GateConfig Dump) {s : GateState Dump}
    (hlimiter : s.nodeLimits.isSome = true) (ms : List DispatchMove) (node : String) :
    (runDispatches cfg s ms).Good permitProtocol ∧
      holders node (runDispatches cfg s ms) ≤
        activePermits (runDispatches cfg s ms).world.state node := by
  have hprog : ∀ p : Co (gate Dump) TransportPacket, IsDispatch cfg p →
      p.Correct permitProtocol := by
    rintro p ⟨packet, deadline, rfl⟩
    exact dispatch_correct cfg packet deadline
  have hstart : (Pool.init s : Pool (gate Dump) TransportPacket).Good permitProtocol :=
    Pool.good_init hlimiter
  have hlegal := legal_dispatchMoves (P := permitProtocol) cfg (fun _ _ => trivial)
    (fun _ call => ⟨rfl, fun _ hnode => call.contains_apply hnode⟩)
    (fun _ _ _ => ⟨rfl, fun _ hnode => contains_updateNode _ _ _ hnode⟩) (Pool.init s) ms
  have hzero : activePermits s node =
      holders node (Pool.init s : Pool (gate Dump) TransportPacket) + activePermits s node :=
    (Nat.zero_add _).symm
  have hcount := permits_run hstart hlegal hzero
  refine ⟨Pool.run_good permitProtocol_lawful hprog hstart hlegal, ?_⟩
  rw [runDispatches]
  omega

/-- A dispatch that is resumed takes no permit. -/
lemma holders_resume_le (cfg : GateConfig Dump) (s : GateState Dump) (ms : List DispatchMove)
    (i : ℕ) (reply : ∀ q : GateRequest, Except PyError q.Reply) (node : String) :
    holders node ((runDispatches cfg s ms).step (.resume i reply)) ≤
      holders node (runDispatches cfg s ms) := by
  have hprog : ∀ p : Co (gate Dump) TransportPacket, IsDispatch cfg p →
      p.Correct (grantProtocol fun _ _ => True) := by
    rintro p ⟨packet, deadline, rfl⟩
    exact dispatch_grants _ cfg packet deadline fun _ _ _ => trivial
  have hlegal := legal_dispatchMoves (P := grantProtocol fun _ _ => True) cfg (fun _ _ => trivial)
    (fun _ _ => trivial) (fun _ _ _ => trivial)
  have hgood := Pool.run_good (grantProtocol_lawful _) hprog (Pool.good_init trivial)
    (hlegal (Pool.init s) ms)
  have hstep := (Pool.stepped (grantProtocol_lawful _) hprog hgood
    (hlegal _ [.resume i reply]).1).1
  rw [← runDispatches, DispatchMove.toMove] at hstep
  generalize (runDispatches cfg s ms).step (.resume i reply) = c' at hstep ⊢
  generalize runDispatches cfg s ms = c at hstep ⊢
  cases hstep with
  | @resume w w' ts t i q k reply hwait hlegal hguar happ =>
    have hsum := holders_set node w w' hwait t
    have hheld : t.request?.elim 0 (heldAt node) ≤ heldAt node q := hguar node
    simp only [Status.request?, Option.elim_some] at hsum hheld
    omega
  | idle _ _ => exact le_rfl

/-- A dispatch is only granted a permit while fewer dispatches hold one than the registration that
it resolved allows: whenever a move of a run makes the number of dispatches that hold a permit of
a node grow, it starts a dispatch whose packet resolves to a registration of that node, and the
dispatches that held one before it are fewer than the `max_concurrent` of this registration. -/
theorem granted_below_limit (cfg : GateConfig Dump) {s : GateState Dump}
    (hlimiter : s.nodeLimits.isSome = true) (ms : List DispatchMove) (m : DispatchMove)
    (node : String)
    (hgrant : holders node (runDispatches cfg s ms) <
      holders node (runDispatches cfg s (ms ++ [m]))) :
    ∃ packet deadline target, m = .dispatch packet deadline ∧
      resolvePacket (runDispatches cfg s ms).world.state.registry cfg.gateNode packet = .ok target ∧
      normalize target.nodeName = normalize node ∧
      holders node (runDispatches cfg s ms) < target.maxConcurrent := by
  obtain ⟨hgood, hactive⟩ := holders_le_active cfg hlimiter ms node
  rw [runDispatches_concat] at hgrant
  -- only the start of a dispatch takes a permit
  cases m with
  | register call => exact absurd hgrant (lt_irrefl _)
  | setHealth nodeName healthy => exact absurd hgrant (lt_irrefl _)
  | resume i reply =>
    have hle := holders_resume_le cfg s ms i reply node
    exact absurd hgrant (not_lt.2 hle)
  | dispatch packet deadline =>
    generalize runDispatches cfg s ms = c at hgrant hgood hactive ⊢
    obtain ⟨w, ts⟩ := c
    have hcorrect := dispatch_grants
      (fun reg target => resolvePacket reg cfg.gateNode packet = .ok target) cfg packet deadline
      (fun _ _ h => h) ts.length w trivial (hgood.fresh ts.length le_rfl)
    obtain ⟨-, hguar, -, -⟩ := Pool.segment_guar (grantProtocol_lawful _) trivial hcorrect
    have hsum : holders node (Pool.step ⟨w, ts⟩ (.spawn (dispatch cfg packet deadline))) =
        holders node ⟨w, ts⟩ +
          ((dispatch cfg packet deadline).segment ts.length w).1.request?.elim 0 (heldAt node) := by
      simp [holders, Pool.weight, Pool.step]
    rw [DispatchMove.toMove, hsum] at hgrant
    have hlimits : w.state.nodeLimits.isSome = true := hgood.inv
    -- the limit leaves room above the count, and the count is at least the number of holders
    obtain ⟨target, hresolve, hnode, hroom⟩ := hguar hlimits node (by omega)
    exact ⟨packet, deadline, target, rfl, hresolve, hnode, lt_of_le_of_lt hactive hroom⟩

/-- After the worker of a dispatch in flight was registered again, another dispatch is granted a
permit of it. -/
theorem granted_below_limit_registeredInFlight :
    ∃ packet deadline target,
      DispatchMove.dispatch (clientPacket "acme" "score" none) none = .dispatch packet deadline ∧
      resolvePacket (runDispatches .plain scoreState registeredInFlight).world.state.registry
        GateConfig.plain.gateNode packet = .ok target ∧
      normalize target.nodeName = normalize "worker" ∧
      holders "worker" (runDispatches .plain scoreState registeredInFlight) <
        target.maxConcurrent :=
  granted_below_limit .plain rfl registeredInFlight
    (.dispatch (clientPacket "acme" "score" none) none) "worker" (by decide +kernel)

end ConstellationGate
