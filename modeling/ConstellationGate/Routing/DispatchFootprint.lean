import ConstellationGate.Lib.Footprint
import ConstellationGate.Routing.DispatchEvents

/-!
# The footprint of a dispatch

What a dispatch can record and what it does to the state: it records the packet that it derives and
the one that it hands over, and it leaves the replay guard and the actions that are advertised
alone (`Steady`).
-/

namespace ConstellationGate

variable {Dump : Type}

/-- A step leaves the replay guard alone, does not turn the wall clock back and keeps the actions
that are advertised. -/
structure Steady (s s' : GateState Dump) : Prop where
  replayGuard : s'.replayGuard = s.replayGuard
  wall : s.wall.Later s'.wall
  actions : s.registry.allSupportedActions ⊆ s'.registry.allSupportedActions

namespace Steady

lemma refl (s : GateState Dump) : Steady s s := ⟨rfl, Clock.Later.refl _, List.Subset.refl _⟩

lemma trans {s s' s'' : GateState Dump} (h : Steady s s') (h' : Steady s' s'') : Steady s s'' :=
  ⟨h'.replayGuard.trans h.replayGuard, h.wall.trans h'.wall, fun _ ha => h'.actions (h.actions ha)⟩

lemma of_reflTransGen {s s' : GateState Dump} (h : Relation.ReflTransGen Steady s s') :
    Steady s s' := by
  induction h with
  | refl => exact .refl s
  | tail _ hstep ih => exact ih.trans hstep

/-- A step that touches none of the three. -/
lemma of_eq {s s' : GateState Dump} (hguard : s'.replayGuard = s.replayGuard)
    (hwall : s'.wall = s.wall) (hregistry : s'.registry = s.registry) : Steady s s' := by
  refine ⟨hguard, ?_, ?_⟩
  · rw [hwall]
    exact Clock.Later.refl _
  · rw [hregistry]
    exact List.Subset.refl _

end Steady

/-- A step of the work on a packet: it leaves alone what the execute service owns, and the actions
that are advertised, and turns no clock back. -/
structure Working (s s' : GateState Dump) : Prop where
  idempotencyStore : s'.idempotencyStore = s.idempotencyStore
  replayGuard : s'.replayGuard = s.replayGuard
  rateLimiter : s'.rateLimiter = s.rateLimiter
  circuitBreaker : s'.circuitBreaker = s.circuitBreaker
  deadLetterQueue : s'.deadLetterQueue = s.deadLetterQueue
  inFlightRequests : s'.inFlightRequests = s.inFlightRequests
  wall : s'.wall = s.wall
  monotonic : s.monotonic.Later s'.monotonic
  actions : s.registry.allSupportedActions ⊆ s'.registry.allSupportedActions

namespace Working

lemma refl (s : GateState Dump) : Working s s :=
  ⟨rfl, rfl, rfl, rfl, rfl, rfl, rfl, MonotonicClock.Later.refl _, List.Subset.refl _⟩

lemma trans {s s' s'' : GateState Dump} (h : Working s s') (h' : Working s' s'') :
    Working s s'' where
  idempotencyStore := h'.idempotencyStore.trans h.idempotencyStore
  replayGuard := h'.replayGuard.trans h.replayGuard
  rateLimiter := h'.rateLimiter.trans h.rateLimiter
  circuitBreaker := h'.circuitBreaker.trans h.circuitBreaker
  deadLetterQueue := h'.deadLetterQueue.trans h.deadLetterQueue
  inFlightRequests := h'.inFlightRequests.trans h.inFlightRequests
  wall := h'.wall.trans h.wall
  monotonic := h.monotonic.trans h'.monotonic
  actions _ ha := h'.actions (h.actions ha)

lemma of_reflTransGen {s s' : GateState Dump} (h : Relation.ReflTransGen Working s s') :
    Working s s' := by
  induction h with
  | refl => exact .refl s
  | tail _ hstep ih => exact ih.trans hstep

lemma steady {s s' : GateState Dump} (h : Working s s') : Steady s s' :=
  ⟨h.replayGuard, h.wall ▸ Clock.Later.refl _, h.actions⟩

/-- Reading the clock and minting packets is work. -/
lemma of_clock {s : GateState Dump} {clock : MonotonicClock} (h : s.monotonic.Later clock)
    (minted : ℕ) : Working s { s with monotonic := clock, minted := minted } :=
  ⟨rfl, rfl, rfl, rfl, rfl, rfl, rfl, h, List.Subset.refl _⟩

lemma onRegistry {f : NodeRegistry → Except PyError Unit × NodeRegistry}
    (h : ∀ reg, reg.allSupportedActions ⊆ (f reg).2.allSupportedActions) (s : GateState Dump) :
    Working s (onRegistry f s).2 :=
  ⟨rfl, rfl, rfl, rfl, rfl, rfl, rfl, MonotonicClock.Later.refl _, h s.registry⟩

lemma onLimits (f : PerNodeLimiterManager → Except PyError Unit × PerNodeLimiterManager)
    (s : GateState Dump) : Working s (onLimits f s).2 := by
  rw [ConstellationGate.onLimits]
  split
  · exact .refl s
  · exact ⟨rfl, rfl, rfl, rfl, rfl, rfl, rfl, MonotonicClock.Later.refl _, List.Subset.refl _⟩

end Working

lemma working_derivePacket (cfg : GateConfig Dump) (packet : TransportPacket)
    (deadline : Option Deadline) (s : GateState Dump) :
    Working s (derivePacket cfg packet deadline s).2 := by
  rw [derivePacket]
  split
  · exact .refl s
  rename_i target _
  have hlater := later_workerBudgetMs target.timeoutMs deadline s.monotonic
  split
  · rename_i hbudget
    rw [hbudget] at hlater
    exact .of_clock hlater _
  · rename_i hbudget
    rw [hbudget] at hlater
    simp only
    split <;> exact .of_clock hlater _

section Within

variable {E : GateEvent Dump → Prop} {R : GateState Dump → GateState Dump → Prop}

lemma within_acquireLimit (hR : ∀ s s', Working s s' → R s s') (target : NodeRegistration)
    (s : GateState Dump) : (acquireLimit target : Co (gate Dump) Bool).Within E R s := by
  refine Co.within_bind (Co.within_read (S := gate Dump) _ s) fun limited s => ?_
  cases limited with
  | false => exact Co.within_pure _ s
  | true =>
    refine Co.within_bind (Co.within_call (hR _ _ (Working.onLimits _ s))) fun _ s => ?_
    refine Co.within_bind (Co.within_call (hR _ _ (Working.onLimits _ s))) fun _ s => ?_
    exact Co.within_bind (Co.within_request _ s) fun _ s => Co.within_pure _ s

lemma within_sendToWorker (hR : ∀ s s', Working s s' → R s s') (target : NodeRegistration)
    (packet : TransportPacket) (s : GateState Dump) :
    (sendToWorker target packet : Co (gate Dump) TransportPacket).Within E R s := by
  refine Co.within_handle (Co.within_request _ s) fun r s => ?_
  cases r with
  | ok answer => exact Co.within_done _ s
  | error exc =>
    simp only
    split
    · have hmark := fun reg : NodeRegistry =>
        reg.allSupportedActions_setHealth target.nodeName false
      exact Co.within_bind (Co.within_call (hR _ _ (Working.onRegistry hmark s))) fun _ s =>
        Co.within_raise _ s
    · split <;> exact Co.within_raise _ s

lemma within_giveBack (hR : ∀ s s', Working s s' → R s s') (target : NodeRegistration)
    (permits : Permits) (s : GateState Dump) :
    (giveBack target permits : Co (gate Dump) Unit).Within E R s := by
  have hrelease : ∀ s, (if permits.acquiredLimit then
      Co.call (S := gate Dump) (onLimits fun m => m.release target.nodeName)
        else pure ()).Within E R s := by
    intro s
    split
    · exact Co.within_call (hR _ _ (Working.onLimits _ s))
    · exact Co.within_pure _ s
  unfold giveBack
  simp only
  split
  · have hdecrement := fun reg : NodeRegistry =>
      reg.allSupportedActions_decrementActive target.nodeName
    exact Co.within_bind (Co.within_call (hR _ _ (Working.onRegistry hdecrement s))) fun _ s =>
      hrelease s
  · exact hrelease s

/-- The `try` block records that it hands over its packet, and nothing else. -/
lemma within_attemptUnderPermit (hR : ∀ s s', Working s s' → R s s') (plan : DispatchPlan)
    (packet : TransportPacket) (h : E (.handed plan.budget plan.target packet))
    (s : GateState Dump) : (attemptUnderPermit plan packet).Within E R s := by
  refine Co.within_bind (Co.within_attempt (within_acquireLimit hR plan.target s)) fun r s => ?_
  cases r with
  | error exc => exact Co.within_pure _ s
  | ok acquiredLimit =>
    have hincrement := fun reg : NodeRegistry =>
      reg.allSupportedActions_incrementActive plan.target.nodeName
    refine Co.within_bind (Co.within_attempt (Co.within_call
      (hR _ _ (Working.onRegistry hincrement s)))) fun r s => ?_
    cases r with
    | error exc => exact Co.within_pure _ s
    | ok u =>
      refine Co.within_bind ((Co.within_log _ s).2 h) fun _ s => ?_
      refine Co.within_bind (Co.within_attempt (within_sendToWorker hR plan.target packet s)) ?_
      exact fun _ s => Co.within_pure _ s

/-- What follows the derivation of the packet. -/
lemma within_afterDerive (hR : ∀ s s', Working s s' → R s s') (cfg : GateConfig Dump)
    (plan : DispatchPlan) (hderived : E (.derived plan.budget plan.target plan.packet))
    (hhanded : ∀ packet, sealPacket cfg plan = .ok packet →
      E (.handed plan.budget plan.target packet)) (s : GateState Dump) :
    (Co.log (S := gate Dump) (.derived plan.budget plan.target plan.packet) >>= fun _ =>
      liftExcept (sealPacket cfg plan) >>= fun dispatchPacket =>
        attemptUnderPermit plan dispatchPacket >>= fun attempt =>
          giveBack plan.target attempt.1 >>= fun _ => liftExcept attempt.2).Within E R s := by
  refine Co.within_bind ((Co.within_log (S := gate Dump) _ s).2 hderived) fun _ s => ?_
  rcases hseal : sealPacket cfg plan with e | dispatchPacket
  · trivial
  change (attemptUnderPermit plan dispatchPacket >>= _).Within _ _ _
  refine Co.within_bind (within_attemptUnderPermit hR plan dispatchPacket (hhanded _ hseal) s)
    fun attempt s => ?_
  exact Co.within_bind (within_giveBack hR plan.target attempt.1 s) fun _ s => Co.within_done _ s

/-- A dispatch records packets for workers, and leaves the rest alone. -/
lemma within_dispatch (hR : ∀ s s', Working s s' → R s s') (cfg : GateConfig Dump)
    (packet : TransportPacket) (deadline : Option Deadline)
    (hderived : ∀ budget target p, E (.derived budget target p))
    (hhanded : ∀ budget target p, E (.handed budget target p)) (s : GateState Dump) :
    (dispatch cfg packet deadline).Within E R s := by
  refine Co.within_bind (Co.within_call (hR _ _ (working_derivePacket cfg packet deadline s)))
    fun plan s => ?_
  exact within_afterDerive hR cfg plan (hderived _ _ _) (fun _ _ => hhanded _ _ _) s

end Within

end ConstellationGate
