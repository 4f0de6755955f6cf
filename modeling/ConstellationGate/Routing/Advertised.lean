import ConstellationGate.Routing.DispatchFootprint
import ConstellationGate.Routing.DispatchRuns

/-!
# What workers are sent

Where the packets go that dispatches hand to the worker transport.  A dispatch resolves its
packet once, when it starts, and sends to no other node (`HandsTo`); whatever happens between
its awaits, a packet for Gate therefore goes to a node that was healthy and advertised its
action (`sent_where_resolved`).  A packet that Gate itself has written for a worker is resolved
by its destination instead (`docs/action-resolution.md`, Rule 2): its action is not looked at.
-/

namespace ConstellationGate

variable {Dump : Type}

/-- The derived packet has the action of the packet that is dispatched. -/
lemma action_derivePacket {cfg : GateConfig Dump} {packet : TransportPacket}
    {deadline : Option Deadline} {s : GateState Dump} {plan : DispatchPlan}
    (h : (derivePacket cfg packet deadline s).1 = .ok plan) :
    normalize plan.packet.header.action = normalize packet.header.action := by
  obtain ⟨-, -, budgetMs, clock, observed, -, ⟨hop, rfl⟩, hderive⟩ := of_derivePacket h
  exact (cfg.sdk.derive_ok hderive).action _ rfl

/-! ### What a dispatch hands over -/

/-- A dispatch of `packet` that starts with the registry `reg` hands packets with its action to the
node that it is resolved to. -/
def HandsTo (cfg : GateConfig Dump) (reg : NodeRegistry) (packet : TransportPacket) :
    GateEvent Dump → Prop
  | .handed _ target p => resolvePacket reg cfg.gateNode packet = .ok target ∧
      normalize p.header.action = normalize packet.header.action
  | _ => True

/-- Where a dispatch sends is decided by the registry at its start. -/
lemma segment_dispatch_handsTo (cfg : GateConfig Dump) (packet : TransportPacket)
    (deadline : Option Deadline) (tid : ℕ) (w : World (gate Dump)) :
    ((dispatch cfg packet deadline).segment tid w).1.Within
        (HandsTo cfg w.state.registry packet) (fun _ _ => True) ∧
      ∃ es : List (GateEvent Dump),
        ((dispatch cfg packet deadline).segment tid w).2.log = w.log ++ es.map (Prod.mk tid) ∧
          ∀ e ∈ es, HandsTo cfg w.state.registry packet e := by
  rcases hplan : (derivePacket cfg packet deadline w.state).1 with e | plan
  · rw [dispatch, Co.segment_bind_call_error (Prod.ext hplan rfl)]
    exact ⟨trivial, [], by simp, by simp⟩
  have hhanded : ∀ dispatchPacket, sealPacket cfg plan = .ok dispatchPacket →
      HandsTo cfg w.state.registry packet (.handed plan.budget plan.target dispatchPacket) := by
    intro dispatchPacket hseal
    refine ⟨(of_derivePacket hplan).1, ?_⟩
    rw [header_sealPacket hseal, action_derivePacket hplan]
  rw [dispatch, Co.segment_bind_call_ok (Prod.ext hplan rfl)]
  have hrest := within_afterDerive (E := HandsTo cfg w.state.registry packet)
    (R := fun _ _ => True) (fun _ _ _ => trivial) cfg plan trivial hhanded
    (derivePacket cfg packet deadline w.state).2
  have hseg := Co.segment_within (w := w.put (derivePacket cfg packet deadline w.state).2) hrest tid
  exact ⟨hseg.status, hseg.log⟩

/-! ### Runs -/

/-- What a dispatch records in a run was decided by the registry when it was started. -/
lemma handsTo_of_mem_log {cfg : GateConfig Dump} {s : GateState Dump} {ms : List DispatchMove}
    {tid : ℕ} {e : GateEvent Dump} (h : (tid, e) ∈ (runDispatches cfg s ms).world.log) :
    ∃ pre packet deadline, pre ++ [.dispatch packet deadline] <+: ms ∧
      (runDispatches cfg s pre).tasks.length = tid ∧
      HandsTo cfg (runDispatches cfg s pre).world.state.registry packet e := by
  obtain ⟨pre', p, hstarted⟩ := Pool.exists_started (Pool.lt_length_of_mem_runLog h)
  obtain ⟨pre, m, hmoves, rfl, hm⟩ := Pool.exists_of_prefix_map hstarted.moves
  cases m with
  | resume i reply => cases hm
  | register call => cases hm
  | setHealth nodeName healthy => cases hm
  | dispatch packet deadline =>
    obtain rfl := Move.spawn.inj hm
    refine ⟨pre, packet, deadline, hmoves, hstarted.length, ?_⟩
    have hwithin := hstarted.taskWithin (R := fun _ _ => True)
      (E := HandsTo cfg (runDispatches cfg s pre).world.state.registry packet) ?_
    · obtain ⟨t, -, -, hlog⟩ := hwithin
      exact hlog e h
    · rintro w rfl
      exact segment_dispatch_handsTo cfg packet deadline tid _

/-- In every run a packet that is handed to the worker transport goes where the packet that was
dispatched resolved to when its dispatch started: to a registration that was healthy; when that
packet was for Gate, to one that advertises its action, and that owns it when it is canonical
and the registry was built by `register_node`; when Gate had written it for a worker, to the
registration of that worker. -/
theorem sent_where_resolved (cfg : GateConfig Dump) (s : GateState Dump) (ms : List DispatchMove)
    {tid : ℕ} {budget : Option (Deadline × ℚ)} {target : NodeRegistration} {p : TransportPacket}
    (h : (tid, .handed budget target p) ∈ (runDispatches cfg s ms).world.log) :
    ∃ pre packet deadline reg, pre ++ [.dispatch packet deadline] <+: ms ∧
      (runDispatches cfg s pre).tasks.length = tid ∧
      (runDispatches cfg s pre).world.state.registry = reg ∧
      normalize p.header.action = normalize packet.header.action ∧ target.healthy = true ∧
      (normalize packet.address.destinationNode = cfg.gateNode ∧ target ∈ reg.nodes.values ∧
          normalize p.header.action ∈ target.supportedActions ∧
          (∀ ops, reg = NodeRegistry.empty.runNode ops →
            OwnsAction target.owner (normalize p.header.action)) ∨
        normalize packet.address.destinationNode ≠ cfg.gateNode ∧
          packet.provenance.originKind = .gate ∧ packet.provenance.resolvedByGate = true ∧
          normalize packet.address.sourceNode = cfg.gateNode ∧
          reg.nodes.get? (normalize packet.address.destinationNode) = some target) := by
  obtain ⟨pre, packet, deadline, hpre, hlen, hresolve, haction⟩ := handsTo_of_mem_log h
  obtain ⟨hhealthy, hroute⟩ := of_resolvePacket hresolve
  refine ⟨pre, packet, deadline, _, hpre, hlen, rfl, haction, hhealthy, ?_⟩
  rcases hroute with ⟨hgate, hmem, hadvertised⟩ | hexplicit
  · rw [haction]
    refine Or.inl ⟨hgate, hmem, hadvertised, fun ops hops => ?_⟩
    rw [hops] at hmem
    have howned := NodeRegistry.canonicallyOwned_runNode NodeRegistry.canonicallyOwned_empty ops
    exact howned target hmem _ hadvertised
  · exact Or.inr hexplicit

/-- The packet that is handed over, and for whom. -/
def GateEvent.handed? : GateEvent Dump → Option (NodeRegistration × TransportPacket)
  | .handed _ target p => some (target, p)
  | _ => none

lemma GateEvent.handed?_eq_some {e : GateEvent Dump} {target : NodeRegistration}
    {p : TransportPacket} :
    e.handed? = some (target, p) ↔ ∃ budget, e = .handed budget target p := by
  cases e <;> simp [handed?]

/-- One dispatch of a packet, which is sent. -/
def dispatchOnce (packet : TransportPacket) : List DispatchMove :=
  [.dispatch packet none, .resume 0 (answering packet)]

/-- A client's packet is sent to a node that advertises its action. -/
theorem sent_where_resolved_score :
    ∃ tid budget target p, (tid, GateEvent.handed budget target p) ∈
        (runDispatches .plain scoreState
          (dispatchOnce (clientPacket "acme" "score" none))).world.log ∧
      ∃ pre packet deadline reg,
        pre ++ [.dispatch packet deadline] <+: dispatchOnce (clientPacket "acme" "score" none) ∧
        (runDispatches .plain scoreState pre).tasks.length = tid ∧
        (runDispatches .plain scoreState pre).world.state.registry = reg ∧
        normalize p.header.action = normalize packet.header.action ∧ target.healthy = true ∧
        (normalize packet.address.destinationNode = GateConfig.plain.gateNode ∧
            target ∈ reg.nodes.values ∧
            normalize p.header.action ∈ target.supportedActions ∧
            (∀ ops, reg = NodeRegistry.empty.runNode ops →
              OwnsAction target.owner (normalize p.header.action)) ∨
          normalize packet.address.destinationNode ≠ GateConfig.plain.gateNode ∧
            packet.provenance.originKind = .gate ∧ packet.provenance.resolvedByGate = true ∧
            normalize packet.address.sourceNode = GateConfig.plain.gateNode ∧
            reg.nodes.get? (normalize packet.address.destinationNode) = some target) := by
  have hsent : (runDispatches .plain scoreState
      (dispatchOnce (clientPacket "acme" "score" none))).world.log.any
        (fun e => e.2.handed?.isSome) = true := by
    decide +kernel
  obtain ⟨⟨tid, e⟩, hmem, hsome⟩ := List.any_eq_true.1 hsent
  obtain ⟨⟨target, p⟩, heq⟩ := Option.isSome_iff_exists.1 hsome
  obtain ⟨budget, rfl⟩ := GateEvent.handed?_eq_some.1 heq
  exact ⟨tid, budget, target, p, hmem, sent_where_resolved .plain scoreState _ hmem⟩

/-- A packet that Gate has written for the worker, with an action that the worker does not
advertise. -/
def gateAuthored : TransportPacket :=
  let packet := clientPacket "acme" "archive" none
  { packet with
    address := { sourceNode := "gate", destinationNode := "worker", replyTo := "gate" }
    provenance := { originKind := .gate, requestedAction := "archive", resolvedByGate := true } }

/-- That packet is sent to the worker. -/
theorem gateAuthored_not_advertised :
    ¬ ∀ (cfg : GateConfig TransportPacket) (s : GateState TransportPacket) (ms : List DispatchMove)
      tid budget target p, (tid, GateEvent.handed budget target p) ∈
        (runDispatches cfg s ms).world.log →
      target.healthy = true ∧ normalize p.header.action ∈ target.supportedActions := by
  intro h
  have hsent : (runDispatches .plain scoreState (dispatchOnce gateAuthored)).world.log.any
      (fun e => e.2.handed?.any fun sent => decide
        (normalize sent.2.header.action ∉ sent.1.supportedActions)) = true := by
    decide +kernel
  obtain ⟨⟨tid, e⟩, hmem, hany⟩ := List.any_eq_true.1 hsent
  obtain ⟨⟨target, p⟩, heq, hnot⟩ := (Option.any_eq_true _ _).1 hany
  obtain ⟨budget, rfl⟩ := GateEvent.handed?_eq_some.1 heq
  have hadvertised := (h .plain scoreState _ tid budget target p hmem).2
  exact of_decide_eq_true hnot hadvertised

end ConstellationGate
