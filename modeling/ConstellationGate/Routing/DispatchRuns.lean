import ConstellationGate.Routing.Permits
import ConstellationGate.Services.AdminRegistration

/-!
# Dispatches among registrations

The runs in which dispatches are interleaved with the calls that register nodes
(`NodeRegistry.register_node` and `AdminRegistrationService.register`) and with the health
monitor.  Every list of `DispatchMove`s is such a run: nothing is assumed about its order,
about the answers of the workers or about the calls.
-/

namespace ConstellationGate

variable {Dump : Type}

/-- A call that registers nodes. -/
inductive RegistrationCall
  | registerNode (name : String) (registration : NodeRegistration) (overwrite : Bool)
  | adminRegister (service : AdminRegistrationService) (request : RegisterNodesRequest)
      (overwrite : Bool) (presentedToken : Option String)

namespace RegistrationCall

open AdminRegistrationService

/-- The registry after the call, whether it raises or not. -/
def apply (reg : NodeRegistry) : RegistrationCall → NodeRegistry
  | registerNode name registration overwrite => (reg.registerNode name registration overwrite).2
  | adminRegister service request overwrite presentedToken =>
    (service.register request overwrite presentedToken reg).2

/-- The call stores a registration for the node, with this load. -/
def Stores (reg : NodeRegistry) : RegistrationCall → String → ℕ → Prop
  | registerNode name registration overwrite, node, load =>
    (reg.registerNode name registration overwrite).1 = .ok () ∧ normalize name = node ∧
      registration.activeRequests = load
  | adminRegister service request overwrite presentedToken, node, load =>
    service.authorize presentedToken = .ok () ∧ load = 0 ∧
      ∃ before entry after reg' reg'', request.root.entries = before ++ entry :: after ∧
        TakesAll overwrite reg before reg' ∧ Takes overwrite reg' entry reg'' ∧
        normalize entry.1 = node

/-- A registration that the service builds has no load. -/
lemma activeRequests_of_input {name : String} {input : NodeRegistrationInput}
    {r : NodeRegistration} (h : NodeRegistration.create name input.payload = .ok r) :
    r.activeRequests = 0 :=
  NodeRegistration.activeRequests_of_create h

/-- The entries of a batch that are taken, and the one at which it stops, if it stops. -/
lemma exists_taken (service : AdminRegistrationService) (request : RegisterNodesRequest)
    (overwrite : Bool) (presentedToken : Option String) (reg : NodeRegistry)
    (hauth : service.authorize presentedToken = .ok ()) :
    ∃ taken rest, request.root.entries = taken ++ rest ∧
      TakesAll overwrite reg taken (service.register request overwrite presentedToken reg).2 ∧
      ∀ entry after, rest = entry :: after → ∀ reg', ¬ Takes overwrite
        (service.register request overwrite presentedToken reg).2 entry reg' := by
  rcases service.register_cases request overwrite presentedToken reg with ⟨e, herr, -⟩ |
    ⟨-, ⟨response, reg', hall, heq⟩ | ⟨before, bad, after, reg', e, hentries, hall, hbad, heq⟩⟩
  · rw [hauth] at herr
    cases herr
  · rw [heq]
    refine ⟨request.root.entries, [], by simp, hall, fun entry after h => ?_⟩
    cases h
  · rw [heq]
    refine ⟨before, bad :: after, hentries, hall, fun entry after' h => ?_⟩
    obtain ⟨rfl, -⟩ := List.cons.inj h
    exact hbad

/-- What is stored after a call was stored by it or before it. -/
lemma get?_apply {reg : NodeRegistry} (call : RegistrationCall) {node : String}
    {r : NodeRegistration} (h : (call.apply reg).nodes.get? node = some r) :
    call.Stores reg node r.activeRequests ∨ reg.nodes.get? node = some r := by
  cases call with
  | registerNode name registration overwrite =>
    simp only [apply] at h
    rcases reg.registerNode_cases name registration overwrite with ⟨e, heq⟩ | ⟨hne, heq⟩
    · rw [heq] at h
      exact Or.inr h
    · rw [heq, Dict.get?_set] at h
      split at h
      · rename_i hnode
        obtain rfl := Option.some.inj h
        exact Or.inl ⟨by rw [heq], hnode.symm, by rw [NodeRegistration.activeRequests_storedAs]⟩
      · exact Or.inr h
  | adminRegister service request overwrite presentedToken =>
    simp only [apply] at h
    rcases hauth : service.authorize presentedToken with e | u
    · rw [register, hauth] at h
      exact Or.inr h
    obtain ⟨taken, rest, hentries, hall, -⟩ := exists_taken service request overwrite
      presentedToken reg hauth
    by_cases hnode : ∃ entry ∈ taken, normalize entry.1 = node
    · -- the last entry for the node has stored what is there
      obtain ⟨entry, hlast, rfl⟩ := exists_lastFor hnode
      obtain ⟨r', hcreate, hget⟩ := hall.get?_of_lastFor hlast
      obtain rfl := Option.some.inj (h.symm.trans hget)
      obtain ⟨l, l', rfl, -⟩ := hlast
      obtain ⟨reg', hbefore, hafter⟩ := hall.of_append
      obtain ⟨reg'', htaken⟩ := hall.takes hbefore
      refine Or.inl ⟨hauth, activeRequests_of_input hcreate, l, entry, l' ++ rest, reg', reg'', ?_,
        hbefore, htaken, rfl⟩
      rw [hentries, List.append_assoc, List.cons_append]
    · refine Or.inr ?_
      rw [← hall.get?_of_ne fun entry hentry heq => hnode ⟨entry, hentry, heq⟩]
      exact h

/-- What a call stores is there after it, with its load. -/
lemma Stores.get? {reg : NodeRegistry} {call : RegistrationCall} {node : String} {load : ℕ}
    (h : call.Stores reg node load) :
    ∃ r, (call.apply reg).nodes.get? node = some r ∧ r.activeRequests = load := by
  cases call with
  | registerNode name registration overwrite =>
    obtain ⟨hok, rfl, rfl⟩ := h
    rcases reg.registerNode_cases name registration overwrite with ⟨e, heq⟩ | ⟨hne, heq⟩
    · rw [heq] at hok
      cases hok
    · refine ⟨_, by rw [apply, heq, Dict.get?_set_self], ?_⟩
      rw [NodeRegistration.activeRequests_storedAs]
  | adminRegister service request overwrite presentedToken =>
    obtain ⟨hauth, rfl, before, entry, after, reg', reg'', hentries, hbefore, htaken, rfl⟩ := h
    obtain ⟨taken, rest, hsplit, hall, hstop⟩ := exists_taken service request overwrite
      presentedToken reg hauth
    -- the entry is one of those that are taken, and the last of them for the node stays
    have hmem : entry ∈ taken :=
      hall.mem_of_takes hstop hbefore htaken (hsplit.symm.trans hentries)
    obtain ⟨last, hlast, hnode⟩ := exists_lastFor ⟨entry, hmem, rfl⟩
    obtain ⟨r, hcreate, hget⟩ := hall.get?_of_lastFor hlast
    refine ⟨r, ?_, activeRequests_of_input hcreate⟩
    rw [← hnode]
    exact hget

/-- Registering nodes removes none. -/
lemma contains_apply {reg : NodeRegistry} (call : RegistrationCall) {node : String}
    (h : reg.nodes.contains node = true) : (call.apply reg).nodes.contains node = true := by
  cases call with
  | registerNode name registration overwrite =>
    rw [apply]
    rcases reg.registerNode_cases name registration overwrite with ⟨e, heq⟩ | ⟨hne, heq⟩
    · rwa [heq]
    · rw [heq, Dict.contains_set, h, Bool.or_true]
  | adminRegister service request overwrite presentedToken =>
    rcases hauth : service.authorize presentedToken with e | u
    · rwa [apply, register, hauth]
    · obtain ⟨taken, rest, -, hall, -⟩ := exists_taken service request overwrite presentedToken
        reg hauth
      exact hall.contains h

end RegistrationCall

/-! ### Runs -/

/-- One move of a run. -/
inductive DispatchMove
  /-- A dispatch is started. -/
  | dispatch (packet : TransportPacket) (deadline : Option Deadline)
  /-- A dispatch gets an answer to what it awaits, or an exception: a failure or a cancellation. -/
  | resume (i : ℕ) (reply : ∀ q : GateRequest, Except PyError q.Reply)
  /-- Nodes are registered. -/
  | register (call : RegistrationCall)
  /-- The health monitor marks a node. -/
  | setHealth (nodeName : String) (healthy : Bool)

/-- The move as a move of the pool of dispatches. -/
def DispatchMove.toMove (cfg : GateConfig Dump) : DispatchMove → Move (gate Dump) TransportPacket
  | dispatch packet deadline => .spawn (ConstellationGate.dispatch cfg packet deadline)
  | resume i reply => .resume i reply
  | register call => .environ fun s => { s with registry := call.apply s.registry }
  | setHealth nodeName healthy =>
    .environ fun s => { s with registry := (s.registry.setHealth nodeName healthy).2 }

/-- The pool after a run. -/
def runDispatches (cfg : GateConfig Dump) (s : GateState Dump) (ms : List DispatchMove) :
    Pool (gate Dump) TransportPacket :=
  (Pool.init s).run (ms.map (DispatchMove.toMove cfg))

/-- The runs are legal for a protocol whose environment registers nodes and marks them. -/
lemma legal_dispatchMoves {P : Protocol (gate Dump)} (cfg : GateConfig Dump)
    (hlegal : ∀ q r, P.Legal q r)
    (hregister : ∀ (s : GateState Dump) (call : RegistrationCall),
      P.Env s { s with registry := call.apply s.registry })
    (hhealth : ∀ (s : GateState Dump) nodeName healthy,
      P.Env s { s with registry := (s.registry.setHealth nodeName healthy).2 })
    (c : Pool (gate Dump) TransportPacket) (ms : List DispatchMove) :
    c.LegalRun P (IsDispatch cfg) (ms.map (DispatchMove.toMove cfg)) := by
  induction ms generalizing c with
  | nil => trivial
  | cons m ms ih =>
    refine ⟨?_, ih _⟩
    cases m with
    | dispatch packet deadline => exact ⟨packet, deadline, rfl⟩
    | resume i reply => exact fun q _ _ => hlegal q _
    | register call => exact hregister _ call
    | setHealth nodeName healthy => exact hhealth _ nodeName healthy

lemma runDispatches_concat (cfg : GateConfig Dump) (s : GateState Dump) (ms : List DispatchMove)
    (m : DispatchMove) :
    runDispatches cfg s (ms ++ [m]) = (runDispatches cfg s ms).step (m.toMove cfg) := by
  simp [runDispatches, Pool.run]

end ConstellationGate
