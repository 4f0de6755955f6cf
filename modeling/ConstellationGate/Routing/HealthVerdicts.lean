import ConstellationGate.Lib.Segments
import ConstellationGate.Routing.HealthMonitor
import ConstellationGate.Routing.LoadCounter
import ConstellationGate.Routing.RegistryRuns

/-!
# Verdicts on the health of nodes

The monitor and the dispatcher judge the health of a node by a URL that they have read from the
registry, and write what they find under the name of the node after an await.  A registration of the
node in the meantime is not noticed.

When no verdict arrives for a node that has been registered again since, every change of the health
of a registered node is a verdict on the URL that the node has (`verdicts_own`).
-/

namespace ConstellationGate

variable {Dump : Type}

/-! ### Verdicts -/

/-- A probe or a dispatch that gets this reply marks the node. -/
def Marks : (q : (monitored Dump).Request) → Except PyError ((monitored Dump).Reply q) → String →
    Bool → Prop
  | .inr q, reply, node, healthy => normalize q.nodeName = node ∧
      probeVerdict reply = .ok healthy ∧ healthy ≠ q.registration.healthy
  | .inl (.send nodeName _ _), reply, node, healthy => normalize nodeName = node ∧
      healthy = false ∧ ∃ exc, reply = .error exc ∧ exc.isInstance [.workerConnectionError] = true
  | .inl _, _, _, _ => False

/-- The request goes to the URL that a registration has. -/
def GoesTo (r : NodeRegistration) : (monitored Dump).Request → Prop
  | .inr q => q.url = r.internalUrl ++ r.healthEndpoint
  | .inl (.send _ _ url) => url = r.internalUrl
  | .inl _ => False

/-- What the request says about its node has been read from the registry. -/
def ReadFrom (reg : NodeRegistry) : (monitored Dump).Request → Prop
  | .inr q => reg.nodes.get? (normalize q.nodeName) = some q.registration
  | .inl (.send nodeName _ url) =>
    ∃ r, reg.nodes.get? (normalize nodeName) = some r ∧ url = r.internalUrl
  | .inl _ => True

/-- The registrations have the same URLs. -/
structure SameUrls (r s : NodeRegistration) : Prop where
  internalUrl : s.internalUrl = r.internalUrl
  healthEndpoint : s.healthEndpoint = r.healthEndpoint

lemma SameUrls.refl (r : NodeRegistration) : SameUrls r r := ⟨rfl, rfl⟩

lemma SameUrls.trans {r s t : NodeRegistration} (h : SameUrls r s) (h' : SameUrls s t) :
    SameUrls r t :=
  ⟨h'.internalUrl.trans h.internalUrl, h'.healthEndpoint.trans h.healthEndpoint⟩

/-- A request on a node that is read from a registry goes to the URL that the node still has. -/
lemma ReadFrom.goesTo {reg : NodeRegistry} {q : (monitored Dump).Request}
    {reply : Except PyError ((monitored Dump).Reply q)} {node : String} {healthy : Bool}
    {r₀ r : NodeRegistration} (hread : ReadFrom reg q) (hmarks : Marks q reply node healthy)
    (hget : reg.nodes.get? node = some r₀) (hsame : SameUrls r₀ r) : GoesTo r q := by
  rcases q with q | q
  · cases q with
    | send nodeName packet url =>
      obtain ⟨rfl, -, -⟩ := hmarks
      obtain ⟨r', hget', rfl⟩ := hread
      obtain rfl := Option.some.inj (hget.symm.trans hget')
      exact hsame.internalUrl.symm
    | _ => cases hmarks
  · obtain ⟨rfl, -, -⟩ := hmarks
    obtain rfl := Option.some.inj (hget.symm.trans hread)
    change _ ++ _ = _
    rw [hsame.internalUrl, hsame.healthEndpoint]

/-! ### What a turn does to the health of nodes -/

/-- A write of a turn: every node was there, with the same URLs, and its health is changed only by
the verdict that has woken the task. -/
structure Judged (wake : Wake (monitored Dump)) (s s' : GateState Dump) : Prop where
  keyed : s.registry.Keyed → s'.registry.Keyed
  judged : ∀ node r', s'.registry.nodes.get? node = some r' →
    ∃ r, s.registry.nodes.get? node = some r ∧ SameUrls r r' ∧
      (r'.healthy = r.healthy ∨
        ∃ q reply, wake = some ⟨q, reply⟩ ∧ Marks q reply node r'.healthy)

namespace Judged

variable {wake : Wake (monitored Dump)} {s s' s'' : GateState Dump}

lemma trans (h : Judged wake s s') (h' : Judged wake s' s'') : Judged wake s s'' where
  keyed hk := h'.keyed (h.keyed hk)
  judged node r'' hget := by
    obtain ⟨r', hget', hsame', hcase'⟩ := h'.judged node r'' hget
    obtain ⟨r, hget₀, hsame, hcase⟩ := h.judged node r' hget'
    refine ⟨r, hget₀, hsame.trans hsame', ?_⟩
    rcases hcase' with heq' | hmarks
    · rwa [heq']
    · exact .inr hmarks

lemma of_registry_eq (h : s'.registry = s.registry) : Judged wake s s' where
  keyed hk := by rwa [h]
  judged node r' hget := ⟨r', by rwa [← h], .refl r', .inl rfl⟩

lemma refl (s : GateState Dump) : Judged wake s s := of_registry_eq rfl

lemma of_reflTransGen (h : Relation.ReflTransGen (Judged wake) s s') : Judged wake s s' := by
  induction h with
  | refl => exact refl s
  | tail _ hstep ih => exact ih.trans hstep

/-- An operation on one node, which leaves its name and its URLs alone. -/
lemma of_updateNode {nodeName : String} {f : NodeRegistration → Except PyError NodeRegistration}
    (hname : ∀ r r', f r = .ok r' → r'.nodeName = r.nodeName ∧ SameUrls r r')
    (hhealth : ∀ r r', f r = .ok r' → r'.healthy = r.healthy ∨
      ∃ q reply, wake = some ⟨q, reply⟩ ∧ Marks q reply (normalize nodeName) r'.healthy)
    (s : GateState Dump) :
    Judged wake s (onRegistry (fun reg => reg.updateNode nodeName f) s).2 := by
  rcases s.registry.updateNode_cases nodeName f with ⟨e, heq⟩ | ⟨r, r', hget, hf, heq⟩
  · refine of_registry_eq ?_
    rw [onRegistry, heq]
  have hreg : (onRegistry (fun reg => reg.updateNode nodeName f) s).2.registry =
      ⟨s.registry.nodes.set (normalize nodeName) r'⟩ := by
    rw [onRegistry, heq]
  constructor
  · intro hk
    rw [hreg]
    exact hk.set ((hname r r' hf).1.trans (hk _ r hget))
  · intro node r'' hget''
    rw [hreg, Dict.get?_set] at hget''
    split at hget''
    · rename_i hnode
      subst hnode
      obtain rfl := Option.some.inj hget''
      exact ⟨r, hget, (hname r r' hf).2, hhealth r r' hf⟩
    · exact ⟨r'', hget'', .refl r'', .inl rfl⟩

lemma incrementActive (nodeName : String) (s : GateState Dump) :
    Judged wake s (onRegistry (fun reg => reg.incrementActive nodeName) s).2 := by
  refine of_updateNode (fun r r' h => ?_) (fun r r' h => ?_) s
  all_goals
    split at h
    · cases h
    obtain rfl := Except.ok.inj h
  · exact ⟨rfl, ⟨rfl, rfl⟩⟩
  · exact .inl rfl

lemma decrementActive (nodeName : String) (s : GateState Dump) :
    Judged wake s (onRegistry (fun reg => reg.decrementActive nodeName) s).2 := by
  refine of_updateNode (fun r r' h => ?_) (fun r r' h => ?_) s
  · obtain rfl := Except.ok.inj h
    exact ⟨rfl, ⟨rfl, rfl⟩⟩
  · obtain rfl := Except.ok.inj h
    exact .inl rfl

lemma onLimits (f : PerNodeLimiterManager → Except PyError Unit × PerNodeLimiterManager)
    (s : GateState Dump) : Judged wake s (onLimits f s).2 := by
  refine of_registry_eq ?_
  rw [ConstellationGate.onLimits]
  split <;> rfl

/-- A verdict is written. -/
lemma setHealth {q : (monitored Dump).Request} {reply : Except PyError ((monitored Dump).Reply q)}
    {nodeName : String} {healthy : Bool} (h : Marks q reply (normalize nodeName) healthy)
    (s : GateState Dump) :
    Judged (some ⟨q, reply⟩) s (onRegistry (fun reg => reg.setHealth nodeName healthy) s).2 := by
  refine of_updateNode (fun r r' h => ?_) (fun r r' h' => ?_) s
  · obtain rfl := Except.ok.inj h
    exact ⟨rfl, ⟨rfl, rfl⟩⟩
  · obtain rfl := Except.ok.inj h'
    exact .inr ⟨q, reply, rfl, h⟩

end Judged

/-! ### What the programs request and write -/

/-- A round asks for what its copy says, and writes the verdicts that it gets. -/
lemma turns_probeNodes {reg : NodeRegistry} {items : List (String × NodeRegistration)}
    (hitems : ∀ e ∈ items, reg.nodes.get? (normalize e.1) = some e.2)
    (wake : Wake (monitored Dump)) (s : GateState Dump) :
    (probeNodes items : Co (monitored Dump) Unit).Turns (ReadFrom reg) Judged wake s := by
  induction items generalizing wake s with
  | nil => trivial
  | cons e rest ih =>
    obtain ⟨nodeName, registration⟩ := e
    obtain ⟨hfirst, hrest⟩ := List.forall_mem_cons.1 hitems
    refine ⟨hfirst, fun reply s => ?_⟩
    change ((Co.done (probeVerdict reply) : Co (monitored Dump) Bool) >>= _).Turns _ _ _ _
    rcases hverdict : probeVerdict reply with e | healthy
    · trivial
    change Co.Turns _ _ (if _ then _ else _) _ _
    split
    · exact ih hrest _ s
    rename_i hnew
    have hmarks : Marks (.inr ⟨nodeName, registration⟩ : (monitored Dump).Request) reply
        (normalize nodeName) healthy := ⟨rfl, hverdict, hnew⟩
    split
    · rename_i htrue
      rw [htrue] at hmarks
      exact Co.turns_call_bind (Judged.setHealth hmarks s) fun _ _ => ih hrest _ _
    · rename_i hfalse
      rw [Bool.eq_false_of_not_eq_true hfalse] at hmarks
      exact Co.turns_call_bind (Judged.setHealth hmarks s) fun _ _ => ih hrest _ _

lemma turns_probeOnce {s : GateState Dump} (hk : s.registry.Keyed) :
    (probeOnce : Co (monitored Dump) Unit).Turns (ReadFrom s.registry) Judged none s := by
  refine turns_probeNodes (fun e he => ?_) none s
  have hget := Dict.mem_entries_iff.1 he
  rw [(hk.get?_nodeName hget).1, hget]

section Dispatch

variable {A : GateRequest → Prop}

/-- A write of a turn of a dispatch. -/
abbrev judgedBy (wake : Wake (gate Dump)) : GateState Dump → GateState Dump → Prop :=
  Judged wake.embed

lemma turns_acquireLimit (hA : ∀ nodeName, A (.limiterYield nodeName)) (target : NodeRegistration)
    (wake : Wake (gate Dump)) (s : GateState Dump) :
    (acquireLimit target : Co (gate Dump) Bool).Turns A judgedBy wake s := by
  refine Co.turns_bind trivial fun limited wake s => ?_
  cases limited with
  | false => trivial
  | true =>
    refine Co.turns_call_bind (.onLimits _ s) fun _ _ => ?_
    refine Co.turns_call_bind (.onLimits _ _) fun _ _ => ?_
    exact Co.turns_bind ⟨hA _, fun _ _ => trivial⟩ fun _ _ _ => trivial

lemma turns_sendToWorker {target : NodeRegistration} {packet : TransportPacket}
    (hA : A (.send target.nodeName packet target.internalUrl)) (wake : Wake (gate Dump))
    (s : GateState Dump) :
    (sendToWorker target packet : Co (gate Dump) TransportPacket).Turns A judgedBy wake s := by
  refine ⟨hA, fun reply s => ?_⟩
  cases reply with
  | ok answer => trivial
  | error exc =>
    change Co.Turns _ _ (if _ then _ else _) _ _
    split
    · rename_i hconnection
      have hmarks : Marks (.inl (.send target.nodeName packet target.internalUrl) :
          (monitored Dump).Request) (.error exc) (normalize target.nodeName) false :=
        ⟨rfl, rfl, exc, rfl, hconnection⟩
      exact Co.turns_call_bind (Judged.setHealth hmarks s) fun _ _ => trivial
    · split <;> trivial

lemma turns_giveBack (target : NodeRegistration) (permits : Permits) (wake : Wake (gate Dump))
    (s : GateState Dump) :
    (giveBack target permits : Co (gate Dump) Unit).Turns A judgedBy wake s := by
  have hrelease : ∀ wake s, (if permits.acquiredLimit then
      Co.call (S := gate Dump) (onLimits fun m => m.release target.nodeName)
        else pure ()).Turns A judgedBy wake s := by
    intro wake s
    split
    · exact Co.turns_call (.onLimits _ s)
    · trivial
  rw [giveBack]
  simp only
  split
  · exact Co.turns_bind (Co.turns_call (.decrementActive _ s)) fun _ => hrelease
  · exact hrelease wake s

lemma turns_attemptUnderPermit (hyield : ∀ nodeName, A (.limiterYield nodeName))
    {plan : DispatchPlan} {packet : TransportPacket}
    (hsend : A (.send plan.target.nodeName packet plan.target.internalUrl))
    (wake : Wake (gate Dump)) (s : GateState Dump) :
    (attemptUnderPermit plan packet).Turns A judgedBy wake s := by
  refine Co.turns_bind (Co.turns_handle (turns_acquireLimit hyield plan.target wake s)
    fun _ _ _ => trivial) fun r wake s => ?_
  cases r with
  | error exc => trivial
  | ok acquiredLimit =>
    refine Co.turns_bind (Co.turns_handle (Co.turns_call (.incrementActive _ s))
      fun _ _ _ => trivial) fun r wake s => ?_
    cases r with
    | error exc => trivial
    | ok u =>
      change ((sendToWorker plan.target packet).attempt >>= _).Turns _ _ wake s
      exact Co.turns_bind (Co.turns_handle (turns_sendToWorker hsend wake s)
        fun _ _ _ => trivial) fun _ _ _ => trivial

/-- A dispatch is sent to a node of the registry that it has read. -/
lemma turns_dispatch (cfg : GateConfig Dump) (packet : TransportPacket) (deadline : Option Deadline)
    {s : GateState Dump} (hk : s.registry.Keyed) :
    (dispatch cfg packet deadline).Turns
      (fun q => ReadFrom s.registry (.inl q : (monitored Dump).Request)) judgedBy none s := by
  have hregistry := (derivePacket_frame cfg packet deadline s).2
  refine Co.turns_call_bind (.of_registry_eq hregistry) fun plan hplan => ?_
  have htarget : s.registry.nodes.get? (normalize plan.target.nodeName) = some plan.target := by
    rcases (of_resolvePacket (of_derivePacket hplan).1).2 with h | h
    · obtain ⟨node, hget⟩ := Dict.mem_values_iff.1 h.2.1
      exact (hk.get?_nodeName hget).2
    · exact (hk.get?_nodeName h.2.2.2.2).2
  change ((liftExcept (sealPacket cfg plan) : Co (gate Dump) _) >>= _).Turns _ _ _ _
  rcases hseal : sealPacket cfg plan with e | dispatchPacket
  · trivial
  change (attemptUnderPermit plan dispatchPacket >>= _).Turns _ _ _ _
  refine Co.turns_bind (turns_attemptUnderPermit (fun _ => trivial) ⟨_, htarget, rfl⟩ _ _)
    fun attempt wake s => ?_
  exact Co.turns_bind (turns_giveBack plan.target attempt.1 wake s) fun _ _ _ => trivial

end Dispatch

lemma turns_dispatchMonitored (cfg : GateConfig Dump) (packet : TransportPacket)
    (deadline : Option Deadline) {s : GateState Dump} (hk : s.registry.Keyed) :
    (dispatchMonitored cfg packet deadline).Turns (ReadFrom s.registry) Judged none s :=
  Co.turns_bind (Co.turns_embed (turns_dispatch cfg packet deadline hk)) fun _ _ _ => trivial

/-! ### Runs -/

/-- The moves of a run of rounds of the monitor, dispatches and registrations; nothing else writes
the registry. -/
inductive MonitorMove (cfg : GateConfig Dump) : Move (monitored Dump) Unit → Prop
  | probe : MonitorMove cfg (.spawn probeOnce)
  | dispatch (packet : TransportPacket) (deadline : Option Deadline) :
    MonitorMove cfg (.spawn (dispatchMonitored cfg packet deadline))
  | register (name : String) (registration : NodeRegistration) (overwrite : Bool) :
    MonitorMove cfg (.spawn (registering name registration overwrite))
  | resume (tid : ℕ) (reply : ∀ q, Except PyError ((monitored Dump).Reply q)) :
    MonitorMove cfg (.resume tid reply)
  | environ (f : GateState Dump → GateState Dump) (h : ∀ s, (f s).registry = s.registry) :
    MonitorMove cfg (.environ f)

/-- The pool of rounds, dispatches and registrations after a run. -/
abbrev monitoredPool (s : GateState Dump) (ms : List (Move (monitored Dump) Unit)) :
    Pool (monitored Dump) Unit :=
  (Pool.init s).run ms

lemma monitoredPool_concat (s : GateState Dump) (ms : List (Move (monitored Dump) Unit))
    (m : Move (monitored Dump) Unit) :
    monitoredPool s (ms ++ [m]) = (monitoredPool s ms).step m := Pool.run_concat _ _ _

section Runs

variable (s : GateState Dump) (ms : List (Move (monitored Dump) Unit))

/-- The registration of a node after a run. -/
def registrationAfter (node : String) : Option NodeRegistration :=
  (monitoredPool s ms).world.state.registry.nodes.get? node

/-- The node has been registered again since the task was started: tasks are numbered in the order
in which they are started. -/
def RegisteredSince (tid : ℕ) (node : String) : Prop :=
  ∃ later pre name registration overwrite, tid < later ∧
    Pool.Started (S := monitored Dump) s ms later pre (registering name registration overwrite) ∧
    normalize name = node ∧
    ((monitoredPool s pre).world.state.registry.registerNode
      name registration overwrite).1 = .ok ()

/-- After the run, a move brings a task a verdict on a node: the answer to a probe, which the round
writes, or a failed connection to a worker. -/
def Brings (m : Move (monitored Dump) Unit) (tid : ℕ) (q : (monitored Dump).Request)
    (node : String) (healthy : Bool) : Prop :=
  ∃ reply k, m = .resume tid reply ∧
    (monitoredPool s ms).tasks[tid]? = some (.waiting q k) ∧
    Marks q (reply q) node healthy

/-- The move registers a node. -/
def Registers (m : Move (monitored Dump) Unit) (node : String) : Prop :=
  ∃ name registration overwrite, m = .spawn (registering name registration overwrite) ∧
    normalize name = node

/-- The health of a node that is registered is changed only by a registration of the node, or by a
verdict that was asked for after the last registration of the node and at the URL that it has. -/
def OwnVerdicts : Prop :=
  ∀ pre m, pre ++ [m] <+: ms → ∀ node r r', registrationAfter s pre node = some r →
    registrationAfter s (pre ++ [m]) node = some r' → r'.healthy ≠ r.healthy →
    Registers m node ∨ ∃ tid q, Brings s pre m tid q node r'.healthy ∧
      ¬ RegisteredSince s pre tid node ∧ GoesTo r q

/-- A verdict on a node that has been registered again since it was asked for agrees with the health
that the node has when it arrives. -/
def StaleAgree : Prop :=
  ∀ pre m, pre ++ [m] <+: ms → ∀ tid q node healthy r, Brings s pre m tid q node healthy →
    RegisteredSince s pre tid node → registrationAfter s pre node = some r → r.healthy = healthy

/-- The invariant: what is left of a task goes back to a registry that still describes the nodes
which have not been registered again since the task was started. -/
structure ReadsKept : Prop where
  keyed : (monitoredPool s ms).world.state.registry.Keyed
  tasks : ∀ tid t, (monitoredPool s ms).tasks[tid]? = some t →
    ∃ reg, t.Turns (ReadFrom reg) Judged ∧ ∀ node r, registrationAfter s ms node = some r →
      RegisteredSince s ms tid node ∨ ∃ r₀, reg.nodes.get? node = some r₀ ∧ SameUrls r₀ r

end Runs

section Invariant

variable {s : GateState Dump} {ms : List (Move (monitored Dump) Unit)}
  {m : Move (monitored Dump) Unit}

lemma RegisteredSince.concat {tid : ℕ} {node : String} (h : RegisteredSince s ms tid node)
    (m : Move (monitored Dump) Unit) : RegisteredSince s (ms ++ [m]) tid node := by
  obtain ⟨later, pre, name, registration, overwrite, hlt, hstarted, hrest⟩ := h
  exact ⟨later, pre, name, registration, overwrite, hlt,
    ⟨hstarted.moves.trans (List.prefix_append _ _), hstarted.length⟩, hrest⟩

/-- A move that writes what has been judged keeps the invariant, with the registry before it as what
a task has read that it starts. -/
lemma ReadsKept.of_judged (h : ReadsKept s ms) {wake : Wake (monitored Dump)}
    (hjudged : Judged wake (monitoredPool s ms).world.state
      (monitoredPool s (ms ++ [m])).world.state)
    (htasks : ∀ (tid : ℕ) (t' : Status (monitored Dump) Unit),
      (monitoredPool s (ms ++ [m])).tasks[tid]? = some t' →
        (∃ t : Status (monitored Dump) Unit, (monitoredPool s ms).tasks[tid]? = some t ∧
          ∀ reg, t.Turns (ReadFrom reg) Judged → t'.Turns (ReadFrom reg) Judged) ∨
        t'.Turns (ReadFrom (monitoredPool s ms).world.state.registry) Judged) :
    ReadsKept s (ms ++ [m]) := by
  refine ⟨hjudged.keyed h.keyed, fun tid t' ht' => ?_⟩
  rcases htasks tid t' ht' with ⟨t, ht, hkeeps⟩ | hnew
  · obtain ⟨reg, hturns, hreads⟩ := h.tasks tid t ht
    refine ⟨reg, hkeeps reg hturns, fun node r' hget' => ?_⟩
    obtain ⟨r, hget, hsame, -⟩ := hjudged.judged node r' hget'
    rcases hreads node r hget with hsince | ⟨r₀, hget₀, hsame₀⟩
    · exact .inl (hsince.concat m)
    · exact .inr ⟨r₀, hget₀, hsame₀.trans hsame⟩
  · refine ⟨_, hnew, fun node r' hget' => .inr ?_⟩
    obtain ⟨r, hget, hsame, -⟩ := hjudged.judged node r' hget'
    exact ⟨r, hget, hsame⟩

/-- The tasks after a move that starts one. -/
lemma tasks_spawn {p : Co (monitored Dump) Unit} {tid : ℕ} {t' : Status (monitored Dump) Unit}
    (h : (monitoredPool s (ms ++ [.spawn p])).tasks[tid]? = some t') :
    (monitoredPool s ms).tasks[tid]? = some t' ∨ tid = (monitoredPool s ms).tasks.length ∧
      t' = (p.segment tid (monitoredPool s ms).world).1 := by
  rw [monitoredPool_concat] at h
  have hlt := (List.getElem?_eq_some_iff.1 h).1
  simp only [Pool.step, List.length_append, List.length_singleton] at hlt
  rcases Nat.lt_succ_iff_lt_or_eq.1 hlt with hold | rfl
  · left
    rwa [Pool.step, List.getElem?_append_left hold] at h
  · right
    rw [Pool.step, List.getElem?_concat_length] at h
    exact ⟨rfl, (Option.some.inj h).symm⟩

/-- A task is started that requests and writes what it should. -/
lemma ReadsKept.spawn (h : ReadsKept s ms) {p : Co (monitored Dump) Unit}
    (hp : p.Turns (ReadFrom (monitoredPool s ms).world.state.registry) Judged none
      (monitoredPool s ms).world.state) :
    ReadsKept s (ms ++ [.spawn p]) ∧ Judged none (monitoredPool s ms).world.state
      (monitoredPool s (ms ++ [.spawn p])).world.state := by
  obtain ⟨hwrites, hstatus⟩ :=
    Co.segment_turns (monitoredPool s ms).tasks.length hp
  have hjudged : Judged none (monitoredPool s ms).world.state
      (monitoredPool s (ms ++ [.spawn p])).world.state := by
    rw [monitoredPool_concat]
    exact .of_reflTransGen hwrites
  refine ⟨h.of_judged hjudged fun tid t' ht' => ?_, hjudged⟩
  rcases tasks_spawn ht' with hold | ⟨rfl, rfl⟩
  · exact .inl ⟨t', hold, fun _ => id⟩
  · exact .inr hstatus

/-- A task is resumed. -/
lemma ReadsKept.resume (h : ReadsKept s ms) {tid : ℕ} {q : (monitored Dump).Request}
    {k : Except PyError ((monitored Dump).Reply q) → Co (monitored Dump) Unit}
    (hget : (monitoredPool s ms).tasks[tid]? = some (.waiting q k))
    (reply : ∀ q, Except PyError ((monitored Dump).Reply q)) :
    ReadsKept s (ms ++ [.resume tid reply]) ∧
      Judged (some ⟨q, reply q⟩) (monitoredPool s ms).world.state
        (monitoredPool s (ms ++ [.resume tid reply])).world.state := by
  have hstep : monitoredPool s (ms ++ [.resume tid reply]) =
      ⟨((k (reply q)).segment tid (monitoredPool s ms).world).2, (monitoredPool s ms).tasks.set tid
        ((k (reply q)).segment tid (monitoredPool s ms).world).1⟩ := by
    rw [monitoredPool_concat]
    simp only [Pool.step, hget]
  have hturns : ∀ reg, (Status.waiting q k).Turns (ReadFrom reg) Judged →
      (k (reply q)).Turns (ReadFrom reg) Judged (some ⟨q, reply q⟩)
        (monitoredPool s ms).world.state := fun reg hwaiting => hwaiting.2 (reply q) _
  obtain ⟨reg, hwaiting, -⟩ := h.tasks tid _ hget
  have hjudged : Judged (some ⟨q, reply q⟩) (monitoredPool s ms).world.state
      (monitoredPool s (ms ++ [.resume tid reply])).world.state := by
    rw [hstep]
    exact .of_reflTransGen (Co.segment_turns tid (hturns reg hwaiting)).1
  refine ⟨h.of_judged hjudged fun i t' ht' => .inl ?_, hjudged⟩
  rw [hstep] at ht'
  by_cases hi : tid = i
  · subst hi
    rw [List.getElem?_set_self (List.getElem?_eq_some_iff.1 hget).1] at ht'
    obtain rfl := Option.some.inj ht'
    exact ⟨_, hget, fun reg hwaiting => (Co.segment_turns tid (hturns reg hwaiting)).2⟩
  · rw [List.getElem?_set_ne hi] at ht'
    exact ⟨t', ht', fun _ => id⟩

/-- Nothing happens to the tasks and to the registry. -/
lemma ReadsKept.idle (h : ReadsKept s ms)
    (htasks : (monitoredPool s (ms ++ [m])).tasks = (monitoredPool s ms).tasks)
    (hregistry : (monitoredPool s (ms ++ [m])).world.state.registry =
      (monitoredPool s ms).world.state.registry) :
    ReadsKept s (ms ++ [m]) ∧
      Judged none (monitoredPool s ms).world.state (monitoredPool s (ms ++ [m])).world.state := by
  have hjudged : Judged none (monitoredPool s ms).world.state
      (monitoredPool s (ms ++ [m])).world.state := .of_registry_eq hregistry
  refine ⟨h.of_judged hjudged fun tid t' ht' => .inl ⟨t', ?_, fun _ => id⟩, hjudged⟩
  rwa [htasks] at ht'

lemma registry_register (s : GateState Dump) (ms : List (Move (monitored Dump) Unit))
    (name : String) (registration : NodeRegistration) (overwrite : Bool) :
    (monitoredPool s
      (ms ++ [.spawn (registering name registration overwrite)])).world.state.registry =
      ((monitoredPool s ms).world.state.registry.registerNode name registration overwrite).2 := by
  rw [monitoredPool_concat]
  rfl

/-- A registration is over at once. -/
lemma tasks_register {name : String} {registration : NodeRegistration} {overwrite : Bool}
    {tid : ℕ} {t' : Status (monitored Dump) Unit}
    (h : (monitoredPool s
      (ms ++ [.spawn (registering name registration overwrite)])).tasks[tid]? = some t') :
    (monitoredPool s ms).tasks[tid]? = some t' ∨ ∃ r, t' = .finished r := by
  rcases tasks_spawn h with hold | ⟨-, rfl⟩
  · exact .inl hold
  · exact .inr ⟨_, rfl⟩

/-- A node is registered. -/
lemma ReadsKept.register (h : ReadsKept s ms) (name : String) (registration : NodeRegistration)
    (overwrite : Bool) :
    ReadsKept s (ms ++ [.spawn (registering name registration overwrite)]) ∧
      ∀ node, normalize name ≠ node →
        registrationAfter s (ms ++ [.spawn (registering name registration overwrite)]) node =
          registrationAfter s ms node := by
  have hregistry := registry_register s ms name registration overwrite
  rcases (monitoredPool s ms).world.state.registry.registerNode_cases name registration overwrite
    with ⟨e, heq⟩ | ⟨hne, heq⟩
  · -- refused: the registry is as it was
    rw [heq] at hregistry
    have hjudged : Judged none (monitoredPool s ms).world.state (monitoredPool s
        (ms ++ [.spawn (registering name registration overwrite)])).world.state :=
      .of_registry_eq hregistry
    refine ⟨h.of_judged hjudged fun tid t' ht' => ?_, ?_⟩
    · rcases tasks_register ht' with hold | ⟨r, rfl⟩
      · exact .inl ⟨t', hold, fun _ => id⟩
      · exact .inr trivial
    · intro node _
      rw [registrationAfter, hregistry, registrationAfter]
  · rw [heq] at hregistry
    have hother : ∀ node, normalize name ≠ node →
        registrationAfter s (ms ++ [.spawn (registering name registration overwrite)]) node =
          registrationAfter s ms node := by
      intro node hnode
      rw [registrationAfter, hregistry, Dict.get?_set, if_neg (Ne.symm hnode), registrationAfter]
    refine ⟨⟨?_, fun tid t' ht' => ?_⟩, hother⟩
    · rw [hregistry]
      exact h.keyed.set (registration.nodeName_storedAs _ _ hne)
    · rcases tasks_register ht' with hold | ⟨r, rfl⟩
      · obtain ⟨reg, hturns, hreads⟩ := h.tasks tid t' hold
        refine ⟨reg, hturns, fun node r hget => ?_⟩
        by_cases hnode : normalize name = node
        · refine .inl ⟨_, ms, name, registration, overwrite,
            (List.getElem?_eq_some_iff.1 hold).1, ⟨List.prefix_rfl, rfl⟩, hnode, ?_⟩
          rw [heq]
        · rw [hother node hnode] at hget
          exact (hreads node r hget).imp_left fun hsince => hsince.concat _
      · exact ⟨_, trivial, fun node r hget => .inr ⟨r, hget, .refl r⟩⟩

/-- What one move of a run does: it registers a node, or it writes what has been judged, by the
reply that it brings. -/
lemma ReadsKept.step {cfg : GateConfig Dump} (h : ReadsKept s ms) (hm : MonitorMove cfg m) :
    ReadsKept s (ms ++ [m]) ∧
      ((∃ name registration overwrite, m = .spawn (registering name registration overwrite) ∧
        ∀ node, normalize name ≠ node →
          registrationAfter s (ms ++ [m]) node = registrationAfter s ms node) ∨
      ∃ wake, Judged wake (monitoredPool s ms).world.state
          (monitoredPool s (ms ++ [m])).world.state ∧
        ∀ q reply, wake = some ⟨q, reply⟩ → ∃ tid f k, m = .resume tid f ∧
          (monitoredPool s ms).tasks[tid]? = some (.waiting q k) ∧ reply = f q) := by
  cases hm with
  | probe =>
    obtain ⟨hkept, hjudged⟩ := h.spawn (turns_probeOnce h.keyed)
    exact ⟨hkept, .inr ⟨none, hjudged, fun _ _ hnone => by cases hnone⟩⟩
  | dispatch packet deadline =>
    obtain ⟨hkept, hjudged⟩ := h.spawn (turns_dispatchMonitored cfg packet deadline h.keyed)
    exact ⟨hkept, .inr ⟨none, hjudged, fun _ _ hnone => by cases hnone⟩⟩
  | register name registration overwrite =>
    obtain ⟨hkept, hother⟩ := h.register name registration overwrite
    exact ⟨hkept, .inl ⟨name, registration, overwrite, rfl, hother⟩⟩
  | resume tid reply =>
    by_cases hwaits : ∃ q k, (monitoredPool s ms).tasks[tid]? = some (.waiting q k)
    · obtain ⟨q, k, hget⟩ := hwaits
      obtain ⟨hkept, hjudged⟩ := h.resume hget reply
      refine ⟨hkept, .inr ⟨_, hjudged, fun q' reply' heq => ?_⟩⟩
      obtain ⟨rfl, hreply⟩ := Sigma.mk.inj_iff.1 (Option.some.inj heq)
      exact ⟨tid, reply, k, rfl, hget, (eq_of_heq hreply).symm⟩
    · -- the task does not wait
      have hsame : monitoredPool s (ms ++ [.resume tid reply]) = monitoredPool s ms := by
        rw [monitoredPool_concat]
        rcases hget : (monitoredPool s ms).tasks[tid]? with _ | (r | ⟨q, k⟩)
        · simp only [Pool.step, hget]
        · simp only [Pool.step, hget]
        · exact absurd ⟨q, k, hget⟩ hwaits
      obtain ⟨hkept, hjudged⟩ := h.idle (m := .resume tid reply) (by rw [hsame]) (by rw [hsame])
      exact ⟨hkept, .inr ⟨none, hjudged, fun _ _ hnone => by cases hnone⟩⟩
  | environ f hf =>
    have hstep := monitoredPool_concat s ms (.environ f)
    obtain ⟨hkept, hjudged⟩ := h.idle (m := .environ f) (by rw [hstep]; rfl)
      (by rw [hstep]; exact hf _)
    exact ⟨hkept, .inr ⟨none, hjudged, fun _ _ hnone => by cases hnone⟩⟩

lemma readsKept_of_run {cfg : GateConfig Dump} (hk : s.registry.Keyed)
    (hms : ∀ m ∈ ms, MonitorMove cfg m) : ReadsKept s ms := by
  induction ms using List.reverseRecOn with
  | nil => exact ⟨hk, fun tid t ht => by cases ht⟩
  | append_singleton ms m ih =>
    exact ((ih fun m' hm' => hms m' (List.mem_append_left _ hm')).step (hms m (by simp))).1

end Invariant

/-- In every run of rounds of the monitor, dispatches and registrations on a reachable registry in
which verdicts that have become stale agree with the health that they find, the health of a
registered node is changed only by its own verdicts. -/
theorem verdicts_own {cfg : GateConfig Dump} {s : GateState Dump} {ops : List RegistryOp}
    {ms : List (Move (monitored Dump) Unit)} (hs : s.registry = NodeRegistry.empty.run ops)
    (hms : ∀ m ∈ ms, MonitorMove cfg m) (hstale : StaleAgree s ms) : OwnVerdicts s ms := by
  have hk : s.registry.Keyed := by
    rw [hs]
    exact NodeRegistry.keyed_run NodeRegistry.keyed_empty ops
  intro pre m hpre node r r' hget hget' hchanged
  have hmoves : ∀ m' ∈ pre ++ [m], MonitorMove cfg m' := fun m' hm' => hms m' (hpre.subset hm')
  have hkept := readsKept_of_run hk fun m' hm' => hmoves m' (List.mem_append_left _ hm')
  rcases (hkept.step (hmoves m (by simp))).2 with
    ⟨name, registration, overwrite, rfl, hother⟩ | ⟨wake, hjudged, hwake⟩
  · refine .inl ⟨name, registration, overwrite, rfl, ?_⟩
    by_contra hnode
    rw [hother node hnode, hget] at hget'
    obtain rfl := Option.some.inj hget'
    exact hchanged rfl
  right
  obtain ⟨r₁, hget₁, -, hcase⟩ := hjudged.judged node r' hget'
  obtain rfl := Option.some.inj (hget.symm.trans hget₁)
  obtain ⟨q, reply, rfl, hmarks⟩ := hcase.resolve_left hchanged
  obtain ⟨tid, f, k, rfl, hwaiting, rfl⟩ := hwake q reply rfl
  have hbrings : Brings s pre (.resume tid f) tid q node r'.healthy :=
    ⟨f, k, rfl, hwaiting, hmarks⟩
  have hfresh : ¬ RegisteredSince s pre tid node := fun hsince =>
    hchanged (hstale pre _ hpre tid q node r'.healthy r hbrings hsince hget).symm
  obtain ⟨reg, hturns, hreads⟩ := hkept.tasks tid _ hwaiting
  obtain ⟨r₀, hget₀, hsame⟩ := (hreads node r hget).resolve_left hfresh
  exact ⟨tid, q, hbrings, hfresh, hturns.1.goesTo hmarks hget₀ hsame⟩

/-! ### Verdicts that agree -/

section Agreement

variable {s : GateState Dump} {ms : List (Move (monitored Dump) Unit)}

lemma staleAgree_nil : StaleAgree s [] := by
  intro pre m hpre
  have hle := hpre.length_le
  simp at hle

/-- A run goes on with a move whose verdict agrees, if it is stale. -/
lemma StaleAgree.concat {m : Move (monitored Dump) Unit} (h : StaleAgree s ms)
    (hm : ∀ tid q node healthy r, Brings s ms m tid q node healthy →
      RegisteredSince s ms tid node → registrationAfter s ms node = some r →
      r.healthy = healthy) : StaleAgree s (ms ++ [m]) := by
  intro pre m' hpre
  rcases List.prefix_concat_iff.1 hpre with heq | hold
  · obtain ⟨rfl, hlast⟩ := List.append_inj' heq rfl
    obtain rfl := List.singleton_inj.1 hlast
    exact hm
  · exact h pre m' hold

/-- A task that is started has heard nothing. -/
lemma StaleAgree.spawn (h : StaleAgree s ms) (p : Co (monitored Dump) Unit) :
    StaleAgree s (ms ++ [.spawn p]) := by
  refine h.concat fun tid q node healthy r hbrings => ?_
  obtain ⟨reply, k, hm, -⟩ := hbrings
  cases hm

/-- Nothing is stale for the task that was started last. -/
lemma StaleAgree.resume_last {tid : ℕ} (h : StaleAgree s ms)
    (hlast : (monitoredPool s ms).tasks.length ≤ tid + 1)
    (reply : ∀ q, Except PyError ((monitored Dump).Reply q)) :
    StaleAgree s (ms ++ [.resume tid reply]) := by
  refine h.concat fun tid' q node healthy r hbrings hsince => ?_
  obtain ⟨reply', k, hm, -⟩ := hbrings
  cases hm
  obtain ⟨later, pre, name, registration, overwrite, hlt, hstarted, -⟩ := hsince
  have hlater : later < (monitoredPool s ms).tasks.length := hstarted.lt_length
  omega

end Agreement

/-! ### A node that moves during a probe -/

/-- A process without a limiter, with one worker. -/
def oneWorkerState : GateState TransportPacket :=
  .fresh (NodeRegistry.oneWorker "worker" "score") none (.stopped 0) ⟨fun _ => 0, 0⟩

lemma oneWorkerState_registry :
    oneWorkerState.registry = NodeRegistry.empty.run [.load (.mapping
      (Dict.empty.set "worker" (.payload
        { internalUrl := "http://worker", supportedActions := ["score"] })))] := rfl

/-- The worker at another URL. -/
def movedWorker : NodeRegistration where
  nodeName := "worker"
  internalUrl := "http://moved"
  supportedActions := ["score"]
  priorityClass := "P2"
  maxConcurrent := 50
  healthEndpoint := "/v1/health"
  timeoutMs := 30000
  metadata := .empty
  healthy := true
  activeRequests := 0
  nodeName_normalized := by decide +kernel
  nodeName_ne := by decide
  actions_ne := by decide
  actions_nodup := by decide
  action_normalized := by decide +kernel
  not_reserved := by decide
  one_le_maxConcurrent := by decide
  one_le_timeoutMs := by decide

/-- Nothing answers as it should. -/
def unavailable : ∀ q : (monitored TransportPacket).Request,
    Except PyError ((monitored TransportPacket).Reply q)
  | .inl _ => .error { cls := .timeoutError }
  | .inr _ => (.ok 503 : Except PyError ℕ)

/-- Whatever is probed answers. -/
def available : ∀ q : (monitored TransportPacket).Request,
    Except PyError ((monitored TransportPacket).Reply q)
  | .inl _ => .error { cls := .timeoutError }
  | .inr _ => (.ok 200 : Except PyError ℕ)

/-- A round loses the worker, and the worker moves while the next round waits for its answer. -/
def movedWhileLost : List (Move (monitored TransportPacket) Unit) :=
  [.spawn probeOnce, .resume 0 unavailable, .spawn probeOnce,
    .spawn (registering "worker" movedWorker true)]

/-- What is asked where the worker was is answered, and a third round asks where it is. -/
def probedWhereMoved : List (Move (monitored TransportPacket) Unit) :=
  movedWhileLost ++ [.resume 1 available] ++ [.spawn probeOnce] ++ [.resume 3 unavailable]

/-- It brings good verdicts only. -/
lemma marks_available {q : (monitored TransportPacket).Request} {node : String} {healthy : Bool}
    (h : Marks q (available q) node healthy) : healthy = true := by
  rcases q with q | q
  · cases q with
    | send nodeName packet url =>
      obtain ⟨-, -, exc, heq, hconnection⟩ := h
      obtain rfl := Except.error.inj heq
      exact absurd hconnection (by decide)
    | _ => cases h
  · obtain ⟨-, hverdict, -⟩ := h
    exact (Except.ok.inj hverdict).symm

lemma probedWhereMoved_moves (cfg : GateConfig TransportPacket) :
    ∀ m ∈ probedWhereMoved, MonitorMove cfg m := by
  intro m hm
  simp only [probedWhereMoved, movedWhileLost, List.cons_append, List.nil_append, List.mem_cons,
    List.not_mem_nil, or_false] at hm
  rcases hm with rfl | rfl | rfl | rfl | rfl | rfl | rfl
  · exact .probe
  · exact .resume _ _
  · exact .probe
  · exact .register _ _ _
  · exact .resume _ _
  · exact .probe
  · exact .resume _ _

/-- The name in a probe, and the health that the round's copy has. -/
def copiedHealth : (monitored TransportPacket).Request → Option (String × Bool)
  | .inl _ => none
  | .inr q => some (q.nodeName, q.registration.healthy)

/-- A probe of a node that is lost in the round's copy brings a verdict when it is answered. -/
lemma brings_available {s : GateState TransportPacket}
    {ms : List (Move (monitored TransportPacket) Unit)} {tid : ℕ} {nodeName : String}
    (h : ((monitoredPool s ms).tasks[tid]?.bind Status.request?).bind copiedHealth =
      some (nodeName, false)) :
    ∃ q, Brings s ms (.resume tid available) tid q (normalize nodeName) true := by
  obtain ⟨q, hwaits, hcopied⟩ := Option.bind_eq_some_iff.1 h
  obtain ⟨t, hget, hrequest⟩ := Option.bind_eq_some_iff.1 hwaits
  cases t with
  | finished r => cases hrequest
  | waiting q' k =>
    obtain rfl := Option.some.inj hrequest
    rcases q' with q | q
    · cases hcopied
    · obtain ⟨hname, hlost⟩ := Prod.mk.inj (Option.some.inj hcopied)
      refine ⟨_, available, k, rfl, hget, congrArg normalize hname, rfl, ?_⟩
      rw [hlost]
      decide

/-- What the second round hears is stale and agrees with the registration; the third round marks the
worker. -/
theorem verdicts_own_movedWorker :
    OwnVerdicts oneWorkerState probedWhereMoved ∧
      (∃ q, Brings oneWorkerState movedWhileLost (.resume 1 available) 1 q "worker" true) ∧
      RegisteredSince oneWorkerState movedWhileLost 1 "worker" ∧
      (registrationAfter oneWorkerState probedWhereMoved "worker").map (·.healthy) =
        some false := by
  have hworker : normalize "worker" = "worker" := by decide +kernel
  have hsince : RegisteredSince oneWorkerState movedWhileLost 1 "worker" :=
    ⟨2, movedWhileLost.take 3, "worker", movedWorker, true, by decide,
      ⟨List.prefix_rfl, by decide +kernel⟩, hworker, by decide +kernel⟩
  have hbrings : ∃ q, Brings oneWorkerState movedWhileLost (.resume 1 available) 1 q
      (normalize "worker") true :=
    brings_available (by decide +kernel)
  rw [hworker] at hbrings
  -- the round that hears the stale verdict finds the moved worker healthy
  have hhealthy : ∀ r ∈
      (monitoredPool oneWorkerState movedWhileLost).world.state.registry.nodes.values,
      r.healthy = true := by
    decide +kernel
  have hstale : StaleAgree oneWorkerState movedWhileLost :=
    (((staleAgree_nil.spawn probeOnce).resume_last (by decide +kernel) unavailable).spawn
      probeOnce).spawn (registering "worker" movedWorker true)
  refine ⟨verdicts_own oneWorkerState_registry (probedWhereMoved_moves .plain) ?_, hbrings, hsince,
    by decide +kernel⟩
  refine ((hstale.concat fun tid q node healthy r hb _ hget => ?_).spawn probeOnce).resume_last
    (by decide +kernel) unavailable
  obtain ⟨reply, k, hm, -, hmarks⟩ := hb
  cases hm
  rw [marks_available hmarks]
  exact hhealthy r (Dict.mem_values_iff.2 ⟨node, hget⟩)

/-- The worker moves while the round waits for its answer. -/
def movedDuringProbe : List (Move (monitored TransportPacket) Unit) :=
  [.spawn probeOnce, .spawn (registering "worker" movedWorker true), .resume 0 unavailable]

/-- The round marks the worker unhealthy for what it has found at the URL that the worker has
left. -/
theorem stale_verdict_written :
    ¬ ∀ (cfg : GateConfig TransportPacket) (s : GateState TransportPacket) ops ms,
      s.registry = NodeRegistry.empty.run ops → (∀ m ∈ ms, MonitorMove cfg m) →
      OwnVerdicts s ms := by
  intro h
  have hmoves : ∀ m ∈ movedDuringProbe, MonitorMove .plain m := by
    intro m hm
    simp only [movedDuringProbe, List.mem_cons, List.not_mem_nil, or_false] at hm
    rcases hm with rfl | rfl | rfl
    · exact .probe
    · exact .register _ _ _
    · exact .resume _ _
  have hown := h .plain oneWorkerState _ movedDuringProbe oneWorkerState_registry hmoves
  have hbefore : (registrationAfter oneWorkerState [.spawn probeOnce,
      .spawn (registering "worker" movedWorker true)] "worker").map (·.healthy) = some true := by
    decide +kernel
  have hafter : (registrationAfter oneWorkerState movedDuringProbe "worker").map (·.healthy) =
      some false := by
    decide +kernel
  obtain ⟨r, hget, hhealthy⟩ := Option.map_eq_some_iff.1 hbefore
  obtain ⟨r', hget', hlost⟩ := Option.map_eq_some_iff.1 hafter
  have hchanged : r'.healthy ≠ r.healthy := by
    rw [hlost, hhealthy]
    decide
  rcases hown _ (.resume 0 unavailable) List.prefix_rfl "worker" r r' hget hget' hchanged with
    ⟨name, registration, overwrite, hm, -⟩ | ⟨tid, q, ⟨reply, k, hm, -, -⟩, hfresh, -⟩
  · cases hm
  · cases hm
    exact hfresh ⟨1, [.spawn probeOnce], "worker", movedWorker, true, by decide,
      ⟨List.prefix_rfl, rfl⟩, by decide +kernel, by decide +kernel⟩

end ConstellationGate
