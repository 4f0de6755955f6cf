import ConstellationGate.Routing.DispatchOutline
import ConstellationGate.Routing.RegistryRuns

/-!
# Permit accounting

How the active counts of the per-node limiter follow the dispatches that hold a permit,
over every interleaving of dispatches.

A dispatch that is suspended in `acquire` or in the worker transport holds a permit of its
node.  `Balance` is what a dispatch keeps from one await to the next: the counts move with
what it holds.  The one exception is in the source: the flag that makes the `finally` block
release the permit is set after the await in `acquire`, so that an exception delivered at
that await leaves the permit taken (`Leaks`).  `permits_run` accounts for the counts with
these leaks, and `permits_exact_iff` is the consequence: the accounting is exact along a run
if and only if no dispatch is cancelled there.
-/

namespace ConstellationGate

variable {Dump : Type}

/-- One permit of a node. -/
def onePermit (nodeName : String) (node : String) : ℕ :=
  if normalize node = normalize nodeName then 1 else 0

/-- The permits that a task holds while it waits for a request. -/
def heldAt (node : String) : GateRequest → ℕ
  | .limiterYield nodeName => onePermit nodeName node
  | .send nodeName _ _ => onePermit nodeName node
  | .retrySleep _ => 0
  | .dispatch _ _ => 0

/-- The active count of a node. -/
def activePermits (s : GateState Dump) (node : String) : ℕ :=
  s.nodeLimits.elim 0 fun m => m.activeCount node

/-- What wakes a coroutine of Gate. -/
abbrev GateWake : Type := Option (Σ q : GateRequest, Except PyError q.Reply)

/-- The permits that were held while waiting for the reply that began a segment. -/
def wokenWith (node : String) (wake : GateWake) : ℕ := wake.elim 0 fun r => heldAt node r.1

/-- The permit that is lost when `acquire` is woken by an exception. -/
def leakedBy (node : String) : GateWake → ℕ
  | some ⟨.limiterYield nodeName, .error _⟩ => onePermit nodeName node
  | _ => 0

/-- Since its segment began, a task that now holds `k` has changed the counts by the permits
it took, gave back and lost; it removed no node. -/
structure Balance (k : String → ℕ) (st : Start (gate Dump)) (w : World (gate Dump)) : Prop where
  limiter : w.state.nodeLimits.isSome = true
  nodes : ∀ node, st.world.state.registry.nodes.contains node = true →
    w.state.registry.nodes.contains node = true
  count : ∀ node, activePermits w.state node =
    activePermits st.world.state node + k node + leakedBy node st.wake - wokenWith node st.wake

/-- The agreement between concurrent dispatches: no one removes nodes, only dispatches touch
the limiter, and a dispatch keeps the balance. -/
def permitProtocol : Protocol (gate Dump) where
  Inv w := w.state.nodeLimits.isSome = true
  Rely _ w w' := ∀ node, w.state.registry.nodes.contains node = true →
    w'.state.registry.nodes.contains node = true
  Guar _ st w q := Balance (fun node => q.elim 0 (heldAt node)) st w
  Env s s' := s'.nodeLimits = s.nodeLimits ∧
    ∀ node, s.registry.nodes.contains node = true → s'.registry.nodes.contains node = true
  Legal _ _ := True

lemma permitProtocol_lawful : (permitProtocol : Protocol (gate Dump)).Lawful where
  rely_refl _ _ _ h := h
  rely_trans h h' node hnode := h' node (h node hnode)
  guar_inv _ _ _ _ h := h.limiter
  guar_rely _ _ _ _ _ h _ := h.nodes
  env_inv h henv := by
    change Option.isSome _ = _ at h ⊢
    rw [World.put_state, henv.1]
    exact h
  env_rely _ henv := henv.2

/-! ### Keeping the balance -/

/-- The registry operations of a dispatch keep the nodes. -/
lemma contains_updateNode (reg : NodeRegistry) (nodeName : String)
    (f : NodeRegistration → Except PyError NodeRegistration) {node : String}
    (h : reg.nodes.contains node = true) :
    (reg.updateNode nodeName f).2.nodes.contains node = true := by
  unfold NodeRegistry.updateNode
  split
  · exact h
  · split
    · exact h
    · rw [Dict.contains_set, h, Bool.or_true]

/-- An operation on a node succeeds only when the node is there. -/
lemma contains_of_updateNode (reg : NodeRegistry) (nodeName : String)
    (f : NodeRegistration → Except PyError NodeRegistration)
    (h : (reg.updateNode nodeName f).1 = .ok ()) :
    (reg.updateNode nodeName f).2.nodes.contains (normalize nodeName) = true := by
  unfold NodeRegistry.updateNode at h ⊢
  rcases hget : reg.nodes.get? (normalize nodeName) with _ | r
  · simp [hget] at h
  · rcases hf : f r with e | r'
    · simp [hget, hf] at h
    · simp [hf, Dict.contains_set]

lemma contains_of_incrementActive (reg : NodeRegistry) (nodeName : String)
    (h : (reg.incrementActive nodeName).1 = .ok ()) :
    (reg.incrementActive nodeName).2.nodes.contains (normalize nodeName) = true :=
  contains_of_updateNode reg nodeName _ h

/-- The counter of a node that is there can be decremented. -/
lemma decrementActive_ok (reg : NodeRegistry) (nodeName : String)
    (h : reg.nodes.contains (normalize nodeName) = true) :
    (reg.decrementActive nodeName).1 = .ok () := by
  obtain ⟨r, hget⟩ := Dict.contains_iff.1 h
  simp [NodeRegistry.decrementActive, NodeRegistry.updateNode, hget]

namespace Balance

variable {k : String → ℕ} {st : Start (gate Dump)} {w w' : World (gate Dump)}

lemma congr {k' : String → ℕ} (h : Balance k st w) (hk : ∀ node, k' node = k node) :
    Balance k' st w := by
  obtain rfl : k' = k := funext hk
  exact h

/-- A step that leaves the limiter alone and removes no node keeps the balance. -/
lemma frame (h : Balance k st w) (hlimits : w'.state.nodeLimits = w.state.nodeLimits)
    (hnodes : ∀ node, w.state.registry.nodes.contains node = true →
      w'.state.registry.nodes.contains node = true) : Balance k st w' where
  limiter := by rw [hlimits]; exact h.limiter
  nodes node hnode := hnodes node (h.nodes node hnode)
  count node := by
    rw [← h.count node, activePermits, hlimits, activePermits]

/-- At its first step a task holds nothing. -/
lemma start (h : w.state.nodeLimits.isSome = true) : Balance 0 ⟨w, none⟩ w :=
  ⟨h, fun _ hnode => hnode, fun node => by simp [leakedBy, wokenWith]⟩

/-- A task that is woken while it holds a permit still holds it, unless `acquire` was woken by
an exception. -/
lemma woken {q : GateRequest} {r : Except PyError q.Reply} (h : w.state.nodeLimits.isSome = true) :
    Balance (fun node => heldAt node q - leakedBy node (some ⟨q, r⟩)) ⟨w, some ⟨q, r⟩⟩ w := by
  refine ⟨h, fun _ hnode => hnode, fun node => ?_⟩
  have hle : leakedBy node (some ⟨q, r⟩) ≤ heldAt node q := by
    unfold leakedBy
    split
    · rename_i heq
      cases heq
      exact le_rfl
    · exact Nat.zero_le _
  change activePermits w.state node = activePermits w.state node
    + (heldAt node q - leakedBy node (some ⟨q, r⟩)) + leakedBy node (some ⟨q, r⟩) - heldAt node q
  omega

/-- `ensure_node_limit` keeps the balance. -/
lemma ensureNodeLimit (h : Balance k st w) (nodeName : String) (limit : ℕ) :
    Balance k st (w.put (onLimits (fun m => m.ensureNodeLimit nodeName limit) w.state).2) := by
  obtain ⟨m, hm⟩ := Option.isSome_iff_exists.1 h.limiter
  refine ⟨by simp [onLimits, hm], fun node hnode => ?_, fun node => ?_⟩
  · simpa [onLimits, hm] using h.nodes node hnode
  · rw [← h.count node]
    simp [onLimits, hm, activePermits]

/-- In its first segment a task takes a permit, or is refused. -/
lemma reserve (h : Balance 0 st w) (hwake : st.wake = none) (nodeName : String) :
    (onLimits (fun m => m.reserve nodeName) w.state).1 = .ok () ∧
      Balance (onePermit nodeName) st
        (w.put (onLimits (fun m => m.reserve nodeName) w.state).2) ∨
    ∃ e, (onLimits (fun m => m.reserve nodeName) w.state).1 = .error e ∧
      Balance 0 st (w.put (onLimits (fun m => m.reserve nodeName) w.state).2) := by
  obtain ⟨m, hm⟩ := Option.isSome_iff_exists.1 h.limiter
  have hnodes : ∀ node, st.world.state.registry.nodes.contains node = true →
      (onLimits (fun m => m.reserve nodeName) w.state).2.registry.nodes.contains node = true := by
    intro node hnode
    simpa [onLimits, hm] using h.nodes node hnode
  rcases m.reserve_cases nodeName with ⟨hok, hcount⟩ | ⟨⟨e, herr⟩, hsame⟩
  · left
    refine ⟨by simp [onLimits, hm, hok], by simp [onLimits, hm], hnodes, fun node => ?_⟩
    have hold := h.count node
    have hnew := hcount node
    simp only [activePermits, hm, Option.elim_some, Pi.zero_apply, onLimits, World.put_state,
      onePermit, hwake, leakedBy, wokenWith, Option.elim_none] at hold ⊢
    omega
  · right
    refine ⟨e, by simp [onLimits, hm, herr], by simp [onLimits, hm], hnodes, fun node => ?_⟩
    rw [← h.count node]
    simp [onLimits, hm, activePermits, hsame]

/-- A task that holds one permit gives it back. -/
lemma release {nodeName : String} (h : Balance (onePermit nodeName) st w) :
    Balance 0 st (w.put (onLimits (fun m => m.release nodeName) w.state).2) := by
  obtain ⟨m, hm⟩ := Option.isSome_iff_exists.1 h.limiter
  refine ⟨by simp [onLimits, hm], fun node hnode => ?_, fun node => ?_⟩
  · simpa [onLimits, hm] using h.nodes node hnode
  have hold := h.count node
  simp only [activePermits, hm, Option.elim_some, Pi.zero_apply, onLimits, World.put_state,
    onePermit] at hold ⊢
  rcases m.release_cases nodeName with ⟨-, hcount⟩ | ⟨hzero, -, hsame⟩
  · rw [hcount node]
    omega
  · rw [hsame]
    by_cases hnode : normalize node = normalize nodeName
    · have hnode' : m.activeCount node = m.activeCount nodeName := by
        simp only [PerNodeLimiterManager.activeCount, hnode]
      rw [if_pos hnode] at hold
      omega
    · rw [if_neg hnode] at hold
      exact hold

end Balance

/-! ### A dispatch keeps the balance -/

/-- Along a dispatch the task holds a permit from the await in `acquire` to its release; an
exception at that await costs the permit, since the flag is not set. -/
lemma exists_permitOutline (tid : ℕ) (plan : DispatchPlan) (packet : TransportPacket) :
    ∃ O : DispatchOutline (permitProtocol : Protocol (gate Dump)) tid plan packet,
      (∀ st w, st.wake = none → Balance 0 st w → O.Fresh st w) ∧
        ∀ st w, O.Done st w → Balance 0 st w := by
  refine ⟨
    { Fresh st w := st.wake = none ∧ Balance 0 st w
      Limited st w := st.wake = none ∧ Balance 0 st w
      Granted b st w := b = true ∧ Balance (onePermit plan.target.nodeName) st w
      Counted b st w := b = true ∧ Balance (onePermit plan.target.nodeName) st w ∧
        w.state.registry.nodes.contains (normalize plan.target.nodeName) = true
      Holding permits st w :=
        Balance (fun node => if permits.acquiredLimit then onePermit plan.target.nodeName node
            else 0) st w ∧
          (permits.incremented = true →
            w.state.registry.nodes.contains (normalize plan.target.nodeName) = true)
      Done st w := Balance 0 st w
      unlimited := by
        rintro st w ⟨-, h⟩ hlimits
        have hlimiter := h.limiter
        rw [hlimits] at hlimiter
        cases hlimiter
      ensure_ok h _ _ := ⟨h.1, h.2.ensureNodeLimit _ _⟩
      ensure_error h _ := ⟨h.2.ensureNodeLimit _ _, fun hcounted => by cases hcounted⟩
      reserve_ok := by
        rintro st w ⟨hwake, h⟩ hok
        rcases h.reserve hwake plan.target.nodeName with ⟨-, hbal⟩ | ⟨e, herr, -⟩
        swap
        · rw [herr] at hok
          cases hok
        refine ⟨hbal, fun w' hinv _ => ⟨fun e => ⟨?_, fun hcounted => by cases hcounted⟩, rfl, ?_⟩⟩
        · have hwoken := Balance.woken
            (q := .limiterYield plan.target.nodeName) (r := .error e) hinv
          exact hwoken.congr fun node => by simp [leakedBy, heldAt]
        · have hwoken := Balance.woken
            (q := .limiterYield plan.target.nodeName) (r := .ok ()) hinv
          exact hwoken.congr fun node => by simp [leakedBy, heldAt]
      reserve_error := by
        rintro st w e ⟨hwake, h⟩ herr
        rcases h.reserve hwake plan.target.nodeName with ⟨hok, -⟩ | ⟨e', -, hbal⟩
        · rw [hok] at herr
          cases herr
        · exact ⟨hbal, fun hcounted => by cases hcounted⟩
      increment_ok := by
        rintro b st w ⟨rfl, h⟩ hok
        exact ⟨rfl, h.frame rfl fun node hnode => contains_updateNode _ _ _ hnode,
          contains_of_incrementActive _ _ hok⟩
      increment_error := by
        rintro b st w e ⟨rfl, h⟩ -
        exact ⟨h.frame rfl fun node hnode => contains_updateNode _ _ _ hnode,
          fun hcounted => by cases hcounted⟩
      send := by
        rintro b st w ⟨rfl, h, hnode⟩
        refine ⟨h, fun r w' hinv hrely => ⟨?_, fun _ => hrely _ hnode⟩⟩
        have hwoken := Balance.woken
          (q := .send plan.target.nodeName packet plan.target.internalUrl) (r := r) hinv
        exact hwoken.congr fun node => by simp [leakedBy, heldAt]
      mark h := ⟨h.1.frame rfl fun node hnode => contains_updateNode _ _ _ hnode,
        fun hcounted => contains_updateNode _ _ _ (h.2 hcounted)⟩
      decrement_ok h _ := ⟨h.1.frame rfl fun node hnode => contains_updateNode _ _ _ hnode,
        fun hcounted => by cases hcounted⟩
      decrement_error := by
        -- a node that was counted is still there, so that its counter can be decremented
        rintro b st w e ⟨-, hnode⟩ herr
        have hok := decrementActive_ok w.state.registry plan.target.nodeName (hnode rfl)
        change (w.state.registry.decrementActive plan.target.nodeName).1 = .error e at herr
        rw [hok] at herr
        cases herr
      release h := h.1.release
      nothing h := h.1 }, fun _ _ hwake h => ⟨hwake, h⟩, fun _ _ h => h⟩

/-- A dispatch keeps the balance from each await to the next. -/
theorem dispatch_correct (cfg : GateConfig Dump) (packet : TransportPacket)
    (deadline : Option Deadline) : (dispatch cfg packet deadline).Correct permitProtocol := by
  intro tid w hinv _
  obtain ⟨hlimits, hregistry⟩ := derivePacket_frame cfg packet deadline w.state
  have hderived : Balance 0 ⟨w, none⟩ (w.put (derivePacket cfg packet deadline w.state).2) := by
    refine (Balance.start hinv).frame hlimits fun node hnode => ?_
    rw [World.put_state, hregistry]
    exact hnode
  have hlogged : ∀ e, Balance 0 ⟨w, none⟩
      ((w.put (derivePacket cfg packet deadline w.state).2).emit tid e) :=
    fun _ => hderived.frame rfl fun _ hnode => hnode
  refine wp_dispatch_outline cfg packet deadline (fun _ _ => hderived) (fun _ _ _ _ => hlogged _)
    fun plan sealed _ _ => ?_
  exact (exists_permitOutline tid plan sealed).imp fun _ hO =>
    ⟨hO.1 _ _ rfl (hlogged _), fun _ => hO.2⟩

/-! ### Runs of dispatches -/

/-- The number of dispatches to a node that have been granted a permit and have not finished. -/
def holders {α : Type} (node : String) (c : Pool (gate Dump) α) : ℕ := c.weight (heldAt node)

/-- The permit that a move loses. -/
def leakOf {α : Type} (node : String) (c : Pool (gate Dump) α) : Move (gate Dump) α → ℕ
  | .resume i reply =>
    match c.tasks[i]? with
    | some (.waiting q _) => leakedBy node (some ⟨q, reply q⟩)
    | _ => 0
  | _ => 0

/-- The permits that a run loses. -/
def leakedIn {α : Type} (node : String) :
    Pool (gate Dump) α → List (Move (gate Dump) α) → ℕ
  | _, [] => 0
  | c, m :: ms => leakOf node c m + leakedIn node (c.step m) ms

lemma holders_set {α : Type} (node : String) (w w' : World (gate Dump))
    {ts : List (Status (gate Dump) α)} {i : ℕ} {t : Status (gate Dump) α} (h : ts[i]? = some t)
    (t' : Status (gate Dump) α) :
    holders node ⟨w', ts.set i t'⟩ + t.request?.elim 0 (heldAt node) =
      holders node ⟨w, ts⟩ + t'.request?.elim 0 (heldAt node) :=
  Pool.sum_map_set _ h t'

/-- One step: the counts of the limiter follow the holders and the leaks. -/
lemma active_step {α : Type} {c c' : Pool (gate Dump) α} {m : Move (gate Dump) α}
    (hstep : Pool.Stepped permitProtocol c m c') {node : String} {lost : ℕ}
    (h : activePermits c.world.state node = holders node c + lost) :
    activePermits c'.world.state node = holders node c' + lost + leakOf node c m := by
  -- what a segment does to the limiter is what it holds afterwards less what it held before
  cases hstep with
  | @spawn w w' ts t p hguar happ =>
    have hcount := hguar.count node
    have hsum : holders node ⟨w', ts ++ [t]⟩ =
        holders node ⟨w, ts⟩ + t.request?.elim 0 (heldAt node) := by
      simp [holders, Pool.weight]
    simp only [leakedBy, wokenWith, Option.elim_none, leakOf] at hcount h ⊢
    omega
  | @resume w w' ts t i q k reply hwait hlegal hguar happ =>
    have hcount := hguar.count node
    have hsum := holders_set node w w' hwait t
    have hdone := holders_set node w w' hwait
      (.finished (.error .cancelled))
    have hleak : leakOf node ⟨w, ts⟩ (.resume i reply) = leakedBy node (some ⟨q, reply q⟩) := by
      simp [leakOf, hwait]
    rw [hleak]
    simp only [wokenWith, Status.request?, Option.elim_some, Option.elim_none]
      at hcount hsum hdone h ⊢
    omega
  | @idle _ i reply hidle =>
    have hleak : leakOf node c (.resume i reply) = 0 := by
      simp only [leakOf]
    omega
  | @environ w ts f henv =>
    have hsame : activePermits (f w.state) node = activePermits w.state node := by
      rw [activePermits, henv.1, activePermits]
    change activePermits (f w.state) node = _
    rw [hsame]
    exact h

/-- The programs of the runs below. -/
def IsDispatch (cfg : GateConfig Dump) (p : Co (gate Dump) TransportPacket) : Prop :=
  ∃ packet deadline, p = dispatch cfg packet deadline

/-- Along every run of dispatches the active count of a node is the number of dispatches that
hold a permit of it, plus the permits that were lost. -/
theorem permits_run {cfg : GateConfig Dump} {c : Pool (gate Dump) TransportPacket}
    (hc : c.Good permitProtocol) {ms : List (Move (gate Dump) TransportPacket)}
    (hms : c.LegalRun permitProtocol (IsDispatch cfg) ms) {node : String} {lost : ℕ}
    (h : activePermits c.world.state node = holders node c + lost) :
    activePermits (c.run ms).world.state node =
      holders node (c.run ms) + lost + leakedIn node c ms := by
  induction ms generalizing c lost with
  | nil => simpa [leakedIn] using h
  | cons m ms ih =>
    have hprog : ∀ p, IsDispatch cfg p → p.Correct permitProtocol := by
      rintro p ⟨packet, deadline, rfl⟩
      exact dispatch_correct cfg packet deadline
    obtain ⟨hstep, hgood⟩ := Pool.stepped permitProtocol_lawful hprog hc hms.1
    have hnext := active_step hstep h
    rw [Nat.add_assoc] at hnext
    rw [Pool.run_cons, ih hgood hms.2 hnext, leakedIn]
    omega

/-- The counts are exact: each is the number of dispatches that hold a permit of the node, and
it is zero when no dispatch is in progress. -/
def PermitsExact {α : Type} (c : Pool (gate Dump) α) : Prop :=
  (∀ node, activePermits c.world.state node = holders node c) ∧
  ((∀ t ∈ c.tasks, t.request? = none) → ∀ node, activePermits c.world.state node = 0)

/-- The move delivers an exception to a dispatch that is suspended in `acquire`. -/
def CancelsAcquire {α : Type} (c : Pool (gate Dump) α) (m : Move (gate Dump) α) : Prop :=
  ∃ (i : ℕ) (reply : ∀ q : GateRequest, Except PyError q.Reply) (nodeName : String)
    (k : Except PyError Unit → Co (gate Dump) α) (e : PyError),
    m = .resume i reply ∧ c.tasks[i]? = some (.waiting (.limiterYield nodeName) k) ∧
      reply (.limiterYield nodeName) = .error e

lemma holders_eq_zero {α : Type} {c : Pool (gate Dump) α} (h : ∀ t ∈ c.tasks, t.request? = none)
    (node : String) : holders node c = 0 := by
  refine List.sum_eq_zero fun n hn => ?_
  obtain ⟨t, ht, rfl⟩ := List.mem_map.1 hn
  simp [h t ht]

lemma permitsExact_iff {α : Type} {c : Pool (gate Dump) α} :
    PermitsExact c ↔ ∀ node, activePermits c.world.state node = holders node c := by
  refine ⟨fun h => h.1, fun h => ⟨h, fun hdone node => ?_⟩⟩
  rw [h node, holders_eq_zero hdone]

/-- A move loses a permit exactly when it cancels an `acquire`. -/
lemma cancelsAcquire_iff {α : Type} {c : Pool (gate Dump) α} {m : Move (gate Dump) α} :
    CancelsAcquire c m ↔ ∃ node, leakOf node c m ≠ 0 := by
  constructor
  · rintro ⟨i, reply, nodeName, k, e, rfl, hwait, herr⟩
    refine ⟨nodeName, ?_⟩
    have hreply : reply (GateRequest.limiterYield nodeName) = Except.error e := herr
    simp [leakOf, hwait, leakedBy, hreply, onePermit]
  · rintro ⟨node, hleak⟩
    cases m with
    | spawn p => exact absurd rfl hleak
    | environ f => exact absurd rfl hleak
    | resume i reply =>
      rcases hget : c.tasks[i]? with _ | (r | ⟨q, k⟩)
      · simp [leakOf, hget] at hleak
      · simp [leakOf, hget] at hleak
      · simp only [leakOf, hget] at hleak
        cases q with
        | limiterYield nodeName =>
          rcases hreply : reply (GateRequest.limiterYield nodeName) with e | u
          · exact ⟨i, reply, nodeName, k, e, rfl, hget, hreply⟩
          · simp [leakedBy, hreply] at hleak
        | send nodeName packet url => exact absurd rfl hleak
        | retrySleep seconds => exact absurd rfl hleak
        | dispatch packet deadline => exact absurd rfl hleak

lemma leakedIn_append {α : Type} (node : String) (c : Pool (gate Dump) α)
    (ms ms' : List (Move (gate Dump) α)) :
    leakedIn node c (ms ++ ms') = leakedIn node c ms + leakedIn node (c.run ms) ms' := by
  induction ms generalizing c with
  | nil => simp [leakedIn]
  | cons m ms ih => rw [List.cons_append, leakedIn, ih, leakedIn, Pool.run_cons, Nat.add_assoc]

/-- A run in which no move loses a permit loses none. -/
lemma leakedIn_eq_zero {α : Type} (node : String) {c : Pool (gate Dump) α}
    {ms : List (Move (gate Dump) α)}
    (h : ∀ pre m, pre ++ [m] <+: ms → leakOf node (c.run pre) m = 0) : leakedIn node c ms = 0 := by
  induction ms generalizing c with
  | nil => rfl
  | cons m ms ih =>
    have hfirst : leakOf node c m = 0 := h [] m (by simp)
    have hrest : leakedIn node (c.step m) ms = 0 :=
      ih fun pre m' hpre => h (m :: pre) m' (by simpa using hpre)
    rw [leakedIn, hfirst, hrest]

/-- The permit accounting is exact in every state that a run of dispatches reaches, whatever
the workers answer, exactly when no dispatch is cancelled while it is suspended in `acquire`. -/
theorem permits_exact_iff {cfg : GateConfig Dump} {s : GateState Dump}
    (hlimiter : s.nodeLimits.isSome = true) (hfresh : ∀ node, activePermits s node = 0)
    {ms : List (Move (gate Dump) TransportPacket)}
    (hms : (Pool.init s).LegalRun permitProtocol (IsDispatch cfg) ms) :
    (∀ pre, pre <+: ms → PermitsExact ((Pool.init s).run pre)) ↔
      ∀ pre m, pre ++ [m] <+: ms → ¬ CancelsAcquire ((Pool.init s).run pre) m := by
  have hgood : (Pool.init s : Pool (gate Dump) TransportPacket).Good permitProtocol :=
    Pool.good_init hlimiter
  have hcount : ∀ pre, pre <+: ms → ∀ node,
      activePermits ((Pool.init s).run pre).world.state node =
        holders node ((Pool.init s).run pre) + leakedIn node (Pool.init s) pre := by
    rintro pre ⟨post, rfl⟩ node
    have hzero : holders node (Pool.init s : Pool (gate Dump) TransportPacket) = 0 := rfl
    have hstart : activePermits (Pool.init s : Pool (gate Dump) TransportPacket).world.state node =
        holders node (Pool.init s : Pool (gate Dump) TransportPacket) + 0 := by
      rw [hzero]
      exact hfresh node
    have hrun := permits_run hgood hms.of_append hstart
    omega
  -- so the accounting is exact after a prefix exactly when its moves have lost no permit
  constructor
  · intro hexact pre m hpre hcancel
    obtain ⟨node, hleak⟩ := cancelsAcquire_iff.1 hcancel
    have hactive := hcount _ hpre node
    rw [(hexact _ hpre).1 node, leakedIn_append, leakedIn, leakedIn] at hactive
    omega
  · intro hnone pre hpre
    refine permitsExact_iff.2 fun node => ?_
    have hzero : leakedIn node (Pool.init s) pre = 0 := by
      refine leakedIn_eq_zero node fun pre' m hpre' => ?_
      by_contra hleak
      exact hnone pre' m (hpre'.trans hpre) (cancelsAcquire_iff.2 ⟨node, hleak⟩)
    rw [hcount pre hpre node, hzero, Nat.add_zero]

/-- A process with one worker for the action `score`. -/
def scoreState : GateState TransportPacket :=
  .fresh (NodeRegistry.oneWorker "worker" "score") (some .empty) (.stopped 0) ⟨fun _ => 0, 0⟩

/-- One dispatch is started, and cancelled in `acquire`. -/
def cancelledAcquire : List (Move (gate TransportPacket) TransportPacket) :=
  [.spawn (dispatch .plain (clientPacket "acme" "score" none) none),
   .resume 0 fun _ => .error .cancelled]

lemma cancelledAcquire_legal :
    (Pool.init scoreState).LegalRun permitProtocol (IsDispatch .plain) cancelledAcquire :=
  ⟨⟨_, _, rfl⟩, fun _ _ _ => trivial, trivial⟩

/-- The characterisation for the run that is cancelled in `acquire`. -/
theorem permits_exact_iff_cancelledAcquire :
    (∀ pre, pre <+: cancelledAcquire → PermitsExact ((Pool.init scoreState).run pre)) ↔
      ∀ pre m, pre ++ [m] <+: cancelledAcquire →
        ¬ CancelsAcquire ((Pool.init scoreState).run pre) m :=
  permits_exact_iff rfl (fun _ => rfl) cancelledAcquire_legal

/-- After that run no dispatch is in progress, and a permit is still taken. -/
theorem cancelledAcquire_not_exact :
    ¬ ∀ (cfg : GateConfig TransportPacket) (s : GateState TransportPacket),
      s.nodeLimits.isSome = true → (∀ node, activePermits s node = 0) →
      ∀ ms, (Pool.init s).LegalRun permitProtocol (IsDispatch cfg) ms →
        PermitsExact ((Pool.init s).run ms) := by
  intro h
  have hexact := h .plain scoreState rfl (fun _ => rfl) cancelledAcquire cancelledAcquire_legal
  have hactive :
      activePermits ((Pool.init scoreState).run cancelledAcquire).world.state "worker" = 1 := by
    decide +kernel
  have hdone : ∀ t ∈ ((Pool.init scoreState).run cancelledAcquire).tasks, t.request? = none := by
    have hall : ((Pool.init scoreState).run cancelledAcquire).tasks.all
        (fun t => t.request?.isNone) = true := by
      decide +kernel
    exact fun t ht => Option.isNone_iff_eq_none.1 (List.all_eq_true.1 hall t ht)
  rw [hexact.2 hdone] at hactive
  cases hactive

end ConstellationGate
