import ConstellationGate.Routing.MonitorLifecycle
import ConstellationGate.Routing.RegistryRuns

/-!
# How the health of a node is restored

A round of the monitor compares what a probe finds with the copy that it has taken at its beginning,
not with the registry: a node whose health has changed in the meantime may be left as it is.  The
next round puts that right.  While the endpoint of a node keeps to one answer and nobody else
changes the health of the node, its health is that answer once a round has been both begun and
completed, whatever other rounds, registrations and dispatches do in between
(`health_converges`).
-/

namespace ConstellationGate

variable {Dump : Type}

/-! ### A round, probe by probe -/

/-- A round after the answer to a probe. -/
def resumeProbe (nodeName : String) (registration : NodeRegistration)
    (rest : List (String × NodeRegistration)) (reply : Except PyError ℕ) :
    Co (monitored Dump) Unit :=
  match probeVerdict reply with
  | .error exc => .done (.error exc)
  | .ok healthy =>
    if healthy = registration.healthy then probeNodes rest
    else
      Co.call (S := monitored Dump) (onRegistry fun reg => reg.setHealth nodeName healthy) >>=
        fun _ => Co.log (S := monitored Dump)
            (.inr (if healthy then .restored nodeName else .lost nodeName)) >>=
          fun _ => probeNodes rest

/-- The loop over the copy awaits one probe after the other. -/
lemma probeNodes_cons (nodeName : String) (registration : NodeRegistration)
    (rest : List (String × NodeRegistration)) :
    (probeNodes ((nodeName, registration) :: rest) : Co (monitored Dump) Unit) =
      .await (S := monitored Dump) (.inr ⟨nodeName, registration⟩)
        (resumeProbe nodeName registration rest) := by
  have hbind : (probeNodes ((nodeName, registration) :: rest) : Co (monitored Dump) Unit) =
      .await (S := monitored Dump) (.inr ⟨nodeName, registration⟩) fun reply =>
        (Co.done (S := monitored Dump) (probeVerdict reply) >>= fun healthy =>
          if healthy = registration.healthy then probeNodes rest
          else if healthy then
            Co.call (S := monitored Dump) (onRegistry fun reg => reg.markHealthy nodeName) >>=
              fun _ => Co.log (S := monitored Dump) (.inr (.restored nodeName)) >>=
                fun _ => probeNodes rest
          else
            Co.call (S := monitored Dump) (onRegistry fun reg => reg.markUnhealthy nodeName) >>=
              fun _ => Co.log (S := monitored Dump) (.inr (.lost nodeName)) >>=
                fun _ => probeNodes rest) := rfl
  rw [hbind]
  congr 1
  funext reply
  simp only [resumeProbe]
  rcases probeVerdict reply with exc | healthy
  · rfl
  · cases healthy
    · rfl
    · rfl

/-- What the monitor records. -/
def recorded (tid : ℕ) (e : MonitorEvent) (w : World (monitored Dump)) : World (monitored Dump) :=
  World.emit (S := monitored Dump) w tid (.inr e)

/-- What a verdict on a node makes of the world. -/
def judge (tid : ℕ) (nodeName : String) (registration : NodeRegistration) (healthy : Bool)
    (w : World (monitored Dump)) : World (monitored Dump) :=
  if healthy = registration.healthy then w
  else
    recorded tid (if healthy then .restored nodeName else .lost nodeName)
      (w.put { w.state with registry := (w.state.registry.setHealth nodeName healthy).2 })

/-- A round that comes to the nodes `entries`. -/
def startNodes (tid : ℕ) (w : World (monitored Dump)) :
    List (String × NodeRegistration) → Status (monitored Dump) Unit × World (monitored Dump)
  | [] => (.finished (.ok ()), recorded tid .probeRound w)
  | (nodeName, registration) :: rest =>
    (.waiting (S := monitored Dump) (.inr ⟨nodeName, registration⟩)
      (resumeProbe nodeName registration rest), w)

lemma segment_probeNodes (tid : ℕ) (w : World (monitored Dump))
    (entries : List (String × NodeRegistration)) :
    (probeNodes entries).segment tid w = startNodes tid w entries := by
  cases entries with
  | nil => rfl
  | cons entry rest =>
    obtain ⟨nodeName, registration⟩ := entry
    rw [probeNodes_cons]
    rfl

/-- A turn of a round: the probe raises, the node is unknown by now, or the round goes on. -/
lemma segment_resumeProbe (nodeName : String) (registration : NodeRegistration)
    (rest : List (String × NodeRegistration)) (reply : Except PyError ℕ) (tid : ℕ)
    (w : World (monitored Dump)) :
    (∃ exc, (resumeProbe nodeName registration rest reply).segment tid w =
        (.finished (.error exc), w)) ∨
      ∃ healthy, probeVerdict reply = .ok healthy ∧
        (resumeProbe nodeName registration rest reply).segment tid w =
          startNodes tid (judge tid nodeName registration healthy w) rest := by
  simp only [resumeProbe]
  rcases probeVerdict reply with exc | healthy
  · exact .inl ⟨exc, rfl⟩
  simp only
  split
  · rename_i hsame
    refine .inr ⟨healthy, rfl, ?_⟩
    rw [segment_probeNodes, judge, if_pos hsame]
  rename_i hdiffer
  rcases hset : w.state.registry.setHealth nodeName healthy with ⟨exc | ⟨⟩, reg⟩
  · -- an unknown node: the registry is as it was
    left
    have hreg : reg = w.state.registry := by
      rw [NodeRegistry.setHealth, NodeRegistry.updateNode] at hset
      split at hset
      · exact (Prod.mk.inj hset).2.symm
      · cases (Prod.mk.inj hset).1
    subst hreg
    refine ⟨exc, Co.segment_bind_call_error (s := w.state) ?_⟩
    simp only [onRegistry, hset]
    rfl
  · right
    refine ⟨healthy, rfl, ?_⟩
    have hcall : onRegistry (fun reg => reg.setHealth nodeName healthy) w.state =
        (.ok (), { w.state with registry := reg }) := by
      simp only [onRegistry, hset]
    rw [Co.segment_bind_call_ok hcall, judge, if_neg hdiffer, hset]
    exact segment_probeNodes tid _ rest

/-- What a round still has to ask, the node that it is asking first; nothing outside of a round. -/
abbrev ToAsk := Option (List (String × NodeRegistration))

namespace LoopTask

/-- The task is in a round that still has to ask these nodes, or is in no round. -/
inductive Asks : LoopTask Dump → ToAsk → Prop
  | idle {t : LoopTask Dump} (ht : ∀ q k, t ≠ .probing q k) : Asks t none
  | round (nodeName : String) (registration : NodeRegistration)
      (rest : List (String × NodeRegistration)) :
      Asks (.probing (.inr ⟨nodeName, registration⟩) (resumeProbe nodeName registration rest))
        (some ((nodeName, registration) :: rest))

lemma asks_created : (created : LoopTask Dump).Asks none := by
  constructor
  intro q k h
  cases h

lemma asks_sleeping : (sleeping : LoopTask Dump).Asks none := by
  constructor
  intro q k h
  cases h

lemma asks_ended (outcome : Except PyError Unit) : (ended outcome : LoopTask Dump).Asks none := by
  constructor
  intro q k h
  cases h

lemma asks_afterRound (stopEvent : Bool) (outcome : Except PyError Unit) :
    (afterRound stopEvent outcome : LoopTask Dump).Asks none := by
  have hcaught : (if stopEvent then ended (.ok ()) else sleeping : LoopTask Dump).Asks none := by
    split
    · exact asks_ended _
    · exact asks_sleeping
  rcases outcome with exc | ⟨⟩
  · rw [afterRound]
    split
    · exact hcaught
    · exact asks_ended _
  · exact hcaught

end LoopTask

/-- What a turn of a task makes of what it still has to ask, and of the world. -/
inductive LoopTurn (tid : ℕ) (wakeup : Wakeup Dump) (w : World (monitored Dump)) :
    ToAsk → ToAsk × World (monitored Dump) → Prop
  /-- The task is in no round, and begins none. -/
  | idle : LoopTurn tid wakeup w none (none, w)
  /-- A round is begun. -/
  | begins : LoopTurn tid wakeup w none (some w.state.registry.nodes.entries, w)
  /-- A round is over at once, because there are no nodes. -/
  | beginsEmpty (hempty : w.state.registry.nodes.entries = []) :
      LoopTurn tid wakeup w none (none, recorded tid .probeRound w)
  /-- A round raises. -/
  | aborts (entries : List (String × NodeRegistration)) :
      LoopTurn tid wakeup w (some entries) (none, w)
  /-- A round comes to the next node. -/
  | goesOn {nodeName : String} {registration : NodeRegistration}
      (rest : List (String × NodeRegistration)) {healthy : Bool}
      (hverdict : probeVerdict (wakeup.probe (.inr ⟨nodeName, registration⟩)) = .ok healthy) :
      LoopTurn tid wakeup w (some ((nodeName, registration) :: rest))
        (some rest, judge tid nodeName registration healthy w)
  /-- A round is completed. -/
  | completes {nodeName : String} {registration : NodeRegistration} {healthy : Bool}
      (hverdict : probeVerdict (wakeup.probe (.inr ⟨nodeName, registration⟩)) = .ok healthy) :
      LoopTurn tid wakeup w (some [(nodeName, registration)])
        (none, recorded tid .probeRound (judge tid nodeName registration healthy w))

namespace LoopTask

variable {stopEvent : Bool} {tid : ℕ} {wakeup : Wakeup Dump} {w : World (monitored Dump)}
  {t : LoopTask Dump} {asks : ToAsk}

/-- The task after a turn, and what it still has to ask. -/
def TurnsTo (tid : ℕ) (wakeup : Wakeup Dump) (w : World (monitored Dump)) (asks : ToAsk)
    (r : LoopTask Dump × World (monitored Dump)) : Prop :=
  ∃ asks', r.1.Asks asks' ∧ LoopTurn tid wakeup w asks (asks', r.2)

lemma turnsTo_nextRound (stopEvent : Bool) :
    TurnsTo tid wakeup w none (nextRound stopEvent tid w) := by
  rw [nextRound]
  split
  · exact ⟨none, asks_ended _, .idle⟩
  have hseg : probeOnce.segment tid w = startNodes tid w w.state.registry.nodes.entries :=
    segment_probeNodes tid w _
  rw [hseg]
  have hbegins : LoopTurn tid wakeup w none (some w.state.registry.nodes.entries, w) := .begins
  rcases hentries : w.state.registry.nodes.entries with _ | ⟨⟨nodeName, registration⟩, rest⟩
  · exact ⟨none, asks_afterRound stopEvent (.ok ()), .beginsEmpty hentries⟩
  · rw [hentries] at hbegins
    exact ⟨_, .round nodeName registration rest, hbegins⟩

/-- Every turn of a task is one of these. -/
lemma Asks.turnsTo (h : t.Asks asks) (stopEvent : Bool) (tid : ℕ) (wakeup : Wakeup Dump)
    (w : World (monitored Dump)) :
    TurnsTo tid wakeup w asks (t.turn stopEvent tid wakeup w) := by
  cases h with
  | idle ht =>
    cases t with
    | probing q k => exact absurd rfl (ht q k)
    | ended outcome => exact ⟨none, asks_ended _, .idle⟩
    | created =>
      rw [turn]
      rcases wakeup.run with exc | ⟨⟩
      · exact ⟨none, asks_ended _, .idle⟩
      · exact turnsTo_nextRound stopEvent
    | sleeping =>
      rw [turn]
      rcases wakeup.slept with exc | ⟨⟩
      · simp only
        split
        · exact turnsTo_nextRound stopEvent
        · exact ⟨none, asks_ended _, .idle⟩
      · exact turnsTo_nextRound stopEvent
  | round nodeName registration rest =>
    change TurnsTo tid wakeup w _ (inRound stopEvent ((resumeProbe nodeName registration rest
      (wakeup.probe (.inr ⟨nodeName, registration⟩))).segment tid w))
    rcases segment_resumeProbe nodeName registration rest
      (wakeup.probe (.inr ⟨nodeName, registration⟩)) tid w with ⟨exc, heq⟩ | ⟨healthy, hv, heq⟩
    · rw [heq]
      exact ⟨none, asks_afterRound stopEvent (.error exc), .aborts _⟩
    · rw [heq]
      rcases rest with _ | ⟨⟨nodeName', registration'⟩, rest⟩
      · exact ⟨none, asks_afterRound stopEvent (.ok ()), .completes hv⟩
      · exact ⟨_, .round nodeName' registration' rest, .goesOn _ hv⟩

end LoopTask

/-! ### The health of a node -/

namespace NodeRegistry

variable {reg : NodeRegistry} {nodeName node : String} {healthy : Bool}

/-- The health of a node, when it is registered. -/
def healthOf (reg : NodeRegistry) (node : String) : Option Bool :=
  (reg.nodes.get? node).map NodeRegistration.healthy

/-- The health of a node changes alone. -/
lemma healthOf_setHealth (reg : NodeRegistry) (nodeName : String) (healthy : Bool)
    (node : String) :
    (reg.setHealth nodeName healthy).2.healthOf node =
      if node = normalize nodeName then (reg.healthOf node).map fun _ => healthy
      else reg.healthOf node := by
  rw [setHealth, updateNode, healthOf, healthOf]
  rcases hget : reg.nodes.get? (normalize nodeName) with _ | r
  · simp only
    split
    · rename_i hnode
      rw [hnode, hget]
      rfl
    · rfl
  · simp only [Dict.get?_set]
    split
    · rename_i hnode
      rw [hnode, hget]
      rfl
    · rfl

end NodeRegistry

section Health

variable {tid : ℕ} {w : World (monitored Dump)} {node nodeName : String} {healthy : Bool}
  {registration : NodeRegistration}

/-- The registry after a verdict. -/
lemma registry_judge : (judge tid nodeName registration healthy w).state.registry =
    if healthy = registration.healthy then w.state.registry
    else (w.state.registry.setHealth nodeName healthy).2 := by
  rw [judge]
  split <;> rfl

/-- A verdict changes the health of its own node only, and only to what it says. -/
lemma healthOf_judge (hnormal : normalize nodeName = nodeName) (node : String) :
    (judge tid nodeName registration healthy w).state.registry.healthOf node =
      if healthy ≠ registration.healthy ∧ node = nodeName then
        (w.state.registry.healthOf node).map fun _ => healthy
      else w.state.registry.healthOf node := by
  rw [registry_judge]
  by_cases hsame : healthy = registration.healthy
  · rw [if_pos hsame, if_neg fun h => h.1 hsame]
  · rw [if_neg hsame, NodeRegistry.healthOf_setHealth, hnormal]
    simp only [hsame, ne_eq, not_false_eq_true, true_and]

lemma keyed_judge (h : w.state.registry.Keyed) :
    (judge tid nodeName registration healthy w).state.registry.Keyed := by
  rw [registry_judge]
  split
  · exact h
  · refine (NodeRegistry.changed_updateNode _ nodeName fun r s hr => ?_).keyed h
    cases hr
    exact ⟨rfl, rfl, rfl⟩

end Health

/-! ### Turns and health -/

/-- The endpoint of the node answers this, whatever the copy of the round says. -/
def Wakeup.Finds (wakeup : Wakeup Dump) (node : String) (v : Bool) : Prop :=
  ∀ r, probeVerdict (wakeup.probe (.inr ⟨node, r⟩)) = .ok v

/-- Nodes are asked under normalized names. -/
def NormalNames (asks : ToAsk) : Prop := ∀ entries ∈ asks, ∀ e ∈ entries, normalize e.1 = e.1

lemma normalNames_none : NormalNames none := by
  intro entries hentries
  cases hentries

/-- The completed rounds among events. -/
def completedRounds (events : List (monitored Dump).Event) : ℕ :=
  events.countP fun e =>
    match e with
    | .inr .probeRound => true
    | _ => false

namespace LoopTurn

variable {tid : ℕ} {wakeup : Wakeup Dump} {w w' : World (monitored Dump)} {asks asks' : ToAsk}
  {node : String} {v : Bool}

lemma eventsOf_recorded (w : World (monitored Dump)) (tid : ℕ) (e : MonitorEvent) :
    (recorded tid e w).eventsOf tid =
      w.eventsOf tid ++ ([.inr e] : List (monitored Dump).Event) :=
  World.eventsOf_emit w tid _

lemma eventsOf_recorded_of_ne {i : ℕ} (hi : i ≠ tid) (w : World (monitored Dump))
    (e : MonitorEvent) : (recorded tid e w).eventsOf i = w.eventsOf i := by
  have hlog : (recorded tid e w).log =
      w.log ++ ([(tid, .inr e)] : List (ℕ × (monitored Dump).Event)) := rfl
  rw [World.eventsOf, hlog, eventsIn_append, World.eventsOf]
  simp [eventsIn, Ne.symm hi]

lemma eventsOf_judge_of_ne {i : ℕ} (hi : i ≠ tid) (nodeName : String)
    (registration : NodeRegistration) (healthy : Bool) :
    (judge tid nodeName registration healthy w).eventsOf i = w.eventsOf i := by
  rw [judge]
  split
  · rfl
  · exact eventsOf_recorded_of_ne hi _ _

lemma completedRounds_judge (nodeName : String) (registration : NodeRegistration)
    (healthy : Bool) :
    completedRounds ((judge tid nodeName registration healthy w).eventsOf tid) =
      completedRounds (w.eventsOf tid) := by
  rw [judge]
  split
  · rfl
  · rw [eventsOf_recorded, completedRounds, List.countP_append]
    cases healthy <;> rfl

lemma completedRounds_recorded (w : World (monitored Dump)) (tid : ℕ) :
    completedRounds ((recorded tid .probeRound w).eventsOf tid) =
      completedRounds (w.eventsOf tid) + 1 := by
  rw [eventsOf_recorded, completedRounds, List.countP_append]
  rfl

/-- A turn records nothing for the other tasks. -/
lemma eventsOf_of_ne (h : LoopTurn tid wakeup w asks (asks', w')) {i : ℕ} (hi : i ≠ tid) :
    w'.eventsOf i = w.eventsOf i := by
  cases h with
  | idle => rfl
  | begins => rfl
  | aborts _ => rfl
  | beginsEmpty _ => exact eventsOf_recorded_of_ne hi w _
  | goesOn _ _ => exact eventsOf_judge_of_ne hi _ _ _
  | completes _ => exact (eventsOf_recorded_of_ne hi _ _).trans (eventsOf_judge_of_ne hi _ _ _)

lemma keyed (h : LoopTurn tid wakeup w asks (asks', w')) (hkeyed : w.state.registry.Keyed) :
    w'.state.registry.Keyed := by
  cases h with
  | idle => exact hkeyed
  | begins => exact hkeyed
  | aborts _ => exact hkeyed
  | beginsEmpty _ => exact hkeyed
  | goesOn _ _ => exact keyed_judge hkeyed
  | completes _ => exact keyed_judge hkeyed

/-- Nodes are asked under the names that they are registered under. -/
lemma normal (h : LoopTurn tid wakeup w asks (asks', w')) (hkeyed : w.state.registry.Keyed)
    (hnormal : NormalNames asks) : NormalNames asks' := by
  cases h with
  | idle => exact hnormal
  | aborts _ => exact normalNames_none
  | beginsEmpty _ => exact normalNames_none
  | completes _ => exact normalNames_none
  | begins =>
    rintro entries hentries e he
    obtain rfl := Option.mem_some_iff.1 hentries
    exact (hkeyed.get?_nodeName (Dict.mem_entries_iff.1 he)).1
  | goesOn rest _ =>
    rintro entries hentries e he
    obtain rfl := Option.mem_some_iff.1 hentries
    exact hnormal _ rfl e (List.mem_cons_of_mem _ he)

/-- A verdict on a node that is asked under its own name. -/
lemma healthOf_judge_finds (hfinds : wakeup.Finds node v) {nodeName : String}
    {registration : NodeRegistration} {healthy : Bool} (hnormal : normalize nodeName = nodeName)
    (hverdict : probeVerdict (wakeup.probe (.inr ⟨nodeName, registration⟩)) = .ok healthy) :
    (judge tid nodeName registration healthy w).state.registry.healthOf node =
        w.state.registry.healthOf node ∨
      (judge tid nodeName registration healthy w).state.registry.healthOf node =
        (w.state.registry.healthOf node).map fun _ => v := by
  rw [healthOf_judge hnormal]
  split
  · rename_i hown
    right
    rw [hown.2] at hfinds
    rw [Except.ok.inj (hverdict.symm.trans (hfinds registration))]
  · exact .inl rfl

/-- A turn leaves the health of a node alone, or sets it to what the endpoint of the node
answers. -/
lemma healthOf (h : LoopTurn tid wakeup w asks (asks', w'))
    (hnormal : NormalNames asks) (hfinds : wakeup.Finds node v) :
    w'.state.registry.healthOf node = w.state.registry.healthOf node ∨
      w'.state.registry.healthOf node = (w.state.registry.healthOf node).map fun _ => v := by
  cases h with
  | idle => exact .inl rfl
  | begins => exact .inl rfl
  | aborts _ => exact .inl rfl
  | beginsEmpty _ => exact .inl rfl
  | goesOn rest hverdict =>
    exact healthOf_judge_finds hfinds (hnormal _ rfl _ List.mem_cons_self) hverdict
  | completes hverdict =>
    exact healthOf_judge_finds hfinds (hnormal _ rfl _ List.mem_cons_self) hverdict

/-- A turn completes at most one round, and with it is in no round. -/
lemma completedRounds_cases (h : LoopTurn tid wakeup w asks (asks', w')) :
    completedRounds (w'.eventsOf tid) = completedRounds (w.eventsOf tid) ∨
      completedRounds (w'.eventsOf tid) = completedRounds (w.eventsOf tid) + 1 ∧ asks' = none := by
  cases h with
  | idle => exact .inl rfl
  | begins => exact .inl rfl
  | aborts _ => exact .inl rfl
  | beginsEmpty _ => exact .inr ⟨completedRounds_recorded w tid, rfl⟩
  | goesOn _ _ => exact .inl (completedRounds_judge _ _ _)
  | completes _ =>
    refine .inr ⟨?_, rfl⟩
    rw [completedRounds_recorded, completedRounds_judge]

/-- A round that still has to ask a node, of which its copy does not say what the endpoint says. -/
def WillFind (node : String) (v : Bool) (asks : ToAsk) : Prop :=
  asks = none ∨ ∃ entries r, asks = some entries ∧ (node, r) ∈ entries ∧ r.healthy ≠ v

/-- A task that is in no round, or whose round will find the node as it is: a turn sets the health
of the node, or completes no round. -/
lemma willFind (h : LoopTurn tid wakeup w asks (asks', w')) (hnormal : NormalNames asks)
    (hfinds : wakeup.Finds node v) {u : Bool} (hhealth : w.state.registry.healthOf node = some u)
    (hu : u ≠ v) (hwill : WillFind node v asks) :
    w'.state.registry.healthOf node = some v ∨
      completedRounds (w'.eventsOf tid) = completedRounds (w.eventsOf tid) ∧
        WillFind node v asks' := by
  obtain ⟨r₀, hget, hr₀⟩ := Option.map_eq_some_iff.1 hhealth
  have hmem := Dict.mem_entries_iff.2 hget
  -- the verdict on the node differs from the copy
  have hjudge : ∀ (r : NodeRegistration) healthy, normalize node = node → r.healthy ≠ v →
      probeVerdict (wakeup.probe (.inr ⟨node, r⟩)) = .ok healthy →
      (judge tid node r healthy w).state.registry.healthOf node = some v := by
    intro r healthy hnode hr hverdict
    obtain rfl := Except.ok.inj (hverdict.symm.trans (hfinds r))
    rw [healthOf_judge hnode, if_pos ⟨Ne.symm hr, rfl⟩, hhealth]
    rfl
  cases h with
  | idle => exact .inr ⟨rfl, hwill⟩
  | aborts _ => exact .inr ⟨rfl, .inl rfl⟩
  | begins =>
    refine .inr ⟨rfl, .inr ⟨_, r₀, rfl, hmem, ?_⟩⟩
    rw [hr₀]
    exact hu
  | beginsEmpty hempty =>
    rw [hempty] at hmem
    cases hmem
  | goesOn rest hverdict =>
    rcases hwill with hnone | ⟨entries, r, hentries, hr, hne⟩
    · cases hnone
    obtain rfl := Option.some.inj hentries
    rcases List.mem_cons.1 hr with heq | hrest
    · cases heq
      exact .inl (hjudge _ _ (hnormal _ rfl _ List.mem_cons_self) hne hverdict)
    · exact .inr ⟨completedRounds_judge _ _ _, .inr ⟨rest, r, rfl, hrest, hne⟩⟩
  | completes hverdict =>
    rcases hwill with hnone | ⟨entries, r, hentries, hr, hne⟩
    · cases hnone
    obtain rfl := Option.some.inj hentries
    cases List.mem_singleton.1 hr
    exact .inl (hjudge _ _ (hnormal _ rfl _ List.mem_cons_self) hne hverdict)

end LoopTurn

/-! ### Runs -/

namespace HealthMonitor

variable {m : HealthMonitor Dump} {move : LifecycleMove Dump} {node : String} {v : Bool} {i : ℕ}

/-- A step is a turn of a task, a change by others, or it leaves the world alone. -/
lemma step_cases (m : HealthMonitor Dump) (move : LifecycleMove Dump) :
    (∃ i wakeup t, move = .turn i wakeup ∧ m.loops[i]? = some t ∧ m.step move = { m with
      world := (t.turn m.stopEvent i wakeup m.world).2,
      loops := m.loops.set i (t.turn m.stopEvent i wakeup m.world).1 }) ∨
    (∃ f, move = .environ f ∧ m.step move = { m with world := m.world.put (f m.world.state) }) ∨
    (m.step move).world = m.world ∧
      ((m.step move).loops = m.loops ∨ (m.step move).loops = m.loops ++ [.created]) := by
  have hgiven : ∀ outcome, (m.given outcome).world = m.world ∧
      (m.given outcome).loops = m.loops := by
    intro outcome
    rcases outcome with exc | ⟨⟩
    · exact ⟨rfl, rfl⟩
    · exact ⟨rfl, rfl⟩
  cases move with
  | start =>
    refine .inr (.inr ?_)
    rw [step, start]
    split
    · exact ⟨rfl, .inl rfl⟩
    · exact ⟨rfl, .inr rfl⟩
  | stop =>
    refine .inr (.inr ?_)
    rw [step]
    rcases m.stop_cases with ⟨outcome, -, heq⟩ | ⟨i, -, -, heq⟩
    · rw [heq]
      exact ⟨(hgiven outcome).1, .inl (hgiven outcome).2⟩
    · rw [heq]
      exact ⟨rfl, .inl rfl⟩
  | resumeStop j =>
    refine .inr (.inr ?_)
    rw [step]
    rcases m.resumeStop_cases j with ⟨i, outcome, -, -, heq⟩ | heq
    · rw [heq]
      exact ⟨(hgiven outcome).1, .inl (hgiven outcome).2⟩
    · rw [heq]
      exact ⟨rfl, .inl rfl⟩
  | turn i wakeup =>
    rcases hget : m.loops[i]? with _ | t
    · refine .inr (.inr ?_)
      simp only [step, turn, hget]
      exact ⟨trivial, .inl trivial⟩
    · refine .inl ⟨i, wakeup, t, rfl, hget, ?_⟩
      simp only [step, turn, hget]
  | environ f => exact .inr (.inl ⟨f, rfl, rfl⟩)

/-- What every task of a reachable monitor still has to ask is known. -/
structure AllAsk (m : HealthMonitor Dump) : Prop where
  keyed : m.world.state.registry.Keyed
  tasks : ∀ (i : ℕ) t, m.loops[i]? = some t → ∃ asks, t.Asks asks ∧ NormalNames asks

/-- The registry of a run stays keyed when the others keep it so. -/
lemma AllAsk.step (h : m.AllAsk)
    (henv : ∀ f, move = .environ f → ∀ s, s.registry.Keyed → (f s).registry.Keyed) :
    (m.step move).AllAsk := by
  rcases m.step_cases move with ⟨i, wakeup, t, rfl, hget, heq⟩ | ⟨f, rfl, heq⟩ | ⟨hworld, hloops⟩
  · obtain ⟨asks, hasks, hnormal⟩ := h.tasks i t hget
    obtain ⟨asks', hasks', hturn⟩ := hasks.turnsTo m.stopEvent i wakeup m.world
    rw [heq]
    refine ⟨hturn.keyed h.keyed, fun j t' hget' => ?_⟩
    by_cases hij : i = j
    · subst hij
      rw [List.getElem?_set_self (List.getElem?_eq_some_iff.1 hget).1] at hget'
      obtain rfl := Option.some.inj hget'
      exact ⟨asks', hasks', hturn.normal h.keyed hnormal⟩
    · rw [List.getElem?_set_ne hij] at hget'
      exact h.tasks j t' hget'
  · rw [heq]
    exact ⟨henv f rfl _ h.keyed, h.tasks⟩
  · refine ⟨?_, fun j t' hget' => ?_⟩
    · rw [hworld]
      exact h.keyed
    rcases hloops with hsame | hnew
    · rw [hsame] at hget'
      exact h.tasks j t' hget'
    · rw [hnew] at hget'
      rcases List.mem_append.1 (List.mem_of_getElem? hget') with hmem | hmem
      · obtain ⟨j', hj'⟩ := List.mem_iff_getElem?.1 hmem
        exact h.tasks j' t' hj'
      · obtain rfl := List.mem_singleton.1 hmem
        exact ⟨none, LoopTask.asks_created, normalNames_none⟩

/-- The rounds that a task has completed. -/
def roundsOf (m : HealthMonitor Dump) (i : ℕ) : ℕ := completedRounds (m.world.eventsOf i)

/-- The rounds that a task has begun and not completed. -/
def unfinishedRounds (m : HealthMonitor Dump) (i : ℕ) : ℕ :=
  match m.loops[i]? with
  | some (.probing _ _) => 1
  | _ => 0

/-- The task is within its limit of completed rounds: it is below it, or it is in no round, or its
round will find the node as it is. -/
def Within (limit i : ℕ) (node : String) (v : Bool) (m : HealthMonitor Dump) : Prop :=
  m.roundsOf i < limit ∨
    m.roundsOf i ≤ limit ∧ ∀ t, m.loops[i]? = some t →
      ∃ asks, t.Asks asks ∧ NormalNames asks ∧ LoopTurn.WillFind node v asks

/-- The node is as its endpoint says, or the task is within its limit. -/
def Settles (limit i : ℕ) (node : String) (v : Bool) (m : HealthMonitor Dump) : Prop :=
  m.world.state.registry.healthOf node = some v ∨
    m.world.state.registry.healthOf node = some (!v) ∧ m.Within limit i node v

/-- The task itself has a turn. -/
lemma Within.turn {limit : ℕ} {t : LoopTask Dump} {wakeup : Wakeup Dump}
    (h : m.Within limit i node v) (hask : m.AllAsk) (hget : m.loops[i]? = some t)
    (hfinds : wakeup.Finds node v) (hhealth : m.world.state.registry.healthOf node = some (!v)) :
    (m.step (.turn i wakeup)).world.state.registry.healthOf node = some v ∨
      (m.step (.turn i wakeup)).Within limit i node v := by
  have hlt := (List.getElem?_eq_some_iff.1 hget).1
  have heq : m.step (.turn i wakeup) = { m with
      world := (t.turn m.stopEvent i wakeup m.world).2,
      loops := m.loops.set i (t.turn m.stopEvent i wakeup m.world).1 } := by
    simp only [HealthMonitor.step, HealthMonitor.turn, hget]
  rw [heq, Within, roundsOf]
  simp only [List.getElem?_set_self hlt, Option.some.injEq, forall_eq']
  rcases h with hbelow | ⟨hle, htask⟩
  · right
    obtain ⟨asks, hasks, hnormal⟩ := hask.tasks i t hget
    obtain ⟨asks', hasks', hturn⟩ := hasks.turnsTo m.stopEvent i wakeup m.world
    rw [roundsOf] at hbelow
    rcases hturn.completedRounds_cases with hsame | ⟨hone, rfl⟩
    · left
      rw [hsame]
      exact hbelow
    · right
      rw [hone]
      exact ⟨hbelow, none, hasks', normalNames_none, .inl rfl⟩
  · obtain ⟨asks, hasks, hnormal, hwill⟩ := htask t hget
    obtain ⟨asks', hasks', hturn⟩ := hasks.turnsTo m.stopEvent i wakeup m.world
    rcases hturn.willFind hnormal hfinds hhealth (by cases v <;> decide) hwill with
      hset | ⟨hsame, hwill'⟩
    · exact .inl hset
    · refine .inr (.inr ⟨?_, asks', hasks', hturn.normal hask.keyed hnormal, hwill'⟩)
      rw [hsame]
      exact hle

/-- Another task has a turn. -/
lemma Within.turn_of_ne {limit j : ℕ} (h : m.Within limit i node v) (hask : m.AllAsk)
    (hij : j ≠ i) (wakeup : Wakeup Dump) :
    (m.step (.turn j wakeup)).Within limit i node v := by
  rw [HealthMonitor.step, HealthMonitor.turn]
  split
  swap
  · exact h
  rename_i t hget
  obtain ⟨asks, hasks, -⟩ := hask.tasks j t hget
  obtain ⟨asks', -, hturn⟩ := hasks.turnsTo m.stopEvent j wakeup m.world
  rw [Within, roundsOf]
  simp only [List.getElem?_set_ne hij]
  rw [hturn.eventsOf_of_ne (Ne.symm hij)]
  exact h

lemma healthOf_turn (hask : m.AllAsk) (j : ℕ) {wakeup : Wakeup Dump}
    (hfinds : wakeup.Finds node v) :
    (m.step (.turn j wakeup)).world.state.registry.healthOf node =
        m.world.state.registry.healthOf node ∨
      (m.step (.turn j wakeup)).world.state.registry.healthOf node =
        (m.world.state.registry.healthOf node).map fun _ => v := by
  rw [HealthMonitor.step, HealthMonitor.turn]
  split
  swap
  · exact .inl rfl
  rename_i t hget
  obtain ⟨asks, hasks, hnormal⟩ := hask.tasks j t hget
  obtain ⟨asks', -, hturn⟩ := hasks.turnsTo m.stopEvent j wakeup m.world
  exact hturn.healthOf hnormal hfinds

lemma Settles.step {limit : ℕ} (h : m.Settles limit i node v) (hask : m.AllAsk)
    (hfinds : ∀ j wakeup, move = .turn j wakeup → wakeup.Finds node v)
    (hsteady : ∀ f, move = .environ f → ∀ s : GateState Dump,
      (f s).registry.healthOf node = s.registry.healthOf node) :
    (m.step move).Settles limit i node v := by
  rcases m.step_cases move with ⟨j, wakeup, t, rfl, hget, -⟩ | ⟨f, rfl, heq⟩ | ⟨hworld, hloops⟩
  · have hfind := hfinds j wakeup rfl
    rcases h with hhealth | ⟨hhealth, hwithin⟩
    · left
      rcases healthOf_turn hask j hfind with hsame | hset
      · exact hsame.trans hhealth
      · rw [hset, hhealth]
        rfl
    rcases healthOf_turn hask j hfind with hsame | hset
    swap
    · left
      rw [hset, hhealth]
      rfl
    have hwithin' : (m.step (.turn j wakeup)).world.state.registry.healthOf node = some v ∨
        (m.step (.turn j wakeup)).Within limit i node v := by
      by_cases hij : j = i
      · subst hij
        exact hwithin.turn hask hget hfind hhealth
      · exact .inr (hwithin.turn_of_ne hask hij wakeup)
    exact hwithin'.imp_right fun hwithin' => ⟨hsame.trans hhealth, hwithin'⟩
  · rw [Settles, Within, roundsOf, heq]
    have hsame : ((m.world.put (f m.world.state)).state.registry.healthOf node) =
        m.world.state.registry.healthOf node := hsteady f rfl m.world.state
    rw [hsame]
    exact h
  · rw [Settles, Within, roundsOf, hworld]
    refine h.imp_right fun ⟨hhealth, hwithin⟩ => ⟨hhealth, hwithin.imp_right fun ⟨hle, htask⟩ =>
      ⟨hle, fun t hget => ?_⟩⟩
    rcases hloops with hsame | hnew
    · rw [hsame] at hget
      exact htask t hget
    · rw [hnew] at hget
      by_cases hlt : i < m.loops.length
      · rw [List.getElem?_append_left hlt] at hget
        exact htask t hget
      · rw [List.getElem?_append_right (not_lt.1 hlt)] at hget
        obtain rfl := List.mem_singleton.1 (List.mem_of_getElem? hget)
        exact ⟨none, LoopTask.asks_created, normalNames_none, .inl rfl⟩

lemma AllAsk.run (h : m.AllAsk) {moves : List (LifecycleMove Dump)}
    (henv : ∀ f, .environ f ∈ moves → ∀ s : GateState Dump, s.registry.Keyed →
      (f s).registry.Keyed) : (m.run moves).AllAsk := by
  induction moves generalizing m with
  | nil => exact h
  | cons move moves ih =>
    refine ih (h.step ?_) fun f hf => henv f (List.mem_cons_of_mem _ hf)
    rintro f rfl
    exact henv f List.mem_cons_self

lemma Settles.run {limit : ℕ} (h : m.Settles limit i node v) (hask : m.AllAsk)
    {moves : List (LifecycleMove Dump)}
    (henv : ∀ f, .environ f ∈ moves → ∀ s : GateState Dump, s.registry.Keyed →
      (f s).registry.Keyed)
    (hfinds : ∀ j wakeup, .turn j wakeup ∈ moves → wakeup.Finds node v)
    (hsteady : ∀ f, .environ f ∈ moves → ∀ s : GateState Dump,
      (f s).registry.healthOf node = s.registry.healthOf node) :
    (m.run moves).Settles limit i node v := by
  induction moves generalizing m with
  | nil => exact h
  | cons move moves ih =>
    have hask' : (m.step move).AllAsk := hask.step fun f hf => by
      subst hf
      exact henv f List.mem_cons_self
    refine ih (h.step hask ?_ ?_) hask' (fun f hf => henv f (List.mem_cons_of_mem _ hf))
      (fun j wakeup hj => hfinds j wakeup (List.mem_cons_of_mem _ hj))
      fun f hf => hsteady f (List.mem_cons_of_mem _ hf)
    · rintro j wakeup rfl
      exact hfinds j wakeup List.mem_cons_self
    · rintro f rfl
      exact hsteady f List.mem_cons_self

/-- The health of a node comes to be what its endpoint answers.  Let a run go on from any state in
which the node is registered.  While every probe of the node finds `v`, and nobody but the rounds of
the monitor changes its health, then as soon as a loop has completed a round that it has not begun
before, the health of the node is `v`, and it stays so: whatever the other probes are answered,
which rounds raise or are cancelled, and whatever else uses the registry. -/
theorem health_converges {s : GateState Dump} {pre suf : List (LifecycleMove Dump)}
    (hkeyed : s.registry.Keyed)
    (henv : ∀ f, .environ f ∈ pre ++ suf → ∀ s : GateState Dump, s.registry.Keyed →
      (f s).registry.Keyed)
    (hsteady : ∀ f, .environ f ∈ suf → ∀ s : GateState Dump,
      (f s).registry.healthOf node = s.registry.healthOf node)
    (hfinds : ∀ j wakeup, .turn j wakeup ∈ suf → wakeup.Finds node v)
    (hregistered : ((new s).run pre).world.state.registry.healthOf node ≠ none)
    (hround : ((new s).run pre).roundsOf i + ((new s).run pre).unfinishedRounds i <
      ((new s).run (pre ++ suf)).roundsOf i) :
    ((new s).run (pre ++ suf)).world.state.registry.healthOf node = some v := by
  have hnew : (new s).AllAsk := ⟨hkeyed, fun j t hget => by cases hget⟩
  have hask : ((new s).run pre).AllAsk :=
    hnew.run fun f hf => henv f (List.mem_append_left _ hf)
  have hstart : ((new s).run pre).Settles
      (((new s).run pre).roundsOf i + ((new s).run pre).unfinishedRounds i) i node v := by
    obtain ⟨u, hu⟩ := Option.ne_none_iff_exists'.1 hregistered
    by_cases huv : u = v
    · exact .inl (hu.trans (by rw [huv]))
    refine .inr ⟨?_, ?_⟩
    · rw [hu]
      cases u <;> cases v <;> first | rfl | exact absurd rfl huv
    rcases hget : ((new s).run pre).loops[i]? with _ | t
    · exact .inr ⟨Nat.le_add_right _ _, fun t ht => by cases hget.symm.trans ht⟩
    cases t with
    | probing q k =>
      left
      rw [unfinishedRounds, hget]
      exact Nat.lt_succ_self _
    | created =>
      refine .inr ⟨Nat.le_add_right _ _, fun t ht => ?_⟩
      obtain rfl := Option.some.inj (hget.symm.trans ht)
      exact ⟨none, LoopTask.asks_created, normalNames_none, .inl rfl⟩
    | sleeping =>
      refine .inr ⟨Nat.le_add_right _ _, fun t ht => ?_⟩
      obtain rfl := Option.some.inj (hget.symm.trans ht)
      exact ⟨none, LoopTask.asks_sleeping, normalNames_none, .inl rfl⟩
    | ended outcome =>
      refine .inr ⟨Nat.le_add_right _ _, fun t ht => ?_⟩
      obtain rfl := Option.some.inj (hget.symm.trans ht)
      exact ⟨none, LoopTask.asks_ended outcome, normalNames_none, .inl rfl⟩
  have hend := hstart.run hask (fun f hf => henv f (List.mem_append_right _ hf)) hfinds hsteady
  rw [← run_append] at hend
  refine hend.resolve_right fun ⟨_, hwithin⟩ => ?_
  rcases hwithin with hlt | ⟨hle, -⟩
  · omega
  · omega

end HealthMonitor

/-! ### A worker that comes back -/

/-- The dispatcher marks the worker. -/
def loseWorker (s : GateState TransportPacket) : GateState TransportPacket :=
  { s with registry := (s.registry.markUnhealthy "worker").2 }

/-- The monitor is started, and the worker is lost before the first round. -/
def lostWorker : List (LifecycleMove TransportPacket) := [.start, .environ loseWorker]

/-- The first round. -/
def firstRound : List (LifecycleMove TransportPacket) := [.turn 0 allHealthy, .turn 0 allHealthy]

lemma keyed_watchedState : watchedState.registry.Keyed :=
  NodeRegistry.keyed_run NodeRegistry.keyed_empty _

/-- The first round finds the worker healthy. -/
theorem health_converges_lostWorker :
    ((HealthMonitor.new watchedState).run lostWorker).world.state.registry.healthOf "worker" =
        some false ∧
      ((HealthMonitor.new watchedState).run
        (lostWorker ++ firstRound)).world.state.registry.healthOf "worker" = some true := by
  refine ⟨by decide +kernel,
    HealthMonitor.health_converges (i := 0) keyed_watchedState ?_ ?_ ?_ ?_ ?_⟩
  · intro f hf s hkeyed
    simp only [lostWorker, firstRound, List.cons_append, List.nil_append, List.mem_cons,
      reduceCtorEq, false_or, or_false, List.not_mem_nil, LifecycleMove.environ.injEq] at hf
    subst hf
    refine (NodeRegistry.changed_updateNode _ "worker" fun r r' hr => ?_).keyed hkeyed
    cases hr
    exact ⟨rfl, rfl, rfl⟩
  · intro f hf
    simp [firstRound] at hf
  · intro j wakeup hj r
    simp only [firstRound, List.mem_cons, LifecycleMove.turn.injEq, List.not_mem_nil,
      or_false, or_self] at hj
    rw [hj.2]
    rfl
  · decide +kernel
  · decide +kernel

-- A round that has been begun before the worker is lost leaves it lost.
example : ((HealthMonitor.new watchedState).run [.start, .turn 0 allHealthy, .environ loseWorker,
    .turn 0 allHealthy]).world.state.registry.healthOf "worker" = some false := by decide +kernel

end ConstellationGate
