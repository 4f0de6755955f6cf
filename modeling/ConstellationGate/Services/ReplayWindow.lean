import ConstellationGate.Lib.Window
import ConstellationGate.Routing.RegistryRuns
import ConstellationGate.Services.CallOpening

/-!
# The replay window

The replay guard keeps the window that it declares, over every interleaving of execute calls.

`ReplayGuard.seen` remembers the acceptances of the window (`Dict.Remembers`), so the guard
accepts an id exactly when the window holds no acceptance of it.  An execute call asks the guard
at most once, before it awaits anything (`segment_execute`), and works only when the guard has
accepted its packet; nothing else touches the guard.  `replay_window` puts the two together.
-/

namespace ConstellationGate

variable {Dump : Type}

/-! ### The guard -/

namespace ReplayGuard

variable (guard : ReplayGuard)

@[simp] lemma windowSeconds_checkAndRecord (packetId : String) (now : ℚ) :
    (guard.checkAndRecord packetId now).2.windowSeconds = guard.windowSeconds := by
  unfold checkAndRecord
  simp only
  split
  · rfl
  · split <;> rfl

/-- An id is accepted when it has not stayed, and is then stored. -/
lemma checkAndRecord_cases (packetId : String) (now : ℚ) :
    (guard.seen.recent guard.windowSeconds now).contains packetId = true ∧
        (guard.checkAndRecord packetId now).1 ≠ .ok () ∧
        (guard.checkAndRecord packetId now).2.seen = guard.seen.recent guard.windowSeconds now ∨
      (guard.seen.recent guard.windowSeconds now).contains packetId = false ∧
        (guard.checkAndRecord packetId now).1 = .ok () ∧
        (guard.checkAndRecord packetId now).2.seen =
          (guard.seen.recent guard.windowSeconds now).set packetId now := by
  have hseen : (guard.expire now).seen = guard.seen.recent guard.windowSeconds now := rfl
  rw [checkAndRecord]
  simp only [hseen]
  rcases hget : (guard.seen.recent guard.windowSeconds now).get? packetId with _ | seenAt
  · refine Or.inr ⟨?_, rfl, rfl⟩
    rw [Dict.contains, hget]
    rfl
  · -- an entry that has stayed is in the window
    have hle : now - seenAt ≤ (guard.expire now).windowSeconds :=
      sub_le_comm.1 (Dict.get?_recent.1 hget).2
    simp only [if_pos hle]
    exact Or.inl ⟨Dict.contains_iff.2 ⟨seenAt, hget⟩, by simp, hseen⟩

variable {guard} {History : String → ℚ → Prop} {now : ℚ}

/-- An id is accepted exactly when it was not accepted within the window. -/
lemma checkAndRecord_ok_iff (h : guard.seen.Remembers guard.windowSeconds History now)
    (packetId : String) :
    (guard.checkAndRecord packetId now).1 = .ok () ↔
      ∀ t ∈ Set.Icc (now - guard.windowSeconds) now, ¬ History packetId t := by
  have hiff := h.contains_recent packetId
  rcases guard.checkAndRecord_cases packetId now with ⟨hmem, hne, -⟩ | ⟨hmem, hok, -⟩
  · obtain ⟨t, ht, hhistory⟩ := hiff.1 hmem
    exact ⟨fun hok => absurd hok hne, fun hall => absurd hhistory (hall t ht)⟩
  · refine ⟨fun _ t ht hhistory => ?_, fun _ => hok⟩
    rw [hiff.2 ⟨t, ht, hhistory⟩] at hmem
    cases hmem

/-- The guard goes on remembering the acceptances of the window. -/
lemma remembers_checkAndRecord (h : guard.seen.Remembers guard.windowSeconds History now)
    (packetId : String) :
    (guard.checkAndRecord packetId now).2.seen.Remembers guard.windowSeconds
      (fun id t => History id t ∨
        (guard.checkAndRecord packetId now).1 = .ok () ∧ id = packetId ∧ t = now) now := by
  rcases guard.checkAndRecord_cases packetId now with ⟨-, hne, hseen⟩ | ⟨-, hok, hseen⟩
  · rw [hseen]
    exact h.recent.congr fun id t => by simp [hne]
  · rw [hseen]
    exact (h.recent.set packetId).congr fun id t => by simp [hok]

/-- After an acceptance the guard holds the ids that were accepted within the window. -/
lemma contains_checkAndRecord (h : guard.seen.Remembers guard.windowSeconds History now)
    {packetId : String} (hok : (guard.checkAndRecord packetId now).1 = .ok ()) (id : String) :
    (guard.checkAndRecord packetId now).2.seen.contains id = true ↔
      ∃ t ∈ Set.Icc (now - guard.windowSeconds) now,
        History id t ∨ id = packetId ∧ t = now := by
  rcases guard.checkAndRecord_cases packetId now with ⟨-, hne, -⟩ | ⟨-, -, hseen⟩
  · exact absurd hok hne
  have hnow : now ∈ Set.Icc (now - (guard.windowSeconds : ℚ)) now :=
    ⟨sub_le_self now (Nat.cast_nonneg _), le_rfl⟩
  rw [hseen, Dict.contains_set, Bool.or_eq_true, decide_eq_true_eq, h.contains_recent]
  constructor
  · rintro (rfl | ⟨t, ht, hhistory⟩)
    · exact ⟨now, hnow, Or.inr ⟨rfl, rfl⟩⟩
    · exact ⟨t, ht, Or.inl hhistory⟩
  · rintro ⟨t, ht, hhistory | ⟨rfl, -⟩⟩
    · exact Or.inr ⟨t, ht, hhistory⟩
    · exact Or.inl rfl

end ReplayGuard

/-! ### What an execute call does to the guard -/

/-- An execute call for the packet that starts in `s` asks the replay guard: it is admitted, and its
lookup finds nothing. -/
def asksGuard (cfg : GateConfig Dump) (packet : TransportPacket) (s : GateState Dump) : Bool :=
  match passAdmission cfg packet s with
  | (.error _, _) => false
  | (.ok (), s') =>
    match (lookUp packet s').1 with
    | .ok (_, none) => true
    | _ => false

/-- A call asks the guard when its lookup misses. -/
lemma asksGuard_iff {cfg : GateConfig Dump} {packet : TransportPacket} {s : GateState Dump} :
    asksGuard cfg packet s = true ↔ ∃ now s', Misses cfg packet s now s' := by
  rw [asksGuard]
  constructor
  · intro h
    rcases hadmission : passAdmission cfg packet s with ⟨e | u, s₁⟩
    · rw [hadmission] at h
      cases h
    · rw [hadmission] at h
      rcases hlookUp : lookUp packet s₁ with ⟨e | ⟨now, _ | dump⟩, s₂⟩
      · simp [hlookUp] at h
      · exact ⟨now, s₂, s₁, hadmission, hlookUp⟩
      · simp [hlookUp] at h
  · rintro ⟨now, s', s₁, hadmission, hlookUp⟩
    simp [hadmission, hlookUp]

lemma Misses.asks {cfg : GateConfig Dump} {packet : TransportPacket} {now : ℚ}
    {s s' : GateState Dump} (h : Misses cfg packet s now s') : asksGuard cfg packet s = true :=
  asksGuard_iff.2 ⟨now, s', h⟩

/-- What the guard answers in `s`, and what becomes of it. -/
def guardAnswer (packet : TransportPacket) (s : GateState Dump) :
    Except PyError Unit × ReplayGuard :=
  s.replayGuard.checkAndRecord packet.header.packetId s.wall.now

/-- An execute call for the packet that starts in `s` asks the guard, and is let pass. -/
def PassesGuard (cfg : GateConfig Dump) (packet : TransportPacket) (s : GateState Dump) : Prop :=
  asksGuard cfg packet s = true ∧ (guardAnswer packet s).1 = .ok ()

instance (cfg : GateConfig Dump) (packet : TransportPacket) (s : GateState Dump) :
    Decidable (PassesGuard cfg packet s) := by
  unfold PassesGuard
  infer_instance

/-- The guard after the start of an execute call. -/
def guardAfter (cfg : GateConfig Dump) (validated : Except PyError TransportPacket)
    (s : GateState Dump) : ReplayGuard :=
  match validated with
  | .error _ => s.replayGuard
  | .ok packet => if asksGuard cfg packet s then (guardAnswer packet s).2 else s.replayGuard

lemma guardAfter_of_asks {cfg : GateConfig Dump} {packet : TransportPacket} {s : GateState Dump}
    (h : asksGuard cfg packet s = true) :
    guardAfter cfg (.ok packet) s = (guardAnswer packet s).2 := if_pos h

lemma guardAfter_of_not_asks {cfg : GateConfig Dump} {packet : TransportPacket}
    {s : GateState Dump} (h : ¬ asksGuard cfg packet s = true) :
    guardAfter cfg (.ok packet) s = s.replayGuard := if_neg h

/-- The events of an execute call that starts in `s`: it attempts its packet only when the guard has
let it pass. -/
def AttemptsPassed (cfg : GateConfig Dump) (validated : Except PyError TransportPacket)
    (s : GateState Dump) (e : GateEvent Dump) : Prop :=
  ∀ p, e = .attempted p → validated = .ok p ∧ PassesGuard cfg p s

lemma attemptsPassed_returned (cfg : GateConfig Dump) (validated : Except PyError TransportPacket)
    (s : GateState Dump) (outcome : Except PyError TransportPacket) :
    AttemptsPassed cfg validated s (.returned outcome) :=
  fun _ hp => by cases hp

lemma within_closing {E : GateEvent Dump → Prop} {q : Co (gate Dump) TransportPacket}
    {s : GateState Dump} (hq : q.Within E Steady s) (hE : ∀ outcome, E (.returned outcome)) :
    (closing q).Within E Steady s := by
  refine Co.within_handle (Co.within_handle hq fun outcome s => ?_) fun outcome s => ?_
  · exact Co.within_bind (Co.within_call (.of_eq rfl rfl rfl)) fun _ s => Co.within_done _ s
  · exact Co.within_bind ((Co.within_log (S := gate Dump) _ s).2 (hE outcome)) fun _ s =>
      Co.within_done _ s

/-- The start of an execute call: what it does to the guard and to the wall clock, and what it
records then and later. -/
structure Opening (cfg : GateConfig Dump) (validated : Except PyError TransportPacket) (tid : ℕ)
    (w : World (gate Dump)) (r : Status (gate Dump) TransportPacket × World (gate Dump)) :
    Prop where
  status : r.1.Within (AttemptsPassed cfg validated w.state) Steady
  log : ∃ es : List (GateEvent Dump), r.2.log = w.log ++ es.map (Prod.mk tid) ∧
    ∀ e ∈ es, AttemptsPassed cfg validated w.state e
  replayGuard : r.2.state.replayGuard = guardAfter cfg validated w.state
  wall : w.state.wall.Later r.2.state.wall

section Opening

variable {cfg : GateConfig Dump} {packet : TransportPacket} {tid : ℕ} {w : World (gate Dump)}

lemma Opening.of_segment {validated : Except PyError TransportPacket}
    {q : Co (gate Dump) TransportPacket} {w' : World (gate Dump)}
    (hq : q.Within (AttemptsPassed cfg validated w.state) Steady w'.state)
    (hlog : ∃ es : List (GateEvent Dump), w'.log = w.log ++ es.map (Prod.mk tid) ∧
      ∀ e ∈ es, AttemptsPassed cfg validated w.state e)
    (hguard : w'.state.replayGuard = guardAfter cfg validated w.state)
    (hwall : w.state.wall.Later w'.state.wall) :
    Opening cfg validated tid w (q.segment tid w') := by
  have hseg := Co.segment_within hq tid
  have hsteady : Steady w'.state (q.segment tid w').2.state := .of_reflTransGen hseg.state
  obtain ⟨es, hes, hevents⟩ := hlog
  obtain ⟨es', hes', hevents'⟩ := hseg.log
  refine ⟨hseg.status, ⟨es ++ es', ?_, ?_⟩, ?_, hwall.trans hsteady.wall⟩
  · rw [hes', hes, List.map_append, List.append_assoc]
  · exact fun e he => (List.mem_append.1 he).elim (hevents e) (hevents' e)
  · rw [hsteady.replayGuard, hguard]

/-- A call that ends in its first segment attempts nothing. -/
lemma Opening.of_finished {validated outcome : Except PyError TransportPacket} {s : GateState Dump}
    {events : List (GateEvent Dump)} (hevents : ∀ e ∈ events, ∀ p, e ≠ .attempted p)
    (hguard : s.replayGuard = guardAfter cfg validated w.state)
    (hwall : w.state.wall.Later s.wall) :
    Opening cfg validated tid w (.finished outcome, worldAfter w tid s events) :=
  ⟨trivial, ⟨events, rfl, fun e he p hp => absurd hp (hevents e he p)⟩, hguard, hwall⟩

/-- Up to its lookup a call leaves the guard and the wall clock. -/
lemma kept_of_lookUp {s s₁ s₂ : GateState Dump} {now : ℚ} {found : Option Dump}
    (hadmitted : passAdmission cfg packet s = (.ok (), s₁))
    (hfound : lookUp packet s₁ = (.ok (now, found), s₂)) :
    s₂.replayGuard = s.replayGuard ∧ s₂.wall = s.wall := by
  have hkept := passAdmission_admission cfg packet s
  rw [hadmitted] at hkept
  have hs₂ : s₂ = (lookUp packet s₁).2 := by rw [hfound]
  rw [hs₂, lookUp]
  exact ⟨hkept.replayGuard, hkept.wall⟩

/-- The guard answers a call whose lookup finds nothing, and is left as the answer says. -/
lemma Misses.answer {s s₂ s₃ : GateState Dump} {now : ℚ} (h : Misses cfg packet s now s₂)
    {r : Except PyError Unit} (hguard : guardReplay packet s₂ = (r, s₃)) :
    guardAnswer packet s = (r, s₃.replayGuard) ∧ s.wall.Later s₃.wall := by
  obtain ⟨s₁, hadmitted, hfound⟩ := h
  obtain ⟨hkept, hwall⟩ := kept_of_lookUp hadmitted hfound
  have hanswer : guardReplay packet s₂ = ((guardAnswer packet s).1,
      { s₂ with replayGuard := (guardAnswer packet s).2, wall := s₂.wall.tick }) := by
    rw [guardAnswer, ← hkept, ← hwall]
    rfl
  rw [hanswer] at hguard
  obtain ⟨rfl, rfl⟩ := Prod.mk.inj hguard
  refine ⟨rfl, ?_⟩
  rw [← hwall]
  exact Clock.later_tick _

/-- So it is after the start of the call. -/
lemma Misses.guardAfter_eq {s s₂ s₃ : GateState Dump} {now : ℚ} (h : Misses cfg packet s now s₂)
    {r : Except PyError Unit} (hguard : guardReplay packet s₂ = (r, s₃)) :
    s₃.replayGuard = guardAfter cfg (.ok packet) s := by
  rw [guardAfter_of_asks h.asks, (h.answer hguard).1]

/-- A call that does not execute its packet leaves the guard as its answer does, if it is asked. -/
lemma opening_of_turnedAway {validated outcome : Except PyError TransportPacket}
    {s : GateState Dump} {events : List (GateEvent Dump)}
    (h : TurnedAway cfg w.state validated s events outcome) :
    Opening cfg validated tid w (.finished outcome, worldAfter w tid s events) := by
  cases h with
  | invalid e => exact .of_finished (by simp) rfl (Clock.Later.refl _)
  | @refused packet e s' hrefused =>
    have hkept := passAdmission_admission cfg packet w.state
    rw [hrefused] at hkept
    refine .of_finished (by simp) ?_ (hkept.wall ▸ Clock.Later.refl _)
    rw [guardAfter_of_not_asks (by simp [asksGuard, hrefused])]
    exact hkept.replayGuard
  | cached hadmitted hfound =>
    obtain ⟨hkept, hwall⟩ := kept_of_lookUp hadmitted hfound
    refine .of_finished (by simp) ?_ (hwall ▸ Clock.Later.refl _)
    rw [guardAfter_of_not_asks (by simp [asksGuard, hadmitted, hfound])]
    exact hkept
  | replayed hmisses hguard =>
    have hafter := hmisses.guardAfter_eq hguard
    exact .of_finished (by simp) hafter (hmisses.answer hguard).2
  | @unstarted packet now e s₂ s₃ s₄ hmisses hguard hdeadline =>
    have hafter := hmisses.guardAfter_eq hguard
    have hs₄ : s₄ = (startDeadline cfg packet s₃).2 := by rw [hdeadline]
    rw [hs₄]
    exact .of_finished (by simp) hafter (hmisses.answer hguard).2

/-- A call that comes to its execution has been let pass, and the guard has recorded its packet. -/
lemma opening_of_begins {now : ℚ} {deadline : Deadline} {s : GateState Dump}
    (h : Begins cfg packet w.state now deadline s) :
    Opening cfg (.ok packet) tid w
      ((executing cfg packet (deadlineWork cfg packet deadline)).segment tid
        (worldAfter w tid s (begunEvents packet now deadline))) := by
  obtain ⟨s₂, s₃, hmisses, hguard, hdeadline⟩ := h
  obtain ⟨hanswer, hwall⟩ := hmisses.answer hguard
  have hafter := hmisses.guardAfter_eq hguard
  have hs : s = (startDeadline cfg packet s₃).2 := by rw [hdeadline]
  have hwork : RecordsWork (AttemptsPassed cfg (.ok packet) w.state) packet := by
    refine ⟨fun p hp => ?_, fun e he p hp => absurd hp (he p)⟩
    obtain rfl := GateEvent.attempted.inj hp
    exact ⟨rfl, hmisses.asks, congrArg Prod.fst hanswer⟩
  refine .of_segment (within_closing (within_settledWork (fun _ _ h => h) cfg hwork deadline _)
    (attemptsPassed_returned cfg (.ok packet) w.state)) ⟨_, rfl, fun e he p hp => ?_⟩ ?_ ?_
  · subst hp
    simp [begunEvents] at he
  · rw [worldAfter_state, hs]
    exact hafter
  · rw [worldAfter_state, hs]
    exact hwall

end Opening

/-- Every execute call opens so. -/
lemma segment_execute (cfg : GateConfig Dump) (validated : Except PyError TransportPacket) (tid : ℕ)
    (w : World (gate Dump)) :
    Opening cfg validated tid w ((execute cfg (dispatch cfg) validated).segment tid w) := by
  have hopens := segment_execute_opens cfg validated tid w
  generalize (execute cfg (dispatch cfg) validated).segment tid w = r at hopens
  cases hopens with
  | turnedAway haway => exact opening_of_turnedAway haway
  | begins hbegins => exact opening_of_begins hbegins

/-! ### Runs -/

/-- One move of a run of execute calls. -/
inductive ServiceMove (Dump : Type)
  /-- A call is started, for a request body of which the ingress validation has made `validated`. -/
  | execute (validated : Except PyError TransportPacket)
  /-- A call gets an answer to what it awaits, or an exception: a failure or a cancellation. -/
  | resume (i : ℕ) (reply : ∀ q : GateRequest, Except PyError q.Reply)
  /-- Something else happens; it does not concern the replay guard. -/
  | environ (f : GateState Dump → GateState Dump)
      (hguard : ∀ s : GateState Dump, (f s).replayGuard = s.replayGuard)
      (hwall : ∀ s : GateState Dump, s.wall.Later (f s).wall)

/-- The move as a move of the pool of calls. -/
def ServiceMove.toMove (cfg : GateConfig Dump) :
    ServiceMove Dump → Move (gate Dump) TransportPacket
  | execute validated => .spawn (ConstellationGate.execute cfg (dispatch cfg) validated)
  | resume i reply => .resume i reply
  | environ f _ _ => .environ f

/-- The pool after a run. -/
def runService (cfg : GateConfig Dump) (s : GateState Dump) (ms : List (ServiceMove Dump)) :
    Pool (gate Dump) TransportPacket :=
  (Pool.init s).run (ms.map (ServiceMove.toMove cfg))

/-- The state after a run. -/
def stateAfter (cfg : GateConfig Dump) (s : GateState Dump) (ms : List (ServiceMove Dump)) :
    GateState Dump := (runService cfg s ms).world.state

lemma runService_concat (cfg : GateConfig Dump) (s : GateState Dump) (ms : List (ServiceMove Dump))
    (m : ServiceMove Dump) : runService cfg s (ms ++ [m]) =
      (runService cfg s ms).step (m.toMove cfg) := by
  simp [runService, Pool.run]

lemma stateAfter_concat (cfg : GateConfig Dump) (s : GateState Dump) (ms : List (ServiceMove Dump))
    (m : ServiceMove Dump) :
    stateAfter cfg s (ms ++ [m]) = ((runService cfg s ms).step (m.toMove cfg)).world.state := by
  rw [stateAfter, runService_concat]

/-- The packet with this id of the call that is task `tid` was accepted at the time `t`. -/
def AcceptedBy (cfg : GateConfig Dump) (s : GateState Dump) (ms : List (ServiceMove Dump))
    (tid : ℕ) (packetId : String) (t : ℚ) : Prop :=
  ∃ pre packet, pre ++ [.execute (.ok packet)] <+: ms ∧ (runService cfg s pre).tasks.length = tid ∧
    packet.header.packetId = packetId ∧ PassesGuard cfg packet (stateAfter cfg s pre) ∧
    (stateAfter cfg s pre).wall.now = t

/-- A packet with this id was accepted at the time `t`. -/
def Accepted (cfg : GateConfig Dump) (s : GateState Dump) (ms : List (ServiceMove Dump))
    (packetId : String) (t : ℚ) : Prop :=
  ∃ tid, AcceptedBy cfg s ms tid packetId t

/-- What one more move adds to the acceptances. -/
lemma accepted_concat {cfg : GateConfig Dump} {s : GateState Dump} {ms : List (ServiceMove Dump)}
    {m : ServiceMove Dump} {packetId : String} {t : ℚ} :
    Accepted cfg s (ms ++ [m]) packetId t ↔
      Accepted cfg s ms packetId t ∨
        ∃ packet, m = .execute (.ok packet) ∧ packet.header.packetId = packetId ∧
          PassesGuard cfg packet (stateAfter cfg s ms) ∧
          (stateAfter cfg s ms).wall.now = t := by
  constructor
  · rintro ⟨tid, pre, packet, hle, hlength, hid, hpass, ht⟩
    rcases List.prefix_concat_iff.1 hle with heq | hle
    · obtain ⟨rfl, hm⟩ := List.append_inj' heq rfl
      exact Or.inr ⟨packet, (List.cons.inj hm).1.symm, hid, hpass, ht⟩
    · exact Or.inl ⟨tid, pre, packet, hle, hlength, hid, hpass, ht⟩
  · rintro (⟨tid, pre, packet, hle, h⟩ | ⟨packet, rfl, h⟩)
    · exact ⟨tid, pre, packet, hle.trans (List.prefix_append ms [m]), h⟩
    · exact ⟨_, ms, packet, List.prefix_rfl, rfl, h⟩

/-- What the start of a call adds to the acceptances. -/
lemma accepted_concat_execute {cfg : GateConfig Dump} {s : GateState Dump}
    {ms : List (ServiceMove Dump)} {packet : TransportPacket} {packetId : String} {t : ℚ} :
    Accepted cfg s (ms ++ [.execute (.ok packet)]) packetId t ↔
      Accepted cfg s ms packetId t ∨
        packet.header.packetId = packetId ∧ PassesGuard cfg packet (stateAfter cfg s ms) ∧
          (stateAfter cfg s ms).wall.now = t := by
  rw [accepted_concat]
  refine or_congr Iff.rfl ⟨?_, fun h => ⟨packet, rfl, h⟩⟩
  rintro ⟨packet', heq, h⟩
  obtain rfl : packet = packet' := by simpa using heq
  exact h

/-- The guard after a run remembers the acceptances of its window, and what the calls will still do
leaves it alone. -/
structure WindowKept (cfg : GateConfig Dump) (s : GateState Dump) (ms : List (ServiceMove Dump)) :
    Prop where
  window : (stateAfter cfg s ms).replayGuard.windowSeconds = s.replayGuard.windowSeconds
  wall : s.wall.Later (stateAfter cfg s ms).wall
  tasks : ∀ t ∈ (runService cfg s ms).tasks, t.Within (fun _ => True) Steady
  remembers : (stateAfter cfg s ms).replayGuard.seen.Remembers s.replayGuard.windowSeconds
    (Accepted cfg s ms) (stateAfter cfg s ms).wall.now

/-- A move that does not concern the guard. -/
lemma WindowKept.concat_of_eq {cfg : GateConfig Dump} {s : GateState Dump}
    {ms : List (ServiceMove Dump)} (h : WindowKept cfg s ms) (hclock : Monotone s.wall.reading)
    {m : ServiceMove Dump} (hm : ∀ validated, m ≠ .execute validated)
    (hguard : (stateAfter cfg s (ms ++ [m])).replayGuard =
      (stateAfter cfg s ms).replayGuard)
    (hwall : (stateAfter cfg s ms).wall.Later
      (stateAfter cfg s (ms ++ [m])).wall)
    (htasks : ∀ t ∈ (runService cfg s (ms ++ [m])).tasks, t.Within (fun _ => True) Steady) :
    WindowKept cfg s (ms ++ [m]) := by
  have hmono : Monotone (stateAfter cfg s ms).wall.reading := h.wall.1 ▸ hclock
  refine ⟨by rw [hguard, h.window], h.wall.trans hwall, htasks, ?_⟩
  rw [hguard]
  refine (h.remembers.later (hwall.now_le hmono)).congr fun id t => ?_
  rw [accepted_concat]
  exact or_iff_left fun ⟨packet, heq, _⟩ => hm _ heq

/-- The guard as the start of a call leaves it. -/
lemma WindowKept.guardAfter_remembers {cfg : GateConfig Dump} {s : GateState Dump}
    {ms : List (ServiceMove Dump)} (h : WindowKept cfg s ms)
    (validated : Except PyError TransportPacket) :
    (guardAfter cfg validated (stateAfter cfg s ms)).windowSeconds =
        s.replayGuard.windowSeconds ∧
      (guardAfter cfg validated (stateAfter cfg s ms)).seen.Remembers
        s.replayGuard.windowSeconds (Accepted cfg s (ms ++ [.execute validated]))
        (stateAfter cfg s ms).wall.now := by
  cases validated with
  | error e =>
    refine ⟨h.window, h.remembers.congr fun id t => ?_⟩
    rw [accepted_concat]
    exact or_iff_left fun ⟨packet, heq, _⟩ => by cases heq
  | ok packet =>
    by_cases hasks : asksGuard cfg packet (stateAfter cfg s ms) = true
    · -- the guard is asked, and records the packet when it lets it pass
      have hrem := h.remembers
      rw [← h.window] at hrem
      have hanswer := ReplayGuard.remembers_checkAndRecord hrem packet.header.packetId
      rw [h.window] at hanswer
      rw [guardAfter_of_asks hasks]
      refine ⟨by rw [guardAnswer, ReplayGuard.windowSeconds_checkAndRecord, h.window], ?_⟩
      refine hanswer.congr fun id t => ?_
      rw [accepted_concat_execute]
      refine or_congr Iff.rfl ⟨?_, ?_⟩
      · rintro ⟨rfl, hpass, rfl⟩
        exact ⟨hpass.2, rfl, rfl⟩
      · rintro ⟨hok, rfl, rfl⟩
        exact ⟨rfl, ⟨hasks, hok⟩, rfl⟩
    · rw [guardAfter_of_not_asks hasks]
      refine ⟨h.window, h.remembers.congr fun id t => ?_⟩
      rw [accepted_concat_execute]
      exact or_iff_left fun ⟨_, hpass, _⟩ => hasks hpass.1

/-- One move: the guard goes on remembering the window. -/
lemma WindowKept.concat {cfg : GateConfig Dump} {s : GateState Dump} {ms : List (ServiceMove Dump)}
    (h : WindowKept cfg s ms) (hclock : Monotone s.wall.reading) (m : ServiceMove Dump) :
    WindowKept cfg s (ms ++ [m]) := by
  cases m with
  | environ f hguard hwall =>
    refine h.concat_of_eq hclock (by simp) ?_ ?_ ?_
    · rw [stateAfter_concat]
      exact hguard _
    · rw [stateAfter_concat]
      exact hwall _
    · rw [runService_concat]
      exact h.tasks
  | resume i reply =>
    obtain ⟨htasks, hstate⟩ := Pool.resume_within h.tasks i reply
    have hsteady : Steady (stateAfter cfg s ms)
        ((runService cfg s ms).step (.resume i reply)).world.state := .of_reflTransGen hstate
    refine h.concat_of_eq hclock (by simp) ?_ ?_ ?_
    · rw [stateAfter_concat]
      exact hsteady.replayGuard
    · rw [stateAfter_concat]
      exact hsteady.wall
    · rw [runService_concat]
      exact htasks
  | execute validated =>
    have hmono : Monotone (stateAfter cfg s ms).wall.reading := h.wall.1 ▸ hclock
    have hopen := segment_execute cfg validated (runService cfg s ms).tasks.length
      (runService cfg s ms).world
    have hstate : guardAfter cfg validated (stateAfter cfg s ms) =
        (stateAfter cfg s (ms ++ [.execute validated])).replayGuard := by
      rw [stateAfter_concat]
      exact hopen.replayGuard.symm
    have hwall : (stateAfter cfg s ms).wall.Later
        (stateAfter cfg s (ms ++ [.execute validated])).wall := by
      rw [stateAfter_concat]
      exact hopen.wall
    have hguard := h.guardAfter_remembers validated
    rw [hstate] at hguard
    refine ⟨hguard.1, h.wall.trans hwall, ?_, hguard.2.later (hwall.now_le hmono)⟩
    · rw [runService_concat]
      intro t ht
      rcases List.mem_append.1 ht with ht | ht
      · exact h.tasks t ht
      · obtain rfl := List.mem_singleton.1 ht
        exact hopen.status.mono (fun _ _ => trivial) fun _ _ hR => hR

/-- The guard keeps its window along every run. -/
lemma windowKept (cfg : GateConfig Dump) (s : GateState Dump) (ms : List (ServiceMove Dump))
    (hclock : Monotone s.wall.reading) (hempty : s.replayGuard.seen = .empty) :
    WindowKept cfg s ms := by
  induction ms using List.reverseRecOn with
  | nil =>
    refine ⟨rfl, Clock.Later.refl _, fun t ht => (by cases ht), ?_⟩
    have hstart : (stateAfter cfg s []).replayGuard.seen = .empty := hempty
    rw [hstart]
    refine (Dict.remembers_empty _ _).congr fun id t => ⟨?_, False.elim⟩
    rintro ⟨tid, pre, packet, hle, -⟩
    simp at hle
  | append_singleton ms m ih => exact ih.concat hclock m

/-- A task that attempts its packet has had it accepted. -/
lemma acceptedBy_of_attempted {cfg : GateConfig Dump} {s : GateState Dump}
    {ms : List (ServiceMove Dump)} {tid : ℕ} {packet : TransportPacket}
    (h : (tid, .attempted packet) ∈ (runService cfg s ms).world.log) :
    ∃ t, AcceptedBy cfg s ms tid packet.header.packetId t := by
  obtain ⟨pre', p, hstarted⟩ := Pool.exists_started (Pool.lt_length_of_mem_runLog h)
  obtain ⟨pre, m, hmoves, rfl, hm⟩ := Pool.exists_of_prefix_map hstarted.moves
  cases m with
  | resume i reply => cases hm
  | environ f hguard hwall => cases hm
  | execute validated =>
    obtain rfl := Move.spawn.inj hm
    obtain ⟨t, -, -, hlog⟩ := hstarted.taskWithin (R := Steady)
      (E := AttemptsPassed cfg validated (stateAfter cfg s pre)) (by
        rintro w rfl
        have hopen := segment_execute cfg validated tid (runService cfg s pre).world
        exact ⟨hopen.status, hopen.log⟩)
    obtain ⟨rfl, hpass⟩ := hlog _ h packet rfl
    exact ⟨_, pre, packet, hmoves, hstarted.length, rfl, hpass, rfl⟩

/-- Two acceptances of an id, of which one comes first in the run. -/
lemma window_lt_of_before {cfg : GateConfig Dump} {s : GateState Dump}
    {pre pre' : List (ServiceMove Dump)} {packet packet' : TransportPacket}
    (hclock : Monotone s.wall.reading) (hempty : s.replayGuard.seen = .empty)
    (hbefore : pre ++ [.execute (.ok packet)] <+: pre')
    (hid : packet.header.packetId = packet'.header.packetId)
    (hpass : PassesGuard cfg packet (stateAfter cfg s pre))
    (hpass' : PassesGuard cfg packet' (stateAfter cfg s pre')) :
    (s.replayGuard.windowSeconds : ℚ) < (stateAfter cfg s pre').wall.now -
      (stateAfter cfg s pre).wall.now := by
  have hkept := windowKept cfg s pre' hclock hempty
  have hrem := hkept.remembers
  have haccepted : Accepted cfg s pre' packet'.header.packetId
      (stateAfter cfg s pre).wall.now := ⟨_, pre, packet, hbefore, rfl, hid, hpass, rfl⟩
  have hpast := hrem.past haccepted
  rw [← hkept.window] at hrem
  have hnone := (ReplayGuard.checkAndRecord_ok_iff hrem _).1 hpass'.2
  by_contra hle
  refine hnone _ ⟨?_, hpast⟩ haccepted
  rw [hkept.window]
  linarith

/-- Calls are started in the order of their numbers. -/
lemma execute_before {cfg : GateConfig Dump} {s : GateState Dump}
    {ms pre pre' : List (ServiceMove Dump)} {validated validated' : Except PyError TransportPacket}
    (hmoves : pre ++ [.execute validated] <+: ms) (hmoves' : pre' ++ [.execute validated'] <+: ms)
    (hlt : (runService cfg s pre).tasks.length < (runService cfg s pre').tasks.length) :
    pre ++ [.execute validated] <+: pre' := by
  have hstarted : ∀ pre validated, pre ++ [.execute validated] <+: ms →
      Pool.Started s (ms.map (ServiceMove.toMove cfg)) (runService cfg s pre).tasks.length
        (pre.map (ServiceMove.toMove cfg)) (execute cfg (dispatch cfg) validated) := by
    intro pre validated h
    have hmap := h.map (ServiceMove.toMove cfg)
    rw [List.map_append] at hmap
    exact ⟨hmap, rfl⟩
  have hbefore := ((hstarted _ _ hmoves).before (hstarted _ _ hmoves') hlt).length_le
  refine List.prefix_of_prefix_length_le hmoves ((List.prefix_append pre' _).trans hmoves') ?_
  simpa using hbefore

/-- The window of the guard that ends after a run. -/
def windowAfter (cfg : GateConfig Dump) (s : GateState Dump) (ms : List (ServiceMove Dump)) :
    Set ℚ :=
  Set.Icc ((stateAfter cfg s ms).wall.now - s.replayGuard.windowSeconds)
    (stateAfter cfg s ms).wall.now

/-- In every run of execute calls on a clock that does not go back, a call that asks the guard is
accepted exactly when its packet id was not accepted within the window, and after an acceptance
the guard holds the ids that were accepted within the window.  A call that reaches the dispatcher
or the workflow engine has been accepted, and two calls with the same packet id are accepted more
than the window apart. -/
theorem replay_window (cfg : GateConfig Dump) (s : GateState Dump) (ms : List (ServiceMove Dump))
    (hclock : Monotone s.wall.reading) (hempty : s.replayGuard.seen = .empty) :
    (∀ pre packet, pre ++ [.execute (.ok packet)] <+: ms →
      asksGuard cfg packet (stateAfter cfg s pre) = true →
        ((guardAnswer packet (stateAfter cfg s pre)).1 = .ok () ↔
          ∀ t ∈ windowAfter cfg s pre, ¬ Accepted cfg s pre packet.header.packetId t) ∧
        ((guardAnswer packet (stateAfter cfg s pre)).1 = .ok () → ∀ packetId,
          ((stateAfter cfg s (pre ++ [.execute (.ok packet)])).replayGuard.seen.contains packetId =
              true ↔
            ∃ t ∈ windowAfter cfg s pre,
              Accepted cfg s (pre ++ [.execute (.ok packet)]) packetId t))) ∧
    (∀ tid packet, (tid, .attempted packet) ∈ (runService cfg s ms).world.log →
      ∃ t, AcceptedBy cfg s ms tid packet.header.packetId t) ∧
    (∀ tid tid' packetId t t', tid ≠ tid' → AcceptedBy cfg s ms tid packetId t →
      AcceptedBy cfg s ms tid' packetId t' → (s.replayGuard.windowSeconds : ℚ) < |t - t'|) := by
  refine ⟨fun pre packet _ hasks => ?_, fun _ _ => acceptedBy_of_attempted, ?_⟩
  · -- the guard remembers the acceptances of its window before the call, and so after it
    have hkept := windowKept cfg s pre hclock hempty
    have hrem := hkept.remembers
    rw [windowAfter, ← hkept.window]
    rw [← hkept.window] at hrem
    refine ⟨ReplayGuard.checkAndRecord_ok_iff hrem _, fun hok id => ?_⟩
    have hopen := segment_execute cfg (.ok packet) (runService cfg s pre).tasks.length
      (runService cfg s pre).world
    have hguard : (stateAfter cfg s (pre ++ [.execute (.ok packet)])).replayGuard =
        (guardAnswer packet (stateAfter cfg s pre)).2 := by
      rw [stateAfter_concat]
      exact hopen.replayGuard.trans (guardAfter_of_asks hasks)
    rw [hguard, guardAnswer, ReplayGuard.contains_checkAndRecord hrem hok]
    refine exists_congr fun t => and_congr_right fun _ => ?_
    rw [accepted_concat_execute]
    refine or_congr Iff.rfl ⟨?_, ?_⟩
    · rintro ⟨rfl, rfl⟩
      exact ⟨rfl, ⟨hasks, hok⟩, rfl⟩
    · rintro ⟨rfl, -, rfl⟩
      exact ⟨rfl, rfl⟩
  · -- of two calls one was started first
    have hordered : ∀ tid tid' packetId t t', tid < tid' → AcceptedBy cfg s ms tid packetId t →
        AcceptedBy cfg s ms tid' packetId t' → (s.replayGuard.windowSeconds : ℚ) < t' - t := by
      rintro tid tid' packetId t t' hlt ⟨pre, packet, hmoves, rfl, hid, hpass, rfl⟩
        ⟨pre', packet', hmoves', rfl, hid', hpass', rfl⟩
      exact window_lt_of_before hclock hempty (execute_before hmoves hmoves' hlt)
        (hid.trans hid'.symm) hpass hpass'
    intro tid tid' packetId t t' hne h h'
    rcases lt_or_gt_of_ne hne with hlt | hlt
    · rw [abs_sub_comm]
      exact (hordered _ _ _ _ _ hlt h h').trans_le (le_abs_self _)
    · exact (hordered _ _ _ _ _ hlt h' h).trans_le (le_abs_self _)

/-- The packet that is attempted. -/
def GateEvent.attempted? : GateEvent Dump → Option TransportPacket
  | .attempted packet => some packet
  | _ => none

lemma GateEvent.attempted?_eq_some {e : GateEvent Dump} {packet : TransportPacket} :
    e.attempted? = some packet ↔ e = .attempted packet := by
  cases e <;> simp [attempted?]

/-- A wall clock that shows 200 s more at each reading. -/
def slowClock : Clock := ⟨fun n => 200 * n, 0⟩

lemma monotone_slowClock : Monotone slowClock.reading := fun _ _ h =>
  mul_le_mul_of_nonneg_left (Nat.cast_le.2 h) (by norm_num)

/-- The state with one worker that serves `score`, and that clock. -/
def slowState : GateState TransportPacket :=
  .fresh (NodeRegistry.oneWorker "worker" "score") none (.stopped 0) slowClock

/-- A packet is executed three times; the second call comes too early. -/
def replayedTwice : List (ServiceMove TransportPacket) :=
  let call := .execute (.ok (clientPacket "acme" "score" none))
  [call, .resume 0 (answering (clientPacket "acme" "score" none)), call, call]

/-- The first and the third call work on the packet, and are accepted more than 300 s apart. -/
theorem replay_window_replayedTwice :
    ∃ t t', AcceptedBy .plain slowState replayedTwice 0 "root" t ∧
      AcceptedBy .plain slowState replayedTwice 2 "root" t' ∧ 300 < |t - t'| := by
  obtain ⟨-, hattempted, hapart⟩ :=
    replay_window .plain slowState replayedTwice monotone_slowClock rfl
  have hworked : ∀ tid ∈ [0, 2], ∃ packet, packet.header.packetId = "root" ∧
      (tid, .attempted packet) ∈ (runService .plain slowState replayedTwice).world.log := by
    have hlog : ∀ tid ∈ [0, 2], (runService .plain slowState replayedTwice).world.log.any
        (fun e => decide (e.1 = tid) && e.2.attempted?.any fun packet =>
          decide (packet.header.packetId = "root")) = true := by
      decide +kernel
    intro tid htid
    obtain ⟨⟨tid', e⟩, hmem, hany⟩ := List.any_eq_true.1 (hlog tid htid)
    rw [Bool.and_eq_true, decide_eq_true_eq] at hany
    obtain ⟨packet, heq, hid⟩ := (Option.any_eq_true _ _).1 hany.2
    obtain rfl := GateEvent.attempted?_eq_some.1 heq
    obtain rfl := hany.1
    exact ⟨packet, of_decide_eq_true hid, hmem⟩
  obtain ⟨packet, hid, hmem⟩ := hworked 0 (by simp)
  obtain ⟨packet', hid', hmem'⟩ := hworked 2 (by simp)
  obtain ⟨t, ht⟩ := hattempted 0 packet hmem
  obtain ⟨t', ht'⟩ := hattempted 2 packet' hmem'
  rw [hid] at ht
  rw [hid'] at ht'
  exact ⟨t, t', ht, ht', hapart 0 2 "root" t t' (by decide) ht ht'⟩

end ConstellationGate
