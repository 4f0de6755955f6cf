import ConstellationGate.Services.ExitAccounting
import ConstellationGate.Services.ResultCache

/-!
# Cache hits

Which admitted calls are answered from the idempotency store, and with what: those for whose key
some call has stored a result, the last time less than the time to live ago (`cache_hits_exact`).

An admitted call looks its packet up in its first segment, with no await before the lookup.  What it
finds is what the log says (`lookUp_admitted`), and when it finds something the call ends there.
-/

namespace ConstellationGate

variable {Dump : Type}

/-! ### The last store of a log -/

/-- The last store of the log under the key was of the value, at the time `storedAt`. -/
def MostRecent (key : String) (log : List (ℕ × GateEvent Dump)) (storedAt : ℚ) (value : Dump) :
    Prop :=
  ∃ before i mid, log = before ++ (i, .stored key storedAt value) :: mid ∧
    ∀ j now value', (j, GateEvent.stored key now value') ∉ mid

lemma lastStored_eq_some_iff {key : String} {log : List (ℕ × GateEvent Dump)} {storedAt : ℚ}
    {value : Dump} : lastStored key log = some (storedAt, value) ↔
      MostRecent key log storedAt value := by
  constructor
  · intro h
    obtain ⟨mid, ⟨i, e⟩, before, hsplit, hstored, hnone⟩ := List.findSome?_eq_some_iff.1 h
    obtain rfl := storedBy_eq_some_iff.1 hstored
    refine ⟨before.reverse, i, mid.reverse, ?_, fun j now value' hmem => ?_⟩
    · rw [← List.reverse_reverse log, hsplit]
      simp
    · have hquiet := hnone _ (List.mem_reverse.1 hmem)
      rw [storedBy_eq_some_iff.2 rfl] at hquiet
      cases hquiet
  · rintro ⟨before, i, mid, rfl, hmid⟩
    exact lastStored_since hmid

/-- What a lookup is expected to find. -/
lemma expectedHit_eq_some_iff {ttl now : ℚ} {log : List (ℕ × GateEvent Dump)}
    {packet : TransportPacket} {key : String} (hkey : idempotencyNamespaceKey packet = some key)
    {value : Dump} : expectedHit ttl log packet now = some value ↔
      ∃ storedAt, MostRecent key log storedAt value ∧ now - storedAt < ttl := by
  rw [expectedHit_eq, hkey, Option.bind_some, unexpired_eq_some_iff]
  simp only [lastStored_eq_some_iff]

/-! ### The first segment of an admitted call -/

section Opening

variable {cfg : GateConfig Dump} {packet : TransportPacket} {tid : ℕ} {w : World (gate Dump)}
  {s₁ s₂ : GateState Dump} {now : ℚ}
  {r : Status (gate Dump) TransportPacket × World (gate Dump)}

/-- A call that finds a result returns it at once. -/
lemma Opens.of_found (h : Opens cfg tid w (.ok packet) r) {dump : Dump}
    (hadmitted : passAdmission cfg packet w.state = (.ok (), s₁))
    (hfound : lookUp packet s₁ = (.ok (now, some dump), s₂)) :
    r = (.finished (cfg.sdk.modelValidate dump), worldAfter w tid (leave s₂).2
      [.admitted packet, .lookedUp packet now (some dump),
        .returned (cfg.sdk.modelValidate dump)]) := by
  have hhits : ∀ now s', ¬ Misses cfg packet w.state now s' := by
    rintro now s' ⟨s₁', hadmitted', hnone⟩
    obtain ⟨-, rfl⟩ := Prod.mk.inj (hadmitted.symm.trans hadmitted')
    rw [hfound] at hnone
    simp at hnone
  cases h with
  | turnedAway haway =>
    cases haway with
    | refused hrefused =>
      rw [hadmitted] at hrefused
      cases hrefused
    | cached hadmitted' hfound' =>
      obtain ⟨-, rfl⟩ := Prod.mk.inj (hadmitted.symm.trans hadmitted')
      obtain ⟨hvalue, rfl⟩ := Prod.mk.inj (hfound.symm.trans hfound')
      cases hvalue
      rfl
    | replayed hmisses _ => exact absurd hmisses (hhits _ _)
    | unstarted hmisses _ _ => exact absurd hmisses (hhits _ _)
  | begins hbegins =>
    obtain ⟨s₂', s₃, hmisses, -, -⟩ := hbegins
    exact absurd hmisses (hhits _ _)

/-- A call that finds nothing records that it has found nothing. -/
lemma Opens.of_missed (h : Opens cfg tid w (.ok packet) r)
    (hadmitted : passAdmission cfg packet w.state = (.ok (), s₁))
    (hmissed : lookUp packet s₁ = (.ok (now, none), s₂)) :
    ∃ events : List (GateEvent Dump), r.2.log = w.log ++
      (.admitted packet :: .lookedUp packet now none :: events).map (Prod.mk tid) := by
  have hsame : ∀ {now' s'}, Misses cfg packet w.state now' s' → now' = now := by
    rintro now' s' ⟨s₁', hadmitted', hnone⟩
    obtain ⟨-, rfl⟩ := Prod.mk.inj (hadmitted.symm.trans hadmitted')
    rw [hmissed] at hnone
    obtain ⟨hvalue, -⟩ := Prod.mk.inj hnone
    exact (Prod.mk.inj (Except.ok.inj hvalue)).1.symm
  cases h with
  | turnedAway haway =>
    cases haway with
    | refused hrefused =>
      rw [hadmitted] at hrefused
      cases hrefused
    | cached hadmitted' hfound =>
      obtain ⟨-, rfl⟩ := Prod.mk.inj (hadmitted.symm.trans hadmitted')
      rw [hmissed] at hfound
      simp at hfound
    | replayed hmisses _ =>
      rw [hsame hmisses]
      exact ⟨_, rfl⟩
    | unstarted hmisses _ _ =>
      rw [hsame hmisses]
      exact ⟨_, rfl⟩
  | @begins _ now' deadline s hbegins =>
    obtain ⟨s₂', s₃, hmisses, -, -⟩ := hbegins
    rw [hsame hmisses]
    obtain ⟨es, hes⟩ := Co.segment_log (executing cfg packet (deadlineWork cfg packet deadline)) tid
      (worldAfter w tid s (begunEvents packet now deadline))
    refine ⟨.deadlineStarted packet deadline :: es, hes.trans ?_⟩
    simp [begunEvents]

end Opening

/-! ### Hits in a run -/

/-- The call that was started as task `tid` was answered from the cache. -/
def AnsweredFromCache (tid : ℕ) (log : List (ℕ × GateEvent Dump)) : Prop :=
  ∃ packet now value, (tid, .lookedUp packet now (some value)) ∈ log

/-- A call that is started in the pool `c` leads to `c'`, with this result and without anything but
its lookup; until the end of the run, in the pool `last`, it does nothing more. -/
structure ReturnsAtOnce (packet : TransportPacket) (now : ℚ) (value : Dump)
    (result : TransportPacket) (c c' last : Pool (gate Dump) TransportPacket) : Prop where
  log : c'.world.log = c.world.log ++ [(c.tasks.length, .admitted packet),
    (c.tasks.length, .lookedUp packet now (some value)), (c.tasks.length, .returned (.ok result))]
  unaffected : Unaffected c.world.state c'.world.state
  finished : last.tasks[c.tasks.length]? = some (.finished (.ok result))
  events : eventsIn c.tasks.length last.world.log =
    [.admitted packet, .lookedUp packet now (some value), .returned (.ok result)]

section Run

variable {cfg : GateConfig Dump} {s : GateState Dump}
  {pre ms : List (Move (gate Dump) TransportPacket)} {packet : TransportPacket}

/-- The lookup of an admitted call finds what the log says. -/
lemma lookUp_admitted {s₁ : GateState Dump} (h : CallRun cfg s pre)
    (hadmitted : passAdmission cfg packet ((Pool.init s).run pre).world.state = (.ok (), s₁)) :
    lookUp packet s₁ = (.ok (s₁.monotonic.now, expectedHit s.idempotencyStore.ttl (runLog s pre)
      packet s₁.monotonic.now), (lookUp packet s₁).2) := by
  obtain ⟨-, hkept⟩ := calls_verified h
  have hundisturbed := undisturbed_passAdmission cfg packet ((Pool.init s).run pre).world.state
  rw [hadmitted] at hundisturbed
  obtain ⟨hfound, -⟩ := (hkept.put hundisturbed).lookUp packet
  exact Prod.ext hfound rfl

lemma eventsIn_fresh (s : GateState Dump) (pre : List (Move (gate Dump) TransportPacket)) :
    eventsIn ((Pool.init s).run pre).tasks.length ((Pool.init s).run pre).world.log = [] :=
  List.eq_nil_iff_forall_not_mem.2 fun _ he =>
    absurd (Pool.lt_length_of_mem_runLog (mem_eventsIn.1 he)) (lt_irrefl _)

/-- A call whose lookup finds a result returns it at once. -/
lemma returnsAtOnce_of_found {s₁ s₂ : GateState Dump} {now : ℚ} {result : TransportPacket}
    (hadmitted : passAdmission cfg packet ((Pool.init s).run pre).world.state = (.ok (), s₁))
    (hfound : lookUp packet s₁ = (.ok (now, some (cfg.sdk.dump result)), s₂)) :
    ReturnsAtOnce packet now (cfg.sdk.dump result) result ((Pool.init s).run pre)
      ((Pool.init s).run (pre ++ [.spawn (execute cfg (dispatch cfg) (.ok packet))]))
      ((Pool.init s).run (pre ++ .spawn (execute cfg (dispatch cfg) (.ok packet)) :: ms)) := by
  have hopens := segment_execute_opens cfg (.ok packet) ((Pool.init s).run pre).tasks.length
    ((Pool.init s).run pre).world
  have hseg := hopens.of_found hadmitted hfound
  rw [cfg.sdk.modelValidate_dump] at hseg
  have hstep : (Pool.init s).run (pre ++ [.spawn (execute cfg (dispatch cfg) (.ok packet))]) =
      ⟨worldAfter ((Pool.init s).run pre).world ((Pool.init s).run pre).tasks.length (leave s₂).2
        [.admitted packet, .lookedUp packet now (some (cfg.sdk.dump result)),
          .returned (.ok result)],
        ((Pool.init s).run pre).tasks ++ [.finished (.ok result)]⟩ := by
    rw [Pool.run_concat, Pool.step, hseg]
  have hmoves : (Pool.init s).run (pre ++ .spawn (execute cfg (dispatch cfg) (.ok packet)) :: ms) =
      ((Pool.init s).run (pre ++ [.spawn (execute cfg (dispatch cfg) (.ok packet))])).run ms := by
    rw [← Pool.run_append, List.append_assoc, List.singleton_append]
  rw [hmoves, hstep]
  have hnil := eventsIn_fresh s pre
  generalize (Pool.init s).run pre = c at hadmitted hnil ⊢
  have hrun := Pool.run_of_finished (c := ⟨worldAfter c.world c.tasks.length (leave s₂).2
    [.admitted packet, .lookedUp packet now (some (cfg.sdk.dump result)), .returned (.ok result)],
    c.tasks ++ [.finished (.ok result)]⟩) List.getElem?_concat_length ms
  refine ⟨rfl, unaffected_of_found hadmitted hfound, hrun.1, hrun.2.trans ?_⟩
  rw [worldAfter_log, eventsIn_append, hnil, eventsIn_map_self, List.nil_append]

/-- A call whose lookup finds nothing is not answered from the cache. -/
lemma not_answeredFromCache_of_missed
    (h : CallRun cfg s (pre ++ .spawn (execute cfg (dispatch cfg) (.ok packet)) :: ms))
    {s₁ s₂ : GateState Dump} {now : ℚ}
    (hadmitted : passAdmission cfg packet ((Pool.init s).run pre).world.state = (.ok (), s₁))
    (hmissed : lookUp packet s₁ = (.ok (now, none), s₂)) :
    ¬ AnsweredFromCache ((Pool.init s).run pre).tasks.length
      (runLog s (pre ++ .spawn (execute cfg (dispatch cfg) (.ok packet)) :: ms)) := by
  rintro ⟨packet', now', value, hmem⟩
  obtain ⟨hverified, -⟩ := calls_verified h
  -- the second event of the call is its lookup that has found nothing
  have hopens := segment_execute_opens cfg (.ok packet) ((Pool.init s).run pre).tasks.length
    ((Pool.init s).run pre).world
  obtain ⟨events, hlog⟩ := hopens.of_missed hadmitted hmissed
  have hprefix := Pool.log_prefix_run
    (((Pool.init s).run pre).step (.spawn (execute cfg (dispatch cfg) (.ok packet)))) ms
  rw [← Pool.run_cons, ← Pool.run_append] at hprefix
  obtain ⟨rest, hrest⟩ := hprefix
  have htrace : eventsIn ((Pool.init s).run pre).tasks.length
      (runLog s (pre ++ .spawn (execute cfg (dispatch cfg) (.ok packet)) :: ms)) =
        .admitted packet :: .lookedUp packet now none :: (events ++
          eventsIn ((Pool.init s).run pre).tasks.length rest) := by
    rw [runLog, ← hrest, Pool.step, hlog, eventsIn_append, eventsIn_append, eventsIn_fresh,
      eventsIn_map_self]
    simp
  -- and a lookup that has found something is the second event as well
  obtain ⟨past, after, hsplit⟩ := List.append_of_mem hmem
  obtain ⟨hpast, -⟩ := hverified past _ _ after hsplit
  rw [hsplit, eventsIn_append, hpast] at htrace
  simp [eventsIn] at htrace

/-- A hit returns what was stored. -/
lemma exists_returnsAtOnce (hpre : CallRun cfg s pre) {key : String}
    (hkey : idempotencyNamespaceKey packet = some key) {s₁ : GateState Dump}
    (hadmitted : passAdmission cfg packet ((Pool.init s).run pre).world.state = (.ok (), s₁))
    {storedAt : ℚ} {value : Dump} (hrecent : MostRecent key (runLog s pre) storedAt value)
    (hlive : s₁.monotonic.now - storedAt < s.idempotencyStore.ttl) :
    ∃ result, value = cfg.sdk.dump result ∧
      ReturnsAtOnce packet s₁.monotonic.now value result ((Pool.init s).run pre)
        ((Pool.init s).run (pre ++ [.spawn (execute cfg (dispatch cfg) (.ok packet))]))
        ((Pool.init s).run (pre ++ .spawn (execute cfg (dispatch cfg) (.ok packet)) :: ms)) := by
  have hlookUp := lookUp_admitted hpre hadmitted
  rw [(expectedHit_eq_some_iff hkey).2 ⟨storedAt, hrecent, hlive⟩] at hlookUp
  obtain ⟨hverified, -⟩ := calls_verified hpre
  obtain ⟨before, i, mid, hlog, -⟩ := hrecent
  obtain ⟨-, -, result, -, -, -, rfl⟩ := hverified before i _ mid hlog
  exact ⟨result, rfl, returnsAtOnce_of_found hadmitted hlookUp⟩

/-- In every interleaved run of execute calls an admitted call with a key is answered from the cache
exactly when some call has stored a result under the key, the last time less than the time to live
ago.  It then returns that result at once, dispatches nothing and leaves the replay guard, the
dead-letter queue and the counters as they are.  A read changes no later answer of a store, also
when it drops what has expired. -/
theorem cache_hits_exact
    (h : CallRun cfg s (pre ++ .spawn (execute cfg (dispatch cfg) (.ok packet)) :: ms))
    {key : String} (hkey : idempotencyNamespaceKey packet = some key) {s₁ : GateState Dump}
    (hadmitted : passAdmission cfg packet ((Pool.init s).run pre).world.state = (.ok (), s₁)) :
    (AnsweredFromCache ((Pool.init s).run pre).tasks.length
        (runLog s (pre ++ .spawn (execute cfg (dispatch cfg) (.ok packet)) :: ms)) ↔
      ∃ storedAt value, MostRecent key (runLog s pre) storedAt value ∧
        s₁.monotonic.now - storedAt < s.idempotencyStore.ttl) ∧
    (∀ storedAt value, MostRecent key (runLog s pre) storedAt value →
      s₁.monotonic.now - storedAt < s.idempotencyStore.ttl →
      ∃ result, value = cfg.sdk.dump result ∧
        ReturnsAtOnce packet s₁.monotonic.now value result ((Pool.init s).run pre)
          ((Pool.init s).run (pre ++ [.spawn (execute cfg (dispatch cfg) (.ok packet))]))
          ((Pool.init s).run (pre ++ .spawn (execute cfg (dispatch cfg) (.ok packet)) :: ms))) ∧
    ∀ (store : IdempotencyStore Dump) (history history' : List (ℚ × StoreAccess Dump)) (time : ℚ)
      (read : TransportPacket) (now : ℚ) (later : TransportPacket), store.store = .empty →
      InTime (history ++ (time, .get read) :: history') now →
      ((store.after (history ++ (time, .get read) :: history')).getForPacket (.stopped now)
          later).1 =
        ((store.after (history ++ history')).getForPacket (.stopped now) later).1 := by
  have hpre : CallRun cfg s pre := ⟨h.empty, h.legal.of_append⟩
  have hlookUp := lookUp_admitted hpre hadmitted
  refine ⟨⟨fun hanswered => ?_, ?_⟩, ?_, ?_⟩
  · rcases hexpected : expectedHit s.idempotencyStore.ttl (runLog s pre) packet s₁.monotonic.now
      with _ | value
    · rw [hexpected] at hlookUp
      exact absurd hanswered (not_answeredFromCache_of_missed h hadmitted hlookUp)
    · obtain ⟨storedAt, hrecent, hlive⟩ := (expectedHit_eq_some_iff hkey).1 hexpected
      exact ⟨storedAt, value, hrecent, hlive⟩
  · rintro ⟨storedAt, value, hrecent, hlive⟩
    obtain ⟨result, -, hreturns⟩ :=
      exists_returnsAtOnce hpre hkey hadmitted hrecent hlive
    refine ⟨packet, s₁.monotonic.now, value, mem_eventsIn.1 ?_⟩
    rw [runLog, hreturns.events]
    simp
  · exact fun storedAt value hrecent hlive =>
      exists_returnsAtOnce hpre hkey hadmitted hrecent hlive
  · exact fun store history history' time read now later hempty htime =>
      getForPacket_after_get hempty htime later

end Run

/-- The value that a lookup has found. -/
def GateEvent.found? : GateEvent Dump → Option Dump
  | .lookedUp _ _ found => found
  | _ => none

lemma GateEvent.found?_eq_some {e : GateEvent Dump} {value : Dump} :
    e.found? = some value ↔ ∃ packet now, e = .lookedUp packet now (some value) := by
  cases e <;> simp [GateEvent.found?]

/-- The key of those orders. -/
def orderKey : String := "tenant:acme\x1faction:score\x1fkey:order-1"

/-- The second order is answered with what the first one has stored. -/
theorem cache_hits_exact_secondOrder :
    AnsweredFromCache 1 (runLog scoringState ordersInTurn) ∧
      ∃ storedAt value, MostRecent orderKey (runLog scoringState servedOrder) storedAt value ∧
        (0 : ℚ) - storedAt < 86400 := by
  have hanswered : AnsweredFromCache 1 (runLog scoringState ordersInTurn) := by
    generalize hlog : runLog scoringState ordersInTurn = log
    have hfound : log.any (fun e => e.1 = 1 && e.2.found?.isSome) = true := by
      subst hlog
      decide +kernel
    obtain ⟨⟨tid, e⟩, hmem, hcheck⟩ := List.any_eq_true.1 hfound
    simp only [Bool.and_eq_true, decide_eq_true_eq] at hcheck
    obtain ⟨rfl, hcheck⟩ := hcheck
    obtain ⟨value, hvalue⟩ := Option.isSome_iff_exists.1 hcheck
    obtain ⟨packet, now, rfl⟩ := GateEvent.found?_eq_some.1 hvalue
    exact ⟨packet, now, value, hmem⟩
  have hadmitted : (passAdmission .plain (order "second" "score")
      ((Pool.init scoringState).run servedOrder).world.state).1 = .ok () := by
    decide +kernel
  have hrun : CallRun .plain scoringState (servedOrder ++
      .spawn (execute .plain (dispatch .plain) (.ok (order "second" "score"))) :: []) :=
    ordersInTurn_run
  have hkey : idempotencyNamespaceKey (order "second" "score") = some orderKey := by
    decide +kernel
  have hexact := cache_hits_exact hrun hkey (Prod.ext hadmitted rfl)
  have htid : ((Pool.init scoringState).run servedOrder).tasks.length = 1 := by
    decide +kernel
  have hnow : (passAdmission .plain (order "second" "score")
      ((Pool.init scoringState).run servedOrder).world.state).2.monotonic.now = 0 := by
    decide +kernel
  rw [htid, hnow] at hexact
  exact ⟨hanswered, hexact.1.1 hanswered⟩

end ConstellationGate
