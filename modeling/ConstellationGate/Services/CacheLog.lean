import ConstellationGate.Lib.Transcript
import ConstellationGate.Resilience.StoreHistory
import ConstellationGate.Services.ExecuteService

/-!
# The idempotency store and the log

The entry that the idempotency store holds under a key is the one that was stored last, until
it expires; so what a lookup answers can be read off the log (`expectedHit`).  `CacheKept` is
this invariant, and each operation on the store keeps it.
-/

namespace ConstellationGate

variable {Dump : Type}

/-- What an event stores under a key, with the clock reading. -/
def storedBy (key : String) : GateEvent Dump → Option (ℚ × Dump)
  | .stored key' now value => if key' = key then some (now, value) else none
  | _ => none

lemma storedBy_eq_some_iff {key : String} {e : GateEvent Dump} {storedAt : ℚ} {value : Dump} :
    storedBy key e = some (storedAt, value) ↔ e = .stored key storedAt value := by
  cases e with
  | stored key' now value' =>
    rw [storedBy]
    split
    · rename_i heq
      simp [heq]
    · rename_i hne
      simp [hne]
  | _ => simp [storedBy]

/-- What was stored last under a key. -/
def lastStored (key : String) (log : List (ℕ × GateEvent Dump)) : Option (ℚ × Dump) :=
  log.reverse.findSome? fun e => storedBy key e.2

lemma lastStored_concat (key : String) (log : List (ℕ × GateEvent Dump)) (tid : ℕ)
    (e : GateEvent Dump) :
    lastStored key (log ++ [(tid, e)]) = (storedBy key e).or (lastStored key log) := by
  rcases he : storedBy key e with _ | v <;> simp [lastStored, he]

/-- What was stored last after a part of the log that stores nothing under the key. -/
lemma lastStored_append {key : String} {log log' : List (ℕ × GateEvent Dump)}
    (h : ∀ e ∈ log', storedBy key e.2 = none) :
    lastStored key (log ++ log') = lastStored key log := by
  have hnone : log'.reverse.findSome? (fun e => storedBy key e.2) = none :=
    List.findSome?_eq_none_iff.2 fun e he => h e (List.mem_reverse.1 he)
  rw [lastStored, List.reverse_append, List.findSome?_append, hnone, Option.none_or, lastStored]

/-- What a store recorded is what was stored last until the next store under the key. -/
lemma lastStored_since {key : String} {now : ℚ} {value : Dump} {tid : ℕ}
    {before mid : List (ℕ × GateEvent Dump)}
    (hmid : ∀ tid' now' value', (tid', GateEvent.stored key now' value') ∉ mid) :
    lastStored key (before ++ (tid, .stored key now value) :: mid) = some (now, value) := by
  have hquiet : ∀ e ∈ mid, storedBy key e.2 = none := by
    rintro ⟨tid', e⟩ he
    by_contra hsome
    obtain ⟨⟨now', value'⟩, hstored⟩ := Option.ne_none_iff_exists'.1 hsome
    obtain rfl := storedBy_eq_some_iff.1 hstored
    exact hmid tid' now' value' he
  rw [← List.singleton_append, ← List.append_assoc, lastStored_append hquiet, lastStored_concat]
  simp [storedBy]

/-- What was stored last was stored by someone. -/
lemma exists_of_lastStored {key : String} {log : List (ℕ × GateEvent Dump)} {now : ℚ} {value : Dump}
    (h : lastStored key log = some (now, value)) : ∃ tid, (tid, .stored key now value) ∈ log := by
  obtain ⟨⟨tid, e⟩, he, hstored⟩ := List.exists_of_findSome?_eq_some h
  obtain rfl := storedBy_eq_some_iff.1 hstored
  exact ⟨tid, List.mem_reverse.1 he⟩

/-- What a lookup of a packet answers at a clock reading. -/
def expectedHit (ttl : ℚ) (log : List (ℕ × GateEvent Dump)) (packet : TransportPacket) (now : ℚ) :
    Option Dump :=
  match idempotencyNamespaceKey packet with
  | none => none
  | some key =>
    match lastStored key log with
    | none => none
    | some (storedAt, value) => if ttl ≤ now - storedAt then none else some value

lemma expectedHit_eq (ttl : ℚ) (log : List (ℕ × GateEvent Dump)) (packet : TransportPacket)
    (now : ℚ) :
    expectedHit ttl log packet now =
      (idempotencyNamespaceKey packet).bind fun key => unexpired ttl now (lastStored key log) := by
  rw [expectedHit]
  rcases idempotencyNamespaceKey packet with _ | key
  · rfl
  · rcases hlast : lastStored key log with _ | ⟨storedAt, value⟩ <;>
      simp [hlast, unexpired]

/-- The store holds what the log says. -/
structure CacheKept (ttl : ℚ) (w : World (gate Dump)) : Prop where
  ttl_eq : w.state.idempotencyStore.ttl = ttl
  holds : ∀ key, HoldsLast ttl w.state.monotonic.now (lastStored key w.log)
    (w.state.idempotencyStore.store.get? key)

namespace CacheKept

variable {ttl : ℚ} {w : World (gate Dump)}

/-- A step that leaves the store alone keeps the invariant. -/
lemma put (h : CacheKept ttl w) {s : GateState Dump} (hs : Undisturbed w.state s) :
    CacheKept ttl (w.put s) := by
  refine ⟨?_, fun key => ?_⟩
  · rw [World.put_state, hs.store, h.ttl_eq]
  · rw [World.put_state, World.put_log, hs.store]
    exact (h.holds key).later hs.later.now_le

/-- An event that stores nothing keeps the invariant. -/
lemma emit (h : CacheKept ttl w) (tid : ℕ) {e : GateEvent Dump}
    (he : ∀ key, storedBy key e = none) :
    CacheKept ttl (w.emit tid e) := by
  refine ⟨h.ttl_eq, fun key => ?_⟩
  rw [World.emit_state, World.emit_log, lastStored_concat, he, Option.none_or]
  exact h.holds key

/-- A lookup answers what the log says, keeps the invariant and does not turn the clock back. -/
lemma lookUp (h : CacheKept ttl w) (packet : TransportPacket) :
    (lookUp packet w.state).1 =
        .ok (w.state.monotonic.now, expectedHit ttl w.log packet w.state.monotonic.now) ∧
      CacheKept ttl (w.put (ConstellationGate.lookUp packet w.state).2) ∧
      w.state.monotonic.Later (ConstellationGate.lookUp packet w.state).2.monotonic := by
  have htick := MonotonicClock.later_tick w.state.monotonic
  have hsame := MonotonicClock.Later.refl w.state.monotonic
  rw [expectedHit_eq]
  unfold ConstellationGate.lookUp IdempotencyStore.getForPacket
  rcases hkey : idempotencyNamespaceKey packet with _ | key
  · exact ⟨rfl, h.put ⟨rfl, hsame⟩, hsame⟩
  have hholds := h.holds
  rw [← h.ttl_eq] at hholds
  obtain ⟨hanswer, httl, hlive⟩ := IdempotencyStore.live_of_holdsLast _ hholds key
  have hlater := w.state.idempotencyStore.later_live w.state.monotonic key
  simp only [Option.bind_some]
  rw [hanswer, h.ttl_eq]
  refine ⟨rfl, ⟨httl.trans h.ttl_eq, fun key' => ?_⟩, hlater⟩
  rw [h.ttl_eq] at hlive
  exact (hlive key').later hlater.now_le

/-- Storing a result and recording it keeps the invariant. -/
lemma cacheResult (h : CacheKept ttl w) (cfg : GateConfig Dump) {packet : TransportPacket}
    {key : String} (hkey : idempotencyNamespaceKey packet = some key) (result : TransportPacket)
    (tid : ℕ) :
    (cacheResult cfg packet result w.state).1 = .ok (some (key, w.state.monotonic.now)) ∧
      CacheKept ttl ((w.put (ConstellationGate.cacheResult cfg packet result w.state).2).emit tid
        (.stored key w.state.monotonic.now (cfg.sdk.dump result))) := by
  have htick := MonotonicClock.later_tick w.state.monotonic
  unfold ConstellationGate.cacheResult IdempotencyStore.setForPacket IdempotencyStore.set
  simp only [hkey, Option.map_some, true_and]
  refine ⟨h.ttl_eq, fun key' => ?_⟩
  rw [World.emit_log, lastStored_concat, storedBy]
  simp only [World.emit_state, World.put_state, World.put_log, Dict.get?_set]
  by_cases heq : key' = key
  · subst heq
    simp only [if_true, Option.some_or]
    exact .inl rfl
  · rw [if_neg heq, if_neg (Ne.symm heq), Option.none_or]
    exact (h.holds key').later htick.now_le

/-- A packet without a key is not stored. -/
lemma cacheResult_none (cfg : GateConfig Dump) {packet : TransportPacket}
    (hkey : idempotencyNamespaceKey packet = none) (result : TransportPacket) (s : GateState Dump) :
    ConstellationGate.cacheResult cfg packet result s = (.ok none, s) := by
  unfold ConstellationGate.cacheResult IdempotencyStore.setForPacket
  simp only [hkey, Option.map_none]

end CacheKept

/-- Storing a result does not turn the clock back. -/
lemma later_cacheResult (cfg : GateConfig Dump) (packet result : TransportPacket)
    (s : GateState Dump) : s.monotonic.Later (cacheResult cfg packet result s).2.monotonic := by
  unfold cacheResult IdempotencyStore.setForPacket IdempotencyStore.set
  rcases idempotencyNamespaceKey packet with _ | key
  · exact MonotonicClock.Later.refl s.monotonic
  · exact MonotonicClock.later_tick s.monotonic

end ConstellationGate
