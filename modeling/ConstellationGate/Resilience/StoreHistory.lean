import ConstellationGate.Resilience.Idempotency
import Mathlib.Tactic.Linarith

/-!
# Histories of an idempotency store

A store forgets an expired entry only when somebody reads its key, so its contents depend on the
reads.  Its answers do not: a read answers what was written last under the key, unless that has
expired (`getForPacket_after`), and a read more or less changes no other answer
(`getForPacket_after_get`).
-/

namespace ConstellationGate

variable {Dump : Type}

/-! ### What is left of a write -/

/-- What a read at `now` makes of the last write. -/
def unexpired (ttl now : ℚ) : Option (ℚ × Dump) → Option Dump
  | none => none
  | some (storedAt, value) => if ttl ≤ now - storedAt then none else some value

lemma unexpired_eq_some_iff {ttl now : ℚ} {last : Option (ℚ × Dump)} {value : Dump} :
    unexpired ttl now last = some value ↔
      ∃ storedAt, last = some (storedAt, value) ∧ now - storedAt < ttl := by
  rcases last with _ | ⟨storedAt, value'⟩
  · simp [unexpired]
  · by_cases hexpired : ttl ≤ now - storedAt
    · simp [unexpired, hexpired]
    · simp [unexpired, hexpired, not_le.1 hexpired, and_comm]

/-- A store holds under a key what was stored last, unless that has expired. -/
def HoldsLast (ttl : ℚ) (now : ℚ) (last found : Option (ℚ × Dump)) : Prop :=
  found = last ∨ found = none ∧ ∃ storedAt value, last = some (storedAt, value) ∧
    ttl ≤ now - storedAt

namespace HoldsLast

variable {ttl now now' : ℚ} {last found : Option (ℚ × Dump)}

lemma eq_of_some {v : ℚ × Dump} (h : HoldsLast ttl now last found) (hv : found = some v) :
    last = some v := by
  rcases h with h | ⟨hnone, -⟩
  · rw [← h, hv]
  · rw [hv] at hnone
    cases hnone

/-- What has expired stays expired. -/
lemma later (hle : now ≤ now') (h : HoldsLast ttl now last found) :
    HoldsLast ttl now' last found := by
  rcases h with h | ⟨hnone, storedAt, value, hlast, hexpired⟩
  · exact .inl h
  · exact .inr ⟨hnone, storedAt, value, hlast, by linarith⟩

end HoldsLast

namespace IdempotencyStore

variable {s : IdempotencyStore Dump} {clock : MonotonicClock} {last : String → Option (ℚ × Dump)}

/-- A read answers what was written last, and drops no more than what has expired. -/
lemma live_of_holdsLast (clock : MonotonicClock)
    (h : ∀ key, HoldsLast s.ttl clock.now (last key) (s.store.get? key))
    (key : String) :
    (s.live clock key).1 = unexpired s.ttl clock.now (last key) ∧
      (s.live clock key).2.1.ttl = s.ttl ∧
      ∀ key', HoldsLast s.ttl clock.now (last key') ((s.live clock key).2.1.store.get? key') := by
  have hholds := h key
  rcases s.live_cases clock key with ⟨hget, hlive⟩ | ⟨storedAt, value, hget, hexpired, hlive⟩ |
      ⟨storedAt, value, hget, hfresh, hlive⟩
  · rw [hlive]
    rw [hget] at hholds
    refine ⟨?_, rfl, h⟩
    rcases hholds with hlast | ⟨-, storedAt, value, hlast, hexpired⟩
    · rw [← hlast, unexpired]
    · rw [hlast, unexpired, if_pos hexpired]
  · have hlast := hholds.eq_of_some hget
    rw [hlive]
    refine ⟨by rw [hlast, unexpired, if_pos hexpired], rfl, fun key' => ?_⟩
    -- the expired entry is dropped, the others stay
    simp only [Dict.get?_erase]
    split
    · rename_i heq
      rw [heq]
      exact .inr ⟨rfl, storedAt, value, hlast, hexpired⟩
    · exact h key'
  · rw [hlive, hholds.eq_of_some hget, unexpired, if_neg hfresh]
    exact ⟨rfl, rfl, h⟩

/-- A write is the last one under its key. -/
lemma set_of_holdsLast (clock : MonotonicClock)
    (h : ∀ key, HoldsLast s.ttl clock.now (last key) (s.store.get? key))
    (key : String) (value : Dump) (key' : String) :
    HoldsLast s.ttl clock.now (if key = key' then some (clock.now, value) else last key')
      ((s.set clock key value).1.store.get? key') := by
  rw [set]
  simp only [Dict.get?_set]
  by_cases heq : key' = key
  · rw [if_pos heq, if_pos heq.symm]
    exact .inl rfl
  · rw [if_neg heq, if_neg (Ne.symm heq)]
    exact h key'

end IdempotencyStore

/-! ### Histories -/

/-- An access to a store. -/
inductive StoreAccess (Dump : Type)
  | get (packet : TransportPacket)
  | set (packet : TransportPacket) (value : Dump)

/-- The store after an access at the time `now`. -/
def StoreAccess.apply (now : ℚ) (s : IdempotencyStore Dump) :
    StoreAccess Dump → IdempotencyStore Dump
  | .get packet => (s.getForPacket (.stopped now) packet).2.1
  | .set packet value => (s.setForPacket (.stopped now) packet value).2.1

/-- The store after the accesses of a history, each at its time. -/
def IdempotencyStore.after (s : IdempotencyStore Dump) (history : List (ℚ × StoreAccess Dump)) :
    IdempotencyStore Dump :=
  history.foldl (fun s access => access.2.apply access.1 s) s

/-- The write of an access under a key, with its time. -/
def StoreAccess.write? (key : String) (now : ℚ) : StoreAccess Dump → Option (ℚ × Dump)
  | .get _ => none
  | .set packet value =>
    if idempotencyNamespaceKey packet = some key then some (now, value) else none

/-- The last write of a history under a key. -/
def lastWrite (key : String) (history : List (ℚ × StoreAccess Dump)) : Option (ℚ × Dump) :=
  history.reverse.findSome? fun access => access.2.write? key access.1

lemma lastWrite_concat (key : String) (history : List (ℚ × StoreAccess Dump)) (now : ℚ)
    (access : StoreAccess Dump) :
    lastWrite key (history ++ [(now, access)]) =
      (access.write? key now).or (lastWrite key history) := by
  rcases hwrite : access.write? key now with _ | v <;> simp [lastWrite, hwrite]

/-- The times of a history do not decrease, and `now` is none before them. -/
def InTime (history : List (ℚ × StoreAccess Dump)) (now : ℚ) : Prop :=
  history.Pairwise (fun access access' => access.1 ≤ access'.1) ∧
    ∀ access ∈ history, access.1 ≤ now

lemma InTime.of_concat {history : List (ℚ × StoreAccess Dump)} {access : ℚ × StoreAccess Dump}
    {now : ℚ} (h : InTime (history ++ [access]) now) :
    InTime history access.1 ∧ access.1 ≤ now := by
  obtain ⟨hsorted, hnow⟩ := h
  obtain ⟨hsorted, -, hlast⟩ := List.pairwise_append.1 hsorted
  exact ⟨⟨hsorted, fun a ha => hlast a ha access (List.mem_singleton_self _)⟩,
    hnow access (by simp)⟩

section History

variable {s : IdempotencyStore Dump} {history : List (ℚ × StoreAccess Dump)} {now : ℚ}

/-- An access keeps what the store holds. -/
lemma StoreAccess.holdsLast_apply {last : String → Option (ℚ × Dump)}
    (h : ∀ key, HoldsLast s.ttl now (last key) (s.store.get? key)) (access : StoreAccess Dump) :
    (access.apply now s).ttl = s.ttl ∧
      ∀ key, HoldsLast s.ttl now ((access.write? key now).or (last key))
        ((access.apply now s).store.get? key) := by
  cases access with
  | get packet =>
    rw [apply, IdempotencyStore.getForPacket]
    rcases idempotencyNamespaceKey packet with _ | key
    · exact ⟨rfl, h⟩
    · exact (IdempotencyStore.live_of_holdsLast (.stopped now) h key).2
  | set packet value =>
    rw [apply, IdempotencyStore.setForPacket]
    rcases hkey : idempotencyNamespaceKey packet with _ | key
    · refine ⟨rfl, fun key => ?_⟩
      rw [write?, hkey, if_neg (by simp), Option.none_or]
      exact h key
    · refine ⟨rfl, fun key' => ?_⟩
      have hset := IdempotencyStore.set_of_holdsLast (.stopped now) h key value key'
      rw [write?, hkey]
      simp only [Option.some.injEq]
      split
      · rename_i heq
        rw [if_pos heq] at hset
        exact hset
      · rename_i heq
        rw [if_neg heq] at hset
        exact hset

/-- After a history the store holds the last writes. -/
lemma holdsLast_after (hempty : s.store = .empty) (htime : InTime history now) :
    (s.after history).ttl = s.ttl ∧
      ∀ key, HoldsLast s.ttl now (lastWrite key history) ((s.after history).store.get? key) := by
  induction history using List.reverseRecOn generalizing now with
  | nil =>
    refine ⟨rfl, fun key => .inl ?_⟩
    rw [IdempotencyStore.after, List.foldl_nil, hempty]
    rfl
  | append_singleton history access ih =>
    obtain ⟨htime, hle⟩ := htime.of_concat
    obtain ⟨httl, hholds⟩ := ih htime
    rw [← httl] at hholds
    obtain ⟨httl', hholds⟩ := access.2.holdsLast_apply hholds
    rw [IdempotencyStore.after, List.foldl_append, List.foldl_cons, List.foldl_nil,
      ← IdempotencyStore.after]
    refine ⟨httl'.trans httl, fun key => ?_⟩
    rw [lastWrite_concat, ← httl]
    exact (hholds key).later hle

/-- A store answers a read with what was written last under the key, unless that has expired. -/
theorem getForPacket_after (hempty : s.store = .empty) (htime : InTime history now)
    (packet : TransportPacket) :
    ((s.after history).getForPacket (.stopped now) packet).1 =
      (idempotencyNamespaceKey packet).bind fun key =>
        unexpired s.ttl now (lastWrite key history) := by
  obtain ⟨httl, hholds⟩ := holdsLast_after hempty htime
  rw [IdempotencyStore.getForPacket]
  rcases idempotencyNamespaceKey packet with _ | key
  · rfl
  · rw [← httl] at hholds ⊢
    exact (IdempotencyStore.live_of_holdsLast (.stopped now) hholds key).1

lemma lastWrite_append_get (key : String) (history history' : List (ℚ × StoreAccess Dump))
    (time : ℚ) (packet : TransportPacket) :
    lastWrite key (history ++ (time, .get packet) :: history') =
      lastWrite key (history ++ history') := by
  rw [lastWrite, lastWrite, List.reverse_append, List.reverse_append, List.reverse_cons,
    List.findSome?_append, List.findSome?_append, List.findSome?_append]
  simp [StoreAccess.write?]

lemma InTime.of_append_cons {history' : List (ℚ × StoreAccess Dump)}
    {access : ℚ × StoreAccess Dump} (h : InTime (history ++ access :: history') now) :
    InTime (history ++ history') now := by
  have hsub : (history ++ history').Sublist (history ++ access :: history') :=
    List.Sublist.append_left (List.sublist_cons_self access history') history
  exact ⟨h.1.sublist hsub, fun a ha => h.2 a (hsub.subset ha)⟩

/-- A read changes no later answer, also when it drops an entry that has expired. -/
theorem getForPacket_after_get (hempty : s.store = .empty)
    {history' : List (ℚ × StoreAccess Dump)} {time : ℚ} {packet : TransportPacket}
    (htime : InTime (history ++ (time, .get packet) :: history') now) (later : TransportPacket) :
    ((s.after (history ++ (time, .get packet) :: history')).getForPacket (.stopped now) later).1 =
      ((s.after (history ++ history')).getForPacket (.stopped now) later).1 := by
  rw [getForPacket_after hempty htime, getForPacket_after hempty htime.of_append_cons]
  simp only [lastWrite_append_get]

end History

end ConstellationGate
