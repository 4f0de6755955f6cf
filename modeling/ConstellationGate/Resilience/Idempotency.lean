import ConstellationGate.Errors
import ConstellationGate.Lib.Clock
import ConstellationGate.Transport.Packet

/-!
# The idempotency store

`resilience/idempotency.py`: results are cached under a key that joins the tenant, the
action and the caller's idempotency key, and expire after a time.

The join is not injective: the tenant is an arbitrary string, and one that contains the
separator and the labels takes over a part of another packet's key.
`keysDistinguish_iff` says exactly when two packets are kept apart.
-/

namespace ConstellationGate

/-! ### The namespaced key -/

/-- The first component of the key: the tenant. -/
def tenantSegment (packet : TransportPacket) : String := normalize packet.tenant.orgId

/-- The second component of the key: the action. -/
def actionSegment (packet : TransportPacket) : String := normalize packet.header.action

/-- The third component of the key: what the caller sent, without blanks around it. -/
def keySegment (packet : TransportPacket) : String :=
  Text.strip (packet.header.idempotencyKey.getD "")

/-- `idempotency_namespace_key`: the key of a packet in the cache, when it has one. -/
def idempotencyNamespaceKey (packet : TransportPacket) : Option String :=
  match packet.header.idempotencyKey with
  | none => none
  | some rawKey =>
    if rawKey = "" ∨ Text.strip rawKey = "" then none
    else
      some ("\x1f".intercalate ["tenant:" ++ tenantSegment packet,
        "action:" ++ actionSegment packet,
        "key:" ++ keySegment packet])

/-! ### The store -/

/-- Cached results, each with the time at which it was stored. -/
structure IdempotencyStore (Dump : Type) where
  ttl : ℚ
  store : Dict String (ℚ × Dump)
  ttl_pos : 0 < ttl

namespace IdempotencyStore

variable {Dump : Type} (s : IdempotencyStore Dump) (clock : MonotonicClock)

/-- `_live`: the entry under a key, which is dropped when it has expired. -/
def live (key : String) : Option Dump × IdempotencyStore Dump × MonotonicClock :=
  match s.store.get? key with
  | none => (none, s, clock)
  | some (storedAt, value) =>
    if s.ttl ≤ clock.now - storedAt then
      (none, { s with store := s.store.erase key }, clock.tick)
    else (some value, s, clock.tick)

/-- `set`. -/
def set (key : String) (value : Dump) : IdempotencyStore Dump × MonotonicClock :=
  ({ s with store := s.store.set key (clock.now, value) }, clock.tick)

/-- `get_for_packet`, which is also `enforce_idempotency`. -/
def getForPacket (packet : TransportPacket) :
    Option Dump × IdempotencyStore Dump × MonotonicClock :=
  match idempotencyNamespaceKey packet with
  | none => (none, s, clock)
  | some key => s.live clock key

/-- `set_for_packet`: nothing is stored for a packet without a key. -/
def setForPacket (packet : TransportPacket) (value : Dump) :
    Bool × IdempotencyStore Dump × MonotonicClock :=
  match idempotencyNamespaceKey packet with
  | none => (false, s, clock)
  | some key => (true, s.set clock key value)

/-- What a lookup does: there is no entry, an expired one is dropped, a live one is the answer. -/
lemma live_cases (key : String) :
    s.store.get? key = none ∧ s.live clock key = (none, s, clock) ∨
    (∃ storedAt value, s.store.get? key = some (storedAt, value) ∧ s.ttl ≤ clock.now - storedAt ∧
      s.live clock key = (none, { s with store := s.store.erase key }, clock.tick)) ∨
    ∃ storedAt value, s.store.get? key = some (storedAt, value) ∧ ¬ s.ttl ≤ clock.now - storedAt ∧
      s.live clock key = (some value, s, clock.tick) := by
  unfold live
  rcases hget : s.store.get? key with _ | ⟨storedAt, value⟩
  · exact .inl ⟨rfl, rfl⟩
  · by_cases hexpired : s.ttl ≤ clock.now - storedAt
    · exact .inr (.inl ⟨storedAt, value, rfl, hexpired, by simp [hexpired]⟩)
    · exact .inr (.inr ⟨storedAt, value, rfl, hexpired, by simp [hexpired]⟩)

/-- A lookup reads the clock at most once. -/
lemma later_live (key : String) : clock.Later (s.live clock key).2.2 := by
  rcases s.live_cases clock key with ⟨-, hlive⟩ | ⟨_, _, -, -, hlive⟩ | ⟨_, _, -, -, hlive⟩
  · rw [hlive]
    exact MonotonicClock.Later.refl clock
  · rw [hlive]
    exact MonotonicClock.later_tick clock
  · rw [hlive]
    exact MonotonicClock.later_tick clock

/-- A lookup that has an answer leaves the store as it is. -/
lemma store_of_getForPacket {packet : TransportPacket} {value : Dump}
    (h : (s.getForPacket clock packet).1 = some value) : (s.getForPacket clock packet).2.1 = s := by
  rw [getForPacket] at h ⊢
  rcases hkey : idempotencyNamespaceKey packet with _ | key
  · rfl
  · rw [hkey] at h
    simp only at h ⊢
    rcases s.live_cases clock key with ⟨-, hlive⟩ | ⟨_, _, -, -, hlive⟩ | ⟨_, _, -, -, hlive⟩
    · rw [hlive]
    · rw [hlive] at h
      cases h
    · rw [hlive]

end IdempotencyStore

/-! ### Splitting a joined key -/

section Split

variable {α : Type*} {sep a k : α} {A K : List α}

/-- The first separator of a list splits it in one way. -/
lemma split_at_separator {x x' y y' : List α} (hx : sep ∉ x) (hx' : sep ∉ x')
    (h : x ++ sep :: y = x' ++ sep :: y') : x = x' ∧ y = y' := by
  induction x generalizing x' with
  | nil =>
    cases x' with
    | nil => exact ⟨rfl, (List.cons.inj h).2⟩
    | cons b x' => exact absurd (by simp [(List.cons.inj h).1]) hx'
  | cons b x ih =>
    cases x' with
    | nil => exact absurd (by simp [(List.cons.inj h).1]) hx
    | cons b' x' =>
      obtain ⟨hb, hrest⟩ := List.cons.inj h
      obtain ⟨hxx, hyy⟩ := ih (fun hm => hx (by simp [hm])) (fun hm => hx' (by simp [hm])) hrest
      exact ⟨by rw [hb, hxx], hyy⟩

/-- Where a separator can stand in a list that begins with a part free of it: right after
that part, or later. -/
lemma separator_after {x d y y' : List α} (hx : sep ∉ x) (h : x ++ sep :: y = d ++ sep :: y') :
    ∃ e, d = x ++ e ∧ sep :: y = e ++ sep :: y' := by
  rcases List.append_eq_append_iff.1 h with ⟨e, hd, he⟩ | ⟨e, hxd, he⟩
  · exact ⟨e, hd, he⟩
  · rcases e with _ | ⟨s, e⟩
    · exact ⟨[], by simpa using hxd.symm, he.symm⟩
    · obtain ⟨hs, -⟩ := List.cons.inj he
      exact absurd (by simp [hxd, hs]) hx

/-- Two joins of three components with labelled separators, the middle components without the
separator, are equal when the components are, or when the first component of one has taken
over all of the other up to some point of its last component. -/
lemma join_eq_join {t t' x x' y y' : List α} (hA : sep ∉ a :: A) (hK : sep ∉ k :: K) (hak : a ≠ k)
    (hx : sep ∉ x) (hx' : sep ∉ x') (hlen : t.length ≤ t'.length)
    (h : t ++ sep :: (a :: A ++ x ++ sep :: (k :: K ++ y)) =
      t' ++ sep :: (a :: A ++ x' ++ sep :: (k :: K ++ y'))) :
    t = t' ∧ x = x' ∧ y = y' ∨
      ∃ r, t' = t ++ sep :: (a :: A ++ x ++ sep :: (k :: K ++ r)) ∧
        y = r ++ sep :: (a :: A ++ x' ++ sep :: (k :: K ++ y')) := by
  have hAx : sep ∉ a :: A ++ x := by simp_all
  have hAx' : sep ∉ a :: A ++ x' := by simp_all
  -- the longer first component goes on after the shorter one
  obtain ⟨d, hd, hrest⟩ : ∃ d, t' = t ++ d ∧ sep :: (a :: A ++ x ++ sep :: (k :: K ++ y)) =
      d ++ sep :: (a :: A ++ x' ++ sep :: (k :: K ++ y')) := by
    rcases List.append_eq_append_iff.1 h with ⟨d, hd, hrest⟩ | ⟨d, hd, hrest⟩
    · exact ⟨d, hd, hrest⟩
    · have hnil : d = [] := by simpa [hd] using hlen
      subst hnil
      exact ⟨[], by simpa using hd.symm, hrest.symm⟩
  rcases d with _ | ⟨s, d⟩
  · left
    obtain ⟨hxx, hyy⟩ := split_at_separator hAx hAx' (List.cons.inj hrest).2
    exact ⟨by simpa using hd.symm, List.append_cancel_left hxx, List.append_cancel_left hyy⟩
  right
  obtain ⟨hs, hrest⟩ := List.cons.inj hrest
  obtain ⟨e, he, htail⟩ := separator_after hAx hrest
  rcases e with _ | ⟨s', e⟩
  · -- the labels differ
    exact absurd (List.cons.inj (List.cons.inj htail).2).1.symm hak
  obtain ⟨hs', htail⟩ := List.cons.inj htail
  rcases List.append_eq_append_iff.1 htail with ⟨r, hr, hy⟩ | ⟨r, hr, hy⟩
  · exact ⟨r, by rw [hd, ← hs, he, ← hs', hr], hy⟩
  · rcases r with _ | ⟨s'', r⟩
    · exact ⟨[], by rw [hd, ← hs, he, ← hs', hr]; simp, hy.symm⟩
    · obtain ⟨hs'', -⟩ := List.cons.inj hy
      exact absurd (by rw [hr, ← hs'']; simp) hK

end Split

/-! ### When the key tells packets apart -/

/-- The first character of an action. -/
def isActionStart (c : Char) : Bool := 'a' ≤ c && c ≤ 'z' || '0' ≤ c && c ≤ '9'

/-- The contract's pattern for actions, `^[a-z0-9][a-z0-9-]{0,63}$`. -/
def ContractAction (action : String) : Prop :=
  ∃ c l, action.toList = c :: l ∧ isActionStart c = true ∧
    (∀ d ∈ l, (isActionStart d || d = '-') = true) ∧ l.length ≤ 63

/-- Equal keys mean equal tenants, actions and idempotency keys. -/
def KeysDistinguish (p q : TransportPacket) : Prop :=
  idempotencyNamespaceKey p = idempotencyNamespaceKey q →
    normalize p.tenant.orgId = normalize q.tenant.orgId ∧
    normalize p.header.action = normalize q.header.action ∧
    p.header.idempotencyKey.map Text.strip = q.header.idempotencyKey.map Text.strip

/-- The tenant of `q` is the tenant of `p`, followed by a separator and the rest of the key
of `p` up to a point from which the key of `p` goes on with the action and the key of `q`. -/
def Resplits (p q : TransportPacket) : Prop :=
  ∃ r : List Char,
    (tenantSegment q).toList = (tenantSegment p).toList ++
      '\x1f' :: ("action:".toList ++ (actionSegment p).toList ++ '\x1f' :: ("key:".toList ++ r)) ∧
    (keySegment p).toList = r ++
      '\x1f' :: ("action:".toList ++ (actionSegment q).toList ++
        '\x1f' :: ("key:".toList ++ (keySegment q).toList))

lemma separator_not_mem_action {p : TransportPacket} (h : ContractAction p.header.action) :
    '\x1f' ∉ (actionSegment p).toList := by
  obtain ⟨c, l, hl, hc, hrest, -⟩ := h
  have hchar : ∀ d ∈ p.header.action.toList, 33 ≤ d.toNat ∧ d.toNat < 128 ∧
      ¬ (65 ≤ d.toNat ∧ d.toNat ≤ 90) := by
    have hstart : ∀ d : Char, (isActionStart d || d = '-') = true → 33 ≤ d.toNat ∧ d.toNat < 128 ∧
        ¬ (65 ≤ d.toNat ∧ d.toNat ≤ 90) := by
      intro d hd
      simp only [isActionStart, Bool.or_eq_true, Bool.and_eq_true, decide_eq_true_eq, Char.le_def,
        UInt32.le_iff_toNat_le] at hd
      rcases hd with (⟨h1, h2⟩ | ⟨h1, h2⟩) | rfl
      · simp at h1 h2
        omega
      · simp at h1 h2
        omega
      · decide
    rw [hl, List.forall_mem_cons]
    exact ⟨hstart c (by rw [hc, Bool.true_or]), fun d hd => hstart d (hrest d hd)⟩
  rw [actionSegment, Text.normalize_of_ascii hchar]
  exact fun hmem => absurd (hchar _ hmem).1 (by decide)

/-- The characters of a key after its first label. -/
lemma namespaceKey_eq_iff {p q : TransportPacket} (hp : idempotencyNamespaceKey p ≠ none)
    (hq : idempotencyNamespaceKey q ≠ none) :
    idempotencyNamespaceKey p = idempotencyNamespaceKey q ↔
      (tenantSegment p).toList ++ '\x1f' :: ("action:".toList ++ (actionSegment p).toList ++
        '\x1f' :: ("key:".toList ++ (keySegment p).toList)) =
      (tenantSegment q).toList ++ '\x1f' :: ("action:".toList ++ (actionSegment q).toList ++
        '\x1f' :: ("key:".toList ++ (keySegment q).toList)) := by
  have hsome : ∀ p : TransportPacket, idempotencyNamespaceKey p ≠ none →
      idempotencyNamespaceKey p = some ("tenant:" ++ tenantSegment p ++ "\x1f" ++
        ("action:" ++ actionSegment p) ++ "\x1f" ++ ("key:" ++ keySegment p)) := by
    intro p hp
    unfold idempotencyNamespaceKey at hp ⊢
    rcases hkey : p.header.idempotencyKey with _ | rawKey
    · simp [hkey] at hp
    · by_cases hblank : rawKey = "" ∨ Text.strip rawKey = ""
      · simp [hkey, hblank] at hp
      · simp only [if_neg hblank]
        rfl
  rw [hsome p hp, hsome q hq, Option.some.injEq, ← String.toList_inj]
  simp [String.toList_append]

lemma Resplits.not_distinguish {p q : TransportPacket} (hp : idempotencyNamespaceKey p ≠ none)
    (hq : idempotencyNamespaceKey q ≠ none) (h : Resplits p q) : ¬ KeysDistinguish p q := by
  obtain ⟨r, htenant, hkey⟩ := h
  intro hdist
  have heq : idempotencyNamespaceKey p = idempotencyNamespaceKey q := by
    rw [namespaceKey_eq_iff hp hq, htenant, hkey]
    simp
  have hsame : (tenantSegment p).toList = (tenantSegment q).toList :=
    congrArg String.toList (hdist heq).1
  have hlen := congrArg List.length (hsame.trans htenant)
  simp at hlen

lemma KeysDistinguish.symm {p q : TransportPacket} (h : KeysDistinguish p q) :
    KeysDistinguish q p := by
  intro heq
  obtain ⟨h1, h2, h3⟩ := h heq.symm
  exact ⟨h1.symm, h2.symm, h3.symm⟩

lemma keySegment_inj {p q : TransportPacket} (hp : idempotencyNamespaceKey p ≠ none)
    (hq : idempotencyNamespaceKey q ≠ none) (h : keySegment p = keySegment q) :
    p.header.idempotencyKey.map Text.strip = q.header.idempotencyKey.map Text.strip := by
  have hsome : ∀ p : TransportPacket, idempotencyNamespaceKey p ≠ none →
      p.header.idempotencyKey.map Text.strip = some (keySegment p) := by
    intro p hp
    unfold idempotencyNamespaceKey at hp
    unfold keySegment
    rcases hkey : p.header.idempotencyKey with _ | rawKey
    · simp [hkey] at hp
    · rfl
  rw [hsome p hp, hsome q hq, h]

lemma not_resplits_of_distinguish {p q : TransportPacket} (hp : idempotencyNamespaceKey p ≠ none)
    (hq : idempotencyNamespaceKey q ≠ none) (h : KeysDistinguish p q) :
    ¬ Resplits p q ∧ ¬ Resplits q p :=
  ⟨fun hr => hr.not_distinguish hp hq h, fun hr => hr.not_distinguish hq hp h.symm⟩

lemma distinguish_of_not_resplits {p q : TransportPacket} (hpa : ContractAction p.header.action)
    (hqa : ContractAction q.header.action) (hp : idempotencyNamespaceKey p ≠ none)
    (hq : idempotencyNamespaceKey q ≠ none)
    (hlen : (tenantSegment p).toList.length ≤ (tenantSegment q).toList.length)
    (hr : ¬ Resplits p q) : KeysDistinguish p q := by
  intro heq
  rw [namespaceKey_eq_iff hp hq] at heq
  have hlabel : "action:".toList = 'a' :: "ction:".toList ∧
      "key:".toList = 'k' :: "ey:".toList := by
    decide
  simp only [Resplits, hlabel.1, hlabel.2] at heq hr
  rcases join_eq_join (by decide) (by decide) (by decide) (separator_not_mem_action hpa)
      (separator_not_mem_action hqa) hlen heq with ⟨ht, ha, hk⟩ | ⟨r, ht, hk⟩
  · exact ⟨String.toList_inj.1 ht, String.toList_inj.1 ha,
      keySegment_inj hp hq (String.toList_inj.1 hk)⟩
  · exact absurd ⟨r, ht, hk⟩ hr

/-- Two packets with keys are told apart by them exactly when neither tenant contains the
separator and the labels in such a way that it takes over a part of the other packet's key. -/
theorem keysDistinguish_iff {p q : TransportPacket} (hpa : ContractAction p.header.action)
    (hqa : ContractAction q.header.action) (hp : idempotencyNamespaceKey p ≠ none)
    (hq : idempotencyNamespaceKey q ≠ none) :
    KeysDistinguish p q ↔ ¬ Resplits p q ∧ ¬ Resplits q p := by
  refine ⟨not_resplits_of_distinguish hp hq, fun ⟨hpq, hqp⟩ => ?_⟩
  rcases Nat.le_total (tenantSegment p).toList.length (tenantSegment q).toList.length with
    hlen | hlen
  · exact distinguish_of_not_resplits hpa hqa hp hq hlen hpq
  · exact (distinguish_of_not_resplits hqa hpa hq hp hlen hqp).symm

/-- The characterisation for two tenants whose names are plain. -/
theorem keysDistinguish_plain :
    KeysDistinguish (clientPacket "acme" "score" (some "order-1"))
        (clientPacket "globex" "score" (some "order-1")) ↔
      ¬ Resplits (clientPacket "acme" "score" (some "order-1"))
        (clientPacket "globex" "score" (some "order-1")) ∧
      ¬ Resplits (clientPacket "globex" "score" (some "order-1"))
        (clientPacket "acme" "score" (some "order-1")) := by
  have haction : ∀ orgId,
      ContractAction (clientPacket orgId "score" (some "order-1")).header.action :=
    fun _ => ⟨'s', "core".toList, (rfl : "score".toList = 's' :: "core".toList), by decide,
      List.all_eq_true.mp rfl, by decide +kernel⟩
  exact keysDistinguish_iff (haction _) (haction _) (by decide +kernel) (by decide +kernel)

/-- A tenant whose name contains the separator shares a key with another tenant. -/
theorem keys_collide :
    ¬ ∀ p q : TransportPacket, ContractAction p.header.action → ContractAction q.header.action →
      idempotencyNamespaceKey p ≠ none → idempotencyNamespaceKey q ≠ none →
      KeysDistinguish p q := by
  intro h
  have hdist := h (clientPacket "a\x1faction:b\x1fkey:c" "x" (some "y"))
    (clientPacket "a" "b" (some "c\x1faction:x\x1fkey:y"))
    ⟨'x', [], rfl, by decide, by simp, Nat.zero_le _⟩
    ⟨'b', [], rfl, by decide, by simp, Nat.zero_le _⟩ (by decide +kernel) (by decide +kernel)
    (by decide +kernel)
  exact absurd hdist.1 (by decide +kernel)

end ConstellationGate
