import ConstellationGate.Services.StepRetries

/-!
# The identity of a packet that is attempted again

A packet is attempted more than once only when it carries an idempotency key, so that its result
can be recognised.  The attempt budget takes any string but the empty one for a key, while the
store takes a string of blanks for none: a packet with such a key is attempted again, and nothing
is stored for it (`replayIdentity_iff`).
-/

namespace ConstellationGate

variable {Dump : Type} {cfg : GateConfig Dump} {packet : TransportPacket}

/-- The packet has a key, of which nothing is left without its blanks. -/
def HasBlankKey (packet : TransportPacket) : Prop :=
  ∃ key, packet.header.idempotencyKey = some key ∧ key ≠ "" ∧ Text.strip key = ""

/-- What the store takes for no key. -/
lemma idempotencyNamespaceKey_eq_none_iff : idempotencyNamespaceKey packet = none ↔
    ∀ key, packet.header.idempotencyKey = some key → Text.strip key = "" := by
  rw [idempotencyNamespaceKey]
  rcases packet.header.idempotencyKey with - | rawKey
  · simp
  · by_cases hblank : Text.strip rawKey = ""
    · simp [hblank]
    · have hne : rawKey ≠ "" := by
        rintro rfl
        exact hblank (by decide +kernel)
      simp [hblank, hne]

/-- When a packet has more than one attempt. -/
lemma one_lt_maxAttempts_iff : 1 < (retryPolicyFor cfg packet).maxAttempts ↔
    isDeclaredReplaySafe cfg.replaySafeActions packet.header.action = true ∧
      (∃ key, packet.header.idempotencyKey = some key ∧ key ≠ "") ∧
      1 < cfg.retryPolicy.maxAttempts := by
  change 1 < min _ cfg.retryPolicy.maxAttempts ↔ _
  rw [lt_min_iff, maxAttemptsFor]
  cases isDeclaredReplaySafe cfg.replaySafeActions packet.header.action with
  | false => simp [defaultMaxAttempts]
  | true =>
    rcases packet.header.idempotencyKey with - | key
    · simp [defaultMaxAttempts]
    · by_cases hkey : key = ""
      · simp [hkey, defaultMaxAttempts]
      · simp [hkey, replaySafeMaxAttempts]

/-- A packet that may be attempted more than once has an identity in the store, if and only if its
key is not made of blanks, or its action is not declared safe for a replay, or the operator allows
one attempt. -/
theorem replayIdentity_iff (cfg : GateConfig Dump) (packet : TransportPacket) :
    (1 < (retryPolicyFor cfg packet).maxAttempts → idempotencyNamespaceKey packet ≠ none) ↔
      ¬ HasBlankKey packet ∨
        isDeclaredReplaySafe cfg.replaySafeActions packet.header.action = false ∨
        cfg.retryPolicy.maxAttempts = 1 := by
  have hone := cfg.retryPolicy.one_le_maxAttempts
  rw [one_lt_maxAttempts_iff, ne_eq, idempotencyNamespaceKey_eq_none_iff]
  constructor
  · intro h
    by_contra hnot
    simp only [not_or, not_not, Bool.not_eq_false] at hnot
    obtain ⟨⟨key, hkey, hne, hblank⟩, hsafe, hceiling⟩ := hnot
    refine h ⟨hsafe, ⟨key, hkey, hne⟩, by omega⟩ fun key' hkey' => ?_
    rw [Option.some.inj (hkey'.symm.trans hkey)]
    exact hblank
  · rintro h ⟨hsafe, ⟨key, hkey, hne⟩, hceiling⟩ hnone
    rcases h with hnot | hundeclared | hsingle
    · exact hnot ⟨key, hkey, hne, hnone key hkey⟩
    · rw [hsafe] at hundeclared
      cases hundeclared
    · omega

/-- A blank for a key: three attempts, and no identity. -/
theorem blankKey_attempted_again :
    ¬ ∀ (cfg : GateConfig TransportPacket) (packet : TransportPacket),
      1 < (retryPolicyFor cfg packet).maxAttempts → idempotencyNamespaceKey packet ≠ none := by
  intro h
  exact h replayedConfig (clientPacket "acme" "pipeline" (some " ")) (by decide +kernel)
    (by decide +kernel)

end ConstellationGate
