import ConstellationGate.Errors
import ConstellationGate.Lib.Clock
import ConstellationGate.Lib.Dict

/-!
# Replays

`resilience/replay_guard.py` rejects a packet whose id was accepted within a window of
time; `resilience/replay_safety.py` says how often Gate itself may attempt an action.
-/

namespace ConstellationGate

/-! ### Replay guard -/

/-- The packet ids accepted within the window, each with the time of its acceptance. -/
structure ReplayGuard where
  windowSeconds : ℕ
  seen : Dict String ℚ
  windowSeconds_pos : 0 < windowSeconds

namespace ReplayGuard

variable (guard : ReplayGuard)

/-- `_expire`: forget the ids that are older than the window. -/
def expire (now : ℚ) : ReplayGuard :=
  { guard with
    seen := guard.seen.filter fun _ seenAt => !decide (guard.windowSeconds < now - seenAt) }

/-- `check_and_record`. -/
def checkAndRecord (packetId : String) (now : ℚ) : Except PyError Unit × ReplayGuard :=
  let guard := guard.expire now
  let accepted := (.ok (), { guard with seen := guard.seen.set packetId now })
  match guard.seen.get? packetId with
  | none => accepted
  | some seenAt =>
    if now - seenAt ≤ guard.windowSeconds then
      (.error { cls := .valueError, message := "replay detected" }, guard)
    else accepted

end ReplayGuard

/-! ### Replay safety -/

/-- The actions whose retries belong to the worker. -/
def workerOwnedRetryActions : List String :=
  ["converge", "enrich", "enrich-and-sync", "graph-inference-result", "match", "sync", "outcomes"]

/-- The attempts for an action without an explicit contract. -/
def defaultMaxAttempts : ℕ := 1

/-- The attempts for a declared replay-safe action that carries an idempotency key. -/
def replaySafeMaxAttempts : ℕ := 3

/-- `is_declared_replay_safe`, for a set of declared actions. -/
def isDeclaredReplaySafe (replaySafeActions : List String) (action : String) : Bool :=
  normalize action ∈ replaySafeActions

/-- `max_attempts_for`: one attempt, unless the action is declared and the packet has a key. -/
def maxAttemptsFor (replaySafeActions : List String) (action : String) (hasIdempotencyKey : Bool) :
    ℕ :=
  if !isDeclaredReplaySafe replaySafeActions action then defaultMaxAttempts
  else if !hasIdempotencyKey then defaultMaxAttempts
  else replaySafeMaxAttempts

lemma one_le_maxAttemptsFor (replaySafeActions : List String) (action : String)
    (hasIdempotencyKey : Bool) :
    1 ≤ maxAttemptsFor replaySafeActions action hasIdempotencyKey := by
  unfold maxAttemptsFor
  split
  · exact le_rfl
  · split
    · exact le_rfl
    · decide

end ConstellationGate
