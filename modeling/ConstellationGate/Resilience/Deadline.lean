import ConstellationGate.Errors
import ConstellationGate.Lib.Clock
import ConstellationGate.Transport.Packet
import Mathlib.Data.Rat.Floor
import Mathlib.Tactic.Linarith

/-!
# Deadlines

`resilience/deadline.py` and `resilience/timeout_policy.py`: a packet has one execution
budget, which is turned into one deadline on the monotonic clock.  Every method of a
deadline reads the clock once; here it takes the reading as an argument.
-/

namespace ConstellationGate

/-- One execution budget, in seconds, running since `startedAt`. -/
structure Deadline where
  totalSeconds : ℚ
  startedAt : ℚ
  total_pos : 0 < totalSeconds

namespace Deadline

/-- `Deadline(total_seconds)`. -/
def start (totalSeconds : ℚ) (clock : MonotonicClock) : Except PyError Deadline × MonotonicClock :=
  if h : 0 < totalSeconds then (.ok ⟨totalSeconds, clock.now, h⟩, clock.tick)
  else (.error { cls := .valueError, message := "total_seconds must be > 0" }, clock)

/-- Starting a deadline reads the clock at most once. -/
lemma later_start (totalSeconds : ℚ) (clock : MonotonicClock) :
    clock.Later (start totalSeconds clock).2 := by
  unfold start
  split
  · exact MonotonicClock.later_tick clock
  · exact MonotonicClock.Later.refl clock

/-- A deadline has the budget that it is given. -/
lemma totalSeconds_of_start {totalSeconds : ℚ} {clock : MonotonicClock} {d : Deadline}
    (h : (start totalSeconds clock).1 = .ok d) : d.totalSeconds = totalSeconds := by
  unfold start at h
  split at h
  · rw [← Except.ok.inj h]
  · cases h

variable (d : Deadline) (now : ℚ)

/-- `elapsed_seconds`. -/
def elapsedSeconds : ℚ := max 0 (now - d.startedAt)

/-- `remaining_seconds`: what is left of the budget, never negative. -/
def remainingSeconds : ℚ := max 0 (d.totalSeconds - d.elapsedSeconds now)

/-- `expired`. -/
def expired : Bool := d.remainingSeconds now ≤ 0

/-- `raise_if_expired`. -/
def raiseIfExpired (stage : String) : Except PyError Unit :=
  if d.expired now then
    .error { cls := .deadlineExceeded,
             message := "packet execution deadline exceeded before " ++ stage ++ " (budget "
               ++ Text.fixed3 d.totalSeconds ++ "s)" }
  else .ok ()

/-- `bounded_by`: the remaining budget, capped. -/
def boundedBy (capSeconds : Option ℚ) : Except PyError ℚ :=
  match capSeconds with
  | none => .ok (d.remainingSeconds now)
  | some cap =>
    if cap ≤ 0 then
      .error { cls := .valueError, message := "cap_seconds must be > 0 when provided" }
    else .ok (min (d.remainingSeconds now) cap)

/-- The moment at which the budget is spent. -/
def finish : ℚ := d.startedAt + d.totalSeconds

/-- What fits into the remaining budget ends before the deadline. -/
lemma add_le_finish {x : ℚ} (hx : 0 < x) (h : x ≤ d.remainingSeconds now) :
    now + x ≤ d.finish := by
  have helapsed : now - d.startedAt ≤ d.elapsedSeconds now := le_max_right _ _
  have hleft : x ≤ d.totalSeconds - d.elapsedSeconds now := by
    rcases le_max_iff.1 h with h | h
    · exact absurd h (not_le.2 hx)
    · exact h
  rw [finish]
  linarith

end Deadline

/-- Gate's own wait on one packet: a default budget and a margin that Gate keeps back. -/
structure TimeoutPolicy where
  defaultTimeoutMs : ℕ := 30000
  responseMarginMs : ℕ := 0

namespace TimeoutPolicy

/-- The budget that a packet advertises. -/
def advertisedMs (policy : TimeoutPolicy) (packet : TransportPacket) : ℕ :=
  match packet.header.timeoutMs with
  | some (n + 1) => n + 1
  | _ => policy.defaultTimeoutMs

/-- `budget_ms`: Gate's wait for a packet after the margin. -/
def budgetMs (policy : TimeoutPolicy) (packet : TransportPacket) : ℕ :=
  let advertised := policy.advertisedMs packet
  if policy.responseMarginMs ≠ 0 ∧ advertised > 2 * policy.responseMarginMs then
    advertised - policy.responseMarginMs
  else advertised

/-- `resolve`, in seconds: the budget has to be a float. -/
def resolve (policy : TimeoutPolicy) (packet : TransportPacket) : Except PyError ℚ := do
  let budgetMs ← floatOfNat (policy.budgetMs packet)
  return budgetMs / 1000

/-- `Deadline(timeout_policy.resolve(packet))`. -/
def startDeadline (policy : TimeoutPolicy) (packet : TransportPacket) (clock : MonotonicClock) :
    Except PyError Deadline × MonotonicClock :=
  match policy.resolve packet with
  | .error e => (.error e, clock)
  | .ok timeoutSeconds => Deadline.start timeoutSeconds clock

/-- The budget of a packet makes a deadline: it is positive, and a float. -/
def Budgets (policy : TimeoutPolicy) (packet : TransportPacket) : Prop :=
  0 < policy.budgetMs packet ∧ policy.budgetMs packet < Binary64.overflowThreshold

instance (policy : TimeoutPolicy) (packet : TransportPacket) : Decidable (policy.Budgets packet) :=
  inferInstanceAs (Decidable (_ ∧ _))

variable (policy : TimeoutPolicy) (packet : TransportPacket) (clock : MonotonicClock)

lemma resolve_eq_ok_iff {timeoutSeconds : ℚ} :
    policy.resolve packet = .ok timeoutSeconds ↔
      policy.budgetMs packet < Binary64.overflowThreshold ∧
        policy.budgetMs packet / 1000 = timeoutSeconds := by
  rw [resolve, floatOfNat]
  split
  · rename_i hfits
    simp [bind, Except.bind, pure, Except.pure, hfits]
  · rename_i hover
    simp [bind, Except.bind, hover]

lemma later_startDeadline : clock.Later (policy.startDeadline packet clock).2 := by
  rw [startDeadline]
  split
  · exact MonotonicClock.Later.refl clock
  · exact Deadline.later_start _ clock

/-- The deadline of a packet has its budget. -/
lemma totalSeconds_of_startDeadline {d : Deadline}
    (h : (policy.startDeadline packet clock).1 = .ok d) :
    d.totalSeconds = policy.budgetMs packet / 1000 := by
  rw [startDeadline] at h
  split at h
  · cases h
  · rename_i timeoutSeconds hresolve
    rw [Deadline.totalSeconds_of_start h, ((policy.resolve_eq_ok_iff packet).1 hresolve).2]

/-- A deadline starts for a packet that has a budget, and for no other. -/
lemma exists_startDeadline_iff :
    (∃ d, (policy.startDeadline packet clock).1 = .ok d) ↔ policy.Budgets packet := by
  have hpos : (0 : ℚ) < policy.budgetMs packet / 1000 ↔ 0 < policy.budgetMs packet := by
    rw [div_pos_iff_of_pos_right (by norm_num), Nat.cast_pos]
  rw [startDeadline]
  rcases hresolve : policy.resolve packet with e | timeoutSeconds
  · have hover : ¬ policy.budgetMs packet < Binary64.overflowThreshold := by
      intro hfits
      have hok := (policy.resolve_eq_ok_iff packet).2 ⟨hfits, rfl⟩
      rw [hresolve] at hok
      cases hok
    simp [Budgets, hover]
  · obtain ⟨hfits, rfl⟩ := (policy.resolve_eq_ok_iff packet).1 hresolve
    rw [Budgets, and_iff_left hfits, ← hpos]
    simp only [Deadline.start]
    split
    · rename_i hbudget
      exact ⟨fun _ => hbudget, fun _ => ⟨_, rfl⟩⟩
    · rename_i hbudget
      refine ⟨?_, fun h => absurd h hbudget⟩
      rintro ⟨d, hd⟩
      cases hd

end TimeoutPolicy

end ConstellationGate
