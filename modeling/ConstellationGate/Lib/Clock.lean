import Mathlib.Data.Rat.Defs
import Mathlib.Algebra.Order.Ring.Rat
import Mathlib.Order.Monotone.Basic

/-!
# Clocks

A clock is the sequence of the readings that it will give, together with the number of
readings already taken; reading it takes the next one.  Nothing else is known about the
time that passes between two readings, so a statement about every clock is a statement
about every timing.  A monotonic clock is one that never goes back.
-/

/-- A source of time readings. -/
structure Clock where
  /-- The readings, in the order in which they are taken. -/
  reading : ℕ → ℚ
  /-- The number of readings taken so far. -/
  next : ℕ

namespace Clock

/-- What the clock shows when it is read. -/
def now (c : Clock) : ℚ := c.reading c.next

/-- The clock after a reading. -/
def tick (c : Clock) : Clock := { c with next := c.next + 1 }

@[simp] lemma reading_tick (c : Clock) : c.tick.reading = c.reading := rfl

@[simp] lemma next_tick (c : Clock) : c.tick.next = c.next + 1 := rfl

/-- The clock `c'` is `c` after some readings. -/
def Later (c c' : Clock) : Prop := c'.reading = c.reading ∧ c.next ≤ c'.next

lemma Later.refl (c : Clock) : c.Later c := ⟨rfl, le_rfl⟩

lemma Later.trans {c c' c'' : Clock} (h : c.Later c') (h' : c'.Later c'') : c.Later c'' :=
  ⟨h'.1.trans h.1, h.2.trans h'.2⟩

lemma later_tick (c : Clock) : c.Later c.tick := ⟨rfl, Nat.le_succ _⟩

/-- Readings of a clock that never goes back do not decrease. -/
lemma Later.now_le {c c' : Clock} (h : c.Later c') (hmono : Monotone c.reading) :
    c.now ≤ c'.now := by
  rw [now, now, h.1]
  exact hmono h.2

end Clock

/-- A clock that never goes back. -/
structure MonotonicClock extends Clock where
  mono : Monotone reading

namespace MonotonicClock

/-- What the clock shows when it is read. -/
def now (c : MonotonicClock) : ℚ := c.toClock.now

/-- The clock after a reading. -/
def tick (c : MonotonicClock) : MonotonicClock := { c with next := c.next + 1 }

@[simp] lemma toClock_tick (c : MonotonicClock) : c.tick.toClock = c.toClock.tick := rfl

/-- The clock `c'` is `c` after some readings. -/
def Later (c c' : MonotonicClock) : Prop := c.toClock.Later c'.toClock

lemma Later.refl (c : MonotonicClock) : c.Later c := Clock.Later.refl _

lemma Later.trans {c c' c'' : MonotonicClock} (h : c.Later c') (h' : c'.Later c'') : c.Later c'' :=
  Clock.Later.trans h h'

lemma later_tick (c : MonotonicClock) : c.Later c.tick := Clock.later_tick _

/-- What the clock showed when it was read last. -/
def last (c : MonotonicClock) : ℚ := c.reading (c.next - 1)

@[simp] lemma last_tick (c : MonotonicClock) : c.tick.last = c.now := rfl

/-- The clock that always shows `t`. -/
def stopped (t : ℚ) : MonotonicClock := ⟨⟨fun _ => t, 0⟩, monotone_const⟩

/-- Readings do not decrease. -/
lemma Later.now_le {c c' : MonotonicClock} (h : c.Later c') : c.now ≤ c'.now :=
  Clock.Later.now_le h c.mono

end MonotonicClock
