import Mathlib.Algebra.Order.Ring.Nat
import Mathlib.Tactic.NormNum

/-!
# The range of binary64

Where the arithmetic of floats is modelled by rational numbers, what is left of them is that they
are bounded: a result that is too large is no number.
-/

namespace Binary64

/-- Half-way between the largest finite number, `2 ^ 1024 - 2 ^ 971`, and the power of two above it.
With rounding to the nearest number, and to the even one of two, a magnitude is rounded to a finite
number when it is smaller, and only then. -/
@[irreducible] def overflowThreshold : ℕ := 2 ^ 1024 - 2 ^ 970

lemma one_lt_two_pow_sub {m n : ℕ} (hm : m ≠ 0) (hmn : m < n) : 1 < 2 ^ n - 2 ^ m := by
  have hsmall : 1 < 2 ^ m := Nat.one_lt_two_pow hm
  have hlarge : 2 * 2 ^ m ≤ 2 ^ n := by
    rw [← pow_succ']
    exact Nat.pow_le_pow_right two_pos hmn
  omega

lemma one_lt_overflowThreshold : 1 < overflowThreshold := by
  unfold overflowThreshold
  exact one_lt_two_pow_sub (by omega) (by omega)

end Binary64
