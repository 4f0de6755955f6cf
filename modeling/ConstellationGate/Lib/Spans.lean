import Mathlib.Algebra.Order.Floor.Ring
import Mathlib.Algebra.Order.Floor.Semiring
import Mathlib.Data.List.Perm.Subperm
import Mathlib.Data.List.TakeWhile
import Mathlib.Tactic.Linarith

/-!
# Counting in spans of time

How many of a list of times lie in a closed span.  There are two bounds: when time is cut into
cells of one length and each cell holds at most `m` of the times, a span of that length holds at
most `2 * m` of them (`inSpan_le_two_mul`); and when the times keep a distance, the span holds as
many as its length allows, and one more (`inSpan_le_of_spaced`).

The times are those of any ordered field.
-/

namespace List

variable {K : Type*} [Field K] [LinearOrder K]

/-- The number of the times that lie in the closed span of length `length` from `start` on. -/
def inSpan (start length : K) (times : List K) : ℕ :=
  times.countP fun t => decide (start ≤ t ∧ t ≤ start + length)

/-- The times keep the distance `gap`, and they are in order. -/
def Spaced (gap : K) (times : List K) : Prop := times.Pairwise fun s t => s + gap ≤ t

lemma inSpan_append (start length : K) (times times' : List K) :
    (times ++ times').inSpan start length =
      times.inSpan start length + times'.inSpan start length := List.countP_append

/-- What satisfies `p` satisfies one of two other predicates. -/
lemma countP_le_add {α : Type*} {p q r : α → Bool} {l : List α}
    (h : ∀ x ∈ l, p x = true → q x = true ∨ r x = true) :
    l.countP p ≤ l.countP q + l.countP r := by
  induction l with
  | nil => exact Nat.zero_le _
  | cons x l ih =>
    have hl := ih fun y hy => h y (List.mem_cons_of_mem _ hy)
    have hx := h x List.mem_cons_self
    rw [List.countP_cons, List.countP_cons, List.countP_cons]
    cases hp : p x with
    | false =>
      rw [if_neg Bool.false_ne_true]
      omega
    | true =>
      rcases hx hp with hq | hr
      · rw [if_pos hq, if_pos rfl]
        omega
      · rw [if_pos hr, if_pos rfl]
        omega

variable [IsStrictOrderedRing K]

/-- Times that keep a distance take up that distance once less than there are times. -/
lemma Spaced.add_mul_le {gap s last : K} {times : List K} (h : Spaced gap (s :: times))
    (hlast : ∀ t ∈ s :: times, t ≤ last) : s + times.length * gap ≤ last := by
  induction times generalizing s with
  | nil =>
    rw [List.length_nil, Nat.cast_zero, zero_mul, add_zero]
    exact hlast s List.mem_cons_self
  | cons t times ih =>
    obtain ⟨hs, htimes⟩ := List.pairwise_cons.1 h
    have hst := hs t List.mem_cons_self
    have hrest := ih htimes fun t' ht' => hlast t' (List.mem_cons_of_mem _ ht')
    rw [List.length_cons, Nat.cast_succ, add_mul, one_mul]
    linarith

variable [FloorRing K]

/-- A span of the length of a cell meets two cells. -/
lemma inSpan_le_two_mul {width : K} (hwidth : 0 < width) {times : List K} {m : ℕ}
    (hcell : ∀ i : ℤ, times.countP (fun t => decide (⌊t / width⌋ = i)) ≤ m) (start : K) :
    times.inSpan start width ≤ 2 * m := by
  have hcover : times.inSpan start width ≤
      times.countP (fun t => decide (⌊t / width⌋ = ⌊start / width⌋)) +
        times.countP (fun t => decide (⌊t / width⌋ = ⌊start / width⌋ + 1)) := by
    refine countP_le_add fun t _ ht => ?_
    obtain ⟨hfrom, hto⟩ := of_decide_eq_true ht
    have hlow : ⌊start / width⌋ ≤ ⌊t / width⌋ :=
      Int.floor_le_floor (div_le_div_of_nonneg_right hfrom hwidth.le)
    -- the end of the span lies in the next cell
    have hhigh : ⌊t / width⌋ ≤ ⌊start / width⌋ + 1 := by
      rw [← Int.floor_add_one, ← div_self hwidth.ne', ← add_div]
      exact Int.floor_le_floor (div_le_div_of_nonneg_right hto hwidth.le)
    rw [decide_eq_true_eq, decide_eq_true_eq]
    omega
  have hfirst := hcell ⌊start / width⌋
  have hsecond := hcell (⌊start / width⌋ + 1)
  omega

/-- Times that keep a distance and lie in a span. -/
lemma Spaced.length_le {gap : K} (hgap : 0 < gap) {times : List K} (h : Spaced gap times)
    (start length : K) (hspan : ∀ t ∈ times, start ≤ t ∧ t ≤ start + length) :
    times.length ≤ ⌊length / gap⌋₊ + 1 := by
  rcases times with - | ⟨s, times⟩
  · exact Nat.zero_le _
  have hstart := (hspan s List.mem_cons_self).1
  have hlast := h.add_mul_le fun t ht => (hspan t ht).2
  refine Nat.succ_le_succ (Nat.le_floor ?_)
  rw [le_div_iff₀ hgap]
  linarith

/-- A span holds as many times that keep a distance as its length allows, and one more. -/
lemma inSpan_le_of_spaced {gap : K} (hgap : 0 < gap) {times : List K} (h : Spaced gap times)
    (start length : K) : times.inSpan start length ≤ ⌊length / gap⌋₊ + 1 := by
  rw [inSpan, List.countP_eq_length_filter]
  refine Spaced.length_le hgap (h.filter _) start length fun t ht => ?_
  exact of_decide_eq_true (List.mem_filter.1 ht).2

/-- Some times come at once, and the later ones keep a distance, from these too. -/
lemma inSpan_le_add {gap : K} (hgap : 0 < gap) {burst later : List K} {m : ℕ} (hm : 1 ≤ m)
    (hburst : burst.length ≤ m) (hlater : Spaced gap later)
    (hapart : ∀ s ∈ burst, ∀ t ∈ later, s + gap ≤ t) (start length : K) :
    (burst ++ later).inSpan start length ≤ m + ⌊length / gap⌋₊ := by
  rw [inSpan_append]
  by_cases hmeets : ∃ s ∈ burst, start ≤ s ∧ s ≤ start + length
  · -- the span holds a time of the burst, so that this time can be put before the later ones
    obtain ⟨s, hs, hspan⟩ := hmeets
    have hcons : Spaced gap (s :: later) := List.pairwise_cons.2 ⟨hapart s hs, hlater⟩
    have hcount := inSpan_le_of_spaced hgap hcons start length
    rw [inSpan, List.countP_cons, if_pos (decide_eq_true hspan)] at hcount
    have hle : burst.inSpan start length ≤ m := List.countP_le_length.trans hburst
    change _ + later.countP _ ≤ _
    omega
  · have hnone : burst.inSpan start length = 0 := by
      refine List.countP_eq_zero.2 fun s hs hspan => hmeets ⟨s, hs, ?_⟩
      exact of_decide_eq_true hspan
    have hcount := inSpan_le_of_spaced hgap hlater start length
    omega

/-- Each time comes with a rank, which increases.  The times of a rank from `n` on keep a distance
from all earlier ones. -/
lemma inSpan_le_of_ranked {gap : K} (hgap : 0 < gap) {n : ℕ} (hn : 1 ≤ n) {marks : List (K × ℕ)}
    (h : marks.Pairwise fun m m' => m.2 < m'.2 ∧ (n ≤ m'.2 → m.1 + gap ≤ m'.1))
    (start length : K) :
    (marks.map Prod.fst).inSpan start length ≤ n + ⌊length / gap⌋₊ := by
  have hsplit := marks.takeWhile_append_dropWhile (p := fun m => decide (m.2 < n))
  have hlow : ∀ m ∈ marks.takeWhile fun m => decide (m.2 < n), m.2 < n := by
    intro m hm
    simpa using List.mem_takeWhile_imp hm
  generalize marks.takeWhile (fun m => decide (m.2 < n)) = burst at hsplit hlow
  have hhead : ∀ m ∈ (marks.dropWhile fun m => decide (m.2 < n)).head?, n ≤ m.2 := by
    intro m hm
    have hnot := List.head?_dropWhile_not (fun m : K × ℕ => decide (m.2 < n)) marks
    rw [Option.mem_def.1 hm] at hnot
    simpa using hnot
  generalize marks.dropWhile (fun m => decide (m.2 < n)) = later at hsplit hhead
  subst hsplit
  obtain ⟨hburst, hlater, hapart⟩ := List.pairwise_append.1 h
  -- the ranks increase, so that they are all at least `n` once one is
  have hhigh : ∀ m ∈ later, n ≤ m.2 := by
    rcases later with - | ⟨m, later⟩
    · intro m hm
      cases hm
    · have hm := hhead m rfl
      intro m' hm'
      rcases List.mem_cons.1 hm' with rfl | hm'
      · exact hm
      · exact hm.trans ((List.pairwise_cons.1 hlater).1 m' hm').1.le
  rw [List.map_append]
  refine inSpan_le_add hgap hn ?_ ?_ ?_ start length
  · have hranks : (burst.map Prod.snd).Nodup :=
      List.pairwise_map.2 (hburst.imp fun hlt => hlt.1.ne)
    have hsub : burst.map Prod.snd ⊆ List.range n := by
      intro r hr
      obtain ⟨m, hm, rfl⟩ := List.mem_map.1 hr
      exact List.mem_range.2 (hlow m hm)
    simpa using (List.Nodup.subperm hranks hsub).length_le
  · exact List.pairwise_map.2 (hlater.imp_of_mem fun _ hm' hlt => hlt.2 (hhigh _ hm'))
  · intro s hs t ht
    obtain ⟨m, hm, rfl⟩ := List.mem_map.1 hs
    obtain ⟨m', hm', rfl⟩ := List.mem_map.1 ht
    exact (hapart m hm m' hm').2 (hhigh m' hm')

end List
