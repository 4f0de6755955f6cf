import ConstellationGate.Lib.Ranking
import Mathlib.Data.Prod.Lex

/-!
# Priority queues that keep the order of arrival

A queue that removes a least item says nothing about the order of items of one priority.  The usual
remedy is to store triples of a priority, a number that counts the arrivals, and the item.  Triples
are compared component by component, and since no two of them have one number, the items themselves
are never compared (`Comparable`).

`Arrivals` is the invariant of such a queue: its entries, listed in the order in which they arrived,
are numbered upwards.  The entry that is removed has the least priority, and it is the first of that
priority (`Arrivals.get`).  Removing all entries one after the other lists them in the stable sort
of their arrival order (`List.insertionSort_middle`).
-/

namespace List

/-- An element that is less than those before it and at most those after it comes first in the
stable sort, and the others keep their order. -/
lemma insertionSort_middle {α κ : Type*} [LinearOrder κ] (key : α → κ) {before after : List α}
    {a : α} (hbefore : ∀ b ∈ before, key a < key b) (hafter : ∀ b ∈ after, key a ≤ key b) :
    (before ++ a :: after).insertionSort (fun b c => key b ≤ key c) =
      a :: (before ++ after).insertionSort fun b c => key b ≤ key c := by
  induction before with
  | nil => exact insertionSort_cons_of_forall_rel _ hafter
  | cons b before ih =>
    rw [forall_mem_cons] at hbefore
    rw [cons_append, insertionSort_cons, ih hbefore.2, orderedInsert_cons,
      if_neg (not_le.2 hbefore.1), cons_append, insertionSort_cons]

end List

namespace StableQueue

variable {κ ν ε : Type*}

/-- No two entries have one number, so that no two items are compared. -/
def Comparable (entries : List (κ × ℕ × ν)) : Prop :=
  entries.Pairwise fun e e' => e.2.1 ≠ e'.2.1

lemma Comparable.perm {entries entries' : List (κ × ℕ × ν)} (h : Comparable entries)
    (hperm : entries.Perm entries') : Comparable entries' :=
  hperm.pairwise h fun {_ _} hne => hne.symm

variable [LinearOrder κ]

/-- Whether one tuple is less than another: the first components that differ decide.  What becomes
of two items that are compared is left open. -/
def tupleLess (itemLess : ν → ν → Except ε Bool) (e e' : κ × ℕ × ν) : Except ε Bool :=
  if e.1 ≠ e'.1 then .ok (decide (e.1 < e'.1))
  else if e.2.1 ≠ e'.2.1 then .ok (decide (e.2.1 < e'.2.1))
  else itemLess e.2.2 e'.2.2

/-- An entry is not less than another one with a different number. -/
lemma tupleLess_eq_false_iff {itemLess : ν → ν → Except ε Bool} {e e' : κ × ℕ × ν}
    (hne : e.2.1 ≠ e'.2.1) : tupleLess itemLess e e' = .ok false ↔
      e'.1 < e.1 ∨ e'.1 = e.1 ∧ e'.2.1 < e.2.1 := by
  unfold tupleLess
  rcases lt_trichotomy e.1 e'.1 with hlt | heq | hgt
  · simp [hlt, hlt.ne, hlt.ne', hlt.le]
  · simp only [heq, ne_eq, not_true_eq_false, if_false, hne, not_false_eq_true, if_true,
      Except.ok.injEq, decide_eq_false_iff_not, not_lt, lt_self_iff_false, true_and, false_or]
    omega
  · simp [hgt.ne, hgt.ne', hgt, hgt.le]

/-- A queue of tuples from which a least one is removed. -/
structure LeastQueue (itemLess : ν → ν → Except ε Bool) (κ : Type*) [LinearOrder κ] where
  /-- The states of the queue. -/
  Queue : Type*
  new : Queue
  /-- What the queue holds, in any order. -/
  items : Queue → List (κ × ℕ × ν)
  /-- `queue.empty()`. -/
  empty : Queue → Bool
  /-- `queue.put_nowait(entry)`. -/
  putNowait : Queue → κ × ℕ × ν → Except ε Queue
  /-- `queue.get_nowait()`. -/
  getNowait : Queue → Except ε ((κ × ℕ × ν) × Queue)
  items_new : items new = []
  empty_iff : ∀ {q}, empty q = true ↔ items q = []
  putNowait_ok : ∀ {q e}, Comparable (e :: items q) →
    ∃ q', putNowait q e = .ok q' ∧ (items q').Perm (e :: items q)
  getNowait_ok : ∀ {q}, Comparable (items q) → items q ≠ [] →
    ∃ e q', getNowait q = .ok (e, q') ∧ (items q).Perm (e :: items q') ∧
      ∀ e' ∈ items q', tupleLess itemLess e' e = .ok false

variable {itemLess : ν → ν → Except ε Bool} {queue : LeastQueue itemLess κ}

/-- The entries of the queue in the order of their arrival, numbered upwards below `next`. -/
structure Arrivals (queue : LeastQueue itemLess κ) (q : queue.Queue) (next : ℕ)
    (arrivals : List (κ × ℕ × ν)) : Prop where
  held : (queue.items q).Perm arrivals
  increasing : arrivals.Pairwise fun e e' => e.2.1 < e'.2.1
  below : ∀ e ∈ arrivals, e.2.1 < next

namespace Arrivals

variable {q : queue.Queue} {next : ℕ} {arrivals : List (κ × ℕ × ν)}

lemma new (queue : LeastQueue itemLess κ) (next : ℕ) : Arrivals queue queue.new next [] := by
  refine ⟨?_, List.Pairwise.nil, ?_⟩
  · rw [queue.items_new]
  · simp

lemma comparable (h : Arrivals queue q next arrivals) : Comparable (queue.items q) :=
  Comparable.perm (h.increasing.imp fun hlt => hlt.ne) h.held.symm

/-- An entry with the next number goes to the end. -/
lemma put (h : Arrivals queue q next arrivals) (priority : κ) (item : ν) :
    ∃ q', queue.putNowait q (priority, next, item) = .ok q' ∧
      Arrivals queue q' (next + 1) (arrivals ++ [(priority, next, item)]) := by
  have hbelow : ∀ e ∈ queue.items q, e.2.1 < next := fun e he => h.below e (h.held.mem_iff.1 he)
  have hcomparable : Comparable ((priority, next, item) :: queue.items q) :=
    List.pairwise_cons.2 ⟨fun e he => (hbelow e he).ne', h.comparable⟩
  obtain ⟨q', hput, hheld⟩ := queue.putNowait_ok hcomparable
  refine ⟨q', hput, ?_, ?_, ?_⟩
  · exact hheld.trans ((h.held.cons _).trans (List.perm_append_singleton _ _).symm)
  · refine List.pairwise_append.2 ⟨h.increasing, List.pairwise_singleton _ _, ?_⟩
    intro e he e' he'
    obtain rfl := List.mem_singleton.1 he'
    exact h.below e he
  · intro e he
    rcases List.mem_append.1 he with he | he
    · exact (h.below e he).trans (Nat.lt_succ_self next)
    · obtain rfl := List.mem_singleton.1 he
      exact Nat.lt_succ_self next

/-- The entry that is removed has the least priority, and is the first one of that priority. -/
lemma get (h : Arrivals queue q next arrivals) (hne : arrivals ≠ []) :
    ∃ before e after q', arrivals = before ++ e :: after ∧ queue.getNowait q = .ok (e, q') ∧
      (∀ e' ∈ before, e.1 < e'.1) ∧ (∀ e' ∈ after, e.1 ≤ e'.1) ∧
      Arrivals queue q' next (before ++ after) := by
  have hitems : queue.items q ≠ [] := fun hnil => hne (hnil ▸ h.held).nil_eq.symm
  obtain ⟨e, q', hget, hrest, hleast⟩ := queue.getNowait_ok h.comparable hitems
  have hin : e ∈ arrivals := h.held.mem_iff.1 (hrest.mem_iff.2 List.mem_cons_self)
  obtain ⟨before, after, rfl⟩ := List.append_of_mem hin
  obtain ⟨hbefore, hafter, hcross⟩ := List.pairwise_append.1 h.increasing
  obtain ⟨hlater, hafter⟩ := List.pairwise_cons.1 hafter
  have hheld : (queue.items q').Perm (before ++ after) :=
    ((hrest.symm.trans h.held).trans List.perm_middle).cons_inv
  refine ⟨before, e, after, q', rfl, hget, fun e' he' => ?_, fun e' he' => ?_, hheld, ?_, ?_⟩
  · -- those that came before the removed entry have smaller numbers
    have hlt : e'.2.1 < e.2.1 := hcross e' he' e List.mem_cons_self
    have hless := hleast e' (hheld.mem_iff.2 (List.mem_append_left _ he'))
    exact ((tupleLess_eq_false_iff hlt.ne).1 hless).resolve_right fun hand => by omega
  · have hgt : e.2.1 < e'.2.1 := hlater e' he'
    have hless := hleast e' (hheld.mem_iff.2 (List.mem_append_right _ he'))
    rcases (tupleLess_eq_false_iff hgt.ne').1 hless with hlt | ⟨heq, -⟩
    · exact hlt.le
    · exact heq.le
  · exact List.pairwise_append.2 ⟨hbefore, hafter,
      fun e' he' e'' he'' => hcross e' he' e'' (List.mem_cons_of_mem _ he'')⟩
  · intro e' he'
    refine h.below e' ?_
    rcases List.mem_append.1 he' with he' | he'
    · exact List.mem_append_left _ he'
    · exact List.mem_append_right _ (List.mem_cons_of_mem _ he')

end Arrivals

/-! ### A list as a queue -/

/-- The part of a tuple that is compared. -/
def rank (e : κ × ℕ × ν) : κ ×ₗ ℕ := toLex (e.1, e.2.1)

lemma tupleLess_of_rank_le {e e' : κ × ℕ × ν} (hle : rank e ≤ rank e') (hne : e'.2.1 ≠ e.2.1) :
    tupleLess itemLess e' e = .ok false := by
  rw [tupleLess_eq_false_iff hne]
  rcases Prod.Lex.toLex_le_toLex.1 hle with hlt | ⟨heq, hle⟩
  · exact Or.inl hlt
  · exact Or.inr ⟨heq, lt_of_le_of_ne hle hne.symm⟩

/-- A list that is sorted when an item is removed. -/
def listQueue (itemLess : ν → ν → Except ε Bool) (queueEmpty : ε) : LeastQueue itemLess κ where
  Queue := List (κ × ℕ × ν)
  new := []
  items q := q
  empty q := q.isEmpty
  putNowait q e := .ok (e :: q)
  getNowait q :=
    match q.insertionSort fun e e' => rank e ≤ rank e' with
    | [] => .error queueEmpty
    | e :: q' => .ok (e, q')
  items_new := rfl
  empty_iff := List.isEmpty_iff
  putNowait_ok _ := ⟨_, rfl, List.Perm.refl _⟩
  getNowait_ok := by
    intro q hcomparable hne
    have : Std.Total fun e e' : κ × ℕ × ν => rank e ≤ rank e' := ⟨fun e e' => le_total _ _⟩
    have : IsTrans (κ × ℕ × ν) fun e e' => rank e ≤ rank e' := ⟨fun _ _ _ => le_trans⟩
    have hperm := List.perm_insertionSort (fun e e' : κ × ℕ × ν => rank e ≤ rank e') q
    have hsorted := List.pairwise_insertionSort (fun e e' : κ × ℕ × ν => rank e ≤ rank e') q
    have hcomparable := hcomparable.perm hperm.symm
    generalize q.insertionSort (fun e e' => rank e ≤ rank e') = sorted at *
    cases sorted with
    | nil => exact absurd hperm.nil_eq.symm hne
    | cons e q' =>
      refine ⟨e, q', rfl, hperm.symm, fun e' he' => ?_⟩
      exact tupleLess_of_rank_le ((List.pairwise_cons.1 hsorted).1 e' he')
        ((List.pairwise_cons.1 hcomparable).1 e' he').symm

end StableQueue
