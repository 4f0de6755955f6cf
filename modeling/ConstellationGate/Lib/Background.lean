import ConstellationGate.Lib.Coroutine

/-!
# Background tasks

A slot names the task that its owner has started last and has not given up; the tasks that have
ever been started stay in a list.  The slot owns its tasks (`TaskSlot.Owned`) when each live one is
the one that it names, so that at most one is live.  A task may be put into the slot when none is
live, and the slot may be emptied when none is live.

`Co.Bounded n p` says that the program `p` awaits at most `n` times, whatever it is answered: a task
that runs such a program ends when it has been woken as often (`Co.segment_bounded`).
-/

/-! ### Bounded programs -/

namespace Co

variable {S : Signature} {α β : Type}

/-- The program awaits at most `n` times. -/
def Bounded : ℕ → Co S α → Prop
  | n, p => match p with
    | done _ => True
    | get k => ∀ s, (k s).Bounded n
    | put _ k => k.Bounded n
    | emit _ k => k.Bounded n
    | await _ k => 0 < n ∧ ∀ r, (k r).Bounded (n - 1)

lemma Bounded.mono {p : Co S α} {m n : ℕ} (h : p.Bounded m) (hle : m ≤ n) : p.Bounded n := by
  induction p generalizing m n with
  | done r => trivial
  | get k ih => exact fun s => ih s (h s) hle
  | put s k ih => exact ih (m := m) h hle
  | emit e k ih => exact ih (m := m) h hle
  | await q k ih => exact ⟨lt_of_lt_of_le h.1 hle, fun r => ih r (h.2 r) (by omega)⟩

lemma Bounded.handle {p : Co S α} {f : Except S.Error α → Co S β} {m n : ℕ} (hp : p.Bounded m)
    (hf : ∀ r, (f r).Bounded n) : (p.handle f).Bounded (m + n) := by
  induction p generalizing m with
  | done r => exact (hf r).mono (by omega)
  | get k ih => exact fun s => ih s (hp s)
  | put s k ih => exact ih (m := m) hp
  | emit e k ih => exact ih (m := m) hp
  | await q k ih =>
    have hm := hp.1
    refine ⟨by omega, fun r => (ih r (hp.2 r)).mono (by omega)⟩

lemma Bounded.bind {p : Co S α} {f : α → Co S β} {m n : ℕ} (hp : p.Bounded m)
    (hf : ∀ a, (f a).Bounded n) : (p >>= f).Bounded (m + n) := by
  refine hp.handle fun r => ?_
  cases r with
  | ok a => exact hf a
  | error e => trivial

/-- What is left of a bounded program when it awaits. -/
lemma segment_bounded {p : Co S α} {n : ℕ} (h : p.Bounded n) (tid : ℕ) (w : World S)
    {q : S.Request} {k : Except S.Error (S.Reply q) → Co S α} {w' : World S}
    (hseg : p.segment tid w = (.waiting q k, w')) : 0 < n ∧ ∀ r, (k r).Bounded (n - 1) := by
  induction p generalizing w with
  | done r => cases hseg
  | get k ih => exact ih w.state (h w.state) w hseg
  | put s k ih => exact ih h (w.put s) hseg
  | emit e k ih => exact ih h (w.emit tid e) hseg
  | await q' k' _ =>
    cases hseg
    exact h

end Co

/-! ### Slots -/

/-- The task that an owner holds, and all that it has started. -/
structure TaskSlot (T : Type*) where
  /-- The number of the task that is held. -/
  current : Option ℕ
  tasks : List T

namespace TaskSlot

variable {T : Type*} {live : T → Prop} {slot : TaskSlot T}

/-- Each live task is the one that is held. -/
def Owned (live : T → Prop) (slot : TaskSlot T) : Prop :=
  ∀ i t, slot.tasks[i]? = some t → live t → slot.current = some i

/-- No task is live. -/
def Quiet (live : T → Prop) (slot : TaskSlot T) : Prop := ∀ t ∈ slot.tasks, ¬ live t

/-- The task that is held is live. -/
def Occupied (live : T → Prop) (slot : TaskSlot T) : Prop :=
  ∃ i t, slot.current = some i ∧ slot.tasks[i]? = some t ∧ live t

lemma Quiet.owned (h : slot.Quiet live) : slot.Owned live := fun _ t hget hlive =>
  absurd hlive (h t (List.mem_of_getElem? hget))

/-- At most one task is live. -/
lemma Owned.unique (h : slot.Owned live) {i j : ℕ} {t t' : T} (hi : slot.tasks[i]? = some t)
    (hlive : live t) (hj : slot.tasks[j]? = some t') (hlive' : live t') : i = j :=
  Option.some.inj ((h i t hi hlive).symm.trans (h j t' hj hlive'))

/-- A slot is occupied exactly when some task is live. -/
lemma Owned.occupied_iff (h : slot.Owned live) :
    slot.Occupied live ↔ ¬ slot.Quiet live := by
  constructor
  · rintro ⟨i, t, -, hget, hlive⟩ hquiet
    exact hquiet t (List.mem_of_getElem? hget) hlive
  · intro hquiet
    rw [Quiet] at hquiet
    push Not at hquiet
    obtain ⟨t, hmem, hlive⟩ := hquiet
    obtain ⟨i, hget⟩ := List.mem_iff_getElem?.1 hmem
    exact ⟨i, t, h i t hget hlive, hget, hlive⟩

/-- A task is started when none is live. -/
lemma Quiet.owned_start (h : slot.Quiet live) (t : T) :
    TaskSlot.Owned live ⟨some slot.tasks.length, slot.tasks ++ [t]⟩ := by
  intro i t' hget hlive
  rcases lt_trichotomy i slot.tasks.length with hlt | rfl | hgt
  · rw [List.getElem?_append_left hlt] at hget
    exact absurd hlive (h t' (List.mem_of_getElem? hget))
  · rfl
  · rw [List.getElem?_append_right hgt.le] at hget
    have hlen := (List.getElem?_eq_some_iff.1 hget).1
    simp only [List.length_cons, List.length_nil] at hlen
    omega

/-- A task goes on, and is live only if it has been live. -/
lemma Owned.set (h : slot.Owned live) {i : ℕ} {t t' : T} (hget : slot.tasks[i]? = some t)
    (hlive : live t' → live t) : TaskSlot.Owned live ⟨slot.current, slot.tasks.set i t'⟩ := by
  intro j u hj hu
  by_cases hij : i = j
  · subst hij
    rw [List.getElem?_set_self (List.getElem?_eq_some_iff.1 hget).1] at hj
    obtain rfl := Option.some.inj hj
    exact h i t hget (hlive hu)
  · rw [List.getElem?_set_ne hij] at hj
    exact h j u hj hu

lemma Quiet.set (h : slot.Quiet live) {t' : T} (hlive : ¬ live t') (i : ℕ) (c : Option ℕ) :
    TaskSlot.Quiet live ⟨c, slot.tasks.set i t'⟩ := by
  intro t ht
  rcases List.mem_or_eq_of_mem_set ht with ht | rfl
  · exact h t ht
  · exact hlive

/-- A slot whose task has ended has no live task. -/
lemma Owned.quiet (h : slot.Owned live)
    (hended : ∀ i t, slot.current = some i → slot.tasks[i]? = some t → ¬ live t) :
    slot.Quiet live := by
  intro t hmem hlive
  obtain ⟨i, hget⟩ := List.mem_iff_getElem?.1 hmem
  exact hended i t (h i t hget hlive) hget hlive

end TaskSlot
