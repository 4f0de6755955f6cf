import ConstellationGate.Lib.Segments

/-!
# Balances

A tariff says what an event earns, what it costs, and what an await costs.  A program is solvent
from a balance on (`Co.Solvent`) when it pays for whatever it does out of the balance and of what it
has earned on the way, whatever it is answered.  Programs that follow each other need the sum of
their balances (`Co.Solvent.handle`).

A task that is started with such a program has at every moment of a run spent no more than it was
started with and has earned (`Pool.Started.solvent`), whatever the other tasks do.
-/

/-- What events earn and cost, and what an await costs. -/
structure Tariff (S : Signature) where
  gain : S.Event → ℕ
  cost : S.Event → ℕ
  wait : ℕ

namespace Tariff

variable {S : Signature} (t : Tariff S)

/-- What a history has earned. -/
def earned (events : List S.Event) : ℕ := (events.map t.gain).sum

/-- What a history has cost. -/
def spent (events : List S.Event) : ℕ := (events.map t.cost).sum

@[simp] lemma earned_nil : t.earned [] = 0 := rfl

@[simp] lemma spent_nil : t.spent [] = 0 := rfl

@[simp] lemma earned_concat (events : List S.Event) (e : S.Event) :
    t.earned (events ++ [e]) = t.earned events + t.gain e := by
  simp [earned]

@[simp] lemma spent_concat (events : List S.Event) (e : S.Event) :
    t.spent (events ++ [e]) = t.spent events + t.cost e := by
  simp [spent]

end Tariff

namespace Co

variable {S : Signature} {α β : Type} {t : Tariff S}

/-- The program pays for what it does, from the balance `n` on. -/
def Solvent (t : Tariff S) : ℕ → Co S α → Prop
  | n, p => match p with
    | done _ => True
    | get k => ∀ s, (k s).Solvent t n
    | put _ k => k.Solvent t n
    | emit e k => t.cost e ≤ n + t.gain e ∧ k.Solvent t (n + t.gain e - t.cost e)
    | await _ k => t.wait ≤ n ∧ ∀ r, (k r).Solvent t (n - t.wait)

lemma Solvent.mono {p : Co S α} {m n : ℕ} (h : p.Solvent t m) (hle : m ≤ n) : p.Solvent t n := by
  induction p generalizing m n with
  | done r => trivial
  | get k ih => exact fun s => ih s (h s) hle
  | put s k ih => exact ih (m := m) h hle
  | emit e k ih =>
    obtain ⟨hcost, hrest⟩ := h
    exact ⟨by omega, ih hrest (by omega)⟩
  | await q k ih =>
    obtain ⟨hwait, hrest⟩ := h
    exact ⟨by omega, fun r => ih r (hrest r) (by omega)⟩

/-- The rule for sequencing: the balances add up. -/
lemma Solvent.handle {p : Co S α} {f : Except S.Error α → Co S β} {m n : ℕ} (hp : p.Solvent t m)
    (hf : ∀ r, (f r).Solvent t n) : (p.handle f).Solvent t (m + n) := by
  induction p generalizing m with
  | done r => exact (hf r).mono (by omega)
  | get k ih => exact fun s => ih s (hp s)
  | put s k ih => exact ih (m := m) hp
  | emit e k ih =>
    obtain ⟨hcost, hrest⟩ := hp
    exact ⟨by omega, (ih hrest).mono (by omega)⟩
  | await q k ih =>
    obtain ⟨hwait, hrest⟩ := hp
    exact ⟨by omega, fun r => (ih r (hrest r)).mono (by omega)⟩

lemma Solvent.bind {p : Co S α} {f : α → Co S β} {m n : ℕ} (hp : p.Solvent t m)
    (hf : ∀ a, (f a).Solvent t n) : (p >>= f).Solvent t (m + n) := by
  refine hp.handle fun r => ?_
  cases r with
  | ok a => exact hf a
  | error e => trivial

/-- The rule for a program that costs nothing. -/
lemma Solvent.bind_free {p : Co S α} {f : α → Co S β} {n : ℕ} (hp : p.Solvent t 0)
    (hf : ∀ a, (f a).Solvent t n) : (p >>= f).Solvent t n :=
  (hp.bind hf).mono (by omega)

/-- The rule for a program after which nothing is paid for. -/
lemma Solvent.bind_last {p : Co S α} {f : α → Co S β} {n : ℕ} (hp : p.Solvent t n)
    (hf : ∀ a, (f a).Solvent t 0) : (p >>= f).Solvent t n := hp.bind hf

lemma Solvent.handle_free {p : Co S α} {f : Except S.Error α → Co S β} {n : ℕ}
    (hp : p.Solvent t n) (hf : ∀ r, (f r).Solvent t 0) : (p.handle f).Solvent t n := hp.handle hf

lemma solvent_done (r : Except S.Error α) (n : ℕ) : (done r : Co S α).Solvent t n := trivial

lemma solvent_call (f : S.State → Except S.Error α × S.State) (n : ℕ) :
    (call f).Solvent t n := fun _ => trivial

lemma solvent_log_free {e : S.Event} (h : t.cost e = 0) : (log e).Solvent t 0 :=
  ⟨by omega, trivial⟩

/-- The rule for an event that is followed by a program. -/
lemma Solvent.log_bind {e : S.Event} {f : Unit → Co S β} {n : ℕ} (hcost : t.cost e ≤ n + t.gain e)
    (hf : (f ()).Solvent t (n + t.gain e - t.cost e)) : (log e >>= f).Solvent t n := ⟨hcost, hf⟩

lemma solvent_request (q : S.Request) : (request q).Solvent t t.wait := ⟨le_rfl, fun _ => trivial⟩

end Co

/-! ### Tasks of a pool -/

section Pool

variable {S : Signature} {α : Type} {t : Tariff S}

/-- What is left of a task is solvent. -/
def Status.Solvent (t : Tariff S) (n : ℕ) : Status S α → Prop
  | .finished _ => True
  | .waiting _ k => t.wait ≤ n ∧ ∀ r, (k r).Solvent t (n - t.wait)

/-- A segment pays for its events: what it has spent and what is left is what it has had and has
earned. -/
lemma Co.segment_solvent {p : Co S α} {tid n paid had : ℕ} {w : World S} (hp : p.Solvent t n)
    (hbalance : t.spent (w.eventsOf tid) + paid + n = had + t.earned (w.eventsOf tid)) :
    ∃ rest, (p.segment tid w).1.Solvent t rest ∧
      t.spent ((p.segment tid w).2.eventsOf tid) + paid + rest =
        had + t.earned ((p.segment tid w).2.eventsOf tid) := by
  induction p generalizing n w with
  | done r => exact ⟨n, trivial, hbalance⟩
  | get k ih => exact ih w.state (hp w.state) hbalance
  | put s k ih => exact ih (w := w.put s) hp hbalance
  | emit e k ih =>
    obtain ⟨hcost, hrest⟩ := hp
    refine ih (w := w.emit tid e) hrest ?_
    rw [World.eventsOf_emit, Tariff.spent_concat, Tariff.earned_concat]
    omega
  | await q k _ => exact ⟨n, hp, hbalance⟩

/-- How often a task has run. -/
def Pool.turnsOf (tid : ℕ) (c : Pool S α) (ms : List (Move S α)) : ℕ :=
  (c.segmentsOf tid ms).length

/-- A task has paid for what it has done, and can pay for what it may do; its first turn is free. -/
def Pool.TaskSolvent (t : Tariff S) (had tid : ℕ) (s : S.State) (ms : List (Move S α)) : Prop :=
  ∃ status rest, ((Pool.init s).run ms).tasks[tid]? = some status ∧ status.Solvent t rest ∧
    t.spent (((Pool.init s).run ms).world.eventsOf tid) +
        t.wait * (Pool.init s).turnsOf tid ms + rest =
      had + t.wait + t.earned (((Pool.init s).run ms).world.eventsOf tid)

namespace Pool

/-- One move. -/
lemma TaskSolvent.step {had tid : ℕ} {s : S.State} {ms : List (Move S α)}
    (h : TaskSolvent t had tid s ms) (m : Move S α) : TaskSolvent t had tid s (ms ++ [m]) := by
  obtain ⟨status, rest, hget, hsolvent, hbalance⟩ := h
  have hlt : tid < ((init s).run ms).tasks.length := (List.getElem?_eq_some_iff.1 hget).1
  rw [TaskSolvent, run_concat]
  rcases hruns : ((init s).run ms).runs tid m with _ | _
  · obtain ⟨htask, hevents⟩ := step_of_not_runs hlt hruns
    refine ⟨status, rest, htask.trans hget, hsolvent, ?_⟩
    rw [turnsOf, segmentsOf_concat_of_not_runs hruns, World.eventsOf, hevents]
    exact hbalance
  have hturns : (init s).turnsOf tid (ms ++ [m]) = (init s).turnsOf tid ms + 1 := by
    rw [turnsOf, segmentsOf_concat_of_runs hruns, List.length_append]
    rfl
  cases m with
  | spawn p => exact absurd (of_decide_eq_true hruns) hlt.ne'
  | environ f => cases hruns
  | resume i reply =>
    obtain ⟨rfl, hwaits⟩ := of_decide_eq_true hruns
    obtain ⟨q, k, hi⟩ := isSome_request_iff.1 hwaits
    obtain rfl := Option.some.inj (hget.symm.trans hi)
    obtain ⟨hwait, hk⟩ := hsolvent
    have hpaid : t.spent (((init s).run ms).world.eventsOf i) +
        t.wait * ((init s).turnsOf i ms + 1) + (rest - t.wait) =
          had + t.wait + t.earned (((init s).run ms).world.eventsOf i) := by
      rw [Nat.mul_add, Nat.mul_one]
      omega
    obtain ⟨rest', hstatus, hbalance'⟩ := Co.segment_solvent (hk (reply q)) hpaid
    rw [hturns]
    simp only [Pool.step, hi]
    exact ⟨_, rest', List.getElem?_set_self hlt, hstatus, hbalance'⟩

/-- A task that is started with a program that is solvent from a balance on has at every moment
spent no more than the balance and what it has earned. -/
lemma Started.solvent {s : S.State} {ms : List (Move S α)} {tid : ℕ} {pre : List (Move S α)}
    {p : Co S α} {had : ℕ} (h : Started s ms tid pre p) (hp : p.Solvent t had) :
    TaskSolvent t had tid s ms := by
  obtain ⟨ms', rfl⟩ := h.moves
  obtain rfl := h.length
  have hstart : TaskSolvent t had ((init s).run pre).tasks.length s (pre ++ [.spawn p]) := by
    have hnil : ((init s).run pre).world.eventsOf ((init s).run pre).tasks.length = [] :=
      List.eq_nil_iff_forall_not_mem.2 fun _ he =>
        absurd (lt_length_of_mem_runLog (mem_eventsIn.1 he)) (lt_irrefl _)
    have hbalance : t.spent (((init s).run pre).world.eventsOf ((init s).run pre).tasks.length) +
        t.wait + had =
          had + t.wait +
            t.earned (((init s).run pre).world.eventsOf ((init s).run pre).tasks.length) := by
      rw [hnil, Tariff.spent_nil, Tariff.earned_nil]
      omega
    obtain ⟨rest, hstatus, hbalance'⟩ := Co.segment_solvent hp hbalance
    have hruns : ((init s).run pre).runs ((init s).run pre).tasks.length (.spawn p) = true :=
      decide_eq_true rfl
    have hturns : (init s).turnsOf ((init s).run pre).tasks.length (pre ++ [.spawn p]) = 1 := by
      rw [turnsOf, segmentsOf_concat_of_runs hruns, segmentsOf_eq_nil le_rfl]
      rfl
    rw [TaskSolvent, run_concat, hturns, Nat.mul_one]
    exact ⟨_, rest, List.getElem?_concat_length, hstatus, hbalance'⟩
  induction ms' using List.reverseRecOn with
  | nil =>
    rw [List.append_nil]
    exact hstart
  | append_singleton ms' m ih =>
    rw [← List.append_assoc]
    exact (ih ⟨List.prefix_append _ _, rfl⟩).step m

/-- What a task spends is covered. -/
lemma TaskSolvent.spent_le {had tid : ℕ} {s : S.State} {ms : List (Move S α)}
    (h : TaskSolvent t had tid s ms) :
    t.spent (((init s).run ms).world.eventsOf tid) + t.wait * (init s).turnsOf tid ms ≤
      had + t.wait + t.earned (((init s).run ms).world.eventsOf tid) := by
  obtain ⟨status, rest, -, -, hbalance⟩ := h
  omega

/-- A task that has no balance left for an await has ended. -/
lemma TaskSolvent.finished {had tid : ℕ} {s : S.State} {ms : List (Move S α)}
    (h : TaskSolvent t had tid s ms)
    (hnothing : had + t.earned (((init s).run ms).world.eventsOf tid) <
      t.spent (((init s).run ms).world.eventsOf tid) + t.wait * (init s).turnsOf tid ms) :
    ∃ r, ((init s).run ms).tasks[tid]? = some (.finished r) := by
  obtain ⟨status, rest, hget, hsolvent, hbalance⟩ := h
  cases status with
  | finished r => exact ⟨r, hget⟩
  | waiting q k =>
    have hwait := hsolvent.1
    omega

end Pool

end Pool
