import ConstellationGate.Lib.Coroutine
import Mathlib.Data.List.Induction
import Mathlib.Logic.Relation

/-!
# The footprint of a coroutine

`Co.Within E R p s` says that every event that the program `p` can emit satisfies `E`, and that
every write that it can make from the state `s` on, and after each await from any state, is a
step of `R`.  It follows the syntax of programs and needs no invariant, so that a fact that a
task establishes once, when it starts, is a fact about everything that it does later
(`Pool.TaskWithin.step`).
-/

namespace Co

variable {S : Signature} {α β : Type} {E : S.Event → Prop} {R : S.State → S.State → Prop}

/-- From the state `s` on, the program emits only events in `E` and writes only along `R`. -/
def Within (E : S.Event → Prop) (R : S.State → S.State → Prop) : Co S α → S.State → Prop
  | done _, _ => True
  | get k, s => (k s).Within E R s
  | put s' k, s => R s s' ∧ k.Within E R s'
  | emit e k, s => E e ∧ k.Within E R s
  | await q k, _ => ∀ (r : Except S.Error (S.Reply q)) s, (k r).Within E R s

lemma within_handle {p : Co S α} {f : Except S.Error α → Co S β} {s : S.State}
    (hp : p.Within E R s) (hf : ∀ r s, (f r).Within E R s) : (p.handle f).Within E R s := by
  induction p generalizing s with
  | done r => exact hf r s
  | get k ih => exact ih s hp
  | put s' k ih => exact ⟨hp.1, ih hp.2⟩
  | emit e k ih => exact ⟨hp.1, ih hp.2⟩
  | await q k ih => exact fun r s => ih r (hp r s)

lemma within_bind {p : Co S α} {f : α → Co S β} {s : S.State} (hp : p.Within E R s)
    (hf : ∀ a s, (f a).Within E R s) : (p >>= f).Within E R s := by
  refine within_handle hp fun r s => ?_
  cases r with
  | ok a => exact hf a s
  | error e => trivial

lemma within_attempt {p : Co S α} {s : S.State} (hp : p.Within E R s) : p.attempt.Within E R s :=
  within_handle hp fun _ _ => trivial

@[simp] lemma within_done (r : Except S.Error α) (s : S.State) :
    (done r : Co S α).Within E R s := trivial

@[simp] lemma within_pure (a : α) (s : S.State) : (pure a : Co S α).Within E R s := trivial

@[simp] lemma within_raise (e : S.Error) (s : S.State) : (raise e : Co S α).Within E R s := trivial

lemma within_call {f : S.State → Except S.Error α × S.State} {s : S.State} (hf : R s (f s).2) :
    (call f).Within E R s := ⟨hf, trivial⟩

@[simp] lemma within_read (f : S.State → α) (s : S.State) : (read f).Within E R s := trivial

@[simp] lemma within_request (q : S.Request) (s : S.State) : (request q).Within E R s :=
  fun _ _ => trivial

@[simp] lemma within_log (e : S.Event) (s : S.State) : (log e).Within E R s ↔ E e := by
  simp [log, Within]

/-- A footprint may be enlarged. -/
lemma Within.mono {E' : S.Event → Prop} {R' : S.State → S.State → Prop} {p : Co S α} {s : S.State}
    (h : p.Within E R s) (hE : ∀ e, E e → E' e) (hR : ∀ s s', R s s' → R' s s') :
    p.Within E' R' s := by
  induction p generalizing s with
  | done r => trivial
  | get k ih => exact ih s h
  | put s' k ih => exact ⟨hR _ _ h.1, ih h.2⟩
  | emit e k ih => exact ⟨hE e h.1, ih h.2⟩
  | await q k ih => exact fun r s => ih r (h r s)

/-- Every program has some footprint. -/
lemma within_true (p : Co S α) (s : S.State) : p.Within (fun _ => True) (fun _ _ => True) s := by
  induction p generalizing s with
  | done r => trivial
  | get k ih => exact ih s s
  | put s' k ih => exact ⟨trivial, ih s'⟩
  | emit e k ih => exact ⟨trivial, ih s⟩
  | await q k ih => exact fun r s => ih r s

end Co

/-- What a suspended task will still do is in the footprint. -/
def Status.Within {S : Signature} {α : Type} (E : S.Event → Prop)
    (R : S.State → S.State → Prop) : Status S α → Prop
  | .finished _ => True
  | .waiting q k => ∀ (r : Except S.Error (S.Reply q)) s, (k r).Within E R s

lemma Status.Within.mono {S : Signature} {α : Type} {E E' : S.Event → Prop}
    {R R' : S.State → S.State → Prop} {t : Status S α} (h : t.Within E R) (hE : ∀ e, E e → E' e)
    (hR : ∀ s s', R s s' → R' s s') : t.Within E' R' := by
  cases t with
  | finished r => trivial
  | waiting q k => exact fun r s => (h r s).mono hE hR

/-- What a segment of a program does is in its footprint, and so is what it leaves. -/
structure SegmentWithin {S : Signature} {α : Type} (E : S.Event → Prop)
    (R : S.State → S.State → Prop) (tid : ℕ) (w : World S) (r : Status S α × World S) : Prop where
  status : r.1.Within E R
  log : ∃ es : List S.Event, r.2.log = w.log ++ es.map (Prod.mk tid) ∧ ∀ e ∈ es, E e
  state : Relation.ReflTransGen R w.state r.2.state

lemma Co.segment_within {S : Signature} {α : Type} {E : S.Event → Prop}
    {R : S.State → S.State → Prop} {p : Co S α} {w : World S} (h : p.Within E R w.state) (tid : ℕ) :
    SegmentWithin E R tid w (p.segment tid w) := by
  induction p generalizing w with
  | done r => exact ⟨trivial, ⟨[], by simp [segment], by simp⟩, .refl⟩
  | get k ih => exact ih w.state h
  | put s k ih =>
    have hrest := ih (w := w.put s) h.2
    exact ⟨hrest.status, hrest.log, .head h.1 hrest.state⟩
  | emit e k ih =>
    have hrest := ih (w := w.emit tid e) h.2
    obtain ⟨es, hlog, hes⟩ := hrest.log
    refine ⟨hrest.status, ⟨e :: es, ?_, ?_⟩, hrest.state⟩
    · rw [segment, hlog]
      simp
    · intro e' he'
      rcases List.mem_cons.1 he' with rfl | he'
      · exact h.1
      · exact hes e' he'
  | await q k _ => exact ⟨h, ⟨[], by simp [segment], by simp⟩, .refl⟩

/-- A segment only adds events of its own task. -/
lemma Co.segment_log {S : Signature} {α : Type} (p : Co S α) (tid : ℕ) (w : World S) :
    ∃ es : List S.Event, (p.segment tid w).2.log = w.log ++ es.map (Prod.mk tid) := by
  obtain ⟨es, hlog, -⟩ := (Co.segment_within (p.within_true w.state) tid).log
  exact ⟨es, hlog⟩

namespace Pool

variable {S : Signature} {α : Type} {E : S.Event → Prop} {R : S.State → S.State → Prop}

/-- What a task has recorded satisfies `E`, and what it will still do is in the footprint. -/
def TaskWithin (E : S.Event → Prop) (R : S.State → S.State → Prop) (tid : ℕ) (c : Pool S α) :
    Prop :=
  ∃ t, c.tasks[tid]? = some t ∧ t.Within E R ∧ ∀ e, (tid, e) ∈ c.world.log → E e

lemma mem_log_of_append {tid tid' : ℕ} {log : List (ℕ × S.Event)} {es : List S.Event} {e : S.Event}
    (h : (tid, e) ∈ log ++ es.map (Prod.mk tid')) : (tid, e) ∈ log ∨ tid = tid' ∧ e ∈ es := by
  rcases List.mem_append.1 h with h | h
  · exact Or.inl h
  · obtain ⟨e', he', heq⟩ := List.mem_map.1 h
    obtain ⟨rfl, rfl⟩ := Prod.mk.inj heq
    exact Or.inr ⟨rfl, he'⟩

/-- A task that is started keeps to the footprint of its first segment. -/
lemma taskWithin_spawn {c : Pool S α} {p : Co S α}
    (hstatus : (p.segment c.tasks.length c.world).1.Within E R)
    (hlog : ∃ es : List S.Event, (p.segment c.tasks.length c.world).2.log =
      c.world.log ++ es.map (Prod.mk c.tasks.length) ∧ ∀ e ∈ es, E e)
    (hfresh : ∀ e, (c.tasks.length, e) ∉ c.world.log) :
    (c.step (.spawn p)).TaskWithin E R c.tasks.length := by
  obtain ⟨es, hlog, hes⟩ := hlog
  refine ⟨(p.segment c.tasks.length c.world).1, by simp [step], hstatus, fun e he => ?_⟩
  simp only [step, hlog] at he
  rcases mem_log_of_append he with he | ⟨-, he⟩
  · exact absurd he (hfresh e)
  · exact hes e he

/-- One move: a task keeps to its footprint. -/
lemma TaskWithin.step {tid : ℕ} {c : Pool S α} (h : c.TaskWithin E R tid) (m : Move S α) :
    (c.step m).TaskWithin E R tid := by
  obtain ⟨t, hget, hstatus, hlog⟩ := h
  have hlt : tid < c.tasks.length := (List.getElem?_eq_some_iff.1 hget).1
  cases m with
  | spawn p =>
    obtain ⟨es, hes⟩ := p.segment_log c.tasks.length c.world
    refine ⟨t, by simp [Pool.step, List.getElem?_append_left hlt, hget], hstatus, fun e he => ?_⟩
    simp only [Pool.step, hes] at he
    rcases mem_log_of_append he with he | ⟨heq, -⟩
    · exact hlog e he
    · omega
  | environ f => exact ⟨t, hget, hstatus, hlog⟩
  | resume i reply =>
    rcases hi : c.tasks[i]? with _ | (r | ⟨q, k⟩)
    · simp only [Pool.step, hi]
      exact ⟨t, hget, hstatus, hlog⟩
    · simp only [Pool.step, hi]
      exact ⟨t, hget, hstatus, hlog⟩
    · simp only [Pool.step, hi]
      by_cases heq : i = tid
      · -- the task itself goes on
        subst heq
        obtain rfl := Option.some.inj (hget.symm.trans hi)
        have hseg := Co.segment_within (hstatus (reply q) c.world.state) i
        obtain ⟨es, hes, hE⟩ := hseg.log
        refine ⟨_, List.getElem?_set_self hlt, hseg.status, fun e he => ?_⟩
        simp only [hes] at he
        rcases mem_log_of_append he with he | ⟨-, he⟩
        · exact hlog e he
        · exact hE e he
      · -- another task goes on, and records under its own number
        obtain ⟨es, hes⟩ := (k (reply q)).segment_log i c.world
        refine ⟨t, by rw [List.getElem?_set_ne heq, hget], hstatus, fun e he => ?_⟩
        simp only [hes] at he
        rcases mem_log_of_append he with he | ⟨htid, -⟩
        · exact hlog e he
        · exact absurd htid.symm heq

/-- Only tasks that have been started have recorded something. -/
lemma lt_length_of_mem_log {c : Pool S α}
    (h : ∀ tid e, (tid, e) ∈ c.world.log → tid < c.tasks.length) (m : Move S α) :
    ∀ tid e, (tid, e) ∈ (c.step m).world.log → tid < (c.step m).tasks.length := by
  intro tid e he
  cases m with
  | spawn p =>
    obtain ⟨es, hes⟩ := p.segment_log c.tasks.length c.world
    simp only [Pool.step, hes, List.length_append, List.length_singleton] at he ⊢
    rcases mem_log_of_append he with he | ⟨rfl, -⟩
    · exact (h tid e he).trans (Nat.lt_succ_self _)
    · exact Nat.lt_succ_self _
  | environ f => exact h tid e he
  | resume i reply =>
    rcases hi : c.tasks[i]? with _ | (r | ⟨q, k⟩)
    · simp only [Pool.step, hi] at he ⊢
      exact h tid e he
    · simp only [Pool.step, hi] at he ⊢
      exact h tid e he
    · obtain ⟨es, hes⟩ := (k (reply q)).segment_log i c.world
      simp only [Pool.step, hi, hes, List.length_set] at he ⊢
      rcases mem_log_of_append he with he | ⟨rfl, -⟩
      · exact h tid e he
      · exact (List.getElem?_eq_some_iff.1 hi).1

/-- When what all tasks will still do is in the footprint, so is a resumption of one of them. -/
lemma resume_within {c : Pool S α} (h : ∀ t ∈ c.tasks, t.Within E R) (i : ℕ)
    (reply : ∀ q : S.Request, Except S.Error (S.Reply q)) :
    (∀ t ∈ (c.step (.resume i reply)).tasks, t.Within E R) ∧
      Relation.ReflTransGen R c.world.state (c.step (.resume i reply)).world.state := by
  rcases hi : c.tasks[i]? with _ | (r | ⟨q, k⟩)
  · simp only [Pool.step, hi]
    exact ⟨h, .refl⟩
  · simp only [Pool.step, hi]
    exact ⟨h, .refl⟩
  · simp only [Pool.step, hi]
    have hseg := Co.segment_within (h _ (List.mem_of_getElem? hi) (reply q) c.world.state) i
    refine ⟨fun t ht => ?_, hseg.state⟩
    rcases List.mem_or_eq_of_mem_set ht with ht | rfl
    · exact h t ht
    · exact hseg.status

/-! ### Runs -/

@[simp] lemma run_append (c : Pool S α) (ms ms' : List (Move S α)) :
    c.run (ms ++ ms') = (c.run ms).run ms' := List.foldl_append

lemma run_concat (c : Pool S α) (ms : List (Move S α)) (m : Move S α) :
    c.run (ms ++ [m]) = (c.run ms).step m := by
  rw [run_append, run_cons, run_nil]

lemma length_tasks_spawn (c : Pool S α) (p : Co S α) :
    (c.step (.spawn p)).tasks.length = c.tasks.length + 1 := by
  simp [step]

lemma length_tasks_resume (c : Pool S α) (i : ℕ)
    (reply : ∀ q : S.Request, Except S.Error (S.Reply q)) :
    (c.step (.resume i reply)).tasks.length = c.tasks.length := by
  rw [step]
  split
  · exact List.length_set
  · rfl

lemma length_tasks_le_run (c : Pool S α) (ms : List (Move S α)) :
    c.tasks.length ≤ (c.run ms).tasks.length := by
  induction ms generalizing c with
  | nil => exact le_rfl
  | cons m ms ih =>
    refine le_trans ?_ (ih (c.step m))
    cases m with
    | spawn p => simp [length_tasks_spawn]
    | resume i reply => rw [length_tasks_resume]
    | environ f => exact le_rfl

/-- A prefix of a run whose moves are given by others. -/
lemma exists_of_prefix_map {M : Type} {f : M → Move S α} {ms : List M} {pre : List (Move S α)}
    {m : Move S α} (h : pre ++ [m] <+: ms.map f) :
    ∃ pre' m', pre' ++ [m'] <+: ms ∧ pre'.map f = pre ∧ f m' = m := by
  obtain ⟨ms', hle, heq⟩ := List.prefix_map_iff.1 h
  obtain ⟨pre', last, rfl, rfl, hlast⟩ := List.map_eq_append_iff.1 heq.symm
  obtain ⟨m', rfl, hm⟩ := List.map_eq_singleton_iff.1 hlast
  exact ⟨pre', m', hle, rfl, hm⟩

/-- In a run only tasks that have been started have recorded something. -/
lemma lt_length_of_mem_runLog {s : S.State} {ms : List (Move S α)} {tid : ℕ} {e : S.Event}
    (h : (tid, e) ∈ ((init s : Pool S α).run ms).world.log) :
    tid < ((init s : Pool S α).run ms).tasks.length := by
  have hall : ∀ tid e, (tid, e) ∈ ((init s : Pool S α).run ms).world.log →
      tid < ((init s : Pool S α).run ms).tasks.length := by
    clear h
    induction ms using List.reverseRecOn with
    | nil =>
      intro tid e h
      cases h
    | append_singleton ms m ih =>
      rw [run_concat]
      exact lt_length_of_mem_log ih m
  exact hall tid e h

/-- A run of programs of one footprint, in an environment that keeps to it. -/
lemma run_within (s : S.State) (ms : List (Move S α))
    (hspawn : ∀ p, .spawn p ∈ ms → ∀ s, p.Within E R s)
    (henviron : ∀ f, .environ f ∈ ms → ∀ s, R s (f s)) :
    (∀ t ∈ ((init s).run ms).tasks, t.Within E R) ∧
      Relation.ReflTransGen R s ((init s : Pool S α).run ms).world.state := by
  induction ms using List.reverseRecOn with
  | nil =>
    refine ⟨fun t ht => ?_, .refl⟩
    cases ht
  | append_singleton ms m ih =>
    obtain ⟨htasks, hstate⟩ := ih
      (fun p hp => hspawn p (List.mem_append_left _ hp))
      (fun f hf => henviron f (List.mem_append_left _ hf))
    rw [run_concat]
    cases m with
    | spawn p =>
      have hseg := Co.segment_within (w := ((init s).run ms).world) (hspawn p (by simp) _)
        ((init s).run ms).tasks.length
      refine ⟨fun t ht => ?_, hstate.trans hseg.state⟩
      rcases List.mem_append.1 ht with ht | ht
      · exact htasks t ht
      · rw [List.mem_singleton.1 ht]
        exact hseg.status
    | resume i reply =>
      obtain ⟨htasks', hstate'⟩ := resume_within htasks i reply
      exact ⟨htasks', hstate.trans hstate'⟩
    | environ f => exact ⟨htasks, hstate.tail (henviron f (by simp) _)⟩

/-- Task `tid` of a run was started with the program `p`, after the moves `pre`. -/
structure Started (s : S.State) (ms : List (Move S α)) (tid : ℕ) (pre : List (Move S α))
    (p : Co S α) : Prop where
  moves : pre ++ [.spawn p] <+: ms
  length : ((init s).run pre).tasks.length = tid

/-- Every task of a run was started. -/
lemma exists_started {s : S.State} {ms : List (Move S α)} {tid : ℕ}
    (h : tid < ((init s : Pool S α).run ms).tasks.length) :
    ∃ pre p, Started s ms tid pre p := by
  induction ms using List.reverseRecOn with
  | nil => exact absurd h (Nat.not_lt_zero tid)
  | append_singleton ms m ih =>
    by_cases hlt : tid < ((init s : Pool S α).run ms).tasks.length
    · obtain ⟨pre, p, hmoves, hlength⟩ := ih hlt
      exact ⟨pre, p, hmoves.trans (List.prefix_append ms [m]), hlength⟩
    rw [run_concat] at h
    cases m with
    | spawn p =>
      rw [length_tasks_spawn] at h
      exact ⟨ms, p, List.prefix_rfl, by omega⟩
    | resume i reply =>
      rw [length_tasks_resume] at h
      exact absurd h hlt
    | environ f => exact absurd h hlt

/-- A task that was started is a task of the run. -/
lemma Started.lt_length {s : S.State} {ms : List (Move S α)} {tid : ℕ} {pre : List (Move S α)}
    {p : Co S α} (h : Started s ms tid pre p) : tid < ((init s).run ms).tasks.length := by
  obtain ⟨ms', rfl⟩ := h.moves
  have hlength := length_tasks_le_run ((init s).run (pre ++ [.spawn p])) ms'
  rw [← run_append, run_concat, length_tasks_spawn, h.length] at hlength
  omega

/-- Tasks are numbered in the order in which they are started. -/
lemma Started.before {s : S.State} {ms : List (Move S α)} {tid tid' : ℕ}
    {pre pre' : List (Move S α)} {p p' : Co S α} (h : Started s ms tid pre p)
    (h' : Started s ms tid' pre' p') (hlt : tid < tid') : pre ++ [.spawn p] <+: pre' := by
  have hpre' : pre' <+: ms := (List.prefix_append pre' _).trans h'.moves
  rcases List.prefix_or_prefix_of_prefix h.moves hpre' with hle | hle
  · exact hle
  rcases List.prefix_concat_iff.1 hle with rfl | hle
  · exact List.prefix_rfl
  -- otherwise the second task would have been started first
  obtain ⟨ms', rfl⟩ := hle
  have hlength := length_tasks_le_run ((init s).run pre') ms'
  rw [← run_append, h.length, h'.length] at hlength
  omega

/-- A task keeps to the footprint of its first segment to the end of the run. -/
lemma Started.taskWithin {s : S.State} {ms : List (Move S α)} {tid : ℕ}
    {pre : List (Move S α)} {p : Co S α} (h : Started s ms tid pre p)
    (hseg : ∀ w, w = ((init s : Pool S α).run pre).world →
      (p.segment tid w).1.Within E R ∧
        ∃ es : List S.Event, (p.segment tid w).2.log = w.log ++ es.map (Prod.mk tid) ∧
          ∀ e ∈ es, E e) :
    ((init s).run ms).TaskWithin E R tid := by
  obtain ⟨ms', rfl⟩ := h.moves
  obtain rfl := h.length
  obtain ⟨hstatus, hlog⟩ := hseg _ rfl
  have hstart : ((init s).run (pre ++ [.spawn p])).TaskWithin E R
      ((init s).run pre).tasks.length := by
    rw [run_concat]
    refine taskWithin_spawn hstatus hlog fun e he => ?_
    exact absurd (lt_length_of_mem_runLog he) (lt_irrefl _)
  rw [run_append]
  induction ms' using List.reverseRecOn with
  | nil => exact hstart
  | append_singleton ms' m ih =>
    rw [run_concat]
    exact (ih (h := ⟨List.prefix_append _ _, rfl⟩)).step m

lemma Started.taskWithin_of_within {s : S.State} {ms : List (Move S α)} {tid : ℕ}
    {pre : List (Move S α)} {p : Co S α} (h : Started s ms tid pre p)
    (hp : ∀ s, p.Within E R s) : ((init s).run ms).TaskWithin E R tid := by
  refine h.taskWithin fun w _ => ?_
  have hseg := Co.segment_within (hp w.state) tid
  exact ⟨hseg.status, hseg.log⟩

end Pool
