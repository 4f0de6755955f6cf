import ConstellationGate.Lib.Footprint

/-!
# The segments of a task

`Pool.segmentsOf` lists what one task does in a run of a pool: the state before and the state after
each of its segments, in order.  Between two of them the other tasks and the environment run.
-/

namespace Pool

variable {S : Signature} {α : Type}

/-- The move runs a segment of task `tid`. -/
def runs (c : Pool S α) (tid : ℕ) : Move S α → Bool
  | .spawn _ => c.tasks.length = tid
  | .resume i _ => i = tid ∧ (c.tasks[i]?.bind Status.request?).isSome = true
  | .environ _ => false

/-- A task is suspended when it has a request. -/
lemma isSome_request_iff {c : Pool S α} {i : ℕ} :
    (c.tasks[i]?.bind Status.request?).isSome = true ↔ i ∈ waitingTasks c.tasks := by
  rcases hget : c.tasks[i]? with _ | (r | ⟨q, k⟩)
  · simp [waitingTasks, hget]
  · simp [waitingTasks, hget, Status.request?]
  · exact iff_of_true rfl ⟨q, k, hget⟩

/-- The states before and after the segments of task `tid` in a run. -/
def segmentsOf (tid : ℕ) (c : Pool S α) : List (Move S α) → List (S.State × S.State)
  | [] => []
  | m :: ms =>
    (if c.runs tid m then [(c.world.state, (c.step m).world.state)] else []) ++
      segmentsOf tid (c.step m) ms

lemma segmentsOf_append (tid : ℕ) (c : Pool S α) (ms ms' : List (Move S α)) :
    c.segmentsOf tid (ms ++ ms') = c.segmentsOf tid ms ++ (c.run ms).segmentsOf tid ms' := by
  induction ms generalizing c with
  | nil => rfl
  | cons m ms ih =>
    rw [List.cons_append, segmentsOf, segmentsOf, ih, List.append_assoc]
    rfl

/-- A move that runs another task adds nothing. -/
lemma segmentsOf_concat_of_not_runs {tid : ℕ} {c : Pool S α} {ms : List (Move S α)} {m : Move S α}
    (h : (c.run ms).runs tid m = false) : c.segmentsOf tid (ms ++ [m]) = c.segmentsOf tid ms := by
  rw [segmentsOf_append, segmentsOf, h]
  simp [segmentsOf]

/-- A move that runs the task adds its segment. -/
lemma segmentsOf_concat_of_runs {tid : ℕ} {c : Pool S α} {ms : List (Move S α)} {m : Move S α}
    (h : (c.run ms).runs tid m = true) :
    c.segmentsOf tid (ms ++ [m]) =
      c.segmentsOf tid ms ++ [((c.run ms).world.state, ((c.run ms).step m).world.state)] := by
  rw [segmentsOf_append, segmentsOf, if_pos h]
  simp [segmentsOf]

/-- A task that has not been started has no segments. -/
lemma segmentsOf_eq_nil {tid : ℕ} {c : Pool S α} {ms : List (Move S α)}
    (h : (c.run ms).tasks.length ≤ tid) : c.segmentsOf tid ms = [] := by
  induction ms using List.reverseRecOn with
  | nil => rfl
  | append_singleton ms m ih =>
    have hlen : (c.run ms).tasks.length ≤ tid := by
      rw [run_append] at h
      exact (length_tasks_le_run _ [m]).trans h
    rw [segmentsOf_concat_of_not_runs, ih hlen]
    rw [run_concat] at h
    cases m with
    | spawn p =>
      rw [length_tasks_spawn] at h
      exact decide_eq_false (by omega)
    | resume i reply =>
      refine decide_eq_false fun ⟨hi, hwaits⟩ => ?_
      obtain ⟨q, k, hget⟩ := isSome_request_iff.1 hwaits
      have hlt := (List.getElem?_eq_some_iff.1 hget).1
      omega
    | environ f => rfl

/-! ### What the other tasks leave alone -/

/-- A run only adds to the log. -/
lemma log_prefix_run (c : Pool S α) (ms : List (Move S α)) :
    c.world.log <+: (c.run ms).world.log := by
  induction ms generalizing c with
  | nil => exact List.prefix_rfl
  | cons m ms ih =>
    refine List.IsPrefix.trans ?_ (ih (c.step m))
    cases m with
    | spawn p =>
      obtain ⟨es, hes⟩ := p.segment_log c.tasks.length c.world
      exact ⟨_, hes.symm⟩
    | environ f => exact List.prefix_rfl
    | resume i reply =>
      rcases hi : c.tasks[i]? with _ | (r | ⟨q, k⟩)
      · simp only [step, hi, List.prefix_rfl]
      · simp only [step, hi, List.prefix_rfl]
      · obtain ⟨es, hes⟩ := (k (reply q)).segment_log i c.world
        simp only [step, hi]
        exact ⟨_, hes.symm⟩

/-- What another task records does not count. -/
lemma eventsIn_append_of_ne {tid i : ℕ} (h : tid ≠ i) {log log' : List (ℕ × S.Event)}
    {es : List S.Event} (hlog : log' = log ++ es.map (Prod.mk i)) :
    eventsIn tid log' = eventsIn tid log := by
  have hnil : eventsIn tid (es.map (Prod.mk i)) = [] := by
    simp [eventsIn, Ne.symm h]
  rw [hlog, eventsIn_append, hnil, List.append_nil]

/-- A move that does not run a task leaves the task and what it has recorded alone. -/
lemma step_of_not_runs {c : Pool S α} {tid : ℕ} (hlt : tid < c.tasks.length) {m : Move S α}
    (h : c.runs tid m = false) :
    (c.step m).tasks[tid]? = c.tasks[tid]? ∧
      eventsIn tid (c.step m).world.log = eventsIn tid c.world.log := by
  cases m with
  | spawn p =>
    obtain ⟨es, hes⟩ := p.segment_log c.tasks.length c.world
    exact ⟨List.getElem?_append_left hlt, eventsIn_append_of_ne hlt.ne hes⟩
  | environ f => exact ⟨rfl, rfl⟩
  | resume i reply =>
    rcases hi : c.tasks[i]? with _ | (r | ⟨q, k⟩)
    · simp [step, hi]
    · simp [step, hi]
    · have hne : i ≠ tid := by
        rintro rfl
        exact of_decide_eq_false h ⟨rfl, isSome_request_iff.2 ⟨q, k, hi⟩⟩
      obtain ⟨es, hes⟩ := (k (reply q)).segment_log i c.world
      simp only [step, hi]
      exact ⟨List.getElem?_set_ne hne, eventsIn_append_of_ne hne.symm hes⟩

/-- A task that has ended does nothing more. -/
lemma run_of_finished {c : Pool S α} {tid : ℕ} {r : Except S.Error α}
    (hget : c.tasks[tid]? = some (.finished r)) (ms : List (Move S α)) :
    (c.run ms).tasks[tid]? = some (.finished r) ∧
      eventsIn tid (c.run ms).world.log = eventsIn tid c.world.log := by
  induction ms using List.reverseRecOn with
  | nil => exact ⟨hget, rfl⟩
  | append_singleton ms m ih =>
    obtain ⟨hfinished, hevents⟩ := ih
    have hlt := (List.getElem?_eq_some_iff.1 hfinished).1
    have hruns : (c.run ms).runs tid m = false := by
      cases m with
      | spawn p => exact decide_eq_false hlt.ne'
      | environ f => rfl
      | resume i reply =>
        refine decide_eq_false ?_
        rintro ⟨rfl, hwaits⟩
        obtain ⟨q, k, hwaiting⟩ := isSome_request_iff.1 hwaits
        rw [hfinished] at hwaiting
        cases hwaiting
    rw [run_concat]
    obtain ⟨htask, hsame⟩ := step_of_not_runs hlt hruns
    exact ⟨htask.trans hfinished, hsame.trans hevents⟩

/-- A task that is always answered ends, whatever the answers are. -/
lemma exists_finished (p : Co S α) {i : ℕ} (c : Pool S α) (w : World S)
    (hget : c.tasks[i]? = some (p.segment i w).1)
    (reply : ℕ → ∀ q : S.Request, Except S.Error (S.Reply q)) :
    ∃ n r, (c.run ((List.range n).map fun j => .resume i (reply j))).tasks[i]? =
      some (.finished r) := by
  induction p generalizing c w reply with
  | done r => exact ⟨0, r, hget⟩
  | get k ih => exact ih w.state c w hget reply
  | put s k ih => exact ih c (w.put s) hget reply
  | emit e k ih => exact ih c (w.emit i e) hget reply
  | await q k ih =>
    have hwaits : c.tasks[i]? = some (.waiting q k) := hget
    have hlt : i < c.tasks.length := (List.getElem?_eq_some_iff.1 hwaits).1
    have hresumed : (c.step (.resume i (reply 0))).tasks[i]? =
        some ((k (reply 0 q)).segment i c.world).1 := by
      simp only [step, hwaits]
      exact List.getElem?_set_self hlt
    obtain ⟨n, r, hr⟩ := ih (reply 0 q) _ c.world hresumed fun j => reply (j + 1)
    refine ⟨n + 1, r, ?_⟩
    rw [List.range_succ_eq_map, List.map_cons, List.map_map]
    exact hr

end Pool
