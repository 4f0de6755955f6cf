import ConstellationGate.Lib.Coroutine

/-!
# Invariants of the shared state

`Co.Upholds I Q p s` says that the program `p`, from the state `s` on, writes only states in which
`I` holds and awaits only requests that `Q` allows, provided that `I` holds whenever it is resumed.
It follows the syntax of programs, and other tasks may do anything between two segments that keeps
`I`.

A pool whose tasks all uphold an invariant keeps it in every segment (`Pool.upholds_step`), and so
in every run (`Pool.Obliged.run`); what its tasks wait for is allowed.
-/

namespace Co

variable {S : Signature} {α β : Type} {I : S.State → Prop} {Q : S.Request → Prop}

/-- From the state `s` on, the program keeps `I`, and awaits only what `Q` allows. -/
def Upholds (I : S.State → Prop) (Q : S.Request → Prop) : Co S α → S.State → Prop
  | done _, _ => True
  | get k, s => (k s).Upholds I Q s
  | put s k, _ => I s ∧ k.Upholds I Q s
  | emit _ k, s => k.Upholds I Q s
  | await q k, _ => Q q ∧ ∀ (r : Except S.Error (S.Reply q)) s, I s → (k r).Upholds I Q s

lemma upholds_handle {p : Co S α} {f : Except S.Error α → Co S β} {s : S.State} (hs : I s)
    (hp : p.Upholds I Q s) (hf : ∀ r s, I s → (f r).Upholds I Q s) :
    (p.handle f).Upholds I Q s := by
  induction p generalizing s with
  | done r => exact hf r s hs
  | get k ih => exact ih s hs hp
  | put s' k ih => exact ⟨hp.1, ih hp.1 hp.2⟩
  | emit e k ih => exact ih hs hp
  | await q k ih => exact ⟨hp.1, fun r s hs => ih r hs (hp.2 r s hs)⟩

lemma upholds_bind {p : Co S α} {f : α → Co S β} {s : S.State} (hs : I s)
    (hp : p.Upholds I Q s) (hf : ∀ a s, I s → (f a).Upholds I Q s) :
    (p >>= f).Upholds I Q s := by
  refine upholds_handle hs hp fun r s hs => ?_
  cases r with
  | ok a => exact hf a s hs
  | error e => trivial

lemma upholds_attempt {p : Co S α} {s : S.State} (hs : I s) (hp : p.Upholds I Q s) :
    p.attempt.Upholds I Q s :=
  upholds_handle hs hp fun _ _ _ => trivial

lemma upholds_done (r : Except S.Error α) (s : S.State) : (done r : Co S α).Upholds I Q s := trivial

lemma upholds_read (f : S.State → α) (s : S.State) : (read f).Upholds I Q s := trivial

lemma upholds_log (e : S.Event) (s : S.State) : (log e).Upholds I Q s := trivial

lemma upholds_call {f : S.State → Except S.Error α × S.State} {s : S.State} (hf : I (f s).2) :
    (call f).Upholds I Q s := ⟨hf, trivial⟩

lemma upholds_request {q : S.Request} (hq : Q q) (s : S.State) : (request q).Upholds I Q s :=
  ⟨hq, fun _ _ _ => trivial⟩

end Co

/-- A suspended task waits for something that is allowed, and upholds the invariant when it is
resumed. -/
def Status.Upholds {S : Signature} {α : Type} (I : S.State → Prop) (Q : S.Request → Prop) :
    Status S α → Prop
  | .finished _ => True
  | .waiting q k => Q q ∧ ∀ (r : Except S.Error (S.Reply q)) s, I s → (k r).Upholds I Q s

variable {S : Signature} {α : Type} {I : S.State → Prop} {Q : S.Request → Prop}

/-- A segment of a program that upholds the invariant. -/
lemma Co.segment_upholds {p : Co S α} {w : World S} (hw : I w.state) (h : p.Upholds I Q w.state)
    (tid : ℕ) :
    (p.segment tid w).1.Upholds I Q ∧ I (p.segment tid w).2.state := by
  induction p generalizing w with
  | done r => exact ⟨trivial, hw⟩
  | get k ih => exact ih w.state hw h
  | put s k ih => exact ih (w := w.put s) h.1 h.2
  | emit e k ih => exact ih (w := w.emit tid e) hw h
  | await q k _ => exact ⟨h, hw⟩

namespace Pool

/-- One move of a pool whose tasks uphold the invariant: a task is started that upholds it, a task
goes on, or the environment keeps it. -/
lemma upholds_step {c : Pool S α} (hc : I c.world.state) (htasks : ∀ t ∈ c.tasks, t.Upholds I Q)
    {m : Move S α} (hspawn : ∀ p, m = .spawn p → p.Upholds I Q c.world.state)
    (henviron : ∀ f, m = .environ f → I (f c.world.state)) :
    I (c.step m).world.state ∧ ∀ t ∈ (c.step m).tasks, t.Upholds I Q := by
  cases m with
  | spawn p =>
    obtain ⟨hstatus, hstate⟩ := Co.segment_upholds hc (hspawn p rfl) c.tasks.length
    refine ⟨hstate, fun t ht => ?_⟩
    rcases List.mem_append.1 ht with ht | ht
    · exact htasks t ht
    · obtain rfl := List.mem_singleton.1 ht
      exact hstatus
  | resume i reply =>
    rcases hi : c.tasks[i]? with _ | (r | ⟨q, k⟩)
    · simp only [step, hi]
      exact ⟨hc, htasks⟩
    · simp only [step, hi]
      exact ⟨hc, htasks⟩
    · simp only [step, hi]
      have hwaits := (htasks _ (List.mem_of_getElem? hi)).2
      obtain ⟨hstatus, hstate⟩ := Co.segment_upholds hc (hwaits (reply q) _ hc) i
      refine ⟨hstate, fun t ht => ?_⟩
      rcases List.mem_or_eq_of_mem_set ht with ht | rfl
      · exact htasks t ht
      · exact hstatus
  | environ f => exact ⟨henviron f rfl, htasks⟩

/-- What a run owes to the invariant: the programs that are started uphold it, and what the
environment does keeps it. -/
structure Obliged (I : S.State → Prop) (Q : S.Request → Prop) (ms : List (Move S α)) : Prop where
  spawn : ∀ p, .spawn p ∈ ms → ∀ s, I s → p.Upholds I Q s
  environ : ∀ f, .environ f ∈ ms → ∀ s, I s → I (f s)

/-- The invariant holds along the run. -/
lemma Obliged.run {c : Pool S α} {ms : List (Move S α)} (h : Obliged I Q ms) (hc : I c.world.state)
    (htasks : ∀ t ∈ c.tasks, t.Upholds I Q) :
    I (c.run ms).world.state ∧ ∀ t ∈ (c.run ms).tasks, t.Upholds I Q := by
  induction ms generalizing c with
  | nil => exact ⟨hc, htasks⟩
  | cons m ms ih =>
    obtain ⟨hstate, hrest⟩ := upholds_step hc htasks
      (fun p hp => h.spawn p (hp ▸ List.mem_cons_self) _ hc)
      (fun f hf => h.environ f (hf ▸ List.mem_cons_self) _ hc)
    exact ih ⟨fun p hp => h.spawn p (List.mem_cons_of_mem m hp),
      fun f hf => h.environ f (List.mem_cons_of_mem m hf)⟩ hstate hrest

/-- In a run that starts without tasks, what a task waits for is allowed. -/
lemma Obliged.allowed {s : S.State} {ms : List (Move S α)} (h : Obliged I Q ms) (hs : I s)
    {t : Status S α} (ht : t ∈ ((init s).run ms).tasks) {q : S.Request}
    (hwaits : t.request? = some q) : Q q := by
  have htasks : ∀ t ∈ ((init s).run ms).tasks, t.Upholds I Q :=
    (h.run hs fun t ht => by cases ht).2
  cases t with
  | finished r => cases hwaits
  | waiting q' k =>
    obtain rfl := Option.some.inj hwaits
    exact (htasks _ ht).1

end Pool
