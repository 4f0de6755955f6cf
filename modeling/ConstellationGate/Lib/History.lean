import ConstellationGate.Lib.Outcome
import ConstellationGate.Lib.Segments

/-!
# The histories of a coroutine

`Co.Follows L J P p h s` says what the program `p` still records after the events `h`, from the
state `s` on and with replies in `L`: an event only when `J` allows it after what has been recorded
by then, and at its end an outcome that `P` allows.  After an await it may find any state, so that
the other tasks of a pool play no part, and a task that follows a rule when it is started has
followed it in every state of the run (`Pool.Started.follows`).
-/

variable {S : Signature} {α β : Type}

namespace Co

variable {L : Replies S} {J : List S.Event → S.Event → Prop}
  {P Q : List S.Event → Except S.Error α → Prop}

/-- The program records what `J` allows, and ends as `P` allows. -/
def Follows (L : Replies S) (J : List S.Event → S.Event → Prop)
    (P : List S.Event → Except S.Error α → Prop) : Co S α → List S.Event → S.State → Prop
  | done r, h, _ => P h r
  | get k, h, s => (k s).Follows L J P h s
  | put s' k, h, _ => k.Follows L J P h s'
  | emit e k, h, s => J h e ∧ k.Follows L J P (h ++ [e]) s
  | await q k, h, _ => ∀ r, L q r → ∀ s, (k r).Follows L J P h s

lemma Follows.mono {p : Co S α} {h : List S.Event} {s : S.State} (hp : p.Follows L J P h s)
    (hPQ : ∀ h r, P h r → Q h r) : p.Follows L J Q h s := by
  induction p generalizing h s with
  | done r => exact hPQ h r hp
  | get k ih => exact ih s hp
  | put s' k ih => exact ih hp
  | emit e k ih => exact ⟨hp.1, ih hp.2⟩
  | await q k ih => exact fun r hr s => ih r (hp r hr s)

/-- The program only adds to the history. -/
lemma Follows.extends {p : Co S α} {h : List S.Event} {s : S.State} (hp : p.Follows L J P h s) :
    p.Follows L J (fun h' r => (∃ es, h' = h ++ es) ∧ P h' r) h s := by
  suffices hmore : ∀ h₀ es, h = h₀ ++ es →
      p.Follows L J (fun h' r => (∃ es, h' = h₀ ++ es) ∧ P h' r) h s from
    hmore h [] (List.append_nil h).symm
  intro h₀ es heq
  induction p generalizing h s es with
  | done r => exact ⟨⟨es, heq⟩, hp⟩
  | get k ih => exact ih s hp es heq
  | put s' k ih => exact ih hp es heq
  | emit e k ih => exact ⟨hp.1, ih hp.2 (es ++ [e]) (by rw [heq, List.append_assoc])⟩
  | await q k ih => exact fun r hr s => ih r (hp r hr s) es heq

lemma follows_handle {p : Co S α} {f : Except S.Error α → Co S β}
    {P : List S.Event → Except S.Error β → Prop} {h : List S.Event} {s : S.State}
    (hp : p.Follows L J (fun h r => ∀ s, (f r).Follows L J P h s) h s) :
    (p.handle f).Follows L J P h s := by
  induction p generalizing h s with
  | done r => exact hp s
  | get k ih => exact ih s hp
  | put s' k ih => exact ih hp
  | emit e k ih => exact ⟨hp.1, ih hp.2⟩
  | await q k ih => exact fun r hr s => ih r (hp r hr s)

/-- The rule for sequencing: an exception of the first program is the outcome of the whole. -/
lemma follows_bind {p : Co S α} {f : α → Co S β} {P : List S.Event → Except S.Error β → Prop}
    {h : List S.Event} {s : S.State}
    (hp : p.Follows L J (fun h r => (∀ a, r = .ok a → ∀ s, (f a).Follows L J P h s) ∧
      ∀ e, r = .error e → P h (.error e)) h s) :
    (p >>= f).Follows L J P h s := by
  refine follows_handle (hp.mono fun h r hr s => ?_)
  cases r with
  | ok a => exact hr.1 a rfl s
  | error e => exact hr.2 e rfl

/-- The rule for a call that is followed by a program. -/
lemma follows_call_bind {g : S.State → Except S.Error α × S.State} {f : α → Co S β}
    {P : List S.Event → Except S.Error β → Prop} {h : List S.Event} {s : S.State}
    (hok : ∀ a, (g s).1 = .ok a → (f a).Follows L J P h (g s).2)
    (herror : ∀ e, (g s).1 = .error e → P h (.error e)) :
    (call g >>= f).Follows L J P h s := by
  change (handle (done (g s).1) _).Follows L J P h (g s).2
  rcases hg : (g s).1 with e | a
  · exact herror e hg
  · exact hok a hg

/-- The rule for an event that is followed by a program. -/
lemma follows_log_bind {e : S.Event} {f : Unit → Co S β}
    {P : List S.Event → Except S.Error β → Prop} {h : List S.Event} {s : S.State} (he : J h e)
    (hf : (f ()).Follows L J P (h ++ [e]) s) :
    (log e >>= f).Follows L J P h s := ⟨he, hf⟩

/-- The rule for a program whose footprint and whose outcome are known. -/
lemma follows_of_within {E : S.Event → Prop} {R : S.State → S.State → Prop}
    {O : Except S.Error α → Prop} {p : Co S α} {h : List S.Event} {s : S.State}
    (hwithin : p.Within E R s) (hends : p.Ends L O)
    (hJ : ∀ es e, (∀ e' ∈ es, E e') → E e → J (h ++ es) e)
    (hP : ∀ es r, (∀ e ∈ es, E e) → O r → P (h ++ es) r) : p.Follows L J P h s := by
  induction p generalizing h s with
  | done r =>
    have hr := hP [] r (by simp) hends
    rwa [List.append_nil] at hr
  | get k ih => exact ih s hwithin (hends s) hJ hP
  | put s' k ih => exact ih hwithin.2 hends hJ hP
  | emit e k ih =>
    obtain ⟨he, hrest⟩ := hwithin
    have hcons : ∀ es, (∀ e' ∈ es, E e') → ∀ e' ∈ e :: es, E e' := fun es hes =>
      List.forall_mem_cons.2 ⟨he, hes⟩
    have hfirst := hJ [] e (by simp) he
    rw [List.append_nil] at hfirst
    refine ⟨hfirst, ih hrest hends (fun es e' hes he' => ?_) fun es r hes hr => ?_⟩
    · rw [List.append_assoc]
      exact hJ _ e' (hcons es hes) he'
    · rw [List.append_assoc]
      exact hP _ r (hcons es hes) hr
  | await q k ih => exact fun r hr s => ih r (hwithin r s) (hends r hr) hJ hP

/-- The rule for a program that records nothing and is followed by another. -/
lemma follows_silent_bind {p : Co S α} {f : α → Co S β} {P : List S.Event → Except S.Error β → Prop}
    {h : List S.Event} {s : S.State}
    (hp : p.Within (fun _ => False) (fun _ _ => True) s) (herror : ∀ e, P h (.error e))
    (hf : ∀ a s, (f a).Follows L J P h s) : (p >>= f).Follows L J P h s := by
  refine follows_bind (follows_of_within hp (ends_of_forall (P := fun _ => True)
    (fun _ => trivial) p) (fun _ _ _ he => he.elim) fun es r hes _ => ?_)
  obtain rfl := List.eq_nil_iff_forall_not_mem.2 hes
  rw [List.append_nil]
  exact ⟨fun a _ s => hf a s, fun e _ => herror e⟩

/-- The rule for a program that records nothing, whose outcome is caught. -/
lemma follows_attempt_bind {p : Co S α} {f : Except S.Error α → Co S β}
    {O : Except S.Error α → Prop}
    {P : List S.Event → Except S.Error β → Prop} {h : List S.Event} {s : S.State}
    (hp : p.Within (fun _ => False) (fun _ _ => True) s) (hends : p.Ends L O)
    (hf : ∀ r, O r → ∀ s, (f r).Follows L J P h s) : (p.attempt >>= f).Follows L J P h s := by
  refine follows_handle (follows_handle (follows_of_within hp hends
    (fun _ _ _ he => he.elim) fun es r hes hr s => ?_))
  obtain rfl := List.eq_nil_iff_forall_not_mem.2 hes
  rw [List.append_nil]
  exact hf r hr

/-- The rule for a program that records nothing and whose outcome is known. -/
lemma follows_bind_of_ends {p : Co S α} {f : α → Co S β} {O : Except S.Error α → Prop}
    {P : List S.Event → Except S.Error β → Prop} {h : List S.Event} {s : S.State}
    (hp : p.Within (fun _ => False) (fun _ _ => True) s) (hends : p.Ends L O)
    (hok : ∀ a, O (.ok a) → ∀ s, (f a).Follows L J P h s)
    (herror : ∀ e, O (.error e) → P h (.error e)) : (p >>= f).Follows L J P h s := by
  refine follows_handle (follows_of_within hp hends (fun _ _ _ he => he.elim)
    fun es r hes hr s => ?_)
  obtain rfl := List.eq_nil_iff_forall_not_mem.2 hes
  rw [List.append_nil]
  cases r with
  | ok a => exact hok a hr s
  | error e => exact herror e hr

end Co

/-! ### Histories in a pool -/

/-- Each event of a history is allowed after those before it. -/
def Obeys {ε : Type} (J : List ε → ε → Prop) (events : List ε) : Prop :=
  ∀ before e after, events = before ++ e :: after → J before e

lemma Obeys.of_getElem? {ε : Type} {J : List ε → ε → Prop} {events : List ε} {i : ℕ} {e : ε}
    (h : Obeys J events) (hget : events[i]? = some e) : J (events.take i) e := by
  obtain ⟨hlt, rfl⟩ := List.getElem?_eq_some_iff.1 hget
  refine h _ _ (events.drop (i + 1)) ?_
  rw [List.cons_getElem_drop_succ, List.take_append_drop]

lemma Obeys.concat {ε : Type} {J : List ε → ε → Prop} {events : List ε} {e : ε}
    (h : Obeys J events) (he : J events e) : Obeys J (events ++ [e]) := by
  intro before e' after heq
  rcases concat_eq_split heq with ⟨rfl, rfl⟩ | ⟨after', hevents⟩
  · exact he
  · exact h before e' after' hevents

/-- What is left of a task follows the rule. -/
def Status.Follows (L : Replies S) (J : List S.Event → S.Event → Prop)
    (P : List S.Event → Except S.Error α → Prop) (h : List S.Event) : Status S α → Prop
  | .finished r => P h r
  | .waiting q k => ∀ r, L q r → ∀ s, (k r).Follows L J P h s

section Pool

variable {L : Replies S} {J : List S.Event → S.Event → Prop}
  {P : List S.Event → Except S.Error α → Prop}

/-- A segment keeps the rule. -/
lemma Co.segment_follows {p : Co S α} {tid : ℕ} {w : World S}
    (hp : p.Follows L J P (eventsIn tid w.log) w.state) (hobeys : Obeys J (eventsIn tid w.log)) :
    (p.segment tid w).1.Follows L J P (eventsIn tid (p.segment tid w).2.log) ∧
      Obeys J (eventsIn tid (p.segment tid w).2.log) := by
  induction p generalizing w with
  | done r => exact ⟨hp, hobeys⟩
  | get k ih => exact ih w.state hp hobeys
  | put s k ih => exact ih (w := w.put s) hp hobeys
  | emit e k ih =>
    have hevents : eventsIn tid (w.emit tid e).log = eventsIn tid w.log ++ [e] :=
      World.eventsOf_emit w tid e
    refine ih (w := w.emit tid e) ?_ ?_
    · rw [hevents]
      exact hp.2
    · rw [hevents]
      exact hobeys.concat hp.1
  | await q k _ => exact ⟨hp, hobeys⟩

/-- A task has followed the rule so far, and will go on to. -/
def Pool.TaskFollows (L : Replies S) (J : List S.Event → S.Event → Prop)
    (P : List S.Event → Except S.Error α → Prop) (tid : ℕ) (c : Pool S α) : Prop :=
  ∃ t, c.tasks[tid]? = some t ∧ t.Follows L J P (eventsIn tid c.world.log) ∧
    Obeys J (eventsIn tid c.world.log)

/-- One move: a task keeps to its rule when it is answered legally. -/
lemma Pool.TaskFollows.step {tid : ℕ} {c : Pool S α} (h : c.TaskFollows L J P tid) (m : Move S α)
    (hlegal : ∀ i reply, m = .resume i reply → ∀ q, L q (reply q)) :
    (c.step m).TaskFollows L J P tid := by
  obtain ⟨t, hget, hstatus, hobeys⟩ := h
  have hlt : tid < c.tasks.length := (List.getElem?_eq_some_iff.1 hget).1
  rcases hruns : c.runs tid m with _ | _
  · obtain ⟨htask, hevents⟩ := Pool.step_of_not_runs hlt hruns
    refine ⟨t, htask.trans hget, ?_, ?_⟩ <;> rw [hevents]
    · exact hstatus
    · exact hobeys
  cases m with
  | spawn p => exact absurd (of_decide_eq_true hruns) hlt.ne'
  | environ f => cases hruns
  | resume i reply =>
    obtain ⟨rfl, hwaits⟩ := of_decide_eq_true hruns
    obtain ⟨q, k, hi⟩ := Pool.isSome_request_iff.1 hwaits
    obtain rfl := Option.some.inj (hget.symm.trans hi)
    obtain ⟨hstatus', hobeys'⟩ := Co.segment_follows
      (hstatus (reply q) (hlegal i reply rfl q) c.world.state) hobeys
    simp only [Pool.step, hi]
    exact ⟨_, List.getElem?_set_self hlt, hstatus', hobeys'⟩

/-- A task that is started with a program that follows a rule keeps to it to the end of the run. -/
lemma Pool.Started.follows {s : S.State} {ms : List (Move S α)} {tid : ℕ} {pre : List (Move S α)}
    {p : Co S α} (h : Pool.Started s ms tid pre p) (hp : ∀ s, p.Follows L J P [] s)
    (hlegal : ∀ i reply, .resume i reply ∈ ms → ∀ q, L q (reply q)) :
    ((Pool.init s).run ms).TaskFollows L J P tid := by
  obtain ⟨ms', rfl⟩ := h.moves
  obtain rfl := h.length
  have hnil :
      eventsIn ((Pool.init s).run pre).tasks.length ((Pool.init s).run pre).world.log = [] :=
    List.eq_nil_iff_forall_not_mem.2 fun _ he =>
      absurd (Pool.lt_length_of_mem_runLog (mem_eventsIn.1 he)) (lt_irrefl _)
  have hstart : ((Pool.init s).run (pre ++ [.spawn p])).TaskFollows L J P
      ((Pool.init s).run pre).tasks.length := by
    rw [Pool.run_concat]
    have hobeys : Obeys J (eventsIn ((Pool.init s).run pre).tasks.length
        ((Pool.init s).run pre).world.log) := by
      rw [hnil]
      intro before e after heq
      cases before <;> cases heq
    obtain ⟨hstatus, hobeys⟩ := Co.segment_follows (p := p) (by rw [hnil]; exact hp _) hobeys
    exact ⟨_, List.getElem?_concat_length, hstatus, hobeys⟩
  rw [Pool.run_append]
  induction ms' using List.reverseRecOn with
  | nil => exact hstart
  | append_singleton ms' m ih =>
    have hprefix : ∀ i reply, .resume i reply ∈ pre ++ [.spawn p] ++ ms' → ∀ q, L q (reply q) :=
      fun i reply hm => hlegal i reply (by
        rw [← List.append_assoc]
        exact List.mem_append_left _ hm)
    rw [Pool.run_concat]
    refine (ih hprefix ⟨List.prefix_append _ _, rfl⟩).step m ?_
    rintro i reply rfl
    exact hlegal i reply (by simp)

end Pool
