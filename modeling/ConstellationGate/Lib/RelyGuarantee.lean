import ConstellationGate.Lib.Coroutine

/-!
# Rely and guarantee for coroutines

A `Protocol` is what the tasks of a pool agree on: an invariant of the world, what a
task may rely on while it is suspended, what every segment of a task guarantees, what
the environment may do, and which replies a request may get.  `Co.wp P tid p post`
is the weakest precondition of a program under a protocol: at each await the segment
that ends there meets the guarantee, and the program goes on correctly from every
world that the others can leave behind and with every legal reply.  The rules
(`Co.wp_bind`, `Co.wp_handle`, `Co.wp_call`, …) follow the syntax.

The guarantee of a segment sees how the segment began (`Start`: the world and the
reply that woke the task) and the request at which it ended (`none` when the task
finished), so that it can say how the shared state moves with the place at which the
task is suspended.

`Pool.stepped` is the soundness of the method: in every legal run of tasks that are
correct in this sense, each move is a guaranteed segment or a step of the
environment, and the invariant holds.
-/

/-- What woke a task: nothing when it is started, otherwise the reply to its request. -/
abbrev Wake (S : Signature) : Type := Option (Σ q : S.Request, Except S.Error (S.Reply q))

/-- How a segment begins. -/
structure Start (S : Signature) where
  world : World S
  wake : Wake S

/-- The agreement between the tasks of a pool and their environment. -/
structure Protocol (S : Signature) where
  /-- What holds of the world between segments. -/
  Inv : World S → Prop
  /-- What task `tid` may rely on between two of its segments. -/
  Rely : ℕ → World S → World S → Prop
  /-- What a segment of task `tid` guarantees, with the request at which it ends. -/
  Guar : ℕ → Start S → World S → Option S.Request → Prop
  /-- What the environment may do to the shared state. -/
  Env : S.State → S.State → Prop
  /-- Which replies a request may get. -/
  Legal : (q : S.Request) → Except S.Error (S.Reply q) → Prop

/-- The log has grown by events of task `tid`. -/
def World.Appends {S : Signature} (tid : ℕ) (w w' : World S) : Prop :=
  ∃ es : List S.Event, w'.log = w.log ++ es.map (Prod.mk tid)

/-- The parts of a protocol fit together. -/
structure Protocol.Lawful {S : Signature} (P : Protocol S) : Prop where
  rely_refl : ∀ tid w, P.Rely tid w w
  rely_trans : ∀ {tid w w' w''}, P.Rely tid w w' → P.Rely tid w' w'' → P.Rely tid w w''
  guar_inv : ∀ {tid} st {w' q}, P.Inv st.world → P.Guar tid st w' q → P.Inv w'
  guar_rely : ∀ {tid tid'} st {w' q}, tid' ≠ tid → P.Inv st.world → P.Guar tid st w' q →
    st.world.Appends tid w' → P.Rely tid' st.world w'
  env_inv : ∀ {w s}, P.Inv w → P.Env w.state s → P.Inv (w.put s)
  env_rely : ∀ {tid w s}, P.Inv w → P.Env w.state s → P.Rely tid w (w.put s)

namespace World

variable {S : Signature} {tid : ℕ}

lemma Appends.refl (w : World S) : w.Appends tid w := ⟨[], by simp⟩

lemma Appends.trans {w w' w'' : World S} (h : w.Appends tid w') (h' : w'.Appends tid w'') :
    w.Appends tid w'' := by
  obtain ⟨es, hes⟩ := h
  obtain ⟨es', hes'⟩ := h'
  exact ⟨es ++ es', by simp [hes, hes']⟩

lemma Appends.eventsOf {w w' : World S} (h : w.Appends tid w') {tid' : ℕ} (hne : tid' ≠ tid) :
    w'.eventsOf tid' = w.eventsOf tid' := by
  obtain ⟨es, hes⟩ := h
  have hnone : (es.map (Prod.mk tid)).filter (fun e => e.1 = tid') = [] := by
    rw [List.filter_eq_nil_iff]
    intro e he
    obtain ⟨e', -, rfl⟩ := List.mem_map.1 he
    simpa using hne.symm
  simp only [World.eventsOf, eventsIn, hes, List.filter_append, hnone, List.append_nil]

end World

namespace Co

variable {S : Signature} {α β : Type} (P : Protocol S) (tid : ℕ)

/-- The weakest precondition of a program of task `tid` in a segment that began with
`st` and has reached the world `w`. -/
def wp : Co S α → (Except S.Error α → Start S → World S → Prop) → Start S → World S → Prop
  | done r, post, st, w => post r st w
  | get k, post, st, w => (k w.state).wp post st w
  | put s k, post, st, w => k.wp post st (w.put s)
  | emit e k, post, st, w => k.wp post st (w.emit tid e)
  | await q k, post, st, w =>
    P.Guar tid st w (some q) ∧ ∀ r w', P.Legal q r → P.Inv w' → P.Rely tid w w' →
      (k r).wp post ⟨w', some ⟨q, r⟩⟩ w'

variable {P tid}
variable {post post' : Except S.Error α → Start S → World S → Prop} {st : Start S} {w : World S}

/-- The rule of consequence. -/
lemma wp_mono {p : Co S α} (hpost : ∀ r st w, post r st w → post' r st w)
    (h : p.wp P tid post st w) : p.wp P tid post' st w := by
  induction p generalizing st w with
  | done r => exact hpost r st w h
  | get k ih => exact ih w.state h
  | put s k ih => exact ih h
  | emit e k ih => exact ih h
  | await q k ih => exact ⟨h.1, fun r w' hr hi hrely => ih r (h.2 r w' hr hi hrely)⟩

lemma wp_handle (p : Co S α) (f : Except S.Error α → Co S β)
    {post : Except S.Error β → Start S → World S → Prop} :
    (p.handle f).wp P tid post st w ↔
      p.wp P tid (fun r st w => (f r).wp P tid post st w) st w := by
  induction p generalizing st w with
  | done r => exact Iff.rfl
  | get k ih => exact ih w.state
  | put s k ih => exact ih
  | emit e k ih => exact ih
  | await q k ih => simp only [handle, wp, ih]

lemma wp_bind (p : Co S α) (f : α → Co S β)
    {post : Except S.Error β → Start S → World S → Prop} :
    (p >>= f).wp P tid post st w ↔
      p.wp P tid (fun r st w =>
        match r with
        | .ok a => (f a).wp P tid post st w
        | .error e => post (.error e) st w) st w := by
  change (p.handle _).wp P tid post st w ↔ _
  rw [wp_handle]
  constructor <;> refine wp_mono fun r st w h => ?_ <;> cases r <;> exact h

@[simp] lemma wp_pure (a : α) : (pure a : Co S α).wp P tid post st w ↔ post (.ok a) st w := Iff.rfl

@[simp] lemma wp_raise (e : S.Error) :
    (raise e : Co S α).wp P tid post st w ↔ post (.error e) st w :=
  Iff.rfl

@[simp] lemma wp_done (r : Except S.Error α) :
    (done r : Co S α).wp P tid post st w ↔ post r st w := Iff.rfl

lemma wp_attempt (p : Co S α)
    {post : Except S.Error (Except S.Error α) → Start S → World S → Prop} :
    p.attempt.wp P tid post st w ↔ p.wp P tid (fun r st w => post (.ok r) st w) st w :=
  wp_handle _ _

@[simp] lemma wp_call (f : S.State → Except S.Error α × S.State) :
    (call f).wp P tid post st w ↔ post (f w.state).1 st (w.put (f w.state).2) := Iff.rfl

@[simp] lemma wp_read (f : S.State → α) :
    (read f).wp P tid post st w ↔ post (.ok (f w.state)) st w := Iff.rfl

@[simp] lemma wp_log (e : S.Event) {post : Except S.Error Unit → Start S → World S → Prop} :
    (log e).wp P tid post st w ↔ post (.ok ()) st (w.emit tid e) := Iff.rfl

lemma wp_request (q : S.Request)
    {post : Except S.Error (S.Reply q) → Start S → World S → Prop} :
    (request q).wp P tid post st w ↔
      P.Guar tid st w (some q) ∧ ∀ r w', P.Legal q r → P.Inv w' → P.Rely tid w w' →
        post r ⟨w', some ⟨q, r⟩⟩ w' := Iff.rfl

/-- What a segment of a correct program does. -/
lemma segment_of_wp {p : Co S α} (h : p.wp P tid post st w) :
    w.Appends tid (p.segment tid w).2 ∧
      match (p.segment tid w).1 with
      | .finished r => post r st (p.segment tid w).2
      | .waiting q k => P.Guar tid st (p.segment tid w).2 (some q) ∧
          ∀ r w', P.Legal q r → P.Inv w' → P.Rely tid (p.segment tid w).2 w' →
            (k r).wp P tid post ⟨w', some ⟨q, r⟩⟩ w' := by
  induction p generalizing w with
  | done r => exact ⟨World.Appends.refl w, h⟩
  | get k ih => exact ih w.state h
  | put s k ih => exact ih h
  | emit e k ih =>
    have hk := ih h
    exact ⟨World.Appends.trans ⟨[e], by simp⟩ hk.1, hk.2⟩
  | await q k _ => exact ⟨World.Appends.refl w, h⟩

/-- A program is correct under a protocol when each of its segments, the last one
included, meets the guarantee; a task that is started has emitted nothing yet. -/
def Correct (P : Protocol S) (p : Co S α) : Prop :=
  ∀ tid w, P.Inv w → w.eventsOf tid = [] →
    p.wp P tid (fun _ st w' => P.Guar tid st w' none) ⟨w, none⟩ w

end Co

/-- A task of a pool is ready: it can be resumed from every world it may meet. -/
def Status.Ready {S : Signature} {α : Type} (P : Protocol S) (tid : ℕ) (w : World S) :
    Status S α → Prop
  | .finished _ => True
  | .waiting q k => ∀ r w', P.Legal q r → P.Inv w' → P.Rely tid w w' →
      (k r).wp P tid (fun _ st w'' => P.Guar tid st w'' none) ⟨w', some ⟨q, r⟩⟩ w'

lemma Status.Ready.mono {S : Signature} {α : Type} {P : Protocol S} (hP : P.Lawful) {tid : ℕ}
    {w w' : World S} {t : Status S α} (h : t.Ready P tid w) (hrely : P.Rely tid w w') :
    t.Ready P tid w' := by
  cases t with
  | finished r => trivial
  | waiting q k => exact fun r w'' hr hi hw => h r w'' hr hi (hP.rely_trans hrely hw)

namespace Pool

variable {S : Signature} {α : Type} {P : Protocol S}

/-- The invariant holds, only tasks have emitted events, and every task is ready. -/
structure Good (P : Protocol S) (c : Pool S α) : Prop where
  inv : P.Inv c.world
  fresh : ∀ tid, c.tasks.length ≤ tid → c.world.eventsOf tid = []
  ready : ∀ i (t : Status S α), c.tasks[i]? = some t → t.Ready P i c.world

/-- A move that the protocol allows: a correct program is started, a waiting task gets a
legal reply, the environment makes a legal change. -/
def LegalMove (P : Protocol S) (Prog : Co S α → Prop) (c : Pool S α) : Move S α → Prop
  | .spawn p => Prog p
  | .resume i reply => ∀ q k, c.tasks[i]? = some (.waiting q k) → P.Legal q (reply q)
  | .environ f => P.Env c.world.state (f c.world.state)

/-- Every move of the run is legal when its turn comes. -/
def LegalRun (P : Protocol S) (Prog : Co S α → Prop) : Pool S α → List (Move S α) → Prop
  | _, [] => True
  | c, m :: ms => c.LegalMove P Prog m ∧ LegalRun P Prog (c.step m) ms

lemma LegalRun.of_append {Prog : Co S α → Prop} {c : Pool S α} {ms ms' : List (Move S α)}
    (h : c.LegalRun P Prog (ms ++ ms')) : c.LegalRun P Prog ms := by
  induction ms generalizing c with
  | nil => trivial
  | cons m ms ih => exact ⟨h.1, ih h.2⟩

/-- What a legal move does. -/
inductive Stepped (P : Protocol S) : Pool S α → Move S α → Pool S α → Prop
  | spawn {w w' : World S} {ts : List (Status S α)} {t : Status S α} (p : Co S α)
      (hguar : P.Guar ts.length ⟨w, none⟩ w' t.request?) (happ : w.Appends ts.length w') :
      Stepped P ⟨w, ts⟩ (.spawn p) ⟨w', ts ++ [t]⟩
  | resume {w w' : World S} {ts : List (Status S α)} {t : Status S α} {i : ℕ} {q : S.Request}
      {k : Except S.Error (S.Reply q) → Co S α}
      (reply : ∀ q : S.Request, Except S.Error (S.Reply q))
      (hwait : ts[i]? = some (.waiting q k)) (hlegal : P.Legal q (reply q))
      (hguar : P.Guar i ⟨w, some ⟨q, reply q⟩⟩ w' t.request?) (happ : w.Appends i w') :
      Stepped P ⟨w, ts⟩ (.resume i reply) ⟨w', ts.set i t⟩
  | idle {c : Pool S α} {i : ℕ} (reply : ∀ q : S.Request, Except S.Error (S.Reply q))
      (hidle : ∀ q k, c.tasks[i]? ≠ some (.waiting q k)) :
      Stepped P c (.resume i reply) c
  | environ {w : World S} {ts : List (Status S α)} (f : S.State → S.State)
      (henv : P.Env w.state (f w.state)) :
      Stepped P ⟨w, ts⟩ (.environ f) ⟨w.put (f w.state), ts⟩

/-- The segment that a move runs meets the guarantee, and leaves its task ready. -/
lemma segment_guar (hP : P.Lawful) {tid : ℕ} {p : Co S α} {w : World S} {wake : Wake S}
    (hinv : P.Inv w)
    (h : p.wp P tid (fun _ st w' => P.Guar tid st w' none) ⟨w, wake⟩ w) :
    P.Inv (p.segment tid w).2 ∧
      P.Guar tid ⟨w, wake⟩ (p.segment tid w).2 (p.segment tid w).1.request? ∧
      w.Appends tid (p.segment tid w).2 ∧ (p.segment tid w).1.Ready P tid (p.segment tid w).2 := by
  obtain ⟨happ, hseg⟩ := Co.segment_of_wp h
  rcases hst : (p.segment tid w).1 with r | ⟨q, k⟩
  · rw [hst] at hseg
    exact ⟨hP.guar_inv ⟨w, wake⟩ hinv hseg, hseg, happ, trivial⟩
  · rw [hst] at hseg
    exact ⟨hP.guar_inv ⟨w, wake⟩ hinv hseg.1, hseg.1, happ, hseg.2⟩

/-- Soundness of the method for one move. -/
theorem stepped (hP : P.Lawful) {Prog : Co S α → Prop} (hProg : ∀ p, Prog p → p.Correct P)
    {c : Pool S α} (hc : c.Good P) {m : Move S α} (hm : c.LegalMove P Prog m) :
    Stepped P c m (c.step m) ∧ (c.step m).Good P := by
  obtain ⟨w, ts⟩ := c
  cases m with
  | spawn p =>
    obtain ⟨hinv, hguar, happ, hready⟩ :=
      segment_guar hP hc.inv (hProg p hm ts.length w hc.inv (hc.fresh ts.length le_rfl))
    refine ⟨.spawn p hguar happ, hinv, fun tid htid => ?_, fun i t ht => ?_⟩
    · have hlen : ts.length + 1 ≤ tid := by simpa [step] using htid
      exact (happ.eventsOf (by omega)).trans (hc.fresh tid (by simp only; omega))
    -- a task that was there before relies on the new one; the new one is ready by its own rule
    rcases Nat.lt_or_ge i ts.length with hi | hi
    · have hold : ts[i]? = some t := by
        simpa [step, List.getElem?_append_left hi] using ht
      exact (hc.ready i t hold).mono hP
        (hP.guar_rely ⟨w, none⟩ (by omega) hc.inv hguar happ)
    · have hnew : [(p.segment ts.length w).1][i - ts.length]? = some t := by
        simpa [step, List.getElem?_append_right hi] using ht
      have hi' : i - ts.length = 0 := by
        by_contra hne
        rw [List.getElem?_eq_none (by simp; omega)] at hnew
        cases hnew
      rw [hi'] at hnew
      obtain rfl : (p.segment ts.length w).1 = t := by simpa using hnew
      obtain rfl : i = ts.length := by omega
      exact hready
  | resume i reply =>
    by_cases hwait : ∃ q k, ts[i]? = some (.waiting q k)
    · obtain ⟨q, k, hwait⟩ := hwait
      have hlegal := hm q k hwait
      have hw := hc.ready i _ hwait (reply q) w hlegal hc.inv (hP.rely_refl i w)
      obtain ⟨hinv, hguar, happ, hready⟩ := segment_guar hP hc.inv hw
      have hstep : Pool.step ⟨w, ts⟩ (.resume i reply) =
          ⟨((k (reply q)).segment i w).2, ts.set i ((k (reply q)).segment i w).1⟩ := by
        simp only [step, hwait]
      rw [hstep]
      have hlt : i < ts.length := (List.getElem?_eq_some_iff.1 hwait).1
      refine ⟨.resume reply hwait hlegal hguar happ, hinv, fun tid htid => ?_, fun j t ht => ?_⟩
      · have hlen : ts.length ≤ tid := by simpa using htid
        exact (happ.eventsOf (by omega)).trans (hc.fresh tid hlen)
      -- the resumed task is ready where it waits next, the others rely on what it did
      by_cases hj : j = i
      · subst hj
        obtain rfl : ((k (reply q)).segment j w).1 = t := by
          simpa [List.getElem?_set, hlt] using ht
        exact hready
      · have hold : ts[j]? = some t := by
          simpa [List.getElem?_set_ne (Ne.symm hj)] using ht
        exact (hc.ready j t hold).mono hP
          (hP.guar_rely ⟨w, some ⟨q, reply q⟩⟩ hj hc.inv hguar happ)
    · -- there is nothing to resume
      have hidle : ∀ q k, ts[i]? ≠ some (.waiting q k) := fun q k h => hwait ⟨q, k, h⟩
      have hstep : Pool.step ⟨w, ts⟩ (.resume i reply) = ⟨w, ts⟩ := by
        simp only [step]
      rw [hstep]
      exact ⟨.idle reply hidle, hc⟩
  | environ f =>
    exact ⟨.environ f hm, hP.env_inv hc.inv hm, hc.fresh,
      fun i t ht => (hc.ready i t ht).mono hP (hP.env_rely hc.inv hm)⟩

/-- Soundness of the method for a run: what every guaranteed step keeps holds at its end. -/
theorem run_invariant (hP : P.Lawful) {Prog : Co S α → Prop} (hProg : ∀ p, Prog p → p.Correct P)
    {Φ : Pool S α → Prop}
    (hΦ : ∀ c m c', c.Good P → Stepped P c m c' → Φ c → Φ c') {c : Pool S α} (hc : c.Good P)
    {ms : List (Move S α)} (hms : c.LegalRun P Prog ms) (h : Φ c) :
    Φ (c.run ms) ∧ (c.run ms).Good P := by
  induction ms generalizing c with
  | nil => exact ⟨h, hc⟩
  | cons m ms ih =>
    obtain ⟨hstep, hgood⟩ := stepped hP hProg hc hms.1
    exact ih hgood hms.2 (hΦ c m _ hc hstep h)

/-- A legal run of correct tasks keeps the invariant. -/
theorem run_good (hP : P.Lawful) {Prog : Co S α → Prop} (hProg : ∀ p, Prog p → p.Correct P)
    {c : Pool S α} (hc : c.Good P) {ms : List (Move S α)} (hms : c.LegalRun P Prog ms) :
    (c.run ms).Good P :=
  (run_invariant hP hProg (Φ := fun _ => True) (fun _ _ _ _ _ h => h) hc hms trivial).2

lemma good_init {s : S.State} (h : P.Inv ⟨s, []⟩) : (Pool.init s : Pool S α).Good P :=
  ⟨h, fun _ _ => rfl, fun i t ht => by simp [init] at ht⟩

end Pool
