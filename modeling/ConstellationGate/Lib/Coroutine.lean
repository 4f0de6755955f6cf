import Mathlib.Data.List.Basic
import Mathlib.Algebra.BigOperators.Group.List.Basic
import Mathlib.Data.Set.Insert
import Mathlib.Tactic.Ring

/-!
# Coroutines on a shared state

A coroutine runs atomically until it awaits something; it is then suspended with a
request, other coroutines run, and it is resumed with a reply or with an exception
raised at the await.  `Co S α` is the syntax of such programs, a free monad over
reading and writing the shared state, emitting an event and awaiting a request.
Exceptions are outcomes: `Co.handle` continues a program with its outcome, and
sequencing, `try … except` and `try … finally` are instances of it.

`Co.segment` runs a program to its next await.  A `Pool` is a world together with
any number of tasks; `Pool.step` lets one task run one segment, starts a task, or
lets the environment change the shared state.  `Pool.run` iterates it: every interleaving
of the tasks, in which nothing happens between two awaits of a task but the task
itself, is the run of a list of moves.

The log of the world records, for each emitted event, the task that emitted it.
-/

/-- What the programs of a family may do: the shared state, the events they emit, the
exceptions they raise, the requests they await and the replies to them. -/
structure Signature where
  State : Type
  Event : Type
  Error : Type
  Request : Type
  Reply : Request → Type

/-- A coroutine with results in `α`. -/
inductive Co (S : Signature) (α : Type) : Type
  /-- Finished, with a result or an exception. -/
  | done (r : Except S.Error α)
  /-- Read the shared state. -/
  | get (k : S.State → Co S α)
  /-- Write the shared state. -/
  | put (s : S.State) (k : Co S α)
  /-- Record an event. -/
  | emit (e : S.Event) (k : Co S α)
  /-- Wait for a request to be answered. -/
  | await (q : S.Request) (k : Except S.Error (S.Reply q) → Co S α)

namespace Co

variable {S : Signature} {α β : Type}

/-- Continue a program with its outcome. -/
def handle : Co S α → (Except S.Error α → Co S β) → Co S β
  | done r, f => f r
  | get k, f => get fun s => (k s).handle f
  | put s k, f => put s (k.handle f)
  | emit e k, f => emit e (k.handle f)
  | await q k, f => await q fun r => (k r).handle f

/-- Continue a program with its result; an exception is passed on. -/
protected def bind (p : Co S α) (f : α → Co S β) : Co S β :=
  p.handle fun r =>
    match r with
    | .ok a => f a
    | .error e => done (.error e)

instance : Monad (Co S) where
  pure a := done (.ok a)
  bind := Co.bind

/-- `raise e`. -/
def raise (e : S.Error) : Co S α := done (.error e)

/-- The outcome of a program as a value. -/
def attempt (p : Co S α) : Co S (Except S.Error α) := p.handle fun r => done (.ok r)

/-- A call that does not await: a function of the state that may raise. -/
def call (f : S.State → Except S.Error α × S.State) : Co S α :=
  get fun s => put (f s).2 (done (f s).1)

/-- A value read from the state. -/
def read (f : S.State → α) : Co S α := get fun s => done (.ok (f s))

/-- Record an event. -/
def log (e : S.Event) : Co S Unit := emit e (done (.ok ()))

/-- Wait for a request to be answered. -/
def request (q : S.Request) : Co S (S.Reply q) := await q done

end Co

/-- The events of one task in a log, in order. -/
def eventsIn {ε : Type} (tid : ℕ) (log : List (ℕ × ε)) : List ε :=
  (log.filter fun e => e.1 = tid).map Prod.snd

lemma eventsIn_append {ε : Type} (tid : ℕ) (log log' : List (ℕ × ε)) :
    eventsIn tid (log ++ log') = eventsIn tid log ++ eventsIn tid log' := by
  simp [eventsIn]

lemma mem_eventsIn {ε : Type} {tid : ℕ} {log : List (ℕ × ε)} {e : ε} :
    e ∈ eventsIn tid log ↔ (tid, e) ∈ log := by
  simp [eventsIn]

lemma eventsIn_map_self {ε : Type} (tid : ℕ) (events : List ε) :
    eventsIn tid (events.map (Prod.mk tid)) = events := by
  induction events with
  | nil => rfl
  | cons e events ih => simpa [eventsIn] using ih

/-- An entry of a log that has grown by one is the new entry, or it was there. -/
lemma concat_eq_split {ε : Type} {log before after : List ε} {e x : ε}
    (h : log ++ [x] = before ++ e :: after) :
    log = before ∧ x = e ∨ ∃ after', log = before ++ e :: after' := by
  rcases List.eq_nil_or_concat after with rfl | ⟨after', y, rfl⟩
  · obtain ⟨hlog, hlast⟩ := List.append_inj' h rfl
    exact .inl ⟨hlog, List.singleton_inj.1 hlast⟩
  · rw [List.concat_eq_append, ← List.cons_append, ← List.append_assoc] at h
    exact .inr ⟨after', List.append_inj_left' h rfl⟩

/-- The shared state and the events emitted so far, each with its task. -/
structure World (S : Signature) where
  state : S.State
  log : List (ℕ × S.Event)

namespace World

variable {S : Signature}

/-- The world after task `tid` has emitted `e`. -/
def emit (w : World S) (tid : ℕ) (e : S.Event) : World S := { w with log := w.log ++ [(tid, e)] }

/-- The world after a write of the state. -/
def put (w : World S) (s : S.State) : World S := { w with state := s }

@[simp] lemma emit_state (w : World S) (tid : ℕ) (e : S.Event) : (w.emit tid e).state = w.state :=
  rfl

@[simp] lemma emit_log (w : World S) (tid : ℕ) (e : S.Event) :
    (w.emit tid e).log = w.log ++ [(tid, e)] := rfl

@[simp] lemma put_state (w : World S) (s : S.State) : (w.put s).state = s := rfl

@[simp] lemma put_log (w : World S) (s : S.State) : (w.put s).log = w.log := rfl

/-- The events emitted by a task, in order. -/
def eventsOf (tid : ℕ) (w : World S) : List S.Event := eventsIn tid w.log

@[simp] lemma eventsOf_put (w : World S) (tid : ℕ) (s : S.State) :
    (w.put s).eventsOf tid = w.eventsOf tid := rfl

@[simp] lemma eventsOf_emit (w : World S) (tid : ℕ) (e : S.Event) :
    (w.emit tid e).eventsOf tid = w.eventsOf tid ++ [e] := by
  simp [eventsOf, eventsIn]

end World

/-- A task that has been started: finished, or suspended at a request. -/
inductive Status (S : Signature) (α : Type) : Type
  | finished (r : Except S.Error α)
  | waiting (q : S.Request) (k : Except S.Error (S.Reply q) → Co S α)

/-- The request at which a task is suspended. -/
def Status.request? {S : Signature} {α : Type} : Status S α → Option S.Request
  | finished _ => none
  | waiting q _ => some q

/-- The outcome of a finished task. -/
def Status.outcome? {S : Signature} {α : Type} : Status S α → Option (Except S.Error α)
  | finished r => some r
  | waiting _ _ => none

/-- The exception with which a task has ended. -/
def Status.exception? {S : Signature} {α : Type} : Status S α → Option S.Error
  | finished (.error e) => some e
  | _ => none

lemma Status.exception?_eq_some {S : Signature} {α : Type} {t : Status S α} {e : S.Error} :
    t.exception? = some e ↔ t = .finished (.error e) := by
  rcases t with (e' | a) | ⟨q, k⟩
  · simp [Status.exception?]
  · simp [Status.exception?]
  · simp [Status.exception?]

/-- Run task `tid` to its next await or to its end. -/
def Co.segment {S : Signature} {α : Type} (tid : ℕ) : Co S α → World S → Status S α × World S
  | .done r, w => (.finished r, w)
  | .get k, w => (k w.state).segment tid w
  | .put s k, w => k.segment tid (w.put s)
  | .emit e k, w => k.segment tid (w.emit tid e)
  | .await q k, w => (.waiting q k, w)

/-- A program that begins with a call that raises. -/
lemma Co.segment_bind_call_error {S : Signature} {α β : Type} {tid : ℕ} {w : World S}
    {f : S.State → Except S.Error α × S.State} {k : α → Co S β} {e : S.Error} {s : S.State}
    (h : f w.state = (.error e, s)) :
    (Co.call f >>= k).segment tid w = (.finished (.error e), w.put s) := by
  change Co.segment tid (match (f w.state).1 with
    | .ok a => k a
    | .error e => Co.done (.error e)) (w.put (f w.state).2) = _
  rw [h]
  rfl

/-- A program that begins with a call that returns. -/
lemma Co.segment_bind_call_ok {S : Signature} {α β : Type} {tid : ℕ} {w : World S}
    {f : S.State → Except S.Error α × S.State} {k : α → Co S β} {a : α} {s : S.State}
    (h : f w.state = (.ok a, s)) :
    (Co.call f >>= k).segment tid w = (k a).segment tid (w.put s) := by
  have hcall : (Co.call f >>= k).segment tid w =
      ((Co.done (f w.state).1 : Co S α) >>= k).segment tid (w.put (f w.state).2) := rfl
  rw [hcall, h]
  rfl

/-- Continue a segment of a program with its outcome. -/
def Co.resumeWith {S : Signature} {α β : Type} (tid : ℕ) (f : Except S.Error α → Co S β) :
    Status S α × World S → Status S β × World S
  | (.finished r, w) => (f r).segment tid w
  | (.waiting q k, w) => (.waiting q fun r => (k r).handle f, w)

lemma Co.segment_handle {S : Signature} {α β : Type} (tid : ℕ) (p : Co S α)
    (f : Except S.Error α → Co S β) (w : World S) :
    (p.handle f).segment tid w = Co.resumeWith tid f (p.segment tid w) := by
  induction p generalizing w with
  | done r => rfl
  | get k ih => exact ih w.state w
  | put s k ih => exact ih (w.put s)
  | emit e k ih => exact ih (w.emit tid e)
  | await q k _ => rfl

/-- A world and the tasks that run on it, in the order in which they were started. -/
structure Pool (S : Signature) (α : Type) where
  world : World S
  tasks : List (Status S α)

/-- One move of a run. -/
inductive Move (S : Signature) (α : Type) : Type
  /-- Start a task and run it to its first await. -/
  | spawn (p : Co S α)
  /-- Resume task `i` with a reply to the request it waits for. -/
  | resume (i : ℕ) (reply : ∀ q : S.Request, Except S.Error (S.Reply q))
  /-- The environment changes the shared state. -/
  | environ (f : S.State → S.State)

namespace Pool

variable {S : Signature} {α : Type}

/-- The pool without tasks. -/
def init (s : S.State) : Pool S α := ⟨⟨s, []⟩, []⟩

/-- The pool after a move; resuming a task that does not wait does nothing. -/
def step (c : Pool S α) : Move S α → Pool S α
  | .spawn p =>
    let r := p.segment c.tasks.length c.world
    ⟨r.2, c.tasks ++ [r.1]⟩
  | .resume i reply =>
    match c.tasks[i]? with
    | some (.waiting q k) =>
      let r := (k (reply q)).segment i c.world
      ⟨r.2, c.tasks.set i r.1⟩
    | _ => c
  | .environ f => ⟨c.world.put (f c.world.state), c.tasks⟩

/-- The pool after a list of moves. -/
def run (c : Pool S α) (ms : List (Move S α)) : Pool S α := ms.foldl step c

@[simp] lemma run_nil (c : Pool S α) : c.run [] = c := rfl

@[simp] lemma run_cons (c : Pool S α) (m : Move S α) (ms : List (Move S α)) :
    c.run (m :: ms) = (c.step m).run ms := rfl

/-- The weight of the tasks that are suspended, each weighed by its request. -/
def weight (f : S.Request → ℕ) (c : Pool S α) : ℕ :=
  (c.tasks.map fun t => t.request?.elim 0 f).sum

lemma sum_map_set {τ : Type*} (f : τ → ℕ) {ts : List τ} {i : ℕ} {t : τ} (h : ts[i]? = some t)
    (t' : τ) : ((ts.set i t').map f).sum + f t = (ts.map f).sum + f t' := by
  induction ts generalizing i with
  | nil => simp at h
  | cons a ts ih =>
    cases i with
    | zero =>
      obtain rfl : a = t := by simpa using h
      simp only [List.set_cons_zero, List.map_cons, List.sum_cons]
      ring
    | succ i =>
      have hi := ih (i := i) (by simpa using h)
      simp only [List.set_cons_succ, List.map_cons, List.sum_cons]
      omega

end Pool

section Waiting

variable {S : Signature} {α : Type}

/-- The tasks that are suspended. -/
def waitingTasks (ts : List (Status S α)) : Set ℕ := {i | ∃ q k, ts[i]? = some (.waiting q k)}

lemma lt_length_of_mem_waitingTasks {ts : List (Status S α)} {i : ℕ} (h : i ∈ waitingTasks ts) :
    i < ts.length := by
  obtain ⟨q, k, hget⟩ := h
  exact (List.getElem?_eq_some_iff.1 hget).1

lemma waitingTasks_append_finished (ts : List (Status S α)) (r : Except S.Error α) :
    waitingTasks (ts ++ [.finished r]) = waitingTasks ts := by
  ext i
  rcases lt_trichotomy i ts.length with hlt | rfl | hgt
  · simp [waitingTasks, List.getElem?_append_left hlt]
  · simp [waitingTasks]
  · simp [waitingTasks, List.getElem?_append_right hgt.le, Nat.sub_ne_zero_of_lt hgt, hgt.le]

lemma waitingTasks_append_waiting (ts : List (Status S α)) (q : S.Request)
    (k : Except S.Error (S.Reply q) → Co S α) :
    waitingTasks (ts ++ [.waiting q k]) = insert ts.length (waitingTasks ts) := by
  ext i
  rcases lt_trichotomy i ts.length with hlt | rfl | hgt
  · simp [waitingTasks, List.getElem?_append_left hlt, hlt.ne]
  · simp [waitingTasks]
  · simp [waitingTasks, List.getElem?_append_right hgt.le, Nat.sub_ne_zero_of_lt hgt, hgt.le,
      hgt.ne']

lemma waitingTasks_set_finished (ts : List (Status S α)) (i : ℕ) (r : Except S.Error α) :
    waitingTasks (ts.set i (.finished r)) = waitingTasks ts \ {i} := by
  ext j
  by_cases hj : j = i
  · subst hj
    by_cases hlt : j < ts.length
    · simp [waitingTasks, hlt]
    · simp [waitingTasks, hlt]
  · simp [waitingTasks, List.getElem?_set_ne (Ne.symm hj), hj]

lemma waitingTasks_set_waiting {ts : List (Status S α)} {i : ℕ} (h : i ∈ waitingTasks ts)
    (q : S.Request) (k : Except S.Error (S.Reply q) → Co S α) :
    waitingTasks (ts.set i (.waiting q k)) = waitingTasks ts := by
  ext j
  by_cases hj : j = i
  · subst hj
    have hlt := lt_length_of_mem_waitingTasks h
    exact iff_of_true ⟨q, k, by simp [hlt]⟩ h
  · simp [waitingTasks, List.getElem?_set_ne (Ne.symm hj)]

end Waiting
