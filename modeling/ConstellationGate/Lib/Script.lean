import ConstellationGate.Lib.Coroutine

/-!
# Running a coroutine against a script

A script is a list of turns of the environment: each changes the shared state while the
program is suspended and then answers its request.  `Co.play` runs a program against a
script; a statement about every script is a statement about every behaviour of the others,
as far as this program can tell.
-/

/-- A turn of the environment: what happens while a program waits, and the reply it gets. -/
structure Turn (S : Signature) where
  change : S.State → S.State
  reply : ∀ q : S.Request, Except S.Error (S.Reply q)

/-- What a program did with a script. -/
structure Played (S : Signature) (α : Type) where
  /-- The outcome; `none` when the script ended while the program was waiting. -/
  outcome : Option (Except S.Error α)
  events : List S.Event
  state : S.State
  /-- The turns that were not used. -/
  rest : List (Turn S)

/-- A request that a program has made, the state in which it made it, and the reply; there is none
when the script ended before. -/
structure Exchange (S : Signature) where
  state : S.State
  request : S.Request
  reply : Option (Except S.Error (S.Reply request))

/-- A run that was preceded by the event `e`. -/
def Played.after {S : Signature} {α : Type} (e : S.Event) (r : Played S α) : Played S α :=
  { r with events := e :: r.events }

namespace Co

variable {S : Signature} {α β : Type}

/-- Run a program against a script. -/
def play : Co S α → S.State → List (Turn S) → Played S α
  | done r, s, turns => ⟨some r, [], s, turns⟩
  | get k, s, turns => (k s).play s turns
  | put s k, _, turns => k.play s turns
  | emit e k, s, turns => (k.play s turns).after e
  | await _ _, s, [] => ⟨none, [], s, []⟩
  | await q k, s, turn :: turns => (k (turn.reply q)).play (turn.change s) turns

/-- The requests that a program makes when it is run against a script. -/
def exchanges : Co S α → S.State → List (Turn S) → List (Exchange S)
  | done _, _, _ => []
  | get k, s, turns => (k s).exchanges s turns
  | put s k, _, turns => k.exchanges s turns
  | emit _ k, s, turns => k.exchanges s turns
  | await q _, s, [] => [⟨s, q, none⟩]
  | await q k, s, turn :: turns =>
    ⟨s, q, some (turn.reply q)⟩ :: (k (turn.reply q)).exchanges (turn.change s) turns

@[simp] lemma play_done (r : Except S.Error α) (s : S.State) (turns : List (Turn S)) :
    (done r : Co S α).play s turns = ⟨some r, [], s, turns⟩ := rfl

@[simp] lemma play_raise (e : S.Error) (s : S.State) (turns : List (Turn S)) :
    (raise e : Co S α).play s turns = ⟨some (.error e), [], s, turns⟩ := rfl

@[simp] lemma play_call (f : S.State → Except S.Error α × S.State) (s : S.State)
    (turns : List (Turn S)) : (call f).play s turns = ⟨some (f s).1, [], (f s).2, turns⟩ := rfl

@[simp] lemma play_log (e : S.Event) (s : S.State) (turns : List (Turn S)) :
    (log e : Co S Unit).play s turns = ⟨some (.ok ()), [e], s, turns⟩ := rfl

@[simp] lemma play_request_nil (q : S.Request) (s : S.State) :
    (request q).play s [] = ⟨none, [], s, []⟩ := rfl

@[simp] lemma play_request_cons (q : S.Request) (s : S.State) (turn : Turn S)
    (turns : List (Turn S)) :
    (request q).play s (turn :: turns) = ⟨some (turn.reply q), [], turn.change s, turns⟩ := rfl

/-- Continue a run with its outcome. -/
def continuePlay (f : Except S.Error α → Co S β) (r : Played S α) : Played S β :=
  match r.outcome with
  | none => ⟨none, r.events, r.state, r.rest⟩
  | some o =>
    let r' := (f o).play r.state r.rest
    { r' with events := r.events ++ r'.events }

lemma continuePlay_after (f : Except S.Error α → Co S β) (e : S.Event) (r : Played S α) :
    continuePlay f (r.after e) = (continuePlay f r).after e := by
  obtain ⟨_ | o, es, s, turns⟩ := r <;> rfl

lemma play_handle (p : Co S α) (f : Except S.Error α → Co S β) (s : S.State)
    (turns : List (Turn S)) : (p.handle f).play s turns = continuePlay f (p.play s turns) := by
  induction p generalizing s turns with
  | done r => rfl
  | get k ih => exact ih s s turns
  | put s' k ih => exact ih s' turns
  | emit e k ih =>
    have hk := ih s turns
    rw [handle, play, hk, play, continuePlay_after]
  | await q k ih =>
    cases turns with
    | nil => rfl
    | cons turn turns => exact ih (turn.reply q) (turn.change s) turns

/-- A program that runs to a result goes on with what follows it. -/
lemma play_bind_ok {p : Co S α} {f : α → Co S β} {s s' : S.State} {turns turns' : List (Turn S)}
    {a : α} {es : List S.Event} (h : p.play s turns = ⟨some (.ok a), es, s', turns'⟩) :
    (p >>= f).play s turns =
      { (f a).play s' turns' with events := es ++ ((f a).play s' turns').events } := by
  change (p.handle _).play s turns = _
  rw [play_handle, h]
  rfl

/-- A program that raises does not go on. -/
lemma play_bind_error {p : Co S α} {f : α → Co S β} {s s' : S.State} {turns turns' : List (Turn S)}
    {e : S.Error} {es : List S.Event} (h : p.play s turns = ⟨some (.error e), es, s', turns'⟩) :
    (p >>= f).play s turns = ⟨some (.error e), es, s', turns'⟩ := by
  change (p.handle _).play s turns = _
  rw [play_handle, h]
  simp [continuePlay]

/-- A program that is left waiting does not go on. -/
lemma play_bind_none {p : Co S α} {f : α → Co S β} {s s' : S.State} {turns turns' : List (Turn S)}
    {es : List S.Event} (h : p.play s turns = ⟨none, es, s', turns'⟩) :
    (p >>= f).play s turns = ⟨none, es, s', turns'⟩ := by
  change (p.handle _).play s turns = _
  rw [play_handle, h]
  rfl

/-- A logged event comes before what the program does next. -/
lemma play_log_bind (e : S.Event) (f : Unit → Co S β) (s : S.State) (turns : List (Turn S)) :
    (log e >>= f).play s turns = ((f ()).play s turns).after e := rfl

lemma play_call_bind_ok {g : S.State → Except S.Error α × S.State} {f : α → Co S β}
    {s s' : S.State} {a : α} (h : g s = (.ok a, s')) (turns : List (Turn S)) :
    (call g >>= f).play s turns = (f a).play s' turns := by
  have hcall : (call g).play s turns = ⟨some (.ok a), [], s', turns⟩ := by
    rw [play_call, h]
  rw [play_bind_ok hcall]
  rfl

lemma play_call_bind_error {g : S.State → Except S.Error α × S.State} {f : α → Co S β}
    {s s' : S.State} {e : S.Error} (h : g s = (.error e, s')) (turns : List (Turn S)) :
    (call g >>= f).play s turns = ⟨some (.error e), [], s', turns⟩ := by
  have hcall : (call g).play s turns = ⟨some (.error e), [], s', turns⟩ := by
    rw [play_call, h]
  exact play_bind_error hcall

end Co
