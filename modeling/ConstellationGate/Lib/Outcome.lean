import ConstellationGate.Lib.Coroutine

/-!
# The outcomes of a coroutine

`Co.Ends L P p` says that the program `p` ends with an outcome in `P` whenever the replies to its
awaits are in `L`, whatever the states are that it reads.  It passes through handlers
(`Co.ends_handle`) and is kept by the segments of a run (`Co.segment_ends`), so that a fact about
the outcome of a task can be established when the task starts.
-/

/-- Which replies to a request are legal. -/
abbrev Replies (S : Signature) := ∀ q : S.Request, Except S.Error (S.Reply q) → Prop

namespace Co

variable {S : Signature} {α β : Type} {L : Replies S} {P Q : Except S.Error α → Prop}

/-- With legal replies, the program ends with an outcome in `P`. -/
def Ends (L : Replies S) (P : Except S.Error α → Prop) : Co S α → Prop
  | done r => P r
  | get k => ∀ s, (k s).Ends L P
  | put _ k => k.Ends L P
  | emit _ k => k.Ends L P
  | await q k => ∀ r, L q r → (k r).Ends L P

lemma Ends.mono {p : Co S α} (h : p.Ends L P) (hPQ : ∀ r, P r → Q r) : p.Ends L Q := by
  induction p with
  | done r => exact hPQ r h
  | get k ih => exact fun s => ih s (h s)
  | put s k ih => exact ih h
  | emit e k ih => exact ih h
  | await q k ih => exact fun r hr => ih r (h r hr)

/-- What holds of every outcome holds of this one. -/
lemma ends_of_forall (hP : ∀ r, P r) (p : Co S α) : p.Ends L P := by
  induction p with
  | done r => exact hP r
  | get k ih => exact ih
  | put s k ih => exact ih
  | emit e k ih => exact ih
  | await q k ih => exact fun r _ => ih r

lemma ends_handle {p : Co S α} {f : Except S.Error α → Co S β} {P : Except S.Error β → Prop} :
    (p.handle f).Ends L P ↔ p.Ends L fun r => (f r).Ends L P := by
  induction p with
  | done r => exact Iff.rfl
  | get k ih => exact forall_congr' ih
  | put s k ih => exact ih
  | emit e k ih => exact ih
  | await q k ih => exact forall_congr' fun r => imp_congr_right fun _ => ih r

/-- The rule for sequencing: an exception of the first program is the outcome of the whole. -/
lemma ends_bind {p : Co S α} {f : α → Co S β} {P : Except S.Error β → Prop}
    (hp : p.Ends L fun r => ∀ e, r = .error e → P (.error e)) (hf : ∀ a, (f a).Ends L P) :
    (p >>= f).Ends L P := by
  refine ends_handle.2 (hp.mono fun r hr => ?_)
  cases r with
  | ok a => exact hf a
  | error e => exact hr e rfl

lemma ends_attempt {p : Co S α} {P : Except S.Error (Except S.Error α) → Prop}
    (hp : p.Ends L fun r => P (.ok r)) : p.attempt.Ends L P := ends_handle.2 hp

@[simp] lemma ends_done {r : Except S.Error α} : (done r : Co S α).Ends L P ↔ P r := Iff.rfl

@[simp] lemma ends_pure {a : α} : (pure a : Co S α).Ends L P ↔ P (.ok a) := Iff.rfl

@[simp] lemma ends_raise {e : S.Error} : (raise e : Co S α).Ends L P ↔ P (.error e) := Iff.rfl

@[simp] lemma ends_call {f : S.State → Except S.Error α × S.State} :
    (call f).Ends L P ↔ ∀ s, P (f s).1 := Iff.rfl

@[simp] lemma ends_read {f : S.State → α} : (read f).Ends L P ↔ ∀ s, P (.ok (f s)) := Iff.rfl

@[simp] lemma ends_log {e : S.Event} {P : Except S.Error Unit → Prop} :
    (log e).Ends L P ↔ P (.ok ()) := Iff.rfl

@[simp] lemma ends_request {q : S.Request} {P : Except S.Error (S.Reply q) → Prop} :
    (request q).Ends L P ↔ ∀ r, L q r → P r := Iff.rfl

end Co

/-- The outcome of a task is in `P`, or will be. -/
def Status.Ends {S : Signature} {α : Type} (L : Replies S) (P : Except S.Error α → Prop) :
    Status S α → Prop
  | .finished r => P r
  | .waiting q k => ∀ r, L q r → (k r).Ends L P

/-- A segment keeps what the program promises. -/
lemma Co.segment_ends {S : Signature} {α : Type} {L : Replies S} {P : Except S.Error α → Prop}
    {p : Co S α} (h : p.Ends L P) (tid : ℕ) (w : World S) : (p.segment tid w).1.Ends L P := by
  induction p generalizing w with
  | done r => exact h
  | get k ih => exact ih w.state (h w.state) w
  | put s k ih => exact ih h (w.put s)
  | emit e k ih => exact ih h (w.emit tid e)
  | await q k _ => exact h
