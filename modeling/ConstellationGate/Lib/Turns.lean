import ConstellationGate.Lib.Footprint
import ConstellationGate.Lib.RelyGuarantee

/-!
# The turns of a coroutine

A turn of a task is what it does between two of its awaits.  `Co.Turns A R p wake s` says that the
program `p` awaits only requests in `A`, and that it writes only along `R`, which sees the reply
that has woken the task for the turn.  A segment of such a program is a sequence of those writes
(`Co.segment_turns`).

`Signature.extend` adds requests and events to a signature, so that the programs of a family can run
next to others on the same state (`Co.embed`).
-/

namespace Co

variable {S : Signature} {α β : Type} {A : S.Request → Prop}
  {R : Wake S → S.State → S.State → Prop}

/-- The program awaits requests in `A`, and writes along `R` in each of its turns. -/
def Turns (A : S.Request → Prop) (R : Wake S → S.State → S.State → Prop) :
    Co S α → Wake S → S.State → Prop
  | done _, _, _ => True
  | get k, wake, s => (k s).Turns A R wake s
  | put s' k, wake, s => R wake s s' ∧ k.Turns A R wake s'
  | emit _ k, wake, s => k.Turns A R wake s
  | await q k, _, _ => A q ∧ ∀ r s, (k r).Turns A R (some ⟨q, r⟩) s

lemma turns_handle {p : Co S α} {f : Except S.Error α → Co S β} {wake : Wake S} {s : S.State}
    (hp : p.Turns A R wake s) (hf : ∀ r wake s, (f r).Turns A R wake s) :
    (p.handle f).Turns A R wake s := by
  induction p generalizing wake s with
  | done r => exact hf r wake s
  | get k ih => exact ih s hp
  | put s' k ih => exact ⟨hp.1, ih hp.2⟩
  | emit e k ih => exact ih hp
  | await q k ih => exact ⟨hp.1, fun r s => ih r (hp.2 r s)⟩

lemma turns_bind {p : Co S α} {f : α → Co S β} {wake : Wake S} {s : S.State}
    (hp : p.Turns A R wake s) (hf : ∀ a wake s, (f a).Turns A R wake s) :
    (p >>= f).Turns A R wake s := by
  refine turns_handle hp fun r wake s => ?_
  cases r with
  | ok a => exact hf a wake s
  | error e => trivial

/-- The rule for a call that is followed by a program. -/
lemma turns_call_bind {g : S.State → Except S.Error α × S.State} {f : α → Co S β} {wake : Wake S}
    {s : S.State} (hg : R wake s (g s).2)
    (hf : ∀ a, (g s).1 = .ok a → (f a).Turns A R wake (g s).2) :
    (call g >>= f).Turns A R wake s := by
  refine ⟨hg, ?_⟩
  rcases hr : (g s).1 with e | a
  · trivial
  · exact hf a hr

lemma turns_call {g : S.State → Except S.Error α × S.State} {wake : Wake S} {s : S.State}
    (hg : R wake s (g s).2) : (call g).Turns A R wake s := ⟨hg, trivial⟩

end Co

section Segments

variable {S : Signature} {α : Type} {A : S.Request → Prop} {R : Wake S → S.State → S.State → Prop}

/-- What is left of a task keeps to `A` and `R`. -/
def Status.Turns (A : S.Request → Prop) (R : Wake S → S.State → S.State → Prop) :
    Status S α → Prop
  | .finished _ => True
  | .waiting q k => A q ∧ ∀ r s, (k r).Turns A R (some ⟨q, r⟩) s

/-- A segment is a sequence of the writes of one turn. -/
lemma Co.segment_turns {p : Co S α} {wake : Wake S} (tid : ℕ) {w : World S}
    (hp : p.Turns A R wake w.state) :
    Relation.ReflTransGen (R wake) w.state (p.segment tid w).2.state ∧
      (p.segment tid w).1.Turns A R := by
  induction p generalizing w with
  | done r => exact ⟨.refl, trivial⟩
  | get k ih => exact ih w.state hp
  | put s k ih =>
    obtain ⟨hwrites, hrest⟩ := ih (w := w.put s) hp.2
    exact ⟨.head hp.1 hwrites, hrest⟩
  | emit e k ih => exact ih (w := w.emit tid e) hp
  | await q k _ => exact ⟨.refl, hp⟩

end Segments

/-! ### More requests -/

/-- A signature with further events and requests. -/
def Signature.extend (S : Signature) (E Q : Type) (R : Q → Type) : Signature where
  State := S.State
  Event := S.Event ⊕ E
  Error := S.Error
  Request := S.Request ⊕ Q
  Reply := Sum.elim S.Reply R

section Extend

variable {S : Signature} {E Q : Type} {R : Q → Type} {α : Type}

/-- The same program, over the extended signature. -/
def Co.embed : Co S α → Co (S.extend E Q R) α
  | .done r => .done r
  | .get k => .get fun s => (k s).embed
  | .put s k => .put s k.embed
  | .emit e k => .emit (.inl e) k.embed
  | .await q k => .await (.inl q) fun r => (k r).embed

/-- The same reply, over the extended signature. -/
def Wake.embed (wake : Wake S) : Wake (S.extend E Q R) := wake.map fun w => ⟨.inl w.1, w.2⟩

lemma Co.turns_embed {A : S.Request ⊕ Q → Prop}
    {W : Wake (S.extend E Q R) → S.State → S.State → Prop} {p : Co S α} {wake : Wake S}
    {s : S.State} (hp : p.Turns (fun q => A (.inl q)) (fun wake => W wake.embed) wake s) :
    (p.embed (E := E) (R := R)).Turns (S := S.extend E Q R) A W wake.embed s := by
  induction p generalizing wake s with
  | done r => trivial
  | get k ih => exact ih s hp
  | put s' k ih => exact ⟨hp.1, ih hp.2⟩
  | emit e k ih => exact ih hp
  | await q k ih => exact ⟨hp.1, fun r s => ih r (hp.2 r s)⟩

end Extend
