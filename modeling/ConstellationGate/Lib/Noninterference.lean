import Mathlib.Data.List.Basic

/-!
# Noninterference

A server answers every input and goes to a next state.  An observer is shown some of its answers,
and a veil says what they must not learn: it takes this out of the state and out of each input, and
it takes some inputs away altogether.

Two conditions on single steps are enough (`Veil.Unwinds`): a step whose input is taken away is not
noticed, and any other step looks like the step of the veiled input in the veiled state.  Then a
history looks like the veiled inputs in the veiled state (`view_eq`), so that histories that differ
only in what is veiled look the same (`Unwinds.view_congr`).

Nothing here is about a particular program: states, inputs, answers and views are arbitrary types.
-/

namespace Noninterference

/-- What is answered to an input, and the state after it. -/
structure Server (σ ι ο : Type*) where
  answer : σ → ι → ο
  next : σ → ι → σ

/-- What an observer is shown of an answer, and what the veil leaves of a state and of an input. -/
structure Veil (σ ι ο ν : Type*) where
  shown : ι → ο → Option ν
  state : σ → σ
  input : ι → Option ι

variable {σ ι ο ν : Type*}

namespace Server

variable (S : Server σ ι ο)

/-- The state after a history of inputs. -/
def run (s : σ) (inputs : List ι) : σ := inputs.foldl S.next s

@[simp] lemma run_nil (s : σ) : S.run s [] = s := rfl

@[simp] lemma run_cons (s : σ) (i : ι) (inputs : List ι) :
    S.run s (i :: inputs) = S.run (S.next s i) inputs := rfl

/-- What is shown of the answers to a history of inputs. -/
def view (V : Veil σ ι ο ν) : σ → List ι → List ν
  | _, [] => []
  | s, i :: inputs => (V.shown i (S.answer s i)).toList ++ view V (S.next s i) inputs

end Server

/-- The steps of the server keep to the veil. -/
structure Veil.Unwinds (V : Veil σ ι ο ν) (S : Server σ ι ο) : Prop where
  unnoticed : ∀ s i, V.input i = none →
    V.shown i (S.answer s i) = none ∧ V.state (S.next s i) = V.state s
  noticed : ∀ s i i', V.input i = some i' →
    V.shown i (S.answer s i) = V.shown i' (S.answer (V.state s) i') ∧
      V.state (S.next s i) = S.next (V.state s) i'

variable {V : Veil σ ι ο ν} {S : Server σ ι ο}

/-- A history looks like the veiled inputs in the veiled state, and what the veil leaves of the
state after it is the state after these. -/
lemma view_eq (h : V.Unwinds S) (s : σ) (inputs : List ι) :
    S.view V s inputs = S.view V (V.state s) (inputs.filterMap V.input) ∧
      V.state (S.run s inputs) = S.run (V.state s) (inputs.filterMap V.input) := by
  induction inputs generalizing s with
  | nil => exact ⟨rfl, rfl⟩
  | cons i inputs ih =>
    obtain ⟨hview, hrun⟩ := ih (S.next s i)
    rw [Server.view, Server.run_cons, hview, hrun]
    rcases hi : V.input i with _ | i'
    · obtain ⟨hshown, hstate⟩ := h.unnoticed s i hi
      rw [List.filterMap_cons_none hi, hshown, hstate]
      exact ⟨rfl, rfl⟩
    · obtain ⟨hshown, hstate⟩ := h.noticed s i i' hi
      rw [List.filterMap_cons_some hi, Server.view, Server.run_cons, hshown, hstate]
      exact ⟨rfl, rfl⟩

/-- Histories that differ only in what is veiled look the same. -/
theorem Veil.Unwinds.view_congr (h : V.Unwinds S) {s s' : σ} {inputs inputs' : List ι}
    (hstate : V.state s = V.state s')
    (hinputs : inputs.filterMap V.input = inputs'.filterMap V.input) :
    S.view V s inputs = S.view V s' inputs' ∧
      V.state (S.run s inputs) = V.state (S.run s' inputs') := by
  obtain ⟨hview, hrun⟩ := view_eq h s inputs
  obtain ⟨hview', hrun'⟩ := view_eq h s' inputs'
  rw [hview, hrun, hview', hrun', hstate, hinputs]
  exact ⟨rfl, rfl⟩

/-! ### Inputs that do nothing -/

/-- The answers to the inputs that are not dropped. -/
def Veil.dropping (dropped : ι → Bool) : Veil σ ι ο ο where
  shown i answer := if dropped i then none else some answer
  state := id
  input := Option.guard fun i => !dropped i

/-- Inputs that leave the state as it is may be dropped: the answers to the others, and the state at
the end, are the same. -/
theorem view_dropping (S : Server σ ι ο) {dropped : ι → Bool}
    (hdropped : ∀ s i, dropped i = true → S.next s i = s) (s : σ) (inputs : List ι) :
    S.view (Veil.dropping dropped) s inputs =
        S.view (Veil.dropping dropped) s (inputs.filter fun i => !dropped i) ∧
      S.run s inputs = S.run s (inputs.filter fun i => !dropped i) := by
  have hunwinds : (Veil.dropping dropped : Veil σ ι ο ο).Unwinds S :=
    { unnoticed := by
        intro s i hi
        have hdrop : dropped i = true := by
          rw [Veil.dropping, Option.guard_eq_none_iff, Bool.not_eq_false'] at hi
          exact hi
        exact ⟨if_pos hdrop, hdropped s i hdrop⟩
      noticed := by
        intro s i i' hi
        rw [Veil.dropping, Option.guard_eq_some_iff] at hi
        obtain ⟨rfl, -⟩ := hi
        exact ⟨rfl, rfl⟩ }
  refine hunwinds.view_congr rfl ?_
  show inputs.filterMap (Option.guard _) = (inputs.filter _).filterMap (Option.guard _)
  rw [List.filterMap_eq_filter, List.filter_filter]
  simp only [Bool.and_self]

end Noninterference
