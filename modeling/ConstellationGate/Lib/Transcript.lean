import ConstellationGate.Lib.RelyGuarantee

/-!
# Verified transcripts

The log of a pool is a transcript of what its tasks have done.  It is verified when every
entry is justified by the entries before it (`Verified`); a property of whole runs is then a
property of verified transcripts, and no longer mentions programs.

A `Discipline` is a protocol in which every task keeps the transcript verified and an
invariant of the world, and in which the state only moves in one direction.
`Discipline.At` is the assertion that carries the proof of a program through its points: it
says what the task itself has recorded so far.
-/

/-- Every entry of a log is justified by the entries before it. -/
def Verified {ε : Type} (Justified : List (ℕ × ε) → ℕ → ε → Prop) (log : List (ℕ × ε)) : Prop :=
  ∀ before tid e after, log = before ++ (tid, e) :: after → Justified before tid e

/-- A log around two of its entries. -/
lemma exists_split_pair {ε : Type} {log : List ε} {a b : ℕ} {x y : ε} (hab : a < b)
    (hx : log[a]? = some x) (hy : log[b]? = some y) :
    ∃ before mid after, log = before ++ x :: mid ++ y :: after ∧
      ∀ z ∈ mid, ∃ c, a < c ∧ c < b ∧ log[c]? = some z := by
  obtain ⟨ha, rfl⟩ := List.getElem?_eq_some_iff.1 hx
  obtain ⟨hb, rfl⟩ := List.getElem?_eq_some_iff.1 hy
  refine ⟨log.take a, (log.take b).drop (a + 1), log.drop (b + 1), ?_, fun z hz => ?_⟩
  · have hfirst : log.take a ++ log[a] :: (log.take b).drop (a + 1) = log.take b := by
      have htake : a < (log.take b).length := by
        rw [List.length_take]
        omega
      have hget : (log.take b)[a] = log[a] := List.getElem_take
      rw [← hget, List.cons_getElem_drop_succ, ← Nat.min_eq_left hab.le, ← List.take_take,
        Nat.min_eq_left hab.le, List.take_append_drop]
    rw [hfirst, List.cons_getElem_drop_succ, List.take_append_drop]
  · obtain ⟨k, hk, hkz⟩ := List.mem_iff_getElem.1 hz
    rw [List.length_drop, List.length_take] at hk
    refine ⟨a + 1 + k, by omega, by omega, ?_⟩
    rw [← hkz, List.getElem_drop, List.getElem_take, List.getElem?_eq_getElem]

namespace Verified

variable {ε : Type} {J : List (ℕ × ε) → ℕ → ε → Prop} {log : List (ℕ × ε)} {tid : ℕ} {e e' : ε}

lemma nil : Verified J [] := by
  intro before tid e after h
  cases before <;> cases h

lemma concat (h : Verified J log) (he : J log tid e) : Verified J (log ++ [(tid, e)]) := by
  intro before tid' e' after heq
  rcases concat_eq_split heq with ⟨rfl, hlast⟩ | ⟨after', hlog⟩
  · cases hlast
    exact he
  · exact h before tid' e' after' hlog

lemma of_getElem? (h : Verified J log) {i : ℕ} (hi : log[i]? = some (tid, e)) :
    J (log.take i) tid e := by
  obtain ⟨hlt, hget⟩ := List.getElem?_eq_some_iff.1 hi
  refine h (log.take i) tid e (log.drop (i + 1)) ?_
  rw [← hget]
  simp

/-- Two entries of a verified log: each is justified, and the earlier one stands in the part
before the later one. -/
lemma split_pair (h : Verified J log) {tid' : ℕ} (he : (tid, e) ∈ log) (he' : (tid', e') ∈ log) :
    (tid, e) = (tid', e') ∨
      (∃ before, before <+: log ∧ (tid, e) ∈ before ∧ J before tid' e') ∨
      ∃ before, before <+: log ∧ (tid', e') ∈ before ∧ J before tid e := by
  obtain ⟨before, after, rfl⟩ := List.append_of_mem he
  rcases List.mem_append.1 he' with hin | hin
  · exact .inr (.inr ⟨before, List.prefix_append _ _, hin, h before tid e after rfl⟩)
  · rcases List.mem_cons.1 hin with heq | hin
    · exact .inl heq.symm
    · obtain ⟨mid, after', rfl⟩ := List.append_of_mem hin
      refine .inr (.inl ⟨before ++ (tid, e) :: mid, ?_, by simp, ?_⟩)
      · exact ⟨(tid', e') :: after', by simp⟩
      · exact h (before ++ (tid, e) :: mid) tid' e' after' (by simp)

end Verified

/-- What the tasks of a pool owe to the transcript and to the shared state. -/
structure Discipline (S : Signature) where
  /-- When an event may be recorded. -/
  Justified : List (ℕ × S.Event) → ℕ → S.Event → Prop
  /-- What holds of the world between segments. -/
  Kept : World S → Prop
  /-- The direction in which the state moves. -/
  Later : S.State → S.State → Prop
  /-- What the environment may do. -/
  Env : S.State → S.State → Prop
  later_refl : ∀ s, Later s s
  later_trans : ∀ {s s' s''}, Later s s' → Later s' s'' → Later s s''
  later_of_env : ∀ {s s'}, Env s s' → Later s s'
  kept_of_env : ∀ {w s}, Kept w → Env w.state s → Kept (w.put s)

namespace Discipline

variable {S : Signature} (D : Discipline S)

/-- The protocol of a discipline. -/
def protocol : Protocol S where
  Inv w := Verified D.Justified w.log ∧ D.Kept w
  Rely tid w w' := w'.eventsOf tid = w.eventsOf tid ∧ D.Later w.state w'.state
  Guar _ st w _ := (Verified D.Justified w.log ∧ D.Kept w) ∧ D.Later st.world.state w.state
  Env := D.Env
  Legal _ _ := True

lemma protocol_lawful : D.protocol.Lawful where
  rely_refl _ w := ⟨rfl, D.later_refl w.state⟩
  rely_trans h h' := ⟨h'.1.trans h.1, D.later_trans h.2 h'.2⟩
  guar_inv _ _ _ _ h := h.1
  guar_rely _ _ _ hne _ h happ := ⟨happ.eventsOf hne, h.2⟩
  env_inv h henv := ⟨h.1, D.kept_of_env h.2 henv⟩
  env_rely _ henv := ⟨rfl, D.later_of_env henv⟩

/-- Task `tid` is at a point of its program at which `A` holds of the events that it has
recorded. -/
structure At (tid : ℕ) (A : List S.Event → Prop) (st : Start S) (w : World S) : Prop where
  verified : Verified D.Justified w.log
  kept : D.Kept w
  later : D.Later st.world.state w.state
  events : A (w.eventsOf tid)

variable {D} {tid : ℕ} {A A' : List S.Event → Prop} {st : Start S} {w : World S}

namespace At

lemma start (hinv : D.protocol.Inv w) (h : A (w.eventsOf tid)) : D.At tid A ⟨w, none⟩ w :=
  ⟨hinv.1, hinv.2, D.later_refl _, h⟩

lemma mono (h : D.At tid A st w) (hA : ∀ tr, A tr → A' tr) : D.At tid A' st w :=
  ⟨h.verified, h.kept, h.later, hA _ h.events⟩

lemma guar (h : D.At tid A st w) (q : Option S.Request) : D.protocol.Guar tid st w q :=
  ⟨⟨h.verified, h.kept⟩, h.later⟩

/-- The rule for a change of the state. -/
lemma put {s : S.State} (h : D.At tid A st w) (henv : D.Env w.state s) : D.At tid A st (w.put s) :=
  ⟨h.verified, D.kept_of_env h.kept henv, D.later_trans h.later (D.later_of_env henv), h.events⟩

/-- The rule for a recorded event. -/
lemma emit {e : S.Event} (h : D.At tid A st w) (he : D.Justified w.log tid e)
    (hkept : D.Kept (w.emit tid e)) (hA : A' (w.eventsOf tid ++ [e])) :
    D.At tid A' st (w.emit tid e) :=
  ⟨h.verified.concat he, hkept, h.later, by rwa [World.eventsOf_emit]⟩

/-- A task that is woken is where it was suspended. -/
lemma woken {w' : World S} {wake : Wake S} (h : D.At tid A st w) (hinv : D.protocol.Inv w')
    (hrely : D.protocol.Rely tid w w') : D.At tid A ⟨w', wake⟩ w' := by
  refine ⟨hinv.1, hinv.2, D.later_refl _, ?_⟩
  rw [hrely.1]
  exact h.events

end At

/-- The rule for an await. -/
lemma wp_request {q : S.Request} {post : Except S.Error (S.Reply q) → Start S → World S → Prop}
    (h : D.At tid A st w) (hpost : ∀ r st' w', D.At tid A st' w' → post r st' w') :
    (Co.request q).wp D.protocol tid post st w := by
  rw [Co.wp_request]
  exact ⟨h.guar _, fun r w' _ hinv hrely => hpost r _ w' (h.woken hinv hrely)⟩

/-- In every legal run of correct tasks the transcript is verified. -/
theorem run_verified {α : Type} {Prog : Co S α → Prop}
    (hProg : ∀ p, Prog p → p.Correct D.protocol) {s : S.State} (hs : D.Kept ⟨s, []⟩)
    {ms : List (Move S α)} (hms : (Pool.init s).LegalRun D.protocol Prog ms) :
    Verified D.Justified ((Pool.init s).run ms).world.log ∧ D.Kept ((Pool.init s).run ms).world :=
  (Pool.run_good D.protocol_lawful hProg (Pool.good_init ⟨Verified.nil, hs⟩) hms).inv

end Discipline
