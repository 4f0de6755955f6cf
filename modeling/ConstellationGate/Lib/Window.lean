import ConstellationGate.Lib.Dict
import Mathlib.Algebra.Order.Group.Defs
import Mathlib.Algebra.Order.Sub.Basic
import Mathlib.Order.Interval.Set.Basic

/-!
# Dictionaries that remember a window of time

A dictionary from keys to times, from which old entries are dropped, can stand for the set of
all events of a history that lie in a window `[now - window, now]`: it keeps one time for a key,
the last one (`Dict.Remembers`).  The relation starts with the empty dictionary, and it is kept
when time passes, when old entries are dropped and when an event is recorded.

Keys are arbitrary, and times are those of any ordered commutative group.
-/

namespace Dict

variable {κ τ : Type*} [DecidableEq κ] [AddCommGroup τ] [LinearOrder τ]

/-- The entries that are not older than the window. -/
def recent (seen : Dict κ τ) (window now : τ) : Dict κ τ :=
  seen.filter fun _ seenAt => !decide (window < now - seenAt)

/-- The dictionary holds the last time of each key in the history, and it holds every key that
occurs in the window before `now`. -/
structure Remembers (seen : Dict κ τ) (window : τ) (History : κ → τ → Prop) (now : τ) : Prop where
  past : ∀ {key t}, History key t → t ≤ now
  occurred : ∀ {key t}, seen.get? key = some t → History key t
  last : ∀ {key t t'}, seen.get? key = some t → History key t' → t' ≤ t
  kept : ∀ {key t}, History key t → now - window ≤ t → seen.contains key = true

variable {seen : Dict κ τ} {window now : τ} {History : κ → τ → Prop}

lemma remembers_empty (window now : τ) :
    (empty : Dict κ τ).Remembers window (fun _ _ => False) now where
  past h := h.elim
  occurred h := by cases h
  last _ h := h.elim
  kept h := h.elim

/-- An event is recorded. -/
lemma Remembers.set (h : seen.Remembers window History now) (key : κ) :
    (seen.set key now).Remembers window (fun k t => History k t ∨ k = key ∧ t = now) now where
  past := by
    rintro k t (ht | ⟨-, rfl⟩)
    · exact h.past ht
    · exact le_rfl
  occurred := by
    intro k t hget
    rw [get?_set] at hget
    split at hget
    · rename_i hk
      exact Or.inr ⟨hk, (Option.some.inj hget).symm⟩
    · exact Or.inl (h.occurred hget)
  last := by
    intro k t t' hget ht'
    rw [get?_set] at hget
    split at hget
    · -- the event is the last one under its key, since the others are not later than now
      obtain rfl := Option.some.inj hget
      rcases ht' with ht' | ⟨-, rfl⟩
      · exact h.past ht'
      · exact le_rfl
    · rename_i hk
      exact h.last hget (ht'.resolve_right fun heq => hk heq.1)
  kept := by
    rintro k t (ht | ⟨rfl, -⟩) hwindow
    · rw [contains_set, h.kept ht hwindow, Bool.or_true]
    · simp [contains_set]

/-- The history may be described in another way. -/
lemma Remembers.congr (h : seen.Remembers window History now) {History' : κ → τ → Prop}
    (heq : ∀ key t, History' key t ↔ History key t) : seen.Remembers window History' now where
  past ht := h.past ((heq _ _).1 ht)
  occurred hget := (heq _ _).2 (h.occurred hget)
  last hget ht := h.last hget ((heq _ _).1 ht)
  kept ht := h.kept ((heq _ _).1 ht)

variable [IsOrderedAddMonoid τ]

lemma get?_recent {key : κ} {t : τ} :
    (seen.recent window now).get? key = some t ↔ seen.get? key = some t ∧ now - window ≤ t := by
  rw [recent, get?_filter, Option.filter_eq_some_iff, sub_le_comm]
  simp

/-- Time passes. -/
lemma Remembers.later (h : seen.Remembers window History now) {now' : τ} (hle : now ≤ now') :
    seen.Remembers window History now' where
  past ht := (h.past ht).trans hle
  occurred := h.occurred
  last := h.last
  kept ht hwindow := h.kept ht ((sub_le_sub_right hle window).trans hwindow)

/-- Old entries are dropped. -/
lemma Remembers.recent (h : seen.Remembers window History now) :
    (seen.recent window now).Remembers window History now where
  past := h.past
  occurred hget := h.occurred (get?_recent.1 hget).1
  last hget ht := h.last (get?_recent.1 hget).1 ht
  kept ht hwindow := by
    obtain ⟨t₀, hget⟩ := contains_iff.1 (h.kept ht hwindow)
    -- the entry of the key is not older than the event
    exact contains_iff.2 ⟨t₀, get?_recent.2 ⟨hget, hwindow.trans (h.last hget ht)⟩⟩

/-- After old entries are dropped, the keys are those of the window. -/
lemma Remembers.contains_recent (h : seen.Remembers window History now) (key : κ) :
    (seen.recent window now).contains key = true ↔
      ∃ t ∈ Set.Icc (now - window) now, History key t := by
  constructor
  · intro hkey
    obtain ⟨t, hget⟩ := contains_iff.1 hkey
    have ht := h.occurred (get?_recent.1 hget).1
    exact ⟨t, ⟨(get?_recent.1 hget).2, h.past ht⟩, ht⟩
  · rintro ⟨t, hwindow, ht⟩
    exact h.recent.kept ht hwindow.1

end Dict
