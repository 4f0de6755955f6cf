import ConstellationGate.Lib.Dict
import Mathlib.Data.List.Induction

/-!
# Overlaid dictionaries

A dictionary that is updated by lists of entries, one list after the other.  Under each key it has
the value of the last entry with that key, and what it had before when no list has the key
(`get?_update_flatMap`).
-/

namespace Dict

variable {κ ν : Type*} [DecidableEq κ]

/-- The value of the last entry under a key. -/
def findLast (es : List (κ × ν)) (key : κ) : Option ν := find es.reverse key

lemma find_append (es es' : List (κ × ν)) (key : κ) :
    find (es ++ es') key = (find es key).or (find es' key) := by
  induction es with
  | nil => rfl
  | cons e es ih =>
    rw [List.cons_append, find, find, ih]
    split
    · rfl
    · rfl

lemma findLast_append (es es' : List (κ × ν)) (key : κ) :
    findLast (es ++ es') key = (findLast es' key).or (findLast es key) := by
  rw [findLast, List.reverse_append, find_append, findLast, findLast]

/-- The last entry under a key is one of the last list that has the key. -/
lemma findLast_flatMap {α : Type*} (f : α → List (κ × ν)) (l : List α) (key : κ) :
    findLast (l.flatMap f) key = l.reverse.findSome? fun a => findLast (f a) key := by
  induction l with
  | nil => rfl
  | cons a l ih =>
    rw [List.flatMap_cons, findLast_append, ih, List.reverse_cons, List.findSome?_append]
    simp

lemma findLast_isSome_iff {es : List (κ × ν)} {key : κ} :
    (findLast es key).isSome = true ↔ key ∈ es.map Prod.fst := by
  rw [Option.isSome_iff_ne_none, findLast, ne_eq, find_eq_none_iff, not_not, List.map_reverse,
    List.mem_reverse]

lemma update_append (d : Dict κ ν) (es es' : List (κ × ν)) :
    d.update (es ++ es') = (d.update es).update es' := List.foldl_append

/-- The last of the new entries counts, then what was there before. -/
lemma get?_update_eq (d : Dict κ ν) (es : List (κ × ν)) (key : κ) :
    (d.update es).get? key = (findLast es key).or (d.get? key) := by
  induction es using List.reverseRecOn with
  | nil => rfl
  | append_singleton es e ih =>
    rw [update_append, findLast_append]
    change ((d.update es).set e.1 e.2).get? key = _
    rw [get?_set, ih]
    by_cases hkey : key = e.1
    · subst hkey
      simp [findLast, find]
    · have hne : ¬ e.1 = key := fun h => hkey h.symm
      simp [findLast, find, hkey, hne]

/-- Under each key: the value of the last list that has the key. -/
lemma get?_update_flatMap {α : Type*} (d : Dict κ ν) (f : α → List (κ × ν)) (l : List α) (key : κ) :
    (d.update (l.flatMap f)).get? key =
      (l.reverse.findSome? fun a => findLast (f a) key).or (d.get? key) := by
  rw [get?_update_eq, findLast_flatMap]

/-- The keys: those that were there, and those of each list. -/
lemma contains_update_flatMap {α : Type*} {d : Dict κ ν} {f : α → List (κ × ν)} {l : List α}
    {key : κ} : (d.update (l.flatMap f)).contains key = true ↔
      d.contains key = true ∨ ∃ a ∈ l, key ∈ (f a).map Prod.fst := by
  rw [contains, get?_update_eq, Option.isSome_or, Bool.or_eq_true, findLast_isSome_iff,
    List.map_flatMap, List.mem_flatMap, or_comm]
  rfl

end Dict
