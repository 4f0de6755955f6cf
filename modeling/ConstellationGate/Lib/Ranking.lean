import ConstellationGate.Lib.Dict
import Mathlib.Data.List.Sort

/-!
# Sorted lists

A list that is sorted by a total and transitive relation begins with one of its least elements.
When no two of its elements are equivalent, this element is the only one, and the sorted list does
not depend on the order in which the elements stood.

So the items of a dictionary, sorted by their keys, are the same for any two dictionaries in which
the same is found (`Dict.sortedItems_congr`).
-/

namespace List

variable {α : Type*} {r : α → α → Prop} [DecidableRel r] [Std.Total r] [IsTrans α r]
  {l l' : List α}

/-- The sorted list of elements that the relation tells apart does not depend on their order. -/
lemma insertionSort_eq_of_perm (h : l.Perm l') (hanti : ∀ a ∈ l, ∀ b ∈ l, r a b → r b a → a = b) :
    l.insertionSort r = l'.insertionSort r := by
  refine List.Perm.eq_of_pairwise ?_ (List.pairwise_insertionSort r l)
    (List.pairwise_insertionSort r l') ?_
  · intro a b ha hb
    rw [List.mem_insertionSort] at ha hb
    exact hanti a ha b (h.mem_iff.2 hb)
  · exact (List.perm_insertionSort r l).trans (h.trans (List.perm_insertionSort r l').symm)

/-- The first element of the sorted list is the least one. -/
lemma head?_insertionSort_iff (hanti : ∀ a ∈ l, ∀ b ∈ l, r a b → r b a → a = b) {a : α} :
    (l.insertionSort r).head? = some a ↔ a ∈ l ∧ ∀ b ∈ l, b ≠ a → r a b ∧ ¬ r b a := by
  have hmem : ∀ b, b ∈ l.insertionSort r ↔ b ∈ l := fun b => List.mem_insertionSort r
  have hsorted := List.pairwise_insertionSort r l
  generalize l.insertionSort r = sorted at hmem hsorted
  rcases sorted with - | ⟨first, rest⟩
  · constructor
    · intro h
      cases h
    · intro h
      cases (hmem a).2 h.1
  have hfirst : ∀ b ∈ l, b ≠ first → r first b := by
    intro b hb hne
    exact (List.pairwise_cons.1 hsorted).1 b
      ((List.mem_cons.1 ((hmem b).2 hb)).resolve_left hne)
  have hin : first ∈ l := (hmem first).1 List.mem_cons_self
  rw [List.head?_cons, Option.some.injEq]
  constructor
  · rintro rfl
    exact ⟨hin, fun b hb hne => ⟨hfirst b hb hne, fun hr =>
      hne (hanti b hb first hin hr (hfirst b hb hne))⟩⟩
  · rintro ⟨ha, hleast⟩
    by_contra hne
    exact (hleast first hin hne).2 (hfirst a ha (Ne.symm hne))

end List

namespace Dict

variable {κ ν : Type*} [LinearOrder κ]

/-- `sorted(d.items())`, by the keys, which are distinct. -/
def sortedItems (d : Dict κ ν) : List (κ × ν) :=
  d.entries.insertionSort fun e e' => e.1 ≤ e'.1

lemma mem_sortedItems {d : Dict κ ν} {e : κ × ν} : e ∈ d.sortedItems ↔ d.get? e.1 = some e.2 := by
  rw [sortedItems, List.mem_insertionSort, ← mem_entries_iff]

/-- The keys of the sorted items are distinct. -/
lemma nodup_sortedItems (d : Dict κ ν) : (d.sortedItems.map Prod.fst).Nodup :=
  (((List.perm_insertionSort _ d.entries).map Prod.fst).nodup_iff).2 d.nodup

/-- Dictionaries in which the same is found hold the same entries. -/
lemma perm_entries {d d' : Dict κ ν} (h : ∀ key, d.get? key = d'.get? key) :
    d.entries.Perm d'.entries := by
  refine (List.perm_ext_iff_of_nodup (.of_map _ d.nodup) (.of_map _ d'.nodup)).2 fun e => ?_
  rw [mem_entries_iff, mem_entries_iff, h]

/-- Sorting forgets the order in which the keys were stored. -/
lemma sortedItems_congr {d d' : Dict κ ν} (h : ∀ key, d.get? key = d'.get? key) :
    d.sortedItems = d'.sortedItems := by
  have : Std.Total fun e e' : κ × ν => e.1 ≤ e'.1 := ⟨fun e e' => le_total e.1 e'.1⟩
  have : IsTrans (κ × ν) fun e e' => e.1 ≤ e'.1 := ⟨fun _ _ _ => le_trans⟩
  refine List.insertionSort_eq_of_perm (perm_entries h) fun e he e' he' hle hge => ?_
  -- there is one value under each key
  have hkey : e.1 = e'.1 := le_antisymm hle hge
  rw [mem_entries_iff] at he he'
  rw [hkey, he'] at he
  exact Prod.ext hkey (Option.some.inj he).symm

/-- Sorting the items and mapping the values commute. -/
lemma sortedItems_mapValues {ν' : Type*} (d : Dict κ ν) (f : κ → ν → ν') :
    (d.mapValues f).sortedItems = d.sortedItems.map fun e => (e.1, f e.1 e.2) :=
  (List.map_insertionSort (fun e e' : κ × ν => e.1 ≤ e'.1) (fun e e' : κ × ν' => e.1 ≤ e'.1)
    (fun e => (e.1, f e.1 e.2)) d.entries fun _ _ _ _ => Iff.rfl).symm

end Dict
