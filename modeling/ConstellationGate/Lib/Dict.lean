import Mathlib.Data.List.Basic
import Mathlib.Data.List.Nodup
import Mathlib.Data.List.Forall2

/-!
# Insertion-ordered dictionaries

A dictionary keeps its entries in the order in which their keys were first
inserted; storing under a key that is present replaces the value in place.  The
keys of a dictionary are distinct by construction, so that the list of entries
and the lookup function determine each other up to order (`Dict.mem_entries_iff`).

Nothing here is about a particular program: keys and values are arbitrary types.
-/

/-- A dictionary as the list of its entries, in insertion order. -/
structure Dict (κ ν : Type*) where
  /-- The entries, oldest key first. -/
  entries : List (κ × ν)
  /-- No key occurs twice. -/
  nodup : (entries.map Prod.fst).Nodup
deriving DecidableEq

namespace Dict

variable {κ ν : Type*}

/-- The keys, in insertion order. -/
def keys (d : Dict κ ν) : List κ := d.entries.map Prod.fst

/-- The values, in the order of their keys. -/
def values (d : Dict κ ν) : List ν := d.entries.map Prod.snd

/-- The dictionary without entries. -/
def empty : Dict κ ν := ⟨[], List.nodup_nil⟩

instance : Inhabited (Dict κ ν) := ⟨empty⟩

@[simp] lemma entries_empty : (empty : Dict κ ν).entries = [] := rfl

@[simp] lemma keys_empty : (empty : Dict κ ν).keys = [] := rfl

@[simp] lemma values_empty : (empty : Dict κ ν).values = [] := rfl

section Lookup

variable [DecidableEq κ]

/-- The value of the first entry under a key. -/
def find : List (κ × ν) → κ → Option ν
  | [], _ => none
  | (k, v) :: es, key => if k = key then some v else find es key

/-- Store a value: in place when the key is present, at the end otherwise. -/
def store : List (κ × ν) → κ → ν → List (κ × ν)
  | [], key, val => [(key, val)]
  | (k, v) :: es, key, val => if k = key then (k, val) :: es else (k, v) :: store es key val

lemma find_eq_none_iff {es : List (κ × ν)} {key : κ} :
    find es key = none ↔ key ∉ es.map Prod.fst := by
  induction es with
  | nil => simp [find]
  | cons e es ih =>
    obtain ⟨k, v⟩ := e
    by_cases hk : k = key
    · simp [find, hk]
    · have hk' : ¬ key = k := fun h => hk h.symm
      simp only [find, if_neg hk, ih, List.map_cons, List.mem_cons, not_or]
      exact ⟨fun h => ⟨hk', h⟩, fun h => h.2⟩

lemma find_eq_some_iff {es : List (κ × ν)} (hnd : (es.map Prod.fst).Nodup) {key : κ} {val : ν} :
    find es key = some val ↔ (key, val) ∈ es := by
  induction es with
  | nil => simp [find]
  | cons e es ih =>
    obtain ⟨k, v⟩ := e
    simp only [List.map_cons, List.nodup_cons] at hnd
    by_cases hk : k = key
    · subst hk
      simp only [find, if_true, Option.some.injEq, List.mem_cons, Prod.mk.injEq, true_and]
      constructor
      · exact fun h => Or.inl h.symm
      · rintro (h | h)
        · exact h.symm
        · exact absurd (List.mem_map_of_mem (f := Prod.fst) h) hnd.1
    · have hne : ¬ (key, val) = (k, v) := by
        rintro h
        exact hk (Prod.mk.inj h).1.symm
      simp only [find, if_neg hk, ih hnd.2, List.mem_cons, hne, false_or]

lemma map_fst_store (es : List (κ × ν)) (key : κ) (val : ν) :
    (store es key val).map Prod.fst =
      if key ∈ es.map Prod.fst then es.map Prod.fst else es.map Prod.fst ++ [key] := by
  induction es with
  | nil => simp [store]
  | cons e es ih =>
    obtain ⟨k, v⟩ := e
    by_cases hk : k = key
    · simp [store, hk]
    · have hk' : ¬ key = k := fun h => hk h.symm
      simp only [store, if_neg hk, List.map_cons, ih, List.mem_cons, hk', false_or]
      split <;> simp

lemma find_store (es : List (κ × ν)) (key key' : κ) (val : ν) :
    find (store es key val) key' = if key' = key then some val else find es key' := by
  induction es with
  | nil => simp [store, find, eq_comm]
  | cons e es ih =>
    obtain ⟨k, v⟩ := e
    by_cases hk : k = key
    · subst hk
      by_cases hk' : key' = k
      · simp [store, find, hk']
      · have : ¬ k = key' := fun h => hk' h.symm
        simp [store, find, hk', this]
    · by_cases hk' : k = key'
      · subst hk'
        simp [store, find, hk]
      · simp only [store, if_neg hk, find, if_neg hk', ih]

/-- `d.get(key)`. -/
def get? (d : Dict κ ν) (key : κ) : Option ν := find d.entries key

/-- `key in d`. -/
def contains (d : Dict κ ν) (key : κ) : Bool := (d.get? key).isSome

/-- `d[key] = val`. -/
def set (d : Dict κ ν) (key : κ) (val : ν) : Dict κ ν where
  entries := store d.entries key val
  nodup := by
    rw [map_fst_store]
    split
    · exact d.nodup
    · rename_i hmem
      exact List.Nodup.append d.nodup (List.nodup_singleton key)
        (List.disjoint_singleton.2 hmem)

/-- `del d[key]`; nothing happens when the key is absent. -/
def erase (d : Dict κ ν) (key : κ) : Dict κ ν where
  entries := d.entries.filter fun e => e.1 ≠ key
  nodup := d.nodup.sublist (List.Sublist.map Prod.fst List.filter_sublist)

/-- `{k: v for k, v in d.items() if p(k, v)}`. -/
def filter (d : Dict κ ν) (p : κ → ν → Bool) : Dict κ ν where
  entries := d.entries.filter fun e => p e.1 e.2
  nodup := d.nodup.sublist (List.Sublist.map Prod.fst List.filter_sublist)

/-- `{k: f(k, v) for k, v in d.items()}`. -/
def mapValues {ν' : Type*} (d : Dict κ ν) (f : κ → ν → ν') : Dict κ ν' where
  entries := d.entries.map fun e => (e.1, f e.1 e.2)
  nodup := by
    rw [List.map_map]
    exact d.nodup

/-- `d.update(es)`: store the entries one after the other. -/
def update (d : Dict κ ν) (es : List (κ × ν)) : Dict κ ν :=
  es.foldl (fun d e => d.set e.1 e.2) d

@[simp] lemma get?_empty (key : κ) : (empty : Dict κ ν).get? key = none := rfl

@[simp] lemma contains_empty (key : κ) : (empty : Dict κ ν).contains key = false := rfl

lemma get?_set (d : Dict κ ν) (key key' : κ) (val : ν) :
    (d.set key val).get? key' = if key' = key then some val else d.get? key' :=
  find_store d.entries key key' val

@[simp] lemma get?_set_self (d : Dict κ ν) (key : κ) (val : ν) :
    (d.set key val).get? key = some val := by
  rw [get?_set, if_pos rfl]

lemma mem_entries_iff {d : Dict κ ν} {key : κ} {val : ν} :
    (key, val) ∈ d.entries ↔ d.get? key = some val :=
  (find_eq_some_iff d.nodup).symm

lemma contains_iff {d : Dict κ ν} {key : κ} :
    d.contains key = true ↔ ∃ val, d.get? key = some val := by
  rw [contains, Option.isSome_iff_exists]

lemma mem_values_iff {d : Dict κ ν} {val : ν} :
    val ∈ d.values ↔ ∃ key, d.get? key = some val := by
  simp only [values, List.mem_map, Prod.exists, exists_eq_right, mem_entries_iff]

lemma contains_eq_mem_keys {d : Dict κ ν} {key : κ} : d.contains key = true ↔ key ∈ d.keys := by
  rw [contains, Option.isSome_iff_ne_none, ne_eq, get?, find_eq_none_iff, not_not, keys]

/-- Storing under a key that is present keeps the keys. -/
lemma keys_set_of_contains {d : Dict κ ν} {key : κ} (h : d.contains key = true) (val : ν) :
    (d.set key val).keys = d.keys := by
  have hmem : key ∈ d.entries.map Prod.fst := contains_eq_mem_keys.1 h
  rw [keys, set, map_fst_store, if_pos hmem, keys]

/-- Two dictionaries with the same keys in the same order and the same values under them. -/
lemma ext_get? {d d' : Dict κ ν} (hkeys : d.keys = d'.keys)
    (hget : ∀ key, d.get? key = d'.get? key) :
    d = d' := by
  -- the entries agree, by induction on both lists
  have hentries : ∀ es es' : List (κ × ν), es.map Prod.fst = es'.map Prod.fst →
      (es.map Prod.fst).Nodup → (∀ key, find es key = find es' key) → es = es' := by
    intro es
    induction es with
    | nil =>
      intro es' hfst _ _
      exact (List.map_eq_nil_iff.1 hfst.symm).symm
    | cons e es ih =>
      intro es' hfst hnd hfind
      obtain ⟨k, v⟩ := e
      cases es' with
      | nil => cases hfst
      | cons e' es' =>
        obtain ⟨k', v'⟩ := e'
        obtain ⟨rfl, hrest⟩ := List.cons.inj hfst
        have hv : v = v' := by simpa [find] using hfind k
        simp only [List.map_cons, List.nodup_cons] at hnd
        have htail : ∀ key, find es key = find es' key := by
          intro key
          by_cases hk : k = key
          · -- the key of the head occurs in neither tail
            subst hk
            rw [find_eq_none_iff.2 hnd.1, find_eq_none_iff.2 (hrest ▸ hnd.1)]
          · simpa [find, hk] using hfind key
        rw [hv, ih es' hrest hnd.2 htail]
  cases d with
  | mk es hnd =>
    cases d' with
    | mk es' hnd' =>
      obtain rfl := hentries es es' hkeys hnd hget
      rfl

lemma get?_erase (d : Dict κ ν) (key key' : κ) :
    (d.erase key).get? key' = if key' = key then none else d.get? key' := by
  by_cases hk : key' = key
  · rw [if_pos hk, get?, find_eq_none_iff]
    simp [erase, hk]
  · rw [if_neg hk]
    ext val
    rw [← mem_entries_iff, ← mem_entries_iff, erase]
    simp [hk]

@[simp] lemma get?_erase_self (d : Dict κ ν) (key : κ) : (d.erase key).get? key = none := by
  rw [get?_erase, if_pos rfl]

lemma get?_filter (d : Dict κ ν) (p : κ → ν → Bool) (key : κ) :
    (d.filter p).get? key = (d.get? key).filter (p key) := by
  ext val
  rw [← mem_entries_iff, filter, List.mem_filter, mem_entries_iff, Option.filter_eq_some_iff]

lemma get?_mapValues {ν' : Type*} (d : Dict κ ν) (f : κ → ν → ν') (key : κ) :
    (d.mapValues f).get? key = (d.get? key).map (f key) := by
  ext val
  rw [← mem_entries_iff, mapValues, List.mem_map, Option.map_eq_some_iff]
  constructor
  · rintro ⟨⟨k, v⟩, hmem, heq⟩
    obtain ⟨rfl, rfl⟩ := Prod.mk.inj heq
    exact ⟨v, mem_entries_iff.1 hmem, rfl⟩
  · rintro ⟨v, hv, rfl⟩
    exact ⟨(key, v), mem_entries_iff.2 hv, rfl⟩

lemma contains_set (d : Dict κ ν) (key key' : κ) (val : ν) :
    (d.set key val).contains key' = (decide (key' = key) || d.contains key') := by
  rw [contains, get?_set]
  by_cases hk : key' = key <;> simp [hk, contains]

/-- Stored entries leave what is found under other keys. -/
lemma get?_foldl_set_of_notMem {ν' : Type*} (f : κ × ν → ν') {items : List (κ × ν)} {key : κ}
    (hkey : key ∉ items.map Prod.fst) (d : Dict κ ν') :
    (items.foldl (fun d e => d.set e.1 (f e)) d).get? key = d.get? key := by
  induction items generalizing d with
  | nil => rfl
  | cons a items ih =>
    rw [List.map_cons, List.mem_cons, not_or] at hkey
    rw [List.foldl_cons, ih hkey.2, get?_set, if_neg hkey.1]

/-- Entries with distinct keys that are stored one after the other are found. -/
lemma get?_foldl_set {ν' : Type*} (f : κ × ν → ν') {items : List (κ × ν)}
    (hnodup : (items.map Prod.fst).Nodup) (d : Dict κ ν') {e : κ × ν} (he : e ∈ items) :
    (items.foldl (fun d e => d.set e.1 (f e)) d).get? e.1 = some (f e) := by
  induction items generalizing d with
  | nil => cases he
  | cons a items ih =>
    rw [List.map_cons, List.nodup_cons] at hnodup
    rw [List.foldl_cons]
    rcases List.mem_cons.1 he with rfl | he
    · rw [get?_foldl_set_of_notMem f hnodup.1, get?_set_self]
    · exact ih hnodup.2 _ he

/-- What is found after an update was there before or is one of the new entries. -/
lemma get?_update {d : Dict κ ν} {es : List (κ × ν)} {key : κ} {val : ν}
    (h : (d.update es).get? key = some val) : (key, val) ∈ es ∨ d.get? key = some val := by
  induction es generalizing d with
  | nil => exact Or.inr h
  | cons e es ih =>
    rcases ih (d := d.set e.1 e.2) h with hmem | hget
    · exact Or.inl (List.mem_cons_of_mem _ hmem)
    rw [get?_set] at hget
    split at hget
    · rename_i hkey
      obtain rfl := Option.some.inj hget
      exact Or.inl (hkey ▸ List.mem_cons_self)
    · exact Or.inr hget

/-- The values after a store are the new value and old ones. -/
lemma mem_values_set {d : Dict κ ν} {key : κ} {val val' : ν} (h : val' ∈ (d.set key val).values) :
    val' = val ∨ ∃ key', key' ≠ key ∧ d.get? key' = some val' := by
  obtain ⟨key', hkey'⟩ := mem_values_iff.1 h
  rw [get?_set] at hkey'
  by_cases hk : key' = key
  · rw [if_pos hk] at hkey'
    exact Or.inl (Option.some.inj hkey').symm
  · rw [if_neg hk] at hkey'
    exact Or.inr ⟨key', hk, hkey'⟩

end Lookup

/-! ### Mapping the values -/

lemma ext_entries {d d' : Dict κ ν} (h : d.entries = d'.entries) : d = d' := by
  obtain ⟨es, hes⟩ := d
  obtain ⟨es', hes'⟩ := d'
  obtain rfl : es = es' := h
  rfl

section MapValues

variable {ν' ν'' : Type*}

lemma values_mapValues (d : Dict κ ν) (f : ν → ν') :
    (d.mapValues fun _ val => f val).values = d.values.map f := by
  rw [values, values, mapValues, List.map_map, List.map_map]
  rfl

lemma mapValues_mapValues (d : Dict κ ν) (f : κ → ν → ν') (g : κ → ν' → ν'') :
    (d.mapValues f).mapValues g = d.mapValues fun key val => g key (f key val) := by
  refine ext_entries ?_
  show (d.entries.map _).map _ = d.entries.map _
  rw [List.map_map]
  rfl

/-- Dropping keys and mapping the values commute. -/
lemma filter_mapValues (d : Dict κ ν) (f : κ → ν → ν') (p : κ → Bool) :
    (d.mapValues f).filter (fun key _ => p key) =
      (d.filter fun key _ => p key).mapValues f := by
  refine ext_entries ?_
  show (d.entries.map _).filter _ = (d.entries.filter _).map _
  rw [List.filter_map]
  rfl

variable [DecidableEq κ]

@[simp] lemma contains_mapValues (d : Dict κ ν) (f : κ → ν → ν') (key : κ) :
    (d.mapValues f).contains key = d.contains key := by
  rw [contains, contains, get?_mapValues, Option.isSome_map]

/-- Storing a value and mapping the values commute. -/
lemma mapValues_set (d : Dict κ ν) (f : κ → ν → ν') (key : κ) (val : ν) :
    (d.set key val).mapValues f = (d.mapValues f).set key (f key val) := by
  refine ext_entries ?_
  show (store d.entries key val).map _ = store (d.entries.map _) key (f key val)
  induction d.entries with
  | nil => rfl
  | cons e es ih =>
    obtain ⟨k, v⟩ := e
    by_cases hk : k = key
    · simp [store, hk]
    · simp [store, hk, ih]

end MapValues

end Dict
