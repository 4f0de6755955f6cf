import Mathlib.Data.List.Find
import Mathlib.Data.List.Nodup
import Mathlib.Data.List.Perm.Basic

/-!
# The first match in a table

A table that is searched for its first matching entry gives one answer in whatever order its entries
stand exactly when all entries that match have one value (`firstMatch_perm_iff`).  A table that is
searched for a key is the special case of at most one match (`lookup_perm`).
-/

namespace FirstMatch

variable {κ ν : Type*}

/-- The value of the first entry that matches. -/
def firstMatch (table : List (κ × ν)) (matching : κ → Bool) : Option ν :=
  (table.find? fun e => matching e.1).map Prod.snd

/-- Any two entries that match have one value. -/
def OneValue (table : List (κ × ν)) (matching : κ → Bool) : Prop :=
  ∀ e ∈ table, ∀ e' ∈ table, matching e.1 = true → matching e'.1 = true → e.2 = e'.2

variable {table table' : List (κ × ν)} {matching : κ → Bool}

lemma firstMatch_cons (e : κ × ν) (table : List (κ × ν)) (matching : κ → Bool) :
    firstMatch (e :: table) matching =
      if matching e.1 then some e.2 else firstMatch table matching := by
  by_cases hmatch : matching e.1 = true <;> simp [firstMatch, hmatch]

lemma firstMatch_eq_none_iff :
    firstMatch table matching = none ↔ ∀ e ∈ table, matching e.1 = false := by
  simp [firstMatch]

lemma exists_of_firstMatch {v : ν} (h : firstMatch table matching = some v) :
    ∃ e ∈ table, matching e.1 = true ∧ e.2 = v := by
  obtain ⟨e, hfind, rfl⟩ := Option.map_eq_some_iff.1 h
  exact ⟨e, List.mem_of_find?_eq_some hfind, by simpa using List.find?_some hfind, rfl⟩

lemma isSome_firstMatch {e : κ × ν} (he : e ∈ table) (hmatch : matching e.1 = true) :
    (firstMatch table matching).isSome = true := by
  rw [Option.isSome_iff_ne_none, ne_eq, firstMatch_eq_none_iff]
  intro hnone
  simp [hnone e he] at hmatch

lemma firstMatch_perm (hone : OneValue table matching) (hperm : table'.Perm table) :
    firstMatch table' matching = firstMatch table matching := by
  rcases h : firstMatch table matching with _ | v
  · rw [firstMatch_eq_none_iff] at h ⊢
    exact fun e he => h e (hperm.mem_iff.1 he)
  · obtain ⟨e, he, hmatch, rfl⟩ := exists_of_firstMatch h
    obtain ⟨v, hv⟩ := Option.isSome_iff_exists.1 (isSome_firstMatch (hperm.mem_iff.2 he) hmatch)
    obtain ⟨e', he', hmatch', rfl⟩ := exists_of_firstMatch hv
    rw [hv, hone e he e' (hperm.mem_iff.1 he') hmatch hmatch']

/-- The first match does not depend on the order of the table exactly when all matches have one
value. -/
theorem firstMatch_perm_iff :
    (∀ table' : List (κ × ν), table'.Perm table →
      firstMatch table' matching = firstMatch table matching) ↔ OneValue table matching := by
  classical
  constructor
  · intro horder e he e' he' hmatch hmatch'
    -- each of the two entries is moved to the front
    have hfront : ∀ e ∈ table, matching e.1 = true → firstMatch table matching = some e.2 := by
      intro e he hmatch
      rw [← horder (e :: table.erase e) (List.perm_cons_erase he).symm, firstMatch_cons,
        if_pos hmatch]
    exact Option.some.inj ((hfront e he hmatch).symm.trans (hfront e' he' hmatch'))
  · exact fun hone table' hperm => firstMatch_perm hone hperm

variable [DecidableEq κ]

lemma lookup_eq_firstMatch (table : List (κ × ν)) (key : κ) :
    table.lookup key = firstMatch table fun k => key == k := by
  induction table with
  | nil => rfl
  | cons e table ih =>
    obtain ⟨k, v⟩ := e
    rw [List.lookup_cons, firstMatch_cons, ih]
    by_cases hk : key = k
    · simp [hk]
    · rw [beq_false_of_ne hk]
      rfl

lemma lookup_eq_none_iff {key : κ} : table.lookup key = none ↔ key ∉ table.map Prod.fst := by
  rw [lookup_eq_firstMatch, firstMatch_eq_none_iff, List.mem_map]
  constructor
  · rintro h ⟨e, he, rfl⟩
    simpa using h e he
  · exact fun h e he => beq_false_of_ne fun hkey => h ⟨e, he, hkey.symm⟩

lemma lookup_perm (hkeys : (table.map Prod.fst).Nodup) (hperm : table'.Perm table) (key : κ) :
    table'.lookup key = table.lookup key := by
  rw [lookup_eq_firstMatch, lookup_eq_firstMatch]
  refine firstMatch_perm ?_ hperm
  intro e he e' he' hk hk'
  have hsame : e.1 = e'.1 := (eq_of_beq hk).symm.trans (eq_of_beq hk')
  exact congrArg Prod.snd (List.inj_on_of_nodup_map hkeys he he' hsame)

end FirstMatch
