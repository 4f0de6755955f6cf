import ConstellationGate.Lib.Dict

/-!
# Dictionaries that are filled entry by entry

A loop reads entries one after the other, refuses some, and stores what becomes of the others under
keys that it computes.  An entry whose key was stored before replaces the earlier one without a
trace.  Either the loop stops at an entry that is refused, or what it returns has exactly one entry
for each that was read (`OnePerEntry`), exactly when an entry is refused or the computed keys are
distinct (`collect_keeps_iff`).
-/

namespace Dict

variable {κ ν : Type*} [DecidableEq κ]

lemma store_of_notMem {es : List (κ × ν)} {key : κ} (h : key ∉ es.map Prod.fst) (val : ν) :
    store es key val = es ++ [(key, val)] := by
  induction es with
  | nil => rfl
  | cons e es ih =>
    obtain ⟨k, v⟩ := e
    rw [List.map_cons, List.mem_cons, not_or] at h
    rw [store, if_neg (Ne.symm h.1), ih h.2, List.cons_append]

/-- Entries with new and distinct keys go to the end. -/
lemma entries_update {d : Dict κ ν} {es : List (κ × ν)}
    (h : (d.keys ++ es.map Prod.fst).Nodup) : (d.update es).entries = d.entries ++ es := by
  induction es generalizing d with
  | nil => simp [update]
  | cons e es ih =>
    have hnew : e.1 ∉ d.entries.map Prod.fst := fun hmem =>
      (List.disjoint_of_nodup_append h) hmem (by simp)
    have hset : (d.set e.1 e.2).entries = d.entries ++ [e] := store_of_notMem hnew e.2
    have hkeys : (d.set e.1 e.2).keys = d.keys ++ [e.1] := by
      rw [keys, hset, List.map_append, List.map_singleton, keys]
    rw [update, List.foldl_cons, ← update, ih, hset, List.append_assoc, List.singleton_append]
    rw [hkeys, List.append_assoc]
    exact h

/-- A dictionary is filled by its own entries. -/
lemma update_entries (d : Dict κ ν) : empty.update d.entries = d := by
  have hentries : ((empty : Dict κ ν).update d.entries).entries = d.entries :=
    entries_update (d := empty) d.nodup
  cases hd : (empty : Dict κ ν).update d.entries with
  | mk entries hnodup =>
    rw [hd] at hentries
    cases d with
    | mk entries' hnodup' =>
      obtain rfl : entries = entries' := hentries
      rfl

end Dict

namespace Collect

variable {α κ ν ε : Type*}

/-- Some entry is refused. -/
def Refused (entry : α → Except ε (κ × ν)) (as : List α) : Prop :=
  ∃ a ∈ as, ∃ exc, entry a = .error exc

/-- The dictionary holds what becomes of each entry, in their order, and nothing else. -/
def OnePerEntry (entry : α → Except ε (κ × ν)) (as : List α) (d : Dict κ ν) : Prop :=
  List.Forall₂ (fun a e => entry a = .ok e) as d.entries

/-- The loop raises, or keeps one entry for each that it read. -/
def Keeps (entry : α → Except ε (κ × ν)) (as : List α) (result : Except ε (Dict κ ν)) : Prop :=
  (∃ exc, result = .error exc) ∨ ∃ d, result = .ok d ∧ OnePerEntry entry as d

variable {entry : α → Except ε (κ × ν)} {as : List α}

lemma refused_or_forall₂ (entry : α → Except ε (κ × ν)) (as : List α) :
    Refused entry as ∨ ∃ es, List.Forall₂ (fun a e => entry a = .ok e) as es := by
  induction as with
  | nil => exact Or.inr ⟨[], .nil⟩
  | cons a as ih =>
    rcases hentry : entry a with exc | e
    · exact Or.inl ⟨a, List.mem_cons_self, exc, hentry⟩
    · rcases ih with ⟨b, hb, hexc⟩ | ⟨es, hes⟩
      · exact Or.inl ⟨b, List.mem_cons_of_mem _ hb, hexc⟩
      · exact Or.inr ⟨e :: es, .cons hentry hes⟩

lemma not_refused (h : ∀ a ∈ as, (entry a).isOk = true) : ¬ Refused entry as := by
  rintro ⟨a, ha, exc, hexc⟩
  have hok := h a ha
  rw [hexc] at hok
  cases hok

lemma map_key {key : α → κ} (hkey : ∀ a e, entry a = .ok e → e.1 = key a) {es : List (κ × ν)}
    (h : List.Forall₂ (fun a e => entry a = .ok e) as es) : es.map Prod.fst = as.map key := by
  induction h with
  | nil => rfl
  | cons hentry _ ih => rw [List.map_cons, List.map_cons, ih, hkey _ _ hentry]

variable [DecidableEq κ]

/-- Store what becomes of the entries, one after the other, until one is refused. -/
def collect (entry : α → Except ε (κ × ν)) : List α → Dict κ ν → Except ε (Dict κ ν)
  | [], d => .ok d
  | a :: as, d =>
    match entry a with
    | .error exc => .error exc
    | .ok (key, val) => collect entry as (d.set key val)

/-- Entries of which none is refused are stored one after the other. -/
lemma collect_of_forall₂ {es : List (κ × ν)}
    (h : List.Forall₂ (fun a e => entry a = .ok e) as es) (d : Dict κ ν) :
    collect entry as d = .ok (d.update es) := by
  induction h generalizing d with
  | nil => rfl
  | cons hentry _ ih =>
    rw [collect, hentry]
    exact ih _

lemma collect_of_refused (h : Refused entry as) (d : Dict κ ν) :
    ∃ exc, collect entry as d = .error exc := by
  obtain ⟨a, ha, exc, hexc⟩ := h
  induction as generalizing d with
  | nil => cases ha
  | cons b as ih =>
    rw [collect]
    rcases hentry : entry b with exc' | ⟨key, val⟩
    · exact ⟨exc', rfl⟩
    · rcases List.mem_cons.1 ha with rfl | ha
      · rw [hexc] at hentry
        cases hentry
      · exact ih _ ha

/-- The loop goes through exactly when no entry is refused. -/
lemma exists_ok_iff {d : Dict κ ν} :
    (∃ d', collect entry as d = .ok d') ↔ ∀ a ∈ as, ∃ e, entry a = .ok e := by
  constructor
  · rintro ⟨d', hd'⟩ a ha
    rcases hentry : entry a with exc | e
    · obtain ⟨exc', hexc'⟩ := collect_of_refused ⟨a, ha, exc, hentry⟩ d
      rw [hexc'] at hd'
      cases hd'
    · exact ⟨e, rfl⟩
  · intro hall
    rcases refused_or_forall₂ entry as with ⟨a, ha, exc, hexc⟩ | ⟨es, hes⟩
    · obtain ⟨e, he⟩ := hall a ha
      rw [hexc] at he
      cases he
    · exact ⟨_, collect_of_forall₂ hes d⟩

/-- The loop raises or keeps one entry for each that it read exactly when it refuses an entry or the
computed keys are distinct. -/
theorem collect_keeps_iff {key : α → κ} (hkey : ∀ a e, entry a = .ok e → e.1 = key a) :
    Keeps entry as (collect entry as .empty) ↔ Refused entry as ∨ (as.map key).Nodup := by
  constructor
  · rintro (⟨exc, hexc⟩ | ⟨d, -, hd⟩)
    · rcases refused_or_forall₂ entry as with hrefused | ⟨es, hes⟩
      · exact Or.inl hrefused
      · rw [collect_of_forall₂ hes] at hexc
        cases hexc
    · right
      rw [← map_key hkey hd]
      exact d.nodup
  · rintro (hrefused | hnodup)
    · exact Or.inl (collect_of_refused hrefused .empty)
    · rcases refused_or_forall₂ entry as with hrefused | ⟨es, hes⟩
      · exact Or.inl (collect_of_refused hrefused .empty)
      · refine Or.inr ⟨_, collect_of_forall₂ hes .empty, ?_⟩
        have hdistinct : ((Dict.empty : Dict κ ν).keys ++ es.map Prod.fst).Nodup := by
          rw [map_key hkey hes]
          simpa using hnodup
        rw [OnePerEntry, Dict.entries_update hdistinct]
        exact hes

end Collect
