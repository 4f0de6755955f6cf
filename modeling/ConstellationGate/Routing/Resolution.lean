import ConstellationGate.Lib.Ranking
import ConstellationGate.Routing.RegistryRuns
import Mathlib.Data.Prod.Lex

/-!
# Resolution chooses one registration

The candidates for an action are compared by their load, their limit and their name.  No two
registrations of a registry have one name, since each is stored under its own, so that one candidate
comes before all others, in whatever order they are stored.  Without candidates there is an error,
which tells whether some node advertises the action (`resolveAction_canonical`).

An action of blanks is rejected before the registry is looked at (`blank_action_rejected`).
-/

namespace ConstellationGate

/-- The key by which candidates are sorted. -/
def NodeRegistration.sortKey (r : NodeRegistration) : ℕ ×ₗ ℕ ×ₗ String :=
  toLex (r.activeRequests, toLex (r.maxConcurrent, r.nodeName))

lemma NodeRegistration.preferredTo_iff {r s : NodeRegistration} :
    r.PreferredTo s ↔ r.sortKey ≤ s.sortKey := by
  rw [PreferredTo, sortKey, sortKey, Prod.Lex.toLex_le_toLex, Prod.Lex.toLex_le_toLex]

namespace NodeRegistry

variable {reg reg' : NodeRegistry} {action : String}

/-- Two registrations of a registry that sort alike are the same. -/
lemma eq_of_sortKey_eq (hk : reg.Keyed) {r s : NodeRegistration} (hr : r ∈ reg.nodes.values)
    (hs : s ∈ reg.nodes.values) (h : r.sortKey = s.sortKey) : r = s := by
  obtain ⟨node, hget⟩ := Dict.mem_values_iff.1 hr
  obtain ⟨node', hget'⟩ := Dict.mem_values_iff.1 hs
  have hparts : r.activeRequests = s.activeRequests ∧ r.maxConcurrent = s.maxConcurrent ∧
      r.nodeName = s.nodeName := by
    simpa [NodeRegistration.sortKey] using h
  have hname := hparts.2.2
  rw [← hk node r hget, hname, hk node' s hget', hget'] at hget
  exact (Option.some.inj hget).symm

/-- The candidates of a registry are told apart by the order. -/
lemma preferredTo_antisymm (hk : reg.Keyed) :
    ∀ r ∈ reg.candidates (normalize action), ∀ s ∈ reg.candidates (normalize action),
      r.PreferredTo s → s.PreferredTo r → r = s := by
  intro r hr s hs hrs hsr
  rw [NodeRegistration.preferredTo_iff] at hrs hsr
  exact eq_of_sortKey_eq hk (mem_candidates.1 hr).1 (mem_candidates.1 hs).1 (hrs.antisymm hsr)

/-- A stored order of the registrations gives that of the nodes that advertise an action. -/
lemma known_perm (h : reg.nodes.entries.Perm reg'.nodes.entries) (action : String) :
    (reg.known action).Perm (reg'.known action) :=
  (h.map Prod.snd).filter _

/-- The order in which the registrations are stored makes no difference. -/
lemma resolveAction_eq_of_perm (hk : reg.Keyed)
    (h : reg.nodes.entries.Perm reg'.nodes.entries) (action : String) :
    reg.resolveAction action = reg'.resolveAction action := by
  have hknown := known_perm h (normalize action)
  have hcandidates : (reg.candidates (normalize action)).Perm
      (reg'.candidates (normalize action)) := hknown.filter _
  have hsorted := List.insertionSort_eq_of_perm hcandidates (preferredTo_antisymm hk)
  have hnames := List.insertionSort_eq_of_perm (r := (· ≤ ·))
    (hknown.map fun r => r.nodeName) fun _ _ _ _ => le_antisymm
  have hempty : reg.known (normalize action) ≠ [] ↔ reg'.known (normalize action) ≠ [] := by
    rw [← List.length_pos_iff, hknown.length_eq, List.length_pos_iff]
  unfold resolveAction
  rw [hsorted, hnames]
  simp only [hempty]

/-- The three outcomes for an action that is not blank. -/
lemma resolveAction_cases (hk : reg.Keyed) (haction : normalize action ≠ "") :
    (∃ r, reg.resolveAction action = .ok r ∧ r ∈ reg.candidates (normalize action) ∧
        ∀ s ∈ reg.candidates (normalize action), s ≠ r → r.sortKey < s.sortKey) ∨
      (∃ e, reg.resolveAction action = .error e ∧ e.cls = .noHealthyNodeError ∧
        reg.candidates (normalize action) = [] ∧ reg.known (normalize action) ≠ []) ∨
      ∃ e, reg.resolveAction action = .error e ∧ e.cls = .lookupError ∧
        reg.candidates (normalize action) = [] ∧ reg.known (normalize action) = [] := by
  have hmem : ∀ r, r ∈ (reg.candidates (normalize action)).insertionSort
      NodeRegistration.PreferredTo ↔ r ∈ reg.candidates (normalize action) :=
    fun r => List.mem_insertionSort _
  have hfirst : ∀ r, ((reg.candidates (normalize action)).insertionSort
      NodeRegistration.PreferredTo).head? = some r → r ∈ reg.candidates (normalize action) ∧
        ∀ s ∈ reg.candidates (normalize action), s ≠ r → r.sortKey < s.sortKey := by
    intro r hr
    obtain ⟨hin, hleast⟩ := (List.head?_insertionSort_iff (preferredTo_antisymm hk)).1 hr
    refine ⟨hin, fun s hs hne => ?_⟩
    rw [lt_iff_le_not_ge, ← NodeRegistration.preferredTo_iff, ← NodeRegistration.preferredTo_iff]
    exact hleast s hs hne
  unfold resolveAction
  rw [if_neg haction]
  generalize (reg.candidates (normalize action)).insertionSort NodeRegistration.PreferredTo =
    sorted at hmem hfirst
  rcases sorted with - | ⟨r, rest⟩
  · have hnone : reg.candidates (normalize action) = [] :=
      List.eq_nil_iff_forall_not_mem.2 fun r hr => by cases (hmem r).2 hr
    by_cases hknown : reg.known (normalize action) = []
    · simp only [hknown, ne_eq, not_true_eq_false, if_false]
      exact Or.inr (Or.inr ⟨_, rfl, rfl, hnone, trivial⟩)
    · simp only [ne_eq, hknown, not_false_eq_true, if_true]
      exact Or.inr (Or.inl ⟨_, rfl, rfl, hnone, trivial⟩)
  · exact Or.inl ⟨r, rfl, hfirst r rfl⟩

/-- In every registry that operations lead to: an action that is not blank resolves to the one
healthy registration advertising it that comes before all others in the order of load, limit and
name; it raises `NoHealthyNodeError` exactly when nodes advertise it and none of them is healthy,
and `LookupError` exactly when no node advertises it.  A blank action is rejected.  Any order in
which the same registrations are stored gives the same result. -/
theorem resolveAction_canonical (ops : List RegistryOp) (action : String) :
    (normalize action ≠ "" →
      (∀ r, (empty.run ops).resolveAction action = .ok r ↔
        r ∈ (empty.run ops).candidates (normalize action) ∧
          ∀ s ∈ (empty.run ops).candidates (normalize action), s ≠ r → r.sortKey < s.sortKey) ∧
      ((∃ r, (empty.run ops).resolveAction action = .ok r) ↔
        (empty.run ops).candidates (normalize action) ≠ []) ∧
      ((∃ e, (empty.run ops).resolveAction action = .error e ∧ e.cls = .noHealthyNodeError) ↔
        (empty.run ops).known (normalize action) ≠ [] ∧
          (empty.run ops).candidates (normalize action) = []) ∧
      ((∃ e, (empty.run ops).resolveAction action = .error e ∧ e.cls = .lookupError) ↔
        (empty.run ops).known (normalize action) = [])) ∧
    (normalize action = "" → (empty.run ops).resolveAction action =
      .error { cls := .valueError, message := "action must not be empty" }) ∧
    ∀ reg : NodeRegistry, (empty.run ops).nodes.entries.Perm reg.nodes.entries →
      (empty.run ops).resolveAction action = reg.resolveAction action := by
  have hk := keyed_run keyed_empty ops
  generalize empty.run ops = reg at hk
  refine ⟨fun haction => ?_, fun hblank => if_pos hblank,
    fun reg' hperm => resolveAction_eq_of_perm hk hperm action⟩
  rcases resolveAction_cases hk haction with
    ⟨r, hok, hr, hleast⟩ | ⟨e, herror, hcls, hnone, hknown⟩ | ⟨e, herror, hcls, hnone, hknown⟩
  · have hsome : reg.candidates (normalize action) ≠ [] := List.ne_nil_of_mem hr
    have hknown : reg.known (normalize action) ≠ [] :=
      List.ne_nil_of_mem (List.mem_of_mem_filter hr)
    rw [hok]
    refine ⟨fun r' => ⟨?_, ?_⟩, by simp [hsome], by simp [hsome], by simp [hknown]⟩
    · intro heq
      obtain rfl := Except.ok.inj heq
      exact ⟨hr, hleast⟩
    · -- two registrations that come before all others are the same
      rintro ⟨hr', hleast'⟩
      by_contra hne
      have hne' : r ≠ r' := fun h => hne (congrArg Except.ok h)
      exact (hleast r' hr' hne'.symm).asymm (hleast' r hr hne')
  · rw [herror, hnone]
    simp [hcls, hknown]
  · rw [herror, hnone]
    simp [hcls, hknown]

/-- No node advertises a blank action, and yet there is no `LookupError`. -/
theorem blank_action_rejected :
    ¬ ∀ (ops : List RegistryOp) (action : String),
      (∃ e, (empty.run ops).resolveAction action = .error e ∧ e.cls = .lookupError) ↔
        (empty.run ops).known (normalize action) = [] := by
  intro h
  obtain ⟨e, herror, hcls⟩ := (h [] " ").2 rfl
  have hblank : normalize " " = "" := by
    decide +kernel
  rw [run_nil, resolveAction, if_pos hblank] at herror
  cases herror
  cases hcls

end NodeRegistry

end ConstellationGate
