import ConstellationGate.Lib.Collect
import ConstellationGate.Routing.NodeRegistry

/-!
# Runs of registry operations

The operations that change a registry, as data, and what one of them can do
(`NodeRegistry.Changed`): leave the registry alone, touch one registration without
changing its identity, store a registration that passed the ownership check, or replace
everything by an accepted file.  The invariants of a registry are proved once for each
of these cases and hold along every run.

* `Keyed`: a registration is stored under its own name.
* `OwnersShare`: nodes that share an action do not have different known owners.
* `CanonicallyOwned`: a canonical action is only advertised by nodes of its owner.
-/

namespace ConstellationGate

/-- The operations on single nodes. -/
inductive NodeOp
  | register (name : String) (registration : NodeRegistration) (overwrite : Bool)
  | markHealthy (nodeName : String)
  | markUnhealthy (nodeName : String)
  | incrementActive (nodeName : String)
  | decrementActive (nodeName : String)

/-- All operations that change a registry. -/
inductive RegistryOp
  | load (doc : YamlDocument)
  | node (op : NodeOp)

/-- The registration is the same node with the same actions and the same owner; its health,
its load and its limits may differ. -/
structure NodeRegistration.SameIdentity (r s : NodeRegistration) : Prop where
  nodeName : s.nodeName = r.nodeName
  supportedActions : s.supportedActions = r.supportedActions
  metadata : s.metadata = r.metadata

lemma NodeRegistration.SameIdentity.owner {r s : NodeRegistration} (h : r.SameIdentity s) :
    s.owner = r.owner := by
  rw [NodeRegistration.owner, NodeRegistration.owner, h.nodeName, h.metadata]

namespace NodeRegistry

/-- One operation on a node. -/
def applyNode (reg : NodeRegistry) : NodeOp → Except PyError Unit × NodeRegistry
  | .register name registration overwrite => reg.registerNode name registration overwrite
  | .markHealthy nodeName => reg.markHealthy nodeName
  | .markUnhealthy nodeName => reg.markUnhealthy nodeName
  | .incrementActive nodeName => reg.incrementActive nodeName
  | .decrementActive nodeName => reg.decrementActive nodeName

/-- One operation. -/
def apply (reg : NodeRegistry) : RegistryOp → Except PyError Unit × NodeRegistry
  | .load doc => reg.loadFromYaml doc
  | .node op => reg.applyNode op

/-- The registry after operations on nodes, accepted or rejected. -/
def runNode (reg : NodeRegistry) (ops : List NodeOp) : NodeRegistry :=
  ops.foldl (fun reg op => (reg.applyNode op).2) reg

/-- The registry after operations, accepted or rejected. -/
def run (reg : NodeRegistry) (ops : List RegistryOp) : NodeRegistry :=
  ops.foldl (fun reg op => (reg.apply op).2) reg

@[simp] lemma runNode_nil (reg : NodeRegistry) : reg.runNode [] = reg := rfl

@[simp] lemma runNode_cons (reg : NodeRegistry) (op : NodeOp) (ops : List NodeOp) :
    reg.runNode (op :: ops) = (reg.applyNode op).2.runNode ops := rfl

@[simp] lemma run_nil (reg : NodeRegistry) : reg.run [] = reg := rfl

@[simp] lemma run_cons (reg : NodeRegistry) (op : RegistryOp) (ops : List RegistryOp) :
    reg.run (op :: ops) = (reg.apply op).2.run ops := rfl

/-! ### What one operation can do -/

/-- The registration `r` may be stored under its name: it passes the ownership check
against every node that stays. -/
structure Admissible (reg : NodeRegistry) (r : NodeRegistration) : Prop where
  owns : ∀ action ∈ r.supportedActions, OwnsAction r.owner action
  agrees : ∀ node s, reg.nodes.get? node = some s → node ≠ r.nodeName →
    ∀ action ∈ r.supportedActions, action ∈ s.supportedActions →
      OwnersAgree r.owner (ownerForRegistration node s.metadata)

/-- What an operation on a node can do. -/
inductive Changed (reg : NodeRegistry) : NodeRegistry → Prop
  | unchanged : Changed reg reg
  | touched (node : String) {r s : NodeRegistration} (hget : reg.nodes.get? node = some r)
      (hsame : r.SameIdentity s) : Changed reg ⟨reg.nodes.set node s⟩
  | registered {r : NodeRegistration} (hadm : reg.Admissible r) :
      Changed reg ⟨reg.nodes.set r.nodeName r⟩

lemma changed_updateNode (reg : NodeRegistry) (nodeName : String)
    {f : NodeRegistration → Except PyError NodeRegistration}
    (hf : ∀ r s, f r = .ok s → r.SameIdentity s) : Changed reg (reg.updateNode nodeName f).2 := by
  unfold updateNode
  rcases hget : reg.nodes.get? (normalize nodeName) with _ | r
  · exact .unchanged
  · rcases hfr : f r with e | s
    · simp only [hfr]
      exact .unchanged
    · simp only [hfr]
      exact .touched _ hget (hf r s hfr)

lemma get?_others (reg : NodeRegistry) {name node : String} (hne : node ≠ name)
    (overwrite : Bool) : (reg.others name overwrite).get? node = reg.nodes.get? node := by
  rw [others, Dict.get?_filter]
  rcases reg.nodes.get? node with _ | r <;> simp [Option.filter, hne]

/-- The check that `register_node` makes is the one of `Admissible`. -/
lemma admissible_of_check {reg : NodeRegistry} {r : NodeRegistration} {overwrite : Bool}
    (h : assertRegistrationOwnership r.nodeName r.supportedActions r.metadata
      ((reg.others r.nodeName overwrite).mapValues fun _ s => s.supportedActions)
      ((reg.others r.nodeName overwrite).mapValues fun node s =>
        ownerForRegistration node s.metadata) = .ok ()) : reg.Admissible r := by
  rw [assertRegistrationOwnership_ok_iff] at h
  constructor
  · intro action haction
    have hown := (h action haction).1
    rwa [(r.action_normalized action haction).1] at hown
  · intro node s hget hne action haction hshared
    have hnorm := (r.action_normalized action haction).1
    have hagree := (h action haction).2 node s.supportedActions
      (by rw [Dict.get?_mapValues, get?_others reg hne, hget]; rfl)
      (by rwa [r.nodeName_normalized]) (by rwa [hnorm])
    rwa [Dict.get?_mapValues, get?_others reg hne, hget] at hagree

lemma changed_registerNode (reg : NodeRegistry) (name : String) (registration : NodeRegistration)
    (overwrite : Bool) : Changed reg (reg.registerNode name registration overwrite).2 := by
  unfold registerNode
  by_cases hne : normalize name = ""
  · simp only [hne, dite_true]
    exact .unchanged
  rw [dif_neg hne]
  split
  · exact .unchanged
  -- the registration that is stored carries the normalised name
  have hname := registration.nodeName_storedAs (normalize name) (Text.normalize_normalize name) hne
  generalize registration.storedAs (normalize name) (Text.normalize_normalize name) hne = r
    at hname ⊢
  simp only [← hname]
  split
  · exact .unchanged
  · rename_i hcheck
    exact .registered (admissible_of_check hcheck)

/-- What an operation on a node can do. -/
theorem changed_applyNode (reg : NodeRegistry) (op : NodeOp) :
    Changed reg (reg.applyNode op).2 := by
  cases op with
  | register name registration overwrite =>
    exact changed_registerNode reg name registration overwrite
  | markHealthy nodeName =>
    exact changed_updateNode reg nodeName fun r s h => by cases h; exact ⟨rfl, rfl, rfl⟩
  | markUnhealthy nodeName =>
    exact changed_updateNode reg nodeName fun r s h => by cases h; exact ⟨rfl, rfl, rfl⟩
  | incrementActive nodeName =>
    refine changed_updateNode reg nodeName fun r s h => ?_
    split at h
    · cases h
    · cases h
      exact ⟨rfl, rfl, rfl⟩
  | decrementActive nodeName =>
    exact changed_updateNode reg nodeName fun r s h => by cases h; exact ⟨rfl, rfl, rfl⟩

/-! ### The invariants -/

/-- Every registration is stored under its own name. -/
def Keyed (reg : NodeRegistry) : Prop :=
  ∀ node r, reg.nodes.get? node = some r → r.nodeName = node

/-- Two distinct nodes with a common action do not have different known owners. -/
def OwnersShare (reg : NodeRegistry) : Prop :=
  ∀ node r node' r', reg.nodes.get? node = some r → reg.nodes.get? node' = some r' →
    node ≠ node' → ∀ action ∈ r.supportedActions, action ∈ r'.supportedActions →
      OwnersAgree r.owner r'.owner

/-- Every node owns the canonical actions that it advertises. -/
def CanonicallyOwned (reg : NodeRegistry) : Prop :=
  ∀ r ∈ reg.nodes.values, ∀ action ∈ r.supportedActions, OwnsAction r.owner action

lemma keyed_empty : empty.Keyed := by
  simp [Keyed, empty]

lemma ownersShare_empty : empty.OwnersShare := by
  simp [OwnersShare, empty]

lemma canonicallyOwned_empty : empty.CanonicallyOwned := by
  simp [CanonicallyOwned, empty]

/-- A registration is found under its own name. -/
lemma Keyed.get?_nodeName {reg : NodeRegistry} (h : reg.Keyed) {node : String}
    {r : NodeRegistration} (hget : reg.nodes.get? node = some r) :
    normalize node = node ∧ reg.nodes.get? (normalize r.nodeName) = some r := by
  obtain rfl := h node r hget
  rw [r.nodeName_normalized]
  exact ⟨rfl, hget⟩

/-- Storing a registration under its own name. -/
lemma Keyed.set {reg : NodeRegistry} (h : reg.Keyed) {node : String} {s : NodeRegistration}
    (hs : s.nodeName = node) : Keyed ⟨reg.nodes.set node s⟩ := by
  intro node' r hget
  rw [Dict.get?_set] at hget
  split at hget
  · cases hget
    rw [hs]
    exact (‹node' = node›).symm
  · exact h node' r hget

lemma Changed.keyed {reg reg' : NodeRegistry} (hc : Changed reg reg') (h : reg.Keyed) :
    reg'.Keyed := by
  cases hc with
  | unchanged => exact h
  | touched node hget hsame => exact h.set (hsame.nodeName.trans (h node _ hget))
  | registered hadm => exact h.set rfl

/-- When the registration under one node is replaced, the pairs to look at are those of
the new registration with the old ones under other nodes. -/
lemma OwnersShare.set {reg : NodeRegistry} (h : reg.OwnersShare) {node : String}
    {s : NodeRegistration}
    (hs : ∀ node' r', reg.nodes.get? node' = some r' → node ≠ node' →
      ∀ action ∈ s.supportedActions, action ∈ r'.supportedActions → OwnersAgree s.owner r'.owner) :
    OwnersShare ⟨reg.nodes.set node s⟩ := by
  intro node₁ r₁ node₂ r₂ h₁ h₂ hne action ha₁ ha₂
  rw [Dict.get?_set] at h₁ h₂
  split at h₁ <;> split at h₂
  · exact absurd (‹node₁ = node›.trans ‹node₂ = node›.symm) hne
  · cases h₁
    exact hs node₂ r₂ h₂ (fun heq => hne (‹node₁ = node›.trans heq)) action ha₁ ha₂
  · cases h₂
    exact (hs node₁ r₁ h₁ (fun heq => hne (heq.symm.trans ‹node₂ = node›.symm))
      action ha₂ ha₁).symm
  · exact h node₁ r₁ node₂ r₂ h₁ h₂ hne action ha₁ ha₂

lemma Changed.ownersShare {reg reg' : NodeRegistry} (hc : Changed reg reg') (hk : reg.Keyed)
    (h : reg.OwnersShare) : reg'.OwnersShare := by
  cases hc with
  | unchanged => exact h
  | touched node hget hsame =>
    refine h.set fun node' r' hget' hne action ha ha' => ?_
    rw [hsame.owner]
    rw [hsame.supportedActions] at ha
    exact h node _ node' r' hget hget' hne action ha ha'
  | registered hadm =>
    refine h.set fun node' r' hget' hne action ha ha' => ?_
    have howner : r'.owner = ownerForRegistration node' r'.metadata := by
      rw [NodeRegistration.owner, hk node' r' hget']
    rw [howner]
    exact hadm.agrees node' r' hget' (Ne.symm hne) action ha ha'

lemma CanonicallyOwned.set {reg : NodeRegistry} (h : reg.CanonicallyOwned) {node : String}
    {s : NodeRegistration} (hs : ∀ action ∈ s.supportedActions, OwnsAction s.owner action) :
    CanonicallyOwned ⟨reg.nodes.set node s⟩ := by
  intro r hr
  rcases Dict.mem_values_set hr with rfl | ⟨node', -, hget⟩
  · exact hs
  · exact h r (Dict.mem_values_iff.2 ⟨node', hget⟩)

lemma Changed.canonicallyOwned {reg reg' : NodeRegistry} (hc : Changed reg reg')
    (h : reg.CanonicallyOwned) : reg'.CanonicallyOwned := by
  cases hc with
  | unchanged => exact h
  | touched node hget hsame =>
    refine h.set fun action ha => ?_
    rw [hsame.owner]
    rw [hsame.supportedActions] at ha
    exact h _ (Dict.mem_values_iff.2 ⟨node, hget⟩) action ha
  | registered hadm => exact h.set hadm.owns

/-! ### Files -/

/-- The body of the loop of `load_from_yaml`. -/
def loadEntry : String × YamlEntry → Except PyError (String × NodeRegistration)
  | (name, .other) =>
    .error { cls := .valueError,
             message := "node registry entry for " ++ Text.quoted name ++ " must be a mapping" }
  | (_, .malformed e) => .error e
  | (name, .payload p) => (NodeRegistration.create name p).map fun r => (normalize name, r)

lemma loadEntries_eq (entries : List (String × YamlEntry)) (loaded : Dict String NodeRegistration) :
    loadEntries entries loaded = Collect.collect loadEntry entries loaded := by
  induction entries generalizing loaded with
  | nil => rfl
  | cons e entries ih =>
    obtain ⟨name, entry⟩ := e
    cases entry with
    | other => rfl
    | malformed exc => rfl
    | payload p =>
      rw [loadEntries, Collect.collect, loadEntry]
      rcases NodeRegistration.create name p with exc | r
      · rfl
      · exact ih _

lemma key_of_loadEntry {e : String × YamlEntry} {e' : String × NodeRegistration}
    (h : loadEntry e = .ok e') : e'.1 = normalize e.1 := by
  obtain ⟨name, entry⟩ := e
  cases entry with
  | other => cases h
  | malformed exc => cases h
  | payload p =>
    rw [loadEntry] at h
    rcases hr : NodeRegistration.create name p with exc | r
    · rw [hr] at h
      cases h
    · rw [hr] at h
      rw [← Except.ok.inj h]

/-- Every entry of the file is the mapping of a registration that validates. -/
def Accepted (entries : List (String × YamlEntry)) : Prop :=
  ∀ e ∈ entries, ∃ p r, e.2 = .payload p ∧ NodeRegistration.create e.1 p = .ok r

/-- The entry that a file has last under a name, up to normalisation. -/
def LastEntry (entries : List (String × YamlEntry)) (name : String) (p : RegistrationPayload) :
    Prop :=
  ∃ l l', entries = l ++ (name, .payload p) :: l' ∧ ∀ e ∈ l', normalize e.1 ≠ normalize name

lemma lastEntry_cons {e : String × YamlEntry} {entries : List (String × YamlEntry)} {name : String}
    {p : RegistrationPayload} :
    LastEntry (e :: entries) name p ↔ LastEntry entries name p ∨
      e = (name, .payload p) ∧ ∀ e' ∈ entries, normalize e'.1 ≠ normalize name := by
  constructor
  · rintro ⟨l, l', heq, hlast⟩
    cases l with
    | nil =>
      obtain ⟨rfl, rfl⟩ := List.cons.inj heq
      exact Or.inr ⟨rfl, hlast⟩
    | cons a l =>
      obtain ⟨-, rfl⟩ := List.cons.inj heq
      exact Or.inl ⟨l, l', rfl, hlast⟩
  · rintro (⟨l, l', rfl, hlast⟩ | ⟨rfl, hlast⟩)
    · exact ⟨e :: l, l', rfl, hlast⟩
    · exact ⟨[], entries, rfl, hlast⟩

/-- What the loop of `load_from_yaml` stores: the last entry under each name, over what was
there before. -/
lemma loadEntries_get? {entries : List (String × YamlEntry)}
    {loaded loaded' : Dict String NodeRegistration} (h : loadEntries entries loaded = .ok loaded')
    (node : String) (r : NodeRegistration) :
    loaded'.get? node = some r ↔
      (∃ name p, LastEntry entries name p ∧ normalize name = node ∧
        NodeRegistration.create name p = .ok r) ∨
      (∀ e ∈ entries, normalize e.1 ≠ node) ∧ loaded.get? node = some r := by
  induction entries generalizing loaded with
  | nil =>
    cases h
    simp [LastEntry]
  | cons e entries ih =>
    obtain ⟨name, entry⟩ := e
    cases entry with
    | other => cases h
    | malformed e => cases h
    | payload p =>
      rw [loadEntries] at h
      split at h
      · cases h
      rename_i r₀ hr₀
      rw [ih h, Dict.get?_set]
      simp only [lastEntry_cons, List.forall_mem_cons]
      by_cases hnode : node = normalize name
      · -- the entry is stored under this name; it stays unless a later one has the name as well
        subst hnode
        simp only [if_true, Option.some.injEq, ne_eq, not_true_eq_false, false_and, or_false]
        constructor
        · rintro (⟨name', p', hlast, heq, hr⟩ | ⟨hnot, rfl⟩)
          · exact ⟨name', p', Or.inl hlast, heq, hr⟩
          · exact ⟨name, p, Or.inr ⟨rfl, hnot⟩, rfl, hr₀⟩
        · rintro ⟨name', p', hlast | ⟨heq, hnot⟩, hname, hr⟩
          · exact Or.inl ⟨name', p', hlast, hname, hr⟩
          · obtain ⟨rfl, hp⟩ := Prod.mk.inj heq
            obtain rfl := YamlEntry.payload.inj hp
            rw [hr₀] at hr
            exact Or.inr ⟨hnot, Except.ok.inj hr⟩
      · -- the entry does not concern this name
        simp only [if_neg hnode, ne_eq, Ne.symm hnode, not_false_eq_true, true_and]
        refine or_congr_left ?_
        constructor
        · rintro ⟨name', p', hlast, heq, hr⟩
          exact ⟨name', p', Or.inl hlast, heq, hr⟩
        · rintro ⟨name', p', hlast | ⟨heq, -⟩, hname, hr⟩
          · exact ⟨name', p', hlast, hname, hr⟩
          · obtain ⟨rfl, -⟩ := Prod.mk.inj heq
            exact absurd hname.symm hnode

/-- A file is loaded exactly when it is accepted. -/
lemma loadEntries_ok_iff {entries : List (String × YamlEntry)}
    {loaded : Dict String NodeRegistration} :
    (∃ loaded', loadEntries entries loaded = .ok loaded') ↔ Accepted entries := by
  simp only [loadEntries_eq]
  rw [Collect.exists_ok_iff, Accepted]
  refine forall₂_congr fun e _ => ?_
  obtain ⟨name, entry⟩ := e
  cases entry with
  | other => simp [loadEntry]
  | malformed exc => simp [loadEntry]
  | payload p =>
    rcases hr : NodeRegistration.create name p with exc | r <;> simp [loadEntry, hr, Except.map]

/-- What `load_from_yaml` does: an accepted file replaces everything, any other document
changes nothing. -/
lemma loadFromYaml_cases (reg : NodeRegistry) (doc : YamlDocument) :
    (reg.loadFromYaml doc).2 = reg ∧
        (∀ entries, doc = .mapping entries → ¬ Accepted entries.entries) ∨
    ∃ entries loaded, doc = .mapping entries ∧ Accepted entries.entries ∧
      loadEntries entries.entries .empty = .ok loaded ∧ (reg.loadFromYaml doc).2 = ⟨loaded⟩ := by
  cases doc with
  | other => exact Or.inl ⟨rfl, fun _ h => by cases h⟩
  | mapping entries =>
    rcases hload : loadEntries entries.entries .empty with e | loaded
    · refine Or.inl ⟨by simp [loadFromYaml, hload], fun entries' h hacc => ?_⟩
      obtain rfl := YamlDocument.mapping.inj h
      obtain ⟨loaded', h'⟩ := loadEntries_ok_iff.2 hacc
      rw [hload] at h'
      cases h'
    · exact Or.inr ⟨entries, loaded, rfl, loadEntries_ok_iff.1 ⟨loaded, hload⟩, hload,
        by simp [loadFromYaml, hload]⟩

lemma loaded_get? {entries : Dict String YamlEntry} {loaded : Dict String NodeRegistration}
    (h : loadEntries entries.entries .empty = .ok loaded) (node : String) (r : NodeRegistration) :
    loaded.get? node = some r ↔ ∃ name p, LastEntry entries.entries name p ∧
      normalize name = node ∧ NodeRegistration.create name p = .ok r := by
  rw [loadEntries_get? h]
  simp

/-- The registry keys its registrations by their names, whatever the operation. -/
lemma keyed_apply {reg : NodeRegistry} (h : reg.Keyed) (op : RegistryOp) :
    (reg.apply op).2.Keyed := by
  cases op with
  | node op => exact (changed_applyNode reg op).keyed h
  | load doc =>
    rcases loadFromYaml_cases reg doc with ⟨heq, -⟩ | ⟨entries, loaded, -, -, hload, heq⟩
    · rw [apply, heq]
      exact h
    · rw [apply, heq]
      intro node r hget
      obtain ⟨name, p, -, rfl, hr⟩ := (loaded_get? hload node r).1 hget
      exact (NodeRegistration.of_create hr).1

lemma keyed_run {reg : NodeRegistry} (h : reg.Keyed) (ops : List RegistryOp) :
    (reg.run ops).Keyed := by
  induction ops generalizing reg with
  | nil => exact h
  | cons op ops ih => exact ih (keyed_apply h op)

/-! ### Ownership along runs -/

/-- Operations on nodes keep the keys and the agreement of owners. -/
lemma runNode_invariant {reg : NodeRegistry} (hk : reg.Keyed) (h : reg.OwnersShare)
    (ops : List NodeOp) : (reg.runNode ops).Keyed ∧ (reg.runNode ops).OwnersShare := by
  induction ops generalizing reg with
  | nil => exact ⟨hk, h⟩
  | cons op ops ih =>
    have hc := changed_applyNode reg op
    exact ih (hc.keyed hk) (hc.ownersShare hk h)

/-- Operations on nodes give canonical actions to their owners only. -/
lemma canonicallyOwned_runNode {reg : NodeRegistry} (h : reg.CanonicallyOwned)
    (ops : List NodeOp) : (reg.runNode ops).CanonicallyOwned := by
  induction ops generalizing reg with
  | nil => exact h
  | cons op ops ih => exact ih ((changed_applyNode reg op).canonicallyOwned h)

/-- No two owners share an action: in every registry reached by operations on nodes, two
distinct nodes with a common action whose owners are known have the same owner, and
every registration is stored under its own name. -/
theorem ownersShare_runNode (ops : List NodeOp) :
    (∀ node r node' r', (empty.runNode ops).nodes.get? node = some r →
      (empty.runNode ops).nodes.get? node' = some r' → node ≠ node' →
      (∃ action, action ∈ r.supportedActions ∧ action ∈ r'.supportedActions) →
      ∀ o o', ownerForRegistration r.nodeName r.metadata = some o →
        ownerForRegistration r'.nodeName r'.metadata = some o' → o = o') ∧
    ∀ node r, (empty.runNode ops).nodes.get? node = some r → r.nodeName = node := by
  obtain ⟨hk, h⟩ := runNode_invariant keyed_empty ownersShare_empty ops
  refine ⟨?_, hk⟩
  rintro node r node' r' hr hr' hne ⟨action, ha, ha'⟩ o o' ho ho'
  exact h node r node' r' hr hr' hne action ha ha' o ho o' ho'

/-- In a registry whose nodes own their canonical actions, resolution returns an owner. -/
lemma CanonicallyOwned.of_resolveAction {reg : NodeRegistry} (h : reg.CanonicallyOwned)
    {action : String} {r : NodeRegistration} (hr : reg.resolveAction action = .ok r) :
    OwnsAction r.owner action := by
  obtain ⟨hmem, haction, -⟩ := mem_candidates.1 (NodeRegistry.of_resolveAction hr).1
  have hown := h r hmem _ haction
  rwa [OwnsAction, requiredOwnerForAction_normalize] at hown

/-- The operation, when it loads a file that is accepted, loads nodes that own the
canonical actions they advertise. -/
def LoadsOwned : RegistryOp → Prop
  | .node _ => True
  | .load .other => True
  | .load (.mapping entries) => Accepted entries.entries →
      ∀ name p, LastEntry entries.entries name p → ∀ action ∈ p.actions,
        OwnsAction (ownerForRegistration (normalize name) p.metadata) action

/-- The registrations of a loaded file own their canonical actions exactly when its entries do. -/
lemma canonicallyOwned_loaded {entries : Dict String YamlEntry}
    {loaded : Dict String NodeRegistration} (hacc : Accepted entries.entries)
    (hload : loadEntries entries.entries .empty = .ok loaded) :
    CanonicallyOwned ⟨loaded⟩ ↔ LoadsOwned (.load (.mapping entries)) := by
  rw [LoadsOwned, forall_prop_of_true hacc]
  constructor
  · intro h name p hlast action haction
    obtain ⟨l, l', heq, -⟩ := id hlast
    obtain ⟨p', r, hp, hr⟩ := hacc (name, .payload p) (by simp [heq])
    obtain rfl := YamlEntry.payload.inj hp
    obtain ⟨hname, hactions, hmeta⟩ := NodeRegistration.of_create hr
    have hget := (loaded_get? hload _ _).2 ⟨name, p, hlast, rfl, hr⟩
    have hown := h r (Dict.mem_values_iff.2 ⟨_, hget⟩) action (by rwa [hactions])
    rwa [NodeRegistration.owner, hname, hmeta] at hown
  · intro h r hr action haction
    obtain ⟨node, hget⟩ := Dict.mem_values_iff.1 hr
    obtain ⟨name, p, hlast, -, hcreate⟩ := (loaded_get? hload node r).1 hget
    obtain ⟨hname, hactions, hmeta⟩ := NodeRegistration.of_create hcreate
    rw [NodeRegistration.owner, hname, hmeta]
    exact h name p hlast action (by rwa [hactions] at haction)

lemma canonicallyOwned_apply {reg : NodeRegistry} (h : reg.CanonicallyOwned) (op : RegistryOp) :
    (reg.apply op).2.CanonicallyOwned ↔ LoadsOwned op := by
  cases op with
  | node op => exact iff_of_true ((changed_applyNode reg op).canonicallyOwned h) trivial
  | load doc =>
    rcases loadFromYaml_cases reg doc with ⟨heq, hrej⟩ | ⟨entries, loaded, rfl, hacc, hload, heq⟩
    · rw [apply, heq]
      refine iff_of_true h ?_
      cases doc with
      | other => trivial
      | mapping entries => exact fun hacc => absurd hacc (hrej entries rfl)
    · rw [apply, heq]
      exact canonicallyOwned_loaded hacc hload

/-- Canonical ownership holds in every registry that a run reaches, and resolution then
returns owners only, exactly when every file that the run loads gives canonical actions to
their owners; `register_node` and the other operations never break it. -/
theorem canonicallyOwned_run_iff (ops : List RegistryOp) :
    (∀ pre, pre <+: ops → (empty.run pre).CanonicallyOwned ∧
      ∀ action r, (empty.run pre).resolveAction action = .ok r → OwnsAction r.owner action) ↔
    ∀ op ∈ ops, LoadsOwned op := by
  have hrun : ∀ (ops : List RegistryOp) (reg : NodeRegistry), reg.CanonicallyOwned →
      ((∀ pre, pre <+: ops → (reg.run pre).CanonicallyOwned) ↔ ∀ op ∈ ops, LoadsOwned op) := by
    intro ops
    induction ops with
    | nil => simp +contextual
    | cons op ops ih =>
      intro reg h
      rw [List.forall_mem_cons, ← canonicallyOwned_apply h op]
      constructor
      · intro hall
        have hop : (reg.apply op).2.CanonicallyOwned := hall [op] (by simp)
        exact ⟨hop, (ih _ hop).1 fun pre hpre => hall (op :: pre) (by simpa using hpre)⟩
      · rintro ⟨hop, hops⟩ pre hpre
        cases pre with
        | nil => exact h
        | cons op' pre =>
          obtain ⟨rfl, hpre'⟩ := List.cons_prefix_cons.1 hpre
          exact (ih _ hop).2 hops pre hpre'
  rw [← hrun ops empty canonicallyOwned_empty]
  exact ⟨fun h pre hpre => (h pre hpre).1,
    fun h pre hpre => ⟨h pre hpre, fun _ _ hr => (h pre hpre).of_resolveAction hr⟩⟩

/-- The registry with one worker that serves one action. -/
def oneWorker (name action : String) : NodeRegistry :=
  empty.run [.load (.mapping (Dict.empty.set name (.payload
    { internalUrl := "http://" ++ name, supportedActions := [action] })))]

/-- A registry file with one node of an unknown owner that advertises a canonical action. -/
def foreignFile : YamlDocument :=
  .mapping (Dict.empty.set "foo" (.payload
    { internalUrl := "http://foo:8000", supportedActions := ["match"] }))

/-- Loading that file, Gate routes `match` to a node that does not own it. -/
theorem foreignFile_not_owned :
    ¬ ∀ ops : List RegistryOp, (empty.run ops).CanonicallyOwned ∧
      ∀ action r, (empty.run ops).resolveAction action = .ok r → OwnsAction r.owner action := by
  intro h
  have hown := (h [.load foreignFile]).1
  revert hown
  unfold CanonicallyOwned OwnsAction
  decide +kernel

end NodeRegistry

end ConstellationGate
