import ConstellationGate.Routing.ActionOwnership
import Mathlib.Data.List.Sort
import Mathlib.Data.Prod.Lex
import Mathlib.Data.String.Basic

/-!
# The node registry

`routing/node_registry.py`: the registrations of the worker nodes and the operations on
them.  A `NodeRegistration` carries what its field validators establish, so that every
registration that exists has a normalised name and normalised, distinct, unreserved
actions; the updates that bypass validation (`model_copy`) keep these facts.

Every operation is atomic: the registry takes its lock for the whole of each method, and
Gate calls the methods from one event loop.
-/

namespace ConstellationGate

/-- The reserved action by which a consumer asks which actions it may invoke. -/
def admissionAction : String := "gate.admission"

/-! ### Registrations -/

/-- A registered worker node. -/
structure NodeRegistration where
  nodeName : String
  internalUrl : String
  supportedActions : List String
  priorityClass : String
  maxConcurrent : ℕ
  healthEndpoint : String
  timeoutMs : ℕ
  metadata : Dict String String
  healthy : Bool
  activeRequests : ℕ
  nodeName_normalized : normalize nodeName = nodeName
  nodeName_ne : nodeName ≠ ""
  actions_ne : supportedActions ≠ []
  actions_nodup : supportedActions.Nodup
  action_normalized : ∀ action ∈ supportedActions, normalize action = action ∧ action ≠ ""
  not_reserved : admissionAction ∉ supportedActions
  one_le_maxConcurrent : 1 ≤ maxConcurrent
  one_le_timeoutMs : 1 ≤ timeoutMs
deriving DecidableEq

/-- The fields of a registration other than its name, as they are given. -/
structure RegistrationPayload where
  internalUrl : String
  supportedActions : List String
  priorityClass : String := "P2"
  maxConcurrent : ℤ := 50
  healthEndpoint : String := "/v1/health"
  timeoutMs : ℤ := 30000
  metadata : Dict String String := .empty
  healthy : Bool := true
  activeRequests : ℤ := 0

namespace RegistrationPayload

variable (p : RegistrationPayload)

/-- The actions after normalisation; blank ones are dropped. -/
def actions : List String := (p.supportedActions.filter fun a => Text.strip a ≠ "").map normalize

/-- The URL without blanks around it and without slashes at its end. -/
def url : String := Text.rstripChar (Text.strip p.internalUrl) '/'

/-- `value.strip().upper()`, when it is a priority class. -/
def priority : Option String :=
  (["P0", "P1", "P2", "P3"].zip ["p0", "p1", "p2", "p3"]).findSome? fun e =>
    if Text.strip p.priorityClass = e.1 ∨ Text.strip p.priorityClass = e.2 then some e.1 else none

/-- The validators, in the order of the fields: each field with its error, if it has one. -/
def validators (nodeName : String) : List (String × Option String) :=
  [("node_name",
      if normalize nodeName = "" then some "node_name must not be empty" else none),
   ("internal_url",
      if p.url = "" then some "internal_url must not be empty"
      else if Text.startsWith p.url "http://" || Text.startsWith p.url "https://" then none
      else some "internal_url must start with http:// or https://"),
   ("supported_actions",
      if p.actions = [] then some "supported_actions must not be empty"
      else if ¬ p.actions.Nodup then some "supported_actions must not contain duplicates"
      else if admissionAction ∈ p.actions then
        some (Text.quoted admissionAction ++ " is reserved by Gate and cannot be registered")
      else none),
   ("priority_class",
      if p.priority.isNone then some "priority_class must be one of P0, P1, P2, P3" else none),
   ("max_concurrent",
      if p.maxConcurrent < 1 then some "Input should be greater than or equal to 1" else none),
   ("health_endpoint",
      if Text.startsWith (Text.strip p.healthEndpoint) "/" then none
      else some "health_endpoint must start with /"),
   ("timeout_ms",
      if p.timeoutMs < 1 then some "Input should be greater than or equal to 1" else none),
   ("active_requests",
      if p.activeRequests < 0 then some "Input should be greater than or equal to 0" else none)]

/-- The fields that do not validate, with their errors. -/
def fieldErrors (nodeName : String) : List (String × String) :=
  (p.validators nodeName).filterMap fun e => e.2.map fun text => (e.1, text)

lemma action_normalized {action : String} (h : action ∈ p.actions) :
    normalize action = action ∧ action ≠ "" := by
  obtain ⟨a, ha, rfl⟩ := List.mem_map.1 h
  have hblank : Text.strip a ≠ "" := by simpa using (List.mem_filter.1 ha).2
  exact ⟨Text.normalize_normalize a, fun h => hblank (Text.normalize_eq_empty_iff.1 h)⟩

/-- What the validators establish. -/
structure Valid (nodeName : String) : Prop where
  nodeName_ne : normalize nodeName ≠ ""
  actions_ne : p.actions ≠ []
  actions_nodup : p.actions.Nodup
  not_reserved : admissionAction ∉ p.actions
  one_le_maxConcurrent : 1 ≤ p.maxConcurrent
  one_le_timeoutMs : 1 ≤ p.timeoutMs

lemma valid_of_fieldErrors {nodeName : String} (h : p.fieldErrors nodeName = []) :
    p.Valid nodeName := by
  have hnone : ∀ e ∈ p.validators nodeName, e.2 = none := by
    intro e he
    have := List.filterMap_eq_nil_iff.1 h e he
    simpa using this
  simp only [validators, List.forall_mem_cons] at hnone
  obtain ⟨hname, -, hactions, -, hmax, -, htimeout, -⟩ := hnone
  refine ⟨by simpa using hname, ?_, ?_, ?_, by simpa using hmax, by simpa using htimeout⟩
  · rintro hempty
    simp [hempty] at hactions
  · by_contra hdup
    simp only [hdup, not_false_eq_true, if_true] at hactions
    split at hactions <;> cases hactions
  · intro hmem
    simp only [hmem, if_true] at hactions
    split at hactions
    · cases hactions
    · split at hactions <;> cases hactions

end RegistrationPayload

namespace NodeRegistration

/-- `NodeRegistration(node_name=…, **payload)`. -/
def create (nodeName : String) (p : RegistrationPayload) : Except PyError NodeRegistration :=
  if h : p.fieldErrors nodeName = [] then
    have hv := p.valid_of_fieldErrors h
    .ok { nodeName := normalize nodeName
          internalUrl := p.url
          supportedActions := p.actions
          priorityClass := p.priority.getD ""
          maxConcurrent := p.maxConcurrent.toNat
          healthEndpoint := Text.strip p.healthEndpoint
          timeoutMs := p.timeoutMs.toNat
          metadata := p.metadata
          healthy := p.healthy
          activeRequests := p.activeRequests.toNat
          nodeName_normalized := Text.normalize_normalize nodeName
          nodeName_ne := hv.nodeName_ne
          actions_ne := hv.actions_ne
          actions_nodup := hv.actions_nodup
          action_normalized := fun _ ha => p.action_normalized ha
          not_reserved := hv.not_reserved
          one_le_maxConcurrent := by have := hv.one_le_maxConcurrent; omega
          one_le_timeoutMs := by have := hv.one_le_timeoutMs; omega }
  else
    .error { cls := .validationError,
             message :=
               "; ".intercalate ((p.fieldErrors nodeName).map fun e => e.1 ++ ": " ++ e.2) }

/-- What a created registration is called and advertises, and whose it is. -/
lemma of_create {nodeName : String} {p : RegistrationPayload} {r : NodeRegistration}
    (h : create nodeName p = .ok r) :
    r.nodeName = normalize nodeName ∧ r.supportedActions = p.actions ∧ r.metadata = p.metadata := by
  unfold create at h
  split at h
  · cases h
    exact ⟨rfl, rfl, rfl⟩
  · cases h

/-- The load that a created registration carries. -/
lemma activeRequests_of_create {nodeName : String} {p : RegistrationPayload} {r : NodeRegistration}
    (h : create nodeName p = .ok r) : r.activeRequests = p.activeRequests.toNat := by
  unfold create at h
  split at h
  · cases h
    rfl
  · cases h

variable (r : NodeRegistration)

/-- `model_copy(update={"node_name": name})`, for a normalised name. -/
def renamed (name : String) (hnorm : normalize name = name) (hne : name ≠ "") : NodeRegistration :=
  { r with nodeName := name, nodeName_normalized := hnorm, nodeName_ne := hne }

/-- The registration as it is stored under `name`. -/
def storedAs (name : String) (hnorm : normalize name = name) (hne : name ≠ "") :
    NodeRegistration :=
  if name ≠ r.nodeName then r.renamed name hnorm hne else r

@[simp] lemma nodeName_storedAs (name : String) (hnorm : normalize name = name) (hne : name ≠ "") :
    (r.storedAs name hnorm hne).nodeName = name := by
  rw [storedAs]
  split
  · rfl
  · rename_i heq
    exact (not_not.1 heq).symm

/-- A registration is stored as it is under its own name. -/
lemma storedAs_of_eq {name : String} (hname : r.nodeName = name) (hnorm : normalize name = name)
    (hne : name ≠ "") : r.storedAs name hnorm hne = r := by
  rw [storedAs, if_neg]
  exact not_not.2 hname.symm

@[simp] lemma activeRequests_storedAs (name : String) (hnorm : normalize name = name)
    (hne : name ≠ "") : (r.storedAs name hnorm hne).activeRequests = r.activeRequests := by
  rw [storedAs]
  split <;> rfl

/-- `model_copy(update={"healthy": healthy})`. -/
def withHealthy (healthy : Bool) : NodeRegistration := { r with healthy := healthy }

/-- `model_copy(update={"active_requests": active})`. -/
def withActiveRequests (active : ℕ) : NodeRegistration := { r with activeRequests := active }

/-- The node's semantic owner. -/
def owner : Option String := ownerForRegistration r.nodeName r.metadata

end NodeRegistration

/-! ### The registry and its operations -/

/-- The registrations, keyed by node. -/
structure NodeRegistry where
  nodes : Dict String NodeRegistration
deriving DecidableEq

/-- An entry of a registry file. -/
inductive YamlEntry
  /-- Not a mapping. -/
  | other
  /-- A mapping that is refused for its shape: a field is missing, unknown or of the wrong type. -/
  | malformed (e : PyError)
  /-- A mapping with the fields of a registration. -/
  | payload (p : RegistrationPayload)

/-- A registry file. -/
inductive YamlDocument
  /-- Not a mapping. -/
  | other
  | mapping (entries : Dict String YamlEntry)

/-- The order in which the candidates for an action are preferred. -/
def NodeRegistration.PreferredTo (r s : NodeRegistration) : Prop :=
  r.activeRequests < s.activeRequests ∨ r.activeRequests = s.activeRequests ∧
    (r.maxConcurrent < s.maxConcurrent ∨ r.maxConcurrent = s.maxConcurrent ∧
      r.nodeName ≤ s.nodeName)

instance : DecidableRel NodeRegistration.PreferredTo := fun r s => by
  unfold NodeRegistration.PreferredTo
  infer_instance

namespace NodeRegistry

/-- The empty registry. -/
def empty : NodeRegistry := ⟨.empty⟩

/-- The loop of `load_from_yaml` over the entries of the file. -/
def loadEntries : List (String × YamlEntry) → Dict String NodeRegistration →
    Except PyError (Dict String NodeRegistration)
  | [], loaded => .ok loaded
  | (name, .other) :: _, _ =>
    .error { cls := .valueError,
             message := "node registry entry for " ++ Text.quoted name ++ " must be a mapping" }
  | (_, .malformed e) :: _, _ => .error e
  | (name, .payload p) :: entries, loaded =>
    match NodeRegistration.create name p with
    | .error e => .error e
    | .ok r => loadEntries entries (loaded.set (normalize name) r)

/-- `load_from_yaml`: replace all registrations by those of a file. -/
def loadFromYaml (reg : NodeRegistry) : YamlDocument → Except PyError Unit × NodeRegistry
  | .other =>
    (.error { cls := .valueError, message := "node registry YAML must be a mapping" }, reg)
  | .mapping entries =>
    match loadEntries entries.entries .empty with
    | .error e => (.error e, reg)
    | .ok loaded => (.ok (), ⟨loaded⟩)

/-- The nodes with which a registration under `name` is compared. -/
def others (reg : NodeRegistry) (name : String) (overwrite : Bool) :
    Dict String NodeRegistration :=
  reg.nodes.filter fun node _ => !(overwrite && node = name)

/-- `register_node`: store a registration under a name, unless ownership forbids it. -/
def registerNode (reg : NodeRegistry) (name : String) (registration : NodeRegistration)
    (overwrite : Bool) : Except PyError Unit × NodeRegistry :=
  if hne : normalize name = "" then
    (.error { cls := .valueError, message := "name must not be empty" }, reg)
  else if reg.nodes.contains (normalize name) && !overwrite then
    (.error { cls := .valueError, message := "node already registered: " ++ normalize name }, reg)
  else
    let r := registration.storedAs (normalize name) (Text.normalize_normalize name) hne
    let existing := (reg.others (normalize name) overwrite).mapValues fun _ s => s.supportedActions
    let existingOwners := (reg.others (normalize name) overwrite).mapValues fun node s =>
      ownerForRegistration node s.metadata
    match assertRegistrationOwnership (normalize name) r.supportedActions r.metadata existing
        existingOwners with
    | .error e => (.error e, reg)
    | .ok () => (.ok (), ⟨reg.nodes.set (normalize name) r⟩)

/-- `all_supported_actions`: the set of the actions that are advertised. -/
def allSupportedActions (reg : NodeRegistry) : List String :=
  reg.nodes.values.flatMap NodeRegistration.supportedActions

/-- The registrations that advertise an action. -/
def known (reg : NodeRegistry) (action : String) : List NodeRegistration :=
  reg.nodes.values.filter fun r => action ∈ r.supportedActions

/-- The healthy registrations that advertise an action. -/
def candidates (reg : NodeRegistry) (action : String) : List NodeRegistration :=
  (reg.known action).filter fun r => r.healthy

/-- `resolve_action`: the preferred healthy registration that advertises the action. -/
def resolveAction (reg : NodeRegistry) (action : String) : Except PyError NodeRegistration :=
  if normalize action = "" then
    .error { cls := .valueError, message := "action must not be empty" }
  else
    match (reg.candidates (normalize action)).insertionSort NodeRegistration.PreferredTo with
    | r :: _ => .ok r
    | [] =>
      if reg.known (normalize action) ≠ [] then
        .error { cls := .noHealthyNodeError,
                 message := "no healthy node for action: " ++ normalize action ++ " ("
                   ++ Text.commaJoin (((reg.known (normalize action)).map fun r =>
                        r.nodeName).insertionSort (· ≤ ·)) ++ " unhealthy)" }
      else
        .error { cls := .lookupError,
                 message := "no node registered for action: " ++ normalize action }

/-- `resolve_destination`: the registration of a node that is named explicitly. -/
def resolveDestination (reg : NodeRegistry) (nodeName : String) :
    Except PyError NodeRegistration :=
  if normalize nodeName = "" then
    .error { cls := .valueError, message := "node_name must not be empty" }
  else
    match reg.nodes.get? (normalize nodeName) with
    | none =>
      .error { cls := .lookupError,
               message := "unknown destination node: " ++ normalize nodeName }
    | some r =>
      if r.healthy then .ok r
      else .error { cls := .lookupError,
                    message := "destination node is unhealthy: " ++ normalize nodeName }

/-- A node that is resolved by its name is registered under it, and healthy. -/
lemma of_resolveDestination {reg : NodeRegistry} {nodeName : String} {r : NodeRegistration}
    (h : reg.resolveDestination nodeName = .ok r) :
    reg.nodes.get? (normalize nodeName) = some r ∧ r.healthy = true := by
  rw [resolveDestination] at h
  split at h
  · cases h
  rcases hget : reg.nodes.get? (normalize nodeName) with _ | r'
  · rw [hget] at h
    cases h
  rw [hget] at h
  simp only at h
  split at h
  · rename_i hhealthy
    obtain rfl := Except.ok.inj h
    exact ⟨rfl, hhealthy⟩
  · cases h

/-- The shape of the operations on one node: an unknown node is refused, a known one is
replaced by `f` of it. -/
def updateNode (reg : NodeRegistry) (nodeName : String)
    (f : NodeRegistration → Except PyError NodeRegistration) : Except PyError Unit × NodeRegistry :=
  match reg.nodes.get? (normalize nodeName) with
  | none =>
    (.error { cls := .lookupError, message := "unknown node: " ++ normalize nodeName }, reg)
  | some r =>
    match f r with
    | .error e => (.error e, reg)
    | .ok r' => (.ok (), ⟨reg.nodes.set (normalize nodeName) r'⟩)

/-- `_set_health`. -/
def setHealth (reg : NodeRegistry) (nodeName : String) (healthy : Bool) :
    Except PyError Unit × NodeRegistry :=
  reg.updateNode nodeName fun r => .ok (r.withHealthy healthy)

/-- `mark_healthy`. -/
def markHealthy (reg : NodeRegistry) (nodeName : String) : Except PyError Unit × NodeRegistry :=
  reg.setHealth nodeName true

/-- `mark_unhealthy`. -/
def markUnhealthy (reg : NodeRegistry) (nodeName : String) : Except PyError Unit × NodeRegistry :=
  reg.setHealth nodeName false

/-- `increment_active`: refused when the node's own limit is reached. -/
def incrementActive (reg : NodeRegistry) (nodeName : String) : Except PyError Unit × NodeRegistry :=
  reg.updateNode nodeName fun r =>
    if r.maxConcurrent ≤ r.activeRequests then
      .error { cls := .runtimeError,
               message := "node concurrency limit reached: " ++ normalize nodeName }
    else .ok (r.withActiveRequests (r.activeRequests + 1))

/-- `decrement_active`; the counter stops at zero. -/
def decrementActive (reg : NodeRegistry) (nodeName : String) : Except PyError Unit × NodeRegistry :=
  reg.updateNode nodeName fun r => .ok (r.withActiveRequests (r.activeRequests - 1))

/-- What `register_node` does: nothing when it raises, else it stores the registration. -/
lemma registerNode_cases (reg : NodeRegistry) (name : String) (registration : NodeRegistration)
    (overwrite : Bool) :
    (∃ e, reg.registerNode name registration overwrite = (.error e, reg)) ∨
      ∃ hne, reg.registerNode name registration overwrite = (.ok (), ⟨reg.nodes.set (normalize name)
        (registration.storedAs (normalize name) (Text.normalize_normalize name) hne)⟩) := by
  unfold registerNode
  by_cases hne : normalize name = ""
  · exact Or.inl ⟨_, dif_pos hne⟩
  rw [dif_neg hne]
  split
  · exact Or.inl ⟨_, rfl⟩
  simp only
  split
  · exact Or.inl ⟨_, rfl⟩
  · exact Or.inr ⟨hne, rfl⟩

/-! ### The actions that are advertised -/

lemma mem_allSupportedActions {reg : NodeRegistry} {action : String} :
    action ∈ reg.allSupportedActions ↔ ∃ r ∈ reg.nodes.values, action ∈ r.supportedActions :=
  List.mem_flatMap

lemma known_ne_nil_iff {reg : NodeRegistry} {action : String} :
    reg.known action ≠ [] ↔ action ∈ reg.allSupportedActions := by
  rw [mem_allSupportedActions, known, ne_eq, List.filter_eq_nil_iff]
  simp

/-- Replacing a registration by one with the same actions keeps the actions that are advertised. -/
lemma allSupportedActions_updateNode (reg : NodeRegistry) (nodeName : String)
    {f : NodeRegistration → Except PyError NodeRegistration}
    (hf : ∀ r s, f r = .ok s → s.supportedActions = r.supportedActions) :
    reg.allSupportedActions ⊆ (reg.updateNode nodeName f).2.allSupportedActions := by
  intro action haction
  obtain ⟨r, hr, hsupported⟩ := mem_allSupportedActions.1 haction
  unfold updateNode
  split
  · exact haction
  rename_i r₀ hget₀
  split
  · exact haction
  rename_i s hs
  obtain ⟨node, hget⟩ := Dict.mem_values_iff.1 hr
  rw [mem_allSupportedActions]
  by_cases hnode : node = normalize nodeName
  · subst hnode
    obtain rfl := Option.some.inj (hget.symm.trans hget₀)
    refine ⟨s, Dict.mem_values_iff.2 ⟨_, Dict.get?_set_self _ _ _⟩, ?_⟩
    rw [hf r s hs]
    exact hsupported
  · refine ⟨r, Dict.mem_values_iff.2 ⟨node, ?_⟩, hsupported⟩
    rw [Dict.get?_set, if_neg hnode, hget]

lemma allSupportedActions_setHealth (reg : NodeRegistry) (nodeName : String) (healthy : Bool) :
    reg.allSupportedActions ⊆ (reg.setHealth nodeName healthy).2.allSupportedActions := by
  refine reg.allSupportedActions_updateNode nodeName fun r s h => ?_
  obtain rfl := Except.ok.inj h
  rfl

lemma allSupportedActions_incrementActive (reg : NodeRegistry) (nodeName : String) :
    reg.allSupportedActions ⊆ (reg.incrementActive nodeName).2.allSupportedActions := by
  refine reg.allSupportedActions_updateNode nodeName fun r s h => ?_
  split at h
  · cases h
  · obtain rfl := Except.ok.inj h
    rfl

lemma allSupportedActions_decrementActive (reg : NodeRegistry) (nodeName : String) :
    reg.allSupportedActions ⊆ (reg.decrementActive nodeName).2.allSupportedActions := by
  refine reg.allSupportedActions_updateNode nodeName fun r s h => ?_
  obtain rfl := Except.ok.inj h
  rfl

/-! ### What resolution returns -/

instance : Std.Total NodeRegistration.PreferredTo where
  total r s := by
    unfold NodeRegistration.PreferredTo
    rcases lt_trichotomy r.activeRequests s.activeRequests with h | h | h
    · exact Or.inl (Or.inl h)
    · rcases lt_trichotomy r.maxConcurrent s.maxConcurrent with h' | h' | h'
      · exact Or.inl (Or.inr ⟨h, Or.inl h'⟩)
      · rcases le_total r.nodeName s.nodeName with h'' | h''
        · exact Or.inl (Or.inr ⟨h, Or.inr ⟨h', h''⟩⟩)
        · exact Or.inr (Or.inr ⟨h.symm, Or.inr ⟨h'.symm, h''⟩⟩)
      · exact Or.inr (Or.inr ⟨h.symm, Or.inl h'⟩)
    · exact Or.inr (Or.inl h)

instance : IsTrans NodeRegistration NodeRegistration.PreferredTo where
  trans r s t := by
    unfold NodeRegistration.PreferredTo
    rintro (h | ⟨h, h' | ⟨h', h''⟩⟩) (k | ⟨k, k' | ⟨k', k''⟩⟩)
    · exact Or.inl (h.trans k)
    · exact Or.inl (k ▸ h)
    · exact Or.inl (k ▸ h)
    · exact Or.inl (h ▸ k)
    · exact Or.inr ⟨h.trans k, Or.inl (h'.trans k')⟩
    · exact Or.inr ⟨h.trans k, Or.inl (k' ▸ h')⟩
    · exact Or.inl (h ▸ k)
    · exact Or.inr ⟨h.trans k, Or.inl (h' ▸ k')⟩
    · exact Or.inr ⟨h.trans k, Or.inr ⟨h'.trans k', h''.trans k''⟩⟩

lemma mem_candidates {reg : NodeRegistry} {action : String} {r : NodeRegistration} :
    r ∈ reg.candidates action ↔
      r ∈ reg.nodes.values ∧ action ∈ r.supportedActions ∧ r.healthy = true := by
  simp only [candidates, known, List.mem_filter, decide_eq_true_eq, and_assoc]

/-- The registration that is resolved is a candidate and is preferred to every other one. -/
lemma of_resolveAction {reg : NodeRegistry} {action : String} {r : NodeRegistration}
    (h : reg.resolveAction action = .ok r) :
    r ∈ reg.candidates (normalize action) ∧
      ∀ s ∈ reg.candidates (normalize action), r.PreferredTo s := by
  unfold resolveAction at h
  split at h
  · cases h
  split at h
  · rename_i r' rest hsort
    obtain rfl := Except.ok.inj h
    have hmem : ∀ s, s ∈ r' :: rest ↔ s ∈ reg.candidates (normalize action) := by
      intro s
      rw [← hsort, List.mem_insertionSort]
    have hsorted := List.pairwise_insertionSort NodeRegistration.PreferredTo
      (reg.candidates (normalize action))
    rw [hsort, List.pairwise_cons] at hsorted
    refine ⟨(hmem r').1 (by simp), fun s hs => ?_⟩
    rcases List.mem_cons.1 ((hmem s).2 hs) with rfl | hs
    · exact (Std.Total.total s s).elim id id
    · exact hsorted.1 s hs
  · split at h <;> cases h

end NodeRegistry

end ConstellationGate
