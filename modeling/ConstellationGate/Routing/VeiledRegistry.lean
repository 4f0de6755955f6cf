import ConstellationGate.Routing.NodeRegistry

/-!
# What the registry decides without

The registry finds, prefers and registers nodes by their names, their actions, their owners, their
health, their load and their limits.  Where a node lives, how it is probed, how long it may take,
its priority class and the rest of its metadata are stored and given out, and nothing is decided by
them.

A veiled registration has the first and a fixed value for each of the others.  Every operation on a
veiled registry does what it does on the registry, veiled.
-/

namespace ConstellationGate

/-! ### Registrations -/

/-- The entry of the metadata from which the owner is read. -/
def ownerEntry (metadata : Dict String String) : Dict String String :=
  metadata.filter fun key _ => key = "owner"

lemma ownerForRegistration_ownerEntry (nodeName : String) (metadata : Dict String String) :
    ownerForRegistration nodeName (ownerEntry metadata) =
      ownerForRegistration nodeName metadata := by
  have hget : (ownerEntry metadata).get? "owner" = metadata.get? "owner" := by
    rw [ownerEntry, Dict.get?_filter]
    rcases metadata.get? "owner" with _ | owner
    · rfl
    · exact Option.filter_some_pos (decide_eq_true rfl)
  rw [ownerForRegistration, ownerForRegistration, hget]

/-- The check of a registration reads its metadata for the owner alone. -/
lemma assertRegistrationOwnership_ownerEntry (nodeName : String) (supportedActions : List String)
    (metadata : Dict String String) (existing : Dict String (List String))
    (existingOwners : Dict String (Option String)) :
    assertRegistrationOwnership nodeName supportedActions (ownerEntry metadata) existing
        existingOwners =
      assertRegistrationOwnership nodeName supportedActions metadata existing existingOwners := by
  rw [assertRegistrationOwnership, assertRegistrationOwnership, ownerForRegistration_ownerEntry]

namespace NodeRegistration

/-- The registration without what nothing is decided by. -/
def veiled (r : NodeRegistration) : NodeRegistration :=
  { r with
    internalUrl := "http://worker"
    priorityClass := "P2"
    healthEndpoint := "/"
    timeoutMs := 1
    metadata := ownerEntry r.metadata
    one_le_timeoutMs := Nat.one_pos }

lemma storedAs_veiled (r : NodeRegistration) (name : String) (hnorm : normalize name = name)
    (hne : name ≠ "") : r.veiled.storedAs name hnorm hne = (r.storedAs name hnorm hne).veiled := by
  rw [storedAs, storedAs]
  show (if name ≠ r.nodeName then _ else _) = _
  split <;> rfl

end NodeRegistration

namespace RegistrationPayload

variable (p : RegistrationPayload)

/-- An URL that validates is veiled. -/
@[irreducible] def veiledUrl : String :=
  if Text.startsWith p.url "http://" || Text.startsWith p.url "https://" then "http://worker"
  else p.internalUrl

/-- A priority class that validates is veiled. -/
@[irreducible] def veiledPriority : String := if p.priority.isSome then "P2" else p.priorityClass

/-- A health endpoint that validates is veiled. -/
@[irreducible] def veiledEndpoint : String :=
  if Text.startsWith (Text.strip p.healthEndpoint) "/" then "/" else p.healthEndpoint

/-- The fields without what nothing is decided by; what does not validate is left as it is. -/
def veiled : RegistrationPayload :=
  { p with
    internalUrl := p.veiledUrl
    priorityClass := p.veiledPriority
    healthEndpoint := p.veiledEndpoint
    timeoutMs := if p.timeoutMs < 1 then p.timeoutMs else 1
    metadata := ownerEntry p.metadata }

/-- Each field is veiled or left as it is. -/
lemma fields_veiled :
    (p.veiledUrl = "http://worker" ∨ p.veiledUrl = p.internalUrl) ∧
      (p.veiledPriority = "P2" ∨ p.veiledPriority = p.priorityClass) ∧
      (p.veiledEndpoint = "/" ∨ p.veiledEndpoint = p.healthEndpoint) := by
  rw [veiledUrl, veiledPriority, veiledEndpoint]
  refine ⟨?_, ?_, ?_⟩ <;> split
  all_goals simp only [true_or, or_true]

lemma actions_veiled : p.veiled.actions = p.actions := by
  simp only [actions, veiled]

lemma counts_veiled : p.veiled.maxConcurrent = p.maxConcurrent ∧ p.veiled.healthy = p.healthy ∧
    p.veiled.activeRequests = p.activeRequests := by
  simp only [veiled, and_self]

lemma url_veiled : p.veiled.url =
    if Text.startsWith p.url "http://" || Text.startsWith p.url "https://" then "http://worker"
    else p.url := by
  show Text.rstripChar (Text.strip p.veiledUrl) '/' = _
  rw [veiledUrl]
  split
  · decide +kernel
  · rfl

lemma priority_veiled : p.veiled.priority = p.priority.map fun _ => "P2" := by
  show (["P0", "P1", "P2", "P3"].zip ["p0", "p1", "p2", "p3"]).findSome? (fun e =>
    if Text.strip p.veiledPriority = e.1 ∨ Text.strip p.veiledPriority = e.2 then some e.1
    else none) = _
  rw [veiledPriority]
  rcases h : p.priority with _ | text
  · exact h
  · show (["P0", "P1", "P2", "P3"].zip ["p0", "p1", "p2", "p3"]).findSome? (fun e =>
      if Text.strip "P2" = e.1 ∨ Text.strip "P2" = e.2 then some e.1 else none) = some "P2"
    decide +kernel

lemma strip_healthEndpoint_veiled : Text.strip p.veiled.healthEndpoint =
    if Text.startsWith (Text.strip p.healthEndpoint) "/" then "/"
    else Text.strip p.healthEndpoint := by
  show Text.strip p.veiledEndpoint = _
  rw [veiledEndpoint]
  split
  · decide +kernel
  · rfl

/-- Both validate alike. -/
lemma validators_veiled (nodeName : String) :
    p.veiled.validators nodeName = p.validators nodeName := by
  have hscheme : (Text.startsWith p.veiled.url "http://" ||
      Text.startsWith p.veiled.url "https://") =
      (Text.startsWith p.url "http://" || Text.startsWith p.url "https://") := by
    rw [url_veiled]
    split
    · rename_i h
      rw [h]
      decide +kernel
    · rfl
  have hempty : p.veiled.url = "" ↔ p.url = "" := by
    rw [url_veiled]
    split
    · rename_i h
      refine iff_of_false (by decide) fun hnil => ?_
      rw [hnil] at h
      revert h
      decide +kernel
    · rfl
  have hpriority : p.veiled.priority.isNone = p.priority.isNone := by
    rw [priority_veiled, Option.isNone_map]
  have hendpoint : Text.startsWith (Text.strip p.veiled.healthEndpoint) "/" =
      Text.startsWith (Text.strip p.healthEndpoint) "/" := by
    rw [strip_healthEndpoint_veiled]
    split
    · rename_i h
      rw [h]
      decide +kernel
    · rfl
  have htimeout : p.veiled.timeoutMs < 1 ↔ p.timeoutMs < 1 := by
    show (if p.timeoutMs < 1 then p.timeoutMs else 1) < 1 ↔ _
    split <;> omega
  simp only [validators, hscheme, hempty, hpriority, hendpoint, htimeout, actions_veiled,
    counts_veiled]

lemma fieldErrors_veiled (nodeName : String) :
    p.veiled.fieldErrors nodeName = p.fieldErrors nodeName := by
  rw [fieldErrors, fieldErrors, validators_veiled]

/-- What validates is veiled. -/
lemma veiled_of_fieldErrors {p : RegistrationPayload} {nodeName : String}
    (h : p.fieldErrors nodeName = []) :
    p.veiled.url = "http://worker" ∧ p.veiled.priority = some "P2" ∧
      Text.strip p.veiled.healthEndpoint = "/" ∧ p.veiled.timeoutMs = 1 := by
  have hnone : ∀ e ∈ p.validators nodeName, e.2 = none := by
    intro e he
    have hfield := List.filterMap_eq_nil_iff.1 h e he
    rwa [Option.map_eq_none_iff] at hfield
  simp only [validators, List.forall_mem_cons] at hnone
  obtain ⟨-, hurl, -, hpriority, -, hendpoint, htimeout, -⟩ := hnone
  refine ⟨?_, ?_, ?_, ?_⟩
  · rw [url_veiled, if_pos]
    by_contra hscheme
    rw [if_neg hscheme] at hurl
    split at hurl <;> cases hurl
  · rw [priority_veiled]
    rcases hp : p.priority with _ | text
    · rw [hp] at hpriority
      cases hpriority
    · rfl
  · rw [strip_healthEndpoint_veiled, if_pos]
    by_contra hpath
    rw [if_neg hpath] at hendpoint
    cases hendpoint
  · show (if p.timeoutMs < 1 then p.timeoutMs else 1) = 1
    rw [if_neg]
    intro hlt
    rw [if_pos hlt] at htimeout
    cases htimeout

end RegistrationPayload

namespace NodeRegistration

/-- Both are refused alike, or the registration of the veiled fields is the veiled one. -/
lemma create_veiled (nodeName : String) (p : RegistrationPayload) :
    create nodeName p.veiled = (create nodeName p).map veiled := by
  by_cases h : p.fieldErrors nodeName = []
  · obtain ⟨hurl, hpriority, hendpoint, htimeout⟩ := RegistrationPayload.veiled_of_fieldErrors h
    have hveiled : p.veiled.fieldErrors nodeName = [] := by rwa [p.fieldErrors_veiled]
    rw [create, create, dif_pos h, dif_pos hveiled]
    simp only [hurl, hpriority, hendpoint, htimeout, p.actions_veiled, p.counts_veiled]
    rfl
  · have hveiled : ¬ p.veiled.fieldErrors nodeName = [] := by rwa [p.fieldErrors_veiled]
    rw [create, create, dif_neg h, dif_neg hveiled, p.fieldErrors_veiled]
    rfl

end NodeRegistration

/-! ### The registry -/

namespace NodeRegistry

/-- The registry of the veiled registrations. -/
def veiled (reg : NodeRegistry) : NodeRegistry := ⟨reg.nodes.mapValues fun _ r => r.veiled⟩

variable (reg : NodeRegistry)

lemma get?_veiled (node : String) :
    reg.veiled.nodes.get? node = (reg.nodes.get? node).map NodeRegistration.veiled :=
  Dict.get?_mapValues reg.nodes _ node

lemma veiled_set (node : String) (r : NodeRegistration) :
    veiled ⟨reg.nodes.set node r⟩ = ⟨reg.veiled.nodes.set node r.veiled⟩ := by
  rw [veiled, Dict.mapValues_set]
  rfl

lemma values_veiled : reg.veiled.nodes.values = reg.nodes.values.map NodeRegistration.veiled :=
  Dict.values_mapValues reg.nodes NodeRegistration.veiled

lemma allSupportedActions_veiled : reg.veiled.allSupportedActions = reg.allSupportedActions := by
  rw [allSupportedActions, values_veiled, List.flatMap_map]
  rfl

lemma known_veiled (action : String) :
    reg.veiled.known action = (reg.known action).map NodeRegistration.veiled := by
  rw [known, values_veiled, List.filter_map]
  rfl

lemma candidates_veiled (action : String) :
    reg.veiled.candidates action = (reg.candidates action).map NodeRegistration.veiled := by
  rw [candidates, known_veiled, List.filter_map]
  rfl

/-- The veiled registry resolves an action to the veiled registration, or fails alike. -/
lemma resolveAction_veiled (action : String) :
    reg.veiled.resolveAction action =
      (reg.resolveAction action).map NodeRegistration.veiled := by
  have hsorted :
      (reg.veiled.candidates (normalize action)).insertionSort NodeRegistration.PreferredTo =
        ((reg.candidates (normalize action)).insertionSort NodeRegistration.PreferredTo).map
          NodeRegistration.veiled := by
    rw [candidates_veiled]
    exact (List.map_insertionSort _ NodeRegistration.PreferredTo _ _ fun r _ s _ => Iff.rfl).symm
  rw [resolveAction, resolveAction, hsorted]
  by_cases hblank : normalize action = ""
  · rw [if_pos hblank, if_pos hblank]
    rfl
  rw [if_neg hblank, if_neg hblank]
  rcases (reg.candidates (normalize action)).insertionSort NodeRegistration.PreferredTo with
    _ | ⟨r, rest⟩
  · simp only [List.map_nil, known_veiled, List.map_eq_nil_iff, ne_eq, List.map_map]
    split <;> rfl
  · rfl

/-! ### Operations on the registry -/

/-- An operation on one node that does to the veiled registration what it does to the registration,
veiled. -/
lemma updateNode_veiled (nodeName : String)
    {f : NodeRegistration → Except PyError NodeRegistration}
    (hf : ∀ r, f r.veiled = (f r).map NodeRegistration.veiled) :
    reg.veiled.updateNode nodeName f =
      ((reg.updateNode nodeName f).1, (reg.updateNode nodeName f).2.veiled) := by
  rw [updateNode, updateNode, get?_veiled]
  rcases reg.nodes.get? (normalize nodeName) with _ | r
  · rfl
  · simp only [Option.map_some, hf]
    rcases f r with e | r'
    · rfl
    · simp only [Except.map, veiled_set]

lemma setHealth_veiled (nodeName : String) (healthy : Bool) :
    reg.veiled.setHealth nodeName healthy =
      ((reg.setHealth nodeName healthy).1, (reg.setHealth nodeName healthy).2.veiled) :=
  reg.updateNode_veiled nodeName fun _ => rfl

lemma incrementActive_veiled (nodeName : String) :
    reg.veiled.incrementActive nodeName =
      ((reg.incrementActive nodeName).1, (reg.incrementActive nodeName).2.veiled) := by
  refine reg.updateNode_veiled nodeName fun r => ?_
  show (if r.maxConcurrent ≤ r.activeRequests then _ else _) = _
  split <;> rfl

lemma decrementActive_veiled (nodeName : String) :
    reg.veiled.decrementActive nodeName =
      ((reg.decrementActive nodeName).1, (reg.decrementActive nodeName).2.veiled) :=
  reg.updateNode_veiled nodeName fun _ => rfl

lemma others_veiled (name : String) (overwrite : Bool) :
    reg.veiled.others name overwrite =
      (reg.others name overwrite).mapValues fun _ r => r.veiled :=
  Dict.filter_mapValues reg.nodes _ fun node => !(overwrite && node = name)

/-- A veiled registration is accepted by the veiled registry as the registration is by the registry,
or refused alike. -/
lemma registerNode_veiled (name : String) (r : NodeRegistration) (overwrite : Bool) :
    reg.veiled.registerNode name r.veiled overwrite =
      ((reg.registerNode name r overwrite).1, (reg.registerNode name r overwrite).2.veiled) := by
  have hcontains : reg.veiled.nodes.contains (normalize name) =
      reg.nodes.contains (normalize name) := Dict.contains_mapValues _ _ _
  by_cases hne : normalize name = ""
  · rw [registerNode, registerNode, dif_pos hne, dif_pos hne]
  rw [registerNode, registerNode, dif_neg hne, dif_neg hne, hcontains]
  by_cases htaken : (reg.nodes.contains (normalize name) && !overwrite) = true
  · rw [if_pos htaken, if_pos htaken]
  rw [if_neg htaken, if_neg htaken]
  have hchecked : assertRegistrationOwnership (normalize name)
      (r.veiled.storedAs (normalize name) (Text.normalize_normalize name) hne).supportedActions
      (r.veiled.storedAs (normalize name) (Text.normalize_normalize name) hne).metadata
      ((reg.veiled.others (normalize name) overwrite).mapValues fun _ s => s.supportedActions)
      ((reg.veiled.others (normalize name) overwrite).mapValues fun node s =>
        ownerForRegistration node s.metadata) =
      assertRegistrationOwnership (normalize name)
        (r.storedAs (normalize name) (Text.normalize_normalize name) hne).supportedActions
        (r.storedAs (normalize name) (Text.normalize_normalize name) hne).metadata
        ((reg.others (normalize name) overwrite).mapValues fun _ s => s.supportedActions)
        ((reg.others (normalize name) overwrite).mapValues fun node s =>
          ownerForRegistration node s.metadata) := by
    rw [others_veiled, Dict.mapValues_mapValues, Dict.mapValues_mapValues, r.storedAs_veiled]
    simp only [NodeRegistration.veiled, ownerForRegistration_ownerEntry,
      assertRegistrationOwnership_ownerEntry]
  simp only [hchecked]
  split
  · rfl
  · rw [veiled_set, r.storedAs_veiled]

end NodeRegistry

end ConstellationGate
