import ConstellationGate.Routing.RegistryRuns

/-!
# Routing readiness

`runtime/routing_readiness.py`: whether Gate can route an action now.  The report looks at the
registrations and at the resolution of the action separately, and computes the owner of the
resolved node a second time; `routable_iff` says that it agrees with the registry.
-/

namespace ConstellationGate

/-- What `action_routability` reports. -/
structure Routability where
  action : String
  routable : Bool
  requiredOwner : Option String
  resolvedNode : Option String
  advertisingNodes : List String
  healthyAdvertisingNodes : List String
  owners : Dict String (Option String)
  problem : Option String

/-- What `routing_readiness` reports. -/
structure Readiness where
  ready : Bool
  status : String
  requiredActions : List String
  actions : List Routability
  problems : List String

/-- `SEAM_ACTIONS`, the actions that must be routable by default. -/
def seamActions : List String :=
  ["converge", "enrich", "enrich-and-sync", "graph-inference-result", "match", "sync", "outcomes"]

/-- The registrations that advertise an action, in the order of their nodes. -/
def advertisements (registry : NodeRegistry) (action : String) :
    List (String × NodeRegistration) :=
  (registry.nodes.entries.insertionSort fun e e' => e.1 ≤ e'.1).filter fun e =>
    action ∈ e.2.supportedActions

/-- The owners of the nodes that advertise an action. -/
def advertisedOwners (items : List (String × NodeRegistration)) : Dict String (Option String) :=
  items.foldl (fun owners e => owners.set e.1 (ownerForRegistration e.1 e.2.metadata)) .empty

/-- What is wrong with the owner of the node to which an action resolves. -/
def ownerProblem (action : String) (requiredOwner resolvedNode : Option String)
    (owners : Dict String (Option String)) : Option String :=
  match requiredOwner, resolvedNode with
  | none, _ => none
  | some _, none => some ("no healthy node resolves " ++ Text.quoted action)
  | some required, some node =>
    let resolvedOwner := (owners.get? node).join
    if normalizeOwner resolvedOwner true ≠ some required then
      some (Text.quoted action ++ " resolved to node " ++ Text.quoted node ++ " with owner "
        ++ resolvedOwner.elim "None" Text.quoted ++ "; canonical owner is " ++ Text.quoted required)
    else none

/-- `action_routability`.  It catches every error of `resolve_action`. -/
def actionRoutability (registry : NodeRegistry) (action : String) : Routability :=
  let normalizedAction := normalize action
  let requiredOwner := requiredOwnerForAction normalizedAction
  let items := advertisements registry normalizedAction
  let resolution := registry.resolveAction normalizedAction
  let resolvedNode := resolution.toOption.map NodeRegistration.nodeName
  let problem := ownerProblem normalizedAction requiredOwner resolvedNode (advertisedOwners items)
  { action := normalizedAction
    routable := resolvedNode.isSome && problem.isNone
    requiredOwner := requiredOwner
    resolvedNode := resolvedNode
    advertisingNodes := items.map Prod.fst
    healthyAdvertisingNodes := (items.filter fun e => e.2.healthy).map Prod.fst
    owners := advertisedOwners items
    problem := problem.or <| match resolution with
      | .ok _ => none
      | .error e => some e.message }

/-- `routing_readiness`. -/
def routingReadiness (registry : NodeRegistry) (requiredActions : List String := seamActions) :
    Readiness :=
  let actions := requiredActions.map (actionRoutability registry)
  let blocking := actions.filter fun entry => !entry.routable
  { ready := blocking.isEmpty
    status := if blocking.isEmpty then "ready" else "not_ready"
    requiredActions := requiredActions
    actions := actions
    problems := blocking.filterMap fun entry => entry.problem.filter fun text => text ≠ "" }

/-! ### What the report says -/

lemma nodup_advertisements (registry : NodeRegistry) (action : String) :
    ((advertisements registry action).map Prod.fst).Nodup := by
  have hperm := List.perm_insertionSort (fun e e' : String × NodeRegistration => e.1 ≤ e'.1)
    registry.nodes.entries
  have hsorted := (hperm.map Prod.fst).nodup_iff.2 registry.nodes.nodup
  exact hsorted.sublist (List.filter_sublist.map Prod.fst)

lemma mem_advertisements {registry : NodeRegistry} {action node : String} {r : NodeRegistration} :
    (node, r) ∈ advertisements registry action ↔
      registry.nodes.get? node = some r ∧ action ∈ r.supportedActions := by
  rw [advertisements, List.mem_filter, List.mem_insertionSort, Dict.mem_entries_iff,
    decide_eq_true_eq]

/-- A registration that is resolved is in the report with its owner. -/
lemma owner_of_resolved {registry : NodeRegistry} (hkeyed : registry.Keyed) {action : String}
    {r : NodeRegistration} (h : registry.resolveAction action = .ok r) :
    (advertisedOwners (advertisements registry (normalize action))).get? r.nodeName =
      some r.owner := by
  obtain ⟨hmem, haction, -⟩ :=
    NodeRegistry.mem_candidates.1 (NodeRegistry.of_resolveAction h).1
  obtain ⟨node, hget⟩ := Dict.mem_values_iff.1 hmem
  obtain rfl := hkeyed node r hget
  have hadvertised : (r.nodeName, r) ∈ advertisements registry (normalize action) :=
    mem_advertisements.2 ⟨hget, haction⟩
  exact Dict.get?_foldl_set (fun e => ownerForRegistration e.1 e.2.metadata)
    (nodup_advertisements _ _) .empty hadvertised

/-- The owner check of the report passes exactly when the resolved node has the required owner. -/
lemma ownerProblem_eq_none_iff {registry : NodeRegistry} (hkeyed : registry.Keyed)
    {action : String} {r : NodeRegistration} (h : registry.resolveAction action = .ok r) :
    ownerProblem (normalize action) (requiredOwnerForAction action) (some r.nodeName)
        (advertisedOwners (advertisements registry (normalize action))) = none ↔
      OwnsAction r.owner action := by
  rw [OwnsAction]
  rcases requiredOwnerForAction action with _ | required
  · simp [ownerProblem]
  -- the report normalises an owner that is normalised already
  have howner : normalizeOwner r.owner true = r.owner := normalizeOwner_ownerForRegistration _ _
  simp only [ownerProblem, owner_of_resolved hkeyed h, Option.join_some, howner]
  by_cases heq : r.owner = some required <;> simp [heq]

lemma resolveAction_normalize (registry : NodeRegistry) (action : String) :
    registry.resolveAction (normalize action) = registry.resolveAction action := by
  rw [NodeRegistry.resolveAction, Text.normalize_normalize, NodeRegistry.resolveAction]

/-- An action is reported routable when it resolves to a node that owns it. -/
lemma routable_iff_owned {registry : NodeRegistry} (hkeyed : registry.Keyed) (action : String) :
    (actionRoutability registry action).routable = true ↔
      ∃ r, registry.resolveAction action = .ok r ∧ OwnsAction r.owner action := by
  simp only [actionRoutability, resolveAction_normalize, requiredOwnerForAction_normalize]
  rcases hresolve : registry.resolveAction action with e | r
  · simp [Except.toOption]
  · have hproblem := ownerProblem_eq_none_iff hkeyed hresolve
    simp only [Except.toOption, Option.map_some, Option.isSome_some, Bool.true_and,
      Option.isNone_iff_eq_none, hproblem, Except.ok.injEq, exists_eq_left']

/-- Readiness agrees with routing: in a registry that keys its registrations by their names, the
report calls an action routable exactly when it resolves to a node that is the canonical owner of
the action, if there is one; and in every registry that is reached from the empty one by
registrations, health marks and active counters, exactly when it resolves. -/
theorem routable_iff (registry : NodeRegistry) (hkeyed : registry.Keyed) (action : String) :
    ((actionRoutability registry action).routable = true ↔
      ∃ r, registry.resolveAction action = .ok r ∧
        ∀ required, requiredOwnerForAction action = some required →
          ownerForRegistration r.nodeName r.metadata = some required) ∧
    ∀ ops : List NodeOp,
      ((actionRoutability (NodeRegistry.empty.runNode ops) action).routable = true ↔
        ∃ r, (NodeRegistry.empty.runNode ops).resolveAction action = .ok r) := by
  refine ⟨routable_iff_owned hkeyed action, fun ops => ?_⟩
  have hrun := NodeRegistry.runNode_invariant NodeRegistry.keyed_empty
    NodeRegistry.ownersShare_empty ops
  rw [routable_iff_owned hrun.1]
  -- registration has seen to the owners, so that the check of the report never blocks
  have howned := NodeRegistry.canonicallyOwned_runNode NodeRegistry.canonicallyOwned_empty ops
  exact exists_congr fun r => and_iff_left_of_imp howned.of_resolveAction

/-- A node of the enrichment engine is ready for `converge`. -/
theorem routable_converge :
    (actionRoutability (.oneWorker "eie" "converge") "converge").routable = true ↔
      ∃ r, (NodeRegistry.oneWorker "eie" "converge").resolveAction "converge" = .ok r ∧
        ∀ required, requiredOwnerForAction "converge" = some required →
          ownerForRegistration r.nodeName r.metadata = some required :=
  (routable_iff (.oneWorker "eie" "converge")
    (NodeRegistry.keyed_run NodeRegistry.keyed_empty _) "converge").1

/-- Gate is ready exactly when every required action resolves to a node that owns it. -/
theorem ready_iff {registry : NodeRegistry} (hkeyed : registry.Keyed)
    (requiredActions : List String) :
    (routingReadiness registry requiredActions).ready = true ↔
      ∀ action ∈ requiredActions,
        ∃ r, registry.resolveAction action = .ok r ∧ OwnsAction r.owner action := by
  simp only [routingReadiness, List.isEmpty_iff, List.filter_eq_nil_iff, List.forall_mem_map,
    Bool.not_eq_true, Bool.not_eq_false', routable_iff_owned hkeyed]

end ConstellationGate
