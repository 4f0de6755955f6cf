import ConstellationGate.Lib.FirstMatch
import ConstellationGate.Lib.Ranking
import ConstellationGate.Routing.NodeRegistry

/-!
# The capability service

`services/capability_service.py` with `schemas/capabilities.py`: which actions can be invoked and
who owns them, read from the registry.  The canonical actions are protected: without the admin token
they are neither listed nor looked up.

A single action is looked up in the view of an authorized caller, whoever asks.  What a caller
without the token gets is nevertheless a function of the nodes' names, their owners and their
unprotected actions (`capabilities_noninterference`), and an action is found by a caller exactly
when it is listed for them (`getCapability_agrees`).

The digest of an entity tag is a parameter.
-/

namespace ConstellationGate

/-! ### Descriptors -/

/-- `CAPABILITY_CONTRACT_VERSION`. -/
def capabilityContractVersion : String := "1.0.0"

/-- `FORBIDDEN_CAPABILITY_FIELDS`. -/
def forbiddenCapabilityFields : List String :=
  ["internal_url", "url", "host", "port", "credential", "credentials", "token", "secret",
   "password", "healthy", "health", "health_endpoint", "active_requests", "max_concurrent",
   "timeout_ms", "node_name", "nodes", "registry", "registry_key", "topology", "load", "live_load"]

/-- `CapabilityDescriptor`: what is told of one action. -/
structure CapabilityDescriptor where
  action : String
  owner : Option String
  contractVersion : String := capabilityContractVersion
  advertised : Bool := true
deriving DecidableEq

/-- `CapabilityListResponse`. -/
structure CapabilityListResponse where
  contractVersion : String
  etag : String
  capabilities : List CapabilityDescriptor
deriving DecidableEq

/-- The fields of a descriptor that are given to its constructor. -/
def descriptorFields : List String := ["action", "owner", "advertised"]

/-- `reject_forbidden_fields` has nothing against the fields of a descriptor. -/
lemma descriptorFields_allowed :
    ∀ field ∈ descriptorFields, normalize field ∉ forbiddenCapabilityFields := by
  decide +kernel

/-- An entry of a JSON object. -/
def jsonField (name value : String) : String := Text.jsonQuoted name ++ ":" ++ value

/-- `json.dumps(item.model_dump(mode="json"), sort_keys=True, separators=(",", ":"))`. -/
def CapabilityDescriptor.dumps (item : CapabilityDescriptor) : String :=
  "\x7b" ++ ",".intercalate
    [jsonField "action" (Text.jsonQuoted item.action),
     jsonField "advertised" (if item.advertised then "true" else "false"),
     jsonField "contract_version" (Text.jsonQuoted item.contractVersion),
     jsonField "owner" (item.owner.elim "null" Text.jsonQuoted)] ++ "\x7d"

/-- `_etag_for`. -/
def etagFor (sha256 : String → String) (descriptors : List CapabilityDescriptor) : String :=
  let payload := "[" ++ ",".intercalate (descriptors.map CapabilityDescriptor.dumps) ++ "]"
  "W/\"" ++ String.ofList ((sha256 payload).toList.take 16) ++ "\""

/-! ### The view of the registry -/

/-- `PROTECTED_ACTIONS`. -/
def protectedActions : List String := canonicalActionOwners.map Prod.fst

/-- One action of a node, stored with its owner; the canonical owner is preferred. -/
def addAction (includeProtected : Bool) (owner : Option String)
    (actions : Dict String (Option String)) (action : String) : Dict String (Option String) :=
  if action ∈ protectedActions ∧ includeProtected = false then actions
  else actions.set action ((requiredOwnerForAction action).or owner)

/-- The actions of one node. -/
def addNode (includeProtected : Bool) (actions : Dict String (Option String))
    (node : String × NodeRegistration) : Dict String (Option String) :=
  node.2.supportedActions.foldl
    (addAction includeProtected (ownerForRegistration node.1 node.2.metadata)) actions

/-- `actions.setdefault(action, owner)`. -/
def addCanonical (actions : Dict String (Option String)) (e : String × String) :
    Dict String (Option String) :=
  if actions.contains e.1 then actions else actions.set e.1 (some e.2)

/-- The actions of the view, with their owners. -/
def viewedActions (reg : NodeRegistry) (includeProtected : Bool) : Dict String (Option String) :=
  let actions := reg.nodes.entries.foldl (addNode includeProtected) Dict.empty
  if includeProtected then canonicalActionOwners.foldl addCanonical actions else actions

/-- The descriptor of an action. -/
def describe (reg : NodeRegistry) (action : String) (owner : Option String) :
    CapabilityDescriptor :=
  { action := action, owner := owner, advertised := action ∈ reg.allSupportedActions }

/-- `_project`. -/
def project (reg : NodeRegistry) (includeProtected : Bool) : List CapabilityDescriptor :=
  (viewedActions reg includeProtected).sortedItems.map fun e => describe reg e.1 e.2

/-- `{item.action: item for item in descriptors}`. -/
def byAction (descriptors : List CapabilityDescriptor) : Dict String CapabilityDescriptor :=
  descriptors.foldl (fun d item => d.set item.action item) Dict.empty

/-! ### The service -/

/-- What the service raises. -/
inductive CapabilityError
  | capabilityAuthorizationError (message : String)
  | valueError (message : String)
  | lookupError (message : String)
deriving DecidableEq

/-- The service, with the admin token that is configured, if any. -/
structure CapabilityService where
  registry : NodeRegistry
  adminToken : Option String

namespace CapabilityService

/-- `__init__`. -/
def init (registry : NodeRegistry) (adminToken : Option String) : CapabilityService :=
  ⟨registry, adminToken.map Text.strip⟩

variable (sha256 : String → String) (service : CapabilityService)

/-- `_is_authorized`: without a configured token everyone is. -/
def isAuthorized (presentedToken : Option String) : Bool :=
  match service.adminToken, presentedToken with
  | none, _ => true
  | some _, none => false
  | some token, some presented => Text.strip presented = token

/-- `list_capabilities`. -/
def listCapabilities (presentedToken : Option String) (includeProtected : Bool := false) :
    Except CapabilityError CapabilityListResponse :=
  let authorized := service.isAuthorized presentedToken
  if includeProtected && !authorized then
    .error (.capabilityAuthorizationError "admin token required to list protected capabilities")
  else
    let descriptors := project service.registry (authorized || includeProtected)
    .ok ⟨capabilityContractVersion, etagFor sha256 descriptors, descriptors⟩

/-- `get_capability`. -/
def getCapability (action : String) (presentedToken : Option String) :
    Except CapabilityError (CapabilityDescriptor × String) :=
  let normalized := normalize action
  if normalized = "" then .error (.valueError "action must not be empty")
  else if normalized ∈ protectedActions ∧ service.isAuthorized presentedToken = false then
    .error (.capabilityAuthorizationError
      ("admin token required for protected action: " ++ normalized))
  else
    match (byAction (project service.registry true)).get? normalized with
    | some descriptor => .ok (descriptor, etagFor sha256 [descriptor])
    | none =>
      match requiredOwnerForAction normalized, service.isAuthorized presentedToken with
      | some required, true =>
        -- a canonical action that no node advertises
        let descriptor : CapabilityDescriptor :=
          { action := normalized, owner := some required, advertised := false }
        .ok (descriptor, etagFor sha256 [descriptor])
      | _, _ => .error (.lookupError ("unknown capability action: " ++ normalized))

/-- `current_etag`. -/
def currentEtag (authorized : Bool) : String := etagFor sha256 (project service.registry authorized)

end CapabilityService

/-! ### What a view holds -/

/-- The protected actions are those with a canonical owner. -/
lemma requiredOwner_eq_none_iff {action : String} (haction : normalize action = action) :
    requiredOwnerForAction action = none ↔ action ∉ protectedActions := by
  rw [requiredOwnerForAction, haction, List.lookup_eq_none_iff, protectedActions]
  simp only [List.mem_map, not_exists, not_and, bne_iff_ne]
  exact ⟨fun h e he heq => h e he heq.symm, fun h e he heq => h e he heq.symm⟩

/-- The action is shown in the view. -/
def Shown (includeProtected : Bool) (action : String) : Prop :=
  action ∈ protectedActions → includeProtected = true

instance (includeProtected : Bool) (action : String) :
    Decidable (Shown includeProtected action) := by
  unfold Shown
  infer_instance

lemma get?_addAction (includeProtected : Bool) (owner : Option String)
    (actions : Dict String (Option String)) (first action : String) :
    (addAction includeProtected owner actions first).get? action =
      if action = first ∧ Shown includeProtected action then
        some ((requiredOwnerForAction action).or owner)
      else actions.get? action := by
  rw [addAction]
  by_cases hfirst : action = first
  · subst hfirst
    by_cases hleft : action ∈ protectedActions ∧ includeProtected = false
    · rw [if_pos hleft, if_neg fun hand => by simp [hand.2 hleft.1] at hleft]
    · have hshown : Shown includeProtected action := by
        intro hprotected
        rw [not_and, Bool.not_eq_false] at hleft
        exact hleft hprotected
      rw [if_neg hleft, if_pos ⟨rfl, hshown⟩, Dict.get?_set_self]
  · have hnot : ¬ (action = first ∧ Shown includeProtected action) := fun hand => hfirst hand.1
    rw [if_neg hnot]
    split
    · rfl
    · rw [Dict.get?_set, if_neg hfirst]

/-- The actions of one node: each that is shown is found with its owner. -/
lemma get?_addNode (includeProtected : Bool) (actions : Dict String (Option String))
    (node : String × NodeRegistration) (action : String) :
    (addNode includeProtected actions node).get? action =
      if action ∈ node.2.supportedActions ∧ Shown includeProtected action then
        some ((requiredOwnerForAction action).or
          (ownerForRegistration node.1 node.2.metadata))
      else actions.get? action := by
  rw [addNode]
  induction node.2.supportedActions generalizing actions with
  | nil => simp
  | cons first supported ih =>
    rw [List.foldl_cons, ih, get?_addAction]
    by_cases hlater : action ∈ supported
    · by_cases hshown : Shown includeProtected action <;> simp [hlater, hshown]
    · by_cases hfirst : action = first
      · subst hfirst
        simp [hlater]
      · simp [hlater, hfirst]

/-- The last node that shows the action decides. -/
lemma get?_addNodes (includeProtected : Bool) (nodes : List (String × NodeRegistration))
    (action : String) :
    (nodes.foldl (addNode includeProtected) Dict.empty).get? action =
      if Shown includeProtected action then
        ((nodes.filter fun node => action ∈ node.2.supportedActions).getLast?).map fun node =>
          (requiredOwnerForAction action).or (ownerForRegistration node.1 node.2.metadata)
      else none := by
  induction nodes using List.reverseRecOn with
  | nil => simp
  | append_singleton nodes node ih =>
    rw [List.foldl_append, List.foldl_cons, List.foldl_nil, get?_addNode, ih, List.filter_append]
    by_cases hadvertised : action ∈ node.2.supportedActions
    · by_cases hshown : Shown includeProtected action <;> simp [hadvertised, hshown]
    · simp [hadvertised]

/-- The canonical actions that are missing are added with their owners. -/
lemma get?_addCanonical (canonical : List (String × String))
    (actions : Dict String (Option String)) (action : String) :
    (canonical.foldl addCanonical actions).get? action =
      (actions.get? action).or ((canonical.lookup action).map some) := by
  induction canonical generalizing actions with
  | nil => simp
  | cons e canonical ih =>
    obtain ⟨canonicalAction, owner⟩ := e
    rw [List.foldl_cons, ih, addCanonical]
    by_cases haction : action = canonicalAction
    · subst haction
      rw [List.lookup_cons_self]
      by_cases hcontains : actions.contains action = true
      · obtain ⟨val, hget⟩ := Dict.contains_iff.1 hcontains
        simp [hcontains, hget]
      · have hnone : actions.get? action = none := by
          rw [Dict.contains, Bool.not_eq_true, Option.isSome_eq_false_iff] at hcontains
          exact Option.isNone_iff_eq_none.1 hcontains
        simp [hcontains, hnone]
    · have hbeq : (action == canonicalAction) = false := beq_eq_false_iff_ne.2 haction
      rw [List.lookup_cons, hbeq]
      split
      · rfl
      · rw [Dict.get?_set, if_neg haction]

/-! ### Nodes that differ in what is protected -/

/-- The nodes have one name, one owner and the same unprotected actions. -/
structure SamePublic (node node' : String × NodeRegistration) : Prop where
  name : node.1 = node'.1
  owner : node.2.metadata.get? "owner" = node'.2.metadata.get? "owner"
  actions : ∀ action ∉ protectedActions,
    action ∈ node.2.supportedActions ↔ action ∈ node'.2.supportedActions

/-- The registries hold such nodes in the same order. -/
def SamePublicNodes (reg reg' : NodeRegistry) : Prop :=
  List.Forall₂ SamePublic reg.nodes.entries reg'.nodes.entries

lemma samePublicNodes_refl (reg : NodeRegistry) : SamePublicNodes reg reg :=
  List.forall₂_same.2 fun _ _ => ⟨rfl, rfl, fun _ _ => Iff.rfl⟩

lemma SamePublic.ownerForRegistration_eq {node node' : String × NodeRegistration}
    (h : SamePublic node node') :
    ownerForRegistration node.1 node.2.metadata =
      ownerForRegistration node'.1 node'.2.metadata := by
  rw [ownerForRegistration, ownerForRegistration, h.name, h.owner]

section Views

variable {reg reg' : NodeRegistry} {action : String} {includeProtected includeProtected' : Bool}

/-- The nodes of a view agree on an unprotected action, whoever asks. -/
lemma get?_addNodes_congr (haction : action ∉ protectedActions)
    {nodes nodes' : List (String × NodeRegistration)} (h : List.Forall₂ SamePublic nodes nodes')
    {actions actions' : Dict String (Option String)}
    (hactions : actions.get? action = actions'.get? action) :
    (nodes.foldl (addNode includeProtected) actions).get? action =
      (nodes'.foldl (addNode includeProtected') actions').get? action := by
  induction h generalizing actions actions' with
  | nil => exact hactions
  | cons hnode _ ih =>
    refine ih ?_
    have hshown : ∀ b, Shown b action := fun _ hprotected => absurd hprotected haction
    rw [get?_addNode, get?_addNode, hactions, hnode.ownerForRegistration_eq]
    simp only [hnode.actions action haction, hshown]

/-- An unprotected action is found in a view as it is registered. -/
lemma get?_viewedActions (haction : action ∉ protectedActions) :
    (viewedActions reg includeProtected).get? action =
      (reg.nodes.entries.foldl (addNode includeProtected) Dict.empty).get? action := by
  have hnot : action ∉ canonicalActionOwners.map Prod.fst := haction
  rw [viewedActions]
  split
  · rw [get?_addCanonical, FirstMatch.lookup_eq_none_iff.2 hnot, Option.map_none, Option.or_none]
  · rfl

/-- What is found of an unprotected action does not depend on the rest, nor on who asks. -/
lemma get?_viewedActions_congr (h : SamePublicNodes reg reg')
    (haction : action ∉ protectedActions) :
    (viewedActions reg includeProtected).get? action =
      (viewedActions reg' includeProtected').get? action := by
  rw [get?_viewedActions haction, get?_viewedActions haction]
  exact get?_addNodes_congr haction h rfl

/-- A protected action is not found in the view of the public, and always in the other one. -/
lemma get?_viewedActions_protected (haction : action ∈ protectedActions) :
    (viewedActions reg false).get? action = none ∧
      (viewedActions reg true).contains action = true := by
  have hin : action ∈ canonicalActionOwners.map Prod.fst := haction
  have hlookup : (canonicalActionOwners.lookup action).isSome = true := by
    rw [Option.isSome_iff_ne_none, ne_eq, FirstMatch.lookup_eq_none_iff, not_not]
    exact hin
  have hhidden : ¬ Shown false action := fun hshown => Bool.false_ne_true (hshown haction)
  constructor
  · rw [viewedActions, if_neg Bool.false_ne_true, get?_addNodes, if_neg hhidden]
  · rw [viewedActions, if_pos rfl, Dict.contains, get?_addCanonical, Option.isSome_or,
      Option.isSome_map, hlookup, Bool.or_true]

/-- An unprotected action is advertised in both registries or in none. -/
lemma mem_allSupportedActions_congr (h : SamePublicNodes reg reg')
    (haction : action ∉ protectedActions) :
    action ∈ reg.allSupportedActions ↔ action ∈ reg'.allSupportedActions := by
  have hnodes : ∀ {nodes nodes' : List (String × NodeRegistration)},
      List.Forall₂ SamePublic nodes nodes' →
      (action ∈ (nodes.map Prod.snd).flatMap NodeRegistration.supportedActions ↔
        action ∈ (nodes'.map Prod.snd).flatMap NodeRegistration.supportedActions) := by
    intro nodes nodes' hsame
    induction hsame with
    | nil => exact Iff.rfl
    | cons hnode _ ih =>
      rw [List.map_cons, List.map_cons, List.flatMap_cons, List.flatMap_cons, List.mem_append,
        List.mem_append, ih, hnode.actions action haction]
  exact hnodes h

/-- Such an action is described alike. -/
lemma describe_congr (h : SamePublicNodes reg reg') (haction : action ∉ protectedActions)
    (owner : Option String) : describe reg action owner = describe reg' action owner := by
  rw [describe, describe, decide_eq_decide.2 (mem_allSupportedActions_congr h haction)]

/-- The view of the public. -/
lemma project_congr (h : SamePublicNodes reg reg') : project reg false = project reg' false := by
  have hsorted :
      (viewedActions reg false).sortedItems = (viewedActions reg' false).sortedItems := by
    refine Dict.sortedItems_congr fun action => ?_
    by_cases haction : action ∈ protectedActions
    · rw [(get?_viewedActions_protected haction).1, (get?_viewedActions_protected haction).1]
    · exact get?_viewedActions_congr h haction
  rw [project, project, hsorted]
  refine List.map_congr_left fun e he => describe_congr h (fun haction => ?_) e.2
  rw [Dict.mem_sortedItems, (get?_viewedActions_protected haction).1] at he
  cases he

/-- The descriptors of a view. -/
lemma mem_project {descriptor : CapabilityDescriptor} :
    descriptor ∈ project reg includeProtected ↔
      ∃ owner, (viewedActions reg includeProtected).get? descriptor.action = some owner ∧
        describe reg descriptor.action owner = descriptor := by
  rw [project, List.mem_map]
  constructor
  · rintro ⟨e, he, rfl⟩
    exact ⟨e.2, Dict.mem_sortedItems.1 he, rfl⟩
  · rintro ⟨owner, hget, heq⟩
    exact ⟨(descriptor.action, owner), Dict.mem_sortedItems.2 hget, heq⟩

/-- The descriptor that is looked up. -/
lemma get?_byAction :
    (byAction (project reg includeProtected)).get? action =
      ((viewedActions reg includeProtected).get? action).map (describe reg action) := by
  rw [byAction, project, List.foldl_map]
  have hnodup := (viewedActions reg includeProtected).nodup_sortedItems
  rcases hget : (viewedActions reg includeProtected).get? action with - | owner
  · refine Dict.get?_foldl_set_of_notMem (fun e => describe reg e.1 e.2) (fun hmem => ?_) _
    obtain ⟨e, he, rfl⟩ := List.mem_map.1 hmem
    rw [Dict.mem_sortedItems.1 he] at hget
    cases hget
  · exact Dict.get?_foldl_set (fun e => describe reg e.1 e.2) hnodup _
      (e := (action, owner)) (Dict.mem_sortedItems.2 hget)

end Views

/-! ### What the service answers -/

namespace CapabilityService

variable (sha256 : String → String) {service : CapabilityService} {presentedToken : Option String}
  {action : String}

/-- What is found of an action that may be looked up is what the caller's own view holds. -/
lemma get?_ownView (hallowed : ¬ (normalize action ∈ protectedActions ∧
      service.isAuthorized presentedToken = false)) :
    (viewedActions service.registry true).get? (normalize action) =
      (viewedActions service.registry (service.isAuthorized presentedToken)).get?
        (normalize action) := by
  cases hauthorized : service.isAuthorized presentedToken with
  | true => rfl
  | false =>
    exact get?_viewedActions_congr (samePublicNodes_refl _) fun hprotected =>
      hallowed ⟨hprotected, hauthorized⟩

/-- The fallback of a lookup, for a canonical action that no node advertises, is not reached. -/
lemma fallback_unreachable
    (h : (byAction (project service.registry true)).get? (normalize action) = none) :
    requiredOwnerForAction (normalize action) = none := by
  rw [requiredOwner_eq_none_iff (Text.normalize_normalize action)]
  intro hprotected
  have hcontains : (viewedActions service.registry true).contains (normalize action) = true :=
    (get?_viewedActions_protected hprotected).2
  rw [get?_byAction, Option.map_eq_none_iff] at h
  rw [Dict.contains, h] at hcontains
  cases hcontains

/-- A lookup, in terms of the caller's own view. -/
lemma getCapability_eq (hblank : normalize action ≠ "") :
    service.getCapability sha256 action presentedToken =
      if normalize action ∈ protectedActions ∧ service.isAuthorized presentedToken = false then
        .error (.capabilityAuthorizationError
          ("admin token required for protected action: " ++ normalize action))
      else
        ((viewedActions service.registry (service.isAuthorized presentedToken)).get?
          (normalize action)).elim
            (.error (.lookupError ("unknown capability action: " ++ normalize action)))
            fun owner => .ok (describe service.registry (normalize action) owner,
              etagFor sha256 [describe service.registry (normalize action) owner]) := by
  rw [getCapability]
  simp only
  rw [if_neg hblank]
  split
  · rfl
  · rename_i hallowed
    have hfallback : (byAction (project service.registry true)).get? (normalize action) = none →
        requiredOwnerForAction (normalize action) = none := fallback_unreachable
    rw [get?_byAction, get?_ownView hallowed] at hfallback ⊢
    rcases hget : (viewedActions service.registry (service.isAuthorized presentedToken)).get?
      (normalize action) with - | owner
    · rw [hget] at hfallback
      rw [hfallback rfl]
      rfl
    · rfl

/-- The token decides alone who is authorized. -/
lemma isAuthorized_congr {service' : CapabilityService}
    (htoken : service'.adminToken = service.adminToken) (presentedToken : Option String) :
    service'.isAuthorized presentedToken = service.isAuthorized presentedToken := by
  unfold isAuthorized
  rw [htoken]

/-- The list for a caller who asks for no more than their own view. -/
lemma listCapabilities_eq : service.listCapabilities sha256 presentedToken =
    .ok ⟨capabilityContractVersion,
      service.currentEtag sha256 (service.isAuthorized presentedToken),
      project service.registry (service.isAuthorized presentedToken)⟩ := by
  unfold listCapabilities currentEtag
  simp only [Bool.false_and, Bool.or_false, Bool.false_eq_true, if_false]

/-- The list for a caller who asks for more. -/
lemma listCapabilities_refused (hpresented : service.isAuthorized presentedToken = false) :
    service.listCapabilities sha256 presentedToken true =
      .error (.capabilityAuthorizationError
        "admin token required to list protected capabilities") := by
  unfold listCapabilities
  simp only [hpresented, Bool.not_false, Bool.and_self, if_true]

/-- A caller who is not authorized, because an admin token is configured that they do not present,
gets the same answer to every query whether the service reads one registry or another that holds
nodes of the same names in the same order with the same owners and the same unprotected actions. -/
theorem capabilities_noninterference {service' : CapabilityService}
    (htoken : service'.adminToken = service.adminToken)
    (hpresented : service.isAuthorized presentedToken = false)
    (h : SamePublicNodes service.registry service'.registry) :
    (∀ includeProtected, service.listCapabilities sha256 presentedToken includeProtected =
      service'.listCapabilities sha256 presentedToken includeProtected) ∧
    ∀ action, service.getCapability sha256 action presentedToken =
      service'.getCapability sha256 action presentedToken := by
  have hpresented' := (isAuthorized_congr htoken presentedToken).trans hpresented
  refine ⟨fun includeProtected => ?_, fun action => ?_⟩
  · cases includeProtected with
    | true =>
      rw [listCapabilities_refused sha256 hpresented, listCapabilities_refused sha256 hpresented']
    | false =>
      rw [listCapabilities_eq, listCapabilities_eq, hpresented, hpresented', currentEtag,
        currentEtag, project_congr h]
  · by_cases hblank : normalize action = ""
    · rw [getCapability, getCapability, if_pos hblank, if_pos hblank]
    rw [getCapability_eq sha256 hblank, getCapability_eq sha256 hblank, hpresented, hpresented']
    by_cases haction : normalize action ∈ protectedActions
    · rw [if_pos ⟨haction, rfl⟩, if_pos ⟨haction, rfl⟩]
    · have hallowed : ¬ (normalize action ∈ protectedActions ∧ false = false) :=
        fun hprotected => haction hprotected.1
      have hget : (viewedActions service.registry false).get? (normalize action) =
          (viewedActions service'.registry false).get? (normalize action) :=
        get?_viewedActions_congr h haction
      rw [if_neg hallowed, if_neg hallowed, hget]
      simp only [describe_congr h haction]

/-- A worker with a canonical action, and the same worker elsewhere, unhealthy and without that
action, look the same to a caller without the token. -/
theorem noninterference_oneWorker :
    ∃ r r', NodeRegistration.create "worker"
          { internalUrl := "http://worker", supportedActions := ["score", "match"] } = .ok r ∧
      NodeRegistration.create "worker"
          { internalUrl := "http://moved", supportedActions := ["score"], healthy := false } =
        .ok r' ∧
      ∀ action, (init ⟨Dict.empty.set "worker" r⟩ (some "secret")).getCapability id action none =
        (init ⟨Dict.empty.set "worker" r'⟩ (some "secret")).getCapability id action none := by
  obtain ⟨r, hr, -⟩ := exists_ok_of_any (p := fun _ => true) (x := NodeRegistration.create "worker"
    { internalUrl := "http://worker", supportedActions := ["score", "match"] }) (by decide +kernel)
  obtain ⟨r', hr', -⟩ := exists_ok_of_any (p := fun _ => true) (x := NodeRegistration.create
    "worker" { internalUrl := "http://moved", supportedActions := ["score"], healthy := false })
    (by decide +kernel)
  obtain ⟨-, hactions, hmetadata⟩ := NodeRegistration.of_create hr
  obtain ⟨-, hactions', hmetadata'⟩ := NodeRegistration.of_create hr'
  have hsame : SamePublic ("worker", r) ("worker", r') := by
    refine ⟨rfl, by simp only [hmetadata, hmetadata'], fun action haction => ?_⟩
    have hne : action ≠ "match" := by
      rintro rfl
      exact haction (by decide)
    have hscored : RegistrationPayload.actions
        { internalUrl := "http://worker", supportedActions := ["score", "match"] } =
          ["score", "match"] := by decide +kernel
    have hscored' : RegistrationPayload.actions
        { internalUrl := "http://moved", supportedActions := ["score"], healthy := false } =
          ["score"] := by decide +kernel
    simp only [hactions, hactions', hscored, hscored']
    simp [hne]
  have htoken : (init ⟨Dict.empty.set "worker" r'⟩ (some "secret")).adminToken =
      (init ⟨Dict.empty.set "worker" r⟩ (some "secret")).adminToken := rfl
  exact ⟨r, r', hr, hr', (capabilities_noninterference id htoken rfl (.cons hsame .nil)).2⟩

/-! ### The list and the lookup -/

/-- An action that no node advertises is found in no view, unless it is canonical. -/
lemma get?_viewedActions_eq_none {reg : NodeRegistry} {action : String} {includeProtected : Bool}
    (haction : action ∉ protectedActions) (h : action ∉ reg.allSupportedActions) :
    (viewedActions reg includeProtected).get? action = none := by
  have hnone : (reg.nodes.entries.filter fun node => action ∈ node.2.supportedActions) = [] := by
    refine List.filter_eq_nil_iff.2 fun node hnode hadvertised => h ?_
    exact List.mem_flatMap.2 ⟨node.2, List.mem_map_of_mem hnode, of_decide_eq_true hadvertised⟩
  rw [get?_viewedActions haction, get?_addNodes, hnone]
  split <;> rfl

/-- No view has a blank action. -/
lemma get?_viewedActions_blank (reg : NodeRegistry) (includeProtected : Bool) :
    (viewedActions reg includeProtected).get? "" = none := by
  refine get?_viewedActions_eq_none (by decide) fun hmem => ?_
  obtain ⟨r, -, haction⟩ := List.mem_flatMap.1 hmem
  exact (r.action_normalized "" haction).2 rfl

/-- The caller asks for a protected action without authorization. -/
def Refused (service : CapabilityService) (presentedToken : Option String) (action : String) :
    Prop :=
  normalize action ∈ protectedActions ∧ service.isAuthorized presentedToken = false

/-- The action is among the descriptors. -/
def Listed (descriptors : List CapabilityDescriptor) (action : String) : Prop :=
  ∃ descriptor ∈ descriptors, descriptor.action = normalize action

lemma mem_ownView_iff {descriptor : CapabilityDescriptor} :
    descriptor ∈ project service.registry (service.isAuthorized presentedToken) ∧
        descriptor.action = normalize action ↔
      ∃ owner, (viewedActions service.registry (service.isAuthorized presentedToken)).get?
          (normalize action) = some owner ∧
        describe service.registry (normalize action) owner = descriptor := by
  constructor
  · rintro ⟨hmem, haction⟩
    rw [← haction]
    exact mem_project.1 hmem
  · rintro ⟨owner, hget, rfl⟩
    exact ⟨mem_project.2 ⟨owner, hget, rfl⟩, rfl⟩

/-- The outcomes of a lookup: blank, refused, found in the caller's own view, or unknown. -/
lemma getCapability_cases (service : CapabilityService) (presentedToken : Option String)
    (action : String) :
    (∃ owner, (viewedActions service.registry (service.isAuthorized presentedToken)).get?
          (normalize action) = some owner ∧
        normalize action ≠ "" ∧ ¬ service.Refused presentedToken action ∧
        service.getCapability sha256 action presentedToken =
          .ok (describe service.registry (normalize action) owner,
            etagFor sha256 [describe service.registry (normalize action) owner])) ∨
      (viewedActions service.registry (service.isAuthorized presentedToken)).get?
          (normalize action) = none ∧
        (normalize action = "" ∧ ¬ service.Refused presentedToken action ∧
            service.getCapability sha256 action presentedToken =
              .error (.valueError "action must not be empty") ∨
          normalize action ≠ "" ∧ service.Refused presentedToken action ∧
            service.getCapability sha256 action presentedToken =
              .error (.capabilityAuthorizationError
                ("admin token required for protected action: " ++ normalize action)) ∨
          normalize action ≠ "" ∧ ¬ service.Refused presentedToken action ∧
            service.getCapability sha256 action presentedToken =
              .error (.lookupError ("unknown capability action: " ++ normalize action))) := by
  by_cases hblank : normalize action = ""
  · have hallowed : ¬ service.Refused presentedToken action := by
      rintro ⟨hprotected, -⟩
      rw [hblank] at hprotected
      revert hprotected
      decide
    have hget := get?_viewedActions_blank service.registry (service.isAuthorized presentedToken)
    rw [← hblank] at hget
    exact Or.inr ⟨hget, Or.inl ⟨hblank, hallowed, if_pos hblank⟩⟩
  rw [getCapability_eq sha256 hblank]
  by_cases hrefused : service.Refused presentedToken action
  · have hget : (viewedActions service.registry false).get? (normalize action) = none :=
      (get?_viewedActions_protected hrefused.1).1
    rw [← hrefused.2] at hget
    exact Or.inr ⟨hget, Or.inr (Or.inl ⟨hblank, hrefused, if_pos hrefused⟩)⟩
  have hallowed : ¬ (normalize action ∈ protectedActions ∧
      service.isAuthorized presentedToken = false) := hrefused
  rw [if_neg hallowed]
  rcases (viewedActions service.registry (service.isAuthorized presentedToken)).get?
    (normalize action) with - | owner
  · exact Or.inr ⟨rfl, Or.inr (Or.inr ⟨hblank, hrefused, rfl⟩)⟩
  · exact Or.inl ⟨owner, rfl, hblank, hrefused, rfl⟩

/-- A lookup succeeds exactly when the action is in the list of the same caller, and gives the
descriptor that stands there.  Otherwise an authorization error is raised exactly for a protected
action without authorization, and a lookup error for every other action that is not blank; no
lookup reaches the fallback. -/
theorem getCapability_agrees (service : CapabilityService) (presentedToken : Option String)
    (action : String) :
    ∃ response,
      (∀ includeProtected, service.listCapabilities sha256 presentedToken includeProtected =
        if includeProtected && !service.isAuthorized presentedToken then
          .error (.capabilityAuthorizationError
            "admin token required to list protected capabilities")
        else .ok response) ∧
      ((∃ descriptor etag, service.getCapability sha256 action presentedToken =
          .ok (descriptor, etag)) ↔ Listed response.capabilities action) ∧
      (∀ descriptor, (∃ etag, service.getCapability sha256 action presentedToken =
          .ok (descriptor, etag)) ↔
        descriptor ∈ response.capabilities ∧ descriptor.action = normalize action) ∧
      (service.getCapability sha256 action presentedToken =
          .error (.valueError "action must not be empty") ↔ normalize action = "") ∧
      (service.getCapability sha256 action presentedToken =
          .error (.capabilityAuthorizationError
            ("admin token required for protected action: " ++ normalize action)) ↔
        service.Refused presentedToken action) ∧
      (service.getCapability sha256 action presentedToken =
          .error (.lookupError ("unknown capability action: " ++ normalize action)) ↔
        normalize action ≠ "" ∧ ¬ service.Refused presentedToken action ∧
          ¬ Listed response.capabilities action) ∧
      ((byAction (project service.registry true)).get? (normalize action) = none →
        requiredOwnerForAction (normalize action) = none) := by
  refine ⟨⟨capabilityContractVersion,
    service.currentEtag sha256 (service.isAuthorized presentedToken),
    project service.registry (service.isAuthorized presentedToken)⟩, fun includeProtected => ?_, ?_⟩
  · cases includeProtected with
    | false => exact listCapabilities_eq sha256
    | true =>
      cases hauthorized : service.isAuthorized presentedToken with
      | false => exact listCapabilities_refused sha256 hauthorized
      | true =>
        unfold listCapabilities currentEtag
        simp only [hauthorized, Bool.not_true, Bool.and_false, Bool.or_true, Bool.false_eq_true,
          if_false]
  have hlisted : Listed (project service.registry (service.isAuthorized presentedToken)) action ↔
      ∃ owner, (viewedActions service.registry (service.isAuthorized presentedToken)).get?
        (normalize action) = some owner := by
    simp only [Listed, mem_ownView_iff]
    constructor
    · rintro ⟨-, owner, hget, -⟩
      exact ⟨owner, hget⟩
    · rintro ⟨owner, hget⟩
      exact ⟨_, owner, hget, rfl⟩
  simp only [hlisted, mem_ownView_iff]
  have hfallback : (byAction (project service.registry true)).get? (normalize action) = none →
      requiredOwnerForAction (normalize action) = none := fallback_unreachable
  rcases getCapability_cases sha256 service presentedToken action with
    ⟨owner, hget, hblank, hrefused, heq⟩ | ⟨hget, hfailed⟩
  · -- the action is listed
    rw [heq, hget]
    exact ⟨by simp, fun descriptor => by simp, by simp [hblank], by simp [hrefused], by simp,
      hfallback⟩
  · rw [hget]
    rcases hfailed with ⟨hblank, hrefused, heq⟩ | ⟨hblank, hrefused, heq⟩ | ⟨hblank, hrefused, heq⟩
    · rw [heq]
      exact ⟨by simp, fun descriptor => by simp, by simp [hblank], by simp [hrefused],
        by simp [hblank], hfallback⟩
    · rw [heq]
      exact ⟨by simp, fun descriptor => by simp, by simp [hblank], by simp [hrefused],
        by simp [hrefused], hfallback⟩
    · rw [heq]
      exact ⟨by simp, fun descriptor => by simp, by simp [hblank], by simp [hrefused],
        by simp [hblank, hrefused], hfallback⟩

end CapabilityService

end ConstellationGate
