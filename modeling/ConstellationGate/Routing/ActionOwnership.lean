import ConstellationGate.Errors
import ConstellationGate.Lib.Dict

/-!
# Canonical action ownership

`routing/action_ownership.py`: every canonical action has one semantic owner.  The
owner of a registration is read from its metadata or recognised in its node name, and
`assertRegistrationOwnership` refuses a registration that claims a canonical action of
another owner or shares an action with a node of another owner.
-/

namespace ConstellationGate

/-- The owner of each canonical action. -/
def canonicalActionOwners : List (String × String) :=
  [("match", "ceg"), ("sync", "ceg"), ("outcomes", "ceg"), ("resolve", "ceg"),
   ("converge", "eie"), ("graph-inference-result", "eie"), ("enrich", "eie"),
   ("enrich-and-sync", "eie")]

/-- The names under which an owner is recognised, in the order of the table. -/
def ownerAliases : List (String × String) :=
  [("ceg", "ceg"), ("cognitive", "ceg"), ("cognitive_engine_graphs", "ceg"),
   ("cognitive-engine-graphs", "ceg"), ("graph", "ceg"), ("graph-engine", "ceg"),
   ("eie", "eie"), ("enrich", "eie"), ("enrichment", "eie"),
   ("enrichment_inference_engine", "eie"), ("enrichment-inference-engine", "eie")]

/-- The owner that a name stands for: that of an alias equal to it, else that of the
first alias that occurs in it, else, when unknown owners are allowed, the name itself. -/
def normalizeOwner (value : Option String) (allowUnknown : Bool) : Option String :=
  match value with
  | none => none
  | some value =>
    let key := Text.replaceChar (normalize value) ' ' '_'
    if key = "" then none
    else
      match ownerAliases.lookup key with
      | some owner => some owner
      | none =>
        match ownerAliases.find? fun e => Text.contains key e.1 with
        | some e => some e.2
        | none => if allowUnknown then some key else none

/-- The semantic owner of a registration: from its metadata, then from its node name. -/
def ownerForRegistration (nodeName : String) (metadata : Dict String String) : Option String :=
  match metadata.get? "owner" with
  | some owner =>
    if Text.strip owner ≠ "" then normalizeOwner (some owner) true
    else normalizeOwner (some nodeName) false
  | none => normalizeOwner (some nodeName) false

/-- The owner that an action requires, when it is canonical. -/
def requiredOwnerForAction (action : String) : Option String :=
  canonicalActionOwners.lookup (normalize action)

/-- The check of one action against the owner that it requires. -/
def checkRequiredOwner (claimant : Option String) (action : String) : Except PyError Unit :=
  match requiredOwnerForAction action, claimant with
  | none, _ => .ok ()
  | some required, none =>
    .error { cls := .actionOwnershipError,
             message := "canonical action " ++ Text.quoted action
               ++ " requires metadata.owner or a "
               ++ "recognizable owner node_name (expected " ++ Text.quoted required ++ ")" }
  | some required, some claimant =>
    if claimant ≠ required then
      .error { cls := .actionOwnershipError,
               message := "action " ++ Text.quoted action ++ " is owned by " ++ Text.quoted required
                 ++ "; registration claims owner " ++ Text.quoted claimant }
    else .ok ()

/-- The check of one action against a node that is already registered. -/
def checkOtherNode (node : String) (claimant : Option String) (action : String)
    (existingOwners : Dict String (Option String)) (otherNode : String)
    (otherActions : List String) : Except PyError Unit :=
  if otherNode = node then .ok ()
  else if action ∉ otherActions then .ok ()
  else
    let required := requiredOwnerForAction action
    let otherOwner := (existingOwners.get? otherNode).join
    if required = none ∧ (claimant = none ∨ otherOwner = none) then .ok ()
    else
      match claimant, otherOwner, required with
      | some c, some o, required =>
        if c ≠ o then
          .error { cls := .actionOwnershipError,
                   message := "action ownership collision for " ++ Text.quoted action ++ ": node "
                     ++ Text.quoted node ++ " owner=" ++ Text.quoted c ++ " conflicts with node "
                     ++ Text.quoted otherNode ++ " owner=" ++ Text.quoted o }
        else checkCanonicalPeer action otherNode o required
      | none, some o, required => checkCanonicalPeer action otherNode o required
      | _, none, _ => .ok ()
where
  /-- A node that is already registered must be the canonical owner of the action. -/
  checkCanonicalPeer (action otherNode o : String) : Option String → Except PyError Unit
    | some required =>
      if o ≠ required then
        .error { cls := .actionOwnershipError,
                 message := "action ownership collision for " ++ Text.quoted action
                   ++ ": existing node " ++ Text.quoted otherNode ++ " owner=" ++ Text.quoted o
                   ++ " is not canonical owner " ++ Text.quoted required }
      else .ok ()
    | none => .ok ()

/-- Refuse a registration that claims a canonical action of another owner, or shares an
action with a node of another owner. -/
def assertRegistrationOwnership (nodeName : String) (supportedActions : List String)
    (metadata : Dict String String) (existing : Dict String (List String))
    (existingOwners : Dict String (Option String)) : Except PyError Unit :=
  let claimant := ownerForRegistration nodeName metadata
  let node := normalize nodeName
  supportedActions.forM fun item => do
    let action := normalize item
    checkRequiredOwner claimant action
    existing.entries.forM fun e => checkOtherNode node claimant action existingOwners e.1 e.2

/-! ### Normalising an owner twice -/

lemma normalizeOwner_of_mem_aliases :
    ∀ e ∈ ownerAliases, normalizeOwner (some e.2) true = some e.2 := by decide +kernel

lemma mem_aliases_of_lookup {key owner : String} (h : ownerAliases.lookup key = some owner) :
    ∃ e ∈ ownerAliases, e.2 = owner := by
  obtain ⟨l, l', heq, -⟩ := List.lookup_eq_some_iff.1 h
  exact ⟨(key, owner), by simp [heq], rfl⟩

/-- An owner that has been normalised is normalised to itself. -/
lemma normalizeOwner_normalizeOwner (value : Option String) (allowUnknown : Bool) :
    normalizeOwner (normalizeOwner value allowUnknown) true =
      normalizeOwner value allowUnknown := by
  rcases value with _ | value
  · rfl
  have hkey : Text.replaceChar (normalize (Text.replaceChar (normalize value) ' ' '_')) ' ' '_' =
      Text.replaceChar (normalize value) ' ' '_' := by
    rw [Text.normalize_replaceChar value ⟨by decide, by decide, by decide⟩ (by decide),
      Text.replaceChar_replaceChar _ (by decide)]
  simp only [normalizeOwner]
  generalize Text.replaceChar (normalize value) ' ' '_' = key at hkey
  by_cases hempty : key = ""
  · simp only [if_pos hempty]
  rw [if_neg hempty]
  rcases hlookup : ownerAliases.lookup key with _ | owner
  · rcases hfind : ownerAliases.find? fun e => Text.contains key e.1 with _ | e
    · simp only [hfind]
      cases allowUnknown with
      | false => rfl
      | true =>
        -- an unknown owner is its own key
        simp only [if_true, hkey, if_neg hempty, hlookup, hfind]
    · simp only [hfind]
      exact normalizeOwner_of_mem_aliases e (List.mem_of_find?_eq_some hfind)
  · obtain ⟨e, he, rfl⟩ := mem_aliases_of_lookup hlookup
    exact normalizeOwner_of_mem_aliases e he

lemma normalizeOwner_ownerForRegistration (nodeName : String) (metadata : Dict String String) :
    normalizeOwner (ownerForRegistration nodeName metadata) true =
      ownerForRegistration nodeName metadata := by
  rw [ownerForRegistration]
  split
  · split <;> exact normalizeOwner_normalizeOwner _ _
  · exact normalizeOwner_normalizeOwner _ _

/-! ### What passing the check means -/

/-- Two owners that are both known are the same. -/
def OwnersAgree (p q : Option String) : Prop := ∀ c ∈ p, ∀ o ∈ q, c = o

lemma OwnersAgree.symm {p q : Option String} (h : OwnersAgree p q) : OwnersAgree q p :=
  fun c hc o ho => (h o ho c hc).symm

/-- A claimant owns an action when it is the required owner, if one is required. -/
def OwnsAction (claimant : Option String) (action : String) : Prop :=
  ∀ required ∈ requiredOwnerForAction action, claimant = some required

lemma requiredOwnerForAction_normalize (action : String) :
    requiredOwnerForAction (normalize action) = requiredOwnerForAction action := by
  rw [requiredOwnerForAction, Text.normalize_normalize, requiredOwnerForAction]

lemma checkRequiredOwner_ok_iff (claimant : Option String) (action : String) :
    checkRequiredOwner claimant action = .ok () ↔ OwnsAction claimant action := by
  unfold checkRequiredOwner OwnsAction
  generalize requiredOwnerForAction action = req
  rcases req with _ | required
  · simp
  · rcases claimant with _ | claimant
    · simp
    · by_cases hc : claimant = required <;> simp [hc]

lemma checkOtherNode_ok_iff {claimant : Option String} {action : String}
    (hown : OwnsAction claimant action) (node : String)
    (existingOwners : Dict String (Option String)) (otherNode : String)
    (otherActions : List String) :
    checkOtherNode node claimant action existingOwners otherNode otherActions = .ok () ↔
      (otherNode ≠ node → action ∈ otherActions →
        OwnersAgree claimant (existingOwners.get? otherNode).join) := by
  unfold checkOtherNode
  by_cases hnode : otherNode = node
  · simp [hnode]
  by_cases hmem : action ∈ otherActions
  swap
  · simp [hnode, hmem]
  simp only [hmem, not_true_eq_false, if_false, ne_eq, hnode, not_false_eq_true, forall_const]
  rw [OwnsAction] at hown
  generalize (existingOwners.get? otherNode).join = otherOwner
  generalize requiredOwnerForAction action = req at hown ⊢
  rcases req with _ | required
  · rcases claimant with _ | c <;> rcases otherOwner with _ | o <;>
      simp [OwnersAgree, checkOtherNode.checkCanonicalPeer]
  · obtain rfl : claimant = some required := hown required rfl
    rcases otherOwner with _ | o
    · simp [OwnersAgree]
    · by_cases ho : required = o <;>
        simp [OwnersAgree, checkOtherNode.checkCanonicalPeer, ho]

/-- A registration passes the check exactly when its owner is the required one of each of
its actions and agrees with every other node with which it shares an action. -/
theorem assertRegistrationOwnership_ok_iff (nodeName : String) (supportedActions : List String)
    (metadata : Dict String String) (existing : Dict String (List String))
    (existingOwners : Dict String (Option String)) :
    assertRegistrationOwnership nodeName supportedActions metadata existing existingOwners =
        .ok () ↔
      ∀ item ∈ supportedActions,
        OwnsAction (ownerForRegistration nodeName metadata) (normalize item) ∧
        ∀ otherNode otherActions, existing.get? otherNode = some otherActions →
          otherNode ≠ normalize nodeName → normalize item ∈ otherActions →
          OwnersAgree (ownerForRegistration nodeName metadata)
            (existingOwners.get? otherNode).join := by
  rw [assertRegistrationOwnership, forM_eq_ok_iff]
  refine forall₂_congr fun item _ => ?_
  rcases hreq : checkRequiredOwner (ownerForRegistration nodeName metadata) (normalize item)
    with e | u
  · have hown : ¬ OwnsAction (ownerForRegistration nodeName metadata) (normalize item) := by
      rw [← checkRequiredOwner_ok_iff, hreq]
      simp
    simp [bind, Except.bind, hreq, hown]
  · have hown := (checkRequiredOwner_ok_iff _ _).1 hreq
    simp only [bind, Except.bind, hreq]
    rw [forM_eq_ok_iff, and_iff_right hown]
    simp only [checkOtherNode_ok_iff hown, Prod.forall, Dict.mem_entries_iff]

end ConstellationGate
