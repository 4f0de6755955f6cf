import ConstellationGate.Routing.Resolution
import ConstellationGate.Services.CapabilityService

/-!
# Listings and the order of registration

What a listing tells of an action that is not canonical is the owner of the node that advertises it
and is stored last.  Nodes that share an action never have different known owners, but one of them
may have an owner and another none.  Two registries that hold the same registrations are therefore
listed alike exactly when for each such action the last node has a known owner in both of them or in
neither (`listing_order_iff`).

An untagged replica next to a tagged one is enough for two listings
(`untagged_replica_hides_owner`).
-/

namespace ConstellationGate

namespace NodeRegistry

/-! ### Calls of `register_node` -/

/-- A call of `register_node`. -/
structure RegisterCall where
  name : String
  registration : NodeRegistration
  overwrite : Bool := false

/-- The registry after calls of `register_node`. -/
def registered (calls : List RegisterCall) : NodeRegistry :=
  empty.runNode (calls.map fun call => .register call.name call.registration call.overwrite)

/-- Every call is accepted. -/
def AllAccepted (reg : NodeRegistry) : List RegisterCall → Prop
  | [] => True
  | call :: calls =>
    (reg.registerNode call.name call.registration call.overwrite).1 = .ok () ∧
      AllAccepted (reg.registerNode call.name call.registration call.overwrite).2 calls

/-- The registration that an accepted call stores. -/
def RegisterCall.stored (call : RegisterCall) : Option NodeRegistration :=
  if hne : normalize call.name = "" then none
  else some (call.registration.storedAs (normalize call.name)
    (Text.normalize_normalize call.name) hne)

/-- The registries hold the same registrations, in any order. -/
def SameRegistrations (reg reg' : NodeRegistry) : Prop :=
  ∀ node, reg.nodes.get? node = reg'.nodes.get? node

lemma registerNode_of_accepted {reg : NodeRegistry} {call : RegisterCall}
    (h : (reg.registerNode call.name call.registration call.overwrite).1 = .ok ()) :
    ∃ r, call.stored = some r ∧
      (reg.registerNode call.name call.registration call.overwrite).2 =
        ⟨reg.nodes.set (normalize call.name) r⟩ := by
  rcases reg.registerNode_cases call.name call.registration call.overwrite with
    ⟨e, heq⟩ | ⟨hne, heq⟩
  · rw [heq] at h
    cases h
  · exact ⟨_, dif_neg hne, by rw [heq]⟩

/-- What accepted calls for different nodes leave in the registry. -/
lemma get?_runNode_accepted {calls : List RegisterCall} {reg : NodeRegistry}
    (haccepted : AllAccepted reg calls)
    (hnames : (calls.map fun call => normalize call.name).Nodup) (node : String)
    (r : NodeRegistration) :
    (reg.runNode (calls.map fun call => .register call.name call.registration
        call.overwrite)).nodes.get? node = some r ↔
      (∃ call ∈ calls, normalize call.name = node ∧ call.stored = some r) ∨
        (∀ call ∈ calls, normalize call.name ≠ node) ∧ reg.nodes.get? node = some r := by
  induction calls generalizing reg with
  | nil => simp
  | cons call calls ih =>
    obtain ⟨hfirst, hrest⟩ := haccepted
    obtain ⟨stored, hstored, heq⟩ := registerNode_of_accepted hfirst
    rw [List.map_cons, List.nodup_cons] at hnames
    rw [heq] at hrest
    have hlater : ∀ later ∈ calls, normalize later.name ≠ normalize call.name := by
      intro later hmem hname
      exact hnames.1 (List.mem_map.2 ⟨later, hmem, hname⟩)
    rw [List.map_cons, runNode_cons, applyNode, heq, ih hrest hnames.2, Dict.get?_set]
    simp only [List.exists_mem_cons_iff, List.forall_mem_cons, hstored, Option.some.injEq]
    by_cases hnode : node = normalize call.name
    · subst hnode
      have hnone : ¬ ∃ later ∈ calls, normalize later.name = normalize call.name ∧
          later.stored = some r := by
        rintro ⟨later, hmem, hname, -⟩
        exact hlater later hmem hname
      simpa [hnone] using fun _ => hlater
    · simp [hnode, Ne.symm hnode]

/-- Accepted calls for different nodes lead to the same registrations in every order. -/
lemma sameRegistrations_of_perm {calls calls' : List RegisterCall} (hperm : calls.Perm calls')
    (hnames : (calls.map fun call => normalize call.name).Nodup)
    (haccepted : AllAccepted empty calls) (haccepted' : AllAccepted empty calls') :
    SameRegistrations (registered calls) (registered calls') := by
  have hnames' : (calls'.map fun call => normalize call.name).Nodup :=
    (hperm.map _).nodup_iff.1 hnames
  intro node
  ext r
  rw [registered, registered, get?_runNode_accepted haccepted hnames,
    get?_runNode_accepted haccepted' hnames']
  simp only [hperm.mem_iff]

/-- Calls of `register_node` keep the invariants. -/
lemma registered_invariant (calls : List RegisterCall) :
    (registered calls).Keyed ∧ (registered calls).OwnersShare :=
  runNode_invariant keyed_empty ownersShare_empty _

/-- The last of the nodes that advertise an action, in the order in which they are stored. -/
def lastKnown (reg : NodeRegistry) (action : String) : Option NodeRegistration :=
  (reg.known action).getLast?

lemma lastKnown_eq (reg : NodeRegistry) (action : String) :
    reg.lastKnown action = ((reg.nodes.entries.filter fun e =>
      action ∈ e.2.supportedActions).getLast?).map Prod.snd := by
  rw [lastKnown, known, Dict.values, List.filter_map, List.getLast?_map]
  rfl

/-- Two nodes that advertise an action and whose owners are known have one owner. -/
lemma owner_eq_of_isSome {reg : NodeRegistry} (hshare : reg.OwnersShare)
    {action : String} {r r' : NodeRegistration} (hr : r ∈ reg.known action)
    (hr' : r' ∈ reg.known action) (hsome : r.owner.isSome = r'.owner.isSome) :
    r.owner = r'.owner := by
  obtain ⟨hin, haction⟩ := List.mem_filter.1 hr
  obtain ⟨hin', haction'⟩ := List.mem_filter.1 hr'
  obtain ⟨node, hget⟩ := Dict.mem_values_iff.1 hin
  obtain ⟨node', hget'⟩ := Dict.mem_values_iff.1 hin'
  by_cases hnode : node = node'
  · subst hnode
    rw [Option.some.inj (hget.symm.trans hget')]
  have hagree := hshare node r node' r' hget hget' hnode action (of_decide_eq_true haction)
    (of_decide_eq_true haction')
  rcases howner : r.owner with - | owner
  · rw [howner] at hsome
    exact (Option.isSome_eq_false_iff.1 hsome.symm |> Option.isNone_iff_eq_none.1).symm
  · rw [howner] at hsome
    obtain ⟨owner', howner'⟩ := Option.isSome_iff_exists.1 hsome.symm
    rw [howner', hagree owner howner owner' howner']

end NodeRegistry

/-! ### What a view tells of an action -/

section Views

variable {reg reg' : NodeRegistry} {action : String} {includeProtected : Bool}

/-- A protected action has its canonical owner in the view of an authorized caller, whether or not
a node advertises it. -/
lemma get?_viewedActions_canonical (haction : action ∈ protectedActions) :
    (viewedActions reg true).get? action = some (requiredOwnerForAction action) := by
  have hrequired : ∀ action ∈ protectedActions, ∃ owner,
      canonicalActionOwners.lookup action = some owner ∧
        requiredOwnerForAction action = some owner := by decide +kernel
  obtain ⟨owner, hlookup, hcanonical⟩ := hrequired action haction
  have hshown : Shown true action := fun _ => rfl
  rw [viewedActions, if_pos rfl, get?_addCanonical, get?_addNodes, if_pos hshown, hlookup,
    hcanonical]
  generalize List.getLast? _ = last
  cases last with
  | none => rfl
  | some node => rfl

/-- Any other action has the owner of the last node that advertises it. -/
lemma get?_viewedActions_lastKnown (hk : reg.Keyed) (haction : action ∉ protectedActions) :
    (viewedActions reg includeProtected).get? action =
      (reg.lastKnown action).map NodeRegistration.owner := by
  have hshown : Shown includeProtected action := fun hprotected => absurd hprotected haction
  rw [get?_viewedActions haction, get?_addNodes, if_pos hshown, NodeRegistry.lastKnown_eq,
    Option.map_map]
  refine Option.map_congr fun node hnode => ?_
  obtain ⟨hmem, hadvertised⟩ := List.mem_filter.1 (List.mem_of_getLast? hnode)
  have hnorm := (node.2.action_normalized action (of_decide_eq_true hadvertised)).1
  rw [(requiredOwner_eq_none_iff hnorm).2 haction, Option.none_or, Function.comp_apply,
    NodeRegistration.owner, hk node.1 node.2 (Dict.mem_entries_iff.1 hmem)]

/-- Registries that hold the same registrations advertise the same actions. -/
lemma describe_eq_of_same (h : reg.SameRegistrations reg') (action : String)
    (owner : Option String) : describe reg action owner = describe reg' action owner := by
  have hadvertised : action ∈ reg.allSupportedActions ↔ action ∈ reg'.allSupportedActions := by
    simp only [NodeRegistry.mem_allSupportedActions, Dict.mem_values_iff, h _]
  rw [describe, describe, decide_eq_decide.2 hadvertised]

/-- For each action that is not canonical, the last node that advertises it has a known owner in
both registries or in neither. -/
def LastOwnersAlike (reg reg' : NodeRegistry) : Prop :=
  ∀ action ∉ protectedActions, ∀ r ∈ reg.lastKnown action, ∀ r' ∈ reg'.lastKnown action,
    r.owner.isSome = r'.owner.isSome

/-- The view is the same when the last owners are alike, and only then. -/
lemma project_eq_iff (hk : reg.Keyed) (hk' : reg'.Keyed) (hshare : reg.OwnersShare)
    (h : reg.SameRegistrations reg') :
    project reg includeProtected = project reg' includeProtected ↔ LastOwnersAlike reg reg' := by
  have hknown : ∀ action, (reg.known action).Perm (reg'.known action) :=
    NodeRegistry.known_perm (Dict.perm_entries h)
  constructor
  · intro heq action haction r hr r' hr'
    have hview := @get?_viewedActions_lastKnown reg action includeProtected hk haction
    have hview' := @get?_viewedActions_lastKnown reg' action includeProtected hk' haction
    rw [Option.mem_def.1 hr] at hview
    rw [Option.mem_def.1 hr'] at hview'
    have hmem : describe reg action r.owner ∈ project reg' includeProtected := by
      rw [← heq]
      exact mem_project.2 ⟨r.owner, hview, rfl⟩
    obtain ⟨owner, hget, hdescribe⟩ := mem_project.1 hmem
    have howner : owner = r.owner := congrArg CapabilityDescriptor.owner hdescribe
    have hget' : some r'.owner = some owner := hview'.symm.trans hget
    rw [← howner, Option.some.inj hget']
  · intro hlast
    have hsorted : (viewedActions reg includeProtected).sortedItems =
        (viewedActions reg' includeProtected).sortedItems := by
      refine Dict.sortedItems_congr fun action => ?_
      by_cases haction : action ∈ protectedActions
      · cases includeProtected with
        | false => rw [(get?_viewedActions_protected haction).1,
            (get?_viewedActions_protected haction).1]
        | true => rw [get?_viewedActions_canonical haction, get?_viewedActions_canonical haction]
      rw [get?_viewedActions_lastKnown hk haction, get?_viewedActions_lastKnown hk' haction]
      have hempty : reg.lastKnown action = none ↔ reg'.lastKnown action = none := by
        rw [NodeRegistry.lastKnown, NodeRegistry.lastKnown, List.getLast?_eq_none_iff,
          List.getLast?_eq_none_iff, ← List.length_eq_zero_iff, (hknown action).length_eq,
          List.length_eq_zero_iff]
      rcases hr : reg.lastKnown action with - | r
      · rw [hempty.1 hr]
      rcases hr' : reg'.lastKnown action with - | r'
      · rw [hempty.2 hr'] at hr
        cases hr
      have hin : r ∈ reg.known action := List.mem_of_getLast? hr
      have hin' : r' ∈ reg.known action := (hknown action).mem_iff.2 (List.mem_of_getLast? hr')
      rw [Option.map_some, Option.map_some, NodeRegistry.owner_eq_of_isSome hshare hin hin'
        (hlast action haction r hr r' hr')]
    rw [project, project, hsorted]
    exact List.map_congr_left fun e _ => describe_eq_of_same h e.1 e.2

end Views

namespace CapabilityService

open NodeRegistry

/-- Two registries that hold the same registrations, whatever calls of `register_node` have led to
them, are listed alike for a caller exactly when the last owners are alike. -/
theorem listing_order_iff (sha256 : String → String) {calls calls' : List RegisterCall}
    (hsame : (registered calls).SameRegistrations (registered calls'))
    (adminToken presentedToken : Option String) :
    (∀ includeProtected,
      (init (registered calls) adminToken).listCapabilities sha256 presentedToken
          includeProtected =
        (init (registered calls') adminToken).listCapabilities sha256 presentedToken
          includeProtected) ↔
      LastOwnersAlike (registered calls) (registered calls') := by
  obtain ⟨hk, hshare⟩ := registered_invariant calls
  have hproject : ∀ includeProtected, project (registered calls) includeProtected =
      project (registered calls') includeProtected ↔
        LastOwnersAlike (registered calls) (registered calls') := fun _ =>
    project_eq_iff hk (registered_invariant calls').1 hshare hsame
  have hauthorized : (init (registered calls') adminToken).isAuthorized presentedToken =
      (init (registered calls) adminToken).isAuthorized presentedToken :=
    isAuthorized_congr rfl presentedToken
  constructor
  · intro h
    have hlist := h false
    rw [listCapabilities_eq, listCapabilities_eq, hauthorized] at hlist
    exact (hproject _).1 (congrArg CapabilityListResponse.capabilities (Except.ok.inj hlist))
  · intro hlast includeProtected
    have hview : ∀ authorized, project (init (registered calls) adminToken).registry authorized =
        project (init (registered calls') adminToken).registry authorized :=
      fun authorized => (hproject authorized).2 hlast
    unfold listCapabilities
    simp only [hauthorized, hview]

/-! ### Two replicas of one action -/

lemma scored_ne : ["score"] ≠ [] := List.cons_ne_nil _ _

lemma scored_nodup : ["score"].Nodup := List.nodup_singleton _

lemma scored_normalized : ∀ action ∈ ["score"], normalize action = action ∧ action ≠ "" := by
  intro action haction
  obtain rfl := List.mem_singleton.1 haction
  decide +kernel

lemma scored_not_reserved : admissionAction ∉ ["score"] := by decide

/-- A replica that serves `score`. -/
def scoreReplica (name : String) (hname : normalize name = name ∧ name ≠ "")
    (metadata : Dict String String) : NodeRegistration where
  nodeName := name
  internalUrl := "http://" ++ name ++ ":8000"
  supportedActions := ["score"]
  priorityClass := "P2"
  maxConcurrent := 50
  healthEndpoint := "/v1/health"
  timeoutMs := 30000
  metadata := metadata
  healthy := true
  activeRequests := 0
  nodeName_normalized := hname.1
  nodeName_ne := hname.2
  actions_ne := scored_ne
  actions_nodup := scored_nodup
  action_normalized := scored_normalized
  not_reserved := scored_not_reserved
  one_le_maxConcurrent := Nat.one_le_ofNat
  one_le_timeoutMs := Nat.one_le_ofNat

lemma scoreA_normalized : normalize "score-a" = "score-a" ∧ "score-a" ≠ "" := by decide +kernel

lemma scoreB_normalized : normalize "score-b" = "score-b" ∧ "score-b" ≠ "" := by decide +kernel

/-- The replica `score-a`, of an owner that its metadata names. -/
def tagged : RegisterCall where
  name := "score-a"
  registration := scoreReplica "score-a" scoreA_normalized (Dict.empty.set "owner" "ceg")

/-- The replica `score-b`, of no owner. -/
def untagged : RegisterCall where
  name := "score-b"
  registration := scoreReplica "score-b" scoreB_normalized .empty

lemma replicas_accepted :
    AllAccepted empty [tagged, untagged] ∧ AllAccepted empty [untagged, tagged] := by
  refine ⟨⟨?_, ?_, trivial⟩, ⟨?_, ?_, trivial⟩⟩ <;> decide +kernel

/-- The two replicas are listed alike, in any order, only if their owners are. -/
theorem listing_order_replicas :
    (∀ includeProtected,
      (init (registered [tagged, untagged]) none).listCapabilities id none includeProtected =
        (init (registered [untagged, tagged]) none).listCapabilities id none includeProtected) ↔
      LastOwnersAlike (registered [tagged, untagged]) (registered [untagged, tagged]) :=
  listing_order_iff id (sameRegistrations_of_perm (List.Perm.swap _ _ _) (by decide +kernel)
    replicas_accepted.1 replicas_accepted.2) none none

/-- Registered last, the untagged replica hides the owner of the action. -/
theorem untagged_replica_hides_owner :
    ¬ ∀ (calls calls' : List RegisterCall), calls.Perm calls' → AllAccepted empty calls →
      AllAccepted empty calls' → ∀ adminToken presentedToken,
        (init (registered calls) adminToken).listCapabilities id presentedToken =
          (init (registered calls') adminToken).listCapabilities id presentedToken := by
  intro h
  have hperm : [tagged, untagged].Perm [untagged, tagged] := List.Perm.swap _ _ _
  have hlist := h _ _ hperm replicas_accepted.1 replicas_accepted.2 none none
  rw [listCapabilities_eq, listCapabilities_eq] at hlist
  have hproject : project (registered [tagged, untagged]) true =
      project (registered [untagged, tagged]) true :=
    congrArg CapabilityListResponse.capabilities (Except.ok.inj hlist)
  have hsame := sameRegistrations_of_perm hperm (by decide +kernel) replicas_accepted.1
    replicas_accepted.2
  have hlast := (project_eq_iff (registered_invariant _).1 (registered_invariant _).1
    (registered_invariant _).2 hsame).1 hproject
  -- the last replica is the untagged one in one registry and the tagged one in the other
  have howners := hlast "score" (by decide) untagged.registration (by decide +kernel)
    tagged.registration (by decide +kernel)
  revert howners
  decide +kernel

end CapabilityService

end ConstellationGate
