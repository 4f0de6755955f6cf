import ConstellationGate.Routing.NodeRegistry

/-!
# Admin registration

`services/admin_registration_service.py` with the request and the answer of
`schemas/registry.py`: the nodes of a batch are registered one after the other.

The registry is changed entry by entry, so that a batch that fails half-way has already
registered the nodes before the failing one (`register_error`).  The failed call leaves the
registry as it was exactly when those nodes were stored like this before (`Confirms`).
-/

namespace ConstellationGate

/-! ### The request and the answer -/

/-- `NodeRegistrationInput`: the fields of a node in a request, as its validators leave them. -/
structure NodeRegistrationInput where
  internalUrl : String
  supportedActions : List String
  priorityClass : String
  maxConcurrent : ℕ
  healthEndpoint : String
  timeoutMs : ℕ
  metadata : Dict String String
  url_scheme : (Text.startsWith internalUrl "http://" || Text.startsWith internalUrl "https://") =
    true
  actions_ne : supportedActions ≠ []
  actions_nodup : supportedActions.Nodup
  action_normalized : ∀ action ∈ supportedActions, normalize action = action ∧ action ≠ ""
  priority_known : priorityClass ∈ ["P0", "P1", "P2", "P3"]
  endpoint_path : Text.startsWith healthEndpoint "/" = true
  one_le_maxConcurrent : 1 ≤ maxConcurrent
  one_le_timeoutMs : 1 ≤ timeoutMs

/-- `RegisterNodesRequest`. -/
structure RegisterNodesRequest where
  root : Dict String NodeRegistrationInput

/-- `NodeRegistrationStatus`. -/
structure NodeRegistrationStatus where
  nodeName : String
  healthy : Bool
  registered : Bool

/-- `RegisterNodesResponse`. -/
structure RegisterNodesResponse where
  registered : List NodeRegistrationStatus
  totalNodes : ℕ

/-- What `register` passes to `NodeRegistration`: a new node is healthy and has no load. -/
def NodeRegistrationInput.payload (input : NodeRegistrationInput) : RegistrationPayload where
  internalUrl := input.internalUrl
  supportedActions := input.supportedActions
  priorityClass := input.priorityClass
  maxConcurrent := input.maxConcurrent
  healthEndpoint := input.healthEndpoint
  timeoutMs := input.timeoutMs
  metadata := input.metadata
  healthy := true
  activeRequests := 0

/-! ### The service -/

/-- The service, with its token stripped. -/
structure AdminRegistrationService where
  adminToken : Option String

namespace AdminRegistrationService

/-- `AdminRegistrationService(registry, admin_token=…)`. -/
def create (adminToken : Option String) : AdminRegistrationService := ⟨adminToken.map Text.strip⟩

/-- `_authorize`. -/
def authorize (service : AdminRegistrationService) (presentedToken : Option String) :
    Except PyError Unit :=
  match service.adminToken with
  | none => .ok ()
  | some token =>
    if presentedToken.map Text.strip = some token then .ok ()
    else .error { cls := .permissionError, message := "admin token required or invalid" }

/-- The body of the loop: build the registration of an entry and register it. -/
def registerEntry (overwrite : Bool) (entry : String × NodeRegistrationInput)
    (reg : NodeRegistry) : Except PyError NodeRegistrationStatus × NodeRegistry :=
  match NodeRegistration.create entry.1 entry.2.payload with
  | .error e => (.error e, reg)
  | .ok registration =>
    match reg.registerNode entry.1 registration overwrite with
    | (.error e, reg') => (.error e, reg')
    | (.ok (), reg') => (.ok ⟨normalize entry.1, true, true⟩, reg')

/-- The loop over the entries of the request. -/
def registerEntries (overwrite : Bool) : List (String × NodeRegistrationInput) → NodeRegistry →
    Except PyError (List NodeRegistrationStatus) × NodeRegistry
  | [], reg => (.ok [], reg)
  | entry :: entries, reg =>
    match registerEntry overwrite entry reg with
    | (.error e, reg') => (.error e, reg')
    | (.ok status, reg') =>
      match registerEntries overwrite entries reg' with
      | (.error e, reg'') => (.error e, reg'')
      | (.ok statuses, reg'') => (.ok (status :: statuses), reg'')

/-- `AdminRegistrationService.register`. -/
def register (service : AdminRegistrationService) (request : RegisterNodesRequest)
    (overwrite : Bool) (presentedToken : Option String) (reg : NodeRegistry) :
    Except PyError RegisterNodesResponse × NodeRegistry :=
  match service.authorize presentedToken with
  | .error e => (.error e, reg)
  | .ok () =>
    match registerEntries overwrite request.root.entries reg with
    | (.error e, reg') => (.error e, reg')
    | (.ok statuses, reg') => (.ok ⟨statuses, statuses.length⟩, reg')

/-! ### What the loop leaves behind -/

/-- The registry takes the entry. -/
def Takes (overwrite : Bool) (reg : NodeRegistry) (entry : String × NodeRegistrationInput)
    (reg' : NodeRegistry) : Prop :=
  ∃ r, NodeRegistration.create entry.1 entry.2.payload = .ok r ∧
    reg.registerNode entry.1 r overwrite = (.ok (), reg')

/-- The registry takes the entries one after the other and becomes `reg'`. -/
inductive TakesAll (overwrite : Bool) :
    NodeRegistry → List (String × NodeRegistrationInput) → NodeRegistry → Prop
  | nil {reg : NodeRegistry} : TakesAll overwrite reg [] reg
  | cons {reg reg₁ reg₂ : NodeRegistry} {entry : String × NodeRegistrationInput}
      {entries : List (String × NodeRegistrationInput)} (hentry : Takes overwrite reg entry reg₁)
      (hentries : TakesAll overwrite reg₁ entries reg₂) :
      TakesAll overwrite reg (entry :: entries) reg₂

/-- An entry is taken, and stored under its node, or it changes nothing. -/
lemma registerEntry_cases (overwrite : Bool) (entry : String × NodeRegistrationInput)
    (reg : NodeRegistry) :
    (∃ reg', Takes overwrite reg entry reg' ∧
      registerEntry overwrite entry reg = (.ok ⟨normalize entry.1, true, true⟩, reg')) ∨
    (∀ reg', ¬ Takes overwrite reg entry reg') ∧
      ∃ e, registerEntry overwrite entry reg = (.error e, reg) := by
  unfold registerEntry
  rcases hcreate : NodeRegistration.create entry.1 entry.2.payload with e | r
  · refine Or.inr ⟨?_, e, rfl⟩
    rintro reg' ⟨r, hr, -⟩
    rw [hcreate] at hr
    cases hr
  rcases reg.registerNode_cases entry.1 r overwrite with ⟨e, hrefused⟩ | ⟨hne, hstored⟩
  · refine Or.inr ⟨?_, e, by simp only [hrefused]⟩
    rintro reg' ⟨r', hr', htaken⟩
    obtain rfl := Except.ok.inj (hcreate.symm.trans hr')
    rw [hrefused] at htaken
    cases htaken
  · exact Or.inl ⟨_, ⟨r, hcreate, hstored⟩, by simp only [hstored]⟩

/-- The loop takes all entries, or it stops at the first one that is refused. -/
lemma registerEntries_cases (overwrite : Bool) (entries : List (String × NodeRegistrationInput))
    (reg : NodeRegistry) :
    (∃ statuses reg', TakesAll overwrite reg entries reg' ∧
      registerEntries overwrite entries reg = (.ok statuses, reg')) ∨
    ∃ before entry after reg' e, entries = before ++ entry :: after ∧
      TakesAll overwrite reg before reg' ∧ (∀ reg'', ¬ Takes overwrite reg' entry reg'') ∧
      registerEntries overwrite entries reg = (.error e, reg') := by
  induction entries generalizing reg with
  | nil => exact Or.inl ⟨[], reg, .nil, rfl⟩
  | cons entry entries ih =>
    rw [registerEntries]
    rcases registerEntry_cases overwrite entry reg with ⟨reg₁, htaken, heq⟩ | ⟨hrefused, e, heq⟩
    · rw [heq]
      rcases ih reg₁ with ⟨statuses, reg', hall, hrest⟩ | ⟨before, bad, after, reg', e, rfl, hall,
        hbad, hrest⟩
      · exact Or.inl ⟨⟨normalize entry.1, true, true⟩ :: statuses, reg', .cons htaken hall,
          by simp only [hrest]⟩
      · exact Or.inr ⟨entry :: before, bad, after, reg', e, rfl, .cons htaken hall, hbad,
          by simp only [hrest]⟩
    · rw [heq]
      exact Or.inr ⟨[], entry, entries, reg, e, rfl, .nil, hrefused, rfl⟩

/-- A registry takes an entry in one way at most. -/
lemma Takes.unique {overwrite : Bool} {reg reg₁ reg₂ : NodeRegistry}
    {entry : String × NodeRegistrationInput} (h₁ : Takes overwrite reg entry reg₁)
    (h₂ : Takes overwrite reg entry reg₂) : reg₁ = reg₂ := by
  obtain ⟨r₁, hcreate₁, hstored₁⟩ := h₁
  obtain ⟨r₂, hcreate₂, hstored₂⟩ := h₂
  obtain rfl := Except.ok.inj (hcreate₁.symm.trans hcreate₂)
  exact (Prod.mk.inj (hstored₁.symm.trans hstored₂)).2

/-- A batch stops at one entry at most. -/
lemma TakesAll.stop_unique {overwrite : Bool} {reg reg₁ reg₂ : NodeRegistry}
    {before before' after after' : List (String × NodeRegistrationInput)}
    {entry entry' : String × NodeRegistrationInput} (h₁ : TakesAll overwrite reg before reg₁)
    (h₂ : TakesAll overwrite reg before' reg₂) (hbad : ∀ reg', ¬ Takes overwrite reg₁ entry reg')
    (hbad' : ∀ reg', ¬ Takes overwrite reg₂ entry' reg')
    (heq : before ++ entry :: after = before' ++ entry' :: after') :
    before = before' ∧ reg₁ = reg₂ := by
  induction h₁ generalizing before' with
  | nil =>
    cases h₂ with
    | nil => exact ⟨rfl, rfl⟩
    | cons htaken _ =>
      obtain ⟨rfl, -⟩ := List.cons.inj heq
      exact absurd htaken (hbad _)
  | cons htaken hall ih =>
    cases h₂ with
    | nil =>
      obtain ⟨rfl, -⟩ := List.cons.inj heq
      exact absurd htaken (hbad' _)
    | cons htaken' hall' =>
      obtain ⟨rfl, hrest⟩ := List.cons.inj heq
      obtain rfl := htaken.unique htaken'
      obtain ⟨rfl, rfl⟩ := ih hall' hbad hrest
      exact ⟨rfl, rfl⟩

/-- An entry that is taken after those before it is one of the entries that a batch takes until it
stops. -/
lemma TakesAll.mem_of_takes {overwrite : Bool} {reg reg₁ reg' reg'' : NodeRegistry}
    {taken rest before after : List (String × NodeRegistrationInput)}
    {entry : String × NodeRegistrationInput} (h : TakesAll overwrite reg taken reg₁)
    (hstop : ∀ bad after', rest = bad :: after' → ∀ reg', ¬ Takes overwrite reg₁ bad reg')
    (hbefore : TakesAll overwrite reg before reg') (htaken : Takes overwrite reg' entry reg'')
    (heq : taken ++ rest = before ++ entry :: after) : entry ∈ taken := by
  induction h generalizing before with
  | nil =>
    -- the batch stops here, so nothing more is taken
    cases hbefore with
    | nil => exact absurd htaken (hstop entry after heq _)
    | cons hfirst _ => exact absurd hfirst (hstop _ _ heq _)
  | cons hfirst hrest ih =>
    cases hbefore with
    | nil =>
      obtain ⟨rfl, -⟩ := List.cons.inj heq
      exact List.mem_cons_self
    | cons hfirst' hbefore' =>
      obtain ⟨rfl, hrest_eq⟩ := List.cons.inj heq
      obtain rfl := hfirst.unique hfirst'
      exact List.mem_cons_of_mem _ (ih hstop hbefore' hrest_eq)

/-- A batch that is taken is taken part by part. -/
lemma TakesAll.of_append {overwrite : Bool} {reg reg₂ : NodeRegistry}
    {before after : List (String × NodeRegistrationInput)}
    (h : TakesAll overwrite reg (before ++ after) reg₂) :
    ∃ reg₁, TakesAll overwrite reg before reg₁ ∧ TakesAll overwrite reg₁ after reg₂ := by
  induction before generalizing reg with
  | nil => exact ⟨reg, .nil, h⟩
  | cons first before ih =>
    cases h with
    | cons htaken hrest =>
      obtain ⟨reg₁, hbefore, hafter⟩ := ih hrest
      exact ⟨reg₁, .cons htaken hbefore, hafter⟩

/-- A registry takes a batch in one way at most. -/
lemma TakesAll.unique {overwrite : Bool} {reg reg₁ reg₂ : NodeRegistry}
    {entries : List (String × NodeRegistrationInput)} (h₁ : TakesAll overwrite reg entries reg₁)
    (h₂ : TakesAll overwrite reg entries reg₂) : reg₁ = reg₂ := by
  induction h₁ with
  | nil =>
    cases h₂
    rfl
  | cons htaken _ ih =>
    cases h₂ with
    | cons htaken' hrest =>
      obtain rfl := htaken.unique htaken'
      exact ih hrest

/-- In a batch that is taken no entry is refused. -/
lemma TakesAll.takes {overwrite : Bool} {reg reg₁ reg₂ : NodeRegistry}
    {before after : List (String × NodeRegistrationInput)} {entry : String × NodeRegistrationInput}
    (h : TakesAll overwrite reg (before ++ entry :: after) reg₂)
    (hbefore : TakesAll overwrite reg before reg₁) : ∃ reg', Takes overwrite reg₁ entry reg' := by
  obtain ⟨reg', hbefore', hrest⟩ := h.of_append
  obtain rfl := hbefore.unique hbefore'
  cases hrest with
  | cons htaken _ => exact ⟨_, htaken⟩

/-- What is stored when an entry is taken. -/
lemma Takes.nodes {overwrite : Bool} {reg reg' : NodeRegistry}
    {entry : String × NodeRegistrationInput} (h : Takes overwrite reg entry reg') :
    ∃ r, NodeRegistration.create entry.1 entry.2.payload = .ok r ∧
      reg' = ⟨reg.nodes.set (normalize entry.1) r⟩ := by
  obtain ⟨r, hcreate, hstored⟩ := h
  refine ⟨r, hcreate, ?_⟩
  have hname := (NodeRegistration.of_create hcreate).1
  rcases reg.registerNode_cases entry.1 r overwrite with ⟨e, hrefused⟩ | ⟨hne, hstored'⟩
  · rw [hrefused] at hstored
    cases hstored
  · rw [hstored', r.storedAs_of_eq hname] at hstored
    exact (Prod.mk.inj hstored).2.symm

/-- The entry is the last one of the batch for its node. -/
def LastFor (entries : List (String × NodeRegistrationInput))
    (entry : String × NodeRegistrationInput) : Prop :=
  ∃ l l', entries = l ++ entry :: l' ∧ ∀ other ∈ l', normalize other.1 ≠ normalize entry.1

lemma exists_lastFor {entries : List (String × NodeRegistrationInput)} {node : String}
    (h : ∃ entry ∈ entries, normalize entry.1 = node) :
    ∃ entry, LastFor entries entry ∧ normalize entry.1 = node := by
  induction entries with
  | nil => simp at h
  | cons first entries ih =>
    by_cases hrest : ∃ entry ∈ entries, normalize entry.1 = node
    · obtain ⟨entry, ⟨l, l', rfl, hlast⟩, hnode⟩ := ih hrest
      exact ⟨entry, ⟨first :: l, l', rfl, hlast⟩, hnode⟩
    · obtain ⟨entry, hmem, hnode⟩ := h
      rcases List.mem_cons.1 hmem with rfl | hmem
      · refine ⟨entry, ⟨[], entries, rfl, fun other hother heq => ?_⟩, hnode⟩
        exact hrest ⟨other, hother, heq.trans hnode⟩
      · exact absurd ⟨entry, hmem, hnode⟩ hrest

/-- A batch leaves the nodes alone for which it has no entry. -/
lemma TakesAll.get?_of_ne {overwrite : Bool} {reg reg' : NodeRegistry}
    {entries : List (String × NodeRegistrationInput)} (h : TakesAll overwrite reg entries reg')
    {node : String} (hnode : ∀ entry ∈ entries, normalize entry.1 ≠ node) :
    reg'.nodes.get? node = reg.nodes.get? node := by
  induction h with
  | nil => rfl
  | cons htaken _ ih =>
    rw [List.forall_mem_cons] at hnode
    obtain ⟨r, -, rfl⟩ := htaken.nodes
    rw [ih hnode.2, Dict.get?_set, if_neg (Ne.symm hnode.1)]

/-- A batch removes no node. -/
lemma TakesAll.contains {overwrite : Bool} {reg reg' : NodeRegistry}
    {entries : List (String × NodeRegistrationInput)} (h : TakesAll overwrite reg entries reg')
    {node : String} (hnode : reg.nodes.contains node = true) :
    reg'.nodes.contains node = true := by
  induction h with
  | nil => exact hnode
  | cons htaken _ ih =>
    obtain ⟨r, -, rfl⟩ := htaken.nodes
    exact ih (by rw [Dict.contains_set, hnode, Bool.or_true])

/-- The registration stored for a node is that of its last entry. -/
lemma TakesAll.get?_of_lastFor {overwrite : Bool} {reg reg' : NodeRegistry}
    {entries : List (String × NodeRegistrationInput)} (h : TakesAll overwrite reg entries reg')
    {entry : String × NodeRegistrationInput} (hlast : LastFor entries entry) :
    ∃ r, NodeRegistration.create entry.1 entry.2.payload = .ok r ∧
      reg'.nodes.get? (normalize entry.1) = some r := by
  induction h with
  | nil =>
    obtain ⟨l, l', heq, -⟩ := hlast
    cases l <;> cases heq
  | @cons reg reg₁ reg₂ first entries htaken hall ih =>
    obtain ⟨l, l', heq, hrest⟩ := hlast
    cases l with
    | nil =>
      obtain ⟨rfl, rfl⟩ := List.cons.inj heq
      obtain ⟨r, hcreate, rfl⟩ := htaken.nodes
      exact ⟨r, hcreate, by rw [hall.get?_of_ne hrest, Dict.get?_set_self]⟩
    | cons x l =>
      obtain ⟨-, rfl⟩ := List.cons.inj heq
      exact ih ⟨l, l', rfl, hrest⟩

/-- The registry has stored what the entries register, the last entry for each node counting. -/
def Confirms (reg : NodeRegistry) (entries : List (String × NodeRegistrationInput)) : Prop :=
  ∀ entry, LastFor entries entry → ∃ r, NodeRegistration.create entry.1 entry.2.payload = .ok r ∧
    reg.nodes.get? (normalize entry.1) = some r

lemma Confirms.contains {reg : NodeRegistry} {entries : List (String × NodeRegistrationInput)}
    (h : Confirms reg entries) {entry : String × NodeRegistrationInput} (hentry : entry ∈ entries) :
    reg.nodes.contains (normalize entry.1) = true := by
  obtain ⟨last, hlast, hnode⟩ := exists_lastFor ⟨entry, hentry, rfl⟩
  obtain ⟨r, -, hget⟩ := h last hlast
  rw [← hnode, Dict.contains_iff]
  exact ⟨r, hget⟩

/-- A batch for nodes that are there keeps the order of the registry. -/
lemma TakesAll.keys {overwrite : Bool} {reg reg' : NodeRegistry}
    {entries : List (String × NodeRegistrationInput)} (h : TakesAll overwrite reg entries reg')
    (hthere : ∀ entry ∈ entries, reg.nodes.contains (normalize entry.1) = true) :
    reg'.nodes.keys = reg.nodes.keys := by
  induction h with
  | nil => rfl
  | cons htaken _ ih =>
    rw [List.forall_mem_cons] at hthere
    obtain ⟨r, -, rfl⟩ := htaken.nodes
    rw [ih fun entry hentry => ?_, Dict.keys_set_of_contains hthere.1]
    rw [Dict.contains_set, hthere.2 entry hentry, Bool.or_true]

/-- A batch changes nothing exactly when the registry has stored already what it registers. -/
theorem TakesAll.unchanged_iff {overwrite : Bool} {reg reg' : NodeRegistry}
    {entries : List (String × NodeRegistrationInput)} (h : TakesAll overwrite reg entries reg') :
    reg' = reg ↔ Confirms reg entries := by
  constructor
  · rintro rfl entry hlast
    exact h.get?_of_lastFor hlast
  · intro hconfirms
    have hkeys := h.keys fun entry hentry => hconfirms.contains hentry
    have hnodes : reg'.nodes = reg.nodes := by
      refine Dict.ext_get? hkeys fun node => ?_
      by_cases hnode : ∃ entry ∈ entries, normalize entry.1 = node
      · obtain ⟨last, hlast, rfl⟩ := exists_lastFor hnode
        obtain ⟨r, hcreate, hget⟩ := h.get?_of_lastFor hlast
        obtain ⟨r', hcreate', hget'⟩ := hconfirms last hlast
        obtain rfl := Except.ok.inj (hcreate.symm.trans hcreate')
        rw [hget, hget']
      · refine h.get?_of_ne fun entry hentry heq => ?_
        exact hnode ⟨entry, hentry, heq⟩
    cases reg
    cases reg'
    exact congrArg NodeRegistry.mk hnodes

/-! ### Failed calls -/

/-- When a call fails, the nodes before the failing entry are registered. -/
lemma register_cases (service : AdminRegistrationService) (request : RegisterNodesRequest)
    (overwrite : Bool) (presentedToken : Option String) (reg : NodeRegistry) :
    (∃ e, service.authorize presentedToken = .error e ∧
      service.register request overwrite presentedToken reg = (.error e, reg)) ∨
    service.authorize presentedToken = .ok () ∧
      ((∃ response reg', TakesAll overwrite reg request.root.entries reg' ∧
        service.register request overwrite presentedToken reg = (.ok response, reg')) ∨
      ∃ before entry after reg' e, request.root.entries = before ++ entry :: after ∧
        TakesAll overwrite reg before reg' ∧ (∀ reg'', ¬ Takes overwrite reg' entry reg'') ∧
        service.register request overwrite presentedToken reg = (.error e, reg')) := by
  unfold register
  rcases hauth : service.authorize presentedToken with e | u
  · exact Or.inl ⟨e, rfl, rfl⟩
  refine Or.inr ⟨rfl, ?_⟩
  rcases registerEntries_cases overwrite request.root.entries reg with ⟨statuses, reg', hall, heq⟩ |
    ⟨before, entry, after, reg', e, hentries, hall, hbad, heq⟩
  · exact Or.inl ⟨⟨statuses, statuses.length⟩, reg', hall, by simp only [heq]⟩
  · exact Or.inr ⟨before, entry, after, reg', e, hentries, hall, hbad, by simp only [heq]⟩

/-- A failed call leaves the registry exactly as it was if and only if the token was refused or
the nodes before the failing entry were stored like this before. -/
theorem register_atomic_iff (service : AdminRegistrationService) (request : RegisterNodesRequest)
    (overwrite : Bool) (presentedToken : Option String) (reg : NodeRegistry) :
    ((∃ e, (service.register request overwrite presentedToken reg).1 = .error e) →
      (service.register request overwrite presentedToken reg).2 = reg) ↔
    (service.authorize presentedToken = .ok () →
      ∀ before entry after reg', request.root.entries = before ++ entry :: after →
        TakesAll overwrite reg before reg' → (∀ reg'', ¬ Takes overwrite reg' entry reg'') →
        Confirms reg before) := by
  rcases register_cases service request overwrite presentedToken reg with ⟨e, hauth, heq⟩ |
    ⟨hauth, ⟨response, reg', hall, heq⟩ |
      ⟨before, entry, after, reg', e, hentries, hall, hbad, heq⟩⟩
  · rw [heq, hauth]
    refine iff_of_true (fun _ => rfl) fun h => ?_
    cases h
  · rw [heq]
    refine iff_of_true ?_ fun _ before entry after reg₁ hentries hbefore hbad => ?_
    · rintro ⟨e, he⟩
      cases he
    · -- the whole batch was taken, the entry included
      rw [hentries] at hall
      obtain ⟨reg'', htaken⟩ := hall.takes hbefore
      exact absurd htaken (hbad reg'')
  · rw [heq]
    constructor
    · intro h _ before' entry' after' reg₁ hentries' hbefore' hbad'
      obtain ⟨rfl, rfl⟩ := hall.stop_unique hbefore' hbad hbad' (hentries.symm.trans hentries')
      exact hall.unchanged_iff.1 (h ⟨e, rfl⟩)
    · intro h _
      -- the entries before the failing one are those that the loop has taken
      exact hall.unchanged_iff.2 (h hauth before entry after reg' hentries hall hbad)

/-! ### A batch that fails half-way -/

lemma plainActions_ne (action : String) : [action] ≠ [] := List.cons_ne_nil action []

lemma plainActions_normalized {action : String} (h : normalize action = action ∧ action ≠ "") :
    ∀ a ∈ [action], normalize a = a ∧ a ≠ "" := by
  intro a ha
  obtain rfl := List.mem_singleton.1 ha
  exact h

lemma plainPriority_known : "P2" ∈ ["P0", "P1", "P2", "P3"] := by
  simp

lemma plainEndpoint_path : Text.startsWith "/v1/health" "/" = true := by
  decide +kernel

lemma one_le_plainMaxConcurrent : 1 ≤ 50 := by
  omega

lemma one_le_plainTimeoutMs : 1 ≤ 30000 := by
  omega

/-- The entry of a node with one action, and the defaults otherwise. -/
def plainInput (url action : String)
    (hurl : (Text.startsWith url "http://" || Text.startsWith url "https://") = true)
    (haction : normalize action = action ∧ action ≠ "") : NodeRegistrationInput where
  internalUrl := url
  supportedActions := [action]
  priorityClass := "P2"
  maxConcurrent := 50
  healthEndpoint := "/v1/health"
  timeoutMs := 30000
  metadata := .empty
  url_scheme := hurl
  actions_ne := plainActions_ne action
  actions_nodup := List.nodup_singleton action
  action_normalized := plainActions_normalized haction
  priority_known := plainPriority_known
  endpoint_path := plainEndpoint_path
  one_le_maxConcurrent := one_le_plainMaxConcurrent
  one_le_timeoutMs := one_le_plainTimeoutMs

lemma workerUrl_scheme :
    (Text.startsWith "http://worker" "http://" || Text.startsWith "http://worker" "https://") =
      true := by
  decide +kernel

lemma score_normalized : normalize "score" = "score" ∧ "score" ≠ "" := by
  decide +kernel

lemma match_normalized : normalize "match" = "match" ∧ "match" ≠ "" := by
  decide +kernel

/-- A request that registers a worker, and another node under the canonical action of an owner
that it is not. -/
def rogueBatch : RegisterNodesRequest where
  root := (Dict.empty.set "worker" (plainInput "http://worker" "score" workerUrl_scheme
    score_normalized)).set "rogue" (plainInput "http://worker" "match" workerUrl_scheme
    match_normalized)

/-- The request fails, and the worker stays registered. -/
theorem rogueBatch_not_atomic :
    ¬ ∀ (service : AdminRegistrationService) (request : RegisterNodesRequest) (overwrite : Bool)
      (presentedToken : Option String) (reg : NodeRegistry),
      (∃ e, (service.register request overwrite presentedToken reg).1 = .error e) →
        (service.register request overwrite presentedToken reg).2 = reg := by
  intro h
  have hfails : ((create none).register rogueBatch true none .empty).1.toOption.isNone = true := by
    decide +kernel
  have hworker :
      ((create none).register rogueBatch true none .empty).2.nodes.contains "worker" = true := by
    decide +kernel
  have hempty := h (create none) rogueBatch true none .empty
  rcases hresult : ((create none).register rogueBatch true none .empty).1 with e | response
  · rw [hempty ⟨e, hresult⟩] at hworker
    cases hworker
  · rw [hresult] at hfails
    cases hfails

end AdminRegistrationService

end ConstellationGate
