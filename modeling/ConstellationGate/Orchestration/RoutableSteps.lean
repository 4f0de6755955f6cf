import ConstellationGate.Orchestration.WorkflowFootprint
import ConstellationGate.Routing.RegistryRuns

/-!
# Steps that can be routed

The constructor of the workflow engine checks the actions of all steps against the registry that
the dispatcher resolves them with: a step may name an action that a node advertises, or another
workflow.  The dispatcher resolves only the former.  A step whose action is advertised is never
refused as unknown, in any run (`steps_routed`); a step that names a workflow alone passes the
check and is refused whenever it is reached (`nestedWorkflow_unrouted`).
-/

namespace ConstellationGate

variable {Dump : Type}

/-! ### The constructor -/

/-- The definitions under their normalised names. -/
def normalizedDefinitions (definitions : Dict String WorkflowDefinition) :
    Dict String WorkflowDefinition :=
  Dict.empty.update (definitions.entries.map fun e => (normalize e.1, e.2))

/-- The check of the steps of one workflow. -/
def checkSteps (known : List String) (workflowName : String) :
    List WorkflowStep → Except PyError Unit
  | [] => .ok ()
  | step :: steps =>
    if normalize step.action ∉ known then
      .error { cls := .valueError,
               message := "workflow " ++ Text.quoted workflowName ++ " step action "
                 ++ Text.quoted (normalize step.action) ++ " is not present in the shared "
                 ++ "NodeRegistry (registration/workflow must use the same registry)" }
    else checkSteps known workflowName steps

/-- The check of all workflows. -/
def checkDefinitions (known : List String) : List (String × WorkflowDefinition) →
    Except PyError Unit
  | [] => .ok ()
  | (workflowName, definition) :: entries =>
    match checkSteps known workflowName definition.steps with
    | .error e => .error e
    | .ok () => checkDefinitions known entries

/-- `validate_definitions_against_registry`: a registry without actions defers the check. -/
def validateDefinitionsAgainstRegistry (definitions : Dict String WorkflowDefinition) :
    Option NodeRegistry → Except PyError Unit
  | none => .ok ()
  | some registry =>
    if registry.allSupportedActions = [] then .ok ()
    else checkDefinitions (definitions.keys ++ registry.allSupportedActions) definitions.entries

/-- The constructor of `WorkflowEngine`: the definitions that it keeps. -/
def createWorkflowEngine (definitions : Dict String WorkflowDefinition)
    (registry : Option NodeRegistry) : Except PyError (Dict String WorkflowDefinition) :=
  match validateDefinitionsAgainstRegistry (normalizedDefinitions definitions) registry with
  | .error e => .error e
  | .ok () => .ok (normalizedDefinitions definitions)

lemma checkSteps_ok_iff {known : List String} {workflowName : String} {steps : List WorkflowStep} :
    checkSteps known workflowName steps = .ok () ↔
      ∀ step ∈ steps, normalize step.action ∈ known := by
  induction steps with
  | nil => simp [checkSteps]
  | cons step steps ih =>
    rw [checkSteps, List.forall_mem_cons]
    split
    · rename_i hnot
      exact ⟨fun h => (by cases h), fun h => absurd h.1 hnot⟩
    · rename_i hknown
      rw [ih]
      exact ⟨fun h => ⟨not_not.1 hknown, h⟩, fun h => h.2⟩

lemma checkDefinitions_ok_iff {known : List String} {entries : List (String × WorkflowDefinition)} :
    checkDefinitions known entries = .ok () ↔
      ∀ e ∈ entries, ∀ step ∈ e.2.steps, normalize step.action ∈ known := by
  induction entries with
  | nil => simp [checkDefinitions]
  | cons e entries ih =>
    rw [checkDefinitions, List.forall_mem_cons]
    rcases hsteps : checkSteps known e.1 e.2.steps with err | u
    · refine ⟨fun h => (by cases h), fun h => ?_⟩
      rw [checkSteps_ok_iff.2 h.1] at hsteps
      cases hsteps
    · simp only
      rw [ih]
      exact ⟨fun h => ⟨checkSteps_ok_iff.1 hsteps, h⟩, fun h => h.2⟩

/-- What the constructor establishes when the registry has actions: a step names a workflow or an
action that is advertised. -/
lemma of_createWorkflowEngine {definitions kept : Dict String WorkflowDefinition}
    {registry : NodeRegistry} (h : createWorkflowEngine definitions (some registry) = .ok kept)
    (hne : registry.allSupportedActions ≠ []) :
    ∀ definition ∈ kept.values, ∀ step ∈ definition.steps,
      kept.contains (normalize step.action) = true ∨
        normalize step.action ∈ registry.allSupportedActions := by
  unfold createWorkflowEngine validateDefinitionsAgainstRegistry at h
  simp only [if_neg hne] at h
  split at h
  · cases h
  rename_i hcheck
  obtain rfl := Except.ok.inj h
  intro definition hdefinition step hstep
  obtain ⟨e, he, rfl⟩ := List.mem_map.1 hdefinition
  rw [Dict.contains_eq_mem_keys, ← List.mem_append]
  exact checkDefinitions_ok_iff.1 hcheck e he step hstep

/-! ### Unknown actions -/

/-- The plain `LookupError` of `resolve_action`. -/
def noNodeRegistered (action : String) : PyError :=
  { cls := .lookupError, message := "no node registered for action: " ++ action }

/-- `resolve_action` raises it exactly for an action that no registration advertises. -/
lemma resolveAction_eq_noNodeRegistered_iff (reg : NodeRegistry) (action : String)
    (hne : normalize action ≠ "") :
    reg.resolveAction action = .error (noNodeRegistered (normalize action)) ↔
      normalize action ∉ reg.allSupportedActions := by
  rw [NodeRegistry.resolveAction, if_neg hne, ← NodeRegistry.known_ne_nil_iff, not_not]
  split
  · rename_i r rest hsort
    -- a candidate is a registration that advertises the action
    have hmem : r ∈ reg.candidates (normalize action) := by
      rw [← List.mem_insertionSort NodeRegistration.PreferredTo, hsort]
      exact List.mem_cons_self
    have hknown : r ∈ reg.known (normalize action) := (List.mem_filter.1 hmem).1
    refine ⟨fun h => (by cases h), fun h => ?_⟩
    rw [h] at hknown
    cases hknown
  · by_cases hknown : reg.known (normalize action) = []
    · simp [hknown, noNodeRegistered]
    · refine ⟨fun h => ?_, fun h => absurd h hknown⟩
      rw [if_pos hknown] at h
      have hcls := congrArg PyError.cls (Except.error.inj h)
      cases hcls

/-- What the engine makes of a step: a packet for Gate with the action of the step. -/
structure StepPacket (cfg : GateConfig Dump) (step : WorkflowStep) (p : TransportPacket) :
    Prop where
  defined : ∃ definition ∈ cfg.definitions.values, step ∈ definition.steps
  destinationNode : normalize p.address.destinationNode = cfg.gateNode
  action : normalize p.header.action = normalize step.action

lemma stepPacket_of_deriveStep {cfg : GateConfig Dump} {packet : TransportPacket}
    {deadline : Option Deadline} {step : WorkflowStep} {progress : Progress} {s : GateState Dump}
    {p : TransportPacket} (hstep : ∃ definition ∈ cfg.definitions.values, step ∈ definition.steps)
    (h : (deriveStep cfg packet deadline step progress s).1 = .ok p) : StepPacket cfg step p := by
  unfold deriveStep at h
  split at h
  · cases h
  have hderived := cfg.sdk.derive_ok h
  refine ⟨hstep, ?_, hderived.action _ rfl⟩
  rw [hderived.destinationNode _ rfl]
  exact Text.normalize_normalize cfg.localNode

/-- The resolver refuses the packet of a step as unknown exactly when no registration advertises its
action. -/
lemma StepPacket.resolve_iff {cfg : GateConfig Dump} {step : WorkflowStep} {p : TransportPacket}
    (h : StepPacket cfg step p) (reg : NodeRegistry) :
    resolvePacket reg cfg.gateNode p = .error (noNodeRegistered (normalize step.action)) ↔
      normalize step.action ∉ reg.allSupportedActions := by
  have hne : normalize step.action ≠ "" := by
    rw [ne_eq, Text.normalize_eq_empty_iff, step.action_stripped.1]
    exact step.action_stripped.2
  have hresolve : resolvePacket reg cfg.gateNode p = reg.resolveAction (normalize step.action) := by
    rw [resolvePacket, if_pos h.destinationNode, resolveGateBound, h.action, if_neg hne]
  rw [hresolve]
  have hiff := resolveAction_eq_noNodeRegistered_iff reg (normalize step.action)
  rw [Text.normalize_normalize] at hiff
  exact hiff hne

/-! ### Runs -/

/-- One move of a run of workflows. -/
inductive WorkflowMove (Dump : Type)
  /-- A workflow is started. -/
  | execute (packet : TransportPacket) (deadline : Option Deadline)
  /-- A workflow gets an answer to what it awaits, or an exception. -/
  | resume (i : ℕ) (reply : ∀ q : GateRequest, Except PyError q.Reply)
  /-- Something else happens; every action that was advertised still is. -/
  | environ (f : GateState Dump → GateState Dump)
      (hactions : ∀ s : GateState Dump,
        s.registry.allSupportedActions ⊆ (f s).registry.allSupportedActions)

/-- The move as a move of the pool of workflows. -/
def WorkflowMove.toMove (cfg : GateConfig Dump) :
    WorkflowMove Dump → Move (gate Dump) TransportPacket
  | execute packet deadline => .spawn (executeWorkflow cfg (dispatch cfg) packet deadline)
  | resume i reply => .resume i reply
  | environ f _ => .environ f

/-- The pool after a run. -/
def runWorkflows (cfg : GateConfig Dump) (s : GateState Dump) (ms : List (WorkflowMove Dump)) :
    Pool (gate Dump) TransportPacket :=
  (Pool.init s).run (ms.map (WorkflowMove.toMove cfg))

/-- Task `tid` has failed because the action of its last step is unknown: the resolver refuses the
packet of the step with its plain `LookupError`, and the task ends with it. -/
def FailedUnknown (cfg : GateConfig Dump) (c : Pool (gate Dump) TransportPacket) (tid : ℕ) : Prop :=
  ∃ step p, (c.world.eventsOf tid).getLast? = some (.stepStarted step p) ∧
    resolvePacket c.world.state.registry cfg.gateNode p =
      .error (noNodeRegistered (normalize step.action)) ∧
    c.tasks[tid]?.bind Status.exception? = some (noNodeRegistered (normalize step.action))

/-- A step that is started is one of the workflows. -/
def StartsDefined (cfg : GateConfig Dump) (e : GateEvent Dump) : Prop :=
  ∀ step p, e = .stepStarted step p → StepPacket cfg step p

/-- The actions that are advertised in `s` still are in `s'`. -/
def KeepsActions (s s' : GateState Dump) : Prop :=
  s.registry.allSupportedActions ⊆ s'.registry.allSupportedActions

lemma KeepsActions.of_reflTransGen {s s' : GateState Dump}
    (h : Relation.ReflTransGen KeepsActions s s') : KeepsActions s s' := by
  induction h with
  | refl => exact List.Subset.refl _
  | tail _ hstep ih => exact List.Subset.trans ih hstep

/-- A workflow starts its own steps, and what it does keeps the actions that are advertised. -/
lemma within_workflow (cfg : GateConfig Dump) (packet : TransportPacket)
    (deadline : Option Deadline) (s : GateState Dump) :
    (executeWorkflow cfg (dispatch cfg) packet deadline).Within (StartsDefined cfg) KeepsActions
      s := by
  have hR : ∀ s s' : GateState Dump, Working s s' → KeepsActions s s' := fun _ _ h => h.actions
  have hother : ∀ e : GateEvent Dump, (∀ step p, e ≠ .stepStarted step p) → StartsDefined cfg e :=
    fun e he step p heq => absurd heq (he step p)
  refine within_executeWorkflow hR cfg packet deadline (fun p s => ?_)
    (fun step answer => hother _ (by simp)) ?_ s
  · exact within_dispatch hR cfg p deadline (fun _ _ _ => hother _ (by simp))
      (fun _ _ _ => hother _ (by simp)) s
  · rintro definition hdefinition step hstep progress s p hp step' p' heq
    obtain ⟨rfl, rfl⟩ := GateEvent.stepStarted.inj heq
    exact stepPacket_of_deriveStep ⟨definition, hdefinition, hstep⟩ hp

/-- The steps that are started in a run are steps of the workflows. -/
lemma stepPacket_of_mem_log {cfg : GateConfig Dump} {s : GateState Dump}
    {ms : List (WorkflowMove Dump)} {tid : ℕ} {step : WorkflowStep} {p : TransportPacket}
    (h : (tid, .stepStarted step p) ∈ (runWorkflows cfg s ms).world.log) :
    StepPacket cfg step p := by
  obtain ⟨pre', q, hstarted⟩ := Pool.exists_started (Pool.lt_length_of_mem_runLog h)
  obtain ⟨pre, m, hmoves, rfl, hm⟩ := Pool.exists_of_prefix_map hstarted.moves
  cases m with
  | resume i reply => cases hm
  | environ f hactions => cases hm
  | execute packet deadline =>
    obtain rfl := Move.spawn.inj hm
    obtain ⟨t, -, -, hlog⟩ :=
      hstarted.taskWithin_of_within (within_workflow cfg packet deadline)
    exact hlog _ h step p rfl

/-- Actions stay advertised along a run. -/
lemma keepsActions_runWorkflows (cfg : GateConfig Dump) (s : GateState Dump)
    (ms : List (WorkflowMove Dump)) : KeepsActions s (runWorkflows cfg s ms).world.state := by
  have hrun := Pool.run_within (S := gate Dump) (E := StartsDefined cfg) (R := KeepsActions)
    s (ms.map (WorkflowMove.toMove cfg)) ?_ ?_
  · exact .of_reflTransGen hrun.2
  · rintro p hp s
    obtain ⟨m, -, hm⟩ := List.mem_map.1 hp
    cases m with
    | resume i reply => cases hm
    | environ f hactions => cases hm
    | execute packet deadline =>
      obtain rfl := Move.spawn.inj hm
      exact within_workflow cfg packet deadline s
  · rintro f hf s
    obtain ⟨m, -, hm⟩ := List.mem_map.1 hf
    cases m with
    | resume i reply => cases hm
    | execute packet deadline => cases hm
    | environ f' hactions =>
      obtain rfl := Move.environ.inj hm
      exact hactions s

/-- When the constructor accepts the definitions, and every step that names a workflow names an
action that is advertised too, then no step fails as unknown in any run of the workflows. -/
theorem steps_routed (cfg : GateConfig Dump) (s : GateState Dump) (ms : List (WorkflowMove Dump))
    (definitions : Dict String WorkflowDefinition)
    (haccepted : createWorkflowEngine definitions (some s.registry) = .ok cfg.definitions)
    (hne : s.registry.nodes ≠ .empty)
    (hsteps : ∀ definition ∈ cfg.definitions.values, ∀ step ∈ definition.steps,
      hasWorkflow cfg step.action = true →
        normalize step.action ∈ s.registry.allSupportedActions) :
    ∀ pre, pre <+: ms → ∀ tid, ¬ FailedUnknown cfg (runWorkflows cfg s pre) tid := by
  have hactions : s.registry.allSupportedActions ≠ [] := by
    obtain ⟨⟨node, r⟩, hmem⟩ := List.exists_mem_of_ne_nil s.registry.nodes.entries fun hnil =>
      hne (Dict.ext_get? (by rw [Dict.keys, hnil]; rfl) fun key => by rw [Dict.get?, hnil]; rfl)
    obtain ⟨action, haction⟩ := List.exists_mem_of_ne_nil _ r.actions_ne
    refine List.ne_nil_of_mem (NodeRegistry.mem_allSupportedActions.2 ⟨r, ?_, haction⟩)
    exact List.mem_map.2 ⟨_, hmem, rfl⟩
  rintro pre - tid ⟨step, p, hlast, hresolve, -⟩
  have hlog : (tid, .stepStarted step p) ∈ (runWorkflows cfg s pre).world.log :=
    mem_eventsIn.1 (List.mem_of_getLast? hlast)
  have hpacket := stepPacket_of_mem_log hlog
  obtain ⟨definition, hdefinition, hstep⟩ := hpacket.defined
  have hadvertised : normalize step.action ∈ s.registry.allSupportedActions :=
    (of_createWorkflowEngine haccepted hactions definition hdefinition step hstep).elim
      (hsteps definition hdefinition step hstep) id
  exact (hpacket.resolve_iff _).1 hresolve (keepsActions_runWorkflows cfg s pre hadvertised)

/-! ### A workflow in a workflow -/

/-- The settings of a process with these workflows, as the constructor keeps them. -/
def GateConfig.running (definitions : Dict String WorkflowDefinition) :
    GateConfig TransportPacket :=
  .standard .plain "gate" (normalizedDefinitions definitions) fun _ _ => .ok true

lemma inner_stripped : Text.strip "inner" = "inner" ∧ "inner" ≠ "" := by decide +kernel

/-- The workflow `inner`, whose step a worker serves. -/
def innerAlone : Dict String WorkflowDefinition :=
  Dict.empty.set "inner" (.scoring "inner" none one_le_noTimeout)

/-- The workflow `outer` with one step, which names the workflow `inner`. -/
def nestedWorkflow : Dict String WorkflowDefinition :=
  innerAlone.set "outer"
    { name := "outer"
      steps := [
        { name := "first"
          action := "inner"
          name_stripped := first_stripped
          action_stripped := inner_stripped
          condition_stripped := noCondition_stripped
          one_le_timeoutMs := one_le_noTimeout }]
      steps_ne := List.cons_ne_nil _ _
      names_nodup := List.nodup_singleton _ }

/-- The state with one worker that serves `score`. -/
def routableState : GateState TransportPacket :=
  .fresh (NodeRegistry.oneWorker "worker" "score") none (.stopped 0) ⟨fun _ => 0, 0⟩

/-- One workflow is started. -/
def startWorkflow (action : String) : List (WorkflowMove TransportPacket) :=
  [.execute (clientPacket "acme" action none) none]

/-- The workflow `inner` alone is accepted, and its step is routed. -/
theorem steps_routed_innerAlone :
    createWorkflowEngine innerAlone (some routableState.registry) =
        .ok (GateConfig.running innerAlone).definitions ∧
      ¬ FailedUnknown (.running innerAlone)
        (runWorkflows (.running innerAlone) routableState (startWorkflow "inner")) 0 := by
  have haccepted : validateDefinitionsAgainstRegistry (normalizedDefinitions innerAlone)
      (some routableState.registry) = .ok () := by
    decide +kernel
  have hcreate : createWorkflowEngine innerAlone (some routableState.registry) =
      .ok (GateConfig.running innerAlone).definitions := by
    rw [createWorkflowEngine, haccepted]
    rfl
  refine ⟨hcreate, steps_routed (.running innerAlone) routableState (startWorkflow "inner")
    innerAlone hcreate ?_ ?_ _ (List.prefix_refl _) 0⟩
  · decide +kernel
  · decide +kernel

/-- The step and its packet, when a step is started. -/
def GateEvent.stepStarted? : GateEvent Dump → Option (WorkflowStep × TransportPacket)
  | .stepStarted step p => some (step, p)
  | _ => none

lemma GateEvent.stepStarted?_eq_some {e : GateEvent Dump} {step : WorkflowStep}
    {p : TransportPacket} : e.stepStarted? = some (step, p) ↔ e = .stepStarted step p := by
  cases e <;> simp [stepStarted?]

/-- The workflow `outer` is accepted too, and fails because its step is unknown. -/
theorem nestedWorkflow_unrouted :
    ¬ ∀ (cfg : GateConfig TransportPacket) (s : GateState TransportPacket)
      (ms : List (WorkflowMove TransportPacket)) (definitions : Dict String WorkflowDefinition),
      createWorkflowEngine definitions (some s.registry) = .ok cfg.definitions →
      s.registry.nodes ≠ .empty →
      ∀ pre, pre <+: ms → ∀ tid, ¬ FailedUnknown cfg (runWorkflows cfg s pre) tid := by
  intro h
  have haccepted : validateDefinitionsAgainstRegistry (normalizedDefinitions nestedWorkflow)
      (some routableState.registry) = .ok () := by
    decide +kernel
  have hcreate : createWorkflowEngine nestedWorkflow (some routableState.registry) =
      .ok (GateConfig.running nestedWorkflow).definitions := by
    rw [createWorkflowEngine, haccepted]
    rfl
  have hlast : ((runWorkflows (.running nestedWorkflow) routableState
      (startWorkflow "outer")).world.eventsOf 0).getLast?.any (fun e => e.stepStarted?.any
        fun started => decide (resolvePacket (runWorkflows (.running nestedWorkflow) routableState
            (startWorkflow "outer")).world.state.registry
              (GateConfig.running nestedWorkflow).gateNode
              started.2 = .error (noNodeRegistered (normalize started.1.action)) ∧
          (runWorkflows (.running nestedWorkflow) routableState
            (startWorkflow "outer")).tasks[0]?.bind Status.exception? =
              some (noNodeRegistered (normalize started.1.action)))) = true := by
    decide +kernel
  obtain ⟨e, he, hany⟩ := (Option.any_eq_true _ _).1 hlast
  obtain ⟨⟨step, p⟩, hstarted, hfailed⟩ := (Option.any_eq_true _ _).1 hany
  obtain rfl := GateEvent.stepStarted?_eq_some.1 hstarted
  exact h (.running nestedWorkflow) routableState (startWorkflow "outer") nestedWorkflow hcreate
    (by decide +kernel) _ List.prefix_rfl 0 ⟨step, p, he, of_decide_eq_true hfailed⟩

end ConstellationGate
