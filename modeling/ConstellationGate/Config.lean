import ConstellationGate.Resilience.RetryPolicy

/-!
# The settings of a Gate process

What the constructors of the dispatcher, the workflow engine and the execute service are
given and then keep.
-/

namespace ConstellationGate

/-- The names that a workflow condition can use. -/
structure ConditionContext where
  payload : Dict String Value
  response : Option (Dict String Value)
  action : String
  accumulated : Dict String Value

/-- The collaborators and settings of a Gate process. -/
structure GateConfig (Dump : Type) where
  sdk : Sdk Dump
  /-- The name of the Gate node, as it is configured. -/
  localNode : String
  /-- The workflow definitions, keyed by their normalised names. -/
  definitions : Dict String WorkflowDefinition
  /-- The condition evaluator of the workflow engine. -/
  evaluate : String → ConditionContext → Except PyError Bool
  timeoutPolicy : TimeoutPolicy
  /-- The template of the retry policy. -/
  retryPolicy : RetryPolicy
  /-- The actions declared safe for a replay of the whole operation. -/
  replaySafeActions : List String
  loadShedding : LoadSheddingPolicy
  backpressure : BackpressurePolicy

/-- The name of the Gate node, `local_node.strip().lower()`. -/
def GateConfig.gateNode {Dump : Type} (cfg : GateConfig Dump) : String := normalize cfg.localNode

lemma tenth_nonneg : (0 : ℚ) ≤ 1 / 10 := by
  norm_num

/-- The settings of a process with the defaults of `ExecuteService`. -/
def GateConfig.standard {Dump : Type} (sdk : Sdk Dump) (localNode : String)
    (definitions : Dict String WorkflowDefinition)
    (evaluate : String → ConditionContext → Except PyError Bool) : GateConfig Dump where
  sdk := sdk
  localNode := localNode
  definitions := definitions
  evaluate := evaluate
  timeoutPolicy := {}
  retryPolicy :=
    { maxAttempts := replaySafeMaxAttempts, delaySeconds := 1 / 10,
      one_le_maxAttempts := by decide, delaySeconds_nonneg := tenth_nonneg,
      one_le_backoffMultiplier := le_rfl }
  replaySafeActions := []
  loadShedding := { maxInFlight := 1000000, one_le_maxInFlight := one_le_million }
  backpressure := { maxQueueDepth := 1000000, one_le_maxQueueDepth := one_le_million }

/-- The standard settings of the node `gate` without workflows. -/
def GateConfig.plain : GateConfig TransportPacket :=
  .standard .plain "gate" .empty fun _ _ => .ok true

/-- The standard settings of the node `gate` with the workflow `pipeline` of one step. -/
def GateConfig.scoring (timeoutMs : Option ℕ) (h : ∀ t ∈ timeoutMs, 1 ≤ t) :
    GateConfig TransportPacket :=
  .standard .plain "gate" (Dict.empty.set "pipeline" (.scoring "pipeline" timeoutMs h))
    fun _ _ => .ok true

/-- The standard settings of the node `gate` with the workflow `pipeline` that ranks and then
scores. -/
def GateConfig.ranking : GateConfig TransportPacket :=
  .standard .plain "gate" (Dict.empty.set "pipeline" (.ranking "pipeline")) fun _ _ => .ok true

end ConstellationGate
