import ConstellationGate.Orchestration.WorkflowEngine
import ConstellationGate.Routing.DispatchFootprint

/-!
# The footprint of a workflow

What the workflow engine can record and what it does to the state, over any dispatcher: it
records the packets of its steps and their answers, and its own calls are `Working`.
-/

namespace ConstellationGate

variable {Dump : Type}

lemma working_deriveStep (cfg : GateConfig Dump) (packet : TransportPacket)
    (deadline : Option Deadline) (step : WorkflowStep) (progress : Progress) (s : GateState Dump) :
    Working s (deriveStep cfg packet deadline step progress s).2 := by
  have hlater := later_stepTimeoutMs step.timeoutMs progress.currentPacket.header.timeoutMs
    deadline s.monotonic
  rw [deriveStep]
  split <;> rename_i htimeout <;> rw [htimeout] at hlater
  · exact .of_clock hlater _
  · exact .of_clock hlater _

section Within

variable {E : GateEvent Dump → Prop} {R : GateState Dump → GateState Dump → Prop}

/-- The loop over the steps: what it records and writes beside its dispatches. -/
lemma within_executeSteps (hR : ∀ s s', Working s s' → R s s') (cfg : GateConfig Dump)
    {dispatcher : TransportPacket → Option Deadline → Co (gate Dump) TransportPacket}
    (packet : TransportPacket) (deadline : Option Deadline)
    (hdispatch : ∀ p s, (dispatcher p deadline).Within E R s)
    (hanswered : ∀ step answer, E (.stepAnswered step answer)) (steps : List WorkflowStep)
    (hstarted : ∀ step ∈ steps, ∀ progress s p,
      (deriveStep cfg packet deadline step progress s).1 = .ok p → E (.stepStarted step p))
    (progress : Progress) (s : GateState Dump) :
    (executeSteps cfg dispatcher packet deadline steps progress).Within E R s := by
  induction steps generalizing progress s with
  | nil => exact Co.within_call (hR _ _ (.of_clock (MonotonicClock.Later.refl _) _))
  | cons step steps ih =>
    have hrest := fun progress s => ih (fun step' h => hstarted step' (List.mem_cons_of_mem _ h))
      progress s
    have hderive := hR _ _ (working_deriveStep cfg packet deadline step progress s)
    rw [executeSteps]
    rcases shouldExecuteStep cfg step progress with e | executed
    · trivial
    cases executed with
    | false => exact hrest progress s
    | true =>
      -- the packet of the step is derived in the state `s`, and recorded when this succeeds
      refine ⟨hderive, ?_⟩
      rcases hp : (deriveStep cfg packet deadline step progress s).1 with e | stepPacket
      · trivial
      refine ⟨hstarted step List.mem_cons_self progress s stepPacket hp, ?_⟩
      refine Co.within_bind (hdispatch stepPacket _) fun answer s => ?_
      exact ⟨hanswered step answer, hrest _ s⟩

/-- A workflow records and writes what its steps do. -/
lemma within_executeWorkflow (hR : ∀ s s', Working s s' → R s s') (cfg : GateConfig Dump)
    {dispatcher : TransportPacket → Option Deadline → Co (gate Dump) TransportPacket}
    (packet : TransportPacket) (deadline : Option Deadline)
    (hdispatch : ∀ p s, (dispatcher p deadline).Within E R s)
    (hanswered : ∀ step answer, E (.stepAnswered step answer))
    (hstarted : ∀ definition ∈ cfg.definitions.values, ∀ step ∈ definition.steps,
      ∀ progress s p, (deriveStep cfg packet deadline step progress s).1 = .ok p →
        E (.stepStarted step p)) (s : GateState Dump) :
    (executeWorkflow cfg dispatcher packet deadline).Within E R s := by
  rw [executeWorkflow]
  split
  · exact Co.within_raise (S := gate Dump) _ s
  · rename_i definition hget
    have hmem : definition ∈ cfg.definitions.values := Dict.mem_values_iff.2 ⟨_, hget⟩
    exact within_executeSteps hR cfg packet deadline hdispatch hanswered _
      (hstarted definition hmem) _ s

end Within

end ConstellationGate
