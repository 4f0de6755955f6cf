import ConstellationGate.Orchestration.WorkflowFootprint
import ConstellationGate.Services.ExecuteService

/-!
# The footprint of an execute call

What an execute call can record and what it does to the state once it has passed the replay
guard (`afterGuard`): every attempt that it records is one of its own packet, and its calls are
`Steady`.
-/

namespace ConstellationGate

variable {Dump : Type}

section Within

variable {E : GateEvent Dump → Prop} {R : GateState Dump → GateState Dump → Prop}

lemma within_readMonotonic (hR : ∀ s s', Working s s' → R s s') (s : GateState Dump) :
    (Co.call (S := gate Dump) readMonotonic).Within E R s :=
  Co.within_call (hR _ _ (.of_clock (MonotonicClock.later_tick _) _))

lemma within_deadlineExpired (hR : ∀ s s', Working s s' → R s s') (deadline : Option Deadline)
    (s : GateState Dump) :
    (RetryPolicy.deadlineExpired deadline : Co (gate Dump) Bool).Within E R s := by
  cases deadline with
  | none => exact Co.within_pure (S := gate Dump) _ s
  | some d => exact Co.within_bind (within_readMonotonic hR s) fun _ s => Co.within_pure _ s

lemma within_sleepOutlives (hR : ∀ s s', Working s s' → R s s') (delaySeconds : ℚ)
    (deadline : Option Deadline) (s : GateState Dump) :
    (RetryPolicy.sleepOutlives delaySeconds deadline : Co (gate Dump) Bool).Within E R s := by
  cases deadline with
  | none => exact Co.within_pure (S := gate Dump) _ s
  | some d => exact Co.within_bind (within_readMonotonic hR s) fun _ s => Co.within_pure _ s

lemma within_sleep (delaySeconds : ℚ) (s : GateState Dump) :
    (RetryPolicy.sleep delaySeconds : Co (gate Dump) Unit).Within E R s := by
  rw [RetryPolicy.sleep]
  split
  · exact Co.within_request (S := gate Dump) _ s
  · exact Co.within_pure (S := gate Dump) _ s

/-- Retries record and write what their attempts do. -/
lemma within_attempts (hR : ∀ s s', Working s s' → R s s') {α : Type} {func : Co (gate Dump) α}
    (hfunc : ∀ s, func.Within E R s) (policy : RetryPolicy) (deadline : Option Deadline)
    (left attempt : ℕ) (lastExc : Option PyError) (s : GateState Dump) :
    (policy.attempts func deadline left attempt lastExc).Within E R s := by
  induction left generalizing attempt lastExc s with
  | zero => exact Co.within_raise (S := gate Dump) _ s
  | succ left ih =>
    refine Co.within_handle (hfunc s) fun r s => ?_
    cases r with
    | ok a => exact Co.within_done _ s
    | error exc =>
      simp only
      rcases policy.decisionFor attempt exc with e | decision
      · trivial
      refine Co.within_bind (Co.within_done (.ok decision) s) fun decision s => ?_
      split
      · exact Co.within_raise _ s
      refine Co.within_bind (within_sleepOutlives hR decision.delaySeconds deadline s)
        fun outlives s => ?_
      cases outlives with
      | true => exact Co.within_raise _ s
      | false =>
        refine Co.within_bind (within_sleep decision.delaySeconds s) fun _ s => ?_
        refine Co.within_bind (within_deadlineExpired hR deadline s) fun expired s => ?_
        cases expired with
        | true => exact Co.within_raise _ s
        | false => exact ih _ _ s

lemma within_waitFor {α : Type} {p : Co (gate Dump) α} {s : GateState Dump}
    (hp : p.Within E R s) : (waitFor p).Within E R s := by
  refine Co.within_handle hp fun r s => ?_
  cases r with
  | ok a => exact Co.within_done _ s
  | error e =>
    simp only
    split <;> exact Co.within_raise _ s

/-- The events of the work on a packet, between the start of its deadline and its outcome. -/
def GateEvent.isExecution : GateEvent Dump → Bool
  | .attempted _ | .stepStarted _ _ | .stepAnswered _ _ | .answered _ | .derived _ _ _
  | .handed _ _ _ => true
  | _ => false

/-- The work on a packet records its attempts and what its dispatches and steps do. -/
lemma within_runOnce (hR : ∀ s s', Working s s' → R s s') (cfg : GateConfig Dump)
    {packet : TransportPacket} (hattempted : E (.attempted packet))
    (hother : ∀ e : GateEvent Dump, e.isExecution = true → (∀ p, e ≠ .attempted p) → E e)
    (deadline : Deadline) (s : GateState Dump) :
    (runOnce cfg (dispatch cfg) packet deadline).Within E R s := by
  have hdispatch : ∀ p s, (dispatch cfg p (some deadline)).Within E R s := fun p s =>
    within_dispatch hR cfg p (some deadline) (fun _ _ _ => hother _ rfl (by simp))
      (fun _ _ _ => hother _ rfl (by simp)) s
  refine Co.within_bind ((Co.within_log (S := gate Dump) _ s).2 hattempted) fun _ s => ?_
  split
  · refine within_executeWorkflow hR cfg packet (some deadline) hdispatch ?_ ?_ s
    · exact fun step answer => hother _ rfl (by simp)
    · exact fun _ _ step _ progress s p _ => hother _ rfl (by simp)
  · refine Co.within_bind (hdispatch packet s) fun answer s => ?_
    refine Co.within_bind ((Co.within_log (S := gate Dump) _ s).2 (hother _ rfl (by simp)))
      fun _ s => ?_
    exact Co.within_pure _ s

/-- The events of a call that has been let pass: it attempts no packet but its own. -/
structure RecordsWork (E : GateEvent Dump → Prop) (packet : TransportPacket) : Prop where
  attempted : E (.attempted packet)
  other : ∀ e, (∀ p, e ≠ .attempted p) → E e

lemma within_settle (hR : ∀ s s', Steady s s' → R s s') (cfg : GateConfig Dump)
    {packet : TransportPacket} (hstored : ∀ key now value, E (.stored key now value))
    (outcome : Except PyError TransportPacket) (s : GateState Dump) :
    (settle cfg packet outcome).Within E R s := by
  cases outcome with
  | error exc =>
    -- the dead-letter queue reads the wall clock
    have hfailure : ∀ s : GateState Dump, Steady s (recordFailure cfg packet exc s).2 := fun s =>
      ⟨rfl, Clock.later_tick _, List.Subset.refl _⟩
    rw [settle]
    split
    · exact Co.within_bind (Co.within_call (hR _ _ (hfailure s))) fun _ s => Co.within_raise _ s
    · exact Co.within_raise (S := gate Dump) _ s
  | ok result =>
    rw [settle]
    refine Co.within_bind (Co.within_call (hR _ _ (.of_eq rfl rfl rfl))) fun _ s => ?_
    split
    · refine Co.within_bind (Co.within_call (hR _ _ (.of_eq rfl rfl rfl))) fun stored s => ?_
      rcases stored with _ | ⟨key, now⟩
      · exact Co.within_pure _ s
      · refine Co.within_bind ((Co.within_log (S := gate Dump) _ s).2 (hstored _ _ _))
          fun _ s => ?_
        exact Co.within_pure _ s
    · exact Co.within_pure _ s

end Within

/-- The work on a packet under its deadline. -/
def deadlineWork (cfg : GateConfig Dump) (packet : TransportPacket) (deadline : Deadline) :
    Co (gate Dump) TransportPacket :=
  waitFor ((retryPolicyFor cfg packet).run (runOnce cfg (dispatch cfg) packet deadline)
    (some deadline))

/-- What an execute call does after the replay guard has let its packet pass. -/
def afterGuard (cfg : GateConfig Dump) (packet : TransportPacket) :
    Co (gate Dump) TransportPacket := do
  let deadline ← Co.call (S := gate Dump) (startDeadline cfg packet)
  Co.log (S := gate Dump) (.deadlineStarted packet deadline)
  (waitFor ((retryPolicyFor cfg packet).run (runOnce cfg (dispatch cfg) packet deadline)
    (some deadline))).handle (settle cfg packet)

/-- The work on a packet and what `settle` does after it. -/
lemma within_settledWork {E : GateEvent Dump → Prop} {R : GateState Dump → GateState Dump → Prop}
    (hR : ∀ s s', Steady s s' → R s s') (cfg : GateConfig Dump) {packet : TransportPacket}
    (hE : RecordsWork E packet) (deadline : Deadline) (s : GateState Dump) :
    ((deadlineWork cfg packet deadline).handle (settle cfg packet)).Within E R s := by
  have hwork : ∀ s s', Working s s' → R s s' := fun s s' h => hR s s' h.steady
  refine Co.within_handle (within_waitFor ?_) fun r s =>
    within_settle hR cfg (fun _ _ _ => hE.other _ (by simp)) r s
  exact within_attempts hwork
    (within_runOnce hwork cfg hE.attempted (fun e _ => hE.other e) deadline) _ _ _ _ _ s

end ConstellationGate
