import ConstellationGate.Orchestration.WorkflowEngine
import ConstellationGate.Routing.DispatchEvents
import ConstellationGate.Routing.RegistryRuns

/-!
# Timeouts of workflow steps

What becomes of the timeout that a workflow step declares, when the workflow is run with
Gate's own dispatcher.

The engine writes the declared timeout, clamped, into the packet of the step.  The dispatcher
does not read it: the packet for the worker carries the budget of the attempt, which is
computed from the deadline and the timeout of the node.  `stepTimeouts_iff` says when this
budget respects the declared timeout all the same.
-/

namespace ConstellationGate

variable {Dump : Type}

/-! ### The rule for workflows -/

section Wp

variable {D : Discipline (gate Dump)} {tid : ℕ} {A : List (GateEvent Dump) → Prop}
  {st : Start (gate Dump)} {w : World (gate Dump)}

lemma undisturbed_deriveStep (cfg : GateConfig Dump) (packet : TransportPacket)
    (deadline : Option Deadline) (step : WorkflowStep) (progress : Progress) (s : GateState Dump) :
    Undisturbed s (deriveStep cfg packet deadline step progress s).2 := by
  have hlater := later_stepTimeoutMs step.timeoutMs progress.currentPacket.header.timeoutMs
    deadline s.monotonic
  unfold deriveStep
  split <;> rename_i htimeout <;> rw [htimeout] at hlater <;> exact ⟨rfl, hlater⟩

/-- The rule for a workflow: it keeps a point that the dispatcher and the events of its steps
keep. -/
lemma wp_executeSteps (hD : ∀ s s', Undisturbed s s' → D.Env s s') (cfg : GateConfig Dump)
    {dispatcher : TransportPacket → Option Deadline → Co (gate Dump) TransportPacket}
    (packet : TransportPacket) (deadline : Option Deadline)
    (hdispatch : ∀ p st w (post : Except PyError TransportPacket → Start (gate Dump) →
        World (gate Dump) → Prop), D.At tid A st w →
      (∀ r st' w', D.At tid A st' w' → post r st' w') →
      (dispatcher p deadline).wp D.protocol tid post st w)
    (hstarted : ∀ st w step p, D.At tid A st w → D.At tid A st (w.emit tid (.stepStarted step p)))
    (hanswered : ∀ st w step p, D.At tid A st w → D.At tid A st (w.emit tid (.stepAnswered step p)))
    (steps : List WorkflowStep) (progress : Progress) (h : D.At tid A st w)
    {post : Except PyError TransportPacket → Start (gate Dump) → World (gate Dump) → Prop}
    (hpost : ∀ r st' w', D.At tid A st' w' → post r st' w') :
    (executeSteps cfg dispatcher packet deadline steps progress).wp D.protocol tid post st w := by
  induction steps generalizing progress st w with
  | nil =>
    refine hpost _ _ _ (h.put (hD _ _ ?_))
    exact ⟨rfl, MonotonicClock.Later.refl _⟩
  | cons step steps ih =>
    rw [executeSteps, Co.wp_bind, wp_liftExcept]
    split
    swap
    · exact hpost _ _ _ h
    rename_i executed _
    cases executed with
    | false => exact ih _ h
    | true =>
      -- the packet of the step is derived, handed out, and its answer recorded
      simp only [if_true]
      rw [Co.wp_bind, Co.wp_call]
      have hderived := h.put (hD _ _
        (undisturbed_deriveStep cfg packet deadline step progress w.state))
      split
      swap
      · exact hpost _ _ _ hderived
      rename_i stepPacket _
      rw [Co.wp_bind, Co.wp_log]
      simp only
      rw [Co.wp_bind]
      refine hdispatch _ _ _ _ (hstarted _ _ step stepPacket hderived) fun r st' w' h' => ?_
      cases r with
      | error e => exact hpost _ _ _ h'
      | ok answer =>
        simp only
        rw [Co.wp_bind, Co.wp_log]
        exact ih _ (hanswered _ _ step answer h')

lemma wp_executeWorkflow (hD : ∀ s s', Undisturbed s s' → D.Env s s') (cfg : GateConfig Dump)
    {dispatcher : TransportPacket → Option Deadline → Co (gate Dump) TransportPacket}
    (packet : TransportPacket) (deadline : Option Deadline)
    (hdispatch : ∀ p st w (post : Except PyError TransportPacket → Start (gate Dump) →
        World (gate Dump) → Prop), D.At tid A st w →
      (∀ r st' w', D.At tid A st' w' → post r st' w') →
      (dispatcher p deadline).wp D.protocol tid post st w)
    (hstarted : ∀ st w step p, D.At tid A st w → D.At tid A st (w.emit tid (.stepStarted step p)))
    (hanswered : ∀ st w step p, D.At tid A st w → D.At tid A st (w.emit tid (.stepAnswered step p)))
    (h : D.At tid A st w)
    {post : Except PyError TransportPacket → Start (gate Dump) → World (gate Dump) → Prop}
    (hpost : ∀ r st' w', D.At tid A st' w' → post r st' w') :
    (executeWorkflow cfg dispatcher packet deadline).wp D.protocol tid post st w := by
  rw [executeWorkflow]
  split
  · exact hpost _ _ _ h
  · exact wp_executeSteps hD cfg packet deadline hdispatch hstarted hanswered _ _ h hpost

end Wp

/-! ### Declared timeouts -/

/-- The step that a task is executing. -/
def currentStep (events : List (GateEvent Dump)) : Option WorkflowStep :=
  events.reverse.findSome? fun
    | .stepStarted step _ => some step
    | _ => none

/-- A packet is handed to the worker transport for a step. -/
def HandedFor (log : List (ℕ × GateEvent Dump)) (step : WorkflowStep)
    (budget : Option (Deadline × ℚ)) (target : NodeRegistration) (packet : TransportPacket) :
    Prop :=
  ∃ i tid, log[i]? = some (tid, .handed budget target packet) ∧
    currentStep (eventsIn tid (log.take i)) = some step

/-- The packets that are handed to workers respect the timeouts that their steps declare. -/
def StepTimeoutsReach (log : List (ℕ × GateEvent Dump)) : Prop :=
  ∀ step t budget target packet, HandedFor log step budget target packet →
    step.timeoutMs = some t → ∃ d, packet.header.timeoutMs = some d ∧ d ≤ t

/-- What the dispatcher computes its budgets from respects the timeouts that the steps declare:
the timeout of the node, or what is left of the deadline. -/
def BudgetsWithin (log : List (ℕ × GateEvent Dump)) : Prop :=
  ∀ step t budget target packet, HandedFor log step budget target packet →
    step.timeoutMs = some t →
    target.timeoutMs ≤ t ∨ ∃ b ∈ budget, ⌊b.1.remainingSeconds b.2 * 1000⌋ ≤ (t : ℤ)

/-- A packet is handed over with the budget of its attempt. -/
def HandsBudget (_ : List (ℕ × GateEvent Dump)) (_ : ℕ) : GateEvent Dump → Prop
  | .handed budget target packet => ∃ n, packet.header.timeoutMs = some n ∧ Budgeted budget target n
  | _ => True

/-- Workflows that record what they hand over; the environment may do anything. -/
def handingDiscipline : Discipline (gate Dump) where
  Justified := HandsBudget
  Kept _ := True
  Later _ _ := True
  Env _ _ := True
  later_refl _ := trivial
  later_trans _ _ := trivial
  later_of_env _ := trivial
  kept_of_env _ _ := trivial

/-- The programs of the runs below: workflows with the real dispatcher. -/
def IsWorkflow (cfg : GateConfig Dump) (p : Co (gate Dump) TransportPacket) : Prop :=
  ∃ packet deadline, p = executeWorkflow cfg (dispatch cfg) packet deadline

lemma executeWorkflow_correct (cfg : GateConfig Dump) (packet : TransportPacket)
    (deadline : Option Deadline) :
    (executeWorkflow cfg (dispatch cfg) packet deadline).Correct handingDiscipline.protocol := by
  intro tid w hinv _
  have hstart : handingDiscipline.At tid (fun _ => True) ⟨w, none⟩ w := .start hinv trivial
  have hsilent : ∀ (st : Start (gate Dump)) (w : World (gate Dump)) (e : GateEvent Dump),
      HandsBudget w.log tid e → handingDiscipline.At tid (fun _ => True) st w →
      handingDiscipline.At tid (fun _ => True) st (w.emit tid e) :=
    fun st w e he h => h.emit he trivial trivial
  refine wp_executeWorkflow (fun _ _ _ => trivial) cfg packet deadline ?_ ?_ ?_ hstart
    fun _ _ _ h => h.guar none
  · intro p st w post h hpost
    refine wp_dispatch (fun _ _ _ => trivial) cfg p deadline ?_ ?_ h hpost
    · exact fun st w _ _ _ _ h => hsilent st w _ trivial h
    · exact fun st w _ _ _ hattempt h => hsilent st w _ hattempt.timeoutMs h
  · exact fun st w _ _ h => hsilent st w _ trivial h
  · exact fun st w _ _ h => hsilent st w _ trivial h

/-- The budget of an attempt is within a timeout when what it is computed from is. -/
lemma Budgeted.le_iff {budget : Option (Deadline × ℚ)} {target : NodeRegistration} {n t : ℕ}
    (h : Budgeted budget target n) :
    n ≤ t ↔ target.timeoutMs ≤ t ∨ ∃ b ∈ budget, ⌊b.1.remainingSeconds b.2 * 1000⌋ ≤ (t : ℤ) := by
  have heq := h.eq
  cases budget with
  | none =>
    simp only [Option.elim_none] at heq
    simp only [Option.mem_def, reduceCtorEq, false_and, exists_false, or_false]
    omega
  | some b =>
    simp only [Option.elim_some] at heq
    simp only [Option.mem_def, Option.some.injEq, exists_eq_left']
    omega

/-- In every run of workflows, every registry, deadline and clock: the packets handed to
workers respect the timeouts that their steps declare exactly when, at each of them, the
timeout of the node or what is left of the deadline does. -/
theorem stepTimeouts_iff {cfg : GateConfig Dump} {s : GateState Dump}
    {ms : List (Move (gate Dump) TransportPacket)}
    (hms : (Pool.init s).LegalRun handingDiscipline.protocol (IsWorkflow cfg) ms) :
    StepTimeoutsReach (runLog s ms) ↔
      BudgetsWithin (runLog s ms) := by
  have hprog : ∀ p, IsWorkflow cfg p → p.Correct handingDiscipline.protocol := by
    rintro p ⟨packet, deadline, rfl⟩
    exact executeWorkflow_correct cfg packet deadline
  obtain ⟨hverified, -⟩ := Discipline.run_verified hprog trivial hms
  have hbudget : ∀ step budget target packet,
      HandedFor (runLog s ms) step budget target packet →
      ∃ n, packet.header.timeoutMs = some n ∧ Budgeted budget target n := by
    rintro step budget target packet ⟨i, tid, hget, -⟩
    exact hverified.of_getElem? hget
  refine forall₅_congr fun step t budget target packet => forall₂_congr fun hfor _ => ?_
  obtain ⟨n, hn, hbudgeted⟩ := hbudget step budget target packet hfor
  rw [← hbudgeted.le_iff, hn]
  simp

/-! ### A declared timeout that does not reach the worker -/

/-- A process without a limiter, with one worker for the action `score`. -/
def scoringState : GateState TransportPacket :=
  .fresh (NodeRegistry.oneWorker "worker" "score") none (.stopped 0) ⟨fun _ => 0, 0⟩

/-- A process without a limiter, with one worker for the actions `rank` and `score`. -/
def rankingState : GateState TransportPacket :=
  .fresh (NodeRegistry.empty.run [.load (.mapping (Dict.empty.set "worker" (.payload
    { internalUrl := "http://worker", supportedActions := ["rank", "score"] })))]) none (.stopped 0)
    ⟨fun _ => 0, 0⟩

/-- The settings with a workflow whose step declares a timeout of 100 ms. -/
def hurriedConfig : GateConfig TransportPacket := .scoring (some 100) (by simp)

/-- The workflow is started, and waits for its worker. -/
def hurriedWorkflow : List (Move (gate TransportPacket) TransportPacket) :=
  [.spawn (executeWorkflow hurriedConfig (dispatch hurriedConfig)
    (clientPacket "acme" "pipeline" none) none)]

lemma hurriedWorkflow_legal :
    (Pool.init scoringState).LegalRun handingDiscipline.protocol (IsWorkflow hurriedConfig)
      hurriedWorkflow :=
  ⟨⟨_, _, rfl⟩, trivial⟩

/-- The characterisation for that run. -/
theorem stepTimeouts_iff_hurried :
    StepTimeoutsReach (runLog scoringState hurriedWorkflow) ↔
      BudgetsWithin (runLog scoringState hurriedWorkflow) :=
  stepTimeouts_iff hurriedWorkflow_legal

/-- The worker is given 30 s for a step that declares 100 ms. -/
theorem declared_timeout_lost :
    ¬ ∀ (cfg : GateConfig TransportPacket) (s : GateState TransportPacket) ms,
      (Pool.init s).LegalRun handingDiscipline.protocol (IsWorkflow cfg) ms →
      StepTimeoutsReach (runLog s ms) := by
  intro h
  have hreach := h hurriedConfig scoringState hurriedWorkflow hurriedWorkflow_legal
  generalize hlog : runLog scoringState hurriedWorkflow = log at hreach
  have hlate : log[2]?.any (fun e =>
      match e.2 with
      | .handed _ _ packet => (currentStep (eventsIn e.1 (log.take 2))).any fun step =>
          step.timeoutMs = some 100 ∧ packet.header.timeoutMs = some 30000
      | _ => false) = true := by
    subst hlog
    decide +kernel
  obtain ⟨⟨tid, e⟩, hget, he⟩ := (Option.any_eq_true _ _).1 hlate
  cases e with
  | handed budget target packet =>
    obtain ⟨step, hstep, htimes⟩ := (Option.any_eq_true _ _).1 he
    obtain ⟨hdeclared, hgiven⟩ := of_decide_eq_true htimes
    obtain ⟨d, hd, hle⟩ := hreach step 100 budget target packet ⟨2, tid, hget, hstep⟩ hdeclared
    rw [hgiven] at hd
    obtain rfl := Option.some.inj hd
    omega
  | _ => cases he

end ConstellationGate
