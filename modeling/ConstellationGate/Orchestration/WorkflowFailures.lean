import ConstellationGate.Lib.Script
import ConstellationGate.Services.ExecuteService

/-!
# Failures of workflow steps

What the workflow engine does when a step is answered with a failure, for every workflow and
every sequence of answers.

The engine merges the payload of such an answer and goes on: `FailureEnds` is what the
workflow contract asks for, and `failureEnds_iff` says when it holds.  A failure that the
engine only sees as an answer ends the workflow only when the engine raises an exception of
its own before it hands out another packet (`RaisesNext`).
-/

namespace ConstellationGate

variable {Dump : Type}

/-- The run of a workflow that has seen a failure: no step is dispatched, and the result is no
success. -/
def Quiet (r : Played (gate Dump) TransportPacket) : Prop :=
  (∀ step packet, GateEvent.stepStarted step packet ∉ r.events) ∧
    ∀ result, r.outcome = some (.ok result) → isTerminalSuccess result = false

/-- As soon as the answer to an executed step is no terminal success, no later step is
dispatched and the result is no terminal success. -/
def FailureEnds (r : Played (gate Dump) TransportPacket) : Prop :=
  ∀ before step answer after, r.events = before ++ .stepAnswered step answer :: after →
    isTerminalSuccess answer = false →
    (∀ step' packet, GateEvent.stepStarted step' packet ∉ after) ∧
      ∀ result, r.outcome = some (.ok result) → isTerminalSuccess result = false

/-- The reply of a turn to an injected dispatcher. -/
def answerOf (turn : Turn (gate Dump)) (stepPacket : TransportPacket)
    (deadline : Option Deadline) : Except PyError TransportPacket :=
  turn.reply (.dispatch stepPacket deadline)

section Condition

variable (cfg : GateConfig Dump) (packet : TransportPacket) (deadline : Option Deadline)

/-- The engine raises an exception of its own before it hands out another packet: a condition
cannot be evaluated, the deadline has expired, or `derive` refuses. -/
def RaisesNext : List WorkflowStep → Progress → GateState Dump → Prop
  | [], progress, s => ∀ result, (deriveResponse cfg packet progress s).1 ≠ .ok result
  | step :: steps, progress, s =>
    match shouldExecuteStep cfg step progress with
    | .error _ => True
    | .ok false => RaisesNext steps progress s
    | .ok true => ∀ stepPacket, (deriveStep cfg packet deadline step progress s).1 ≠ .ok stepPacket

/-- No executed step is answered with a failure, unless the engine raises next. -/
def FailuresRaise :
    List WorkflowStep → Progress → GateState Dump → List (Turn (gate Dump)) → Prop
  | [], _, _, _ => True
  | step :: steps, progress, s, turns =>
    match shouldExecuteStep cfg step progress with
    | .error _ => True
    | .ok false => FailuresRaise steps progress s turns
    | .ok true =>
      match deriveStep cfg packet deadline step progress s, turns with
      | (.ok stepPacket, s'), turn :: turns =>
        match answerOf turn stepPacket deadline with
        | .error _ => True
        | .ok answer =>
          if isTerminalSuccess answer then
            FailuresRaise steps (progress.after step answer) (turn.change s') turns
          else RaisesNext cfg packet deadline steps (progress.after step answer) (turn.change s')
      | _, _ => True

end Condition

/-! ### Runs and their first events -/

/-- The packet that a workflow answers with is a success, whatever the steps were answered. -/
lemma isTerminalSuccess_deriveResponse {cfg : GateConfig Dump} {packet result : TransportPacket}
    {progress : Progress} {s : GateState Dump}
    (h : (deriveResponse cfg packet progress s).1 = .ok result) :
    isTerminalSuccess result = true := by
  have hderived := cfg.sdk.derive_ok h
  have htype : result.header.packetType = .response := hderived.packetType _ rfl
  have hhops : result.hopTrace = [] := hderived.hopTrace
  simp [isTerminalSuccess, htype, hhops]

lemma Quiet.failureEnds {r : Played (gate Dump) TransportPacket} (h : Quiet r) : FailureEnds r := by
  intro before step answer after hevents _
  refine ⟨fun step' packet hmem => h.1 step' packet ?_, h.2⟩
  rw [hevents]
  simp [hmem]

/-- A run that answers no step. -/
lemma failureEnds_of_unanswered {r : Played (gate Dump) TransportPacket}
    (h : ∀ step answer, GateEvent.stepAnswered step answer ∉ r.events) : FailureEnds r := by
  intro before step answer after hevents _
  exact absurd (by rw [hevents]; simp) (h step answer)

lemma failureEnds_after_started {r : Played (gate Dump) TransportPacket} (step : WorkflowStep)
    (packet : TransportPacket) :
    FailureEnds (r.after (.stepStarted step packet)) ↔ FailureEnds r := by
  constructor
  · intro h before step' answer after hevents
    exact h (.stepStarted step packet :: before) step' answer after
      (by simp [Played.after, hevents])
  · intro h before step' answer after hevents
    cases before with
    | nil => simp [Played.after] at hevents
    | cons e before => exact h before step' answer after (List.cons.inj hevents).2

lemma failureEnds_after_answered {r : Played (gate Dump) TransportPacket} (step : WorkflowStep)
    (answer : TransportPacket) :
    FailureEnds (r.after (.stepAnswered step answer)) ↔
      (isTerminalSuccess answer = false → Quiet r) ∧ FailureEnds r := by
  constructor
  · intro h
    refine ⟨h [] step answer r.events rfl, fun before step' answer' after hevents => ?_⟩
    exact h (.stepAnswered step answer :: before) step' answer' after
      (by simp [Played.after, hevents])
  · rintro ⟨hquiet, hrest⟩ before step' answer' after hevents hfail
    cases before with
    | nil =>
      obtain ⟨hhead, rfl⟩ := List.cons.inj hevents
      cases hhead
      exact hquiet hfail
    | cons e before => exact hrest before step' answer' after (List.cons.inj hevents).2 hfail

section Runs

variable {cfg : GateConfig Dump} {packet : TransportPacket} {deadline : Option Deadline}
  {step : WorkflowStep} {steps : List WorkflowStep} {progress : Progress} {s : GateState Dump}
  {turns : List (Turn (gate Dump))}

/-- What the engine does from a point of its loop, with an injected dispatcher. -/
def playSteps (cfg : GateConfig Dump) (packet : TransportPacket) (deadline : Option Deadline)
    (steps : List WorkflowStep) (progress : Progress) (s : GateState Dump)
    (turns : List (Turn (gate Dump))) : Played (gate Dump) TransportPacket :=
  (executeSteps cfg injectedDispatch packet deadline steps progress).play s turns

lemma playSteps_nil :
    playSteps cfg packet deadline [] progress s turns =
      ⟨some (deriveResponse cfg packet progress s).1, [],
        (deriveResponse cfg packet progress s).2, turns⟩ := rfl

lemma play_injectedDispatch (stepPacket : TransportPacket) (deadline : Option Deadline)
    (s : GateState Dump) (turn : Turn (gate Dump)) (turns : List (Turn (gate Dump))) :
    (injectedDispatch stepPacket deadline).play s (turn :: turns) =
      ⟨some (answerOf turn stepPacket deadline), [], turn.change s, turns⟩ := rfl

/-- A condition that cannot be evaluated ends the run. -/
lemma playSteps_error {e : PyError} (h : shouldExecuteStep cfg step progress = .error e) :
    playSteps cfg packet deadline (step :: steps) progress s turns =
      ⟨some (.error e), [], s, turns⟩ := by
  rw [playSteps, executeSteps]
  exact Co.play_bind_error (by rw [h]; rfl)

/-- A step whose condition does not hold is skipped. -/
lemma playSteps_skip (h : shouldExecuteStep cfg step progress = .ok false) :
    playSteps cfg packet deadline (step :: steps) progress s turns =
      playSteps cfg packet deadline steps progress s turns := by
  rw [playSteps, executeSteps, h]
  rfl

/-- The packet of a step cannot be made: the run ends. -/
lemma playSteps_refused {e : PyError} {s' : GateState Dump}
    (h : shouldExecuteStep cfg step progress = .ok true)
    (hderive : deriveStep cfg packet deadline step progress s = (.error e, s')) :
    playSteps cfg packet deadline (step :: steps) progress s turns =
      ⟨some (.error e), [], s', turns⟩ := by
  rw [playSteps, executeSteps, h]
  exact Co.play_call_bind_error hderive turns

/-- A step is dispatched: what follows depends on its answer. -/
lemma playSteps_dispatched {stepPacket : TransportPacket} {s' : GateState Dump}
    (h : shouldExecuteStep cfg step progress = .ok true)
    (hderive : deriveStep cfg packet deadline step progress s = (.ok stepPacket, s')) :
    playSteps cfg packet deadline (step :: steps) progress s turns =
      Played.after (GateEvent.stepStarted step stepPacket : (gate Dump).Event)
        (match turns with
        | [] => ⟨none, [], s', []⟩
        | turn :: turns =>
          match answerOf turn stepPacket deadline with
          | .error e => ⟨some (.error e), [], turn.change s', turns⟩
          | .ok answer => Played.after (GateEvent.stepAnswered step answer : (gate Dump).Event)
              (playSteps cfg packet deadline steps (progress.after step answer) (turn.change s')
                turns)) := by
  rw [playSteps, executeSteps, h]
  refine (Co.play_call_bind_ok hderive turns).trans ?_
  rw [Co.play_log_bind]
  congr 1
  -- the engine waits for the dispatcher, which the next turn answers
  cases turns with
  | nil => exact Co.play_bind_none (Co.play_request_nil _ _)
  | cons turn turns =>
    have hplay := play_injectedDispatch stepPacket deadline s' turn turns
    rcases hreply : answerOf turn stepPacket deadline with e | answer
    · rw [hreply] at hplay
      rw [Co.play_bind_error hplay]
      simp only [hreply]
    · rw [hreply] at hplay
      rw [Co.play_bind_ok hplay, Co.play_log_bind]
      simp only [hreply, List.nil_append]
      rfl

/-! ### When a failure ends the workflow -/

/-- After a failure the engine is quiet exactly when it raises next. -/
lemma quiet_iff :
    Quiet (playSteps cfg packet deadline steps progress s turns) ↔
      RaisesNext cfg packet deadline steps progress s := by
  -- a skipped step changes nothing; the first step that is executed decides
  induction steps with
  | nil =>
    rw [playSteps_nil, Quiet]
    constructor
    · intro hquiet result hok
      have hfail := hquiet.2 result (by simp [hok])
      rw [isTerminalSuccess_deriveResponse hok] at hfail
      cases hfail
    · intro hraise
      refine ⟨by simp, fun result hok => ?_⟩
      exact absurd (Option.some.inj hok) (hraise result)
  | cons step steps ih =>
    rcases hshould : shouldExecuteStep cfg step progress with e | b
    · rw [playSteps_error hshould]
      simp [Quiet, RaisesNext, hshould]
    cases b with
    | false =>
      rw [playSteps_skip hshould, ih]
      simp [RaisesNext, hshould]
    | true =>
      rcases hderive : deriveStep cfg packet deadline step progress s with ⟨e | stepPacket, s'⟩
      · rw [playSteps_refused hshould hderive]
        simp [Quiet, RaisesNext, hshould, hderive]
      · -- the packet of the step is handed out
        rw [playSteps_dispatched hshould hderive]
        constructor
        · rintro ⟨hnone, -⟩
          exact absurd (by simp [Played.after]) (hnone step stepPacket)
        · intro hraise
          simp [RaisesNext, hshould, hderive] at hraise

/-- A failure ends the workflow exactly when no executed step is answered with one, unless the
engine raises next. -/
lemma failureEnds_playSteps_iff :
    FailureEnds (playSteps cfg packet deadline steps progress s turns) ↔
      FailuresRaise cfg packet deadline steps progress s turns := by
  induction steps generalizing progress s turns with
  | nil =>
    rw [playSteps_nil]
    exact iff_of_true (failureEnds_of_unanswered (by simp)) trivial
  | cons step steps ih =>
    rcases hshould : shouldExecuteStep cfg step progress with e | b
    · rw [playSteps_error hshould]
      exact iff_of_true (failureEnds_of_unanswered (by simp)) (by simp [FailuresRaise, hshould])
    cases b with
    | false =>
      rw [playSteps_skip hshould, ih]
      simp [FailuresRaise, hshould]
    | true =>
      rcases hderive : deriveStep cfg packet deadline step progress s with ⟨e | stepPacket, s'⟩
      · rw [playSteps_refused hshould hderive]
        exact iff_of_true (failureEnds_of_unanswered (by simp))
          (by simp [FailuresRaise, hshould, hderive])
      rw [playSteps_dispatched hshould hderive, failureEnds_after_started]
      cases turns with
      | nil =>
        exact iff_of_true (failureEnds_of_unanswered (by simp))
          (by simp [FailuresRaise, hshould, hderive])
      | cons turn turns =>
        rcases hreply : answerOf turn stepPacket deadline with e | answer
        · simp only [hreply]
          exact iff_of_true (failureEnds_of_unanswered (by simp))
            (by simp [FailuresRaise, hshould, hderive, hreply])
        simp only [hreply, FailuresRaise, hshould, hderive]
        rw [failureEnds_after_answered, ih]
        cases hsuccess : isTerminalSuccess answer with
        | true => simp
        | false =>
          -- a run that is quiet after the failure answers nothing more
          simp only [quiet_iff, true_imp_iff, if_false, Bool.false_eq_true]
          exact ⟨fun h => h.1, fun h => ⟨h, ih.1 (quiet_iff.2 h).failureEnds⟩⟩

end Runs

/-- For every workflow, every request and every sequence of answers: a failure ends the
workflow exactly when no executed step is answered with one, unless the engine raises an
exception of its own before it hands out another packet. -/
theorem failureEnds_iff (cfg : GateConfig Dump) (packet : TransportPacket)
    (deadline : Option Deadline) (s : GateState Dump) (turns : List (Turn (gate Dump))) :
    FailureEnds ((executeWorkflow cfg injectedDispatch packet deadline).play s turns) ↔
      ∀ definition ∈ cfg.definitions.get? (normalize packet.header.action),
        FailuresRaise cfg packet deadline definition.steps (.start packet) s turns := by
  rw [executeWorkflow]
  rcases hdef : cfg.definitions.get? (normalize packet.header.action) with _ | definition
  · simp only [Co.play_raise]
    exact iff_of_true (failureEnds_of_unanswered (by simp)) (by simp)
  · simp only [Option.mem_def, Option.some.injEq, forall_eq']
    exact failureEnds_playSteps_iff

/-- A process in which nothing is registered. -/
def idleState : GateState TransportPacket :=
  .fresh .empty none (.stopped 0) ⟨fun _ => 0, 0⟩

/-- The worker of a step reports a failure. -/
def failingTurn : Turn (gate TransportPacket) where
  change s := s
  reply
    | .dispatch _ _ => .ok (failurePacket "acme" "score")
    | _ => .error .cancelled

/-- A workflow of one step, which fails, answers with a success. -/
theorem failing_step_succeeds :
    ¬ ∀ (cfg : GateConfig TransportPacket) (packet : TransportPacket) (deadline : Option Deadline)
      (s : GateState TransportPacket) (turns : List (Turn (gate TransportPacket))),
      FailureEnds ((executeWorkflow cfg injectedDispatch packet deadline).play s turns) := by
  intro h
  have hends := h (.scoring none (by simp)) (clientPacket "acme" "pipeline" none) none idleState
    [failingTurn]
  generalize hrun : (executeWorkflow (.scoring none (by simp)) injectedDispatch
    (clientPacket "acme" "pipeline" none) none).play idleState [failingTurn] = r at hends
  have hfails : r.events.any (fun
      | .stepAnswered _ answer => !isTerminalSuccess answer
      | _ => false) = true := by
    subst hrun
    decide +kernel
  have hresult : r.outcome.any (fun o => o.toOption.any isTerminalSuccess) = true := by
    subst hrun
    decide +kernel
  obtain ⟨e, he, hfail⟩ := List.any_eq_true.1 hfails
  obtain ⟨before, after, hevents⟩ := List.append_of_mem he
  obtain ⟨o, ho, hany⟩ := (Option.any_eq_true _ _).1 hresult
  obtain ⟨result, rfl, hsuccess⟩ := exists_ok_of_any hany
  cases e with
  | stepAnswered step answer =>
    have hfailed := (hends before step answer after hevents (by simpa using hfail)).2 result ho
    rw [hsuccess] at hfailed
    cases hfailed
  | _ => cases hfail

end ConstellationGate
