import ConstellationGate.Orchestration.PayloadFold

/-!
# Steps with the transform `identity`

The workflow contract has such a step pass the current payload unchanged, so that nothing depends on
the payload of its answer (`Transparent`).  The engine takes that payload for the current one.

`transparent_iff` says when the contract is met nevertheless: when the engine raises an exception of
its own before it sends anything on, whatever payload an identity step is answered with.
-/

namespace ConstellationGate

variable {Dump : Type}

/-- The payloads that are sent to steps. -/
def sentPayloads (events : List (GateEvent Dump)) : List (Dict String Value) :=
  events.filterMap fun
    | .stepStarted _ packet => some packet.payload
    | _ => none

/-- The payload of the result, when there is one. -/
def resultPayload (outcome : Option (Except PyError TransportPacket)) :
    Option (Dict String Value) :=
  outcome.bind fun o => o.toOption.map TransportPacket.payload

/-- The payloads that a run sends to steps, and that of its result. -/
def payloads (r : Played (gate Dump) TransportPacket) :
    List (Dict String Value) × Option (Dict String Value) :=
  (sentPayloads r.events, resultPayload r.outcome)

/-- The first of these payloads. -/
def firstPayload (r : Played (gate Dump) TransportPacket) : Option (Dict String Value) :=
  (payloads r).1.head?.or (payloads r).2

/-- The turn with another payload in its answer to a step. -/
def withPayload (payload : Dict String Value) (turn : Turn (gate Dump)) : Turn (gate Dump) where
  change := turn.change
  reply
    | .dispatch stepPacket deadline =>
      (answerOf turn stepPacket deadline).map fun answer => { answer with payload := payload }
    | .limiterYield nodeName => turn.reply (.limiterYield nodeName)
    | .send nodeName packet url => turn.reply (.send nodeName packet url)
    | .retrySleep seconds => turn.reply (.retrySleep seconds)

/-- Each identity step that is answered leaves the payload as it was sent to the step, and any other
payload in its answer would change no payload that is sent to a step, nor that of the result. -/
def Transparent (run : List (Turn (gate Dump)) → Played (gate Dump) TransportPacket)
    (turns : List (Turn (gate Dump))) : Prop :=
  ∀ before step stepPacket answer after,
    (run turns).events =
      before ++ .stepStarted step stepPacket :: .stepAnswered step answer :: after →
    step.mergeStrategy = .identity →
    (∀ payload ∈ (sentPayloads after).head?.or (resultPayload (run turns).outcome),
      payload = stepPacket.payload) ∧
    ∀ payload, payloads (run (turns.modify (answers before).length (withPayload payload))) =
      payloads (run turns)

/-- No condition of the workflow reads `response`. -/
def IgnoresResponse (cfg : GateConfig Dump) (definition : WorkflowDefinition) : Prop :=
  ∀ step ∈ definition.steps, ∀ condition ∈ step.condition, ∀ c c' : ConditionContext,
    c.payload = c'.payload → c.action = c'.action → c.accumulated = c'.accumulated →
    cfg.evaluate condition c = cfg.evaluate condition c'

section Condition

variable (cfg : GateConfig Dump) (packet : TransportPacket) (deadline : Option Deadline)

/-- The engine after the answer to a step, if its payload were `payload`. -/
def Progress.afterPayload (progress : Progress) (step : WorkflowStep) (answer : TransportPacket)
    (payload : Dict String Value) : Progress :=
  progress.after step { answer with payload := payload }

/-- No identity step is answered, unless the engine raises next whatever payload the answer has. -/
def IdentitiesRaise :
    List WorkflowStep → Progress → GateState Dump → List (Turn (gate Dump)) → Prop
  | [], _, _, _ => True
  | step :: steps, progress, s, turns =>
    match shouldExecuteStep cfg step progress with
    | .error _ => True
    | .ok false => IdentitiesRaise steps progress s turns
    | .ok true =>
      match deriveStep cfg packet deadline step progress s, turns with
      | (.ok stepPacket, s'), turn :: turns =>
        match answerOf turn stepPacket deadline with
        | .error _ => True
        | .ok answer =>
          (step.mergeStrategy = .identity → ∀ payload, RaisesNext cfg packet deadline steps
            (progress.afterPayload step answer payload) (turn.change s')) ∧
          IdentitiesRaise steps (progress.after step answer) (turn.change s') turns
      | _, _ => True

end Condition

/-! ### What is sent first -/

lemma payloads_after_started (r : Played (gate Dump) TransportPacket) (step : WorkflowStep)
    (packet : TransportPacket) : payloads (r.after (.stepStarted step packet)) =
      (packet.payload :: (payloads r).1, (payloads r).2) := rfl

lemma payloads_after_answered (r : Played (gate Dump) TransportPacket) (step : WorkflowStep)
    (answer : TransportPacket) : payloads (r.after (.stepAnswered step answer)) = payloads r := rfl

/-- There is another payload. -/
lemma exists_ne_payload (payload : Dict String Value) : ∃ other, other ≠ payload := by
  by_cases hempty : payload = Dict.empty
  · refine ⟨Dict.empty.set "" .none, fun h => ?_⟩
    have hget := Dict.get?_set_self (Dict.empty : Dict String Value) "" .none
    rw [h, hempty] at hget
    cases hget
  · exact ⟨Dict.empty, fun h => hempty h.symm⟩

section Runs

variable {cfg : GateConfig Dump} {packet : TransportPacket} {deadline : Option Deadline}
  {steps : List WorkflowStep} {progress : Progress} {s : GateState Dump}
  (turns : List (Turn (gate Dump)))

/-- The engine raises next and sends nothing, or what it sends first is what is accumulated. -/
lemma payloads_playSteps :
    RaisesNext cfg packet deadline steps progress s ∧
        payloads (playSteps cfg packet deadline steps progress s turns) = ([], none) ∨
      ¬ RaisesNext cfg packet deadline steps progress s ∧
        firstPayload (playSteps cfg packet deadline steps progress s turns) =
          some progress.currentPayload := by
  induction steps with
  | nil =>
    rw [playSteps_nil]
    rcases hderive : (deriveResponse cfg packet progress s).1 with e | result
    · refine Or.inl ⟨fun result hok => ?_, rfl⟩
      rw [hderive] at hok
      cases hok
    · rw [← payload_deriveResponse hderive]
      exact Or.inr ⟨fun hraise => hraise result hderive, rfl⟩
  | cons step steps ih =>
    rcases hshould : shouldExecuteStep cfg step progress with e | b
    · rw [playSteps_error hshould]
      exact Or.inl ⟨by simp [RaisesNext, hshould], rfl⟩
    cases b with
    | false =>
      rw [playSteps_skip hshould]
      simpa [RaisesNext, hshould] using ih
    | true =>
      rcases hderive : deriveStep cfg packet deadline step progress s with ⟨e | stepPacket, s'⟩
      · rw [playSteps_refused hshould hderive]
        exact Or.inl ⟨by simp [RaisesNext, hshould, hderive], rfl⟩
      · rw [playSteps_dispatched hshould hderive, firstPayload, payloads_after_started,
          payload_deriveStep (congrArg Prod.fst hderive)]
        exact Or.inr ⟨by simp [RaisesNext, hshould, hderive], rfl⟩

/-- What follows an identity step is the same for every payload exactly when the engine raises next
for every payload. -/
lemma payloads_afterPayload_iff {step : WorkflowStep} {answer stepPacket : TransportPacket}
    (hstep : step.mergeStrategy = .identity) :
    ((∀ payload ∈ firstPayload (playSteps cfg packet deadline steps
        (progress.afterPayload step answer answer.payload) s turns), payload = stepPacket.payload) ∧
      ∀ payload, payloads (playSteps cfg packet deadline steps
          (progress.afterPayload step answer payload) s turns) =
        payloads (playSteps cfg packet deadline steps
          (progress.afterPayload step answer answer.payload) s turns)) ↔
      ∀ payload, RaisesNext cfg packet deadline steps (progress.afterPayload step answer payload)
        s := by
  have hcurrent : ∀ payload,
      (progress.afterPayload step answer payload).currentPayload = payload := by
    intro payload
    simp only [Progress.afterPayload, Progress.after, mergePayload, hstep]
  constructor
  · rintro ⟨-, hsame⟩ payload
    by_contra hgoes
    -- with another payload, something else would be sent first
    obtain ⟨other, hother⟩ := exists_ne_payload payload
    have hfirst : firstPayload (playSteps cfg packet deadline steps
        (progress.afterPayload step answer payload) s turns) = some payload := by
      rcases payloads_playSteps turns with ⟨hraise, -⟩ | ⟨-, hfirst⟩
      · exact absurd hraise hgoes
      · rw [hfirst, hcurrent]
    rw [firstPayload, hsame payload, ← hsame other] at hfirst
    rcases payloads_playSteps turns with ⟨-, hnone⟩ | ⟨-, hfirst'⟩
    · rw [hnone] at hfirst
      cases hfirst
    · rw [firstPayload, hcurrent] at hfirst'
      exact hother (Option.some.inj (hfirst'.symm.trans hfirst))
  · intro hraise
    have hnone : ∀ payload, payloads (playSteps cfg packet deadline steps
        (progress.afterPayload step answer payload) s turns) = ([], none) := by
      intro payload
      rcases payloads_playSteps turns with ⟨-, hnone⟩ | ⟨hgoes, -⟩
      · exact hnone
      · exact absurd (hraise payload) hgoes
    refine ⟨fun payload hmem => ?_, fun payload => (hnone payload).trans (hnone _).symm⟩
    rw [firstPayload, hnone] at hmem
    cases hmem

end Runs

/-! ### Transparent runs -/

section Transparent

variable {run : List (Turn (gate Dump)) → Played (gate Dump) TransportPacket}
  (turns : List (Turn (gate Dump)))

/-- A run that answers no step. -/
lemma transparent_of_unanswered {turns : List (Turn (gate Dump))}
    (h : ∀ step answer, GateEvent.stepAnswered step answer ∉ (run turns).events) :
    Transparent run turns := by
  intro before step stepPacket answer after hevents _
  exact absurd (by rw [hevents]; simp) (h step answer)

/-- A run whose first step is answered: `later` is what follows, by the payload of the answer. -/
lemma transparent_cons_iff
    (later : Dict String Value → List (Turn (gate Dump)) → Played (gate Dump) TransportPacket)
    {turn : Turn (gate Dump)} {step : WorkflowStep} {stepPacket answer : TransportPacket}
    (hrun : ∀ turns, run (turn :: turns) =
      Played.after (GateEvent.stepStarted step stepPacket : (gate Dump).Event)
        (Played.after (GateEvent.stepAnswered step answer : (gate Dump).Event)
          (later answer.payload turns)))
    (hother : ∀ payload turns, payloads (run (withPayload payload turn :: turns)) =
      (stepPacket.payload :: (payloads (later payload turns)).1,
        (payloads (later payload turns)).2)) :
    Transparent run (turn :: turns) ↔
      (step.mergeStrategy = .identity →
        (∀ payload ∈ firstPayload (later answer.payload turns), payload = stepPacket.payload) ∧
        ∀ payload, payloads (later payload turns) = payloads (later answer.payload turns)) ∧
      Transparent (later answer.payload) turns := by
  have hself : ∀ turns, payloads (run (turn :: turns)) =
      (stepPacket.payload :: (payloads (later answer.payload turns)).1,
        (payloads (later answer.payload turns)).2) := by
    intro turns
    rw [hrun, payloads_after_started, payloads_after_answered]
  constructor
  · intro h
    refine ⟨fun hstep => ?_, fun before step' stepPacket' answer' after hevents hstep => ?_⟩
    · obtain ⟨hfirst, hsame⟩ := h [] step stepPacket answer
        (later answer.payload turns).events (by rw [hrun]; rfl) hstep
      rw [hrun] at hfirst
      refine ⟨hfirst, fun payload => ?_⟩
      have heq := (hother payload turns).symm.trans ((hsame payload).trans (hself turns))
      exact Prod.ext (List.cons.inj (Prod.ext_iff.1 heq).1).2 (Prod.ext_iff.1 heq).2
    · obtain ⟨hfirst, hsame⟩ := h
        (.stepStarted step stepPacket :: .stepAnswered step answer :: before) step' stepPacket'
        answer' after (by rw [hrun]; simp [Played.after, hevents]) hstep
      rw [hrun] at hfirst
      refine ⟨hfirst, fun payload => ?_⟩
      have heq := (hself _).symm.trans ((hsame payload).trans (hself turns))
      exact Prod.ext (List.cons.inj (Prod.ext_iff.1 heq).1).2 (Prod.ext_iff.1 heq).2
  · rintro ⟨hfirst, hrest⟩ before step' stepPacket' answer' after hevents hstep
    rw [hrun] at hevents
    rcases before with - | ⟨e, - | ⟨e', before⟩⟩
    · obtain ⟨hhead, htail⟩ := List.cons.inj hevents
      obtain ⟨hhead', rfl⟩ := List.cons.inj htail
      cases hhead
      cases hhead'
      refine ⟨by rw [hrun]; exact (hfirst hstep).1, fun payload => ?_⟩
      have heq := hother payload turns
      rw [(hfirst hstep).2 payload, ← hself turns] at heq
      exact heq
    · obtain ⟨-, htail⟩ := List.cons.inj hevents
      cases (List.cons.inj htail).1
    · obtain ⟨rfl, htail⟩ := List.cons.inj hevents
      obtain ⟨rfl, hlater⟩ := List.cons.inj htail
      obtain ⟨hfirst', hsame⟩ := hrest before step' stepPacket' answer' after hlater hstep
      refine ⟨by rw [hrun]; exact hfirst', fun payload => ?_⟩
      have hmodify : (turn :: turns).modify
          (answers (.stepStarted step stepPacket :: .stepAnswered step answer :: before)).length
            (withPayload payload) =
          turn :: turns.modify (answers before).length (withPayload payload) := rfl
      rw [hmodify, hself, hself, hsame payload]

end Transparent

/-! ### When identity steps are transparent -/

section Workflow

variable {cfg : GateConfig Dump} {packet : TransportPacket} {deadline : Option Deadline}
  {steps : List WorkflowStep} {progress : Progress} {s : GateState Dump}
  {turns : List (Turn (gate Dump))}

/-- A step is answered: the run goes on with the answer. -/
lemma playSteps_answered {step : WorkflowStep} {stepPacket answer : TransportPacket}
    {s' : GateState Dump} {turn : Turn (gate Dump)}
    (hshould : shouldExecuteStep cfg step progress = .ok true)
    (hderive : deriveStep cfg packet deadline step progress s = (.ok stepPacket, s'))
    (hreply : answerOf turn stepPacket deadline = .ok answer) :
    playSteps cfg packet deadline (step :: steps) progress s (turn :: turns) =
      Played.after (GateEvent.stepStarted step stepPacket : (gate Dump).Event)
        (Played.after (GateEvent.stepAnswered step answer : (gate Dump).Event)
          (playSteps cfg packet deadline steps (progress.after step answer) (turn.change s')
            turns)) := by
  rw [playSteps_dispatched hshould hderive]
  simp only [hreply]

/-- The identity steps are transparent exactly when none of them is answered, unless the engine
raises next whatever payload the answer has. -/
lemma transparent_playSteps_iff :
    Transparent (playSteps cfg packet deadline steps progress s) turns ↔
      IdentitiesRaise cfg packet deadline steps progress s turns := by
  induction steps generalizing progress s turns with
  | nil => exact iff_of_true (transparent_of_unanswered (by simp [playSteps_nil])) trivial
  | cons step steps ih =>
    rcases hshould : shouldExecuteStep cfg step progress with e | b
    · exact iff_of_true (transparent_of_unanswered (by simp [playSteps_error hshould]))
        (by simp [IdentitiesRaise, hshould])
    cases b with
    | false =>
      have hskip : playSteps cfg packet deadline (step :: steps) progress s =
          playSteps cfg packet deadline steps progress s :=
        funext fun turns => playSteps_skip hshould
      rw [hskip, ih]
      simp [IdentitiesRaise, hshould]
    | true =>
      rcases hderive : deriveStep cfg packet deadline step progress s with ⟨e | stepPacket, s'⟩
      · exact iff_of_true
          (transparent_of_unanswered (by simp [playSteps_refused hshould hderive]))
          (by simp [IdentitiesRaise, hshould, hderive])
      cases turns with
      | nil =>
        refine iff_of_true (transparent_of_unanswered ?_)
          (by simp [IdentitiesRaise, hshould, hderive])
        simp [playSteps_dispatched hshould hderive, Played.after]
      | cons turn turns =>
        rcases hreply : answerOf turn stepPacket deadline with e | answer
        · refine iff_of_true (transparent_of_unanswered ?_)
            (by simp [IdentitiesRaise, hshould, hderive, hreply])
          simp [playSteps_dispatched hshould hderive, hreply, Played.after]
        have hreplaced : ∀ payload, answerOf (withPayload payload turn) stepPacket deadline =
            .ok { answer with payload := payload } := by
          intro payload
          change (answerOf turn stepPacket deadline).map _ = _
          rw [hreply]
          rfl
        have hiff := transparent_cons_iff turns
          (fun payload => playSteps cfg packet deadline steps
            (progress.afterPayload step answer payload) (turn.change s'))
          (fun turns => playSteps_answered hshould hderive hreply)
          fun payload turns => by
            rw [playSteps_answered hshould hderive (hreplaced payload), payloads_after_started,
              payloads_after_answered]
            rfl
        simp only [hiff, IdentitiesRaise, hshould, hderive, hreply]
        exact and_congr (forall_congr' fun hstep => payloads_afterPayload_iff turns hstep) ih

end Workflow

/-- For every workflow, request and sequence of answers: the identity steps are transparent exactly
when none of them is answered, unless the engine raises an exception of its own before it sends
anything on, whatever payload the answer has. -/
theorem transparent_iff (cfg : GateConfig Dump) (packet : TransportPacket)
    (deadline : Option Deadline) (s : GateState Dump) (turns : List (Turn (gate Dump))) :
    Transparent (playWorkflow cfg packet deadline s) turns ↔
      ∀ definition ∈ cfg.definitions.get? (normalize packet.header.action),
        IdentitiesRaise cfg packet deadline definition.steps (.start packet) s turns := by
  rcases hdef : cfg.definitions.get? (normalize packet.header.action) with _ | definition
  · exact iff_of_true (transparent_of_unanswered (by simp [playWorkflow_none hdef])) (by simp)
  · have hrun : playWorkflow cfg packet deadline s =
        playSteps cfg packet deadline definition.steps (.start packet) s :=
      funext fun turns => playWorkflow_some hdef deadline s turns
    rw [hrun, transparent_playSteps_iff]
    simp

/-- The answer to an identity step replaces what was accumulated. -/
theorem identity_step_replaces :
    ¬ ∀ (cfg : GateConfig TransportPacket) (packet : TransportPacket) (deadline : Option Deadline)
      (s : GateState TransportPacket) (turns : List (Turn (gate TransportPacket))),
      (∀ definition ∈ cfg.definitions.get? (normalize packet.header.action),
        IgnoresResponse cfg definition) →
      Transparent (playWorkflow cfg packet deadline s) turns := by
  intro h
  have hname : normalize "pipeline" = "pipeline" := by decide +kernel
  have hdef : (GateConfig.twoSteps .identity .mergePayload).definitions.get?
      (normalize (clientPacket "acme" "pipeline" none).header.action) =
        some (twoSteps .identity .mergePayload) := by
    rw [clientPacket, hname]
    rfl
  have htransparent := h (.twoSteps .identity .mergePayload) (clientPacket "acme" "pipeline" none)
    none idleState [answeringStep (Dict.empty.set "score" (.int 1))]
    fun _ _ _ _ _ _ _ _ _ _ _ => rfl
  have hrun : playWorkflow (.twoSteps .identity .mergePayload)
      (clientPacket "acme" "pipeline" none) none idleState = _ :=
    funext fun turns => playWorkflow_some hdef none idleState turns
  rw [hrun, transparent_playSteps_iff] at htransparent
  -- the second step is sent something
  obtain ⟨hraise, -⟩ := htransparent
  exact hraise rfl Dict.empty _ rfl

end ConstellationGate
