import ConstellationGate.Lib.Overlay
import ConstellationGate.Orchestration.WorkflowFailures

/-!
# The payload of a workflow

The engine merges the answer to each executed step into the payload that it accumulates.  Unless a
step with the transform `identity` is answered, what is accumulated is a fold: the payload of the
request, overlaid by what the answers give, in their order (`progressAfter`).  The conditions read
this fold, the packets of the steps carry it, and so does the answer of the workflow
(`payload_fold`).
-/

namespace ConstellationGate

variable {Dump : Type}

/-- What the answer to a step overlays: its payload, or the mapping under `data` alone. -/
def overlay (answered : WorkflowStep × TransportPacket) : List (String × Value) :=
  match answered.1.mergeStrategy, answered.2.payload.get? "data" with
  | .mergeResults, some (.dict data) => data
  | _, _ => answered.2.payload.entries

/-- The steps that were answered, with their answers. -/
def answers (events : List (GateEvent Dump)) : List (WorkflowStep × TransportPacket) :=
  events.filterMap fun
    | .stepAnswered step answer => some (step, answer)
    | _ => none

/-- The variables of the engine after the answers to the steps `done`. -/
def progressAfter (packet : TransportPacket) (done : List (WorkflowStep × TransportPacket)) :
    Progress where
  currentPayload := packet.payload.update (done.flatMap overlay)
  latestResponsePayload := done.getLast?.map fun answered => answered.2.payload
  currentPacket := (done.getLast?.map Prod.snd).getD packet

/-- The run of the steps that are left, after the answers to the steps `done`. -/
inductive FollowsFold (cfg : GateConfig Dump) (packet : TransportPacket)
    (outcome : Option (Except PyError TransportPacket)) :
    List WorkflowStep → List (WorkflowStep × TransportPacket) → List (GateEvent Dump) → Prop
  /-- No step is left. -/
  | finished {done} (hresult : ∀ result, outcome = some (.ok result) →
      result.payload = (progressAfter packet done).currentPayload) :
      FollowsFold cfg packet outcome [] done []
  /-- The condition of a step cannot be evaluated. -/
  | raised {step steps done e}
      (hcondition : shouldExecuteStep cfg step (progressAfter packet done) = .error e)
      (hend : outcome = some (.error e)) : FollowsFold cfg packet outcome (step :: steps) done []
  /-- A step is skipped, and nothing changes. -/
  | skipped {step steps done events}
      (hcondition : shouldExecuteStep cfg step (progressAfter packet done) = .ok false)
      (hrest : FollowsFold cfg packet outcome steps done events) :
      FollowsFold cfg packet outcome (step :: steps) done events
  /-- The packet of a step cannot be made. -/
  | refused {step steps done e}
      (hcondition : shouldExecuteStep cfg step (progressAfter packet done) = .ok true)
      (hend : outcome = some (.error e)) : FollowsFold cfg packet outcome (step :: steps) done []
  /-- A step is not answered. -/
  | unanswered {step steps done stepPacket}
      (hcondition : shouldExecuteStep cfg step (progressAfter packet done) = .ok true)
      (hpayload : stepPacket.payload = (progressAfter packet done).currentPayload)
      (hend : ∀ result, outcome ≠ some (.ok result)) :
      FollowsFold cfg packet outcome (step :: steps) done [.stepStarted step stepPacket]
  /-- A step is answered. -/
  | answered {step steps done stepPacket answer events}
      (hcondition : shouldExecuteStep cfg step (progressAfter packet done) = .ok true)
      (hpayload : stepPacket.payload = (progressAfter packet done).currentPayload)
      (hrest : FollowsFold cfg packet outcome steps (done ++ [(step, answer)]) events) :
      FollowsFold cfg packet outcome (step :: steps) done
        (.stepStarted step stepPacket :: .stepAnswered step answer :: events)

/-! ### One step -/

lemma mergePayload_eq {step : WorkflowStep} (hstep : step.mergeStrategy ≠ .identity)
    (current : Dict String Value) (answer : TransportPacket) :
    mergePayload step current answer.payload = current.update (overlay (step, answer)) := by
  rw [mergePayload, overlay]
  cases h : step.mergeStrategy with
  | identity => exact absurd h hstep
  | mergeResults =>
    simp only
    split
    · rename_i data hdata
      simp only [hdata]
    · rename_i hdata
      split
      · rename_i data hdata' _ hdict
        exact absurd hdict (hdata _)
      · rfl
  | mergePayload => rfl

/-- The engine after one answer more. -/
lemma progressAfter_concat (packet : TransportPacket)
    (done : List (WorkflowStep × TransportPacket)) {step : WorkflowStep}
    (hstep : step.mergeStrategy ≠ .identity) (answer : TransportPacket) :
    progressAfter packet (done ++ [(step, answer)]) =
      (progressAfter packet done).after step answer := by
  rw [progressAfter, Progress.after, mergePayload_eq hstep]
  simp [progressAfter, Dict.update_append]

lemma payload_deriveStep {cfg : GateConfig Dump} {packet stepPacket : TransportPacket}
    {deadline : Option Deadline} {step : WorkflowStep} {progress : Progress} {s : GateState Dump}
    (h : (deriveStep cfg packet deadline step progress s).1 = .ok stepPacket) :
    stepPacket.payload = progress.currentPayload := by
  unfold deriveStep at h
  split at h
  · cases h
  · exact (cfg.sdk.derive_ok h).payload _ rfl

lemma payload_deriveResponse {cfg : GateConfig Dump} {packet result : TransportPacket}
    {progress : Progress} {s : GateState Dump}
    (h : (deriveResponse cfg packet progress s).1 = .ok result) :
    result.payload = progress.currentPayload := (cfg.sdk.derive_ok h).payload _ rfl

/-! ### The run -/

section Run

variable {cfg : GateConfig Dump} {packet : TransportPacket} {deadline : Option Deadline}
  {steps : List WorkflowStep} {done : List (WorkflowStep × TransportPacket)} {s : GateState Dump}
  {turns : List (Turn (gate Dump))} {outcome : Option (Except PyError TransportPacket)}
  {events : List (GateEvent Dump)}

/-- Until a step with the transform `identity` is answered, the run follows the fold. -/
lemma followsFold_playSteps
    (h : ∀ answered ∈ answers
      (playSteps cfg packet deadline steps (progressAfter packet done) s turns).events,
        answered.1.mergeStrategy ≠ .identity) :
    FollowsFold cfg packet
      (playSteps cfg packet deadline steps (progressAfter packet done) s turns).outcome steps done
      (playSteps cfg packet deadline steps (progressAfter packet done) s turns).events := by
  induction steps generalizing done s turns with
  | nil =>
    rw [playSteps_nil]
    exact .finished fun result hok => payload_deriveResponse (Option.some.inj hok)
  | cons step steps ih =>
    rcases hshould : shouldExecuteStep cfg step (progressAfter packet done) with e | b
    · rw [playSteps_error hshould]
      exact .raised hshould rfl
    cases b with
    | false =>
      rw [playSteps_skip hshould] at h ⊢
      exact .skipped hshould (ih h)
    | true =>
      rcases hderive : deriveStep cfg packet deadline step (progressAfter packet done) s with
        ⟨e | stepPacket, s'⟩
      · rw [playSteps_refused hshould hderive]
        exact .refused hshould rfl
      have hpayload := payload_deriveStep (congrArg Prod.fst hderive)
      rw [playSteps_dispatched hshould hderive] at h ⊢
      cases turns with
      | nil => exact .unanswered hshould hpayload fun result hok => by cases hok
      | cons turn turns =>
        rcases hreply : answerOf turn stepPacket deadline with e | answer
        · simp only [hreply]
          exact .unanswered hshould hpayload fun result hok => by cases hok
        · -- the answer is merged, and the fold goes on with it
          simp only [hreply] at h ⊢
          have hstep : step.mergeStrategy ≠ .identity :=
            h (step, answer) (List.mem_cons_self)
          rw [← progressAfter_concat packet done hstep] at h ⊢
          exact .answered hshould hpayload
            (ih fun answered hmem => h answered (List.mem_cons_of_mem _ hmem))

/-- Each packet of a step carries what was accumulated before it. -/
lemma FollowsFold.started (h : FollowsFold cfg packet outcome steps done events)
    {before after : List (GateEvent Dump)} {step : WorkflowStep} {stepPacket : TransportPacket}
    (hevents : events = before ++ .stepStarted step stepPacket :: after) :
    shouldExecuteStep cfg step (progressAfter packet (done ++ answers before)) = .ok true ∧
      stepPacket.payload = (progressAfter packet (done ++ answers before)).currentPayload := by
  induction h generalizing before with
  | finished => simp at hevents
  | raised => simp at hevents
  | skipped _ _ ih => exact ih hevents
  | refused => simp at hevents
  | unanswered hcondition hpayload =>
    rcases before with - | ⟨e, before⟩
    · obtain ⟨hhead, -⟩ := List.cons.inj hevents
      cases hhead
      simpa [answers] using And.intro hcondition hpayload
    · simp at hevents
  | answered hcondition hpayload _ ih =>
    -- the packet is that of this step, or of one after its answer
    rcases before with - | ⟨e, - | ⟨e', before⟩⟩
    · obtain ⟨hhead, -⟩ := List.cons.inj hevents
      cases hhead
      simpa [answers] using And.intro hcondition hpayload
    · obtain ⟨-, htail⟩ := List.cons.inj hevents
      cases (List.cons.inj htail).1
    · obtain ⟨rfl, htail⟩ := List.cons.inj hevents
      obtain ⟨rfl, hrest⟩ := List.cons.inj htail
      simpa [answers] using ih hrest

/-- The result carries what was accumulated. -/
lemma FollowsFold.result (h : FollowsFold cfg packet outcome steps done events)
    {result : TransportPacket} (hok : outcome = some (.ok result)) :
    result.payload = (progressAfter packet (done ++ answers events)).currentPayload := by
  induction h with
  | finished hresult => simpa [answers] using hresult result hok
  | raised _ hend => cases hend.symm.trans hok
  | skipped _ _ ih => exact ih
  | refused _ hend => cases hend.symm.trans hok
  | unanswered _ _ hend => exact absurd hok (hend result)
  | answered _ _ _ ih => simpa [answers] using ih

end Run

/-- What `execute` does, with an injected dispatcher. -/
def playWorkflow (cfg : GateConfig Dump) (packet : TransportPacket) (deadline : Option Deadline)
    (s : GateState Dump) (turns : List (Turn (gate Dump))) : Played (gate Dump) TransportPacket :=
  (executeWorkflow cfg injectedDispatch packet deadline).play s turns

/-- A workflow that is not defined: nothing is executed. -/
lemma playWorkflow_none {cfg : GateConfig Dump} {packet : TransportPacket}
    (h : cfg.definitions.get? (normalize packet.header.action) = none)
    (deadline : Option Deadline) (s : GateState Dump) (turns : List (Turn (gate Dump))) :
    playWorkflow cfg packet deadline s turns =
      ⟨some (.error { cls := .lookupError,
                      message := "no workflow defined for action: "
                        ++ normalize packet.header.action }), [], s, turns⟩ := by
  rw [playWorkflow, executeWorkflow]
  simp only [h]
  rfl

/-- The steps of a workflow are executed from the payload of the request on. -/
lemma playWorkflow_some {cfg : GateConfig Dump} {packet : TransportPacket}
    {definition : WorkflowDefinition}
    (h : cfg.definitions.get? (normalize packet.header.action) = some definition)
    (deadline : Option Deadline) (s : GateState Dump) (turns : List (Turn (gate Dump))) :
    playWorkflow cfg packet deadline s turns =
      playSteps cfg packet deadline definition.steps (.start packet) s turns := by
  rw [playWorkflow, executeWorkflow]
  simp only [h]
  rfl

/-- For every workflow, request and sequence of answers, as long as no step with the transform
`identity` is answered: the run follows the fold of the answers, so that each step is executed or
skipped by a condition on what was accumulated before it, and each packet of a step carries just
that.  The payload of the result has the keys of the request and those that the answers overlay, and
under each of them the value of the last answer that overlays it, or else that of the request. -/
theorem payload_fold {cfg : GateConfig Dump} {packet : TransportPacket} {deadline : Option Deadline}
    {s : GateState Dump} {turns : List (Turn (gate Dump))}
    (h : ∀ answered ∈ answers (playWorkflow cfg packet deadline s turns).events,
      answered.1.mergeStrategy ≠ .identity) :
    (∀ definition ∈ cfg.definitions.get? (normalize packet.header.action),
      FollowsFold cfg packet (playWorkflow cfg packet deadline s turns).outcome definition.steps []
        (playWorkflow cfg packet deadline s turns).events) ∧
    (∀ before step stepPacket after, (playWorkflow cfg packet deadline s turns).events =
        before ++ .stepStarted step stepPacket :: after →
      shouldExecuteStep cfg step (progressAfter packet (answers before)) = .ok true ∧
        stepPacket.payload = packet.payload.update ((answers before).flatMap overlay)) ∧
    ∀ result, (playWorkflow cfg packet deadline s turns).outcome = some (.ok result) →
      result.payload = packet.payload.update
        ((answers (playWorkflow cfg packet deadline s turns).events).flatMap overlay) ∧
      (∀ key, result.payload.contains key = true ↔ packet.payload.contains key = true ∨
        ∃ answered ∈ answers (playWorkflow cfg packet deadline s turns).events,
          key ∈ (overlay answered).map Prod.fst) ∧
      ∀ key, result.payload.get? key =
        ((answers (playWorkflow cfg packet deadline s turns).events).reverse.findSome?
          fun answered => Dict.findLast (overlay answered) key).or (packet.payload.get? key) := by
  rcases hdef : cfg.definitions.get? (normalize packet.header.action) with _ | definition
  · rw [playWorkflow_none hdef]
    simp
  · rw [playWorkflow_some hdef] at h ⊢
    have hfold : FollowsFold cfg packet _ definition.steps [] _ := followsFold_playSteps h
    refine ⟨fun definition' heq => ?_, fun before step stepPacket after hevents => ?_,
      fun result hok => ?_⟩
    · obtain rfl := Option.some.inj heq
      exact hfold
    · exact hfold.started hevents
    · have hpayload := hfold.result hok
      refine ⟨hpayload, fun key => ?_, fun key => ?_⟩
      · rw [hpayload]
        exact Dict.contains_update_flatMap
      · rw [hpayload]
        exact Dict.get?_update_flatMap packet.payload overlay _ key

/-! ### A workflow of two steps -/

lemma first_second_nodup : (["first", "second"].map normalize).Nodup := by decide +kernel

/-- The workflow `pipeline` of two steps, with their transforms. -/
def twoSteps (first second : MergeStrategy) : WorkflowDefinition where
  name := "pipeline"
  steps :=
    [{ name := "first"
       action := "score"
       mergeStrategy := first
       name_stripped := first_stripped
       action_stripped := score_stripped
       condition_stripped := noCondition_stripped
       one_le_timeoutMs := one_le_noTimeout },
     { name := "second"
       action := "score"
       mergeStrategy := second
       name_stripped := second_stripped
       action_stripped := score_stripped
       condition_stripped := noCondition_stripped
       one_le_timeoutMs := one_le_noTimeout }]
  steps_ne := List.cons_ne_nil _ _
  names_nodup := first_second_nodup

/-- The standard settings with this workflow. -/
def GateConfig.twoSteps (first second : MergeStrategy) : GateConfig TransportPacket :=
  .standard .plain "gate" (Dict.empty.set "pipeline" (ConstellationGate.twoSteps first second))
    fun _ _ => .ok true

/-- The worker of a step answers with a payload. -/
def answeringStep (payload : Dict String Value) : Turn (gate TransportPacket) :=
  ⟨id, answering { clientPacket "acme" "score" none with payload := payload }⟩

/-- Two answers, of which the second has its results under `data`. -/
def scoreAndRank : List (Turn (gate TransportPacket)) :=
  [answeringStep (Dict.empty.set "score" (.int 1)),
   answeringStep (Dict.empty.set "data" (.dict [("rank", .int 2)]))]

/-- The result has the score of the first step and the rank of the second one. -/
theorem payload_fold_scoreAndRank :
    ∃ result, (playWorkflow (.twoSteps .mergePayload .mergeResults)
        (clientPacket "acme" "pipeline" none) none idleState scoreAndRank).outcome =
          some (.ok result) ∧
      result.payload.contains "score" = true ∧ result.payload.contains "rank" = true ∧
        ¬ result.payload.contains "data" = true := by
  generalize hrun : playWorkflow (.twoSteps .mergePayload .mergeResults)
    (clientPacket "acme" "pipeline" none) none idleState scoreAndRank = r
  have hidentity : (answers r.events).all (fun e => e.1.mergeStrategy ≠ .identity) = true := by
    subst hrun
    decide +kernel
  have hended : r.outcome.any (fun o => o.toOption.any fun _ => true) = true := by
    subst hrun
    decide +kernel
  obtain ⟨o, ho, hany⟩ := (Option.any_eq_true _ _).1 hended
  obtain ⟨result, rfl, -⟩ := exists_ok_of_any hany
  have hmerged : ∀ answered ∈ answers (playWorkflow (.twoSteps .mergePayload .mergeResults)
      (clientPacket "acme" "pipeline" none) none idleState scoreAndRank).events,
      answered.1.mergeStrategy ≠ .identity := by
    intro answered hmem
    rw [hrun] at hmem
    simpa using List.all_eq_true.1 hidentity answered hmem
  have hkeys := ((payload_fold hmerged).2.2 result (by rw [hrun, ho])).2.1
  refine ⟨result, ho, (hkeys "score").2 ?_, (hkeys "rank").2 ?_, fun hdata => ?_⟩
  · decide +kernel
  · decide +kernel
  · revert hdata
    rw [hkeys "data"]
    decide +kernel

end ConstellationGate
