import ConstellationGate.Errors

/-!
# Workflow definitions

`orchestration/workflow_models.py`, with what the field validators establish as fields.
-/

namespace ConstellationGate

/-- How the answer to a step enters the payload of the following steps. -/
inductive MergeStrategy
  | identity | mergePayload | mergeResults
deriving DecidableEq, Repr

/-- A step of a workflow. -/
@[ext] structure WorkflowStep where
  name : String
  action : String
  timeoutMs : Option ℕ := none
  mergeStrategy : MergeStrategy := .mergePayload
  condition : Option String := none
  name_stripped : Text.strip name = name ∧ name ≠ ""
  action_stripped : Text.strip action = action ∧ action ≠ ""
  condition_stripped : ∀ c ∈ condition, Text.strip c = c ∧ c ≠ ""
  one_le_timeoutMs : ∀ t ∈ timeoutMs, 1 ≤ t

/-- A composite action: its steps, in order. -/
structure WorkflowDefinition where
  name : String
  description : String := ""
  steps : List WorkflowStep
  steps_ne : steps ≠ []
  names_nodup : (steps.map fun step => normalize step.name).Nodup

lemma one_le_noTimeout : ∀ t ∈ (none : Option ℕ), 1 ≤ t := by simp

lemma noCondition_stripped : ∀ c ∈ (none : Option String), Text.strip c = c ∧ c ≠ "" := by simp

lemma first_stripped : Text.strip "first" = "first" ∧ "first" ≠ "" := by decide +kernel

lemma second_stripped : Text.strip "second" = "second" ∧ "second" ≠ "" := by decide +kernel

lemma score_stripped : Text.strip "score" = "score" ∧ "score" ≠ "" := by decide +kernel

/-- The workflow `name` of one step that calls the action `score`. -/
def WorkflowDefinition.scoring (name : String) (timeoutMs : Option ℕ)
    (h : ∀ t ∈ timeoutMs, 1 ≤ t) : WorkflowDefinition where
  name := name
  steps :=
    [{ name := "first"
       action := "score"
       timeoutMs := timeoutMs
       name_stripped := by decide +kernel
       action_stripped := by decide +kernel
       condition_stripped := by simp
       one_le_timeoutMs := h }]
  steps_ne := List.cons_ne_nil _ _
  names_nodup := by simp

lemma rank_stripped : Text.strip "rank" = "rank" ∧ "rank" ≠ "" := by decide +kernel

/-- Two steps, of which the first calls `rank` and the second calls `score`. -/
def rankThenScore : List WorkflowStep :=
  [{ name := "first"
     action := "rank"
     name_stripped := first_stripped
     action_stripped := rank_stripped
     condition_stripped := noCondition_stripped
     one_le_timeoutMs := one_le_noTimeout },
   { name := "second"
     action := "score"
     name_stripped := second_stripped
     action_stripped := score_stripped
     condition_stripped := noCondition_stripped
     one_le_timeoutMs := one_le_noTimeout }]

lemma rankThenScore_ne : rankThenScore ≠ [] := List.cons_ne_nil _ _

lemma rankThenScore_nodup : (rankThenScore.map fun step => normalize step.name).Nodup := by
  decide +kernel

/-- The workflow `name` of those steps. -/
def WorkflowDefinition.ranking (name : String) : WorkflowDefinition where
  name := name
  steps := rankThenScore
  steps_ne := rankThenScore_ne
  names_nodup := rankThenScore_nodup

end ConstellationGate
