import ConstellationGate.Lib.Collect
import ConstellationGate.Lib.NumberedNames
import ConstellationGate.Orchestration.WorkflowModels
import Mathlib.Data.List.Indexes

/-!
# Loading workflow definitions

`_load_workflow_definitions` and `_normalize_workflow_steps` of `api/dependencies.py`, with the
validation of the models in `orchestration/workflow_models.py` from what the file holds.  The file
is taken after `yaml.safe_load`.  Which scalars are read as an integer is left to the validation
library (`LaxMode`); the text of a validation error is the list of its fields with their messages.
-/

namespace ConstellationGate

/-- A scalar of a file. -/
inductive Scalar
  | none
  | bool (b : Bool)
  | int (n : ℤ)
  | str (s : String)
  /-- A float or a date: its class, and the text as which it is shown. -/
  | other (cls shown : String)
deriving DecidableEq

/-- What a file is parsed to. -/
inductive Yaml
  | scalar (s : Scalar)
  | list (items : List Yaml)
  | dict (entries : List (Scalar × Yaml))

/-- A mapping of the file. -/
abbrev Mapping := Dict Scalar Yaml

/-- The integer for which a scalar other than an integer is taken. -/
abbrev LaxMode := Scalar → Option ℤ

namespace Scalar

/-- `str(key)`. -/
def shown : Scalar → String
  | none => "None"
  | bool b => if b then "True" else "False"
  | int n => toString n
  | str s => s
  | other _ text => text

/-- `type(key).__name__`. -/
def typeName : Scalar → String
  | none => "NoneType"
  | bool _ => "bool"
  | int _ => "int"
  | str _ => "str"
  | other cls _ => cls

end Scalar

/-- The mapping with these entries, of which a later one replaces an earlier one. -/
def Mapping.of (entries : List (Scalar × Yaml)) : Mapping := Dict.empty.update entries

/-! ### `_normalize_workflow_steps` -/

/-- The legacy key of the transform becomes the current one, unless that is given. -/
def renameTransform (step : Mapping) : Mapping :=
  if step.contains (.str "merge_strategy") then step
  else
    match step.get? (.str "payload_transform") with
    | some transform =>
      (step.erase (.str "payload_transform")).set (.str "merge_strategy") transform
    | none => step

/-- A step without a name is named after its action and its position. -/
def synthesizeName (index : ℕ) (step : Mapping) : Mapping :=
  if step.contains (.str "name") then step
  else
    match step.get? (.str "action") with
    | some (.scalar (.str action)) =>
      step.set (.str "name") (.scalar (.str (Text.numbered (normalize action) (index + 1))))
    | _ => step

/-- The body of the loop over the steps. -/
def normalizeStep (index : ℕ) : Yaml → Yaml
  | .dict entries => .dict (synthesizeName index (renameTransform (Mapping.of entries))).entries
  | step => step

/-- `_normalize_workflow_steps`. -/
def normalizeWorkflowSteps (defn : Mapping) : Mapping :=
  match defn.get? (.str "steps") with
  | some (.list steps) => defn.set (.str "steps") (.list (steps.mapIdx normalizeStep))
  | _ => defn

/-! ### The fields of the models -/

/-- An error of a validation: where, and what. -/
abbrev FieldError := String × String

/-- The error of a field, if it has one. -/
def fieldError {α : Type} (field : String) : Except String α → List FieldError
  | .error text => [(field, text)]
  | .ok _ => []

/-- A field that has no default. -/
def requiredField {α : Type} (raw : Mapping) (field : String) (read : Yaml → Except String α) :
    Except String α :=
  match raw.get? (.str field) with
  | some value => read value
  | none => .error "Field required"

/-- A field with a default, which is not validated. -/
def defaultedField {α : Type} (raw : Mapping) (field : String) (default : α)
    (read : Yaml → Except String α) : Except String α :=
  match raw.get? (.str field) with
  | some value => read value
  | none => .ok default

/-- A type `… | None`. -/
def nullable {α : Type} (read : Yaml → Except String α) : Yaml → Except String (Option α)
  | .scalar .none => .ok none
  | value => (read value).map some

/-- The type `str`. -/
def readString : Yaml → Except String String
  | .scalar (.str s) => .ok s
  | _ => .error "Input should be a valid string"

/-- The type `int`. -/
def readInt (lax : LaxMode) : Yaml → Except String ℤ
  | .scalar (.int n) => .ok n
  | .scalar s =>
    match lax s with
    | some n => .ok n
    | none => .error "Input should be a valid integer"
  | _ => .error "Input should be a valid integer"

/-- `extra="forbid"`. -/
def unknownKeys (raw : Mapping) (fields : List String) : List FieldError :=
  raw.keys.filterMap fun
    | .str key => if key ∈ fields then none else some (key, "Extra inputs are not permitted")
    | key => some (key.shown, "Keys should be strings")

/-- A string that is stripped and not blank. -/
abbrev NonBlank := { s : String // Text.strip s = s ∧ s ≠ "" }

/-- `validate_optional_strings`, for a string. -/
def nonBlank (value : String) : Except String NonBlank :=
  if h : Text.strip value = "" then .error "string fields must not be blank"
  else .ok ⟨Text.strip value, Text.strip_strip value, h⟩

lemma one_le_toNat {n : ℤ} (h : 1 ≤ n) : 1 ≤ n.toNat := by omega

/-- `Field(ge=1)`. -/
def atLeastOne (n : ℤ) : Except String { n : ℕ // 1 ≤ n } :=
  if h : 1 ≤ n then .ok ⟨n.toNat, one_le_toNat h⟩
  else .error "Input should be greater than or equal to 1"

/-- `validate_merge_strategy`. -/
def mergeStrategyNamed (value : String) : Except String MergeStrategy :=
  if normalize value = "identity" then .ok .identity
  else if normalize value = "merge_payload" then .ok .mergePayload
  else if normalize value = "merge_results" then .ok .mergeResults
  else
    .error "merge_strategy must be one of ['identity', 'merge_payload', 'merge_results']"

/-! ### `WorkflowStep` -/

namespace WorkflowStep

/-- A field `str` with `validate_optional_strings`. -/
def readNonBlank (value : Yaml) : Except String NonBlank := do nonBlank (← readString value)

def nameField (raw : Mapping) : Except String NonBlank := requiredField raw "name" readNonBlank

def actionField (raw : Mapping) : Except String NonBlank := requiredField raw "action" readNonBlank

def timeoutField (lax : LaxMode) (raw : Mapping) : Except String (Option { n : ℕ // 1 ≤ n }) :=
  defaultedField raw "timeout_ms" none (nullable fun value => do atLeastOne (← readInt lax value))

def mergeStrategyField (raw : Mapping) : Except String MergeStrategy :=
  defaultedField raw "merge_strategy" .mergePayload
    fun value => do mergeStrategyNamed (← readString value)

def conditionField (raw : Mapping) : Except String (Option NonBlank) :=
  defaultedField raw "condition" none (nullable readNonBlank)

lemma of_mem_map_val {α : Type} {p : α → Prop} (o : Option { a // p a }) :
    ∀ a ∈ o.map Subtype.val, p a := by
  rintro a ha
  obtain ⟨b, -, rfl⟩ := Option.map_eq_some_iff.1 ha
  exact b.2

/-- The step with these fields. -/
def ofFields (name action : NonBlank) (timeoutMs : Option { n : ℕ // 1 ≤ n })
    (mergeStrategy : MergeStrategy) (condition : Option NonBlank) : WorkflowStep where
  name := name.1
  action := action.1
  timeoutMs := timeoutMs.map Subtype.val
  mergeStrategy := mergeStrategy
  condition := condition.map Subtype.val
  name_stripped := name.2
  action_stripped := action.2
  condition_stripped := of_mem_map_val condition
  one_le_timeoutMs := of_mem_map_val timeoutMs

/-- `WorkflowStep.model_validate`. -/
def validate (lax : LaxMode) (raw : Mapping) : Except (List FieldError) WorkflowStep :=
  let unknown :=
    unknownKeys raw ["name", "action", "timeout_ms", "merge_strategy", "condition"]
  match nameField raw, actionField raw, timeoutField lax raw, mergeStrategyField raw,
    conditionField raw, unknown with
  | .ok name, .ok action, .ok timeoutMs, .ok mergeStrategy, .ok condition, [] =>
    .ok (ofFields name action timeoutMs mergeStrategy condition)
  | name, action, timeoutMs, mergeStrategy, condition, unknown =>
    .error (fieldError "name" name ++ fieldError "action" action
      ++ fieldError "timeout_ms" timeoutMs ++ fieldError "merge_strategy" mergeStrategy
      ++ fieldError "condition" condition ++ unknown)

/-- The validation of an item of the steps. -/
def validateItem (lax : LaxMode) : Yaml → Except (List FieldError) WorkflowStep
  | .dict entries => validate lax (Mapping.of entries)
  | _ => .error [("", "Input should be a valid dictionary or instance of WorkflowStep")]

/-- The validation of the items from a position on, all of whose errors are collected. -/
def validateItems (lax : LaxMode) : ℕ → List Yaml → Except (List FieldError) (List WorkflowStep)
  | _, [] => .ok []
  | index, item :: items =>
    let located (errors : List FieldError) :=
      errors.map fun e => ("steps." ++ toString index ++ "." ++ e.1, e.2)
    match validateItem lax item, validateItems lax (index + 1) items with
    | .ok step, .ok steps => .ok (step :: steps)
    | .error errors, .ok _ => .error (located errors)
    | .ok _, .error errors => .error errors
    | .error errors, .error errors' => .error (located errors ++ errors')

end WorkflowStep

/-! ### `WorkflowDefinition` -/

namespace WorkflowDefinition

/-- `validate_strings`. -/
def definitionString (value : Yaml) : Except String String := do
  let s ← readString value
  if s = "" then pure s
  else if Text.strip s = "" then throw "string fields must not be blank"
  else pure (Text.strip s)

def nameField (raw : Mapping) : Except String String := requiredField raw "name" definitionString

def descriptionField (raw : Mapping) : Except String String :=
  defaultedField raw "description" "" definitionString

/-- The steps of a definition. -/
abbrev Steps :=
  { steps : List WorkflowStep // steps ≠ [] ∧ (steps.map fun step => normalize step.name).Nodup }

/-- `validate_steps`. -/
def validateSteps (steps : List WorkflowStep) : Except (List FieldError) Steps :=
  if hne : steps = [] then .error [("steps", "workflow must contain at least one step")]
  else if hnodup : (steps.map fun step => normalize step.name).Nodup then .ok ⟨steps, hne, hnodup⟩
  else .error [("steps", "workflow step names must be unique")]

def stepsField (lax : LaxMode) (raw : Mapping) : Except (List FieldError) Steps :=
  match raw.get? (.str "steps") with
  | some (.list items) => do validateSteps (← WorkflowStep.validateItems lax 0 items)
  | some _ => .error [("steps", "Input should be a valid tuple")]
  | none => .error [("steps", "Field required")]

/-- `WorkflowDefinition.model_validate`. -/
def validate (lax : LaxMode) (raw : Mapping) : Except (List FieldError) WorkflowDefinition :=
  let unknown := unknownKeys raw ["name", "description", "steps"]
  match nameField raw, descriptionField raw, stepsField lax raw, unknown with
  | .ok name, .ok description, .ok steps, [] =>
    .ok { name := name, description := description, steps := steps.1, steps_ne := steps.2.1,
          names_nodup := steps.2.2 }
  | name, description, steps, unknown =>
    .error (fieldError "name" name ++ fieldError "description" description
      ++ (match steps with
          | .error errors => errors
          | .ok _ => [])
      ++ unknown)

end WorkflowDefinition

/-! ### `_load_workflow_definitions` -/

/-- What the path of the workflow file leads to. -/
inductive WorkflowFile
  | missing
  | malformed (text : String)
  | parsed (raw : Yaml)

/-- The mapping of a workflow, with the name under which it stands unless it has one. -/
def injectName (name : Scalar) (defn : Mapping) : Mapping :=
  if defn.contains (.str "name") then defn
  else (Dict.empty.set (.str "name") (.scalar name)).update defn.entries

/-- The body of the loop over the workflows. -/
def loadDefinition (path : String) (lax : LaxMode) :
    Scalar × Yaml → Except PyError (String × WorkflowDefinition)
  | (name, .dict entries) =>
    let failed (text : String) : PyError :=
      { cls := .valueError,
        message := "'" ++ path ++ "': workflow '" ++ name.shown ++ "' failed validation: "
          ++ text }
    match WorkflowDefinition.validate lax
        (normalizeWorkflowSteps (injectName name (Mapping.of entries))), name with
    | .ok defn, .str key => .ok (normalize key, defn)
    | .ok _, key =>
      .error (failed ("'" ++ key.typeName ++ "' object has no attribute 'strip'"))
    | .error errors, _ =>
      .error (failed ("; ".intercalate (errors.map fun e => e.1 ++ ": " ++ e.2)))
  | (name, _) =>
    .error { cls := .valueError,
             message := "'" ++ path ++ "': workflow '" ++ name.shown
               ++ "' must be a YAML mapping" }

/-- `_load_workflow_definitions`. -/
def loadWorkflowDefinitions (path : String) (lax : LaxMode) :
    WorkflowFile → Except PyError (Dict String WorkflowDefinition)
  | .missing =>
    .error { cls := .valueError,
             message := "GATE_WORKFLOW_CONFIG_PATH is set to '" ++ path
               ++ "' but the file does not exist. "
               ++ "Fix the path or unset GATE_WORKFLOW_CONFIG_PATH to disable workflows." }
  | .malformed text =>
    .error { cls := .valueError,
             message := "GATE_WORKFLOW_CONFIG_PATH '" ++ path ++ "' is not valid YAML: " ++ text }
  | .parsed (.scalar .none) => .ok .empty
  | .parsed (.dict entries) =>
    match (Mapping.of entries).get? (.str "workflows") with
    | none => .ok .empty
    | some (.dict workflows) =>
      Collect.collect (loadDefinition path lax) (Mapping.of workflows).entries .empty
    | some _ =>
      .error { cls := .valueError,
               message := "'" ++ path ++ "': 'workflows' key must be a YAML mapping" }
  | .parsed _ =>
    .error { cls := .valueError,
             message := "GATE_WORKFLOW_CONFIG_PATH '" ++ path
               ++ "' must be a YAML mapping at the top level" }

end ConstellationGate
