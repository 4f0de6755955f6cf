import ConstellationGate.Orchestration.WorkflowLoader
import Mathlib.Data.List.Forall2

/-!
# The names of loaded steps

A step without a name is named after its action and its position.  Two names that are made in this
way end in different numbers, but such a name may be the one that another step was given, and then
the whole workflow is refused.  A mapping whose steps and given names are in order is loaded exactly
when that does not happen (`name_synthesis_iff`).
-/

namespace ConstellationGate

/-- Where the name of a step comes from. -/
inductive StepLabel
  | given (name : String)
  | synthesized (action : String) (position : ℕ)

/-- The name as it is compared with other names. -/
def StepLabel.key : StepLabel → String
  | given name => normalize name
  | synthesized action position => Text.numbered (normalize action) position

/-- The label of the step at an index: its name, or its action and position. -/
def stepLabel (index : ℕ) : Yaml → Option StepLabel
  | .dict entries =>
    match (Mapping.of entries).get? (.str "name"), (Mapping.of entries).get? (.str "action") with
    | some (.scalar (.str name)), _ => some (.given name)
    | none, some (.scalar (.str action)) => some (.synthesized action (index + 1))
    | _, _ => none
  | _ => none

def stepLabels (steps : List Yaml) : List StepLabel :=
  steps.zipIdx.filterMap fun e => stepLabel e.2 e.1

def givenNames (steps : List Yaml) : List String :=
  (stepLabels steps).filterMap fun
    | .given name => some name
    | .synthesized .. => none

/-- No name that is given is one that is made for another step. -/
def SynthesizedFree (steps : List Yaml) : Prop :=
  ∀ name action position, .given name ∈ stepLabels steps →
    .synthesized action position ∈ stepLabels steps →
    normalize name ≠ Text.numbered (normalize action) position

namespace WorkflowStep

/-- The transform of a step, under its current or its legacy key. -/
def givenTransform (raw : Mapping) : Except String MergeStrategy :=
  if raw.contains (.str "merge_strategy") then mergeStrategyField raw
  else
    defaultedField raw "payload_transform" .mergePayload
      fun value => do mergeStrategyNamed (← readString value)

/-- The step has the fields of the mapping, and its name if it has one. -/
structure Same (lax : LaxMode) (raw : Mapping) (step : WorkflowStep) : Prop where
  name : raw.contains (.str "name") = true → (nameField raw).map Subtype.val = .ok step.name
  action : (actionField raw).map Subtype.val = .ok step.action
  timeoutMs : (timeoutField lax raw).map (Option.map Subtype.val) = .ok step.timeoutMs
  mergeStrategy : givenTransform raw = .ok step.mergeStrategy
  condition : (conditionField raw).map (Option.map Subtype.val) = .ok step.condition

/-- The same steps in the same order. -/
def SameSteps (lax : LaxMode) (items : List Yaml) (steps : List WorkflowStep) : Prop :=
  List.Forall₂ (fun item step => ∃ entries, item = .dict entries ∧ Same lax (.of entries) step)
    items steps

/-! ### Validation of a step -/

variable {lax : LaxMode} {raw raw' : Mapping} {step : WorkflowStep}

lemma of_validate (h : validate lax raw = .ok step) :
    ∃ name action timeoutMs mergeStrategy condition, nameField raw = .ok name ∧
      actionField raw = .ok action ∧ timeoutField lax raw = .ok timeoutMs ∧
      mergeStrategyField raw = .ok mergeStrategy ∧ conditionField raw = .ok condition ∧
      step = ofFields name action timeoutMs mergeStrategy condition := by
  simp only [validate] at h
  split at h
  · rename_i name action timeoutMs mergeStrategy condition hname haction htimeout hstrategy
      hcondition hunknown
    exact ⟨name, action, timeoutMs, mergeStrategy, condition, hname, haction, htimeout, hstrategy,
      hcondition, (Except.ok.inj h).symm⟩
  · cases h

lemma of_readNonBlank {value : Yaml} {s : NonBlank} (h : readNonBlank value = .ok s) :
    ∃ text, value = .scalar (.str text) ∧ s.1 = Text.strip text ∧ Text.strip text ≠ "" := by
  unfold readNonBlank at h
  rcases hread : readString value with e | text
  · rw [hread] at h
    cases h
  rw [hread] at h
  have hvalue : value = .scalar (.str text) := by
    unfold readString at hread
    split at hread
    · rw [Except.ok.inj hread]
    · cases hread
  have hblank : nonBlank text = .ok s := h
  unfold nonBlank at hblank
  split at hblank
  · cases hblank
  · rename_i hne
    rw [← Except.ok.inj hblank]
    exact ⟨text, hvalue, rfl, hne⟩

lemma of_requiredField {α : Type} {field : String} {read : Yaml → Except String α} {a : α}
    (h : requiredField raw field read = .ok a) :
    ∃ value, raw.get? (.str field) = some value ∧ read value = .ok a := by
  unfold requiredField at h
  split at h
  · rename_i value hvalue
    exact ⟨value, hvalue, h⟩
  · cases h

/-! ### What normalisation leaves alone -/

lemma get?_renameTransform {key : Scalar} (hlegacy : key ≠ .str "payload_transform")
    (hcurrent : key ≠ .str "merge_strategy") (raw : Mapping) :
    (renameTransform raw).get? key = raw.get? key := by
  unfold renameTransform
  split
  · rfl
  split
  · rw [Dict.get?_set, if_neg hcurrent, Dict.get?_erase, if_neg hlegacy]
  · rfl

lemma get?_synthesizeName {key : Scalar} (hkey : key ≠ .str "name") (index : ℕ) (raw : Mapping) :
    (synthesizeName index raw).get? key = raw.get? key := by
  unfold synthesizeName
  split
  · rfl
  split
  · rw [Dict.get?_set, if_neg hkey]
  · rfl

/-- The mapping from which a step is validated. -/
def normalized (index : ℕ) (raw : Mapping) : Mapping := synthesizeName index (renameTransform raw)

lemma get?_normalized {field : String}
    (hfield : field ∉ ["name", "payload_transform", "merge_strategy"]) (index : ℕ) (raw : Mapping) :
    (normalized index raw).get? (.str field) = raw.get? (.str field) := by
  simp only [List.mem_cons, List.not_mem_nil, or_false, not_or] at hfield
  obtain ⟨hname, hlegacy, hcurrent⟩ := hfield
  rw [normalized, get?_synthesizeName (mt Scalar.str.inj hname),
    get?_renameTransform (mt Scalar.str.inj hlegacy) (mt Scalar.str.inj hcurrent)]

lemma validateItem_normalizeStep (lax : LaxMode) (index : ℕ) (entries : List (Scalar × Yaml)) :
    validateItem lax (normalizeStep index (.dict entries)) =
      validate lax (normalized index (.of entries)) := by
  rw [normalizeStep, validateItem, ← normalized, Mapping.of, Dict.update_entries]

lemma requiredField_congr {α : Type} {field : String}
    (h : raw.get? (.str field) = raw'.get? (.str field)) (read : Yaml → Except String α) :
    requiredField raw field read = requiredField raw' field read := by
  rw [requiredField, h, requiredField]

lemma defaultedField_congr {α : Type} {field field' : String}
    (h : raw.get? (.str field) = raw'.get? (.str field')) (default : α)
    (read : Yaml → Except String α) :
    defaultedField raw field default read = defaultedField raw' field' default read := by
  rw [defaultedField, h, defaultedField]

/-- The transform is found under its current key. -/
lemma mergeStrategyField_normalized (index : ℕ) (raw : Mapping) :
    mergeStrategyField (normalized index raw) = givenTransform raw := by
  have hframe : (normalized index raw).get? (.str "merge_strategy") =
      (renameTransform raw).get? (.str "merge_strategy") :=
    get?_synthesizeName (by decide) index _
  unfold givenTransform
  split
  · rename_i hcurrent
    refine defaultedField_congr (hframe.trans ?_) _ _
    rw [renameTransform, if_pos hcurrent]
  · rename_i hcurrent
    refine defaultedField_congr (hframe.trans ?_) _ _
    rw [renameTransform, if_neg hcurrent]
    rcases hlegacy : raw.get? (.str "payload_transform") with _ | transform
    · simpa [Dict.contains] using hcurrent
    · exact Dict.get?_set_self _ _ _

lemma get?_name_of_contains {index : ℕ} (h : raw.contains (.str "name") = true) :
    (normalized index raw).get? (.str "name") = raw.get? (.str "name") := by
  have hrename : (renameTransform raw).get? (.str "name") = raw.get? (.str "name") :=
    get?_renameTransform (by decide) (by decide) raw
  rw [normalized, synthesizeName, if_pos, hrename]
  rwa [Dict.contains, hrename]

lemma get?_name_of_action {index : ℕ} {action : String} (h : raw.get? (.str "name") = none)
    (haction : raw.get? (.str "action") = some (.scalar (.str action))) :
    (normalized index raw).get? (.str "name") =
      some (.scalar (.str (Text.numbered (normalize action) (index + 1)))) := by
  have hname : (renameTransform raw).get? (.str "name") = none :=
    (get?_renameTransform (by decide) (by decide) raw).trans h
  have haction' : (renameTransform raw).get? (.str "action") = some (.scalar (.str action)) :=
    (get?_renameTransform (by decide) (by decide) raw).trans haction
  rw [normalized, synthesizeName, if_neg (by simp [Dict.contains, hname]), haction']
  exact Dict.get?_set_self _ _ _

/-! ### One step -/

variable {index : ℕ} {entries : List (Scalar × Yaml)}

/-- A step that validates has the fields of its mapping. -/
lemma same_of_validate (h : validate lax (normalized index raw) = .ok step) :
    Same lax raw step := by
  obtain ⟨name, action, timeoutMs, mergeStrategy, condition, hname, haction, htimeout, hstrategy,
    hcondition, rfl⟩ := of_validate h
  refine ⟨fun hcontains => ?_, ?_, ?_, ?_, ?_⟩
  · rw [nameField, ← requiredField_congr (get?_name_of_contains hcontains), ← nameField, hname]
    rfl
  · rw [actionField, ← requiredField_congr (get?_normalized (by decide) index raw), ← actionField,
      haction]
    rfl
  · rw [timeoutField, ← defaultedField_congr (get?_normalized (by decide) index raw),
      ← timeoutField, htimeout]
    rfl
  · rw [← mergeStrategyField_normalized index, hstrategy]
    rfl
  · rw [conditionField, ← defaultedField_congr (get?_normalized (by decide) index raw),
      ← conditionField, hcondition]
    rfl

/-- The name of a step that validates is the one of its label. -/
lemma label_of_validate (h : validate lax (normalized index (.of entries)) = .ok step) :
    ∃ label, stepLabel index (.dict entries) = some label ∧
      normalize step.name = label.key := by
  obtain ⟨name, action, timeoutMs, mergeStrategy, condition, hname, haction, -, -, -, rfl⟩ :=
    of_validate h
  obtain ⟨value, hvalue, hread⟩ := of_requiredField hname
  obtain ⟨text, rfl, htext, -⟩ := of_readNonBlank hread
  have hlabel : normalize (ofFields name action timeoutMs mergeStrategy condition).name =
      normalize text := by
    change normalize name.1 = normalize text
    rw [htext, Text.normalize_strip]
  rw [stepLabel, hlabel]
  rcases hgiven : (Mapping.of entries).get? (.str "name") with _ | given
  · -- without a name the action gives one
    obtain ⟨value', hvalue', hread'⟩ := of_requiredField haction
    obtain ⟨text', rfl, -, hblank⟩ := of_readNonBlank hread'
    rw [get?_normalized (by decide)] at hvalue'
    rw [get?_name_of_action hgiven hvalue'] at hvalue
    obtain rfl : Text.numbered (normalize text') (index + 1) = text := by
      simpa using hvalue
    refine ⟨.synthesized text' (index + 1), by simp [hvalue'], ?_⟩
    exact Text.normalize_numbered (mt Text.normalize_eq_empty_iff.1 hblank) _
  · have hcontains : (Mapping.of entries).contains (.str "name") = true := by
      rw [Dict.contains, hgiven]
      rfl
    rw [get?_name_of_contains hcontains, hgiven] at hvalue
    obtain rfl := Option.some.inj hvalue
    exact ⟨.given text, rfl, rfl⟩

/-! ### All steps -/

lemma of_validateItem {item : Yaml} (h : validateItem lax (normalizeStep index item) = .ok step) :
    ∃ entries, item = .dict entries ∧ validate lax (normalized index (.of entries)) = .ok step := by
  cases item with
  | scalar s => cases h
  | list items => cases h
  | dict entries =>
    rw [validateItem_normalizeStep] at h
    exact ⟨entries, rfl, h⟩

lemma validateItems_of_forall₂ {items : List Yaml} {steps : List WorkflowStep}
    (h : List.Forall₂ (fun item step => validateItem lax item = .ok step) items steps)
    (index : ℕ) : validateItems lax index items = .ok steps := by
  induction h generalizing index with
  | nil => rfl
  | cons hitem _ ih => rw [validateItems, hitem, ih]

/-- The items, with their positions, validate to the steps. -/
def Validated (lax : LaxMode) (items : List (Yaml × ℕ)) (steps : List WorkflowStep) : Prop :=
  List.Forall₂ (fun e step => validateItem lax (normalizeStep e.2 e.1) = .ok step) items steps

variable {items : List (Yaml × ℕ)} {steps : List WorkflowStep}

lemma exists_validated
    (h : ∀ e ∈ items, ∃ step, validateItem lax (normalizeStep e.2 e.1) = .ok step) :
    ∃ steps, Validated lax items steps := by
  induction items with
  | nil => exact ⟨[], .nil⟩
  | cons e items ih =>
    rw [List.forall_mem_cons] at h
    obtain ⟨step, hstep⟩ := h.1
    obtain ⟨steps, hsteps⟩ := ih h.2
    exact ⟨step :: steps, .cons hstep hsteps⟩

namespace Validated

lemma sameSteps (h : Validated lax items steps) : SameSteps lax (items.map Prod.fst) steps := by
  induction h with
  | nil => exact .nil
  | cons hitem _ ih =>
    obtain ⟨entries, hentries, hvalidate⟩ := of_validateItem hitem
    exact .cons ⟨entries, hentries, same_of_validate hvalidate⟩ ih

/-- The names of the steps are those of the labels. -/
lemma map_key (h : Validated lax items steps) :
    (items.filterMap fun e => stepLabel e.2 e.1).map StepLabel.key =
      steps.map fun step => normalize step.name := by
  induction h with
  | nil => rfl
  | cons hitem _ ih =>
    obtain ⟨entries, hentries, hvalidate⟩ := of_validateItem hitem
    obtain ⟨label, hlabel, hkey⟩ := label_of_validate hvalidate
    rw [← hentries] at hlabel
    rw [List.filterMap_cons, hlabel, List.map_cons, List.map_cons, ih, hkey]

lemma validateItems {items : List Yaml} (h : Validated lax items.zipIdx steps) (index : ℕ) :
    WorkflowStep.validateItems lax index (items.mapIdx normalizeStep) = .ok steps := by
  refine validateItems_of_forall₂ ?_ index
  rw [List.mapIdx_eq_zipIdx_map, List.forall₂_map_left_iff]
  exact h

end Validated

end WorkflowStep

/-! ### Distinct names -/

variable {steps : List Yaml}

/-- Two names that are made end in different numbers. -/
lemma pairwise_positions (steps : List Yaml) :
    (stepLabels steps).Pairwise fun label label' => ∀ action position action' position',
      label = .synthesized action position → label' = .synthesized action' position' →
      position ≠ position' := by
  have hposition : ∀ {e : Yaml × ℕ} {action position},
      stepLabel e.2 e.1 = some (.synthesized action position) → position = e.2 + 1 := by
    intro e action position h
    unfold stepLabel at h
    split at h
    · split at h
      · cases h
      · cases h
        rfl
      · cases h
    · cases h
  have hindices : steps.zipIdx.Pairwise fun e e' => e.2 ≠ e'.2 := by
    have hnodup : (steps.zipIdx.map Prod.snd).Nodup := by
      rw [List.zipIdx_map_snd]
      exact List.nodup_range'
    exact List.pairwise_map.1 hnodup
  refine List.pairwise_filterMap.2 (hindices.imp fun hne label hlabel label' hlabel' => ?_)
  rintro action position action' position' rfl rfl
  rw [hposition hlabel, hposition hlabel']
  omega

/-- The names are distinct exactly when no given one is made for another step. -/
theorem nodup_keys_iff (hgiven : ((givenNames steps).map normalize).Nodup) :
    ((stepLabels steps).map StepLabel.key).Nodup ↔ SynthesizedFree steps := by
  constructor
  · intro hnodup name action position hname haction hkey
    have hsame := List.inj_on_of_nodup_map hnodup hname haction hkey
    cases hsame
  · intro hfree
    have hgiven := List.pairwise_filterMap.1 (List.pairwise_map.1 hgiven)
    refine List.pairwise_map.2 (((pairwise_positions steps).and hgiven).imp_of_mem ?_)
    rintro (name | ⟨action, position⟩) (name' | ⟨action', position'⟩) hmem hmem' ⟨hsynth, hgiven⟩
    · exact hgiven name rfl name' rfl
    · exact hfree name action' position' hmem hmem'
    · exact (hfree name' action position hmem' hmem).symm
    · intro hkey
      exact hsynth action position action' position' rfl rfl (Text.numbered_inj.1 hkey).2

/-! ### The definition -/

/-- A workflow that nothing but the names of its steps can make invalid: its fields validate, so
does each of its steps, and the names that are given are distinct. -/
structure ValidOnItsOwn (lax : LaxMode) (defn : Mapping) (steps : List Yaml) : Prop where
  name : ∃ name, WorkflowDefinition.nameField defn = .ok name
  description : ∃ description, WorkflowDefinition.descriptionField defn = .ok description
  known : unknownKeys defn ["name", "description", "steps"] = []
  steps_eq : defn.get? (.str "steps") = some (.list steps)
  steps_ne : steps ≠ []
  each : ∀ e ∈ steps.zipIdx,
    ∃ step, WorkflowStep.validateItem lax (normalizeStep e.2 e.1) = .ok step
  given_distinct : ((givenNames steps).map normalize).Nodup

namespace WorkflowDefinition

lemma validateSteps_eq {steps : List WorkflowStep} (hne : steps ≠ [])
    (hnodup : (steps.map fun step => normalize step.name).Nodup) :
    validateSteps steps = .ok ⟨steps, hne, hnodup⟩ := by
  rw [validateSteps, dif_neg hne, dif_pos hnodup]

lemma of_validateSteps {steps : List WorkflowStep} {checked : Steps}
    (h : validateSteps steps = .ok checked) : checked.1 = steps := by
  unfold validateSteps at h
  split at h
  · cases h
  split at h
  · rw [← Except.ok.inj h]
  · cases h

/-- A definition whose other fields validate is decided by its steps. -/
lemma validate_of_fields {lax : LaxMode} {raw : Mapping} {name description : String}
    (hname : nameField raw = .ok name) (hdescription : descriptionField raw = .ok description)
    (hknown : unknownKeys raw ["name", "description", "steps"] = []) :
    validate lax raw = (stepsField lax raw).map fun steps =>
      { name := name, description := description, steps := steps.1, steps_ne := steps.2.1,
        names_nodup := steps.2.2 } := by
  rw [validate, hname, hdescription, hknown]
  rcases stepsField lax raw with errors | steps
  · simp [fieldError, Except.map]
  · rfl

/-- What a mapping is loaded to depends on the names of its steps alone. -/
lemma validate_normalized {lax : LaxMode} {defn : Mapping} (h : ValidOnItsOwn lax defn steps)
    {loaded : List WorkflowStep} (hloaded : WorkflowStep.Validated lax steps.zipIdx loaded) :
    ∃ name description, validate lax (normalizeWorkflowSteps defn) =
      (validateSteps loaded).map fun checked =>
        { name := name, description := description, steps := checked.1, steps_ne := checked.2.1,
          names_nodup := checked.2.2 } := by
  obtain ⟨name, hname⟩ := h.name
  obtain ⟨description, hdescription⟩ := h.description
  have hnormal : normalizeWorkflowSteps defn =
      defn.set (.str "steps") (.list (steps.mapIdx normalizeStep)) := by
    rw [normalizeWorkflowSteps, h.steps_eq]
  have hframe : ∀ key, key ≠ .str "steps" →
      (normalizeWorkflowSteps defn).get? key = defn.get? key := by
    intro key hkey
    rw [hnormal, Dict.get?_set, if_neg hkey]
  have hname' : nameField (normalizeWorkflowSteps defn) = .ok name := by
    rw [nameField, WorkflowStep.requiredField_congr (hframe _ (by decide)), ← nameField, hname]
  have hdescription' : descriptionField (normalizeWorkflowSteps defn) = .ok description := by
    rw [descriptionField, WorkflowStep.defaultedField_congr (hframe _ (by decide)),
      ← descriptionField, hdescription]
  have hknown :
      unknownKeys (normalizeWorkflowSteps defn) ["name", "description", "steps"] = [] := by
    have hsteps : defn.contains (.str "steps") = true := by
      rw [Dict.contains, h.steps_eq]
      rfl
    rw [unknownKeys, hnormal, Dict.keys_set_of_contains hsteps, ← unknownKeys, h.known]
  have hfield : stepsField lax (normalizeWorkflowSteps defn) = validateSteps loaded := by
    rw [stepsField, hnormal, Dict.get?_set_self]
    simp only [hloaded.validateItems 0]
    rfl
  exact ⟨name, description, by rw [validate_of_fields hname' hdescription' hknown, hfield]⟩

end WorkflowDefinition

/-- A workflow mapping that is valid on its own is loaded, with its steps as they are, exactly when
no name that is given to a step is made for another one. -/
theorem name_synthesis_iff {lax : LaxMode} {defn : Mapping} (h : ValidOnItsOwn lax defn steps) :
    (∃ d, WorkflowDefinition.validate lax (normalizeWorkflowSteps defn) = .ok d ∧
      WorkflowStep.SameSteps lax steps d.steps) ↔ SynthesizedFree steps := by
  obtain ⟨loaded, hloaded⟩ := WorkflowStep.exists_validated h.each
  obtain ⟨name, description, hvalidate⟩ := WorkflowDefinition.validate_normalized h hloaded
  have hkeys : (stepLabels steps).map StepLabel.key =
      loaded.map fun step => normalize step.name := hloaded.map_key
  rw [hvalidate, ← nodup_keys_iff h.given_distinct, hkeys]
  constructor
  · rintro ⟨d, hd, -⟩
    rcases hchecked : WorkflowDefinition.validateSteps loaded with errors | checked
    · rw [hchecked] at hd
      cases hd
    · rw [← WorkflowDefinition.of_validateSteps hchecked]
      exact checked.2.2
  · intro hnodup
    have hne : loaded ≠ [] := by
      have hlength := List.Forall₂.length_eq hloaded
      rw [List.length_zipIdx] at hlength
      exact List.ne_nil_of_length_pos (hlength ▸ List.length_pos_of_ne_nil h.steps_ne)
    rw [WorkflowDefinition.validateSteps_eq hne hnodup]
    refine ⟨_, rfl, ?_⟩
    simpa using hloaded.sameSteps

/-! ### A name that is given and made -/

/-- The steps `enrich`, under a name, and `score`, in the legacy syntax and without one. -/
def mixedSteps (name : String) : List Yaml :=
  [.dict [(.str "name", .scalar (.str name)), (.str "action", .scalar (.str "enrich"))],
   .dict [(.str "action", .scalar (.str "score")),
     (.str "payload_transform", .scalar (.str "merge_results"))]]

def mixedWorkflow (name : String) : Mapping :=
  .of [(.str "name", .scalar (.str "full_pipeline")), (.str "steps", .list (mixedSteps name))]

/-- No scalar but an integer is taken for one. -/
def strictIntegers : LaxMode := fun _ => none

lemma ok_of_isOk {ε α : Type} {x : Except ε α} (h : x.isOk = true) : ∃ a, x = .ok a := by
  rcases x with e | a
  · cases h
  · exact ⟨a, rfl⟩

/-- The errors of a validation. -/
def errorsOf {α : Type} : Except (List FieldError) α → Option (List FieldError)
  | .error errors => some errors
  | .ok _ => none

lemma error_of_errors {α : Type} {x : Except (List FieldError) α} {errors : List FieldError}
    (h : errorsOf x = some errors) : x = .error errors := by
  rcases x with errors' | a
  · rw [Option.some.inj h]
  · cases h

lemma validOnItsOwn_mixed {name : String}
    (hname : (WorkflowDefinition.nameField (mixedWorkflow name)).isOk = true)
    (hdescription : (WorkflowDefinition.descriptionField (mixedWorkflow name)).isOk = true)
    (hknown : unknownKeys (mixedWorkflow name) ["name", "description", "steps"] = [])
    (heach : ∀ i < 2, ∀ item ∈ (mixedSteps name)[i]?,
      (WorkflowStep.validateItem strictIntegers (normalizeStep i item)).isOk = true) :
    ValidOnItsOwn strictIntegers (mixedWorkflow name) (mixedSteps name) where
  name := ok_of_isOk hname
  description := ok_of_isOk hdescription
  known := hknown
  steps_eq := rfl
  steps_ne := List.cons_ne_nil _ _
  each := by
    rintro ⟨item, i⟩ he
    have hitem := List.mem_zipIdx_iff_getElem?.1 he
    exact ok_of_isOk (heach i (List.getElem?_eq_some_iff.1 hitem).1 item hitem)
  given_distinct := List.nodup_singleton _

/-- A legacy step beside a named one. -/
theorem name_synthesis_mixed :
    ∃ d, WorkflowDefinition.validate strictIntegers
        (normalizeWorkflowSteps (mixedWorkflow "first")) = .ok d ∧
      WorkflowStep.SameSteps strictIntegers (mixedSteps "first") d.steps := by
  refine (name_synthesis_iff (validOnItsOwn_mixed (by decide +kernel) (by decide +kernel)
    (by decide +kernel) (by decide +kernel))).2 ?_
  intro name action position hname haction
  have hlabels : stepLabels (mixedSteps "first") = [.given "first", .synthesized "score" 2] := rfl
  rw [hlabels] at hname haction
  obtain rfl : name = "first" := by simpa using hname
  obtain ⟨rfl, rfl⟩ : action = "score" ∧ position = 2 := by simpa using haction
  decide +kernel

/-- The first step is given the name that is made for the second one. -/
theorem score_two_refused :
    ValidOnItsOwn strictIntegers (mixedWorkflow "score-2") (mixedSteps "score-2") ∧
      WorkflowDefinition.validate strictIntegers
          (normalizeWorkflowSteps (mixedWorkflow "score-2")) =
        .error [("steps", "workflow step names must be unique")] := by
  refine ⟨validOnItsOwn_mixed (by decide +kernel) (by decide +kernel) (by decide +kernel)
    (by decide +kernel), error_of_errors ?_⟩
  decide +kernel

end ConstellationGate
