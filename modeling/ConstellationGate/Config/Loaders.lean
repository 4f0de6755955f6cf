import ConstellationGate.Config.Environment
import ConstellationGate.Orchestration.WorkflowLoader
import ConstellationGate.Routing.RegistryRuns

/-!
# Entries that replace one another

The registry file, the workflow file, the verifying keys and the caller policies are read into
dictionaries under normalised keys.  Two keys that become equal are not refused: the later entry
replaces the earlier one.  Each loader keeps all entries or raises exactly when it refuses an entry
for itself or the normalised keys are distinct (`loaders_keep_iff`).
-/

namespace ConstellationGate

open Collect

/-! ### The registry file -/

/-- The entries of a registry file, none where it is no mapping. -/
def YamlDocument.entries : YamlDocument → List (String × YamlEntry)
  | .other => []
  | .mapping entries => entries.entries

/-- `load_from_yaml` raises and leaves the registry as it is, or the registry holds one node for
each entry. -/
def NodeRegistry.LoadKeeps (reg : NodeRegistry) (doc : YamlDocument) : Prop :=
  (∃ exc, reg.loadFromYaml doc = (.error exc, reg)) ∨
    ∃ nodes, reg.loadFromYaml doc = (.ok (), ⟨nodes⟩) ∧ OnePerEntry loadEntry doc.entries nodes

lemma NodeRegistry.loadKeeps_iff (reg : NodeRegistry) (doc : YamlDocument) :
    reg.LoadKeeps doc ↔
      Refused loadEntry doc.entries ∨ (doc.entries.map fun e => normalize e.1).Nodup := by
  cases doc with
  | other => exact iff_of_true (Or.inl ⟨_, rfl⟩) (Or.inr List.nodup_nil)
  | mapping entries =>
    rw [← collect_keeps_iff fun _ _ => key_of_loadEntry, LoadKeeps, loadFromYaml, loadEntries_eq]
    rcases hload : collect loadEntry entries.entries .empty with exc | nodes <;>
      simp [Keeps, hload, YamlDocument.entries]

/-! ### The workflow file -/

/-- The workflows of a file, none where it holds no mapping of them. -/
def WorkflowFile.workflows : WorkflowFile → List (Scalar × Yaml)
  | .parsed (.dict entries) =>
    match (Mapping.of entries).get? (.str "workflows") with
    | some (.dict workflows) => (Mapping.of workflows).entries
    | _ => []
  | _ => []

lemma key_of_loadDefinition {path : String} {lax : LaxMode} {e : Scalar × Yaml}
    {e' : String × WorkflowDefinition} (h : loadDefinition path lax e = .ok e') :
    e'.1 = normalize e.1.shown := by
  obtain ⟨name, raw⟩ := e
  cases raw with
  | scalar s => cases h
  | list items => cases h
  | dict entries =>
    simp only [loadDefinition] at h
    split at h
    · rw [← Except.ok.inj h]
      rfl
    · cases h
    · cases h

lemma loadWorkflowDefinitions_keeps_iff (path : String) (lax : LaxMode) (file : WorkflowFile) :
    Keeps (loadDefinition path lax) file.workflows (loadWorkflowDefinitions path lax file) ↔
      Refused (loadDefinition path lax) file.workflows ∨
        (file.workflows.map fun e => normalize e.1.shown).Nodup := by
  rw [← collect_keeps_iff fun _ _ => key_of_loadDefinition]
  have hnone : Keeps (loadDefinition path lax) [] (.ok .empty) := Or.inr ⟨_, rfl, .nil⟩
  cases file with
  | missing => exact iff_of_true (Or.inl ⟨_, rfl⟩) hnone
  | malformed text => exact iff_of_true (Or.inl ⟨_, rfl⟩) hnone
  | parsed raw =>
    cases raw with
    | scalar s => cases s <;> first | exact Iff.rfl | exact iff_of_true (Or.inl ⟨_, rfl⟩) hnone
    | list items => exact iff_of_true (Or.inl ⟨_, rfl⟩) hnone
    | dict entries =>
      simp only [loadWorkflowDefinitions, WorkflowFile.workflows]
      rcases (Mapping.of entries).get? (.str "workflows") with _ | workflows
      · exact Iff.rfl
      · cases workflows with
        | scalar s => exact iff_of_true (Or.inl ⟨_, rfl⟩) hnone
        | list items => exact iff_of_true (Or.inl ⟨_, rfl⟩) hnone
        | dict workflows => exact Iff.rfl

/-! ### The environment -/

lemma key_of_verifyingKey {name : String} {e : String × Value} {e' : String × String}
    (h : verifyingKey name e = .ok e') : e'.1 = Text.strip e.1 := by
  obtain ⟨keyId, value⟩ := e
  unfold verifyingKey at h
  split at h
  · split at h
    · cases h
    · rename_i heq _
      rw [← Except.ok.inj h, ← (Prod.mk.inj heq).1]
  · cases h

lemma key_of_callerPolicy {name : String} {e : String × Value} {e' : String × CallerPolicy}
    (h : callerPolicy name e = .ok e') : e'.1 = Text.strip e.1 := by
  obtain ⟨keyId, record⟩ := e
  simp only [callerPolicy] at h
  split at h
  · cases h
  split at h
  · rw [← Except.ok.inj h]
  · cases h

/-- What is read from a variable, for any reading of an entry that keeps the stripped key. -/
lemma envObject_keeps_iff {ν : Type} (loads : JsonLoads) (environ : Environ) (name : String)
    {entry : String × Value → Except PyError (String × ν)}
    (hkey : ∀ e e', entry e = .ok e' → e'.1 = Text.strip e.1) :
    Keeps entry (objectEntries loads environ name) (envObject loads environ name entry) ↔
      Refused entry (objectEntries loads environ name) ∨
        ((objectEntries loads environ name).map fun e => Text.strip e.1).Nodup := by
  rw [← collect_keeps_iff hkey]
  have hnone : Keeps entry [] (.ok .empty) := Or.inr ⟨_, rfl, .nil⟩
  simp only [objectEntries, envObject]
  split
  · exact Iff.rfl
  rcases loads (Text.strip ((environ name).getD "")) with text | value
  · exact iff_of_true (Or.inl ⟨_, rfl⟩) hnone
  · cases value with
    | dict entries => exact Iff.rfl
    | _ => exact iff_of_true (Or.inl ⟨_, rfl⟩) hnone

/-- Each loader raises or keeps one entry for each that it reads exactly when it refuses an entry
for itself or the keys are distinct after their normalisation. -/
theorem loaders_keep_iff (reg : NodeRegistry) (doc : YamlDocument) (path : String) (lax : LaxMode)
    (file : WorkflowFile) (loads : JsonLoads) (environ : Environ) (name : String) :
    (reg.LoadKeeps doc ↔
      Refused NodeRegistry.loadEntry doc.entries ∨
        (doc.entries.map fun e => normalize e.1).Nodup) ∧
    (Keeps (loadDefinition path lax) file.workflows (loadWorkflowDefinitions path lax file) ↔
      Refused (loadDefinition path lax) file.workflows ∨
        (file.workflows.map fun e => normalize e.1.shown).Nodup) ∧
    (Keeps (verifyingKey name) (objectEntries loads environ name)
        (envVerifyingKeys loads environ name) ↔
      Refused (verifyingKey name) (objectEntries loads environ name) ∨
        ((objectEntries loads environ name).map fun e => Text.strip e.1).Nodup) ∧
    (Keeps (callerPolicy name) (objectEntries loads environ name)
        (envCallerPolicies loads environ name) ↔
      Refused (callerPolicy name) (objectEntries loads environ name) ∨
        ((objectEntries loads environ name).map fun e => Text.strip e.1).Nodup) := by
  refine ⟨reg.loadKeeps_iff doc, loadWorkflowDefinitions_keeps_iff path lax file, ?_, ?_⟩
  · exact envObject_keeps_iff loads environ name fun _ _ => key_of_verifyingKey
  · exact envObject_keeps_iff loads environ name fun _ _ => key_of_callerPolicy

/-! ### Two spellings of one key -/

/-- A registry file that names a node twice. -/
def twoNodes : Dict String YamlEntry where
  entries :=
    [("Score-A", .payload
        { internalUrl := "http://score-a:8000", supportedActions := ["score"] }),
     ("score-a", .payload
        { internalUrl := "http://other:8000", supportedActions := ["score"] })]
  nodup := by decide

/-- A workflow of one step. -/
def scoreWorkflow : Yaml :=
  .dict [(.str "steps", .list [.dict [(.str "action", .scalar (.str "score"))]])]

def twoWorkflows : WorkflowFile :=
  .parsed (.dict [(.str "workflows",
    .dict [(.str "Pipeline", scoreWorkflow), (.str "pipeline", scoreWorkflow)])])

/-- A `json.loads` that knows one text. -/
def loadsOne (text : String) (value : Value) : JsonLoads := fun raw =>
  if raw = text then .ok value else .error "Expecting value: line 1 column 1 (char 0)"

/-- The text of an object. -/
def objectText (members : String) : String := "\x7b" ++ members ++ "\x7d"

lemma strip_objectText (members : String) :
    Text.strip (objectText members) = objectText members := by
  have hlist : (objectText members).toList = '\x7b' :: (members.toList ++ ['\x7d']) := by
    simp [objectText]
  have hstripped : Text.Stripped (objectText members).toList := by
    rw [hlist]
    constructor
    · intro c hc
      obtain rfl := Option.some.inj hc
      decide
    · intro c hc
      rw [← List.cons_append, List.getLast?_concat] at hc
      obtain rfl := Option.some.inj hc
      decide
  exact Text.strip_of_stripped hstripped

lemma objectText_ne {members : String} (h : members ≠ "") :
    ¬ (objectText members = "" ∨ objectText members = "\x7b\x7d") := by
  rintro (hempty | hempty)
  · have hlist := congrArg String.toList hempty
    simp [objectText] at hlist
  · have hlist := congrArg String.toList hempty
    simp [objectText] at hlist
    exact h hlist

/-- The entries of a variable that holds an object. -/
lemma objectEntries_loadsOne {members : String} (h : members ≠ "")
    (entries : List (String × Value)) (name : String) :
    objectEntries (loadsOne (objectText members) (.dict entries))
        (fun _ => some (objectText members)) name =
      (Dict.empty.update entries).entries := by
  rw [objectEntries, Option.getD_some, strip_objectText, if_neg (objectText_ne h), loadsOne,
    if_pos rfl]

def keysText : String := "\"k1\": \"old\", \" k1\": \"new\""

def keysEntries : List (String × Value) := [("k1", .str "old"), (" k1", .str "new")]

def policyText (kind : String) : String :=
  objectText ("\"node\": \"client\", \"kind\": \"" ++ kind ++
    "\", \"tenants\": [\"acme\"], \"actions\": [\"score\"]")

def policyValue (kind : String) : Value :=
  .dict [("node", .str "client"), ("kind", .str kind), ("tenants", .list [.str "acme"]),
    ("actions", .list [.str "score"])]

def policiesText : String :=
  "\"k1\": " ++ policyText "consumer" ++ ", \" k1\": " ++ policyText "worker"

def policiesEntries : List (String × Value) :=
  [("k1", policyValue "consumer"), (" k1", policyValue "worker")]

/-- Each loader replaces an entry by the one under another spelling of its key. -/
theorem spellings_merged :
    ¬ NodeRegistry.empty.LoadKeeps (.mapping twoNodes) ∧
    ¬ Keeps (loadDefinition "workflows.yaml" fun _ => none) twoWorkflows.workflows
      (loadWorkflowDefinitions "workflows.yaml" (fun _ => none) twoWorkflows) ∧
    ¬ Keeps (verifyingKey "L9_VERIFYING_KEYS_JSON")
      (objectEntries (loadsOne (objectText keysText) (.dict keysEntries))
        (fun _ => some (objectText keysText)) "L9_VERIFYING_KEYS_JSON")
      (envVerifyingKeys (loadsOne (objectText keysText) (.dict keysEntries))
        (fun _ => some (objectText keysText)) "L9_VERIFYING_KEYS_JSON") ∧
    ¬ Keeps (callerPolicy "L9_KEY_ALLOWED_ACTIONS_JSON")
      (objectEntries (loadsOne (objectText policiesText) (.dict policiesEntries))
        (fun _ => some (objectText policiesText)) "L9_KEY_ALLOWED_ACTIONS_JSON")
      (envCallerPolicies (loadsOne (objectText policiesText) (.dict policiesEntries))
        (fun _ => some (objectText policiesText)) "L9_KEY_ALLOWED_ACTIONS_JSON") := by
  refine ⟨?_, ?_, ?_, ?_⟩
  · rw [NodeRegistry.loadKeeps_iff, not_or]
    exact ⟨not_refused (by decide +kernel), by decide +kernel⟩
  · rw [loadWorkflowDefinitions_keeps_iff, not_or]
    exact ⟨not_refused (by decide +kernel), by decide +kernel⟩
  · rw [envVerifyingKeys, envObject_keeps_iff _ _ _ fun _ _ => key_of_verifyingKey, not_or,
      objectEntries_loadsOne (by decide +kernel)]
    exact ⟨not_refused (by decide +kernel), by decide +kernel⟩
  · rw [envCallerPolicies, envObject_keeps_iff _ _ _ fun _ _ => key_of_callerPolicy, not_or,
      objectEntries_loadsOne (by decide +kernel)]
    exact ⟨not_refused (by decide +kernel), by decide +kernel⟩

end ConstellationGate
