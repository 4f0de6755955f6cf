import ConstellationGate.Errors
import ConstellationGate.Lib.Dict
import Mathlib.Data.List.Dedup
import Mathlib.Data.List.Sort
import Mathlib.Data.Rat.Defs
import Mathlib.Algebra.Order.Ring.Rat

/-!
# Settings

`config/settings.py`: the caller policies and the settings of a Gate process with their
validators.  A `GateSettings` value carries what its validators establish (`SettingsArgs.Valid`),
so that the ingress boundary that is wired from it can rely on it.  `Config.Environment` reads the
keys and the caller policies from the environment; how the other settings are read is left out.
-/

namespace ConstellationGate

/-- `tuple(item.strip().lower() for item in value if item.strip())`. -/
def normalizedMembers (value : List String) : List String :=
  (value.filter fun item => Text.strip item ≠ "").map normalize

lemma normalize_of_mem_members {value : List String} {item : String}
    (h : item ∈ normalizedMembers value) : normalize item = item ∧ item ≠ "" := by
  obtain ⟨raw, hraw, rfl⟩ := List.mem_map.1 h
  have hblank : Text.strip raw ≠ "" := by simpa using (List.mem_filter.1 hraw).2
  exact ⟨Text.normalize_normalize raw, fun h => hblank (Text.normalize_eq_empty_iff.1 h)⟩

/-- `f"{names}"`, for a list of strings. -/
def listRepr (names : List String) : String := "[" ++ Text.commaJoin (names.map Text.quoted) ++ "]"

/-- `sorted(set(names))`. -/
def sortedSet (names : List String) : List String := names.dedup.insertionSort (· ≤ ·)

@[simp] lemma mem_sortedSet {names : List String} {name : String} :
    name ∈ sortedSet names ↔ name ∈ names := by
  rw [sortedSet, List.mem_insertionSort, List.mem_dedup]

/-- `sorted(set(names) - set(others))`. -/
def sortedDifference (names others : List String) : List String :=
  sortedSet (names.filter fun name => name ∉ others)

lemma sortedDifference_eq_nil_iff {names others : List String} :
    sortedDifference names others = [] ↔ ∀ name ∈ names, name ∈ others := by
  rw [List.eq_nil_iff_forall_not_mem]
  refine forall_congr' fun name => ?_
  rw [sortedDifference, mem_sortedSet, List.mem_filter, decide_eq_true_eq, not_and, not_not]

/-! ### Caller policies -/

/-- What one verified signing key may claim and invoke. -/
@[ext]
structure CallerPolicy where
  node : String
  kind : String
  tenants : List String
  actions : List String
  node_normalized : normalize node = node ∧ node ≠ ""
  kind_allowed : kind ∈ ["consumer", "worker"]
  tenants_ne : tenants ≠ []
  tenants_nodup : tenants.Nodup
  tenant_normalized : ∀ tenant ∈ tenants, normalize tenant = tenant ∧ tenant ≠ ""
  actions_ne : actions ≠ []
  actions_nodup : actions.Nodup
  action_normalized : ∀ action ∈ actions, normalize action = action ∧ action ≠ ""

instance : DecidableEq CallerPolicy := fun _ _ => decidable_of_iff' _ CallerPolicy.ext_iff

namespace CallerPolicy

/-- The validator of `tenants` and of `actions`. -/
def memberError (value : List String) : Option String :=
  if normalizedMembers value = [] then some "caller policy tenants and actions must be non-empty"
  else if ¬ (normalizedMembers value).Nodup then
    some "caller policy entries must not contain duplicates"
  else none

/-- The validators, in the order of the fields: each field with its error, if it has one. -/
def fieldErrors (node kind : String) (tenants actions : List String) : List (String × String) :=
  let required := "caller policy node and kind must be non-empty"
  [("node", if normalize node = "" then some required else none),
   ("kind",
      if normalize kind = "" then some required
      else if normalize kind ∉ ["consumer", "worker"] then
        some "caller policy kind must be consumer or worker"
      else none),
   ("tenants", memberError tenants),
   ("actions", memberError actions)].filterMap fun e => e.2.map fun text => (e.1, text)

lemma of_memberError {value : List String} (h : memberError value = none) :
    normalizedMembers value ≠ [] ∧ (normalizedMembers value).Nodup := by
  unfold memberError at h
  split at h
  · cases h
  rename_i hne
  split at h
  · cases h
  rename_i hnodup
  exact ⟨hne, not_not.1 hnodup⟩

lemma of_fieldErrors {node kind : String} {tenants actions : List String}
    (h : fieldErrors node kind tenants actions = []) :
    normalize node ≠ "" ∧ normalize kind ∈ ["consumer", "worker"] ∧
      memberError tenants = none ∧ memberError actions = none := by
  rw [fieldErrors, List.filterMap_eq_nil_iff] at h
  simp only [List.forall_mem_cons, Option.map_eq_none_iff] at h
  obtain ⟨hnode, hkind, htenants, hactions, -⟩ := h
  refine ⟨fun heq => by simp [heq] at hnode, ?_, htenants, hactions⟩
  by_contra hnot
  simp only [if_pos hnot] at hkind
  split at hkind <;> cases hkind

/-- `CallerPolicy(node=…, kind=…, tenants=…, actions=…)`. -/
def create (node kind : String) (tenants actions : List String) : Except PyError CallerPolicy :=
  if h : fieldErrors node kind tenants actions = [] then
    have hv := of_fieldErrors h
    .ok { node := normalize node
          kind := normalize kind
          tenants := normalizedMembers tenants
          actions := normalizedMembers actions
          node_normalized := ⟨Text.normalize_normalize node, hv.1⟩
          kind_allowed := hv.2.1
          tenants_ne := (of_memberError hv.2.2.1).1
          tenants_nodup := (of_memberError hv.2.2.1).2
          tenant_normalized := fun _ => normalize_of_mem_members
          actions_ne := (of_memberError hv.2.2.2).1
          actions_nodup := (of_memberError hv.2.2.2).2
          action_normalized := fun _ => normalize_of_mem_members }
  else
    .error { cls := .validationError,
             message := "; ".intercalate ((fieldErrors node kind tenants actions).map fun e =>
               e.1 ++ ": " ++ e.2) }

end CallerPolicy

/-! ### Settings -/

/-- `_ALLOWED_ENVIRONMENTS`, sorted. -/
def allowedEnvironments : List String := ["dev", "local", "prod", "staging", "test"]

/-- `_TRUST_REQUIRED_ENVIRONMENTS`: an ingress trust boundary must be proven there. -/
def trustRequiredEnvironments : List String := ["staging", "prod"]

/-- `_TRUST_BOUNDARY_MODES`, sorted. -/
def trustBoundaryModes : List String := ["network", "signature"]

/-- The keyword arguments of `GateSettings`, with the defaults of its fields. -/
structure SettingsArgs where
  environment : String := "local"
  localNode : String := "gate"
  host : String := "0.0.0.0"
  port : ℤ := 9000
  healthProbeIntervalSeconds : ℚ := 15
  idempotencyTtlSeconds : ℚ := 86400
  responseMarginMs : ℤ := 500
  requireSignature : Bool := false
  devMode : Bool := false
  signingKey : Option String := none
  signingKeyId : Option String := none
  signingAlgorithm : Option String := none
  verifyingKeys : Dict String String := .empty
  callerPolicies : Dict String CallerPolicy := .empty
  allowedActions : List String := []
  allowedPacketTypes : List String := ["request", "command", "delegation", "replay_request"]
  requiredIdempotencyActions : List String := []
  allowedClockSkewSeconds : ℤ := 30
  maxPacketBytes : ℤ := 262144
  maxHopDepth : ℤ := 64
  maxDelegationDepth : ℤ := 8
  maxAttachments : ℤ := 32
  maxAttachmentSizeBytes : ℤ := 10485760
  attachmentAllowedSchemes : List String := []
  allowPrivateAttachmentHosts : Bool := false
  replayEnabled : Bool := true
  verifyHopSignatures : Bool := false
  adminToken : Option String := none
  trustedIngressBoundary : Option String := none
  trustedIngressBoundaryEvidence : Option String := none
  workflowConfigPath : Option String := none

namespace SettingsArgs

/-! #### The validators of single fields -/

/-- `Field(ge=bound)`. -/
def atLeast (bound value : ℤ) : Option String :=
  if value < bound then some ("Input should be greater than or equal to " ++ toString bound)
  else none

/-- `validate_required_strings`. -/
def requiredString (value : String) : Option String :=
  if normalize value = "" then some "field must not be empty" else none

/-- A string that may be missing, but not blank. -/
def optionalString (text : String) (value : Option String) : Option String :=
  if value.any fun s => Text.strip s = "" then some text else none

/-- `validate_tuples`. -/
def tupleEntries (value : List String) : Option String :=
  if ¬ (normalizedMembers value).Nodup then some "tuple entries must not contain duplicates"
  else none

/-- `validate_trusted_ingress_boundary`, the value: a blank one is none. -/
def boundaryMode (value : Option String) : Option String :=
  (value.map normalize).filter fun mode => mode ≠ ""

/-- `validate_verifying_keys`. -/
def keysError (keys : Dict String String) : Option String :=
  if keys.entries.any fun e => Text.strip e.1 = "" || Text.strip e.2 = "" then
    some "verifying_keys must not contain blank keys or values"
  else none

/-- `validate_verifying_keys`, the value. -/
def renderedKeys (keys : Dict String String) : Dict String String :=
  Dict.empty.update (keys.entries.map fun e => (Text.strip e.1, Text.strip e.2))

/-- The validators of the fields, in their order: each field with its error, if it has one. -/
def fieldValidators (a : SettingsArgs) : List (String × Option String) :=
  let blank := "optional string fields must not be blank"
  [("environment",
      if normalize a.environment ∉ allowedEnvironments then
        some ("environment must be one of " ++ listRepr allowedEnvironments)
      else none),
   ("local_node", requiredString a.localNode),
   ("host", requiredString a.host),
   ("port",
      if 65535 < a.port then some "Input should be less than or equal to 65535"
      else atLeast 1 a.port),
   ("health_probe_interval_seconds",
      if a.healthProbeIntervalSeconds < 0 then some "Input should be greater than or equal to 0"
      else none),
   ("idempotency_ttl_seconds",
      if a.idempotencyTtlSeconds ≤ 0 then some "Input should be greater than 0" else none),
   ("response_margin_ms", atLeast 0 a.responseMarginMs),
   ("signing_key_id", optionalString blank a.signingKeyId),
   ("signing_algorithm", optionalString blank a.signingAlgorithm),
   ("verifying_keys", keysError a.verifyingKeys),
   ("allowed_actions", tupleEntries a.allowedActions),
   ("allowed_packet_types", tupleEntries a.allowedPacketTypes),
   ("required_idempotency_actions", tupleEntries a.requiredIdempotencyActions),
   ("allowed_clock_skew_seconds", atLeast 0 a.allowedClockSkewSeconds),
   ("max_packet_bytes", atLeast 1024 a.maxPacketBytes),
   ("max_hop_depth", atLeast 1 a.maxHopDepth),
   ("max_delegation_depth", atLeast 1 a.maxDelegationDepth),
   ("max_attachments", atLeast 0 a.maxAttachments),
   ("max_attachment_size_bytes", atLeast 0 a.maxAttachmentSizeBytes),
   ("attachment_allowed_schemes", tupleEntries a.attachmentAllowedSchemes),
   ("admin_token", optionalString blank a.adminToken),
   ("trusted_ingress_boundary",
      if (boundaryMode a.trustedIngressBoundary).any fun mode => mode ∉ trustBoundaryModes then
        some ("trusted_ingress_boundary must be one of " ++ listRepr trustBoundaryModes)
      else none),
   ("workflow_config_path",
      optionalString "workflow_config_path must not be blank" a.workflowConfigPath)]

/-- The fields that do not validate, with their errors. -/
def fieldErrors (a : SettingsArgs) : List (String × String) :=
  a.fieldValidators.filterMap fun e => e.2.map fun text => (e.1, text)

/-- The values of the fields after their validators. -/
def validated (a : SettingsArgs) : SettingsArgs :=
  { a with
    environment := normalize a.environment
    localNode := normalize a.localNode
    host := normalize a.host
    signingKeyId := a.signingKeyId.map Text.strip
    signingAlgorithm := a.signingAlgorithm.map Text.strip
    verifyingKeys := renderedKeys a.verifyingKeys
    allowedActions := normalizedMembers a.allowedActions
    allowedPacketTypes := normalizedMembers a.allowedPacketTypes
    requiredIdempotencyActions := normalizedMembers a.requiredIdempotencyActions
    attachmentAllowedSchemes := normalizedMembers a.attachmentAllowedSchemes
    adminToken := a.adminToken.map Text.strip
    trustedIngressBoundary := boundaryMode a.trustedIngressBoundary
    workflowConfigPath := a.workflowConfigPath.map Text.strip }

/-! #### The validators of the whole value -/

/-- `default_signing_algorithm`, which runs before all others. -/
def defaultSigningAlgorithm (a : SettingsArgs) : SettingsArgs :=
  if (a.signingKey.any fun key => key ≠ "") && !(a.signingAlgorithm.any fun name => name ≠ "") then
    { a with signingAlgorithm := some "hmac-sha256" }
  else a

/-- `caller_policy_required`. -/
def callerPolicyRequired (a : SettingsArgs) : Bool := a.environment ∈ trustRequiredEnvironments

/-- `validate_caller_policies`. -/
def validateCallerPolicies (a : SettingsArgs) : Option String :=
  let unknown := sortedDifference a.callerPolicies.keys a.verifyingKeys.keys
  if a.callerPolicies ≠ .empty ∧ a.requireSignature = false then
    some "L9_KEY_ALLOWED_ACTIONS_JSON requires L9_REQUIRE_SIGNATURE=true"
  else if unknown ≠ [] then
    some ("L9_KEY_ALLOWED_ACTIONS_JSON names key ids not in L9_VERIFYING_KEYS_JSON: "
      ++ listRepr unknown)
  else none

/-- `validate_signing_identity`. -/
def validateSigningIdentity (a : SettingsArgs) : Option String :=
  if a.signingKey.isSome && a.signingKeyId.isNone then
    some "L9_SIGNING_KEY is set but L9_SIGNING_KEY_ID is empty"
  else if a.signingKey.isNone && a.signingKeyId.isSome then
    some "L9_SIGNING_KEY_ID is set but L9_SIGNING_KEY is empty"
  else none

/-- `validate_production_trust_boundary`. -/
def validateProductionTrustBoundary (a : SettingsArgs) : Option String :=
  if a.callerPolicyRequired = false then none
  else if a.devMode then
    some ("L9_DEV_MODE must not be enabled in environment '" ++ a.environment
      ++ "': dev mode relaxes canonical packet validation")
  else if a.requireSignature = true ∧ a.verifyingKeys = .empty then
    some ("L9_REQUIRE_SIGNATURE is enabled but L9_VERIFYING_KEYS_JSON is empty: "
      ++ "no key is available to verify against, so no signature can be trusted")
  else if a.requireSignature then none
  else if a.trustedIngressBoundary = some "network" then
    if a.trustedIngressBoundaryEvidence.any fun evidence => evidence ≠ "" then none
    else
      some ("trusted_ingress_boundary='network' requires "
        ++ "L9_TRUSTED_INGRESS_BOUNDARY_EVIDENCE naming the enforcing "
        ++ "mechanism (service mesh, private ingress, authenticating proxy)")
  else
    some ("environment '" ++ a.environment ++ "' has no proven ingress trust boundary. "
      ++ "Set L9_REQUIRE_SIGNATURE=true with L9_VERIFYING_KEYS_JSON, or declare "
      ++ "L9_TRUSTED_INGRESS_BOUNDARY=network with "
      ++ "L9_TRUSTED_INGRESS_BOUNDARY_EVIDENCE describing the external "
      ++ "authenticated boundary. Structural packet validity is not authentication.")

/-- `validate_production_admin_token`. -/
def validateProductionAdminToken (a : SettingsArgs) : Option String :=
  if a.callerPolicyRequired = false then none
  else if a.adminToken.any fun token => token ≠ "" then none
  else
    some ("environment '" ++ a.environment ++ "' requires GATE_ADMIN_TOKEN: "
      ++ "/v1/admin/register is unauthenticated without it, which lets any "
      ++ "reachable client register itself as the owner of a canonical action")

/-- `validate_caller_policy_coverage`. -/
def validateCallerPolicyCoverage (a : SettingsArgs) : Option String :=
  let missing := sortedDifference a.verifyingKeys.keys a.callerPolicies.keys
  if a.callerPolicyRequired = false then none
  else if missing ≠ [] then
    some ("staging and prod require a caller policy for every verifying key id; missing: "
      ++ listRepr missing)
  else none

/-- The validators that run after those of the fields, in their order. -/
def modelValidators (a : SettingsArgs) : List (Option String) :=
  [a.validateCallerPolicies, a.validateSigningIdentity, a.validateProductionTrustBoundary,
   a.validateProductionAdminToken, a.validateCallerPolicyCoverage]

/-- What the validators establish. -/
structure Valid (a : SettingsArgs) : Prop where
  key_ne : ∀ keyId key, a.verifyingKeys.get? keyId = some key → keyId ≠ ""
  policies_signed : a.callerPolicies ≠ .empty → a.requireSignature = true
  policies_verified : ∀ keyId, a.callerPolicies.contains keyId = true →
    a.verifyingKeys.contains keyId = true
  devMode : a.callerPolicyRequired = true → a.devMode = false
  boundary : a.callerPolicyRequired = true →
    a.requireSignature = true ∧ a.verifyingKeys ≠ .empty ∨
      a.trustedIngressBoundary = some "network" ∧
        a.trustedIngressBoundaryEvidence.any (fun evidence => evidence ≠ "") = true
  adminToken : a.callerPolicyRequired = true → a.adminToken.any (fun token => token ≠ "") = true
  covered : a.callerPolicyRequired = true → ∀ keyId, a.verifyingKeys.contains keyId = true →
    a.callerPolicies.contains keyId = true

/-! #### What the validators establish -/

/-- Key ids are not blank after `validate_verifying_keys`. -/
lemma key_ne_of_keysError {keys : Dict String String} (h : keysError keys = none)
    {keyId key : String} (hget : (renderedKeys keys).get? keyId = some key) : keyId ≠ "" := by
  unfold keysError at h
  split at h
  · cases h
  rename_i hany
  rcases Dict.get?_update hget with hmem | hget
  · obtain ⟨e, he, heq⟩ := List.mem_map.1 hmem
    obtain ⟨rfl, -⟩ := Prod.mk.inj heq
    rintro hblank
    exact hany (List.any_eq_true.2 ⟨e, he, by simp [hblank]⟩)
  · cases hget

lemma keysError_of_fieldErrors {a : SettingsArgs} (h : a.fieldErrors = []) :
    keysError a.verifyingKeys = none := by
  have hnone : ∀ e ∈ a.fieldValidators, e.2 = none := by
    intro e he
    simpa using List.filterMap_eq_nil_iff.1 h e he
  simp only [fieldValidators, List.forall_mem_cons] at hnone
  obtain ⟨-, -, -, -, -, -, -, -, -, hkeys, -⟩ := hnone
  exact hkeys

lemma of_validateCallerPolicies {a : SettingsArgs} (h : a.validateCallerPolicies = none) :
    (a.callerPolicies ≠ .empty → a.requireSignature = true) ∧
      ∀ keyId, a.callerPolicies.contains keyId = true → a.verifyingKeys.contains keyId = true := by
  unfold validateCallerPolicies at h
  simp only at h
  split at h
  · cases h
  rename_i hsigned
  split at h
  · cases h
  rename_i hunknown
  refine ⟨fun hne => ?_, fun keyId hkey => ?_⟩
  · by_contra hnot
    exact hsigned ⟨hne, by simpa using hnot⟩
  · have hmem := sortedDifference_eq_nil_iff.1 (not_not.1 hunknown)
    exact Dict.contains_eq_mem_keys.2 (hmem keyId (Dict.contains_eq_mem_keys.1 hkey))

lemma of_validateProductionTrustBoundary {a : SettingsArgs}
    (h : a.validateProductionTrustBoundary = none) (henv : a.callerPolicyRequired = true) :
    a.devMode = false ∧ (a.requireSignature = true ∧ a.verifyingKeys ≠ .empty ∨
      a.trustedIngressBoundary = some "network" ∧
        a.trustedIngressBoundaryEvidence.any (fun evidence => evidence ≠ "") = true) := by
  unfold validateProductionTrustBoundary at h
  rw [if_neg (by simp [henv])] at h
  split at h
  · cases h
  rename_i hdev
  refine ⟨by simpa using hdev, ?_⟩
  split at h
  · cases h
  rename_i hkeys
  -- either signatures are required, or the network is the boundary and there is evidence of it
  split at h
  · rename_i hsignature
    exact Or.inl ⟨hsignature, fun hempty => hkeys ⟨hsignature, hempty⟩⟩
  split at h
  swap
  · cases h
  rename_i hnetwork
  split at h
  · rename_i hevidence
    exact Or.inr ⟨hnetwork, hevidence⟩
  · cases h

lemma of_validateProductionAdminToken {a : SettingsArgs}
    (h : a.validateProductionAdminToken = none) (henv : a.callerPolicyRequired = true) :
    a.adminToken.any (fun token => token ≠ "") = true := by
  unfold validateProductionAdminToken at h
  rw [if_neg (by simp [henv])] at h
  split at h
  · assumption
  · cases h

lemma of_validateCallerPolicyCoverage {a : SettingsArgs}
    (h : a.validateCallerPolicyCoverage = none) (henv : a.callerPolicyRequired = true) :
    ∀ keyId, a.verifyingKeys.contains keyId = true → a.callerPolicies.contains keyId = true := by
  unfold validateCallerPolicyCoverage at h
  simp only at h
  rw [if_neg (by simp [henv])] at h
  split at h
  · cases h
  rename_i hmissing
  intro keyId hkey
  have hmem := sortedDifference_eq_nil_iff.1 (not_not.1 hmissing)
  exact Dict.contains_eq_mem_keys.2 (hmem keyId (Dict.contains_eq_mem_keys.1 hkey))

lemma valid_of_validators {a : SettingsArgs} (hfields : a.fieldErrors = [])
    (hmodel : a.validated.modelValidators.findSome? id = none) : a.validated.Valid := by
  rw [List.findSome?_eq_none_iff] at hmodel
  simp only [modelValidators, List.forall_mem_cons, id_eq] at hmodel
  obtain ⟨hpolicies, -, hboundary, hadmin, hcoverage, -⟩ := hmodel
  exact
    { key_ne := fun _ _ => key_ne_of_keysError (keysError_of_fieldErrors hfields)
      policies_signed := (of_validateCallerPolicies hpolicies).1
      policies_verified := (of_validateCallerPolicies hpolicies).2
      devMode := fun henv => (of_validateProductionTrustBoundary hboundary henv).1
      boundary := fun henv => (of_validateProductionTrustBoundary hboundary henv).2
      adminToken := of_validateProductionAdminToken hadmin
      covered := of_validateCallerPolicyCoverage hcoverage }

end SettingsArgs

/-- Settings that have passed their validators. -/
structure GateSettings extends SettingsArgs where
  valid : toSettingsArgs.Valid

namespace GateSettings

/-- The constructor of `GateSettings`. -/
def create (args : SettingsArgs) : Except PyError GateSettings :=
  let args := args.defaultSigningAlgorithm
  if hfields : args.fieldErrors = [] then
    match hmodel : args.validated.modelValidators.findSome? id with
    | some text => .error { cls := .validationError, message := text }
    | none =>
      .ok { args.validated with valid := SettingsArgs.valid_of_validators hfields hmodel }
  else
    .error { cls := .validationError,
             message := "; ".intercalate (args.fieldErrors.map fun e => e.1 ++ ": " ++ e.2) }

/-- `resolve_verifying_key`: a verifying key, else Gate's own signing key under its own id. -/
def resolveVerifyingKey (settings : GateSettings) : Option String → Option String
  | none => none
  | some keyId =>
    match settings.verifyingKeys.get? keyId with
    | some key => some key
    | none => if settings.signingKeyId = some keyId then settings.signingKey else none

/-- A key id with a policy is resolved to its verifying key. -/
lemma resolveVerifyingKey_of_policy (settings : GateSettings) {keyId : String}
    (h : settings.callerPolicies.contains keyId = true) :
    ∃ key, settings.verifyingKeys.get? keyId = some key ∧
      settings.resolveVerifyingKey (some keyId) = some key := by
  obtain ⟨key, hkey⟩ := Dict.contains_iff.1 (settings.valid.policies_verified keyId h)
  exact ⟨key, hkey, by rw [resolveVerifyingKey, hkey]⟩

end GateSettings

end ConstellationGate
