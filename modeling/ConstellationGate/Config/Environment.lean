import ConstellationGate.Config.Settings
import ConstellationGate.Lib.Collect
import ConstellationGate.Transport.Packet

/-!
# Keys and caller policies from the environment

`_env_verifying_keys`, `_caller_policy_from_json` and `_env_caller_policies` of
`config/settings.py`, over any `json.loads`: it returns a value, or raises a `JSONDecodeError` with
a text.  The keys of an object are strings.
-/

namespace ConstellationGate

/-- `os.environ`. -/
abbrev Environ := String → Option String

/-- `json.loads`. -/
abbrev JsonLoads := String → Except String Value

/-- A `ValueError` about a variable. -/
def variableError (name text : String) : PyError :=
  { cls := .valueError, message := name ++ text }

/-- The entries of the object in a variable, none where there is no object. -/
def objectEntries (loads : JsonLoads) (environ : Environ) (name : String) : List (String × Value) :=
  let raw := Text.strip ((environ name).getD "")
  if raw = "" ∨ raw = "\x7b\x7d" then []
  else
    match loads raw with
    | .ok (.dict entries) => (Dict.empty.update entries).entries
    | _ => []

/-- The reading of an object from a variable, entry by entry. -/
def envObject {ν : Type} (loads : JsonLoads) (environ : Environ) (name : String)
    (entry : String × Value → Except PyError (String × ν)) : Except PyError (Dict String ν) :=
  let raw := Text.strip ((environ name).getD "")
  if raw = "" ∨ raw = "\x7b\x7d" then .ok .empty
  else
    match loads raw with
    | .error text => .error (variableError name (" is not valid JSON: " ++ text))
    | .ok (.dict entries) => Collect.collect entry (Dict.empty.update entries).entries .empty
    | .ok _ => .error (variableError name " must be a JSON object")

/-- The body of the loop over the verifying keys. -/
def verifyingKey (name : String) : String × Value → Except PyError (String × String)
  | (keyId, .str keyValue) =>
    if Text.strip keyId = "" ∨ Text.strip keyValue = "" then
      .error (variableError name " must not contain blank key_id or key_value")
    else .ok (Text.strip keyId, Text.strip keyValue)
  | _ => .error (variableError name " keys and values must all be strings")

/-- `_env_verifying_keys`. -/
def envVerifyingKeys (loads : JsonLoads) (environ : Environ) (name : String) :
    Except PyError (Dict String String) :=
  envObject loads environ name (verifyingKey name)

/-- The strings of a list, if it holds nothing else. -/
def strings (items : List Value) : Option (List String) :=
  items.mapM fun
    | .str s => some s
    | _ => none

/-- `_caller_policy_from_json`. -/
def callerPolicyFromJson (name keyId : String) : Value → Except PyError CallerPolicy
  | .dict entries =>
    let raw : Dict String Value := Dict.empty.update entries
    match raw.get? "node", raw.get? "kind" with
    | some (.str node), some (.str kind) =>
      match raw.get? "tenants", raw.get? "actions" with
      | some (.list tenants), some (.list actions) =>
        match strings tenants, strings actions with
        | some tenants, some actions => CallerPolicy.create node kind tenants actions
        | _, _ =>
          .error (variableError name (" entry for " ++ Text.quoted keyId
            ++ " tenants and actions must be strings"))
      | _, _ =>
        .error (variableError name (" entry for " ++ Text.quoted keyId
          ++ " requires list tenants and actions"))
    | _, _ =>
      .error (variableError name (" entry for " ++ Text.quoted keyId
        ++ " requires string node and kind"))
  | _ =>
    .error (variableError name (" entry for " ++ Text.quoted keyId
      ++ " must be an object of node, kind, tenants, actions"))

/-- The body of the loop over the caller policies. -/
def callerPolicy (name : String) : String × Value → Except PyError (String × CallerPolicy)
  | (keyId, record) =>
    if Text.strip keyId = "" then
      .error (variableError name " key ids must be non-empty strings")
    else
      match callerPolicyFromJson name (Text.strip keyId) record with
      | .ok policy => .ok (Text.strip keyId, policy)
      | .error exc => .error exc

/-- `_env_caller_policies`. -/
def envCallerPolicies (loads : JsonLoads) (environ : Environ) (name : String) :
    Except PyError (Dict String CallerPolicy) :=
  envObject loads environ name (callerPolicy name)

end ConstellationGate
