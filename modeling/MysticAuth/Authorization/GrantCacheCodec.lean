import MysticAuth.Authorization.Models
import MysticAuth.Python.JsonText

/-!
# The cached grants of a user

The two cache-aside reads keep a user's active policies and direct grants as
JSON text.  What is read back are rows without an identity; the engine sees the
same grants in them.
-/

set_option autoImplicit false

namespace MysticAuth.GrantCacheCodec

open Python PolicyEvaluationEngine

/-- A policy row that no session knows, as `_deserialize_policy` builds it. -/
structure DetachedPolicy where
  name : String
  description : Option String
  actions : List String
  resourceType : String
  conditions : Json
  isActive : Bool

structure DetachedPermission where
  action : String
  resourceType : String
  conditions : Json
  isActive : Bool

/-! ## Records -/

def optionalText : Option String → Json
  | none => .null
  | some text => .str text

def serializePolicy (policy : Policy) : Json :=
  .obj ⟨["name", "description", "actions", "resource_type", "conditions", "is_active"], by decide⟩
    [.str policy.name, optionalText policy.description, .arr (policy.actions.map .str),
      .str policy.resourceType, policy.conditions, .bool policy.isActive]

def serializeUserPermission (grant : UserPermission) : Json :=
  .obj ⟨["action", "resource_type", "conditions", "is_active"], by decide⟩
    [.str grant.action, .str grant.resourceType, grant.conditions, .bool grant.isActive]

/-! A field of a type that no serializer writes has no row here. -/

def readText : Json → Option String
  | .str text => some text
  | _ => none

def readOptionalText : Json → Option (Option String)
  | .null => some none
  | .str text => some (some text)
  | _ => none

/-- `data.get("actions") or []`. -/
def readActions (actions : Json) : Option (List String) :=
  if actions.truthy then
    match actions with
    | .arr items => items.mapM readText
    | _ => none
  else some []

/-- `data.get("is_active", True)`. -/
def readActive : Option Json → Option Bool
  | none => some true
  | some (.bool isActive) => some isActive
  | some _ => none

/-- `data[key]`; a missing key raises. -/
def requireText (data : Dict) (key : String) : Option String :=
  (data.get? key).bind readText

def deserializePolicy (record : Json) : Option DetachedPolicy := do
  let data ← record.dict?
  let name ← requireText data "name"
  let description ← readOptionalText (data.get "description")
  let actions ← readActions (data.get "actions")
  let resourceType ← requireText data "resource_type"
  let isActive ← readActive (data.get? "is_active")
  some ⟨name, description, actions, resourceType, data.get "conditions", isActive⟩

def deserializeUserPermission (record : Json) : Option DetachedPermission := do
  let data ← record.dict?
  let action ← requireText data "action"
  let resourceType ← requireText data "resource_type"
  let isActive ← readActive (data.get? "is_active")
  some ⟨action, resourceType, data.get "conditions", isActive⟩

/-! ## The service -/

section Service

variable {Row Record : Type}

/-- The payload of a `set`; `none` is the logged failure that stores nothing. -/
def encodeRows (serialize : Row → Json) (rows : List Row) : Option String :=
  (Json.arr (rows.map serialize)).dumps

/-- The rows of a `get`; `none` is a miss. -/
def decodeRows (deserialize : Json → Option Record) (raw : Option String) :
    Option (List Record) := do
  let payload ← raw
  match ← Json.loads payload with
  | .arr records => records.mapM deserialize
  | _ => none

end Service

def setUserPolicies (policies : List Policy) : Option String :=
  encodeRows serializePolicy policies

def getUserPolicies (raw : Option String) : Option (List DetachedPolicy) :=
  decodeRows deserializePolicy raw

def setUserPermissions (grants : List UserPermission) : Option String :=
  encodeRows serializeUserPermission grants

def getUserPermissions (raw : Option String) : Option (List DetachedPermission) :=
  decodeRows deserializeUserPermission raw

def DetachedPolicy.toGrant (policy : DetachedPolicy) : Grant :=
  ⟨policy.name, policy.actions, policy.resourceType, policy.conditions⟩

def DetachedPermission.toGrant (permission : DetachedPermission) : Grant :=
  ⟨s!"direct:{permission.action}", [permission.action], permission.resourceType,
    permission.conditions⟩

/-- `_get_effective_policies` over two cache hits. -/
def effectivePolicies (policies : List DetachedPolicy) (permissions : List DetachedPermission) :
    List Grant :=
  policies.map DetachedPolicy.toGrant ++ permissions.map DetachedPermission.toGrant

/-! ## A record is read back -/

def detachPolicy (policy : Policy) : DetachedPolicy :=
  ⟨policy.name, policy.description, policy.actions, policy.resourceType, policy.conditions,
    policy.isActive⟩

def detachPermission (grant : UserPermission) : DetachedPermission :=
  ⟨grant.action, grant.resourceType, grant.conditions, grant.isActive⟩

theorem readOptionalText_optionalText (text : Option String) :
    readOptionalText (optionalText text) = some text := by
  cases text <;> rfl

theorem mapM_readText (actions : List String) :
    (actions.map Json.str).mapM readText = some actions := by
  induction actions with
  | nil => rfl
  | cons action actions ih =>
      rw [List.map_cons, List.mapM_cons, ih]
      rfl

/-- An empty list is falsy, and reads as the empty list it is replaced by. -/
theorem readActions_arr (actions : List String) :
    readActions (.arr (actions.map .str)) = some actions := by
  cases actions with
  | nil => rfl
  | cons action actions =>
      have truthy : (Json.arr ((action :: actions).map .str)).truthy = true := by
        simp [Json.truthy]
      rw [readActions, if_pos truthy]
      exact mapM_readText (action :: actions)

theorem deserializePolicy_serializePolicy (policy : Policy) :
    deserializePolicy (serializePolicy policy) = some (detachPolicy policy) := by
  have description := readOptionalText_optionalText policy.description
  have actions := readActions_arr policy.actions
  have fields : deserializePolicy (serializePolicy policy) =
      (readOptionalText (optionalText policy.description)).bind fun description =>
        (readActions (.arr (policy.actions.map .str))).bind fun actions =>
          some ⟨policy.name, description, actions, policy.resourceType, policy.conditions,
            policy.isActive⟩ := rfl
  rw [fields, description, actions]
  rfl

theorem deserializeUserPermission_serializeUserPermission (grant : UserPermission) :
    deserializeUserPermission (serializeUserPermission grant) = some (detachPermission grant) := by
  rfl

/-! ## A list of records is read back -/

section Rows

variable {Row Record : Type} (serialize : Row → Json) (deserialize : Json → Option Record)
variable (detach : Row → Record)

theorem mapM_deserialize (inverse : ∀ row, deserialize (serialize row) = some (detach row))
    (rows : List Row) : (rows.map serialize).mapM deserialize = some (rows.map detach) := by
  induction rows with
  | nil => rfl
  | cons row rows ih =>
      rw [List.map_cons, List.mapM_cons, inverse, ih]
      rfl

theorem decodeRows_encodeRows (inverse : ∀ row, deserialize (serialize row) = some (detach row))
    (rows : List Row) (loaded : ∀ row ∈ rows, (serialize row).isLoaded = true) :
    decodeRows deserialize (encodeRows serialize rows) = some (rows.map detach) := by
  have loadedArr : (Json.arr (rows.map serialize)).isLoaded = true := by
    rw [Json.isLoaded, Json.loadedItems_iff]
    intro record member
    obtain ⟨row, found, rfl⟩ := List.mem_map.mp member
    exact loaded row found
  obtain ⟨text, dumped, read⟩ := Json.loads_dumps _ loadedArr
  have records := mapM_deserialize serialize deserialize detach inverse rows
  simp only [decodeRows, encodeRows, dumped, read, records, Option.bind_eq_bind, Option.bind_some]

end Rows

theorem loadedItems_str (texts : List String) :
    Json.isLoaded.loadedItems (texts.map .str) = true := by
  rw [Json.loadedItems_iff]
  intro item member
  obtain ⟨text, _, rfl⟩ := List.mem_map.mp member
  rfl

theorem isLoaded_serializePolicy (policy : Policy) (conditions : policy.conditions.isLoaded = true) :
    (serializePolicy policy).isLoaded = true := by
  have description : (optionalText policy.description).isLoaded = true := by
    cases policy.description <;> rfl
  have actions := loadedItems_str policy.actions
  simp [serializePolicy, Json.isLoaded, Json.isLoaded.loadedItems, description, actions, conditions]

theorem isLoaded_serializeUserPermission (grant : UserPermission)
    (conditions : grant.conditions.isLoaded = true) :
    (serializeUserPermission grant).isLoaded = true := by
  simp [serializeUserPermission, Json.isLoaded, Json.isLoaded.loadedItems, conditions]

/-! ## The decision is the same -/

/-- A session reads the text of a JSONB column with `json.loads`. -/
def ReadFromColumn (conditions : Json) : Prop :=
  ∃ text, Json.loads text = some conditions

theorem getUserPolicies_setUserPolicies (policies : List Policy)
    (columns : ∀ policy ∈ policies, ReadFromColumn policy.conditions) :
    getUserPolicies (setUserPolicies policies) = some (policies.map detachPolicy) := by
  apply decodeRows_encodeRows serializePolicy deserializePolicy detachPolicy
    deserializePolicy_serializePolicy
  intro policy member
  exact isLoaded_serializePolicy policy ((Json.isLoaded_iff _).mpr (columns policy member))

theorem getUserPermissions_setUserPermissions (grants : List UserPermission)
    (columns : ∀ grant ∈ grants, ReadFromColumn grant.conditions) :
    getUserPermissions (setUserPermissions grants) = some (grants.map detachPermission) := by
  apply decodeRows_encodeRows serializeUserPermission deserializeUserPermission detachPermission
    deserializeUserPermission_serializeUserPermission
  intro grant member
  exact isLoaded_serializeUserPermission grant ((Json.isLoaded_iff _).mpr (columns grant member))

/-- The engine is handed the same grants. -/
theorem effectivePolicies_detached (holdings : Holdings) :
    effectivePolicies (holdings.activePolicies.map detachPolicy)
      (holdings.activePermissions.map detachPermission) = holdings.effectivePolicies := by
  simp only [effectivePolicies, Holdings.effectivePolicies, List.map_map]
  rfl

theorem cached_decision (holdings : Holdings)
    (policyColumns : ∀ policy ∈ holdings.activePolicies, ReadFromColumn policy.conditions)
    (grantColumns : ∀ grant ∈ holdings.activePermissions, ReadFromColumn grant.conditions) :
    ∃ policies permissions,
      getUserPolicies (setUserPolicies holdings.activePolicies) = some policies ∧
      getUserPermissions (setUserPermissions holdings.activePermissions) = some permissions ∧
      ∀ (runtime : Runtime) (action resourceType userEmail : String) (resource : Option Resource)
        (context : Option Dict),
        evaluateDetailed runtime (effectivePolicies policies permissions) action resourceType
            userEmail resource context =
          evaluateDetailed runtime holdings.effectivePolicies action resourceType userEmail resource
            context := by
  refine ⟨_, _, getUserPolicies_setUserPolicies _ policyColumns,
    getUserPermissions_setUserPermissions _ grantColumns, ?_⟩
  intro runtime action resourceType userEmail resource context
  rw [effectivePolicies_detached]

def officeConditions : Json :=
  .obj ⟨["network", "max_uses"], by decide⟩
    [.obj ⟨["allowed_ips"], by decide⟩ [.arr [.str "10.0.0.0/8"]], .int 3]

def officeHoldings : Holdings where
  activePolicies := [⟨1, "office", none, ["user:read"], "user", officeConditions, true, none⟩]
  activePermissions := [⟨1, "user:list", "user", .null, true, none⟩]

theorem cached_decision_office : ∃ policies permissions,
    getUserPolicies (setUserPolicies officeHoldings.activePolicies) = some policies ∧
    getUserPermissions (setUserPermissions officeHoldings.activePermissions) = some permissions ∧
    ∀ (runtime : Runtime) (action resourceType userEmail : String) (resource : Option Resource)
      (context : Option Dict),
      evaluateDetailed runtime (effectivePolicies policies permissions) action resourceType
          userEmail resource context =
        evaluateDetailed runtime officeHoldings.effectivePolicies action resourceType userEmail
          resource context := by
  apply cached_decision officeHoldings
  · intro policy member
    obtain rfl := List.mem_singleton.mp member
    exact (Json.isLoaded_iff _).mp (by decide)
  · intro grant member
    obtain rfl := List.mem_singleton.mp member
    exact (Json.isLoaded_iff _).mp rfl

end MysticAuth.GrantCacheCodec
