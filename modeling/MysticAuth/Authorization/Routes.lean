import MysticAuth.Authorization.Store

/-!
# The policy and permission management routes

Each route checks its own permission, looks its entities up, validates, calls
the grant guard on what it is about to grant or take away, and commits.  An
accepted request keeps the guard calls it made: a `GuardCheck` can only be
built from a call that returned.
-/

set_option autoImplicit false

namespace MysticAuth

open Python PolicyEvaluationEngine

structure Server where
  runtime : Runtime
  normalizeEmail : String → String

/-- The authenticated caller, the client address and the two readings of the clock: one when the
route's dependency runs and one when the route builds its own context. -/
structure Request where
  caller : String
  ipAddress : String
  dependencyTime : String
  guardTime : String

def buildAuthorizationContext (ipAddress currentTime : String) : Dict :=
  ⟨⟨["ip_address", "current_time", "security_context"], by decide⟩,
    [.str ipAddress, .str currentTime, .obj ⟨[], List.nodup_nil⟩ []]⟩

def Request.context (request : Request) : Option Dict :=
  some (buildAuthorizationContext request.ipAddress request.guardTime)

inductive Operation where
  | createPolicy (data : Database.PolicyData)
  | updatePolicy (policyName : String) (fields : Database.PolicyFields)
      (changeReason : Option String)
  | rollbackPolicy (policyName : String) (historyId : Nat) (reason : Option String)
  | deletePolicy (policyName : String) (reason : Option String)
  | assignPolicyToUser (userEmail policyName : String)
  | removePolicyFromUser (userEmail policyName : String)
  | revokePolicyActionFromUser (userEmail policyName action : String)
  | grantPermissionToUser (userEmail action resourceType : String) (conditions : Json)
  | revokePermissionFromUser (userEmail action resourceType : String)

/-! ## Errors -/

def insufficientPermissions : AppError :=
  ⟨403, "INSUFFICIENT_PERMISSIONS", ["Insufficient permissions"], []⟩

def userNotFound : AppError :=
  ⟨404, "USER_NOT_FOUND", ["User not found"], []⟩

def policyNotFound : AppError :=
  ⟨404, "POLICY_NOT_FOUND", ["Policy not found"], []⟩

def historyEntryNotFound : AppError :=
  ⟨404, "HISTORY_ENTRY_NOT_FOUND_FOR_POLICY", ["History entry not found for this policy"], []⟩

def systemUserCannotBeModified : AppError :=
  ⟨403, "SYSTEM_USER_CANNOT_BE_MODIFIED", ["System user cannot be modified"], []⟩

def policyNameExists (name : String) : AppError :=
  ⟨409, "POLICY_NAME_EXISTS", [s!"A policy named '{name}' already exists"],
    [("policyName", name)]⟩

def baselinePolicyCannotBeRenamed (name : String) : AppError :=
  ⟨403, "BASELINE_POLICY_CANNOT_BE_RENAMED", [s!"Baseline policy '{name}' cannot be renamed"],
    [("policyName", name)]⟩

def baselinePolicyCannotBeDeactivated (name : String) : AppError :=
  ⟨403, "BASELINE_POLICY_CANNOT_BE_DEACTIVATED",
    [s!"Baseline policy '{name}' cannot be deactivated"], [("policyName", name)]⟩

def baselinePolicyCannotBeDeleted (name : String) : AppError :=
  ⟨403, "BASELINE_POLICY_CANNOT_BE_DELETED", [s!"Baseline policy '{name}' cannot be deleted"],
    [("policyName", name)]⟩

def policyMustBeInactiveToDelete (name : String) : AppError :=
  ⟨409, "POLICY_MUST_BE_INACTIVE_TO_DELETE",
    [s!"Policy '{name}' must be inactive before it can be deleted"], [("policyName", name)]⟩

def policyNotHeldByUser (userEmail policyName : String) : AppError :=
  ⟨404, "POLICY_NOT_HELD_BY_USER", [s!"{userEmail} does not hold policy '{policyName}'"],
    [("userEmail", userEmail), ("policyName", policyName)]⟩

def cannotRemoveLastSuperuserAssignment : AppError :=
  ⟨409, "CANNOT_REMOVE_LAST_SUPERUSER_ASSIGNMENT",
    ["Cannot remove the last remaining assignment of 'system_superuser'"], []⟩

def actionNotInPolicy (action policyName : String) : AppError :=
  ⟨400, "ACTION_NOT_IN_POLICY",
    [s!"'{action}' is not one of policy '{policyName}'s actions"],
    [("action", action), ("policyName", policyName)]⟩

def permissionNotHeldByUser (userEmail action resourceType : String) : AppError :=
  ⟨404, "PERMISSION_NOT_HELD_BY_USER",
    [s!"{userEmail} does not hold permission '{action}' on '{resourceType}'"],
    [("userEmail", userEmail), ("action", action), ("resourceType", resourceType)]⟩

/-- `detail` is the list of messages; `reprText` renders a value as `!r` does. -/
def invalidConditions (reprText : Json → String) (errors : List ConditionError) : AppError :=
  ⟨422, "INVALID_CONDITIONS", errors.map (ConditionError.message reprText), []⟩

def protectedPolicyNames : List String :=
  [selfServicePolicyName, userManagementPolicyName, systemSuperuserPolicyName]

/-- Repeated actions are dropped by the request schema, first-seen order kept. -/
def dedupeActions : List String → List String
  | [] => []
  | action :: rest => action :: (dedupeActions rest).filter (· != action)

section Routes

variable (server : Server) (reprText : Json → String) (database : Database) (request : Request)

/-- A call of the grant guard that returned. -/
structure GuardCheck where
  proposal : Proposal
  passed : guardAlone server.runtime (database.holdings request.caller) request.caller
    request.context proposal = .ok ()

structure Accepted where
  after : Database
  checks : List (GuardCheck server database request)

abbrev Outcome := Except Failure (Accepted server database request)

/-! ## Shared steps -/

def requireAuthorization (permission : Permission) (resourceType : String) :
    Except Failure Unit :=
  let context := buildAuthorizationContext request.ipAddress request.dependencyTime
  if evaluate server.runtime (database.holdings request.caller).effectivePolicies
      permission.value resourceType request.caller none (some context) then .ok ()
  else raiseApp insufficientPermissions

def requireGrant (proposal : Proposal) : Except Failure (GuardCheck server database request) :=
  match guarded : guardAlone server.runtime (database.holdings request.caller) request.caller
      request.context proposal with
  | .ok () => .ok ⟨proposal, guarded⟩
  | .error failure => .error failure

def getOr404 {α : Type} (found : Option α) (notFound : AppError) : Except Failure α :=
  match found with
  | some value => .ok value
  | none => raiseApp notFound

def refuseIf (refused : Bool) (error : AppError) : Except Failure Unit :=
  if refused then raiseApp error else .ok ()

/-- An integrity error that the route does not translate. -/
def commit (result : Option Database) : Except Failure Database :=
  match result with
  | some after => .ok after
  | none => .error .unhandled

def requireValidConditions (conditions : Json) : Except Failure Unit :=
  let errors := validateConditions server.runtime conditions
  refuseIf (!errors.isEmpty) (invalidConditions reprText errors)

def findUser (userEmail : String) : Except Failure User :=
  getOr404 (database.getByEmail (server.normalizeEmail userEmail)) userNotFound

def findPolicy (policyName : String) : Except Failure Policy :=
  getOr404 (database.getByName policyName) policyNotFound

def refuseSystemUser (user : User) : Except Failure Unit :=
  refuseIf (user.role == .system) systemUserCannotBeModified

def Policy.proposal (policy : Policy) : Proposal :=
  ⟨policy.actions, policy.resourceType, policy.conditions⟩

/-! ## Policies -/

def createPolicy (data : Database.PolicyData) : Outcome server database request := do
  requireAuthorization server database request .policiesCreate "policies"
  let data := { data with actions := dedupeActions data.actions }
  requireValidConditions server reprText data.conditions
  refuseIf (database.getByName data.name).isSome (policyNameExists data.name)
  let check ← requireGrant server database request
    ⟨data.actions, data.resourceType, data.conditions⟩
  .ok ⟨database.createPolicy data request.caller, [check]⟩

/-- A field that is set to null where the guard needs a value raises a `TypeError`. -/
def fieldOr {α : Type} (current : α) (field : Option (Option α)) : Except Failure α :=
  match Database.setColumn current field with
  | some value => .ok value
  | none => .error .unhandled

def touchesGrants (fields : Database.PolicyFields) : Bool :=
  fields.actions.isSome || fields.resourceType.isSome || fields.conditions.isSome

def deactivates (fields : Database.PolicyFields) : Bool :=
  fields.isActive == some (some false)

def isProtected (policyName : String) : Bool :=
  protectedPolicyNames.contains policyName

def renames (policy : Policy) (name : Option (Option String)) : Bool :=
  match name with
  | none => false
  | some name => name != some policy.name

def nameTaken (name : Option (Option String)) : Bool :=
  match name with
  | some (some name) => (database.getByName name).isSome
  | _ => false

/-- The guard on the policy as it is, for a change that can narrow or retarget it. -/
def guardCurrent (policy : Policy) (fields : Database.PolicyFields) :
    Except Failure (List (GuardCheck server database request)) :=
  if touchesGrants fields || deactivates fields then do
    let check ← requireGrant server database request policy.proposal
    .ok [check]
  else .ok []

/-- The guard on the policy as it will be, when what it grants is touched. -/
def guardTarget (policy : Policy) (fields : Database.PolicyFields) :
    Except Failure (List (GuardCheck server database request)) :=
  if touchesGrants fields then do
    let actions ← fieldOr policy.actions fields.actions
    let resourceType ← fieldOr policy.resourceType fields.resourceType
    let check ← requireGrant server database request
      ⟨actions, resourceType, fields.conditions.getD policy.conditions⟩
    .ok [check]
  else .ok []

def updatePolicy (policyName : String) (fields : Database.PolicyFields)
    (changeReason : Option String) : Outcome server database request := do
  requireAuthorization server database request .policiesUpdate "policies"
  let fields := { fields with actions := fields.actions.map (Option.map dedupeActions) }
  let policy ← findPolicy database policyName
  requireValidConditions server reprText (fields.conditions.getD .null)
  refuseIf (isProtected policy.name && renames policy fields.name)
    (baselinePolicyCannotBeRenamed policy.name)
  refuseIf (renames policy fields.name && nameTaken database fields.name)
    (policyNameExists ((fields.name.getD none).getD ""))
  refuseIf (isProtected policy.name && deactivates fields)
    (baselinePolicyCannotBeDeactivated policy.name)
  let current ← guardCurrent server database request policy fields
  let target ← guardTarget server database request policy fields
  let after ← commit
    (database.updatePolicy policy fields request.caller changeReason .updated)
  .ok ⟨after, current ++ target⟩

def rollbackReason (historyId : Nat) (reason : Option String) : String :=
  match reason with
  | some text => if text = "" then s!"Rolled back to history entry {historyId}" else text
  | none => s!"Rolled back to history entry {historyId}"

def rollbackPolicy (policyName : String) (historyId : Nat) (reason : Option String) :
    Outcome server database request := do
  requireAuthorization server database request .policiesUpdate "policies"
  let policy ← findPolicy database policyName
  let entry ← getOr404 (database.getHistoryById historyId) historyEntryNotFound
  refuseIf (entry.policyName != policyName) historyEntryNotFound
  let target := entry.definition
  requireValidConditions server reprText ((target.map (·.conditions)).getD .null)
  refuseIf (isProtected policy.name && target.map (·.name) != some policy.name)
    (baselinePolicyCannotBeRenamed policy.name)
  refuseIf (isProtected policy.name && target.map (·.isActive) == some false)
    (baselinePolicyCannotBeDeactivated policy.name)
  let current ← requireGrant server database request policy.proposal
  let guarded ← requireGrant server database request
    ⟨(target.map (·.actions)).getD [], (target.map (·.resourceType)).getD policy.resourceType,
      (target.map (·.conditions)).getD .null⟩
  let fields := (target.map Database.PolicyFields.ofDefinition).getD Database.PolicyFields.unset
  let after ← commit (database.updatePolicy policy fields request.caller
    (some (rollbackReason historyId reason)) .rolledBack)
  .ok ⟨after, [current, guarded]⟩

def deletePolicy (policyName : String) (reason : Option String) :
    Outcome server database request := do
  requireAuthorization server database request .policiesDelete "policies"
  let policy ← findPolicy database policyName
  refuseIf (isProtected policyName) (baselinePolicyCannotBeDeleted policyName)
  refuseIf policy.isActive (policyMustBeInactiveToDelete policyName)
  let check ← requireGrant server database request policy.proposal
  .ok ⟨database.deletePolicy policy request.caller reason, [check]⟩

/-! ## Assignments -/

def assignPolicyToUser (userEmail policyName : String) : Outcome server database request := do
  requireAuthorization server database request .policiesAssign "policies"
  let user ← findUser server database userEmail
  let policy ← findPolicy database policyName
  refuseSystemUser user
  let check ← requireGrant server database request policy.proposal
  .ok ⟨database.assignPolicyToUser user.id policy.id (some request.caller), [check]⟩

/-- The assignment must be held, and the last superuser keeps his. -/
def refuseLockout (userEmail policyName : String) (user : User) (policy : Policy) :
    Except Failure Unit := do
  refuseIf (!database.userHoldsPolicy user.id policy.id) (policyNotHeldByUser userEmail policyName)
  refuseIf (policyName == systemSuperuserPolicyName && database.countAssignments policy.id ≤ 1)
    cannotRemoveLastSuperuserAssignment

def removePolicyFromUser (userEmail policyName : String) : Outcome server database request := do
  requireAuthorization server database request .policiesRevoke "policies"
  let user ← findUser server database userEmail
  let policy ← findPolicy database policyName
  refuseSystemUser user
  let check ← requireGrant server database request policy.proposal
  refuseLockout database userEmail policyName user policy
  .ok ⟨database.removeAssignment user.id policy.id, [check]⟩

def revokePolicyActionFromUser (userEmail policyName action : String) :
    Outcome server database request := do
  requireAuthorization server database request .policiesRevoke "policies"
  requireAuthorization server database request .permissionsGrant "permissions"
  let user ← findUser server database userEmail
  let policy ← findPolicy database policyName
  refuseSystemUser user
  let check ← requireGrant server database request policy.proposal
  refuseLockout database userEmail policyName user policy
  refuseIf (!policy.actions.contains action) (actionNotInPolicy action policy.name)
  let after ← commit
    (database.revokeSingleAction user.id policy action (some request.caller))
  .ok ⟨after, [check]⟩

/-! ## Direct grants -/

def grantPermissionToUser (userEmail action resourceType : String) (conditions : Json) :
    Outcome server database request := do
  requireAuthorization server database request .permissionsGrant "permissions"
  let user ← findUser server database userEmail
  requireValidConditions server reprText conditions
  refuseSystemUser user
  let check ← requireGrant server database request ⟨[action], resourceType, conditions⟩
  .ok ⟨database.assignPermissionToUser user.id action resourceType conditions
    (some request.caller), [check]⟩

def revokePermissionFromUser (userEmail action resourceType : String) :
    Outcome server database request := do
  requireAuthorization server database request .permissionsRevoke "permissions"
  let user ← findUser server database userEmail
  refuseSystemUser user
  let check ← requireGrant server database request ⟨[action], resourceType, .null⟩
  refuseIf (!database.holdsGrant user.id action resourceType)
    (permissionNotHeldByUser userEmail action resourceType)
  .ok ⟨database.removePermission user.id action resourceType, [check]⟩

def handle : Operation → Outcome server database request
  | .createPolicy data => createPolicy server reprText database request data
  | .updatePolicy policyName fields changeReason =>
      updatePolicy server reprText database request policyName fields changeReason
  | .rollbackPolicy policyName historyId reason =>
      rollbackPolicy server reprText database request policyName historyId reason
  | .deletePolicy policyName reason => deletePolicy server database request policyName reason
  | .assignPolicyToUser userEmail policyName =>
      assignPolicyToUser server database request userEmail policyName
  | .removePolicyFromUser userEmail policyName =>
      removePolicyFromUser server database request userEmail policyName
  | .revokePolicyActionFromUser userEmail policyName action =>
      revokePolicyActionFromUser server database request userEmail policyName action
  | .grantPermissionToUser userEmail action resourceType conditions =>
      grantPermissionToUser server reprText database request userEmail action resourceType
        conditions
  | .revokePermissionFromUser userEmail action resourceType =>
      revokePermissionFromUser server database request userEmail action resourceType

end Routes

end MysticAuth
