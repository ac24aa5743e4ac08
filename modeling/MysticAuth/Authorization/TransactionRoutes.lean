import MysticAuth.Authorization.Transactions

/-!
# The policy and permission routes as programs

The same checks as in one go, but every query is a step of its own, and each
change ends with the invalidation of what it made stale.  An authorization
read goes through the cache and fills it on a miss.
-/

set_option autoImplicit false

namespace MysticAuth.Transactions

open Python PolicyEvaluationEngine Interleaving

def Site.server (site : Site) : Server :=
  ⟨site.runtime, site.keys.normalizeEmail⟩

structure BulkItemResult where
  userEmail : String
  identifier : String
  error : Option String

inductive Response where
  | policy (policy : Policy)
  | detail (text : String)
  | bulk (results : List BulkItemResult)
  /-- a decision, with the grants it was evaluated on -/
  | decision (holdings : Holdings) (allowed : Bool)

structure PolicyItem where
  userEmail : String
  policyName : String

structure PermissionItemRequest where
  userEmail : String
  action : String
  resourceType : String

inductive Operation where
  | authorize (email action resourceType : String) (resource : Option Resource)
      (context : Option Dict)
  | updatePolicy (policyName : String) (fields : Database.PolicyFields)
      (changeReason : Option String)
  | rollbackPolicy (policyName : String) (historyId : Nat) (reason : Option String)
  | deletePolicy (policyName : String) (reason : Option String)
  | removePolicyFromUser (userEmail policyName : String)
  | revokePolicyActionFromUser (userEmail policyName action : String)
  | bulkRemovePolicies (items : List PolicyItem)
  | revokePermissionFromUser (userEmail action resourceType : String)
  | bulkRemovePermissions (items : List PermissionItemRequest)

def policyDeleted (name : String) : AppError :=
  ⟨404, "POLICY_NOT_FOUND", [s!"Policy '{name}' was deleted by another request"],
    [("policyName", name)]⟩

def policyDeletedAfterUpdate (name : String) : AppError :=
  ⟨404, "POLICY_NOT_FOUND",
    [s!"Policy '{name}' was deleted by another request immediately after this update"],
    [("policyName", name)]⟩

/-! ## The cache -/

def deleteBatchSize : Nat := 500

/-- The keys of a scan, deleted in batches. -/
def deleteInBatches : List String → List String → Service Unit
  | [], batch => if batch.isEmpty then return () else perform (.deleteUserPolicies batch)
  | key :: keys, batch =>
      if deleteBatchSize ≤ batch.length + 1 then do
        perform (.deleteUserPolicies (batch ++ [key]))
        deleteInBatches keys []
      else deleteInBatches keys (batch ++ [key])

def invalidateAllUserPolicies : Service Unit := do
  let keys ← perform .scanUserPolicies
  deleteInBatches keys []

def lift {α : Type} (result : Except Failure α) : Service α :=
  .done result

section Site

variable (site : Site)

def invalidateUserPolicies (emails : List String) : Service Unit :=
  if emails.isEmpty then return ()
  else perform (.deleteUserPolicies (emails.map site.keys.userPoliciesKey))

def invalidateUserPermissions (emails : List String) : Service Unit :=
  if emails.isEmpty then return ()
  else perform (.deleteUserPermissions (emails.map site.keys.userPermissionsKey))

/-! ## Authorization reads -/

def getActivePoliciesForUser (email : String) : Service (List Policy) := do
  match ← perform (.getUserPolicies (site.keys.userPoliciesKey email)) with
  | some cached => return cached
  | none =>
    let policies ← perform (.selectPolicies email)
    perform (.setUserPolicies (site.keys.userPoliciesKey email) policies)
    return policies

def getActivePermissionsForUser (email : String) : Service (List UserPermission) := do
  match ← perform (.getUserPermissions (site.keys.userPermissionsKey email)) with
  | some cached => return cached
  | none =>
    let grants ← perform (.selectPermissions email)
    perform (.setUserPermissions (site.keys.userPermissionsKey email) grants)
    return grants

def authorizeDetailed (email action resourceType : String) (resource : Option Resource)
    (context : Option Dict) : Service Response := do
  let policies ← getActivePoliciesForUser site email
  let grants ← getActivePermissionsForUser site email
  let holdings : Holdings := ⟨policies, grants⟩
  return .decision holdings
    (evaluate site.runtime holdings.effectivePolicies action resourceType email resource context)

/-! ## Shared steps of the routes -/

variable (request : Request)

def requireAuthorization (permission : Permission) (resourceType : String) : Service Unit := do
  let context := buildAuthorizationContext request.ipAddress request.dependencyTime
  let allowed ← perform (.authorize request.caller permission.value resourceType (some context))
  lift (refuseIf (!allowed) insufficientPermissions)

def requireGrant (proposal : Proposal) : Service Unit :=
  execute (.assertAuthorizedToGrant request.caller request.context proposal none) Prod.fst

def findUser (userEmail : String) : Service User :=
  execute (.getByEmail userEmail) fun found => getOr404 found userNotFound

def findPolicy (policyName : String) : Service Policy :=
  execute (.getByName policyName) fun found => getOr404 found policyNotFound

/-! ## Updates and rollbacks -/

/-- `PolicyRepository.update`. -/
def update (policy : Policy) (fields : Database.PolicyFields) (changedBy : String)
    (changeReason : Option String) (changeType : PolicyChangeType) : Service Policy := do
  let locked ← execute (.lockPolicy policy) fun found => getOr404 found (policyDeleted policy.name)
  let updated ← execute (.commitUpdate locked fields changedBy changeReason changeType) id
  let refreshed ← execute (.refreshPolicy locked) fun found =>
    getOr404 found (policyDeletedAfterUpdate updated.name)
  invalidateAllUserPolicies
  return refreshed

def refuseTakenName (policy : Policy) (fields : Database.PolicyFields) : Service Unit :=
  if renames policy fields.name then
    match fields.name with
    | some (some name) =>
        execute (.getByName name) fun existing => refuseIf existing.isSome (policyNameExists name)
    | _ => return ()
  else return ()

def guardCurrent (policy : Policy) (fields : Database.PolicyFields) : Service Unit :=
  if touchesGrants fields || deactivates fields then requireGrant request policy.proposal
  else return ()

def guardTarget (policy : Policy) (fields : Database.PolicyFields) : Service Unit :=
  if touchesGrants fields then do
    let actions ← lift (fieldOr policy.actions fields.actions)
    let resourceType ← lift (fieldOr policy.resourceType fields.resourceType)
    requireGrant request ⟨actions, resourceType, fields.conditions.getD policy.conditions⟩
  else return ()

def dedupeFields (fields : Database.PolicyFields) : Database.PolicyFields :=
  { fields with actions := fields.actions.map (Option.map dedupeActions) }

def updatePolicy (policyName : String) (fields : Database.PolicyFields)
    (changeReason : Option String) : Service Response := do
  requireAuthorization request .policiesUpdate "policies"
  let fields := dedupeFields fields
  let policy ← findPolicy policyName
  lift (requireValidConditions site.server site.reprText (fields.conditions.getD .null))
  lift (refuseIf (isProtected policy.name && renames policy fields.name)
    (baselinePolicyCannotBeRenamed policy.name))
  refuseTakenName policy fields
  lift (refuseIf (isProtected policy.name && deactivates fields)
    (baselinePolicyCannotBeDeactivated policy.name))
  guardCurrent request policy fields
  guardTarget request policy fields
  let updated ← update policy fields request.caller changeReason .updated
  return .policy updated

/-- What a rollback passes to the guard; no definition is an empty one. -/
def rollbackProposal (policy : Policy) (target : Option PolicyDefinition) : Proposal :=
  ⟨(target.map (·.actions)).getD [], (target.map (·.resourceType)).getD policy.resourceType,
    (target.map (·.conditions)).getD .null⟩

def rollbackFields (target : Option PolicyDefinition) : Database.PolicyFields :=
  (target.map Database.PolicyFields.ofDefinition).getD Database.PolicyFields.unset

def rollbackPolicy (policyName : String) (historyId : Nat) (reason : Option String) :
    Service Response := do
  requireAuthorization request .policiesUpdate "policies"
  let policy ← findPolicy policyName
  let entry ← execute (.getHistoryById historyId) fun found => getOr404 found historyEntryNotFound
  lift (refuseIf (entry.policyName != policyName) historyEntryNotFound)
  let target := entry.definition
  lift (requireValidConditions site.server site.reprText ((target.map (·.conditions)).getD .null))
  lift (refuseIf (isProtected policy.name && target.map (·.name) != some policy.name)
    (baselinePolicyCannotBeRenamed policy.name))
  lift (refuseIf (isProtected policy.name && target.map (·.isActive) == some false)
    (baselinePolicyCannotBeDeactivated policy.name))
  requireGrant request policy.proposal
  requireGrant request (rollbackProposal policy target)
  let updated ← update policy (rollbackFields target) request.caller
    (some (rollbackReason historyId reason)) .rolledBack
  return .policy updated

def deletePolicy (policyName : String) (reason : Option String) : Service Response := do
  requireAuthorization request .policiesDelete "policies"
  let policy ← findPolicy policyName
  lift (refuseIf (isProtected policyName) (baselinePolicyCannotBeDeleted policyName))
  lift (refuseIf policy.isActive (policyMustBeInactiveToDelete policyName))
  requireGrant request policy.proposal
  execute (.commitDelete policy request.caller reason) id
  invalidateAllUserPolicies
  return .detail s!"Policy '{policyName}' deleted successfully"

/-! ## Single removals -/

/-- The assignment must be held, and the last superuser keeps his. -/
def refuseLockout (userEmail policyName : String) (user : User) (policy : Policy) :
    Service Unit := do
  let held ← perform (.userHoldsPolicy user policy)
  lift (refuseIf (!held) (policyNotHeldByUser userEmail policyName))
  if policyName == systemSuperuserPolicyName then
    let holderCount ← perform (.countAssignments policy)
    lift (refuseIf (holderCount ≤ 1) cannotRemoveLastSuperuserAssignment)

def removePolicyFromUser (userEmail policyName : String) : Service Response := do
  requireAuthorization request .policiesRevoke "policies"
  let user ← findUser userEmail
  let policy ← findPolicy policyName
  lift (refuseSystemUser user)
  requireGrant request policy.proposal
  refuseLockout userEmail policyName user policy
  let held ← perform (.userHoldsPolicy user policy)
  lift (refuseIf (!held) (policyNotHeldByUser userEmail policyName))
  execute (.commitRemoval user policy) id
  invalidateUserPolicies site [user.email]
  return .detail s!"Policy '{policyName}' removed from {userEmail}"

def revokePolicyActionFromUser (userEmail policyName action : String) : Service Response := do
  requireAuthorization request .policiesRevoke "policies"
  requireAuthorization request .permissionsGrant "permissions"
  let user ← findUser userEmail
  let policy ← findPolicy policyName
  lift (refuseSystemUser user)
  requireGrant request policy.proposal
  refuseLockout userEmail policyName user policy
  lift (refuseIf (!policy.actions.contains action) (actionNotInPolicy action policy.name))
  let held ← perform (.userHoldsPolicy user policy)
  lift (refuseIf (!held) (policyNotHeldByUser userEmail policyName))
  execute (.commitActionRevocation user policy action (some request.caller)) id
  invalidateUserPolicies site [user.email]
  invalidateUserPermissions site [user.email]
  return .detail s!"Action '{action}' revoked from {userEmail}'s '{policyName}' assignment; other actions retained as direct grants"

def revokePermissionFromUser (userEmail action resourceType : String) : Service Response := do
  requireAuthorization request .permissionsRevoke "permissions"
  let user ← findUser userEmail
  lift (refuseSystemUser user)
  requireGrant request ⟨[action], resourceType, .null⟩
  let item : PermissionItem := ⟨user, action, resourceType⟩
  let held ← perform (.holdsPermission item)
  lift (refuseIf (!held) (permissionNotHeldByUser userEmail action resourceType))
  execute (.commitPermissionRemoval item) id
  invalidateUserPermissions site [user.email]
  return .detail s!"Permission '{action}' removed from {userEmail}"

/-! ## Bulk removals -/

/-- The guard of one item, and the cache of decisions afterwards: a refusal fails the item, any
other exception the request. -/
def guardItem (proposal : Proposal) (cache : GrantCache) : Service (Bool × GrantCache) := do
  let (verdict, cache') ← perform
    (.assertAuthorizedToGrant request.caller request.context proposal (some cache))
  match verdict with
  | .ok () => return (true, cache'.getD cache)
  | .error (.app _) => return (false, cache'.getD cache)
  | .error .unhandled => throw .unhandled

def resolvePolicyItem (users : List User) (policies : List Policy) (item : PolicyItem)
    (cache : GrantCache) : Service (Except String (User × Policy) × GrantCache) := do
  let some user := users.find? (·.email == item.userEmail) |
    return (.error "USER_NOT_FOUND", cache)
  let some policy := policies.find? (·.name == item.policyName) |
    return (.error "POLICY_NOT_FOUND", cache)
  if user.role == .system then return (.error "SYSTEM_USER_CANNOT_BE_MODIFIED", cache)
  let (passed, cache) ← guardItem request policy.proposal cache
  return (if passed then .ok (user, policy) else .error "CANNOT_GRANT_UNHELD_ACTION", cache)

/-- The items that may be removed, and the errors of the others. -/
def stageItems (users : List User) (policies : List Policy) (superuserHolderEmails : List String) :
    List PolicyItem → Nat → GrantCache → Service (List (User × Policy) × List BulkItemResult)
  | [], _, _ => return ([], [])
  | item :: rest, superuserRemovalsStaged, cache => do
      let (resolved, cache) ← resolvePolicyItem request users policies item cache
      let refused (code : String) : BulkItemResult := ⟨item.userEmail, item.policyName, some code⟩
      match resolved with
      | .error code =>
          let (validItems, errors) ← stageItems users policies superuserHolderEmails rest
            superuserRemovalsStaged cache
          return (validItems, refused code :: errors)
      | .ok (user, policy) =>
          if item.policyName == systemSuperuserPolicyName
              && superuserHolderEmails.contains user.email then
            if superuserRemovalsStaged + 1 ≥ superuserHolderEmails.dedup.length then
              let (validItems, errors) ← stageItems users policies superuserHolderEmails rest
                superuserRemovalsStaged cache
              return (validItems, refused "CANNOT_REMOVE_LAST_SUPERUSER_ASSIGNMENT" :: errors)
            else
              let (validItems, errors) ← stageItems users policies superuserHolderEmails rest
                (superuserRemovalsStaged + 1) cache
              return ((user, policy) :: validItems, errors)
          else
            let (validItems, errors) ← stageItems users policies superuserHolderEmails rest
              superuserRemovalsStaged cache
            return ((user, policy) :: validItems, errors)

/-- `PolicyAssignmentRepository.bulk_remove_policies`. -/
def removeItems (validItems : List (User × Policy)) : Service (List BulkItemResult) := do
  if validItems.isEmpty then return []
  let held ← perform (.heldPolicies validItems)
  let result (failed : Option String) (item : User × Policy) : BulkItemResult :=
    if held.any fun other => other.1.id == item.1.id && other.2.id == item.2.id then
      ⟨item.1.email, item.2.name, failed⟩
    else ⟨item.1.email, item.2.name, some "not_held"⟩
  match ← perform (.commitBulkRemoval held) with
  | .error _ => return validItems.map (result (some "commit_failed"))
  | .ok () =>
      invalidateUserPolicies site (held.map fun item => item.1.email)
      return validItems.map (result none)

def bulkRemovePolicies (items : List PolicyItem) : Service Response := do
  requireAuthorization request .policiesRevoke "policies"
  Program.finally (do
    let users ← perform (.getByEmails (items.map PolicyItem.userEmail))
    let policies ← perform (.getPoliciesByNames (items.map PolicyItem.policyName))
    let superuserHolderEmails ←
      match policies.find? (·.name == systemSuperuserPolicyName) with
      | some superuserPolicy => perform (.getHolderEmailsForUpdate superuserPolicy)
      | none => pure []
    let (validItems, errors) ← stageItems request users policies superuserHolderEmails items 0 []
    let results ← removeItems site validItems
    return .bulk (errors ++ results)) (perform .closeSession)

def resolvePermissionItem (users : List User) (item : PermissionItemRequest)
    (cache : GrantCache) : Service (Except String PermissionItem × GrantCache) := do
  let some user := users.find? (·.email == item.userEmail) |
    return (.error "USER_NOT_FOUND", cache)
  if user.role == .system then return (.error "SYSTEM_USER_CANNOT_BE_MODIFIED", cache)
  let (passed, cache) ← guardItem request ⟨[item.action], item.resourceType, .null⟩ cache
  return (if passed then .ok ⟨user, item.action, item.resourceType⟩
    else .error "CANNOT_GRANT_UNHELD_ACTION", cache)

def stagePermissionItems (users : List User) :
    List PermissionItemRequest → GrantCache → Service (List PermissionItem × List BulkItemResult)
  | [], _ => return ([], [])
  | item :: rest, cache => do
      let (resolved, cache) ← resolvePermissionItem request users item cache
      let (validItems, errors) ← stagePermissionItems users rest cache
      match resolved with
      | .error code => return (validItems, ⟨item.userEmail, item.action, some code⟩ :: errors)
      | .ok valid => return (valid :: validItems, errors)

/-- `UserPermissionRepository.bulk_remove_permissions`. -/
def removePermissionItems (validItems : List PermissionItem) : Service (List BulkItemResult) := do
  if validItems.isEmpty then return []
  let held ← perform (.heldPermissions validItems)
  let result (failed : Option String) (item : PermissionItem) : BulkItemResult :=
    if held.any fun other => other.user.id == item.user.id && other.action == item.action &&
        other.resourceType == item.resourceType then
      ⟨item.user.email, item.action, failed⟩
    else ⟨item.user.email, item.action, some "not_held"⟩
  match ← perform (.commitBulkPermissionRemoval held) with
  | .error _ => return validItems.map (result (some "commit_failed"))
  | .ok () =>
      invalidateUserPermissions site (held.map fun item => item.user.email)
      return validItems.map (result none)

def bulkRemovePermissions (items : List PermissionItemRequest) : Service Response := do
  requireAuthorization request .permissionsRevoke "permissions"
  let users ← perform (.getByEmails (items.map PermissionItemRequest.userEmail))
  let (validItems, errors) ← stagePermissionItems request users items []
  let results ← removePermissionItems site validItems
  return .bulk (errors ++ results)

def handle : Operation → Service Response
  | .authorize email action resourceType resource context =>
      authorizeDetailed site email action resourceType resource context
  | .updatePolicy policyName fields changeReason =>
      updatePolicy site request policyName fields changeReason
  | .rollbackPolicy policyName historyId reason =>
      rollbackPolicy site request policyName historyId reason
  | .deletePolicy policyName reason => deletePolicy request policyName reason
  | .removePolicyFromUser userEmail policyName =>
      removePolicyFromUser site request userEmail policyName
  | .revokePolicyActionFromUser userEmail policyName action =>
      revokePolicyActionFromUser site request userEmail policyName action
  | .bulkRemovePolicies items => bulkRemovePolicies site request items
  | .revokePermissionFromUser userEmail action resourceType =>
      revokePermissionFromUser site request userEmail action resourceType
  | .bulkRemovePermissions items => bulkRemovePermissions site request items

end Site

end MysticAuth.Transactions
