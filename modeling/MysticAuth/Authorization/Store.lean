import MysticAuth.Authorization.GrantGuard

/-!
# The authorization tables and their repositories

Policies, assignments, direct grants and the policy history, with the queries
and mutations the routes run.  A mutation that violates a constraint of its
table fails without an effect.  Cached reads are modelled by the rows they
stand for.
-/

set_option autoImplicit false

namespace MysticAuth

open Python

inductive UserRole where
  | user
  | admin
  | system
  deriving DecidableEq

structure User where
  id : Nat
  email : String
  role : UserRole

/-- `_definition_snapshot`: everything that determines what a policy grants. -/
structure PolicyDefinition where
  name : String
  description : Option String
  actions : List String
  resourceType : String
  conditions : Json
  isActive : Bool

inductive PolicyChangeType where
  | created
  | updated
  | rolledBack
  | deleted
  deriving DecidableEq

structure PolicyHistoryEntry where
  id : Nat
  policyId : Nat
  policyName : String
  changeType : PolicyChangeType
  previousDefinition : Option PolicyDefinition
  newDefinition : Option PolicyDefinition
  changedBy : String
  changeReason : Option String

/-- `definition_for_entry`: a deletion restores what was deleted. -/
def PolicyHistoryEntry.definition (entry : PolicyHistoryEntry) : Option PolicyDefinition :=
  entry.newDefinition.or entry.previousDefinition

structure Database where
  users : List User
  policies : List Policy
  userPolicies : List UserPolicy
  userPermissions : List UserPermission
  policyHistory : List PolicyHistoryEntry
  nextPolicyId : Nat
  nextHistoryId : Nat

def Policy.definition (policy : Policy) : PolicyDefinition :=
  ⟨policy.name, policy.description, policy.actions, policy.resourceType, policy.conditions,
    policy.isActive⟩

namespace Database

/-! ## Queries -/

def getByEmail (database : Database) (email : String) : Option User :=
  database.users.find? (·.email == email)

def getByName (database : Database) (name : String) : Option Policy :=
  database.policies.find? (·.name == name)

def getHistoryById (database : Database) (historyId : Nat) : Option PolicyHistoryEntry :=
  database.policyHistory.find? (·.id == historyId)

def isUserWithEmail (database : Database) (userId : Nat) (email : String) : Bool :=
  database.users.any fun user => user.id == userId && user.email == email

def userHoldsPolicy (database : Database) (userId policyId : Nat) : Bool :=
  database.userPolicies.any fun link => link.userId == userId && link.policyId == policyId

def countAssignments (database : Database) (policyId : Nat) : Nat :=
  (database.userPolicies.filter (·.policyId == policyId)).length

def getActivePoliciesForUser (database : Database) (email : String) : List Policy :=
  database.policies.filter fun policy =>
    policy.isActive && database.userPolicies.any fun link =>
      link.policyId == policy.id && database.isUserWithEmail link.userId email

def getActivePermissionsForUser (database : Database) (email : String) : List UserPermission :=
  database.userPermissions.filter fun grant =>
    grant.isActive && database.isUserWithEmail grant.userId email

def holdings (database : Database) (email : String) : Holdings :=
  ⟨database.getActivePoliciesForUser email, database.getActivePermissionsForUser email⟩

/-! ## Policies -/

/-- The `data` of a policy insert. -/
structure PolicyData where
  name : String
  description : Option String
  actions : List String
  resourceType : String
  conditions : Json

/-- The fields of an update that are set, each possibly to null. -/
structure PolicyFields where
  name : Option (Option String)
  description : Option (Option String)
  actions : Option (Option (List String))
  resourceType : Option (Option String)
  conditions : Option Json
  isActive : Option (Option Bool)

def PolicyFields.ofDefinition (definition : PolicyDefinition) : PolicyFields :=
  ⟨some (some definition.name), some definition.description, some (some definition.actions),
    some (some definition.resourceType), some definition.conditions,
    some (some definition.isActive)⟩

def PolicyFields.unset : PolicyFields :=
  ⟨none, none, none, none, none, none⟩

/-- A column that is not nullable: unset keeps it, null fails the statement. -/
def setColumn {α : Type} (current : α) : Option (Option α) → Option α
  | none => some current
  | some value => value

/-- `setattr` for every field; `none` is the violated not-null constraint. -/
def PolicyFields.apply (fields : PolicyFields) (policy : Policy) : Option Policy := do
  let name ← setColumn policy.name fields.name
  let actions ← setColumn policy.actions fields.actions
  let resourceType ← setColumn policy.resourceType fields.resourceType
  let isActive ← setColumn policy.isActive fields.isActive
  some { policy with
    name
    actions
    resourceType
    isActive
    description := fields.description.getD policy.description
    conditions := fields.conditions.getD policy.conditions }

def addHistory (database : Database) (policyId : Nat) (policyName : String)
    (changeType : PolicyChangeType) (previousDefinition newDefinition : Option PolicyDefinition)
    (changedBy : String) (changeReason : Option String) : Database :=
  { database with
    policyHistory := database.policyHistory ++
      [⟨database.nextHistoryId, policyId, policyName, changeType, previousDefinition,
        newDefinition, changedBy, changeReason⟩]
    nextHistoryId := database.nextHistoryId + 1 }

def createPolicy (database : Database) (data : PolicyData) (changedBy : String) : Database :=
  let policy : Policy :=
    ⟨database.nextPolicyId, data.name, data.description, data.actions, data.resourceType,
      data.conditions, true, some changedBy⟩
  { database with
    policies := database.policies ++ [policy]
    nextPolicyId := database.nextPolicyId + 1 }.addHistory policy.id policy.name .created none
      (some policy.definition) changedBy none

def replacePolicy (policies : List Policy) (updated : Policy) : List Policy :=
  policies.map fun policy => if policy.id = updated.id then updated else policy

/-- `none` is an integrity error: a null in a required column, or a name that is taken. -/
def updatePolicy (database : Database) (policy : Policy) (fields : PolicyFields)
    (changedBy : String) (changeReason : Option String) (changeType : PolicyChangeType) :
    Option Database := do
  let updated ← fields.apply policy
  if database.policies.any fun other => other.id != policy.id && other.name == updated.name then
    none
  else
    some ({ database with
      policies := replacePolicy database.policies updated }.addHistory updated.id updated.name
        changeType (some policy.definition) (some updated.definition) changedBy changeReason)

def deletePolicy (database : Database) (policy : Policy) (changedBy : String)
    (changeReason : Option String) : Database :=
  { database with
    policies := database.policies.filter (·.id != policy.id)
    userPolicies := database.userPolicies.filter (·.policyId != policy.id) }.addHistory policy.id
      policy.name .deleted (some policy.definition) none changedBy changeReason

/-! ## Assignments and direct grants -/

def assignPolicyToUser (database : Database) (userId policyId : Nat)
    (assignedBy : Option String) : Database :=
  if database.userHoldsPolicy userId policyId then database
  else
    { database with
      userPolicies := database.userPolicies ++ [⟨userId, policyId, assignedBy⟩] }

def removeAssignment (database : Database) (userId policyId : Nat) : Database :=
  { database with
    userPolicies := database.userPolicies.filter fun link =>
      !(link.userId == userId && link.policyId == policyId) }

def isGrantKey (userId : Nat) (action resourceType : String) (grant : UserPermission) : Bool :=
  grant.userId == userId && grant.action == action && grant.resourceType == resourceType

def holdsGrant (database : Database) (userId : Nat) (action resourceType : String) : Bool :=
  database.userPermissions.any (isGrantKey userId action resourceType)

/-- The existing row gets the new conditions and becomes active again; otherwise one is added. -/
def assignPermissionToUser (database : Database) (userId : Nat) (action resourceType : String)
    (conditions : Json) (assignedBy : Option String) : Database :=
  if database.holdsGrant userId action resourceType then
    { database with
      userPermissions := database.userPermissions.map fun grant =>
        if isGrantKey userId action resourceType grant then
          { grant with conditions, isActive := true, assignedBy }
        else grant }
  else
    { database with
      userPermissions := database.userPermissions ++
        [⟨userId, action, resourceType, conditions, true, assignedBy⟩] }

def removePermission (database : Database) (userId : Nat) (action resourceType : String) :
    Database :=
  { database with
    userPermissions := database.userPermissions.filter fun grant =>
      !isGrantKey userId action resourceType grant }

/-- `revoke_single_action` after its checks: the assignment becomes direct grants for the
policy's other actions, in one commit.  A repeated action without an existing row would be
inserted twice, which the unique key refuses. -/
def revokeSingleAction (database : Database) (userId : Nat) (policy : Policy) (action : String)
    (revokedBy : Option String) : Option Database :=
  let remainingActions := policy.actions.filter (· != action)
  let inserted := remainingActions.filter fun remaining =>
    !database.holdsGrant userId remaining policy.resourceType
  if inserted.Nodup then
    some ((remainingActions.foldl (fun current remaining =>
      current.assignPermissionToUser userId remaining policy.resourceType policy.conditions
        revokedBy) database).removeAssignment userId policy.id)
  else none

end Database

end MysticAuth
