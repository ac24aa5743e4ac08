import Mathlib.Data.List.Nodup

/-!
# Built-in actions

The vocabulary of action identifiers the shipped routes check.  A policy may
also list any other, application-owned action string.
-/

set_option autoImplicit false

namespace MysticAuth

inductive Permission where
  | usersReadOwn
  | usersUpdateOwn
  | usersListAll
  | usersUpdateAny
  | usersDeactivateAny
  | usersAssignRole
  | usersReactivate
  | usersAssignSystemRole
  | usersManagePrivileged
  | usersManagePasskeys
  | usersDeleteAny
  | policiesRead
  | policiesCreate
  | policiesUpdate
  | policiesDelete
  | policiesAssign
  | policiesRevoke
  | permissionsGrant
  | permissionsRevoke
  | permissionsRead
  | securityAuditRead
  | rateLimitsRead
  | rateLimitsReset
  deriving DecidableEq

namespace Permission

def value : Permission → String
  | usersReadOwn => "users:read_own"
  | usersUpdateOwn => "users:update_own"
  | usersListAll => "users:list_all"
  | usersUpdateAny => "users:update_any"
  | usersDeactivateAny => "users:deactivate_any"
  | usersAssignRole => "users:assign_role"
  | usersReactivate => "users:reactivate"
  | usersAssignSystemRole => "users:assign_system_role"
  | usersManagePrivileged => "users:manage_privileged"
  | usersManagePasskeys => "users:manage_passkeys"
  | usersDeleteAny => "users:delete_any"
  | policiesRead => "policies:read"
  | policiesCreate => "policies:create"
  | policiesUpdate => "policies:update"
  | policiesDelete => "policies:delete"
  | policiesAssign => "policies:assign"
  | policiesRevoke => "policies:revoke"
  | permissionsGrant => "permissions:grant"
  | permissionsRevoke => "permissions:revoke"
  | permissionsRead => "permissions:read"
  | securityAuditRead => "security_audit:read"
  | rateLimitsRead => "rate_limits:read"
  | rateLimitsReset => "rate_limits:reset"

/-- In declaration order. -/
def all : List Permission :=
  [usersReadOwn, usersUpdateOwn, usersListAll, usersUpdateAny, usersDeactivateAny,
    usersAssignRole, usersReactivate, usersAssignSystemRole, usersManagePrivileged,
    usersManagePasskeys, usersDeleteAny, policiesRead, policiesCreate, policiesUpdate,
    policiesDelete, policiesAssign, policiesRevoke, permissionsGrant, permissionsRevoke,
    permissionsRead, securityAuditRead, rateLimitsRead, rateLimitsReset]

theorem mem_all (permission : Permission) : permission ∈ all := by
  cases permission <;> decide

end Permission

def builtInActions : List String :=
  Permission.all.map Permission.value

def isBuiltIn (action : String) : Bool :=
  builtInActions.contains action

end MysticAuth
