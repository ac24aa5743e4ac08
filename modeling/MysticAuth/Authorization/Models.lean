import MysticAuth.Authorization.Evaluator

/-!
# Policies, assignments and direct grants

The rows of the authorization tables.  A conditions column holds JSONB, `null`
for an unconditional grant.
-/

set_option autoImplicit false

namespace MysticAuth

open Python

def selfServicePolicyName : String := "self_service"

def userManagementPolicyName : String := "user_management"

def systemSuperuserPolicyName : String := "system_superuser"

structure Policy where
  id : Nat
  name : String
  description : Option String
  actions : List String
  resourceType : String
  conditions : Json
  isActive : Bool
  createdBy : Option String

structure UserPolicy where
  userId : Nat
  policyId : Nat
  assignedBy : Option String
  deriving DecidableEq

structure UserPermission where
  userId : Nat
  action : String
  resourceType : String
  conditions : Json
  isActive : Bool
  assignedBy : Option String

def Policy.toGrant (policy : Policy) : Grant :=
  ⟨policy.name, policy.actions, policy.resourceType, policy.conditions⟩

/-- The transient policy a direct grant is evaluated as. -/
def UserPermission.toGrant (permission : UserPermission) : Grant :=
  ⟨s!"direct:{permission.action}", [permission.action], permission.resourceType,
    permission.conditions⟩

/-- What the two cache-aside reads return for one user. -/
structure Holdings where
  activePolicies : List Policy
  activePermissions : List UserPermission

/-- `AuthorizationService._get_effective_policies`. -/
def Holdings.effectivePolicies (holdings : Holdings) : List Grant :=
  holdings.activePolicies.map Policy.toGrant ++
    holdings.activePermissions.map UserPermission.toGrant

def Holdings.isSystemSuperuser (holdings : Holdings) : Bool :=
  holdings.activePolicies.any fun policy => policy.name == systemSuperuserPolicyName

end MysticAuth
