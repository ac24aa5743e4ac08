import Mathlib.Data.List.Dedup
import Mathlib.Data.Prod.Lex
import MysticAuth.Authorization.Store
import MysticAuth.Python.Datetime
import MysticAuth.Sql.OrderedPages
import MysticAuth.Users.BulkSelection

/-!
# Filtering the user list

The list and its count put the same optional filters on one statement.  A
permission is looked for among the assigned policies, active or not, and among
the active direct grants.
-/

set_option autoImplicit false

namespace MysticAuth.Users

open Python

/-! ## Tables and filters -/

structure UserRow where
  id : Nat
  name : String
  email : String
  role : Option UserRole
  isVerified : Bool
  isActive : Bool
  deletedAt : Option Int
  lastLoginAt : Option Int
  createdAt : Int
  deriving DecidableEq

structure AccountTables where
  users : List UserRow
  policies : List Policy
  userPolicies : List UserPolicy
  userPermissions : List UserPermission

inductive UserStatus where
  | active
  | inactive
  | deleted

inductive LastLoginBucket where
  | today
  | sevenDays
  | thirtyDays
  | ninetyDays
  | never

/-- `_LAST_LOGIN_BUCKET_DAYS` -/
def LastLoginBucket.days : LastLoginBucket → Option Int
  | today => some 1
  | sevenDays => some 7
  | thirtyDays => some 30
  | ninetyDays => some 90
  | never => none

structure UserFilters where
  search : Option String
  role : Option UserRole
  isVerified : Option Bool
  status : Option UserStatus
  policy : Option String
  permission : Option String
  permissionSource : Option PermissionSource
  lastLogin : Option LastLoginBucket
  lastLoginFrom : Option Int
  lastLoginTo : Option Int

/-- What the locale of the database decides about texts: `ILIKE`, and the keys they are sorted by. -/
structure Collation (κ : Type) where
  ilike : String → String → Bool
  sortKey : String → κ

/-! ## The statement -/

/-- The rows of `FROM` and `WHERE`, and whether they are selected `DISTINCT`. -/
structure Statement where
  rows : List UserRow
  isDistinct : Bool

def Statement.filter (stmt : Statement) (condition : UserRow → Bool) : Statement :=
  { stmt with rows := stmt.rows.filter condition }

def Statement.filterIf (stmt : Statement) : Option (UserRow → Bool) → Statement
  | none => stmt
  | some condition => stmt.filter condition

def ilikePattern (value : String) : String :=
  let escaped := ((value.replace "\\" "\\\\").replace "%" "\\%").replace "_" "\\_"
  "%" ++ escaped ++ "%"

section Filters

variable {κ : Type} (collation : Collation κ) (now : Int) (tables : AccountTables)

def searchFilter (search : Option String) : Option (UserRow → Bool) :=
  match search with
  | none | some "" => none
  | some text =>
      some fun row => collation.ilike row.name (ilikePattern text) ||
        collation.ilike row.email (ilikePattern text)

def statusFilter : Option UserStatus → Option (UserRow → Bool)
  | some .deleted => some fun row => row.deletedAt.isSome
  | some .inactive => some fun row => !row.isActive && row.deletedAt.isNone
  | some .active => some fun row => row.isActive && row.deletedAt.isNone
  | none => none

def lastLoginFilter (lastLogin : Option LastLoginBucket) (lastLoginFrom lastLoginTo : Option Int) :
    Option (UserRow → Bool) :=
  match lastLogin with
  | some .never => some fun row => row.lastLoginAt.isNone
  | bucket =>
      match bucket.bind LastLoginBucket.days with
      | some days => some fun row => row.lastLoginAt.any fun at' => now - days * dayMicros ≤ at'
      | none =>
          if lastLoginFrom.isSome || lastLoginTo.isSome then
            some fun row => row.lastLoginAt.any fun at' =>
              lastLoginFrom.all (· ≤ at') && lastLoginTo.all (at' ≤ ·)
          else none

/-- The part of `_apply_filters` that reads the columns of the user alone. -/
def applyColumnFilters (filters : UserFilters) (stmt : Statement) : Statement :=
  let stmt := stmt.filterIf (searchFilter collation filters.search)
  let stmt := stmt.filterIf (filters.role.map fun role row => row.role == some role)
  let stmt := stmt.filterIf (filters.isVerified.map fun verified row => row.isVerified == verified)
  let status :=
    if filters.isVerified.isSome && filters.status.isNone then some .active else filters.status
  let stmt := stmt.filterIf (statusFilter status)
  stmt.filterIf (lastLoginFilter now filters.lastLogin filters.lastLoginFrom filters.lastLoginTo)

/-- The policies that are joined to a user over the assignments. -/
def assignedPolicies (row : UserRow) : List Policy :=
  (tables.userPolicies.filter (·.userId == row.id)).flatMap fun link =>
    tables.policies.filter (·.id == link.policyId)

def existsPolicy (permission : String) (row : UserRow) : Bool :=
  (assignedPolicies tables row).any (·.actions.contains permission)

def existsDirectGrant (permission : String) (row : UserRow) : Bool :=
  tables.userPermissions.any fun grant =>
    grant.userId == row.id && grant.action == permission && grant.isActive

/-- The join with the assignments and the policies, `where` on the columns of the policy. -/
def Statement.joinPolicies (stmt : Statement) (condition : Policy → Bool) : Statement where
  rows := stmt.rows.flatMap fun row =>
    ((assignedPolicies tables row).filter condition).map fun _ => row
  isDistinct := true

def applyAccessFilters (filters : UserFilters) (stmt : Statement) : Statement :=
  match filters.policy, filters.permission, filters.permissionSource with
  | some policy, none, _ => stmt.joinPolicies tables (·.name == policy)
  | some policy, some permission, _ =>
      stmt.joinPolicies tables fun row => row.name == policy && row.actions.contains permission
  | none, some permission, some .policy => stmt.filter (existsPolicy tables permission)
  | none, some permission, some .direct => stmt.filter (existsDirectGrant tables permission)
  | none, some permission, none =>
      stmt.filter fun row =>
        existsPolicy tables permission row || existsDirectGrant tables permission row
  | none, none, _ => stmt

def applyFilters (filters : UserFilters) (stmt : Statement) : Statement :=
  applyAccessFilters tables filters (applyColumnFilters collation now filters stmt)

end Filters

/-! ## The list and its count -/

section Requests

variable {κ : Type} [LinearOrder κ] (collation : Collation κ) (now : Int) (tables : AccountTables)

/-- The order of an enumeration is that of its declaration. -/
def roleRank : UserRole → Nat
  | .user => 0
  | .admin => 1
  | .system => 2

open Sql in
/-- Nulls sort above every value, except for `last_login_at`, where they come last. -/
def orderBy (sortBy : Option String) (sortDir : String) : UserRow → UserRow → Bool :=
  let direction : Direction := if sortDir = "asc" then .asc else .desc
  match sortBy with
  | some "name" => directed direction fun row => toLex (collation.sortKey row.name, row.id)
  | some "email" => directed direction fun row => toLex (collation.sortKey row.email, row.id)
  | some "role" =>
      directed direction fun row => toLex (nullsAbove (row.role.map roleRank), row.id)
  | some "created_at" => directed direction fun row => toLex (row.createdAt, row.id)
  | some "is_verified" => directed direction fun row => toLex (row.isVerified, row.id)
  | some "last_login_at" =>
      match direction with
      | .asc => directed .asc fun row => toLex (nullsAbove row.lastLoginAt, row.id)
      | .desc => directed .desc fun row => toLex (nullsBelow row.lastLoginAt, row.id)
  | _ => directed direction fun row => row.id

def Statement.selected (stmt : Statement) : List UserRow :=
  if stmt.isDistinct then stmt.rows.dedup else stmt.rows

def getAll (limit offset : Nat) (filters : UserFilters) (sortBy : Option String)
    (sortDir : String) : List UserRow :=
  Sql.select (orderBy collation sortBy sortDir)
    (applyFilters collation now tables filters ⟨tables.users, false⟩).selected limit offset

/-- `page` is what the database may answer to the statement of `getAll`. -/
def IsAnswer (limit offset : Nat) (filters : UserFilters) (sortBy : Option String)
    (sortDir : String) (page : List UserRow) : Prop :=
  Sql.Answers (orderBy collation sortBy sortDir)
    (applyFilters collation now tables filters ⟨tables.users, false⟩).selected limit offset page

omit [LinearOrder κ] in
def count (filters : UserFilters) : Nat :=
  ((applyFilters collation now tables filters ⟨tables.users, false⟩).rows.map UserRow.id).dedup.length

end Requests

/-! ## Effective grants -/

section Effective

variable (tables : AccountTables)

def isUserWithEmail (userId : Nat) (email : String) : Bool :=
  tables.users.any fun row => row.id == userId && row.email == email

def getActivePoliciesForUser (email : String) : List Policy :=
  tables.policies.filter fun policy =>
    policy.isActive && tables.userPolicies.any fun link =>
      link.policyId == policy.id && isUserWithEmail tables link.userId email

def getActivePermissionsForUser (email : String) : List UserPermission :=
  tables.userPermissions.filter fun grant =>
    grant.isActive && isUserWithEmail tables grant.userId email

end Effective

end MysticAuth.Users
