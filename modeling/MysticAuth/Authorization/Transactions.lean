import MysticAuth.Accounts.EmailKeys
import MysticAuth.Authorization.Routes
import MysticAuth.Interleaving.Histories

/-!
# The authorization tables and their cache under concurrent requests

Every query and every commit of a route is one step, and so is every command to
Valkey.  A row lock is held from the locking query to the end of its
transaction; whoever needs the row waits until then.
-/

set_option autoImplicit false

namespace MysticAuth.Transactions

open Python PolicyEvaluationEngine Interleaving

/-! ## Tables, row locks and the cache -/

structure AssignmentLock where
  thread : Nat
  userId : Nat
  policyId : Nat
  deriving DecidableEq

structure PolicyLock where
  thread : Nat
  policyId : Nat
  deriving DecidableEq

abbrev Cache (α : Type) := List (String × α)

def Cache.set {α : Type} (cache : Cache α) (key : String) (value : α) : Cache α :=
  (key, value) :: cache.filter fun entry => entry.1 != key

def Cache.delete {α : Type} (cache : Cache α) (keys : List String) : Cache α :=
  cache.filter fun entry => !keys.contains entry.1

/-- The cached JSON has no ids; they are kept here to tell whose grant a cached one is. -/
structure Store where
  database : Database
  policyLocks : List PolicyLock
  assignmentLocks : List AssignmentLock
  userPolicies : Cache (List Policy)
  userPermissions : Cache (List UserPermission)

/-- What a deployment fixes. -/
structure Site where
  runtime : Runtime
  keys : KeyTables
  reprText : Json → String

namespace Store

def policyLocked (store : Store) (thread policyId : Nat) : Bool :=
  store.policyLocks.any fun lock => lock.thread != thread && lock.policyId == policyId

/-- Whether a transaction of another thread has locked the row. -/
def assignmentLocked (store : Store) (thread userId policyId : Nat) : Bool :=
  store.assignmentLocks.any fun lock =>
    lock.thread != thread && lock.userId == userId && lock.policyId == policyId

def anyAssignmentLocked (store : Store) (thread policyId : Nat) : Bool :=
  store.assignmentLocks.any fun lock => lock.thread != thread && lock.policyId == policyId

def holdersOf (store : Store) (policyId : Nat) : List UserPolicy :=
  store.database.userPolicies.filter (·.policyId == policyId)

def lockHolders (store : Store) (thread policyId : Nat) : Store :=
  { store with
    assignmentLocks := (store.holdersOf policyId).map (fun link =>
      ⟨thread, link.userId, link.policyId⟩) ++ store.assignmentLocks }

/-- The end of a thread's transaction. -/
def release (store : Store) (thread : Nat) : Store :=
  { store with
    policyLocks := store.policyLocks.filter (·.thread != thread)
    assignmentLocks := store.assignmentLocks.filter (·.thread != thread) }

def withDatabase (store : Store) (database : Database) : Store :=
  { store with database }

/-- The grants of a user as both cache-aside reads would find them now. -/
def holdings (store : Store) (site : Site) (email : String) : Holdings where
  activePolicies := (store.userPolicies.lookup (site.keys.userPoliciesKey email)).getD
    (store.database.getActivePoliciesForUser email)
  activePermissions := (store.userPermissions.lookup (site.keys.userPermissionsKey email)).getD
    (store.database.getActivePermissionsForUser email)

end Store

def removeAssignments (database : Database) (items : List (User × Policy)) : Database :=
  items.foldl (fun current item => current.removeAssignment item.1.id item.2.id) database

structure PermissionItem where
  user : User
  action : String
  resourceType : String

def removePermissions (database : Database) (items : List PermissionItem) : Database :=
  items.foldl (fun current item =>
    current.removePermission item.user.id item.action item.resourceType) database

/-! ## Calls -/

inductive Call where
  /-- the route's dependency, and the grant guard with its cache of decisions -/
  | authorize (caller action resourceType : String) (context : Option Dict)
  | assertAuthorizedToGrant (caller : String) (context : Option Dict) (proposal : Proposal)
      (cache : Option GrantCache)
  | getByEmail (email : String)
  | getByEmails (emails : List String)
  | getByName (name : String)
  | getPoliciesByNames (names : List String)
  | getHistoryById (historyId : Nat)
  | userHoldsPolicy (user : User) (policy : Policy)
  | countAssignments (policy : Policy)
  | getHolderEmailsForUpdate (policy : Policy)
  | lockPolicy (policy : Policy)
  | commitUpdate (locked : Policy) (fields : Database.PolicyFields) (changedBy : String)
      (changeReason : Option String) (changeType : PolicyChangeType)
  | refreshPolicy (policy : Policy)
  | commitDelete (policy : Policy) (changedBy : String) (changeReason : Option String)
  | commitRemoval (user : User) (policy : Policy)
  | commitActionRevocation (user : User) (policy : Policy) (action : String)
      (revokedBy : Option String)
  | heldPolicies (items : List (User × Policy))
  | commitBulkRemoval (items : List (User × Policy))
  | holdsPermission (item : PermissionItem)
  | heldPermissions (items : List PermissionItem)
  | commitPermissionRemoval (item : PermissionItem)
  | commitBulkPermissionRemoval (items : List PermissionItem)
  | closeSession
  | selectPolicies (email : String)
  | selectPermissions (email : String)
  | getUserPolicies (key : String)
  | setUserPolicies (key : String) (policies : List Policy)
  | deleteUserPolicies (keys : List String)
  | scanUserPolicies
  | getUserPermissions (key : String)
  | setUserPermissions (key : String) (permissions : List UserPermission)
  | deleteUserPermissions (keys : List String)

@[reducible] def Reply : Call → Type
  | .authorize _ _ _ _ => Bool
  | .assertAuthorizedToGrant _ _ _ _ => Except Failure Unit × Option GrantCache
  | .getByEmail _ => Option User
  | .getByEmails _ => List User
  | .getByName _ => Option Policy
  | .getPoliciesByNames _ => List Policy
  | .getHistoryById _ => Option PolicyHistoryEntry
  | .userHoldsPolicy _ _ => Bool
  | .countAssignments _ => Nat
  | .getHolderEmailsForUpdate _ => List String
  | .lockPolicy _ => Option Policy
  | .commitUpdate _ _ _ _ _ => Except Failure Policy
  | .refreshPolicy _ => Option Policy
  | .commitDelete _ _ _ => Except Failure Unit
  | .commitRemoval _ _ => Except Failure Unit
  | .commitActionRevocation _ _ _ _ => Except Failure Unit
  | .heldPolicies _ => List (User × Policy)
  | .commitBulkRemoval _ => Except Failure Unit
  | .holdsPermission _ => Bool
  | .heldPermissions _ => List PermissionItem
  | .commitPermissionRemoval _ => Except Failure Unit
  | .commitBulkPermissionRemoval _ => Except Failure Unit
  | .closeSession => Unit
  | .selectPolicies _ => List Policy
  | .selectPermissions _ => List UserPermission
  | .getUserPolicies _ => Option (List Policy)
  | .setUserPolicies _ _ => Unit
  | .deleteUserPolicies _ => Unit
  | .scanUserPolicies => List String
  | .getUserPermissions _ => Option (List UserPermission)
  | .setUserPermissions _ _ => Unit
  | .deleteUserPermissions _ => Unit

/-- An answered call. -/
abbrev Event := Interleaving.Event Reply

/-- A commit takes effect or fails; it waits while another transaction holds one of its rows. -/
def committed {α : Type} (waits : Bool) (thread : Nat) (store : Store)
    (after : Option (α × Database)) : List (Except Failure α × Store) :=
  if waits then []
  else
    let failed := (.error .unhandled, store.release thread)
    match after with
    | none => [failed]
    | some (value, database) => [(.ok value, (store.withDatabase database).release thread), failed]

def outcomes (site : Site) (thread : Nat) (call : Call) (store : Store) :
    List (Reply call × Store) :=
  let database := store.database
  match call with
  | .authorize caller action resourceType context =>
      [(evaluate site.runtime (store.holdings site caller).effectivePolicies action resourceType
        caller none context, store)]
  | .assertAuthorizedToGrant caller context proposal cache =>
      [(MysticAuth.assertAuthorizedToGrant site.runtime (store.holdings site caller) caller context
        proposal cache, store)]
  | .getByEmail email => [(database.getByEmail (site.keys.normalizeEmail email), store)]
  | .getByEmails emails =>
      [(database.users.filter fun user =>
        (emails.map site.keys.normalizeEmail).contains user.email, store)]
  | .getByName name => [(database.getByName name, store)]
  | .getPoliciesByNames names =>
      [(database.policies.filter fun policy => names.contains policy.name, store)]
  | .getHistoryById historyId => [(database.getHistoryById historyId, store)]
  | .userHoldsPolicy user policy => [(database.userHoldsPolicy user.id policy.id, store)]
  | .countAssignments policy => [(database.countAssignments policy.id, store)]
  | .getHolderEmailsForUpdate policy =>
      if store.anyAssignmentLocked thread policy.id then []
      else
        [((database.users.filter fun user => database.userHoldsPolicy user.id policy.id).map
          User.email, store.lockHolders thread policy.id)]
  | .lockPolicy policy =>
      if store.policyLocked thread policy.id then []
      else
        match database.policies.find? (·.id == policy.id) with
        | none => [(none, store)]
        | some locked =>
            [(some locked,
              { store with policyLocks := ⟨thread, policy.id⟩ :: store.policyLocks })]
  | .commitUpdate locked fields changedBy changeReason changeType =>
      committed (store.policyLocked thread locked.id) thread store do
        let updated ← fields.apply locked
        let after ← database.updatePolicy locked fields changedBy changeReason changeType
        some (updated, after)
  | .refreshPolicy policy => [(database.policies.find? (·.id == policy.id), store)]
  | .commitDelete policy changedBy changeReason =>
      committed (store.policyLocked thread policy.id || store.anyAssignmentLocked thread policy.id)
        thread store (some ((), database.deletePolicy policy changedBy changeReason))
  | .commitRemoval user policy =>
      committed (store.assignmentLocked thread user.id policy.id) thread store
        (some ((), database.removeAssignment user.id policy.id))
  | .commitActionRevocation user policy action revokedBy =>
      committed (store.assignmentLocked thread user.id policy.id) thread store
        ((database.revokeSingleAction user.id policy action revokedBy).map fun after => ((), after))
  | .heldPolicies items =>
      [(items.filter fun item => database.userHoldsPolicy item.1.id item.2.id, store)]
  | .commitBulkRemoval items =>
      committed (items.any fun item => store.assignmentLocked thread item.1.id item.2.id) thread
        store (some ((), removeAssignments database items))
  | .holdsPermission item =>
      [(database.holdsGrant item.user.id item.action item.resourceType, store)]
  | .heldPermissions items =>
      [(items.filter fun item => database.holdsGrant item.user.id item.action item.resourceType,
        store)]
  | .commitPermissionRemoval item =>
      committed false thread store
        (some ((), database.removePermission item.user.id item.action item.resourceType))
  | .commitBulkPermissionRemoval items =>
      committed false thread store (some ((), removePermissions database items))
  | .closeSession => [((), store.release thread)]
  | .selectPolicies email => [(database.getActivePoliciesForUser email, store)]
  | .selectPermissions email => [(database.getActivePermissionsForUser email, store)]
  | .getUserPolicies key => [(store.userPolicies.lookup key, store)]
  | .setUserPolicies key policies =>
      [((), { store with userPolicies := store.userPolicies.set key policies })]
  | .deleteUserPolicies keys =>
      [((), { store with userPolicies := store.userPolicies.delete keys })]
  | .scanUserPolicies => [(store.userPolicies.map Prod.fst, store)]
  | .getUserPermissions key => [(store.userPermissions.lookup key, store)]
  | .setUserPermissions key permissions =>
      [((), { store with userPermissions := store.userPermissions.set key permissions })]
  | .deleteUserPermissions keys =>
      [((), { store with userPermissions := store.userPermissions.delete keys })]

abbrev Service (α : Type) := Program Reply Failure α

def perform (call : Call) : Service (Reply call) :=
  .perform call

def execute {α : Type} (call : Call) (result : Reply call → Except Failure α) : Service α :=
  .attempt call result

end MysticAuth.Transactions
