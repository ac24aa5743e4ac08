import MysticAuth.Authorization.TransactionRoutes

/-!
# Policies and their history under concurrent requests

Every mutation of a policy inserts a `policy_history` row in its own
transaction, and an entry takes its id when it is inserted.  A creation and an
update insert theirs while the row is theirs.  A deletion takes its snapshot
from the route's own read, inserts it, and only then waits for the row.
-/

set_option autoImplicit false

namespace MysticAuth.PolicyVersions

open Python Interleaving

/-! ## Rows and row locks -/

structure PolicyLock where
  thread : Nat
  policyId : Nat
  deriving DecidableEq

structure Store where
  database : Database
  policyLocks : List PolicyLock

namespace Store

/-- Whether a transaction of another thread has locked the row. -/
def policyLocked (store : Store) (thread policyId : Nat) : Bool :=
  store.policyLocks.any fun lock => lock.thread != thread && lock.policyId == policyId

/-- The end of a thread's transaction. -/
def release (store : Store) (thread : Nat) : Store :=
  { store with policyLocks := store.policyLocks.filter (·.thread != thread) }

def withDatabase (store : Store) (database : Database) : Store :=
  { store with database }

end Store

/-- The rows that a deletion leaves once its DELETE and its commit are through, with the history
entry it has inserted before.  A row that is gone already is no error. -/
def deleteInserted (database : Database) (policy : Policy) (historyId : Nat) (changedBy : String)
    (changeReason : Option String) : Database :=
  { database with
    policies := database.policies.filter (·.id != policy.id)
    userPolicies := database.userPolicies.filter (·.policyId != policy.id)
    policyHistory := database.policyHistory ++
      [⟨historyId, policy.id, policy.name, .deleted, some policy.definition, none, changedBy,
        changeReason⟩] }

def takeHistoryId (database : Database) : Database :=
  { database with nextHistoryId := database.nextHistoryId + 1 }

/-- With nothing in between, the two statements are the deletion in one go. -/
theorem deleteInserted_takeHistoryId (database : Database) (policy : Policy) (changedBy : String)
    (changeReason : Option String) :
    deleteInserted (takeHistoryId database) policy database.nextHistoryId changedBy changeReason =
      database.deletePolicy policy changedBy changeReason :=
  rfl

/-! ## Calls -/

/-- Why a creation's transaction failed. -/
inductive CreateFailure where
  | integrityError
  | other
  deriving DecidableEq

inductive Call where
  /-- the route's dependency, and the grant guard; both may be decided on stale cached grants -/
  | authorize (caller action resourceType : String) (context : Option Dict)
  | assertAuthorizedToGrant (caller : String) (context : Option Dict) (proposal : Proposal)
  | getByName (name : String)
  | getHistoryById (historyId : Nat)
  | commitCreate (data : Database.PolicyData) (changedBy : String)
  | lockPolicy (policy : Policy)
  | commitUpdate (locked : Policy) (fields : Database.PolicyFields) (changedBy : String)
      (changeReason : Option String) (changeType : PolicyChangeType)
  | refreshPolicy (policy : Policy)
  | insertDeletion (policy : Policy) (changedBy : String) (changeReason : Option String)
  | commitDelete (policy : Policy) (historyId : Nat) (changedBy : String)
      (changeReason : Option String)

@[reducible] def Reply : Call → Type
  | .authorize _ _ _ _ => Bool
  | .assertAuthorizedToGrant _ _ _ => Except Failure Unit
  | .getByName _ => Option Policy
  | .getHistoryById _ => Option PolicyHistoryEntry
  | .commitCreate _ _ => Except CreateFailure Policy
  | .lockPolicy _ => Option Policy
  | .commitUpdate _ _ _ _ _ => Except Failure Policy
  | .refreshPolicy _ => Option Policy
  | .insertDeletion _ _ _ => Except Failure Nat
  | .commitDelete _ _ _ _ => Except Failure Unit

/-- An answered call. -/
abbrev Event := Interleaving.Event Reply

/-- What the guard can say to a proposal. -/
def guardAnswers (proposal : Proposal) : List (Except Failure Unit) :=
  .ok () :: .error .unhandled :: proposal.actions.flatMap fun action =>
    [raiseApp (cannotGrantUnheldAction action), raiseApp (cannotGrantBroaderConditions action)]

/-- `db.flush()` of a new row; the name is unique. -/
def createOutcomes (store : Store) (data : Database.PolicyData) (changedBy : String) :
    List (Except CreateFailure Policy × Store) :=
  let database := store.database
  let created : Policy :=
    ⟨database.nextPolicyId, data.name, data.description, data.actions, data.resourceType,
      data.conditions, true, some changedBy⟩
  let failed := (.error .other, store)
  if database.policies.any (·.name == data.name) then [(.error .integrityError, store), failed]
  else [(.ok created, store.withDatabase (database.createPolicy data changedBy)), failed]

/-- A transaction takes effect or fails; it waits while another one holds its row. -/
def committed {α : Type} (waits : Bool) (thread : Nat) (store : Store)
    (after : Option (α × Database)) : List (Except Failure α × Store) :=
  if waits then []
  else
    let failed := (.error .unhandled, store.release thread)
    match after with
    | none => [failed]
    | some (value, database) => [(.ok value, (store.withDatabase database).release thread), failed]

def outcomes (thread : Nat) (call : Call) (store : Store) : List (Reply call × Store) :=
  let database := store.database
  match call with
  | .authorize _ _ _ _ => [(true, store), (false, store)]
  | .assertAuthorizedToGrant _ _ proposal =>
      (guardAnswers proposal).map fun answer => (answer, store)
  | .getByName name => [(database.getByName name, store)]
  | .getHistoryById historyId => [(database.getHistoryById historyId, store)]
  | .commitCreate data changedBy => createOutcomes store data changedBy
  | .lockPolicy policy =>
      if store.policyLocked thread policy.id then []
      else
        match database.policies.find? (·.id == policy.id) with
        | none => [(none, store)]
        | some locked =>
            [(some locked,
              { store with policyLocks := ⟨thread, policy.id⟩ :: store.policyLocks })]
  | .commitUpdate locked fields changedBy changeReason changeType =>
      committed (store.policyLocked thread locked.id) thread store do
        let updated ← fields.apply locked
        let after ← database.updatePolicy locked fields changedBy changeReason changeType
        some (updated, after)
  | .refreshPolicy policy => [(database.policies.find? (·.id == policy.id), store)]
  | .insertDeletion _ _ _ =>
      [(.ok database.nextHistoryId, store.withDatabase (takeHistoryId database)),
        (.error .unhandled, store)]
  | .commitDelete policy historyId changedBy changeReason =>
      committed (store.policyLocked thread policy.id) thread store
        (some ((), deleteInserted database policy historyId changedBy changeReason))

/-! ## The routes -/

abbrev Service (α : Type) := Program Reply Failure α

def execute {α : Type} (call : Call) (result : Reply call → Except Failure α) : Service α :=
  .attempt call result

def lift {α : Type} (result : Except Failure α) : Service α :=
  .done result

inductive Response where
  | policy (policy : Policy)
  | detail (text : String)

inductive Operation where
  | createPolicy (data : Database.PolicyData)
  | updatePolicy (policyName : String) (fields : Database.PolicyFields)
      (changeReason : Option String)
  | rollbackPolicy (policyName : String) (historyId : Nat) (reason : Option String)
  | deletePolicy (policyName : String) (reason : Option String)

section Routes

variable (server : Server) (reprText : Json → String) (request : Request)

def requireAuthorization (permission : Permission) : Service Unit :=
  let context := buildAuthorizationContext request.ipAddress request.dependencyTime
  execute (.authorize request.caller permission.value "policies" (some context)) fun allowed =>
    refuseIf (!allowed) insufficientPermissions

def requireGrant (proposal : Proposal) : Service Unit :=
  execute (.assertAuthorizedToGrant request.caller request.context proposal) id

def findPolicy (policyName : String) : Service Policy :=
  execute (.getByName policyName) fun found => getOr404 found policyNotFound

def refuseName (name : String) : Service Unit :=
  execute (.getByName name) fun existing => refuseIf existing.isSome (policyNameExists name)

/-- The unique constraint decides the race of two creations. -/
def create (data : Database.PolicyData) (changedBy : String) : Service Policy :=
  execute (.commitCreate data changedBy) fun
    | .ok policy => .ok policy
    | .error .integrityError => raiseApp (policyNameExists data.name)
    | .error .other => .error .unhandled

def createPolicy (data : Database.PolicyData) : Service Response := do
  requireAuthorization request .policiesCreate
  let data := { data with actions := dedupeActions data.actions }
  lift (requireValidConditions server reprText data.conditions)
  refuseName data.name
  requireGrant request ⟨data.actions, data.resourceType, data.conditions⟩
  let policy ← create data request.caller
  return .policy policy

/-- `PolicyRepository.update`. -/
def update (policy : Policy) (fields : Database.PolicyFields) (changedBy : String)
    (changeReason : Option String) (changeType : PolicyChangeType) : Service Policy := do
  let locked ← execute (.lockPolicy policy) fun found =>
    getOr404 found (Transactions.policyDeleted policy.name)
  let updated ← execute (.commitUpdate locked fields changedBy changeReason changeType) id
  execute (.refreshPolicy locked) fun found =>
    getOr404 found (Transactions.policyDeletedAfterUpdate updated.name)

def refuseTakenName (policy : Policy) (fields : Database.PolicyFields) : Service Unit :=
  if renames policy fields.name then
    match fields.name with
    | some (some name) => refuseName name
    | _ => return ()
  else return ()

def guardCurrent (policy : Policy) (fields : Database.PolicyFields) : Service Unit :=
  if touchesGrants fields || deactivates fields then requireGrant request policy.proposal
  else return ()

def guardTarget (policy : Policy) (fields : Database.PolicyFields) : Service Unit :=
  if touchesGrants fields then do
    let actions ← lift (fieldOr policy.actions fields.actions)
    let resourceType ← lift (fieldOr policy.resourceType fields.resourceType)
    requireGrant request ⟨actions, resourceType, fields.conditions.getD policy.conditions⟩
  else return ()

def updatePolicy (policyName : String) (fields : Database.PolicyFields)
    (changeReason : Option String) : Service Response := do
  requireAuthorization request .policiesUpdate
  let fields := Transactions.dedupeFields fields
  let policy ← findPolicy policyName
  lift (requireValidConditions server reprText (fields.conditions.getD .null))
  lift (refuseIf (isProtected policy.name && renames policy fields.name)
    (baselinePolicyCannotBeRenamed policy.name))
  refuseTakenName policy fields
  lift (refuseIf (isProtected policy.name && deactivates fields)
    (baselinePolicyCannotBeDeactivated policy.name))
  guardCurrent request policy fields
  guardTarget request policy fields
  let updated ← update policy fields request.caller changeReason .updated
  return .policy updated

def rollbackPolicy (policyName : String) (historyId : Nat) (reason : Option String) :
    Service Response := do
  requireAuthorization request .policiesUpdate
  let policy ← findPolicy policyName
  let entry ← execute (.getHistoryById historyId) fun found => getOr404 found historyEntryNotFound
  lift (refuseIf (entry.policyName != policyName) historyEntryNotFound)
  let target := entry.definition
  lift (requireValidConditions server reprText ((target.map (·.conditions)).getD .null))
  lift (refuseIf (isProtected policy.name && target.map (·.name) != some policy.name)
    (baselinePolicyCannotBeRenamed policy.name))
  lift (refuseIf (isProtected policy.name && target.map (·.isActive) == some false)
    (baselinePolicyCannotBeDeactivated policy.name))
  requireGrant request policy.proposal
  requireGrant request (Transactions.rollbackProposal policy target)
  let updated ← update policy (Transactions.rollbackFields target) request.caller
    (some (rollbackReason historyId reason)) .rolledBack
  return .policy updated

/-- `PolicyRepository.delete`: the row is not read again, and not locked before the insert. -/
def delete (policy : Policy) (changedBy : String) (changeReason : Option String) :
    Service Unit := do
  let historyId ← execute (.insertDeletion policy changedBy changeReason) id
  execute (.commitDelete policy historyId changedBy changeReason) id

def deletePolicy (policyName : String) (reason : Option String) : Service Response := do
  requireAuthorization request .policiesDelete
  let policy ← findPolicy policyName
  lift (refuseIf (isProtected policyName) (baselinePolicyCannotBeDeleted policyName))
  lift (refuseIf policy.isActive (policyMustBeInactiveToDelete policyName))
  requireGrant request policy.proposal
  delete policy request.caller reason
  return .detail s!"Policy '{policyName}' deleted successfully"

def handle : Operation → Service Response
  | .createPolicy data => createPolicy server reprText request data
  | .updatePolicy policyName fields changeReason =>
      updatePolicy server reprText request policyName fields changeReason
  | .rollbackPolicy policyName historyId reason =>
      rollbackPolicy server reprText request policyName historyId reason
  | .deletePolicy policyName reason => deletePolicy request policyName reason

end Routes

/-- Requests come with their callers and clocks; nothing else touches the two tables. -/
def system (server : Server) (reprText : Json → String) :
    System (Request × Operation) Store Unit Reply Failure Response where
  handle request := handle server reprText request.1 request.2
  outcomes := outcomes
  disturb _ store := store

end MysticAuth.PolicyVersions
