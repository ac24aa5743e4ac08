import MysticAuth.Authorization.BulkGrants
import MysticAuth.Authorization.Routes

/-!
# Removing policies in bulk

The bulk route resolves and guards its items one after another against the
tables as they are, counts the superuser assignments it is going to remove, and
deletes the rows of all accepted items in one commit.
-/

set_option autoImplicit false

namespace MysticAuth.BulkRemovals

open Python PolicyEvaluationEngine
open BulkGrants (BulkItemResult BulkStatus)

structure BulkPolicyItem where
  userEmail : String
  policyName : String

/-- What the loop has made of an item: an error code, or the user and the policy to part. -/
abbrev Decision := Except String (User × Policy)

def pairKey (valid : User × Policy) : Nat × Nat :=
  (valid.1.id, valid.2.id)

def linkKey (link : UserPolicy) : Nat × Nat :=
  (link.userId, link.policyId)

/-- `get_holder_emails`: the users joined with the assignments of the policy. -/
def holderEmails (database : Database) (policyId : Nat) : List String :=
  (database.userPolicies.filter (·.policyId == policyId)).flatMap fun link =>
    (database.users.filter (·.id == link.userId)).map User.email

/-! ## The repository -/

/-- The rows of the listed users and the listed policies. -/
def existingRows (database : Database) (validItems : List (User × Policy)) : List UserPolicy :=
  database.userPolicies.filter fun link =>
    decide (link.userId ∈ validItems.map (·.1.id)) && decide (link.policyId ∈ validItems.map (·.2.id))

def removalResult (existing : List UserPolicy) (valid : User × Policy) : BulkItemResult :=
  if pairKey valid ∈ existing.map linkKey then ⟨valid.1.email, valid.2.name, .success, none⟩
  else ⟨valid.1.email, valid.2.name, .error, some "not_held"⟩

/-- Deleting a row twice in one session is deleting it once. -/
def bulkRemovePolicies (database : Database) (validItems : List (User × Policy)) :
    Database × List BulkItemResult :=
  let existing := existingRows database validItems
  let deleted := validItems.map pairKey
  ({ database with
      userPolicies := database.userPolicies.filter fun link =>
        !(decide (linkKey link ∈ existing.map linkKey) && decide (linkKey link ∈ deleted)) },
    validItems.map (removalResult existing))

/-! ## The bulk route -/

section Routes

variable (server : Server) (database : Database) (request : Request)

/-- `user_crud.get_by_emails`: one query over the normalized addresses, keyed by the stored one. -/
def getByEmails (emails : List String) (email : String) : Option User :=
  (database.users.filter fun user =>
    decide (user.email ∈ emails.map server.normalizeEmail)).find? (·.email == email)

def getPoliciesByNames (names : List String) (name : String) : Option Policy :=
  (database.policies.filter fun policy => decide (policy.name ∈ names)).find? (·.name == name)

/-- `assert_authorized_to_grant` with the cache that the items of the batch share. -/
def guardShared (policy : Policy) (cache : GrantCache) : Except Failure Unit × GrantCache :=
  let (outcome, cache') := assertAuthorizedToGrant server.runtime (database.holdings request.caller)
    request.caller request.context policy.proposal (some cache)
  (outcome, cache'.getD [])

def resolvePolicyItem (usersByEmail : String → Option User) (policiesByName : String → Option Policy)
    (item : BulkPolicyItem) (cache : GrantCache) : Except Failure Decision × GrantCache :=
  match usersByEmail item.userEmail, policiesByName item.policyName with
  | none, _ => (.ok (.error "USER_NOT_FOUND"), cache)
  | some _, none => (.ok (.error "POLICY_NOT_FOUND"), cache)
  | some user, some policy =>
      if user.role = .system then (.ok (.error "SYSTEM_USER_CANNOT_BE_MODIFIED"), cache)
      else
        match guardShared server database request policy cache with
        | (.ok (), cache) => (.ok (.ok (user, policy)), cache)
        | (.error (.app _), cache) => (.ok (.error "CANNOT_GRANT_UNHELD_ACTION"), cache)
        | (.error .unhandled, cache) => (.error .unhandled, cache)

/-- The lockout guard: the decision for a resolved item, and the removals staged after it. -/
def stageRemoval (holders : List String) (item : BulkPolicyItem) (staged : Nat) :
    Decision → Decision × Nat
  | .error code => (.error code, staged)
  | .ok (user, policy) =>
      if item.policyName = systemSuperuserPolicyName ∧ user.email ∈ holders then
        if holders.length ≤ staged + 1 then
          (.error "CANNOT_REMOVE_LAST_SUPERUSER_ASSIGNMENT", staged)
        else (.ok (user, policy), staged + 1)
      else (.ok (user, policy), staged)

/-- The loop over the items. -/
def decideItems (usersByEmail : String → Option User) (policiesByName : String → Option Policy)
    (holders : List String) :
    List BulkPolicyItem → GrantCache → Nat → Except Failure (List Decision)
  | [], _, _ => .ok []
  | item :: rest, cache, staged =>
      match resolvePolicyItem server database request usersByEmail policiesByName item cache with
      | (.error failure, _) => .error failure
      | (.ok resolved, cache) =>
          let (decision, staged) := stageRemoval holders item staged resolved
          (decideItems usersByEmail policiesByName holders rest cache staged).map (decision :: ·)

def errorResult : BulkPolicyItem × Decision → Option BulkItemResult
  | (item, .error code) => some ⟨item.userEmail, item.policyName, .error, some code⟩
  | (_, .ok _) => none

/-- What the route did: its decision for each item, the tables and the results it responds with. -/
structure BulkRemoval where
  decisions : List Decision
  after : Database
  results : List BulkItemResult

def superuserHolders (policiesByName : String → Option Policy) : List String :=
  match policiesByName systemSuperuserPolicyName with
  | some policy => (holderEmails database policy.id).dedup
  | none => []

def bulkRemove (items : List BulkPolicyItem) : Except Failure BulkRemoval := do
  requireAuthorization server database request .policiesRevoke "policies"
  let usersByEmail := getByEmails server database (items.map BulkPolicyItem.userEmail)
  let policiesByName := getPoliciesByNames database (items.map BulkPolicyItem.policyName)
  let decisions ← decideItems server database request usersByEmail policiesByName
    (superuserHolders database policiesByName) items [] 0
  let (after, repoResults) := bulkRemovePolicies database (decisions.filterMap Except.toOption)
  .ok ⟨decisions, after, (items.zip decisions).filterMap errorResult ++ repoResults⟩

/-! ## Item by item -/

inductive ItemOutcome where
  | removed
  | userNotFound
  | policyNotFound
  | systemUser
  | notGrantable
  | notHeld
  | lastSuperuser
  | forbidden
  | failed
  deriving DecidableEq

/-- The two routes have codes of their own for an assignment that is not held, and the batch one
code for both refusals of the guard. -/
def outcomeOfCode (code : String) : ItemOutcome :=
  if code = "USER_NOT_FOUND" then .userNotFound
  else if code = "POLICY_NOT_FOUND" then .policyNotFound
  else if code = "SYSTEM_USER_CANNOT_BE_MODIFIED" then .systemUser
  else if code = "CANNOT_GRANT_UNHELD_ACTION" ∨ code = "CANNOT_GRANT_BROADER_CONDITIONS" then
    .notGrantable
  else if code = "not_held" ∨ code = "POLICY_NOT_HELD_BY_USER" then .notHeld
  else if code = "CANNOT_REMOVE_LAST_SUPERUSER_ASSIGNMENT" then .lastSuperuser
  else if code = "INSUFFICIENT_PERMISSIONS" then .forbidden
  else .failed

def outcomeOfFailure : Failure → ItemOutcome
  | .app error => outcomeOfCode error.code
  | .unhandled => .failed

def outcomeOfResult (result : BulkItemResult) : ItemOutcome :=
  match result.error with
  | none => .removed
  | some code => outcomeOfCode code

/-- The result of an item in the response. -/
def itemResult (existing : List UserPolicy) (item : BulkPolicyItem) (decision : Decision) :
    BulkItemResult :=
  match decision with
  | .error code => ⟨item.userEmail, item.policyName, .error, some code⟩
  | .ok valid => removalResult existing valid

/-- The batch, item by item. -/
def removeInBulk (items : List BulkPolicyItem) : List ItemOutcome × Database :=
  match bulkRemove server database request items with
  | .error failure => (items.map fun _ => outcomeOfFailure failure, database)
  | .ok removal =>
      let existing := existingRows database (removal.decisions.filterMap Except.toOption)
      ((items.zip removal.decisions).map fun entry =>
        outcomeOfResult (itemResult existing entry.1 entry.2), removal.after)

/-- One item through the single route. -/
def removeSingle (item : BulkPolicyItem) : ItemOutcome × Database :=
  match removePolicyFromUser server database request item.userEmail item.policyName with
  | .error failure => (outcomeOfFailure failure, database)
  | .ok accepted => (.removed, accepted.after)

end Routes

/-- The items one after another through the single route. -/
def removeEach (server : Server) (request : Request) :
    List BulkPolicyItem → Database → List ItemOutcome × Database
  | [], database => ([], database)
  | item :: rest, database =>
      let (outcome, after) := removeSingle server database request item
      let (outcomes, last) := removeEach server request rest after
      (outcome :: outcomes, last)

end MysticAuth.BulkRemovals
