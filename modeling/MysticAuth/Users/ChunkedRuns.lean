import Mathlib.Algebra.GroupWithZero.Nat
import MysticAuth.Authorization.BulkGrants

/-!
# Bulk runs in chunks

A bulk endpoint takes at most 200 items, so a run over many users sends one
request after another, for each policy or permission in turn.  The responses
are merged, and the caches invalidated, when the last one is there.
-/

set_option autoImplicit false

namespace MysticAuth.ChunkedRuns

open Python BulkGrants

/-! ## Requests and responses -/

/-- What a request does to each of its users. -/
inductive BulkCall where
  | assignPolicy (policyName : String)
  | removePolicy (policyName : String)
  | assignPermission (action resourceType : String) (conditions : Option Json)
  | removePermission (action resourceType : String)
  | updateRole (role : String)

structure BulkRequest where
  call : BulkCall
  userEmails : List String

structure BulkResponse where
  results : List BulkItemResult
  successCount : Nat
  errorCount : Nat

namespace BulkResponse

def empty : BulkResponse := ⟨[], 0, 0⟩

/-- The response is merged into the ones before it. -/
def merge (merged data : BulkResponse) : BulkResponse :=
  ⟨merged.results ++ data.results, merged.successCount + data.successCount,
    merged.errorCount + data.errorCount⟩

def mergeAll (responses : List BulkResponse) : BulkResponse :=
  responses.foldl merge empty

theorem merge_assoc (first second third : BulkResponse) :
    (first.merge second).merge third = first.merge (second.merge third) := by
  simp [merge, Nat.add_assoc]

@[simp]
theorem empty_merge (response : BulkResponse) : empty.merge response = response := by
  simp [merge, empty]

@[simp]
theorem merge_empty (response : BulkResponse) : response.merge empty = response := by
  simp [merge, empty]

@[simp]
theorem mergeAll_nil : mergeAll [] = empty := rfl

theorem foldl_merge (merged : BulkResponse) (responses : List BulkResponse) :
    responses.foldl merge merged = merged.merge (mergeAll responses) := by
  induction responses generalizing merged with
  | nil => simp
  | cons response rest ih =>
    rw [mergeAll, List.foldl_cons, List.foldl_cons, ih, ih (empty.merge response), empty_merge,
      merge_assoc]

@[simp]
theorem mergeAll_cons (response : BulkResponse) (rest : List BulkResponse) :
    mergeAll (response :: rest) = response.merge (mergeAll rest) := by
  rw [mergeAll, List.foldl_cons, foldl_merge, empty_merge]

theorem mergeAll_append (first second : List BulkResponse) :
    mergeAll (first ++ second) = (mergeAll first).merge (mergeAll second) := by
  rw [mergeAll, List.foldl_append, foldl_merge]
  rfl

theorem results_mergeAll (responses : List BulkResponse) :
    (mergeAll responses).results = responses.flatMap results := by
  induction responses with
  | nil => rfl
  | cons response rest ih =>
    rw [mergeAll_cons, List.flatMap_cons, ← ih]
    rfl

theorem successCount_mergeAll (responses : List BulkResponse) :
    (mergeAll responses).successCount = (responses.map successCount).sum := by
  induction responses with
  | nil => rfl
  | cons response rest ih =>
    rw [mergeAll_cons, List.map_cons, List.sum_cons, ← ih]
    rfl

theorem errorCount_mergeAll (responses : List BulkResponse) :
    (mergeAll responses).errorCount = (responses.map errorCount).sum := by
  induction responses with
  | nil => rfl
  | cons response rest ih =>
    rw [mergeAll_cons, List.map_cons, List.sum_cons, ← ih]
    rfl

end BulkResponse

def summarize (results : List BulkItemResult) : BulkResponse :=
  let successCount := results.countP BulkItemResult.succeeded
  ⟨results, successCount, results.length - successCount⟩

/-- What the request with this number is answered: one result for each item, or nothing when it
fails. -/
abbrev Server :=
  Nat → (request : BulkRequest) →
    Option {results : List BulkItemResult // results.length = request.userEmails.length}

/-- The requests sent so far, and those of them that were answered. -/
structure Progress where
  sent : Nat
  answered : List (BulkRequest × BulkResponse)

/-- A failed request is thrown, but what was sent and answered stays. -/
abbrev Run := OptionT (StateM Progress)

def post (server : Server) (request : BulkRequest) : Run BulkResponse :=
  .mk fun progress =>
    match server progress.sent request with
    | none => (none, ⟨progress.sent + 1, progress.answered⟩)
    | some results =>
        let response := summarize results.val
        (some response, ⟨progress.sent + 1, progress.answered ++ [(request, response)]⟩)

/-! ## The loops -/

def chunk {α : Type} (items : List α) (size : Nat) : List (List α) :=
  (List.range ((items.length + size - 1) / size)).map fun i => (items.drop (i * size)).take size

def bulkRequestChunkSize : Nat := 200

/-- `runChunkedBulk` from `merged` on. -/
def runChunks (server : Server) (call : BulkCall) :
    List (List String) → BulkResponse → Run BulkResponse
  | [], merged => pure merged
  | emailChunk :: rest, merged => do
      let data ← post server ⟨call, emailChunk⟩
      runChunks server call rest (merged.merge data)

def runChunkedBulk (server : Server) (userEmails : List String) (call : BulkCall) :
    Run BulkResponse :=
  runChunks server call (chunk userEmails bulkRequestChunkSize) .empty

/-- The policies or permissions in turn, from `merged` on. -/
def runTargets (server : Server) (userEmails : List String) :
    List BulkCall → BulkResponse → Run BulkResponse
  | [], merged => pure merged
  | call :: rest, merged => do
      let result ← runChunkedBulk server userEmails call
      runTargets server userEmails rest (merged.merge result)

/-! ## The mutations -/

inductive QueryKey where
  | permissionCatalogUsage
  | userPolicies (email : String)
  | myPolicies
  | userPermissions (email : String)
  | myPermissions
  | users
  | currentUser
  deriving DecidableEq

def distinctEmails (data : BulkResponse) : List String :=
  (data.results.map BulkItemResult.userEmail).eraseDups

/-- `ownEmail` is the email of the caller. -/
def invalidateSelfIfIncluded (ownEmail : String) (emails : List String) : List QueryKey :=
  if ownEmail ∈ emails then [.currentUser] else []

/-- The end of a mutation.  Only a response reaches `onSuccess`, the failure is thrown. -/
structure Outcome where
  answered : List (BulkRequest × BulkResponse)
  reported : Option BulkResponse
  invalidated : List QueryKey

def settle (run : Run BulkResponse) (onSuccess : BulkResponse → List QueryKey) : Outcome :=
  let (reported, progress) := run.run ⟨0, []⟩
  ⟨progress.answered, reported, (reported.map onSuccess).getD []⟩

def policyTargets (policyName : Option String) (policyNames : Option (List String)) :
    List String :=
  policyNames.getD ((policyName.filter (· ≠ "")).toList)

def permissionTargets (action resourceType : Option String)
    (actions : Option (List (String × String))) : List (String × String) :=
  actions.getD
    (match action.filter (· ≠ ""), resourceType.filter (· ≠ "") with
      | some action, some resourceType => [(action, resourceType)]
      | _, _ => [])

/-- `onSuccess` of the mutations of policies and of permissions. -/
def onGrantsChanged (userQueryKey : String → QueryKey) (myQueryKey : QueryKey) (ownEmail : String)
    (data : BulkResponse) : List QueryKey :=
  let emails := distinctEmails data
  .permissionCatalogUsage :: (emails.map userQueryKey ++ myQueryKey ::
    invalidateSelfIfIncluded ownEmail emails)

def onPoliciesChanged : String → BulkResponse → List QueryKey :=
  onGrantsChanged .userPolicies .myPolicies

def onPermissionsChanged : String → BulkResponse → List QueryKey :=
  onGrantsChanged .userPermissions .myPermissions

def onRolesChanged (ownEmail : String) (data : BulkResponse) : List QueryKey :=
  .users :: invalidateSelfIfIncluded ownEmail (distinctEmails data)

variable (server : Server) (ownEmail : String)

def useBulkAssignPoliciesMutation (userEmails : List String) (policyName : Option String)
    (policyNames : Option (List String)) : Outcome :=
  settle (runTargets server userEmails ((policyTargets policyName policyNames).map .assignPolicy)
    .empty) (onPoliciesChanged ownEmail)

def useBulkRemovePoliciesMutation (userEmails : List String) (policyName : Option String)
    (policyNames : Option (List String)) : Outcome :=
  settle (runTargets server userEmails ((policyTargets policyName policyNames).map .removePolicy)
    .empty) (onPoliciesChanged ownEmail)

def useBulkAssignPermissionsMutation (userEmails : List String) (action resourceType : Option String)
    (actions : Option (List (String × String))) (conditions : Option Json) : Outcome :=
  settle (runTargets server userEmails
    ((permissionTargets action resourceType actions).map fun item =>
      .assignPermission item.1 item.2 conditions) .empty) (onPermissionsChanged ownEmail)

def useBulkRemovePermissionsMutation (userEmails : List String) (action resourceType : Option String)
    (actions : Option (List (String × String))) : Outcome :=
  settle (runTargets server userEmails
    ((permissionTargets action resourceType actions).map fun item =>
      .removePermission item.1 item.2) .empty) (onPermissionsChanged ownEmail)

def useBulkUpdateRoleMutation (userEmails : List String) (role : String) : Outcome :=
  settle (runChunkedBulk server userEmails (.updateRole role)) (onRolesChanged ownEmail)

end MysticAuth.ChunkedRuns
