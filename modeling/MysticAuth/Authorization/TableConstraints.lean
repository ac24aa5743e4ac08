import MysticAuth.Authorization.Changes

/-!
# Constraints of the authorization tables

Primary keys, foreign keys and the validity of stored conditions, kept by every
change and hence in every run of requests.
-/

set_option autoImplicit false

namespace MysticAuth

open Python

structure Constraints (database : Database) : Prop where
  policyIdsUnique : (database.policies.map Policy.id).Nodup
  policyIdsFresh : ∀ policy ∈ database.policies, policy.id < database.nextPolicyId
  linksResolve : ∀ link ∈ database.userPolicies,
    ∃ policy ∈ database.policies, policy.id = link.policyId
  policyConditions : ∀ policy ∈ database.policies, ValidatedBlock policy.conditions
  permissionConditions : ∀ grant ∈ database.userPermissions, ValidatedBlock grant.conditions

theorem Constraints.policy_unique {database : Database} (constraints : Constraints database)
    (policy other : Policy) (member : policy ∈ database.policies)
    (member' : other ∈ database.policies) (sameId : policy.id = other.id) : policy = other :=
  List.inj_on_of_nodup_map constraints.policyIdsUnique member member' sameId

/-! ## The mutations -/

section Mutations

variable (database : Database)

theorem mem_replacePolicy (policies : List Policy) (updated policy : Policy)
    (member : policy ∈ Database.replacePolicy policies updated) :
    policy = updated ∨ (policy ∈ policies ∧ policy.id ≠ updated.id) := by
  obtain ⟨other, listed, rfl⟩ := List.mem_map.mp member
  split
  · exact Or.inl rfl
  · rename_i differs
    exact Or.inr ⟨listed, differs⟩

theorem replacePolicy_ids (policies : List Policy) (updated : Policy) :
    (Database.replacePolicy policies updated).map Policy.id = policies.map Policy.id := by
  simp only [Database.replacePolicy, List.map_map]
  refine List.map_congr_left fun policy _ => ?_
  simp only [Function.comp]
  split
  · rename_i same
    exact same.symm
  · rfl

theorem mem_assignPermission (userId : Nat) (action resourceType : String) (conditions : Json)
    (assignedBy : Option String) (grant : UserPermission)
    (member : grant ∈ (database.assignPermissionToUser userId action resourceType conditions
      assignedBy).userPermissions) :
    grant ∈ database.userPermissions ∨
      grant = ⟨userId, action, resourceType, conditions, true, assignedBy⟩ := by
  simp only [Database.assignPermissionToUser] at member
  split at member
  · obtain ⟨other, listed, rfl⟩ := List.mem_map.mp member
    split
    · rename_i key
      simp only [Database.isGrantKey, Bool.and_eq_true, beq_iff_eq] at key
      exact Or.inr (by simp [← key.1.1, ← key.1.2, ← key.2])
    · exact Or.inl listed
  · exact (List.mem_append.mp member).imp_right List.mem_singleton.mp

theorem assignPermission_frame (userId : Nat) (action resourceType : String) (conditions : Json)
    (assignedBy : Option String) :
    (database.assignPermissionToUser userId action resourceType conditions assignedBy) =
      { database with userPermissions := (database.assignPermissionToUser userId action
          resourceType conditions assignedBy).userPermissions } := by
  simp only [Database.assignPermissionToUser]
  split <;> rfl

/-- The direct grants that `revoke_single_action` leaves: the earlier rows and one row for each
remaining action. -/
theorem mem_assignRemaining (remaining : List String) (userId : Nat) (resourceType : String)
    (conditions : Json) (assignedBy : Option String) (grant : UserPermission)
    (member : grant ∈ (remaining.foldl (fun current action =>
      current.assignPermissionToUser userId action resourceType conditions assignedBy)
        database).userPermissions) :
    grant ∈ database.userPermissions ∨
      ∃ action ∈ remaining, grant = ⟨userId, action, resourceType, conditions, true, assignedBy⟩ := by
  induction remaining generalizing database with
  | nil => exact Or.inl member
  | cons action rest ih =>
    rcases ih _ member with earlier | ⟨other, member', rfl⟩
    · rcases mem_assignPermission _ _ _ _ _ _ _ earlier with earlier | rfl
      · exact Or.inl earlier
      · exact Or.inr ⟨action, List.mem_cons_self, rfl⟩
    · exact Or.inr ⟨other, List.mem_cons_of_mem _ member', rfl⟩

theorem assignRemaining_frame (remaining : List String) (userId : Nat) (resourceType : String)
    (conditions : Json) (assignedBy : Option String) :
    (remaining.foldl (fun current action =>
      current.assignPermissionToUser userId action resourceType conditions assignedBy) database) =
      { database with userPermissions := (remaining.foldl (fun current action =>
          current.assignPermissionToUser userId action resourceType conditions assignedBy)
            database).userPermissions } := by
  induction remaining generalizing database with
  | nil => rfl
  | cons action rest ih =>
    simp only [List.foldl_cons]
    rw [ih, assignPermission_frame]

/-- What `revoke_single_action` does to the tables. -/
theorem revokeSingleAction_eq_some (userId : Nat) (policy : Policy) (action : String)
    (revokedBy : Option String) (after : Database)
    (applied : database.revokeSingleAction userId policy action revokedBy = some after) :
    ∃ permissions, after = ({ database with userPermissions := permissions }).removeAssignment
        userId policy.id ∧
      ∀ grant ∈ permissions, grant ∈ database.userPermissions ∨
        ∃ remaining ∈ policy.actions,
          grant = ⟨userId, remaining, policy.resourceType, policy.conditions, true, revokedBy⟩ := by
  simp only [Database.revokeSingleAction] at applied
  split at applied
  · refine ⟨_, ((Option.some.inj applied).symm.trans (congrArg
      (Database.removeAssignment · userId policy.id)
        (assignRemaining_frame database _ userId policy.resourceType policy.conditions
          revokedBy))), ?_⟩
    intro grant member
    refine (mem_assignRemaining _ _ _ _ _ _ _ member).imp_right ?_
    rintro ⟨remaining, kept, rfl⟩
    exact ⟨remaining, (List.mem_filter.mp kept).1, rfl⟩
  · simp at applied

end Mutations

/-! ## Preservation -/

section Policies

variable {database : Database}

theorem Constraints.created (constraints : Constraints database) {data : Database.PolicyData}
    (changedBy : String) (validated : ValidatedBlock data.conditions) :
    Constraints (database.createPolicy data changedBy) := by
  refine ⟨?_, ?_, ?_, ?_, constraints.permissionConditions⟩
  · simp only [Database.createPolicy, Database.addHistory, List.map_append, List.map_cons,
      List.map_nil]
    refine List.nodup_append.mpr ⟨constraints.policyIdsUnique, by simp, ?_⟩
    intro id member other last
    obtain ⟨policy, listed, rfl⟩ := List.mem_map.mp member
    have fresh := constraints.policyIdsFresh policy listed
    simp only [List.mem_singleton] at last
    omega
  · intro policy member
    simp only [Database.createPolicy, Database.addHistory, List.mem_append,
      List.mem_singleton] at member ⊢
    rcases member with earlier | rfl
    · have fresh := constraints.policyIdsFresh policy earlier
      omega
    · simp
  · intro link member
    obtain ⟨policy, member', same⟩ := constraints.linksResolve link member
    exact ⟨policy, List.mem_append_left _ member', same⟩
  · intro policy member
    rcases List.mem_append.mp member with earlier | last
    · exact constraints.policyConditions policy earlier
    · rw [List.mem_singleton.mp last]
      exact validated

theorem Constraints.replaced (constraints : Constraints database) {policy updated : Policy}
    (member : policy ∈ database.policies) (sameId : updated.id = policy.id)
    (validated : ValidatedBlock updated.conditions) :
    Constraints { database with policies := Database.replacePolicy database.policies updated } := by
  refine ⟨?_, ?_, ?_, ?_, constraints.permissionConditions⟩
  · simp only [replacePolicy_ids]
    exact constraints.policyIdsUnique
  · intro other member'
    rcases mem_replacePolicy _ _ _ member' with rfl | ⟨earlier, _⟩
    · rw [sameId]
      exact constraints.policyIdsFresh policy member
    · exact constraints.policyIdsFresh other earlier
  · intro link linked
    obtain ⟨other, member', same⟩ := constraints.linksResolve link linked
    have listed : other.id ∈ (Database.replacePolicy database.policies updated).map Policy.id := by
      rw [replacePolicy_ids]
      exact List.mem_map_of_mem member'
    obtain ⟨found, member'', same'⟩ := List.mem_map.mp listed
    exact ⟨found, member'', same'.trans same⟩
  · intro other member'
    rcases mem_replacePolicy _ _ _ member' with rfl | ⟨earlier, _⟩
    · exact validated
    · exact constraints.policyConditions other earlier

/-- A deleted policy takes the links to it along. -/
theorem Constraints.deleted (constraints : Constraints database) (policy : Policy)
    (changedBy : String) (changeReason : Option String) :
    Constraints (database.deletePolicy policy changedBy changeReason) := by
  refine ⟨?_, ?_, ?_, ?_, constraints.permissionConditions⟩
  · exact constraints.policyIdsUnique.sublist (List.filter_sublist.map _)
  · exact fun other member => constraints.policyIdsFresh other (List.mem_filter.mp member).1
  · intro link member
    obtain ⟨member, kept⟩ := List.mem_filter.mp member
    obtain ⟨other, member', same⟩ := constraints.linksResolve link member
    exact ⟨other, List.mem_filter.mpr ⟨member', by rwa [same]⟩, same⟩
  · exact fun other member => constraints.policyConditions other (List.mem_filter.mp member).1

/-- Rows of the history do not count. -/
theorem Constraints.history (constraints : Constraints database)
    (history : List PolicyHistoryEntry) (next : Nat) :
    Constraints { database with policyHistory := history, nextHistoryId := next } :=
  ⟨constraints.policyIdsUnique, constraints.policyIdsFresh, constraints.linksResolve,
    constraints.policyConditions, constraints.permissionConditions⟩

end Policies

theorem change_constraints (operation : Operation) (before after : Database)
    (proposals : List Proposal) (constraints : Constraints before)
    (change : Change operation before proposals after) : Constraints after := by
  cases change with
  | created data changedBy validated => exact constraints.created changedBy validated
  | updated policy updated changeType changedBy changeReason member sameId validated guarded =>
    have validated' : ValidatedBlock updated.conditions := by
      rcases validated with validated | kept
      · exact validated
      · rw [kept]
        exact constraints.policyConditions policy member
    exact (constraints.replaced member sameId validated').history _ _
  | deleted policy changedBy changeReason => exact constraints.deleted policy changedBy changeReason
  | assigned policy userId assignedBy member guarded =>
    simp only [Database.assignPolicyToUser]
    split
    · exact constraints
    · refine ⟨constraints.policyIdsUnique, constraints.policyIdsFresh, ?_,
        constraints.policyConditions, constraints.permissionConditions⟩
      intro link linked
      rcases List.mem_append.mp linked with earlier | last
      · exact constraints.linksResolve link earlier
      · rw [List.mem_singleton.mp last]
        exact ⟨policy, member, rfl⟩
  | unassigned userId policyId =>
    exact ⟨constraints.policyIdsUnique, constraints.policyIdsFresh,
      fun link member => constraints.linksResolve link (List.mem_filter.mp member).1,
      constraints.policyConditions, constraints.permissionConditions⟩
  | actionRevoked policy userId action revokedBy _ member guarded applied =>
    obtain ⟨permissions, rfl, origin⟩ := revokeSingleAction_eq_some _ _ _ _ _ _ applied
    refine ⟨constraints.policyIdsUnique, constraints.policyIdsFresh,
      fun link linked => constraints.linksResolve link (List.mem_filter.mp linked).1,
      constraints.policyConditions, ?_⟩
    intro grant granted
    rcases origin grant granted with earlier | ⟨remaining, _, rfl⟩
    · exact constraints.permissionConditions grant earlier
    · exact constraints.policyConditions policy member
  | permissionGranted userId action resourceType conditions assignedBy validated guarded =>
    rw [assignPermission_frame]
    refine ⟨constraints.policyIdsUnique, constraints.policyIdsFresh, constraints.linksResolve,
      constraints.policyConditions, ?_⟩
    intro grant granted
    rcases mem_assignPermission _ _ _ _ _ _ _ granted with earlier | rfl
    · exact constraints.permissionConditions grant earlier
    · exact validated
  | permissionRevoked userId action resourceType =>
    exact ⟨constraints.policyIdsUnique, constraints.policyIdsFresh, constraints.linksResolve,
      constraints.policyConditions,
      fun grant member => constraints.permissionConditions grant (List.mem_filter.mp member).1⟩

/-! ## Runs -/

structure Event where
  server : Server
  request : Request
  operation : Operation

/-- A refused request leaves the tables as they were. -/
def serve (reprText : Json → String) (database : Database) (event : Event) : Database :=
  match handle event.server reprText database event.request event.operation with
  | .ok accepted => accepted.after
  | .error _ => database

def serveAll (reprText : Json → String) (database : Database) (events : List Event) : Database :=
  events.foldl (serve reprText) database

theorem serve_constraints (reprText : Json → String) (database : Database)
    (constraints : Constraints database) (event : Event) :
    Constraints (serve reprText database event) := by
  simp only [serve]
  split
  · rename_i accepted success
    exact change_constraints _ _ _ _ constraints (handle_change _ accepted success)
  · exact constraints

theorem serveAll_constraints (reprText : Json → String) (database : Database)
    (constraints : Constraints database) (events : List Event) :
    Constraints (serveAll reprText database events) := by
  induction events generalizing database with
  | nil => exact constraints
  | cons event events ih => exact ih _ (serve_constraints reprText database constraints event)

/-- In every run the blocks a caller is matched by went through the validator, which is what the
soundness of the guard asks of them. -/
theorem holdings_validated (database : Database) (constraints : Constraints database)
    (email : String) (grant : Grant) (member : grant ∈ (database.holdings email).effectivePolicies) :
    ValidatedBlock grant.conditions := by
  simp only [Holdings.effectivePolicies, Database.holdings, List.mem_append, List.mem_map,
    Database.getActivePoliciesForUser, Database.getActivePermissionsForUser,
    List.mem_filter] at member
  rcases member with ⟨policy, ⟨member, _⟩, rfl⟩ | ⟨permission, ⟨member, _⟩, rfl⟩
  · exact constraints.policyConditions policy member
  · exact constraints.permissionConditions permission member

end MysticAuth
