import MysticAuth.Authorization.TableConstraints

/-!
# No escalation over whole runs

Whatever an accepted request lets a user do that he could not do before was
passed to the grant guard on behalf of the caller, in that request, with the
resource type and the conditions of the grant that now applies.  The one route
that widens without a guard call is the update that only reactivates a policy.
-/

set_option autoImplicit false

namespace MysticAuth

open Python PolicyEvaluationEngine

/-- The user's authorization decision on the tables. -/
def isAllowed (database : Database) (runtime : Runtime) (userEmail action resourceType : String)
    (resource : Option Resource) (context : Option Dict) : Bool :=
  evaluate runtime (database.holdings userEmail).effectivePolicies action resourceType userEmail
    resource context

theorem isAllowed_iff (database : Database) (runtime : Runtime)
    (userEmail action resourceType : String) (resource : Option Resource)
    (context : Option Dict) :
    isAllowed database runtime userEmail action resourceType resource context = true ↔
      ∃ grant ∈ (database.holdings userEmail).effectivePolicies,
        grant.applies runtime action resourceType userEmail resource context :=
  evaluateDetailed_allowed_iff runtime action resourceType userEmail resource context _

/-! ## Effective grants of a user -/

theorem mem_effectivePolicies (database : Database) (userEmail : String) (grant : Grant) :
    grant ∈ (database.holdings userEmail).effectivePolicies ↔
      (∃ policy ∈ database.policies, policy.isActive = true ∧
        (∃ link ∈ database.userPolicies, link.policyId = policy.id ∧
          database.isUserWithEmail link.userId userEmail = true) ∧ policy.toGrant = grant) ∨
      (∃ permission ∈ database.userPermissions, permission.isActive = true ∧
        database.isUserWithEmail permission.userId userEmail = true ∧
          permission.toGrant = grant) := by
  simp [Holdings.effectivePolicies, Database.holdings, Database.getActivePoliciesForUser,
    Database.getActivePermissionsForUser, and_assoc]

/-- Two grants with the same actions, resource type and conditions. -/
def Grant.scope (grant : Grant) : Proposal :=
  ⟨grant.actions, grant.resourceType, grant.conditions⟩

theorem applies_of_sameScope (grant other : Grant) (same : grant.scope = other.scope)
    (runtime : Runtime) (action resourceType userEmail : String) (resource : Option Resource)
    (context : Option Dict)
    (applies : grant.applies runtime action resourceType userEmail resource context) :
    other.applies runtime action resourceType userEmail resource context := by
  simp only [Grant.scope, Proposal.mk.injEq] at same
  obtain ⟨sameActions, sameType, sameConditions⟩ := same
  simpa only [Grant.applies, grantMatches, sameActions, sameType, sameConditions] using applies

/-- The proposal covers the grant: same resource type and conditions, and all its actions. -/
def Proposal.covers (proposal : Proposal) (grant : Grant) : Prop :=
  (∀ action ∈ grant.actions, action ∈ proposal.actions) ∧
    proposal.resourceType = grant.resourceType ∧ proposal.conditions = grant.conditions

theorem Policy.proposal_covers (policy : Policy) : policy.proposal.covers policy.toGrant :=
  ⟨fun _ member => member, rfl, rfl⟩

/-- Every grant a change adds to a user was covered by a guarded proposal. -/
def WideningGuarded (before after : Database) (proposals : List Proposal) : Prop :=
  ∀ userEmail, ∀ grant ∈ (after.holdings userEmail).effectivePolicies,
    (∃ earlier ∈ (before.holdings userEmail).effectivePolicies, earlier.scope = grant.scope) ∨
      ∃ proposal ∈ proposals, proposal.covers grant

/-! ## The changes -/

section Widening

variable (operation : Operation) (before after : Database) (proposals : List Proposal)

/-- Tables that only lose rows widen nothing. -/
theorem wideningGuarded_of_subset (users : after.users = before.users)
    (policies : after.policies ⊆ before.policies)
    (links : after.userPolicies ⊆ before.userPolicies)
    (permissions : after.userPermissions ⊆ before.userPermissions) :
    WideningGuarded before after proposals := by
  intro userEmail grant held
  refine Or.inl ⟨grant, ?_, rfl⟩
  rw [mem_effectivePolicies] at held ⊢
  simp only [Database.isUserWithEmail, users] at held ⊢
  rcases held with ⟨policy, member, active, ⟨link, linked, rest⟩, same⟩ |
    ⟨permission, member, rest⟩
  · exact Or.inl ⟨policy, policies member, active, ⟨link, links linked, rest⟩, same⟩
  · exact Or.inr ⟨permission, permissions member, rest⟩

/-- Rows added to the direct grants of a change that leaves policies alone. -/
theorem wideningGuarded_of_permissions (users : after.users = before.users)
    (policies : after.policies = before.policies)
    (links : after.userPolicies ⊆ before.userPolicies)
    (origin : ∀ permission ∈ after.userPermissions, permission ∈ before.userPermissions ∨
      ∃ proposal ∈ proposals, proposal.covers permission.toGrant) :
    WideningGuarded before after proposals := by
  intro userEmail grant held
  rw [mem_effectivePolicies] at held
  simp only [Database.isUserWithEmail, users] at held
  rcases held with ⟨policy, member, active, ⟨link, linked, rest⟩, same⟩ |
    ⟨permission, member, active, owner, rfl⟩
  · refine Or.inl ⟨grant, (mem_effectivePolicies _ _ _).mpr (Or.inl ?_), rfl⟩
    exact ⟨policy, policies ▸ member, active, ⟨link, links linked, rest⟩, same⟩
  · rcases origin permission member with earlier | covered
    · exact Or.inl ⟨_, (mem_effectivePolicies _ _ _).mpr
        (Or.inr ⟨permission, earlier, active, owner, rfl⟩), rfl⟩
    · exact Or.inr covered

theorem change_wideningGuarded (constraints : Constraints before)
    (notReactivation : reactivates operation = false)
    (change : Change operation before proposals after) :
    WideningGuarded before after proposals := by
  cases change with
  | created data changedBy validated =>
    -- No assignment can refer to the fresh id.
    intro userEmail grant held
    refine Or.inl ⟨grant, ?_, rfl⟩
    rw [mem_effectivePolicies] at held ⊢
    rcases held with ⟨policy, member, active, ⟨link, linked, sameId, owner⟩, same⟩ | direct
    · rcases List.mem_append.mp member with earlier | last
      · exact Or.inl ⟨policy, earlier, active, ⟨link, linked, sameId, owner⟩, same⟩
      · obtain ⟨other, listed, otherId⟩ := constraints.linksResolve link linked
        have fresh := constraints.policyIdsFresh other listed
        rw [List.mem_singleton.mp last] at sameId
        simp only at sameId
        omega
    · exact Or.inr direct
  | updated policy updated changeType changedBy changeReason member sameId validated guarded =>
    intro userEmail grant held
    rw [mem_effectivePolicies] at held
    rcases held with ⟨other, member', active, ⟨link, linked, linkId, owner⟩, rfl⟩ | direct
    · rcases mem_replacePolicy _ _ _ member' with rfl | ⟨earlier, _⟩
      · rcases guarded with proposed | ⟨kept, activity⟩
        · exact Or.inr ⟨_, proposed, other.proposal_covers⟩
        · have wasActive : policy.isActive = true := by
            rcases activity with wasActive | inactive | reactivation
            · exact wasActive
            · simp [active] at inactive
            · simp [notReactivation] at reactivation
          exact Or.inl ⟨policy.toGrant, (mem_effectivePolicies _ _ _).mpr (Or.inl
            ⟨policy, member, wasActive, ⟨link, linked, linkId.trans sameId, owner⟩, rfl⟩),
            kept.symm⟩
      · exact Or.inl ⟨other.toGrant, (mem_effectivePolicies _ _ _).mpr (Or.inl
          ⟨other, earlier, active, ⟨link, linked, linkId, owner⟩, rfl⟩), rfl⟩
    · exact Or.inl ⟨grant, (mem_effectivePolicies _ _ _).mpr (Or.inr direct), rfl⟩
  | deleted policy changedBy changeReason =>
    exact wideningGuarded_of_subset _ _ _ rfl List.filter_sublist.subset List.filter_sublist.subset
      (List.Subset.refl _)
  | assigned policy userId assignedBy member guarded =>
    simp only [Database.assignPolicyToUser]
    split
    · exact wideningGuarded_of_subset _ _ _ rfl (List.Subset.refl _) (List.Subset.refl _)
        (List.Subset.refl _)
    · intro userEmail grant held
      rw [mem_effectivePolicies] at held
      rcases held with ⟨other, member', active, ⟨link, linked, linkId, owner⟩, rfl⟩ | direct
      · rcases List.mem_append.mp linked with earlier | last
        · exact Or.inl ⟨other.toGrant, (mem_effectivePolicies _ _ _).mpr (Or.inl
            ⟨other, member', active, ⟨link, earlier, linkId, owner⟩, rfl⟩), rfl⟩
        · rw [List.mem_singleton.mp last] at linkId
          obtain rfl := constraints.policy_unique policy other member member' linkId
          exact Or.inr ⟨_, guarded, policy.proposal_covers⟩
      · exact Or.inl ⟨grant, (mem_effectivePolicies _ _ _).mpr (Or.inr direct), rfl⟩
  | unassigned userId policyId =>
    exact wideningGuarded_of_subset _ _ _ rfl (List.Subset.refl _) List.filter_sublist.subset
      (List.Subset.refl _)
  | actionRevoked policy userId action revokedBy _ member guarded applied =>
    obtain ⟨permissions, rfl, origin⟩ := revokeSingleAction_eq_some _ _ _ _ _ _ applied
    refine wideningGuarded_of_permissions _ _ _ rfl rfl List.filter_sublist.subset ?_
    intro permission granted
    refine (origin permission granted).imp_right ?_
    rintro ⟨remaining, listed, rfl⟩
    refine ⟨_, guarded, ?_, rfl, rfl⟩
    simpa [UserPermission.toGrant, Policy.proposal] using listed
  | permissionGranted userId action resourceType conditions assignedBy validated guarded =>
    have frame := assignPermission_frame before userId action resourceType conditions assignedBy
    refine wideningGuarded_of_permissions _ _ _ (by rw [frame]) (by rw [frame])
      (by rw [frame]; exact List.Subset.refl _) ?_
    intro permission granted
    refine (mem_assignPermission _ _ _ _ _ _ _ granted).imp_right ?_
    rintro rfl
    exact ⟨_, guarded, by simp [UserPermission.toGrant], rfl, rfl⟩
  | permissionRevoked userId action resourceType =>
    exact wideningGuarded_of_subset _ _ _ rfl (List.Subset.refl _) (List.Subset.refl _)
      List.filter_sublist.subset

end Widening

/-! ## Runs -/

/-- Whenever the accepted request makes a user newly allowed for a built-in action, the caller
passed the grant guard in that request for the action, with the resource type and the conditions
of a grant that now allows it. -/
def EscalationGuarded {server : Server} {before : Database} {request : Request}
    (accepted : Accepted server before request) : Prop :=
  ∀ (runtime : Runtime) (userEmail : String) (permission : Permission) (resourceType : String)
    (resource : Option Resource) (context : Option Dict),
    isAllowed accepted.after runtime userEmail permission.value resourceType resource context
        = true →
      isAllowed before runtime userEmail permission.value resourceType resource context = false →
        ∃ grant ∈ (accepted.after.holdings userEmail).effectivePolicies,
          grant.applies runtime permission.value resourceType userEmail resource context ∧
          ∃ check ∈ accepted.checks,
            guardAlone server.runtime (before.holdings request.caller) request.caller
                request.context check.proposal = .ok () ∧
              permission.value ∈ check.proposal.actions ∧
              check.proposal.resourceType = grant.resourceType ∧
              check.proposal.conditions = grant.conditions

theorem escalationGuarded_of_widening {server : Server} {before : Database} {request : Request}
    (accepted : Accepted server before request)
    (widening : WideningGuarded before accepted.after accepted.proposals) :
    EscalationGuarded accepted := by
  intro runtime userEmail permission resourceType resource context allowed denied
  obtain ⟨grant, held, applies⟩ := (isAllowed_iff _ _ _ _ _ _ _).mp allowed
  refine ⟨grant, held, applies, ?_⟩
  rcases widening userEmail grant held with ⟨earlier, heldBefore, same⟩ | ⟨proposal, listed, covers⟩
  · have allowedBefore := (isAllowed_iff _ _ _ _ _ _ _).mpr
      ⟨earlier, heldBefore, applies_of_sameScope _ _ same.symm _ _ _ _ _ _ applies⟩
    simp [allowedBefore] at denied
  · obtain ⟨check, member, rfl⟩ := List.mem_map.mp listed
    have acts : permission.value ∈ grant.actions := by
      have doesMatch := applies.1
      simp only [grantMatches, Bool.and_eq_true] at doesMatch
      exact List.contains_iff_mem.mp doesMatch.2
    exact ⟨check, member, check.passed, covers.1 _ acts, covers.2⟩

/-- After any run, every accepted request other than a mere reactivation guards what it widens. -/
theorem run_escalation_guarded (reprText : Json → String) (initial : Database)
    (constraints : Constraints initial) (events : List Event) (event : Event)
    (accepted : Accepted event.server (serveAll reprText initial events) event.request)
    (success : handle event.server reprText (serveAll reprText initial events) event.request
      event.operation = .ok accepted)
    (notReactivation : reactivates event.operation = false) :
    EscalationGuarded accepted :=
  escalationGuarded_of_widening accepted
    (change_wideningGuarded _ _ _ _ (serveAll_constraints reprText initial constraints events)
      notReactivation (handle_change _ accepted success))

/-! ## The unguarded reactivation

A superuser creates a policy, assigns it to an operator and deactivates it.  The operator, who may
update policies but was never matched by that policy, switches it on again for himself. -/

section Reactivation

def exampleServer : Server :=
  ⟨utcRuntime, id⟩

def seededDatabase : Database where
  users := [⟨1, "root@example.com", .admin⟩, ⟨2, "operator@example.com", .user⟩]
  policies :=
    [⟨1, "system_superuser", none, builtInActions, "*", .null, true, some "system"⟩]
  userPolicies := [⟨1, 1, some "system"⟩]
  userPermissions := []
  policyHistory := []
  nextPolicyId := 2
  nextHistoryId := 1

theorem seededDatabase_constraints : Constraints seededDatabase where
  policyIdsUnique := by decide
  policyIdsFresh := by simp [seededDatabase]
  linksResolve := by simp [seededDatabase]
  policyConditions := by
    intro policy member
    rw [List.mem_singleton.mp member]
    exact ⟨utcRuntime, rfl⟩
  permissionConditions := by simp [seededDatabase]

def exampleEvent (caller : String) (operation : Operation) : Event :=
  ⟨exampleServer, ⟨caller, "203.0.113.7", "2026-01-01T00:00:00+00:00",
    "2026-01-01T00:00:00+00:00"⟩, operation⟩

def switchActive (isActive : Bool) : Database.PolicyFields :=
  { Database.PolicyFields.unset with isActive := some (some isActive) }

def preparation : List Event :=
  [exampleEvent "root@example.com"
      (.createPolicy ⟨"user_purge", none, ["users:delete_any"], "users", .null⟩),
    exampleEvent "root@example.com" (.assignPolicyToUser "operator@example.com" "user_purge"),
    exampleEvent "root@example.com" (.updatePolicy "user_purge" (switchActive false) none),
    exampleEvent "root@example.com"
      (.createPolicy ⟨"policy_editor", none, ["policies:update"], "policies", .null⟩),
    exampleEvent "root@example.com" (.assignPolicyToUser "operator@example.com" "policy_editor")]

def reactivation : Event :=
  exampleEvent "operator@example.com" (.updatePolicy "user_purge" (switchActive true) none)

/-- The run up to the first assignment, which makes the operator newly allowed. -/
theorem run_escalation_guarded_assignment :
    ∃ accepted : Accepted exampleServer
        (serveAll (fun _ => "") seededDatabase (preparation.take 1))
        (exampleEvent "root@example.com"
          (.assignPolicyToUser "operator@example.com" "user_purge")).request,
      EscalationGuarded accepted := by
  have served : (handle exampleServer (fun _ => "")
      (serveAll (fun _ => "") seededDatabase (preparation.take 1))
      (exampleEvent "root@example.com"
        (.assignPolicyToUser "operator@example.com" "user_purge")).request
      (.assignPolicyToUser "operator@example.com" "user_purge")).isOk = true := by rfl
  cases outcome : handle exampleServer (fun _ => "")
      (serveAll (fun _ => "") seededDatabase (preparation.take 1))
      (exampleEvent "root@example.com"
        (.assignPolicyToUser "operator@example.com" "user_purge")).request
      (.assignPolicyToUser "operator@example.com" "user_purge") with
  | error failure => simp [outcome, Except.isOk, Except.toBool] at served
  | ok accepted =>
    exact ⟨accepted, run_escalation_guarded _ seededDatabase seededDatabase_constraints
      (preparation.take 1) (exampleEvent "root@example.com"
        (.assignPolicyToUser "operator@example.com" "user_purge")) accepted outcome rfl⟩

/-- Whether the operator may purge users afterwards, and how often the guard was called. -/
def operatorVerdict {server : Server} {before : Database} {request : Request}
    (outcome : Outcome server before request) : Option (Bool × Nat) :=
  match outcome with
  | .ok accepted =>
      some (isAllowed accepted.after utcRuntime "operator@example.com" "users:delete_any" "users"
        none none, accepted.checks.length)
  | .error _ => none

theorem reactivation_escapes_guard :
    ¬ ∀ (reprText : Json → String) (initial : Database), Constraints initial →
      ∀ (events : List Event) (event : Event)
        (accepted : Accepted event.server (serveAll reprText initial events) event.request),
        handle event.server reprText (serveAll reprText initial events) event.request
            event.operation = .ok accepted →
          EscalationGuarded accepted := by
  intro claim
  have probe : operatorVerdict (handle exampleServer (fun _ => "")
      (serveAll (fun _ => "") seededDatabase preparation) reactivation.request
      reactivation.operation) = some (true, 0) := by rfl
  have denied : isAllowed (serveAll (fun _ => "") seededDatabase preparation) utcRuntime
      "operator@example.com" Permission.usersDeleteAny.value "users" none none = false := by rfl
  cases outcome : handle exampleServer (fun _ => "")
      (serveAll (fun _ => "") seededDatabase preparation) reactivation.request
      reactivation.operation with
  | error failure => simp [outcome, operatorVerdict] at probe
  | ok accepted =>
    simp only [outcome, operatorVerdict, Option.some.injEq, Prod.mk.injEq,
      List.length_eq_zero_iff] at probe
    obtain ⟨_, _, _, check, called, _⟩ := claim _ seededDatabase seededDatabase_constraints
      preparation reactivation accepted outcome utcRuntime "operator@example.com"
      .usersDeleteAny "users" none none probe.1 denied
    rw [probe.2] at called
    cases called

end Reactivation

end MysticAuth
