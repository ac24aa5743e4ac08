import MysticAuth.Authorization.NoEscalation

/-!
# Notices of a changed policy

An update that sets the actions, the resource type or the activity of a policy
publishes a change of permissions for each of its holders.  One that sets only
the conditions publishes none, although the conditions decide as well.
-/

set_option autoImplicit false

namespace MysticAuth

open Python PolicyEvaluationEngine

/-! ## The notices of an update -/

/-- The emails of those that the policy is assigned to, whether or not it is active. -/
def Database.getHolderEmails (database : Database) (policyId : Nat) : List String :=
  (database.userPolicies.filter (·.policyId == policyId)).flatMap fun link =>
    (database.users.filter (·.id == link.userId)).map (·.email)

def affectsGrants (fields : Database.PolicyFields) : Bool :=
  fields.actions.isSome || fields.resourceType.isSome || fields.isActive.isSome

/-- `updatePolicy` with the emails that `publish_permissions_changed` is called for. -/
def updatePolicyPublishing (server : Server) (reprText : Json → String) (database : Database)
    (request : Request) (policyName : String) (fields : Database.PolicyFields)
    (changeReason : Option String) :
    Except Failure (Accepted server database request × List String) := do
  let accepted ← updatePolicy server reprText database request policyName fields changeReason
  let policy ← findPolicy database policyName
  let holderEmails := if affectsGrants fields then database.getHolderEmails policy.id else []
  .ok (accepted, holderEmails)

/-! ## What the notices are for -/

structure IsHolder (database : Database) (policy : Policy) (user : User) : Prop where
  present : user ∈ database.users
  assigned : database.userHoldsPolicy user.id policy.id = true

def DecisionChanges (before after : Database) (userEmail : String) : Prop :=
  ∃ runtime action resourceType resource context,
    isAllowed before runtime userEmail action resourceType resource context ≠
      isAllowed after runtime userEmail action resourceType resource context

/-- If the decision of one holder has changed, then all of them are notified. -/
def NotifiesHolders (before after : Database) (policy : Policy) (published : List String) : Prop :=
  (∃ user, IsHolder before policy user ∧ DecisionChanges before after user.email) →
    ∀ user, IsHolder before policy user → user.email ∈ published

/-- What the user holds besides the policy. -/
def otherHoldings (database : Database) (policy : Policy) (userEmail : String) : Holdings :=
  ⟨(database.getActivePoliciesForUser userEmail).filter (·.id != policy.id),
    database.getActivePermissionsForUser userEmail⟩

/-- The conditions say the same as the policy's, wherever nothing else that a holder has decides. -/
def ConditionsAgree (database : Database) (policy : Policy) (conditions : Json) : Prop :=
  ∀ user, IsHolder database policy user → ∀ runtime action resourceType resource context,
    grantMatches policy.toGrant action resourceType = true →
      (∀ grant ∈ (otherHoldings database policy user.email).effectivePolicies,
        ¬ grant.applies runtime action resourceType user.email resource context) →
        (evaluateConditions runtime policy.conditions user.email resource context).satisfied =
          (evaluateConditions runtime conditions user.email resource context).satisfied

/-! ## The decision of a holder -/

section Decisions

variable {database before after : Database} {policy updated : Policy} {user : User}

theorem mem_getHolderEmails (holder : IsHolder database policy user) :
    user.email ∈ database.getHolderEmails policy.id := by
  obtain ⟨link, linked, same⟩ := List.any_eq_true.mp holder.assigned
  simp only [Bool.and_eq_true, beq_iff_eq] at same
  refine List.mem_flatMap.mpr ⟨link, List.mem_filter.mpr ⟨linked, beq_iff_eq.mpr same.2⟩, ?_⟩
  exact List.mem_map.mpr ⟨user, List.mem_filter.mpr ⟨holder.present, by simp [same.1]⟩, rfl⟩

theorem mem_otherHoldings (userEmail : String) (grant : Grant) :
    grant ∈ (otherHoldings database policy userEmail).effectivePolicies ↔
      (∃ other ∈ database.policies, other.id ≠ policy.id ∧ other.isActive = true ∧
        (∃ link ∈ database.userPolicies, link.policyId = other.id ∧
          database.isUserWithEmail link.userId userEmail = true) ∧ other.toGrant = grant) ∨
      (∃ permission ∈ database.userPermissions, permission.isActive = true ∧
        database.isUserWithEmail permission.userId userEmail = true ∧
          permission.toGrant = grant) := by
  simp only [Holdings.effectivePolicies, otherHoldings, Database.getActivePoliciesForUser,
    Database.getActivePermissionsForUser, List.mem_append, List.mem_map, List.mem_filter,
    Bool.and_eq_true, List.any_eq_true, beq_iff_eq, bne_iff_ne, and_assoc]
  refine or_congr (exists_congr fun other => and_congr_right fun _ => ?_) Iff.rfl
  tauto

/-- A holder is allowed what something else allows him, or the policy while it is active. -/
theorem isAllowed_of_holder (holder : IsHolder database policy user)
    (stored : policy ∈ database.policies)
    (unique : ∀ other ∈ database.policies, other.id = policy.id → other = policy)
    (runtime : Runtime) (action resourceType : String) (resource : Option Resource)
    (context : Option Dict) :
    isAllowed database runtime user.email action resourceType resource context = true ↔
      (∃ grant ∈ (otherHoldings database policy user.email).effectivePolicies,
        grant.applies runtime action resourceType user.email resource context) ∨
      (policy.isActive = true ∧
        policy.toGrant.applies runtime action resourceType user.email resource context) := by
  rw [isAllowed_iff]
  constructor
  · rintro ⟨grant, effective, applies⟩
    rcases (mem_effectivePolicies _ _ _).mp effective with ⟨other, listed, active, link, rfl⟩ | direct
    · by_cases same : other.id = policy.id
      · rw [unique other listed same] at active applies
        exact Or.inr ⟨active, applies⟩
      · exact Or.inl ⟨_, (mem_otherHoldings _ _).mpr (Or.inl ⟨other, listed, same, active, link, rfl⟩),
          applies⟩
    · exact Or.inl ⟨grant, (mem_otherHoldings _ _).mpr (Or.inr direct), applies⟩
  · rintro (⟨grant, among, applies⟩ | ⟨active, applies⟩)
    · refine ⟨grant, (mem_effectivePolicies _ _ _).mpr ?_, applies⟩
      rcases (mem_otherHoldings _ _).mp among with ⟨other, listed, -, rest⟩ | direct
      · exact Or.inl ⟨other, listed, rest⟩
      · exact Or.inr direct
    · refine ⟨policy.toGrant, (mem_effectivePolicies _ _ _).mpr (Or.inl ?_), applies⟩
      obtain ⟨link, linked, same⟩ := List.any_eq_true.mp holder.assigned
      simp only [Bool.and_eq_true, beq_iff_eq] at same
      have isUser : database.isUserWithEmail link.userId user.email = true :=
        List.any_eq_true.mpr ⟨user, holder.present, by simp [same.1]⟩
      exact ⟨policy, stored, active, ⟨link, linked, same.2, isUser⟩, rfl⟩

/-- The row of the policy is replaced, and the other tables stay. -/
structure PolicyReplaced (before after : Database) (policy updated : Policy) : Prop where
  constraints : Constraints before
  stored : policy ∈ before.policies
  sameId : updated.id = policy.id
  policies : after.policies = Database.replacePolicy before.policies updated
  users : after.users = before.users
  userPolicies : after.userPolicies = before.userPolicies
  userPermissions : after.userPermissions = before.userPermissions

namespace PolicyReplaced

theorem mem_after_iff (replaced : PolicyReplaced before after policy updated) (other : Policy)
    (differs : other.id ≠ policy.id) : other ∈ after.policies ↔ other ∈ before.policies := by
  rw [replaced.policies]
  constructor
  · intro member
    rcases mem_replacePolicy _ _ _ member with rfl | ⟨listed, -⟩
    · exact absurd replaced.sameId differs
    · exact listed
  · intro listed
    refine List.mem_map.mpr ⟨other, listed, if_neg fun same => differs ?_⟩
    exact same.trans replaced.sameId

theorem stored_after (replaced : PolicyReplaced before after policy updated) :
    updated ∈ after.policies := by
  rw [replaced.policies]
  exact List.mem_map.mpr ⟨policy, replaced.stored, if_pos replaced.sameId.symm⟩

theorem unique_after (replaced : PolicyReplaced before after policy updated) (other : Policy)
    (listed : other ∈ after.policies) (same : other.id = updated.id) : other = updated := by
  rw [replaced.policies] at listed
  rcases mem_replacePolicy _ _ _ listed with isUpdated | ⟨-, differs⟩
  · exact isUpdated
  · exact absurd same differs

theorem holder_after (replaced : PolicyReplaced before after policy updated)
    (holder : IsHolder before policy user) : IsHolder after updated user where
  present := replaced.users ▸ holder.present
  assigned := by
    rw [Database.userHoldsPolicy, replaced.userPolicies, replaced.sameId]
    exact holder.assigned

theorem isUserWithEmail_after (replaced : PolicyReplaced before after policy updated) (userId : Nat)
    (userEmail : String) :
    after.isUserWithEmail userId userEmail = before.isUserWithEmail userId userEmail := by
  rw [Database.isUserWithEmail, Database.isUserWithEmail, replaced.users]

theorem others_after (replaced : PolicyReplaced before after policy updated) (userEmail : String)
    (grant : Grant) :
    grant ∈ (otherHoldings after updated userEmail).effectivePolicies ↔
      grant ∈ (otherHoldings before policy userEmail).effectivePolicies := by
  rw [mem_otherHoldings, mem_otherHoldings, replaced.userPolicies, replaced.userPermissions,
    replaced.sameId]
  simp only [replaced.isUserWithEmail_after]
  refine or_congr_left (exists_congr fun other => ?_)
  constructor
  · rintro ⟨listed, differs, rest⟩
    exact ⟨(replaced.mem_after_iff other differs).mp listed, differs, rest⟩
  · rintro ⟨listed, differs, rest⟩
    exact ⟨(replaced.mem_after_iff other differs).mpr listed, differs, rest⟩

theorem isAllowed_after (replaced : PolicyReplaced before after policy updated)
    (holder : IsHolder before policy user) (runtime : Runtime) (action resourceType : String)
    (resource : Option Resource) (context : Option Dict) :
    isAllowed after runtime user.email action resourceType resource context = true ↔
      (∃ grant ∈ (otherHoldings before policy user.email).effectivePolicies,
        grant.applies runtime action resourceType user.email resource context) ∨
      (updated.isActive = true ∧
        updated.toGrant.applies runtime action resourceType user.email resource context) := by
  rw [isAllowed_of_holder (replaced.holder_after holder) replaced.stored_after replaced.unique_after]
  simp only [replaced.others_after]

theorem isAllowed_before (replaced : PolicyReplaced before after policy updated)
    (holder : IsHolder before policy user) (runtime : Runtime) (action resourceType : String)
    (resource : Option Resource) (context : Option Dict) :
    isAllowed before runtime user.email action resourceType resource context = true ↔
      (∃ grant ∈ (otherHoldings before policy user.email).effectivePolicies,
        grant.applies runtime action resourceType user.email resource context) ∨
      (policy.isActive = true ∧
        policy.toGrant.applies runtime action resourceType user.email resource context) :=
  isAllowed_of_holder holder replaced.stored
    (fun other listed same => replaced.constraints.policy_unique other policy listed replaced.stored
      same) runtime action resourceType resource context

/-- New conditions keep the decisions of all holders exactly when the policy is not active, or they
agree with the old ones. -/
theorem decisions_kept_iff (replaced : PolicyReplaced before after policy updated)
    (sameActions : updated.actions = policy.actions)
    (sameType : updated.resourceType = policy.resourceType)
    (sameActivity : updated.isActive = policy.isActive) :
    (∀ user, IsHolder before policy user → ¬ DecisionChanges before after user.email) ↔
      policy.isActive = false ∨ ConditionsAgree before policy updated.conditions := by
  have sameMatch (action resourceType : String) : grantMatches updated.toGrant action resourceType =
      grantMatches policy.toGrant action resourceType := by
    rw [grantMatches, grantMatches, Policy.toGrant, Policy.toGrant, sameActions, sameType]
  constructor
  · intro kept
    cases active : policy.isActive with
    | false => exact Or.inl rfl
    | true =>
      refine Or.inr fun user holder runtime action resourceType resource context isMatch noOther => ?_
      have same : isAllowed before runtime user.email action resourceType resource context =
          isAllowed after runtime user.email action resourceType resource context := by
        by_contra differs
        exact kept user holder ⟨runtime, action, resourceType, resource, context, differs⟩
      rw [Bool.eq_iff_iff, replaced.isAllowed_before holder, replaced.isAllowed_after holder,
        or_iff_right (by simpa using noOther), or_iff_right (by simpa using noOther), sameActivity,
        active, Grant.applies, Grant.applies, sameMatch, isMatch] at same
      simp only [true_and] at same
      exact Bool.eq_iff_iff.mpr same
  · intro agree user holder changes
    obtain ⟨runtime, action, resourceType, resource, context, differs⟩ := changes
    apply differs
    rw [Bool.eq_iff_iff, replaced.isAllowed_before holder, replaced.isAllowed_after holder,
      sameActivity, Grant.applies, Grant.applies, sameMatch]
    rcases agree with inactive | agree
    · rw [inactive]
      simp
    · by_cases decided : ∃ grant ∈ (otherHoldings before policy user.email).effectivePolicies,
          grant.applies runtime action resourceType user.email resource context
      · exact iff_of_true (Or.inl decided) (Or.inl decided)
      · refine or_congr_right (and_congr_right fun _ => and_congr_right fun isMatch => ?_)
        push Not at decided
        have same := agree user holder runtime action resourceType resource context isMatch decided
        exact Bool.eq_iff_iff.mp same

end PolicyReplaced

end Decisions

/-! ## The route -/

section Route

variable {server : Server} {reprText : Json → String} {database : Database} {request : Request}
variable {policyName : String} {fields : Database.PolicyFields} {changeReason : Option String}
variable {accepted : Accepted server database request} {policy : Policy}

theorem dedupe_affectsGrants : affectsGrants
    { fields with actions := fields.actions.map (Option.map dedupeActions) } =
      affectsGrants fields := by
  rw [affectsGrants, affectsGrants, Option.isSome_map]

/-- An accepted update replaces the row of the policy that the path names. -/
theorem updatePolicy_row (named : database.getByName policyName = some policy)
    (success : updatePolicy server reprText database request policyName fields changeReason
      = .ok accepted) :
    ∃ updated, ({ fields with
        actions := fields.actions.map (Option.map dedupeActions) } : Database.PolicyFields).apply
          policy = some updated ∧
      accepted.after = ({ database with
        policies := Database.replacePolicy database.policies updated }.addHistory updated.id
          updated.name .updated (some policy.definition) (some updated.definition) request.caller
          changeReason) := by
  obtain ⟨_, _, success⟩ := bind_eq_ok _ _ _ success
  obtain ⟨row, found, success⟩ := bind_eq_ok _ _ _ success
  obtain ⟨_, _, success⟩ := bind_eq_ok _ _ _ success
  obtain ⟨_, _, success⟩ := bind_eq_ok _ _ _ success
  obtain ⟨_, _, success⟩ := bind_eq_ok _ _ _ success
  obtain ⟨_, _, success⟩ := bind_eq_ok _ _ _ success
  obtain ⟨current, _, success⟩ := bind_eq_ok _ _ _ success
  obtain ⟨target, _, success⟩ := bind_eq_ok _ _ _ success
  obtain ⟨after, committed, success⟩ := bind_eq_ok _ _ _ success
  cases success
  obtain rfl := Option.some.inj (named.symm.trans (getOr404_ok _ _ _ found))
  exact updatePolicy_eq_some _ _ _ _ _ _ _ (commit_ok _ _ committed)

theorem updatePolicy_replaced (constraints : Constraints database)
    (named : database.getByName policyName = some policy)
    (success : updatePolicy server reprText database request policyName fields changeReason
      = .ok accepted) :
    ∃ updated, ({ fields with
        actions := fields.actions.map (Option.map dedupeActions) } : Database.PolicyFields).apply
          policy = some updated ∧ PolicyReplaced database accepted.after policy updated := by
  obtain ⟨updated, applied, row⟩ := updatePolicy_row named success
  refine ⟨updated, applied, constraints, List.mem_of_find?_eq_some named,
    (apply_eq_some _ _ _ applied).1, ?_, ?_, ?_, ?_⟩ <;> rw [row] <;> rfl

theorem updatePolicyPublishing_ok {published : List String}
    (named : database.getByName policyName = some policy)
    (success : updatePolicyPublishing server reprText database request policyName fields changeReason
      = .ok (accepted, published)) :
    updatePolicy server reprText database request policyName fields changeReason = .ok accepted ∧
      published = if affectsGrants fields then database.getHolderEmails policy.id else [] := by
  obtain ⟨accepted', updates, success⟩ := bind_eq_ok _ _ _ success
  obtain ⟨row, found, success⟩ := bind_eq_ok _ _ _ success
  cases success
  obtain rfl := Option.some.inj (named.symm.trans (getOr404_ok _ _ _ found))
  exact ⟨updates, rfl⟩

/-- An accepted update notifies all holders of a change for one of them exactly when it sets more
than the conditions, or the policy is not active, or the new conditions agree with the old. -/
theorem holders_notified_iff (constraints : Constraints database)
    (named : database.getByName policyName = some policy) (published : List String)
    (success : updatePolicyPublishing server reprText database request policyName fields changeReason
      = .ok (accepted, published)) :
    NotifiesHolders database accepted.after policy published ↔
      affectsGrants fields = true ∨ policy.isActive = false ∨
        ConditionsAgree database policy (fields.conditions.getD policy.conditions) := by
  obtain ⟨updates, rfl⟩ := updatePolicyPublishing_ok named success
  cases affects : affectsGrants fields with
  | true => exact iff_of_true (fun _ _ holder => mem_getHolderEmails holder) (Or.inl rfl)
  | false =>
    obtain ⟨updated, applied, replaced⟩ := updatePolicy_replaced constraints named updates
    obtain ⟨-, actionsSet, typeSet, activeSet, conditionsSet⟩ := apply_eq_some _ _ _ applied
    rw [← dedupe_affectsGrants] at affects
    simp only [affectsGrants, Bool.or_eq_false_iff, Option.isSome_eq_false_iff,
      Option.isNone_iff_eq_none] at affects
    obtain ⟨⟨noActions, noType⟩, noActivity⟩ := affects
    rw [noActions] at actionsSet
    rw [noType] at typeSet
    rw [noActivity] at activeSet
    have keptIff := replaced.decisions_kept_iff (Option.some.inj actionsSet).symm
      (Option.some.inj typeSet).symm (Option.some.inj activeSet).symm
    rw [conditionsSet] at keptIff
    simp only [Bool.false_eq_true, false_or, if_false]
    rw [← keptIff]
    constructor
    · intro notifies user holder changes
      cases notifies ⟨user, holder, changes⟩ user holder
    · rintro kept ⟨user, holder, changes⟩
      exact absurd changes (kept user holder)

end Route

/-! ## Conditions that narrow a policy -/

def reportsPolicy : Policy :=
  ⟨2, "reports", none, ["reports:read"], "reports", .null, true, some "root@example.com"⟩

/-- Ann may read reports. -/
def reportsDatabase : Database where
  users := [⟨1, "root@example.com", .admin⟩, ⟨2, "ann@example.com", .user⟩]
  policies := [⟨1, "system_superuser", none, builtInActions, "*", .null, true, some "system"⟩,
    reportsPolicy]
  userPolicies := [⟨1, 1, some "system"⟩, ⟨2, 2, some "root@example.com"⟩]
  userPermissions := []
  policyHistory := []
  nextPolicyId := 3
  nextHistoryId := 1

theorem reportsDatabase_constraints : Constraints reportsDatabase where
  policyIdsUnique := by decide
  policyIdsFresh := by simp [reportsDatabase, reportsPolicy]
  linksResolve := by simp [reportsDatabase, reportsPolicy]
  policyConditions := by
    intro policy member
    rcases List.mem_cons.mp member with rfl | isReports
    · exact ⟨utcRuntime, rfl⟩
    · rw [List.mem_singleton.mp isReports]
      exact ⟨utcRuntime, rfl⟩
  permissionConditions := by simp [reportsDatabase]

theorem ann_isHolder : IsHolder reportsDatabase reportsPolicy ⟨2, "ann@example.com", .user⟩ where
  present := List.mem_cons_of_mem _ List.mem_cons_self
  assigned := by rfl

/-- Root edits the policy. -/
def reportsUpdate (fields : Database.PolicyFields) :
    Except Failure (Accepted exampleServer reportsDatabase
      (exampleEvent "root@example.com" (.updatePolicy "reports" fields none)).request ×
        List String) :=
  updatePolicyPublishing exampleServer (fun _ => "") reportsDatabase _ "reports" fields none

/-- Who is notified, and whether Ann may read reports afterwards. -/
def annsVerdict (fields : Database.PolicyFields) : Option (List String × Bool) :=
  match reportsUpdate fields with
  | .ok (accepted, published) =>
      some (published, isAllowed accepted.after utcRuntime "ann@example.com" "reports:read" "reports"
        none none)
  | .error _ => none

theorem holders_notified_iff_deactivation :
    ∃ accepted published, reportsUpdate (switchActive false) = .ok (accepted, published) ∧
      published = ["ann@example.com"] ∧
      NotifiesHolders reportsDatabase accepted.after reportsPolicy published := by
  have verdict : annsVerdict (switchActive false) = some (["ann@example.com"], false) := by rfl
  cases outcome : reportsUpdate (switchActive false) with
  | error failure => simp [annsVerdict, outcome] at verdict
  | ok result =>
    obtain ⟨accepted, published⟩ := result
    simp only [annsVerdict, outcome, Option.some.injEq, Prod.mk.injEq] at verdict
    refine ⟨accepted, published, rfl, verdict.1, ?_⟩
    exact (holders_notified_iff reportsDatabase_constraints rfl published outcome).mpr (Or.inl rfl)

def selfOnlyConditions : Database.PolicyFields :=
  { Database.PolicyFields.unset with
    conditions := some (.obj ⟨["self_only"], by decide⟩ [.bool true]) }

/-- Ann loses her access, and is not notified. -/
theorem narrowed_conditions_unpublished :
    ¬ ∀ (server : Server) (reprText : Json → String) (database : Database) (request : Request)
      (policyName : String) (policy : Policy) (fields : Database.PolicyFields)
      (changeReason : Option String) (accepted : Accepted server database request)
      (published : List String), Constraints database → database.getByName policyName = some policy →
        updatePolicyPublishing server reprText database request policyName fields changeReason =
          .ok (accepted, published) → NotifiesHolders database accepted.after policy published := by
  intro claim
  have verdict : annsVerdict selfOnlyConditions = some ([], false) := by rfl
  have allowed : isAllowed reportsDatabase utcRuntime "ann@example.com" "reports:read" "reports" none
      none = true := by rfl
  cases outcome : reportsUpdate selfOnlyConditions with
  | error failure => simp [annsVerdict, outcome] at verdict
  | ok result =>
    obtain ⟨accepted, published⟩ := result
    simp only [annsVerdict, outcome, Option.some.injEq, Prod.mk.injEq] at verdict
    have changes : DecisionChanges reportsDatabase accepted.after "ann@example.com" :=
      ⟨utcRuntime, "reports:read", "reports", none, none, by rw [allowed, verdict.2]; decide⟩
    have notifies := claim _ _ _ _ _ reportsPolicy _ _ accepted published
      reportsDatabase_constraints rfl outcome
    have notified := notifies ⟨_, ann_isHolder, changes⟩ _ ann_isHolder
    rw [verdict.1] at notified
    cases notified

end MysticAuth
