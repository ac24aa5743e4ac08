import MysticAuth.Authorization.NoEscalation

/-!
# Revoking a single action

`revoke_single_action` replaces an assignment by direct grants for the policy's
other actions.  These take the policy's conditions and are active, whatever
stood under their keys and whether or not the policy itself was active.
-/

set_option autoImplicit false

namespace MysticAuth

open Python PolicyEvaluationEngine

/-! ## The direct grants it leaves -/

theorem mem_assignPermission_iff (database : Database) (userId : Nat)
    (action resourceType : String) (conditions : Json) (assignedBy : Option String)
    (grant : UserPermission) :
    grant ∈ (database.assignPermissionToUser userId action resourceType conditions
        assignedBy).userPermissions ↔
      (grant ∈ database.userPermissions ∧
          Database.isGrantKey userId action resourceType grant = false) ∨
        grant = ⟨userId, action, resourceType, conditions, true, assignedBy⟩ := by
  constructor
  · intro member
    by_cases key : Database.isGrantKey userId action resourceType grant = true
    · refine Or.inr ?_
      simp only [Database.assignPermissionToUser] at member
      split at member
      · obtain ⟨other, listed, rfl⟩ := List.mem_map.mp member
        split at key
        · rename_i otherKey
          simp only [Database.isGrantKey, Bool.and_eq_true, beq_iff_eq] at otherKey
          obtain ⟨⟨rfl, rfl⟩, rfl⟩ := otherKey
          simp [Database.isGrantKey]
        · rename_i otherKey
          exact absurd key otherKey
      · rename_i missing
        rcases List.mem_append.mp member with earlier | last
        · exact absurd (List.any_eq_true.mpr ⟨grant, earlier, key⟩) missing
        · exact List.mem_singleton.mp last
    · rcases mem_assignPermission _ _ _ _ _ _ _ member with earlier | rfl
      · exact Or.inl ⟨earlier, Bool.not_eq_true _ ▸ key⟩
      · exact Or.inr rfl
  · intro origin
    simp only [Database.assignPermissionToUser]
    split
    · rename_i held
      rcases origin with ⟨earlier, otherKey⟩ | rfl
      · exact List.mem_map.mpr ⟨grant, earlier, by simp [otherKey]⟩
      · obtain ⟨other, listed, key⟩ := List.any_eq_true.mp held
        refine List.mem_map.mpr ⟨other, listed, ?_⟩
        rw [if_pos key]
        simp only [Database.isGrantKey, Bool.and_eq_true, beq_iff_eq] at key
        simp [key]
    · rcases origin with ⟨earlier, _⟩ | rfl
      · exact List.mem_append_left _ earlier
      · exact List.mem_append_right _ (List.mem_singleton.mpr rfl)

/-- The row stands under a key that the revocation writes. -/
def isOverwritten (userId : Nat) (remaining : List String) (resourceType : String)
    (grant : UserPermission) : Bool :=
  grant.userId == userId && remaining.contains grant.action && grant.resourceType == resourceType

theorem isOverwritten_cons (userId : Nat) (action : String) (rest : List String)
    (resourceType : String) (grant : UserPermission) :
    isOverwritten userId (action :: rest) resourceType grant =
      (Database.isGrantKey userId action resourceType grant ||
        isOverwritten userId rest resourceType grant) := by
  rw [Bool.eq_iff_iff]
  simp only [isOverwritten, Database.isGrantKey, List.contains_cons, Bool.and_eq_true,
    Bool.or_eq_true, beq_iff_eq]
  tauto

theorem mem_assignRemaining_iff (remaining : List String) (database : Database) (userId : Nat)
    (resourceType : String) (conditions : Json) (assignedBy : Option String)
    (grant : UserPermission) :
    grant ∈ (remaining.foldl (fun current action =>
        current.assignPermissionToUser userId action resourceType conditions assignedBy)
          database).userPermissions ↔
      (grant ∈ database.userPermissions ∧
          isOverwritten userId remaining resourceType grant = false) ∨
        ∃ action ∈ remaining,
          grant = ⟨userId, action, resourceType, conditions, true, assignedBy⟩ := by
  induction remaining generalizing database with
  | nil => simp [isOverwritten]
  | cons action rest ih =>
    rw [List.foldl_cons, ih, mem_assignPermission_iff, isOverwritten_cons]
    simp only [List.mem_cons, Bool.or_eq_false_iff]
    constructor
    · rintro (⟨⟨earlier, otherKey⟩ | rfl, kept⟩ | ⟨other, member, rfl⟩)
      · exact Or.inl ⟨earlier, otherKey, kept⟩
      · exact Or.inr ⟨action, Or.inl rfl, rfl⟩
      · exact Or.inr ⟨other, Or.inr member, rfl⟩
    · rintro (⟨earlier, otherKey, kept⟩ | ⟨other, rfl | member, rfl⟩)
      · exact Or.inl ⟨Or.inl ⟨earlier, otherKey⟩, kept⟩
      · -- the row of an action that occurs again is written again
        by_cases again : other ∈ rest
        · exact Or.inr ⟨other, again, rfl⟩
        · refine Or.inl ⟨Or.inr rfl, ?_⟩
          simp [isOverwritten, again]
      · exact Or.inr ⟨other, member, rfl⟩

/-! ## The tables before and after -/

def remainingActions (policy : Policy) (action : String) : List String :=
  policy.actions.filter (· != action)

/-- A call of `revoke_single_action` that returned `True`. -/
structure ActionRevocation (before after : Database) (user : User) (policy : Policy)
    (action : String) (revokedBy : Option String) : Prop where
  present : user ∈ before.users
  emailsUnique : (before.users.map User.email).Nodup
  stored : policy ∈ before.policies
  policyIdsUnique : (before.policies.map Policy.id).Nodup
  held : before.userHoldsPolicy user.id policy.id = true
  contained : action ∈ policy.actions
  applied : before.revokeSingleAction user.id policy action revokedBy = some after

/-- The user's grants that the revocation leaves alone. -/
def otherGrants (database : Database) (user : User) (policy : Policy) (action : String) :
    List Grant :=
  ((database.getActivePoliciesForUser user.email).filter (·.id != policy.id)).map
      Policy.toGrant ++
    ((database.getActivePermissionsForUser user.email).filter fun grant =>
      !isOverwritten user.id (remainingActions policy action) policy.resourceType grant).map
        UserPermission.toGrant

/-- The direct grants under the keys that the revocation writes. -/
def overwrittenGrants (database : Database) (user : User) (policy : Policy) (action : String) :
    List UserPermission :=
  (database.getActivePermissionsForUser user.email).filter
    (isOverwritten user.id (remainingActions policy action) policy.resourceType)

namespace ActionRevocation

variable {before after : Database} {user : User} {policy : Policy} {action : String}
variable {revokedBy : Option String}

theorem isUser_iff (revocation : ActionRevocation before after user policy action revokedBy)
    (userId : Nat) : before.isUserWithEmail userId user.email = true ↔ userId = user.id := by
  simp only [Database.isUserWithEmail, List.any_eq_true, Bool.and_eq_true, beq_iff_eq]
  constructor
  · rintro ⟨other, member, rfl, sameEmail⟩
    rw [List.inj_on_of_nodup_map revocation.emailsUnique member revocation.present sameEmail]
  · rintro rfl
    exact ⟨user, revocation.present, rfl, rfl⟩

theorem tables (revocation : ActionRevocation before after user policy action revokedBy) :
    after.users = before.users ∧ after.policies = before.policies ∧
      after.userPolicies = before.userPolicies.filter (fun link =>
        !(link.userId == user.id && link.policyId == policy.id)) ∧
      ∀ grant, grant ∈ after.userPermissions ↔
        (grant ∈ before.userPermissions ∧
            isOverwritten user.id (remainingActions policy action) policy.resourceType grant
              = false) ∨
          ∃ other ∈ remainingActions policy action, grant =
            ⟨user.id, other, policy.resourceType, policy.conditions, true, revokedBy⟩ := by
  have applied := revocation.applied
  simp only [Database.revokeSingleAction] at applied
  split at applied
  · obtain rfl := Option.some.inj applied
    rw [assignRemaining_frame]
    refine ⟨rfl, rfl, rfl, fun grant => ?_⟩
    exact mem_assignRemaining_iff (remainingActions policy action) before user.id
      policy.resourceType policy.conditions revokedBy grant
  · simp at applied

theorem mem_before_iff (revocation : ActionRevocation before after user policy action revokedBy)
    (grant : Grant) :
    grant ∈ (before.holdings user.email).effectivePolicies ↔
      grant ∈ otherGrants before user policy action ∨
        (policy.isActive = true ∧ grant = policy.toGrant) ∨
        ∃ permission ∈ overwrittenGrants before user policy action,
          grant = permission.toGrant := by
  simp only [Holdings.effectivePolicies, Database.holdings, otherGrants, overwrittenGrants,
    List.mem_append, List.mem_map, List.mem_filter, bne_iff_ne, Bool.not_eq_true']
  constructor
  · rintro (⟨other, member, rfl⟩ | ⟨permission, member, rfl⟩)
    · by_cases isPolicy : other.id = policy.id
      · have listed := List.mem_filter.mp member
        obtain rfl := List.inj_on_of_nodup_map revocation.policyIdsUnique listed.1
          revocation.stored isPolicy
        simp only [Bool.and_eq_true] at listed
        exact Or.inr (Or.inl ⟨listed.2.1, rfl⟩)
      · exact Or.inl (Or.inl ⟨other, ⟨member, isPolicy⟩, rfl⟩)
    · cases overwritten : isOverwritten user.id (remainingActions policy action)
          policy.resourceType permission with
      | true => exact Or.inr (Or.inr ⟨permission, ⟨member, overwritten⟩, rfl⟩)
      | false => exact Or.inl (Or.inr ⟨permission, ⟨member, overwritten⟩, rfl⟩)
  · rintro ((⟨other, ⟨member, _⟩, rfl⟩ | ⟨permission, ⟨member, _⟩, rfl⟩) | ⟨active, rfl⟩ |
      ⟨permission, ⟨member, _⟩, rfl⟩)
    · exact Or.inl ⟨other, member, rfl⟩
    · exact Or.inr ⟨permission, member, rfl⟩
    · refine Or.inl ⟨policy, List.mem_filter.mpr ⟨revocation.stored, ?_⟩, rfl⟩
      simp only [active, Bool.true_and, List.any_eq_true, Bool.and_eq_true, beq_iff_eq]
      obtain ⟨link, linked, same⟩ := List.any_eq_true.mp revocation.held
      simp only [Bool.and_eq_true, beq_iff_eq] at same
      exact ⟨link, linked, same.2, (revocation.isUser_iff link.userId).mpr same.1⟩
    · exact Or.inr ⟨permission, member, rfl⟩

theorem activePolicies_after
    (revocation : ActionRevocation before after user policy action revokedBy) :
    after.getActivePoliciesForUser user.email =
      (before.getActivePoliciesForUser user.email).filter (·.id != policy.id) := by
  obtain ⟨users, policies, links, -⟩ := revocation.tables
  have sameUser : ∀ userId, after.isUserWithEmail userId user.email =
      before.isUserWithEmail userId user.email := fun userId => by
    simp only [Database.isUserWithEmail, users]
  simp only [Database.getActivePoliciesForUser, policies, links, sameUser, List.filter_filter]
  refine List.filter_congr fun other _ => ?_
  rw [Bool.eq_iff_iff]
  simp only [Bool.and_eq_true, List.any_eq_true, List.mem_filter, Bool.not_eq_true',
    Bool.and_eq_false_iff, beq_eq_false_iff_ne, beq_iff_eq, bne_iff_ne, revocation.isUser_iff]
  constructor
  · rintro ⟨active, link, ⟨linked, kept⟩, isOther, isUser⟩
    have notPolicy := kept.resolve_left (fun differs => differs isUser)
    exact ⟨isOther ▸ notPolicy, active, link, linked, isOther, isUser⟩
  · rintro ⟨notPolicy, active, link, linked, isOther, isUser⟩
    exact ⟨active, link, ⟨linked, Or.inr (isOther ▸ notPolicy)⟩, isOther, isUser⟩

theorem mem_after_iff (revocation : ActionRevocation before after user policy action revokedBy)
    (grant : Grant) :
    grant ∈ (after.holdings user.email).effectivePolicies ↔
      grant ∈ otherGrants before user policy action ∨
        ∃ other ∈ remainingActions policy action,
          grant = ⟨s!"direct:{other}", [other], policy.resourceType, policy.conditions⟩ := by
  obtain ⟨users, -, -, permissions⟩ := revocation.tables
  simp only [Holdings.effectivePolicies, Database.holdings, otherGrants, List.mem_append,
    revocation.activePolicies_after, Database.getActivePermissionsForUser, List.mem_map,
    List.mem_filter, Bool.and_eq_true, Bool.not_eq_true', or_assoc]
  refine or_congr_right ?_
  have sameUser : ∀ userId, after.isUserWithEmail userId user.email = true ↔
      userId = user.id := fun userId => by
    rw [← revocation.isUser_iff userId]
    simp only [Database.isUserWithEmail, users]
  constructor
  · rintro ⟨permission, ⟨member, active, isUser⟩, rfl⟩
    rcases (permissions permission).mp member with ⟨earlier, kept⟩ | ⟨other, remains, rfl⟩
    · refine Or.inl ⟨permission, ⟨⟨earlier, active, ?_⟩, kept⟩, rfl⟩
      exact (revocation.isUser_iff _).mpr ((sameUser _).mp isUser)
    · exact Or.inr ⟨other, remains, rfl⟩
  · rintro (⟨permission, ⟨⟨earlier, active, isUser⟩, kept⟩, rfl⟩ | ⟨other, remains, rfl⟩)
    · refine ⟨permission, ⟨(permissions _).mpr (Or.inl ⟨earlier, kept⟩), active, ?_⟩, rfl⟩
      exact (sameUser _).mpr ((revocation.isUser_iff _).mp isUser)
    · exact ⟨_, ⟨(permissions _).mpr (Or.inr ⟨other, remains, rfl⟩), rfl,
        (sameUser _).mpr rfl⟩, rfl⟩

end ActionRevocation

/-! ## What it keeps -/

/-- Everything but the revoked action is as it was. -/
structure KeepsEverythingElse (before after : Database) (user : User) (policy : Policy)
    (action : String) : Prop where
  decisions : ∀ (runtime : Runtime) (otherAction resourceType : String)
    (resource : Option Resource) (context : Option Dict), otherAction ≠ action →
      isAllowed after runtime user.email otherAction resourceType resource context =
        isAllowed before runtime user.email otherAction resourceType resource context
  otherAssignments : ∀ link : UserPolicy, link.userId ≠ user.id →
    (link ∈ after.userPolicies ↔ link ∈ before.userPolicies)
  otherUsersGrants : ∀ permission : UserPermission, permission.userId ≠ user.id →
    (permission ∈ after.userPermissions ↔ permission ∈ before.userPermissions)
  outsidePolicy : ∀ permission : UserPermission, permission.userId = user.id →
    permission.action ∉ policy.actions →
      (permission ∈ after.userPermissions ↔ permission ∈ before.userPermissions)

/-- What an overwritten active grant let through, and what an inactive policy would let through,
is let through without the one and was let through without the other. -/
structure Undisturbed (database : Database) (user : User) (policy : Policy) (action : String) :
    Prop where
  overwritten : ∀ permission ∈ overwrittenGrants database user policy action,
    ∀ (runtime : Runtime) (resourceType : String) (resource : Option Resource)
      (context : Option Dict),
      permission.toGrant.applies runtime permission.action resourceType user.email resource
          context →
        policy.toGrant.applies runtime permission.action resourceType user.email resource
            context ∨
          ∃ grant ∈ otherGrants database user policy action,
            grant.applies runtime permission.action resourceType user.email resource context
  inactive : policy.isActive = false → ∀ other ∈ remainingActions policy action,
    ∀ (runtime : Runtime) (resourceType : String) (resource : Option Resource)
      (context : Option Dict),
      policy.toGrant.applies runtime other resourceType user.email resource context →
        isAllowed database runtime user.email other resourceType resource context = true

/-- An active policy whose other actions the user holds directly under the policy's own
conditions, if at all. -/
theorem undisturbed_of_sameConditions (database : Database) (user : User) (policy : Policy)
    (action : String) (active : policy.isActive = true)
    (same : ∀ permission ∈ overwrittenGrants database user policy action,
      permission.conditions = policy.conditions) :
    Undisturbed database user policy action := by
  refine ⟨?_, fun inactive => by simp [active] at inactive⟩
  intro permission member runtime resourceType resource context applies
  have overwritten := (List.mem_filter.mp member).2
  simp only [isOverwritten, Bool.and_eq_true, beq_iff_eq, List.contains_iff_mem,
    remainingActions, List.mem_filter] at overwritten
  obtain ⟨matched, satisfied⟩ := applies
  simp only [grantMatches, UserPermission.toGrant, Bool.and_eq_true, overwritten.2,
    same permission member] at matched satisfied
  refine Or.inl ⟨?_, satisfied⟩
  simp only [grantMatches, Policy.toGrant, Bool.and_eq_true]
  exact ⟨matched.1, List.contains_iff_mem.mpr overwritten.1.2.1⟩

section Iff

variable {before after : Database} {user : User} {policy : Policy} {action : String}
variable {revokedBy : Option String}
variable (runtime : Runtime) (otherAction resourceType : String)
variable (resource : Option Resource) (context : Option Dict)

/-- A replacement grant applies exactly where the policy would. -/
theorem replacement_applies_iff :
    (∃ other ∈ remainingActions policy action,
      Grant.applies ⟨s!"direct:{other}", [other], policy.resourceType, policy.conditions⟩ runtime
        otherAction resourceType user.email resource context) ↔
      otherAction ≠ action ∧
        policy.toGrant.applies runtime otherAction resourceType user.email resource context := by
  simp only [Grant.applies, grantMatches, Policy.toGrant, remainingActions, List.mem_filter,
    Bool.and_eq_true, List.contains_iff_mem, List.mem_singleton, bne_iff_ne]
  constructor
  · rintro ⟨other, ⟨listed, differs⟩, ⟨type, rfl⟩, satisfied⟩
    exact ⟨differs, ⟨type, listed⟩, satisfied⟩
  · rintro ⟨differs, ⟨type, listed⟩, satisfied⟩
    exact ⟨otherAction, ⟨listed, differs⟩, ⟨type, rfl⟩, satisfied⟩

theorem ActionRevocation.allowed_after_iff
    (revocation : ActionRevocation before after user policy action revokedBy) :
    isAllowed after runtime user.email otherAction resourceType resource context = true ↔
      (∃ grant ∈ otherGrants before user policy action,
        grant.applies runtime otherAction resourceType user.email resource context) ∨
      (otherAction ≠ action ∧
        policy.toGrant.applies runtime otherAction resourceType user.email resource context) := by
  rw [isAllowed_iff, ← replacement_applies_iff]
  simp only [revocation.mem_after_iff]
  constructor
  · rintro ⟨grant, kept | ⟨other, remains, rfl⟩, applies⟩
    · exact Or.inl ⟨grant, kept, applies⟩
    · exact Or.inr ⟨other, remains, applies⟩
  · rintro (⟨grant, kept, applies⟩ | ⟨other, remains, applies⟩)
    · exact ⟨grant, Or.inl kept, applies⟩
    · exact ⟨_, Or.inr ⟨other, remains, rfl⟩, applies⟩

theorem ActionRevocation.allowed_before_iff
    (revocation : ActionRevocation before after user policy action revokedBy) :
    isAllowed before runtime user.email otherAction resourceType resource context = true ↔
      (∃ grant ∈ otherGrants before user policy action,
        grant.applies runtime otherAction resourceType user.email resource context) ∨
      (policy.isActive = true ∧
        policy.toGrant.applies runtime otherAction resourceType user.email resource context) ∨
      ∃ permission ∈ overwrittenGrants before user policy action,
        permission.toGrant.applies runtime otherAction resourceType user.email resource
          context := by
  rw [isAllowed_iff]
  simp only [revocation.mem_before_iff]
  constructor
  · rintro ⟨grant, kept | ⟨active, rfl⟩ | ⟨permission, member, rfl⟩, applies⟩
    · exact Or.inl ⟨grant, kept, applies⟩
    · exact Or.inr (Or.inl ⟨active, applies⟩)
    · exact Or.inr (Or.inr ⟨permission, member, applies⟩)
  · rintro (⟨grant, kept, applies⟩ | ⟨active, applies⟩ | ⟨permission, member, applies⟩)
    · exact ⟨grant, Or.inl kept, applies⟩
    · exact ⟨_, Or.inr (Or.inl ⟨active, rfl⟩), applies⟩
    · exact ⟨_, Or.inr (Or.inr ⟨permission, member, rfl⟩), applies⟩

theorem direct_applies_action (permission : UserPermission)
    (applies : permission.toGrant.applies runtime otherAction resourceType user.email resource
      context) : otherAction = permission.action := by
  have matched := applies.1
  simp only [grantMatches, UserPermission.toGrant, Bool.and_eq_true, List.contains_iff_mem,
    List.mem_singleton] at matched
  exact matched.2

theorem overwritten_action (permission : UserPermission)
    (member : permission ∈ overwrittenGrants before user policy action) :
    permission.action ≠ action := by
  have overwritten := (List.mem_filter.mp member).2
  simp only [isOverwritten, Bool.and_eq_true, List.contains_iff_mem, remainingActions,
    List.mem_filter, bne_iff_ne] at overwritten
  exact overwritten.1.2.2

theorem ActionRevocation.decision_kept
    (revocation : ActionRevocation before after user policy action revokedBy)
    (undisturbed : Undisturbed before user policy action) (differs : otherAction ≠ action) :
    isAllowed after runtime user.email otherAction resourceType resource context =
      isAllowed before runtime user.email otherAction resourceType resource context := by
  rw [Bool.eq_iff_iff, revocation.allowed_after_iff, revocation.allowed_before_iff]
  constructor
  · rintro (kept | ⟨-, applies⟩)
    · exact Or.inl kept
    · cases active : policy.isActive with
      | true => exact Or.inr (Or.inl ⟨rfl, applies⟩)
      | false =>
        have listed : otherAction ∈ remainingActions policy action := by
          have matched := applies.1
          simp only [grantMatches, Policy.toGrant, Bool.and_eq_true,
            List.contains_iff_mem] at matched
          exact List.mem_filter.mpr ⟨matched.2, by simpa using differs⟩
        have allowed := undisturbed.inactive active otherAction listed runtime resourceType
          resource context applies
        simpa [active] using (revocation.allowed_before_iff runtime otherAction resourceType
          resource context).mp allowed
  · rintro (kept | ⟨-, applies⟩ | ⟨permission, member, applies⟩)
    · exact Or.inl kept
    · exact Or.inr ⟨differs, applies⟩
    · obtain rfl := direct_applies_action runtime otherAction resourceType resource context
        permission applies
      rcases undisturbed.overwritten permission member runtime resourceType resource context
        applies with byPolicy | kept
      · exact Or.inr ⟨differs, byPolicy⟩
      · exact Or.inl kept

end Iff

theorem revokeSingleAction_keeps_iff (before after : Database) (user : User) (policy : Policy)
    (action : String) (revokedBy : Option String)
    (revocation : ActionRevocation before after user policy action revokedBy) :
    KeepsEverythingElse before after user policy action ↔
      Undisturbed before user policy action := by
  obtain ⟨-, -, links, permissions⟩ := revocation.tables
  constructor
  · intro keeps
    refine ⟨?_, ?_⟩
    · intro permission member runtime resourceType resource context applies
      have differs := overwritten_action permission member
      have allowed := (revocation.allowed_before_iff runtime permission.action resourceType
        resource context).mpr (Or.inr (Or.inr ⟨permission, member, applies⟩))
      rw [← keeps.decisions runtime permission.action resourceType resource context differs,
        revocation.allowed_after_iff] at allowed
      exact allowed.symm.imp_left And.right
    · intro _ other remains runtime resourceType resource context applies
      have differs : other ≠ action := by simpa using (List.mem_filter.mp remains).2
      rw [← keeps.decisions runtime other resourceType resource context differs,
        revocation.allowed_after_iff]
      exact Or.inr ⟨differs, applies⟩
  · intro undisturbed
    refine ⟨?_, ?_, ?_, ?_⟩
    · intro runtime otherAction resourceType resource context differs
      exact revocation.decision_kept runtime otherAction resourceType resource context
        undisturbed differs
    · intro link otherUser
      simp [links, otherUser]
    · intro permission otherUser
      rw [permissions]
      constructor
      · rintro (⟨earlier, _⟩ | ⟨other, _, rfl⟩)
        · exact earlier
        · exact absurd rfl otherUser
      · exact fun earlier => Or.inl ⟨earlier, by simp [isOverwritten, otherUser]⟩
    · intro permission _ outside
      rw [permissions]
      constructor
      · rintro (⟨earlier, _⟩ | ⟨other, remains, rfl⟩)
        · exact earlier
        · exact absurd (List.mem_filter.mp remains).1 outside
      · exact fun earlier => Or.inl ⟨earlier, by
          simp [isOverwritten, remainingActions, outside]⟩

/-! ## Where it widens -/

/-- One user and one policy for two actions. -/
def reviewerTables (isActive : Bool) (userPermissions : List UserPermission) : Database where
  users := [⟨1, "ann@example.com", .user⟩]
  policies := [⟨1, "reviewer", none, ["projects:read", "projects:write"], "projects", .null,
    isActive, none⟩]
  userPolicies := [⟨1, 1, none⟩]
  userPermissions := userPermissions
  policyHistory := []
  nextPolicyId := 2
  nextHistoryId := 1

def reviewerPolicy (isActive : Bool) : Policy :=
  ⟨1, "reviewer", none, ["projects:read", "projects:write"], "projects", .null, isActive, none⟩

/-- The row that replaces the assignment. -/
def readGrant : UserPermission :=
  ⟨1, "projects:read", "projects", .null, true, some "root@example.com"⟩

theorem reviewer_revocation (isActive : Bool) :
    ActionRevocation (reviewerTables isActive [])
      { reviewerTables isActive [readGrant] with userPolicies := [] }
      ⟨1, "ann@example.com", .user⟩ (reviewerPolicy isActive) "projects:write"
      (some "root@example.com") where
  present := List.mem_singleton.mpr rfl
  emailsUnique := by simp [reviewerTables]
  stored := List.mem_singleton.mpr rfl
  policyIdsUnique := by simp [reviewerTables]
  held := by rfl
  contained := by simp [reviewerPolicy]
  applied := by rfl

/-- The active policy: everything but the revoked action is kept. -/
theorem revokeSingleAction_keeps_reviewer :
    KeepsEverythingElse (reviewerTables true [])
      { reviewerTables true [readGrant] with userPolicies := [] }
      ⟨1, "ann@example.com", .user⟩ (reviewerPolicy true) "projects:write" := by
  refine (revokeSingleAction_keeps_iff _ _ _ _ _ _ (reviewer_revocation true)).mpr ?_
  refine undisturbed_of_sameConditions _ _ _ _ rfl fun permission member => ?_
  exact absurd (List.mem_filter.mp member).1 (by simp [reviewerTables,
    Database.getActivePermissionsForUser])

/-- Taking one action away from a holder of an inactive policy gives him the other one. -/
theorem revokeSingleAction_activates :
    ¬ ∀ (before after : Database) (user : User) (policy : Policy) (action : String)
      (revokedBy : Option String), ActionRevocation before after user policy action revokedBy →
        KeepsEverythingElse before after user policy action := by
  intro claim
  have keeps := claim _ _ _ _ _ _ (reviewer_revocation false)
  have same := keeps.decisions utcRuntime "projects:read" "projects" none none (by decide)
  have denied : isAllowed (reviewerTables false []) utcRuntime "ann@example.com" "projects:read"
      "projects" none none = false := by rfl
  have allowed : isAllowed { reviewerTables false [readGrant] with userPolicies := [] }
      utcRuntime "ann@example.com" "projects:read" "projects" none none = true := by rfl
  simp [denied, allowed] at same

end MysticAuth
