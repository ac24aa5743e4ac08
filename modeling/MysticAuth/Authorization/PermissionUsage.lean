import Mathlib.Data.Finset.Card
import Mathlib.Data.Finset.Lattice.Lemmas
import Mathlib.Data.List.Dedup
import MysticAuth.Authorization.NoEscalation
import MysticAuth.Authorization.SuperuserLockout

/-!
# How many users hold a permission

The permission catalog is shown with the number of users who hold each action.
The counts are folded from the active policies, their assignments and the active
direct grants, keyed by the action alone.
-/

set_option autoImplicit false

namespace MysticAuth

open Python PolicyEvaluationEngine

/-! ## The catalog -/

/-- `_RESOURCE_TYPE_BY_ACTION`. -/
def Permission.resourceType : Permission → String
  | usersReadOwn | usersUpdateOwn | usersListAll | usersUpdateAny | usersDeactivateAny
  | usersAssignRole | usersReactivate | usersAssignSystemRole | usersManagePrivileged
  | usersManagePasskeys | usersDeleteAny => "users"
  | policiesRead | policiesCreate | policiesUpdate | policiesDelete | policiesAssign
  | policiesRevoke => "policies"
  | permissionsGrant | permissionsRevoke | permissionsRead => "permissions"
  | securityAuditRead => "security_audit"
  | rateLimitsRead | rateLimitsReset => "rate_limits"

structure PermissionCatalogEntry where
  action : String
  resourceType : String

def permissionCatalog : List PermissionCatalogEntry :=
  Permission.all.map fun member => ⟨member.value, member.resourceType⟩

/-! ## The repository -/

/-- `_ActionUsage`; the sets of user ids are kept by policy name. -/
structure ActionUsage where
  policyNames : List String
  policyUserIds : List (String × Finset Nat)
  directUserIds : Finset Nat

def ActionUsage.empty : ActionUsage :=
  ⟨[], [], ∅⟩

structure PermissionUsageEntryRead where
  action : String
  resourceType : String
  policies : List (String × Nat)
  policyUserCount : Nat
  directGrantCount : Nat
  totalUserCount : Nat

/-- `usage`; an action that was not seen yet stands for an empty record. -/
abbrev Usage := String → ActionUsage

def addPolicyAction (name : String) (userIds : Finset Nat) (usage : Usage) (action : String) :
    Usage :=
  Function.update usage action
    { usage action with
      policyNames := (usage action).policyNames ++ [name]
      policyUserIds := setEntry name userIds (usage action).policyUserIds }

def addDirectGrant (usage : Usage) (grant : UserPermission) : Usage :=
  Function.update usage grant.action
    { usage grant.action with
      directUserIds := insert grant.userId (usage grant.action).directUserIds }

/-- The user ids assigned to a policy, from the assignments of the active policies. -/
def assignedUserIds (database : Database) (policyId : Nat) : Finset Nat :=
  ((database.userPolicies.filter (·.policyId == policyId)).map UserPolicy.userId).toFinset

def collectUsage (database : Database) : Usage :=
  let policyRows := database.policies.filter (·.isActive)
  let fromPolicies := policyRows.foldl (fun usage policyRow =>
    policyRow.actions.foldl
      (addPolicyAction policyRow.name (assignedUserIds database policyRow.id)) usage)
    fun _ => .empty
  (database.userPermissions.filter (·.isActive)).foldl addDirectGrant fromPolicies

def allPolicyUserIds (usage : ActionUsage) : Finset Nat :=
  usage.policyUserIds.foldl (fun all entry => all ∪ entry.2) ∅

def usageEntry (usage : Usage) (entry : PermissionCatalogEntry) : PermissionUsageEntryRead :=
  let accum := usage entry.action
  { action := entry.action
    resourceType := entry.resourceType
    policies := accum.policyNames.dedup.mergeSort.map fun name =>
      (name, ((accum.policyUserIds.lookup name).getD ∅).card)
    policyUserCount := (allPolicyUserIds accum).card
    directGrantCount := accum.directUserIds.card
    totalUserCount := (allPolicyUserIds accum ∪ accum.directUserIds).card }

def getUsageByAction (database : Database) : List PermissionUsageEntryRead :=
  permissionCatalog.map (usageEntry (collectUsage database))

/-! ## What is collected -/

theorem mem_allPolicyUserIds (usage : ActionUsage) (userId : Nat) :
    userId ∈ allPolicyUserIds usage ↔ ∃ entry ∈ usage.policyUserIds, userId ∈ entry.2 := by
  have folded (entries : List (String × Finset Nat)) (all : Finset Nat) :
      userId ∈ entries.foldl (fun all entry => all ∪ entry.2) all ↔
        userId ∈ all ∨ ∃ entry ∈ entries, userId ∈ entry.2 := by
    induction entries generalizing all with
    | nil => simp
    | cons entry rest ih => simp [ih, or_assoc]
  simp [allPolicyUserIds, folded]

section Collected

variable (idsOf : Policy → Finset Nat)

/-- The records after some actions of some policies: under the name of each policy its user ids. -/
structure Collected (seen : List (String × Policy)) (usage : Usage) : Prop where
  sound : ∀ action, ∀ entry ∈ (usage action).policyUserIds,
    ∃ policy, (action, policy) ∈ seen ∧ entry = (policy.name, idsOf policy)
  complete : ∀ pair ∈ seen, (pair.2.name, idsOf pair.2) ∈ (usage pair.1).policyUserIds
  direct : ∀ action, (usage action).directUserIds = ∅

theorem mem_setEntry_self {β : Type} (key : String) (value : β) (entries : List (String × β)) :
    (key, value) ∈ setEntry key value entries := by
  induction entries with
  | nil => exact List.mem_cons_self
  | cons head rest ih =>
    simp only [setEntry]
    split
    · exact List.mem_cons_self
    · exact List.mem_cons_of_mem _ ih

theorem mem_setEntry_of_ne {β : Type} (key : String) (value : β) (entries : List (String × β))
    (entry : String × β) (member : entry ∈ entries) (differs : entry.1 ≠ key) :
    entry ∈ setEntry key value entries := by
  induction entries with
  | nil => simp at member
  | cons head rest ih =>
    simp only [setEntry]
    rcases List.mem_cons.mp member with rfl | tail
    · rw [if_neg differs]
      exact List.mem_cons_self
    · split
      · exact List.mem_cons_of_mem _ tail
      · exact List.mem_cons_of_mem _ (ih tail)

theorem Collected.add {seen : List (String × Policy)} {usage : Usage} (action : String)
    (policy : Policy) (collected : Collected idsOf seen usage)
    (named : ∀ pair ∈ seen, pair.2.name = policy.name → pair.2 = policy) :
    Collected idsOf (seen ++ [(action, policy)])
      (addPolicyAction policy.name (idsOf policy) usage action) where
  sound other entry member := by
    by_cases same : other = action
    · subst same
      simp only [addPolicyAction, Function.update_self] at member
      rcases mem_setEntry _ _ _ _ member with rfl | earlier
      · exact ⟨policy, by simp, rfl⟩
      · obtain ⟨found, listed, shape⟩ := collected.sound other entry earlier
        exact ⟨found, List.mem_append_left _ listed, shape⟩
    · rw [addPolicyAction, Function.update_of_ne same] at member
      obtain ⟨found, listed, shape⟩ := collected.sound other entry member
      exact ⟨found, List.mem_append_left _ listed, shape⟩
  complete pair member := by
    rcases List.mem_append.mp member with earlier | last
    · have kept := collected.complete pair earlier
      by_cases same : pair.1 = action
      · simp only [addPolicyAction, same, Function.update_self]
        by_cases sameName : pair.2.name = policy.name
        · rw [named pair earlier sameName]
          exact mem_setEntry_self _ _ _
        · exact mem_setEntry_of_ne _ _ _ _ (same ▸ kept) sameName
      · rw [addPolicyAction, Function.update_of_ne same]
        exact kept
    · rw [List.mem_singleton.mp last]
      simp only [addPolicyAction, Function.update_self]
      exact mem_setEntry_self _ _ _
  direct other := by
    by_cases same : other = action
    · subst same
      simp [addPolicyAction, collected.direct]
    · rw [addPolicyAction, Function.update_of_ne same]
      exact collected.direct other

theorem Collected.addAll {seen : List (String × Policy)} {usage : Usage}
    (pairs : List (String × Policy)) (collected : Collected idsOf seen usage)
    (named : ∀ pair ∈ seen ++ pairs, ∀ other ∈ seen ++ pairs,
      pair.2.name = other.2.name → pair.2 = other.2) :
    Collected idsOf (seen ++ pairs)
      (pairs.foldl (fun usage pair =>
        addPolicyAction pair.2.name (idsOf pair.2) usage pair.1) usage) := by
  induction pairs generalizing seen usage with
  | nil => simpa using collected
  | cons pair rest ih =>
    have step := collected.add idsOf pair.1 pair.2 fun earlier member =>
      named earlier (List.mem_append_left _ member) pair (by simp)
    rw [List.append_cons, List.foldl_cons]
    exact ih step (by simpa using named)

end Collected

theorem foldl_addDirectGrant (grants : List UserPermission) (usage : Usage) (action : String) :
    (grants.foldl addDirectGrant usage action).policyUserIds = (usage action).policyUserIds ∧
      ∀ userId, userId ∈ (grants.foldl addDirectGrant usage action).directUserIds ↔
        userId ∈ (usage action).directUserIds ∨
          ∃ grant ∈ grants, grant.action = action ∧ grant.userId = userId := by
  induction grants generalizing usage with
  | nil => simp
  | cons grant rest ih =>
    obtain ⟨policies, direct⟩ := ih (addDirectGrant usage grant)
    rw [List.foldl_cons, policies]
    simp only [direct, List.exists_mem_cons_iff, ← or_assoc]
    by_cases same : action = grant.action
    · subst same
      simp [addDirectGrant, eq_comm, or_comm]
    · simp [addDirectGrant, Function.update_of_ne same, Ne.symm same]

/-! ## Who is counted -/

def countedUserIds (database : Database) (action : String) : Finset Nat :=
  allPolicyUserIds (collectUsage database action) ∪ (collectUsage database action).directUserIds

/-- The users with an active grant that the evaluator matches with the pair. -/
def holders (database : Database) (action resourceType : String) : Finset Nat :=
  ((database.users.filter fun user => (database.holdings user.email).effectivePolicies.any
    (grantMatches · action resourceType)).map User.id).toFinset

section Counted

variable (database : Database) (keys : Transactions.TableKeys database)
include keys

theorem collected_collectUsage (action : String) :
    (∀ userId, userId ∈ allPolicyUserIds (collectUsage database action) ↔
      ∃ policy ∈ database.policies, policy.isActive = true ∧ action ∈ policy.actions ∧
        userId ∈ assignedUserIds database policy.id) ∧
    ∀ userId, userId ∈ (collectUsage database action).directUserIds ↔
      ∃ grant ∈ database.userPermissions, grant.isActive = true ∧ grant.action = action ∧
        grant.userId = userId := by
  let idsOf := fun policy : Policy => assignedUserIds database policy.id
  let rows := database.policies.filter (·.isActive)
  let pairs := rows.flatMap fun policy => policy.actions.map fun action => (action, policy)
  have member (action : String) (policy : Policy) : (action, policy) ∈ pairs ↔
      policy ∈ database.policies ∧ policy.isActive = true ∧ action ∈ policy.actions := by
    simp [pairs, rows, and_assoc]
  have named : ∀ pair ∈ [] ++ pairs, ∀ other ∈ [] ++ pairs,
      pair.2.name = other.2.name → pair.2 = other.2 := fun pair inPairs other inPairs' sameName =>
    List.inj_on_of_nodup_map keys.policyNames ((member _ _).mp inPairs).1 ((member _ _).mp inPairs').1
      sameName
  have initial : Collected idsOf [] fun _ => ActionUsage.empty :=
    { sound := by simp [ActionUsage.empty], complete := by simp, direct := fun _ => rfl }
  have collected := initial.addAll idsOf pairs named
  rw [List.nil_append, List.foldl_flatMap] at collected
  simp only [List.foldl_map] at collected
  obtain ⟨policies, direct⟩ := foldl_addDirectGrant
    (database.userPermissions.filter (·.isActive)) _ action
  refine ⟨fun userId => ?_, fun userId => ?_⟩
  · rw [mem_allPolicyUserIds, collectUsage, policies]
    constructor
    · rintro ⟨entry, listed, inEntry⟩
      obtain ⟨policy, inPairs, rfl⟩ := collected.sound action entry listed
      obtain ⟨isRow, active, lists⟩ := (member _ _).mp inPairs
      exact ⟨policy, isRow, active, lists, inEntry⟩
    · rintro ⟨policy, isRow, active, lists, assigned⟩
      exact ⟨_, collected.complete (action, policy) ((member _ _).mpr ⟨isRow, active, lists⟩),
        assigned⟩
  · rw [collectUsage, direct]
    have none : userId ∉ _ := (Finset.eq_empty_iff_forall_notMem.mp (collected.direct action)) userId
    simp only [List.mem_filter, and_assoc]
    exact or_iff_right none

theorem user_of_isUserWithEmail (user : User) (registered : user ∈ database.users) (userId : Nat) :
    database.isUserWithEmail userId user.email = true ↔ userId = user.id := by
  simp only [Database.isUserWithEmail, List.any_eq_true, Bool.and_eq_true, beq_iff_eq]
  constructor
  · rintro ⟨other, listed, sameId, sameEmail⟩
    rw [← sameId, List.inj_on_of_nodup_map keys.emails listed registered sameEmail]
  · rintro rfl
    exact ⟨user, registered, rfl, rfl⟩

/-- Counted is every user with an active grant that lists the action, on whatever resource type. -/
theorem mem_countedUserIds
    (permissionUsers : ∀ grant ∈ database.userPermissions,
      ∃ user ∈ database.users, user.id = grant.userId)
    (action : String) (userId : Nat) :
    userId ∈ countedUserIds database action ↔ ∃ user ∈ database.users, user.id = userId ∧
      ∃ grant ∈ (database.holdings user.email).effectivePolicies, action ∈ grant.actions := by
  obtain ⟨policies, direct⟩ := collected_collectUsage database keys action
  simp only [countedUserIds, Finset.mem_union, policies, direct, assignedUserIds, List.mem_toFinset,
    List.mem_map, List.mem_filter, beq_iff_eq]
  constructor
  · rintro (⟨policy, isRow, active, lists, link, ⟨linked, samePolicy⟩, rfl⟩ |
      ⟨grant, isRow, active, rfl, rfl⟩)
    · obtain ⟨user, registered, same⟩ := keys.linkUsers link linked
      have owner := (user_of_isUserWithEmail database keys user registered link.userId).mpr same.symm
      exact ⟨user, registered, same, policy.toGrant, (mem_effectivePolicies _ _ _).mpr
        (Or.inl ⟨policy, isRow, active, ⟨link, linked, samePolicy, owner⟩, rfl⟩), lists⟩
    · obtain ⟨user, registered, same⟩ := permissionUsers grant isRow
      have owner := (user_of_isUserWithEmail database keys user registered grant.userId).mpr same.symm
      exact ⟨user, registered, same, grant.toGrant, (mem_effectivePolicies _ _ _).mpr
        (Or.inr ⟨grant, isRow, active, owner, rfl⟩), List.mem_singleton.mpr rfl⟩
  · rintro ⟨user, registered, rfl, grant, held, lists⟩
    rcases (mem_effectivePolicies _ _ _).mp held with
      ⟨policy, isRow, active, ⟨link, linked, samePolicy, owner⟩, rfl⟩ |
      ⟨permission, isRow, active, owner, rfl⟩
    · rw [user_of_isUserWithEmail database keys user registered] at owner
      exact Or.inl ⟨policy, isRow, active, lists, link, ⟨linked, samePolicy⟩, owner⟩
    · rw [user_of_isUserWithEmail database keys user registered] at owner
      exact Or.inr ⟨permission, isRow, active, (List.mem_singleton.mp lists).symm, owner⟩

theorem mem_holders (action resourceType : String) (user : User)
    (registered : user ∈ database.users) :
    user.id ∈ holders database action resourceType ↔
      ∃ grant ∈ (database.holdings user.email).effectivePolicies,
        grantMatches grant action resourceType = true := by
  simp only [holders, List.mem_toFinset, List.mem_map, List.mem_filter, List.any_eq_true]
  constructor
  · rintro ⟨other, ⟨listed, matched⟩, same⟩
    rwa [List.inj_on_of_nodup_map keys.userIds listed registered same] at matched
  · exact fun matched => ⟨user, ⟨registered, matched⟩, rfl⟩

/-- The total of a catalog entry is the number of its holders exactly when every user with an active
grant of the action has one on the entry's resource type or on `*`. -/
theorem total_user_count_iff
    (permissionUsers : ∀ grant ∈ database.userPermissions,
      ∃ user ∈ database.users, user.id = grant.userId)
    (row : PermissionUsageEntryRead) (listed : row ∈ getUsageByAction database) :
    row.totalUserCount = (holders database row.action row.resourceType).card ↔
      ∀ user ∈ database.users,
        (∃ grant ∈ (database.holdings user.email).effectivePolicies, row.action ∈ grant.actions) →
          ∃ own ∈ (database.holdings user.email).effectivePolicies,
            grantMatches own row.action row.resourceType = true := by
  have counted := mem_countedUserIds database keys permissionUsers row.action
  obtain ⟨entry, _, rfl⟩ := List.mem_map.mp listed
  have included : holders database entry.action entry.resourceType ⊆
      countedUserIds database entry.action := by
    intro userId held
    obtain ⟨user, inUsers, rfl⟩ := List.mem_map.mp (List.mem_toFinset.mp held)
    have registered := (List.mem_filter.mp inUsers).1
    obtain ⟨grant, member, matched⟩ := (mem_holders database keys _ _ user registered).mp held
    simp only [grantMatches, Bool.and_eq_true, List.contains_iff_mem] at matched
    exact (counted user.id).mpr ⟨user, registered, rfl, grant, member, matched.2⟩
  constructor
  · intro same user registered granted
    have equal := Finset.eq_of_subset_of_card_le included same.le
    rw [← mem_holders database keys _ _ user registered]
    exact equal ▸ (counted user.id).mpr ⟨user, registered, rfl, granted⟩
  · intro every
    refine congrArg Finset.card (Finset.Subset.antisymm ?_ included)
    intro userId isCounted
    obtain ⟨user, registered, rfl, granted⟩ := (counted userId).mp isCounted
    exact (mem_holders database keys _ _ user registered).mpr (every user registered granted)

end Counted

/-! A user who may list the users through a policy and directly, and one whose only grant of the
action is on another resource type. -/

def usersLister : Database where
  users := [⟨1, "ann@example.com", .user⟩, ⟨2, "bob@example.com", .user⟩]
  policies := [⟨1, "listers", none, ["users:list_all"], "*", .null, true, none⟩]
  userPolicies := [⟨1, 1, none⟩]
  userPermissions := [⟨1, "users:list_all", "users", .null, true, none⟩]
  policyHistory := []
  nextPolicyId := 2
  nextHistoryId := 1

def reportsLister : Database :=
  { usersLister with
    policies := []
    userPolicies := []
    userPermissions := [⟨2, "users:list_all", "reports", .null, true, none⟩] }

def usersListAll : PermissionCatalogEntry := ⟨"users:list_all", "users"⟩

theorem total_user_count_lister :
    (usageEntry (collectUsage usersLister) usersListAll).totalUserCount =
      (holders usersLister "users:list_all" "users").card := by
  refine (total_user_count_iff usersLister ?_ ?_ _ ?_).mpr ?_
  · constructor <;> decide
  · decide
  · exact List.mem_map.mpr ⟨usersListAll, List.mem_map.mpr ⟨.usersListAll, by decide, rfl⟩, rfl⟩
  · decide

theorem resource_type_counted :
    usageEntry (collectUsage reportsLister) usersListAll ∈ getUsageByAction reportsLister ∧
      (usageEntry (collectUsage reportsLister) usersListAll).totalUserCount = 1 ∧
      (holders reportsLister "users:list_all" "users").card = 0 := by
  refine ⟨List.mem_map.mpr ⟨usersListAll, List.mem_map.mpr ⟨.usersListAll, by decide, rfl⟩, rfl⟩,
    ?_, ?_⟩ <;> decide

end MysticAuth
