import Mathlib.Data.List.Dedup
import MysticAuth.Authorization.DecisionExplanation
import MysticAuth.Authorization.NoEscalation
import MysticAuth.Python.Grouping

/-!
# The report of conditioned grants that restrict nothing

The script groups the effective grants of a user by action and resource type
and reports every group with both a conditioned and an unconditioned grant.
The evaluator also lets a grant on `*` answer for each resource type.
-/

set_option autoImplicit false

namespace MysticAuth

open Python PolicyEvaluationEngine

/-! ## The script -/

structure Finding where
  userEmail : String
  action : String
  resourceType : String
  sources : List String

/-- `_users_with_any_grant`: an assignment counts whatever the activity of its policy. -/
def usersWithAnyGrant (database : Database) : List String :=
  let policyEmails := (database.users.filter fun user =>
    database.userPolicies.any fun link => link.userId == user.id).map User.email
  let permissionEmails := (database.users.filter fun user =>
    database.userPermissions.any fun grant =>
      grant.userId == user.id && grant.isActive).map User.email
  (policyEmails ++ permissionEmails).dedup.mergeSort

/-- `by_action` of one user. -/
def byAction (effective : List Grant) : List ((String × String) × List Grant) :=
  groupPairs (effective.flatMap fun grant =>
    grant.actions.map fun action => ((action, grant.resourceType), grant))

def findingOf (userEmail : String) (group : (String × String) × List Grant) : Option Finding :=
  let hasUnconditioned := group.2.any fun grant => !grant.conditions.truthy
  let hasConditioned := group.2.any fun grant => grant.conditions.truthy
  if hasUnconditioned && hasConditioned && group.2.length > 1 then
    some ⟨userEmail, group.1.1, group.1.2, group.2.map Grant.name⟩
  else none

/-- `_report`. -/
def report (database : Database) : List Finding :=
  (usersWithAnyGrant database).flatMap fun email =>
    (byAction (database.holdings email).effectivePolicies).filterMap (findingOf email)

/-! ## What is reported -/

def Reported (database : Database) (userEmail action resourceType : String) : Prop :=
  ∃ finding ∈ report database, finding.userEmail = userEmail ∧ finding.action = action ∧
    finding.resourceType = resourceType

theorem mem_usersWithAnyGrant (database : Database) (userEmail : String) (grant : Grant)
    (held : grant ∈ (database.holdings userEmail).effectivePolicies) :
    userEmail ∈ usersWithAnyGrant database := by
  simp only [usersWithAnyGrant, List.mem_mergeSort, List.mem_dedup, List.mem_append, List.mem_map,
    List.mem_filter, List.any_eq_true, Bool.and_eq_true, beq_iff_eq]
  rcases (mem_effectivePolicies _ _ _).mp held with
    ⟨_, _, _, ⟨link, linked, _, owner⟩, _⟩ | ⟨permission, member, active, owner, _⟩
  · obtain ⟨user, listed, same⟩ := List.any_eq_true.mp owner
    simp only [Bool.and_eq_true, beq_iff_eq] at same
    exact Or.inl ⟨user, ⟨listed, link, linked, same.1.symm⟩, same.2⟩
  · obtain ⟨user, listed, same⟩ := List.any_eq_true.mp owner
    simp only [Bool.and_eq_true, beq_iff_eq] at same
    exact Or.inr ⟨user, ⟨listed, permission, member, same.1.symm, active⟩, same.2⟩

theorem mem_group (effective : List Grant) (action resourceType : String) (grants : List Grant)
    (group : ((action, resourceType), grants) ∈ byAction effective) (grant : Grant) :
    grant ∈ grants ↔
      grant ∈ effective ∧ action ∈ grant.actions ∧ grant.resourceType = resourceType := by
  obtain ⟨rfl, _⟩ := (mem_groupPairs _ _ _).mp group
  simp only [mem_valuesOf, List.mem_flatMap, List.mem_map, Prod.mk.injEq]
  constructor
  · rintro ⟨_, member, _, lists, ⟨rfl, rfl⟩, rfl⟩
    exact ⟨member, lists, rfl⟩
  · rintro ⟨member, lists, rfl⟩
    exact ⟨grant, member, action, lists, ⟨rfl, rfl⟩, rfl⟩

theorem exists_group (effective : List Grant) (grant : Grant) (member : grant ∈ effective)
    (action : String) (lists : action ∈ grant.actions) :
    ∃ grants, ((action, grant.resourceType), grants) ∈ byAction effective := by
  refine ⟨_, (mem_groupPairs _ _ _).mpr ⟨rfl, ?_⟩⟩
  apply List.ne_nil_of_mem (a := grant)
  rw [mem_valuesOf]
  exact List.mem_flatMap.mpr ⟨grant, member, List.mem_map.mpr ⟨action, lists, rfl⟩⟩

/-- A group is a finding when both kinds of grants are in it; then it has two. -/
theorem findingOf_eq_some (userEmail : String) (key : String × String) (grants : List Grant)
    (finding : Finding) :
    findingOf userEmail (key, grants) = some finding ↔
      (∃ free ∈ grants, free.conditions.truthy = false) ∧
        (∃ conditioned ∈ grants, conditioned.conditions.truthy = true) ∧
        finding = ⟨userEmail, key.1, key.2, grants.map Grant.name⟩ := by
  have several (free conditioned : Grant) (freeMember : free ∈ grants)
      (isFree : free.conditions.truthy = false) (member : conditioned ∈ grants)
      (isConditioned : conditioned.conditions.truthy = true) : grants.length > 1 := by
    by_contra short
    obtain ⟨only, rfl⟩ : ∃ only, grants = [only] := by
      have := List.length_pos_of_mem member
      exact List.length_eq_one_iff.mp (by omega)
    rw [List.mem_singleton.mp freeMember] at isFree
    rw [List.mem_singleton.mp member, isFree] at isConditioned
    exact Bool.false_ne_true isConditioned
  simp only [findingOf, Option.ite_none_right_eq_some, Bool.and_eq_true, List.any_eq_true,
    Bool.not_eq_true', decide_eq_true_eq, Option.some.injEq, and_assoc]
  constructor
  · rintro ⟨free, conditioned, _, rfl⟩
    exact ⟨free, conditioned, rfl⟩
  · rintro ⟨⟨free, freeMember, isFree⟩, ⟨conditioned, member, isConditioned⟩, rfl⟩
    exact ⟨⟨free, freeMember, isFree⟩, ⟨conditioned, member, isConditioned⟩,
      several free conditioned freeMember isFree member isConditioned, rfl⟩

/-- Reported is a pair that a conditioned and an unconditioned grant both list literally. -/
theorem reported_iff (database : Database) (userEmail action resourceType : String) :
    Reported database userEmail action resourceType ↔
      (∃ conditioned ∈ (database.holdings userEmail).effectivePolicies,
        action ∈ conditioned.actions ∧ conditioned.resourceType = resourceType ∧
          conditioned.conditions.truthy = true) ∧
      ∃ free ∈ (database.holdings userEmail).effectivePolicies,
        action ∈ free.actions ∧ free.resourceType = resourceType ∧
          free.conditions.truthy = false := by
  constructor
  · rintro ⟨finding, listed, rfl, rfl, rfl⟩
    obtain ⟨email, _, found⟩ := List.mem_flatMap.mp listed
    obtain ⟨⟨⟨action, resourceType⟩, grants⟩, group, isFinding⟩ := List.mem_filterMap.mp found
    obtain ⟨⟨free, freeMember, isFree⟩, ⟨conditioned, member, isConditioned⟩, rfl⟩ :=
      (findingOf_eq_some _ _ _ _).mp isFinding
    rw [mem_group _ _ _ _ group] at freeMember member
    exact ⟨⟨conditioned, member.1, member.2.1, member.2.2, isConditioned⟩,
      ⟨free, freeMember.1, freeMember.2.1, freeMember.2.2, isFree⟩⟩
  · rintro ⟨⟨conditioned, held, lists, rfl, isConditioned⟩, free, freeHeld, freeLists, sameType,
      isFree⟩
    obtain ⟨grants, group⟩ := exists_group _ conditioned held action lists
    have inGroup := mem_group _ _ _ _ group
    have isFinding := (findingOf_eq_some userEmail (action, conditioned.resourceType) grants _).mpr
      ⟨⟨free, (inGroup free).mpr ⟨freeHeld, freeLists, sameType⟩, isFree⟩,
        ⟨conditioned, (inGroup conditioned).mpr ⟨held, lists, rfl⟩, isConditioned⟩, rfl⟩
    refine ⟨_, List.mem_flatMap.mpr ⟨userEmail, ?_, List.mem_filterMap.mpr ⟨_, group, isFinding⟩⟩,
      rfl, rfl, rfl⟩
    exact mem_usersWithAnyGrant database userEmail conditioned held

/-! ## When the report is exact -/

/-- The user holds a conditioned grant of the action on the resource type, and an unconditioned one
that the evaluator matches with every request for the action that matches the former. -/
def RestrictsNothing (database : Database) (userEmail action resourceType : String) : Prop :=
  ∃ conditioned ∈ (database.holdings userEmail).effectivePolicies,
    action ∈ conditioned.actions ∧ conditioned.resourceType = resourceType ∧
      conditioned.conditions.truthy = true ∧
    ∃ free ∈ (database.holdings userEmail).effectivePolicies, free.conditions.truthy = false ∧
      ∀ requested, grantMatches conditioned action requested = true →
        grantMatches free action requested = true

theorem matches_every_iff (conditioned free : Grant) (action : String)
    (lists : action ∈ conditioned.actions) :
    (∀ requested, grantMatches conditioned action requested = true →
        grantMatches free action requested = true) ↔
      action ∈ free.actions ∧
        (free.resourceType = conditioned.resourceType ∨ free.resourceType = "*") := by
  simp only [grantMatches, Bool.and_eq_true, Bool.or_eq_true, beq_iff_eq, List.contains_iff_mem]
  constructor
  · intro every
    obtain ⟨reaches, freeLists⟩ := every conditioned.resourceType ⟨Or.inl rfl, lists⟩
    exact ⟨freeLists, reaches⟩
  · rintro ⟨freeLists, reaches⟩ requested ⟨matched, _⟩
    refine ⟨?_, freeLists⟩
    rcases reaches with same | wildcard
    · rwa [same]
    · exact Or.inr wildcard

/-- Wherever an unconditioned grant on `*` makes a conditioned one of another type moot, the user
also holds an unconditioned grant of the action on that very type. -/
def WildcardsBacked (database : Database) : Prop :=
  ∀ userEmail, ∀ conditioned ∈ (database.holdings userEmail).effectivePolicies,
    conditioned.conditions.truthy = true → conditioned.resourceType ≠ "*" →
      ∀ action ∈ conditioned.actions,
        ∀ free ∈ (database.holdings userEmail).effectivePolicies,
          free.conditions.truthy = false → action ∈ free.actions → free.resourceType = "*" →
            ∃ own ∈ (database.holdings userEmail).effectivePolicies,
              action ∈ own.actions ∧ own.resourceType = conditioned.resourceType ∧
                own.conditions.truthy = false

/-- What is reported is moot, whatever the grants. -/
theorem restrictsNothing_of_reported (database : Database) (userEmail action resourceType : String)
    (reported : Reported database userEmail action resourceType) :
    RestrictsNothing database userEmail action resourceType := by
  obtain ⟨⟨conditioned, held, lists, sameType, isConditioned⟩, free, freeHeld, freeLists, freeType,
    isFree⟩ := (reported_iff _ _ _ _).mp reported
  refine ⟨conditioned, held, lists, sameType, isConditioned, free, freeHeld, isFree, ?_⟩
  rw [matches_every_iff _ _ _ lists]
  exact ⟨freeLists, Or.inl (freeType.trans sameType.symm)⟩

/-- The report lists exactly the triples whose restriction has no effect when the wildcards are
backed, and only then. -/
theorem report_exact_iff (database : Database) :
    (∀ userEmail action resourceType,
      Reported database userEmail action resourceType ↔
        RestrictsNothing database userEmail action resourceType) ↔
      WildcardsBacked database := by
  constructor
  · intro precise userEmail conditioned held isConditioned _ action lists free freeHeld isFree
      freeLists wildcard
    have moot : RestrictsNothing database userEmail action conditioned.resourceType :=
      ⟨conditioned, held, lists, rfl, isConditioned, free, freeHeld, isFree,
        (matches_every_iff _ _ _ lists).mpr ⟨freeLists, Or.inr wildcard⟩⟩
    exact ((reported_iff _ _ _ _).mp ((precise userEmail action _).mpr moot)).2
  · intro backed userEmail action resourceType
    refine ⟨restrictsNothing_of_reported database userEmail action resourceType, ?_⟩
    rintro ⟨conditioned, held, lists, rfl, isConditioned, free, freeHeld, isFree, every⟩
    rw [reported_iff]
    refine ⟨⟨conditioned, held, lists, rfl, isConditioned⟩, ?_⟩
    obtain ⟨freeLists, same | wildcard⟩ := (matches_every_iff _ _ _ lists).mp every
    · exact ⟨free, freeHeld, freeLists, same, isFree⟩
    · by_cases everywhere : conditioned.resourceType = "*"
      · exact ⟨free, freeHeld, freeLists, wildcard.trans everywhere.symm, isFree⟩
      · exact backed userEmail conditioned held isConditioned everywhere action lists free freeHeld
          isFree freeLists wildcard

/-- A user whose reading of users is bound to a region on `users`, and free on `*`. -/
def regionallyBound : Database where
  users := [⟨1, "ann@example.com", .user⟩]
  policies := []
  userPolicies := []
  userPermissions :=
    [⟨1, "users:list_all", "users", regionOnly, true, none⟩,
      ⟨1, "users:list_all", "*", .null, true, none⟩]
  policyHistory := []
  nextPolicyId := 1
  nextHistoryId := 1

theorem wildcard_conflict_missed :
    RestrictsNothing regionallyBound "ann@example.com" "users:list_all" "users" ∧
      ¬ Reported regionallyBound "ann@example.com" "users:list_all" "users" := by
  constructor
  · refine ⟨_, List.mem_cons_self, by decide, rfl, rfl, _, List.mem_cons_of_mem _ List.mem_cons_self,
      rfl, ?_⟩
    rw [matches_every_iff _ _ _ (by decide)]
    exact ⟨by decide, Or.inr rfl⟩
  · rw [reported_iff]
    decide

end MysticAuth
