import MysticAuth.Authorization.Store

/-!
# The rows of one user

Queries and mutations of one user's assignments and direct grants neither see
nor touch the rows of another user.
-/

set_option autoImplicit false

namespace MysticAuth

open Python

/-- The tables agree apart from the rows of the user stored under `email`. -/
structure RowsAgree (email : String) (left right : Database) : Prop where
  users : left.users = right.users
  policies : left.policies = right.policies
  links : left.userPolicies.filter (fun link => !left.isUserWithEmail link.userId email) =
    right.userPolicies.filter (fun link => !left.isUserWithEmail link.userId email)
  permissions : left.userPermissions.filter (fun row => !left.isUserWithEmail row.userId email) =
    right.userPermissions.filter (fun row => !left.isUserWithEmail row.userId email)

/-- A test that only rows outside the filtered-out ones pass does not see the filter. -/
theorem any_eq_of_filter_eq {α : Type} (left right : List α) (keep test : α → Bool)
    (outside : ∀ row, test row = true → keep row = true)
    (same : left.filter keep = right.filter keep) : left.any test = right.any test := by
  have restrict (rows : List α) : (rows.filter keep).any test = rows.any test := by
    rw [List.any_filter]
    congr 1
    funext row
    cases passed : test row with
    | false => simp
    | true => simp [outside row passed]
  rw [← restrict left, ← restrict right, same]

section Rows

variable {email : String} {left right : Database}

theorem RowsAgree.isUserWithEmail (agree : RowsAgree email left right) (userId : Nat)
    (other : String) : left.isUserWithEmail userId other = right.isUserWithEmail userId other := by
  simp only [Database.isUserWithEmail, agree.users]

theorem RowsAgree.symm (agree : RowsAgree email left right) : RowsAgree email right left where
  users := agree.users.symm
  policies := agree.policies.symm
  links := by
    simp only [← agree.isUserWithEmail]
    exact agree.links.symm
  permissions := by
    simp only [← agree.isUserWithEmail]
    exact agree.permissions.symm

theorem RowsAgree.trans {third : Database} (agree : RowsAgree email left right)
    (agree' : RowsAgree email right third) : RowsAgree email left third where
  users := agree.users.trans agree'.users
  policies := agree.policies.trans agree'.policies
  links := by
    have rest := agree'.links
    simp only [← agree.isUserWithEmail] at rest
    exact agree.links.trans rest
  permissions := by
    have rest := agree'.permissions
    simp only [← agree.isUserWithEmail] at rest
    exact agree.permissions.trans rest

theorem userHoldsPolicy_congr (agree : RowsAgree email left right) (userId policyId : Nat)
    (foreign : left.isUserWithEmail userId email = false) :
    left.userHoldsPolicy userId policyId = right.userHoldsPolicy userId policyId := by
  refine any_eq_of_filter_eq _ _ _ _ (fun link passed => ?_) agree.links
  simp only [Bool.and_eq_true, beq_iff_eq] at passed
  simp [passed.1, foreign]

theorem holdsGrant_congr (agree : RowsAgree email left right) (userId : Nat)
    (action resourceType : String) (foreign : left.isUserWithEmail userId email = false) :
    left.holdsGrant userId action resourceType = right.holdsGrant userId action resourceType := by
  refine any_eq_of_filter_eq _ _ _ _ (fun row passed => ?_) agree.permissions
  simp only [Database.isGrantKey, Bool.and_eq_true, beq_iff_eq] at passed
  simp [passed.1.1, foreign]

theorem assignPolicy_congr (agree : RowsAgree email left right) (userId policyId : Nat)
    (assignedBy : Option String) (foreign : left.isUserWithEmail userId email = false) :
    RowsAgree email (left.assignPolicyToUser userId policyId assignedBy)
      (right.assignPolicyToUser userId policyId assignedBy) := by
  simp only [Database.assignPolicyToUser, userHoldsPolicy_congr agree userId policyId foreign]
  split
  · exact agree
  · refine ⟨agree.users, agree.policies, ?_, agree.permissions⟩
    have links := agree.links
    simp only [Database.isUserWithEmail] at links ⊢
    simp only [List.filter_append, links]

theorem removeAssignment_congr (agree : RowsAgree email left right) (userId policyId : Nat) :
    RowsAgree email (left.removeAssignment userId policyId)
      (right.removeAssignment userId policyId) := by
  refine ⟨agree.users, agree.policies, ?_, agree.permissions⟩
  have links := agree.links
  simp only [Database.isUserWithEmail, Database.removeAssignment] at links ⊢
  simp only [List.filter_filter, Bool.and_comm] at links ⊢
  rw [← List.filter_filter, ← List.filter_filter, links]

theorem removePermission_congr (agree : RowsAgree email left right) (userId : Nat)
    (action resourceType : String) :
    RowsAgree email (left.removePermission userId action resourceType)
      (right.removePermission userId action resourceType) := by
  refine ⟨agree.users, agree.policies, agree.links, ?_⟩
  have permissions := agree.permissions
  simp only [Database.isUserWithEmail, Database.removePermission] at permissions ⊢
  simp only [List.filter_filter, Bool.and_comm] at permissions ⊢
  rw [← List.filter_filter, ← List.filter_filter, permissions]

/-- Rewriting rows without changing their owner commutes with the filter. -/
theorem filter_map_owner (rows : List UserPermission) (keep : Nat → Bool)
    (rewrite : UserPermission → UserPermission) (owner : ∀ row, (rewrite row).userId = row.userId) :
    (rows.map rewrite).filter (fun row => keep row.userId) =
      (rows.filter fun row => keep row.userId).map rewrite := by
  rw [List.filter_map]
  simp only [Function.comp_def, owner]

theorem assignPermission_congr (agree : RowsAgree email left right) (userId : Nat)
    (action resourceType : String) (conditions : Json) (assignedBy : Option String)
    (foreign : left.isUserWithEmail userId email = false) :
    RowsAgree email (left.assignPermissionToUser userId action resourceType conditions assignedBy)
      (right.assignPermissionToUser userId action resourceType conditions assignedBy) := by
  simp only [Database.assignPermissionToUser,
    holdsGrant_congr agree userId action resourceType foreign]
  have permissions := agree.permissions
  split
  · refine ⟨agree.users, agree.policies, agree.links, ?_⟩
    simp only [Database.isUserWithEmail] at permissions ⊢
    rw [filter_map_owner left.userPermissions
        (fun userId => !left.users.any fun user => user.id == userId && user.email == email) _
        (fun row => by split <;> rfl),
      filter_map_owner right.userPermissions
        (fun userId => !left.users.any fun user => user.id == userId && user.email == email) _
        (fun row => by split <;> rfl), permissions]
  · refine ⟨agree.users, agree.policies, agree.links, ?_⟩
    simp only [Database.isUserWithEmail] at permissions ⊢
    simp only [List.filter_append, permissions]

/-! ## A mutation of the user's own rows stays within them -/

section Own

variable (database : Database) (email : String) (userId : Nat)
variable (own : database.isUserWithEmail userId email = true)

include own

theorem foreign_ne_own (other : Nat) (kept : (!database.isUserWithEmail other email) = true) :
    (other == userId) = false := by
  cases same : other == userId with
  | false => rfl
  | true =>
    rw [beq_iff_eq.mp same, own] at kept
    simp at kept

theorem assignPolicy_own (policyId : Nat) (assignedBy : Option String) :
    RowsAgree email (database.assignPolicyToUser userId policyId assignedBy) database := by
  simp only [Database.assignPolicyToUser]
  split
  · exact ⟨rfl, rfl, rfl, rfl⟩
  · refine ⟨rfl, rfl, ?_, rfl⟩
    simp only [Database.isUserWithEmail] at own ⊢
    simp [own]

theorem removeAssignment_own (policyId : Nat) :
    RowsAgree email (database.removeAssignment userId policyId) database := by
  refine ⟨rfl, rfl, ?_, rfl⟩
  simp only [Database.removeAssignment, List.filter_filter]
  refine List.filter_congr fun link _ => ?_
  change (!database.isUserWithEmail link.userId email && _) =
    !database.isUserWithEmail link.userId email
  cases kept : !database.isUserWithEmail link.userId email with
  | false => rfl
  | true => simp [foreign_ne_own database email userId own link.userId kept]

theorem removePermission_own (action resourceType : String) :
    RowsAgree email (database.removePermission userId action resourceType) database := by
  refine ⟨rfl, rfl, rfl, ?_⟩
  simp only [Database.removePermission, List.filter_filter]
  refine List.filter_congr fun row _ => ?_
  change (!database.isUserWithEmail row.userId email && _) =
    !database.isUserWithEmail row.userId email
  cases kept : !database.isUserWithEmail row.userId email with
  | false => rfl
  | true =>
    simp [Database.isGrantKey, foreign_ne_own database email userId own row.userId kept]

theorem assignPermission_own (action resourceType : String) (conditions : Json)
    (assignedBy : Option String) :
    RowsAgree email
      (database.assignPermissionToUser userId action resourceType conditions assignedBy)
      database := by
  simp only [Database.assignPermissionToUser]
  split
  · refine ⟨rfl, rfl, rfl, ?_⟩
    change List.filter (fun row : UserPermission => !database.isUserWithEmail row.userId email) _ =
      _
    rw [filter_map_owner database.userPermissions
      (fun userId => !database.isUserWithEmail userId email) _ (fun row => by split <;> rfl)]
    refine (List.map_congr_left fun row member => ?_).trans (List.map_id _)
    have kept := (List.mem_filter.mp member).2
    simp [Database.isGrantKey, foreign_ne_own database email userId own row.userId kept]
  · refine ⟨rfl, rfl, rfl, ?_⟩
    change List.filter (fun row : UserPermission => !database.isUserWithEmail row.userId email) _ =
      List.filter (fun row => !database.isUserWithEmail row.userId email) _
    simp [own]

end Own

end Rows

/-! ## Reads of another account -/

theorem own_of_getByEmail (database : Database) (email : String) (user : User)
    (found : database.getByEmail email = some user) :
    database.isUserWithEmail user.id email = true := by
  have member := List.mem_of_find?_eq_some found
  have isEmail := List.find?_some found
  exact List.any_eq_true.mpr ⟨user, member, by simpa using isEmail⟩

theorem foreign_of_getByEmail (database : Database)
    (unique : (database.users.map User.id).Nodup) (email other : String) (differs : email ≠ other)
    (user : User) (found : database.getByEmail email = some user) :
    database.isUserWithEmail user.id other = false := by
  have member := List.mem_of_find?_eq_some found
  have isEmail : user.email = email := by simpa using List.find?_some found
  rw [Database.isUserWithEmail, List.any_eq_false]
  intro row rowMember owns
  simp only [Bool.and_eq_true, beq_iff_eq] at owns
  have same := List.inj_on_of_nodup_map unique rowMember member owns.1
  exact differs (isEmail.symm.trans (same ▸ owns.2))

theorem foreign_of_differs (database : Database) (unique : (database.users.map User.id).Nodup)
    (email other : String) (differs : email ≠ other) (userId : Nat)
    (own : database.isUserWithEmail userId email = true) :
    database.isUserWithEmail userId other = false := by
  rcases List.any_eq_true.mp own with ⟨user, member, isUser⟩
  rw [Database.isUserWithEmail, List.any_eq_false]
  intro row rowMember isOther
  simp only [Bool.and_eq_true, beq_iff_eq] at isUser isOther
  have same := List.inj_on_of_nodup_map unique member rowMember (isUser.1.trans isOther.1.symm)
  exact differs (isUser.2.symm.trans (same ▸ isOther.2))

theorem activePolicies_congr {left right : Database} {other : String}
    (agree : RowsAgree other left right) (unique : (left.users.map User.id).Nodup) (email : String)
    (differs : email ≠ other) :
    left.getActivePoliciesForUser email = right.getActivePoliciesForUser email := by
  unfold Database.getActivePoliciesForUser
  rw [agree.policies]
  refine List.filter_congr fun policy _ => ?_
  congr 1
  simp only [← agree.isUserWithEmail]
  refine any_eq_of_filter_eq _ _ _ _ (fun link passed => ?_) agree.links
  simp only [Bool.and_eq_true] at passed
  simp [foreign_of_differs left unique email other differs link.userId passed.2]

theorem activePermissions_congr {left right : Database} {other : String}
    (agree : RowsAgree other left right) (unique : (left.users.map User.id).Nodup) (email : String)
    (differs : email ≠ other) :
    left.getActivePermissionsForUser email = right.getActivePermissionsForUser email := by
  have restrict (database : Database) (same : database.users = left.users) :
      database.getActivePermissionsForUser email =
        (database.userPermissions.filter fun row =>
          !left.isUserWithEmail row.userId other).filter fun row =>
            row.isActive && left.isUserWithEmail row.userId email := by
    simp only [Database.getActivePermissionsForUser, List.filter_filter]
    refine List.filter_congr fun row _ => ?_
    have owner : database.isUserWithEmail row.userId email =
        left.isUserWithEmail row.userId email := by
      simp only [Database.isUserWithEmail, same]
    rw [owner]
    cases own : left.isUserWithEmail row.userId email with
    | false => simp
    | true => simp [foreign_of_differs left unique email other differs row.userId own]
  rw [restrict left rfl, restrict right agree.users.symm, agree.permissions]

/-! ## The mutations of the routes -/

/-- A row mutation that looks only at the rows of its own user. -/
def RowMutation (mutate : Database → Nat → Option Database) : Prop :=
  (∀ email left right userId, RowsAgree email left right →
      left.isUserWithEmail userId email = false →
        (mutate left userId = none ∧ mutate right userId = none) ∨
          ∃ left' right', mutate left userId = some left' ∧ mutate right userId = some right' ∧
            RowsAgree email left' right') ∧
    ∀ email database userId after, database.isUserWithEmail userId email = true →
      mutate database userId = some after → RowsAgree email after database

theorem assignPolicy_rowMutation (policyId : Nat) (assignedBy : Option String) :
    RowMutation fun database userId =>
      if database.userHoldsPolicy userId policyId then none
      else some (database.assignPolicyToUser userId policyId assignedBy) := by
  constructor
  · intro email left right userId agree foreign
    simp only [userHoldsPolicy_congr agree userId policyId foreign]
    split
    · exact Or.inl ⟨rfl, rfl⟩
    · exact Or.inr ⟨_, _, rfl, rfl, assignPolicy_congr agree userId policyId assignedBy foreign⟩
  · intro email database userId after own mutated
    simp only at mutated
    split at mutated
    · simp at mutated
    · obtain rfl := Option.some.inj mutated
      exact assignPolicy_own database email userId own policyId assignedBy

theorem removePolicy_rowMutation (policyId : Nat) :
    RowMutation fun database userId =>
      if database.userHoldsPolicy userId policyId then
        some (database.removeAssignment userId policyId)
      else none := by
  constructor
  · intro email left right userId agree foreign
    simp only [userHoldsPolicy_congr agree userId policyId foreign]
    split
    · exact Or.inr ⟨_, _, rfl, rfl, removeAssignment_congr agree userId policyId⟩
    · exact Or.inl ⟨rfl, rfl⟩
  · intro email database userId after own mutated
    simp only at mutated
    split at mutated
    · obtain rfl := Option.some.inj mutated
      exact removeAssignment_own database email userId own policyId
    · simp at mutated

theorem grantPermission_rowMutation (action resourceType : String) (conditions : Json)
    (assignedBy : Option String) :
    RowMutation fun database userId =>
      some (database.assignPermissionToUser userId action resourceType conditions assignedBy) := by
  constructor
  · intro email left right userId agree foreign
    exact Or.inr ⟨_, _, rfl, rfl, assignPermission_congr agree userId action resourceType
      conditions assignedBy foreign⟩
  · intro email database userId after own mutated
    obtain rfl := Option.some.inj mutated
    exact assignPermission_own database email userId own action resourceType conditions assignedBy

theorem removePermission_rowMutation (action resourceType : String) :
    RowMutation fun database userId =>
      if database.holdsGrant userId action resourceType then
        some (database.removePermission userId action resourceType)
      else none := by
  constructor
  · intro email left right userId agree foreign
    simp only [holdsGrant_congr agree userId action resourceType foreign]
    split
    · exact Or.inr ⟨_, _, rfl, rfl, removePermission_congr agree userId action resourceType⟩
    · exact Or.inl ⟨rfl, rfl⟩
  · intro email database userId after own mutated
    simp only at mutated
    split at mutated
    · obtain rfl := Option.some.inj mutated
      exact removePermission_own database email userId own action resourceType
    · simp at mutated

end MysticAuth
