import MysticAuth.Authorization.Routes

/-!
# Changing the role of an account

`update_user_role` changes one account's role, `bulk_update_role` the roles of
a batch.  Both ask for `users:assign_role`, spare system accounts and the
caller, and ask for `users:assign_system_role` before they hand out the system
role.  Only the single route asks for `users:manage_privileged` before it
touches an admin, and only the single route reads an address that is not in
its stored form.
-/

set_option autoImplicit false

namespace MysticAuth.RoleChange

open Python PolicyEvaluationEngine

/-- What the two routes read of a row of `users`; the role is nullable. -/
structure Account where
  id : Nat
  email : String
  role : Option UserRole

/-- The accounts, and the grants each caller is evaluated on. -/
structure Directory where
  accounts : List Account
  holdings : String → Holdings

def roleOfValue : String → Option UserRole
  | "user" => some .user
  | "admin" => some .admin
  | "system" => some .system
  | _ => none

structure BulkRoleItem where
  userEmail : String
  role : String

structure BulkItemResult where
  userEmail : String
  identifier : String
  error : Option String

def systemUserRoleCannotBeChanged : AppError :=
  ⟨403, "SYSTEM_USER_ROLE_CANNOT_BE_CHANGED", ["System user role cannot be changed"], []⟩

def cannotChangeOwnRole : AppError :=
  ⟨403, "CANNOT_CHANGE_OWN_ROLE", ["You cannot change your own role"], []⟩

namespace Directory

variable (directory : Directory)

def findEmail (email : String) : Option Account :=
  directory.accounts.find? (·.email == email)

/-- `db_obj.role = role`, written by primary key. -/
def setRole (account : Account) (role : UserRole) : Directory :=
  { directory with
    accounts := directory.accounts.map fun other =>
      if other.id = account.id then { other with role := some role } else other }

def roleOf (email : String) : Option UserRole :=
  (directory.findEmail email).bind Account.role

end Directory

section Routes

variable (server : Server) (directory : Directory) (request : Request)

/-- `user_crud.get_by_email`. -/
def getByEmail (email : String) : Option Account :=
  directory.findEmail (server.normalizeEmail email)

/-- `user_crud.get_by_emails`: one query over the normalized addresses, keyed by the stored one. -/
def getByEmails (emails : List String) (email : String) : Option Account :=
  (directory.accounts.filter fun account =>
    decide (account.email ∈ emails.map server.normalizeEmail)).find? (·.email == email)

/-- `authorization_service.authorize` for the caller on `users`. -/
def authorized (currentTime : String) (permission : Permission) : Bool :=
  evaluate server.runtime (directory.holdings request.caller).effectivePolicies permission.value
    "users" request.caller none (some (buildAuthorizationContext request.ipAddress currentTime))

def require (currentTime : String) (permission : Permission) : Except Failure Unit :=
  if authorized server directory request currentTime permission then .ok ()
  else raiseApp insufficientPermissions

/-- `guard_privileged_target`. -/
def guardPrivilegedTarget (targetRole : Option UserRole) : Except Failure Unit :=
  if targetRole = some .admin then
    require server directory request request.guardTime .usersManagePrivileged
  else .ok ()

/-- Handing out the system role takes a permission of its own. -/
def guardSystemRole (role : UserRole) : Except Failure Unit :=
  if role = .system then
    require server directory request request.guardTime .usersAssignSystemRole
  else .ok ()

def updateUserRole (userEmail : String) (role : UserRole) : Except Failure Directory := do
  require server directory request request.dependencyTime .usersAssignRole
  let userEmail := server.normalizeEmail userEmail
  let user ← getOr404 (getByEmail server directory userEmail) userNotFound
  refuseIf (user.role == some .system) systemUserRoleCannotBeChanged
  refuseIf (userEmail == request.caller) cannotChangeOwnRole
  guardPrivilegedTarget server directory request user.role
  guardSystemRole server directory request role
  .ok (directory.setRole user role)

/-- The checks of the bulk route's loop, or the code the item is refused with. -/
def resolveRoleItem (usersByEmail : String → Option Account) (item : BulkRoleItem) :
    Except String (Account × UserRole) :=
  match usersByEmail item.userEmail with
  | none => .error "USER_NOT_FOUND"
  | some user =>
      match roleOfValue item.role with
      | none => .error "INVALID_ROLE"
      | some role =>
          if user.role = some .system then .error "SYSTEM_USER_ROLE_CANNOT_BE_CHANGED"
          else if item.userEmail = request.caller then .error "CANNOT_CHANGE_OWN_ROLE"
          else if role = .system &&
              !authorized server directory request request.guardTime .usersAssignSystemRole then
            .error "CANNOT_GRANT_UNHELD_ACTION"
          else .ok (user, role)

def itemError (usersByEmail : String → Option Account) (item : BulkRoleItem) :
    Option BulkItemResult :=
  match resolveRoleItem server directory request usersByEmail item with
  | .error code => some ⟨item.userEmail, item.role, some code⟩
  | .ok _ => none

def validItem (usersByEmail : String → Option Account) (item : BulkRoleItem) :
    Option (Account × UserRole) :=
  (resolveRoleItem server directory request usersByEmail item).toOption

def roleValue : UserRole → String
  | .user => "user"
  | .admin => "admin"
  | .system => "system"

/-- `user_crud.bulk_update_role`. -/
def writeRoles (validItems : List (Account × UserRole)) : Directory × List BulkItemResult :=
  (validItems.foldl (fun current item => current.setRole item.1 item.2) directory,
    validItems.map fun item => ⟨item.1.email, roleValue item.2, none⟩)

def bulkUpdateRole (items : List BulkRoleItem) :
    Except Failure (Directory × List BulkItemResult) := do
  require server directory request request.dependencyTime .usersAssignRole
  let usersByEmail := getByEmails server directory (items.map BulkRoleItem.userEmail)
  let validItems := items.filterMap (validItem server directory request usersByEmail)
  let errorResults := items.filterMap (itemError server directory request usersByEmail)
  let (after, repoResults) := writeRoles directory validItems
  .ok (after, errorResults ++ repoResults)

/-! ## Acceptance -/

/-- The batch is processed, and this item is among the valid ones. -/
def BulkAccepts (items : List BulkRoleItem) (item : BulkRoleItem) : Prop :=
  authorized server directory request request.dependencyTime .usersAssignRole = true ∧
    ∃ target, resolveRoleItem server directory request
      (getByEmails server directory (items.map BulkRoleItem.userEmail)) item = .ok target

/-- The single route accepts the same address and a role text its schema can read. -/
def SingleAccepts (item : BulkRoleItem) : Prop :=
  ∃ role after, roleOfValue item.role = some role ∧
    updateUserRole server directory request item.userEmail role = .ok after

/-- The two routes accept alike, and what both accept leaves the account with one role, unless the
batch asks for another role of the account as well. -/
structure Agrees (items : List BulkRoleItem) (item : BulkRoleItem) : Prop where
  accepts : BulkAccepts server directory request items item ↔
    SingleAccepts server directory request item
  sameRole : ∀ role after after' results,
    BulkAccepts server directory request items item →
      (∀ other ∈ items, other.userEmail = item.userEmail → other.role = item.role) →
        roleOfValue item.role = some role →
          updateUserRole server directory request item.userEmail role = .ok after →
            bulkUpdateRole server directory request items = .ok (after', results) →
              after'.roleOf (server.normalizeEmail item.userEmail) =
                after.roleOf (server.normalizeEmail item.userEmail)

/-- What both routes ask, of the account the address belongs to. -/
def CommonChecks (item : BulkRoleItem) (target : Account) (role : UserRole) : Prop :=
  authorized server directory request request.dependencyTime .usersAssignRole = true ∧
    directory.findEmail (server.normalizeEmail item.userEmail) = some target ∧
      roleOfValue item.role = some role ∧ target.role ≠ some .system ∧
        server.normalizeEmail item.userEmail ≠ request.caller ∧
          (role = .system →
            authorized server directory request request.guardTime .usersAssignSystemRole = true)

/-- The target is no admin, or the caller may manage privileged accounts. -/
def MayManage (target : Account) : Prop :=
  target.role = some .admin →
    authorized server directory request request.guardTime .usersManagePrivileged = true

/-- For an item that passes the common checks, the address is in its stored form exactly when the
privileged-target guard lets the caller through. -/
def RoleGuarded (item : BulkRoleItem) : Prop :=
  ∀ target role, CommonChecks server directory request item target role →
    (server.normalizeEmail item.userEmail = item.userEmail ↔
      MayManage server directory request target)

/-! ## What each route accepts -/

theorem require_ok_iff (currentTime : String) (permission : Permission) :
    require server directory request currentTime permission = .ok () ↔
      authorized server directory request currentTime permission = true := by
  simp only [require]
  cases authorized server directory request currentTime permission <;> simp [raiseApp]

theorem refuseIf_ok_iff (refused : Bool) (error : AppError) :
    refuseIf refused error = .ok () ↔ refused = false := by
  cases refused <;> simp [refuseIf, raiseApp]

theorem getOr404_ok_iff {α : Type} (found : Option α) (notFound : AppError) (value : α) :
    getOr404 found notFound = .ok value ↔ found = some value := by
  cases found <;> simp [getOr404, raiseApp]

theorem guardPrivilegedTarget_ok_iff (target : Account) :
    guardPrivilegedTarget server directory request target.role = .ok () ↔
      MayManage server directory request target := by
  simp only [guardPrivilegedTarget, MayManage]
  split
  · rename_i admin
    simp [require_ok_iff, admin]
  · rename_i other
    simp [other]

theorem guardSystemRole_ok_iff (role : UserRole) :
    guardSystemRole server directory request role = .ok () ↔
      (role = .system →
        authorized server directory request request.guardTime .usersAssignSystemRole = true) := by
  simp only [guardSystemRole]
  split
  · rename_i promotes
    simp [require_ok_iff, promotes]
  · rename_i other
    simp [other]

theorem updateUserRole_ok_iff (stable : ∀ email, server.normalizeEmail
      (server.normalizeEmail email) = server.normalizeEmail email) (item : BulkRoleItem)
    (role : UserRole) (known : roleOfValue item.role = some role) (after : Directory) :
    updateUserRole server directory request item.userEmail role = .ok after ↔
      ∃ target, CommonChecks server directory request item target role ∧
        MayManage server directory request target ∧ after = directory.setRole target role := by
  constructor
  · intro accepted
    simp only [updateUserRole] at accepted
    obtain ⟨_, mayAssign, accepted⟩ := bind_eq_ok _ _ _ accepted
    obtain ⟨target, found, accepted⟩ := bind_eq_ok _ _ _ accepted
    obtain ⟨_, noSystem, accepted⟩ := bind_eq_ok _ _ _ accepted
    obtain ⟨_, notSelf, accepted⟩ := bind_eq_ok _ _ _ accepted
    obtain ⟨_, mayManage, accepted⟩ := bind_eq_ok _ _ _ accepted
    obtain ⟨_, mayPromote, written⟩ := bind_eq_ok _ _ _ accepted
    rw [getOr404_ok_iff, getByEmail, stable] at found
    refine ⟨target, ⟨(require_ok_iff _ _ _ _ _).mp mayAssign, found, known, ?_, ?_, ?_⟩,
      (guardPrivilegedTarget_ok_iff _ _ _ _).mp mayManage, ?_⟩
    · simpa using (refuseIf_ok_iff _ _).mp noSystem
    · simpa using (refuseIf_ok_iff _ _).mp notSelf
    · exact (guardSystemRole_ok_iff _ _ _ _).mp mayPromote
    · exact (Except.ok.inj written).symm
  · rintro ⟨target, ⟨mayAssign, found, _, noSystem, notSelf, mayPromote⟩, mayManage, rfl⟩
    have read : getOr404 (getByEmail server directory (server.normalizeEmail item.userEmail))
        userNotFound = .ok target := by
      rw [getOr404_ok_iff, getByEmail, stable]
      exact found
    have spared : refuseIf (target.role == some .system) systemUserRoleCannotBeChanged
        = .ok () := (refuseIf_ok_iff _ _).mpr (by simpa using noSystem)
    have other : refuseIf (server.normalizeEmail item.userEmail == request.caller)
        cannotChangeOwnRole = .ok () := (refuseIf_ok_iff _ _).mpr (by simpa using notSelf)
    simp only [updateUserRole, (require_ok_iff _ _ _ _ _).mpr mayAssign, read, spared, other,
      (guardPrivilegedTarget_ok_iff _ _ _ _).mpr mayManage,
      (guardSystemRole_ok_iff _ _ _ _).mpr mayPromote, bind, Except.bind]

/-- Among the accounts of the batch, one is found under an address in stored form only. -/
theorem getByEmails_eq (stable : ∀ email, server.normalizeEmail (server.normalizeEmail email) =
      server.normalizeEmail email) (emails : List String) (email : String)
    (listed : email ∈ emails) :
    getByEmails server directory emails email =
      if server.normalizeEmail email = email then directory.findEmail email else none := by
  simp only [getByEmails, List.find?_filter, Directory.findEmail]
  split
  · rename_i normal
    congr 1
    funext account
    rw [Bool.eq_iff_iff]
    simp only [decide_eq_true_eq, beq_iff_eq, and_iff_right_iff_imp]
    rintro rfl
    exact List.mem_map.mpr ⟨_, listed, normal⟩
  · rename_i raw
    apply List.find?_eq_none.mpr
    rintro account _ found
    simp only [decide_eq_true_eq, beq_iff_eq] at found
    obtain ⟨stored, rfl⟩ := found
    obtain ⟨other, _, same⟩ := List.mem_map.mp stored
    exact raw (by rw [← same, stable])

theorem resolveRoleItem_ok_iff (usersByEmail : String → Option Account) (item : BulkRoleItem)
    (target : Account) (role : UserRole) :
    resolveRoleItem server directory request usersByEmail item = .ok (target, role) ↔
      usersByEmail item.userEmail = some target ∧ roleOfValue item.role = some role ∧
        target.role ≠ some .system ∧ item.userEmail ≠ request.caller ∧
          (role = .system →
            authorized server directory request request.guardTime .usersAssignSystemRole
              = true) := by
  simp only [resolveRoleItem]
  cases usersByEmail item.userEmail with
  | none => simp
  | some found =>
    cases roleOfValue item.role with
    | none => simp
    | some wanted =>
      simp only
      split
      · rename_i system
        simp only [reduceCtorEq, Option.some.injEq, false_iff, not_and]
        rintro rfl rfl spared
        exact absurd system spared
      · rename_i spared
        split
        · rename_i self
          simp [self]
        · rename_i other
          split
          · rename_i refused
            simp only [Bool.and_eq_true, decide_eq_true_eq, Bool.not_eq_true'] at refused
            simp only [reduceCtorEq, Option.some.injEq, false_iff, not_and]
            rintro rfl rfl _ _ promoted
            simp [promoted refused.1] at refused
          · rename_i promoted
            simp only [Except.ok.injEq, Prod.mk.injEq, Option.some.injEq, ne_eq]
            constructor
            · rintro ⟨rfl, rfl⟩
              refine ⟨rfl, rfl, spared, other, fun promotes => ?_⟩
              simpa [promotes] using promoted
            · rintro ⟨rfl, rfl, _⟩
              exact ⟨rfl, rfl⟩

theorem commonChecks_unique (item : BulkRoleItem) (target target' : Account)
    (role role' : UserRole) (common : CommonChecks server directory request item target role)
    (common' : CommonChecks server directory request item target' role') : target = target' := by
  have same := common.2.1.symm.trans common'.2.1
  exact Option.some.inj same

section Items

variable (stable : ∀ email, server.normalizeEmail (server.normalizeEmail email) =
  server.normalizeEmail email)

include stable

theorem singleAccepts_iff (item : BulkRoleItem) :
    SingleAccepts server directory request item ↔
      ∃ target role, CommonChecks server directory request item target role ∧
        MayManage server directory request target := by
  constructor
  · rintro ⟨role, after, known, accepted⟩
    obtain ⟨target, common, mayManage, _⟩ :=
      (updateUserRole_ok_iff server directory request stable item role known after).mp accepted
    exact ⟨target, role, common, mayManage⟩
  · rintro ⟨target, role, common, mayManage⟩
    have known := common.2.2.1
    exact ⟨role, _, known, (updateUserRole_ok_iff server directory request stable item role known
      _).mpr ⟨target, common, mayManage, rfl⟩⟩

theorem resolved_iff (items : List BulkRoleItem) (item : BulkRoleItem) (listed : item ∈ items)
    (mayAssign : authorized server directory request request.dependencyTime .usersAssignRole
      = true) (target : Account) (role : UserRole) :
    resolveRoleItem server directory request
        (getByEmails server directory (items.map BulkRoleItem.userEmail)) item =
        .ok (target, role) ↔
      server.normalizeEmail item.userEmail = item.userEmail ∧
        CommonChecks server directory request item target role := by
  rw [resolveRoleItem_ok_iff, getByEmails_eq server directory stable _ _
    (List.mem_map.mpr ⟨item, listed, rfl⟩)]
  constructor
  · rintro ⟨found, known, spared, other, mayPromote⟩
    split at found
    · rename_i normal
      exact ⟨normal, mayAssign, by rw [normal, found], known, spared, by rw [normal]; exact other,
        mayPromote⟩
    · simp at found
  · rintro ⟨normal, _, found, known, spared, other, mayPromote⟩
    rw [normal] at found other
    exact ⟨by rw [if_pos normal, found], known, spared, other, mayPromote⟩

theorem bulkAccepts_iff (items : List BulkRoleItem) (item : BulkRoleItem)
    (listed : item ∈ items) :
    BulkAccepts server directory request items item ↔
      server.normalizeEmail item.userEmail = item.userEmail ∧
        ∃ target role, CommonChecks server directory request item target role := by
  constructor
  · rintro ⟨mayAssign, ⟨target, role⟩, resolved⟩
    obtain ⟨normal, common⟩ := (resolved_iff server directory request stable items item listed
      mayAssign target role).mp resolved
    exact ⟨normal, target, role, common⟩
  · rintro ⟨normal, target, role, common⟩
    exact ⟨common.1, (target, role), (resolved_iff server directory request stable items item
      listed common.1 target role).mpr ⟨normal, common⟩⟩

/-- The routes accept alike exactly when the item is guarded. -/
theorem accepts_alike_iff (items : List BulkRoleItem) (item : BulkRoleItem)
    (listed : item ∈ items) :
    (BulkAccepts server directory request items item ↔
        SingleAccepts server directory request item) ↔
      RoleGuarded server directory request item := by
  rw [bulkAccepts_iff server directory request stable items item listed,
    singleAccepts_iff server directory request stable item]
  constructor
  · intro alike target role common
    constructor
    · intro normal
      obtain ⟨target', role', common', mayManage⟩ := alike.mp ⟨normal, target, role, common⟩
      rw [commonChecks_unique server directory request item _ _ _ _ common common']
      exact mayManage
    · intro mayManage
      exact (alike.mpr ⟨target, role, common, mayManage⟩).1
  · intro guarded
    constructor
    · rintro ⟨normal, target, role, common⟩
      exact ⟨target, role, common, (guarded target role common).mp normal⟩
    · rintro ⟨target, role, common, mayManage⟩
      exact ⟨(guarded target role common).mpr mayManage, target, role, common⟩

end Items

/-! ## What the accepted change leaves -/

theorem findEmail_setRole (account : Account) (role : UserRole) (email : String) :
    (directory.setRole account role).findEmail email =
      (directory.findEmail email).map fun other =>
        if other.id = account.id then { other with role := some role } else other := by
  simp only [Directory.findEmail, Directory.setRole, List.find?_map]
  congr 2
  funext other
  simp only [Function.comp]
  split <;> rfl

/-- Writing a batch keeps every account under its address, and an account that is only ever given
one role, at least once, has that role. -/
theorem findEmail_writeRoles (validItems : List (Account × UserRole)) (email : String)
    (target : Account) (role : UserRole) (found : directory.findEmail email = some target)
    (one : ∀ entry ∈ validItems, entry.1.id = target.id → entry.2 = role)
    (given : target.role = some role ∨ ∃ entry ∈ validItems, entry.1.id = target.id) :
    (writeRoles directory validItems).1.roleOf email = some role := by
  induction validItems generalizing directory target with
  | nil =>
    rcases given with already | ⟨_, member, _⟩
    · simp [writeRoles, Directory.roleOf, found, already]
    · simp at member
  | cons entry rest ih =>
    have after := findEmail_setRole directory entry.1 entry.2 email
    rw [found, Option.map_some] at after
    by_cases same : target.id = entry.1.id
    · rw [if_pos same] at after
      have isRole := one entry List.mem_cons_self same.symm
      exact ih (directory.setRole entry.1 entry.2) { target with role := some entry.2 } after
        (fun other member => one other (List.mem_cons_of_mem _ member)) (Or.inl (by rw [isRole]))
    · rw [if_neg same] at after
      apply ih (directory.setRole entry.1 entry.2) target after
        (fun other member => one other (List.mem_cons_of_mem _ member))
      rcases given with already | ⟨other, member, sameId⟩
      · exact Or.inl already
      · rcases List.mem_cons.mp member with rfl | tail
        · exact absurd sameId.symm same
        · exact Or.inr ⟨other, tail, sameId⟩

theorem roleOf_setRole (email : String) (target : Account) (role : UserRole)
    (found : directory.findEmail email = some target) :
    (directory.setRole target role).roleOf email = some role := by
  simp [Directory.roleOf, findEmail_setRole, found]

theorem sameRole_of_accepted (stable : ∀ email, server.normalizeEmail (server.normalizeEmail
      email) = server.normalizeEmail email) (unique : (directory.accounts.map Account.id).Nodup)
    (items : List BulkRoleItem) (item : BulkRoleItem) (listed : item ∈ items) (role : UserRole)
    (after after' : Directory) (results : List BulkItemResult)
    (bulkAccepted : BulkAccepts server directory request items item)
    (one : ∀ other ∈ items, other.userEmail = item.userEmail → other.role = item.role)
    (known : roleOfValue item.role = some role)
    (accepted : updateUserRole server directory request item.userEmail role = .ok after)
    (processed : bulkUpdateRole server directory request items = .ok (after', results)) :
    after'.roleOf (server.normalizeEmail item.userEmail) =
      after.roleOf (server.normalizeEmail item.userEmail) := by
  obtain ⟨target, common, _, rfl⟩ :=
    (updateUserRole_ok_iff server directory request stable item role known after).mp accepted
  obtain ⟨normal, _⟩ := (bulkAccepts_iff server directory request stable items item listed).mp
    bulkAccepted
  have mayAssign := bulkAccepted.1
  have found := common.2.1
  rw [roleOf_setRole directory _ target role found]
  simp only [bulkUpdateRole] at processed
  obtain ⟨_, _, processed⟩ := bind_eq_ok _ _ _ processed
  have written := congrArg Prod.fst (Except.ok.inj processed)
  simp only at written
  rw [← written]
  apply findEmail_writeRoles directory _ _ target role found
  · rintro ⟨other, otherRole⟩ member sameId
    obtain ⟨otherItem, otherListed, valid⟩ := List.mem_filterMap.mp member
    have resolved : resolveRoleItem server directory request
        (getByEmails server directory (items.map BulkRoleItem.userEmail)) otherItem =
        .ok (other, otherRole) := by
      simp only [validItem] at valid
      cases outcome : resolveRoleItem server directory request
          (getByEmails server directory (items.map BulkRoleItem.userEmail)) otherItem with
      | error code => simp [outcome, Except.toOption] at valid
      | ok pair => simpa [outcome, Except.toOption] using valid
    obtain ⟨otherNormal, otherCommon⟩ := (resolved_iff server directory request stable items
      otherItem otherListed mayAssign other otherRole).mp resolved
    -- One primary key is one account, and so one address.
    have sameAccount : other = target :=
      List.inj_on_of_nodup_map unique (List.mem_of_find?_eq_some otherCommon.2.1)
        (List.mem_of_find?_eq_some found) sameId
    have otherEmail : other.email = server.normalizeEmail otherItem.userEmail := by
      simpa using List.find?_some otherCommon.2.1
    have targetEmail : target.email = server.normalizeEmail item.userEmail := by
      simpa using List.find?_some found
    have sameAddress : otherItem.userEmail = item.userEmail := by
      rw [← otherNormal, ← normal, ← otherEmail, ← targetEmail, sameAccount]
    have sameText := one otherItem otherListed sameAddress
    have otherKnown := otherCommon.2.2.1
    rw [sameText, known] at otherKnown
    exact (Option.some.inj otherKnown).symm
  · right
    refine ⟨(target, role), List.mem_filterMap.mpr ⟨item, listed, ?_⟩, rfl⟩
    have resolved := (resolved_iff server directory request stable items item listed mayAssign
      target role).mpr ⟨normal, common⟩
    simp [validItem, resolved, Except.toOption]

/-- For every item of a batch the bulk route does what the single route does exactly when the
address is in its stored form and the caller may manage the target, or neither. -/
theorem bulk_role_agrees_iff (stable : ∀ email, server.normalizeEmail (server.normalizeEmail
      email) = server.normalizeEmail email) (unique : (directory.accounts.map Account.id).Nodup)
    (items : List BulkRoleItem) (item : BulkRoleItem) (listed : item ∈ items) :
    Agrees server directory request items item ↔ RoleGuarded server directory request item := by
  rw [← accepts_alike_iff server directory request stable items item listed]
  constructor
  · intro agrees
    exact agrees.accepts
  · intro alike
    exact ⟨alike, fun role after after' results bulkAccepted one known accepted processed =>
      sameRole_of_accepted server directory request stable unique items item listed role after
        after' results bulkAccepted one known accepted processed⟩

end Routes

/-! A caller who may assign roles, but not manage privileged accounts, demotes an admin. -/

def roleAssigner : Holdings where
  activePolicies := []
  activePermissions := [⟨1, "users:assign_role", "users", .null, true, none⟩]

def staff : Directory where
  accounts := [⟨1, "ann@example.com", none⟩, ⟨2, "bob@example.com", some .admin⟩,
    ⟨3, "eve@example.com", some .user⟩]
  holdings := fun _ => roleAssigner

def exampleServer : Server :=
  ⟨⟨0, fun _ => none, fun _ => false⟩, id⟩

def annRequest : Request :=
  ⟨"ann@example.com", "203.0.113.7", "2026-01-01T12:00:00+00:00", "2026-01-01T12:00:00+00:00"⟩

def demoteBob : BulkRoleItem :=
  ⟨"bob@example.com", "user"⟩

def promoteEve : BulkRoleItem :=
  ⟨"eve@example.com", "admin"⟩

theorem bulk_role_agrees_iff_eve :
    Agrees exampleServer staff annRequest [promoteEve, demoteBob] promoteEve := by
  apply (bulk_role_agrees_iff exampleServer staff annRequest (fun _ => rfl) (by decide) _ _
    List.mem_cons_self).mpr
  intro target role common
  have isEve : target = ⟨3, "eve@example.com", some .user⟩ := (Option.some.inj common.2.1).symm
  refine ⟨fun _ => ?_, fun _ => rfl⟩
  rw [isEve]
  intro admin
  exact absurd admin (by decide)

theorem bulk_role_skips_privileged_guard :
    ¬ ∀ (server : Server) (directory : Directory) (request : Request)
      (items : List BulkRoleItem) (item : BulkRoleItem),
      (∀ email, server.normalizeEmail (server.normalizeEmail email) =
        server.normalizeEmail email) → (directory.accounts.map Account.id).Nodup →
        item ∈ items → Agrees server directory request items item := by
  intro claim
  have agrees := claim exampleServer staff annRequest [demoteBob] demoteBob (fun _ => rfl)
    (by decide) List.mem_cons_self
  have accepted : BulkAccepts exampleServer staff annRequest [demoteBob] demoteBob :=
    ⟨by decide, _, rfl⟩
  obtain ⟨role, after, known, single⟩ := agrees.accepts.mp accepted
  cases known
  exact absurd single (by intro impossible; cases impossible)

end MysticAuth.RoleChange
