import MysticAuth.Authorization.SuperuserLockout

/-!
# Cached grants after a removal

A read that misses takes its grants from the tables and stores them in the
cache, in separate steps.  A removal commits, and then deletes what is cached.
A fill that comes after the deletion, with grants selected before the commit,
stays in the cache.
-/

set_option autoImplicit false

namespace MysticAuth.Transactions

open Python PolicyEvaluationEngine Interleaving

/-! ## Grants that are gone -/

/-- The decision is evaluated on the grant. -/
def Has (holdings : Holdings) : GrantRef → Prop
  | .policy id => ∃ policy ∈ holdings.activePolicies, policy.id = id
  | .permission action resourceType => ∃ permission ∈ holdings.activePermissions,
      permission.action = action ∧ permission.resourceType = resourceType

def isUpdate (event : Event) : Bool :=
  match event.1 with
  | .commitUpdate _ _ _ _ _ => true
  | _ => false

/-- A later commit gives the grant again: it switches on the policy that the removal has switched
off, or keeps the direct grant for one of the actions that it does not revoke. -/
def Restores (removal event : Event) (email : String) (grant : GrantRef) : Prop :=
  match event with
  | ⟨.commitUpdate _ _ _ _ _, .ok updated⟩ =>
      isUpdate removal = true ∧ updated.isActive = true ∧ grant = .policy updated.id
  | ⟨.commitActionRevocation user policy action _, .ok _⟩ => email = user.email ∧
      ∃ kept ∈ policy.actions, kept ≠ action ∧ grant = .permission kept policy.resourceType
  | _ => False

/-- Why the tables do not give the user the grant any more. -/
def Gone (database : Database) (removal : Event) (email : String) : GrantRef → Prop
  | .policy id =>
      if isUpdate removal then
        ∀ policy ∈ database.policies, policy.id = id → policy.isActive = false
      else
        ∀ link ∈ database.userPolicies, link.policyId = id →
          database.isUserWithEmail link.userId email = false
  | .permission action resourceType => ∀ permission ∈ database.userPermissions,
      permission.action = action → permission.resourceType = resourceType →
        database.isUserWithEmail permission.userId email = false

theorem not_has_of_gone {database : Database} {removal : Event} {email : String} {grant : GrantRef}
    (gone : Gone database removal email grant) : ¬ Has (database.holdings email) grant := by
  cases grant with
  | policy id =>
    rintro ⟨policy, active, rfl⟩
    obtain ⟨listed, isActive⟩ := List.mem_filter.mp active
    simp only [Bool.and_eq_true, List.any_eq_true, beq_iff_eq] at isActive
    obtain ⟨isActive, link, linked, isPolicy, isUser⟩ := isActive
    simp only [Gone] at gone
    split at gone
    · rw [gone policy listed rfl] at isActive
      cases isActive
    · rw [gone link linked isPolicy] at isUser
      cases isUser
  | permission action resourceType =>
    rintro ⟨permission, active, isAction, isType⟩
    obtain ⟨listed, isActive⟩ := List.mem_filter.mp active
    rw [Bool.and_eq_true, gone permission listed isAction isType] at isActive
    cases isActive.2

/-! ## One commit -/

structure UserKeys (database : Database) : Prop where
  ids : (database.users.map User.id).Nodup
  emails : (database.users.map User.email).Nodup

/-- The users whose grants a commit removes, if it is a removal. -/
def removedFrom : Call → List User
  | .commitRemoval user _ => [user]
  | .commitActionRevocation user _ _ _ => [user]
  | .commitBulkRemoval items => items.map Prod.fst
  | .commitPermissionRemoval item => [item.user]
  | .commitBulkPermissionRemoval items => items.map PermissionItem.user
  | _ => []

/-- What a commit may add to the tables. -/
structure TableStep (before after : Database) (event : Event) : Prop where
  users : after.users = before.users
  links : after.userPolicies ⊆ before.userPolicies
  policies : ∀ policy ∈ after.policies, policy ∈ before.policies ∨
    ∃ locked fields changedBy changeReason changeType,
      event = ⟨.commitUpdate locked fields changedBy changeReason changeType, .ok policy⟩
  permissions : ∀ permission ∈ after.userPermissions, permission ∈ before.userPermissions ∨
    ∃ user policy action revokedBy done,
      event = ⟨.commitActionRevocation user policy action revokedBy, .ok done⟩ ∧
        permission.userId = user.id ∧ permission.action ∈ policy.actions ∧
          permission.action ≠ action ∧ permission.resourceType = policy.resourceType

theorem isUserWithEmail_iff {database : Database} {userId : Nat} {email : String} :
    database.isUserWithEmail userId email = true ↔
      ∃ user ∈ database.users, user.id = userId ∧ user.email = email := by
  simp only [Database.isUserWithEmail, List.any_eq_true, Bool.and_eq_true, beq_iff_eq]

theorem UserKeys.id_of_email {database : Database} (keys : UserKeys database) {user : User}
    (isUser : user ∈ database.users) {userId : Nat}
    (isEmail : database.isUserWithEmail userId user.email = true) : userId = user.id := by
  obtain ⟨other, listed, rfl, same⟩ := isUserWithEmail_iff.mp isEmail
  rw [List.inj_on_of_nodup_map keys.emails listed isUser same]

theorem UserKeys.email_of_id {database : Database} (keys : UserKeys database) {user : User}
    (isUser : user ∈ database.users) {email : String}
    (isEmail : database.isUserWithEmail user.id email = true) : email = user.email := by
  obtain ⟨other, listed, same, rfl⟩ := isUserWithEmail_iff.mp isEmail
  rw [List.inj_on_of_nodup_map keys.ids listed isUser same]

section Commits

variable {site : Site} {thread : Nat} {call : Call} {reply : Reply call} {store store' : Store}

theorem removePermissions_subset (database : Database) (items : List PermissionItem) :
    (removePermissions database items).userPermissions ⊆ database.userPermissions := by
  induction items generalizing database with
  | nil => exact List.Subset.refl _
  | cons item rest ih => exact List.Subset.trans (ih _) List.filter_sublist.subset

theorem removeAssignments_permissions (database : Database) (items : List (User × Policy)) :
    (removeAssignments database items).userPermissions = database.userPermissions := by
  induction items generalizing database with
  | nil => rfl
  | cons item rest ih => exact ih _

theorem revocation_permissions {database after : Database} {user : User} {policy : Policy}
    {action : String} {revokedBy : Option String}
    (applied : database.revokeSingleAction user.id policy action revokedBy = some after)
    {permission : UserPermission} (member : permission ∈ after.userPermissions) :
    permission ∈ database.userPermissions ∨ permission.userId = user.id ∧
      permission.action ∈ policy.actions ∧ permission.action ≠ action ∧
        permission.resourceType = policy.resourceType := by
  simp only [Database.revokeSingleAction] at applied
  split at applied
  · obtain rfl := Option.some.inj applied
    refine (mem_assignRemaining _ _ _ _ _ _ _ member).imp_right ?_
    rintro ⟨kept, remaining, rfl⟩
    obtain ⟨inPolicy, differs⟩ := List.mem_filter.mp remaining
    exact ⟨rfl, inPolicy, by simpa using differs, rfl⟩
  · cases applied

/-- The tables after an answer. -/
theorem tableStep_of_answer (request : Request) (operation : Operation)
    (possible : (reply, store') ∈ outcomes site thread call store) :
    TableStep store.database store'.database ⟨call, reply⟩ := by
  have unchanged (same : applied store.database ⟨call, reply⟩ = store.database) :
      TableStep store.database store'.database ⟨call, reply⟩ := by
    rw [database_of_answer possible, same]
    exact ⟨rfl, List.Subset.refl _, fun _ => Or.inl, fun _ => Or.inl⟩
  cases call with
  | commitUpdate locked fields changedBy changeReason changeType =>
    cases reply with
    | error failure => exact unchanged rfl
    | ok updated =>
      have isUpdated := outcomes_answer site request operation thread _ store _ possible updated rfl
      obtain ⟨-, database, isAfter, rfl⟩ := committed_ok possible
      obtain ⟨updated', -, rest⟩ := Option.bind_eq_some_iff.mp isAfter
      obtain ⟨database', isUpdate, same⟩ := Option.bind_eq_some_iff.mp rest
      obtain ⟨-, rfl⟩ := Prod.mk.inj (Option.some.inj same)
      obtain ⟨updated'', isUpdated', rfl⟩ := updatePolicy_eq_some _ _ _ _ _ _ _ isUpdate
      obtain rfl := Option.some.inj (isUpdated.symm.trans isUpdated')
      refine ⟨rfl, List.Subset.refl _, fun policy member => ?_, fun _ => Or.inl⟩
      rcases mem_replacePolicy _ _ _ member with rfl | ⟨old, -⟩
      · exact Or.inr ⟨locked, fields, changedBy, changeReason, changeType, rfl⟩
      · exact Or.inl old
  | commitDelete policy changedBy changeReason =>
    cases reply with
    | error failure => exact unchanged rfl
    | ok done =>
      rw [database_of_answer possible]
      exact ⟨rfl, List.filter_sublist.subset, fun _ member => Or.inl (List.mem_filter.mp member).1,
        fun _ => Or.inl⟩
  | commitRemoval user policy =>
    cases reply with
    | error failure => exact unchanged rfl
    | ok done =>
      rw [database_of_answer possible]
      exact ⟨rfl, List.filter_sublist.subset, fun _ => Or.inl, fun _ => Or.inl⟩
  | commitActionRevocation user policy action revokedBy =>
    cases reply with
    | error failure => exact unchanged rfl
    | ok done =>
      obtain ⟨-, database, isAfter, rfl⟩ := committed_ok possible
      obtain ⟨after, isRevoked, same⟩ := Option.map_eq_some_iff.mp isAfter
      obtain ⟨-, rfl⟩ := Prod.mk.inj same
      have kept (permission : UserPermission) (member : permission ∈ after.userPermissions) :=
        revocation_permissions isRevoked member
      obtain ⟨permissions, rfl, -⟩ := revokeSingleAction_eq_some _ _ _ _ _ _ isRevoked
      exact ⟨rfl, List.filter_sublist.subset, fun _ => Or.inl, fun permission member =>
        (kept permission member).imp_right fun isKept => ⟨user, policy, action, revokedBy, done,
          rfl, isKept⟩⟩
  | commitBulkRemoval items =>
    cases reply with
    | error failure => exact unchanged rfl
    | ok done =>
      obtain ⟨users, policies, links⟩ := links_of_answer id possible
      rw [database_of_answer possible] at *
      refine ⟨users, ?_, fun policy member => Or.inl (policies ▸ member),
        fun permission member => Or.inl ?_⟩
      · rw [links]
        exact List.filter_sublist.subset
      · rwa [applied, removeAssignments_permissions] at member
  | commitPermissionRemoval item =>
    cases reply with
    | error failure => exact unchanged rfl
    | ok done =>
      rw [database_of_answer possible]
      exact ⟨rfl, List.Subset.refl _, fun _ => Or.inl,
        fun _ member => Or.inl (List.mem_filter.mp member).1⟩
  | commitBulkPermissionRemoval items =>
    cases reply with
    | error failure => exact unchanged rfl
    | ok done =>
      rw [database_of_answer possible]
      have subset := removePermissions_subset store.database items
      simp only [applied]
      rw [removePermissions_frame]
      exact ⟨rfl, List.Subset.refl _, fun _ => Or.inl, fun _ member => Or.inl (subset member)⟩
  | _ => exact unchanged rfl

/-- What is gone stays gone until it is restored. -/
theorem gone_kept {before after : Database} {event removal : Event} {email : String}
    {grant : GrantRef} (keys : UserKeys before) (step : TableStep before after event)
    (named : ∀ user ∈ removedFrom event.1, user ∈ before.users)
    (gone : Gone before removal email grant) (unrestored : ¬ Restores removal event email grant) :
    Gone after removal email grant := by
  have sameUsers (userId : Nat) :
      after.isUserWithEmail userId email = before.isUserWithEmail userId email := by
    simp only [Database.isUserWithEmail, step.users]
  cases grant with
  | policy id =>
    simp only [Gone] at gone ⊢
    split
    · rename_i isUpdate
      rw [if_pos isUpdate] at gone
      intro policy member isPolicy
      rcases step.policies policy member with old | ⟨_, _, _, _, _, rfl⟩
      · exact gone policy old isPolicy
      · exact Bool.eq_false_iff.mpr fun isActive =>
          unrestored ⟨isUpdate, isActive, congrArg GrantRef.policy isPolicy.symm⟩
    · rename_i isUpdate
      rw [if_neg isUpdate] at gone
      intro link member isPolicy
      rw [sameUsers]
      exact gone link (step.links member) isPolicy
  | permission action resourceType =>
    intro permission member isAction isType
    rw [sameUsers]
    rcases step.permissions permission member with old |
      ⟨user, policy, revoked, _, _, rfl, isUser, inPolicy, differs, sameType⟩
    · exact gone permission old isAction isType
    · refine Bool.eq_false_iff.mpr fun isEmail => unrestored ?_
      rw [isUser] at isEmail
      refine ⟨keys.email_of_id (named user (by simp [removedFrom])) isEmail, permission.action,
        inPolicy, differs, ?_⟩
      rw [isAction, ← sameType, isType]

theorem not_listed_of_removed {database : Database} {items : List PermissionItem}
    {item : PermissionItem} (listed : item ∈ items) {permission : UserPermission}
    (member : permission ∈ (removePermissions database items).userPermissions) :
    Database.isGrantKey item.user.id item.action item.resourceType permission = false := by
  induction items generalizing database with
  | nil => cases listed
  | cons head rest ih =>
    rcases List.mem_cons.mp listed with rfl | inRest
    · have inFirst := removePermissions_subset _ rest member
      simpa using (List.mem_filter.mp inFirst).2
    · exact ih inRest member

/-- An assignment that a commit deletes does not come through the user's address either. -/
theorem link_gone (keys : UserKeys store.database) {user : User} {policyId : Nat}
    (isUser : user ∈ store.database.users) (plain : ¬ editsPolicies call)
    (possible : (reply, store') ∈ outcomes site thread call store)
    (removed : (user.id, policyId) ∈ removedLinks ⟨call, reply⟩) {link : UserPolicy}
    (member : link ∈ store'.database.userPolicies) (isPolicy : link.policyId = policyId) :
    store'.database.isUserWithEmail link.userId user.email = false := by
  obtain ⟨users, -, links⟩ := links_of_answer plain possible
  refine Bool.eq_false_iff.mpr fun isEmail => ?_
  have same : link.userId = user.id := by
    refine keys.id_of_email isUser ?_
    rwa [Database.isUserWithEmail, users] at isEmail
  rw [links, withoutLinks, List.mem_filter] at member
  simp [same, isPolicy, removed] at member

theorem permission_gone (keys : UserKeys store.database) {user : User} {action resourceType : String}
    (isUser : user ∈ store.database.users) (users : store'.database.users = store.database.users)
    {permission : UserPermission}
    (removed : Database.isGrantKey user.id action resourceType permission = false)
    (isAction : permission.action = action) (isType : permission.resourceType = resourceType) :
    store'.database.isUserWithEmail permission.userId user.email = false := by
  refine Bool.eq_false_iff.mpr fun isEmail => ?_
  have same : permission.userId = user.id := by
    refine keys.id_of_email isUser ?_
    rwa [Database.isUserWithEmail, users] at isEmail
  simp [Database.isGrantKey, same, isAction, isType] at removed

/-- A commit that removes a grant makes it gone. -/
theorem removes_gone (request : Request) (operation : Operation) (keys : UserKeys store.database)
    (named : ∀ user ∈ removedFrom call, user ∈ store.database.users)
    (possible : (reply, store') ∈ outcomes site thread call store) {email : String}
    {grant : GrantRef} (removes : Removes ⟨call, reply⟩ email grant) :
    Gone store'.database ⟨call, reply⟩ email grant := by
  have users := (tableStep_of_answer request operation possible).users
  cases call with
  | commitUpdate locked fields changedBy changeReason changeType =>
    cases reply with
    | error failure => exact removes.elim
    | ok updated =>
      obtain ⟨inactive, rfl⟩ := removes
      have isUpdated := outcomes_answer site request operation thread _ store _ possible updated rfl
      obtain ⟨-, database, isAfter, rfl⟩ := committed_ok possible
      obtain ⟨updated', -, rest⟩ := Option.bind_eq_some_iff.mp isAfter
      obtain ⟨database', isChanged, same⟩ := Option.bind_eq_some_iff.mp rest
      obtain ⟨-, rfl⟩ := Prod.mk.inj (Option.some.inj same)
      obtain ⟨updated'', isUpdated', rfl⟩ := updatePolicy_eq_some _ _ _ _ _ _ _ isChanged
      obtain rfl := Option.some.inj (isUpdated.symm.trans isUpdated')
      rw [Gone, if_pos (by simp [isUpdate])]
      intro policy member isPolicy
      rcases mem_replacePolicy _ _ _ member with rfl | ⟨-, differs⟩
      · exact inactive
      · exact absurd isPolicy differs
  | commitDelete policy changedBy changeReason =>
    cases reply with
    | error failure => exact removes.elim
    | ok done =>
      obtain rfl : grant = .policy policy.id := removes
      rw [database_of_answer possible, Gone, if_neg (by simp [isUpdate])]
      intro link member isPolicy
      have differs := (List.mem_filter.mp member).2
      simp [isPolicy] at differs
  | commitRemoval user policy =>
    cases reply with
    | error failure => exact removes.elim
    | ok done =>
      obtain ⟨rfl, rfl⟩ := removes
      rw [Gone, if_neg (by simp [isUpdate])]
      exact fun link member isPolicy => link_gone keys (named user (by simp [removedFrom])) id
        possible (by simp [removedLinks]) member isPolicy
  | commitActionRevocation user policy action revokedBy =>
    cases reply with
    | error failure => exact removes.elim
    | ok done =>
      obtain ⟨rfl, rfl⟩ := removes
      rw [Gone, if_neg (by simp [isUpdate])]
      exact fun link member isPolicy => link_gone keys (named user (by simp [removedFrom])) id
        possible (by simp [removedLinks]) member isPolicy
  | commitBulkRemoval items =>
    cases reply with
    | error failure => exact removes.elim
    | ok done =>
      obtain ⟨item, listed, rfl, rfl⟩ := removes
      rw [Gone, if_neg (by simp [isUpdate])]
      exact fun link member isPolicy =>
        link_gone keys (named item.1 (List.mem_map_of_mem listed)) id possible
          (List.mem_map_of_mem listed) member isPolicy
  | commitPermissionRemoval item =>
    cases reply with
    | error failure => exact removes.elim
    | ok done =>
      obtain ⟨rfl, rfl⟩ := removes
      intro permission member isAction isType
      refine permission_gone keys (named item.user (by simp [removedFrom])) users ?_ isAction isType
      rw [database_of_answer possible] at member
      simpa using (List.mem_filter.mp member).2
  | commitBulkPermissionRemoval items =>
    cases reply with
    | error failure => exact removes.elim
    | ok done =>
      obtain ⟨item, listed, rfl, rfl⟩ := removes
      intro permission member isAction isType
      refine permission_gone keys (named item.user (List.mem_map_of_mem listed)) users ?_ isAction
        isType
      rw [database_of_answer possible] at member
      exact not_listed_of_removed listed member
  | _ => exact removes.elim

end Commits

/-! ## The cache -/

theorem lookup_filter_keep {α : Type} {cache : Cache α} {keep : String × α → Bool} {key : String}
    (kept : ∀ value, keep (key, value) = true) : (cache.filter keep).lookup key = cache.lookup key := by
  induction cache with
  | nil => rfl
  | cons entry rest ih =>
    obtain ⟨other, value⟩ := entry
    by_cases same : key = other
    · subst same
      simp [kept]
    · have differs : (key == other) = false := by simpa using same
      rw [List.lookup_cons, differs, List.filter_cons]
      split
      · rw [List.lookup_cons, differs]
        exact ih
      · exact ih

theorem lookup_filter_drop {α : Type} {cache : Cache α} {keep : String × α → Bool} {key : String}
    (dropped : ∀ value, keep (key, value) = false) : (cache.filter keep).lookup key = none := by
  induction cache with
  | nil => rfl
  | cons entry rest ih =>
    obtain ⟨other, value⟩ := entry
    rw [List.filter_cons]
    split
    · rename_i isKept
      have differs : (key == other) = false := by
        refine Bool.eq_false_iff.mpr fun same => ?_
        obtain rfl := beq_iff_eq.mp same
        rw [dropped value] at isKept
        cases isKept
      rw [List.lookup_cons, differs]
      exact ih
    · exact ih

theorem lookup_delete {α : Type} {cache : Cache α} {keys : List String} {key : String} {value : α}
    (found : (cache.delete keys).lookup key = some value) :
    key ∉ keys ∧ cache.lookup key = some value := by
  by_cases deleted : key ∈ keys
  · rw [Cache.delete, lookup_filter_drop (by simp [deleted])] at found
    cases found
  · rw [Cache.delete, lookup_filter_keep (by simp [deleted])] at found
    exact ⟨deleted, found⟩

theorem lookup_set {α : Type} {cache : Cache α} {key other : String} {value value' : α}
    (found : (cache.set key value).lookup other = some value') :
    (other = key ∧ value' = value) ∨ cache.lookup other = some value' := by
  by_cases same : other = key
  · subst same
    simp only [Cache.set, List.lookup_cons, beq_self_eq_true, Option.some.injEq] at found
    exact Or.inl ⟨rfl, found.symm⟩
  · right
    have differs : (other == key) = false := by simpa using same
    rw [Cache.set, List.lookup_cons, differs] at found
    rwa [lookup_filter_keep fun _ => by simpa using same] at found

theorem lookup_unlisted {α : Type} {cache : Cache α} {key : String}
    (unlisted : key ∉ cache.map Prod.fst) : cache.lookup key = none := by
  rw [List.lookup_eq_none_iff]
  intro entry member
  rw [bne_iff_ne]
  rintro rfl
  exact unlisted (List.mem_map_of_mem member)

def PoliciesHave (policies : List Policy) (grant : GrantRef) : Prop :=
  ∃ policy ∈ policies, grant = .policy policy.id

def PermissionsHave (permissions : List UserPermission) (grant : GrantRef) : Prop :=
  ∃ permission ∈ permissions, grant = .permission permission.action permission.resourceType

/-- The user's cache entry has the grant. -/
def Cached (site : Site) (store : Store) (email : String) (grant : GrantRef) : Prop :=
  (∃ policies, store.userPolicies.lookup (site.keys.userPoliciesKey email) = some policies ∧
      PoliciesHave policies grant) ∨
    ∃ permissions, store.userPermissions.lookup (site.keys.userPermissionsKey email) =
      some permissions ∧ PermissionsHave permissions grant

/-- The call stores the grant in the user's cache entry. -/
def Fills (site : Site) (call : Call) (email : String) (grant : GrantRef) : Prop :=
  (∃ policies, call = .setUserPolicies (site.keys.userPoliciesKey email) policies ∧
      PoliciesHave policies grant) ∨
    ∃ permissions, call = .setUserPermissions (site.keys.userPermissionsKey email) permissions ∧
      PermissionsHave permissions grant

theorem has_iff {holdings : Holdings} {grant : GrantRef} :
    Has holdings grant ↔
      PoliciesHave holdings.activePolicies grant ∨
        PermissionsHave holdings.activePermissions grant := by
  cases grant with
  | policy id => simp [Has, PoliciesHave, PermissionsHave, eq_comm]
  | permission action resourceType =>
    simp only [Has, PoliciesHave, PermissionsHave, reduceCtorEq, and_false, exists_false,
      false_or, GrantRef.permission.injEq]
    simp only [eq_comm]

section Cache

variable {site : Site} {thread : Nat} {call : Call} {reply : Reply call} {store store' : Store}
variable {email : String} {grant : GrantRef}

theorem caches_of_commit {α : Type} {waits : Bool} {result : Except Failure α}
    {after : Option (α × Database)} (possible : (result, store') ∈ committed waits thread store after) :
    store'.userPolicies = store.userPolicies ∧ store'.userPermissions = store.userPermissions := by
  cases result with
  | ok value =>
    obtain ⟨-, database, -, rfl⟩ := committed_ok possible
    exact ⟨rfl, rfl⟩
  | error failure =>
    rw [committed_error possible]
    exact ⟨rfl, rfl⟩

/-- Only a fill stores a grant. -/
theorem cached_of_answer (possible : (reply, store') ∈ outcomes site thread call store)
    (cached : Cached site store' email grant) :
    Cached site store email grant ∨ Fills site call email grant := by
  have same (policies : store'.userPolicies = store.userPolicies)
      (permissions : store'.userPermissions = store.userPermissions) :
      Cached site store email grant := by
    rwa [Cached, policies, permissions] at cached
  cases call with
  | commitUpdate _ _ _ _ _ | commitDelete _ _ _ | commitRemoval _ _ | commitActionRevocation _ _ _ _
  | commitBulkRemoval _ | commitPermissionRemoval _ | commitBulkPermissionRemoval _ =>
    simp only [outcomes] at possible
    exact Or.inl (same (caches_of_commit possible).1 (caches_of_commit possible).2)
  | getHolderEmailsForUpdate policy =>
    simp only [outcomes] at possible
    split at possible
    · cases possible
    · obtain ⟨-, rfl⟩ := Prod.mk.inj (List.mem_singleton.mp possible)
      exact Or.inl (same rfl rfl)
  | lockPolicy policy =>
    simp only [outcomes] at possible
    split at possible
    · cases possible
    · split at possible <;>
      · obtain ⟨-, rfl⟩ := Prod.mk.inj (List.mem_singleton.mp possible)
        exact Or.inl (same rfl rfl)
  | setUserPolicies key policies =>
    obtain ⟨-, rfl⟩ := Prod.mk.inj (List.mem_singleton.mp possible)
    rcases cached with ⟨found, isFound, has⟩ | permissions
    · rcases lookup_set isFound with ⟨rfl, rfl⟩ | old
      · exact Or.inr (Or.inl ⟨found, rfl, has⟩)
      · exact Or.inl (Or.inl ⟨found, old, has⟩)
    · exact Or.inl (Or.inr permissions)
  | setUserPermissions key permissions =>
    obtain ⟨-, rfl⟩ := Prod.mk.inj (List.mem_singleton.mp possible)
    rcases cached with policies | ⟨found, isFound, has⟩
    · exact Or.inl (Or.inl policies)
    · rcases lookup_set isFound with ⟨rfl, rfl⟩ | old
      · exact Or.inr (Or.inr ⟨found, rfl, has⟩)
      · exact Or.inl (Or.inr ⟨found, old, has⟩)
  | deleteUserPolicies keys =>
    obtain ⟨-, rfl⟩ := Prod.mk.inj (List.mem_singleton.mp possible)
    refine Or.inl (cached.imp_left ?_)
    rintro ⟨found, isFound, has⟩
    exact ⟨found, (lookup_delete isFound).2, has⟩
  | deleteUserPermissions keys =>
    obtain ⟨-, rfl⟩ := Prod.mk.inj (List.mem_singleton.mp possible)
    refine Or.inl (cached.imp_right ?_)
    rintro ⟨found, isFound, has⟩
    exact ⟨found, (lookup_delete isFound).2, has⟩
  | _ =>
    obtain ⟨-, rfl⟩ := Prod.mk.inj (List.mem_singleton.mp possible)
    exact Or.inl (same rfl rfl)

theorem not_permissionsHave_policy {permissions : List UserPermission} {id : Nat} :
    ¬ PermissionsHave permissions (.policy id) := by
  rintro ⟨permission, -, same⟩
  cases same

theorem not_policiesHave_permission {policies : List Policy} {action resourceType : String} :
    ¬ PoliciesHave policies (.permission action resourceType) := by
  rintro ⟨policy, -, same⟩
  cases same

/-- The call that invalidates a grant leaves nothing of it in the cache. -/
theorem invalidated_cons {trace : List Event}
    (possible : (reply, store') ∈ outcomes site thread call store)
    (invalidated : Invalidated site (⟨call, reply⟩ :: trace) email grant) :
    Invalidated site trace email grant ∨ ¬ Cached site store' email grant := by
  cases grant with
  | policy id =>
    rcases invalidated with ⟨keys, member, deleted⟩ | ⟨found, member, unlisted⟩
    · rcases List.mem_cons.mp member with same | old
      · cases same
        obtain ⟨-, rfl⟩ := Prod.mk.inj (List.mem_singleton.mp possible)
        right
        rintro (⟨policies, isFound, -⟩ | ⟨permissions, -, has⟩)
        · exact (lookup_delete isFound).1 deleted
        · exact not_permissionsHave_policy has
      · exact Or.inl (Or.inl ⟨keys, old, deleted⟩)
    · rcases List.mem_cons.mp member with same | old
      · cases same
        obtain ⟨rfl, rfl⟩ := Prod.mk.inj (List.mem_singleton.mp possible)
        right
        rintro (⟨policies, isFound, -⟩ | ⟨permissions, -, has⟩)
        · rw [lookup_unlisted unlisted] at isFound
          cases isFound
        · exact not_permissionsHave_policy has
      · exact Or.inl (Or.inr ⟨found, old, unlisted⟩)
  | permission action resourceType =>
    obtain ⟨keys, member, deleted⟩ := invalidated
    rcases List.mem_cons.mp member with same | old
    · cases same
      obtain ⟨-, rfl⟩ := Prod.mk.inj (List.mem_singleton.mp possible)
      right
      rintro (⟨policies, -, has⟩ | ⟨permissions, isFound, -⟩)
      · exact not_policiesHave_permission has
      · exact (lookup_delete isFound).1 deleted
    · exact Or.inl ⟨keys, old, deleted⟩

end Cache

/-! ## Reads and removals in parallel -/

/-- A commit removed the grant, and no later one has given it again. -/
structure Removed (history : List (Nat × Event)) (remover : Nat) (removal : Event) (email : String)
    (grant : GrantRef) : Prop where
  committed : (remover, removal) ∈ history
  removes : Removes removal email grant
  unrestored : ∀ newer older, history = newer ++ (remover, removal) :: older →
    ∀ entry ∈ newer, ¬ Restores removal entry.2 email grant

/-- All the routes; cached entries expire. -/
def authorizationServer (site : Site) :
    System (Request × Operation) Store (List String) Reply Failure Response where
  handle served := handle site served.1 served.2
  outcomes := outcomes site
  disturb expired store :=
    { store with
      userPolicies := store.userPolicies.delete expired
      userPermissions := store.userPermissions.delete expired }

theorem authorizationServer_obeys (site : Site) :
    (authorizationServer site).Obeys (fun served => discipline served.1 served.2)
      (fun served => returns site served.2) where
  programs served := handle_meets site served.1 served.2
  answers served thread call store outcome possible :=
    outcomes_answer site served.1 served.2 thread call store outcome possible

/-- No fill stores a grant that a removal has taken from the user, once the removal has invalidated
the user's entry. -/
def FillsFresh (site : Site) (config : PolicyServer) (_ : Nat) (event : Event) : Prop :=
  ∀ email grant, Fills site event.1 email grant → ∀ remover removal,
    Removed config.history remover removal email grant →
      ¬ Invalidated site (config.trace remover) email grant

def isRemoval : Operation → Bool
  | .authorize _ _ _ _ _ => false
  | _ => true

/-- A read that began after the removal had returned has used the removed grant. -/
def StaleRead (returned config : PolicyServer) (remover reader : Nat) (removal : Event)
    (email : String) (grant : GrantRef) : Prop :=
  (∃ request operation response, isRemoval operation = true ∧
      returned.threads[remover]? = some ⟨(request, operation), .done (.ok response)⟩) ∧
    removal ∈ returned.trace remover ∧ Removed config.history remover removal email grant ∧
      returned.threads.length ≤ reader ∧
        ∃ request action resourceType resource context holdings allowed,
          config.threads[reader]? =
            some ⟨(request, .authorize email action resourceType resource context),
              .done (.ok (.decision holdings allowed))⟩ ∧ Has holdings grant

/-- A user that was read is in the table. -/
def UserRows (users : List User) (event : Event) : Prop :=
  match event with
  | ⟨.getByEmail _, found⟩ => ∀ user : User, found = some user → user ∈ users
  | ⟨.getByEmails _, found⟩ => ∀ user : User, user ∈ found → user ∈ users
  | _ => True

/-- What is removed is gone from the tables, and once it is invalidated from the cache. -/
structure Coherent (site : Site) (start : Database) (store : Store)
    (history : List (Nat × Event)) : Prop where
  users : store.database.users = start.users
  rows : ∀ entry ∈ history, UserRows start.users entry.2
  gone : ∀ remover removal email grant, Removed history remover removal email grant →
    Gone store.database removal email grant
  uncached : ∀ remover removal email grant, Removed history remover removal email grant →
    Invalidated site (traceOf history remover) email grant → ¬ Cached site store email grant

section Runs

variable {site : Site} {start : Store} {returned config : PolicyServer}

theorem Removed.tail {history : List (Nat × Event)} {thread remover : Nat} {event removal : Event}
    {email : String} {grant : GrantRef}
    (removed : Removed ((thread, event) :: history) remover removal email grant) :
    (remover = thread ∧ removal = event) ∨
      Removed history remover removal email grant ∧ ¬ Restores removal event email grant := by
  rcases List.mem_cons.mp removed.committed with same | old
  · exact Or.inl (Prod.mk.inj same)
  · right
    refine ⟨⟨old, removed.removes, fun newer older split entry member => ?_⟩, ?_⟩
    · exact removed.unrestored ((thread, event) :: newer) older (by rw [split]; rfl) entry
        (List.mem_cons_of_mem _ member)
    · obtain ⟨newer, older, split⟩ := List.append_of_mem old
      exact removed.unrestored ((thread, event) :: newer) older (by rw [split]; rfl)
        (thread, event) List.mem_cons_self

theorem Removed.before {history later : List (Nat × Event)} {remover : Nat} {removal : Event}
    {email : String} {grant : GrantRef} (removed : Removed later remover removal email grant)
    (suffix : history <:+ later) (committed : (remover, removal) ∈ history) :
    Removed history remover removal email grant := by
  obtain ⟨newest, rfl⟩ := suffix
  refine ⟨committed, removed.removes, fun newer older split entry member => ?_⟩
  exact removed.unrestored (newest ++ newer) older (by rw [split, List.append_assoc]) entry
    (List.mem_append_right _ member)

theorem userRows_of_answer {thread : Nat} {call : Call} {reply : Reply call} {store store' : Store}
    (possible : (reply, store') ∈ outcomes site thread call store) :
    UserRows store.database.users ⟨call, reply⟩ := by
  cases call with
  | getByEmail email =>
    obtain ⟨rfl, -⟩ := Prod.mk.inj (List.mem_singleton.mp possible)
    exact fun user found => List.mem_of_find?_eq_some found
  | getByEmails emails =>
    obtain ⟨rfl, -⟩ := Prod.mk.inj (List.mem_singleton.mp possible)
    exact fun user found => (List.mem_filter.mp found).1
  | _ => trivial

/-- A request has read the users whose grants it removes. -/
theorem removedFrom_read {request : Request} {operation : Operation} {trace : List Event}
    {call : Call} {users : List User} (rows : ∀ event ∈ trace, UserRows users event)
    (allowed : (discipline request operation).allows trace call) :
    ∀ user ∈ removedFrom call, user ∈ users := by
  intro user member
  cases call with
  | commitRemoval user' policy =>
    obtain rfl := List.mem_singleton.mp member
    obtain ⟨-, ⟨email, read⟩, -⟩ := allowed
    exact rows _ read user rfl
  | commitActionRevocation user' policy action revokedBy =>
    obtain rfl := List.mem_singleton.mp member
    obtain ⟨-, ⟨⟨email, read⟩, -⟩, -⟩ := allowed
    exact rows _ read user rfl
  | commitBulkRemoval items =>
    obtain ⟨item, listed, rfl⟩ := List.mem_map.mp member
    obtain ⟨emails, found, read, isFound⟩ := allowed.2.users item listed
    exact rows _ read item.1 isFound
  | commitPermissionRemoval item =>
    obtain rfl := List.mem_singleton.mp member
    obtain ⟨-, email, read⟩ := allowed
    exact rows _ read item.user rfl
  | commitBulkPermissionRemoval items =>
    obtain ⟨item, listed, rfl⟩ := List.mem_map.mp member
    obtain ⟨emails, found, read, isFound⟩ := allowed.2 item listed
    exact rows _ read item.user isFound
  | _ => cases member

/-- A request has not invalidated anything before it commits. -/
theorem removes_uninvalidated {request : Request} {operation : Operation} {trace : List Event}
    {call : Call} {reply : Reply call} {email : String} {grant : GrantRef}
    (removes : Removes ⟨call, reply⟩ email grant)
    (allowed : (discipline request operation).allows trace call) :
    ¬ Invalidated site (⟨call, reply⟩ :: trace) email grant := by
  have reading : Reading trace := by
    cases call with
    | commitUpdate _ _ _ _ _ | commitDelete _ _ _ | commitRemoval _ _
    | commitActionRevocation _ _ _ _ | commitBulkRemoval _ | commitPermissionRemoval _
    | commitBulkPermissionRemoval _ => exact allowed.1
    | _ => exact removes.elim
  have elsewhere {event : Event} (member : event ∈ ⟨call, reply⟩ :: trace)
      (late : ¬ isRead event.1) : event = ⟨call, reply⟩ :=
    (List.mem_cons.mp member).resolve_right fun old => late (reading event old)
  cases grant with
  | policy policyId =>
    rintro (⟨keys, member, -⟩ | ⟨found, member, -⟩)
    · cases elsewhere member id
      exact removes
    · cases elsewhere member id
      exact removes
  | permission action resourceType =>
    rintro ⟨keys, member, -⟩
    cases elsewhere member id
    exact removes

theorem Coherent.answered {first : Database} {before : PolicyServer} {thread : Nat} {call : Call}
    {reply : Reply call} {store' : Store} {request : Request} {operation : Operation}
    (keys : UserKeys first) (coherent : Coherent site first before.state before.history)
    (allowed : (discipline request operation).allows (before.trace thread) call)
    (possible : (reply, store') ∈ outcomes site thread call before.state)
    (fresh : FillsFresh site before thread ⟨call, reply⟩) :
    Coherent site first store' ((thread, ⟨call, reply⟩) :: before.history) := by
  have step := tableStep_of_answer request operation possible
  have keys' : UserKeys before.state.database := by
    constructor
    · rw [coherent.users]
      exact keys.ids
    · rw [coherent.users]
      exact keys.emails
  have named : ∀ user ∈ removedFrom call, user ∈ before.state.database.users := by
    rw [coherent.users]
    exact removedFrom_read (fun event member =>
      coherent.rows (thread, event) ((Config.mem_trace _ _).mp member)) allowed
  refine ⟨step.users.trans coherent.users, ?_, ?_, ?_⟩
  · intro entry member
    rcases List.mem_cons.mp member with rfl | old
    · rw [← coherent.users]
      exact userRows_of_answer possible
    · exact coherent.rows entry old
  · intro remover removal email grant removed
    rcases removed.tail with ⟨rfl, rfl⟩ | ⟨earlier, unrestored⟩
    · exact removes_gone request operation keys' named possible removed.removes
    · exact gone_kept keys' step named (coherent.gone remover removal email grant earlier)
        unrestored
  · intro remover removal email grant removed invalidated
    rcases removed.tail with ⟨rfl, rfl⟩ | ⟨earlier, -⟩
    · rw [traceOf_cons_self] at invalidated
      exact absurd invalidated (removes_uninvalidated removed.removes allowed)
    · have settled (old : Invalidated site (traceOf before.history remover) email grant) :
          ¬ Cached site store' email grant := by
        intro cached
        rcases cached_of_answer possible cached with cached' | fills
        · exact coherent.uncached remover removal email grant earlier old cached'
        · exact fresh email grant fills remover removal earlier old
      by_cases isRemover : thread = remover
      · subst isRemover
        rw [traceOf_cons_self] at invalidated
        exact (invalidated_cons possible invalidated).elim settled id
      · rw [traceOf_cons_ne _ isRemover] at invalidated
        exact settled invalidated

theorem coherent_along (keys : UserKeys start.database)
    (run : Reaches (authorizationServer site) (FillsFresh site) (Config.start start) config) :
    Coherent site start.database config.state config.history := by
  refine run.keeps (Coherent site start.database) ⟨rfl, ?_, ?_, ?_⟩ ?_ ?_
  · intro entry member
    cases member
  · intro remover removal email grant removed
    cases removed.committed
  · intro remover removal email grant removed
    cases removed.committed
  · intro expired store history coherent
    refine ⟨coherent.users, coherent.rows, coherent.gone, ?_⟩
    intro remover removal email grant removed invalidated cached
    refine coherent.uncached remover removal email grant removed invalidated ?_
    exact cached.imp
      (fun ⟨policies, found, has⟩ => ⟨policies, (lookup_delete found).2, has⟩)
      fun ⟨permissions, found, has⟩ => ⟨permissions, (lookup_delete found).2, has⟩
  · intro before after thread event earlier answers coherent
    obtain ⟨served, next, running⟩ := answers.running
    have allowed := (earlier.disciplined (authorizationServer_obeys site) start).allows running
    exact coherent.answered keys allowed answers.possible answers.permitted

/-- Whatever a read gets from the cache or from the tables lacks a grant that is gone from both. -/
theorem read_lacks {first : Database} {store store' : Store} {history : List (Nat × Event)}
    {thread remover : Nat} {removal event : Event} {email : String} {grant : GrantRef}
    {holdings : Holdings} (coherent : Coherent site first store history)
    (removed : Removed history remover removal email grant)
    (invalidated : Invalidated site (traceOf history remover) email grant)
    (possible : (event.2, store') ∈ outcomes site thread event.1 store) :
    ((event = ⟨.getUserPolicies (site.keys.userPoliciesKey email), some holdings.activePolicies⟩ ∨
        event = ⟨.selectPolicies email, holdings.activePolicies⟩) →
      ¬ PoliciesHave holdings.activePolicies grant) ∧
    ((event = ⟨.getUserPermissions (site.keys.userPermissionsKey email),
          some holdings.activePermissions⟩ ∨
        event = ⟨.selectPermissions email, holdings.activePermissions⟩) →
      ¬ PermissionsHave holdings.activePermissions grant) := by
  have uncached := coherent.uncached remover removal email grant removed invalidated
  have ungranted := not_has_of_gone (coherent.gone remover removal email grant removed)
  rw [has_iff] at ungranted
  constructor
  · rintro (rfl | rfl) has
    · obtain ⟨found, -⟩ := Prod.mk.inj (List.mem_singleton.mp possible)
      exact uncached (Or.inl ⟨_, found.symm, has⟩)
    · obtain ⟨found, -⟩ := Prod.mk.inj (List.mem_singleton.mp possible)
      simp only at found
      rw [found] at has
      exact ungranted (Or.inl has)
  · rintro (rfl | rfl) has
    · obtain ⟨found, -⟩ := Prod.mk.inj (List.mem_singleton.mp possible)
      exact uncached (Or.inr ⟨_, found.symm, has⟩)
    · obtain ⟨found, -⟩ := Prod.mk.inj (List.mem_singleton.mp possible)
      simp only at found
      rw [found] at has
      exact ungranted (Or.inr has)

/-- In every run in which no fill stores what a removal has already invalidated, a read that
begins after the removal has returned is not evaluated on the removed grant. -/
theorem no_stale_read (site : Site) (start : Store) (keys : UserKeys start.database)
    (first : Reaches (authorizationServer site) (FillsFresh site) (Config.start start) returned)
    (rest : Reaches (authorizationServer site) (FillsFresh site) returned config)
    (remover reader : Nat) (removal : Event) (email : String) (grant : GrantRef) :
    ¬ StaleRead returned config remover reader removal email grant := by
  rintro ⟨⟨request, operation, response, isRemoval, finished⟩, committed, removed, later, request',
    action, resourceType, resource, context, holdings, allowed, reading, has⟩
  have obeys := authorizationServer_obeys site
  have settled := (first.disciplined obeys start).returned finished rfl
  have invalidated : Invalidated site (returned.trace remover) email grant := by
    cases operation with
    | authorize _ _ _ _ _ => cases isRemoval
    | _ => exact settled removal committed email grant removed.removes
  have whole : Reaches (authorizationServer site) (FillsFresh site) (Config.start start) config :=
    first.trans rest
  have read : ReadBy site (config.trace reader) email holdings :=
    (whole.disciplined obeys start).returned reading rfl
  have attributed := first.attributed (Config.attributed_start start)
  -- every call of the read was answered after the removal had returned
  have lacks {event : Event} (member : event ∈ config.trace reader) :=
    rest.answered_of_fresh attributed later member
  have uses (before : PolicyServer)
      (reached : Reaches (authorizationServer site) (FillsFresh site) returned before)
      (suffix : before.history <:+ config.history) :
      Coherent site start.database before.state before.history ∧
        Removed before.history remover removal email grant ∧
          Invalidated site (traceOf before.history remover) email grant :=
    ⟨coherent_along keys (first.trans reached),
      removed.before suffix (reached.history_suffix.subset
        ((Config.mem_trace _ _).mp committed)),
      invalidated_later invalidated (reached.trace_suffix remover)⟩
  rcases has_iff.mp has with inPolicies | inPermissions
  · have policies {event : Event} (member : event ∈ config.trace reader)
        (isRead : event = ⟨.getUserPolicies (site.keys.userPoliciesKey email),
            some holdings.activePolicies⟩ ∨
          event = ⟨.selectPolicies email, holdings.activePolicies⟩) : False := by
      obtain ⟨before, after, reached, answers, last⟩ := lacks member
      obtain ⟨coherent, removed', invalidated'⟩ :=
        uses before reached (answers.step.history_suffix.trans last.history_suffix)
      exact (read_lacks coherent removed' invalidated' answers.possible).1 isRead inPolicies
    exact read.policies.elim (fun member => policies member (Or.inl rfl))
      fun member => policies member (Or.inr rfl)
  · have permissions {event : Event} (member : event ∈ config.trace reader)
        (isRead : event = ⟨.getUserPermissions (site.keys.userPermissionsKey email),
            some holdings.activePermissions⟩ ∨
          event = ⟨.selectPermissions email, holdings.activePermissions⟩) : False := by
      obtain ⟨before, after, reached, answers, last⟩ := lacks member
      obtain ⟨coherent, removed', invalidated'⟩ :=
        uses before reached (answers.step.history_suffix.trans last.history_suffix)
      exact (read_lacks coherent removed' invalidated' answers.possible).2 isRead inPermissions
    exact read.permissions.elim (fun member => permissions member (Or.inl rfl))
      fun member => permissions member (Or.inr rfl)

end Runs

/-! ## A late fill -/

theorem superuserTables_users : UserKeys (Store.of superuserTables).database where
  ids := by decide
  emails := by decide

def readsBob : Request × Operation :=
  (annsRequest, .authorize "bob@example.com" "policies:revoke" "policies" none none)

def annRemovesBob : Request × Operation :=
  (annsRequest, .removePolicyFromUser "bob@example.com" systemSuperuserPolicyName)

def bobsRemoval : Event :=
  ⟨.commitRemoval ⟨2, "bob@example.com", .user⟩
    ⟨1, systemSuperuserPolicyName, none, ["policies:revoke"], "policies", .null, true, none⟩, .ok ()⟩

def isCommit : Call → Bool
  | .commitUpdate _ _ _ _ _ => true
  | .commitDelete _ _ _ => true
  | .commitRemoval _ _ => true
  | .commitActionRevocation _ _ _ _ => true
  | .commitBulkRemoval _ => true
  | .commitPermissionRemoval _ => true
  | .commitBulkPermissionRemoval _ => true
  | _ => false

/-- A fill before any commit, or of nothing. -/
def fillsEarly (config : PolicyServer) (event : Event) : Bool :=
  match event.1 with
  | .setUserPolicies _ policies =>
      policies.isEmpty || config.history.all fun entry => !isCommit entry.2.1
  | .setUserPermissions _ permissions =>
      permissions.isEmpty || config.history.all fun entry => !isCommit entry.2.1
  | _ => true

theorem commit_of_removes {event : Event} {email : String} {grant : GrantRef}
    (removes : Removes event email grant) : isCommit event.1 = true := by
  obtain ⟨call, reply⟩ := event
  cases call with
  | commitUpdate _ _ _ _ _ | commitDelete _ _ _ | commitRemoval _ _
  | commitActionRevocation _ _ _ _ | commitBulkRemoval _ | commitPermissionRemoval _
  | commitBulkPermissionRemoval _ => rfl
  | _ => exact removes.elim

theorem fillsFresh_of_early (config : PolicyServer) (thread : Nat) (event : Event)
    (passed : fillsEarly config event = true) : FillsFresh plainSite config thread event := by
  intro email grant fills remover removal removed _
  have early (none : (config.history.all fun entry => !isCommit entry.2.1) = true) : False := by
    have absent := List.all_eq_true.mp none _ removed.committed
    rw [commit_of_removes removed.removes] at absent
    cases absent
  rcases fills with ⟨policies, isFill, policy, member, -⟩ | ⟨permissions, isFill, grant, member, -⟩
  · rw [fillsEarly, isFill] at passed
    simp only [Bool.or_eq_true, List.isEmpty_iff] at passed
    exact passed.elim (fun empty => by rw [empty] at member; cases member) early
  · rw [fillsEarly, isFill] at passed
    simp only [Bool.or_eq_true, List.isEmpty_iff] at passed
    exact passed.elim (fun empty => by rw [empty] at member; cases member) early

/-- Bob's grants are cached, and Ann removes his assignment. -/
def readThenRemove : List (Move (Request × Operation) (List String)) :=
  .begin readsBob :: Move.turns 0 6 ++ .begin annRemovesBob :: Move.turns 1 9

def readAgain : List (Move (Request × Operation) (List String)) :=
  .begin readsBob :: Move.turns 2 4

/-- The next read misses, and finds nothing in the tables. -/
theorem no_stale_read_bob :
    let removed := (Config.start (Store.of superuserTables)).follow (authorizationServer plainSite)
      readThenRemove
    ¬ StaleRead removed (removed.follow (authorizationServer plainSite) readAgain) 1 2 bobsRemoval
      "bob@example.com" (.policy 1) :=
  no_stale_read plainSite (Store.of superuserTables) superuserTables_users
    (Config.follow_permitted (authorizationServer plainSite)
      (fun config _ event => fillsEarly config event) fillsFresh_of_early _ readThenRemove
      (by decide +kernel))
    (Config.follow_permitted (authorizationServer plainSite)
      (fun config _ event => fillsEarly config event) fillsFresh_of_early _ readAgain
      (by decide +kernel)) 1 2 bobsRemoval "bob@example.com" (.policy 1)

/-- A read selects Bob's grants; Ann removes his assignment; then the read fills the cache. -/
def removeBeforeFill : List (Move (Request × Operation) (List String)) :=
  .begin readsBob :: Move.turns 0 2 ++ .begin annRemovesBob :: Move.turns 1 9 ++ Move.turns 0 4

def readFromCache : List (Move (Request × Operation) (List String)) :=
  .begin readsBob :: Move.turns 2 2

def removesBobsPolicy (event : Event) : Bool :=
  match event with
  | ⟨.commitRemoval user policy, .ok _⟩ => user.email == "bob@example.com" && policy.id == 1
  | _ => false

def answerOf (config : PolicyServer) (thread : Nat) :
    Option ((Request × Operation) × Except Failure Response) :=
  (config.threads[thread]?).bind fun running =>
    running.result.map fun result => (running.request, result)

theorem present_of_answer {config : PolicyServer} {thread : Nat} {served : Request × Operation}
    {result : Except Failure Response} (answered : answerOf config thread = some (served, result)) :
    config.threads[thread]? = some ⟨served, .done result⟩ := by
  obtain ⟨⟨served', program⟩, present, isResult⟩ := Option.bind_eq_some_iff.mp answered
  obtain ⟨result', isDone, same⟩ := Option.map_eq_some_iff.mp isResult
  obtain ⟨rfl, rfl⟩ := Prod.mk.inj same
  rw [present]
  cases program with
  | done result => rw [Option.some.inj isDone]
  | call _ _ => cases isDone

def usesBobsPolicy (config : PolicyServer) : Bool :=
  match answerOf config 2 with
  | some ((_, .authorize email _ _ _ _), .ok (.decision holdings _)) =>
      email == "bob@example.com" && holdings.activePolicies.any (·.id == 1)
  | _ => false

def removalReturned (config : PolicyServer) : Bool :=
  config.threads.length == 2 && (config.trace 1).any removesBobsPolicy &&
    match answerOf config 1 with
    | some ((_, operation), .ok _) => isRemoval operation
    | _ => false

def onlyRemovals (config : PolicyServer) : Bool :=
  config.history.all fun entry => match entry.2.1 with
    | .commitUpdate _ _ _ _ _ => false
    | .commitActionRevocation _ _ _ _ => false
    | _ => true

theorem stale_of_checks {returned config : PolicyServer} (isReturned : removalReturned returned = true)
    (suffix : returned.history <:+ config.history) (unrestored : onlyRemovals config = true)
    (uses : usesBobsPolicy config = true) :
    ∃ removal, StaleRead returned config 1 2 removal "bob@example.com" (.policy 1) := by
  simp only [removalReturned, Bool.and_eq_true, beq_iff_eq, List.any_eq_true] at isReturned
  obtain ⟨⟨two, removal, committed, isRemoval⟩, finished⟩ := isReturned
  have removes : Removes removal "bob@example.com" (.policy 1) := by
    unfold removesBobsPolicy at isRemoval
    split at isRemoval
    · simp only [Bool.and_eq_true, beq_iff_eq] at isRemoval
      exact ⟨isRemoval.1.symm, congrArg GrantRef.policy isRemoval.2.symm⟩
    · cases isRemoval
  refine ⟨removal, ?_, committed, ⟨suffix.subset ((Config.mem_trace _ _).mp committed), removes,
    fun newer older split entry member restores => ?_⟩, two.le, ?_⟩
  · split at finished
    · rename_i request operation response answered
      exact ⟨request, operation, response, finished, present_of_answer answered⟩
    · cases finished
  · have only := List.all_eq_true.mp unrestored entry (by rw [split]; exact List.mem_append_left _ member)
    obtain ⟨thread, call, reply⟩ := entry
    cases call with
    | commitUpdate _ _ _ _ _ => cases only
    | commitActionRevocation _ _ _ _ => cases only
    | _ => exact restores
  · unfold usesBobsPolicy at uses
    split at uses
    · rename_i request email action resourceType resource context holdings allowed present
      simp only [Bool.and_eq_true, beq_iff_eq, List.any_eq_true] at uses
      obtain ⟨rfl, policy, active, isPolicy⟩ := uses
      exact ⟨request, action, resourceType, resource, context, holdings, allowed,
        present_of_answer present, policy, active, isPolicy⟩
    · cases uses

/-- The late fill brings the removed grant back for every read until it expires. -/
theorem stale_read :
    ¬ ∀ (site : Site) (start : Store), UserKeys start.database →
      ∀ returned config : PolicyServer,
        Reaches (authorizationServer site) anyCall (Config.start start) returned →
          Reaches (authorizationServer site) anyCall returned config →
            ∀ (remover reader : Nat) (removal : Event) (email : String) (grant : GrantRef),
              ¬ StaleRead returned config remover reader removal email grant := by
  intro fresh
  have run := Config.follow_reaches (authorizationServer plainSite)
    ((Config.start (Store.of superuserTables)).follow (authorizationServer plainSite)
      removeBeforeFill) readFromCache
  have isReturned : removalReturned ((Config.start (Store.of superuserTables)).follow
      (authorizationServer plainSite) removeBeforeFill) = true := by
    decide +kernel
  obtain ⟨removal, stale⟩ :=
    stale_of_checks isReturned run.history_suffix (by decide +kernel) (by decide +kernel)
  exact fresh plainSite (Store.of superuserTables) superuserTables_users _ _
    (Config.follow_reaches (authorizationServer plainSite) _ removeBeforeFill) run 1 2 removal
    "bob@example.com" (.policy 1) stale

end MysticAuth.Transactions
