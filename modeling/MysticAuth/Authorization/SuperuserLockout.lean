import MysticAuth.Authorization.GuardedUpdates
import Mathlib.Data.Finset.Card

/-!
# The last superuser assignment

A bulk removal locks the assignments while it counts them.  A single removal
and the revocation of one action only count, and commit later: what other
requests have removed in between is not in their count.
-/

set_option autoImplicit false

namespace MysticAuth.Transactions

open Python PolicyEvaluationEngine Interleaving

/-! ## What the removals delete -/

/-- The user and the policy of each assignment that a commit deletes. -/
def removedLinks (event : Event) : List (Nat × Nat) :=
  match event with
  | ⟨.commitRemoval user policy, .ok _⟩ => [(user.id, policy.id)]
  | ⟨.commitActionRevocation user policy _ _, .ok _⟩ => [(user.id, policy.id)]
  | ⟨.commitBulkRemoval items, .ok _⟩ => items.map fun item => (item.1.id, item.2.id)
  | _ => []

def editsPolicies : Call → Prop
  | .commitUpdate _ _ _ _ _ => True
  | .commitDelete _ _ _ => True
  | _ => False

def withoutLinks (database : Database) (removed : List (Nat × Nat)) : List UserPolicy :=
  database.userPolicies.filter fun link => !removed.contains (link.userId, link.policyId)

theorem withoutLinks_nil (database : Database) :
    withoutLinks database [] = database.userPolicies := by
  simp [withoutLinks]

theorem removeAssignment_links (database : Database) (userId policyId : Nat) :
    (database.removeAssignment userId policyId).userPolicies =
      withoutLinks database [(userId, policyId)] := by
  refine List.filter_congr fun link _ => ?_
  simp only [List.contains_cons, List.contains_nil, Bool.or_false]
  rfl

theorem removeAssignments_links (database : Database) (items : List (User × Policy)) :
    (removeAssignments database items).userPolicies =
      withoutLinks database (items.map fun item => (item.1.id, item.2.id)) := by
  induction items generalizing database with
  | nil => exact (withoutLinks_nil database).symm
  | cons item rest ih =>
    refine (ih _).trans ?_
    rw [withoutLinks, removeAssignment_links, withoutLinks, withoutLinks, List.filter_filter]
    refine List.filter_congr fun link _ => ?_
    simp only [List.map_cons, List.contains_cons, List.contains_nil, Bool.or_false, Bool.not_or,
      Bool.and_comm]

theorem removeAssignments_rows (database : Database) (items : List (User × Policy)) :
    (removeAssignments database items).users = database.users ∧
      (removeAssignments database items).policies = database.policies := by
  induction items generalizing database with
  | nil => exact ⟨rfl, rfl⟩
  | cons item rest ih => exact ih _

theorem removePermissions_frame (database : Database) (items : List PermissionItem) :
    removePermissions database items =
      { database with userPermissions := (removePermissions database items).userPermissions } := by
  induction items generalizing database with
  | nil => rfl
  | cons item rest ih => exact ih _

/-- Apart from the direct grants, an answer only deletes assignments, unless it edits policies. -/
theorem links_of_answer {site : Site} {thread : Nat} {call : Call} {reply : Reply call}
    {store store' : Store} (plain : ¬ editsPolicies call)
    (possible : (reply, store') ∈ outcomes site thread call store) :
    store'.database.users = store.database.users ∧
      store'.database.policies = store.database.policies ∧
        store'.database.userPolicies = withoutLinks store.database (removedLinks ⟨call, reply⟩) := by
  have unchanged (none : removedLinks ⟨call, reply⟩ = [])
      (same : applied store.database ⟨call, reply⟩ = store.database) :
      store'.database.users = store.database.users ∧
        store'.database.policies = store.database.policies ∧ store'.database.userPolicies =
          withoutLinks store.database (removedLinks ⟨call, reply⟩) := by
    rw [database_of_answer possible, same, none, withoutLinks_nil]
    exact ⟨rfl, rfl, rfl⟩
  cases call with
  | commitUpdate _ _ _ _ _ => exact absurd trivial plain
  | commitDelete _ _ _ => exact absurd trivial plain
  | commitRemoval user policy =>
    cases reply with
    | error failure => exact unchanged rfl rfl
    | ok value =>
      rw [database_of_answer possible]
      exact ⟨rfl, rfl, removeAssignment_links store.database _ _⟩
  | commitActionRevocation user policy action revokedBy =>
    cases reply with
    | error failure => exact unchanged rfl rfl
    | ok value =>
      obtain ⟨-, database, isAfter, rfl⟩ := committed_ok possible
      obtain ⟨after, isRevoked, same⟩ := Option.map_eq_some_iff.mp isAfter
      obtain ⟨-, rfl⟩ := Prod.mk.inj same
      obtain ⟨permissions, rfl, -⟩ := revokeSingleAction_eq_some _ _ _ _ _ _ isRevoked
      exact ⟨rfl, rfl,
        removeAssignment_links { store.database with userPermissions := permissions } _ _⟩
  | commitBulkRemoval items =>
    cases reply with
    | error failure => exact unchanged rfl rfl
    | ok value =>
      rw [database_of_answer possible]
      exact ⟨(removeAssignments_rows store.database _).1, (removeAssignments_rows _ _).2,
        removeAssignments_links store.database _⟩
  | commitPermissionRemoval item =>
    cases reply with
    | error failure => exact unchanged rfl rfl
    | ok value =>
      rw [database_of_answer possible]
      exact ⟨rfl, rfl, (withoutLinks_nil store.database).symm⟩
  | commitBulkPermissionRemoval items =>
    cases reply with
    | error failure => exact unchanged rfl rfl
    | ok value =>
      rw [database_of_answer possible]
      simp only [applied]
      rw [removePermissions_frame]
      exact ⟨rfl, rfl, (withoutLinks_nil store.database).symm⟩
  | _ => exact unchanged rfl rfl

theorem userHoldsPolicy_iff {database : Database} {userId policyId : Nat} :
    database.userHoldsPolicy userId policyId = true ↔
      ∃ link ∈ database.userPolicies, link.userId = userId ∧ link.policyId = policyId := by
  simp only [Database.userHoldsPolicy, List.any_eq_true, Bool.and_eq_true, beq_iff_eq]

section Answers

variable {site : Site} {thread : Nat} {call : Call} {reply : Reply call} {store store' : Store}

theorem holds_of_answer (plain : ¬ editsPolicies call)
    (possible : (reply, store') ∈ outcomes site thread call store) (userId policyId : Nat) :
    store'.database.userHoldsPolicy userId policyId = true ↔
      store.database.userHoldsPolicy userId policyId = true ∧
        (userId, policyId) ∉ removedLinks ⟨call, reply⟩ := by
  simp only [userHoldsPolicy_iff, (links_of_answer plain possible).2.2, withoutLinks,
    List.mem_filter, Bool.not_eq_true', List.contains_eq_mem, decide_eq_false_iff_not]
  constructor
  · rintro ⟨link, ⟨member, kept⟩, rfl, rfl⟩
    exact ⟨⟨link, member, rfl, rfl⟩, kept⟩
  · rintro ⟨⟨link, member, rfl, rfl⟩, kept⟩
    exact ⟨link, ⟨member, kept⟩, rfl, rfl⟩

/-! ## Locks -/

theorem committed_locks {α : Type} {waits : Bool} {after : Option (α × Database)}
    {result : Except Failure α} (possible : (result, store') ∈ committed waits thread store after) :
    store'.assignmentLocks = store.assignmentLocks.filter (·.thread != thread) := by
  cases result with
  | ok value =>
    obtain ⟨-, database, -, rfl⟩ := committed_ok possible
    rfl
  | error failure =>
    rw [committed_error possible]
    rfl

theorem mem_released {lock : AssignmentLock} {locks : List AssignmentLock} :
    lock ∈ locks.filter (·.thread != thread) ↔ lock ∈ locks ∧ lock.thread ≠ thread := by
  simp only [List.mem_filter, bne_iff_ne]

theorem not_removed {lock : AssignmentLock} (member : lock ∈ store.assignmentLocks)
    (other : lock.thread ≠ thread) {userId policyId : Nat}
    (free : store.assignmentLocked thread userId policyId = false) :
    (lock.userId, lock.policyId) ≠ (userId, policyId) := by
  intro same
  obtain ⟨rfl, rfl⟩ := Prod.mk.inj same
  have locked := List.any_eq_false.mp free lock member
  simp only [beq_self_eq_true, Bool.and_true, bne_iff_ne] at locked
  exact locked other

/-- Only the end of its own transaction drops a lock. -/
theorem lock_persists (possible : (reply, store') ∈ outcomes site thread call store)
    {lock : AssignmentLock} (member : lock ∈ store.assignmentLocks)
    (other : isRead call ∨ lock.thread ≠ thread) : lock ∈ store'.assignmentLocks := by
  have released (isEnd : ¬ isRead call)
      (locks : store'.assignmentLocks = store.assignmentLocks.filter (·.thread != thread)) :
      lock ∈ store'.assignmentLocks := by
    rw [locks]
    exact mem_released.mpr ⟨member, other.resolve_left isEnd⟩
  cases call with
  | commitUpdate _ _ _ _ _ | commitDelete _ _ _ | commitRemoval _ _ | commitActionRevocation _ _ _ _
  | commitBulkRemoval _ | commitPermissionRemoval _ | commitBulkPermissionRemoval _ =>
    simp only [outcomes] at possible
    exact released id (committed_locks possible)
  | closeSession =>
    obtain ⟨-, rfl⟩ := Prod.mk.inj (List.mem_singleton.mp possible)
    exact released id rfl
  | getHolderEmailsForUpdate policy =>
    simp only [outcomes] at possible
    split at possible
    · cases possible
    · obtain ⟨-, rfl⟩ := Prod.mk.inj (List.mem_singleton.mp possible)
      exact List.mem_append_right _ member
  | lockPolicy policy =>
    simp only [outcomes] at possible
    split at possible
    · cases possible
    · split at possible <;>
      · obtain ⟨-, rfl⟩ := Prod.mk.inj (List.mem_singleton.mp possible)
        exact member
  | _ =>
    obtain ⟨-, rfl⟩ := Prod.mk.inj (List.mem_singleton.mp possible)
    exact member

/-- A lock that is there after an answer is an old one, or one on an assignment just read. -/
theorem lock_origin (possible : (reply, store') ∈ outcomes site thread call store)
    {lock : AssignmentLock} (member : lock ∈ store'.assignmentLocks) :
    lock ∈ store.assignmentLocks ∨
      store.database.userHoldsPolicy lock.userId lock.policyId = true := by
  cases call with
  | commitUpdate _ _ _ _ _ | commitDelete _ _ _ | commitRemoval _ _ | commitActionRevocation _ _ _ _
  | commitBulkRemoval _ | commitPermissionRemoval _ | commitBulkPermissionRemoval _ =>
    simp only [outcomes] at possible
    rw [committed_locks possible] at member
    exact Or.inl (mem_released.mp member).1
  | closeSession =>
    obtain ⟨-, rfl⟩ := Prod.mk.inj (List.mem_singleton.mp possible)
    exact Or.inl (mem_released.mp member).1
  | getHolderEmailsForUpdate policy =>
    simp only [outcomes] at possible
    split at possible
    · cases possible
    · obtain ⟨-, rfl⟩ := Prod.mk.inj (List.mem_singleton.mp possible)
      refine (List.mem_append.mp member).symm.imp_right fun isNew => ?_
      obtain ⟨link, held, rfl⟩ := List.mem_map.mp isNew
      exact userHoldsPolicy_iff.mpr ⟨link, (List.mem_filter.mp held).1, rfl, rfl⟩
  | lockPolicy policy =>
    simp only [outcomes] at possible
    split at possible
    · cases possible
    · split at possible <;>
      · obtain ⟨-, rfl⟩ := Prod.mk.inj (List.mem_singleton.mp possible)
        exact Or.inl member
  | _ =>
    obtain ⟨-, rfl⟩ := Prod.mk.inj (List.mem_singleton.mp possible)
    exact Or.inl member

/-- A removal waits for the locks on its assignments. -/
theorem removed_unlocked (possible : (reply, store') ∈ outcomes site thread call store)
    {lock : AssignmentLock} (member : lock ∈ store'.assignmentLocks) :
    (lock.userId, lock.policyId) ∉ removedLinks ⟨call, reply⟩ := by
  cases call with
  | commitRemoval user policy | commitActionRevocation user policy action revokedBy =>
    simp only [outcomes] at possible
    rw [committed_locks possible] at member
    obtain ⟨old, other⟩ := mem_released.mp member
    cases reply with
    | error failure => exact List.not_mem_nil
    | ok value =>
      rw [removedLinks, List.mem_singleton]
      exact not_removed old other (committed_ok possible).1
  | commitBulkRemoval items =>
    simp only [outcomes] at possible
    rw [committed_locks possible] at member
    obtain ⟨old, other⟩ := mem_released.mp member
    cases reply with
    | error failure => exact List.not_mem_nil
    | ok value =>
      rw [removedLinks, List.mem_map]
      rintro ⟨item, listed, same⟩
      have free := List.any_eq_false.mp (committed_ok possible).1 item listed
      exact not_removed old other (Bool.eq_false_iff.mpr free) same.symm
  | _ => exact List.not_mem_nil

end Answers

/-! ## Removals in parallel -/

inductive Removal where
  | removePolicy (userEmail policyName : String)
  | revokeAction (userEmail policyName action : String)
  | bulkRemove (items : List PolicyItem)

def Removal.operation : Removal → Operation
  | .removePolicy userEmail policyName => .removePolicyFromUser userEmail policyName
  | .revokeAction userEmail policyName action =>
      .revokePolicyActionFromUser userEmail policyName action
  | .bulkRemove items => .bulkRemovePolicies items

structure SameAssignments (before after : Store) : Prop where
  users : after.database.users = before.database.users
  policies : after.database.policies = before.database.policies
  links : after.database.userPolicies = before.database.userPolicies
  locks : after.assignmentLocks = before.assignmentLocks

/-- Whatever else happens between two calls; it concerns no assignment. -/
abbrev Unrelated :=
  {change : Store → Store // ∀ store, SameAssignments store (change store)}

def removalServer (site : Site) :
    System (Request × Removal) Store Unrelated Reply Failure Response where
  handle served := handle site served.1 served.2.operation
  outcomes := outcomes site
  disturb change store := change.val store

abbrev RemovalServer := Config (Request × Removal) Store Reply Failure Response

theorem removalServer_obeys (site : Site) :
    (removalServer site).Obeys (fun served => discipline served.1 served.2.operation)
      (fun served => returns site served.2.operation) where
  programs served := handle_meets site served.1 served.2.operation
  answers served thread call store outcome possible :=
    outcomes_answer site served.1 served.2.operation thread call store outcome possible

theorem removal_plain {request : Request} {removal : Removal} {trace : List Event} {call : Call}
    (allowed : (discipline request removal.operation).allows trace call) :
    ¬ editsPolicies call := by
  intro edits
  cases call with
  | commitUpdate locked fields changedBy changeReason changeType =>
    obtain ⟨-, -, updating⟩ := allowed
    cases removal with
    | removePolicy _ _ | revokeAction _ _ _ | bulkRemove _ =>
      simp only [Removal.operation, updateAllowed] at updating
  | commitDelete policy changedBy changeReason =>
    obtain ⟨-, policyName, reason, isDeletion, -⟩ := allowed
    cases removal <;> cases isDeletion
  | _ => exact edits

/-- The keys of the tables. -/
structure TableKeys (database : Database) : Prop where
  userIds : (database.users.map User.id).Nodup
  emails : (database.users.map User.email).Nodup
  policyIds : (database.policies.map Policy.id).Nodup
  policyNames : (database.policies.map Policy.name).Nodup
  links : (database.userPolicies.map fun link => (link.userId, link.policyId)).Nodup
  linkUsers : ∀ link ∈ database.userPolicies, ∃ user ∈ database.users, user.id = link.userId

def superuserAssignments (database : Database) : List UserPolicy :=
  database.userPolicies.filter fun link => database.policies.any fun policy =>
    policy.id == link.policyId && policy.name == systemSuperuserPolicyName

/-- The users whose assignments of the policy the commits have removed. -/
def removedUsers (policyId : Nat) (history : List (Nat × Event)) : List Nat :=
  history.flatMap fun entry => ((removedLinks entry.2).filter (·.2 == policyId)).map Prod.fst

/-- The assignment that a single removal or the revocation of an action has removed. -/
def singleRemoval (event : Event) : Option (User × Policy) :=
  match event with
  | ⟨.commitRemoval user policy, .ok _⟩ => some (user, policy)
  | ⟨.commitActionRevocation user policy _ _, .ok _⟩ => some (user, policy)
  | _ => none

/-- When a single removal of a superuser commits, the commits since its count have removed the
assignments of at most as many others as it has counted, but for two. -/
def Uncontested (config : RemovalServer) (thread : Nat) (event : Event) : Prop :=
  ∀ user policy, singleRemoval event = some (user, policy) →
    policy.name = systemSuperuserPolicyName → ∀ newer older (holderCount : Nat),
      config.history = newer ++ (thread, ⟨.countAssignments policy, holderCount⟩) :: older →
        ((removedUsers policy.id newer).toFinset.erase user.id).card ≤ holderCount - 2

/-! ## What holds in every run -/

/-- A row that was read is in the tables. -/
def RowsOf (database : Database) (event : Event) : Prop :=
  match event with
  | ⟨.getByEmail _, found⟩ => ∀ user : User, found = some user → user ∈ database.users
  | ⟨.getByEmails _, users⟩ => ∀ user : User, user ∈ users → user ∈ database.users
  | ⟨.getByName _, found⟩ => ∀ policy : Policy, found = some policy → policy ∈ database.policies
  | ⟨.getPoliciesByNames _, policies⟩ =>
      ∀ policy : Policy, policy ∈ policies → policy ∈ database.policies
  | _ => True

/-- Assignments only go; a bulk removal keeps its locks while it reads, and a count is still true
of the assignments that no later commit has removed. -/
structure Kept (start : Database) (store : Store) (history : List (Nat × Event)) : Prop where
  users : store.database.users = start.users
  policies : store.database.policies = start.policies
  links : store.database.userPolicies.Sublist start.userPolicies
  rows : ∀ entry ∈ history, RowsOf start entry.2
  locked : ∀ lock ∈ store.assignmentLocks,
    store.database.userHoldsPolicy lock.userId lock.policyId = true
  selected : ∀ thread policy emails, (thread, ⟨.getHolderEmailsForUpdate policy, emails⟩) ∈ history →
    Reading (traceOf history thread) → ∀ email ∈ emails, ∃ user ∈ start.users,
      user.email = email ∧ ⟨thread, user.id, policy.id⟩ ∈ store.assignmentLocks
  counted : ∀ newer older thread policy (holderCount : Nat),
    history = newer ++ (thread, ⟨.countAssignments policy, holderCount⟩) :: older →
      ∃ holders : Finset Nat, holders.card = holderCount ∧ ∀ userId ∈ holders,
        userId ∈ removedUsers policy.id newer ∨
          store.database.userHoldsPolicy userId policy.id = true

theorem RowsOf.congr {database database' : Database} {event : Event}
    (rows : RowsOf database event) (users : database.users = database'.users)
    (policies : database.policies = database'.policies) : RowsOf database' event := by
  unfold RowsOf at rows ⊢
  rw [← users, ← policies]
  exact rows

theorem mem_removedUsers {policyId userId : Nat} {history : List (Nat × Event)} :
    userId ∈ removedUsers policyId history ↔
      ∃ entry ∈ history, (userId, policyId) ∈ removedLinks entry.2 := by
  simp [removedUsers]

section Runs

variable {site : Site} {start : Store} {before after config : RemovalServer}
variable {permits : RemovalServer → Nat → Event → Prop} {thread : Nat} {event : Event}

theorem rows_of_answer {call : Call} {reply : Reply call} {store store' : Store}
    (possible : (reply, store') ∈ outcomes site thread call store) :
    RowsOf store.database ⟨call, reply⟩ := by
  cases call with
  | getByEmail email =>
    obtain ⟨rfl, -⟩ := Prod.mk.inj (List.mem_singleton.mp possible)
    exact fun user found => List.mem_of_find?_eq_some found
  | getByEmails emails =>
    obtain ⟨rfl, -⟩ := Prod.mk.inj (List.mem_singleton.mp possible)
    exact fun user found => (List.mem_filter.mp found).1
  | getByName name =>
    obtain ⟨rfl, -⟩ := Prod.mk.inj (List.mem_singleton.mp possible)
    exact fun policy found => List.mem_of_find?_eq_some found
  | getPoliciesByNames names =>
    obtain ⟨rfl, -⟩ := Prod.mk.inj (List.mem_singleton.mp possible)
    exact fun policy found => (List.mem_filter.mp found).1
  | _ => trivial

/-- The holders that a count counts. -/
theorem holders_of_count {database : Database}
    (links : (database.userPolicies.map fun link => (link.userId, link.policyId)).Nodup)
    (policyId : Nat) :
    ∃ holders : Finset Nat, holders.card = database.countAssignments policyId ∧
      ∀ userId ∈ holders, database.userHoldsPolicy userId policyId = true := by
  have distinct : ((database.userPolicies.filter (·.policyId == policyId)).map
      UserPolicy.userId).Nodup := by
    have pairs := links.sublist (List.filter_sublist (p := (·.policyId == policyId)).map _)
    refine List.Nodup.of_map (fun userId => (userId, policyId)) ?_
    rw [List.map_map]
    refine (List.map_congr_left fun link member => ?_) ▸ pairs
    simpa using (List.mem_filter.mp member).2.symm
  refine ⟨((database.userPolicies.filter (·.policyId == policyId)).map
    UserPolicy.userId).toFinset, ?_, fun userId member => ?_⟩
  · rw [List.toFinset_card_of_nodup distinct, List.length_map]
    rfl
  · obtain ⟨link, listed, rfl⟩ := List.mem_map.mp (List.mem_toFinset.mp member)
    obtain ⟨listed, isPolicy⟩ := List.mem_filter.mp listed
    exact userHoldsPolicy_iff.mpr ⟨link, listed, rfl, by simpa using isPolicy⟩

/-- The locking query names the users it locks. -/
theorem selected_of_answer {store store' : Store} {policy : Policy} {emails : List String}
    (possible : (emails, store') ∈ outcomes site thread (.getHolderEmailsForUpdate policy) store)
    {email : String} (member : email ∈ emails) :
    ∃ user ∈ store.database.users, user.email = email ∧
      ⟨thread, user.id, policy.id⟩ ∈ store'.assignmentLocks := by
  simp only [outcomes] at possible
  split at possible
  · cases possible
  · obtain ⟨rfl, rfl⟩ := Prod.mk.inj (List.mem_singleton.mp possible)
    obtain ⟨user, isHolder, rfl⟩ := List.mem_map.mp member
    obtain ⟨listed, held⟩ := List.mem_filter.mp isHolder
    obtain ⟨link, linked, isUser, isPolicy⟩ := userHoldsPolicy_iff.mp held
    refine ⟨user, listed, rfl, List.mem_append_left _ (List.mem_map.mpr ⟨link, ?_, ?_⟩)⟩
    · exact List.mem_filter.mpr ⟨linked, by simpa using isPolicy⟩
    · rw [isUser, isPolicy]

theorem kept_start (start : Store) (free : start.assignmentLocks = []) :
    Kept start.database start [] where
  users := rfl
  policies := rfl
  links := List.Sublist.refl _
  rows entry member := by cases member
  locked lock member := by
    rw [free] at member
    cases member
  selected thread policy emails member := by cases member
  counted newer older thread policy holderCount split := by simp at split

theorem Kept.disturbed {first : Database} {store : Store} {history : List (Nat × Event)}
    (kept : Kept first store history) (change : Unrelated) :
    Kept first (change.val store) history := by
  obtain ⟨users, policies, links, locks⟩ := change.property store
  have holds (userId policyId : Nat) : (change.val store).database.userHoldsPolicy userId policyId =
      store.database.userHoldsPolicy userId policyId := by
    simp only [Database.userHoldsPolicy, links]
  refine ⟨users.trans kept.users, policies.trans kept.policies, links ▸ kept.links, kept.rows,
    fun lock member => ?_, fun thread policy emails member reading email isEmail => ?_,
    fun newer older thread policy holderCount split => ?_⟩
  · rw [holds]
    exact kept.locked lock (locks ▸ member)
  · rw [locks]
    exact kept.selected thread policy emails member reading email isEmail
  · obtain ⟨holders, isCount, counted⟩ := kept.counted newer older thread policy holderCount split
    refine ⟨holders, isCount, fun userId member => ?_⟩
    rw [holds]
    exact counted userId member

theorem Kept.answered {first : Database} {store store' : Store} {history : List (Nat × Event)}
    {call : Call} {reply : Reply call} (keys : TableKeys first) (kept : Kept first store history)
    (plain : ¬ editsPolicies call)
    (possible : (reply, store') ∈ outcomes site thread call store) :
    Kept first store' ((thread, ⟨call, reply⟩) :: history) := by
  obtain ⟨users, policies, links⟩ := links_of_answer plain possible
  refine ⟨users.trans kept.users, policies.trans kept.policies, ?_, ?_, ?_, ?_, ?_⟩
  · rw [links]
    exact List.filter_sublist.trans kept.links
  · intro entry member
    rcases List.mem_cons.mp member with rfl | old
    · exact (rows_of_answer possible).congr kept.users kept.policies
    · exact kept.rows entry old
  · intro lock member
    rw [holds_of_answer plain possible]
    refine ⟨?_, removed_unlocked possible member⟩
    exact (lock_origin possible member).elim (kept.locked lock) id
  · intro actor policy emails member reading email isEmail
    rcases List.mem_cons.mp member with same | old
    · obtain ⟨rfl, same⟩ := Prod.mk.inj same
      cases same
      obtain ⟨user, listed, rest⟩ := selected_of_answer possible isEmail
      exact ⟨user, kept.users ▸ listed, rest⟩
    · by_cases isActor : thread = actor
      · subst isActor
        rw [traceOf_cons_self] at reading
        have earlier : Reading (traceOf history thread) := fun event member =>
          reading event (List.mem_cons_of_mem _ member)
        obtain ⟨user, listed, isUser, lock⟩ :=
          kept.selected thread policy emails old earlier email isEmail
        exact ⟨user, listed, isUser,
          lock_persists possible lock (Or.inl (reading _ List.mem_cons_self))⟩
      · rw [traceOf_cons_ne history isActor] at reading
        obtain ⟨user, listed, isUser, lock⟩ :=
          kept.selected actor policy emails old reading email isEmail
        exact ⟨user, listed, isUser, lock_persists possible lock (Or.inr (Ne.symm isActor))⟩
  · intro newer older actor policy holderCount split
    cases newer with
    | nil =>
      obtain ⟨same, -⟩ := List.cons.inj split
      obtain ⟨rfl, same⟩ := Prod.mk.inj same
      cases same
      obtain ⟨rfl, rfl⟩ := Prod.mk.inj (List.mem_singleton.mp possible)
      obtain ⟨holders, isCount, counted⟩ :=
        holders_of_count (keys.links.sublist (kept.links.map _)) policy.id
      exact ⟨holders, isCount, fun userId member => Or.inr (counted userId member)⟩
    | cons head newer =>
      obtain ⟨isHead, older'⟩ := List.cons.inj split
      obtain ⟨holders, isCount, counted⟩ :=
        kept.counted newer older actor policy holderCount older'
      refine ⟨holders, isCount, fun userId member => ?_⟩
      simp only [holds_of_answer plain possible, mem_removedUsers, List.mem_cons,
        exists_eq_or_imp, ← isHead]
      rcases counted userId member with removed | held
      · exact Or.inl (Or.inr (mem_removedUsers.mp removed))
      · exact (Decidable.em _).imp Or.inl fun kept => ⟨held, kept⟩

theorem kept_along (keys : TableKeys start.database) (free : start.assignmentLocks = [])
    (run : Reaches (removalServer site) permits (Config.start start) config) :
    Kept start.database config.state config.history := by
  refine run.keeps (Kept start.database) (kept_start start free)
    (fun change store history kept => kept.disturbed change) ?_
  rintro before after thread event earlier answers kept
  obtain ⟨served, next, running⟩ := answers.running
  have allowed := (earlier.disciplined (removalServer_obeys site) start).allows running
  exact kept.answered keys (removal_plain allowed) answers.possible

/-! ## Somebody is left -/

/-- Fewer items than holders leave one of the locked holders out. -/
theorem holder_left {emails : List String} {items : List (User × Policy)}
    (leaves : leavesHolder emails items) (nonempty : emails ≠ []) :
    ∃ email ∈ emails, ∀ item ∈ items, item.2.name = systemSuperuserPolicyName →
      item.1.email ≠ email := by
  by_contra covered
  push Not at covered
  have within : emails.dedup ⊆
      (items.filter (isSuperuserItem emails)).map fun item => item.1.email := by
    intro email member
    have isEmail := List.mem_dedup.mp member
    obtain ⟨item, listed, named, rfl⟩ := covered email isEmail
    refine List.mem_map.mpr ⟨item, List.mem_filter.mpr ⟨listed, ?_⟩, rfl⟩
    simp [isSuperuserItem, named, isEmail]
  have fewer := (List.subperm_of_subset (List.nodup_dedup emails) within).length_le
  rw [List.length_map, ← List.countP_eq_length_filter] at fewer
  have positive : 0 < emails.dedup.length := by
    rw [List.length_pos_iff, Ne, List.dedup_eq_nil]
    exact nonempty
  unfold leavesHolder at leaves
  omega

theorem removed_cases {pair : Nat × Nat} (removed : pair ∈ removedLinks event) :
    (∃ user policy, singleRemoval event = some (user, policy) ∧ pair = (user.id, policy.id)) ∨
      ∃ items done, event = ⟨.commitBulkRemoval items, .ok done⟩ ∧
        ∃ item ∈ items, pair = (item.1.id, item.2.id) := by
  unfold removedLinks at removed
  split at removed
  · exact Or.inl ⟨_, _, rfl, List.mem_singleton.mp removed⟩
  · exact Or.inl ⟨_, _, rfl, List.mem_singleton.mp removed⟩
  · obtain ⟨item, listed, rfl⟩ := List.mem_map.mp removed
    exact Or.inr ⟨_, _, rfl, item, listed, rfl⟩
  · cases removed

theorem single_links {user : User} {policy : Policy}
    (isRemoval : singleRemoval event = some (user, policy)) :
    removedLinks event = [(user.id, policy.id)] := by
  unfold singleRemoval at isRemoval
  split at isRemoval
  · cases isRemoval
    rfl
  · cases isRemoval
    rfl
  · cases isRemoval

theorem single_allowed {request : Request} {operation : Operation} {trace : List Event}
    {user : User} {policy : Policy} (isRemoval : singleRemoval event = some (user, policy))
    (allowed : (discipline request operation).allows trace event.1) :
    removalAllowed trace user policy := by
  unfold singleRemoval at isRemoval
  split at isRemoval
  · cases isRemoval
    exact allowed.2
  · cases isRemoval
    exact allowed.2.1
  · cases isRemoval

/-- An uncontested single removal leaves another holder. -/
theorem single_spares {first : Database} {user : User} {policy : Policy}
    (kept : Kept first before.state before.history)
    (allowed : removalAllowed (before.trace thread) user policy)
    (named : policy.name = systemSuperuserPolicyName)
    (isRemoval : singleRemoval event = some (user, policy))
    (uncontested : Uncontested before thread event) :
    ∃ userId, userId ≠ user.id ∧
      before.state.database.userHoldsPolicy userId policy.id = true := by
  obtain ⟨-, -, counts⟩ := allowed
  obtain ⟨holderCount, counted, several⟩ := counts named
  obtain ⟨newer, older, split⟩ := List.append_of_mem ((Config.mem_trace _ _).mp counted)
  obtain ⟨holders, isCount, still⟩ := kept.counted newer older thread policy holderCount split
  have fewer := uncontested user policy isRemoval named newer older holderCount split
  by_contra alone
  push Not at alone
  have within : holders ⊆
      insert user.id ((removedUsers policy.id newer).toFinset.erase user.id) := by
    intro userId member
    rw [Finset.mem_insert, Finset.mem_erase, List.mem_toFinset]
    by_cases isUser : userId = user.id
    · exact Or.inl isUser
    · exact Or.inr ⟨isUser, (still userId member).resolve_right (alone userId isUser)⟩
  have atMost := (Finset.card_le_card within).trans (Finset.card_insert_le _ _)
  omega

/-- A bulk removal leaves one of the holders it has locked. -/
theorem bulk_spares {first : Database} {items : List (User × Policy)} {superuser : Policy}
    (keys : TableKeys first) (isPolicy : superuser ∈ first.policies)
    (named : superuser.name = systemSuperuserPolicyName)
    (kept : Kept first before.state before.history)
    (nonempty : ∀ entry ∈ before.history, ∀ emails,
      entry.2 = ⟨.getHolderEmailsForUpdate superuser, emails⟩ → emails ≠ [])
    (reading : Reading (before.trace thread)) (allowed : BulkAllowed (before.trace thread) items)
    {item : User × Policy} (listed : item ∈ items) (isItem : item.2.id = superuser.id) :
    ∃ userId, before.state.database.userHoldsPolicy userId superuser.id = true ∧
      ∀ other ∈ items, (other.1.id, other.2.id) ≠ (userId, superuser.id) := by
  -- the rows of the items and of the locked policy
  have isRow (policy : Policy) (names : List String) (policies : List Policy)
      (read : ⟨.getPoliciesByNames names, policies⟩ ∈ before.trace thread)
      (member : policy ∈ policies) : policy ∈ first.policies :=
    kept.rows _ ((Config.mem_trace _ _).mp read) policy member
  have isSuperuser (other : User × Policy) (member : other ∈ items)
      (sameId : other.2.id = superuser.id) : other.2 = superuser := by
    obtain ⟨names, policies, read, inPolicies⟩ := allowed.policies other member
    exact List.inj_on_of_nodup_map keys.policyIds (isRow _ names policies read inPolicies)
      isPolicy sameId
  obtain ⟨policy, emails, locked, ⟨names, policies, read, inPolicies⟩, isName, leaves⟩ :=
    allowed.superusers item listed (by rw [isSuperuser item listed isItem, named])
  obtain rfl : policy = superuser :=
    List.inj_on_of_nodup_map keys.policyNames (isRow _ names policies read inPolicies) isPolicy
      (isName.trans named.symm)
  have member := (Config.mem_trace _ _).mp locked
  obtain ⟨email, isEmail, spared⟩ := holder_left leaves (nonempty _ member emails rfl)
  obtain ⟨user, isUser, rfl, lock⟩ := kept.selected thread policy emails member reading email isEmail
  refine ⟨user.id, kept.locked _ lock, fun other inItems same => ?_⟩
  obtain ⟨sameUser, samePolicy⟩ := Prod.mk.inj same
  obtain ⟨emails', users, read', inUsers⟩ := allowed.users other inItems
  have sameRow : other.1 = user := List.inj_on_of_nodup_map keys.userIds
    (kept.rows _ ((Config.mem_trace _ _).mp read') _ inUsers) isUser sameUser
  exact spared other inItems (by rw [isSuperuser other inItems samePolicy, named])
    (congrArg User.email sameRow)

/-- One holder is left, and whoever has locked the holders has found one. -/
structure Survives (superuser : Policy) (store : Store) (history : List (Nat × Event)) : Prop where
  held : ∃ userId, store.database.userHoldsPolicy userId superuser.id = true
  nonempty : ∀ entry ∈ history, ∀ emails,
    entry.2 = ⟨.getHolderEmailsForUpdate superuser, emails⟩ → emails ≠ []

theorem holder_found {store store' : Store} {superuser : Policy} {emails : List String}
    (linkUsers : ∀ link ∈ store.database.userPolicies,
      ∃ user ∈ store.database.users, user.id = link.userId)
    (held : ∃ userId, store.database.userHoldsPolicy userId superuser.id = true)
    (possible : (emails, store') ∈ outcomes site thread (.getHolderEmailsForUpdate superuser) store) :
    emails ≠ [] := by
  simp only [outcomes] at possible
  split at possible
  · cases possible
  · obtain ⟨rfl, -⟩ := Prod.mk.inj (List.mem_singleton.mp possible)
    obtain ⟨userId, isHeld⟩ := held
    obtain ⟨link, linked, rfl, -⟩ := userHoldsPolicy_iff.mp isHeld
    obtain ⟨user, listed, isUser⟩ := linkUsers link linked
    refine List.ne_nil_of_mem (List.mem_map_of_mem (List.mem_filter.mpr ⟨listed, ?_⟩))
    rw [isUser]
    exact isHeld

theorem survives_answer {superuser : Policy} (keys : TableKeys start.database)
    (isPolicy : superuser ∈ start.database.policies)
    (named : superuser.name = systemSuperuserPolicyName)
    (kept : Kept start.database before.state before.history)
    (run : Reaches (removalServer site) permits (Config.start start) before)
    (answers : Answers (removalServer site) Uncontested before after thread event)
    (survives : Survives superuser before.state before.history) :
    Survives superuser after.state after.history := by
  obtain ⟨served, next, running⟩ := answers.running
  have allowed := (run.disciplined (removalServer_obeys site) start).allows running
  have holds := holds_of_answer (removal_plain allowed) answers.possible
  constructor
  · obtain ⟨holder, held⟩ := survives.held
    by_cases removed : (holder, superuser.id) ∈ removedLinks event
    · rcases removed_cases removed with ⟨user, policy, isRemoval, same⟩ | ⟨items, done, rfl, isItem⟩
      · obtain ⟨-, samePolicy⟩ := Prod.mk.inj same
        have removing := single_allowed isRemoval allowed
        obtain ⟨name, read⟩ := removing.2.1
        obtain rfl : policy = superuser := List.inj_on_of_nodup_map keys.policyIds
          (kept.rows _ ((Config.mem_trace _ _).mp read) policy rfl) isPolicy samePolicy.symm
        obtain ⟨other, differs, held'⟩ :=
          single_spares kept removing named isRemoval answers.permitted
        refine ⟨other, (holds other policy.id).mpr ⟨held', ?_⟩⟩
        rw [single_links isRemoval, List.mem_singleton]
        exact fun same => differs (Prod.mk.inj same).1
      · obtain ⟨item, listed, same⟩ := isItem
        obtain ⟨reading, bulk⟩ := allowed
        obtain ⟨other, held', spared⟩ := bulk_spares keys isPolicy named kept survives.nonempty
          reading bulk listed (Prod.mk.inj same).2.symm
        refine ⟨other, (holds other superuser.id).mpr ⟨held', ?_⟩⟩
        rw [removedLinks, List.mem_map]
        rintro ⟨other', listed', same'⟩
        exact spared other' listed' same'
    · exact ⟨holder, (holds holder superuser.id).mpr ⟨held, removed⟩⟩
  · rw [answers.recorded]
    intro entry member emails isEntry
    rcases List.mem_cons.mp member with rfl | old
    · simp only at isEntry
      subst isEntry
      have possible : (emails, after.state) ∈ outcomes site thread
          (.getHolderEmailsForUpdate superuser) before.state := answers.possible
      refine holder_found (fun link linked => ?_) survives.held possible
      rw [kept.users]
      exact keys.linkUsers link (kept.links.subset linked)
    · exact survives.nonempty entry old emails isEntry

theorem superuserAssignments_ne_nil {database : Database} :
    superuserAssignments database ≠ [] ↔
      ∃ superuser ∈ database.policies, superuser.name = systemSuperuserPolicyName ∧
        ∃ userId, database.userHoldsPolicy userId superuser.id = true := by
  simp only [superuserAssignments, ne_eq, List.filter_eq_nil_iff, not_forall, not_not,
    List.any_eq_true, Bool.and_eq_true, beq_iff_eq, userHoldsPolicy_iff]
  constructor
  · rintro ⟨link, linked, policy, listed, isPolicy, named⟩
    exact ⟨policy, listed, named, link.userId, link, linked, rfl, isPolicy.symm⟩
  · rintro ⟨policy, listed, named, userId, link, linked, -, isPolicy⟩
    exact ⟨link, linked, policy, listed, isPolicy.symm, named⟩

/-- In every run of removals in which a single removal of a superuser commits only while the
commits since its count have left it another holder, somebody holds the policy. -/
theorem last_superuser_kept (site : Site) (start : Store) (keys : TableKeys start.database)
    (free : start.assignmentLocks = []) (held : superuserAssignments start.database ≠ [])
    (run : Reaches (removalServer site) Uncontested (Config.start start) config) :
    superuserAssignments config.state.database ≠ [] := by
  obtain ⟨superuser, isPolicy, named, holder⟩ := superuserAssignments_ne_nil.mp held
  have survives : Survives superuser config.state config.history := by
    refine run.preserves (fun config => Survives superuser config.state config.history)
      ⟨holder, fun entry member => by cases member⟩ fun before after earlier survives step => ?_
    rcases step.cases_answers with ⟨history, same | ⟨change, same⟩⟩ | ⟨thread, event, answers⟩
    · rw [history, same]
      exact survives
    · rw [history, same]
      obtain ⟨userId, isHeld⟩ := survives.held
      refine ⟨⟨userId, ?_⟩, survives.nonempty⟩
      simp only [Database.userHoldsPolicy, removalServer, (change.property before.state).links]
      exact isHeld
    · exact survives_answer keys isPolicy named (kept_along keys free earlier) earlier answers
        survives
  refine superuserAssignments_ne_nil.mpr ⟨superuser, ?_, named, survives.held⟩
  rw [(kept_along keys free run).policies]
  exact isPolicy

end Runs

/-! ## Superusers who remove each other -/

/-- Ann and Bob are the superusers. -/
def superuserTables : Database where
  users := [⟨1, "ann@example.com", .user⟩, ⟨2, "bob@example.com", .user⟩]
  policies :=
    [⟨1, systemSuperuserPolicyName, none, ["policies:revoke"], "policies", .null, true, none⟩]
  userPolicies := [⟨1, 1, none⟩, ⟨2, 1, none⟩]
  userPermissions := []
  policyHistory := []
  nextPolicyId := 2
  nextHistoryId := 1

theorem superuserTables_keys : TableKeys (Store.of superuserTables).database where
  userIds := by decide
  emails := by decide
  policyIds := by decide
  policyNames := by decide
  links := by decide
  linkUsers := by simp [superuserTables, Store.of]

/-- So is Cara. -/
def threeSuperusers : Database :=
  { superuserTables with
    users := superuserTables.users ++ [⟨3, "cara@example.com", .user⟩]
    userPolicies := superuserTables.userPolicies ++ [⟨3, 1, none⟩] }

theorem threeSuperusers_keys : TableKeys (Store.of threeSuperusers).database where
  userIds := by decide
  emails := by decide
  policyIds := by decide
  policyNames := by decide
  links := by decide
  linkUsers := by simp [threeSuperusers, superuserTables, Store.of]

def removes (caller userEmail : String) : Request × Removal :=
  (⟨caller, "203.0.113.7", "2026-01-01T00:00:00", "2026-01-01T00:00:00"⟩,
    .removePolicy userEmail systemSuperuserPolicyName)

/-- Ann removes Bob while Bob removes Cara, and both have counted three before either commits. -/
def removeInARow : List (Move (Request × Removal) Unrelated) :=
  .begin (removes "ann@example.com" "bob@example.com") :: Move.turns 0 7 ++
    .begin (removes "bob@example.com" "cara@example.com") :: Move.turns 1 7 ++
      Move.turns 0 1 ++ Move.turns 1 1

/-- Of no count too many others have been removed. -/
def uncontestedCheck (config : RemovalServer) (_ : Nat) (event : Event) : Bool :=
  (singleRemoval event).all fun (user, policy) => config.history.all fun entry =>
    match entry.2 with
    | ⟨.countAssignments _, holderCount⟩ =>
        decide (((removedUsers policy.id config.history).toFinset.erase user.id).card ≤
          (holderCount : Nat) - 2)
    | _ => true

theorem uncontested_of_check (config : RemovalServer) (thread : Nat) (event : Event)
    (passed : uncontestedCheck config thread event = true) : Uncontested config thread event := by
  intro user policy isRemoval named newer older holderCount split
  rw [uncontestedCheck, isRemoval, Option.all_some, List.all_eq_true] at passed
  have few := of_decide_eq_true
    (passed (thread, ⟨.countAssignments policy, holderCount⟩) (by simp [split]))
  refine (Finset.card_le_card (Finset.erase_subset_erase _ fun userId removed => ?_)).trans few
  rw [List.mem_toFinset] at removed ⊢
  obtain ⟨entry, member, isRemoved⟩ := mem_removedUsers.mp removed
  exact mem_removedUsers.mpr ⟨entry, by simp [split, member], isRemoved⟩

/-- Ann stays a superuser, and she alone. -/
theorem last_superuser_kept_ann :
    superuserAssignments ((Config.start (Store.of threeSuperusers)).follow
        (removalServer plainSite) removeInARow).state.database = [⟨1, 1, none⟩] ∧
      superuserAssignments ((Config.start (Store.of threeSuperusers)).follow
        (removalServer plainSite) removeInARow).state.database ≠ [] :=
  ⟨by decide +kernel,
    last_superuser_kept plainSite (Store.of threeSuperusers) threeSuperusers_keys rfl (by decide)
      (Config.follow_permitted (removalServer plainSite) uncontestedCheck uncontested_of_check _
        removeInARow (by decide +kernel))⟩

/-- Both have counted two before either commits. -/
def removeEachOther : List (Move (Request × Removal) Unrelated) :=
  .begin (removes "ann@example.com" "bob@example.com") :: Move.turns 0 7 ++
    .begin (removes "bob@example.com" "ann@example.com") :: Move.turns 1 7 ++
      Move.turns 0 1 ++ Move.turns 1 1

/-- Two superusers who remove each other at the same time leave none. -/
theorem last_superuser_lost :
    ¬ ∀ (site : Site) (start : Store), TableKeys start.database → start.assignmentLocks = [] →
      superuserAssignments start.database ≠ [] → ∀ config : RemovalServer,
        Reaches (removalServer site) anyCall (Config.start start) config →
          superuserAssignments config.state.database ≠ [] := by
  intro kept
  refine kept plainSite (Store.of superuserTables) superuserTables_keys rfl (by decide) _
    (Config.follow_reaches (removalServer plainSite) _ removeEachOther) ?_
  decide +kernel

end MysticAuth.Transactions
