import MysticAuth.Authorization.TableConstraints
import MysticAuth.Authorization.TransactionRoutes

/-!
# What the routes do before and after they commit

Each route reads, then commits once, then invalidates.  The discipline says
what a route has read, counted, locked and passed to the guard when it
commits; the results say which keys it has invalidated when it returns.
-/

set_option autoImplicit false

namespace MysticAuth.Transactions

open Python PolicyEvaluationEngine Interleaving

/-! ## Traces -/

/-- A call that neither commits nor ends a transaction nor writes to the cache. -/
def isRead : Call → Prop
  | .commitUpdate _ _ _ _ _ => False
  | .commitDelete _ _ _ => False
  | .commitRemoval _ _ => False
  | .commitActionRevocation _ _ _ _ => False
  | .commitBulkRemoval _ => False
  | .commitPermissionRemoval _ => False
  | .commitBulkPermissionRemoval _ => False
  | .closeSession => False
  | .setUserPolicies _ _ => False
  | .deleteUserPolicies _ => False
  | .scanUserPolicies => False
  | .setUserPermissions _ _ => False
  | .deleteUserPermissions _ => False
  | _ => True

def Reading (trace : List Event) : Prop :=
  ∀ event ∈ trace, isRead event.1

/-- The guard has let the proposal pass on behalf of the caller. -/
def Guarded (caller : String) (trace : List Event) (proposal : Proposal) : Prop :=
  ∃ context cache cache', ⟨.assertAuthorizedToGrant caller context proposal cache,
    (.ok (), cache')⟩ ∈ trace

/-- The proposals that a request has passed to the guard are these. -/
def GuardedExactly (caller : String) (trace : List Event) (proposals : List Proposal) :
    Prop :=
  ∀ proposal, Guarded caller trace proposal ↔ proposal ∈ proposals

/-- The definition that an update makes of a row; `none` is a null in a required column. -/
def targetProposal (policy : Policy) (fields : Database.PolicyFields) : Option Proposal := do
  let actions ← Database.setColumn policy.actions fields.actions
  let resourceType ← Database.setColumn policy.resourceType fields.resourceType
  some ⟨actions, resourceType, fields.conditions.getD policy.conditions⟩

/-- What an update of the row passes to the guard. -/
def updateGuards (policy : Policy) (fields : Database.PolicyFields) : List Proposal :=
  (if touchesGrants fields || deactivates fields then [policy.proposal] else []) ++
    if touchesGrants fields then (targetProposal policy fields).toList else []

/-! ## The discipline -/

/-- The row that was first read was locked, with these guards in between. -/
def LockedAfterGuards (caller policyName : String) (guards : Policy → List Proposal)
    (trace : List Event) (locked : Policy) : Prop :=
  ∃ policy, ⟨.getByName policyName, some policy⟩ ∈ trace ∧
    ⟨.lockPolicy policy, some locked⟩ ∈ trace ∧ GuardedExactly caller trace (guards policy)

def updateAllowed (request : Request) (operation : Operation) (trace : List Event)
    (locked : Policy) (fields : Database.PolicyFields) : Prop :=
  match operation with
  | .updatePolicy policyName fields' _ => fields = dedupeFields fields' ∧
      LockedAfterGuards request.caller policyName (updateGuards · fields) trace locked
  | .rollbackPolicy policyName historyId _ => ∃ entry,
      ⟨.getHistoryById historyId, some entry⟩ ∈ trace ∧
        fields = rollbackFields entry.definition ∧
          LockedAfterGuards request.caller policyName
            (fun policy => [policy.proposal, rollbackProposal policy entry.definition]) trace locked
  | _ => False

/-- The request has read these rows, and has counted a superuser's peers. -/
def removalAllowed (trace : List Event) (user : User) (policy : Policy) : Prop :=
  (∃ email, ⟨.getByEmail email, some user⟩ ∈ trace) ∧
    (∃ name, ⟨.getByName name, some policy⟩ ∈ trace) ∧
      (policy.name = systemSuperuserPolicyName →
        ∃ holderCount : Nat, ⟨.countAssignments policy, holderCount⟩ ∈ trace ∧ 2 ≤ holderCount)

def isSuperuserItem (superuserHolderEmails : List String) (item : User × Policy) : Bool :=
  item.2.name == systemSuperuserPolicyName && superuserHolderEmails.contains item.1.email

/-- At least one holder is not among the items. -/
def leavesHolder (superuserHolderEmails : List String) (items : List (User × Policy)) : Prop :=
  items.countP (isSuperuserItem superuserHolderEmails) = 0 ∨
    items.countP (isSuperuserItem superuserHolderEmails) < superuserHolderEmails.dedup.length

structure BulkAllowed (trace : List Event) (items : List (User × Policy)) : Prop where
  users : ∀ item ∈ items, ∃ emails users, ⟨.getByEmails emails, users⟩ ∈ trace ∧ item.1 ∈ users
  policies : ∀ item ∈ items, ∃ names policies,
    ⟨.getPoliciesByNames names, policies⟩ ∈ trace ∧ item.2 ∈ policies
  superusers : ∀ item ∈ items, item.2.name = systemSuperuserPolicyName →
    ∃ policy superuserHolderEmails,
      ⟨.getHolderEmailsForUpdate policy, superuserHolderEmails⟩ ∈ trace ∧
        (∃ names policies, ⟨.getPoliciesByNames names, policies⟩ ∈ trace ∧ policy ∈ policies) ∧
          policy.name = systemSuperuserPolicyName ∧ leavesHolder superuserHolderEmails items

def discipline (request : Request) (operation : Operation) : Discipline Reply where
  allows trace call := match call with
    | .commitUpdate locked fields changedBy _ _ => Reading trace ∧ changedBy = request.caller ∧
        updateAllowed request operation trace locked fields
    | .commitDelete policy _ _ => Reading trace ∧
        ∃ policyName reason, operation = .deletePolicy policyName reason ∧
          ⟨.getByName policyName, some policy⟩ ∈ trace
    | .commitRemoval user policy => Reading trace ∧ removalAllowed trace user policy
    | .commitActionRevocation user policy action _ => Reading trace ∧
        removalAllowed trace user policy ∧ action ∈ policy.actions
    | .commitBulkRemoval items => Reading trace ∧ BulkAllowed trace items
    | .commitPermissionRemoval item => Reading trace ∧
        ∃ email, ⟨.getByEmail email, some item.user⟩ ∈ trace
    | .commitBulkPermissionRemoval items => Reading trace ∧ ∀ item ∈ items,
        ∃ emails users, ⟨.getByEmails emails, users⟩ ∈ trace ∧ item.user ∈ users
    | _ => True
  answers
    | .getByName name, found => ∀ policy, found = some policy → policy.name = name
    | .lockPolicy policy, found => ∀ locked, found = some locked → locked.id = policy.id
    | .commitUpdate locked fields _ _ _, result =>
        ∀ updated, result = .ok updated → fields.apply locked = some updated
    | .heldPolicies items, held => held.Sublist items
    | .heldPermissions items, held => held ⊆ items
    | _, _ => True

/-! ## Removed grants and deleted keys -/

/-- What a user's decisions are evaluated on: a policy he holds, or a direct grant. -/
inductive GrantRef where
  | policy (id : Nat)
  | permission (action resourceType : String)
  deriving DecidableEq

/-- The commit takes the grant from the user; a policy that is switched off or deleted is taken
from everybody. -/
def Removes (event : Event) (email : String) (grant : GrantRef) : Prop :=
  match event with
  | ⟨.commitUpdate _ _ _ _ _, .ok updated⟩ => updated.isActive = false ∧ grant = .policy updated.id
  | ⟨.commitDelete policy _ _, .ok _⟩ => grant = .policy policy.id
  | ⟨.commitRemoval user policy, .ok _⟩ => email = user.email ∧ grant = .policy policy.id
  | ⟨.commitActionRevocation user policy _ _, .ok _⟩ =>
      email = user.email ∧ grant = .policy policy.id
  | ⟨.commitBulkRemoval items, .ok _⟩ =>
      ∃ item ∈ items, email = item.1.email ∧ grant = .policy item.2.id
  | ⟨.commitPermissionRemoval item, .ok _⟩ =>
      email = item.user.email ∧ grant = .permission item.action item.resourceType
  | ⟨.commitBulkPermissionRemoval items, .ok _⟩ =>
      ∃ item ∈ items, email = item.user.email ∧ grant = .permission item.action item.resourceType
  | _ => False

/-- The cached grants of the user are gone, or a scan of all of them has not found any. -/
def Invalidated (site : Site) (trace : List Event) (email : String) : GrantRef → Prop
  | .policy _ =>
      (∃ keys, ⟨.deleteUserPolicies keys, ()⟩ ∈ trace ∧ site.keys.userPoliciesKey email ∈ keys) ∨
        ∃ found : List String, ⟨.scanUserPolicies, found⟩ ∈ trace ∧
          site.keys.userPoliciesKey email ∉ found
  | .permission _ _ =>
      ∃ keys, ⟨.deleteUserPermissions keys, ()⟩ ∈ trace ∧
        site.keys.userPermissionsKey email ∈ keys

/-- The read has got these grants from the cache or from the tables. -/
structure ReadBy (site : Site) (trace : List Event) (email : String)
    (holdings : Holdings) : Prop where
  policies :
    ⟨.getUserPolicies (site.keys.userPoliciesKey email), some holdings.activePolicies⟩ ∈ trace ∨
      ⟨.selectPolicies email, holdings.activePolicies⟩ ∈ trace
  permissions :
    ⟨.getUserPermissions (site.keys.userPermissionsKey email),
        some holdings.activePermissions⟩ ∈ trace ∨
      ⟨.selectPermissions email, holdings.activePermissions⟩ ∈ trace

/-- What a result says about the calls made for it. -/
def returns (site : Site) (operation : Operation) (result : Except Failure Response)
    (trace : List Event) : Prop :=
  match operation, result with
  | .authorize email _ _ _ _, .ok (.decision holdings _) => ReadBy site trace email holdings
  | .authorize _ _ _ _ _, _ => True
  | _, .error _ => True
  | _, .ok _ => ∀ event ∈ trace, ∀ email grant, Removes event email grant →
      Invalidated site trace email grant

/-! ## Reading -/

section Steps

variable {request : Request} {operation : Operation} {trace later : List Event}
variable {α : Type}

theorem lift_meets {result : Except Failure α} {post : Except Failure α → List Event → Prop}
    (raised : ∀ failure, post (.error failure) trace)
    (next : ∀ value, result = .ok value → post (.ok value) trace) :
    (lift result).Meets (discipline request operation) post trace := by
  cases result with
  | error failure => exact raised failure
  | ok value => exact next value rfl

theorem read_meets {call : Call} (reads : isRead call) {result : Reply call → Except Failure α}
    {post : Except Failure α → List Event → Prop}
    (next : ∀ reply, (discipline request operation).answers call reply →
      post (result reply) (⟨call, reply⟩ :: trace)) :
    (execute call result).Meets (discipline request operation) post trace := by
  refine ⟨?_, next⟩
  cases call <;> trivial

theorem reading_cons {call : Call} {reply : Reply call} (reads : isRead call)
    (reading : Reading trace) : Reading (⟨call, reply⟩ :: trace) := by
  intro event member
  rcases List.mem_cons.mp member with rfl | old
  · exact reads
  · exact reading event old

theorem reading_nil : Reading [] := by
  intro event member
  cases member

/-- Later calls, which read and have let exactly these proposals pass. -/
structure Extends (caller : String) (trace later : List Event)
    (proposals : List Proposal) : Prop where
  suffix : trace <:+ later
  reading : Reading trace → Reading later
  guarded : ∀ earlier, GuardedExactly caller trace earlier →
    GuardedExactly caller later (earlier ++ proposals)

theorem Extends.mem {caller : String} {proposals : List Proposal} {event : Event}
    (extension : Extends caller trace later proposals) (member : event ∈ trace) : event ∈ later :=
  extension.suffix.subset member

theorem Extends.refl (caller : String) (trace : List Event) :
    Extends caller trace trace [] where
  suffix := List.suffix_refl _
  reading reading := reading
  guarded earlier guarded := by simpa using guarded

theorem Extends.trans {caller : String} {last : List Event}
    {proposals proposals' : List Proposal} (first : Extends caller trace later proposals)
    (second : Extends caller later last proposals') :
    Extends caller trace last (proposals ++ proposals') where
  suffix := first.suffix.trans second.suffix
  reading reading := second.reading (first.reading reading)
  guarded earlier guarded := by
    simpa using second.guarded _ (first.guarded earlier guarded)

def isGuard : Call → Prop
  | .assertAuthorizedToGrant _ _ _ _ => True
  | _ => False

theorem Extends.plain {caller : String} {call : Call} {reply : Reply call} (reads : isRead call)
    (plain : ¬ isGuard call) : Extends caller trace (⟨call, reply⟩ :: trace) [] where
  suffix := List.suffix_cons _ _
  reading := reading_cons reads
  guarded earlier guarded proposal := by
    rw [List.append_nil, ← guarded proposal]
    constructor
    · rintro ⟨context, cache, cache', member⟩
      rcases List.mem_cons.mp member with same | old
      · obtain rfl := congrArg Sigma.fst same
        exact absurd trivial plain
      · exact ⟨context, cache, cache', old⟩
    · rintro ⟨context, cache, cache', member⟩
      exact ⟨context, cache, cache', List.mem_cons_of_mem _ member⟩

theorem Extends.guard {caller : String} {context : Option Dict} {proposal : Proposal}
    {cache cache' : Option GrantCache} :
    Extends caller trace (⟨.assertAuthorizedToGrant caller context proposal cache,
      (.ok (), cache')⟩ :: trace) [proposal] where
  suffix := List.suffix_cons _ _
  reading := reading_cons trivial
  guarded earlier guarded other := by
    rw [List.mem_append, List.mem_singleton, ← guarded other]
    constructor
    · rintro ⟨context', cache₁, cache₂, member⟩
      rcases List.mem_cons.mp member with same | old
      · injection same with isCall
        injection isCall with _ _ isProposal
        exact Or.inr isProposal
      · exact Or.inl ⟨context', cache₁, cache₂, old⟩
    · rintro (⟨context', cache₁, cache₂, member⟩ | rfl)
      · exact ⟨context', cache₁, cache₂, List.mem_cons_of_mem _ member⟩
      · exact ⟨context, cache, cache', List.mem_cons_self⟩

/-! ## The shared steps -/

section Shared

variable {request : Request} {operation : Operation} {trace : List Event}

theorem requireAuthorization_meets (permission : Permission) (resourceType : String)
    {post : Except Failure Unit → List Event → Prop}
    (raised : ∀ failure later, post (.error failure) later)
    (next : ∀ later, Extends request.caller trace later [] → post (.ok ()) later) :
    (requireAuthorization request permission resourceType).Meets (discipline request operation)
      post trace := by
  rw [requireAuthorization, Program.meets_bind]
  refine read_meets (by trivial) fun allowed _ => ?_
  exact lift_meets (fun failure => raised failure _) fun _ _ => next _ (.plain trivial id)

theorem requireGrant_meets (proposal : Proposal)
    {post : Except Failure Unit → List Event → Prop}
    (raised : ∀ failure later, post (.error failure) later)
    (next : ∀ later, Extends request.caller trace later [proposal] → post (.ok ()) later) :
    (requireGrant request proposal).Meets (discipline request operation) post trace := by
  rw [requireGrant]
  refine read_meets (by trivial) fun reply _ => ?_
  obtain ⟨verdict, cache⟩ := reply
  cases verdict with
  | error failure => exact raised failure _
  | ok _ => exact next _ .guard

theorem findUser_meets (userEmail : String) {post : Except Failure User → List Event → Prop}
    (raised : ∀ failure later, post (.error failure) later)
    (next : ∀ user later, Extends request.caller trace later [] →
      ⟨.getByEmail userEmail, some user⟩ ∈ later → post (.ok user) later) :
    (findUser userEmail).Meets (discipline request operation) post trace := by
  rw [findUser]
  refine read_meets (by trivial) fun reply _ => ?_
  cases reply with
  | none => exact raised _ _
  | some user => exact next user _ (.plain trivial id) List.mem_cons_self

theorem findPolicy_meets (policyName : String)
    {post : Except Failure Policy → List Event → Prop}
    (raised : ∀ failure later, post (.error failure) later)
    (next : ∀ policy later, Extends request.caller trace later [] →
      ⟨.getByName policyName, some policy⟩ ∈ later → policy.name = policyName →
        post (.ok policy) later) :
    (findPolicy policyName).Meets (discipline request operation) post trace := by
  rw [findPolicy]
  refine read_meets (by trivial) fun reply answered => ?_
  cases reply with
  | none => exact raised _ _
  | some policy =>
    exact next policy _ (.plain trivial id) List.mem_cons_self (answered policy rfl)

theorem refuseTakenName_meets (policy : Policy) (fields : Database.PolicyFields)
    {post : Except Failure Unit → List Event → Prop}
    (raised : ∀ failure later, post (.error failure) later)
    (next : ∀ later, Extends request.caller trace later [] → post (.ok ()) later) :
    (refuseTakenName policy fields).Meets (discipline request operation) post trace := by
  unfold refuseTakenName
  split
  · split
    · refine read_meets (by trivial) fun existing _ => ?_
      cases refuseIf (Option.isSome existing) (policyNameExists _) with
      | error failure => exact raised failure _
      | ok _ => exact next _ (.plain trivial id)
    · exact next _ (.refl _ _)
  · exact next _ (.refl _ _)

theorem guardCurrent_meets (policy : Policy) (fields : Database.PolicyFields)
    {post : Except Failure Unit → List Event → Prop}
    (raised : ∀ failure later, post (.error failure) later)
    (next : ∀ later, Extends request.caller trace later
      (if touchesGrants fields || deactivates fields then [policy.proposal] else []) →
        post (.ok ()) later) :
    (guardCurrent request policy fields).Meets (discipline request operation) post trace := by
  unfold guardCurrent
  split at next
  · rename_i checked
    rw [if_pos checked]
    exact requireGrant_meets policy.proposal raised next
  · rename_i unchecked
    rw [if_neg unchecked]
    exact next _ (.refl _ _)

theorem guardTarget_meets (policy : Policy) (fields : Database.PolicyFields)
    {post : Except Failure Unit → List Event → Prop}
    (raised : ∀ failure later, post (.error failure) later)
    (next : ∀ later, Extends request.caller trace later
      (if touchesGrants fields then (targetProposal policy fields).toList else []) →
        post (.ok ()) later) :
    (guardTarget request policy fields).Meets (discipline request operation) post trace := by
  unfold guardTarget
  split at next
  · rename_i touches
    rw [if_pos touches, Program.meets_bind]
    simp only [fieldOr]
    cases isActions : Database.setColumn policy.actions fields.actions with
    | none => exact raised _ _
    | some actions =>
      cases isType : Database.setColumn policy.resourceType fields.resourceType with
      | none => exact raised _ _
      | some resourceType =>
        simp only [targetProposal, isActions, isType, Option.bind_eq_bind, Option.bind_some,
          Option.toList_some] at next
        exact requireGrant_meets _ raised next
  · rename_i untouched
    rw [if_neg untouched]
    exact next _ (.refl _ _)

end Shared

/-! ## After the commit -/

def Silent (event : Event) : Prop :=
  ∀ email grant, ¬ Removes event email grant

theorem silent_of_read {call : Call} (reads : isRead call) (reply : Reply call) :
    Silent ⟨call, reply⟩ := by
  intro email grant removed
  cases call <;> trivial

/-- Later calls that remove nothing. -/
structure Follows (trace later : List Event) : Prop where
  suffix : trace <:+ later
  silent : ∀ event ∈ later, event ∈ trace ∨ Silent event

theorem Follows.refl (trace : List Event) : Follows trace trace :=
  ⟨List.suffix_refl _, fun _ member => Or.inl member⟩

theorem Follows.trans {last : List Event} (first : Follows trace later)
    (second : Follows later last) : Follows trace last := by
  refine ⟨first.suffix.trans second.suffix, fun event member => ?_⟩
  rcases second.silent event member with earlier | silent
  · exact first.silent event earlier
  · exact Or.inr silent

theorem Follows.cons {event : Event} (silent : Silent event) :
    Follows trace (event :: trace) := by
  refine ⟨List.suffix_cons _ _, fun other member => ?_⟩
  rcases List.mem_cons.mp member with rfl | old
  · exact Or.inr silent
  · exact Or.inl old

theorem invalidated_later {site : Site} {email : String} {grant : GrantRef}
    (gone : Invalidated site trace email grant) (suffix : trace <:+ later) :
    Invalidated site later email grant := by
  cases grant with
  | policy policyId =>
    rcases gone with ⟨keys, deleted, isKey⟩ | ⟨found, scanned, missing⟩
    · exact Or.inl ⟨keys, suffix.subset deleted, isKey⟩
    · exact Or.inr ⟨found, suffix.subset scanned, missing⟩
  | permission action resourceType =>
    obtain ⟨keys, deleted, isKey⟩ := gone
    exact ⟨keys, suffix.subset deleted, isKey⟩

/-- A commit whose grants are all invalidated afterwards is all the request has removed. -/
theorem invalidated_of_follows {site : Site} {commit : Event} (reading : Reading trace)
    (follows : Follows (commit :: trace) later)
    (invalidated : ∀ email grant, Removes commit email grant →
      Invalidated site later email grant) :
    ∀ event ∈ later, ∀ email grant, Removes event email grant →
      Invalidated site later email grant := by
  intro event member email grant removed
  rcases follows.silent event member with earlier | silent
  · rcases List.mem_cons.mp earlier with rfl | before
    · exact invalidated email grant removed
    · exact absurd removed (silent_of_read (reading event before) event.2 email grant)
  · exact absurd removed (silent email grant)

theorem nothing_removed {site : Site} (silent : ∀ event ∈ trace, Silent event) :
    ∀ event ∈ trace, ∀ email grant, Removes event email grant →
      Invalidated site trace email grant :=
  fun event member email grant removed => absurd removed (silent event member email grant)

section Flushes

variable {request : Request} {operation : Operation} {trace : List Event}
variable {post : Except Failure Unit → List Event → Prop}

theorem invalidateUserPolicies_meets (site : Site) (emails : List String)
    (next : ∀ later, Follows trace later → (∀ email ∈ emails, ∀ policyId,
      Invalidated site later email (.policy policyId)) → post (.ok ()) later) :
    (invalidateUserPolicies site emails).Meets (discipline request operation) post trace := by
  unfold invalidateUserPolicies
  split
  · rename_i empty
    refine next _ (.refl _) fun email member => ?_
    rw [List.isEmpty_iff.mp empty] at member
    cases member
  · refine ⟨trivial, fun reply _ => next _ (.cons fun _ _ removed => removed) ?_⟩
    intro email member policyId
    exact Or.inl ⟨_, List.mem_cons_self, List.mem_map_of_mem member⟩

theorem invalidateUserPermissions_meets (site : Site) (emails : List String)
    (next : ∀ later, Follows trace later → (∀ email ∈ emails, ∀ action resourceType,
      Invalidated site later email (.permission action resourceType)) → post (.ok ()) later) :
    (invalidateUserPermissions site emails).Meets (discipline request operation) post trace := by
  unfold invalidateUserPermissions
  split
  · rename_i empty
    refine next _ (.refl _) fun email member => ?_
    rw [List.isEmpty_iff.mp empty] at member
    cases member
  · refine ⟨trivial, fun reply _ => next _ (.cons fun _ _ removed => removed) ?_⟩
    intro email member action resourceType
    exact ⟨_, List.mem_cons_self, List.mem_map_of_mem member⟩

def Deleted (trace : List Event) (key : String) : Prop :=
  ∃ keys, ⟨.deleteUserPolicies keys, ()⟩ ∈ trace ∧ key ∈ keys

theorem deleteInBatches_meets (keys batch : List String)
    (next : ∀ later, Follows trace later → (∀ key ∈ batch ++ keys, Deleted later key) →
      post (.ok ()) later) :
    (deleteInBatches keys batch).Meets (discipline request operation) post trace := by
  induction keys generalizing batch trace with
  | nil =>
    unfold deleteInBatches
    split
    · rename_i empty
      refine next _ (.refl _) fun key member => ?_
      rw [List.isEmpty_iff.mp empty] at member
      cases member
    · refine ⟨trivial, fun reply _ => next _ (.cons fun _ _ removed => removed) ?_⟩
      intro key member
      rw [List.append_nil] at member
      exact ⟨batch, List.mem_cons_self, member⟩
  | cons key keys ih =>
    unfold deleteInBatches
    split
    · rw [Program.meets_bind]
      refine ⟨trivial, fun reply _ => ih [] fun later follows deleted => ?_⟩
      have first : Follows trace (⟨.deleteUserPolicies (batch ++ [key]), reply⟩ :: trace) :=
        .cons fun _ _ removed => removed
      refine next _ (first.trans follows) fun other member => ?_
      rw [List.append_cons batch key keys, List.mem_append] at member
      rcases member with inBatch | inKeys
      · exact ⟨_, follows.suffix.subset List.mem_cons_self, inBatch⟩
      · exact deleted other inKeys
    · refine ih (batch ++ [key]) fun later follows deleted => next _ follows ?_
      intro other member
      rw [List.append_cons] at member
      exact deleted other member

theorem invalidateAllUserPolicies_meets (site : Site)
    (next : ∀ later, Follows trace later → (∀ email policyId,
      Invalidated site later email (.policy policyId)) → post (.ok ()) later) :
    invalidateAllUserPolicies.Meets (discipline request operation) post trace := by
  rw [invalidateAllUserPolicies, Program.meets_bind]
  refine ⟨trivial, fun found _ => deleteInBatches_meets found [] fun later follows deleted => ?_⟩
  have scanned : Follows trace (⟨.scanUserPolicies, found⟩ :: trace) :=
    .cons fun _ _ removed => removed
  refine next _ (scanned.trans follows) fun email policyId => ?_
  by_cases listed : site.keys.userPoliciesKey email ∈ found
  · exact Or.inl (deleted _ listed)
  · exact Or.inr ⟨found, follows.suffix.subset List.mem_cons_self, listed⟩

end Flushes

/-! ## Updates -/

section Updates

variable {request : Request} {operation : Operation} {trace : List Event}

theorem update_meets (site : Site) (policy : Policy) (fields : Database.PolicyFields)
    (changeReason : Option String) (changeType : PolicyChangeType)
    {post : Except Failure Policy → List Event → Prop} (reading : Reading trace)
    (allowed : ∀ locked later, Extends request.caller trace later [] →
      ⟨.lockPolicy policy, some locked⟩ ∈ later →
        updateAllowed request operation later locked fields)
    (raised : ∀ failure later, post (.error failure) later)
    (next : ∀ refreshed later, (∀ event ∈ later, ∀ email grant, Removes event email grant →
      Invalidated site later email grant) → post (.ok refreshed) later) :
    (update policy fields request.caller changeReason changeType).Meets
      (discipline request operation) post trace := by
  rw [update, Program.meets_bind]
  refine read_meets (by trivial) fun found _ => ?_
  cases found with
  | none => exact raised _ _
  | some locked =>
    have lockedRow : Extends request.caller trace (⟨.lockPolicy policy, some locked⟩ :: trace) [] :=
      .plain trivial id
    simp only [getOr404]
    rw [Program.meets_bind, execute, Program.meets_attempt]
    refine ⟨⟨lockedRow.reading reading, rfl, allowed locked _ lockedRow List.mem_cons_self⟩,
      fun result _ => ?_⟩
    cases result with
    | error failure => exact raised _ _
    | ok updated =>
      simp only [id_eq]
      rw [Program.meets_bind]
      refine read_meets (by trivial) fun refreshed? _ => ?_
      cases refreshed? with
      | none => exact raised _ _
      | some refreshed =>
        simp only
        rw [Program.meets_bind]
        refine invalidateAllUserPolicies_meets site fun later follows invalidated => ?_
        refine next refreshed later (invalidated_of_follows (lockedRow.reading reading)
          ((Follows.cons (silent_of_read (by trivial) _)).trans follows) fun email grant removed => ?_)
        obtain ⟨-, rfl⟩ := removed
        exact invalidated email updated.id

theorem updatePolicy_meets (site : Site) (policyName : String) (fields : Database.PolicyFields)
    (changeReason : Option String) :
    (updatePolicy site request policyName fields changeReason).Meets
      (discipline request (.updatePolicy policyName fields changeReason))
      (returns site (.updatePolicy policyName fields changeReason)) [] := by
  rw [updatePolicy, Program.meets_bind]
  refine requireAuthorization_meets _ _ (fun _ _ => trivial) fun later₁ authorized => ?_
  simp only
  rw [Program.meets_bind]
  refine findPolicy_meets policyName (fun _ _ => trivial) fun policy later₂ found read _ => ?_
  simp only
  rw [Program.meets_bind]
  refine lift_meets (fun _ => trivial) fun _ _ => ?_
  simp only
  rw [Program.meets_bind]
  refine lift_meets (fun _ => trivial) fun _ _ => ?_
  simp only
  rw [Program.meets_bind]
  refine refuseTakenName_meets policy _ (fun _ _ => trivial) fun later₃ free => ?_
  simp only
  rw [Program.meets_bind]
  refine lift_meets (fun _ => trivial) fun _ _ => ?_
  simp only
  rw [Program.meets_bind]
  refine guardCurrent_meets policy _ (fun _ _ => trivial) fun later₄ current => ?_
  simp only
  rw [Program.meets_bind]
  refine guardTarget_meets policy _ (fun _ _ => trivial) fun later₅ target => ?_
  simp only
  rw [Program.meets_bind]
  have whole := (((authorized.trans found).trans free).trans current).trans target
  refine update_meets site policy _ changeReason .updated (whole.reading reading_nil) ?_
    (fun _ _ => trivial) fun _ _ invalidated => invalidated
  intro locked later lockedRow isLocked
  refine ⟨rfl, policy, ?_, isLocked, ?_⟩
  · exact lockedRow.mem (target.mem (current.mem (free.mem read)))
  · have guarded := (whole.trans lockedRow).guarded [] fun proposal => by
      simp [Guarded]
    simpa [updateGuards] using guarded

theorem rollbackPolicy_meets (site : Site) (policyName : String) (historyId : Nat)
    (reason : Option String) :
    (rollbackPolicy site request policyName historyId reason).Meets
      (discipline request (.rollbackPolicy policyName historyId reason))
      (returns site (.rollbackPolicy policyName historyId reason)) [] := by
  rw [rollbackPolicy, Program.meets_bind]
  refine requireAuthorization_meets _ _ (fun _ _ => trivial) fun later₁ authorized => ?_
  simp only
  rw [Program.meets_bind]
  refine findPolicy_meets policyName (fun _ _ => trivial) fun policy later₂ found read _ => ?_
  simp only
  rw [Program.meets_bind]
  refine read_meets (by trivial) fun entry? _ => ?_
  match entry? with
  | none => trivial
  | some entry =>
    have recorded : Extends request.caller later₂
        (⟨.getHistoryById historyId, some entry⟩ :: later₂) [] := .plain trivial id
    simp only [getOr404]
    rw [Program.meets_bind]
    refine lift_meets (fun _ => trivial) fun _ _ => ?_
    simp only
    rw [Program.meets_bind]
    refine lift_meets (fun _ => trivial) fun _ _ => ?_
    simp only
    rw [Program.meets_bind]
    refine lift_meets (fun _ => trivial) fun _ _ => ?_
    simp only
    rw [Program.meets_bind]
    refine lift_meets (fun _ => trivial) fun _ _ => ?_
    simp only
    rw [Program.meets_bind]
    refine requireGrant_meets _ (fun _ _ => trivial) fun later₃ current => ?_
    simp only
    rw [Program.meets_bind]
    refine requireGrant_meets _ (fun _ _ => trivial) fun later₄ target => ?_
    simp only
    rw [Program.meets_bind]
    have whole := (((authorized.trans found).trans recorded).trans current).trans target
    refine update_meets site policy _ _ .rolledBack (whole.reading reading_nil) ?_
      (fun _ _ => trivial) fun _ _ invalidated => invalidated
    intro locked later lockedRow isLocked
    refine ⟨entry, ?_, rfl, policy, ?_, isLocked, ?_⟩
    · exact lockedRow.mem (target.mem (current.mem List.mem_cons_self))
    · exact lockedRow.mem (target.mem (current.mem (recorded.mem read)))
    · have guarded := (whole.trans lockedRow).guarded [] fun proposal => by
        simp [Guarded]
      simpa using guarded

theorem deletePolicy_meets (site : Site) (policyName : String) (reason : Option String) :
    (deletePolicy request policyName reason).Meets
      (discipline request (.deletePolicy policyName reason))
      (returns site (.deletePolicy policyName reason)) [] := by
  rw [deletePolicy, Program.meets_bind]
  refine requireAuthorization_meets _ _ (fun _ _ => trivial) fun later₁ authorized => ?_
  simp only
  rw [Program.meets_bind]
  refine findPolicy_meets policyName (fun _ _ => trivial) fun policy later₂ found read _ => ?_
  simp only
  rw [Program.meets_bind]
  refine lift_meets (fun _ => trivial) fun _ _ => ?_
  simp only
  rw [Program.meets_bind]
  refine lift_meets (fun _ => trivial) fun _ _ => ?_
  simp only
  rw [Program.meets_bind]
  refine requireGrant_meets _ (fun _ _ => trivial) fun later₃ guarded => ?_
  simp only
  rw [Program.meets_bind, execute, Program.meets_attempt]
  have reading := ((authorized.trans found).trans guarded).reading reading_nil
  refine ⟨⟨reading, policyName, reason, rfl, guarded.mem read⟩, fun result _ => ?_⟩
  match result with
  | .error failure => trivial
  | .ok () =>
    simp only [id_eq]
    rw [Program.meets_bind]
    refine invalidateAllUserPolicies_meets site fun later follows invalidated => ?_
    refine invalidated_of_follows reading follows fun email grant removed => ?_
    obtain rfl : grant = .policy policy.id := removed
    exact invalidated email policy.id

end Updates

/-! ## Single removals -/

section Removals

variable {request : Request} {operation : Operation} {trace : List Event}

theorem refuseLockout_meets (userEmail policyName : String) (user : User) (policy : Policy)
    (isPolicy : policy.name = policyName) {post : Except Failure Unit → List Event → Prop}
    (raised : ∀ failure later, post (.error failure) later)
    (next : ∀ later, Extends request.caller trace later [] →
      (policy.name = systemSuperuserPolicyName → ∃ holderCount : Nat,
        ⟨.countAssignments policy, holderCount⟩ ∈ later ∧ 2 ≤ holderCount) → post (.ok ()) later) :
    (refuseLockout userEmail policyName user policy).Meets (discipline request operation) post
      trace := by
  rw [refuseLockout, Program.meets_bind]
  refine read_meets (by trivial) fun held _ => ?_
  simp only
  rw [Program.meets_bind]
  refine lift_meets (fun failure => raised failure _) fun _ _ => ?_
  have looked : Extends request.caller trace (⟨.userHoldsPolicy user policy, held⟩ :: trace) [] :=
    .plain trivial id
  by_cases isSuperuser : policyName = systemSuperuserPolicyName
  · simp only [isSuperuser, beq_self_eq_true, if_true]
    rw [Program.meets_bind]
    refine read_meets (by trivial) fun holderCount _ => ?_
    refine lift_meets (fun failure => raised failure _) fun _ passed => ?_
    refine next _ (looked.trans (.plain trivial id)) fun _ => ⟨holderCount, List.mem_cons_self, ?_⟩
    have several := refuseIf_ok _ _ _ passed
    exact Nat.lt_of_not_le (of_decide_eq_false several)
  · simp only [beq_iff_eq, isSuperuser, if_false]
    exact next _ looked fun named => absurd (isPolicy.symm.trans named) isSuperuser

theorem removePolicyFromUser_meets (site : Site) (userEmail policyName : String) :
    (removePolicyFromUser site request userEmail policyName).Meets
      (discipline request (.removePolicyFromUser userEmail policyName))
      (returns site (.removePolicyFromUser userEmail policyName)) [] := by
  rw [removePolicyFromUser, Program.meets_bind]
  refine requireAuthorization_meets _ _ (fun _ _ => trivial) fun later₁ authorized => ?_
  simp only
  rw [Program.meets_bind]
  refine findUser_meets userEmail (fun _ _ => trivial) fun user later₂ foundUser readUser => ?_
  simp only
  rw [Program.meets_bind]
  refine findPolicy_meets policyName (fun _ _ => trivial)
    fun policy later₃ foundPolicy readPolicy isPolicy => ?_
  simp only
  rw [Program.meets_bind]
  refine lift_meets (fun _ => trivial) fun _ _ => ?_
  simp only
  rw [Program.meets_bind]
  refine requireGrant_meets _ (fun _ _ => trivial) fun later₄ guarded => ?_
  simp only
  rw [Program.meets_bind]
  refine refuseLockout_meets userEmail policyName user policy isPolicy (fun _ _ => trivial)
    fun later₅ counted severalHolders => ?_
  simp only
  rw [Program.meets_bind]
  refine read_meets (by trivial) fun held _ => ?_
  have looked : Extends request.caller later₅ (⟨.userHoldsPolicy user policy, held⟩ :: later₅) [] :=
    .plain trivial id
  simp only
  rw [Program.meets_bind]
  refine lift_meets (fun _ => trivial) fun _ _ => ?_
  simp only
  rw [Program.meets_bind, execute, Program.meets_attempt]
  have since := (guarded.trans counted).trans looked
  have reading := (((authorized.trans foundUser).trans foundPolicy).trans since).reading reading_nil
  refine ⟨⟨reading, ⟨userEmail, since.mem (foundPolicy.mem readUser)⟩,
    ⟨policyName, since.mem readPolicy⟩, fun named => ?_⟩, fun result _ => ?_⟩
  · obtain ⟨holderCount, isCount, several⟩ := severalHolders named
    exact ⟨holderCount, looked.mem isCount, several⟩
  · match result with
    | .error failure => trivial
    | .ok () =>
      simp only [id_eq]
      rw [Program.meets_bind]
      refine invalidateUserPolicies_meets site [user.email] fun later follows invalidated => ?_
      refine invalidated_of_follows reading follows fun email grant removed => ?_
      obtain ⟨rfl, rfl⟩ := removed
      exact invalidated _ (List.mem_singleton_self _) policy.id

theorem revokePolicyActionFromUser_meets (site : Site) (userEmail policyName action : String) :
    (revokePolicyActionFromUser site request userEmail policyName action).Meets
      (discipline request (.revokePolicyActionFromUser userEmail policyName action))
      (returns site (.revokePolicyActionFromUser userEmail policyName action)) [] := by
  rw [revokePolicyActionFromUser, Program.meets_bind]
  refine requireAuthorization_meets _ _ (fun _ _ => trivial) fun later₀ allowed => ?_
  simp only
  rw [Program.meets_bind]
  refine requireAuthorization_meets _ _ (fun _ _ => trivial) fun later₁ authorized => ?_
  simp only
  rw [Program.meets_bind]
  refine findUser_meets userEmail (fun _ _ => trivial) fun user later₂ foundUser readUser => ?_
  simp only
  rw [Program.meets_bind]
  refine findPolicy_meets policyName (fun _ _ => trivial)
    fun policy later₃ foundPolicy readPolicy isPolicy => ?_
  simp only
  rw [Program.meets_bind]
  refine lift_meets (fun _ => trivial) fun _ _ => ?_
  simp only
  rw [Program.meets_bind]
  refine requireGrant_meets _ (fun _ _ => trivial) fun later₄ guarded => ?_
  simp only
  rw [Program.meets_bind]
  refine refuseLockout_meets userEmail policyName user policy isPolicy (fun _ _ => trivial)
    fun later₅ counted severalHolders => ?_
  simp only
  rw [Program.meets_bind]
  refine lift_meets (fun _ => trivial) fun _ isAction => ?_
  simp only
  rw [Program.meets_bind]
  refine read_meets (by trivial) fun held _ => ?_
  have looked : Extends request.caller later₅ (⟨.userHoldsPolicy user policy, held⟩ :: later₅) [] :=
    .plain trivial id
  simp only
  rw [Program.meets_bind]
  refine lift_meets (fun _ => trivial) fun _ _ => ?_
  simp only
  rw [Program.meets_bind, execute, Program.meets_attempt]
  have since := (guarded.trans counted).trans looked
  have reading :=
    ((((allowed.trans authorized).trans foundUser).trans foundPolicy).trans since).reading
      reading_nil
  refine ⟨⟨reading, ⟨⟨userEmail, since.mem (foundPolicy.mem readUser)⟩,
    ⟨policyName, since.mem readPolicy⟩, fun named => ?_⟩, ?_⟩, fun result _ => ?_⟩
  · obtain ⟨holderCount, isCount, several⟩ := severalHolders named
    exact ⟨holderCount, looked.mem isCount, several⟩
  · simpa using refuseIf_ok _ _ _ isAction
  · match result with
    | .error failure => trivial
    | .ok () =>
      simp only [id_eq]
      rw [Program.meets_bind]
      refine invalidateUserPolicies_meets site [user.email] fun later₆ follows invalidated => ?_
      simp only
      rw [Program.meets_bind]
      refine invalidateUserPermissions_meets site [user.email] fun later₇ follows' _ => ?_
      refine invalidated_of_follows reading (follows.trans follows') fun email grant removed => ?_
      obtain ⟨rfl, rfl⟩ := removed
      exact invalidated_later (invalidated _ (List.mem_singleton_self _) policy.id) follows'.suffix

theorem revokePermissionFromUser_meets (site : Site) (userEmail action resourceType : String) :
    (revokePermissionFromUser site request userEmail action resourceType).Meets
      (discipline request (.revokePermissionFromUser userEmail action resourceType))
      (returns site (.revokePermissionFromUser userEmail action resourceType)) [] := by
  rw [revokePermissionFromUser, Program.meets_bind]
  refine requireAuthorization_meets _ _ (fun _ _ => trivial) fun later₁ authorized => ?_
  simp only
  rw [Program.meets_bind]
  refine findUser_meets userEmail (fun _ _ => trivial) fun user later₂ foundUser readUser => ?_
  simp only
  rw [Program.meets_bind]
  refine lift_meets (fun _ => trivial) fun _ _ => ?_
  simp only
  rw [Program.meets_bind]
  refine requireGrant_meets _ (fun _ _ => trivial) fun later₃ guarded => ?_
  simp only
  rw [Program.meets_bind]
  refine read_meets (by trivial) fun held _ => ?_
  have looked : Extends request.caller later₃
      (⟨.holdsPermission ⟨user, action, resourceType⟩, held⟩ :: later₃) [] := .plain trivial id
  simp only
  rw [Program.meets_bind]
  refine lift_meets (fun _ => trivial) fun _ _ => ?_
  simp only
  rw [Program.meets_bind, execute, Program.meets_attempt]
  have reading := (((authorized.trans foundUser).trans guarded).trans looked).reading reading_nil
  refine ⟨⟨reading, userEmail, looked.mem (guarded.mem readUser)⟩, fun result _ => ?_⟩
  match result with
  | .error failure => trivial
  | .ok () =>
    simp only [id_eq]
    rw [Program.meets_bind]
    refine invalidateUserPermissions_meets site [user.email] fun later follows invalidated => ?_
    refine invalidated_of_follows reading follows fun email grant removed => ?_
    obtain ⟨rfl, rfl⟩ := removed
    exact invalidated _ (List.mem_singleton_self _) action resourceType

end Removals

/-! ## Bulk removals -/

section Bulk

variable {request : Request} {operation : Operation} {trace : List Event}

theorem guardItem_confined (proposal : Proposal) (cache : GrantCache) :
    (guardItem request proposal cache).Confined isRead := by
  refine Program.confined_bind _ _ ⟨trivial, fun _ => trivial⟩ fun reply => ?_
  obtain ⟨verdict, cache'⟩ := reply
  match verdict with
  | .ok () => trivial
  | .error (.app _) => trivial
  | .error .unhandled => trivial

/-- The items that were resolved come from the rows that were read. -/
theorem resolvePolicyItem_meets (users : List User) (policies : List Policy) (item : PolicyItem)
    (cache : GrantCache)
    {post : Except Failure (Except String (User × Policy) × GrantCache) → List Event → Prop}
    (reading : Reading trace) (raised : ∀ failure later, post (.error failure) later)
    (next : ∀ (resolved : Except String (User × Policy)) cache' later, trace <:+ later →
      Reading later → (∀ user policy, resolved = .ok (user, policy) → user ∈ users ∧
        policy ∈ policies ∧ policy.name = item.policyName) → post (.ok (resolved, cache')) later) :
    (resolvePolicyItem request users policies item cache).Meets (discipline request operation)
      post trace := by
  have refused (code : String) : post (.ok (.error code, cache)) trace :=
    next (.error code) cache trace (List.suffix_refl _) reading fun _ _ same => by cases same
  unfold resolvePolicyItem
  cases isUser : users.find? (·.email == item.userEmail) with
  | none => exact refused _
  | some user =>
    simp only
    cases isPolicy : policies.find? (·.name == item.policyName) with
    | none => exact refused _
    | some policy =>
      simp only
      split
      · exact refused _
      · rw [Program.meets_bind]
        refine (guardItem_confined policy.proposal cache).meets
          (fun later _ call reads => ?_) fun result added reads => ?_
        · cases call <;> trivial
        · have reading' : Reading (added ++ trace) := by
            intro event member
            rcases List.mem_append.mp member with new | old
            · exact reads event new
            · exact reading event old
          match result with
          | .error failure => exact raised failure _
          | .ok (passed, cache') =>
            refine next _ cache' _ (List.suffix_append _ _) reading' fun user' policy' same => ?_
            cases passed with
            | false => cases same
            | true =>
              cases same
              exact ⟨List.mem_of_find?_eq_some isUser, List.mem_of_find?_eq_some isPolicy,
                by simpa using List.find?_some isPolicy⟩

theorem stageItems_meets (users : List User) (policies : List Policy)
    (superuserHolderEmails : List String) (items : List PolicyItem) (staged : Nat)
    (cache : GrantCache)
    {post : Except Failure (List (User × Policy) × List BulkItemResult) →
      List Event → Prop}
    (reading : Reading trace) (raised : ∀ failure later, post (.error failure) later)
    (next : ∀ validItems errors later, trace <:+ later → Reading later →
      (∀ item ∈ validItems, item.1 ∈ users ∧ item.2 ∈ policies) →
        (validItems.countP (isSuperuserItem superuserHolderEmails) = 0 ∨
          staged + validItems.countP (isSuperuserItem superuserHolderEmails) <
            superuserHolderEmails.dedup.length) → post (.ok (validItems, errors)) later) :
    (stageItems request users policies superuserHolderEmails items staged cache).Meets
      (discipline request operation) post trace := by
  induction items generalizing staged cache trace post with
  | nil =>
    exact next [] [] trace (List.suffix_refl _) reading (fun _ member => by cases member)
      (Or.inl rfl)
  | cons item rest ih =>
    unfold stageItems
    rw [Program.meets_bind]
    refine resolvePolicyItem_meets users policies item cache reading raised
      fun resolved cache' later suffix reading' isResolved => ?_
    match resolved with
    | .error code =>
      simp only
      rw [Program.meets_bind]
      refine ih staged cache' reading' raised fun validItems errors last suffix' reading''
        isRead counted => ?_
      exact next validItems _ last (suffix.trans suffix') reading'' isRead counted
    | .ok (user, policy) =>
      obtain ⟨inUsers, inPolicies, named⟩ := isResolved user policy rfl
      have both {validItems : List (User × Policy)}
          (isRead : ∀ item ∈ validItems, item.1 ∈ users ∧ item.2 ∈ policies) :
          ∀ item ∈ (user, policy) :: validItems, item.1 ∈ users ∧ item.2 ∈ policies := by
        intro other member
        rcases List.mem_cons.mp member with rfl | old
        · exact ⟨inUsers, inPolicies⟩
        · exact isRead other old
      have sameItem : isSuperuserItem superuserHolderEmails (user, policy) =
          (item.policyName == systemSuperuserPolicyName &&
            superuserHolderEmails.contains user.email) := by
        rw [isSuperuserItem, named]
      simp only
      split
      · rename_i isSuperuser
        rw [isSuperuser] at sameItem
        split
        · rw [Program.meets_bind]
          refine ih staged cache' reading' raised fun validItems errors last suffix' reading''
            isRead counted => ?_
          exact next validItems _ last (suffix.trans suffix') reading'' isRead counted
        · rename_i spare
          rw [Program.meets_bind]
          refine ih (staged + 1) cache' reading' raised fun validItems errors last suffix' reading''
            isRead counted => ?_
          refine next ((user, policy) :: validItems) errors last (suffix.trans suffix') reading''
            (both isRead) (Or.inr ?_)
          rw [List.countP_cons_of_pos sameItem]
          omega
      · rename_i ordinary
        rw [Bool.not_eq_true] at ordinary
        rw [ordinary] at sameItem
        rw [Program.meets_bind]
        refine ih staged cache' reading' raised fun validItems errors last suffix' reading''
          isRead counted => ?_
        refine next _ errors last (suffix.trans suffix') reading'' (both isRead) ?_
        rwa [List.countP_cons_of_neg (by simp [sameItem])]

theorem closeSession_meets {α : Type} {result : Except Failure α}
    {post : Except Failure α → List Event → Prop}
    (next : ∀ later, Follows trace later → post result later) :
    (perform .closeSession : Service Unit).Meets (discipline request operation)
      (fun outcome => post (afterCleanup result outcome)) trace :=
  ⟨trivial, fun _ _ => next _ (.cons fun _ _ removed => removed)⟩

theorem removeItems_meets (site : Site) (validItems : List (User × Policy))
    {post : Except Failure (List BulkItemResult) → List Event → Prop}
    (reading : Reading trace)
    (allowed : ∀ held later, trace <:+ later → held.Sublist validItems → BulkAllowed later held)
    (next : ∀ results later, (∀ event ∈ later, ∀ email grant, Removes event email grant →
      Invalidated site later email grant) → post (.ok results) later) :
    (removeItems site validItems).Meets (discipline request operation) post trace := by
  unfold removeItems
  split
  · exact next [] trace (nothing_removed fun event member =>
      silent_of_read (reading event member) event.2)
  · rw [Program.meets_bind]
    refine read_meets (by trivial) fun held isHeld => ?_
    have reading' : Reading (⟨.heldPolicies validItems, held⟩ :: trace) :=
      reading_cons trivial reading
    simp only
    rw [Program.meets_bind, perform, Program.meets_perform]
    refine ⟨⟨reading', allowed held _ (List.suffix_cons _ _) isHeld⟩, fun result _ => ?_⟩
    match result with
    | .error failure =>
      refine next _ _ (nothing_removed fun event member => ?_)
      rcases List.mem_cons.mp member with rfl | old
      · exact fun _ _ removed => removed
      · exact silent_of_read (reading' event old) event.2
    | .ok () =>
      simp only
      rw [Program.meets_bind]
      refine invalidateUserPolicies_meets site _ fun later follows invalidated => ?_
      refine next _ later (invalidated_of_follows reading' follows fun email grant removed => ?_)
      obtain ⟨item, member, rfl, rfl⟩ := removed
      exact invalidated _ (List.mem_map_of_mem member) item.2.id

/-- The rest of the request, once the holders are known. -/
def removeStaged (site : Site) (request : Request) (users : List User) (policies : List Policy)
    (superuserHolderEmails : List String) (items : List PolicyItem) : Service Response := do
  let (validItems, errors) ← stageItems request users policies superuserHolderEmails items 0 []
  let results ← removeItems site validItems
  return .bulk (errors ++ results)

theorem bulkRemovePolicies_meets (site : Site) (items : List PolicyItem) :
    (bulkRemovePolicies site request items).Meets
      (discipline request (.bulkRemovePolicies items))
      (returns site (.bulkRemovePolicies items)) [] := by
  rw [bulkRemovePolicies, Program.meets_bind]
  refine requireAuthorization_meets _ _ (fun _ _ => trivial) fun later₁ authorized => ?_
  have reading₁ := authorized.reading reading_nil
  simp only
  rw [Program.meets_finally, Program.meets_bind]
  have raised (failure : Failure) (later : List Event) :
      (perform .closeSession : Service Unit).Meets (discipline request (.bulkRemovePolicies items))
        (fun outcome => returns site (.bulkRemovePolicies items)
          (afterCleanup (.error failure) outcome)) later :=
    closeSession_meets fun _ _ => trivial
  refine read_meets (by trivial) fun users _ => ?_
  simp only
  rw [Program.meets_bind]
  refine read_meets (by trivial) fun policies _ => ?_
  simp only
  have reading₂ : Reading (⟨.getPoliciesByNames (items.map PolicyItem.policyName), policies⟩ ::
      ⟨.getByEmails (items.map PolicyItem.userEmail), users⟩ :: later₁) :=
    reading_cons trivial (reading_cons trivial reading₁)
  have rest (superuserHolderEmails : List String) (later : List Event)
      (suffix : ⟨.getPoliciesByNames (items.map PolicyItem.policyName), policies⟩ ::
        ⟨.getByEmails (items.map PolicyItem.userEmail), users⟩ :: later₁ <:+ later)
      (reading : Reading later)
      (locked : ∀ policy ∈ policies, policy.name = systemSuperuserPolicyName →
        ∃ superuserPolicy ∈ policies, superuserPolicy.name = systemSuperuserPolicyName ∧
          ⟨.getHolderEmailsForUpdate superuserPolicy, superuserHolderEmails⟩ ∈ later) :
      (removeStaged site request users policies superuserHolderEmails items).Meets
          (discipline request (.bulkRemovePolicies items))
          (fun result => (perform .closeSession : Service Unit).Meets
            (discipline request (.bulkRemovePolicies items))
            (fun outcome => returns site (.bulkRemovePolicies items) (afterCleanup result outcome)))
          later := by
    rw [removeStaged, Program.meets_bind]
    refine stageItems_meets users policies superuserHolderEmails items 0 [] reading raised
      fun validItems errors later' suffix' reading' isRead counted => ?_
    simp only
    rw [Program.meets_bind]
    refine removeItems_meets site validItems reading' (fun held last suffix'' sublist => ?_)
      fun results last invalidated => ?_
    · have mem {event : Event} (member : event ∈
          ⟨.getPoliciesByNames (items.map PolicyItem.policyName), policies⟩ ::
            ⟨.getByEmails (items.map PolicyItem.userEmail), users⟩ :: later₁) : event ∈ last :=
        suffix''.subset (suffix'.subset (suffix.subset member))
      refine ⟨fun item member => ?_, fun item member => ?_, fun item member named => ?_⟩
      · exact ⟨_, users, mem (List.mem_cons_of_mem _ List.mem_cons_self),
          (isRead item (sublist.subset member)).1⟩
      · exact ⟨_, policies, mem List.mem_cons_self, (isRead item (sublist.subset member)).2⟩
      · obtain ⟨policy, listed, isSuperuser, holders⟩ :=
          locked item.2 (isRead item (sublist.subset member)).2 named
        refine ⟨policy, superuserHolderEmails, suffix''.subset (suffix'.subset holders),
          ⟨_, policies, mem List.mem_cons_self, listed⟩, isSuperuser, ?_⟩
        have fewer : held.countP (isSuperuserItem superuserHolderEmails) ≤
            validItems.countP (isSuperuserItem superuserHolderEmails) := sublist.countP_le
        unfold leavesHolder
        omega
    · exact closeSession_meets fun final follows event member email grant removed => by
        rcases follows.silent event member with earlier | silent
        · exact invalidated_later (invalidated event earlier email grant removed) follows.suffix
        · exact absurd removed (silent email grant)
  cases isSuperuser : policies.find? (·.name == systemSuperuserPolicyName) with
  | none =>
    refine rest [] _ (List.suffix_refl _) reading₂ fun policy member named => ?_
    have absent := List.find?_eq_none.mp isSuperuser policy member
    exact absurd (by simpa using named) absent
  | some superuserPolicy =>
    simp only
    rw [Program.meets_bind]
    refine read_meets (by trivial) fun superuserHolderEmails _ => ?_
    refine rest superuserHolderEmails _ (List.suffix_cons _ _) (reading_cons trivial reading₂)
      fun policy member named => ⟨superuserPolicy, List.mem_of_find?_eq_some isSuperuser, ?_,
        List.mem_cons_self⟩
    simpa using List.find?_some isSuperuser

theorem resolvePermissionItem_meets (users : List User) (item : PermissionItemRequest)
    (cache : GrantCache)
    {post : Except Failure (Except String PermissionItem × GrantCache) →
      List Event → Prop}
    (reading : Reading trace) (raised : ∀ failure later, post (.error failure) later)
    (next : ∀ (resolved : Except String PermissionItem) cache' later, trace <:+ later →
      Reading later → (∀ valid, resolved = .ok valid → valid.user ∈ users) →
        post (.ok (resolved, cache')) later) :
    (resolvePermissionItem request users item cache).Meets (discipline request operation)
      post trace := by
  have refused (code : String) : post (.ok (.error code, cache)) trace :=
    next (.error code) cache trace (List.suffix_refl _) reading fun _ same => by cases same
  unfold resolvePermissionItem
  cases isUser : users.find? (·.email == item.userEmail) with
  | none => exact refused _
  | some user =>
    simp only
    split
    · exact refused _
    · rw [Program.meets_bind]
      refine (guardItem_confined _ cache).meets (fun later _ call reads => ?_)
        fun result added reads => ?_
      · cases call <;> trivial
      · have reading' : Reading (added ++ trace) := by
          intro event member
          rcases List.mem_append.mp member with new | old
          · exact reads event new
          · exact reading event old
        match result with
        | .error failure => exact raised failure _
        | .ok (passed, cache') =>
          refine next _ cache' _ (List.suffix_append _ _) reading' fun valid same => ?_
          cases passed with
          | false => cases same
          | true =>
            cases same
            exact List.mem_of_find?_eq_some isUser

theorem stagePermissionItems_meets (users : List User) (items : List PermissionItemRequest)
    (cache : GrantCache)
    {post : Except Failure (List PermissionItem × List BulkItemResult) →
      List Event → Prop}
    (reading : Reading trace) (raised : ∀ failure later, post (.error failure) later)
    (next : ∀ validItems errors later, trace <:+ later → Reading later →
      (∀ item ∈ validItems, item.user ∈ users) → post (.ok (validItems, errors)) later) :
    (stagePermissionItems request users items cache).Meets (discipline request operation)
      post trace := by
  induction items generalizing cache trace post with
  | nil => exact next [] [] trace (List.suffix_refl _) reading fun _ member => by cases member
  | cons item rest ih =>
    unfold stagePermissionItems
    rw [Program.meets_bind]
    refine resolvePermissionItem_meets users item cache reading raised
      fun resolved cache' later suffix reading' isResolved => ?_
    simp only
    rw [Program.meets_bind]
    refine ih cache' reading' raised fun validItems errors last suffix' reading'' isRead => ?_
    match resolved with
    | .error code => exact next validItems _ last (suffix.trans suffix') reading'' isRead
    | .ok valid =>
      refine next (valid :: validItems) errors last (suffix.trans suffix') reading'' ?_
      intro other member
      rcases List.mem_cons.mp member with rfl | old
      · exact isResolved other rfl
      · exact isRead other old

theorem bulkRemovePermissions_meets (site : Site) (items : List PermissionItemRequest) :
    (bulkRemovePermissions site request items).Meets
      (discipline request (.bulkRemovePermissions items))
      (returns site (.bulkRemovePermissions items)) [] := by
  rw [bulkRemovePermissions, Program.meets_bind]
  refine requireAuthorization_meets _ _ (fun _ _ => trivial) fun later₁ authorized => ?_
  simp only
  rw [Program.meets_bind]
  refine read_meets (by trivial) fun users _ => ?_
  simp only
  rw [Program.meets_bind]
  refine stagePermissionItems_meets users items []
    (reading_cons trivial (authorized.reading reading_nil)) (fun _ _ => trivial)
    fun validItems errors later suffix reading isRead => ?_
  simp only
  rw [Program.meets_bind]
  unfold removePermissionItems
  split
  · exact nothing_removed fun event member => silent_of_read (reading event member) event.2
  · rw [Program.meets_bind]
    refine read_meets (by trivial) fun held isHeld => ?_
    have reading' : Reading (⟨.heldPermissions validItems, held⟩ :: later) :=
      reading_cons trivial reading
    simp only
    rw [Program.meets_bind, perform, Program.meets_perform]
    refine ⟨⟨reading', fun item member => ⟨_, users, ?_, isRead item (isHeld member)⟩⟩,
      fun result _ => ?_⟩
    · exact List.mem_cons_of_mem _ (suffix.subset List.mem_cons_self)
    · match result with
      | .error failure =>
        refine nothing_removed fun event member => ?_
        rcases List.mem_cons.mp member with rfl | old
        · exact fun _ _ removed => removed
        · exact silent_of_read (reading' event old) event.2
      | .ok () =>
        simp only
        rw [Program.meets_bind]
        refine invalidateUserPermissions_meets site _ fun last follows invalidated => ?_
        refine invalidated_of_follows reading' follows fun email grant removed => ?_
        obtain ⟨item, member, rfl, rfl⟩ := removed
        exact invalidated _ (List.mem_map_of_mem member) item.action item.resourceType

end Bulk

/-! ## Reads -/

theorem authorizeDetailed_meets (site : Site) {request : Request}
    (email action resourceType : String) (resource : Option Resource) (context : Option Dict) :
    (authorizeDetailed site email action resourceType resource context).Meets
      (discipline request (.authorize email action resourceType resource context))
      (returns site (.authorize email action resourceType resource context)) [] := by
  -- the second read, after any trace in which the policies were read
  have second (policies : List Policy) (trace : List Event)
      (read : ⟨.getUserPolicies (site.keys.userPoliciesKey email), some policies⟩ ∈ trace ∨
        ⟨.selectPolicies email, policies⟩ ∈ trace) :
      (do
        let grants ← getActivePermissionsForUser site email
        let holdings : Holdings := ⟨policies, grants⟩
        return .decision holdings (evaluate site.runtime holdings.effectivePolicies action
          resourceType email resource context) : Service Response).Meets
          (discipline request (.authorize email action resourceType resource context))
          (returns site (.authorize email action resourceType resource context)) trace := by
    have later {trace' : List Event} (suffix : trace <:+ trace') :=
      read.imp (suffix.subset ·) (suffix.subset ·)
    rw [Program.meets_bind, getActivePermissionsForUser, Program.meets_bind]
    refine read_meets (by trivial) fun cached _ => ?_
    match cached with
    | some grants => exact ⟨later (List.suffix_cons _ _), Or.inl List.mem_cons_self⟩
    | none =>
      simp only
      rw [Program.meets_bind]
      refine read_meets (by trivial) fun grants _ => ?_
      simp only
      rw [Program.meets_bind]
      refine ⟨trivial, fun _ _ => ⟨later ?_, Or.inr ?_⟩⟩
      · exact ((List.suffix_cons _ _).trans (List.suffix_cons _ _)).trans (List.suffix_cons _ _)
      · exact List.mem_cons_of_mem _ List.mem_cons_self
  rw [authorizeDetailed, Program.meets_bind, getActivePoliciesForUser, Program.meets_bind]
  refine read_meets (by trivial) fun cached _ => ?_
  match cached with
  | some policies => exact second policies _ (Or.inl List.mem_cons_self)
  | none =>
    simp only
    rw [Program.meets_bind]
    refine read_meets (by trivial) fun policies _ => ?_
    simp only
    rw [Program.meets_bind]
    exact ⟨trivial, fun _ _ =>
      second policies _ (Or.inr (List.mem_cons_of_mem _ List.mem_cons_self))⟩

theorem handle_meets (site : Site) (request : Request) (operation : Operation) :
    (handle site request operation).Meets (discipline request operation) (returns site operation)
      [] := by
  cases operation with
  | authorize email action resourceType resource context =>
    exact authorizeDetailed_meets site email action resourceType resource context
  | updatePolicy policyName fields changeReason =>
    exact updatePolicy_meets site policyName fields changeReason
  | rollbackPolicy policyName historyId reason =>
    exact rollbackPolicy_meets site policyName historyId reason
  | deletePolicy policyName reason => exact deletePolicy_meets site policyName reason
  | removePolicyFromUser userEmail policyName =>
    exact removePolicyFromUser_meets site userEmail policyName
  | revokePolicyActionFromUser userEmail policyName action =>
    exact revokePolicyActionFromUser_meets site userEmail policyName action
  | bulkRemovePolicies items => exact bulkRemovePolicies_meets site items
  | revokePermissionFromUser userEmail action resourceType =>
    exact revokePermissionFromUser_meets site userEmail action resourceType
  | bulkRemovePermissions items => exact bulkRemovePermissions_meets site items

end Steps

/-! ## Replies -/

/-- A commit that succeeds found no lock in its way and has applied its change. -/
theorem committed_ok {α : Type} {waits : Bool} {thread : Nat} {store store' : Store}
    {after : Option (α × Database)} {value : α}
    (possible : ((.ok value : Except Failure α), store') ∈ committed waits thread store after) :
    waits = false ∧ ∃ database, after = some (value, database) ∧
      store' = (store.withDatabase database).release thread := by
  cases waits with
  | true => cases possible
  | false =>
    match after with
    | none => simp [committed] at possible
    | some (value', database) =>
      simp only [committed, Bool.false_eq_true, if_false, List.mem_cons, Prod.mk.injEq,
        Except.ok.injEq, reduceCtorEq, false_and, List.not_mem_nil, or_false] at possible
      obtain ⟨rfl, rfl⟩ := possible
      exact ⟨rfl, database, rfl, rfl⟩

/-- One that fails has changed nothing. -/
theorem committed_error {α : Type} {waits : Bool} {thread : Nat} {store store' : Store}
    {after : Option (α × Database)} {failure : Failure}
    (possible : ((.error failure : Except Failure α), store') ∈
      committed waits thread store after) : store' = store.release thread := by
  cases waits with
  | true => cases possible
  | false =>
    match after with
    | none => simpa [committed] using (Prod.mk.inj (List.mem_singleton.mp possible)).2
    | some (value', database) =>
      simp only [committed, Bool.false_eq_true, if_false, List.mem_cons, Prod.mk.injEq,
        reduceCtorEq, false_and, List.not_mem_nil, or_false, false_or] at possible
      exact possible.2

theorem outcomes_answer (site : Site) (request : Request) (operation : Operation) (thread : Nat)
    (call : Call) (store : Store) (outcome : Reply call × Store)
    (possible : outcome ∈ outcomes site thread call store) :
    (discipline request operation).answers call outcome.1 := by
  cases call with
  | getByName name =>
    obtain rfl := List.mem_singleton.mp possible
    intro policy found
    simpa using List.find?_some found
  | lockPolicy policy =>
    intro locked found
    simp only [outcomes] at possible
    split at possible
    · cases possible
    · split at possible
      · obtain rfl := List.mem_singleton.mp possible
        cases found
      · rename_i row isRow
        obtain rfl := List.mem_singleton.mp possible
        cases found
        simpa using List.find?_some isRow
  | commitUpdate locked fields changedBy changeReason changeType =>
    obtain ⟨result, store'⟩ := outcome
    rintro updated rfl
    obtain ⟨-, database, applied, -⟩ := committed_ok possible
    obtain ⟨updated', isUpdated, rest⟩ := Option.bind_eq_some_iff.mp applied
    obtain ⟨database', -, same⟩ := Option.bind_eq_some_iff.mp rest
    obtain ⟨rfl, rfl⟩ := Prod.mk.inj (Option.some.inj same)
    exact isUpdated
  | heldPolicies items =>
    obtain rfl := List.mem_singleton.mp possible
    exact List.filter_sublist
  | heldPermissions items =>
    obtain rfl := List.mem_singleton.mp possible
    exact fun item member => (List.mem_filter.mp member).1
  | _ => trivial

/-- The tables after an answered call: only a commit that succeeded changes them. -/
def applied (database : Database) (event : Event) : Database :=
  match event with
  | ⟨.commitUpdate locked fields changedBy changeReason changeType, .ok _⟩ =>
      (database.updatePolicy locked fields changedBy changeReason changeType).getD database
  | ⟨.commitDelete policy changedBy changeReason, .ok _⟩ =>
      database.deletePolicy policy changedBy changeReason
  | ⟨.commitRemoval user policy, .ok _⟩ => database.removeAssignment user.id policy.id
  | ⟨.commitActionRevocation user policy action revokedBy, .ok _⟩ =>
      (database.revokeSingleAction user.id policy action revokedBy).getD database
  | ⟨.commitBulkRemoval items, .ok _⟩ => removeAssignments database items
  | ⟨.commitPermissionRemoval item, .ok _⟩ =>
      database.removePermission item.user.id item.action item.resourceType
  | ⟨.commitBulkPermissionRemoval items, .ok _⟩ => removePermissions database items
  | _ => database

theorem database_of_commit {α : Type} {waits : Bool} {thread : Nat} {store store' : Store}
    {after : Option (α × Database)} {result : Except Failure α} {done : Database}
    (possible : (result, store') ∈ committed waits thread store after)
    (isDone : ∀ value, result = .ok value → ∀ database, after = some (value, database) →
      done = database) (same : ∀ failure, result = .error failure → done = store.database) :
    store'.database = done := by
  cases result with
  | ok value =>
    obtain ⟨-, database, isAfter, rfl⟩ := committed_ok possible
    exact (isDone value rfl database isAfter).symm
  | error failure =>
    rw [committed_error possible, same failure rfl]
    rfl

theorem database_of_answer {site : Site} {thread : Nat} {call : Call} {reply : Reply call}
    {store store' : Store} (possible : (reply, store') ∈ outcomes site thread call store) :
    store'.database = applied store.database ⟨call, reply⟩ := by
  cases call with
  | commitUpdate locked fields changedBy changeReason changeType =>
    refine database_of_commit possible (fun updated isOk database applied => ?_)
      fun failure isError => by subst isError; rfl
    subst isOk
    obtain ⟨updated', -, rest⟩ := Option.bind_eq_some_iff.mp applied
    obtain ⟨database', isAfter, same⟩ := Option.bind_eq_some_iff.mp rest
    obtain ⟨rfl, rfl⟩ := Prod.mk.inj (Option.some.inj same)
    simp only [MysticAuth.Transactions.applied, isAfter, Option.getD_some]
  | commitActionRevocation user policy action revokedBy =>
    refine database_of_commit possible (fun value isOk database applied => ?_)
      fun failure isError => by subst isError; rfl
    subst isOk
    obtain ⟨database', isAfter, same⟩ := Option.map_eq_some_iff.mp applied
    obtain ⟨-, rfl⟩ := Prod.mk.inj same
    simp only [MysticAuth.Transactions.applied, isAfter, Option.getD_some]
  | commitDelete _ _ _ | commitRemoval _ _ | commitBulkRemoval _ | commitPermissionRemoval _
  | commitBulkPermissionRemoval _ =>
    simp only [outcomes] at possible
    refine database_of_commit possible (fun value isOk database applied => ?_)
      fun failure isError => by subst isError; rfl
    subst isOk
    exact (Prod.mk.inj (Option.some.inj applied)).2
  | getHolderEmailsForUpdate policy =>
    simp only [outcomes] at possible
    split at possible
    · cases possible
    · obtain ⟨-, rfl⟩ := Prod.mk.inj (List.mem_singleton.mp possible)
      rfl
  | lockPolicy policy =>
    simp only [outcomes] at possible
    split at possible
    · cases possible
    · split at possible <;>
      · obtain ⟨-, rfl⟩ := Prod.mk.inj (List.mem_singleton.mp possible)
        rfl
  | _ =>
    obtain ⟨-, rfl⟩ := Prod.mk.inj (List.mem_singleton.mp possible)
    rfl

end MysticAuth.Transactions
