import Mathlib.Data.List.Dedup
import MysticAuth.Authorization.BulkRemovals
import MysticAuth.Authorization.DecisionExplanation
import MysticAuth.Authorization.GuardCache
import MysticAuth.Authorization.TableConstraints

/-!
# Removing in bulk and removing one by one

The batch judges every item by the tables as they were when the request
arrived, a single request by the tables its predecessors left.  The two agree
exactly when no item's facts have changed by the time its own request is
served.
-/

set_option autoImplicit false

namespace MysticAuth.BulkRemovals

open Python PolicyEvaluationEngine
open GuardCache

/-! ## The guard answers -/

/-- The guard can read every block of the decision. -/
def ReadableDecision (decision : HeldDecision) : Prop :=
  ∀ entry ∈ decision.2, entry.2.truthy = false ∨ ∃ dict, entry.2.dict? = some dict

/-- The guard passed, or refused with one of its two errors. -/
def Answered (outcome : Except Failure Unit) : Prop :=
  outcome = .ok () ∨
    ∃ error, outcome = .error (.app error) ∧ outcomeOfCode error.code = .notGrantable

section Guard

variable (runtime : Runtime) (holdings : Holdings) (callerEmail : String)
variable (context : Option Dict)

theorem authorizeWithDecision_readable (action resourceType : String) :
    ReadableDecision
      (authorizeWithDecision runtime holdings callerEmail context action resourceType) := by
  intro entry member
  have explained := evaluateGrants_explained runtime action resourceType callerEmail none context
    holdings.effectivePolicies
  obtain ⟨grant, _, ⟨_, satisfied⟩, same⟩ := explained.conditions entry member
  rw [same] at satisfied
  rcases (evaluateConditions_satisfied_iff _ _ _ _ _).mp satisfied with falsy | ⟨dict, shape, _⟩
  · exact Or.inl falsy
  · exact Or.inr ⟨dict, shape⟩

theorem hasScopeForGrant_isSome (matched : List (String × Json)) (proposed : Json)
    (block : ProposedBlock proposed)
    (readable : ∀ entry ∈ matched, entry.2.truthy = false ∨ ∃ dict, entry.2.dict? = some dict) :
    hasScopeForGrant matched proposed ≠ none := by
  induction matched with
  | nil => simp [hasScopeForGrant]
  | cons entry rest ih =>
      have head := keepsSource_isSome entry.2 proposed block (readable entry List.mem_cons_self)
      have tail := ih fun other inRest => readable other (List.mem_cons_of_mem _ inRest)
      simp only [hasScopeForGrant]
      split
      · rename_i raised
        exact absurd raised head
      · simp
      · exact tail

theorem ownDecision_readable (proposal : Proposal) (key : String × String) :
    ReadableDecision (ownDecision runtime holdings callerEmail context proposal key) := by
  simp only [ownDecision]
  split
  · intro entry member
    simp at member
  · exact authorizeWithDecision_readable runtime holdings callerEmail context _ _

theorem answer_answered (isSystemSuperuser : Bool) (conditions : Json)
    (block : ProposedBlock conditions) (action : String) (decision : HeldDecision)
    (readable : ReadableDecision decision) :
    Answered (answer isSystemSuperuser conditions action decision) := by
  simp only [answer]
  split
  · exact Or.inr ⟨_, rfl, rfl⟩
  · split
    · exact Or.inl rfl
    · split
      · exact Or.inl rfl
      · exact Or.inr ⟨_, rfl, rfl⟩
      · rename_i raised
        exact absurd raised (hasScopeForGrant_isSome _ _ block readable)

theorem firstRefusal_answered (answers : String → Except Failure Unit)
    (each : ∀ action, Answered (answers action)) (actions : List String) :
    Answered (firstRefusal answers actions) := by
  cases refused : firstRefusal answers actions with
  | ok passed => exact Or.inl rfl
  | error failure =>
      obtain ⟨action, _, same⟩ := exists_of_firstRefusal_error answers actions failure refused
      rw [← same]
      exact each action

theorem guardAlone_answered (proposal : Proposal) (block : ProposedBlock proposal.conditions) :
    Answered (guardAlone runtime holdings callerEmail context proposal) := by
  rw [guardAlone_eq]
  exact firstRefusal_answered _ (fun action => answer_answered _ _ block action _
    (ownDecision_readable runtime holdings callerEmail context _ _)) _

end Guard

/-! ## The tables -/

/-- Users are stored once, under their normalized address, and an assignment once for a user that
exists. -/
structure Tables (server : Server) (database : Database) : Prop extends Constraints database where
  emailsNormalized : ∀ user ∈ database.users, server.normalizeEmail user.email = user.email
  emailsUnique : (database.users.map User.email).Nodup
  userIdsUnique : (database.users.map User.id).Nodup
  linksUnique : (database.userPolicies.map linkKey).Nodup
  linksHaveUsers : ∀ link ∈ database.userPolicies, ∃ user ∈ database.users, user.id = link.userId

theorem proposedBlock_of_validated (conditions : Json) (validated : ValidatedBlock conditions) :
    ProposedBlock conditions := by
  obtain ⟨runtime, accepted⟩ := validated
  cases conditions with
  | null => exact Or.inl rfl
  | obj keys values => exact Or.inr ⟨⟨keys, values⟩, rfl⟩
  | bool | int | float | str | arr => simp [validateConditions] at accepted

section Lookups

variable (server : Server) (database : Database)

theorem find?_filter_of_implied {Row : Type} (rows : List Row) (kept wanted : Row → Bool)
    (implied : ∀ row ∈ rows, wanted row = true → kept row = true) :
    (rows.filter kept).find? wanted = rows.find? wanted := by
  induction rows with
  | nil => rfl
  | cons row rest ih =>
      have tail := ih fun other inRest => implied other (List.mem_cons_of_mem _ inRest)
      cases found : wanted row with
      | true =>
          have keeps := implied row List.mem_cons_self found
          rw [List.filter_cons_of_pos keeps, List.find?_cons_of_pos found,
            List.find?_cons_of_pos found]
      | false =>
          have skipped : ¬ wanted row = true := by simp [found]
          rw [List.find?_cons_of_neg skipped, ← tail, List.filter_cons]
          split
          · exact List.find?_cons_of_neg skipped
          · rfl

theorem getPoliciesByNames_eq (names : List String) (name : String) (listed : name ∈ names) :
    getPoliciesByNames database names name = database.getByName name := by
  apply find?_filter_of_implied
  intro policy _ named
  obtain rfl : policy.name = name := by simpa using named
  simpa using listed

theorem getByEmails_eq (tables : Tables server database) (emails : List String) (email : String)
    (listed : email ∈ emails) :
    getByEmails server database emails email = database.getByEmail email := by
  apply find?_filter_of_implied
  intro user member named
  obtain rfl : user.email = email := by simpa using named
  have normalized := tables.emailsNormalized user member
  simp only [decide_eq_true_eq]
  exact List.mem_map.mpr ⟨user.email, listed, normalized⟩

/-- No one is stored under an address that is not normalized. -/
theorem getByEmail_of_unnormalized (tables : Tables server database) (email : String)
    (unnormalized : server.normalizeEmail email ≠ email) : database.getByEmail email = none := by
  apply List.find?_eq_none.mpr
  intro user member named
  obtain rfl : user.email = email := by simpa using named
  exact unnormalized (tables.emailsNormalized user member)

end Lookups

/-! ## The assignments -/

/-- The tables after the pairs have been parted. -/
def without (database : Database) (gone : List (Nat × Nat)) : Database :=
  { database with
    userPolicies := database.userPolicies.filter fun link => !gone.contains (linkKey link) }

section Assignments

variable (server : Server) (database : Database)

theorem without_nil : without database [] = database := by
  simp [without]

theorem userHoldsPolicy_iff (userId policyId : Nat) :
    database.userHoldsPolicy userId policyId = true ↔
      (userId, policyId) ∈ database.userPolicies.map linkKey := by
  simp [Database.userHoldsPolicy, linkKey]

theorem without_holds_iff (gone : List (Nat × Nat)) (userId policyId : Nat) :
    (without database gone).userHoldsPolicy userId policyId = true ↔
      database.userHoldsPolicy userId policyId = true ∧ (userId, policyId) ∉ gone := by
  simp only [userHoldsPolicy_iff, without, List.mem_map, List.mem_filter, List.contains_eq_mem,
    Bool.not_eq_true', decide_eq_false_iff_not]
  constructor
  · rintro ⟨link, ⟨member, kept⟩, same⟩
    exact ⟨⟨link, member, same⟩, same ▸ kept⟩
  · rintro ⟨⟨link, member, same⟩, kept⟩
    exact ⟨link, ⟨member, same ▸ kept⟩, same⟩

theorem removeAssignment_without (gone : List (Nat × Nat)) (userId policyId : Nat) :
    (without database gone).removeAssignment userId policyId =
      without database (gone ++ [(userId, policyId)]) := by
  simp only [Database.removeAssignment, without, List.filter_filter]
  congr 1
  apply List.filter_congr
  intro link _
  have same : (link.userId == userId && link.policyId == policyId) =
      decide (linkKey link = (userId, policyId)) := by
    rw [Bool.eq_iff_iff]
    simp [linkKey]
  rw [same]
  simp [Bool.and_comm]

/-- Parting a pair that is not together changes nothing. -/
theorem without_of_not_held (gone : List (Nat × Nat)) (userId policyId : Nat)
    (absent : database.userHoldsPolicy userId policyId = false) :
    without database (gone ++ [(userId, policyId)]) = without database gone := by
  simp only [without]
  congr 1
  apply List.filter_congr
  intro link member
  have other : linkKey link ≠ (userId, policyId) := by
    intro same
    have held := (userHoldsPolicy_iff database userId policyId).mpr
      (List.mem_map.mpr ⟨link, member, same⟩)
    simp [absent] at held
  simp [other]

theorem count_removeAssignment (unique : (database.userPolicies.map linkKey).Nodup)
    (userId policyId : Nat) (held : database.userHoldsPolicy userId policyId = true) :
    (database.removeAssignment userId policyId).countAssignments policyId + 1 =
      database.countAssignments policyId := by
  let parted : UserPolicy → Bool := fun link =>
    link.userId == userId && link.policyId == policyId
  have once : (database.userPolicies.filter parted).length = 1 := by
    have counted := List.count_eq_one_of_mem unique ((userHoldsPolicy_iff _ _ _).mp held)
    rw [List.count_eq_countP, List.countP_map, List.countP_eq_length_filter] at counted
    rw [← counted]
    congr 1
  have all : (database.userPolicies.filter parted).countP (·.policyId == policyId) =
      (database.userPolicies.filter parted).length := by
    apply List.countP_eq_length.mpr
    intro link member
    exact (Bool.and_eq_true_iff.mp (List.mem_filter.mp member).2).2
  have split := List.countP_eq_countP_filter_add database.userPolicies
    (·.policyId == policyId) parted
  simp only [Database.countAssignments, ← List.countP_eq_length_filter] at split ⊢
  rw [split, all, once, Nat.add_comm]
  rfl

theorem count_removeAssignment_other (userId policyId other : Nat) (differs : policyId ≠ other) :
    (database.removeAssignment userId policyId).countAssignments other =
      database.countAssignments other := by
  simp only [Database.countAssignments, Database.removeAssignment, List.filter_filter]
  congr 1
  apply List.filter_congr
  intro link _
  by_cases same : link.policyId = other
  · simp [same, Ne.symm differs]
  · simp [same]

theorem usersOfId_eq (users : List User) (unique : (users.map User.id).Nodup) (user : User)
    (member : user ∈ users) : users.filter (·.id == user.id) = [user] := by
  induction users with
  | nil => simp at member
  | cons head rest ih =>
      simp only [List.map_cons, List.nodup_cons] at unique
      obtain ⟨fresh, unique⟩ := unique
      rcases List.mem_cons.mp member with rfl | tail
      · have none' : rest.filter (·.id == user.id) = [] := by
          apply List.filter_eq_nil_iff.mpr
          intro other inRest same
          exact fresh (List.mem_map.mpr ⟨other, inRest, by simpa using same⟩)
        simp [none']
      · have differs : head.id ≠ user.id := fun same =>
          fresh (same ▸ List.mem_map_of_mem tail)
        rw [List.filter_cons_of_neg (by simpa using differs), ih unique tail]

variable {server} {database}

theorem emailsOf_link (tables : Tables server database) (link : UserPolicy)
    (member : link ∈ database.userPolicies) : ∃ user ∈ database.users, user.id = link.userId ∧
      (database.users.filter (·.id == link.userId)).map User.email = [user.email] := by
  obtain ⟨user, listed, same⟩ := tables.linksHaveUsers link member
  refine ⟨user, listed, same, ?_⟩
  rw [← same, usersOfId_eq _ tables.userIdsUnique user listed]
  rfl

theorem holderEmails_length (tables : Tables server database) (policyId : Nat) :
    (holderEmails database policyId).length = database.countAssignments policyId := by
  simp only [holderEmails, List.length_flatMap, Database.countAssignments]
  rw [List.map_congr_left (g := fun _ => 1)]
  · simp
  · intro link member
    obtain ⟨user, _, _, single⟩ := emailsOf_link tables link (List.mem_filter.mp member).1
    simp [single]

theorem holderEmails_nodup (tables : Tables server database) (policyId : Nat) :
    (holderEmails database policyId).Nodup := by
  have apart : (database.userPolicies.filter (·.policyId == policyId)).Pairwise
      fun link other => linkKey link ≠ linkKey other :=
    (List.pairwise_map.mp tables.linksUnique).filter _
  apply List.nodup_flatMap.mpr
  constructor
  · intro link member
    obtain ⟨user, _, _, single⟩ := emailsOf_link tables link (List.mem_filter.mp member).1
    simp [single]
  · apply apart.imp_of_mem
    intro link other member otherMember differs email listed otherListed
    obtain ⟨linked, samePolicy⟩ := List.mem_filter.mp member
    obtain ⟨otherLinked, otherPolicy⟩ := List.mem_filter.mp otherMember
    obtain ⟨user, inUsers, userId, single⟩ := emailsOf_link tables link linked
    obtain ⟨holder, inUsers', holderId, single'⟩ := emailsOf_link tables other otherLinked
    obtain rfl : email = user.email := by simpa [single] using listed
    obtain same : user.email = holder.email := by simpa [single'] using otherListed
    have sameUser := List.inj_on_of_nodup_map tables.emailsUnique inUsers inUsers' same
    apply differs
    simp only [linkKey, Prod.mk.injEq]
    refine ⟨?_, ?_⟩
    · rw [← userId, ← holderId, sameUser]
    · rw [beq_iff_eq.mp samePolicy, beq_iff_eq.mp otherPolicy]

theorem mem_holderEmails_iff (tables : Tables server database) (user : User)
    (member : user ∈ database.users) (policyId : Nat) :
    user.email ∈ holderEmails database policyId ↔
      database.userHoldsPolicy user.id policyId = true := by
  rw [userHoldsPolicy_iff]
  simp only [holderEmails, List.mem_flatMap, List.mem_map, List.mem_filter, beq_iff_eq]
  constructor
  · rintro ⟨link, ⟨linked, samePolicy⟩, other, ⟨listed, userId⟩, email⟩
    obtain rfl := List.inj_on_of_nodup_map tables.emailsUnique listed member email
    exact ⟨link, linked, by rw [linkKey, ← userId, samePolicy]⟩
  · rintro ⟨link, linked, same⟩
    obtain ⟨userId, policyId⟩ := Prod.mk.inj same
    exact ⟨link, ⟨linked, policyId⟩, user, ⟨member, userId.symm⟩, rfl⟩

end Assignments

/-! ## One request through the single route -/

section Single

variable (server : Server) (database : Database) (request : Request)

/-- What the single route makes of an item once the caller may revoke. -/
def settleSingle (item : BulkPolicyItem) : ItemOutcome × Database :=
  match database.getByEmail (server.normalizeEmail item.userEmail),
      database.getByName item.policyName with
  | none, _ => (.userNotFound, database)
  | some _, none => (.policyNotFound, database)
  | some user, some policy =>
      if user.role = .system then (.systemUser, database)
      else
        match guardAlone server.runtime (database.holdings request.caller) request.caller
            request.context policy.proposal with
        | .error _ => (.notGrantable, database)
        | .ok () =>
            if database.userHoldsPolicy user.id policy.id = false then (.notHeld, database)
            else if item.policyName = systemSuperuserPolicyName ∧
                database.countAssignments policy.id ≤ 1 then (.lastSuperuser, database)
            else (.removed, database.removeAssignment user.id policy.id)

theorem requireGrant_of_passed (proposal : Proposal)
    (passed : guardAlone server.runtime (database.holdings request.caller) request.caller
      request.context proposal = .ok ()) :
    requireGrant server database request proposal = .ok ⟨proposal, passed⟩ := by
  simp only [requireGrant]
  split
  · rfl
  · rename_i failure refused
    simp [passed] at refused

theorem requireGrant_of_refused (proposal : Proposal) (failure : Failure)
    (refused : guardAlone server.runtime (database.holdings request.caller) request.caller
      request.context proposal = .error failure) :
    requireGrant server database request proposal = .error failure := by
  simp only [requireGrant]
  split
  · rename_i passed
    simp [refused] at passed
  · rename_i other refused'
    rw [refused] at refused'
    exact congrArg Except.error (Except.error.inj refused').symm

theorem requireAuthorization_refused (permission : Permission) (resourceType : String)
    (refused : requireAuthorization server database request permission resourceType ≠ .ok ()) :
    requireAuthorization server database request permission resourceType =
      raiseApp insufficientPermissions := by
  simp only [requireAuthorization] at refused ⊢
  split
  · rename_i allowed
    simp [allowed] at refused
  · rfl

theorem removeSingle_forbidden (item : BulkPolicyItem)
    (refused : requireAuthorization server database request .policiesRevoke "policies" ≠ .ok ()) :
    removeSingle server database request item = (.forbidden, database) := by
  simp only [removeSingle, removePolicyFromUser,
    requireAuthorization_refused server database request _ _ refused]
  rfl

theorem removeSingle_eq (item : BulkPolicyItem)
    (authorized : requireAuthorization server database request .policiesRevoke "policies" = .ok ())
    (blocks : ∀ policy ∈ database.policies, ProposedBlock policy.conditions) :
    removeSingle server database request item = settleSingle server database request item := by
  simp only [removeSingle, removePolicyFromUser, settleSingle, authorized, findUser, findPolicy,
    bind, Except.bind]
  cases user? : database.getByEmail (server.normalizeEmail item.userEmail) with
  | none => rfl
  | some user =>
      cases policy? : database.getByName item.policyName with
      | none => rfl
      | some policy =>
          simp only [getOr404, refuseSystemUser, refuseIf]
          by_cases system : user.role = .system
          · simp only [system]
            rfl
          · have answered := guardAlone_answered server.runtime
              (database.holdings request.caller) request.caller request.context policy.proposal
              (blocks policy (List.mem_of_find?_eq_some policy?))
            have ordinary : (user.role == .system) = false := by simpa using system
            simp only [ordinary, system, Bool.false_eq_true, if_false]
            rcases answered with passed | ⟨error, refused, code⟩
            · simp only [requireGrant_of_passed _ _ _ _ passed, passed, refuseLockout, refuseIf,
                bind, Except.bind]
              cases held : database.userHoldsPolicy user.id policy.id with
              | false => rfl
              | true =>
                  by_cases last : item.policyName = systemSuperuserPolicyName ∧
                      database.countAssignments policy.id ≤ 1
                  · simp only [last]
                    rfl
                  · have spare : (item.policyName == systemSuperuserPolicyName &&
                        decide (database.countAssignments policy.id ≤ 1)) = false := by
                      simpa using last
                    simp [last, spare]
            · simp only [requireGrant_of_refused _ _ _ _ _ refused, refused, outcomeOfFailure, code]

end Single

/-! ## One item of the batch -/

section Batch

variable (server : Server) (database : Database) (request : Request)

/-- What the response says of a decision. -/
def decisionOutcome : Decision → ItemOutcome
  | .error code => outcomeOfCode code
  | .ok (user, policy) => if database.userHoldsPolicy user.id policy.id then .removed else .notHeld

def partedPairs : Decision → List (Nat × Nat)
  | .error _ => []
  | .ok valid => [pairKey valid]

/-- What the batch makes of an item: its outcome, the pairs to part, the removals staged. -/
def settleBulk (item : BulkPolicyItem) (cache : GrantCache) (staged : Nat) :
    ItemOutcome × List (Nat × Nat) × Nat :=
  match database.getByEmail item.userEmail, database.getByName item.policyName with
  | none, _ => (.userNotFound, [], staged)
  | some _, none => (.policyNotFound, [], staged)
  | some user, some policy =>
      if user.role = .system then (.systemUser, [], staged)
      else
        match (guardShared server database request policy cache).1 with
        | .error _ => (.notGrantable, [], staged)
        | .ok () =>
            if database.userHoldsPolicy user.id policy.id = false then
              (.notHeld, [(user.id, policy.id)], staged)
            else if item.policyName = systemSuperuserPolicyName then
              if database.countAssignments policy.id ≤ staged + 1 then (.lastSuperuser, [], staged)
              else (.removed, [(user.id, policy.id)], staged + 1)
            else (.removed, [(user.id, policy.id)], staged)

/-- The cache holds the decisions of those who asked first, in the tables of the batch. -/
def RecordedBatch (askers : Askers) (cache : GrantCache) : Prop :=
  Recorded server.runtime (database.holdings request.caller) request.caller request.context askers
    cache

theorem recordedBatch_nil : RecordedBatch server database request (fun _ => none) [] :=
  recorded_nil _ _ _ _

/-- Who asked first after the policy has been put to the guard. -/
def askersAfter (askers : Askers) (proposal : Proposal) : Askers :=
  recordAsker server.runtime (database.holdings request.caller) request.caller request.context askers
    proposal

/-- An earlier item of the batch was the first to ask about one of the policy's actions, and on
the other path. -/
def Preempted (askers : Askers) (proposal : Proposal) : Prop :=
  ∃ action ∈ proposal.actions,
    spoiled server.runtime (database.holdings request.caller) request.caller request.context askers
      proposal action = true

theorem guardShared_recorded (policy : Policy) (block : ProposedBlock policy.conditions)
    (askers : Askers) (cache : GrantCache)
    (recorded : RecordedBatch server database request askers cache) :
    Answered (guardShared server database request policy cache).1 ∧
      ((guardShared server database request policy cache).1 = .ok () ↔
        Covers server.runtime (database.holdings request.caller) request.caller request.context
          policy.proposal ∧ ¬ Preempted server database request askers policy.proposal) ∧
      RecordedBatch server database request
        (askersAfter server database request askers policy.proposal)
        (guardShared server database request policy cache).2 := by
  obtain ⟨cache', guarded, recorded'⟩ := assertAuthorizedToGrant_recorded server.runtime
    (database.holdings request.caller) request.caller request.context askers policy.proposal cache
    recorded
  simp only [guardShared, guarded, Option.getD_some]
  refine ⟨firstRefusal_answered _ (fun action => answer_answered _ _ block action _
    (ownDecision_readable server.runtime (database.holdings request.caller) request.caller
      request.context _ _)) _, ?_, recorded'⟩
  rw [firstRefusal_read_ok_iff]
  simp [Preempted]

/-- The holders that the lockout guard counts. -/
structure HoldersOf (holders : List String) (policy : Policy) : Prop where
  listed : ∀ user ∈ database.users,
    user.email ∈ holders ↔ database.userHoldsPolicy user.id policy.id = true
  counted : holders.length = database.countAssignments policy.id

/-- The policy that the item puts to the guard. -/
def putToGuard (item : BulkPolicyItem) : Option Proposal :=
  match database.getByEmail item.userEmail, database.getByName item.policyName with
  | some user, some policy => if user.role = .system then none else some policy.proposal
  | _, _ => none

/-- Who asked first after the item. -/
def askersAfterItem (askers : Askers) (item : BulkPolicyItem) : Askers :=
  match putToGuard database item with
  | some proposal => askersAfter server database request askers proposal
  | none => askers

theorem resolve_eq (holders : List String) (item : BulkPolicyItem)
    (blocks : ∀ policy ∈ database.policies, ProposedBlock policy.conditions)
    (holdersOf : item.policyName = systemSuperuserPolicyName →
      ∀ policy, database.getByName item.policyName = some policy →
        HoldersOf database holders policy)
    (askers : Askers) (cache : GrantCache)
    (recorded : RecordedBatch server database request askers cache) (staged : Nat) :
    ∃ resolved cache',
      resolvePolicyItem server database request database.getByEmail database.getByName item cache =
        (.ok resolved, cache') ∧
      RecordedBatch server database request (askersAfterItem server database request askers item)
        cache' ∧
      (decisionOutcome database (stageRemoval holders item staged resolved).1,
          partedPairs (stageRemoval holders item staged resolved).1,
          (stageRemoval holders item staged resolved).2) =
        settleBulk server database request item cache staged := by
  simp only [resolvePolicyItem, settleBulk, askersAfterItem, putToGuard]
  cases user? : database.getByEmail item.userEmail with
  | none => exact ⟨_, _, rfl, recorded, rfl⟩
  | some user =>
      cases policy? : database.getByName item.policyName with
      | none => exact ⟨_, _, rfl, recorded, rfl⟩
      | some policy =>
          by_cases system : user.role = .system
          · simp only [system, if_true]
            exact ⟨_, _, rfl, recorded, rfl⟩
          · simp only [system, if_false]
            obtain ⟨answered, _, recorded'⟩ := guardShared_recorded server database request policy
              (blocks policy (List.mem_of_find?_eq_some policy?)) askers cache recorded
            generalize guardShared server database request policy cache = guarded
              at answered recorded'
            obtain ⟨outcome, cache'⟩ := guarded
            rcases answered with passed | ⟨error, refused, code⟩
            · simp only at passed
              subst passed
              refine ⟨_, _, rfl, recorded', ?_⟩
              simp only [stageRemoval]
              by_cases superuser : item.policyName = systemSuperuserPolicyName
              · have holding := holdersOf superuser policy policy?
                have listed := holding.listed user (List.mem_of_find?_eq_some user?)
                simp only [superuser, true_and, if_true, listed, holding.counted]
                cases held : database.userHoldsPolicy user.id policy.id with
                | false => simp [decisionOutcome, partedPairs, pairKey, held]
                | true =>
                    simp only [if_true, Bool.true_eq_false, if_false]
                    split <;> simp [decisionOutcome, partedPairs, pairKey, held, outcomeOfCode]
              · simp only [superuser, false_and, if_false, decisionOutcome, partedPairs, pairKey]
                cases held : database.userHoldsPolicy user.id policy.id <;> simp
            · simp only at refused
              subst refused
              exact ⟨_, _, rfl, recorded', rfl⟩

end Batch

/-! ## Both routes on one item -/

section Step

variable (server : Server) (database : Database) (request : Request)

/-- When the item's own request is served, in the tables `current`, the caller may still use the
route and holds what the policy takes, and nobody has parted the pair.  `askers` is who of the
batch's earlier items was the first to put an action to the guard. -/
structure Undisturbed (current : Database) (askers : Askers) (item : BulkPolicyItem) : Prop where
  authorized : requireAuthorization server current request .policiesRevoke "policies" = .ok ()
  address : server.normalizeEmail item.userEmail = item.userEmail ∨
    database.getByEmail (server.normalizeEmail item.userEmail) = none
  covered : ∀ user policy, database.getByEmail item.userEmail = some user →
    database.getByName item.policyName = some policy → user.role ≠ .system →
      (Covers server.runtime (current.holdings request.caller) request.caller request.context
          policy.proposal ↔
        Covers server.runtime (database.holdings request.caller) request.caller request.context
            policy.proposal ∧ ¬ Preempted server database request askers policy.proposal)
  held : ∀ user policy, database.getByEmail item.userEmail = some user →
    database.getByName item.policyName = some policy → user.role ≠ .system →
      Covers server.runtime (current.holdings request.caller) request.caller request.context
        policy.proposal →
        current.userHoldsPolicy user.id policy.id = database.userHoldsPolicy user.id policy.id

/-- The pairs the batch has settled are parted, and the superuser assignments that are left and
the staged ones make up those at the start. -/
structure InStep (gone : List (Nat × Nat)) (staged : Nat) : Prop where
  counted : ∀ policy, database.getByName systemSuperuserPolicyName = some policy →
    staged + (without database gone).countAssignments policy.id =
      database.countAssignments policy.id

/-- Both routes say the same of the item and are in step after it. -/
structure Together (gone : List (Nat × Nat)) (staged : Nat) (askers : Askers)
    (item : BulkPolicyItem) (cache : GrantCache) : Prop where
  outcome : (settleBulk server database request item cache staged).1 =
    (removeSingle server (without database gone) request item).1
  after : (removeSingle server (without database gone) request item).2 =
    without database (gone ++ (settleBulk server database request item cache staged).2.1)
  inStep : InStep database (gone ++ (settleBulk server database request item cache staged).2.1)
    (settleBulk server database request item cache staged).2.2
  undisturbed : Undisturbed server database request (without database gone) askers item

/-- The routes part on the item. -/
def Apart (gone : List (Nat × Nat)) (staged : Nat) (askers : Askers) (item : BulkPolicyItem)
    (cache : GrantCache) : Prop :=
  (settleBulk server database request item cache staged).1 ≠
      (removeSingle server (without database gone) request item).1 ∧
    ¬ Undisturbed server database request (without database gone) askers item

theorem settleBulk_not_forbidden (item : BulkPolicyItem) (cache : GrantCache) (staged : Nat) :
    (settleBulk server database request item cache staged).1 ≠ .forbidden := by
  simp only [settleBulk]
  repeat' split
  all_goals simp

theorem settleSingle_found (item : BulkPolicyItem) (user : User)
    (found : database.getByEmail (server.normalizeEmail item.userEmail) = some user) :
    (settleSingle server database request item).1 ≠ .userNotFound := by
  simp only [settleSingle, found]
  repeat' split
  all_goals simp_all

variable {server} {database}

theorem together_of_refused (gone : List (Nat × Nat)) (staged : Nat)
    (inStep : InStep database gone staged) (askers : Askers) (item : BulkPolicyItem)
    (cache : GrantCache) (outcome : ItemOutcome)
    (bulk : settleBulk server database request item cache staged = (outcome, [], staged))
    (single : removeSingle server (without database gone) request item =
      (outcome, without database gone))
    (undisturbed : Undisturbed server database request (without database gone) askers item) :
    Together server database request gone staged askers item cache := by
  refine ⟨by rw [bulk, single], by rw [bulk, single, List.append_nil], ?_, undisturbed⟩
  rw [bulk, List.append_nil]
  exact inStep

theorem without_keys_nodup (tables : Tables server database) (gone : List (Nat × Nat)) :
    ((without database gone).userPolicies.map linkKey).Nodup :=
  tables.linksUnique.sublist (List.filter_sublist.map linkKey)

theorem policy_ids_differ (tables : Tables server database) (name : String)
    (policy superuser : Policy) (found : database.getByName name = some policy)
    (found' : database.getByName systemSuperuserPolicyName = some superuser)
    (differs : name ≠ systemSuperuserPolicyName) : policy.id ≠ superuser.id := by
  intro sameId
  have same := tables.policy_unique policy superuser (List.mem_of_find?_eq_some found)
    (List.mem_of_find?_eq_some found') sameId
  have named : policy.name = name := by simpa using List.find?_some found
  have named' : superuser.name = systemSuperuserPolicyName := by simpa using List.find?_some found'
  exact differs (by rw [← named, same, named'])

/-- A removal takes one superuser assignment away exactly when it is staged. -/
theorem inStep_removed (tables : Tables server database) (gone : List (Nat × Nat)) (staged : Nat)
    (inStep : InStep database gone staged) (name : String) (policy : Policy)
    (named : database.getByName name = some policy) (userId : Nat)
    (held : (without database gone).userHoldsPolicy userId policy.id = true) :
    InStep database (gone ++ [(userId, policy.id)])
      (if name = systemSuperuserPolicyName then staged + 1 else staged) := by
  refine ⟨fun superuser found => ?_⟩
  have before := inStep.counted superuser found
  rw [← removeAssignment_without]
  by_cases same : name = systemSuperuserPolicyName
  · obtain rfl : policy = superuser := by
      rw [same, found] at named
      exact (Option.some.inj named).symm
    have counted := count_removeAssignment (without database gone) (without_keys_nodup tables gone)
      userId policy.id held
    simp only [same, if_true]
    omega
  · have differs := policy_ids_differ tables name policy superuser named found same
    rw [count_removeAssignment_other _ _ _ _ differs]
    simpa [same] using before

theorem removeSingle_without (gone : List (Nat × Nat)) (tables : Tables server database)
    (item : BulkPolicyItem)
    (authorized : requireAuthorization server (without database gone) request .policiesRevoke
      "policies" = .ok ()) :
    removeSingle server (without database gone) request item =
      settleSingle server (without database gone) request item := by
  apply removeSingle_eq server (without database gone) request item authorized
  intro policy member
  exact proposedBlock_of_validated _ (tables.policyConditions policy member)

section Resolved

variable (gone : List (Nat × Nat)) (staged : Nat) (inStep : InStep database gone staged)
variable (tables : Tables server database) (askers : Askers) (item : BulkPolicyItem)
variable (cache : GrantCache)
variable (authorized : requireAuthorization server (without database gone) request .policiesRevoke
  "policies" = .ok ())
variable (address : server.normalizeEmail item.userEmail = item.userEmail)

variable (user : User) (found : database.getByEmail item.userEmail = some user)
variable (policy : Policy) (named : database.getByName item.policyName = some policy)
variable (ordinary : user.role ≠ .system)

section Routes

include found named ordinary

theorem settleBulk_refused (failure : Failure)
    (shared : (guardShared server database request policy cache).1 = .error failure) :
    settleBulk server database request item cache staged = (.notGrantable, [], staged) := by
  simp [settleBulk, found, named, ordinary, shared]

theorem settleBulk_permitted
    (shared : (guardShared server database request policy cache).1 = .ok ()) :
    settleBulk server database request item cache staged =
      if database.userHoldsPolicy user.id policy.id = false then
        (.notHeld, [(user.id, policy.id)], staged)
      else if item.policyName = systemSuperuserPolicyName then
        if database.countAssignments policy.id ≤ staged + 1 then (.lastSuperuser, [], staged)
        else (.removed, [(user.id, policy.id)], staged + 1)
      else (.removed, [(user.id, policy.id)], staged) := by
  simp only [settleBulk, found, named, ordinary, if_false, shared]

include tables authorized address

theorem removeSingle_refused (failure : Failure)
    (alone : guardAlone server.runtime ((without database gone).holdings request.caller)
      request.caller request.context policy.proposal = .error failure) :
    removeSingle server (without database gone) request item =
      (.notGrantable, without database gone) := by
  have found' : (without database gone).getByEmail (server.normalizeEmail item.userEmail) =
      some user := by
    rw [address]
    exact found
  have named' : (without database gone).getByName item.policyName = some policy := named
  rw [removeSingle_without request gone tables item authorized]
  simp only [settleSingle, found', named', ordinary, if_false, alone]

theorem removeSingle_permitted
    (alone : guardAlone server.runtime ((without database gone).holdings request.caller)
      request.caller request.context policy.proposal = .ok ()) :
    removeSingle server (without database gone) request item =
      if (without database gone).userHoldsPolicy user.id policy.id = false then
        (.notHeld, without database gone)
      else if item.policyName = systemSuperuserPolicyName ∧
          (without database gone).countAssignments policy.id ≤ 1 then
        (.lastSuperuser, without database gone)
      else (.removed, (without database gone).removeAssignment user.id policy.id) := by
  have found' : (without database gone).getByEmail (server.normalizeEmail item.userEmail) =
      some user := by
    rw [address]
    exact found
  have named' : (without database gone).getByName item.policyName = some policy := named
  rw [removeSingle_without request gone tables item authorized]
  simp only [settleSingle, found', named', ordinary, if_false, alone]

end Routes

include authorized address found named

theorem undisturbed_of_resolved
    (covered : Covers server.runtime ((without database gone).holdings request.caller)
        request.caller request.context policy.proposal ↔
      Covers server.runtime (database.holdings request.caller) request.caller request.context
        policy.proposal ∧ ¬ Preempted server database request askers policy.proposal)
    (held : Covers server.runtime ((without database gone).holdings request.caller) request.caller
        request.context policy.proposal →
      (without database gone).userHoldsPolicy user.id policy.id =
        database.userHoldsPolicy user.id policy.id) :
    Undisturbed server database request (without database gone) askers item := by
  refine ⟨authorized, Or.inl address, ?_, ?_⟩ <;> intro user' policy' present known _
  · obtain rfl := Option.some.inj (found.symm.trans present)
    obtain rfl := Option.some.inj (named.symm.trans known)
    exact covered
  · obtain rfl := Option.some.inj (found.symm.trans present)
    obtain rfl := Option.some.inj (named.symm.trans known)
    exact held

variable (guards : (guardShared server database request policy cache).1 = .ok () ↔
  Covers server.runtime (database.holdings request.caller) request.caller request.context
    policy.proposal ∧ ¬ Preempted server database request askers policy.proposal)

include guards

include inStep tables ordinary

/-- The batch's guard refuses the item. -/
theorem settle_refused (failure : Failure)
    (shared : (guardShared server database request policy cache).1 = .error failure) :
    Together server database request gone staged askers item cache ∨
      Apart server database request gone staged askers item cache := by
  have bulk := settleBulk_refused request staged item cache user found policy named ordinary failure
    shared
  cases alone : guardAlone server.runtime ((without database gone).holdings request.caller)
      request.caller request.context policy.proposal with
  | error failure' =>
      left
      apply together_of_refused request gone staged inStep askers item cache .notGrantable bulk
      · exact removeSingle_refused request gone tables item authorized address user found policy
          named ordinary failure' alone
      · have uncovered : ¬ Covers server.runtime ((without database gone).holdings request.caller)
            request.caller request.context policy.proposal := by
          simp [← guardAlone_ok_iff, alone]
        apply undisturbed_of_resolved request gone askers item authorized address user found policy
          named
        · simp [uncovered, ← guards, shared]
        · exact fun covered => absurd covered uncovered
  | ok passed =>
      right
      refine ⟨?_, ?_⟩
      · rw [bulk, removeSingle_permitted request gone tables item authorized address user found
          policy named ordinary alone]
        repeat' split
        all_goals simp
      · intro undisturbed
        have covered := (guardAlone_ok_iff _ _ _ _ _).mp alone
        have passed' := guards.mpr
          ((undisturbed.covered user policy found named ordinary).mp covered)
        simp [shared] at passed'

omit inStep in
/-- Only the guard of the item's own request refuses it. -/
theorem apart_of_alone_refused (failure : Failure)
    (shared : (guardShared server database request policy cache).1 = .ok ())
    (alone : guardAlone server.runtime ((without database gone).holdings request.caller)
      request.caller request.context policy.proposal = .error failure) :
    Apart server database request gone staged askers item cache := by
  refine ⟨?_, ?_⟩
  · rw [settleBulk_permitted request staged item cache user found policy named ordinary shared,
      removeSingle_refused request gone tables item authorized address user found policy named
        ordinary failure alone]
    repeat' split
    all_goals simp
  · intro undisturbed
    have covered := (undisturbed.covered user policy found named ordinary).mpr (guards.mp shared)
    simp [← guardAlone_ok_iff, alone] at covered

section Permitted

variable (shared : (guardShared server database request policy cache).1 = .ok ())
variable (alone : guardAlone server.runtime ((without database gone).holdings request.caller)
  request.caller request.context policy.proposal = .ok ())

include shared alone

/-- The user never held the policy. -/
theorem together_of_not_held
    (before : database.userHoldsPolicy user.id policy.id = false) :
    Together server database request gone staged askers item cache := by
  have bulk := settleBulk_permitted request staged item cache user found policy named ordinary
    shared
  have single := removeSingle_permitted request gone tables item authorized address user found
    policy named ordinary alone
  have now : (without database gone).userHoldsPolicy user.id policy.id = false := by
    by_contra held
    have both := (without_holds_iff database gone user.id policy.id).mp (by simpa using held)
    simp [before] at both
  simp only [before, now, if_true] at bulk single
  refine ⟨by rw [bulk, single], ?_, ?_, ?_⟩
  · rw [bulk, single, without_of_not_held database gone _ _ before]
  · rw [bulk]
    refine ⟨fun superuser known => ?_⟩
    rw [without_of_not_held database gone _ _ before]
    exact inStep.counted superuser known
  · apply undisturbed_of_resolved request gone askers item authorized address user found policy named
    · exact iff_of_true ((guardAlone_ok_iff _ _ _ _ _).mp alone) (guards.mp shared)
    · intro _
      rw [before, now]

omit inStep guards in
/-- An earlier item has taken the assignment away. -/
theorem apart_of_lost (before : database.userHoldsPolicy user.id policy.id = true)
    (now : (without database gone).userHoldsPolicy user.id policy.id = false) :
    Apart server database request gone staged askers item cache := by
  have bulk := settleBulk_permitted request staged item cache user found policy named ordinary
    shared
  have single := removeSingle_permitted request gone tables item authorized address user found
    policy named ordinary alone
  simp only [before, Bool.true_eq_false, if_false] at bulk
  simp only [now, if_true] at single
  refine ⟨?_, ?_⟩
  · rw [bulk, single]
    repeat' split
    all_goals simp
  · intro undisturbed
    have covered := (guardAlone_ok_iff _ _ _ _ _).mp alone
    have same := undisturbed.held user policy found named ordinary covered
    simp [before, now] at same

/-- The user holds the policy: only its last superuser assignment stays. -/
theorem together_of_held (before : database.userHoldsPolicy user.id policy.id = true)
    (now : (without database gone).userHoldsPolicy user.id policy.id = true) :
    Together server database request gone staged askers item cache := by
  have bulk := settleBulk_permitted request staged item cache user found policy named ordinary
    shared
  have single := removeSingle_permitted request gone tables item authorized address user found
    policy named ordinary alone
  simp only [before, Bool.true_eq_false, if_false] at bulk
  simp only [now, Bool.true_eq_false, if_false] at single
  have undisturbed := undisturbed_of_resolved request gone askers item authorized address user found
    policy named (iff_of_true ((guardAlone_ok_iff _ _ _ _ _).mp alone) (guards.mp shared))
    (fun _ => by rw [before, now])
  have removed := inStep_removed tables gone staged inStep item.policyName policy named user.id now
  have together (staged' : Nat)
      (bulk : settleBulk server database request item cache staged =
        (.removed, [(user.id, policy.id)], staged'))
      (single : removeSingle server (without database gone) request item =
        (.removed, (without database gone).removeAssignment user.id policy.id))
      (counted : InStep database (gone ++ [(user.id, policy.id)]) staged') :
      Together server database request gone staged askers item cache :=
    ⟨by rw [bulk, single], by rw [bulk, single, removeAssignment_without],
      by rw [bulk]; exact counted, undisturbed⟩
  by_cases superuser : item.policyName = systemSuperuserPolicyName
  · have counted := inStep.counted policy (superuser ▸ named)
    simp only [superuser, if_true] at bulk removed
    by_cases last : database.countAssignments policy.id ≤ staged + 1
    · have lastNow : (without database gone).countAssignments policy.id ≤ 1 := by
        omega
      apply together_of_refused request gone staged inStep askers item cache .lastSuperuser _ _ undisturbed
      · rw [bulk, if_pos last]
      · rw [single, if_pos ⟨superuser, lastNow⟩]
    · have spare : ¬ (without database gone).countAssignments policy.id ≤ 1 := by
        omega
      apply together (staged + 1) _ _ removed
      · rw [bulk, if_neg last]
      · rw [single, if_neg fun both => spare both.2]
  · simp only [superuser, if_false] at bulk removed
    apply together staged bulk _ removed
    rw [single, if_neg fun both => superuser both.1]

end Permitted

/-- The item is resolved to a user and a policy: the guards and the assignment decide. -/
theorem settle_resolved :
    Together server database request gone staged askers item cache ∨
      Apart server database request gone staged askers item cache := by
  cases shared : (guardShared server database request policy cache).1 with
  | error failure =>
      exact settle_refused request gone staged inStep tables askers item cache authorized address
        user found policy named ordinary guards failure shared
  | ok passed =>
      cases alone : guardAlone server.runtime ((without database gone).holdings request.caller)
          request.caller request.context policy.proposal with
      | error failure =>
          right
          exact apart_of_alone_refused request gone staged tables askers item cache authorized
            address user found policy named ordinary guards failure shared alone
      | ok passed' =>
          cases before : database.userHoldsPolicy user.id policy.id with
          | false =>
              left
              exact together_of_not_held request gone staged inStep tables askers item cache
                authorized address user found policy named ordinary guards shared alone before
          | true =>
              cases now : (without database gone).userHoldsPolicy user.id policy.id with
              | false =>
                  right
                  exact apart_of_lost request gone staged tables askers item cache authorized
                    address user found policy named ordinary shared alone before now
              | true =>
                  left
                  exact together_of_held request gone staged inStep tables askers item cache
                    authorized address user found policy named ordinary guards shared alone before
                    now

end Resolved

theorem settle_step (gone : List (Nat × Nat)) (staged : Nat)
    (inStep : InStep database gone staged) (tables : Tables server database) (askers : Askers)
    (item : BulkPolicyItem) (cache : GrantCache)
    (recorded : RecordedBatch server database request askers cache) :
    Together server database request gone staged askers item cache ∨
      Apart server database request gone staged askers item cache := by
  by_cases authorized : requireAuthorization server (without database gone) request
      .policiesRevoke "policies" = .ok ()
  · have single := removeSingle_without request gone tables item authorized
    by_cases address : server.normalizeEmail item.userEmail = item.userEmail
    · have same : (without database gone).getByEmail (server.normalizeEmail item.userEmail) =
          database.getByEmail item.userEmail := by
        rw [address]
        rfl
      have named : (without database gone).getByName item.policyName =
          database.getByName item.policyName := rfl
      rw [settleSingle, same, named] at single
      cases found : database.getByEmail item.userEmail with
      | none =>
          left
          apply together_of_refused request gone staged inStep askers item cache .userNotFound
          · simp [settleBulk, found]
          · rw [single, found]
          · refine ⟨authorized, Or.inl address, ?_, ?_⟩ <;>
              exact fun user policy present => by simp [found] at present
      | some user =>
          cases policy? : database.getByName item.policyName with
          | none =>
              left
              apply together_of_refused request gone staged inStep askers item cache .policyNotFound
              · simp [settleBulk, found, policy?]
              · rw [single, found, policy?]
              · refine ⟨authorized, Or.inl address, ?_, ?_⟩ <;>
                  exact fun user policy _ known => by simp [policy?] at known
          | some policy =>
              by_cases system : user.role = .system
              · left
                apply together_of_refused request gone staged inStep askers item cache .systemUser
                · simp [settleBulk, found, policy?, system]
                · rw [single, found, policy?]
                  simp [system]
                · refine ⟨authorized, Or.inl address, ?_, ?_⟩ <;>
                    exact fun user' policy' present _ ordinary => by
                      obtain rfl := Option.some.inj (found.symm.trans present)
                      exact absurd system ordinary
              · have block := proposedBlock_of_validated _
                  (tables.policyConditions policy (List.mem_of_find?_eq_some policy?))
                obtain ⟨_, guards, _⟩ := guardShared_recorded server database request policy block
                  askers cache recorded
                exact settle_resolved request gone staged inStep tables askers item cache authorized
                  address user found policy policy? system guards
    · have absent := getByEmail_of_unnormalized server database tables _ address
      have bulk : settleBulk server database request item cache staged =
          (.userNotFound, [], staged) := by
        simp [settleBulk, absent]
      cases found : database.getByEmail (server.normalizeEmail item.userEmail) with
      | none =>
          have found' : (without database gone).getByEmail
              (server.normalizeEmail item.userEmail) = none := found
          left
          apply together_of_refused request gone staged inStep askers item cache .userNotFound bulk
          · rw [single, settleSingle, found']
          · refine ⟨authorized, Or.inr found, ?_, ?_⟩ <;>
              exact fun user policy present => by simp [absent] at present
      | some user =>
          right
          refine ⟨?_, ?_⟩
          · rw [bulk, single]
            exact (settleSingle_found server (without database gone) request item user found).symm
          · intro undisturbed
            rcases undisturbed.address with normalized | none'
            · exact address normalized
            · simp [found] at none'
  · right
    refine ⟨?_, fun undisturbed => authorized undisturbed.authorized⟩
    rw [removeSingle_forbidden _ _ _ _ authorized]
    exact settleBulk_not_forbidden server database request item cache staged

end Step

/-! ## The whole batch -/

section Run

variable (server : Server) (database : Database) (request : Request)

/-- Every item is undisturbed when its turn comes among the single requests. -/
def AllUndisturbed (items : List BulkPolicyItem) : Prop :=
  ∀ before item after, items = before ++ item :: after →
    Undisturbed server database request (removeEach server request before database).2
      (firstAsker server.runtime (database.holdings request.caller) request.caller request.context
        (before.filterMap (putToGuard database))) item

/-- The same from a moment of the run on: the tables of the moment, and who has asked first. -/
def UndisturbedFrom (current : Database) (askers : Askers) (items : List BulkPolicyItem) : Prop :=
  ∀ before item after, items = before ++ item :: after →
    Undisturbed server database request (removeEach server request before current).2
      (before.foldl (askersAfterItem server database request) askers) item

theorem undisturbedFrom_nil (current : Database) (askers : Askers) :
    UndisturbedFrom server database request current askers [] := by
  intro before item after split
  simp at split

theorem undisturbedFrom_cons (current : Database) (askers : Askers) (item : BulkPolicyItem)
    (rest : List BulkPolicyItem) :
    UndisturbedFrom server database request current askers (item :: rest) ↔
      Undisturbed server database request current askers item ∧
        UndisturbedFrom server database request (removeSingle server current request item).2
          (askersAfterItem server database request askers item) rest := by
  constructor
  · intro every
    refine ⟨every [] item rest rfl, fun before other after split => ?_⟩
    exact every (item :: before) other after (by rw [split]; rfl)
  · rintro ⟨head, later⟩ before other after split
    cases before with
    | nil =>
        obtain ⟨rfl, rfl⟩ := List.cons.inj split
        exact head
    | cons earlier before =>
        obtain ⟨rfl, rfl⟩ := List.cons.inj split
        exact later before other after rfl

theorem foldl_askersAfterItem (items : List BulkPolicyItem) (askers : Askers) :
    items.foldl (askersAfterItem server database request) askers =
      (items.filterMap (putToGuard database)).foldl (askersAfter server database request)
        askers := by
  induction items generalizing askers with
  | nil => rfl
  | cons item rest ih =>
      cases put : putToGuard database item with
      | none => simp [askersAfterItem, put, ih]
      | some proposal => simp [askersAfterItem, put, ih]

theorem allUndisturbed_iff (items : List BulkPolicyItem) :
    AllUndisturbed server database request items ↔
      UndisturbedFrom server database request database (fun _ => none) items := by
  simp only [AllUndisturbed, UndisturbedFrom, foldl_askersAfterItem]
  rfl

theorem resolvePolicyItem_congr (usersByEmail usersByEmail' : String → Option User)
    (policiesByName policiesByName' : String → Option Policy) (item : BulkPolicyItem)
    (cache : GrantCache) (users : usersByEmail item.userEmail = usersByEmail' item.userEmail)
    (policies : policiesByName item.policyName = policiesByName' item.policyName) :
    resolvePolicyItem server database request usersByEmail policiesByName item cache =
      resolvePolicyItem server database request usersByEmail' policiesByName' item cache := by
  simp only [resolvePolicyItem, users, policies]

/-- What the route fetched before its loop serves the items of the batch. -/
structure Fetched (usersByEmail : String → Option User) (policiesByName : String → Option Policy)
    (holders : List String) (item : BulkPolicyItem) : Prop where
  user : usersByEmail item.userEmail = database.getByEmail item.userEmail
  policy : policiesByName item.policyName = database.getByName item.policyName
  holders : item.policyName = systemSuperuserPolicyName →
    ∀ policy, database.getByName item.policyName = some policy →
      HoldersOf database holders policy

variable {server} {database}

theorem holdersOf_dedup (tables : Tables server database) (policy : Policy) :
    HoldersOf database (holderEmails database policy.id).dedup policy := by
  refine ⟨fun user member => ?_, ?_⟩
  · rw [List.mem_dedup]
    exact mem_holderEmails_iff tables user member policy.id
  · rw [List.Nodup.dedup (holderEmails_nodup tables policy.id)]
    exact holderEmails_length tables policy.id

theorem fetched_of_mem (tables : Tables server database) (items : List BulkPolicyItem)
    (item : BulkPolicyItem) (member : item ∈ items) :
    Fetched database
      (getByEmails server database (items.map BulkPolicyItem.userEmail))
      (getPoliciesByNames database (items.map BulkPolicyItem.policyName))
      (superuserHolders database
        (getPoliciesByNames database (items.map BulkPolicyItem.policyName))) item := by
  have named := getPoliciesByNames_eq database _ item.policyName (List.mem_map_of_mem member)
  refine ⟨getByEmails_eq server database tables _ _ (List.mem_map_of_mem member), named, ?_⟩
  intro superuser policy found
  rw [superuser] at named found
  rw [superuserHolders, named, found]
  exact holdersOf_dedup tables policy

theorem resolve_fetched (tables : Tables server database) (usersByEmail : String → Option User)
    (policiesByName : String → Option Policy) (holders : List String) (item : BulkPolicyItem)
    (fetched : Fetched database usersByEmail policiesByName holders item) (askers : Askers)
    (cache : GrantCache) (recorded : RecordedBatch server database request askers cache)
    (staged : Nat) :
    ∃ resolved cache',
      resolvePolicyItem server database request usersByEmail policiesByName item cache =
        (.ok resolved, cache') ∧
      RecordedBatch server database request (askersAfterItem server database request askers item)
        cache' ∧
      (decisionOutcome database (stageRemoval holders item staged resolved).1,
          partedPairs (stageRemoval holders item staged resolved).1,
          (stageRemoval holders item staged resolved).2) =
        settleBulk server database request item cache staged := by
  rw [resolvePolicyItem_congr server database request _ _ _ _ item cache fetched.user
    fetched.policy]
  exact resolve_eq server database request holders item
    (fun policy member => proposedBlock_of_validated _ (tables.policyConditions policy member))
    fetched.holders askers cache recorded staged

theorem decideItems_ok (tables : Tables server database) (usersByEmail : String → Option User)
    (policiesByName : String → Option Policy) (holders : List String)
    (items : List BulkPolicyItem)
    (fetched : ∀ item ∈ items, Fetched database usersByEmail policiesByName holders item)
    (askers : Askers) (cache : GrantCache)
    (recorded : RecordedBatch server database request askers cache) (staged : Nat) :
    ∃ decisions, decideItems server database request usersByEmail policiesByName holders items
        cache staged = .ok decisions ∧ decisions.length = items.length := by
  induction items generalizing askers cache staged with
  | nil => exact ⟨[], rfl, rfl⟩
  | cons item rest ih =>
      obtain ⟨resolved, cache', found, recorded', _⟩ := resolve_fetched request tables usersByEmail
        policiesByName holders item (fetched item List.mem_cons_self) askers cache recorded staged
      obtain ⟨decisions, decided, length⟩ := ih
        (fun other inRest => fetched other (List.mem_cons_of_mem _ inRest)) _ cache' recorded'
        (stageRemoval holders item staged resolved).2
      refine ⟨(stageRemoval holders item staged resolved).1 :: decisions, ?_, ?_⟩
      · simp only [decideItems, found, decided]
        rfl
      · simp [length]

/-- The batch's decisions say what the single requests say exactly when every item is undisturbed,
and then the two sets of tables are the same. -/
theorem decideItems_agree (tables : Tables server database) (usersByEmail : String → Option User)
    (policiesByName : String → Option Policy) (holders : List String)
    (items : List BulkPolicyItem)
    (fetched : ∀ item ∈ items, Fetched database usersByEmail policiesByName holders item)
    (askers : Askers) (cache : GrantCache)
    (recorded : RecordedBatch server database request askers cache) (gone : List (Nat × Nat))
    (staged : Nat) (inStep : InStep database gone staged) (decisions : List Decision)
    (decided : decideItems server database request usersByEmail policiesByName holders items cache
      staged = .ok decisions) :
    (decisions.map (decisionOutcome database) =
        (removeEach server request items (without database gone)).1 ↔
      UndisturbedFrom server database request (without database gone) askers items) ∧
    (UndisturbedFrom server database request (without database gone) askers items →
      (removeEach server request items (without database gone)).2 =
        without database (gone ++ decisions.flatMap partedPairs)) := by
  induction items generalizing askers cache gone staged decisions with
  | nil =>
      obtain rfl : [] = decisions := by simpa [decideItems] using decided
      simp [removeEach, undisturbedFrom_nil]
  | cons item rest ih =>
      obtain ⟨resolved, cache', found, recorded', settled⟩ :=
        resolve_fetched request tables usersByEmail policiesByName holders item
          (fetched item List.mem_cons_self) askers cache recorded staged
      simp only [decideItems, found] at decided
      generalize stageRemoval holders item staged resolved = stage at settled decided
      obtain ⟨decision, staged'⟩ := stage
      obtain ⟨later, decidedLater, rfl⟩ : ∃ later, decideItems server database request usersByEmail
          policiesByName holders rest cache' staged' = .ok later ∧ decision :: later = decisions := by
        cases decidedLater : decideItems server database request usersByEmail policiesByName
            holders rest cache' staged' with
        | error failure => simp [decidedLater, Except.map] at decided
        | ok later =>
            rw [decidedLater] at decided
            exact ⟨later, rfl, Except.ok.inj decided⟩
      simp only [removeEach, undisturbedFrom_cons, List.map_cons, List.cons.injEq,
        List.flatMap_cons, ← List.append_assoc]
      rcases settle_step request gone staged inStep tables askers item cache recorded with
        together | ⟨differs, disturbed⟩
      · have inStep' := together.inStep
        rw [together.after]
        rw [← settled] at inStep' ⊢
        obtain ⟨outcomes, tables'⟩ := ih
          (fun other inRest => fetched other (List.mem_cons_of_mem _ inRest)) _ cache' recorded'
          (gone ++ partedPairs decision) staged' inStep' later decidedLater
        have same : decisionOutcome database decision =
            (removeSingle server (without database gone) request item).1 := by
          rw [← together.outcome, ← settled]
        refine ⟨?_, fun undisturbed => tables' undisturbed.2⟩
        rw [outcomes]
        exact ⟨fun both => ⟨together.undisturbed, both.2⟩, fun both => ⟨same, both.2⟩⟩
      · rw [← settled] at differs
        constructor
        · exact ⟨fun both => absurd both.1 differs, fun both => absurd both.1 disturbed⟩
        · exact fun both => absurd both.1 disturbed

end Run

/-! ## The response -/

section Response

variable (server : Server) (database : Database) (request : Request)

/-- The response lists the refused items first; item by item it says nothing else. -/
theorem results_perm (existing : List UserPolicy) (entries : List (BulkPolicyItem × Decision)) :
    (entries.filterMap errorResult ++
        ((entries.map Prod.snd).filterMap Except.toOption).map (removalResult existing)).Perm
      (entries.map fun entry => itemResult existing entry.1 entry.2) := by
  induction entries with
  | nil => simp
  | cons entry rest ih =>
      obtain ⟨item, decision⟩ := entry
      cases decision with
      | error code => exact ih.cons _
      | ok valid => exact List.perm_middle.trans (ih.cons _)

theorem mem_existing_iff (decisions : List Decision) (user : User) (policy : Policy)
    (member : .ok (user, policy) ∈ decisions) :
    pairKey (user, policy) ∈
        (existingRows database (decisions.filterMap Except.toOption)).map linkKey ↔
      database.userHoldsPolicy user.id policy.id = true := by
  have valid : (user, policy) ∈ decisions.filterMap Except.toOption :=
    List.mem_filterMap.mpr ⟨_, member, rfl⟩
  rw [userHoldsPolicy_iff]
  constructor
  · intro listed
    obtain ⟨link, kept, same⟩ := List.mem_map.mp listed
    exact List.mem_map.mpr ⟨link, (List.mem_filter.mp kept).1, same⟩
  · intro listed
    obtain ⟨link, linked, same⟩ := List.mem_map.mp listed
    obtain ⟨sameUser, samePolicy⟩ := Prod.mk.inj same
    refine List.mem_map.mpr ⟨link, List.mem_filter.mpr ⟨linked, ?_⟩, same⟩
    rw [Bool.and_eq_true, decide_eq_true_eq, decide_eq_true_eq, sameUser, samePolicy]
    exact ⟨List.mem_map.mpr ⟨_, valid, rfl⟩, List.mem_map.mpr ⟨_, valid, rfl⟩⟩

theorem outcome_of_itemResult (decisions : List Decision) (item : BulkPolicyItem)
    (decision : Decision) (member : decision ∈ decisions) :
    outcomeOfResult (itemResult (existingRows database (decisions.filterMap Except.toOption)) item
      decision) = decisionOutcome database decision := by
  cases decision with
  | error code => rfl
  | ok valid =>
      obtain ⟨user, policy⟩ := valid
      have existing := mem_existing_iff database decisions user policy member
      simp only [itemResult, removalResult, decisionOutcome, existing]
      split <;> rfl

theorem partedPairs_flatMap (decisions : List Decision) :
    decisions.flatMap partedPairs = (decisions.filterMap Except.toOption).map pairKey := by
  induction decisions with
  | nil => rfl
  | cons decision rest ih =>
      rw [List.flatMap_cons, ih]
      cases decision <;> rfl

theorem bulkRemovePolicies_tables (decisions : List Decision) :
    (bulkRemovePolicies database (decisions.filterMap Except.toOption)).1 =
      without database (decisions.flatMap partedPairs) := by
  simp only [bulkRemovePolicies, without, partedPairs_flatMap]
  congr 1
  apply List.filter_congr
  intro link linked
  by_cases deleted : linkKey link ∈ (decisions.filterMap Except.toOption).map pairKey
  · -- A pair to delete was fetched as a row of its user and its policy.
    obtain ⟨valid, member, same⟩ := List.mem_map.mp deleted
    obtain ⟨sameUser, samePolicy⟩ := Prod.mk.inj same
    have fetched : link ∈ existingRows database (decisions.filterMap Except.toOption) := by
      refine List.mem_filter.mpr ⟨linked, ?_⟩
      rw [Bool.and_eq_true, decide_eq_true_eq, decide_eq_true_eq, ← sameUser, ← samePolicy]
      exact ⟨List.mem_map.mpr ⟨_, member, rfl⟩, List.mem_map.mpr ⟨_, member, rfl⟩⟩
    simp [deleted, List.mem_map_of_mem fetched]
  · simp [deleted]

end Response

/-! ## Agreement -/

section Agreement

variable (server : Server) (database : Database) (request : Request)

theorem removeEach_forbidden (items : List BulkPolicyItem)
    (refused : requireAuthorization server database request .policiesRevoke "policies" ≠ .ok ()) :
    removeEach server request items database = (items.map fun _ => .forbidden, database) := by
  induction items with
  | nil => rfl
  | cons item rest ih =>
      simp only [removeEach, removeSingle_forbidden server database request item refused, ih]
      rfl

theorem removeInBulk_forbidden (items : List BulkPolicyItem)
    (refused : requireAuthorization server database request .policiesRevoke "policies" ≠ .ok ()) :
    removeInBulk server database request items = (items.map fun _ => .forbidden, database) := by
  simp only [removeInBulk, bulkRemove,
    requireAuthorization_refused server database request _ _ refused]
  rfl

/-- The loop decided every item of the batch. -/
structure Decided (items : List BulkPolicyItem) (decisions : List Decision) : Prop where
  length : decisions.length = items.length
  loop : decideItems server database request
    (getByEmails server database (items.map BulkPolicyItem.userEmail))
    (getPoliciesByNames database (items.map BulkPolicyItem.policyName))
    (superuserHolders database
      (getPoliciesByNames database (items.map BulkPolicyItem.policyName))) items [] 0 =
    .ok decisions

theorem removeInBulk_eq (items : List BulkPolicyItem)
    (authorized : requireAuthorization server database request .policiesRevoke "policies" = .ok ())
    (decisions : List Decision) (decided : Decided server database request items decisions) :
    removeInBulk server database request items =
      (decisions.map (decisionOutcome database),
        without database (decisions.flatMap partedPairs)) := by
  have tables := bulkRemovePolicies_tables database decisions
  simp only [removeInBulk, bulkRemove, authorized, decided.loop, bind, Except.bind]
  rw [Prod.mk.injEq]
  refine ⟨?_, tables⟩
  calc (items.zip decisions).map (fun entry => outcomeOfResult (itemResult
          (existingRows database (decisions.filterMap Except.toOption)) entry.1 entry.2))
      = (items.zip decisions).map (fun entry => decisionOutcome database entry.2) := by
        apply List.map_congr_left
        intro entry member
        exact outcome_of_itemResult database decisions entry.1 entry.2 (List.of_mem_zip member).2
    _ = ((items.zip decisions).map Prod.snd).map (decisionOutcome database) := by
        rw [List.map_map]
        rfl
    _ = decisions.map (decisionOutcome database) := by
        rw [List.map_snd_zip decided.length.le]

theorem exists_decided (tables : Tables server database) (items : List BulkPolicyItem) :
    ∃ decisions, Decided server database request items decisions := by
  obtain ⟨decisions, decided, length⟩ := decideItems_ok request tables _ _ _ items
    (fetched_of_mem tables items) _ [] (recordedBatch_nil server database request) 0
  exact ⟨decisions, length, decided⟩

/-- What the route responds with is the results of its items, the refused ones first. -/
theorem response_perm (tables : Tables server database) (items : List BulkPolicyItem)
    (removal : BulkRemoval) (accepted : bulkRemove server database request items = .ok removal) :
    removal.results.Perm ((items.zip removal.decisions).map fun entry =>
      itemResult (existingRows database (removal.decisions.filterMap Except.toOption)) entry.1
        entry.2) := by
  obtain ⟨decisions, decided⟩ := exists_decided server database request tables items
  by_cases authorized : requireAuthorization server database request .policiesRevoke "policies" =
      .ok ()
  · simp only [bulkRemove, authorized, decided.loop, bind, Except.bind] at accepted
    obtain rfl := Except.ok.inj accepted
    have perm := results_perm (existingRows database (decisions.filterMap Except.toOption))
      (items.zip decisions)
    rwa [List.map_snd_zip decided.length.le] at perm
  · simp only [bulkRemove, requireAuthorization_refused server database request _ _ authorized]
      at accepted
    simp [raiseApp, bind, Except.bind] at accepted

/-- The batch gives the outcomes and the tables of the single requests exactly when the caller may
not revoke at all, or every item finds at its turn what the batch found at the start. -/
theorem bulk_removal_agrees_iff (tables : Tables server database) (items : List BulkPolicyItem) :
    removeInBulk server database request items = removeEach server request items database ↔
      requireAuthorization server database request .policiesRevoke "policies" ≠ .ok () ∨
        AllUndisturbed server database request items := by
  by_cases authorized : requireAuthorization server database request .policiesRevoke "policies" =
      .ok ()
  · obtain ⟨decisions, decided⟩ := exists_decided server database request tables items
    obtain ⟨outcomes, after⟩ := decideItems_agree request tables _ _ _ items
      (fetched_of_mem tables items) _ [] (recordedBatch_nil server database request) [] 0
      ⟨fun policy _ => by simp [without_nil]⟩ decisions decided.loop
    rw [without_nil, ← allUndisturbed_iff] at outcomes after
    rw [removeInBulk_eq server database request items authorized decisions decided]
    constructor
    · intro same
      exact Or.inr (outcomes.mp (congrArg Prod.fst same))
    · rintro (refused | undisturbed)
      · exact absurd authorized refused
      · exact Prod.ext (outcomes.mpr undisturbed) (after undisturbed).symm
  · rw [removeInBulk_forbidden server database request items authorized,
      removeEach_forbidden server database request items authorized]
    exact ⟨fun _ => Or.inl authorized, fun _ => rfl⟩

end Agreement

/-! Three superusers, one of them the caller.  A batch that lists the second one twice counts two
removals and refuses the third, which single requests remove. -/

def plainServer : Server :=
  ⟨utcRuntime, id⟩

def threeSuperusers : Database where
  users := [⟨1, "root@example.com", .admin⟩, ⟨2, "ann@example.com", .admin⟩,
    ⟨3, "ben@example.com", .admin⟩]
  policies :=
    [⟨1, "system_superuser", none, builtInActions, "*", .null, true, some "system"⟩]
  userPolicies := [⟨1, 1, some "system"⟩, ⟨2, 1, some "root@example.com"⟩,
    ⟨3, 1, some "root@example.com"⟩]
  userPermissions := []
  policyHistory := []
  nextPolicyId := 2
  nextHistoryId := 1

def rootsRequest : Request :=
  ⟨"root@example.com", "203.0.113.7", "2026-01-01T00:00:00", "2026-01-01T00:00:00"⟩

def demoteAnn : BulkPolicyItem :=
  ⟨"ann@example.com", "system_superuser"⟩

def demoteBen : BulkPolicyItem :=
  ⟨"ben@example.com", "system_superuser"⟩

theorem threeSuperusers_tables : Tables plainServer threeSuperusers where
  policyIdsUnique := by decide
  policyIdsFresh := by simp [threeSuperusers]
  linksResolve := by simp [threeSuperusers]
  policyConditions := by
    intro policy member
    rw [List.mem_singleton.mp member]
    exact ⟨utcRuntime, rfl⟩
  permissionConditions := by simp [threeSuperusers]
  emailsNormalized _ _ := rfl
  emailsUnique := by decide
  userIdsUnique := by decide
  linksUnique := by decide
  linksHaveUsers := by simp [threeSuperusers]

theorem bulk_removal_agrees_iff_demotion :
    removeInBulk plainServer threeSuperusers rootsRequest [demoteAnn, demoteBen] =
        removeEach plainServer rootsRequest [demoteAnn, demoteBen] threeSuperusers ∧
      (requireAuthorization plainServer threeSuperusers rootsRequest .policiesRevoke "policies" ≠
          .ok () ∨
        AllUndisturbed plainServer threeSuperusers rootsRequest [demoteAnn, demoteBen]) :=
  have agree : removeInBulk plainServer threeSuperusers rootsRequest [demoteAnn, demoteBen] =
      removeEach plainServer rootsRequest [demoteAnn, demoteBen] threeSuperusers := by rfl
  ⟨agree, (bulk_removal_agrees_iff plainServer threeSuperusers rootsRequest threeSuperusers_tables
    [demoteAnn, demoteBen]).mp agree⟩

theorem repeated_demotion_differs :
    ¬ ∀ (server : Server) (database : Database) (request : Request) (items : List BulkPolicyItem),
      Tables server database →
        removeInBulk server database request items = removeEach server request items database := by
  intro claim
  have same := congrArg Prod.fst (claim plainServer threeSuperusers rootsRequest
    [demoteAnn, demoteAnn, demoteBen] threeSuperusers_tables)
  have bulk : (removeInBulk plainServer threeSuperusers rootsRequest
      [demoteAnn, demoteAnn, demoteBen]).1 = [.removed, .removed, .lastSuperuser] := by rfl
  have single : (removeEach plainServer rootsRequest [demoteAnn, demoteAnn, demoteBen]
      threeSuperusers).1 = [.removed, .notHeld, .removed] := by rfl
  simp [bulk, single] at same

end MysticAuth.BulkRemovals
