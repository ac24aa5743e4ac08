import Mathlib.Data.List.Dedup
import MysticAuth.Authorization.DecisionExplanation
import MysticAuth.Authorization.GuardCache
import MysticAuth.Policies.EffectiveGrants

/-!
# What the browser offers to grant

The browser decides whether a policy may be handed out from one flat list of
actions, which the session endpoint derives from the caller's active grants.
The list carries no conditions and no resource types, and the candidate's own
conditions and resource type are not looked at.
-/

set_option autoImplicit false

namespace MysticAuth

open Python PolicyEvaluationEngine

/-! ## The permission list -/

/-- `action.split(":", 1)[0]`: the resource type an action is named after. -/
def actionResourceType (action : String) : String :=
  String.ofList (action.toList.takeWhile (· != ':'))

/-- `resource_type in (action.split(":", 1)[0], "*")`. -/
def isUsable (resourceType action : String) : Bool :=
  resourceType == actionResourceType action || resourceType == "*"

/-- `get_current_user`: the sorted set of actions usable under an active policy or grant. -/
def currentUserPermissions (holdings : Holdings) : List String :=
  let permissions := holdings.activePolicies.flatMap fun policy =>
    policy.actions.filter (isUsable policy.resourceType)
  let direct := (holdings.activePermissions.filter fun grant =>
    isUsable grant.resourceType grant.action).map UserPermission.action
  (permissions ++ direct).dedup.mergeSort

/-! ## The browser's check -/

/-- The session as the browser keeps it; `isAuthenticated` is unset before the first check. -/
structure AuthStore where
  isAuthenticated : Option Bool
  permissions : List String

/-- `can` of `useAuthorization` for one action. -/
def AuthStore.can (store : AuthStore) (action : String) : Bool :=
  store.isAuthenticated.getD false && store.permissions.contains action

def canGrantAction (action : String) (can : String → Bool) : Bool :=
  can action

def canGrantPolicy (actions : List String) (can : String → Bool) : Bool :=
  actions.all fun action => canGrantAction action can

/-- The store once the session endpoint has answered. -/
def signedIn (holdings : Holdings) : AuthStore :=
  ⟨some true, currentUserPermissions holdings⟩

/-! ## The list as grants -/

section Listed

variable (holdings : Holdings)

theorem mem_currentUserPermissions (action : String) :
    action ∈ currentUserPermissions holdings ↔
      ∃ grant ∈ holdings.effectivePolicies, action ∈ grant.actions ∧
        ReachesType grant.resourceType (actionResourceType action) := by
  simp only [currentUserPermissions, List.mem_mergeSort, List.mem_dedup, List.mem_append,
    List.mem_flatMap, List.mem_filter, List.mem_map, isUsable, Bool.or_eq_true, beq_iff_eq,
    Holdings.effectivePolicies, ReachesType, wildcardResourceType, or_and_right, exists_or]
  refine or_congr ?_ ?_
  · simp [Policy.toGrant]
  · simp only [exists_exists_and_eq_and, UserPermission.toGrant, List.mem_singleton]
    constructor
    · rintro ⟨grant, ⟨member, usable⟩, rfl⟩
      exact ⟨grant, member, rfl, usable⟩
    · rintro ⟨grant, member, rfl, usable⟩
      exact ⟨grant, ⟨member, usable⟩, rfl⟩

theorem canGrantPolicy_iff (actions : List String) :
    canGrantPolicy actions (signedIn holdings).can = true ↔
      ∀ action ∈ actions, ∃ grant ∈ holdings.effectivePolicies, action ∈ grant.actions ∧
        ReachesType grant.resourceType (actionResourceType action) := by
  simp only [canGrantPolicy, canGrantAction, AuthStore.can, signedIn, Option.getD_some,
    Bool.true_and, List.all_eq_true, List.contains_iff_mem, mem_currentUserPermissions]

end Listed

/-! ## The guard on the same grants -/

section Guarded

variable (runtime : Runtime) (holdings : Holdings) (callerEmail : String)
variable (context : Option Dict)

/-- The grant matches and has no conditions, and no conditioned grant of its name matches. -/
def Unconditional (action resourceType : String) (grant : Grant) : Prop :=
  grant ∈ holdings.effectivePolicies ∧ ∀ other ∈ holdings.effectivePolicies,
    grantMatches other action resourceType = true → other.name = grant.name →
      other.conditions.truthy = false

theorem satisfied_of_unconditional (conditions : Json) (unconditional : conditions.truthy = false)
    (userEmail : String) (resource : Option Resource) :
    (evaluateConditions runtime conditions userEmail resource context).satisfied = true := by
  simp [evaluateConditions, unconditional]

theorem scope_of_unconditional (action resourceType : String) (conditions : Json)
    (block : ProposedBlock conditions) (grant : Grant)
    (matched : grantMatches grant action resourceType = true)
    (unconditional : Unconditional holdings action resourceType grant) :
    (authorizeWithDecision runtime holdings callerEmail context action resourceType).1 = true ∧
      hasScopeForGrant
        (authorizeWithDecision runtime holdings callerEmail context action resourceType).2
        conditions = some true := by
  obtain ⟨member, sameName⟩ := unconditional
  have applies : grant.applies runtime action resourceType callerEmail none context :=
    ⟨matched, satisfied_of_unconditional runtime context grant.conditions
      (sameName grant member matched rfl) callerEmail none⟩
  refine ⟨(evaluateDetailed_allowed_iff _ _ _ _ _ _ _).mpr ⟨grant, member, applies⟩, ?_⟩
  simp only [authorizeWithDecision]
  rw [hasScopeForGrant_iff _ _
    (matchedPolicyConditions_readable _ _ _ _ _ _ _ conditions block)]
  -- The entry under the grant's name is the last applied grant of that name.
  have present : ((appliedGrants runtime action resourceType callerEmail none context
      holdings.effectivePolicies).reverse.find? (·.name == grant.name)).isSome := by
    refine List.find?_isSome.mpr ⟨grant, ?_, by simp⟩
    exact List.mem_reverse.mpr ((mem_appliedGrants _ _ _ _ _ _ _ _).mpr ⟨member, applies⟩)
  obtain ⟨last, found⟩ := Option.isSome_iff_exists.mp present
  have lastApplied := (mem_appliedGrants _ _ _ _ _ _ _ _).mp
    (List.mem_reverse.mp (List.mem_of_find?_eq_some found))
  have lastName : last.name = grant.name := by simpa using List.find?_some found
  have entry : (evaluateDetailed runtime holdings.effectivePolicies action resourceType callerEmail
      none context).matchedPolicyConditions.lookup grant.name = some last.conditions := by
    rw [evaluateDetailed_matchedPolicyConditions, lookup_fillEntries, found]
    rfl
  obtain ⟨before, after, split, _⟩ := List.lookup_eq_some_iff.mp entry
  refine ⟨(grant.name, last.conditions), ?_, ?_⟩
  · rw [split]
    exact List.mem_append_right before List.mem_cons_self
  · simp [keepsSource, sameName last lastApplied.1 lastApplied.2.1 lastName]

end Guarded

/-! ## The browser's check beside the guard -/

section Beside

variable (runtime : Runtime) (holdings : Holdings) (callerEmail : String)
variable (context : Option Dict) (proposal : Proposal)

theorem canGrantPolicy_of_guard
    (ordinary : superuserFallback holdings proposal.actions = false)
    (named : ∀ action ∈ proposal.actions,
      ReachesType proposal.resourceType (actionResourceType action))
    (passed : guardAlone runtime holdings callerEmail context proposal = .ok ()) :
    canGrantPolicy proposal.actions (signedIn holdings).can = true := by
  rw [canGrantPolicy_iff]
  intro action member
  simp only [guardAlone, assertAuthorizedToGrant, ordinary] at passed
  obtain ⟨allowed, _⟩ := held_of_guardActions_ok runtime holdings callerEmail context _ _ _ passed
    action member
  obtain ⟨grant, held, matched, _⟩ := (evaluateDetailed_allowed_iff _ _ _ _ _ _ _).mp allowed
  simp only [grantMatches, Bool.and_eq_true, Bool.or_eq_true, beq_iff_eq,
    List.contains_iff_mem] at matched
  refine ⟨grant, held, matched.2, ?_⟩
  rcases matched.1 with same | wildcard
  · exact same ▸ named action member
  · exact Or.inr wildcard

theorem guard_of_canGrantPolicy
    (named : ∀ action ∈ proposal.actions, proposal.resourceType = actionResourceType action)
    (block : ProposedBlock proposal.conditions)
    (unconditional : ∀ action ∈ proposal.actions, ∀ grant ∈ holdings.effectivePolicies,
      grantMatches grant action proposal.resourceType = true →
        ∃ free, grantMatches free action proposal.resourceType = true ∧
          Unconditional holdings action proposal.resourceType free)
    (offered : canGrantPolicy proposal.actions (signedIn holdings).can = true) :
    guardAlone runtime holdings callerEmail context proposal = .ok () := by
  rw [GuardCache.guardAlone_ok_iff]
  refine Or.inr fun action member => ?_
  rw [GuardCache.coversAction_iff]
  obtain ⟨grant, held, lists, reach⟩ := (canGrantPolicy_iff _ _).mp offered action member
  have matched : grantMatches grant action proposal.resourceType = true := by
    simp only [grantMatches, Bool.and_eq_true, Bool.or_eq_true, beq_iff_eq, List.contains_iff_mem,
      named action member]
    exact ⟨reach, lists⟩
  obtain ⟨free, freeMatches, isFree⟩ := unconditional action member grant held matched
  exact scope_of_unconditional runtime holdings callerEmail context action proposal.resourceType
    proposal.conditions block free freeMatches isFree

/-- The check says that every action is held on the resource type it is named after.  For a caller
outside the superuser fallback and a candidate on that type it is implied by the guard, and implies
it where the caller's matching grants are not all conditioned. -/
theorem canGrantPolicy_beside_guard :
    (canGrantPolicy proposal.actions (signedIn holdings).can = true ↔
      ∀ action ∈ proposal.actions, ∃ grant ∈ holdings.effectivePolicies, action ∈ grant.actions ∧
        ReachesType grant.resourceType (actionResourceType action)) ∧
    (superuserFallback holdings proposal.actions = true →
      guardAlone runtime holdings callerEmail context proposal = .ok ()) ∧
    (superuserFallback holdings proposal.actions = false →
      (∀ action ∈ proposal.actions,
        ReachesType proposal.resourceType (actionResourceType action)) →
      guardAlone runtime holdings callerEmail context proposal = .ok () →
        canGrantPolicy proposal.actions (signedIn holdings).can = true) ∧
    (superuserFallback holdings proposal.actions = false →
      (∀ action ∈ proposal.actions, proposal.resourceType = actionResourceType action) →
      ProposedBlock proposal.conditions →
      (∀ action ∈ proposal.actions, ∀ grant ∈ holdings.effectivePolicies,
        grantMatches grant action proposal.resourceType = true →
          ∃ free, grantMatches free action proposal.resourceType = true ∧
            Unconditional holdings action proposal.resourceType free) →
      canGrantPolicy proposal.actions (signedIn holdings).can = true →
        guardAlone runtime holdings callerEmail context proposal = .ok ()) := by
  refine ⟨canGrantPolicy_iff holdings proposal.actions, fun fallback => ?_,
    canGrantPolicy_of_guard runtime holdings callerEmail context proposal,
    fun _ => guard_of_canGrantPolicy runtime holdings callerEmail context proposal⟩
  exact (GuardCache.guardAlone_ok_iff _ _ _ _ _).mpr (Or.inl fallback)

end Beside

theorem canGrantPolicy_beside_guard_seeded :
    canGrantPolicy ["policies:assign"] (signedIn seededSuperuser).can = true ∧
      guardAlone utcRuntime seededSuperuser "root@example.com" none
        ⟨["policies:assign"], "policies", .null⟩ = .ok () := by
  obtain ⟨_, _, offers, accepts⟩ := canGrantPolicy_beside_guard utcRuntime seededSuperuser
    "root@example.com" none ⟨["policies:assign"], "policies", .null⟩
  have offered := offers (by decide) (by decide) rfl
  refine ⟨offered, accepts (by decide) (by decide) (Or.inl rfl) ?_ offered⟩
  intro action _ grant held matched
  refine ⟨grant, matched, held, fun other otherHeld _ _ => ?_⟩
  obtain rfl : other = ⟨"system_superuser", builtInActions, "*", .null⟩ := by
    simpa [Holdings.effectivePolicies, seededSuperuser, Policy.toGrant] using otherHeld
  rfl

/-! A manager who may read reports of his own region, and a holder of the superuser policy who
is asked to hand out an action of an application. -/

def regionalManager : Holdings where
  activePolicies := []
  activePermissions := [⟨1, "reports:read", "reports", regionOnly, true, none⟩]

def invoiceProposal : Proposal :=
  ⟨["invoices:void"], "invoices", .null⟩

theorem canGrantPolicy_differs :
    (canGrantPolicy ["reports:read"] (signedIn regionalManager).can = true ∧
      guardAlone utcRuntime regionalManager "ann@example.com" (some regionContext)
          ⟨["reports:read"], "reports", .null⟩ =
        raiseApp (cannotGrantBroaderConditions "reports:read")) ∧
    (canGrantPolicy invoiceProposal.actions (signedIn seededSuperuser).can = false ∧
      guardAlone utcRuntime seededSuperuser "root@example.com" none invoiceProposal
        = .ok ()) := by
  refine ⟨⟨?_, rfl⟩, ?_, rfl⟩
  · rw [canGrantPolicy_iff]
    decide
  · rw [Bool.eq_false_iff, ne_eq, canGrantPolicy_iff]
    decide

end MysticAuth
