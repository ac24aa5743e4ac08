import MysticAuth.Authorization.NoEscalation

/-!
# What the assignment dialogs hide

Before a policy or a permission is offered, the browser joins the action and the
resource type of everything the user was given into one text and looks the
candidate up among these keys.  Neither the activity of a row nor its conditions
are part of a key, so what counts is which rows are behind the key that is found.
-/

set_option autoImplicit false

namespace MysticAuth

open Python PolicyEvaluationEngine

/-! ## The browser -/

/-- `WILDCARD_RESOURCE_TYPE`. -/
def wildcardResourceType : String := "*"

def grantKey (action resourceType : String) : String :=
  s!"{action}::{resourceType}"

def buildEffectiveGrantKeySet (assignedPolicies : List Policy)
    (directGrants : List UserPermission) : List String :=
  (assignedPolicies.flatMap fun policy =>
    policy.actions.map fun action => grantKey action policy.resourceType) ++
  directGrants.map fun grant => grantKey grant.action grant.resourceType

def hasEffectiveGrant (effectiveGrantKeys : List String) (action resourceType : String) : Bool :=
  effectiveGrantKeys.contains (grantKey action resourceType) ||
    effectiveGrantKeys.contains (grantKey action wildcardResourceType)

def policyAddsNothingNew (candidate : Policy) (effectiveGrantKeys : List String) : Bool :=
  candidate.actions.all fun action =>
    hasEffectiveGrant effectiveGrantKeys action candidate.resourceType

def isAlreadyEffectivelyGranted (effectiveGrantKeys : List String)
    (action resourceType : String) : Bool :=
  hasEffectiveGrant effectiveGrantKeys action resourceType

namespace Database

/-- Every assigned policy, active or not: what the listing endpoints return. -/
def getPoliciesForUser (database : Database) (email : String) : List Policy :=
  database.policies.filter fun policy => database.userPolicies.any fun link =>
    link.policyId == policy.id && database.isUserWithEmail link.userId email

/-- Every direct grant, active or not. -/
def getPermissionsForUser (database : Database) (email : String) : List UserPermission :=
  database.userPermissions.filter fun grant => database.isUserWithEmail grant.userId email

def effectiveGrantKeys (database : Database) (email : String) : List String :=
  buildEffectiveGrantKeySet (database.getPoliciesForUser email)
    (database.getPermissionsForUser email)

end Database

/-! ## Candidates -/

/-- What an operator may hand out next. -/
inductive Candidate where
  | policy (policy : Policy)
  | permission (action resourceType : String) (conditions : Json)

namespace Candidate

/-- A policy is offered from the list of policies, a permission may be any pair. -/
def Offered (candidate : Candidate) (database : Database) : Prop :=
  match candidate with
  | policy offered => offered ∈ database.policies
  | permission _ _ _ => True

def addsNothingNew (candidate : Candidate) (effectiveGrantKeys : List String) : Bool :=
  match candidate with
  | policy offered => policyAddsNothingNew offered effectiveGrantKeys
  | permission action resourceType _ =>
      isAlreadyEffectivelyGranted effectiveGrantKeys action resourceType

/-- The repository call behind the two assignment routes. -/
def assign (candidate : Candidate) (database : Database) (userId : Nat)
    (assignedBy : Option String) : Database :=
  match candidate with
  | policy offered => database.assignPolicyToUser userId offered.id assignedBy
  | permission action resourceType conditions =>
      database.assignPermissionToUser userId action resourceType conditions assignedBy

end Candidate

/-- The evaluator answers every request of the user alike. -/
def SameDecisions (before after : Database) (userEmail : String) : Prop :=
  ∀ runtime action resourceType resource context,
    isAllowed after runtime userEmail action resourceType resource context =
      isAllowed before runtime userEmail action resourceType resource context

/-- A grant on `own` matches requests for `resourceType`. -/
def ReachesType (own resourceType : String) : Prop :=
  own = resourceType ∨ own = wildcardResourceType

instance (own resourceType : String) : Decidable (ReachesType own resourceType) :=
  inferInstanceAs (Decidable (_ ∨ _))

/-- An active grant of the user lists the action, on the resource type or on every type, and its
conditions are satisfied. -/
def GrantedBy (database : Database) (userEmail action resourceType : String) (runtime : Runtime)
    (resource : Option Resource) (context : Option Dict) : Prop :=
  ∃ grant ∈ (database.holdings userEmail).effectivePolicies, action ∈ grant.actions ∧
    ReachesType grant.resourceType resourceType ∧
    (evaluateConditions runtime grant.conditions userEmail resource context).satisfied = true

/-! ## The rows behind the keys -/

/-- What a listed row says about one action. -/
structure GivenPair where
  action : String
  resourceType : String
  conditions : Json
  isActive : Bool

def Policy.givenPairs (policy : Policy) : List GivenPair :=
  policy.actions.map fun action =>
    ⟨action, policy.resourceType, policy.conditions, policy.isActive⟩

def UserPermission.givenPair (grant : UserPermission) : GivenPair :=
  ⟨grant.action, grant.resourceType, grant.conditions, grant.isActive⟩

/-- The row has one of the two texts that are looked up. -/
def GivenPair.isBehind (pair : GivenPair) (action resourceType : String) : Bool :=
  grantKey pair.action pair.resourceType == grantKey action resourceType ||
    grantKey pair.action pair.resourceType == grantKey action wildcardResourceType

/-- The row is switched on, and of these very strings. -/
structure GivenPair.InForce (pair : GivenPair) (action resourceType : String) : Prop where
  active : pair.isActive = true
  sameAction : pair.action = action
  reaches : ReachesType pair.resourceType resourceType

namespace Database

def givenPairs (database : Database) (email : String) : List GivenPair :=
  (database.getPoliciesForUser email).flatMap Policy.givenPairs ++
    (database.getPermissionsForUser email).map UserPermission.givenPair

def pairsBehind (database : Database) (email action resourceType : String) : List GivenPair :=
  (database.givenPairs email).filter (·.isBehind action resourceType)

end Database

/-- Whenever the conditions are satisfied, so are those of a pair that is in force. -/
def AsBroad (pairs : List GivenPair) (userEmail action resourceType : String)
    (conditions : Json) : Prop :=
  ∀ runtime resource context,
    (evaluateConditions runtime conditions userEmail resource context).satisfied = true →
      ∃ pair ∈ pairs, pair.InForce action resourceType ∧
        (evaluateConditions runtime pair.conditions userEmail resource context).satisfied = true

/-- No row is behind the keys of one action, or the rows in force behind them are as broad as the
candidate.  An assignment that rewrites a direct grant of the same pair must not lose what that row
gave either. -/
def Candidate.Backed (candidate : Candidate) (database : Database) (user : User) : Prop :=
  match candidate with
  | .policy offered =>
      (∃ action ∈ offered.actions,
        database.pairsBehind user.email action offered.resourceType = []) ∨
      offered.isActive = false ∨
      ∀ action ∈ offered.actions,
        AsBroad (database.pairsBehind user.email action offered.resourceType) user.email action
          offered.resourceType offered.conditions
  | .permission action resourceType conditions =>
      database.pairsBehind user.email action resourceType = [] ∨
      AsBroad (database.pairsBehind user.email action resourceType) user.email action resourceType
          conditions ∧
        ∀ row ∈ database.userPermissions,
          Database.isGrantKey user.id action resourceType row = true → row.isActive = true →
            AsBroad (⟨action, resourceType, conditions, true⟩ ::
                (database.removePermission user.id action resourceType).pairsBehind user.email
                  action resourceType)
              user.email action resourceType row.conditions

/-! ## Decisions as grants -/

section Decisions

variable (database : Database) (userEmail action resourceType : String) (runtime : Runtime)
variable (resource : Option Resource) (context : Option Dict)

theorem isAllowed_iff_grantedBy :
    isAllowed database runtime userEmail action resourceType resource context = true ↔
      GrantedBy database userEmail action resourceType runtime resource context := by
  rw [isAllowed_iff]
  refine exists_congr fun grant => and_congr_right fun _ => ?_
  simp only [Grant.applies, grantMatches, ReachesType, wildcardResourceType, Bool.and_eq_true, Bool.or_eq_true,
    beq_iff_eq, List.contains_iff_mem]
  rw [and_comm (a := grant.resourceType = resourceType ∨ _), and_assoc]

/-- What is granted on every type is granted on each. -/
theorem GrantedBy.widen (own : String) (reach : ReachesType own resourceType)
    (granted : GrantedBy database userEmail action own runtime resource context) :
    GrantedBy database userEmail action resourceType runtime resource context := by
  obtain ⟨grant, held, lists, matched, satisfied⟩ := granted
  refine ⟨grant, held, lists, ?_, satisfied⟩
  rcases reach with rfl | rfl
  · exact matched
  · exact Or.inr (matched.elim id id)

end Decisions

theorem sameDecisions_iff (before after : Database) (userEmail : String) :
    SameDecisions before after userEmail ↔
      ∀ runtime action resourceType resource context,
        GrantedBy after userEmail action resourceType runtime resource context ↔
          GrantedBy before userEmail action resourceType runtime resource context := by
  refine forall₅_congr fun runtime action resourceType resource context => ?_
  rw [← isAllowed_iff_grantedBy, ← isAllowed_iff_grantedBy, Bool.eq_iff_iff]

/-! ## What is behind a key -/

section Behind

variable (database : Database) (userEmail action resourceType : String)

theorem effectiveGrantKeys_eq : database.effectiveGrantKeys userEmail =
    (database.givenPairs userEmail).map fun pair => grantKey pair.action pair.resourceType := by
  unfold Database.effectiveGrantKeys buildEffectiveGrantKeySet Database.givenPairs
  simp [List.map_flatMap, Policy.givenPairs, UserPermission.givenPair, Function.comp_def]

theorem hasEffectiveGrant_iff :
    hasEffectiveGrant (database.effectiveGrantKeys userEmail) action resourceType = true ↔
      database.pairsBehind userEmail action resourceType ≠ [] := by
  rw [hasEffectiveGrant, effectiveGrantKeys_eq, Database.pairsBehind, ne_eq,
    List.filter_eq_nil_iff]
  simp only [GivenPair.isBehind, Bool.or_eq_true, List.contains_iff_mem, List.mem_map,
    beq_iff_eq, not_forall, not_not, exists_prop]
  constructor
  · rintro (⟨pair, listed, same⟩ | ⟨pair, listed, same⟩)
    · exact ⟨pair, listed, Or.inl same⟩
    · exact ⟨pair, listed, Or.inr same⟩
  · rintro ⟨pair, listed, same | same⟩
    · exact Or.inl ⟨pair, listed, same⟩
    · exact Or.inr ⟨pair, listed, same⟩

theorem GivenPair.InForce.isBehind {pair : GivenPair} {action resourceType : String}
    (inForce : pair.InForce action resourceType) : pair.isBehind action resourceType = true := by
  obtain ⟨-, rfl, rfl | isWildcard⟩ := inForce
  · simp [GivenPair.isBehind]
  · simp [GivenPair.isBehind, isWildcard]

theorem mem_givenPairs {pair : GivenPair} : pair ∈ database.givenPairs userEmail ↔
    (∃ policy ∈ database.getPoliciesForUser userEmail, ∃ action ∈ policy.actions,
        pair = ⟨action, policy.resourceType, policy.conditions, policy.isActive⟩) ∨
      ∃ grant ∈ database.getPermissionsForUser userEmail, pair = grant.givenPair := by
  simp [Database.givenPairs, Policy.givenPairs, eq_comm]

/-- What the evaluator goes by is behind the keys, and in force. -/
theorem grantedBy_iff_behind (runtime : Runtime) (resource : Option Resource)
    (context : Option Dict) :
    GrantedBy database userEmail action resourceType runtime resource context ↔
      ∃ pair ∈ database.pairsBehind userEmail action resourceType,
        pair.InForce action resourceType ∧
          (evaluateConditions runtime pair.conditions userEmail resource context).satisfied
            = true := by
  have behind {pair : GivenPair} (listed : pair ∈ database.givenPairs userEmail)
      (inForce : pair.InForce action resourceType) :
      pair ∈ database.pairsBehind userEmail action resourceType :=
    List.mem_filter.mpr ⟨listed, inForce.isBehind⟩
  constructor
  · rintro ⟨grant, held, lists, reach, satisfied⟩
    rcases (mem_effectivePolicies database userEmail grant).mp held with
      ⟨policy, stored, active, ⟨link, linked, isLink, owned⟩, rfl⟩ |
        ⟨own, stored, active, owned, rfl⟩
    · have inForce : (⟨action, policy.resourceType, policy.conditions, policy.isActive⟩ :
          GivenPair).InForce action resourceType := ⟨active, rfl, reach⟩
      have assigned : policy ∈ database.getPoliciesForUser userEmail :=
        List.mem_filter.mpr ⟨stored, List.any_eq_true.mpr ⟨link, linked, by simp [isLink, owned]⟩⟩
      have listed := (mem_givenPairs database userEmail).mpr
        (Or.inl ⟨policy, assigned, action, lists, rfl⟩)
      exact ⟨_, behind listed inForce, inForce, satisfied⟩
    · have inForce : own.givenPair.InForce action resourceType :=
        ⟨active, (List.mem_singleton.mp lists).symm, reach⟩
      have given : own ∈ database.getPermissionsForUser userEmail :=
        List.mem_filter.mpr ⟨stored, owned⟩
      have listed := (mem_givenPairs database userEmail).mpr (Or.inr ⟨own, given, rfl⟩)
      exact ⟨_, behind listed inForce, inForce, satisfied⟩
  · rintro ⟨pair, isBehind, ⟨active, rfl, reach⟩, satisfied⟩
    have listed := (List.mem_filter.mp isBehind).1
    rcases (mem_givenPairs database userEmail).mp listed with
      ⟨policy, assigned, action, lists, rfl⟩ | ⟨own, given, rfl⟩
    · obtain ⟨stored, linked⟩ := List.mem_filter.mp assigned
      refine ⟨policy.toGrant, (mem_effectivePolicies database userEmail _).mpr
        (Or.inl ⟨policy, stored, active, ?_, rfl⟩), lists, reach, satisfied⟩
      simpa using linked
    · obtain ⟨stored, owned⟩ := List.mem_filter.mp given
      exact ⟨own.toGrant, (mem_effectivePolicies database userEmail _).mpr
        (Or.inr ⟨own, stored, active, owned, rfl⟩), List.mem_singleton_self _, reach, satisfied⟩

theorem asBroad_behind_iff (conditions : Json) :
    AsBroad (database.pairsBehind userEmail action resourceType) userEmail action resourceType
        conditions ↔
      ∀ runtime resource context,
        (evaluateConditions runtime conditions userEmail resource context).satisfied = true →
          GrantedBy database userEmail action resourceType runtime resource context := by
  simp only [AsBroad, grantedBy_iff_behind]

/-- With a pair of just this action and type there is one more way to satisfy the conditions. -/
theorem asBroad_cons_iff (own conditions : Json) :
    AsBroad (⟨action, resourceType, own, true⟩ ::
        database.pairsBehind userEmail action resourceType) userEmail action resourceType
        conditions ↔
      ∀ runtime resource context,
        (evaluateConditions runtime conditions userEmail resource context).satisfied = true →
          (evaluateConditions runtime own userEmail resource context).satisfied = true ∨
            GrantedBy database userEmail action resourceType runtime resource context := by
  have inForce : (⟨action, resourceType, own, true⟩ : GivenPair).InForce action resourceType :=
    ⟨rfl, rfl, Or.inl rfl⟩
  simp only [AsBroad, grantedBy_iff_behind, List.mem_cons, or_and_right, exists_or, exists_eq_left,
    inForce, true_and]

end Behind

/-! ## What an assignment adds -/

section Assignments

variable (database : Database) (user : User) (assignedBy : Option String)

theorem isUserWithEmail_self (registered : user ∈ database.users) :
    database.isUserWithEmail user.id user.email = true :=
  List.any_eq_true.mpr ⟨user, registered, by simp⟩

/-- The assignments afterwards: those before, and one that links the user to the policy. -/
theorem mem_assignPolicy_links (policyId : Nat) (held : Nat → Nat → Prop) :
    (∃ link ∈ (database.assignPolicyToUser user.id policyId assignedBy).userPolicies,
        held link.userId link.policyId) ↔
      (∃ link ∈ database.userPolicies, held link.userId link.policyId) ∨ held user.id policyId := by
  simp only [Database.assignPolicyToUser]
  split
  · rename_i already
    simp only [Database.userHoldsPolicy, List.any_eq_true, Bool.and_eq_true, beq_iff_eq] at already
    obtain ⟨link, member, sameUser, samePolicy⟩ := already
    refine (or_iff_left_of_imp fun holds => ⟨link, member, ?_⟩).symm
    rwa [sameUser, samePolicy]
  · simp [or_and_right, exists_or]

theorem mem_effective_assignPolicy (policyIds : (database.policies.map Policy.id).Nodup)
    (registered : user ∈ database.users) (offered : Policy)
    (listed : offered ∈ database.policies) (grant : Grant) :
    grant ∈ ((database.assignPolicyToUser user.id offered.id assignedBy).holdings
        user.email).effectivePolicies ↔
      grant ∈ (database.holdings user.email).effectivePolicies ∨
        (offered.isActive = true ∧ offered.toGrant = grant) := by
  have owner := isUserWithEmail_self database user registered
  have frame : database.assignPolicyToUser user.id offered.id assignedBy =
      { database with userPolicies :=
          (database.assignPolicyToUser user.id offered.id assignedBy).userPolicies } := by
    simp only [Database.assignPolicyToUser]
    split <;> rfl
  have links := fun policyId => mem_assignPolicy_links database user assignedBy offered.id
    fun holder held => held = policyId ∧ database.isUserWithEmail holder user.email = true
  rw [frame, mem_effectivePolicies, mem_effectivePolicies]
  simp only [Database.isUserWithEmail] at links owner ⊢
  simp only [links]
  constructor
  · rintro (⟨policy, member, active, linked | ⟨sameId, _⟩, same⟩ | direct)
    · exact Or.inl (Or.inl ⟨policy, member, active, linked, same⟩)
    · obtain rfl := List.inj_on_of_nodup_map policyIds listed member sameId
      exact Or.inr ⟨active, same⟩
    · exact Or.inl (Or.inr direct)
  · rintro ((⟨policy, member, active, linked, same⟩ | direct) | ⟨active, same⟩)
    · exact Or.inl ⟨policy, member, active, Or.inl linked, same⟩
    · exact Or.inr direct
    · exact Or.inl ⟨offered, listed, active, Or.inr ⟨rfl, owner⟩, same⟩

/-- The direct grants afterwards: the rows of other pairs, and one row of this pair. -/
theorem mem_assignedPermissions_iff (userId : Nat) (action resourceType : String) (conditions : Json)
    (row : UserPermission) :
    row ∈ (database.assignPermissionToUser userId action resourceType conditions
        assignedBy).userPermissions ↔
      row ∈ (database.removePermission userId action resourceType).userPermissions ∨
        row = ⟨userId, action, resourceType, conditions, true, assignedBy⟩ := by
  simp only [Database.assignPermissionToUser, Database.removePermission]
  split
  · rename_i present
    obtain ⟨existing, listed, key⟩ := List.any_eq_true.mp present
    have rewritten : ∀ own, Database.isGrantKey userId action resourceType own = true →
        { own with conditions, isActive := true, assignedBy } =
          (⟨userId, action, resourceType, conditions, true, assignedBy⟩ : UserPermission) := by
      intro own isKey
      simp only [Database.isGrantKey, Bool.and_eq_true, beq_iff_eq] at isKey
      simp [isKey.1.1, isKey.1.2, isKey.2]
    simp only [List.mem_map, List.mem_filter, Bool.not_eq_true']
    constructor
    · rintro ⟨own, member, rfl⟩
      split
      · rename_i isKey
        exact Or.inr (rewritten own isKey)
      · rename_i other
        exact Or.inl ⟨member, by simpa using other⟩
    · rintro (⟨member, other⟩ | rfl)
      · exact ⟨row, member, by simp [other]⟩
      · exact ⟨existing, listed, by rw [if_pos key, rewritten existing key]⟩
  · rename_i absent
    have others : ∀ own ∈ database.userPermissions,
        Database.isGrantKey userId action resourceType own = false := by
      simpa [Database.holdsGrant] using absent
    simp only [List.mem_append, List.mem_singleton, List.mem_filter, Bool.not_eq_true']
    exact or_congr_left ⟨fun member => ⟨member, others row member⟩, And.left⟩

end Assignments

/-! ## Decisions after an assignment -/

section AfterAssignment

variable (database : Database) (user : User) (assignedBy : Option String)
variable (action resourceType : String) (runtime : Runtime)
variable (resource : Option Resource) (context : Option Dict)

theorem grantedBy_assignPolicy (policyIds : (database.policies.map Policy.id).Nodup)
    (registered : user ∈ database.users) (offered : Policy)
    (listed : offered ∈ database.policies) :
    GrantedBy (database.assignPolicyToUser user.id offered.id assignedBy) user.email action
        resourceType runtime resource context ↔
      GrantedBy database user.email action resourceType runtime resource context ∨
        (offered.isActive = true ∧ action ∈ offered.actions ∧
          ReachesType offered.resourceType resourceType ∧
          (evaluateConditions runtime offered.conditions user.email resource context).satisfied
            = true) := by
  simp only [GrantedBy, mem_effective_assignPolicy database user assignedBy policyIds registered
    offered listed, or_and_right, exists_or]
  refine or_congr_right ⟨?_, ?_⟩
  · rintro ⟨_, ⟨active, rfl⟩, lists, matched, satisfied⟩
    exact ⟨active, lists, matched, satisfied⟩
  · rintro ⟨active, lists, matched, satisfied⟩
    exact ⟨_, ⟨active, rfl⟩, lists, matched, satisfied⟩

/-- What one direct grant of the user says about the request. -/
def RowGrants (row : UserPermission) : Prop :=
  row.isActive = true ∧ database.isUserWithEmail row.userId user.email = true ∧
    row.action = action ∧
    ReachesType row.resourceType resourceType ∧
    (evaluateConditions runtime row.conditions user.email resource context).satisfied = true

theorem grantedBy_rows (database : Database) :
    GrantedBy database user.email action resourceType runtime resource context ↔
      (∃ policy ∈ database.getActivePoliciesForUser user.email, action ∈ policy.actions ∧
        ReachesType policy.resourceType resourceType ∧
        (evaluateConditions runtime policy.conditions user.email resource context).satisfied
          = true) ∨
      ∃ row ∈ database.userPermissions,
        RowGrants database user action resourceType runtime resource context row := by
  simp only [GrantedBy, Holdings.effectivePolicies, Database.holdings, List.mem_append,
    or_and_right, exists_or, List.mem_map, exists_exists_and_eq_and]
  refine or_congr Iff.rfl (exists_congr fun row => ?_)
  simp only [Database.getActivePermissionsForUser, List.mem_filter, Bool.and_eq_true,
    UserPermission.toGrant, List.mem_singleton, RowGrants, and_assoc, eq_comm (a := action)]

/-- The rows of other pairs, which an assignment of this pair leaves alone. -/
def withoutPair (own ownType : String) : Database :=
  database.removePermission user.id own ownType

theorem grantedBy_assignPermission (registered : user ∈ database.users) (own ownType : String)
    (conditions : Json) :
    GrantedBy (database.assignPermissionToUser user.id own ownType conditions assignedBy)
        user.email action resourceType runtime resource context ↔
      GrantedBy (withoutPair database user own ownType) user.email action resourceType runtime
          resource context ∨
        (own = action ∧ ReachesType ownType resourceType ∧
          (evaluateConditions runtime conditions user.email resource context).satisfied
            = true) := by
  have owner := isUserWithEmail_self database user registered
  rw [grantedBy_rows, grantedBy_rows, or_assoc, assignPermission_frame]
  refine or_congr Iff.rfl ?_
  simp only [mem_assignedPermissions_iff, or_and_right, exists_or, exists_eq_left]
  refine or_congr Iff.rfl ?_
  simp only [RowGrants, true_and]
  exact ⟨And.right, fun granted => ⟨owner, granted⟩⟩

theorem grantedBy_removed (own ownType : String) :
    GrantedBy database user.email action resourceType runtime resource context ↔
      GrantedBy (withoutPair database user own ownType) user.email action resourceType runtime
          resource context ∨
        ∃ row ∈ database.userPermissions, Database.isGrantKey user.id own ownType row = true ∧
          RowGrants database user action resourceType runtime resource context row := by
  rw [grantedBy_rows, grantedBy_rows, or_assoc]
  refine or_congr Iff.rfl ?_
  simp only [withoutPair, Database.removePermission, List.mem_filter, Bool.not_eq_true']
  constructor
  · rintro ⟨row, member, grants⟩
    cases key : Database.isGrantKey user.id own ownType row with
    | true => exact Or.inr ⟨row, member, key, grants⟩
    | false => exact Or.inl ⟨row, ⟨member, key⟩, grants⟩
  · rintro (⟨row, ⟨member, _⟩, grants⟩ | ⟨row, member, _, grants⟩)
    · exact ⟨row, member, grants⟩
    · exact ⟨row, member, grants⟩

end AfterAssignment

/-! ## When a hidden candidate adds nothing -/

section NothingNew

variable (database : Database) (user : User) (assignedBy : Option String)

theorem sameDecisions_assignPolicy_iff (policyIds : (database.policies.map Policy.id).Nodup)
    (registered : user ∈ database.users) (offered : Policy)
    (listed : offered ∈ database.policies) :
    SameDecisions database (database.assignPolicyToUser user.id offered.id assignedBy) user.email ↔
      offered.isActive = false ∨ ∀ action ∈ offered.actions,
        AsBroad (database.pairsBehind user.email action offered.resourceType) user.email action
          offered.resourceType offered.conditions := by
  simp only [sameDecisions_iff, asBroad_behind_iff, grantedBy_assignPolicy database user assignedBy
    _ _ _ _ _ policyIds registered offered listed]
  constructor
  · intro same
    refine Bool.eq_false_or_eq_true _ |>.symm.imp_right fun active => ?_
    intro action lists runtime resource context satisfied
    exact (same runtime action offered.resourceType resource context).mp
      (Or.inr ⟨active, lists, Or.inl rfl, satisfied⟩)
  · intro backed runtime action resourceType resource context
    refine or_iff_left_of_imp fun ⟨active, lists, reach, satisfied⟩ => ?_
    rcases backed with retired | broad
    · rw [retired] at active
      cases active
    · exact (broad action lists runtime resource context satisfied).widen _ _ _ _ _ _ _ _ reach

theorem sameDecisions_assignPermission_iff (registered : user ∈ database.users)
    (action resourceType : String) (conditions : Json) :
    SameDecisions database
        (database.assignPermissionToUser user.id action resourceType conditions assignedBy)
        user.email ↔
      AsBroad (database.pairsBehind user.email action resourceType) user.email action resourceType
          conditions ∧
        ∀ row ∈ database.userPermissions,
          Database.isGrantKey user.id action resourceType row = true → row.isActive = true →
            AsBroad (⟨action, resourceType, conditions, true⟩ ::
                (database.removePermission user.id action resourceType).pairsBehind user.email
                  action resourceType)
              user.email action resourceType row.conditions := by
  have owner := isUserWithEmail_self database user registered
  simp only [sameDecisions_iff, asBroad_behind_iff, asBroad_cons_iff]
  constructor
  · intro same
    refine ⟨fun runtime resource context satisfied => ?_,
      fun row member key active runtime resource context satisfied => ?_⟩
    · apply (same runtime action resourceType resource context).mp
      rw [grantedBy_assignPermission _ _ _ _ _ _ _ _ registered]
      exact Or.inr ⟨rfl, Or.inl rfl, satisfied⟩
    · have earlier : GrantedBy database user.email action resourceType runtime resource context := by
        rw [grantedBy_removed _ _ _ _ _ _ _ action resourceType]
        refine Or.inr ⟨row, member, key, active, ?_⟩
        simp only [Database.isGrantKey, Bool.and_eq_true, beq_iff_eq] at key
        obtain ⟨⟨sameUser, sameAction⟩, sameType⟩ := key
        exact ⟨sameUser ▸ owner, sameAction, Or.inl sameType, satisfied⟩
      have later := (same runtime action resourceType resource context).mpr earlier
      rw [grantedBy_assignPermission _ _ _ _ _ _ _ _ registered] at later
      exact later.symm.imp_left fun granted => granted.2.2
  · rintro ⟨gain, keep⟩ runtime own ownType resource context
    rw [grantedBy_assignPermission _ _ _ _ _ _ _ _ registered,
      grantedBy_removed database _ _ _ _ _ _ action resourceType]
    constructor
    · rintro (others | ⟨rfl, reach, satisfied⟩)
      · exact Or.inl others
      · rw [← grantedBy_removed]
        exact (gain runtime resource context satisfied).widen _ _ _ _ _ _ _ _ reach
    · rintro (others | ⟨row, member, key, active, _, sameAction, reach, satisfied⟩)
      · exact Or.inl others
      · have kept := keep row member key active runtime resource context satisfied
        simp only [Database.isGrantKey, Bool.and_eq_true, beq_iff_eq] at key
        obtain ⟨⟨_, ownAction⟩, rowType⟩ := key
        obtain rfl : action = own := ownAction.symm.trans sameAction
        rw [rowType] at reach
        rcases kept with satisfied | others
        · exact Or.inr ⟨rfl, reach, satisfied⟩
        · exact Or.inl (others.widen _ _ _ _ _ _ _ _ reach)

/-- A candidate that is not offered because it adds nothing new leaves every decision alone exactly
where the rows behind its keys back it. -/
theorem nothing_new_iff (policyIds : (database.policies.map Policy.id).Nodup)
    (registered : user ∈ database.users) (candidate : Candidate)
    (offered : candidate.Offered database) :
    (candidate.addsNothingNew (database.effectiveGrantKeys user.email) = true →
        SameDecisions database (candidate.assign database user.id assignedBy) user.email) ↔
      candidate.Backed database user := by
  cases candidate with
  | policy policy =>
    have reported : (Candidate.policy policy).addsNothingNew
        (database.effectiveGrantKeys user.email) = true ↔
          ¬ ∃ action ∈ policy.actions,
            database.pairsBehind user.email action policy.resourceType = [] := by
      simp [Candidate.addsNothingNew, policyAddsNothingNew, hasEffectiveGrant_iff]
    rw [reported, Candidate.Backed, Candidate.assign, ← or_iff_not_imp_left,
      sameDecisions_assignPolicy_iff database user assignedBy policyIds registered policy offered]
  | permission action resourceType conditions =>
    have reported : (Candidate.permission action resourceType conditions).addsNothingNew
        (database.effectiveGrantKeys user.email) = true ↔
          ¬ database.pairsBehind user.email action resourceType = [] :=
      hasEffectiveGrant_iff database user.email action resourceType
    rw [reported, Candidate.Backed, Candidate.assign, ← or_iff_not_imp_left,
      sameDecisions_assignPermission_iff database user assignedBy registered action resourceType
        conditions]

end NothingNew

/-- A user who was given a policy that has been switched off since. -/
def retiredReports : Database where
  users := [⟨1, "ada@example.com", .user⟩]
  policies :=
    [⟨1, "reports_2024", none, ["reports:read"], "reports", .null, false, none⟩,
      ⟨2, "reports_2025", none, ["reports:read"], "reports", .null, true, none⟩]
  userPolicies := [⟨1, 1, none⟩]
  userPermissions := []
  policyHistory := []
  nextPolicyId := 3
  nextHistoryId := 1

def reportsReader : Policy :=
  ⟨2, "reports_2025", none, ["reports:read"], "reports", .null, true, none⟩

theorem nothing_new_iff_retired :
    ((Candidate.policy reportsReader).addsNothingNew
        (retiredReports.effectiveGrantKeys "ada@example.com") = true →
      SameDecisions retiredReports ((Candidate.policy reportsReader).assign retiredReports 1 none)
        "ada@example.com") ↔
    (Candidate.policy reportsReader).Backed retiredReports ⟨1, "ada@example.com", .user⟩ :=
  nothing_new_iff retiredReports ⟨1, "ada@example.com", .user⟩ none (by decide)
    (by simp [retiredReports]) (.policy reportsReader)
    (by simp [Candidate.Offered, retiredReports, reportsReader])

/-- The candidate is hidden from the operator although it is the grant that is missing. -/
theorem missing_grant_hidden :
    (Candidate.policy reportsReader).addsNothingNew
        (retiredReports.effectiveGrantKeys "ada@example.com") = true ∧
      isAllowed retiredReports utcRuntime "ada@example.com" "reports:read" "reports" none none
        = false ∧
      isAllowed ((Candidate.policy reportsReader).assign retiredReports 1 none) utcRuntime
        "ada@example.com" "reports:read" "reports" none none = true := by
  decide +kernel

end MysticAuth
