import MysticAuth.Authorization.ConditionNarrowing
import MysticAuth.Authorization.Models
import MysticAuth.Authorization.Permissions
import MysticAuth.Core.Errors

/-!
# The grant guard

`assert_authorized_to_grant` stands in front of every route that widens what a
user may do.  Each action of a proposal must be held by the caller, and one of
the caller's matching grants must contain the proposed conditions.  A list with
an application-owned action takes another path for a holder of the protected
`system_superuser` policy: every action of the list counts as held.
-/

set_option autoImplicit false

namespace MysticAuth

open Python PolicyEvaluationEngine

def cannotGrantUnheldAction (action : String) : AppError :=
  ⟨403, "CANNOT_GRANT_UNHELD_ACTION",
    [s!"Cannot grant action '{action}': you do not hold it yourself"], [("action", action)]⟩

def cannotGrantBroaderConditions (action : String) : AppError :=
  ⟨403, "CANNOT_GRANT_BROADER_CONDITIONS",
    [s!"Cannot grant action '{action}' with broader conditions than your own"],
    [("action", action)]⟩

/-- The caller's decision for one action: whether it is held, and the conditions of the grants
that say so. -/
abbrev HeldDecision := Bool × List (String × Json)

/-- Keyed by action and resource type. -/
abbrev GrantCache := List ((String × String) × HeldDecision)

/-- One proposal to grant `actions` on `resourceType` under `conditions`. -/
structure Proposal where
  actions : List String
  resourceType : String
  conditions : Json

/-! ## Scope -/

/-- Whether the proposal keeps every entry of one of the caller's blocks; `none` is the
`AttributeError` of a block that is no object. -/
def keepsSource (sourceConditions proposedConditions : Json) : Option Bool :=
  if !sourceConditions.truthy then some true
  else
    match sourceConditions.dict? with
    | none => none
    | some source =>
        let proposed? :=
          if proposedConditions.truthy then proposedConditions.dict? else some Dict.empty
        match proposed? with
        | none => none
        | some proposed =>
            some (source.items.all fun (key, value) => Json.eq (proposed.get key) value)

def hasScopeForGrant (matchedPolicyConditions : List (String × Json))
    (proposedConditions : Json) : Option Bool :=
  match matchedPolicyConditions with
  | [] => some false
  | (_, sourceConditions) :: rest =>
      match keepsSource sourceConditions proposedConditions with
      | none => none
      | some true => some true
      | some false => hasScopeForGrant rest proposedConditions

/-! ## The guard -/

section Guard

variable (runtime : Runtime) (holdings : Holdings) (callerEmail : String)
variable (context : Option Dict)

/-- `AuthorizationService.authorize_with_decision` for the caller, without a resource. -/
def authorizeWithDecision (action resourceType : String) : HeldDecision :=
  let decision := evaluateDetailed runtime holdings.effectivePolicies action resourceType
    callerEmail none context
  (decision.allowed, decision.matchedPolicyConditions)

/-- The decision for one action and the cache afterwards. -/
def resolveDecision (isSystemSuperuser : Bool) (resourceType action : String)
    (cache : Option GrantCache) : HeldDecision × Option GrantCache :=
  match cache.bind (·.lookup (action, resourceType)) with
  | some cached => (cached, cache)
  | none =>
      let decision :=
        if isSystemSuperuser then (true, [])
        else authorizeWithDecision runtime holdings callerEmail context action resourceType
      (decision, cache.map (((action, resourceType), decision) :: ·))

def guardActions (isSystemSuperuser : Bool) (resourceType : String) (conditions : Json) :
    List String → Option GrantCache → Except Failure Unit × Option GrantCache
  | [], cache => (.ok (), cache)
  | action :: rest, cache =>
      let (decision, cache) := resolveDecision runtime holdings callerEmail context
        isSystemSuperuser resourceType action cache
      if !decision.1 then (raiseApp (cannotGrantUnheldAction action), cache)
      else if isSystemSuperuser then
        guardActions isSystemSuperuser resourceType conditions rest cache
      else
        match hasScopeForGrant decision.2 conditions with
        | some true => guardActions isSystemSuperuser resourceType conditions rest cache
        | some false => (raiseApp (cannotGrantBroaderConditions action), cache)
        | none => (.error .unhandled, cache)

/-- The superuser fallback is looked up only for a list with an application-owned action. -/
def superuserFallback (actions : List String) : Bool :=
  actions.any (!isBuiltIn ·) && holdings.isSystemSuperuser

def assertAuthorizedToGrant (proposal : Proposal) (cache : Option GrantCache) :
    Except Failure Unit × Option GrantCache :=
  guardActions runtime holdings callerEmail context (superuserFallback holdings proposal.actions)
    proposal.resourceType proposal.conditions proposal.actions cache

/-- The guard on its own, with `cache=None`. -/
def guardAlone (proposal : Proposal) : Except Failure Unit :=
  (assertAuthorizedToGrant runtime holdings callerEmail context proposal none).1

/-- The bulk routes' loop: the items are guarded one after another with one shared cache. -/
def guardProposals : List Proposal → GrantCache → List (Except Failure Unit)
  | [], _ => []
  | proposal :: rest, cache =>
      let (outcome, cache') :=
        assertAuthorizedToGrant runtime holdings callerEmail context proposal (some cache)
      outcome :: guardProposals rest (cache'.getD [])

end Guard

end MysticAuth
