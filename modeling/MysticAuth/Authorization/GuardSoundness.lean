import MysticAuth.Authorization.GrantGuard

/-!
# What the guard lets a caller delegate

A proposal that keeps every entry of a block the caller was matched by is at
most as wide as that block.  From this a passed guard bounds the delegated
grant by the caller's own grants, unless the superuser fallback answered for a
built-in action.
-/

set_option autoImplicit false

namespace MysticAuth

open Python PolicyEvaluationEngine

/-- The block was accepted by the write-time validator when it was stored. -/
def ValidatedBlock (conditions : Json) : Prop :=
  ∃ runtime, validateConditions runtime conditions = []

/-! ## Scope containment is sound for evaluation -/

theorem handler_satisfied_of_eq (source : Json) (dict : Dict) (validated : ValidatedBlock source)
    (shape : source.dict? = some dict) (key : String) (value value' : Json)
    (member : (key, value) ∈ dict.items) (handler : Handler)
    (registered : defaultConditionRegistry key = some handler)
    (same : Json.eq value' value = true) (runtime : Runtime) (userEmail : String)
    (resource : Option Resource) (context : Option Dict)
    (satisfied : handler runtime value' userEmail resource context = true) :
    handler runtime value userEmail resource context = true := by
  obtain ⟨writeTime, accepted⟩ := validated
  have entryAccepted := validateEntry_of_accepted writeTime source dict accepted shape _ member
  simp only [defaultConditionRegistry] at registered
  split at registered <;> simp only [Option.some.injEq, reduceCtorEq] at registered <;>
    subst registered
  · exact selfOnly_respectsEquality runtime _ _ userEmail resource context same satisfied
  · exact resourceAttributes_respectsEquality runtime _ _ userEmail resource context same satisfied
  · exact contextAttributes_respectsEquality runtime _ _ userEmail resource context same satisfied
  · exact timeOfDay_respectsEquality runtime _ _ userEmail resource context same satisfied
  · exact dateRange_respectsEquality runtime _ _ userEmail resource context same satisfied
  · obtain ⟨block, items, shape', listed⟩ := allowedIps_of_accepted_network value entryAccepted
    exact network_respectsEquality_of_list runtime _ _ block items userEmail resource context
      shape' listed same satisfied
  · exact securityContext_respectsEquality runtime _ _ userEmail resource context same satisfied

/-- A proposal that keeps a block narrows it: whoever satisfies the proposal satisfies the block,
provided the block was satisfied once, by the caller. -/
theorem satisfied_of_keepsSource (source proposed : Json)
    (keeps : keepsSource source proposed = some true) (validated : ValidatedBlock source)
    (heldRuntime : Runtime) (caller : String) (heldContext : Option Dict)
    (held : (evaluateConditions heldRuntime source caller none heldContext).satisfied = true)
    (runtime : Runtime) (userEmail : String) (resource : Option Resource) (context : Option Dict)
    (satisfied :
      (evaluateConditions runtime proposed userEmail resource context).satisfied = true) :
    (evaluateConditions runtime source userEmail resource context).satisfied = true := by
  rw [evaluateConditions_satisfied_iff] at held satisfied ⊢
  rcases held with falsy | ⟨dict, shape, heldEntries⟩
  · exact Or.inl falsy
  cases truthy : source.truthy with
  | false => exact Or.inl rfl
  | true =>
    refine Or.inr ⟨dict, shape, ?_⟩
    rintro ⟨key, value⟩ member
    have heldEntry := heldEntries _ member
    simp only [entrySatisfied] at heldEntry ⊢
    cases registered : defaultConditionRegistry key with
    | none => simp [registered] at heldEntry
    | some handler =>
      simp only [registered] at heldEntry ⊢
      simp only [keepsSource, truthy, shape, Bool.not_true, Bool.false_eq_true, if_false] at keeps
      split at keeps
      · simp at keeps
      · rename_i kept found
        simp only [Option.some.injEq, List.all_eq_true] at keeps
        have same := keeps _ member
        simp only [Dict.get] at same
        cases present : kept.get? key with
        | some value' =>
          -- The proposal has the entry: its own evaluation covers it.
          simp only [present, Option.getD_some] at same
          have member' := (Dict.get?_eq_some_iff kept key value').mp present
          have proposedTruthy : proposed.truthy = true := by
            by_contra falsy
            simp only [Bool.not_eq_true] at falsy
            obtain rfl : Dict.empty = kept := by simpa [falsy] using found
            simp [Dict.get?, Dict.items, Dict.empty] at present
          simp only [proposedTruthy, if_true] at found
          rcases satisfied with falsy | ⟨dict', shape', entries⟩
          · simp [proposedTruthy] at falsy
          · obtain rfl : dict' = kept := by simpa [shape'] using found
            have entry := entries _ member'
            simp only [entrySatisfied, registered] at entry
            exact handler_satisfied_of_eq source dict validated shape key value value' member
              handler registered same runtime userEmail resource context entry
        | none =>
          -- The proposal lacks the entry, so the block's entry is `None`.
          simp only [present, Option.getD_none] at same
          have leaf := (Json.eq_of_scalar_left _ _ _ rfl).mp same
          obtain rfl : value = .null := by cases value <;> simp [Json.scalar?] at leaf ⊢
          exact null_satisfied_everywhere key handler registered heldRuntime caller none
            heldContext heldEntry runtime userEmail resource context

theorem exists_keepsSource_of_hasScope (matched : List (String × Json)) (proposed : Json)
    (scope : hasScopeForGrant matched proposed = some true) :
    ∃ entry ∈ matched, keepsSource entry.2 proposed = some true := by
  induction matched with
  | nil => simp [hasScopeForGrant] at scope
  | cons entry rest ih =>
    obtain ⟨name, source⟩ := entry
    simp only [hasScopeForGrant] at scope
    split at scope
    · simp at scope
    · rename_i keeps
      exact ⟨_, List.mem_cons_self, keeps⟩
    · obtain ⟨other, member, keeps⟩ := ih scope
      exact ⟨other, List.mem_cons_of_mem _ member, keeps⟩

/-! ## A passed guard -/

section Passed

variable (runtime : Runtime) (holdings : Holdings) (callerEmail : String)
variable (context : Option Dict)

/-- Without the fallback every action of a passed list was held with enough scope. -/
theorem held_of_guardActions_ok (resourceType : String) (conditions : Json)
    (actions : List String)
    (passed : (guardActions runtime holdings callerEmail context false resourceType conditions
      actions none).1 = .ok ()) (action : String) (member : action ∈ actions) :
    (authorizeWithDecision runtime holdings callerEmail context action resourceType).1 = true ∧
      hasScopeForGrant
        (authorizeWithDecision runtime holdings callerEmail context action resourceType).2
        conditions = some true := by
  induction actions with
  | nil => simp at member
  | cons head rest ih =>
    simp only [guardActions, resolveDecision, Option.bind_none, Option.map_none,
      Bool.false_eq_true, if_false] at passed
    split at passed
    · simp [raiseApp] at passed
    · rename_i allowed
      split at passed
      · rename_i scope
        rcases List.mem_cons.mp member with rfl | tail
        · exact ⟨by simpa using allowed, scope⟩
        · exact ih passed tail
      · simp [raiseApp] at passed
      · simp at passed

theorem guardActions_superuser_ok (resourceType : String) (conditions : Json)
    (actions : List String) :
    guardActions runtime holdings callerEmail context true resourceType conditions actions none =
      (.ok (), none) := by
  induction actions with
  | nil => rfl
  | cons action rest ih => simpa [guardActions, resolveDecision] using ih

end Passed

/-! ## Delegated grants are never wider -/

/-- Whoever may use the delegated grant for a built-in action of the proposal could do so under
one of the caller's own grants. -/
def NeverWider (holdings : Holdings) (proposal : Proposal) : Prop :=
  ∀ action ∈ proposal.actions, isBuiltIn action = true →
    ∀ (runtime : Runtime) (userEmail : String) (resource : Option Resource)
      (context : Option Dict),
      (evaluateConditions runtime proposal.conditions userEmail resource context).satisfied
          = true →
        ∃ grant ∈ holdings.effectivePolicies,
          grant.applies runtime action proposal.resourceType userEmail resource context

/-- The grants allow the action on the resource type to anyone, at any time, on any resource. -/
def AllowsEveryone (holdings : Holdings) (action resourceType : String) : Prop :=
  ∀ (runtime : Runtime) (userEmail : String) (resource : Option Resource) (context : Option Dict),
    ∃ grant ∈ holdings.effectivePolicies,
      grant.applies runtime action resourceType userEmail resource context

theorem neverWider_of_held (runtime : Runtime) (holdings : Holdings) (callerEmail : String)
    (context : Option Dict) (proposal : Proposal)
    (stored : ∀ grant ∈ holdings.effectivePolicies, ValidatedBlock grant.conditions)
    (ordinary : superuserFallback holdings proposal.actions = false)
    (passed : guardAlone runtime holdings callerEmail context proposal = .ok ()) :
    NeverWider holdings proposal := by
  intro action member _ runtime' userEmail resource context' satisfied
  simp only [guardAlone, assertAuthorizedToGrant, ordinary] at passed
  obtain ⟨_, scope⟩ := held_of_guardActions_ok runtime holdings callerEmail context _ _ _ passed
    action member
  obtain ⟨entry, entryMember, keeps⟩ := exists_keepsSource_of_hasScope _ _ scope
  have explained := evaluateGrants_explained runtime action proposal.resourceType callerEmail none
    context holdings.effectivePolicies
  obtain ⟨grant, grantMember, ⟨grantMatch, held⟩, same⟩ := explained.conditions entry entryMember
  refine ⟨grant, grantMember, grantMatch, ?_⟩
  rw [← same] at keeps
  exact satisfied_of_keepsSource _ _ keeps (stored grant grantMember) runtime callerEmail context
    held runtime' userEmail resource context' satisfied

/-- For a caller and an action list, the guard bounds every delegated conditions block exactly
when the fallback is not taken or the caller's own grants leave nothing to widen. -/
theorem guard_bounds_delegation_iff (runtime : Runtime) (holdings : Holdings)
    (callerEmail : String) (context : Option Dict) (actions : List String) (resourceType : String)
    (stored : ∀ grant ∈ holdings.effectivePolicies, ValidatedBlock grant.conditions) :
    (∀ conditions : Json,
      guardAlone runtime holdings callerEmail context ⟨actions, resourceType, conditions⟩
          = .ok () →
        NeverWider holdings ⟨actions, resourceType, conditions⟩) ↔
      actions.all isBuiltIn = true ∨ holdings.isSystemSuperuser = false ∨
        ∀ action ∈ actions, isBuiltIn action = true →
          AllowsEveryone holdings action resourceType := by
  constructor
  · intro bounded
    by_cases ordinary : superuserFallback holdings actions = false
    · simp only [superuserFallback, Bool.and_eq_false_iff] at ordinary
      rcases ordinary with builtIn | plain
      · exact Or.inl (by simpa using builtIn)
      · exact Or.inr (Or.inl plain)
    · refine Or.inr (Or.inr fun action member builtIn runtime' userEmail resource context' => ?_)
      have passed : guardAlone runtime holdings callerEmail context
          ⟨actions, resourceType, .null⟩ = .ok () := by
        simp only [Bool.not_eq_false] at ordinary
        simp only [guardAlone, assertAuthorizedToGrant, ordinary, guardActions_superuser_ok]
      exact bounded .null passed action member builtIn runtime' userEmail resource context' rfl
  · rintro condition conditions passed
    have ordinaryCase (ordinary : superuserFallback holdings actions = false) :
        NeverWider holdings ⟨actions, resourceType, conditions⟩ :=
      neverWider_of_held runtime holdings callerEmail context _ stored ordinary passed
    rcases condition with builtIn | plain | covered
    · exact ordinaryCase (by
        simp only [superuserFallback, Bool.and_eq_false_iff]
        exact Or.inl (by simpa using builtIn))
    · exact ordinaryCase (by simp [superuserFallback, plain])
    · intro action member builtIn runtime' userEmail resource context' _
      exact covered action member builtIn runtime' userEmail resource context'

/-! A superuser policy that was edited down to one action still passes any built-in action that
travels with an application-owned one. -/

def utcRuntime : Runtime :=
  ⟨0, fun name => if name = "UTC" then some fun _ => 0 else none, fun name => name == "UTC"⟩

def narrowedSuperuser : Holdings where
  activePolicies :=
    [⟨1, "system_superuser", none, ["policies:assign"], "*", .null, true, some "system"⟩]
  activePermissions := []

def mixedProposal : Proposal :=
  ⟨["users:delete_any", "projects:read"], "users", .null⟩

theorem narrowedSuperuser_stored (grant : Grant)
    (member : grant ∈ narrowedSuperuser.effectivePolicies) : ValidatedBlock grant.conditions := by
  obtain rfl : grant = ⟨"system_superuser", ["policies:assign"], "*", .null⟩ := by
    simpa [Holdings.effectivePolicies, narrowedSuperuser, Policy.toGrant] using member
  exact ⟨utcRuntime, rfl⟩

theorem guard_bounds_delegation_iff_narrowedSuperuser :
    superuserFallback narrowedSuperuser ["policies:assign"] = false ∧ ∀ conditions : Json,
      guardAlone utcRuntime narrowedSuperuser "root@example.com" none
          ⟨["policies:assign"], "users", conditions⟩ = .ok () →
        NeverWider narrowedSuperuser ⟨["policies:assign"], "users", conditions⟩ :=
  ⟨rfl, (guard_bounds_delegation_iff utcRuntime narrowedSuperuser "root@example.com" none
    ["policies:assign"] "users" narrowedSuperuser_stored).mpr (Or.inl rfl)⟩

theorem guard_lets_mixed_list_escape :
    ¬ ∀ (runtime : Runtime) (holdings : Holdings) (callerEmail : String) (context : Option Dict)
      (proposal : Proposal),
      (∀ grant ∈ holdings.effectivePolicies, ValidatedBlock grant.conditions) →
        guardAlone runtime holdings callerEmail context proposal = .ok () →
          NeverWider holdings proposal := by
  intro claim
  have passed : guardAlone utcRuntime narrowedSuperuser "root@example.com" none mixedProposal
      = .ok () := rfl
  obtain ⟨grant, member, grantMatch, _⟩ := claim utcRuntime narrowedSuperuser "root@example.com"
    none mixedProposal narrowedSuperuser_stored passed "users:delete_any" (by decide) (by decide)
    utcRuntime "mallory@example.com" none none rfl
  obtain rfl : grant = ⟨"system_superuser", ["policies:assign"], "*", .null⟩ := by
    simpa [Holdings.effectivePolicies, narrowedSuperuser, Policy.toGrant] using member
  exact absurd grantMatch (by decide)

end MysticAuth
