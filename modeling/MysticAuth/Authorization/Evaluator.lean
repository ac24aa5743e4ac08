import MysticAuth.Authorization.ConditionValidator

/-!
# The policy evaluation engine

Default deny; a request is allowed when at least one of the grants handed in
matches its action and resource type and has satisfied conditions.  The
decision also explains itself, keyed by policy name.
-/

set_option autoImplicit false

namespace MysticAuth

open Python

/-- What the engine reads of a policy row, or of the transient policy a direct grant is
normalized into. -/
structure Grant where
  name : String
  actions : List String
  resourceType : String
  conditions : Json

structure AuthorizationDecision where
  allowed : Bool
  action : String
  resourceType : String
  user : String
  evaluatedPolicies : List String
  matchedPolicies : List String
  matchedPolicyConditions : List (String × Json)
  rejectedPolicies : List String
  failedConditions : List (String × List String)
  denialReason : Option String
  evaluationTimestamp : Int

/-- `d[key] = value` on a dictionary kept as an association list. -/
def setEntry {β : Type} (key : String) (value : β) : List (String × β) → List (String × β)
  | [] => [(key, value)]
  | (other, current) :: rest =>
      if other = key then (key, value) :: rest else (other, current) :: setEntry key value rest

namespace PolicyEvaluationEngine

def grantMatches (grant : Grant) (action resourceType : String) : Bool :=
  (grant.resourceType == resourceType || grant.resourceType == "*") &&
    grant.actions.contains action

/-- The bookkeeping of the loop over the policies. -/
structure Progress where
  matchedPolicies : List String
  matchedPolicyConditions : List (String × Json)
  rejectedPolicies : List String
  failedConditions : List (String × List String)

def evaluateGrant (runtime : Runtime) (action resourceType userEmail : String)
    (resource : Option Resource) (context : Option Dict) (progress : Progress) (grant : Grant) :
    Progress :=
  if grantMatches grant action resourceType then
    let result := evaluateConditions runtime grant.conditions userEmail resource context
    if result.satisfied then
      { progress with
        matchedPolicies := progress.matchedPolicies ++ [grant.name]
        matchedPolicyConditions :=
          setEntry grant.name grant.conditions progress.matchedPolicyConditions }
    else
      { progress with
        rejectedPolicies := progress.rejectedPolicies ++ [grant.name]
        failedConditions := setEntry grant.name result.failedKeys progress.failedConditions }
  else progress

def evaluateGrants (runtime : Runtime) (policies : List Grant)
    (action resourceType userEmail : String) (resource : Option Resource)
    (context : Option Dict) : Progress :=
  policies.foldl (evaluateGrant runtime action resourceType userEmail resource context)
    ⟨[], [], [], []⟩

def denialReason (evaluatedPolicies rejectedPolicies : List String) : String :=
  if evaluatedPolicies.isEmpty then "no_assigned_policies"
  else if rejectedPolicies.isEmpty then "no_matching_policy"
  else "condition_failed"

def evaluateDetailed (runtime : Runtime) (policies : List Grant)
    (action resourceType userEmail : String) (resource : Option Resource)
    (context : Option Dict) : AuthorizationDecision :=
  let evaluatedPolicies := policies.map Grant.name
  let progress := evaluateGrants runtime policies action resourceType userEmail resource context
  let allowed := !progress.matchedPolicies.isEmpty
  { allowed
    action
    resourceType
    user := userEmail
    evaluatedPolicies
    matchedPolicies := progress.matchedPolicies
    matchedPolicyConditions := progress.matchedPolicyConditions
    rejectedPolicies := progress.rejectedPolicies
    failedConditions := progress.failedConditions
    denialReason :=
      if allowed then none else some (denialReason evaluatedPolicies progress.rejectedPolicies)
    evaluationTimestamp := runtime.now }

def evaluate (runtime : Runtime) (policies : List Grant)
    (action resourceType userEmail : String) (resource : Option Resource)
    (context : Option Dict) : Bool :=
  (evaluateDetailed runtime policies action resourceType userEmail resource context).allowed

end PolicyEvaluationEngine

/-! ## What a decision says -/

open PolicyEvaluationEngine

/-- The grant applies to the request: it matches and its conditions are satisfied. -/
def Grant.applies (grant : Grant) (runtime : Runtime) (action resourceType userEmail : String)
    (resource : Option Resource) (context : Option Dict) : Prop :=
  grantMatches grant action resourceType = true ∧
    (evaluateConditions runtime grant.conditions userEmail resource context).satisfied = true

section Decision

variable (runtime : Runtime) (action resourceType userEmail : String)
variable (resource : Option Resource) (context : Option Dict)

/-- Every explanation entry stands for a grant that applied, and there is one as soon as a grant
applied. -/
structure Explained (seen : List Grant) (progress : Progress) : Prop where
  matched : progress.matchedPolicies ≠ [] ↔
    ∃ grant ∈ seen, grant.applies runtime action resourceType userEmail resource context
  conditions : ∀ entry ∈ progress.matchedPolicyConditions, ∃ grant ∈ seen,
    grant.applies runtime action resourceType userEmail resource context ∧
      grant.conditions = entry.2
  present : progress.matchedPolicies ≠ [] → progress.matchedPolicyConditions ≠ []

theorem mem_setEntry {β : Type} (key : String) (value : β) (entries : List (String × β))
    (entry : String × β) (member : entry ∈ setEntry key value entries) :
    entry = (key, value) ∨ entry ∈ entries := by
  induction entries with
  | nil => exact Or.inl (List.mem_singleton.mp member)
  | cons head rest ih =>
    simp only [setEntry] at member
    split at member
    · rcases List.mem_cons.mp member with same | tail
      · exact Or.inl same
      · exact Or.inr (List.mem_cons_of_mem _ tail)
    · rcases List.mem_cons.mp member with same | tail
      · exact Or.inr (same ▸ List.mem_cons_self)
      · exact (ih tail).imp_right (List.mem_cons_of_mem _)

theorem setEntry_ne_nil {β : Type} (key : String) (value : β) (entries : List (String × β)) :
    setEntry key value entries ≠ [] := by
  cases entries with
  | nil => simp [setEntry]
  | cons head rest =>
    simp only [setEntry]
    split <;> simp

theorem explained_skip (seen : List Grant) (progress progress' : Progress) (grant : Grant)
    (before : Explained runtime action resourceType userEmail resource context seen progress)
    (skipped : ¬ grant.applies runtime action resourceType userEmail resource context)
    (sameMatched : progress'.matchedPolicies = progress.matchedPolicies)
    (sameConditions : progress'.matchedPolicyConditions = progress.matchedPolicyConditions) :
    Explained runtime action resourceType userEmail resource context (seen ++ [grant]) progress' :=
  ⟨by simpa [sameMatched, or_and_right, exists_or, skipped] using before.matched,
    fun entry member =>
      let ⟨other, member', rest⟩ := before.conditions entry (sameConditions ▸ member)
      ⟨other, List.mem_append_left _ member', rest⟩,
    fun some => sameConditions ▸ before.present (sameMatched ▸ some)⟩

theorem explained_step (seen : List Grant) (progress : Progress) (grant : Grant)
    (before : Explained runtime action resourceType userEmail resource context seen progress) :
    Explained runtime action resourceType userEmail resource context (seen ++ [grant])
      (evaluateGrant runtime action resourceType userEmail resource context progress grant) := by
  simp only [evaluateGrant]
  split
  · rename_i doesMatch
    split
    · rename_i satisfied
      refine ⟨?_, ?_, fun _ => setEntry_ne_nil _ _ _⟩
      · simp only [ne_eq, List.append_eq_nil_iff, List.cons_ne_nil, and_false, not_false_eq_true,
          true_iff]
        exact ⟨grant, by simp, doesMatch, satisfied⟩
      · intro entry member
        rcases mem_setEntry _ _ _ _ member with rfl | earlier
        · exact ⟨grant, by simp, ⟨doesMatch, satisfied⟩, rfl⟩
        · obtain ⟨other, member', rest⟩ := before.conditions entry earlier
          exact ⟨other, List.mem_append_left _ member', rest⟩
    · rename_i unsatisfied
      exact explained_skip runtime action resourceType userEmail resource context seen progress _
        grant before (fun applies => unsatisfied applies.2) rfl rfl
  · rename_i unmatched
    exact explained_skip runtime action resourceType userEmail resource context seen progress _
      grant before (fun applies => unmatched applies.1) rfl rfl

theorem explained_run (policies seen : List Grant) (progress : Progress)
    (before : Explained runtime action resourceType userEmail resource context seen progress) :
    Explained runtime action resourceType userEmail resource context (seen ++ policies)
      (policies.foldl
        (evaluateGrant runtime action resourceType userEmail resource context) progress) := by
  induction policies generalizing seen progress with
  | nil => simpa using before
  | cons grant policies ih =>
    have after := explained_step runtime action resourceType userEmail resource context
      seen progress grant before
    simpa using ih _ _ after

theorem evaluateGrants_explained (policies : List Grant) :
    Explained runtime action resourceType userEmail resource context policies
      (evaluateGrants runtime policies action resourceType userEmail resource context) := by
  have initial : Explained runtime action resourceType userEmail resource context []
      ⟨[], [], [], []⟩ := ⟨by simp, by simp, by simp⟩
  have run := explained_run runtime action resourceType userEmail resource context policies [] _
    initial
  simpa [evaluateGrants] using run

theorem evaluateDetailed_allowed_iff (policies : List Grant) :
    (evaluateDetailed runtime policies action resourceType userEmail resource context).allowed
        = true ↔
      ∃ grant ∈ policies, grant.applies runtime action resourceType userEmail resource context := by
  rw [← (evaluateGrants_explained runtime action resourceType userEmail resource context
    policies).matched]
  simp [evaluateDetailed]

end Decision

end MysticAuth
