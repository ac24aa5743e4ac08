import MysticAuth.Authorization.GuardSoundness

/-!
# The shared cache of the grant guard

The bulk routes guard many items with one cache of decisions, keyed by action
and resource type.  An entry is the decision of the proposal that asked first,
on its own path: by the superuser fallback or by evaluation.  A later proposal
on the other path reads an answer that is not its own.
-/

set_option autoImplicit false

namespace MysticAuth

open Python PolicyEvaluationEngine

namespace GuardCache

/-- The proposal that was the first to ask about an action on a resource type. -/
abbrev Askers := String × String → Option Proposal

/-- The actions of a list up to the first at which the guard stops. -/
def askedActions (goesOn : String → Bool) : List String → List String
  | [] => []
  | action :: rest => if goesOn action then action :: askedActions goesOn rest else [action]

/-- The first refusal that the actions of a list meet. -/
def firstRefusal (answers : String → Except Failure Unit) : List String → Except Failure Unit
  | [] => .ok ()
  | action :: rest =>
      match answers action with
      | .ok () => firstRefusal answers rest
      | .error failure => .error failure

theorem firstRefusal_ok_iff (answers : String → Except Failure Unit) (actions : List String) :
    firstRefusal answers actions = .ok () ↔ ∀ action ∈ actions, answers action = .ok () := by
  induction actions with
  | nil => simp [firstRefusal]
  | cons action rest ih =>
    cases answered : answers action with
    | ok passed => simp [firstRefusal, answered, ih]
    | error failure => simp [firstRefusal, answered]

theorem exists_of_firstRefusal_error (answers : String → Except Failure Unit)
    (actions : List String) (failure : Failure)
    (refused : firstRefusal answers actions = .error failure) :
    ∃ action ∈ actions, answers action = .error failure := by
  induction actions with
  | nil => simp [firstRefusal] at refused
  | cons action rest ih =>
    cases answered : answers action with
    | ok passed =>
      simp only [firstRefusal, answered] at refused
      obtain ⟨other, member, same⟩ := ih refused
      exact ⟨other, List.mem_cons_of_mem _ member, same⟩
    | error failure' =>
      simp only [firstRefusal, answered, Except.error.injEq] at refused
      exact ⟨action, List.mem_cons_self, by rw [answered, refused]⟩

/-- Two ways to answer refuse a list alike exactly when they agree on every action it comes to,
provided the one that reads refuses more and a refusal belongs to its action. -/
theorem firstRefusal_eq_iff (read own : String → Except Failure Unit)
    (stricter : ∀ action, read action = .ok () → own action = .ok ())
    (named : ∀ action other failure, read action = .error failure → own other = .error failure →
      own action = .error failure) (actions : List String) :
    firstRefusal read actions = firstRefusal own actions ↔
      ∀ action ∈ askedActions (fun action => decide (own action = .ok ())) actions,
        read action = own action := by
  induction actions with
  | nil => simp [firstRefusal, askedActions]
  | cons action rest ih =>
    have passesToo := stricter action
    cases owned : own action with
    | error failure =>
      simp only [firstRefusal, askedActions, owned]
      cases readAs : read action with
      | ok passed => simp [owned, readAs] at passesToo
      | error failure' => simp [readAs, owned]
    | ok passed =>
      simp only [firstRefusal, askedActions, owned]
      cases readAs : read action with
      | ok passed' => simp [ih, readAs, owned]
      | error failure =>
        -- The refusal would have to come from a later action, which is another one.
        have elsewhere : firstRefusal own rest ≠ .error failure := by
          intro refused
          obtain ⟨other, _, same⟩ := exists_of_firstRefusal_error own rest failure refused
          have here := named action other failure readAs same
          simp [owned] at here
        simp [Ne.symm elsewhere, readAs, owned]

/-- What the guard says about one action, given the decision for it. -/
def answer (isSystemSuperuser : Bool) (conditions : Json) (action : String)
    (decision : HeldDecision) : Except Failure Unit :=
  if !decision.1 then raiseApp (cannotGrantUnheldAction action)
  else if isSystemSuperuser then .ok ()
  else
    match hasScopeForGrant decision.2 conditions with
    | some true => .ok ()
    | some false => raiseApp (cannotGrantBroaderConditions action)
    | none => .error .unhandled

section Cache

variable (runtime : Runtime) (holdings : Holdings) (callerEmail : String)
variable (context : Option Dict)

/-! ## Who asks first -/

/-- Whether the caller's own grants allow the action. -/
def holdsAction (resourceType action : String) : Bool :=
  (authorizeWithDecision runtime holdings callerEmail context action resourceType).1

/-- Whether they allow it under conditions that contain the proposed ones. -/
def coversAction (resourceType : String) (conditions : Json) (action : String) : Bool :=
  holdsAction runtime holdings callerEmail context resourceType action &&
    hasScopeForGrant
      (authorizeWithDecision runtime holdings callerEmail context action resourceType).2
      conditions == some true

theorem coversAction_iff (resourceType : String) (conditions : Json) (action : String) :
    coversAction runtime holdings callerEmail context resourceType conditions action = true ↔
      (authorizeWithDecision runtime holdings callerEmail context action resourceType).1 = true ∧
        hasScopeForGrant
          (authorizeWithDecision runtime holdings callerEmail context action resourceType).2
          conditions = some true := by
  simp [coversAction, holdsAction]

/-- The caller holds the action, but under narrower conditions than the proposed ones. -/
def isBroader (resourceType : String) (conditions : Json) (action : String) : Bool :=
  holdsAction runtime holdings callerEmail context resourceType action &&
    hasScopeForGrant
      (authorizeWithDecision runtime holdings callerEmail context action resourceType).2
      conditions == some false

/-- Whether a proposal on the other path was the first to ask about the action.  The fallback path
only minds an action that the caller does not hold. -/
def spoiled (askers : Askers) (proposal : Proposal) (action : String) : Bool :=
  match askers (action, proposal.resourceType) with
  | none => false
  | some earlier =>
      if superuserFallback holdings proposal.actions then
        !superuserFallback holdings earlier.actions &&
          !holdsAction runtime holdings callerEmail context proposal.resourceType action
      else superuserFallback holdings earlier.actions

/-- Whether the proposal is not refused at the action. -/
def goesOn (askers : Askers) (proposal : Proposal) (action : String) : Bool :=
  !spoiled runtime holdings callerEmail context askers proposal action &&
    (superuserFallback holdings proposal.actions ||
      coversAction runtime holdings callerEmail context proposal.resourceType proposal.conditions
        action)

/-- The askers after the proposal has asked about some actions. -/
def noted (askers : Askers) (proposal : Proposal) (asked : List String) : Askers := fun key =>
  (askers key).or
    (if key.2 = proposal.resourceType ∧ key.1 ∈ asked then some proposal else none)

def recordAsker (askers : Askers) (proposal : Proposal) : Askers :=
  noted askers proposal
    (askedActions (goesOn runtime holdings callerEmail context askers proposal) proposal.actions)

/-- Who was the first to ask, when the proposals have been guarded one after another. -/
def firstAsker (proposals : List Proposal) : Askers :=
  proposals.foldl (recordAsker runtime holdings callerEmail context) fun _ => none

/-- No action that the proposal comes to by itself was first asked about on the other path, unless
the proposal asks for broader conditions there and is refused with either answer. -/
def Unspoiled (askers : Askers) (proposal : Proposal) : Prop :=
  ∀ action ∈ askedActions (goesOn runtime holdings callerEmail context (fun _ => none) proposal)
      proposal.actions,
    spoiled runtime holdings callerEmail context askers proposal action = true →
      superuserFallback holdings proposal.actions = false ∧
        isBroader runtime holdings callerEmail context proposal.resourceType proposal.conditions
          action = true

/-- The caller's own grants, or the fallback, let the proposal pass. -/
def Covers (proposal : Proposal) : Prop :=
  superuserFallback holdings proposal.actions = true ∨
    ∀ action ∈ proposal.actions,
      coversAction runtime holdings callerEmail context proposal.resourceType proposal.conditions
        action = true

/-! ## What the cache holds -/

/-- The decision that the proposal's own path gives. -/
def ownDecision (proposal : Proposal) (key : String × String) : HeldDecision :=
  if superuserFallback holdings proposal.actions then (true, [])
  else authorizeWithDecision runtime holdings callerEmail context key.1 key.2

/-- Every entry is the decision of the proposal that asked first. -/
def Recorded (askers : Askers) (cache : GrantCache) : Prop :=
  ∀ key, cache.lookup key =
    (askers key).map fun asker => ownDecision runtime holdings callerEmail context asker key

/-- The decision the proposal reads. -/
def readDecision (askers : Askers) (proposal : Proposal) (action : String) : HeldDecision :=
  ownDecision runtime holdings callerEmail context
    ((askers (action, proposal.resourceType)).getD proposal) (action, proposal.resourceType)

/-- What the proposal is told about the action by itself. -/
def ownAnswer (proposal : Proposal) (action : String) : Except Failure Unit :=
  answer (superuserFallback holdings proposal.actions) proposal.conditions action
    (ownDecision runtime holdings callerEmail context proposal (action, proposal.resourceType))

/-- What it is told when the cache is asked first. -/
def readAnswer (askers : Askers) (proposal : Proposal) (action : String) : Except Failure Unit :=
  answer (superuserFallback holdings proposal.actions) proposal.conditions action
    (readDecision runtime holdings callerEmail context askers proposal action)

theorem recorded_nil : Recorded runtime holdings callerEmail context (fun _ => none) [] :=
  fun _ => rfl

theorem noted_nil (askers : Askers) (proposal : Proposal) : noted askers proposal [] = askers := by
  funext key
  simp [noted]

theorem resolveDecision_recorded (askers : Askers) (proposal : Proposal) (asked : List String)
    (cache : GrantCache)
    (recorded : Recorded runtime holdings callerEmail context (noted askers proposal asked) cache)
    (action : String) :
    ∃ cache',
      resolveDecision runtime holdings callerEmail context
          (superuserFallback holdings proposal.actions) proposal.resourceType action (some cache) =
        (readDecision runtime holdings callerEmail context askers proposal action, some cache') ∧
      Recorded runtime holdings callerEmail context (noted askers proposal (asked ++ [action]))
        cache' := by
  have cached := recorded (action, proposal.resourceType)
  by_cases unknown : askers (action, proposal.resourceType) = none ∧ action ∉ asked
  · -- Nobody has asked: the proposal's own decision is stored.
    obtain ⟨unasked, fresh⟩ := unknown
    simp only [noted, unasked, fresh, and_false, if_false, Option.or_none, Option.map_none] at cached
    refine ⟨((action, proposal.resourceType),
      ownDecision runtime holdings callerEmail context proposal (action, proposal.resourceType))
        :: cache, ?_, ?_⟩
    · simp [resolveDecision, cached, readDecision, unasked, ownDecision]
    · intro key
      rw [List.lookup_cons]
      by_cases same : key = (action, proposal.resourceType)
      · subst same
        simp [noted, unasked]
      · have differs : (key == (action, proposal.resourceType)) = false := by simpa using same
        have unchanged : noted askers proposal (asked ++ [action]) key =
            noted askers proposal asked key := by
          have other : ¬ (key.2 = proposal.resourceType ∧ key.1 = action) := fun both =>
            same (Prod.ext both.2 both.1)
          simp only [noted, List.mem_append, List.mem_singleton]
          congr 1
          grind
        rw [differs, unchanged]
        exact recorded key
  · refine ⟨cache, ?_, ?_⟩
    · cases asker : askers (action, proposal.resourceType) with
      | some earlier =>
        simp only [noted, asker, Option.some_or, Option.map_some] at cached
        simp [resolveDecision, cached, readDecision, asker]
      | none =>
        have again : action ∈ asked := by
          by_contra fresh
          exact unknown ⟨asker, fresh⟩
        simp only [noted, asker, again, and_self, if_true, Option.none_or, Option.map_some]
          at cached
        simp [resolveDecision, cached, readDecision, asker]
    · intro key
      rw [recorded key]
      congr 1
      by_cases same : key = (action, proposal.resourceType)
      · subst same
        cases asker : askers (action, proposal.resourceType) with
        | some earlier => simp [noted, asker]
        | none =>
          have again : action ∈ asked := by
            by_contra fresh
            exact unknown ⟨asker, fresh⟩
          simp [noted, asker, again]
      · have other : ¬ (key.2 = proposal.resourceType ∧ key.1 = action) := fun both =>
          same (Prod.ext both.2 both.1)
        simp only [noted, List.mem_append, List.mem_singleton]
        congr 1
        grind

theorem guardActions_cons (isSystemSuperuser : Bool) (resourceType : String) (conditions : Json)
    (action : String) (rest : List String) (cache cache' : Option GrantCache)
    (decision : HeldDecision)
    (resolved : resolveDecision runtime holdings callerEmail context isSystemSuperuser resourceType
      action cache = (decision, cache')) :
    guardActions runtime holdings callerEmail context isSystemSuperuser resourceType conditions
        (action :: rest) cache =
      match answer isSystemSuperuser conditions action decision with
      | .ok () => guardActions runtime holdings callerEmail context isSystemSuperuser resourceType
          conditions rest cache'
      | .error failure => (.error failure, cache') := by
  simp only [guardActions, resolved, answer]
  repeat' split
  all_goals simp_all [raiseApp]

theorem guardActions_uncached (isSystemSuperuser : Bool) (resourceType : String)
    (conditions : Json) (actions : List String) :
    (guardActions runtime holdings callerEmail context isSystemSuperuser resourceType conditions
        actions none).1 =
      firstRefusal (fun action => answer isSystemSuperuser conditions action
        (if isSystemSuperuser then (true, [])
          else authorizeWithDecision runtime holdings callerEmail context action resourceType))
        actions := by
  induction actions with
  | nil => rfl
  | cons action rest ih =>
    rw [guardActions_cons runtime holdings callerEmail context _ _ _ _ _ none none _ rfl]
    generalize answered : answer isSystemSuperuser conditions action _ = answer'
    cases answer' with
    | ok passed => simpa [firstRefusal, answered] using ih
    | error failure => simp [firstRefusal, answered]

theorem guardAlone_eq (proposal : Proposal) :
    guardAlone runtime holdings callerEmail context proposal =
      firstRefusal (ownAnswer runtime holdings callerEmail context proposal) proposal.actions :=
  guardActions_uncached runtime holdings callerEmail context _ _ _ _

/-! ## What one action is told -/

section Action

variable (askers : Askers) (proposal : Proposal) (action : String)

theorem ownAnswer_ok_iff :
    ownAnswer runtime holdings callerEmail context proposal action = .ok () ↔
      superuserFallback holdings proposal.actions = true ∨
        coversAction runtime holdings callerEmail context proposal.resourceType proposal.conditions
          action = true := by
  cases path : superuserFallback holdings proposal.actions with
  | true => simp [ownAnswer, answer, ownDecision, path]
  | false =>
    simp only [ownAnswer, answer, ownDecision, path, coversAction, holdsAction, Bool.false_eq_true,
      if_false]
    repeat' split
    all_goals simp_all [raiseApp]

/-- A spoiled action is refused on either path; any other is answered as by itself. -/
theorem readAnswer_eq :
    readAnswer runtime holdings callerEmail context askers proposal action =
      if spoiled runtime holdings callerEmail context askers proposal action then
        raiseApp (if superuserFallback holdings proposal.actions then cannotGrantUnheldAction action
          else cannotGrantBroaderConditions action)
      else ownAnswer runtime holdings callerEmail context proposal action := by
  simp only [readAnswer, ownAnswer]
  cases asker : askers (action, proposal.resourceType) with
  | none => simp [readDecision, spoiled, asker]
  | some earlier =>
    cases path : superuserFallback holdings proposal.actions <;>
      cases earlierPath : superuserFallback holdings earlier.actions
    · simp [readDecision, spoiled, asker, path, earlierPath, ownDecision]
    · simp [readDecision, spoiled, asker, path, earlierPath, ownDecision, answer, hasScopeForGrant]
    · cases held : holdsAction runtime holdings callerEmail context proposal.resourceType action <;>
        simp_all [readDecision, spoiled, ownDecision, answer, holdsAction]
    · simp [readDecision, spoiled, asker, path, earlierPath, ownDecision]

theorem readAnswer_ok_iff :
    readAnswer runtime holdings callerEmail context askers proposal action = .ok () ↔
      goesOn runtime holdings callerEmail context askers proposal action = true := by
  rw [readAnswer_eq, goesOn]
  cases spoiled runtime holdings callerEmail context askers proposal action with
  | true => simp [raiseApp]
  | false => simp [ownAnswer_ok_iff]

/-- With an answer of the other path in its place, a refusal stays the same only if it is the one
for broader conditions. -/
theorem readAnswer_eq_own_iff :
    readAnswer runtime holdings callerEmail context askers proposal action =
        ownAnswer runtime holdings callerEmail context proposal action ↔
      (spoiled runtime holdings callerEmail context askers proposal action = true →
        superuserFallback holdings proposal.actions = false ∧
          isBroader runtime holdings callerEmail context proposal.resourceType proposal.conditions
            action = true) := by
  rw [readAnswer_eq]
  cases spoiled runtime holdings callerEmail context askers proposal action with
  | false => simp
  | true =>
    cases path : superuserFallback holdings proposal.actions with
    | true => simp [ownAnswer, answer, ownDecision, path, raiseApp]
    | false =>
      simp only [ownAnswer, answer, ownDecision, path, isBroader, holdsAction, Bool.false_eq_true,
        if_false, if_true]
      repeat' split
      all_goals simp_all [raiseApp, cannotGrantUnheldAction, cannotGrantBroaderConditions]

theorem answer_error (isSystemSuperuser : Bool) (conditions : Json) (decision : HeldDecision)
    (failure : Failure)
    (refused : answer isSystemSuperuser conditions action decision = .error failure) :
    failure = .app (cannotGrantUnheldAction action) ∨
      failure = .app (cannotGrantBroaderConditions action) ∨ failure = .unhandled := by
  simp only [answer] at refused
  repeat' split at refused
  all_goals simp_all [raiseApp]

/-- A refusal that a proposal would also meet by itself, it meets at the same action. -/
theorem ownAnswer_of_readAnswer (other : String) (failure : Failure)
    (read : readAnswer runtime holdings callerEmail context askers proposal action = .error failure)
    (own : ownAnswer runtime holdings callerEmail context proposal other = .error failure) :
    ownAnswer runtime holdings callerEmail context proposal action = .error failure := by
  rw [readAnswer_eq] at read
  split at read
  · have named : failure = .app (cannotGrantUnheldAction action) ∨
        failure = .app (cannotGrantBroaderConditions action) := by
      split at read <;> simp_all [raiseApp]
    have same : action = other := by
      rcases named with rfl | rfl <;> rcases answer_error other _ _ _ _ own with h | h | h <;>
        simp_all [cannotGrantUnheldAction, cannotGrantBroaderConditions]
    rw [same, own]
  · exact read

end Action

/-! ## One proposal with the cache -/

section One

variable (askers : Askers) (proposal : Proposal)

theorem guardActions_recorded (actions asked : List String) (cache : GrantCache)
    (recorded : Recorded runtime holdings callerEmail context (noted askers proposal asked) cache) :
    ∃ cache',
      guardActions runtime holdings callerEmail context
          (superuserFallback holdings proposal.actions) proposal.resourceType proposal.conditions
          actions (some cache) =
        (firstRefusal (readAnswer runtime holdings callerEmail context askers proposal) actions,
          some cache') ∧
      Recorded runtime holdings callerEmail context
        (noted askers proposal (asked ++
          askedActions (goesOn runtime holdings callerEmail context askers proposal) actions))
        cache' := by
  induction actions generalizing asked cache with
  | nil => exact ⟨cache, rfl, by simpa [askedActions] using recorded⟩
  | cons action rest ih =>
    obtain ⟨cache', resolved, recorded'⟩ := resolveDecision_recorded runtime holdings callerEmail
      context askers proposal asked cache recorded action
    have passes := readAnswer_ok_iff runtime holdings callerEmail context askers proposal action
    rw [guardActions_cons runtime holdings callerEmail context _ _ _ _ _ _ _ _ resolved]
    simp only [firstRefusal, askedActions]
    generalize told : answer (superuserFallback holdings proposal.actions) proposal.conditions
      action (readDecision runtime holdings callerEmail context askers proposal action) = outcome
    have answered : readAnswer runtime holdings callerEmail context askers proposal action =
        outcome := told
    rw [answered] at passes ⊢
    cases outcome with
    | ok passed =>
      obtain ⟨cache'', tail, recorded''⟩ := ih (asked ++ [action]) cache' recorded'
      refine ⟨cache'', tail, ?_⟩
      rw [if_pos (passes.mp rfl)]
      simpa using recorded''
    | error failure =>
      refine ⟨cache', rfl, ?_⟩
      rw [if_neg (by simp [← passes])]
      exact recorded'

theorem assertAuthorizedToGrant_recorded (cache : GrantCache)
    (recorded : Recorded runtime holdings callerEmail context askers cache) :
    ∃ cache',
      assertAuthorizedToGrant runtime holdings callerEmail context proposal (some cache) =
        (firstRefusal (readAnswer runtime holdings callerEmail context askers proposal)
          proposal.actions, some cache') ∧
      Recorded runtime holdings callerEmail context
        (recordAsker runtime holdings callerEmail context askers proposal) cache' :=
  guardActions_recorded runtime holdings callerEmail context askers proposal proposal.actions []
    cache (by rwa [noted_nil])

/-- With the answers that its predecessors left, a proposal is answered as by itself exactly when
it is not spoiled. -/
theorem firstRefusal_read_iff :
    firstRefusal (readAnswer runtime holdings callerEmail context askers proposal)
        proposal.actions = guardAlone runtime holdings callerEmail context proposal ↔
      Unspoiled runtime holdings callerEmail context askers proposal := by
  have asked : goesOn runtime holdings callerEmail context (fun _ => none) proposal =
      fun action => decide (ownAnswer runtime holdings callerEmail context proposal action
        = .ok ()) := by
    funext action
    rw [Bool.eq_iff_iff, decide_eq_true_iff, ownAnswer_ok_iff]
    simp [goesOn, spoiled]
  rw [guardAlone_eq, Unspoiled, asked, firstRefusal_eq_iff]
  · simp only [readAnswer_eq_own_iff]
  · intro action passed
    rw [readAnswer_ok_iff, goesOn, Bool.and_eq_true] at passed
    rw [ownAnswer_ok_iff]
    simpa using passed.2
  · exact ownAnswer_of_readAnswer runtime holdings callerEmail context askers proposal

/-- It passes exactly when the caller's grants cover it and none of its actions is spoiled. -/
theorem firstRefusal_read_ok_iff :
    firstRefusal (readAnswer runtime holdings callerEmail context askers proposal)
        proposal.actions = .ok () ↔
      Covers runtime holdings callerEmail context proposal ∧
        ∀ action ∈ proposal.actions,
          spoiled runtime holdings callerEmail context askers proposal action = false := by
  simp only [firstRefusal_ok_iff, readAnswer_ok_iff, goesOn, Covers]
  grind

end One

theorem guardAlone_ok_iff (proposal : Proposal) :
    guardAlone runtime holdings callerEmail context proposal = .ok () ↔
      Covers runtime holdings callerEmail context proposal := by
  simp only [guardAlone_eq, firstRefusal_ok_iff, ownAnswer_ok_iff, Covers]
  grind

/-! ## A sequence of proposals -/

theorem guardProposals_recorded_iff (proposals : List Proposal) (askers : Askers)
    (cache : GrantCache) (recorded : Recorded runtime holdings callerEmail context askers cache) :
    guardProposals runtime holdings callerEmail context proposals cache =
        proposals.map (guardAlone runtime holdings callerEmail context) ↔
      ∀ before proposal after, proposals = before ++ proposal :: after →
        Unspoiled runtime holdings callerEmail context
          (before.foldl (recordAsker runtime holdings callerEmail context) askers) proposal := by
  induction proposals generalizing askers cache with
  | nil => simp [guardProposals]
  | cons head rest ih =>
    obtain ⟨cache', guarded, recorded'⟩ := assertAuthorizedToGrant_recorded runtime holdings
      callerEmail context askers head cache recorded
    simp only [guardProposals, guarded, Option.getD_some, List.map_cons, List.cons.injEq,
      firstRefusal_read_iff, ih _ cache' recorded']
    constructor
    · rintro ⟨unspoiled, later⟩ before proposal after split
      cases before with
      | nil =>
        obtain ⟨rfl, rfl⟩ := List.cons.inj split
        exact unspoiled
      | cons earlier before =>
        obtain ⟨rfl, rfl⟩ := List.cons.inj split
        exact later before proposal after rfl
    · intro every
      refine ⟨every [] head rest rfl, fun before proposal after split => ?_⟩
      exact every (head :: before) proposal after (by rw [split]; rfl)

theorem mem_of_foldl_recordAsker (proposals : List Proposal) (askers : Askers)
    (key : String × String) (asker : Proposal)
    (found : proposals.foldl (recordAsker runtime holdings callerEmail context) askers key =
      some asker) : askers key = some asker ∨ asker ∈ proposals := by
  induction proposals generalizing askers with
  | nil => exact Or.inl found
  | cons head rest ih =>
    rcases ih _ found with recorded | later
    · simp only [recordAsker, noted, Option.or_eq_some_iff] at recorded
      rcases recorded with earlier | ⟨_, now⟩
      · exact Or.inl earlier
      · split at now
        · exact Or.inr (by simp [Option.some.inj now])
        · simp at now
    · exact Or.inr (List.mem_cons_of_mem _ later)

end Cache

end GuardCache

open GuardCache

section Transparency

variable (runtime : Runtime) (holdings : Holdings) (callerEmail : String)
variable (context : Option Dict) (proposals : List Proposal)

/-- The shared cache is transparent for a sequence exactly when none of its proposals is spoiled by
those before it. -/
theorem guardProposals_transparent_iff :
    guardProposals runtime holdings callerEmail context proposals [] =
        proposals.map (guardAlone runtime holdings callerEmail context) ↔
      ∀ before proposal after, proposals = before ++ proposal :: after →
        Unspoiled runtime holdings callerEmail context
          (firstAsker runtime holdings callerEmail context before) proposal :=
  guardProposals_recorded_iff runtime holdings callerEmail context proposals _ []
    (recorded_nil runtime holdings callerEmail context)

/-- A sequence that stays on one path shares its cache safely: every sequence of a caller without
the fallback, every sequence of built-in actions, every sequence of lists with an application-owned
action. -/
theorem guardProposals_of_samePath (path : Bool)
    (alike : ∀ proposal ∈ proposals, superuserFallback holdings proposal.actions = path) :
    guardProposals runtime holdings callerEmail context proposals [] =
      proposals.map (guardAlone runtime holdings callerEmail context) := by
  apply (guardProposals_recorded_iff runtime holdings callerEmail context proposals _ []
    (recorded_nil runtime holdings callerEmail context)).mpr
  rintro before proposal after rfl action _ spoils
  have here := alike proposal (by simp)
  simp only [spoiled] at spoils
  split at spoils
  · simp at spoils
  · rename_i earlier found
    have member := (mem_of_foldl_recordAsker runtime holdings callerEmail context before _ _ _
      found).resolve_left (by simp)
    have there := alike earlier (by simp [member])
    simp [here, there] at spoils
    cases path <;> simp_all

end Transparency

/-! ## Where the fallback leaks into the cache -/

/-- An application-owned action next to a built-in one, then the built-in one by itself. -/
def leakingPair : List Proposal :=
  [⟨["projects:read", "users:read_own"], "users", .null⟩, ⟨["users:read_own"], "users", .null⟩]

/-- The seeded superuser, guarding an application-owned action together with a built-in one and
then the built-in one by itself. -/
def seededSuperuser : Holdings where
  activePolicies := [⟨1, "system_superuser", none, builtInActions, "*", .null, true, some "system"⟩]
  activePermissions := []

theorem guardProposals_not_transparent :
    ¬ ∀ (runtime : Runtime) (holdings : Holdings) (callerEmail : String) (context : Option Dict)
      (proposals : List Proposal),
      guardProposals runtime holdings callerEmail context proposals [] =
        proposals.map (guardAlone runtime holdings callerEmail context) := by
  intro transparent
  have shared : guardProposals utcRuntime seededSuperuser "root@example.com" none leakingPair [] =
      [.ok (), raiseApp (cannotGrantBroaderConditions "users:read_own")] := rfl
  have alone : leakingPair.map (guardAlone utcRuntime seededSuperuser "root@example.com" none) =
      [.ok (), .ok ()] := rfl
  have same := transparent utcRuntime seededSuperuser "root@example.com" none leakingPair
  rw [shared, alone] at same
  simp [raiseApp] at same

end MysticAuth
