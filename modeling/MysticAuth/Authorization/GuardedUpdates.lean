import MysticAuth.Authorization.RouteDiscipline

/-!
# The guard and the commit of a policy update

An update passes to the guard what its fields make of the row as it was first
read, and commits what they make of the row as it is locked later.  The two
are one definition only if the parts that the request leaves alone have not
changed in between.
-/

set_option autoImplicit false

namespace MysticAuth.Transactions

open Python PolicyEvaluationEngine Interleaving

/-! ## One update -/

/-- The parts that the request leaves unset are the same in both rows. -/
structure KeepsUnset (fields : Database.PolicyFields) (policy locked : Policy) : Prop where
  actions : fields.actions = none → locked.actions = policy.actions
  resourceType : fields.resourceType = none → locked.resourceType = policy.resourceType
  conditions : fields.conditions = none → locked.conditions = policy.conditions

section Update

variable {fields : Database.PolicyFields} {policy locked updated : Policy}

theorem targetProposal_locked (applied : fields.apply locked = some updated) :
    targetProposal locked fields = some updated.proposal := by
  obtain ⟨-, actionsSet, typeSet, -, conditionsSet⟩ := apply_eq_some _ _ _ applied
  simp only [targetProposal, actionsSet, typeSet, Option.bind_eq_bind, Option.bind_some,
    Policy.proposal, conditionsSet]

/-- One column makes the same value of both rows exactly when it is set or they agree. -/
theorem setColumn_eq_iff {α : Type} {field : Option (Option α)} (current : α) {other value : α}
    (isValue : Database.setColumn other field = some value) :
    Database.setColumn current field = some value ↔ (field = none → other = current) := by
  cases field with
  | none =>
    obtain rfl := Option.some.inj isValue
    simp only [Database.setColumn, Option.some.injEq, true_implies]
    exact eq_comm
  | some set =>
    obtain rfl : set = some value := isValue
    simp [Database.setColumn]

theorem conditions_eq_iff (field : Option Json) (current other : Json) :
    field.getD current = field.getD other ↔ (field = none → other = current) := by
  cases field with
  | none =>
    simp only [Option.getD_none, true_implies]
    exact eq_comm
  | some set => simp

/-- What the fields make of the row first read is what they make of the locked one. -/
theorem target_eq_iff (applied : fields.apply locked = some updated) :
    targetProposal policy fields = some updated.proposal ↔ KeepsUnset fields policy locked := by
  obtain ⟨-, actionsSet, typeSet, -, conditionsSet⟩ := apply_eq_some _ _ _ applied
  have actions := setColumn_eq_iff policy.actions actionsSet
  have resourceType := setColumn_eq_iff policy.resourceType typeSet
  have conditions := conditions_eq_iff fields.conditions policy.conditions locked.conditions
  rw [← conditionsSet] at conditions
  simp only [targetProposal, Option.bind_eq_bind, Option.bind_eq_some_iff, Option.some.injEq,
    Policy.proposal]
  constructor
  · rintro ⟨actions', isActions, type', isType, same⟩
    injection same with sameActions sameType sameConditions
    subst sameActions sameType
    exact ⟨actions.mp isActions, resourceType.mp isType, conditions.mp sameConditions⟩
  · intro keeps
    refine ⟨_, actions.mpr keeps.actions, _, resourceType.mpr keeps.resourceType, ?_⟩
    rw [conditions.mpr keeps.conditions]

/-- A proposal of the unchanged row is made again by fields that only repeat it. -/
theorem target_of_unchanged (applied : fields.apply locked = some updated)
    (same : updated.proposal = policy.proposal) : KeepsUnset fields policy locked := by
  obtain ⟨-, actionsSet, typeSet, -, conditionsSet⟩ := apply_eq_some _ _ _ applied
  injection same with sameActions sameType sameConditions
  constructor
  · intro unset
    rw [unset] at actionsSet
    exact (Option.some.inj actionsSet).trans sameActions
  · intro unset
    rw [unset] at typeSet
    exact (Option.some.inj typeSet).trans sameType
  · intro unset
    rw [unset] at conditionsSet
    exact conditionsSet.symm.trans sameConditions

theorem mem_updateGuards_iff (applied : fields.apply locked = some updated) :
    updated.proposal ∈ updateGuards policy fields ↔
      (touchesGrants fields || deactivates fields) = true ∧ KeepsUnset fields policy locked := by
  rw [updateGuards, List.mem_append]
  cases touches : touchesGrants fields with
  | true =>
    simp only [Bool.true_or, if_true, List.mem_singleton, Option.mem_toList, true_and,
      target_eq_iff applied]
    exact ⟨fun guarded => guarded.elim (target_of_unchanged applied) id, Or.inr⟩
  | false =>
    have untouched := (untouched_update _ _ _ applied touches).1
    simp only [Bool.false_or, Bool.false_eq_true, if_false, List.not_mem_nil, or_false]
    cases deactivates fields with
    | false => simp
    | true =>
      simp only [if_true, List.mem_singleton, true_and]
      refine ⟨target_of_unchanged applied, fun keeps => ?_⟩
      simp only [touchesGrants, Bool.or_eq_false_iff, Option.isSome_eq_false_iff,
        Option.isNone_iff_eq_none] at touches
      rw [untouched, Policy.proposal, Policy.proposal, keeps.actions touches.1.1,
        keeps.resourceType touches.1.2, keeps.conditions touches.2]

end Update

/-! ## Histories and other requests -/

/-- Every history entry has a definition to roll back to. -/
def Recorded (database : Database) : Prop :=
  ∀ entry ∈ database.policyHistory, entry.definition ≠ none

theorem recorded_addHistory {database : Database} (recorded : Recorded database)
    {policyId : Nat} {policyName : String} {changeType : PolicyChangeType}
    {previous new : Option PolicyDefinition} {changedBy : String} {changeReason : Option String}
    (defined : new.or previous ≠ none) :
    Recorded (database.addHistory policyId policyName changeType previous new changedBy
      changeReason) := by
  intro entry member
  rcases List.mem_append.mp member with old | isNew
  · exact recorded entry old
  · rw [List.mem_singleton.mp isNew]
    exact defined

theorem history_removeAssignments (database : Database) (items : List (User × Policy)) :
    (removeAssignments database items).policyHistory = database.policyHistory := by
  induction items generalizing database with
  | nil => rfl
  | cons item rest ih => exact ih _

theorem history_removePermissions (database : Database) (items : List PermissionItem) :
    (removePermissions database items).policyHistory = database.policyHistory := by
  induction items generalizing database with
  | nil => rfl
  | cons item rest ih => exact ih _

theorem recorded_applied {database : Database} (recorded : Recorded database)
    (event : Event) : Recorded (applied database event) := by
  unfold applied
  split
  · rename_i locked fields changedBy changeReason changeType updated
    cases isAfter : database.updatePolicy locked fields changedBy changeReason changeType with
    | none => exact recorded
    | some after =>
      obtain ⟨updated', -, rfl⟩ := updatePolicy_eq_some _ _ _ _ _ _ _ isAfter
      exact recorded_addHistory recorded (by simp)
  · exact recorded_addHistory recorded (by simp)
  · exact recorded
  · rename_i user policy action revokedBy _
    cases isAfter : database.revokeSingleAction user.id policy action revokedBy with
    | none => exact recorded
    | some after =>
      obtain ⟨permissions, rfl, -⟩ := revokeSingleAction_eq_some _ _ _ _ _ _ isAfter
      exact recorded
  · intro entry member
    rw [history_removeAssignments] at member
    exact recorded entry member
  · exact recorded
  · intro entry member
    rw [history_removePermissions] at member
    exact recorded entry member
  · exact recorded

/-- Whatever else happens to the tables and the cache; a history entry keeps its definition. -/
abbrev Interference :=
  {change : Store → Store //
    ∀ store, Recorded store.database → Recorded (change store).database}

/-- All the routes, with any interference between two calls. -/
def policyServer (site : Site) :
    System (Request × Operation) Store Interference Reply Failure Response where
  handle served := handle site served.1 served.2
  outcomes := outcomes site
  disturb change store := change.val store

abbrev PolicyServer := Config (Request × Operation) Store Reply Failure Response

theorem policyServer_obeys (site : Site) :
    (policyServer site).Obeys (fun served => discipline served.1 served.2)
      (fun served => returns site served.2) where
  programs served := handle_meets site served.1 served.2
  answers served thread call store outcome possible :=
    outcomes_answer site served.1 served.2 thread call store outcome possible

section Runs

variable {site : Site} {start : Store} {before after config : PolicyServer}

theorem recorded_along (recorded : Recorded start.database)
    (run : Reaches (policyServer site) anyCall (Config.start start) config) :
    Recorded config.state.database ∧ ∀ thread historyId entry,
      (thread, ⟨.getHistoryById historyId, some entry⟩) ∈ config.history →
        entry.definition ≠ none := by
  refine run.keeps (fun store history => Recorded store.database ∧
    ∀ thread historyId entry, (thread, ⟨.getHistoryById historyId, some entry⟩) ∈ history →
      entry.definition ≠ none) ⟨recorded, by simp [Config.start]⟩ ?_ ?_
  · exact fun change store history holds => ⟨change.property store holds.1, holds.2⟩
  · rintro before after thread event - answers ⟨holds, read⟩
    constructor
    · rw [database_of_answer answers.possible]
      exact recorded_applied holds event
    · intro actor historyId entry member
      rcases List.mem_cons.mp member with same | old
      · obtain ⟨rfl, rfl⟩ := Prod.mk.inj same
        have found := Prod.mk.inj (List.mem_singleton.mp answers.possible)
        exact holds entry (List.mem_of_find?_eq_some found.1.symm)
      · exact read actor historyId entry old

/-- At every step of every run at which a request commits an update or a rollback, the committed
definition was passed to the guard on behalf of its caller exactly if the request changes the
definition or switches the policy off, and the parts it leaves unset are in the row it has locked
what they were in the row it had first read. -/
theorem committed_definition_guarded_iff (site : Site) (start : Store)
    (recorded : Recorded start.database)
    (run : Reaches (policyServer site) anyCall (Config.start start) before) (thread : Nat)
    (locked updated : Policy) (fields : Database.PolicyFields) (changedBy : String)
    (changeReason : Option String) (changeType : PolicyChangeType)
    (answers : Answers (policyServer site) anyCall before after thread
      ⟨.commitUpdate locked fields changedBy changeReason changeType, .ok updated⟩)
    (request : Request) (operation : Operation) (program : Service Response)
    (running : before.threads[thread]? = some ⟨(request, operation), program⟩) :
    ∃ policyName policy, ⟨.getByName policyName, some policy⟩ ∈ before.trace thread ∧
      ⟨.lockPolicy policy, some locked⟩ ∈ before.trace thread ∧
        (Guarded request.caller (before.trace thread) updated.proposal ↔
          (touchesGrants fields || deactivates fields) = true ∧
            KeepsUnset fields policy locked) := by
  obtain ⟨served, next, isRunning⟩ := answers.running
  have same := Option.some.inj (running.symm.trans isRunning)
  injection same with isServed
  subst isServed
  have applied : fields.apply locked = some updated :=
    outcomes_answer site request operation thread _ before.state _ answers.possible updated rfl
  obtain ⟨-, -, allowed⟩ :=
    (run.disciplined (policyServer_obeys site) start).allows isRunning
  cases operation with
  | updatePolicy policyName fields' reason =>
    obtain ⟨-, policy, read, isLocked, guarded⟩ := allowed
    exact ⟨policyName, policy, read, isLocked, (guarded _).trans (mem_updateGuards_iff applied)⟩
  | rollbackPolicy policyName historyId reason =>
    obtain ⟨entry, isEntry, rfl, policy, read, isLocked, guarded⟩ := allowed
    refine ⟨policyName, policy, read, isLocked, (guarded _).trans ?_⟩
    obtain ⟨definition, isDefinition⟩ := Option.ne_none_iff_exists'.mp
      ((recorded_along recorded run).2 thread historyId entry ((Config.mem_trace _ _).mp isEntry))
    rw [isDefinition] at applied ⊢
    have target := targetProposal_locked applied
    simp only [rollbackFields, Option.map_some, Option.getD_some, targetProposal,
      Database.PolicyFields.ofDefinition, Database.setColumn, Option.bind_eq_bind,
      Option.bind_some, Option.some.injEq] at target
    simp only [← target, rollbackProposal, Option.map_some, Option.getD_some, List.mem_cons,
      List.not_mem_nil, or_false, or_true, true_iff]
    exact ⟨rfl, by simp [rollbackFields, Database.PolicyFields.ofDefinition],
      by simp [rollbackFields, Database.PolicyFields.ofDefinition],
      by simp [rollbackFields, Database.PolicyFields.ofDefinition]⟩
  | _ => exact allowed.elim

end Runs

/-! ## Two updates of different parts -/

/-- Every table of Python's strings is the identity. -/
def plainSite : Site where
  runtime := utcRuntime
  keys := ⟨id, id, id, id⟩
  reprText _ := ""

def projectsPolicy : Policy :=
  ⟨1, "team", none, ["projects:read"], "projects", .null, true, none⟩

/-- Ann may read and delete projects, and read billing. -/
def annsTables : Database where
  users := [⟨1, "ann@example.com", .user⟩]
  policies := [projectsPolicy]
  userPolicies := []
  userPermissions :=
    [⟨1, "policies:update", "policies", .null, true, none⟩,
      ⟨1, "projects:read", "projects", .null, true, none⟩,
      ⟨1, "projects:delete", "projects", .null, true, none⟩,
      ⟨1, "projects:read", "billing", .null, true, none⟩]
  policyHistory := []
  nextPolicyId := 2
  nextHistoryId := 1

def Store.of (database : Database) : Store :=
  ⟨database, [], [], [], []⟩

def annsRequest : Request :=
  ⟨"ann@example.com", "203.0.113.7", "2026-01-01T00:00:00", "2026-01-01T00:00:00"⟩

def setDelete : Operation :=
  .updatePolicy "team" { Database.PolicyFields.unset with
    actions := some (some ["projects:delete"]) } none

def setBilling : Operation :=
  .updatePolicy "team" { Database.PolicyFields.unset with resourceType := some (some "billing") }
    none

def commitsDefinition (actions : List String) (resourceType : String) (event : Event) : Bool :=
  match event with
  | ⟨.commitUpdate _ _ _ _ _, .ok updated⟩ =>
      updated.actions == actions && updated.resourceType == resourceType
  | _ => false

theorem committed_of_check {actions : List String} {resourceType : String} {event : Event}
    (passed : commitsDefinition actions resourceType event = true) :
    ∃ locked fields changedBy changeReason changeType updated,
      event = ⟨.commitUpdate locked fields changedBy changeReason changeType, .ok updated⟩ ∧
        updated.actions = actions ∧ updated.resourceType = resourceType := by
  unfold commitsDefinition at passed
  split at passed
  · rename_i locked fields changedBy changeReason changeType updated
    simp only [Bool.and_eq_true, beq_iff_eq] at passed
    exact ⟨locked, fields, changedBy, changeReason, changeType, updated, rfl, passed⟩
  · cases passed

def guardsDefinition (actions : List String) (resourceType : String) (event : Event) : Bool :=
  match event.1 with
  | .assertAuthorizedToGrant _ _ proposal _ =>
      proposal.actions == actions && proposal.resourceType == resourceType
  | _ => false

/-- A step of a schedule that commits the definition. -/
theorem commit_of_schedule {site : Site} {start : Store}
    {moves : List (Move (Request × Operation) Interference)} {actions : List String}
    {resourceType : String}
    (commits : ((Config.start start).follow (policyServer site) moves).history.any
      (fun entry => commitsDefinition actions resourceType entry.2) = true) :
    ∃ (before after : PolicyServer) (thread : Nat) (request : Request) (operation : Operation)
      (program : Service Response) (locked updated : Policy) (fields : Database.PolicyFields)
      (changedBy : String) (changeReason : Option String) (changeType : PolicyChangeType),
      Reaches (policyServer site) anyCall (Config.start start) before ∧
        Answers (policyServer site) anyCall before after thread
          ⟨.commitUpdate locked fields changedBy changeReason changeType, .ok updated⟩ ∧
        before.threads[thread]? = some ⟨(request, operation), program⟩ ∧
        updated.actions = actions ∧ updated.resourceType = resourceType ∧
        before.history <:+ ((Config.start start).follow (policyServer site) moves).history := by
  obtain ⟨⟨thread, event⟩, member, passed⟩ := List.any_eq_true.mp commits
  obtain ⟨locked, fields, changedBy, changeReason, changeType, updated, rfl, isActions, isType⟩ :=
    committed_of_check passed
  obtain ⟨before, after, first, answers, rest⟩ :=
    (Config.follow_reaches (policyServer site) _ moves).answered_member
      ((Config.mem_trace thread _).mpr member)
  obtain ⟨⟨request, operation⟩, next, running⟩ := answers.running
  exact ⟨before, after, thread, request, operation, _, locked, updated, fields, changedBy,
    changeReason, changeType, first, answers, running, isActions, isType,
    answers.step.history_suffix.trans rest.history_suffix⟩

/-- The second update is guarded before the first one commits, and commits after it. -/
def deleteAndBilling : List (Move (Request × Operation) Interference) :=
  .begin (annsRequest, setDelete) :: Move.turns 0 4 ++
    .begin (annsRequest, setBilling) :: Move.turns 1 4 ++ Move.turns 0 2 ++ Move.turns 1 2

/-- The first update commits what it has passed to the guard, although the second one has been
guarded in between. -/
theorem committed_definition_guarded_first :
    ∃ (before after : PolicyServer) (thread : Nat) (request : Request) (operation : Operation)
      (program : Service Response) (locked updated : Policy) (fields : Database.PolicyFields)
      (changedBy : String) (changeReason : Option String) (changeType : PolicyChangeType),
      Answers (policyServer plainSite) anyCall before after thread
          ⟨.commitUpdate locked fields changedBy changeReason changeType, .ok updated⟩ ∧
        before.threads[thread]? = some ⟨(request, operation), program⟩ ∧
        ∃ policyName policy, ⟨.getByName policyName, some policy⟩ ∈ before.trace thread ∧
          ⟨.lockPolicy policy, some locked⟩ ∈ before.trace thread ∧
            (Guarded request.caller (before.trace thread) updated.proposal ↔
              (touchesGrants fields || deactivates fields) = true ∧
                KeepsUnset fields policy locked) := by
  have commits : ((Config.start (Store.of annsTables)).follow (policyServer plainSite)
      deleteAndBilling).history.any
        (fun entry => commitsDefinition ["projects:delete"] "projects" entry.2) = true := by
    decide +kernel
  obtain ⟨before, after, thread, request, operation, program, locked, updated, fields, changedBy,
    changeReason, changeType, run, answers, running, -⟩ := commit_of_schedule commits
  exact ⟨before, after, thread, request, operation, program, locked, updated, fields, changedBy,
    changeReason, changeType, answers, running,
    committed_definition_guarded_iff plainSite (Store.of annsTables) (by simp [Recorded, Store.of,
      annsTables]) run thread locked updated fields changedBy changeReason changeType answers
      request operation program running⟩

/-- Two updates of different parts commit a definition that neither passed to the guard. -/
theorem committed_definition_unguarded :
    ¬ ∀ (site : Site) (start : Store), Recorded start.database →
      ∀ before after : PolicyServer,
        Reaches (policyServer site) anyCall (Config.start start) before → ∀ (thread : Nat)
          (locked updated : Policy) (fields : Database.PolicyFields) (changedBy : String)
          (changeReason : Option String) (changeType : PolicyChangeType),
          Answers (policyServer site) anyCall before after thread
            ⟨.commitUpdate locked fields changedBy changeReason changeType, .ok updated⟩ →
            ∀ (request : Request) (operation : Operation) (program : Service Response),
              before.threads[thread]? = some ⟨(request, operation), program⟩ →
                Guarded request.caller (before.trace thread) updated.proposal := by
  intro agree
  have commits : ((Config.start (Store.of annsTables)).follow (policyServer plainSite)
      deleteAndBilling).history.any
        (fun entry => commitsDefinition ["projects:delete"] "billing" entry.2) = true := by
    decide +kernel
  have unguarded : ((Config.start (Store.of annsTables)).follow (policyServer plainSite)
      deleteAndBilling).history.any
        (fun entry => guardsDefinition ["projects:delete"] "billing" entry.2) = false := by
    decide +kernel
  obtain ⟨before, after, thread, request, operation, program, locked, updated, fields, changedBy,
    changeReason, changeType, run, answers, running, isActions, isType, suffix⟩ :=
    commit_of_schedule commits
  obtain ⟨context, cache, cache', guarded⟩ := agree plainSite (Store.of annsTables)
    (by simp [Recorded, Store.of, annsTables]) before after run thread locked updated fields
    changedBy changeReason changeType answers request operation program running
  have member := suffix.subset ((Config.mem_trace _ _).mp guarded)
  have unequal := List.any_eq_false.mp unguarded _ member
  simp [guardsDefinition, Policy.proposal, isActions, isType] at unequal

end MysticAuth.Transactions
