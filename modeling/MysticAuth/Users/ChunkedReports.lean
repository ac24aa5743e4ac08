import MysticAuth.Users.ChunkedRuns

/-!
# What a bulk run reports

The nested loops send one list of requests.  A run that is answered throughout
reports every result once; a run that fails reports nothing, although the
requests before the failure were answered.
-/

set_option autoImplicit false

namespace MysticAuth.ChunkedRuns

open Python BulkGrants

/-! ## The claim -/

inductive Mutation where
  | assignPolicies (userEmails : List String) (policyName : Option String)
      (policyNames : Option (List String))
  | removePolicies (userEmails : List String) (policyName : Option String)
      (policyNames : Option (List String))
  | assignPermissions (userEmails : List String) (action resourceType : Option String)
      (actions : Option (List (String × String))) (conditions : Option Json)
  | removePermissions (userEmails : List String) (action resourceType : Option String)
      (actions : Option (List (String × String)))
  | updateRole (userEmails : List String) (role : String)

def perform (server : Server) (ownEmail : String) : Mutation → Outcome
  | .assignPolicies userEmails policyName policyNames =>
      useBulkAssignPoliciesMutation server ownEmail userEmails policyName policyNames
  | .removePolicies userEmails policyName policyNames =>
      useBulkRemovePoliciesMutation server ownEmail userEmails policyName policyNames
  | .assignPermissions userEmails action resourceType actions conditions =>
      useBulkAssignPermissionsMutation server ownEmail userEmails action resourceType actions conditions
  | .removePermissions userEmails action resourceType actions =>
      useBulkRemovePermissionsMutation server ownEmail userEmails action resourceType actions
  | .updateRole userEmails role => useBulkUpdateRoleMutation server ownEmail userEmails role

def Mutation.userEmails : Mutation → List String
  | assignPolicies userEmails _ _ | removePolicies userEmails _ _ | assignPermissions userEmails _ _ _ _
  | removePermissions userEmails _ _ _ | updateRole userEmails _ => userEmails

/-- What is done to each user, in the order of the outer loop. -/
def Mutation.calls : Mutation → List BulkCall
  | assignPolicies _ policyName policyNames => (policyTargets policyName policyNames).map .assignPolicy
  | removePolicies _ policyName policyNames => (policyTargets policyName policyNames).map .removePolicy
  | assignPermissions _ action resourceType actions conditions =>
      (permissionTargets action resourceType actions).map fun item =>
        .assignPermission item.1 item.2 conditions
  | removePermissions _ action resourceType actions =>
      (permissionTargets action resourceType actions).map fun item => .removePermission item.1 item.2
  | updateRole _ role => [.updateRole role]

/-- The requests for every target and every chunk of the users, in the order of the loops. -/
def requestsFor (userEmails : List String) (calls : List BulkCall) : List BulkRequest :=
  calls.flatMap fun call => (chunk userEmails bulkRequestChunkSize).map fun emails => ⟨call, emails⟩

def BulkRequest.items (request : BulkRequest) : List (BulkCall × String) :=
  request.userEmails.map fun email => (request.call, email)

/-- Every target of every user. -/
def itemsOf (userEmails : List String) (calls : List BulkCall) : List (BulkCall × String) :=
  calls.flatMap fun call => userEmails.map fun email => (call, email)

/-- The cached queries that show what a request changes of a user. -/
def queriesOf (ownEmail email : String) : BulkCall → List QueryKey
  | .assignPolicy _ | .removePolicy _ =>
      .userPolicies email :: (if email = ownEmail then [.myPolicies, .currentUser] else [])
  | .assignPermission _ _ _ | .removePermission _ _ =>
      .userPermissions email :: (if email = ownEmail then [.myPermissions, .currentUser] else [])
  | .updateRole _ => .users :: (if email = ownEmail then [.currentUser] else [])

/-- `items` is what the run is for. -/
structure Accounted (ownEmail : String) (items : List (BulkCall × String)) (outcome : Outcome) :
    Prop where
  /-- the results of the answered requests, each once -/
  results : (outcome.reported.getD .empty).results =
    outcome.answered.flatMap fun answer => answer.2.results
  successes : (outcome.reported.getD .empty).successCount =
    (outcome.answered.map fun answer => answer.2.successCount).sum
  errors : (outcome.reported.getD .empty).errorCount =
    (outcome.answered.map fun answer => answer.2.errorCount).sum
  complete : outcome.reported.isSome →
    (outcome.answered.flatMap fun answer => answer.1.items) = items
  invalidated : ∀ answer ∈ outcome.answered, ∀ result ∈ answer.2.results,
    result.status = .success → ∀ key ∈ queriesOf ownEmail result.userEmail answer.1.call,
      key ∈ outcome.invalidated

/-- Either no request fails or already the first one does. -/
def AnswersAllOrNone (server : Server) (requests : List BulkRequest) : Prop :=
  (∀ index request, requests[index]? = some request → (server index request).isSome) ∨
    ∃ request, requests[0]? = some request ∧ server 0 request = none

/-! ## One list of requests -/

section Loops

variable (server : Server)

theorem runChunks_eq (call : BulkCall) (chunks : List (List String)) (merged : BulkResponse) :
    runChunks server call chunks merged =
      (fun responses => merged.merge (.mergeAll responses)) <$>
        (chunks.map fun emails => ⟨call, emails⟩).mapM (post server) := by
  induction chunks generalizing merged with
  | nil => simp [runChunks]
  | cons emailChunk rest ih =>
    simp only [runChunks, List.map_cons, List.mapM_cons, map_bind, map_pure]
    apply bind_congr
    intro data
    rw [ih, map_eq_pure_bind]
    apply bind_congr
    intro responses
    rw [BulkResponse.mergeAll_cons, BulkResponse.merge_assoc]

/-- The loops send the requests of all targets and chunks in turn. -/
theorem runTargets_eq (userEmails : List String) (calls : List BulkCall) (merged : BulkResponse) :
    runTargets server userEmails calls merged =
      (fun responses => merged.merge (.mergeAll responses)) <$>
        (requestsFor userEmails calls).mapM (post server) := by
  induction calls generalizing merged with
  | nil => simp [runTargets, requestsFor]
  | cons call rest ih =>
    rw [requestsFor, List.flatMap_cons, List.mapM_append]
    simp only [runTargets, runChunkedBulk, runChunks_eq, map_bind, map_pure, bind_map_left]
    apply bind_congr
    intro first
    rw [ih, map_eq_pure_bind]
    apply bind_congr
    intro responses
    rw [BulkResponse.mergeAll_append, BulkResponse.empty_merge, BulkResponse.merge_assoc]

/-! ## What is answered -/

theorem run_bind {α β : Type} (run : Run α) (rest : α → Run β) (progress : Progress) :
    (run >>= rest).run progress =
      match run.run progress with
      | (none, next) => (none, next)
      | (some value, next) => (rest value).run next := by
  simp only [bind, OptionT.bind, OptionT.run, OptionT.mk, StateT.bind]
  rcases run progress with ⟨_ | value, next⟩ <;> rfl

theorem run_map {α β : Type} (run : Run α) (f : α → β) (progress : Progress) :
    (f <$> run).run progress = ((run.run progress).1.map f, (run.run progress).2) := by
  rw [map_eq_pure_bind, run_bind]
  rcases run.run progress with ⟨_ | value, next⟩ <;> rfl

/-- The run of a list of requests from some progress on. -/
def sendAll (requests : List BulkRequest) (progress : Progress) :
    Option (List BulkResponse) × Progress :=
  (requests.mapM (post server)).run progress

theorem sendAll_cons (request : BulkRequest) (rest : List BulkRequest) (progress : Progress) :
    sendAll server (request :: rest) progress =
      match server progress.sent request with
      | none => (none, ⟨progress.sent + 1, progress.answered⟩)
      | some results =>
          let response := summarize results.val
          let last := sendAll server rest
            ⟨progress.sent + 1, progress.answered ++ [(request, response)]⟩
          (last.1.map (response :: ·), last.2) := by
  rw [sendAll, List.mapM_cons, run_bind, post, OptionT.run_mk]
  cases server progress.sent request with
  | none => rfl
  | some results =>
    simp only [bind_pure_comp, run_map]
    rfl

theorem sendAll_some (requests : List BulkRequest) (progress last : Progress)
    (responses : List BulkResponse)
    (run : sendAll server requests progress = (some responses, last)) :
    last.answered = progress.answered ++ requests.zip responses ∧
      responses.length = requests.length ∧
      ∀ index request, requests[index]? = some request →
        (server (progress.sent + index) request).isSome := by
  induction requests generalizing progress responses with
  | nil =>
    obtain ⟨none_sent, rfl⟩ := Prod.mk.inj run
    obtain rfl := Option.some.inj none_sent
    simp
  | cons request rest ih =>
    rw [sendAll_cons] at run
    cases answered : server progress.sent request with
    | none => simp [answered] at run
    | some results =>
      simp only [answered, Prod.mk.injEq] at run
      obtain ⟨others, isRest, rfl⟩ := Option.map_eq_some_iff.mp run.1
      obtain ⟨trace, length, all⟩ := ih _ others (Prod.ext isRest run.2)
      refine ⟨by simp [trace], by simp [length], ?_⟩
      intro index other present
      cases index with
      | zero =>
        obtain rfl := Option.some.inj present
        rw [Nat.add_zero, answered]
        rfl
      | succ index =>
        have later := all index other present
        rwa [Nat.add_right_comm] at later

theorem sendAll_none (requests : List BulkRequest) (progress : Progress)
    (failed : (sendAll server requests progress).1 = none) :
    ∃ index request, requests[index]? = some request ∧
      server (progress.sent + index) request = none := by
  induction requests generalizing progress with
  | nil => cases failed
  | cons request rest ih =>
    rw [sendAll_cons] at failed
    cases answered : server progress.sent request with
    | none => exact ⟨0, request, rfl, answered⟩
    | some results =>
      simp only [answered, Option.map_eq_none_iff] at failed
      obtain ⟨index, other, present, unanswered⟩ := ih _ failed
      refine ⟨index + 1, other, present, ?_⟩
      rwa [Nat.add_right_comm] at unanswered

theorem answered_prefix (requests : List BulkRequest) (progress : Progress) :
    progress.answered <+: (sendAll server requests progress).2.answered := by
  induction requests generalizing progress with
  | nil => exact List.prefix_rfl
  | cons request rest ih =>
    rw [sendAll_cons]
    cases server progress.sent request with
    | none => exact List.prefix_rfl
    | some results =>
      have grown := ih ⟨progress.sent + 1, progress.answered ++ [(request, summarize results.val)]⟩
      exact (List.prefix_append _ _).trans grown

end Loops

/-! ## Chunks -/

theorem flatten_slices {α : Type} (items : List α) (size count : Nat) :
    ((List.range count).map fun i => (items.drop (i * size)).take size).flatten =
      items.take (count * size) := by
  induction count with
  | zero => simp
  | succ count ih =>
    rw [List.range_succ, List.map_append, List.flatten_append, ih, List.map_singleton,
      List.flatten_singleton, Nat.succ_mul, List.take_add]

/-- Every item is in one chunk, in the order of the list. -/
theorem flatten_chunk {α : Type} (items : List α) (size : Nat) (positive : 0 < size) :
    (chunk items size).flatten = items := by
  rw [chunk, flatten_slices, List.take_of_length_le]
  have below : items.length + size - 1 < (items.length + size - 1) / size * size + size :=
    Nat.lt_div_mul_add positive
  omega

theorem ne_nil_of_mem_chunk {α : Type} {items slice : List α} {size : Nat} (positive : 0 < size)
    (member : slice ∈ chunk items size) : slice ≠ [] := by
  obtain ⟨i, inRange, rfl⟩ := List.mem_map.mp member
  have started : i * size < items.length := by
    have whole := Nat.div_mul_le_self (items.length + size - 1) size
    have later := Nat.mul_le_mul_right size (Nat.succ_le_of_lt (List.mem_range.mp inRange))
    rw [Nat.succ_mul] at later
    omega
  intro empty
  have length := congrArg List.length empty
  rw [List.length_take, List.length_drop, List.length_nil] at length
  omega

/-- The requests cover every target of every user once. -/
theorem items_requestsFor (userEmails : List String) (calls : List BulkCall) :
    (requestsFor userEmails calls).flatMap BulkRequest.items = itemsOf userEmails calls := by
  rw [requestsFor, itemsOf, List.flatMap_assoc]
  congr 1
  funext call
  rw [List.flatMap_map]
  change (chunk userEmails bulkRequestChunkSize).flatMap (List.map fun email => (call, email)) = _
  rw [List.flatMap_def, ← List.map_flatten, flatten_chunk _ _ (by decide)]

theorem userEmails_ne_nil {userEmails : List String} {calls : List BulkCall} {request : BulkRequest}
    (member : request ∈ requestsFor userEmails calls) : request.userEmails ≠ [] := by
  obtain ⟨call, _, inChunks⟩ := List.mem_flatMap.mp member
  obtain ⟨emails, isChunk, rfl⟩ := List.mem_map.mp inChunks
  exact ne_nil_of_mem_chunk (by decide) isChunk

/-! ## The report -/

section Report

variable {server : Server} {ownEmail : String} {requests : List BulkRequest}
  {onSuccess : BulkResponse → List QueryKey}

theorem settle_eq : settle (.mergeAll <$> requests.mapM (post server)) onSuccess =
    let run := sendAll server requests ⟨0, []⟩
    ⟨run.2.answered, run.1.map .mergeAll, ((run.1.map .mergeAll).map onSuccess).getD []⟩ := by
  rw [settle, run_map]
  rfl

/-- A run that is answered throughout. -/
theorem accounted_of_some {responses : List BulkResponse} {last : Progress}
    (shows : ∀ data request result, request ∈ requests → result ∈ data.results →
      ∀ key ∈ queriesOf ownEmail result.userEmail request.call, key ∈ onSuccess data)
    (run : sendAll server requests ⟨0, []⟩ = (some responses, last)) :
    Accounted ownEmail (requests.flatMap BulkRequest.items)
      ⟨last.answered, some (.mergeAll responses), onSuccess (.mergeAll responses)⟩ := by
  obtain ⟨trace, length, _⟩ := sendAll_some server requests ⟨0, []⟩ last responses run
  have answers : last.answered.map Prod.snd = responses := by
    rw [trace, List.nil_append, List.map_snd_zip length.le]
  have results : (BulkResponse.mergeAll responses).results =
      last.answered.flatMap fun answer => answer.2.results := by
    rw [BulkResponse.results_mergeAll, ← answers, List.flatMap_map]
  have sent : last.answered.map Prod.fst = requests := by
    rw [trace, List.nil_append, List.map_fst_zip length.ge]
  refine ⟨results, ?_, ?_, ?_, ?_⟩
  · rw [Option.getD_some, BulkResponse.successCount_mergeAll, ← answers, List.map_map]
    rfl
  · rw [Option.getD_some, BulkResponse.errorCount_mergeAll, ← answers, List.map_map]
    rfl
  · intro _
    rw [← sent, List.flatMap_map]
  · intro answer answered result inAnswer _
    apply shows _ _ _ (sent ▸ List.mem_map_of_mem answered)
    rw [results]
    exact List.mem_flatMap.mpr ⟨answer, answered, inAnswer⟩

/-- A run that fails reports nothing, so that nothing may have been answered. -/
theorem accounted_none_iff (nonempty : ∀ request ∈ requests, request.userEmails ≠ [])
    (failed : (sendAll server requests ⟨0, []⟩).1 = none) :
    Accounted ownEmail (requests.flatMap BulkRequest.items)
        ⟨(sendAll server requests ⟨0, []⟩).2.answered, none, []⟩ ↔
      ∃ request, requests[0]? = some request ∧ server 0 request = none := by
  cases requests with
  | nil => cases failed
  | cons request rest =>
    simp only [List.getElem?_cons_zero, Option.some.injEq, exists_eq_left']
    have sent := sendAll_cons server request rest ⟨0, []⟩
    cases answered : server 0 request with
    | none =>
      rw [sent, answered]
      apply iff_of_true _ rfl
      exact ⟨rfl, rfl, rfl, fun reported => absurd reported Bool.false_ne_true,
        fun answer member => absurd member List.not_mem_nil⟩
    | some results =>
      apply iff_of_false _ (by simp)
      intro accounted
      have before := answered_prefix server rest ⟨1, [(request, summarize results.val)]⟩
      have kept : (request, summarize results.val) ∈
          (sendAll server (request :: rest) ⟨0, []⟩).2.answered := by
        rw [sent, answered]
        exact before.subset List.mem_cons_self
      have none_left : results.val = [] :=
        List.flatMap_eq_nil_iff.mp accounted.results.symm _ kept
      apply nonempty request List.mem_cons_self
      rw [← List.length_eq_zero_iff, ← results.property, none_left, List.length_nil]

theorem accounted_iff (nonempty : ∀ request ∈ requests, request.userEmails ≠ [])
    (shows : ∀ data request result, request ∈ requests → result ∈ data.results →
      ∀ key ∈ queriesOf ownEmail result.userEmail request.call, key ∈ onSuccess data) :
    Accounted ownEmail (requests.flatMap BulkRequest.items)
        (settle (.mergeAll <$> requests.mapM (post server)) onSuccess) ↔
      AnswersAllOrNone server requests := by
  rw [settle_eq]
  cases run : sendAll server requests ⟨0, []⟩ with
  | mk reported last =>
    cases reported with
    | some responses =>
      apply iff_of_true (accounted_of_some shows run)
      left
      intro index request present
      have answered := (sendAll_some server requests ⟨0, []⟩ last responses run).2.2 index request
        present
      rwa [Nat.zero_add] at answered
    | none =>
      have failed : (sendAll server requests ⟨0, []⟩).1 = none := by rw [run]
      have silent : Accounted ownEmail (requests.flatMap BulkRequest.items)
          ⟨(sendAll server requests ⟨0, []⟩).2.answered, none, []⟩ ↔ _ :=
        accounted_none_iff nonempty failed
      rw [run] at silent
      apply silent.trans
      constructor
      · exact Or.inr
      · rintro (all | first)
        · obtain ⟨index, request, present, unanswered⟩ := sendAll_none server requests _ failed
          have answered := all index request present
          rw [Nat.zero_add] at unanswered
          rw [unanswered] at answered
          cases answered
        · exact first

end Report

/-! ## The five mutations -/

section Mutations

variable (server : Server) (ownEmail : String)

theorem currentUser_mem_invalidateSelf {emails : List String} (included : ownEmail ∈ emails) :
    QueryKey.currentUser ∈ invalidateSelfIfIncluded ownEmail emails := by
  rw [invalidateSelfIfIncluded, if_pos included]
  exact List.mem_singleton_self _

theorem mem_distinctEmails {data : BulkResponse} {result : BulkItemResult}
    (member : result ∈ data.results) : result.userEmail ∈ distinctEmails data :=
  List.mem_eraseDups.mpr (List.mem_map_of_mem member)

theorem onGrantsChanged_shows {data : BulkResponse} {result : BulkItemResult} {key : QueryKey}
    (userQueryKey : String → QueryKey) (myQueryKey : QueryKey) (member : result ∈ data.results)
    (shown : key ∈ userQueryKey result.userEmail ::
      (if result.userEmail = ownEmail then [myQueryKey, .currentUser] else [])) :
    key ∈ onGrantsChanged userQueryKey myQueryKey ownEmail data := by
  have email := mem_distinctEmails member
  have userQuery : userQueryKey result.userEmail ∈ (distinctEmails data).map userQueryKey :=
    List.mem_map_of_mem email
  rw [onGrantsChanged]
  by_cases own : result.userEmail = ownEmail
  · have current := currentUser_mem_invalidateSelf ownEmail (own ▸ email)
    simp only [if_pos own, List.mem_cons, List.not_mem_nil, or_false] at shown
    rcases shown with rfl | rfl | rfl
    · exact List.mem_cons_of_mem _ (List.mem_append_left _ userQuery)
    · simp
    · simp [current]
  · simp only [if_neg own, List.mem_singleton] at shown
    rw [shown]
    exact List.mem_cons_of_mem _ (List.mem_append_left _ userQuery)

theorem onRolesChanged_shows {data : BulkResponse} {result : BulkItemResult} {key : QueryKey}
    (member : result ∈ data.results) (role : String)
    (shown : key ∈ queriesOf ownEmail result.userEmail (.updateRole role)) :
    key ∈ onRolesChanged ownEmail data := by
  have email := mem_distinctEmails member
  rw [onRolesChanged]
  by_cases own : result.userEmail = ownEmail
  · have current := currentUser_mem_invalidateSelf ownEmail (own ▸ email)
    simp only [queriesOf, if_pos own, List.mem_cons, List.not_mem_nil, or_false] at shown
    rcases shown with rfl | rfl <;> simp [current]
  · simp only [queriesOf, if_neg own, List.mem_singleton] at shown
    simp [shown]

/-- The loops over the targets, ended by a handler that invalidates what the calls show. -/
theorem runTargets_accounted_iff (userEmails : List String) (calls : List BulkCall)
    (onSuccess : BulkResponse → List QueryKey)
    (shows : ∀ data call result, call ∈ calls → result ∈ data.results →
      ∀ key ∈ queriesOf ownEmail result.userEmail call, key ∈ onSuccess data) :
    Accounted ownEmail (itemsOf userEmails calls)
        (settle (runTargets server userEmails calls .empty) onSuccess) ↔
      AnswersAllOrNone server (requestsFor userEmails calls) := by
  rw [← items_requestsFor, runTargets_eq, show (fun responses => BulkResponse.empty.merge (.mergeAll responses)) =
    BulkResponse.mergeAll from funext fun responses => BulkResponse.empty_merge _]
  apply accounted_iff (fun request => userEmails_ne_nil)
  intro data request result sent member
  obtain ⟨call, isCall, inChunks⟩ := List.mem_flatMap.mp sent
  obtain ⟨emails, _, rfl⟩ := List.mem_map.mp inChunks
  exact shows data call result isCall member

/-- A run for one target is the loop over it alone. -/
theorem runTargets_singleton (userEmails : List String) (call : BulkCall) :
    runTargets server userEmails [call] .empty = runChunkedBulk server userEmails call := by
  simp [runTargets]

end Mutations

theorem bulk_run_accounted_iff (server : Server) (ownEmail : String) (mutation : Mutation) :
    Accounted ownEmail (itemsOf mutation.userEmails mutation.calls)
        (perform server ownEmail mutation) ↔
      AnswersAllOrNone server (requestsFor mutation.userEmails mutation.calls) := by
  cases mutation with
  | assignPolicies userEmails policyName policyNames =>
    apply runTargets_accounted_iff
    intro data call result isCall member key shown
    obtain ⟨name, _, rfl⟩ := List.mem_map.mp isCall
    exact onGrantsChanged_shows ownEmail .userPolicies .myPolicies member shown
  | removePolicies userEmails policyName policyNames =>
    apply runTargets_accounted_iff
    intro data call result isCall member key shown
    obtain ⟨name, _, rfl⟩ := List.mem_map.mp isCall
    exact onGrantsChanged_shows ownEmail .userPolicies .myPolicies member shown
  | assignPermissions userEmails action resourceType actions conditions =>
    apply runTargets_accounted_iff
    intro data call result isCall member key shown
    obtain ⟨item, _, rfl⟩ := List.mem_map.mp isCall
    exact onGrantsChanged_shows ownEmail .userPermissions .myPermissions member shown
  | removePermissions userEmails action resourceType actions =>
    apply runTargets_accounted_iff
    intro data call result isCall member key shown
    obtain ⟨item, _, rfl⟩ := List.mem_map.mp isCall
    exact onGrantsChanged_shows ownEmail .userPermissions .myPermissions member shown
  | updateRole userEmails role =>
    rw [perform, useBulkUpdateRoleMutation, ← runTargets_singleton]
    apply runTargets_accounted_iff
    intro data call result isCall member key shown
    obtain rfl := List.mem_singleton.mp isCall
    exact onRolesChanged_shows ownEmail member role shown

/-! ## A failure after the first chunk -/

/-- The first request succeeds for all its users, and the next one fails. -/
def failsSecond : Server := fun index request =>
  if index = 0 then
    some ⟨request.userEmails.map fun email => ⟨email, "editor", .success, none⟩,
      List.length_map _⟩
  else none

/-- One user is to get two policies: the first one is assigned. -/
def twoPolicies : Mutation :=
  .assignPolicies ["ann@example.com"] none (some ["editor", "viewer"])

theorem failure_drops_report :
    let outcome := perform failsSecond "root@example.com" twoPolicies
    (outcome.answered.flatMap fun answer => answer.2.results.map BulkItemResult.userEmail) =
        ["ann@example.com"] ∧
      outcome.reported.isNone = true ∧ outcome.invalidated = [] ∧
      ¬ Accounted "root@example.com" (itemsOf twoPolicies.userEmails twoPolicies.calls) outcome := by
  refine ⟨rfl, rfl, rfl, ?_⟩
  intro accounted
  have lengths := congrArg List.length accounted.results
  exact absurd lengths (by decide)

end MysticAuth.ChunkedRuns
