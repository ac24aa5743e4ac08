import MysticAuth.Browser.AuthInterceptor

/-!
# Logging out only when the session is over

The interceptor drops what a retry fails with, and ends the session for it.
That is right after a 401 and after a failed refresh, and wrong otherwise.
-/

set_option autoImplicit false

namespace MysticAuth.AuthInterceptor

open Interleaving

/-! ## What a request was answered -/

/-- The newest answer to the request. -/
def lastAnswer : List Event → Option (Except Rejection Response)
  | [] => none
  | ⟨.send _, answer⟩ :: _ => some answer
  | _ :: older => lastAnswer older

/-- Whether the newest refresh that the request waited for has succeeded. -/
def lastRefresh : List Event → Option Bool
  | [] => none
  | ⟨.awaitRefresh _, succeeded⟩ :: _ => some succeeded
  | _ :: older => lastRefresh older

def unauthorized : Option (Except Rejection Response) → Bool
  | some (.error error) => error.status == some 401
  | _ => false

/-- The refresh failed, or the last answer was a 401. -/
def SessionOver (trace : List Event) : Prop :=
  lastRefresh trace = some false ∨ unauthorized (lastAnswer trace) = true

/-- The request had an answer before it failed, other than with a 401. -/
def FailedRetry (error : Rejection) (older : List Event) : Prop :=
  (lastAnswer older).isSome ∧ error.status ≠ some 401

def LogsOutOnDeath (trace : List Event) : Prop :=
  ∀ newer older, trace = newer ++ ⟨.markUnauthenticated, ()⟩ :: older → SessionOver older

/-- After a refresh that succeeded, a failed retry is what the caller gets, and the request does
not touch the store of the session. -/
def ErrorsReach {α : Type} (result : Except Rejection α) (trace : List Event) : Prop :=
  ∀ newer config error older, trace = newer ++ ⟨.send config, .error error⟩ :: older →
    FailedRetry error older → lastRefresh older = some true →
      result = .error error ∧ ∀ event ∈ newer, event.1 ≠ .markUnauthenticated

/-- The server fails a retry, other than with a 401, only after the refresh has failed. -/
def FailsAfterRefresh (trace : List Event) : Prop :=
  ∀ newer config error older, trace = newer ++ ⟨.send config, .error error⟩ :: older →
    FailedRetry error older → lastRefresh older = some false

/-- Some retry failed although the refresh had succeeded. -/
def FailsThoughRefreshed (trace : List Event) : Prop :=
  ∃ newer config error older, trace = newer ++ ⟨.send config, .error error⟩ :: older ∧
    FailedRetry error older ∧ lastRefresh older = some true

section Traces

variable {trace older : List Event}

theorem lastAnswer_isSome_of_suffix (within : older <:+ trace)
    (answered : (lastAnswer older).isSome) : (lastAnswer trace).isSome := by
  obtain ⟨newer, rfl⟩ := within
  induction newer with
  | nil => exact answered
  | cons event newer ih =>
    rw [List.cons_append]
    unfold lastAnswer
    split
    · rename_i isNil
      cases isNil
    · rfl
    · rename_i isCons
      obtain ⟨-, rfl⟩ := List.cons.inj isCons
      exact ih

theorem lastRefresh_isSome_of_suffix (within : older <:+ trace)
    (refreshed : (lastRefresh older).isSome) : (lastRefresh trace).isSome := by
  obtain ⟨newer, rfl⟩ := within
  induction newer with
  | nil => exact refreshed
  | cons event newer ih =>
    rw [List.cons_append]
    unfold lastRefresh
    split
    · rename_i isNil
      cases isNil
    · rfl
    · rename_i isCons
      obtain ⟨-, rfl⟩ := List.cons.inj isCons
      exact ih

theorem lastRefresh_succeeded (refreshed : (lastRefresh trace).isSome)
    (notFailed : lastRefresh trace ≠ some false) : lastRefresh trace = some true := by
  obtain ⟨succeeded, isLast⟩ := Option.isSome_iff_exists.mp refreshed
  cases succeeded with
  | false => exact absurd isLast notFailed
  | true => exact isLast

theorem FailsAfterRefresh.suffix (fails : FailsAfterRefresh trace) (within : older <:+ trace) :
    FailsAfterRefresh older := by
  obtain ⟨added, rfl⟩ := within
  intro newer config error rest isTrace failed
  refine fails (added ++ newer) config error rest ?_ failed
  rw [isTrace, List.append_assoc]

theorem FailsAfterRefresh.cons (fails : FailsAfterRefresh trace) (event : Event)
    (head : ∀ config error, event = ⟨.send config, .error error⟩ → FailedRetry error trace →
      lastRefresh trace = some false) : FailsAfterRefresh (event :: trace) := by
  intro newer config error rest isTrace failed
  cases newer with
  | nil =>
    obtain ⟨isEvent, rfl⟩ := List.cons.inj isTrace
    exact head config error isEvent failed
  | cons _ newer => exact fails newer config error rest (List.cons.inj isTrace).2 failed

theorem FailsAfterRefresh.quiet (fails : FailsAfterRefresh trace) (event : Event)
    (quiet : ∀ config, event.1 ≠ .send config) : FailsAfterRefresh (event :: trace) :=
  fails.cons event fun config _ isEvent => absurd (congrArg Sigma.fst isEvent) (quiet config)

/-- The first answer is no retry. -/
theorem failsAfterRefresh_first (unanswered : lastAnswer trace = none) :
    FailsAfterRefresh trace := by
  intro newer config error rest isTrace failed
  have within : rest <:+ trace :=
    ⟨newer ++ [⟨.send config, .error error⟩], by simp [isTrace]⟩
  have answered := lastAnswer_isSome_of_suffix within failed.1
  rw [unanswered] at answered
  cases answered

/-- Once there was a refresh, only a successful one is in the way of a fair failure. -/
theorem failsThoughRefreshed_of_suffix (within : older <:+ trace)
    (fair : FailsAfterRefresh older) (refreshed : (lastRefresh older).isSome)
    (unfair : ¬ FailsAfterRefresh trace) : FailsThoughRefreshed trace := by
  obtain ⟨added, rfl⟩ := within
  simp only [FailsAfterRefresh, not_forall] at unfair
  obtain ⟨newer, config, error, rest, isTrace, failed, notFailed⟩ := unfair
  refine ⟨newer, config, error, rest, isTrace, failed, ?_⟩
  rcases List.append_eq_append_iff.mp isTrace with ⟨middle, isNewer, isOlder⟩ |
    ⟨middle, isAdded, isRest⟩
  · exact absurd (fair middle config error rest isOlder failed) notFailed
  · cases middle with
    | nil => exact absurd (fair [] config error rest isRest.symm failed) notFailed
    | cons event middle =>
      obtain ⟨-, rfl⟩ := List.cons.inj isRest
      exact lastRefresh_succeeded
        (lastRefresh_isSome_of_suffix (List.suffix_append middle older) refreshed) notFailed

end Traces

/-! ## What the interceptor does -/

/-- With a retry that fails only after a failed refresh, the session is over. -/
def OverIfFair (trace : List Event) : Prop :=
  FailsAfterRefresh trace → SessionOver trace

def discipline : Discipline Reply where
  allows trace call := call = .markUnauthenticated → OverIfFair trace
  answers _ _ := True

/-- A rejection leaves a session that is over, and is about the given error. -/
def Rejects (error : Rejection) (result : Except Rejection Response) (trace : List Event) : Prop :=
  ∀ error', result = .error error' →
    error' = error ∧ (lastAnswer trace).isSome ∧ OverIfFair trace

section Interceptor

variable {config : RequestConfig} {error : Rejection} {trace : List Event}

theorem OverIfFair.quiet (ended : OverIfFair trace) (event : Event)
    (sameAnswer : lastAnswer (event :: trace) = lastAnswer trace)
    (sameRefresh : lastRefresh (event :: trace) = lastRefresh trace) :
    OverIfFair (event :: trace) := by
  intro fair
  rw [SessionOver, sameAnswer, sameRefresh]
  exact ended (fair.suffix (List.suffix_cons event trace))

theorem expire_meets (answered : (lastAnswer trace).isSome) (ended : OverIfFair trace) :
    (expire error).Meets discipline (Rejects error) trace := by
  refine ⟨fun _ => ended, fun _ _ error' isError => ?_⟩
  obtain rfl := Except.error.inj isError
  exact ⟨rfl, answered, ended.quiet _ rfl rfl⟩

/-- What is known of a retry with these flags. -/
def RetryMeets (config : RequestConfig) : Prop :=
  ∀ trace, (lastAnswer trace).isSome → (api config).Meets discipline
    (fun result later => ∀ error, result = .error error → OverIfFair later) trace

theorem retryMeets_of_interceptor (meets : ∀ error trace, error.status = some 401 →
    unauthorized (lastAnswer trace) = true →
      (interceptor config error).Meets discipline (Rejects error) trace) :
    RetryMeets config := by
  intro trace answered
  rw [api]
  refine ⟨nofun, fun answer _ => ?_⟩
  match answer with
  | .ok response => exact nofun
  | .error error =>
    by_cases isUnauthorized : error.status = some 401
    · refine (meets error _ isUnauthorized ?_).mono fun result later _ rejects error' isError => ?_
      · simp [lastAnswer, unauthorized, isUnauthorized]
      · exact (rejects error' isError).2.2
    · change (interceptor config error).Meets discipline _ _
      rw [interceptor, if_pos isUnauthorized]
      intro error' isError fair
      exact Or.inl (fair [] config error trace rfl ⟨answered, isUnauthorized⟩)

theorem awaitPending_meets {post : Except Rejection Unit → List Event → Prop}
    (pending : Option Nat) (none : post (.ok ()) trace)
    (some : ∀ promise, post (.ok ()) (⟨.awaitRotation promise, ()⟩ :: trace)) :
    (awaitPending pending).Meets discipline post trace := by
  cases pending with
  | none => exact none
  | some promise => exact ⟨nofun, fun _ _ => some promise⟩

theorem afterRotation_meets (answered : (lastAnswer trace).isSome) (ended : OverIfFair trace)
    (retry : config.retriedAfterRotation = false →
      RetryMeets { config with retriedAfterRotation := true }) :
    (afterRotation config error).Meets discipline (Rejects error) trace := by
  rw [afterRotation]
  split
  · rename_i fresh
    refine ⟨nofun, fun rotation _ => ?_⟩
    have ended' := ended.quiet ⟨.checkRotation, rotation⟩ rfl rfl
    beta_reduce
    split
    · rw [Program.meets_resume]
      have again : ∀ later, (lastAnswer later).isSome →
          ((api { config with retriedAfterRotation := true }).resume (orExpire error)).Meets discipline
            (Rejects error) later := by
        intro later answered'
        rw [Program.meets_resume]
        refine (retry fresh later answered').mono fun result last within failed => ?_
        cases result with
        | ok response =>
          intro error' isError
          cases isError
        | error error' =>
          exact expire_meets (lastAnswer_isSome_of_suffix within answered') (failed error' rfl)
      exact awaitPending_meets rotation.1 (again _ answered) fun promise => again _ answered
    · exact expire_meets answered ended'
  · exact expire_meets answered ended

theorem interceptor_meets (isUnauthorized : error.status = some 401)
    (last : unauthorized (lastAnswer trace) = true) :
    (interceptor config error).Meets discipline (Rejects error) trace := by
  -- on the retries that the flags leave
  induction left : config.unset using Nat.strongRecOn generalizing config error trace with
  | _ n ih =>
    subst left
    have answered : (lastAnswer trace).isSome := by
      cases isLast : lastAnswer trace with
      | none => simp [isLast, unauthorized] at last
      | some answer => rfl
    have rotated : config.retriedAfterRotation = false →
        RetryMeets { config with retriedAfterRotation := true } := by
      intro fresh
      have less := config.unset_rotated fresh
      exact retryMeets_of_interceptor fun error trace isUnauthorized last =>
        ih _ (by omega) isUnauthorized last rfl
    rw [interceptor, if_neg (not_not_intro isUnauthorized)]
    split
    · rename_i fresh
      have less := config.unset_refreshed fresh.2
      have refreshed : RetryMeets { config with retriedAfterRefresh := true } :=
        retryMeets_of_interceptor fun error trace isUnauthorized last =>
          ih _ (by omega) isUnauthorized last rfl
      refine ⟨nofun, fun promise _ => ⟨nofun, fun succeeded _ => ?_⟩⟩
      beta_reduce
      split
      · rw [Program.meets_resume]
        refine (refreshed (⟨.awaitRefresh promise, succeeded⟩ :: ⟨.refreshSession, promise⟩ :: trace)
          answered).mono fun result later within failed => ?_
        match result with
        | .ok response => exact nofun
        | .error error' =>
          refine afterRotation_meets (lastAnswer_isSome_of_suffix within answered)
            (failed error' rfl) fun fresh' => ?_
          have less' := RequestConfig.unset_rotated { config with retriedAfterRefresh := true } fresh'
          exact retryMeets_of_interceptor fun error trace isUnauthorized last =>
            ih _ (by omega) isUnauthorized last rfl
      · rename_i notSucceeded
        refine afterRotation_meets answered (fun _ => Or.inl ?_) rotated
        rw [Bool.eq_false_iff.mpr notSucceeded]
        rfl
    · exact afterRotation_meets answered (fun _ => Or.inr last) rotated

end Interceptor

/-! ## What a request comes to -/

def Unmarked (trace : List Event) : Prop :=
  ∀ event ∈ trace, event.1 ≠ .markUnauthenticated

/-- If a retry fails unfairly, the caller gets the 401, and that retry either came after a successful
refresh or has ended the session. -/
def Verdict {α : Type} (result : Except Rejection α) (trace : List Event) : Prop :=
  FailsAfterRefresh trace ∨ ((∀ error, result = .error error → error.status = some 401) ∧
    (FailsThoughRefreshed trace ∨ ¬ LogsOutOnDeath trace))

/-- Nothing was sent or awaited yet. -/
structure Fresh (trace : List Event) : Prop where
  unanswered : lastAnswer trace = none
  unrefreshed : lastRefresh trace = none
  unmarked : Unmarked trace

section Requests

variable {url : Option String} {error : Rejection} {trace : List Event}

theorem Fresh.fair (fresh : Fresh trace) (config : RequestConfig)
    (answer : Except Rejection Response) :
    FailsAfterRefresh (⟨.send config, answer⟩ :: trace) := by
  refine (failsAfterRefresh_first fresh.unanswered).cons _ fun _ _ _ failed => ?_
  have answered := failed.1
  rw [fresh.unanswered] at answered
  cases answered

theorem unmarked_nil : Unmarked [] := by
  intro event member
  cases member

theorem Unmarked.cons (unmarked : Unmarked trace) (event : Event)
    (other : event.1 ≠ .markUnauthenticated) : Unmarked (event :: trace) := by
  intro event' member
  rcases List.mem_cons.mp member with rfl | old
  · exact other
  · exact unmarked event' old

/-- An excluded request never waits for a refresh; after a failed retry it ends the session. -/
def Ends (result : Except Rejection Response) (trace : List Event) : Prop :=
  Verdict result trace ∧ ∀ response, result = .ok response → Unmarked trace

theorem expire_ends (ended : unauthorized (lastAnswer trace) = true) (fair : FailsAfterRefresh trace) :
    (expire error).Meets discipline Ends trace :=
  ⟨fun _ _ => Or.inr ended, fun _ _ => ⟨Or.inl (fair.quiet _ nofun), nofun⟩⟩

theorem rotatedRetry_ends {config : RequestConfig} (rotated : config.retriedAfterRotation = true)
    (ineligible : config.isEligibleForRefresh = false) (isUnauthorized : error.status = some 401)
    (fair : FailsAfterRefresh trace) (answered : (lastAnswer trace).isSome)
    (unrefreshed : lastRefresh trace = none) (unmarked : Unmarked trace) :
    ((api config).resume fun
      | .ok response => .done (.ok response)
      | .error _ => expire error).Meets discipline Ends trace := by
  rw [Program.meets_resume, api]
  refine ⟨nofun, fun answer _ => ?_⟩
  match answer with
  | .ok response =>
    refine ⟨Or.inl (fair.cons _ ?_), fun _ _ => unmarked.cons _ nofun⟩
    intro _ error' isEvent
    cases isEvent
  | .error error' =>
    change (interceptor config error').Meets discipline _ _
    rw [interceptor]
    by_cases again : error'.status = some 401
    · have last : ∀ later : List Event,
          unauthorized (lastAnswer (⟨.send config, .error error'⟩ :: later)) = true := by
        simp [lastAnswer, unauthorized, again]
      have fair' : FailsAfterRefresh (⟨.send config, .error error'⟩ :: trace) := by
        refine fair.cons _ fun _ _ isEvent failed => ?_
        cases isEvent
        exact absurd again failed.2
      rw [if_neg (not_not_intro again), if_neg (by simp [ineligible]), afterRotation,
        if_neg (by simp [rotated])]
      refine ⟨fun _ _ => Or.inr (last trace), fun _ _ => ?_⟩
      exact expire_ends (last trace) (fair'.quiet _ nofun)
    · rw [if_pos again]
      refine ⟨fun _ fair' => ?_, fun _ _ => ⟨Or.inr ⟨?_, Or.inr ?_⟩, nofun⟩⟩
      · exact Or.inl (fair' [] config error' trace rfl ⟨answered, again⟩)
      · intro error'' isError
        obtain rfl := Except.error.inj isError
        exact isUnauthorized
      · intro logsOut
        rcases logsOut [] _ rfl with failed | isLast
        · rw [show lastRefresh (⟨.send config, .error error'⟩ :: trace) = lastRefresh trace from rfl,
            unrefreshed] at failed
          cases failed
        · simp only [lastAnswer, unauthorized, beq_iff_eq] at isLast
          exact again isLast

theorem excluded_ends (ineligible : (RequestConfig.plain url).isEligibleForRefresh = false)
    (fresh : Fresh trace) : (api (.plain url)).Meets discipline Ends trace := by
  rw [api]
  refine ⟨nofun, fun answer _ => ?_⟩
  have fair := fresh.fair (.plain url) answer
  have unmarked := fresh.unmarked.cons ⟨.send (.plain url), answer⟩ nofun
  match answer with
  | .ok response => exact ⟨Or.inl fair, fun _ _ => unmarked⟩
  | .error error =>
    change (interceptor (.plain url) error).Meets discipline _ _
    rw [interceptor]
    by_cases isUnauthorized : error.status = some 401
    · have last : unauthorized (lastAnswer (⟨.send (.plain url), .error error⟩ :: trace)) = true := by
        simp [lastAnswer, unauthorized, isUnauthorized]
      rw [if_neg (not_not_intro isUnauthorized), if_neg (by simp [ineligible]), afterRotation,
        if_pos (show (RequestConfig.plain url).retriedAfterRotation = false from rfl)]
      refine ⟨nofun, fun rotation _ => ?_⟩
      beta_reduce
      split
      · rw [Program.meets_resume]
        have again : ∀ later, FailsAfterRefresh later → (lastAnswer later).isSome →
            lastRefresh later = none → Unmarked later →
              ((api { RequestConfig.plain url with retriedAfterRotation := true }).resume fun
                | .ok response => .done (.ok response)
                | .error _ => expire error).Meets discipline Ends later := by
          intro later fair answered unrefreshed unmarked
          exact rotatedRetry_ends rfl ineligible isUnauthorized fair answered unrefreshed unmarked
        have fair' := fair.quiet ⟨.checkRotation, rotation⟩ nofun
        have unmarked' := unmarked.cons ⟨.checkRotation, rotation⟩ nofun
        refine awaitPending_meets rotation.1 (again _ fair' rfl fresh.unrefreshed unmarked')
          fun promise => again _ (fair'.quiet _ nofun) rfl fresh.unrefreshed ?_
        exact unmarked'.cons ⟨.awaitRotation promise, ()⟩ nofun
      · exact expire_ends last (fair.quiet _ nofun)
    · rw [if_pos isUnauthorized]
      exact ⟨Or.inl fair, nofun⟩

theorem plain_verdict (fresh : Fresh trace) :
    (api (.plain url)).Meets discipline Verdict trace := by
  cases eligible : (RequestConfig.plain url).isEligibleForRefresh with
  | false => exact (excluded_ends eligible fresh).mono fun _ _ _ ends => ends.1
  | true =>
    rw [api]
    refine ⟨nofun, fun answer _ => ?_⟩
    have fair := fresh.fair (.plain url) answer
    match answer with
    | .ok response => exact Or.inl fair
    | .error error =>
      by_cases isUnauthorized : error.status = some 401
      · have meets : (interceptor (.plain url) error).Meets discipline (Rejects error)
            (⟨.send (.plain url), .error error⟩ :: trace) :=
          interceptor_meets isUnauthorized (by simp [lastAnswer, unauthorized, isUnauthorized])
        change (interceptor (.plain url) error).Meets discipline _ _
        rw [interceptor, if_neg (not_not_intro isUnauthorized), if_pos ⟨eligible, rfl⟩] at meets ⊢
        refine ⟨nofun, fun promise _ => ⟨nofun, fun succeeded _ => ?_⟩⟩
        refine ((meets.2 promise trivial).2 succeeded trivial).mono ?_
        intro result later within rejects
        by_cases fairly : FailsAfterRefresh later
        · exact Or.inl fairly
        · refine Or.inr ⟨fun error' isError => ?_, Or.inl ?_⟩
          · rw [(rejects error' isError).1]
            exact isUnauthorized
          · exact failsThoughRefreshed_of_suffix within
              ((fair.quiet ⟨.refreshSession, promise⟩ nofun).quiet _ nofun) rfl fairly
      · change (interceptor (.plain url) error).Meets discipline _ _
        rw [interceptor, if_pos isUnauthorized]
        exact Or.inl fair

end Requests

/-! ## The programs of a page -/

section Programs

variable {α β : Type} {result : Except Rejection α} {trace : List Event}

theorem Verdict.map (verdict : Verdict result trace) (convert : α → β) :
    Verdict (result.map convert) trace := by
  refine verdict.imp_right fun ⟨isError, unfair⟩ => ⟨fun error mapped => isError error ?_, unfair⟩
  cases result with
  | ok value => cases mapped
  | error error' =>
    cases mapped
    rfl

theorem Verdict.quiet (verdict : Verdict result trace) (event : Event)
    (quiet : ∀ config, event.1 ≠ .send config) : Verdict result (event :: trace) := by
  rcases verdict with fair | ⟨isError, ⟨newer, config, error, older, isTrace, failed⟩ | marks⟩
  · exact Or.inl (fair.quiet event quiet)
  · exact Or.inr ⟨isError, Or.inl ⟨event :: newer, config, error, older, by rw [isTrace]; rfl,
      failed⟩⟩
  · refine Or.inr ⟨isError, Or.inr fun logsOut => marks fun newer older isTrace => ?_⟩
    exact logsOut (event :: newer) older (by rw [isTrace]; rfl)

/-- What a request's thread has done when it is finished. -/
def returns : Request → Except Rejection (Option Response) → List Event → Prop
  | .refresh, _, trace =>
      ¬ Unmarked trace → ∃ promise, (⟨.settleRefresh promise false, ()⟩ : Event) ∈ trace
  | _, result, trace => Verdict result trace

theorem refreshTask_meets : refreshTask.Meets discipline (returns .refresh) [] := by
  refine ⟨nofun, fun promise _ => ⟨nofun, fun entered _ => ?_⟩⟩
  have unmarked : Unmarked [⟨.enterCrossTabRefresh, entered⟩, ⟨.claimRefresh, promise⟩] :=
    (unmarked_nil.cons ⟨.claimRefresh, promise⟩ nofun).cons ⟨.enterCrossTabRefresh, entered⟩ nofun
  match entered with
  | .ok true => exact ⟨nofun, fun _ _ marked => absurd (unmarked.cons ⟨.settleRefresh promise true, ()⟩ nofun) marked⟩
  | .error failure => exact ⟨nofun, fun _ _ _ => ⟨promise, List.mem_cons_self⟩⟩
  | .ok false =>
    beta_reduce
    rw [Program.meets_resume]
    refine (excluded_ends (by decide +kernel) ⟨rfl, rfl, unmarked⟩).mono ?_
    intro result later _ ends
    match result with
    | .ok response =>
      refine ⟨nofun, fun _ _ marked => absurd ?_ marked⟩
      exact (ends.2 response rfl).cons _ nofun
    | .error error => exact ⟨nofun, fun _ _ _ => ⟨promise, List.mem_cons_self⟩⟩

theorem handle_meets (request : Request) :
    (handle request).Meets discipline (returns request) [] := by
  cases request with
  | api url =>
    rw [handle, Program.meets_resume]
    refine (plain_verdict ⟨rfl, rfl, unmarked_nil⟩).mono fun result later _ verdict => ?_
    exact verdict.map some
  | rotating url =>
    refine ⟨nofun, fun promise _ => ?_⟩
    beta_reduce
    rw [Program.meets_resume]
    have fresh : Fresh [⟨.trackRotation, promise⟩] :=
      ⟨rfl, rfl, unmarked_nil.cons ⟨.trackRotation, promise⟩ nofun⟩
    refine (plain_verdict fresh).mono fun result later _ verdict => ⟨nofun, fun _ _ => ?_⟩
    exact (verdict.map some).quiet ⟨.settleRotation promise, ()⟩ nofun
  | refresh => exact refreshTask_meets

theorem system_obeys : system.Obeys (fun _ => discipline) returns where
  programs := handle_meets
  answers _ _ _ _ _ _ := trivial

end Programs

/-! ## Every run -/

section Runs

variable {page : Page} {config : Browser}

theorem page_of_singleton {α : Type} {reply : α} {page' : Page} (outcome : α × Page)
    (possible : (reply, page') ∈ [outcome]) : page' = outcome.2 :=
  congrArg Prod.snd (List.mem_singleton.mp possible)

/-- Only the end of the interceptor writes to the store of the session. -/
theorem auth_unchanged (thread : Nat) {call : Call} {reply : Reply call} {page page' : Page}
    (possible : (reply, page') ∈ outcomes thread call page)
    (other : call ≠ .markUnauthenticated) : page'.auth = page.auth := by
  cases call with
  | markUnauthenticated => exact absurd rfl other
  | send config =>
    rw [page_of_singleton page.respond possible]
    unfold Page.respond
    split
    · rfl
    · split <;> rfl
  | refreshSession =>
    rw [page_of_singleton page.refreshSession possible]
    unfold Page.refreshSession
    split <;> rfl
  | awaitRefresh promise =>
    simp only [outcomes] at possible
    split at possible
    · cases possible
    · rw [page_of_singleton _ possible]
  | awaitRotation promise =>
    simp only [outcomes] at possible
    split at possible
    · rw [page_of_singleton _ possible]
    · cases possible
  | claimRefresh =>
    simp only [outcomes] at possible
    split at possible
    · cases possible
    · rw [page_of_singleton _ possible]
  | enterCrossTabRefresh =>
    simp only [outcomes, List.mem_cons, Prod.mk.injEq, List.not_mem_nil, or_false] at possible
    rcases possible with ⟨-, rfl⟩ | ⟨-, rfl⟩ | ⟨-, rfl⟩ <;> rfl
  | checkRotation => rw [page_of_singleton _ possible]
  | settleRefresh promise succeeded | trackRotation | settleRotation promise =>
    rw [page_of_singleton _ possible]
    rfl

/-- While the server fails retries fairly, a request logs out only on session death. -/
theorem logsOut_of_fair (run : Reaches system anyCall (Config.start page) config) (thread : Nat)
    (fair : FailsAfterRefresh (config.trace thread)) : LogsOutOnDeath (config.trace thread) := by
  have kept := run.keeps (fun _ history => ∀ thread, FailsAfterRefresh (traceOf history thread) →
    LogsOutOnDeath (traceOf history thread)) ?_ (fun _ _ _ holds => holds) ?_
  · exact kept thread fair
  · intro thread _ newer older isTrace
    simp [Config.start] at isTrace
  · intro before after actor event earlier answers holds thread fair newer older isTrace
    by_cases isActor : actor = thread
    · subst isActor
      rw [traceOf_cons_self] at fair isTrace
      have fair' := fair.suffix (List.suffix_cons _ _)
      cases newer with
      | nil =>
        obtain ⟨isEvent, rfl⟩ := List.cons.inj isTrace
        obtain ⟨request, next, running⟩ := answers.running
        exact (earlier.disciplined system_obeys page).allows running
          (congrArg Sigma.fst isEvent) fair'
      | cons _ newer => exact holds actor fair' newer older (List.cons.inj isTrace).2
    · rw [traceOf_cons_ne _ isActor] at fair isTrace
      exact holds thread fair newer older isTrace

/-- What logging out comes to in a state of the page. -/
structure SessionDeath (config : Browser) : Prop where
  /-- at any time, a request has logged out only on session death if the server fails its retries
  only after a failed refresh -/
  logsOut : ∀ thread, FailsAfterRefresh (config.trace thread) →
    LogsOutOnDeath (config.trace thread)
  /-- a finished request has logged out only on session death and has passed on the errors of its
  retries if and only if the server failed them only after a failed refresh -/
  finished : ∀ index thread result, config.threads[index]? = some thread →
    thread.result = some result → thread.request ≠ .refresh →
      (LogsOutOnDeath (config.trace index) ∧ ErrorsReach result (config.trace index) ↔
        FailsAfterRefresh (config.trace index))
  /-- a finished refresh that has logged out has failed -/
  refreshes : ∀ index thread result, config.threads[index]? = some thread →
    thread.result = some result → thread.request = .refresh →
      (⟨.markUnauthenticated, ()⟩ : Event) ∈ config.trace index →
        ∃ promise, (⟨.settleRefresh promise false, ()⟩ : Event) ∈ config.trace index
  /-- whatever else a request does leaves the store of the session unchanged -/
  written : ∀ after thread event, Answers system anyCall config after thread event →
    event.1 ≠ .markUnauthenticated → after.state.auth = config.state.auth

theorem session_death (run : Reaches system anyCall (Config.start page) config) :
    SessionDeath config where
  logsOut := logsOut_of_fair run
  finished := by
    intro index thread result present finished isRequest
    have returned := (run.disciplined system_obeys page).returned present finished
    have verdict : Verdict result (config.trace index) := by
      cases isKind : thread.request with
      | refresh => exact absurd isKind isRequest
      | api url | rotating url =>
        rw [isKind] at returned
        exact returned
    constructor
    · rintro ⟨logsOut, reach⟩
      rcases verdict with fair | ⟨isError, unfair | marks⟩
      · exact fair
      · obtain ⟨newer, config', error, older, isTrace, failed, refreshed⟩ := unfair
        have reached := (reach newer config' error older isTrace failed refreshed).1
        exact absurd (isError error reached) failed.2
      · exact absurd logsOut marks
    · intro fair
      refine ⟨logsOut_of_fair run index fair, ?_⟩
      intro newer config' error older isTrace failed refreshed
      have failed' := fair newer config' error older isTrace failed
      rw [refreshed] at failed'
      cases failed'
  refreshes := by
    intro index thread result present finished isRequest marked
    have returned := (run.disciplined system_obeys page).returned present finished
    rw [isRequest] at returned
    exact returned fun unmarked => unmarked _ marked rfl
  written := by
    intro after thread event answers other
    exact auth_unchanged thread answers.possible other

end Runs

/-- A page with a user logged in. -/
def loggedIn : Page where
  now := 0
  auth := ⟨some true, some 0, initialProfile⟩
  cached := [.sessions]
  toasts := []
  refreshInFlight := none
  unclaimedRefresh := none
  settledRefreshes := []
  nextRefresh := 0
  pendingRotation := none
  settledRotations := []
  nextRotation := 0
  rotationSettledAt := none
  answer := none
  nextSerial := 0

/-- The access token has expired, and the refresh succeeds; the retry is answered with `status`. -/
def refreshedThen (status : Nat) : List (Move Request Environment) :=
  [.begin (.api (some "/policies")), .disturb (.answer (some 401)), .reply 0 0, .reply 0 0,
    .begin .refresh, .reply 1 0, .reply 1 1, .disturb (.answer (some 200))] ++ Move.turns 1 2 ++
      .reply 0 0 :: .disturb (.answer (some status)) :: Move.turns 0 3

theorem session_death_forbidden :
    SessionDeath ((Config.start loggedIn).follow system (refreshedThen 403)) :=
  session_death (Config.follow_reaches system _ (refreshedThen 403))

instance (call : Call) : DecidableEq (Reply call) := by
  cases call <;> exact inferInstance

/-- What the request has called, up to its retry. -/
def untilRetry : List Event :=
  [⟨.awaitRefresh 0, true⟩, ⟨.refreshSession, 0⟩,
    ⟨.send (.plain (some "/policies")), .error ⟨0, some 401⟩⟩]

def forbiddenRetry : Event :=
  ⟨.send ⟨some "/policies", true, false⟩, .error ⟨2, some 403⟩⟩

/-- The user lacks a permission and is logged out for it, and the caller gets the first 401. -/
theorem forbidden_logs_out :
    ∃ config : Browser, Reaches system anyCall (Config.start loggedIn) config ∧
      ∃ thread result, config.threads[0]? = some thread ∧ thread.request ≠ .refresh ∧
        thread.result = some result ∧ config.state.auth.isAuthenticated = some false ∧
          ¬ LogsOutOnDeath (config.trace 0) ∧ ¬ ErrorsReach result (config.trace 0) := by
  obtain ⟨program, present, finished⟩ :=
    ((Config.start loggedIn).follow system (refreshedThen 403)).finished_of_result 0
      (.api (some "/policies")) (.error ⟨0, some 401⟩) (by decide +kernel) (by decide +kernel)
  have isTrace : ((Config.start loggedIn).follow system (refreshedThen 403)).trace 0 =
      ⟨.markUnauthenticated, ()⟩ :: ⟨.checkRotation, (none, false)⟩ :: forbiddenRetry ::
        untilRetry := by
    decide +kernel
  refine ⟨_, Config.follow_reaches system _ (refreshedThen 403), _, _, present, nofun, finished,
    by decide +kernel, ?_, ?_⟩
  · intro logsOut
    rcases logsOut [] _ isTrace with failed | isUnauthorized
    · cases failed
    · cases isUnauthorized
  · intro reach
    have reached := reach [⟨.markUnauthenticated, ()⟩, ⟨.checkRotation, (none, false)⟩] _ _ _ isTrace
      ⟨rfl, by decide⟩ rfl
    exact reached.2 _ List.mem_cons_self rfl

end MysticAuth.AuthInterceptor
