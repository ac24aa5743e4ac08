import MysticAuth.Security.CounterExpiry
import MysticAuth.Security.LoginTraces

/-!
# The lockout bounds the rejected attempts

Every attempt that is rejected has got a count of its own from the second,
atomic look at the lock, and no count above the maximum is rejected.
-/

set_option autoImplicit false

namespace MysticAuth.Login

open Interleaving Security

/-! ## Answers from Valkey -/

section Outcomes

variable {site : Site} {thread : Nat} {store store' : Store}

theorem valkey_outcome {command : Security.Call} {reply : Security.Reply command}
    (possible : ((reply : Reply (.valkey command)), store') ∈
      outcomes site thread (.valkey command) store) :
    (reply, store'.valkey) ∈ Security.outcomes thread command store.valkey ∧
      store' = { store with valkey := store'.valkey } := by
  obtain ⟨⟨reply', valkey⟩, member, same⟩ := List.mem_map.mp possible
  obtain ⟨rfl, rfl⟩ := Prod.mk.inj same
  exact ⟨member, rfl⟩

theorem other_outcome {call : Call} {reply : Reply call}
    (isOther : ∀ command, call ≠ .valkey command)
    (possible : (reply, store') ∈ outcomes site thread call store) :
    store'.valkey = store.valkey := by
  cases call with
  | valkey command => exact absurd rfl (isOther command)
  | updateLastLogin userId =>
    rcases written_cases possible with ⟨-, same⟩ | ⟨-, same⟩ <;> rw [same]
  | getByEmail email | createSession userId | logSecurityEvent entry =>
    simp only [outcomes, List.mem_cons, Prod.mk.injEq, List.not_mem_nil, or_false] at possible
    rcases possible with ⟨-, same⟩ | ⟨-, same⟩ <;> rw [same]
  | verifyPassword password hashed | createTokens email =>
    simp only [outcomes, List.mem_cons, Prod.mk.injEq, List.not_mem_nil, or_false] at possible
    rcases possible with ⟨-, same⟩ | ⟨-, same⟩ | ⟨-, same⟩ <;> rw [same]
  | captureSecurityAlert event =>
    rw [(Prod.mk.inj (List.mem_singleton.mp possible)).2]

end Outcomes

/-! ## The lifetime of a counter -/

/-- A run in which the counter, once it is there, neither expires nor is deleted. -/
def Lifetime (site : Site) (key : String) : Server → Server → Prop :=
  Relation.ReflTransGen fun before after => Step (server site) anyCall before after ∧
    (before.state.valkey.find key ≠ none → after.state.valkey.find key ≠ none)

/-- The count that an `INCR` of the key was answered, with the thread that sent it. -/
def countOf (key : String) (entry : Nat × Event) : Option (Nat × Nat) :=
  match entry with
  | (thread, ⟨.valkey (.incr other), .done count⟩) =>
      if other = key then some (thread, count) else none
  | _ => none

/-- The counts of a lifetime are distinct, and the counter is at the last of them at least. -/
structure Counted (key : String) (valkey : Valkey) (history : List (Nat × Event)) : Prop where
  distinct : ((history.filterMap (countOf key)).map Prod.snd).Nodup
  reached : ∀ pair ∈ history.filterMap (countOf key), 1 ≤ pair.2 ∧
    ∃ entry, valkey.find key = some entry ∧ pair.2 ≤ entry.count

section Lifetimes

variable {site : Site} {key : String} {before after : Server}

theorem Lifetime.reaches (life : Lifetime site key before after) :
    Reaches (server site) anyCall before after :=
  Relation.ReflTransGen.mono (fun _ _ step => step.1) _ _ life

/-- Between two states of a lifetime the count does not fall. -/
theorem step_count (step : Step (server site) anyCall before after) {old entry : Entry}
    (found : before.state.valkey.find key = some old)
    (present : after.state.valkey.find key = some entry) : old.count ≤ entry.count := by
  have unchanged (same : after.state.valkey = before.state.valkey) : old.count ≤ entry.count := by
    rw [same, found] at present
    rw [Option.some.inj present]
  rcases step.cases_answers with ⟨-, same | ⟨disturbance, changed⟩⟩ | ⟨thread, event, answers⟩
  · exact unchanged (by rw [same])
  · cases disturbance with
    | elapse millis =>
      rw [changed] at present
      have present' := find_elapse present
      rw [found] at present'
      rw [Option.some.inj present']
    | changeAccounts accounts => exact unchanged (by rw [changed]; rfl)
  · obtain ⟨call, reply⟩ := event
    have possible : (reply, after.state) ∈ outcomes site thread call before.state := answers.possible
    by_cases isValkey : ∃ command, call = .valkey command
    · obtain ⟨command, rfl⟩ := isValkey
      exact outcomes_count (valkey_outcome possible).1 found present
    · exact unchanged (other_outcome (fun command same => isValkey ⟨command, same⟩) possible)

theorem countOf_some {entry : Nat × Event} {thread count : Nat}
    (isCount : countOf key entry = some (thread, count)) :
    entry = (thread, ⟨.valkey (.incr key), .done count⟩) := by
  unfold countOf at isCount
  split at isCount
  · split at isCount
    · rename_i isKey
      obtain ⟨rfl, rfl⟩ := Prod.mk.inj (Option.some.inj isCount)
      rw [isKey]
    · cases isCount
  · cases isCount

theorem Counted.kept {history : List (Nat × Event)}
    (counted : Counted key before.state.valkey history)
    (step : Step (server site) anyCall before after)
    (stays : before.state.valkey.find key ≠ none → after.state.valkey.find key ≠ none) :
    Counted key after.state.valkey history where
  distinct := counted.distinct
  reached pair member := by
    obtain ⟨positive, old, found, atMost⟩ := counted.reached pair member
    obtain ⟨entry, present⟩ := Option.ne_none_iff_exists'.mp (stays (by rw [found]; simp))
    exact ⟨positive, entry, present, atMost.trans (step_count step found present)⟩

/-- A new count is above all earlier ones. -/
theorem Counted.count {history : List (Nat × Event)} {thread count : Nat}
    (counted : Counted key before.state.valkey history)
    (answers : Answers (server site) anyCall before after thread
      ⟨.valkey (.incr key), .done count⟩)
    (kept : Counted key after.state.valkey history) :
    Counted key after.state.valkey
      ((thread, ⟨.valkey (.incr key), .done count⟩) :: history) := by
  have possible : ((.done count : Reply (.valkey (.incr key))), after.state) ∈
      outcomes site thread (.valkey (.incr key)) before.state := answers.possible
  obtain ⟨⟨entry, present, isCount⟩, isNext⟩ := incr_committed (valkey_outcome possible).1 rfl
  have isPair : countOf key (thread, ⟨.valkey (.incr key), .done count⟩) = some (thread, count) :=
    if_pos rfl
  have above (pair : Nat × Nat) (member : pair ∈ history.filterMap (countOf key)) :
      pair.2 < count := by
    obtain ⟨-, old, found, atMost⟩ := counted.reached pair member
    rw [found, Option.map_some, Option.getD_some] at isNext
    omega
  constructor
  · rw [List.filterMap_cons_some isPair, List.map_cons, List.nodup_cons]
    refine ⟨fun member => ?_, counted.distinct⟩
    obtain ⟨pair, isOld, same⟩ := List.mem_map.mp member
    have below := above pair isOld
    omega
  · rw [List.filterMap_cons_some isPair]
    intro pair member
    rcases List.mem_cons.mp member with rfl | isOld
    · exact ⟨by omega, entry, present, isCount.ge⟩
    · exact kept.reached pair isOld

theorem Lifetime.counted (life : Lifetime site key before after) :
    ∃ newer, after.history = newer ++ before.history ∧ Counted key after.state.valkey newer := by
  induction life with
  | refl => exact ⟨[], rfl, ⟨List.nodup_nil, fun pair absent => absurd absent (by simp)⟩⟩
  | @tail middle last _ step ih =>
    obtain ⟨newer, isHistory, counted⟩ := ih
    have kept := counted.kept step.1 step.2
    rcases step.1.cases_answers with ⟨same, -⟩ | ⟨thread, event, answers⟩
    · exact ⟨newer, same.trans isHistory, kept⟩
    · refine ⟨(thread, event) :: newer, by rw [answers.recorded, isHistory]; rfl, ?_⟩
      cases isCount : countOf key (thread, event) with
      | none =>
        constructor
        · rw [List.filterMap_cons_none isCount]
          exact kept.distinct
        · rw [List.filterMap_cons_none isCount]
          exact kept.reached
      | some pair =>
        obtain ⟨thread', count⟩ := pair
        obtain ⟨rfl, rfl⟩ := Prod.mk.inj (countOf_some isCount)
        exact counted.count answers kept

end Lifetimes

/-! ## Attempts -/

def requestOf (config : Server) (thread : Nat) : Option Attempt :=
  (config.threads[thread]?).map Thread.request

def resultOf (config : Server) (thread : Nat) : Option (Except Failure Response) :=
  (config.threads[thread]?).bind Thread.result

/-- An attempt is answered with 401, and its final check has come after `before`. -/
structure Rejected (site : Site) (key : String) (before after : Server) (thread : Nat) : Prop where
  attempt : ∃ attempt, requestOf after thread = some attempt ∧ attempt.lock site = key
  answered : resultOf after thread = some (.ok .invalidCredentials)
  unchecked : finalChecks key (before.trace thread) = []

/-- The attempt has deleted the key. -/
def Clears (key : String) (trace : List Event) : Prop :=
  ∃ event ∈ trace, ∃ keys, event.1 = .valkey (.delete keys) ∧ key ∈ keys

/-- An attempt looks at the lock once after it has entered, and clears it only where that look
lets it through. -/
structure Checks (site : Site) (attempt : Attempt) (trace : List Event) : Prop where
  atMostOne : (finalChecks (attempt.lock site) trace).length ≤ 1
  cleared : Clears (attempt.lock site) trace → Passed site attempt trace
  counted : ∀ event ∈ trace, event.1 = .valkey (.incr (attempt.lock site)) →
    event ∈ finalChecks (attempt.lock site) trace

section Checks

variable {site : Site} {attempt : Attempt} {trace : List Event} {event : Event}

/-- A call that is no final check, and clears the lock only after one that lets it through. -/
theorem Checks.other (checks : Checks site attempt trace)
    (same : finalChecks (attempt.lock site) (event :: trace) =
      finalChecks (attempt.lock site) trace)
    (clears : ∀ keys, event.1 = .valkey (.delete keys) → attempt.lock site ∈ keys →
      Passed site attempt trace)
    (silent : event.1 ≠ .valkey (.incr (attempt.lock site))) :
    Checks site attempt (event :: trace) := by
  have passes (passed : Passed site attempt trace) : Passed site attempt (event :: trace) := by
    obtain ⟨count, checked, below⟩ := passed
    exact ⟨count, by rw [same, checked], below⟩
  constructor
  · rw [same]
    exact checks.atMostOne
  · rintro ⟨event', member, keys, isDelete, isKey⟩
    rcases List.mem_cons.mp member with rfl | isOld
    · exact passes (clears keys isDelete isKey)
    · exact passes (checks.cleared ⟨event', isOld, keys, isDelete, isKey⟩)
  · intro event' member isCount
    rw [same]
    rcases List.mem_cons.mp member with rfl | isOld
    · exact absurd isCount silent
    · exact checks.counted event' isOld isCount

/-- The final check itself. -/
theorem Checks.check (checks : Checks site attempt trace)
    (recording : Recording (attempt.lock site) trace)
    (isCheck : isLockCheck (attempt.lock site) event.1 = true) :
    Checks site attempt (event :: trace) := by
  have only := recording.check isCheck
  constructor
  · rw [only]
    exact Nat.le_refl 1
  · rintro ⟨event', member, keys, isDelete, isKey⟩
    rcases List.mem_cons.mp member with rfl | isOld
    · rw [isDelete] at isCheck
      cases isCheck
    · obtain ⟨count, checked, -⟩ := checks.cleared ⟨event', isOld, keys, isDelete, isKey⟩
      rw [recording.unchecked] at checked
      cases checked
  · intro event' member isCount
    rw [only]
    rcases List.mem_cons.mp member with rfl | isOld
    · exact List.mem_singleton_self _
    · have isOldCheck := checks.counted event' isOld isCount
      rw [recording.unchecked] at isOldCheck
      cases isOldCheck

theorem Checks.cons (checks : Checks site attempt trace)
    (allows : allowed site attempt trace event.1) : Checks site attempt (event :: trace) := by
  cases isCheck : isLockCheck (attempt.lock site) event.1 with
  | true =>
    obtain ⟨call, reply⟩ := event
    cases isInside : entered trace with
    | true =>
      refine checks.check ⟨isInside, ?_⟩ isCheck
      cases call with
      | valkey command =>
        cases command with
        | get key =>
          simp only [allowed, isInside, if_true] at allows
          exact allows.2.1
        | incr key =>
          rcases allows.2 with rfl | ⟨-, unchecked⟩
          · rw [isLockCheck_failures] at isCheck
            cases isCheck
          · exact unchecked.1
        | _ => cases isCheck
      | _ => cases isCheck
    | false =>
      refine checks.other (by simp [finalChecks, isInside]) (fun keys isDelete _ => ?_)
        fun isCount => ?_
      · obtain rfl : call = _ := isDelete
        cases isCheck
      · obtain rfl : call = _ := isCount
        rw [allows.1] at isInside
        cases isInside
  | false =>
    refine checks.other (finalChecks_cons_of_ne isCheck) (fun keys isDelete isKey => ?_)
      fun isCount => ?_
    · rw [isDelete] at allows
      rcases allows with ⟨-, rfl⟩ | ⟨-, passed⟩
      · rcases List.mem_pair.mp isKey with same | same
        · exact absurd same lock_ne_failures
        · exact absurd same lock_ne_cooldown
      · exact passed
    · rw [isCount] at isCheck
      simp [isLockCheck] at isCheck

end Checks

section Attempts

variable {site : Site} {start : Store} {before after config : Server} {key : String}

theorem present_of_request {thread : Nat} {attempt : Attempt}
    (isRequest : requestOf config thread = some attempt) :
    ∃ program, config.threads[thread]? = some ⟨attempt, program⟩ :=
  Config.present_of_request config thread attempt isRequest

theorem checks_along (run : Reaches (server site) anyCall (Config.start start) config)
    {thread : Nat} {attempt : Attempt} (isRequest : requestOf config thread = some attempt) :
    Checks site attempt (config.trace thread) := by
  obtain ⟨program, present⟩ := present_of_request isRequest
  refine run.traces (server_obeys site) (Checks site) (fun attempt => ?_)
    (fun attempt trace event allows checks => checks.cons allows) present
  exact ⟨by simp [finalChecks], by simp [Clears], by simp⟩

theorem answered_of_result (run : Reaches (server site) anyCall (Config.start start) config)
    {thread : Nat} {attempt : Attempt} {result : Except Failure Response}
    (isRequest : requestOf config thread = some attempt)
    (isResult : resultOf config thread = some result) :
    Answered site attempt result (config.trace thread) := by
  obtain ⟨program, present, finished⟩ :=
    Config.finished_of_result config thread attempt result isRequest isResult
  exact (run.disciplined (server_obeys site) start).returned present finished

/-- A rejected attempt has got one of the counts of the lifetime, and not one above the maximum. -/
theorem Rejected.counted {thread : Nat}
    (run : Reaches (server site) anyCall (Config.start start) before)
    (life : Lifetime site key before after) {newer : List (Nat × Event)}
    (isHistory : after.history = newer ++ before.history)
    (rejected : Rejected site key before after thread) :
    ∃ count ≤ site.maxFailedLoginAttemptsPerIp, (thread, count) ∈ newer.filterMap (countOf key) := by
  obtain ⟨⟨attempt, isRequest, rfl⟩, answered, unchecked⟩ := rejected
  have whole := run.trans life.reaches
  obtain ⟨count, few, isCount⟩ := answered_of_result whole isRequest answered
  have member := (Config.mem_trace thread _).mp isCount
  rw [isHistory] at member
  rcases List.mem_append.mp member with isNew | isOld
  · exact ⟨count, few, List.mem_filterMap.mpr ⟨_, isNew, if_pos rfl⟩⟩
  · have isOldEvent := (Config.mem_trace thread _).mpr isOld
    have begun := (run.attributed (Config.attributed_start start)).begun isOldEvent
    obtain ⟨program, present⟩ := present_of_request isRequest
    obtain ⟨program', present'⟩ := life.reaches.present_before begun present
    have isOldRequest : requestOf before thread = some attempt := by
      rw [requestOf, present']
      rfl
    have isCheck := (checks_along run isOldRequest).counted _ isOldEvent rfl
    rw [unchecked] at isCheck
    cases isCheck

/-- Distinct threads with counts of at most the maximum are no more than these counts. -/
theorem Counted.few {valkey : Valkey} {newer : List (Nat × Event)} {most : Nat}
    (counted : Counted key valkey newer) {threads : List Nat} (distinct : threads.Nodup)
    (having : ∀ thread ∈ threads, ∃ count ≤ most, (thread, count) ∈ newer.filterMap (countOf key)) :
    threads.length ≤ most := by
  let pairs := (newer.filterMap (countOf key)).filter (·.2 ≤ most)
  have mem_pairs (pair : Nat × Nat) :
      pair ∈ pairs ↔ pair ∈ newer.filterMap (countOf key) ∧ pair.2 ≤ most := by
    simp only [pairs, List.mem_filter, decide_eq_true_eq]
  have among : threads ⊆ pairs.map Prod.fst := by
    intro thread member
    obtain ⟨count, atMost, isPair⟩ := having thread member
    exact List.mem_map.mpr ⟨(thread, count), (mem_pairs _).mpr ⟨isPair, atMost⟩, rfl⟩
  have numbered : pairs.map Prod.snd ⊆ List.range' 1 most := by
    intro count member
    obtain ⟨pair, isPair, rfl⟩ := List.mem_map.mp member
    obtain ⟨isCount, atMost⟩ := (mem_pairs pair).mp isPair
    have positive := (counted.reached pair isCount).1
    rw [List.mem_range'_1]
    omega
  have countsDistinct : (pairs.map Prod.snd).Nodup :=
    (List.filter_sublist.map Prod.snd).nodup counted.distinct
  calc threads.length
      ≤ (pairs.map Prod.fst).length := (distinct.subperm among).length_le
    _ = (pairs.map Prod.snd).length := by rw [List.length_map, List.length_map]
    _ ≤ (List.range' 1 most).length := (countsDistinct.subperm numbered).length_le
    _ = most := List.length_range'

/-- Within a lifetime of the counter no more attempts than the maximum are answered with 401, and
an attempt whose final check refuses it neither signs in nor clears the counter. -/
theorem lockout_bound (site : Site) (start : Store)
    (run : Reaches (server site) anyCall (Config.start start) before) (key : String)
    (life : Lifetime site key before after) :
    (∀ threads : List Nat, threads.Nodup →
      (∀ thread ∈ threads, Rejected site key before after thread) →
        threads.length ≤ site.maxFailedLoginAttemptsPerIp) ∧
      ∀ thread attempt, requestOf after thread = some attempt → attempt.lock site = key →
        ∀ event ∈ finalChecks key (after.trace thread),
          refuses site.maxFailedLoginAttemptsPerIp event = true →
            resultOf after thread ≠ some (.ok .loggedIn) ∧ ¬ Clears key (after.trace thread) := by
  have whole := run.trans life.reaches
  constructor
  · intro threads distinct rejected
    obtain ⟨newer, isHistory, counted⟩ := life.counted
    refine counted.few distinct fun thread member => ?_
    exact (rejected thread member).counted run life isHistory
  · rintro thread attempt isRequest rfl event member isRefusal
    have notPassed : ¬ Passed site attempt (after.trace thread) := by
      rintro ⟨count, checked, below⟩
      rw [checked] at member
      obtain rfl := List.mem_singleton.mp member
      rw [refuses, below] at isRefusal
      cases isRefusal
    constructor
    · intro isResult
      exact notPassed (answered_of_result whole isRequest isResult)
    · intro clears
      exact notPassed ((checks_along whole isRequest).cleared clears)

end Attempts

/-! ## A burst with the correct password in it -/

def plainSite : Site where
  settings := plainSettings
  maxFailedLoginAttemptsPerIp := 2
  loginLockoutTimePerIp := 900
  ipBucket := id
  verifyHash password hashed := password == hashed
  dummyHash := ""

def oneAccount : Store where
  valkey := Valkey.empty 0
  accounts := [⟨1, "ann@example.org", some "right", true, true, none⟩]
  sessions := []
  audit := []

def guess (password : String) : Attempt :=
  ⟨"ann@example.org", password, "203.0.113.7"⟩

/-- Two wrong passwords and the right one are verified before the first failure is recorded. -/
def burst : List (Move Attempt Disturbance) :=
  .begin (guess "wrong") :: Move.turns 0 4 ++ .begin (guess "wronger") :: Move.turns 1 4 ++
    .begin (guess "right") :: Move.turns 2 4 ++ Move.turns 0 5 ++ Move.turns 1 3 ++ Move.turns 2 9

def burstEnded : Server :=
  (Config.start oneAccount).follow (server plainSite) burst

/-- The check of a step that keeps the key. -/
def keepsKey (key : String) (before after : Server) : Bool :=
  (before.state.valkey.find key).isNone || (after.state.valkey.find key).isSome

theorem lifetime_of_check (site : Site) (key : String) (store : Store)
    (moves : List (Move Attempt Disturbance))
    (passed : (Config.start store).steps (server site) (keepsKey key) moves = true) :
    Lifetime site key (Config.start store) ((Config.start store).follow (server site) moves) := by
  refine Config.follow_steps (server site) (keepsKey key) ?_ _ _ passed
  intro before after step kept
  refine ⟨step, fun present absent => present ?_⟩
  rw [keepsKey, absent, Option.isSome_none, Bool.or_false] at kept
  exact Option.isNone_iff_eq_none.mp kept

theorem lockout_bound_burst :
    ([0, 1].length ≤ plainSite.maxFailedLoginAttemptsPerIp) ∧
      resultOf burstEnded 2 ≠ some (.ok .loggedIn) ∧
        ¬ Clears ((guess "right").lock plainSite) (burstEnded.trace 2) := by
  have life : Lifetime plainSite ((guess "right").lock plainSite) (Config.start oneAccount)
      burstEnded := lifetime_of_check _ _ _ _ (by decide +kernel)
  obtain ⟨few, refused⟩ := lockout_bound plainSite oneAccount .refl _ life
  constructor
  · refine few [0, 1] (by decide) fun thread member => ?_
    have rejected : ∀ thread ∈ [0, 1],
        (∃ attempt ∈ [guess "wrong", guess "wronger"],
          requestOf burstEnded thread = some attempt ∧
            attempt.lock plainSite = (guess "right").lock plainSite) ∧
          resultOf burstEnded thread = some (.ok .invalidCredentials) := by decide +kernel
    obtain ⟨⟨attempt, -, isAttempt⟩, isResult⟩ := rejected thread member
    exact ⟨⟨attempt, isAttempt⟩, isResult, rfl⟩
  · obtain ⟨check, member, isRefusal⟩ :
        ∃ event ∈ finalChecks ((guess "right").lock plainSite) (burstEnded.trace 2),
          refuses 2 event = true := by decide +kernel
    exact refused 2 (guess "right") (by decide +kernel) rfl check member isRefusal

end MysticAuth.Login
