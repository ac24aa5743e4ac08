import MysticAuth.Security.LockoutBound

/-!
# What a refused sign-in leaves

An attempt that is answered with 429 has left no trace where it was refused
before it verified its password, and no trace of success where that was wrong.
The outcome of the credential check is audited before the lock is looked at
again.
-/

set_option autoImplicit false

namespace MysticAuth.Login

open Interleaving Security

/-! ## Traces of a sign-in -/

/-- The successes of the audit log. -/
def Store.successes (store : Store) : List AuditEntry :=
  store.audit.filter AuditEntry.success

/-- A step that changes no account, not even its last login, no session and no success. -/
structure Unsigned (before after : Store) : Prop where
  accounts : after.accounts = before.accounts
  sessions : after.sessions = before.sessions
  successes : after.successes = before.successes

/-- A step that also leaves the brake of the account as it was. -/
structure Untouched (site : Site) (attempt : Attempt) (before after : Store) : Prop
    extends Unsigned before after where
  failures : after.valkey.find (attempt.failures site) = before.valkey.find (attempt.failures site)
  cooldown : after.valkey.find (attempt.cooldown site) = before.valkey.find (attempt.cooldown site)

/-- A step at which the failures of the account are counted. -/
def countsFailure (site : Site) (attempt : Attempt) (event : Event) : Bool :=
  match event.1 with
  | .valkey (.incr key) | .valkey (.expire key _) => key == attempt.failures site
  | _ => false

/-- At this step of the run the thread was answered. -/
structure StepOf (site : Site) (start : Store) (config : Server) (thread : Nat)
    (before after : Server) (event : Event) : Prop where
  earlier : Reaches (server site) anyCall (Config.start start) before
  answers : Answers (server site) anyCall before after thread event
  later : Reaches (server site) anyCall after config

/-- From the verification of its password on, the thread has changed nothing. -/
def LeavesNoTrace (site : Site) (start : Store) (config : Server) (thread : Nat) : Prop :=
  ∀ attempt, requestOf config thread = some attempt → ∀ before after event,
    StepOf site start config thread before after event →
      (after.trace thread).any isVerification = true →
        Untouched site attempt before.state after.state

section Effects

variable {site : Site} {thread : Nat} {call : Call} {reply : Reply call} {before after : Store}

theorem successes_cons {store : Store} {entry : AuditEntry} (isFailure : entry.success = false) :
    ({ store with audit := entry :: store.audit } : Store).successes = store.successes := by
  simp [Store.successes, isFailure]

/-- What does not belong to a sign-in leaves none of its traces. -/
theorem unsigned_of_call (possible : (reply, after) ∈ outcomes site thread call before)
    (noLogin : ∀ userId, call ≠ .updateLastLogin userId)
    (noSession : ∀ userId, call ≠ .createSession userId)
    (noSuccess : ∀ entry, call = .logSecurityEvent entry → entry.success = false) :
    Unsigned before after := by
  have unchanged (same : after = before) : Unsigned before after := by
    subst same
    exact ⟨rfl, rfl, rfl⟩
  cases call with
  | valkey command =>
    rw [(valkey_outcome possible).2]
    exact ⟨rfl, rfl, rfl⟩
  | updateLastLogin userId => exact absurd rfl (noLogin userId)
  | createSession userId => exact absurd rfl (noSession userId)
  | logSecurityEvent entry =>
    simp only [outcomes, List.mem_cons, Prod.mk.injEq, List.not_mem_nil, or_false] at possible
    rcases possible with ⟨-, same⟩ | ⟨-, same⟩
    · rw [same]
      exact ⟨rfl, rfl, successes_cons (noSuccess entry rfl)⟩
    · exact unchanged same
  | getByEmail email =>
    simp only [outcomes, List.mem_cons, Prod.mk.injEq, List.not_mem_nil, or_false] at possible
    rcases possible with ⟨-, same⟩ | ⟨-, same⟩ <;> exact unchanged same
  | verifyPassword password hashed | createTokens email =>
    simp only [outcomes, List.mem_cons, Prod.mk.injEq, List.not_mem_nil, or_false] at possible
    rcases possible with ⟨-, same⟩ | ⟨-, same⟩ | ⟨-, same⟩ <;> exact unchanged same
  | captureSecurityAlert event =>
    exact unchanged (Prod.mk.inj (List.mem_singleton.mp possible)).2

/-- Only its own commands change a key. -/
theorem find_of_call (possible : (reply, after) ∈ outcomes site thread call before) {key : String}
    (spared : ∀ command, call = .valkey command → ¬ command.Writes key) :
    after.valkey.find key = before.valkey.find key := by
  by_cases isValkey : ∃ command, call = .valkey command
  · obtain ⟨command, rfl⟩ := isValkey
    exact outcomes_frame (valkey_outcome possible).1 (spared command rfl)
  · rw [other_outcome (fun command same => isValkey ⟨command, same⟩) possible]

/-- A slot that is not taken leaves every key as it was. -/
theorem find_of_untaken {key other : String} {seconds : Nat}
    {reply : Reply (.valkey (.setNx other seconds))}
    (possible : (reply, after) ∈ outcomes site thread (.valkey (.setNx other seconds)) before)
    (untaken : reserves ⟨.valkey (.setNx other seconds), reply⟩ = false) :
    after.valkey.find key = before.valkey.find key := by
  have inner := (valkey_outcome possible).1
  cases reply with
  | done taken =>
    obtain rfl : taken = false := untaken
    simp only [Security.outcomes] at inner
    split at inner
    · rw [(Prod.mk.inj (List.mem_singleton.mp inner)).2]
    · split at inner
      · rcases written_cases inner with ⟨-, same⟩ | ⟨-, same⟩ <;> rw [same]
      · rcases written_cases inner with ⟨taken, -⟩ | ⟨-, same⟩
        · cases taken
        · rw [same]
  | _ => cases untaken

end Effects

/-! ## What an attempt has called -/

/-- What every call of an attempt keeps. -/
structure Audits (site : Site) (attempt : Attempt) (trace : List Event) : Prop where
  inside : matched trace = true → entered trace = true
  authentic : ∀ event ∈ trace, ∀ entry, event.1 = .logSecurityEvent entry →
    entry.success = true → matched trace = true
  checked : ∀ event ∈ finalChecks (attempt.lock site) trace, ∃ success, Audited attempt success trace
  unset : ∀ event ∈ trace, isUnsetWindow (attempt.lock site) event = true →
    entered trace = true ∧ ∃ success, Audited attempt success trace

section Traces

variable {site : Site} {attempt : Attempt} {trace later : List Event} {event : Event}

theorem Audits.cons (audits : Audits site attempt trace)
    (allows : allowed site attempt trace event.1) : Audits site attempt (event :: trace) := by
  have earlier (found : ∃ success, Audited attempt success trace) :
      ∃ success, Audited attempt success (event :: trace) := by
    obtain ⟨success, audited⟩ := found
    exact ⟨success, audited.cons⟩
  constructor
  · intro right
    cases isVerified : isVerification event with
    | true =>
      obtain ⟨call, reply⟩ := event
      cases call with
      | verifyPassword password hashed => exact entered_cons_of allows.1
      | _ => cases isVerified
    | false =>
      rw [matched_cons isVerified] at right
      exact entered_cons_of (audits.inside right)
  · intro event' member entry isEntry isSuccess
    apply matched_cons_of
    rcases List.mem_cons.mp member with rfl | isOld
    · rw [isEntry] at allows
      exact allows isSuccess
    · exact audits.authentic event' isOld entry isEntry isSuccess
  · intro event' member
    simp only [finalChecks] at member
    split at member
    · rename_i isFinal
      obtain ⟨inside, isCheck⟩ := Bool.and_eq_true_iff.mp isFinal
      rcases List.mem_cons.mp member with rfl | isOld
      · obtain ⟨call, reply⟩ := event'
        cases call with
        | valkey command =>
          cases command with
          | get key =>
            simp only [allowed, inside, if_true] at allows
            exact earlier ⟨true, allows.2.2⟩
          | incr key =>
            rcases allows.2 with rfl | ⟨-, -, audited⟩
            · rw [isLockCheck_failures] at isCheck
              cases isCheck
            · exact earlier ⟨false, audited⟩
          | _ => cases isCheck
        | _ => cases isCheck
      · exact earlier (audits.checked event' isOld)
    · exact earlier (audits.checked event' member)
  · intro event' member isUnset
    rcases List.mem_cons.mp member with rfl | isOld
    · obtain ⟨call, reply⟩ := event'
      cases call with
      | valkey command =>
        cases command with
        | expire key seconds =>
          rcases allows.2 with rfl | ⟨-, audited⟩
          · have differs : attempt.lock site ≠ attempt.failures site := lock_ne_failures
            cases reply <;> simp [isUnsetWindow, differs.symm] at isUnset
          · exact ⟨entered_cons_of allows.1, earlier ⟨false, audited⟩⟩
        | _ => cases isUnset
      | _ => cases isUnset
    · obtain ⟨inside, audited⟩ := audits.unset event' isOld isUnset
      exact ⟨entered_cons_of inside, earlier audited⟩

/-- Only an attempt that has entered is refused by its final check. -/
theorem Audits.inside_of_refused (audits : Audits site attempt trace)
    (refused : Refused site attempt trace) : entered trace = true := by
  rcases refused with ⟨check, member, -⟩ | ⟨unset, member, isUnset⟩
  · by_contra outside
    rw [finalChecks_of_outside (Bool.eq_false_iff.mpr outside)] at member
    cases member
  · exact (audits.unset unset member isUnset).1

theorem uncounted_of_outside (allows : allowed site attempt trace event.1)
    (outside : entered trace = false) : countsFailure site attempt event = false := by
  have absurdity (inside : entered trace = true) : False := by
    rw [outside] at inside
    cases inside
  obtain ⟨call, reply⟩ := event
  cases call with
  | valkey command =>
    cases command with
    | incr key => exact (absurdity allows.1).elim
    | expire key seconds => exact (absurdity allows.1).elim
    | _ => rfl
  | _ => rfl

end Traces

/-! ## What its steps change -/

section Steps

variable {site : Site} {attempt : Attempt} {trace : List Event} {thread : Nat} {event : Event}
variable {before after : Store}

theorem unsigned_of_unmatched (possible : (event.2, after) ∈ outcomes site thread event.1 before)
    (allows : allowed site attempt trace event.1) (unmatched : matched trace = false) :
    Unsigned before after := by
  have wrong (right : matched trace = true) : False := by
    rw [right] at unmatched
    cases unmatched
  refine unsigned_of_call possible (fun userId isCall => ?_) (fun userId isCall => ?_)
    fun entry isCall => ?_
  · rw [isCall] at allows
    exact wrong allows
  · rw [isCall] at allows
    exact wrong allows
  · rw [isCall] at allows
    exact Bool.eq_false_iff.mpr fun isSuccess => wrong (allows isSuccess)

/-- The failures of the account are only counted. -/
theorem failures_of_unmatched (possible : (event.2, after) ∈ outcomes site thread event.1 before)
    (allows : allowed site attempt trace event.1) (unmatched : matched trace = false)
    (uncounted : countsFailure site attempt event = false) :
    after.valkey.find (attempt.failures site) = before.valkey.find (attempt.failures site) := by
  refine find_of_call possible fun command isCommand writes => ?_
  rw [isCommand] at allows
  unfold countsFailure at uncounted
  rw [isCommand] at uncounted
  cases command with
  | incr key | expire key seconds =>
    obtain rfl : key = _ := writes
    simp at uncounted
  | setNx key seconds => exact failures_ne_cooldown (writes.symm.trans allows.2.1)
  | delete keys =>
    rcases allows with ⟨right, -⟩ | ⟨rfl, -⟩
    · rw [right] at unmatched
      cases unmatched
    · exact lock_ne_failures (List.mem_singleton.mp writes).symm
  | get key | ttl key | logSecurityEvent => exact writes

/-- The cool-down begins where its slot is taken, and nowhere else. -/
theorem cooldown_of_unmatched (possible : (event.2, after) ∈ outcomes site thread event.1 before)
    (allows : allowed site attempt trace event.1) (unmatched : matched trace = false)
    (untaken : ∀ key seconds, event.1 = .valkey (.setNx key seconds) → reserves event = false) :
    after.valkey.find (attempt.cooldown site) = before.valkey.find (attempt.cooldown site) := by
  by_cases isSlot : ∃ key seconds, event.1 = .valkey (.setNx key seconds)
  · obtain ⟨call, reply⟩ := event
    obtain ⟨key, seconds, isCall⟩ := isSlot
    obtain rfl : call = _ := isCall
    exact find_of_untaken possible (untaken key seconds rfl)
  · refine find_of_call possible fun command isCommand writes => ?_
    rw [isCommand] at allows
    have counts (key : String)
        (isCounter : key = attempt.failures site ∨ key = attempt.lock site)
        (same : key = attempt.cooldown site) : False := by
      subst same
      rcases isCounter with same | same
      · exact failures_ne_cooldown same.symm
      · exact lock_ne_cooldown same.symm
    cases command with
    | incr key => exact counts key (allows.2.imp id And.left) writes
    | expire key seconds => exact counts key (allows.2.imp id And.left) writes
    | setNx key seconds => exact isSlot ⟨key, seconds, isCommand⟩
    | delete keys =>
      rcases allows with ⟨right, -⟩ | ⟨rfl, -⟩
      · rw [right] at unmatched
        cases unmatched
      · exact lock_ne_cooldown (List.mem_singleton.mp writes).symm
    | get key | ttl key | logSecurityEvent => exact writes

end Steps

section Runs

variable {site : Site} {start : Store} {config before after : Server} {thread : Nat}
variable {attempt : Attempt} {event : Event}

theorem audits_along (run : Reaches (server site) anyCall (Config.start start) config)
    (isRequest : requestOf config thread = some attempt) :
    Audits site attempt (config.trace thread) := by
  obtain ⟨program, present⟩ := present_of_request isRequest
  refine run.traces (server_obeys site) (Audits site) (fun attempt => ?_)
    (fun attempt trace event allows audits => audits.cons allows) present
  constructor
  · intro right
    cases right
  · exact fun _ member => absurd member List.not_mem_nil
  · exact fun _ member => absurd member List.not_mem_nil
  · exact fun _ member => absurd member List.not_mem_nil

theorem StepOf.allows (step : StepOf site start config thread before after event)
    (isRequest : requestOf config thread = some attempt) :
    allowed site attempt (before.trace thread) event.1 := by
  obtain ⟨program, present⟩ := present_of_request isRequest
  obtain ⟨next, running⟩ := step.answers.running_as step.later present
  exact (step.earlier.disciplined (server_obeys site) start).allows running

theorem StepOf.within (step : StepOf site start config thread before after event) :
    event :: before.trace thread <:+ config.trace thread := by
  rw [← step.answers.trace_self]
  exact step.later.trace_suffix thread

theorem any_of_suffix {check : Event → Bool} {earlier later : List Event}
    (suffix : earlier <:+ later) (none : later.any check = false) : earlier.any check = false := by
  rw [List.any_eq_false] at none ⊢
  exact fun event member => none event (suffix.subset member)

theorem StepOf.unmatched (step : StepOf site start config thread before after event)
    (unmatched : matched (config.trace thread) = false) : matched (before.trace thread) = false :=
  any_of_suffix ((List.suffix_cons _ _).trans step.within) unmatched

theorem StepOf.outside (step : StepOf site start config thread before after event)
    (outside : entered (config.trace thread) = false) : entered (before.trace thread) = false :=
  any_of_suffix ((List.suffix_cons _ _).trans step.within) outside

/-- An attempt that is answered with 429 has changed nothing where it has not entered, and has left
no trace of success where its password has not been verified as the right one.  Where it has
entered, its outcome has been audited. -/
theorem refused_sign_in (site : Site) (start : Store)
    (run : Reaches (server site) anyCall (Config.start start) config)
    (isRequest : requestOf config thread = some attempt) {seconds minutes : Nat}
    (throttled : resultOf config thread = some (.ok (.throttled seconds minutes))) :
    (entered (config.trace thread) = false →
        ∀ before after event, StepOf site start config thread before after event →
          Untouched site attempt before.state after.state) ∧
      (matched (config.trace thread) = false →
        ∀ before after event, StepOf site start config thread before after event →
          Unsigned before.state after.state ∧
          (countsFailure site attempt event = false →
            after.state.valkey.find (attempt.failures site) =
              before.state.valkey.find (attempt.failures site)) ∧
          (entered (before.trace thread) = true →
            after.state.valkey.find (attempt.cooldown site) =
              before.state.valkey.find (attempt.cooldown site))) ∧
      (entered (config.trace thread) = true → ∃ success,
        Audited attempt success (config.trace thread) ∧
          (success = true → matched (config.trace thread) = true)) := by
  have audits := audits_along run isRequest
  have answered := answered_of_result run isRequest throttled
  refine ⟨fun outside before after event step => ?_,
    fun unmatched before after event step => ?_, fun inside => ?_⟩
  · have allows := step.allows isRequest
    have possible : (event.2, after.state) ∈ outcomes site thread event.1 before.state :=
      step.answers.possible
    have unmatched : matched (config.trace thread) = false :=
      Bool.eq_false_iff.mpr fun right => by
        rw [audits.inside right] at outside
        cases outside
    have unreserved : (config.trace thread).all (!reserves ·) = true := by
      rcases answered with ⟨-, unreserved⟩ | refused
      · exact unreserved
      · exact absurd (audits.inside_of_refused refused) (by rw [outside]; simp)
    refine ⟨unsigned_of_unmatched possible allows (step.unmatched unmatched), ?_, ?_⟩
    · exact failures_of_unmatched possible allows (step.unmatched unmatched)
        (uncounted_of_outside allows (step.outside outside))
    · refine cooldown_of_unmatched possible allows (step.unmatched unmatched) fun _ _ _ => ?_
      have untaken := List.all_eq_true.mp unreserved event
        (step.within.subset List.mem_cons_self)
      simpa using untaken
  · have allows := step.allows isRequest
    have possible : (event.2, after.state) ∈ outcomes site thread event.1 before.state :=
      step.answers.possible
    refine ⟨unsigned_of_unmatched possible allows (step.unmatched unmatched),
      failures_of_unmatched possible allows (step.unmatched unmatched), fun inside => ?_⟩
    refine cooldown_of_unmatched possible allows (step.unmatched unmatched)
      fun key seconds isSlot => ?_
    rw [isSlot] at allows
    rw [allows.1] at inside
    cases inside
  · have audited : ∃ success, Audited attempt success (config.trace thread) := by
      rcases answered with ⟨outside, -⟩ | ⟨check, member, -⟩ | ⟨unset, member, isUnset⟩
      · rw [outside] at inside
        cases inside
      · exact audits.checked check member
      · exact (audits.unset unset member isUnset).2
    obtain ⟨success, entry, member, isEntry⟩ := audited
    exact ⟨success, ⟨entry, member, isEntry⟩, audits.authentic entry member _ isEntry⟩

end Runs

/-! ## A wrong and a right guess that are refused -/

/-- A third wrong password is verified before the first failure is recorded, and a fourth attempt
comes after all of them. -/
def wrongBurst : List (Move Attempt Disturbance) :=
  .begin (guess "wrong") :: Move.turns 0 4 ++ .begin (guess "wronger") :: Move.turns 1 4 ++
    .begin (guess "wrongest") :: Move.turns 2 4 ++ Move.turns 0 5 ++ Move.turns 1 3 ++
    Move.turns 2 6 ++ .begin (guess "right") :: Move.turns 3 3

def wrongBurstEnded : Server :=
  (Config.start oneAccount).follow (server plainSite) wrongBurst

theorem refused_sign_in_wrong :
    resultOf wrongBurstEnded 2 = some (.ok (.throttled 900 15)) ∧
      resultOf wrongBurstEnded 3 = some (.ok (.throttled 900 15)) ∧
      (∀ before after event, StepOf plainSite oneAccount wrongBurstEnded 2 before after event →
        Unsigned before.state after.state) ∧
      ∀ before after event, StepOf plainSite oneAccount wrongBurstEnded 3 before after event →
        Untouched plainSite (guess "right") before.state after.state := by
  have run : Reaches (server plainSite) anyCall (Config.start oneAccount) wrongBurstEnded :=
    Config.follow_reaches (server plainSite) _ _
  -- one evaluation of the run for all that is read of it
  obtain ⟨wrong, late, isWrong, isLate⟩ :
      resultOf wrongBurstEnded 2 = some (.ok (.throttled 900 15)) ∧
        resultOf wrongBurstEnded 3 = some (.ok (.throttled 900 15)) ∧
          requestOf wrongBurstEnded 2 = some (guess "wrongest") ∧
            requestOf wrongBurstEnded 3 = some (guess "right") := by
    decide +kernel
  refine ⟨wrong, late, fun before after event step => ?_, ?_⟩
  · exact ((refused_sign_in plainSite oneAccount run isWrong wrong).2.1 (by decide +kernel)
      before after event step).1
  · exact (refused_sign_in plainSite oneAccount run isLate late).1 (by decide +kernel)

/-- The burst with the right password in it, up to the session row of the third attempt. -/
def burstSigning : Server :=
  (Config.start oneAccount).follow (server plainSite)
    (.begin (guess "wrong") :: Move.turns 0 4 ++ .begin (guess "wronger") :: Move.turns 1 4 ++
      .begin (guess "right") :: Move.turns 2 4 ++ Move.turns 0 5 ++ Move.turns 1 3 ++
      Move.turns 2 2)

def burstStored : Server :=
  burstSigning.follow (server plainSite) [.reply 2 0]

def burstRefused : Server :=
  burstStored.follow (server plainSite) (Move.turns 2 6)

/-- The third attempt is refused, and has left a session, a last login and a success in the audit
log, and has cleared the failures of the account. -/
theorem refused_sign_in_leaves_traces :
    Reaches (server plainSite) anyCall (Config.start oneAccount) burstRefused ∧
      resultOf burstRefused 2 = some (.ok (.throttled 900 15)) ∧
      ¬ LeavesNoTrace plainSite oneAccount burstRefused 2 ∧
      burstRefused.state.sessions = [1] ∧
      burstRefused.state.accounts.map Account.lastLoginAt = [some 0] ∧
      burstRefused.state.successes = [⟨.loginSuccess, "ann@example.org", true⟩] ∧
      burstSigning.state.valkey.find ((guess "right").failures plainSite) =
        some ⟨2, some 900000⟩ ∧
      burstRefused.state.valkey.find ((guess "right").failures plainSite) = none := by
  have signing : Reaches (server plainSite) anyCall (Config.start oneAccount) burstSigning :=
    Config.follow_reaches (server plainSite) _ _
  have refused : Reaches (server plainSite) anyCall burstStored burstRefused :=
    Config.follow_reaches (server plainSite) _ _
  have answers : Answers (server plainSite) anyCall burstSigning burstStored 2
      ⟨.createSession 1, ()⟩ := Config.follow_answers (server plainSite) _ 2 0 _ trivial rfl
  have run := (signing.tail answers.step).trans refused
  obtain ⟨isRefused, sessions, logins, successes, counted⟩ :
      resultOf burstRefused 2 = some (.ok (.throttled 900 15)) ∧
        burstRefused.state.sessions = [1] ∧
          burstRefused.state.accounts.map Account.lastLoginAt = [some 0] ∧
            burstRefused.state.successes = [⟨.loginSuccess, "ann@example.org", true⟩] ∧
              burstRefused.state.valkey.find ((guess "right").failures plainSite) = none := by
    decide +kernel
  obtain ⟨stored, failures⟩ : burstStored.state.sessions ≠ burstSigning.state.sessions ∧
      burstSigning.state.valkey.find ((guess "right").failures plainSite) =
        some ⟨2, some 900000⟩ := by
    decide +kernel
  refine ⟨run, isRefused, fun untraced => ?_, sessions, logins, successes, failures, counted⟩
  have untouched := untraced (guess "right") (by decide +kernel) _ _ _ ⟨signing, answers, refused⟩
    (by decide +kernel)
  exact stored untouched.sessions

end MysticAuth.Login
