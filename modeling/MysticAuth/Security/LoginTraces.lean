import MysticAuth.Security.Login
import MysticAuth.Valkey.KeyNames

/-!
# What a login attempt calls

The attempt passes the lockout and the cool-down, enters the login service,
records the outcome, and looks at the lock once more.
-/

set_option autoImplicit false

namespace MysticAuth.Login

open Interleaving Security KeyNames

/-! ## Services in the handler -/

section Lift

variable {α β : Type}

theorem lift_bind (body : Security.Service α) (rest : α → Security.Service β) :
    lift (body >>= rest) = lift body >>= fun value => lift (rest value) :=
  Program.host_bind _ _ _ body rest

theorem lift_exceptReturn (body : Security.Service α) (value : α) :
    lift (exceptReturn body value) = tryCatch (lift body) fun _ => pure value :=
  Program.host_tryCatch _ _ _ body (pure value)

theorem lift_orUnavailable (body : Security.Service α) :
    lift (orUnavailable body) = tryCatch (lift body) fun _ => throw .app :=
  Program.host_tryCatch _ _ _ body (throw Security.Failure.serviceUnavailable)

theorem lift_execute (command : Security.Call) :
    lift (Security.execute command) = execute (.valkey command) (Write.result .other) := by
  change Program.call _ _ = Program.call _ _
  congr 1
  funext reply
  cases reply <;> rfl

end Lift

/-! ## The course of an attempt -/

section Course

variable (site : Site) (attempt : Attempt)

def Attempt.lock : String :=
  lockKey site attempt.email attempt.clientIp

def Attempt.failures : String :=
  failuresKey site.settings attempt.email

def Attempt.cooldown : String :=
  cooldownKey site.settings attempt.email

/-- The attempt has got to the login service. -/
def entered (trace : List Event) : Bool :=
  trace.any fun event => match event.1 with
    | .getByEmail _ => true
    | _ => false

def isLockCheck (key : String) : Call → Bool
  | .valkey (.get other) | .valkey (.incr other) => other == key
  | _ => false

/-- What the attempt has found under the lock after it has entered. -/
def finalChecks (key : String) : List Event → List Event
  | [] => []
  | event :: earlier =>
      if entered earlier && isLockCheck key event.1 then event :: finalChecks key earlier
      else finalChecks key earlier

/-- The final check finds the counter at or above the maximum, or cannot record the failure. -/
def refuses (maxAttempts : Nat) (event : Event) : Bool :=
  match event with
  | ⟨.valkey (.get _), .done count⟩ => count.any (maxAttempts ≤ ·)
  | ⟨.valkey (.incr _), .done count⟩ => decide (maxAttempts < count)
  | ⟨.valkey (.incr _), _⟩ => true
  | _ => false

/-- The window of the lock could not be set. -/
def isUnsetWindow (key : String) (event : Event) : Bool :=
  match event with
  | ⟨.valkey (.expire _ _), .done _⟩ => false
  | ⟨.valkey (.expire other _), _⟩ => other == key
  | _ => false

/-- The count of failures lets the attempt through. -/
def AdmittedByCount (trace : List Event) : Prop :=
  ∃ count : Option Nat, ⟨.valkey (.get (attempt.failures site)), .done count⟩ ∈ trace ∧
    count.all (· < site.settings.loginAccountFailureThreshold) = true

/-- The attempt has taken the one slot of the cool-down. -/
def AdmittedBySlot (trace : List Event) : Prop :=
  ⟨.valkey (.setNx (attempt.cooldown site) site.settings.loginAccountCooldownSeconds),
    .done true⟩ ∈ trace

/-- The final check has found the counter below the maximum. -/
def Passed (trace : List Event) : Prop :=
  ∃ count : Option Nat, finalChecks (attempt.lock site) trace =
      [⟨.valkey (.get (attempt.lock site)), .done count⟩] ∧
    count.any (site.maxFailedLoginAttemptsPerIp ≤ ·) = false

/-- The final check has not let the attempt through. -/
def Refused (trace : List Event) : Prop :=
  (∃ event ∈ finalChecks (attempt.lock site) trace,
      refuses site.maxFailedLoginAttemptsPerIp event = true) ∨
    ∃ event ∈ trace, isUnsetWindow (attempt.lock site) event = true

def isVerification (event : Event) : Bool :=
  match event.1 with
  | .verifyPassword _ _ => true
  | _ => false

/-- The password has been verified as the right one. -/
def matched (trace : List Event) : Bool :=
  trace.any fun event => match event with
    | ⟨.verifyPassword _ _, .ok true⟩ => true
    | _ => false

/-- The slot of the cool-down may have been taken. -/
def reserves (event : Event) : Bool :=
  match event with
  | ⟨.valkey (.setNx _ _), .done taken⟩ => taken
  | ⟨.valkey (.setNx _ _), _⟩ => true
  | _ => false

/-- The entry for what the credential check has come to. -/
def Attempt.outcome (success : Bool) : AuditEntry :=
  ⟨if success then .loginSuccess else .loginFailure, attempt.email, success⟩

def Audited (success : Bool) (trace : List Event) : Prop :=
  ∃ event ∈ trace, event.1 = .logSecurityEvent (attempt.outcome success)

/-- What an attempt may call, by what it has called before. -/
def allowed (trace : List Event) : Call → Prop
  | .valkey (.get key) =>
      if entered trace then key = attempt.lock site ∧
        finalChecks (attempt.lock site) trace = [] ∧ Audited attempt true trace
      else key = attempt.lock site ∨ key = attempt.failures site
  | .valkey (.incr key) => entered trace = true ∧ (key = attempt.failures site ∨
      key = attempt.lock site ∧ finalChecks (attempt.lock site) trace = [] ∧
        Audited attempt false trace)
  | .valkey (.expire key _) =>
      entered trace = true ∧
        (key = attempt.failures site ∨ key = attempt.lock site ∧ Audited attempt false trace)
  | .valkey (.ttl _) => True
  | .valkey (.delete keys) =>
      matched trace = true ∧ keys = [attempt.failures site, attempt.cooldown site] ∨
        keys = [attempt.lock site] ∧ Passed site attempt trace
  | .valkey (.setNx key seconds) => entered trace = false ∧ key = attempt.cooldown site ∧
      seconds = site.settings.loginAccountCooldownSeconds ∧
      ∃ count, ⟨.valkey (.get (attempt.failures site)), .done (some count)⟩ ∈ trace
  | .valkey .logSecurityEvent => False
  | .getByEmail _ => entered trace = false ∧
      (AdmittedByCount site attempt trace ∨ AdmittedBySlot site attempt trace)
  | .verifyPassword _ _ => entered trace = true ∧ trace.all (!isVerification ·) = true
  | .updateLastLogin _ | .createTokens _ | .createSession _ => matched trace = true
  | .logSecurityEvent entry => entry.success = true → matched trace = true
  | .captureSecurityAlert _ => True

def discipline : Discipline Reply where
  allows := allowed site attempt
  answers _ _ := True

/-- What an attempt has found under the lock when it is answered. -/
def Answered (result : Except Failure Response) (trace : List Event) : Prop :=
  match result with
  | .ok .invalidCredentials => ∃ count ≤ site.maxFailedLoginAttemptsPerIp,
      ⟨.valkey (.incr (attempt.lock site)), .done count⟩ ∈ trace
  | .ok (.throttled _ _) =>
      entered trace = false ∧ trace.all (!reserves ·) = true ∨ Refused site attempt trace
  | .ok .loggedIn => Passed site attempt trace
  | _ => True

end Course

/-! ## Traces -/

section Traces

variable {key : String} {trace : List Event} {event : Event}

theorem finalChecks_of_outside (outside : entered trace = false) : finalChecks key trace = [] := by
  induction trace with
  | nil => rfl
  | cons event earlier ih =>
    unfold entered at outside
    rw [List.any_cons, Bool.or_eq_false_iff] at outside
    have earlierOutside : entered earlier = false := outside.2
    simp only [finalChecks, earlierOutside, Bool.false_and, Bool.false_eq_true, if_false]
    exact ih earlierOutside

theorem entered_cons_of (inside : entered trace = true) : entered (event :: trace) = true := by
  unfold entered at inside ⊢
  rw [List.any_cons, inside, Bool.or_true]

theorem matched_cons_of (right : matched trace = true) : matched (event :: trace) = true := by
  unfold matched at right ⊢
  rw [List.any_cons, right, Bool.or_true]

theorem matched_cons (isOther : isVerification event = false) :
    matched (event :: trace) = matched trace := by
  obtain ⟨call, reply⟩ := event
  cases call with
  | verifyPassword password hashed => cases isOther
  | _ => rfl

theorem Audited.cons {attempt : Attempt} {success : Bool} (audited : Audited attempt success trace) :
    Audited attempt success (event :: trace) := by
  obtain ⟨entry, member, isEntry⟩ := audited
  exact ⟨entry, List.mem_cons_of_mem _ member, isEntry⟩

theorem AdmittedByCount.cons {site : Site} {attempt : Attempt}
    (admitted : AdmittedByCount site attempt trace) :
    AdmittedByCount site attempt (event :: trace) := by
  obtain ⟨count, isRead, below⟩ := admitted
  exact ⟨count, List.mem_cons_of_mem _ isRead, below⟩

theorem AdmittedBySlot.cons {site : Site} {attempt : Attempt}
    (admitted : AdmittedBySlot site attempt trace) :
    AdmittedBySlot site attempt (event :: trace) :=
  List.mem_cons_of_mem _ admitted

theorem finalChecks_cons_of_ne (isOther : isLockCheck key event.1 = false) :
    finalChecks key (event :: trace) = finalChecks key trace := by
  simp [finalChecks, isOther]

/-- Before the entry. -/
structure Outside (trace : List Event) : Prop where
  outside : entered trace = false
  unverified : trace.all (!isVerification ·) = true

theorem Outside.valkey (outside : Outside trace) (command : Security.Call)
    (reply : Security.Reply command) : Outside (⟨.valkey command, reply⟩ :: trace) where
  outside := by simpa [entered] using outside.outside
  unverified := by simpa [isVerification] using outside.unverified

/-- Between the entry and the final check. -/
structure Recording (key : String) (trace : List Event) : Prop where
  inside : entered trace = true
  unchecked : finalChecks key trace = []

theorem Recording.cons (recording : Recording key trace)
    (isOther : isLockCheck key event.1 = false) : Recording key (event :: trace) where
  inside := entered_cons_of recording.inside
  unchecked := by rw [finalChecks_cons_of_ne isOther, recording.unchecked]

theorem Recording.check (recording : Recording key trace)
    (isCheck : isLockCheck key event.1 = true) : finalChecks key (event :: trace) = [event] := by
  simp [finalChecks, recording.inside, recording.unchecked, isCheck]

/-- From the audit entry to the final check. -/
structure Recorded (site : Site) (attempt : Attempt) (success : Bool) (trace : List Event) :
    Prop where
  recording : Recording (attempt.lock site) trace
  audited : Audited attempt success trace
  authentic : success = true → matched trace = true

theorem Recorded.cons {site : Site} {attempt : Attempt} {success : Bool}
    (recorded : Recorded site attempt success trace)
    (isOther : isLockCheck (attempt.lock site) event.1 = false) :
    Recorded site attempt success (event :: trace) where
  recording := recorded.recording.cons isOther
  audited := recorded.audited.cons
  authentic isSuccess := matched_cons_of (recorded.authentic isSuccess)

end Traces

/-! ## The services -/

section Services

variable {site : Site} {attempt : Attempt} {trace : List Event} {key : String}

theorem valkey_meets {command : Security.Call}
    {post : Except Failure (Value command) → List Event → Prop}
    (allows : allowed site attempt trace (.valkey command))
    (done : ∀ value, post (.ok value) (⟨.valkey command, .done value⟩ :: trace))
    (failed : ∀ reply : Security.Reply command, (∀ value, reply ≠ .done value) →
      post (.error .other) (⟨.valkey command, reply⟩ :: trace)) :
    (execute (.valkey command) (Write.result .other) : Service (Value command)).Meets
      (discipline site attempt) post trace := by
  rw [execute, Program.meets_attempt]
  refine ⟨allows, fun reply _ => ?_⟩
  cases reply with
  | done value => exact done value
  | integrityError => exact failed _ (by simp)
  | failed => exact failed _ (by simp)
  | unacknowledged value => exact failed _ (by simp)

theorem isLocked_meets (maxAttempts : Nat) {post : Except Failure Bool → List Event → Prop}
    (allows : allowed site attempt trace (.valkey (.get key)))
    (read : ∀ count : Option Nat, post (.ok (count.any (maxAttempts ≤ ·)))
      (⟨.valkey (.get key), .done count⟩ :: trace))
    (raised : ∀ reply, post (.error .app) (⟨.valkey (.get key), reply⟩ :: trace)) :
    (lift (isLocked key maxAttempts)).Meets (discipline site attempt) post trace := by
  rw [isLocked, lift_orUnavailable, lift_bind, Program.meets_tryCatch, Program.meets_bind,
    lift_execute]
  exact valkey_meets allows read fun reply _ => raised reply

theorem getRemainingSeconds_meets {post : Except Failure Int → List Event → Prop}
    (returns : ∀ value reply, post (.ok value) (⟨.valkey (.ttl key), reply⟩ :: trace)) :
    (lift (getRemainingSeconds key)).Meets (discipline site attempt) post trace := by
  rw [getRemainingSeconds, lift_exceptReturn, lift_bind, Program.meets_tryCatch,
    Program.meets_bind, lift_execute]
  exact valkey_meets trivial (fun value => returns _ _) fun reply _ => returns _ reply

/-- Counting up the failures or the lock leaves the `INCR` and perhaps its `EXPIRE`. -/
theorem countUp_meets {windowSeconds : Nat} {post : Except Failure Nat → List Event → Prop}
    (allows : allowed site attempt trace (.valkey (.incr key)))
    (sets : ∀ reply, allowed site attempt (⟨.valkey (.incr key), reply⟩ :: trace)
      (.valkey (.expire key windowSeconds)))
    (counted : ∀ count later, ⟨.valkey (.incr key), .done count⟩ :: trace = later ∨
      (∃ reply, ⟨.valkey (.expire key windowSeconds), reply⟩ ::
        ⟨.valkey (.incr key), .done count⟩ :: trace = later) → post (.ok count) later)
    (failed : ∀ reply later, ⟨.valkey (.incr key), reply⟩ :: trace = later ∧
        (∀ count, reply ≠ .done count) ∨
      (∃ count reply', reply = .done count ∧ (∀ value, reply' ≠ .done value) ∧
        ⟨.valkey (.expire key windowSeconds), reply'⟩ ::
          ⟨.valkey (.incr key), reply⟩ :: trace = later) → post (.error .other) later) :
    (lift (countUp key windowSeconds)).Meets (discipline site attempt) post trace := by
  rw [countUp, lift_bind, Program.meets_bind, lift_execute]
  refine valkey_meets allows (fun count => ?_) fun reply lost =>
    failed reply _ (Or.inl ⟨rfl, lost⟩)
  simp only
  by_cases first : count = 1
  · rw [if_pos first, lift_bind, Program.meets_bind, lift_execute]
    refine valkey_meets (sets _) (fun value => ?_) fun reply lost =>
      failed _ _ (Or.inr ⟨count, reply, rfl, lost, rfl⟩)
    exact counted count _ (Or.inr ⟨_, rfl⟩)
  · rw [if_neg first]
    exact counted count _ (Or.inl rfl)

theorem cooldownRemainingSeconds_meets {post : Except Failure Int → List Event → Prop}
    (outside : Outside trace)
    (admitted : ∀ later, Outside later →
      AdmittedByCount site attempt later ∨ AdmittedBySlot site attempt later → post (.ok 0) later)
    (refused : ∀ seconds later, seconds ≠ 0 → Outside later → later.all (!reserves ·) = true →
      post (.ok seconds) later)
    (unreserved : trace.all (!reserves ·) = true)
    (raised : ∀ later, post (.error .app) later) :
    (lift (cooldownRemainingSeconds site.settings attempt.email)).Meets
      (discipline site attempt) post trace := by
  rw [cooldownRemainingSeconds, lift_orUnavailable, Program.meets_tryCatch, lift_bind,
    Program.meets_bind, lift_execute]
  refine valkey_meets ?_ (fun failures => ?_) fun reply _ => raised _
  · simp only [allowed, outside.outside, Bool.false_eq_true, if_false]
    exact Or.inr rfl
  · have outside₁ := outside.valkey (.get (attempt.failures site)) (.done failures)
    simp only
    split
    · rename_i below
      exact admitted _ outside₁ (Or.inl ⟨failures, List.mem_cons_self, below⟩)
    · rename_i reached
      rw [lift_bind, Program.meets_bind, lift_execute]
      refine valkey_meets ⟨outside₁.outside, rfl, rfl, ?_⟩ (fun taken => ?_) fun reply _ => raised _
      · cases isCount : failures with
        | none => simp [isCount] at reached
        | some count => exact ⟨count, List.mem_cons_self⟩
      · have outside₂ := outside₁.valkey (.setNx (attempt.cooldown site)
          site.settings.loginAccountCooldownSeconds) (.done taken)
        cases taken with
        | true => exact admitted _ outside₂ (Or.inr List.mem_cons_self)
        | false =>
          simp only [Bool.false_eq_true, if_false]
          rw [lift_bind, Program.meets_bind, lift_execute]
          refine valkey_meets trivial (fun ttl => ?_) fun reply _ => raised _
          refine refused _ _ ?_ (outside₂.valkey _ _) ?_
          · omega
          · simpa [reserves] using unreserved

/-- How `login` ends, on what its attempt at it made of the credentials. -/
theorem login_ends {post : Except Failure Bool → List Event → Prop}
    (returns : ∀ success later, Recording (attempt.lock site) later →
      (success = true → matched later = true) → post (.ok success) later)
    (raised : ∀ later, post (.error .app) later) (result : Except Failure Bool)
    {later : List Event} (recording : Recording (attempt.lock site) later) :
    (result = .ok true → matched later = true) → (match result with
      | .ok success => post (.ok success) later
      | .error failure => (match failure with
          | .app => throw .app
          | .other => return false : Service Bool).Meets (discipline site attempt) post later) := by
  intro authentic
  cases result with
  | ok success =>
    exact returns success later recording fun isSuccess => authentic (by rw [isSuccess])
  | error failure =>
    cases failure with
    | app => exact raised later
    | other => exact returns false later recording fun isTrue => by cases isTrue

/-- The login service enters, whatever it returns, unless it raises. -/
theorem login_meets {post : Except Failure Bool → List Event → Prop} (outside : Outside trace)
    (admitted : AdmittedByCount site attempt trace ∨ AdmittedBySlot site attempt trace)
    (named : attempt.email.isEmpty = false) (given : attempt.password.isEmpty = false)
    (returns : ∀ success later, Recording (attempt.lock site) later →
      (success = true → matched later = true) → post (.ok success) later)
    (raised : ∀ later, post (.error .app) later) :
    (login attempt.email attempt.password).Meets (discipline site attempt) post trace := by
  have fails (failure : Failure) {later : List Event}
      (recording : Recording (attempt.lock site) later) :=
    login_ends returns raised (.error failure) recording fun isOk => by cases isOk
  have refuses {later : List Event} (recording : Recording (attempt.lock site) later) :=
    login_ends returns raised (.ok false) recording fun isOk => by cases isOk
  rw [login, Program.meets_tryCatch]
  simp only [named, given, Bool.or_self, Bool.false_eq_true, if_false]
  rw [Program.meets_bind, execute, Program.meets_attempt]
  refine ⟨⟨outside.outside, admitted⟩, fun found _ => ?_⟩
  have recording₁ : Recording (attempt.lock site)
      (⟨.getByEmail attempt.email, found⟩ :: trace) := by
    refine ⟨rfl, ?_⟩
    rw [finalChecks_cons_of_ne rfl, finalChecks_of_outside outside.outside]
  cases found with
  | error failure => exact fails failure recording₁
  | ok user =>
    simp only [id_eq]
    rw [Program.meets_bind, execute, Program.meets_attempt]
    refine ⟨⟨rfl, by simpa [isVerification] using outside.unverified⟩, fun verified _ => ?_⟩
    have recording₂ : Recording (attempt.lock site) (⟨.verifyPassword attempt.password
        (user.bind Account.hashedPassword), verified⟩ :: _) := recording₁.cons rfl
    cases verified with
    | error failure => exact fails failure recording₂
    | ok passwordMatches =>
      cases user with
      | none => exact refuses recording₂
      | some user =>
        simp only [id_eq]
        split
        · exact refuses recording₂
        · split
          · exact refuses recording₂
          · split
            · exact refuses recording₂
            · rename_i right
              obtain rfl : passwordMatches = true := by simpa using right
              rw [Program.meets_bind, execute, Program.meets_attempt]
              refine ⟨rfl, fun updated _ => ?_⟩
              have recording₃ : Recording (attempt.lock site)
                  (⟨.updateLastLogin user.id, updated⟩ :: _) := recording₂.cons rfl
              cases isResult : updated.result Failure.other with
              | error failure => exact fails failure recording₃
              | ok value =>
                simp only
                rw [Program.meets_bind, execute, Program.meets_attempt]
                refine ⟨rfl, fun created _ => ?_⟩
                have recording₄ : Recording (attempt.lock site)
                    (⟨.createTokens attempt.email, created⟩ :: _) := recording₃.cons rfl
                cases created with
                | error failure => exact fails failure recording₄
                | ok tokens =>
                  simp only [id_eq]
                  rw [Program.meets_bind, perform, Program.meets_perform]
                  refine ⟨rfl, fun _ _ => ?_⟩
                  exact login_ends returns raised (.ok true) (recording₄.cons rfl) fun _ => rfl

theorem lockKey_ne_failuresKey (email clientIp email' : String) :
    lockKey site email clientIp ≠ failuresKey site.settings email' :=
  append_ne_append 6 'l' 'a' (by decide) (by decide) (by decide) _ _

theorem lockKey_ne_cooldownKey (email clientIp email' : String) :
    lockKey site email clientIp ≠ cooldownKey site.settings email' :=
  append_ne_append 6 'l' 'a' (by decide) (by decide) (by decide) _ _

theorem failuresKey_ne_cooldownKey (settings : Settings) (email email' : String) :
    failuresKey settings email ≠ cooldownKey settings email' :=
  append_ne_append 14 'f' 'c' (by decide) (by decide) (by decide) _ _

theorem lock_ne_failures : attempt.lock site ≠ attempt.failures site :=
  lockKey_ne_failuresKey _ _ _

theorem lock_ne_cooldown : attempt.lock site ≠ attempt.cooldown site :=
  lockKey_ne_cooldownKey _ _ _

theorem failures_ne_cooldown : attempt.failures site ≠ attempt.cooldown site :=
  failuresKey_ne_cooldownKey _ _ _

theorem isLockCheck_failures :
    isLockCheck (attempt.lock site) (.valkey (.incr (attempt.failures site))) = false := by
  have differs : attempt.lock site ≠ attempt.failures site := lock_ne_failures
  simpa [isLockCheck] using differs.symm

theorem recordFailure_meets {success : Bool} {post : Except Failure Bool → List Event → Prop}
    (recorded : Recorded site attempt success trace)
    (returns : ∀ crossed later, Recorded site attempt success later → post (.ok crossed) later) :
    (lift (recordFailure site.settings attempt.email)).Meets (discipline site attempt) post
      trace := by
  have counting (reply : Security.Reply (.incr (attempt.failures site))) :
      Recorded site attempt success
        (⟨.valkey (.incr (attempt.failures site)), reply⟩ :: trace) :=
    recorded.cons isLockCheck_failures
  have expiring (reply) (reply' : Security.Reply (.expire (attempt.failures site)
      site.settings.loginAccountFailureWindowSeconds)) :
      Recorded site attempt success
        (⟨.valkey (.expire (attempt.failures site)
          site.settings.loginAccountFailureWindowSeconds), reply'⟩ ::
            ⟨.valkey (.incr (attempt.failures site)), reply⟩ :: trace) :=
    (counting reply).cons rfl
  rw [recordFailure, lift_exceptReturn, Program.meets_tryCatch, lift_bind, Program.meets_bind]
  refine countUp_meets ⟨recorded.recording.inside, Or.inl rfl⟩
    (fun reply => ⟨(counting reply).recording.inside, Or.inl rfl⟩) ?_ ?_
  · rintro count later (rfl | ⟨reply, rfl⟩)
    · exact returns _ _ (counting _)
    · exact returns _ _ (expiring _ _)
  · rintro reply later (⟨rfl, -⟩ | ⟨count, reply', -, -, rfl⟩)
    · exact returns _ _ (counting _)
    · exact returns _ _ (expiring _ _)

theorem reset_meets {post : Except Failure Unit → List Event → Prop}
    (recorded : Recorded site attempt true trace)
    (returns : ∀ later, Recorded site attempt true later → post (.ok ()) later) :
    (lift (reset site.settings attempt.email)).Meets (discipline site attempt) post trace := by
  rw [reset, lift_exceptReturn, Program.meets_tryCatch, lift_execute]
  refine valkey_meets (Or.inl ⟨recorded.authentic rfl, rfl⟩) (fun value => ?_) fun reply _ => ?_
  · exact returns _ (recorded.cons rfl)
  · exact returns _ (recorded.cons rfl)

theorem checkAndRecordAction_success {post : Except Failure Bool → List Event → Prop}
    (recorded : Recorded site attempt true trace)
    (passed : ∀ later, Passed site attempt later → post (.ok true) later)
    (refused : ∀ later, Refused site attempt later → post (.ok false) later)
    (raised : ∀ later, post (.error .app) later) :
    (lift (checkAndRecordAction (attempt.lock site) true site.maxFailedLoginAttemptsPerIp
      site.loginLockoutTimePerIp)).Meets (discipline site attempt) post trace := by
  have recording := recorded.recording
  unfold checkAndRecordAction
  simp only [if_true]
  rw [lift_bind, Program.meets_bind]
  refine isLocked_meets _ ?_ (fun count => ?_) fun reply => raised _
  · simp only [allowed, recording.inside, if_true]
    exact ⟨trivial, recording.unchecked, recorded.audited⟩
  · have checked : finalChecks (attempt.lock site)
        (⟨.valkey (.get (attempt.lock site)), .done count⟩ :: trace) =
          [⟨.valkey (.get (attempt.lock site)), .done count⟩] :=
      recording.check (by simp [isLockCheck])
    cases found : count.any (site.maxFailedLoginAttemptsPerIp ≤ ·) with
    | true =>
      have isRefusal : refuses site.maxFailedLoginAttemptsPerIp
          ⟨.valkey (.get (attempt.lock site)), .done count⟩ = true := found
      exact refused _ (Or.inl ⟨_, by rw [checked]; exact List.mem_cons_self, isRefusal⟩)
    | false =>
      simp only [Bool.false_eq_true, if_false]
      have below : Passed site attempt
          (⟨.valkey (.get (attempt.lock site)), .done count⟩ :: trace) :=
        ⟨count, checked, found⟩
      rw [lift_bind, Program.meets_bind, resetFailedAttempts, lift_exceptReturn,
        Program.meets_tryCatch, lift_execute]
      refine valkey_meets (Or.inr ⟨rfl, below⟩) (fun value => ?_) fun reply _ => ?_
      · exact passed _ ⟨count, by rw [finalChecks_cons_of_ne rfl, checked], found⟩
      · exact passed _ ⟨count, by rw [finalChecks_cons_of_ne rfl, checked], found⟩

theorem checkAndRecordAction_failure {post : Except Failure Bool → List Event → Prop}
    (recorded : Recorded site attempt false trace)
    (counted : ∀ count later, count ≤ site.maxFailedLoginAttemptsPerIp →
      ⟨.valkey (.incr (attempt.lock site)), .done count⟩ ∈ later → post (.ok true) later)
    (refused : ∀ later, entered later = true → Refused site attempt later →
      post (.ok false) later) :
    (lift (checkAndRecordAction (attempt.lock site) false site.maxFailedLoginAttemptsPerIp
      site.loginLockoutTimePerIp)).Meets (discipline site attempt) post trace := by
  have recording := recorded.recording
  have checked (reply : Security.Reply (.incr (attempt.lock site))) :
      finalChecks (attempt.lock site) (⟨.valkey (.incr (attempt.lock site)), reply⟩ :: trace) =
        [⟨.valkey (.incr (attempt.lock site)), reply⟩] :=
    recording.check (by simp [isLockCheck])
  have inside (reply : Security.Reply (.incr (attempt.lock site))) :
      entered (⟨.valkey (.incr (attempt.lock site)), reply⟩ :: trace) = true :=
    entered_cons_of recording.inside
  have ends (count : Nat) (later : List Event)
      (isLater : finalChecks (attempt.lock site) later =
        [⟨.valkey (.incr (attempt.lock site)), .done count⟩])
      (member : ⟨.valkey (.incr (attempt.lock site)), .done count⟩ ∈ later)
      (entered' : entered later = true) :
      post (.ok (decide (count ≤ site.maxFailedLoginAttemptsPerIp))) later := by
    by_cases few : count ≤ site.maxFailedLoginAttemptsPerIp
    · rw [decide_eq_true few]
      exact counted count later few member
    · rw [decide_eq_false few]
      refine refused later entered' (Or.inl ⟨_, by rw [isLater]; exact List.mem_cons_self, ?_⟩)
      simpa [refuses] using Nat.lt_of_not_le few
  unfold checkAndRecordAction
  simp only [Bool.false_eq_true, if_false]
  rw [lift_exceptReturn, Program.meets_tryCatch, lift_bind, Program.meets_bind]
  refine countUp_meets ⟨recording.inside, Or.inr ⟨rfl, recording.unchecked, recorded.audited⟩⟩
    (fun reply => ⟨inside reply, Or.inr ⟨rfl, recorded.audited.cons⟩⟩) ?_ ?_
  · rintro count later (rfl | ⟨reply, rfl⟩)
    · exact ends count _ (checked _) List.mem_cons_self (inside _)
    · refine ends count _ ?_ (List.mem_cons_of_mem _ List.mem_cons_self)
        (entered_cons_of (inside _))
      rw [finalChecks_cons_of_ne rfl, checked]
  · rintro reply later (⟨rfl, lost⟩ | ⟨count, reply', rfl, lost, rfl⟩)
    · refine refused _ (inside _) (Or.inl ⟨_, by rw [checked]; exact List.mem_cons_self, ?_⟩)
      cases reply with
      | done count => exact absurd rfl (lost count)
      | _ => rfl
    · refine refused _ (entered_cons_of (inside _)) (Or.inr ⟨_, List.mem_cons_self, ?_⟩)
      cases reply' with
      | done value => exact absurd rfl (lost value)
      | _ => exact beq_self_eq_true _

theorem refused_cons {event : Event} (isOther : isLockCheck (attempt.lock site) event.1 = false)
    (refused : Refused site attempt trace) : Refused site attempt (event :: trace) := by
  rcases refused with ⟨check, member, isRefusal⟩ | ⟨unset, member, isUnset⟩
  · exact Or.inl ⟨check, by rw [finalChecks_cons_of_ne isOther]; exact member, isRefusal⟩
  · exact Or.inr ⟨unset, List.mem_cons_of_mem _ member, isUnset⟩

theorem conclude_meets (success : Bool) (recorded : Recorded site attempt success trace) :
    (conclude site attempt.email attempt.clientIp success).Meets (discipline site attempt)
      (Answered site attempt) trace := by
  have throttles (later : List Event) (refused : Refused site attempt later) :
      (do
        perform (.logSecurityEvent ⟨.loginIpLocked, attempt.email, false⟩)
        perform (.captureSecurityAlert .loginIpLocked)
        return lockoutResponse (← lift (getRemainingSeconds (attempt.lock site))) :
          Service Response).Meets (discipline site attempt) (Answered site attempt) later := by
    rw [Program.meets_bind, perform, Program.meets_perform]
    refine ⟨fun absurdity => absurd absurdity (by simp), fun _ _ => ?_⟩
    simp only
    rw [Program.meets_bind, perform, Program.meets_perform]
    refine ⟨trivial, fun _ _ => ?_⟩
    simp only
    rw [Program.meets_bind]
    refine getRemainingSeconds_meets fun value reply => ?_
    exact Or.inr (refused_cons rfl (refused_cons rfl (refused_cons rfl refused)))
  rw [conclude, Program.meets_bind]
  cases success with
  | true =>
    refine checkAndRecordAction_success recorded (fun later passed => ?_)
      (fun later refused => throttles later refused) fun later => trivial
    exact passed
  | false =>
    refine checkAndRecordAction_failure recorded (fun count later few counted => ?_)
      fun later _ refused => throttles later refused
    exact ⟨count, few, counted⟩

theorem recordOutcome_meets (success : Bool) (recording : Recording (attempt.lock site) trace)
    (authentic : success = true → matched trace = true) :
    (recordOutcome site attempt.email attempt.clientIp success).Meets (discipline site attempt)
      (Answered site attempt) trace := by
  rw [recordOutcome, Program.meets_bind, perform, Program.meets_perform]
  refine ⟨authentic, fun _ _ => ?_⟩
  have recorded : Recorded site attempt success
      (⟨.logSecurityEvent (attempt.outcome success), ()⟩ :: trace) :=
    ⟨recording.cons rfl, ⟨_, List.mem_cons_self, rfl⟩, fun right => matched_cons_of (authentic right)⟩
  cases success with
  | true =>
    simp only [if_true]
    rw [Program.meets_bind]
    exact reset_meets recorded fun later recorded₂ => conclude_meets true recorded₂
  | false =>
    simp only [Bool.false_eq_true, if_false]
    rw [Program.meets_bind]
    refine recordFailure_meets recorded fun crossed later recorded₂ => ?_
    cases crossed with
    | false => exact conclude_meets false recorded₂
    | true =>
      simp only [if_true]
      rw [Program.meets_bind, perform, Program.meets_perform]
      refine ⟨fun absurdity => absurd absurdity (by simp), fun _ _ => ?_⟩
      simp only
      rw [Program.meets_bind, perform, Program.meets_perform]
      refine ⟨trivial, fun _ _ => ?_⟩
      exact conclude_meets false ((recorded₂.cons rfl).cons rfl)

theorem handleLogin_meets (site : Site) (attempt : Attempt) :
    (handleLogin site attempt.email attempt.password attempt.clientIp).Meets
      (discipline site attempt) (Answered site attempt) [] := by
  have outside : Outside [] := ⟨rfl, rfl⟩
  rw [handleLogin, Program.meets_tryCatch]
  cases missing : attempt.email.isEmpty || attempt.password.isEmpty with
  | true =>
    simp only [if_true]
    trivial
  | false =>
    obtain ⟨named, given⟩ := Bool.or_eq_false_iff.mp missing
    simp only [Bool.false_eq_true, if_false]
    rw [Program.meets_bind]
    refine isLocked_meets _ (Or.inl rfl) (fun count => ?_) fun reply => trivial
    have outside₁ := outside.valkey (.get (attempt.lock site)) (.done count)
    simp only
    split
    · rw [Program.meets_bind, perform, Program.meets_perform]
      refine ⟨fun absurdity => absurd absurdity (by simp), fun _ _ => ?_⟩
      simp only
      rw [Program.meets_bind]
      refine getRemainingSeconds_meets fun value reply => ?_
      exact Or.inl ⟨rfl, rfl⟩
    · rw [Program.meets_bind]
      refine cooldownRemainingSeconds_meets outside₁ (fun later outside₂ admitted => ?_)
        (fun seconds later positive outside₂ unreserved => ?_) rfl fun later => trivial
      · simp only [ne_eq, not_true_eq_false, if_false]
        rw [Program.meets_bind]
        refine login_meets outside₂ admitted named given
          (fun success later recording authentic => ?_) fun later => trivial
        refine (recordOutcome_meets success recording authentic).mono fun result last _ answered => ?_
        cases result with
        | ok response => exact answered
        | error failure => cases failure <;> trivial
      · simp only [ne_eq, positive, not_false_eq_true, if_true]
        exact Or.inl ⟨outside₂.outside, unreserved⟩

theorem server_obeys (site : Site) :
    (server site).Obeys (discipline site) (Answered site) where
  programs := handleLogin_meets site
  answers _ _ _ _ _ _ := trivial

end Services

end MysticAuth.Login
