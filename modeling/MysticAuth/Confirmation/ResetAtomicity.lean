import MysticAuth.Confirmation.ResetLinks

/-!
# A failed reset gives its link back

A reset consumes its link before it knows whether it can write the password.
Every refusal and an overload restore it; any other exception does not.
-/

set_option autoImplicit false

namespace MysticAuth.PasswordReset

open Interleaving OAuth

/-! ## Links that can be used again -/

/-- The token is verified, and the script that consumes it succeeds. -/
structure Redeemable (site : Site) (store : Store) (token : ResetToken) : Prop where
  verified : (site.genuine token && !store.expired token && !token.email.isEmpty) = true
  outstanding : ∃ jti, token.jti = some jti ∧ store.marked jti = true ∧
    store.activeJti (site.keys.activeTokenKey token.email) = some jti

/-- The call returns failure, or raises. -/
def Refused : Except Failure (Bool × Option Bool) → Prop
  | .ok (success, _) => success = false
  | .error _ => True

def RefusedResponse : Except Failure Response → Prop
  | .ok (.reset success _) => success = false
  | .ok (.sent _) => False
  | .error _ => True

/-- A new password is written. -/
def wrote (event : Event) : Prop :=
  match event with
  | ⟨.updateByEmail _ _, .ok true⟩ => True
  | _ => False

/-- The request had consumed its link, and has returned a failure or raised without having written
a password. -/
structure FailsAfterConsuming (site : Site) (config : Server) (thread : Nat) (token : ResetToken) :
    Prop where
  request : ∃ newPassword, requestOf config thread = some (.resetPassword token newPassword)
  refused : ∃ result, (config.threads[thread]?).bind Thread.result = some result ∧
    RefusedResponse result
  consumed : ∃ jti, token.jti = some jti ∧
    ⟨.consumeResetToken (site.keys.activeTokenKey token.email) jti, .ok true⟩ ∈ config.trace thread
  unwritten : ∀ event ∈ config.trace thread, ¬ wrote event

/-- The token can be redeemed until its last second, if nothing but time intervenes. -/
def RedeemableAgain (site : Site) (store : Store) (token : ResetToken) : Prop :=
  ∀ exp micros, token.exp = some exp → store.now + micros + microsPerSecond ≤ exp →
    Redeemable site { store with now := store.now + micros } token

/-- What a call between the consumption and the end of the request raises. -/
def raised (event : Event) : Option Failure :=
  match event with
  | ⟨.getByEmail _, .error failure⟩ => some failure
  | ⟨.verifyPassword _ _, .error failure⟩ => some failure
  | ⟨.hashPassword _, .error failure⟩ => some failure
  | ⟨.updateByEmail _ _, .error failure⟩ => some failure
  | ⟨.restoreResetToken _ _ _, .error failure⟩ => some failure
  | _ => none

/-- While the request holds its link nothing is raised but an overload, and where it restores it
the account has no other link.  Other requests are not restricted. -/
structure GivesBack (thread : Nat) (config : Server) (actor : Nat) (event : Event) : Prop where
  unbroken : actor = thread → ∀ key jti, Holding (config.trace thread) key jti →
    ∀ failure, raised event = some failure → failure = .app
  free : actor = thread → ∀ key jti remaining, event.1 = .restoreResetToken key jti remaining →
    ∀ other, config.state.activeJti key = some other → other = jti

/-! ## How a request ends -/

/-- Something else was raised while the request held its link. -/
def Faulted (key : String) (jti : Nat) (trace : List Event) : Prop :=
  ∃ event earlier failure, event :: earlier <:+ trace ∧ Holding earlier key jti ∧
    raised event = some failure ∧ failure ≠ .app

/-- The last thing done was to restore the link, or to find that its last second has begun. -/
def PutBack (site : Site) (token : ResetToken) (jti : Nat) (trace : List Event) : Prop :=
  ∀ exp, token.exp = some exp → ∃ now earlier,
    (exp - now) / microsPerSecond = 0 ∧ trace = ⟨.currentTime, now⟩ :: earlier ∨
      ∃ reply, trace = ⟨.restoreResetToken (site.keys.activeTokenKey token.email) jti
        ((exp - now) / microsPerSecond), reply⟩ :: ⟨.currentTime, now⟩ :: earlier

/-- Without a written password, a refusal has gone wrong or put the link back, or is an
overload. -/
def Resolved (site : Site) (token : ResetToken) (jti : Nat)
    (result : Except Failure (Bool × Option Bool)) (trace : List Event) : Prop :=
  Refused result → (∀ event ∈ trace, ¬ wrote event) →
    Faulted (site.keys.activeTokenKey token.email) jti trace ∨ PutBack site token jti trace ∨
      result = .error .app

section Programs

variable {site : Site} {request : Request} {token : ResetToken} {trace : List Event} {jti : Nat}

theorem restoreToken_putsBack {post : Except Failure Unit → List Event → Prop}
    (holding : Holding trace (site.keys.activeTokenKey token.email) jti)
    (returns : ∀ result later, PutBack site token jti later → post result later) :
    (restoreToken site token jti).Meets (discipline site request) post trace := by
  unfold restoreToken
  split
  · rename_i missing
    apply returns
    intro exp isExp
    rw [missing] at isExp
    cases isExp
  · rename_i exp isExp
    have only (exp' : Nat) (isExp' : token.exp = some exp') : exp' = exp :=
      Option.some.inj (isExp'.symm.trans isExp)
    rw [Program.meets_bind, perform, Program.meets_perform]
    refine ⟨trivial, fun now _ => ?_⟩
    simp only
    split
    · rw [Program.meets_bind, execute, Program.meets_attempt]
      refine ⟨holding.cons id id, fun reply _ => ?_⟩
      have restored : PutBack site token jti
          (⟨.restoreResetToken (site.keys.activeTokenKey token.email) jti
            ((exp - now) / microsPerSecond), reply⟩ :: ⟨.currentTime, now⟩ :: trace) := by
        intro exp' isExp'
        rw [only exp' isExp']
        exact ⟨now, trace, Or.inr ⟨reply, rfl⟩⟩
      cases reply with
      | ok done => exact returns _ _ restored
      | error failure => exact returns _ _ restored
    · rename_i last
      apply returns
      intro exp' isExp'
      rw [only exp' isExp']
      exact ⟨now, trace, Or.inl ⟨Nat.eq_zero_of_not_pos last, rfl⟩⟩

theorem failRestored_resolved
    (holding : Holding trace (site.keys.activeTokenKey token.email) jti) :
    (failRestored site token jti).Meets (discipline site request) (Resolved site token jti)
      trace := by
  rw [failRestored, Program.meets_bind]
  apply restoreToken_putsBack holding
  intro result later back
  cases result with
  | ok value => exact fun _ _ => Or.inr (Or.inl back)
  | error failure => exact fun _ _ => Or.inr (Or.inl back)

/-- What a call raises is an overload, or a fault. -/
theorem resolved_of_raised {call : Call} {reply : Reply call} {failure : Failure}
    (holding : Holding trace (site.keys.activeTokenKey token.email) jti)
    (raises : raised ⟨call, reply⟩ = some failure) :
    Resolved site token jti (.error failure) (⟨call, reply⟩ :: trace) := by
  intro _ _
  by_cases overload : failure = .app
  · exact Or.inr (Or.inr (by rw [overload]))
  · exact Or.inl ⟨_, trace, failure, List.suffix_refl _, holding, raises, overload⟩

theorem isSamePassword_resolved (user : Account) (newPassword : String)
    {post : Except Failure Bool → List Event → Prop}
    (holding : Holding trace (site.keys.activeTokenKey token.email) jti)
    (fails : ∀ failure later, Resolved site token jti (.error failure) later →
      post (.error failure) later)
    (next : ∀ same later, Holding later (site.keys.activeTokenKey token.email) jti →
      post (.ok same) later) :
    (isSamePassword user newPassword).Meets (discipline site request) post trace := by
  unfold isSamePassword
  split
  · rw [execute, Program.meets_attempt]
    refine ⟨trivial, fun result _ => ?_⟩
    cases result with
    | ok same => exact next same _ (holding.cons id id)
    | error failure => exact fails failure _ (resolved_of_raised holding rfl)
  · exact next false trace holding

/-- Once the password is written, whatever becomes of the revocation. -/
theorem written_resolved {result : Except Failure (Bool × Option Bool)} {email : String}
    {hashed : String} (written : ⟨.updateByEmail email hashed, .ok true⟩ ∈ trace) :
    Resolved site token jti result trace :=
  fun _ unwritten => (unwritten ⟨.updateByEmail email hashed, .ok true⟩ written trivial).elim

theorem writePassword_resolved (newPassword : String)
    (presents : Presents site request (site.keys.activeTokenKey token.email) jti)
    (holding : Holding trace (site.keys.activeTokenKey token.email) jti) :
    (writePassword site token jti newPassword).Meets (discipline site request)
      (Resolved site token jti) trace := by
  unfold writePassword
  split
  · exact failRestored_resolved holding
  · rw [Program.meets_bind, execute, Program.meets_attempt]
    refine ⟨trivial, fun found _ => ?_⟩
    have holding₁ : Holding (⟨.getByEmail token.email, found⟩ :: trace)
        (site.keys.activeTokenKey token.email) jti := holding.cons id id
    cases found with
    | error failure => exact resolved_of_raised holding rfl
    | ok found =>
      cases found with
      | none => exact failRestored_resolved holding₁
      | some user =>
        simp only [id_eq]
        rw [Program.meets_bind]
        refine isSamePassword_resolved user newPassword holding₁ (fun _ _ resolved => resolved)
          fun same later holding₂ => ?_
        cases same with
        | true => exact failRestored_resolved holding₂
        | false =>
          simp only [Bool.false_eq_true, if_false]
          rw [Program.meets_bind, execute, Program.meets_attempt]
          refine ⟨trivial, fun hashed _ => ?_⟩
          have holding₃ : Holding (⟨.hashPassword newPassword, hashed⟩ :: later)
              (site.keys.activeTokenKey token.email) jti := holding₂.cons id id
          cases hashed with
          | error failure => exact resolved_of_raised holding₂ rfl
          | ok hashedPassword =>
            simp only [id_eq]
            rw [Program.meets_bind, execute, Program.meets_attempt]
            refine ⟨⟨_, jti, presents, holding₃⟩, fun updated _ => ?_⟩
            cases updated with
            | error failure => exact resolved_of_raised holding₃ rfl
            | ok updated =>
              cases updated with
              | false => exact failRestored_resolved (holding₃.cons id id)
              | true =>
                simp only [id_eq, if_true]
                rw [Program.meets_bind]
                refine (confirmRevocation_meets token.email fun _ _ _ => trivial).mono
                  fun result last longer _ => ?_
                have written := longer.subset List.mem_cons_self
                cases result <;> exact written_resolved written

/-- What is left when the request returns. -/
def Concluded (site : Site) (token : ResetToken) (refused : Prop) (trace : List Event) : Prop :=
  ∀ jti, token.jti = some jti →
    ⟨.consumeResetToken (site.keys.activeTokenKey token.email) jti, .ok true⟩ ∈ trace →
      refused → (∀ event ∈ trace, ¬ wrote event) →
        ⟨.verifyResetToken token, some token⟩ ∈ trace ∧
          (Faulted (site.keys.activeTokenKey token.email) jti trace ∨ PutBack site token jti trace)

/-- A link that was not consumed here leaves nothing to show. -/
theorem concluded_of_missed (isJti : token.jti = some jti)
    (result : Except Failure (Bool × Option Bool)) {reply : Except Failure Bool}
    (missed : reply ≠ .ok true) :
    Concluded site token (Refused result)
      [⟨.consumeResetToken (site.keys.activeTokenKey token.email) jti, reply⟩,
        ⟨.verifyResetToken token, some token⟩] := by
  intro other isOther member
  obtain rfl := Option.some.inj (isOther.symm.trans isJti)
  simp only [List.mem_cons, List.not_mem_nil, or_false] at member
  rcases member with same | same
  · injection same with _ same
    exact absurd same.symm missed
  · simp at same

theorem resetPassword_concluded (newPassword : String) :
    (resetPassword site token newPassword).Meets
      (discipline site (.resetPassword token newPassword))
      (fun result trace => Concluded site token (Refused result) trace) [] := by
  rw [resetPassword, Program.meets_bind, perform, Program.meets_perform]
  refine ⟨trivial, fun verified answered => ?_⟩
  cases verified with
  | none =>
    intro jti _ consumed
    simp at consumed
  | some payload =>
    obtain rfl : payload = token := answered payload rfl
    cases isJti : payload.jti with
    | none =>
      simp only [isJti]
      intro jti isJti'
      rw [isJti] at isJti'
      cases isJti'
    | some jti =>
      simp only [isJti]
      have only (other : Nat) (isOther : payload.jti = some other) : other = jti :=
        Option.some.inj (isOther.symm.trans isJti)
      have presents : Presents site (.resetPassword payload newPassword)
          (site.keys.activeTokenKey payload.email) jti :=
        ⟨payload, newPassword, rfl, isJti, rfl⟩
      rw [Program.meets_tryCatch, redeem, Program.meets_bind, execute, Program.meets_attempt]
      refine ⟨⟨by simp [restores], by simp [consumes], by simp [writes], presents⟩,
        fun consumed answered => ?_⟩
      cases consumed with
      | error failure =>
        cases failure with
        | app => exact absurd rfl answered
        | tokenVersionUnavailable => exact concluded_of_missed isJti _ (by simp)
        | other => exact concluded_of_missed isJti _ (by simp)
      | ok consumed =>
        cases consumed with
        | false => exact concluded_of_missed isJti _ (by simp)
        | true =>
          have holding : Holding [⟨.consumeResetToken (site.keys.activeTokenKey payload.email) jti,
              .ok true⟩, ⟨.verifyResetToken payload, some payload⟩]
                (site.keys.activeTokenKey payload.email) jti :=
            ⟨List.mem_cons_self, by simp [restores], by simp [writes]⟩
          simp only [id_eq, if_true]
          refine ((writePassword_resolved newPassword presents holding).and
            (writePassword_meets newPassword presents holding)).mono
              fun result later longer both => ?_
          obtain ⟨resolved, overloaded⟩ := both
          have isVerified : ⟨.verifyResetToken payload, some payload⟩ ∈ later :=
            longer.subset (by simp)
          have otherwise (refused : Prop) (isRefused : refused → Refused result)
              (other : result ≠ .error .app) : Concluded site payload refused later := by
            intro jti' isJti' _ fails unwritten
            obtain rfl := only jti' isJti'
            rcases resolved (isRefused fails) unwritten with faulted | back | overload
            · exact ⟨isVerified, Or.inl faulted⟩
            · exact ⟨isVerified, Or.inr back⟩
            · exact absurd overload other
          cases result with
          | ok value =>
            obtain ⟨success, sessionsRevoked⟩ := value
            exact otherwise _ id (by simp)
          | error failure =>
            cases failure with
            | tokenVersionUnavailable => exact otherwise _ (fun _ => trivial) (by simp)
            | other => exact otherwise _ (fun _ => trivial) (by simp)
            | app =>
              simp only
              rw [Program.meets_bind]
              have restoring : (restoreToken site payload jti).Meets
                  (discipline site (.resetPassword payload newPassword))
                    (fun _ last => PutBack site payload jti last) later :=
                restoreToken_putsBack (overloaded rfl) fun _ _ back => back
              refine restoring.mono fun outcome last extended back => ?_
              have concluded (refused : Prop) : Concluded site payload refused last := by
                intro jti' isJti' _ _ _
                obtain rfl := only jti' isJti'
                exact ⟨extended.subset isVerified, Or.inr back⟩
              cases outcome with
              | ok value => exact concluded _
              | error failure => exact concluded _

def Returns (site : Site) (request : Request) (result : Except Failure Response)
    (trace : List Event) : Prop :=
  ∀ token newPassword, request = .resetPassword token newPassword →
    Concluded site token (RefusedResponse result) trace

theorem handle_returns (request : Request) :
    (handle site request).Meets (discipline site request) (Returns site request) [] := by
  cases request with
  | sendResetEmail email =>
    refine (handle_meets (.sendResetEmail email)).mono fun result later _ _ => ?_
    intro token newPassword other
    cases other
  | resetPassword token newPassword =>
    rw [handle, Program.meets_bind]
    refine (resetPassword_concluded newPassword).mono fun result later _ concluded => ?_
    cases result with
    | ok value =>
      obtain ⟨success, sessionsRevoked⟩ := value
      intro token' newPassword' same
      cases same
      exact concluded
    | error failure =>
      intro token' newPassword' same
      cases same
      exact concluded

theorem server_returns (site : Site) :
    (server site).Obeys (discipline site) (Returns site) where
  programs := handle_returns
  answers _ := outcomes_answer

end Programs

/-! ## The clock -/

section Clock

variable {site : Site} {permits : Server → Nat → Event → Prop} {config config' : Server}

theorem applied_now (store : Store) (call : Call) : (applied site store call).now = store.now := by
  cases call with
  | consumeResetToken key jti | restoreResetToken key jti remaining =>
    simp only [applied]
    split <;> rfl
  | _ => rfl

theorem answered_now {before after : Server} {thread : Nat} {event : Event}
    (answers : Answers (server site) permits before after thread event) :
    after.state.now = before.state.now := by
  obtain ⟨call, reply⟩ := event
  have possible : (reply, after.state) ∈ outcomes site thread call before.state := answers.possible
  rcases answered_state possible with same | same
  · rw [same]
  · rw [same, applied_now]

theorem now_along (run : Reaches (server site) permits config config') :
    config.state.now ≤ config'.state.now := by
  induction run with
  | refl => exact Nat.le_refl _
  | tail _ step ih =>
    rcases step.cases_answers with ⟨_, same | ⟨disturbance, changed⟩⟩ | ⟨thread, event, answers⟩
    · rw [same]
      exact ih
    · rw [changed]
      cases disturbance with
      | elapse micros => exact ih.trans (Nat.le_add_right _ _)
      | changeAccounts accounts => exact ih
    · rw [answered_now answers]
      exact ih

end Clock

/-! ## The link is redeemable again -/

section Runs

variable {site : Site} {start : Store} {before after : Server} {thread : Nat} {event : Event}
variable {token : ResetToken} {newPassword key : String} {jti : Nat}

theorem not_faulted (run : Reaches (server site) (GivesBack thread) (Config.start start) after) :
    ¬ Faulted key jti (after.trace thread) := by
  rintro ⟨event, earlier, failure, within, holding, raises, other⟩
  obtain ⟨before, _, _, answers, isTrace, _⟩ := run.answered within
  subst isTrace
  exact other (answers.permitted.unbroken rfl key jti holding failure raises)

/-- The clock was read before the request returned. -/
theorem read_before (run : Reaches (server site) (GivesBack thread) (Config.start start) after) {now : Nat}
    (read : ⟨.currentTime, now⟩ ∈ after.trace thread) : now ≤ after.state.now := by
  obtain ⟨earlier, later, _, answers, rest⟩ := run.answered_member read
  have isNow : now = earlier.state.now := (Prod.mk.inj (List.mem_singleton.mp answers.possible)).1
  have passed := now_along rest
  rw [answered_now answers] at passed
  omega

theorem verified_before (run : Reaches (server site) (GivesBack thread) (Config.start start) after)
    (verified : ⟨.verifyResetToken token, some token⟩ ∈ after.trace thread) :
    site.genuine token = true ∧ token.email.isEmpty = false := by
  obtain ⟨earlier, later, _, answers, _⟩ := run.answered_member verified
  obtain ⟨accepted, _⟩ := Prod.mk.inj (List.mem_singleton.mp answers.possible)
  simp only at accepted
  split at accepted
  · rename_i passed
    simp only [Bool.and_eq_true, Bool.not_eq_true'] at passed
    exact ⟨passed.1.1, passed.2⟩
  · cases accepted

/-- A restore that is neither lost nor refused sets the link. -/
theorem restored_state {remaining : Nat} {reply : Except Failure Bool}
    (run : Reaches (server site) (GivesBack thread) (Config.start start) before)
    (answers : Answers (server site) (GivesBack thread) before after thread
      ⟨.restoreResetToken key jti remaining, reply⟩) :
    after.state = before.state.setLink key jti remaining := by
  obtain ⟨request, next, running⟩ := answers.running
  have holding : Holding (before.trace thread) key jti :=
    (run.disciplined (server_obeys site) start).allows running
  have possible : (reply, after.state) ∈
      outcomes site thread (.restoreResetToken key jti remaining) before.state := answers.possible
  have free : (before.state.activeJti key).all (· == jti) = true := by
    cases isActive : before.state.activeJti key with
    | none => rfl
    | some other => simpa using answers.permitted.free rfl key jti remaining rfl other isActive
  simp only [outcomes, free, if_true] at possible
  cases reply with
  | ok done => exact (commanded_ok possible).2
  | error failure =>
    have overload := answers.permitted.unbroken rfl key jti holding failure rfl
    exact absurd (by rw [overload]) (executed_available possible)

theorem redeemable_of_entries {store : Store} {deadline : Nat} (isJti : token.jti = some jti)
    (accepted : site.genuine token = true ∧ token.email.isEmpty = false)
    (valid : store.expired token = false)
    (active : store.active (site.keys.activeTokenKey token.email) = some (jti, deadline))
    (marker : store.markers jti = some ((), deadline)) (lives : store.now < deadline) :
    Redeemable site store token where
  verified := by rw [accepted.1, accepted.2, valid]; rfl
  outstanding := ⟨jti, isJti, by simp [Store.marked, live, marker, lives],
    by simp [Store.activeJti, live, active, lives]⟩

theorem setLink_entries (store : Store) (link : String) (jti seconds : Nat) :
    ∃ deadline, deadline = store.now + seconds * microsPerSecond ∧
      (store.setLink link jti seconds).active link = some (jti, deadline) ∧
      (store.setLink link jti seconds).markers jti = some ((), deadline) :=
  ⟨_, rfl, Function.update_self .., Function.update_self ..⟩

theorem unexpired {store : Store} {exp : Nat} (isExp : token.exp = some exp)
    (valid : ¬ exp / microsPerSecond * microsPerSecond ≤ store.now) :
    store.expired token = false := by
  unfold Store.expired
  rw [isExp, Option.any_some, decide_eq_false_iff_not]
  exact valid

/-- The store differs from `later`, some time after the link was set in it, by the clock alone. -/
theorem redeemable_of_link {store later : Store} {micros exp remaining now : Nat}
    (isJti : token.jti = some jti) (isExp : token.exp = some exp)
    (accepted : site.genuine token = true ∧ token.email.isEmpty = false)
    (whole : remaining = (exp - now) / microsPerSecond) (passed : now ≤ store.now)
    (inTime : store.now + micros + microsPerSecond ≤ exp)
    (isNow : later.now = store.now + micros)
    (isActive : later.active =
      (store.setLink (site.keys.activeTokenKey token.email) jti remaining).active)
    (isMarkers : later.markers =
      (store.setLink (site.keys.activeTokenKey token.email) jti remaining).markers) :
    Redeemable site later token := by
  have second : 0 < microsPerSecond := by decide
  obtain ⟨deadline, isDeadline, active, marker⟩ :=
    setLink_entries store (site.keys.activeTokenKey token.email) jti remaining
  rw [← isActive] at active
  rw [← isMarkers] at marker
  have lives : later.now < deadline := by
    have truncated := Nat.lt_div_mul_add second (a := exp - now)
    rw [← whole] at truncated
    omega
  have valid : ¬ exp / microsPerSecond * microsPerSecond ≤ later.now := by
    have truncated := Nat.lt_div_mul_add second (a := exp)
    omega
  exact redeemable_of_entries isJti accepted (unexpired isExp valid) active marker lives

/-- A request that fails after consuming its link leaves it redeemable, in every run in which
nothing but an overload is raised in between and no other link is active where it is restored. -/
theorem failed_reset_redeemable (site : Site) (start : Store)
    (run : Reaches (server site) (GivesBack thread) (Config.start start) before)
    (answers : Answers (server site) (GivesBack thread) before after thread event)
    (fails : FailsAfterConsuming site after thread token) :
    RedeemableAgain site after.state token := by
  intro exp micros isExp inTime
  obtain ⟨⟨newPassword, isRequest⟩, ⟨result, isResult, refused⟩, ⟨jti, isJti, consumed⟩, unwritten⟩ :=
    fails
  obtain ⟨program, present, finished⟩ :=
    Config.finished_of_result after thread _ result isRequest isResult
  have whole : Reaches (server site) (GivesBack thread) (Config.start start) after :=
    Relation.ReflTransGen.tail run answers.step
  have concluded := (whole.disciplined (server_returns site) start).returned present finished
    token newPassword rfl jti isJti consumed refused unwritten
  have accepted := verified_before whole concluded.1
  rcases concluded.2 with faulted | back
  · exact absurd faulted (not_faulted whole)
  · obtain ⟨now, earlier, ending⟩ := back exp isExp
    have read : ⟨.currentTime, now⟩ ∈ after.trace thread := by
      rcases ending with ⟨_, isTrace⟩ | ⟨reply, isTrace⟩ <;> simp [isTrace]
    have passed := read_before whole read
    rcases ending with ⟨last, _⟩ | ⟨reply, isTrace⟩
    · -- The last second had begun, and it is too late for a second try.
      have truncated := Nat.lt_div_mul_add (b := microsPerSecond) (a := exp - now) (by decide)
      rw [last] at truncated
      omega
    · rw [answers.trace_self] at isTrace
      obtain ⟨rfl, _⟩ := List.cons.inj isTrace
      have state := restored_state run answers
      have sameNow := answered_now answers
      rw [sameNow] at inTime passed
      rw [sameNow, state]
      exact redeemable_of_link isJti isExp accepted rfl passed inTime rfl rfl rfl

end Runs

instance (call : Call) : DecidableEq (Reply call) := by
  cases call <;> infer_instance

/-- Ann asks for a link, and is about to have it back after a weak password. -/
def annRefused : Server :=
  (Config.start annsStore).follow (server plainSite)
    (.begin (.sendResetEmail "ann@example.com") :: Move.turns 0 5 ++
      .begin (.resetPassword (annsToken 1) "weak") :: Move.turns 1 3)

def annRestored : Server :=
  annRefused.follow (server plainSite) [.reply 1 0]

/-- Nothing at all is raised, and no link but the restored one is active. -/
def calm (config : Server) (_ : Nat) (event : Event) : Bool :=
  (raised event).isNone && match event.1 with
    | .restoreResetToken key jti _ => (config.state.activeJti key).all (· == jti)
    | _ => true

theorem givesBack_of_calm (thread : Nat) (config : Server) (actor : Nat) (event : Event)
    (passed : calm config actor event = true) : GivesBack thread config actor event := by
  simp only [calm, Bool.and_eq_true] at passed
  obtain ⟨quiet, free⟩ := passed
  constructor
  · intro _ key jti _ failure raises
    rw [raises] at quiet
    cases quiet
  · intro _ key jti remaining isRestore other isActive
    rw [isRestore] at free
    simpa [isActive] using free

def unwrittenCheck (event : Event) : Bool :=
  match event with
  | ⟨.updateByEmail _ _, .ok true⟩ => false
  | _ => true

theorem unwritten_of_check {trace : List Event} (passed : trace.all unwrittenCheck = true) :
    ∀ event ∈ trace, ¬ wrote event := by
  intro event member written
  have check := List.all_eq_true.mp passed event member
  unfold wrote at written
  split at written
  · cases check
  · exact written

theorem failed_reset_redeemable_weak : RedeemableAgain plainSite annRestored.state (annsToken 1) := by
  have run : Reaches (server plainSite) (GivesBack 1) (Config.start annsStore) annRefused :=
    Config.follow_permitted (server plainSite) calm (givesBack_of_calm 1) _ _ (by decide +kernel)
  have answers : Answers (server plainSite) (GivesBack 1) annRefused annRestored 1
      ⟨.restoreResetToken (plainSite.keys.activeTokenKey "ann@example.com") 1 1800, .ok true⟩ :=
    Config.follow_answers (server plainSite) annRefused 1 0 _
      (givesBack_of_calm 1 annRefused 1 _ (by decide +kernel)) (by decide +kernel)
  apply failed_reset_redeemable plainSite annsStore run answers
  exact ⟨⟨"weak", by decide +kernel⟩, ⟨.ok (.reset false none), by decide +kernel, rfl⟩,
    ⟨1, rfl, by decide +kernel⟩, unwritten_of_check (by decide +kernel)⟩

/-- Ann asks for a link; her reset consumes it, and the database does not answer. -/
def annBroken : Server :=
  (Config.start annsStore).follow (server plainSite)
    (.begin (.sendResetEmail "ann@example.com") :: Move.turns 0 5 ++
      .begin (.resetPassword (annsToken 1) "NewPassw0rd") :: Move.turns 1 2 ++ [.reply 1 1])

/-- No password is written and no other link is issued, and the link is gone half an hour before
it expires. -/
theorem broken_reset_loses_link :
    Reaches (server plainSite) anyCall (Config.start annsStore) annBroken ∧
      FailsAfterConsuming plainSite annBroken 1 (annsToken 1) ∧
      annBroken.history.all (fun entry => match entry.2.1 with
        | .storeResetToken _ jti _ => jti == 1
        | _ => true) = true ∧
      annBroken.state.now = 0 ∧ (annsToken 1).exp = some (1800 * microsPerSecond) ∧
      ¬ Redeemable plainSite annBroken.state (annsToken 1) := by
  refine ⟨Config.follow_reaches (server plainSite) _ _, ?_, by decide +kernel, by decide +kernel,
    rfl, ?_⟩
  · exact ⟨⟨"NewPassw0rd", by decide +kernel⟩, ⟨.ok (.reset false none), by decide +kernel, rfl⟩,
      ⟨1, rfl, by decide +kernel⟩, unwritten_of_check (by decide +kernel)⟩
  · intro redeemable
    obtain ⟨jti, isJti, marked, _⟩ := redeemable.outstanding
    obtain rfl := Option.some.inj isJti
    have unmarked : annBroken.state.marked 1 = false := by decide +kernel
    rw [unmarked] at marked
    cases marked

end MysticAuth.PasswordReset
