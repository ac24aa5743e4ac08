import MysticAuth.Confirmation.StepUp
import MysticAuth.Tokens.Lineage

/-!
# How fresh a step-up is

As long as only logins add rows to the session mirror, a chain passes the
step-up check only shortly after a login or a confirmation.  A refresh that
finds no row adds one, too, and the row counts as a login.
-/

set_option autoImplicit false

namespace MysticAuth.StepUp

open Interleaving Tokens

/-! ## Logins and confirmations -/

def isLogin : Request → Prop
  | .token (.login _ _) => True
  | .signIn _ => True
  | _ => False

/-- Signs a token of the chain, or records its session. -/
def opens (chainId : Nat) : Event → Prop
  | ⟨.token (.encode token), _⟩ => token.chain = some chainId
  | ⟨.token (.insertSession _ _ chain _), _⟩ => chain = chainId
  | _ => False

/-- A login of the chain was answered a call at the time. -/
def LoggedIn (config : Server) (chainId time : Nat) : Prop :=
  ∃ thread request program, config.threads[thread]? = some ⟨request, program⟩ ∧ isLogin request ∧
    (∃ opening, (thread, opening) ∈ config.history ∧ opens chainId opening) ∧
      ∃ event : Event, (thread, event) ∈ config.history ∧ event.2.time = time

section Rules

variable (site : Site)

/-- The request has proved the identity of the chain's user. -/
def Verified (request : Request) (trace : List Event) (chainId : Nat) : Prop :=
  match request with
  | .confirmWithPassword email accessToken password _ => accessToken.chain = some chainId ∧
      ∃ (user : Tokens.User) (hashedPassword : String) (time : Nat),
        ⟨.token (.selectUserByEmail email), ⟨.ok (some user), time⟩⟩ ∈ trace ∧
          user.hashedPassword = some hashedPassword ∧ verifyPassword password hashedPassword = true
  | .confirmWithPasskey email accessToken credential _ => accessToken.chain = some chainId ∧
      ∃ (user : Tokens.User) (time time' : Nat),
        ⟨.token (.selectUserByEmail email), ⟨.ok (some user), time⟩⟩ ∈ trace ∧
          ⟨.finishAuthentication credential, ⟨.ok (some user.id), time'⟩⟩ ∈ trace
  | .confirmWithGoogle chain email userInfo => chain = chainId ∧ userInfo.emailVerified = true ∧
      ∃ verifiedEmail, userInfo.email = some verifiedEmail ∧
        site.sameAccount verifiedEmail email = true
  | _ => False

theorem Verified.mono {site : Site} {request : Request} {trace later : List Event} {chainId : Nat}
    (verified : Verified site request trace chainId) (grown : trace ⊆ later) :
    Verified site request later chainId := by
  unfold Verified at verified ⊢
  split at verified
  · obtain ⟨ofToken, user, hashedPassword, time, isUser, rest⟩ := verified
    exact ⟨ofToken, user, hashedPassword, time, grown isUser, rest⟩
  · obtain ⟨ofToken, user, time, time', isUser, isOwner⟩ := verified
    exact ⟨ofToken, user, time, time', grown isUser, grown isOwner⟩
  · exact verified
  · exact verified

/-- A request that had proved the identity recorded the confirmation at the time. -/
def SteppedUp (config : Server) (chainId time : Nat) : Prop :=
  ∃ thread request program reply, config.threads[thread]? = some ⟨request, program⟩ ∧
    Verified site request (config.trace thread) chainId ∧
      (thread, (⟨.setConfirmation chainId, reply⟩ : Event)) ∈ config.history ∧ reply.time = time

/-- Every check that passed did so shortly after a login or a confirmation of its chain. -/
def StepUpSound (config : Server) : Prop :=
  ∀ (thread : Nat) (email : String) (accessToken : Payload) (program : Service Response)
    (chainId : Nat) (last : Event) (earlier : List Event),
    config.threads[thread]? = some ⟨.requireStepUp email accessToken, program⟩ →
    Thread.result (⟨.requireStepUp email accessToken, program⟩ :
      Thread Request Reply ServiceError Response) = some (.ok .passed) →
    accessToken.chain = some chainId → config.trace thread = last :: earlier →
      ∃ time ≤ last.2.time, last.2.time ≤ time + stepUpWindowSeconds ∧
        (LoggedIn config chainId time ∨ SteppedUp site config chainId time)

/-! ## What a passed check has seen -/

def discipline (request : Request) : Discipline Reply where
  allows trace call := match call with
    | .setConfirmation chainId => Verified site request trace chainId
    | _ => True
  answers
    | .token .clock, reply => reply.value = reply.time
    | _, _ => True

/-- The last reply is the time, within the window of the row found before, or says that the key
exists. -/
def Passed (accessToken : Payload) (trace : List Event) : Prop :=
  ∃ chainId last earlier, accessToken.chain = some chainId ∧ trace = last :: earlier ∧
    ((∃ userId found time, ⟨.selectLiveSession userId chainId, ⟨.ok (some found), time⟩⟩ ∈ earlier ∧
        last.2.time ≤ found.createdAt + stepUpWindowSeconds) ∨
      ∃ time, last = ⟨.confirmationExists chainId, ⟨.ok true, time⟩⟩)

def returns (request : Request) (result : Except ServiceError Response) (trace : List Event) :
    Prop :=
  match request, result with
  | .requireStepUp _ accessToken, .ok _ => Passed accessToken trace
  | _, _ => True

end Rules

section Programs

variable {site : Site} {request : Request} {trace : List Event}

/-- A service of the token system makes no call that is ruled here. -/
theorem lift_meets {α : Type} (service : Tokens.Service α)
    {post : Except ServiceError α → List Event → Prop}
    (returned : ∀ result later, trace <:+ later → post result later) :
    (lift service).Meets (discipline site request) post trace := by
  have confined : (lift service).Confined fun call => ∃ inner, call = .token inner :=
    Program.embed_confined _ _ service
  refine confined.meets ?_ fun result added _ => returned result _ (List.suffix_append _ _)
  rintro later - call ⟨inner, rfl⟩
  trivial

theorem execute_meets {α : Type} (call : Call) (result : Result call → Except ServiceError α)
    {post : Except ServiceError α → List Event → Prop}
    (allowed : (discipline site request).allows trace call)
    (next : ∀ reply : Reply call, post (result reply.value) (⟨call, reply⟩ :: trace)) :
    (execute call result).Meets (discipline site request) post trace := by
  rw [execute, Program.meets_attempt]
  exact ⟨allowed, fun reply _ => next reply⟩

theorem getByEmail_meets (email : String)
    {post : Except ServiceError (Option Tokens.User) → List Event → Prop}
    (next : ∀ found time,
      post found (⟨.token (.selectUserByEmail email), ⟨found, time⟩⟩ :: trace)) :
    (lift (getByEmail email)).Meets (discipline site request) post trace :=
  ⟨trivial, fun reply _ => next reply.value reply.time⟩

/-- The token's payload is the token itself, if it decodes. -/
theorem decodePayload_meets (token : Payload)
    {post : Except ServiceError (Option Payload) → List Event → Prop}
    (next : ∀ payload later, trace <:+ later → (payload = some token ∨ payload = none) →
      post (.ok payload) later) :
    (lift (decodePayload token)).Meets (discipline site request) post trace := by
  refine ⟨trivial, fun reply _ => ?_⟩
  have suffix : trace <:+ ⟨.token (.decode token), reply⟩ :: trace := List.suffix_cons _ _
  cases decoded : reply.value with
  | true =>
    change (Program.embed _ _ (if reply.value then _ else _)).Meets _ _ _
    rw [decoded, if_pos rfl]
    exact next _ _ suffix (Or.inl rfl)
  | false =>
    change (Program.embed _ _ (if reply.value then _ else _)).Meets _ _ _
    rw [decoded, if_neg (by simp)]
    exact next _ _ suffix (Or.inr rfl)

theorem liveSession_meets (email : String) (accessToken : Payload)
    {post : Except ServiceError (Tokens.User × LiveSession × Nat) → List Event → Prop}
    (raised : ∀ failure later, post (.error failure) later)
    (next : ∀ user session chainId time time' later, accessToken.chain = some chainId →
      ⟨.token (.selectUserByEmail email), ⟨.ok (some user), time⟩⟩ ∈ later →
      ⟨.selectLiveSession user.id chainId, ⟨.ok (some session), time'⟩⟩ ∈ later →
        post (.ok (user, session, chainId)) later) :
    (liveSession email accessToken).Meets (discipline site request) post trace := by
  rw [liveSession, Program.meets_bind]
  refine decodePayload_meets accessToken fun payload later _ isPayload => ?_
  simp only
  rw [Program.meets_bind]
  refine getByEmail_meets email fun found time => ?_
  match found with
  | .error failure => exact raised failure _
  | .ok none =>
    simp only
    split
    · rename_i isUser
      cases isUser
    · exact raised _ _
  | .ok (some user) =>
    simp only
    split
    · rename_i chainId user' isChain isUser
      obtain rfl := Option.some.inj isUser
      rw [Program.meets_bind]
      refine execute_meets (.selectLiveSession _ chainId) id trivial fun reply => ?_
      obtain ⟨row, time'⟩ := reply
      match row with
      | .error failure => exact raised failure _
      | .ok none => exact raised _ _
      | .ok (some session) =>
        have ofToken : accessToken.chain = some chainId := by
          rcases isPayload with rfl | rfl
          · exact isChain
          · cases isChain
        exact next user session chainId time time' _ ofToken
          (List.mem_cons_of_mem _ List.mem_cons_self) List.mem_cons_self
    · exact raised _ _

theorem requireStepUp_meets (email : String) (accessToken : Payload) :
    (requireStepUp email accessToken).Meets (discipline site request)
      (fun result trace => result = .ok () → Passed accessToken trace) trace := by
  rw [requireStepUp, Program.meets_bind]
  refine liveSession_meets email accessToken (fun _ _ isOk => by cases isOk)
    fun user session chainId time time' later ofToken _ found => ?_
  simp only
  rw [Program.meets_bind]
  refine ⟨trivial, fun now isNow => ?_⟩
  have isTime : now.value = now.time := isNow
  change Program.Meets _ (if now.value ≤ session.createdAt + stepUpWindowSeconds then _ else _) _ _
  split
  · rename_i within
    intro _
    rw [isTime] at within
    exact ⟨chainId, _, later, ofToken, rfl, Or.inl ⟨user.id, session, time', found, within⟩⟩
  · rw [Program.meets_bind, Program.meets_tryCatch]
    refine execute_meets (.confirmationExists chainId) id trivial fun reply => ?_
    obtain ⟨isThere, time⟩ := reply
    match isThere with
    | .error failure => exact fun isOk => by cases isOk
    | .ok false => exact fun isOk => by cases isOk
    | .ok true => exact fun _ => ⟨chainId, _, _, ofToken, rfl, Or.inr ⟨time, rfl⟩⟩

/-! ## Confirmations -/

theorem checkStepUpLock_meets (email : String) (clientIp : Option String)
    {post : Except ServiceError Unit → List Event → Prop}
    (returned : ∀ result later, trace <:+ later → post result later) :
    (checkStepUpLock email clientIp).Meets (discipline site request) post trace := by
  rw [checkStepUpLock, Program.meets_bind]
  refine execute_meets (.isLocked email clientIp) id trivial fun reply => ?_
  obtain ⟨isLocked, time⟩ := reply
  have suffix : trace <:+ ⟨.isLocked email clientIp, ⟨isLocked, time⟩⟩ :: trace :=
    List.suffix_cons _ _
  match isLocked with
  | .error failure => exact returned _ _ suffix
  | .ok false => exact returned _ _ suffix
  | .ok true =>
    simp only [id_eq, if_true]
    rw [Program.meets_bind]
    refine lift_meets _ fun result later extended => ?_
    cases result with
    | error failure => exact returned _ _ (suffix.trans extended)
    | ok value =>
      simp only
      rw [Program.meets_bind]
      refine execute_meets (.getRemainingSeconds email clientIp) id trivial fun reply => ?_
      have suffix' := (suffix.trans extended).trans
        (List.suffix_cons (⟨.getRemainingSeconds email clientIp, reply⟩ : Event) later)
      obtain ⟨remaining, time'⟩ := reply
      cases remaining <;> exact returned _ _ suffix'

theorem failStepUp_meets {α : Type} (email : String) (clientIp : Option String) (error : AppError) :
    (failStepUp email clientIp error : Service α).Meets (discipline site request)
      (fun _ _ => True) trace := by
  rw [failStepUp, Program.meets_bind]
  refine lift_meets _ fun result later _ => ?_
  cases result with
  | error failure => trivial
  | ok value =>
    simp only
    rw [Program.meets_bind]
    refine execute_meets (.recordFailedAttempt email clientIp) id trivial fun reply => ?_
    obtain ⟨allowed, time⟩ := reply
    match allowed with
    | .error failure => trivial
    | .ok true => trivial
    | .ok false =>
      simp only [id_eq, Bool.not_false, if_true]
      rw [Program.meets_bind]
      refine lift_meets _ fun result later _ => ?_
      cases result with
      | error failure => trivial
      | ok value =>
        simp only
        rw [Program.meets_bind]
        refine execute_meets (.getRemainingSeconds email clientIp) id trivial fun reply => ?_
        obtain ⟨remaining, time⟩ := reply
        cases remaining <;> trivial

theorem recordStepUp_meets (chainId : Nat) (verified : Verified site request trace chainId)
    {post : Except ServiceError Unit → List Event → Prop}
    (returned : ∀ result later, post result later) :
    (recordStepUp chainId).Meets (discipline site request) post trace := by
  rw [recordStepUp, Program.meets_bind, Program.meets_tryCatch]
  refine execute_meets (.setConfirmation chainId) id verified fun reply => ?_
  obtain ⟨recorded, time⟩ := reply
  cases recorded with
  | error failure => exact returned _ _
  | ok value => exact lift_meets _ fun result later _ => returned result later

theorem grantStepUp_meets (email : String) (clientIp : Option String) (chainId : Nat)
    (verified : Verified site request trace chainId) :
    (grantStepUp email clientIp chainId).Meets (discipline site request) (fun _ _ => True)
      trace := by
  rw [grantStepUp, Program.meets_bind]
  refine recordStepUp_meets chainId verified fun result later => ?_
  cases result with
  | error failure => trivial
  | ok value =>
    simp only
    rw [Program.meets_bind]
    refine execute_meets (.resetFailedAttempts email clientIp) id trivial fun reply => ?_
    obtain ⟨reset, time⟩ := reply
    cases reset <;> trivial

theorem confirmWithPassword_meets (email : String) (accessToken : Payload) (password : String)
    (clientIp : Option String) :
    (confirmWithPassword email accessToken password clientIp).Meets
      (discipline site (.confirmWithPassword email accessToken password clientIp))
      (fun _ _ => True) trace := by
  rw [confirmWithPassword, Program.meets_bind]
  refine liveSession_meets email accessToken (fun _ _ => trivial)
    fun user session chainId time time' later ofToken isUser _ => ?_
  simp only
  split
  · trivial
  · rename_i hashedPassword isHashed
    rw [Program.meets_bind]
    refine checkStepUpLock_meets _ clientIp fun result later' extended => ?_
    cases result with
    | error failure => trivial
    | ok value =>
      simp only
      split
      · rename_i isVerified
        exact grantStepUp_meets _ clientIp chainId ⟨ofToken, user, hashedPassword, time,
          extended.subset isUser, isHashed, isVerified⟩
      · exact failStepUp_meets _ clientIp _

theorem confirmWithPasskey_meets (email : String) (accessToken : Payload) (credential : Nat)
    (clientIp : Option String) :
    (confirmWithPasskey email accessToken credential clientIp).Meets
      (discipline site (.confirmWithPasskey email accessToken credential clientIp))
      (fun _ _ => True) trace := by
  rw [confirmWithPasskey, Program.meets_bind]
  refine liveSession_meets email accessToken (fun _ _ => trivial)
    fun user session chainId time time' later ofToken isUser _ => ?_
  simp only
  rw [Program.meets_bind]
  refine checkStepUpLock_meets _ clientIp fun result later' extended => ?_
  cases result with
  | error failure => trivial
  | ok value =>
    simp only
    rw [Program.meets_bind]
    refine execute_meets (.finishAuthentication credential) id trivial fun reply => ?_
    obtain ⟨verified, time''⟩ := reply
    cases verified with
    | error failure => trivial
    | ok verified =>
      simp only [id_eq]
      split
      · rename_i isUserId
        subst isUserId
        exact grantStepUp_meets _ clientIp chainId ⟨ofToken, user, time, time'',
          List.mem_cons_of_mem _ (extended.subset isUser), List.mem_cons_self⟩
      · exact failStepUp_meets _ clientIp _

theorem confirmWithGoogle_meets (chainId : Nat) (email : String) (userInfo : OAuth.UserInfo) :
    (confirmWithGoogle site chainId email userInfo).Meets
      (discipline site (.confirmWithGoogle chainId email userInfo)) (fun _ _ => True) trace := by
  rw [confirmWithGoogle, Program.meets_tryCatch]
  split
  · trivial
  · rename_i verifiedEmail isEmail
    split
    · trivial
    · rename_i isVerified
      rw [Program.meets_bind]
      refine getByEmail_meets email fun found time => ?_
      match found with
      | .error failure => trivial
      | .ok found =>
        simp only
        split
        · rw [Program.meets_bind]
          refine lift_meets _ fun result later _ => ?_
          cases result <;> trivial
        · rename_i matching
          simp only [Bool.or_eq_true, Bool.not_eq_true', not_or, Bool.not_eq_false] at matching
          have verified : Verified site (.confirmWithGoogle chainId email userInfo)
              (⟨.token (.selectUserByEmail email), ⟨.ok found, time⟩⟩ :: trace) chainId :=
            ⟨rfl, by simpa using isVerified, verifiedEmail, isEmail, matching.2⟩
          rw [Program.meets_bind]
          refine recordStepUp_meets chainId verified fun result later => ?_
          cases result <;> trivial

theorem server_obeys (site : Site) : (server site).Obeys (discipline site) returns where
  programs request := by
    change (handle site request).Meets _ _ _
    cases request with
    | token request =>
      rw [handle, Program.meets_bind]
      refine lift_meets _ fun result later _ => ?_
      cases result <;> trivial
    | signIn user =>
      rw [handle, Program.meets_bind]
      refine lift_meets _ fun result later _ => ?_
      cases result <;> trivial
    | requireStepUp email accessToken =>
      rw [handle, Program.meets_bind]
      refine (requireStepUp_meets email accessToken).mono fun result later _ passed => ?_
      cases result with
      | error failure => trivial
      | ok value => exact passed rfl
    | confirmWithPassword email accessToken password clientIp =>
      rw [handle, Program.meets_bind]
      refine (confirmWithPassword_meets email accessToken password clientIp).mono
        fun result later _ _ => ?_
      cases result <;> trivial
    | confirmWithPasskey email accessToken credential clientIp =>
      rw [handle, Program.meets_bind]
      refine (confirmWithPasskey_meets email accessToken credential clientIp).mono
        fun result later _ _ => ?_
      cases result <;> trivial
    | confirmWithGoogle chainId email userInfo =>
      rw [handle, Program.meets_bind]
      refine (confirmWithGoogle_meets chainId email userInfo).mono fun result later _ _ => ?_
      cases result <;> trivial
  answers request thread call store outcome possible := by
    obtain ⟨result, member, rfl⟩ := List.mem_map.mp possible
    cases call with
    | token call =>
      cases call with
      | clock =>
        obtain ⟨inner, isInner, rfl⟩ := List.mem_map.mp member
        rw [List.mem_singleton.mp isInner]
        rfl
      | _ => trivial
    | _ => trivial

end Programs

/-! ## Along a run -/

section Runs

variable {site : Site} {start store : Store} {history : List (Nat × Event)}

/-- Whoever adds a row to the session mirror is logging in. -/
def loginInserts (config : Server) (thread : Nat) (event : Event) : Prop :=
  ∀ userId jti chainId expiresAt, event.1 = .token (.insertSession userId jti chainId expiresAt) →
    ∃ request program, config.threads[thread]? = some ⟨request, program⟩ ∧ isLogin request

/-- Nobody has logged in or confirmed his identity for a while. -/
structure Quiet (start : Store) : Prop where
  ids : ∀ session ∈ start.world.sessions, session.id < start.world.nextSessionId
  rows : ∀ session ∈ start.world.sessions,
    start.createdAt session.id + stepUpWindowSeconds < start.world.now
  confirmations : ∀ chainId deadline, start.confirmations chainId = some deadline →
    deadline ≤ start.world.now

def Inserted (history : List (Nat × Event)) (chainId time : Nat) : Prop :=
  ∃ thread userId jti expiresAt reply,
    (thread, (⟨.token (.insertSession userId jti chainId expiresAt), reply⟩ : Event)) ∈ history ∧
      reply.time = time

def Recorded (history : List (Nat × Event)) (chainId time : Nat) : Prop :=
  ∃ thread reply, (thread, (⟨.setConfirmation chainId, reply⟩ : Event)) ∈ history ∧
    reply.time = time

theorem Inserted.cons {chainId time : Nat} (inserted : Inserted history chainId time)
    (entry : Nat × Event) : Inserted (entry :: history) chainId time := by
  obtain ⟨thread, userId, jti, expiresAt, reply, member, isTime⟩ := inserted
  exact ⟨thread, userId, jti, expiresAt, reply, List.mem_cons_of_mem _ member, isTime⟩

theorem Recorded.cons {chainId time : Nat} (recorded : Recorded history chainId time)
    (entry : Nat × Event) : Recorded (entry :: history) chainId time := by
  obtain ⟨thread, reply, member, isTime⟩ := recorded
  exact ⟨thread, reply, List.mem_cons_of_mem _ member, isTime⟩

/-- A row was created long before the run, or inserted during it. -/
def Dated (since : Nat) (history : List (Nat × Event)) (chainId createdAt : Nat) : Prop :=
  createdAt + stepUpWindowSeconds < since ∨ Inserted history chainId createdAt

theorem Dated.cons {since chainId createdAt : Nat} (dated : Dated since history chainId createdAt)
    (entry : Nat × Event) : Dated since (entry :: history) chainId createdAt :=
  dated.imp_right fun inserted => inserted.cons entry

/-- A reply that may let a check pass goes back to an insertion or a confirmation. -/
def Grounded (since : Nat) (history : List (Nat × Event)) : Event → Prop
  | ⟨.selectLiveSession _ chainId, ⟨.ok (some found), time⟩⟩ =>
      Dated since history chainId found.createdAt ∧
        (found.createdAt ≤ time ∨ found.createdAt + stepUpWindowSeconds < since)
  | ⟨.confirmationExists chainId, ⟨.ok true, time⟩⟩ =>
      time < since ∨ ∃ confirmedAt ≤ time, Recorded history chainId confirmedAt ∧
        time < confirmedAt + stepUpWindowSeconds
  | _ => True

theorem Grounded.cons {since : Nat} {event : Event} (grounded : Grounded since history event)
    (entry : Nat × Event) : Grounded since (entry :: history) event := by
  unfold Grounded at grounded ⊢
  split at grounded
  · exact ⟨grounded.1.cons entry, grounded.2⟩
  · refine grounded.imp_right ?_
    rintro ⟨confirmedAt, before, recorded, within⟩
    exact ⟨confirmedAt, before, recorded.cons entry, within⟩
  · trivial

structure Kept (since : Nat) (store : Store) (history : List (Nat × Event)) : Prop where
  started : since ≤ store.world.now
  past : ∀ entry ∈ history, entry.2.2.time ≤ store.world.now
  notBefore : ∀ entry ∈ history, since ≤ entry.2.2.time
  sorted : history.Pairwise fun newer older => older.2.2.time ≤ newer.2.2.time
  ids : ∀ session ∈ store.world.sessions, session.id < store.world.nextSessionId
  rows : ∀ session ∈ store.world.sessions, ∀ chainId, session.chainId = some chainId →
    Dated since history chainId (store.createdAt session.id)
  confirmed : ∀ chainId deadline, store.confirmations chainId = some deadline →
    deadline ≤ since ∨
      ∃ time, Recorded history chainId time ∧ deadline = time + stepUpWindowSeconds
  grounded : ∀ entry ∈ history, Grounded since history entry.2

theorem Quiet.kept (quiet : Quiet start) : Kept start.world.now start [] where
  started := Nat.le_refl _
  past := by simp
  notBefore := by simp
  sorted := List.Pairwise.nil
  ids := quiet.ids
  rows session member _ _ := Or.inl (quiet.rows session member)
  confirmed chainId deadline isDeadline := Or.inl (quiet.confirmations chainId deadline isDeadline)
  grounded := by simp

theorem withWorld_createdAt_of_lt (world : World) {id : Nat}
    (old : id < store.world.nextSessionId) :
    (store.withWorld world).createdAt id = store.createdAt id := by
  unfold Store.withWorld
  simp only
  split
  · exact Function.update_of_ne (Nat.ne_of_lt old) _ _
  · rfl

/-- Statements of the token system that add no row keep every date. -/
theorem withWorld_rows {since : Nat} {world : World} (kept : Kept since store history)
    (next : world.nextSessionId = store.world.nextSessionId)
    (rows : ∀ session ∈ world.sessions, ∃ old ∈ store.world.sessions,
      old.id = session.id ∧ old.userId = session.userId ∧ old.chainId = session.chainId) :
    (∀ session ∈ world.sessions, session.id < world.nextSessionId) ∧
      ∀ session ∈ world.sessions, ∀ chainId, session.chainId = some chainId →
        Dated since history chainId ((store.withWorld world).createdAt session.id) := by
  refine ⟨fun session member => ?_, fun session member chainId isChain => ?_⟩
  · obtain ⟨old, inOld, sameId, -, -⟩ := rows session member
    rw [next, ← sameId]
    exact kept.ids old inOld
  · obtain ⟨old, inOld, sameId, -, sameChain⟩ := rows session member
    rw [← sameId, withWorld_createdAt_of_lt world (kept.ids old inOld)]
    exact kept.rows old inOld chainId (sameChain.trans isChain)

theorem Kept.disturb {since : Nat} (kept : Kept since store history) (disturbance : Disturbance) :
    Kept since (StepUp.disturb disturbance store) history := by
  cases disturbance with
  | token disturbance =>
    have now := (disturb_advance disturbance store.world).now
    have same : (Tokens.disturb disturbance store.world).nextSessionId =
        store.world.nextSessionId ∧
          (Tokens.disturb disturbance store.world).sessions = store.world.sessions := by
      cases disturbance <;> exact ⟨rfl, rfl⟩
    obtain ⟨ids, rows⟩ := withWorld_rows kept same.1 fun session member =>
      ⟨session, same.2 ▸ member, rfl, rfl, rfl⟩
    exact
      { started := Nat.le_trans kept.started now
        past := fun entry member => Nat.le_trans (kept.past entry member) now
        notBefore := kept.notBefore
        sorted := kept.sorted
        ids := ids
        rows := rows
        confirmed := kept.confirmed
        grounded := kept.grounded }
  | loseConfirmation chainId =>
    refine { kept with confirmed := fun chain deadline isDeadline => ?_ }
    by_cases same : chain = chainId
    · subst same
      simp [StepUp.disturb] at isDeadline
    · refine kept.confirmed chain deadline ?_
      simpa [StepUp.disturb, Function.update_of_ne same] using isDeadline

/-- A new entry, with the time of its reply, and nothing else. -/
theorem Kept.record {since : Nat} (kept : Kept since store history) (thread : Nat) (event : Event)
    (isTime : event.2.time = store.world.now)
    (grounded : Grounded since history event) : Kept since store ((thread, event) :: history) where
  started := kept.started
  past entry member := by
    rcases List.mem_cons.mp member with rfl | old
    · exact Nat.le_of_eq isTime
    · exact kept.past entry old
  notBefore entry member := by
    rcases List.mem_cons.mp member with rfl | old
    · exact isTime ▸ kept.started
    · exact kept.notBefore entry old
  sorted := List.pairwise_cons.mpr
    ⟨fun entry member => isTime ▸ kept.past entry member, kept.sorted⟩
  ids := kept.ids
  rows session member chainId isChain := (kept.rows session member chainId isChain).cons _
  confirmed chainId deadline isDeadline := by
    refine (kept.confirmed chainId deadline isDeadline).imp_right ?_
    rintro ⟨time, recorded, isSum⟩
    exact ⟨time, recorded.cons _, isSum⟩
  grounded entry member := by
    rcases List.mem_cons.mp member with rfl | old
    · exact grounded.cons _
    · exact (kept.grounded entry old).cons _

/-- Replaces the store by one of the same time that differs in dated rows. -/
theorem Kept.advance {since : Nat} {after : Store} (kept : Kept since store history)
    (now : after.world.now = store.world.now)
    (ids : ∀ session ∈ after.world.sessions, session.id < after.world.nextSessionId)
    (rows : ∀ session ∈ after.world.sessions, ∀ chainId, session.chainId = some chainId →
      Dated since history chainId (after.createdAt session.id))
    (confirmed : ∀ chainId deadline, after.confirmations chainId = some deadline →
      deadline ≤ since ∨
        ∃ time, Recorded history chainId time ∧ deadline = time + stepUpWindowSeconds) :
    Kept since after history :=
  { started := now ▸ kept.started
    past := fun entry member => now ▸ kept.past entry member
    notBefore := kept.notBefore
    sorted := kept.sorted
    ids := ids
    rows := rows
    confirmed := confirmed
    grounded := kept.grounded }

theorem kept_token {since thread : Nat} (kept : Kept since store history) {call : Tokens.Call}
    {outcome : Tokens.Reply call × World}
    (possible : outcome ∈ Tokens.outcomes thread call store.world) :
    Kept since (store.withWorld outcome.2)
      ((thread, ⟨.token call, ⟨outcome.1, store.world.now⟩⟩) :: history) := by
  have recorded := kept.record thread ⟨.token call, ⟨outcome.1, store.world.now⟩⟩ rfl trivial
  have now := outcomes_now thread call store.world outcome possible
  rcases outcomes_mirror thread call store.world outcome possible with
    ⟨next, rows⟩ | ⟨userId, jti, chainId, expiresAt, rfl, next, rows⟩
  · obtain ⟨ids, dated⟩ := withWorld_rows recorded next rows
    exact recorded.advance now ids dated recorded.confirmed
  · refine recorded.advance now (fun session member => ?_) (fun session member chain isChain => ?_)
      recorded.confirmed
    · change session ∈ outcome.2.sessions at member
      change session.id < outcome.2.nextSessionId
      rw [rows] at member
      rw [next]
      rcases List.mem_append.mp member with old | new
      · exact Nat.lt_succ_of_lt (kept.ids session old)
      · rw [List.mem_singleton.mp new]
        exact Nat.lt_succ_self _
    · change session ∈ outcome.2.sessions at member
      rw [rows] at member
      rcases List.mem_append.mp member with old | new
      · rw [withWorld_createdAt_of_lt outcome.2 (kept.ids session old)]
        exact recorded.rows session old chain isChain
      · rw [List.mem_singleton.mp new] at isChain ⊢
        obtain rfl := Option.some.inj isChain
        have grown : store.world.nextSessionId < outcome.2.nextSessionId := by omega
        refine Or.inr ⟨thread, userId, jti, expiresAt, _, List.mem_cons_self, ?_⟩
        simp [Store.withWorld, grown]

theorem kept_selectLiveSession {since thread userId chainId : Nat} (kept : Kept since store history)
    {outcome : Result (.selectLiveSession userId chainId) × Store}
    (possible : outcome ∈ results site thread (.selectLiveSession userId chainId) store) :
    Kept since outcome.2
      ((thread, ⟨.selectLiveSession userId chainId, ⟨outcome.1, store.world.now⟩⟩) :: history) := by
  rcases List.mem_cons.mp possible with rfl | isFound
  · exact kept.record thread _ rfl trivial
  · obtain ⟨row, member, rfl⟩ := List.mem_map.mp isFound
    refine kept.record thread _ rfl ?_
    split at member
    · rw [List.mem_singleton.mp member]
      trivial
    · obtain ⟨session, inRows, rfl⟩ := List.mem_map.mp member
      obtain ⟨inSessions, matching⟩ := List.mem_filter.mp inRows
      simp only [Bool.and_eq_true, beq_iff_eq] at matching
      have dated := kept.rows session inSessions chainId matching.2
      refine ⟨dated, ?_⟩
      rcases dated with old | ⟨thread', userId', jti, expiresAt, reply, inserted, isTime⟩
      · exact Or.inr old
      · exact Or.inl (isTime ▸ kept.past _ inserted)

theorem kept_confirmationExists {since thread chainId : Nat} (kept : Kept since store history)
    {outcome : Result (.confirmationExists chainId) × Store}
    (possible : outcome ∈ results site thread (.confirmationExists chainId) store) :
    Kept since outcome.2
      ((thread, ⟨.confirmationExists chainId, ⟨outcome.1, store.world.now⟩⟩) :: history) := by
  simp only [results, List.mem_cons, List.not_mem_nil, or_false] at possible
  rcases possible with rfl | rfl
  · refine kept.record thread _ rfl ?_
    cases isConfirmed : store.isConfirmed chainId with
    | false => trivial
    | true =>
      obtain ⟨deadline, isDeadline, alive⟩ := Option.any_eq_true .. |>.mp isConfirmed
      rw [decide_eq_true_eq] at alive
      rcases kept.confirmed chainId deadline isDeadline with
        dead | ⟨time, ⟨thread', reply, recorded, isTime⟩, rfl⟩
      · exact Or.inl (Nat.lt_of_lt_of_le alive dead)
      · have before : time ≤ store.world.now := isTime ▸ kept.past _ recorded
        exact Or.inr ⟨time, before, ⟨thread', reply, recorded, isTime⟩, alive⟩
  · exact kept.record thread _ rfl trivial

theorem Kept.confirm {since thread chainId : Nat} (kept : Kept since store history)
    (result : Except ServiceError Unit) :
    Kept since (store.confirm chainId)
      ((thread, ⟨.setConfirmation chainId, ⟨result, store.world.now⟩⟩) :: history) := by
  have recorded := kept.record thread
    ⟨.setConfirmation chainId, ⟨result, store.world.now⟩⟩ rfl trivial
  refine recorded.advance rfl recorded.ids recorded.rows fun chain deadline isDeadline => ?_
  by_cases same : chain = chainId
  · subst same
    refine Or.inr ⟨store.world.now, ⟨thread, _, List.mem_cons_self, rfl⟩, ?_⟩
    simpa [Store.confirm, eq_comm] using isDeadline
  · refine recorded.confirmed chain deadline ?_
    simpa [Store.confirm, Function.update_of_ne same] using isDeadline

theorem kept_step {since thread : Nat} (kept : Kept since store history) {call : Call}
    {outcome : Reply call × Store} (possible : outcome ∈ outcomes site thread call store) :
    Kept since outcome.2 ((thread, ⟨call, outcome.1⟩) :: history) := by
  obtain ⟨result, member, rfl⟩ := List.mem_map.mp possible
  have unchanged (same : result.2 = store) (isPlain : Grounded since history
      ⟨call, ⟨result.1, store.world.now⟩⟩) :
      Kept since result.2 ((thread, ⟨call, ⟨result.1, store.world.now⟩⟩) :: history) := by
    rw [same]
    exact kept.record thread _ rfl isPlain
  cases call with
  | token call =>
    obtain ⟨inner, isInner, rfl⟩ := List.mem_map.mp member
    exact kept_token kept isInner
  | selectLiveSession userId chainId => exact kept_selectLiveSession kept member
  | confirmationExists chainId => exact kept_confirmationExists kept member
  | setConfirmation chainId =>
    simp only [results, List.mem_cons, List.not_mem_nil, or_false] at member
    rcases member with rfl | rfl | rfl
    · exact kept.confirm _
    · exact unchanged rfl trivial
    · exact kept.confirm _
  | finishAuthentication credential =>
    simp only [results, List.mem_cons, List.not_mem_nil, or_false] at member
    rcases member with rfl | rfl | rfl <;> exact unchanged rfl trivial
  | isLocked email clientIp =>
    simp only [results, List.mem_cons, List.not_mem_nil, or_false] at member
    rcases member with rfl | rfl | rfl <;> exact unchanged rfl trivial
  | recordFailedAttempt email clientIp =>
    simp only [results, List.mem_cons, List.not_mem_nil, or_false] at member
    rcases member with rfl | rfl | rfl <;> exact unchanged rfl trivial
  | getRemainingSeconds email clientIp =>
    simp only [results, List.mem_cons, List.not_mem_nil, or_false] at member
    rcases member with rfl | rfl <;> exact unchanged rfl trivial
  | resetFailedAttempts email clientIp =>
    simp only [results, List.mem_cons, List.not_mem_nil, or_false] at member
    rcases member with rfl | rfl <;> exact unchanged rfl trivial

variable {permits : Server → Nat → Event → Prop} {config : Server}

theorem run_kept (quiet : Quiet start)
    (run : Reaches (server site) permits (Config.start start) config) :
    Kept start.world.now config.state config.history := by
  refine run.keeps (Kept start.world.now) quiet.kept (fun event state history kept =>
    kept.disturb event) fun before after thread event _ answers kept => ?_
  exact kept_step kept answers.possible

/-- Every insertion was a login's. -/
theorem inserted_login (run : Reaches (server site) loginInserts (Config.start start) config)
    {chainId time : Nat} (inserted : Inserted config.history chainId time) :
    LoggedIn config chainId time := by
  obtain ⟨thread, userId, jti, expiresAt, reply, member, isTime⟩ := inserted
  obtain ⟨before, after, first, answers, rest⟩ :=
    run.answered_member ((Config.mem_trace _ _).mpr member)
  obtain ⟨request, program, running, isLogin⟩ := answers.permitted _ _ _ _ rfl
  obtain ⟨last, present, same, -⟩ := (Reaches.toAny (rest.head answers.step)).thread_persists running
  obtain ⟨request', program'⟩ := last
  simp only at same
  subst same
  exact ⟨thread, request', program', present, isLogin, ⟨_, member, rfl⟩, _, member, isTime⟩

/-- Every confirmation was recorded by a request that had verified its user. -/
theorem recorded_steppedUp (run : Reaches (server site) permits (Config.start start) config)
    {chainId time : Nat} (recorded : Recorded config.history chainId time) :
    SteppedUp site config chainId time := by
  obtain ⟨thread, reply, member, isTime⟩ := recorded
  obtain ⟨before, after, first, answers, rest⟩ :=
    run.answered_member ((Config.mem_trace _ _).mpr member)
  obtain ⟨request, next, running⟩ := answers.running
  have whole : Reaches (server site) permits before config := rest.head answers.step
  obtain ⟨last, present, same, -⟩ := whole.thread_persists running
  obtain ⟨request', program'⟩ := last
  simp only at same
  subst same
  have verified := (first.disciplined (server_obeys site)).allows running
  refine ⟨thread, request', program', reply, present, ?_, member, isTime⟩
  exact verified.mono (whole.trace_suffix thread).subset

theorem traceOf_sorted {thread : Nat} {last : Event} {earlier : List Event}
    (sorted : history.Pairwise fun newer older => older.2.2.time ≤ newer.2.2.time)
    (isTrace : traceOf history thread = last :: earlier) :
    ∀ event ∈ earlier, event.2.time ≤ last.2.time := by
  have pairwise : (traceOf history thread).Pairwise fun newer older =>
      older.2.time ≤ newer.2.time := by
    refine List.Pairwise.filterMap _ (fun newer older ordered event isEvent event' isEvent' => ?_)
      sorted
    simp only [Option.ite_none_right_eq_some, Option.some.injEq] at isEvent isEvent'
    rw [← isEvent.2, ← isEvent'.2]
    exact ordered
  rw [isTrace] at pairwise
  exact (List.pairwise_cons.mp pairwise).1

end Runs

/-- As long as only logins add rows to the session mirror, a check passes only within the window
after a login or a confirmation of its chain. -/
theorem step_up_is_fresh (site : Site) (start : Store) (quiet : Quiet start) (config : Server)
    (run : Reaches (server site) loginInserts (Config.start start) config) :
    StepUpSound site config := by
  intro thread email accessToken program chainId last earlier present passes isChain isTrace
  have kept := run_kept quiet run
  obtain ⟨chainId', last', earlier', isChain', isTrace', seen⟩ :=
    (run.disciplined (server_obeys site)).returned present passes
  obtain rfl := Option.some.inj (isChain.symm.trans isChain')
  obtain ⟨rfl, rfl⟩ := List.cons.inj (isTrace.symm.trans isTrace')
  have inHistory {event : Event} (member : event ∈ last :: earlier) :
      (thread, event) ∈ config.history :=
    (Config.mem_trace _ _).mp (isTrace ▸ member)
  have started : start.world.now ≤ last.2.time :=
    kept.notBefore _ (inHistory List.mem_cons_self)
  rcases seen with ⟨userId, found, time, member, within⟩ | ⟨time, rfl⟩
  · obtain ⟨dated, before⟩ := kept.grounded _ (inHistory (List.mem_cons_of_mem _ member))
    have ordered := traceOf_sorted kept.sorted isTrace _ member
    rcases dated with old | inserted
    · omega
    · refine ⟨found.createdAt, ?_, within, Or.inl (inserted_login run inserted)⟩
      rcases before with before | old
      · exact Nat.le_trans before ordered
      · omega
  · rcases kept.grounded _ (inHistory List.mem_cons_self) with
      tooEarly | ⟨confirmedAt, before, recorded, within⟩
    · exact absurd tooEarly (Nat.not_lt.mpr started)
    · exact ⟨confirmedAt, before, Nat.le_of_lt within, Or.inr (recorded_steppedUp run recorded)⟩

/-! ## A check right after a login, and one long after it -/

def annsSite : Site where
  settings := sampleSettings
  credentialOwner _ := none
  sameAccount left right := left == right

def annsStart : Store where
  world := annsStore
  createdAt _ := 0
  confirmations _ := none

theorem annsStart_quiet : Quiet annsStart where
  ids _ member := absurd member List.not_mem_nil
  rows _ member := absurd member List.not_mem_nil
  confirmations _ _ isDeadline := by cases isDeadline

def loginInsertsCheck (config : Server) (thread : Nat) (event : Event) : Bool :=
  match event.1 with
  | .token (.insertSession _ _ _ _) =>
      match (config.threads[thread]?).map Thread.request with
      | some (.token (.login _ _)) => true
      | _ => false
  | _ => true

theorem loginInserts_of_check (config : Server) (thread : Nat) (event : Event)
    (checked : loginInsertsCheck config thread event = true) :
    loginInserts config thread event := by
  intro userId jti chainId expiresAt isInsert
  simp only [loginInsertsCheck, isInsert] at checked
  split at checked
  · rename_i email password isRequest
    obtain ⟨program, present⟩ := config.present_of_request thread _ isRequest
    exact ⟨_, program, present, trivial⟩
  · cases checked

def annsLogin : List (Move Request Disturbance) :=
  [.begin (.token (.login ann.email "first"))] ++ Move.turns 0 13

/-- A check with the access token of the login. -/
def checkAtOnce : List (Move Request Disturbance) :=
  annsLogin ++ [.begin (.requireStepUp ann.email (annsToken .access 2 1 0 0 1900))] ++
    Move.turns 1 2 ++ [.reply 1 1] ++ Move.turns 1 1

def freshRun : Server :=
  (Config.start annsStart).follow (server annsSite) checkAtOnce

theorem step_up_is_fresh_ann :
    StepUpSound annsSite freshRun ∧
      (freshRun.threads[1]?).bind Thread.result = some (.ok .passed) := by
  have run : Reaches (server annsSite) loginInserts (Config.start annsStart) freshRun :=
    Config.follow_permitted (server annsSite) loginInsertsCheck loginInserts_of_check _
      checkAtOnce (by decide +kernel)
  exact ⟨step_up_is_fresh annsSite annsStart annsStart_quiet freshRun run, by decide +kernel⟩

/-- The login's row is not written; a refresh much later adds one, and the check passes. -/
def checkAfterBackfill : List (Move Request Disturbance) :=
  [.begin (.token (.login ann.email "first"))] ++ Move.turns 0 12 ++ [.reply 0 1] ++
    [.disturb (.token (.elapse 2000)),
      .begin (.token (.refresh (annsToken .refresh 3 1 0 0 4600) none))] ++ Move.turns 1 15 ++
    [.begin (.requireStepUp ann.email (annsToken .access 4 1 0 0 3900))] ++
      Move.turns 2 2 ++ [.reply 2 1] ++ Move.turns 2 1

/-- The login was done by second 1000, and the check passed in second 3000. -/
structure PassesLate (config : Server) : Prop where
  requests : config.threads.map Thread.request =
    [.token (.login ann.email "first"), .token (.refresh (annsToken .refresh 3 1 0 0 4600) none),
      .requireStepUp ann.email (annsToken .access 4 1 0 0 3900)]
  logins : (config.history.all fun entry => entry.1 != 0 || entry.2.2.time == 1000) = true
  passed : (config.threads[2]?).bind Thread.result = some (.ok .passed)
  last : (config.trace 2).head?.map (fun event => event.2.time) = some 3000

theorem PassesLate.unsound {site : Site} {config : Server} (late : PassesLate config) :
    ¬ StepUpSound site config := by
  intro sound
  have isRequest (index : Nat) : (config.threads[index]?).map Thread.request =
      ([.token (.login ann.email "first"),
        .token (.refresh (annsToken .refresh 3 1 0 0 4600) none),
        .requireStepUp ann.email (annsToken .access 4 1 0 0 3900)] : List Request)[index]? := by
    rw [← late.requests, List.getElem?_map]
  obtain ⟨program, present, finished⟩ :=
    config.finished_of_result 2 _ _ (isRequest 2) late.passed
  cases isTrace : config.trace 2 with
  | nil =>
    have last := late.last
    rw [isTrace] at last
    cases last
  | cons last earlier =>
    have isLast : last.2.time = 3000 := by simpa [isTrace] using late.last
    obtain ⟨time, -, within, evidence⟩ :=
      sound 2 _ _ program 1 last earlier present finished rfl isTrace
    rw [isLast] at within
    have sameRequest {thread : Nat} {request : Request} {program : Service Response}
        (running : config.threads[thread]? = some ⟨request, program⟩) :=
      (isRequest thread).symm.trans (congrArg (Option.map Thread.request) running)
    rcases evidence with ⟨thread, request, program', running, isLogin, -, event, member, isTime⟩ |
      ⟨thread, request, program', reply, running, verified, -, -⟩
    · have known := sameRequest running
      match thread with
      | 0 =>
        have old := List.all_eq_true.mp late.logins _ member
        simp only [bne_self_eq_false, Bool.false_or, beq_iff_eq] at old
        rw [isTime] at old
        simp only [stepUpWindowSeconds] at within
        omega
      | 1 =>
        obtain rfl := Option.some.inj known
        exact isLogin
      | 2 =>
        obtain rfl := Option.some.inj known
        exact isLogin
      | thread + 3 => simp at known
    · have known := sameRequest running
      match thread with
      | 0 =>
        obtain rfl := Option.some.inj known
        exact verified
      | 1 =>
        obtain rfl := Option.some.inj known
        exact verified
      | 2 =>
        obtain rfl := Option.some.inj known
        exact verified
      | thread + 3 => simp at known

/-- Half an hour after a login whose row could not be written, a refresh makes the check pass. -/
theorem step_up_by_refresh :
    ¬ ∀ (site : Site) (start : Store), Quiet start → ∀ config : Server,
      Reaches (server site) anyCall (Config.start start) config → StepUpSound site config := by
  intro sound
  have late : PassesLate ((Config.start annsStart).follow (server annsSite) checkAfterBackfill) :=
    ⟨by decide +kernel, by decide +kernel, by decide +kernel, by decide +kernel⟩
  exact late.unsound (sound annsSite annsStart annsStart_quiet _
    (Config.follow_reaches (server annsSite) _ checkAfterBackfill))

end MysticAuth.StepUp
