import MysticAuth.Tokens.TraceFrames

/-!
# Properties of the services by composition

What sequencing and handlers keep, and single statements have, holds of every
service and request that is made of them: all but those that sign, claim or
purge.
-/

set_option autoImplicit false

namespace MysticAuth.Tokens

open Interleaving Program

def Call.addsSession : Call → Bool
  | insertSession _ _ _ _ => true
  | _ => false

/-- A property of services that composes, and that a bump has and every statement that no rule is
about and that adds no mirror row. -/
structure Compositional (holds : (α : Type) → Service α → Prop) : Prop where
  value : ∀ {α : Type} (value : α), holds α (pure value)
  raised : ∀ {α : Type} (error : ServiceError), holds α (throw error)
  bind : ∀ {α β : Type} {service : Service α} {rest : α → Service β}, holds α service →
    (∀ value, holds β (rest value)) → holds β (service >>= rest)
  caught : ∀ {α : Type} {body : Service α} {handler : ServiceError → Service α}, holds α body →
    (∀ error, holds α (handler error)) → holds α (tryCatch body handler)
  execute : ∀ {α : Type} (call : Call) (result : Reply call → Except ServiceError α),
    call.isRuled = false → call.addsSession = false → holds α (execute call result)
  tryBump : ∀ key, holds Bool (tryBump key)

namespace Compositional

variable {holds : (α : Type) → Service α → Prop} (composes : Compositional holds) {α : Type}

include composes

theorem bestEffort {body : Service Unit} (inside : holds _ body) : holds _ (bestEffort body) :=
  composes.caught inside fun _ => composes.value ()

theorem orUnavailable {body : Service α} (inside : holds _ body) : holds _ (orUnavailable body) :=
  composes.caught inside fun _ => composes.raised _

theorem unlessUnavailable {default : α} {body : Service α} (inside : holds _ body) :
    holds _ (unlessUnavailable default body) :=
  composes.caught inside fun error => by
    cases error <;> first | exact composes.value _ | exact composes.raised _

theorem confirmed {revocation : Service α} (inside : holds _ revocation) :
    holds _ (confirmed revocation) := by
  refine composes.caught (composes.bind inside fun _ => composes.value _) fun error => ?_
  cases error <;> first | exact composes.value _ | exact composes.raised _

theorem getByEmail (email : String) : holds _ (getByEmail email) :=
  composes.execute _ _ rfl rfl

theorem getOr404 (email : String) : holds _ (getOr404 email) := by
  refine composes.bind (composes.getByEmail email) fun found => ?_
  cases found with
  | none => exact composes.raised _
  | some user => exact composes.value user

theorem logSecurityEvent : holds _ logSecurityEvent :=
  composes.bestEffort (composes.execute _ _ rfl rfl)

/-! ## Checks -/

theorem decodePayload (token : Payload) : holds _ (decodePayload token) := by
  refine composes.bind (composes.execute (.decode token) .ok rfl rfl) fun valid => ?_
  cases valid <;> exact composes.value _

theorem isCurrentVersion (payload : Payload) : holds _ (isCurrentVersion payload) := by
  have readVersion (key : VersionKey) :
      holds _ (Tokens.orUnavailable (Tokens.execute (.selectVersion key) id)) :=
    composes.orUnavailable (composes.execute _ _ rfl rfl)
  unfold Tokens.isCurrentVersion
  split
  · exact composes.value _
  · split
    · refine composes.bind ?_ fun accountCurrent => ?_
      · unfold isCurrentAccountVersion
        split
        · exact composes.bind (readVersion _) fun _ => composes.value _
        · exact composes.value _
      · split
        · exact composes.value _
        · unfold isCurrentChainVersion
          split
          · split
            · exact composes.bind (readVersion _) fun _ => composes.value _
            · exact composes.value _
          · exact composes.value _
    · exact composes.value _

theorem verifyToken (settings : Settings) (token : Payload) (expectedType : Option TokenType) :
    holds _ (verifyToken settings token expectedType) := by
  have marker (jti : Option Nat) : holds _ (isTokenRevokedByJti jti) := by
    cases jti with
    | none => exact composes.value _
    | some jti => exact composes.execute _ _ rfl rfl
  refine composes.caught (composes.bind (composes.decodePayload token) fun decoded => ?_)
    fun error => by cases error <;> first | exact composes.value _ | exact composes.raised _
  cases decoded with
  | none => exact composes.value _
  | some payload =>
    simp only
    split
    · exact composes.value _
    · refine composes.bind (marker _) fun revoked => ?_
      split
      · exact composes.value _
      · refine composes.bind (composes.isCurrentVersion payload) fun current => ?_
        split
        · exact composes.value _
        · split <;> exact composes.value _

theorem getCurrentUser (settings : Settings) (accessToken : Payload) :
    holds _ (getCurrentUser settings accessToken) := by
  refine composes.caught (composes.bind (composes.verifyToken _ _ _) fun verified => ?_)
    fun error => by cases error <;> exact composes.raised _
  cases verified with
  | none => exact composes.raised _
  | some payload =>
    simp only
    split
    · refine composes.bind (composes.getByEmail _) fun found => ?_
      cases found with
      | none => exact composes.raised _
      | some user =>
        simp only
        split
        · exact composes.raised _
        · exact composes.value user
    · exact composes.raised _

theorem assertCurrentPassword (user : User) (currentPassword : Option String) :
    holds _ (assertCurrentPassword user currentPassword) := by
  unfold Tokens.assertCurrentPassword
  split
  · split
    · exact composes.raised _
    · exact composes.value ()
  · exact composes.value ()

theorem assertPasswordDiffers (user : User) (password : String) :
    holds _ (assertPasswordDiffers user password) := by
  unfold Tokens.assertPasswordDiffers
  split
  · exact composes.raised _
  · exact composes.value ()

/-! ## Revocations -/

theorem countActiveSessions (email : String) : holds _ (countActiveSessions email) := by
  refine composes.bind (composes.getByEmail email) fun found => ?_
  cases found with
  | none => exact composes.value 0
  | some user => exact composes.execute _ _ rfl rfl

theorem revokeAllSessions (email : String) (exemptChainId : Option Nat) :
    holds _ (revokeAllSessions email exemptChainId) := by
  refine composes.bestEffort (composes.bind (composes.getByEmail email) fun found => ?_)
  cases found with
  | none => exact composes.value ()
  | some user =>
    exact composes.bind (composes.execute _ _ rfl rfl) fun _ => composes.value ()

theorem revokeChain (chainId : Nat) : holds _ (revokeChain chainId) := by
  refine composes.bestEffort (composes.bind (composes.execute _ _ rfl rfl) fun found => ?_)
  cases found with
  | none => exact composes.value ()
  | some session => exact composes.execute _ _ rfl rfl

theorem revokeAccountTokens (email : String) (exemptChainId : Option Nat) :
    holds _ (revokeAccountTokens email exemptChainId) := by
  refine composes.bind (composes.tryBump _) fun bumped => ?_
  cases bumped with
  | false => exact composes.raised _
  | true =>
    refine composes.bind (composes.caught (composes.countActiveSessions email)
      fun _ => composes.value 0) fun activeCount => ?_
    exact composes.bind (composes.revokeAllSessions _ _) fun _ => composes.value activeCount

theorem revokeAllTokensForUser (email : String) : holds _ (revokeAllTokensForUser email) :=
  composes.unlessUnavailable (composes.revokeAccountTokens email none)

theorem revokeAllTokensForUserExceptChain (email : String) (exemptChainId : Nat) :
    holds _ (revokeAllTokensForUserExceptChain email exemptChainId) :=
  composes.unlessUnavailable
    (composes.bind (composes.revokeAccountTokens _ _) fun _ => composes.value _)

theorem revokeChainForUser (email : String) (chainId : Nat) :
    holds _ (revokeChainForUser email chainId) := by
  refine composes.unlessUnavailable (composes.bind (composes.tryBump _) fun bumped => ?_)
  cases bumped with
  | false => exact composes.raised _
  | true => exact composes.revokeChain chainId

theorem handleReuseDetected (payload : Payload) : holds _ (handleReuseDetected payload) := by
  unfold Tokens.handleReuseDetected
  split
  · refine composes.bind (composes.caught ?_ fun error => ?_) fun _ => composes.logSecurityEvent
    · split
      · exact composes.revokeChainForUser _ _
      · exact composes.bind (composes.revokeAllTokensForUser _) fun _ => composes.value ()
    · cases error <;> first | exact composes.value _ | exact composes.raised _
  · exact composes.value ()

theorem revokeSessionOnLogout (jti : Option Nat) (email : Option String) :
    holds _ (revokeSessionOnLogout jti email) := by
  cases jti with
  | none => exact composes.value true
  | some jti =>
    refine composes.caught (composes.bind (composes.execute _ _ rfl rfl) fun found => ?_)
      fun _ => composes.value true
    cases found with
    | none => exact composes.value true
    | some session =>
      simp only
      split
      on_goal 1 => refine composes.bind (composes.tryBump _) fun confirmed => ?_
      on_goal 2 => refine composes.bind (composes.value true) fun confirmed => ?_
      all_goals
        cases confirmed with
        | false => exact composes.value false
        | true =>
          refine composes.bind (composes.execute _ _ rfl rfl) fun row => ?_
          cases row with
          | none => exact composes.value true
          | some row =>
            exact composes.bind (composes.execute _ _ rfl rfl) fun _ => composes.value true

theorem revokeOneSession (email : String) (sessionId : Nat) :
    holds _ (revokeOneSession email sessionId) := by
  refine composes.bind (composes.getByEmail email) fun found => ?_
  cases found with
  | none => exact composes.value none
  | some user =>
    refine composes.bind (composes.execute _ _ rfl rfl) fun target => ?_
    cases target with
    | none => exact composes.value none
    | some target =>
      have delete : holds _ (do
          Tokens.execute (.deleteSession target.id) id
          return some target : Service (Option UserSession)) :=
        composes.bind (composes.execute _ _ rfl rfl) fun _ => composes.value _
      simp only
      split
      · exact composes.value none
      · split
        · refine composes.bind (composes.tryBump _) fun bumped => ?_
          cases bumped with
          | false => exact composes.raised _
          | true => exact delete
        · exact delete

/-! ## Requests -/

theorem softDeleteUser (user : User) : holds _ (softDeleteUser user) := by
  refine composes.bind (composes.execute .clock .ok rfl rfl) fun deletedAt => ?_
  refine composes.bind (composes.execute _ _ rfl rfl) fun _ => ?_
  refine composes.bind (composes.confirmed (composes.revokeAllTokensForUser _)) fun revoked => ?_
  exact composes.bind composes.logSecurityEvent fun _ => composes.value revoked

theorem resetPassword (email newPassword : String) :
    holds _ (resetPassword email newPassword) := by
  refine composes.caught (composes.bind (composes.getByEmail email) fun found => ?_)
    fun error => by cases error <;> first | exact composes.value _ | exact composes.raised _
  cases found with
  | none => exact composes.value _
  | some user =>
    simp only
    split
    · exact composes.value _
    · refine composes.bind (composes.getByEmail email) fun reloaded => ?_
      cases reloaded with
      | none => exact composes.value _
      | some user =>
        refine composes.bind (composes.execute _ _ rfl rfl) fun _ => ?_
        exact composes.bind (composes.confirmed (composes.revokeAllTokensForUser email))
          fun _ => composes.value _

theorem updateAnyUser (userEmail password : String) :
    holds _ (updateAnyUser userEmail password) := by
  refine composes.bind (composes.getOr404 userEmail) fun user => ?_
  refine composes.bind (composes.assertPasswordDiffers user password) fun _ => ?_
  refine composes.bind (composes.execute _ _ rfl rfl) fun _ => ?_
  refine composes.bind (composes.confirmed (composes.revokeAllTokensForUser _)) fun revoked => ?_
  exact composes.bind composes.logSecurityEvent fun _ => composes.value revoked

theorem handleLogout (refreshToken : Option Payload) : holds _ (handleLogout refreshToken) := by
  cases refreshToken with
  | none => exact composes.value none
  | some token =>
    refine composes.bind (composes.decodePayload token) fun decoded => ?_
    refine composes.bind (composes.revokeSessionOnLogout _ _) fun revoked => ?_
    exact composes.bind composes.logSecurityEvent fun _ => composes.value _

theorem handleLogoutAll (refreshToken : Option Payload) :
    holds _ (handleLogoutAll refreshToken) := by
  cases refreshToken with
  | none => exact composes.value none
  | some token =>
    refine composes.bind (composes.decodePayload token) fun payload => ?_
    have report (count : Nat) : holds _ (do
        Tokens.logSecurityEvent
        return some count : Service (Option Nat)) :=
      composes.bind composes.logSecurityEvent fun _ => composes.value _
    refine composes.caught ?_ fun error => ?_
    · cases (payload.filter (·.type == .refresh)).bind Payload.email with
      | none => exact report 0
      | some email => exact composes.bind (composes.revokeAllTokensForUser email) report
    · cases error <;> first
        | exact composes.raised _
        | exact composes.bind composes.logSecurityEvent fun _ => composes.raised _

theorem handleRevokeSession (settings : Settings) (accessToken : Payload)
    (refreshToken : Option Payload) (sessionId : Nat) :
    holds _ (handleRevokeSession settings accessToken refreshToken sessionId) := by
  refine composes.caught (composes.bind (composes.getCurrentUser _ _) fun currentUser => ?_)
    fun error => by cases error <;> exact composes.raised _
  refine composes.bind (composes.getByEmail _) fun found => ?_
  cases found with
  | none => exact composes.raised _
  | some user =>
    refine composes.bind (composes.execute _ _ rfl rfl) fun target => ?_
    cases target with
    | none => exact composes.raised _
    | some target =>
      have finish (payload : Option Payload) : holds _ (do
          let currentChainId := (payload.filter (·.type == .refresh)).bind Payload.chain
          if currentChainId.isSome && target.chainId == currentChainId then
            refuse 400 "CANNOT_REVOKE_CURRENT_SESSION" "Use Logout to end your current session"
          if (← Tokens.revokeOneSession currentUser.email sessionId).isNone then
            refuse 404 "SESSION_NOT_FOUND" "Session not found"
          Tokens.logSecurityEvent : Service Unit) := by
        simp only
        split
        · exact composes.raised _
        · refine composes.bind (composes.revokeOneSession _ _) fun revoked => ?_
          split
          · exact composes.raised _
          · exact composes.logSecurityEvent
      change holds _ (if _ then _ else _)
      split
      · exact composes.raised _
      · cases refreshToken with
        | none => exact finish none
        | some token => exact composes.bind (composes.decodePayload token) finish

theorem deleteMyAccount (settings : Settings) (accessToken : Payload)
    (currentPassword : Option String) :
    holds _ (deleteMyAccount settings accessToken currentPassword) := by
  refine composes.bind (composes.getCurrentUser _ _) fun currentUser => ?_
  refine composes.bind (composes.getOr404 _) fun user => ?_
  split
  · exact composes.value false
  · exact composes.bind (composes.assertCurrentPassword user currentPassword)
      fun _ => composes.softDeleteUser user

theorem confirmDeletion (email : String) (accountVer : Nat) :
    holds _ (confirmDeletion email accountVer) := by
  have read : holds _ (getAccountVersion email) :=
    composes.orUnavailable (composes.execute _ _ rfl rfl)
  refine composes.caught (composes.bind read fun current => ?_) fun _ => composes.value false
  split
  · exact composes.value false
  · refine composes.bind (composes.getByEmail email) fun found => ?_
    cases found with
    | none => exact composes.value false
    | some user => exact composes.bind (composes.softDeleteUser user) fun _ => composes.value true

theorem deleteAnyUser (userEmail : String) : holds _ (deleteAnyUser userEmail) :=
  composes.bind (composes.getOr404 userEmail) composes.softDeleteUser

theorem reactivateUser (userEmail : String) : holds _ (reactivateUser userEmail) := by
  refine composes.bind (composes.getOr404 userEmail) fun user => ?_
  split
  · exact composes.raised _
  · exact composes.bind (composes.execute _ _ rfl rfl) fun _ => composes.logSecurityEvent

theorem purgeConsumedRefreshTokens (batches : Nat) :
    holds _ (purgeConsumedRefreshTokens batches) := by
  induction batches with
  | zero => exact composes.value 0
  | succ batches ih =>
    refine composes.bind (composes.execute _ _ rfl rfl) fun batchCount => ?_
    split
    · exact composes.value batchCount
    · exact composes.bind ih fun _ => composes.value _

theorem purgeExpiredSessions (settings : Settings) : holds _ (purgeExpiredSessions settings) :=
  composes.bind (composes.execute .clock .ok rfl rfl) fun _ => composes.execute _ _ rfl rfl

end Compositional

end MysticAuth.Tokens
