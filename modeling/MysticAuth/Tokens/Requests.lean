import MysticAuth.Tokens.RefreshTokens

/-!
# Requests

Every request and background task that checks credentials, signs tokens or
revokes them, as one system over the shared stores.  Addresses are the
normalized ones the schemas produce, and a request that needs a permission is
one that was authorized.
-/

set_option autoImplicit false

namespace MysticAuth.Tokens

open Interleaving

def verifyPassword (password hashedPassword : String) : Bool :=
  password == hashedPassword

def refuse {α : Type} (statusCode : Nat) (code detail : String) : Service α :=
  throw (.app ⟨statusCode, code, [detail], []⟩)

def internalServerError : AppError :=
  ⟨500, "INTERNAL_SERVER_ERROR", ["Internal server error"], []⟩

/-- `get_or_404`. -/
def getOr404 (email : String) : Service User := do
  let some user ← getByEmail email | refuse 404 "USER_NOT_FOUND" "User not found"
  return user

/-! ## Sign-in -/

/-- A missing hash is compared with a dummy that no password verifies. -/
def login (settings : Settings) (email password : String) :
    Service (Option (Payload × Payload)) :=
  tryCatch (do
    if email = "" || password = "" then return none
    let found ← getByEmail email
    let passwordMatches := (found.bind User.hashedPassword).any (verifyPassword password)
    let some user := found | return none
    if !user.isVerified then return none
    if !user.isActive then return none
    if !passwordMatches then return none
    execute (.setLastLogin user.id) id
    let chainId ← perform .uuid
    let (accessToken, refreshToken) ← gatherTokens settings email chainId
    if let some payload ← decodePayload refreshToken then
      if let (some jti, some exp) := (payload.jti, payload.exp) then
        createSession user.id jti chainId exp
    return some (accessToken, refreshToken)) fun
  | .app error => throw (.app error)
  | _ => return none

def getCurrentUser (settings : Settings) (accessToken : Payload) : Service User :=
  tryCatch (do
    let some payload ← verifyToken settings accessToken (some .access) |
      refuse 401 "INVALID_OR_EXPIRED_TOKEN" "Invalid or expired token"
    let some email := payload.email | refuse 401 "INVALID_TOKEN_PAYLOAD" "Invalid token payload"
    let some user ← getByEmail email | refuse 401 "USER_NOT_FOUND" "User not found"
    if !user.isActive then refuse 403 "ACCOUNT_DEACTIVATED" "Account is deactivated"
    return user) fun
  | .databaseError => throw (.app serviceUnavailableError)
  | .app error => throw (.app error)
  | _ => throw (.app internalServerError)

/-! ## Changes of the password -/

/-- Whether the other sessions were confirmed to be revoked. -/
def confirmed {α : Type} (revocation : Service α) : Service Bool :=
  tryCatch (do
    let _ ← revocation
    return true) fun
  | .tokenVersionUnavailable => return false
  | error => throw error

def assertCurrentPassword (user : User) (currentPassword : Option String) : Service Unit := do
  if let some hashedPassword := user.hashedPassword then
    if !currentPassword.any (verifyPassword · hashedPassword) then
      refuse 400 "CURRENT_PASSWORD_INCORRECT" "Current password is incorrect"

def assertPasswordDiffers (user : User) (password : String) : Service Unit := do
  if user.hashedPassword.any (verifyPassword password) then
    refuse 400 "PASSWORD_MUST_DIFFER_FROM_CURRENT"
      "New password must be different from the current password"

/-- A password change by the user himself: the chain that made it continues with new tokens. -/
def updateMyProfile (settings : Settings) (accessToken : Payload)
    (currentPassword : Option String) (password : String) :
    Service (Bool × Option (Payload × Payload)) := do
  let currentUser ← getCurrentUser settings accessToken
  let user ← getOr404 currentUser.email
  assertCurrentPassword user currentPassword
  assertPasswordDiffers user password
  execute (.setPassword user.id password) id
  let currentPayload ← decodePayload accessToken
  match currentPayload.bind Payload.chain with
  | none =>
    let sessionsRevoked ← confirmed (revokeAllTokensForUser currentUser.email)
    return (sessionsRevoked, none)
  | some chainId =>
    let sessionsRevoked ←
      confirmed (revokeAllTokensForUserExceptChain currentUser.email chainId)
    let newAccessToken ← createAccessToken settings currentUser.email chainId none none
    let newRefreshToken ← createRefreshToken settings currentUser.email chainId none none
    if let some payload ← decodePayload newRefreshToken then
      if let (some jti, some exp) := (payload.jti, payload.exp) then
        rotateSessionByChain chainId jti exp (some currentUser.email)
    return (sessionsRevoked, some (newAccessToken, newRefreshToken))

/-- From the point where the link has been consumed and the new password found strong enough. -/
def resetPassword (email newPassword : String) : Service (Bool × Option Bool) :=
  tryCatch (do
    let some user ← getByEmail email | return (false, none)
    if user.hashedPassword.any (verifyPassword newPassword) then return (false, none)
    let some user ← getByEmail email | return (false, none)
    execute (.setPassword user.id newPassword) id
    let sessionsRevoked ← confirmed (revokeAllTokensForUser email)
    return (true, some sessionsRevoked)) fun
  | .app error => throw (.app error)
  | _ => return (false, none)

def updateAnyUser (userEmail password : String) : Service Bool := do
  let user ← getOr404 userEmail
  assertPasswordDiffers user password
  execute (.setPassword user.id password) id
  let sessionsRevoked ← confirmed (revokeAllTokensForUser userEmail)
  logSecurityEvent
  return sessionsRevoked

/-! ## Sign-out -/

/-- `none` where there is no refresh token cookie. -/
def handleLogout (refreshToken : Option Payload) : Service (Option Bool) := do
  let some token := refreshToken | return none
  let payload := (← decodePayload token).filter (·.type == .refresh)
  let sessionRevoked ←
    revokeSessionOnLogout (payload.bind Payload.jti) (payload.bind Payload.email)
  logSecurityEvent
  return some sessionRevoked

def handleLogoutAll (refreshToken : Option Payload) : Service (Option Nat) := do
  let some token := refreshToken | return none
  let payload := (← decodePayload token).filter (·.type == .refresh)
  let email := payload.bind Payload.email
  tryCatch (do
    let revokedCount ← match email with
      | some email => revokeAllTokensForUser email
      | none => pure 0
    logSecurityEvent
    return some revokedCount) fun
  | .tokenVersionUnavailable => do
    logSecurityEvent
    refuse 503 "SESSION_REVOCATION_UNAVAILABLE"
      "Could not confirm logout from all devices; please try again shortly"
  | _ => refuse 500 "INTERNAL_SERVER_ERROR" "Internal Server Error"

/-- Manage Sessions ends another device of the caller. -/
def handleRevokeSession (settings : Settings) (accessToken : Payload)
    (refreshToken : Option Payload) (sessionId : Nat) : Service Unit :=
  tryCatch (do
    let currentUser ← getCurrentUser settings accessToken
    let some user ← getByEmail currentUser.email | refuse 404 "SESSION_NOT_FOUND" "Session not found"
    let some target ← execute (.selectSessionById sessionId) id |
      refuse 404 "SESSION_NOT_FOUND" "Session not found"
    if target.userId != user.id then refuse 404 "SESSION_NOT_FOUND" "Session not found"
    let payload ← match refreshToken with
      | some token => decodePayload token
      | none => pure none
    let currentChainId := (payload.filter (·.type == .refresh)).bind Payload.chain
    if currentChainId.isSome && target.chainId == currentChainId then
      refuse 400 "CANNOT_REVOKE_CURRENT_SESSION" "Use Logout to end your current session"
    if (← revokeOneSession currentUser.email sessionId).isNone then
      refuse 404 "SESSION_NOT_FOUND" "Session not found"
    logSecurityEvent) fun
  | .app error => throw (.app error)
  | .tokenVersionUnavailable =>
    refuse 503 "SESSION_REVOCATION_UNAVAILABLE"
      "Could not confirm this session was revoked; please try again shortly"
  | .databaseError => refuse 500 "DATABASE_ERROR" "Database error"
  | _ => throw (.app internalServerError)

/-! ## Account lifecycle -/

/-- The soft deletion counts as done whether or not the sessions were revoked. -/
def softDeleteUser (user : User) : Service Bool := do
  let deletedAt ← perform .clock
  execute (.softDelete user.id deletedAt) id
  let sessionsRevoked ← confirmed (revokeAllTokensForUser user.email)
  logSecurityEvent
  return sessionsRevoked

/-- An account without a password gets a confirmation link instead. -/
def deleteMyAccount (settings : Settings) (accessToken : Payload)
    (currentPassword : Option String) : Service Bool := do
  let currentUser ← getCurrentUser settings accessToken
  let user ← getOr404 currentUser.email
  if user.hashedPassword.isNone then return false
  assertCurrentPassword user currentPassword
  softDeleteUser user

/-- From the point where the confirmation link has been consumed. -/
def confirmDeletion (email : String) (accountVer : Nat) : Service Bool :=
  tryCatch (do
    if accountVer != (← getAccountVersion email) then return false
    let some user ← getByEmail email | return false
    let _ ← softDeleteUser user
    return true) fun _ => return false

def deleteAnyUser (userEmail : String) : Service Bool := do
  let user ← getOr404 userEmail
  softDeleteUser user

def reactivateUser (userEmail : String) : Service Unit := do
  let user ← getOr404 userEmail
  if user.deletedAt.isNone then refuse 400 "USER_NOT_DELETED" "User is not deleted"
  execute (.reactivate user.id) id
  logSecurityEvent

/-- `user` stays loaded in the request's database session, so that the locking query finds out
whether the row exists but hands back the instance as it was loaded. -/
def lockById (user : User) : Service (Option User) := do
  if ← execute (.lockUser user.id) id then return some user
  else return none

def purgeUserAccount (user : User) : Service Nat := do
  let wasSoftDeleted := user.deletedAt.isSome
  let some lockedUser ← lockById user | throw .accountNoLongerEligibleForPurge
  if wasSoftDeleted && lockedUser.deletedAt.isNone then
    throw .accountNoLongerEligibleForPurge
  let revokedCount ← revokeAllTokensForUser user.email
  logSecurityEvent
  execute (.deleteUser lockedUser.id) id
  return revokedCount

/-- The end of the database session, with or without an exception. -/
def withSession {α : Type} (body : Service α) : Service α := do
  let value ← tryCatch body fun error => do
    perform .closeSession
    throw error
  perform .closeSession
  return value

def purgeUser (userEmail : String) : Service Nat :=
  withSession (do
    let user ← getOr404 userEmail
    tryCatch (purgeUserAccount user) fun
    | .tokenVersionUnavailable =>
      refuse 503 "SESSION_REVOCATION_UNAVAILABLE"
        "Could not confirm existing sessions were revoked; purge was not performed. Please try again shortly"
    | .accountNoLongerEligibleForPurge =>
      refuse 409 "USER_NOT_DELETED" "User was reactivated and is no longer eligible for purge"
    | error => throw error)

/-- One account that cannot be purged does not stop the batch. -/
def purgeAccounts : List User → Service Nat
  | [] => return 0
  | user :: rest => do
    let purged ← tryCatch (do
      let _ ← purgeUserAccount user
      return 1) fun
    | .tokenVersionUnavailable => return 0
    | .accountNoLongerEligibleForPurge => return 0
    | error => throw error
    return purged + (← purgeAccounts rest)

def purgeExpiredSoftDeletedAccounts (settings : Settings) : Service Nat :=
  withSession (do
    let now ← perform .clock
    let expiredUsers ←
      execute (.selectUsersDeletedBefore (now - settings.accountPurgeGrace)) id
    purgeAccounts expiredUsers)

/-! ## Maintenance -/

/-- At most the given number of batches; the loop of the source stops at the first short one. -/
def purgeConsumedRefreshTokens : Nat → Service Nat
  | 0 => return 0
  | batches + 1 => do
    let batchCount ← execute .deleteExpiredClaims id
    if batchCount < 5000 then return batchCount
    return batchCount + (← purgeConsumedRefreshTokens batches)

def purgeExpiredSessions (settings : Settings) : Service Nat := do
  let now ← perform .clock
  execute (.deleteSessionsExpiredBefore (now - settings.sessionRowRetention)) id

/-! ## The system -/

inductive Request where
  | login (email password : String)
  | refresh (refreshToken : Payload) (clientIp : Option String)
  | verify (token : Payload) (expectedType : Option TokenType)
  | updateMyProfile (accessToken : Payload) (currentPassword : Option String) (password : String)
  | resetPassword (email newPassword : String)
  | updateAnyUser (userEmail password : String)
  | logout (refreshToken : Option Payload)
  | logoutAll (refreshToken : Option Payload)
  | revokeSession (accessToken : Payload) (refreshToken : Option Payload) (sessionId : Nat)
  | deleteMyAccount (accessToken : Payload) (currentPassword : Option String)
  | confirmDeletion (email : String) (accountVer : Nat)
  | deleteAnyUser (userEmail : String)
  | reactivateUser (userEmail : String)
  | purgeUser (userEmail : String)
  | purgeExpiredSoftDeletedAccounts
  | purgeConsumedRefreshTokens (batches : Nat)
  | purgeExpiredSessions
  deriving DecidableEq

inductive Response where
  | tokens (pair : Option (Payload × Payload))
  | verified (payload : Option Payload)
  | profile (sessionsRevoked : Bool) (pair : Option (Payload × Payload))
  | reset (success : Bool) (sessionsRevoked : Option Bool)
  | loggedOut (sessionRevoked : Option Bool)
  | loggedOutAll (revokedCount : Option Nat)
  | done
  | flag (value : Bool)
  | count (value : Nat)
  deriving DecidableEq

/-- The `service` with its value as a response. -/
def respond {α : Type} (response : α → Response) (service : Service α) : Service Response := do
  return response (← service)

def handle (settings : Settings) : Request → Service Response
  | .login email password => respond .tokens (login settings email password)
  | .refresh refreshToken clientIp =>
      respond .tokens (refreshTokens settings refreshToken clientIp)
  | .verify token expectedType => respond .verified (verifyToken settings token expectedType)
  | .updateMyProfile accessToken currentPassword password =>
      respond (fun result => .profile result.1 result.2)
        (updateMyProfile settings accessToken currentPassword password)
  | .resetPassword email newPassword =>
      respond (fun result => .reset result.1 result.2) (resetPassword email newPassword)
  | .updateAnyUser userEmail password => respond .flag (updateAnyUser userEmail password)
  | .logout refreshToken => respond .loggedOut (handleLogout refreshToken)
  | .logoutAll refreshToken => respond .loggedOutAll (handleLogoutAll refreshToken)
  | .revokeSession accessToken refreshToken sessionId =>
      respond (fun _ => .done) (handleRevokeSession settings accessToken refreshToken sessionId)
  | .deleteMyAccount accessToken currentPassword =>
      respond .flag (deleteMyAccount settings accessToken currentPassword)
  | .confirmDeletion email accountVer => respond .flag (confirmDeletion email accountVer)
  | .deleteAnyUser userEmail => respond .flag (deleteAnyUser userEmail)
  | .reactivateUser userEmail => respond (fun _ => .done) (reactivateUser userEmail)
  | .purgeUser userEmail => respond .count (purgeUser userEmail)
  | .purgeExpiredSoftDeletedAccounts => respond .count (purgeExpiredSoftDeletedAccounts settings)
  | .purgeConsumedRefreshTokens batches => respond .count (purgeConsumedRefreshTokens batches)
  | .purgeExpiredSessions => respond .count (purgeExpiredSessions settings)

def server (settings : Settings) : System Request World Disturbance Reply ServiceError Response where
  handle := handle settings
  outcomes := outcomes
  disturb := disturb

abbrev Server := Config Request World Reply ServiceError Response

end MysticAuth.Tokens
