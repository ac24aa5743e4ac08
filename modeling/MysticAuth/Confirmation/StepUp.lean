import MysticAuth.Interleaving.Histories
import MysticAuth.OAuth.OAuth2Login
import MysticAuth.Tokens.Requests

/-!
# Step-up before a change of passkeys

A session chain counts as confirmed for a while after its row in the session
mirror was created, and after each proof of identity.  The requests here run
next to all those that sign and revoke tokens; every reply carries the time at
which it was given.
-/

set_option autoImplicit false

namespace MysticAuth.StepUp

open Interleaving Tokens

/-! ## The stores -/

structure Store where
  world : World
  /-- The `created_at` column of the session mirror, by the id of the row. -/
  createdAt : Nat → Nat
  /-- When the key `passkey_stepup:{chain_id}` expires. -/
  confirmations : Nat → Option Nat

def stepUpWindowSeconds : Nat := 900

namespace Store

variable (store : Store)

/-- The stores after a statement of another service; a new row gets the time of its insertion. -/
def withWorld (world : World) : Store :=
  { store with
    world
    createdAt :=
      if store.world.nextSessionId < world.nextSessionId then
        Function.update store.createdAt store.world.nextSessionId store.world.now
      else store.createdAt }

def confirm (chainId : Nat) : Store :=
  { store with
    confirmations := Function.update store.confirmations chainId
      (some (store.world.now + stepUpWindowSeconds)) }

def isConfirmed (chainId : Nat) : Bool :=
  (store.confirmations chainId).any (store.world.now < ·)

end Store

structure LiveSession where
  session : UserSession
  createdAt : Nat
  deriving DecidableEq

/-! ## Calls -/

/-- The login protection counts the failures for an address from a client. -/
inductive Call where
  | token (call : Tokens.Call)
  | selectLiveSession (userId chainId : Nat)
  | confirmationExists (chainId : Nat)
  | setConfirmation (chainId : Nat)
  /-- `passkey_service.finish_authentication`: the user whose passkey signed the challenge -/
  | finishAuthentication (credential : Nat)
  | isLocked (email : String) (clientIp : Option String)
  | recordFailedAttempt (email : String) (clientIp : Option String)
  | getRemainingSeconds (email : String) (clientIp : Option String)
  | resetFailedAttempts (email : String) (clientIp : Option String)
  deriving DecidableEq

@[reducible] def Result : Call → Type
  | .token call => Tokens.Reply call
  | .selectLiveSession _ _ => Except ServiceError (Option LiveSession)
  | .confirmationExists _ => Except ServiceError Bool
  | .setConfirmation _ => Except ServiceError Unit
  | .finishAuthentication _ => Except ServiceError (Option Nat)
  | .isLocked _ _ => Except ServiceError Bool
  | .recordFailedAttempt _ _ => Except ServiceError Bool
  | .getRemainingSeconds _ _ => Except ServiceError Nat
  | .resetFailedAttempts _ _ => Except ServiceError Unit

structure Stamped (α : Type) where
  value : α
  time : Nat
  deriving DecidableEq

@[reducible] def Reply (call : Call) : Type :=
  Stamped (Result call)

/-- An answered call. -/
abbrev Event := Interleaving.Event Reply

/-- What a deployment fixes; `sameAccount` compares Google's address with the stored one. -/
structure Site where
  settings : Settings
  credentialOwner : Nat → Option Nat
  sameAccount : String → String → Bool

def results (site : Site) (thread : Nat) (call : Call) (store : Store) :
    List (Result call × Store) :=
  match call with
  | .token call =>
      (Tokens.outcomes thread call store.world).map fun outcome =>
        (outcome.1, store.withWorld outcome.2)
  | .selectLiveSession userId chainId =>
      -- `db.scalar` takes the first row, in no particular order
      let rows := store.world.sessions.filter fun session =>
        session.userId == userId && session.chainId == some chainId
      let found := if rows = [] then [none]
        else rows.map fun session => some ⟨session, store.createdAt session.id⟩
      (.error .databaseError, store) :: found.map fun row => (.ok row, store)
  | .confirmationExists chainId =>
      [(.ok (store.isConfirmed chainId), store), (.error .valkeyError, store)]
  | .setConfirmation chainId =>
      [(.ok (), store.confirm chainId), (.error .valkeyError, store),
        (.error .valkeyError, store.confirm chainId)]
  | .finishAuthentication credential =>
      [(.ok (site.credentialOwner credential), store), (.ok none, store),
        (.error .databaseError, store)]
  | .isLocked _ _ =>
      [(.ok true, store), (.ok false, store), (.error (.app serviceUnavailableError), store)]
  | .recordFailedAttempt _ _ =>
      [(.ok true, store), (.ok false, store), (.error (.app serviceUnavailableError), store)]
  | .getRemainingSeconds _ _ => [(.ok 0, store), (.error .valkeyError, store)]
  | .resetFailedAttempts _ _ => [(.ok (), store), (.error .valkeyError, store)]

def outcomes (site : Site) (thread : Nat) (call : Call) (store : Store) :
    List (Reply call × Store) :=
  (results site thread call store).map fun outcome =>
    (⟨outcome.1, store.world.now⟩, outcome.2)

/-- Valkey may also lose a confirmation before it expires. -/
inductive Disturbance where
  | token (disturbance : Tokens.Disturbance)
  | loseConfirmation (chainId : Nat)

def disturb (disturbance : Disturbance) (store : Store) : Store :=
  match disturbance with
  | .token disturbance => store.withWorld (Tokens.disturb disturbance store.world)
  | .loseConfirmation chainId =>
      { store with confirmations := Function.update store.confirmations chainId none }

/-! ## The step-up handler -/

abbrev Service (α : Type) := Program Reply ServiceError α

def execute {α : Type} (call : Call) (result : Result call → Except ServiceError α) : Service α :=
  .attempt call fun reply => result reply.value

/-- A service of the token system, run here. -/
def lift {α : Type} (service : Tokens.Service α) : Service α :=
  service.embed .token fun _ reply => reply.value

def raise {α : Type} (error : AppError) : Service α :=
  throw (.app error)

def stepUpRequired : AppError :=
  ⟨403, "PASSKEY_STEP_UP_REQUIRED", ["Confirm your identity before changing passkeys."], []⟩

/-- The caller's user, his row in the session mirror and his chain. -/
def liveSession (email : String) (accessToken : Payload) :
    Service (Tokens.User × LiveSession × Nat) := do
  let payload ← lift (decodePayload accessToken)
  let found ← lift (getByEmail email)
  match payload.bind Payload.chain, found with
  | some chainId, some user =>
    match ← execute (.selectLiveSession user.id chainId) id with
    | some session => return (user, session, chainId)
    | none => raise stepUpRequired
  | _, _ => raise stepUpRequired

def requireStepUp (email : String) (accessToken : Payload) : Service Unit := do
  let (_, session, chainId) ← liveSession email accessToken
  let now ← lift (perform .clock)
  if now ≤ session.createdAt + stepUpWindowSeconds then return ()
  let confirmed ← tryCatch (execute (.confirmationExists chainId) id) fun _ => return false
  if !confirmed then raise stepUpRequired

/-- The headers of the response repeat the remaining time. -/
def throttled (retryAfterSeconds : Nat) : AppError :=
  ⟨429, "LOGIN_THROTTLED", ["Too many failed confirmation attempts."],
    [("minutes", toString (max 1 ((retryAfterSeconds + 59) / 60)))]⟩

def checkStepUpLock (email : String) (clientIp : Option String) : Service Unit := do
  if ← execute (.isLocked email clientIp) id then
    lift logSecurityEvent
    raise (throttled (← execute (.getRemainingSeconds email clientIp) id))

def failStepUp {α : Type} (email : String) (clientIp : Option String) (error : AppError) :
    Service α := do
  lift logSecurityEvent
  if !(← execute (.recordFailedAttempt email clientIp) id) then
    lift logSecurityEvent
    raise (throttled (← execute (.getRemainingSeconds email clientIp) id))
  raise error

def recordStepUp (chainId : Nat) : Service Unit := do
  tryCatch (execute (.setConfirmation chainId) id) fun _ =>
    raise ⟨503, "SERVICE_UNAVAILABLE", ["Could not record the confirmation. Try again."], []⟩
  lift logSecurityEvent

/-- Returns how long the confirmation lasts. -/
def grantStepUp (email : String) (clientIp : Option String) (chainId : Nat) : Service Nat := do
  recordStepUp chainId
  execute (.resetFailedAttempts email clientIp) id
  return stepUpWindowSeconds

def confirmWithPassword (email : String) (accessToken : Payload) (password : String)
    (clientIp : Option String) : Service Nat := do
  let (user, _, chainId) ← liveSession email accessToken
  match user.hashedPassword with
  | none =>
    raise ⟨400, "PASSKEY_STEP_UP_PASSWORD_UNAVAILABLE",
      ["This account has no password. Confirm with a passkey or sign in again."], []⟩
  | some hashedPassword =>
    checkStepUpLock user.email clientIp
    if verifyPassword password hashedPassword then grantStepUp user.email clientIp chainId
    else
      failStepUp user.email clientIp
        ⟨400, "CURRENT_PASSWORD_INCORRECT", ["Current password is incorrect"], []⟩

section Service

variable (site : Site)

def confirmWithPasskey (email : String) (accessToken : Payload) (credential : Nat)
    (clientIp : Option String) : Service Nat := do
  let (user, _, chainId) ← liveSession email accessToken
  checkStepUpLock user.email clientIp
  let verified ← execute (.finishAuthentication credential) id
  if verified = some user.id then grantStepUp user.email clientIp chainId
  else
    failStepUp user.email clientIp
      ⟨401, "PASSKEY_STEP_UP_FAILED", ["Passkey confirmation failed"], []⟩

/-- The callback of a step-up with Google, from the point where Google has named the user. -/
def confirmWithGoogle (chainId : Nat) (email : String) (userInfo : OAuth.UserInfo) :
    Service String :=
  tryCatch (do
    match userInfo.email with
    | none => return "OAUTH_LOGIN_FAILED"
    | some verifiedEmail =>
      if !userInfo.emailVerified then return "OAUTH_EMAIL_NOT_VERIFIED"
      let found ← lift (getByEmail email)
      if !found.any Tokens.User.isActive || !site.sameAccount verifiedEmail email then
        lift logSecurityEvent
        return "PASSKEY_STEP_UP_FAILED"
      recordStepUp chainId
      return "ok") fun _ => return "PASSKEY_STEP_UP_FAILED"

/-- A login with a passkey or with Google, from the point where the user is known. -/
def signIn (user : Tokens.User) : Tokens.Service (Payload × Payload) := do
  Tokens.execute (.setLastLogin user.id) id
  let chainId ← Tokens.perform .uuid
  let (accessToken, refreshToken) ← gatherTokens site.settings user.email chainId
  if let some payload ← decodePayload refreshToken then
    if let (some jti, some exp) := (payload.jti, payload.exp) then
      createSession user.id jti chainId exp
  return (accessToken, refreshToken)

inductive Request where
  | token (request : Tokens.Request)
  | signIn (user : Tokens.User)
  | requireStepUp (email : String) (accessToken : Payload)
  | confirmWithPassword (email : String) (accessToken : Payload) (password : String)
      (clientIp : Option String)
  | confirmWithPasskey (email : String) (accessToken : Payload) (credential : Nat)
      (clientIp : Option String)
  | confirmWithGoogle (chainId : Nat) (email : String) (userInfo : OAuth.UserInfo)
  deriving DecidableEq

inductive Response where
  | token (response : Tokens.Response)
  | signedIn (pair : Payload × Payload)
  | passed
  | confirmed (expiresIn : Nat)
  | returned (result : String)
  deriving DecidableEq

def handle : Request → Service Response
  | .token request => do return .token (← lift (Tokens.handle site.settings request))
  | .signIn user => do return .signedIn (← lift (signIn site user))
  | .requireStepUp email accessToken => do
      requireStepUp email accessToken
      return .passed
  | .confirmWithPassword email accessToken password clientIp => do
      return .confirmed (← confirmWithPassword email accessToken password clientIp)
  | .confirmWithPasskey email accessToken credential clientIp => do
      return .confirmed (← confirmWithPasskey email accessToken credential clientIp)
  | .confirmWithGoogle chainId email userInfo => do
      return .returned (← confirmWithGoogle site chainId email userInfo)

end Service

def server (site : Site) : System Request Store Disturbance Reply ServiceError Response where
  handle := handle site
  outcomes := outcomes site
  disturb := disturb

abbrev Server := Config Request Store Reply ServiceError Response

end MysticAuth.StepUp
