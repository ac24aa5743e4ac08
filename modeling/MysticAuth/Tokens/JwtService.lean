import MysticAuth.Tokens.World

/-!
# Token versions and tokens

`TokenVersionStore` and `JWTService`.  The Valkey copy of a version is written
after each bump and never read, so it is left out.
-/

set_option autoImplicit false

namespace MysticAuth.Tokens

open Interleaving

/-! ## The version store -/

/-- `except Exception: raise TokenVersionUnavailableError`. -/
def orUnavailable {α : Type} (body : Service α) : Service α :=
  tryCatch body fun _ => throw .tokenVersionUnavailable

def getVersions (email : String) (chainId : Nat) : Service (Nat × Nat) :=
  orUnavailable (execute (.selectVersions email chainId) id)

def getAccountVersion (email : String) : Service Nat :=
  orUnavailable (execute (.selectVersion (.account email)) id)

def getChainVersion (email : String) (chainId : Nat) : Service Nat :=
  orUnavailable (execute (.selectVersion (.chain email chainId)) id)

/-- Both statements are one transaction, whose first takes row locks; the second never lowers a
version, so that the locks are not needed for what is proved. -/
def bumpVersion (key : VersionKey) : Service Nat := do
  let current ← execute (.lockVersion key) id
  execute (.upsertVersion key (current + 1)) id

def tryBump (key : VersionKey) : Service Bool :=
  tryCatch (do
    let _ ← bumpVersion key
    return true) fun _ => return false

def bumpAccountVersion (email : String) : Service Bool :=
  tryBump (.account email)

def bumpChainVersion (email : String) (chainId : Nat) : Service Bool :=
  tryBump (.chain email chainId)

/-! ## Signing -/

def createToken (settings : Settings) (type : TokenType) (lifetime : Nat) (email : String)
    (chainId : Nat) (issuedAt : Option Nat) (versions : Option (Nat × Nat)) : Service Payload := do
  let now ← match issuedAt with
    | some time => pure time
    | none => perform .clock
  let jti ← perform .uuid
  let (accountVer, chainVer) ← match versions with
    | some given => pure given
    | none => getVersions email chainId
  let token : Payload :=
    { email := some email
      type
      jti := some jti
      chain := some chainId
      accountVer := some accountVer
      chainVer := some chainVer
      exp := some (now + lifetime)
      iss := some settings.jwtIssuer
      aud := some settings.jwtAudience }
  perform (.encode token)
  return token

def createAccessToken (settings : Settings) (email : String) (chainId : Nat)
    (issuedAt : Option Nat) (versions : Option (Nat × Nat)) : Service Payload :=
  createToken settings .access settings.accessTokenExpire email chainId issuedAt versions

def createRefreshToken (settings : Settings) (email : String) (chainId : Nat)
    (issuedAt : Option Nat) (versions : Option (Nat × Nat)) : Service Payload :=
  createToken settings .refresh settings.refreshTokenExpire email chainId issuedAt versions

/-- The access and the refresh token of a login, created concurrently: each reads the versions
itself, in either order.  A token is encoded after its own read, and neither is seen by anyone
before both exist. -/
def gatherTokens (settings : Settings) (email : String) (chainId : Nat) :
    Service (Payload × Payload) := do
  let now ← perform .clock
  let accessFirst ← perform .firstServed
  let first ← getVersions email chainId
  let second ← getVersions email chainId
  let accessVersions := if accessFirst then first else second
  let refreshVersions := if accessFirst then second else first
  let accessToken ← createAccessToken settings email chainId (some now) (some accessVersions)
  let refreshToken ← createRefreshToken settings email chainId (some now) (some refreshVersions)
  return (accessToken, refreshToken)

/-! ## Checking -/

def decodePayload (token : Payload) : Service (Option Payload) := do
  if ← perform (.decode token) then return some token
  else return none

def hasValidIssuerAndAudience (settings : Settings) (payload : Payload) : Bool :=
  payload.iss == some settings.jwtIssuer && payload.aud == some settings.jwtAudience

/-- A session token must carry every claim its check compares. -/
def lacksVersionClaims (payload : Payload) : Bool :=
  payload.type != .other &&
    (payload.email.isNone || payload.chain.isNone || payload.jti.isNone ||
      payload.accountVer.isNone || payload.chainVer.isNone)

def isCurrentAccountVersion (email : String) (accountVer : Option Nat) : Service Bool := do
  let some accountVer := accountVer | return true
  return accountVer == (← getAccountVersion email)

def isCurrentChainVersion (email : String) (chainId chainVer : Option Nat) : Service Bool := do
  let some chainId := chainId | return true
  let some chainVer := chainVer | return true
  return chainVer == (← getChainVersion email chainId)

def isCurrentVersion (payload : Payload) : Service Bool := do
  if lacksVersionClaims payload then return false
  let some email := payload.email | return true
  if !(← isCurrentAccountVersion email payload.accountVer) then return false
  isCurrentChainVersion email payload.chain payload.chainVer

def isTokenRevokedByJti (jti : Option Nat) : Service Bool :=
  match jti with
  | none => return false
  | some jti => execute (.markerExists jti) id

def serviceUnavailableError : AppError :=
  ⟨503, "SERVICE_UNAVAILABLE", ["Service temporarily unavailable"], []⟩

def verifyToken (settings : Settings) (token : Payload) (expectedType : Option TokenType) :
    Service (Option Payload) :=
  tryCatch (do
    let some payload ← decodePayload token | return none
    if !hasValidIssuerAndAudience settings payload then return none
    if ← isTokenRevokedByJti payload.jti then return none
    if !(← isCurrentVersion payload) then return none
    if expectedType.any (· != payload.type) then return none
    return some payload) fun
  | .tokenVersionUnavailable => throw (.app serviceUnavailableError)
  | .valkeyError => throw (.app serviceUnavailableError)
  | _ => return none

end MysticAuth.Tokens
