import MysticAuth.Tokens.SessionService

/-!
# Refresh tokens

The single-use claim of a refresh token, the revocations, and the rotation.
-/

set_option autoImplicit false

namespace MysticAuth.Tokens

open Interleaving

/-! ## Claims -/

structure RefreshRotationClaim where
  claimed : Bool
  consumedAt : Option Nat
  accountVer : Option Nat
  chainVer : Option Nat
  clientIp : Option String
  legacyValkeyMarker : Bool

def withinGrace (settings : Settings) (claimedAt now : Nat) : Bool :=
  decide (claimedAt ≤ now) && decide (now - claimedAt ≤ settings.refreshTokenReuseGrace)

def isBenignDuplicateRotation (settings : Settings) (jti : Nat) (clientIp : Option String) :
    Service Bool := do
  if settings.refreshTokenReuseGrace = 0 then return false
  orUnavailable (do
    match ← execute (.selectClaim jti) id with
    | none =>
      match ← execute (.getMarker jti) id with
      | some (.stamped claimedAt claimedIp) =>
        let now ← perform .clock
        return withinGrace settings claimedAt now && claimedIp == clientIp.getD ""
      | _ => return false
    | some row =>
      let now ← perform .clock
      return withinGrace settings row.consumedAt now && row.clientIp == clientIp)

/-- Only the call that inserts the row has claimed the token. -/
def insertOrFindClaim (row : ClaimRow) : Service RefreshRotationClaim := do
  match ← execute (.insertClaim row) id with
  | some consumed =>
    return ⟨true, some consumed.consumedAt, some consumed.accountVer, some consumed.chainVer,
      consumed.clientIp, false⟩
  | none =>
    match ← execute (.selectClaim row.jti) id with
    | some consumed =>
      return ⟨false, some consumed.consumedAt, some consumed.accountVer, some consumed.chainVer,
        consumed.clientIp, false⟩
    | none => throw .other

def claimJtiForRotation (jti : Nat) (exp : Option Nat) (clientIp : Option String)
    (accountVer chainVer : Nat) : Service RefreshRotationClaim :=
  orUnavailable (do
    let some expiry := exp | throw .other
    let legacy ← tryCatch (execute (.markerExists jti) id) fun _ => return false
    if legacy then return ⟨false, none, none, none, clientIp, true⟩
    insertOrFindClaim ⟨jti, expiry, clientIp, accountVer, chainVer⟩)

/-! ## Revocations -/

/-- `except Exception: logger.error(...); return default`, past the unconfirmed bump. -/
def unlessUnavailable {α : Type} (default : α) (body : Service α) : Service α :=
  tryCatch body fun
  | .tokenVersionUnavailable => throw .tokenVersionUnavailable
  | _ => return default

/-- The bump of the account, the best-effort count and the mirror rows of every session but the
exempt one. -/
def revokeAccountTokens (email : String) (exemptChainId : Option Nat) : Service Nat := do
  if !(← bumpAccountVersion email) then throw .tokenVersionUnavailable
  let activeCount ← tryCatch (countActiveSessions email) fun _ => return 0
  revokeAllSessions email exemptChainId
  return activeCount

def revokeAllTokensForUser (email : String) : Service Nat :=
  unlessUnavailable 0 (revokeAccountTokens email none)

def revokeAllTokensForUserExceptChain (email : String) (exemptChainId : Nat) : Service Nat :=
  unlessUnavailable 0 (do
    let activeCount ← revokeAccountTokens email (some exemptChainId)
    return activeCount - 1)

def revokeChainForUser (email : String) (chainId : Nat) : Service Unit :=
  unlessUnavailable () (do
    if !(← bumpChainVersion email chainId) then throw .tokenVersionUnavailable
    revokeChain chainId)

/-- `log_security_event`. -/
def logSecurityEvent : Service Unit :=
  bestEffort (execute .insertAuditEntry id)

def handleReuseDetected (payload : Payload) : Service Unit := do
  let some email := payload.email | return ()
  tryCatch (match payload.chain with
    | some chainId => revokeChainForUser email chainId
    | none => do
      let _ ← revokeAllTokensForUser email
      return ()) fun
  | .tokenVersionUnavailable => return ()
  | error => throw error
  logSecurityEvent

/-! ## Rotation -/

/-- The new pair, unless the chain was revoked meanwhile. -/
def mintDescendants (settings : Settings) (email : String) (chainId jti : Nat)
    (claim : RefreshRotationClaim) : Service (Option (Payload × Payload)) := do
  let versions := match claim.accountVer, claim.chainVer with
    | some accountVer, some chainVer => some (accountVer, chainVer)
    | _, _ => none
  let newAccessToken ← createAccessToken settings email chainId claim.consumedAt versions
  let newRefreshToken ← createRefreshToken settings email chainId claim.consumedAt versions
  let some newPayload ← decodePayload newRefreshToken | return none
  let some newJti := newPayload.jti | return none
  let some newExp := newPayload.exp | return none
  if some (newPayload.accountVer.getD 0) != claim.accountVer then return none
  if some (newPayload.chainVer.getD 0) != claim.chainVer then return none
  if !(← isCurrentVersion newPayload) then return none
  rotateSession jti newJti chainId newExp (some email)
  return some (newAccessToken, newRefreshToken)

/-- The token is claimed once; who comes second is either a duplicate of the same client within
the grace window or a replay. -/
def rotateClaimed (settings : Settings) (payload : Payload) (email : String)
    (chainId jti accountVer chainVer : Nat) (clientIp : Option String) :
    Service (Option (Payload × Payload)) := do
  let claim ← claimJtiForRotation jti payload.exp clientIp accountVer chainVer
  if !claim.claimed then
    if !(← isBenignDuplicateRotation settings jti clientIp) then
      handleReuseDetected payload
    return none
  mintDescendants settings email chainId jti claim

def rotate (settings : Settings) (refreshToken : Payload) (clientIp : Option String) :
    Service (Option (Payload × Payload)) := do
  let some payload ← decodePayload refreshToken | return none
  if !hasValidIssuerAndAudience settings payload then return none
  let some jti := payload.jti | return none
  if payload.type != .refresh then return none
  if !(← isCurrentVersion payload) then return none
  match payload.email, payload.chain, payload.accountVer, payload.chainVer with
  | some email, some chainId, some accountVer, some chainVer =>
    rotateClaimed settings payload email chainId jti accountVer chainVer clientIp
  | _, _, _, _ => return none

/-- A store outage is a 503, any other exception an ordinary refusal. -/
def refreshTokens (settings : Settings) (refreshToken : Payload) (clientIp : Option String) :
    Service (Option (Payload × Payload)) :=
  tryCatch (rotate settings refreshToken clientIp) fun
  | .tokenVersionUnavailable => throw (.app serviceUnavailableError)
  | .valkeyError => throw (.app serviceUnavailableError)
  | .databaseError => throw (.app serviceUnavailableError)
  | _ => return none

end MysticAuth.Tokens
