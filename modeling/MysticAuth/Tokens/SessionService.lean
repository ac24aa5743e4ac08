import MysticAuth.Tokens.JwtService

/-!
# The session mirror

`session_repository` and `session_service`: one row per login, kept for
display and for finding the chain to revoke.  Nearly every method catches what
it raises, so that the mirror never fails a request.
-/

set_option autoImplicit false

namespace MysticAuth.Tokens

open Interleaving

/-- `except Exception: logger.warning(...)`. -/
def bestEffort (body : Service Unit) : Service Unit :=
  tryCatch body fun _ => return ()

def getByEmail (email : String) : Service (Option User) :=
  execute (.selectUserByEmail email) id

/-- Moves the found row to the new token and returns whether there was one. -/
def moveFoundSession (found : Option UserSession) (newJti newExp : Nat) : Service Bool := do
  match found with
  | none => return false
  | some session =>
    execute (.moveSession session.id newJti newExp) id
    return true

/-- A session without a row gets one. -/
def backfillSession (email : Option String) (jti chainId exp : Nat) : Service Unit := do
  let some email := email | return ()
  let some user ← getByEmail email | return ()
  execute (.insertSession user.id jti chainId exp) id

def createSession (userId jti chainId exp : Nat) : Service Unit :=
  bestEffort (execute (.insertSession userId jti chainId exp) id)

/-- A changed client context is written to the audit log, which no request reads. -/
def rotateSession (oldJti newJti chainId newExp : Nat) (email : Option String) : Service Unit :=
  bestEffort (do
    let found ← execute (.selectSessionByJti oldJti) id
    if ← moveFoundSession found newJti newExp then
      bestEffort (execute .insertAuditEntry id)
    else
      backfillSession email newJti chainId newExp)

def rotateSessionByChain (chainId newJti newExp : Nat) (email : Option String) : Service Unit :=
  bestEffort (do
    let found ← execute (.selectSessionByChain chainId) id
    if ← moveFoundSession found newJti newExp then return ()
    else backfillSession email newJti chainId newExp)

/-- Ends the session a refresh token belongs to.  `false` means that the chain's version could
not be confirmed to be bumped; everything else is `true`. -/
def revokeSessionOnLogout (jti : Option Nat) (email : Option String) : Service Bool := do
  let some jti := jti | return true
  tryCatch (do
    let some session ← execute (.selectSessionByJti jti) id | return true
    let confirmed ← match email, session.chainId with
      | some email, some chainId => bumpChainVersion email chainId
      | _, _ => pure true
    if !confirmed then return false
    let some row ← execute (.selectSessionByJti jti) id | return true
    execute (.deleteSession row.id) id
    return true) fun _ => return true

def revokeAllSessions (email : String) (exemptChainId : Option Nat) : Service Unit :=
  bestEffort (do
    let some user ← getByEmail email | return ()
    let _ ← execute (.deleteSessionsOf user.id exemptChainId) id
    return ())

def revokeChain (chainId : Nat) : Service Unit :=
  bestEffort (do
    let some session ← execute (.selectSessionByChain chainId) id | return ()
    execute (.deleteSession session.id) id)

def countActiveSessions (email : String) : Service Nat := do
  let some user ← getByEmail email | return 0
  execute (.countActiveSessions user.id) id

/-- Bumps the chain before the row goes, so that the two never disagree. -/
def revokeOneSession (email : String) (sessionId : Nat) : Service (Option UserSession) := do
  let some user ← getByEmail email | return none
  let some target ← execute (.selectSessionById sessionId) id | return none
  if target.userId != user.id then return none
  if let some chainId := target.chainId then
    if !(← bumpChainVersion email chainId) then
      throw .tokenVersionUnavailable
  execute (.deleteSession target.id) id
  return some target

end MysticAuth.Tokens
