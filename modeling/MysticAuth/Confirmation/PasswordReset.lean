import MysticAuth.Accounts.EmailKeys
import MysticAuth.OAuth.OAuth2Login

/-!
# Password-reset links

An account has one active link: Valkey holds a pointer to its token and a
single-use marker of the token, each set, consumed and restored together by a
script.  A reset consumes its token first, and restores it where it fails for
a reason that a second try may not have.
-/

set_option autoImplicit false

namespace MysticAuth.PasswordReset

open Interleaving OAuth

/-! ## Tokens, Valkey and the users table -/

/-- The clock and the expiry of a token count microseconds, lifetimes in Valkey whole seconds. -/
def microsPerSecond : Nat := 1000000

/-- The claims of a reset token.  A missing address is empty; a token id is represented by the
number of its generation. -/
structure ResetToken where
  email : String
  jti : Option Nat
  exp : Option Nat
  deriving DecidableEq

structure Account where
  email : String
  hashedPassword : Option String
  deriving DecidableEq

structure Store where
  now : Nat
  nextJti : Nat
  /-- the active token of an account, under `_active_token_key` -/
  active : String → Entry Nat
  /-- the single-use markers, under `password_reset:{jti}` -/
  markers : Nat → Entry Unit
  accounts : List Account

/-- Python's NFKC normalization and character classes. -/
structure CharacterTables where
  normalize : String → String
  isUpper : Char → Bool
  isLower : Char → Bool
  isDigit : Char → Bool

/-- What a deployment fixes.  A token is genuine that has our signature, type, issuer and
audience. -/
structure Site where
  keys : KeyTables
  characters : CharacterTables
  genuine : ResetToken → Bool
  verifyHash : String → String → Bool
  hash : String → String
  resetTokenExpireMinutes : Nat

inductive Failure where
  /-- an `AppError`: too many hashes at once -/
  | app
  | tokenVersionUnavailable
  | other
  deriving DecidableEq

def validatePasswordStrength (characters : CharacterTables) (password : String) : Bool :=
  let normalized := (characters.normalize password).toList
  decide (8 ≤ normalized.length) && normalized.any characters.isUpper &&
    normalized.any characters.isLower && normalized.any characters.isDigit

/-! ## Calls -/

inductive Call where
  | createResetToken (email : String)
  | verifyResetToken (token : ResetToken)
  | storeResetToken (key : String) (jti expiresSeconds : Nat)
  | consumeResetToken (key : String) (jti : Nat)
  | restoreResetToken (key : String) (jti remaining : Nat)
  | currentTime
  | getByEmail (email : String)
  | verifyPassword (password hashed : String)
  | hashPassword (password : String)
  | updateByEmail (email hashed : String)
  | revokeAllTokensForUser (email : String)
  | deferEmail (email : String) (token : ResetToken)
  deriving DecidableEq

@[reducible] def Reply : Call → Type
  | .createResetToken _ => Except Failure ResetToken
  | .verifyResetToken _ => Option ResetToken
  | .storeResetToken _ _ _ => Except Failure Unit
  | .consumeResetToken _ _ => Except Failure Bool
  | .restoreResetToken _ _ _ => Except Failure Bool
  | .currentTime => Nat
  | .getByEmail _ => Except Failure (Option Account)
  | .verifyPassword _ _ => Except Failure Bool
  | .hashPassword _ => Except Failure String
  | .updateByEmail _ _ => Except Failure Bool
  | .revokeAllTokensForUser _ => Except Failure Unit
  | .deferEmail _ _ => Except Failure Unit

/-- An answered call. -/
abbrev Event := Interleaving.Event Reply

/-- A command or a commit, which may fail, or take effect without being acknowledged. -/
def executed {α : Type} (before after : Store) (value : α) : List (Except Failure α × Store) :=
  [(.ok value, after), (.error .other, before), (.error .other, after)]

namespace Store

variable (store : Store)

/-- `jwt.decode` truncates the expiry. -/
def expired (token : ResetToken) : Bool :=
  token.exp.any fun exp => exp / microsPerSecond * microsPerSecond ≤ store.now

/-- Both scripts that issue a link write the pointer and the marker. -/
def setLink (key : String) (jti seconds : Nat) : Store :=
  { store with
    active := Function.update store.active key (some (jti, store.now + seconds * microsPerSecond))
    markers := Function.update store.markers jti
      (some ((), store.now + seconds * microsPerSecond)) }

def dropLink (key : String) (jti : Nat) : Store :=
  { store with
    active := Function.update store.active key none
    markers := Function.update store.markers jti none }

def activeJti (key : String) : Option Nat :=
  live store.now (store.active key)

def marked (jti : Nat) : Bool :=
  (live store.now (store.markers jti)).isSome

def setPassword (email hashed : String) : Store :=
  { store with
    accounts := store.accounts.map fun account =>
      if account.email == email then { account with hashedPassword := some hashed } else account }

end Store

def outcomes (site : Site) (_ : Nat) (call : Call) (store : Store) : List (Reply call × Store) :=
  match call with
  | .createResetToken email =>
      let exp := store.now + site.resetTokenExpireMinutes * 60 * microsPerSecond
      [(.ok ⟨email, some store.nextJti, some exp⟩, { store with nextJti := store.nextJti + 1 }),
        (.error .other, store)]
  | .verifyResetToken token =>
      [(if site.genuine token && !store.expired token && !token.email.isEmpty then some token
        else none, store)]
  | .storeResetToken key jti expiresSeconds =>
      executed store (store.setLink key jti expiresSeconds) ()
  | .consumeResetToken key jti =>
      if store.activeJti key = some jti && store.marked jti then
        executed store (store.dropLink key jti) true
      else executed store store false
  | .restoreResetToken key jti remaining =>
      if (store.activeJti key).all (· == jti) then
        executed store (store.setLink key jti remaining) true
      else executed store store false
  | .currentTime => [(store.now, store)]
  | .getByEmail email =>
      [(.ok (store.accounts.find? (·.email == site.keys.normalizeEmail email)), store),
        (.error .other, store)]
  | .verifyPassword password hashed =>
      [(.ok (site.verifyHash password hashed), store), (.error .app, store),
        (.error .other, store)]
  | .hashPassword password =>
      [(.ok (site.hash password), store), (.error .app, store), (.error .other, store)]
  | .updateByEmail email hashed =>
      if store.accounts.any (·.email == site.keys.normalizeEmail email) then
        executed store (store.setPassword (site.keys.normalizeEmail email) hashed) true
      else [(.ok false, store), (.error .other, store)]
  | .revokeAllTokensForUser _ => [(.ok (), store), (.error .tokenVersionUnavailable, store)]
  | .deferEmail _ _ => [(.ok (), store), (.error .other, store)]

/-- Time passes, and other requests change the accounts. -/
inductive Disturbance where
  | elapse (micros : Nat)
  | changeAccounts (accounts : List Account)

def disturb (disturbance : Disturbance) (store : Store) : Store :=
  match disturbance with
  | .elapse micros => { store with now := store.now + micros }
  | .changeAccounts accounts => { store with accounts }

/-! ## The password reset service -/

abbrev Service (α : Type) := Program Reply Failure α

def perform (call : Call) : Service (Reply call) :=
  .perform call

def execute {α : Type} (call : Call) (result : Reply call → Except Failure α) : Service α :=
  .attempt call result

section Service

variable (site : Site)

def storeResetToken (email : String) (token : ResetToken) (expiresSeconds : Nat) :
    Service Bool := do
  match (← perform (.verifyResetToken token)).bind ResetToken.jti with
  | none => return false
  | some jti =>
    execute (.storeResetToken (site.keys.activeTokenKey email) jti expiresSeconds) id
    return true

def sendResetEmail (email : String) : Service Bool :=
  tryCatch (do
    if (← execute (.getByEmail email) id).isNone then return false
    let token ← execute (.createResetToken email) id
    if !(← storeResetToken site email token (site.resetTokenExpireMinutes * 60)) then throw .other
    execute (.deferEmail email token) id
    return true) fun _ => return false

/-- `_restore_token`. -/
def restoreToken (payload : ResetToken) (jti : Nat) : Service Unit := do
  match payload.exp with
  | none => return ()
  | some exp =>
    let now ← perform .currentTime
    let remaining := (exp - now) / microsPerSecond
    if 0 < remaining then
      let _ ← execute
        (.restoreResetToken (site.keys.activeTokenKey payload.email) jti remaining) id

/-- Fails without an exception, and lets the link be used again. -/
def failRestored (payload : ResetToken) (jti : Nat) : Service (Bool × Option Bool) := do
  restoreToken site payload jti
  return (false, none)

def confirmRevocation (email : String) : Service Bool :=
  tryCatch (do
    execute (.revokeAllTokensForUser email) id
    return true) fun
    | .tokenVersionUnavailable => return false
    | failure => throw failure

def isSamePassword (user : Account) (newPassword : String) : Service Bool :=
  match user.hashedPassword with
  | some hashed => execute (.verifyPassword newPassword hashed) id
  | none => return false

/-- What is done with a token that was consumed. -/
def writePassword (payload : ResetToken) (jti : Nat) (newPassword : String) :
    Service (Bool × Option Bool) := do
  if !validatePasswordStrength site.characters newPassword then failRestored site payload jti
  else
    match ← execute (.getByEmail payload.email) id with
    | none => failRestored site payload jti
    | some user =>
      if ← isSamePassword user newPassword then failRestored site payload jti
      else
        let hashedPassword ← execute (.hashPassword newPassword) id
        if ← execute (.updateByEmail payload.email hashedPassword) id then
          let sessionsRevoked ← confirmRevocation payload.email
          return (true, some sessionsRevoked)
        else failRestored site payload jti

def redeem (payload : ResetToken) (jti : Nat) (newPassword : String) :
    Service (Bool × Option Bool) := do
  if ← execute (.consumeResetToken (site.keys.activeTokenKey payload.email) jti) id then
    writePassword site payload jti newPassword
  else return (false, none)

/-- Whether the password was reset, and whether the other sessions are known to be revoked. -/
def resetPassword (token : ResetToken) (newPassword : String) : Service (Bool × Option Bool) := do
  match ← perform (.verifyResetToken token) with
  | none => return (false, none)
  | some payload =>
    match payload.jti with
    | none => return (false, none)
    | some jti =>
      tryCatch (redeem site payload jti newPassword) fun
        | .app => do
            restoreToken site payload jti
            throw .app
        | _ => return (false, none)

inductive Request where
  | sendResetEmail (email : String)
  | resetPassword (token : ResetToken) (newPassword : String)
  deriving DecidableEq

inductive Response where
  | sent (scheduled : Bool)
  | reset (success : Bool) (sessionsRevoked : Option Bool)
  deriving DecidableEq

def handle : Request → Service Response
  | .sendResetEmail email => do
      return .sent (← sendResetEmail site email)
  | .resetPassword token newPassword => do
      let (success, sessionsRevoked) ← resetPassword site token newPassword
      return .reset success sessionsRevoked

end Service

def server (site : Site) : System Request Store Disturbance Reply Failure Response where
  handle := handle site
  outcomes := outcomes site
  disturb := disturb

abbrev Server := Config Request Store Reply Failure Response

end MysticAuth.PasswordReset
