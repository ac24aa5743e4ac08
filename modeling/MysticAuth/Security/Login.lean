import MysticAuth.Security.Counters

/-!
# Login

A login is refused at once where its account and address are locked out, or
where the account cools down.  It is refused again, after the password has been
verified and its outcome recorded, where the lock is found then.
-/

set_option autoImplicit false

namespace MysticAuth.Login

open Interleaving Security

/-! ## Accounts, sessions and the audit log -/

structure Account where
  id : Nat
  email : String
  hashedPassword : Option String
  isVerified : Bool
  isActive : Bool
  lastLoginAt : Option Nat
  deriving DecidableEq

inductive AuditEvent where
  | loginSuccess
  | loginFailure
  | loginIpLocked
  | loginAccountCooldown
  deriving DecidableEq

structure AuditEntry where
  event : AuditEvent
  userEmail : String
  success : Bool
  deriving DecidableEq

structure Store where
  valkey : Valkey
  accounts : List Account
  /-- the users of the rows of `user_sessions` -/
  sessions : List Nat
  audit : List AuditEntry

structure Site where
  settings : Settings
  maxFailedLoginAttemptsPerIp : Nat
  loginLockoutTimePerIp : Nat
  /-- `ip_bucket` -/
  ipBucket : String → String
  verifyHash : String → String → Bool
  dummyHash : String

inductive Failure where
  /-- an `AppError`: an outage or an overload -/
  | app
  | other
  deriving DecidableEq

/-! ## Calls -/

inductive Call where
  | valkey (command : Security.Call)
  | getByEmail (email : String)
  | verifyPassword (password : String) (hashed : Option String)
  | updateLastLogin (userId : Nat)
  /-- both tokens of a new chain -/
  | createTokens (email : String)
  | createSession (userId : Nat)
  | logSecurityEvent (entry : AuditEntry)
  | captureSecurityAlert (event : AuditEvent)
  deriving DecidableEq

@[reducible] def Reply : Call → Type
  | .valkey command => Security.Reply command
  | .getByEmail _ => Except Failure (Option Account)
  | .verifyPassword _ _ => Except Failure Bool
  | .updateLastLogin _ => Write Unit
  | .createTokens _ => Except Failure Unit
  | .createSession _ => Unit
  | .logSecurityEvent _ => Unit
  | .captureSecurityAlert _ => Unit

/-- An answered call. -/
abbrev Event := Interleaving.Event Reply

def stamped (userId now : Nat) (account : Account) : Account :=
  if account.id = userId then { account with lastLoginAt := some now } else account

def outcomes (site : Site) (thread : Nat) (call : Call) (store : Store) :
    List (Reply call × Store) :=
  match call with
  | .valkey command =>
      (Security.outcomes thread command store.valkey).map fun outcome =>
        (outcome.1, { store with valkey := outcome.2 })
  | .getByEmail email =>
      [(.ok (store.accounts.find? (·.email = email)), store), (.error .other, store)]
  | .verifyPassword password hashed =>
      [(.ok (site.verifyHash password (hashed.getD site.dummyHash)), store),
        (.error .app, store), (.error .other, store)]
  | .updateLastLogin userId =>
      written store
        { store with accounts := store.accounts.map (stamped userId store.valkey.now) } ()
  | .createTokens _ => [(.ok (), store), (.error .app, store), (.error .other, store)]
  -- The session row and the audit entry are best effort: a failure is swallowed.
  | .createSession userId => [((), { store with sessions := userId :: store.sessions }), ((), store)]
  | .logSecurityEvent entry => [((), { store with audit := entry :: store.audit }), ((), store)]
  | .captureSecurityAlert _ => [((), store)]

abbrev Service (α : Type) := Program Reply Failure α

/-- What an exception of the Valkey services is to their callers. -/
def failureOf : Security.Failure → Failure
  | .valkeyError => .other
  | .serviceUnavailable => .app

/-- A service that talks to Valkey alone. -/
def lift {α : Type} (service : Security.Service α) : Service α :=
  service.host .valkey (fun _ reply => reply) failureOf

def execute {α : Type} (call : Call) (result : Reply call → Except Failure α) : Service α :=
  .attempt call result

def perform (call : Call) : Service (Reply call) :=
  .perform call

/-! ## The login service -/

/-- Whether the login returns tokens. -/
def login (email password : String) : Service Bool :=
  tryCatch (do
    if email.isEmpty || password.isEmpty then return false
    let user ← execute (.getByEmail email) id
    -- The hash is verified before anything else is looked at.
    let passwordMatches ← execute (.verifyPassword password (user.bind Account.hashedPassword)) id
    match user with
    | none => return false
    | some user =>
        if !user.isVerified then return false
        if !user.isActive then return false
        if !passwordMatches then return false
        execute (.updateLastLogin user.id) (Write.result .other)
        execute (.createTokens email) id
        perform (.createSession user.id)
        return true) fun
  | .app => throw .app
  | .other => return false

/-! ## The handler -/

inductive Response where
  | credentialsRequired
  | throttled (retryAfterSeconds minutes : Nat)
  | invalidCredentials
  | loggedIn
  | internalServerError
  deriving DecidableEq

/-- `ceil(retry_after_seconds / 60)` of at least one second. -/
def lockoutResponse (retryAfterSeconds : Int) : Response :=
  let seconds := (max 1 retryAfterSeconds).toNat
  .throttled seconds ((seconds + 59) / 60)

section Handler

variable (site : Site)

def lockKey (email clientIp : String) : String :=
  "login_lock:account_ip:" ++
    site.settings.keys.hmacHex (site.settings.keys.foldedEmail email ++ "\x00" ++ site.ipBucket clientIp)

/-- From the second look at the lock on. -/
def conclude (email clientIp : String) (success : Bool) : Service Response := do
  let lockKey := lockKey site email clientIp
  let lockAllowed ← lift (checkAndRecordAction lockKey success site.maxFailedLoginAttemptsPerIp
    site.loginLockoutTimePerIp)
  if !lockAllowed then
    perform (.logSecurityEvent ⟨.loginIpLocked, email, false⟩)
    perform (.captureSecurityAlert .loginIpLocked)
    return lockoutResponse (← lift (getRemainingSeconds lockKey))
  if !success then return .invalidCredentials
  return .loggedIn

/-- From the outcome of the login service on. -/
def recordOutcome (email clientIp : String) (success : Bool) : Service Response := do
  perform (.logSecurityEvent ⟨if success then .loginSuccess else .loginFailure, email, success⟩)
  if success then lift (reset site.settings email)
  else if ← lift (recordFailure site.settings email) then
    perform (.logSecurityEvent ⟨.loginAccountCooldown, email, false⟩)
    perform (.captureSecurityAlert .loginAccountCooldown)
  conclude site email clientIp success

def handleLogin (email password clientIp : String) : Service Response :=
  tryCatch (do
    if email.isEmpty || password.isEmpty then return .credentialsRequired
    let lockKey := lockKey site email clientIp
    if ← lift (isLocked lockKey site.maxFailedLoginAttemptsPerIp) then
      perform (.logSecurityEvent ⟨.loginIpLocked, email, false⟩)
      return lockoutResponse (← lift (getRemainingSeconds lockKey))
    let cooldown ← lift (cooldownRemainingSeconds site.settings email)
    if cooldown ≠ 0 then return lockoutResponse cooldown
    recordOutcome site email clientIp (← login email password)) fun
  | .app => throw .app
  | .other => return .internalServerError

end Handler

/-! ## The server -/

/-- A login attempt. -/
structure Attempt where
  email : String
  password : String
  clientIp : String
  deriving DecidableEq

inductive Disturbance where
  | elapse (millis : Nat)
  /-- Users are created, deactivated or given other passwords. -/
  | changeAccounts (accounts : List Account)

def disturb : Disturbance → Store → Store
  | .elapse millis, store => { store with valkey := Security.elapse millis store.valkey }
  | .changeAccounts accounts, store => { store with accounts := accounts }

def server (site : Site) : System Attempt Store Disturbance Reply Failure Response where
  handle attempt := handleLogin site attempt.email attempt.password attempt.clientIp
  outcomes := outcomes site
  disturb := disturb

abbrev Server := Config Attempt Store Reply Failure Response

end MysticAuth.Login
