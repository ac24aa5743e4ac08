import MysticAuth.Accounts.EmailKeys
import MysticAuth.Interleaving.Histories
import MysticAuth.Interleaving.Writes

/-!
# Counters in Valkey

The rate limiter, the login protection, the account cool-down and the alert
throttle count with `INCR`, and send `EXPIRE` when the count they get is one.
A process that dies is one whose requests make no further call.
-/

set_option autoImplicit false

namespace MysticAuth.Security

open Interleaving

/-! ## Valkey -/

/-- A key that holds a number.  Without a deadline it never expires. -/
structure Entry where
  count : Nat
  deadline : Option Nat
  deriving DecidableEq

def Entry.lives (now : Nat) (entry : Entry) : Bool :=
  entry.deadline.all (now < ·)

/-- The clock counts milliseconds. -/
structure Valkey where
  now : Nat
  keys : String → Option Entry

def millisPerSecond : Nat := 1000

/-- `INCR` fails on the largest signed 64-bit integer. -/
def maxInteger : Nat := 9223372036854775807

namespace Valkey

def empty (now : Nat) : Valkey :=
  ⟨now, fun _ => none⟩

variable (valkey : Valkey)

/-- The key as a command finds it. -/
def find (key : String) : Option Entry :=
  (valkey.keys key).filter (Entry.lives valkey.now)

def put (key : String) (entry : Option Entry) : Valkey :=
  { valkey with keys := Function.update valkey.keys key entry }

def deadlineIn (seconds : Nat) : Nat :=
  valkey.now + seconds * millisPerSecond

def incremented (key : String) : Entry :=
  match valkey.find key with
  | none => ⟨1, none⟩
  | some entry => { entry with count := entry.count + 1 }

/-- A lifetime of no seconds deletes the key. -/
def expire (key : String) (seconds : Nat) : Valkey :=
  valkey.put key ((valkey.find key).map fun entry =>
    { entry with deadline := some (valkey.deadlineIn seconds) })

def delete (keys : List String) : Valkey :=
  { valkey with keys := fun key => if key ∈ keys then none else valkey.keys key }

/-- The remaining seconds, rounded; -1 stands for no deadline and -2 for no key. -/
def ttl (key : String) : Int :=
  match valkey.find key with
  | none => -2
  | some ⟨_, none⟩ => -1
  | some ⟨_, some deadline⟩ => ((deadline - valkey.now + 500) / millisPerSecond : Nat)

end Valkey

/-! ## Commands -/

inductive Call where
  | get (key : String)
  | incr (key : String)
  | expire (key : String) (seconds : Nat)
  | ttl (key : String)
  | delete (keys : List String)
  /-- `SET key 1 EX seconds NX` -/
  | setNx (key : String) (seconds : Nat)
  | logSecurityEvent
  deriving DecidableEq

@[reducible] def Value : Call → Type
  | .get _ => Option Nat
  | .incr _ => Nat
  | .expire _ _ => Bool
  | .ttl _ => Int
  | .delete _ => Unit
  | .setNx _ _ => Bool
  | .logSecurityEvent => Unit

@[reducible] def Reply (call : Call) : Type :=
  Write (Value call)

/-- An answered call. -/
abbrev Event := Interleaving.Event Reply

inductive Failure where
  | valkeyError
  /-- `service_unavailable_error()` -/
  | serviceUnavailable
  deriving DecidableEq

/-- Every command may fail, or take effect without being acknowledged. -/
def outcomes (_ : Nat) (call : Call) (valkey : Valkey) : List (Reply call × Valkey) :=
  match call with
  | .get key => written valkey valkey ((valkey.find key).map Entry.count)
  | .incr key =>
      let entry := valkey.incremented key
      if entry.count ≤ maxInteger then written valkey (valkey.put key (some entry)) entry.count
      else [(.failed, valkey)]
  | .expire key seconds =>
      written valkey (valkey.expire key seconds) (valkey.find key).isSome
  | .ttl key => written valkey valkey (valkey.ttl key)
  | .delete keys => written valkey (valkey.delete keys) ()
  | .setNx key seconds =>
      -- A lifetime of no seconds is a syntax error here.
      if seconds = 0 then [(.failed, valkey)]
      else if (valkey.find key).isSome then written valkey valkey false
      else written valkey (valkey.put key (some ⟨1, some (valkey.deadlineIn seconds)⟩)) true
  | .logSecurityEvent => written valkey valkey ()

abbrev Service (α : Type) := Program Reply Failure α

def execute (call : Call) : Service (Value call) :=
  .attempt call (Write.result .valkeyError)

/-- `except Exception: logger.error(...)`, and a value to return. -/
def exceptReturn {α : Type} (body : Service α) (value : α) : Service α :=
  tryCatch body fun _ => return value

/-- `except Exception: raise service_unavailable_error()`. -/
def orUnavailable {α : Type} (body : Service α) : Service α :=
  tryCatch body fun _ => throw .serviceUnavailable

/-- What the four services share: the window starts when the key is created. -/
def countUp (key : String) (windowSeconds : Nat) : Service Nat := do
  let newCount ← execute (.incr key)
  if newCount = 1 then
    let _ ← execute (.expire key windowSeconds)
  return newCount

structure Settings where
  keys : KeyTables
  maxRequestsPerWindow : Nat
  requestWindowSeconds : Nat
  maxFailedLoginAttempts : Nat
  loginLockoutTime : Nat
  actionReservationTime : Nat
  loginAccountFailureThreshold : Nat
  loginAccountFailureWindowSeconds : Nat
  loginAccountCooldownSeconds : Nat

/-! ## The rate limiter -/

inductive Admission where
  | admitted
  | limitExceeded
  deriving DecidableEq

section RateLimiter

variable (settings : Settings)

def auditedKey (key : String) : String :=
  "rl_audited:" ++ key

def ipKey (endpointName ipAddress : String) : String :=
  endpointName ++ ":ip:" ++ ipAddress

def accountKey (endpointName account : String) : String :=
  endpointName ++ ":account:" ++ settings.keys.emailKeyId account

def auditDenial (key : String) (windowSeconds : Nat) : Service Unit :=
  exceptReturn (do
    let first ← execute (.setNx (auditedKey key) windowSeconds)
    if !first then return ()
    execute .logSecurityEvent) ()

def recordRequest (key : String) (maxRequests windowSeconds : Option Nat) : Service Bool :=
  orUnavailable (do
    let newCount ← countUp key (windowSeconds.getD settings.requestWindowSeconds)
    return newCount ≤ maxRequests.getD settings.maxRequestsPerWindow)

/-- The wrapper of an endpoint, up to the handler.  The account value is absent where there is no
function for it, or the function fails. -/
def rateLimited (endpointName ipAddress : String) (accountValue : Option String)
    (maxRequests windowSeconds : Option Nat) : Service Admission := do
  let effectiveMax := maxRequests.getD settings.maxRequestsPerWindow
  let effectiveWindow := windowSeconds.getD settings.requestWindowSeconds
  let byIp := ipKey endpointName ipAddress
  if !(← recordRequest settings byIp effectiveMax effectiveWindow) then
    auditDenial byIp effectiveWindow
    return .limitExceeded
  match accountValue with
  | none => return .admitted
  | some account =>
      if account.isEmpty then return .admitted
      let byAccount := accountKey settings endpointName account
      if !(← recordRequest settings byAccount effectiveMax effectiveWindow) then
        auditDenial byAccount effectiveWindow
        return .limitExceeded
      return .admitted

/-- `key.rsplit(":", 2)` has three parts, the first without a colon, just where `key.split(":")`
has three. -/
def isResettable (key : String) : Bool :=
  match key.splitOn ":" with
  | [endpoint, scope, _] =>
      ["ip", "account", "email", "account_ip"].contains scope &&
        endpoint != "session_event_leases" && !endpoint.isEmpty
  | _ => false

/-- The reset of the dashboard. -/
def resetCounter (key : String) : Service Unit := do
  if !isResettable key then return ()
  exceptReturn (execute (.delete [key])) ()

end RateLimiter

/-! ## The login protection -/

section LoginProtection

variable (settings : Settings) (key : String)

def reservationKey : String :=
  key ++ ":inflight"

def isLocked (maxAttempts : Nat) : Service Bool :=
  orUnavailable (do
    let count ← execute (.get key)
    return count.any (maxAttempts ≤ ·))

def resetFailedAttempts : Service Unit :=
  exceptReturn (execute (.delete [key])) ()

def recordFailedAttempt (lockoutTime : Nat) : Service Unit :=
  exceptReturn (do
    let _ ← countUp key lockoutTime
    return ()) ()

def getRemainingSeconds : Service Int :=
  exceptReturn (do
    let ttl ← execute (.ttl key)
    return max ttl 0) 0

def checkAndRecordAction (success : Bool) (maxAttempts lockoutTime : Nat) : Service Bool := do
  if success then
    if ← isLocked key maxAttempts then return false
    resetFailedAttempts key
    return true
  exceptReturn (do
    let newCount ← countUp key lockoutTime
    return newCount ≤ maxAttempts) false

def beginProtectedAction : Service Bool := do
  if ← isLocked key settings.maxFailedLoginAttempts then return false
  orUnavailable (execute (.setNx (reservationKey key) settings.actionReservationTime))

def releaseProtectedAction : Service Unit :=
  exceptReturn (execute (.delete [reservationKey key])) ()

def finishProtectedAction (success : Bool) : Service Unit :=
  Program.finally (do
    if success then resetFailedAttempts key
    else
      let _ ← checkAndRecordAction key false settings.maxFailedLoginAttempts
        settings.loginLockoutTime
      return ()) (releaseProtectedAction key)

end LoginProtection

/-! ## The account cool-down -/

section AccountCooldown

variable (settings : Settings) (email : String)

def failuresKey : String :=
  "login_account_failures:" ++ settings.keys.emailKeyId email

def cooldownKey : String :=
  "login_account_cooldown:" ++ settings.keys.emailKeyId email

def cooldownRemainingSeconds : Service Int :=
  orUnavailable (do
    let failures ← execute (.get (failuresKey settings email))
    if failures.all (· < settings.loginAccountFailureThreshold) then return 0
    if ← execute (.setNx (cooldownKey settings email) settings.loginAccountCooldownSeconds) then
      return 0
    let ttl ← execute (.ttl (cooldownKey settings email))
    return max 1 ttl)

def recordFailure : Service Bool :=
  exceptReturn (do
    let count ← countUp (failuresKey settings email) settings.loginAccountFailureWindowSeconds
    return count = settings.loginAccountFailureThreshold) false

def reset : Service Unit :=
  exceptReturn (execute (.delete [failuresKey settings email, cooldownKey settings email])) ()

end AccountCooldown

/-! ## The alert throttle -/

def alertMaxPerMinute : Nat := 10

def alertWindowSeconds : Nat := 60

def alertDedupeSeconds : Nat := 60

def dedupeKey (eventType digest : String) : String :=
  "alert_dedupe:" ++ eventType ++ ":" ++ digest

def alertRateKey (eventType : String) : String :=
  "alert_rate:" ++ eventType

/-- The digest of the metadata is absent where they cannot be rendered. -/
def shouldSend (eventType : String) (digest : Option String) : Service Bool :=
  exceptReturn (do
    match digest with
    | none => throw .valkeyError
    | some digest =>
        if !(← execute (.setNx (dedupeKey eventType digest) alertDedupeSeconds)) then return false
        let count ← countUp (alertRateKey eventType) alertWindowSeconds
        return count ≤ alertMaxPerMinute) true

/-! ## The server -/

/-- What a handler asks of the services.  A handler that makes several requests makes them one
after another. -/
inductive Request where
  | rateLimited (endpointName ipAddress : String) (accountValue : Option String)
      (maxRequests windowSeconds : Option Nat)
  | recordRequest (key : String) (maxRequests windowSeconds : Option Nat)
  | resetCounter (key : String)
  | isLocked (key : String) (maxAttempts : Nat)
  | resetFailedAttempts (key : String)
  | recordFailedAttempt (key : String) (lockoutTime : Nat)
  | getRemainingSeconds (key : String)
  | checkAndRecordAction (key : String) (success : Bool) (maxAttempts lockoutTime : Nat)
  | beginProtectedAction (key : String)
  | releaseProtectedAction (key : String)
  | finishProtectedAction (key : String) (success : Bool)
  | cooldownRemainingSeconds (email : String)
  | recordFailure (email : String)
  | reset (email : String)
  | shouldSend (eventType : String) (digest : Option String)
  deriving DecidableEq

inductive Response where
  | admission (admission : Admission)
  | answer (value : Bool)
  | seconds (value : Int)
  | done
  deriving DecidableEq

section Server

variable (settings : Settings)

def handle : Request → Service Response
  | .rateLimited endpointName ipAddress accountValue maxRequests windowSeconds => do
      return .admission (← rateLimited settings endpointName ipAddress accountValue maxRequests
        windowSeconds)
  | .recordRequest key maxRequests windowSeconds => do
      return .answer (← recordRequest settings key maxRequests windowSeconds)
  | .resetCounter key => do
      resetCounter key
      return .done
  | .isLocked key maxAttempts => do
      return .answer (← isLocked key maxAttempts)
  | .resetFailedAttempts key => do
      resetFailedAttempts key
      return .done
  | .recordFailedAttempt key lockoutTime => do
      recordFailedAttempt key lockoutTime
      return .done
  | .getRemainingSeconds key => do
      return .seconds (← getRemainingSeconds key)
  | .checkAndRecordAction key success maxAttempts lockoutTime => do
      return .answer (← checkAndRecordAction key success maxAttempts lockoutTime)
  | .beginProtectedAction key => do
      return .answer (← beginProtectedAction settings key)
  | .releaseProtectedAction key => do
      releaseProtectedAction key
      return .done
  | .finishProtectedAction key success => do
      finishProtectedAction settings key success
      return .done
  | .cooldownRemainingSeconds email => do
      return .seconds (← cooldownRemainingSeconds settings email)
  | .recordFailure email => do
      return .answer (← recordFailure settings email)
  | .reset email => do
      reset settings email
      return .done
  | .shouldSend eventType digest => do
      return .answer (← shouldSend eventType digest)

/-- Milliseconds pass. -/
def elapse (millis : Nat) (valkey : Valkey) : Valkey :=
  { valkey with now := valkey.now + millis }

def server : System Request Valkey Nat Reply Failure Response where
  handle := handle settings
  outcomes := outcomes
  disturb := elapse

end Server

abbrev Server := Config Request Valkey Reply Failure Response

end MysticAuth.Security
