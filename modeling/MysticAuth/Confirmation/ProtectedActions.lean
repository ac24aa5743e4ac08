import MysticAuth.Interleaving.Histories

/-!
# Protected one-time actions

A reservation in Valkey keeps the callers of one protected action apart: the
confirmation handlers of password resets, account deletions and account
verifications reserve the key, act, and release the key when they finish.
Their `finally` block releases it once more.
-/

set_option autoImplicit false

namespace MysticAuth.Confirmation

open Interleaving

/-! ## The counters and reservations in Valkey -/

structure Valkey where
  attempts : String → Option Nat
  reserved : String → Bool

inductive ActionError where
  | valkeyError
  /-- an `AppError`: an outage or an overload, answered with 503 -/
  | app
  | other
  deriving DecidableEq

/-- What a protected action comes to: it succeeds, fails, or raises. -/
abbrev ActionResult := Except ActionError Bool

inductive Call where
  | getAttempts (key : String)
  | deleteAttempts (key : String)
  | incrementAttempts (key : String)
  | expireAttempts (key : String)
  /-- `SET key:inflight 1 EX … NX` -/
  | reserve (key : String)
  /-- `DEL key:inflight` -/
  | release (key : String)
  /-- the protected action itself -/
  | act (key : String)
  /-- the redemption of the verification link, before the protected action -/
  | consumeToken (key : String)
  | logSecurityEvent
  deriving DecidableEq

@[reducible] def Reply : Call → Type
  | .getAttempts _ => Except ActionError (Option Nat)
  | .deleteAttempts _ => Except ActionError Unit
  | .incrementAttempts _ => Except ActionError Nat
  | .expireAttempts _ => Except ActionError Unit
  | .reserve _ => Except ActionError Bool
  | .release _ => Except ActionError Unit
  | .act _ => ActionResult
  | .consumeToken _ => ActionResult
  | .logSecurityEvent => Unit

/-- An answered call. -/
abbrev Event := Interleaving.Event Reply

/-- A command, which may fail, or take effect without being acknowledged. -/
def executed {α : Type} (before after : Valkey) (value : α) :
    List (Except ActionError α × Valkey) :=
  [(.ok value, after), (.error .valkeyError, before), (.error .valkeyError, after)]

/-- An action of another service, with any result. -/
def acted (valkey : Valkey) : List (ActionResult × Valkey) :=
  [(.ok true, valkey), (.ok false, valkey), (.error .app, valkey), (.error .other, valkey)]

def outcomes (_ : Nat) (call : Call) (valkey : Valkey) : List (Reply call × Valkey) :=
  match call with
  | .getAttempts key => executed valkey valkey (valkey.attempts key)
  | .deleteAttempts key =>
      executed valkey { valkey with attempts := Function.update valkey.attempts key none } ()
  | .incrementAttempts key =>
      let count := (valkey.attempts key).getD 0 + 1
      executed valkey { valkey with attempts := Function.update valkey.attempts key (some count) }
        count
  | .expireAttempts _ => executed valkey valkey ()
  | .reserve key =>
      if valkey.reserved key then executed valkey valkey false
      else
        executed valkey { valkey with reserved := Function.update valkey.reserved key true } true
  | .release key =>
      executed valkey { valkey with reserved := Function.update valkey.reserved key false } ()
  | .act _ => acted valkey
  | .consumeToken _ => acted valkey
  | .logSecurityEvent => [((), valkey)]

/-- A failure counter expires; no reservation reaches its expiry. -/
def disturb (key : String) (valkey : Valkey) : Valkey :=
  { valkey with attempts := Function.update valkey.attempts key none }

/-! ## The login protection service -/

abbrev Service (α : Type) := Program Reply ActionError α

def execute {α : Type} (call : Call) (result : Reply call → Except ActionError α) : Service α :=
  .attempt call result

/-- `except Exception: logger.error(...)`. -/
def swallow (body : Service Unit) : Service Unit :=
  tryCatch body fun _ => return ()

/-- `except Exception: raise service_unavailable_error()`. -/
def orUnavailable {α : Type} (body : Service α) : Service α :=
  tryCatch body fun _ => throw .app

section Service

variable (maxAttempts : Nat) (key : String)

def isLocked : Service Bool :=
  orUnavailable (do
    let count ← execute (.getAttempts key) id
    return count.any (maxAttempts ≤ ·))

def beginProtectedAction : Service Bool := do
  if ← isLocked maxAttempts key then return false
  orUnavailable (execute (.reserve key) id)

def resetFailedAttempts : Service Unit :=
  swallow (execute (.deleteAttempts key) id)

/-- `check_and_record_action` of a failure: the window starts with the first one. -/
def recordFailedAction : Service Bool :=
  tryCatch (do
    let newCount ← execute (.incrementAttempts key) id
    if newCount = 1 then execute (.expireAttempts key) id
    return newCount ≤ maxAttempts) fun _ => return false

def releaseProtectedAction : Service Unit :=
  swallow (execute (.release key) id)

def finishProtectedAction (success : Bool) : Service Unit :=
  Program.finally (do
    if success then resetFailedAttempts key
    else
      let _ ← recordFailedAction maxAttempts key
      return ()) (releaseProtectedAction key)

/-! ## The confirmation handlers -/

inductive Response where
  | done
  | refused
  | locked
  | internalServerError
  deriving DecidableEq

/-- Past the reservation: the action, its audit entry where the handler writes one, the release,
and the answer. -/
def protectedAction (audit : Service Unit) : Service Response :=
  Program.finally (do
    let success ← execute (.act key) id
    audit
    finishProtectedAction maxAttempts key success
    if success then return .done
    if ← isLocked maxAttempts key then return .locked
    return .refused) (releaseProtectedAction key)

def logSecurityEvent : Service Unit :=
  Program.perform Call.logSecurityEvent

/-- `except Exception: 500`. -/
def orInternalServerError (body : Service Response) : Service Response :=
  tryCatch body fun _ => return .internalServerError

def handleConfirmDelete : Service Response :=
  orInternalServerError (do
    if !(← beginProtectedAction maxAttempts key) then return .locked
    protectedAction maxAttempts key (return ()))

def handlePasswordResetConfirm : Service Response :=
  tryCatch (do
    if !(← beginProtectedAction maxAttempts key) then return .locked
    protectedAction maxAttempts key logSecurityEvent) fun
  | .app => throw .app
  | _ => return .internalServerError

/-- A link that was redeemed meanwhile releases the reservation without an action. -/
def handleAccountVerification : Service Response :=
  orInternalServerError (do
    if !(← beginProtectedAction maxAttempts key) then return .locked
    if !(← execute (.consumeToken key) id) then
      releaseProtectedAction key
      return .refused
    protectedAction maxAttempts key logSecurityEvent)

end Service

/-- A confirmation whose signed link named the account behind the key. -/
inductive Request where
  | confirmDelete (key : String)
  | passwordResetConfirm (key : String)
  | accountVerification (key : String)
  deriving DecidableEq

def handle (maxAttempts : Nat) : Request → Service Response
  | .confirmDelete key => handleConfirmDelete maxAttempts key
  | .passwordResetConfirm key => handlePasswordResetConfirm maxAttempts key
  | .accountVerification key => handleAccountVerification maxAttempts key

def server (maxAttempts : Nat) : System Request Valkey String Reply ActionError Response where
  handle := handle maxAttempts
  outcomes := outcomes
  disturb := disturb

abbrev Server := Config Request Valkey Reply ActionError Response

end MysticAuth.Confirmation
