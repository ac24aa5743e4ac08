import Mathlib.Data.List.Dedup
import MysticAuth.Interleaving.Histories
import MysticAuth.Interleaving.RowLocks
import MysticAuth.Interleaving.Writes
import MysticAuth.Python.Text

/-!
# Passkey ceremonies

A ceremony begins with a challenge that is stored and ends with a response
that consumes it.  Every request has a session of its own, whose transaction
locks the rows that it selects for an update and ends with a commit, a
rollback or a failure.
-/

set_option autoImplicit false

namespace MysticAuth.Passkeys

open Interleaving

/-! ## The tables -/

structure User where
  id : Nat
  email : String
  isActive : Bool
  isVerified : Bool
  deriving DecidableEq

inductive Purpose where
  | registration
  | authentication
  deriving DecidableEq

structure PasskeyChallenge where
  challenge : String
  userId : Option Nat
  purpose : Purpose
  expiresAt : Nat
  consumedAt : Option Nat
  deriving DecidableEq

structure PasskeyCredential where
  id : Nat
  userId : Nat
  credentialId : String
  publicKey : String
  signCount : Nat
  transports : List String
  name : String
  lastUsedAt : Option Nat
  deriving DecidableEq

inductive RowKey where
  | user (id : Nat)
  | challenge (challenge : String)
  | credential (id : Nat)
  deriving DecidableEq

/-- The ids of users and of challenges are the keys of their tables. -/
structure Store where
  now : Nat
  users : List User
  challenges : String → Option PasskeyChallenge
  credentials : List PasskeyCredential
  nextCredentialId : Nat
  locks : Locks RowKey

namespace Store

variable (store : Store) (thread : Nat)

def user (id : Nat) : Option User :=
  store.users.find? (·.id == id)

def userByEmail (email : String) : Option User :=
  store.users.find? (·.email == email)

def credentialsOf (userId : Nat) : List PasskeyCredential :=
  store.credentials.filter (·.userId == userId)

def credential (credentialId : String) : Option PasskeyCredential :=
  store.credentials.find? (·.credentialId == credentialId)

def lock (key : RowKey) : Store :=
  { store with locks := store.locks.acquire thread key }

/-- The transaction of the thread is over. -/
def release : Store :=
  { store with locks := store.locks.release thread }

def putChallenge (row : PasskeyChallenge) : Store :=
  { store with challenges := Function.update store.challenges row.challenge (some row) }

def consume (challenge : String) (time : Nat) : Store :=
  { store with
    challenges := Function.update store.challenges challenge
      ((store.challenges challenge).map fun row => { row with consumedAt := some time }) }

/-- The row gets the next id. -/
def insertCredential (row : PasskeyCredential) : Store :=
  { store with
    credentials := store.credentials ++ [{ row with id := store.nextCredentialId }]
    nextCredentialId := store.nextCredentialId + 1 }

def mapCredential (id : Nat) (change : PasskeyCredential → PasskeyCredential) : Store :=
  { store with credentials := store.credentials.map fun row => if row.id = id then change row else row }

end Store

/-! ## Calls -/

inductive Failure where
  | databaseError
  | valkeyError
  /-- An exception of the library, or a constraint. -/
  | rejected
  | http (status : Nat) (detail : String)
  deriving DecidableEq

inductive Call where
  | now
  | getByEmail (email : String)
  | liveSession (email : String)
  | getUser (id : Nat)
  | lockUser (id : Nat)
  | listCredentials (userId : Nat)
  | countCredentials (userId : Nat)
  | insertChallenge (row : PasskeyChallenge)
  /-- `select … for update` of a challenge that is neither consumed nor expired -/
  | selectChallenge (challenge : String) (purpose : Purpose) (userId : Option Nat) (time : Nat)
  | commitConsumed (challenge : String) (time : Nat)
  | insertCredential (row : PasskeyCredential)
  /-- `select … for update` -/
  | selectCredential (credentialId : String)
  | commitSignCount (id signCount time : Nat)
  | rollback
  | logSecurityEvent (success : Bool)
  /-- `last_login_at`, and the row of the new session -/
  | startSession (userId : Nat)
  | isLocked
  | recordFailure
  | resetFailedAttempts
  | recordStepUp (userId : Nat)
  | captureSecurityAlert
  | notifyPasskeyAdded
  /-- The session is closed. -/
  | close
  deriving DecidableEq

@[reducible] def Reply : Call → Type
  | .now => Nat
  | .getByEmail _ | .liveSession _ | .getUser _ | .lockUser _ => Except Failure (Option User)
  | .listCredentials _ => Except Failure (List PasskeyCredential)
  | .countCredentials _ => Except Failure Nat
  | .insertChallenge _ | .commitConsumed _ _ | .insertCredential _ | .commitSignCount _ _ _ =>
      Write Unit
  | .selectChallenge _ _ _ _ => Except Failure (Option PasskeyChallenge)
  | .selectCredential _ => Except Failure (Option PasskeyCredential)
  | .isLocked | .recordFailure => Except Failure Bool
  | .rollback | .startSession _ | .resetFailedAttempts | .recordStepUp _ => Except Failure Unit
  | .logSecurityEvent _ | .captureSecurityAlert | .notifyPasskeyAdded | .close => Unit

/-- An answered call. -/
abbrev Event := Interleaving.Event Reply

def PasskeyChallenge.isOpen (row : PasskeyChallenge) (challenge : String) (purpose : Purpose)
    (userId : Option Nat) (time : Nat) : Bool :=
  row.challenge == challenge && row.purpose == purpose && row.consumedAt.isNone &&
    decide (time < row.expiresAt) && row.userId == userId

section Outcomes

variable (store : Store) (thread : Nat)

/-- A query that locks nothing. -/
def queried {α : Type} (value : α) : List (Except Failure α × Store) :=
  [(.ok value, store), (.error .databaseError, store.release thread)]

/-- A query that locks the row it finds.  It waits while another transaction has locked the row. -/
def lockedRow {α : Type} (found : Option α) (key : α → RowKey) :
    List (Except Failure (Option α) × Store) :=
  let failed := (.error .databaseError, store.release thread)
  match found with
  | none => [(.ok none, store), failed]
  | some row =>
      if store.locks.isFree thread (key row) then [(.ok (some row), store.lock thread (key row)), failed]
      else [failed]

/-- A statement and the commit after it. -/
def committed (after : Store) : List (Write Unit × Store) :=
  written (store.release thread) (after.release thread) ()

def valkey {α : Type} (values : List α) : List (Except Failure α × Store) :=
  (.error .valkeyError, store) :: values.map fun value => (.ok value, store)

end Outcomes

structure Registered where
  credentialId : String
  publicKey : String
  signCount : Nat
  deriving DecidableEq

/-- A response as far as it can be read. -/
structure Response where
  /-- in its `clientDataJSON` -/
  challenge : Option String
  rawId : Option String
  userHandle : Option String
  transports : List String
  /-- what the library verifies -/
  signed : String
  deriving DecidableEq

/-- What a deployment fixes; the last two verify a response to a challenge from an origin, the
second of them with a public key and its current sign count, and return the new one. -/
structure Site where
  normalizeEmail : String → String
  challengeTtlSeconds : Nat
  origins : List String
  verifyRegistrationResponse : Response → String → String → Option Registered
  verifyAuthenticationResponse : Response → String → String → String → Nat → Option Nat

/-- The rule of the library: a count stays zero or grows. -/
def Site.Counts (site : Site) : Prop :=
  ∀ response challenge origin publicKey current new,
    site.verifyAuthenticationResponse response challenge origin publicKey current = some new →
      new = 0 ∧ current = 0 ∨ current < new

def outcomes (site : Site) (thread : Nat) (call : Call) (store : Store) : List (Reply call × Store) :=
  match call with
  | .now => [(store.now, store)]
  | .getByEmail email => queried store thread (store.userByEmail (site.normalizeEmail email))
  | .liveSession email =>
      (.ok none, store) :: queried store thread (store.userByEmail (site.normalizeEmail email))
  | .getUser id => queried store thread (store.user id)
  | .lockUser id => lockedRow store thread (store.user id) fun user => .user user.id
  | .listCredentials userId => queried store thread (store.credentialsOf userId)
  | .countCredentials userId => queried store thread (store.credentialsOf userId).length
  | .insertChallenge row =>
      if (store.challenges row.challenge).isSome then [(.integrityError, store.release thread)]
      else committed store thread (store.putChallenge row)
  | .selectChallenge challenge purpose userId time =>
      lockedRow store thread
        ((store.challenges challenge).filter (·.isOpen challenge purpose userId time))
        fun row => .challenge row.challenge
  | .commitConsumed challenge time => committed store thread (store.consume challenge time)
  | .insertCredential row =>
      if (store.credential row.credentialId).isSome then [(.integrityError, store.release thread)]
      else committed store thread (store.insertCredential row)
  | .selectCredential credentialId =>
      lockedRow store thread (store.credential credentialId) fun row => .credential row.id
  | .commitSignCount id signCount time =>
      committed store thread
        (store.mapCredential id fun row => { row with signCount, lastUsedAt := some time })
  | .rollback | .startSession _ =>
      [(.ok (), store.release thread), (.error .databaseError, store.release thread)]
  -- An audit row that cannot be written is logged.
  | .logSecurityEvent _ => [((), store.release thread), ((), store)]
  | .close => [((), store.release thread)]
  | .isLocked | .recordFailure => valkey store [true, false]
  | .resetFailedAttempts | .recordStepUp _ => valkey store [()]
  | .captureSecurityAlert | .notifyPasskeyAdded => [((), store)]

abbrev Service (α : Type) := Program Reply Failure α

def execute {α : Type} (call : Call) (result : Reply call → Except Failure α) : Service α :=
  .attempt call result

def perform (call : Call) : Service (Reply call) :=
  .perform call

def checked : Write Unit → Except Failure Unit
  | .integrityError => .error .rejected
  | reply => reply.result .databaseError

def raise {α : Type} (status : Nat) (detail : String) : Service α :=
  throw (.http status detail)

/-! ## The passkey service -/

def maxPasskeysPerUser : Nat := 10

def allowedTransports : List String :=
  ["usb", "nfc", "ble", "hybrid", "internal", "smart-card", "cable"]

/-- Known names only, each once and in order. -/
def cleanTransports (raw : List String) : List String :=
  ((raw.filter allowedTransports.contains).dedup).mergeSort fun a b => decide (a ≤ b)

section Service

variable (site : Site)

def newChallenge (userId : Option Nat) (purpose : Purpose) (challenge : String) : Service Unit := do
  let now ← perform .now
  execute (.insertChallenge ⟨challenge, userId, purpose, now + site.challengeTtlSeconds, none⟩)
    checked

def consumeChallenge (challenge : String) (purpose : Purpose) (userId : Option Nat) :
    Service (Option PasskeyChallenge) := do
  let now ← perform .now
  match ← execute (.selectChallenge challenge purpose userId now) id with
  | none => return none
  | some row =>
      let now ← perform .now
      execute (.commitConsumed challenge now) checked
      return some { row with consumedAt := some now }

/-- The options exclude the credentials that the user has. -/
def registrationOptions (user : User) (challenge : String) : Service (List String) := do
  let credentials ← execute (.listCredentials user.id) id
  newChallenge site (some user.id) .registration challenge
  return credentials.map (·.credentialId)

/-- A query does not refresh an object that the session holds already. -/
def sessionObject (loaded : User) (_ : User) : User :=
  loaded

/-- The table gives the row its id. -/
def newCredential (user : User) (name : String) (response : Response) (result : Registered) :
    PasskeyCredential where
  id := 0
  userId := user.id
  credentialId := result.credentialId
  publicKey := result.publicKey
  signCount := result.signCount
  transports := cleanTransports response.transports
  name := name
  lastUsedAt := none

def insertVerified (user : User) (name : String) (response : Response) (result : Registered) :
    Service Bool := do
  match (← execute (.lockUser user.id) id).map (sessionObject user) with
  | none => return false
  | some lockedUser =>
      if !lockedUser.isActive || !lockedUser.isVerified then return false
      let count ← execute (.countCredentials user.id) id
      if maxPasskeysPerUser ≤ count then return false
      execute (.insertCredential (newCredential user name response result)) checked
      return true

/-- What `finish_registration` returns, and whether a rollback has expired the user's object. -/
structure Registration where
  verified : Bool
  expired : Bool

def finishRegistration (user : User) (name : String) (response : Response) (origin : String) :
    Service Registration := do
  match response.challenge with
  | none => return ⟨false, false⟩
  | some expectedChallenge =>
      match ← consumeChallenge expectedChallenge .registration (some user.id) with
      | none => return ⟨false, false⟩
      | some stored =>
          match site.verifyRegistrationResponse response stored.challenge origin with
          | none =>
              -- The challenge is committed, so that this rollback ends no transaction.
              execute .rollback id
              return ⟨false, false⟩
          | some result =>
              tryCatch (return ⟨← insertVerified user name response result, false⟩) fun _ => do
                execute .rollback id
                return ⟨false, true⟩

def authenticationOptions (challenge : String) : Service Unit :=
  newChallenge site none .authentication challenge

/-- `db.get` of a user, of whom the session may hold an object. -/
def getUser (loaded : Option User) (userId : Nat) : Service (Option User) :=
  match loaded with
  | some user => if user.id = userId then return some user else execute (.getUser userId) id
  | none => execute (.getUser userId) id

def finishAuthentication (response : Response) (origin : String) (loaded : Option User) :
    Service (Option User) := do
  match response.challenge, response.rawId with
  | some challenge, some credentialId =>
      match ← consumeChallenge challenge .authentication none with
      | none => return none
      | some stored =>
          match ← execute (.selectCredential credentialId) id with
          | none => return none
          | some row =>
              match site.verifyAuthenticationResponse response stored.challenge origin row.publicKey
                row.signCount with
              | none => return none
              | some newSignCount =>
                  match ← getUser loaded row.userId with
                  | none => return none
                  | some user =>
                      if !user.isActive || !user.isVerified then return none
                      if response.userHandle ≠ some (toString user.id) then return none
                      let now ← perform .now
                      execute (.commitSignCount row.id newSignCount now) checked
                      return some user
  | _, _ => return none

end Service

/-! ## The handlers -/

inductive Request where
  | beginRegistration (email name challenge : String)
  | completeRegistration (email name : String) (response : Response) (origin : String)
  | beginAuthentication (challenge : String)
  | completeAuthentication (response : Response) (origin : String)
  | confirmWithPasskey (email : String) (response : Response) (origin : String)
  deriving DecidableEq

inductive Answer where
  | options (excluded : List String)
  | passkeyAdded
  | signedIn (userId : Nat)
  | confirmed (userId : Nat)
  | locked
  deriving DecidableEq

section Handlers

variable (site : Site)

def validatedOrigin (origin : String) : Service String :=
  if origin ∉ site.origins then raise 400 "Invalid WebAuthn origin" else return origin

def beginRegistration (email name challenge : String) : Service Answer := do
  match ← execute (.getByEmail email) id with
  | none => raise 401 "Authentication required"
  | some user =>
      if Python.strip name.toList = [] then raise 422 "Passkey name is required"
      let credentials ← execute (.listCredentials user.id) id
      if maxPasskeysPerUser ≤ credentials.length then
        raise 409 "This account already has the maximum number of passkeys"
      return .options (← registrationOptions site user challenge)

def completeRegistration (email name : String) (response : Response) (origin : String) :
    Service Answer := do
  let origin ← validatedOrigin site origin
  match ← execute (.getByEmail email) id with
  | none => raise 401 "Authentication required"
  | some user =>
      let cleanName := Python.strip name.toList
      if cleanName = [] ∨ 64 < cleanName.length then raise 422 "Invalid passkey registration"
      let registration ← finishRegistration site user (String.ofList cleanName) response origin
      if !registration.verified then
        -- An expired address would have to be loaded outside of an awaited call.
        if registration.expired then throw .databaseError
        perform (.logSecurityEvent false)
        raise 400 "Passkey registration could not be verified"
      perform (.logSecurityEvent true)
      perform .notifyPasskeyAdded
      return .passkeyAdded

/-- A failed response counts against its source. -/
def failCeremony {α : Type} (locked error : Service α) : Service α := do
  perform (.logSecurityEvent false)
  if !(← execute .recordFailure id) then
    perform (.logSecurityEvent false)
    perform .captureSecurityAlert
    locked
  else error

def completeAuthentication (response : Response) (origin : String) : Service Answer := do
  let origin ← validatedOrigin site origin
  if ← execute .isLocked id then
    perform (.logSecurityEvent false)
    return .locked
  match ← finishAuthentication site response origin none with
  | none => failCeremony (return .locked) (raise 401 "Passkey sign-in failed")
  | some user =>
      execute .resetFailedAttempts id
      execute (.startSession user.id) id
      perform (.logSecurityEvent true)
      return .signedIn user.id

def confirmWithPasskey (email : String) (response : Response) (origin : String) :
    Service Answer := do
  let origin ← validatedOrigin site origin
  match ← execute (.liveSession email) id with
  | none => raise 403 "Confirm your identity before changing passkeys."
  | some user =>
      if ← execute .isLocked id then
        perform (.logSecurityEvent false)
        raise 429 "Too many failed confirmation attempts."
      let verified ← finishAuthentication site response origin (some user)
      if verified.map (·.id) = some user.id then
        execute (.recordStepUp user.id) id
        perform (.logSecurityEvent true)
        execute .resetFailedAttempts id
        return .confirmed user.id
      else
        failCeremony (raise 429 "Too many failed confirmation attempts.")
          (raise 401 "Passkey confirmation failed")

def handler : Request → Service Answer
  | .beginRegistration email name challenge => beginRegistration site email name challenge
  | .completeRegistration email name response origin =>
      completeRegistration site email name response origin
  | .beginAuthentication challenge => do
      authenticationOptions site challenge
      return .options []
  | .completeAuthentication response origin => completeAuthentication site response origin
  | .confirmWithPasskey email response origin => confirmWithPasskey site email response origin

/-- The session of a request is closed at its end. -/
def handle (request : Request) : Service Answer :=
  Program.finally (handler site request) (perform .close)

end Handlers

/-! ## Other transactions -/

inductive Disturbance where
  | elapse (time : Nat)
  /-- An account is created or changed. -/
  | putUser (user : User)
  | deleteUser (id : Nat)
  | renameCredential (id : Nat) (name : String)
  | removeCredential (id : Nat)
  /-- A challenge is swept when it has expired, or goes with its user. -/
  | removeChallenge (challenge : String)

namespace Store

variable (store : Store)

def isUnlocked (key : RowKey) : Bool :=
  (store.locks key).isNone

def putUser (user : User) : Store :=
  { store with users := user :: store.users.filter (·.id != user.id) }

end Store

/-- Every other transaction waits for the rows that it changes. -/
def disturb (event : Disturbance) (store : Store) : Store :=
  match event with
  | .elapse time => { store with now := store.now + time }
  | .putUser user => if store.isUnlocked (.user user.id) then store.putUser user else store
  | .deleteUser id =>
      if store.isUnlocked (.user id) then { store with users := store.users.filter (·.id != id) }
      else store
  | .renameCredential id name =>
      if store.isUnlocked (.credential id) then
        store.mapCredential id fun row => { row with name }
      else store
  | .removeCredential id =>
      if store.isUnlocked (.credential id) then
        { store with credentials := store.credentials.filter (·.id != id) }
      else store
  | .removeChallenge challenge =>
      if store.isUnlocked (.challenge challenge) then
        { store with challenges := Function.update store.challenges challenge none }
      else store

def server (site : Site) : System Request Store Disturbance Reply Failure Answer where
  handle := handle site
  outcomes := outcomes site
  disturb := disturb

abbrev Server := Config Request Store Reply Failure Answer

end MysticAuth.Passkeys
