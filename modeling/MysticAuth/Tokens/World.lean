import Mathlib.Data.List.Sort
import MysticAuth.Core.Errors
import MysticAuth.Interleaving.System

/-!
# The stores behind tokens and sessions

The tables for users, token revocation versions, consumed refresh tokens and
the session mirror, the replay markers in Valkey, and the statements that the
services run against them.  One call is one statement, or one transaction
where the source commits right after it.  A call may fail, and a commit may
take effect without being acknowledged.
-/

set_option autoImplicit false

namespace MysticAuth.Tokens

open Interleaving

/-! ## Tokens -/

/-- The `type` claim; `other` is any further type, or none. -/
inductive TokenType where
  | access
  | refresh
  | other
  deriving DecidableEq, Repr

/-- The claims of a signed token.  An id is the value of its UUID, and a claim that is missing,
empty or of the wrong type is `none`. -/
structure Payload where
  email : Option String
  type : TokenType
  jti : Option Nat
  chain : Option Nat
  accountVer : Option Nat
  chainVer : Option Nat
  exp : Option Nat
  iss : Option String
  aud : Option String
  deriving DecidableEq, Repr

structure Settings where
  accessTokenExpire : Nat
  refreshTokenExpire : Nat
  refreshTokenReuseGrace : Nat
  sessionRowRetention : Nat
  accountPurgeGrace : Nat
  jwtIssuer : String
  jwtAudience : String

/-! ## Rows -/

/-- A hash is represented by the password it verifies. -/
structure User where
  id : Nat
  email : String
  hashedPassword : Option String
  isVerified : Bool
  isActive : Bool
  deletedAt : Option Nat
  deriving DecidableEq, Repr

/-- The key of a revocation counter, without its format. -/
inductive VersionKey where
  | account (email : String)
  | chain (email : String) (chainId : Nat)
  deriving DecidableEq, Repr

structure ConsumedRefreshToken where
  jti : Nat
  consumedAt : Nat
  expiresAt : Nat
  clientIp : Option String
  accountVer : Nat
  chainVer : Nat
  deriving DecidableEq, Repr

/-- The columns of the session mirror that are read by anything but its display. -/
structure UserSession where
  id : Nat
  userId : Nat
  currentJti : Nat
  chainId : Option Nat
  expiresAt : Nat
  deriving DecidableEq, Repr

/-- The text under `revoked:{jti}`: a claim time and an address, or anything else. -/
inductive Marker where
  | stamped (claimedAt : Nat) (clientIp : String)
  | other
  deriving DecidableEq, Repr

structure World where
  now : Nat
  nextId : Nat
  users : List User
  versions : VersionKey → Option Nat
  legacyVersions : VersionKey → Option Nat
  consumed : List ConsumedRefreshToken
  sessions : List UserSession
  nextSessionId : Nat
  markers : Nat → Option Marker
  /-- Every token signed so far; a signature verifies exactly for these. -/
  issued : List Payload
  /-- Row locks on users, each with the request whose transaction holds it. -/
  userLocks : List (Nat × Nat)

namespace World

variable (world : World)

/-- The greatest of the rows in the current and the legacy format. -/
def version (key : VersionKey) : Nat :=
  max ((world.versions key).getD 0) ((world.legacyVersions key).getD 0)

def claimOf (jti : Nat) : Option ConsumedRefreshToken :=
  world.consumed.find? (·.jti == jti)

def sessionByJti (jti : Nat) : Option UserSession :=
  world.sessions.find? (·.currentJti == jti)

def userByEmail (email : String) : Option User :=
  world.users.find? (·.email == email)

def userById (userId : Nat) : Option User :=
  world.users.find? (·.id == userId)

/-- Signed with the key, and not expired. -/
def decodes (token : Payload) : Bool :=
  decide (token ∈ world.issued) && token.exp.all fun exp => decide (world.now < exp)

def isLockedByOther (thread userId : Nat) : Bool :=
  world.userLocks.any fun lock => lock.1 == userId && lock.2 != thread

/-- The end of a transaction releases its row locks. -/
def releaseLocks (thread : Nat) : World :=
  { world with userLocks := world.userLocks.filter (·.2 != thread) }

def updateUser (userId : Nat) (update : User → User) : World :=
  { world with users := world.users.map fun user => if user.id = userId then update user else user }

/-- The oldest expired claims, at most five thousand of them. -/
def expiredClaims : List ConsumedRefreshToken :=
  let expired := world.consumed.filter fun row => row.expiresAt < world.now
  (expired.insertionSort fun first second => first.expiresAt ≤ second.expiresAt).take 5000

end World

/-! ## Statements -/

inductive ServiceError where
  | valkeyError
  | databaseError
  | tokenVersionUnavailable
  | accountNoLongerEligibleForPurge
  | other
  | app (error : AppError)
  deriving DecidableEq

/-- The `:params` of the claim's insert. -/
structure ClaimRow where
  jti : Nat
  expiresAt : Nat
  clientIp : Option String
  accountVer : Nat
  chainVer : Nat
  deriving DecidableEq

inductive Call where
  /-- `datetime.now(UTC)` -/
  | clock
  /-- `uuid.uuid4().hex` -/
  | uuid
  /-- which of two awaited coroutines is served first -/
  | firstServed
  /-- `jwt.decode`: the signature and the expiry -/
  | decode (token : Payload)
  /-- `jwt.encode` -/
  | encode (token : Payload)
  | markerExists (jti : Nat)
  | getMarker (jti : Nat)
  | selectVersion (key : VersionKey)
  | selectVersions (email : String) (chainId : Nat)
  | lockVersion (key : VersionKey)
  | upsertVersion (key : VersionKey) (version : Nat)
  | insertClaim (row : ClaimRow)
  | selectClaim (jti : Nat)
  | deleteExpiredClaims
  | selectSessionByJti (jti : Nat)
  | selectSessionByChain (chainId : Nat)
  | selectSessionById (sessionId : Nat)
  | insertSession (userId jti chainId expiresAt : Nat)
  | moveSession (sessionId newJti newExpiresAt : Nat)
  | deleteSession (sessionId : Nat)
  | deleteSessionsOf (userId : Nat) (exemptChainId : Option Nat)
  | countActiveSessions (userId : Nat)
  | deleteSessionsExpiredBefore (before : Nat)
  | selectUserByEmail (email : String)
  | selectUsersDeletedBefore (cutoff : Nat)
  | lockUser (userId : Nat)
  | setLastLogin (userId : Nat)
  | setPassword (userId : Nat) (hashedPassword : String)
  | softDelete (userId deletedAt : Nat)
  | reactivate (userId : Nat)
  | deleteUser (userId : Nat)
  | insertAuditEntry
  | closeSession
  deriving DecidableEq

@[reducible] def Reply : Call → Type
  | .clock => Nat
  | .uuid => Nat
  | .firstServed => Bool
  | .decode _ => Bool
  | .encode _ => Unit
  | .markerExists _ => Except ServiceError Bool
  | .getMarker _ => Except ServiceError (Option Marker)
  | .selectVersion _ => Except ServiceError Nat
  | .selectVersions _ _ => Except ServiceError (Nat × Nat)
  | .lockVersion _ => Except ServiceError Nat
  | .upsertVersion _ _ => Except ServiceError Nat
  | .insertClaim _ => Except ServiceError (Option ConsumedRefreshToken)
  | .selectClaim _ => Except ServiceError (Option ConsumedRefreshToken)
  | .deleteExpiredClaims => Except ServiceError Nat
  | .selectSessionByJti _ => Except ServiceError (Option UserSession)
  | .selectSessionByChain _ => Except ServiceError (Option UserSession)
  | .selectSessionById _ => Except ServiceError (Option UserSession)
  | .insertSession _ _ _ _ => Except ServiceError Unit
  | .moveSession _ _ _ => Except ServiceError Unit
  | .deleteSession _ => Except ServiceError Unit
  | .deleteSessionsOf _ _ => Except ServiceError Nat
  | .countActiveSessions _ => Except ServiceError Nat
  | .deleteSessionsExpiredBefore _ => Except ServiceError Nat
  | .selectUserByEmail _ => Except ServiceError (Option User)
  | .selectUsersDeletedBefore _ => Except ServiceError (List User)
  | .lockUser _ => Except ServiceError Bool
  | .setLastLogin _ => Except ServiceError Unit
  | .setPassword _ _ => Except ServiceError Unit
  | .softDelete _ _ => Except ServiceError Unit
  | .reactivate _ => Except ServiceError Unit
  | .deleteUser _ => Except ServiceError Unit
  | .insertAuditEntry => Except ServiceError Unit
  | .closeSession => Unit

/-- An answered call. -/
abbrev Event := Interleaving.Event Reply

section Outcomes

variable {α : Type}

/-- A read from Postgres. -/
def selected (world : World) (value : α) : List (Except ServiceError α × World) :=
  [(.ok value, world), (.error .databaseError, world)]

/-- A read from Valkey. -/
def fetched (world : World) (value : α) : List (Except ServiceError α × World) :=
  [(.ok value, world), (.error .valkeyError, world)]

/-- A statement and its commit, which may fail, or succeed without being acknowledged. -/
def committed (world after : World) (value : α) : List (Except ServiceError α × World) :=
  [(.ok value, after), (.error .databaseError, world), (.error .databaseError, after)]

/-- A statement that violates a constraint, or an update of a row that is gone. -/
def refused (world : World) : List (Except ServiceError α × World) :=
  [(.error .databaseError, world)]

/-- An update of one user row by its request's transaction. -/
def updatedUser (world : World) (thread userId : Nat) (update : User → User) :
    List (Except ServiceError Unit × World) :=
  if world.isLockedByOther thread userId then []
  else if (world.userById userId).isNone then refused world
  else committed world ((world.updateUser userId update).releaseLocks thread) ()

end Outcomes

def outcomes (thread : Nat) (call : Call) (world : World) : List (Reply call × World) :=
  match call with
  | .clock => [(world.now, world)]
  | .uuid => [(world.nextId, { world with nextId := world.nextId + 1 })]
  | .firstServed => [(true, world), (false, world)]
  | .decode token => [(world.decodes token, world)]
  | .encode token => [((), { world with issued := token :: world.issued })]
  | .markerExists jti => fetched world (world.markers jti).isSome
  | .getMarker jti => fetched world (world.markers jti)
  | .selectVersion key => selected world (world.version key)
  | .selectVersions email chainId =>
      selected world (world.version (.account email), world.version (.chain email chainId))
  | .lockVersion key => selected world (world.version key)
  | .upsertVersion key version =>
      let stored := match world.versions key with
        | some row => max (row + 1) version
        | none => version
      committed world
        { world with versions := Function.update world.versions key (some stored) } stored
  | .insertClaim row =>
      match world.claimOf row.jti with
      | some _ => selected world none
      | none =>
          let consumed : ConsumedRefreshToken :=
            ⟨row.jti, world.now, row.expiresAt, row.clientIp, row.accountVer, row.chainVer⟩
          committed world { world with consumed := consumed :: world.consumed } (some consumed)
  | .selectClaim jti => selected world (world.claimOf jti)
  | .deleteExpiredClaims =>
      committed world
        { world with consumed := world.consumed.filter fun row => row ∉ world.expiredClaims }
        world.expiredClaims.length
  | .selectSessionByJti jti => selected world (world.sessionByJti jti)
  | .selectSessionByChain chainId =>
      -- `scalar_one_or_none` raises when several rows share the chain
      match world.sessions.filter (·.chainId == some chainId) with
      | [] => selected world none
      | [session] => selected world (some session)
      | _ => refused world
  | .selectSessionById sessionId => selected world (world.sessions.find? (·.id == sessionId))
  | .insertSession userId jti chainId expiresAt =>
      if (world.sessionByJti jti).isSome || (world.userById userId).isNone then refused world
      else
        let session : UserSession := ⟨world.nextSessionId, userId, jti, some chainId, expiresAt⟩
        committed world
          ({ world with
            sessions := world.sessions ++ [session]
            nextSessionId := world.nextSessionId + 1 }.releaseLocks thread) ()
  | .moveSession sessionId newJti newExpiresAt =>
      if (world.sessionByJti newJti).isSome || !world.sessions.any (·.id == sessionId) then
        refused world
      else
        committed world
          ({ world with
            sessions := world.sessions.map fun session : UserSession =>
              if session.id = sessionId then
                { session with currentJti := newJti, expiresAt := newExpiresAt }
              else session }.releaseLocks thread) ()
  | .deleteSession sessionId =>
      committed world
        ({ world with sessions := world.sessions.filter (·.id != sessionId) }.releaseLocks thread) ()
  | .deleteSessionsOf userId exemptChainId =>
      -- in SQL a null chain is neither equal to the exempt one nor different from it
      let doomed (session : UserSession) : Bool := session.userId == userId &&
        match exemptChainId with
        | none => true
        | some exempt => session.chainId.any (· != exempt)
      committed world
        ({ world with sessions := world.sessions.filter (!doomed ·) }.releaseLocks thread)
        (world.sessions.filter doomed).length
  | .countActiveSessions userId =>
      selected world (world.sessions.filter fun session =>
        session.userId == userId && decide (world.now < session.expiresAt)).length
  | .deleteSessionsExpiredBefore before =>
      committed world
        ({ world with
          sessions := world.sessions.filter fun session => before ≤ session.expiresAt
          }.releaseLocks thread)
        (world.sessions.filter fun session => session.expiresAt < before).length
  | .selectUserByEmail email => selected world (world.userByEmail email)
  | .selectUsersDeletedBefore cutoff =>
      selected world (world.users.filter fun user => user.deletedAt.any (· < cutoff))
  | .lockUser userId =>
      if world.isLockedByOther thread userId then []
      else if (world.userById userId).isSome then
        [(.ok true, { world with userLocks := (userId, thread) :: world.userLocks }),
          (.error .databaseError, world)]
      else selected world false
  | .setLastLogin userId => updatedUser world thread userId id
  | .setPassword userId hashedPassword =>
      updatedUser world thread userId fun user =>
        { user with hashedPassword := some hashedPassword }
  | .softDelete userId deletedAt =>
      updatedUser world thread userId fun user =>
        { user with isActive := false, deletedAt := some deletedAt }
  | .reactivate userId =>
      updatedUser world thread userId fun user => { user with isActive := true, deletedAt := none }
  | .deleteUser userId =>
      if world.isLockedByOther thread userId then []
      else
        committed world
          ({ world with
            users := world.users.filter (·.id != userId)
            sessions := world.sessions.filter (·.userId != userId) }.releaseLocks thread) ()
  | .insertAuditEntry => committed world (world.releaseLocks thread) ()
  | .closeSession => [((), world.releaseLocks thread)]

/-- What happens without a request: time passes, and Valkey loses a marker. -/
inductive Disturbance where
  | elapse (time : Nat)
  | loseMarker (jti : Nat)

def disturb (disturbance : Disturbance) (world : World) : World :=
  match disturbance with
  | .elapse time => { world with now := world.now + time }
  | .loseMarker jti => { world with markers := Function.update world.markers jti none }

/-! ## Services -/

abbrev Service (α : Type) := Program Reply ServiceError α

abbrev Trace := List Event

/-- A call that cannot fail. -/
def perform (call : Call) : Service (Reply call) :=
  Program.perform call

/-- One statement, whose failure is raised. -/
def execute {α : Type} (call : Call) (result : Reply call → Except ServiceError α) : Service α :=
  .attempt call result

end MysticAuth.Tokens
