import MysticAuth.Tokens.Outcomes

/-!
# What each request may do

For every kind of request: after what calls it may claim a refresh token, read
versions for a new token, sign one or delete an account, and what it must have
done when it returns.
-/

set_option autoImplicit false

namespace MysticAuth.Tokens

open Interleaving

/-! ## Reading a trace -/

/-- The calls that a rule is about; all others may be made at any time. -/
def Call.isRuled : Call → Bool
  | uuid => true
  | encode _ => true
  | selectVersions _ _ => true
  | upsertVersion _ _ => true
  | insertClaim _ => true
  | deleteUser _ => true
  | _ => false

/-- The ruled calls, apart from the bump of a version. -/
def Call.isMinting : Call → Bool
  | upsertVersion _ _ => false
  | call => call.isRuled

/-- The call was answered with an exception. -/
def failed : Event → Bool
  | ⟨.markerExists _, .error _⟩ => true
  | ⟨.getMarker _, .error _⟩ => true
  | ⟨.selectVersion _, .error _⟩ => true
  | ⟨.selectVersions _ _, .error _⟩ => true
  | ⟨.lockVersion _, .error _⟩ => true
  | ⟨.upsertVersion _ _, .error _⟩ => true
  | ⟨.insertClaim _, .error _⟩ => true
  | ⟨.selectClaim _, .error _⟩ => true
  | ⟨.deleteExpiredClaims, .error _⟩ => true
  | ⟨.selectSessionByJti _, .error _⟩ => true
  | ⟨.selectSessionByChain _, .error _⟩ => true
  | ⟨.selectSessionById _, .error _⟩ => true
  | ⟨.insertSession _ _ _ _, .error _⟩ => true
  | ⟨.moveSession _ _ _, .error _⟩ => true
  | ⟨.deleteSession _, .error _⟩ => true
  | ⟨.deleteSessionsOf _ _, .error _⟩ => true
  | ⟨.countActiveSessions _, .error _⟩ => true
  | ⟨.deleteSessionsExpiredBefore _, .error _⟩ => true
  | ⟨.selectUserByEmail _, .error _⟩ => true
  | ⟨.selectUsersDeletedBefore _, .error _⟩ => true
  | ⟨.lockUser _, .error _⟩ => true
  | ⟨.setLastLogin _, .error _⟩ => true
  | ⟨.setPassword _ _, .error _⟩ => true
  | ⟨.softDelete _ _, .error _⟩ => true
  | ⟨.reactivate _, .error _⟩ => true
  | ⟨.deleteUser _, .error _⟩ => true
  | ⟨.insertAuditEntry, .error _⟩ => true
  | _ => false

/-- The id drawn last, unless a token has been signed since. -/
def lastDraw : Trace → Option Nat
  | [] => none
  | ⟨.uuid, id⟩ :: _ => some id
  | ⟨.encode _, _⟩ :: _ => none
  | _ :: earlier => lastDraw earlier

def firstDraw : Trace → Option Nat
  | [] => none
  | ⟨.uuid, id⟩ :: earlier => (firstDraw earlier).or (some id)
  | _ :: earlier => firstDraw earlier

def Call.isVersionsRead : Call → Bool
  | selectVersions _ _ => true
  | _ => false

/-- How often the versions for a new token have been read. -/
def versionsReads (trace : Trace) : Nat :=
  trace.countP fun event => event.1.isVersionsRead

def Call.isEncode : Call → Bool
  | encode _ => true
  | _ => false

def hasEncoded (trace : Trace) : Bool :=
  trace.any fun event => event.1.isEncode

def Call.isClaim : Call → Bool
  | insertClaim _ => true
  | _ => false

def hasClaimed (trace : Trace) : Bool :=
  trace.any fun event => event.1.isClaim

/-- Both versions of the token were read and found equal to the stored ones. -/
def VersionsMatched (trace : Trace) (token : Payload) : Prop :=
  ∃ email chainId accountVer chainVer, token.email = some email ∧ token.chain = some chainId ∧
    token.accountVer = some accountVer ∧ token.chainVer = some chainVer ∧
    ⟨.selectVersion (.account email), .ok accountVer⟩ ∈ trace ∧
    ⟨.selectVersion (.chain email chainId), .ok chainVer⟩ ∈ trace

/-- The version of the key was bumped, and the commit acknowledged. -/
def Bumped (trace : Trace) (key : VersionKey) : Prop :=
  ∃ version stored, ⟨.upsertVersion key version, .ok stored⟩ ∈ trace

/-- The same, after the calls of `earlier`. -/
def BumpedAfter (earlier trace : Trace) (key : VersionKey) : Prop :=
  ∃ version stored middle, ⟨.upsertVersion key version, .ok stored⟩ :: middle <:+ trace ∧
    earlier <:+ middle

def Failed (trace : Trace) : Prop :=
  ∃ event ∈ trace, failed event = true

/-- The instance of a user that a purge has loaded. -/
def Loaded (trace : Trace) (user : User) : Prop :=
  (∃ email, ⟨.selectUserByEmail email, .ok (some user)⟩ ∈ trace) ∨
    ∃ cutoff users, ⟨.selectUsersDeletedBefore cutoff, .ok users⟩ ∈ trace ∧ user ∈ users

/-! ## The rules -/

/-- The password check of a login, or the access-token, active-account and password checks of a
password change. -/
def Request.CredentialsChecked (trace : Trace) : Request → Prop
  | .login email password => ∃ user, ⟨.selectUserByEmail email, .ok (some user)⟩ ∈ trace ∧
      user.isVerified = true ∧ user.isActive = true ∧
      user.hashedPassword.any (verifyPassword password) = true
  | .updateMyProfile accessToken currentPassword _ => VersionsMatched trace accessToken ∧
      (∃ email user, ⟨.selectUserByEmail email, .ok (some user)⟩ ∈ trace ∧ user.isActive = true) ∧
      ∃ email user, ⟨.selectUserByEmail email, .ok (some user)⟩ ∈ trace ∧
        ∀ hashedPassword, user.hashedPassword = some hashedPassword →
          currentPassword.any (verifyPassword · hashedPassword) = true
  | _ => False

/-- Whose tokens a request may sign with versions it reads itself: those of a new chain, or those
of the chain of its access token. -/
def Request.Opens (trace : Trace) (email : String) (chainId : Nat) : Request → Prop
  | .login address _ => address = email ∧ firstDraw trace = some chainId
  | .updateMyProfile accessToken _ _ => accessToken.email = some email ∧
      accessToken.chain = some chainId ∧ ⟨.decode accessToken, true⟩ ∈ trace
  | _ => False

/-- A rotation carries the claims of the presented token over. -/
def Request.Continues (trace : Trace) (email : String) (chainId accountVer chainVer : Nat) :
    Request → Prop
  | .refresh parent _ => parent.email = some email ∧ parent.chain = some chainId ∧
      parent.accountVer = some accountVer ∧ parent.chainVer = some chainVer ∧
      ⟨.decode parent, true⟩ ∈ trace
  | _ => False

def Request.isLogin : Request → Bool
  | .login _ _ => true
  | _ => false

/-- Where the versions of a new token come from. -/
def Request.HasGrounds (request : Request) (trace : Trace) (email : String)
    (chainId accountVer chainVer : Nat) : Prop :=
  request.Opens trace email chainId ∧ request.CredentialsChecked trace ∧
      ⟨.selectVersions email chainId, .ok (accountVer, chainVer)⟩ ∈ trace ∨
    request.Continues trace email chainId accountVer chainVer

def Request.MayEncode (request : Request) (trace : Trace) (token : Payload) : Prop :=
  ∃ email chainId accountVer chainVer jti, token.email = some email ∧
    token.chain = some chainId ∧ token.accountVer = some accountVer ∧
    token.chainVer = some chainVer ∧ token.type ≠ .other ∧ token.jti = some jti ∧
    lastDraw trace = some jti ∧ request.HasGrounds trace email chainId accountVer chainVer

def Request.MayReadVersions (request : Request) (trace : Trace) (email : String)
    (chainId : Nat) : Prop :=
  request.Opens trace email chainId ∧ versionsReads trace < 2 ∧
    (request.isLogin = true → hasEncoded trace = false)

def Request.MayClaim (request : Request) (trace : Trace) (row : ClaimRow) : Prop :=
  ∃ token, request = .refresh token row.clientIp ∧ token.jti = some row.jti ∧
    token.exp = some row.expiresAt ∧ token.accountVer = some row.accountVer ∧
    token.chainVer = some row.chainVer ∧ token.type = .refresh ∧
    ⟨.decode token, true⟩ ∈ trace ∧ VersionsMatched trace token ∧ hasClaimed trace = false

def Request.allows (request : Request) (trace : Trace) : Call → Prop
  | .encode token => request.MayEncode trace token
  | .selectVersions email chainId => request.MayReadVersions trace email chainId
  | .upsertVersion key version =>
      ∃ current, ⟨.lockVersion key, .ok current⟩ ∈ trace ∧ version = current + 1
  | .insertClaim row => request.MayClaim trace row
  | .deleteUser userId =>
      ∃ user, Loaded trace user ∧ user.id = userId ∧ Bumped trace (.account user.email)
  | _ => True

/-- What is certain about a reply, whatever the state. -/
def answers : (call : Call) → Reply call → Prop
  | .insertClaim row, .ok (some consumed) => consumed.jti = row.jti ∧
      consumed.expiresAt = row.expiresAt ∧ consumed.clientIp = row.clientIp ∧
      consumed.accountVer = row.accountVer ∧ consumed.chainVer = row.chainVer
  | .selectClaim jti, .ok (some consumed) => consumed.jti = jti
  | .selectSessionByJti jti, .ok (some session) => session.currentJti = jti
  | .selectUserByEmail email, .ok (some user) => user.email = email
  | _, _ => True

def Request.discipline (request : Request) : Discipline Reply :=
  ⟨request.allows, answers⟩

/-! ## The results -/

/-- The claim that was in the way of `row` is gone. -/
def Vanished (trace : Trace) (row : ClaimRow) : Prop :=
  ∃ earlier, ⟨.selectClaim row.jti, .ok none⟩ :: earlier <:+ trace ∧
    ⟨.insertClaim row, .ok none⟩ ∈ earlier

/-- What a presentation that lost the claim leads to: the chain is bumped, unless a store failed,
the claim has vanished, or it was made by the same client. -/
def Lost (trace : Trace) (token : Payload) (clientIp : Option String) : Prop :=
  ∀ row, ⟨.insertClaim row, .ok none⟩ ∈ trace →
    Failed trace ∨ Vanished trace row ∨
      (∃ consumed, ⟨.selectClaim row.jti, .ok (some consumed)⟩ ∈ trace ∧
        consumed.clientIp = clientIp) ∨
      ∃ email chainId earlier, token.email = some email ∧ token.chain = some chainId ∧
        ⟨.decode token, true⟩ ∈ earlier ∧ BumpedAfter earlier trace (.chain email chainId)

/-- The claim was won, for a token that decoded and whose versions were current. -/
def Won (trace : Trace) (token : Payload) : Prop :=
  ⟨.decode token, true⟩ ∈ trace ∧ VersionsMatched trace token ∧
    ∃ row consumed, token.jti = some row.jti ∧ ⟨.insertClaim row, .ok (some consumed)⟩ ∈ trace

/-- What a logout that reports a revoked session has done for the token: the chain of the row it
found first is bumped, if that row has a chain. -/
def LoggedOut (trace : Trace) (token : Payload) : Prop :=
  ∀ jti email, token.jti = some jti → token.email = some email → token.type = .refresh →
    ⟨.decode token, true⟩ ∈ trace →
      ∃ reply earlier, ⟨.selectSessionByJti jti, reply⟩ :: earlier <:+ trace ∧
        (∀ reply', ⟨.selectSessionByJti jti, reply'⟩ ∉ earlier) ∧
        ⟨.decode token, true⟩ ∈ earlier ∧
        ∀ session chainId, reply = .ok (some session) → session.chainId = some chainId →
          BumpedAfter earlier trace (.chain email chainId)

def Request.returns : Request → Except ServiceError Response → Trace → Prop
  | .refresh token clientIp, result, trace => Lost trace token clientIp ∧
      ∀ pair, result = .ok (.tokens (some pair)) → Won trace token
  | .verify token _, result, trace =>
      ∀ payload, result = .ok (.verified (some payload)) →
        ⟨.decode token, true⟩ ∈ trace ∧ (token.type ≠ .other → VersionsMatched trace token)
  | .logout (some token), result, trace => (∃ valid, ⟨.decode token, valid⟩ ∈ trace) ∧
      (result = .ok (.loggedOut (some true)) → LoggedOut trace token)
  | _, _, _ => True

end MysticAuth.Tokens
