import Mathlib.Data.List.Infix
import MysticAuth.Interleaving.Histories

/-!
# The response interceptor of the browser

A 401 makes the interceptor refresh the session and send the request again,
at most once, and then once more after a session rotation.  The retries pass
through the interceptor themselves.  All requests of a page share one refresh
in flight, one pending rotation and the store that says who is logged in.
-/

set_option autoImplicit false

namespace MysticAuth.AuthInterceptor

open Interleaving

/-! ## Requests -/

/-- `RetryableRequestConfig`, with its two one-shot flags. -/
structure RequestConfig where
  url : Option String
  retriedAfterRefresh : Bool
  retriedAfterRotation : Bool
  deriving DecidableEq

def RequestConfig.plain (url : Option String) : RequestConfig :=
  ⟨url, false, false⟩

structure Response where
  serial : Nat
  status : Nat
  deriving DecidableEq

/-- What a request rejects with; a failure without a response has no status.  Two failures are
told apart by their serials. -/
structure Rejection where
  serial : Nat
  status : Option Nat
  deriving DecidableEq

def authEndpointsExcludedFromRefresh : List String :=
  ["/auth/login", "/auth/signup", "/auth/refresh", "/auth/logout", "/auth/password-reset",
    "/auth/verify-account", "/auth/oauth2"]

def RequestConfig.isEligibleForRefresh (config : RequestConfig) : Bool :=
  !authEndpointsExcludedFromRefresh.any fun path =>
    decide (path.toList <:+: (config.url.getD "").toList)

def refreshTokenConfig : RequestConfig :=
  .plain (some "/auth/refresh/")

/-! ## The page -/

structure Profile where
  name : Option String
  email : Option String
  role : Option String
  permissions : List String
  hasPassword : Bool
  permissionsPending : Bool
  deriving DecidableEq

def initialProfile : Profile :=
  ⟨none, none, none, [], false, false⟩

structure AuthState where
  isAuthenticated : Option Bool
  authenticatedAt : Option Nat
  profile : Profile
  deriving DecidableEq

def AuthState.setAuthenticated (auth : AuthState) (now : Nat) (isAuthenticated : Bool) : AuthState :=
  if isAuthenticated then
    { auth with isAuthenticated := some true, authenticatedAt := some now }
  else ⟨some false, none, initialProfile⟩

inductive QueryKey where
  | currentUser
  | sessions
  | myPolicies
  | myAuthorizationAuditLog
  | mySecurityAuditLog
  | other (name : String)
  deriving DecidableEq

structure Toast where
  title : String
  description : String
  type : String
  deriving DecidableEq

def sessionExpired : Toast :=
  ⟨"Your session has expired", "Please log in again to continue.", "error"⟩

/-- The promises of refreshes and rotations are numbered; `cached` has the queries with data. -/
structure Page where
  now : Nat
  auth : AuthState
  cached : List QueryKey
  toasts : List Toast
  refreshInFlight : Option Nat
  /-- the refresh in flight, while its task has not begun -/
  unclaimedRefresh : Option Nat
  settledRefreshes : List (Nat × Bool)
  nextRefresh : Nat
  pendingRotation : Option Nat
  settledRotations : List Nat
  nextRotation : Nat
  rotationSettledAt : Option Nat
  /-- the status of the server's next answer, or none if there will be no answer -/
  answer : Option Nat
  nextSerial : Nat

def recentlyRotatedGraceMs : Nat := 3000

namespace Page

def wasSessionRecentlyRotated (page : Page) : Bool :=
  page.pendingRotation.isSome ||
    page.rotationSettledAt.any fun settledAt =>
      decide (page.now - settledAt < recentlyRotatedGraceMs)

/-- A new refresh is in flight only if there was none. -/
def refreshSession (page : Page) : Nat × Page :=
  match page.refreshInFlight with
  | some promise => (promise, page)
  | none =>
      (page.nextRefresh,
        { page with
          refreshInFlight := some page.nextRefresh
          unclaimedRefresh := some page.nextRefresh
          nextRefresh := page.nextRefresh + 1 })

def settleRefresh (page : Page) (promise : Nat) (succeeded : Bool) : Page :=
  { page with
    refreshInFlight := none
    settledRefreshes := (promise, succeeded) :: page.settledRefreshes }

def trackSessionRotatingRequest (page : Page) : Nat × Page :=
  (page.nextRotation,
    { page with
      pendingRotation := some page.nextRotation
      nextRotation := page.nextRotation + 1 })

def settleRotation (page : Page) (promise : Nat) : Page :=
  { page with
    pendingRotation := if page.pendingRotation = some promise then none else page.pendingRotation
    rotationSettledAt := some page.now
    settledRotations := promise :: page.settledRotations }

/-- The server's answer; every status but those of 200 to 299 rejects. -/
def respond (page : Page) : Except Rejection Response × Page :=
  let rest := { page with nextSerial := page.nextSerial + 1 }
  match page.answer with
  | none => (.error ⟨page.nextSerial, none⟩, rest)
  | some status =>
      if 200 ≤ status ∧ status < 300 then (.ok ⟨page.nextSerial, status⟩, rest)
      else (.error ⟨page.nextSerial, some status⟩, rest)

/-- The end of the interceptor for a session that is over. -/
def markUnauthenticated (page : Page) : Page :=
  let hadLiveSession := page.auth.isAuthenticated == some true
  { page with
    auth := page.auth.setAuthenticated page.now false
    cached := page.cached.filter fun key => key matches .other _
    toasts := if hadLiveSession then sessionExpired :: page.toasts else page.toasts }

end Page

/-! ## Calls -/

/-- What happens without an `await` in between is one call. -/
inductive Call where
  | send (config : RequestConfig)
  | refreshSession
  | awaitRefresh (promise : Nat)
  | checkRotation
  | awaitRotation (promise : Nat)
  | markUnauthenticated
  | claimRefresh
  | enterCrossTabRefresh
  | settleRefresh (promise : Nat) (succeeded : Bool)
  | trackRotation
  | settleRotation (promise : Nat)
  deriving DecidableEq

@[reducible] def Reply : Call → Type
  | .send _ => Except Rejection Response
  | .refreshSession => Nat
  | .awaitRefresh _ => Bool
  | .checkRotation => Option Nat × Bool
  | .awaitRotation _ => Unit
  | .markUnauthenticated => Unit
  | .claimRefresh => Nat
  | .enterCrossTabRefresh => Except Rejection Bool
  | .settleRefresh _ _ => Unit
  | .trackRotation => Nat
  | .settleRotation _ => Unit

/-- An answered call. -/
abbrev Event := Interleaving.Event Reply

/-- A promise that has not settled blocks whoever awaits it. -/
def outcomes (_ : Nat) (call : Call) (page : Page) : List (Reply call × Page) :=
  match call with
  | .send _ => [page.respond]
  | .refreshSession => [page.refreshSession]
  | .awaitRefresh promise =>
      match page.settledRefreshes.find? (·.1 == promise) with
      | none => []
      | some (_, succeeded) => [(succeeded, page)]
  | .checkRotation => [((page.pendingRotation, page.wasSessionRecentlyRotated), page)]
  | .awaitRotation promise => if promise ∈ page.settledRotations then [((), page)] else []
  | .markUnauthenticated => [((), page.markUnauthenticated)]
  | .claimRefresh =>
      match page.unclaimedRefresh with
      | none => []
      | some promise => [(promise, { page with unclaimedRefresh := none })]
  -- another tab has rotated the session, or this one is to do it, or there is no lock
  | .enterCrossTabRefresh =>
      [(.ok true, page), (.ok false, page),
        (.error ⟨page.nextSerial, none⟩, { page with nextSerial := page.nextSerial + 1 })]
  | .settleRefresh promise succeeded => [((), page.settleRefresh promise succeeded)]
  | .trackRotation => [page.trackSessionRotatingRequest]
  | .settleRotation promise => [((), page.settleRotation promise)]

/-! ## The interceptor -/

abbrev Service (α : Type) := Program Reply Rejection α

/-- How many retries the flags leave, a refresh counting for two. -/
def RequestConfig.unset (config : RequestConfig) : Nat :=
  (if config.retriedAfterRefresh then 0 else 2) + (if config.retriedAfterRotation then 0 else 1)

theorem RequestConfig.unset_refreshed (config : RequestConfig)
    (fresh : config.retriedAfterRefresh = false) :
    { config with retriedAfterRefresh := true }.unset + 2 = config.unset := by
  simp only [RequestConfig.unset, fresh, if_true, Bool.false_eq_true, if_false]
  omega

theorem RequestConfig.unset_rotated (config : RequestConfig)
    (fresh : config.retriedAfterRotation = false) :
    { config with retriedAfterRotation := true }.unset + 1 = config.unset := by
  simp [RequestConfig.unset, fresh]

/-- The session is over, and the request rejects with the answer that said so. -/
def expire (error : Rejection) : Service Response :=
  .call .markUnauthenticated fun _ => .done (.error error)

def awaitPending : Option Nat → Service Unit
  | none => pure ()
  | some promise => Program.perform (Call.awaitRotation promise)

mutual

/-- A request through the shared axios instance. -/
def api (config : RequestConfig) : Service Response :=
  .call (.send config) fun
    | .ok response => .done (.ok response)
    | .error error => interceptor config error
termination_by 3 * config.unset + 2

/-- The flag of the refresh is set only once the refresh has succeeded.  The retry has its own
copy of the flags, and whatever it fails with is dropped. -/
def interceptor (config : RequestConfig) (error : Rejection) : Service Response :=
  if error.status ≠ some 401 then .done (.error error)
  else if config.isEligibleForRefresh = true ∧ config.retriedAfterRefresh = false then
    .call .refreshSession fun promise =>
      .call (.awaitRefresh promise) fun succeeded =>
        if succeeded then
          (api { config with retriedAfterRefresh := true }).resume fun
            | .ok response => .done (.ok response)
            | .error _ => afterRotation { config with retriedAfterRefresh := true } error
        else afterRotation config error
  else afterRotation config error
termination_by 3 * config.unset + 1
decreasing_by
  all_goals first
    | omega
    | (have less := config.unset_refreshed (‹_ ∧ config.retriedAfterRefresh = false›).2; omega)

/-- The last attempt, which is no refresh. -/
def afterRotation (config : RequestConfig) (error : Rejection) : Service Response :=
  if config.retriedAfterRotation = false then
    .call .checkRotation fun rotation =>
      if rotation.1.isSome || rotation.2 then
        (awaitPending rotation.1).resume fun _ =>
          (api { config with retriedAfterRotation := true }).resume fun
            | .ok response => .done (.ok response)
            | .error _ => expire error
      else expire error
  else expire error
termination_by 3 * config.unset
decreasing_by
  have less := config.unset_rotated ‹config.retriedAfterRotation = false›
  omega

end

/-- How the last attempt ends. -/
def orExpire (error : Rejection) : Except Rejection Response → Service Response
  | .ok response => .done (.ok response)
  | .error _ => expire error

/-! ## What runs on a page -/

/-- The task behind `refreshSession`, of which there is one for each refresh in flight. -/
def refreshTask : Service (Option Response) :=
  .call .claimRefresh fun promise =>
    .call .enterCrossTabRefresh fun
      | .ok true => .call (.settleRefresh promise true) fun _ => .done (.ok none)
      | .error failure => .call (.settleRefresh promise false) fun _ => .done (.error failure)
      | .ok false =>
          (api refreshTokenConfig).resume fun
            | .ok _ => .call (.settleRefresh promise true) fun _ => .done (.ok none)
            | .error error => .call (.settleRefresh promise false) fun _ => .done (.error error)

inductive Request where
  | api (url : Option String)
  /-- a request passed to `trackSessionRotatingRequest` -/
  | rotating (url : Option String)
  | refresh
  deriving DecidableEq

/-- A refresh resolves to `undefined`. -/
def handle : Request → Service (Option Response)
  | .api url => (api (.plain url)).resume fun result => .done (result.map some)
  | .rotating url =>
      .call .trackRotation fun promise =>
        (api (.plain url)).resume fun result =>
          .call (.settleRotation promise) fun _ => .done (result.map some)
  | .refresh => refreshTask

/-- What else happens: time passes, the server decides on its next answer, another part of the
page writes to the store of the session or loads a query. -/
inductive Environment where
  | clock (now : Nat)
  | answer (status : Option Nat)
  | setAuth (auth : AuthState)
  | load (key : QueryKey)

def disturb : Environment → Page → Page
  | .clock now, page => { page with now := now }
  | .answer status, page => { page with answer := status }
  | .setAuth auth, page => { page with auth := auth }
  | .load key, page => { page with cached := key :: page.cached }

def system : System Request Page Environment Reply Rejection (Option Response) where
  handle := handle
  outcomes := outcomes
  disturb := disturb

abbrev Browser := Config Request Page Reply Rejection (Option Response)

end MysticAuth.AuthInterceptor
