import MysticAuth.Interleaving.Histories

/-!
# OAuth2 states

A login or a step-up stores a single-use state in Valkey; a step-up stores a
context next to it, under a key of its own.  The callback consumes both, in
one order when the provider reports an error and in the other when it does not.
-/

set_option autoImplicit false

namespace MysticAuth.OAuth

open Interleaving

/-! ## Valkey and the other services -/

/-- The session that a step-up unlocks. -/
structure StepUpContext where
  chain : String
  email : String
  deriving DecidableEq

/-- What Google says of a user; a missing field is `none`. -/
structure UserInfo where
  email : Option String
  emailVerified : Bool
  deriving DecidableEq

/-- Google's two endpoints, `none` where the request fails. -/
structure Google where
  exchangeCode : String → Nat → Option String
  userInfo : String → Option UserInfo

/-- A key with its value and the time at which it expires. -/
abbrev Entry (α : Type) := Option (α × Nat)

/-- A random token is represented by the number of its generation. -/
structure Valkey where
  now : Nat
  nextToken : Nat
  states : Nat → Entry Nat
  contexts : Nat → Entry StepUpContext

def stateTtl : Nat := 300

def live {α : Type} (now : Nat) (entry : Entry α) : Option α :=
  entry.bind fun (value, deadline) => if now < deadline then some value else none

/-- `login_or_create_user`: tokens, `None`, or a rejection. -/
inductive LoginResult where
  | tokens
  | none
  | rejected (code : String)
  deriving DecidableEq

inductive Call where
  /-- `secrets.token_urlsafe`, for the state and for its code verifier -/
  | newState
  | setState (state verifier : Nat)
  | setContext (state : Nat) (context : StepUpContext)
  | getdelState (state : Nat)
  | getdelContext (state : Nat)
  /-- `get_current_user` and `google_step_up_context` -/
  | stepUpContext (session : StepUpContext)
  | exchangeCodeForTokens (code : String) (verifier : Nat)
  | getUserInfo (accessToken : String)
  | loginOrCreateUser (userInfo : UserInfo)
  /-- whether there is an active account -/
  | getByEmail (email : String)
  | recordStepUp (chain : String)
  | logSecurityEvent
  deriving DecidableEq

structure NewState where
  state : Nat
  verifier : Nat
  deriving DecidableEq

@[reducible] def Reply : Call → Type
  | .newState => NewState
  | .setState _ _ => Except Unit Unit
  | .setContext _ _ => Except Unit Unit
  | .getdelState _ => Except Unit (Option Nat)
  | .getdelContext _ => Except Unit (Option StepUpContext)
  | .stepUpContext _ => Except Unit StepUpContext
  | .exchangeCodeForTokens _ _ => Option String
  | .getUserInfo _ => Option UserInfo
  | .loginOrCreateUser _ => LoginResult
  | .getByEmail _ => Except Unit Bool
  | .recordStepUp _ => Except Unit Unit
  | .logSecurityEvent => Unit

/-- An answered call. -/
abbrev Event := Interleaving.Event Reply

/-- A command, which may fail, or take effect without being acknowledged. -/
def executed {α : Type} (before after : Valkey) (value : α) : List (Except Unit α × Valkey) :=
  [(.ok value, after), (.error (), before), (.error (), after)]

def outcomes (google : Google) (_ : Nat) (call : Call) (valkey : Valkey) :
    List (Reply call × Valkey) :=
  match call with
  | .newState =>
      [(⟨valkey.nextToken, valkey.nextToken + 1⟩,
        { valkey with nextToken := valkey.nextToken + 2 })]
  | .setState state verifier =>
      executed valkey
        { valkey with
          states := Function.update valkey.states state (some (verifier, valkey.now + stateTtl)) }
        ()
  | .setContext state context =>
      executed valkey
        { valkey with
          contexts :=
            Function.update valkey.contexts state (some (context, valkey.now + stateTtl)) }
        ()
  | .getdelState state =>
      executed valkey { valkey with states := Function.update valkey.states state none }
        (live valkey.now (valkey.states state))
  | .getdelContext state =>
      executed valkey { valkey with contexts := Function.update valkey.contexts state none }
        (live valkey.now (valkey.contexts state))
  | .stepUpContext session => [(.ok session, valkey), (.error (), valkey)]
  | .exchangeCodeForTokens code verifier =>
      [(google.exchangeCode code verifier, valkey), (none, valkey)]
  | .getUserInfo accessToken => [(google.userInfo accessToken, valkey), (none, valkey)]
  | .loginOrCreateUser _ =>
      [(.tokens, valkey), (.none, valkey), (.rejected "ACCOUNT_DEACTIVATED", valkey),
        (.rejected "ACCOUNT_DELETED", valkey), (.rejected "OAUTH_LOGIN_FAILED", valkey)]
  | .getByEmail _ => [(.ok true, valkey), (.ok false, valkey), (.error (), valkey)]
  | .recordStepUp _ => [(.ok (), valkey), (.error (), valkey)]
  | .logSecurityEvent => [((), valkey)]

def disturb (time : Nat) (valkey : Valkey) : Valkey :=
  { valkey with now := valkey.now + time }

/-! ## The OAuth2 service -/

abbrev Service (α : Type) := Program Reply Unit α

def execute {α : Type} (call : Call) (result : Reply call → Except Unit α) : Service α :=
  .attempt call result

def perform (call : Call) : Service (Reply call) :=
  .perform call

def generateAndStoreState (stepUpContext : Option StepUpContext) : Service Nat := do
  let new ← perform .newState
  execute (.setState new.state new.verifier) id
  if let some context := stepUpContext then
    execute (.setContext new.state context) id
  return new.state

def consumeStepUpContext (state : Nat) : Service (Option StepUpContext) :=
  execute (.getdelContext state) id

def consumeState (state : Nat) : Service (Option Nat) :=
  execute (.getdelState state) id

/-! ## The handlers -/

/-- Where the browser is sent. -/
inductive Redirect where
  | consent (state : Nat)
  | login (error : Option String)
  | dashboard
  | passkeys (result : String)
  deriving DecidableEq

def handleOAuth2LoginInitiate : Service Redirect :=
  tryCatch (do
    let state ← generateAndStoreState none
    return .consent state) fun _ => return .login none

/-- `PasskeyGoogleStepUpHandler.initiate`. -/
def initiateStepUp (session : StepUpContext) : Service Redirect :=
  tryCatch (do
    let context ← execute (.stepUpContext session) id
    let state ← generateAndStoreState (some context)
    return .consent state) fun _ => return .passkeys "PASSKEY_STEP_UP_FAILED"

/-- `PasskeyGoogleStepUpHandler.handle_callback`; `sameAccount` compares the addresses. -/
def handleStepUpCallback (sameAccount : String → String → Bool) (context : StepUpContext)
    (code : String) (codeVerifier : Nat) : Service Redirect :=
  tryCatch (do
    let some accessToken ← perform (.exchangeCodeForTokens code codeVerifier) |
      return .passkeys "OAUTH_LOGIN_FAILED"
    let userInfo ← perform (.getUserInfo accessToken)
    match userInfo.bind UserInfo.email with
    | none => return .passkeys "OAUTH_LOGIN_FAILED"
    | some email =>
      if !userInfo.any UserInfo.emailVerified then return .passkeys "OAUTH_EMAIL_NOT_VERIFIED"
      let active ← execute (.getByEmail context.email) id
      if !active || !sameAccount email context.email then
        perform .logSecurityEvent
        return .passkeys "PASSKEY_STEP_UP_FAILED"
      execute (.recordStepUp context.chain) id
      return .passkeys "ok") fun _ => return .passkeys "PASSKEY_STEP_UP_FAILED"

/-- The part of the callback that signs somebody in. -/
def finishLogin (code : String) (codeVerifier : Nat) : Service Redirect := do
  let some accessToken ← perform (.exchangeCodeForTokens code codeVerifier) |
    return .login (some "OAUTH_LOGIN_FAILED")
  let some userInfo ← perform (.getUserInfo accessToken) |
    return .login (some "OAUTH_LOGIN_FAILED")
  if userInfo.email.isNone then return .login (some "OAUTH_LOGIN_FAILED")
  if !userInfo.emailVerified then return .login (some "OAUTH_EMAIL_NOT_VERIFIED")
  let result ← perform (.loginOrCreateUser userInfo)
  perform .logSecurityEvent
  match result with
  | .rejected code => return .login (some code)
  | .none => return .login (some "OAUTH_LOGIN_FAILED")
  | .tokens => return .dashboard

/-- The parameters of Google's redirect and the state cookie; an empty value is `none`. -/
structure Callback where
  code : Option String
  state : Option Nat
  oauthStateCookie : Option Nat
  error : Option String
  deriving DecidableEq

def rejectState : Service Redirect := do
  perform .logSecurityEvent
  return .login (some "OAUTH_STATE_INVALID")

def handleOAuth2Callback (sameAccount : String → String → Bool) (callback : Callback) :
    Service Redirect :=
  tryCatch (do
    match callback.error, callback.code with
    | none, some code =>
      match callback.state with
      | none => rejectState
      | some state =>
        if callback.oauthStateCookie != some state then rejectState
        else
          let some codeVerifier ← consumeState state | rejectState
          match ← consumeStepUpContext state with
          | some context => handleStepUpCallback sameAccount context code codeVerifier
          | none => finishLogin code codeVerifier
    | _, _ =>
      match callback.state with
      | none => return .login (some "OAUTH_CANCELLED")
      | some state =>
        if (← consumeStepUpContext state).isNone then return .login (some "OAUTH_CANCELLED")
        let _ ← consumeState state
        return .passkeys "OAUTH_CANCELLED") fun _ => return .login (some "OAUTH_LOGIN_FAILED")

inductive Request where
  | loginInitiate
  | stepUpInitiate (session : StepUpContext)
  | callback (callback : Callback)
  deriving DecidableEq

def handle (sameAccount : String → String → Bool) : Request → Service Redirect
  | .loginInitiate => handleOAuth2LoginInitiate
  | .stepUpInitiate session => initiateStepUp session
  | .callback callback => handleOAuth2Callback sameAccount callback

def server (google : Google) (sameAccount : String → String → Bool) :
    System Request Valkey Nat Reply Unit Redirect where
  handle := handle sameAccount
  outcomes := outcomes google
  disturb := disturb

abbrev Server := Config Request Valkey Reply Unit Redirect

end MysticAuth.OAuth
