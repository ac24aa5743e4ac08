import MysticAuth.Accounts.EmailKeys
import MysticAuth.Interleaving.Tickets
import MysticAuth.Interleaving.Writes
import MysticAuth.OAuth.OAuth2Login

/-!
# Deleting one's own account

An account with a password is deleted at once when the password is given again.
An account without one gets a link, which carries the account's version and has
a single-use key in Valkey.
-/

set_option autoImplicit false

namespace MysticAuth.AccountDeletion

open Interleaving OAuth

/-! ## Tokens, Valkey and the users table -/

/-- The clock and the expiry of a token count microseconds. -/
def microsPerSecond : Nat := 1000000

/-- The claims of a deletion token.  A missing address is empty. -/
structure DeletionToken where
  email : String
  type : String
  accountVer : Option Nat
  exp : Option Nat
  deriving DecidableEq

structure Account where
  email : String
  role : UserRole
  hashedPassword : Option String
  isActive : Bool
  deriving DecidableEq

structure Store where
  now : Nat
  /-- the single-use keys, under `one_time_token_key` -/
  links : String → Entry Unit
  /-- the account versions, by casefolded address -/
  versions : String → Nat
  accounts : List Account

/-- What a deployment fixes.  A token is genuine that has our signature, issuer and audience;
`digest` is the SHA-256 of the encoded token. -/
structure Site where
  keys : KeyTables
  digest : DeletionToken → String
  genuine : DeletionToken → Bool
  verifyHash : String → String → Bool
  accountDeleteTokenExpireMinutes : Nat

/-- `one_time_token_key("account_delete", token)` -/
def Site.linkKey (site : Site) (token : DeletionToken) : String :=
  "account_delete:" ++ site.digest token

inductive Failure where
  /-- an `AppError`: too many hashes at once -/
  | app
  | tokenVersionUnavailable
  | other
  deriving DecidableEq

/-! ## Calls -/

inductive Call where
  | currentTime
  | getAccountVersion (email : String)
  | setLink (key : String) (seconds : Nat)
  | deferEmail (email : String) (token : DeletionToken)
  | verifyAccountDeletionToken (token : DeletionToken)
  /-- `GETDEL` -/
  | takeLink (key : String)
  | getByEmail (email : String)
  | verifyPassword (password hashed : String)
  | softDelete (email : String)
  | revokeAllTokensForUser (email : String)
  | logSecurityEvent (email : String)
  deriving DecidableEq

@[reducible] def Reply : Call → Type
  | .currentTime => Nat
  | .getAccountVersion _ => Except Failure Nat
  | .setLink _ _ => Except Failure Unit
  | .deferEmail _ _ => Except Failure Unit
  | .verifyAccountDeletionToken _ => Option DeletionToken
  | .takeLink _ => Except Failure Bool
  | .getByEmail _ => Except Failure (Option Account)
  | .verifyPassword _ _ => Except Failure Bool
  | .softDelete _ => Except Failure Unit
  | .revokeAllTokensForUser _ => Except Failure Unit
  | .logSecurityEvent _ => Unit

/-- An answered call. -/
abbrev Event := Interleaving.Event Reply

/-- A command or a commit, which may fail, or take effect without being acknowledged. -/
def executed {α : Type} (before after : Store) (value : α) : List (Except Failure α × Store) :=
  [(.ok value, after), (.error .other, before), (.error .other, after)]

namespace Store

variable (store : Store)

/-- `jwt.decode` truncates the expiry. -/
def expired (token : DeletionToken) : Bool :=
  token.exp.any fun exp => exp / microsPerSecond * microsPerSecond ≤ store.now

def isLive (key : String) : Bool :=
  (live store.now (store.links key)).isSome

def setLink (key : String) (seconds : Nat) : Store :=
  { store with
    links := Function.update store.links key (some ((), store.now + seconds * microsPerSecond)) }

def dropLink (key : String) : Store :=
  { store with links := Function.update store.links key none }

def raiseVersion (folded : String) : Store :=
  { store with versions := Function.update store.versions folded (store.versions folded + 1) }

def softDelete (email : String) : Store :=
  { store with
    accounts := store.accounts.map fun account =>
      if account.email == email then { account with isActive := false } else account }

end Store

def outcomes (site : Site) (_ : Nat) (call : Call) (store : Store) : List (Reply call × Store) :=
  match call with
  | .currentTime => [(store.now, store)]
  | .getAccountVersion email =>
      [(.ok (store.versions (site.keys.foldedEmail email)), store),
        (.error .tokenVersionUnavailable, store)]
  | .setLink key seconds => executed store (store.setLink key seconds) ()
  | .deferEmail _ _ => [(.ok (), store), (.error .other, store)]
  | .verifyAccountDeletionToken token =>
      [(if site.genuine token && !store.expired token && !token.email.isEmpty &&
          token.type == "account_delete" then some token else none, store)]
  | .takeLink key =>
      if store.isLive key then executed store (store.dropLink key) true
      else executed store store false
  | .getByEmail email =>
      [(.ok (store.accounts.find? (·.email == site.keys.normalizeEmail email)), store),
        (.error .other, store)]
  | .verifyPassword password hashed =>
      [(.ok (site.verifyHash password hashed), store), (.error .app, store),
        (.error .other, store)]
  | .softDelete email =>
      if store.accounts.any (·.email == email) then executed store (store.softDelete email) ()
      else [(.error .other, store)]
  | .revokeAllTokensForUser email =>
      [(.ok (), store.raiseVersion (site.keys.foldedEmail email)),
        (.error .tokenVersionUnavailable, store),
        (.error .tokenVersionUnavailable, store.raiseVersion (site.keys.foldedEmail email)),
        (.error .other, store), (.error .other, store.raiseVersion (site.keys.foldedEmail email))]
  | .logSecurityEvent _ => [((), store)]

/-- Time passes, Valkey loses a key, sessions of an account are revoked by other requests, and other
requests change the accounts. -/
inductive Disturbance where
  | elapse (micros : Nat)
  | loseLink (key : String)
  | revokeSessions (folded : String)
  | changeAccounts (accounts : List Account)

def disturb (disturbance : Disturbance) (store : Store) : Store :=
  match disturbance with
  | .elapse micros => { store with now := store.now + micros }
  | .loseLink key => store.dropLink key
  | .revokeSessions folded => store.raiseVersion folded
  | .changeAccounts accounts => { store with accounts }

/-! ## The account deletion service -/

abbrev Service (α : Type) := Program Reply Failure α

def perform (call : Call) : Service (Reply call) :=
  .perform call

def execute {α : Type} (call : Call) (result : Reply call → Except Failure α) : Service α :=
  .attempt call result

section Service

variable (site : Site)

def createAccountDeletionToken (email : String) : Service DeletionToken := do
  let now ← perform .currentTime
  let accountVer ← execute (.getAccountVersion email) id
  return ⟨email, "account_delete", some accountVer,
    some (now + site.accountDeleteTokenExpireMinutes * 60 * microsPerSecond)⟩

def sendDeletionEmail (user : Account) : Service Bool :=
  tryCatch (do
    let token ← createAccountDeletionToken site user.email
    execute (.setLink (site.linkKey token) (site.accountDeleteTokenExpireMinutes * 60)) id
    execute (.deferEmail user.email token) id
    return true) fun _ => return false

def confirmRevocation (email : String) : Service Bool :=
  tryCatch (do
    execute (.revokeAllTokensForUser email) id
    return true) fun
    | .tokenVersionUnavailable => return false
    | failure => throw failure

def finalizeSelfDeletion (user : Account) : Service Unit := do
  execute (.softDelete user.email) id
  let _ ← confirmRevocation user.email
  perform (.logSecurityEvent user.email)

/-- What is done with a link that was redeemed. -/
def deleteRedeemed (payload : DeletionToken) : Service Bool := do
  match payload.accountVer with
  | none => return false
  | some tokenAccountVer =>
    if tokenAccountVer ≠ (← execute (.getAccountVersion payload.email) id) then return false
    else
      match ← execute (.getByEmail payload.email) id with
      | none => return false
      | some user =>
        finalizeSelfDeletion user
        return true

def confirmDeletion (token : DeletionToken) : Service Bool :=
  tryCatch (do
    match ← perform (.verifyAccountDeletionToken token) with
    | none => return false
    | some payload =>
      if ← execute (.takeLink (site.linkKey token)) id then deleteRedeemed payload
      else return false) fun _ => return false

inductive Response where
  | accountDeleted
  | confirmationRequired
  | refused (code : String)
  | confirmed (success : Bool)
  deriving DecidableEq

/-- `DELETE /users/me`; a missing password and an empty one are not checked. -/
def deleteMyAccount (email currentPassword : String) : Service Response := do
  match ← execute (.getByEmail email) id with
  | none => return .refused "USER_NOT_FOUND"
  | some user =>
    if user.role = .system then return .refused "SYSTEM_USER_CANNOT_BE_DELETED"
    else
      match user.hashedPassword with
      | none =>
        let _ ← sendDeletionEmail site user
        return .confirmationRequired
      | some hashed =>
        if currentPassword.isEmpty then return .refused "CURRENT_PASSWORD_INCORRECT"
        else if ← execute (.verifyPassword currentPassword hashed) id then
          finalizeSelfDeletion user
          return .accountDeleted
        else return .refused "CURRENT_PASSWORD_INCORRECT"

inductive Request where
  | deleteMyAccount (email currentPassword : String)
  | confirmDeletion (token : DeletionToken)
  deriving DecidableEq

def handle : Request → Service Response
  | .deleteMyAccount email currentPassword => deleteMyAccount site email currentPassword
  | .confirmDeletion token => do
      return .confirmed (← confirmDeletion site token)

end Service

def server (site : Site) : System Request Store Disturbance Reply Failure Response where
  handle := handle site
  outcomes := outcomes site
  disturb := disturb

abbrev Server := Config Request Store Reply Failure Response

/-! ## What a request does -/

def deletes : Call → Prop
  | .softDelete _ => True
  | _ => False

instance (call : Call) : Decidable (deletes call) := by
  cases call <;> unfold deletes <;> infer_instance

/-- The request asks for the link of this token: the account that it deletes has no password. -/
def Asks (request : Request) (trace : List Event) (token : DeletionToken) : Prop :=
  ∃ email password account ver, request = .deleteMyAccount email password ∧
    ⟨.getByEmail email, .ok (some account)⟩ ∈ trace ∧ account.role ≠ .system ∧
      account.hashedPassword = none ∧ token.email = account.email ∧
        token.accountVer = some ver ∧ ⟨.getAccountVersion account.email, .ok ver⟩ ∈ trace

/-- The request has redeemed the link of its token, and has read the token's version after that. -/
def Redeemed (site : Site) (request : Request) (trace : List Event) (email : String) : Prop :=
  ∃ token ver earlier account, request = .confirmDeletion token ∧ token.accountVer = some ver ∧
    ⟨.getAccountVersion token.email, .ok ver⟩ :: earlier <:+ trace ∧
      ⟨.takeLink (site.linkKey token), .ok true⟩ ∈ earlier ∧
        ⟨.getByEmail token.email, .ok (some account)⟩ ∈ trace ∧ account.email = email ∧
          site.keys.normalizeEmail token.email = email

/-- The request has checked the password of the account. -/
def Reauthenticated (request : Request) (trace : List Event) (email : String) : Prop :=
  ∃ own password account hashed, request = .deleteMyAccount own password ∧
    ⟨.getByEmail own, .ok (some account)⟩ ∈ trace ∧ account.email = email ∧
      account.role ≠ .system ∧ account.hashedPassword = some hashed ∧
        ⟨.verifyPassword password hashed, .ok true⟩ ∈ trace

def discipline (site : Site) (request : Request) : Discipline Reply where
  allows trace call := match call with
    | .setLink key _ => ∃ token, key = site.linkKey token ∧ Asks request trace token
    | .takeLink key => ∃ token, request = .confirmDeletion token ∧ key = site.linkKey token ∧
        ⟨.verifyAccountDeletionToken token, some token⟩ ∈ trace
    | .softDelete email => (∀ event ∈ trace, ¬ deletes event.1) ∧
        (Redeemed site request trace email ∨ Reauthenticated request trace email)
    | _ => True
  answers
    | .verifyAccountDeletionToken token, payload => ∀ payload', payload = some payload' →
        payload' = token
    | .getByEmail email, found => ∀ account, found = .ok (some account) →
        account.email = site.keys.normalizeEmail email
    | _, _ => True

/-- A request that reports a deletion has deleted an account. -/
def reports (_ : Request) (result : Except Failure Response) (trace : List Event) : Prop :=
  (result = .ok .accountDeleted ∨ result = .ok (.confirmed true)) →
    ∃ email, ⟨.softDelete email, .ok ()⟩ ∈ trace

theorem Asks.version {request : Request} {trace : List Event} {token : DeletionToken}
    (asks : Asks request trace token) : ∃ ver, token.accountVer = some ver ∧
      ⟨.getAccountVersion token.email, .ok ver⟩ ∈ trace := by
  obtain ⟨email, password, account, ver, -, -, -, -, same, isVersion, read⟩ := asks
  rw [← same] at read
  exact ⟨ver, isVersion, read⟩

theorem Asks.mono {request : Request} {trace later : List Event} {token : DeletionToken}
    (asks : Asks request trace token) (longer : trace ⊆ later) : Asks request later token := by
  obtain ⟨email, password, account, ver, isRequest, found, notSystem, noPassword, same, isVersion,
    read⟩ := asks
  exact ⟨email, password, account, ver, isRequest, longer found, notSystem, noPassword, same,
    isVersion, longer read⟩

section Programs

variable {site : Site} {request : Request} {trace : List Event}

theorem confirmRevocation_meets (email : String)
    {post : Except Failure Bool → List Event → Prop}
    (returns : ∀ result reply, post result (⟨.revokeAllTokensForUser email, reply⟩ :: trace)) :
    (confirmRevocation email).Meets (discipline site request) post trace := by
  rw [confirmRevocation, Program.meets_tryCatch, Program.meets_bind, execute,
    Program.meets_attempt]
  refine ⟨trivial, fun result _ => ?_⟩
  cases result with
  | ok _ => exact returns _ _
  | error failure => cases failure <;> exact returns _ _

/-- The account is marked first, and what comes after that is not undone. -/
theorem finalizeSelfDeletion_meets (user : Account)
    {post : Except Failure Unit → List Event → Prop}
    (undeleted : ∀ event ∈ trace, ¬ deletes event.1)
    (right : Redeemed site request trace user.email ∨ Reauthenticated request trace user.email)
    (returns : ∀ result later,
      (result = .ok () → ⟨.softDelete user.email, .ok ()⟩ ∈ later) → post result later) :
    (finalizeSelfDeletion user).Meets (discipline site request) post trace := by
  rw [finalizeSelfDeletion, Program.meets_bind, execute, Program.meets_attempt]
  refine ⟨⟨undeleted, right⟩, fun marked _ => ?_⟩
  cases marked with
  | error failure => exact returns _ _ (by simp)
  | ok _ =>
    simp only [id_eq]
    rw [Program.meets_bind]
    refine confirmRevocation_meets user.email fun result reply => ?_
    cases result with
    | error failure => exact returns _ _ (by simp)
    | ok confirmed =>
      refine ⟨trivial, fun _ _ => returns _ _ fun _ => ?_⟩
      exact List.mem_cons_of_mem _ (List.mem_cons_of_mem _ List.mem_cons_self)

/-- The link of an account without a password is stored with the version that was read. -/
theorem sendDeletionEmail_meets {email password : String} {user : Account}
    (isRequest : request = .deleteMyAccount email password)
    (found : ⟨.getByEmail email, .ok (some user)⟩ ∈ trace) (notSystem : user.role ≠ .system)
    (noPassword : user.hashedPassword = none) {post : Except Failure Bool → List Event → Prop}
    (returns : ∀ sent later, post (.ok sent) later) :
    (sendDeletionEmail site user).Meets (discipline site request) post trace := by
  rw [sendDeletionEmail, Program.meets_tryCatch, Program.meets_bind, createAccountDeletionToken,
    Program.meets_bind, perform, Program.meets_perform]
  refine ⟨trivial, fun now _ => ?_⟩
  simp only
  rw [Program.meets_bind, execute, Program.meets_attempt]
  refine ⟨trivial, fun version _ => ?_⟩
  cases version with
  | error failure => exact returns _ _
  | ok accountVer =>
    simp only [id_eq, Program.meets_pure]
    rw [Program.meets_bind, execute, Program.meets_attempt]
    refine ⟨⟨_, rfl, email, password, user, accountVer, isRequest, ?_, notSystem, noPassword, rfl,
      rfl, List.mem_cons_self⟩, fun stored _ => ?_⟩
    · exact List.mem_cons_of_mem _ (List.mem_cons_of_mem _ found)
    · cases stored with
      | error failure => exact returns _ _
      | ok _ =>
        simp only [id_eq]
        rw [Program.meets_bind, execute, Program.meets_attempt]
        refine ⟨trivial, fun deferred _ => ?_⟩
        cases deferred with
        | error failure => exact returns _ _
        | ok _ => exact returns _ _

theorem deleteMyAccount_meets (email password : String) :
    (deleteMyAccount site email password).Meets
      (discipline site (.deleteMyAccount email password))
      (reports (.deleteMyAccount email password)) [] := by
  rw [deleteMyAccount, Program.meets_bind, execute, Program.meets_attempt]
  refine ⟨trivial, fun found _ => ?_⟩
  cases found with
  | error failure => simp [reports]
  | ok row =>
    cases row with
    | none => simp [reports]
    | some user =>
      simp only [id_eq]
      split
      · simp [reports]
      · rename_i notSystem
        cases hashed : user.hashedPassword with
        | none =>
          rw [Program.meets_bind]
          refine sendDeletionEmail_meets rfl List.mem_cons_self notSystem hashed fun sent later => ?_
          simp [reports]
        | some hashedPassword =>
          simp only
          split
          · simp [reports]
          · rw [Program.meets_bind, execute, Program.meets_attempt]
            refine ⟨trivial, fun checked _ => ?_⟩
            cases checked with
            | error failure => simp [reports]
            | ok same =>
              cases same with
              | false => simp [reports]
              | true =>
                simp only [id_eq, if_true]
                rw [Program.meets_bind]
                refine finalizeSelfDeletion_meets user (by simp [deletes]) (.inr ?_) ?_
                · exact ⟨email, password, user, hashedPassword, rfl,
                    List.mem_cons_of_mem _ List.mem_cons_self, rfl, notSystem, hashed,
                    List.mem_cons_self⟩
                · intro result later deleted
                  cases result with
                  | error failure => simp [reports]
                  | ok _ => exact fun _ => ⟨_, deleted rfl⟩

theorem confirmDeletion_meets (token : DeletionToken) :
    (handle site (.confirmDeletion token)).Meets (discipline site (.confirmDeletion token))
      (reports (.confirmDeletion token)) [] := by
  rw [handle, Program.meets_bind, confirmDeletion, Program.meets_tryCatch, Program.meets_bind,
    perform, Program.meets_perform]
  refine ⟨trivial, fun verified answered => ?_⟩
  cases verified with
  | none => simp [reports]
  | some payload =>
    obtain rfl := answered payload rfl
    simp only
    rw [Program.meets_bind, execute, Program.meets_attempt]
    refine ⟨⟨payload, rfl, rfl, List.mem_cons_self⟩, fun taken _ => ?_⟩
    cases taken with
    | error failure => simp [reports]
    | ok redeemed =>
      cases redeemed with
      | false => simp [reports]
      | true =>
        simp only [id_eq, if_true]
        unfold deleteRedeemed
        cases isVersion : payload.accountVer with
        | none => simp [reports]
        | some tokenAccountVer =>
          simp only
          rw [Program.meets_bind, execute, Program.meets_attempt]
          refine ⟨trivial, fun version _ => ?_⟩
          cases version with
          | error failure => simp [reports]
          | ok accountVer =>
            simp only [id_eq]
            split
            · simp [reports]
            · rename_i same
              obtain rfl := not_not.mp same
              rw [Program.meets_bind, execute, Program.meets_attempt]
              refine ⟨trivial, fun found named => ?_⟩
              cases found with
              | error failure => simp [reports]
              | ok row =>
                cases row with
                | none => simp [reports]
                | some user =>
                  simp only [id_eq]
                  rw [Program.meets_bind]
                  refine finalizeSelfDeletion_meets user (by simp [deletes]) (.inl ?_) ?_
                  · exact ⟨payload, tokenAccountVer, _, user, rfl, isVersion,
                      List.suffix_cons _ _, List.mem_cons_self, List.mem_cons_self, rfl,
                      (named user rfl).symm⟩
                  · intro result later deleted
                    cases result with
                    | error failure => simp [reports]
                    | ok _ => exact fun _ => ⟨_, deleted rfl⟩

theorem answers_verified (thread : Nat) (call : Call) (store : Store)
    (outcome : Reply call × Store) (possible : outcome ∈ outcomes site thread call store) :
    (discipline site request).answers call outcome.1 := by
  cases call with
  | verifyAccountDeletionToken token =>
    obtain rfl := List.mem_singleton.mp possible
    intro payload isPayload
    simp only at isPayload
    split at isPayload
    · exact (Option.some.inj isPayload).symm
    · cases isPayload
  | getByEmail email =>
    intro account isAccount
    simp only [outcomes, List.mem_cons, List.not_mem_nil, or_false] at possible
    rcases possible with rfl | rfl
    · have named := List.find?_some (Except.ok.inj isAccount)
      exact beq_iff_eq.mp named
    · cases isAccount
  | _ => trivial

theorem server_obeys (site : Site) : (server site).Obeys (discipline site) reports where
  programs request := by
    cases request with
    | deleteMyAccount email password => exact deleteMyAccount_meets email password
    | confirmDeletion token => exact confirmDeletion_meets token
  answers request thread call store outcome possible := answers_verified thread call store outcome possible

end Programs

/-! ## What is in the store -/

def issues (key : String) (event : Event) : Bool :=
  match event.1 with
  | .setLink other _ => other == key
  | _ => false

def takes (key : String) (event : Event) : Bool :=
  match event with
  | ⟨.takeLink other, .ok taken⟩ => taken && other == key
  | _ => false

/-- The store after a call that takes effect. -/
def applied (site : Site) (store : Store) : Call → Store
  | .setLink key seconds => store.setLink key seconds
  | .takeLink key => if store.isLive key then store.dropLink key else store
  | .softDelete email => store.softDelete email
  | .revokeAllTokensForUser email => store.raiseVersion (site.keys.foldedEmail email)
  | _ => store

section Stores

variable {site : Site} {thread : Nat} {call : Call} {reply : Reply call} {store store' : Store}

theorem answered_state (possible : (reply, store') ∈ outcomes site thread call store) :
    store' = store ∨ store' = applied site store call := by
  cases call with
  | setLink key seconds => exact commanded_state possible
  | takeLink key =>
    simp only [outcomes] at possible
    simp only [applied]
    split at possible
    · rename_i isLive
      rw [if_pos isLive]
      exact commanded_state possible
    · exact (commanded_state possible).elim .inl .inl
  | softDelete email =>
    simp only [outcomes] at possible
    split at possible
    · exact commanded_state possible
    · exact .inl (Prod.mk.inj (List.mem_singleton.mp possible)).2
  | revokeAllTokensForUser email =>
    simp only [outcomes, List.mem_cons, Prod.mk.injEq, List.not_mem_nil, or_false] at possible
    simp only [applied]
    tauto
  | _ =>
    left
    simp only [outcomes, List.mem_cons, Prod.mk.injEq, List.not_mem_nil, or_false] at possible
    tauto

@[simp] theorem setLink_links (key other : String) (seconds : Nat) :
    (store.setLink other seconds).links key =
      if key = other then some ((), store.now + seconds * microsPerSecond)
      else store.links key := by
  by_cases same : key = other
  · simp [Store.setLink, same]
  · simp [Store.setLink, same]

@[simp] theorem dropLink_links (key other : String) :
    (store.dropLink other).links key = if key = other then none else store.links key := by
  by_cases same : key = other
  · simp [Store.dropLink, same]
  · simp [Store.dropLink, same]

theorem stored_of_isLive {key : String} (isLive : store.isLive key = true) :
    (store.links key).isSome = true := by
  cases entry : store.links key with
  | none => simp [Store.isLive, live, entry] at isLive
  | some _ => rfl

/-- What is redeemed was live, and is not there any more. -/
theorem taken_of_answer {key : String}
    (possible : ((.ok true : Reply (.takeLink key)), store') ∈
      outcomes site thread (.takeLink key) store) :
    store.isLive key = true ∧ store'.links key = none := by
  simp only [outcomes] at possible
  split at possible
  · rename_i isLive
    obtain ⟨-, rfl⟩ := commanded_ok possible
    exact ⟨isLive, by simp⟩
  · cases (commanded_ok possible).1

theorem version_of_answer (thread : Nat) {email : String} {accountVer : Nat}
    (possible : ((.ok accountVer : Reply (.getAccountVersion email)), store') ∈
      outcomes site thread (.getAccountVersion email) store) :
    store.versions (site.keys.foldedEmail email) = accountVer := by
  simp only [outcomes, List.mem_cons, Prod.mk.injEq, Except.ok.injEq, reduceCtorEq, false_and,
    List.not_mem_nil, or_false] at possible
  exact possible.1.symm

/-- A key that is there after an answer was there before, or was set. -/
theorem link_of_answer (possible : (reply, store') ∈ outcomes site thread call store) {key : String}
    (stored : (store'.links key).isSome = true) :
    (store.links key).isSome = true ∨ ∃ seconds, call = .setLink key seconds := by
  rcases answered_state possible with rfl | rfl
  · exact .inl stored
  · cases call with
    | setLink other seconds =>
      by_cases same : key = other
      · exact .inr ⟨seconds, by rw [same]⟩
      · left
        simpa [applied, same] using stored
    | takeLink other =>
      left
      simp only [applied] at stored
      split at stored
      · by_cases same : key = other
        · simp [same] at stored
        · simpa [same] using stored
      · exact stored
    | _ => exact .inl stored

/-- Versions are only raised. -/
theorem versions_of_answer (thread : Nat)
    (possible : (reply, store') ∈ outcomes site thread call store) (folded : String) :
    store.versions folded ≤ store'.versions folded := by
  rcases answered_state possible with rfl | rfl
  · exact Nat.le_refl _
  · cases call with
    | revokeAllTokensForUser email =>
      by_cases same : folded = site.keys.foldedEmail email
      · simp [applied, Store.raiseVersion, same]
      · simp [applied, Store.raiseVersion, Function.update_of_ne same]
    | takeLink key =>
      simp only [applied]
      split <;> exact Nat.le_refl _
    | _ => exact Nat.le_refl _

theorem takes_iff {key : String} {event : Event} :
    takes key event = true ↔ event = ⟨.takeLink key, .ok true⟩ := by
  obtain ⟨call, reply⟩ := event
  constructor
  · intro taken
    cases call with
    | takeLink other =>
      cases reply with
      | error failure => cases taken
      | ok redeemed =>
        simp only [takes, Bool.and_eq_true, beq_iff_eq] at taken
        rw [taken.1, taken.2]
    | _ => cases taken
  · intro same
    rw [same]
    simp [takes]

theorem issues_iff {key : String} {event : Event} :
    issues key event = true ↔ ∃ seconds reply, event = ⟨.setLink key seconds, reply⟩ := by
  obtain ⟨call, reply⟩ := event
  constructor
  · intro issued
    cases call with
    | setLink other seconds =>
      obtain rfl := beq_iff_eq.mp issued
      exact ⟨seconds, reply, rfl⟩
    | _ => cases issued
  · rintro ⟨seconds, reply', same⟩
    rw [same]
    exact beq_self_eq_true key

theorem links_ticketed (site : Site) (key : String) :
    Ticketed (server site) (fun store => (store.links key).isSome) (issues key) (takes key) where
  disturbed event store held := by
    cases event with
    | loseLink other =>
      by_cases same : key = other
      · simp [server, disturb, same] at held
      · simpa [server, disturb, same] using held
    | _ => exact held
  answered thread call store outcome possible := by
    obtain ⟨reply, store'⟩ := outcome
    have possible : (reply, store') ∈ outcomes site thread call store := possible
    cases taken : takes key ⟨call, reply⟩ with
    | true =>
      cases takes_iff.mp taken
      obtain ⟨isLive, gone⟩ := taken_of_answer possible
      simp [gone, stored_of_isLive isLive]
    | false =>
      cases stored : (store'.links key).isSome with
      | false => exact Nat.zero_le _
      | true =>
        rcases link_of_answer possible stored with earlier | ⟨seconds, rfl⟩
        · simp [earlier]
        · simp [issues]

end Stores

/-! ## Runs -/

def requestOf (config : Server) (thread : Nat) : Option Request :=
  (config.threads[thread]?).map Thread.request

/-- The thread serves a confirmation with the link of this key. -/
def redeems (site : Site) (config : Server) (key : String) (thread : Nat) : Bool :=
  match requestOf config thread with
  | some (.confirmDeletion token) => site.linkKey token == key
  | _ => false

def deletionsWith (site : Site) (config : Server) (key : String) : Nat :=
  config.history.countP fun entry => decide (deletes entry.2.1) && redeems site config key entry.1

def storesOf (config : Server) (key : String) : Nat :=
  config.history.countP fun entry => issues key entry.2

section Runs

variable {site : Site} {start : Store} {config : Server}

theorem versions_along {permits : Server → Nat → Event → Prop} {before after : Server}
    (run : Reaches (server site) permits before after) (folded : String) :
    before.state.versions folded ≤ after.state.versions folded := by
  induction run with
  | refl => exact Nat.le_refl _
  | tail _ step ih =>
    refine Nat.le_trans ih ?_
    rcases step.cases_answers with ⟨-, same | ⟨event, changed⟩⟩ | ⟨thread, event, answers⟩
    · rw [same]
    · rw [changed]
      cases event with
      | revokeSessions other =>
        by_cases same : folded = other
        · simp [server, disturb, Store.raiseVersion, same]
        · simp [server, disturb, Store.raiseVersion, Function.update_of_ne same]
      | _ => exact Nat.le_refl _
    · exact versions_of_answer thread answers.possible folded

theorem deletes_allowed {request : Request} {trace : List Event} {call : Call}
    (isDeletion : deletes call) (allowed : (discipline site request).allows trace call) :
    (∀ event ∈ trace, ¬ deletes event.1) ∧
      ∃ email, Redeemed site request trace email ∨ Reauthenticated request trace email := by
  cases call with
  | softDelete email => exact ⟨allowed.1, email, allowed.2⟩
  | _ => cases isDeletion

/-- A thread deletes at most once, and has its reason before that. -/
theorem trace_deletes (run : Reaches (server site) anyCall (Config.start start) config)
    {thread : Nat} {running : Thread Request Reply Failure Response}
    (present : config.threads[thread]? = some running) :
    (config.trace thread).countP (fun event => decide (deletes event.1)) ≤ 1 ∧
      ∀ token, running.request = .confirmDeletion token →
        (config.trace thread).countP (fun event => decide (deletes event.1)) ≤
          (config.trace thread).countP (takes (site.linkKey token)) := by
  refine run.traces (server_obeys site) (fun request trace =>
    trace.countP (fun event => decide (deletes event.1)) ≤ 1 ∧
      ∀ token, request = .confirmDeletion token →
        trace.countP (fun event => decide (deletes event.1)) ≤
          trace.countP (takes (site.linkKey token))) (by simp) ?_ present
  intro request trace event allowed counted
  by_cases isDeletion : deletes event.1
  · obtain ⟨undeleted, right⟩ := deletes_allowed isDeletion allowed
    have none : trace.countP (fun event => decide (deletes event.1)) = 0 :=
      List.countP_eq_zero.mpr (by simpa using undeleted)
    rw [List.countP_cons_of_pos (by simpa using isDeletion), none]
    refine ⟨Nat.le_refl _, ?_⟩
    rintro token rfl
    rw [List.countP_cons]
    refine Nat.le_trans ?_ (Nat.le_add_right _ _)
    obtain ⟨email, ⟨token', ver, earlier, account, same, -, after, taken, -⟩ | reauthenticated⟩ :=
      right
    · cases same
      exact List.countP_pos_iff.mpr
        ⟨_, after.subset (List.mem_cons_of_mem _ taken), takes_iff.mpr rfl⟩
    · obtain ⟨own, password, account, hashed, impossible, -⟩ := reauthenticated
      cases impossible
  · rw [List.countP_cons_of_neg (by simpa using isDeletion)]
    refine ⟨counted.1, ?_⟩
    intro token isRequest
    rw [List.countP_cons]
    exact Nat.le_trans (counted.2 token isRequest) (Nat.le_add_right _ _)

theorem redeems_iff {key : String} {thread : Nat} : redeems site config key thread = true ↔
    ∃ token, requestOf config thread = some (.confirmDeletion token) ∧ site.linkKey token = key := by
  unfold redeems
  cases served : requestOf config thread with
  | none => simp
  | some request => cases request <;> simp

theorem takes_of_redeems (run : Reaches (server site) anyCall (Config.start start) config)
    (key : String) : deletionsWith site config key ≤
      config.history.countP fun entry => takes key entry.2 := by
  apply countP_le_of_traces
    (p := fun thread event => decide (deletes event.1) && redeems site config key thread)
    (q := fun _ event => takes key event)
  intro thread
  cases served : redeems site config key thread with
  | false => simp
  | true =>
    simp only [Bool.and_true]
    obtain ⟨token, isRequest, same⟩ := redeems_iff.mp served
    obtain ⟨running, present, ownRequest⟩ := Option.map_eq_some_iff.mp isRequest
    rw [← same]
    exact (trace_deletes run present).2 token ownRequest

/-- No link is redeemed more often than it was stored. -/
theorem deletions_le (run : Reaches (server site) anyCall (Config.start start) config)
    (unlinked : ∀ key, start.links key = none) (key : String) :
    deletionsWith site config key ≤ storesOf config key := by
  have bounded := (links_ticketed site key).takes_le run
  rw [unlinked key] at bounded
  have covered := takes_of_redeems run key
  simp only [Option.isSome_none, Bool.toNat_false] at bounded
  unfold storesOf
  omega

/-- The link was stored by a request for an account without a password, and from when that request
had read the version of the account until after the redemption of the live link the version stayed
the token's. -/
def LinkStood (site : Site) (start : Store) (config : Server) (token : DeletionToken) : Prop :=
  ∃ minted redeemed checked : Server, ∃ asker asked seconds reply,
    Reaches (server site) anyCall (Config.start start) minted ∧
    Reaches (server site) anyCall minted redeemed ∧
    Reaches (server site) anyCall redeemed checked ∧
    Reaches (server site) anyCall checked config ∧
    (asker, ⟨.setLink (site.linkKey token) seconds, reply⟩) ∈ redeemed.history ∧
    requestOf redeemed asker = some asked ∧ Asks asked (redeemed.trace asker) token ∧
    redeemed.state.isLive (site.linkKey token) = true ∧
    ∀ between, Reaches (server site) anyCall minted between →
      Reaches (server site) anyCall between checked →
        token.accountVer = some (between.state.versions (site.keys.foldedEmail token.email))

theorem requestOf_of_answers {before after : Server} {thread : Nat} {event : Event}
    {request : Request} {next : Reply event.1 → Program Reply Failure Response}
    (running : before.threads[thread]? = some ⟨request, .call event.1 next⟩)
    (rest : Reaches (server site) anyCall before after) :
    requestOf after thread = some request := by
  obtain ⟨last, present, same, -⟩ := rest.thread_persists running
  rw [requestOf, present, Option.map_some, same]

/-- What a request had called when it deleted the account. -/
theorem deletion_at (run : Reaches (server site) anyCall (Config.start start) config)
    {thread : Nat} {email : String} {reply : Reply (.softDelete email)}
    (deleted : (thread, ⟨.softDelete email, reply⟩) ∈ config.history) :
    ∃ before request, Reaches (server site) anyCall (Config.start start) before ∧
      Reaches (server site) anyCall before config ∧ requestOf config thread = some request ∧
        (Redeemed site request (before.trace thread) email ∨
          Reauthenticated request (before.trace thread) email) := by
  obtain ⟨before, after, first, answers, rest⟩ :=
    run.answered_member ((Config.mem_trace _ _).mpr deleted)
  obtain ⟨request, next, running⟩ := answers.running
  have toEnd := Relation.ReflTransGen.head answers.step rest
  have allowed := (first.disciplined (server_obeys site) start).allows running
  exact ⟨before, request, first, toEnd, requestOf_of_answers running toEnd, allowed.2⟩

theorem linkStood_of_redeemed (separate : Function.Injective site.digest)
    (unlinked : ∀ key, start.links key = none)
    (run : Reaches (server site) anyCall (Config.start start) config) {thread : Nat}
    {token : DeletionToken} {ver : Nat} {earlier : List Event}
    (isVersion : token.accountVer = some ver)
    (checked : ⟨.getAccountVersion token.email, .ok ver⟩ :: earlier <:+ config.trace thread)
    (taken : ⟨.takeLink (site.linkKey token), .ok true⟩ ∈ earlier) :
    LinkStood site start config token := by
  obtain ⟨atCheck, afterCheck, toCheck, checkAnswers, sameTrace, fromCheck⟩ := run.answered checked
  rw [← sameTrace] at taken
  obtain ⟨atTake, afterTake, toTake, takeAnswers, fromTake⟩ := toCheck.answered_member taken
  have possible : ((.ok true : Reply (.takeLink (site.linkKey token))), afterTake.state) ∈
      outcomes site thread (.takeLink (site.linkKey token)) atTake.state := takeAnswers.possible
  have isLive := (taken_of_answer possible).1
  obtain ⟨⟨asker, event⟩, stored, isIssue⟩ := (links_ticketed site (site.linkKey token)).issued
    toTake (by rw [unlinked]; rfl) (stored_of_isLive isLive)
  obtain ⟨seconds, reply, rfl⟩ := issues_iff.mp isIssue
  obtain ⟨atStore, afterStore, toStore, storeAnswers, fromStore⟩ :=
    toTake.answered_member ((Config.mem_trace _ _).mpr stored)
  have storeToTake := Relation.ReflTransGen.head storeAnswers.step fromStore
  obtain ⟨asked, next, running⟩ := storeAnswers.running
  obtain ⟨token', sameKey, asks⟩ := (toStore.disciplined (server_obeys site) start).allows running
  obtain rfl := separate ((String.append_right_inj _).mp sameKey)
  obtain ⟨ver', isVersion', read⟩ := asks.version
  obtain ⟨atMint, afterMint, toMint, mintAnswers, fromMint⟩ := toStore.answered_member read
  have minted : atMint.state.versions (site.keys.foldedEmail token.email) = ver' :=
    version_of_answer asker mintAnswers.possible
  have current : atCheck.state.versions (site.keys.foldedEmail token.email) = ver :=
    version_of_answer thread checkAnswers.possible
  obtain rfl := Option.some.inj (isVersion'.symm.trans isVersion)
  refine ⟨atMint, atTake, atCheck, asker, asked, seconds, reply, toMint,
    (Relation.ReflTransGen.head mintAnswers.step fromMint).trans storeToTake,
    .head takeAnswers.step fromTake, .head checkAnswers.step fromCheck, stored,
    requestOf_of_answers running storeToTake, asks.mono (Reaches.trace_suffix storeToTake asker).subset,
    isLive, ?_⟩
  intro between fromMinted toChecked
  have above := versions_along fromMinted (site.keys.foldedEmail token.email)
  have below := versions_along toChecked (site.keys.foldedEmail token.email)
  rw [isVersion]
  congr 1
  omega

/-- The account was deleted by a request that had checked its password, or by a confirmation whose
link stood. -/
def Authorised (site : Site) (start : Store) (config : Server) (thread : Nat) (email : String) :
    Prop :=
  ∃ request, requestOf config thread = some request ∧
    (Reauthenticated request (config.trace thread) email ∨
      ∃ token, request = .confirmDeletion token ∧ site.keys.normalizeEmail token.email = email ∧
        LinkStood site start config token)

theorem Reauthenticated.mono {request : Request} {trace later : List Event} {email : String}
    (reauthenticated : Reauthenticated request trace email) (longer : trace ⊆ later) :
    Reauthenticated request later email := by
  obtain ⟨own, password, account, hashed, isRequest, found, same, notSystem, isHash, checked⟩ :=
    reauthenticated
  exact ⟨own, password, account, hashed, isRequest, longer found, same, notSystem, isHash,
    longer checked⟩

theorem LinkStood.later {config' : Server} {token : DeletionToken}
    (stood : LinkStood site start config token)
    (rest : Reaches (server site) anyCall config config') : LinkStood site start config' token := by
  obtain ⟨minted, redeemed, checked, asker, asked, seconds, reply, toMint, toTake, toCheck, toEnd,
    facts⟩ := stood
  exact ⟨minted, redeemed, checked, asker, asked, seconds, reply, toMint, toTake, toCheck,
    toEnd.trans rest, facts⟩

theorem authorised_of_deletion (separate : Function.Injective site.digest)
    (unlinked : ∀ key, start.links key = none)
    (run : Reaches (server site) anyCall (Config.start start) config) {thread : Nat} {email : String}
    {reply : Reply (.softDelete email)}
    (deleted : (thread, ⟨.softDelete email, reply⟩) ∈ config.history) :
    Authorised site start config thread email := by
  obtain ⟨before, request, first, toEnd, isRequest, redeemed | reauthenticated⟩ :=
    deletion_at run deleted
  · obtain ⟨token, ver, earlier, account, rfl, isVersion, checked, taken, -, -, named⟩ := redeemed
    have stood := linkStood_of_redeemed separate unlinked first isVersion checked taken
    exact ⟨_, isRequest, .inr ⟨token, rfl, named, stood.later toEnd⟩⟩
  · exact ⟨request, isRequest, .inl (reauthenticated.mono (toEnd.trace_suffix thread).subset)⟩

/-- In every run an account is deleted only by who gave its password or redeemed a link of its
current version, with a link at most as often as it was stored, and a deletion that is reported has
happened. -/
theorem deletions_authorised (site : Site) (separate : Function.Injective site.digest)
    (start : Store) (unlinked : ∀ key, start.links key = none)
    (run : Reaches (server site) anyCall (Config.start start) config) :
    (∀ thread email reply, (thread, ⟨.softDelete email, reply⟩) ∈ config.history →
      Authorised site start config thread email) ∧
    (∀ key, deletionsWith site config key ≤ storesOf config key) ∧
    ∀ thread running, config.threads[thread]? = some running →
      (running.result = some (.ok .accountDeleted) ∨
        running.result = some (.ok (.confirmed true))) →
      ∃ email, (thread, ⟨.softDelete email, .ok ()⟩) ∈ config.history := by
  refine ⟨?_, deletions_le run unlinked, ?_⟩
  · intro thread email reply deleted
    exact authorised_of_deletion separate unlinked run deleted
  · intro thread running present reported
    have disciplined := run.disciplined (server_obeys site) start
    have happened : ∃ email, ⟨.softDelete email, .ok ()⟩ ∈ config.trace thread := by
      rcases reported with isResult | isResult
      · exact disciplined.returned present isResult (.inl rfl)
      · exact disciplined.returned present isResult (.inr rfl)
    obtain ⟨email, deleted⟩ := happened
    exact ⟨email, (Config.mem_trace _ _).mp deleted⟩

end Runs

/-! ## One deletion -/

/-- A code of texts, in which a full stop that is not escaped ends a text. -/
def escaped (text : List Char) : List Char :=
  text.flatMap (fun c => ['e', c]) ++ ['.']

theorem escaped_inj {text text' rest rest' : List Char}
    (same : escaped text ++ rest = escaped text' ++ rest') : text = text' ∧ rest = rest' := by
  induction text generalizing text' with
  | nil => cases text' <;> simp_all [escaped]
  | cons c text ih =>
    cases text' with
    | nil => simp [escaped] at same
    | cons c' text' =>
      simp only [escaped, List.flatMap_cons, List.cons_append, List.nil_append,
        List.cons.injEq, true_and] at same
      obtain ⟨rfl, rfl⟩ := ih same.2
      exact ⟨by rw [same.1], rfl⟩

def numberText : Option Nat → List Char
  | none => []
  | some value => 'n' :: Nat.toDigits 10 value

theorem numberText_injective : Function.Injective numberText := by
  have decimal : Function.Injective (Nat.toDigits 10) :=
    Function.LeftInverse.injective fun _ => Nat.ofDigitChars_ten_toDigits
  intro value value' same
  cases value <;> cases value' <;> simp_all [numberText, decimal.eq_iff]

/-- Stands in for the digest. -/
def claimsText (token : DeletionToken) : String :=
  String.ofList (escaped token.email.toList ++ (escaped token.type.toList ++
    (escaped (numberText token.accountVer) ++ (escaped (numberText token.exp) ++ []))))

theorem claimsText_injective : Function.Injective claimsText := by
  intro token token' same
  obtain ⟨sameEmail, rest⟩ := escaped_inj (String.ofList_injective same)
  obtain ⟨sameType, rest⟩ := escaped_inj rest
  obtain ⟨sameVersion, rest⟩ := escaped_inj rest
  obtain ⟨sameExpiry, -⟩ := escaped_inj rest
  cases token
  cases token'
  simp only [DeletionToken.mk.injEq]
  exact ⟨String.toList_inj.mp sameEmail, String.toList_inj.mp sameType,
    numberText_injective sameVersion, numberText_injective sameExpiry⟩

def plainSite : Site where
  keys := ⟨id, id, id, id⟩
  digest := claimsText
  genuine _ := true
  verifyHash password hashed := password == hashed
  accountDeleteTokenExpireMinutes := 30

/-- Ann signs in with a provider only. -/
def annsStore : Store where
  now := 0
  links _ := none
  versions _ := 1
  accounts := [⟨"ann@example.com", .user, none, true⟩]

def annsToken : DeletionToken :=
  ⟨"ann@example.com", "account_delete", some 1, some (1800 * microsPerSecond)⟩

/-- Ann asks for a link and redeems it. -/
def deletion : List (Move Request Disturbance) :=
  .begin (.deleteMyAccount "ann@example.com" "") :: Move.turns 0 5 ++
    .begin (.confirmDeletion annsToken) :: Move.turns 1 7

theorem deletions_authorised_ann :
    ∃ config, config = (Config.start annsStore).follow (server plainSite) deletion ∧
      deletionsWith plainSite config (plainSite.linkKey annsToken) = 1 ∧
        Authorised plainSite annsStore config 1 "ann@example.com" := by
  obtain ⟨authorised, -, -⟩ := deletions_authorised plainSite claimsText_injective annsStore
    (fun _ => rfl) (Config.follow_reaches (server plainSite) _ deletion)
  refine ⟨_, rfl, by decide +kernel, authorised 1 "ann@example.com" (.ok ()) ?_⟩
  exact List.mem_of_getElem? (i := 2) rfl

end MysticAuth.AccountDeletion
