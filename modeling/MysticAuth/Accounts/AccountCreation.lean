import MysticAuth.Authorization.Routes
import MysticAuth.Interleaving.Histories
import MysticAuth.Interleaving.Writes

/-!
# How accounts come into being

A signup and a first OAuth2 login both commit a new account and then, in a
transaction of its own, its baseline policy.  Every call may fail, and a write
may raise although it was committed.
-/

set_option autoImplicit false

namespace MysticAuth.AccountCreation

open Interleaving

/-! ## Accounts and their policies -/

structure Account where
  id : Nat
  name : String
  email : String
  role : Option UserRole
  hashedPassword : Option String
  isVerified : Bool
  isActive : Bool
  isDeleted : Bool
  deriving DecidableEq

structure PolicyRow where
  id : Nat
  name : String
  deriving DecidableEq

structure Store where
  accounts : List Account
  policies : List PolicyRow
  /-- user id and policy id -/
  userPolicies : List (Nat × Nat)
  nextAccountId : Nat
  nextPolicyId : Nat
  deriving DecidableEq

/-- The settings and functions that a deployment fixes. -/
structure Site where
  normalizeEmail : String → String
  hashPassword : String → String
  verifyPassword : String → String → Bool
  dummyHash : String
  /-- `DEFAULT_APP_POLICIES` -/
  defaultAppPolicyNames : List String

/-- The `user_data` of a new account. -/
structure AccountData where
  name : String
  email : String
  role : Option UserRole
  hashedPassword : Option String
  isVerified : Bool
  isActive : Bool
  deriving DecidableEq

inductive Updates where
  | verified
  /-- the owner's first OAuth2 login to an account that nobody has verified -/
  | takeover (name : String)
  deriving DecidableEq

def Updates.apply (account : Account) : Updates → Account
  | .verified => { account with isVerified := true }
  | .takeover name => { account with isVerified := true, hashedPassword := none, name }

namespace Store

def getByEmail (store : Store) (email : String) : Option Account :=
  store.accounts.find? (·.email == email)

def newAccount (store : Store) (email : String) (data : AccountData) : Account :=
  ⟨store.nextAccountId, data.name, email, data.role, data.hashedPassword, data.isVerified,
    data.isActive, false⟩

def addAccount (store : Store) (account : Account) : Store :=
  { store with
    accounts := store.accounts ++ [account]
    nextAccountId := store.nextAccountId + 1 }

/-- The assignments go with the account. -/
def deleteAccount (store : Store) (accountId : Nat) : Store :=
  { store with
    accounts := store.accounts.filter (·.id != accountId)
    userPolicies := store.userPolicies.filter (·.1 != accountId) }

def assignPolicy (store : Store) (accountId policyId : Nat) : Store :=
  if store.userPolicies.contains (accountId, policyId) then store
  else { store with userPolicies := store.userPolicies ++ [(accountId, policyId)] }

def updateAccounts (store : Store) (change : Account → Account) : Store :=
  { store with
    accounts := store.accounts.map fun account => { change account with id := account.id } }

/-- Both rows that an assignment refers to are there. -/
def canAssign (store : Store) (accountId policyId : Nat) : Bool :=
  store.accounts.any (·.id == accountId) && store.policies.any (·.id == policyId)

end Store

/-! ## Calls -/

inductive Failure where
  /-- an `AppError`, such as the overload of the hashing pool -/
  | app
  /-- `OAuth2LoginRejected` -/
  | rejected (code : String)
  | other
  deriving DecidableEq

inductive Call where
  | getByEmail (email : String)
  | hashPassword (password : String)
  | verifyPassword (password hash : String)
  | getPolicyByName (name : String)
  | createUser (data : AccountData)
  | rollback
  | assignPolicyToUser (accountId policyId : Nat)
  | deleteUser (account : Account)
  | updateByEmail (email : String) (updates : Updates)
  | updateLastLogin (account : Account)
  | createTokens (email : String)
  deriving DecidableEq

@[reducible] def Reply : Call → Type
  | .getByEmail _ => Except Failure (Option Account)
  | .hashPassword _ => Except Failure String
  | .verifyPassword _ _ => Except Failure Bool
  | .getPolicyByName _ => Except Failure (Option PolicyRow)
  | .createUser _ => Write Account
  | .rollback => Except Failure Unit
  | .assignPolicyToUser _ _ => Write Unit
  | .deleteUser _ => Write Unit
  | .updateByEmail _ _ => Write (Option Account)
  | .updateLastLogin _ => Except Failure Unit
  | .createTokens _ => Except Failure Unit

/-- An answered call. -/
abbrev Event := Interleaving.Event Reply

/-- A read, or a computation that the pool may refuse. -/
def answered {α : Type} (store : Store) (value : α) : List (Except Failure α × Store) :=
  [(.ok value, store), (.error .other, store), (.error .app, store)]

def outcomes (site : Site) (_ : Nat) (call : Call) (store : Store) :
    List (Reply call × Store) :=
  match call with
  | .getByEmail email => answered store (store.getByEmail (site.normalizeEmail email))
  | .hashPassword password => answered store (site.hashPassword password)
  | .verifyPassword password hash => answered store (site.verifyPassword password hash)
  | .getPolicyByName name => answered store (store.policies.find? (·.name == name))
  | .createUser data =>
      let email := site.normalizeEmail data.email
      if (store.getByEmail email).isSome then [(.integrityError, store), (.failed, store)]
      else
        let account := store.newAccount email data
        written store (store.addAccount account) account
  | .rollback => answered store ()
  | .assignPolicyToUser accountId policyId =>
      if store.canAssign accountId policyId then
        written store (store.assignPolicy accountId policyId) ()
      else [(.failed, store)]
  | .deleteUser account => written store (store.deleteAccount account.id) ()
  | .updateByEmail email updates =>
      match store.getByEmail (site.normalizeEmail email) with
      | none => [(.done none, store), (.failed, store)]
      | some account =>
          let updated := updates.apply account
          written store
            (store.updateAccounts fun other => if other.id = account.id then updated else other)
            (some updated)
  | .updateLastLogin _ => answered store ()
  | .createTokens _ => answered store ()

/-! ## The services -/

abbrev Service (α : Type) := Program Reply Failure α

def execute {α : Type} (call : Call) (result : Reply call → Except Failure α) : Service α :=
  .attempt call result

def perform (call : Call) : Service (Reply call) :=
  .perform call

inductive Response where
  | created (success : Bool)
  | verified (success : Bool)
  | tokens
  | none
  deriving DecidableEq

section Services

variable (site : Site)

/-- After the row is committed: a failed assignment takes the account back. -/
def assignOrDelete (account : Account) (policy : PolicyRow) : Service Response := do
  match ← perform (.assignPolicyToUser account.id policy.id) with
  | .done () => return .created true
  | _ =>
    -- a failure of the clean-up is logged
    let _ ← perform (.deleteUser account)
    return .created false

def createWithPassword (name email hashedPassword : String) (policy : PolicyRow) :
    Service Response := do
  match ← perform (.createUser
    ⟨name, email, some .user, some hashedPassword, false, true⟩) with
  | .done account => assignOrDelete account policy
  | .integrityError =>
    -- another signup for the address has won
    execute .rollback id
    return .created false
  | _ => throw .other

def signup (name email password : String) : Service Response :=
  tryCatch (do
    let existing ← execute (.getByEmail email) id
    let hashedPassword ← execute (.hashPassword password) id
    if existing.isSome then return .created false
    match ← execute (.getPolicyByName selfServicePolicyName) id with
    | none => return .created false
    | some policy => createWithPassword name email hashedPassword policy) fun
      | .app => throw .app
      | _ => return .created false

/-- `assign_app_default_policies`: a name without a policy is logged and skipped. -/
def assignAppDefaultPolicies (accountId : Nat) : List String → Service Unit
  | [] => return ()
  | name :: names => do
    match ← execute (.getPolicyByName name) id with
    | none => assignAppDefaultPolicies accountId names
    | some policy => do
      execute (.assignPolicyToUser accountId policy.id) (Write.result .other)
      assignAppDefaultPolicies accountId names

/-- The first OAuth2 login of an address; a missing baseline policy is logged. -/
def createFromGoogle (name email : String) : Service Account := do
  let account ← execute (.createUser ⟨name, email, some .user, none, true, true⟩) (Write.result .other)
  match ← execute (.getPolicyByName selfServicePolicyName) id with
  | none => assignAppDefaultPolicies account.id site.defaultAppPolicyNames
  | some policy => do
    execute (.assignPolicyToUser account.id policy.id) (Write.result .other)
    assignAppDefaultPolicies account.id site.defaultAppPolicyNames
  return account

/-- Google has confirmed the address of an unverified account. -/
def takeOver (name email : String) (account : Account) : Service Account := do
  let updated ← execute (.updateByEmail email (.takeover name)) (Write.result .other)
  let account := updated.getD account
  assignAppDefaultPolicies account.id site.defaultAppPolicyNames
  return account

def findOrCreate (name email : String) : Option Account → Service Account
  | none => createFromGoogle site name email
  | some account => if account.isVerified then return account else takeOver site name email account

/-- Google's profile; a missing or empty address is `none`. -/
structure UserInfo where
  email : Option String
  name : Option String
  deriving DecidableEq

def signIn (email : String) (account : Account) : Service Response := do
  if !account.isActive then
    throw (.rejected (if account.isDeleted then "ACCOUNT_DELETED" else "ACCOUNT_DEACTIVATED"))
  execute (.updateLastLogin account) id
  execute (.createTokens email) id
  return .tokens

def loginOrCreateUser (userInfo : UserInfo) : Service Response :=
  tryCatch (do
    match userInfo.email with
    | none => return .none
    | some rawEmail => do
      let email := site.normalizeEmail rawEmail
      let found ← execute (.getByEmail email) id
      if found.any (·.role == some .system) then throw (.rejected "OAUTH_LOGIN_FAILED")
      let account ← findOrCreate site (userInfo.name.getD "Unknown") email found
      signIn email account) fun
      | .rejected code => throw (.rejected code)
      | _ => return .none

/-- The password is compared before anything else is looked at. -/
def login (email password : String) : Service Response :=
  tryCatch (do
    if email.isEmpty || password.isEmpty then return .none
    let found ← execute (.getByEmail email) id
    let hash := (found.bind (·.hashedPassword)).getD site.dummyHash
    let passwordMatches ← execute (.verifyPassword password hash) id
    match found with
    | none => return .none
    | some account =>
      if !account.isVerified || !account.isActive || !passwordMatches then return .none
      else do
        execute (.updateLastLogin account) id
        execute (.createTokens email) id
        return .tokens) fun
      | .app => throw .app
      | _ => return .none

def markUserVerified (email : String) : Service Response :=
  tryCatch (do
    match ← execute (.getByEmail email) id with
    | none => return .verified false
    | some account =>
      if account.isVerified then return .verified false
      else do
        let _ ← execute (.updateByEmail email .verified) (Write.result .other)
        assignAppDefaultPolicies account.id site.defaultAppPolicyNames
        return .verified true) fun _ => return .verified false

inductive Request where
  | signup (name email password : String)
  | loginOrCreateUser (userInfo : UserInfo)
  | login (email password : String)
  | markUserVerified (email : String)
  deriving DecidableEq

def handle : Request → Service Response
  | .signup name email password => signup name email password
  | .loginOrCreateUser userInfo => loginOrCreateUser site userInfo
  | .login email password => login site email password
  | .markUserVerified email => markUserVerified site email

end Services

/-- What administrators and the purge job do meanwhile.  That an administrator takes the baseline
policy itself away from somebody is left out. -/
inductive Administration where
  | addPolicy (name : String)
  | deletePolicy (policyId : Nat)
  | assignPolicy (accountId policyId : Nat)
  | removePolicy (accountId policyId : Nat)
  | setStatus (accountId : Nat) (isActive isDeleted : Bool)
  | purge (accountId : Nat)
  deriving DecidableEq

namespace Store

def isProtected (store : Store) (policyId : Nat) : Bool :=
  store.policies.any fun policy => policy.id == policyId && protectedPolicyNames.contains policy.name

def addPolicy (store : Store) (name : String) : Store :=
  if store.policies.any (·.name == name) then store
  else
    { store with
      policies := store.policies ++ [⟨store.nextPolicyId, name⟩]
      nextPolicyId := store.nextPolicyId + 1 }

/-- The baseline policies cannot be deleted; the others go with their assignments. -/
def deletePolicy (store : Store) (policyId : Nat) : Store :=
  if store.isProtected policyId then store
  else
    { store with
      policies := store.policies.filter (·.id != policyId)
      userPolicies := store.userPolicies.filter (·.2 != policyId) }

def removePolicy (store : Store) (accountId policyId : Nat) : Store :=
  if store.policies.any fun policy => policy.id == policyId && policy.name == selfServicePolicyName
  then store
  else { store with userPolicies := store.userPolicies.filter (· != (accountId, policyId)) }

end Store

def administer (event : Administration) (store : Store) : Store :=
  match event with
  | .addPolicy name => store.addPolicy name
  | .deletePolicy policyId => store.deletePolicy policyId
  | .assignPolicy accountId policyId =>
      if store.canAssign accountId policyId then store.assignPolicy accountId policyId else store
  | .removePolicy accountId policyId => store.removePolicy accountId policyId
  | .setStatus accountId isActive isDeleted =>
      store.updateAccounts fun account =>
        if account.id = accountId then { account with isActive, isDeleted } else account
  | .purge accountId => store.deleteAccount accountId

def server (site : Site) : System Request Store Administration Reply Failure Response where
  handle := handle site
  outcomes := outcomes site
  disturb := administer

abbrev Server := Config Request Store Reply Failure Response

end MysticAuth.AccountCreation
