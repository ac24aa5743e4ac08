import MysticAuth.Authorization.Store

/-!
# Keys derived from an email address

An account is stored under its normalized address.  Three stores address it by
a keyed digest of the casefolded address instead: the authorization cache, the
token revocation versions (next to rows under the plain address from before
the digests) and the active password-reset link.
-/

set_option autoImplicit false

namespace MysticAuth

open Python

/-- Python's `str.strip`, `str.lower` and `str.casefold`, and the hexadecimal HMAC-SHA256 of a
message under the server's secret. -/
structure KeyTables where
  strip : String → String
  lower : String → String
  casefold : String → String
  hmacHex : String → String

/-- The keyed hash is injective, and its digits contain no `@`. -/
structure KeyTables.Sound (tables : KeyTables) : Prop where
  injective : Function.Injective tables.hmacHex
  noAtSign : ∀ message, '@' ∉ (tables.hmacHex message).toList

/-- The address an account is stored under; every accepted address has an `@`. -/
abbrev StoredEmail := {email : String // '@' ∈ email.toList}

/-- A session chain id, the hexadecimal digits of a UUID. -/
abbrev ChainId := {chainId : String // ∀ c ∈ chainId.toList, c ≠ ':' ∧ c ≠ '@'}

namespace KeyTables

variable (tables : KeyTables)

def normalizeEmail (email : String) : String :=
  tables.lower (tables.strip email)

def foldedEmail (email : String) : String :=
  tables.casefold (tables.strip email)

def emailKeyId (email : String) : String :=
  tables.hmacHex ("mystic-auth:valkey-key:v1:email:" ++ tables.foldedEmail email)

def userPoliciesKey (email : String) : String :=
  "authz:user_policies:" ++ tables.emailKeyId email

def userPermissionsKey (email : String) : String :=
  "authz:user_permissions:" ++ tables.emailKeyId email

def activeTokenKey (email : String) : String :=
  "password_reset_active:" ++ tables.hmacHex (tables.foldedEmail email)

def emailDigest (email : String) : String :=
  tables.hmacHex ("mystic-auth:token-revocation:v2:email:" ++ tables.foldedEmail email)

def accountVersionKey (email : String) : String :=
  "account_ver:v2:" ++ tables.emailDigest email

def chainVersionKey (email chainId : String) : String :=
  "chain_ver:v2:" ++ (tables.emailDigest email ++ (":" ++ chainId))

end KeyTables

/-- An address as given, accepted by the validation. -/
abbrev AcceptedEmail (tables : KeyTables) :=
  {email : String // '@' ∈ (tables.normalizeEmail email).toList}

/-- The account an address belongs to is the one stored under its normalized form. -/
def KeyTables.account (tables : KeyTables) (email : AcceptedEmail tables) : StoredEmail :=
  ⟨tables.normalizeEmail email, email.property⟩

def legacyAccountVersionKey (email : String) : String :=
  "account_ver:" ++ email

def legacyChainVersionKey (email chainId : String) : String :=
  "chain_ver:" ++ (email ++ (":" ++ chainId))

def resetMarkerKey (jti : String) : String :=
  "password_reset:" ++ jti

section Characters

variable (tables : KeyTables) (email chainId : String)

theorem toList_accountVersionKey :
    (tables.accountVersionKey email).toList =
      "account_ver:v2:".toList ++ (tables.emailDigest email).toList := by
  unfold KeyTables.accountVersionKey
  exact String.toList_append

theorem toList_chainVersionKey :
    (tables.chainVersionKey email chainId).toList =
      "chain_ver:v2:".toList ++
        ((tables.emailDigest email).toList ++ (":".toList ++ chainId.toList)) := by
  unfold KeyTables.chainVersionKey
  rw [String.toList_append, String.toList_append, String.toList_append]

theorem toList_legacyAccountVersionKey :
    (legacyAccountVersionKey email).toList = "account_ver:".toList ++ email.toList := by
  unfold legacyAccountVersionKey
  exact String.toList_append

theorem toList_legacyChainVersionKey :
    (legacyChainVersionKey email chainId).toList =
      "chain_ver:".toList ++ (email.toList ++ (":".toList ++ chainId.toList)) := by
  unfold legacyChainVersionKey
  rw [String.toList_append, String.toList_append, String.toList_append]

end Characters

/-! ## The stores -/

/-- What a Valkey key of this module holds: a serialized list, or a plain text. -/
inductive ValkeyEntry where
  | policies (rows : List PolicyDefinition)
  | permissions (rows : List UserPermission)
  | text (value : String)

structure AccountStores where
  database : Database
  valkey : String → Option ValkeyEntry
  revocationVersions : String → Option Nat

namespace AccountStores

def setValkey (stores : AccountStores) (key : String) (entry : Option ValkeyEntry) :
    AccountStores :=
  { stores with valkey := Function.update stores.valkey key entry }

section Reads

variable (tables : KeyTables) (stores : AccountStores) (email : String)

/-- The cached list, if the key holds one; anything else is a miss. -/
def getUserPolicies : Option (List PolicyDefinition) :=
  match stores.valkey (tables.userPoliciesKey email) with
  | some (.policies rows) => some rows
  | _ => none

def getUserPermissions : Option (List UserPermission) :=
  match stores.valkey (tables.userPermissionsKey email) with
  | some (.permissions rows) => some rows
  | _ => none

def getActivePoliciesForUser : List PolicyDefinition :=
  match stores.getUserPolicies tables email with
  | some rows => rows
  | none => (stores.database.getActivePoliciesForUser email).map Policy.definition

def getActivePermissionsForUser : List UserPermission :=
  match stores.getUserPermissions tables email with
  | some rows => rows
  | none => stores.database.getActivePermissionsForUser email

/-- The greater of the row under the digest and the row under the plain address. -/
def getVersion (key legacyKey : String) : Nat :=
  max ((stores.revocationVersions key).getD 0) ((stores.revocationVersions legacyKey).getD 0)

def getVersions (chainId : String) : Nat × Nat :=
  (stores.getVersion (tables.accountVersionKey email) (legacyAccountVersionKey email),
    stores.getVersion (tables.chainVersionKey email chainId)
      (legacyChainVersionKey email chainId))

def getActiveResetToken : Option ValkeyEntry :=
  stores.valkey (tables.activeTokenKey email)

end Reads

/-! ## The operations -/

/-- One operation on the account stored under an address, or the loss of a Valkey key by expiry,
eviction or a flush. -/
inductive Operation where
  | readGrants (email : StoredEmail)
  | assignPolicy (email : StoredEmail) (policyId : Nat) (assignedBy : Option String)
  | removePolicy (email : StoredEmail) (policyId : Nat)
  | grantPermission (email : StoredEmail) (action resourceType : String) (conditions : Json)
      (assignedBy : Option String)
  | removePermission (email : StoredEmail) (action resourceType : String)
  | bumpAccountVersion (email : StoredEmail)
  | bumpChainVersion (email : StoredEmail) (chainId : ChainId)
  | requestReset (email : StoredEmail) (jti : String)
  | loseKey (key : String)

def Operation.account : Operation → Option StoredEmail
  | readGrants email => some email
  | assignPolicy email _ _ => some email
  | removePolicy email _ => some email
  | grantPermission email _ _ _ _ => some email
  | removePermission email _ _ => some email
  | bumpAccountVersion email => some email
  | bumpChainVersion email _ => some email
  | requestReset email _ => some email
  | loseKey _ => none

section Operations

variable (tables : KeyTables)

def readPolicies (stores : AccountStores) (email : String) : AccountStores :=
  if (stores.getUserPolicies tables email).isSome then stores
  else stores.setValkey (tables.userPoliciesKey email)
    (some (.policies (stores.getActivePoliciesForUser tables email)))

def readPermissions (stores : AccountStores) (email : String) : AccountStores :=
  if (stores.getUserPermissions tables email).isSome then stores
  else stores.setValkey (tables.userPermissionsKey email)
    (some (.permissions (stores.getActivePermissionsForUser tables email)))

/-- A mutation of the user's rows, followed by the invalidation of his cache key.  An unknown
address changes nothing, nor does a mutation that finds nothing to do. -/
def mutateUser (stores : AccountStores) (email key : String)
    (mutate : Database → Nat → Option Database) : AccountStores :=
  match stores.database.getByEmail email with
  | none => stores
  | some user =>
      match mutate stores.database user.id with
      | none => stores
      | some database => { stores with database }.setValkey key none

/-- Above both formats, so that a rolling upgrade never undoes a revocation. -/
def bumpVersion (stores : AccountStores) (key legacyKey : String) : AccountStores :=
  let current := stores.getVersion key legacyKey
  let version := match stores.revocationVersions key with
    | some row => max (row + 1) (current + 1)
    | none => current + 1
  { stores with revocationVersions := Function.update stores.revocationVersions key (some version) }

def storeResetToken (stores : AccountStores) (email jti : String) : AccountStores :=
  (stores.setValkey (tables.activeTokenKey email) (some (.text jti))).setValkey
    (resetMarkerKey jti) (some (.text "1"))

def apply (stores : AccountStores) : Operation → AccountStores
  | .readGrants email => (stores.readPolicies tables email).readPermissions tables email
  | .assignPolicy email policyId assignedBy =>
      stores.mutateUser email (tables.userPoliciesKey email) fun database userId =>
        if database.userHoldsPolicy userId policyId then none
        else some (database.assignPolicyToUser userId policyId assignedBy)
  | .removePolicy email policyId =>
      stores.mutateUser email (tables.userPoliciesKey email) fun database userId =>
        if database.userHoldsPolicy userId policyId then
          some (database.removeAssignment userId policyId)
        else none
  | .grantPermission email action resourceType conditions assignedBy =>
      stores.mutateUser email (tables.userPermissionsKey email) fun database userId =>
        some (database.assignPermissionToUser userId action resourceType conditions assignedBy)
  | .removePermission email action resourceType =>
      stores.mutateUser email (tables.userPermissionsKey email) fun database userId =>
        if database.holdsGrant userId action resourceType then
          some (database.removePermission userId action resourceType)
        else none
  | .bumpAccountVersion email =>
      stores.bumpVersion (tables.accountVersionKey email) (legacyAccountVersionKey email)
  | .bumpChainVersion email chainId =>
      stores.bumpVersion (tables.chainVersionKey email chainId)
        (legacyChainVersionKey email chainId)
  | .requestReset email jti => stores.storeResetToken tables email jti
  | .loseKey key => stores.setValkey key none

def run (stores : AccountStores) (operations : List Operation) : AccountStores :=
  operations.foldl (apply tables) stores

end Operations

/-! ## What is read for an account -/

structure AccountView where
  policies : List PolicyDefinition
  permissions : List UserPermission
  versions : ChainId → Nat × Nat
  activeReset : Option ValkeyEntry

def view (tables : KeyTables) (stores : AccountStores) (email : String) : AccountView where
  policies := stores.getActivePoliciesForUser tables email
  permissions := stores.getActivePermissionsForUser tables email
  versions := fun chainId => stores.getVersions tables email chainId
  activeReset := stores.getActiveResetToken tables email

end AccountStores

end MysticAuth
