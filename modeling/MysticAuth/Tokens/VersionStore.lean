import MysticAuth.Accounts.EmailKeys
import MysticAuth.Interleaving.Histories
import Mathlib.Data.List.AList
import Mathlib.Data.List.Sort

/-!
# The table of revocation versions under concurrent transactions

A bump reads the row under the digest and the row under the plain address, and
writes the former.  The migration copies rows from plain addresses to digests
and deletes them.  Statements see what is committed and the writes of their own
transaction; a written or locked row belongs to its transaction until the end.
-/

set_option autoImplicit false

namespace MysticAuth.Versions

open Interleaving

/-! ## Legacy keys -/

/-- `str.rpartition`, when the separator occurs. -/
def rpartition (separator : Char) (text : List Char) : Option (List Char × List Char) :=
  match text.reverse.dropWhile (· ≠ separator) with
  | [] => none
  | _ :: before => some (before.reverse, (text.reverse.takeWhile (· ≠ separator)).reverse)

section LegacyKeys

variable (tables : KeyTables)

def hmacKeyFromLegacyKey (key : String) : Option String :=
  if "account_ver:".toList <+: key.toList ∧ ¬ "account_ver:v2:".toList <+: key.toList then
    let email := key.toList.drop "account_ver:".length
    if email = [] then none else some (tables.accountVersionKey (String.ofList email))
  else if "chain_ver:".toList <+: key.toList ∧ ¬ "chain_ver:v2:".toList <+: key.toList then
    match rpartition ':' (key.toList.drop "chain_ver:".length) with
    | none => none
    | some (email, chainId) =>
        if email = [] ∨ chainId = [] then none
        else some (tables.chainVersionKey (String.ofList email) (String.ofList chainId))
  else none

end LegacyKeys

/-- SQL's `split_part` with the separator `:`, counting from zero. -/
def splitPart (key : String) (index : Nat) : String :=
  String.ofList ((key.toList.splitOn ':').getD index [])

/-- The script's `WHERE` clause. -/
def isLegacyFormat (key : String) : Bool :=
  (key.toList.take 12 == "account_ver:".toList && splitPart key 1 != "v2") ||
    (key.toList.take 10 == "chain_ver:".toList && splitPart key 1 != "v2")

/-! ## Rows, locks and uncommitted writes -/

abbrev Rows := AList fun _ : String => Nat

/-- The writes of a transaction, newest first; `none` deletes the row. -/
abbrev Writes := List (String × Option Nat)

def Writes.apply (writes : Writes) (rows : Rows) : Rows :=
  writes.foldr (fun write current => match write.2 with
    | some version => current.insert write.1 version
    | none => current.erase write.1) rows

structure Store where
  rows : Rows
  owner : String → Option Nat
  pending : Nat → Writes

namespace Store

def initial (rows : Rows) : Store where
  rows := rows
  owner := fun _ => none
  pending := fun _ => []

variable (store : Store) (thread : Nat)

/-- Whether another transaction holds the row, or is inserting one under the key. -/
def isHeld (key : String) : Bool :=
  match store.owner key with
  | some other => other != thread
  | none => false

def visible (key : String) : Option Nat :=
  ((store.pending thread).lookup key).getD (store.rows.lookup key)

def lock (key : String) : Store :=
  { store with owner := Function.update store.owner key (some thread) }

def write (key : String) (version : Option Nat) : Store :=
  { store.lock thread key with
    pending := Function.update store.pending thread ((key, version) :: store.pending thread) }

/-- The end of the thread's transaction. -/
def release : Store :=
  { store with
    owner := fun key => if store.owner key = some thread then none else store.owner key
    pending := Function.update store.pending thread [] }

def commit : Store :=
  { store with rows := (store.pending thread).apply store.rows }.release thread

/-- `_get_version`: the greater of both formats. -/
def effective (key legacyKey : String) : Nat :=
  max ((store.rows.lookup key).getD 0) ((store.rows.lookup legacyKey).getD 0)

end Store

/-! ## Calls -/

inductive Failure where
  | database
  | valueError (message : String)
  deriving DecidableEq

/-- A locking query takes its snapshot first and then locks row by row.  A commit is followed by
its acknowledgement, which may get lost. -/
inductive Call where
  | selectKeys (keys : List String)
  | lockRow (key : String)
  | upsertBump (key : String) (version : Nat)
  | selectLegacy
  | lockSkipLocked (key : String)
  | upsertMax (key : String) (version : Nat)
  | deleteRow (key : String)
  | commit
  | acknowledge
  | close
  deriving DecidableEq

@[reducible] def Result : Call → Type
  | .selectKeys _ => List String
  | .lockRow _ => Option Nat
  | .upsertBump _ _ => Nat
  | .selectLegacy => List String
  | .lockSkipLocked _ => Option Nat
  | .upsertMax _ _ => Unit
  | .deleteRow _ => Unit
  | .commit => Unit
  | .acknowledge => Unit
  | .close => Unit

@[reducible] def Reply (call : Call) : Type :=
  Except Failure (Result call)

/-- An answered call. -/
abbrev Event := Interleaving.Event Reply

/-- What a deployment fixes; the database orders texts by its collation. -/
structure Site where
  keys : KeyTables
  collate : String → String → Bool

/-- `INSERT … ON CONFLICT (key) DO UPDATE`, on the latest row. -/
def upsert (thread : Nat) (key : String) (store : Store) (version : Option Nat → Nat) :
    List (Nat × Store) :=
  if store.isHeld thread key then []
  else
    let written := version (store.visible thread key)
    [(written, store.write thread key (some written))]

/-- The latest committed row, locked; nothing if it was deleted since the snapshot. -/
def lockLatest (thread : Nat) (key : String) (store : Store) : List (Option Nat × Store) :=
  match store.rows.lookup key with
  | none => [(none, store)]
  | some version => [(some version, store.lock thread key)]

/-- How a call may succeed; there is no way while it waits for another transaction. -/
def effects (site : Site) (thread : Nat) (call : Call) (store : Store) :
    List (Result call × Store) :=
  match call with
  | .selectKeys keys =>
      let present := keys.filter fun key => (store.rows.lookup key).isSome
      [(present, store), (present.reverse, store)]
  | .lockRow key => if store.isHeld thread key then [] else lockLatest thread key store
  | .upsertBump key version =>
      upsert thread key store fun row => row.elim version fun current => max (current + 1) version
  | .selectLegacy =>
      [((store.rows.keys.filter isLegacyFormat).insertionSort
        (fun left right => site.collate left right), store)]
  | .lockSkipLocked key =>
      if store.isHeld thread key then [(none, store)] else lockLatest thread key store
  | .upsertMax key version =>
      (upsert thread key store fun row => row.elim version fun current => max current version).map
        fun outcome => ((), outcome.2)
  | .deleteRow key =>
      if (store.visible thread key).isNone then [((), store)]
      else if store.isHeld thread key then []
      else [((), store.write thread key none)]
  | .commit => [((), store.commit thread)]
  | .acknowledge => [((), store)]
  | .close => [((), store.release thread)]

/-- A failure ends the transaction; whoever waits may also be chosen to break a deadlock. -/
def outcomes (site : Site) (thread : Nat) (call : Call) (store : Store) :
    List (Reply call × Store) :=
  (effects site thread call store).map (fun outcome => (.ok outcome.1, outcome.2)) ++
    [(.error .database, store.release thread)]

/-! ## The version store and the migration script -/

abbrev Service (α : Type) := Program Reply Failure α

def execute (call : Call) : Service (Result call) :=
  .attempt call id

def lockRows : List String → Service (List Nat)
  | [] => return []
  | key :: rest => do
      match ← execute (.lockRow key) with
      | none => lockRows rest
      | some version => return version :: (← lockRows rest)

/-- `_bump_version`. -/
def bumpVersion (key legacyKey : String) : Service Nat :=
  Program.finally (do
    let present ← execute (.selectKeys [key, legacyKey])
    let versions ← lockRows present
    let current := versions.foldr max 0
    let version ← execute (.upsertBump key (current + 1))
    execute .commit
    execute .acknowledge
    return version) (execute .close)

/-- `LIMIT … FOR UPDATE SKIP LOCKED`. -/
def lockBatch : Nat → List String → Service (List (String × Nat))
  | 0, _ => return []
  | _, [] => return []
  | limit + 1, key :: rest => do
      match ← execute (.lockSkipLocked key) with
      | none => lockBatch (limit + 1) rest
      | some version => return (key, version) :: (← lockBatch limit rest)

section Service

variable (site : Site)

def migrateRows : List (String × Nat) → Service Unit
  | [] => return ()
  | (oldKey, version) :: rest => do
      match hmacKeyFromLegacyKey site.keys oldKey with
      | none => throw (.valueError "unrecognized legacy token revocation key; no rows changed")
      | some newKey =>
        execute (.upsertMax newKey version)
        execute (.deleteRow oldKey)
        migrateRows rest

/-- One round of the script's loop, which ends with a round that finds no row. -/
def migrateBatch (batchSize : Nat) : Service Nat :=
  Program.finally (do
    let keys ← execute .selectLegacy
    let rows ← lockBatch batchSize keys
    if rows = [] then return 0
    migrateRows site rows
    execute .commit
    execute .acknowledge
    return rows.length) (execute .close)

inductive Request where
  | bumpAccountVersion (email : StoredEmail)
  | bumpChainVersion (email : StoredEmail) (chainId : ChainId)
  | migrateBatch (batchSize : Nat)
  deriving DecidableEq

inductive Response where
  | bumped (done : Bool)
  | migrated (rows : Nat)
  deriving DecidableEq

def bumpAccountVersion (email : String) : Service Bool :=
  tryCatch (do
    let _ ← bumpVersion (site.keys.accountVersionKey email) (legacyAccountVersionKey email)
    return true) fun _ => return false

def bumpChainVersion (email chainId : String) : Service Bool :=
  tryCatch (do
    let _ ← bumpVersion (site.keys.chainVersionKey email chainId)
      (legacyChainVersionKey email chainId)
    return true) fun _ => return false

def handle : Request → Service Response
  | .bumpAccountVersion email => do return .bumped (← bumpAccountVersion site email)
  | .bumpChainVersion email chainId => do return .bumped (← bumpChainVersion site email chainId)
  | .migrateBatch batchSize => do return .migrated (← migrateBatch site batchSize)

/-- `get_account_version`. -/
def Store.accountVersion (store : Store) (email : String) : Nat :=
  store.effective (site.keys.accountVersionKey email) (legacyAccountVersionKey email)

/-- `get_chain_version`. -/
def Store.chainVersion (store : Store) (email chainId : String) : Nat :=
  store.effective (site.keys.chainVersionKey email chainId)
    (legacyChainVersionKey email chainId)

end Service

def server (site : Site) : System Request Store Empty Reply Failure Response where
  handle := handle site
  outcomes := outcomes site
  disturb := fun event => event.elim

abbrev Server := Config Request Store Reply Failure Response

end MysticAuth.Versions
