import Mathlib.Data.String.Basic
import MysticAuth.Python.Grouping
import MysticAuth.Python.RightSplit
import MysticAuth.RateLimiting.KeyPatterns
import MysticAuth.Valkey.Scan

/-!
# The rate limit dashboard

It walks over the keys that match a pattern, keeps those that have the shape
of a counter's key, and reads, sorts and cuts into pages what they hold.  The
walk is kept for a few seconds.
-/

set_option autoImplicit false

namespace MysticAuth.RateLimits

open Glob Python Scan

/-! ## Keys -/

structure KeyParts where
  endpoint : String
  scope : String
  identifier : String

/-- `key.rsplit(":", 2)`, if there are three parts. -/
def keyParts (key : String) : Option KeyParts :=
  match rsplit ':' 2 key.toList with
  | [endpoint, scope, identifier] =>
      some ⟨String.ofList endpoint, String.ofList scope, String.ofList identifier⟩
  | _ => none

/-- `_NON_STRING_KEY_PREFIXES` -/
def nonStringKeyPrefixes : List String :=
  ["session_event_leases"]

def isRateLimitKey (key : String) : Bool :=
  (keyParts key).any fun parts =>
    decide (parts.scope ∈ keyScopes ∧ parts.endpoint ∉ nonStringKeyPrefixes)

/-! ## What the keys hold -/

/-- A value is a number as `INCR` writes it, another text, or no text at all. -/
inductive StoredValue where
  | integer (count : Int)
  | text
  | container

structure Keyspace where
  keys : List String
  distinct : keys.Nodup
  value : String → StoredValue
  ttl : String → Int

namespace Keyspace

variable (keyspace : Keyspace)

/-- `GET`, and `int` of what comes back.  The outer option is an exception: `GET` of a container, or
`int` of a text that is no number. -/
def readCount (key : String) : Option (Option Int) :=
  if key ∈ keyspace.keys then
    match keyspace.value key with
    | .integer count => some (some count)
    | .text => none
    | .container => none
  else some none

def readTtl (key : String) : Int :=
  if key ∈ keyspace.keys then keyspace.ttl key else -2

def delete (key : String) : Keyspace :=
  { keyspace with
    keys := keyspace.keys.erase key
    distinct := keyspace.distinct.erase key }

end Keyspace

structure LimitSettings where
  maxRequestsPerWindow : Int
  endpointOverrides : String → Option (Int × Int)
  maxFailedLoginAttempts : Int
  maxFailedLoginAttemptsPerIp : Int

def effectiveLimit (settings : LimitSettings) (endpointName keyScope : String) : Int :=
  if endpointName = "login_lock" then
    if keyScope ∈ ["ip", "account_ip"] then settings.maxFailedLoginAttemptsPerIp
    else settings.maxFailedLoginAttempts
  else
    match settings.endpointOverrides endpointName with
    | some override => override.1
    | none => settings.maxRequestsPerWindow

/-! ## The walk -/

/-- A walk as it was kept. -/
structure Snapshot where
  takenAt : Rat
  keys : List String
  truncated : Bool

/-- `_scan_snapshot_cache` -/
abbrev SnapshotCache := String → Option Snapshot

/-- `MAX_SCANNED_KEYS` -/
def maxScannedKeys : Nat :=
  5000

/-- `_SCAN_SNAPSHOT_TTL_SECONDS` -/
def scanSnapshotTtlSeconds : Rat :=
  5

/-- The loop over the replies.  `none` is an exception: there is no further reply. -/
def scanKeys : List Reply → List String → Option (List String × Bool)
  | [], _ => none
  | reply :: rest, matched =>
      let matched := matched ++ reply.keys
      if maxScannedKeys ≤ matched.length then some (matched.take maxScannedKeys, true)
      else if reply.cursor = 0 then some (matched, false)
      else scanKeys rest matched

def isFresh (now : Rat) (snapshot : Snapshot) : Bool :=
  decide (now - snapshot.takenAt < scanSnapshotTtlSeconds)

def cachedSnapshot (cache : SnapshotCache) (now : Rat) (cacheKey : String) : Option Snapshot :=
  (cache cacheKey).filter (isFresh now)

def takeSnapshot (now : Rat) (replies : List Reply) : Option Snapshot :=
  (scanKeys replies []).map fun walk =>
    ⟨now, (walk.1.filter isRateLimitKey).mergeSort fun a b => decide (a ≤ b), walk.2⟩

/-! ## The list -/

inductive LimitKind where
  | atLimit
  | loginLockouts
  deriving DecidableEq

inductive SortKey where
  | endpoint
  | scope
  | identifier
  | count
  | resetsAt

inductive SortDir where
  | asc
  | desc

structure LimitFilters where
  scope : Option String
  endpoint : Option String
  identifier : Option String
  kind : Option LimitKind
  sortBy : SortKey
  sortDir : SortDir
  pageSize : Nat

structure LimitEntry where
  key : String
  endpoint : String
  scope : String
  identifier : String
  count : Int
  limit : Int
  resetsInSeconds : Option Int

structure LimitPage where
  entries : List LimitEntry
  total : Nat
  truncated : Bool

def LimitKind.text : Option LimitKind → String
  | some .atLimit => "at_limit"
  | some .loginLockouts => "login_lockouts"
  | none => "all"

def LimitFilters.pattern (tables : KeyTables) (filters : LimitFilters) : String :=
  keyPattern tables filters.scope filters.endpoint filters.identifier

def LimitFilters.cacheKey (tables : KeyTables) (filters : LimitFilters) : String :=
  filters.pattern tables ++ "|" ++ LimitKind.text filters.kind

section Reading

variable (settings : LimitSettings) (tables : KeyTables) (keyspace : Keyspace)

def reachesLimit (key : String) (count : Int) : Bool :=
  (keyParts key).any fun parts =>
    decide (effectiveLimit settings parts.endpoint parts.scope ≤ count)

def isLoginLockout (key : String) : Bool :=
  (keyParts key).any fun parts => decide (parts.endpoint = "login_lock")

/-- The keys of the kind that is asked for. -/
def keysOfKind (kind : Option LimitKind) (matched : List String) : Option (List String) :=
  match kind with
  | none => some matched
  | some .loginLockouts => some (matched.filter isLoginLockout)
  | some .atLimit => do
      let counts ← matched.mapM keyspace.readCount
      some (((matched.zip counts).filter fun pair => pair.2.any (reachesLimit settings pair.1)).map
        Prod.fst)

def limitEntry (key : String) : Option LimitEntry := do
  let parts ← keyParts key
  let count ← keyspace.readCount key
  let ttl := keyspace.readTtl key
  some {
    key := key
    endpoint := parts.endpoint
    scope := parts.scope
    identifier := parts.identifier
    count := count.getD 0
    limit := effectiveLimit settings parts.endpoint parts.scope
    resetsInSeconds := if 0 ≤ ttl then some ttl else none }

/-- `entries.sort(key=..., reverse=sort_dir == "desc")` -/
def sortEntries {κ : Type} [LinearOrder κ] (direction : SortDir) (key : LimitEntry → κ)
    (entries : List LimitEntry) : List LimitEntry :=
  match direction with
  | .asc => entries.mergeSort fun a b => decide (key a ≤ key b)
  | .desc => entries.mergeSort fun a b => decide (key b ≤ key a)

def sorted (filters : LimitFilters) (entries : List LimitEntry) : List LimitEntry :=
  match filters.sortBy with
  | .count => sortEntries filters.sortDir LimitEntry.count entries
  | .resetsAt =>
      sortEntries filters.sortDir (fun entry => entry.resetsInSeconds.getD 0)
          (entries.filter fun entry => entry.resetsInSeconds.isSome) ++
        entries.filter fun entry => entry.resetsInSeconds.isNone
  | .endpoint =>
      sortEntries filters.sortDir (fun entry => tables.casefold entry.endpoint) entries
  | .scope => sortEntries filters.sortDir (fun entry => tables.casefold entry.scope) entries
  | .identifier =>
      sortEntries filters.sortDir (fun entry => tables.casefold entry.identifier) entries

def limitPage (filters : LimitFilters) (page : Nat) (snapshot : Snapshot) : Option LimitPage := do
  let matched ← keysOfKind settings keyspace filters.kind snapshot.keys
  if matched = [] then some ⟨[], 0, snapshot.truncated⟩
  else do
    let entries ← (matched.filter isRateLimitKey).mapM (limitEntry settings keyspace)
    let entries := sorted tables filters entries
    some ⟨(entries.drop ((page - 1) * filters.pageSize)).take filters.pageSize, entries.length,
      snapshot.truncated⟩

/-- The page, if no exception is raised, and the snapshots that are kept. -/
def listActiveLimits (filters : LimitFilters) (page : Nat) (now : Rat) (cache : SnapshotCache)
    (replies : List Reply) : Option LimitPage × SnapshotCache :=
  let cacheKey := filters.cacheKey tables
  match cachedSnapshot cache now cacheKey with
  | some snapshot => (limitPage settings tables keyspace filters page snapshot, cache)
  | none =>
      match takeSnapshot now replies with
      | none => (some ⟨[], 0, false⟩, cache)
      | some snapshot =>
          (limitPage settings tables keyspace filters page snapshot,
            fun key => if key = cacheKey then some snapshot else cachedSnapshot cache now key)

end Reading

/-! ## What a page is made of -/

theorem limitEntry_key {settings : LimitSettings} {keyspace : Keyspace} {key : String}
    {entry : LimitEntry} (made : limitEntry settings keyspace key = some entry) :
    entry.key = key := by
  unfold limitEntry at made
  obtain ⟨parts, -, made⟩ := Option.bind_eq_some_iff.mp made
  obtain ⟨count, -, made⟩ := Option.bind_eq_some_iff.mp made
  cases made
  rfl

theorem map_key_of_mapM {settings : LimitSettings} {keyspace : Keyspace} {keys : List String}
    {entries : List LimitEntry} (made : keys.mapM (limitEntry settings keyspace) = some entries) :
    entries.map LimitEntry.key = keys := by
  induction keys generalizing entries with
  | nil =>
    cases made
    rfl
  | cons key keys ih =>
    rw [List.mapM_cons] at made
    obtain ⟨entry, first, made⟩ := Option.bind_eq_some_iff.mp made
    obtain ⟨rest, others, made⟩ := Option.bind_eq_some_iff.mp made
    cases made
    rw [List.map_cons, limitEntry_key first, ih others]

theorem sorted_perm (tables : KeyTables) (filters : LimitFilters) (entries : List LimitEntry) :
    (sorted tables filters entries).Perm entries := by
  have sortEntries_perm {κ : Type} [LinearOrder κ] (key : LimitEntry → κ)
      (entries : List LimitEntry) : (sortEntries filters.sortDir key entries).Perm entries := by
    unfold sortEntries
    cases filters.sortDir <;> exact List.mergeSort_perm _ _
  unfold sorted
  cases filters.sortBy with
  | resetsAt =>
    have split := List.filter_append_perm (fun entry : LimitEntry => entry.resetsInSeconds.isSome)
      entries
    simp only [Option.not_isSome] at split
    exact ((sortEntries_perm _ _).append_right _).trans split
  | _ => exact sortEntries_perm _ _

/-! ## The summary -/

structure LimitSummary where
  total : Nat
  atLimit : Nat
  loginLockouts : Nat
  byEndpoint : List (String × Nat)
  byScope : List (String × Nat)
  truncated : Bool

def emptySummary (truncated : Bool) : LimitSummary :=
  ⟨0, 0, 0, [], [], truncated⟩

/-- How often each name occurs, in the order of the first ones. -/
def occurrences (names : List String) : List (String × Nat) :=
  (groupPairs (names.map fun name => (name, ()))).map fun group => (group.1, group.2.length)

section Summary

variable (settings : LimitSettings) (keyspace : Keyspace)

def limitSummary (snapshot : Snapshot) : Option LimitSummary :=
  if snapshot.keys = [] then some (emptySummary snapshot.truncated)
  else do
    let values ← snapshot.keys.mapM keyspace.readCount
    let parts := snapshot.keys.filterMap keyParts
    some {
      total := snapshot.keys.length
      atLimit := (snapshot.keys.zip values).countP fun pair =>
        pair.2.any (reachesLimit settings pair.1)
      loginLockouts := snapshot.keys.countP isLoginLockout
      byEndpoint := occurrences (parts.map KeyParts.endpoint)
      byScope := occurrences (parts.map KeyParts.scope)
      truncated := snapshot.truncated }

def summaryPattern : String :=
  "*:*:*"

def summarizeActiveLimits (now : Rat) (cache : SnapshotCache) (replies : List Reply) :
    Option LimitSummary × SnapshotCache :=
  match cachedSnapshot cache now summaryPattern with
  | some snapshot => (limitSummary settings keyspace snapshot, cache)
  | none =>
      match takeSnapshot now replies with
      | none => (some (emptySummary false), cache)
      | some snapshot =>
          (limitSummary settings keyspace snapshot,
            Function.update cache summaryPattern (some snapshot))

end Summary

/-! ## Resetting -/

/-- The counter of the key may be deleted. -/
def isResettable (key : String) : Bool :=
  isRateLimitKey key &&
    (keyParts key).any fun parts =>
      decide (parts.endpoint ≠ "" ∧ ':' ∉ parts.endpoint.toList)

/-- `reset_counter`; the server may fail to answer. -/
def resetCounter (answers : Bool) (key : String) (keyspace : Keyspace) (cache : SnapshotCache) :
    Keyspace × SnapshotCache :=
  if isResettable key && answers then (keyspace.delete key, fun _ => none) else (keyspace, cache)

end MysticAuth.RateLimits
