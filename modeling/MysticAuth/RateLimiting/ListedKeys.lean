import MysticAuth.RateLimiting.Dashboard

/-!
# Listed keys and keys that can be reset

Both functions recognise a counter's key by its last two parts, and the one
that deletes asks in addition for a plain endpoint.  The program writes some
counters, and a marker, under keys whose endpoint has a separator.
-/

set_option autoImplicit false

namespace MysticAuth.RateLimits

open Glob Python Scan Wildcards

/-! ## The keys that the program writes -/

inductive KeyUse where
  | requestCounter
  | failureCounter
  | other
  deriving DecidableEq

def KeyUse.IsCounter (use : KeyUse) : Prop :=
  use = .requestCounter ∨ use = .failureCounter

/-- The hexadecimal digits of a hash. -/
structure Digest where
  text : String
  digits : ∀ c ∈ text.toList, c ∈ "0123456789abcdef".toList

/-- A text without a separator, such as a token's id. -/
abbrev PlainText := {text : String // ':' ∉ text.toList}

def counterKey (endpoint scope identifier : String) : String :=
  endpoint ++ ":" ++ scope ++ ":" ++ identifier

/-- The failure counters of actions that are confirmed by an emailed token. -/
def confirmationLocks : List String :=
  ["verify_account_lock", "password_reset_confirm_lock", "account_delete_confirm_lock"]

/-- The events that are alerted. -/
def alertEvents : List String :=
  ["refresh_token_reuse_detected", "refresh_token_context_changed", "login_ip_locked",
    "login_account_cooldown", "oauth2_state_mismatch", "session_event_connection_limit_exceeded",
    "user_role_changed", "policy_assigned", "background_job_stalled", "background_job_failed"]

/-- The keys of one text behind a fixed name. -/
def singleNames : List String :=
  ["account_delete", "verify", "password_reset", "password_reset_active", "revoked", "oauth_state",
    "oauth_state_ctx", "passkey_stepup", "login_account_cooldown"]

/-- A counter of `rate_limited`. -/
inductive RateLimitedKey : String → Prop where
  | ip (endpoint bucket : String) : RateLimitedKey (counterKey endpoint "ip" bucket)
  | account (endpoint : String) (digest : Digest) :
      RateLimitedKey (counterKey endpoint "account" digest.text)

/-- A failure counter of the login protection. -/
inductive LockKey : String → Prop where
  | login (digest : Digest) : LockKey (counterKey "login_lock" "account_ip" digest.text)
  | passkeyLogin (digest : Digest) : LockKey (counterKey "login_lock" "ip" digest.text)
  | confirmation (lock : String) (known : lock ∈ confirmationLocks) (digest : Digest) :
      LockKey (counterKey lock "email" digest.text)
  | refreshIp (bucket : String) : LockKey (counterKey "refresh:lockout" "ip" bucket)
  | refreshAccount (digest : Digest) :
      LockKey (counterKey "refresh:lockout" "account" digest.text)

inductive Written : KeyUse → String → Prop where
  | rateLimited {key : String} (limited : RateLimitedKey key) : Written .requestCounter key
  | refresh (bucket : String) :
      Written .requestCounter (counterKey "refresh:ratelimit" "ip" bucket)
  | lock {key : String} (lock : LockKey key) : Written .failureCounter key
  | accountFailures (digest : Digest) :
      Written .failureCounter ("login_account_failures:" ++ digest.text)
  | auditedDenial {key : String} (limited : RateLimitedKey key) :
      Written .other ("rl_audited:" ++ key)
  | reservation {key : String} (lock : LockKey key) : Written .other (key ++ ":inflight")
  | eventLease (scope : String) (digest : Digest) :
      Written .other (counterKey "session_event_leases" scope digest.text)
  | accountVersion (digest : Digest) :
      Written .other (counterKey "account_ver" "v2" digest.text)
  | chainVersion (digest : Digest) (chainId : PlainText) :
      Written .other (counterKey "chain_ver:v2" digest.text chainId.val)
  | userPolicies (digest : Digest) :
      Written .other (counterKey "authz" "user_policies" digest.text)
  | userPermissions (digest : Digest) :
      Written .other (counterKey "authz" "user_permissions" digest.text)
  | single (name : String) (known : name ∈ singleNames) (text : PlainText) :
      Written .other (name ++ ":" ++ text.val)
  | alertSent (event : String) (known : event ∈ alertEvents) (actor : String) :
      Written .other (counterKey "alert_sent" event actor)
  | alertDedupe (event : String) (known : event ∈ alertEvents) (digest : Digest) :
      Written .other (counterKey "alert_dedupe" event digest.text)
  | alertRate (event : String) (known : event ∈ alertEvents) :
      Written .other ("alert_rate" ++ ":" ++ event)

/-! ## The shape of a key -/

theorem Digest.plain (digest : Digest) : ':' ∉ digest.text.toList := fun member =>
  absurd (digest.digits ':' member) (by decide)

theorem toList_counterKey (endpoint scope identifier : String) :
    (counterKey endpoint scope identifier).toList =
      endpoint.toList ++ ':' :: (scope.toList ++ ':' :: identifier.toList) := by
  simp [counterKey]

theorem keyParts_eq_some_iff (key : String) (parts : KeyParts) :
    keyParts key = some parts ↔
      key = counterKey parts.endpoint parts.scope parts.identifier ∧
        ':' ∉ parts.scope.toList ∧ ':' ∉ parts.identifier.toList := by
  rw [← String.toList_inj, toList_counterKey, ← rsplit_two_eq_iff]
  unfold keyParts
  constructor
  · intro found
    split at found
    · rename_i endpoint scope identifier split
      cases found
      simpa using split
    · cases found
  · intro split
    simp [split]

theorem isRateLimitKey_iff (key : String) :
    isRateLimitKey key = true ↔ ∃ parts, keyParts key = some parts ∧
      parts.scope ∈ keyScopes ∧ parts.endpoint ∉ nonStringKeyPrefixes := by
  simp [isRateLimitKey, Option.any_eq_true]

/-- The key has no endpoint, or one with a separator. -/
def isNested (key : String) : Bool :=
  (keyParts key).any fun parts => decide (parts.endpoint = "" ∨ ':' ∈ parts.endpoint.toList)

theorem isResettable_iff (key : String) :
    isResettable key = true ↔ isRateLimitKey key = true ∧ ¬isNested key = true := by
  unfold isResettable isNested
  cases found : keyParts key with
  | none => simp [isRateLimitKey, found]
  | some parts => simp

theorem isResettable_counterKey {endpoint scope identifier : String}
    (resettable : isResettable (counterKey endpoint scope identifier) = true) :
    ':' ∉ endpoint.toList ∧ scope ∈ keyScopes ∧ endpoint ∉ nonStringKeyPrefixes := by
  obtain ⟨recognised, flat⟩ := (isResettable_iff _).mp resettable
  obtain ⟨parts, found, known, ordinary⟩ := (isRateLimitKey_iff _).mp recognised
  have plain : ':' ∉ parts.endpoint.toList := fun member =>
    flat (by simp [isNested, found, member])
  obtain ⟨split, plainScope, plainIdentifier⟩ := (keyParts_eq_some_iff _ _).mp found
  have lists := congrArg String.toList split
  simp only [toList_counterKey] at lists
  obtain ⟨sameEndpoint, sameScope, -⟩ :=
    key_parts_unique ⟨plain, plainScope, plainIdentifier⟩ lists.symm
  rw [← String.toList_inj.mp sameEndpoint, ← String.toList_inj.mp sameScope]
  exact ⟨plain, known, ordinary⟩

theorem not_isResettable_pair {name text : String} (plainName : ':' ∉ name.toList)
    (plainText : ':' ∉ text.toList) : ¬isResettable (name ++ ":" ++ text) = true := by
  intro resettable
  obtain ⟨parts, found, -⟩ := (isRateLimitKey_iff _).mp ((isResettable_iff _).mp resettable).1
  have counts := congrArg (List.count ':') (congrArg String.toList
    ((keyParts_eq_some_iff _ _).mp found).1)
  simp [toList_counterKey, List.count_append, List.count_eq_zero.mpr plainName,
    List.count_eq_zero.mpr plainText] at counts
  omega

/-! ## What is listed and what is deleted -/

/-- A call of the list: what it is asked, what was kept, and what the server holds and answers. -/
structure ListCall where
  settings : LimitSettings
  tables : KeyTables
  keyspace : Keyspace
  filters : LimitFilters
  page : Nat
  now : Rat
  cache : SnapshotCache
  replies : List Reply

namespace ListCall

variable (call : ListCall)

def result : Option LimitPage :=
  (listActiveLimits call.settings call.tables call.keyspace call.filters call.page call.now
    call.cache call.replies).1

def Lists (key : String) : Prop :=
  ∃ page, call.result = some page ∧ ∃ entry ∈ page.entries, entry.key = key

/-- The server goes through those of the keys that match. -/
def Walk (keyspace : Keyspace) (replies : List Reply) : Prop :=
  Iteration (fun key => key ∈ keyspace.keys ∧
    globMatch (call.filters.pattern call.tables).toList key.toList = true) replies

/-- The server goes through its keys, and what was kept comes from such a walk. -/
structure Genuine : Prop where
  walk : call.Walk call.keyspace call.replies
  kept : ∀ snapshot,
    cachedSnapshot call.cache call.now (call.filters.cacheKey call.tables) = some snapshot →
      ∃ (keyspace : Keyspace) (now : Rat) (replies : List Reply),
        call.Walk keyspace replies ∧ takeSnapshot now replies = some snapshot

end ListCall

/-- Whenever it is there and the server answers, the key is deleted. -/
def Resets (key : String) : Prop :=
  ∀ (keyspace : Keyspace) (cache : SnapshotCache),
    key ∉ (resetCounter true key keyspace cache).1.keys

/-- Some call deletes the key. -/
def CanDelete (key : String) : Prop :=
  ∃ (given : String) (answers : Bool) (keyspace : Keyspace) (cache : SnapshotCache),
    key ∈ keyspace.keys ∧ key ∉ (resetCounter answers given keyspace cache).1.keys

theorem resets_iff (key : String) : Resets key ↔ isResettable key = true := by
  constructor
  · intro resets
    by_contra refused
    have unchanged := resets ⟨[key], List.nodup_singleton key, fun _ => .text, fun _ => 0⟩
      fun _ => none
    simp [resetCounter, refused] at unchanged
  · intro resettable keyspace cache
    simp only [resetCounter, resettable, Bool.and_self, if_true, Keyspace.delete]
    exact keyspace.distinct.not_mem_erase

theorem canDelete_iff (key : String) : CanDelete key ↔ isResettable key = true := by
  constructor
  · rintro ⟨given, answers, keyspace, cache, present, deleted⟩
    unfold resetCounter at deleted
    split at deleted
    · rename_i permitted
      simp only [Bool.and_eq_true] at permitted
      by_cases same : key = given
      · rw [same]
        exact permitted.1
      · exact absurd ((List.mem_erase_of_ne same).mpr present) deleted
    · exact absurd present deleted
  · intro resettable
    exact ⟨key, true, ⟨[key], List.nodup_singleton key, fun _ => .text, fun _ => 0⟩, fun _ => none,
      List.mem_singleton_self key, (resets_iff key).mpr resettable _ _⟩

/-! ## Only keys of the shape are listed -/

theorem isRateLimitKey_of_limitPage {settings : LimitSettings} {tables : KeyTables}
    {keyspace : Keyspace} {filters : LimitFilters} {page : Nat} {snapshot : Snapshot}
    {result : LimitPage} {entry : LimitEntry}
    (shown : limitPage settings tables keyspace filters page snapshot = some result)
    (listed : entry ∈ result.entries) : isRateLimitKey entry.key = true := by
  unfold limitPage at shown
  obtain ⟨matched, -, shown⟩ := Option.bind_eq_some_iff.mp shown
  split at shown
  · cases shown
    cases listed
  · obtain ⟨entries, made, shown⟩ := Option.bind_eq_some_iff.mp shown
    cases shown
    have member := (sorted_perm tables filters entries).mem_iff.mp
      (List.mem_of_mem_drop (List.mem_of_mem_take listed))
    have key : entry.key ∈ matched.filter isRateLimitKey :=
      map_key_of_mapM made ▸ List.mem_map_of_mem member
    exact (List.mem_filter.mp key).2

/-- Whatever was kept and whatever the server answers. -/
theorem isRateLimitKey_of_lists {call : ListCall} {key : String} (listed : call.Lists key) :
    isRateLimitKey key = true := by
  obtain ⟨page, shown, entry, member, rfl⟩ := listed
  simp only [ListCall.result, listActiveLimits] at shown
  split at shown
  · exact isRateLimitKey_of_limitPage shown member
  · split at shown
    · cases shown
      cases member
    · exact isRateLimitKey_of_limitPage shown member

/-! ## Every key of the shape can be listed -/

def noFilters : LimitFilters where
  scope := none
  endpoint := none
  identifier := none
  kind := none
  sortBy := .endpoint
  sortDir := .asc
  pageSize := 25

/-- The first page of a store that holds one counter. -/
def soleCall (key : String) : ListCall where
  settings := ⟨100, fun _ => none, 5, 20⟩
  tables := hexTables
  keyspace := ⟨[key], List.nodup_singleton key, fun _ => .integer 1, fun _ => 60⟩
  filters := noFilters
  page := 1
  now := 0
  cache := fun _ => none
  replies := [⟨0, [key]⟩]

theorem globMatch_noFilters (tables : KeyTables) {key : String}
    (recognised : isRateLimitKey key = true) :
    globMatch (noFilters.pattern tables).toList key.toList = true := by
  obtain ⟨parts, found, -⟩ := (isRateLimitKey_iff key).mp recognised
  rw [LimitFilters.pattern, globMatch_of_means (means_keyPattern _ _ _ _), accepts_keyPieces_iff]
  exact ⟨parts.endpoint, parts.scope, parts.identifier, ((keyParts_eq_some_iff _ _).mp found).1,
    ⟨by simp [noFilters], by simp [noFilters], by simp [noFilters]⟩⟩

theorem genuine_soleCall {key : String} (recognised : isRateLimitKey key = true) :
    (soleCall key).Genuine where
  kept _ fresh := by cases fresh
  walk := by
    refine ⟨.last _ rfl, fun found => ?_⟩
    simp only [soleCall, returned, List.flatMap_cons, List.flatMap_nil, List.append_nil,
      List.mem_singleton]
    constructor
    · rintro rfl
      exact ⟨rfl, globMatch_noFilters hexTables recognised⟩
    · exact And.left

theorem soleCall_lists {key : String} (recognised : isRateLimitKey key = true) :
    (soleCall key).Lists key := by
  have walked : takeSnapshot 0 [⟨0, [key]⟩] = some ⟨0, [key], false⟩ := by
    simp [takeSnapshot, scanKeys, maxScannedKeys, recognised]
  obtain ⟨entry, made⟩ :
      ∃ entry, limitEntry (soleCall key).settings (soleCall key).keyspace key = some entry := by
    obtain ⟨parts, found, -⟩ := (isRateLimitKey_iff key).mp recognised
    simp [limitEntry, found, Keyspace.readCount, soleCall]
  have shown : (soleCall key).result = some ⟨[entry], 1, false⟩ := by
    simp only [soleCall] at made
    simp [ListCall.result, soleCall, listActiveLimits, cachedSnapshot, walked, limitPage,
      keysOfKind, noFilters, recognised, made, sorted, sortEntries]
  exact ⟨_, shown, entry, List.mem_singleton_self entry, limitEntry_key made⟩

/-! ## The use of the keys -/

theorem RateLimitedKey.split {key : String} (limited : RateLimitedKey key) :
    ∃ endpoint scope identifier, key = counterKey endpoint scope identifier := by
  cases limited with
  | ip endpoint bucket => exact ⟨_, _, _, rfl⟩
  | account endpoint digest => exact ⟨_, _, _, rfl⟩

theorem LockKey.split {key : String} (lock : LockKey key) :
    ∃ endpoint scope identifier, key = counterKey endpoint scope identifier := by
  cases lock <;> exact ⟨_, _, _, rfl⟩

theorem alertEvents_plain : ∀ event ∈ alertEvents, event ∉ keyScopes ∧ ':' ∉ event.toList := by
  decide +kernel

/-- What can be reset is a counter. -/
theorem isCounter_of_isResettable {use : KeyUse} {key : String} (written : Written use key)
    (resettable : isResettable key = true) : use.IsCounter := by
  cases written with
  | rateLimited _ => exact .inl rfl
  | refresh _ => exact .inl rfl
  | lock _ => exact .inr rfl
  | accountFailures _ => exact .inr rfl
  | auditedDenial limited =>
    obtain ⟨endpoint, scope, identifier, rfl⟩ := limited.split
    have regrouped : "rl_audited:" ++ counterKey endpoint scope identifier =
        counterKey ("rl_audited:" ++ endpoint) scope identifier := by
      simp [counterKey, String.append_assoc]
    rw [regrouped] at resettable
    exact absurd (by simp) (isResettable_counterKey resettable).1
  | reservation lock =>
    obtain ⟨endpoint, scope, identifier, rfl⟩ := lock.split
    have regrouped : counterKey endpoint scope identifier ++ ":inflight" =
        counterKey (endpoint ++ ":" ++ scope) identifier "inflight" := by
      simp [counterKey, String.append_assoc]
    rw [regrouped] at resettable
    exact absurd (by simp) (isResettable_counterKey resettable).1
  | eventLease _ _ => exact absurd (by decide) (isResettable_counterKey resettable).2.2
  | accountVersion _ => exact absurd (isResettable_counterKey resettable).2.1 (by decide)
  | chainVersion _ _ => exact absurd (by decide) (isResettable_counterKey resettable).1
  | userPolicies _ => exact absurd (isResettable_counterKey resettable).2.1 (by decide)
  | userPermissions _ => exact absurd (isResettable_counterKey resettable).2.1 (by decide)
  | single name known text =>
    have plain : ∀ name ∈ singleNames, ':' ∉ name.toList := by decide
    exact absurd resettable (not_isResettable_pair (plain name known) text.property)
  | alertSent event known _ =>
    exact absurd (isResettable_counterKey resettable).2.1 (alertEvents_plain event known).1
  | alertDedupe event known _ =>
    exact absurd (isResettable_counterKey resettable).2.1 (alertEvents_plain event known).1
  | alertRate event known =>
    have plain : ':' ∉ "alert_rate".toList := by decide
    exact absurd resettable (not_isResettable_pair plain (alertEvents_plain event known).2)

/-! ## The agreement -/

/-- What is listed is a counter and can be reset, and what can be deleted can be listed. -/
structure ListingAgrees (use : KeyUse) (key : String) : Prop where
  listed : ∀ call : ListCall, call.Genuine → call.Lists key → use.IsCounter ∧ Resets key
  deleted : CanDelete key → ∃ call : ListCall, call.Genuine ∧ call.Lists key

theorem not_listingAgrees_of_nested {use : KeyUse} {key : String}
    (recognised : isRateLimitKey key = true) (nested : isNested key = true) :
    ¬ListingAgrees use key := by
  intro agrees
  have resets := (agrees.listed _ (genuine_soleCall recognised) (soleCall_lists recognised)).2
  exact ((isResettable_iff key).mp ((resets_iff key).mp resets)).2 nested

/-- The two functions agree on the keys that do not have the shape of a counter's key, or have a
plain endpoint in it. -/
theorem listingAgrees_iff {use : KeyUse} {key : String} (written : Written use key) :
    ListingAgrees use key ↔ ¬(isRateLimitKey key = true ∧ isNested key = true) := by
  constructor
  · rintro agrees ⟨recognised, nested⟩
    exact not_listingAgrees_of_nested recognised nested agrees
  · intro plain
    refine ⟨fun call _ listed => ?_, fun deletable => ?_⟩
    · have recognised := isRateLimitKey_of_lists listed
      have resettable : isResettable key = true :=
        (isResettable_iff key).mpr ⟨recognised, fun nested => plain ⟨recognised, nested⟩⟩
      exact ⟨isCounter_of_isResettable written resettable, (resets_iff key).mpr resettable⟩
    · have recognised := ((isResettable_iff key).mp ((canDelete_iff key).mp deletable)).1
      exact ⟨soleCall key, genuine_soleCall recognised, soleCall_lists recognised⟩

theorem listingAgrees_login :
    ListingAgrees .requestCounter (counterKey "login" "ip" "1.2.3.4") :=
  (listingAgrees_iff (.rateLimited (.ip "login" "1.2.3.4"))).mpr (by decide +kernel)

/-- The marker of an audited denial is listed. -/
theorem listingAgrees_not_marker :
    Written .other ("rl_audited:" ++ counterKey "login" "ip" "1.2.3.4") ∧
      ¬ListingAgrees .other ("rl_audited:" ++ counterKey "login" "ip" "1.2.3.4") :=
  ⟨.auditedDenial (.ip "login" "1.2.3.4"),
    not_listingAgrees_of_nested (by decide +kernel) (by decide +kernel)⟩

end MysticAuth.RateLimits
