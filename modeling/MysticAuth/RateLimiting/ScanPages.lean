import MysticAuth.RateLimiting.ListedKeys
import MysticAuth.Sql.OrderedPages

/-!
# Pages of counters

The server may return a key more than once in a walk, and the dashboard does
not look for that.  A walk without repetitions gives exact pages, whether it is
walked again for each page or kept.
-/

set_option autoImplicit false

namespace MysticAuth.RateLimits

open Glob Python Scan

/-! ## Walks -/

theorem scanKeys_of_complete {replies : List Reply} (ends : Ends replies)
    {matched keys : List String} (walked : scanKeys replies matched = some (keys, false)) :
    keys = matched ++ returned replies := by
  induction ends generalizing matched with
  | last reply done =>
    simp only [scanKeys, done, if_true] at walked
    split at walked
    · cases walked
    · cases walked
      simp [returned]
  | more reply rest goesOn ends ih =>
    simp only [scanKeys, goesOn, if_false] at walked
    split at walked
    · cases walked
    · rw [ih walked, List.append_assoc]
      rfl

theorem scanKeys_ne_none {replies : List Reply} (ends : Ends replies) (matched : List String) :
    scanKeys replies matched ≠ none := by
  induction ends generalizing matched with
  | last reply done =>
    simp only [scanKeys, done, if_true]
    split <;> simp
  | more reply rest goesOn ends ih =>
    simp only [scanKeys, goesOn, if_false]
    split
    · simp
    · exact ih _

/-- The keys of a walk that have the shape of a counter's key, sorted. -/
def sortedCounters (replies : List Reply) : List String :=
  ((returned replies).filter isRateLimitKey).mergeSort fun a b => decide (a ≤ b)

theorem keys_of_complete {replies : List Reply} (ends : Ends replies) {now : Rat}
    {snapshot : Snapshot} (taken : takeSnapshot now replies = some snapshot)
    (complete : snapshot.truncated = false) : snapshot.keys = sortedCounters replies := by
  obtain ⟨⟨keys, truncated⟩, walked, rfl⟩ := Option.map_eq_some_iff.mp taken
  obtain rfl : truncated = false := complete
  have all := scanKeys_of_complete ends walked
  simp only [List.nil_append] at all
  rw [all]
  rfl

theorem isRateLimitKey_of_taken {replies : List Reply} {now : Rat} {snapshot : Snapshot}
    (taken : takeSnapshot now replies = some snapshot) :
    ∀ key ∈ snapshot.keys, isRateLimitKey key = true := by
  obtain ⟨walk, -, rfl⟩ := Option.map_eq_some_iff.mp taken
  intro key member
  exact (List.mem_filter.mp (List.mem_mergeSort.mp member)).2

theorem sorted_mergeSort (keys : List String) :
    (keys.mergeSort fun a b => decide (a ≤ b)).Pairwise (· ≤ ·) := by
  have sorted : (keys.mergeSort fun a b => decide (a ≤ b)).Pairwise fun a b =>
      decide (a ≤ b) = true :=
    List.pairwise_mergeSort (by simpa using fun a b c => le_trans) (by simpa using le_total) keys
  simpa using sorted

theorem sortedCounters_perm (replies : List Reply) :
    (sortedCounters replies).Perm ((returned replies).filter isRateLimitKey) :=
  List.mergeSort_perm _ _

/-! ## What is kept -/

section Store

variable (settings : LimitSettings) (tables : KeyTables) (keyspace : Keyspace)

def Matches (pattern key : String) : Prop :=
  key ∈ keyspace.keys ∧ globMatch pattern.toList key.toList = true

/-- A walk over the store that the server allows. -/
def Walked (pattern : String) (snapshot : Snapshot) : Prop :=
  ∃ (now : Rat) (replies : List Reply),
    Iteration (Matches keyspace pattern) replies ∧ takeSnapshot now replies = some snapshot

/-- The snapshots that are kept after some calls, while the store stays as it is. -/
inductive Reached : SnapshotCache → Prop where
  | start : Reached fun _ => none
  | listed {cache : SnapshotCache} (reached : Reached cache) (filters : LimitFilters) (page : Nat)
      (now : Rat) (replies : List Reply)
      (walk : Iteration (Matches keyspace (filters.pattern tables)) replies) :
      Reached (listActiveLimits settings tables keyspace filters page now cache replies).2
  | summarized {cache : SnapshotCache} (reached : Reached cache) (now : Rat) (replies : List Reply)
      (walk : Iteration (Matches keyspace summaryPattern) replies) :
      Reached (summarizeActiveLimits settings keyspace now cache replies).2

/-- The pattern whose walk is kept under a key. -/
inductive KeptUnder : String → String → Prop where
  | list (filters : LimitFilters) : KeptUnder (filters.cacheKey tables) (filters.pattern tables)
  | summary : KeptUnder summaryPattern summaryPattern

section Kept

variable {settings : LimitSettings} {tables : KeyTables} {keyspace : Keyspace}

theorem split_cacheKey (filters : LimitFilters) :
    rpartition? '|' (filters.cacheKey tables).toList =
      some ((filters.pattern tables).toList, (LimitKind.text filters.kind).toList) := by
  have texts : (filters.cacheKey tables).toList =
      (filters.pattern tables).toList ++ '|' :: (LimitKind.text filters.kind).toList := by
    simp [LimitFilters.cacheKey]
  rw [texts]
  refine rpartition?_append ?_
  cases filters.kind with
  | none => decide
  | some kind => cases kind <;> decide

/-- The text in front of the last `|`. -/
def readOff (text : List Char) : List Char :=
  match rpartition? '|' text with
  | some (front, _) => front
  | none => text

/-- The pattern can be read off the key. -/
theorem KeptUnder.unique {cacheKey pattern pattern' : String}
    (kept : KeptUnder tables cacheKey pattern) (kept' : KeptUnder tables cacheKey pattern') :
    pattern = pattern' := by
  have reads {pattern : String} (kept : KeptUnder tables cacheKey pattern) :
      readOff cacheKey.toList = pattern.toList := by
    cases kept with
    | list filters => simp only [readOff, split_cacheKey]
    | summary => rfl
  exact String.toList_inj.mp ((reads kept).symm.trans (reads kept'))

/-- What is kept comes from a walk for its pattern. -/
theorem walked_of_reached {cache : SnapshotCache} (reached : Reached settings tables keyspace cache)
    {cacheKey pattern : String} (kept : KeptUnder tables cacheKey pattern) {snapshot : Snapshot}
    (found : cache cacheKey = some snapshot) : Walked keyspace pattern snapshot := by
  induction reached with
  | start => cases found
  | listed reached filters page now replies walk ih =>
    simp only [listActiveLimits] at found
    split at found
    · exact ih found
    · split at found
      · exact ih found
      · rename_i taken
        dsimp only at found
        split at found
        · rename_i same
          subst same
          cases found
          rw [kept.unique (.list filters)]
          exact ⟨now, replies, walk, taken⟩
        · exact ih (Option.filter_eq_some_iff.mp found).1
  | summarized reached now replies walk ih =>
    simp only [summarizeActiveLimits] at found
    split at found
    · exact ih found
    · split at found
      · exact ih found
      · rename_i taken
        dsimp only at found
        by_cases same : cacheKey = summaryPattern
        · subst same
          rw [Function.update_self] at found
          cases found
          rw [kept.unique .summary]
          exact ⟨now, replies, walk, taken⟩
        · rw [Function.update_of_ne same] at found
          exact ih found

end Kept

/-! ## One page -/

def isOfKind (kind : Option LimitKind) (key : String) : Bool :=
  match kind with
  | none => true
  | some .loginLockouts => isLoginLockout key
  | some .atLimit =>
      (keyspace.readCount key).any fun count => count.any (reachesLimit settings key)

section Page

variable {settings : LimitSettings} {tables : KeyTables} {keyspace : Keyspace}

theorem filter_counts {matched : List String} {counts : List (Option Int)}
    (read : matched.mapM keyspace.readCount = some counts) :
    ((matched.zip counts).filter fun pair => pair.2.any (reachesLimit settings pair.1)).map
        Prod.fst = matched.filter (isOfKind settings keyspace (some .atLimit)) := by
  induction matched generalizing counts with
  | nil =>
    cases read
    rfl
  | cons key matched ih =>
    rw [List.mapM_cons] at read
    obtain ⟨count, first, read⟩ := Option.bind_eq_some_iff.mp read
    obtain ⟨rest, others, read⟩ := Option.bind_eq_some_iff.mp read
    cases read
    have kind : isOfKind settings keyspace (some .atLimit) key =
        count.any (reachesLimit settings key) := by
      simp [isOfKind, first]
    simp only [List.zip_cons_cons, List.filter_cons, kind]
    split
    · rw [List.map_cons, ih others]
    · exact ih others

theorem keysOfKind_eq {kind : Option LimitKind} {matched keys : List String}
    (chosen : keysOfKind settings keyspace kind matched = some keys) :
    keys = matched.filter (isOfKind settings keyspace kind) := by
  cases kind with
  | none =>
    cases chosen
    exact (List.filter_eq_self.mpr fun _ _ => rfl).symm
  | some kind =>
    cases kind with
    | loginLockouts =>
      cases chosen
      rfl
    | atLimit =>
      obtain ⟨counts, read, chosen⟩ := Option.bind_eq_some_iff.mp chosen
      cases chosen
      exact filter_counts read

/-- A page is a cut of what the keys of the kind hold. -/
theorem limitPage_eq {filters : LimitFilters} {page : Nat} {snapshot : Snapshot}
    {result : LimitPage} (shaped : ∀ key ∈ snapshot.keys, isRateLimitKey key = true)
    (shown : limitPage settings tables keyspace filters page snapshot = some result) :
    ∃ entries, (snapshot.keys.filter (isOfKind settings keyspace filters.kind)).mapM
        (limitEntry settings keyspace) = some entries ∧
      result = ⟨((sorted tables filters entries).drop ((page - 1) * filters.pageSize)).take
        filters.pageSize, entries.length, snapshot.truncated⟩ := by
  obtain ⟨matched, chosen, shown⟩ := Option.bind_eq_some_iff.mp shown
  obtain rfl := keysOfKind_eq chosen
  split at shown
  · rename_i nothing
    cases shown
    have empty : sorted tables filters [] = [] :=
      List.perm_nil.mp (sorted_perm tables filters [])
    exact ⟨[], by rw [nothing]; rfl, by simp [empty]⟩
  · obtain ⟨entries, made, shown⟩ := Option.bind_eq_some_iff.mp shown
    cases shown
    rw [List.filter_eq_self.mpr fun key member => shaped key (List.mem_filter.mp member).1] at made
    exact ⟨entries, made, by rw [(sorted_perm tables filters entries).length_eq]⟩

end Page

/-! ## A call and the keys that it is answered from -/

structure ScanCall where
  now : Rat
  cache : SnapshotCache
  replies : List Reply

/-- A snapshot that is kept and fresh, or what the server returns. -/
def ScanCall.source (call : ScanCall) (cacheKey : String) : List String :=
  match cachedSnapshot call.cache call.now cacheKey with
  | some snapshot => snapshot.keys
  | none => (returned call.replies).filter isRateLimitKey

structure ScanCall.Served (call : ScanCall) (pattern : String) : Prop where
  reached : Reached settings tables keyspace call.cache
  walk : Iteration (Matches keyspace pattern) call.replies

/-- The counters of the store that are asked for, each once. -/
def counters (pattern : String) (wanted : String → Bool) : List String :=
  keyspace.keys.filter fun key =>
    globMatch pattern.toList key.toList && isRateLimitKey key && wanted key

section Source

variable {settings : LimitSettings} {tables : KeyTables} {keyspace : Keyspace} {pattern : String}
  {wanted : String → Bool} {snapshot : Snapshot}

theorem nodup_counters : (counters keyspace pattern wanted).Nodup :=
  keyspace.distinct.filter _

theorem Walked.shaped (walked : Walked keyspace pattern snapshot) :
    ∀ key ∈ snapshot.keys, isRateLimitKey key = true := by
  obtain ⟨now, replies, -, taken⟩ := walked
  exact isRateLimitKey_of_taken taken

theorem Walked.sorted (walked : Walked keyspace pattern snapshot)
    (complete : snapshot.truncated = false) : snapshot.keys.Pairwise (· ≤ ·) := by
  obtain ⟨now, replies, walk, taken⟩ := walked
  rw [keys_of_complete walk.ends taken complete]
  exact sorted_mergeSort _

theorem Walked.mem_iff (walked : Walked keyspace pattern snapshot)
    (complete : snapshot.truncated = false) (key : String) :
    key ∈ snapshot.keys.filter wanted ↔ key ∈ counters keyspace pattern wanted := by
  obtain ⟨now, replies, walk, taken⟩ := walked
  rw [keys_of_complete walk.ends taken complete, List.mem_filter,
    (sortedCounters_perm replies).mem_iff, List.mem_filter, walk.returned_iff, counters,
    List.mem_filter, Matches]
  simp only [Bool.and_eq_true, and_assoc]

/-- The count is right if and only if nothing is repeated. -/
theorem Walked.length_eq_iff (walked : Walked keyspace pattern snapshot)
    (complete : snapshot.truncated = false) :
    (snapshot.keys.filter wanted).length = (counters keyspace pattern wanted).length ↔
      (snapshot.keys.filter wanted).Nodup := by
  constructor
  · intro same
    have subperm : (counters keyspace pattern wanted).Subperm (snapshot.keys.filter wanted) :=
      List.subperm_of_subset nodup_counters fun key => (walked.mem_iff complete key).mpr
    exact (subperm.perm_of_length_le same.le).nodup_iff.mp nodup_counters
  · intro distinct
    exact ((List.perm_ext_iff_of_nodup distinct nodup_counters).mpr
      (walked.mem_iff complete)).length_eq

/-- Without repetitions every walk gives the same list. -/
theorem Walked.keys_eq (walked : Walked keyspace pattern snapshot)
    (complete : snapshot.truncated = false) (distinct : (snapshot.keys.filter wanted).Nodup) :
    snapshot.keys.filter wanted =
      (counters keyspace pattern wanted).mergeSort fun a b => decide (a ≤ b) := by
  refine List.Perm.eq_of_pairwise (fun a b _ _ => le_antisymm)
    ((walked.sorted complete).filter _) (sorted_mergeSort _) ?_
  exact ((List.perm_ext_iff_of_nodup distinct nodup_counters).mpr (walked.mem_iff complete)).trans
    (List.mergeSort_perm _ _).symm

theorem walked_of_taken {call : ScanCall} (served : call.Served settings tables keyspace pattern)
    {cacheKey : String} (unkept : cachedSnapshot call.cache call.now cacheKey = none)
    (taken : takeSnapshot call.now call.replies = some snapshot) :
    Walked keyspace pattern snapshot ∧
      (snapshot.truncated = false → snapshot.keys.Perm (call.source cacheKey)) := by
  refine ⟨⟨call.now, call.replies, served.walk, taken⟩, fun complete => ?_⟩
  rw [keys_of_complete served.walk.ends taken complete, ScanCall.source, unkept]
  exact sortedCounters_perm call.replies

theorem walked_of_kept {call : ScanCall} (served : call.Served settings tables keyspace pattern)
    {cacheKey : String} (kept : KeptUnder tables cacheKey pattern)
    (found : cachedSnapshot call.cache call.now cacheKey = some snapshot) :
    Walked keyspace pattern snapshot ∧
      (snapshot.truncated = false → snapshot.keys.Perm (call.source cacheKey)) := by
  refine ⟨walked_of_reached served.reached kept (Option.filter_eq_some_iff.mp found).1, fun _ => ?_⟩
  rw [ScanCall.source, found]

theorem takeSnapshot_ne_none {call : ScanCall}
    (served : call.Served settings tables keyspace pattern) :
    takeSnapshot call.now call.replies ≠ none := by
  simp [takeSnapshot, scanKeys_ne_none served.walk.ends]

end Source

/-! ## All pages -/

/-- Pages enough for all entries, each asked for on its own, and none of them truncated. -/
structure PagesRead (filters : LimitFilters) (calls : Nat → ScanCall) (pages : Nat → LimitPage)
    (count : Nat) : Prop where
  first : 0 < count
  served : ∀ i < count, (calls i).Served settings tables keyspace (filters.pattern tables)
  shown : ∀ i < count, (listActiveLimits settings tables keyspace filters (i + 1) (calls i).now
    (calls i).cache (calls i).replies).1 = some (pages i)
  complete : ∀ i < count, (pages i).truncated = false
  enough : ∀ i < count, (pages i).total ≤ count * filters.pageSize

structure SummaryRead (call : ScanCall) (summary : LimitSummary) : Prop where
  served : call.Served settings tables keyspace summaryPattern
  shown : (summarizeActiveLimits settings keyspace call.now call.cache call.replies).1 = some summary
  complete : summary.truncated = false

def wantedCounters (filters : LimitFilters) : List String :=
  counters keyspace (filters.pattern tables) (isOfKind settings keyspace filters.kind)

/-- Each page reports their number, and together the pages have each of them once. -/
structure PagesExact (filters : LimitFilters) (pages : Nat → LimitPage) (count : Nat) : Prop where
  total : ∀ i < count, (pages i).total = (wantedCounters settings tables keyspace filters).length
  once : (((List.range count).flatMap fun i => (pages i).entries).map LimitEntry.key).Perm
    (wantedCounters settings tables keyspace filters)

/-- What a page is made from. -/
structure MadeFrom (filters : LimitFilters) (call : ScanCall) (page : Nat) (result : LimitPage)
    (snapshot : Snapshot) (entries : List LimitEntry) : Prop where
  walked : Walked keyspace (filters.pattern tables) snapshot
  complete : snapshot.truncated = false
  source : snapshot.keys.Perm (call.source (filters.cacheKey tables))
  read : (snapshot.keys.filter (isOfKind settings keyspace filters.kind)).mapM
    (limitEntry settings keyspace) = some entries
  cut : result.entries =
    ((sorted tables filters entries).drop ((page - 1) * filters.pageSize)).take filters.pageSize
  total : result.total = entries.length

section Pages

variable {settings : LimitSettings} {tables : KeyTables} {keyspace : Keyspace}
  {filters : LimitFilters}

theorem exists_madeFrom {call : ScanCall} {page : Nat} {result : LimitPage}
    (served : call.Served settings tables keyspace (filters.pattern tables))
    (shown : (listActiveLimits settings tables keyspace filters page call.now call.cache
      call.replies).1 = some result) (complete : result.truncated = false) :
    ∃ snapshot entries, MadeFrom settings tables keyspace filters call page result snapshot entries := by
  have ofSnapshot {snapshot : Snapshot}
      (walked : Walked keyspace (filters.pattern tables) snapshot ∧ (snapshot.truncated = false →
        snapshot.keys.Perm (call.source (filters.cacheKey tables))))
      (shown : limitPage settings tables keyspace filters page snapshot = some result) :
      ∃ snapshot entries, MadeFrom settings tables keyspace filters call page result snapshot entries := by
    obtain ⟨entries, read, rfl⟩ := limitPage_eq walked.1.shaped shown
    exact ⟨snapshot, entries, walked.1, complete, walked.2 complete, read, rfl, rfl⟩
  simp only [listActiveLimits] at shown
  split at shown
  · rename_i found
    exact ofSnapshot (walked_of_kept served (.list filters) found) shown
  · rename_i unkept
    split at shown
    · rename_i failed
      exact absurd failed (takeSnapshot_ne_none served)
    · rename_i taken
      exact ofSnapshot (walked_of_taken served unkept taken) shown

/-- Without repetitions every page is made from the same entries. -/
theorem MadeFrom.read_sorted {call : ScanCall} {page : Nat} {result : LimitPage}
    {snapshot : Snapshot} {entries : List LimitEntry}
    (made : MadeFrom settings tables keyspace filters call page result snapshot entries)
    (distinct : ((call.source (filters.cacheKey tables)).filter
      (isOfKind settings keyspace filters.kind)).Nodup) :
    ((wantedCounters settings tables keyspace filters).mergeSort
      fun a b => decide (a ≤ b)).mapM (limitEntry settings keyspace) = some entries := by
  have keys := made.walked.keys_eq made.complete ((made.source.filter _).nodup_iff.mpr distinct)
  rw [wantedCounters, ← keys]
  exact made.read

theorem pagesExact_iff {calls : Nat → ScanCall} {pages : Nat → LimitPage} {count : Nat}
    (read : PagesRead settings tables keyspace filters calls pages count) :
    PagesExact settings tables keyspace filters pages count ↔
      ∀ i < count, (((calls i).source (filters.cacheKey tables)).filter
        (isOfKind settings keyspace filters.kind)).Nodup := by
  have made (i : Nat) (within : i < count) :=
    exists_madeFrom (read.served i within) (read.shown i within) (read.complete i within)
  constructor
  · intro exact i within
    obtain ⟨snapshot, entries, made⟩ := made i within
    have lengths : (snapshot.keys.filter (isOfKind settings keyspace filters.kind)).length =
        (wantedCounters settings tables keyspace filters).length := by
      rw [← exact.total i within, made.total, ← map_key_of_mapM made.read, List.length_map]
    exact (made.source.filter _).nodup_iff.mp ((made.walked.length_eq_iff made.complete).mp lengths)
  · intro distinct
    obtain ⟨_, entries, made0⟩ := made 0 read.first
    have read0 := made0.read_sorted (distinct 0 read.first)
    have keysPerm : (entries.map LimitEntry.key).Perm
        (wantedCounters settings tables keyspace filters) :=
      map_key_of_mapM read0 ▸ List.mergeSort_perm _ _
    have cuts (i : Nat) (within : i < count) : (pages i).total = entries.length ∧
        (pages i).entries =
          ((sorted tables filters entries).drop (i * filters.pageSize)).take filters.pageSize := by
      obtain ⟨snapshot, entries', made'⟩ := made i within
      obtain rfl : entries = entries' :=
        Option.some.inj (read0.symm.trans (made'.read_sorted (distinct i within)))
      exact ⟨made'.total, made'.cut⟩
    refine ⟨fun i within => ?_, ?_⟩
    · rw [(cuts i within).1, ← keysPerm.length_eq, List.length_map]
    · have joined : ((List.range count).flatMap fun i => (pages i).entries) =
          sorted tables filters entries := by
        rw [List.flatMap_congr fun i member => (cuts i (List.mem_range.mp member)).2,
          Sql.flatMap_take_drop, List.take_of_length_le]
        rw [(sorted_perm tables filters entries).length_eq, ← (cuts 0 read.first).1]
        exact read.enough 0 read.first
      rw [joined]
      exact ((sorted_perm tables filters entries).map _).trans keysPerm

theorem summaryTotal_iff {call : ScanCall} {summary : LimitSummary}
    (read : SummaryRead settings tables keyspace call summary) :
    summary.total = (counters keyspace summaryPattern fun _ => true).length ↔
      (call.source summaryPattern).Nodup := by
  have ofSnapshot {snapshot : Snapshot}
      (walked : Walked keyspace summaryPattern snapshot ∧ (snapshot.truncated = false →
        snapshot.keys.Perm (call.source summaryPattern)))
      (shown : limitSummary settings keyspace snapshot = some summary) :
      summary.total = (counters keyspace summaryPattern fun _ => true).length ↔
        (call.source summaryPattern).Nodup := by
    have parts : summary.total = snapshot.keys.length ∧ summary.truncated = snapshot.truncated := by
      unfold limitSummary at shown
      split at shown
      · rename_i nothing
        cases shown
        exact ⟨by rw [nothing]; rfl, rfl⟩
      · obtain ⟨values, -, shown⟩ := Option.bind_eq_some_iff.mp shown
        cases shown
        exact ⟨rfl, rfl⟩
    have complete : snapshot.truncated = false := parts.2.symm.trans read.complete
    have exact : (snapshot.keys.filter fun _ => true).length =
        (counters keyspace summaryPattern fun _ => true).length ↔
          (snapshot.keys.filter fun _ => true).Nodup :=
      walked.1.length_eq_iff complete
    rw [List.filter_true] at exact
    rw [parts.1, exact, (walked.2 complete).nodup_iff]
  have shown := read.shown
  simp only [summarizeActiveLimits] at shown
  split at shown
  · rename_i found
    exact ofSnapshot (walked_of_kept read.served .summary found) shown
  · rename_i unkept
    split at shown
    · rename_i failed
      exact absurd failed (takeSnapshot_ne_none read.served)
    · rename_i taken
      exact ofSnapshot (walked_of_taken read.served unkept taken) shown

/-- Pages and totals are exact if and only if no counter that is asked for comes twice among the
keys that an answer is made from. -/
theorem paging_exact_iff {calls : Nat → ScanCall} {pages : Nat → LimitPage} {count : Nat}
    {summaryCall : ScanCall} {summary : LimitSummary}
    (read : PagesRead settings tables keyspace filters calls pages count)
    (readSummary : SummaryRead settings tables keyspace summaryCall summary) :
    (PagesExact settings tables keyspace filters pages count ↔
        ∀ i < count, (((calls i).source (filters.cacheKey tables)).filter
          (isOfKind settings keyspace filters.kind)).Nodup) ∧
      (summary.total = (counters keyspace summaryPattern fun _ => true).length ↔
        (summaryCall.source summaryPattern).Nodup) :=
  ⟨pagesExact_iff read, summaryTotal_iff readSummary⟩

end Pages

end Store

/-! ## Counters, returned once or twice -/

/-- Where every value is a number a page is shown. -/
theorem exists_limitPage (settings : LimitSettings) (tables : KeyTables) {keyspace : Keyspace}
    (numeric : ∀ key, ∃ count, keyspace.value key = .integer count) (filters : LimitFilters)
    (anyKind : filters.kind = none) (page : Nat) {snapshot : Snapshot}
    (shaped : ∀ key ∈ snapshot.keys, isRateLimitKey key = true) :
    ∃ result, limitPage settings tables keyspace filters page snapshot = some result ∧
      result.truncated = snapshot.truncated ∧ result.total = snapshot.keys.length := by
  have entry (key : String) (recognised : isRateLimitKey key = true) :
      ∃ entry, limitEntry settings keyspace key = some entry := by
    obtain ⟨parts, found, -⟩ := (isRateLimitKey_iff key).mp recognised
    obtain ⟨count, isCount⟩ := numeric key
    by_cases present : key ∈ keyspace.keys <;>
      simp [limitEntry, found, Keyspace.readCount, present, isCount]
  have entries (keys : List String) (recognised : ∀ key ∈ keys, isRateLimitKey key = true) :
      ∃ entries, keys.mapM (limitEntry settings keyspace) = some entries := by
    induction keys with
    | nil => exact ⟨[], rfl⟩
    | cons key rest ih =>
      obtain ⟨first, others⟩ := List.forall_mem_cons.mp recognised
      obtain ⟨entry, made⟩ := entry key first
      obtain ⟨entries, read⟩ := ih others
      exact ⟨entry :: entries, by simp [made, read]⟩
  obtain ⟨entries, made⟩ := entries snapshot.keys shaped
  have kept : snapshot.keys.filter isRateLimitKey = snapshot.keys :=
    List.filter_eq_self.mpr shaped
  have count := congrArg List.length (map_key_of_mapM made)
  rw [List.length_map] at count
  by_cases nothing : snapshot.keys = []
  · refine ⟨⟨[], 0, snapshot.truncated⟩, ?_, rfl, by rw [nothing]; rfl⟩
    simp [limitPage, keysOfKind, anyKind, nothing]
  · refine ⟨⟨((sorted tables filters entries).drop ((page - 1) * filters.pageSize)).take
      filters.pageSize, (sorted tables filters entries).length, snapshot.truncated⟩, ?_, rfl, ?_⟩
    · simp only [limitPage, keysOfKind, anyKind, Option.bind_eq_bind, Option.bind_some, nothing,
        if_false, kept, made]
    · rw [(sorted_perm tables filters entries).length_eq, count]

def loginCounter : String :=
  counterKey "login" "ip" "1.2.3.4"

def signupCounter : String :=
  counterKey "signup" "ip" "1.2.3.4"

def storeOf (keys : List String) (distinct : keys.Nodup) : Keyspace :=
  ⟨keys, distinct, fun _ => .integer 1, fun _ => 60⟩

theorem storeOf_numeric (keys : List String) (distinct : keys.Nodup) (key : String) :
    ∃ count, (storeOf keys distinct).value key = .integer count :=
  ⟨1, rfl⟩

def soleStore : Keyspace :=
  storeOf [loginCounter] (List.nodup_singleton _)

def pairStore : Keyspace :=
  storeOf [loginCounter, signupCounter] (by decide +kernel)

def plainSettings : LimitSettings :=
  (soleCall loginCounter).settings

/-- A first call. -/
def firstCall (replies : List Reply) : ScanCall :=
  ⟨0, fun _ => none, replies⟩

theorem isRateLimitKey_loginCounter : isRateLimitKey loginCounter = true := by
  decide +kernel

theorem isRateLimitKey_signupCounter : isRateLimitKey signupCounter = true := by
  decide +kernel

/-! Two counters on two pages.  The second page is made from the walk that the first one kept. -/

def onePerPage : LimitFilters :=
  { noFilters with pageSize := 1 }

def returnedOnce : List Reply :=
  [⟨7, [loginCounter]⟩, ⟨0, [signupCounter]⟩]

theorem iteration_once : Iteration (Matches pairStore "*:*:*") returnedOnce := by
  have login : globMatch "*:*:*".toList loginCounter.toList = true := by
    decide +kernel
  have signup : globMatch "*:*:*".toList signupCounter.toList = true := by
    decide +kernel
  refine ⟨.more _ _ (by decide) (.last _ rfl), fun key => ?_⟩
  simp only [Matches, pairStore, storeOf, returned, returnedOnce, List.flatMap_cons,
    List.flatMap_nil, List.append_nil, List.singleton_append]
  refine ⟨fun listed => ⟨listed, ?_⟩, And.left⟩
  rcases List.mem_pair.mp listed with rfl | rfl
  · exact login
  · exact signup

def keptOnce : Snapshot :=
  ⟨0, [loginCounter, signupCounter], false⟩

theorem takeSnapshot_once : takeSnapshot 0 returnedOnce = some keptOnce := by
  have sorted : ([loginCounter, signupCounter].mergeSort fun a b => decide (a ≤ b)) =
      [loginCounter, signupCounter] :=
    List.mergeSort_of_pairwise (by decide +kernel)
  simp [takeSnapshot, scanKeys, returnedOnce, keptOnce, maxScannedKeys,
    isRateLimitKey_loginCounter, isRateLimitKey_signupCounter, sorted]

/-- The first page is asked for at the start, the second one a second later. -/
def pagingCall (index : Nat) : ScanCall :=
  match index with
  | 0 => firstCall returnedOnce
  | _ => ⟨1, (listActiveLimits plainSettings hexTables pairStore onePerPage 1 0 (fun _ => none)
      returnedOnce).2, returnedOnce⟩

theorem cachedSnapshot_pagingCall : cachedSnapshot (pagingCall 1).cache 1
    (onePerPage.cacheKey hexTables) = some keptOnce := by
  have soon : (1 : Rat) < 5 := by
    decide
  simp [pagingCall, listActiveLimits, cachedSnapshot, takeSnapshot_once, keptOnce, isFresh,
    scanSnapshotTtlSeconds, soon]

theorem exists_pages : ∃ pages : Nat → LimitPage,
    PagesRead plainSettings hexTables pairStore onePerPage pagingCall pages 2 := by
  have page (index : Nat) : ∃ result, limitPage plainSettings hexTables pairStore onePerPage
      (index + 1) keptOnce = some result ∧ result.truncated = false ∧ result.total = 2 :=
    exists_limitPage plainSettings hexTables (storeOf_numeric _ _) onePerPage rfl (index + 1)
      (by decide +kernel)
  choose pages shown complete total using page
  refine ⟨pages, Nat.two_pos, ?_, ?_, fun index _ => complete index, fun index _ => ?_⟩
  · intro index within
    cases index with
    | zero => exact ⟨.start, iteration_once⟩
    | succ index => exact ⟨.listed .start onePerPage 1 0 returnedOnce iteration_once, iteration_once⟩
  · intro index within
    rw [← shown index]
    obtain rfl | rfl : index = 0 ∨ index = 1 := by omega
    · simp [pagingCall, firstCall, listActiveLimits, cachedSnapshot, takeSnapshot_once]
    · have kept := cachedSnapshot_pagingCall
      simp only [listActiveLimits, kept, show (pagingCall 1).now = 1 from rfl]
  · rw [total]
    decide

theorem exists_summary : ∃ summary,
    SummaryRead plainSettings hexTables pairStore (firstCall returnedOnce) summary := by
  have readLogin : pairStore.readCount loginCounter = some (some 1) := by
    simp [Keyspace.readCount, pairStore, storeOf]
  have readSignup : pairStore.readCount signupCounter = some (some 1) := by
    simp [Keyspace.readCount, pairStore, storeOf]
  refine ⟨_, ⟨.start, iteration_once⟩, by
    simp only [firstCall, summarizeActiveLimits, cachedSnapshot, Option.filter_none,
      takeSnapshot_once, keptOnce, limitSummary, List.mapM_cons, List.mapM_nil, readLogin,
      readSignup, List.cons_ne_nil, if_false, Option.bind_eq_bind, Option.bind_some,
      Option.pure_def]
    rfl, rfl⟩

theorem paging_exact_twoPages :
    ∃ (pages : Nat → LimitPage) (summary : LimitSummary),
      PagesExact plainSettings hexTables pairStore onePerPage pages 2 ∧
        summary.total = (counters pairStore summaryPattern fun _ => true).length := by
  obtain ⟨pages, read⟩ := exists_pages
  obtain ⟨summary, readSummary⟩ := exists_summary
  have exact := paging_exact_iff read readSummary
  have distinct : ((returned returnedOnce).filter isRateLimitKey).Nodup := by
    decide +kernel
  refine ⟨pages, summary, exact.1.mpr fun index within => List.Nodup.filter _ ?_,
    exact.2.mpr distinct⟩
  obtain rfl | rfl : index = 0 ∨ index = 1 := by omega
  · exact distinct
  · have kept : cachedSnapshot (pagingCall 1).cache (pagingCall 1).now
        (onePerPage.cacheKey hexTables) = some keptOnce := cachedSnapshot_pagingCall
    rw [ScanCall.source, kept]
    decide +kernel

/-! One counter, which the second reply repeats. -/

def returnedTwice : List Reply :=
  [⟨7, [loginCounter]⟩, ⟨0, [loginCounter]⟩]

theorem iteration_twice : Iteration (Matches soleStore "*:*:*") returnedTwice := by
  have own : globMatch "*:*:*".toList loginCounter.toList = true := by
    decide +kernel
  refine ⟨.more _ _ (by decide) (.last _ rfl), fun key => ?_⟩
  simp only [Matches, soleStore, storeOf, returned, returnedTwice, List.flatMap_cons,
    List.flatMap_nil, List.append_nil, List.singleton_append, List.mem_cons, List.not_mem_nil,
    or_false, or_self]
  exact ⟨fun same => ⟨same, same ▸ own⟩, And.left⟩

theorem takeSnapshot_twice :
    takeSnapshot 0 returnedTwice = some ⟨0, [loginCounter, loginCounter], false⟩ := by
  have sorted : ([loginCounter, loginCounter].mergeSort fun a b => decide (a ≤ b)) =
      [loginCounter, loginCounter] :=
    List.mergeSort_of_pairwise (by simp)
  simp [takeSnapshot, scanKeys, returnedTwice, maxScannedKeys, isRateLimitKey_loginCounter, sorted]

/-- The counter is on the page twice. -/
theorem repeated_counter_shown :
    ∃ page : LimitPage,
      PagesRead plainSettings hexTables soleStore noFilters (fun _ => firstCall returnedTwice)
          (fun _ => page) 1 ∧
        ¬PagesExact plainSettings hexTables soleStore noFilters (fun _ => page) 1 := by
  obtain ⟨page, shown, complete, total⟩ : ∃ result, limitPage plainSettings hexTables soleStore
      noFilters 1 ⟨0, [loginCounter, loginCounter], false⟩ = some result ∧
        result.truncated = false ∧ result.total = 2 :=
    exists_limitPage plainSettings hexTables (storeOf_numeric _ _) noFilters rfl 1
      (by simp [isRateLimitKey_loginCounter])
  have read : PagesRead plainSettings hexTables soleStore noFilters
      (fun _ => firstCall returnedTwice) (fun _ => page) 1 := by
    refine ⟨Nat.one_pos, fun _ _ => ⟨.start, iteration_twice⟩, fun index within => ?_,
      fun _ _ => complete, fun _ _ => ?_⟩
    · obtain rfl : index = 0 := by omega
      simpa [firstCall, listActiveLimits, cachedSnapshot, takeSnapshot_twice] using shown
    · rw [total]
      decide
  refine ⟨page, read, fun exact => ?_⟩
  have distinct := (pagesExact_iff read).mp exact 0 Nat.one_pos
  simp [ScanCall.source, firstCall, cachedSnapshot, returned, returnedTwice,
    isRateLimitKey_loginCounter, isOfKind, noFilters, List.filter_cons] at distinct

end MysticAuth.RateLimits
