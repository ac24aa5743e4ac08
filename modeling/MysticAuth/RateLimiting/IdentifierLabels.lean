import MysticAuth.Accounts.AccountSeparation
import MysticAuth.Python.Dictionaries
import MysticAuth.RateLimiting.Dashboard
import MysticAuth.Security.IpBuckets
import MysticAuth.Sql.KeysetPages
import Mathlib.Data.List.Dedup

/-!
# Labels for digests

Counters are kept under digests of email addresses.  The dashboard finds the
accounts again: it computes the digests of all accounts, page by page, and of
the recent failed attempts, and compares.
-/

set_option autoImplicit false

namespace MysticAuth.RateLimits

open ClientIp Dictionaries Sql

/-! ## Digests -/

section Digests

variable (tables : KeyTables)

/-- `account_ip_digest`; `none` is an exception of `ip_bucket`. -/
def accountIpDigest (email : String) (clientIp purpose : Option String) : Option String :=
  (ipBucket clientIp).map fun bucket =>
    let parts := [tables.foldedEmail email, bucket]
    let parts := match purpose with
      | none | some "" => parts
      | some purpose => purpose :: parts
    tables.hmacHex (String.intercalate "\x00" parts)

/-- `_PAIR_PURPOSES` -/
def pairPurposes : List (Option String) :=
  [none, some "stepup"]

/-- `ACCOUNT_SCOPES` -/
def accountScopes : List String :=
  ["account", "email"]

/-- `PAIR_SCOPE` -/
def pairScope : String :=
  "account_ip"

/-- `PAIR_LOOKBACK`, in microseconds. -/
def pairLookback : Int :=
  24 * 3600 * 1000000

/-- `MAX_PAIR_CANDIDATES` -/
def maxPairCandidates : Nat :=
  5000

/-- `_USER_BATCH` -/
def userBatch : Nat :=
  1000

/-! ## Accounts -/

/-- `SELECT id, email FROM users` -/
structure UserAddress where
  id : Nat
  email : String
  deriving DecidableEq

/-- `found[digest] = email` for the digests that are wanted. -/
def foundEmails (wanted : List String) (rows : List UserAddress) : List (String × String) :=
  fill (fun row : UserAddress => tables.emailKeyId row.email) (fun row _ => row.email)
    (rows.filter fun row => tables.emailKeyId row.email ∈ wanted)

/-- The users at each statement are given; `none` is a loop that still runs. -/
def emailsForDigests (snapshots : List (List UserAddress)) (wanted : List String) :
    Option (List (String × String)) :=
  (keysetWalk UserAddress.id userBatch
    (fun rows => decide (wanted.length ≤ (foundEmails tables wanted rows).length)) snapshots 0
    []).map (foundEmails tables wanted)

/-! ## Pairs -/

/-- What the query reads of a row of the audit log. -/
structure AuditRow where
  userEmail : Option String
  ipAddress : Option String
  success : Bool
  createdAt : Int

/-- `WHERE` -/
def failedPairs (now : Int) (log : List AuditRow) : List (String × String) :=
  log.filterMap fun row =>
    if !row.success && decide (now - pairLookback ≤ row.createdAt) then
      row.userEmail.bind fun email => row.ipAddress.map fun ip => (email, ip)
    else none

/-- `SELECT DISTINCT ... LIMIT` without an order. -/
structure PairAnswer (now : Int) (log : List AuditRow) (pairs : List (String × String)) : Prop where
  distinct : pairs.Nodup
  selected : ∀ pair ∈ pairs, pair ∈ failedPairs now log
  limited : pairs.length = min maxPairCandidates (failedPairs now log).dedup.length

def pairLabel (pair : String × String) : String :=
  s!"{pair.1} from {pair.2}"

/-- The digests of all pairs for all purposes; `none` is an exception. -/
def pairDigests (pairs : List (String × String)) : Option (List (String × String × String)) :=
  (pairs.flatMap fun pair => pairPurposes.map fun purpose => (pair, purpose)).mapM fun candidate =>
    (accountIpDigest tables candidate.1.1 (some candidate.1.2) candidate.2).map fun digest =>
      (digest, candidate.1)

def pairsForDigests (pairs : List (String × String)) (wanted : List String) :
    Option (List (String × String)) :=
  (pairDigests tables pairs).map fun digests =>
    fill Prod.fst (fun candidate _ => pairLabel candidate.2)
      (digests.filter fun candidate => candidate.1 ∈ wanted)

/-! ## Entries -/

inductive Unfinished where
  /-- the loop over the accounts still runs -/
  | running
  | exception
  deriving DecidableEq

def wantedIn (isScope : String → Bool) (entries : List LimitEntry) : List String :=
  ((entries.filter fun entry => isScope entry.scope).map LimitEntry.identifier).dedup

/-- A loop is skipped where nothing is wanted of it. -/
def asked (failure : Unfinished) (wanted : List String) (answer : Option (List (String × String))) :
    Except Unfinished (List (String × String)) :=
  if wanted = [] then .ok [] else answer.elim (.error failure) .ok

def collectLabels (snapshots : List (List UserAddress)) (pairs : List (String × String))
    (entries : List LimitEntry) : Except Unfinished (List ((String × String) × String)) := do
  let accountWanted := wantedIn accountScopes.contains entries
  let pairWanted := wantedIn (· == pairScope) entries
  let emails ← asked .running accountWanted (emailsForDigests tables snapshots accountWanted)
  let found ← asked .exception pairWanted (pairsForDigests tables pairs pairWanted)
  .ok (emails.map (fun item => (("account", item.1), item.2)) ++
    found.map (fun item => ((pairScope, item.1), item.2)))

def labelKind (scope : String) : String :=
  if scope = pairScope then pairScope else "account"

/-- `add_identifier_labels`: each entry with its label. -/
def addIdentifierLabels (snapshots : List (List UserAddress)) (pairs : List (String × String))
    (entries : List LimitEntry) : Except Unfinished (List (LimitEntry × Option String)) := do
  let labels ← collectLabels tables snapshots pairs entries
  .ok (entries.map fun entry =>
    (entry, labels.lookup (labelKind entry.scope, entry.identifier)))

end Digests

/-! ## Digests of accounts -/

section Accounts

variable {tables : KeyTables} {wanted : List String} {snapshots : List (List UserAddress)}
  {emails : List (String × String)}

theorem foundEmails_sound {rows : List UserAddress} {digest email : String}
    (found : (foundEmails tables wanted rows).lookup digest = some email) :
    tables.emailKeyId email = digest ∧ ∃ row ∈ rows, row.email = email := by
  obtain ⟨row, kept, own, same⟩ := lookup_overwrite _ found
  subst same
  exact ⟨own, row, (List.mem_filter.mp kept).1, rfl⟩

theorem foundEmails_ne_none {rows : List UserAddress} {row : UserAddress} (member : row ∈ rows)
    (isWanted : tables.emailKeyId row.email ∈ wanted) :
    (foundEmails tables wanted rows).lookup (tables.emailKeyId row.email) ≠ none := by
  rw [foundEmails, lookup_fill_ne_none]
  exact ⟨row, List.mem_filter.mpr ⟨member, by simpa using isWanted⟩, rfl⟩

/-- As many as are wanted are all that are wanted. -/
theorem found_of_enough {rows : List UserAddress} {digest : String}
    (enough : wanted.length ≤ (foundEmails tables wanted rows).length) (isWanted : digest ∈ wanted) :
    (foundEmails tables wanted rows).lookup digest ≠ none := by
  have inside : (foundEmails tables wanted rows).map Prod.fst ⊆ wanted := by
    intro key member
    rw [foundEmails, mem_keys_fill] at member
    obtain ⟨row, kept, rfl⟩ := member
    simpa using (List.mem_filter.mp kept).2
  have distinct : ((foundEmails tables wanted rows).map Prod.fst).Nodup := nodup_keys_fill _ _ _
  have same := (List.subperm_of_subset distinct inside).perm_of_length_le
    (by simpa using enough)
  rw [← Option.isSome_iff_ne_none, lookup_isSome]
  exact same.mem_iff.mpr isWanted

theorem emailsForDigests_sound (keys : ∀ rows ∈ snapshots, (rows.map UserAddress.id).Nodup)
    (answered : emailsForDigests tables snapshots wanted = some emails) {digest email : String}
    (found : emails.lookup digest = some email) :
    tables.emailKeyId email = digest ∧ ∃ rows ∈ snapshots, ∃ row ∈ rows, row.email = email := by
  obtain ⟨visited, walked, rfl⟩ := Option.map_eq_some_iff.mp answered
  obtain ⟨own, row, member, same⟩ := foundEmails_sound found
  obtain ⟨more, all, -, sound⟩ := keysetWalk_sound keys walked
  rw [all, List.nil_append] at member
  obtain ⟨-, rows, listed, present⟩ := sound row member
  exact ⟨own, rows, listed, row, present, same⟩

theorem emailsForDigests_complete (keys : ∀ rows ∈ snapshots, (rows.map UserAddress.id).Nodup)
    (answered : emailsForDigests tables snapshots wanted = some emails) {row : UserAddress}
    (present : ∀ rows ∈ snapshots, row ∈ rows) (positive : 0 < row.id)
    (isWanted : tables.emailKeyId row.email ∈ wanted) :
    emails.lookup (tables.emailKeyId row.email) ≠ none := by
  obtain ⟨visited, walked, rfl⟩ := Option.map_eq_some_iff.mp answered
  by_cases enough : wanted.length ≤ (foundEmails tables wanted visited).length
  · exact found_of_enough enough isWanted
  · apply foundEmails_ne_none _ isWanted
    apply keysetWalk_complete (by decide) keys walked _ present positive
    simpa using enough

variable (tables wanted) in
theorem emailsForDigests_ends {bound : Nat}
    (bounded : ∀ rows ∈ snapshots, ∀ row ∈ rows, row.id ≤ bound)
    (long : bound < snapshots.length) : emailsForDigests tables snapshots wanted ≠ none := by
  rw [emailsForDigests, Ne, Option.map_eq_none_iff]
  exact keysetWalk_ends bounded (Nat.zero_le bound) long

end Accounts

/-! ## Digests of pairs -/

section Pairs

variable {tables : KeyTables} {pairs : List (String × String)} {wanted : List String}

theorem mapM_eq_some_iff {α β : Type} {f : α → Option β} {items : List α} {results : List β} :
    items.mapM f = some results ↔ items.map f = results.map some := by
  induction items generalizing results with
  | nil => cases results <;> simp
  | cons item items ih =>
    rw [List.mapM_cons, Option.bind_eq_bind, Option.bind_eq_some_iff]
    simp only [Option.bind_eq_bind, Option.bind_eq_some_iff, Option.pure_def, Option.some.injEq, ih]
    cases results with
    | nil => simp
    | cons result results => simp

theorem mapM_eq_none_iff {α β : Type} {f : α → Option β} {items : List α} :
    items.mapM f = none ↔ ∃ item ∈ items, f item = none := by
  induction items with
  | nil => simp
  | cons item items ih =>
    rw [List.mapM_cons]
    cases head : f item with
    | none => simp [head]
    | some made => cases rest : items.mapM f <;> simp [head, ← ih, rest]

theorem mem_pairDigests {digests : List (String × String × String)}
    (made : pairDigests tables pairs = some digests) {digest : String} {pair : String × String} :
    (digest, pair) ∈ digests ↔ pair ∈ pairs ∧
      ∃ purpose ∈ pairPurposes, accountIpDigest tables pair.1 (some pair.2) purpose = some digest := by
  rw [← List.mem_map_of_injective (Option.some_injective _), ← mapM_eq_some_iff.mp made]
  constructor
  · intro member
    obtain ⟨candidate, listed, same⟩ := List.mem_map.mp member
    obtain ⟨own, inPairs, inPurposes⟩ := List.mem_flatMap.mp listed
    obtain ⟨purpose, isPurpose, rfl⟩ := List.mem_map.mp inPurposes
    obtain ⟨other, computed, rest⟩ := Option.map_eq_some_iff.mp same
    cases rest
    exact ⟨inPairs, purpose, isPurpose, computed⟩
  · rintro ⟨inPairs, purpose, isPurpose, computed⟩
    apply List.mem_map.mpr
    refine ⟨(pair, purpose), List.mem_flatMap.mpr ⟨pair, inPairs, ?_⟩, by rw [computed]; rfl⟩
    exact List.mem_map.mpr ⟨purpose, isPurpose, rfl⟩

theorem pairsForDigests_sound {found : List (String × String)}
    (answered : pairsForDigests tables pairs wanted = some found) {digest label : String}
    (labelled : found.lookup digest = some label) :
    ∃ pair ∈ pairs, pairLabel pair = label ∧
      ∃ purpose ∈ pairPurposes, accountIpDigest tables pair.1 (some pair.2) purpose = some digest := by
  obtain ⟨digests, made, rfl⟩ := Option.map_eq_some_iff.mp answered
  obtain ⟨candidate, kept, own, same⟩ := lookup_overwrite _ labelled
  obtain ⟨computed, pair⟩ := candidate
  subst own
  have origin := (mem_pairDigests made).mp (List.mem_filter.mp kept).1
  exact ⟨pair, origin.1, same, origin.2⟩

theorem pairsForDigests_complete {found : List (String × String)}
    (answered : pairsForDigests tables pairs wanted = some found) {digest : String}
    {pair : String × String} (member : pair ∈ pairs) {purpose : Option String}
    (isPurpose : purpose ∈ pairPurposes)
    (computed : accountIpDigest tables pair.1 (some pair.2) purpose = some digest)
    (isWanted : digest ∈ wanted) : found.lookup digest ≠ none := by
  obtain ⟨digests, made, rfl⟩ := Option.map_eq_some_iff.mp answered
  rw [lookup_fill_ne_none]
  have listed := (mem_pairDigests made).mpr ⟨member, purpose, isPurpose, computed⟩
  exact ⟨(digest, pair), List.mem_filter.mpr ⟨listed, by simpa using isWanted⟩, rfl⟩

/-- With no more than the limit there are all of them in the answer. -/
theorem PairAnswer.mem {now : Int} {log : List AuditRow} (answer : PairAnswer now log pairs)
    (few : (failedPairs now log).dedup.length ≤ maxPairCandidates) {pair : String × String}
    (failed : pair ∈ failedPairs now log) : pair ∈ pairs := by
  have inside : pairs ⊆ (failedPairs now log).dedup := fun other member =>
    List.mem_dedup.mpr (answer.selected other member)
  have same := (List.subperm_of_subset answer.distinct inside).perm_of_length_le
    (by rw [answer.limited]; omega)
  exact same.mem_iff.mpr (List.mem_dedup.mpr failed)

variable (tables pairs) in
theorem pairDigests_eq_none :
    pairDigests tables pairs = none ↔ ∃ pair ∈ pairs, ipBucket (some pair.2) = none := by
  rw [pairDigests, mapM_eq_none_iff]
  constructor
  · rintro ⟨candidate, listed, failed⟩
    obtain ⟨pair, inPairs, inPurposes⟩ := List.mem_flatMap.mp listed
    obtain ⟨purpose, -, rfl⟩ := List.mem_map.mp inPurposes
    exact ⟨pair, inPairs, by simpa [accountIpDigest] using failed⟩
  · rintro ⟨pair, inPairs, noBucket⟩
    refine ⟨(pair, none), List.mem_flatMap.mpr ⟨pair, inPairs, ?_⟩, by simp [accountIpDigest, noBucket]⟩
    exact List.mem_map.mpr ⟨none, List.mem_cons_self, rfl⟩

end Pairs

/-! ## Labels -/

section Labels

variable {tables : KeyTables} {snapshots : List (List UserAddress)}
  {pairs : List (String × String)} {entries : List LimitEntry}

theorem lookup_tagged (tag other key : String) (items : List (String × String)) :
    (items.map fun item => ((tag, item.1), item.2)).lookup (other, key) =
      if other = tag then items.lookup key else none := by
  induction items with
  | nil => simp
  | cons item items ih =>
    obtain ⟨first, value⟩ := item
    by_cases own : other = tag
    · subst own
      rw [if_pos rfl] at ih ⊢
      by_cases same : key = first
      · simp [same]
      · have differ : ((other, key) == (other, first)) = false := by simpa using same
        rw [List.map_cons, List.lookup_cons, List.lookup_cons, differ, beq_false_of_ne same, ih]
    · rw [if_neg own] at ih ⊢
      have differ : ((other, key) == (tag, first)) = false := by simp [own]
      rw [List.map_cons, List.lookup_cons, differ, ih]

theorem mem_wantedIn {isScope : String → Bool} {identifier : String} :
    identifier ∈ wantedIn isScope entries ↔
      ∃ entry ∈ entries, isScope entry.scope = true ∧ entry.identifier = identifier := by
  simp [wantedIn, and_assoc]

/-- What the two loops answer, and how it is shown. -/
structure Answered (tables : KeyTables) (snapshots : List (List UserAddress))
    (pairs : List (String × String)) (entries : List LimitEntry)
    (labelled : List (LimitEntry × Option String)) (emails found : List (String × String)) :
    Prop where
  accounts : (wantedIn accountScopes.contains entries = [] ∧ emails = []) ∨
    emailsForDigests tables snapshots (wantedIn accountScopes.contains entries) = some emails
  recent : (wantedIn (· == pairScope) entries = [] ∧ found = []) ∨
    pairsForDigests tables pairs (wantedIn (· == pairScope) entries) = some found
  shown : labelled = entries.map fun entry =>
    (entry, if entry.scope = pairScope then found.lookup entry.identifier
      else emails.lookup entry.identifier)

theorem asked_ok {failure : Unfinished} {wanted : List String}
    {answer : Option (List (String × String))} {result : List (String × String)}
    (ran : asked failure wanted answer = .ok result) :
    (wanted = [] ∧ result = []) ∨ answer = some result := by
  unfold asked at ran
  split at ran
  · cases ran
    exact .inl ⟨by assumption, rfl⟩
  · cases answer with
    | none => cases ran
    | some found => exact .inr (congrArg some (Except.ok.inj ran))

theorem answered_of_ok {labelled : List (LimitEntry × Option String)}
    (ran : addIdentifierLabels tables snapshots pairs entries = .ok labelled) :
    ∃ emails found, Answered tables snapshots pairs entries labelled emails found := by
  obtain ⟨labels, collected, shown⟩ := bind_eq_ok _ _ _ ran
  unfold collectLabels at collected
  obtain ⟨emails, accounts, collected⟩ := bind_eq_ok _ _ _ collected
  obtain ⟨found, recent, joined⟩ := bind_eq_ok _ _ _ collected
  refine ⟨emails, found, asked_ok accounts, asked_ok recent, ?_⟩
  rw [← Except.ok.inj shown, ← Except.ok.inj joined]
  apply List.map_congr_left
  intro entry _
  rw [List.lookup_append, lookup_tagged, lookup_tagged]
  have kinds : "account" ≠ pairScope := by decide
  by_cases isPair : entry.scope = pairScope
  · simp [labelKind, isPair, kinds.symm]
  · simp [labelKind, isPair, kinds]

/-- A label names whom the counter counts, and is missing only where nobody is known. -/
structure LabelFits (tables : KeyTables) (snapshots : List (List UserAddress)) (now : Int)
    (log : List AuditRow) (entry : LimitEntry) (label : Option String) : Prop where
  account : entry.scope ≠ pairScope → ∀ email, label = some email →
    (∃ rows ∈ snapshots, ∃ row ∈ rows, row.email = email) ∧
      tables.emailKeyId email = entry.identifier ∧
        ∀ counted, entry.identifier = tables.emailKeyId counted →
          tables.foldedEmail email = tables.foldedEmail counted
  everyAccount : entry.scope ∈ accountScopes → ∀ row : UserAddress,
    (∀ rows ∈ snapshots, row ∈ rows) → 0 < row.id →
      tables.emailKeyId row.email = entry.identifier → label ≠ none
  pair : entry.scope = pairScope → ∀ text, label = some text →
    ∃ pair ∈ failedPairs now log, pairLabel pair = text ∧ ∃ purpose ∈ pairPurposes,
      accountIpDigest tables pair.1 (some pair.2) purpose = some entry.identifier
  everyPair : entry.scope = pairScope → (failedPairs now log).dedup.length ≤ maxPairCandidates →
    ∀ pair ∈ failedPairs now log, ∀ purpose ∈ pairPurposes,
      accountIpDigest tables pair.1 (some pair.2) purpose = some entry.identifier → label ≠ none

theorem labels_fit (sound : tables.Sound)
    (keys : ∀ rows ∈ snapshots, (rows.map UserAddress.id).Nodup) {now : Int} {log : List AuditRow}
    (answer : PairAnswer now log pairs) {labelled : List (LimitEntry × Option String)}
    (ran : addIdentifierLabels tables snapshots pairs entries = .ok labelled) :
    labelled.map Prod.fst = entries ∧
      ∀ item ∈ labelled, LabelFits tables snapshots now log item.1 item.2 := by
  obtain ⟨emails, found, answered⟩ := answered_of_ok ran
  rw [answered.shown]
  constructor
  · rw [List.map_map]
    exact List.map_id entries
  intro item listed
  obtain ⟨entry, member, rfl⟩ := List.mem_map.mp listed
  have wantedAccount : entry.scope ∈ accountScopes →
      entry.identifier ∈ wantedIn accountScopes.contains entries := fun isAccount =>
    mem_wantedIn.mpr ⟨entry, member, List.contains_iff_mem.mpr isAccount, rfl⟩
  have wantedPair : entry.scope = pairScope →
      entry.identifier ∈ wantedIn (· == pairScope) entries := fun isPair =>
    mem_wantedIn.mpr ⟨entry, member, beq_iff_eq.mpr isPair, rfl⟩
  constructor
  · intro notPair email shown
    rw [if_neg notPair] at shown
    rcases answered.accounts with ⟨-, rfl⟩ | ran
    · cases shown
    · obtain ⟨own, present⟩ := emailsForDigests_sound keys ran shown
      refine ⟨present, own, ?_⟩
      intro counted isCounted
      exact emailKeyId_inj tables sound _ _ (own.trans isCounted)
  · intro isAccount row present positive own
    have notPair : entry.scope ≠ pairScope := by
      intro same
      rw [same] at isAccount
      exact absurd isAccount (by decide)
    simp only [if_neg notPair]
    have wanted := wantedAccount isAccount
    rcases answered.accounts with ⟨nothing, -⟩ | ran
    · rw [nothing] at wanted
      cases wanted
    · rw [← own] at wanted ⊢
      exact emailsForDigests_complete keys ran present positive wanted
  · intro isPair text shown
    rw [if_pos isPair] at shown
    rcases answered.recent with ⟨-, rfl⟩ | ran
    · cases shown
    · obtain ⟨pair, inAnswer, same, computed⟩ := pairsForDigests_sound ran shown
      exact ⟨pair, answer.selected pair inAnswer, same, computed⟩
  · intro isPair few pair failed purpose isPurpose computed
    simp only [if_pos isPair]
    have wanted := wantedPair isPair
    rcases answered.recent with ⟨nothing, -⟩ | ran
    · rw [nothing] at wanted
      cases wanted
    · exact pairsForDigests_complete ran (answer.mem few failed) isPurpose computed wanted

variable (tables) in
theorem accounts_finish {bound : Nat} (bounded : ∀ rows ∈ snapshots, ∀ row ∈ rows, row.id ≤ bound)
    (long : bound < snapshots.length) (wanted : List String) :
    ∃ emails, asked .running wanted (emailsForDigests tables snapshots wanted) = .ok emails := by
  unfold asked
  split
  · exact ⟨[], rfl⟩
  · obtain ⟨emails, answered⟩ := Option.ne_none_iff_exists'.mp
      (emailsForDigests_ends tables wanted bounded long)
    rw [answered]
    exact ⟨emails, rfl⟩

variable (entries) in
theorem wantedIn_ne_nil (isScope : String → Bool) :
    wantedIn isScope entries ≠ [] ↔ ∃ entry ∈ entries, isScope entry.scope = true := by
  constructor
  · intro some
    obtain ⟨identifier, wanted⟩ := List.exists_mem_of_ne_nil _ some
    obtain ⟨entry, member, own, -⟩ := mem_wantedIn.mp wanted
    exact ⟨entry, member, own⟩
  · rintro ⟨entry, member, own⟩
    exact List.ne_nil_of_mem (mem_wantedIn.mpr ⟨entry, member, own, rfl⟩)

variable (tables pairs entries) in
/-- The labelling ends, and fails exactly where a pair is wanted and an address has no bucket. -/
theorem labelling_ends {bound : Nat} (bounded : ∀ rows ∈ snapshots, ∀ row ∈ rows, row.id ≤ bound)
    (long : bound < snapshots.length) :
    addIdentifierLabels tables snapshots pairs entries ≠ .error .running ∧
      (addIdentifierLabels tables snapshots pairs entries = .error .exception ↔
        (∃ entry ∈ entries, entry.scope = pairScope) ∧
          ∃ pair ∈ pairs, ipBucket (some pair.2) = none) := by
  obtain ⟨emails, accounts⟩ := accounts_finish tables bounded long
    (wantedIn accountScopes.contains entries)
  have anyWanted : wantedIn (· == pairScope) entries ≠ [] ↔
      ∃ entry ∈ entries, entry.scope = pairScope := by
    simpa using wantedIn_ne_nil entries (· == pairScope)
  rw [← anyWanted, ← pairDigests_eq_none tables pairs, addIdentifierLabels, collectLabels,
    accounts]
  by_cases nothing : wantedIn (· == pairScope) entries = []
  · simp [asked, nothing, bind, Except.bind]
  · cases failed : pairDigests tables pairs with
    | none => simp [asked, nothing, failed, pairsForDigests, bind, Except.bind]
    | some digests => simp [asked, nothing, failed, pairsForDigests, bind, Except.bind]

variable (entries) in
/-- Whatever happens to the accounts between the statements, as long as their ids stay below a
bound. -/
theorem identifier_labels_fit (sound : tables.Sound) {bound : Nat}
    (keys : ∀ rows ∈ snapshots, (rows.map UserAddress.id).Nodup)
    (bounded : ∀ rows ∈ snapshots, ∀ row ∈ rows, row.id ≤ bound) (long : bound < snapshots.length)
    {now : Int} {log : List AuditRow} (answer : PairAnswer now log pairs) :
    addIdentifierLabels tables snapshots pairs entries ≠ .error .running ∧
      (addIdentifierLabels tables snapshots pairs entries = .error .exception ↔
        (∃ entry ∈ entries, entry.scope = pairScope) ∧
          ∃ pair ∈ pairs, ipBucket (some pair.2) = none) ∧
      ∀ labelled, addIdentifierLabels tables snapshots pairs entries = .ok labelled →
        labelled.map Prod.fst = entries ∧
          ∀ item ∈ labelled, LabelFits tables snapshots now log item.1 item.2 := by
  obtain ⟨ends, fails⟩ := labelling_ends tables pairs entries bounded long
  refine ⟨ends, fails, ?_⟩
  intro labelled ran
  exact labels_fit sound keys answer ran

end Labels

/-! ## One dashboard -/

def annEntries : List LimitEntry :=
  [⟨"", "login", "account", exampleTables.emailKeyId "ann@example.org", 1, 5, none⟩,
    ⟨"", "login_lock", pairScope, "d1", 1, 5, none⟩]

/-- Ann is removed after the second statement. -/
def annUsers : List (List UserAddress) :=
  [[⟨1, "ann@example.org"⟩], [⟨1, "ann@example.org"⟩], []]

def annLog : List AuditRow :=
  [⟨some "ann@example.org", some "203.0.113.7", false, 0⟩]

theorem annLog_answer : PairAnswer 0 annLog [("ann@example.org", "203.0.113.7")] where
  distinct := List.nodup_singleton _
  selected pair member := by
    rw [List.mem_singleton.mp member]
    exact List.mem_cons_self
  limited := by decide

/-- The counter of an address in other letters is labelled, and the one of an unknown pair not. -/
theorem identifier_labels_fit_ann :
    ∃ labelled, addIdentifierLabels exampleTables annUsers
      [("ann@example.org", "203.0.113.7")] annEntries = .ok labelled ∧
        labelled.map Prod.fst = annEntries ∧
          ∀ item ∈ labelled, LabelFits exampleTables annUsers 0 annLog item.1 item.2 := by
  obtain ⟨ends, fails, fit⟩ := identifier_labels_fit annEntries exampleTables_sound
    (by decide : ∀ rows ∈ annUsers, (rows.map UserAddress.id).Nodup)
    (by decide : ∀ rows ∈ annUsers, ∀ row ∈ rows, row.id ≤ 1) (by decide) annLog_answer
  cases ran : addIdentifierLabels exampleTables annUsers [("ann@example.org", "203.0.113.7")]
      annEntries with
  | ok labelled => exact ⟨labelled, rfl, fit labelled ran⟩
  | error failure =>
    cases failure with
    | running => exact absurd ran ends
    | exception =>
      obtain ⟨-, pair, member, noBucket⟩ := fails.mp ran
      rw [List.mem_singleton.mp member] at noBucket
      exact absurd noBucket (by decide)

end MysticAuth.RateLimits
