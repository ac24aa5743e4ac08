import MysticAuth.Interleaving.Alone
import MysticAuth.Sql.Rekeying
import MysticAuth.Tokens.VersionGrowth

/-!
# The migration of revocation identifiers

The script moves row after row from its key with the plain address to the
digest, batch by batch, until a round finds none.  While nothing else runs, no
row is forgotten or counted twice, and however often the database fails the
table says what it said before.
-/

set_option autoImplicit false

namespace MysticAuth.Versions

open Interleaving Sql

/-! ## The script -/

section Script

variable (site : Site)

structure Script where
  batchSize : Nat
  rounds : Nat
  deriving DecidableEq

/-- What the dry run counts. -/
def legacyCount (rows : Rows) : Nat :=
  (rows.keys.filter isLegacyFormat).length

end Script

/-! ## Formats -/

theorem splitPart_one (label version rest : List Char) (noColon : ':' ∉ label)
    (noColon' : ':' ∉ version) {key : String}
    (split : key.toList = label ++ ':' :: (version ++ ':' :: rest)) :
    splitPart key 1 = String.ofList version := by
  rw [splitPart, split, List.splitOn_append_cons_self_of_not_mem noColon,
    List.splitOn_append_cons_self_of_not_mem noColon']
  rfl

theorem isLegacyFormat_of_isV2 {tables : KeyTables} {key : String} (new : isV2 tables key) :
    isLegacyFormat key = false := by
  have version : splitPart key 1 = "v2" := by
    rcases new with ⟨email, rfl⟩ | ⟨email, chainId, -, rfl⟩
    · apply splitPart_one "account_ver".toList "v2".toList (tables.emailDigest email).toList
      · decide
      · decide
      · rw [toList_accountVersionKey]
        rfl
    · apply splitPart_one "chain_ver".toList "v2".toList
        ((tables.emailDigest email).toList ++ (":".toList ++ chainId.toList))
      · decide
      · decide
      · rw [toList_chainVersionKey]
        rfl
  simp [isLegacyFormat, version]

/-! ## Where a row goes -/

section Destinations

variable (tables : KeyTables)

/-- The key of a row once the rows under `moved` are moved. -/
def destination (moved : List String) (key : String) : String :=
  if key ∈ moved then (hmacKeyFromLegacyKey tables key).getD key else key

variable {tables} {moved later : List String} {key : String}

theorem destination_nil : destination tables [] = id := by
  funext key
  simp [destination]

theorem destination_of_not_mem (absent : key ∉ moved) : destination tables moved key = key :=
  if_neg absent

/-- A row that moves gets a key in the new format. -/
theorem destination_of_mem (member : key ∈ moved)
    (translated : (hmacKeyFromLegacyKey tables key).isSome = true) :
    isLegacyFormat (destination tables moved key) = false := by
  obtain ⟨new, isNew⟩ := Option.isSome_iff_exists.mp translated
  rw [destination, if_pos member, isNew, Option.getD_some]
  exact isLegacyFormat_of_isV2 (isV2_of_hmacKey isNew)

/-- No row comes to a key of the old format. -/
theorem eq_of_destination
    (translated : ∀ key ∈ moved, (hmacKeyFromLegacyKey tables key).isSome = true)
    (legacy : isLegacyFormat key = true) {old : String}
    (sent : destination tables moved old = key) : old = key ∧ old ∉ moved := by
  by_cases member : old ∈ moved
  · have format := destination_of_mem member (translated old member)
    rw [sent, legacy] at format
    cases format
  · rw [destination_of_not_mem member] at sent
    exact ⟨sent, member⟩

theorem destination_singleton {old new : String}
    (translated : hmacKeyFromLegacyKey tables old = some new) :
    destination tables [old] = Function.update id old new := by
  funext key
  by_cases isOld : key = old
  · subst isOld
    simp [destination, translated]
  · rw [destination, if_neg (by simpa using isOld), Function.update_of_ne isOld, id_eq]

/-- Rows that are moved stay where they are when others follow. -/
theorem destination_append
    (translated : ∀ key ∈ moved, (hmacKeyFromLegacyKey tables key).isSome = true)
    (legacy : ∀ key ∈ later, isLegacyFormat key = true) :
    destination tables later ∘ destination tables moved = destination tables (moved ++ later) := by
  funext key
  rw [Function.comp_apply]
  by_cases member : key ∈ moved
  · have stays : destination tables moved key ∉ later := by
      intro again
      have format := legacy _ again
      rw [destination_of_mem member (translated key member)] at format
      cases format
    rw [destination_of_not_mem stays, destination, destination, if_pos member,
      if_pos (List.mem_append_left _ member)]
  · rw [destination_of_not_mem member, destination, destination]
    simp [member]

end Destinations

/-! ## Tables after rows have moved -/

/-- The rows under `moved` went to their new keys. -/
structure Moves (site : Site) (rows after : Rows) (moved : List String) : Prop where
  once : moved.Nodup
  legacy : ∀ key ∈ moved, isLegacyFormat key = true
  present : ∀ key ∈ moved, key ∈ rows
  translated : ∀ key ∈ moved, (hmacKeyFromLegacyKey site.keys key).isSome = true
  rekeyed : Rekeyed (destination site.keys moved) (rows.lookup ·) (after.lookup ·)

section Tables

variable {site : Site} {rows middle after : Rows} {moved later : List String} {key : String}

theorem Moves.refl (site : Site) (rows : Rows) : Moves site rows rows [] where
  once := List.nodup_nil
  legacy := by simp
  present := by simp
  translated := by simp
  rekeyed := by
    rw [destination_nil]
    exact Rekeyed.refl _

/-- A row of the old format is gone if it moved, and else untouched. -/
theorem Moves.lookup_moved (moves : Moves site rows after moved) (member : key ∈ moved) :
    after.lookup key = none := by
  refine moves.rekeyed.eq_none fun old value _ sent => ?_
  obtain ⟨rfl, absent⟩ := eq_of_destination moves.translated (moves.legacy key member) sent
  exact absent member

theorem Moves.lookup_legacy (moves : Moves site rows after moved)
    (legacy : isLegacyFormat key = true) (absent : key ∉ moved) :
    after.lookup key = rows.lookup key :=
  moves.rekeyed.eq_of_only (destination_of_not_mem absent) fun _ _ _ sent =>
    (eq_of_destination moves.translated legacy sent).1

theorem Moves.trans (first : Moves site rows middle moved) (second : Moves site middle after later) :
    Moves site rows after (moved ++ later) := by
  have apart : ∀ key ∈ later, key ∉ moved := by
    intro key inLater inMoved
    have isRow := AList.lookup_isSome.mpr (second.present key inLater)
    rw [first.lookup_moved inMoved] at isRow
    cases isRow
  refine ⟨?_, ?_, ?_, ?_, ?_⟩
  · exact first.once.append second.once fun key inMoved inLater => apart key inLater inMoved
  · intro key member
    exact (List.mem_append.mp member).elim (first.legacy key) (second.legacy key)
  · intro key member
    rcases List.mem_append.mp member with inMoved | inLater
    · exact first.present key inMoved
    · have isRow := AList.lookup_isSome.mpr (second.present key inLater)
      rw [first.lookup_legacy (second.legacy key inLater) (apart key inLater)] at isRow
      exact AList.lookup_isSome.mp isRow
  · intro key member
    exact (List.mem_append.mp member).elim (first.translated key) (second.translated key)
  · rw [← destination_append first.translated second.legacy]
    exact first.rekeyed.trans second.rekeyed

end Tables

/-! ## A transaction without competition -/

/-- Nothing is committed yet, and only this transaction holds or writes rows. -/
structure Unshared (thread : Nat) (rows : Rows) (store : Store) : Prop where
  committed : store.rows = rows
  free : ∀ key, ¬ store.isHeld thread key = true
  others : ∀ other, other ≠ thread → store.pending other = []

/-- Such a transaction sees the rows under `moved` at their new keys. -/
structure Staging (site : Site) (thread : Nat) (rows : Rows) (moved : List String) (store : Store) :
    Prop extends Unshared thread rows store where
  rekeyed : Rekeyed (destination site.keys moved) (rows.lookup ·) (store.visible thread)

section Staging

variable {site : Site} {thread : Nat} {rows : Rows} {moved : List String} {store : Store}

theorem Unshared.owner_cases (unshared : Unshared thread rows store) (key : String) :
    store.owner key = none ∨ store.owner key = some thread := by
  cases owned : store.owner key with
  | none => exact Or.inl rfl
  | some other => exact Or.inr (congrArg some (Store.owner_of_isHeld (unshared.free key) owned))

/-- At its end nothing is locked or pending. -/
theorem Unshared.release (unshared : Unshared thread rows store) :
    store.release thread = Store.initial rows := by
  have owner : (store.release thread).owner = fun _ => none := by
    funext key
    rcases unshared.owner_cases key with none | own
    · simp [Store.release, none]
    · simp [Store.release, own]
  have pending : (store.release thread).pending = fun _ => [] := by
    funext other
    by_cases isThread : other = thread
    · subst isThread
      exact Store.release_pending_self
    · rw [Store.release_pending_ne isThread]
      exact unshared.others other isThread
  calc store.release thread
      = ⟨store.rows, (store.release thread).owner, (store.release thread).pending⟩ := rfl
    _ = Store.initial rows := by rw [owner, pending, unshared.committed]; rfl

theorem Unshared.commit (unshared : Unshared thread rows store) :
    store.commit thread = Store.initial ((store.pending thread).apply rows) := by
  have released := unshared.release
  simp only [Store.release, Store.initial, Store.mk.injEq] at released
  simp only [Store.commit, Store.release, Store.initial, unshared.committed, released.2.1,
    released.2.2]

/-- What the transaction sees is what its commit leaves. -/
theorem Unshared.lookup_apply (unshared : Unshared thread rows store) :
    (((store.pending thread).apply rows).lookup ·) = store.visible thread := by
  funext key
  rw [Writes.lookup_apply, Store.visible, unshared.committed]

theorem Unshared.lock (unshared : Unshared thread rows store) (key : String) :
    Unshared thread rows (store.lock thread key) where
  committed := unshared.committed
  free other := by
    by_cases same : other = key
    · subst same
      simp [Store.isHeld, Store.lock]
    · simpa [Store.isHeld, Store.lock, Function.update_of_ne same] using unshared.free other
  others := unshared.others

theorem Unshared.write (unshared : Unshared thread rows store) (key : String)
    (version : Option Nat) : Unshared thread rows (store.write thread key version) where
  committed := unshared.committed
  free := (unshared.lock key).free
  others other differs := by
    rw [Store.write_pending_ne version differs]
    exact unshared.others other differs

theorem visible_write (key : String) (version : Option Nat) :
    (store.write thread key version).visible thread =
      Function.update (store.visible thread) key version := by
  funext other
  by_cases same : other = key
  · subst same
    simp [Store.visible]
  · rw [Function.update_of_ne same, Store.visible, Store.visible,
      Store.write_lookup_ne version same thread, Store.write_rows]

theorem Staging.lock (staging : Staging site thread rows moved store) (key : String) :
    Staging site thread rows moved (store.lock thread key) where
  toUnshared := staging.toUnshared.lock key
  rekeyed := staging.rekeyed

theorem ne_of_hmacKey {old new : String} (legacy : isLegacyFormat old = true)
    (isNew : hmacKeyFromLegacyKey site.keys old = some new) : old ≠ new := by
  rintro rfl
  rw [isLegacyFormat_of_isV2 (isV2_of_hmacKey isNew)] at legacy
  cases legacy

/-- What the upsert writes under the new key. -/
def merged (store : Store) (thread : Nat) (new : String) (version : Nat) : Nat :=
  (store.visible thread new).elim version fun current => max current version

/-- One row is written under its new key and deleted under the old one. -/
theorem Staging.move (staging : Staging site thread rows moved store)
    (translated : ∀ key ∈ moved, (hmacKeyFromLegacyKey site.keys key).isSome = true)
    {old new : String} {version : Nat} (legacy : isLegacyFormat old = true)
    (present : store.visible thread old = some version)
    (isNew : hmacKeyFromLegacyKey site.keys old = some new) :
    Staging site thread rows (moved ++ [old])
      ((store.write thread new (some (merged store thread new version))).write thread old none) where
  toUnshared := (staging.toUnshared.write new _).write old none
  rekeyed := by
    rw [visible_write, visible_write,
      ← destination_append translated (fun key member => by rwa [List.mem_singleton.mp member]),
      destination_singleton isNew]
    exact staging.rekeyed.trans (Rekeyed.move (ne_of_hmacKey legacy isNew) present)

end Staging

/-- How the loop ends that started on the table `rows`. -/
structure Migrated (site : Site) (rows : Rows) (rounds : Nat) (result : Except Failure (Option Nat))
    (after : Rows) (moved : List String) : Prop where
  moves : Moves site rows after moved
  complete : ∀ total, result = .ok (some total) →
    total = moved.length ∧ ∀ key ∈ rows, isLegacyFormat key = true → key ∈ moved
  exhausted : result = .ok none → rounds ≤ moved.length
  refused : ∀ message, result = .error (.valueError message) →
    ∃ key ∈ rows, isLegacyFormat key = true ∧ hmacKeyFromLegacyKey site.keys key = none

section Loop

variable {site : Site} {rows after last : Rows} {moved later : List String} {rounds : Nat}

end Loop

/-! ## The script alone -/

section Programs

variable {site : Site} {thread : Nat} {rows : Rows} {moved : List String} {store : Store}
variable {answers : (call : Call) → Reply call → Prop}

/-- The database fails at some calls. -/
def MayFail (answers : (call : Call) → Reply call → Prop) : Prop :=
  ∃ call : Call, answers call (.error .database)

/-- The script is over, its session closed, and only a failure of the database is raised as one. -/
def Ends (site : Site) (answers : (call : Call) → Reply call → Prop) (rows : Rows) (rounds : Nat)
    (result : Except Failure (Option Nat)) (later : Store) : Prop :=
  ∃ after moved, later = Store.initial after ∧ Migrated site rows rounds result after moved ∧
    (result = .error .database → MayFail answers)

section Calls

variable (steady : ∀ (call : Call) (result : Result call), answers call (.ok result))

include steady

end Calls

end Programs

/-! ## What the table says -/

section Versions

variable {site : Site} {rows after : Rows} {moved : List String} {key legacyKey : String}

variable (noAtSign : ∀ message, '@' ∉ (site.keys.hmacHex message).toList)

include noAtSign

end Versions

/-- Distinct keys of the old format are no more than the dry run counts. -/
theorem Moves.length_le {site : Site} {rows after : Rows} {moved : List String}
    (moves : Moves site rows after moved) : moved.length ≤ legacyCount rows := by
  apply (moves.once.subperm fun key member => ?_).length_le
  exact List.mem_filter.mpr ⟨AList.mem_keys.mp (moves.present key member), moves.legacy key member⟩

end MysticAuth.Versions
