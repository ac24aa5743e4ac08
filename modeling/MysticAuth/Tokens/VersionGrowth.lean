import MysticAuth.Accounts.AccountSeparation
import MysticAuth.Tokens.VersionStore

/-!
# Revocation versions only grow

Every write to a version raises what its transaction sees of the row.  The
migration deletes a row only next to such a write of at least its version, and
a bump holds a lock on every row it read.  What a commit publishes is therefore
never below what was there.
-/

set_option autoImplicit false

namespace MysticAuth.Versions

open Interleaving

/-! ## The formats of keys -/

section Keys

variable (tables : KeyTables)

def isV2 (key : String) : Prop :=
  (∃ email, key = tables.accountVersionKey email) ∨
    ∃ email chainId : String, ':' ∉ chainId.toList ∧ key = tables.chainVersionKey email chainId

/-- A key under which a version was kept before the digests. -/
def isLegacy (key : String) : Prop :=
  (∃ email : StoredEmail, key = legacyAccountVersionKey email) ∨
    ∃ (email : StoredEmail) (chainId : ChainId), key = legacyChainVersionKey email chainId

variable {tables}

theorem rpartition_append (before after : List Char) (separator : Char)
    (absent : separator ∉ after) :
    rpartition separator (before ++ separator :: after) = some (before, after) := by
  have kept : ∀ c ∈ after.reverse, (decide (c ≠ separator)) = true := by
    intro c member
    have differs : c ≠ separator := fun same => absent (same ▸ List.mem_reverse.mp member)
    simpa using differs
  have reversed : (before ++ separator :: after).reverse =
      after.reverse ++ (separator :: before.reverse) := by simp
  unfold rpartition
  rw [reversed, List.dropWhile_append_of_pos kept, List.takeWhile_append_of_pos kept]
  simp

theorem absent_of_rpartition {text before after : List Char} {separator : Char}
    (parted : rpartition separator text = some (before, after)) : separator ∉ after := by
  unfold rpartition at parted
  split at parted
  · cases parted
  · obtain ⟨-, rfl⟩ := Prod.mk.inj (Option.some.inj parted)
    intro member
    have kept := List.all_eq_true.mp List.all_takeWhile separator (List.mem_reverse.mp member)
    simp at kept

theorem isV2_of_hmacKey {key new : String} (translated : hmacKeyFromLegacyKey tables key = some new) :
    isV2 tables new := by
  unfold hmacKeyFromLegacyKey at translated
  split at translated
  · simp only at translated
    split at translated
    · cases translated
    · exact Or.inl ⟨_, (Option.some.inj translated).symm⟩
  · split at translated
    · split at translated
      · cases translated
      · rename_i email chainId parted
        split at translated
        · cases translated
        · refine Or.inr ⟨_, _, ?_, (Option.some.inj translated).symm⟩
          simpa using absent_of_rpartition parted
    · cases translated

theorem hmacKey_of_isV2 {key : String} (new : isV2 tables key) :
    hmacKeyFromLegacyKey tables key = none := by
  unfold hmacKeyFromLegacyKey
  rcases new with ⟨email, rfl⟩ | ⟨email, chainId, -, rfl⟩
  · have versioned : "account_ver:v2:".toList <+: (tables.accountVersionKey email).toList := by
      rw [toList_accountVersionKey]
      exact List.prefix_append _ _
    have other : ¬ "chain_ver:".toList <+: (tables.accountVersionKey email).toList := by
      rw [toList_accountVersionKey]
      simp
    rw [if_neg fun both => both.2 versioned, if_neg fun both => other both.1]
  · have versioned : "chain_ver:v2:".toList <+: (tables.chainVersionKey email chainId).toList := by
      rw [toList_chainVersionKey]
      exact List.prefix_append _ _
    have other : ¬ "account_ver:".toList <+: (tables.chainVersionKey email chainId).toList := by
      rw [toList_chainVersionKey]
      simp
    rw [if_neg fun both => other both.1, if_neg fun both => both.2 versioned]

theorem hmacKey_legacyAccount (email : String) {new : String}
    (translated : hmacKeyFromLegacyKey tables (legacyAccountVersionKey email) = some new) :
    new = tables.accountVersionKey email := by
  have other : ¬ "chain_ver:".toList <+: (legacyAccountVersionKey email).toList := by
    rw [toList_legacyAccountVersionKey]
    simp
  have rest : (legacyAccountVersionKey email).toList.drop "account_ver:".length =
      email.toList := by
    rw [toList_legacyAccountVersionKey]
    exact List.drop_left
  unfold hmacKeyFromLegacyKey at translated
  split at translated
  · simp only [rest] at translated
    split at translated
    · cases translated
    · rw [← Option.some.inj translated, String.ofList_toList]
  · rw [if_neg fun both => other both.1] at translated
    cases translated

theorem hmacKey_legacyChain (email : String) (chainId : ChainId) {new : String}
    (translated : hmacKeyFromLegacyKey tables (legacyChainVersionKey email chainId) = some new) :
    new = tables.chainVersionKey email chainId := by
  have other : ¬ "account_ver:".toList <+: (legacyChainVersionKey email chainId).toList := by
    rw [toList_legacyChainVersionKey]
    simp
  have rest : (legacyChainVersionKey email chainId).toList.drop "chain_ver:".length =
      email.toList ++ ':' :: chainId.val.toList := by
    rw [toList_legacyChainVersionKey]
    exact List.drop_left
  have parted := rpartition_append email.toList chainId.val.toList ':'
    fun member => (chainId.property _ member).1 rfl
  unfold hmacKeyFromLegacyKey at translated
  split at translated
  · rename_i labelled
    exact absurd labelled.1 other
  · split at translated
    · rw [rest, parted] at translated
      simp only at translated
      split at translated
      · cases translated
      · rw [← Option.some.inj translated, String.ofList_toList, String.ofList_toList]
    · cases translated

variable (noAtSign : ∀ message, '@' ∉ (tables.hmacHex message).toList)

include noAtSign

theorem not_isV2_of_isLegacy {key : String} (legacy : isLegacy key) : ¬ isV2 tables key := by
  rcases legacy with ⟨email, rfl⟩ | ⟨email, chainId, rfl⟩
  · rintro (⟨other, same⟩ | ⟨other, chainId, -, same⟩)
    · have lists := congrArg String.toList same
      simp only [toList_legacyAccountVersionKey, toList_accountVersionKey, String.reduceToList,
        List.cons_append, List.nil_append, List.cons.injEq, true_and] at lists
      have atSign : '@' ∈ email.val.toList := email.property
      rw [lists] at atSign
      simp [KeyTables.emailDigest, noAtSign] at atSign
    · have lists := congrArg String.toList same
      simp [toList_legacyAccountVersionKey, toList_chainVersionKey] at lists
  · rintro (⟨other, same⟩ | ⟨other, chainId', noColon, same⟩)
    · have lists := congrArg String.toList same
      simp [toList_legacyChainVersionKey, toList_accountVersionKey] at lists
    · have lists := congrArg String.toList same
      have shaped : "chain_ver:".toList ++ (email.val.toList ++ ':' :: chainId.val.toList) =
          "chain_ver:".toList ++ (("v2:".toList ++ (tables.emailDigest other).toList) ++
            ':' :: chainId'.toList) := by
        simpa [toList_legacyChainVersionKey, toList_chainVersionKey] using lists
      have emails := append_separator_inj _ _ _ _ ':'
        (fun member => (chainId.property _ member).1 rfl) noColon (List.append_cancel_left shaped)
      have atSign : '@' ∈ email.val.toList := email.property
      rw [emails] at atSign
      simp [KeyTables.emailDigest, noAtSign] at atSign

end Keys

/-! ## Uncommitted writes -/

theorem Writes.lookup_apply (writes : Writes) (rows : Rows) (key : String) :
    (writes.apply rows).lookup key = (writes.lookup key).getD (rows.lookup key) := by
  induction writes with
  | nil => rfl
  | cons write rest ih =>
    obtain ⟨written, version⟩ := write
    by_cases same : key = written
    · subst same
      cases version <;> simp [Writes.apply]
    · have differs : (key == written) = false := by simpa using same
      rw [List.lookup_cons, differs, ← ih]
      cases version <;> simp [Writes.apply, same]

/-- What the writes of every open transaction respect. -/
structure Sound (tables : KeyTables) (store : Store) : Prop where
  owned : ∀ thread key written, (store.pending thread).lookup key = some written →
    store.owner key = some thread
  raised : ∀ thread key version, (store.pending thread).lookup key = some (some version) →
    isV2 tables key ∧ ∀ current, store.rows.lookup key = some current → current ≤ version
  deleted : ∀ thread key, (store.pending thread).lookup key = some none →
    ∃ new version, hmacKeyFromLegacyKey tables key = some new ∧
      (store.pending thread).lookup new = some (some version) ∧
        ∀ current, store.rows.lookup key = some current → current ≤ version

/-- What a step of one thread leaves to the others. -/
structure Spares (thread : Nat) (before after : Store) : Prop where
  pending : ∀ other, other ≠ thread → after.pending other = before.pending other
  owner : ∀ other, other ≠ thread → ∀ key, before.owner key = some other →
    after.owner key = some other
  rows : ∀ other, other ≠ thread → ∀ key, before.owner key = some other →
    after.rows.lookup key = before.rows.lookup key

namespace Store

variable {tables : KeyTables} {store : Store} {thread : Nat} {key : String}

theorem owner_of_isHeld (free : ¬ store.isHeld thread key = true) {other : Nat}
    (owned : store.owner key = some other) : other = thread := by
  simpa [isHeld, owned] using free

/-! Taking a lock. -/

@[simp] theorem lock_rows : (store.lock thread key).rows = store.rows := rfl

@[simp] theorem lock_pending : (store.lock thread key).pending = store.pending := rfl

theorem lock_owner_self : (store.lock thread key).owner key = some thread := by
  simp [lock]

theorem lock_owner_of {other : String} {owner : Nat} (owned : store.owner other = some owner)
    (free : ¬ store.isHeld thread key = true) :
    (store.lock thread key).owner other = some owner := by
  by_cases same : other = key
  · subst same
    rw [lock_owner_self, owner_of_isHeld free owned]
  · simpa [lock, Function.update_of_ne same] using owned

theorem lock_sound (sound : Sound tables store) (free : ¬ store.isHeld thread key = true) :
    Sound tables (store.lock thread key) where
  owned actor other written pending :=
    lock_owner_of (sound.owned actor other written pending) free
  raised := sound.raised
  deleted := sound.deleted

theorem lock_spares (free : ¬ store.isHeld thread key = true) :
    Spares thread store (store.lock thread key) where
  pending _ _ := rfl
  owner _ _ _ owned := lock_owner_of owned free
  rows _ _ _ _ := rfl

/-! Writing a row. -/

@[simp] theorem write_rows (version : Option Nat) :
    (store.write thread key version).rows = store.rows := rfl

@[simp] theorem write_owner (version : Option Nat) :
    (store.write thread key version).owner = (store.lock thread key).owner := rfl

theorem write_pending_self (version : Option Nat) :
    (store.write thread key version).pending thread =
      (key, version) :: store.pending thread := by
  simp [write]

theorem write_pending_ne (version : Option Nat) {other : Nat} (differs : other ≠ thread) :
    (store.write thread key version).pending other = store.pending other := by
  simp [write, Function.update_of_ne differs]

@[simp] theorem write_lookup_self (version : Option Nat) :
    ((store.write thread key version).pending thread).lookup key = some version := by
  simp [write_pending_self]

theorem write_lookup_ne (version : Option Nat) {other : String} (differs : other ≠ key)
    (actor : Nat) : ((store.write thread key version).pending actor).lookup other =
      (store.pending actor).lookup other := by
  by_cases isThread : actor = thread
  · subst isThread
    have unequal : (other == key) = false := by simpa using differs
    rw [write_pending_self, List.lookup_cons, unequal]
  · rw [write_pending_ne version isThread]

theorem write_spares (version : Option Nat) (free : ¬ store.isHeld thread key = true) :
    Spares thread store (store.write thread key version) where
  pending _ differs := write_pending_ne version differs
  owner _ _ _ owned := lock_owner_of owned free
  rows _ _ _ _ := rfl

/-- A pending write is the one just made or an older one of the store. -/
theorem write_lookup_cases {version : Option Nat} {actor : Nat} {other : String}
    {written : Option Nat} (free : ¬ store.isHeld thread key = true) (sound : Sound tables store)
    (pending : ((store.write thread key version).pending actor).lookup other = some written) :
    (actor = thread ∧ other = key ∧ written = version) ∨
      (other ≠ key ∧ (store.pending actor).lookup other = some written) := by
  by_cases isKey : other = key
  · subst isKey
    by_cases isThread : actor = thread
    · subst isThread
      rw [write_lookup_self] at pending
      exact Or.inl ⟨rfl, rfl, (Option.some.inj pending).symm⟩
    · rw [write_pending_ne version isThread] at pending
      exact absurd (owner_of_isHeld free (sound.owned actor other written pending)) isThread
  · rw [write_lookup_ne version isKey] at pending
    exact Or.inr ⟨isKey, pending⟩

theorem write_owned (sound : Sound tables store) (free : ¬ store.isHeld thread key = true)
    {version : Option Nat} (actor : Nat) (other : String) (written : Option Nat)
    (pending : ((store.write thread key version).pending actor).lookup other = some written) :
    (store.write thread key version).owner other = some actor := by
  rw [write_owner]
  rcases write_lookup_cases free sound pending with ⟨rfl, rfl, -⟩ | ⟨-, older⟩
  · exact lock_owner_self
  · exact lock_owner_of (sound.owned actor other written older) free

/-- A row that is written never falls behind what its transaction saw of it. -/
theorem visible_le_of_pending {version written : Nat}
    (raises : ∀ current, store.visible thread key = some current → current ≤ version)
    (pending : (store.pending thread).lookup key = some (some written)) : written ≤ version := by
  refine raises written ?_
  simp [visible, pending]

theorem upsert_sound (sound : Sound tables store) (free : ¬ store.isHeld thread key = true)
    (new : isV2 tables key) {version : Nat}
    (raises : ∀ current, store.visible thread key = some current → current ≤ version) :
    Sound tables (store.write thread key (some version)) where
  owned := write_owned sound free
  raised actor other written pending := by
    rcases write_lookup_cases free sound pending with ⟨rfl, rfl, same⟩ | ⟨-, older⟩
    · obtain rfl := Option.some.inj same
      refine ⟨new, fun current isCurrent => ?_⟩
      rw [write_rows] at isCurrent
      cases isPending : (store.pending actor).lookup other with
      | none => exact raises current (by simp [visible, isPending, isCurrent])
      | some earlier =>
        cases earlier with
        | none =>
          obtain ⟨_, _, translated, -⟩ := sound.deleted actor other isPending
          rw [hmacKey_of_isV2 new] at translated
          cases translated
        | some earlier =>
          have below := (sound.raised actor other earlier isPending).2 current isCurrent
          exact Nat.le_trans below (visible_le_of_pending raises isPending)
    · exact sound.raised actor other written older
  deleted actor other pending := by
    rcases write_lookup_cases free sound pending with ⟨-, -, same⟩ | ⟨-, older⟩
    · cases same
    · obtain ⟨target, moved, translated, isMoved, below⟩ := sound.deleted actor other older
      by_cases isKey : target = key
      · subst isKey
        obtain rfl := owner_of_isHeld free (sound.owned actor target _ isMoved)
        refine ⟨target, version, translated, write_lookup_self _, fun current isCurrent => ?_⟩
        exact Nat.le_trans (below current isCurrent) (visible_le_of_pending raises isMoved)
      · exact ⟨target, moved, translated, by rw [write_lookup_ne _ isKey]; exact isMoved, below⟩

theorem delete_sound (sound : Sound tables store) (free : ¬ store.isHeld thread key = true)
    {new : String} {version : Nat} (translated : hmacKeyFromLegacyKey tables key = some new)
    (moved : (store.pending thread).lookup new = some (some version))
    (below : ∀ current, store.rows.lookup key = some current → current ≤ version) :
    Sound tables (store.write thread key none) where
  owned := write_owned sound free
  raised actor other written pending := by
    rcases write_lookup_cases free sound pending with ⟨-, -, same⟩ | ⟨-, older⟩
    · cases same
    · exact sound.raised actor other written older
  deleted actor other pending := by
    -- What a deleted row was moved to is in the new format, and `key` is not.
    have kept {actor : Nat} {target : String} {written : Nat}
        (isMoved : (store.pending actor).lookup target = some (some written)) :
        ((store.write thread key none).pending actor).lookup target = some (some written) := by
      have differs : target ≠ key := by
        rintro rfl
        rw [hmacKey_of_isV2 (sound.raised actor target written isMoved).1] at translated
        cases translated
      rw [write_lookup_ne none differs]
      exact isMoved
    rcases write_lookup_cases free sound pending with ⟨rfl, rfl, -⟩ | ⟨-, older⟩
    · exact ⟨new, version, translated, kept moved, below⟩
    · obtain ⟨target, written, translated', isMoved, below'⟩ := sound.deleted actor other older
      exact ⟨target, written, translated', kept isMoved, below'⟩

/-! Ending a transaction. -/

@[simp] theorem release_rows : (store.release thread).rows = store.rows := rfl

theorem release_pending_self : (store.release thread).pending thread = [] := by
  simp [release]

theorem release_pending_ne {other : Nat} (differs : other ≠ thread) :
    (store.release thread).pending other = store.pending other := by
  simp [release, Function.update_of_ne differs]

theorem release_owner_ne {other : Nat} (differs : other ≠ thread)
    (owned : store.owner key = some other) : (store.release thread).owner key = some other := by
  simp [release, owned, differs]

theorem release_spares : Spares thread store (store.release thread) where
  pending _ differs := release_pending_ne differs
  owner _ differs _ owned := release_owner_ne differs owned
  rows _ _ _ _ := rfl

theorem release_lookup {actor : Nat} {written : Option Nat}
    (pending : ((store.release thread).pending actor).lookup key = some written) :
    actor ≠ thread ∧ (store.pending actor).lookup key = some written := by
  by_cases isThread : actor = thread
  · subst isThread
    simp [release_pending_self] at pending
  · exact ⟨isThread, by rwa [release_pending_ne isThread] at pending⟩

theorem release_sound (sound : Sound tables store) : Sound tables (store.release thread) where
  owned actor other written pending := by
    obtain ⟨differs, older⟩ := release_lookup pending
    exact release_owner_ne differs (sound.owned actor other written older)
  raised actor other version pending := sound.raised actor other version (release_lookup pending).2
  deleted actor other pending := by
    obtain ⟨differs, older⟩ := release_lookup pending
    obtain ⟨new, version, translated, moved, below⟩ := sound.deleted actor other older
    exact ⟨new, version, translated, by rw [release_pending_ne differs]; exact moved, below⟩

theorem commit_lookup (key : String) :
    (store.commit thread).rows.lookup key = store.visible thread key :=
  Writes.lookup_apply _ _ key

theorem commit_pending : (store.commit thread).pending = (store.release thread).pending := rfl

theorem commit_spares (thread : Nat) (sound : Sound tables store) :
    Spares thread store (store.commit thread) where
  pending _ differs := release_pending_ne differs
  owner _ differs _ owned := release_owner_ne differs owned
  rows other differs key owned := by
    rw [commit_lookup, visible]
    cases isPending : (store.pending thread).lookup key with
    | none => rfl
    | some written =>
      have mine := sound.owned thread key written isPending
      exact absurd (Option.some.inj (owned.symm.trans mine)) differs

theorem commit_sound (sound : Sound tables store) : Sound tables (store.commit thread) := by
  have spares := commit_spares thread sound
  have released {actor : Nat} {key : String} {written : Option Nat}
      (pending : ((store.commit thread).pending actor).lookup key = some written) :
      actor ≠ thread ∧ (store.pending actor).lookup key = some written := by
    rw [commit_pending] at pending
    exact release_lookup pending
  refine ⟨fun actor other written pending => ?_, fun actor other version pending => ?_,
    fun actor other pending => ?_⟩
  · obtain ⟨differs, older⟩ := released pending
    exact spares.owner actor differs other (sound.owned actor other written older)
  · obtain ⟨differs, older⟩ := released pending
    rw [spares.rows actor differs other (sound.owned actor other _ older)]
    exact sound.raised actor other version older
  · obtain ⟨differs, older⟩ := released pending
    rw [spares.rows actor differs other (sound.owned actor other _ older)]
    obtain ⟨new, version, translated, moved, below⟩ := sound.deleted actor other older
    exact ⟨new, version, translated, by rw [spares.pending actor differs]; exact moved, below⟩

end Store

/-! ## What one call does -/

section Calls

variable {site : Site} {thread : Nat} {store after : Store}

/-- The call that ended the transaction, or came after its end. -/
def ends (event : Event) : Prop :=
  event.1 = .commit ∨ event.1 = .close ∨ ∃ failure, event.2 = .error failure

def Open (trace : List Event) : Prop :=
  ∀ event ∈ trace, ¬ ends event

/-- What a reply says for as long as the transaction is open. -/
def Established (thread : Nat) (store : Store) : Event → Prop
  | ⟨.lockRow key, .ok (some version)⟩ =>
      store.owner key = some thread ∧ store.rows.lookup key = some version
  | ⟨.lockSkipLocked key, .ok (some version)⟩ =>
      store.owner key = some thread ∧ store.rows.lookup key = some version
  | ⟨.upsertBump key version, .ok _⟩ =>
      ∃ now, (store.pending thread).lookup key = some (some now) ∧ version ≤ now ∧
        ∀ current, store.rows.lookup key = some current → current < now
  | ⟨.upsertMax key version, .ok _⟩ =>
      ∃ now, (store.pending thread).lookup key = some (some now) ∧ version ≤ now
  | _ => True

/-- What a reply says forever: rows under plain addresses do not come back. -/
def Lasting (store : Store) : Event → Prop
  | ⟨.selectKeys keys, .ok present⟩ =>
      ∀ key ∈ keys, isLegacy key → key ∉ present → store.rows.lookup key = none
  | ⟨.lockRow key, .ok none⟩ => isLegacy key → store.rows.lookup key = none
  | _ => True

/-- What a step of a thread within its transaction leaves to the thread itself. -/
structure Extends (thread : Nat) (before after : Store) : Prop where
  rows : after.rows = before.rows
  owner : ∀ key, before.owner key = some thread → after.owner key = some thread
  pending : ∀ key now, (before.pending thread).lookup key = some (some now) →
    ∃ later, (after.pending thread).lookup key = some (some later) ∧ now ≤ later

theorem Extends.refl (store : Store) : Extends thread store store :=
  ⟨rfl, fun _ owned => owned, fun _ now pending => ⟨now, pending, Nat.le_refl now⟩⟩

theorem lock_extends {key : String} (free : ¬ store.isHeld thread key = true) :
    Extends thread store (store.lock thread key) where
  rows := rfl
  owner _ owned := Store.lock_owner_of owned free
  pending _ now pending := ⟨now, pending, Nat.le_refl now⟩

theorem upsert_extends {key : String} {version : Nat} (free : ¬ store.isHeld thread key = true)
    (raises : ∀ current, store.visible thread key = some current → current ≤ version) :
    Extends thread store (store.write thread key (some version)) where
  rows := rfl
  owner _ owned := Store.lock_owner_of owned free
  pending other now pending := by
    by_cases isKey : other = key
    · subst isKey
      exact ⟨version, Store.write_lookup_self _, Store.visible_le_of_pending raises pending⟩
    · exact ⟨now, by rw [Store.write_lookup_ne _ isKey]; exact pending, Nat.le_refl now⟩

theorem delete_extends {tables : KeyTables} {key new : String} (sound : Sound tables store)
    (free : ¬ store.isHeld thread key = true)
    (translated : hmacKeyFromLegacyKey tables key = some new) :
    Extends thread store (store.write thread key none) where
  rows := rfl
  owner _ owned := Store.lock_owner_of owned free
  pending other now pending := by
    have differs : other ≠ key := by
      rintro rfl
      rw [hmacKey_of_isV2 (sound.raised thread other now pending).1] at translated
      cases translated
    exact ⟨now, by rw [Store.write_lookup_ne _ differs]; exact pending, Nat.le_refl now⟩

theorem Established.extend {event : Event} (established : Established thread store event)
    (extended : Extends thread store after) : Established thread after event := by
  unfold Established at established ⊢
  split at established
  · exact ⟨extended.owner _ established.1, extended.rows ▸ established.2⟩
  · exact ⟨extended.owner _ established.1, extended.rows ▸ established.2⟩
  · obtain ⟨now, pending, below, above⟩ := established
    obtain ⟨later, pending', grown⟩ := extended.pending _ now pending
    refine ⟨later, pending', Nat.le_trans below grown, fun current isCurrent => ?_⟩
    exact Nat.lt_of_lt_of_le (above current (extended.rows ▸ isCurrent)) grown
  · obtain ⟨now, pending, below⟩ := established
    obtain ⟨later, pending', grown⟩ := extended.pending _ now pending
    exact ⟨later, pending', Nat.le_trans below grown⟩
  · trivial

theorem Established.spare {tables : KeyTables} {actor : Nat} {event : Event}
    (established : Established thread store event) (sound : Sound tables store)
    (spares : Spares actor store after) (differs : thread ≠ actor) :
    Established thread after event := by
  unfold Established at established ⊢
  split at established
  · obtain ⟨owned, isRow⟩ := established
    exact ⟨spares.owner thread differs _ owned,
      (spares.rows thread differs _ owned).trans isRow⟩
  · obtain ⟨owned, isRow⟩ := established
    exact ⟨spares.owner thread differs _ owned,
      (spares.rows thread differs _ owned).trans isRow⟩
  · obtain ⟨now, pending, below, above⟩ := established
    have owned := sound.owned thread _ _ pending
    rw [spares.pending thread differs, spares.rows thread differs _ owned]
    exact ⟨now, pending, below, above⟩
  · rw [spares.pending thread differs]
    exact established
  · trivial

/-- What a call within a transaction may do to the store. -/
inductive Within (tables : KeyTables) (thread : Nat) (store : Store) : Store → Prop
  | unchanged : Within tables thread store store
  | locked (key : String) (free : ¬ store.isHeld thread key = true) :
      Within tables thread store (store.lock thread key)
  | raised (key : String) (version : Nat) (free : ¬ store.isHeld thread key = true)
      (new : isV2 tables key)
      (raises : ∀ current, store.visible thread key = some current → current ≤ version) :
      Within tables thread store (store.write thread key (some version))
  | deleted (key new : String) (version : Nat) (free : ¬ store.isHeld thread key = true)
      (translated : hmacKeyFromLegacyKey tables key = some new)
      (moved : (store.pending thread).lookup new = some (some version))
      (below : ∀ current, store.rows.lookup key = some current → current ≤ version) :
      Within tables thread store (store.write thread key none)

variable {tables : KeyTables}

theorem Within.sound (within : Within tables thread store after) (sound : Sound tables store) :
    Sound tables after := by
  cases within with
  | unchanged => exact sound
  | locked key free => exact Store.lock_sound sound free
  | raised key version free new raises => exact Store.upsert_sound sound free new raises
  | deleted key new version free translated moved below =>
    exact Store.delete_sound sound free translated moved below

theorem Within.spares (within : Within tables thread store after) :
    Spares thread store after := by
  cases within with
  | unchanged => exact ⟨fun _ _ => rfl, fun _ _ _ owned => owned, fun _ _ _ _ => rfl⟩
  | locked key free => exact Store.lock_spares free
  | raised key version free new raises => exact Store.write_spares _ free
  | deleted key new version free translated moved below => exact Store.write_spares _ free

theorem Within.extended (within : Within tables thread store after) (sound : Sound tables store) :
    Extends thread store after := by
  cases within with
  | unchanged => exact .refl store
  | locked key free => exact lock_extends free
  | raised key version free new raises => exact upsert_extends free raises
  | deleted key new version free translated moved below =>
    exact delete_extends sound free translated

/-! The statements. -/

theorem mem_lockLatest {key : String} {reply : Option Nat}
    (possible : (reply, after) ∈ lockLatest thread key store) :
    store.rows.lookup key = reply ∧
      after = if reply.isSome then store.lock thread key else store := by
  unfold lockLatest at possible
  split at possible <;> rename_i isRow
  · obtain ⟨rfl, rfl⟩ := Prod.mk.inj (List.mem_singleton.mp possible)
    exact ⟨isRow, rfl⟩
  · obtain ⟨rfl, rfl⟩ := Prod.mk.inj (List.mem_singleton.mp possible)
    exact ⟨isRow, rfl⟩

theorem mem_upsert {key : String} {version : Option Nat → Nat} {written : Nat}
    (possible : (written, after) ∈ upsert thread key store version) :
    ¬ store.isHeld thread key = true ∧ written = version (store.visible thread key) ∧
      after = store.write thread key (some written) := by
  unfold upsert at possible
  split at possible
  · cases possible
  · rename_i free
    obtain ⟨rfl, rfl⟩ := Prod.mk.inj (List.mem_singleton.mp possible)
    exact ⟨free, rfl, rfl⟩

/-- What a call has to rely on. -/
def Justified (tables : KeyTables) (thread : Nat) (store : Store) : Call → Prop
  | .upsertBump key _ => isV2 tables key
  | .upsertMax key _ => isV2 tables key
  | .deleteRow key => ∃ new version, hmacKeyFromLegacyKey tables key = some new ∧
      (store.pending thread).lookup new = some (some version) ∧
        ∀ current, store.rows.lookup key = some current → current ≤ version
  | _ => True

theorem lockLatest_within {key : String} {reply : Option Nat}
    (free : ¬ store.isHeld thread key = true)
    (possible : (reply, after) ∈ lockLatest thread key store) :
    Within tables thread store after ∧ after.rows.lookup key = reply ∧
      (reply.isSome → after.owner key = some thread) := by
  obtain ⟨isRow, rfl⟩ := mem_lockLatest possible
  cases reply with
  | none => exact ⟨.unchanged, isRow, fun some => by cases some⟩
  | some version => exact ⟨.locked key free, isRow, fun _ => Store.lock_owner_self⟩

/-- An upsert that raises what it sees. -/
theorem upsert_within {key : String} {version : Option Nat → Nat} {written : Nat}
    (new : isV2 tables key) (raising : ∀ row current, row = some current → current ≤ version row)
    (possible : (written, after) ∈ upsert thread key store version) :
    Within tables thread store after ∧
      (after.pending thread).lookup key = some (some written) ∧
        written = version (store.visible thread key) ∧ after.rows = store.rows := by
  obtain ⟨free, isWritten, rfl⟩ := mem_upsert possible
  refine ⟨.raised key written free new fun current isCurrent => ?_, Store.write_lookup_self _,
    isWritten, rfl⟩
  rw [isWritten]
  exact raising _ current isCurrent

/-- A thread sees no less than the row under a digest key. -/
theorem visible_of_row {key : String} {current : Nat} (sound : Sound tables store)
    (new : isV2 tables key) (isCurrent : store.rows.lookup key = some current) :
    ∃ now, store.visible thread key = some now ∧ current ≤ now := by
  cases isPending : (store.pending thread).lookup key with
  | none => exact ⟨current, by simp [Store.visible, isPending, isCurrent], Nat.le_refl _⟩
  | some written =>
    cases written with
    | none =>
      obtain ⟨_, _, translated, -⟩ := sound.deleted thread key isPending
      rw [hmacKey_of_isV2 new] at translated
      cases translated
    | some written =>
      exact ⟨written, by simp [Store.visible, isPending],
        (sound.raised thread key written isPending).2 current isCurrent⟩

theorem effects_within (call : Call) (result : Result call) (sound : Sound tables store)
    (isOpen : call ≠ .commit ∧ call ≠ .close) (justified : Justified tables thread store call)
    (possible : (result, after) ∈ effects site thread call store) :
    Within tables thread store after ∧ Established thread after ⟨call, .ok result⟩ ∧
      Lasting after ⟨call, .ok result⟩ := by
  cases call with
  | selectKeys keys =>
    have isPresent : after = store ∧ ∀ key, key ∈ result ↔
        key ∈ keys.filter fun key => (store.rows.lookup key).isSome := by
      simp only [effects, List.mem_cons, List.not_mem_nil, or_false] at possible
      rcases possible with isFirst | isSecond
      · obtain ⟨rfl, rfl⟩ := Prod.mk.inj isFirst
        exact ⟨rfl, fun key => Iff.rfl⟩
      · obtain ⟨rfl, rfl⟩ := Prod.mk.inj isSecond
        exact ⟨rfl, fun key => List.mem_reverse⟩
    obtain ⟨rfl, present⟩ := isPresent
    refine ⟨.unchanged, trivial, fun key member _ absent => ?_⟩
    by_contra isRow
    exact absent ((present key).mpr (List.mem_filter.mpr
      ⟨member, Option.isSome_iff_ne_none.mpr isRow⟩))
  | lockRow key =>
    simp only [effects] at possible
    split at possible
    · cases possible
    · rename_i free
      obtain ⟨within, isRow, owned⟩ := lockLatest_within free possible
      cases result with
      | none => exact ⟨within, trivial, fun _ => isRow⟩
      | some version => exact ⟨within, ⟨owned rfl, isRow⟩, trivial⟩
  | upsertBump key version =>
    have raising (row : Option Nat) (current : Nat) (isRow : row = some current) :
        current ≤ row.elim version fun current => max (current + 1) version := by
      rw [isRow]
      exact Nat.le_trans (Nat.le_succ current) (Nat.le_max_left _ _)
    obtain ⟨within, pending, isWritten, sameRows⟩ := upsert_within justified raising possible
    refine ⟨within, ⟨result, pending, ?_, fun current isCurrent => ?_⟩, trivial⟩
    · rw [isWritten]
      cases store.visible thread key with
      | none => exact Nat.le_refl version
      | some current => exact Nat.le_max_right _ _
    · rw [sameRows] at isCurrent
      obtain ⟨now, isNow, below⟩ := visible_of_row sound justified isCurrent
      rw [isWritten, isNow]
      exact Nat.lt_of_lt_of_le (Nat.lt_succ_of_le below) (Nat.le_max_left _ _)
  | selectLegacy =>
    obtain ⟨-, rfl⟩ := Prod.mk.inj (List.mem_singleton.mp possible)
    exact ⟨.unchanged, trivial, trivial⟩
  | lockSkipLocked key =>
    simp only [effects] at possible
    split at possible
    · obtain ⟨rfl, rfl⟩ := Prod.mk.inj (List.mem_singleton.mp possible)
      exact ⟨.unchanged, trivial, trivial⟩
    · rename_i free
      obtain ⟨within, isRow, owned⟩ := lockLatest_within free possible
      cases result with
      | none => exact ⟨within, trivial, trivial⟩
      | some version => exact ⟨within, ⟨owned rfl, isRow⟩, trivial⟩
  | upsertMax key version =>
    obtain ⟨⟨written, after'⟩, member, same⟩ := List.mem_map.mp possible
    obtain rfl := (Prod.mk.inj same).2
    have raising (row : Option Nat) (current : Nat) (isRow : row = some current) :
        current ≤ row.elim version fun current => max current version := by
      rw [isRow]
      exact Nat.le_max_left _ _
    obtain ⟨within, pending, isWritten, -⟩ := upsert_within justified raising member
    refine ⟨within, ⟨written, pending, ?_⟩, trivial⟩
    rw [isWritten]
    cases store.visible thread key with
    | none => exact Nat.le_refl version
    | some current => exact Nat.le_max_right _ _
  | deleteRow key =>
    obtain ⟨new, version, translated, moved, below⟩ := justified
    simp only [effects] at possible
    split at possible
    · obtain ⟨-, rfl⟩ := Prod.mk.inj (List.mem_singleton.mp possible)
      exact ⟨.unchanged, trivial, trivial⟩
    · split at possible
      · cases possible
      · rename_i free
        obtain ⟨-, rfl⟩ := Prod.mk.inj (List.mem_singleton.mp possible)
        exact ⟨.deleted key new version free translated moved below, trivial, trivial⟩
  | commit => exact absurd rfl isOpen.1
  | acknowledge =>
    obtain ⟨-, rfl⟩ := Prod.mk.inj (List.mem_singleton.mp possible)
    exact ⟨.unchanged, trivial, trivial⟩
  | close => exact absurd rfl isOpen.2

/-- A step of a thread leaves its transaction open, or ends it with or without its writes. -/
theorem outcomes_cases (call : Call) (reply : Reply call) (sound : Sound tables store)
    (justified : Justified tables thread store call)
    (possible : (reply, after) ∈ outcomes site thread call store) :
    (∃ result, reply = .ok result ∧ call ≠ .commit ∧ call ≠ .close ∧
        Within tables thread store after ∧ Established thread after ⟨call, .ok result⟩ ∧
          Lasting after ⟨call, .ok result⟩) ∨
      (ends ⟨call, reply⟩ ∧ Lasting after ⟨call, reply⟩ ∧
        ((⟨call, reply⟩ : Event) = ⟨.commit, .ok ()⟩ ∧ after = store.commit thread ∨
          (⟨call, reply⟩ : Event) ≠ ⟨.commit, .ok ()⟩ ∧ after = store.release thread)) := by
  rcases List.mem_append.mp possible with succeeded | isFailure
  · obtain ⟨⟨result, after'⟩, effect, same⟩ := List.mem_map.mp succeeded
    obtain ⟨rfl, rfl⟩ := Prod.mk.inj same
    by_cases isCommit : call = .commit
    · subst isCommit
      obtain ⟨-, rfl⟩ := Prod.mk.inj (List.mem_singleton.mp effect)
      exact Or.inr ⟨Or.inl rfl, trivial, Or.inl ⟨rfl, rfl⟩⟩
    by_cases isClose : call = .close
    · subst isClose
      obtain ⟨-, rfl⟩ := Prod.mk.inj (List.mem_singleton.mp effect)
      exact Or.inr ⟨Or.inr (Or.inl rfl), trivial, Or.inr ⟨by simp, rfl⟩⟩
    · exact Or.inl ⟨result, rfl, isCommit, isClose,
        effects_within call result sound ⟨isCommit, isClose⟩ justified effect⟩
  · obtain ⟨rfl, rfl⟩ := Prod.mk.inj (List.mem_singleton.mp isFailure)
    refine Or.inr ⟨Or.inr (Or.inr ⟨_, rfl⟩), ?_, Or.inr ⟨?_, rfl⟩⟩
    · cases call <;> trivial
    · intro same
      have isCommit : call = .commit := congrArg Sigma.fst same
      subst isCommit
      simp at same

end Calls

/-! ## What a transaction relies on -/

section Programs

variable {site : Site} {request : Request} {trace : List Event}

/-- The two keys of the version that a request bumps. -/
def bumped (tables : KeyTables) : Request → Option (String × String)
  | .bumpAccountVersion email =>
      some (tables.accountVersionKey email, legacyAccountVersionKey email)
  | .bumpChainVersion email chainId =>
      some (tables.chainVersionKey email chainId, legacyChainVersionKey email chainId)
  | .migrateBatch _ => none

/-- The transaction wrote the version above the rows it found under both keys. -/
def WroteAbove (trace : List Event) (key legacyKey : String) : Prop :=
  ∃ present version written, ⟨.selectKeys [key, legacyKey], .ok present⟩ ∈ trace ∧
    ⟨.upsertBump key version, .ok written⟩ ∈ trace ∧ 0 < version ∧
      ∀ row ∈ present, ⟨.lockRow row, .ok none⟩ ∈ trace ∨
        ∃ current, ⟨.lockRow row, .ok (some current)⟩ ∈ trace ∧ current < version

def discipline (site : Site) (request : Request) : Discipline Reply where
  allows trace call := match call with
    | .upsertBump key _ => isV2 site.keys key
    | .upsertMax key _ => isV2 site.keys key
    | .deleteRow key => Open trace ∧ ∃ new version,
        hmacKeyFromLegacyKey site.keys key = some new ∧
          ⟨.upsertMax new version, .ok ()⟩ ∈ trace ∧
            ⟨.lockSkipLocked key, .ok (some version)⟩ ∈ trace
    | .commit => ∀ key legacyKey, bumped site.keys request = some (key, legacyKey) →
        Open trace ∧ WroteAbove trace key legacyKey
    | _ => True
  answers _ _ := True

theorem Open.nil : Open [] := by
  simp [Open]

theorem Open.cons {call : Call} {result : Result call} (isOpen : Open trace)
    (inside : call ≠ .commit ∧ call ≠ .close) : Open (⟨call, .ok result⟩ :: trace) := by
  intro event member
  rcases List.mem_cons.mp member with rfl | old
  · rintro (isCommit | isClose | ⟨failure, isError⟩)
    · exact inside.1 isCommit
    · exact inside.2 isClose
    · cases isError
  · exact isOpen event old

/-- One statement; after a failure only the session is closed. -/
theorem execute_meets (call : Call) {post : Except Failure (Result call) → List Event → Prop}
    (allowed : (discipline site request).allows trace call)
    (raised : ∀ failure later, post (.error failure) later)
    (next : ∀ result, post (.ok result) (⟨call, .ok result⟩ :: trace)) :
    (execute call).Meets (discipline site request) post trace := by
  rw [execute, Program.meets_attempt]
  refine ⟨allowed, fun reply _ => ?_⟩
  match reply with
  | .error failure => exact raised failure _
  | .ok result => exact next result

theorem close_meets (trace : List Event) :
    (execute .close).Meets (discipline site request) (fun _ _ => True) trace :=
  execute_meets .close trivial (fun _ _ => trivial) fun _ => trivial

theorem lockRows_meets (keys : List String) {post : Except Failure (List Nat) → List Event → Prop}
    (isOpen : Open trace) (raised : ∀ failure later, post (.error failure) later)
    (next : ∀ versions later, Open later → trace <:+ later →
      (∀ key ∈ keys, ⟨.lockRow key, .ok none⟩ ∈ later ∨
        ∃ current, ⟨.lockRow key, .ok (some current)⟩ ∈ later ∧ current ≤ versions.foldr max 0) →
      post (.ok versions) later) :
    (lockRows keys).Meets (discipline site request) post trace := by
  induction keys generalizing trace post with
  | nil => exact next [] trace isOpen (List.suffix_refl _) (by simp)
  | cons key rest ih =>
    rw [lockRows, Program.meets_bind]
    refine execute_meets (.lockRow key) trivial raised fun found => ?_
    have isOpen' : Open (⟨.lockRow key, .ok found⟩ :: trace) := isOpen.cons ⟨by simp, by simp⟩
    cases found with
    | none =>
      refine ih isOpen' raised fun versions later open' suffix locked => ?_
      refine next versions later open' ((List.suffix_cons _ _).trans suffix) fun other member => ?_
      rcases List.mem_cons.mp member with rfl | inRest
      · exact Or.inl (suffix.subset List.mem_cons_self)
      · exact locked other inRest
    | some version =>
      simp only
      rw [Program.meets_bind]
      refine ih isOpen' raised fun versions later open' suffix locked => ?_
      refine next (version :: versions) later open' ((List.suffix_cons _ _).trans suffix)
        fun other member => ?_
      rw [List.foldr_cons]
      rcases List.mem_cons.mp member with rfl | inRest
      · exact Or.inr ⟨version, suffix.subset List.mem_cons_self, Nat.le_max_left _ _⟩
      · rcases locked other inRest with vanished | ⟨current, isLocked, below⟩
        · exact Or.inl vanished
        · exact Or.inr ⟨current, isLocked, Nat.le_trans below (Nat.le_max_right _ _)⟩

theorem bumpVersion_meets {key legacyKey : String} (new : isV2 site.keys key)
    (isBumped : bumped site.keys request = some (key, legacyKey)) :
    (bumpVersion key legacyKey).Meets (discipline site request) (fun _ _ => True) [] := by
  rw [bumpVersion, Program.meets_finally, Program.meets_bind]
  refine execute_meets _ trivial (fun _ => close_meets) fun present => ?_
  simp only
  rw [Program.meets_bind]
  refine lockRows_meets present (Open.nil.cons ⟨by simp, by simp⟩) (fun _ => close_meets)
    fun versions later isOpen suffix locked => ?_
  simp only
  rw [Program.meets_bind]
  refine execute_meets _ new (fun _ => close_meets) fun written => ?_
  simp only
  rw [Program.meets_bind]
  refine execute_meets .commit ?_ (fun _ => close_meets) fun _ => ?_
  · intro key' legacyKey' isBumped'
    obtain ⟨rfl, rfl⟩ := Prod.mk.inj (Option.some.inj (isBumped.symm.trans isBumped'))
    refine ⟨isOpen.cons ⟨by simp, by simp⟩, present, _, written, ?_, List.mem_cons_self,
      Nat.succ_pos _, fun row member => ?_⟩
    · exact List.mem_cons_of_mem _ (suffix.subset List.mem_cons_self)
    · rcases locked row member with vanished | ⟨current, isLocked, below⟩
      · exact Or.inl (List.mem_cons_of_mem _ vanished)
      · exact Or.inr ⟨current, List.mem_cons_of_mem _ isLocked, Nat.lt_succ_of_le below⟩
  · simp only
    rw [Program.meets_bind]
    exact execute_meets _ trivial (fun _ => close_meets) fun _ => close_meets _

theorem lockBatch_meets (limit : Nat) (keys : List String)
    {post : Except Failure (List (String × Nat)) → List Event → Prop}
    (isOpen : Open trace) (raised : ∀ failure later, post (.error failure) later)
    (next : ∀ rows later, Open later → trace <:+ later →
      (∀ row ∈ rows, ⟨.lockSkipLocked row.1, .ok (some row.2)⟩ ∈ later) → post (.ok rows) later) :
    (lockBatch limit keys).Meets (discipline site request) post trace := by
  induction keys generalizing limit trace post with
  | nil => cases limit <;> exact next [] trace isOpen (List.suffix_refl _) (by simp)
  | cons key rest ih =>
    cases limit with
    | zero => exact next [] trace isOpen (List.suffix_refl _) (by simp)
    | succ limit =>
      rw [lockBatch, Program.meets_bind]
      refine execute_meets (.lockSkipLocked key) trivial raised fun found => ?_
      have isOpen' : Open (⟨.lockSkipLocked key, .ok found⟩ :: trace) :=
        isOpen.cons ⟨by simp, by simp⟩
      cases found with
      | none =>
        refine ih _ isOpen' raised fun rows later open' suffix locked => ?_
        exact next rows later open' ((List.suffix_cons _ _).trans suffix) locked
      | some version =>
        simp only
        rw [Program.meets_bind]
        refine ih _ isOpen' raised fun rows later open' suffix locked => ?_
        refine next _ later open' ((List.suffix_cons _ _).trans suffix) fun row member => ?_
        rcases List.mem_cons.mp member with rfl | inRest
        · exact suffix.subset List.mem_cons_self
        · exact locked row inRest

theorem migrateRows_meets (rows : List (String × Nat))
    {post : Except Failure Unit → List Event → Prop} (isOpen : Open trace)
    (locked : ∀ row ∈ rows, ⟨.lockSkipLocked row.1, .ok (some row.2)⟩ ∈ trace)
    (raised : ∀ failure later, post (.error failure) later)
    (next : ∀ later, post (.ok ()) later) :
    (migrateRows site rows).Meets (discipline site request) post trace := by
  induction rows generalizing trace with
  | nil => exact next trace
  | cons row rest ih =>
    obtain ⟨oldKey, version⟩ := row
    unfold migrateRows
    split
    · exact raised _ _
    · rename_i newKey translated
      have isLocked := locked (oldKey, version) List.mem_cons_self
      rw [Program.meets_bind]
      refine execute_meets _ (isV2_of_hmacKey translated) raised fun _ => ?_
      simp only
      rw [Program.meets_bind]
      refine execute_meets _ ⟨isOpen.cons ⟨by simp, by simp⟩, newKey, version, translated,
        List.mem_cons_self, List.mem_cons_of_mem _ isLocked⟩ raised fun _ => ?_
      refine ih ((isOpen.cons ⟨by simp, by simp⟩).cons ⟨by simp, by simp⟩) fun row member => ?_
      exact List.mem_cons_of_mem _ (List.mem_cons_of_mem _
        (locked row (List.mem_cons_of_mem _ member)))

theorem migrateBatch_meets (batchSize : Nat) (isNone : bumped site.keys request = none) :
    (migrateBatch site batchSize).Meets (discipline site request) (fun _ _ => True) [] := by
  rw [migrateBatch, Program.meets_finally, Program.meets_bind]
  refine execute_meets _ trivial (fun _ => close_meets) fun keys => ?_
  simp only
  rw [Program.meets_bind]
  refine lockBatch_meets batchSize keys (Open.nil.cons ⟨by simp, by simp⟩) (fun _ => close_meets)
    fun rows later isOpen suffix locked => ?_
  simp only
  split
  · exact close_meets _
  · rw [Program.meets_bind]
    refine migrateRows_meets rows isOpen locked (fun _ => close_meets) fun later' => ?_
    simp only
    rw [Program.meets_bind]
    refine execute_meets .commit ?_ (fun _ => close_meets) fun _ => ?_
    · intro key legacyKey isBumped
      rw [isNone] at isBumped
      cases isBumped
    · simp only
      rw [Program.meets_bind]
      exact execute_meets _ trivial (fun _ => close_meets) fun _ => close_meets _

theorem server_obeys (site : Site) :
    (server site).Obeys (discipline site) (fun _ _ _ => True) where
  programs request := by
    change (handle site request).Meets _ _ _
    cases request with
    | bumpAccountVersion email =>
      rw [handle, Program.meets_bind, bumpAccountVersion, Program.meets_tryCatch,
        Program.meets_bind]
      refine (bumpVersion_meets (Or.inl ⟨_, rfl⟩) rfl).mono fun result _ _ _ => ?_
      cases result <;> trivial
    | bumpChainVersion email chainId =>
      rw [handle, Program.meets_bind, bumpChainVersion, Program.meets_tryCatch,
        Program.meets_bind]
      have noColon : ':' ∉ chainId.val.toList := fun member => (chainId.property _ member).1 rfl
      refine (bumpVersion_meets (Or.inr ⟨_, _, noColon, rfl⟩) rfl).mono fun result _ _ _ => ?_
      cases result <;> trivial
    | migrateBatch batchSize =>
      rw [handle, Program.meets_bind]
      refine (migrateBatch_meets batchSize rfl).mono fun result _ _ _ => ?_
      cases result <;> trivial
  answers _ _ _ _ _ _ := trivial

end Programs

/-! ## Along a run -/

section Runs

variable {site : Site} {rows : Rows} {thread : Nat} {key legacyKey : String}
variable {store : Store} {earlier later : Server}

/-- The two keys of one version. -/
structure Paired (tables : KeyTables) (key legacyKey : String) : Prop where
  new : isV2 tables key
  legacy : isLegacy legacyKey
  translated : ∀ other, hmacKeyFromLegacyKey tables legacyKey = some other → other = key

theorem paired_account (tables : KeyTables) (email : StoredEmail) :
    Paired tables (tables.accountVersionKey email) (legacyAccountVersionKey email) :=
  ⟨Or.inl ⟨email, rfl⟩, Or.inl ⟨email, rfl⟩, fun _ => hmacKey_legacyAccount email.val⟩

theorem paired_chain (tables : KeyTables) (email : StoredEmail) (chainId : ChainId) :
    Paired tables (tables.chainVersionKey email chainId)
      (legacyChainVersionKey email chainId) :=
  ⟨Or.inr ⟨email, chainId, fun member => (chainId.property _ member).1 rfl, rfl⟩,
    Or.inr ⟨email, chainId, rfl⟩, fun _ => hmacKey_legacyChain email.val chainId⟩

theorem paired_bumped {request : Request}
    (isBumped : bumped site.keys request = some (key, legacyKey)) :
    Paired site.keys key legacyKey := by
  cases request with
  | bumpAccountVersion email =>
    obtain ⟨rfl, rfl⟩ := Prod.mk.inj (Option.some.inj isBumped)
    exact paired_account site.keys email
  | bumpChainVersion email chainId =>
    obtain ⟨rfl, rfl⟩ := Prod.mk.inj (Option.some.inj isBumped)
    exact paired_chain site.keys email chainId
  | migrateBatch batchSize => cases isBumped

/-- A row in the new format is never taken back by its own transaction. -/
theorem row_le_visible (thread : Nat) (sound : Sound site.keys store) (new : isV2 site.keys key) :
    (store.rows.lookup key).getD 0 ≤ (store.visible thread key).getD 0 := by
  unfold Store.visible
  cases isPending : (store.pending thread).lookup key with
  | none => exact Nat.le_refl _
  | some written =>
    cases written with
    | none =>
      obtain ⟨_, _, translated, -⟩ := sound.deleted thread key isPending
      rw [hmacKey_of_isV2 new] at translated
      cases translated
    | some version =>
      have below := (sound.raised thread key version isPending).2
      cases isRow : store.rows.lookup key with
      | none => exact Nat.zero_le _
      | some current => exact below current isRow

section Formats

variable (noAtSign : ∀ message, '@' ∉ (site.keys.hmacHex message).toList)

include noAtSign

/-- A row under a plain address is kept as it is, or deleted once its version was moved. -/
theorem legacy_visible (thread : Nat) (sound : Sound site.keys store) (legacy : isLegacy legacyKey) :
    store.visible thread legacyKey = store.rows.lookup legacyKey ∨
      store.visible thread legacyKey = none ∧ ∃ new version,
        hmacKeyFromLegacyKey site.keys legacyKey = some new ∧
          store.visible thread new = some version ∧
            ∀ current, store.rows.lookup legacyKey = some current → current ≤ version := by
  cases isPending : (store.pending thread).lookup legacyKey with
  | none => exact Or.inl (by simp [Store.visible, isPending])
  | some written =>
    cases written with
    | some version =>
      exact absurd (sound.raised thread legacyKey version isPending).1
        (not_isV2_of_isLegacy noAtSign legacy)
    | none =>
      obtain ⟨new, version, translated, moved, below⟩ := sound.deleted thread legacyKey isPending
      exact Or.inr ⟨by simp [Store.visible, isPending], new, version, translated,
        by simp [Store.visible, moved], below⟩

theorem commit_effective (sound : Sound site.keys store) (paired : Paired site.keys key legacyKey) :
    store.effective key legacyKey ≤ (store.commit thread).effective key legacyKey := by
  unfold Store.effective
  rw [Store.commit_lookup, Store.commit_lookup]
  have grown := row_le_visible thread sound paired.new
  rcases legacy_visible noAtSign thread sound paired.legacy with
    kept | ⟨gone, new, version, translated, moved, below⟩
  · rw [kept]
    omega
  · obtain rfl := paired.translated new translated
    have legacyBelow : (store.rows.lookup legacyKey).getD 0 ≤ version := by
      cases isRow : store.rows.lookup legacyKey with
      | none => exact Nat.zero_le _
      | some current => exact below current isRow
    rw [moved, Option.getD_some] at grown ⊢
    omega

theorem commit_absent (sound : Sound site.keys store) (legacy : isLegacy legacyKey)
    (absent : store.rows.lookup legacyKey = none) :
    (store.commit thread).rows.lookup legacyKey = none := by
  rw [Store.commit_lookup]
  rcases legacy_visible noAtSign thread sound legacy with kept | ⟨gone, -⟩
  · exact kept.trans absent
  · exact gone

end Formats

theorem Lasting.keep {after : Store} {event : Event} (lasting : Lasting store event)
    (absent : ∀ key, isLegacy key → store.rows.lookup key = none →
      after.rows.lookup key = none) : Lasting after event := by
  unfold Lasting at lasting ⊢
  split at lasting
  · exact fun key member legacy gone => absent key legacy (lasting key member legacy gone)
  · exact fun legacy => absent _ legacy (lasting legacy)
  · trivial

/-- What holds of the store and of every reply so far. -/
structure Kept (site : Site) (store : Store) (history : List (Nat × Event)) : Prop where
  sound : Sound site.keys store
  lasting : ∀ entry ∈ history, Lasting store entry.2
  established : ∀ thread, Open (traceOf history thread) →
    ∀ event ∈ traceOf history thread, Established thread store event

/-- A thread makes its calls on good grounds. -/
theorem Kept.justified {history : List (Nat × Event)} (kept : Kept site store history)
    {request : Request} (call : Call)
    (allowed : (discipline site request).allows (traceOf history thread) call) :
    Justified site.keys thread store call := by
  cases call with
  | upsertBump key version => exact allowed
  | upsertMax key version => exact allowed
  | deleteRow key =>
    obtain ⟨isOpen, new, version, translated, moved, locked⟩ := allowed
    obtain ⟨now, pending, below⟩ := kept.established thread isOpen _ moved
    have isRow : store.rows.lookup key = some version :=
      (kept.established thread isOpen _ locked).2
    refine ⟨new, now, translated, pending, fun current isCurrent => ?_⟩
    obtain rfl := Option.some.inj (isRow.symm.trans isCurrent)
    exact below
  | _ => trivial

/-- The store after a step: unchanged rows, or those of a commit. -/
theorem kept_step (noAtSign : ∀ message, '@' ∉ (site.keys.hmacHex message).toList)
    {history : List (Nat × Event)} (kept : Kept site store history) {call : Call}
    {reply : Reply call} {after : Store} (justified : Justified site.keys thread store call)
    (possible : (reply, after) ∈ outcomes site thread call store) :
    Kept site after ((thread, ⟨call, reply⟩) :: history) ∧
      (after.rows = store.rows ∨
        (⟨call, reply⟩ : Event) = ⟨.commit, .ok ()⟩ ∧ after = store.commit thread) := by
  have others {actor : Nat} (differs : thread ≠ actor) (sound : Sound site.keys store)
      (spares : Spares thread store after)
      (isOpen : Open (traceOf ((thread, ⟨call, reply⟩) :: history) actor)) (event : Event)
      (member : event ∈ traceOf ((thread, ⟨call, reply⟩) :: history) actor) :
      Established actor after event := by
    rw [traceOf_cons_ne history differs] at isOpen member
    exact (kept.established actor isOpen event member).spare sound spares differs.symm
  rcases outcomes_cases call reply kept.sound justified possible with
    ⟨result, rfl, notCommit, notClose, within, established, lasting⟩ | ⟨ended, lasting, ending⟩
  · have extended := within.extended kept.sound
    refine ⟨⟨within.sound kept.sound, fun entry member => ?_, fun actor isOpen event member => ?_⟩,
      Or.inl extended.rows⟩
    · rcases List.mem_cons.mp member with rfl | old
      · exact lasting
      · exact (kept.lasting entry old).keep fun key _ absent => extended.rows ▸ absent
    · by_cases isActor : thread = actor
      · subst isActor
        rw [traceOf_cons_self] at isOpen member
        have wasOpen : Open (traceOf history thread) := fun event old =>
          isOpen event (List.mem_cons_of_mem _ old)
        rcases List.mem_cons.mp member with rfl | old
        · exact established
        · exact (kept.established thread wasOpen event old).extend extended
      · exact others isActor kept.sound within.spares isOpen event member
  · have ownEnded (isOpen : Open (traceOf ((thread, ⟨call, reply⟩) :: history) thread)) : False := by
      rw [traceOf_cons_self] at isOpen
      exact isOpen _ List.mem_cons_self ended
    have finished (sound : Sound site.keys after) (spares : Spares thread store after)
        (absent : ∀ key, isLegacy key → store.rows.lookup key = none →
          after.rows.lookup key = none) :
        Kept site after ((thread, ⟨call, reply⟩) :: history) := by
      refine ⟨sound, fun entry member => ?_, fun actor isOpen event member => ?_⟩
      · rcases List.mem_cons.mp member with rfl | old
        · exact lasting
        · exact (kept.lasting entry old).keep absent
      · by_cases isActor : thread = actor
        · subst isActor
          exact (ownEnded isOpen).elim
        · exact others isActor kept.sound spares isOpen event member
    rcases ending with ⟨isCommit, rfl⟩ | ⟨-, rfl⟩
    · refine ⟨finished (Store.commit_sound kept.sound) (Store.commit_spares thread kept.sound)
        fun key legacy absent => ?_, Or.inr ⟨isCommit, rfl⟩⟩
      exact commit_absent noAtSign kept.sound legacy absent
    · exact ⟨finished (Store.release_sound kept.sound) Store.release_spares fun _ _ absent => absent,
        Or.inl rfl⟩

theorem kept_start (rows : Rows) : Kept site (Store.initial rows) [] where
  sound :=
    { owned := fun _ _ _ pending => by cases pending
      raised := fun _ _ _ pending => by cases pending
      deleted := fun _ _ pending => by cases pending }
  lasting := by simp
  established := by simp

/-- The call that a thread is answered is one that its request's transaction may make. -/
theorem answers_allowed {start before after : Server} {event : Event} {state : Store}
    (isStart : start = Config.start state) (run : Reaches (server site) anyCall start before)
    (answers : Answers (server site) anyCall before after thread event) :
    ∃ request next, before.threads[thread]? = some ⟨request, .call event.1 next⟩ ∧
      (discipline site request).allows (traceOf before.history thread) event.1 := by
  subst isStart
  obtain ⟨request, next, running⟩ := answers.running
  exact ⟨request, next, running, (run.disciplined (server_obeys site)).allows running⟩

/-- The commit of a bump puts the version above both rows. -/
theorem commit_bump {history : List (Nat × Event)} (kept : Kept site store history)
    (paired : Paired site.keys key legacyKey) (isOpen : Open (traceOf history thread))
    (wrote : WroteAbove (traceOf history thread) key legacyKey) :
    store.effective key legacyKey < (store.commit thread).effective key legacyKey := by
  obtain ⟨present, version, written, selected, upserted, positive, locked⟩ := wrote
  obtain ⟨now, pending, below, above⟩ := kept.established thread isOpen _ upserted
  have isNow : store.visible thread key = some now := by simp [Store.visible, pending]
  have rowBelow : (store.rows.lookup key).getD 0 < now := by
    cases isRow : store.rows.lookup key with
    | none => exact Nat.lt_of_lt_of_le positive below
    | some current => exact above current isRow
  have legacyBelow : (store.rows.lookup legacyKey).getD 0 < now := by
    cases isRow : store.rows.lookup legacyKey with
    | none => exact Nat.lt_of_lt_of_le positive below
    | some current =>
      have inPresent : legacyKey ∈ present := by
        by_contra absent
        have lasting := kept.lasting _ ((mem_traceOf _ _ _).mp selected)
        rw [lasting legacyKey (by simp) paired.legacy absent] at isRow
        cases isRow
      rcases locked legacyKey inPresent with vanished | ⟨current', isLocked, small⟩
      · rw [kept.lasting _ ((mem_traceOf _ _ _).mp vanished) paired.legacy] at isRow
        cases isRow
      · have same : store.rows.lookup legacyKey = some current' :=
          (kept.established thread isOpen _ isLocked).2
        obtain rfl := Option.some.inj (isRow.symm.trans same)
        exact Nat.lt_of_lt_of_le small below
  unfold Store.effective
  rw [Store.commit_lookup, Store.commit_lookup, isNow, Option.getD_some]
  omega

variable (noAtSign : ∀ message, '@' ∉ (site.keys.hmacHex message).toList)

include noAtSign

theorem kept_of_run (run : Reaches (server site) anyCall (Config.start (Store.initial rows)) later) :
    Kept site later.state later.history := by
  refine run.keeps (Kept site) (kept_start rows) (fun event => event.elim)
    fun before after thread event earlier answers kept => ?_
  obtain ⟨request, next, -, allowed⟩ := answers_allowed rfl earlier answers
  exact (kept_step noAtSign kept (kept.justified event.1 allowed) answers.possible).1

theorem step_effective {before after : Server} (paired : Paired site.keys key legacyKey)
    (run : Reaches (server site) anyCall (Config.start (Store.initial rows)) before)
    (step : Step (server site) anyCall before after) :
    before.state.effective key legacyKey ≤ after.state.effective key legacyKey := by
  rcases step.cases_answers with ⟨-, same | ⟨event, -⟩⟩ | ⟨thread, event, answers⟩
  · rw [same]
  · exact event.elim
  · have kept := kept_of_run noAtSign run
    obtain ⟨request, next, -, allowed⟩ := answers_allowed rfl run answers
    rcases (kept_step noAtSign kept (kept.justified event.1 allowed) answers.possible).2 with
      sameRows | ⟨-, isCommit⟩
    · simp only [Store.effective, sameRows, Nat.le_refl]
    · rw [isCommit]
      exact commit_effective noAtSign kept.sound paired

theorem run_effective (paired : Paired site.keys key legacyKey)
    (first : Reaches (server site) anyCall (Config.start (Store.initial rows)) earlier)
    (rest : Reaches (server site) anyCall earlier later) :
    earlier.state.effective key legacyKey ≤ later.state.effective key legacyKey :=
  rest.preserves (fun config => earlier.state.effective key legacyKey ≤
    config.state.effective key legacyKey) (Nat.le_refl _) fun _ _ run below step =>
      Nat.le_trans below (step_effective noAtSign paired (first.trans run) step)

theorem bump_effective {request : Request} {program : Service Response}
    (first : Reaches (server site) anyCall (Config.start (Store.initial rows)) earlier)
    (rest : Reaches (server site) anyCall earlier later)
    (present : later.threads[thread]? = some ⟨request, program⟩)
    (isBumped : bumped site.keys request = some (key, legacyKey))
    (committed : (thread, ⟨.commit, .ok ()⟩) ∈ later.history)
    (notBefore : (thread, ⟨.commit, .ok ()⟩) ∉ earlier.history) :
    earlier.state.effective key legacyKey < later.state.effective key legacyKey := by
  have paired := paired_bumped isBumped
  have member : (⟨.commit, .ok ()⟩ : Event) ∈ later.trace thread :=
    (Config.mem_trace _ _).mpr committed
  obtain ⟨newer, older, isTrace⟩ := List.append_of_mem member
  obtain ⟨before, after, run, answers, -, rest'⟩ :=
    rest.answered_within ⟨newer, isTrace.symm⟩ fun within =>
      notBefore ((Config.mem_trace _ _).mp (within.subset List.mem_cons_self))
  have kept := kept_of_run noAtSign (first.trans run)
  obtain ⟨next, running⟩ := answers.running_as rest' present
  have whole : Reaches (server site) anyCall (Config.start (Store.initial rows)) before :=
    first.trans run
  obtain ⟨isOpen, wrote⟩ :=
    (whole.disciplined (server_obeys site)).allows running key legacyKey isBumped
  have grown := commit_bump kept paired isOpen wrote
  have isAfter : after.state = before.state.commit thread := by
    rcases outcomes_cases .commit (.ok ()) kept.sound trivial answers.possible with
      ⟨_, -, notCommit, -⟩ | ⟨-, -, ⟨-, isCommit⟩ | ⟨notCommit, -⟩⟩
    · exact absurd rfl notCommit
    · exact isCommit
    · exact absurd rfl notCommit
  calc earlier.state.effective key legacyKey
      ≤ before.state.effective key legacyKey := run_effective noAtSign paired first run
    _ < after.state.effective key legacyKey := by rw [isAfter]; exact grown
    _ ≤ later.state.effective key legacyKey :=
      run_effective noAtSign paired (whole.tail answers.step) rest'

end Runs

/-- Effective versions never decrease, and a bump that commits in between makes its own greater. -/
theorem versions_only_grow (site : Site)
    (noAtSign : ∀ message, '@' ∉ (site.keys.hmacHex message).toList) (rows : Rows)
    (earlier later : Server)
    (first : Reaches (server site) anyCall (Config.start (Store.initial rows)) earlier)
    (rest : Reaches (server site) anyCall earlier later) :
    (∀ email : StoredEmail,
        earlier.state.accountVersion site email ≤ later.state.accountVersion site email) ∧
      (∀ (email : StoredEmail) (chainId : ChainId),
        earlier.state.chainVersion site email chainId ≤
          later.state.chainVersion site email chainId) ∧
      (∀ (thread : Nat) (email : StoredEmail) (program : Service Response),
        later.threads[thread]? = some ⟨.bumpAccountVersion email, program⟩ →
        (thread, ⟨.commit, .ok ()⟩) ∈ later.history →
        (thread, ⟨.commit, .ok ()⟩) ∉ earlier.history →
          earlier.state.accountVersion site email < later.state.accountVersion site email) ∧
      ∀ (thread : Nat) (email : StoredEmail) (chainId : ChainId) (program : Service Response),
        later.threads[thread]? = some ⟨.bumpChainVersion email chainId, program⟩ →
        (thread, ⟨.commit, .ok ()⟩) ∈ later.history →
        (thread, ⟨.commit, .ok ()⟩) ∉ earlier.history →
          earlier.state.chainVersion site email chainId <
            later.state.chainVersion site email chainId := by
  refine ⟨fun email => ?_, fun email chainId => ?_, fun thread email program present committed
    notBefore => ?_, fun thread email chainId program present committed notBefore => ?_⟩
  · exact run_effective noAtSign (paired_account site.keys email) first rest
  · exact run_effective noAtSign (paired_chain site.keys email chainId) first rest
  · exact bump_effective noAtSign first rest present rfl committed notBefore
  · exact bump_effective noAtSign first rest present rfl committed notBefore

/-! ## A run -/

def exampleSite : Site where
  keys := exampleTables
  collate left right := decide (left ≤ right)

def ann : StoredEmail := ⟨"ann@example.org", by decide⟩

def annRows : Rows :=
  (∅ : Rows).insert (legacyAccountVersionKey ann) 3

/-- A bump within a round of the migration, then another round and another bump. -/
def annMoves : List (Move Request Empty) :=
  [.begin (.bumpAccountVersion ann), .begin (.migrateBatch 10)] ++ Move.turns 0 2 ++
    Move.turns 1 3 ++ Move.turns 0 4 ++ [.begin (.migrateBatch 10)] ++ Move.turns 2 7 ++
      [.begin (.bumpAccountVersion ann)] ++ Move.turns 3 6

def annRun : Server :=
  (Config.start (Store.initial annRows)).follow (server exampleSite) annMoves

instance (call : Call) : DecidableEq (Result call) := by
  cases call <;> infer_instance

theorem versions_only_grow_ann :
    (Store.initial annRows).accountVersion exampleSite ann <
        annRun.state.accountVersion exampleSite ann ∧
      annRun.state.accountVersion exampleSite ann = 5 := by
  have run : Reaches (server exampleSite) anyCall (Config.start (Store.initial annRows)) annRun :=
    Config.follow_reaches _ _ annMoves
  -- one evaluation of the run for all that is read of it
  obtain ⟨isRequest, committed, isFive⟩ :
      (annRun.threads[3]?).map Thread.request = some (.bumpAccountVersion ann) ∧
        (3, ⟨.commit, .ok ()⟩) ∈ annRun.history ∧
          annRun.state.accountVersion exampleSite ann = 5 := by
    decide +kernel
  obtain ⟨program, present⟩ := annRun.present_of_request 3 (.bumpAccountVersion ann) isRequest
  have grown := versions_only_grow exampleSite exampleTables_sound.noAtSign annRows _ annRun .refl run
  exact ⟨grown.2.2.1 3 ann program present committed (by simp [Config.start]), isFive⟩

end MysticAuth.Versions
