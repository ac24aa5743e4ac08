import MysticAuth.Passkeys.CeremonyTraces

/-!
# Locked rows stay as they were read

While a transaction has locked a row, no other transaction and nothing from
outside changes it.
-/

set_option autoImplicit false

namespace MysticAuth.Passkeys

open Interleaving

/-! ## What an answer does -/

/-- The tables after a call. -/
def Store.commit (store : Store) (event : Event) : Store :=
  match event with
  | ⟨.insertChallenge row, reply⟩ => if reply.committed.isSome then store.putChallenge row else store
  | ⟨.commitConsumed challenge time, reply⟩ =>
      if reply.committed.isSome then store.consume challenge time else store
  | ⟨.insertCredential row, reply⟩ =>
      if reply.committed.isSome then store.insertCredential row else store
  | ⟨.commitSignCount id signCount time, reply⟩ =>
      if reply.committed.isSome then
        store.mapCredential id fun row => { row with signCount, lastUsedAt := some time }
      else store
  | _ => store

/-- What a call may have written. -/
inductive Written (store : Store) : Event → Store → Prop
  | nothing (event : Event) : Written store event store
  | challenge (row : PasskeyChallenge) (reply : Write Unit)
      (isCommitted : reply.committed.isSome = true) :
      Written store ⟨.insertChallenge row, reply⟩ (store.putChallenge row)
  | consumed (challenge : String) (time : Nat) (reply : Write Unit) :
      Written store ⟨.commitConsumed challenge time, reply⟩ (store.consume challenge time)
  | credential (row : PasskeyCredential) (reply : Write Unit) :
      Written store ⟨.insertCredential row, reply⟩ (store.insertCredential row)
  | counted (id signCount time : Nat) (reply : Write Unit) :
      Written store ⟨.commitSignCount id signCount time, reply⟩
        (store.mapCredential id fun row => { row with signCount, lastUsedAt := some time })

theorem commit_written (store : Store) (event : Event) : Written store event (store.commit event) := by
  unfold Store.commit
  split
  · split
    · rename_i isCommitted
      exact .challenge _ _ isCommitted
    · exact .nothing _
  · split
    · exact .consumed _ _ _
    · exact .nothing _
  · split
    · exact .credential _ _
    · exact .nothing _
  · split
    · exact .counted _ _ _ _
    · exact .nothing _
  · exact .nothing _

/-- A row is in the tables as it was read. -/
def Store.Has (store : Store) : Entry → Prop
  | .user row => store.user row.id = some row
  | .challenge row => store.challenges row.challenge = some row ∧ row.consumedAt = none
  | .credential row => row ∈ store.credentials

/-- What an answer to the thread does to the tables and to the locks. -/
structure Effect (store after : Store) (thread : Nat) (event : Event) : Prop where
  tables : after = { store.commit event with locks := after.locks }
  others : ∀ key holder, store.locks key = some holder → holder ≠ thread →
    after.locks key = some holder
  own : continues event = true → ∀ key, store.locks key = some thread →
    after.locks key = some thread
  acquires : ∀ entry, acquired event = some entry →
    after.locks entry.key = some thread ∧ store.Has entry

section Effects

variable {store after : Store} {thread : Nat} {event : Event}

theorem putChallenge_self (row : PasskeyChallenge) :
    (store.putChallenge row).challenges row.challenge = some row :=
  Function.update_self _ _ _

theorem putChallenge_ne (row : PasskeyChallenge) {challenge : String}
    (differs : challenge ≠ row.challenge) :
    (store.putChallenge row).challenges challenge = store.challenges challenge :=
  Function.update_of_ne differs _ _

theorem consume_self (challenge : String) (time : Nat) :
    (store.consume challenge time).challenges challenge =
      (store.challenges challenge).map fun row => { row with consumedAt := some time } :=
  Function.update_self _ _ _

theorem consume_ne {challenge other : String} (time : Nat) (differs : other ≠ challenge) :
    (store.consume challenge time).challenges other = store.challenges other :=
  Function.update_of_ne differs _ _

@[simp] theorem commit_locks (store : Store) (event : Event) :
    (store.commit event).locks = store.locks := by
  have written := commit_written store event
  generalize store.commit event = later at written ⊢
  cases written <;> rfl

theorem effect_unchanged (unwritten : store.commit event = store)
    (unlocked : acquired event = none) : Effect store store thread event where
  tables := by rw [unwritten]
  others _ _ holds _ := holds
  own _ _ holds := holds
  acquires entry isAcquired := by
    rw [unlocked] at isAcquired
    cases isAcquired

/-- The transaction of the thread is over. -/
theorem effect_released (ends : continues event = false) (unlocked : acquired event = none) :
    Effect store ((store.commit event).release thread) thread event where
  tables := rfl
  others key holder holds differs := by
    rw [Store.release, commit_locks]
    exact Locks.release_keeps holds differs
  own goesOn := by
    rw [ends] at goesOn
    cases goesOn
  acquires entry isAcquired := by
    rw [unlocked] at isAcquired
    cases isAcquired

theorem effect_over (unwritten : store.commit event = store) (ends : continues event = false)
    (unlocked : acquired event = none) : Effect store (store.release thread) thread event := by
  have released : Effect store ((store.commit event).release thread) thread event :=
    effect_released ends unlocked
  rwa [unwritten] at released

/-- A query has locked the row that it has found. -/
theorem effect_locked {entry : Entry} (unwritten : store.commit event = store)
    (isAcquired : acquired event = some entry) (free : store.locks.isFree thread entry.key = true)
    (has : store.Has entry) : Effect store (store.lock thread entry.key) thread event where
  tables := by
    rw [unwritten]
    rfl
  others _ _ holds differs := Locks.acquire_keeps free holds differs
  own _ _ holds := Locks.acquire_keeps_own holds
  acquires other isOther := by
    obtain rfl := Option.some.inj (isAcquired.symm.trans isOther)
    exact ⟨Locks.acquire_self _, has⟩

theorem effect_queried {α : Type} {value : α} {reply : Except Failure α}
    (answer : Except Failure α → Event) (possible : (reply, after) ∈ queried store thread value)
    (unwritten : ∀ reply, store.commit (answer reply) = store)
    (unlocked : ∀ reply, acquired (answer reply) = none)
    (ends : ∀ failure, continues (answer (.error failure)) = false) :
    Effect store after thread (answer reply) := by
  simp only [queried, List.mem_cons, Prod.mk.injEq, List.not_mem_nil, or_false] at possible
  rcases possible with ⟨rfl, rfl⟩ | ⟨rfl, rfl⟩
  · exact effect_unchanged (unwritten _) (unlocked _)
  · exact effect_over (unwritten _) (ends _) (unlocked _)

theorem effect_found {α : Type} {found : Option α} {key : α → RowKey}
    {reply : Except Failure (Option α)} (answer : Except Failure (Option α) → Event)
    (entry : α → Entry) (possible : (reply, after) ∈ lockedRow store thread found key)
    (keys : ∀ row, (entry row).key = key row) (unwritten : ∀ reply, store.commit (answer reply) = store)
    (locks : ∀ row, acquired (answer (.ok row)) = row.map entry)
    (unlocked : ∀ failure, acquired (answer (.error failure)) = none)
    (ends : ∀ failure, continues (answer (.error failure)) = false)
    (has : ∀ row, found = some row → store.Has (entry row)) :
    Effect store after thread (answer reply) := by
  rcases lockedRow_cases possible with ⟨row, isFound, rfl, free, rfl⟩ | ⟨rfl, rfl⟩ | ⟨rfl, rfl⟩
  · rw [← keys row] at free ⊢
    exact effect_locked (unwritten _) (locks (some row)) free (has row isFound)
  · exact effect_unchanged (unwritten _) (locks none)
  · exact effect_over (unwritten _) (ends _) (unlocked _)

theorem effect_committed {later : Store} {reply : Write Unit} (answer : Write Unit → Event)
    (possible : (reply, after) ∈ committed store thread later)
    (commits : ∀ reply, store.commit (answer reply) =
      if reply.committed.isSome then later else store)
    (unlocked : ∀ reply, acquired (answer reply) = none)
    (ends : ∀ reply, continues (answer reply) = false) : Effect store after thread (answer reply) := by
  have released : Effect store ((store.commit (answer reply)).release thread) thread
      (answer reply) := effect_released (ends _) (unlocked _)
  rw [commits] at released
  rcases written_cases possible with ⟨isCommitted, rfl⟩ | ⟨isNone, rfl⟩
  · rwa [isCommitted] at released
  · rwa [isNone] at released

theorem outcomes_effect (site : Site) {call : Call} {reply : Reply call}
    (possible : (reply, after) ∈ outcomes site thread call store) :
    Effect store after thread ⟨call, reply⟩ := by
  cases call with
  | now =>
    obtain ⟨rfl, rfl⟩ := Prod.mk.inj (List.mem_singleton.mp possible)
    exact effect_unchanged rfl rfl
  | getByEmail email =>
    exact effect_queried (fun reply => ⟨.getByEmail email, reply⟩) possible (fun _ => rfl)
      (fun _ => rfl) fun _ => rfl
  | liveSession email =>
    rcases List.mem_cons.mp possible with same | queried
    · obtain ⟨rfl, rfl⟩ := Prod.mk.inj same
      exact effect_unchanged rfl rfl
    · exact effect_queried (fun reply => ⟨.liveSession email, reply⟩) queried (fun _ => rfl)
        (fun _ => rfl) fun _ => rfl
  | getUser id =>
    exact effect_queried (fun reply => ⟨.getUser id, reply⟩) possible (fun _ => rfl)
      (fun _ => rfl) fun _ => rfl
  | listCredentials userId =>
    exact effect_queried (fun reply => ⟨.listCredentials userId, reply⟩) possible (fun _ => rfl)
      (fun _ => rfl) fun _ => rfl
  | countCredentials userId =>
    exact effect_queried (fun reply => ⟨.countCredentials userId, reply⟩) possible (fun _ => rfl)
      (fun _ => rfl) fun _ => rfl
  | lockUser id =>
    refine effect_found (fun reply => ⟨.lockUser id, reply⟩) .user possible (fun _ => rfl)
      (fun _ => rfl) (fun _ => rfl) (fun _ => rfl) (fun _ => rfl) fun row isFound => ?_
    have sameId : (row.id == id) = true :=
      List.find?_some (p := fun user : User => user.id == id) isFound
    rw [Store.Has, eq_of_beq sameId]
    exact isFound
  | selectChallenge challenge purpose userId time =>
    refine effect_found (fun reply => ⟨.selectChallenge challenge purpose userId time, reply⟩)
      .challenge possible (fun _ => rfl) (fun _ => rfl) (fun _ => rfl) (fun _ => rfl) (fun _ => rfl)
      fun row isFound => ?_
    obtain ⟨present, isOpen⟩ := Option.filter_eq_some_iff.mp isFound
    simp only [PasskeyChallenge.isOpen, Bool.and_eq_true, beq_iff_eq, Option.isNone_iff_eq_none]
      at isOpen
    rw [Store.Has, isOpen.1.1.1.1]
    exact ⟨present, isOpen.1.1.2⟩
  | selectCredential credentialId =>
    exact effect_found (fun reply => ⟨.selectCredential credentialId, reply⟩) .credential possible
      (fun _ => rfl) (fun _ => rfl) (fun _ => rfl) (fun _ => rfl) (fun _ => rfl)
      fun row isFound => List.mem_of_find?_eq_some isFound
  | insertChallenge row =>
    simp only [outcomes] at possible
    split at possible
    · obtain ⟨rfl, rfl⟩ := Prod.mk.inj (List.mem_singleton.mp possible)
      exact effect_over rfl rfl rfl
    · exact effect_committed (fun reply => ⟨.insertChallenge row, reply⟩) possible (fun _ => rfl)
        (fun _ => rfl) fun _ => rfl
  | insertCredential row =>
    simp only [outcomes] at possible
    split at possible
    · obtain ⟨rfl, rfl⟩ := Prod.mk.inj (List.mem_singleton.mp possible)
      exact effect_over rfl rfl rfl
    · exact effect_committed (fun reply => ⟨.insertCredential row, reply⟩) possible (fun _ => rfl)
        (fun _ => rfl) fun _ => rfl
  | commitConsumed challenge time =>
    exact effect_committed (fun reply => ⟨.commitConsumed challenge time, reply⟩) possible
      (fun _ => rfl) (fun _ => rfl) fun _ => rfl
  | commitSignCount id signCount time =>
    exact effect_committed (fun reply => ⟨.commitSignCount id signCount time, reply⟩) possible
      (fun _ => rfl) (fun _ => rfl) fun _ => rfl
  | rollback | startSession _ | logSecurityEvent _ =>
    simp only [outcomes, List.mem_cons, List.not_mem_nil, or_false] at possible
    rcases possible with same | same <;> obtain ⟨rfl, rfl⟩ := Prod.mk.inj same
    · exact effect_over rfl rfl rfl
    · first | exact effect_over rfl rfl rfl | exact effect_unchanged rfl rfl
  | close =>
    obtain ⟨rfl, rfl⟩ := Prod.mk.inj (List.mem_singleton.mp possible)
    exact effect_over rfl rfl rfl
  | captureSecurityAlert | notifyPasskeyAdded =>
    obtain ⟨rfl, rfl⟩ := Prod.mk.inj (List.mem_singleton.mp possible)
    exact effect_unchanged rfl rfl
  | isLocked | recordFailure | resetFailedAttempts | recordStepUp _ =>
    obtain rfl : after = store := by
      simp only [outcomes, valkey, List.map_cons, List.map_nil, List.mem_cons, List.not_mem_nil,
        or_false, Prod.mk.injEq] at possible
      tauto
    exact effect_unchanged rfl rfl

theorem absent_of_inserted (site : Site) {row : PasskeyChallenge} {reply : Write Unit}
    (possible : (reply, after) ∈ outcomes site thread (.insertChallenge row) store)
    (isCommitted : reply.committed ≠ none) : store.challenges row.challenge = none := by
  simp only [outcomes] at possible
  split at possible
  · obtain ⟨rfl, -⟩ := Prod.mk.inj (List.mem_singleton.mp possible)
    exact absurd rfl isCommitted
  · rename_i absent
    exact Option.not_isSome_iff_eq_none.mp absent

theorem commit_of_continues (goesOn : continues event = true) : store.commit event = store := by
  unfold Store.commit
  split
  all_goals first | rfl | cases goesOn

/-- A write leaves alone what another transaction has locked. -/
theorem Store.Has.commit {site : Site} {trace : List Event} {call : Call} {reply : Reply call}
    {entry : Entry} {holder : Nat} (has : store.Has entry)
    (possible : (reply, after) ∈ outcomes site thread call store) (isAllowed : allowed site trace call)
    (locks : ∀ own ∈ held trace, store.locks own.key = some thread)
    (holds : store.locks entry.key = some holder) (differs : holder ≠ thread) :
    (store.commit ⟨call, reply⟩).Has entry := by
  have notOwn (own : Entry) (isHeld : own ∈ held trace) : own.key ≠ entry.key := by
    intro same
    rw [← same, locks own isHeld] at holds
    exact differs (Option.some.inj holds).symm
  have written := commit_written store ⟨call, reply⟩
  generalize store.commit ⟨call, reply⟩ = later at written ⊢
  cases written with
  | nothing => exact has
  | challenge row _ isCommitted =>
    have absent := absent_of_inserted site possible (Option.isSome_iff_ne_none.mp isCommitted)
    cases entry with
    | challenge other =>
      have differs : other.challenge ≠ row.challenge := by
        intro same
        rw [← same, has.1] at absent
        cases absent
      exact ⟨(putChallenge_ne row differs).trans has.1, has.2⟩
    | user _ | credential _ => exact has
  | consumed challenge time =>
    obtain ⟨own, isHeld, isChallenge⟩ := isAllowed
    cases entry with
    | challenge other =>
      have differs : other.challenge ≠ challenge := fun same =>
        notOwn _ isHeld (by rw [Entry.key, Entry.key, isChallenge, same])
      exact ⟨(consume_ne time differs).trans has.1, has.2⟩
    | user _ | credential _ => exact has
  | credential row =>
    cases entry with
    | credential other => exact List.mem_append_left _ has
    | user _ | challenge _ => exact has
  | counted id signCount time =>
    obtain ⟨own, isHeld, isId, -⟩ := isAllowed
    cases entry with
    | credential other =>
      have key := notOwn _ isHeld
      refine List.mem_map.mpr ⟨other, has, if_neg fun same => ?_⟩
      exact key (by rw [Entry.key, Entry.key, isId, same])
    | user _ | challenge _ => exact has

@[simp] theorem disturb_locks (disturbance : Disturbance) (store : Store) :
    (disturb disturbance store).locks = store.locks := by
  cases disturbance <;> simp only [disturb] <;> try (split <;> rfl)

theorem find?_filter_id {users : List User} {row : User} {id : Nat}
    (found : users.find? (·.id == row.id) = some row) (differs : row.id ≠ id) :
    (users.filter (·.id != id)).find? (·.id == row.id) = some row := by
  rw [List.find?_filter, ← found]
  congr 1
  funext user
  by_cases same : user.id = row.id
  · simp [same, differs]
  · simp [same]

/-- What comes from outside leaves alone what a transaction has locked. -/
theorem Store.Has.disturb {entry : Entry} {holder : Nat} (has : store.Has entry)
    (holds : store.locks entry.key = some holder) (disturbance : Disturbance) :
    (Passkeys.disturb disturbance store).Has entry := by
  have notUnlocked (key : RowKey) (unlocked : store.isUnlocked key = true) : key ≠ entry.key := by
    rintro rfl
    rw [Store.isUnlocked, holds] at unlocked
    cases unlocked
  cases disturbance with
  | elapse time => cases entry <;> exact has
  | putUser user =>
    simp only [Passkeys.disturb]
    split
    · rename_i unlocked
      cases entry with
      | user row =>
        have differs : user.id ≠ row.id := fun same =>
          notUnlocked _ unlocked (by rw [Entry.key, same])
        change (user :: store.users.filter (·.id != user.id)).find? (·.id == row.id) = some row
        rw [List.find?_cons_of_neg (by simpa using differs)]
        exact find?_filter_id has differs.symm
      | challenge _ | credential _ => exact has
    · exact has
  | deleteUser id =>
    simp only [Passkeys.disturb]
    split
    · rename_i unlocked
      cases entry with
      | user row =>
        exact find?_filter_id has fun same => notUnlocked _ unlocked (by rw [Entry.key, same])
      | challenge _ | credential _ => exact has
    · exact has
  | renameCredential id name =>
    simp only [Passkeys.disturb]
    split
    · rename_i unlocked
      cases entry with
      | credential row =>
        refine List.mem_map.mpr ⟨row, has, if_neg fun same => ?_⟩
        exact notUnlocked _ unlocked (by rw [Entry.key, same])
      | user _ | challenge _ => exact has
    · exact has
  | removeCredential id =>
    simp only [Passkeys.disturb]
    split
    · rename_i unlocked
      cases entry with
      | credential row =>
        refine List.mem_filter.mpr ⟨has, bne_iff_ne.mpr fun same => ?_⟩
        exact notUnlocked _ unlocked (by rw [Entry.key, same])
      | user _ | challenge _ => exact has
    · exact has
  | removeChallenge challenge =>
    simp only [Passkeys.disturb]
    split
    · rename_i unlocked
      cases entry with
      | challenge row =>
        have differs : row.challenge ≠ challenge := fun same =>
          notUnlocked _ unlocked (by rw [Entry.key, same])
        exact ⟨(Function.update_of_ne differs _ _).trans has.1, has.2⟩
      | user _ | credential _ => exact has
    · exact has

@[simp] theorem has_withLocks (store : Store) (locks : Locks RowKey) (entry : Entry) :
    { store with locks }.Has entry ↔ store.Has entry := by
  cases entry <;> rfl

end Effects

/-! ## Along a run -/

/-- What the transactions have locked is theirs, and in the tables as they have read it. -/
def Locked (store : Store) (history : List (Nat × Event)) : Prop :=
  ∀ thread, ∀ entry ∈ held (traceOf history thread),
    store.locks entry.key = some thread ∧ store.Has entry

section Runs

variable {site : Site} {permits : Server → Nat → Event → Prop} {start : Store}
variable {before after config : Server} {thread : Nat} {event : Event}

/-- The call that is answered at a step of a run is one that the discipline allows. -/
theorem allowed_at (run : Reaches (server site) permits (Config.start start) before)
    (answers : Answers (server site) permits before after thread event) :
    allowed site (traceOf before.history thread) event.1 := by
  obtain ⟨request, next, running⟩ := answers.running
  exact (run.disciplined (server_obeys site) start).allows running

theorem Locked.answered {store later : Store} {history : List (Nat × Event)} {call : Call}
    {reply : Reply call} (locked : Locked store history)
    (possible : (reply, later) ∈ outcomes site thread call store)
    (isAllowed : allowed site (traceOf history thread) call) :
    Locked later ((thread, ⟨call, reply⟩) :: history) := by
  have effect : Effect store later thread ⟨call, reply⟩ := outcomes_effect site possible
  intro other entry isHeld
  by_cases same : thread = other
  · subst same
    rw [traceOf_cons_self, held] at isHeld
    split at isHeld
    · rename_i goesOn
      have unchanged : later = { store with locks := later.locks } := by
        have tables := effect.tables
        rwa [commit_of_continues goesOn] at tables
      rcases List.mem_append.mp isHeld with isNew | isOld
      · obtain ⟨locks, has⟩ := effect.acquires entry (Option.mem_toList.mp isNew)
        rw [unchanged]
        exact ⟨locks, (has_withLocks store _ entry).mpr has⟩
      · obtain ⟨locks, has⟩ := locked thread entry isOld
        rw [unchanged]
        exact ⟨effect.own goesOn _ locks, (has_withLocks store _ entry).mpr has⟩
    · cases isHeld
  · rw [traceOf_cons_ne _ same] at isHeld
    obtain ⟨locks, has⟩ := locked other entry isHeld
    have differs : other ≠ thread := fun isThread => same isThread.symm
    have own (own : Entry) (isOwn : own ∈ held (traceOf history thread)) :
        store.locks own.key = some thread := (locked thread own isOwn).1
    refine ⟨effect.others _ _ locks differs, ?_⟩
    rw [effect.tables, has_withLocks]
    exact has.commit possible isAllowed own locks differs

theorem locked_along (run : Reaches (server site) permits (Config.start start) config) :
    Locked config.state config.history := by
  refine run.keeps Locked (fun thread entry isHeld => by cases isHeld) ?_ ?_
  · intro disturbance store history locked thread entry isHeld
    obtain ⟨locks, has⟩ := locked thread entry isHeld
    exact ⟨(congrFun (disturb_locks disturbance store) _).trans locks, has.disturb locks disturbance⟩
  · intro before after thread event earlier answers locked
    exact locked.answered answers.possible (allowed_at earlier answers)

end Runs

end MysticAuth.Passkeys
