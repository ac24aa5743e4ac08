import MysticAuth.Accounts.LifecycleOutbox
import Mathlib.Data.List.Nodup

/-!
# One job for each outbox row

Whoever has claimed a row holds its lock until its transaction ends, so nobody
else defers a job for the row or writes `queued_at` in the meantime.
-/

set_option autoImplicit false

namespace MysticAuth.LifecycleOutbox

open Interleaving

/-! ## What a caller has claimed -/

/-- The claimed row, while the transaction has not been asked to commit. -/
def holding : List Event → Option (Nat × OutboxRow)
  | ⟨.claim outboxId, .ok (some row)⟩ :: _ => some (outboxId, row)
  | ⟨.defer _ (some _), _⟩ :: ⟨.claim outboxId, .ok (some row)⟩ :: _ => some (outboxId, row)
  | _ => none

/-- The row that the newest call has queued a job for. -/
def queuedFor : List Event → Option Nat
  | ⟨.defer _ (some outboxId), reply⟩ :: _ => reply.committed.map fun _ => outboxId
  | _ => none

def commits (outboxId : Nat) : Event → Bool
  | ⟨.commitQueued other, reply⟩ => other == outboxId && reply.committed.isSome
  | _ => false

/-- No commit fails after a defer that has queued a job for a row: the call after such a defer is
a commit that takes effect. -/
def commitsFollow : List Event → Bool
  | [] => true
  | event :: earlier => (queuedFor earlier).all (commits · event) && commitsFollow earlier

def discipline : Discipline Reply where
  allows trace call := match call with
    | .defer _ (some outboxId) => ∃ row earlier,
        trace = ⟨.claim outboxId, .ok (some row)⟩ :: earlier
    | .commitQueued outboxId => ∃ event jobId row earlier,
        trace = ⟨.defer event (some outboxId), .done jobId⟩ ::
          ⟨.claim outboxId, .ok (some row)⟩ :: earlier
    | _ => True
  answers _ _ := True

section Programs

variable {trace : List Event} {α : Type}

/-- The program keeps to the discipline, whatever was called before. -/
abbrev Keeps (program : Service α) (trace : List Event) : Prop :=
  program.Meets discipline (fun _ _ => True) trace

theorem claimAndDefer_keeps (event : AccountLifecycleEvent) (outboxId : Nat) :
    Keeps (claimAndDefer event outboxId) trace := by
  refine ⟨trivial, fun claimed _ => ?_⟩
  match claimed with
  | .error () => trivial
  | .ok none => trivial
  | .ok (some row) =>
    refine ⟨⟨row, trace, rfl⟩, fun deferred _ => ?_⟩
    match deferred with
    | .done jobId =>
      refine ⟨⟨event, jobId, row, trace, rfl⟩, fun committed _ => ?_⟩
      cases committed <;> trivial
    | .integrityError => trivial
    | .failed => trivial
    | .unacknowledged jobId => trivial

theorem queue_keeps (event : AccountLifecycleEvent) (outboxId : Option Nat) :
    Keeps (queueAccountLifecycleEvent event outboxId) trace := by
  cases outboxId with
  | none =>
    rw [queueAccountLifecycleEvent, Keeps, Program.meets_tryCatch]
    refine ⟨trivial, fun deferred _ => ?_⟩
    cases deferred <;> trivial
  | some outboxId =>
    rw [queueAccountLifecycleEvent, Keeps, Program.meets_tryCatch, Program.meets_finally]
    refine (claimAndDefer_keeps event outboxId).mono fun result later _ _ => ?_
    refine ⟨trivial, fun closed _ => ?_⟩
    cases closed <;> cases result <;> trivial

theorem keeps_bind {β : Type} {program : Service α} {rest : α → Service β}
    (first : Keeps program trace) (next : ∀ value later, Keeps (rest value) later) :
    Keeps (program >>= rest) trace := by
  rw [Keeps, Program.meets_bind]
  refine first.mono fun result later _ _ => ?_
  cases result with
  | ok value => exact next value later
  | error failure => trivial

theorem queueRows_keeps (rows : List OutboxRow) (queued : Nat) :
    Keeps (queueRows rows queued) trace := by
  induction rows generalizing queued trace with
  | nil => trivial
  | cons row rest ih => exact keeps_bind (queue_keeps row.event (some row.id)) fun _ _ => ih _

theorem handle_keeps (request : Request) : Keeps (handle request) trace := by
  cases request with
  | transition event =>
    refine keeps_bind ⟨trivial, fun inserted _ => by cases inserted <;> trivial⟩
      fun outboxId later => ?_
    exact keeps_bind (queue_keeps event (some outboxId)) fun _ _ => trivial
  | queue event outboxId => exact keeps_bind (queue_keeps event outboxId) fun _ _ => trivial
  | dispatchPending =>
    refine keeps_bind (keeps_bind ?_ fun rows _ => queueRows_keeps rows 0) fun _ _ => trivial
    rw [Keeps, Program.meets_finally]
    refine ⟨trivial, fun selected _ => ⟨trivial, fun closed _ => trivial⟩⟩
  | deliver event outboxId =>
    refine keeps_bind ⟨trivial, fun notified _ => by cases notified <;> trivial⟩ fun _ _ => ?_
    cases outboxId with
    | none => trivial
    | some outboxId =>
      refine ⟨trivial, fun marked _ => ?_⟩
      cases marked <;> trivial

theorem system_obeys : system.Obeys (fun _ => discipline) (fun _ _ _ => True) where
  programs request := handle_keeps request
  answers _ _ _ _ _ _ := trivial

end Programs

/-! ## One answer -/

def jobsOf (store : Store) (outboxId : Nat) : List Job :=
  store.jobs.filter (·.outboxId == some outboxId)

/-- A job for the row was deferred. -/
def Deferred (store : Store) (outboxId : Nat) : Prop :=
  ∃ job ∈ store.jobs, job.outboxId = some outboxId

/-- Row ids are taken from their sequence, and a row is locked by one transaction at a time. -/
structure WellFormed (store : Store) : Prop where
  rows : ∀ row ∈ store.rows, row.id < store.nextRowId
  unique : (store.rows.map OutboxRow.id).Nodup
  jobs : ∀ job ∈ store.jobs, ∀ outboxId, job.outboxId = some outboxId →
    outboxId < store.nextRowId
  exclusive : ∀ lock ∈ store.locks, ∀ other ∈ store.locks, lock.rowId = other.rowId →
    lock.thread = other.thread

/-- What an answered call of a thread does to the store. -/
inductive StoreStep (thread : Nat) (store : Store) : Event → Store → Prop
  | unchanged {event : Event} : StoreStep thread store event store
  | inserted (event : AccountLifecycleEvent) (reply : Write Nat) :
      StoreStep thread store ⟨.insertOutbox event, reply⟩ (store.addRow event)
  | claimed (row : OutboxRow) (isRow : row ∈ store.rows) (unqueued : row.queuedAt = none)
      (free : store.locked thread row.id = false) :
      StoreStep thread store ⟨.claim row.id, .ok (some row)⟩ (store.lock thread row.id)
  | deferred (event : AccountLifecycleEvent) (outboxId : Option Nat) (reply : Write Nat)
      (committed : reply.committed.isSome) :
      StoreStep thread store ⟨.defer event outboxId, reply⟩ (store.addJob event outboxId)
  | committed (outboxId : Nat) (reply : Write Unit) (committed : reply.committed.isSome) :
      StoreStep thread store ⟨.commitQueued outboxId, reply⟩
        ((store.updateRow outboxId (·.queue store.now)).release thread)
  | closed (reply : Except Unit Unit) :
      StoreStep thread store ⟨.closeSession, reply⟩ (store.release thread)
  | delivered (outboxId : Nat) (reply : Write Unit)
      (free : store.locked thread outboxId = false) :
      StoreStep thread store ⟨.markDelivered outboxId, reply⟩
        (store.updateRow outboxId (·.deliver store.now))

section Answers

variable {thread : Nat} {call : Call} {reply : Reply call} {store store' : Store}

theorem store_step (possible : (reply, store') ∈ outcomes thread call store) :
    StoreStep thread store ⟨call, reply⟩ store' := by
  cases call with
  | insertOutbox event =>
    rcases written_cases possible with ⟨-, rfl⟩ | ⟨-, rfl⟩
    · exact .inserted event reply
    · exact .unchanged
  | claim outboxId =>
    simp only [outcomes, claimOutcomes] at possible
    split at possible
    · simp only [List.mem_cons, Prod.mk.injEq, List.not_mem_nil, or_false] at possible
      rcases possible with ⟨-, rfl⟩ | ⟨-, rfl⟩ <;> exact .unchanged
    · rename_i row found
      split at possible
      · simp only [List.mem_cons, Prod.mk.injEq, List.not_mem_nil, or_false] at possible
        rcases possible with ⟨-, rfl⟩ | ⟨-, rfl⟩ <;> exact .unchanged
      · rename_i free
        simp only [List.mem_cons, Prod.mk.injEq, List.not_mem_nil, or_false] at possible
        rcases possible with ⟨rfl, rfl⟩ | ⟨-, rfl⟩ | ⟨-, rfl⟩
        · have passed := List.find?_some found
          simp only [Bool.and_eq_true, beq_iff_eq, Option.isNone_iff_eq_none] at passed
          obtain ⟨rfl, unqueued⟩ := passed
          exact .claimed row (List.mem_of_find?_eq_some found) unqueued (by simpa using free)
        · exact .unchanged
        · exact .unchanged
  | defer event outboxId =>
    rcases written_cases possible with ⟨committed, rfl⟩ | ⟨-, rfl⟩
    · exact .deferred event outboxId reply (by simp [committed])
    · exact .unchanged
  | commitQueued outboxId =>
    rcases written_cases possible with ⟨committed, rfl⟩ | ⟨-, rfl⟩
    · exact .committed outboxId reply (by simp [committed])
    · exact .unchanged
  | closeSession =>
    simp only [outcomes, List.mem_cons, Prod.mk.injEq, List.not_mem_nil, or_false] at possible
    rcases possible with ⟨-, rfl⟩ | ⟨-, rfl⟩ <;> exact .closed reply
  | markDelivered outboxId =>
    simp only [outcomes] at possible
    split at possible
    · simp at possible
    · rename_i free
      rcases written_cases possible with ⟨-, rfl⟩ | ⟨-, rfl⟩
      · exact .delivered outboxId reply (by simpa using free)
      · exact .unchanged
  | selectPending | notifyListeners event =>
    simp only [outcomes, List.mem_cons, Prod.mk.injEq, List.not_mem_nil, or_false] at possible
    rcases possible with ⟨-, rfl⟩ | ⟨-, rfl⟩ <;> exact .unchanged

/-- A defer that has queued a job has changed the store. -/
theorem defer_adds {event : AccountLifecycleEvent} {outboxId : Option Nat} {reply : Write Nat}
    (possible : (reply, store') ∈ outcomes thread (.defer event outboxId) store)
    (committed : reply.committed.isSome) : store' = store.addJob event outboxId := by
  rcases written_cases possible with ⟨-, rfl⟩ | ⟨failed, -⟩
  · rfl
  · rw [failed] at committed
    cases committed

theorem close_releases {reply : Except Unit Unit}
    (possible : (reply, store') ∈ outcomes thread .closeSession store) :
    store' = store.release thread := by
  simp only [outcomes, List.mem_cons, Prod.mk.injEq, List.not_mem_nil, or_false] at possible
  rcases possible with ⟨-, rfl⟩ | ⟨-, rfl⟩ <;> rfl

theorem commit_queues {outboxId : Nat} {reply : Write Unit}
    (possible : (reply, store') ∈ outcomes thread (.commitQueued outboxId) store)
    (committed : reply.committed.isSome) :
    store' = (store.updateRow outboxId (·.queue store.now)).release thread := by
  rcases written_cases possible with ⟨-, rfl⟩ | ⟨failed, -⟩
  · rfl
  · rw [failed] at committed
    cases committed

theorem locked_iff {rowId : Nat} : store.locked thread rowId = true ↔
    ∃ lock ∈ store.locks, lock.thread ≠ thread ∧ lock.rowId = rowId := by
  simp [Store.locked]

theorem mem_updateRow {rowId : Nat} {change : OutboxRow → OutboxRow} {row : OutboxRow}
    (member : row ∈ (store.updateRow rowId change).rows) :
    ∃ old ∈ store.rows, (old.id ≠ rowId ∧ row = old) ∨ (old.id = rowId ∧ row = change old) := by
  obtain ⟨old, isOld, rfl⟩ := List.mem_map.mp member
  refine ⟨old, isOld, ?_⟩
  split
  · rename_i same
    exact Or.inr ⟨same, rfl⟩
  · rename_i differs
    exact Or.inl ⟨differs, rfl⟩

theorem updateRow_of_ne {rowId : Nat} {change : OutboxRow → OutboxRow} {row : OutboxRow}
    (member : row ∈ store.rows) (differs : row.id ≠ rowId) :
    row ∈ (store.updateRow rowId change).rows :=
  List.mem_map.mpr ⟨row, member, if_neg differs⟩

theorem updateRow_ids {rowId : Nat} {change : OutboxRow → OutboxRow}
    (keeps : ∀ row, (change row).id = row.id) :
    (store.updateRow rowId change).rows.map OutboxRow.id = store.rows.map OutboxRow.id := by
  rw [Store.updateRow, List.map_map]
  apply List.map_congr_left
  intro row _
  simp only [Function.comp_apply]
  split
  · exact keeps row
  · rfl

theorem deliver_id (now : Nat) (row : OutboxRow) : (row.deliver now).id = row.id := by
  unfold OutboxRow.deliver
  split <;> rfl

theorem deliver_queuedAt (now : Nat) (row : OutboxRow) :
    (row.deliver now).queuedAt = row.queuedAt := by
  unfold OutboxRow.deliver
  split <;> rfl

theorem WellFormed.updateRow (wellFormed : WellFormed store) {rowId : Nat}
    {change : OutboxRow → OutboxRow} (keeps : ∀ row, (change row).id = row.id) :
    WellFormed (store.updateRow rowId change) where
  rows := by
    intro row member
    obtain ⟨old, isOld, ⟨-, rfl⟩ | ⟨-, rfl⟩⟩ := mem_updateRow member
    · exact wellFormed.rows row isOld
    · rw [keeps]
      exact wellFormed.rows old isOld
  unique := by
    rw [updateRow_ids keeps]
    exact wellFormed.unique
  jobs := wellFormed.jobs
  exclusive := wellFormed.exclusive

theorem WellFormed.release (wellFormed : WellFormed store) (thread : Nat) :
    WellFormed (store.release thread) :=
  ⟨wellFormed.rows, wellFormed.unique, wellFormed.jobs, fun lock isLock other isOther same =>
    wellFormed.exclusive lock (List.mem_filter.mp isLock).1 other (List.mem_filter.mp isOther).1
      same⟩

variable {event : Event}

theorem WellFormed.step (wellFormed : WellFormed store)
    (step : StoreStep thread store event store')
    (defers : ∀ inner outboxId reply, event = ⟨.defer inner (some outboxId), reply⟩ →
      outboxId < store.nextRowId) : WellFormed store' := by
  cases step with
  | unchanged => exact wellFormed
  | inserted inner reply =>
    refine ⟨?_, ?_, ?_, wellFormed.exclusive⟩
    · intro row member
      rcases List.mem_append.mp member with old | new
      · exact Nat.lt_succ_of_lt (wellFormed.rows row old)
      · rw [List.mem_singleton.mp new]
        exact Nat.lt_succ_self _
    · simp only [Store.addRow, List.map_append, List.map_singleton]
      refine wellFormed.unique.append (List.nodup_singleton _) fun rowId old new => ?_
      obtain ⟨row, listed, isId⟩ := List.mem_map.mp old
      have bound := wellFormed.rows row listed
      have isNew := List.mem_singleton.mp new
      omega
    · intro job member outboxId isFor
      exact Nat.lt_succ_of_lt (wellFormed.jobs job member outboxId isFor)
  | claimed row isRow unqueued free =>
    have others : ∀ lock ∈ store.locks, lock.rowId = row.id → lock.thread = thread := by
      intro lock isLock same
      by_contra differs
      have blocked := locked_iff.mpr ⟨lock, isLock, differs, same⟩
      rw [free] at blocked
      cases blocked
    refine ⟨wellFormed.rows, wellFormed.unique, wellFormed.jobs, ?_⟩
    intro lock isLock other isOther same
    rcases List.mem_cons.mp isLock with rfl | old <;>
      rcases List.mem_cons.mp isOther with rfl | old'
    · rfl
    · exact (others other old' same.symm).symm
    · exact others lock old same
    · exact wellFormed.exclusive lock old other old' same
  | deferred inner outboxId reply committed =>
    refine ⟨wellFormed.rows, wellFormed.unique, ?_, wellFormed.exclusive⟩
    intro job member rowId isFor
    rcases List.mem_append.mp member with old | new
    · exact wellFormed.jobs job old rowId isFor
    · rw [List.mem_singleton.mp new] at isFor
      obtain rfl : outboxId = some rowId := isFor
      exact defers inner rowId reply rfl
  | committed outboxId reply committed =>
    have keeps : ∀ row : OutboxRow, (row.queue store.now).id = row.id := fun _ => rfl
    exact (wellFormed.updateRow keeps).release thread
  | closed reply => exact wellFormed.release thread
  | delivered outboxId reply free => exact wellFormed.updateRow (deliver_id store.now)

/-- Another thread neither changes a locked row nor takes its lock away. -/
theorem StoreStep.keeps_locked (wellFormed : WellFormed store)
    (step : StoreStep thread store event store') {holder : Nat} {row : OutboxRow}
    (differs : thread ≠ holder) (isRow : row ∈ store.rows)
    (held : ⟨holder, row.id⟩ ∈ store.locks)
    (commits : ∀ outboxId reply, event = ⟨.commitQueued outboxId, reply⟩ →
      ⟨thread, outboxId⟩ ∈ store.locks) :
    row ∈ store'.rows ∧ ⟨holder, row.id⟩ ∈ store'.locks := by
  have released : ⟨holder, row.id⟩ ∈ (store.release thread).locks :=
    List.mem_filter.mpr ⟨held, by simpa using Ne.symm differs⟩
  cases step with
  | unchanged => exact ⟨isRow, held⟩
  | inserted inner reply => exact ⟨List.mem_append_left _ isRow, held⟩
  | claimed other isOther unqueued free => exact ⟨isRow, List.mem_cons_of_mem _ held⟩
  | deferred inner outboxId reply committed => exact ⟨isRow, held⟩
  | committed outboxId reply committed =>
    refine ⟨updateRow_of_ne isRow fun same => ?_, released⟩
    exact differs (wellFormed.exclusive _ (commits outboxId reply rfl) _ held same.symm)
  | closed reply => exact ⟨isRow, released⟩
  | delivered outboxId reply free =>
    refine ⟨updateRow_of_ne isRow fun same => ?_, held⟩
    have blocked := locked_iff.mpr ⟨_, held, Ne.symm differs, same⟩
    rw [free] at blocked
    cases blocked

/-- A row that has its `queued_at` keeps it, and only a commit gives it to another one. -/
theorem StoreStep.queued_cases (step : StoreStep thread store event store') {row : OutboxRow}
    (isRow : row ∈ store'.rows) (queued : row.queuedAt.isSome) :
    (∃ old ∈ store.rows, old.id = row.id ∧ old.queuedAt.isSome) ∨
      ∃ reply : Write Unit, event = ⟨.commitQueued row.id, reply⟩ := by
  cases step with
  | unchanged => exact Or.inl ⟨row, isRow, rfl, queued⟩
  | inserted inner reply =>
    rcases List.mem_append.mp isRow with old | new
    · exact Or.inl ⟨row, old, rfl, queued⟩
    · rw [List.mem_singleton.mp new] at queued
      cases queued
  | claimed other isOther unqueued free => exact Or.inl ⟨row, isRow, rfl, queued⟩
  | deferred inner outboxId reply committed => exact Or.inl ⟨row, isRow, rfl, queued⟩
  | committed outboxId reply committed =>
    obtain ⟨old, isOld, ⟨-, rfl⟩ | ⟨rfl, rfl⟩⟩ := mem_updateRow isRow
    · exact Or.inl ⟨row, isOld, rfl, queued⟩
    · exact Or.inr ⟨reply, rfl⟩
  | closed reply => exact Or.inl ⟨row, isRow, rfl, queued⟩
  | delivered outboxId reply free =>
    obtain ⟨old, isOld, ⟨-, rfl⟩ | ⟨-, rfl⟩⟩ := mem_updateRow isRow
    · exact Or.inl ⟨row, isOld, rfl, queued⟩
    · rw [deliver_queuedAt] at queued
      exact Or.inl ⟨old, isOld, (deliver_id store.now old).symm, queued⟩

/-- No step takes `queued_at` away again. -/
theorem StoreStep.stays_queued (step : StoreStep thread store event store') {outboxId : Nat}
    (known : outboxId < store.nextRowId)
    (queued : ∀ row ∈ store.rows, row.id = outboxId → row.queuedAt.isSome) :
    ∀ row ∈ store'.rows, row.id = outboxId → row.queuedAt.isSome := by
  intro row isRow isId
  cases step with
  | unchanged => exact queued row isRow isId
  | inserted inner reply =>
    rcases List.mem_append.mp isRow with old | new
    · exact queued row old isId
    · rw [List.mem_singleton.mp new] at isId
      simp only at isId
      omega
  | claimed other isOther unqueued free => exact queued row isRow isId
  | deferred inner other reply committed => exact queued row isRow isId
  | committed other reply committed =>
    obtain ⟨old, isOld, ⟨-, rfl⟩ | ⟨-, rfl⟩⟩ := mem_updateRow isRow
    · exact queued row isOld isId
    · rfl
  | closed reply => exact queued row isRow isId
  | delivered other reply free =>
    obtain ⟨old, isOld, ⟨-, rfl⟩ | ⟨-, rfl⟩⟩ := mem_updateRow isRow
    · exact queued row isOld isId
    · rw [deliver_id] at isId
      rw [deliver_queuedAt]
      exact queued old isOld isId

theorem StoreStep.jobs_cases (step : StoreStep thread store event store') (outboxId : Nat) :
    jobsOf store' outboxId = jobsOf store outboxId ∨
      ∃ (inner : AccountLifecycleEvent) (reply : Write Nat),
        event = ⟨.defer inner (some outboxId), reply⟩ ∧ reply.committed.isSome ∧
          (jobsOf store' outboxId).length = (jobsOf store outboxId).length + 1 := by
  cases step with
  | deferred inner other reply committed =>
    by_cases same : other = some outboxId
    · subst same
      exact Or.inr ⟨inner, reply, rfl, committed, by simp [jobsOf, Store.addJob]⟩
    · left
      simp [jobsOf, Store.addJob, same]
  | _ => exact Or.inl rfl

theorem StoreStep.deferred_stays (step : StoreStep thread store event store') {outboxId : Nat}
    (deferred : Deferred store outboxId) : Deferred store' outboxId := by
  obtain ⟨job, isJob, isFor⟩ := deferred
  cases step with
  | deferred inner other reply committed => exact ⟨job, List.mem_append_left _ isJob, isFor⟩
  | _ => exact ⟨job, isJob, isFor⟩

theorem claim_row {outboxId : Nat} {row : OutboxRow}
    (possible : (.ok (some row), store') ∈ outcomes thread (.claim outboxId) store) :
    row.id = outboxId ∧ row ∈ store'.rows ∧ row.queuedAt = none ∧
      ⟨thread, outboxId⟩ ∈ store'.locks := by
  simp only [outcomes, claimOutcomes] at possible
  split at possible
  · simp at possible
  · rename_i row' found
    split at possible
    · simp at possible
    · simp only [List.mem_cons, Prod.mk.injEq, Except.ok.injEq, Option.some.injEq,
        List.not_mem_nil, or_false, reduceCtorEq, false_and] at possible
      obtain ⟨rfl, rfl⟩ := possible
      have passed := List.find?_some found
      simp only [Bool.and_eq_true, beq_iff_eq, Option.isNone_iff_eq_none] at passed
      exact ⟨passed.1, List.mem_of_find?_eq_some found, passed.2, List.mem_cons_self⟩

theorem defer_frame {event : AccountLifecycleEvent} {outboxId : Option Nat} {reply : Write Nat}
    (possible : (reply, store') ∈ outcomes thread (.defer event outboxId) store) :
    store'.rows = store.rows ∧ store'.locks = store.locks := by
  rcases written_cases possible with ⟨-, rfl⟩ | ⟨-, rfl⟩ <;> exact ⟨rfl, rfl⟩

end Answers

/-! ## Runs -/

/-- What the transactions under way rely on. -/
structure Kept (store : Store) (history : List (Nat × Event)) : Prop where
  wellFormed : WellFormed store
  held : ∀ thread outboxId row, holding (traceOf history thread) = some (outboxId, row) →
    row.id = outboxId ∧ row ∈ store.rows ∧ row.queuedAt = none ∧
      ⟨thread, outboxId⟩ ∈ store.locks
  queuing : ∀ thread outboxId, queuedFor (traceOf history thread) = some outboxId →
    Deferred store outboxId ∧ ∃ row, holding (traceOf history thread) = some (outboxId, row)
  queued : ∀ row ∈ store.rows, row.queuedAt.isSome → Deferred store row.id

/-- A job was deferred for the row once, and the row says so or is just about to. -/
def OnceQueued (store : Store) (history : List (Nat × Event)) (outboxId : Nat) : Prop :=
  jobsOf store outboxId = [] ∨ ((jobsOf store outboxId).length = 1 ∧
    ((∀ row ∈ store.rows, row.id = outboxId → row.queuedAt.isSome) ∨
      ∃ thread, queuedFor (traceOf history thread) = some outboxId))

/-- The row that a caller has claimed and then closed its session on, as it was claimed. -/
def LeftEligible (store : Store) (history : List (Nat × Event)) : Prop :=
  ∀ thread closing rest event outboxId reply row earlier,
    history = (thread, ⟨.closeSession, closing⟩) :: rest →
      traceOf rest thread =
          ⟨.defer event (some outboxId), reply⟩ :: ⟨.claim outboxId, .ok (some row)⟩ :: earlier →
        (row ∈ store.rows ∧ row.id = outboxId ∧ row.queuedAt = none) ∧
          ∀ lock ∈ store.locks, lock.rowId ≠ outboxId

section Steps

variable {store store' : Store} {history : List (Nat × Event)} {thread : Nat} {call : Call}
variable {reply : Reply call}

/-- What a thread still holds after a call it held before, or has just claimed. -/
theorem holding_cons {event : Event} {earlier : List Event} {outboxId : Nat} {row : OutboxRow}
    (holds : holding (event :: earlier) = some (outboxId, row)) :
    event = ⟨.claim outboxId, .ok (some row)⟩ ∨
      (∃ inner other reply, event = ⟨.defer inner (some other), reply⟩) ∧
        holding earlier = some (outboxId, row) := by
  unfold holding at holds
  split at holds
  · rename_i isClaim
    obtain ⟨rfl, rfl⟩ := List.cons.inj isClaim
    obtain ⟨rfl, rfl⟩ := Prod.mk.inj (Option.some.inj holds)
    exact Or.inl rfl
  · rename_i inner other reply claimed row' rest isDefer
    obtain ⟨rfl, rfl⟩ := List.cons.inj isDefer
    exact Or.inr ⟨⟨inner, other, reply, rfl⟩, holds⟩
  · cases holds

theorem queuedFor_cons {event : Event} {earlier : List Event} {outboxId : Nat}
    (queues : queuedFor (event :: earlier) = some outboxId) :
    ∃ (inner : AccountLifecycleEvent) (reply : Write Nat),
      event = ⟨.defer inner (some outboxId), reply⟩ ∧ reply.committed.isSome := by
  unfold queuedFor at queues
  split at queues
  · rename_i inner other reply rest isDefer
    obtain ⟨rfl, -⟩ := List.cons.inj isDefer
    obtain ⟨jobId, committed, rfl⟩ := Option.map_eq_some_iff.mp queues
    exact ⟨inner, reply, rfl, by simp [committed]⟩
  · cases queues

theorem Kept.commits_locked (kept : Kept store history)
    (allowed : discipline.allows (traceOf history thread) call) (outboxId : Nat)
    (committed : Write Unit)
    (isCommit : (⟨call, reply⟩ : Event) = ⟨.commitQueued outboxId, committed⟩) :
    ⟨thread, outboxId⟩ ∈ store.locks := by
  obtain ⟨rfl, -⟩ := Sigma.mk.inj isCommit
  obtain ⟨event, jobId, row, earlier, isTrace⟩ := allowed
  exact (kept.held thread outboxId row (by rw [isTrace]; rfl)).2.2.2

theorem claimed_of_defer (allowed : discipline.allows (traceOf history thread) call) (inner : AccountLifecycleEvent)
    (outboxId : Nat) (deferred : Write Nat)
    (isDefer : (⟨call, reply⟩ : Event) = ⟨.defer inner (some outboxId), deferred⟩) :
    ∃ row, holding (traceOf history thread) = some (outboxId, row) ∧
      queuedFor (traceOf history thread) = none := by
  obtain ⟨rfl, -⟩ := Sigma.mk.inj isDefer
  obtain ⟨row, earlier, isTrace⟩ := allowed
  rw [isTrace]
  exact ⟨row, rfl, rfl⟩

theorem Kept.step (kept : Kept store history)
    (allowed : discipline.allows (traceOf history thread) call)
    (possible : (reply, store') ∈ outcomes thread call store) :
    Kept store' ((thread, ⟨call, reply⟩) :: history) where
  wellFormed := by
    refine kept.wellFormed.step (store_step possible) fun inner outboxId deferred isDefer => ?_
    obtain ⟨row, holds, -⟩ := claimed_of_defer allowed inner outboxId deferred isDefer
    obtain ⟨rfl, isRow, -⟩ := kept.held thread outboxId row holds
    exact kept.wellFormed.rows row isRow
  held := by
    intro other outboxId row holds
    by_cases isThread : thread = other
    · subst isThread
      rw [traceOf_cons_self] at holds
      rcases holding_cons holds with isClaim | ⟨⟨inner, deferred, reply', isDefer⟩, before⟩
      · obtain ⟨rfl, isReply⟩ := Sigma.mk.inj isClaim
        obtain rfl := eq_of_heq isReply
        exact claim_row possible
      · obtain ⟨rfl, -⟩ := Sigma.mk.inj isDefer
        obtain ⟨isId, isRow, unqueued, held⟩ := kept.held thread outboxId row before
        obtain ⟨sameRows, sameLocks⟩ := defer_frame possible
        exact ⟨isId, by rwa [sameRows], unqueued, by rwa [sameLocks]⟩
    · rw [traceOf_cons_ne _ isThread] at holds
      obtain ⟨rfl, isRow, unqueued, held⟩ := kept.held other outboxId row holds
      obtain ⟨isRow', held'⟩ := (store_step possible).keeps_locked kept.wellFormed isThread isRow
        held (kept.commits_locked allowed)
      exact ⟨rfl, isRow', unqueued, held'⟩
  queuing := by
    intro other outboxId queues
    by_cases isThread : thread = other
    · subst isThread
      rw [traceOf_cons_self] at queues ⊢
      obtain ⟨inner, deferred, isDefer, committed⟩ := queuedFor_cons queues
      obtain ⟨rfl, isReply⟩ := Sigma.mk.inj isDefer
      obtain rfl := eq_of_heq isReply
      obtain ⟨row, earlier, isTrace⟩ := allowed
      rw [defer_adds possible committed, isTrace]
      refine ⟨⟨_, List.mem_append_right _ (List.mem_singleton_self _), rfl⟩, row, rfl⟩
    · rw [traceOf_cons_ne _ isThread] at queues ⊢
      obtain ⟨deferred, holds⟩ := kept.queuing other outboxId queues
      exact ⟨(store_step possible).deferred_stays deferred, holds⟩
  queued := by
    intro row isRow queued
    have step := store_step possible
    rcases step.queued_cases isRow queued with ⟨old, isOld, sameId, wasQueued⟩ | ⟨reply', isCommit⟩
    · rw [← sameId]
      exact step.deferred_stays (kept.queued old isOld wasQueued)
    · obtain ⟨rfl, -⟩ := Sigma.mk.inj isCommit
      obtain ⟨event, jobId, claimed, earlier, isTrace⟩ := allowed
      refine step.deferred_stays (kept.queuing thread row.id ?_).1
      rw [isTrace]
      rfl

theorem Kept.onceQueued (kept : Kept store history)
    (allowed : discipline.allows (traceOf history thread) call)
    (possible : (reply, store') ∈ outcomes thread call store)
    (follows : (queuedFor (traceOf history thread)).all (commits · ⟨call, reply⟩) = true)
    {outboxId : Nat} (once : OnceQueued store history outboxId) :
    OnceQueued store' ((thread, ⟨call, reply⟩) :: history) outboxId := by
  have step := store_step possible
  rcases step.jobs_cases outboxId with sameJobs | ⟨inner, deferred, isDefer, committed, more⟩
  · rcases once with noJobs | ⟨oneJob, isQueued | ⟨other, queues⟩⟩
    · exact Or.inl (by rw [sameJobs, noJobs])
    · have known : outboxId < store.nextRowId := by
        obtain ⟨job, isJob⟩ := List.exists_mem_of_length_pos (by rw [oneJob]; exact Nat.one_pos)
        obtain ⟨listed, isFor⟩ := List.mem_filter.mp isJob
        exact kept.wellFormed.jobs job listed outboxId (eq_of_beq isFor)
      exact Or.inr ⟨by rw [sameJobs, oneJob], Or.inl (step.stays_queued known isQueued)⟩
    · refine Or.inr ⟨by rw [sameJobs, oneJob], ?_⟩
      by_cases isThread : thread = other
      · subst isThread
        -- the call after the defer is its commit
        rw [queues] at follows
        simp only [Option.all_some, commits] at follows
        split at follows
        · rename_i committedId committing isCommit
          obtain ⟨rfl, isReply⟩ := Sigma.mk.inj isCommit
          obtain rfl := eq_of_heq isReply
          simp only [Bool.and_eq_true, beq_iff_eq] at follows
          obtain ⟨rfl, took⟩ := follows
          left
          rw [commit_queues possible took]
          intro row isRow isId
          obtain ⟨old, -, ⟨differs, rfl⟩ | ⟨-, rfl⟩⟩ := mem_updateRow isRow
          · exact absurd isId differs
          · rfl
        · cases follows
      · right
        exact ⟨other, by rwa [traceOf_cons_ne _ isThread]⟩
  · obtain ⟨row, holds, notQueuing⟩ := claimed_of_defer allowed inner outboxId deferred isDefer
    obtain ⟨isId, isRow, unqueued, held⟩ := kept.held thread outboxId row holds
    have noJobs : jobsOf store outboxId = [] := by
      rcases once with noJobs | ⟨-, isQueued | ⟨other, queues⟩⟩
      · exact noJobs
      · have queued := isQueued row isRow isId
        rw [unqueued] at queued
        cases queued
      · obtain ⟨-, claimed, othersRow⟩ := kept.queuing other outboxId queues
        have othersLock := (kept.held other outboxId claimed othersRow).2.2.2
        have same := kept.wellFormed.exclusive _ held _ othersLock rfl
        simp only at same
        rw [← same, notQueuing] at queues
        cases queues
    refine Or.inr ⟨by rw [more, noJobs]; rfl, Or.inr ⟨thread, ?_⟩⟩
    obtain ⟨rfl, isReply⟩ := Sigma.mk.inj isDefer
    obtain rfl := eq_of_heq isReply
    rw [traceOf_cons_self]
    obtain ⟨jobId, isCommitted⟩ := Option.isSome_iff_exists.mp committed
    simp [queuedFor, isCommitted]

theorem Kept.leftEligible (kept : Kept store history)
    (possible : (reply, store') ∈ outcomes thread call store) :
    LeftEligible store' ((thread, ⟨call, reply⟩) :: history) := by
  intro closer closing rest event outboxId deferred row earlier isHistory isTrace
  obtain ⟨isEntry, rfl⟩ := List.cons.inj isHistory
  obtain ⟨rfl, isEvent⟩ := Prod.mk.inj isEntry
  obtain ⟨rfl, isReply⟩ := Sigma.mk.inj isEvent
  obtain rfl := eq_of_heq isReply
  obtain ⟨isId, isRow, unqueued, held⟩ :=
    kept.held thread outboxId row (by rw [isTrace]; rfl)
  rw [close_releases possible]
  refine ⟨⟨isRow, isId, unqueued⟩, fun lock isLock same => ?_⟩
  obtain ⟨isLock, notReleased⟩ := List.mem_filter.mp isLock
  have sameThread := kept.wellFormed.exclusive lock isLock _ held same
  simp [sameThread] at notReleased

end Steps

/-- The outbox claims of a state. -/
structure OutboxClaims (config : Server) : Prop where
  /-- `queued_at` is set only if a job for the row was deferred -/
  queued : ∀ row ∈ config.state.rows, row.queuedAt.isSome → Deferred config.state row.id
  /-- if no commit fails after a successful defer, at most one job is deferred for a row -/
  once : (∀ thread, commitsFollow (config.trace thread) = true) →
    ∀ outboxId, (jobsOf config.state outboxId).length ≤ 1
  /-- a caller whose defer has failed leaves the row for the next run of the reconciler: nobody
  has locked it, and it is as it was claimed -/
  retried : ∀ thread closing rest event outboxId reply row earlier,
    config.history = (thread, ⟨.closeSession, closing⟩) :: rest →
      traceOf rest thread =
          ⟨.defer event (some outboxId), reply⟩ :: ⟨.claim outboxId, .ok (some row)⟩ :: earlier →
        (row.id = outboxId ∧ row.queuedAt = none ∧
          (row.deliveredAt = none → row ∈ config.state.pendingRows)) ∧
            (∀ lock ∈ config.state.locks, lock.rowId ≠ outboxId) ∧ row ∈ config.state.rows

/-- Where a run may start: nobody is at work, and a row with a job was queued. -/
structure Settled (store : Store) : Prop where
  wellFormed : WellFormed store
  queued : ∀ row ∈ store.rows, row.queuedAt.isSome → Deferred store row.id
  once : ∀ outboxId, jobsOf store outboxId = [] ∨ ((jobsOf store outboxId).length = 1 ∧
    ∀ row ∈ store.rows, row.id = outboxId → row.queuedAt.isSome)

theorem outbox_claims {start : Store} (settled : Settled start) {config : Server}
    (run : Reaches system anyCall (Config.start start) config) : OutboxClaims config := by
  have kept := run.keeps (fun store history => Kept store history ∧ LeftEligible store history ∧
      ((∀ thread, commitsFollow (traceOf history thread) = true) →
        ∀ outboxId, OnceQueued store history outboxId))
    ⟨⟨settled.wellFormed, by simp [Config.start, holding], by simp [Config.start, queuedFor],
      settled.queued⟩, by simp [LeftEligible, Config.start], fun _ outboxId =>
        (settled.once outboxId).imp_right fun ⟨oneJob, queued⟩ => ⟨oneJob, Or.inl queued⟩⟩
    (fun seconds store history holds =>
      ⟨⟨⟨holds.1.wellFormed.rows, holds.1.wellFormed.unique, holds.1.wellFormed.jobs,
        holds.1.wellFormed.exclusive⟩, holds.1.held, holds.1.queuing, holds.1.queued⟩, holds.2⟩) ?_
  · refine ⟨kept.1.queued, fun follows outboxId => ?_, ?_⟩
    · rcases kept.2.2 follows outboxId with noJobs | ⟨oneJob, -⟩
      · simp [noJobs]
      · omega
    · intro thread closing rest event outboxId reply row earlier isHistory isTrace
      obtain ⟨⟨isRow, isId, unqueued⟩, unlocked⟩ :=
        kept.2.1 thread closing rest event outboxId reply row earlier isHistory isTrace
      refine ⟨⟨isId, unqueued, fun undelivered => List.mem_filter.mpr ⟨isRow, ?_⟩⟩, unlocked, isRow⟩
      simp [OutboxRow.isPending, unqueued, undelivered]
  · intro before after thread event earlier answers holds
    obtain ⟨request, next, running⟩ := answers.running
    have allowed := (earlier.disciplined system_obeys start).allows running
    refine ⟨holds.1.step allowed answers.possible, holds.1.leftEligible answers.possible, ?_⟩
    intro follows outboxId
    have own := follows thread
    rw [traceOf_cons_self, commitsFollow, Bool.and_eq_true] at own
    refine holds.1.onceQueued allowed answers.possible own.1 (holds.2.2 (fun other => ?_) outboxId)
    by_cases isThread : thread = other
    · rw [← isThread]
      exact own.2
    · rw [← traceOf_cons_ne before.history isThread event]
      exact follows other

def emptyOutbox : Store :=
  ⟨0, [], 1, [], [], 1⟩

theorem emptyOutbox_settled : Settled emptyOutbox where
  wellFormed := ⟨by simp [emptyOutbox], by simp [emptyOutbox], by simp [emptyOutbox],
    by simp [emptyOutbox]⟩
  queued := by simp [emptyOutbox]
  once _ := Or.inl rfl

def annDeleted : AccountLifecycleEvent :=
  ⟨.softDeleted, some 1, "ann@example.com", "ann@example.com", "self", 0⟩

/-- The first defer fails, and the reconciler queues the row. -/
def queuedLater : List (Move Request Nat) :=
  .begin (.transition annDeleted) :: Move.turns 0 2 ++ [.reply 0 1, .reply 0 0] ++
    .begin .dispatchPending :: Move.turns 1 6

theorem outbox_claims_ann :
    OutboxClaims ((Config.start emptyOutbox).follow system queuedLater) :=
  outbox_claims emptyOutbox_settled (Config.follow_reaches system _ queuedLater)

example : (((Config.start emptyOutbox).follow system queuedLater).state.rows.map
    OutboxRow.queuedAt, ((Config.start emptyOutbox).follow system queuedLater).state.jobs.length) =
      ([some 0], 1) := by
  decide +kernel

end MysticAuth.LifecycleOutbox
