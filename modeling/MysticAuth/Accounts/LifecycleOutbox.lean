import MysticAuth.Interleaving.Histories
import MysticAuth.Interleaving.Writes

/-!
# The outbox of account lifecycle events

A state transition commits an outbox row together with the account, and the
worker queue gets a job for the row afterwards: from the caller of the
transition, or from the reconciler that runs every five minutes.  Whoever
defers the job holds a lock on the row until its transaction ends.
-/

set_option autoImplicit false

namespace MysticAuth.LifecycleOutbox

open Interleaving

/-! ## The outbox, its row locks and the worker queue -/

inductive AccountLifecycleEventType where
  | softDeleted
  | reactivated
  | purged
  deriving DecidableEq

structure AccountLifecycleEvent where
  eventType : AccountLifecycleEventType
  userId : Option Nat
  userEmail : String
  actor : String
  source : String
  occurredAt : Nat
  deriving DecidableEq

structure OutboxRow where
  id : Nat
  event : AccountLifecycleEvent
  queuedAt : Option Nat
  deliveredAt : Option Nat
  deriving DecidableEq

structure RowLock where
  thread : Nat
  rowId : Nat
  deriving DecidableEq

structure Job where
  id : Nat
  event : AccountLifecycleEvent
  outboxId : Option Nat
  deriving DecidableEq

/-- `jobs` has every job that was ever deferred; rows are kept in the order of their ids. -/
structure Store where
  now : Nat
  rows : List OutboxRow
  nextRowId : Nat
  locks : List RowLock
  jobs : List Job
  nextJobId : Nat

/-- What the reconciler selects. -/
def OutboxRow.isPending (row : OutboxRow) : Bool :=
  row.queuedAt.isNone && row.deliveredAt.isNone

def OutboxRow.queue (now : Nat) (row : OutboxRow) : OutboxRow :=
  { row with queuedAt := some now }

/-- A delivered row is marked once, and no longer says whom it is about. -/
def OutboxRow.deliver (now : Nat) (row : OutboxRow) : OutboxRow :=
  if row.deliveredAt.isSome then row
  else
    { row with
      deliveredAt := some now
      event := { row.event with userId := none, userEmail := "", actor := "redacted" } }

namespace Store

def locked (store : Store) (thread rowId : Nat) : Bool :=
  store.locks.any fun lock => lock.thread != thread && lock.rowId == rowId

/-- The end of a thread's transaction. -/
def release (store : Store) (thread : Nat) : Store :=
  { store with locks := store.locks.filter (·.thread != thread) }

def lock (store : Store) (thread rowId : Nat) : Store :=
  { store with locks := ⟨thread, rowId⟩ :: store.locks }

def addRow (store : Store) (event : AccountLifecycleEvent) : Store :=
  { store with
    rows := store.rows ++ [⟨store.nextRowId, event, none, none⟩]
    nextRowId := store.nextRowId + 1 }

def addJob (store : Store) (event : AccountLifecycleEvent) (outboxId : Option Nat) : Store :=
  { store with
    jobs := store.jobs ++ [⟨store.nextJobId, event, outboxId⟩]
    nextJobId := store.nextJobId + 1 }

def updateRow (store : Store) (rowId : Nat) (change : OutboxRow → OutboxRow) : Store :=
  { store with rows := store.rows.map fun row => if row.id = rowId then change row else row }

/-- `WHERE id = outbox_id AND queued_at IS NULL`. -/
def unqueued (store : Store) (rowId : Nat) : Option OutboxRow :=
  store.rows.find? fun row => row.id == rowId && row.queuedAt.isNone

def pendingRows (store : Store) : List OutboxRow :=
  store.rows.filter OutboxRow.isPending

end Store

/-! ## Calls -/

inductive Call where
  /-- the transaction of the state transition, with its outbox row -/
  | insertOutbox (event : AccountLifecycleEvent)
  | selectPending
  /-- `SELECT ... FOR UPDATE SKIP LOCKED` -/
  | claim (outboxId : Nat)
  | defer (event : AccountLifecycleEvent) (outboxId : Option Nat)
  | commitQueued (outboxId : Nat)
  | closeSession
  | notifyListeners (event : AccountLifecycleEvent)
  | markDelivered (outboxId : Nat)
  deriving DecidableEq

@[reducible] def Reply : Call → Type
  | .insertOutbox _ => Write Nat
  | .selectPending => Except Unit (List OutboxRow)
  | .claim _ => Except Unit (Option OutboxRow)
  | .defer _ _ => Write Nat
  | .commitQueued _ => Write Unit
  | .closeSession => Except Unit Unit
  | .notifyListeners _ => Except Unit Unit
  | .markDelivered _ => Write Unit

/-- An answered call. -/
abbrev Event := Interleaving.Event Reply

def pendingLimit : Nat := 100

/-- A row that is free may be skipped as well, when a delivery is just writing to it. -/
def claimOutcomes (store : Store) (thread outboxId : Nat) :
    List (Except Unit (Option OutboxRow) × Store) :=
  let skipped := [(.ok none, store), (.error (), store)]
  match store.unqueued outboxId with
  | none => skipped
  | some row =>
      if store.locked thread outboxId then skipped
      else (.ok (some row), store.lock thread outboxId) :: skipped

/-- Every call may fail; a process that dies is a failure of its next call, and its transaction
ends. -/
def outcomes (thread : Nat) (call : Call) (store : Store) : List (Reply call × Store) :=
  match call with
  | .insertOutbox event => written store (store.addRow event) store.nextRowId
  | .selectPending => [(.ok (store.pendingRows.take pendingLimit), store), (.error (), store)]
  | .claim outboxId => claimOutcomes store thread outboxId
  | .defer event outboxId => written store (store.addJob event outboxId) store.nextJobId
  | .commitQueued outboxId =>
      written store ((store.updateRow outboxId (·.queue store.now)).release thread) ()
  | .closeSession => [(.ok (), store.release thread), (.error (), store.release thread)]
  | .notifyListeners _ => [(.ok (), store), (.error (), store)]
  | .markDelivered outboxId =>
      if store.locked thread outboxId then []
      else written store (store.updateRow outboxId (·.deliver store.now)) ()

/-! ## The services -/

abbrev Service (α : Type) := Program Reply Unit α

def execute {α : Type} (call : Call) (result : Reply call → Except Unit α) : Service α :=
  .attempt call result

/-- The transaction around the defer call. -/
def claimAndDefer (event : AccountLifecycleEvent) (outboxId : Nat) : Service (Option Nat) := do
  match ← execute (.claim outboxId) id with
  | none => return none
  | some _ =>
    let jobId ← execute (.defer event (some outboxId)) (Write.result ())
    execute (.commitQueued outboxId) (Write.result ())
    return some jobId

def queueAccountLifecycleEvent (event : AccountLifecycleEvent) :
    Option Nat → Service (Option Nat)
  | none =>
      tryCatch (do
        let jobId ← execute (.defer event none) (Write.result ())
        return some jobId) fun _ => return none
  | some outboxId =>
      tryCatch (Program.finally (claimAndDefer event outboxId) (execute .closeSession id))
        fun _ => return none

/-- How many of the rows a run of the reconciler has queued. -/
def queueRows : List OutboxRow → Nat → Service Nat
  | [], queued => return queued
  | row :: rows, queued => do
    let jobId ← queueAccountLifecycleEvent row.event (some row.id)
    queueRows rows (if jobId.isSome then queued + 1 else queued)

def dispatchPendingAccountLifecycleEvents : Service Nat := do
  let rows ← Program.finally (execute .selectPending id) (execute .closeSession id)
  queueRows rows 0

inductive Response where
  | moved
  | queued (jobId : Option Nat)
  | dispatched (count : Nat)
  | delivered
  deriving DecidableEq

/-- `soft_delete`, `reactivate` or `delete`, with its event. -/
def transition (event : AccountLifecycleEvent) : Service Response := do
  let outboxId ← execute (.insertOutbox event) (Write.result ())
  let _ ← queueAccountLifecycleEvent event (some outboxId)
  return .moved

/-- `deliver_account_lifecycle_event_task`, which the worker may run again. -/
def deliver (event : AccountLifecycleEvent) (outboxId : Option Nat) : Service Response := do
  execute (.notifyListeners event) id
  if let some outboxId := outboxId then
    execute (.markDelivered outboxId) (Write.result ())
  return .delivered

inductive Request where
  | transition (event : AccountLifecycleEvent)
  | queue (event : AccountLifecycleEvent) (outboxId : Option Nat)
  | dispatchPending
  | deliver (event : AccountLifecycleEvent) (outboxId : Option Nat)
  deriving DecidableEq

def handle : Request → Service Response
  | .transition event => transition event
  | .queue event outboxId => do
    let jobId ← queueAccountLifecycleEvent event outboxId
    return .queued jobId
  | .dispatchPending => do
    let count ← dispatchPendingAccountLifecycleEvents
    return .dispatched count
  | .deliver event outboxId => deliver event outboxId

/-- Time passes. -/
def system : System Request Store Nat Reply Unit Response where
  handle := handle
  outcomes := outcomes
  disturb seconds store := { store with now := store.now + seconds }

abbrev Server := Config Request Store Reply Unit Response

end MysticAuth.LifecycleOutbox
