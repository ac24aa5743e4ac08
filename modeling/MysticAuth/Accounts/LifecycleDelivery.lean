import MysticAuth.Accounts.OutboxClaims
import MysticAuth.Interleaving.Components
import Mathlib.Algebra.Group.Nat.Defs
import Mathlib.Data.List.Sublists

/-!
# The delivery of account lifecycle events

The worker takes a job that was deferred for an outbox row, tells the
listeners of its event and marks the row.  A job that fails is put back for
another attempt or given up; so is the job of a worker that has died.  What was
given up is kept for a while, and then swept.
-/

set_option autoImplicit false

namespace MysticAuth.LifecycleDelivery

open Interleaving
open LifecycleOutbox (AccountLifecycleEvent OutboxRow Job)

/-! ## The worker queue -/

/-- The row of a job that has `succeeded` is deleted at once, and that of a `swept` one by the
daily sweep. -/
inductive JobStatus where
  | todo
  | doing
  | failed (since : Nat)
  | succeeded
  | swept (since now : Nat)
  deriving DecidableEq

/-- A job is `redacted` once its arguments are erased. -/
structure JobState where
  status : JobStatus
  attempts : Nat
  scheduledAt : Nat
  redacted : Bool
  deriving DecidableEq

def JobState.deferred : JobState :=
  ⟨.todo, 0, 0, false⟩

abbrev Arguments := AccountLifecycleEvent × Option Nat

/-- A job as the worker reads it. -/
structure FetchedJob where
  id : Nat
  attempts : Nat
  arguments : Option Arguments
  deriving DecidableEq

/-- Jitter is left to the time that passes until a job is fetched. -/
structure ExponentialBackoffWithJitter where
  maxAttempts : Nat
  baseDelay : Nat
  maxDelay : Nat

def ExponentialBackoffWithJitter.getRetryDecision (strategy : ExponentialBackoffWithJitter)
    (job : FetchedJob) : Option Nat :=
  if strategy.maxAttempts ≤ job.attempts then none
  else some (min (strategy.baseDelay * 2 ^ job.attempts) strategy.maxDelay)

def accountLifecycleRetry : ExponentialBackoffWithJitter :=
  ⟨5, 5, 300⟩

/-- Times are in seconds. -/
structure Settings where
  stalledJobMaxAttempts : Nat
  failedJobRetention : Nat

namespace JobState

variable (now : Nat) (state : JobState)

def unfinished : Bool :=
  state.status = .todo || state.status = .doing

def runnable : Bool :=
  state.status = .todo && decide (state.scheduledAt ≤ now)

/-- Procrastinate puts a failed job back as well. -/
def retriable : Bool :=
  match state.status with
  | .doing | .failed _ => true
  | _ => false

def failedBefore (cutoff : Nat) : Bool :=
  match state.status with
  | .failed since => decide (since < cutoff)
  | _ => false

def start : JobState :=
  { state with status := .doing }

def redact : JobState :=
  if state.status = .doing then { state with redacted := true } else state

def retry (delay : Nat) : JobState :=
  { state with status := .todo, attempts := state.attempts + 1, scheduledAt := now + delay }

def succeed : JobState :=
  { state with status := .succeeded }

def fail : JobState :=
  { state with
    status := .failed now
    attempts := if state.status = .doing then state.attempts + 1 else state.attempts }

def sweep : JobState :=
  match state.status with
  | .failed since => { state with status := .swept since now }
  | _ => state

end JobState

/-- The jobs that the outbox has deferred, each with its state. -/
structure Store where
  outbox : LifecycleOutbox.Store
  state : Nat → JobState

namespace Store

def initial (now : Nat) : Store :=
  ⟨{ LifecycleOutbox.emptyOutbox with now }, fun _ => .deferred⟩

variable (store : Store)

def fetched (job : Job) : FetchedJob :=
  ⟨job.id, (store.state job.id).attempts,
    if (store.state job.id).redacted then none else some (job.event, job.outboxId)⟩

/-- `UPDATE procrastinate_jobs ... WHERE id = job_id`. -/
def update (jobId : Nat) (change : JobState → JobState) : Store :=
  { store with state := Function.update store.state jobId (change (store.state jobId)) }

def jobsWhere (check : JobState → Bool) : List Job :=
  store.outbox.jobs.filter fun job => check (store.state job.id)

def has (jobId : Nat) (check : JobState → Bool) : Bool :=
  (store.jobsWhere check).any (·.id == jobId)

end Store

/-! ## Calls -/

inductive Call where
  | outbox (call : LifecycleOutbox.Call)
  | fetchJob
  | redactArguments (jobId : Nat)
  | finishJob (jobId : Nat) (succeeded : Bool)
  | retryJob (jobId delay : Nat)
  | getStalledJobs
  | now
  | deleteFailedJobs (cutoff : Nat)
  deriving DecidableEq

@[reducible] def Reply : Call → Type
  | .outbox call => LifecycleOutbox.Reply call
  | .fetchJob => Except Unit (Option FetchedJob)
  | .redactArguments _ => Except Unit Unit
  | .finishJob _ _ => Write Unit
  | .retryJob _ _ => Write Unit
  | .getStalledJobs => Except Unit (List FetchedJob)
  | .now => Nat
  | .deleteFailedJobs _ => Write Nat

abbrev Event := Interleaving.Event Reply

def sweepLimit : Nat := 5000

/-- A worker that dies after it was given a job leaves it behind in `doing`. -/
def fetchOutcomes (store : Store) : List (Except Unit (Option FetchedJob) × Store) :=
  (.ok none, store) :: (.error (), store) ::
    (store.jobsWhere (·.runnable store.outbox.now)).flatMap fun job =>
      let started := store.update job.id JobState.start
      [(.ok (some (store.fetched job)), started), (.error (), started)]

/-- Of the jobs that are being done, any may have a worker that has not sent a heartbeat. -/
def stalledOutcomes (store : Store) : List (Except Unit (List FetchedJob) × Store) :=
  (.error (), store) :: ((store.jobsWhere (·.status = .doing)).sublists.map fun jobs =>
    (.ok (jobs.map store.fetched), store))

def deleteOutcomes (store : Store) (cutoff : Nat) : List (Write Nat × Store) :=
  let doomed := (store.jobsWhere (·.failedBefore cutoff)).take sweepLimit
  written store
    { store with
      state := fun jobId =>
        if jobId ∈ doomed.map Job.id then (store.state jobId).sweep store.outbox.now
        else store.state jobId }
    doomed.length

def outcomes (thread : Nat) (call : Call) (store : Store) : List (Reply call × Store) :=
  match call with
  | .outbox call =>
      (LifecycleOutbox.outcomes thread call store.outbox).map fun outcome =>
        (outcome.1, { store with outbox := outcome.2 })
  | .fetchJob => fetchOutcomes store
  | .redactArguments jobId =>
      let redacted := store.update jobId JobState.redact
      [(.ok (), redacted), (.error (), store), (.error (), redacted)]
  | .finishJob jobId succeeded =>
      if store.has jobId JobState.unfinished then
        written store (store.update jobId fun state =>
          if succeeded then state.succeed else state.fail store.outbox.now) ()
      else [(.failed, store)]
  | .retryJob jobId delay =>
      if store.has jobId JobState.retriable then
        written store (store.update jobId (·.retry store.outbox.now delay)) ()
      else [(.failed, store)]
  | .getStalledJobs => stalledOutcomes store
  | .now => [(store.outbox.now, store)]
  | .deleteFailedJobs cutoff => deleteOutcomes store cutoff

/-! ## The services -/

abbrev Service (α : Type) := Program Reply Unit α

def execute {α : Type} (call : Call) (result : Reply call → Except Unit α) : Service α :=
  .attempt call result

def outboxEvent : Event → Option LifecycleOutbox.Event
  | ⟨.outbox call, reply⟩ => some ⟨call, reply⟩
  | _ => none

/-- The outbox within the system with the worker. -/
def outbox : Component LifecycleOutbox.Reply Reply where
  call := .outbox
  reply _ answer := answer
  event := outboxEvent
  injective _ _ same := Call.outbox.inj same
  event_call _ _ := rfl

/-- Without its arguments the task cannot be called. -/
def deliverAccountLifecycleEventTask : Option Arguments → Service Unit
  | none => throw ()
  | some (event, outboxId) => do
    let _ ← outbox.embed (LifecycleOutbox.deliver event outboxId)

/-- What the middleware does to a job of this task that has succeeded. -/
def taskLifecycleMiddleware (jobId : Nat) (callNext : Service Unit) : Service Unit := do
  callNext
  tryCatch (execute (.redactArguments jobId) id) fun _ => return ()

/-- Procrastinate's treatment of a job, around the middleware. -/
def processJob (job : FetchedJob) : Service Unit :=
  (taskLifecycleMiddleware job.id (deliverAccountLifecycleEventTask job.arguments)).resume fun
    | .ok _ => execute (.finishJob job.id true) (Write.result ())
    | .error _ =>
        match accountLifecycleRetry.getRetryDecision job with
        | some delay => execute (.retryJob job.id delay) (Write.result ())
        | none => execute (.finishJob job.id false) (Write.result ())

section Maintenance

variable (settings : Settings)

def recoverEach : List FetchedJob → Nat → Service Nat
  | [], recovered => return recovered
  | job :: rest, recovered => do
    if settings.stalledJobMaxAttempts ≤ job.attempts + 1 then
      execute (.finishJob job.id false) (Write.result ())
    else
      execute (.retryJob job.id 0) (Write.result ())
    recoverEach rest (recovered + 1)

def recoverStalledJobs : Service Nat := do
  let stalled ← execute .getStalledJobs id
  recoverEach settings stalled 0

/-- The loop of the sweep, for so many rounds at most. -/
def sweepEach (cutoff : Nat) : Nat → Nat → Service Nat
  | 0, deletedCount => return deletedCount
  | rounds + 1, deletedCount => do
    let batchCount ← execute (.deleteFailedJobs cutoff) (Write.result ())
    if batchCount < sweepLimit then return deletedCount + batchCount
    sweepEach cutoff rounds (deletedCount + batchCount)

def purgeOldFinishedJobs (rounds : Nat) : Service Nat := do
  let now ← .perform .now
  sweepEach (now - settings.failedJobRetention) rounds 0

inductive Response where
  | outbox (response : LifecycleOutbox.Response)
  | idle
  | processed
  | recovered (jobs : Nat)
  | purged (jobs : Nat)
  deriving DecidableEq

inductive Request where
  | transition (event : AccountLifecycleEvent)
  | dispatchPending
  | runJob
  | recoverStalledJobs
  | purgeOldFinishedJobs (rounds : Nat)
  deriving DecidableEq

def runJob : Service Response := do
  match ← execute .fetchJob id with
  | none => return .idle
  | some job =>
    processJob job
    return .processed

def handle : Request → Service Response
  | .transition event => do
    let response ← outbox.embed (LifecycleOutbox.handle (.transition event))
    return .outbox response
  | .dispatchPending => do
    let response ← outbox.embed (LifecycleOutbox.handle .dispatchPending)
    return .outbox response
  | .runJob => runJob
  | .recoverStalledJobs => do
    let recovered ← recoverStalledJobs settings
    return .recovered recovered
  | .purgeOldFinishedJobs rounds => do
    let deletedCount ← purgeOldFinishedJobs settings rounds
    return .purged deletedCount

/-- Time passes. -/
def system : System Request Store Nat Reply Unit Response where
  handle := handle settings
  outcomes := outcomes
  disturb seconds store :=
    { store with outbox := { store.outbox with now := store.outbox.now + seconds } }

end Maintenance

abbrev Server := Config Request Store Reply Unit Response

end MysticAuth.LifecycleDelivery
