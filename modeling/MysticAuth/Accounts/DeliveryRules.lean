import MysticAuth.Accounts.LifecycleDelivery

/-!
# What the worker's programs keep to

Jobs are deferred for rows the caller has read, listeners are told what the job
says, a row is marked after the listeners accepted, and a job is finished after
that or given up after its attempts.
-/

set_option autoImplicit false

namespace MysticAuth.LifecycleDelivery

open Interleaving
open LifecycleOutbox (AccountLifecycleEvent OutboxRow Job)

/-! ## What the outbox programs keep to -/

/-- The thread has learnt that this is the event of the row. -/
def Knows (trace : List LifecycleOutbox.Event) (rowId : Nat) (event : AccountLifecycleEvent) :
    Prop :=
  ⟨.insertOutbox event, .done rowId⟩ ∈ trace ∨
    ∃ rows, ⟨.selectPending, .ok rows⟩ ∈ trace ∧ ∃ row ∈ rows, row.id = rowId ∧ row.event = event

/-- Jobs are deferred for rows that are known, with the events of the rows. -/
def knowing : Discipline LifecycleOutbox.Reply where
  allows trace call := LifecycleOutbox.discipline.allows trace call ∧ match call with
    | .defer event outboxId => ∃ rowId, outboxId = some rowId ∧ Knows trace rowId event
    | .notifyListeners _ | .markDelivered _ => False
    | _ => True
  answers _ _ := True

/-- The row of the job has been marked. -/
def Served (arguments : Arguments) (trace : List LifecycleOutbox.Event) : Prop :=
  ∀ rowId, arguments.2 = some rowId → ⟨.markDelivered rowId, .done ()⟩ ∈ trace

/-- The row is marked after the listeners have accepted the event. -/
def delivering (arguments : Arguments) : Discipline LifecycleOutbox.Reply where
  allows trace call := LifecycleOutbox.discipline.allows trace call ∧ match call with
    | .notifyListeners event => arguments.1 = event
    | .markDelivered rowId =>
        arguments.2 = some rowId ∧ ⟨.notifyListeners arguments.1, .ok ()⟩ ∈ trace
    | _ => False
  answers _ _ := True

section OutboxPrograms

variable {trace later : List LifecycleOutbox.Event} {rowId : Nat} {event : AccountLifecycleEvent}

theorem Knows.mono (knows : Knows trace rowId event) (extended : trace <:+ later) :
    Knows later rowId event := by
  rcases knows with inserted | ⟨rows, selected, isRow⟩
  · exact Or.inl (extended.subset inserted)
  · exact Or.inr ⟨rows, extended.subset selected, isRow⟩

theorem claimAndDefer_knowing (knows : Knows trace rowId event) :
    (LifecycleOutbox.claimAndDefer event rowId).Meets knowing (fun _ _ => True) trace := by
  refine ⟨⟨trivial, trivial⟩, fun claimed _ => ?_⟩
  match claimed with
  | .error () => trivial
  | .ok none => trivial
  | .ok (some row) =>
    have known := knows.mono (List.suffix_cons ⟨.claim rowId, .ok (some row)⟩ trace)
    refine ⟨⟨⟨row, trace, rfl⟩, rowId, rfl, known⟩, fun deferred _ => ?_⟩
    match deferred with
    | .done jobId =>
      refine ⟨⟨⟨event, jobId, row, trace, rfl⟩, trivial⟩, fun committed _ => ?_⟩
      cases committed <;> trivial
    | .integrityError | .failed | .unacknowledged jobId => trivial

theorem queue_knowing (knows : Knows trace rowId event) :
    (LifecycleOutbox.queueAccountLifecycleEvent event (some rowId)).Meets knowing
      (fun _ _ => True) trace := by
  rw [LifecycleOutbox.queueAccountLifecycleEvent, Program.meets_tryCatch, Program.meets_finally]
  refine (claimAndDefer_knowing knows).mono fun result later _ _ => ?_
  refine ⟨⟨trivial, trivial⟩, fun closed _ => ?_⟩
  cases closed <;> cases result <;> trivial

theorem queueRows_knowing (rows : List OutboxRow) (queued : Nat)
    (known : ∀ row ∈ rows, Knows trace row.id row.event) :
    (LifecycleOutbox.queueRows rows queued).Meets knowing (fun _ _ => True) trace := by
  induction rows generalizing queued trace with
  | nil => trivial
  | cons row rest ih =>
    rw [LifecycleOutbox.queueRows, Program.meets_bind]
    refine (queue_knowing (known row List.mem_cons_self)).mono fun result later extended _ => ?_
    cases result with
    | error failure => trivial
    | ok jobId =>
      exact ih _ fun other member =>
        (known other (List.mem_cons_of_mem _ member)).mono extended

theorem transition_knowing :
    (LifecycleOutbox.handle (.transition event)).Meets knowing (fun _ _ => True) trace := by
  refine ⟨⟨trivial, trivial⟩, fun inserted _ => ?_⟩
  match inserted with
  | .done rowId =>
    change (LifecycleOutbox.queueAccountLifecycleEvent event (some rowId) >>= _).Meets _ _ _
    rw [Program.meets_bind]
    refine (queue_knowing (Or.inl List.mem_cons_self)).mono fun result later _ _ => ?_
    cases result <;> trivial
  | .integrityError | .failed | .unacknowledged rowId => trivial

theorem dispatch_knowing :
    (LifecycleOutbox.handle .dispatchPending).Meets knowing (fun _ _ => True) trace := by
  rw [LifecycleOutbox.handle, LifecycleOutbox.dispatchPendingAccountLifecycleEvents]
  simp only [Program.meets_bind, Program.meets_finally]
  refine ⟨⟨trivial, trivial⟩, fun selected _ => ⟨⟨trivial, trivial⟩, fun closed _ => ?_⟩⟩
  cases selected with
  | error failure => cases closed <;> trivial
  | ok rows =>
    cases closed with
    | error failure => trivial
    | ok _ =>
      refine (queueRows_knowing rows 0 fun row member => Or.inr ?_).mono fun result later _ _ => ?_
      · exact ⟨rows, List.mem_cons_of_mem _ List.mem_cons_self, row, member, rfl, rfl⟩
      · cases result <;> trivial

theorem deliver_delivering (event : AccountLifecycleEvent) (outboxId : Option Nat) :
    (LifecycleOutbox.deliver event outboxId).Meets (delivering (event, outboxId))
      (fun result later => result.isOk = true → Served (event, outboxId) later) trace := by
  refine ⟨⟨trivial, rfl⟩, fun notified _ => ?_⟩
  match notified with
  | .error () => exact fun raised => Bool.noConfusion raised
  | .ok () =>
    cases outboxId with
    | none =>
      intro _ rowId isRow
      cases isRow
    | some rowId =>
      refine ⟨⟨trivial, rfl, List.mem_cons_self⟩, fun marked _ => ?_⟩
      match marked with
      | .done () =>
        intro _ other isRow
        obtain rfl := Option.some.inj isRow
        exact List.mem_cons_self
      | .integrityError | .failed | .unacknowledged () =>
        exact fun raised => Bool.noConfusion raised

end OutboxPrograms

/-! ## What the worker keeps to -/

def Fetched (trace : List Event) (job : FetchedJob) : Prop :=
  ⟨.fetchJob, .ok (some job)⟩ ∈ trace

/-- The worker was given the job, or found it stalled. -/
def Seen (trace : List Event) (job : FetchedJob) : Prop :=
  Fetched trace job ∨ ∃ jobs, ⟨.getStalledJobs, .ok jobs⟩ ∈ trace ∧ job ∈ jobs

/-- After so many attempts a job may be given up. -/
def Settings.GivesUp (settings : Settings) (attempts : Nat) : Prop :=
  accountLifecycleRetry.maxAttempts ≤ attempts ∨ settings.stalledJobMaxAttempts ≤ attempts + 1

/-- The job of the row was fetched with its arguments. -/
def TookJob (trace : List Event) (arguments : Arguments) (jobId : Nat) : Prop :=
  ∃ job, Fetched trace job ∧ job.id = jobId ∧ job.arguments = some arguments

def rules (settings : Settings) : Discipline Reply where
  allows trace call := match call with
    | .outbox call =>
        LifecycleOutbox.discipline.allows (outbox.trace trace) call ∧ match call with
          | .defer event outboxId =>
              ∃ rowId, outboxId = some rowId ∧ Knows (outbox.trace trace) rowId event
          | .notifyListeners event =>
              ∃ arguments jobId, TookJob trace arguments jobId ∧ arguments.1 = event
          | .markDelivered rowId =>
              ∃ arguments jobId, TookJob trace arguments jobId ∧ arguments.2 = some rowId ∧
                ⟨.notifyListeners arguments.1, .ok ()⟩ ∈ outbox.trace trace
          | _ => True
    | .redactArguments jobId | .finishJob jobId true =>
        ∃ arguments, TookJob trace arguments jobId ∧ Served arguments (outbox.trace trace)
    | .finishJob jobId false => ∃ job, Seen trace job ∧ job.id = jobId ∧ settings.GivesUp job.attempts
    | .deleteFailedJobs cutoff =>
        ∃ now, ⟨.now, now⟩ ∈ trace ∧ cutoff = now - settings.failedJobRetention
    | _ => True
  answers _ _ := True

section WorkerPrograms

variable {settings : Settings} {trace later : List Event}

theorem TookJob.mono {arguments : Arguments} {jobId : Nat} (took : TookJob trace arguments jobId)
    (extended : trace <:+ later) : TookJob later arguments jobId := by
  obtain ⟨job, fetched, same⟩ := took
  exact ⟨job, extended.subset fetched, same⟩

theorem outbox_rules {α : Type} {program : LifecycleOutbox.Service α}
    (meets : program.Meets knowing (fun _ _ => True) (outbox.trace trace)) :
    (outbox.embed program).Meets (rules settings) (fun _ _ => True) trace := by
  refine (Component.embed_meets meets (fun later request _ allows => ?_) fun _ _ _ => trivial).mono
    fun _ _ _ _ => trivial
  refine ⟨allows.1, ?_⟩
  have known := allows.2
  cases request with
  | defer => exact known
  | notifyListeners | markDelivered => cases known
  | insertOutbox | selectPending | claim | commitQueued | closeSession => trivial

theorem deliver_rules {arguments : Arguments} {jobId : Nat}
    (took : TookJob trace arguments jobId) :
    (outbox.embed (LifecycleOutbox.deliver arguments.1 arguments.2)).Meets (rules settings)
      (fun result later => trace <:+ later ∧
        (result.isOk = true → Served arguments (outbox.trace later))) trace := by
  refine Component.embed_meets (deliver_delivering arguments.1 arguments.2)
    (fun later request extended allows => ?_) fun _ _ _ => trivial
  refine ⟨allows.1, ?_⟩
  have ruled := allows.2
  cases request with
  | notifyListeners event => exact ⟨arguments, jobId, took.mono extended, ruled⟩
  | markDelivered rowId => exact ⟨arguments, jobId, took.mono extended, ruled⟩
  | defer | insertOutbox | selectPending | claim | commitQueued | closeSession => cases ruled

/-- The arguments are erased only of a job whose row has been marked. -/
theorem middleware_rules {job : FetchedJob} (fetched : Fetched trace job) :
    (taskLifecycleMiddleware job.id (deliverAccountLifecycleEventTask job.arguments)).Meets
      (rules settings) (fun result later => trace <:+ later ∧ (result.isOk = true →
        ∃ arguments, TookJob later arguments job.id ∧ Served arguments (outbox.trace later)))
      trace := by
  rw [taskLifecycleMiddleware, Program.meets_bind]
  cases present : job.arguments with
  | none => exact ⟨List.suffix_refl _, fun raised => Bool.noConfusion raised⟩
  | some arguments =>
    have took : TookJob trace arguments job.id := ⟨job, fetched, rfl, present⟩
    rw [deliverAccountLifecycleEventTask, Program.meets_bind]
    refine (deliver_rules took).mono fun result later _ delivered => ?_
    obtain ⟨extended, served⟩ := delivered
    cases result with
    | error failure => exact ⟨extended, fun raised => Bool.noConfusion raised⟩
    | ok response =>
      have tookLater := took.mono extended
      refine ⟨⟨arguments, tookLater, served rfl⟩, fun redacted _ => ?_⟩
      have longer := List.suffix_cons (⟨.redactArguments job.id, redacted⟩ : Event) later
      cases redacted <;> exact ⟨extended.trans longer, fun _ =>
        ⟨arguments, tookLater.mono longer, served rfl⟩⟩

theorem processJob_rules {job : FetchedJob} (fetched : Fetched trace job) :
    (processJob job).Meets (rules settings) (fun _ _ => True) trace := by
  rw [processJob, Program.meets_resume]
  refine (middleware_rules fetched).mono fun result later _ processed => ?_
  obtain ⟨extended, served⟩ := processed
  cases result with
  | ok _ => exact ⟨served rfl, fun _ _ => trivial⟩
  | error failure =>
    simp only
    split
    · exact ⟨trivial, fun _ _ => trivial⟩
    · rename_i noRetry
      have exhausted : accountLifecycleRetry.maxAttempts ≤ job.attempts := by
        unfold ExponentialBackoffWithJitter.getRetryDecision at noRetry
        split at noRetry
        · assumption
        · cases noRetry
      exact ⟨⟨job, Or.inl (extended.subset fetched), rfl, Or.inl exhausted⟩, fun _ _ => trivial⟩

theorem runJob_rules : runJob.Meets (rules settings) (fun _ _ => True) trace := by
  rw [runJob, Program.meets_bind]
  refine ⟨trivial, fun fetched _ => ?_⟩
  match fetched with
  | .error () | .ok none => trivial
  | .ok (some job) =>
    change (processJob job >>= _).Meets _ _ _
    rw [Program.meets_bind]
    refine (processJob_rules List.mem_cons_self).mono fun result later _ _ => ?_
    cases result <;> trivial

theorem recoverEach_rules (jobs : List FetchedJob) (recovered : Nat)
    (seen : ∀ job ∈ jobs, Seen trace job) :
    (recoverEach settings jobs recovered).Meets (rules settings) (fun _ _ => True) trace := by
  induction jobs generalizing recovered trace with
  | nil => trivial
  | cons job rest ih =>
    have onward : ∀ event : Event,
        (recoverEach settings rest (recovered + 1)).Meets (rules settings) (fun _ _ => True)
          (event :: trace) := fun event => ih _ fun other member =>
      (seen other (List.mem_cons_of_mem _ member)).imp (List.mem_cons_of_mem _)
        fun found => found.imp fun _ both => ⟨List.mem_cons_of_mem _ both.1, both.2⟩
    rw [recoverEach]
    split
    · rename_i exhausted
      rw [Program.meets_bind]
      refine ⟨⟨job, seen job List.mem_cons_self, rfl, Or.inr exhausted⟩, fun finished _ => ?_⟩
      cases finished <;> first | exact onward _ | trivial
    · rw [Program.meets_bind]
      refine ⟨trivial, fun retried _ => ?_⟩
      cases retried <;> first | exact onward _ | trivial

theorem sweepEach_rules {cutoff : Nat} (rounds deletedCount : Nat)
    (read : ∃ now, ⟨.now, now⟩ ∈ trace ∧ cutoff = now - settings.failedJobRetention) :
    (sweepEach cutoff rounds deletedCount).Meets (rules settings) (fun _ _ => True) trace := by
  induction rounds generalizing deletedCount trace with
  | zero => trivial
  | succ rounds ih =>
    rw [sweepEach, Program.meets_bind]
    refine ⟨read, fun deleted _ => ?_⟩
    match deleted with
    | .integrityError | .failed | .unacknowledged count => trivial
    | .done count =>
      change (if count < sweepLimit then _ else _ : Service Nat).Meets _ _ _
      split
      · trivial
      · exact ih _ (read.imp fun _ both => ⟨List.mem_cons_of_mem _ both.1, both.2⟩)

theorem handle_rules (request : Request) :
    (handle settings request).Meets (rules settings) (fun _ _ => True) trace := by
  cases request with
  | transition event =>
    rw [handle, Program.meets_bind]
    refine (outbox_rules transition_knowing).mono fun result later _ _ => ?_
    cases result <;> trivial
  | dispatchPending =>
    rw [handle, Program.meets_bind]
    refine (outbox_rules dispatch_knowing).mono fun result later _ _ => ?_
    cases result <;> trivial
  | runJob => exact runJob_rules
  | recoverStalledJobs =>
    rw [handle, recoverStalledJobs]
    simp only [Program.meets_bind]
    refine ⟨trivial, fun stalled _ => ?_⟩
    cases stalled with
    | error failure => trivial
    | ok jobs =>
      have seen : ∀ job ∈ jobs, Seen (⟨.getStalledJobs, .ok jobs⟩ :: trace) job :=
        fun job member => Or.inr ⟨jobs, List.mem_cons_self, member⟩
      refine (recoverEach_rules jobs 0 seen).mono fun result later _ _ => ?_
      cases result <;> trivial
  | purgeOldFinishedJobs rounds =>
    rw [handle, purgeOldFinishedJobs]
    simp only [Program.meets_bind]
    refine ⟨trivial, fun now _ => ?_⟩
    refine (sweepEach_rules rounds 0 ⟨now, List.mem_cons_self, rfl⟩).mono
      fun result later _ _ => ?_
    cases result <;> trivial

theorem system_obeys :
    (system settings).Obeys (fun _ => rules settings) (fun _ _ _ => True) where
  programs request := handle_rules request
  answers _ _ _ _ _ _ := trivial

end WorkerPrograms

end MysticAuth.LifecycleDelivery
