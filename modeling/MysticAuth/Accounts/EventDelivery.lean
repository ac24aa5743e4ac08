import MysticAuth.Accounts.DeliveryRules

/-!
# No lifecycle event is lost

A row of the outbox is marked only after the listeners have accepted its event,
and a job that is gone has either been served or given up.  So a row that is
not marked waits for the reconciler or still has its job.
-/

set_option autoImplicit false

namespace MysticAuth.LifecycleDelivery

open Interleaving
open LifecycleOutbox (AccountLifecycleEvent OutboxRow Job)

/-! ## One answer of the queue -/

/-- What an answered call may do to the state of one job. -/
inductive JobStep (now : Nat) (state : JobState) : Call → Nat → JobState → Prop
  | unchanged {call : Call} {jobId : Nat} : JobStep now state call jobId state
  | started {call : Call} {jobId : Nat} : JobStep now state call jobId state.start
  | redacted (jobId : Nat) : JobStep now state (.redactArguments jobId) jobId state.redact
  | succeeded (jobId : Nat) : JobStep now state (.finishJob jobId true) jobId state.succeed
  | failed (jobId : Nat) : JobStep now state (.finishJob jobId false) jobId (state.fail now)
  | retried {call : Call} {jobId : Nat} (delay : Nat) :
      JobStep now state call jobId (state.retry now delay)
  | swept {jobId : Nat} {cutoff : Nat} (old : state.failedBefore cutoff = true) :
      JobStep now state (.deleteFailedJobs cutoff) jobId (state.sweep now)

section JobSteps

variable {store store' : Store} {thread : Nat} {call : Call} {reply : Reply call}

theorem state_update (jobId other : Nat) (change : JobState → JobState) :
    ((store.update jobId change).state other = change (store.state other) ∧ other = jobId) ∨
      (store.update jobId change).state other = store.state other := by
  by_cases same : other = jobId
  · subst same
    exact Or.inl ⟨Function.update_self _ _ _, rfl⟩
  · exact Or.inr (Function.update_of_ne same _ _)

theorem mem_jobsWhere {check : JobState → Bool} {job : Job} :
    job ∈ store.jobsWhere check ↔ job ∈ store.outbox.jobs ∧ check (store.state job.id) = true := by
  simp [Store.jobsWhere]

theorem has_iff {jobId : Nat} {check : JobState → Bool} : store.has jobId check = true ↔
    ∃ job ∈ store.outbox.jobs, job.id = jobId ∧ check (store.state jobId) = true := by
  simp only [Store.has, List.any_eq_true, mem_jobsWhere, beq_iff_eq]
  constructor
  · rintro ⟨job, ⟨member, checked⟩, rfl⟩
    exact ⟨job, member, rfl, checked⟩
  · rintro ⟨job, member, rfl, checked⟩
    exact ⟨job, ⟨member, checked⟩, rfl⟩

/-- The jobs whose state may change are there, and the outbox stays as it is. -/
structure QueueStep (store : Store) (call : Call) (store' : Store) : Prop where
  outbox : store'.outbox = store.outbox
  states : ∀ jobId, JobStep store.outbox.now (store.state jobId) call jobId (store'.state jobId)
  present : ∀ jobId, store'.state jobId = store.state jobId ∨
    (store.state jobId).status = .doing ∨ ∃ job ∈ store.outbox.jobs, job.id = jobId

theorem QueueStep.refl (store : Store) (call : Call) : QueueStep store call store :=
  ⟨rfl, fun _ => .unchanged, fun _ => Or.inl rfl⟩

theorem QueueStep.update {jobId : Nat} {change : JobState → JobState}
    (changes : JobStep store.outbox.now (store.state jobId) call jobId
      (change (store.state jobId)))
    (present : change (store.state jobId) = store.state jobId ∨
      (store.state jobId).status = .doing ∨ ∃ job ∈ store.outbox.jobs, job.id = jobId) :
    QueueStep store call (store.update jobId change) where
  outbox := rfl
  states other := by
    rcases state_update jobId other change with ⟨isChanged, rfl⟩ | same
    · rw [isChanged]
      exact changes
    · rw [same]
      exact .unchanged
  present other := by
    rcases state_update jobId other change with ⟨isChanged, rfl⟩ | same
    · rw [isChanged]
      exact present
    · exact Or.inl same

theorem queue_step (possible : (reply, store') ∈ outcomes thread call store)
    (other : outboxEvent ⟨call, reply⟩ = none) : QueueStep store call store' := by
  cases call with
  | outbox inner => cases other
  | fetchJob =>
    simp only [outcomes, fetchOutcomes, List.mem_cons, Prod.mk.injEq, List.mem_flatMap,
      List.not_mem_nil, or_false] at possible
    rcases possible with ⟨-, rfl⟩ | ⟨-, rfl⟩ | ⟨job, runnable, ⟨-, rfl⟩ | ⟨-, rfl⟩⟩
    · exact .refl _ _
    · exact .refl _ _
    · exact .update .started (Or.inr (Or.inr ⟨job, (mem_jobsWhere.mp runnable).1, rfl⟩))
    · exact .update .started (Or.inr (Or.inr ⟨job, (mem_jobsWhere.mp runnable).1, rfl⟩))
  | redactArguments jobId =>
    have redacts : QueueStep store (.redactArguments jobId)
        (store.update jobId JobState.redact) := by
      refine .update (.redacted jobId) ?_
      unfold JobState.redact
      split
      · rename_i isDoing
        exact Or.inr (Or.inl isDoing)
      · exact Or.inl rfl
    rcases commanded_state possible with rfl | rfl
    · exact .refl _ _
    · exact redacts
  | finishJob jobId succeeded =>
    simp only [outcomes] at possible
    split at possible
    · rename_i unfinished
      obtain ⟨job, member, same, -⟩ := has_iff.mp unfinished
      rcases written_cases possible with ⟨-, rfl⟩ | ⟨-, rfl⟩
      · refine .update ?_ (Or.inr (Or.inr ⟨job, member, same⟩))
        cases succeeded
        · exact .failed jobId
        · exact .succeeded jobId
      · exact .refl _ _
    · obtain ⟨-, rfl⟩ := Prod.mk.inj (List.mem_singleton.mp possible)
      exact .refl _ _
  | retryJob jobId delay =>
    simp only [outcomes] at possible
    split at possible
    · rename_i retriable
      obtain ⟨job, member, same, -⟩ := has_iff.mp retriable
      rcases written_cases possible with ⟨-, rfl⟩ | ⟨-, rfl⟩
      · exact .update (.retried delay) (Or.inr (Or.inr ⟨job, member, same⟩))
      · exact .refl _ _
    · obtain ⟨-, rfl⟩ := Prod.mk.inj (List.mem_singleton.mp possible)
      exact .refl _ _
  | getStalledJobs =>
    simp only [outcomes, stalledOutcomes, List.mem_cons, Prod.mk.injEq, List.mem_map] at possible
    rcases possible with ⟨-, rfl⟩ | ⟨jobs, -, -, rfl⟩ <;> exact .refl _ _
  | now =>
    obtain ⟨-, rfl⟩ := Prod.mk.inj (List.mem_singleton.mp possible)
    exact .refl _ _
  | deleteFailedJobs cutoff =>
    rcases written_cases possible with ⟨-, rfl⟩ | ⟨-, rfl⟩
    · refine ⟨rfl, fun jobId => ?_, fun jobId => ?_⟩
      · simp only
        split
        · rename_i isDoomed
          obtain ⟨job, taken, rfl⟩ := List.mem_map.mp isDoomed
          exact .swept (mem_jobsWhere.mp (List.mem_of_mem_take taken)).2
        · exact .unchanged
      · simp only
        split
        · rename_i isDoomed
          obtain ⟨job, taken, rfl⟩ := List.mem_map.mp isDoomed
          exact Or.inr (Or.inr ⟨job, (mem_jobsWhere.mp (List.mem_of_mem_take taken)).1, rfl⟩)
        · exact Or.inl rfl
    · exact .refl _ _

theorem JobStep.attempts_le {now : Nat} {state state' : JobState} {jobId : Nat}
    (step : JobStep now state call jobId state') : state.attempts ≤ state'.attempts := by
  cases step with
  | unchanged | started | succeeded => exact Nat.le_refl _
  | redacted =>
    unfold JobState.redact
    split <;> exact Nat.le_refl _
  | failed =>
    simp only [JobState.fail]
    split <;> omega
  | retried => exact Nat.le_succ _
  | swept =>
    unfold JobState.sweep
    split <;> exact Nat.le_refl _

theorem outbox_step {inner : LifecycleOutbox.Call} {reply : LifecycleOutbox.Reply inner}
    (possible : (reply, store') ∈ outcomes thread (.outbox inner) store) :
    (reply, store'.outbox) ∈ LifecycleOutbox.outcomes thread inner store.outbox ∧
      store'.state = store.state := by
  obtain ⟨⟨answer, after⟩, isOutcome, same⟩ := List.mem_map.mp possible
  obtain ⟨rfl, rfl⟩ := Prod.mk.inj same
  exact ⟨isOutcome, rfl⟩

end JobSteps

/-! ## What lasts -/

/-- Jobs stay, and are tried more often as time goes by. -/
structure Grows (store store' : Store) : Prop where
  jobs : store.outbox.jobs ⊆ store'.outbox.jobs
  attempts : ∀ jobId, (store.state jobId).attempts ≤ (store'.state jobId).attempts
  now : store.outbox.now ≤ store'.outbox.now

/-- The worker has read the job as it was at the time. -/
def Known (store : Store) (job : FetchedJob) : Prop :=
  ∃ found ∈ store.outbox.jobs, found.id = job.id ∧
    job.attempts ≤ (store.state job.id).attempts ∧
    ∀ arguments, job.arguments = some arguments → arguments = (found.event, found.outboxId)

/-- What an answer tells, and what stays true. -/
def Attests : Event → Store → Prop
  | ⟨.fetchJob, .ok (some job)⟩, store => Known store job
  | ⟨.getStalledJobs, .ok jobs⟩, store => ∀ job ∈ jobs, Known store job
  | ⟨.now, now⟩, store => now ≤ store.outbox.now
  | _, _ => True

section Lasting

variable {settings : Settings} {store store' : Store} {thread : Nat} {call : Call}
variable {reply : Reply call}

theorem Known.mono {job : FetchedJob} (known : Known store job) (grows : Grows store store') :
    Known store' job := by
  obtain ⟨found, member, same, attempts, arguments⟩ := known
  exact ⟨found, grows.jobs member, same, attempts.trans (grows.attempts _), arguments⟩

theorem known_fetched {job : Job} (member : job ∈ store.outbox.jobs) :
    Known store (store.fetched job) := by
  refine ⟨job, member, rfl, Nat.le_refl _, fun arguments present => ?_⟩
  simp only [Store.fetched] at present
  split at present
  · cases present
  · exact (Option.some.inj present).symm

theorem outbox_jobs {inner : LifecycleOutbox.Call} {reply : LifecycleOutbox.Reply inner}
    {before after : LifecycleOutbox.Store}
    (possible : (reply, after) ∈ LifecycleOutbox.outcomes thread inner before) :
    before.jobs ⊆ after.jobs ∧ after.now = before.now := by
  cases LifecycleOutbox.store_step possible with
  | deferred => exact ⟨List.subset_append_left _ _, rfl⟩
  | unchanged | inserted | claimed | committed | closed | delivered => exact ⟨fun _ h => h, rfl⟩

theorem outcomes_grow (possible : (reply, store') ∈ outcomes thread call store) :
    Grows store store' := by
  cases other : outboxEvent ⟨call, reply⟩ with
  | none =>
    have step := queue_step possible other
    refine ⟨?_, fun jobId => (step.states jobId).attempts_le, ?_⟩
    · rw [step.outbox]
      exact fun _ member => member
    · rw [step.outbox]
  | some inner =>
    cases call with
    | outbox call =>
      obtain ⟨isOutcome, same⟩ := outbox_step possible
      obtain ⟨jobs, now⟩ := outbox_jobs isOutcome
      exact ⟨jobs, fun jobId => by rw [same], by rw [now]⟩
    | _ => cases other

theorem attests_when_given (possible : (reply, store') ∈ outcomes thread call store) :
    Attests ⟨call, reply⟩ store' := by
  cases call with
  | fetchJob =>
    simp only [outcomes, fetchOutcomes, List.mem_cons, Prod.mk.injEq, List.mem_flatMap,
      List.not_mem_nil, or_false] at possible
    rcases possible with ⟨rfl, -⟩ | ⟨rfl, -⟩ | ⟨job, runnable, ⟨rfl, rfl⟩ | ⟨rfl, -⟩⟩
    · trivial
    · trivial
    · refine (known_fetched (mem_jobsWhere.mp runnable).1).mono ⟨fun _ member => member, ?_, ?_⟩
      · intro jobId
        rcases state_update job.id jobId JobState.start with ⟨same, -⟩ | same
        · rw [same]
          exact Nat.le_refl _
        · rw [same]
      · exact Nat.le_refl _
    · trivial
  | getStalledJobs =>
    simp only [outcomes, stalledOutcomes, List.mem_cons, Prod.mk.injEq, List.mem_map,
      List.mem_sublists] at possible
    rcases possible with ⟨rfl, -⟩ | ⟨jobs, sublist, rfl, rfl⟩
    · trivial
    · intro job member
      obtain ⟨found, isFound, rfl⟩ := List.mem_map.mp member
      exact known_fetched (mem_jobsWhere.mp (sublist.subset isFound)).1
  | now =>
    obtain ⟨rfl, rfl⟩ := Prod.mk.inj (List.mem_singleton.mp possible)
    exact Nat.le_refl _
  | outbox | redactArguments | finishJob | retryJob | deleteFailedJobs => trivial

theorem Attests.mono {event : Event} (attested : Attests event store) (grows : Grows store store') :
    Attests event store' := by
  unfold Attests at attested ⊢
  split at attested
  · exact attested.mono grows
  · exact fun job member => (attested job member).mono grows
  · exact le_trans attested grows.now
  · trivial

theorem attests_lasting {start : Store} {config : Server}
    (run : Reaches (system settings) anyCall (Config.start start) config) :
    ∀ entry ∈ config.history, Attests entry.2 config.state := by
  refine run.lasting Attests (fun thread call state outcome possible => attests_when_given possible) ?_
  intro before after step event attested
  cases step with
  | begin request => exact attested
  | disturb seconds =>
    exact attested.mono ⟨fun _ member => member, fun _ => Nat.le_refl _, Nat.le_add_right _ _⟩
  | reply thread request call next outcome running possible permitted =>
    exact attested.mono (outcomes_grow possible)

end Lasting

/-! ## Rows and their events -/

/-- The event was committed with the row. -/
def Recorded (history : List (Nat × Event)) (rowId : Nat) (event : AccountLifecycleEvent) : Prop :=
  ∃ thread, ∃ reply : Write Nat,
    (thread, ⟨.outbox (.insertOutbox event), reply⟩) ∈ history ∧ reply.committed = some rowId

/-- The listeners have accepted the event. -/
def Accepted (history : List (Nat × Event)) (event : AccountLifecycleEvent) : Prop :=
  ∃ thread, (thread, ⟨.outbox (.notifyListeners event), .ok ()⟩) ∈ history

def Delivered (store : LifecycleOutbox.Store) (rowId : Nat) : Prop :=
  rowId < store.nextRowId ∧ ∀ row ∈ store.rows, row.id = rowId → row.deliveredAt.isSome = true

/-- What a call of the outbox rests on. -/
def Founded (history : List (Nat × Event)) : LifecycleOutbox.Call → Prop
  | .defer event outboxId => ∃ rowId, outboxId = some rowId ∧ Recorded history rowId event
  | .notifyListeners event => ∃ rowId, Recorded history rowId event
  | .markDelivered rowId => ∃ event, Recorded history rowId event ∧ Accepted history event
  | _ => True

structure RowsKept (store : LifecycleOutbox.Store) (history : List (Nat × Event)) : Prop where
  recorded : ∀ row ∈ store.rows, ∃ event, Recorded history row.id event ∧
    (row.deliveredAt = none → row.event = event) ∧
      (row.deliveredAt.isSome = true → Accepted history event)
  present : ∀ rowId event, Recorded history rowId event → ∃ row ∈ store.rows, row.id = rowId
  once : ∀ rowId event other, Recorded history rowId event → Recorded history rowId other →
    event = other
  pending : ∀ thread rows, (thread, ⟨.outbox .selectPending, .ok rows⟩) ∈ history →
    ∀ row ∈ rows, Recorded history row.id row.event
  told : ∀ thread event reply, (thread, ⟨.outbox (.notifyListeners event), reply⟩) ∈ history →
    ∃ rowId, Recorded history rowId event
  marked : ∀ thread rowId, (thread, ⟨.outbox (.markDelivered rowId), .done ()⟩) ∈ history →
    Delivered store rowId

section Rows

variable {store store' : LifecycleOutbox.Store} {history : List (Nat × Event)} {thread : Nat}
variable {inner : LifecycleOutbox.Call} {reply : LifecycleOutbox.Reply inner} {row : OutboxRow}

theorem Recorded.cons {rowId : Nat} {event : AccountLifecycleEvent}
    (recorded : Recorded history rowId event) (entry : Nat × Event) :
    Recorded (entry :: history) rowId event :=
  recorded.imp fun _ found => found.imp fun _ both => ⟨List.mem_cons_of_mem _ both.1, both.2⟩

theorem Accepted.cons {event : AccountLifecycleEvent} (accepted : Accepted history event)
    (entry : Nat × Event) : Accepted (entry :: history) event :=
  accepted.imp fun _ member => List.mem_cons_of_mem _ member

/-- An outbox call of the longer history is the newest one or an older one. -/
theorem mem_cons_outbox {actor : Nat} {call : LifecycleOutbox.Call}
    {answer : LifecycleOutbox.Reply call}
    (member : ((actor, ⟨.outbox call, answer⟩) : Nat × Event) ∈
      (thread, ⟨.outbox inner, reply⟩) :: history) :
    (⟨inner, reply⟩ : LifecycleOutbox.Event) = ⟨call, answer⟩ ∨
      (actor, ⟨.outbox call, answer⟩) ∈ history := by
  rcases List.mem_cons.mp member with isNew | old
  · obtain ⟨isCall, isReply⟩ := Sigma.mk.inj (Prod.mk.inj isNew).2
    obtain rfl := Call.outbox.inj isCall
    obtain rfl := eq_of_heq isReply
    exact Or.inl rfl
  · exact Or.inr old

theorem deliver_deliveredAt (now : Nat) (row : OutboxRow) :
    (row.deliver now).deliveredAt.isSome = true := by
  unfold LifecycleOutbox.OutboxRow.deliver
  split
  · assumption
  · rfl

/-- Where the rows come from that are there after an answer. -/
theorem row_cases (possible : (reply, store') ∈ LifecycleOutbox.outcomes thread inner store)
    (isRow : row ∈ store'.rows) :
    (∃ event, ∃ answer : Write Nat,
      (⟨inner, reply⟩ : LifecycleOutbox.Event) = ⟨.insertOutbox event, answer⟩ ∧
        answer.committed = some store.nextRowId ∧ row = ⟨store.nextRowId, event, none, none⟩) ∨
      ∃ old ∈ store.rows, old.id = row.id ∧
        ((row.event = old.event ∧ row.deliveredAt = old.deliveredAt) ∨
          (inner = .markDelivered row.id ∧ row.deliveredAt.isSome = true)) := by
  cases inner with
  | insertOutbox event =>
    rcases written_cases possible with ⟨committed, rfl⟩ | ⟨-, rfl⟩
    · rcases List.mem_append.mp isRow with old | isNew
      · exact Or.inr ⟨row, old, rfl, Or.inl ⟨rfl, rfl⟩⟩
      · exact Or.inl ⟨event, reply, rfl, committed, List.mem_singleton.mp isNew⟩
    · exact Or.inr ⟨row, isRow, rfl, Or.inl ⟨rfl, rfl⟩⟩
  | markDelivered rowId =>
    right
    cases LifecycleOutbox.store_step possible with
    | unchanged => exact ⟨row, isRow, rfl, Or.inl ⟨rfl, rfl⟩⟩
    | delivered =>
      obtain ⟨old, isOld, ⟨-, rfl⟩ | ⟨same, rfl⟩⟩ := LifecycleOutbox.mem_updateRow isRow
      · exact ⟨row, isOld, rfl, Or.inl ⟨rfl, rfl⟩⟩
      · refine ⟨old, isOld, (LifecycleOutbox.deliver_id _ _).symm, Or.inr ⟨?_, ?_⟩⟩
        · rw [LifecycleOutbox.deliver_id, same]
        · exact deliver_deliveredAt _ _
  | commitQueued rowId =>
    right
    cases LifecycleOutbox.store_step possible with
    | unchanged => exact ⟨row, isRow, rfl, Or.inl ⟨rfl, rfl⟩⟩
    | committed =>
      obtain ⟨old, isOld, ⟨-, rfl⟩ | ⟨-, rfl⟩⟩ := LifecycleOutbox.mem_updateRow isRow
      · exact ⟨row, isOld, rfl, Or.inl ⟨rfl, rfl⟩⟩
      · exact ⟨old, isOld, rfl, Or.inl ⟨rfl, rfl⟩⟩
  | selectPending | claim | defer | closeSession | notifyListeners =>
    right
    cases LifecycleOutbox.store_step possible <;> exact ⟨row, isRow, rfl, Or.inl ⟨rfl, rfl⟩⟩

/-- Rows stay, and new ones take the next id. -/
theorem rows_stay (possible : (reply, store') ∈ LifecycleOutbox.outcomes thread inner store) :
    (∀ rowId ∈ store.rows.map OutboxRow.id, rowId ∈ store'.rows.map OutboxRow.id) ∧
      store.nextRowId ≤ store'.nextRowId := by
  cases LifecycleOutbox.store_step possible with
  | inserted =>
    refine ⟨fun rowId member => ?_, Nat.le_succ _⟩
    rw [LifecycleOutbox.Store.addRow, List.map_append]
    exact List.mem_append_left _ member
  | committed outboxId =>
    have keeps : ∀ row : OutboxRow, (row.queue store.now).id = row.id := fun _ => rfl
    refine ⟨fun rowId member => ?_, Nat.le_refl _⟩
    change rowId ∈ (store.updateRow outboxId (·.queue store.now)).rows.map OutboxRow.id
    rw [LifecycleOutbox.updateRow_ids keeps]
    exact member
  | delivered =>
    refine ⟨fun rowId member => ?_, Nat.le_refl _⟩
    rw [LifecycleOutbox.updateRow_ids (LifecycleOutbox.deliver_id _)]
    exact member
  | unchanged | claimed | deferred | closed => exact ⟨fun _ member => member, Nat.le_refl _⟩

theorem Delivered.step {rowId : Nat} (delivered : Delivered store rowId)
    (possible : (reply, store') ∈ LifecycleOutbox.outcomes thread inner store) :
    Delivered store' rowId := by
  refine ⟨delivered.1.trans_le (rows_stay possible).2, fun row isRow isId => ?_⟩
  rcases row_cases possible isRow with ⟨event, answer, -, -, rfl⟩ | ⟨old, isOld, same, kept⟩
  · exact absurd isId (Nat.ne_of_gt delivered.1)
  · rcases kept with ⟨-, sameTime⟩ | ⟨-, isDelivered⟩
    · rw [sameTime]
      exact delivered.2 old isOld (same.trans isId)
    · exact isDelivered

/-- A row has been recorded when its insertion was committed, as the row with the next id. -/
theorem recorded_cases {rowId : Nat} {event : AccountLifecycleEvent}
    (possible : (reply, store') ∈ LifecycleOutbox.outcomes thread inner store)
    (recorded : Recorded ((thread, ⟨.outbox inner, reply⟩) :: history) rowId event) :
    Recorded history rowId event ∨
      (inner = .insertOutbox event ∧ rowId = store.nextRowId ∧ store' = store.addRow event) := by
  obtain ⟨actor, answer, member, committed⟩ := recorded
  rcases mem_cons_outbox member with isNew | old
  · cases isNew
    rcases written_cases possible with ⟨isCommitted, rfl⟩ | ⟨failed, -⟩
    · rw [isCommitted] at committed
      exact Or.inr ⟨rfl, (Option.some.inj committed).symm, rfl⟩
    · rw [failed] at committed
      cases committed
  · exact Or.inl ⟨actor, answer, old, committed⟩

theorem RowsKept.step (kept : RowsKept store history)
    (wellFormed : LifecycleOutbox.WellFormed store)
    (possible : (reply, store') ∈ LifecycleOutbox.outcomes thread inner store)
    (founded : Founded history inner) :
    RowsKept store' ((thread, ⟨.outbox inner, reply⟩) :: history) where
  recorded := by
    intro row isRow
    rcases row_cases possible isRow with ⟨event, answer, isInsert, committed, rfl⟩ | ⟨old, isOld, same, change⟩
    · obtain ⟨rfl, isReply⟩ := Sigma.mk.inj isInsert
      obtain rfl := eq_of_heq isReply
      exact ⟨event, ⟨thread, reply, List.mem_cons_self, committed⟩, fun _ => rfl,
        fun isDelivered => Bool.noConfusion isDelivered⟩
    · obtain ⟨event, recorded, isEvent, accepted⟩ := kept.recorded old isOld
      rw [same] at recorded
      refine ⟨event, recorded.cons _, ?_, ?_⟩
      · intro undelivered
        rcases change with ⟨sameEvent, sameTime⟩ | ⟨-, isDelivered⟩
        · rw [sameEvent]
          exact isEvent (sameTime.symm.trans undelivered)
        · rw [undelivered] at isDelivered
          cases isDelivered
      · intro isDelivered
        rcases change with ⟨-, sameTime⟩ | ⟨rfl, -⟩
        · rw [sameTime] at isDelivered
          exact (accepted isDelivered).cons _
        · obtain ⟨told, isRecorded, isAccepted⟩ := founded
          rw [kept.once _ _ _ recorded isRecorded]
          exact isAccepted.cons _
  present := by
    intro rowId event recorded
    rcases recorded_cases possible recorded with old | ⟨-, rfl, rfl⟩
    · obtain ⟨row, isRow, isId⟩ := kept.present rowId event old
      have stays := (rows_stay possible).1 _ (List.mem_map_of_mem isRow)
      obtain ⟨row', isRow', same⟩ := List.mem_map.mp stays
      exact ⟨row', isRow', same.trans isId⟩
    · exact ⟨_, List.mem_append_right _ (List.mem_singleton_self _), rfl⟩
  once := by
    intro rowId event other recorded recorded'
    -- an id that was recorded before is not the next one
    have fresh : ∀ event, ¬ Recorded history store.nextRowId event := by
      intro event isRecorded
      obtain ⟨row, isRow, isId⟩ := kept.present _ event isRecorded
      exact absurd isId (Nat.ne_of_lt (wellFormed.rows row isRow))
    rcases recorded_cases possible recorded with old | ⟨rfl, rfl, -⟩
    · rcases recorded_cases possible recorded' with old' | ⟨-, rfl, -⟩
      · exact kept.once rowId event other old old'
      · exact absurd old (fresh event)
    · rcases recorded_cases possible recorded' with old' | ⟨same, -, -⟩
      · exact absurd old' (fresh other)
      · exact LifecycleOutbox.Call.insertOutbox.inj same
  pending := by
    intro actor rows member row isRow
    rcases mem_cons_outbox member with isNew | old
    · cases isNew
      simp only [LifecycleOutbox.outcomes, List.mem_cons, Prod.mk.injEq, Except.ok.injEq,
        reduceCtorEq, false_and, List.not_mem_nil, or_false] at possible
      obtain ⟨rfl, -⟩ := possible
      obtain ⟨inRows, isPending⟩ := List.mem_filter.mp (List.mem_of_mem_take isRow)
      obtain ⟨event, recorded, isEvent, -⟩ := kept.recorded row inRows
      have undelivered : row.deliveredAt = none := by
        simpa [LifecycleOutbox.OutboxRow.isPending] using (Bool.and_eq_true_iff.mp isPending).2
      rw [isEvent undelivered]
      exact recorded.cons _
    · exact (kept.pending actor rows old row isRow).cons _
  told := by
    intro actor event answer member
    rcases mem_cons_outbox member with isNew | old
    · cases isNew
      exact founded.imp fun _ recorded => recorded.cons _
    · exact (kept.told actor event answer old).imp fun _ recorded => recorded.cons _
  marked := by
    intro actor rowId member
    rcases mem_cons_outbox member with isNew | old
    · cases isNew
      obtain ⟨event, recorded, -⟩ := founded
      obtain ⟨known, isKnown, isId⟩ := kept.present rowId event recorded
      simp only [LifecycleOutbox.outcomes] at possible
      split at possible
      · simp at possible
      · rcases written_cases possible with ⟨-, rfl⟩ | ⟨failed, -⟩
        · refine ⟨isId ▸ wellFormed.rows known isKnown, fun row isRow same => ?_⟩
          obtain ⟨old, -, ⟨differs, rfl⟩ | ⟨-, rfl⟩⟩ := LifecycleOutbox.mem_updateRow isRow
          · exact absurd same differs
          · exact deliver_deliveredAt _ _
        · cases failed
    · exact (kept.marked actor rowId old).step possible

end Rows

/-! ## Jobs -/

/-- A job that failed had its attempts, and was swept only after the retention period. -/
def JobState.Accounted (settings : Settings) (state : JobState) : Prop :=
  match state.status with
  | .failed _ => settings.GivesUp state.attempts
  | .swept since now => settings.GivesUp state.attempts ∧ since + settings.failedJobRetention < now
  | _ => True

/-- A job is over, or can no longer be run. -/
def JobState.Spent (state : JobState) : Prop :=
  state.status = .succeeded ∨ state.redacted = true

structure JobsKept (settings : Settings) (store : Store) (history : List (Nat × Event)) : Prop where
  ids : ∀ job ∈ store.outbox.jobs, job.id < store.outbox.nextJobId
  unique : (store.outbox.jobs.map Job.id).Nodup
  fresh : ∀ jobId, store.outbox.nextJobId ≤ jobId → store.state jobId = .deferred
  recorded : ∀ job ∈ store.outbox.jobs,
    ∃ rowId, job.outboxId = some rowId ∧ Recorded history rowId job.event
  served : ∀ job ∈ store.outbox.jobs, (store.state job.id).Spent →
    ∀ rowId, job.outboxId = some rowId → Delivered store.outbox rowId
  accounted : ∀ jobId, (store.state jobId).Accounted settings

section Jobs

variable {settings : Settings} {store store' : Store} {history : List (Nat × Event)} {thread : Nat}

theorem Settings.GivesUp.mono {attempts attempts' : Nat} (givesUp : settings.GivesUp attempts)
    (le : attempts ≤ attempts') : settings.GivesUp attempts' := by
  unfold Settings.GivesUp at *
  omega

theorem job_cases {inner : LifecycleOutbox.Call} {reply : LifecycleOutbox.Reply inner}
    {before after : LifecycleOutbox.Store}
    (possible : (reply, after) ∈ LifecycleOutbox.outcomes thread inner before) :
    (after.jobs = before.jobs ∧ after.nextJobId = before.nextJobId) ∨
      ∃ event outboxId, inner = .defer event outboxId ∧ after = before.addJob event outboxId := by
  cases LifecycleOutbox.store_step possible with
  | deferred event outboxId => exact Or.inr ⟨event, outboxId, rfl, rfl⟩
  | unchanged | inserted | claimed | committed | closed | delivered => exact Or.inl ⟨rfl, rfl⟩

theorem JobsKept.outbox_step {inner : LifecycleOutbox.Call} {reply : LifecycleOutbox.Reply inner}
    (kept : JobsKept settings store history)
    (possible : (reply, store'.outbox) ∈ LifecycleOutbox.outcomes thread inner store.outbox)
    (sameStates : store'.state = store.state) (founded : Founded history inner)
    (entry : Nat × Event) : JobsKept settings store' (entry :: history) := by
  have lasting : ∀ job ∈ store.outbox.jobs, (store.state job.id).Spent →
      ∀ rowId, job.outboxId = some rowId → Delivered store'.outbox rowId :=
    fun job isJob spent rowId isRow => (kept.served job isJob spent rowId isRow).step possible
  have known : ∀ job ∈ store.outbox.jobs,
      ∃ rowId, job.outboxId = some rowId ∧ Recorded (entry :: history) rowId job.event :=
    fun job isJob => (kept.recorded job isJob).imp fun _ both => ⟨both.1, both.2.cons entry⟩
  rcases job_cases possible with ⟨sameJobs, sameNext⟩ | ⟨event, outboxId, rfl, isAdded⟩
  · constructor
    · rw [sameJobs, sameNext]
      exact kept.ids
    · rw [sameJobs]
      exact kept.unique
    · rw [sameNext, sameStates]
      exact kept.fresh
    · rw [sameJobs]
      exact known
    · rw [sameJobs, sameStates]
      exact lasting
    · rw [sameStates]
      exact kept.accounted
  · have isNext := kept.fresh store.outbox.nextJobId (Nat.le_refl _)
    have jobs : store'.outbox.jobs =
        store.outbox.jobs ++ [⟨store.outbox.nextJobId, event, outboxId⟩] := by
      rw [isAdded]
      rfl
    have next : store'.outbox.nextJobId = store.outbox.nextJobId + 1 := by
      rw [isAdded]
      rfl
    constructor
    · rw [jobs, next]
      intro job member
      rcases List.mem_append.mp member with old | isNew
      · exact Nat.lt_succ_of_lt (kept.ids job old)
      · rw [List.mem_singleton.mp isNew]
        exact Nat.lt_succ_self _
    · rw [jobs, List.map_append]
      refine List.nodup_append'.mpr ⟨kept.unique, List.nodup_singleton _, ?_⟩
      intro jobId isOld isNew
      obtain ⟨job, member, rfl⟩ := List.mem_map.mp isOld
      exact absurd (List.mem_singleton.mp isNew) (Nat.ne_of_lt (kept.ids job member))
    · rw [next, sameStates]
      exact fun jobId above => kept.fresh jobId (Nat.le_of_succ_le above)
    · rw [jobs]
      intro job member
      rcases List.mem_append.mp member with old | isNew
      · exact known job old
      · rw [List.mem_singleton.mp isNew]
        obtain ⟨rowId, isRow, recorded⟩ := founded
        exact ⟨rowId, isRow, recorded.cons entry⟩
    · rw [jobs, sameStates]
      intro job member spent
      rcases List.mem_append.mp member with old | isNew
      · exact lasting job old spent
      · rw [List.mem_singleton.mp isNew, isNext] at spent
        rcases spent with succeeded | redacted
        · cases succeeded
        · cases redacted
    · rw [sameStates]
      exact kept.accounted

/-- What a call of the queue rests on. -/
def Grounded (settings : Settings) (store : Store) : Call → Prop
  | .redactArguments jobId | .finishJob jobId true => ∀ job ∈ store.outbox.jobs, job.id = jobId →
      ∀ rowId, job.outboxId = some rowId → Delivered store.outbox rowId
  | .finishJob jobId false => settings.GivesUp (store.state jobId).attempts
  | .deleteFailedJobs cutoff => cutoff + settings.failedJobRetention ≤ store.outbox.now ∨ cutoff = 0
  | _ => True

theorem JobStep.spent {now jobId : Nat} {state state' : JobState} {call : Call}
    (step : JobStep now state call jobId state') (spent : state'.Spent) :
    state.Spent ∨ call = .redactArguments jobId ∨ call = .finishJob jobId true := by
  cases step with
  | unchanged => exact Or.inl spent
  | redacted => exact Or.inr (Or.inl rfl)
  | succeeded => exact Or.inr (Or.inr rfl)
  | started | failed | retried =>
    rcases spent with succeeded | redacted
    · cases succeeded
    · exact Or.inl (Or.inr redacted)
  | swept old =>
    unfold JobState.failedBefore at old
    unfold JobState.sweep at spent
    split at spent
    · rcases spent with succeeded | redacted
      · cases succeeded
      · exact Or.inl (Or.inr redacted)
    · exact Or.inl spent

theorem JobStep.accounted {now jobId : Nat} {state state' : JobState} {call : Call}
    (step : JobStep now state call jobId state') (accounted : state.Accounted settings)
    (gaveUp : call = .finishJob jobId false → settings.GivesUp state.attempts)
    (retained : ∀ cutoff, call = .deleteFailedJobs cutoff →
      cutoff + settings.failedJobRetention ≤ now ∨ cutoff = 0) :
    state'.Accounted settings := by
  cases step with
  | unchanged => exact accounted
  | started | succeeded | retried => trivial
  | redacted =>
    unfold JobState.redact
    split
    · rename_i isDoing
      simp only [JobState.Accounted, isDoing]
    · exact accounted
  | failed =>
    change settings.GivesUp (state.fail now).attempts
    refine (gaveUp rfl).mono ?_
    simp only [JobState.fail]
    split <;> omega
  | swept old =>
    rename_i cutoff
    unfold JobState.failedBefore at old
    unfold JobState.sweep
    split at old
    · rename_i since isFailed
      simp only [JobState.Accounted, isFailed] at accounted ⊢
      have before := of_decide_eq_true old
      have late := retained cutoff rfl
      exact ⟨accounted, by omega⟩
    · cases old

theorem JobsKept.queue_step {call : Call} (kept : JobsKept settings store history)
    (step : QueueStep store call store') (grounded : Grounded settings store call)
    (entry : Nat × Event) : JobsKept settings store' (entry :: history) where
  ids := by
    rw [step.outbox]
    exact kept.ids
  unique := by
    rw [step.outbox]
    exact kept.unique
  fresh := by
    rw [step.outbox]
    intro jobId above
    have isFresh := kept.fresh jobId above
    rcases step.present jobId with same | isDoing | ⟨job, member, rfl⟩
    · rw [same, isFresh]
    · rw [isFresh] at isDoing
      cases isDoing
    · exact absurd (kept.ids job member) (Nat.not_lt.mpr above)
  recorded := by
    rw [step.outbox]
    exact fun job isJob => (kept.recorded job isJob).imp fun _ both => ⟨both.1, both.2.cons entry⟩
  served := by
    rw [step.outbox]
    intro job isJob spent
    rcases (step.states job.id).spent spent with old | rfl | rfl
    · exact kept.served job isJob old
    · exact grounded job isJob rfl
    · exact grounded job isJob rfl
  accounted := by
    intro jobId
    refine (step.states jobId).accounted (kept.accounted jobId) ?_ ?_
    · rintro rfl
      exact grounded
    · rintro cutoff rfl
      exact grounded

end Jobs

/-! ## Runs -/

structure Kept (settings : Settings) (store : Store) (history : List (Nat × Event)) : Prop where
  claims : LifecycleOutbox.Kept store.outbox (outbox.history history)
  rows : RowsKept store.outbox history
  jobs : JobsKept settings store history

section Steps

variable {settings : Settings} {store store' : Store} {history : List (Nat × Event)} {thread : Nat}

theorem mem_outbox_trace {trace : List Event} {inner : LifecycleOutbox.Call}
    {reply : LifecycleOutbox.Reply inner} :
    (⟨inner, reply⟩ : LifecycleOutbox.Event) ∈ outbox.trace trace ↔
      ⟨.outbox inner, reply⟩ ∈ trace := by
  rw [Component.trace, List.mem_filterMap]
  constructor
  · rintro ⟨⟨call, answer⟩, member, own⟩
    cases call with
    | outbox call =>
      obtain ⟨rfl, isReply⟩ := Sigma.mk.inj (Option.some.inj own)
      obtain rfl := eq_of_heq isReply
      exact member
    | _ => cases own
  · exact fun member => ⟨_, member, rfl⟩

theorem found_of_took (attested : ∀ entry ∈ history, Attests entry.2 store)
    {arguments : Arguments} {jobId : Nat}
    (took : TookJob (traceOf history thread) arguments jobId) :
    ∃ found ∈ store.outbox.jobs, found.id = jobId ∧
      arguments = (found.event, found.outboxId) := by
  obtain ⟨job, fetched, rfl, isArguments⟩ := took
  obtain ⟨found, member, same, -, agree⟩ :=
    attested _ ((mem_traceOf history thread _).mp fetched)
  exact ⟨found, member, same, agree arguments isArguments⟩

theorem founded_of_rules (kept : Kept settings store history)
    (attested : ∀ entry ∈ history, Attests entry.2 store) {inner : LifecycleOutbox.Call}
    (allowed : (rules settings).allows (traceOf history thread) (.outbox inner)) :
    Founded history inner := by
  have ruled := allowed.2
  cases inner with
  | defer event outboxId =>
    obtain ⟨rowId, isRow, inserted | ⟨rows, selected, row, member, rfl, rfl⟩⟩ := ruled
    · rw [mem_outbox_trace, mem_traceOf] at inserted
      exact ⟨rowId, isRow, thread, _, inserted, rfl⟩
    · rw [mem_outbox_trace, mem_traceOf] at selected
      exact ⟨row.id, isRow, kept.rows.pending thread rows selected row member⟩
  | notifyListeners event =>
    obtain ⟨arguments, jobId, took, rfl⟩ := ruled
    obtain ⟨found, member, -, rfl⟩ := found_of_took attested took
    exact (kept.jobs.recorded found member).imp fun _ both => both.2
  | markDelivered rowId =>
    obtain ⟨arguments, jobId, took, isRow, accepted⟩ := ruled
    obtain ⟨found, member, -, rfl⟩ := found_of_took attested took
    obtain ⟨other, isOther, recorded⟩ := kept.jobs.recorded found member
    obtain rfl := Option.some.inj (isOther.symm.trans isRow)
    rw [mem_outbox_trace, mem_traceOf] at accepted
    exact ⟨found.event, recorded, thread, accepted⟩
  | insertOutbox | selectPending | claim | commitQueued | closeSession => trivial

theorem grounded_of_rules (kept : Kept settings store history)
    (attested : ∀ entry ∈ history, Attests entry.2 store) {call : Call}
    (allowed : (rules settings).allows (traceOf history thread) call) :
    Grounded settings store call := by
  have served : ∀ jobId, (∃ arguments, TookJob (traceOf history thread) arguments jobId ∧
      Served arguments (outbox.trace (traceOf history thread))) →
        ∀ job ∈ store.outbox.jobs, job.id = jobId →
          ∀ rowId, job.outboxId = some rowId → Delivered store.outbox rowId := by
    rintro jobId ⟨arguments, took, isServed⟩ job isJob same rowId isRow
    obtain ⟨found, member, isFound, rfl⟩ := found_of_took attested took
    obtain rfl := List.inj_on_of_nodup_map kept.jobs.unique isJob member (same.trans isFound.symm)
    have marked := isServed rowId isRow
    rw [mem_outbox_trace, mem_traceOf] at marked
    exact kept.rows.marked thread rowId marked
  cases call with
  | redactArguments jobId => exact served jobId allowed
  | finishJob jobId succeeded =>
    cases succeeded with
    | true => exact served jobId allowed
    | false =>
      obtain ⟨job, seen, rfl, givesUp⟩ := allowed
      have known : Known store job := by
        rcases seen with fetched | ⟨jobs, stalled, member⟩
        · exact attested _ ((mem_traceOf history thread _).mp fetched)
        · exact attested _ ((mem_traceOf history thread _).mp stalled) job member
      obtain ⟨-, -, -, attempts, -⟩ := known
      exact givesUp.mono attempts
  | deleteFailedJobs cutoff =>
    obtain ⟨now, read, rfl⟩ := allowed
    have past : now ≤ store.outbox.now := attested _ ((mem_traceOf history thread _).mp read)
    simp only [Grounded]
    omega
  | outbox | fetchJob | retryJob | getStalledJobs | now => trivial

theorem mem_of_other {event : Event} (other : outboxEvent event = none) {actor : Nat}
    {inner : LifecycleOutbox.Call} {reply : LifecycleOutbox.Reply inner}
    (member : ((actor, ⟨.outbox inner, reply⟩) : Nat × Event) ∈ (thread, event) :: history) :
    (actor, ⟨.outbox inner, reply⟩) ∈ history := by
  rcases List.mem_cons.mp member with isNew | old
  · rw [← (Prod.mk.inj isNew).2] at other
    cases other
  · exact old

theorem recorded_other {event : Event} (other : outboxEvent event = none) {rowId : Nat}
    {recorded : AccountLifecycleEvent}
    (isRecorded : Recorded ((thread, event) :: history) rowId recorded) :
    Recorded history rowId recorded := by
  obtain ⟨actor, answer, member, committed⟩ := isRecorded
  exact ⟨actor, answer, mem_of_other other member, committed⟩

theorem RowsKept.other {store : LifecycleOutbox.Store} (kept : RowsKept store history)
    {event : Event} (other : outboxEvent event = none) :
    RowsKept store ((thread, event) :: history) where
  recorded row isRow := (kept.recorded row isRow).imp fun _ found =>
    ⟨found.1.cons _, found.2.1, fun isDelivered => (found.2.2 isDelivered).cons _⟩
  present rowId recorded isRecorded :=
    kept.present rowId recorded (recorded_other other isRecorded)
  once rowId _ _ isRecorded isRecorded' :=
    kept.once rowId _ _ (recorded_other other isRecorded) (recorded_other other isRecorded')
  pending actor rows member row isRow :=
    (kept.pending actor rows (mem_of_other other member) row isRow).cons _
  told actor told answer member :=
    (kept.told actor told answer (mem_of_other other member)).imp fun _ found => found.cons _
  marked actor rowId member := kept.marked actor rowId (mem_of_other other member)

theorem Kept.step {call : Call} {reply : Reply call} (kept : Kept settings store history)
    (attested : ∀ entry ∈ history, Attests entry.2 store)
    (allowed : (rules settings).allows (traceOf history thread) call)
    (possible : (reply, store') ∈ outcomes thread call store) :
    Kept settings store' ((thread, ⟨call, reply⟩) :: history) := by
  cases own : outboxEvent ⟨call, reply⟩ with
  | none =>
    have step := queue_step possible own
    refine ⟨?_, ?_, kept.jobs.queue_step step (grounded_of_rules kept attested allowed) _⟩
    · rw [step.outbox, Component.history_other thread own]
      exact kept.claims
    · rw [step.outbox]
      exact kept.rows.other own
  | some event =>
    cases call with
    | outbox inner =>
      have founded := founded_of_rules kept attested allowed
      obtain ⟨isOutcome, same⟩ := outbox_step possible
      refine ⟨?_, kept.rows.step kept.claims.wellFormed isOutcome founded,
        kept.jobs.outbox_step isOutcome same founded _⟩
      have inside := allowed.1
      rw [← Component.traceOf_history] at inside
      obtain rfl := Option.some.inj own
      rw [Component.history_own thread own]
      exact kept.claims.step inside isOutcome
    | _ => cases own

end Steps

theorem kept_initial (settings : Settings) (now : Nat) : Kept settings (Store.initial now) [] where
  claims := ⟨⟨by simp [Store.initial, LifecycleOutbox.emptyOutbox],
      by simp [Store.initial, LifecycleOutbox.emptyOutbox],
      by simp [Store.initial, LifecycleOutbox.emptyOutbox],
      by simp [Store.initial, LifecycleOutbox.emptyOutbox]⟩,
    by simp [Component.history, LifecycleOutbox.holding],
    by simp [Component.history, LifecycleOutbox.queuedFor],
    by simp [Store.initial, LifecycleOutbox.emptyOutbox]⟩
  rows := by
    constructor <;> simp [Store.initial, LifecycleOutbox.emptyOutbox, Recorded]
  jobs := by
    constructor <;> simp [Store.initial, LifecycleOutbox.emptyOutbox, JobState.Accounted,
      JobState.deferred]

theorem kept_of_run {settings : Settings} {now : Nat} {config : Server}
    (run : Reaches (system settings) anyCall (Config.start (Store.initial now)) config) :
    Kept settings config.state config.history := by
  refine run.keeps (Kept settings) (kept_initial settings now) ?_ ?_
  · rintro seconds store history ⟨claims, rows, jobs⟩
    obtain ⟨wellFormed, held, queuing, queued⟩ := claims
    obtain ⟨rowIds, unique, jobIds, exclusive⟩ := wellFormed
    obtain ⟨rowRecorded, present, once, pending, told, marked⟩ := rows
    obtain ⟨ids, uniqueJobs, fresh, recordedJobs, served, accounted⟩ := jobs
    exact ⟨⟨⟨rowIds, unique, jobIds, exclusive⟩, held, queuing, queued⟩,
      ⟨rowRecorded, present, once, pending, told, marked⟩,
      ⟨ids, uniqueJobs, fresh, recordedJobs, served, accounted⟩⟩
  · intro before after thread event earlier answers kept
    obtain ⟨request, next, running⟩ := answers.running
    have allowed := (earlier.disciplined system_obeys (Store.initial now)).allows running
    exact kept.step (attests_lasting earlier) allowed answers.possible

/-- The job is yet to be run, or was given up after its attempts, and it has its arguments. -/
def JobState.Open (settings : Settings) (state : JobState) : Prop :=
  ¬ state.Spent ∧ state.Accounted settings

/-- What a state of a run says of the events that were committed. -/
structure EventsAccounted (settings : Settings) (config : Server) : Prop where
  /-- a row stays, with one event -/
  present : ∀ rowId event, Recorded config.history rowId event →
    (∃ row ∈ config.state.outbox.rows, row.id = rowId) ∧
      ∀ other, Recorded config.history rowId other → other = event
  /-- a row is marked only after the listeners accepted its event -/
  delivered : ∀ row ∈ config.state.outbox.rows, row.deliveredAt.isSome = true →
    ∃ event, Recorded config.history row.id event ∧ Accepted config.history event
  /-- a row that is not marked has its event still, and waits for the reconciler or has a job that
  was not used up -/
  waiting : ∀ row ∈ config.state.outbox.rows, row.deliveredAt = none →
    Recorded config.history row.id row.event ∧
      (row ∈ config.state.outbox.pendingRows ∨
        ∃ job ∈ config.state.outbox.jobs, job.outboxId = some row.id ∧ job.event = row.event ∧
          (config.state.state job.id).Open settings)
  /-- listeners are told of nothing else -/
  told : ∀ thread event reply,
    (thread, ⟨.outbox (.notifyListeners event), reply⟩) ∈ config.history →
      ∃ rowId, Recorded config.history rowId event

/-- However the callers, the reconciler, the workers, the recovery of stalled jobs and the sweep
interleave and wherever they fail, no committed event is lost, redacted or misdelivered. -/
theorem events_accounted (settings : Settings) (now : Nat) (config : Server)
    (run : Reaches (system settings) anyCall (Config.start (Store.initial now)) config) :
    EventsAccounted settings config := by
  have kept := kept_of_run run
  refine ⟨fun rowId event recorded => ⟨kept.rows.present rowId event recorded, fun other isOther =>
    kept.rows.once rowId other event isOther recorded⟩, ?_, ?_, kept.rows.told⟩
  · intro row isRow isDelivered
    obtain ⟨event, recorded, -, accepted⟩ := kept.rows.recorded row isRow
    exact ⟨event, recorded, accepted isDelivered⟩
  · intro row isRow undelivered
    obtain ⟨event, recorded, isEvent, -⟩ := kept.rows.recorded row isRow
    have sameEvent := isEvent undelivered
    rw [← sameEvent] at recorded
    refine ⟨recorded, ?_⟩
    cases queued : row.queuedAt with
    | none =>
      left
      apply List.mem_filter.mpr
      exact ⟨isRow, by simp [LifecycleOutbox.OutboxRow.isPending, queued, undelivered]⟩
    | some time =>
      right
      obtain ⟨job, isJob, isFor⟩ := kept.claims.queued row isRow (by rw [queued]; rfl)
      obtain ⟨rowId, isRowId, jobRecorded⟩ := kept.jobs.recorded job isJob
      obtain rfl := Option.some.inj (isFor.symm.trans isRowId)
      refine ⟨job, isJob, isFor, kept.rows.once row.id _ _ jobRecorded recorded, ?_,
        kept.jobs.accounted job.id⟩
      intro spent
      have marked := (kept.jobs.served job isJob spent row.id isFor).2 row isRow rfl
      rw [undelivered] at marked
      cases marked

/-- The defer of the transition fails and the reconciler queues the row; a listener refuses the
event once. -/
def deliveredLater : List (Move Request Nat) :=
  .begin (.transition LifecycleOutbox.annDeleted) :: Move.turns 0 2 ++ [.reply 0 1, .reply 0 0] ++
    .begin .dispatchPending :: Move.turns 1 6 ++
      .begin .runJob :: [.reply 2 2, .reply 2 1, .reply 2 0] ++
        .disturb 5 :: .begin .runJob :: .reply 3 2 :: Move.turns 3 4

def exampleSettings : Settings :=
  ⟨3, 30 * 86400⟩

theorem events_accounted_ann : EventsAccounted exampleSettings
    ((Config.start (Store.initial 0)).follow (system exampleSettings) deliveredLater) :=
  events_accounted exampleSettings 0 _ (Config.follow_reaches (system exampleSettings) _ _)

example : ((Config.start (Store.initial 0)).follow (system exampleSettings)
    deliveredLater).state.outbox.rows.map (fun row => (row.deliveredAt, row.event.userEmail)) =
      [(some 5, "")] := by
  decide +kernel

end MysticAuth.LifecycleDelivery
