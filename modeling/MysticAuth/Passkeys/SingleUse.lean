import MysticAuth.Passkeys.LockedRows

/-!
# A challenge serves one ceremony

A challenge that is stored is pending until one transaction consumes it.  The
count of a credential only grows, because it is written under the lock under
which it has been read.
-/

set_option autoImplicit false

namespace MysticAuth.Passkeys

open Interleaving

/-! ## Uses of a challenge -/

/-- What a challenge is stored for. -/
structure Binding where
  challenge : String
  purpose : Purpose
  userId : Option Nat
  deriving DecidableEq

def PasskeyChallenge.binding (row : PasskeyChallenge) : Binding :=
  ⟨row.challenge, row.purpose, row.userId⟩

def isStoring (binding : Binding) (event : Event) : Bool :=
  match event with
  | ⟨.insertChallenge row, reply⟩ => reply.committed.isSome && row.binding == binding
  | _ => false

/-- How often the challenge has been stored for the purpose and the user. -/
def storings (binding : Binding) (history : List (Nat × Event)) : Nat :=
  history.countP fun entry => isStoring binding entry.2

def Succeeded (config : Server) (thread : Nat) (request : Request) : Prop :=
  ∃ program answer, config.threads[thread]? = some ⟨request, program⟩ ∧
    Thread.result ⟨request, program⟩ = some (.ok answer) ∧ answer.isSuccess = true

/-- The ceremony of the thread has succeeded with the challenge, for the purpose and the user. -/
def Used (config : Server) (thread : Nat) (binding : Binding) : Prop :=
  ∃ request, Succeeded config thread request ∧ request.challenge = some binding.challenge ∧
    request.Binds (config.trace thread) binding.purpose binding.userId

structure UsedOnce (config : Server) : Prop where
  accounted : ∀ thread request, Succeeded config thread request → ∃ binding, Used config thread binding
  once : ∀ binding, ∀ threads : List Nat, threads.Nodup →
    (∀ thread ∈ threads, Used config thread binding) →
      threads.length ≤ storings binding config.history

/-- A count that is written, and those that the library has accepted are, is never lost. -/
structure CountsKept (site : Site) (config : Server) : Prop where
  accepted : ∀ thread request challenge, Succeeded config thread request →
    request.challenge = some challenge → request.Counted site (config.trace thread) challenge
  written : ∀ thread id signCount time reply,
    (thread, ⟨.commitSignCount id signCount time, reply⟩) ∈ config.history →
      reply.committed.isSome = true → ∀ row ∈ config.state.credentials, row.id = id →
        signCount ≤ row.signCount
  grows : ∀ later, Reaches (server site) anyCall config later →
    ∀ row ∈ config.state.credentials, ∀ row' ∈ later.state.credentials, row'.id = row.id →
      row.signCount ≤ row'.signCount

/-! ## Pending challenges -/

/-- The challenge is stored for the purpose and the user, and nobody has consumed it. -/
def Store.isPending (store : Store) (binding : Binding) : Bool :=
  (store.challenges binding.challenge).any fun row => row.consumedAt.isNone && row.binding == binding

section Pending

variable {store after : Store} {thread : Nat} {event : Event} {binding : Binding}

theorem isPending_iff : store.isPending binding = true ↔
    ∃ row, store.challenges binding.challenge = some row ∧ row.consumedAt = none ∧
      row.binding = binding := by
  simp only [Store.isPending, Option.any_eq_true, Bool.and_eq_true, Option.isNone_iff_eq_none,
    beq_iff_eq]

theorem isPending_of_has {row : PasskeyChallenge} (has : store.Has (.challenge row))
    (isBinding : row.binding = binding) : store.isPending binding = true := by
  subst isBinding
  exact isPending_iff.mpr ⟨row, has.1, has.2, rfl⟩

theorem pending_put {row : PasskeyChallenge}
    (pending : (store.putChallenge row).isPending binding = true) :
    row.binding = binding ∨ store.isPending binding = true := by
  obtain ⟨found, present, unconsumed, isBinding⟩ := isPending_iff.mp pending
  by_cases same : binding.challenge = row.challenge
  · rw [same, putChallenge_self] at present
    exact Or.inl (Option.some.inj present ▸ isBinding)
  · rw [putChallenge_ne row same] at present
    exact Or.inr (isPending_iff.mpr ⟨found, present, unconsumed, isBinding⟩)

/-- A challenge that has been consumed is pending no more. -/
theorem pending_consume {challenge : String} {time : Nat}
    (pending : (store.consume challenge time).isPending binding = true) :
    binding.challenge ≠ challenge ∧ store.isPending binding = true := by
  obtain ⟨found, present, unconsumed, isBinding⟩ := isPending_iff.mp pending
  by_cases same : binding.challenge = challenge
  · rw [same, consume_self] at present
    obtain ⟨row, -, rfl⟩ := Option.map_eq_some_iff.mp present
    cases unconsumed
  · rw [consume_ne time same] at present
    exact ⟨same, isPending_iff.mpr ⟨found, present, unconsumed, isBinding⟩⟩

/-- Nothing becomes pending that is not stored. -/
theorem pending_commit (pending : (store.commit event).isPending binding = true) :
    isStoring binding event = true ∨ store.isPending binding = true := by
  have written := commit_written store event
  generalize store.commit event = later at written pending
  cases written with
  | challenge row reply isCommitted =>
    refine (pending_put pending).imp_left fun isBinding => ?_
    rw [isStoring, isCommitted, isBinding, beq_self_eq_true]
    rfl
  | consumed challenge time => exact Or.inr (pending_consume pending).2
  | nothing | credential row | counted id signCount time => exact Or.inr pending

theorem pending_disturb (disturbance : Disturbance)
    (pending : (disturb disturbance store).isPending binding = true) :
    store.isPending binding = true := by
  cases disturbance with
  | removeChallenge challenge =>
    simp only [disturb] at pending
    split at pending
    · obtain ⟨found, present, rest⟩ := isPending_iff.mp pending
      by_cases same : binding.challenge = challenge
      · rw [same] at present
        cases (Function.update_self challenge none store.challenges).symm.trans present
      · exact isPending_iff.mpr ⟨found, (Function.update_of_ne same _ _).symm.trans present, rest⟩
    · exact pending
  | elapse _ => exact pending
  | putUser _ | deleteUser _ | renameCredential _ _ | removeCredential _ =>
    simp only [disturb] at pending
    split at pending <;> exact pending

end Pending

/-! ## As many uses as storings -/

/-- The thread has consumed the challenge. -/
def Consumes (history : List (Nat × Event)) (thread : Nat) (binding : Binding) : Prop :=
  Consumed (traceOf history thread) binding.challenge binding.purpose binding.userId

/-- Those that have consumed a challenge, and it itself while it is pending, have been stored. -/
def Budgeted (binding : Binding) (store : Store) (history : List (Nat × Event)) : Prop :=
  ∀ threads : List Nat, threads.Nodup → (∀ thread ∈ threads, Consumes history thread binding) →
    threads.length + (store.isPending binding).toNat ≤ storings binding history

section Budgets

variable {store later : Store} {history : List (Nat × Event)} {thread : Nat} {binding : Binding}
variable {event : Event}

theorem storings_cons : storings binding ((thread, event) :: history) =
    storings binding history + (isStoring binding event).toNat := by
  rw [storings, List.countP_cons]
  cases isStoring binding event <;> rfl

theorem toNat_le_of_imp {first second third : Bool}
    (implies : first = true → second = true ∨ third = true) :
    first.toNat ≤ second.toNat + third.toNat := by
  cases first
  · exact Nat.zero_le _
  · rcases implies rfl with rfl | rfl
    · exact Nat.le_add_right 1 _
    · exact Nat.le_add_left 1 _

/-- A thread that has consumed the challenge has done so before, or by this call. -/
theorem Consumes.cases_cons {other : Nat}
    (consumes : Consumes ((thread, event) :: history) other binding) :
    Consumes history other binding ∨ other = thread ∧ ∃ time row,
      event = ⟨.commitConsumed binding.challenge time, .done ()⟩ ∧
        Entry.challenge row ∈ held (traceOf history thread) ∧ row.binding = binding := by
  by_cases same : thread = other
  · subst same
    obtain ⟨time, earlier, row, within, isHeld, isChallenge, isPurpose, isUser⟩ := consumes
    rw [traceOf_cons_self, List.suffix_cons_iff] at within
    rcases within with now | before
    · obtain ⟨isEvent, rfl⟩ := List.cons.inj now
      refine Or.inr ⟨rfl, time, row, isEvent.symm, isHeld, ?_⟩
      rw [PasskeyChallenge.binding, isChallenge, isPurpose, isUser]
    · exact Or.inl ⟨time, earlier, row, before, isHeld, isChallenge, isPurpose, isUser⟩
  · rw [Consumes, traceOf_cons_ne _ same] at consumes
    exact Or.inl consumes

theorem isPending_withLocks (locks : Locks RowKey) :
    { store with locks }.isPending binding = store.isPending binding :=
  rfl

theorem Budgeted.answered (budgeted : Budgeted binding store history)
    (locked : Locked store history) (effect : Effect store later thread event) :
    Budgeted binding later ((thread, event) :: history) := by
  intro threads distinct consume
  have pending : (later.isPending binding).toNat ≤
      (isStoring binding event).toNat + (store.isPending binding).toNat := by
    apply toNat_le_of_imp
    rw [effect.tables, isPending_withLocks]
    exact pending_commit
  rw [storings_cons]
  by_cases earlier : ∀ other ∈ threads, Consumes history other binding
  · have stored := budgeted threads distinct earlier
    omega
  · -- The thread itself has consumed the challenge just now.
    push Not at earlier
    obtain ⟨other, member, new⟩ := earlier
    rcases (consume other member).cases_cons with old | ⟨rfl, time, row, rfl, isHeld, isBinding⟩
    · exact absurd old new
    · have others : ∀ thread ∈ threads.erase other, Consumes history thread binding := by
        intro thread isOther
        obtain ⟨differs, among⟩ := distinct.mem_erase_iff.mp isOther
        rcases (consume thread among).cases_cons with old | ⟨same, -⟩
        · exact old
        · exact absurd same differs
      have stored := budgeted _ (distinct.erase other) others
      have wasPending : store.isPending binding = true :=
        isPending_of_has (locked other _ isHeld).2 isBinding
      have isOver : later.isPending binding = false := by
        rw [effect.tables, isPending_withLocks, Bool.eq_false_iff]
        exact fun pending => (pending_consume pending).1 rfl
      have size := List.length_erase_of_mem member
      have positive := List.length_pos_of_mem member
      rw [wasPending, Bool.toNat_true] at stored
      rw [isOver, Bool.toNat_false]
      omega

theorem Budgeted.disturbed (budgeted : Budgeted binding store history) (disturbance : Disturbance) :
    Budgeted binding (disturb disturbance store) history := by
  intro threads distinct consume
  have stored := budgeted threads distinct consume
  have pending : ((disturb disturbance store).isPending binding).toNat ≤
      (store.isPending binding).toNat + false.toNat :=
    toNat_le_of_imp fun pending => Or.inl (pending_disturb disturbance pending)
  rw [Bool.toNat_false] at pending
  omega

end Budgets

/-! ## Ids of credentials -/

/-- Every credential has an id of its own, and the next id is a new one. -/
structure Store.Keyed (store : Store) : Prop where
  distinct : (store.credentials.map (·.id)).Nodup
  bounded : ∀ row ∈ store.credentials, row.id < store.nextCredentialId

/-- Every credential that is not newer than the store was in it, with a count that is no larger. -/
structure Grows (store later : Store) : Prop where
  next : store.nextCredentialId ≤ later.nextCredentialId
  counts : ∀ row ∈ later.credentials, row.id < store.nextCredentialId →
    ∃ old ∈ store.credentials, old.id = row.id ∧ old.signCount ≤ row.signCount

section Credentials

variable {store later last : Store} {thread : Nat} {event : Event}

theorem Store.Keyed.eq_of_id (keyed : store.Keyed) {row other : PasskeyCredential}
    (member : row ∈ store.credentials) (member' : other ∈ store.credentials)
    (same : row.id = other.id) : row = other :=
  List.inj_on_of_nodup_map keyed.distinct member member' same

theorem Store.Keyed.mapCredential (keyed : store.Keyed) (id : Nat)
    {change : PasskeyCredential → PasskeyCredential} (sameId : ∀ row, (change row).id = row.id) :
    (store.mapCredential id change).Keyed := by
  have keepsId (row : PasskeyCredential) : (if row.id = id then change row else row).id = row.id := by
    split
    · exact sameId row
    · rfl
  constructor
  · have ids : (store.mapCredential id change).credentials.map (·.id) =
        store.credentials.map (·.id) := by
      rw [Store.mapCredential, List.map_map]
      exact List.map_congr_left fun row _ => keepsId row
    rw [ids]
    exact keyed.distinct
  · intro row member
    obtain ⟨old, isOld, rfl⟩ := List.mem_map.mp member
    rw [keepsId old]
    exact keyed.bounded old isOld

theorem Store.Keyed.insertCredential (keyed : store.Keyed) (row : PasskeyCredential) :
    (store.insertCredential row).Keyed := by
  constructor
  · rw [Store.insertCredential, List.map_append]
    refine List.Nodup.append keyed.distinct (List.nodup_singleton _) ?_
    intro id isOld isNew
    obtain ⟨old, member, rfl⟩ := List.mem_map.mp isOld
    have bound := keyed.bounded old member
    have isNext : old.id = store.nextCredentialId := List.mem_singleton.mp isNew
    omega
  · intro other member
    rcases List.mem_append.mp member with isOld | isNew
    · exact Nat.lt_succ_of_lt (keyed.bounded other isOld)
    · rw [List.mem_singleton.mp isNew]
      exact Nat.lt_succ_self _

theorem Grows.sameRows (rows : later.credentials = store.credentials)
    (next : later.nextCredentialId = store.nextCredentialId) : Grows store later where
  next := Nat.le_of_eq next.symm
  counts row member _ := ⟨row, rows ▸ member, rfl, Nat.le_refl _⟩

theorem Grows.refl (store : Store) : Grows store store :=
  .sameRows rfl rfl

theorem Grows.trans (first : Grows store later) (second : Grows later last) : Grows store last where
  next := Nat.le_trans first.next second.next
  counts row member old := by
    obtain ⟨middle, isMiddle, sameId, atMost⟩ :=
      second.counts row member (Nat.lt_of_lt_of_le old first.next)
    obtain ⟨row', isRow, sameId', atMost'⟩ := first.counts middle isMiddle (sameId ▸ old)
    exact ⟨row', isRow, sameId'.trans sameId, Nat.le_trans atMost' atMost⟩

theorem grows_mapCredential (id : Nat) {change : PasskeyCredential → PasskeyCredential}
    (sameId : ∀ row, (change row).id = row.id)
    (atLeast : ∀ row ∈ store.credentials, row.id = id → row.signCount ≤ (change row).signCount) :
    Grows store (store.mapCredential id change) where
  next := Nat.le_refl _
  counts row member _ := by
    obtain ⟨old, isOld, rfl⟩ := List.mem_map.mp member
    refine ⟨old, isOld, ?_⟩
    split
    · rename_i isId
      exact ⟨(sameId old).symm, atLeast old isOld isId⟩
    · exact ⟨rfl, Nat.le_refl _⟩

theorem grows_insertCredential (row : PasskeyCredential) :
    Grows store (store.insertCredential row) where
  next := Nat.le_succ _
  counts other member old := by
    rcases List.mem_append.mp member with isOld | isNew
    · exact ⟨other, isOld, rfl, Nat.le_refl _⟩
    · rw [List.mem_singleton.mp isNew] at old
      exact absurd old (Nat.lt_irrefl _)

theorem disturb_credentials (keyed : store.Keyed) (disturbance : Disturbance) :
    (disturb disturbance store).Keyed ∧ Grows store (disturb disturbance store) := by
  have unchanged : store.Keyed ∧ Grows store store := ⟨keyed, .refl store⟩
  cases disturbance with
  | renameCredential id name =>
    simp only [disturb]
    split
    · exact ⟨keyed.mapCredential id fun _ => rfl,
        grows_mapCredential id (fun _ => rfl) fun _ _ _ => Nat.le_refl _⟩
    · exact unchanged
  | removeCredential id =>
    simp only [disturb]
    split
    · have among := List.filter_sublist (l := store.credentials) (p := (·.id != id))
      exact ⟨⟨(among.map _).nodup keyed.distinct, fun row member =>
          keyed.bounded row (among.subset member)⟩,
        ⟨Nat.le_refl _, fun row member _ => ⟨row, among.subset member, rfl, Nat.le_refl _⟩⟩⟩
    · exact unchanged
  | elapse _ => exact ⟨⟨keyed.distinct, keyed.bounded⟩, .sameRows rfl rfl⟩
  | putUser _ | deleteUser _ | removeChallenge _ =>
    simp only [disturb]
    split
    · exact ⟨⟨keyed.distinct, keyed.bounded⟩, .sameRows rfl rfl⟩
    · exact unchanged

/-- A row that is counted is locked, and the library lets its count only grow. -/
theorem commit_credentials {site : Site} (counts : site.Counts) (keyed : store.Keyed)
    {trace : List Event} (isAllowed : allowed site trace event.1)
    (has : ∀ entry ∈ held trace, store.Has entry) :
    (store.commit event).Keyed ∧ Grows store (store.commit event) := by
  have written := commit_written store event
  generalize store.commit event = later at written ⊢
  cases written with
  | nothing => exact ⟨keyed, .refl store⟩
  | challenge row | consumed challenge time => exact ⟨⟨keyed.distinct, keyed.bounded⟩, .sameRows rfl rfl⟩
  | credential row => exact ⟨keyed.insertCredential row, grows_insertCredential row⟩
  | counted id signCount time =>
    obtain ⟨row, isHeld, isId, advances⟩ := isAllowed
    refine ⟨keyed.mapCredential id fun _ => rfl,
      grows_mapCredential id (fun _ => rfl) fun old isOld sameId => ?_⟩
    obtain rfl := keyed.eq_of_id isOld (has _ isHeld) (sameId.trans isId.symm)
    rcases advances counts with ⟨-, isZero⟩ | larger
    · rw [isZero]
      exact Nat.zero_le _
    · exact Nat.le_of_lt larger

end Credentials

/-! ## Along a run -/

/-- A thread loads a user by an email in its first call only. -/
def LoadsFirst (trace : List Event) : Prop :=
  ∀ email reply, ⟨.getByEmail email, reply⟩ ∈ trace → trace.getLast? = some ⟨.getByEmail email, reply⟩

/-- No challenge is stored yet. -/
structure Store.Initial (store : Store) : Prop extends store.Keyed where
  unstored : ∀ challenge, store.challenges challenge = none

section Runs

variable {site : Site} {permits : Server → Nat → Event → Prop} {start : Store}
variable {config later : Server} {thread : Nat} {request : Request}

theorem LoadsFirst.cons {trace : List Event} {event : Event} (loadsFirst : LoadsFirst trace)
    (isAllowed : allowed site trace event.1) : LoadsFirst (event :: trace) := by
  intro email reply member
  rcases List.mem_cons.mp member with rfl | old
  · obtain rfl : trace = [] := isAllowed
    rfl
  · rw [List.getLast?_cons, loadsFirst email reply old]
    rfl

theorem loadsFirst_along (run : Reaches (server site) permits (Config.start start) config)
    {program : Service Answer} (present : config.threads[thread]? = some ⟨request, program⟩) :
    LoadsFirst (config.trace thread) :=
  run.traces (server_obeys site) (fun _ => LoadsFirst) (fun _ _ _ member => by cases member)
    (fun _ _ _ isAllowed loadsFirst => loadsFirst.cons isAllowed) present

/-- The user that a request binds its challenge to is the one that it has loaded. -/
theorem Request.Binds.unique {trace : List Event} (loadsFirst : LoadsFirst trace)
    {purpose purpose' : Purpose} {userId userId' : Option Nat}
    (binds : request.Binds trace purpose userId) (binds' : request.Binds trace purpose' userId') :
    purpose = purpose' ∧ userId = userId' := by
  cases request with
  | completeRegistration email name response origin =>
    obtain ⟨isPurpose, user, loaded, isUser⟩ := binds
    obtain ⟨isPurpose', user', loaded', isUser'⟩ := binds'
    have same := (loadsFirst _ _ loaded).symm.trans (loadsFirst _ _ loaded')
    have sameUser : user = user' := by
      injection same with same
      injection same with _ same
      exact Option.some.inj (Except.ok.inj same)
    rw [isUser, isUser', sameUser]
    exact ⟨isPurpose.trans isPurpose'.symm, rfl⟩
  | _ => exact ⟨binds.1.trans binds'.1.symm, binds.2.trans binds'.2.symm⟩

theorem finished_of_succeeded (run : Reaches (server site) permits (Config.start start) config)
    (succeeded : Succeeded config thread request) :
    ∃ binding : Binding, request.challenge = some binding.challenge ∧
      request.Binds (config.trace thread) binding.purpose binding.userId ∧
        Consumes config.history thread binding ∧
          request.Counted site (config.trace thread) binding.challenge := by
  obtain ⟨program, answer, present, isResult, success⟩ := succeeded
  have finished := (run.disciplined (server_obeys site) start).returned present isResult
  obtain ⟨challenge, purpose, userId, shown⟩ := finished answer rfl success
  exact ⟨⟨challenge, purpose, userId⟩, shown⟩

theorem consumes_of_used (run : Reaches (server site) permits (Config.start start) config)
    {binding : Binding} (used : Used config thread binding) :
    Consumes config.history thread binding := by
  obtain ⟨request, succeeded, isChallenge, binds⟩ := used
  obtain ⟨other, isChallenge', binds', consumes, -⟩ := finished_of_succeeded run succeeded
  obtain ⟨program, answer, present, -⟩ := succeeded
  obtain ⟨samePurpose, sameUser⟩ := binds'.unique (loadsFirst_along run present) binds
  have sameChallenge := Option.some.inj (isChallenge'.symm.trans isChallenge)
  rw [Consumes, ← samePurpose, ← sameUser, ← sameChallenge]
  exact consumes

theorem budgeted_along (initial : start.Initial)
    (run : Reaches (server site) permits (Config.start start) config) (binding : Binding) :
    Budgeted binding config.state config.history := by
  refine run.keeps (Budgeted binding) ?_ ?_ ?_
  · intro threads _ consume
    cases threads with
    | nil =>
      rw [Store.isPending, Config.start, initial.unstored]
      exact Nat.zero_le _
    | cons thread rest =>
      obtain ⟨time, earlier, row, within, -⟩ := consume thread List.mem_cons_self
      cases List.suffix_nil.mp within
  · intro disturbance store history budgeted
    exact budgeted.disturbed disturbance
  · intro before after thread event earlier answers budgeted
    exact budgeted.answered (locked_along earlier) (outcomes_effect site answers.possible)

theorem credentials_along (counts : site.Counts)
    (earlier : Reaches (server site) permits (Config.start start) config)
    (keyed : config.state.Keyed) (run : Reaches (server site) permits config later) :
    later.state.Keyed ∧ Grows config.state later.state := by
  refine run.preserves (fun last => last.state.Keyed ∧ Grows config.state last.state)
    ⟨keyed, .refl _⟩ fun before after first inv step => ?_
  rcases step.cases_answers with ⟨-, same | ⟨event, changed⟩⟩ | ⟨thread, event, answers⟩
  · rw [same]
    exact inv
  · rw [changed]
    obtain ⟨keyed, grows⟩ := disturb_credentials inv.1 event
    exact ⟨keyed, inv.2.trans grows⟩
  · have locked := locked_along (earlier.trans first)
    obtain ⟨keyed, grows⟩ := commit_credentials counts inv.1
      (allowed_at (earlier.trans first) answers) fun entry isHeld => (locked thread entry isHeld).2
    have effect := outcomes_effect site answers.possible
    rw [effect.tables]
    exact ⟨⟨keyed.distinct, keyed.bounded⟩,
      inv.2.trans ⟨grows.next, grows.counts⟩⟩

theorem written_kept (counts : site.Counts) (initial : start.Initial)
    (run : Reaches (server site) permits (Config.start start) config) {id signCount time : Nat}
    {reply : Write Unit} (member : (thread, ⟨.commitSignCount id signCount time, reply⟩) ∈ config.history)
    (isCommitted : reply.committed.isSome = true) {row : PasskeyCredential}
    (present : row ∈ config.state.credentials) (isId : row.id = id) : signCount ≤ row.signCount := by
  obtain ⟨newer, older, split⟩ := List.append_of_mem member
  obtain ⟨before, after, first, -, answers, rest⟩ := run.answered_at split
  have keyed := (credentials_along counts .refl initial.toKeyed first).1
  have step : Reaches (server site) permits before after := .single answers.step
  obtain ⟨keyed', grows⟩ := credentials_along counts first keyed step
  obtain ⟨held, isHeld, isRow, -⟩ := allowed_at first answers
  have old : row.id < after.state.nextCredentialId := by
    have bound := keyed.bounded held ((locked_along first) thread _ isHeld).2
    have next := grows.next
    omega
  obtain ⟨written, isWritten, sameId, atMost⟩ :=
    (credentials_along counts (first.trans step) keyed' rest).2.counts row present old
  have tables := (outcomes_effect site answers.possible).tables
  rw [tables] at isWritten
  simp only [Store.commit, isCommitted, if_true, Store.mapCredential] at isWritten
  obtain ⟨changed, -, rfl⟩ := List.mem_map.mp isWritten
  have isChanged : changed.id = id := by
    by_contra differs
    rw [if_neg differs] at sameId
    exact differs (sameId.trans isId)
  rw [if_pos isChanged] at atMost
  exact atMost

end Runs

/-- Every use of a challenge has a storing of its own, and no count is lost. -/
theorem single_use (site : Site) (counts : site.Counts) (start : Store) (initial : start.Initial)
    (config : Server) (run : Reaches (server site) anyCall (Config.start start) config) :
    UsedOnce config ∧ CountsKept site config := by
  refine ⟨⟨?_, ?_⟩, ⟨?_, ?_, ?_⟩⟩
  · intro thread request succeeded
    obtain ⟨binding, isChallenge, binds, -⟩ := finished_of_succeeded run succeeded
    exact ⟨binding, request, succeeded, isChallenge, binds⟩
  · intro binding threads distinct used
    have budget := budgeted_along initial run binding threads distinct
      fun thread member => consumes_of_used run (used thread member)
    omega
  · intro thread request challenge succeeded isChallenge
    obtain ⟨binding, isBinding, -, -, counted⟩ := finished_of_succeeded run succeeded
    rw [Option.some.inj (isChallenge.symm.trans isBinding)]
    exact counted
  · intro thread id signCount time reply member isCommitted row present isId
    exact written_kept counts initial run member isCommitted present isId
  · intro later further row present row' present' sameId
    have keyed := (credentials_along counts .refl initial.toKeyed run).1
    obtain ⟨old, isOld, oldId, atMost⟩ := (credentials_along counts run keyed further).2.counts row'
      present' (sameId ▸ keyed.bounded row present)
    rwa [keyed.eq_of_id isOld present (oldId.trans sameId)] at atMost

/-! ## A response that is sent twice -/

/-- The library accepts the count 5 after a smaller one. -/
def plainSite : Site where
  normalizeEmail := id
  challengeTtlSeconds := 300
  origins := ["https://example.org"]
  verifyRegistrationResponse response _ _ := response.rawId.map fun credentialId =>
    ⟨credentialId, "key", 0⟩
  verifyAuthenticationResponse _ _ _ _ current := if current < 5 then some 5 else none

theorem plainSite_counts : plainSite.Counts := by
  intro response challenge origin publicKey current new accepts
  simp only [plainSite, Option.ite_none_right_eq_some, Option.some.injEq] at accepts
  omega

def ann : User :=
  ⟨1, "ann@example.org", true, true⟩

def annsCredential : PasskeyCredential where
  id := 0
  userId := 1
  credentialId := "credential"
  publicKey := "key"
  signCount := 4
  transports := []
  name := "phone"
  lastUsedAt := none

def plainStore : Store where
  now := 0
  users := [ann]
  challenges _ := none
  credentials := [annsCredential]
  nextCredentialId := 1
  locks _ := none

def annsResponse : Response where
  challenge := some "challenge"
  rawId := some "credential"
  userHandle := some "1"
  transports := []
  signed := "count 5"

def annsSignIn : Request :=
  .completeAuthentication annsResponse "https://example.org"

/-- A sign-in, and the same response a second time while the first is still running. -/
def replayedSignIn : Server :=
  (Config.start plainStore).follow (server plainSite)
    (.begin (.beginAuthentication "challenge") :: Move.turns 0 3 ++
      .begin annsSignIn :: .begin annsSignIn :: .reply 1 2 :: .reply 2 2 :: Move.turns 1 4 ++
      Move.turns 2 3 ++ .reply 2 1 :: Move.turns 2 1 ++
      Move.turns 1 4 ++ .reply 1 1 :: Move.turns 1 3)

theorem single_use_replayed :
    (replayedSignIn.threads[1]?).bind Thread.result = some (.ok (.signedIn 1)) ∧
      (replayedSignIn.threads[2]?).bind Thread.result =
        some (.error (.http 401 "Passkey sign-in failed")) ∧
      UsedOnce replayedSignIn ∧ CountsKept plainSite replayedSignIn := by
  have run : Reaches (server plainSite) anyCall (Config.start plainStore) replayedSignIn :=
    Config.follow_reaches (server plainSite) _ _
  have initial : plainStore.Initial :=
    { distinct := by decide, bounded := by decide, unstored := fun _ => rfl }
  exact ⟨by decide +kernel, by decide +kernel,
    single_use plainSite plainSite_counts plainStore initial replayedSignIn run⟩

end MysticAuth.Passkeys
