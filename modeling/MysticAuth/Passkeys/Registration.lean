import MysticAuth.Passkeys.SingleUse

/-!
# Registrations of passkeys

An account is locked before its passkeys are counted, so that no two
registrations count the same ones.  What the lock returns is the object that
the session has loaded before, so that an account that has lost its
eligibility in between still gets its passkey.
-/

set_option autoImplicit false

namespace MysticAuth.Passkeys

open Interleaving

/-- An account that the request has loaded while it was eligible is so when the request locks it. -/
def Unchanged (config : Server) (thread : Nat) (event : Event) : Prop :=
  match event with
  | ⟨.lockUser id, _⟩ => ∀ email loaded,
      (thread, ⟨.getByEmail email, .ok (some loaded)⟩) ∈ config.history → loaded.isEligible = true →
        ∀ user, config.state.user id = some user → user.isEligible = true
  | _ => True

/-! ## How many passkeys an account has -/

section Counts

variable {store later : Store} {thread : Nat}

theorem credentialsOf_mapCredential (id userId : Nat) {change : PasskeyCredential → PasskeyCredential}
    (sameUser : ∀ row, (change row).userId = row.userId) :
    ((store.mapCredential id change).credentialsOf userId).length =
      (store.credentialsOf userId).length := by
  rw [Store.credentialsOf, Store.mapCredential, List.filter_map, List.length_map]
  congr 2
  funext row
  rw [Function.comp]
  split
  · rw [sameUser]
  · rfl

theorem credentialsOf_insertCredential (row : PasskeyCredential) (userId : Nat) :
    ((store.insertCredential row).credentialsOf userId).length =
      (store.credentialsOf userId).length + if row.userId = userId then 1 else 0 := by
  rw [Store.credentialsOf, Store.insertCredential, List.filter_append, List.length_append]
  congr 1
  by_cases isUser : row.userId = userId
  · rw [List.filter_cons_of_pos (by simpa using isUser), if_pos isUser]
    rfl
  · rw [List.filter_cons_of_neg (by simpa using isUser), if_neg isUser]
    rfl

/-- Only an insertion gives an account one more passkey. -/
theorem credentialsOf_commit (event : Event) (userId : Nat) :
    ((store.commit event).credentialsOf userId).length ≤ (store.credentialsOf userId).length ∨
      ∃ row reply, event = ⟨.insertCredential row, reply⟩ ∧ row.userId = userId ∧
        ((store.commit event).credentialsOf userId).length =
          (store.credentialsOf userId).length + 1 := by
  have written := commit_written store event
  generalize store.commit event = later at written ⊢
  cases written with
  | credential row reply =>
    rw [credentialsOf_insertCredential]
    by_cases isUser : row.userId = userId
    · exact Or.inr ⟨row, reply, rfl, isUser, by rw [if_pos isUser]⟩
    · exact Or.inl (by rw [if_neg isUser]; exact Nat.le_refl _)
  | counted id signCount time =>
    exact Or.inl (Nat.le_of_eq (credentialsOf_mapCredential id userId fun _ => rfl))
  | nothing | challenge row | consumed challenge time => exact Or.inl (Nat.le_refl _)

theorem credentialsOf_disturb (disturbance : Disturbance) (store : Store) (userId : Nat) :
    ((disturb disturbance store).credentialsOf userId).length ≤
      (store.credentialsOf userId).length := by
  cases disturbance with
  | renameCredential id name =>
    simp only [disturb]
    split
    · exact Nat.le_of_eq (credentialsOf_mapCredential id userId fun _ => rfl)
    · exact Nat.le_refl _
  | removeCredential id =>
    simp only [disturb]
    split
    · exact (List.filter_sublist.filter _).length_le
    · exact Nat.le_refl _
  | elapse _ => exact Nat.le_refl _
  | putUser _ | deleteUser _ | removeChallenge _ =>
    simp only [disturb]
    split <;> exact Nat.le_refl _

theorem counted_of_possible {site : Site} {userId count : Nat}
    (possible : (Except.ok count, later) ∈ outcomes site thread (.countCredentials userId) store) :
    count = (store.credentialsOf userId).length ∧ later = store := by
  simp only [outcomes, queried, List.mem_cons, Prod.mk.injEq, List.not_mem_nil, or_false,
    Except.ok.injEq, reduceCtorEq, false_and] at possible
  exact possible

end Counts

/-! ## A count holds while the account is locked -/

def Bounded (store : Store) : Prop :=
  ∀ userId, (store.credentialsOf userId).length ≤ maxPasskeysPerUser

/-- An account that is locked has no more passkeys than have been counted. -/
def Counted (store : Store) (history : List (Nat × Event)) : Prop :=
  ∀ thread userId count earlier fresh,
    traceOf history thread = ⟨.countCredentials userId, .ok count⟩ :: earlier →
      Entry.user fresh ∈ held earlier → fresh.id = userId →
        (store.credentialsOf userId).length ≤ count

/-- What is locked belongs to the account as it was loaded. -/
def Eligible (history : List (Nat × Event)) : Prop :=
  ∀ thread email loaded fresh, ⟨.getByEmail email, .ok (some loaded)⟩ ∈ traceOf history thread →
    loaded.isEligible = true → Entry.user fresh ∈ held (traceOf history thread) →
      fresh.isEligible = true

section Steps

variable {site : Site} {store later : Store} {history : List (Nat × Event)} {thread : Nat}
variable {call : Call} {reply : Reply call}

theorem credentialsOf_later (possible : (reply, later) ∈ outcomes site thread call store)
    (userId : Nat) : later.credentialsOf userId = (store.commit ⟨call, reply⟩).credentialsOf userId := by
  rw [(outcomes_effect site possible).tables]
  rfl

/-- An insertion is made by the thread that has locked the account. -/
theorem locked_of_insertable (locked : Locked store history) {row : PasskeyCredential}
    (insertable : Insertable (traceOf history thread) row) :
    store.locks (.user row.userId) = some thread := by
  obtain ⟨count, earlier, fresh, email, user, isTrace, -, isHeld, isId, -⟩ := insertable
  have isHeldNow : Entry.user fresh ∈ held (traceOf history thread) := isTrace ▸ isHeld
  rw [← isId]
  exact (locked thread _ isHeldNow).1

theorem Counted.answered (counted : Counted store history) (locked : Locked store history)
    (possible : (reply, later) ∈ outcomes site thread call store)
    (isAllowed : allowed site (traceOf history thread) call) :
    Counted later ((thread, ⟨call, reply⟩) :: history) := by
  intro other userId count earlier fresh isTrace isHeld isId
  by_cases same : thread = other
  · subst same
    rw [traceOf_cons_self] at isTrace
    obtain ⟨isEvent, -⟩ := List.cons.inj isTrace
    cases isEvent
    obtain ⟨isCount, rfl⟩ := counted_of_possible possible
    exact Nat.le_of_eq isCount.symm
  · rw [traceOf_cons_ne _ same] at isTrace
    have before := counted other userId count earlier fresh isTrace isHeld isId
    rw [credentialsOf_later possible]
    rcases credentialsOf_commit ⟨call, reply⟩ userId with fewer | ⟨row, written, isEvent, isUser, -⟩
    · exact Nat.le_trans fewer before
    · cases isEvent
      have holder := locked_of_insertable locked isAllowed
      have isHeldNow : Entry.user fresh ∈ held (traceOf history other) := isTrace ▸ isHeld
      have holder' : store.locks (.user fresh.id) = some other := (locked other _ isHeldNow).1
      rw [isId, ← isUser, holder] at holder'
      exact absurd (Option.some.inj holder') same

theorem Bounded.answered (bounded : Bounded store) (counted : Counted store history)
    (possible : (reply, later) ∈ outcomes site thread call store)
    (isAllowed : allowed site (traceOf history thread) call) : Bounded later := by
  intro userId
  rw [credentialsOf_later possible]
  rcases credentialsOf_commit ⟨call, reply⟩ userId with fewer | ⟨row, written, isEvent, isUser, more⟩
  · exact Nat.le_trans fewer (bounded userId)
  · cases isEvent
    obtain ⟨count, earlier, fresh, email, user, isTrace, below, isHeld, isId, -⟩ := isAllowed
    have few := counted thread row.userId count earlier fresh isTrace isHeld isId
    rw [more, ← isUser]
    omega

theorem lockUser_of_acquired {event : Event} {fresh : User}
    (isAcquired : acquired event = some (.user fresh)) :
    ∃ id, event = ⟨.lockUser id, .ok (some fresh)⟩ := by
  unfold acquired at isAcquired
  split at isAcquired
  · rename_i id row
    obtain ⟨user, rfl, isUser⟩ := Option.map_eq_some_iff.mp isAcquired
    cases isUser
    exact ⟨id, rfl⟩
  · obtain ⟨row, -, isUser⟩ := Option.map_eq_some_iff.mp isAcquired
    cases isUser
  · obtain ⟨row, -, isUser⟩ := Option.map_eq_some_iff.mp isAcquired
    cases isUser
  · cases isAcquired

/-- What a lock has found is eligible if what was loaded before it was. -/
theorem Eligible.answered {config : Server} (eligible : Eligible config.history)
    (possible : (reply, later) ∈ outcomes site thread call config.state)
    (isAllowed : allowed site (traceOf config.history thread) call)
    (unchanged : Unchanged config thread ⟨call, reply⟩) :
    Eligible ((thread, ⟨call, reply⟩) :: config.history) := by
  intro other email loaded fresh isLoaded isEligible isHeld
  by_cases same : thread = other
  · subst same
    rw [traceOf_cons_self] at isLoaded isHeld
    rcases List.mem_cons.mp isLoaded with isNow | wasLoaded
    · -- A load is the first call, so that nothing is locked before it.
      cases isNow
      rw [isAllowed] at isHeld
      cases isHeld
    · rw [held] at isHeld
      split at isHeld
      · rcases List.mem_append.mp isHeld with isNew | isOld
        · obtain ⟨id, isEvent⟩ := lockUser_of_acquired (Option.mem_toList.mp isNew)
          cases isEvent
          have found : config.state.user id = some fresh := lockedRow_found possible rfl
          exact unchanged email loaded ((mem_traceOf _ _ _).mp wasLoaded) isEligible fresh found
        · exact eligible thread email loaded fresh wasLoaded isEligible isOld
      · cases isHeld
  · rw [traceOf_cons_ne _ same] at isLoaded isHeld
    exact eligible other email loaded fresh isLoaded isEligible isHeld

end Steps

/-! ## Along a run -/

section Runs

variable {site : Site} {permits : Server → Nat → Event → Prop} {start : Store}
variable {config after : Server}

/-- No order of steps gives an account more than the maximum. -/
theorem bounded_along (bounded : Bounded start)
    (run : Reaches (server site) permits (Config.start start) config) :
    Bounded config.state ∧ Counted config.state config.history := by
  refine run.keeps (fun store history => Bounded store ∧ Counted store history) ?_ ?_ ?_
  · exact ⟨bounded, fun _ _ _ _ _ isTrace => by cases isTrace⟩
  · intro disturbance store history kept
    have fewer (userId : Nat) := credentialsOf_disturb disturbance store userId
    refine ⟨fun userId => Nat.le_trans (fewer userId) (kept.1 userId), ?_⟩
    intro thread userId count earlier fresh isTrace isHeld isId
    exact Nat.le_trans (fewer userId) (kept.2 thread userId count earlier fresh isTrace isHeld isId)
  · intro before after thread event earlier answers kept
    have isAllowed := allowed_at earlier answers
    exact ⟨kept.1.answered kept.2 answers.possible isAllowed,
      kept.2.answered (locked_along earlier) answers.possible isAllowed⟩

theorem eligible_along (run : Reaches (server site) Unchanged (Config.start start) config) :
    Eligible config.history := by
  refine run.preserves (fun config => Eligible config.history) ?_ fun before after earlier inv step => ?_
  · intro thread email loaded fresh isLoaded
    cases isLoaded
  · rcases step.cases_answers with ⟨same, -⟩ | ⟨thread, event, answers⟩
    · rw [same]
      exact inv
    · rw [answers.recorded]
      exact inv.answered answers.possible (allowed_at earlier answers) answers.permitted

/-- As long as no account loses its eligibility between the first query of a request and its lock,
a passkey is inserted for an eligible account only. -/
theorem inserted_for_eligible (bounded : Bounded start)
    (run : Reaches (server site) Unchanged (Config.start start) config) :
    Bounded config.state ∧ ∀ after thread row reply,
      Answers (server site) Unchanged config after thread ⟨.insertCredential row, reply⟩ →
        ∃ user, config.state.user row.userId = some user ∧ user.isEligible = true := by
  refine ⟨(bounded_along bounded run).1, fun after thread row reply answers => ?_⟩
  obtain ⟨count, earlier, fresh, email, loaded, isTrace, -, isHeld, isId, isLoaded, -, isEligible⟩ :
      Insertable (traceOf config.history thread) row := allowed_at run answers
  have isHeldNow : Entry.user fresh ∈ held (traceOf config.history thread) := isTrace ▸ isHeld
  have wasLoaded : ⟨.getByEmail email, .ok (some loaded)⟩ ∈ traceOf config.history thread :=
    isTrace ▸ List.mem_cons_of_mem _ isLoaded
  have found : config.state.user fresh.id = some fresh := (locked_along run thread _ isHeldNow).2
  rw [isId] at found
  exact ⟨fresh, found,
    eligible_along run thread email loaded fresh wasLoaded isEligible isHeldNow⟩

end Runs

/-! ## A registration and a deactivation -/

def laptopResponse : Response where
  challenge := some "laptop challenge"
  rawId := some "second credential"
  userHandle := none
  transports := ["usb", "internal"]
  signed := "laptop"

/-- Both halves of a registration, with other steps between the consumption and the lock, up to the
insertion. -/
def registering (between : List (Move Request Disturbance)) : List (Move Request Disturbance) :=
  .begin (.beginRegistration ann.email "laptop" "laptop challenge") :: Move.turns 0 6 ++
    .begin (.completeRegistration ann.email " laptop " laptopResponse "https://example.org") ::
      Move.turns 1 5 ++ between ++ Move.turns 1 2

/-- The account that a lock finds is eligible. -/
def findsEligible (config : Server) (_ : Nat) (event : Event) : Bool :=
  match event with
  | ⟨.lockUser id, _⟩ => (config.state.user id).all (·.isEligible)
  | _ => true

theorem unchanged_of_check (config : Server) (thread : Nat) (event : Event)
    (check : findsEligible config thread event = true) : Unchanged config thread event := by
  unfold findsEligible at check
  unfold Unchanged
  split at check
  · intro email loaded isLoaded isEligible user found
    rw [found, Option.all_some] at check
    exact check
  · trivial

def annRegistering : Server :=
  (Config.start plainStore).follow (server plainSite) (registering [])

def laptopCredential : PasskeyCredential :=
  newCredential ann (String.ofList (Python.strip " laptop ".toList)) laptopResponse
    ⟨"second credential", "key", 0⟩

theorem inserted_for_eligible_registering :
    Bounded annRegistering.state ∧
      ∃ user, annRegistering.state.user 1 = some user ∧ user.isEligible = true := by
  have run : Reaches (server plainSite) Unchanged (Config.start plainStore) annRegistering :=
    Config.follow_permitted (server plainSite) findsEligible unchanged_of_check _ _
      (by decide +kernel)
  have bounded : Bounded plainStore := fun userId => Nat.le_trans (List.length_filter_le _ _) (by decide)
  have answers : Answers (server plainSite) Unchanged annRegistering
      (annRegistering.follow (server plainSite) [.reply 1 0]) 1
      ⟨.insertCredential laptopCredential, .done ()⟩ :=
    Config.follow_answers (server plainSite) annRegistering 1 0 _ trivial rfl
  obtain ⟨kept, eligible⟩ := inserted_for_eligible bounded run
  exact ⟨kept, eligible _ 1 laptopCredential _ answers⟩

/-- The account is deactivated after the request has loaded it, and before the request locks it. -/
def annDeactivated : Server :=
  (Config.start plainStore).follow (server plainSite)
    (registering [.disturb (.putUser { ann with isActive := false })])

/-- The credential is inserted although the account is not active. -/
theorem inserted_after_deactivation :
    Reaches (server plainSite) anyCall (Config.start plainStore) annDeactivated ∧
      Answers (server plainSite) anyCall annDeactivated
        (annDeactivated.follow (server plainSite) [.reply 1 0]) 1
        ⟨.insertCredential laptopCredential, .done ()⟩ ∧
      annDeactivated.state.user laptopCredential.userId = some { ann with isActive := false } :=
  ⟨Config.follow_reaches (server plainSite) _ _,
    Config.follow_answers (server plainSite) annDeactivated 1 0 _ trivial rfl,
    by decide +kernel⟩

end MysticAuth.Passkeys
