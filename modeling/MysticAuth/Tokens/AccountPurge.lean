import MysticAuth.Tokens.Lineage

/-!
# Purge and reactivation

A purge checks under a row lock that the account is still soft-deleted, on the
instance it had loaded before.  It spares a reactivated account exactly as far
as no reactivation falls between that load and the delete, or the bump of the
account's version stays unconfirmed.
-/

set_option autoImplicit false

namespace MysticAuth.Tokens

open Interleaving

def Request.isPurge : Request → Bool
  | .purgeUser _ => true
  | .purgeExpiredSoftDeletedAccounts => true
  | _ => false

/-- The reply hands this instance of the user back. -/
def Loads (event : Event) (user : User) : Prop :=
  (∃ email, event = ⟨.selectUserByEmail email, .ok (some user)⟩) ∨
    ∃ cutoff users, event = ⟨.selectUsersDeletedBefore cutoff, .ok users⟩ ∧ user ∈ users

theorem loaded_iff (trace : Trace) (user : User) :
    Loaded trace user ↔ ∃ event ∈ trace, Loads event user := by
  constructor
  · rintro (⟨email, member⟩ | ⟨cutoff, users, member, among⟩)
    · exact ⟨_, member, Or.inl ⟨email, rfl⟩⟩
    · exact ⟨_, member, Or.inr ⟨cutoff, users, rfl, among⟩⟩
  · rintro ⟨event, member, ⟨email, rfl⟩ | ⟨cutoff, users, rfl, among⟩⟩
    · exact Or.inl ⟨email, member⟩
    · exact Or.inr ⟨cutoff, users, member, among⟩

/-- No purge has been told that the row of the user is deleted. -/
def Undeleted (history : List (Nat × Event)) (userId : Nat) : Prop :=
  ∀ entry ∈ history, entry.2 ≠ ⟨.deleteUser userId, .ok ()⟩

/-- A reactivation of the user that may have been committed was answered after the thread had
loaded this instance.  Even one that is answered with an error may have been, unless the row is
gone. -/
def ReactivatedSince (history : List (Nat × Event)) (index : Nat) (user : User) : Prop :=
  ∃ newer other reply older, history = newer ++ (other, ⟨.reactivate user.id, reply⟩) :: older ∧
    Undeleted older user.id ∧ ∃ load, (index, load) ∈ older ∧ Loads load user

/-- An unfinished purge has loaded the soft-deleted user and bumped his account. -/
def Purging (config : Server) (index : Nat) (user : User) : Prop :=
  ∃ request program, config.threads[index]? = some ⟨request, program⟩ ∧ request.isPurge = true ∧
    config.Running index ∧ user.deletedAt.isSome = true ∧ Loaded (config.trace index) user ∧
    Bumped (config.trace index) (.account user.email)

/-- No user is reactivated while a purge that has loaded him as deleted has bumped his account,
and no purge gets its bump confirmed for a user reactivated since it loaded him. -/
def purgesUnreactivated (config : Server) (index : Nat) (event : Event) : Prop :=
  (∀ userId, event.1 = .reactivate userId → Undeleted config.history userId →
    ∀ other user, user.id = userId → ¬ Purging config other user) ∧
  ∀ request program email version stored,
    config.threads[index]? = some ⟨request, program⟩ → request.isPurge = true →
      event = ⟨.upsertVersion (.account email) version, .ok stored⟩ →
        ∀ user, user.email = email → user.deletedAt.isSome = true →
          ¬ ReactivatedSince config.history index user

/-! ## Rows keep their key -/

/-- A row of the table, or one that it had before. -/
def HasRow (users : List User) (user : User) : Prop :=
  ∃ row ∈ users, row.id = user.id ∧ row.email = user.email

theorem hasRow_of_mem {users : List User} {user : User} (member : user ∈ users) :
    HasRow users user :=
  ⟨user, member, rfl, rfl⟩

theorem HasRow.trans {first second : List User} {user : User}
    (rows : ∀ row ∈ second, HasRow first row) (hasRow : HasRow second user) :
    HasRow first user := by
  obtain ⟨row, member, isId, isEmail⟩ := hasRow
  obtain ⟨original, member', isId', isEmail'⟩ := rows row member
  exact ⟨original, member', isId'.trans isId, isEmail'.trans isEmail⟩

theorem updatedUser_rows (world : World) (thread userId : Nat) (update : User → User)
    (keeps : ∀ user, (update user).id = user.id ∧ (update user).email = user.email) :
    Leads (updatedUser world thread userId update) fun after =>
      ∀ user ∈ after.users, HasRow world.users user := by
  have updated : ∀ user ∈ ((world.updateUser userId update).releaseLocks thread).users,
      HasRow world.users user := by
    intro user member
    obtain ⟨row, isRow, rfl⟩ := List.mem_map.mp member
    refine ⟨row, isRow, ?_⟩
    split
    · exact ⟨(keeps row).1.symm, (keeps row).2.symm⟩
    · exact ⟨rfl, rfl⟩
  have same : ∀ user ∈ world.users, HasRow world.users user := fun _ => hasRow_of_mem
  unfold updatedUser
  split
  · simp
  · split
    · exact (leads_refused ..).mpr same
    · exact (leads_committed ..).mpr ⟨updated, same⟩

theorem outcomes_rows (thread : Nat) (call : Call) (world : World) :
    Leads (outcomes thread call world) fun after =>
      ∀ user ∈ after.users, HasRow world.users user := by
  have same : ∀ user ∈ world.users, HasRow world.users user := fun _ => hasRow_of_mem
  cases call with
  | setLastLogin userId => exact updatedUser_rows world thread userId _ fun _ => ⟨rfl, rfl⟩
  | setPassword userId password => exact updatedUser_rows world thread userId _ fun _ => ⟨rfl, rfl⟩
  | softDelete userId deletedAt => exact updatedUser_rows world thread userId _ fun _ => ⟨rfl, rfl⟩
  | reactivate userId => exact updatedUser_rows world thread userId _ fun _ => ⟨rfl, rfl⟩
  | deleteUser userId =>
    simp only [outcomes]
    split
    · simp
    · exact (leads_committed ..).mpr ⟨fun user member => same user (List.mem_of_mem_filter member),
        same⟩
  | insertClaim row =>
    simp only [outcomes]
    split
    · simpa using same
    · exact (leads_committed ..).mpr ⟨same, same⟩
  | selectSessionByChain chainId =>
    simp only [outcomes]
    split <;> simpa using same
  | insertSession userId jti chainId expiresAt =>
    simp only [outcomes]
    split
    · simpa using same
    · exact (leads_committed ..).mpr ⟨same, same⟩
  | moveSession sessionId newJti newExpiresAt =>
    simp only [outcomes]
    split
    · simpa using same
    · exact (leads_committed ..).mpr ⟨same, same⟩
  | lockUser userId =>
    simp only [outcomes]
    split
    · simp
    · split
      · simpa using same
      · simpa using same
  | upsertVersion key version => exact (leads_committed ..).mpr ⟨same, same⟩
  | deleteExpiredClaims => exact (leads_committed ..).mpr ⟨same, same⟩
  | deleteSession sessionId => exact (leads_committed ..).mpr ⟨same, same⟩
  | deleteSessionsOf userId exemptChainId => exact (leads_committed ..).mpr ⟨same, same⟩
  | deleteSessionsExpiredBefore before => exact (leads_committed ..).mpr ⟨same, same⟩
  | insertAuditEntry => exact (leads_committed ..).mpr ⟨same, same⟩
  | closeSession => simpa [outcomes, World.releaseLocks] using same
  | _ => simpa [outcomes] using same

theorem loads_row {thread : Nat} {call : Call} {world : World} {outcome : Reply call × World}
    (possible : outcome ∈ outcomes thread call world) {user : User}
    (loads : Loads ⟨call, outcome.1⟩ user) : user ∈ world.users := by
  rcases loads with ⟨email, isEvent⟩ | ⟨cutoff, users, isEvent, among⟩
  · obtain rfl := congrArg Sigma.fst isEvent
    have isReply : outcome.1 = .ok (some user) := eq_of_heq (Sigma.mk.inj isEvent).2
    simp only [outcomes, selected, List.mem_cons, List.not_mem_nil, or_false] at possible
    rcases possible with rfl | rfl
    · exact List.mem_of_find?_eq_some (Except.ok.inj isReply)
    · simp at isReply
  · obtain rfl := congrArg Sigma.fst isEvent
    have isReply : outcome.1 = .ok users := eq_of_heq (Sigma.mk.inj isEvent).2
    simp only [outcomes, selected, List.mem_cons, List.not_mem_nil, or_false] at possible
    rcases possible with rfl | rfl
    · rw [← Except.ok.inj isReply] at among
      exact List.mem_of_mem_filter among
    · simp at isReply

section Runs

variable {settings : Settings} {permits : Server → Nat → Event → Prop}
variable {start : World} {before after config : Server}

/-- Rows are deleted and changed, but keep their id and their address. -/
theorem run_rows (run : Reaches (server settings) permits (Config.start start) config) :
    (∀ user ∈ config.state.users, HasRow start.users user) ∧
      ∀ entry ∈ config.history, ∀ user, Loads entry.2 user → HasRow start.users user := by
  refine run.preserves (fun config => (∀ user ∈ config.state.users, HasRow start.users user) ∧
      ∀ entry ∈ config.history, ∀ user, Loads entry.2 user → HasRow start.users user)
    ⟨fun _ => hasRow_of_mem, by simp [Config.start]⟩ fun before after _ holds step => ?_
  obtain ⟨rows, loaded⟩ := holds
  rcases step.cases_answers with ⟨history, unanswered⟩ | ⟨index, event, answers⟩
  · have users : after.state.users = before.state.users := by
      rcases unanswered with same | ⟨disturbance, disturbed⟩
      · rw [same]
      · rw [disturbed]
        cases disturbance <;> rfl
    rw [users, history]
    exact ⟨rows, loaded⟩
  · refine ⟨fun user member => ?_, fun entry member user loads => ?_⟩
    · exact (outcomes_rows index event.1 before.state _ answers.possible user member).trans rows
    · rw [answers.recorded] at member
      rcases List.mem_cons.mp member with rfl | old
      · exact rows user (loads_row answers.possible loads)
      · exact loaded entry old user loads

theorem email_of_loaded (keys : (start.users.map User.id).Nodup)
    (run : Reaches (server settings) permits (Config.start start) config) {index : Nat}
    {first second : User} (loaded : Loaded (config.trace index) first)
    (loaded' : Loaded (config.trace index) second) (sameId : first.id = second.id) :
    first.email = second.email := by
  obtain ⟨event, member, loads⟩ := (loaded_iff _ _).mp loaded
  obtain ⟨event', member', loads'⟩ := (loaded_iff _ _).mp loaded'
  have rows := (run_rows run).2
  obtain ⟨row, isRow, isId, isEmail⟩ := rows _ ((Config.mem_trace index event).mp member) _ loads
  obtain ⟨row', isRow', isId', isEmail'⟩ :=
    rows _ ((Config.mem_trace index event').mp member') _ loads'
  have same : row = row' := by
    refine List.inj_on_of_nodup_map keys isRow isRow' ?_
    rw [isId, isId', sameId]
  rw [← isEmail, ← isEmail', same]

/-! ## What a purge finds when it deletes -/

theorem ReactivatedSince.cons {history : List (Nat × Event)} {index : Nat} {user : User}
    {entry : Nat × Event} (since : ReactivatedSince (entry :: history) index user) :
    ReactivatedSince history index user ∨
      (entry.2.1 = .reactivate user.id ∧ Undeleted history user.id ∧
        ∃ load, (index, load) ∈ history ∧ Loads load user) := by
  obtain ⟨newer, other, reply, older, split, undeleted, loaded⟩ := since
  cases newer with
  | nil =>
    obtain ⟨rfl, rfl⟩ := List.cons.inj split
    exact Or.inr ⟨rfl, undeleted, loaded⟩
  | cons latest newer =>
    exact Or.inl ⟨newer, other, reply, older, (List.cons.inj split).2, undeleted, loaded⟩

theorem ReactivatedSince.loaded {history : List (Nat × Event)} {index : Nat} {user : User}
    (since : ReactivatedSince history index user) :
    ∃ load, (index, load) ∈ history ∧ Loads load user := by
  obtain ⟨newer, other, reply, older, rfl, -, load, member, loads⟩ := since
  exact ⟨load, by simp [member], loads⟩

theorem Bumped.earlier {actor index : Nat} {event : Event} {key : VersionKey}
    (answers : Answers (server settings) permits before after actor event)
    (bumped : Bumped (after.trace index) key) : Bumped (before.trace index) key ∨
      (actor = index ∧ ∃ version stored, event = ⟨.upsertVersion key version, .ok stored⟩) := by
  obtain ⟨version, stored, member⟩ := bumped
  by_cases isActor : actor = index
  · subst isActor
    rw [answers.trace_self] at member
    rcases List.mem_cons.mp member with same | old
    · exact Or.inr ⟨rfl, version, stored, same.symm⟩
    · exact Or.inl ⟨version, stored, old⟩
  · rw [answers.trace_ne isActor] at member
    exact Or.inl ⟨version, stored, member⟩

theorem Purging.earlier
    (run : Reaches (server settings) permits (Config.start start) before)
    (step : Step (server settings) permits before after) {index : Nat} {user : User}
    (purging : Purging after index user) (loaded : Loaded (before.trace index) user)
    (bumped : Bumped (before.trace index) (.account user.email)) : Purging before index user := by
  obtain ⟨request, program, present, isPurge, running, isDeleted, -, -⟩ := purging
  have begun : index < before.threads.length := by
    obtain ⟨version, stored, member⟩ := bumped
    exact (run.attributed (Config.attributed_start start)).begun member
  have single : Reaches (server settings) permits before after := .single step
  obtain ⟨program', present'⟩ := single.present_before begun present
  exact ⟨request, program', present', isPurge, single.running begun running, isDeleted, loaded,
    bumped⟩

theorem unreactivated_step
    (run : Reaches (server settings) purgesUnreactivated (Config.start start) before)
    (spared : ∀ index user, Purging before index user →
      ¬ ReactivatedSince before.history index user)
    (step : Step (server settings) purgesUnreactivated before after) (index : Nat) (user : User)
    (purging : Purging after index user) : ¬ ReactivatedSince after.history index user := by
  intro since
  have purging' := purging
  obtain ⟨request, program, present, isPurge, running, isDeleted, loaded, bumped⟩ := purging'
  rcases step.cases_answers with ⟨history, -⟩ | ⟨actor, event, answers⟩
  · rw [Config.trace_of_history history] at loaded bumped
    rw [history] at since
    exact spared index user (purging.earlier run step loaded bumped) since
  · rw [answers.recorded] at since
    have loadedBefore {load : Event} (member : (index, load) ∈ before.history)
        (loads : Loads load user) : Loaded (before.trace index) user :=
      (loaded_iff _ _).mpr ⟨load, (Config.mem_trace index load).mpr member, loads⟩
    rcases since.cons with old | ⟨isReactivation, undeleted, load, member, loads⟩
    · rcases bumped.earlier answers with already | ⟨isActor, version, stored, isBump⟩
      · obtain ⟨load, member, loads⟩ := old.loaded
        exact spared index user (purging.earlier run step (loadedBefore member loads) already) old
      · obtain ⟨request', next, calling⟩ := answers.running
        subst isActor
        have begun := (List.getElem?_eq_some_iff.mp calling).1
        have single : Reaches (server settings) purgesUnreactivated before after := .single step
        obtain ⟨program', present'⟩ := single.present_before begun present
        exact answers.permitted.2 request program' user.email version stored present' isPurge isBump
          user rfl isDeleted old
    · rcases bumped.earlier answers with already | ⟨-, version, stored, isBump⟩
      · exact answers.permitted.1 user.id isReactivation undeleted index user rfl
          (purging.earlier run step (loadedBefore member loads) already)
      · have isCall := congrArg Sigma.fst isBump
        simp only at isReactivation isCall
        rw [isReactivation] at isCall
        simp at isCall

theorem run_unreactivated
    (run : Reaches (server settings) purgesUnreactivated (Config.start start) config) (index : Nat)
    (user : User) (purging : Purging config index user) :
    ¬ ReactivatedSince config.history index user := by
  have holds := run.preserves
    (fun config => ∀ index user, Purging config index user →
      ¬ ReactivatedSince config.history index user)
    (fun index user purging => by
      obtain ⟨_, _, present, _⟩ := purging
      simp [Config.start] at present)
    fun before after earlier spared step index user => unreactivated_step earlier spared step index user
  exact holds index user purging

/-- A purge that deletes an account which was soft-deleted when it loaded it deletes no account
that has been reactivated since. -/
theorem purge_spares_reactivated (settings : Settings) (start : World)
    (keys : (start.users.map User.id).Nodup) {before after : Server}
    (run : Reaches (server settings) purgesUnreactivated (Config.start start) before)
    {index userId : Nat} {reply : Except ServiceError Unit}
    (deletes : Answers (server settings) purgesUnreactivated before after index
      ⟨.deleteUser userId, reply⟩) {request : Request} {program : Service Response}
    (present : before.threads[index]? = some ⟨request, program⟩) (isPurge : request.isPurge = true)
    {user : User} (loaded : Loaded (before.trace index) user) (isUser : user.id = userId)
    (isDeleted : user.deletedAt.isSome = true) :
    ¬ ReactivatedSince before.history index user := by
  obtain ⟨request', next, calling⟩ := deletes.running
  obtain ⟨user', loaded', isUser', bumped⟩ :=
    (run.disciplined (server_obeys settings) start).allows calling
  have sameEmail := email_of_loaded keys run loaded loaded' (isUser.trans isUser'.symm)
  rw [← sameEmail] at bumped
  exact run_unreactivated run index user
    ⟨request, program, present, isPurge, deletes.isRunning, isDeleted, loaded, bumped⟩

end Runs

/-! Ann's account is soft-deleted, reactivated and soft-deleted again, and then an administrator
purges it. -/

def annDeleted : User :=
  { ann with isActive := false, deletedAt := some 100 }

def annsDeletedStore : World :=
  { annsStore with users := [annDeleted] }

def annPurging : List (Move Request Disturbance) :=
  .begin (.reactivateUser ann.email) :: runs 0 3 ++ .begin (.deleteAnyUser ann.email) :: runs 1 10 ++
    .begin (.purgeUser ann.email) :: runs 2 9

def annBeforeDelete : Server :=
  Server.after (.start annsDeletedStore) annPurging

def isReactivation (event : Event) : Bool :=
  match event.1 with
  | .reactivate _ => true
  | _ => false

/-- A reactivation was answered after a call of the thread. -/
def reactivatedAfter (index : Nat) : List (Nat × Event) → Bool
  | [] => false
  | entry :: older =>
      (isReactivation entry.2 && older.any (·.1 == index)) || reactivatedAfter index older

theorem reactivatedAfter_of_since {history : List (Nat × Event)} {index : Nat} {user : User}
    (since : ReactivatedSince history index user) : reactivatedAfter index history = true := by
  obtain ⟨newer, other, reply, older, rfl, -, load, member, -⟩ := since
  induction newer with
  | nil =>
    have called : older.any (·.1 == index) = true := List.any_eq_true.mpr ⟨_, member, beq_self_eq_true _⟩
    simp [reactivatedAfter, isReactivation, called]
  | cons entry newer ih => simp [reactivatedAfter, ih]

/-- Nobody is reactivated once there is a purge. -/
def purgesUnreactivatedCheck (config : Server) (index : Nat) (event : Event) : Bool :=
  (!isReactivation event || config.threads.all (!·.request.isPurge)) &&
    ((config.threads[index]?).all (!·.request.isPurge) || !reactivatedAfter index config.history)

theorem purgesUnreactivated_of_check (config : Server) (index : Nat) (event : Event)
    (passed : purgesUnreactivatedCheck config index event = true) :
    purgesUnreactivated config index event := by
  simp only [purgesUnreactivatedCheck, Bool.and_eq_true, Bool.or_eq_true, Bool.not_eq_true',
    List.all_eq_true] at passed
  refine ⟨fun userId isCall _ other user _ purging => ?_,
    fun request program _ _ _ present isPurge _ user _ _ since => ?_⟩
  · obtain ⟨request, program, present, isPurge, -⟩ := purging
    rcases passed.1 with other | unpurged
    · simp [isReactivation, isCall] at other
    · have unpurging := unpurged _ (List.mem_of_getElem? present)
      simp [isPurge] at unpurging
  · have late := reactivatedAfter_of_since since
    simp [present, isPurge, late] at passed

/-- As the purge finds her. -/
def annDeletedAgain : User :=
  { ann with isActive := false, deletedAt := some 1000 }

theorem purge_spares_reactivated_again :
    ⟨.reactivate 1, .ok ()⟩ ∈ annBeforeDelete.trace 0 ∧
      ¬ ReactivatedSince annBeforeDelete.history 2 annDeletedAgain := by
  refine ⟨by decide +kernel, ?_⟩
  obtain ⟨program, present⟩ := Config.present_of_request annBeforeDelete 2 (.purgeUser ann.email)
    (by decide +kernel)
  have deletes : Answers (server sampleSettings) purgesUnreactivated annBeforeDelete
      (annBeforeDelete.after [.reply 2 0]) 2 ⟨.deleteUser 1, .ok ()⟩ :=
    Config.follow_answers _ annBeforeDelete 2 0 _
      (purgesUnreactivated_of_check _ _ _ (by decide +kernel)) (by decide +kernel)
  have loaded : Loaded (annBeforeDelete.trace 2) annDeletedAgain :=
    Or.inl ⟨ann.email, by decide +kernel⟩
  exact purge_spares_reactivated sampleSettings annsDeletedStore (by decide)
    (Config.follow_permitted _ _ purgesUnreactivated_of_check (.start annsDeletedStore) annPurging
      (by decide +kernel)) deletes present rfl loaded rfl rfl

/-! The account is reactivated after the purge has loaded it. -/

def annReactivated : Server :=
  Server.after (.start annsDeletedStore)
    (.begin (.purgeUser ann.email) :: runs 0 1 ++ .begin (.reactivateUser ann.email) :: runs 1 3)

/-- The reactivation has returned, and the purge deletes the active account. -/
theorem purge_deletes_reactivated :
    Reaches (server sampleSettings) anyCall (Config.start annsDeletedStore)
        (annReactivated.after (runs 0 9)) ∧
      ⟨.selectUserByEmail ann.email, .ok (some annDeleted)⟩ ∈ annReactivated.trace 0 ∧
      (annReactivated.threads[1]?).bind Thread.result = some (.ok .done) ∧
      annReactivated.state.users = [ann] ∧
      ⟨.deleteUser 1, .ok ()⟩ ∈ (annReactivated.after (runs 0 9)).trace 0 ∧
      (annReactivated.after (runs 0 9)).state.users = [] := by
  refine ⟨(Server.after_reaches _ _).trans (Server.after_reaches _ _), ?_, ?_, ?_, ?_, ?_⟩
  all_goals decide +kernel

end MysticAuth.Tokens
