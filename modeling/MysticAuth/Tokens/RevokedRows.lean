import MysticAuth.Interleaving.Histories
import MysticAuth.Tokens.Lineage
import MysticAuth.Tokens.MirrorDiscipline

/-!
# Rows of revoked sessions

A revocation bumps the version of the account or of a chain and then deletes
the rows that the version covers.  They stay gone as long as no refresh adds a
row for a revoked chain afterwards, which the refresh does not check.
-/

set_option autoImplicit false

namespace MysticAuth.Tokens

open Interleaving

/-! ## What a call does to the rows -/

/-- Rows are moved, added or removed; they are removed by the calls that end sessions. -/
inductive RowStep (call : Call) (before after : World) : Prop where
  | kept (change : UserSession → UserSession)
      (same : ∀ session, (change session).id = session.id ∧
        (change session).userId = session.userId ∧ (change session).chainId = session.chainId)
      (next : after.nextSessionId = before.nextSessionId)
      (rows : after.sessions = before.sessions.map change)
  | inserted (userId jti chainId expiresAt : Nat)
      (isInsert : call = .insertSession userId jti chainId expiresAt)
      (next : after.nextSessionId = before.nextSessionId + 1)
      (rows : after.sessions = before.sessions ++
        [⟨before.nextSessionId, userId, jti, some chainId, expiresAt⟩])
  | removed (keep : UserSession → Bool) (next : after.nextSessionId = before.nextSessionId)
      (rows : after.sessions = before.sessions.filter keep)
      (ends : ∀ session ∈ before.sessions, keep session = false →
        call = .deleteSession session.id ∨ ∃ exempt, call = .deleteSessionsOf session.userId exempt)

theorem RowStep.same {call : Call} {before after : World}
    (next : after.nextSessionId = before.nextSessionId) (rows : after.sessions = before.sessions) :
    RowStep call before after :=
  .kept id (fun _ => ⟨rfl, rfl, rfl⟩) next (by simpa using rows)

theorem outcomes_rowStep (thread : Nat) (call : Call) (world : World)
    (plain : call.isForeign = false) :
    Leads (outcomes thread call world) fun after =>
      after.users = world.users ∧ RowStep call world after := by
  have same : world.users = world.users ∧ RowStep call world world := ⟨rfl, .same rfl rfl⟩
  cases call with
  | setLastLogin userId => simp [Call.isForeign] at plain
  | setPassword userId password => simp [Call.isForeign] at plain
  | softDelete userId deletedAt => simp [Call.isForeign] at plain
  | reactivate userId => simp [Call.isForeign] at plain
  | deleteUser userId => simp [Call.isForeign] at plain
  | deleteSessionsExpiredBefore before => simp [Call.isForeign] at plain
  | insertClaim row =>
    simp only [outcomes]
    split
    · simpa using same
    · exact (leads_committed ..).mpr ⟨⟨rfl, .same rfl rfl⟩, same⟩
  | selectSessionByChain chainId =>
    simp only [outcomes]
    split <;> simpa using same
  | insertSession userId jti chainId expiresAt =>
    simp only [outcomes]
    split
    · exact (leads_refused ..).mpr same
    · refine (leads_committed ..).mpr ⟨⟨rfl, ?_⟩, same⟩
      exact .inserted userId jti chainId expiresAt rfl rfl rfl
  | moveSession sessionId newJti newExpiresAt =>
    simp only [outcomes]
    split
    · exact (leads_refused ..).mpr same
    · refine (leads_committed ..).mpr ⟨⟨rfl, .kept _ (fun session => ?_) rfl rfl⟩, same⟩
      split <;> exact ⟨rfl, rfl, rfl⟩
  | deleteSession sessionId =>
    refine (leads_committed ..).mpr ⟨⟨rfl, .removed _ rfl rfl fun session _ isGone => ?_⟩, same⟩
    left
    rw [show session.id = sessionId by simpa using isGone]
  | deleteSessionsOf userId exemptChainId =>
    refine (leads_committed ..).mpr ⟨⟨rfl, .removed _ rfl rfl fun session _ isGone => ?_⟩, same⟩
    right
    refine ⟨exemptChainId, ?_⟩
    simp only [Bool.not_eq_false', Bool.and_eq_true, beq_iff_eq] at isGone
    rw [isGone.1]
  | lockUser userId =>
    simp only [outcomes]
    split
    · simp
    · split
      · simpa using ⟨RowStep.same rfl rfl, same.2⟩
      · simpa using same
  | uuid => exact (leads_cons ..).mpr ⟨⟨rfl, .same rfl rfl⟩, leads_nil _⟩
  | encode token => exact (leads_cons ..).mpr ⟨⟨rfl, .same rfl rfl⟩, leads_nil _⟩
  | upsertVersion key version =>
    exact (leads_committed ..).mpr ⟨⟨rfl, .same rfl rfl⟩, same⟩
  | deleteExpiredClaims => exact (leads_committed ..).mpr ⟨⟨rfl, .same rfl rfl⟩, same⟩
  | insertAuditEntry => exact (leads_committed ..).mpr ⟨⟨rfl, .same rfl rfl⟩, same⟩
  | closeSession => exact (leads_cons ..).mpr ⟨⟨rfl, .same rfl rfl⟩, leads_nil _⟩
  | _ => simpa [outcomes] using same

section RowStep

variable {call : Call} {before after : World}

theorem RowStep.next_le (step : RowStep call before after) :
    before.nextSessionId ≤ after.nextSessionId := by
  cases step with
  | kept change same next rows => omega
  | inserted userId jti chainId expiresAt isInsert next rows => omega
  | removed keep next rows ends => omega

/-- A row was there before, perhaps with another token, or has just been added. -/
theorem RowStep.origin (step : RowStep call before after) {row : UserSession}
    (member : row ∈ after.sessions) :
    (∃ old ∈ before.sessions, old.id = row.id ∧ old.userId = row.userId ∧
        old.chainId = row.chainId) ∨
      ∃ userId jti chainId expiresAt, call = .insertSession userId jti chainId expiresAt ∧
        after.nextSessionId = before.nextSessionId + 1 ∧
        row = ⟨before.nextSessionId, userId, jti, some chainId, expiresAt⟩ := by
  cases step with
  | kept change same next rows =>
    rw [rows] at member
    obtain ⟨old, inOld, rfl⟩ := List.mem_map.mp member
    obtain ⟨sameId, sameUser, sameChain⟩ := same old
    exact Or.inl ⟨old, inOld, sameId.symm, sameUser.symm, sameChain.symm⟩
  | inserted userId jti chainId expiresAt isInsert next rows =>
    rw [rows] at member
    rcases List.mem_append.mp member with inOld | isNew
    · exact Or.inl ⟨row, inOld, rfl, rfl, rfl⟩
    · exact Or.inr ⟨userId, jti, chainId, expiresAt, isInsert, next, List.mem_singleton.mp isNew⟩
  | removed keep next rows ends =>
    rw [rows] at member
    exact Or.inl ⟨row, List.mem_of_mem_filter member, rfl, rfl, rfl⟩

theorem RowStep.survives (step : RowStep call before after) {row : UserSession}
    (member : row ∈ before.sessions) :
    (∃ later ∈ after.sessions, later.id = row.id) ∨ call = .deleteSession row.id ∨
      ∃ exempt, call = .deleteSessionsOf row.userId exempt := by
  cases step with
  | kept change same next rows =>
    refine Or.inl ⟨change row, ?_, (same row).1⟩
    rw [rows]
    exact List.mem_map_of_mem member
  | inserted userId jti chainId expiresAt isInsert next rows =>
    refine Or.inl ⟨row, ?_, rfl⟩
    rw [rows]
    exact List.mem_append_left _ member
  | removed keep next rows ends =>
    cases isKept : keep row with
    | true =>
      refine Or.inl ⟨row, ?_, rfl⟩
      rw [rows]
      exact List.mem_filter.mpr ⟨member, isKept⟩
    | false => exact Or.inr (ends row member isKept)

end RowStep

/-! ## What the calls of a revocation say about the rows -/

section Answered

variable {thread : Nat} {before after : World}

theorem selectSessionById_found {sessionId : Nat} {session : UserSession}
    (possible : (Except.ok (some session), after) ∈
      outcomes thread (.selectSessionById sessionId) before) :
    session ∈ before.sessions ∧ after = before := by
  simp only [outcomes, selected, List.mem_cons, Prod.mk.injEq, Except.ok.injEq, List.not_mem_nil,
    or_false] at possible
  rcases possible with ⟨found, same⟩ | ⟨isError, -⟩
  · exact ⟨List.mem_of_find?_eq_some found.symm, same⟩
  · simp at isError

theorem selectSessionByChain_found {chainId : Nat} {found : Option UserSession}
    (possible : (Except.ok found, after) ∈
      outcomes thread (.selectSessionByChain chainId) before) :
    before.sessions.filter (·.chainId == some chainId) = found.toList ∧ after = before := by
  simp only [outcomes] at possible
  split at possible
  · rename_i rows
    simp only [selected, List.mem_cons, Prod.mk.injEq, Except.ok.injEq, List.not_mem_nil,
      or_false] at possible
    rcases possible with ⟨rfl, same⟩ | ⟨isError, -⟩
    · exact ⟨rows, same⟩
    · simp at isError
  · rename_i session rows
    simp only [selected, List.mem_cons, Prod.mk.injEq, Except.ok.injEq, List.not_mem_nil,
      or_false] at possible
    rcases possible with ⟨rfl, same⟩ | ⟨isError, -⟩
    · exact ⟨rows, same⟩
    · simp at isError
  · simp [refused] at possible

theorem deleteSession_done {sessionId : Nat}
    (possible : (Except.ok (), after) ∈ outcomes thread (.deleteSession sessionId) before) :
    ∀ row ∈ after.sessions, row.id ≠ sessionId := by
  simp only [outcomes, committed, List.mem_cons, Prod.mk.injEq, List.not_mem_nil,
    or_false] at possible
  rcases possible with ⟨-, rfl⟩ | ⟨isError, -⟩ | ⟨isError, -⟩
  · intro row member
    simpa using (List.mem_filter.mp member).2
  · simp at isError
  · simp at isError

theorem deleteSessionsOf_done {userId count : Nat}
    (possible : (Except.ok count, after) ∈ outcomes thread (.deleteSessionsOf userId none) before) :
    ∀ row ∈ after.sessions, row.userId ≠ userId := by
  simp only [outcomes, committed, List.mem_cons, Prod.mk.injEq, List.not_mem_nil,
    or_false] at possible
  rcases possible with ⟨-, rfl⟩ | ⟨isError, -⟩ | ⟨isError, -⟩
  · intro row member
    simpa using (List.mem_filter.mp member).2
  · simp at isError
  · simp at isError

theorem selectUserByEmail_found {email : String} {found : Option User}
    (possible : (Except.ok found, after) ∈ outcomes thread (.selectUserByEmail email) before) :
    found = before.userByEmail email := by
  simp only [outcomes, selected, List.mem_cons, Prod.mk.injEq, Except.ok.injEq, List.not_mem_nil,
    or_false] at possible
  rcases possible with ⟨isFound, -⟩ | ⟨isError, -⟩
  · exact isFound
  · simp at isError

end Answered

/-! ## The condition -/

/-- The key was bumped, and the mirror turned to. -/
def Sweeping (trace : Trace) (key : VersionKey) : Prop :=
  Bumped trace key ∧ ∃ event ∈ trace, event.1.endsSessions = true

/-- A revocation that covers the chain has turned to the mirror. -/
def Closed (email : String) (history : List (Nat × Event)) (chainId : Nat) : Prop :=
  ∃ thread, Sweeping (traceOf history thread) (.account email) ∨
    Sweeping (traceOf history thread) (.chain email chainId)

/-- A row is added only for a chain without one, which no revocation has turned to the mirror for;
and the store fails no revocation that has bumped its version. -/
def backfillsInTime (email : String) (config : MirrorServer email) (thread : Nat)
    (event : Event) : Prop :=
  (∀ userId jti chainId expiresAt, event.1 = .insertSession userId jti chainId expiresAt →
    (∀ row ∈ config.state.sessions, row.chainId ≠ some chainId) ∧
      ¬ Closed email config.history chainId) ∧
  ¬ Lapse (config.trace thread) event

theorem Sweeping.extend {trace later : Trace} {key : VersionKey} (sweeping : Sweeping trace key)
    (longer : trace <:+ later) : Sweeping later key := by
  obtain ⟨bumped, event, member, ends⟩ := sweeping
  exact ⟨bumped.extend longer, event, longer.subset member, ends⟩

theorem traceOf_suffix (entry : Nat × Event) (history : List (Nat × Event)) (thread : Nat) :
    traceOf history thread <:+ traceOf (entry :: history) thread := by
  have longer : history <:+ entry :: history := List.suffix_cons _ _
  exact longer.filterMap _

theorem Closed.extend {email : String} {history : List (Nat × Event)} {chainId : Nat}
    (closed : Closed email history chainId) (entry : Nat × Event) :
    Closed email (entry :: history) chainId := by
  obtain ⟨thread, sweeping⟩ := closed
  have longer := traceOf_suffix entry history thread
  exact ⟨thread, sweeping.imp (·.extend longer) (·.extend longer)⟩

theorem closed_of_bumped {email : String} {history : List (Nat × Event)} {chainId thread : Nat}
    (event : Event) (ends : event.1.endsSessions = true)
    (bumped : Bumped (traceOf history thread) (.account email) ∨
      Bumped (traceOf history thread) (.chain email chainId)) :
    Closed email ((thread, event) :: history) chainId := by
  have longer := traceOf_suffix (thread, event) history thread
  have last : event ∈ traceOf ((thread, event) :: history) thread := by simp
  refine ⟨thread, bumped.imp (fun account => ?_) fun chain => ?_⟩
  · exact ⟨account.extend longer, event, last, ends⟩
  · exact ⟨chain.extend longer, event, last, ends⟩

/-! ## The invariant -/

/-- A login adds one row for its chain. -/
structure World.MirrorSound (world : World) : Prop where
  below : ∀ row ∈ world.sessions, row.id < world.nextSessionId
  sameId : ∀ row ∈ world.sessions, ∀ other ∈ world.sessions, row.id = other.id →
    row.chainId = other.chainId
  sameChain : ∀ row ∈ world.sessions, ∀ other ∈ world.sessions, ∀ chainId,
    row.chainId = some chainId → other.chainId = some chainId → row.id = other.id

/-- What was read of a row stays true of it; and when it is gone, its chain is closed. -/
structure Tracked (email : String) (world : World) (history : List (Nat × Event))
    (session : UserSession) : Prop where
  below : session.id < world.nextSessionId
  agrees : ∀ row ∈ world.sessions, row.id = session.id → row.chainId = session.chainId
  only : ∀ chainId, session.chainId = some chainId →
    ∀ row ∈ world.sessions, row.chainId = some chainId → row.id = session.id
  remains : ∀ chainId, session.chainId = some chainId →
    (∃ row ∈ world.sessions, row.id = session.id) ∨ Closed email history chainId

def eventsOf (history : List (Nat × Event)) : Trace :=
  history.map (·.2)

structure Mirrored (email : String) (start world : World) (history : List (Nat × Event)) :
    Prop where
  users : world.users = start.users
  sound : world.MirrorSound
  targets : ∀ session, Targets (eventsOf history) session → Tracked email world history session
  looked : ∀ chainId reply, ⟨.selectSessionByChain chainId, reply⟩ ∈ eventsOf history →
    Closed email history chainId
  swept : ∀ userId exempt reply, ⟨.deleteSessionsOf userId exempt, reply⟩ ∈ eventsOf history →
    ∀ chainId, Closed email history chainId
  missing : ∀ chainId, ⟨.selectSessionByChain chainId, .ok none⟩ ∈ eventsOf history →
    ∀ row ∈ world.sessions, row.chainId ≠ some chainId
  deleted : ∀ sessionId, ⟨.deleteSession sessionId, .ok ()⟩ ∈ eventsOf history →
    sessionId < world.nextSessionId ∧ ∀ row ∈ world.sessions, row.id ≠ sessionId
  cleared : ∀ userId count, ⟨.deleteSessionsOf userId none, .ok count⟩ ∈ eventsOf history →
    ∀ row ∈ world.sessions, row.userId ≠ userId
  found : ∀ address user, ⟨.selectUserByEmail address, .ok user⟩ ∈ eventsOf history →
    user = start.userByEmail address

theorem mem_eventsOf_cons {history : List (Nat × Event)} {thread : Nat} {event other : Event}
    (member : other ∈ eventsOf ((thread, event) :: history)) :
    other = event ∨ other ∈ eventsOf history :=
  List.mem_cons.mp member

theorem mem_eventsOf {history : List (Nat × Event)} {thread : Nat} {event : Event}
    (member : event ∈ traceOf history thread) : event ∈ eventsOf history :=
  List.mem_map.mpr ⟨(thread, event), (mem_traceOf history thread event).mp member, rfl⟩

theorem Targets.mono {trace later : Trace} {session : UserSession} (targets : Targets trace session)
    (included : trace ⊆ later) : Targets later session := by
  rcases targets with ⟨sessionId, member⟩ | ⟨chainId, member⟩
  · exact Or.inl ⟨sessionId, included member⟩
  · exact Or.inr ⟨chainId, included member⟩

theorem local_of_allowed {email : String} {trace : Trace} {call : Call}
    (allowed : mirrorAllows email trace call) : call.isForeign = false := by
  cases call <;> first | rfl | exact allowed

section Answer

variable {email : String} {start before after : World} {history : List (Nat × Event)}
variable {thread : Nat} {event : Event}

/-- An answered call that the discipline allows and the condition admits. -/
structure Admitted (email : String) (before after : World) (history : List (Nat × Event))
    (thread : Nat) (event : Event) : Prop where
  allowed : mirrorAllows email (traceOf history thread) event.1
  possible : (event.2, after) ∈ outcomes thread event.1 before
  inTime : ∀ userId jti chainId expiresAt,
    event.1 = .insertSession userId jti chainId expiresAt →
      (∀ row ∈ before.sessions, row.chainId ≠ some chainId) ∧ ¬ Closed email history chainId

theorem Admitted.rows (admitted : Admitted email before after history thread event) :
    RowStep event.1 before after :=
  (outcomes_rowStep thread event.1 before (local_of_allowed admitted.allowed) _ admitted.possible).2

theorem Admitted.users (admitted : Admitted email before after history thread event) :
    after.users = before.users :=
  (outcomes_rowStep thread event.1 before (local_of_allowed admitted.allowed) _ admitted.possible).1

theorem World.MirrorSound.answer (sound : before.MirrorSound)
    (admitted : Admitted email before after history thread event) : after.MirrorSound where
  below row member := by
    rcases admitted.rows.origin member with ⟨old, inOld, sameId, -, -⟩ |
      ⟨userId, jti, chainId, expiresAt, -, next, rfl⟩
    · have bound := sound.below old inOld
      have grown := admitted.rows.next_le
      omega
    · simp only [next]
      omega
  sameId row member other member' same := by
    rcases admitted.rows.origin member with ⟨old, inOld, sameId, -, sameChain⟩ |
      ⟨userId, jti, chainId, expiresAt, isInsert, -, rfl⟩ <;>
    rcases admitted.rows.origin member' with ⟨old', inOld', sameId', -, sameChain'⟩ |
      ⟨userId', jti', chainId', expiresAt', isInsert', -, rfl⟩
    · rw [← sameChain, ← sameChain']
      exact sound.sameId old inOld old' inOld' (by omega)
    · have bound := sound.below old inOld
      simp only at same
      omega
    · have bound := sound.below old' inOld'
      simp only at same
      omega
    · rw [isInsert] at isInsert'
      cases isInsert'
      rfl
  sameChain row member other member' chainId isChain isChain' := by
    rcases admitted.rows.origin member with ⟨old, inOld, sameId, -, sameChain⟩ |
      ⟨userId, jti, newChain, expiresAt, isInsert, -, rfl⟩ <;>
    rcases admitted.rows.origin member' with ⟨old', inOld', sameId', -, sameChain'⟩ |
      ⟨userId', jti', newChain', expiresAt', isInsert', -, rfl⟩
    · rw [← sameId, ← sameId']
      exact sound.sameChain old inOld old' inOld' chainId (sameChain.trans isChain)
        (sameChain'.trans isChain')
    · have vacant := (admitted.inTime _ _ _ _ isInsert').1 old inOld
      exact absurd ((sameChain.trans isChain).trans isChain'.symm) vacant
    · have vacant := (admitted.inTime _ _ _ _ isInsert).1 old' inOld'
      exact absurd ((sameChain'.trans isChain').trans isChain.symm) vacant
    · rfl

/-- A deleted row was that of a session whose chain is now closed. -/
theorem closed_of_removed (mirrored : Mirrored email start before history)
    (admitted : Admitted email before after history thread event) {row : UserSession}
    (member : row ∈ before.sessions) {chainId : Nat} (ofChain : row.chainId = some chainId)
    (ends : event.1 = .deleteSession row.id ∨
      ∃ exempt, event.1 = .deleteSessionsOf row.userId exempt) :
    Closed email ((thread, event) :: history) chainId := by
  have allowed := admitted.allowed
  rcases ends with one | ⟨exempt, all⟩
  · rw [one] at allowed
    obtain ⟨session, targets, sameId, bumped⟩ := allowed
    have tracked := mirrored.targets session
      (targets.mono fun event member => mem_eventsOf member)
    have sameChain := tracked.agrees row member sameId.symm
    refine closed_of_bumped event (by rw [one]; rfl) (Or.inr ?_)
    exact bumped chainId (sameChain.symm.trans ofChain)
  · rw [all] at allowed
    exact closed_of_bumped event (by rw [all]; rfl) (Or.inl allowed.2)

theorem Tracked.answer {session : UserSession} (mirrored : Mirrored email start before history)
    (admitted : Admitted email before after history thread event)
    (tracked : Tracked email before history session) :
    Tracked email after ((thread, event) :: history) session where
  below := Nat.lt_of_lt_of_le tracked.below admitted.rows.next_le
  agrees row member sameId := by
    rcases admitted.rows.origin member with ⟨old, inOld, oldId, -, oldChain⟩ |
      ⟨userId, jti, chainId, expiresAt, -, -, rfl⟩
    · exact oldChain.symm.trans (tracked.agrees old inOld (oldId.trans sameId))
    · have bound := tracked.below
      simp only at sameId
      omega
  only chainId ofChain row member isChain := by
    rcases admitted.rows.origin member with ⟨old, inOld, oldId, -, oldChain⟩ |
      ⟨userId, jti, newChain, expiresAt, isInsert, -, rfl⟩
    · exact oldId.symm.trans (tracked.only chainId ofChain old inOld (oldChain.trans isChain))
    · obtain rfl := Option.some.inj isChain
      obtain ⟨vacant, unclosed⟩ := admitted.inTime _ _ _ _ isInsert
      rcases tracked.remains _ ofChain with ⟨old, inOld, sameId⟩ | closed
      · exact absurd ((tracked.agrees old inOld sameId).trans ofChain) (vacant old inOld)
      · exact absurd closed unclosed
  remains chainId ofChain := by
    rcases tracked.remains chainId ofChain with ⟨row, member, sameId⟩ | closed
    · rcases admitted.rows.survives member with ⟨later, inLater, laterId⟩ | ends
      · exact Or.inl ⟨later, inLater, laterId.trans sameId⟩
      · have isChain := (tracked.agrees row member sameId).trans ofChain
        exact Or.inr (closed_of_removed mirrored admitted member isChain ends)
    · exact Or.inr (closed.extend _)

/-- A row that is looked up is one of the table, which stays as it is. -/
theorem tracked_of_present {history : List (Nat × Event)} (sound : before.MirrorSound)
    {session : UserSession} (present : session ∈ before.sessions) :
    Tracked email before history session where
  below := sound.below session present
  agrees row member sameId := sound.sameId row member session present sameId
  only chainId ofChain row member isChain :=
    sound.sameChain row member session present chainId isChain ofChain
  remains _ _ := Or.inl ⟨session, present, rfl⟩

theorem targets_cons {trace : Trace} {session : UserSession}
    (targets : Targets (event :: trace) session) :
    Targets trace session ∨ (∃ sessionId, event = ⟨.selectSessionById sessionId, .ok (some session)⟩) ∨
      ∃ chainId, event = ⟨.selectSessionByChain chainId, .ok (some session)⟩ := by
  rcases targets with ⟨sessionId, member⟩ | ⟨chainId, member⟩
  · rcases List.mem_cons.mp member with same | earlier
    · exact Or.inr (Or.inl ⟨sessionId, same.symm⟩)
    · exact Or.inl (Or.inl ⟨sessionId, earlier⟩)
  · rcases List.mem_cons.mp member with same | earlier
    · exact Or.inr (Or.inr ⟨chainId, same.symm⟩)
    · exact Or.inl (Or.inr ⟨chainId, earlier⟩)

theorem Mirrored.answer (mirrored : Mirrored email start before history)
    (admitted : Admitted email before after history thread event) :
    Mirrored email start after ((thread, event) :: history) where
  users := admitted.users.trans mirrored.users
  sound := mirrored.sound.answer admitted
  targets session targets := by
    have possible := admitted.possible
    rcases targets_cons targets with earlier | ⟨sessionId, rfl⟩ | ⟨chainId, rfl⟩
    · exact (mirrored.targets session earlier).answer mirrored admitted
    · obtain ⟨present, rfl⟩ := selectSessionById_found possible
      exact tracked_of_present mirrored.sound present
    · obtain ⟨rows, rfl⟩ := selectSessionByChain_found possible
      refine tracked_of_present mirrored.sound ?_
      exact List.mem_of_mem_filter (by rw [rows]; simp)
  looked chainId reply member := by
    rcases mem_eventsOf_cons member with same | earlier
    · have allowed := admitted.allowed
      rw [← same] at allowed
      exact closed_of_bumped event (by rw [← same]; rfl) (Or.inr allowed)
    · exact (mirrored.looked chainId reply earlier).extend _
  swept userId exempt reply member chainId := by
    rcases mem_eventsOf_cons member with same | earlier
    · have allowed := admitted.allowed
      rw [← same] at allowed
      exact closed_of_bumped event (by rw [← same]; rfl) (Or.inl allowed.2)
    · exact (mirrored.swept userId exempt reply earlier chainId).extend _
  missing chainId member row inRows := by
    rcases mem_eventsOf_cons member with same | earlier
    · have possible := admitted.possible
      rw [← same] at possible
      obtain ⟨rows, unchanged⟩ := selectSessionByChain_found possible
      rw [unchanged] at inRows
      intro isChain
      have found : row ∈ before.sessions.filter (·.chainId == some chainId) :=
        List.mem_filter.mpr ⟨inRows, beq_iff_eq.mpr isChain⟩
      rw [rows] at found
      simp at found
    · rcases admitted.rows.origin inRows with ⟨old, inOld, -, -, oldChain⟩ |
        ⟨userId, jti, newChain, expiresAt, isInsert, -, rfl⟩
      · rw [← oldChain]
        exact mirrored.missing chainId earlier old inOld
      · rintro isChain
        obtain rfl := Option.some.inj isChain
        exact absurd (mirrored.looked _ _ earlier) (admitted.inTime _ _ _ _ isInsert).2
  deleted sessionId member := by
    rcases mem_eventsOf_cons member with same | earlier
    · have allowed := admitted.allowed
      have possible := admitted.possible
      have grown := admitted.rows.next_le
      rw [← same] at allowed possible
      obtain ⟨session, targets, rfl, -⟩ := allowed
      have tracked := mirrored.targets session
        (targets.mono fun event member => mem_eventsOf member)
      exact ⟨Nat.lt_of_lt_of_le tracked.below grown, deleteSession_done possible⟩
    · obtain ⟨bound, gone⟩ := mirrored.deleted sessionId earlier
      refine ⟨Nat.lt_of_lt_of_le bound admitted.rows.next_le, fun row inRows => ?_⟩
      rcases admitted.rows.origin inRows with ⟨old, inOld, oldId, -, -⟩ |
        ⟨userId, jti, newChain, expiresAt, -, -, rfl⟩
      · rw [← oldId]
        exact gone old inOld
      · exact Nat.ne_of_gt bound
  cleared userId count member row inRows := by
    rcases mem_eventsOf_cons member with same | earlier
    · have possible := admitted.possible
      rw [← same] at possible
      exact deleteSessionsOf_done possible row inRows
    · rcases admitted.rows.origin inRows with ⟨old, inOld, -, oldUser, -⟩ |
        ⟨newUser, jti, newChain, expiresAt, isInsert, -, -⟩
      · rw [← oldUser]
        exact mirrored.cleared userId count earlier old inOld
      · exact absurd (mirrored.swept _ _ _ earlier newChain) (admitted.inTime _ _ _ _ isInsert).2
  found address user member := by
    rcases mem_eventsOf_cons member with same | earlier
    · have possible := admitted.possible
      rw [← same] at possible
      rw [selectUserByEmail_found possible]
      simp only [World.userByEmail, mirrored.users]
    · exact mirrored.found address user earlier

end Answer

theorem disturb_rows (disturbance : Disturbance) (world : World) :
    (disturb disturbance world).users = world.users ∧
      (disturb disturbance world).sessions = world.sessions ∧
      (disturb disturbance world).nextSessionId = world.nextSessionId := by
  cases disturbance <;> exact ⟨rfl, rfl, rfl⟩

theorem Mirrored.of_same {email : String} {start world later : World}
    {history : List (Nat × Event)} (mirrored : Mirrored email start world history)
    (users : later.users = world.users) (sessions : later.sessions = world.sessions)
    (next : later.nextSessionId = world.nextSessionId) : Mirrored email start later history where
  users := users.trans mirrored.users
  sound := ⟨by rw [sessions, next]; exact mirrored.sound.below,
    by rw [sessions]; exact mirrored.sound.sameId,
    by rw [sessions]; exact mirrored.sound.sameChain⟩
  targets session targets := by
    obtain ⟨below, agrees, only, remains⟩ := mirrored.targets session targets
    rw [← next] at below
    rw [← sessions] at agrees only remains
    exact ⟨below, agrees, only, remains⟩
  looked := mirrored.looked
  swept := mirrored.swept
  missing := by rw [sessions]; exact mirrored.missing
  deleted := by rw [sessions, next]; exact mirrored.deleted
  cleared := by rw [sessions]; exact mirrored.cleared
  found := mirrored.found

/-! ## Runs -/

section Runs

variable {settings : Settings} {email : String} {start : World} {config : MirrorServer email}

theorem run_mirrored (sound : start.MirrorSound)
    (run : Reaches (mirrorServer settings email) (backfillsInTime email) (Config.start start)
      config) : Mirrored email start config.state config.history := by
  refine run.keeps (Mirrored email start) ?_ ?_ ?_
  · exact ⟨rfl, sound, by simp [Config.start, eventsOf, Targets], by simp [Config.start, eventsOf],
      by simp [Config.start, eventsOf], by simp [Config.start, eventsOf],
      by simp [Config.start, eventsOf], by simp [Config.start, eventsOf],
      by simp [Config.start, eventsOf]⟩
  · intro event state history mirrored
    obtain ⟨users, sessions, next⟩ := disturb_rows event state
    exact mirrored.of_same users sessions next
  · intro before after thread event earlier answers mirrored
    obtain ⟨request, next, running⟩ := answers.running
    have allowed := (earlier.disciplined (mirrorServer_obeys settings email) start).allows running
    exact mirrored.answer ⟨allowed, answers.possible, answers.permitted.1⟩

theorem run_unlapsed
    (run : Reaches (mirrorServer settings email) (backfillsInTime email) (Config.start start)
      config) (thread : Nat) : ¬ Lapsed (config.trace thread) := by
  rintro ⟨event, earlier, within, lapse⟩
  obtain ⟨before, after, -, answers, rfl, -⟩ := run.answered within
  exact answers.permitted.2 lapse

/-- The row is one of the chain, or of the account, whose version has the key. -/
def World.Covers (world : World) : VersionKey → UserSession → Prop
  | .account email, session => ∃ user, world.userByEmail email = some user ∧
      session.userId = user.id
  | .chain _ chainId, session => session.chainId = some chainId

theorem Mirrored.uncovered (mirrored : Mirrored email start config.state config.history)
    {thread : Nat} {key : VersionKey} (ended : Ended (config.trace thread) key)
    {row : UserSession} (member : row ∈ config.state.sessions) :
    ¬ config.state.Covers key row := by
  have recorded {event : Event} (inTrace : event ∈ config.trace thread) :
      event ∈ eventsOf config.history := mem_eventsOf inTrace
  cases key with
  | account address =>
    rintro ⟨user, isUser, owned⟩
    have sameUser : config.state.userByEmail address = start.userByEmail address := by
      simp only [World.userByEmail, mirrored.users]
    rcases ended with missing | ⟨user', count, found, cleared⟩
    · have absent := mirrored.found address none (recorded missing)
      rw [← sameUser, isUser] at absent
      simp at absent
    · have isFound := mirrored.found address (some user') (recorded found)
      rw [← sameUser, isUser] at isFound
      obtain rfl := Option.some.inj isFound
      exact mirrored.cleared user'.id count (recorded cleared) row member owned
  | chain address chainId =>
    intro isChain
    rcases ended with missing | ⟨session, targets, ofChain, deleted⟩
    · exact mirrored.missing chainId (recorded missing) row member isChain
    · have tracked := mirrored.targets session (targets.mono fun event inTrace => recorded inTrace)
      have sameId := tracked.only chainId ofChain row member isChain
      exact (mirrored.deleted session.id (recorded deleted)).2 row member sameId

/-- When a request that has bumped a version has returned, no active row is left that the version
covers, and none reappears. -/
theorem revoked_rows_gone (settings : Settings) (email : String) (start : World)
    (sound : start.MirrorSound) {config : MirrorServer email}
    (run : Reaches (mirrorServer settings email) (backfillsInTime email) (Config.start start)
      config) {thread : Nat} (returned : ¬ config.Running thread) {key : VersionKey}
    (bumped : Bumped (config.trace thread) key) :
    ∀ row ∈ config.state.sessions, config.state.now < row.expiresAt →
      ¬ config.state.Covers key row := by
  intro row member _
  have begun : thread < config.threads.length := by
    obtain ⟨version, stored, inTrace⟩ := bumped
    exact (run.attributed (Config.attributed_start start)).begun inTrace
  have present := List.getElem?_eq_getElem begun
  have settled : Settled (config.trace thread) := by
    cases isResult : config.threads[thread].result with
    | none => exact absurd ⟨_, present, isResult⟩ returned
    | some result =>
      exact (run.disciplined (mirrorServer_obeys settings email) start).returned present isResult
  rcases settled key bumped with lapsed | ended
  · exact absurd lapsed (run_unlapsed run thread)
  · exact (run_mirrored sound run).uncovered ended member

end Runs

/-! Ann is signed in with one session. -/

def annsSession : UserSession where
  id := 0
  userId := ann.id
  currentJti := 3
  chainId := some 1
  expiresAt := 4600

def annsSignedInStore : World :=
  { annsStore with
    nextId := 4
    sessions := [annsSession]
    nextSessionId := 1
    issued := [annsToken .refresh 3 1 0 0 4600] }

theorem annsSignedInStore_sound : annsSignedInStore.MirrorSound where
  below := by decide
  sameId := by decide
  sameChain := by decide

abbrev MirrorMove :=
  Move (MirrorRequest ann.email) Disturbance

def MirrorServer.after (config : MirrorServer ann.email) (moves : List MirrorMove) :
    MirrorServer ann.email :=
  config.follow (mirrorServer sampleSettings ann.email) moves

def mirrorTurns (thread calls : Nat) : List MirrorMove :=
  Move.turns thread calls

def annRefreshes : MirrorMove :=
  .begin (.refresh (annsToken .refresh 3 1 0 0 4600) none rfl)

theorem MirrorServer.after_reaches (config : MirrorServer ann.email) (moves : List MirrorMove) :
    Reaches (mirrorServer sampleSettings ann.email) anyCall config (config.after moves) :=
  Config.follow_reaches _ config moves

/-- A run without a back-fill and without a failure is within the condition. -/
def mirrorCheck (_ : MirrorServer ann.email) (_ : Nat) (event : Event) : Bool :=
  !failed event && match event.1 with
    | .insertSession _ _ _ _ => false
    | _ => true

theorem backfillsInTime_of_check (config : MirrorServer ann.email) (thread : Nat) (event : Event)
    (passed : mirrorCheck config thread event = true) :
    backfillsInTime ann.email config thread event := by
  simp only [mirrorCheck, Bool.and_eq_true, Bool.not_eq_true'] at passed
  obtain ⟨reached, plain⟩ := passed
  refine ⟨fun userId jti chainId expiresAt isInsert => ?_, ?_⟩
  · rw [isInsert] at plain
    simp at plain
  · rintro ⟨-, isFailure, -⟩
    rw [reached] at isFailure
    cases isFailure

theorem MirrorServer.not_running {config : MirrorServer ann.email} {thread : Nat}
    (finished : ((config.threads[thread]?).bind Thread.result).isSome = true) :
    ¬ config.Running thread := by
  rintro ⟨running, present, unfinished⟩
  rw [present, Option.bind_some, unfinished] at finished
  cases finished

/-- A refresh moves the row while all sessions are being revoked. -/
def annOvertaken : List MirrorMove :=
  annRefreshes :: mirrorTurns 0 12 ++ .begin .revokeAll :: mirrorTurns 1 3 ++ mirrorTurns 0 3 ++
    mirrorTurns 1 3

theorem revoked_rows_gone_all :
    ¬ (MirrorServer.after (.start annsSignedInStore) annOvertaken).Running 1 ∧
      ∀ row ∈ (MirrorServer.after (.start annsSignedInStore) annOvertaken).state.sessions,
        (MirrorServer.after (.start annsSignedInStore) annOvertaken).state.now < row.expiresAt →
          ¬ (MirrorServer.after (.start annsSignedInStore) annOvertaken).state.Covers
            (.account ann.email) row := by
  have run : Reaches (mirrorServer sampleSettings ann.email) (backfillsInTime ann.email)
      (Config.start annsSignedInStore) (MirrorServer.after (.start annsSignedInStore) annOvertaken) :=
    Config.follow_permitted _ mirrorCheck backfillsInTime_of_check _ annOvertaken
      (by decide +kernel)
  have bumped : ⟨.upsertVersion (.account ann.email) 1, .ok 1⟩ ∈
      (MirrorServer.after (.start annsSignedInStore) annOvertaken).trace 1 := by
    decide +kernel
  have returned : ¬ (MirrorServer.after (.start annsSignedInStore) annOvertaken).Running 1 :=
    MirrorServer.not_running (by decide +kernel)
  exact ⟨returned, revoked_rows_gone sampleSettings ann.email annsSignedInStore
    annsSignedInStore_sound run returned ⟨1, 1, bumped⟩⟩

/-- A refresh has found its versions current when the session is revoked, and ends afterwards. -/
def annResurrected : MirrorServer ann.email :=
  MirrorServer.after (.start annsSignedInStore) (annRefreshes :: mirrorTurns 0 12 ++
    .begin (.revokeOne 0) :: mirrorTurns 1 5 ++ mirrorTurns 0 3)

/-- Both have returned, and the chain whose version was bumped has an active row again. -/
theorem refresh_resurrects_row :
    Reaches (mirrorServer sampleSettings ann.email) anyCall (Config.start annsSignedInStore)
        annResurrected ∧
      (¬ annResurrected.Running 0 ∧ ¬ annResurrected.Running 1) ∧
      Bumped (annResurrected.trace 1) (.chain ann.email 1) ∧
      ∃ row ∈ annResurrected.state.sessions, annResurrected.state.now < row.expiresAt ∧
        annResurrected.state.Covers (.chain ann.email 1) row := by
  have bumped : ⟨.upsertVersion (.chain ann.email 1) 1, .ok 1⟩ ∈ annResurrected.trace 1 := by
    decide +kernel
  have finished (thread : Nat) (isThread : thread < 2) : ¬ annResurrected.Running thread := by
    refine MirrorServer.not_running ?_
    revert thread
    decide +kernel
  have added : (⟨1, ann.id, 5, some 1, 4600⟩ : UserSession) ∈ annResurrected.state.sessions := by
    decide +kernel
  have active : annResurrected.state.now < 4600 := by decide +kernel
  have covered (world : World) : world.Covers (.chain ann.email 1) ⟨1, ann.id, 5, some 1, 4600⟩ :=
    rfl
  exact ⟨MirrorServer.after_reaches _ _, ⟨finished 0 (by decide), finished 1 (by decide)⟩,
    ⟨1, 1, bumped⟩, _, added, active, covered _⟩

end MysticAuth.Tokens
