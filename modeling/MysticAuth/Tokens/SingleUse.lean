import Mathlib.Data.Set.Subsingleton
import MysticAuth.Tokens.Lineage

/-!
# Single use of refresh tokens

A claim row outlives the token it claims, unless the purge of expired rows
runs between another presentation's decoding of the token and its claim.
-/

set_option autoImplicit false

namespace MysticAuth.Tokens

open Interleaving

/-- A rotation of the token has returned a new pair. -/
def Rotates (config : Server) (index : Nat) (token : Payload) : Prop :=
  ∃ thread clientIp pair, config.threads[index]? = some thread ∧
    thread.request = .refresh token clientIp ∧ thread.result = some (.ok (.tokens (some pair)))

/-- An unfinished rotation has decoded a token with the id and not claimed it. -/
def Pending (config : Server) (index jti : Nat) : Prop :=
  ∃ token clientIp program, config.threads[index]? = some ⟨.refresh token clientIp, program⟩ ∧
    config.Running index ∧ token.jti = some jti ∧ ⟨.decode token, true⟩ ∈ config.trace index ∧
    hasClaimed (config.trace index) = false

/-- No claim is purged while a rotation of its token is between decoding and claiming. -/
def keepsPendingClaims (config : Server) (_ : Nat) (event : Event) : Prop :=
  event.1 = .deleteExpiredClaims →
    ∀ row ∈ config.state.expiredClaims, ∀ index, ¬ Pending config index row.jti

/-- The id is claimed, or its token has expired and nobody is about to claim it. -/
def Spent (config : Server) (jti : Nat) : Prop :=
  ∃ token exp, token ∈ config.state.issued ∧ token.jti = some jti ∧ token.exp = some exp ∧
    ((∃ row ∈ config.state.consumed, row.jti = jti) ∨
      (exp < config.state.now ∧ ∀ index, ¬ Pending config index jti))

/-- The thread has won the claim of the id. -/
def HasWon (config : Server) (index jti : Nat) : Prop :=
  ∃ row consumed, row.jti = jti ∧ ⟨.insertClaim row, .ok (some consumed)⟩ ∈ config.trace index

section Runs

variable {settings : Settings} {start : World} {before after config : Server}

theorem Pending.earlier (run : Reaches (server settings) keepsPendingClaims (Config.start start) before)
    (step : Step (server settings) keepsPendingClaims before after) {index jti : Nat}
    (pending : Pending after index jti) : Pending before index jti ∨
      ∃ token, Answers (server settings) keepsPendingClaims before after index
        ⟨.decode token, true⟩ ∧ token.jti = some jti := by
  obtain ⟨token, clientIp, program, present, running, isJti, decoded, unclaimed⟩ := pending
  have attributed := run.attributed (Config.attributed_start start)
  have single : Reaches (server settings) keepsPendingClaims before after := .single step
  have earlier (decoded' : ⟨.decode token, true⟩ ∈ before.trace index)
      (unclaimed' : hasClaimed (before.trace index) = false) : Pending before index jti := by
    have begun := attributed.begun decoded'
    obtain ⟨program', present'⟩ := single.present_before begun present
    exact ⟨token, clientIp, program', present', single.running begun running, isJti, decoded',
      unclaimed'⟩
  rcases step.cases_answers with ⟨history, -⟩ | ⟨actor, event, answers⟩
  · rw [Config.trace_of_history history] at decoded unclaimed
    exact Or.inl (earlier decoded unclaimed)
  · by_cases isActor : actor = index
    · subst isActor
      rw [answers.trace_self] at decoded unclaimed
      rcases List.mem_cons.mp decoded with rfl | old
      · exact Or.inr ⟨token, answers, isJti⟩
      · refine Or.inl (earlier old ?_)
        simp only [hasClaimed, List.any_cons, Bool.or_eq_false_iff] at unclaimed
        exact unclaimed.2
    · rw [answers.trace_ne isActor] at decoded unclaimed
      exact Or.inl (earlier decoded unclaimed)

theorem expired_of_doomed {world : World} {row : ConsumedRefreshToken}
    (doomed : row ∈ world.expiredClaims) : row.expiresAt < world.now := by
  have among := List.mem_of_mem_take doomed
  rw [List.mem_insertionSort] at among
  simpa using (List.mem_filter.mp among).2

theorem decodes_unexpired {world : World} {token : Payload} {exp : Nat}
    (decodes : world.decodes token = true) (isExp : token.exp = some exp) :
    token ∈ world.issued ∧ world.now < exp := by
  simp only [World.decodes, isExp, Option.all_some, Bool.and_eq_true, decide_eq_true_eq] at decodes
  exact decodes

/-- Nobody gets to claim the id of an expired token any more. -/
theorem unpending_of_expired (consistent : start.Consistent)
    (run : Reaches (server settings) keepsPendingClaims (Config.start start) before)
    (step : Step (server settings) keepsPendingClaims before after) {token : Payload}
    {jti exp : Nat} (signed : token ∈ before.state.issued) (isJti : token.jti = some jti)
    (isExp : token.exp = some exp) (expired : exp < before.state.now)
    (unpending : ∀ index, ¬ Pending before index jti) (index : Nat) :
    ¬ Pending after index jti := by
  intro pending
  rcases pending.earlier run step with already | ⟨other, answers, isJti'⟩
  · exact unpending index already
  · have possible := List.mem_singleton.mp answers.possible
    have decodes : before.state.decodes other = true := (Prod.mk.inj possible).1.symm
    have sameToken := (run_sound consistent run).consistent.sameToken
    have member : other ∈ before.state.issued := by
      simp only [World.decodes, Bool.and_eq_true, decide_eq_true_eq] at decodes
      exact decodes.1
    obtain rfl := sameToken other member token signed jti isJti' isJti
    have unexpired := (decodes_unexpired decodes isExp).2
    omega

theorem Spent.step (consistent : start.Consistent)
    (run : Reaches (server settings) keepsPendingClaims (Config.start start) before)
    (step : Step (server settings) keepsPendingClaims before after) {jti : Nat}
    (spent : Spent before jti) : Spent after jti := by
  obtain ⟨token, exp, signed, isJti, isExp, claimed | ⟨expired, unpending⟩⟩ := spent
  · obtain ⟨row, member, sameJti⟩ := claimed
    have advance := step_advance step
    have kept (unchanged : row ∈ after.state.consumed) : Spent after jti :=
      ⟨token, exp, advance.issued token signed, isJti, isExp, Or.inl ⟨row, unchanged, sameJti⟩⟩
    rcases step.cases_answers with ⟨-, unanswered⟩ | ⟨index, event, answers⟩
    · apply kept
      rcases unanswered with same | ⟨disturbance, disturbed⟩
      · rw [same]
        exact member
      · rw [disturbed]
        cases disturbance <;> exact member
    · cases outcomes_claims index event.1 before.state _ answers.possible with
      | same unchanged =>
        apply kept
        rw [unchanged]
        exact member
      | claimed newRow isCall unclaimed added =>
        apply kept
        rw [added]
        exact List.mem_cons_of_mem _ member
      | purged isCall remaining =>
        by_cases doomed : row ∈ before.state.expiredClaims
        · have isExpiry := (run_sound consistent run).consistent.claimExpiry row member token signed
            (by rw [sameJti]; exact isJti)
          obtain rfl := Option.some.inj (isExp.symm.trans isExpiry)
          have expired : row.expiresAt < before.state.now := expired_of_doomed doomed
          have unpending : ∀ actor, ¬ Pending before actor jti := by
            rw [← sameJti]
            exact answers.permitted isCall row doomed
          exact ⟨token, _, advance.issued token signed, isJti, isExp,
            Or.inr ⟨Nat.lt_of_lt_of_le expired advance.now,
              unpending_of_expired consistent run step signed isJti isExp expired unpending⟩⟩
        · apply kept
          rw [remaining]
          simpa using ⟨member, doomed⟩
  · have advance := step_advance step
    exact ⟨token, exp, advance.issued token signed, isJti, isExp,
      Or.inr ⟨Nat.lt_of_lt_of_le expired advance.now,
        unpending_of_expired consistent run step signed isJti isExp expired unpending⟩⟩

/-- Nobody wins the claim of an id that is spent. -/
theorem Spent.unwon (run : Reaches (server settings) keepsPendingClaims (Config.start start) before)
    {row : ClaimRow} {consumed : ConsumedRefreshToken} {index : Nat} (spent : Spent before row.jti)
    (answers : Answers (server settings) keepsPendingClaims before after index
      ⟨.insertClaim row, .ok (some consumed)⟩) : False := by
  obtain ⟨token, exp, -, -, -, ⟨claim, member, sameJti⟩ | ⟨-, unpending⟩⟩ := spent
  · have possible := answers.possible
    have claimed : (before.state.claimOf row.jti).isSome := by
      rw [World.claimOf, List.find?_isSome]
      exact ⟨claim, member, by simpa using sameJti⟩
    obtain ⟨found, isFound⟩ := Option.isSome_iff_exists.mp claimed
    simp only [server, outcomes, isFound, selected, List.mem_cons, List.not_mem_nil,
      or_false] at possible
    rcases possible with same | same <;> simp at same
  · obtain ⟨request, next, running⟩ := answers.running
    obtain ⟨token', rfl, isJti, -, -, -, -, decoded, -, unclaimed⟩ :=
      (run.disciplined (server_obeys settings) start).allows running
    exact unpending index ⟨token', row.clientIp, _, running, answers.isRunning, isJti, decoded,
      unclaimed⟩

/-- The id of a won claim is spent. -/
theorem spent_of_won
    (run : Reaches (server settings) keepsPendingClaims (Config.start start) before)
    {row : ClaimRow} {consumed : ConsumedRefreshToken} {index : Nat}
    (answers : Answers (server settings) keepsPendingClaims before after index
      ⟨.insertClaim row, .ok (some consumed)⟩) : Spent after row.jti := by
  obtain ⟨request, next, running⟩ := answers.running
  obtain ⟨token, -, isJti, isExp, -, -, -, decoded, -, -⟩ :=
    (run.disciplined (server_obeys settings) start).allows running
  have signed := (step_advance answers.step).issued token (signed_of_decoded run decoded)
  refine ⟨token, row.expiresAt, signed, isJti, isExp, Or.inl ⟨row.consumed before.state.now, ?_, rfl⟩⟩
  have possible := answers.possible
  simp only [server, outcomes] at possible
  split at possible
  · simp only [selected, List.mem_cons, List.not_mem_nil, or_false] at possible
    rcases possible with same | same <;> simp at same
  · simp only [committed, List.mem_cons, List.not_mem_nil, or_false] at possible
    rcases possible with same | same | same
    · rw [(Prod.mk.inj same).2]
      exact List.mem_cons_self
    · simp at same
    · simp at same

theorem HasWon.earlier {thread index jti : Nat} {event : Event}
    (answers : Answers (server settings) keepsPendingClaims before after thread event)
    (won : HasWon after index jti) : HasWon before index jti ∨
      ∃ row consumed, row.jti = jti ∧ thread = index ∧
        event = ⟨.insertClaim row, .ok (some consumed)⟩ := by
  obtain ⟨row, consumed, isJti, member⟩ := won
  by_cases isIndex : thread = index
  · subst isIndex
    rw [answers.trace_self] at member
    rcases List.mem_cons.mp member with same | old
    · exact Or.inr ⟨row, consumed, isJti, rfl, same.symm⟩
    · exact Or.inl ⟨row, consumed, isJti, old⟩
  · rw [answers.trace_ne isIndex] at member
    exact Or.inl ⟨row, consumed, isJti, member⟩

/-- At most one thread ever wins the claim of an id, and the id is spent from then on. -/
theorem won_once (consistent : start.Consistent)
    (run : Reaches (server settings) keepsPendingClaims (Config.start start) config) (jti : Nat) :
    (∀ index, HasWon config index jti → Spent config jti) ∧
      ∀ first second, HasWon config first jti → HasWon config second jti → first = second := by
  refine run.preserves (fun config => (∀ index, HasWon config index jti → Spent config jti) ∧
      ∀ first second, HasWon config first jti → HasWon config second jti → first = second)
    ?_ fun before after earlier holds step => ?_
  · simp [HasWon, Config.trace_start]
  · obtain ⟨spent, once⟩ := holds
    rcases step.cases_answers with ⟨history, -⟩ | ⟨thread, event, answers⟩
    · have same (index : Nat) (won : HasWon after index jti) : HasWon before index jti := by
        unfold HasWon at won ⊢
        rw [Config.trace_of_history history] at won
        exact won
      exact ⟨fun index won => (spent index (same index won)).step consistent earlier step,
        fun first second won won' => once first second (same first won) (same second won')⟩
    · have unspent {index : Nat} {row : ClaimRow} {consumed : ConsumedRefreshToken}
          (isJti : row.jti = jti) (isEvent : event = ⟨.insertClaim row, .ok (some consumed)⟩)
          (won : HasWon before index jti) : False := by
        subst isEvent
        have isSpent := spent index won
        rw [← isJti] at isSpent
        exact isSpent.unwon earlier answers
      refine ⟨fun index won => ?_, fun first second won won' => ?_⟩
      · rcases won.earlier answers with old | ⟨row, consumed, rfl, -, rfl⟩
        · exact (spent index old).step consistent earlier step
        · exact spent_of_won earlier answers
      · rcases won.earlier answers with old | ⟨row, consumed, isJti, isThread, isEvent⟩
        · rcases won'.earlier answers with old' | ⟨row, consumed, isJti, -, isEvent⟩
          · exact once first second old old'
          · exact (unspent isJti isEvent old).elim
        · rcases won'.earlier answers with old' | ⟨-, -, -, isThread', -⟩
          · exact (unspent isJti isEvent old').elim
          · exact isThread.symm.trans isThread'

/-- As long as no claim is purged while a rotation of its token is between decoding and claiming,
at most one presentation of a refresh token returns a new pair. -/
theorem refresh_single_use (settings : Settings) (start : World) (consistent : start.Consistent)
    {config : Server}
    (run : Reaches (server settings) keepsPendingClaims (Config.start start) config)
    (token : Payload) : {index | Rotates config index token}.Subsingleton := by
  have disciplined := run.disciplined (server_obeys settings) start
  have won {index : Nat} (rotated : Rotates config index token) :
      ∃ jti, token.jti = some jti ∧ HasWon config index jti := by
    obtain ⟨thread, clientIp, pair, present, isRequest, finished⟩ := rotated
    have returned := disciplined.returned present finished
    rw [isRequest] at returned
    obtain ⟨-, -, row, consumed, isJti, member⟩ := returned.2 pair rfl
    exact ⟨row.jti, isJti, row, consumed, rfl, member⟩
  intro first rotated second rotated'
  obtain ⟨jti, isJti, hasWon⟩ := won rotated
  obtain ⟨jti', isJti', hasWon'⟩ := won rotated'
  obtain rfl := Option.some.inj (isJti.symm.trans isJti')
  exact (won_once consistent run jti).2 first second hasWon hasWon'

end Runs

theorem rotates_of_returned {config : Server} {index : Nat} {token : Payload}
    (clientIp : Option String) (pair : Payload × Payload)
    (isRequest : (config.threads[index]?).map Thread.request = some (.refresh token clientIp))
    (finished : (config.threads[index]?).bind Thread.result =
      some (.ok (.tokens (some pair)))) : Rotates config index token := by
  obtain ⟨thread, present, same⟩ := Option.map_eq_some_iff.mp isRequest
  rw [present] at finished
  exact ⟨thread, clientIp, pair, present, same, finished⟩

/-- Ann's refresh token is presented twice at the same time, and the purge finds nothing. -/
def annRace : List (Move Request Disturbance) :=
  .begin (.login ann.email "first") :: runs 0 13 ++
    .begin (.refresh (annsToken .refresh 3 1 0 0 4600) none) ::
    .begin (.refresh (annsToken .refresh 3 1 0 0 4600) none) ::
    runs 1 3 ++ runs 2 5 ++ .begin (.purgeConsumedRefreshTokens 2) :: runs 3 1 ++
    runs 1 5 ++ runs 2 10

theorem refresh_single_use_race : Rotates (Server.after (.start annsStore) annRace) 2
      (annsToken .refresh 3 1 0 0 4600) ∧
    {index | Rotates (Server.after (.start annsStore) annRace) index
      (annsToken .refresh 3 1 0 0 4600)}.Subsingleton := by
  have run : Reaches (server sampleSettings) keepsPendingClaims (Config.start annsStore)
      (Server.after (.start annsStore) annRace) := by
    refine Config.follow_permitted (server sampleSettings) (fun config _ event =>
      decide (event.1 ≠ .deleteExpiredClaims) || config.state.expiredClaims.isEmpty) ?_ _ _ ?_
    · intro config thread event passed isPurge row member
      have nothing : config.state.expiredClaims = [] := by simpa [isPurge] using passed
      simp [nothing] at member
    · decide +kernel
  refine ⟨rotates_of_returned none (annsToken .access 4 1 0 0 1900, annsToken .refresh 5 1 0 0 4600)
    ?_ ?_, refresh_single_use sampleSettings annsStore annsStore_consistent run _⟩
  all_goals decide +kernel

/-- A second presentation decodes the token just before it expires; the first one's claim is then
purged before the second one makes its own. -/
def annRotatesTwice : Server :=
  Server.after (.start annsStore)
    (.begin (.login ann.email "first") :: runs 0 13 ++
      .begin (.refresh (annsToken .refresh 3 1 0 0 4600) none) :: runs 1 15 ++
      .begin (.refresh (annsToken .refresh 3 1 0 0 4600) none) :: runs 2 1 ++
      .disturb (.elapse 4000) ::
      .begin (.purgeConsumedRefreshTokens 1) :: runs 3 1 ++ runs 2 14)

theorem refresh_used_twice :
    Reaches (server sampleSettings) anyCall (Config.start annsStore) annRotatesTwice ∧
      Rotates annRotatesTwice 1 (annsToken .refresh 3 1 0 0 4600) ∧
      Rotates annRotatesTwice 2 (annsToken .refresh 3 1 0 0 4600) := by
  refine ⟨Server.after_reaches _ _,
    rotates_of_returned none (annsToken .access 4 1 0 0 1900, annsToken .refresh 5 1 0 0 4600)
      ?_ ?_,
    rotates_of_returned none (annsToken .access 6 1 0 0 5900, annsToken .refresh 7 1 0 0 8600)
      ?_ ?_⟩
  all_goals decide +kernel

end MysticAuth.Tokens
