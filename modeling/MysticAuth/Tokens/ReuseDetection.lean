import MysticAuth.Tokens.Lineage

/-!
# Reuse of a refresh token

A second client that presents a claimed refresh token ends the whole chain,
wherever the first client's rotation has got to.
-/

set_option autoImplicit false

namespace MysticAuth.Tokens

open Interleaving

/-- No claim is purged, and no password change continues the chain with new versions. -/
def onlyPresents (email : String) (chainId : Nat) (config : Server) (index : Nat)
    (event : Event) : Prop :=
  event.1 ≠ .deleteExpiredClaims ∧ ¬ ReadsForChain config index event email chainId

/-- A presentation of the token by this client has won its claim. -/
def WinsClaim (config : Server) (index : Nat) (token : Payload) (clientIp : Option String) : Prop :=
  ∃ program row consumed, config.threads[index]? = some ⟨.refresh token clientIp, program⟩ ∧
    ⟨.insertClaim row, .ok (some consumed)⟩ ∈ config.trace index

/-- A presentation of the token by this client has lost its claim to an earlier one, reached every
store it called, and returned. -/
def LosesClaim (config : Server) (index : Nat) (token : Payload) (clientIp : Option String) : Prop :=
  ∃ program row result, config.threads[index]? = some ⟨.refresh token clientIp, program⟩ ∧
    ⟨.insertClaim row, .ok none⟩ ∈ config.trace index ∧ ¬ Failed (config.trace index) ∧
    Thread.result (⟨.refresh token clientIp, program⟩ : Thread Request Reply ServiceError Response) =
      some result

section Runs

variable {settings : Settings} {permits : Server → Nat → Event → Prop}
variable {start : World} {before after config config' : Server}

theorem claim_persists (run : Reaches (server settings) permits config config')
    (unpurged : ∀ config index event, permits config index event →
      event.1 ≠ .deleteExpiredClaims) {row : ConsumedRefreshToken}
    (member : row ∈ config.state.consumed) : row ∈ config'.state.consumed := by
  refine run.preserves (fun config => row ∈ config.state.consumed) member ?_
  intro before after _ holds step
  rcases step.cases_answers with ⟨-, unanswered⟩ | ⟨index, event, answers⟩
  · rcases unanswered with same | ⟨disturbance, disturbed⟩
    · rw [same]
      exact holds
    · rw [disturbed]
      cases disturbance <;> exact holds
  · cases outcomes_claims index event.1 before.state _ answers.possible with
    | same unchanged =>
      rw [unchanged]
      exact holds
    | claimed newRow isCall unclaimed added =>
      rw [added]
      exact List.mem_cons_of_mem _ holds
    | purged isCall kept => exact absurd isCall (unpurged _ _ _ answers.permitted)

theorem claimed_of_lost {row : ClaimRow} {index : Nat}
    (answers : Answers (server settings) permits before after index ⟨.insertClaim row, .ok none⟩) :
    ∃ claim ∈ before.state.consumed, claim.jti = row.jti := by
  cases found : before.state.claimOf row.jti with
  | some claim => exact ⟨claim, List.mem_of_find?_eq_some found, by
      have isJti := List.find?_some found
      exact beq_iff_eq.mp isJti⟩
  | none =>
    have possible := answers.possible
    simp only [server, outcomes, found, committed, List.mem_cons, List.not_mem_nil,
      or_false] at possible
    rcases possible with same | same | same <;> simp at same

theorem answered_claim {jti index : Nat} {found : Option ConsumedRefreshToken}
    (answers : Answers (server settings) permits before after index ⟨.selectClaim jti, .ok found⟩) :
    found = before.state.claimOf jti := by
  have possible := answers.possible
  simp only [server, outcomes, selected, List.mem_cons, List.not_mem_nil, or_false] at possible
  rcases possible with same | same
  · exact Except.ok.inj (Prod.mk.inj same).1
  · simp at same

/-- A claim that was in the way stays there. -/
theorem unvanished (run : Reaches (server settings) permits (Config.start start) config)
    (unpurged : ∀ config index event, permits config index event →
      event.1 ≠ .deleteExpiredClaims) {row : ClaimRow} {index : Nat} :
    ¬ Vanished (config.trace index) row := by
  rintro ⟨earlier, within, lost⟩
  obtain ⟨before, after, first, answers, isEarlier, -⟩ := run.answered within
  rw [← isEarlier] at lost
  obtain ⟨before', after', -, answers', rest⟩ := first.answered_member lost
  obtain ⟨claim, member, isJti⟩ := claimed_of_lost answers'
  have kept := claim_persists (.head answers'.step rest) unpurged member
  have missing := (answered_claim answers).symm
  exact not_claimed before.state row.jti missing claim kept isJti

/-- The row of a won claim carries the id of the token and the address of the client. -/
theorem claimed_of_won (run : Reaches (server settings) permits (Config.start start) config)
    (unpurged : ∀ config index event, permits config index event →
      event.1 ≠ .deleteExpiredClaims) {index : Nat} {token : Payload} {clientIp : Option String}
    (wins : WinsClaim config index token clientIp) :
    ∃ claim ∈ config.state.consumed, token.jti = some claim.jti ∧ claim.clientIp = clientIp := by
  obtain ⟨program, row, consumed, present, member⟩ := wins
  obtain ⟨before, after, first, answers, rest⟩ := run.answered_member member
  obtain ⟨next, running⟩ := answers.running_as rest present
  obtain ⟨token', isRequest, isJti, -⟩ :=
    (first.disciplined (server_obeys settings) start).allows running
  obtain ⟨rfl, isIp⟩ := Request.refresh.inj isRequest
  have claimed := outcomes_claims index (.insertClaim row) before.state _ answers.possible
  have possible := answers.possible
  refine ⟨row.consumed before.state.now, claim_persists rest unpurged ?_, isJti, isIp.symm⟩
  simp only [server, outcomes] at possible
  split at possible
  · simp only [selected, List.mem_cons, List.not_mem_nil, or_false] at possible
    rcases possible with same | same <;> simp at same
  · simp only [committed, List.mem_cons, List.not_mem_nil, or_false] at possible
    rcases possible with same | same | same
    · rw [(Prod.mk.inj same).2]
      exact List.mem_cons_self
    · simp at same
    · simp at same

/-- Who loses the claim to another client bumps the chain. -/
theorem bumped_of_loss (consistent : start.Consistent)
    (run : Reaches (server settings) permits (Config.start start) config)
    (unpurged : ∀ config index event, permits config index event →
      event.1 ≠ .deleteExpiredClaims) {winner loser : Nat} {token : Payload}
    {winnerIp loserIp : Option String} (differ : winnerIp ≠ loserIp)
    (wins : WinsClaim config winner token winnerIp)
    (loses : LosesClaim config loser token loserIp) :
    ∃ email chainId earlier, token.email = some email ∧ token.chain = some chainId ∧
      ⟨.decode token, true⟩ ∈ earlier ∧
      BumpedAfter earlier (config.trace loser) (.chain email chainId) := by
  obtain ⟨claim, member, isJti, isIp⟩ := claimed_of_won run unpurged wins
  obtain ⟨program, row, result, present, lost, reached, finished⟩ := loses
  obtain ⟨excused, -⟩ :=
    (run.disciplined (server_obeys settings) start).returned present finished
  rcases excused row lost with isFailed | vanished | ⟨consumed, found, sameIp⟩ | bumped
  · exact absurd isFailed reached
  · exact absurd vanished (unvanished run unpurged)
  · obtain ⟨before, after, first, answers, rest⟩ := run.answered_member lost
    obtain ⟨next, running⟩ := answers.running_as rest present
    obtain ⟨token', isRequest, isJti', -⟩ :=
      (first.disciplined (server_obeys settings) start).allows running
    obtain ⟨rfl, -⟩ := Request.refresh.inj isRequest
    obtain ⟨before', after', -, answers', rest'⟩ := run.answered_member found
    have isFound := (answered_claim answers').symm
    have kept : consumed ∈ config.state.consumed :=
      claim_persists (.head answers'.step rest') unpurged (List.mem_of_find?_eq_some isFound)
    have isRow : consumed.jti = row.jti := by
      have matched := List.find?_some isFound
      exact beq_iff_eq.mp matched
    have sameJti := Option.some.inj (isJti.symm.trans isJti')
    have sameClaim := (run_sound consistent run).consistent.sameClaim claim member consumed kept
      (sameJti.trans isRow.symm)
    rw [sameClaim] at isIp
    exact absurd (isIp.symm.trans sameIp) differ
  · exact bumped

/-- Once a presentation that lost the claim to another client has returned, no token of the chain
is accepted by a verification or a rotation that begins later, whether it was signed before the
loss, between, or after. -/
theorem reuse_kills_lineage (settings : Settings) (start : World) (consistent : start.Consistent)
    {config config' : Server} {email : String} {chainId : Nat}
    (run : Reaches (server settings) (onlyPresents email chainId) (Config.start start) config)
    (rest : Reaches (server settings) (onlyPresents email chainId) config config')
    {token : Payload} (isEmail : token.email = some email) (isChain : token.chain = some chainId)
    {winner loser : Nat} {winnerIp loserIp : Option String} (differ : winnerIp ≠ loserIp)
    (wins : WinsClaim config winner token winnerIp)
    (loses : LosesClaim config loser token loserIp)
    {descendant : Payload} (ofEmail : descendant.email = some email)
    (ofChain : descendant.chain = some chainId) (session : descendant.type ≠ .other)
    {index : Nat} (fresh : config.threads.length ≤ index) :
    ¬ Accepts config' index descendant := by
  obtain ⟨email', chainId', earlier, isEmail', isChain', decoded, version, stored, middle, within,
    after⟩ := bumped_of_loss consistent run (fun _ _ _ permitted => permitted.1) differ wins loses
  obtain rfl := Option.some.inj (isEmail.symm.trans isEmail')
  obtain rfl := Option.some.inj (isChain.symm.trans isChain')
  obtain ⟨beforeBump, afterBump, first, answers, isMiddle, rest'⟩ := run.answered within
  have decoded' : ⟨.decode token, true⟩ ∈ beforeBump.trace loser := by
    rw [isMiddle]
    exact after.subset decoded
  have opened : ∃ signed ∈ beforeBump.state.issued, signed.chain = some chainId :=
    ⟨token, signed_of_decoded first decoded', isChain⟩
  have retired := (bumps_of_acknowledged answers).retires consistent first opened
  have retired' := retired.persists consistent (first.tail answers.step) rest'
    fun _ _ _ permitted => permitted.2
  intro accepts
  have signed := (accepted_versions run rest fresh accepts session).1
  have last := retired'.persists consistent run rest fun _ _ _ permitted => permitted.2
  have below := last.issued descendant signed ofEmail ofChain
  exact unaccepted_of_older run rest fresh ofEmail ofChain session
    (fun version isVersion => Nat.lt_of_lt_of_le (below version isVersion) retired'.reached) accepts

end Runs

/-! Another client presents Ann's refresh token while her own rotation is still signing. -/

def annStolenSchedule : List (Move Request Disturbance) :=
  .begin (.login ann.email "first") :: runs 0 13 ++
    .begin (.refresh (annsToken .refresh 3 1 0 0 4600) (some "10.0.0.1")) :: runs 1 8 ++
    .begin (.refresh (annsToken .refresh 3 1 0 0 4600) (some "10.0.0.2")) :: runs 2 13

def annStolen : Server :=
  Server.after (.start annsStore) annStolenSchedule

def annStolenRest : List (Move Request Disturbance) :=
  runs 1 4 ++ .begin (.verify (annsToken .refresh 5 1 0 0 4600) none) :: runs 3 4

theorem onlyPresents_after (config : Server) (moves : List (Move Request Disturbance))
    (passed : config.passes (server sampleSettings) (fun config index event =>
      decide (event.1 ≠ .deleteExpiredClaims) &&
        !(config.threads[index]?).any (·.request.isPasswordChange)) moves = true) :
    Reaches (server sampleSettings) (onlyPresents ann.email 1) config (config.after moves) := by
  refine Config.follow_permitted _ _ ?_ config moves passed
  intro config index event passed
  simp only [Bool.and_eq_true, decide_eq_true_eq, Bool.not_eq_true'] at passed
  refine ⟨passed.1, fun ⟨_, thread, present, isChange⟩ => ?_⟩
  have notChange := passed.2
  simp [present, isChange] at notChange

theorem reuse_kills_lineage_whileSigning :
    ¬ Accepts (annStolen.after annStolenRest) 3 (annsToken .refresh 5 1 0 0 4600) := by
  obtain ⟨winning, isWinner⟩ := Config.present_of_request annStolen 1
    (.refresh (annsToken .refresh 3 1 0 0 4600) (some "10.0.0.1")) (by decide +kernel)
  obtain ⟨losing, isLoser, finished⟩ := Config.finished_of_result annStolen 2
    (.refresh (annsToken .refresh 3 1 0 0 4600) (some "10.0.0.2")) (.ok (.tokens none))
    (by decide +kernel) (by decide +kernel)
  let row (clientIp : String) : ClaimRow := ⟨3, 4600, some clientIp, 0, 0⟩
  have wins : WinsClaim annStolen 1 (annsToken .refresh 3 1 0 0 4600) (some "10.0.0.1") :=
    ⟨winning, row "10.0.0.1", ⟨3, 1000, 4600, some "10.0.0.1", 0, 0⟩, isWinner, by decide +kernel⟩
  have reached : ¬ Failed (annStolen.trace 2) := by
    unfold Failed
    decide +kernel
  have loses : LosesClaim annStolen 2 (annsToken .refresh 3 1 0 0 4600) (some "10.0.0.2") :=
    ⟨losing, row "10.0.0.2", _, isLoser, by decide +kernel, reached, finished⟩
  exact reuse_kills_lineage sampleSettings annsStore annsStore_consistent
    (onlyPresents_after (.start annsStore) annStolenSchedule (by decide +kernel))
    (onlyPresents_after annStolen annStolenRest (by decide +kernel)) rfl rfl (by decide) wins loses
    rfl rfl (by decide) (by decide +kernel)

end MysticAuth.Tokens
