import MysticAuth.Tokens.Lineage

/-!
# Logout

A logout ends the chain of the mirror row it finds under the id of the
presented token.  Where that is the token's own chain, no token signed before
the logout returned is accepted again.
-/

set_option autoImplicit false

namespace MysticAuth.Tokens

open Interleaving

/-- An unfinished logout has bumped the chain of its token. -/
def LoggingOut (config : Server) (index : Nat) (email : String) (chainId : Nat) : Prop :=
  ∃ token program, config.threads[index]? = some ⟨.logout (some token), program⟩ ∧
    config.Running index ∧ token.email = some email ∧ token.chain = some chainId ∧
    Bumped (config.trace index) (.chain email chainId)

/-- Every logout of the run decodes its token before it expires, and its first lookup under the
token's id gets the row of the token's chain; and while any logout has bumped a chain and not
returned, no password change reads versions for that chain. -/
def findsSession (config : Server) (index : Nat) (event : Event) : Prop :=
  (∀ token program, config.threads[index]? = some ⟨.logout (some token), program⟩ →
    (event.1 = .decode token → token ∈ config.state.issued → config.state.decodes token = true) ∧
    ∀ jti, token.jti = some jti → event.1 = .selectSessionByJti jti →
      (∀ reply, ⟨.selectSessionByJti jti, reply⟩ ∉ config.trace index) →
        failed event = false ∧
          (config.state.sessionByJti jti).bind UserSession.chainId = token.chain) ∧
  ∀ email chainId, ReadsForChain config index event email chainId →
    ∀ other, ¬ LoggingOut config other email chainId

section Runs

variable {settings : Settings} {start : World} {before after config config' : Server}

theorem answered_decode {permits : Server → Nat → Event → Prop} {index : Nat}
    {token : Payload} {valid : Bool}
    (answers : Answers (server settings) permits before after index ⟨.decode token, valid⟩) :
    valid = before.state.decodes token :=
  (Prod.mk.inj (List.mem_singleton.mp answers.possible)).1

/-- A logout of a token that was signed before it began has decoded the token. -/
theorem logout_decodes {begun : Server}
    (run : Reaches (server settings) findsSession (Config.start start) begun)
    (rest : Reaches (server settings) findsSession begun config) {index : Nat}
    (fresh : begun.threads.length ≤ index) {token : Payload}
    (signed : token ∈ begun.state.issued) {program : Service Response}
    (logout : config.threads[index]? = some ⟨.logout (some token), program⟩) {valid : Bool}
    (decoded : ⟨.decode token, valid⟩ ∈ config.trace index) : valid = true := by
  obtain ⟨before, after, first, answers, last⟩ :=
    rest.answered_of_fresh (run.attributed (Config.attributed_start start)) fresh decoded
  obtain ⟨next, running⟩ := answers.running_as last logout
  have stillSigned := (run_advance first).issued token signed
  rw [answered_decode answers]
  exact (answers.permitted.1 token _ running).1 rfl stillSigned

/-- The first lookup of a logout answers with a row of the token's chain. -/
theorem logout_finds {index jti chainId : Nat} {token : Payload}
    {reply : Except ServiceError (Option UserSession)} {program : Service Response}
    (answers : Answers (server settings) findsSession before after index
      ⟨.selectSessionByJti jti, reply⟩)
    (rest : Reaches (server settings) findsSession after config)
    (logout : config.threads[index]? = some ⟨.logout (some token), program⟩)
    (isJti : token.jti = some jti) (isChain : token.chain = some chainId)
    (first : ∀ reply', ⟨.selectSessionByJti jti, reply'⟩ ∉ before.trace index) :
    ∃ session, reply = .ok (some session) ∧ session.chainId = some chainId := by
  obtain ⟨next, running⟩ := answers.running_as rest logout
  obtain ⟨reached, found⟩ := (answers.permitted.1 token _ running).2 jti isJti rfl first
  rw [isChain] at found
  obtain ⟨session, isSession, sameChain⟩ := Option.bind_eq_some_iff.mp found
  have possible := answers.possible
  simp only [server, outcomes, selected, List.mem_cons, List.not_mem_nil, or_false] at possible
  rcases possible with same | same
  · refine ⟨session, ?_, sameChain⟩
    rw [← isSession]
    exact (Prod.mk.inj same).1
  · have isFailure : reply = .error .databaseError := (Prod.mk.inj same).1
    simp [isFailure, failed] at reached

/-- The chain bumped by a logout stays retired as long as the logout is unfinished. -/
theorem Retired.whileLogout {email : String} {chainId bound index : Nat} {token : Payload}
    {program : Service Response} (consistent : start.Consistent)
    (run : Reaches (server settings) findsSession (Config.start start) before)
    (rest : Reaches (server settings) findsSession before config)
    (unfinished : config.Running index)
    (logout : config.threads[index]? = some ⟨.logout (some token), program⟩)
    (isEmail : token.email = some email) (isChain : token.chain = some chainId)
    (bumped : Bumped (before.trace index) (.chain email chainId))
    (retired : Retired before email chainId bound) : Retired config email chainId bound := by
  have begun : index < before.threads.length := by
    obtain ⟨version, stored, member⟩ := bumped
    exact (run.attributed (Config.attributed_start start)).begun member
  refine rest.preserves_between (fun config => Retired config email chainId bound) retired ?_
  intro middle next first holds step last
  refine holds.step consistent (run.trans first) step fun actor event answers reads => ?_
  have begun' : index < middle.threads.length := Nat.lt_of_lt_of_le begun first.threads_length
  have toEnd : Reaches (server settings) findsSession middle config := .head step last
  obtain ⟨program', present⟩ := toEnd.present_before begun' logout
  exact answers.permitted.2 email chainId reads index ⟨token, program', present,
    toEnd.running begun' unfinished, isEmail, isChain, bumped.extend (first.trace_suffix index)⟩

/-- A logout that reports a revoked session has bumped the chain of its token. -/
theorem logout_bumps {begun : Server}
    (run : Reaches (server settings) findsSession (Config.start start) begun)
    {token : Payload} {email : String} {chainId jti : Nat} (signed : token ∈ begun.state.issued)
    (isRefresh : token.type = .refresh) (isEmail : token.email = some email)
    (isChain : token.chain = some chainId) (isJti : token.jti = some jti) {index : Nat}
    (fresh : begun.threads.length ≤ index)
    (rest : Reaches (server settings) findsSession begun config) {program : Service Response}
    (logout : config.threads[index]? = some ⟨.logout (some token), program⟩)
    (revoked : Thread.result (⟨.logout (some token), program⟩ :
      Thread Request Reply ServiceError Response) = some (.ok (.loggedOut (some true)))) :
    ∃ version stored middle, ⟨.upsertVersion (.chain email chainId) version, .ok stored⟩ :: middle <:+
      config.trace index ∧ ⟨.decode token, true⟩ ∈ middle := by
  have whole : Reaches (server settings) findsSession (Config.start start) config := run.trans rest
  obtain ⟨⟨valid, decoded⟩, loggedOut⟩ :=
    (whole.disciplined (server_obeys settings) start).returned logout revoked
  obtain rfl := logout_decodes run rest fresh signed logout decoded
  obtain ⟨reply, earlier, within, first, decodedFirst, bumps⟩ :=
    loggedOut rfl jti email isJti isEmail isRefresh decoded
  obtain ⟨beforeLookup, afterLookup, -, answers, isEarlier, fromLookup⟩ := whole.answered within
  rw [← isEarlier] at first
  obtain ⟨row, isReply, ofRow⟩ := logout_finds answers fromLookup logout isJti isChain first
  obtain ⟨version, stored, middle, withinBump, longer⟩ := bumps row chainId isReply ofRow
  exact ⟨version, stored, middle, withinBump, longer.subset decodedFirst⟩

/-- When a logout of a signed refresh token has returned that the session is revoked, no token of
the chain that was signed while the logout was unfinished, or before, is accepted by a
verification or a rotation that begins afterwards. -/
theorem logout_ends_session (settings : Settings) (start : World) (consistent : start.Consistent)
    {begun unfinished returned later : Server}
    (run : Reaches (server settings) findsSession (Config.start start) begun)
    {token : Payload} {email : String} {chainId jti : Nat} (signed : token ∈ begun.state.issued)
    (isRefresh : token.type = .refresh) (isEmail : token.email = some email)
    (isChain : token.chain = some chainId) (isJti : token.jti = some jti) {index : Nat}
    (fresh : begun.threads.length ≤ index)
    (serving : Reaches (server settings) findsSession begun unfinished)
    (running : unfinished.Running index)
    (finishing : Reaches (server settings) findsSession unfinished returned)
    {program : Service Response}
    (logout : returned.threads[index]? = some ⟨.logout (some token), program⟩)
    (revoked : Thread.result (⟨.logout (some token), program⟩ :
      Thread Request Reply ServiceError Response) = some (.ok (.loggedOut (some true))))
    (rest : Reaches (server settings) findsSession returned later)
    {descendant : Payload} (issued : descendant ∈ unfinished.state.issued)
    (ofEmail : descendant.email = some email) (ofChain : descendant.chain = some chainId)
    (session : descendant.type ≠ .other) {actor : Nat}
    (after : returned.threads.length ≤ actor) : ¬ Accepts later actor descendant := by
  have toUnfinished : Reaches (server settings) findsSession (Config.start start) unfinished :=
    run.trans serving
  have whole : Reaches (server settings) findsSession (Config.start start) returned :=
    toUnfinished.trans finishing
  obtain ⟨version, stored, middle, within, decoded⟩ := logout_bumps run signed isRefresh isEmail
    isChain isJti fresh (serving.trans finishing) logout revoked
  refine unaccepted_of_older whole rest after ofEmail ofChain session fun old isOld => ?_
  by_cases already : ⟨.upsertVersion (.chain email chainId) version, .ok stored⟩ :: middle <:+
      unfinished.trace index
  · obtain ⟨beforeBump, afterBump, toBump, bump, isMiddle, fromBump⟩ := toUnfinished.answered already
    rw [← isMiddle] at decoded
    have retired := (bumps_of_acknowledged bump).retires consistent toBump
      ⟨token, signed_of_decoded toBump decoded, isChain⟩
    have bumped : Bumped (afterBump.trace index) (.chain email chainId) :=
      ⟨version, stored, by rw [bump.trace_self]; exact List.mem_cons_self⟩
    have begunThread : index < unfinished.threads.length := by
      obtain ⟨thread, present, -⟩ := running
      exact (List.getElem?_eq_some_iff.mp present).1
    obtain ⟨program', present⟩ := finishing.present_before begunThread logout
    have still := retired.whileLogout consistent (toBump.tail bump.step) fromBump running present
      isEmail isChain bumped
    have below := still.issued descendant issued ofEmail ofChain old isOld
    exact Nat.lt_of_lt_of_le below
      (still.reached.trans ((run_advance finishing).version _))
  · obtain ⟨beforeBump, afterBump, toBump, bump, -, fromBump⟩ :=
      finishing.answered_within within already
    have toBump' := toUnfinished.trans toBump
    have raised := (bumps_of_acknowledged bump).raises toBump'
    have reached := (run_sound consistent toBump').consistent.chainVer descendant
      ((run_advance toBump).issued descendant issued) email chainId old ofEmail ofChain isOld
    have current := (run_advance fromBump).version (.chain email chainId)
    omega

end Runs

/-! Ann signs in and out again. -/

def annSigningIn : List (Move Request Disturbance) :=
  .begin (.login ann.email "first") :: runs 0 13

def annBeforeLogout : Server :=
  Server.after (.start annsStore) annSigningIn

def annSigningOut : List (Move Request Disturbance) :=
  .begin (.logout (some (annsToken .refresh 3 1 0 0 4600))) :: runs 1 6

def annLogoutUnfinished : Server :=
  annBeforeLogout.after annSigningOut

def annLoggedOut : Server :=
  annLogoutUnfinished.after (runs 1 1)

def annVerifying : List (Move Request Disturbance) :=
  .begin (.verify (annsToken .access 2 1 0 0 1900) none) :: runs 2 4

/-- The conditions on a logout, and no password change at all. -/
def findsSessionCheck (config : Server) (index : Nat) (event : Event) : Bool :=
  match (config.threads[index]?).map Thread.request with
  | some (.logout (some token)) =>
      (decide (event.1 ≠ .decode token) || config.state.decodes token) &&
        match event.1 with
        | .selectSessionByJti jti => !failed event &&
            decide ((config.state.sessionByJti jti).bind UserSession.chainId = token.chain)
        | _ => true
  | some request => !request.isPasswordChange
  | none => true

theorem findsSession_of_check (config : Server) (index : Nat) (event : Event)
    (passed : findsSessionCheck config index event = true) : findsSession config index event := by
  refine ⟨fun token program logout => ?_, fun email chainId reads other _ => ?_⟩
  · simp only [findsSessionCheck, logout, Option.map_some, Bool.and_eq_true, Bool.or_eq_true,
      decide_eq_true_eq] at passed
    refine ⟨fun isDecode _ => ?_, fun jti _ isLookup _ => ?_⟩
    · exact passed.1.resolve_left (absurd isDecode)
    · have found := passed.2
      simpa [isLookup] using found
  · obtain ⟨-, ⟨request, program⟩, present, isChange⟩ := reads
    simp only [findsSessionCheck, present, Option.map_some] at passed
    cases request <;> simp_all [Request.isPasswordChange]

theorem findsSession_after (config : Server) (moves : List (Move Request Disturbance))
    (passed : config.passes (server sampleSettings) findsSessionCheck moves = true) :
    Reaches (server sampleSettings) findsSession config (config.after moves) :=
  Config.follow_permitted _ _ findsSession_of_check config moves passed

theorem logout_ends_session_signedOut :
    ¬ Accepts (annLoggedOut.after annVerifying) 2 (annsToken .access 2 1 0 0 1900) := by
  obtain ⟨program, logout, revoked⟩ := Config.finished_of_result annLoggedOut 1
    (.logout (some (annsToken .refresh 3 1 0 0 4600))) (.ok (.loggedOut (some true)))
    (by decide +kernel) (by decide +kernel)
  have running : annLogoutUnfinished.Running 1 := by
    have unfinished : (annLogoutUnfinished.threads[1]?).map Thread.result = some none := by
      decide +kernel
    exact Option.map_eq_some_iff.mp unfinished
  exact logout_ends_session sampleSettings annsStore annsStore_consistent
    (findsSession_after (.start annsStore) annSigningIn (by decide +kernel))
    (by decide +kernel) rfl rfl rfl rfl (by decide +kernel)
    (findsSession_after annBeforeLogout annSigningOut (by decide +kernel)) running
    (findsSession_after annLogoutUnfinished (runs 1 1) (by decide +kernel)) logout revoked
    (findsSession_after annLoggedOut annVerifying (by decide +kernel)) (by decide +kernel) rfl rfl
    (by decide) (by decide +kernel)

/-! A rotation has moved the row when the logout looks for it under the old id. -/

def annLogoutLate : Server :=
  annBeforeLogout.after (.begin (.refresh (annsToken .refresh 3 1 0 0 4600) none) :: runs 1 15 ++
    .begin (.logout (some (annsToken .refresh 3 1 0 0 4600))) :: runs 2 3)

/-- The logout reports that it has revoked the session, and the rotated access token, signed
before it began, is accepted afterwards. -/
theorem logout_misses_rotated_session :
    Reaches (server sampleSettings) anyCall (Config.start annsStore) annLogoutLate ∧
      annsToken .access 4 1 0 0 1900 ∈ annLogoutLate.state.issued ∧
      (annLogoutLate.threads[2]?).map Thread.request =
        some (.logout (some (annsToken .refresh 3 1 0 0 4600))) ∧
      (annLogoutLate.threads[2]?).bind Thread.result = some (.ok (.loggedOut (some true))) ∧
      annLogoutLate.threads.length ≤ 3 ∧
      Accepts (annLogoutLate.after (.begin (.verify (annsToken .access 4 1 0 0 1900) none) ::
        runs 3 4)) 3 (annsToken .access 4 1 0 0 1900) := by
  refine ⟨(Server.after_reaches _ _).trans (Server.after_reaches _ _), ?_, ?_, ?_, ?_,
    accepts_of_verified none (annsToken .access 4 1 0 0 1900) ?_ ?_⟩
  all_goals decide +kernel

end MysticAuth.Tokens
