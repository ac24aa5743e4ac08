import MysticAuth.Tokens.Lineage

/-!
# Credential checks and revocations

What is still accepted of an account after a revocation has bumped its version
was made by a sign-in or a password change that did nothing before the
revocation's write, unless one that had begun was still short of reading the
versions for its tokens.
-/

set_option autoImplicit false

namespace MysticAuth.Tokens

open Interleaving

/-- Password reset, administrator password change, self-service deletion, logout everywhere. -/
def Request.isRevocation : Request → Bool
  | .resetPassword _ _ => true
  | .updateAnyUser _ _ => true
  | .deleteMyAccount _ _ => true
  | .confirmDeletion _ _ => true
  | .logoutAll _ => true
  | _ => false

/-- The request checks credentials of the account and signs tokens for it. -/
def Request.SignsFor (email : String) : Request → Prop
  | .login address _ => address = email
  | .updateMyProfile accessToken _ _ => accessToken.email = some email
  | _ => False

def Call.writesUser : Call → Bool
  | setPassword _ _ => true
  | softDelete _ _ => true
  | _ => false

/-- What had been called when the revocation last wrote a user row, or everything so far if it has
written none. -/
def beforeWrite (revoker : Nat) (history : List (Nat × Event)) : List (Nat × Event) :=
  match history.dropWhile fun entry => !(entry.1 == revoker && entry.2.1.writesUser) with
  | [] => history
  | _ :: earlier => earlier

/-- What is too early for a credential check of the request.  A password change checks an access
token, which the bump revokes; a login checks only the user row. -/
def tooEarly (config : Server) (revoker : Nat) (request : Request) : List (Nat × Event) :=
  if request.isPasswordChange then config.history else beforeWrite revoker config.history

/-- When a revocation bumps an account, every unfinished login and password change of the account
that began too early has read the versions for both of its tokens. -/
def readsBeforeBump (config : Server) (index : Nat) (event : Event) : Prop :=
  ∀ request program, config.threads[index]? = some ⟨request, program⟩ →
    request.isRevocation = true → ∀ email version, event.1 = .upsertVersion (.account email) version →
      ∀ other request' program', config.threads[other]? = some ⟨request', program'⟩ →
        request'.SignsFor email → config.Running other →
          (∃ entry ∈ tooEarly config index request', entry.1 = other) →
            2 ≤ versionsReads (config.trace other)

section Runs

variable {settings : Settings} {start : World} {before after config : Server}

theorem beforeWrite_subset (revoker : Nat) (history : List (Nat × Event))
    (entry : Nat × Event) (member : entry ∈ beforeWrite revoker history) :
    entry ∈ history := by
  unfold beforeWrite at member
  split at member
  · exact member
  · rename_i write earlier dropped
    have suffix := List.dropWhile_suffix (l := history)
      fun entry => !(entry.1 == revoker && entry.2.1.writesUser)
    rw [dropped] at suffix
    exact suffix.subset (List.mem_cons_of_mem _ member)

theorem tooEarly_subset {revoker : Nat} {request : Request} {entry : Nat × Event}
    (member : entry ∈ tooEarly config revoker request) : entry ∈ config.history := by
  unfold tooEarly at member
  split at member
  · exact member
  · exact beforeWrite_subset revoker config.history entry member

theorem Request.Opens.signsFor {request : Request} {trace : Trace} {email : String} {chainId : Nat}
    (opens : request.Opens trace email chainId) : request.SignsFor email := by
  cases request with
  | login address password => exact opens.1
  | updateMyProfile accessToken currentPassword password => exact opens.1
  | _ => exact opens

/-- Versions that reach what a bump has set were read after it. -/
theorem read_after_bump
    (run : Reaches (server settings) readsBeforeBump (Config.start start) before) {revoker : Nat}
    {email : String} (bumps : Bumps settings readsBeforeBump before after revoker (.account email))
    (rest : Reaches (server settings) readsBeforeBump before config) {signer chainId : Nat}
    {accountVer chainVer : Nat}
    (read : ⟨.selectVersions email chainId, .ok (accountVer, chainVer)⟩ ∈ config.trace signer)
    (reached : after.state.version (.account email) ≤ accountVer) :
    ∃ middle last, Reaches (server settings) readsBeforeBump before middle ∧
      Answers (server settings) readsBeforeBump middle last signer
        ⟨.selectVersions email chainId, .ok (accountVer, chainVer)⟩ ∧
      Reaches (server settings) readsBeforeBump last config := by
  obtain ⟨later, earlier, isTrace⟩ := List.append_of_mem read
  have within : ⟨.selectVersions email chainId, .ok (accountVer, chainVer)⟩ :: earlier <:+
      config.trace signer := ⟨later, isTrace.symm⟩
  obtain ⟨middle, last, first, answers, -, toEnd⟩ := rest.answered_within within fun already => by
    have member := already.subset List.mem_cons_self
    have bound := history_lasting run _ ((Config.mem_trace signer _).mp member)
    have raised := bumps.raises run
    obtain ⟨accountBound, -⟩ := bound
    omega
  exact ⟨middle, last, first, answers, toEnd⟩

/-- Every token of the account that is accepted by what begins after a revocation's bump descends
from one that was signed by a login or a password change whose credential checks, and all its
other calls, came after the revocation's write. -/
theorem accepted_after_revocation (settings : Settings) (start : World)
    (consistent : start.Consistent)
    (run : Reaches (server settings) readsBeforeBump (Config.start start) before) {revoker : Nat}
    {revocation : Request} {program : Service Response}
    (revoking : before.threads[revoker]? = some ⟨revocation, program⟩)
    (revokes : revocation.isRevocation = true) {email : String}
    (bumps : Bumps settings readsBeforeBump before after revoker (.account email))
    (rest : Reaches (server settings) readsBeforeBump after config) {token : Payload}
    (isEmail : token.email = some email) (session : token.type ≠ .other) {index : Nat}
    (fresh : after.threads.length ≤ index) (accepts : Accepts config index token) :
    ∃ signer request root, OpenedBy config signer request root ∧ Descends config root token ∧
      ∀ entry ∈ tooEarly before revoker request, entry.1 ≠ signer := by
  have step : Step (server settings) readsBeforeBump before after := by
    obtain ⟨_, _, answers, _⟩ := bumps
    exact answers.step
  have toAfter : Reaches (server settings) readsBeforeBump (Config.start start) after :=
    run.tail step
  have fromBefore : Reaches (server settings) readsBeforeBump before config := .head step rest
  have whole : Reaches (server settings) readsBeforeBump (Config.start start) config :=
    run.trans fromBefore
  obtain ⟨signed, email', chainId, accountVer, chainVer, isEmail', isChain, isAccount, isChainVer,
    reached, -⟩ := accepted_versions toAfter rest fresh accepts session
  obtain rfl := Option.some.inj (isEmail.symm.trans isEmail')
  obtain ⟨root, descends, origin⟩ := issued_rooted whole token signed
  obtain ⟨sameEmail, sameChain, sameAccount, sameChainVer⟩ := descends.same whole
  rcases origin with old | ⟨signer, request, opened⟩
  · have bound := consistent.accountVer root old email accountVer (sameEmail.symm.trans isEmail)
      (sameAccount.symm.trans isAccount)
    have grown := (run_advance run).version (.account email)
    have raised := bumps.raises run
    change start.version (.account email) ≤ before.state.version (.account email) at grown
    omega
  · refine ⟨signer, request, root, opened, descends, fun entry member isSigner => ?_⟩
    obtain ⟨program', email'', chainId', accountVer', chainVer', present, -, ofEmail, ofChain,
      ofAccount, ofChainVer, opens, -, read⟩ := opened
    obtain rfl := Option.some.inj (isEmail.symm.trans (sameEmail.trans ofEmail))
    obtain rfl := Option.some.inj (isAccount.symm.trans (sameAccount.trans ofAccount))
    obtain ⟨middle, last, first, answers, toEnd⟩ := read_after_bump run bumps fromBefore read reached
    have begun : signer < before.threads.length := by
      rw [← isSigner]
      exact run.attributed (Config.attributed_start start) entry (tooEarly_subset member)
    obtain ⟨program'', present'⟩ := fromBefore.present_before begun present
    have running := first.running begun answers.isRunning
    obtain ⟨_, _, bump, _⟩ := bumps
    have both := bump.permitted revocation program revoking revokes email _ rfl signer request
      program'' present' opens.signsFor running ⟨entry, member, isSigner⟩
    obtain ⟨next, calling⟩ := answers.running_as toEnd present
    have toRead : Reaches (server settings) readsBeforeBump (Config.start start) middle :=
      run.trans first
    have few := (toRead.disciplined (server_obeys settings) start).allows calling
    have more := versionsReads_le (first.trace_suffix signer)
    have short := few.2.1
    omega

end Runs

/-! Ann's password is reset, and she signs in with the new one. -/

def annResetting : List (Move Request Disturbance) :=
  .begin (.login ann.email "first") :: runs 0 13 ++
    .begin (.resetPassword ann.email "second") :: runs 1 4

def annBeforeReset : Server :=
  Server.after (.start annsStore) annResetting

def annReset : Server :=
  annBeforeReset.after [.reply 1 0]

def annReturning : List (Move Request Disturbance) :=
  runs 1 4 ++ .begin (.login ann.email "second") :: runs 2 13 ++
    .begin (.verify (annsToken .access 5 4 1 0 1900) none) :: runs 3 4

/-- A revocation bumps an account only when no login or password change is unfinished. -/
def readsBeforeBumpCheck (config : Server) (index : Nat) (event : Event) : Bool :=
  !(config.threads[index]?).any (·.request.isRevocation) ||
    (match event.1 with | .upsertVersion (.account _) _ => false | _ => true) ||
    config.threads.all fun thread =>
      thread.result.isSome || !(thread.request.isLogin || thread.request.isPasswordChange)

theorem readsBeforeBump_of_check (config : Server) (index : Nat) (event : Event)
    (passed : readsBeforeBumpCheck config index event = true) :
    readsBeforeBump config index event := by
  intro request program present isRevocation email version isBump other request' program' present'
    signs running
  obtain ⟨thread, isThread, unfinished⟩ := running
  obtain rfl := Option.some.inj (present'.symm.trans isThread)
  simp only [readsBeforeBumpCheck, present, Option.any_some, isRevocation, isBump, Bool.not_true,
    Bool.false_or, List.all_eq_true] at passed
  have settled := passed _ (List.mem_of_getElem? present')
  rw [unfinished] at settled
  cases request' <;>
    first | exact False.elim signs | simp [Request.isLogin, Request.isPasswordChange] at settled

theorem readsBeforeBump_after (config : Server) (moves : List (Move Request Disturbance))
    (passed : config.passes (server sampleSettings) readsBeforeBumpCheck moves = true) :
    Reaches (server sampleSettings) readsBeforeBump config (config.after moves) :=
  Config.follow_permitted _ _ readsBeforeBump_of_check config moves passed

theorem accepted_after_revocation_reset :
    ∃ signer request root, OpenedBy (annReset.after annReturning) signer request root ∧
      Descends (annReset.after annReturning) root (annsToken .access 5 4 1 0 1900) ∧
      ∀ entry ∈ tooEarly annBeforeReset 1 request, entry.1 ≠ signer := by
  obtain ⟨program, present⟩ := Config.present_of_request annBeforeReset 1
    (.resetPassword ann.email "second") (by decide +kernel)
  have permitted : readsBeforeBump annBeforeReset 1 ⟨.upsertVersion (.account ann.email) 1, .ok 1⟩ :=
    readsBeforeBump_of_check _ _ _ (by decide +kernel)
  have bump : Answers (server sampleSettings) readsBeforeBump annBeforeReset annReset 1
      ⟨.upsertVersion (.account ann.email) 1, .ok 1⟩ :=
    Config.follow_answers _ annBeforeReset 1 0 _ permitted (by decide +kernel)
  have accepts : Accepts (annReset.after annReturning) 3 (annsToken .access 5 4 1 0 1900) :=
    accepts_of_verified none (annsToken .access 5 4 1 0 1900) (by decide +kernel) (by decide +kernel)
  exact accepted_after_revocation sampleSettings annsStore annsStore_consistent
    (readsBeforeBump_after (.start annsStore) annResetting (by decide +kernel)) present rfl
    (bumps_of_acknowledged bump)
    (readsBeforeBump_after annReset annReturning (by decide +kernel)) rfl (by decide)
    (by decide +kernel) accepts

/-! A login checks the old password just before a reset writes the new one. -/

def annChecked : Server :=
  Server.after (.start annsStore) (.begin (.login ann.email "first") :: runs 0 1)

def annOutlived : Server :=
  annChecked.after (.begin (.resetPassword ann.email "second") :: runs 1 9 ++ runs 0 12)

/-- The old password was read before the reset began, and the token that the login signs after the
reset's bump is accepted. -/
theorem old_password_outlives_reset :
    Reaches (server sampleSettings) anyCall (Config.start annsStore) annOutlived ∧
      annChecked.threads.length = 1 ∧
      ⟨.selectUserByEmail ann.email, .ok (some ann)⟩ ∈ annChecked.trace 0 ∧
      (annOutlived.threads[1]?).bind Thread.result = some (.ok (.reset true (some true))) ∧
      ⟨.encode (annsToken .access 2 1 1 0 1900), ()⟩ ∈ annOutlived.trace 0 ∧
      annOutlived.threads.length ≤ 2 ∧
      Accepts (annOutlived.after (.begin (.verify (annsToken .access 2 1 1 0 1900) none) ::
        runs 2 4)) 2 (annsToken .access 2 1 1 0 1900) := by
  refine ⟨(Server.after_reaches _ _).trans (Server.after_reaches _ _), ?_, ?_, ?_, ?_, ?_,
    accepts_of_verified none (annsToken .access 2 1 1 0 1900) ?_ ?_⟩
  all_goals decide +kernel

end MysticAuth.Tokens
