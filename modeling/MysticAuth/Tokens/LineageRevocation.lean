import MysticAuth.Tokens.Lineage

/-!
# Revocation of a lineage

Rotations carry the versions of a login's token over, so that one bump of
either counter ends everything that was or will be made of that token.  A login
reads the versions twice, once for each of its tokens; where no bump comes
between, the two tokens begin one lineage.
-/

set_option autoImplicit false

namespace MysticAuth.Tokens

open Interleaving

/-- The counters that the token's versions are compared with. -/
def Payload.CountedBy (token : Payload) (key : VersionKey) : Prop :=
  ∃ email, token.email = some email ∧
    (key = .account email ∨ ∃ chainId, token.chain = some chainId ∧ key = .chain email chainId)

/-- The thread has read the versions that the token carries. -/
def VersionsRead (config : Server) (index : Nat) (token : Payload) : Prop :=
  ∃ email chainId accountVer chainVer, token.email = some email ∧ token.chain = some chainId ∧
    token.accountVer = some accountVer ∧ token.chainVer = some chainVer ∧
    ⟨.selectVersions email chainId, .ok (accountVer, chainVer)⟩ ∈ config.trace index

/-- No version of a login's account or chain is bumped while the login has read the versions for one
of its tokens and not for the other. -/
def readsTogether (config : Server) (_index : Nat) (event : Event) : Prop :=
  ∀ key version, event.1 = .upsertVersion key version →
    ∀ login email password program,
      config.threads[login]? = some ⟨.login email password, program⟩ → config.Running login →
        versionsReads (config.trace login) = 1 → key ≠ .account email ∧
          ∀ chainId, firstDraw (config.trace login) = some chainId → key ≠ .chain email chainId

/-- Signed by the login, or by a chain of rotations that begins with a token it signed. -/
def OfLogin (config : Server) (login : Nat) (email password : String) (token : Payload) : Prop :=
  ∃ root, OpenedBy config login (.login email password) root ∧ Descends config root token

section Runs

variable {settings : Settings} {permits : Server → Nat → Event → Prop}
variable {start : World} {before after config : Server}

/-! ## Versions are read together -/

/-- Only a bump changes a version. -/
theorem step_version (step : Step (server settings) permits before after) (key : VersionKey) :
    after.state.version key = before.state.version key ∨
      ∃ index version reply, Answers (server settings) permits before after index
        ⟨.upsertVersion key version, reply⟩ := by
  rcases step.cases_answers with ⟨-, same | ⟨disturbance, disturbed⟩⟩ | ⟨index, event, answers⟩
  · exact Or.inl (by rw [same])
  · rw [disturbed]
    cases disturbance <;> exact Or.inl rfl
  · obtain ⟨call, reply⟩ := event
    rcases outcomes_version index call before.state key _ answers.possible with same |
      ⟨version, rfl⟩
    · exact Or.inl same
    · exact Or.inr ⟨index, version, reply, answers⟩

theorem answered_versions {index : Nat} {email : String} {chainId : Nat} {versions : Nat × Nat}
    (answers : Answers (server settings) permits before after index
      ⟨.selectVersions email chainId, .ok versions⟩) :
    versions = (before.state.version (.account email), before.state.version (.chain email chainId)) ∧
      after.state = before.state := by
  have possible := answers.possible
  simp only [server, outcomes, selected, List.mem_cons, List.not_mem_nil, or_false] at possible
  rcases possible with same | different
  · exact ⟨Except.ok.inj (Prod.mk.inj same).1, (Prod.mk.inj same).2⟩
  · simp at different

/-- The second read of a login finds what the first has found. -/
theorem reads_agree_of_earlier
    (run : Reaches (server settings) readsTogether (Config.start start) config) {login : Nat}
    {email password : String} {program : Service Response}
    (present : config.threads[login]? = some ⟨.login email password, program⟩) {chainId : Nat}
    {older newer : Nat × Nat} {earlier : Trace}
    (second : ⟨.selectVersions email chainId, .ok newer⟩ :: earlier <:+ config.trace login)
    (first : ⟨.selectVersions email chainId, .ok older⟩ ∈ earlier) : newer = older := by
  obtain ⟨last, afterLast, toLast, answers, rfl, rest⟩ := run.answered second
  obtain ⟨begun, next, toBegun, answers', between⟩ := toLast.answered_member first
  obtain ⟨_, calling⟩ := answers.running_as rest present
  obtain ⟨_, calling'⟩ := answers'.running_as between calling
  have few := ((toLast.disciplined (server_obeys settings) start).allows calling).2.1
  have opens := ((toBegun.disciplined (server_obeys settings) start).allows calling').1
  obtain ⟨read, unchanged⟩ := answered_versions answers'
  -- From the first read to the second the login is unfinished and has read once.
  have still : last.state.version (.account email) = older.1 ∧
      last.state.version (.chain email chainId) = older.2 := by
    refine between.preserves_between (fun config => config.state.version (.account email) = older.1 ∧
      config.state.version (.chain email chainId) = older.2) (by rw [unchanged, read]; simp) ?_
    intro middle later toMiddle holds step toLast'
    have fromMiddle : Reaches (server settings) readsTogether middle last := .head step toLast'
    have longer : ⟨.selectVersions email chainId, .ok older⟩ :: begun.trace login <:+
        middle.trace login := by
      rw [← answers'.trace_self]
      exact toMiddle.trace_suffix login
    have begunIn : login < middle.threads.length := by
      have bound := (List.getElem?_eq_some_iff.mp calling').1
      exact bound.trans_le (answers'.step.threads_length.trans toMiddle.threads_length)
    obtain ⟨program', present'⟩ := fromMiddle.present_before begunIn calling
    have once : versionsReads (middle.trace login) = 1 := by
      have counted : versionsReads (⟨.selectVersions email chainId, .ok older⟩ ::
          begun.trace login) = versionsReads (begun.trace login) + 1 := by
        simp [versionsReads, Call.isVersionsRead]
      have atLeast := versionsReads_le longer
      have atMost := versionsReads_le (fromMiddle.trace_suffix login)
      omega
    have drawn := firstDraw_extend ((List.suffix_cons _ _).trans longer) opens.2
    have kept (key : VersionKey) (own : key = .account email ∨ key = .chain email chainId) :
        later.state.version key = middle.state.version key := by
      rcases step_version step key with same | ⟨index, version, reply, bumps⟩
      · exact same
      · obtain ⟨account, chain⟩ := bumps.permitted key version rfl login email password program'
          present' (fromMiddle.running begunIn answers.isRunning) once
        rcases own with isAccount | isChain
        · exact absurd isAccount account
        · exact absurd isChain (chain chainId drawn)
    exact ⟨(kept _ (Or.inl rfl)).trans holds.1, (kept _ (Or.inr rfl)).trans holds.2⟩
  obtain ⟨isNewer, -⟩ := answered_versions answers
  rw [isNewer, still.1, still.2]

/-- Whatever versions a login has read, it has read them for both of its tokens. -/
theorem reads_agree
    (run : Reaches (server settings) readsTogether (Config.start start) config) {login : Nat}
    {email password : String} {program : Service Response}
    (present : config.threads[login]? = some ⟨.login email password, program⟩) {chainId : Nat}
    {one other : Nat × Nat}
    (read : ⟨.selectVersions email chainId, .ok one⟩ ∈ config.trace login)
    (read' : ⟨.selectVersions email chainId, .ok other⟩ ∈ config.trace login) : one = other := by
  obtain ⟨later, earlier, isTrace⟩ := List.append_of_mem read
  rw [isTrace] at read'
  rcases List.mem_append.mp read' with newer | older
  · obtain ⟨later', middle, isLater⟩ := List.append_of_mem newer
    have within : ⟨.selectVersions email chainId, .ok other⟩ ::
        (middle ++ ⟨.selectVersions email chainId, .ok one⟩ :: earlier) <:+ config.trace login :=
      ⟨later', by rw [isTrace, isLater]; simp⟩
    exact (reads_agree_of_earlier run present within (by simp)).symm
  · rcases List.mem_cons.mp older with same | older
    · obtain ⟨-, same⟩ := Sigma.mk.inj same
      exact (Except.ok.inj (eq_of_heq same)).symm
    · exact reads_agree_of_earlier run present ⟨later, isTrace.symm⟩ older

end Runs

section Revocation

variable {settings : Settings} {permits : Server → Nat → Event → Prop}
variable {start : World} {before after config : Server}

/-! ## Revocation -/

/-- A token whose versions were read before a bump of one of them is not accepted after it. -/
theorem unaccepted_of_bump
    (run : Reaches (server settings) permits (Config.start start) before)
    {bumper : Nat} {key : VersionKey} (bumps : Bumps settings permits before after bumper key)
    (rest : Reaches (server settings) permits after config) {reader : Nat} {token : Payload}
    (read : VersionsRead before reader token) (counted : token.CountedBy key)
    (session : token.type ≠ .other) {index : Nat} (fresh : after.threads.length ≤ index) :
    ¬ Accepts config index token := by
  intro accepts
  obtain ⟨email, chainId, accountVer, chainVer, isEmail, isChain, isAccount, isChainVer, member⟩ :=
    read
  have bounds := history_lasting run _ ((Config.mem_trace reader _).mp member)
  have raised := bumps.raises run
  have step : Step (server settings) permits before after := by
    obtain ⟨_, _, answers, _⟩ := bumps
    exact answers.step
  obtain ⟨-, email', chainId', accountVer', chainVer', isEmail', isChain', isAccount', isChainVer',
    account, chain⟩ := accepted_versions (.tail run step) rest fresh accepts session
  obtain rfl := Option.some.inj (isEmail.symm.trans isEmail')
  obtain rfl := Option.some.inj (isChain.symm.trans isChain')
  obtain rfl := Option.some.inj (isAccount.symm.trans isAccount')
  obtain rfl := Option.some.inj (isChainVer.symm.trans isChainVer')
  obtain ⟨accountBound, chainBound⟩ := bounds
  obtain ⟨email'', isEmail'', isKey⟩ := counted
  obtain rfl := Option.some.inj (isEmail.symm.trans isEmail'')
  rcases isKey with rfl | ⟨chainId'', isChain'', rfl⟩
  · omega
  · obtain rfl := Option.some.inj (isChain.symm.trans isChain'')
    omega

theorem VersionsRead.descends {reader : Nat} {root token : Payload}
    (run : Reaches (server settings) permits (Config.start start) config)
    (descends : Descends config root token) (read : VersionsRead before reader root) :
    VersionsRead before reader token := by
  obtain ⟨isEmail, isChain, isAccount, isChainVer⟩ := descends.same run
  unfold VersionsRead at read ⊢
  rw [isEmail, isChain, isAccount, isChainVer]
  exact read

/-- Every token that rotations make of a token signed by a login carries the versions of that
token, and none of them is accepted by a verification or a rotation that begins after a bump of
one of these versions has committed, if the login had read them before. -/
theorem lineage_revoked (settings : Settings) (start : World) {config : Server}
    (run : Reaches (server settings) anyCall (Config.start start) config) {login : Nat}
    {email password : String} {root token : Payload}
    (opened : OpenedBy config login (.login email password) root)
    (descends : Descends config root token) :
    (token.accountVer = root.accountVer ∧ token.chainVer = root.chainVer) ∧
      ∀ (before after : Server) (bumper : Nat) (key : VersionKey),
        Reaches (server settings) anyCall (Config.start start) before →
        Bumps settings anyCall before after bumper key →
        Reaches (server settings) anyCall after config →
        root.CountedBy key → VersionsRead before login root →
        ∀ index, after.threads.length ≤ index → ¬ Accepts config index token := by
  obtain ⟨isEmail, isChain, isAccount, isChainVer⟩ := descends.same run
  refine ⟨⟨isAccount, isChainVer⟩, ?_⟩
  intro before after bumper key runBefore bumps rest counted read index fresh
  have counted' : token.CountedBy key := by
    unfold Payload.CountedBy at counted ⊢
    rw [isEmail, isChain]
    exact counted
  exact unaccepted_of_bump runBefore bumps rest (read.descends run descends) counted'
    (descends.session run opened) fresh

/-! ## The lineage of a login -/

/-- In a run in which no bump comes between the two reads of a login, every token of the login, and
every token that rotations make of one, carries the versions that the login has read; and none of
them is accepted by a verification or a rotation that begins after a bump of one of these versions
has committed. -/
theorem login_lineage_revoked (settings : Settings) (start : World) {config : Server}
    (run : Reaches (server settings) readsTogether (Config.start start) config) (login : Nat)
    (email password : String) :
    ∃ chainId accountVer chainVer, ∀ token, OfLogin config login email password token →
      (token.email = some email ∧ token.chain = some chainId ∧
        token.accountVer = some accountVer ∧ token.chainVer = some chainVer) ∧
      ∀ (before after : Server) (bumper : Nat) (key : VersionKey),
        Reaches (server settings) readsTogether (Config.start start) before →
        Bumps settings readsTogether before after bumper key →
        Reaches (server settings) readsTogether after config →
        (key = .account email ∨ key = .chain email chainId) →
        ⟨.selectVersions email chainId, .ok (accountVer, chainVer)⟩ ∈ before.trace login →
        ∀ index, after.threads.length ≤ index → ¬ Accepts config index token := by
  by_cases signed : ∃ root, OpenedBy config login (.login email password) root
  · obtain ⟨first, program, email', chainId, accountVer, chainVer, present, -, -, -, -, -,
      ⟨rfl, drawn⟩, -, read⟩ := signed
    refine ⟨chainId, accountVer, chainVer, fun token ofLogin => ?_⟩
    obtain ⟨root, opened, descends⟩ := ofLogin
    have carried : root.email = some email ∧ root.chain = some chainId ∧
        root.accountVer = some accountVer ∧ root.chainVer = some chainVer := by
      obtain ⟨-, email', chainId', accountVer', chainVer', -, -, isEmail, isChain, isAccount,
        isChainVer, ⟨rfl, drawn'⟩, -, read'⟩ := opened
      obtain rfl := Option.some.inj (drawn'.symm.trans drawn)
      obtain ⟨rfl, rfl⟩ := Prod.mk.inj (reads_agree run present read read')
      exact ⟨isEmail, isChain, isAccount, isChainVer⟩
    obtain ⟨isEmail, isChain, isAccount, isChainVer⟩ := carried
    obtain ⟨sameEmail, sameChain, sameAccount, sameChainVer⟩ := descends.same run
    refine ⟨⟨sameEmail.trans isEmail, sameChain.trans isChain, sameAccount.trans isAccount,
      sameChainVer.trans isChainVer⟩, ?_⟩
    intro before after bumper key runBefore bumps rest counted readBefore
    obtain ⟨-, revoked⟩ := lineage_revoked settings start run.toAny opened descends
    refine revoked before after bumper key runBefore.toAny bumps.toAny rest.toAny ?_
      ⟨email, chainId, accountVer, chainVer, isEmail, isChain, isAccount, isChainVer, readBefore⟩
    refine ⟨email, isEmail, ?_⟩
    rcases counted with isKey | isKey
    · exact Or.inl isKey
    · exact Or.inr ⟨chainId, isChain, isKey⟩
  · refine ⟨0, 0, 0, fun token ofLogin => ?_⟩
    obtain ⟨root, opened, -⟩ := ofLogin
    exact absurd ⟨root, opened⟩ signed

end Revocation

/-! Ann signs in on two devices at once.  The first device is rotating its refresh token when she
signs out everywhere from the second, and the rotation signs its tokens after the bump. -/

def annBothSignedIn : List (Move Request Disturbance) :=
  .begin (.login ann.email "first") :: runs 0 6 ++ .begin (.login ann.email "first") :: runs 1 13 ++
    runs 0 7

def annRotating : List (Move Request Disturbance) :=
  annBothSignedIn ++ .begin (.refresh (annsToken .refresh 6 1 0 0 4600) none) :: runs 2 5 ++
    .begin (.logoutAll (some (annsToken .refresh 4 2 0 0 4600))) :: runs 3 2

def annBeforeBump : Server :=
  Server.after (.start annsStore) annRotating

def annAfterBump : Server :=
  annBeforeBump.after [.reply 3 0]

def annFinishing : List (Move Request Disturbance) :=
  runs 2 6 ++ .begin (.verify (annsToken .access 7 1 0 0 1900) none) :: runs 4 3

def annVerified : Server :=
  annAfterBump.after annFinishing

def readsTogetherCheck (config : Server) (_index : Nat) (event : Event) : Bool :=
  (match event.1 with | .upsertVersion _ _ => false | _ => true) ||
    (List.range config.threads.length).all fun login =>
      (config.threads[login]?).all fun thread =>
        thread.result.isSome || !thread.request.isLogin || versionsReads (config.trace login) != 1

theorem readsTogether_of_check (config : Server) (index : Nat) (event : Event)
    (passed : readsTogetherCheck config index event = true) : readsTogether config index event := by
  intro key version isBump login email password program present running once
  obtain ⟨thread, isThread, unfinished⟩ := running
  obtain rfl := Option.some.inj (present.symm.trans isThread)
  simp only [readsTogetherCheck, isBump, Bool.false_or, List.all_eq_true, List.mem_range] at passed
  have settled := passed login (List.getElem?_eq_some_iff.mp present).1
  simp [present, unfinished, Request.isLogin, once] at settled

theorem readsTogether_after (config : Server) (moves : List (Move Request Disturbance))
    (passed : config.passes (server sampleSettings) readsTogetherCheck moves = true) :
    Reaches (server sampleSettings) readsTogether config (config.after moves) :=
  Config.follow_permitted _ _ readsTogether_of_check config moves passed

theorem annBump_answers : Answers (server sampleSettings) readsTogether annBeforeBump annAfterBump 3
    ⟨.upsertVersion (.account ann.email) 1, .ok 1⟩ :=
  Config.follow_answers _ annBeforeBump 3 0 _
    (readsTogether_of_check _ _ _ (by decide +kernel)) (by decide +kernel)

theorem annVerified_opened :
    OpenedBy annVerified 0 (.login ann.email "first") (annsToken .refresh 6 1 0 0 4600) := by
  obtain ⟨program, present⟩ := Config.present_of_request annVerified 0 (.login ann.email "first")
    (by decide +kernel)
  refine ⟨program, ann.email, 1, 0, 0, present, ?_, rfl, rfl, rfl, rfl, ⟨rfl, ?_⟩, ⟨ann, ?_, ?_⟩, ?_⟩
  all_goals decide +kernel

theorem annVerified_ofLogin :
    OfLogin annVerified 0 ann.email "first" (annsToken .access 7 1 0 0 1900) := by
  obtain ⟨program, present⟩ := Config.present_of_request annVerified 2
    (.refresh (annsToken .refresh 6 1 0 0 4600) none) (by decide +kernel)
  exact ⟨_, annVerified_opened, .rotated _ _ none 2 program .root present (by decide +kernel)⟩

/-- The access token that the rotation signs after the bump is dead. -/
theorem login_lineage_revoked_signedOut :
    ⟨.encode (annsToken .access 7 1 0 0 1900), ()⟩ ∉ annAfterBump.trace 2 ∧
      ⟨.encode (annsToken .access 7 1 0 0 1900), ()⟩ ∈ annVerified.trace 2 ∧
      (annVerified.threads[4]?).bind Thread.result = some (.ok (.verified none)) ∧
      ¬ Accepts annVerified 4 (annsToken .access 7 1 0 0 1900) := by
  refine ⟨by decide +kernel, by decide +kernel, by decide +kernel, ?_⟩
  have toBump : Reaches (server sampleSettings) readsTogether (Config.start annsStore)
      annBeforeBump := readsTogether_after _ annRotating (by decide +kernel)
  have afterBump : Reaches (server sampleSettings) readsTogether annAfterBump annVerified :=
    readsTogether_after _ annFinishing (by decide +kernel)
  obtain ⟨chainId, accountVer, chainVer, lineage⟩ := login_lineage_revoked sampleSettings annsStore
    ((toBump.tail annBump_answers.step).trans afterBump) 0 ann.email "first"
  obtain ⟨⟨-, isChain, isAccount, isChainVer⟩, revoked⟩ := lineage _ annVerified_ofLogin
  obtain rfl : 1 = chainId := Option.some.inj isChain
  obtain rfl : 0 = accountVer := Option.some.inj isAccount
  obtain rfl : 0 = chainVer := Option.some.inj isChainVer
  exact revoked annBeforeBump annAfterBump 3 (.account ann.email) toBump
    (bumps_of_acknowledged annBump_answers) afterBump (Or.inl rfl) (by decide +kernel) 4
    (by decide +kernel)

/-! The password is reset between the two reads of a login. -/

def annLoginOverlapped : Server :=
  Server.after (.start annsStore)
    (.begin (.login ann.email "first") :: runs 0 6 ++
      .begin (.resetPassword ann.email "second") :: runs 1 5 ++ runs 0 7)

def annLoginAccepted : Server :=
  annLoginOverlapped.after (.begin (.verify (annsToken .refresh 3 1 1 0 4600) none) :: runs 2 4)

/-- The tokens of one login differ in their account version, and the refresh token survives the
bump that came between. -/
theorem login_pair_straddles_bump :
    Reaches (server sampleSettings) anyCall (Config.start annsStore) annLoginAccepted ∧
      (annLoginAccepted.threads[0]?).map Thread.request = some (.login ann.email "first") ∧
      (annLoginAccepted.threads[0]?).bind Thread.result = some (.ok (.tokens (some
        (annsToken .access 2 1 0 0 1900, annsToken .refresh 3 1 1 0 4600)))) ∧
      ⟨.upsertVersion (.account ann.email) 1, .ok 1⟩ ∈ annLoginOverlapped.trace 1 ∧
      annLoginOverlapped.threads.length ≤ 2 ∧
      Accepts annLoginAccepted 2 (annsToken .refresh 3 1 1 0 4600) := by
  refine ⟨(Server.after_reaches _ _).trans (Server.after_reaches _ _), ?_, ?_, ?_, ?_,
    accepts_of_verified none (annsToken .refresh 3 1 1 0 4600) ?_ ?_⟩
  all_goals decide +kernel

end MysticAuth.Tokens
