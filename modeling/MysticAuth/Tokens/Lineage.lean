import Mathlib.Data.Sigma.Basic
import MysticAuth.Tokens.Consistency

/-!
# Lineages of tokens

Which tokens descend from which by rotations, which are accepted, and what a
bump of a version does to a whole chain.
-/

set_option autoImplicit false

namespace MysticAuth.Tokens

open Interleaving

/-- A verification or a rotation of the token has ended well. -/
def Accepts (config : Server) (index : Nat) (token : Payload) : Prop :=
  ∃ thread, config.threads[index]? = some thread ∧
    ((∃ expectedType payload, thread.request = .verify token expectedType ∧
        thread.result = some (.ok (.verified (some payload)))) ∨
      ∃ clientIp pair, thread.request = .refresh token clientIp ∧
        thread.result = some (.ok (.tokens (some pair))))

/-- The token was signed by a chain of rotations that begins with the root. -/
inductive Descends (config : Server) (root : Payload) : Payload → Prop
  | root : Descends config root root
  | rotated (parent token : Payload) (clientIp : Option String) (index : Nat)
      (program : Service Response) (descends : Descends config root parent)
      (rotates : config.threads[index]? = some ⟨.refresh parent clientIp, program⟩)
      (signed : ⟨.encode token, ()⟩ ∈ config.trace index) : Descends config root token

/-- The root was signed by an operation that had checked credentials, and carries versions that
this operation had read. -/
def OpenedBy (config : Server) (index : Nat) (request : Request) (root : Payload) : Prop :=
  ∃ program email chainId accountVer chainVer,
    config.threads[index]? = some ⟨request, program⟩ ∧
    ⟨.encode root, ()⟩ ∈ config.trace index ∧
    root.email = some email ∧ root.chain = some chainId ∧
    root.accountVer = some accountVer ∧ root.chainVer = some chainVer ∧
    request.Opens (config.trace index) email chainId ∧
    request.CredentialsChecked (config.trace index) ∧
    ⟨.selectVersions email chainId, .ok (accountVer, chainVer)⟩ ∈ config.trace index

section Runs

variable {settings : Settings} {permits : Server → Nat → Event → Prop}
variable {start : World} {config config' : Server}

/-! ## Acceptance -/

theorem Accepts.checked {index : Nat} {token : Payload}
    (disciplined : config.Disciplined Request.discipline Request.returns)
    (accepts : Accepts config index token) (session : token.type ≠ .other) :
    ⟨.decode token, true⟩ ∈ config.trace index ∧ VersionsMatched (config.trace index) token := by
  obtain ⟨thread, present, accepted⟩ := accepts
  rcases accepted with ⟨expectedType, payload, isRequest, finished⟩ | ⟨clientIp, pair, isRequest,
    finished⟩
  · have returned := disciplined.returned present finished
    rw [isRequest] at returned
    obtain ⟨decoded, matched⟩ := returned payload rfl
    exact ⟨decoded, matched session⟩
  · have returned := disciplined.returned present finished
    rw [isRequest] at returned
    obtain ⟨decoded, matched, -⟩ := returned.2 pair rfl
    exact ⟨decoded, matched⟩

theorem signed_of_decoded (run : Reaches (server settings) permits (Config.start start) config)
    {index : Nat} {token : Payload} (decoded : ⟨.decode token, true⟩ ∈ config.trace index) :
    token ∈ config.state.issued := by
  have holds := history_lasting run _ ((Config.mem_trace index _).mp decoded)
  exact holds

theorem answered_version {before after : Server} {index : Nat} {key : VersionKey} {version : Nat}
    (answers : Answers (server settings) permits before after index
      ⟨.selectVersion key, .ok version⟩) : version = before.state.version key := by
  have possible := answers.possible
  simp only [server, outcomes, selected, List.mem_cons, List.not_mem_nil, or_false] at possible
  rcases possible with same | different
  · exact Except.ok.inj (Prod.mk.inj same).1
  · simp at different

/-- What a fresh thread accepts carries versions no older than when it began. -/
theorem accepted_versions (run : Reaches (server settings) permits (Config.start start) config)
    (rest : Reaches (server settings) permits config config') {index : Nat}
    (fresh : config.threads.length ≤ index) {token : Payload}
    (accepts : Accepts config' index token) (session : token.type ≠ .other) :
    token ∈ config'.state.issued ∧ ∃ email chainId accountVer chainVer,
      token.email = some email ∧ token.chain = some chainId ∧
      token.accountVer = some accountVer ∧ token.chainVer = some chainVer ∧
      config.state.version (.account email) ≤ accountVer ∧
      config.state.version (.chain email chainId) ≤ chainVer := by
  have whole : Reaches (server settings) permits (Config.start start) config' := run.trans rest
  obtain ⟨decoded, email, chainId, accountVer, chainVer, isEmail, isChain, isAccount, isChainVer,
    account, chain⟩ := accepts.checked (whole.disciplined (server_obeys settings) start) session
  have attributed := run.attributed (Config.attributed_start start)
  have current {key : VersionKey} {version : Nat}
      (read : ⟨.selectVersion key, .ok version⟩ ∈ config'.trace index) :
      config.state.version key ≤ version := by
    obtain ⟨before, after, first, answers, -⟩ := rest.answered_of_fresh attributed fresh read
    rw [answered_version answers]
    exact (run_advance first).version key
  exact ⟨signed_of_decoded whole decoded, email, chainId, accountVer, chainVer, isEmail, isChain,
    isAccount, isChainVer, current account, current chain⟩

/-! ## Descent -/

theorem Descends.later {root token : Payload} (run : Reaches (server settings) permits config config')
    (descends : Descends config root token) : Descends config' root token := by
  induction descends with
  | root => exact .root
  | rotated parent token clientIp index program descends rotates signed ih =>
    obtain ⟨⟨request, program'⟩, present, same, -⟩ := run.thread_persists rotates
    simp only at same
    subst same
    exact .rotated parent token clientIp index program' ih present
      ((run.trace_suffix index).subset signed)

/-- Who has signed a token had grounds for it. -/
theorem signed_grounds (run : Reaches (server settings) permits (Config.start start) config)
    {index : Nat} {request : Request} {program : Service Response} {token : Payload}
    (present : config.threads[index]? = some ⟨request, program⟩)
    (signed : ⟨.encode token, ()⟩ ∈ config.trace index) :
    token.type ≠ .other ∧ ∃ email chainId accountVer chainVer, token.email = some email ∧
      token.chain = some chainId ∧ token.accountVer = some accountVer ∧
      token.chainVer = some chainVer ∧
      request.HasGrounds (config.trace index) email chainId accountVer chainVer := by
  obtain ⟨later, earlier, isTrace⟩ := List.append_of_mem signed
  have within : ⟨.encode token, ()⟩ :: earlier <:+ config.trace index := ⟨later, isTrace.symm⟩
  obtain ⟨before, after, first, answers, isEarlier, rest⟩ := run.answered within
  obtain ⟨next, running⟩ := answers.running_as rest present
  have disciplined := first.disciplined (server_obeys settings) start
  obtain ⟨email, chainId, accountVer, chainVer, -, isEmail, isChain, isAccount, isChainVer, session,
    -, -, grounds⟩ := disciplined.allows running
  refine ⟨session, email, chainId, accountVer, chainVer, isEmail, isChain, isAccount, isChainVer, ?_⟩
  rw [isEarlier] at grounds
  exact grounds.extend ((List.suffix_cons _ _).trans within)

/-- A rotation carries every claim over that a token is judged by. -/
theorem rotated_same (run : Reaches (server settings) permits (Config.start start) config)
    {index : Nat} {parent token : Payload} {clientIp : Option String} {program : Service Response}
    (rotates : config.threads[index]? = some ⟨.refresh parent clientIp, program⟩)
    (signed : ⟨.encode token, ()⟩ ∈ config.trace index) :
    token.email = parent.email ∧ token.chain = parent.chain ∧
      token.accountVer = parent.accountVer ∧ token.chainVer = parent.chainVer := by
  obtain ⟨-, email, chainId, accountVer, chainVer, isEmail, isChain, isAccount, isChainVer,
    grounds⟩ := signed_grounds run rotates signed
  rcases grounds with ⟨opens, -⟩ | ⟨isEmail', isChain', isAccount', isChainVer', -⟩
  · exact False.elim opens
  · exact ⟨isEmail.trans isEmail'.symm, isChain.trans isChain'.symm,
      isAccount.trans isAccount'.symm, isChainVer.trans isChainVer'.symm⟩

theorem Descends.same (run : Reaches (server settings) permits (Config.start start) config)
    {root token : Payload} (descends : Descends config root token) :
    token.email = root.email ∧ token.chain = root.chain ∧
      token.accountVer = root.accountVer ∧ token.chainVer = root.chainVer := by
  induction descends with
  | root => exact ⟨rfl, rfl, rfl, rfl⟩
  | rotated parent token clientIp index program descends rotates signed ih =>
    obtain ⟨email, chain, account, chainVer⟩ := rotated_same run rotates signed
    exact ⟨email.trans ih.1, chain.trans ih.2.1, account.trans ih.2.2.1, chainVer.trans ih.2.2.2⟩

theorem OpenedBy.later {index : Nat} {request : Request} {root : Payload}
    (run : Reaches (server settings) permits config config')
    (opened : OpenedBy config index request root) : OpenedBy config' index request root := by
  obtain ⟨program, email, chainId, accountVer, chainVer, present, signed, isEmail, isChain,
    isAccount, isChainVer, opens, checked, read⟩ := opened
  obtain ⟨⟨request', program'⟩, present', same, -⟩ := run.thread_persists present
  simp only at same
  subst same
  have longer := run.trace_suffix index
  exact ⟨program', email, chainId, accountVer, chainVer, present', longer.subset signed, isEmail,
    isChain, isAccount, isChainVer, opens.extend longer, checked.extend longer,
    longer.subset read⟩

/-- Every token of a lineage is an access or a refresh token, as its root is. -/
theorem Descends.session (run : Reaches (server settings) permits (Config.start start) config)
    {index : Nat} {request : Request} {root token : Payload}
    (opened : OpenedBy config index request root) (descends : Descends config root token) :
    token.type ≠ .other := by
  cases descends with
  | root =>
    obtain ⟨program, email, chainId, accountVer, chainVer, present, signed, -⟩ := opened
    exact (signed_grounds run present signed).1
  | rotated parent _ clientIp index program descends rotates signed =>
    exact (signed_grounds run rotates signed).1

/-- The token descends from one that an operation with checked credentials has signed, or from
one signed before the run. -/
def Rooted (start : World) (config : Server) (token : Payload) : Prop :=
  ∃ root, Descends config root token ∧
    (root ∈ start.issued ∨ ∃ index request, OpenedBy config index request root)

theorem Rooted.later {token : Payload} (run : Reaches (server settings) permits config config')
    (rooted : Rooted start config token) : Rooted start config' token := by
  obtain ⟨root, descends, origin⟩ := rooted
  refine ⟨root, descends.later run, ?_⟩
  rcases origin with before | ⟨index, request, opened⟩
  · exact Or.inl before
  · exact Or.inr ⟨index, request, opened.later run⟩

theorem unanswered_issued
    (unanswered : config'.state = config.state ∨
      ∃ event, config'.state = (server settings).disturb event config.state) :
    config'.state.issued = config.state.issued := by
  rcases unanswered with same | ⟨event, disturbed⟩
  · rw [same]
  · rw [disturbed]
    cases event <;> rfl

/-- The token of a step that signs one. -/
theorem rooted_of_signed (run : Reaches (server settings) permits (Config.start start) config)
    (rooted : ∀ token ∈ config.state.issued, Rooted start config token) {index : Nat}
    {token : Payload}
    (answers : Answers (server settings) permits config config' index ⟨.encode token, ()⟩) :
    Rooted start config' token := by
  have run' : Reaches (server settings) permits (Config.start start) config' := run.tail answers.step
  have step : Reaches (server settings) permits config config' := .single answers.step
  obtain ⟨request, next, running⟩ := answers.running
  obtain ⟨⟨request', program⟩, present, same, -⟩ := step.thread_persists running
  simp only at same
  subst same
  have signed : ⟨.encode token, ()⟩ ∈ config'.trace index := by
    rw [answers.trace_self]
    exact List.mem_cons_self
  obtain ⟨-, email, chainId, accountVer, chainVer, isEmail, isChain, isAccount, isChainVer,
    grounds⟩ := signed_grounds run' present signed
  rcases grounds with ⟨opens, checked, read⟩ | continues
  · exact ⟨token, .root, Or.inr ⟨index, request', program, email, chainId, accountVer, chainVer,
      present, signed, isEmail, isChain, isAccount, isChainVer, opens, checked, read⟩⟩
  · cases request' with
    | refresh parent clientIp =>
      obtain ⟨-, -, -, -, decoded⟩ := continues
      rw [answers.trace_self] at decoded
      have decoded' : ⟨.decode parent, true⟩ ∈ config.trace index := by simpa using decoded
      obtain ⟨root, descends, origin⟩ :=
        (rooted parent (signed_of_decoded run decoded')).later step
      exact ⟨root, .rotated parent token clientIp index program descends present signed, origin⟩
    | _ => exact False.elim continues

theorem issued_rooted (run : Reaches (server settings) permits (Config.start start) config) :
    ∀ token ∈ config.state.issued, Rooted start config token := by
  refine run.preserves (fun config => ∀ token ∈ config.state.issued, Rooted start config token)
    (fun token member => ⟨token, .root, Or.inl member⟩) fun before after earlier rooted step => ?_
  intro token member
  have single : Reaches (server settings) permits before after := .single step
  rcases step.cases_answers with ⟨-, unanswered⟩ | ⟨index, event, answers⟩
  · rw [unanswered_issued unanswered] at member
    exact (rooted token member).later single
  · rcases outcomes_issued index event.1 before.state _ answers.possible with same |
      ⟨token', isCall, added⟩
    · simp only at same
      rw [same] at member
      exact (rooted token member).later single
    · obtain ⟨call, reply⟩ := event
      simp only at isCall added
      subst isCall
      rw [added] at member
      rcases List.mem_cons.mp member with rfl | old
      · exact rooted_of_signed earlier rooted answers
      · exact (rooted token old).later single

/-! ## Bumps -/

/-- A bump of the version commits, acknowledged or not. -/
def Bumps (settings : Settings) (permits : Server → Nat → Event → Prop)
    (before after : Server) (index : Nat) (key : VersionKey) : Prop :=
  ∃ version reply, Answers (server settings) permits before after index
      ⟨.upsertVersion key version, reply⟩ ∧
    after.state = before.state.withVersion key version

theorem Bumps.toAny {before after : Server} {index : Nat} {key : VersionKey}
    (bumps : Bumps settings permits before after index key) :
    Bumps settings anyCall before after index key := by
  obtain ⟨version, reply, answers, bumped⟩ := bumps
  exact ⟨version, reply, answers.toAny, bumped⟩

theorem bumps_of_acknowledged {before after : Server} {index : Nat} {key : VersionKey}
    {version stored : Nat}
    (answers : Answers (server settings) permits before after index
      ⟨.upsertVersion key version, .ok stored⟩) : Bumps settings permits before after index key := by
  have possible := answers.possible
  simp only [server, outcomes_upsertVersion, committed, List.mem_cons, List.not_mem_nil,
    or_false] at possible
  rcases possible with same | same | same
  · exact ⟨version, _, answers, (Prod.mk.inj same).2⟩
  · simp at same
  · simp at same

/-- Every bump that commits raises the version. -/
theorem Bumps.raises {before after : Server} {index : Nat} {key : VersionKey}
    (run : Reaches (server settings) permits (Config.start start) before)
    (bumps : Bumps settings permits before after index key) :
    before.state.version key < after.state.version key := by
  obtain ⟨version, reply, answers, bumped⟩ := bumps
  obtain ⟨request, next, running⟩ := answers.running
  obtain ⟨current, locked, rfl⟩ :=
    (run.disciplined (server_obeys settings) start).allows running
  have legacy := history_lasting run _ ((Config.mem_trace index _).mp locked)
  rw [bumped]
  exact withVersion_gt before.state key current legacy

/-! ## Retired chains -/

def Request.isPasswordChange : Request → Bool
  | .updateMyProfile _ _ _ => true
  | _ => false

/-- A password change reads the versions for new tokens of the chain. -/
def ReadsForChain (config : Server) (index : Nat) (event : Event) (email : String)
    (chainId : Nat) : Prop :=
  event.1 = .selectVersions email chainId ∧
    ∃ thread, config.threads[index]? = some thread ∧ thread.request.isPasswordChange = true

/-- No token of the chain has a version of at least `bound`, and none can get one from what has
been read. -/
structure Retired (config : Server) (email : String) (chainId bound : Nat) : Prop where
  reached : bound ≤ config.state.version (.chain email chainId)
  issued : ∀ token ∈ config.state.issued, token.email = some email → token.chain = some chainId →
    ∀ version, token.chainVer = some version → version < bound
  reads : ∀ index accountVer version,
    ⟨.selectVersions email chainId, .ok (accountVer, version)⟩ ∈ config.trace index →
      version < bound
  opened : ∃ token ∈ config.state.issued, token.chain = some chainId

theorem Bumps.retires {before after : Server} {index : Nat} {email : String} {chainId : Nat}
    (consistent : start.Consistent)
    (run : Reaches (server settings) permits (Config.start start) before)
    (bumps : Bumps settings permits before after index (.chain email chainId))
    (opened : ∃ token ∈ before.state.issued, token.chain = some chainId) :
    Retired after email chainId (after.state.version (.chain email chainId)) := by
  have raised := bumps.raises run
  have sound := run_sound consistent run
  obtain ⟨version, reply, answers, bumped⟩ := bumps
  have issued : after.state.issued = before.state.issued := by
    rw [bumped]
    rfl
  refine ⟨Nat.le_refl _, ?_, ?_, ?_⟩
  · rw [issued]
    intro token member isEmail isChain version isVersion
    exact Nat.lt_of_le_of_lt
      (sound.consistent.chainVer token member email chainId version isEmail isChain isVersion) raised
  · intro actor accountVer version read
    have old : ⟨.selectVersions email chainId, .ok (accountVer, version)⟩ ∈ before.trace actor := by
      rw [Config.mem_trace, answers.recorded] at read
      rw [Config.mem_trace]
      simpa using read
    have holds := history_lasting run _ ((Config.mem_trace actor _).mp old)
    exact Nat.lt_of_le_of_lt holds.2 raised
  · rw [issued]
    exact opened

/-- A new token of a retired chain has an old version. -/
theorem Retired.signs {before after : Server} {email : String} {chainId bound : Nat}
    (run : Reaches (server settings) permits (Config.start start) before)
    (retired : Retired before email chainId bound) {index : Nat} {token : Payload}
    (answers : Answers (server settings) permits before after index ⟨.encode token, ()⟩)
    (isEmail : token.email = some email) (isChain : token.chain = some chainId) {version : Nat}
    (isVersion : token.chainVer = some version) : version < bound := by
  obtain ⟨request, next, running⟩ := answers.running
  obtain ⟨email', chainId', accountVer, chainVer, -, isEmail', isChain', -, isChainVer', -, -, -,
    grounds⟩ := (run.disciplined (server_obeys settings) start).allows running
  obtain rfl := Option.some.inj (isEmail.symm.trans isEmail')
  obtain rfl := Option.some.inj (isChain.symm.trans isChain')
  obtain rfl := Option.some.inj (isVersion.symm.trans isChainVer')
  rcases grounds with ⟨-, -, read⟩ | continues
  · exact retired.reads index accountVer version read
  · cases request with
    | refresh parent clientIp =>
      obtain ⟨isEmail'', isChain'', -, isChainVer'', decoded⟩ := continues
      exact retired.issued parent (signed_of_decoded run decoded) isEmail'' isChain'' version
        isChainVer''
    | _ => exact False.elim continues

/-- No login reads versions for a chain that has a signed token. -/
theorem readsForChain_of_opened {before after : Server} {email : String} {chainId : Nat}
    (consistent : start.Consistent)
    (run : Reaches (server settings) permits (Config.start start) before)
    (opened : ∃ token ∈ before.state.issued, token.chain = some chainId) {index : Nat}
    {reply : Except ServiceError (Nat × Nat)}
    (answers : Answers (server settings) permits before after index
      ⟨.selectVersions email chainId, reply⟩) :
    ReadsForChain before index ⟨.selectVersions email chainId, reply⟩ email chainId := by
  obtain ⟨request, next, running⟩ := answers.running
  obtain ⟨opens, -, unsigned⟩ := (run.disciplined (server_obeys settings) start).allows running
  refine ⟨rfl, _, running, ?_⟩
  cases request with
  | login address password =>
    obtain ⟨token, member, isChain⟩ := opened
    have encoded := (run_sound consistent run).opened index chainId opens.2 token member isChain
    rw [unsigned rfl] at encoded
    exact Bool.noConfusion encoded
  | updateMyProfile accessToken currentPassword password => rfl
  | _ => exact False.elim opens

/-- Only a password change can bring a retired chain back. -/
theorem Retired.step {before after : Server} {email : String} {chainId bound : Nat}
    (consistent : start.Consistent)
    (run : Reaches (server settings) permits (Config.start start) before)
    (retired : Retired before email chainId bound)
    (step : Step (server settings) permits before after)
    (quiet : ∀ index event, Answers (server settings) permits before after index event →
      ¬ ReadsForChain before index event email chainId) : Retired after email chainId bound := by
  have advance := step_advance step
  refine ⟨retired.reached.trans (advance.version _), ?_, ?_, ?_⟩
  · intro token member isEmail isChain version isVersion
    rcases step.cases_answers with ⟨-, unanswered⟩ | ⟨index, event, answers⟩
    · rw [unanswered_issued unanswered] at member
      exact retired.issued token member isEmail isChain version isVersion
    · rcases outcomes_issued index event.1 before.state _ answers.possible with same |
        ⟨token', isCall, added⟩
      · simp only at same
        rw [same] at member
        exact retired.issued token member isEmail isChain version isVersion
      · obtain ⟨call, reply⟩ := event
        simp only at isCall added
        subst isCall
        rw [added] at member
        rcases List.mem_cons.mp member with rfl | old
        · exact retired.signs run answers isEmail isChain isVersion
        · exact retired.issued token old isEmail isChain version isVersion
  · intro actor accountVer version read
    rcases step.cases_answers with ⟨history, -⟩ | ⟨index, event, answers⟩
    · rw [Config.trace_of_history history] at read
      exact retired.reads actor accountVer version read
    · by_cases isActor : index = actor
      · subst isActor
        rw [answers.trace_self] at read
        rcases List.mem_cons.mp read with rfl | old
        · exact absurd (readsForChain_of_opened consistent run retired.opened answers)
            (quiet index _ answers)
        · exact retired.reads index accountVer version old
      · rw [answers.trace_ne isActor] at read
        exact retired.reads actor accountVer version read
  · obtain ⟨token, member, isChain⟩ := retired.opened
    exact ⟨token, advance.issued token member, isChain⟩

theorem Retired.persists {email : String} {chainId bound : Nat} (consistent : start.Consistent)
    (run : Reaches (server settings) permits (Config.start start) config)
    (rest : Reaches (server settings) permits config config')
    (quiet : ∀ config index event, permits config index event →
      ¬ ReadsForChain config index event email chainId)
    (retired : Retired config email chainId bound) : Retired config' email chainId bound := by
  refine rest.preserves (fun config => Retired config email chainId bound) retired ?_
  intro before after earlier holds step
  exact holds.step consistent (run.trans earlier) step fun index event answers =>
    quiet before index event answers.permitted

/-- A token with a version below the current one is not accepted by what begins later. -/
theorem unaccepted_of_older {email : String} {chainId : Nat}
    (run : Reaches (server settings) permits (Config.start start) config)
    (rest : Reaches (server settings) permits config config') {index : Nat}
    (fresh : config.threads.length ≤ index) {token : Payload}
    (isEmail : token.email = some email) (isChain : token.chain = some chainId)
    (session : token.type ≠ .other)
    (older : ∀ version, token.chainVer = some version →
      version < config.state.version (.chain email chainId)) : ¬ Accepts config' index token := by
  intro accepts
  obtain ⟨-, email', chainId', accountVer, chainVer, isEmail', isChain', -, isChainVer, -, current⟩ :=
    accepted_versions run rest fresh accepts session
  obtain rfl := Option.some.inj (isEmail.symm.trans isEmail')
  obtain rfl := Option.some.inj (isChain.symm.trans isChain')
  have below := older chainVer isChainVer
  omega

end Runs

/-! ## A store with one user -/

instance (call : Call) : DecidableEq (Reply call) := by
  cases call <;> infer_instance

def sampleSettings : Settings where
  accessTokenExpire := 900
  refreshTokenExpire := 3600
  refreshTokenReuseGrace := 10
  sessionRowRetention := 7200
  accountPurgeGrace := 600
  jwtIssuer := "mystic-auth"
  jwtAudience := "mystic-auth-web"

def ann : User where
  id := 1
  email := "ann@example.com"
  hashedPassword := some "first"
  isVerified := true
  isActive := true
  deletedAt := none

def annsStore : World where
  now := 1000
  nextId := 1
  users := [ann]
  versions _ := none
  legacyVersions _ := none
  consumed := []
  sessions := []
  nextSessionId := 1
  markers _ := none
  issued := []
  userLocks := []

def annsToken (type : TokenType) (jti chainId accountVer chainVer exp : Nat) : Payload where
  email := some ann.email
  type := type
  jti := some jti
  chain := some chainId
  accountVer := some accountVer
  chainVer := some chainVer
  exp := some exp
  iss := some sampleSettings.jwtIssuer
  aud := some sampleSettings.jwtAudience

theorem annsStore_consistent : annsStore.Consistent :=
  World.consistent_of_empty annsStore rfl rfl

/-- Lets a thread make its next calls, each with its first outcome. -/
def runs (thread calls : Nat) : List (Move Request Disturbance) :=
  List.replicate calls (.reply thread 0)

/-- Where the schedule leads the sample server. -/
def Server.after (config : Server) (moves : List (Move Request Disturbance)) : Server :=
  config.follow (server sampleSettings) moves

theorem Server.after_reaches (config : Server) (moves : List (Move Request Disturbance)) :
    Reaches (server sampleSettings) anyCall config (config.after moves) :=
  Config.follow_reaches _ config moves

theorem accepts_of_verified {config : Server} {index : Nat} {token : Payload}
    (expectedType : Option TokenType) (payload : Payload)
    (isRequest : (config.threads[index]?).map Thread.request = some (.verify token expectedType))
    (finished : (config.threads[index]?).bind Thread.result =
      some (.ok (.verified (some payload)))) : Accepts config index token := by
  obtain ⟨thread, present, same⟩ := Option.map_eq_some_iff.mp isRequest
  rw [present] at finished
  exact ⟨thread, present, Or.inl ⟨expectedType, payload, same, finished⟩⟩

end MysticAuth.Tokens
