import MysticAuth.Tokens.Compliance

/-!
# What holds in every reachable state

Tokens and claims agree with the stores they are judged by, and what a reply
has said about versions, ids and signatures goes on to hold.
-/

set_option autoImplicit false

namespace MysticAuth.Tokens

open Interleaving

/-! ## Consistent stores -/

/-- No token carries a version that its counter has not reached, and no two tokens share an id. -/
structure World.Consistent (world : World) : Prop where
  accountVer : ∀ token ∈ world.issued, ∀ email version, token.email = some email →
    token.accountVer = some version → version ≤ world.version (.account email)
  chainVer : ∀ token ∈ world.issued, ∀ email chainId version, token.email = some email →
    token.chain = some chainId → token.chainVer = some version →
      version ≤ world.version (.chain email chainId)
  jti : ∀ token ∈ world.issued, ∀ jti, token.jti = some jti → jti < world.nextId
  chain : ∀ token ∈ world.issued, ∀ chainId, token.chain = some chainId → chainId < world.nextId
  sameToken : ∀ token ∈ world.issued, ∀ other ∈ world.issued, ∀ jti, token.jti = some jti →
    other.jti = some jti → token = other
  claimJti : ∀ row ∈ world.consumed, row.jti < world.nextId
  claimExpiry : ∀ row ∈ world.consumed, ∀ token ∈ world.issued, token.jti = some row.jti →
    token.exp = some row.expiresAt
  sameClaim : ∀ row ∈ world.consumed, ∀ other ∈ world.consumed, row.jti = other.jti → row = other

/-- A store before the first login. -/
theorem World.consistent_of_empty (world : World) (unsigned : world.issued = [])
    (unclaimed : world.consumed = []) : world.Consistent := by
  constructor <;> simp [unsigned, unclaimed]

section Consistent

variable {world after : World}

/-- A step that signs nothing and claims nothing. -/
theorem World.Consistent.advance (consistent : world.Consistent) (advance : Advance world after)
    (issued : after.issued = world.issued)
    (consumed : ∀ row ∈ after.consumed, row ∈ world.consumed) : after.Consistent where
  accountVer := by
    intro token member email version isEmail isVersion
    rw [issued] at member
    have bound := consistent.accountVer token member email version isEmail isVersion
    exact bound.trans (advance.version _)
  chainVer := by
    intro token member email chainId version isEmail isChain isVersion
    rw [issued] at member
    have bound := consistent.chainVer token member email chainId version isEmail isChain isVersion
    exact bound.trans (advance.version _)
  jti := by
    intro token member jti isJti
    rw [issued] at member
    exact Nat.lt_of_lt_of_le (consistent.jti token member jti isJti) advance.nextId
  chain := by
    intro token member chainId isChain
    rw [issued] at member
    exact Nat.lt_of_lt_of_le (consistent.chain token member chainId isChain) advance.nextId
  sameToken := by
    rw [issued]
    exact consistent.sameToken
  claimJti := by
    intro row member
    exact Nat.lt_of_lt_of_le (consistent.claimJti row (consumed row member)) advance.nextId
  claimExpiry := by
    rw [issued]
    intro row member
    exact consistent.claimExpiry row (consumed row member)
  sameClaim := by
    intro row member other member'
    exact consistent.sameClaim row (consumed row member) other (consumed other member')

theorem not_claimed (world : World) (jti : Nat) (unclaimed : world.claimOf jti = none)
    (row : ConsumedRefreshToken) (member : row ∈ world.consumed) : row.jti ≠ jti := by
  have differs := List.find?_eq_none.mp unclaimed row member
  simpa using differs

/-- The claim of a signed token. -/
theorem World.Consistent.claim (consistent : world.Consistent) (row : ConsumedRefreshToken)
    (unclaimed : world.claimOf row.jti = none) (issued : after.issued = world.issued)
    (advance : Advance world after) (consumed : after.consumed = row :: world.consumed)
    (token : Payload) (signed : token ∈ world.issued) (isJti : token.jti = some row.jti)
    (isExp : token.exp = some row.expiresAt) : after.Consistent := by
  have rest : ({ after with consumed := world.consumed } : World).Consistent :=
    consistent.advance ⟨advance.now, advance.nextId, advance.version, advance.legacyVersions,
      advance.issued⟩ issued fun _ member => member
  refine ⟨rest.accountVer, rest.chainVer, rest.jti, rest.chain, rest.sameToken, ?_, ?_, ?_⟩
  · intro row' member
    rw [consumed] at member
    rcases List.mem_cons.mp member with rfl | old
    · exact Nat.lt_of_lt_of_le (consistent.jti token signed _ isJti) advance.nextId
    · exact rest.claimJti row' old
  · intro row' member token' signed' isJti'
    rw [consumed] at member
    rcases List.mem_cons.mp member with rfl | old
    · rw [issued] at signed'
      rw [consistent.sameToken token' signed' token signed _ isJti' isJti]
      exact isExp
    · exact rest.claimExpiry row' old token' signed' isJti'
  · intro first member second member' same
    rw [consumed] at member member'
    have fresh := not_claimed world row.jti unclaimed
    rcases List.mem_cons.mp member with rfl | old <;> rcases List.mem_cons.mp member' with rfl | old'
    · rfl
    · exact absurd same.symm (fresh second old')
    · exact absurd same (fresh first old)
    · exact consistent.sameClaim first old second old' same

/-- The signature of a token with a new id. -/
theorem World.Consistent.sign (consistent : world.Consistent) (token : Payload)
    (email : String) (chainId accountVer chainVer jti : Nat) (isEmail : token.email = some email)
    (isChain : token.chain = some chainId) (isAccount : token.accountVer = some accountVer)
    (isChainVer : token.chainVer = some chainVer) (isJti : token.jti = some jti)
    (account : accountVer ≤ world.version (.account email))
    (chain : chainVer ≤ world.version (.chain email chainId))
    (drawn : jti < world.nextId) (drawnChain : chainId < world.nextId)
    (fresh : ∀ other ∈ world.issued, other.jti ≠ some jti)
    (freshClaim : ∀ row ∈ world.consumed, row.jti ≠ jti) :
    ({ world with issued := token :: world.issued } : World).Consistent where
  accountVer := by
    intro other member email' version isEmail' isVersion
    rcases List.mem_cons.mp member with rfl | old
    · obtain rfl := Option.some.inj (isEmail.symm.trans isEmail')
      obtain rfl := Option.some.inj (isAccount.symm.trans isVersion)
      exact account
    · exact consistent.accountVer other old email' version isEmail' isVersion
  chainVer := by
    intro other member email' chainId' version isEmail' isChain' isVersion
    rcases List.mem_cons.mp member with rfl | old
    · obtain rfl := Option.some.inj (isEmail.symm.trans isEmail')
      obtain rfl := Option.some.inj (isChain.symm.trans isChain')
      obtain rfl := Option.some.inj (isChainVer.symm.trans isVersion)
      exact chain
    · exact consistent.chainVer other old email' chainId' version isEmail' isChain' isVersion
  jti := by
    intro other member jti' isJti'
    rcases List.mem_cons.mp member with rfl | old
    · obtain rfl := Option.some.inj (isJti.symm.trans isJti')
      exact drawn
    · exact consistent.jti other old jti' isJti'
  chain := by
    intro other member chainId' isChain'
    rcases List.mem_cons.mp member with rfl | old
    · obtain rfl := Option.some.inj (isChain.symm.trans isChain')
      exact drawnChain
    · exact consistent.chain other old chainId' isChain'
  sameToken := by
    intro first member second member' jti' isJti' isJti''
    rcases List.mem_cons.mp member with rfl | old <;> rcases List.mem_cons.mp member' with rfl | old'
    · rfl
    · rw [isJti] at isJti'
      exact absurd (isJti''.trans isJti'.symm) (fresh second old')
    · rw [isJti] at isJti''
      exact absurd (isJti'.trans isJti''.symm) (fresh first old)
    · exact consistent.sameToken first old second old' jti' isJti' isJti''
  claimJti := consistent.claimJti
  claimExpiry := by
    intro row member other signed isJti'
    rcases List.mem_cons.mp signed with rfl | old
    · have same := Option.some.inj (isJti.symm.trans isJti')
      exact absurd same.symm (freshClaim row member)
    · exact consistent.claimExpiry row member other old isJti'
  sameClaim := consistent.sameClaim

end Consistent

/-! ## Lasting replies -/

/-- What a reply goes on to say about the stores. -/
def Lasting : Event → World → Prop
  | ⟨.uuid, id⟩, world => id < world.nextId
  | ⟨.decode token, true⟩, world => token ∈ world.issued
  | ⟨.encode token, ()⟩, world => token ∈ world.issued
  | ⟨.selectVersion key, .ok version⟩, world => version ≤ world.version key
  | ⟨.selectVersions email chainId, .ok versions⟩, world =>
      versions.1 ≤ world.version (.account email) ∧
        versions.2 ≤ world.version (.chain email chainId)
  | ⟨.lockVersion key, .ok version⟩, world => (world.legacyVersions key).getD 0 ≤ version
  | _, _ => True

theorem Lasting.advance {event : Event} {before after : World} (advance : Advance before after)
    (holds : Lasting event before) : Lasting event after := by
  obtain ⟨call, reply⟩ := event
  cases call with
  | uuid => exact Nat.lt_of_lt_of_le holds advance.nextId
  | encode token => exact advance.issued token holds
  | decode token =>
    cases reply with
    | true => exact advance.issued token holds
    | false => trivial
  | selectVersion key =>
    cases reply with
    | ok version => exact Nat.le_trans holds (advance.version key)
    | error failure => trivial
  | selectVersions email chainId =>
    cases reply with
    | ok versions =>
      exact ⟨Nat.le_trans holds.1 (advance.version _), Nat.le_trans holds.2 (advance.version _)⟩
    | error failure => trivial
  | lockVersion key =>
    cases reply with
    | ok version =>
      change (after.legacyVersions key).getD 0 ≤ version
      rw [advance.legacyVersions]
      exact holds
    | error failure => trivial
  | _ => trivial

theorem outcomes_lasting (thread : Nat) (call : Call) (world : World)
    (outcome : Reply call × World) (possible : outcome ∈ outcomes thread call world) :
    Lasting ⟨call, outcome.1⟩ outcome.2 := by
  cases call with
  | uuid =>
    obtain rfl := List.mem_singleton.mp possible
    exact Nat.lt_succ_self world.nextId
  | encode token =>
    obtain rfl := List.mem_singleton.mp possible
    exact List.mem_cons_self
  | decode token =>
    obtain rfl := List.mem_singleton.mp possible
    cases valid : world.decodes token with
    | false => trivial
    | true =>
      simp only [World.decodes, Bool.and_eq_true, decide_eq_true_eq] at valid
      exact valid.1
  | selectVersion key =>
    simp only [outcomes, selected, List.mem_cons, List.not_mem_nil, or_false] at possible
    rcases possible with rfl | rfl
    · exact Nat.le_refl _
    · trivial
  | selectVersions email chainId =>
    simp only [outcomes, selected, List.mem_cons, List.not_mem_nil, or_false] at possible
    rcases possible with rfl | rfl
    · exact ⟨Nat.le_refl _, Nat.le_refl _⟩
    · trivial
  | lockVersion key =>
    simp only [outcomes, selected, List.mem_cons, List.not_mem_nil, or_false] at possible
    rcases possible with rfl | rfl
    · exact Nat.le_max_right _ _
    · trivial
  | _ => trivial

/-! ## Draws -/

theorem lastDraw_drawn {trace : Trace} {id : Nat} (isLast : lastDraw trace = some id) :
    ⟨.uuid, id⟩ ∈ trace := by
  induction trace with
  | nil => simp [lastDraw] at isLast
  | cons event earlier ih =>
    obtain ⟨call, reply⟩ := event
    cases call with
    | uuid =>
      obtain rfl := Option.some.inj isLast
      exact List.mem_cons_self
    | encode token => simp [lastDraw] at isLast
    | _ => exact List.mem_cons_of_mem _ (ih isLast)

theorem firstDraw_drawn {trace : Trace} {id : Nat} (isFirst : firstDraw trace = some id) :
    ⟨.uuid, id⟩ ∈ trace := by
  induction trace with
  | nil => simp [firstDraw] at isFirst
  | cons event earlier ih =>
    obtain ⟨call, reply⟩ := event
    cases call with
    | uuid =>
      cases drawn : firstDraw earlier with
      | none =>
        simp only [firstDraw, drawn, Option.or, Option.some.injEq] at isFirst
        subst isFirst
        exact List.mem_cons_self
      | some first =>
        simp only [firstDraw, drawn, Option.or, Option.some.injEq] at isFirst
        subst isFirst
        exact List.mem_cons_of_mem _ (ih drawn)
    | _ => exact List.mem_cons_of_mem _ (ih isFirst)

theorem lastDraw_cons {event : Event} (trace : Trace) (undrawn : event.1 ≠ .uuid)
    (unsigned : event.1.isEncode = false) : lastDraw (event :: trace) = lastDraw trace := by
  obtain ⟨call, reply⟩ := event
  cases call <;> first | rfl | exact absurd rfl undrawn | simp [Call.isEncode] at unsigned

theorem firstDraw_cons_other {event : Event} (trace : Trace) (undrawn : event.1 ≠ .uuid) :
    firstDraw (event :: trace) = firstDraw trace := by
  obtain ⟨call, reply⟩ := event
  cases call <;> first | rfl | exact absurd rfl undrawn

theorem hasEncoded_cons (event : Event) {trace : Trace}
    (encoded : hasEncoded trace = true) : hasEncoded (event :: trace) = true := by
  unfold hasEncoded at encoded ⊢
  rw [List.any_cons, encoded, Bool.or_true]

/-! ## Reachable states -/

/-- An id belongs to the thread that has drawn it until it is signed, and a chain to the login
that has drawn it until the login signs its first token. -/
structure Sound (config : Server) : Prop where
  consistent : config.state.Consistent
  sameDraw : ∀ thread other id, (thread, ⟨.uuid, id⟩) ∈ config.history →
    (other, ⟨.uuid, id⟩) ∈ config.history → thread = other
  unsigned : ∀ thread id, lastDraw (config.trace thread) = some id →
    ∀ token ∈ config.state.issued, token.jti ≠ some id
  unclaimed : ∀ thread id, lastDraw (config.trace thread) = some id →
    ∀ row ∈ config.state.consumed, row.jti ≠ id
  opened : ∀ thread id, firstDraw (config.trace thread) = some id →
    ∀ token ∈ config.state.issued, token.chain = some id → hasEncoded (config.trace thread) = true

section Runs

variable {settings : Settings} {permits : Server → Nat → Event → Prop}
variable {start : World} {config config' : Server}

theorem history_lasting (run : Reaches (server settings) permits (Config.start start) config) :
    ∀ entry ∈ config.history, Lasting entry.2 config.state :=
  run.lasting Lasting outcomes_lasting fun _ _ step _ holds => holds.advance (step_advance step)

/-- A call that neither draws nor signs, and claims nothing but a signed token. -/
theorem Sound.other {thread : Nat} {event : Event} (sound : Sound config)
    (answers : Answers (server settings) permits config config' thread event)
    (undrawn : event.1 ≠ .uuid) (unencoded : event.1.isEncode = false)
    (consistent : config'.state.Consistent) (issued : config'.state.issued = config.state.issued)
    (claims : ∀ row ∈ config'.state.consumed, row ∈ config.state.consumed ∨
      ∃ token ∈ config.state.issued, token.jti = some row.jti) : Sound config' := by
  have drawn {actor id : Nat} (member : (actor, ⟨.uuid, id⟩) ∈ config'.history) :
      (actor, ⟨.uuid, id⟩) ∈ config.history := by
    rw [answers.recorded] at member
    rcases List.mem_cons.mp member with same | old
    · obtain ⟨-, isEvent⟩ := Prod.mk.inj same
      exact absurd (congrArg Sigma.fst isEvent).symm undrawn
    · exact old
  have lastSame (actor : Nat) :
      lastDraw (config'.trace actor) = lastDraw (config.trace actor) := by
    by_cases isActor : thread = actor
    · subst isActor
      rw [answers.trace_self, lastDraw_cons _ undrawn unencoded]
    · rw [answers.trace_ne isActor]
  refine ⟨consistent, ?_, ?_, ?_, ?_⟩
  · intro actor other id member member'
    exact sound.sameDraw actor other id (drawn member) (drawn member')
  · intro actor id isLast
    rw [lastSame] at isLast
    rw [issued]
    exact sound.unsigned actor id isLast
  · intro actor id isLast row member
    rw [lastSame] at isLast
    rcases claims row member with old | ⟨token, signed, isJti⟩
    · exact sound.unclaimed actor id isLast row old
    · intro same
      rw [same] at isJti
      exact sound.unsigned actor id isLast token signed isJti
  · intro actor id isFirst token member isChain
    rw [issued] at member
    by_cases isActor : thread = actor
    · subst isActor
      rw [answers.trace_self] at isFirst ⊢
      rw [firstDraw_cons_other _ undrawn] at isFirst
      exact hasEncoded_cons _ (sound.opened thread id isFirst token member isChain)
    · rw [answers.trace_ne isActor] at isFirst ⊢
      exact sound.opened actor id isFirst token member isChain

theorem Sound.draw {thread id : Nat} (sound : Sound config)
    (lasting : ∀ entry ∈ config.history, Lasting entry.2 config.state)
    (answers : Answers (server settings) permits config config' thread ⟨.uuid, id⟩) :
    Sound config' := by
  obtain ⟨isId, isState⟩ := Prod.mk.inj (List.mem_singleton.mp answers.possible)
  change id = config.state.nextId at isId
  have bound {actor drawn : Nat} (member : (actor, ⟨.uuid, drawn⟩) ∈ config.history) :
      drawn < id := by
    rw [isId]
    exact lasting _ member
  refine ⟨?_, ?_, ?_, ?_, ?_⟩
  · refine sound.consistent.advance (step_advance answers.step) ?_ ?_
    · rw [isState]
    · rw [isState]
      exact fun row member => member
  · intro actor other drawn member member'
    rw [answers.recorded] at member member'
    rcases List.mem_cons.mp member with same | old <;>
      rcases List.mem_cons.mp member' with same' | old'
    · exact (Prod.mk.inj same).1.trans (Prod.mk.inj same').1.symm
    · obtain rfl := eq_of_heq (Sigma.mk.inj (Prod.mk.inj same).2).2
      exact absurd (bound old') (Nat.lt_irrefl _)
    · obtain rfl := eq_of_heq (Sigma.mk.inj (Prod.mk.inj same').2).2
      exact absurd (bound old) (Nat.lt_irrefl _)
    · exact sound.sameDraw actor other drawn old old'
  · intro actor drawn isLast token member isJti
    rw [isState] at member
    by_cases isActor : thread = actor
    · subst isActor
      rw [answers.trace_self] at isLast
      obtain rfl := Option.some.inj isLast
      have below := sound.consistent.jti token member _ isJti
      omega
    · rw [answers.trace_ne isActor] at isLast
      exact sound.unsigned actor drawn isLast token member isJti
  · intro actor drawn isLast row member isJti
    rw [isState] at member
    by_cases isActor : thread = actor
    · subst isActor
      rw [answers.trace_self] at isLast
      obtain rfl := Option.some.inj isLast
      have below := sound.consistent.claimJti row member
      omega
    · rw [answers.trace_ne isActor] at isLast
      exact sound.unclaimed actor drawn isLast row member isJti
  · intro actor drawn isFirst token member isChain
    rw [isState] at member
    by_cases isActor : thread = actor
    · subst isActor
      rw [answers.trace_self] at isFirst ⊢
      cases already : firstDraw (config.trace thread) with
      | none =>
        simp only [firstDraw, already, Option.or, Option.some.injEq] at isFirst
        have below := sound.consistent.chain token member _ isChain
        omega
      | some first =>
        simp only [firstDraw, already, Option.or, Option.some.injEq] at isFirst
        rw [isFirst] at already
        exact hasEncoded_cons _ (sound.opened thread drawn already token member isChain)
    · rw [answers.trace_ne isActor] at isFirst ⊢
      exact sound.opened actor drawn isFirst token member isChain

/-- The versions a token is signed with have been reached, and its chain is the signer's own, or
has a signed token. -/
theorem Request.HasGrounds.bounds {request : Request} {thread : Nat} {email : String}
    {chainId accountVer chainVer : Nat} (sound : Sound config)
    (lasting : ∀ entry ∈ config.history, Lasting entry.2 config.state)
    (grounds : request.HasGrounds (config.trace thread) email chainId accountVer chainVer) :
    accountVer ≤ config.state.version (.account email) ∧
      chainVer ≤ config.state.version (.chain email chainId) ∧
      (firstDraw (config.trace thread) = some chainId ∨
        ∃ parent ∈ config.state.issued, parent.chain = some chainId) := by
  have signed {token : Payload} (decoded : ⟨.decode token, true⟩ ∈ config.trace thread) :
      token ∈ config.state.issued := by
    have holds := lasting _ ((Config.mem_trace thread _).mp decoded)
    exact holds
  rcases grounds with ⟨opens, -, read⟩ | continues
  · obtain ⟨account, chain⟩ := lasting _ ((Config.mem_trace thread _).mp read)
    refine ⟨account, chain, ?_⟩
    cases request with
    | login address password => exact Or.inl opens.2
    | updateMyProfile accessToken currentPassword password =>
      exact Or.inr ⟨accessToken, signed opens.2.2, opens.2.1⟩
    | _ => exact False.elim opens
  · cases request with
    | refresh parent clientIp =>
      obtain ⟨isEmail, isChain, isAccount, isChainVer, decoded⟩ := continues
      have member := signed decoded
      exact ⟨sound.consistent.accountVer parent member email accountVer isEmail isAccount,
        sound.consistent.chainVer parent member email chainId chainVer isEmail isChain isChainVer,
        Or.inr ⟨parent, member, isChain⟩⟩
    | _ => exact False.elim continues

theorem Sound.sign {thread : Nat} {token : Payload} (sound : Sound config)
    (lasting : ∀ entry ∈ config.history, Lasting entry.2 config.state)
    (answers : Answers (server settings) permits config config' thread ⟨.encode token, ()⟩)
    (disciplined : config.Disciplined Request.discipline Request.returns) :
    Sound config' := by
  obtain ⟨-, isState⟩ := Prod.mk.inj (List.mem_singleton.mp answers.possible)
  change config'.state = { config.state with issued := token :: config.state.issued } at isState
  obtain ⟨request, next, running⟩ := answers.running
  obtain ⟨email, chainId, accountVer, chainVer, jti, isEmail, isChain, isAccount, isChainVer, -,
    isJti, isLast, grounds⟩ := disciplined.allows running
  obtain ⟨account, chain, known⟩ := grounds.bounds sound lasting
  have drawnOf {id : Nat} (member : ⟨.uuid, id⟩ ∈ config.trace thread) : id < config.state.nextId := by
    have holds := lasting _ ((Config.mem_trace thread _).mp member)
    exact holds
  have drawnChain : chainId < config.state.nextId := by
    rcases known with isFirst | ⟨parent, member, isParent⟩
    · exact drawnOf (firstDraw_drawn isFirst)
    · exact sound.consistent.chain parent member chainId isParent
  have mine {actor id : Nat} (member : ⟨.uuid, id⟩ ∈ config.trace actor)
      (member' : ⟨.uuid, id⟩ ∈ config.trace thread) : actor = thread :=
    sound.sameDraw actor thread id ((Config.mem_trace actor _).mp member)
      ((Config.mem_trace thread _).mp member')
  refine ⟨?_, ?_, ?_, ?_, ?_⟩
  · rw [isState]
    exact sound.consistent.sign token email chainId accountVer chainVer jti isEmail isChain
      isAccount isChainVer isJti account chain (drawnOf (lastDraw_drawn isLast)) drawnChain
      (sound.unsigned thread jti isLast) (sound.unclaimed thread jti isLast)
  · intro actor other id member member'
    rw [answers.recorded] at member member'
    have old {actor : Nat} (among : (actor, (⟨.uuid, id⟩ : Event)) ∈
        (thread, ⟨.encode token, ()⟩) :: config.history) :
        (actor, ⟨.uuid, id⟩) ∈ config.history := by
      simpa using among
    exact sound.sameDraw actor other id (old member) (old member')
  · intro actor id isLast' other member isJti'
    rw [isState] at member
    by_cases isActor : thread = actor
    · subst isActor
      rw [answers.trace_self] at isLast'
      simp [lastDraw] at isLast'
    · rw [answers.trace_ne isActor] at isLast'
      rcases List.mem_cons.mp member with rfl | old
      · obtain rfl := Option.some.inj (isJti.symm.trans isJti')
        exact isActor (mine (lastDraw_drawn isLast') (lastDraw_drawn isLast)).symm
      · exact sound.unsigned actor id isLast' other old isJti'
  · intro actor id isLast' row member
    rw [isState] at member
    by_cases isActor : thread = actor
    · subst isActor
      rw [answers.trace_self] at isLast'
      simp [lastDraw] at isLast'
    · rw [answers.trace_ne isActor] at isLast'
      exact sound.unclaimed actor id isLast' row member
  · intro actor id isFirst other member isChain'
    rw [isState] at member
    by_cases isActor : thread = actor
    · subst isActor
      rw [answers.trace_self]
      rfl
    · rw [answers.trace_ne isActor] at isFirst ⊢
      rcases List.mem_cons.mp member with rfl | old
      · obtain rfl := Option.some.inj (isChain.symm.trans isChain')
        rcases known with isOwn | ⟨parent, signed, isParent⟩
        · exact absurd (mine (firstDraw_drawn isFirst) (firstDraw_drawn isOwn)).symm isActor
        · exact sound.opened actor _ isFirst parent signed isParent
      · exact sound.opened actor id isFirst other old isChain'

theorem Sound.unanswered (sound : Sound config) (history : config'.history = config.history)
    (consistent : config'.state.Consistent) (issued : config'.state.issued = config.state.issued)
    (consumed : config'.state.consumed = config.state.consumed) : Sound config' := by
  have same := Config.trace_of_history history
  refine ⟨consistent, ?_, ?_, ?_, ?_⟩
  · rw [history]
    exact sound.sameDraw
  · intro thread id
    rw [same, issued]
    exact sound.unsigned thread id
  · intro thread id
    rw [same, consumed]
    exact sound.unclaimed thread id
  · intro thread id
    rw [same, issued]
    exact sound.opened thread id

/-- What a call other than a draw or a signature does to the claims and the signed tokens. -/
theorem Sound.answer {thread : Nat} {event : Event} (sound : Sound config)
    (lasting : ∀ entry ∈ config.history, Lasting entry.2 config.state)
    (answers : Answers (server settings) permits config config' thread event)
    (disciplined : config.Disciplined Request.discipline Request.returns)
    (undrawn : event.1 ≠ .uuid) (unencoded : event.1.isEncode = false) : Sound config' := by
  have advance := step_advance answers.step
  have issued : config'.state.issued = config.state.issued := by
    rcases outcomes_issued thread event.1 config.state _ answers.possible with same | ⟨token, isCall, -⟩
    · exact same
    · rw [isCall] at unencoded
      simp [Call.isEncode] at unencoded
  cases outcomes_claims thread event.1 config.state _ answers.possible with
  | same unchanged =>
    refine sound.other answers undrawn unencoded ?_ issued fun row member => Or.inl ?_
    · exact sound.consistent.advance advance issued fun row member => unchanged ▸ member
    · exact unchanged ▸ member
  | claimed row isCall unclaimed added =>
    obtain ⟨request, next, running⟩ := answers.running
    have allowed := disciplined.allows running
    rw [isCall] at allowed
    obtain ⟨token, -, isJti, isExp, -, -, -, decoded, -, -⟩ := allowed
    have signed : token ∈ config.state.issued := by
      have holds := lasting _ ((Config.mem_trace thread _).mp decoded)
      exact holds
    refine sound.other answers undrawn unencoded ?_ issued fun row' member => ?_
    · exact sound.consistent.claim (row.consumed config.state.now) unclaimed issued advance added
        token signed isJti isExp
    · rw [added] at member
      rcases List.mem_cons.mp member with rfl | old
      · exact Or.inr ⟨token, signed, isJti⟩
      · exact Or.inl old
  | purged isCall kept =>
    have old {row : ConsumedRefreshToken} (member : row ∈ config'.state.consumed) :
        row ∈ config.state.consumed := by
      rw [kept] at member
      exact List.mem_of_mem_filter member
    exact sound.other answers undrawn unencoded
      (sound.consistent.advance advance issued fun row member => old member) issued
      fun row member => Or.inl (old member)

theorem run_sound (consistent : start.Consistent)
    (run : Reaches (server settings) permits (Config.start start) config) : Sound config := by
  refine run.preserves Sound ⟨consistent, ?_, ?_, ?_, ?_⟩ fun before after earlier sound step => ?_
  · simp [Config.start]
  · simp [Config.trace_start, lastDraw]
  · simp [Config.trace_start, lastDraw]
  · simp [Config.trace_start, firstDraw]
  have lasting := history_lasting earlier
  have disciplined := earlier.disciplined (server_obeys settings) start
  rcases step.cases_answers with ⟨history, unchanged | ⟨event, disturbed⟩⟩ | ⟨thread, event, answers⟩
  · refine sound.unanswered history ?_ (by rw [unchanged]) (by rw [unchanged])
    rw [unchanged]
    exact sound.consistent
  · have issued : after.state.issued = before.state.issued := by
      rw [disturbed]
      cases event <;> rfl
    have consumed : after.state.consumed = before.state.consumed := by
      rw [disturbed]
      cases event <;> rfl
    exact sound.unanswered history (sound.consistent.advance (step_advance step) issued
      fun row member => consumed ▸ member) issued consumed
  · obtain ⟨call, reply⟩ := event
    by_cases isDraw : call = .uuid
    · subst isDraw
      exact sound.draw lasting answers
    · by_cases isEncode : call.isEncode = true
      · cases call with
        | encode token => exact sound.sign lasting answers disciplined
        | _ => simp [Call.isEncode] at isEncode
      · exact sound.answer lasting answers disciplined isDraw (by simpa using isEncode)

end Runs

end MysticAuth.Tokens
