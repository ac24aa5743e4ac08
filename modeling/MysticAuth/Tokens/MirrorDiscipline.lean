import MysticAuth.Tokens.TraceFrames

/-!
# Rotations and revocations of one account

The refreshes of one account together with the revocations of all its sessions,
of a chain and of one session.  A revocation bumps a version first and then
turns to the mirror; a refresh ends with a write to the mirror.
-/

set_option autoImplicit false

namespace MysticAuth.Tokens

open Interleaving Program

/-! ## The requests -/

/-- Every request is about the account with the address. -/
inductive MirrorRequest (email : String) where
  | refresh (refreshToken : Payload) (clientIp : Option String)
      (ofAccount : refreshToken.email = some email)
  | revokeAll
  | revokeChain (chainId : Nat)
  | revokeOne (sessionId : Nat)
  deriving DecidableEq

def mirrorHandle (settings : Settings) (email : String) : MirrorRequest email → Service Unit
  | .refresh refreshToken clientIp _ => do
      let _ ← refreshTokens settings refreshToken clientIp
      return ()
  | .revokeAll => do
      let _ ← revokeAllTokensForUser email
      return ()
  | .revokeChain chainId => revokeChainForUser email chainId
  | .revokeOne sessionId => do
      let _ ← revokeOneSession email sessionId
      return ()

def mirrorServer (settings : Settings) (email : String) :
    System (MirrorRequest email) World Disturbance Reply ServiceError Unit where
  handle := mirrorHandle settings email
  outcomes := outcomes
  disturb := disturb

abbrev MirrorServer (email : String) := Config (MirrorRequest email) World Reply ServiceError Unit

/-! ## What they may call -/

/-- The calls with which a revocation turns to the mirror. -/
def Call.endsSessions : Call → Bool
  | selectSessionByChain _ => true
  | deleteSession _ => true
  | deleteSessionsOf _ _ => true
  | _ => false

/-- The calls that change accounts or purge rows, which none of the requests makes. -/
def Call.isForeign : Call → Bool
  | deleteSessionsExpiredBefore _ => true
  | setLastLogin _ => true
  | setPassword _ _ => true
  | softDelete _ _ => true
  | reactivate _ => true
  | deleteUser _ => true
  | _ => false

def Call.isBump : Call → Bool
  | upsertVersion _ _ => true
  | _ => false

/-- A row that was looked up in order to end its session. -/
def Targets (trace : Trace) (session : UserSession) : Prop :=
  (∃ sessionId, ⟨.selectSessionById sessionId, .ok (some session)⟩ ∈ trace) ∨
    ∃ chainId, ⟨.selectSessionByChain chainId, .ok (some session)⟩ ∈ trace

def mirrorAllows (email : String) (trace : Trace) : Call → Prop
  | .selectSessionByChain chainId => Bumped trace (.chain email chainId)
  | .deleteSession sessionId => ∃ session, Targets trace session ∧ session.id = sessionId ∧
      ∀ chainId, session.chainId = some chainId → Bumped trace (.chain email chainId)
  | .deleteSessionsOf _ exemptChainId => exemptChainId = none ∧ Bumped trace (.account email)
  | other => other.isForeign = false

def mirrorAnswers : (call : Call) → Reply call → Prop
  | .selectSessionByChain chainId, .ok (some session) => session.chainId = some chainId
  | _, _ => True

def mirrorDiscipline (email : String) : Discipline Reply :=
  ⟨mirrorAllows email, mirrorAnswers⟩

/-! ## What they have done -/

/-- The store failed a revocation that had bumped its version.  The first lookup of the account is
only for the number of sessions. -/
def Lapse (earlier : Trace) (event : Event) : Prop :=
  (∃ key, Bumped earlier key) ∧ failed event = true ∧ match event.1 with
    | .selectUserByEmail email => ∃ reply, ⟨.selectUserByEmail email, reply⟩ ∈ earlier
    | other => other.endsSessions = true

def Lapsed (trace : Trace) : Prop :=
  ∃ event earlier, event :: earlier <:+ trace ∧ Lapse earlier event

/-- The rows that a version covers were found to be missing, or were deleted. -/
def Ended (trace : Trace) : VersionKey → Prop
  | .account email => ⟨.selectUserByEmail email, .ok none⟩ ∈ trace ∨
      ∃ user count, ⟨.selectUserByEmail email, .ok (some user)⟩ ∈ trace ∧
        ⟨.deleteSessionsOf user.id none, .ok count⟩ ∈ trace
  | .chain _ chainId => ⟨.selectSessionByChain chainId, .ok none⟩ ∈ trace ∨
      ∃ session, Targets trace session ∧ session.chainId = some chainId ∧
        ⟨.deleteSession session.id, .ok ()⟩ ∈ trace

def Settled (trace : Trace) : Prop :=
  ∀ key, Bumped trace key → Lapsed trace ∨ Ended trace key

section Suffix

variable {trace later : Trace} (longer : trace <:+ later)

include longer

theorem Targets.extend {session : UserSession} (targets : Targets trace session) :
    Targets later session := by
  rcases targets with ⟨sessionId, member⟩ | ⟨chainId, member⟩
  · exact Or.inl ⟨sessionId, longer.subset member⟩
  · exact Or.inr ⟨chainId, longer.subset member⟩

theorem Lapsed.extend (lapsed : Lapsed trace) : Lapsed later := by
  obtain ⟨event, earlier, within, lapse⟩ := lapsed
  exact ⟨event, earlier, within.trans longer, lapse⟩

theorem Ended.extend {key : VersionKey} (ended : Ended trace key) : Ended later key := by
  cases key with
  | account email =>
    rcases ended with missing | ⟨user, count, found, deleted⟩
    · exact Or.inl (longer.subset missing)
    · exact Or.inr ⟨user, count, longer.subset found, longer.subset deleted⟩
  | chain email chainId =>
    rcases ended with missing | ⟨session, targets, ofChain, deleted⟩
    · exact Or.inl (longer.subset missing)
    · exact Or.inr ⟨session, targets.extend longer, ofChain, longer.subset deleted⟩

/-- As long as nothing more is bumped, what is settled stays settled. -/
theorem Settled.extend (settled : Settled trace)
    (unbumped : ∀ key, Bumped later key → Bumped trace key) : Settled later := by
  intro key bumped
  rcases settled key (unbumped key bumped) with lapsed | ended
  · exact Or.inl (lapsed.extend longer)
  · exact Or.inr (ended.extend longer)

end Suffix

/-! ## Calls aside -/

/-- A call that neither bumps a version nor turns to the mirror to end a session. -/
def Call.isAside (call : Call) : Prop :=
  call.isBump = false ∧ call.endsSessions = false ∧ call.isForeign = false

theorem mirrorAllows_of_aside (email : String) (trace : Trace) {call : Call}
    (aside : call.isAside) : mirrorAllows email trace call := by
  obtain ⟨-, ends, foreign⟩ := aside
  cases call <;> first | exact foreign | simp [Call.endsSessions] at ends

theorem aside_of_rotatesSession (call : Call) (rotates : call.rotatesSession = true) :
    call.isAside := by
  cases call <;> first | exact ⟨rfl, rfl, rfl⟩ | simp [Call.rotatesSession] at rotates

theorem bumped_of_aside {event : Event} {trace : Trace} {key : VersionKey}
    (aside : event.1.isBump = false) (bumped : Bumped (event :: trace) key) :
    Bumped trace key := by
  obtain ⟨version, stored, member⟩ := bumped
  rcases List.mem_cons.mp member with same | earlier
  · rw [← same] at aside
    simp [Call.isBump] at aside
  · exact ⟨version, stored, earlier⟩

theorem bumped_of_asides {added trace : Trace} {key : VersionKey}
    (asides : ∀ event ∈ added, event.1.isAside) (bumped : Bumped (added ++ trace) key) :
    Bumped trace key := by
  induction added with
  | nil => exact bumped
  | cons event rest ih =>
    have first := bumped_of_aside (asides event List.mem_cons_self).1 bumped
    exact ih (fun other member => asides other (List.mem_cons_of_mem event member)) first

/-- A function that makes only calls aside. -/
abbrev Aside {α : Type} (service : Service α) : Prop :=
  service.Confined Call.isAside

section Aside

variable {α β : Type}

theorem aside_execute (call : Call) (result : Reply call → Except ServiceError α)
    (aside : call.isAside) : Aside (execute call result) :=
  (confined_attempt call result).mpr aside

theorem aside_logSecurityEvent : Aside logSecurityEvent :=
  confined_bestEffort _ (aside_execute _ _ ⟨rfl, rfl, rfl⟩)

theorem aside_createToken (settings : Settings) (type : TokenType) (lifetime : Nat)
    (email : String) (chainId : Nat) (issuedAt : Option Nat) (versions : Option (Nat × Nat)) :
    Aside (createToken settings type lifetime email chainId issuedAt versions) := by
  refine confined_createToken _ _ _ _ _ _ _ fun call signs => ?_
  cases call <;> first | exact ⟨rfl, rfl, rfl⟩ | simp [Call.signsToken] at signs

theorem aside_claimJtiForRotation (jti : Nat) (exp : Option Nat) (clientIp : Option String)
    (accountVer chainVer : Nat) :
    Aside (claimJtiForRotation jti exp clientIp accountVer chainVer) := by
  refine confined_claimJtiForRotation _ _ _ _ _ fun call claims => ?_
  cases call <;> first | exact ⟨rfl, rfl, rfl⟩ | simp [Call.claimsToken] at claims

theorem aside_mintDescendants (settings : Settings) (email : String) (chainId jti : Nat)
    (claim : RefreshRotationClaim) :
    Aside (mintDescendants settings email chainId jti claim) := by
  refine confined_bind _ _ (aside_createToken _ _ _ _ _ _ _) fun newAccessToken => ?_
  refine confined_bind _ _ (aside_createToken _ _ _ _ _ _ _) fun newRefreshToken => ?_
  refine confined_bind _ _ (confined_decodePayload _ ⟨rfl, rfl, rfl⟩) fun decoded => ?_
  cases decoded with
  | none => trivial
  | some newPayload =>
    simp only
    split
    · split
      · split
        · trivial
        · split
          · trivial
          · refine confined_bind _ _ (confined_isCurrentVersion _ fun _ => ⟨rfl, rfl, rfl⟩)
              fun current => ?_
            split
            · trivial
            · exact confined_bind _ _ (confined_rotateSession _ _ _ _ _ aside_of_rotatesSession)
                fun _ => trivial
      · trivial
    · trivial

end Aside

/-! ## What the services leave behind -/

/-- Nothing was bumped. -/
def Quiet (trace : Trace) : Prop :=
  ∀ key, ¬ Bumped trace key

def OnlyBumped (trace : Trace) (key : VersionKey) : Prop :=
  Bumped trace key ∧ ∀ other, Bumped trace other → other = key

section Traces

variable {trace later : Trace} {key : VersionKey}

theorem Quiet.settled (quiet : Quiet trace) : Settled trace :=
  fun key bumped => absurd bumped (quiet key)

theorem Quiet.extend (quiet : Quiet trace) (unbumped : ∀ key, Bumped later key → Bumped trace key) :
    Quiet later :=
  fun key bumped => quiet key (unbumped key bumped)

theorem OnlyBumped.extend (only : OnlyBumped trace key) (longer : trace <:+ later)
    (unbumped : ∀ key, Bumped later key → Bumped trace key) : OnlyBumped later key :=
  ⟨only.1.extend longer, fun other bumped => only.2 other (unbumped other bumped)⟩

theorem OnlyBumped.cons (only : OnlyBumped trace key) (event : Event)
    (aside : event.1.isBump = false) : OnlyBumped (event :: trace) key :=
  only.extend (List.suffix_cons _ _) fun _ => bumped_of_aside aside

theorem OnlyBumped.settled_of_ended (only : OnlyBumped trace key) (ended : Ended trace key) :
    Settled trace := by
  intro other bumped
  rw [only.2 other bumped]
  exact Or.inr ended

theorem Settled.of_lapse {event : Event} (lapse : Lapse trace event) : Settled (event :: trace) :=
  fun _ _ => Or.inl ⟨event, trace, List.suffix_refl _, lapse⟩

end Traces

section Services

variable {email : String} {trace : Trace} {α β : Type}

theorem meets_of_aside {service : Service α} {post : Except ServiceError α → Trace → Prop}
    (aside : Aside service)
    (returns : ∀ result later, trace <:+ later → (∀ key, Bumped later key → Bumped trace key) →
      post result later) : service.Meets (mirrorDiscipline email) post trace := by
  refine Confined.meets aside (fun later _ call plain => mirrorAllows_of_aside email later plain) ?_
  intro result added asides
  exact returns result _ (List.suffix_append _ _) fun key => bumped_of_asides asides

/-- What it bumps, after a trace without a bump, is settled when it is through. -/
def Settles (email : String) (service : Service α) : Prop :=
  ∀ trace, Quiet trace →
    service.Meets (mirrorDiscipline email) (fun _ later => Settled later) trace

theorem settles_of_aside {service : Service α} (aside : Aside service) :
    Settles email service :=
  fun _ quiet => meets_of_aside aside fun _ _ _ unbumped => (quiet.extend unbumped).settled

theorem settles_bind_aside {first : Service α} {rest : α → Service β} (aside : Aside first)
    (settles : ∀ value, Settles email (rest value)) : Settles email (first >>= rest) := by
  intro trace quiet
  rw [meets_bind]
  refine meets_of_aside aside fun result later _ unbumped => ?_
  cases result with
  | ok value => exact settles value later (quiet.extend unbumped)
  | error failure => exact (quiet.extend unbumped).settled

theorem settles_then {first : Service α} {rest : α → Service β} (settles : Settles email first)
    (aside : ∀ value, Aside (rest value)) : Settles email (first >>= rest) := by
  intro trace quiet
  rw [meets_bind]
  refine (settles trace quiet).mono fun result later _ settled => ?_
  cases result with
  | ok value =>
    exact meets_of_aside (aside value) fun _ _ longer unbumped => settled.extend longer unbumped
  | error failure => exact settled

theorem settles_tryCatch {body : Service α} {handler : ServiceError → Service α}
    (settles : Settles email body) (aside : ∀ failure, Aside (handler failure)) :
    Settles email (tryCatch body handler) := by
  intro trace quiet
  rw [meets_tryCatch]
  refine (settles trace quiet).mono fun result later _ settled => ?_
  cases result with
  | ok value => exact settled
  | error failure =>
    exact meets_of_aside (aside failure) fun _ _ longer unbumped => settled.extend longer unbumped

theorem settles_unlessUnavailable {default : α} {body : Service α}
    (settles : Settles email body) : Settles email (unlessUnavailable default body) :=
  settles_tryCatch settles fun failure => by cases failure <;> trivial

/-- Only an acknowledged bump counts. -/
theorem meets_mirrorBump {post : Except ServiceError Bool → Trace → Prop} (key : VersionKey)
    (quiet : Quiet trace)
    (bumped : ∀ later, trace <:+ later → OnlyBumped later key → post (.ok true) later)
    (unconfirmed : ∀ later, Quiet later → post (.ok false) later) :
    (tryBump key).Meets (mirrorDiscipline email) post trace := by
  rw [tryBump, meets_tryCatch, meets_bind, bumpVersion, meets_bind]
  refine ⟨rfl, fun reply _ => ?_⟩
  have locked : Quiet (⟨.lockVersion key, reply⟩ :: trace) :=
    quiet.extend fun _ => bumped_of_aside rfl
  match reply with
  | .error failure => exact unconfirmed _ locked
  | .ok current =>
    refine ⟨rfl, fun reply' _ => ?_⟩
    match reply' with
    | .error failure =>
      refine unconfirmed _ fun other => ?_
      rintro ⟨version, stored, member⟩
      rcases List.mem_cons.mp member with same | earlier
      · cases same
      · exact locked other ⟨version, stored, earlier⟩
    | .ok stored =>
      refine bumped _ ((List.suffix_cons _ _).trans (List.suffix_cons _ _)) ⟨⟨_, _, List.mem_cons_self⟩, fun other => ?_⟩
      rintro ⟨version, stored', member⟩
      rcases List.mem_cons.mp member with same | earlier
      · cases same
        rfl
      · exact absurd ⟨version, stored', earlier⟩ (locked other)

theorem meets_revokeAllSessions (only : OnlyBumped trace (.account email))
    (asked : ∃ reply, ⟨.selectUserByEmail email, reply⟩ ∈ trace) :
    (revokeAllSessions email none).Meets (mirrorDiscipline email) (fun _ later => Settled later)
      trace := by
  rw [revokeAllSessions, bestEffort, meets_tryCatch, meets_bind]
  refine ⟨rfl, fun reply _ => ?_⟩
  have only' := only.cons ⟨.selectUserByEmail email, reply⟩ rfl
  match reply with
  | .error failure => exact Settled.of_lapse ⟨⟨_, only.1⟩, rfl, asked⟩
  | .ok none => exact only'.settled_of_ended (Or.inl List.mem_cons_self)
  | .ok (some user) =>
    refine ⟨⟨rfl, only'.1⟩, fun reply' _ => ?_⟩
    match reply' with
    | .error failure => exact Settled.of_lapse ⟨⟨_, only'.1⟩, rfl, rfl⟩
    | .ok count =>
      refine (only'.cons _ rfl).settled_of_ended (Or.inr ⟨user, count, ?_, List.mem_cons_self⟩)
      exact List.mem_cons_of_mem _ List.mem_cons_self

theorem meets_revokeChain {chainId : Nat} (only : OnlyBumped trace (.chain email chainId)) :
    (revokeChain chainId).Meets (mirrorDiscipline email) (fun _ later => Settled later) trace := by
  rw [revokeChain, bestEffort, meets_tryCatch, meets_bind]
  refine ⟨only.1, fun reply answer => ?_⟩
  have only' := only.cons ⟨.selectSessionByChain chainId, reply⟩ rfl
  match reply with
  | .error failure => exact Settled.of_lapse ⟨⟨_, only.1⟩, rfl, rfl⟩
  | .ok none => exact only'.settled_of_ended (Or.inl List.mem_cons_self)
  | .ok (some session) =>
    have ofChain : session.chainId = some chainId := answer
    have targets : Targets (⟨.selectSessionByChain chainId, .ok (some session)⟩ :: trace) session :=
      Or.inr ⟨chainId, List.mem_cons_self⟩
    refine ⟨⟨session, targets, rfl, fun other isChain => ?_⟩, fun reply' _ => ?_⟩
    · obtain rfl := Option.some.inj (ofChain.symm.trans isChain)
      exact only'.1
    · match reply' with
      | .error failure => exact Settled.of_lapse ⟨⟨_, only'.1⟩, rfl, rfl⟩
      | .ok () =>
        refine (only'.cons _ rfl).settled_of_ended (Or.inr ⟨session, ?_, ofChain,
          List.mem_cons_self⟩)
        exact targets.extend (List.suffix_cons _ _)

theorem meets_countActiveSessions {post : Except ServiceError Nat → Trace → Prop}
    (returns : ∀ result later, trace <:+ later → (∀ key, Bumped later key → Bumped trace key) →
      (∃ reply, ⟨.selectUserByEmail email, reply⟩ ∈ later) → post result later) :
    (countActiveSessions email).Meets (mirrorDiscipline email) post trace := by
  rw [countActiveSessions, meets_bind]
  refine ⟨rfl, fun reply _ => ?_⟩
  have longer := List.suffix_cons ⟨.selectUserByEmail email, reply⟩ trace
  have unbumped : ∀ key, Bumped (⟨.selectUserByEmail email, reply⟩ :: trace) key →
      Bumped trace key := fun key => bumped_of_aside rfl
  match reply with
  | .error failure => exact returns _ _ longer unbumped ⟨_, List.mem_cons_self⟩
  | .ok none => exact returns _ _ longer unbumped ⟨_, List.mem_cons_self⟩
  | .ok (some user) =>
    change Meets _ (execute (.countActiveSessions user.id) id) _ _
    refine meets_of_aside (aside_execute _ _ ⟨rfl, rfl, rfl⟩) ?_
    intro result later longer' unbumped'
    have asked : ⟨.selectUserByEmail email, .ok (some user)⟩ ∈ later :=
      longer'.subset List.mem_cons_self
    exact returns _ _ (longer.trans longer') (fun key bumped => unbumped key (unbumped' key bumped))
      ⟨_, asked⟩

theorem settles_revokeAllTokensForUser (email : String) :
    Settles email (revokeAllTokensForUser email) := by
  refine settles_unlessUnavailable fun trace quiet => ?_
  rw [revokeAccountTokens, meets_bind]
  refine meets_mirrorBump _ quiet ?_ fun later quiet' => quiet'.settled
  intro later _ only
  change Meets _ (tryCatch (countActiveSessions email) _ >>= _) _ _
  rw [meets_bind, meets_tryCatch]
  refine meets_countActiveSessions fun result last longer unbumped asked => ?_
  have only' := only.extend longer unbumped
  -- whether or not the sessions could be counted, they are revoked
  cases result <;>
    exact (meets_bind _ _).mpr ((meets_revokeAllSessions only' asked).mono
      fun result _ _ settled => by cases result <;> exact settled)

theorem settles_revokeChainForUser (email : String) (chainId : Nat) :
    Settles email (revokeChainForUser email chainId) := by
  refine settles_unlessUnavailable fun trace quiet => ?_
  rw [meets_bind]
  refine meets_mirrorBump _ quiet ?_ fun later quiet' => quiet'.settled
  intro later _ only
  exact meets_revokeChain only

theorem meets_deleteTarget {target : UserSession} (targets : Targets trace target)
    (bumped : ∀ chainId, target.chainId = some chainId → Bumped trace (.chain email chainId))
    (settled : ∀ reply, Settled (⟨.deleteSession target.id, reply⟩ :: trace)) :
    Meets (mirrorDiscipline email) (do
      execute (.deleteSession target.id) id
      return some target : Service (Option UserSession)) (fun _ later => Settled later) trace := by
  rw [meets_bind]
  refine ⟨⟨target, targets, rfl, bumped⟩, fun reply _ => ?_⟩
  cases reply <;> exact settled _

theorem settles_revokeOneSession (email : String) (sessionId : Nat) :
    Settles email (revokeOneSession email sessionId) := by
  refine settles_bind_aside (aside_execute _ _ ⟨rfl, rfl, rfl⟩) fun found => ?_
  cases found with
  | none => exact settles_of_aside trivial
  | some user =>
    intro trace quiet
    simp only
    rw [meets_bind]
    refine ⟨rfl, fun reply _ => ?_⟩
    have quiet' : Quiet (⟨.selectSessionById sessionId, reply⟩ :: trace) :=
      quiet.extend fun _ => bumped_of_aside rfl
    match reply with
    | .error failure => exact quiet'.settled
    | .ok none => exact quiet'.settled
    | .ok (some target) =>
      have targets :
          Targets (⟨.selectSessionById sessionId, .ok (some target)⟩ :: trace) target :=
        Or.inl ⟨sessionId, List.mem_cons_self⟩
      change Meets _ (if _ then _ else _) _ _
      split
      · exact quiet'.settled
      · cases isChain : target.chainId with
        | none =>
          -- a row without a chain is deleted without a bump
          refine meets_deleteTarget targets (by simp [isChain]) fun reply' => ?_
          exact (quiet'.extend fun _ => bumped_of_aside rfl).settled
        | some chainId =>
          simp only
          rw [meets_bind]
          refine meets_mirrorBump _ quiet' ?_ fun later unconfirmed => unconfirmed.settled
          intro later longer only
          refine meets_deleteTarget (targets.extend longer) ?_ fun reply' => ?_
          · intro other isOther
            obtain rfl := Option.some.inj (isChain.symm.trans isOther)
            exact only.1
          · match reply' with
            | .error failure => exact Settled.of_lapse ⟨⟨_, only.1⟩, rfl, rfl⟩
            | .ok () =>
              have targets' := (targets.extend longer).extend
                (List.suffix_cons ⟨.deleteSession target.id, .ok ()⟩ later)
              exact (only.cons _ rfl).settled_of_ended
                (Or.inr ⟨target, targets', isChain, List.mem_cons_self⟩)

theorem settles_handleReuseDetected {payload : Payload} (ofAccount : payload.email = some email) :
    Settles email (handleReuseDetected payload) := by
  unfold handleReuseDetected
  rw [ofAccount]
  refine settles_then (settles_tryCatch ?_ fun failure => ?_) fun _ => aside_logSecurityEvent
  · cases payload.chain with
    | some chainId => exact settles_revokeChainForUser email chainId
    | none => exact settles_then (settles_revokeAllTokensForUser email) fun _ => trivial
  · cases failure <;> trivial

theorem settles_rotateClaimed (settings : Settings) {payload : Payload}
    (ofAccount : payload.email = some email) (chainId jti accountVer chainVer : Nat)
    (clientIp : Option String) :
    Settles email (rotateClaimed settings payload email chainId jti accountVer chainVer clientIp) := by
  refine settles_bind_aside (aside_claimJtiForRotation _ _ _ _ _) fun claim => ?_
  split
  · refine settles_bind_aside (confined_isBenignDuplicateRotation _ _ _ ⟨rfl, rfl, rfl⟩
      ⟨rfl, rfl, rfl⟩ ⟨rfl, rfl, rfl⟩) fun benign => ?_
    cases benign with
    | false => exact settles_then (settles_handleReuseDetected ofAccount) fun _ => trivial
    | true => exact settles_of_aside trivial
  · exact settles_of_aside (aside_mintDescendants _ _ _ _ _)

theorem settles_refreshTokens (settings : Settings) {token : Payload}
    (ofAccount : token.email = some email) (clientIp : Option String) :
    Settles email (refreshTokens settings token clientIp) := by
  refine settles_tryCatch (fun trace quiet => ?_) fun failure => by cases failure <;> trivial
  rw [rotate, meets_bind, decodePayload, meets_bind]
  refine ⟨rfl, fun valid _ => ?_⟩
  have decoded : Quiet (⟨.decode token, valid⟩ :: trace) :=
    quiet.extend fun _ => bumped_of_aside rfl
  cases valid with
  | false => exact decoded.settled
  | true =>
    change Meets _ (if (!hasValidIssuerAndAudience settings token) = true then _ else _) _ _
    split
    · exact decoded.settled
    · cases token.jti with
      | none => exact decoded.settled
      | some jti =>
        simp only
        split
        · exact decoded.settled
        · refine settles_bind_aside (confined_isCurrentVersion _ fun _ => ⟨rfl, rfl, rfl⟩)
            (fun current => ?_) _ decoded
          split
          · exact settles_of_aside trivial
          · rw [ofAccount]
            split
            · rename_i same _ _ _
              obtain rfl := Option.some.inj same
              exact settles_rotateClaimed settings ofAccount _ _ _ _ _
            · exact settles_of_aside trivial

theorem settles_mirrorHandle (settings : Settings) (request : MirrorRequest email) :
    Settles email (mirrorHandle settings email request) := by
  cases request with
  | refresh token clientIp ofAccount =>
    exact settles_then (settles_refreshTokens settings ofAccount clientIp) fun _ => trivial
  | revokeAll => exact settles_then (settles_revokeAllTokensForUser email) fun _ => trivial
  | revokeChain chainId => exact settles_revokeChainForUser email chainId
  | revokeOne sessionId => exact settles_then (settles_revokeOneSession email sessionId) fun _ => trivial

end Services

theorem outcomes_mirrorAnswer (thread : Nat) (call : Call) (world : World)
    (outcome : Reply call × World) (possible : outcome ∈ outcomes thread call world) :
    mirrorAnswers call outcome.1 := by
  cases call with
  | selectSessionByChain chainId =>
    simp only [outcomes] at possible
    split at possible
    · simp only [selected, List.mem_cons, List.not_mem_nil, or_false] at possible
      rcases possible with rfl | rfl <;> trivial
    · rename_i session only
      have member : session ∈ world.sessions.filter (·.chainId == some chainId) := by simp [only]
      simp only [selected, List.mem_cons, List.not_mem_nil, or_false] at possible
      rcases possible with rfl | rfl
      · exact beq_iff_eq.mp (List.mem_filter.mp member).2
      · trivial
    · simp only [refused, List.mem_singleton] at possible
      rw [possible]
      trivial
  | _ => trivial

theorem mirrorServer_obeys (settings : Settings) (email : String) :
    (mirrorServer settings email).Obeys (fun _ => mirrorDiscipline email)
      (fun _ _ trace => Settled trace) where
  programs request := settles_mirrorHandle settings request [] (by simp [Quiet, Bumped])
  answers _ := outcomes_mirrorAnswer

end MysticAuth.Tokens
