import MysticAuth.Tokens.TraceFrames

/-!
# What the services do

One lemma for each service function, on what it adds to the trace and what its
result says about the trace.
-/

set_option autoImplicit false

namespace MysticAuth.Tokens

open Interleaving Program

variable {request : Request} {trace : Trace}

theorem allows_of_not_ruled (request : Request) (trace : Trace) (call : Call)
    (plain : call.isRuled = false) : request.allows trace call := by
  cases call <;> trivial

theorem minting_of_ruled (call : Call) (plain : call.isRuled = false) :
    call.isMinting = false := by
  cases call <;> first | rfl | simp [Call.isRuled] at plain

/-- A function that makes no ruled call, about which nothing else is known. -/
theorem Free.meets {α : Type} {post : Except ServiceError α → Trace → Prop} {service : Service α}
    (free : Free service) (returns : ∀ result later, Side trace later → post result later) :
    service.Meets request.discipline post trace := by
  refine Confined.meets free (fun later _ call plain => allows_of_not_ruled request later call plain)
    fun result added plain => returns result _ ⟨added, rfl, fun event member => ?_⟩
  exact minting_of_ruled _ (plain event member)

@[simp] theorem meets_execute {α : Type} {post : Except ServiceError α → Trace → Prop}
    (call : Call) (result : Reply call → Except ServiceError α) :
    (execute call result).Meets request.discipline post trace ↔
      request.allows trace call ∧ ∀ reply, answers call reply →
        post (result reply) (⟨call, reply⟩ :: trace) :=
  Iff.rfl

theorem Failed.here (event : Event) (fails : failed event = true) :
    Failed (event :: trace) :=
  ⟨event, List.mem_cons_self, fails⟩

/-! ## Versions -/

section Versions

theorem meets_orUnavailable {α : Type} {post : Except ServiceError α → Trace → Prop}
    {body : Service α}
    (inside : body.Meets request.discipline (fun result later => match result with
      | .ok value => post (.ok value) later
      | .error _ => post (.error .tokenVersionUnavailable) later) trace) :
    (orUnavailable body).Meets request.discipline post trace :=
  (meets_tryCatch body _).mpr (inside.mono fun result _ _ holds => by cases result <;> exact holds)

/-- What holds once any failure has become an unavailable version. -/
def OrUnavailable {α : Type} (post : Except ServiceError α → Trace → Prop) :
    Except ServiceError α → Trace → Prop
  | .ok value, later => post (.ok value) later
  | .error _, later => post (.error .tokenVersionUnavailable) later

theorem meets_tryBump {post : Except ServiceError Bool → Trace → Prop} (key : VersionKey)
    (bumped : ∀ later, Side trace later → BumpedAfter trace later key → post (.ok true) later)
    (unconfirmed : ∀ later, Side trace later → Failed later → post (.ok false) later) :
    (tryBump key).Meets request.discipline post trace := by
  unfold tryBump bumpVersion
  simp only [meets_tryCatch, meets_bind, meets_execute, id, meets_pure]
  refine ⟨trivial, fun reply _ => ?_⟩
  have locked : Side trace (⟨.lockVersion key, reply⟩ :: trace) := Avoids.one _ rfl
  cases reply with
  | error failure => exact unconfirmed _ locked (Failed.here _ rfl)
  | ok current =>
    refine ⟨⟨current, List.mem_cons_self, rfl⟩, fun reply' _ => ?_⟩
    have upserted := locked.cons ⟨.upsertVersion key (current + 1), reply'⟩ rfl
    cases reply' with
    | error failure => exact unconfirmed _ upserted (Failed.here _ rfl)
    | ok stored =>
      exact bumped _ upserted ⟨_, _, _, List.suffix_refl _, List.suffix_cons _ _⟩

/-- One read of a version. -/
theorem meets_readVersion {post : Except ServiceError Nat → Trace → Prop} (key : VersionKey)
    (read : ∀ version later, Side trace later →
      ⟨.selectVersion key, .ok version⟩ ∈ later → post (.ok version) later)
    (unavailable : ∀ later, Side trace later → Failed later →
      post (.error .tokenVersionUnavailable) later) :
    (orUnavailable (execute (.selectVersion key) id)).Meets request.discipline post trace := by
  refine meets_orUnavailable ?_
  simp only [meets_execute, id]
  refine ⟨trivial, fun reply _ => ?_⟩
  have side : Side trace (⟨.selectVersion key, reply⟩ :: trace) := Avoids.one _ rfl
  cases reply with
  | error failure => exact unavailable _ side (Failed.here _ rfl)
  | ok version => exact read version _ side List.mem_cons_self

theorem meets_decodePayload {post : Except ServiceError (Option Payload) → Trace → Prop}
    (token : Payload)
    (valid : ∀ later, Side trace later → ⟨.decode token, true⟩ ∈ later →
      post (.ok (some token)) later)
    (invalid : ∀ later, Side trace later → post (.ok none) later) :
    (decodePayload token).Meets request.discipline post trace := by
  unfold decodePayload
  simp only [meets_bind]
  refine ⟨trivial, fun reply _ => ?_⟩
  have side : Side trace (⟨.decode token, reply⟩ :: trace) := Avoids.one _ rfl
  cases reply with
  | true => exact valid _ side List.mem_cons_self
  | false => exact invalid _ side

/-- The token lacks nothing that its check compares. -/
theorem claims_of_session (payload : Payload) (complete : lacksVersionClaims payload = false)
    (session : payload.type ≠ .other) :
    ∃ email chainId jti accountVer chainVer, payload.email = some email ∧
      payload.chain = some chainId ∧ payload.jti = some jti ∧
      payload.accountVer = some accountVer ∧ payload.chainVer = some chainVer := by
  simp only [lacksVersionClaims, Bool.and_eq_false_iff, bne_eq_false_iff_eq, session, false_or,
    Bool.or_eq_false_iff, Option.isNone_eq_false_iff, Option.isSome_iff_exists] at complete
  obtain ⟨⟨⟨⟨⟨email, isEmail⟩, chainId, isChain⟩, jti, isJti⟩, accountVer, isAccount⟩, chainVer,
    isChainVer⟩ := complete
  exact ⟨email, chainId, jti, accountVer, chainVer, isEmail, isChain, isJti, isAccount, isChainVer⟩

theorem meets_isCurrentAccountVersion {post : Except ServiceError Bool → Trace → Prop}
    (email : String) (accountVer : Option Nat)
    (current : ∀ later, Side trace later → (∀ version, accountVer = some version →
      ⟨.selectVersion (.account email), .ok version⟩ ∈ later) → post (.ok true) later)
    (stale : ∀ later, Side trace later → post (.ok false) later)
    (unavailable : ∀ later, Side trace later → Failed later →
      post (.error .tokenVersionUnavailable) later) :
    (isCurrentAccountVersion email accountVer).Meets request.discipline post trace := by
  cases accountVer with
  | none => exact current trace (.refl trace) (by simp)
  | some accountVer =>
    refine (meets_bind _ _).mpr (meets_readVersion _ ?_ unavailable)
    intro version later side read
    change post (.ok (accountVer == version)) later
    by_cases same : accountVer = version
    · subst same
      rw [beq_self_eq_true]
      refine current later side fun version' isVersion => ?_
      obtain rfl := Option.some.inj isVersion
      exact read
    · rw [beq_eq_false_iff_ne.mpr same]
      exact stale later side

theorem meets_isCurrentChainVersion {post : Except ServiceError Bool → Trace → Prop}
    (email : String) (chainId chainVer : Option Nat)
    (current : ∀ later, Side trace later → (∀ chain version, chainId = some chain →
      chainVer = some version → ⟨.selectVersion (.chain email chain), .ok version⟩ ∈ later) →
        post (.ok true) later)
    (stale : ∀ later, Side trace later → post (.ok false) later)
    (unavailable : ∀ later, Side trace later → Failed later →
      post (.error .tokenVersionUnavailable) later) :
    (isCurrentChainVersion email chainId chainVer).Meets request.discipline post trace := by
  cases chainId with
  | none => exact current trace (.refl trace) (by simp)
  | some chainId =>
    cases chainVer with
    | none => exact current trace (.refl trace) (by simp)
    | some chainVer =>
      refine (meets_bind _ _).mpr (meets_readVersion _ ?_ unavailable)
      intro version later side read
      change post (.ok (chainVer == version)) later
      by_cases same : chainVer = version
      · subst same
        rw [beq_self_eq_true]
        refine current later side fun chain version' isChain isVersion => ?_
        obtain rfl := Option.some.inj isChain
        obtain rfl := Option.some.inj isVersion
        exact read
      · rw [beq_eq_false_iff_ne.mpr same]
        exact stale later side

theorem meets_isCurrentVersion {post : Except ServiceError Bool → Trace → Prop}
    (payload : Payload)
    (current : ∀ later, Side trace later →
      (payload.type ≠ .other → VersionsMatched later payload) → post (.ok true) later)
    (stale : ∀ later, Side trace later → post (.ok false) later)
    (unavailable : ∀ later, Side trace later → Failed later →
      post (.error .tokenVersionUnavailable) later) :
    (isCurrentVersion payload).Meets request.discipline post trace := by
  unfold isCurrentVersion
  split
  · exact stale trace (.refl trace)
  · rename_i complete
    have claims := claims_of_session payload (by simpa using complete)
    split
    · rename_i email isEmail
      refine (meets_bind _ _).mpr (meets_isCurrentAccountVersion _ _ ?_ ?_ unavailable)
      · intro later side accountRead
        refine meets_isCurrentChainVersion _ _ _ ?_ ?_ ?_
        · intro last side' chainRead
          refine current last (side.trans side') fun session => ?_
          obtain ⟨email', chainId, jti, accountVer, chainVer, isEmail', isChain, -, isAccount,
            isChainVer⟩ := claims session
          obtain rfl := Option.some.inj (isEmail.symm.trans isEmail')
          exact ⟨email, chainId, accountVer, chainVer, isEmail, isChain, isAccount, isChainVer,
            side'.mem (accountRead accountVer isAccount), chainRead chainId chainVer isChain
              isChainVer⟩
        · intro last side'
          exact stale last (side.trans side')
        · intro last side' isFailed
          exact unavailable last (side.trans side') isFailed
      · intro later side
        exact stale later side
    · rename_i noEmail
      refine current trace (.refl trace) fun session => ?_
      obtain ⟨email, -, -, -, -, isEmail, -⟩ := claims session
      exact absurd isEmail (noEmail email)

theorem meets_verifyToken {post : Except ServiceError (Option Payload) → Trace → Prop}
    (settings : Settings) (token : Payload) (expectedType : Option TokenType)
    (accepted : ∀ later, Side trace later → ⟨.decode token, true⟩ ∈ later →
      (token.type ≠ .other → VersionsMatched later token) →
        (∀ type, expectedType = some type → token.type = type) → post (.ok (some token)) later)
    (rejected : ∀ later, Side trace later → post (.ok none) later)
    (raised : ∀ error later, Side trace later → post (.error error) later) :
    (verifyToken settings token expectedType).Meets request.discipline post trace := by
  unfold verifyToken
  refine (meets_tryCatch _ _).mpr ((meets_bind _ _).mpr (meets_decodePayload token ?_ ?_))
  · intro later side decoded
    change Meets _ (if _ then _ else _) _ later
    split
    · exact rejected later side
    · refine (meets_bind _ _).mpr (Free.meets (free_isTokenRevokedByJti _) ?_)
      intro result last side'
      have both := side.trans side'
      cases result with
      | error failure =>
        change Meets _ _ _ last
        split <;> first | exact raised _ last both | exact rejected last both
      | ok revoked =>
        change Meets _ (if _ then _ else _) _ last
        split
        · exact rejected last both
        · refine (meets_bind _ _).mpr (meets_isCurrentVersion token ?_ ?_ ?_)
          · intro end' side'' matched
            have all := both.trans side''
            change Meets _ (if _ then _ else _) _ end'
            split
            · rename_i impossible
              simp at impossible
            · split
              · exact rejected end' all
              · rename_i typed
                refine accepted end' all (side''.mem (side'.mem decoded)) matched ?_
                intro type isType
                simp only [isType, Option.any_some, bne_iff_ne, ne_eq, not_not] at typed
                exact typed.symm
          · intro end' side''
            exact rejected end' (both.trans side'')
          · intro end' side'' _
            exact raised _ end' (both.trans side'')
  · intro later side
    exact rejected later side

end Versions

/-! ## Signing -/

/-- The claims of a token signed for a chain. -/
structure SignedFor (token : Payload) (type : TokenType) (email : String)
    (chainId accountVer chainVer : Nat) : Prop where
  type : token.type = type
  email : token.email = some email
  chain : token.chain = some chainId
  accountVer : token.accountVer = some accountVer
  chainVer : token.chainVer = some chainVer

/-- With the versions given, a token is signed after one draw. -/
theorem meets_createToken {post : Except ServiceError Payload → Trace → Prop}
    (settings : Settings) (type : TokenType) (session : type ≠ .other) (lifetime : Nat)
    (email : String) (chainId accountVer chainVer : Nat) (issuedAt : Option Nat)
    (grounds : request.HasGrounds trace email chainId accountVer chainVer)
    (signed : ∀ token later, Avoids Call.isClaim trace later →
      Avoids Call.isVersionsRead trace later → ⟨.encode token, ()⟩ ∈ later →
        SignedFor token type email chainId accountVer chainVer → post (.ok token) later) :
    (createToken settings type lifetime email chainId issuedAt
      (some (accountVer, chainVer))).Meets request.discipline post trace := by
  have sign (now : Nat) (later : Trace) (claims : Avoids Call.isClaim trace later)
      (reads : Avoids Call.isVersionsRead trace later) : Meets request.discipline (do
        let jti ← perform .uuid
        let token : Payload :=
          { email := some email, type, jti := some jti, chain := some chainId,
            accountVer := some accountVer, chainVer := some chainVer,
            exp := some (now + lifetime), iss := some settings.jwtIssuer,
            aud := some settings.jwtAudience }
        perform (.encode token)
        return token : Service Payload) post later := by
    refine ⟨trivial, fun jti _ => ⟨?_, fun _ _ => ?_⟩⟩
    · exact ⟨email, chainId, accountVer, chainVer, jti, rfl, rfl, rfl, rfl, session, rfl, rfl,
        grounds.extend (claims.suffix.trans (List.suffix_cons _ _))⟩
    · exact signed _ _ ((claims.cons _ rfl).cons _ rfl) ((reads.cons _ rfl).cons _ rfl)
        List.mem_cons_self ⟨rfl, rfl, rfl, rfl, rfl⟩
  cases issuedAt with
  | some time => exact sign time trace (.refl trace) (.refl trace)
  | none => exact ⟨trivial, fun now _ => sign now _ (.one _ rfl) (.one _ rfl)⟩

/-- Without them, it reads them first. -/
theorem meets_createToken_reading {post : Except ServiceError Payload → Trace → Prop}
    (settings : Settings) (type : TokenType) (session : type ≠ .other) (lifetime : Nat)
    (email : String) (chainId : Nat) (notLogin : request.isLogin = false)
    (opens : request.Opens trace email chainId) (checked : request.CredentialsChecked trace)
    (few : versionsReads trace < 2)
    (signed : ∀ token later, trace <:+ later → versionsReads later = versionsReads trace + 1 →
      post (.ok token) later)
    (unavailable : ∀ later, trace <:+ later → post (.error .tokenVersionUnavailable) later) :
    (createToken settings type lifetime email chainId none none).Meets request.discipline post
      trace := by
  refine ⟨trivial, fun now _ => ⟨trivial, fun jti _ => ?_⟩⟩
  have drawn : trace <:+ ⟨.uuid, jti⟩ :: ⟨.clock, now⟩ :: trace :=
    (List.suffix_cons _ _).trans (List.suffix_cons _ _)
  change Meets _ (getVersions email chainId >>= _) post _
  refine (meets_bind _ _).mpr (meets_orUnavailable ?_)
  refine ⟨⟨opens.extend drawn, few, by simp [notLogin]⟩, fun reply _ => ?_⟩
  have read := drawn.trans (List.suffix_cons ⟨.selectVersions email chainId, reply⟩ _)
  have counted : versionsReads (⟨.selectVersions email chainId, reply⟩ :: ⟨.uuid, jti⟩ ::
      ⟨.clock, now⟩ :: trace) = versionsReads trace + 1 := by
    simp [versionsReads, Call.isVersionsRead]
  cases reply with
  | error failure => exact unavailable _ read
  | ok versions =>
    refine ⟨?_, fun _ _ => signed _ _ (read.trans (List.suffix_cons _ _)) counted⟩
    exact ⟨email, chainId, versions.1, versions.2, jti, rfl, rfl, rfl, rfl, session, rfl, rfl,
      Or.inl ⟨opens.extend read, checked.extend read, List.mem_cons_self⟩⟩

/-! ## Revocations -/

section Revocations

theorem meets_bestEffort {post : Except ServiceError Unit → Trace → Prop} {body : Service Unit}
    (free : Free (bestEffort body)) (done : ∀ later, Side trace later → post (.ok ()) later) :
    (bestEffort body).Meets request.discipline post trace := by
  have inside : Free body := confined_of_resume body _ free
  refine (meets_tryCatch _ _).mpr (Free.meets inside fun result later side => ?_)
  cases result with
  | ok value => exact done later side
  | error failure => exact done later side

theorem meets_logSecurityEvent {post : Except ServiceError Unit → Trace → Prop}
    (done : ∀ later, Side trace later → post (.ok ()) later) :
    logSecurityEvent.Meets request.discipline post trace :=
  meets_bestEffort free_logSecurityEvent done

theorem meets_unlessUnavailable {α : Type} {post : Except ServiceError α → Trace → Prop}
    (default : α) {body : Service α}
    (inside : body.Meets request.discipline (fun result later => match result with
      | .ok value => post (.ok value) later
      | .error .tokenVersionUnavailable => post (.error .tokenVersionUnavailable) later
      | .error _ => post (.ok default) later) trace) :
    (unlessUnavailable default body).Meets request.discipline post trace := by
  refine (meets_tryCatch _ _).mpr (inside.mono fun result later _ holds => ?_)
  cases result with
  | ok value => exact holds
  | error failure => cases failure <;> exact holds

theorem meets_revokeAccountTokens {post : Except ServiceError Nat → Trace → Prop}
    (email : String) (exemptChainId : Option Nat)
    (revoked : ∀ count later, Side trace later → Bumped later (.account email) →
      post (.ok count) later)
    (unavailable : ∀ later, Side trace later → Failed later →
      post (.error .tokenVersionUnavailable) later) :
    (revokeAccountTokens email exemptChainId).Meets request.discipline post trace := by
  refine (meets_bind _ _).mpr (meets_tryBump _ ?_ unavailable)
  intro later side bumped
  change Meets _ (_ >>= _) post later
  refine (meets_bind _ _).mpr ((meets_tryCatch _ _).mpr (Free.meets (free_countActiveSessions _)
    fun counted last side' => ?_))
  have finish (count : Nat) : Meets request.discipline (do
      revokeAllSessions email exemptChainId
      return count : Service Nat) post last := by
    refine (meets_bind _ _).mpr (meets_bestEffort (free_revokeAllSessions _ _) ?_)
    intro end' side''
    exact revoked count end' ((side.trans side').trans side'')
      (bumped.bumped.extend (side'.trans side'').suffix)
  cases counted with
  | ok count => exact finish count
  | error failure => exact finish 0

theorem meets_revokeAllTokensForUser {post : Except ServiceError Nat → Trace → Prop}
    (email : String)
    (revoked : ∀ count later, Side trace later → Bumped later (.account email) →
      post (.ok count) later)
    (unavailable : ∀ later, Side trace later → Failed later →
      post (.error .tokenVersionUnavailable) later) :
    (revokeAllTokensForUser email).Meets request.discipline post trace :=
  meets_unlessUnavailable 0 (meets_revokeAccountTokens email none revoked unavailable)

theorem meets_revokeAllTokensForUserExceptChain {post : Except ServiceError Nat → Trace → Prop}
    (email : String) (exemptChainId : Nat)
    (revoked : ∀ count later, Side trace later → Bumped later (.account email) →
      post (.ok count) later)
    (unavailable : ∀ later, Side trace later → Failed later →
      post (.error .tokenVersionUnavailable) later) :
    (revokeAllTokensForUserExceptChain email exemptChainId).Meets request.discipline post trace :=
  meets_unlessUnavailable 0 ((meets_bind _ _).mpr (meets_revokeAccountTokens email _
    (fun count later side bumped => revoked (count - 1) later side bumped) unavailable))

theorem meets_revokeChainForUser {post : Except ServiceError Unit → Trace → Prop}
    (email : String) (chainId : Nat)
    (revoked : ∀ later, Side trace later → BumpedAfter trace later (.chain email chainId) →
      post (.ok ()) later)
    (unavailable : ∀ later, Side trace later → Failed later →
      post (.error .tokenVersionUnavailable) later) :
    (revokeChainForUser email chainId).Meets request.discipline post trace := by
  refine meets_unlessUnavailable () ((meets_bind _ _).mpr (meets_tryBump _ ?_ unavailable))
  intro later side bumped
  refine meets_bestEffort (free_revokeChain chainId) fun last side' => ?_
  exact revoked last (side.trans side') (bumped.extend side'.suffix)

/-- Whether the revocation was confirmed is all that is reported of it. -/
theorem meets_confirmed {α : Type} {post : Except ServiceError Bool → Trace → Prop}
    {revocation : Service α}
    (inside : revocation.Meets request.discipline (fun result later => match result with
      | .ok _ => post (.ok true) later
      | .error .tokenVersionUnavailable => post (.ok false) later
      | .error failure => post (.error failure) later) trace) :
    (confirmed revocation).Meets request.discipline post trace := by
  refine (meets_tryCatch _ _).mpr ((meets_bind _ _).mpr (inside.mono fun result later _ holds => ?_))
  cases result with
  | ok value => exact holds
  | error failure => cases failure <;> exact holds

/-- A replay of a session token bumps its chain, or a store failed. -/
theorem meets_handleReuseDetected {post : Except ServiceError Unit → Trace → Prop}
    (payload : Payload) (email : String) (chainId : Nat) (isEmail : payload.email = some email)
    (isChain : payload.chain = some chainId)
    (handled : ∀ later, Side trace later →
      Failed later ∨ BumpedAfter trace later (.chain email chainId) → post (.ok ()) later) :
    (handleReuseDetected payload).Meets request.discipline post trace := by
  unfold handleReuseDetected
  simp only [isEmail, isChain]
  refine (meets_bind _ _).mpr ((meets_tryCatch _ _).mpr (meets_revokeChainForUser email chainId
    ?_ ?_))
  · intro later side bumped
    refine meets_logSecurityEvent fun last side' => ?_
    exact handled last (side.trans side') (Or.inr (bumped.extend side'.suffix))
  · intro later side isFailed
    refine meets_logSecurityEvent fun last side' => ?_
    exact handled last (side.trans side') (Or.inl (isFailed.extend side'.suffix))

end Revocations

/-! ## Claims and rotation -/

section Rotation

/-- No claim was lost. -/
def Unlost (trace : Trace) : Prop :=
  ∀ row, ⟨.insertClaim row, .ok none⟩ ∉ trace

theorem unlost_of_unclaimed (none : hasClaimed trace = false) : Unlost trace := by
  intro row member
  exact absurd rfl (List.any_eq_false.mp none _ member)

theorem Unlost.extend {later : Trace} (unlost : Unlost trace)
    (avoids : Avoids Call.isClaim trace later) : Unlost later := by
  obtain ⟨added, rfl, outside⟩ := avoids
  intro row member
  rcases List.mem_append.mp member with inAdded | inTrace
  · exact absurd (outside _ inAdded) (by simp [Call.isClaim])
  · exact unlost row inTrace

/-- At most one claim was lost. -/
def LostOnly (trace : Trace) (row : ClaimRow) : Prop :=
  ∀ row', ⟨.insertClaim row', .ok none⟩ ∈ trace → row' = row

theorem Unlost.lostOnly (unlost : Unlost trace) (row : ClaimRow) : LostOnly trace row :=
  fun row' member => absurd member (unlost row')

theorem LostOnly.extend {later : Trace} {row : ClaimRow} (only : LostOnly trace row)
    (avoids : Avoids Call.isClaim trace later) : LostOnly later row := by
  obtain ⟨added, rfl, outside⟩ := avoids
  intro row' member
  rcases List.mem_append.mp member with inAdded | inTrace
  · exact absurd (outside _ inAdded) (by simp [Call.isClaim])
  · exact only row' inTrace

theorem Unlost.claim (unlost : Unlost trace) (row : ClaimRow)
    (reply : Reply (.insertClaim row)) :
    LostOnly (⟨.insertClaim row, reply⟩ :: trace) row := by
  intro row' member
  rcases List.mem_cons.mp member with same | inTrace
  · exact Call.insertClaim.inj (congrArg Sigma.fst same)
  · exact absurd inTrace (unlost row')

theorem Unlost.won (unlost : Unlost trace) (row : ClaimRow) (consumed : ConsumedRefreshToken) :
    Unlost (⟨.insertClaim row, .ok (some consumed)⟩ :: trace) := by
  intro row' member
  rcases List.mem_cons.mp member with same | inTrace
  · obtain rfl := Call.insertClaim.inj (congrArg Sigma.fst same)
    simp at same
  · exact unlost row' inTrace

theorem Avoids.toClaims {later : Trace} (side : Side trace later) :
    Avoids Call.isClaim trace later :=
  side.weaken claim_of_minting

theorem meets_isBenignDuplicateRotation {post : Except ServiceError Bool → Trace → Prop}
    (settings : Settings) (jti : Nat) (clientIp : Option String)
    (benign : ∀ later, Side trace later →
      (∃ consumed, ⟨.selectClaim jti, .ok (some consumed)⟩ ∈ later ∧
        consumed.clientIp = clientIp) ∨
      (∃ earlier, ⟨.selectClaim jti, .ok none⟩ :: earlier <:+ later ∧ trace <:+ earlier) →
        post (.ok true) later)
    (replayed : ∀ later, Side trace later → post (.ok false) later)
    (unavailable : ∀ later, Side trace later → Failed later →
      post (.error .tokenVersionUnavailable) later) :
    (isBenignDuplicateRotation settings jti clientIp).Meets request.discipline post trace := by
  unfold isBenignDuplicateRotation
  split
  · exact replayed trace (.refl trace)
  · refine meets_orUnavailable ?_
    refine ⟨trivial, fun reply _ => ?_⟩
    have side : Side trace (⟨.selectClaim jti, reply⟩ :: trace) := .one _ rfl
    cases reply with
    | error failure => exact unavailable _ side (.here _ rfl)
    | ok found =>
      cases found with
      | none =>
        refine ⟨trivial, fun marker _ => ?_⟩
        have side' := side.cons ⟨.getMarker jti, marker⟩ rfl
        cases marker with
        | error failure => exact unavailable _ side' (.here _ rfl)
        | ok marker =>
          match marker with
          | some (.stamped claimedAt claimedIp) =>
            refine ⟨trivial, fun now _ => ?_⟩
            have side'' := side'.cons ⟨.clock, now⟩ rfl
            change post (.ok (_ && _)) _
            cases _ && _ with
            | true =>
              exact benign _ side'' (Or.inr ⟨trace,
                (List.suffix_cons _ _).trans (List.suffix_cons _ _), List.suffix_refl _⟩)
            | false => exact replayed _ side''
          | some .other => exact replayed _ side'
          | none => exact replayed _ side'
      | some row =>
        refine ⟨trivial, fun now _ => ?_⟩
        have side' := side.cons ⟨.clock, now⟩ rfl
        change post (.ok (_ && row.clientIp == clientIp)) _
        cases same : row.clientIp == clientIp with
        | false =>
          rw [Bool.and_false]
          exact replayed _ side'
        | true =>
          rw [Bool.and_true]
          cases withinGrace settings row.consumedAt now with
          | false => exact replayed _ side'
          | true => exact benign _ side' (Or.inl ⟨row, by simp, beq_iff_eq.mp same⟩)

theorem meets_insertOrFindClaim
    {post : Except ServiceError RefreshRotationClaim → Trace → Prop} (row : ClaimRow)
    (permitted : request.MayClaim trace row) (unlost : Unlost trace)
    (won : ∀ consumed later, trace <:+ later → Unlost later →
      ⟨.insertClaim row, .ok (some consumed)⟩ ∈ later →
        post (.ok ⟨true, some consumed.consumedAt, some row.accountVer, some row.chainVer,
          consumed.clientIp, false⟩) later)
    (lost : ∀ claim later, trace <:+ later → LostOnly later row →
      (Unlost later ∨ ⟨.insertClaim row, .ok none⟩ ∈ later) → claim.claimed = false →
        post (.ok claim) later)
    (raised : ∀ error later, trace <:+ later → LostOnly later row →
      Failed later ∨ Vanished later row → post (.error error) later) :
    (insertOrFindClaim row).Meets request.discipline post trace := by
  refine ⟨permitted, fun reply answered => ?_⟩
  have grown : trace <:+ ⟨.insertClaim row, reply⟩ :: trace := List.suffix_cons _ _
  cases reply with
  | error failure => exact raised _ _ grown (unlost.claim row _) (Or.inl (.here _ rfl))
  | ok inserted =>
    cases inserted with
    | some consumed =>
      obtain ⟨-, -, -, isAccount, isChain⟩ := answered
      change post (.ok ⟨true, some consumed.consumedAt, some consumed.accountVer,
        some consumed.chainVer, consumed.clientIp, false⟩) _
      rw [isAccount, isChain]
      exact won consumed _ grown (unlost.won row consumed) List.mem_cons_self
    | none =>
      refine ⟨trivial, fun found _ => ?_⟩
      have grown' := grown.trans (List.suffix_cons ⟨.selectClaim row.jti, found⟩ _)
      have only : LostOnly (⟨.selectClaim row.jti, found⟩ :: ⟨.insertClaim row, .ok none⟩ :: trace)
          row := (unlost.claim row (.ok none)).extend (.one _ rfl)
      cases found with
      | error failure => exact raised _ _ grown' only (Or.inl (.here _ rfl))
      | ok found =>
        cases found with
        | some consumed => exact lost _ _ grown' only (Or.inr (by simp)) rfl
        | none =>
          exact raised _ _ grown' only (Or.inr ⟨_, List.suffix_refl _, List.mem_cons_self⟩)

/-- A claim has three ends: it is won, it is lost to an earlier one, or nothing was inserted. -/
theorem meets_claimJtiForRotation
    {post : Except ServiceError RefreshRotationClaim → Trace → Prop} (row : ClaimRow)
    (unclaimed : hasClaimed trace = false)
    (permitted : ∀ later, Side trace later → request.MayClaim later row)
    (won : ∀ consumed later, trace <:+ later → Unlost later →
      ⟨.insertClaim row, .ok (some consumed)⟩ ∈ later →
        post (.ok ⟨true, some consumed.consumedAt, some row.accountVer, some row.chainVer,
          consumed.clientIp, false⟩) later)
    (lost : ∀ claim later, trace <:+ later → LostOnly later row →
      (Unlost later ∨ ⟨.insertClaim row, .ok none⟩ ∈ later) → claim.claimed = false →
        post (.ok claim) later)
    (raised : ∀ later, trace <:+ later → LostOnly later row →
      Failed later ∨ Vanished later row → post (.error .tokenVersionUnavailable) later) :
    (claimJtiForRotation row.jti (some row.expiresAt) row.clientIp row.accountVer
      row.chainVer).Meets request.discipline post trace := by
  refine meets_orUnavailable ?_
  simp only [meets_bind, meets_tryCatch, meets_execute, id]
  refine ⟨trivial, fun found _ => ?_⟩
  have side : Side trace (⟨.markerExists row.jti, found⟩ :: trace) := .one _ rfl
  have unlost : Unlost (⟨.markerExists row.jti, found⟩ :: trace) :=
    (unlost_of_unclaimed unclaimed).extend side.toClaims
  have insert : (insertOrFindClaim row).Meets request.discipline (OrUnavailable post)
      (⟨.markerExists row.jti, found⟩ :: trace) :=
    meets_insertOrFindClaim row (permitted _ side) unlost
      (fun consumed later grown => won consumed later (side.suffix.trans grown))
      (fun claim later grown => lost claim later (side.suffix.trans grown))
      (fun _ later grown => raised later (side.suffix.trans grown))
  cases found with
  | error failure =>
    simp only [meets_pure, Bool.false_eq_true, if_false]
    exact insert.mono fun result later _ holds => by cases result <;> exact holds
  | ok legacy =>
    cases legacy with
    | true => exact lost _ _ side.suffix (unlost.lostOnly row) (Or.inl unlost) rfl
    | false =>
      simp only [Bool.false_eq_true, if_false]
      exact insert.mono fun result later _ holds => by cases result <;> exact holds

theorem meets_mintDescendants
    {post : Except ServiceError (Option (Payload × Payload)) → Trace → Prop} (settings : Settings)
    (email : String) (chainId jti accountVer chainVer consumedAt : Nat)
    (clientIp : Option String)
    (grounds : request.HasGrounds trace email chainId accountVer chainVer)
    (done : ∀ result later, Avoids Call.isClaim trace later → post result later) :
    (mintDescendants settings email chainId jti
      ⟨true, some consumedAt, some accountVer, some chainVer, clientIp, false⟩).Meets
        request.discipline post trace := by
  refine (meets_bind _ _).mpr (meets_createToken settings .access (by decide) _ email chainId
    accountVer chainVer _ grounds fun accessToken first claims _ _ _ => ?_)
  refine (meets_bind _ _).mpr (meets_createToken settings .refresh (by decide) _ email chainId
    accountVer chainVer _ (grounds.extend claims.suffix) fun refreshToken second claims' _ _ _ => ?_)
  have both := claims.trans claims'
  refine (meets_bind _ _).mpr (meets_decodePayload refreshToken ?_ ?_)
  · intro third side decoded
    have all := both.trans side.toClaims
    have checked (newJti newExp : Nat) : Meets request.discipline (do
        if some (refreshToken.accountVer.getD 0) != some accountVer then return none
        if some (refreshToken.chainVer.getD 0) != some chainVer then return none
        if !(← isCurrentVersion refreshToken) then return none
        rotateSession jti newJti chainId newExp (some email)
        return some (accessToken, refreshToken) : Service (Option (Payload × Payload)))
          post third := by
      split
      · exact done _ _ all
      · split
        · exact done _ _ all
        · refine (meets_bind _ _).mpr (meets_isCurrentVersion refreshToken ?_ ?_ ?_)
          · intro fourth side' _
            refine (meets_bind _ _).mpr (meets_bestEffort (free_rotateSession _ _ _ _ _) ?_)
            intro last side''
            exact done _ _ ((all.trans side'.toClaims).trans side''.toClaims)
          · intro fourth side'
            exact done _ _ (all.trans side'.toClaims)
          · intro fourth side' _
            exact done _ _ (all.trans side'.toClaims)
    cases isJti : refreshToken.jti with
    | none =>
      simp only [isJti]
      exact done _ _ all
    | some newJti =>
      cases isExp : refreshToken.exp with
      | none =>
        simp only [isJti, isExp]
        exact done _ _ all
      | some newExp =>
        simp only [isJti, isExp]
        exact checked newJti newExp
  · intro third side
    exact done _ _ (both.trans side.toClaims)

end Rotation

end MysticAuth.Tokens
