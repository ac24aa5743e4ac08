import MysticAuth.Tokens.Composition
import MysticAuth.Tokens.ServiceSpecs

/-!
# Every request follows its rules
-/

set_option autoImplicit false

namespace MysticAuth.Tokens

open Interleaving Program

variable {request : Request} {trace : Trace}

theorem meets_respond {α : Type} {post : Except ServiceError Response → Trace → Prop}
    (response : α → Response) {service : Service α}
    (inside : service.Meets request.discipline
      (fun result later => post (result.map response) later) trace) :
    (respond response service).Meets request.discipline post trace := by
  refine (meets_bind _ _).mpr (inside.mono fun result later _ holds => ?_)
  cases result with
  | ok value => exact holds
  | error failure => exact holds

theorem meets_getByEmail {post : Except ServiceError (Option User) → Trace → Prop}
    (email : String)
    (found : ∀ user later, Side trace later → user.email = email →
      ⟨.selectUserByEmail email, .ok (some user)⟩ ∈ later → post (.ok (some user)) later)
    (absent : ∀ later, Side trace later → post (.ok none) later)
    (raised : ∀ error later, Side trace later → post (.error error) later) :
    (getByEmail email).Meets request.discipline post trace := by
  refine ⟨trivial, fun reply answered => ?_⟩
  have side : Side trace (⟨.selectUserByEmail email, reply⟩ :: trace) := .one _ rfl
  cases reply with
  | error failure => exact raised failure _ side
  | ok selected =>
    cases selected with
    | none => exact absent _ side
    | some user => exact found user _ side answered List.mem_cons_self

theorem meets_getOr404 {post : Except ServiceError User → Trace → Prop} (email : String)
    (found : ∀ user later, Side trace later → user.email = email →
      ⟨.selectUserByEmail email, .ok (some user)⟩ ∈ later → post (.ok user) later)
    (raised : ∀ error later, Side trace later → post (.error error) later) :
    (getOr404 email).Meets request.discipline post trace :=
  (meets_bind _ _).mpr (meets_getByEmail email found (raised _) raised)

/-- Who is signed in has a current access token and an active account. -/
theorem meets_getCurrentUser {post : Except ServiceError User → Trace → Prop}
    (settings : Settings) (accessToken : Payload)
    (admitted : ∀ user later, Side trace later → ⟨.decode accessToken, true⟩ ∈ later →
      VersionsMatched later accessToken → accessToken.email = some user.email →
        ⟨.selectUserByEmail user.email, .ok (some user)⟩ ∈ later → user.isActive = true →
          post (.ok user) later)
    (raised : ∀ error later, Side trace later → post (.error error) later) :
    (getCurrentUser settings accessToken).Meets request.discipline post trace := by
  refine (meets_tryCatch _ _).mpr ((meets_bind _ _).mpr
    (meets_verifyToken settings accessToken (some .access) ?_ ?_ ?_))
  · intro later side decoded matched typed
    have session : accessToken.type ≠ .other := by
      rw [typed .access rfl]
      decide
    cases isEmail : accessToken.email with
    | none =>
      simp only [isEmail]
      exact raised _ later side
    | some email =>
      simp only [isEmail]
      refine (meets_bind _ _).mpr (meets_getByEmail email ?_ ?_ ?_)
      · intro user last side' sameEmail found
        subst sameEmail
        have both := side.trans side'
        cases active : user.isActive with
        | true =>
          simp only [active]
          exact admitted user last both (side'.mem decoded)
            ((matched session).extend side'.suffix) isEmail found active
        | false =>
          simp only [active]
          exact raised _ last both
      · intro last side'
        exact raised _ last (side.trans side')
      · intro error last side'
        cases error <;> exact raised _ last (side.trans side')
  · intro later side
    exact raised _ later side
  · intro error later side
    cases error <;> exact raised _ later side

/-! ## Requests that sign nothing and claim nothing -/

/-- The service follows the rules of every request, after any calls. -/
def Harmless {α : Type} (service : Service α) : Prop :=
  ∀ (request : Request) (trace : Trace),
    service.Meets request.discipline (fun _ _ => True) trace

section Harmless

variable {α β : Type}

theorem harmless_of_free {service : Service α} (free : Free service) : Harmless service :=
  fun _ _ => Free.meets free fun _ _ _ => trivial

theorem harmless_bind {service : Service α} {rest : α → Service β} (first : Harmless service)
    (second : ∀ value, Harmless (rest value)) : Harmless (service >>= rest) := by
  intro request trace
  refine (meets_bind _ _).mpr ((first request trace).mono fun result later _ _ => ?_)
  cases result with
  | ok value => exact second value request later
  | error failure => trivial

theorem harmless_tryCatch {body : Service α} {handler : ServiceError → Service α}
    (inside : Harmless body) (caught : ∀ error, Harmless (handler error)) :
    Harmless (tryCatch body handler) := by
  intro request trace
  refine (meets_tryCatch _ _).mpr ((inside request trace).mono fun result later _ _ => ?_)
  cases result with
  | ok value => trivial
  | error failure => exact caught failure request later

theorem harmless_tryBump (key : VersionKey) : Harmless (tryBump key) :=
  fun _ _ => meets_tryBump key (fun _ _ _ => trivial) fun _ _ _ => trivial

theorem harmless : Compositional fun _ service => Harmless service where
  value _ := fun _ _ => trivial
  raised _ := fun _ _ => trivial
  bind := harmless_bind
  caught := harmless_tryCatch
  execute call result plain _ := harmless_of_free (free_execute call result plain)
  tryBump := harmless_tryBump

end Harmless

/-! ## The purge of an account -/

section Purge

/-- A purge deletes an account that it has loaded, after the account's version is bumped. -/
theorem meets_purgeUserAccount {post : Except ServiceError Nat → Trace → Prop} (user : User)
    (loaded : Loaded trace user)
    (done : ∀ result later, trace <:+ later → post result later) :
    (purgeUserAccount user).Meets request.discipline post trace := by
  unfold purgeUserAccount lockById
  simp only [meets_bind, meets_execute, id]
  refine ⟨trivial, fun reply _ => ?_⟩
  have locked : trace <:+ ⟨.lockUser user.id, reply⟩ :: trace := List.suffix_cons _ _
  cases reply with
  | error failure => exact done _ _ locked
  | ok exists' =>
    cases exists' with
    | false => exact done _ _ locked
    | true =>
      change Meets _ (if _ then _ else _) post _
      split
      · exact done _ _ locked
      · refine (meets_bind _ _).mpr (meets_revokeAllTokensForUser user.email ?_ ?_)
        · intro count later side bumped
          refine (meets_bind _ _).mpr (meets_logSecurityEvent fun last side' => ?_)
          have grown := locked.trans (side.trans side').suffix
          refine (meets_bind _ _).mpr ⟨⟨user, loaded.extend grown, rfl,
            bumped.extend side'.suffix⟩, fun reply _ => ?_⟩
          have deleted := grown.trans (List.suffix_cons ⟨.deleteUser user.id, reply⟩ _)
          cases reply with
          | error failure => exact done _ _ deleted
          | ok _ => exact done _ _ deleted
        · intro later side _
          exact done _ later (locked.trans side.suffix)

theorem meets_purgeAccounts {post : Except ServiceError Nat → Trace → Prop} (users : List User)
    (loaded : ∀ user ∈ users, Loaded trace user)
    (done : ∀ result later, trace <:+ later → post result later) :
    (purgeAccounts users).Meets request.discipline post trace := by
  induction users generalizing trace post with
  | nil => exact done _ _ (List.suffix_refl _)
  | cons user rest ih =>
    have continues (count : Nat) (later : Trace) (grown : trace <:+ later) :
        Meets request.discipline (do
          return count + (← purgeAccounts rest) : Service Nat) post later := by
      refine (meets_bind _ _).mpr (ih ?_ fun result last grown' => ?_)
      · intro other member
        exact (loaded other (List.mem_cons_of_mem _ member)).extend grown
      · cases result with
        | ok count' => exact done _ _ (grown.trans grown')
        | error failure => exact done _ _ (grown.trans grown')
    refine (meets_bind _ _).mpr ((meets_tryCatch _ _).mpr ((meets_bind _ _).mpr
      (meets_purgeUserAccount user (loaded user List.mem_cons_self) fun result later grown => ?_)))
    cases result with
    | ok count => exact continues 1 later grown
    | error failure =>
      cases failure with
      | tokenVersionUnavailable => exact continues 0 later grown
      | accountNoLongerEligibleForPurge => exact continues 0 later grown
      | _ => exact done _ later grown

theorem meets_withSession {α : Type} {post : Except ServiceError α → Trace → Prop}
    {body : Service α} (inside : body.Meets request.discipline (fun _ _ => True) trace)
    (done : ∀ result later, post result later) :
    (withSession body).Meets request.discipline post trace := by
  refine (meets_bind _ _).mpr ((meets_tryCatch _ _).mpr (inside.mono fun result later _ _ => ?_))
  cases result with
  | ok value => exact ⟨trivial, fun _ _ => done _ _⟩
  | error failure => exact ⟨trivial, fun _ _ => done _ _⟩

theorem meets_purgeUser {post : Except ServiceError Nat → Trace → Prop} (userEmail : String)
    (done : ∀ result later, post result later) :
    (purgeUser userEmail).Meets request.discipline post trace := by
  refine meets_withSession ((meets_bind _ _).mpr (meets_getOr404 userEmail ?_ ?_)) done
  · intro user later _ _ found
    refine (meets_tryCatch _ _).mpr (meets_purgeUserAccount user (Or.inl ⟨userEmail, found⟩) ?_)
    intro result last _
    cases result with
    | ok count => trivial
    | error failure => cases failure <;> trivial
  · intro error later _
    trivial

theorem meets_purgeExpiredSoftDeletedAccounts {post : Except ServiceError Nat → Trace → Prop}
    (settings : Settings) (done : ∀ result later, post result later) :
    (purgeExpiredSoftDeletedAccounts settings).Meets request.discipline post trace := by
  refine meets_withSession ?_ done
  refine ⟨trivial, fun now _ => ⟨trivial, fun reply _ => ?_⟩⟩
  cases reply with
  | error failure => trivial
  | ok users =>
    refine meets_purgeAccounts users (fun user member => Or.inr ?_) fun _ _ _ => trivial
    exact ⟨_, users, List.mem_cons_self, member⟩

end Purge

/-! ## Rotation -/

section Rotation

variable {settings : Settings} {payload : Payload} {clientIp : Option String}

/-- What a rotation of the token owes when it ends. -/
def Rotated (payload : Payload) (clientIp : Option String)
    (result : Except ServiceError (Option (Payload × Payload))) (trace : Trace) : Prop :=
  Lost trace payload clientIp ∧ ((∃ pair, result = .ok (some pair)) → Won trace payload)

theorem Unlost.lost (unlost : Unlost trace) : Lost trace payload clientIp :=
  fun row member => absurd member (unlost row)

theorem Unlost.rotated_none (unlost : Unlost trace) :
    Rotated payload clientIp (.ok none) trace :=
  ⟨unlost.lost, by simp⟩

theorem Unlost.rotated_error (unlost : Unlost trace) (error : ServiceError) :
    Rotated payload clientIp (.error error) trace :=
  ⟨unlost.lost, by simp⟩

theorem LostOnly.lost {row : ClaimRow} (only : LostOnly trace row)
    (excused : Failed trace ∨ Vanished trace row ∨
      (∃ consumed, ⟨.selectClaim row.jti, .ok (some consumed)⟩ ∈ trace ∧
        consumed.clientIp = clientIp) ∨
      ∃ email chainId earlier, payload.email = some email ∧ payload.chain = some chainId ∧
        ⟨.decode payload, true⟩ ∈ earlier ∧ BumpedAfter earlier trace (.chain email chainId)) :
    Lost trace payload clientIp := by
  intro row' member
  obtain rfl := only row' member
  exact excused

/-- Who loses the claim is excused as a duplicate, or treated as a replay. -/
theorem meets_lostClaim {post : Except ServiceError (Option (Payload × Payload)) → Trace → Prop}
    (row : ClaimRow) (email : String) (chainId : Nat) (isEmail : payload.email = some email)
    (isChain : payload.chain = some chainId) (decoded : ⟨.decode payload, true⟩ ∈ trace)
    (only : LostOnly trace row)
    (inserted : Unlost trace ∨ ⟨.insertClaim row, .ok none⟩ ∈ trace)
    (done : ∀ result later, Lost later payload row.clientIp →
      (result = .ok none ∨ result = .error .tokenVersionUnavailable) → post result later) :
    Meets request.discipline (do
      if !(← isBenignDuplicateRotation settings row.jti row.clientIp) then
        handleReuseDetected payload
      return none : Service (Option (Payload × Payload))) post trace := by
  have only' {later : Trace} (side : Side trace later) := only.extend side.toClaims
  have replayed : ∀ later, Side trace later → Meets request.discipline (do
      handleReuseDetected payload
      return none : Service (Option (Payload × Payload))) post later := by
    intro later side
    refine (meets_bind _ _).mpr (meets_handleReuseDetected payload email chainId isEmail isChain ?_)
    intro last side' handled
    have lost : Lost last payload row.clientIp := by
      refine (only' (side.trans side')).lost ?_
      rcases handled with isFailed | bumped
      · exact Or.inl isFailed
      · exact Or.inr (Or.inr (Or.inr ⟨email, chainId, later, isEmail, isChain, side.mem decoded,
          bumped⟩))
    exact done _ last lost (Or.inl rfl)
  refine (meets_bind _ _).mpr (meets_isBenignDuplicateRotation settings row.jti row.clientIp
    ?_ replayed ?_)
  · intro later side benign
    refine done _ later ?_ (Or.inl rfl)
    rcases inserted with unlost | lost
    · exact (unlost.extend side.toClaims).lost
    · refine (only' side).lost ?_
      rcases benign with sameClient | ⟨earlier, within, longer⟩
      · exact Or.inr (Or.inr (Or.inl sameClient))
      · exact Or.inr (Or.inl ⟨earlier, within, longer.subset lost⟩)
  · intro later side isFailed
    exact done _ later ((only' side).lost (Or.inl isFailed)) (Or.inr rfl)

theorem meets_rotateClaimed (email : String) (chainId jti accountVer chainVer : Nat)
    (isRequest : request = .refresh payload clientIp) (isEmail : payload.email = some email)
    (isChain : payload.chain = some chainId) (isJti : payload.jti = some jti)
    (isAccount : payload.accountVer = some accountVer)
    (isChainVer : payload.chainVer = some chainVer) (isRefresh : payload.type = .refresh)
    (decoded : ⟨.decode payload, true⟩ ∈ trace) (matched : VersionsMatched trace payload)
    (unclaimed : hasClaimed trace = false) :
    (rotateClaimed settings payload email chainId jti accountVer chainVer clientIp).Meets
      request.discipline (Rotated payload clientIp) trace := by
  unfold rotateClaimed
  cases isExp : payload.exp with
  | none =>
    have unlost := unlost_of_unclaimed unclaimed
    exact unlost.rotated_error _
  | some expiry =>
    let row : ClaimRow := ⟨jti, expiry, clientIp, accountVer, chainVer⟩
    refine (meets_bind _ _).mpr (meets_claimJtiForRotation row unclaimed ?_ ?_ ?_ ?_)
    · intro later side
      refine ⟨payload, isRequest, isJti, isExp, isAccount, isChainVer, isRefresh,
        side.mem decoded, matched.extend side.suffix, ?_⟩
      rw [side.toClaims.hasClaimed]
      exact unclaimed
    · intro consumed later grown unlost won
      refine meets_mintDescendants settings email chainId jti accountVer chainVer _ _ ?_ ?_
      · rw [isRequest]
        exact Or.inr ⟨isEmail, isChain, isAccount, isChainVer, grown.subset decoded⟩
      · intro result last avoids
        refine ⟨(unlost.extend avoids).lost, fun _ => ⟨?_, ?_, row, consumed, isJti, ?_⟩⟩
        · exact avoids.mem (grown.subset decoded)
        · exact matched.extend (grown.trans avoids.suffix)
        · exact avoids.mem won
    · intro claim later grown only inserted unclaimed'
      simp only [unclaimed']
      refine meets_lostClaim row email chainId isEmail isChain (grown.subset decoded) only inserted
        fun result last lost isResult => ⟨lost, ?_⟩
      rcases isResult with rfl | rfl <;> simp
    · intro later grown only excused
      refine ⟨only.lost ?_, by simp⟩
      rcases excused with isFailed | vanished
      · exact Or.inl isFailed
      · exact Or.inr (Or.inl vanished)

theorem meets_rotate (isRequest : request = .refresh payload clientIp)
    (unclaimed : hasClaimed trace = false) :
    (rotate settings payload clientIp).Meets request.discipline (Rotated payload clientIp)
      trace := by
  have refused {later : Trace} (side : Side trace later) :
      Rotated payload clientIp (.ok none) later :=
    ((unlost_of_unclaimed unclaimed).extend side.toClaims).rotated_none
  refine (meets_bind _ _).mpr (meets_decodePayload payload ?_ fun later side => refused side)
  intro later side decoded
  change Meets _ (if _ then _ else _) _ later
  split
  · exact refused side
  · cases isJti : payload.jti with
    | none => exact refused side
    | some jti =>
      by_cases isRefresh : payload.type = .refresh
      · simp only [isRefresh]
        refine (meets_bind _ _).mpr (meets_isCurrentVersion payload ?_ ?_ ?_)
        · intro last side' matched
          have both := side.trans side'
          have session := matched (by rw [isRefresh]; decide)
          obtain ⟨email, chainId, accountVer, chainVer, isEmail, isChain, isAccount, isChainVer,
            -⟩ := session
          simp only [isEmail, isChain, isAccount, isChainVer]
          refine meets_rotateClaimed email chainId jti accountVer chainVer isRequest isEmail isChain
            isJti isAccount isChainVer isRefresh (side'.mem decoded)
            (matched (by rw [isRefresh]; decide)) ?_
          rw [both.toClaims.hasClaimed]
          exact unclaimed
        · intro last side'
          exact refused (side.trans side')
        · intro last side' _
          exact ((unlost_of_unclaimed unclaimed).extend (side.trans side').toClaims).rotated_error _
      · have differs : (payload.type != .refresh) = true := by simpa using isRefresh
        simp only [differs]
        exact refused side

theorem meets_refreshTokens (isRequest : request = .refresh payload clientIp)
    (unclaimed : hasClaimed trace = false) :
    (refreshTokens settings payload clientIp).Meets request.discipline (Rotated payload clientIp)
      trace := by
  refine (meets_tryCatch _ _).mpr ((meets_rotate isRequest unclaimed).mono
    fun result later _ rotated => ?_)
  cases result with
  | ok pair => exact rotated
  | error failure => cases failure <;> exact ⟨rotated.1, by simp⟩

end Rotation

/-! ## Requests that open a chain or continue it with new versions -/

section Signing

/-- Both tokens of a login carry versions that the login has read after its checks. -/
theorem meets_gatherTokens {post : Except ServiceError (Payload × Payload) → Trace → Prop}
    (settings : Settings) (email password : String) (chainId : Nat)
    (isRequest : request = .login email password) (drawn : firstDraw trace = some chainId)
    (checked : request.CredentialsChecked trace) (unsigned : hasEncoded trace = false)
    (unread : versionsReads trace = 0) (done : ∀ result later, post result later) :
    (gatherTokens settings email chainId).Meets request.discipline post trace := by
  have opens {later : Trace} (longer : trace <:+ later) : request.Opens later email chainId := by
    rw [isRequest]
    exact ⟨rfl, firstDraw_extend longer drawn⟩
  have sign {later : Trace} (longer : trace <:+ later) (accessVersions refreshVersions : Nat × Nat)
      (access : ⟨.selectVersions email chainId, .ok accessVersions⟩ ∈ later)
      (refresh : ⟨.selectVersions email chainId, .ok refreshVersions⟩ ∈ later) (now : Nat) :
      Meets request.discipline (do
        let accessToken ← createAccessToken settings email chainId (some now) (some accessVersions)
        let refreshToken ←
          createRefreshToken settings email chainId (some now) (some refreshVersions)
        return (accessToken, refreshToken) : Service (Payload × Payload)) post later := by
    refine (meets_bind _ _).mpr (meets_createToken settings .access (by decide) _ email chainId
      accessVersions.1 accessVersions.2 _ (Or.inl ⟨opens longer, checked.extend longer, access⟩) ?_)
    intro accessToken last claims _ _ _
    have grown := longer.trans claims.suffix
    refine (meets_bind _ _).mpr (meets_createToken settings .refresh (by decide) _ email chainId
      refreshVersions.1 refreshVersions.2 _
      (Or.inl ⟨opens grown, checked.extend grown, claims.mem refresh⟩) ?_)
    intro refreshToken end' _ _ _ _
    exact done _ _
  refine ⟨trivial, fun now _ => ⟨trivial, fun accessFirst _ => ?_⟩⟩
  change Meets _ (getVersions email chainId >>= _) post _
  refine (meets_bind _ _).mpr (meets_orUnavailable ?_)
  have served : Side trace (⟨.firstServed, accessFirst⟩ :: ⟨.clock, now⟩ :: trace) :=
    (Avoids.one _ rfl).cons _ rfl
  refine ⟨⟨opens served.suffix, ?_, fun _ => ?_⟩, fun first _ => ?_⟩
  · rw [served.versionsReads, unread]
    decide
  · rw [served.hasEncoded]
    exact unsigned
  cases first with
  | error failure => exact done _ _
  | ok first =>
    change Meets _ (getVersions email chainId >>= _) post _
    refine (meets_bind _ _).mpr (meets_orUnavailable ?_)
    have read := served.suffix.trans (List.suffix_cons ⟨.selectVersions email chainId, .ok first⟩ _)
    refine ⟨⟨opens read, ?_, fun _ => ?_⟩, fun second _ => ?_⟩
    · have once : versionsReads (⟨.selectVersions email chainId, .ok first⟩ ::
          ⟨.firstServed, accessFirst⟩ :: ⟨.clock, now⟩ :: trace) = versionsReads trace + 1 := by
        simp [versionsReads, Call.isVersionsRead]
      rw [once, unread]
      decide
    · simpa [hasEncoded, Call.isEncode] using unsigned
    cases second with
    | error failure => exact done _ _
    | ok second =>
      have grown := read.trans
        (List.suffix_cons ⟨.selectVersions email chainId, .ok second⟩ _)
      cases accessFirst with
      | true => exact sign grown first second (by simp) (by simp) now
      | false => exact sign grown second first (by simp) (by simp) now

theorem meets_anyhow {α : Type} {post : Except ServiceError α → Trace → Prop} {service : Service α}
    (inside : service.Meets request.discipline (fun _ _ => True) trace)
    (done : ∀ result later, post result later) : service.Meets request.discipline post trace :=
  inside.mono fun result later _ _ => done result later

theorem meets_login {post : Except ServiceError (Option (Payload × Payload)) → Trace → Prop}
    (settings : Settings) (email password : String)
    (isRequest : request = .login email password) (done : ∀ result later, post result later) :
    (login settings email password).Meets request.discipline post [] := by
  refine (meets_tryCatch _ _).mpr (meets_anyhow ?_ ?_)
  swap
  · intro result later
    cases result with
    | ok pair => exact done _ _
    | error failure => cases failure <;> exact done _ _
  change Meets _ (if _ then _ else _) _ _
  split
  · trivial
  · refine (meets_bind _ _).mpr (meets_getByEmail email ?_ (fun _ _ => trivial)
      fun _ _ _ => trivial)
    intro user later side isEmail found
    have unsigned : hasEncoded later = false := side.hasEncoded
    have unread : versionsReads later = 0 := side.versionsReads
    have undrawn : firstDraw later = none := side.firstDraw
    change Meets _ (if _ then _ else _) _ later
    split
    · trivial
    · rename_i verified
      change Meets _ (if _ then _ else _) _ later
      split
      · trivial
      · rename_i active
        change Meets _ (if _ then _ else _) _ later
        split
        · trivial
        · rename_i passed
          refine (meets_bind _ _).mpr ⟨trivial, fun reply _ => ?_⟩
          cases reply with
          | error failure => trivial
          | ok _ =>
            refine (meets_bind _ _).mpr ⟨trivial, fun chainId _ => ?_⟩
            refine (meets_bind _ _).mpr (meets_gatherTokens settings email password chainId
              isRequest ?_ ?_ ?_ ?_ ?_)
            · simp only [firstDraw, undrawn, Option.or]
            · rw [isRequest]
              refine ⟨user, by simp [found], ?_, ?_, ?_⟩
              · simpa using verified
              · simpa using active
              · simpa using passed
            · exact unsigned
            · exact unread
            · intro result last
              cases result with
              | error failure => trivial
              | ok tokens =>
                refine (meets_bind _ _).mpr (Free.meets (free_decodePayload _) ?_)
                intro decoded end' _
                cases decoded with
                | error failure => trivial
                | ok decoded =>
                  cases decoded with
                  | none => trivial
                  | some payload =>
                    have create (jti exp : Nat) : Meets request.discipline (do
                        createSession user.id jti chainId exp
                        return some tokens : Service (Option (Payload × Payload)))
                          (fun _ _ => True) end' :=
                      (meets_bind _ _).mpr (meets_bestEffort (free_createSession _ _ _ _)
                        fun _ _ => trivial)
                    simp only
                    cases payload.jti with
                    | none => trivial
                    | some jti =>
                      cases payload.exp with
                      | none => trivial
                      | some exp => exact create jti exp

theorem meets_assertCurrentPassword {post : Except ServiceError Unit → Trace → Prop}
    (user : User) (currentPassword : Option String)
    (passed : (∀ hashedPassword, user.hashedPassword = some hashedPassword →
      currentPassword.any (verifyPassword · hashedPassword) = true) → post (.ok ()) trace)
    (raised : ∀ error, post (.error error) trace) :
    (assertCurrentPassword user currentPassword).Meets request.discipline post trace := by
  unfold assertCurrentPassword
  split
  · rename_i hashedPassword isHash
    split
    · exact raised _
    · rename_i verified
      refine passed fun hashedPassword' isHash' => ?_
      obtain rfl := Option.some.inj (isHash.symm.trans isHash')
      simpa using verified
  · rename_i noHash
    exact passed fun hashedPassword isHash => absurd isHash (noHash hashedPassword)

theorem meets_assertPasswordDiffers {post : Except ServiceError Unit → Trace → Prop}
    (user : User) (password : String) (passed : post (.ok ()) trace)
    (raised : ∀ error, post (.error error) trace) :
    (assertPasswordDiffers user password).Meets request.discipline post trace := by
  unfold assertPasswordDiffers
  split
  · exact raised _
  · exact passed

theorem meets_confirmed_exceptChain {post : Except ServiceError Bool → Trace → Prop}
    (email : String) (exemptChainId : Nat)
    (done : ∀ result later, Side trace later → post result later) :
    (confirmed (revokeAllTokensForUserExceptChain email exemptChainId)).Meets
      request.discipline post trace :=
  meets_confirmed (meets_revokeAllTokensForUserExceptChain email exemptChainId
    (fun _ later side _ => done _ later side) fun later side _ => done _ later side)

/-- A password change reads the versions of each of its two tokens after its checks. -/
theorem meets_continueChain {post : Except ServiceError (Bool × Option (Payload × Payload)) →
      Trace → Prop} (settings : Settings) (email : String) (chainId : Nat)
    (notLogin : request.isLogin = false) (opens : request.Opens trace email chainId)
    (checked : request.CredentialsChecked trace) (unread : versionsReads trace = 0)
    (done : ∀ result later, post result later) :
    Meets request.discipline (do
      let sessionsRevoked ← confirmed (revokeAllTokensForUserExceptChain email chainId)
      let newAccessToken ← createAccessToken settings email chainId none none
      let newRefreshToken ← createRefreshToken settings email chainId none none
      if let some payload ← decodePayload newRefreshToken then
        if let (some jti, some exp) := (payload.jti, payload.exp) then
          rotateSessionByChain chainId jti exp (some email)
      return (sessionsRevoked, some (newAccessToken, newRefreshToken)) :
        Service (Bool × Option (Payload × Payload))) post trace := by
  refine (meets_bind _ _).mpr (meets_confirmed_exceptChain email chainId ?_)
  intro revoked later side
  match revoked with
  | .error failure => exact done _ _
  | .ok sessionsRevoked =>
    refine (meets_bind _ _).mpr (meets_createToken_reading settings .access (by decide) _ email
      chainId notLogin (opens.extend side.suffix) (checked.extend side.suffix) ?_ ?_
      fun _ _ => done _ _)
    · rw [side.versionsReads, unread]
      decide
    · intro newAccessToken second grown counted
      have longer := side.suffix.trans grown
      refine (meets_bind _ _).mpr (meets_createToken_reading settings .refresh (by decide) _ email
        chainId notLogin (opens.extend longer) (checked.extend longer) ?_ ?_ fun _ _ => done _ _)
      · rw [counted, side.versionsReads, unread]
        decide
      · intro newRefreshToken third _ _
        refine (meets_bind _ _).mpr (Free.meets (free_decodePayload _) ?_)
        intro decoded end' _
        match decoded with
        | .error failure => exact done _ _
        | .ok none => exact done _ _
        | .ok (some payload) =>
          have move (jti exp : Nat) : Meets request.discipline (do
              rotateSessionByChain chainId jti exp (some email)
              return (sessionsRevoked, some (newAccessToken, newRefreshToken)) :
                Service (Bool × Option (Payload × Payload))) post end' :=
            (meets_bind _ _).mpr (meets_bestEffort (free_rotateSessionByChain _ _ _ _)
              fun _ _ => done _ _)
          change Meets _ (match (payload.jti, payload.exp) with
            | (some jti, some exp) => _
            | _ => _) _ _
          cases payload.jti with
          | none => exact done _ _
          | some jti =>
            cases payload.exp with
            | none => exact done _ _
            | some exp => exact move jti exp

theorem meets_updateMyProfile
    {post : Except ServiceError (Bool × Option (Payload × Payload)) → Trace → Prop}
    (settings : Settings) (accessToken : Payload) (currentPassword : Option String)
    (password : String)
    (isRequest : request = .updateMyProfile accessToken currentPassword password)
    (done : ∀ result later, post result later) :
    (updateMyProfile settings accessToken currentPassword password).Meets request.discipline post
      [] := by
  refine (meets_bind _ _).mpr (meets_getCurrentUser settings accessToken ?_ fun _ _ _ => done _ _)
  intro currentUser first side decoded matched isEmail current active
  refine (meets_bind _ _).mpr (meets_getOr404 currentUser.email ?_ fun _ _ _ => done _ _)
  intro user second side' _ found
  refine (meets_bind _ _).mpr (meets_assertCurrentPassword user currentPassword ?_
    fun _ => done _ _)
  intro passed
  have checked : request.CredentialsChecked second := by
    rw [isRequest]
    exact ⟨matched.extend side'.suffix, ⟨_, currentUser, side'.mem current, active⟩, _, user, found,
      passed⟩
  refine (meets_bind _ _).mpr (meets_assertPasswordDiffers user password ?_ fun _ => done _ _)
  refine (meets_bind _ _).mpr ⟨trivial, fun reply _ => ?_⟩
  cases reply with
  | error failure => exact done _ _
  | ok written =>
    have updated : Side second (⟨.setPassword user.id password, .ok ()⟩ :: second) := .one _ rfl
    have ended {last : Trace} : Meets request.discipline (do
        let sessionsRevoked ← confirmed (revokeAllTokensForUser currentUser.email)
        return (sessionsRevoked, none) : Service (Bool × Option (Payload × Payload)))
          post last := by
      refine (meets_bind _ _).mpr (meets_confirmed (meets_revokeAllTokensForUser _ ?_ ?_))
      · intro _ _ _ _
        exact done _ _
      · intro _ _ _
        exact done _ _
    refine (meets_bind _ _).mpr (meets_decodePayload accessToken ?_ ?_)
    · intro last side'' decoded'
      have both := updated.trans side''
      simp only [Option.bind_some]
      cases isChain : accessToken.chain with
      | none => exact ended
      | some chainId =>
        refine meets_continueChain settings currentUser.email chainId ?_ ?_
          (checked.extend both.suffix) ?_ done
        · rw [isRequest]
          rfl
        · rw [isRequest]
          exact ⟨isEmail, isChain, decoded'⟩
        · exact ((side.trans side').trans both).versionsReads
    · intro last _
      exact ended

end Signing

/-! ## The system -/

section System

/-- The row of a session that ends is deleted if it is still there. -/
theorem meets_endSession (request : Request) (post : Except ServiceError Bool → Trace → Prop)
    (jti : Nat)
    (done : ∀ later, trace <:+ later → post (.ok true) later) :
    Meets request.discipline (do
      let some row ← execute (.selectSessionByJti jti) id | return true
      execute (.deleteSession row.id) id
      return true : Service Bool) (fun result later => match result with
        | .ok value => post (.ok value) later
        | .error _ => post (.ok true) later) trace := by
  refine (meets_bind _ _).mpr ⟨trivial, fun reply _ => ?_⟩
  cases reply with
  | error failure => exact done _ (List.suffix_cons _ _)
  | ok found =>
    cases found with
    | none => exact done _ (List.suffix_cons _ _)
    | some row =>
      refine (meets_bind _ _).mpr ⟨trivial, fun reply' _ => ?_⟩
      have longer := (List.suffix_cons ⟨.selectSessionByJti jti, .ok (some row)⟩ trace).trans
        (List.suffix_cons ⟨.deleteSession row.id, reply'⟩ _)
      cases reply' with
      | error failure => exact done _ longer
      | ok deleted => exact done _ longer

/-- A logout that does not report an unconfirmed bump found no row for the token, or a row
without a chain, or has bumped the chain of the row. -/
theorem meets_revokeSessionOnLogout {post : Except ServiceError Bool → Trace → Prop}
    (jti : Nat) (email : Option String)
    (revoked : ∀ reply later, ⟨.selectSessionByJti jti, reply⟩ :: trace <:+ later →
      (∀ session chainId address, reply = .ok (some session) → session.chainId = some chainId →
        email = some address → BumpedAfter trace later (.chain address chainId)) →
          post (.ok true) later)
    (unconfirmed : ∀ later, trace <:+ later → post (.ok false) later) :
    (revokeSessionOnLogout (some jti) email).Meets request.discipline post trace := by
  refine (meets_tryCatch _ _).mpr ((meets_bind _ _).mpr ⟨trivial, fun reply _ => ?_⟩)
  have here : ⟨.selectSessionByJti jti, reply⟩ :: trace <:+
      (⟨.selectSessionByJti jti, reply⟩ :: trace : Trace) := List.suffix_refl _
  cases reply with
  | error failure => exact revoked _ _ here (by simp)
  | ok found =>
    cases found with
    | none => exact revoked _ _ here (by simp)
    | some session =>
      have finish (later : Trace)
          (longer : ⟨.selectSessionByJti jti, .ok (some session)⟩ :: trace <:+ later)
          (bumped : ∀ chainId address, session.chainId = some chainId → email = some address →
            BumpedAfter trace later (.chain address chainId)) :=
        meets_endSession request post jti fun last longer' =>
          revoked _ last (longer.trans longer') fun session' chainId address same isChain isEmail => by
            obtain rfl := Option.some.inj (Except.ok.inj same)
            exact (bumped chainId address isChain isEmail).extend longer'
      simp only [Meets, id_eq]
      cases isEmail : email with
      | none =>
        refine (finish _ here (by simp [isEmail])).mono fun result _ _ holds => ?_
        cases result <;> exact holds
      | some address =>
        cases isChain : session.chainId with
        | none =>
          refine (finish _ here (by simp [isChain])).mono fun result _ _ holds => ?_
          cases result <;> exact holds
        | some chainId =>
          refine (meets_bind _ _).mpr (meets_tryBump _ ?_ ?_)
          · intro later side bumped
            refine (finish later side.suffix fun chainId' address' isChain' isEmail' => ?_).mono
              fun result _ _ holds => by cases result <;> exact holds
            obtain rfl := Option.some.inj (isChain.symm.trans isChain')
            obtain rfl := Option.some.inj (isEmail.symm.trans isEmail')
            exact bumped.weaken (List.suffix_cons _ _)
          · intro later side _
            exact unconfirmed later ((List.suffix_cons _ _).trans side.suffix)

theorem LoggedOut.extend {later : Trace} {token : Payload} (longer : trace <:+ later)
    (decoded : ⟨.decode token, true⟩ ∈ trace) (loggedOut : LoggedOut trace token) :
    LoggedOut later token := by
  intro jti email isJti isEmail isRefresh _
  obtain ⟨reply, earlier, within, first, before, bumped⟩ :=
    loggedOut jti email isJti isEmail isRefresh decoded
  refine ⟨reply, earlier, within.trans longer, first, before, fun session chainId isFound isChain => ?_⟩
  exact (bumped session chainId isFound isChain).extend longer

theorem meets_handleLogout (token : Payload) :
    (handleLogout (some token)).Meets request.discipline
      (fun result later => (∃ valid, ⟨.decode token, valid⟩ ∈ later) ∧
        (result = .ok (some true) → LoggedOut later token)) [] := by
  have logged (sessionRevoked valid : Bool) {later : Trace} (decoded : ⟨.decode token, valid⟩ ∈ later)
      (loggedOut : sessionRevoked = true →
        ⟨.decode token, true⟩ ∈ later ∧ LoggedOut later token) : Meets request.discipline (do
        logSecurityEvent
        return some sessionRevoked : Service (Option Bool))
        (fun result last => (∃ valid, ⟨.decode token, valid⟩ ∈ last) ∧
          (result = .ok (some true) → LoggedOut last token)) later := by
    refine (meets_bind _ _).mpr (meets_logSecurityEvent fun last side => ?_)
    refine ⟨⟨valid, side.mem decoded⟩, fun isResult => ?_⟩
    obtain rfl := Option.some.inj (Except.ok.inj isResult)
    obtain ⟨decoded', holds⟩ := loggedOut rfl
    exact holds.extend side.suffix decoded'
  refine ⟨trivial, fun valid _ => ?_⟩
  cases valid with
  | false =>
    refine (meets_bind _ _).mpr ⟨trivial, fun reply _ => ?_⟩
    cases reply <;>
    · refine ⟨⟨false, by simp⟩, fun _ jti email _ _ _ decoded => ?_⟩
      simp at decoded
  | true =>
    by_cases isRefresh : token.type = .refresh
    · have kept : (some token).filter (·.type == .refresh) = some token := by
        simp [isRefresh]
      change Meets _ (revokeSessionOnLogout (((some token).filter (·.type == .refresh)).bind _)
        (((some token).filter (·.type == .refresh)).bind _) >>= _) _ _
      rw [kept]
      simp only [Option.bind_some]
      cases isJti : token.jti with
      | none =>
        refine logged true true List.mem_cons_self fun _ => ⟨List.mem_cons_self, fun jti _ isJti' => ?_⟩
        simp [isJti] at isJti'
      | some jti =>
        refine (meets_bind _ _).mpr (meets_revokeSessionOnLogout jti token.email ?_ ?_)
        · intro reply later within bumped
          have decoded : ⟨.decode token, true⟩ ∈ later :=
            within.subset (List.mem_cons_of_mem _ List.mem_cons_self)
          refine logged true true decoded fun _ => ⟨decoded, fun jti' email isJti' isEmail _ _ => ?_⟩
          obtain rfl := Option.some.inj (isJti.symm.trans isJti')
          refine ⟨reply, _, within, by simp, List.mem_cons_self, ?_⟩
          intro session chainId isFound isChain
          exact bumped session chainId email isFound isChain isEmail
        · intro later within
          exact logged false true (within.subset List.mem_cons_self) (by simp)
    · have dropped : (some token).filter (·.type == .refresh) = none := by
        simp [isRefresh]
      change Meets _ (revokeSessionOnLogout (((some token).filter (·.type == .refresh)).bind _)
        (((some token).filter (·.type == .refresh)).bind _) >>= _) _ _
      rw [dropped]
      exact logged true true List.mem_cons_self fun _ =>
        ⟨List.mem_cons_self, fun _ _ _ _ isRefresh' => absurd isRefresh' isRefresh⟩

theorem outcomes_answer (thread : Nat) (call : Call) (world : World) (outcome : Reply call × World)
    (possible : outcome ∈ outcomes thread call world) : answers call outcome.1 := by
  cases call with
  | insertClaim row =>
    simp only [outcomes] at possible
    split at possible
    · simp only [selected, List.mem_cons, List.not_mem_nil, or_false] at possible
      rcases possible with rfl | rfl <;> trivial
    · simp only [committed, List.mem_cons, List.not_mem_nil, or_false] at possible
      rcases possible with rfl | rfl | rfl <;> trivial
  | selectClaim jti =>
    simp only [outcomes, selected, List.mem_cons, List.not_mem_nil, or_false] at possible
    rcases possible with rfl | rfl
    · cases found : world.claimOf jti with
      | none => trivial
      | some consumed =>
        have isJti := List.find?_some found
        exact beq_iff_eq.mp isJti
    · trivial
  | selectSessionByJti jti =>
    simp only [outcomes, selected, List.mem_cons, List.not_mem_nil, or_false] at possible
    rcases possible with rfl | rfl
    · cases found : world.sessionByJti jti with
      | none => trivial
      | some session =>
        have isJti := List.find?_some found
        exact beq_iff_eq.mp isJti
    · trivial
  | selectUserByEmail email =>
    simp only [outcomes, selected, List.mem_cons, List.not_mem_nil, or_false] at possible
    rcases possible with rfl | rfl
    · cases found : world.userByEmail email with
      | none => trivial
      | some user =>
        have isEmail := List.find?_some found
        exact beq_iff_eq.mp isEmail
    · trivial
  | _ => trivial

theorem server_obeys (settings : Settings) :
    (server settings).Obeys Request.discipline Request.returns where
  programs request := by
    cases request with
    | login email password =>
      exact meets_respond _ (meets_login settings email password rfl fun _ _ => trivial)
    | refresh refreshToken clientIp =>
      refine meets_respond _ ((meets_refreshTokens rfl rfl).mono fun result later _ rotated => ?_)
      refine ⟨rotated.1, fun pair isPair => rotated.2 ⟨pair, ?_⟩⟩
      cases result with
      | ok found => simpa [Except.map] using isPair
      | error failure => simp [Except.map] at isPair
    | verify token expectedType =>
      refine meets_respond _ (meets_verifyToken settings token expectedType ?_ ?_ ?_)
      · intro later side decoded matched _ payload _
        exact ⟨decoded, matched⟩
      · intro later side
        simp [Request.returns, Except.map]
      · intro error later side
        simp [Request.returns, Except.map]
    | updateMyProfile accessToken currentPassword password =>
      exact meets_respond _ (meets_updateMyProfile settings accessToken currentPassword password
        rfl fun _ _ => trivial)
    | logout refreshToken =>
      cases refreshToken with
      | none => trivial
      | some token =>
        refine meets_respond _ ((meets_handleLogout token).mono fun result later _ loggedOut => ?_)
        refine ⟨loggedOut.1, fun isResult => ?_⟩
        cases result with
        | ok revoked => exact loggedOut.2 (by simpa [Except.map] using isResult)
        | error failure => simp [Except.map] at isResult
    | resetPassword email newPassword =>
      exact meets_respond _ ((harmless.resetPassword _ _ _ _).mono fun _ _ _ _ => trivial)
    | updateAnyUser userEmail password =>
      exact meets_respond _ ((harmless.updateAnyUser _ _ _ _).mono fun _ _ _ _ => trivial)
    | logoutAll refreshToken =>
      exact meets_respond _ ((harmless.handleLogoutAll _ _ _).mono fun _ _ _ _ => trivial)
    | revokeSession accessToken refreshToken sessionId =>
      exact meets_respond _ ((harmless.handleRevokeSession _ _ _ _ _ _).mono
        fun _ _ _ _ => trivial)
    | deleteMyAccount accessToken currentPassword =>
      exact meets_respond _ ((harmless.deleteMyAccount _ _ _ _ _).mono fun _ _ _ _ => trivial)
    | confirmDeletion email accountVer =>
      exact meets_respond _ ((harmless.confirmDeletion _ _ _ _).mono fun _ _ _ _ => trivial)
    | deleteAnyUser userEmail =>
      exact meets_respond _ ((harmless.deleteAnyUser _ _ _).mono fun _ _ _ _ => trivial)
    | reactivateUser userEmail =>
      exact meets_respond _ ((harmless.reactivateUser _ _ _).mono fun _ _ _ _ => trivial)
    | purgeUser userEmail => exact meets_respond _ (meets_purgeUser userEmail fun _ _ => trivial)
    | purgeExpiredSoftDeletedAccounts =>
      exact meets_respond _ (meets_purgeExpiredSoftDeletedAccounts settings fun _ _ => trivial)
    | purgeConsumedRefreshTokens batches =>
      exact meets_respond _ ((harmless.purgeConsumedRefreshTokens _ _ _).mono
        fun _ _ _ _ => trivial)
    | purgeExpiredSessions =>
      exact meets_respond _ ((harmless.purgeExpiredSessions _ _ _).mono fun _ _ _ _ => trivial)
  answers _ := outcomes_answer

end System

end MysticAuth.Tokens
