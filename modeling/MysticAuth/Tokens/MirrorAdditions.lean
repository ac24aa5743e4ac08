import MysticAuth.Tokens.Consistency

/-!
# Who adds a row to the mirror

A sign-in adds the row of the chain it opens; a rotation and a password change
add one where they have looked for it in vain.  No other request adds a row,
and none adds two.
-/

set_option autoImplicit false

namespace MysticAuth.Tokens

open Interleaving Program

/-! ## Looking for the row of a chain -/

def hasAdded (trace : Trace) : Bool :=
  trace.any fun event => event.1.addsSession

/-- The token whose chain a request continues with new tokens. -/
def Request.presented : Request → Option Payload
  | .refresh parent _ => some parent
  | .updateMyProfile accessToken _ _ => some accessToken
  | _ => none

/-- The statement with which it looks for the row of that chain. -/
def Request.lookUp : Request → Option Call
  | .refresh parent _ => parent.jti.map .selectSessionByJti
  | .updateMyProfile accessToken _ _ => accessToken.chain.map .selectSessionByChain
  | _ => none

def foundNone : Event → Bool
  | ⟨.selectSessionByJti _, .ok none⟩ => true
  | ⟨.selectSessionByChain _, .ok none⟩ => true
  | _ => false

/-- The request has decoded its token and looked for the row of the token's chain in vain. -/
def Request.Missed (request : Request) (trace : Trace) (chainId : Nat) : Prop :=
  ∃ token event earlier, request.presented = some token ∧ token.chain = some chainId ∧
    request.lookUp = some event.1 ∧ foundNone event = true ∧ event :: earlier <:+ trace ∧
    ⟨.decode token, true⟩ ∈ earlier

/-- The chains whose row a request may add. -/
def Request.MayAdd (request : Request) (trace : Trace) (chainId : Nat) : Prop :=
  hasAdded trace = false ∧
    (request.isLogin = true ∧ firstDraw trace = some chainId ∨ request.Missed trace chainId)

def Request.additions (request : Request) : Discipline Reply where
  allows trace call := ∀ userId jti chainId expiresAt,
    call = .insertSession userId jti chainId expiresAt → request.MayAdd trace chainId
  answers _ _ := True

section MayAdd

variable {request : Request} {trace later : Trace} {chainId : Nat}

theorem Request.Missed.extend (missed : request.Missed trace chainId) (longer : trace <:+ later) :
    request.Missed later chainId := by
  obtain ⟨token, event, earlier, presented, isChain, looks, none, within, decoded⟩ := missed
  exact ⟨token, event, earlier, presented, isChain, looks, none, within.trans longer, decoded⟩

theorem Request.MayAdd.extend (may : request.MayAdd trace chainId)
    (avoids : Avoids Call.addsSession trace later) : request.MayAdd later chainId := by
  refine ⟨avoids.any.trans may.1, may.2.imp ?_ fun missed => missed.extend avoids.suffix⟩
  exact fun opened => ⟨opened.1, firstDraw_extend avoids.suffix opened.2⟩

/-- What a request may newly add after an event: the row of a chain it has drawn, or one that it
has just not found. -/
theorem Request.MayAdd.new {event : Event} (may : request.MayAdd (event :: trace) chainId) :
    request.MayAdd trace chainId ∨ event = ⟨.uuid, chainId⟩ ∨
      ∃ token, request.presented = some token ∧ token.chain = some chainId ∧
        request.lookUp = some event.1 ∧ foundNone event = true := by
  obtain ⟨unadded, opened | missed⟩ := may
  all_goals
    have before : hasAdded trace = false := by
      simp only [hasAdded, List.any_cons, Bool.or_eq_false_iff] at unadded
      exact unadded.2
  · by_cases draws : event.1 = .uuid
    · obtain ⟨call, id⟩ := event
      obtain rfl : call = .uuid := draws
      cases drawn : firstDraw trace with
      | none =>
        simp only [firstDraw, drawn, Option.or, Option.some.injEq] at opened
        exact Or.inr (Or.inl (by rw [opened.2]))
      | some first =>
        simp only [firstDraw, drawn, Option.or, Option.some.injEq] at opened
        exact Or.inl ⟨before, Or.inl ⟨opened.1, drawn.trans (by rw [opened.2])⟩⟩
    · rw [firstDraw_cons_other trace draws] at opened
      exact Or.inl ⟨before, Or.inl opened⟩
  · obtain ⟨token, found, earlier, presented, isChain, looks, none, within, decoded⟩ := missed
    rcases List.suffix_cons_iff.mp within with same | older
    · obtain ⟨rfl, rfl⟩ := List.cons.inj same
      exact Or.inr (Or.inr ⟨token, presented, isChain, looks, none⟩)
    · exact Or.inl ⟨before, Or.inr ⟨token, found, earlier, presented, isChain, looks, none, older,
        decoded⟩⟩

end MayAdd

/-! ## Services that add no row -/

abbrev AddsNoRow {α : Type} (service : Service α) : Prop :=
  service.Confined fun call => call.addsSession = false

section AddsNoRow

variable {request : Request} {trace : Trace} {α : Type}

theorem AddsNoRow.meets {post : Except ServiceError α → Trace → Prop} {service : Service α}
    (noRow : AddsNoRow service)
    (returns : ∀ result later, Avoids Call.addsSession trace later → post result later) :
    service.Meets request.additions post trace := by
  refine Confined.meets noRow (fun later _ call plain => ?_) fun result added plain =>
    returns result _ ⟨added, rfl, plain⟩
  rintro userId jti chainId expiresAt rfl
  simp [Call.addsSession] at plain

theorem noRow_execute (call : Call) (result : Reply call → Except ServiceError α)
    (plain : call.addsSession = false) : AddsNoRow (execute call result) :=
  (confined_attempt call result).mpr plain

theorem noRow_tryBump (key : VersionKey) : AddsNoRow (tryBump key) := by
  refine confined_tryCatch _ _ (confined_bind _ _ ?_ fun _ => trivial) fun _ => trivial
  exact confined_bind _ _ (noRow_execute _ _ rfl) fun current => noRow_execute _ _ rfl

theorem addsNoRow : Compositional fun _ service => AddsNoRow service where
  value _ := trivial
  raised _ := trivial
  bind := confined_bind _ _
  caught := confined_tryCatch _ _
  execute call result _ plain := noRow_execute call result plain
  tryBump := noRow_tryBump

theorem noRow_createToken (settings : Settings) (type : TokenType) (lifetime : Nat)
    (email : String) (chainId : Nat) (issuedAt : Option Nat) (versions : Option (Nat × Nat)) :
    AddsNoRow (createToken settings type lifetime email chainId issuedAt versions) := by
  refine confined_createToken _ _ _ _ _ _ _ fun call signs => ?_
  cases call <;> first | rfl | simp [Call.signsToken] at signs

theorem noRow_gatherTokens (settings : Settings) (email : String) (chainId : Nat) :
    AddsNoRow (gatherTokens settings email chainId) := by
  have reads : AddsNoRow (getVersions email chainId) :=
    addsNoRow.orUnavailable (noRow_execute _ _ rfl)
  refine ⟨rfl, fun now => ⟨rfl, fun accessFirst => ?_⟩⟩
  change (getVersions email chainId >>= _).Confined _
  refine confined_bind _ _ reads fun first => confined_bind _ _ reads fun second => ?_
  refine confined_bind _ _ (noRow_createToken _ _ _ _ _ _ _) fun accessToken => ?_
  exact confined_bind _ _ (noRow_createToken _ _ _ _ _ _ _) fun refreshToken => trivial

theorem noRow_purgeUserAccount (user : User) : AddsNoRow (purgeUserAccount user) := by
  have lock : AddsNoRow (lockById user) := by
    refine confined_bind _ _ (noRow_execute _ _ rfl) fun found => ?_
    cases found <;> trivial
  refine confined_bind _ _ lock fun locked => ?_
  cases locked with
  | none => trivial
  | some lockedUser =>
    simp only
    split
    · trivial
    · refine confined_bind _ _ (addsNoRow.revokeAllTokensForUser _) fun count => ?_
      refine confined_bind _ _ addsNoRow.logSecurityEvent fun _ => ?_
      exact confined_bind _ _ (noRow_execute _ _ rfl) fun _ => trivial

theorem noRow_purgeAccounts (users : List User) : AddsNoRow (purgeAccounts users) := by
  induction users with
  | nil => trivial
  | cons user rest ih =>
    refine confined_bind _ _ ?_ fun purged => confined_bind _ _ ih fun _ => trivial
    refine confined_tryCatch _ _ (confined_bind _ _ (noRow_purgeUserAccount user) fun _ => trivial)
      fun failure => ?_
    cases failure <;> trivial

theorem noRow_withSession {body : Service α} (inside : AddsNoRow body) :
    AddsNoRow (withSession body) :=
  confined_bind _ _ (confined_tryCatch _ _ inside fun _ => ⟨rfl, fun _ => trivial⟩)
    fun _ => ⟨rfl, fun _ => trivial⟩

theorem noRow_purgeUser (userEmail : String) : AddsNoRow (purgeUser userEmail) := by
  refine noRow_withSession (confined_bind _ _ (addsNoRow.getOr404 _) fun user => ?_)
  exact confined_tryCatch _ _ (noRow_purgeUserAccount user) fun failure => by
    cases failure <;> trivial

theorem noRow_purgeExpiredSoftDeletedAccounts (settings : Settings) :
    AddsNoRow (purgeExpiredSoftDeletedAccounts settings) := by
  refine noRow_withSession ⟨rfl, fun now => ?_⟩
  change (execute (.selectUsersDeletedBefore _) id >>= _).Confined _
  exact confined_bind _ _ (noRow_execute _ _ rfl) fun users => noRow_purgeAccounts users

end AddsNoRow

/-! ## Services that may add a row -/

section Additions

variable {request : Request} {trace : Trace} {token : Payload} {chainId : Nat}

/-- The service adds a row only where the request may. -/
abbrev Adds (request : Request) (trace : Trace) {α : Type} (service : Service α) : Prop :=
  service.Meets request.additions (fun _ _ => True) trace

theorem AddsNoRow.adds {α : Type} {service : Service α} (noRow : AddsNoRow service) :
    Adds request trace service :=
  noRow.meets fun _ _ _ => trivial

/-- What adds no row leaves to the rest of the service what may be added. -/
theorem adds_after {α β : Type} {service : Service α} {rest : α → Service β}
    (noRow : AddsNoRow service)
    (continued : ∀ value later, Avoids Call.addsSession trace later →
      Adds request later (rest value)) : Adds request trace (service >>= rest) := by
  refine (meets_bind _ _).mpr (noRow.meets fun result later avoids => ?_)
  cases result with
  | ok value => exact continued value later avoids
  | error failure => trivial

theorem adds_then {α β : Type} {service : Service α} {rest : α → Service β}
    (first : Adds request trace service) (noRow : ∀ value, AddsNoRow (rest value)) :
    Adds request trace (service >>= rest) := by
  refine (meets_bind _ _).mpr (first.mono fun result later _ _ => ?_)
  cases result with
  | ok value => exact (noRow value).adds
  | error failure => trivial

theorem adds_tryCatch {α : Type} {body : Service α} {handler : ServiceError → Service α}
    (inside : Adds request trace body) (noRow : ∀ error, AddsNoRow (handler error)) :
    Adds request trace (tryCatch body handler) := by
  refine (meets_tryCatch _ _).mpr (inside.mono fun result later _ _ => ?_)
  cases result with
  | ok value => trivial
  | error failure => exact (noRow failure).adds

theorem adds_decodePayload {β : Type} {rest : Option Payload → Service β}
    (valid : Adds request (⟨.decode token, true⟩ :: trace) (rest (some token)))
    (invalid : Adds request (⟨.decode token, false⟩ :: trace) (rest none)) :
    Adds request trace (decodePayload token >>= rest) := by
  refine (meets_bind _ _).mpr ((meets_bind _ _).mpr ⟨fun _ _ _ _ => nofun, fun reply _ => ?_⟩)
  cases reply with
  | true => exact valid
  | false => exact invalid

theorem adds_insertSession (userId jti expiresAt : Nat) (may : request.MayAdd trace chainId) :
    Adds request trace (execute (.insertSession userId jti chainId expiresAt) id) := by
  refine ⟨fun _ _ _ _ same => ?_, fun _ _ => trivial⟩
  injection same with _ _ isChain
  exact isChain ▸ may

theorem adds_createSession (userId jti expiresAt : Nat) (may : request.MayAdd trace chainId) :
    Adds request trace (createSession userId jti chainId expiresAt) :=
  adds_tryCatch (adds_insertSession _ _ _ may) fun _ => trivial

theorem adds_backfillSession (email : Option String) (jti expiresAt : Nat)
    (may : request.MayAdd trace chainId) :
    Adds request trace (backfillSession email jti chainId expiresAt) := by
  cases email with
  | none => trivial
  | some email =>
    refine adds_after (addsNoRow.getByEmail email) fun found later avoids => ?_
    cases found with
    | none => trivial
    | some user => exact adds_insertSession _ _ _ (may.extend avoids)

/-- The row is added where the look-up has found none, and moved where it has found one. -/
theorem adds_moveOrBackfill (found : Option UserSession) (email : Option String)
    (jti expiresAt : Nat) {moved : Service Unit} (noRow : AddsNoRow moved)
    (may : found = none → request.MayAdd trace chainId) :
    Adds request trace (do
      if ← moveFoundSession found jti expiresAt then moved
      else backfillSession email jti chainId expiresAt : Service Unit) := by
  cases found with
  | none => exact adds_backfillSession email jti expiresAt (may rfl)
  | some session =>
    have move := noRow_execute (.moveSession session.id jti expiresAt) id rfl
    refine (meets_bind _ _).mpr ((meets_bind _ _).mpr (move.meets fun result later _ => ?_))
    cases result with
    | ok _ => exact noRow.adds
    | error failure => trivial

variable (isToken : request.presented = some token) (isChain : token.chain = some chainId)
variable (decoded : ⟨.decode token, true⟩ ∈ trace) (unadded : hasAdded trace = false)

include isToken isChain decoded unadded

theorem mayAdd_of_missed {event : Event} (looks : request.lookUp = some event.1)
    (none : foundNone event = true) (plain : event.1.addsSession = false) :
    request.MayAdd (event :: trace) chainId := by
  refine ⟨?_, Or.inr ⟨token, event, trace, isToken, isChain, looks, none, List.suffix_refl _,
    decoded⟩⟩
  simpa [hasAdded, plain] using unadded

theorem adds_rotateSession (oldJti newJti newExp : Nat) (email : Option String)
    (looks : request.lookUp = some (.selectSessionByJti oldJti)) :
    Adds request trace (rotateSession oldJti newJti chainId newExp email) := by
  refine adds_tryCatch ?_ fun _ => trivial
  refine (meets_bind _ _).mpr ⟨fun _ _ _ _ => nofun, fun reply _ => ?_⟩
  cases reply with
  | error failure => trivial
  | ok found =>
    refine adds_moveOrBackfill found email newJti newExp
      (addsNoRow.bestEffort (noRow_execute _ _ rfl)) fun isNone => ?_
    subst isNone
    exact mayAdd_of_missed isToken isChain decoded unadded looks rfl rfl

theorem adds_rotateSessionByChain (newJti newExp : Nat) (email : Option String)
    (looks : request.lookUp = some (.selectSessionByChain chainId)) :
    Adds request trace (rotateSessionByChain chainId newJti newExp email) := by
  refine adds_tryCatch ?_ fun _ => trivial
  refine (meets_bind _ _).mpr ⟨fun _ _ _ _ => nofun, fun reply _ => ?_⟩
  cases reply with
  | error failure => trivial
  | ok found =>
    refine adds_moveOrBackfill found email newJti newExp trivial fun isNone => ?_
    subst isNone
    exact mayAdd_of_missed isToken isChain decoded unadded looks rfl rfl

end Additions

/-! ## Requests that may add a row -/

section Requests

variable (settings : Settings) {trace : Trace}

theorem adds_login (email password : String) :
    Adds (.login email password) [] (login settings email password) := by
  refine adds_tryCatch ?_ fun error => by cases error <;> trivial
  change Meets _ (if _ then _ else _) _ _
  split
  · trivial
  · refine (meets_bind _ _).mpr ⟨fun _ _ _ _ => nofun, fun reply _ => ?_⟩
    cases reply with
    | error failure => trivial
    | ok found =>
      cases found with
      | none => trivial
      | some user =>
        change Meets _ (if _ then _ else if _ then _ else if _ then _ else _) _ _
        split
        · trivial
        split
        · trivial
        split
        · trivial
        refine (meets_bind _ _).mpr ⟨fun _ _ _ _ => nofun, fun written _ => ?_⟩
        cases written with
        | error failure => trivial
        | ok _ =>
          refine (meets_bind _ _).mpr ⟨fun _ _ _ _ => nofun, fun chainId _ => ?_⟩
          have may : (Request.login email password).MayAdd [⟨.uuid, chainId⟩,
              ⟨.setLastLogin user.id, .ok ()⟩, ⟨.selectUserByEmail email, .ok (some user)⟩]
                chainId := ⟨rfl, Or.inl ⟨rfl, rfl⟩⟩
          refine adds_after (noRow_gatherTokens _ _ _) fun tokens first avoids => ?_
          refine adds_after (addsNoRow.decodePayload _) fun decoded second avoids' => ?_
          cases decoded with
          | none => trivial
          | some payload =>
            simp only
            split
            · exact adds_then (adds_createSession _ _ _ (may.extend (avoids.trans avoids')))
                fun _ => trivial
            · trivial

theorem adds_mintDescendants (parent : Payload) (clientIp : Option String) (email : String)
    (chainId jti : Nat) (claim : RefreshRotationClaim) (isChain : parent.chain = some chainId)
    (isJti : parent.jti = some jti) (decoded : ⟨.decode parent, true⟩ ∈ trace)
    (unadded : hasAdded trace = false) :
    Adds (.refresh parent clientIp) trace (mintDescendants settings email chainId jti claim) := by
  refine adds_after (noRow_createToken _ _ _ _ _ _ _) fun accessToken first avoids => ?_
  refine adds_after (noRow_createToken _ _ _ _ _ _ _) fun refreshToken second avoids' => ?_
  refine adds_after (addsNoRow.decodePayload refreshToken) fun payload third side => ?_
  have before := (avoids.trans avoids').trans side
  cases payload with
  | none => trivial
  | some newPayload =>
    simp only
    split
    · split
      · split
        · trivial
        split
        · trivial
        refine adds_after (addsNoRow.isCurrentVersion newPayload) fun current last side' => ?_
        have all := before.trans side'
        split
        · trivial
        · have presents : (Request.refresh parent clientIp).presented = some parent := rfl
          refine adds_then (adds_rotateSession presents isChain (all.mem decoded)
            (all.any.trans unadded) jti _ _ _ ?_) fun _ => trivial
          simp [Request.lookUp, isJti]
      · trivial
    · trivial

theorem adds_refreshTokens (parent : Payload) (clientIp : Option String) :
    Adds (.refresh parent clientIp) [] (refreshTokens settings parent clientIp) := by
  refine adds_tryCatch ?_ fun error => by cases error <;> trivial
  refine adds_decodePayload ?_ trivial
  change Meets _ (if _ then _ else _) _ _
  split
  · trivial
  · cases isJti : parent.jti with
    | none => trivial
    | some jti =>
      simp only
      split
      · trivial
      refine adds_after (addsNoRow.isCurrentVersion parent) fun current first avoids => ?_
      split
      · trivial
      split
      · rename_i email chainId accountVer chainVer isEmail isChain isAccount isChainVer
        have claims : AddsNoRow
            (claimJtiForRotation jti parent.exp clientIp accountVer chainVer) := by
          refine confined_claimJtiForRotation _ _ _ _ _ fun call claims => ?_
          cases call <;> first | rfl | simp [Call.claimsToken] at claims
        refine adds_after claims fun claim second avoids' => ?_
        split
        · have replayed : AddsNoRow (isBenignDuplicateRotation settings jti clientIp) :=
            confined_isBenignDuplicateRotation settings jti clientIp rfl rfl rfl
          refine adds_after replayed fun benign third _ => ?_
          split
          · exact adds_then (addsNoRow.handleReuseDetected parent).adds fun _ => trivial
          · trivial
        · have both := avoids.trans avoids'
          exact adds_mintDescendants settings parent clientIp email chainId jti claim isChain isJti
            (both.mem (by simp)) (both.any.trans rfl)
      · trivial

/-- The tokens are continued in the chain that the access token is decoded to once more. -/
theorem adds_updateMyProfile (accessToken : Payload) (currentPassword : Option String)
    (password : String) :
    Adds (.updateMyProfile accessToken currentPassword password) []
      (updateMyProfile settings accessToken currentPassword password) := by
  refine adds_after (addsNoRow.getCurrentUser _ _) fun currentUser first avoids => ?_
  refine adds_after (addsNoRow.getOr404 _) fun user second avoids' => ?_
  refine adds_after (addsNoRow.assertCurrentPassword _ _) fun _ third side => ?_
  refine adds_after (addsNoRow.assertPasswordDiffers _ _) fun _ fourth side' => ?_
  refine adds_after (noRow_execute _ _ rfl) fun _ fifth side'' => ?_
  have unadded : hasAdded fifth = false :=
    ((((avoids.trans avoids').trans side).trans side').trans side'').any
  have revoked : AddsNoRow (do
      let sessionsRevoked ← confirmed (revokeAllTokensForUser currentUser.email)
      return (sessionsRevoked, none) : Service (Bool × Option (Payload × Payload))) :=
    confined_bind _ _ (addsNoRow.confirmed (addsNoRow.revokeAllTokensForUser _)) fun _ => trivial
  refine adds_decodePayload ?_ revoked.adds
  cases isChain : accessToken.chain with
  | none =>
    simp only [Option.bind_some, isChain]
    exact revoked.adds
  | some chainId =>
    simp only [Option.bind_some, isChain]
    refine adds_after (addsNoRow.confirmed (addsNoRow.revokeAllTokensForUserExceptChain _ _))
      fun sessionsRevoked sixth last => ?_
    refine adds_after (noRow_createToken _ _ _ _ _ _ _) fun newAccessToken seventh last' => ?_
    refine adds_after (noRow_createToken _ _ _ _ _ _ _) fun newRefreshToken eighth last'' => ?_
    refine adds_after (addsNoRow.decodePayload newRefreshToken) fun payload ninth end' => ?_
    have all := ((last.trans last').trans last'').trans end'
    cases payload with
    | none => trivial
    | some payload =>
      simp only
      split
      · have presents : (Request.updateMyProfile accessToken currentPassword password).presented =
            some accessToken := rfl
        refine adds_then (adds_rotateSessionByChain presents isChain
          (all.mem List.mem_cons_self) (all.any.trans unadded) _ _ _ ?_) fun _ => trivial
        simp [Request.lookUp, isChain]
      · trivial

theorem adds_respond {request : Request} {α : Type} (response : α → Response)
    {service : Service α} (adds : Adds request trace service) :
    Adds request trace (respond response service) :=
  adds_then adds fun _ => trivial

theorem server_adds : (server settings).Obeys Request.additions fun _ _ _ => True where
  programs request := by
    have sparing {α : Type} (response : α → Response) {service : Service α}
        (noRow : AddsNoRow service) : Adds request [] (respond response service) :=
      adds_respond response noRow.adds
    cases request with
    | login email password => exact adds_respond _ (adds_login settings email password)
    | refresh refreshToken clientIp =>
      exact adds_respond _ (adds_refreshTokens settings refreshToken clientIp)
    | updateMyProfile accessToken currentPassword password =>
      exact adds_respond _ (adds_updateMyProfile settings accessToken currentPassword password)
    | verify token expectedType => exact sparing _ (addsNoRow.verifyToken _ _ _)
    | resetPassword email newPassword => exact sparing _ (addsNoRow.resetPassword _ _)
    | updateAnyUser userEmail password => exact sparing _ (addsNoRow.updateAnyUser _ _)
    | logout refreshToken => exact sparing _ (addsNoRow.handleLogout _)
    | logoutAll refreshToken => exact sparing _ (addsNoRow.handleLogoutAll _)
    | revokeSession accessToken refreshToken sessionId =>
      exact sparing _ (addsNoRow.handleRevokeSession _ _ _ _)
    | deleteMyAccount accessToken currentPassword =>
      exact sparing _ (addsNoRow.deleteMyAccount _ _ _)
    | confirmDeletion email accountVer => exact sparing _ (addsNoRow.confirmDeletion _ _)
    | deleteAnyUser userEmail => exact sparing _ (addsNoRow.deleteAnyUser _)
    | reactivateUser userEmail => exact sparing _ (addsNoRow.reactivateUser _)
    | purgeUser userEmail => exact sparing _ (noRow_purgeUser _)
    | purgeExpiredSoftDeletedAccounts =>
      exact sparing _ (noRow_purgeExpiredSoftDeletedAccounts settings)
    | purgeConsumedRefreshTokens batches =>
      exact sparing _ (addsNoRow.purgeConsumedRefreshTokens _)
    | purgeExpiredSessions => exact sparing _ (addsNoRow.purgeExpiredSessions _)
  answers _ _ _ _ _ _ := trivial

end Requests

end MysticAuth.Tokens
