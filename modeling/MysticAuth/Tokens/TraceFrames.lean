import MysticAuth.Tokens.Discipline

/-!
# Traces that grow

What more calls leave unchanged, and the functions that make no call a rule is
about.
-/

set_option autoImplicit false

namespace MysticAuth.Tokens

open Interleaving Program

/-! ## Extended traces -/

/-- Only calls outside the kind were added. -/
def Avoids (kind : Call → Bool) (trace later : Trace) : Prop :=
  ∃ added, later = added ++ trace ∧ ∀ event ∈ added, kind event.1 = false

abbrev Side : Trace → Trace → Prop :=
  Avoids Call.isMinting

section Avoids

variable {kind kind' : Call → Bool} {trace later last : Trace}

theorem Avoids.refl (trace : Trace) : Avoids kind trace trace :=
  ⟨[], rfl, by simp⟩

theorem Avoids.trans (first : Avoids kind trace later) (second : Avoids kind later last) :
    Avoids kind trace last := by
  obtain ⟨added, rfl, outside⟩ := first
  obtain ⟨added', rfl, outside'⟩ := second
  refine ⟨added' ++ added, by simp, fun event member => ?_⟩
  rcases List.mem_append.mp member with inSecond | inFirst
  · exact outside' event inSecond
  · exact outside event inFirst

theorem Avoids.cons (avoids : Avoids kind trace later) (event : Event)
    (outside : kind event.1 = false) : Avoids kind trace (event :: later) := by
  obtain ⟨added, rfl, isOutside⟩ := avoids
  refine ⟨event :: added, rfl, fun other member => ?_⟩
  rcases List.mem_cons.mp member with rfl | inAdded
  · exact outside
  · exact isOutside other inAdded

theorem Avoids.one (event : Event) (outside : kind event.1 = false) :
    Avoids kind trace (event :: trace) :=
  (Avoids.refl trace).cons event outside

theorem Avoids.weaken (avoids : Avoids kind trace later)
    (weaker : ∀ call, kind call = false → kind' call = false) : Avoids kind' trace later := by
  obtain ⟨added, same, outside⟩ := avoids
  exact ⟨added, same, fun event member => weaker _ (outside event member)⟩

theorem Avoids.suffix (avoids : Avoids kind trace later) : trace <:+ later := by
  obtain ⟨added, rfl, -⟩ := avoids
  exact List.suffix_append added trace

theorem Avoids.mem (avoids : Avoids kind trace later) {event : Event}
    (member : event ∈ trace) : event ∈ later :=
  avoids.suffix.subset member

/-- A count of calls of a kind is unchanged by calls outside it. -/
theorem Avoids.countP (avoids : Avoids kind trace later) :
    later.countP (fun event => kind event.1) = trace.countP fun event => kind event.1 := by
  obtain ⟨added, rfl, outside⟩ := avoids
  have none : added.countP (fun event => kind event.1) = 0 := by
    rw [List.countP_eq_zero]
    intro event member
    simp [outside event member]
  rw [List.countP_append, none, Nat.zero_add]

theorem Avoids.any (avoids : Avoids kind trace later) :
    later.any (fun event => kind event.1) = trace.any fun event => kind event.1 := by
  obtain ⟨added, rfl, outside⟩ := avoids
  have none : added.any (fun event => kind event.1) = false := by
    rw [List.any_eq_false]
    intro event member
    simp [outside event member]
  rw [List.any_append, none, Bool.false_or]

theorem versionsRead_of_minting (call : Call) (plain : call.isMinting = false) :
    call.isVersionsRead = false := by
  cases call <;> first | rfl | simp [Call.isMinting, Call.isRuled] at plain

theorem encode_of_minting (call : Call) (plain : call.isMinting = false) :
    call.isEncode = false := by
  cases call <;> first | rfl | simp [Call.isMinting, Call.isRuled] at plain

theorem claim_of_minting (call : Call) (plain : call.isMinting = false) :
    call.isClaim = false := by
  cases call <;> first | rfl | simp [Call.isMinting, Call.isRuled] at plain

theorem Avoids.versionsReads (side : Side trace later) :
    versionsReads later = versionsReads trace :=
  (side.weaken versionsRead_of_minting).countP

theorem Avoids.hasEncoded (side : Side trace later) : hasEncoded later = hasEncoded trace :=
  (side.weaken encode_of_minting).any

theorem firstDraw_cons (event : Event) (plain : event.1.isMinting = false) :
    firstDraw (event :: trace) = firstDraw trace := by
  obtain ⟨call, reply⟩ := event
  cases call <;> first | rfl | simp [Call.isMinting, Call.isRuled] at plain

theorem Avoids.firstDraw (side : Side trace later) : firstDraw later = firstDraw trace := by
  obtain ⟨added, rfl, outside⟩ := side
  induction added with
  | nil => rfl
  | cons event rest ih =>
    rw [List.cons_append, firstDraw_cons event (outside event List.mem_cons_self)]
    exact ih fun other member => outside other (List.mem_cons_of_mem event member)

theorem Avoids.hasClaimed (avoids : Avoids Call.isClaim trace later) :
    hasClaimed later = hasClaimed trace :=
  avoids.any

end Avoids

/-! Facts that more calls do not undo. -/

section Suffix

variable {trace later : Trace} (longer : trace <:+ later)

include longer

theorem Failed.extend (isFailed : Failed trace) : Failed later := by
  obtain ⟨event, member, fails⟩ := isFailed
  exact ⟨event, longer.subset member, fails⟩

theorem Bumped.extend {key : VersionKey} (bumped : Bumped trace key) : Bumped later key := by
  obtain ⟨version, stored, member⟩ := bumped
  exact ⟨version, stored, longer.subset member⟩

theorem BumpedAfter.extend {earlier : Trace} {key : VersionKey}
    (bumped : BumpedAfter earlier trace key) : BumpedAfter earlier later key := by
  obtain ⟨version, stored, middle, within, after⟩ := bumped
  exact ⟨version, stored, middle, within.trans longer, after⟩

theorem BumpedAfter.weaken {last : Trace} {key : VersionKey}
    (bumped : BumpedAfter later last key) : BumpedAfter trace last key := by
  obtain ⟨version, stored, middle, within, after⟩ := bumped
  exact ⟨version, stored, middle, within, longer.trans after⟩

theorem Vanished.extend {row : ClaimRow} (vanished : Vanished trace row) :
    Vanished later row := by
  obtain ⟨earlier, within, lost⟩ := vanished
  exact ⟨earlier, within.trans longer, lost⟩

theorem Loaded.extend {user : User} (loaded : Loaded trace user) : Loaded later user := by
  rcases loaded with ⟨email, member⟩ | ⟨cutoff, users, member, among⟩
  · exact Or.inl ⟨email, longer.subset member⟩
  · exact Or.inr ⟨cutoff, users, longer.subset member, among⟩

theorem VersionsMatched.extend {token : Payload} (matched : VersionsMatched trace token) :
    VersionsMatched later token := by
  obtain ⟨email, chainId, accountVer, chainVer, isEmail, isChain, isAccount, isChainVer, account,
    chain⟩ := matched
  exact ⟨email, chainId, accountVer, chainVer, isEmail, isChain, isAccount, isChainVer,
    longer.subset account, longer.subset chain⟩

theorem versionsReads_le : versionsReads trace ≤ versionsReads later :=
  longer.sublist.countP_le

theorem firstDraw_extend {id : Nat} (drawn : firstDraw trace = some id) :
    firstDraw later = some id := by
  obtain ⟨added, rfl⟩ := longer
  induction added with
  | nil => exact drawn
  | cons event rest ih =>
    obtain ⟨call, reply⟩ := event
    cases call with
    | uuid => simp only [List.cons_append, firstDraw, ih, Option.or]
    | _ => exact ih

theorem Request.CredentialsChecked.extend {request : Request}
    (checked : request.CredentialsChecked trace) : request.CredentialsChecked later := by
  cases request with
  | login email password =>
    obtain ⟨user, member, rest⟩ := checked
    exact ⟨user, longer.subset member, rest⟩
  | updateMyProfile accessToken currentPassword password =>
    obtain ⟨matched, ⟨email, user, member, active⟩, email', user', member', passed⟩ := checked
    exact ⟨matched.extend longer, ⟨email, user, longer.subset member, active⟩, email', user',
      longer.subset member', passed⟩
  | _ => exact checked

theorem Request.Opens.extend {request : Request} {email : String} {chainId : Nat}
    (opens : request.Opens trace email chainId) : request.Opens later email chainId := by
  cases request with
  | login address password => exact ⟨opens.1, firstDraw_extend longer opens.2⟩
  | updateMyProfile accessToken currentPassword password =>
    exact ⟨opens.1, opens.2.1, longer.subset opens.2.2⟩
  | _ => exact opens

theorem Request.HasGrounds.extend {request : Request} {email : String}
    {chainId accountVer chainVer : Nat}
    (grounds : request.HasGrounds trace email chainId accountVer chainVer) :
    request.HasGrounds later email chainId accountVer chainVer := by
  rcases grounds with ⟨opens, checked, read⟩ | continues
  · exact Or.inl ⟨opens.extend longer, checked.extend longer, longer.subset read⟩
  · cases request with
    | refresh parent clientIp =>
      obtain ⟨isEmail, isChain, isAccount, isChainVer, decoded⟩ := continues
      exact Or.inr ⟨isEmail, isChain, isAccount, isChainVer, longer.subset decoded⟩
    | _ => exact False.elim continues

end Suffix

theorem BumpedAfter.bumped {earlier trace : Trace} {key : VersionKey}
    (bumped : BumpedAfter earlier trace key) : Bumped trace key := by
  obtain ⟨version, stored, middle, within, -⟩ := bumped
  exact ⟨version, stored, within.subset List.mem_cons_self⟩

/-! ## Functions that make few kinds of calls -/

/-- The calls that move a session's row to a new token, or add the row. -/
def Call.rotatesSession : Call → Bool
  | selectSessionByJti _ => true
  | moveSession _ _ _ => true
  | selectUserByEmail _ => true
  | insertSession _ _ _ _ => true
  | insertAuditEntry => true
  | _ => false

def Call.signsToken : Call → Bool
  | clock => true
  | uuid => true
  | selectVersions _ _ => true
  | encode _ => true
  | _ => false

def Call.claimsToken : Call → Bool
  | markerExists _ => true
  | insertClaim _ => true
  | selectClaim _ => true
  | _ => false

theorem ruled_of_rotatesSession {call : Call} (rotates : call.rotatesSession = true) :
    call.isRuled = false := by
  cases call <;> first | rfl | simp [Call.rotatesSession] at rotates

section Confined

variable {kind : Call → Prop}

theorem confined_orUnavailable {α : Type} (body : Service α) (inside : body.Confined kind) :
    (orUnavailable body).Confined kind :=
  confined_tryCatch _ _ inside fun _ => trivial

theorem confined_bestEffort (body : Service Unit) (inside : body.Confined kind) :
    (bestEffort body).Confined kind :=
  confined_tryCatch _ _ inside fun _ => trivial

theorem confined_decodePayload (token : Payload) (decodes : kind (.decode token)) :
    (decodePayload token).Confined kind := by
  refine confined_bind _ _ ((confined_perform _).mpr decodes) fun valid => ?_
  cases valid <;> trivial

theorem confined_isCurrentVersion (payload : Payload) (reads : ∀ key, kind (.selectVersion key)) :
    (isCurrentVersion payload).Confined kind := by
  have readVersion : ∀ key, Program.Confined kind
      (orUnavailable (execute (.selectVersion key) id : Service Nat)) := fun key =>
    confined_orUnavailable _ ((confined_attempt _ _).mpr (reads key))
  unfold isCurrentVersion
  split
  · trivial
  · split
    · refine confined_bind _ _ ?_ fun accountCurrent => ?_
      · unfold isCurrentAccountVersion
        split
        · exact confined_bind _ _ (readVersion _) fun _ => trivial
        · trivial
      · split
        · trivial
        · unfold isCurrentChainVersion
          split
          · split
            · exact confined_bind _ _ (readVersion _) fun _ => trivial
            · trivial
          · trivial
    · trivial

theorem confined_isBenignDuplicateRotation (settings : Settings) (jti : Nat)
    (clientIp : Option String) (claim : kind (.selectClaim jti)) (marker : kind (.getMarker jti))
    (clock : kind .clock) : (isBenignDuplicateRotation settings jti clientIp).Confined kind := by
  unfold isBenignDuplicateRotation
  split
  · trivial
  · refine confined_orUnavailable _ (confined_bind _ _ ((confined_attempt _ _).mpr claim)
      fun found => ?_)
    cases found with
    | none =>
      refine confined_bind _ _ ((confined_attempt _ _).mpr marker) fun stored => ?_
      split
      · exact confined_bind _ _ ((confined_perform _).mpr clock) fun _ => trivial
      · trivial
    | some row => exact confined_bind _ _ ((confined_perform _).mpr clock) fun _ => trivial

theorem confined_createToken (settings : Settings) (type : TokenType) (lifetime : Nat)
    (email : String) (chainId : Nat) (issuedAt : Option Nat) (versions : Option (Nat × Nat))
    (signs : ∀ call, Call.signsToken call = true → kind call) :
    (createToken settings type lifetime email chainId issuedAt versions).Confined kind := by
  cases versions with
  | some given =>
    cases issuedAt with
    | some time => exact ⟨signs _ rfl, fun _ => ⟨signs _ rfl, fun _ => trivial⟩⟩
    | none =>
      exact ⟨signs _ rfl, fun _ => ⟨signs _ rfl, fun _ => ⟨signs _ rfl, fun _ => trivial⟩⟩⟩
  | none =>
    have reads : (getVersions email chainId).Confined kind :=
      confined_orUnavailable _ ((confined_attempt _ _).mpr (signs _ rfl))
    cases issuedAt with
    | some time =>
      refine ⟨signs _ rfl, fun _ => ?_⟩
      change (getVersions email chainId >>= _).Confined _
      exact confined_bind _ _ reads fun _ => ⟨signs _ rfl, fun _ => trivial⟩
    | none =>
      refine ⟨signs _ rfl, fun _ => ⟨signs _ rfl, fun _ => ?_⟩⟩
      change (getVersions email chainId >>= _).Confined _
      exact confined_bind _ _ reads fun _ => ⟨signs _ rfl, fun _ => trivial⟩

theorem confined_claimJtiForRotation (jti : Nat) (exp : Option Nat) (clientIp : Option String)
    (accountVer chainVer : Nat) (claims : ∀ call, Call.claimsToken call = true → kind call) :
    (claimJtiForRotation jti exp clientIp accountVer chainVer).Confined kind := by
  refine confined_orUnavailable _ ?_
  cases exp with
  | none => trivial
  | some expiry =>
    refine confined_bind _ _ (confined_tryCatch _ _
      ((confined_attempt _ _).mpr (claims (.markerExists jti) rfl)) fun _ => trivial)
      fun legacy => ?_
    split
    · trivial
    · refine confined_bind _ _ ((confined_attempt _ _).mpr (claims _ rfl)) fun inserted => ?_
      cases inserted with
      | some consumed => trivial
      | none =>
        refine confined_bind _ _ ((confined_attempt _ _).mpr (claims _ rfl)) fun found => ?_
        cases found <;> trivial

theorem confined_moveFoundSession (found : Option UserSession) (newJti newExp : Nat)
    (rotates : ∀ call, Call.rotatesSession call = true → kind call) :
    (moveFoundSession found newJti newExp).Confined kind := by
  cases found with
  | none => trivial
  | some session =>
    exact confined_bind _ _ ((confined_attempt _ _).mpr (rotates _ rfl)) fun _ => trivial

theorem confined_backfillSession (email : Option String) (jti chainId exp : Nat)
    (rotates : ∀ call, Call.rotatesSession call = true → kind call) :
    (backfillSession email jti chainId exp).Confined kind := by
  cases email with
  | none => trivial
  | some email =>
    refine confined_bind _ _ ((confined_attempt _ _).mpr (rotates _ rfl)) fun found => ?_
    cases found with
    | none => trivial
    | some user => exact (confined_attempt _ _).mpr (rotates _ rfl)

theorem confined_rotateSession (oldJti newJti chainId newExp : Nat) (email : Option String)
    (rotates : ∀ call, Call.rotatesSession call = true → kind call) :
    (rotateSession oldJti newJti chainId newExp email).Confined kind := by
  refine confined_bestEffort _ (confined_bind _ _ ((confined_attempt _ _).mpr (rotates _ rfl))
    fun found => ?_)
  refine confined_bind _ _ (confined_moveFoundSession found newJti newExp rotates) fun moved => ?_
  split
  · exact confined_bestEffort _ ((confined_attempt _ _).mpr (rotates _ rfl))
  · exact confined_backfillSession email newJti chainId newExp rotates

end Confined

/-! ## Functions that make no ruled call -/

/-- A function confined to calls that no rule is about. -/
abbrev Free {α : Type} (service : Service α) : Prop :=
  service.Confined fun call => call.isRuled = false

section Free

variable {α β : Type}

theorem free_execute (call : Call) (result : Reply call → Except ServiceError α)
    (plain : call.isRuled = false) : Free (execute call result) :=
  (confined_attempt call result).mpr plain

theorem free_bestEffort (body : Service Unit) (free : Free body) : Free (bestEffort body) :=
  confined_bestEffort body free

theorem free_getByEmail (email : String) : Free (getByEmail email) :=
  free_execute _ _ rfl

theorem free_decodePayload (token : Payload) : Free (decodePayload token) :=
  confined_decodePayload token rfl

theorem free_isTokenRevokedByJti (jti : Option Nat) : Free (isTokenRevokedByJti jti) := by
  cases jti with
  | none => trivial
  | some jti => exact free_execute _ _ rfl

theorem free_createSession (userId jti chainId exp : Nat) :
    Free (createSession userId jti chainId exp) :=
  free_bestEffort _ (free_execute _ _ rfl)

theorem free_logSecurityEvent : Free logSecurityEvent :=
  free_bestEffort _ (free_execute _ _ rfl)

theorem free_rotateSession (oldJti newJti chainId newExp : Nat) (email : Option String) :
    Free (rotateSession oldJti newJti chainId newExp email) :=
  confined_rotateSession oldJti newJti chainId newExp email fun _ rotates =>
    ruled_of_rotatesSession rotates

theorem free_rotateSessionByChain (chainId newJti newExp : Nat) (email : Option String) :
    Free (rotateSessionByChain chainId newJti newExp email) := by
  have rotates : ∀ call, Call.rotatesSession call = true → call.isRuled = false :=
    fun _ => ruled_of_rotatesSession
  refine free_bestEffort _ (confined_bind _ _ (free_execute _ _ rfl) fun found => ?_)
  refine confined_bind _ _ (confined_moveFoundSession found newJti newExp rotates) fun moved => ?_
  split
  · trivial
  · exact confined_backfillSession email newJti chainId newExp rotates

theorem free_revokeAllSessions (email : String) (exemptChainId : Option Nat) :
    Free (revokeAllSessions email exemptChainId) := by
  refine free_bestEffort _ (confined_bind _ _ (free_getByEmail email) fun found => ?_)
  cases found with
  | none => trivial
  | some user => exact confined_bind _ _ (free_execute _ _ rfl) fun _ => trivial

theorem free_revokeChain (chainId : Nat) : Free (revokeChain chainId) := by
  refine free_bestEffort _ (confined_bind _ _ (free_execute _ _ rfl) fun found => ?_)
  cases found with
  | none => trivial
  | some session => exact free_execute _ _ rfl

theorem free_countActiveSessions (email : String) : Free (countActiveSessions email) := by
  refine confined_bind _ _ (free_getByEmail email) fun found => ?_
  cases found with
  | none => trivial
  | some user => exact free_execute _ _ rfl

end Free

end MysticAuth.Tokens
