import MysticAuth.Tokens.Requests

/-!
# What a call can do to the stores

Five calls touch what tokens are judged by; every other call leaves it alone.
Versions, time and the set of signed tokens only grow.
-/

set_option autoImplicit false

namespace MysticAuth.Tokens

open Interleaving

/-- Every outcome leads to a world with the property. -/
def Leads {α : Type} (possible : List (α × World)) (property : World → Prop) : Prop :=
  ∀ outcome ∈ possible, property outcome.2

section Leads

variable {α : Type} (world after : World) (value : α) (property : World → Prop)

@[simp] theorem leads_nil : Leads ([] : List (α × World)) property := by
  simp [Leads]

@[simp] theorem leads_cons (rest : List (α × World)) :
    Leads ((value, after) :: rest) property ↔ property after ∧ Leads rest property := by
  simp [Leads]

@[simp] theorem leads_selected :
    Leads (selected world value) property ↔ property world := by
  simp [selected]

@[simp] theorem leads_fetched :
    Leads (fetched world value) property ↔ property world := by
  simp [fetched]

@[simp] theorem leads_committed :
    Leads (committed world after value) property ↔ property after ∧ property world := by
  simp only [committed, leads_cons, leads_nil]
  tauto

@[simp] theorem leads_refused :
    Leads (refused world : List (Except ServiceError α × World)) property ↔ property world := by
  simp [refused]

end Leads

/-- The two worlds judge every token alike. -/
structure SameTokens (before after : World) : Prop where
  now : after.now = before.now
  nextId : after.nextId = before.nextId
  versions : after.versions = before.versions
  legacyVersions : after.legacyVersions = before.legacyVersions
  consumed : after.consumed = before.consumed
  issued : after.issued = before.issued

theorem SameTokens.refl (world : World) : SameTokens world world :=
  ⟨rfl, rfl, rfl, rfl, rfl, rfl⟩

def Call.touchesTokens : Call → Bool
  | uuid => true
  | encode _ => true
  | upsertVersion _ _ => true
  | insertClaim _ => true
  | deleteExpiredClaims => true
  | _ => false

theorem updatedUser_sameTokens (world : World) (thread userId : Nat) (update : User → User) :
    Leads (updatedUser world thread userId update) (SameTokens world) := by
  have updated :
      SameTokens world ((world.updateUser userId update).releaseLocks thread) :=
    ⟨rfl, rfl, rfl, rfl, rfl, rfl⟩
  unfold updatedUser
  split
  · simp
  · split
    · simpa using SameTokens.refl world
    · simpa using ⟨updated, SameTokens.refl world⟩

theorem outcomes_sameTokens (thread : Nat) (call : Call) (world : World)
    (untouched : call.touchesTokens = false) :
    Leads (outcomes thread call world) (SameTokens world) := by
  have same := SameTokens.refl world
  cases call with
  | uuid => simp [Call.touchesTokens] at untouched
  | encode token => simp [Call.touchesTokens] at untouched
  | upsertVersion key version => simp [Call.touchesTokens] at untouched
  | insertClaim row => simp [Call.touchesTokens] at untouched
  | deleteExpiredClaims => simp [Call.touchesTokens] at untouched
  | setLastLogin userId => exact updatedUser_sameTokens world thread userId _
  | setPassword userId hashedPassword => exact updatedUser_sameTokens world thread userId _
  | softDelete userId deletedAt => exact updatedUser_sameTokens world thread userId _
  | reactivate userId => exact updatedUser_sameTokens world thread userId _
  | selectSessionByChain chainId =>
    simp only [outcomes]
    split <;> simpa using same
  | insertSession userId jti chainId expiresAt =>
    simp only [outcomes]
    split
    · simpa using same
    · exact (leads_committed ..).mpr ⟨⟨rfl, rfl, rfl, rfl, rfl, rfl⟩, same⟩
  | moveSession sessionId newJti newExpiresAt =>
    simp only [outcomes]
    split
    · simpa using same
    · exact (leads_committed ..).mpr ⟨⟨rfl, rfl, rfl, rfl, rfl, rfl⟩, same⟩
  | lockUser userId =>
    simp only [outcomes]
    split
    · simp
    · split
      · simpa using ⟨⟨rfl, rfl, rfl, rfl, rfl, rfl⟩, same⟩
      · simpa using same
  | deleteUser userId =>
    simp only [outcomes]
    split
    · simp
    · exact (leads_committed ..).mpr ⟨⟨rfl, rfl, rfl, rfl, rfl, rfl⟩, same⟩
  | deleteSession sessionId =>
    exact (leads_committed ..).mpr ⟨⟨rfl, rfl, rfl, rfl, rfl, rfl⟩, same⟩
  | deleteSessionsOf userId exemptChainId =>
    exact (leads_committed ..).mpr ⟨⟨rfl, rfl, rfl, rfl, rfl, rfl⟩, same⟩
  | deleteSessionsExpiredBefore before =>
    exact (leads_committed ..).mpr ⟨⟨rfl, rfl, rfl, rfl, rfl, rfl⟩, same⟩
  | insertAuditEntry =>
    exact (leads_committed ..).mpr ⟨⟨rfl, rfl, rfl, rfl, rfl, rfl⟩, same⟩
  | closeSession => simpa [outcomes] using ⟨rfl, rfl, rfl, rfl, rfl, rfl⟩
  | _ => simpa [outcomes] using same

/-! ## Growth -/

/-- What is never taken back. -/
structure Advance (before after : World) : Prop where
  now : before.now ≤ after.now
  nextId : before.nextId ≤ after.nextId
  version : ∀ key, before.version key ≤ after.version key
  legacyVersions : after.legacyVersions = before.legacyVersions
  issued : ∀ token ∈ before.issued, token ∈ after.issued

theorem Advance.refl (world : World) : Advance world world :=
  ⟨Nat.le_refl _, Nat.le_refl _, fun _ => Nat.le_refl _, rfl, fun _ member => member⟩

theorem Advance.trans {first second third : World} (earlier : Advance first second)
    (later : Advance second third) : Advance first third where
  now := earlier.now.trans later.now
  nextId := earlier.nextId.trans later.nextId
  version key := (earlier.version key).trans (later.version key)
  legacyVersions := later.legacyVersions.trans earlier.legacyVersions
  issued token member := later.issued token (earlier.issued token member)

theorem SameTokens.version {before after : World} (same : SameTokens before after)
    (key : VersionKey) : after.version key = before.version key := by
  simp only [World.version, same.versions, same.legacyVersions]

theorem SameTokens.advance {before after : World} (same : SameTokens before after) :
    Advance before after where
  now := by rw [same.now]
  nextId := by rw [same.nextId]
  version key := by rw [same.version]
  legacyVersions := same.legacyVersions
  issued token member := by rwa [same.issued]

/-- The version an upsert stores. -/
def World.upserted (world : World) (key : VersionKey) (version : Nat) : Nat :=
  match world.versions key with
  | some row => max (row + 1) version
  | none => version

def World.withVersion (world : World) (key : VersionKey) (version : Nat) : World :=
  { world with
    versions := Function.update world.versions key (some (world.upserted key version)) }

theorem outcomes_upsertVersion (thread : Nat) (key : VersionKey) (version : Nat) (world : World) :
    outcomes thread (.upsertVersion key version) world =
      committed world (world.withVersion key version) (world.upserted key version) :=
  rfl

theorem withVersion_version (world : World) (key other : VersionKey) (version : Nat) :
    (world.withVersion key version).version other =
      if other = key then max (world.upserted key version) ((world.legacyVersions key).getD 0)
      else world.version other := by
  unfold World.version World.withVersion
  by_cases same : other = key
  · subst same
    simp
  · simp [same]

theorem upserted_ge (world : World) (key : VersionKey) (version : Nat) :
    (world.versions key).getD 0 ≤ world.upserted key version := by
  unfold World.upserted
  split
  · rename_i row stored
    simp only [stored, Option.getD_some]
    omega
  · rename_i absent
    simp [absent]

theorem withVersion_advance (world : World) (key : VersionKey) (version : Nat) :
    Advance world (world.withVersion key version) where
  now := Nat.le_refl _
  nextId := Nat.le_refl _
  version other := by
    rw [withVersion_version]
    have stored := upserted_ge world key version
    split
    · rename_i same
      subst same
      unfold World.version
      omega
    · exact Nat.le_refl _
  legacyVersions := rfl
  issued _ member := member

/-- Above a value that was current when it was read and at least the legacy row, the new version
is greater than the current one, however old the read is. -/
theorem withVersion_gt (world : World) (key : VersionKey) (read : Nat)
    (legacy : (world.legacyVersions key).getD 0 ≤ read) :
    world.version key < (world.withVersion key (read + 1)).version key := by
  rw [withVersion_version, if_pos rfl]
  have stored := upserted_ge world key (read + 1)
  unfold World.version World.upserted
  split
  · rename_i row isRow
    simp only [isRow, Option.getD_some]
    omega
  · rename_i absent
    simp only [absent, Option.getD_none]
    omega

theorem outcomes_advance (thread : Nat) (call : Call) (world : World) :
    Leads (outcomes thread call world) (Advance world) := by
  have same := Advance.refl world
  by_cases untouched : call.touchesTokens = false
  · intro outcome possible
    exact (outcomes_sameTokens thread call world untouched outcome possible).advance
  · cases call with
    | uuid =>
      simp only [outcomes, leads_cons, leads_nil, and_true]
      exact ⟨Nat.le_refl _, Nat.le_succ _, fun _ => Nat.le_refl _, rfl, fun _ member => member⟩
    | encode token =>
      simp only [outcomes, leads_cons, leads_nil, and_true]
      exact ⟨Nat.le_refl _, Nat.le_refl _, fun _ => Nat.le_refl _, rfl,
        fun _ member => List.mem_cons_of_mem _ member⟩
    | upsertVersion key version =>
      rw [outcomes_upsertVersion, leads_committed]
      exact ⟨withVersion_advance world key version, same⟩
    | insertClaim row =>
      simp only [outcomes]
      split
      · simpa using same
      · rw [leads_committed]
        exact ⟨⟨Nat.le_refl _, Nat.le_refl _, fun _ => Nat.le_refl _, rfl, fun _ member => member⟩,
          same⟩
    | deleteExpiredClaims =>
      simp only [outcomes]
      rw [leads_committed]
      exact ⟨⟨Nat.le_refl _, Nat.le_refl _, fun _ => Nat.le_refl _, rfl, fun _ member => member⟩,
        same⟩
    | _ => exact absurd rfl untouched

/-- Only a signature adds a token. -/
theorem outcomes_issued (thread : Nat) (call : Call) (world : World) :
    Leads (outcomes thread call world) fun after => after.issued = world.issued ∨
      ∃ token, call = .encode token ∧ after.issued = token :: world.issued := by
  by_cases untouched : call.touchesTokens = false
  · intro outcome possible
    exact Or.inl (outcomes_sameTokens thread call world untouched outcome possible).issued
  · cases call with
    | uuid => simp [outcomes]
    | encode token => simp [outcomes]
    | upsertVersion key version => simp [outcomes]
    | insertClaim row =>
      simp only [outcomes]
      split <;> simp
    | deleteExpiredClaims => simp [outcomes]
    | _ => exact absurd rfl untouched

/-- Only a bump changes a version. -/
theorem outcomes_version (thread : Nat) (call : Call) (world : World) (key : VersionKey) :
    Leads (outcomes thread call world) fun after => after.version key = world.version key ∨
      ∃ version, call = .upsertVersion key version := by
  by_cases untouched : call.touchesTokens = false
  · intro outcome possible
    exact Or.inl ((outcomes_sameTokens thread call world untouched outcome possible).version key)
  · cases call with
    | upsertVersion other version =>
      rw [outcomes_upsertVersion, leads_committed]
      refine ⟨?_, Or.inl rfl⟩
      by_cases same : key = other
      · subst same
        exact Or.inr ⟨version, rfl⟩
      · left
        rw [withVersion_version, if_neg same]
    | insertClaim row =>
      simp only [outcomes]
      split
      · simp
      · exact (leads_committed ..).mpr ⟨Or.inl rfl, Or.inl rfl⟩
    | uuid => exact (leads_cons ..).mpr ⟨Or.inl rfl, leads_nil _⟩
    | encode token => exact (leads_cons ..).mpr ⟨Or.inl rfl, leads_nil _⟩
    | deleteExpiredClaims => exact (leads_committed ..).mpr ⟨Or.inl rfl, Or.inl rfl⟩
    | _ => exact absurd rfl untouched

def ClaimRow.consumed (row : ClaimRow) (now : Nat) : ConsumedRefreshToken :=
  ⟨row.jti, now, row.expiresAt, row.clientIp, row.accountVer, row.chainVer⟩

/-- The claims after a call are those before it, some of them purged, or one more. -/
inductive ClaimsStep (call : Call) (world after : World) : Prop
  | same (unchanged : after.consumed = world.consumed)
  | claimed (row : ClaimRow) (isCall : call = .insertClaim row)
      (unclaimed : world.claimOf row.jti = none)
      (added : after.consumed = row.consumed world.now :: world.consumed)
  | purged (isCall : call = .deleteExpiredClaims)
      (kept : after.consumed = world.consumed.filter fun row => row ∉ world.expiredClaims)

theorem outcomes_claims (thread : Nat) (call : Call) (world : World) :
    Leads (outcomes thread call world) (ClaimsStep call world) := by
  by_cases untouched : call.touchesTokens = false
  · intro outcome possible
    exact .same (outcomes_sameTokens thread call world untouched outcome possible).consumed
  · cases call with
    | uuid =>
      simp only [outcomes, leads_cons, leads_nil, and_true]
      exact .same rfl
    | encode token =>
      simp only [outcomes, leads_cons, leads_nil, and_true]
      exact .same rfl
    | upsertVersion key version => exact (leads_committed ..).mpr ⟨.same rfl, .same rfl⟩
    | insertClaim row =>
      simp only [outcomes]
      split
      · exact (leads_selected ..).mpr (.same rfl)
      · rename_i unclaimed
        exact (leads_committed ..).mpr ⟨.claimed row rfl unclaimed rfl, .same rfl⟩
    | deleteExpiredClaims => exact (leads_committed ..).mpr ⟨.purged rfl rfl, .same rfl⟩
    | _ => exact absurd rfl untouched

theorem disturb_advance (disturbance : Disturbance) (world : World) :
    Advance world (disturb disturbance world) := by
  cases disturbance with
  | elapse time =>
    exact ⟨Nat.le_add_right _ _, Nat.le_refl _, fun _ => Nat.le_refl _, rfl, fun _ member => member⟩
  | loseMarker jti =>
    exact ⟨Nat.le_refl _, Nat.le_refl _, fun _ => Nat.le_refl _, rfl, fun _ member => member⟩

/-! ## The session mirror -/

/-- What a call can do to the rows of the mirror: rows vanish or keep their chain, or one is
added. -/
inductive MirrorStep (call : Call) (before after : World) : Prop where
  | kept (next : after.nextSessionId = before.nextSessionId)
      (rows : ∀ session ∈ after.sessions, ∃ old ∈ before.sessions,
        old.id = session.id ∧ old.userId = session.userId ∧ old.chainId = session.chainId)
  | inserted (userId jti chainId expiresAt : Nat)
      (isInsert : call = .insertSession userId jti chainId expiresAt)
      (next : after.nextSessionId = before.nextSessionId + 1)
      (rows : after.sessions = before.sessions ++
        [⟨before.nextSessionId, userId, jti, some chainId, expiresAt⟩])

theorem MirrorStep.same {call : Call} {before after : World}
    (next : after.nextSessionId = before.nextSessionId) (rows : after.sessions = before.sessions) :
    MirrorStep call before after :=
  .kept next fun session member => ⟨session, rows ▸ member, rfl, rfl, rfl⟩

theorem MirrorStep.removed {call : Call} {before after : World} (keep : UserSession → Bool)
    (next : after.nextSessionId = before.nextSessionId)
    (rows : after.sessions = before.sessions.filter keep) : MirrorStep call before after :=
  .kept next fun session member =>
    ⟨session, List.mem_of_mem_filter (rows ▸ member), rfl, rfl, rfl⟩

theorem updatedUser_mirror (call : Call) (world : World) (thread userId : Nat)
    (update : User → User) :
    Leads (updatedUser world thread userId update) (MirrorStep call world) := by
  unfold updatedUser
  split
  · simp
  · split
    · exact (leads_refused ..).mpr (.same rfl rfl)
    · exact (leads_committed ..).mpr ⟨.same rfl rfl, .same rfl rfl⟩

theorem outcomes_mirror (thread : Nat) (call : Call) (world : World) :
    Leads (outcomes thread call world) (MirrorStep call world) := by
  have same : MirrorStep call world world := .same rfl rfl
  cases call with
  | setLastLogin userId => exact updatedUser_mirror _ world thread userId _
  | setPassword userId password => exact updatedUser_mirror _ world thread userId _
  | softDelete userId deletedAt => exact updatedUser_mirror _ world thread userId _
  | reactivate userId => exact updatedUser_mirror _ world thread userId _
  | deleteUser userId =>
    simp only [outcomes]
    split
    · simp
    · exact (leads_committed ..).mpr ⟨.removed _ rfl rfl, same⟩
  | insertClaim row =>
    simp only [outcomes]
    split
    · simpa using same
    · exact (leads_committed ..).mpr ⟨.same rfl rfl, same⟩
  | selectSessionByChain chainId =>
    simp only [outcomes]
    split <;> simpa using same
  | insertSession userId jti chainId expiresAt =>
    simp only [outcomes]
    split
    · exact (leads_refused ..).mpr same
    · exact (leads_committed ..).mpr ⟨.inserted userId jti chainId expiresAt rfl rfl rfl, same⟩
  | moveSession sessionId newJti newExpiresAt =>
    simp only [outcomes]
    split
    · exact (leads_refused ..).mpr same
    · refine (leads_committed ..).mpr ⟨.kept rfl fun session member => ?_, same⟩
      obtain ⟨old, inOld, rfl⟩ := List.mem_map.mp member
      refine ⟨old, inOld, ?_⟩
      split <;> exact ⟨rfl, rfl, rfl⟩
  | lockUser userId =>
    simp only [outcomes]
    split
    · simp
    · split
      · simpa using ⟨.same rfl rfl, same⟩
      · simpa using same
  | uuid => simpa [outcomes] using .same rfl rfl
  | encode token => simpa [outcomes] using .same rfl rfl
  | upsertVersion key version => exact (leads_committed ..).mpr ⟨.same rfl rfl, same⟩
  | deleteExpiredClaims => exact (leads_committed ..).mpr ⟨.same rfl rfl, same⟩
  | deleteSession sessionId => exact (leads_committed ..).mpr ⟨.removed _ rfl rfl, same⟩
  | deleteSessionsOf userId exemptChainId =>
    exact (leads_committed ..).mpr ⟨.removed _ rfl rfl, same⟩
  | deleteSessionsExpiredBefore before =>
    exact (leads_committed ..).mpr ⟨.removed _ rfl rfl, same⟩
  | insertAuditEntry => exact (leads_committed ..).mpr ⟨.same rfl rfl, same⟩
  | closeSession => simpa [outcomes] using .same rfl rfl
  | _ => simpa [outcomes] using same

/-- No call takes time. -/
theorem outcomes_now (thread : Nat) (call : Call) (world : World) :
    Leads (outcomes thread call world) fun after => after.now = world.now := by
  by_cases touched : call.touchesTokens = false
  · exact fun outcome possible =>
      (outcomes_sameTokens thread call world touched outcome possible).now
  · cases call with
    | uuid => simp [outcomes]
    | encode token => simp [outcomes]
    | upsertVersion key version => exact (leads_committed ..).mpr ⟨rfl, rfl⟩
    | insertClaim row =>
      simp only [outcomes]
      split
      · simp
      · exact (leads_committed ..).mpr ⟨rfl, rfl⟩
    | deleteExpiredClaims => exact (leads_committed ..).mpr ⟨rfl, rfl⟩
    | _ => simp [Call.touchesTokens] at touched

section Runs

variable {settings : Settings} {permits : Server → Nat → Event → Prop}
variable {config config' : Server}

theorem step_advance (step : Step (server settings) permits config config') :
    Advance config.state config'.state := by
  cases step with
  | begin request => exact Advance.refl _
  | disturb event => exact disturb_advance event config.state
  | reply thread request call next outcome running possible permitted =>
    exact outcomes_advance thread call config.state outcome possible

theorem run_advance (run : Reaches (server settings) permits config config') :
    Advance config.state config'.state := by
  induction run with
  | refl => exact Advance.refl _
  | tail _ step ih => exact ih.trans (step_advance step)

end Runs

end MysticAuth.Tokens
