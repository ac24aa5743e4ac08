import MysticAuth.Authorization.NoEscalation

/-!
# What a rollback restores

A history entry is found by the name its policy had, and the definition it
records carries that name.  A rollback writes every column of that definition
and appends one entry; it touches nothing else.
-/

set_option autoImplicit false

namespace MysticAuth

open Python

/-- The entry has a definition to go back to, under the name the entry is listed by. -/
def PolicyHistoryEntry.Named (entry : PolicyHistoryEntry) : Prop :=
  ∃ definition, entry.definition = some definition ∧ definition.name = entry.policyName

/-- The policy became `updated`, which is what `definition` says; one entry records it, and nothing
else is different. -/
structure Restored (before after : Database) (policy updated : Policy)
    (definition : PolicyDefinition) (added : PolicyHistoryEntry) : Prop where
  found : after.getByName policy.name = some updated
  snapshot : updated.definition = definition
  sameId : updated.id = policy.id
  sameName : updated.name = policy.name
  policies : after.policies =
    before.policies.map fun other => if other.id = policy.id then updated else other
  users : after.users = before.users
  userPolicies : after.userPolicies = before.userPolicies
  userPermissions : after.userPermissions = before.userPermissions
  history : after.policyHistory = before.policyHistory ++ [added]
  entryPolicy : added.policyId = policy.id ∧ added.policyName = policy.name
  entryType : added.changeType = .rolledBack
  previous : added.previousDefinition = some policy.definition
  recorded : added.newDefinition = some definition

/-! ## Every entry carries the name it is listed by -/

theorem named_append (entries : List PolicyHistoryEntry) (added : PolicyHistoryEntry)
    (named : ∀ entry ∈ entries, entry.Named) (last : added.Named) :
    ∀ entry ∈ entries ++ [added], entry.Named := by
  intro entry member
  rcases List.mem_append.mp member with earlier | new
  · exact named entry earlier
  · rw [List.mem_singleton.mp new]
    exact last

theorem change_named (operation : Operation) (before after : Database)
    (proposals : List Proposal) (named : ∀ entry ∈ before.policyHistory, entry.Named)
    (change : Change operation before proposals after) :
    ∀ entry ∈ after.policyHistory, entry.Named := by
  cases change with
  | created data changedBy validated =>
    apply named_append _ _ named
    exact ⟨_, rfl, rfl⟩
  | updated policy updated changeType changedBy changeReason =>
    apply named_append _ _ named
    exact ⟨_, rfl, rfl⟩
  | deleted policy changedBy changeReason =>
    -- The entry has no new definition, so it goes back to what was deleted.
    apply named_append _ _ named
    exact ⟨_, rfl, rfl⟩
  | assigned policy userId assignedBy =>
    simp only [Database.assignPolicyToUser]
    split
    · exact named
    · exact named
  | unassigned userId policyId => exact named
  | actionRevoked policy userId action revokedBy after member guarded applied =>
    obtain ⟨permissions, rfl, _⟩ := revokeSingleAction_eq_some before userId policy action
      revokedBy after applied
    exact named
  | permissionGranted userId action resourceType conditions assignedBy =>
    rw [assignPermission_frame]
    exact named
  | permissionRevoked userId action resourceType => exact named

theorem serveAll_named (reprText : Json → String) (initial : Database)
    (named : ∀ entry ∈ initial.policyHistory, entry.Named) (events : List Event) :
    ∀ entry ∈ (serveAll reprText initial events).policyHistory, entry.Named := by
  induction events generalizing initial with
  | nil => exact named
  | cons event events ih =>
    apply ih
    simp only [serve]
    split
    · rename_i accepted success
      exact change_named _ _ _ _ named (handle_change _ accepted success)
    · exact named

/-! ## One rollback -/

theorem definition_of_apply (definition : PolicyDefinition) (policy updated : Policy)
    (applied : (Database.PolicyFields.ofDefinition definition).apply policy = some updated) :
    updated.definition = definition ∧ updated.id = policy.id := by
  simp only [Database.PolicyFields.apply, Database.PolicyFields.ofDefinition, Database.setColumn,
    Option.bind_eq_bind, Option.bind_some, Option.getD_some, Option.some.injEq] at applied
  subst applied
  exact ⟨rfl, rfl⟩

/-- The policy that has the name is the only one that is replaced, and keeps its place. -/
theorem getByName_replaced (database : Database) (constraints : Constraints database)
    (policy updated : Policy) (name : String) (found : database.getByName name = some policy)
    (sameId : updated.id = policy.id) (sameName : updated.name = name) :
    (Database.replacePolicy database.policies updated).find? (·.name == name) = some updated := by
  obtain ⟨named, before, after, split, earlier⟩ := List.find?_eq_some_iff_append.mp found
  have member : policy ∈ database.policies := List.mem_of_find?_eq_some found
  have kept : Database.replacePolicy before updated = before := by
    apply (List.map_congr_left _).trans (List.map_id _)
    intro other listed
    have differs : other.id ≠ updated.id := by
      intro same
      have inPolicies : other ∈ database.policies := by
        rw [split]
        exact List.mem_append_left _ listed
      have equal := constraints.policy_unique other policy inPolicies member (same.trans sameId)
      have unnamed := earlier other listed
      rw [equal, named] at unnamed
      simp at unnamed
    exact if_neg differs
  apply List.find?_eq_some_iff_append.mpr
  refine ⟨by simpa using sameName, before, Database.replacePolicy after updated, ?_, earlier⟩
  rw [split]
  simp only [Database.replacePolicy, List.map_append, List.map_cons] at kept ⊢
  rw [kept, if_pos sameId.symm]

section Accepted

variable {server : Server} {reprText : Json → String} {database : Database} {request : Request}

theorem rollbackPolicy_restored (constraints : Constraints database)
    (named : ∀ entry ∈ database.policyHistory, entry.Named) (policyName : String)
    (historyId : Nat) (reason : Option String) (accepted : Accepted server database request)
    (success : rollbackPolicy server reprText database request policyName historyId reason =
      .ok accepted) :
    ∃ policy entry definition updated added,
      database.getByName policyName = some policy ∧
      database.getHistoryById historyId = some entry ∧
      entry.policyName = policy.name ∧
      entry.definition = some definition ∧
      Restored database accepted.after policy updated definition added := by
  obtain ⟨_, _, success⟩ := bind_eq_ok _ _ _ success
  obtain ⟨policy, found, success⟩ := bind_eq_ok _ _ _ success
  obtain ⟨entry, listed, success⟩ := bind_eq_ok _ _ _ success
  obtain ⟨_, ownEntry, success⟩ := bind_eq_ok _ _ _ success
  obtain ⟨_, _, success⟩ := bind_eq_ok _ _ _ success
  obtain ⟨_, _, success⟩ := bind_eq_ok _ _ _ success
  obtain ⟨_, _, success⟩ := bind_eq_ok _ _ _ success
  obtain ⟨_, _, success⟩ := bind_eq_ok _ _ _ success
  obtain ⟨_, _, success⟩ := bind_eq_ok _ _ _ success
  obtain ⟨after, committed, success⟩ := bind_eq_ok _ _ _ success
  cases success
  have found := getOr404_ok _ _ _ found
  have listed := getOr404_ok _ _ _ listed
  have ownEntry : entry.policyName = policyName := by
    simpa using refuseIf_ok _ _ _ ownEntry
  have policyNamed : policy.name = policyName := by simpa using List.find?_some found
  obtain ⟨definition, recorded, sameName⟩ := named entry (List.mem_of_find?_eq_some listed)
  obtain ⟨updated, applied, rfl⟩ := updatePolicy_eq_some _ _ _ _ _ _ _ (commit_ok _ _ committed)
  simp only [recorded, Option.map_some, Option.getD_some] at applied
  obtain ⟨snapshot, sameId⟩ := definition_of_apply definition policy updated applied
  have keptName : updated.name = policyName := by
    have name : updated.definition.name = definition.name := congrArg _ snapshot
    exact name.trans (sameName.trans ownEntry)
  refine ⟨policy, entry, definition, updated, ⟨database.nextHistoryId, updated.id, updated.name,
    .rolledBack, some policy.definition, some updated.definition, request.caller,
    some (rollbackReason historyId reason)⟩, found, listed, ownEntry.trans policyNamed.symm,
    recorded, ?_⟩
  exact {
    found := by
      rw [policyNamed]
      exact getByName_replaced database constraints policy updated policyName found sameId keptName
    snapshot
    sameId
    sameName := keptName.trans policyNamed.symm
    policies := by
      simp only [Database.addHistory, Database.replacePolicy, sameId]
    users := rfl
    userPolicies := rfl
    userPermissions := rfl
    history := rfl
    entryPolicy := ⟨sameId, keptName.trans policyNamed.symm⟩
    entryType := rfl
    previous := rfl
    recorded := congrArg some snapshot }

end Accepted

/-! ## Every run -/

/-- In every run each entry carries the name it is listed by, and an accepted rollback restores
the definition of its entry and nothing else. -/
theorem rollback_exact (reprText : Json → String) (initial : Database)
    (constraints : Constraints initial)
    (named : ∀ entry ∈ initial.policyHistory, entry.Named) (events : List Event) :
    (∀ entry ∈ (serveAll reprText initial events).policyHistory, entry.Named) ∧
    ∀ (server : Server) (request : Request) (policyName : String) (historyId : Nat)
      (reason : Option String)
      (accepted : Accepted server (serveAll reprText initial events) request),
      handle server reprText (serveAll reprText initial events) request
          (.rollbackPolicy policyName historyId reason) = .ok accepted →
        ∃ policy entry definition updated added,
          (serveAll reprText initial events).getByName policyName = some policy ∧
          (serveAll reprText initial events).getHistoryById historyId = some entry ∧
          entry.policyName = policy.name ∧
          entry.definition = some definition ∧
          Restored (serveAll reprText initial events) accepted.after policy updated definition
            added := by
  have entries := serveAll_named reprText initial named events
  refine ⟨entries, ?_⟩
  intro server request policyName historyId reason accepted success
  exact rollbackPolicy_restored (serveAll_constraints reprText initial constraints events) entries
    policyName historyId reason accepted success

/-! Root creates a policy, gives it conditions and another name, and goes back to the entry that
was recorded under this name. -/

def ownOnly : Json :=
  .obj ⟨["self_only"], List.nodup_singleton _⟩ [.bool true]

def editedRun : List Event :=
  [exampleEvent "root@example.com"
      (.createPolicy ⟨"reports", none, ["users:read_own"], "users", .null⟩),
    exampleEvent "root@example.com" (.updatePolicy "reports"
      { Database.PolicyFields.unset with
        name := some (some "digests"), conditions := some ownOnly } none),
    exampleEvent "root@example.com" (.updatePolicy "digests"
      { Database.PolicyFields.unset with conditions := some .null } none)]

def returnToDigests : Event :=
  exampleEvent "root@example.com" (.rollbackPolicy "digests" 2 none)

theorem rollback_exact_digests :
    ∃ accepted : Accepted exampleServer (serveAll (fun _ => "") seededDatabase editedRun)
        returnToDigests.request,
      ∃ policy entry definition updated added,
        (serveAll (fun _ => "") seededDatabase editedRun).getByName "digests" = some policy ∧
        (serveAll (fun _ => "") seededDatabase editedRun).getHistoryById 2 = some entry ∧
        entry.policyName = policy.name ∧
        entry.definition = some definition ∧
        Restored (serveAll (fun _ => "") seededDatabase editedRun) accepted.after policy updated
          definition added := by
  have served : (handle exampleServer (fun _ => "")
      (serveAll (fun _ => "") seededDatabase editedRun) returnToDigests.request
      returnToDigests.operation).isOk = true := by rfl
  cases outcome : handle exampleServer (fun _ => "")
      (serveAll (fun _ => "") seededDatabase editedRun) returnToDigests.request
      returnToDigests.operation with
  | error failure => simp [outcome, Except.isOk, Except.toBool] at served
  | ok accepted =>
    exact ⟨accepted, (rollback_exact _ seededDatabase seededDatabase_constraints
      (by simp [seededDatabase]) editedRun).2 _ _ _ _ _ accepted outcome⟩

end MysticAuth
