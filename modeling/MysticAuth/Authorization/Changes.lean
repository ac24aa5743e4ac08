import MysticAuth.Authorization.GuardSoundness
import MysticAuth.Authorization.Routes

/-!
# What an accepted request changes

One inductive relation lists every change an accepted request can make to the
tables, together with the proposals it passed to the grant guard and with the
validation its conditions went through.  All invariants of the tables are
proved from it.
-/

set_option autoImplicit false

namespace MysticAuth

open Python

/-- An update that sets `is_active` to true and touches none of actions, resource type and
conditions; the route calls no guard for it. -/
def reactivates : Operation → Bool
  | .updatePolicy _ fields _ => !touchesGrants fields && fields.isActive == some (some true)
  | _ => false

inductive Change (operation : Operation) (before : Database) (proposals : List Proposal) :
    Database → Prop where
  | created (data : Database.PolicyData) (changedBy : String)
      (validated : ValidatedBlock data.conditions) :
      Change operation before proposals (before.createPolicy data changedBy)
  | updated (policy updated : Policy) (changeType : PolicyChangeType) (changedBy : String)
      (changeReason : Option String) (member : policy ∈ before.policies)
      (sameId : updated.id = policy.id)
      (validated : ValidatedBlock updated.conditions ∨ updated.conditions = policy.conditions)
      (guarded : updated.proposal ∈ proposals ∨
        (updated.proposal = policy.proposal ∧
          (policy.isActive = true ∨ updated.isActive = false ∨ reactivates operation = true))) :
      Change operation before proposals
        ({ before with policies := Database.replacePolicy before.policies updated }.addHistory
          updated.id updated.name changeType (some policy.definition) (some updated.definition)
          changedBy changeReason)
  | deleted (policy : Policy) (changedBy : String) (changeReason : Option String) :
      Change operation before proposals (before.deletePolicy policy changedBy changeReason)
  | assigned (policy : Policy) (userId : Nat) (assignedBy : Option String)
      (member : policy ∈ before.policies) (guarded : policy.proposal ∈ proposals) :
      Change operation before proposals (before.assignPolicyToUser userId policy.id assignedBy)
  | unassigned (userId policyId : Nat) :
      Change operation before proposals (before.removeAssignment userId policyId)
  | actionRevoked (policy : Policy) (userId : Nat) (action : String) (revokedBy : Option String)
      (after : Database) (member : policy ∈ before.policies)
      (guarded : policy.proposal ∈ proposals)
      (applied : before.revokeSingleAction userId policy action revokedBy = some after) :
      Change operation before proposals after
  | permissionGranted (userId : Nat) (action resourceType : String) (conditions : Json)
      (assignedBy : Option String) (validated : ValidatedBlock conditions)
      (guarded : (⟨[action], resourceType, conditions⟩ : Proposal) ∈ proposals) :
      Change operation before proposals
        (before.assignPermissionToUser userId action resourceType conditions assignedBy)
  | permissionRevoked (userId : Nat) (action resourceType : String) :
      Change operation before proposals (before.removePermission userId action resourceType)

/-! ## Peeling the shared steps -/

section Steps

variable {server : Server} {reprText : Json → String} {database : Database} {request : Request}

theorem requireGrant_ok (proposal : Proposal) (check : GuardCheck server database request)
    (success : requireGrant server database request proposal = .ok check) :
    check.proposal = proposal := by
  simp only [requireGrant] at success
  split at success
  · cases success
    rfl
  · simp at success

theorem getOr404_ok {α : Type} (found : Option α) (notFound : AppError) (value : α)
    (success : getOr404 found notFound = .ok value) : found = some value := by
  cases found with
  | none => simp [getOr404, raiseApp] at success
  | some other =>
    simp only [getOr404, Except.ok.injEq] at success
    rw [success]

theorem refuseIf_ok (refused : Bool) (error : AppError) (value : Unit)
    (success : refuseIf refused error = .ok value) : refused = false := by
  cases refused with
  | false => rfl
  | true => simp [refuseIf, raiseApp] at success

theorem commit_ok (result : Option Database) (after : Database)
    (success : commit result = .ok after) : result = some after := by
  cases result with
  | none => simp [commit] at success
  | some other =>
    simp only [commit, Except.ok.injEq] at success
    rw [success]

theorem requireValidConditions_ok (conditions : Json) (value : Unit)
    (success : requireValidConditions server reprText conditions = .ok value) :
    ValidatedBlock conditions := by
  have accepted := refuseIf_ok _ _ _ success
  exact ⟨server.runtime, by simpa using accepted⟩

theorem findPolicy_ok (policyName : String) (policy : Policy)
    (success : findPolicy database policyName = .ok policy) : policy ∈ database.policies :=
  List.mem_of_find?_eq_some (getOr404_ok _ _ _ success)

theorem fieldOr_ok {α : Type} (current : α) (field : Option (Option α)) (value : α)
    (success : fieldOr current field = .ok value) : Database.setColumn current field = some value := by
  cases found : Database.setColumn current field with
  | none => simp [fieldOr, found] at success
  | some other =>
    simp only [fieldOr, found, Except.ok.injEq] at success
    rw [success]

end Steps

/-! ## Updates -/

/-- The columns of an updated policy. -/
theorem apply_eq_some (fields : Database.PolicyFields) (policy updated : Policy)
    (applied : fields.apply policy = some updated) :
    updated.id = policy.id ∧
      Database.setColumn policy.actions fields.actions = some updated.actions ∧
      Database.setColumn policy.resourceType fields.resourceType = some updated.resourceType ∧
      Database.setColumn policy.isActive fields.isActive = some updated.isActive ∧
      updated.conditions = fields.conditions.getD policy.conditions := by
  simp only [Database.PolicyFields.apply, Option.bind_eq_bind, Option.bind_eq_some_iff,
    Option.some.injEq] at applied
  obtain ⟨name, _, actions, actionsSet, resourceType, typeSet, isActive, activeSet, rfl⟩ := applied
  exact ⟨rfl, actionsSet, typeSet, activeSet, rfl⟩

theorem updatePolicy_eq_some (database after : Database) (policy : Policy)
    (fields : Database.PolicyFields) (changedBy : String) (changeReason : Option String)
    (changeType : PolicyChangeType)
    (applied : database.updatePolicy policy fields changedBy changeReason changeType
      = some after) :
    ∃ updated, fields.apply policy = some updated ∧
      after = ({ database with
        policies := Database.replacePolicy database.policies updated }.addHistory updated.id
          updated.name changeType (some policy.definition) (some updated.definition) changedBy
          changeReason) := by
  simp only [Database.updatePolicy, Option.bind_eq_bind, Option.bind_eq_some_iff] at applied
  obtain ⟨updated, applied, rest⟩ := applied
  split at rest
  · simp at rest
  · exact ⟨updated, applied, (Option.some.inj rest).symm⟩

/-- An update that leaves the guarded fields alone keeps what the policy grants, and makes an
inactive policy active only when it sets `is_active`. -/
theorem untouched_update (fields : Database.PolicyFields) (policy updated : Policy)
    (applied : fields.apply policy = some updated) (untouched : touchesGrants fields = false) :
    updated.proposal = policy.proposal ∧
      (policy.isActive = true ∨ updated.isActive = false ∨
        fields.isActive = some (some true)) := by
  obtain ⟨_, actionsSet, typeSet, activeSet, conditionsSet⟩ := apply_eq_some _ _ _ applied
  simp only [touchesGrants, Bool.or_eq_false_iff, Option.isSome_eq_false_iff,
    Option.isNone_iff_eq_none] at untouched
  obtain ⟨⟨noActions, noType⟩, noConditions⟩ := untouched
  simp only [noActions, noType, noConditions, Database.setColumn, Option.some.injEq,
    Option.getD_none] at actionsSet typeSet conditionsSet
  refine ⟨by simp only [Policy.proposal, ← actionsSet, ← typeSet, conditionsSet], ?_⟩
  cases set : fields.isActive with
  | none =>
    simp only [set, Database.setColumn, Option.some.injEq] at activeSet
    cases active : policy.isActive with
    | true => exact Or.inl rfl
    | false => exact Or.inr (Or.inl (activeSet.symm.trans active))
  | some value =>
    cases value with
    | none => simp [set, Database.setColumn] at activeSet
    | some isActive =>
      cases isActive with
      | true => exact Or.inr (Or.inr rfl)
      | false =>
        simp only [set, Database.setColumn, Option.some.injEq] at activeSet
        exact Or.inr (Or.inl activeSet.symm)

/-! ## The routes -/

section Accepted

variable {server : Server} {reprText : Json → String} {database : Database} {request : Request}

def Accepted.proposals (accepted : Accepted server database request) : List Proposal :=
  accepted.checks.map GuardCheck.proposal

theorem createPolicy_change (data : Database.PolicyData)
    (accepted : Accepted server database request)
    (success : createPolicy server reprText database request data = .ok accepted) :
    Change (.createPolicy data) database accepted.proposals accepted.after := by
  obtain ⟨_, _, success⟩ := bind_eq_ok _ _ _ success
  obtain ⟨_, valid, success⟩ := bind_eq_ok _ _ _ success
  obtain ⟨_, _, success⟩ := bind_eq_ok _ _ _ success
  obtain ⟨check, _, success⟩ := bind_eq_ok _ _ _ success
  cases success
  exact .created _ _ (requireValidConditions_ok _ _ valid)

theorem guardTarget_ok (policy updated : Policy) (fields : Database.PolicyFields)
    (checks : List (GuardCheck server database request))
    (applied : fields.apply policy = some updated) (touched : touchesGrants fields = true)
    (success : guardTarget server database request policy fields = .ok checks) :
    updated.proposal ∈ checks.map GuardCheck.proposal := by
  obtain ⟨_, actionsSet, typeSet, _, conditionsSet⟩ := apply_eq_some _ _ _ applied
  simp only [guardTarget, touched, if_true] at success
  obtain ⟨actions, actions?, success⟩ := bind_eq_ok _ _ _ success
  obtain ⟨resourceType, type?, success⟩ := bind_eq_ok _ _ _ success
  obtain ⟨check, checked, success⟩ := bind_eq_ok _ _ _ success
  cases success
  have sameActions := (fieldOr_ok _ _ _ actions?).symm.trans actionsSet
  have sameType := (fieldOr_ok _ _ _ type?).symm.trans typeSet
  simp only [Option.some.injEq] at sameActions sameType
  simp [requireGrant_ok _ _ checked, Policy.proposal, sameActions, sameType, conditionsSet]

theorem updatePolicy_change (policyName : String) (fields : Database.PolicyFields)
    (changeReason : Option String) (accepted : Accepted server database request)
    (success : updatePolicy server reprText database request policyName fields changeReason
      = .ok accepted) :
    Change (.updatePolicy policyName fields changeReason) database accepted.proposals
      accepted.after := by
  obtain ⟨_, _, success⟩ := bind_eq_ok _ _ _ success
  obtain ⟨policy, found, success⟩ := bind_eq_ok _ _ _ success
  obtain ⟨_, valid, success⟩ := bind_eq_ok _ _ _ success
  obtain ⟨_, _, success⟩ := bind_eq_ok _ _ _ success
  obtain ⟨_, _, success⟩ := bind_eq_ok _ _ _ success
  obtain ⟨_, _, success⟩ := bind_eq_ok _ _ _ success
  obtain ⟨current, _, success⟩ := bind_eq_ok _ _ _ success
  obtain ⟨target, targeted, success⟩ := bind_eq_ok _ _ _ success
  obtain ⟨after, committed, success⟩ := bind_eq_ok _ _ _ success
  cases success
  obtain ⟨updated, applied, rfl⟩ := updatePolicy_eq_some _ _ _ _ _ _ _ (commit_ok _ _ committed)
  have validated := requireValidConditions_ok _ _ valid
  obtain ⟨sameId, _, _, _, conditionsSet⟩ := apply_eq_some _ _ _ applied
  refine .updated policy updated _ _ _ (findPolicy_ok _ _ found) sameId ?_ ?_
  · cases set : fields.conditions with
    | none => exact Or.inr (by simpa [set] using conditionsSet)
    | some conditions =>
      refine Or.inl ?_
      simp only [set, Option.getD_some] at validated conditionsSet
      rwa [conditionsSet]
  · by_cases touched : touchesGrants
        { fields with actions := fields.actions.map (Option.map dedupeActions) } = true
    · refine Or.inl ?_
      have guarded := guardTarget_ok policy updated _ target applied touched targeted
      simp [Accepted.proposals, List.mem_append, guarded]
    · simp only [Bool.not_eq_true] at touched
      obtain ⟨kept, activity⟩ := untouched_update _ policy updated applied touched
      refine Or.inr ⟨kept, activity.imp_right (Or.imp_right fun set => ?_)⟩
      simp only [touchesGrants, Option.isSome_map] at touched
      simp only [reactivates, touchesGrants, touched, Bool.not_false, Bool.true_and, beq_iff_eq]
      exact set

theorem rollbackPolicy_change (policyName : String) (historyId : Nat) (reason : Option String)
    (accepted : Accepted server database request)
    (success : rollbackPolicy server reprText database request policyName historyId reason
      = .ok accepted) :
    Change (.rollbackPolicy policyName historyId reason) database accepted.proposals
      accepted.after := by
  obtain ⟨_, _, success⟩ := bind_eq_ok _ _ _ success
  obtain ⟨policy, found, success⟩ := bind_eq_ok _ _ _ success
  obtain ⟨entry, _, success⟩ := bind_eq_ok _ _ _ success
  obtain ⟨_, _, success⟩ := bind_eq_ok _ _ _ success
  obtain ⟨_, valid, success⟩ := bind_eq_ok _ _ _ success
  obtain ⟨_, _, success⟩ := bind_eq_ok _ _ _ success
  obtain ⟨_, _, success⟩ := bind_eq_ok _ _ _ success
  obtain ⟨current, currentChecked, success⟩ := bind_eq_ok _ _ _ success
  obtain ⟨target, targetChecked, success⟩ := bind_eq_ok _ _ _ success
  obtain ⟨after, committed, success⟩ := bind_eq_ok _ _ _ success
  cases success
  obtain ⟨updated, applied, rfl⟩ := updatePolicy_eq_some _ _ _ _ _ _ _ (commit_ok _ _ committed)
  have validated := requireValidConditions_ok _ _ valid
  have sameId := (apply_eq_some _ _ _ applied).1
  cases restored : entry.definition with
  | none =>
    simp only [restored, Option.map_none, Option.getD_none] at applied
    obtain rfl : policy = updated := by
      simpa [Database.PolicyFields.apply, Database.PolicyFields.unset, Database.setColumn]
        using applied
    refine .updated policy policy _ _ _ (findPolicy_ok _ _ found) rfl (Or.inr rfl) (Or.inl ?_)
    simp [Accepted.proposals, requireGrant_ok _ _ currentChecked]
  | some definition =>
    simp only [restored, Option.map_some, Option.getD_some] at applied validated targetChecked
    have columns : updated.actions = definition.actions ∧
        updated.resourceType = definition.resourceType ∧
        updated.conditions = definition.conditions := by
      simp only [Database.PolicyFields.apply, Database.PolicyFields.ofDefinition,
        Database.setColumn, Option.bind_eq_bind, Option.bind_some, Option.getD_some,
        Option.some.injEq] at applied
      subst applied
      exact ⟨rfl, rfl, rfl⟩
    refine .updated policy updated _ _ _ (findPolicy_ok _ _ found) sameId (Or.inl ?_) (Or.inl ?_)
    · rwa [columns.2.2]
    · simp [Accepted.proposals, requireGrant_ok _ _ targetChecked, Policy.proposal, columns]

theorem handle_change (operation : Operation) (accepted : Accepted server database request)
    (success : handle server reprText database request operation = .ok accepted) :
    Change operation database accepted.proposals accepted.after := by
  cases operation with
  | createPolicy data => exact createPolicy_change data accepted success
  | updatePolicy policyName fields changeReason =>
    exact updatePolicy_change policyName fields changeReason accepted success
  | rollbackPolicy policyName historyId reason =>
    exact rollbackPolicy_change policyName historyId reason accepted success
  | deletePolicy policyName reason =>
    obtain ⟨_, _, success⟩ := bind_eq_ok _ _ _ success
    obtain ⟨policy, _, success⟩ := bind_eq_ok _ _ _ success
    obtain ⟨_, _, success⟩ := bind_eq_ok _ _ _ success
    obtain ⟨_, _, success⟩ := bind_eq_ok _ _ _ success
    obtain ⟨_, _, success⟩ := bind_eq_ok _ _ _ success
    cases success
    exact .deleted policy _ _
  | assignPolicyToUser userEmail policyName =>
    obtain ⟨_, _, success⟩ := bind_eq_ok _ _ _ success
    obtain ⟨user, _, success⟩ := bind_eq_ok _ _ _ success
    obtain ⟨policy, found, success⟩ := bind_eq_ok _ _ _ success
    obtain ⟨_, _, success⟩ := bind_eq_ok _ _ _ success
    obtain ⟨check, checked, success⟩ := bind_eq_ok _ _ _ success
    cases success
    exact .assigned policy _ _ (findPolicy_ok _ _ found)
      (by simp [Accepted.proposals, requireGrant_ok _ _ checked])
  | removePolicyFromUser userEmail policyName =>
    obtain ⟨_, _, success⟩ := bind_eq_ok _ _ _ success
    obtain ⟨user, _, success⟩ := bind_eq_ok _ _ _ success
    obtain ⟨policy, _, success⟩ := bind_eq_ok _ _ _ success
    obtain ⟨_, _, success⟩ := bind_eq_ok _ _ _ success
    obtain ⟨_, _, success⟩ := bind_eq_ok _ _ _ success
    obtain ⟨_, _, success⟩ := bind_eq_ok _ _ _ success
    cases success
    exact .unassigned _ _
  | revokePolicyActionFromUser userEmail policyName action =>
    obtain ⟨_, _, success⟩ := bind_eq_ok _ _ _ success
    obtain ⟨_, _, success⟩ := bind_eq_ok _ _ _ success
    obtain ⟨user, _, success⟩ := bind_eq_ok _ _ _ success
    obtain ⟨policy, found, success⟩ := bind_eq_ok _ _ _ success
    obtain ⟨_, _, success⟩ := bind_eq_ok _ _ _ success
    obtain ⟨check, checked, success⟩ := bind_eq_ok _ _ _ success
    obtain ⟨_, _, success⟩ := bind_eq_ok _ _ _ success
    obtain ⟨_, _, success⟩ := bind_eq_ok _ _ _ success
    obtain ⟨after, committed, success⟩ := bind_eq_ok _ _ _ success
    cases success
    exact .actionRevoked policy _ _ _ after (findPolicy_ok _ _ found)
      (by simp [Accepted.proposals, requireGrant_ok _ _ checked]) (commit_ok _ _ committed)
  | grantPermissionToUser userEmail action resourceType conditions =>
    obtain ⟨_, _, success⟩ := bind_eq_ok _ _ _ success
    obtain ⟨user, _, success⟩ := bind_eq_ok _ _ _ success
    obtain ⟨_, valid, success⟩ := bind_eq_ok _ _ _ success
    obtain ⟨_, _, success⟩ := bind_eq_ok _ _ _ success
    obtain ⟨check, checked, success⟩ := bind_eq_ok _ _ _ success
    cases success
    exact .permissionGranted _ _ _ _ _ (requireValidConditions_ok _ _ valid)
      (by simp [Accepted.proposals, requireGrant_ok _ _ checked])
  | revokePermissionFromUser userEmail action resourceType =>
    obtain ⟨_, _, success⟩ := bind_eq_ok _ _ _ success
    obtain ⟨user, _, success⟩ := bind_eq_ok _ _ _ success
    obtain ⟨_, _, success⟩ := bind_eq_ok _ _ _ success
    obtain ⟨_, _, success⟩ := bind_eq_ok _ _ _ success
    obtain ⟨_, _, success⟩ := bind_eq_ok _ _ _ success
    cases success
    exact .permissionRevoked _ _ _

end Accepted

end MysticAuth
