import MysticAuth.Authorization.ChangeNotices
import MysticAuth.Policies.EditSession

/-!
# Saving the policy form

The values of the form are sent without the conditions where these are switched
off or blank, and the update route keeps a field that is not sent.
-/

set_option autoImplicit false

namespace MysticAuth.Policies

open Python Interleaving

/-! ## The request -/

/-- `POLICY_NAME_PATTERN` and the length of a name. -/
def validName (name : String) : Bool :=
  name.length ≤ 100 &&
    match name.toList with
    | [] => false
    | first :: rest =>
        first.isAlphanum && rest.all fun c => c.isAlphanum || ['_', '.', ':', '-'].contains c

/-- The body as `PolicyUpdate`; `none` is a 422.  Conditions that are `undefined` are not sent. -/
def PolicyFormValues.toUpdate (values : PolicyFormValues) : Option Database.PolicyFields :=
  if validName values.name && values.description.length ≤ 160 && validActions values.actions &&
      1 ≤ values.resourceType.length && values.resourceType.length ≤ 100 then
    some
      { name := some (some values.name)
        description := some (some values.description)
        actions := some (some values.actions)
        resourceType := some (some values.resourceType)
        conditions := values.conditions
        isActive := none }
  else none

/-- What is stored is what the form shows; no conditions are shown where they are switched off. -/
structure Shown (json : JsonText) (form : FormState) (stored : Policy) : Prop where
  name : stored.name = form.name
  description : stored.description = some form.description
  actions : stored.actions = form.actions
  resourceType : stored.resourceType = form.resourceType
  conditions : stored.conditions = (form.conditions json).getD .null

/-- The submitted form is accepted, and the policy it was opened for is stored as it was shown. -/
def SavedAsShown (json : JsonText) (form : FormState) (after : Database) (current : Policy) : Prop :=
  ∃ stored ∈ after.policies, stored.id = current.id ∧ Shown json form stored

/-! ## What is stored -/

/-- The form submits its values, and conditions where they are on screen. -/
theorem handleSubmit_some {json : JsonText} {form : FormState} {values : PolicyFormValues}
    (submitted : form.handleSubmit json = some values) :
    values = form.values json ∧
      ((form.conditions json).isSome = true ↔
        (form.conditionsEnabled && !isBlank form.conditionsText) = true) := by
  obtain ⟨noError, rfl⟩ := Option.ite_none_left_eq_some.mp submitted |>.imp_right Option.some.inj
  refine ⟨rfl, ?_⟩
  simp only [FormState.conditionsError, FormState.conditions] at noError ⊢
  cases on : form.conditionsEnabled && !isBlank form.conditionsText with
  | false => simp
  | true =>
    simp only [on, Bool.true_and] at noError
    cases parsed : json.parse form.conditionsText with
    | none => simp [parsed] at noError
    | some value => simp

/-- The row after an accepted update from the form. -/
theorem apply_toUpdate {values : PolicyFormValues} {fields : Database.PolicyFields}
    {current updated : Policy} (valid : values.toUpdate = some fields)
    (applied : ({ fields with
      actions := fields.actions.map (Option.map dedupeActions) } : Database.PolicyFields).apply
        current = some updated) :
    updated = { current with
      name := values.name
      description := some values.description
      actions := dedupeActions values.actions
      resourceType := values.resourceType
      conditions := values.conditions.getD current.conditions } := by
  obtain ⟨_, rfl⟩ := Option.ite_none_right_eq_some.mp valid |>.imp_right Option.some.inj
  exact (Option.some.inj applied).symm

section Save

variable {json : JsonText} {policy : PolicyRead} {edits : List Action} {session : Session}
  {values : PolicyFormValues} {fields : Database.PolicyFields}
  {server : Server} {reprText : Json → String} {database : Database} {request : Request}
  {accepted : Accepted server database request} {current : Policy}

theorem noRepetitions_along
    (run : Follows Session.step (fun _ _ => True) (.opened json (some policy)) edits session) :
    NoRepetitions session :=
  run.preserves NoRepetitions (.opened json (some policy)) fun _ _ _ _ _ taken kept =>
    kept.step taken

/-- After any edits, an accepted submit stores what the form shows exactly when conditions are on
screen, or none were stored. -/
theorem saved_as_shown_iff
    (run : Follows Session.step (fun _ _ => True) (.opened json (some policy)) edits session)
    (submitted : session.form.handleSubmit json = some values)
    (valid : values.toUpdate = some fields)
    (named : database.getByName policy.name = some current)
    (success : updatePolicy server reprText database request policy.name fields none
      = .ok accepted) :
    SavedAsShown json session.form accepted.after current ↔
      (session.form.conditionsEnabled && !isBlank session.form.conditionsText) = true ∨
        current.conditions = .null := by
  obtain ⟨rfl, onScreen⟩ := handleSubmit_some submitted
  obtain ⟨updated, applied, row⟩ := updatePolicy_row named success
  have isUpdated := apply_toUpdate valid applied
  rw [show (session.form.values json).actions = session.form.actions from rfl,
    dedupeActions_of_nodup (noRepetitions_along run).form] at isUpdated
  have sameId : updated.id = current.id := by rw [isUpdated]
  have rows : accepted.after.policies = Database.replacePolicy database.policies updated := by
    rw [row]
    rfl
  have stored : SavedAsShown json session.form accepted.after current ↔
      Shown json session.form updated := by
    constructor
    · rintro ⟨stored, listed, same, shown⟩
      rw [rows] at listed
      rcases mem_replacePolicy _ _ _ listed with rfl | ⟨_, differs⟩
      · exact shown
      · exact absurd (same.trans sameId.symm) differs
    · intro shown
      refine ⟨updated, ?_, sameId, shown⟩
      rw [rows]
      exact List.mem_map.mpr ⟨current, List.mem_of_find?_eq_some named, if_pos sameId.symm⟩
  have shown : Shown json session.form updated ↔
      (session.form.conditions json).getD current.conditions =
        (session.form.conditions json).getD .null := by
    rw [isUpdated]
    exact ⟨Shown.conditions, fun same => ⟨rfl, rfl, rfl, rfl, same⟩⟩
  rw [stored, shown, ← onScreen]
  cases session.form.conditions json with
  | none => simp
  | some conditions => simp

end Save

/-! ## Conditions that are switched off -/

def selfOnly : Json :=
  .obj ⟨["self_only"], List.nodup_singleton _⟩ [.bool true]

def selfOnlyText : String :=
  "\x7b\n  \"self_only\": true\n\x7d"

/-- The texts of one block of conditions. -/
def selfOnlyJson : JsonText where
  parse := fun text => if text = selfOnlyText then some selfOnly else none
  stringify := fun _ => selfOnlyText

def selfOnlyPolicy : Policy :=
  { reportsPolicy with conditions := selfOnly }

/-- Everybody who may read reports may read his own only. -/
def selfOnlyDatabase : Database :=
  { reportsDatabase with
    policies := reportsDatabase.policies.map fun policy =>
      if policy.id = selfOnlyPolicy.id then selfOnlyPolicy else policy }

def reportsFields (description : String) : Database.PolicyFields :=
  ⟨some (some "reports"), some (some description), some (some ["reports:read"]),
    some (some "reports"), none, none⟩

/-- Root saves the form. -/
def saveReports (database : Database) (description : String) :
    Outcome exampleServer database
      (exampleEvent "root@example.com" (.updatePolicy "reports" .unset none)).request :=
  updatePolicy exampleServer (fun _ => "") database _ "reports" (reportsFields description) none

/-- The form of the policy, after one edit. -/
def editedForm (policy : Policy) (edit : FormState → FormState) : Session :=
  let session := Session.opened selfOnlyJson (some (.ofPolicy policy))
  { session with form := edit session.form }

def quarterly : Session :=
  editedForm reportsPolicy fun form => { form with description := "Quarterly" }

def switchedOff : Session :=
  editedForm selfOnlyPolicy fun form => { form with conditionsEnabled := false }

theorem saved_as_shown_quarterly :
    ∃ accepted, saveReports reportsDatabase "Quarterly" = .ok accepted ∧
      SavedAsShown selfOnlyJson quarterly.form accepted.after reportsPolicy := by
  have run : Follows Session.step (fun _ _ => True)
      (.opened selfOnlyJson (some (.ofPolicy reportsPolicy))) [.setDescription "Quarterly"]
      quarterly := .cons trivial rfl (.nil _)
  have succeeds : (saveReports reportsDatabase "Quarterly").isOk = true := by rfl
  cases outcome : saveReports reportsDatabase "Quarterly" with
  | error failure => simp [outcome, Except.isOk, Except.toBool] at succeeds
  | ok accepted =>
    exact ⟨accepted, rfl, (saved_as_shown_iff run rfl rfl rfl outcome).mpr (Or.inr rfl)⟩

/-- The conditions stay. -/
theorem switched_off_conditions_kept :
    ¬ ∀ (json : JsonText) (policy : PolicyRead) (edits : List Action) (session : Session)
      (values : PolicyFormValues) (fields : Database.PolicyFields) (server : Server)
      (reprText : Json → String) (database : Database) (request : Request)
      (accepted : Accepted server database request) (current : Policy),
      Follows Session.step (fun _ _ => True) (.opened json (some policy)) edits session →
        session.form.handleSubmit json = some values → values.toUpdate = some fields →
        database.getByName policy.name = some current → policy = .ofPolicy current →
        updatePolicy server reprText database request policy.name fields none = .ok accepted →
        SavedAsShown json session.form accepted.after current := by
  intro claim
  have run : Follows Session.step (fun _ _ => True)
      (.opened selfOnlyJson (some (.ofPolicy selfOnlyPolicy))) [.setConditionsEnabled false]
      switchedOff := .cons trivial rfl (.nil _)
  have kept : ((saveReports selfOnlyDatabase "").map fun accepted =>
      accepted.after.policies.all fun stored => stored.id != 2 || !stored.conditions.isNull).toOption
        = some true := by rfl
  cases outcome : saveReports selfOnlyDatabase "" with
  | error failure => simp [outcome, Except.map, Except.toOption] at kept
  | ok accepted =>
    simp only [outcome, Except.map, Except.toOption, Option.some.injEq, List.all_eq_true] at kept
    obtain ⟨stored, listed, same, shown⟩ :=
      claim _ _ _ _ _ _ _ _ _ _ accepted selfOnlyPolicy run rfl rfl rfl rfl outcome
    have still := kept stored listed
    rw [same, shown.conditions] at still
    exact absurd still (by decide)

end MysticAuth.Policies
