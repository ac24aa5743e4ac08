import MysticAuth.Interleaving.Actions
import MysticAuth.Mutations.MutationObject
import MysticAuth.Policies.PolicyForm

/-!
# A session of the policy form

The form of an existing policy saves a toggled action at once, with the whole
list of actions, and offers to undo it when the request has succeeded.  The form
of a new policy saves nothing before it is submitted.
-/

set_option autoImplicit false

namespace MysticAuth.Policies

open Mutations Interleaving

/-! ## State -/

/-- The callbacks of the request of a toggle, or of an undo click on its toast. -/
inductive UpdateCallbacks where
  | toggle (change : ActionChange)
  | undo (change : ActionChange)

/-- `saved` is what the form would submit for the policy as last loaded or saved. -/
structure Session where
  form : FormState
  savesActions : Bool
  saved : PolicyFormValues
  updates : MutationObject (List String) UpdateCallbacks
  undoToasts : List ActionChange
  clearedToasts : List (String × List String)

inductive Action where
  | setName (value : String)
  | setDescription (value : String)
  | setConditionsEnabled (value : Bool)
  | setConditionsText (value : String)
  | toggle (action : String)
  | undo (index : Nat)
  | changeResourceType (catalog : List PermissionCatalogEntry) (value : String)
  | undoResourceType (index : Nat)
  /-- the server processes an update -/
  | serve (ticket : Ticket) (accepted : Bool)
  /-- its answer arrives -/
  | settle (ticket : Ticket)

/-- The bounds of `actions` in `PolicyUpdate`, by code points. -/
def validActions (actions : List String) : Bool :=
  1 ≤ actions.length && actions.length ≤ 100 &&
    actions.all fun action => 1 ≤ action.length && action.length ≤ 200

/-! ## Steps -/

namespace Session

variable (session : Session)

/-- The form's `handleActionsChange`, with the page's where it is given. -/
def handleActionsChange (nextActions : List String) : Session :=
  let change := session.form.actionChange nextActions
  { session with
    form := session.form.applyChange change
    updates :=
      if session.savesActions then session.updates.mutate nextActions (.toggle change)
      else session.updates }

/-- A click on the toast of a toggle, which is gone afterwards. -/
def undo (change : ActionChange) (index : Nat) : Session :=
  { session with
    form := session.form.rollback change
    updates := session.updates.mutate change.previousActions (.undo change)
    undoToasts := session.undoToasts.eraseIdx index }

def changeResourceType (catalog : List PermissionCatalogEntry) (value : String) : Session :=
  let (form, clears) := session.form.handleResourceTypeChange catalog value
  { session with
    form
    clearedToasts :=
      if clears then (session.form.resourceType, session.form.actions) :: session.clearedToasts
      else session.clearedToasts }

def undoResourceType (cleared : String × List String) (index : Nat) : Session :=
  { session with
    form := { session.form with resourceType := cleared.1, actions := cleared.2 }
    clearedToasts := session.clearedToasts.eraseIdx index }

/-- An accepted update stores its list without repetitions. -/
def serve (payload : List String) (accepted : Bool)
    (updates : MutationObject (List String) UpdateCallbacks) : Session :=
  { session with
    updates
    saved :=
      if accepted then { session.saved with actions := dedupeActions payload } else session.saved }

def runCallbacks (accepted : Bool) (callbacks : UpdateCallbacks) : Session :=
  match accepted, callbacks with
  | true, .toggle change => { session with undoToasts := change :: session.undoToasts }
  | false, .toggle change => { session with form := session.form.rollback change }
  | true, .undo _ => session
  | false, .undo change => { session with form := session.form.applyChange change }

def settle (result : Option (Bool × UpdateCallbacks))
    (updates : MutationObject (List String) UpdateCallbacks) : Session :=
  match result with
  | some (accepted, callbacks) => { session with updates }.runCallbacks accepted callbacks
  | none => { session with updates }

def step (session : Session) : Action → Option Session
  | .setName name => some { session with form := { session.form with name } }
  | .setDescription description => some { session with form := { session.form with description } }
  | .setConditionsEnabled conditionsEnabled =>
      some { session with form := { session.form with conditionsEnabled } }
  | .setConditionsText conditionsText =>
      some { session with form := { session.form with conditionsText } }
  | .toggle action =>
      some (session.handleActionsChange (toggleValue session.form.actions action))
  | .undo index => session.undoToasts[index]?.map fun change => session.undo change index
  | .changeResourceType catalog value => some (session.changeResourceType catalog value)
  | .undoResourceType index =>
      session.clearedToasts[index]?.map fun cleared => session.undoResourceType cleared index
  | .serve ticket accepted =>
      (session.updates.serve ticket accepted).bind fun (payload, updates) =>
        -- a list out of bounds is always refused
        if accepted && !validActions payload then none
        else some (session.serve payload accepted updates)
  | .settle ticket =>
      (session.updates.settle ticket).map fun (result, updates) => session.settle result updates

/-- The form is opened for a policy, or for a new one. -/
def opened (json : JsonText) (policy : Option PolicyRead) : Session where
  form := .opened json policy
  savesActions := policy.isSome
  saved :=
    { name := (policy.map PolicyRead.name).getD ""
      description := (policy.bind PolicyRead.description).getD ""
      actions := (policy.map PolicyRead.actions).getD []
      resourceType := (policy.map PolicyRead.resourceType).getD ""
      conditions := policy.bind fun policy =>
        if policy.conditions.isNull then none else some policy.conditions }
  updates := .fresh
  undoToasts := []
  clearedToasts := []

end Session

/-! ## Lists without repetitions -/

def ActionChange.Nodup (change : ActionChange) : Prop :=
  change.previousActions.Nodup ∧ change.nextActions.Nodup

def UpdateCallbacks.change : UpdateCallbacks → ActionChange
  | .toggle change => change
  | .undo change => change

/-- No list of actions that is on screen, can be put back there or is in flight lists one twice. -/
structure NoRepetitions (session : Session) : Prop where
  form : session.form.actions.Nodup
  payloads : ∀ payload ∈ session.updates.payloads, payload.Nodup
  callbacks : ∀ call callbacks, session.updates.latest = some (call, callbacks) →
    callbacks.change.Nodup
  undoToasts : ∀ change ∈ session.undoToasts, change.Nodup
  clearedToasts : ∀ cleared ∈ session.clearedToasts, cleared.2.Nodup

theorem toggleValue_nodup {values : List String} (nodup : values.Nodup) (value : String) :
    (toggleValue values value).Nodup := by
  unfold toggleValue
  split
  · exact nodup.filter _
  · next absent =>
    rw [List.nodup_append]
    refine ⟨nodup, List.nodup_singleton value, ?_⟩
    intro listed inValues other isValue
    rw [List.mem_singleton.mp isValue]
    rintro rfl
    exact absent (List.contains_iff_mem.mpr inValues)

namespace NoRepetitions

variable {session next : Session}

theorem opened (json : JsonText) (policy : Option PolicyRead) :
    NoRepetitions (.opened json policy) where
  form := by
    cases policy with
    | none => exact List.nodup_nil
    | some policy => exact policy.actions_nodup
  payloads := by simp [Session.opened, MutationObject.fresh, MutationObject.payloads, MutationObject.calls]
  callbacks := by simp [Session.opened, MutationObject.fresh]
  undoToasts := by simp [Session.opened]
  clearedToasts := by simp [Session.opened]

/-- The fields of the form besides the actions play no part. -/
theorem of_form (kept : NoRepetitions session) (form : FormState)
    (nodup : form.actions.Nodup) : NoRepetitions { session with form } :=
  ⟨nodup, kept.payloads, kept.callbacks, kept.undoToasts, kept.clearedToasts⟩

theorem mutate (kept : NoRepetitions session) (callbacks : UpdateCallbacks)
    (change : callbacks.change.Nodup) (payload : List String) (nodup : payload.Nodup) :
    NoRepetitions { session with updates := session.updates.mutate payload callbacks } where
  form := kept.form
  payloads other listed := by
    rcases MutationObject.mem_payloads_mutate _ _ _ |>.mp listed with rfl | earlier
    · exact nodup
    · exact kept.payloads other earlier
  callbacks call ran latest := by
    obtain ⟨_, rfl⟩ := Prod.mk.inj (Option.some.inj latest)
    exact change
  undoToasts := kept.undoToasts
  clearedToasts := kept.clearedToasts

theorem handleActionsChange (kept : NoRepetitions session) {nextActions : List String}
    (nodup : nextActions.Nodup) : NoRepetitions (session.handleActionsChange nextActions) := by
  let change := session.form.actionChange nextActions
  have captured : change.Nodup := ⟨kept.form, nodup⟩
  have applied := kept.of_form (session.form.applyChange change) nodup
  unfold Session.handleActionsChange
  dsimp only
  split
  · exact applied.mutate (.toggle change) captured nextActions nodup
  · exact applied

theorem undo (kept : NoRepetitions session) {change : ActionChange} {index : Nat}
    (toast : session.undoToasts[index]? = some change) :
    NoRepetitions (session.undo change index) := by
  have nodup := kept.undoToasts change (List.mem_of_getElem? toast)
  have rolled := (kept.of_form (session.form.rollback change) nodup.1).mutate (.undo change) nodup
    change.previousActions nodup.1
  refine ⟨rolled.form, rolled.payloads, rolled.callbacks, ?_, rolled.clearedToasts⟩
  intro other listed
  exact kept.undoToasts other (List.mem_of_mem_eraseIdx listed)

theorem changeResourceType (kept : NoRepetitions session)
    (catalog : List PermissionCatalogEntry) (value : String) :
    NoRepetitions (session.changeResourceType catalog value) where
  form := kept.form.filter _
  payloads := kept.payloads
  callbacks := kept.callbacks
  undoToasts := kept.undoToasts
  clearedToasts cleared listed := by
    simp only [Session.changeResourceType] at listed
    split at listed
    · rcases List.mem_cons.mp listed with rfl | earlier
      · exact kept.form
      · exact kept.clearedToasts cleared earlier
    · exact kept.clearedToasts cleared listed

theorem runCallbacks (kept : NoRepetitions session) (accepted : Bool)
    {callbacks : UpdateCallbacks} (change : callbacks.change.Nodup) :
    NoRepetitions (session.runCallbacks accepted callbacks) := by
  cases accepted <;> cases callbacks
  case true.toggle changed =>
    refine ⟨kept.form, kept.payloads, kept.callbacks, ?_, kept.clearedToasts⟩
    intro other listed
    rcases List.mem_cons.mp listed with rfl | earlier
    · exact change
    · exact kept.undoToasts other earlier
  case true.undo => exact kept
  case false.toggle => exact kept.of_form _ change.1
  case false.undo => exact kept.of_form _ change.2

theorem step {action : Action} (kept : NoRepetitions session)
    (taken : session.step action = some next) : NoRepetitions next := by
  cases action with
  | setName value | setDescription value | setConditionsEnabled value | setConditionsText value =>
    obtain rfl := Option.some.inj taken
    exact kept.of_form _ kept.form
  | toggle action =>
    obtain rfl := Option.some.inj taken
    exact kept.handleActionsChange (toggleValue_nodup kept.form action)
  | undo index =>
    obtain ⟨change, toast, rfl⟩ := Option.map_eq_some_iff.mp taken
    exact kept.undo toast
  | changeResourceType catalog value =>
    obtain rfl := Option.some.inj taken
    exact kept.changeResourceType catalog value
  | undoResourceType index =>
    obtain ⟨cleared, toast, rfl⟩ := Option.map_eq_some_iff.mp taken
    have nodup := kept.clearedToasts cleared (List.mem_of_getElem? toast)
    refine ⟨nodup, kept.payloads, kept.callbacks, kept.undoToasts, ?_⟩
    intro other listed
    exact kept.clearedToasts other (List.mem_of_mem_eraseIdx listed)
  | serve ticket accepted =>
    obtain ⟨⟨payload, updates⟩, served, rest⟩ := Option.bind_eq_some_iff.mp taken
    obtain ⟨_, rfl⟩ := Option.ite_none_left_eq_some.mp rest |>.imp_right Option.some.inj
    refine ⟨kept.form, ?_, ?_, kept.undoToasts, kept.clearedToasts⟩
    · intro other listed
      exact kept.payloads other ((MutationObject.payloads_serve served).2 other listed)
    · intro call callbacks latest
      obtain ⟨call', inFlight⟩ := MutationObject.latest_of_serve served latest
      exact kept.callbacks call' callbacks inFlight
  | settle ticket =>
    obtain ⟨⟨result, updates⟩, settled, rfl⟩ := Option.map_eq_some_iff.mp taken
    have fewer := MutationObject.payloads_settle settled
    have settledKept : NoRepetitions { session with updates } := by
      refine ⟨kept.form, fun other listed => kept.payloads other (fewer other listed), ?_,
        kept.undoToasts, kept.clearedToasts⟩
      intro call callbacks latest
      exact kept.callbacks call callbacks (MutationObject.latest_of_settle settled latest)
    rcases MutationObject.settle_cases settled with
      ⟨_, accepted, callbacks, rfl, inFlight, _⟩ | ⟨rfl, _⟩
    · exact settledKept.runCallbacks accepted (kept.callbacks _ _ inFlight)
    · exact settledKept

end NoRepetitions

end MysticAuth.Policies
