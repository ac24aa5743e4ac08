import MysticAuth.Authorization.ConditionLimits
import MysticAuth.Authorization.PermissionUsage
import MysticAuth.JavaScript.Number

/-!
# The policy form

The fields of the form are kept apart from the snapshot they are compared with
before the form is left.  A toggled action replaces the snapshot as well, as if
everything on screen had been saved.
-/

set_option autoImplicit false

namespace MysticAuth.Policies

open Python JavaScript ConditionLimits

/-! ## What the form is opened with -/

theorem dedupeActions_nodup (actions : List String) : (dedupeActions actions).Nodup := by
  induction actions with
  | nil => exact List.nodup_nil
  | cons head rest ih =>
    rw [dedupeActions, List.nodup_cons]
    exact ⟨by simp, ih.filter _⟩

theorem dedupeActions_of_nodup {actions : List String} (nodup : actions.Nodup) :
    dedupeActions actions = actions := by
  induction actions with
  | nil => rfl
  | cons head rest ih =>
    obtain ⟨fresh, tail⟩ := List.nodup_cons.mp nodup
    rw [dedupeActions, ih tail, List.filter_eq_self.mpr]
    intro action listed
    exact bne_iff_ne.mpr fun same => fresh (same ▸ listed)

/-- A policy as the API returns it; no action is listed twice. -/
structure PolicyRead where
  name : String
  description : Option String
  actions : List String
  resourceType : String
  conditions : Json
  actions_nodup : actions.Nodup

def PolicyRead.ofPolicy (policy : Policy) : PolicyRead where
  name := policy.name
  description := policy.description
  actions := dedupeActions policy.actions
  resourceType := policy.resourceType
  conditions := sanitizeConditionsForRead policy.conditions
  actions_nodup := dedupeActions_nodup policy.actions

/-- `JSON.parse`, which may throw, and `JSON.stringify` with an indentation of two. -/
structure JsonText where
  parse : String → Option Json
  stringify : Json → String

/-! ## State -/

/-- The array whose text is the snapshot; the texts of two arrays differ where the arrays do. -/
structure Snapshot where
  name : String
  description : String
  actions : List String
  resourceType : String
  conditionsText : String
  deriving DecidableEq

structure FormState where
  name : String
  description : String
  actions : List String
  resourceType : String
  conditionsEnabled : Bool
  conditionsText : String
  initialSnapshot : Snapshot

structure PolicyFormValues where
  name : String
  description : String
  actions : List String
  resourceType : String
  conditions : Option Json

/-- What the callbacks of one toggle have captured. -/
structure ActionChange where
  previousActions : List String
  previousSnapshot : Snapshot
  nextActions : List String
  nextSnapshot : Snapshot

/-- The condition of `!conditionsText.trim()`. -/
def isBlank (text : String) : Bool :=
  (trim text.toList).isEmpty

def allResourceTypesValue : String := "*"

/-- The grid's own `toggle`. -/
def toggleValue (values : List String) (value : String) : List String :=
  if values.contains value then values.filter (· != value) else values ++ [value]

namespace FormState

variable (json : JsonText) (form : FormState)

def fields : Snapshot :=
  ⟨form.name, form.description, form.actions, form.resourceType, form.conditionsText⟩

/-- The form of a policy, or the empty one. -/
def opened (policy : Option PolicyRead) : FormState :=
  let initial : Snapshot :=
    { name := (policy.map PolicyRead.name).getD ""
      description := (policy.bind PolicyRead.description).getD ""
      actions := (policy.map PolicyRead.actions).getD []
      resourceType := (policy.map PolicyRead.resourceType).getD ""
      conditionsText := (policy.map fun policy =>
        if policy.conditions.isNull then "" else json.stringify policy.conditions).getD "" }
  { name := initial.name
    description := initial.description
    actions := initial.actions
    resourceType := initial.resourceType
    conditionsEnabled := policy.any fun policy => !policy.conditions.isNull
    conditionsText := initial.conditionsText
    initialSnapshot := initial }

def isDirty : Bool :=
  form.fields != form.initialSnapshot

/-- Whether the form is left without a confirmation. -/
def requestExit : Bool :=
  !form.isDirty

def actionChange (nextActions : List String) : ActionChange where
  previousActions := form.actions
  previousSnapshot := form.initialSnapshot
  nextActions := nextActions
  nextSnapshot := { form.fields with actions := nextActions }

def applyChange (change : ActionChange) : FormState :=
  { form with actions := change.nextActions, initialSnapshot := change.nextSnapshot }

def rollback (change : ActionChange) : FormState :=
  { form with actions := change.previousActions, initialSnapshot := change.previousSnapshot }

/-- The new state, and whether a toast offers to undo it. -/
def handleResourceTypeChange (catalog : List PermissionCatalogEntry) (value : String) :
    FormState × Bool :=
  let valid := (catalog.filter fun entry =>
    value == allResourceTypesValue || entry.resourceType == value).map PermissionCatalogEntry.action
  let kept := form.actions.filter valid.contains
  ({ form with resourceType := value, actions := kept }, kept.length < form.actions.length)

def conditionsError : Bool :=
  form.conditionsEnabled && !isBlank form.conditionsText &&
    match json.parse form.conditionsText with
    | some (.obj _ _) => false
    | _ => true

/-- The conditions on screen: none where they are switched off or blank. -/
def conditions : Option Json :=
  if form.conditionsEnabled && !isBlank form.conditionsText then json.parse form.conditionsText
  else none

def values : PolicyFormValues :=
  ⟨form.name, form.description, form.actions, form.resourceType, form.conditions json⟩

def handleSubmit : Option PolicyFormValues :=
  if form.conditionsError json then none else some (form.values json)

end FormState

end MysticAuth.Policies
