import MysticAuth.Policies.PolicyFormSave

/-!
# Leaving the policy form

The snapshot is what was loaded or saved as long as actions are toggled where
the form saves them at once and nothing else is unsaved.
-/

set_option autoImplicit false

namespace MysticAuth.Policies

open Python Mutations Interleaving

/-! ## What may happen -/

/-- The part of a snapshot that a saved toggle does not save. -/
def Snapshot.others (snapshot : Snapshot) : Snapshot :=
  { snapshot with actions := [] }

/-- The snapshot that a failed update puts back. -/
def UpdateCallbacks.restoredSnapshot : UpdateCallbacks → Snapshot
  | .toggle change => change.previousSnapshot
  | .undo change => change.nextSnapshot

/-- Actions are toggled where the form saves them at once and the other fields are as in the
snapshot, and a toggle is undone that was made on the actions of its snapshot.  An update is accepted
in turn, and is reported as failed where the snapshot it puts back has the actions stored. -/
def Session.considerate (session : Session) : Action → Bool
  | .toggle _ =>
      session.savesActions && session.form.fields.others == session.form.initialSnapshot.others
  | .undo index =>
      session.undoToasts[index]?.all fun change =>
        change.previousSnapshot.actions == change.previousActions
  | .serve ticket true =>
      (session.updates.serve ticket true).all fun (payload, _) =>
        InTurn session.form.initialSnapshot.actions payload session.updates ticket
  | .settle ticket =>
      (session.updates.settle ticket).all fun (result, _) =>
        match result with
        | some (false, callbacks) => callbacks.restoredSnapshot.actions == session.saved.actions
        | _ => true
  | _ => true

/-- The text of the policy's conditions is read back as these, by `JSON.parse`. -/
def Readable (json : JsonText) (policy : Option PolicyRead) : Prop :=
  ∀ loaded, policy = some loaded → loaded.conditions.isNull = false →
    isBlank (json.stringify loaded.conditions) = false ∧
      json.parse (json.stringify loaded.conditions) = some loaded.conditions

/-! ## Steps -/

/-- The snapshot has the actions stored, but for the latest update, and the other fields as loaded;
so has every snapshot that can be put back. -/
structure Honest (loaded : Session) (session : Session) : Prop where
  noRepetitions : NoRepetitions session
  others : session.form.initialSnapshot.others = loaded.form.initialSnapshot.others
  saved : session.saved = { loaded.saved with actions := session.saved.actions }
  callbacks : ∀ call callbacks, session.updates.latest = some (call, callbacks) →
    callbacks.change.previousSnapshot.others = loaded.form.initialSnapshot.others ∧
      callbacks.change.nextSnapshot.others = loaded.form.initialSnapshot.others
  undoToasts : ∀ change ∈ session.undoToasts,
    change.previousSnapshot.others = loaded.form.initialSnapshot.others ∧
      change.nextSnapshot.others = loaded.form.initialSnapshot.others
  agrees : Agrees session.form.initialSnapshot.actions session.saved.actions session.updates

namespace Honest

variable {loaded session next : Session}

theorem opened (json : JsonText) (policy : Option PolicyRead) :
    Honest (.opened json policy) (.opened json policy) where
  noRepetitions := .opened json policy
  others := rfl
  saved := rfl
  callbacks := by simp [Session.opened, MutationObject.fresh]
  undoToasts := by simp [Session.opened]
  agrees := rfl

/-- The fields on screen play no part. -/
theorem of_form (honest : Honest loaded session) (form : FormState)
    (nodup : form.actions.Nodup) (same : form.initialSnapshot = session.form.initialSnapshot) :
    Honest loaded { session with form } where
  noRepetitions := honest.noRepetitions.of_form form nodup
  others := same ▸ honest.others
  saved := honest.saved
  callbacks := honest.callbacks
  undoToasts := honest.undoToasts
  agrees := same ▸ honest.agrees

theorem toggle (honest : Honest loaded session) {action : String}
    (considerate : session.considerate (.toggle action) = true) :
    Honest loaded (session.handleActionsChange (toggleValue session.form.actions action)) := by
  simp only [Session.considerate, Bool.and_eq_true, beq_iff_eq] at considerate
  obtain ⟨saves, asSnapshot⟩ := considerate
  have noRepetitions := honest.noRepetitions.handleActionsChange
    (toggleValue_nodup honest.noRepetitions.form action)
  have nextOthers : session.form.fields.others = loaded.form.initialSnapshot.others :=
    asSnapshot.trans honest.others
  simp only [Session.handleActionsChange, saves, if_true] at noRepetitions ⊢
  exact {
    noRepetitions
    others := nextOthers
    saved := honest.saved
    callbacks := by
      intro call callbacks latest
      obtain ⟨_, rfl⟩ := Prod.mk.inj (Option.some.inj latest)
      exact ⟨honest.others, nextOthers⟩
    undoToasts := honest.undoToasts
    agrees := Agrees.mutate _ _ _ _ }

theorem undo (honest : Honest loaded session) {change : ActionChange} {index : Nat}
    (toast : session.undoToasts[index]? = some change)
    (considerate : session.considerate (.undo index) = true) :
    Honest loaded (session.undo change index) := by
  have captured := honest.undoToasts change (List.mem_of_getElem? toast)
  simp only [Session.considerate, toast, Option.all_some, beq_iff_eq] at considerate
  exact {
    noRepetitions := honest.noRepetitions.undo toast
    others := captured.1
    saved := honest.saved
    callbacks := by
      intro call callbacks latest
      obtain ⟨_, rfl⟩ := Prod.mk.inj (Option.some.inj latest)
      exact captured
    undoToasts := fun other listed => honest.undoToasts other (List.mem_of_mem_eraseIdx listed)
    agrees := by
      simp only [Session.undo, FormState.rollback, considerate]
      exact Agrees.mutate _ _ _ _ }

theorem serve (honest : Honest loaded session) {ticket : Ticket} {accepted : Bool}
    {payload : List String} {updates : MutationObject (List String) UpdateCallbacks}
    (served : session.updates.serve ticket accepted = some (payload, updates))
    (noRepetitions : NoRepetitions (session.serve payload accepted updates))
    (considerate : session.considerate (.serve ticket accepted) = true) :
    Honest loaded (session.serve payload accepted updates) where
  noRepetitions := noRepetitions
  others := honest.others
  saved := by
    simp only [Session.serve]
    split
    · rw [honest.saved]
    · exact honest.saved
  callbacks call callbacks latest := by
    obtain ⟨call', inFlight⟩ := MutationObject.latest_of_serve served latest
    exact honest.callbacks call' callbacks inFlight
  undoToasts := honest.undoToasts
  agrees := by
    cases accepted with
    | false => exact honest.agrees.refuse served
    | true =>
      have once := honest.noRepetitions.payloads payload (MutationObject.payloads_serve served).1
      simp only [Session.considerate, served, Option.all_some] at considerate
      simp only [Session.serve, if_true, dedupeActions_of_nodup once]
      exact honest.agrees.accept served considerate

theorem settle (honest : Honest loaded session) {ticket : Ticket}
    {result : Option (Bool × UpdateCallbacks)}
    {updates : MutationObject (List String) UpdateCallbacks}
    (settled : session.updates.settle ticket = some (result, updates))
    (noRepetitions : NoRepetitions (session.settle result updates))
    (considerate : session.considerate (.settle ticket) = true) :
    Honest loaded (session.settle result updates) := by
  simp only [Session.considerate, settled, Option.all_some] at considerate
  have remaining : ∀ call ran, updates.latest = some (call, ran) →
      ran.change.previousSnapshot.others = loaded.form.initialSnapshot.others ∧
        ran.change.nextSnapshot.others = loaded.form.initialSnapshot.others :=
    fun call ran latest => honest.callbacks call ran (MutationObject.latest_of_settle settled latest)
  rcases MutationObject.settle_cases settled with
    ⟨_, accepted, callbacks, rfl, inFlight, _⟩ | ⟨rfl, _⟩
  · have captured := honest.callbacks _ _ inFlight
    match accepted, callbacks with
    | true, .toggle change =>
      refine ⟨noRepetitions, honest.others, honest.saved, remaining, ?_,
        honest.agrees.settle_accepted settled⟩
      intro other listed
      rcases List.mem_cons.mp listed with rfl | earlier
      · exact captured
      · exact honest.undoToasts other earlier
    | true, .undo change =>
      exact ⟨noRepetitions, honest.others, honest.saved, remaining, honest.undoToasts,
        honest.agrees.settle_accepted settled⟩
    | false, .toggle change =>
      have restored : change.previousSnapshot.actions = session.saved.actions :=
        beq_iff_eq.mp considerate
      refine ⟨noRepetitions, captured.1, honest.saved, remaining, honest.undoToasts, ?_⟩
      simp only [Session.settle, Session.runCallbacks, FormState.rollback, restored]
      exact Agrees.settle_refused settled _
    | false, .undo change =>
      have restored : change.nextSnapshot.actions = session.saved.actions :=
        beq_iff_eq.mp considerate
      refine ⟨noRepetitions, captured.2, honest.saved, remaining, honest.undoToasts, ?_⟩
      simp only [Session.settle, Session.runCallbacks, FormState.applyChange, restored]
      exact Agrees.settle_refused settled _
  · exact ⟨noRepetitions, honest.others, honest.saved, remaining, honest.undoToasts,
      honest.agrees.settle_ignored settled⟩

theorem step (honest : Honest loaded session) {action : Action}
    (considerate : session.considerate action = true) (taken : session.step action = some next) :
    Honest loaded next := by
  have noRepetitions := honest.noRepetitions.step taken
  cases action with
  | setName value | setDescription value | setConditionsEnabled value | setConditionsText value =>
    obtain rfl := Option.some.inj taken
    exact honest.of_form _ honest.noRepetitions.form rfl
  | toggle action =>
    obtain rfl := Option.some.inj taken
    exact honest.toggle considerate
  | undo index =>
    obtain ⟨change, toast, rfl⟩ := Option.map_eq_some_iff.mp taken
    exact honest.undo toast considerate
  | changeResourceType catalog value =>
    obtain rfl := Option.some.inj taken
    exact ⟨noRepetitions, honest.others, honest.saved, honest.callbacks, honest.undoToasts,
      honest.agrees⟩
  | undoResourceType index =>
    obtain ⟨cleared, _, rfl⟩ := Option.map_eq_some_iff.mp taken
    exact ⟨noRepetitions, honest.others, honest.saved, honest.callbacks, honest.undoToasts,
      honest.agrees⟩
  | serve ticket accepted =>
    obtain ⟨⟨payload, updates⟩, served, rest⟩ := Option.bind_eq_some_iff.mp taken
    obtain ⟨_, rfl⟩ := Option.ite_none_left_eq_some.mp rest |>.imp_right Option.some.inj
    exact honest.serve served noRepetitions considerate
  | settle ticket =>
    obtain ⟨⟨result, updates⟩, settled, rfl⟩ := Option.map_eq_some_iff.mp taken
    exact honest.settle settled noRepetitions considerate

end Honest

/-! ## The exit -/

theorem Snapshot.eq_of_others {first second : Snapshot} (others : first.others = second.others)
    (actions : first.actions = second.actions) : first = second := by
  cases first
  cases second
  simp_all [Snapshot.others]

/-- The conditions on screen are those loaded, if their text is and they are not switched off. -/
theorem conditions_of_loaded {json : JsonText} {policy : Option PolicyRead} {form : FormState}
    (readable : Readable json policy)
    (text : form.conditionsText = (FormState.opened json policy).initialSnapshot.conditionsText)
    (switchedOn : ∀ loaded, policy = some loaded → loaded.conditions.isNull = false →
      form.conditionsEnabled = true) :
    form.conditions json = (Session.opened json policy).saved.conditions := by
  have blank : isBlank "" = true := by decide
  rw [FormState.conditions, text]
  cases policy with
  | none => simp [FormState.opened, Session.opened, blank]
  | some loaded =>
    cases isNull : loaded.conditions.isNull with
    | true => simp [FormState.opened, Session.opened, isNull, blank]
    | false =>
      obtain ⟨solid, parsed⟩ := readable loaded rfl isNull
      simp [FormState.opened, Session.opened, isNull, switchedOn loaded rfl isNull, solid, parsed]

/-- The form is left without a confirmation with the values last loaded or saved, where every step
was considerate, the latest update is not undecided and loaded conditions are switched on. -/
theorem exit_discards_nothing (json : JsonText) (policy : Option PolicyRead)
    (readable : Readable json policy) (actions : List Action) (session : Session)
    (run : Follows Session.step (fun session action => session.considerate action = true)
      (.opened json policy) actions session)
    (decided : session.updates.undecided = false)
    (switchedOn : ∀ loaded, policy = some loaded → loaded.conditions.isNull = false →
      session.form.conditionsEnabled = true)
    (exits : session.form.requestExit = true) : session.form.values json = session.saved := by
  have honest : Honest (.opened json policy) session :=
    run.preserves (Honest (.opened json policy)) (.opened json policy)
      fun _ _ _ _ considerate taken kept => kept.step considerate taken
  have clean : session.form.fields = session.form.initialSnapshot := by
    simpa [FormState.requestExit, FormState.isDirty] using exits
  have asLoaded : session.form.fields =
      { (FormState.opened json policy).initialSnapshot with actions := session.saved.actions } := by
    refine Snapshot.eq_of_others ?_ ?_
    · rw [clean]
      exact honest.others
    · rw [clean]
      exact honest.agrees.of_decided decided
  obtain ⟨name, description, actions, resourceType, conditionsText⟩ := Snapshot.mk.inj asLoaded
  have conditions := conditions_of_loaded readable conditionsText switchedOn
  rw [honest.saved, FormState.values, name, description, actions, resourceType, conditions]
  rfl

/-! ## Edits that are lost -/

def listersRead : PolicyRead :=
  ⟨"listers", none, ["users:list_all"], "users", selfOnly, by decide⟩

/-- An action is toggled and saved before the name is edited, and the edit is taken back. -/
def consideredEdits : List Action :=
  [.toggle "users:read_own", .serve .latest true, .settle .latest, .setName "readers",
    .setName "listers"]

/-- The name is edited before an action is toggled and saved. -/
def edited : List Action :=
  [.setName "readers", .toggle "users:read_own", .serve .latest true, .settle .latest]

theorem exit_discards_nothing_listers :
    ∃ session, performAll Session.step (.opened selfOnlyJson (some listersRead)) consideredEdits
        = some session ∧ session.form.requestExit = true ∧
      session.form.values selfOnlyJson = session.saved := by
  refine ⟨_, rfl, rfl, ?_⟩
  refine exit_discards_nothing selfOnlyJson (some listersRead) ?_ consideredEdits _
    (follows_of_permitted consideredEdits rfl rfl) rfl (fun _ _ _ => rfl) rfl
  intro loaded isLoaded _
  obtain rfl := Option.some.inj isLoaded
  exact ⟨by decide, by rfl⟩

/-- Left without a confirmation are a new name and the removal of the conditions. -/
theorem edits_discarded :
    (∃ session, performAll Session.step (.opened selfOnlyJson (some listersRead)) edited
        = some session ∧ session.updates.Idle ∧ session.form.requestExit = true ∧
      session.form.name = "readers" ∧ session.saved.name = "listers") ∧
    ∃ session, performAll Session.step (.opened selfOnlyJson (some listersRead))
        [.setConditionsEnabled false] = some session ∧ session.updates.Idle ∧
      session.form.requestExit = true ∧ session.form.conditions selfOnlyJson = none ∧
      session.saved.conditions = some selfOnly :=
  ⟨⟨_, rfl, ⟨rfl, rfl⟩, rfl, rfl, rfl⟩, _, rfl, ⟨rfl, rfl⟩, rfl, rfl, rfl⟩

end MysticAuth.Policies
