import MysticAuth.Policies.EditSession

/-!
# Toggled actions converge

What the form shows and what is stored agree while updates are accepted in turn
and the failure of the latest puts back what is stored.
-/

set_option autoImplicit false

namespace MysticAuth.Policies

open Mutations Interleaving

/-! ## What may happen -/

/-- The operator only toggles actions and clicks on undo. -/
def Action.isToggling : Action → Bool
  | .toggle _ | .undo _ | .serve _ _ | .settle _ => true
  | _ => false

/-- What a failed update puts back on screen. -/
def UpdateCallbacks.restored : UpdateCallbacks → List String
  | .toggle change => change.previousActions
  | .undo change => change.nextActions

/-- An update is accepted in turn, and is reported as failed where the list that it was made on, or
that the change it undoes had led to, is the one stored. -/
def Session.orderly (session : Session) : Action → Bool
  | .serve ticket true =>
      (session.updates.serve ticket true).all fun (payload, _) =>
        InTurn session.form.actions payload session.updates ticket
  | .settle ticket =>
      (session.updates.settle ticket).all fun (result, _) =>
        match result with
        | some (false, callbacks) => callbacks.restored == session.saved.actions
        | _ => true
  | _ => true

/-! ## Steps -/

/-- The form and the server agree, but for the latest update. -/
structure Converging (session : Session) : Prop where
  edits : session.savesActions = true
  noRepetitions : NoRepetitions session
  agrees : Agrees session.form.actions session.saved.actions session.updates

namespace Converging

variable {session next : Session}

theorem opened (json : JsonText) (policy : PolicyRead) :
    Converging (.opened json (some policy)) where
  edits := rfl
  noRepetitions := .opened json (some policy)
  agrees := rfl

theorem toggle (converging : Converging session) (nextActions : List String) :
    (session.handleActionsChange nextActions).savesActions = true ∧
      Agrees (session.handleActionsChange nextActions).form.actions
        (session.handleActionsChange nextActions).saved.actions
        (session.handleActionsChange nextActions).updates := by
  refine ⟨converging.edits, ?_⟩
  simp only [Session.handleActionsChange, converging.edits, if_true]
  exact Agrees.mutate _ _ _ _

theorem serve (converging : Converging session) {ticket : Ticket} {accepted : Bool}
    {payload : List String} {updates : MutationObject (List String) UpdateCallbacks}
    (served : session.updates.serve ticket accepted = some (payload, updates))
    (orderly : session.orderly (.serve ticket accepted) = true) :
    Agrees session.form.actions (session.serve payload accepted updates).saved.actions updates := by
  cases accepted with
  | false => exact converging.agrees.refuse served
  | true =>
    have once := converging.noRepetitions.payloads payload (MutationObject.payloads_serve served).1
    simp only [Session.orderly, served, Option.all_some] at orderly
    simp only [Session.serve, if_true, dedupeActions_of_nodup once]
    exact converging.agrees.accept served orderly

theorem settle (converging : Converging session) {ticket : Ticket}
    {result : Option (Bool × UpdateCallbacks)}
    {updates : MutationObject (List String) UpdateCallbacks}
    (settled : session.updates.settle ticket = some (result, updates))
    (orderly : session.orderly (.settle ticket) = true) :
    Agrees (session.settle result updates).form.actions
      (session.settle result updates).saved.actions (session.settle result updates).updates := by
  simp only [Session.orderly, settled, Option.all_some] at orderly
  match result, settled, orderly with
  | none, settled, _ => exact converging.agrees.settle_ignored settled
  | some (true, .toggle change), settled, _ => exact converging.agrees.settle_accepted settled
  | some (true, .undo change), settled, _ => exact converging.agrees.settle_accepted settled
  | some (false, .toggle change), settled, orderly =>
    have restored : change.previousActions = session.saved.actions := beq_iff_eq.mp orderly
    simp only [Session.settle, Session.runCallbacks, FormState.rollback, restored]
    exact Agrees.settle_refused settled _
  | some (false, .undo change), settled, orderly =>
    have restored : change.nextActions = session.saved.actions := beq_iff_eq.mp orderly
    simp only [Session.settle, Session.runCallbacks, FormState.applyChange, restored]
    exact Agrees.settle_refused settled _

theorem step (converging : Converging session) {action : Action}
    (toggling : action.isToggling = true) (orderly : session.orderly action = true)
    (taken : session.step action = some next) : Converging next := by
  have noRepetitions := converging.noRepetitions.step taken
  cases action with
  | toggle action =>
    obtain rfl := Option.some.inj taken
    obtain ⟨edits, agrees⟩ := converging.toggle (toggleValue session.form.actions action)
    exact ⟨edits, noRepetitions, agrees⟩
  | undo index =>
    obtain ⟨change, _, rfl⟩ := Option.map_eq_some_iff.mp taken
    exact ⟨converging.edits, noRepetitions, Agrees.mutate _ _ _ _⟩
  | serve ticket accepted =>
    obtain ⟨⟨payload, updates⟩, served, rest⟩ := Option.bind_eq_some_iff.mp taken
    obtain ⟨_, rfl⟩ := Option.ite_none_left_eq_some.mp rest |>.imp_right Option.some.inj
    exact ⟨converging.edits, noRepetitions, converging.serve served orderly⟩
  | settle ticket =>
    obtain ⟨⟨result, updates⟩, settled, rfl⟩ := Option.map_eq_some_iff.mp taken
    refine ⟨?_, noRepetitions, converging.settle settled orderly⟩
    match result with
    | none | some (true, .toggle _) | some (true, .undo _) | some (false, .toggle _)
    | some (false, .undo _) => exact converging.edits
  | setName _ | setDescription _ | setConditionsEnabled _ | setConditionsText _
  | changeResourceType _ _ | undoResourceType _ => cases toggling

end Converging

/-- After toggles and undo clicks in which every update is accepted in turn and fails where it was
made on what is stored, the form shows what is stored as soon as no request is in flight. -/
theorem toggles_converge (json : JsonText) (policy : PolicyRead) (actions : List Action)
    (session : Session)
    (run : Follows Session.step
      (fun session action => (action.isToggling && session.orderly action) = true)
      (.opened json (some policy)) actions session)
    (idle : session.updates.Idle) : session.form.actions = session.saved.actions := by
  have converging : Converging session := by
    refine run.preserves Converging (.opened json policy) ?_
    intro before action after _ allowed taken kept
    obtain ⟨toggling, orderly⟩ := Bool.and_eq_true_iff.mp allowed
    exact kept.step toggling orderly taken
  exact converging.agrees.of_idle idle

/-! ## Where they do not -/

/-- The server refuses a request, or an answer arrives. -/
def Action.isRefusal : Action → Bool
  | .serve _ false | .settle _ => true
  | _ => false

/-- Without the latest, the requests in flight can all be refused, and nothing changes. -/
theorem drain_superseded (calls : List (Call (List String))) (session : Session)
    (inFlight : session.updates.superseded = calls) :
    ∃ rest, (∀ action ∈ rest, action.isRefusal = true) ∧
      performAll Session.step session rest =
        some { session with updates := { session.updates with superseded := [] } } := by
  induction calls generalizing session with
  | nil =>
    refine ⟨[], by simp, ?_⟩
    rw [← inFlight]
    rfl
  | cons call calls ih =>
    obtain ⟨rest, refusals, drained⟩ := ih
      { session with updates := { session.updates with superseded := calls } } rfl
    obtain ⟨payload, _ | accepted⟩ := call
    · refine ⟨.serve (.superseded 0) false :: .settle (.superseded 0) :: rest, ?_, ?_⟩
      · simpa [Action.isRefusal] using refusals
      · simpa [performAll, Session.step, MutationObject.serve, MutationObject.settle, inFlight,
          Session.serve, Session.settle] using drained
    · refine ⟨.settle (.superseded 0) :: rest, ?_, ?_⟩
      · simpa [Action.isRefusal] using refusals
      · simpa [performAll, Session.step, MutationObject.settle, inFlight, Session.settle]
          using drained

/-- With the latest call settled or accepted, the form ends as it is when the rest is refused. -/
theorem drain_refused (session : Session) (decided : session.updates.undecided = false) :
    ∃ rest last, (∀ action ∈ rest, action.isRefusal = true) ∧
      performAll Session.step session rest = some last ∧ last.updates.Idle ∧
      last.form = session.form ∧ last.saved = session.saved := by
  have settled : ∃ first next, (∀ action ∈ first, action.isRefusal = true) ∧
      performAll Session.step session first = some next ∧ next.updates.latest = none ∧
      next.form = session.form ∧ next.saved = session.saved := by
    rcases latest : session.updates.latest with _ | ⟨⟨payload, _ | _ | _⟩, callbacks⟩
    · exact ⟨[], session, by simp, rfl, latest, rfl, rfl⟩
    · simp [MutationObject.undecided, latest] at decided
    · simp [MutationObject.undecided, latest] at decided
    · let ended : MutationObject (List String) UpdateCallbacks :=
        { session.updates with latest := none }
      refine ⟨[.settle .latest], session.settle (some (true, callbacks)) ended, ?_, ?_, ?_⟩
      · simp [Action.isRefusal]
      · simp only [performAll, Session.step, MutationObject.settle, latest, Option.map_some,
          Option.bind_some, ended]
      · cases callbacks <;> exact ⟨rfl, rfl, rfl⟩
  obtain ⟨first, next, refusals, performed, noLatest, sameForm, sameSaved⟩ := settled
  obtain ⟨rest, refusals', drained⟩ := drain_superseded _ next rfl
  let drainedNext : Session := { next with updates := { next.updates with superseded := [] } }
  refine ⟨first ++ rest, drainedNext, ?_, ?_, ⟨noLatest, rfl⟩, sameForm, sameSaved⟩
  · intro action member
    exact (List.mem_append.mp member).elim (refusals action) (refusals' action)
  · rw [performAll_append, performed, Option.bind_some, drained]

/-- A disorderly answer leaves something else on screen than what is stored, if the requests that are
left are refused. -/
theorem disorderly_diverges {session next : Session} (converging : Converging session)
    {action : Action} (disorderly : session.orderly action = false)
    (taken : session.step action = some next) :
    ∃ rest last, (∀ action ∈ rest, action.isRefusal = true) ∧
      performAll Session.step next rest = some last ∧ last.updates.Idle ∧
      last.form.actions ≠ last.saved.actions := by
  have parted : next.updates.undecided = false ∧ next.form.actions ≠ next.saved.actions := by
    match action, disorderly, taken with
    | .serve ticket true, disorderly, taken =>
      obtain ⟨⟨payload, updates⟩, served, rest⟩ := Option.bind_eq_some_iff.mp taken
      obtain ⟨_, rfl⟩ := Option.ite_none_left_eq_some.mp rest |>.imp_right Option.some.inj
      have once := converging.noRepetitions.payloads payload
        (MutationObject.payloads_serve served).1
      simp only [Session.orderly, served, Option.all_some, InTurn, Bool.or_eq_false_iff] at disorderly
      obtain ⟨⟨notLatest, decided⟩, unequal⟩ := disorderly
      have differs : payload ≠ session.form.actions := by simpa using unequal
      rcases MutationObject.serve_cases served with ⟨rfl, _⟩ | ⟨_, same⟩
      · simp at notLatest
      · refine ⟨?_, ?_⟩
        · simpa only [Session.serve, MutationObject.undecided, same] using decided
        · simp only [Session.serve, if_true, dedupeActions_of_nodup once]
          exact differs.symm
    | .settle ticket, disorderly, taken =>
      obtain ⟨⟨result, updates⟩, settled, rfl⟩ := Option.map_eq_some_iff.mp taken
      simp only [Session.orderly, settled, Option.all_some] at disorderly
      rcases MutationObject.settle_cases settled with
        ⟨_, accepted, callbacks, rfl, _, ended⟩ | ⟨rfl, _⟩
      · cases accepted with
        | true => simp at disorderly
        | false =>
          have differs := beq_eq_false_iff_ne.mp disorderly
          have decided : updates.undecided = false := by rw [MutationObject.undecided, ended]; rfl
          cases callbacks <;> exact ⟨decided, differs⟩
      · simp at disorderly
  obtain ⟨rest, last, refusals, performed, idle, sameForm, sameSaved⟩ :=
    drain_refused next parted.1
  exact ⟨rest, last, refusals, performed, idle, by rw [sameForm, sameSaved]; exact parted.2⟩

/-! ## Toggles that overlap -/

def noJson : JsonText :=
  ⟨fun _ => none, fun _ => ""⟩

def readersPolicy : PolicyRead :=
  ⟨"readers", none, ["users:read_own"], "users", .null, by decide⟩

/-- Two toggles overlap and are accepted in turn; a third is refused, and the second undone. -/
def overlappingToggles : List Action :=
  [.toggle "users:list_all", .toggle "users:reactivate", .serve (.superseded 0) true,
    .serve .latest true, .settle .latest, .settle (.superseded 0), .toggle "users:delete_any",
    .serve .latest false, .settle .latest, .undo 0, .serve .latest true, .settle .latest]

/-- Both toggles are refused, and only the second is put back. -/
def refusedToggles : List Action :=
  [.toggle "users:list_all", .toggle "users:reactivate", .serve (.superseded 0) false,
    .serve .latest false, .settle (.superseded 0), .settle .latest]

theorem toggles_converge_overlapping :
    ∃ session, performAll Session.step (.opened noJson (some readersPolicy)) overlappingToggles
        = some session ∧ session.form.actions = session.saved.actions := by
  refine ⟨_, rfl, toggles_converge noJson readersPolicy overlappingToggles _ ?_ ⟨rfl, rfl⟩⟩
  exact follows_of_permitted overlappingToggles rfl (by rfl)

theorem refused_toggles_differ :
    ∃ session, performAll Session.step (.opened noJson (some readersPolicy)) refusedToggles
        = some session ∧ (∀ action ∈ refusedToggles, action.isToggling = true) ∧
      session.updates.Idle ∧ session.form.actions = ["users:read_own", "users:list_all"] ∧
      session.saved.actions = ["users:read_own"] := by
  refine ⟨_, rfl, ?_, ⟨rfl, rfl⟩, rfl, rfl⟩
  simp [refusedToggles, Action.isToggling]

end MysticAuth.Policies
