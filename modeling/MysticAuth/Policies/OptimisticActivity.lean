import Mathlib.Logic.Function.Basic
import MysticAuth.Interleaving.Actions
import MysticAuth.Mutations.MutationObject

/-!
# The switch of a policy

A click on the switch lays an override over the fetched list, which only the
reported failure of that click removes: not a success, not an undo, and not a
refetch.
-/

set_option autoImplicit false

namespace MysticAuth.Policies

open Mutations Interleaving

/-! ## State -/

inductive StatusCallbacks where
  | toggle (policyName : String) (nextActive : Bool)
  | undo
  deriving DecidableEq

/-- `server` is what is stored, `serverPolicies` what was fetched last.  `refetched` says whether that
was after the last answer, and after what else has changed the server. -/
structure PoliciesPage where
  server : String → Bool
  serverPolicies : String → Bool
  optimisticActiveStates : String → Option Bool
  statusMutation : MutationObject (String × Bool) StatusCallbacks
  undoToasts : List (String × Bool)
  refetched : Bool

inductive StatusAction where
  | toggle (policyName : String)
  | undo (index : Nat)
  | serve (ticket : Ticket) (accepted : Bool)
  | settle (ticket : Ticket)
  | refetch
  | changeElsewhere (policyName : String) (isActive : Bool)

namespace PoliciesPage

variable (page : PoliciesPage)

/-- `is_active` of `policies`. -/
def isActive (policyName : String) : Bool :=
  (page.optimisticActiveStates policyName).getD (page.serverPolicies policyName)

def togglingName : Option String :=
  page.statusMutation.latest.map fun latest => latest.1.payload.1

/-! ## Steps -/

def handleToggleActive (policyName : String) : PoliciesPage :=
  let nextActive := !page.isActive policyName
  { page with
    optimisticActiveStates :=
      Function.update page.optimisticActiveStates policyName (some nextActive)
    statusMutation :=
      page.statusMutation.mutate (policyName, nextActive) (.toggle policyName nextActive) }

def undo (policyName : String) (nextActive : Bool) (index : Nat) : PoliciesPage :=
  { page with
    statusMutation := page.statusMutation.mutate (policyName, !nextActive) .undo
    undoToasts := page.undoToasts.eraseIdx index }

/-- The server's row changes, which the list does not show before it is fetched again. -/
def store (policyName : String) (isActive : Bool) : PoliciesPage :=
  { page with
    server := Function.update page.server policyName isActive
    refetched := false }

def runCallbacks (accepted : Bool) : StatusCallbacks → PoliciesPage
  | .toggle policyName nextActive =>
      if accepted then { page with undoToasts := (policyName, nextActive) :: page.undoToasts }
      else
        { page with
          optimisticActiveStates := Function.update page.optimisticActiveStates policyName none }
  | .undo => page

def settle (result : Option (Bool × StatusCallbacks))
    (statusMutation : MutationObject (String × Bool) StatusCallbacks) : PoliciesPage :=
  match result with
  | some (accepted, callbacks) =>
      { page with statusMutation, refetched := false }.runCallbacks accepted callbacks
  | none => { page with statusMutation, refetched := false }

/-- The switch of a policy is disabled while the latest update is one of it. -/
def step (page : PoliciesPage) : StatusAction → Option PoliciesPage
  | .toggle policyName =>
      if page.togglingName = some policyName then none else some (page.handleToggleActive policyName)
  | .undo index =>
      page.undoToasts[index]?.map fun (policyName, nextActive) =>
        page.undo policyName nextActive index
  | .serve ticket accepted =>
      (page.statusMutation.serve ticket accepted).map fun ((policyName, isActive), statusMutation) =>
        let served := { page with statusMutation }
        if accepted then served.store policyName isActive else served
  | .settle ticket =>
      (page.statusMutation.settle ticket).map fun (result, statusMutation) =>
        page.settle result statusMutation
  | .refetch => some { page with serverPolicies := page.server, refetched := true }
  | .changeElsewhere policyName isActive => some (page.store policyName isActive)

/-- The page with a fetched list. -/
def opened (server : String → Bool) : PoliciesPage where
  server
  serverPolicies := server
  optimisticActiveStates := fun _ => none
  statusMutation := .fresh
  undoToasts := []
  refetched := true

/-! ## What may happen -/

/-- The latest update is this click, and its failure has not been reported yet. -/
def refusedClick (policyName : String) (nextActive : Bool) : Bool :=
  page.statusMutation.latest.any fun (call, callbacks) =>
    call.accepted == some false && callbacks == .toggle policyName nextActive

/-- An update to this value is still to be processed, or its failure to be reported. -/
def carried (policyName : String) (isActive : Bool) : Bool :=
  0 < page.statusMutation.waiting (policyName, isActive) || page.refusedClick policyName isActive

/-- The server may take over a value that the override shows, or that is followed by it. -/
def mayStore (policyName : String) (isActive : Bool) : Bool :=
  (page.optimisticActiveStates policyName).all fun shown =>
    shown == isActive || page.carried policyName shown

/-- It may refuse the latest click, and what the override does not rely on. -/
def mayRefuse (ticket : Ticket) (policyName : String) (isActive : Bool) : Bool :=
  (ticket == .latest && page.statusMutation.latest.any fun (_, callbacks) =>
    callbacks == .toggle policyName isActive) ||
  page.optimisticActiveStates policyName != some isActive || page.server policyName == isActive ||
  2 ≤ page.statusMutation.waiting (policyName, isActive) || page.refusedClick policyName isActive

/-- The callbacks of the latest update may be dropped, unless a failure that they would report
leaves an override that the server does not have. -/
def mayMutate : Bool :=
  page.statusMutation.latest.all fun (call, callbacks) =>
    match call.accepted, callbacks with
    | some false, .toggle policyName nextActive =>
        page.optimisticActiveStates policyName != some nextActive ||
          page.server policyName == nextActive ||
          0 < page.statusMutation.waiting (policyName, nextActive)
    | _, _ => true

def orderly : StatusAction → Bool
  | .toggle _ | .undo _ => page.mayMutate
  | .serve ticket accepted =>
      (page.statusMutation.serve ticket accepted).all fun ((policyName, isActive), _) =>
        if accepted then page.mayStore policyName isActive
        else page.mayRefuse ticket policyName isActive
  | .changeElsewhere policyName isActive => page.mayStore policyName isActive
  | _ => true

end PoliciesPage

/-! ## Overrides -/

/-- An override is what is stored, or is carried by an update in flight; a list fetched after the last
change is what is stored. -/
structure Covered (page : PoliciesPage) : Prop where
  override : ∀ policyName isActive, page.optimisticActiveStates policyName = some isActive →
    page.server policyName = isActive ∨ page.carried policyName isActive = true
  list : page.refetched = true → ∀ policyName,
    page.serverPolicies policyName = page.server policyName

namespace Covered

variable {page next : PoliciesPage} {policyName : String} {isActive : Bool}

theorem refusedClick_iff : page.refusedClick policyName isActive = true ↔
    ∃ payload, page.statusMutation.latest =
      some (⟨payload, some false⟩, .toggle policyName isActive) := by
  rw [PoliciesPage.refusedClick]
  rcases page.statusMutation.latest with _ | ⟨⟨payload, accepted⟩, callbacks⟩
  · simp
  · simp

theorem carried_iff : page.carried policyName isActive = true ↔
    0 < page.statusMutation.waiting (policyName, isActive) ∨
      ∃ payload, page.statusMutation.latest =
        some (⟨payload, some false⟩, .toggle policyName isActive) := by
  rw [PoliciesPage.carried, Bool.or_eq_true, decide_eq_true_eq, refusedClick_iff]

theorem opened (server : String → Bool) : Covered (.opened server) where
  override _ _ overridden := by cases overridden
  list _ _ := rfl

/-- A new update drops the callbacks of the one before. -/
theorem of_mutate (covered : Covered page) (allowed : page.mayMutate = true)
    (overridden : page.optimisticActiveStates policyName = some isActive)
    (payload : String × Bool) (callbacks : StatusCallbacks) :
    page.server policyName = isActive ∨
      0 < (page.statusMutation.mutate payload callbacks).waiting (policyName, isActive) := by
  rw [MutationObject.waiting_mutate]
  rcases covered.override policyName isActive overridden with stored | carried
  · exact Or.inl stored
  · rcases carried_iff.mp carried with waiting | ⟨asked, refused⟩
    · right
      omega
    · simp only [PoliciesPage.mayMutate, refused, Option.all_some, Bool.or_eq_true, bne_iff_ne,
        beq_iff_eq, decide_eq_true_eq] at allowed
      rcases allowed with (other | stored) | waiting
      · exact absurd overridden other
      · exact Or.inl stored
      · right
        omega

theorem toggle (covered : Covered page) (allowed : page.mayMutate = true) (policyName : String) :
    Covered (page.handleToggleActive policyName) where
  override other shown overridden := by
    by_cases same : other = policyName
    · subst same
      simp only [PoliciesPage.handleToggleActive, Function.update_self, Option.some.injEq]
        at overridden
      right
      rw [carried_iff]
      left
      simp only [PoliciesPage.handleToggleActive, MutationObject.waiting_mutate, overridden, if_true]
      omega
    · simp only [PoliciesPage.handleToggleActive, Function.update_of_ne same] at overridden
      exact (covered.of_mutate allowed overridden _ _).imp_right fun waiting =>
        carried_iff.mpr (Or.inl waiting)
  list := covered.list

theorem undo (covered : Covered page) (allowed : page.mayMutate = true) (policyName : String)
    (nextActive : Bool) (index : Nat) : Covered (page.undo policyName nextActive index) where
  override _ _ overridden :=
    (covered.of_mutate allowed overridden _ _).imp_right fun waiting =>
      carried_iff.mpr (Or.inl waiting)
  list := covered.list

/-- The server takes over a value; what carries another override stays in flight. -/
theorem store (covered : Covered page) {statusMutation : MutationObject (String × Bool) StatusCallbacks}
    (allowed : page.mayStore policyName isActive = true)
    (kept : ∀ other shown, (other, shown) ≠ (policyName, isActive) →
      page.carried other shown = true →
        { page with statusMutation : PoliciesPage }.carried other shown = true) :
    Covered ({ page with statusMutation }.store policyName isActive) where
  override other shown overridden := by
    by_cases same : other = policyName
    · subst same
      simp only [PoliciesPage.store, Function.update_self]
      rw [PoliciesPage.mayStore, show page.optimisticActiveStates other = some shown from overridden,
        Option.all_some, Bool.or_eq_true, beq_iff_eq] at allowed
      by_cases equal : shown = isActive
      · exact Or.inl equal.symm
      · refine Or.inr (kept other shown ?_ (allowed.resolve_left equal))
        exact fun pair => equal (Prod.mk.inj pair).2
    · simp only [PoliciesPage.store, Function.update_of_ne same]
      refine (covered.override other shown overridden).imp_right fun carried => ?_
      exact kept other shown (fun pair => same (Prod.mk.inj pair).1) carried
  list stale := by cases stale

/-- A served request takes nothing from what carries another override. -/
theorem carried_of_serve {ticket : Ticket} {accepted : Bool}
    {statusMutation : MutationObject (String × Bool) StatusCallbacks}
    (served : page.statusMutation.serve ticket accepted =
      some ((policyName, isActive), statusMutation)) {other : String} {shown : Bool}
    (differs : (other, shown) ≠ (policyName, isActive)) (carried : page.carried other shown = true) :
    { page with statusMutation : PoliciesPage }.carried other shown = true := by
  have counted := MutationObject.waiting_serve served (other, shown)
  rw [if_neg (Ne.symm differs)] at counted
  rw [carried_iff] at carried ⊢
  rcases carried with waiting | ⟨payload, refused⟩
  · left
    show 0 < statusMutation.waiting (other, shown)
    omega
  · exact Or.inr ⟨payload, (MutationObject.latest_kept_of_serve served refused).trans refused⟩

/-- A refusal leaves an override uncovered unless it is a click's, whose failure will be reported,
or something else covers it. -/
theorem serve_refused (covered : Covered page) {ticket : Ticket}
    {statusMutation : MutationObject (String × Bool) StatusCallbacks}
    (served : page.statusMutation.serve ticket false =
      some ((policyName, isActive), statusMutation))
    (allowed : page.mayRefuse ticket policyName isActive = true) :
    Covered { page with statusMutation } := by
  refine ⟨fun other shown overridden => ?_, covered.list⟩
  rcases covered.override other shown overridden with stored | carried
  · exact Or.inl stored
  · by_cases same : (other, shown) = (policyName, isActive)
    · obtain ⟨rfl, rfl⟩ := Prod.mk.inj same
      have counted := MutationObject.waiting_serve served (other, shown)
      rw [if_pos rfl] at counted
      simp only [PoliciesPage.mayRefuse, Bool.or_eq_true, Bool.and_eq_true, beq_iff_eq, bne_iff_ne,
        decide_eq_true_eq] at allowed
      rw [carried_iff]
      rcases allowed with (((⟨rfl, isClick⟩ | other) | stored) | twice) | refused
      · rcases MutationObject.serve_cases served with
          ⟨_, callbacks, unserved, answered⟩ | ⟨⟨index, isSuperseded⟩, _⟩
        · obtain rfl : callbacks = .toggle other shown := by
            simpa [unserved] using isClick
          exact Or.inr (Or.inr ⟨_, answered⟩)
        · cases isSuperseded
      · exact absurd overridden other
      · exact Or.inl stored
      · right
        left
        show 0 < statusMutation.waiting (other, shown)
        omega
      · obtain ⟨payload, found⟩ := refusedClick_iff.mp refused
        exact Or.inr (Or.inr ⟨payload, (MutationObject.latest_kept_of_serve served found).trans found⟩)
    · exact Or.inr (carried_of_serve served same carried)

theorem serve (covered : Covered page) {ticket : Ticket} {accepted : Bool}
    {statusMutation : MutationObject (String × Bool) StatusCallbacks}
    (served : page.statusMutation.serve ticket accepted =
      some ((policyName, isActive), statusMutation))
    (allowed : page.orderly (.serve ticket accepted) = true) :
    Covered (if accepted then { page with statusMutation }.store policyName isActive
      else { page with statusMutation }) := by
  simp only [PoliciesPage.orderly, served, Option.all_some] at allowed
  cases accepted with
  | true => exact covered.store allowed fun _ _ differs => carried_of_serve served differs
  | false => exact covered.serve_refused served allowed

theorem settle (covered : Covered page) {ticket : Ticket}
    {result : Option (Bool × StatusCallbacks)}
    {statusMutation : MutationObject (String × Bool) StatusCallbacks}
    (settled : page.statusMutation.settle ticket = some (result, statusMutation)) :
    Covered (page.settle result statusMutation) := by
  have counted := MutationObject.waiting_settle settled
  rcases MutationObject.settle_cases settled with
    ⟨asked, accepted, callbacks, rfl, inFlight, _⟩ | ⟨rfl, same⟩
  · -- only the failure of a click is carried by the call that ends
    have kept (other : String) (shown : Bool) (carried : page.carried other shown = true)
        (click : ¬(accepted = false ∧ callbacks = .toggle other shown)) :
        0 < statusMutation.waiting (other, shown) := by
      rw [counted]
      rcases carried_iff.mp carried with waiting | ⟨payload, refused⟩
      · exact waiting
      · rw [inFlight] at refused
        simp only [Option.some.injEq, Prod.mk.injEq, Call.mk.injEq] at refused
        exact absurd ⟨refused.1.2, refused.2⟩ click
    match accepted, callbacks with
    | true, .toggle policyName nextActive | _, .undo =>
      refine ⟨fun other shown overridden => ?_, fun stale => by cases stale⟩
      exact (covered.override other shown overridden).imp_right fun carried =>
        carried_iff.mpr (Or.inl (kept other shown carried (by simp)))
    | false, .toggle policyName nextActive =>
      refine ⟨fun other shown overridden => ?_, fun stale => by cases stale⟩
      by_cases same : other = policyName
      · subst same
        simp [PoliciesPage.settle, PoliciesPage.runCallbacks] at overridden
      · simp only [PoliciesPage.settle, PoliciesPage.runCallbacks, Bool.false_eq_true, if_false,
          Function.update_of_ne same] at overridden
        refine (covered.override other shown overridden).imp_right fun carried => ?_
        refine carried_iff.mpr (Or.inl (kept other shown carried ?_))
        rintro ⟨_, click⟩
        exact same (StatusCallbacks.toggle.inj click).1.symm
  · refine ⟨fun other shown overridden => ?_, fun stale => by cases stale⟩
    refine (covered.override other shown overridden).imp_right fun carried => ?_
    rw [carried_iff] at carried ⊢
    simpa only [PoliciesPage.settle, counted, same] using carried

theorem step (covered : Covered page) {action : StatusAction} (orderly : page.orderly action = true)
    (taken : page.step action = some next) : Covered next := by
  cases action with
  | toggle policyName =>
    obtain ⟨_, rfl⟩ := Option.ite_none_left_eq_some.mp taken |>.imp_right Option.some.inj
    exact covered.toggle orderly policyName
  | undo index =>
    obtain ⟨⟨policyName, nextActive⟩, _, rfl⟩ := Option.map_eq_some_iff.mp taken
    exact covered.undo orderly policyName nextActive index
  | serve ticket accepted =>
    obtain ⟨⟨⟨policyName, isActive⟩, statusMutation⟩, served, rfl⟩ := Option.map_eq_some_iff.mp taken
    exact covered.serve served orderly
  | settle ticket =>
    obtain ⟨⟨result, statusMutation⟩, settled, rfl⟩ := Option.map_eq_some_iff.mp taken
    exact covered.settle settled
  | refetch =>
    obtain rfl := Option.some.inj taken
    exact ⟨covered.override, fun _ _ => rfl⟩
  | changeElsewhere policyName isActive =>
    obtain rfl := Option.some.inj taken
    exact covered.store orderly fun _ _ _ carried => carried

end Covered

/-- Where overrides are only contradicted by what they outlive, the switches show what is stored, as
soon as no update is in flight and the list is fetched again. -/
theorem switches_converge (server : String → Bool) (actions : List StatusAction)
    (page : PoliciesPage)
    (run : Follows PoliciesPage.step (fun page action => page.orderly action = true)
      (.opened server) actions page)
    (idle : page.statusMutation.Idle) (refetched : page.refetched = true) (policyName : String) :
    page.isActive policyName = page.server policyName := by
  have covered : Covered page :=
    run.preserves Covered (.opened server) fun _ _ _ _ orderly taken kept =>
      kept.step orderly taken
  rw [PoliciesPage.isActive]
  cases overridden : page.optimisticActiveStates policyName with
  | none => exact covered.list refetched policyName
  | some isActive =>
    rcases covered.override policyName isActive overridden with stored | carried
    · exact stored.symm
    · rcases Covered.carried_iff.mp carried with waiting | ⟨_, refused⟩
      · simp [MutationObject.waiting, MutationObject.calls, idle.1, idle.2] at waiting
      · rw [idle.1] at refused
        cases refused

/-! ## An undo -/

def allActive : String → Bool :=
  fun _ => true

/-- Two policies are deactivated, the second of them without success, and a third elsewhere. -/
def orderlyClicks : List StatusAction :=
  [.toggle "readers", .serve .latest true, .settle .latest, .toggle "listers",
    .serve .latest false, .settle .latest, .changeElsewhere "managers" false, .refetch]

/-- A policy is deactivated, which is undone. -/
def undoneClick : List StatusAction :=
  [.toggle "readers", .serve .latest true, .settle .latest, .undo 0, .serve .latest true,
    .settle .latest, .refetch]

theorem switches_converge_readers :
    ∃ page, performAll PoliciesPage.step (.opened allActive) orderlyClicks = some page ∧
      page.isActive "readers" = page.server "readers" ∧ page.server "readers" = false := by
  refine ⟨_, rfl, switches_converge allActive orderlyClicks _ ?_ ⟨rfl, rfl⟩ rfl "readers", rfl⟩
  exact follows_of_permitted orderlyClicks rfl (by rfl)

theorem undone_click_differs :
    ∃ page, performAll PoliciesPage.step (.opened allActive) undoneClick = some page ∧
      page.statusMutation.Idle ∧ page.refetched = true ∧ page.isActive "readers" = false ∧
      page.server "readers" = true :=
  ⟨_, rfl, ⟨rfl, rfl⟩, rfl, rfl, rfl⟩

end MysticAuth.Policies
