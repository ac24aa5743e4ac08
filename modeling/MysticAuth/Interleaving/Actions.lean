import Mathlib.Data.List.Basic

/-!
# Machines that are told what to do

A step of the machine is a function of the chosen action, which may be
impossible.  A run is the list of the actions that were chosen, oldest first.
-/

set_option autoImplicit false

namespace Interleaving

variable {State Action : Type} (step : State → Action → Option State)

/-- Where a list of actions leads, if all of them are possible. -/
def performAll : State → List Action → Option State
  | state, [] => some state
  | state, action :: rest => (step state action).bind fun next => performAll next rest

/-- Every action of the run passes the check in the state in which it is taken. -/
def allPermitted (check : State → Action → Bool) : State → List Action → Bool
  | _, [] => true
  | state, action :: rest =>
      check state action && (step state action).all fun next => allPermitted check next rest

/-- A run whose actions are permitted where they are taken. -/
inductive Follows (permits : State → Action → Prop) : State → List Action → State → Prop
  | nil (state : State) : Follows permits state [] state
  | cons {state next last : State} {action : Action} {rest : List Action}
      (allowed : permits state action) (taken : step state action = some next)
      (follows : Follows permits next rest last) :
      Follows permits state (action :: rest) last

variable {step} {permits : State → Action → Prop}

theorem Follows.split {state last : State} {first second : List Action}
    (run : Follows step permits state (first ++ second) last) :
    ∃ middle, Follows step permits state first middle ∧
      Follows step permits middle second last := by
  induction first generalizing state with
  | nil => exact ⟨state, .nil state, run⟩
  | cons action first ih =>
    cases run with
    | cons allowed taken follows =>
      obtain ⟨middle, before, after⟩ := ih follows
      exact ⟨middle, .cons allowed taken before, after⟩

/-- What every permitted step keeps holds at the end of a run; the run's actions are known to be
among those of the list. -/
theorem Follows.preserves {state last : State} {actions : List Action}
    (run : Follows step permits state actions last) (invariant : State → Prop)
    (holds : invariant state)
    (kept : ∀ before action after, action ∈ actions → permits before action →
      step before action = some after → invariant before → invariant after) : invariant last := by
  induction run with
  | nil state => exact holds
  | cons allowed taken follows ih =>
    refine ih (kept _ _ _ List.mem_cons_self allowed taken holds) ?_
    intro before action after member
    exact kept before action after (List.mem_cons_of_mem _ member)

theorem performAll_append (state : State) (first second : List Action) :
    performAll step state (first ++ second) =
      (performAll step state first).bind fun next => performAll step next second := by
  induction first generalizing state with
  | nil => rfl
  | cons action first ih =>
    simp only [List.cons_append, performAll, Option.bind_assoc, ih]

theorem follows_of_performed (actions : List Action) {state last : State}
    (performed : performAll step state actions = some last) :
    Follows step (fun _ _ => True) state actions last := by
  induction actions generalizing state with
  | nil =>
    obtain rfl := Option.some.inj performed
    exact .nil state
  | cons action rest ih =>
    obtain ⟨next, taken, performed'⟩ := Option.bind_eq_some_iff.mp performed
    exact .cons trivial taken (ih performed')

theorem follows_of_permitted {check : State → Action → Bool} (actions : List Action)
    {state last : State} (performed : performAll step state actions = some last)
    (passed : allPermitted step check state actions = true) :
    Follows step (fun state action => check state action = true) state actions last := by
  induction actions generalizing state with
  | nil =>
    obtain rfl := Option.some.inj performed
    exact .nil state
  | cons action rest ih =>
    obtain ⟨next, taken, performed'⟩ := Option.bind_eq_some_iff.mp performed
    simp only [allPermitted, taken, Option.all_some, Bool.and_eq_true] at passed
    exact .cons passed.1 taken (ih performed' passed.2)

end Interleaving
