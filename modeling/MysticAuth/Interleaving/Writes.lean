import Mathlib.Data.List.Basic

/-!
# Writes that may fail

A write either takes effect or does not, and independently of that its caller
may see an exception.
-/

set_option autoImplicit false

namespace Interleaving

variable {α ε State : Type}

/-- How a write ends: one that is `unacknowledged` was committed and raises nevertheless. -/
inductive Write (α : Type) where
  | done (value : α)
  | integrityError
  | failed
  | unacknowledged (value : α)
  deriving DecidableEq

/-- The value of a write that took effect. -/
def Write.committed : Write α → Option α
  | .done value | .unacknowledged value => some value
  | .integrityError | .failed => none

/-- What the caller sees if it does not look at the exception. -/
def Write.result (failure : ε) : Write α → Except ε α
  | .done value => .ok value
  | _ => .error failure

/-- The outcomes of a write that no constraint forbids. -/
def written (before after : State) (value : α) : List (Write α × State) :=
  [(.done value, after), (.failed, before), (.unacknowledged value, after)]

theorem written_cases {before after state : State} {value : α} {reply : Write α}
    (possible : (reply, state) ∈ written before after value) :
    (reply.committed = some value ∧ state = after) ∨
      (reply.committed = none ∧ state = before) := by
  simp only [written, List.mem_cons, Prod.mk.injEq, List.not_mem_nil, or_false] at possible
  rcases possible with ⟨rfl, same⟩ | ⟨rfl, same⟩ | ⟨rfl, same⟩
  · exact Or.inl ⟨rfl, same⟩
  · exact Or.inr ⟨rfl, same⟩
  · exact Or.inl ⟨rfl, same⟩

section Commands

variable {before after state : State} {value value' : α} {failure : ε} {result : Except ε α}

/-- A command that may fail, or take effect without being acknowledged. -/
theorem commanded_state (possible : (result, state) ∈
    [(.ok value, after), (.error failure, before), (.error failure, after)]) :
    state = before ∨ state = after := by
  simp only [List.mem_cons, Prod.mk.injEq, List.not_mem_nil, or_false] at possible
  rcases possible with ⟨-, same⟩ | ⟨-, same⟩ | ⟨-, same⟩
  · exact Or.inr same
  · exact Or.inl same
  · exact Or.inr same

theorem commanded_ok (possible : ((.ok value' : Except ε α), state) ∈
    [(.ok value, after), (.error failure, before), (.error failure, after)]) :
    value' = value ∧ state = after := by
  simpa using possible

end Commands

end Interleaving
