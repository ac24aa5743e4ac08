import Mathlib.Data.List.Basic

/-!
# Application errors

An `AppError` is an HTTP error with a stable machine-readable code; `detail`
holds one message, or all of them where the source raises with a list.  Any
other exception reaches the client as an internal error.
-/

set_option autoImplicit false

namespace MysticAuth

structure AppError where
  statusCode : Nat
  code : String
  detail : List String
  params : List (String × String)
  deriving DecidableEq, Repr

inductive Failure where
  | app (error : AppError)
  | unhandled
  deriving DecidableEq, Repr

/-- `raise AppError(...)`. -/
def raiseApp {α : Type} (error : AppError) : Except Failure α :=
  .error (.app error)

/-- The peeling step for a program that succeeded. -/
theorem bind_eq_ok {ε α β : Type} (first : Except ε α) (next : α → Except ε β) (result : β)
    (success : (first >>= next) = .ok result) :
    ∃ value, first = .ok value ∧ next value = .ok result := by
  cases first with
  | error failure => simp [Bind.bind, Except.bind] at success
  | ok value => exact ⟨value, rfl, success⟩

end MysticAuth
