import Mathlib.Logic.Function.Basic

/-!
# Locks on rows

A row is locked by one thread at most.  A thread locks rows one by one and
releases all of them at once, when its transaction ends.
-/

set_option autoImplicit false

namespace Interleaving

/-- The thread that has locked a row. -/
abbrev Locks (Row : Type) := Row → Option Nat

namespace Locks

variable {Row : Type} [DecidableEq Row] (locks : Locks Row) (thread : Nat)

/-- No other thread has locked the row. -/
def isFree (row : Row) : Bool :=
  (locks row).all (· == thread)

def acquire (row : Row) : Locks Row :=
  Function.update locks row (some thread)

def release : Locks Row :=
  fun row => if locks row = some thread then none else locks row

variable {locks thread}

@[simp] theorem acquire_self (row : Row) : locks.acquire thread row row = some thread :=
  Function.update_self _ _ _

/-- A lock is not taken away from a thread by another one. -/
theorem acquire_keeps {row other : Row} {holder : Nat} (free : locks.isFree thread row = true)
    (held : locks other = some holder) (differs : holder ≠ thread) :
    locks.acquire thread row other = some holder := by
  by_cases same : other = row
  · subst same
    rw [isFree, held, Option.all_some, beq_iff_eq] at free
    exact absurd free differs
  · rw [acquire, Function.update_of_ne same, held]

theorem acquire_keeps_own {row other : Row} (held : locks other = some thread) :
    locks.acquire thread row other = some thread := by
  by_cases same : other = row
  · subst same
    exact acquire_self other
  · rw [acquire, Function.update_of_ne same, held]

omit [DecidableEq Row] in
theorem release_keeps {row : Row} {holder : Nat} (held : locks row = some holder)
    (differs : holder ≠ thread) : locks.release thread row = some holder := by
  rw [release, held, if_neg]
  exact fun same => differs (Option.some.inj same)

end Locks

end Interleaving
