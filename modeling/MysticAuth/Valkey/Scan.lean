import Mathlib.Data.List.Basic

/-!
# `SCAN`

An iteration over a set of keys that stays the same: it goes on until the
cursor is 0 again, and each key comes at least once and maybe more often.
-/

set_option autoImplicit false

namespace Scan

structure Reply where
  cursor : Nat
  keys : List String

/-- Only the last cursor is 0. -/
inductive Ends : List Reply → Prop where
  | last (reply : Reply) (done : reply.cursor = 0) : Ends [reply]
  | more (reply : Reply) (rest : List Reply) (goesOn : reply.cursor ≠ 0) (ends : Ends rest) :
      Ends (reply :: rest)

def returned (replies : List Reply) : List String :=
  replies.flatMap Reply.keys

/-- What the server promises for the keys that match. -/
structure Iteration (matching : String → Prop) (replies : List Reply) : Prop where
  ends : Ends replies
  returned_iff : ∀ key, key ∈ returned replies ↔ matching key

end Scan
