import MysticAuth.Python.Json

/-!
# Places in a JSON value

A place is reached by a path of dictionary keys and list positions.  The shape
of a value is what it shows without its children.
-/

set_option autoImplicit false

namespace Python

inductive PathStep where
  | key (name : String)
  | index (position : Nat)

namespace Json

def child : Json → PathStep → Option Json
  | obj keys values, .key name => (Dict.mk keys values).get? name
  | arr items, .index position => items[position]?
  | _, _ => none

def follow (value : Json) : List PathStep → Option Json
  | [] => some value
  | step :: path => (value.child step).bind fun next => next.follow path

theorem follow_append (value : Json) (path more : List PathStep) :
    value.follow (path ++ more) = (value.follow path).bind fun next => next.follow more := by
  induction path generalizing value with
  | nil => rfl
  | cons step path ih =>
    simp only [List.cons_append, follow, Option.bind_assoc]
    exact congrArg _ (funext ih)

inductive Shape where
  | leaf (value : Json)
  | list (length : Nat)
  | dict (keys : List String)

def shape : Json → Shape
  | arr items => .list items.length
  | obj keys values => .dict ((Dict.mk keys values).items.map Prod.fst)
  | value => .leaf value

end Json

end Python
