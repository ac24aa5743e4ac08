import Mathlib.Data.String.Basic

/-!
# Names of keys
-/

set_option autoImplicit false

namespace KeyNames

/-- Names that start differently are different. -/
theorem append_ne_append {left right : String} (position : Nat) (letter letter' : Char)
    (isLetter : left.toList[position]? = some letter)
    (isLetter' : right.toList[position]? = some letter') (differs : letter ≠ letter')
    (rest rest' : String) : left ++ rest ≠ right ++ rest' := by
  intro same
  have within (text : String) {found : Char} (isFound : text.toList[position]? = some found)
      (tail : String) : (text ++ tail).toList[position]? = some found := by
    have inside := (List.getElem?_eq_some_iff.mp isFound).1
    rw [String.toList_append, List.getElem?_append_left inside, isFound]
  have letters := within left isLetter rest
  rw [same, within right isLetter' rest'] at letters
  exact differs (Option.some.inj letters).symm

end KeyNames
