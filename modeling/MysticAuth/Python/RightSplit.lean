import Mathlib.Data.List.Basic

/-!
# Splitting from the right

`str.rsplit` with a separator of one character and a bound on the splits.
-/

set_option autoImplicit false

namespace Python

/-- The text before the last separator and the text behind it. -/
def rpartition? (separator : Char) : List Char → Option (List Char × List Char)
  | [] => none
  | c :: rest =>
      match rpartition? separator rest with
      | some (front, back) => some (c :: front, back)
      | none => if c = separator then some ([], rest) else none

def rsplit (separator : Char) : Nat → List Char → List (List Char)
  | 0, text => [text]
  | maxsplit + 1, text =>
      match rpartition? separator text with
      | some (front, back) => rsplit separator maxsplit front ++ [back]
      | none => [text]

section Partition

variable {separator : Char}

theorem rpartition?_eq_none_iff (text : List Char) :
    rpartition? separator text = none ↔ separator ∉ text := by
  induction text with
  | nil => simp [rpartition?]
  | cons c rest ih =>
    simp only [rpartition?]
    cases found : rpartition? separator rest with
    | some split =>
      have inside : separator ∈ rest := by
        by_contra absent
        rw [ih.mpr absent] at found
        cases found
      simp [inside]
    | none =>
      have absent := ih.mp found
      by_cases same : c = separator
      · simp [same]
      · simp [same, Ne.symm same, absent]

theorem rpartition?_append {front back : List Char} (solid : separator ∉ back) :
    rpartition? separator (front ++ separator :: back) = some (front, back) := by
  induction front with
  | nil => simp [rpartition?, (rpartition?_eq_none_iff back).mpr solid]
  | cons c front ih => rw [List.cons_append, rpartition?, ih]

theorem rpartition?_eq_some_iff (text front back : List Char) :
    rpartition? separator text = some (front, back) ↔
      text = front ++ separator :: back ∧ separator ∉ back := by
  constructor
  · intro found
    induction text generalizing front with
    | nil => cases found
    | cons c rest ih =>
      simp only [rpartition?] at found
      cases within : rpartition? separator rest with
      | some split =>
        simp only [within, Option.some.injEq, Prod.mk.injEq] at found
        obtain ⟨rfl, rfl⟩ := found
        obtain ⟨rfl, solid⟩ := ih split.1 within
        exact ⟨rfl, solid⟩
      | none =>
        simp only [within] at found
        split at found
        · rename_i same
          cases found
          exact ⟨by rw [same]; rfl, (rpartition?_eq_none_iff _).mp within⟩
        · cases found
  · rintro ⟨rfl, solid⟩
    exact rpartition?_append solid

/-- Three parts: the last two are free of the separator. -/
theorem rsplit_two_eq_iff (text front middle back : List Char) :
    rsplit separator 2 text = [front, middle, back] ↔
      text = front ++ separator :: (middle ++ separator :: back) ∧ separator ∉ middle ∧
        separator ∉ back := by
  constructor
  · intro parts
    simp only [rsplit] at parts
    split at parts
    · rename_i rest last found
      split at parts
      · rename_i first second found'
        obtain ⟨rfl, rfl, rfl⟩ : first = front ∧ second = middle ∧ last = back := by
          simpa using parts
        obtain ⟨rfl, solid⟩ := (rpartition?_eq_some_iff _ _ _).mp found
        obtain ⟨rfl, solid'⟩ := (rpartition?_eq_some_iff _ _ _).mp found'
        exact ⟨by simp, solid', solid⟩
      · simp at parts
    · simp at parts
  · rintro ⟨rfl, solid, solid'⟩
    have regrouped : front ++ separator :: (middle ++ separator :: back) =
        (front ++ separator :: middle) ++ separator :: back := by simp
    simp only [rsplit, regrouped, rpartition?_append solid', rpartition?_append solid]
    rfl

end Partition

end Python
