import Mathlib.Data.List.Infix

/-!
# Patterns with wildcards

A pattern is a sequence of pieces: each takes one symbol of a kind, or any text
at all.  It has to take the text as a whole.
-/

set_option autoImplicit false

namespace Wildcards

universe u v

variable {α : Type u} {β : Type v}

inductive Piece (α : Type u) where
  | one (takes : α → Bool)
  | many

/-- The whole text is taken. -/
def accepts : List (Piece α) → List α → Bool
  | [], text => text.isEmpty
  | .one _ :: _, [] => false
  | .one takes :: rest, c :: text => takes c && accepts rest text
  | .many :: rest, text => text.tails.any (accepts rest)

theorem accepts_many_cons (rest : List (Piece α)) (text : List α) :
    accepts (.many :: rest) text = true ↔
      ∃ left right, left ++ right = text ∧ accepts rest right = true := by
  simp only [accepts, List.any_eq_true, List.mem_tails]
  constructor
  · rintro ⟨right, ⟨left, split⟩, accepted⟩
    exact ⟨left, right, split, accepted⟩
  · rintro ⟨left, right, split, accepted⟩
    exact ⟨right, ⟨left, split⟩, accepted⟩

/-- Patterns one after the other take texts one after the other. -/
theorem accepts_append (first second : List (Piece α)) (text : List α) :
    accepts (first ++ second) text = true ↔
      ∃ left right, left ++ right = text ∧ accepts first left = true ∧
        accepts second right = true := by
  induction first generalizing text with
  | nil =>
    constructor
    · intro accepted
      exact ⟨[], text, rfl, rfl, accepted⟩
    · rintro ⟨left, right, rfl, isEmpty, accepted⟩
      obtain rfl := List.isEmpty_iff.mp isEmpty
      exact accepted
  | cons piece rest ih =>
    cases piece with
    | one takes =>
      cases text with
      | nil =>
        simp only [List.cons_append, accepts, Bool.false_eq_true, false_iff, not_exists, not_and]
        intro left right split accepted
        obtain ⟨rfl, -⟩ := List.append_eq_nil_iff.mp split
        exact absurd accepted (by simp [accepts])
      | cons c text =>
        simp only [List.cons_append, accepts, Bool.and_eq_true, ih]
        constructor
        · rintro ⟨taken, left, right, rfl, accepted, accepted'⟩
          exact ⟨c :: left, right, rfl, by simp [accepts, taken, accepted], accepted'⟩
        · rintro ⟨left, right, split, accepted, accepted'⟩
          cases left with
          | nil => simp [accepts] at accepted
          | cons d left =>
            obtain ⟨rfl, rfl⟩ := List.cons.inj split
            simp only [accepts, Bool.and_eq_true] at accepted
            exact ⟨accepted.1, left, right, rfl, accepted.2, accepted'⟩
    | many =>
      simp only [List.cons_append, accepts_many_cons, ih]
      constructor
      · rintro ⟨skipped, _, rfl, left, right, rfl, accepted, accepted'⟩
        exact ⟨skipped ++ left, right, List.append_assoc .., ⟨skipped, left, rfl, accepted⟩,
          accepted'⟩
      · rintro ⟨_, right, rfl, ⟨skipped, left, rfl, accepted⟩, accepted'⟩
        exact ⟨skipped, left ++ right, (List.append_assoc ..).symm, left, right, rfl, accepted,
          accepted'⟩

theorem accepts_many (text : List α) : accepts [.many] text = true := by
  rw [accepts_many_cons]
  exact ⟨text, [], List.append_nil text, rfl⟩

section Alike

variable [DecidableEq β] (fold : α → β)

/-- The pattern of the texts that read as the given one. -/
def alike (text : List β) : List (Piece α) :=
  text.map fun c => .one fun d => decide (fold d = c)

theorem accepts_alike (literal : List β) (text : List α) :
    accepts (alike fold literal) text = true ↔ text.map fold = literal := by
  induction literal generalizing text with
  | nil => cases text <;> simp [alike, accepts]
  | cons c literal ih =>
    cases text with
    | nil => simp [alike, accepts]
    | cons d text =>
      simp only [alike] at ih
      simp [alike, accepts, ih]

/-- Between two wildcards a text is looked for anywhere. -/
theorem accepts_containing (literal : List β) (text : List α) :
    accepts (.many :: (alike fold literal ++ [.many])) text = true ↔
      literal <:+: text.map fold := by
  simp only [accepts_many_cons, accepts_append, accepts_alike, accepts_many, and_true]
  constructor
  · rintro ⟨before, _, rfl, inside, after, rfl, rfl⟩
    exact ⟨before.map fold, after.map fold, by simp⟩
  · rintro ⟨before, after, split⟩
    obtain ⟨front, rest, rfl, frontText, restText⟩ := List.map_eq_append_iff.mp split.symm
    obtain ⟨front, inside, rfl, rfl, insideText⟩ := List.map_eq_append_iff.mp frontText
    exact ⟨front, inside ++ rest, (List.append_assoc ..).symm, inside, rest, rfl, insideText⟩

end Alike

end Wildcards
