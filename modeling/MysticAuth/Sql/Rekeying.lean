import Mathlib.Order.MinMax
import Mathlib.Logic.Function.Basic

/-!
# Rows under new keys

A table is a partial function from keys to values.  Its rows get new keys one
by one; where several come together, the greatest value stays.  In whatever
order and in however many steps this is done, every key ends with the greatest
of the values that were sent to it.
-/

set_option autoImplicit false

namespace Sql

variable {κ ν : Type}

section Order

variable [Preorder ν]

/-- The rows of `before` under new keys, and the greatest value of those that come together. -/
structure Rekeyed (rekey : κ → κ) (before after : κ → Option ν) : Prop where
  attained : ∀ key value, after key = some value → ∃ old, rekey old = key ∧ before old = some value
  covered : ∀ old value, before old = some value →
    ∃ greatest, after (rekey old) = some greatest ∧ value ≤ greatest

variable {first second : κ → κ} {before middle after : κ → Option ν}

theorem Rekeyed.refl (rows : κ → Option ν) : Rekeyed id rows rows where
  attained key _ present := ⟨key, rfl, present⟩
  covered _ value present := ⟨value, present, le_refl value⟩

theorem Rekeyed.trans (earlier : Rekeyed first before middle)
    (later : Rekeyed second middle after) : Rekeyed (second ∘ first) before after where
  attained key value present := by
    obtain ⟨between, rfl, inMiddle⟩ := later.attained key value present
    obtain ⟨old, rfl, inBefore⟩ := earlier.attained between value inMiddle
    exact ⟨old, rfl, inBefore⟩
  covered old value present := by
    obtain ⟨between, inMiddle, below⟩ := earlier.covered old value present
    obtain ⟨greatest, inAfter, above⟩ := later.covered _ between inMiddle
    exact ⟨greatest, inAfter, le_trans below above⟩

/-- A key to which no row is sent is free. -/
theorem Rekeyed.eq_none (rekeyed : Rekeyed first before after) {key : κ}
    (unsent : ∀ old value, before old = some value → first old ≠ key) : after key = none := by
  cases present : after key with
  | none => rfl
  | some value =>
    obtain ⟨old, isKey, inBefore⟩ := rekeyed.attained key value present
    exact absurd isKey (unsent old value inBefore)

/-- A key to which only its own row is sent keeps it. -/
theorem Rekeyed.eq_of_only (rekeyed : Rekeyed first before after) {key : κ}
    (stays : first key = key)
    (only : ∀ old value, before old = some value → first old = key → old = key) :
    after key = before key := by
  cases present : after key with
  | some value =>
    obtain ⟨old, isKey, inBefore⟩ := rekeyed.attained key value present
    rw [← inBefore, only old value inBefore isKey]
  | none =>
    cases inBefore : before key with
    | none => rfl
    | some value =>
      obtain ⟨greatest, isGreatest, -⟩ := rekeyed.covered key value inBefore
      rw [stays, present] at isGreatest
      cases isGreatest

end Order

section Move

variable [DecidableEq κ] [LinearOrder ν]

/-- One row moves: its value is merged into the row under the new key. -/
theorem Rekeyed.move {rows : κ → Option ν} {old new : κ} {value : ν} (differs : old ≠ new)
    (present : rows old = some value) :
    Rekeyed (Function.update id old new) rows
      (Function.update (Function.update rows new
        (some ((rows new).elim value fun current => max current value))) old none) where
  attained key found inAfter := by
    by_cases isOld : key = old
    · subst isOld
      simp at inAfter
    rw [Function.update_of_ne isOld] at inAfter
    by_cases isNew : key = new
    · subst isNew
      rw [Function.update_self, Option.some.injEq] at inAfter
      cases isRow : rows key with
      | none =>
        simp only [isRow, Option.elim_none] at inAfter
        exact ⟨old, Function.update_self _ _ _, inAfter ▸ present⟩
      | some current =>
        simp only [isRow, Option.elim_some] at inAfter
        rcases max_choice current value with isMax | isMax
        · refine ⟨key, Function.update_of_ne (Ne.symm differs) _ _, ?_⟩
          rw [isRow, ← inAfter, isMax]
        · exact ⟨old, Function.update_self _ _ _, by rw [present, ← inAfter, isMax]⟩
    · rw [Function.update_of_ne isNew] at inAfter
      exact ⟨key, Function.update_of_ne isOld _ _, inAfter⟩
  covered key found inRows := by
    by_cases isOld : key = old
    · subst isOld
      obtain rfl := Option.some.inj (present.symm.trans inRows)
      refine ⟨(rows new).elim value fun current => max current value, ?_, ?_⟩
      · rw [Function.update_self, Function.update_of_ne (Ne.symm differs), Function.update_self]
      · cases rows new with
        | none => exact le_refl _
        | some current => exact le_max_right _ _
    · rw [Function.update_of_ne isOld, id_eq, Function.update_of_ne isOld]
      by_cases isNew : key = new
      · subst isNew
        rw [Function.update_self, inRows]
        exact ⟨_, rfl, le_max_left _ _⟩
      · rw [Function.update_of_ne isNew]
        exact ⟨found, inRows, le_refl _⟩

end Move

end Sql
