import Mathlib.Data.Set.Finite.Basic
import Mathlib.Logic.Relation
import Mathlib.Order.WellFounded

/-!
# Circles of waiting

Parties wait for each other.  Where everyone of a finite group waits for
another of the group, some of them wait in a circle, and a party that begins to
wait closes a circle only if what it waits for already waits for it.
-/

set_option autoImplicit false

namespace Interleaving

open Relation

variable {Party : Type} {waits waits' : Party → Party → Prop}

/-- Nobody waits, directly or through others, for itself. -/
def Uncircular (waits : Party → Party → Prop) : Prop :=
  ∀ party, ¬ TransGen waits party party

theorem Uncircular.mono (uncircular : Uncircular waits)
    (fewer : ∀ party other, waits' party other → waits party other) : Uncircular waits' :=
  fun party circle => uncircular party (TransGen.mono fewer party party circle)

/-- What is new on a way among the new waits begins at the party that is new to waiting. -/
theorem transGen_of_beginner {beginner : Party}
    (begun : ∀ party other, waits' party other → waits party other ∨ party = beginner)
    {party other : Party} (way : TransGen waits' party other) :
    TransGen waits party other ∨ (ReflTransGen waits party beginner ∧
      ∃ first, waits' beginner first ∧ ReflTransGen waits first other) := by
  induction way with
  | single step =>
    rcases begun _ _ step with old | rfl
    · exact Or.inl (.single old)
    · exact Or.inr ⟨.refl, _, step, .refl⟩
  | tail earlier step ih =>
    rcases begun _ _ step with old | rfl
    · rcases ih with way | ⟨before, first, isFirst, after⟩
      · exact Or.inl (way.tail old)
      · exact Or.inr ⟨before, first, isFirst, after.tail old⟩
    · rcases ih with way | ⟨before, -⟩
      · exact Or.inr ⟨way.to_reflTransGen, _, step, .refl⟩
      · exact Or.inr ⟨before, _, step, .refl⟩

/-- A party may begin to wait for whoever does not wait for it. -/
theorem Uncircular.begin_waiting {beginner : Party} (uncircular : Uncircular waits)
    (begun : ∀ party other, waits' party other → waits party other ∨ party = beginner)
    (free : ∀ other, waits' beginner other → ¬ ReflTransGen waits other beginner) :
    Uncircular waits' := by
  intro party circle
  rcases transGen_of_beginner begun circle with old | ⟨before, first, isFirst, after⟩
  · exact uncircular party old
  · exact free first isFirst (after.trans before)

/-- A party that waits for nobody may be waited for. -/
theorem Uncircular.be_awaited {awaited : Party} (uncircular : Uncircular waits)
    (begun : ∀ party other, waits' party other → waits party other ∨ other = awaited)
    (free : ∀ other, ¬ waits' awaited other) : Uncircular waits' := by
  have old : ∀ party other, TransGen waits' party other →
      TransGen waits party other ∨ other = awaited := by
    intro party other way
    induction way with
    | single step => exact (begun _ _ step).imp_left .single
    | tail _ step ih =>
      rcases ih with way | rfl
      · exact (begun _ _ step).imp_left way.tail
      · exact absurd step (free _)
  intro party circle
  rcases old party party circle with before | rfl
  · exact uncircular party before
  · obtain ⟨other, step, -⟩ := TransGen.head'_iff.mp circle
    exact free other step

/-- In a finite group without a circle, somebody waits for nobody of the group. -/
theorem Uncircular.exists_last (uncircular : Uncircular waits) {group : Set Party}
    (finite : group.Finite) (nonempty : group.Nonempty) :
    ∃ last ∈ group, ∀ other ∈ group, ¬ waits last other := by
  have : Finite group := finite.to_subtype
  let awaits : group → group → Prop := fun other party => TransGen waits party.1 other.1
  have : IsTrans group awaits := ⟨fun _ _ _ first second => second.trans first⟩
  have : Std.Irrefl awaits := ⟨fun party => uncircular party.1⟩
  obtain ⟨member, inGroup⟩ := nonempty
  obtain ⟨last, -, isLast⟩ :=
    (Finite.wellFounded_of_trans_of_irrefl awaits).has_min Set.univ ⟨⟨member, inGroup⟩, trivial⟩
  exact ⟨last.1, last.2, fun other inGroup' step =>
    isLast ⟨other, inGroup'⟩ trivial (.single step)⟩

end Interleaving
