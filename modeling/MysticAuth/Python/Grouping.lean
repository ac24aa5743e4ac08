import Mathlib.Data.List.Induction
import Mathlib.Data.List.Nodup

/-!
# Grouping into a dictionary of lists

`groups[key].append(value)` for one pair after another, on a `defaultdict(list)`
that is kept as an association list in insertion order.
-/

set_option autoImplicit false

namespace Python

universe u v

section Grouping

variable {κ : Type u} {α : Type v} [DecidableEq κ]

def appendTo (key : κ) (value : α) : List (κ × List α) → List (κ × List α)
  | [] => [(key, [value])]
  | (other, values) :: rest =>
      if other = key then (other, values ++ [value]) :: rest
      else (other, values) :: appendTo key value rest

def groupPairs (pairs : List (κ × α)) : List (κ × List α) :=
  pairs.foldl (fun groups pair => appendTo pair.1 pair.2 groups) []

def valuesOf (key : κ) (pairs : List (κ × α)) : List α :=
  (pairs.filter fun pair => pair.1 = key).map Prod.snd

theorem mem_valuesOf (key : κ) (value : α) (pairs : List (κ × α)) :
    value ∈ valuesOf key pairs ↔ (key, value) ∈ pairs := by
  simp only [valuesOf, List.mem_map, List.mem_filter, decide_eq_true_eq]
  constructor
  · rintro ⟨⟨_, _⟩, ⟨member, rfl⟩, rfl⟩
    exact member
  · intro member
    exact ⟨(key, value), ⟨member, rfl⟩, rfl⟩

omit [DecidableEq κ] in
theorem lookup_map_items [BEq κ] [LawfulBEq κ] {β : Type*} (f : κ → α → β) (items : List (κ × α))
    (key : κ) :
    (items.map fun item => (item.1, f item.1 item.2)).lookup key =
      (items.lookup key).map (f key) := by
  induction items with
  | nil => rfl
  | cons item items ih =>
    obtain ⟨other, value⟩ := item
    simp only [List.map_cons, List.lookup_cons, ih]
    by_cases same : key = other
    · simp [same]
    · simp [beq_false_of_ne same]

/-- What one key stands for after an append; `[]` is a key that is not there. -/
def groupOf (key : κ) (groups : List (κ × List α)) : List α :=
  (groups.lookup key).getD []

/-- Every key once, and none without a value. -/
structure Grouped (groups : List (κ × List α)) : Prop where
  keys : (groups.map Prod.fst).Nodup
  filled : ∀ group ∈ groups, group.2 ≠ []

theorem mem_iff_groupOf {groups : List (κ × List α)} (grouped : Grouped groups) (key : κ)
    (values : List α) : (key, values) ∈ groups ↔ groupOf key groups = values ∧ values ≠ [] := by
  induction groups with
  | nil =>
    simp only [List.not_mem_nil, groupOf, List.lookup_nil, Option.getD_none, false_iff, not_and,
      not_not]
    exact Eq.symm
  | cons group rest ih =>
    obtain ⟨other, own⟩ := group
    obtain ⟨fresh, keys⟩ := List.nodup_cons.mp grouped.keys
    have tail := ih ⟨keys, fun group member => grouped.filled group (List.mem_cons_of_mem _ member)⟩
    by_cases same : key = other
    · subst same
      have absent : (key, values) ∉ rest := fun member =>
        fresh (List.mem_map.mpr ⟨_, member, rfl⟩)
      have nonempty := grouped.filled _ List.mem_cons_self
      simp only [List.mem_cons, Prod.mk.injEq, true_and, absent, or_false, groupOf,
        List.lookup_cons, beq_self_eq_true, Option.getD_some]
      constructor
      · rintro rfl
        exact ⟨rfl, nonempty⟩
      · rintro ⟨rfl, _⟩
        rfl
    · have differs : (key == other) = false := beq_false_of_ne same
      simp only [List.mem_cons, Prod.mk.injEq, same, false_and, false_or, tail, groupOf,
        List.lookup_cons, differs]

theorem keys_appendTo (key : κ) (value : α) (groups : List (κ × List α)) (other : κ) :
    other ∈ (appendTo key value groups).map Prod.fst ↔
      other = key ∨ other ∈ groups.map Prod.fst := by
  induction groups with
  | nil => simp [appendTo]
  | cons group rest ih =>
    simp only [appendTo]
    split
    · next same => simp [same]
    · simp only [List.map_cons, List.mem_cons, ih]
      exact or_left_comm

theorem Grouped.appendTo {groups : List (κ × List α)} (grouped : Grouped groups) (key : κ)
    (value : α) : Grouped (appendTo key value groups) := by
  induction groups with
  | nil => exact ⟨List.nodup_singleton _, by simp [Python.appendTo]⟩
  | cons group rest ih =>
    obtain ⟨fresh, keys⟩ := List.nodup_cons.mp grouped.keys
    have tail := ih ⟨keys, fun group member => grouped.filled group (List.mem_cons_of_mem _ member)⟩
    simp only [Python.appendTo]
    split
    · refine ⟨List.nodup_cons.mpr ⟨fresh, keys⟩, ?_⟩
      intro other member
      rcases List.mem_cons.mp member with rfl | inRest
      · exact List.append_ne_nil_of_right_ne_nil _ (List.cons_ne_nil _ _)
      · exact grouped.filled other (List.mem_cons_of_mem _ inRest)
    · next differs =>
      refine ⟨List.nodup_cons.mpr ⟨?_, tail.keys⟩, ?_⟩
      · rw [keys_appendTo]
        exact not_or_intro differs fresh
      · intro other member
        rcases List.mem_cons.mp member with rfl | inRest
        · exact grouped.filled _ List.mem_cons_self
        · exact tail.filled other inRest

theorem groupOf_appendTo (key : κ) (value : α) (groups : List (κ × List α)) (other : κ) :
    groupOf other (appendTo key value groups) =
      if other = key then groupOf key groups ++ [value] else groupOf other groups := by
  induction groups with
  | nil =>
    by_cases same : other = key
    · simp [appendTo, groupOf, same]
    · simp [appendTo, groupOf, same, List.lookup_cons, beq_false_of_ne same]
  | cons group rest ih =>
    obtain ⟨first, values⟩ := group
    simp only [appendTo]
    by_cases own : first = key
    · subst own
      by_cases same : other = first
      · simp [groupOf, same]
      · simp [groupOf, same, List.lookup_cons, beq_false_of_ne same]
    · rw [if_neg own]
      by_cases head : other = first
      · subst head
        simp [groupOf, own]
      · have skip : groupOf other ((first, values) :: Python.appendTo key value rest) =
            groupOf other (Python.appendTo key value rest) := by
          simp [groupOf, List.lookup_cons, beq_false_of_ne head]
        have skipKey : groupOf key ((first, values) :: rest) = groupOf key rest := by
          simp [groupOf, List.lookup_cons, beq_false_of_ne (Ne.symm own)]
        have skipOther : groupOf other ((first, values) :: rest) = groupOf other rest := by
          simp [groupOf, List.lookup_cons, beq_false_of_ne head]
        rw [skip, ih, skipKey, skipOther]

theorem groupPairs_concat (pairs : List (κ × α)) (pair : κ × α) :
    groupPairs (pairs ++ [pair]) = appendTo pair.1 pair.2 (groupPairs pairs) := by
  rw [groupPairs, List.foldl_append]
  rfl

theorem grouped_groupPairs (pairs : List (κ × α)) : Grouped (groupPairs pairs) := by
  induction pairs using List.reverseRecOn with
  | nil => exact ⟨List.nodup_nil, by simp [groupPairs]⟩
  | append_singleton pairs pair ih =>
    rw [groupPairs_concat]
    exact ih.appendTo _ _

theorem groupOf_groupPairs (key : κ) (pairs : List (κ × α)) :
    groupOf key (groupPairs pairs) = valuesOf key pairs := by
  induction pairs using List.reverseRecOn with
  | nil => rfl
  | append_singleton pairs pair ih =>
    rw [groupPairs_concat, groupOf_appendTo]
    by_cases same : key = pair.1
    · rw [if_pos same, ← same, ih]
      simp [valuesOf, same]
    · rw [if_neg same, ih]
      simp [valuesOf, Ne.symm same]

/-- The groups are the keys that occur, each with all its values in their order. -/
theorem mem_groupPairs (key : κ) (values : List α) (pairs : List (κ × α)) :
    (key, values) ∈ groupPairs pairs ↔ valuesOf key pairs = values ∧ values ≠ [] := by
  rw [mem_iff_groupOf (grouped_groupPairs pairs), groupOf_groupPairs]

end Grouping

end Python
