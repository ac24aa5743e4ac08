import Mathlib.Data.List.Induction
import Mathlib.Data.List.Nodup

/-!
# Dictionaries that are filled entry by entry

A dictionary keeps its keys in the order of their insertion, as an association
list; a JavaScript `Map` does the same.  Filled from a list of items, it holds at
each key what the items of that key make of one another.
-/

set_option autoImplicit false

namespace Dictionaries

universe u v w

variable {κ : Type u} {ν : Type v} [DecidableEq κ]

/-- Replaces the value of a key by one made from it, or appends the key. -/
def upsert (key : κ) (update : Option ν → ν) : List (κ × ν) → List (κ × ν)
  | [] => [(key, update none)]
  | (other, value) :: rest =>
      if other = key then (other, update (some value)) :: rest
      else (other, value) :: upsert key update rest

section Upsert

variable (key : κ) (update : Option ν → ν) (entries : List (κ × ν))

theorem lookup_upsert (other : κ) :
    (upsert key update entries).lookup other =
      if other = key then some (update (entries.lookup key)) else entries.lookup other := by
  induction entries with
  | nil =>
    by_cases same : other = key
    · simp [upsert, same]
    · simp [upsert, same, List.lookup_cons, beq_false_of_ne same]
  | cons entry rest ih =>
    obtain ⟨first, value⟩ := entry
    simp only [upsert]
    by_cases own : first = key
    · subst own
      by_cases same : other = first
      · simp [same]
      · simp [same, List.lookup_cons, beq_false_of_ne same]
    · rw [if_neg own]
      have skip : List.lookup key ((first, value) :: rest) = List.lookup key rest := by
        simp [List.lookup_cons, beq_false_of_ne (Ne.symm own)]
      rw [skip]
      by_cases head : other = first
      · subst head
        simp [own]
      · rw [List.lookup_cons, beq_false_of_ne head, ih, List.lookup_cons, beq_false_of_ne head]

theorem keys_upsert :
    (upsert key update entries).map Prod.fst =
      if key ∈ entries.map Prod.fst then entries.map Prod.fst
      else entries.map Prod.fst ++ [key] := by
  induction entries with
  | nil => simp [upsert]
  | cons entry rest ih =>
    obtain ⟨first, value⟩ := entry
    simp only [upsert]
    by_cases own : first = key
    · simp [own]
    · rw [if_neg own, List.map_cons, ih]
      by_cases present : key ∈ rest.map Prod.fst
      · simp [present]
      · rw [if_neg present, if_neg]
        · rfl
        · simpa [Ne.symm own] using present

end Upsert

theorem lookup_isSome {entries : List (κ × ν)} (key : κ) :
    (entries.lookup key).isSome = true ↔ key ∈ entries.map Prod.fst := by
  induction entries with
  | nil => simp
  | cons entry rest ih =>
    obtain ⟨first, own⟩ := entry
    by_cases same : key = first
    · simp [same]
    · simp [same, List.lookup_cons, beq_false_of_ne same, ih]

/-! ## From a list of items -/

variable {ι : Type w}

/-- Each item updates the value of its key. -/
def fill (keyOf : ι → κ) (step : ι → Option ν → ν) (items : List ι) : List (κ × ν) :=
  items.foldl (fun entries item => upsert (keyOf item) (step item) entries) []

section Fill

variable (keyOf : ι → κ) (step : ι → Option ν → ν)

theorem fill_concat (items : List ι) (item : ι) :
    fill keyOf step (items ++ [item]) = upsert (keyOf item) (step item) (fill keyOf step items) := by
  rw [fill, List.foldl_append]
  rfl

/-- What the items of one key make of one another. -/
def valueOf (key : κ) (items : List ι) : Option ν :=
  (items.filter fun item => keyOf item = key).foldl (fun value item => some (step item value)) none

theorem lookup_fill (key : κ) (items : List ι) :
    (fill keyOf step items).lookup key = valueOf keyOf step key items := by
  induction items using List.reverseRecOn with
  | nil => rfl
  | append_singleton items item ih =>
    rw [fill_concat, lookup_upsert]
    by_cases own : key = keyOf item
    · subst own
      rw [if_pos rfl, ih]
      simp [valueOf, List.filter_append]
    · rw [if_neg own, ih]
      simp [valueOf, List.filter_append, Ne.symm own]

theorem nodup_keys_fill (items : List ι) : ((fill keyOf step items).map Prod.fst).Nodup := by
  induction items using List.reverseRecOn with
  | nil => exact List.nodup_nil
  | append_singleton items item ih =>
    rw [fill_concat, keys_upsert]
    split
    · exact ih
    · rename_i absent
      exact List.nodup_append.mpr ⟨ih, List.nodup_singleton _, by
        rintro a member b isKey rfl
        exact absent (List.mem_singleton.mp isKey ▸ member)⟩

theorem mem_keys_fill (key : κ) (items : List ι) :
    key ∈ (fill keyOf step items).map Prod.fst ↔ ∃ item ∈ items, keyOf item = key := by
  induction items using List.reverseRecOn with
  | nil => simp [fill]
  | append_singleton items item ih =>
    have last : (∃ other ∈ items ++ [item], keyOf other = key) ↔
        (∃ other ∈ items, keyOf other = key) ∨ keyOf item = key := by
      simp [or_and_right, exists_or]
    rw [fill_concat, keys_upsert, last, ← ih]
    split
    · rename_i present
      refine (or_iff_left_of_imp ?_).symm
      rintro rfl
      exact present
    · simp [eq_comm (a := key)]

theorem lookup_fill_ne_none (key : κ) (items : List ι) :
    (fill keyOf step items).lookup key ≠ none ↔ ∃ item ∈ items, keyOf item = key := by
  rw [← mem_keys_fill keyOf step, ← lookup_isSome, Option.isSome_iff_ne_none]

/-- Where each item overwrites the value, the last one stands. -/
theorem valueOf_overwrite (valueIn : ι → ν) (key : κ) (items : List ι) :
    valueOf keyOf (fun item _ => valueIn item) key items =
      ((items.filter fun item => keyOf item = key).getLast?).map valueIn := by
  rw [valueOf]
  induction items.filter (fun item => keyOf item = key) using List.reverseRecOn with
  | nil => rfl
  | append_singleton items item ih => simp

theorem lookup_overwrite {valueIn : ι → ν} {key : κ} {items : List ι} {value : ν}
    (found : (fill keyOf (fun item _ => valueIn item) items).lookup key = some value) :
    ∃ item ∈ items, keyOf item = key ∧ valueIn item = value := by
  rw [lookup_fill, valueOf_overwrite, Option.map_eq_some_iff] at found
  obtain ⟨item, last, made⟩ := found
  have kept := List.mem_of_getLast? last
  rw [List.mem_filter, decide_eq_true_eq] at kept
  exact ⟨item, kept.1, kept.2, made⟩

end Fill

/-! ## Lookups -/

theorem mem_iff_lookup {entries : List (κ × ν)} (keys : (entries.map Prod.fst).Nodup) (key : κ)
    (value : ν) : (key, value) ∈ entries ↔ entries.lookup key = some value := by
  induction entries with
  | nil => simp
  | cons entry rest ih =>
    obtain ⟨first, own⟩ := entry
    obtain ⟨fresh, tail⟩ := List.nodup_cons.mp keys
    by_cases same : key = first
    · subst same
      have absent : (key, value) ∉ rest := fun member =>
        fresh (List.mem_map.mpr ⟨_, member, rfl⟩)
      simp [absent, eq_comm]
    · simp [same, List.lookup_cons, beq_false_of_ne same, ih tail]

theorem mem_fill {keyOf : ι → κ} {step : ι → Option ν → ν} (items : List ι) (key : κ) (value : ν) :
    (key, value) ∈ fill keyOf step items ↔ valueOf keyOf step key items = some value := by
  rw [mem_iff_lookup (nodup_keys_fill keyOf step items), lookup_fill]

end Dictionaries
