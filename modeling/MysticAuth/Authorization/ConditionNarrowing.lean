import MysticAuth.Authorization.ConditionValidator

/-!
# Equal condition values are satisfied together

The grant guard compares condition blocks with Python's `==`.  This module
shows that the comparison is sound for evaluation: a handler that is satisfied
by a value is satisfied by every equal value, and an entry that is `None` and
satisfied once is satisfied always.  A block that keeps every entry of another
one can therefore only narrow it.

`network` needs its stored list to be a list, which the validator enforces: an
object in its place is iterated in key order, and `==` does not see key order.
-/

set_option autoImplicit false

namespace MysticAuth

open Python

/-! ## Reading equal values -/

section Reading

variable (a b : Json) (same : Json.eq a b = true)

include same

theorem dict_of_eq (source : Dict) (shape : b.dict? = some source) :
    ∃ proposed, a.dict? = some proposed ∧
      (∀ key, Json.eq (proposed.get key) (source.get key) = true) ∧
      ∀ key value, (key, value) ∈ source.items →
        ∃ value', (key, value') ∈ proposed.items ∧ Json.eq value' value = true := by
  cases b with
  | obj keys values =>
    obtain rfl : Dict.mk keys values = source := by simpa [Json.dict?] using shape
    have flipped := Json.eq_symm _ _ same
    obtain ⟨keys', values', rfl⟩ := Json.eq_obj_left keys values a flipped
    refine ⟨⟨keys', values'⟩, rfl, Json.eq_get_of_eq_obj _ _ _ _ same, fun key value member => ?_⟩
    obtain ⟨value', found, pair⟩ := ((Json.eq_obj_iff _ _ _ _).mp flipped).2 key value
      ((Dict.get?_eq_some_iff _ _ _).mpr member)
    exact ⟨value', (Dict.get?_eq_some_iff _ _ _).mp found, Json.eq_symm _ _ pair⟩
  | null | bool | int | float | str | arr => simp [Json.dict?] at shape

theorem str_or_not_str_of_eq :
    (∃ text, a = .str text ∧ b = .str text) ∨
      ((∀ text, a ≠ .str text) ∧ ∀ text, b ≠ .str text) := by
  by_cases left : ∃ text, a = .str text
  · obtain ⟨text, rfl⟩ := left
    exact Or.inl ⟨text, rfl, Json.eq_str_left text b same⟩
  · refine Or.inr ⟨fun text isText => left ⟨text, isText⟩, fun text isText => left ⟨text, ?_⟩⟩
    subst isText
    exact Json.eq_str_left text a (Json.eq_symm _ _ same)

end Reading

/-! ## The handlers respect equality -/

def RespectsEquality (handler : Handler) : Prop :=
  ∀ (runtime : Runtime) (a b : Json) (userEmail : String) (resource : Option Resource)
    (context : Option Dict), Json.eq a b = true →
      handler runtime a userEmail resource context = true →
        handler runtime b userEmail resource context = true

/-- A check of every entry carries over, when the check of one value respects equality. -/
theorem everyEntry_of_eq (a b : Json) (same : Json.eq a b = true)
    (check : String × Json → Bool)
    (respects : ∀ key value value', Json.eq value' value = true →
      check (key, value') = true → check (key, value) = true)
    (passed : everyEntry a check = true) : everyEntry b check = true := by
  simp only [everyEntry] at passed ⊢
  cases shape : b.dict? with
  | some source =>
    obtain ⟨proposed, shape', _, kept⟩ := dict_of_eq a b same source shape
    simp only [shape', List.all_eq_true] at passed ⊢
    rintro ⟨key, value⟩ member
    obtain ⟨value', member', pair⟩ := kept key value member
    exact respects key value value' pair (passed _ member')
  | none =>
    cases shape' : a.dict? with
    | none => simp [shape'] at passed
    | some proposed =>
      obtain ⟨_, found, _⟩ := dict_of_eq b a (Json.eq_symm _ _ same) proposed shape'
      simp [shape] at found

theorem Attribute.equals_of_eq (actual : Attribute) (value value' : Json)
    (pair : Json.eq value' value = true) (passed : actual.equals value' = true) :
    actual.equals value = true := by
  cases actual with
  | json current => exact Json.eq_trans _ _ _ passed pair
  | foreign => simp [Attribute.equals] at passed
  | raises => simp [Attribute.equals] at passed

theorem selfOnly_respectsEquality : RespectsEquality selfOnly := by
  intro runtime a b userEmail resource context same satisfied
  simpa [selfOnly, Json.truthy_congr a b same] using satisfied

theorem resourceAttributes_respectsEquality : RespectsEquality resourceAttributes := by
  intro runtime a b userEmail resource context same satisfied
  simp only [resourceAttributes, Json.truthy_congr a b same] at satisfied ⊢
  split at satisfied
  · simp_all
  · rename_i truthy
    rw [if_neg truthy]
    cases resource with
    | none => simp at satisfied
    | some resource =>
      exact everyEntry_of_eq a b same _
        (fun key value value' pair => Attribute.equals_of_eq _ value value' pair) satisfied

theorem contextAttributes_respectsEquality : RespectsEquality contextAttributes := by
  intro runtime a b userEmail resource context same satisfied
  simp only [contextAttributes, Json.truthy_congr a b same] at satisfied ⊢
  split at satisfied
  · simp_all
  · rename_i truthy
    rw [if_neg truthy]
    cases context with
    | none => simp at satisfied
    | some context =>
      exact everyEntry_of_eq a b same _
        (fun key value value' pair passed => Json.eq_trans _ _ _ passed pair) satisfied

theorem securityContext_respectsEquality : RespectsEquality securityContext := by
  intro runtime a b userEmail resource context same satisfied
  simp only [securityContext, Json.truthy_congr a b same] at satisfied ⊢
  split at satisfied
  · simp_all
  · rename_i truthy
    rw [if_neg truthy]
    split at satisfied
    · simp at satisfied
    · rename_i signalled
      rw [if_neg signalled]
      cases shape : (contextGet context "security_context").dict? with
      | none => simp [shape] at satisfied
      | some signals =>
        simp only [shape] at satisfied ⊢
        refine everyEntry_of_eq a b same _ (fun key value value' pair passed => ?_) satisfied
        dsimp only at passed ⊢
        cases found : signals.get? key with
        | none => simp [found] at passed
        | some signal =>
          simp only [found] at passed ⊢
          exact Json.eq_trans _ _ _ passed pair

/-! Where a handler only reads texts and tests truthiness, equal values are read alike. -/

theorem zoneOf_congr (runtime : Runtime) (a b : Json) (same : Json.eq a b = true) :
    zoneOf runtime a = zoneOf runtime b := by
  simp only [zoneOf, Json.truthy_congr a b same]
  rcases str_or_not_str_of_eq a b same with ⟨text, rfl, rfl⟩ | ⟨left, right⟩
  · rfl
  · cases a <;> cases b <;> simp_all

theorem dateBound_congr (a b : Json) (same : Json.eq a b = true) : dateBound a = dateBound b := by
  simp only [dateBound, Json.truthy_congr a b same]
  rcases str_or_not_str_of_eq a b same with ⟨text, rfl, rfl⟩ | ⟨left, right⟩
  · rfl
  · cases a <;> cases b <;> simp_all

theorem allowedEntry_congr (address : IpAddress) (a b : Json) (same : Json.eq a b = true) :
    allowedEntry address a = allowedEntry address b := by
  rcases str_or_not_str_of_eq a b same with ⟨text, rfl, rfl⟩ | ⟨left, right⟩
  · rfl
  · cases a <;> cases b <;> simp_all [allowedEntry]

theorem timeOfDay_respectsEquality : RespectsEquality timeOfDay := by
  intro runtime a b userEmail resource context same satisfied
  simp only [timeOfDay] at satisfied ⊢
  cases shape : a.dict? with
  | none => simp [shape] at satisfied
  | some proposed =>
    obtain ⟨source, shape', reads, _⟩ := dict_of_eq b a (Json.eq_symm _ _ same) proposed shape
    simp only [shape, shape'] at satisfied ⊢
    have zones := zoneOf_congr runtime _ _ (reads "timezone")
    cases first : proposed.get "start" with
    | str first' =>
      cases last : proposed.get "end" with
      | str last' =>
        have first'' := Json.eq_str_left _ _ (Json.eq_symm _ _ (first ▸ reads "start"))
        have last'' := Json.eq_str_left _ _ (Json.eq_symm _ _ (last ▸ reads "end"))
        simpa only [first, last, first'', last'', zones] using satisfied
      | null | bool | int | float | arr | obj => simp [first, last] at satisfied
    | null | bool | int | float | arr | obj => simp [first] at satisfied

theorem dateRange_respectsEquality : RespectsEquality dateRange := by
  intro runtime a b userEmail resource context same satisfied
  simp only [dateRange] at satisfied ⊢
  cases shape : a.dict? with
  | none => simp [shape] at satisfied
  | some proposed =>
    obtain ⟨source, shape', reads, _⟩ := dict_of_eq b a (Json.eq_symm _ _ same) proposed shape
    simp only [shape, shape'] at satisfied ⊢
    rwa [Json.isNull_congr _ _ (reads "start"), Json.isNull_congr _ _ (reads "end"),
      dateBound_congr _ _ (reads "start"), dateBound_congr _ _ (reads "end")]

theorem anyAllowed_congr (address : IpAddress) (items others : List Json)
    (pairs : List.Forall₂ (fun a b => Json.eq a b = true) items others) :
    anyAllowed address items = anyAllowed address others := by
  induction pairs with
  | nil => rfl
  | cons pair _ rest => simp only [anyAllowed, allowedEntry_congr address _ _ pair, rest]

theorem network_respectsEquality_of_list (runtime : Runtime) (a b : Json) (block : Dict)
    (items : List Json) (userEmail : String) (resource : Option Resource) (context : Option Dict)
    (shape : b.dict? = some block) (listed : block.get "allowed_ips" = .arr items)
    (same : Json.eq a b = true)
    (satisfied : network runtime a userEmail resource context = true) :
    network runtime b userEmail resource context = true := by
  obtain ⟨proposed, shape', reads, _⟩ := dict_of_eq a b same block shape
  have pair := reads "allowed_ips"
  rw [listed] at pair
  obtain ⟨others, listed', pairs⟩ := Json.eq_arr_left items _ (Json.eq_symm _ _ pair)
  simpa only [network, shape, shape', listed, listed', iterate, Json.truthy, pairs.length_eq,
    anyAllowed_congr _ _ _ pairs] using satisfied

/-! ## Entries that are `None` -/

/-- A missing entry of the proposal reads as `None`.  Where that equals the source's entry, the
source's handler treats `None` as no restriction at all. -/
theorem null_satisfied_everywhere (key : String) (handler : Handler)
    (registered : defaultConditionRegistry key = some handler)
    (runtime : Runtime) (userEmail : String) (resource : Option Resource) (context : Option Dict)
    (once : handler runtime .null userEmail resource context = true)
    (runtime' : Runtime) (userEmail' : String) (resource' : Option Resource)
    (context' : Option Dict) :
    handler runtime' .null userEmail' resource' context' = true := by
  simp only [defaultConditionRegistry] at registered
  split at registered <;> simp only [Option.some.injEq, reduceCtorEq] at registered <;>
    subst registered <;>
    simp_all [selfOnly, resourceAttributes, contextAttributes, securityContext, timeOfDay,
      dateRange, network, Json.truthy, Json.scalar?, Scalar.truthy, Json.dict?]

/-! ## Whole blocks -/

theorem evaluateConditions_satisfied_iff (runtime : Runtime) (conditions : Json)
    (userEmail : String) (resource : Option Resource) (context : Option Dict) :
    (evaluateConditions runtime conditions userEmail resource context).satisfied = true ↔
      conditions.truthy = false ∨
        ∃ dict, conditions.dict? = some dict ∧
          ∀ entry ∈ dict.items, entrySatisfied runtime userEmail resource context entry = true := by
  simp only [evaluateConditions]
  cases truthy : conditions.truthy with
  | false => simp
  | true =>
    cases shape : conditions.dict? with
    | none => simp
    | some dict => simp [List.isEmpty_iff]

end MysticAuth
