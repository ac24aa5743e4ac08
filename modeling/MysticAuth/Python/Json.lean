import Mathlib.Data.List.Nodup
import Mathlib.Data.List.Perm.Subperm
import Mathlib.Data.Rat.Defs

/-!
# JSON values under Python semantics

A decoded JSON document is a tree of `None`, booleans, numbers, strings, lists
and dictionaries.  A dictionary is a list of pairwise distinct keys paired with
its values, so a document with a repeated key cannot be built.  `Json.eq` is
Python's `==`: numbers compare by value across `bool`, `int` and `float`,
lists elementwise, and dictionaries without regard to key order.
-/

set_option autoImplicit false

namespace Python

/-- The keys of a dictionary, in insertion order. -/
abbrev UniqueKeys := {keys : List String // keys.Nodup}

inductive Json where
  | null
  | bool (value : Bool)
  | int (value : Int)
  | float (value : Rat)
  | str (value : String)
  | arr (items : List Json)
  | obj (keys : UniqueKeys) (values : List Json)

/-- What a leaf compares as.  `True`, `1` and `1.0` are one scalar. -/
inductive Scalar where
  | null
  | number (value : Rat)
  | text (value : String)
  deriving DecidableEq

def Scalar.truthy : Scalar → Bool
  | null => false
  | number value => value != 0
  | text value => value != ""

structure Dict where
  keys : UniqueKeys
  values : List Json

namespace Dict

def items (dict : Dict) : List (String × Json) :=
  dict.keys.val.zip dict.values

def get? (dict : Dict) (key : String) : Option Json :=
  dict.items.lookup key

/-- `dict.get(key)`: a missing key reads as `None`. -/
def get (dict : Dict) (key : String) : Json :=
  (dict.get? key).getD .null

def empty : Dict :=
  ⟨⟨[], List.nodup_nil⟩, []⟩

end Dict

namespace Json

def scalar? : Json → Option Scalar
  | null => some .null
  | bool value => some (.number (if value then 1 else 0))
  | int value => some (.number value)
  | float value => some (.number value)
  | str value => some (.text value)
  | arr _ => none
  | obj _ _ => none

/-- `value is None`. -/
def isNull : Json → Bool
  | null => true
  | _ => false

def dict? : Json → Option Dict
  | obj keys values => some ⟨keys, values⟩
  | _ => none

/-- Python truthiness: `None`, zero, the empty string and empty containers are falsy. -/
def truthy : Json → Bool
  | arr items => items.length != 0
  | obj keys values => (keys.val.zip values).length != 0
  | leaf => leaf.scalar?.any Scalar.truthy

mutual

/-- Python `==`. -/
def eq : Json → Json → Bool
  | arr items, arr others => eqItems items others
  | obj keys values, obj keys' values' =>
      (keys.val.zip values).length == (keys'.val.zip values').length &&
        eqFields keys.val values (keys'.val.zip values')
  | a, b =>
      match a.scalar?, b.scalar? with
      | some s, some t => decide (s = t)
      | _, _ => false

def eqItems : List Json → List Json → Bool
  | [], [] => true
  | a :: items, b :: others => eq a b && eqItems items others
  | _, _ => false

def eqFields : List String → List Json → List (String × Json) → Bool
  | key :: keys, value :: values, other =>
      (match other.lookup key with
        | some value' => eq value value'
        | none => false) && eqFields keys values other
  | _, _, _ => true

end

/-- Induction over the tree, one hypothesis per child. -/
@[elab_as_elim, induction_eliminator]
theorem treeInduction {motive : Json → Prop}
    (null : motive null)
    (bool : ∀ value, motive (bool value))
    (int : ∀ value, motive (int value))
    (float : ∀ value, motive (float value))
    (str : ∀ value, motive (str value))
    (arr : ∀ items, (∀ item ∈ items, motive item) → motive (arr items))
    (obj : ∀ keys values, (∀ value ∈ values, motive value) → motive (obj keys values))
    (json : Json) : motive json :=
  Json.rec (motive_1 := motive) (motive_2 := fun items => ∀ item ∈ items, motive item)
    null bool int float str arr obj
    (fun _ member => nomatch member)
    (fun head tail headIh tailIh item member => by
      rcases List.mem_cons.mp member with rfl | member
      · exact headIh
      · exact tailIh item member)
    json

end Json

/-! ## Dictionaries as finite maps -/

namespace Dict

theorem fst_zip_sublist (keys : List String) (values : List Json) :
    ((keys.zip values).map Prod.fst).Sublist keys := by
  induction keys generalizing values with
  | nil => simp
  | cons key keys ih =>
    cases values with
    | nil => simp
    | cons value values => exact (ih values).cons_cons key

theorem keys_of_items_nodup (dict : Dict) : (dict.items.map Prod.fst).Nodup :=
  dict.keys.property.sublist (fst_zip_sublist dict.keys.val dict.values)

/-- Where no key occurs twice, a lookup finds whatever is there. -/
theorem lookup_eq_some_iff_mem {pairs : List (String × Json)}
    (distinct : (pairs.map Prod.fst).Nodup) (key : String) (value : Json) :
    pairs.lookup key = some value ↔ (key, value) ∈ pairs := by
  have member_of_found : ∀ other, pairs.lookup key = some other → (key, other) ∈ pairs := by
    intro other found
    obtain ⟨before, after, split, _⟩ := List.lookup_eq_some_iff.mp found
    rw [split]
    exact List.mem_append_right before List.mem_cons_self
  refine ⟨member_of_found value, fun member => ?_⟩
  cases found : pairs.lookup key with
  | none =>
    have absent := List.lookup_eq_none_iff.mp found (key, value) member
    simp at absent
  | some other =>
    have samePair := List.inj_on_of_nodup_map distinct (member_of_found other found) member rfl
    simpa using samePair

theorem get?_eq_some_iff (dict : Dict) (key : String) (value : Json) :
    dict.get? key = some value ↔ (key, value) ∈ dict.items :=
  lookup_eq_some_iff_mem dict.keys_of_items_nodup key value

end Dict

namespace Json

/-! ## Equality -/

section Equality

attribute [local simp] eq eqItems eqFields

theorem eq_of_scalar_left (a b : Json) (s : Scalar) (leaf : a.scalar? = some s) :
    eq a b = true ↔ b.scalar? = some s := by
  cases a <;> simp only [scalar?, Option.some.injEq, reduceCtorEq] at leaf <;>
    subst leaf <;> cases b <;> simp [scalar?, eq_comm]

theorem eq_of_scalar_right (a b : Json) (s : Scalar) (leaf : b.scalar? = some s) :
    eq a b = true ↔ a.scalar? = some s := by
  cases b <;> simp only [scalar?, Option.some.injEq, reduceCtorEq] at leaf <;>
    subst leaf <;> cases a <;> simp [scalar?, eq_comm]

theorem eqItems_iff (items others : List Json) :
    eqItems items others = true ↔ List.Forall₂ (fun a b => eq a b = true) items others := by
  induction items generalizing others with
  | nil => cases others <;> simp
  | cons a items ih => cases others <;> simp [ih]

theorem eqFields_iff (keys : List String) (values : List Json) (other : List (String × Json)) :
    eqFields keys values other = true ↔
      ∀ key value, (key, value) ∈ keys.zip values →
        ∃ value', other.lookup key = some value' ∧ eq value value' = true := by
  induction keys generalizing values with
  | nil => simp
  | cons key keys ih =>
    cases values with
    | nil => simp
    | cons value values =>
      simp only [eqFields, Bool.and_eq_true, ih, List.zip_cons_cons, List.mem_cons, Prod.mk.injEq]
      constructor
      · rintro ⟨head, tail⟩ k v (⟨rfl, rfl⟩ | member)
        · cases found : other.lookup k with
          | none => simp [found] at head
          | some value' => exact ⟨value', rfl, by simpa [found] using head⟩
        · exact tail k v member
      · intro every
        refine ⟨?_, fun k v member => every k v (Or.inr member)⟩
        obtain ⟨value', found, same⟩ := every key value (Or.inl ⟨rfl, rfl⟩)
        simp [found, same]

theorem eq_obj_iff (keys keys' : UniqueKeys) (values values' : List Json) :
    eq (obj keys values) (obj keys' values') = true ↔
      (Dict.mk keys values).items.length = (Dict.mk keys' values').items.length ∧
      ∀ key value, (Dict.mk keys values).get? key = some value →
        ∃ value', (Dict.mk keys' values').get? key = some value' ∧ eq value value' = true := by
  simp only [eq, Bool.and_eq_true, beq_iff_eq, eqFields_iff]
  simp only [Dict.get?_eq_some_iff (Dict.mk keys values)]
  rfl

theorem eq_arr_left (items : List Json) (b : Json) (same : eq (arr items) b = true) :
    ∃ others, b = arr others ∧ List.Forall₂ (fun a b => eq a b = true) items others := by
  cases b <;> simp [scalar?] at same
  exact ⟨_, rfl, (eqItems_iff _ _).mp same⟩

theorem eq_obj_left (keys : UniqueKeys) (values : List Json) (b : Json)
    (same : eq (obj keys values) b = true) : ∃ keys' values', b = obj keys' values' := by
  cases b with
  | obj keys' values' => exact ⟨keys', values', rfl⟩
  | null | bool | int | float | str | arr => simp [scalar?] at same

/-- Equal dictionaries have the same keys: the inclusion that `==` checks is onto because
both sides have equally many distinct keys. -/
theorem mem_keys_of_eq_obj (keys keys' : UniqueKeys) (values values' : List Json)
    (same : eq (obj keys values) (obj keys' values') = true) (key : String) (value' : Json)
    (found : (Dict.mk keys' values').get? key = some value') :
    ∃ value, (Dict.mk keys values).get? key = some value := by
  obtain ⟨sameLength, every⟩ := (eq_obj_iff keys keys' values values').mp same
  have included : (Dict.mk keys values).items.map Prod.fst ⊆
      (Dict.mk keys' values').items.map Prod.fst := by
    intro k member
    obtain ⟨⟨_, value⟩, item, rfl⟩ := List.mem_map.mp member
    obtain ⟨value'', found', _⟩ := every _ value ((Dict.get?_eq_some_iff _ _ _).mpr item)
    exact List.mem_map.mpr ⟨_, (Dict.get?_eq_some_iff _ _ _).mp found', rfl⟩
  have permuted := (Dict.keys_of_items_nodup ⟨keys, values⟩).subperm included
    |>.perm_of_length_le (by simp [sameLength])
  have member : key ∈ (Dict.mk keys values).items.map Prod.fst :=
    permuted.mem_iff.mpr (List.mem_map.mpr ⟨_, (Dict.get?_eq_some_iff _ _ _).mp found, rfl⟩)
  obtain ⟨⟨_, value⟩, item, rfl⟩ := List.mem_map.mp member
  exact ⟨value, (Dict.get?_eq_some_iff _ _ _).mpr item⟩

theorem mem_values_of_get? (keys : UniqueKeys) (values : List Json) (key : String) (value : Json)
    (found : (Dict.mk keys values).get? key = some value) : value ∈ values :=
  (List.of_mem_zip ((Dict.get?_eq_some_iff _ _ _).mp found)).2

theorem eq_symm (a b : Json) (same : eq a b = true) : eq b a = true := by
  induction a generalizing b with
  | null | bool | int | float | str =>
    exact (eq_of_scalar_right _ _ _ rfl).mpr ((eq_of_scalar_left _ _ _ rfl).mp same)
  | arr items ih =>
    obtain ⟨others, rfl, pairs⟩ := eq_arr_left items b same
    simp only [eq, eqItems_iff]
    clear same
    induction pairs with
    | nil => exact List.Forall₂.nil
    | cons pair _ rest =>
      exact List.Forall₂.cons (ih _ List.mem_cons_self _ pair)
        (rest fun item member => ih item (List.mem_cons_of_mem _ member))
  | obj keys values ih =>
    obtain ⟨keys', values', rfl⟩ := eq_obj_left keys values b same
    obtain ⟨sameLength, every⟩ := (eq_obj_iff _ _ _ _).mp same
    refine (eq_obj_iff _ _ _ _).mpr ⟨sameLength.symm, fun key value' found' => ?_⟩
    obtain ⟨value, found⟩ := mem_keys_of_eq_obj _ _ _ _ same key value' found'
    obtain ⟨value'', found'', pair⟩ := every key value found
    obtain rfl : value' = value'' := by simpa [found'] using found''
    exact ⟨value, found, ih value (mem_values_of_get? _ _ _ _ found) _ pair⟩

theorem eq_refl (a : Json) : eq a a = true := by
  induction a with
  | null | bool | int | float | str => exact (eq_of_scalar_left _ _ _ rfl).mpr rfl
  | arr items ih =>
    simp only [eq, eqItems_iff]
    exact List.forall₂_same.mpr ih
  | obj keys values ih =>
    exact (eq_obj_iff _ _ _ _).mpr ⟨rfl, fun key value found =>
      ⟨value, found, ih value (mem_values_of_get? _ _ _ _ found)⟩⟩

theorem eq_trans (a b c : Json) (left : eq a b = true) (right : eq b c = true) :
    eq a c = true := by
  induction a generalizing b c with
  | null | bool | int | float | str =>
    have leaf := (eq_of_scalar_left _ _ _ rfl).mp left
    exact (eq_of_scalar_left _ _ _ rfl).mpr ((eq_of_scalar_left _ _ _ leaf).mp right)
  | arr items ih =>
    obtain ⟨others, rfl, pairs⟩ := eq_arr_left items b left
    obtain ⟨thirds, rfl, pairs'⟩ := eq_arr_left others c right
    simp only [eq, eqItems_iff]
    clear left right
    induction pairs generalizing thirds with
    | nil => cases pairs'; exact List.Forall₂.nil
    | cons pair _ rest =>
      cases pairs' with
      | cons pair' pairs' =>
        exact List.Forall₂.cons (ih _ List.mem_cons_self _ _ pair pair')
          (rest (fun item member => ih item (List.mem_cons_of_mem _ member)) _ pairs')
  | obj keys values ih =>
    obtain ⟨keys', values', rfl⟩ := eq_obj_left keys values b left
    obtain ⟨keys'', values'', rfl⟩ := eq_obj_left keys' values' c right
    obtain ⟨sameLength, every⟩ := (eq_obj_iff _ _ _ _).mp left
    obtain ⟨sameLength', every'⟩ := (eq_obj_iff _ _ _ _).mp right
    refine (eq_obj_iff _ _ _ _).mpr ⟨sameLength.trans sameLength', fun key value found => ?_⟩
    obtain ⟨value', found', pair⟩ := every key value found
    obtain ⟨value'', found'', pair'⟩ := every' key value' found'
    exact ⟨value'', found'', ih value (mem_values_of_get? _ _ _ _ found) _ _ pair pair'⟩

end Equality

/-! ## Reads that respect equality -/

theorem truthy_of_scalar (a : Json) (s : Scalar) (leaf : a.scalar? = some s) :
    truthy a = s.truthy := by
  cases a <;> simp only [scalar?, reduceCtorEq] at leaf <;> simp [truthy, scalar?, leaf]

theorem truthy_congr (a b : Json) (same : eq a b = true) : truthy a = truthy b := by
  cases a with
  | null | bool | int | float | str =>
    have leaf := (eq_of_scalar_left _ _ _ rfl).mp same
    rw [truthy_of_scalar _ _ leaf, truthy_of_scalar _ _ rfl]
  | arr items =>
    obtain ⟨others, rfl, pairs⟩ := eq_arr_left items b same
    simp only [truthy, pairs.length_eq]
  | obj keys values =>
    obtain ⟨keys', values', rfl⟩ := eq_obj_left keys values b same
    have sameLength := ((eq_obj_iff _ _ _ _).mp same).1
    simp only [Dict.items] at sameLength
    simp only [truthy, sameLength]

theorem isNull_congr (a b : Json) (same : eq a b = true) : a.isNull = b.isNull := by
  have flipped := eq_symm a b same
  cases a <;> cases b <;> simp_all [eq, isNull, scalar?]

theorem eq_str_left (value : String) (b : Json) (same : eq (str value) b = true) :
    b = str value := by
  have leaf := (eq_of_scalar_left _ _ _ rfl).mp same
  cases b <;> simp [scalar?] at leaf
  rw [leaf]

theorem eq_get_of_eq_obj (keys keys' : UniqueKeys) (values values' : List Json)
    (same : eq (obj keys values) (obj keys' values') = true) (key : String) :
    eq ((Dict.mk keys values).get key) ((Dict.mk keys' values').get key) = true := by
  simp only [Dict.get]
  cases found : (Dict.mk keys values).get? key with
  | some value =>
    obtain ⟨value', found', pair⟩ := ((eq_obj_iff _ _ _ _).mp same).2 key value found
    simpa [found'] using pair
  | none =>
    cases found' : (Dict.mk keys' values').get? key with
    | none => simp [eq, scalar?]
    | some value' =>
      obtain ⟨value, present⟩ := mem_keys_of_eq_obj _ _ _ _ same key value' found'
      simp [found] at present

end Json
end Python
