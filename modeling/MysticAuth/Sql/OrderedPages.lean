import Mathlib.Data.List.Sort
import Mathlib.Order.WithBot

/-!
# Pages of an ordered query

A query with `ORDER BY`, `LIMIT` and `OFFSET` may be answered from any order of
its rows that meets the `ORDER BY`.  Where the order tells any two of the rows
apart, the pages are cut from one list.
-/

set_option autoImplicit false

namespace Sql

variable {α : Type}

/-- `page` is an answer to the query: a cut of some order of the rows. -/
def Answers (orderBy : α → α → Bool) (rows : List α) (limit offset : Nat) (page : List α) : Prop :=
  ∃ ordered : List α, ordered.Perm rows ∧ ordered.Pairwise (fun a b => orderBy a b = true) ∧
    page = (ordered.drop offset).take limit

def select (orderBy : α → α → Bool) (rows : List α) (limit offset : Nat) : List α :=
  ((rows.mergeSort orderBy).drop offset).take limit

inductive Direction where
  | asc
  | desc
  deriving DecidableEq

/-- `ORDER BY` one key, in the given direction. -/
def directed {κ : Type} [LinearOrder κ] (direction : Direction) (key : α → κ) (a b : α) : Bool :=
  match direction with
  | .asc => decide (key a ≤ key b)
  | .desc => decide (key b ≤ key a)

/-- A nullable column as a key, with null above every value. -/
def nullsAbove {β : Type} (value : Option β) : WithTop β :=
  value

def nullsBelow {β : Type} (value : Option β) : WithBot β :=
  value

/-- An order whose ties have the same key. -/
structure TotalOn {ι : Type} (orderBy : α → α → Bool) (key : α → ι) : Prop where
  trans : ∀ a b c, orderBy a b = true → orderBy b c = true → orderBy a c = true
  total : ∀ a b, (orderBy a b || orderBy b a) = true
  antisymm : ∀ a b, orderBy a b = true → orderBy b a = true → key a = key b

theorem TotalOn.directed {κ : Type} [LinearOrder κ] (direction : Direction) (key : α → κ) :
    TotalOn (directed direction key) key := by
  cases direction with
  | asc =>
    constructor
    · simpa [Sql.directed] using fun a b c => le_trans
    · simpa [Sql.directed] using fun a b => le_total (key a) (key b)
    · simpa [Sql.directed] using fun a b => le_antisymm
  | desc =>
    constructor
    · simpa [Sql.directed] using fun a b c first second => le_trans second first
    · simpa [Sql.directed] using fun a b => le_total (key b) (key a)
    · simpa [Sql.directed] using fun a b first second => le_antisymm second first

theorem TotalOn.map {ι κ : Type} {orderBy : α → α → Bool} {key : α → ι}
    (ordered : TotalOn orderBy key) (part : ι → κ) : TotalOn orderBy (part ∘ key) where
  trans := ordered.trans
  total := ordered.total
  antisymm a b first second := congrArg part (ordered.antisymm a b first second)

section Pages

variable {ι : Type} {orderBy : α → α → Bool} {key : α → ι} {rows : List α}

theorem answers_select (ordered : TotalOn orderBy key) (limit offset : Nat) :
    Answers orderBy rows limit offset (select orderBy rows limit offset) :=
  ⟨_, List.mergeSort_perm rows orderBy,
    List.pairwise_mergeSort ordered.trans ordered.total rows, rfl⟩

/-- Where no two rows share the key, there is one answer. -/
theorem answers_iff (ordered : TotalOn orderBy key)
    (distinct : ∀ a ∈ rows, ∀ b ∈ rows, key a = key b → a = b) (limit offset : Nat)
    (page : List α) :
    Answers orderBy rows limit offset page ↔ page = select orderBy rows limit offset := by
  constructor
  · rintro ⟨other, permuted, sorted, rfl⟩
    have same : other = rows.mergeSort orderBy := by
      apply (permuted.trans (List.mergeSort_perm rows orderBy).symm).eq_of_pairwise _ sorted
        (List.pairwise_mergeSort ordered.trans ordered.total rows)
      intro a b inOther inSorted first second
      exact distinct a (permuted.mem_iff.mp inOther) b (List.mem_mergeSort.mp inSorted)
        (ordered.antisymm a b first second)
    rw [select, same]
  · rintro rfl
    exact answers_select ordered limit offset

theorem flatMap_take_drop (rows : List α) (limit pages : Nat) :
    ((List.range pages).flatMap fun page => (rows.drop (page * limit)).take limit) =
      rows.take (pages * limit) := by
  induction pages with
  | zero => simp
  | succ pages ih =>
    rw [List.range_succ, List.flatMap_append, ih, List.flatMap_singleton, Nat.succ_mul,
      List.take_add]

/-- The pages up to the last row, each answered on its own, are an order of the rows. -/
theorem pages_perm (ordered : TotalOn orderBy key)
    (distinct : ∀ a ∈ rows, ∀ b ∈ rows, key a = key b → a = b) (limit pages : Nat)
    (enough : rows.length ≤ pages * limit) (page : Nat → List α)
    (answered : ∀ number, Answers orderBy rows limit (number * limit) (page number)) :
    ((List.range pages).flatMap page).Perm rows := by
  have cut : page = fun number => ((rows.mergeSort orderBy).drop (number * limit)).take limit :=
    funext fun number => (answers_iff ordered distinct limit _ _).mp (answered number)
  rw [cut, flatMap_take_drop, List.take_of_length_le]
  · exact List.mergeSort_perm rows orderBy
  · rwa [List.length_mergeSort]

end Pages

end Sql
