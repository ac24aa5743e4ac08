import MysticAuth.Sql.OrderedPages

/-!
# Walks by the last key

A loop reads the rows above the last key it has seen, a limited number at a
time.  Every page is a statement of its own, and the table may change between
them.  The loop ends at an empty page, or as soon as it has seen enough.
-/

set_option autoImplicit false

namespace Sql

variable {α : Type} (key : α → Nat)

/-- `WHERE key > after ORDER BY key LIMIT limit` -/
def keysetPage (limit after : Nat) (rows : List α) : List α :=
  select (directed .asc key) (rows.filter fun row => after < key row) limit 0

/-- The rows that are seen, given what the table holds at each statement.  `none` is a loop that is
still running after the last of them. -/
def keysetWalk (limit : Nat) (enough : List α → Bool) :
    List (List α) → Nat → List α → Option (List α)
  | [], _, seen => if enough seen then some seen else none
  | rows :: later, after, seen =>
      if enough seen then some seen
      else
        match (keysetPage key limit after rows).getLast? with
        | none => some seen
        | some last => keysetWalk limit enough later (key last) (seen ++ keysetPage key limit after rows)

section Page

variable {key} {limit after : Nat} {rows : List α}

theorem mem_of_mem_keysetPage {row : α} (member : row ∈ keysetPage key limit after rows) :
    row ∈ rows ∧ after < key row := by
  have cut := (List.drop_sublist _ _).subset ((List.take_sublist _ _).subset member)
  simpa using List.mem_mergeSort.mp cut

variable (key limit after rows) in
theorem keysetPage_answers :
    Answers (directed .asc key) (rows.filter fun row => after < key row) limit 0
      (keysetPage key limit after rows) :=
  answers_select (TotalOn.directed .asc key) limit 0

theorem keysetPage_ascending (keys : (rows.map key).Nodup) :
    ((keysetPage key limit after rows).map key).Pairwise (· < ·) := by
  obtain ⟨ordered, permuted, sorted, page⟩ := keysetPage_answers key limit after rows
  have distinct : (ordered.map key).Nodup :=
    (permuted.map key).nodup_iff.mpr (keys.sublist (List.filter_sublist.map key))
  have ascending : (ordered.map key).Pairwise (· < ·) := by
    rw [List.pairwise_map]
    refine (sorted.and (List.pairwise_map.mp distinct)).imp ?_
    rintro a b ⟨before, differ⟩
    have le : key a ≤ key b := of_decide_eq_true before
    omega
  rw [page]
  exact ascending.sublist (((List.take_sublist _ _).trans (List.drop_sublist _ _)).map key)

/-- What a page leaves out comes behind all of it. -/
theorem le_of_not_mem_keysetPage {row : α} (present : row ∈ rows) (above : after < key row)
    (left : row ∉ keysetPage key limit after rows) :
    ∀ other ∈ keysetPage key limit after rows, key other ≤ key row := by
  obtain ⟨ordered, permuted, sorted, page⟩ := keysetPage_answers key limit after rows
  rw [List.drop_zero] at page
  rw [page] at left ⊢
  have listed : row ∈ ordered := permuted.mem_iff.mpr (by simp [present, above])
  rw [← List.take_append_drop limit ordered, List.pairwise_append] at sorted
  rw [← List.take_append_drop limit ordered, List.mem_append] at listed
  intro other member
  exact of_decide_eq_true (sorted.2.2 other member row (listed.resolve_left left))

theorem keysetPage_ne_nil {row : α} (positive : 0 < limit) (present : row ∈ rows)
    (above : after < key row) : keysetPage key limit after rows ≠ [] := by
  obtain ⟨ordered, permuted, -, page⟩ := keysetPage_answers key limit after rows
  have listed : row ∈ ordered := permuted.mem_iff.mpr (by simp [present, above])
  rw [page, List.drop_zero]
  intro isNil
  rcases List.take_eq_nil_iff.mp isNil with none | empty
  · omega
  · rw [empty] at listed
    cases listed

/-- Every row of a page comes before its last one, or is it. -/
theorem le_last_keysetPage (keys : (rows.map key).Nodup) {last row : α}
    (isLast : (keysetPage key limit after rows).getLast? = some last)
    (member : row ∈ keysetPage key limit after rows) : key row ≤ key last := by
  have ascending : (keysetPage key limit after rows).Pairwise fun a b => key a < key b :=
    List.pairwise_map.mp (keysetPage_ascending keys)
  obtain ⟨front, page⟩ := List.getLast?_eq_some_iff.mp isLast
  rw [page, List.pairwise_append] at ascending
  rw [page, List.mem_append, List.mem_singleton] at member
  rcases member with earlier | rfl
  · exact Nat.le_of_lt (ascending.2.2 row earlier last List.mem_cons_self)
  · exact Nat.le_refl _

end Page

section Walk

variable {key} {limit : Nat} {enough : List α → Bool}

/-- What a walk adds to what was seen: rows that were in the table when they were read, each above
all that came before. -/
theorem keysetWalk_sound {snapshots : List (List α)} {after : Nat} {seen visited : List α}
    (keys : ∀ rows ∈ snapshots, (rows.map key).Nodup)
    (walked : keysetWalk key limit enough snapshots after seen = some visited) :
    ∃ more, visited = seen ++ more ∧ (more.map key).Pairwise (· < ·) ∧
      ∀ row ∈ more, after < key row ∧ ∃ rows ∈ snapshots, row ∈ rows := by
  induction snapshots generalizing after seen with
  | nil =>
    simp only [keysetWalk] at walked
    split at walked
    · exact ⟨[], by simpa using (Option.some.inj walked).symm, List.Pairwise.nil, by simp⟩
    · cases walked
  | cons rows later ih =>
    simp only [keysetWalk] at walked
    split at walked
    · exact ⟨[], by simpa using (Option.some.inj walked).symm, List.Pairwise.nil, by simp⟩
    · split at walked
      · exact ⟨[], by simpa using (Option.some.inj walked).symm, List.Pairwise.nil, by simp⟩
      · rename_i last isLast
        obtain ⟨more, same, ascending, sound⟩ :=
          ih (fun other member => keys other (List.mem_cons_of_mem _ member)) walked
        have own := keys rows List.mem_cons_self
        have lastAbove := (mem_of_mem_keysetPage (List.mem_of_getLast? isLast)).2
        refine ⟨keysetPage key limit after rows ++ more, by rw [same, List.append_assoc], ?_, ?_⟩
        · rw [List.map_append, List.pairwise_append]
          refine ⟨keysetPage_ascending own, ascending, ?_⟩
          intro low inPage high inMore
          obtain ⟨row, member, rfl⟩ := List.mem_map.mp inPage
          obtain ⟨other, member', rfl⟩ := List.mem_map.mp inMore
          exact Nat.lt_of_le_of_lt (le_last_keysetPage own isLast member) (sound other member').1
        · intro row member
          rcases List.mem_append.mp member with inPage | inMore
          · have read := mem_of_mem_keysetPage inPage
            exact ⟨read.2, rows, List.mem_cons_self, read.1⟩
          · obtain ⟨above, other, listed, present⟩ := sound row inMore
            exact ⟨by omega, other, List.mem_cons_of_mem _ listed, present⟩

theorem keysetWalk_extends {snapshots : List (List α)} {after : Nat} {seen visited : List α}
    (walked : keysetWalk key limit enough snapshots after seen = some visited) :
    seen <+: visited := by
  induction snapshots generalizing after seen with
  | nil =>
    simp only [keysetWalk] at walked
    split at walked
    · obtain rfl := Option.some.inj walked
      exact List.prefix_rfl
    · cases walked
  | cons rows later ih =>
    simp only [keysetWalk] at walked
    split at walked
    · obtain rfl := Option.some.inj walked
      exact List.prefix_rfl
    · split at walked
      · obtain rfl := Option.some.inj walked
        exact List.prefix_rfl
      · exact (List.prefix_append _ _).trans (ih walked)

/-- A walk to the end has seen every row that was in the table all along. -/
theorem keysetWalk_complete (positive : 0 < limit) {snapshots : List (List α)} {after : Nat}
    {seen visited : List α} (keys : ∀ rows ∈ snapshots, (rows.map key).Nodup)
    (walked : keysetWalk key limit enough snapshots after seen = some visited)
    (toTheEnd : enough visited = false) {row : α} (present : ∀ rows ∈ snapshots, row ∈ rows)
    (above : after < key row) : row ∈ visited := by
  induction snapshots generalizing after seen with
  | nil =>
    simp only [keysetWalk] at walked
    split at walked
    · rename_i stopped
      obtain rfl := Option.some.inj walked
      rw [stopped] at toTheEnd
      cases toTheEnd
    · cases walked
  | cons rows later ih =>
    have own := present rows List.mem_cons_self
    simp only [keysetWalk] at walked
    split at walked
    · rename_i stopped
      obtain rfl := Option.some.inj walked
      rw [stopped] at toTheEnd
      cases toTheEnd
    · split at walked
      · rename_i noLast
        have empty := List.getLast?_eq_none_iff.mp noLast
        exact absurd empty (keysetPage_ne_nil positive own above)
      · rename_i last isLast
        by_cases inPage : row ∈ keysetPage key limit after rows
        · exact (keysetWalk_extends walked).subset (List.mem_append_right _ inPage)
        · have lastInPage := List.mem_of_getLast? isLast
          have behind := le_of_not_mem_keysetPage own above inPage last lastInPage
          have differs : key last ≠ key row := by
            intro same
            have isRow := List.inj_on_of_nodup_map (keys rows List.mem_cons_self)
              (mem_of_mem_keysetPage lastInPage).1 own same
            rw [isRow] at lastInPage
            exact inPage lastInPage
          exact ih (fun other member => keys other (List.mem_cons_of_mem _ member)) walked
            (fun other member => present other (List.mem_cons_of_mem _ member)) (by omega)

/-- Where the keys are bounded, the walk ends: every page moves it up. -/
theorem keysetWalk_ends {snapshots : List (List α)} {after bound : Nat} {seen : List α}
    (bounded : ∀ rows ∈ snapshots, ∀ row ∈ rows, key row ≤ bound)
    (started : after ≤ bound) (long : bound - after < snapshots.length) :
    keysetWalk key limit enough snapshots after seen ≠ none := by
  induction snapshots generalizing after seen with
  | nil => simp at long
  | cons rows later ih =>
    simp only [keysetWalk]
    split
    · exact Option.some_ne_none _
    · split
      · exact Option.some_ne_none _
      · rename_i last isLast
        have read := mem_of_mem_keysetPage (List.mem_of_getLast? isLast)
        have inside := bounded rows List.mem_cons_self last read.1
        refine ih (fun other member => bounded other (List.mem_cons_of_mem _ member)) inside ?_
        simp only [List.length_cons] at long
        omega

end Walk

end Sql
