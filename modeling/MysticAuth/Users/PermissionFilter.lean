import Mathlib.Data.Finset.Card
import Mathlib.Data.String.Basic
import MysticAuth.Users.UserQueries

/-!
# The permission filter of the user list

The pages of the list are an order of the selected users, as many as are
counted.  A permission is found exactly where no user is matched by inactive
policies alone.
-/

set_option autoImplicit false

namespace MysticAuth.Users

/-! ## What the filters ask for -/

/-- The keys of the users table. -/
structure UserKeys (tables : AccountTables) : Prop where
  ids : (tables.users.map UserRow.id).Nodup
  emails : (tables.users.map UserRow.email).Nodup

section Claimed

variable (tables : AccountTables) (filters : UserFilters)

/-- The policies that the filters look for a permission in. -/
def readsPolicy (policy : Policy) : Bool :=
  match filters.policy with
  | some name => policy.name == name
  | none => filters.permissionSource != some .direct

/-- Whether the filters look for it among the direct grants as well. -/
def readsDirect : Bool :=
  filters.policy.isNone && filters.permissionSource != some .policy

/-- The user has an effective grant of the action, of the kind the filters ask for. -/
def HoldsEffective (permission : String) (row : UserRow) : Prop :=
  (∃ policy ∈ getActivePoliciesForUser tables row.email,
    readsPolicy filters policy = true ∧ permission ∈ policy.actions) ∨
  (readsDirect filters = true ∧
    ∃ grant ∈ getActivePermissionsForUser tables row.email, grant.action = permission)

/-- An inactive policy of the user, in which the filters find the action. -/
def MatchedInactive (permission : String) (row : UserRow) : Prop :=
  ∃ policy ∈ tables.policies, policy.isActive = false ∧ readsPolicy filters policy = true ∧
    permission ∈ policy.actions ∧
    ∃ link ∈ tables.userPolicies, link.userId = row.id ∧ link.policyId = policy.id

end Claimed

/-! ## The order -/

theorem orderBy_totalOn {κ : Type} [LinearOrder κ] (collation : Collation κ)
    (sortBy : Option String) (sortDir : String) :
    Sql.TotalOn (orderBy collation sortBy sortDir) UserRow.id := by
  let second {ι : Type} (pair : ι ×ₗ Nat) : Nat := (ofLex pair).2
  unfold orderBy
  dsimp only
  split
  case h_6 => split <;> exact (Sql.TotalOn.directed _ _).map second
  case h_7 => exact Sql.TotalOn.directed _ _
  all_goals exact (Sql.TotalOn.directed _ _).map second

/-! ## The selected rows -/

section Selected

variable {κ : Type} (collation : Collation κ) (now : Int) (tables : AccountTables)

theorem rows_filterIf (stmt : Statement) (condition : Option (UserRow → Bool)) :
    (stmt.filterIf condition).rows.Sublist stmt.rows ∧
      (stmt.filterIf condition).isDistinct = stmt.isDistinct := by
  cases condition with
  | none => exact ⟨List.Sublist.refl _, rfl⟩
  | some condition => exact ⟨List.filter_sublist, rfl⟩

theorem rows_applyColumnFilters (filters : UserFilters) (stmt : Statement) :
    (applyColumnFilters collation now filters stmt).rows.Sublist stmt.rows ∧
      (applyColumnFilters collation now filters stmt).isDistinct = stmt.isDistinct := by
  unfold applyColumnFilters
  dsimp only
  constructor
  · repeat refine (rows_filterIf _ _).1.trans ?_
    exact List.Sublist.refl _
  · simp only [rows_filterIf]

theorem mem_joinPolicies (stmt : Statement) (condition : Policy → Bool) (row : UserRow) :
    row ∈ (stmt.joinPolicies tables condition).rows ↔
      row ∈ stmt.rows ∧ ∃ policy ∈ assignedPolicies tables row, condition policy = true := by
  simp only [Statement.joinPolicies, List.mem_flatMap, List.mem_map, List.mem_filter]
  constructor
  · rintro ⟨joined, listed, policy, found, rfl⟩
    exact ⟨listed, policy, found⟩
  · rintro ⟨listed, policy, found⟩
    exact ⟨row, listed, policy, found, rfl⟩

theorem mem_applyFilters (filters : UserFilters) (permission : String)
    (asked : filters.permission = some permission) (stmt : Statement) (row : UserRow) :
    row ∈ (applyFilters collation now tables filters stmt).rows ↔
      row ∈ (applyColumnFilters collation now filters stmt).rows ∧
        ((∃ policy ∈ assignedPolicies tables row,
          readsPolicy filters policy = true ∧ permission ∈ policy.actions) ∨
        (readsDirect filters = true ∧ existsDirectGrant tables permission row = true)) := by
  rw [applyFilters]
  generalize applyColumnFilters collation now filters stmt = columns
  rcases named : filters.policy with _ | name
  · rcases source : filters.permissionSource with _ | _ | _ <;>
      simp [applyAccessFilters, asked, named, source, readsPolicy, readsDirect, Statement.filter,
        existsPolicy]
  · simp [applyAccessFilters, asked, named, readsPolicy, readsDirect, mem_joinPolicies]

/-- The users that the other filters leave. -/
theorem mem_applyFilters_none (filters : UserFilters) (stmt : Statement) (row : UserRow) :
    row ∈ (applyFilters collation now tables { filters with permission := none } stmt).rows ↔
      row ∈ (applyColumnFilters collation now filters stmt).rows ∧
        ∀ name, filters.policy = some name →
          ∃ policy ∈ assignedPolicies tables row, policy.name = name := by
  have columns : applyColumnFilters collation now { filters with permission := none } stmt =
      applyColumnFilters collation now filters stmt := rfl
  rw [applyFilters, columns]
  generalize applyColumnFilters collation now filters stmt = columns
  rcases named : filters.policy with _ | name
  · simp [applyAccessFilters]
  · simp [applyAccessFilters, mem_joinPolicies]

/-- Rows of the table; repeated only where they are selected `DISTINCT`. -/
theorem rows_applyFilters (filters : UserFilters) (rows : List UserRow) :
    (∀ row ∈ (applyFilters collation now tables filters ⟨rows, false⟩).rows, row ∈ rows) ∧
      ((applyFilters collation now tables filters ⟨rows, false⟩).isDistinct = true ∨
        (applyFilters collation now tables filters ⟨rows, false⟩).rows.Sublist rows) := by
  obtain ⟨columns, plain⟩ := rows_applyColumnFilters collation now filters ⟨rows, false⟩
  unfold applyFilters applyAccessFilters
  split
  case h_1 | h_2 =>
    refine ⟨fun row member => ?_, Or.inl rfl⟩
    exact columns.subset ((mem_joinPolicies _ _ _ _).mp member).1
  case h_6 => exact ⟨fun row member => columns.subset member, Or.inr columns⟩
  all_goals
    refine ⟨fun row member => ?_, Or.inr (List.filter_sublist.trans columns)⟩
    exact columns.subset (List.filter_sublist.subset member)

theorem mem_selected (stmt : Statement) (row : UserRow) : row ∈ stmt.selected ↔ row ∈ stmt.rows := by
  unfold Statement.selected
  split
  · exact List.mem_dedup
  · rfl

variable {tables} (keys : UserKeys tables) (filters : UserFilters)
include keys

theorem selected_nodup :
    (applyFilters collation now tables filters ⟨tables.users, false⟩).selected.Nodup := by
  rw [Statement.selected]
  split
  · exact List.nodup_dedup _
  · next plain =>
    have fewer := (rows_applyFilters collation now tables filters tables.users).2.resolve_left plain
    exact (List.Nodup.of_map _ keys.ids).sublist fewer

theorem id_injective_selected :
    ∀ a ∈ (applyFilters collation now tables filters ⟨tables.users, false⟩).selected,
    ∀ b ∈ (applyFilters collation now tables filters ⟨tables.users, false⟩).selected,
      a.id = b.id → a = b := by
  intro a inFirst b inSecond same
  have inTable := (rows_applyFilters collation now tables filters tables.users).1
  exact List.inj_on_of_nodup_map keys.ids (inTable a ((mem_selected _ a).mp inFirst))
    (inTable b ((mem_selected _ b).mp inSecond)) same

/-- The distinct ids of the joined rows are those of the selected ones. -/
theorem length_selected :
    (applyFilters collation now tables filters ⟨tables.users, false⟩).selected.length =
      count collation now tables filters := by
  have nodup := selected_nodup collation now keys filters
  have injective := id_injective_selected collation now keys filters
  rw [count]
  generalize applyFilters collation now tables filters ⟨tables.users, false⟩ = stmt at *
  have ids : (stmt.selected.map UserRow.id).Nodup := nodup.map_on injective
  rw [← List.card_toFinset, ← List.length_map UserRow.id, ← List.toFinset_card_of_nodup ids]
  congr 1
  ext id
  simp [mem_selected]

end Selected

/-! ## Effective grants -/

section Effective

variable {tables : AccountTables} (keys : UserKeys tables)

theorem mem_assignedPolicies (row : UserRow) (policy : Policy) :
    policy ∈ assignedPolicies tables row ↔ policy ∈ tables.policies ∧
      ∃ link ∈ tables.userPolicies, link.userId = row.id ∧ link.policyId = policy.id := by
  simp only [assignedPolicies, List.mem_flatMap, List.mem_filter, beq_iff_eq]
  grind

include keys

theorem isUserWithEmail_iff (row : UserRow) (registered : row ∈ tables.users) (userId : Nat) :
    isUserWithEmail tables userId row.email = true ↔ userId = row.id := by
  simp only [isUserWithEmail, List.any_eq_true, Bool.and_eq_true, beq_iff_eq]
  constructor
  · rintro ⟨other, listed, sameId, sameEmail⟩
    rw [← sameId, List.inj_on_of_nodup_map keys.emails listed registered sameEmail]
  · rintro rfl
    exact ⟨row, registered, rfl, rfl⟩

theorem mem_getActivePoliciesForUser (row : UserRow) (registered : row ∈ tables.users)
    (policy : Policy) :
    policy ∈ getActivePoliciesForUser tables row.email ↔
      policy ∈ assignedPolicies tables row ∧ policy.isActive = true := by
  simp only [getActivePoliciesForUser, List.mem_filter, Bool.and_eq_true, List.any_eq_true,
    beq_iff_eq, isUserWithEmail_iff keys row registered, mem_assignedPolicies]
  grind

theorem existsDirectGrant_iff (row : UserRow) (registered : row ∈ tables.users)
    (permission : String) :
    existsDirectGrant tables permission row = true ↔
      ∃ grant ∈ getActivePermissionsForUser tables row.email, grant.action = permission := by
  simp only [getActivePermissionsForUser, existsDirectGrant, List.mem_filter, Bool.and_eq_true,
    List.any_eq_true, beq_iff_eq, isUserWithEmail_iff keys row registered]
  grind

/-- What the filters match is an effective grant, or an inactive policy. -/
theorem matched_iff (filters : UserFilters) (permission : String) (row : UserRow)
    (registered : row ∈ tables.users) :
    ((∃ policy ∈ assignedPolicies tables row,
        readsPolicy filters policy = true ∧ permission ∈ policy.actions) ∨
      (readsDirect filters = true ∧ existsDirectGrant tables permission row = true)) ↔
    HoldsEffective tables filters permission row ∨ MatchedInactive tables filters permission row := by
  simp only [HoldsEffective, mem_getActivePoliciesForUser keys row registered,
    existsDirectGrant_iff keys row registered, MatchedInactive]
  constructor
  · rintro (⟨policy, assigned, reads, lists⟩ | direct)
    · cases active : policy.isActive with
      | true => exact Or.inl (Or.inl ⟨policy, ⟨assigned, active⟩, reads, lists⟩)
      | false =>
        obtain ⟨isRow, link⟩ := (mem_assignedPolicies row policy).mp assigned
        exact Or.inr ⟨policy, isRow, active, reads, lists, link⟩
    · exact Or.inl (Or.inr direct)
  · rintro ((⟨policy, ⟨assigned, _⟩, found⟩ | direct) | ⟨policy, isRow, _, reads, lists, link⟩)
    · exact Or.inl ⟨policy, assigned, found⟩
    · exact Or.inr direct
    · exact Or.inl ⟨policy, (mem_assignedPolicies row policy).mpr ⟨isRow, link⟩, reads, lists⟩

end Effective

/-! ## The pages -/

section Pages

variable {κ : Type} [LinearOrder κ] (collation : Collation κ) (now : Int) {tables : AccountTables}
  (keys : UserKeys tables) (filters : UserFilters)

/-- The users that the filters leave when no permission is asked for. -/
def withoutPermission (tables : AccountTables) : List UserRow :=
  (applyFilters collation now tables { filters with permission := none } ⟨tables.users, false⟩).rows

include keys

omit [LinearOrder κ] in
theorem mem_selected_iff (permission : String) (asked : filters.permission = some permission)
    (row : UserRow) :
    row ∈ (applyFilters collation now tables filters ⟨tables.users, false⟩).selected ↔
      row ∈ withoutPermission collation now filters tables ∧
        (HoldsEffective tables filters permission row ∨
          MatchedInactive tables filters permission row) := by
  rw [mem_selected, mem_applyFilters _ _ _ _ _ asked, withoutPermission, mem_applyFilters_none,
    and_assoc, and_congr_right_iff]
  intro inColumns
  have registered : row ∈ tables.users :=
    (rows_applyColumnFilters collation now filters ⟨tables.users, false⟩).1.subset inColumns
  rw [← matched_iff keys filters permission row registered, iff_and_self]
  rintro (⟨policy, assigned, reads, _⟩ | ⟨direct, _⟩) name named
  · refine ⟨policy, assigned, ?_⟩
    simpa [readsPolicy, named] using reads
  · simp [readsDirect, named] at direct

/-- Exact are the pages of a permission, and as many users as counted, without a repetition, exactly
when every user whom the filters match through an inactive policy has an effective grant as well. -/
theorem permission_filter_exact_iff (sortBy : Option String) (sortDir : String)
    (limit pages : Nat) (enough : count collation now tables filters ≤ pages * limit)
    (page : Nat → List UserRow)
    (answered : ∀ number,
      IsAnswer collation now tables limit (number * limit) filters sortBy sortDir (page number)) :
    let listed := (List.range pages).flatMap page
    ((∀ permission, filters.permission = some permission →
      ∀ row, row ∈ listed ↔ row ∈ withoutPermission collation now filters tables ∧
        HoldsEffective tables filters permission row) ∧
      listed.length = count collation now tables filters ∧
      (listed.map UserRow.id).Nodup) ↔
    ∀ permission, filters.permission = some permission →
      ∀ row ∈ withoutPermission collation now filters tables,
        MatchedInactive tables filters permission row →
          HoldsEffective tables filters permission row := by
  intro listed
  have counted := length_selected collation now keys filters
  have injective := id_injective_selected collation now keys filters
  have permuted : listed.Perm
      (applyFilters collation now tables filters ⟨tables.users, false⟩).selected :=
    Sql.pages_perm (orderBy_totalOn collation sortBy sortDir) injective limit pages
      (counted.trans_le enough) page answered
  have once : (listed.map UserRow.id).Nodup :=
    (permuted.map UserRow.id).nodup_iff.mpr
      ((selected_nodup collation now keys filters).map_on injective)
  rw [and_iff_left ⟨permuted.length_eq.trans counted, once⟩]
  refine forall₂_congr fun permission asked => forall_congr' fun row => ?_
  rw [permuted.mem_iff, mem_selected_iff collation now keys filters permission asked,
    and_congr_right_iff, or_iff_left_iff_imp]

end Pages

/-! ## A policy that was disabled -/

def bytewise : Collation String :=
  ⟨fun value pattern => value == pattern, id⟩

def ann : UserRow :=
  ⟨1, "Ann", "ann@example.com", some .user, true, true, none, none, 0⟩

def bob : UserRow :=
  ⟨2, "Bob", "bob@example.com", none, true, true, none, none, 0⟩

def listersFilter : UserFilters :=
  ⟨none, none, none, none, none, some "users:list_all", none, none, none, none⟩

/-- Ann lists the users through a policy, Bob directly. -/
def listersTables : AccountTables where
  users := [ann, bob]
  policies := [⟨1, "listers", none, ["users:list_all"], "users", .null, true, none⟩]
  userPolicies := [⟨1, 1, none⟩]
  userPermissions := [⟨2, "users:list_all", "users", .null, true, none⟩]

def disabledTables : AccountTables where
  users := [ann]
  policies := [⟨1, "listers", none, ["users:list_all"], "users", .null, false, none⟩]
  userPolicies := [⟨1, 1, none⟩]
  userPermissions := []

theorem permission_filter_listers :
    let listed := (List.range 2).flatMap fun number =>
      getAll bytewise 0 listersTables 1 (number * 1) listersFilter (some "name") "desc"
    (∀ permission, listersFilter.permission = some permission →
      ∀ row, row ∈ listed ↔ row ∈ withoutPermission bytewise 0 listersFilter listersTables ∧
        HoldsEffective listersTables listersFilter permission row) ∧
      listed.length = count bytewise 0 listersTables listersFilter ∧
      (listed.map UserRow.id).Nodup := by
  refine (permission_filter_exact_iff bytewise 0 ?_ listersFilter (some "name") "desc" 1 2 ?_ _
    fun number => Sql.answers_select (orderBy_totalOn _ _ _) 1 (number * 1)).mpr ?_
  · constructor <;> decide
  · decide
  · rintro permission _ row _ ⟨policy, isRow, inactive, _⟩
    rw [List.mem_singleton.mp isRow] at inactive
    cases inactive

theorem inactive_policy_matched :
    getAll bytewise 0 disabledTables 25 0 listersFilter none "asc" = [ann] ∧
      getActivePoliciesForUser disabledTables ann.email = [] ∧
      getActivePermissionsForUser disabledTables ann.email = [] := by
  have selected : (applyFilters bytewise 0 disabledTables listersFilter
      ⟨disabledTables.users, false⟩).selected = [ann] := by decide
  refine ⟨?_, by rfl, by rfl⟩
  rw [getAll, selected, Sql.select, List.mergeSort_singleton]
  rfl

end MysticAuth.Users
