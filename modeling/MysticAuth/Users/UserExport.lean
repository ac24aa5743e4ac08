import MysticAuth.Core.Errors
import MysticAuth.Python.Csv
import MysticAuth.Python.DatetimeText
import MysticAuth.Users.PermissionFilter

/-!
# The export of the user list

All users that match the filters, as comma-separated values.  Names and email
addresses are chosen by the users themselves, so a text that a spreadsheet would
take for a formula is written behind a quote.
-/

set_option autoImplicit false

namespace MysticAuth.Users

open Python

/-! ## The cells -/

/-- `_CSV_FORMULA_TRIGGERS` -/
def csvFormulaTriggers : List Char :=
  ['=', '+', '-', '@', '\t', '\r']

/-- `value.startswith(_CSV_FORMULA_TRIGGERS)` -/
def isFormula (value : Csv.Field) : Bool :=
  value.head?.any csvFormulaTriggers.contains

def csvSafe (value : String) : Csv.Field :=
  if isFormula value.toList then '\'' :: value.toList else value.toList

def UserStatus.value : UserStatus → String
  | active => "active"
  | inactive => "inactive"
  | deleted => "deleted"

def statusLabel (isActive : Bool) (deletedAt : Option Int) : UserStatus :=
  if deletedAt.isSome then .deleted
  else if isActive then .active
  else .inactive

def roleValue : UserRole → String
  | .user => "user"
  | .admin => "admin"
  | .system => "system"

/-- `str(value)` -/
def boolText (value : Bool) : String :=
  if value then "True" else "False"

def exportHeader : Csv.Row :=
  ["id", "name", "email", "role", "is_verified", "is_active", "status", "created_at"].map
    String.toList

/-- `created_at` is an aware value in UTC. -/
def exportRow (user : UserRow) : Csv.Row :=
  [Nat.toDigits 10 user.id,
    csvSafe user.name,
    csvSafe user.email,
    (user.role.elim "" roleValue).toList,
    (boolText user.isVerified).toList,
    (boolText user.isActive).toList,
    (statusLabel user.isActive user.deletedAt).value.toList,
    Datetime.isoFormat ⟨user.createdAt, some 0⟩]

def buildUsersCsv (users : List UserRow) : String :=
  String.ofList (Csv.writeRows (exportHeader :: users.map exportRow))

/-! ## The rows -/

def exportTooLarge (total maxRows : Nat) : AppError :=
  ⟨400, "EXPORT_TOO_LARGE",
    [s!"Export matches {total} users, which exceeds the {maxRows} row limit. Narrow the filters and try again."],
    []⟩

section Fetch

variable {κ : Type} [LinearOrder κ] (collation : Collation κ) (now : Int)

/-- The count and the rows are two statements, and the tables may change between them. -/
def fetchUsersForExport (counted selected : AccountTables) (maxRows : Nat) (filters : UserFilters) :
    Except Failure (List UserRow) :=
  let total := count collation now counted filters
  if maxRows < total then raiseApp (exportTooLarge total maxRows)
  else .ok (getAll collation now selected (max total 1) 0 filters none "asc")

end Fetch

/-! ## What the cells say -/

/-- The text itself, or behind a quote if it is a formula. -/
def Quotes (value : String) (cell : Option Csv.Field) : Prop :=
  cell = some value.toList ∧ isFormula value.toList = false ∨
    cell = some ('\'' :: value.toList) ∧ isFormula value.toList = true

/-- What a reader of the file finds of the user. -/
structure Exports (user : UserRow) (row : Csv.Row) : Prop where
  cells : row.length = 8
  id : row[0]? = some (Nat.toDigits 10 user.id)
  name : Quotes user.name row[1]?
  email : Quotes user.email row[2]?
  /-- a user without a role has an empty cell -/
  role : ∀ role, row[3]? = some (role.elim [] (String.toList ∘ roleValue)) ↔ user.role = role
  isVerified : row[4]? = some (if user.isVerified then "True" else "False").toList
  isActive : row[5]? = some (if user.isActive then "True" else "False").toList
  /-- the status is the one whose filter keeps the user -/
  status : ∀ status : UserStatus, row[6]? = some status.value.toList ↔
    (statusFilter (some status)).all (· user) = true
  createdAt : Datetime.inRange user.createdAt = true →
    row[7]?.bind Datetime.fromIsoFormat = some ⟨user.createdAt, some 0⟩
  inert : ∀ cell ∈ row, isFormula cell = false

theorem csvSafe_inert (value : String) : isFormula (csvSafe value) = false := by
  unfold csvSafe
  split
  · rfl
  · rename_i inert
    simpa using inert

theorem quotes_csvSafe (value : String) : Quotes value (some (csvSafe value)) := by
  unfold csvSafe
  split
  · rename_i formula
    exact Or.inr ⟨rfl, formula⟩
  · rename_i inert
    exact Or.inl ⟨rfl, by simpa using inert⟩

theorem isFormula_of_isDigit (c : Char) (rest : List Char) (isDigit : c.isDigit = true) :
    isFormula (c :: rest) = false := by
  cases formula : isFormula (c :: rest) with
  | false => rfl
  | true =>
    simp only [isFormula, csvFormulaTriggers, List.head?_cons, Option.any_some,
      List.contains_iff_mem, List.mem_cons, List.not_mem_nil, or_false] at formula
    rcases formula with rfl | rfl | rfl | rfl | rfl | rfl <;> cases isDigit

theorem isFormula_digits (id : Nat) : isFormula (Nat.toDigits 10 id) = false := by
  cases digits : Nat.toDigits 10 id with
  | nil => rfl
  | cons c rest =>
    have listed : c ∈ Nat.toDigits 10 id := by
      rw [digits]
      exact List.mem_cons_self
    exact isFormula_of_isDigit c rest (Nat.isDigit_of_mem_toDigits (by decide) (by decide) listed)

theorem isFormula_isoFormat (value : Datetime) : isFormula (Datetime.isoFormat value) = false :=
  isFormula_of_isDigit _ _ (isDigit_digitChar _ (Nat.mod_lt _ (by omega)))

theorem exports_exportRow (user : UserRow) : Exports user (exportRow user) where
  cells := rfl
  id := rfl
  name := quotes_csvSafe user.name
  email := quotes_csvSafe user.email
  role := by
    have cell : (exportRow user)[3]? = some (user.role.elim "" roleValue).toList := rfl
    intro role
    rw [cell, Option.some_inj]
    rcases user.role with _ | _ | _ | _ <;> rcases role with _ | _ | _ | _ <;> decide
  isVerified := rfl
  isActive := rfl
  status := by
    intro status
    cases status <;> cases active : user.isActive <;> cases deleted : user.deletedAt <;>
      simp [exportRow, statusLabel, statusFilter, UserStatus.value, active, deleted]
  createdAt := by
    intro range
    have valid : (⟨user.createdAt, some 0⟩ : Datetime).Valid := by
      refine ⟨range, ?_⟩
      intro micros isOffset
      obtain rfl := Option.some.inj isOffset
      simp [dayMicros]
    have cell : (exportRow user)[7]? = some (Datetime.isoFormat ⟨user.createdAt, some 0⟩) := rfl
    rw [cell, Option.bind_some]
    exact Datetime.fromIsoFormat_isoFormat _ valid
  inert := by
    intro cell member
    simp only [exportRow, List.mem_cons, List.not_mem_nil, or_false] at member
    rcases member with rfl | rfl | rfl | rfl | rfl | rfl | rfl | rfl
    · exact isFormula_digits user.id
    · exact csvSafe_inert user.name
    · exact csvSafe_inert user.email
    · cases user.role with
      | none => rfl
      | some role => cases role <;> rfl
    · cases user.isVerified <;> rfl
    · cases user.isActive <;> rfl
    · cases statusLabel user.isActive user.deletedAt <;> rfl
    · exact isFormula_isoFormat _

/-! ## What the file says -/

section File

variable {κ : Type} [LinearOrder κ] (collation : Collation κ) (now : Int)

/-- What a reader makes of the file of an export: the header, then one row for each user, in the
order of their ids.  They are the users that match the filters, all of them if nothing changed
between the count and the query. -/
structure ReadsBack (counted selected : AccountTables) (maxRows : Nat) (filters : UserFilters)
    (users : List UserRow) (rows : List Csv.Row) : Prop where
  read : Csv.read (buildUsersCsv users).toList = some (exportHeader :: rows)
  exports : List.Forall₂ Exports users rows
  ascending : (users.map UserRow.id).Pairwise (· < ·)
  matching : ∀ user ∈ users,
    user ∈ (applyFilters collation now selected filters ⟨selected.users, false⟩).rows
  complete : counted = selected →
    ∀ user ∈ (applyFilters collation now selected filters ⟨selected.users, false⟩).rows,
      user ∈ users
  capped : users.length ≤ max maxRows 1

theorem read_buildUsersCsv (users : List UserRow) :
    Csv.read (buildUsersCsv users).toList = some (exportHeader :: users.map exportRow) := by
  rw [buildUsersCsv, String.toList_ofList]
  refine Csv.read_writeRows _ fun row member => ?_
  rcases List.mem_cons.mp member with rfl | written
  · exact List.cons_ne_nil _ _
  · obtain ⟨user, -, rfl⟩ := List.mem_map.mp written
    exact List.cons_ne_nil _ _

theorem forall₂_exportRow (users : List UserRow) :
    List.Forall₂ Exports users (users.map exportRow) := by
  induction users with
  | nil => exact .nil
  | cons user rest ih => exact .cons (exports_exportRow user) ih

/-- Without a key to sort by, the rows come in the order of their ids. -/
theorem ids_getAll {tables : AccountTables} (keys : UserKeys tables) (filters : UserFilters)
    (limit offset : Nat) :
    ((getAll collation now tables limit offset filters none "asc").map UserRow.id).Pairwise
      (· < ·) := by
  have answer : Sql.Answers (orderBy collation none "asc")
      (applyFilters collation now tables filters ⟨tables.users, false⟩).selected limit offset
      (Sql.select (orderBy collation none "asc")
        (applyFilters collation now tables filters ⟨tables.users, false⟩).selected limit offset) :=
    Sql.answers_select (orderBy_totalOn collation none "asc") limit offset
  obtain ⟨ordered, permuted, sorted, page⟩ := answer
  have injective := id_injective_selected collation now keys filters
  have once : (ordered.map UserRow.id).Nodup :=
    (permuted.map UserRow.id).nodup_iff.mpr
      ((selected_nodup collation now keys filters).map_on injective)
  have ascending : (ordered.map UserRow.id).Pairwise (· < ·) := by
    rw [List.pairwise_map]
    have distinct := List.pairwise_map.mp once
    refine (sorted.and distinct).imp ?_
    rintro a b ⟨before, differ⟩
    have le : a.id ≤ b.id := by simpa [orderBy, Sql.directed] using before
    omega
  rw [getAll, page]
  exact ascending.sublist (((List.take_sublist _ _).trans (List.drop_sublist _ _)).map _)

/-- Whatever users call themselves, an export reads back row by row and cell by cell, no cell is a
formula, and the rows are the users that match. -/
theorem export_reads_back (counted selected : AccountTables) (keys : UserKeys selected)
    (maxRows : Nat) (filters : UserFilters) (users : List UserRow)
    (exported : fetchUsersForExport collation now counted selected maxRows filters = .ok users) :
    ∃ rows, ReadsBack collation now counted selected maxRows filters users rows := by
  unfold fetchUsersForExport at exported
  dsimp only at exported
  split at exported
  · cases exported
  rename_i within
  obtain rfl := Except.ok.inj exported
  refine ⟨_, read_buildUsersCsv _, forall₂_exportRow _, ids_getAll collation now keys filters _ _,
    ?_, ?_, ?_⟩
  · intro user member
    have inPage := (List.take_sublist _ _).subset member
    have listed := List.mem_mergeSort.mp ((List.drop_sublist _ _).subset inPage)
    exact (mem_selected _ _).mp listed
  · rintro rfl user matched
    have all : (applyFilters collation now counted filters ⟨counted.users, false⟩).selected.length ≤
        max (count collation now counted filters) 1 := by
      rw [length_selected collation now keys filters]
      exact Nat.le_max_left _ _
    rw [getAll, Sql.select, List.drop_zero, List.take_of_length_le (by simpa using all)]
    exact List.mem_mergeSort.mpr ((mem_selected _ _).mpr matched)
  · have page : (getAll collation now selected (max (count collation now counted filters) 1) 0
        filters none "asc").length ≤ max (count collation now counted filters) 1 :=
      List.length_take_le _ _
    omega

end File

/-- A name with a formula, and with everything that could break out of its cell. -/
def mallory : UserRow :=
  ⟨7, "=HYPERLINK(\"x\"),\r\n1,", "mallory@example.com", none, true, true, none, none, 0⟩

def everyUser : UserFilters :=
  ⟨none, none, none, none, none, none, none, none, none, none⟩

def mallorysTables : AccountTables where
  users := [mallory]
  policies := []
  userPolicies := []
  userPermissions := []

theorem fetch_mallory :
    fetchUsersForExport bytewise 0 mallorysTables mallorysTables 10000 everyUser =
      .ok [mallory] := by
  have selected : (applyFilters bytewise 0 mallorysTables everyUser
      ⟨mallorysTables.users, false⟩).selected = [mallory] := by decide
  have counted : count bytewise 0 mallorysTables everyUser = 1 := by decide
  simp only [fetchUsersForExport, counted, getAll, selected, Sql.select, List.mergeSort_singleton]
  rfl

theorem export_reads_back_mallory :
    ∃ rows, ReadsBack bytewise 0 mallorysTables mallorysTables 10000 everyUser [mallory] rows :=
  export_reads_back bytewise 0 mallorysTables mallorysTables (by constructor <;> decide) 10000
    everyUser [mallory] fetch_mallory

end MysticAuth.Users
