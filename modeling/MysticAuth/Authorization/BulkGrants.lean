import MysticAuth.Authorization.Store

/-!
# Direct grants, one by one and in bulk

The bulk methods of the permission repository read the rows of the whole batch
once, change or add rows item by item, and commit once.  They agree with the
single methods applied to the items in turn unless one key occurs twice where
the one read does not show what the earlier item did: twice for a new grant
when assigning, twice for a held grant when removing.
-/

set_option autoImplicit false

namespace MysticAuth.BulkGrants

open Python

/-- What the unique constraint of the table ranges over. -/
abbrev GrantKey := Nat × String × String

def rowKey (row : UserPermission) : GrantKey :=
  (row.userId, row.action, row.resourceType)

/-- `uq_user_permission`. -/
def UniqueGrants (rows : List UserPermission) : Prop :=
  (rows.map rowKey).Nodup

structure BulkPermissionItem where
  userEmail : String
  action : String
  resourceType : String
  conditions : Json

structure BulkPermissionRemoveItem where
  userEmail : String
  action : String
  resourceType : String

inductive BulkStatus where
  | success
  | alreadyHeld
  | error
  deriving DecidableEq

structure BulkItemResult where
  userEmail : String
  identifier : String
  status : BulkStatus
  error : Option String

/-- What `summarize` counts as a success. -/
def BulkItemResult.succeeded (result : BulkItemResult) : Bool :=
  result.status == .success || result.status == .alreadyHeld

/-- The items that passed resolution and the privilege guard, with their users. -/
abbrev ValidItem := User × BulkPermissionItem

abbrev ValidRemoval := User × BulkPermissionRemoveItem

def assignKey (item : ValidItem) : GrantKey :=
  (item.1.id, item.2.action, item.2.resourceType)

def removeKey (item : ValidRemoval) : GrantKey :=
  (item.1.id, item.2.action, item.2.resourceType)

def holdsKey (database : Database) (key : GrantKey) : Bool :=
  database.holdsGrant key.1 key.2.1 key.2.2

/-! ## The bulk methods -/

/-- The row an assignment leaves. -/
def regrant (item : ValidItem) (assignedBy : Option String) (row : UserPermission) :
    UserPermission :=
  { row with conditions := item.2.conditions, isActive := true, assignedBy }

def newGrant (item : ValidItem) (assignedBy : Option String) : UserPermission :=
  ⟨item.1.id, item.2.action, item.2.resourceType, item.2.conditions, true, assignedBy⟩

/-- The rows read for the batch as changed so far, the rows added so far and the results so far. -/
structure Staged where
  existingByKey : List UserPermission
  added : List UserPermission
  results : List BulkItemResult

def findRow (rows : List UserPermission) (key : GrantKey) : Option UserPermission :=
  rows.find? fun row => decide (rowKey row = key)

def updateRow (rows : List UserPermission) (item : ValidItem) (assignedBy : Option String) :
    List UserPermission :=
  rows.map fun row =>
    if rowKey row = assignKey item then regrant item assignedBy row else row

def stageAssignment (assignedBy : Option String) (staged : Staged) (item : ValidItem) : Staged :=
  match findRow staged.existingByKey (assignKey item) with
  | some row =>
      let alreadyHeld := row.isActive && Json.eq row.conditions item.2.conditions
      { staged with
        existingByKey := updateRow staged.existingByKey item assignedBy
        results := staged.results ++
          [⟨item.1.email, item.2.action, if alreadyHeld then .alreadyHeld else .success, none⟩] }
  | none =>
      { staged with
        added := staged.added ++ [newGrant item assignedBy]
        results := staged.results ++ [⟨item.1.email, item.2.action, .success, none⟩] }

def commitFailed (result : BulkItemResult) : BulkItemResult :=
  { result with status := .error, error := some "commit_failed" }

/-- The rows of the batch, by one query over its keys. -/
def selectRows (database : Database) (keys : List GrantKey) : List UserPermission :=
  database.userPermissions.filter fun row => decide (rowKey row ∈ keys)

/-- What a flush of the changed and the added rows writes. -/
def flushed (rows : List UserPermission) (staged : Staged) : List UserPermission :=
  rows.map (fun row => (findRow staged.existingByKey (rowKey row)).getD row) ++ staged.added

/-- The unique constraint refuses the whole batch when it adds one key twice. -/
def bulkAssignPermissions (database : Database) (validItems : List ValidItem)
    (assignedBy : Option String) : Database × List BulkItemResult :=
  let staged := validItems.foldl (stageAssignment assignedBy)
    ⟨selectRows database (validItems.map assignKey), [], []⟩
  let written := flushed database.userPermissions staged
  if (written.map rowKey).Nodup then
    ({ database with userPermissions := written }, staged.results)
  else (database, staged.results.map commitFailed)

def removalResult (existing : List UserPermission) (item : ValidRemoval) : BulkItemResult :=
  match findRow existing (removeKey item) with
  | none => ⟨item.1.email, item.2.action, .error, some "not_held"⟩
  | some _ => ⟨item.1.email, item.2.action, .success, none⟩

/-- Deleting a row twice in one session is deleting it once. -/
def bulkRemovePermissions (database : Database) (validItems : List ValidRemoval) :
    Database × List BulkItemResult :=
  let keys := validItems.map removeKey
  let existing := selectRows database keys
  ({ database with
      userPermissions := database.userPermissions.filter fun row =>
        !decide (rowKey row ∈ existing.map rowKey) },
    validItems.map (removalResult existing))

/-! ## The single methods in turn -/

/-- `assign_permission_to_user` for one item after another; it returns the grant. -/
def assignEach (database : Database) (assignedBy : Option String) :
    List ValidItem → Database × List Bool
  | [] => (database, [])
  | item :: items =>
      let after := database.assignPermissionToUser item.1.id item.2.action item.2.resourceType
        item.2.conditions assignedBy
      let (last, outcomes) := assignEach after assignedBy items
      (last, true :: outcomes)

/-- `remove_permission_from_user` for one item after another; it returns whether the grant was
held. -/
def removeEach (database : Database) : List ValidRemoval → Database × List Bool
  | [] => (database, [])
  | item :: items =>
      let after := database.removePermission item.1.id item.2.action item.2.resourceType
      let (last, outcomes) := removeEach after items
      (last, holdsKey database (removeKey item) :: outcomes)

def activeGrants (database : Database) : List UserPermission :=
  database.userPermissions.filter (·.isActive)

/-- The same active direct grants, and the same items reported as done. -/
def Agrees (bulk : Database × List BulkItemResult) (single : Database × List Bool) : Prop :=
  activeGrants bulk.1 = activeGrants single.1 ∧
    bulk.2.map BulkItemResult.succeeded = single.2

/-! ## Keys of rows -/

theorem isGrantKey_eq (key : GrantKey) (row : UserPermission) :
    Database.isGrantKey key.1 key.2.1 key.2.2 row = decide (rowKey row = key) := by
  obtain ⟨userId, action, resourceType⟩ := key
  rw [Bool.eq_iff_iff]
  simp [Database.isGrantKey, rowKey, and_assoc]

theorem holdsKey_iff (database : Database) (key : GrantKey) :
    holdsKey database key = true ↔ key ∈ database.userPermissions.map rowKey := by
  simp [holdsKey, Database.holdsGrant, isGrantKey_eq]

@[simp]
theorem rowKey_regrant (item : ValidItem) (assignedBy : Option String) (row : UserPermission) :
    rowKey (regrant item assignedBy row) = rowKey row := rfl

@[simp]
theorem rowKey_newGrant (item : ValidItem) (assignedBy : Option String) :
    rowKey (newGrant item assignedBy) = assignKey item := rfl

theorem updateRow_keys (rows : List UserPermission) (item : ValidItem)
    (assignedBy : Option String) : (updateRow rows item assignedBy).map rowKey = rows.map rowKey := by
  simp only [updateRow, List.map_map]
  apply List.map_congr_left
  intro row _
  simp only [Function.comp]
  split <;> rfl

theorem updateRow_of_absent (rows : List UserPermission) (item : ValidItem)
    (assignedBy : Option String) (absent : assignKey item ∉ rows.map rowKey) :
    updateRow rows item assignedBy = rows := by
  have unchanged : updateRow rows item assignedBy = rows.map id := by
    apply List.map_congr_left
    intro row member
    have differs : rowKey row ≠ assignKey item := fun equal =>
      absent (List.mem_map.mpr ⟨row, member, equal⟩)
    simp [differs]
  rw [unchanged, List.map_id]

theorem findRow_isSome_iff (rows : List UserPermission) (key : GrantKey) :
    (findRow rows key).isSome = true ↔ key ∈ rows.map rowKey := by
  simp [findRow, List.find?_isSome]

theorem findRow_key (rows : List UserPermission) (key : GrantKey) (row : UserPermission)
    (found : findRow rows key = some row) : rowKey row = key := by
  simpa using List.find?_some found

theorem findRow_updateRow (rows : List UserPermission) (item : ValidItem)
    (assignedBy : Option String) (key : GrantKey) :
    findRow (updateRow rows item assignedBy) key =
      (findRow rows key).map fun row =>
        if rowKey row = assignKey item then regrant item assignedBy row else row := by
  simp only [findRow, updateRow, List.find?_map]
  congr 2
  funext row
  simp only [Function.comp]
  split <;> rfl

/-! ## Assignments -/

section Assign

variable (database : Database) (assignedBy : Option String)

theorem assignPermission_rows (item : ValidItem) :
    (database.assignPermissionToUser item.1.id item.2.action item.2.resourceType
        item.2.conditions assignedBy).userPermissions =
      if assignKey item ∈ database.userPermissions.map rowKey then
        updateRow database.userPermissions item assignedBy
      else database.userPermissions ++ [newGrant item assignedBy] := by
  have held : database.holdsGrant item.1.id item.2.action item.2.resourceType =
      holdsKey database (assignKey item) := rfl
  have key (row : UserPermission) : Database.isGrantKey item.1.id item.2.action item.2.resourceType
      row = decide (rowKey row = assignKey item) := isGrantKey_eq (assignKey item) row
  simp only [Database.assignPermissionToUser, held, holdsKey_iff, key, decide_eq_true_eq]
  split <;> rfl

/-- Where the batch stands after some items: the rows read cover its keys, and a flush would leave
what the single assignments have left. -/
structure InStep (rows : List UserPermission) (keys : List GrantKey) (staged : Staged)
    (current : Database) : Prop where
  covers : ∀ key ∈ keys, key ∈ staged.existingByKey.map rowKey ↔ key ∈ rows.map rowKey
  flush : current.userPermissions = flushed rows staged

theorem flushed_keys (rows : List UserPermission) (staged : Staged) :
    (flushed rows staged).map rowKey = rows.map rowKey ++ staged.added.map rowKey := by
  simp only [flushed, List.map_append, List.map_map]
  congr 1
  apply List.map_congr_left
  intro row _
  simp only [Function.comp]
  cases found : findRow staged.existingByKey (rowKey row) with
  | none => rfl
  | some other => exact findRow_key _ _ _ found

/-- A flush after the item is the single assignment of the item, unless the item's key was added
before. -/
theorem inStep_assign (rows : List UserPermission) (keys : List GrantKey) (staged : Staged)
    (current : Database) (inStep : InStep rows keys staged current) (item : ValidItem)
    (read : assignKey item ∈ keys) (fresh : assignKey item ∉ staged.added.map rowKey) :
    InStep rows keys (stageAssignment assignedBy staged item)
      (current.assignPermissionToUser item.1.id item.2.action item.2.resourceType
        item.2.conditions assignedBy) := by
  have held : assignKey item ∈ current.userPermissions.map rowKey ↔
      assignKey item ∈ rows.map rowKey := by
    rw [inStep.flush, flushed_keys, List.mem_append]
    exact or_iff_left fresh
  have covered := inStep.covers _ read
  simp only [stageAssignment]
  cases found : findRow staged.existingByKey (assignKey item) with
  | none =>
    have absent : assignKey item ∉ rows.map rowKey := by
      intro present
      have some' := (findRow_isSome_iff _ _).mpr (covered.mpr present)
      simp [found] at some'
    refine ⟨inStep.covers, ?_⟩
    rw [assignPermission_rows, if_neg (fun present => absent (held.mp present)), inStep.flush]
    simp [flushed]
  | some row =>
    have present : assignKey item ∈ rows.map rowKey := by
      apply covered.mp
      apply (findRow_isSome_iff _ _).mp
      rw [found]
      rfl
    refine ⟨?_, ?_⟩
    · intro key member
      rw [show (updateRow staged.existingByKey item assignedBy).map rowKey =
        staged.existingByKey.map rowKey from updateRow_keys _ _ _]
      exact inStep.covers key member
    · rw [assignPermission_rows, if_pos (held.mpr present), inStep.flush]
      simp only [flushed, updateRow, List.map_append, List.map_map]
      congr 1
      · apply List.map_congr_left
        intro other _
        simp only [Function.comp]
        rw [show findRow (List.map _ staged.existingByKey) (rowKey other) = _ from
          findRow_updateRow staged.existingByKey item assignedBy (rowKey other)]
        cases same : findRow staged.existingByKey (rowKey other) with
        | some changed => rfl
        | none =>
          -- A row outside the batch keeps its key apart from the item's.
          have differs : rowKey other ≠ assignKey item := by
            intro equal
            rw [equal, found] at same
            simp at same
          simp [differs]
      · exact updateRow_of_absent staged.added item assignedBy fresh

theorem stageAssignment_keys (staged : Staged) (item : ValidItem) :
    (stageAssignment assignedBy staged item).existingByKey.map rowKey =
      staged.existingByKey.map rowKey := by
  simp only [stageAssignment]
  split
  · exact updateRow_keys _ _ _
  · rfl

/-- The keys the batch adds are those of its items that the one read did not find. -/
theorem stageAssignment_added (items : List ValidItem) (staged : Staged) :
    (items.foldl (stageAssignment assignedBy) staged).added.map rowKey =
      staged.added.map rowKey ++ (items.map assignKey).filter fun key =>
        decide (key ∉ staged.existingByKey.map rowKey) := by
  induction items generalizing staged with
  | nil => simp
  | cons item items ih =>
    rw [List.foldl_cons, ih, stageAssignment_keys, List.map_cons, List.filter_cons]
    simp only [stageAssignment]
    cases found : findRow staged.existingByKey (assignKey item) with
    | none =>
      have absent : assignKey item ∉ staged.existingByKey.map rowKey := by
        intro present
        have some' := (findRow_isSome_iff _ _).mpr present
        simp [found] at some'
      simp [absent]
    | some row =>
      have present : assignKey item ∈ staged.existingByKey.map rowKey := by
        apply (findRow_isSome_iff _ _).mp
        rw [found]
        rfl
      simp [present]

theorem stageAssignment_results (items : List ValidItem) (staged : Staged) :
    (items.foldl (stageAssignment assignedBy) staged).results.map BulkItemResult.succeeded =
      staged.results.map BulkItemResult.succeeded ++ items.map fun _ => true := by
  induction items generalizing staged with
  | nil => simp
  | cons item items ih =>
    rw [List.foldl_cons, ih]
    simp only [stageAssignment]
    split
    · simp only [List.map_append, List.map_cons, List.map_nil, List.append_assoc]
      split <;> rfl
    · simp [BulkItemResult.succeeded]

theorem assignEach_results (items : List ValidItem) :
    (assignEach database assignedBy items).2 = items.map fun _ => true := by
  induction items generalizing database with
  | nil => rfl
  | cons item items ih => simp [assignEach, ih]

/-- Without a key that is new to the table and occurs twice, the batch stays in step. -/
theorem inStep_run (rows : List UserPermission) (keys : List GrantKey) (items : List ValidItem)
    (staged : Staged) (current : Database) (inStep : InStep rows keys staged current)
    (read : ∀ item ∈ items, assignKey item ∈ keys)
    (once : (staged.added.map rowKey ++ (items.map assignKey).filter fun key =>
      decide (key ∉ staged.existingByKey.map rowKey)).Nodup)
    (apart : ∀ key ∈ staged.added.map rowKey, key ∉ staged.existingByKey.map rowKey) :
    InStep rows keys (items.foldl (stageAssignment assignedBy) staged)
      (assignEach current assignedBy items).1 := by
  induction items generalizing staged current with
  | nil => exact inStep
  | cons item items ih =>
    have fresh : assignKey item ∉ staged.added.map rowKey := by
      intro added
      have absent := apart _ added
      rw [List.map_cons, List.filter_cons, if_pos (by simpa using absent)] at once
      exact (List.nodup_append.mp once).2.2 _ added _ List.mem_cons_self rfl
    have after := inStep_assign assignedBy rows keys staged current inStep item
      (read item List.mem_cons_self) fresh
    have added := stageAssignment_added assignedBy [item] staged
    simp only [List.foldl_cons, List.foldl_nil, List.map_cons, List.map_nil] at added
    apply ih _ _ after (fun other member => read other (List.mem_cons_of_mem _ member))
    · rw [added, stageAssignment_keys, List.append_assoc, ← List.filter_append]
      exact once
    · rw [added, stageAssignment_keys]
      intro key member
      rcases List.mem_append.mp member with earlier | now
      · exact apart key earlier
      · simpa using (List.mem_filter.mp now).2

/-- The keys of a batch that the table does not hold yet. -/
def newKeys (items : List ValidItem) : List GrantKey :=
  (items.map assignKey).filter fun key => !holdsKey database key

theorem mem_selectRows_keys (keys : List GrantKey) (key : GrantKey) (read : key ∈ keys) :
    key ∈ (selectRows database keys).map rowKey ↔ key ∈ database.userPermissions.map rowKey := by
  simp only [selectRows, List.mem_map, List.mem_filter, decide_eq_true_eq]
  constructor
  · rintro ⟨row, ⟨member, _⟩, same⟩
    exact ⟨row, member, same⟩
  · rintro ⟨row, member, same⟩
    exact ⟨row, ⟨member, same ▸ read⟩, same⟩

theorem findRow_selectRows (unique : UniqueGrants database.userPermissions)
    (keys : List GrantKey) (row : UserPermission) (member : row ∈ database.userPermissions) :
    (findRow (selectRows database keys) (rowKey row)).getD row = row := by
  cases found : findRow (selectRows database keys) (rowKey row) with
  | none => rfl
  | some other =>
    have otherMember : other ∈ database.userPermissions :=
      List.mem_of_mem_filter (List.mem_of_find?_eq_some found)
    exact List.inj_on_of_nodup_map unique otherMember member (findRow_key _ _ _ found)

theorem staged_added (items : List ValidItem) :
    (items.foldl (stageAssignment assignedBy)
        ⟨selectRows database (items.map assignKey), [], []⟩).added.map rowKey =
      newKeys database items := by
  rw [stageAssignment_added]
  simp only [List.map_nil, List.nil_append, newKeys]
  apply List.filter_congr
  intro key member
  rw [Bool.eq_iff_iff]
  simp only [decide_eq_true_eq, Bool.not_eq_true', ← Bool.not_eq_true, holdsKey_iff]
  exact not_congr (mem_selectRows_keys database _ key member)

/-- The commit goes through exactly when no new key occurs twice. -/
theorem written_nodup_iff (unique : UniqueGrants database.userPermissions)
    (items : List ValidItem) :
    ((flushed database.userPermissions (items.foldl (stageAssignment assignedBy)
        ⟨selectRows database (items.map assignKey), [], []⟩)).map rowKey).Nodup ↔
      (newKeys database items).Nodup := by
  rw [flushed_keys, staged_added, List.nodup_append]
  constructor
  · intro parts
    exact parts.2.1
  · intro once
    refine ⟨unique, once, ?_⟩
    rintro key held other new rfl
    have absent := (List.mem_filter.mp new).2
    simp [(holdsKey_iff database key).mpr held] at absent

theorem bulkAssign_agrees_iff (unique : UniqueGrants database.userPermissions)
    (items : List ValidItem) :
    Agrees (bulkAssignPermissions database items assignedBy)
        (assignEach database assignedBy items) ↔
      (newKeys database items).Nodup := by
  have committed := written_nodup_iff database assignedBy unique items
  have results := stageAssignment_results assignedBy items
    ⟨selectRows database (items.map assignKey), [], []⟩
  simp only [List.map_nil, List.nil_append] at results
  simp only [bulkAssignPermissions]
  by_cases once : (newKeys database items).Nodup
  · rw [if_pos (committed.mpr once)]
    refine ⟨fun _ => once, fun _ => ⟨?_, ?_⟩⟩
    · have start : InStep database.userPermissions (items.map assignKey)
          ⟨selectRows database (items.map assignKey), [], []⟩ database := by
        refine ⟨fun key read => mem_selectRows_keys database _ key read, ?_⟩
        have unchanged : database.userPermissions = database.userPermissions.map id :=
          (List.map_id _).symm
        simp only [flushed, List.append_nil]
        rw [unchanged, List.map_map]
        apply List.map_congr_left
        intro row member
        exact (findRow_selectRows database unique _ row member).symm
      have inStep := inStep_run assignedBy database.userPermissions (items.map assignKey) items _
        database start (fun item member => List.mem_map.mpr ⟨item, member, rfl⟩)
        (by
          rw [← stageAssignment_added assignedBy items, staged_added]
          exact once)
        (by simp)
      simp only [activeGrants, inStep.flush]
    · rw [results, assignEach_results]
  · rw [if_neg (fun written => once (committed.mp written))]
    refine ⟨fun agrees => ?_, fun nodup => absurd nodup once⟩
    have reported := agrees.2
    rw [assignEach_results] at reported
    cases items with
    | nil => exact absurd List.nodup_nil once
    | cons item items =>
      -- A refused batch reports no success at all.
      have failing : ∀ outcome ∈ ((((item :: items).foldl (stageAssignment assignedBy)
          ⟨selectRows database ((item :: items).map assignKey), [], []⟩).results.map
          commitFailed).map BulkItemResult.succeeded), outcome = false := by
        intro outcome member
        simp only [List.map_map, List.mem_map] at member
        obtain ⟨result, _, rfl⟩ := member
        rfl
      rw [reported] at failing
      exact absurd (failing true List.mem_cons_self) (by decide)

end Assign

/-! ## Removals -/

section Remove

variable (database : Database)

/-- The keys of a batch that the table holds. -/
def heldKeys (items : List ValidRemoval) : List GrantKey :=
  (items.map removeKey).filter fun key => holdsKey database key

theorem removePermission_rows (item : ValidRemoval) :
    (database.removePermission item.1.id item.2.action item.2.resourceType).userPermissions =
      database.userPermissions.filter fun row => !decide (rowKey row = removeKey item) := by
  simp only [Database.removePermission]
  apply List.filter_congr
  intro row _
  exact congrArg (!·) (isGrantKey_eq (removeKey item) row)

theorem holdsKey_remove (item : ValidRemoval) (key : GrantKey) :
    holdsKey (database.removePermission item.1.id item.2.action item.2.resourceType) key =
      (holdsKey database key && !decide (key = removeKey item)) := by
  rw [Bool.eq_iff_iff, holdsKey_iff, removePermission_rows]
  simp only [Bool.and_eq_true, holdsKey_iff, List.mem_map, List.mem_filter, Bool.not_eq_true',
    decide_eq_false_iff_not]
  constructor
  · rintro ⟨row, ⟨member, kept⟩, rfl⟩
    exact ⟨⟨row, member, rfl⟩, kept⟩
  · rintro ⟨⟨row, member, rfl⟩, kept⟩
    exact ⟨row, ⟨member, kept⟩, rfl⟩

theorem removeEach_rows (items : List ValidRemoval) :
    (removeEach database items).1.userPermissions =
      database.userPermissions.filter fun row => !decide (rowKey row ∈ items.map removeKey) := by
  induction items generalizing database with
  | nil => simp [removeEach]
  | cons item items ih =>
    simp only [removeEach]
    rw [ih, removePermission_rows, List.filter_filter]
    apply List.filter_congr
    intro row _
    rw [Bool.eq_iff_iff]
    simp [and_comm]

theorem bulkRemove_rows (items : List ValidRemoval) :
    (bulkRemovePermissions database items).1.userPermissions =
      database.userPermissions.filter fun row => !decide (rowKey row ∈ items.map removeKey) := by
  simp only [bulkRemovePermissions]
  apply List.filter_congr
  intro row member
  rw [Bool.eq_iff_iff]
  simp only [Bool.not_eq_true', decide_eq_false_iff_not]
  by_cases read : rowKey row ∈ items.map removeKey
  · rw [mem_selectRows_keys database _ _ read]
    simp only [read, not_true, iff_false, not_not]
    exact List.mem_map.mpr ⟨row, member, rfl⟩
  · simp only [read, not_false_eq_true, iff_true]
    intro selected
    obtain ⟨other, otherMember, same⟩ := List.mem_map.mp selected
    have otherRead := (List.mem_filter.mp otherMember).2
    rw [same] at otherRead
    exact read (by simpa using otherRead)

theorem bulkRemove_results (items : List ValidRemoval) :
    (bulkRemovePermissions database items).2.map BulkItemResult.succeeded =
      items.map fun item => holdsKey database (removeKey item) := by
  simp only [bulkRemovePermissions, List.map_map]
  apply List.map_congr_left
  intro item member
  have read : removeKey item ∈ items.map removeKey := List.mem_map.mpr ⟨item, member, rfl⟩
  have held := mem_selectRows_keys database _ _ read
  simp only [Function.comp, removalResult]
  cases found : findRow (selectRows database (items.map removeKey)) (removeKey item) with
  | none =>
    have absent : ¬ holdsKey database (removeKey item) = true := by
      intro holds
      have some' := (findRow_isSome_iff _ _).mpr (held.mpr ((holdsKey_iff _ _).mp holds))
      simp [found] at some'
    simp [BulkItemResult.succeeded, absent]
  | some row =>
    have present : holdsKey database (removeKey item) = true := by
      apply (holdsKey_iff _ _).mpr
      apply held.mp
      apply (findRow_isSome_iff _ _).mp
      rw [found]
      rfl
    simp [BulkItemResult.succeeded, present]

/-- Whatever is reported as removed was held before the first removal. -/
theorem held_of_removeEach (items : List ValidRemoval) (reported : ValidRemoval → Bool)
    (agree : (removeEach database items).2 = items.map reported) (item : ValidRemoval)
    (member : item ∈ items) (removed : reported item = true) :
    holdsKey database (removeKey item) = true := by
  induction items generalizing database with
  | nil => simp at member
  | cons first items ih =>
    simp only [removeEach, List.map_cons, List.cons.injEq] at agree
    obtain ⟨headAgrees, tailAgrees⟩ := agree
    rcases List.mem_cons.mp member with rfl | tail
    · exact headAgrees.trans removed
    · have held := ih _ tailAgrees tail
      rw [holdsKey_remove, Bool.and_eq_true] at held
      exact held.1

theorem removeEach_results_iff (items : List ValidRemoval) :
    (removeEach database items).2 = (items.map fun item => holdsKey database (removeKey item)) ↔
      (heldKeys database items).Nodup := by
  induction items generalizing database with
  | nil => simp [removeEach, heldKeys]
  | cons first items ih =>
    have carried (other : ValidRemoval) (apart : removeKey other ≠ removeKey first ∨
        holdsKey database (removeKey first) = false) :
        holdsKey (database.removePermission first.1.id first.2.action first.2.resourceType)
          (removeKey other) = holdsKey database (removeKey other) := by
      rw [holdsKey_remove]
      rcases apart with differs | absent
      · simp [differs]
      · by_cases same : removeKey other = removeKey first
        · rw [same, absent]
          rfl
        · simp [same]
    have reduced (apart : ∀ other ∈ items, removeKey other ≠ removeKey first ∨
        holdsKey database (removeKey first) = false) :
        (removeEach (database.removePermission first.1.id first.2.action first.2.resourceType)
            items).2 = (items.map fun item => holdsKey database (removeKey item)) ↔
          (heldKeys database items).Nodup := by
      have sameReport : (items.map fun item => holdsKey database (removeKey item)) =
          items.map fun item => holdsKey (database.removePermission first.1.id first.2.action
            first.2.resourceType) (removeKey item) :=
        List.map_congr_left fun other member => (carried other (apart other member)).symm
      have sameKeys : heldKeys database items = heldKeys (database.removePermission first.1.id
          first.2.action first.2.resourceType) items := by
        apply List.filter_congr
        intro key member
        obtain ⟨other, otherMember, rfl⟩ := List.mem_map.mp member
        exact (carried other (apart other otherMember)).symm
      rw [sameReport, sameKeys]
      exact ih _
    simp only [removeEach, List.map_cons, List.cons.injEq, true_and]
    by_cases held : holdsKey database (removeKey first) = true
    · have split : heldKeys database (first :: items) =
          removeKey first :: heldKeys database items := by
        simp [heldKeys, held]
      rw [split, List.nodup_cons]
      have repeated : removeKey first ∈ heldKeys database items ↔
          removeKey first ∈ items.map removeKey := by
        simp only [heldKeys, List.mem_filter, held, and_true]
      rw [repeated]
      constructor
      · intro agree
        have once : removeKey first ∉ items.map removeKey := by
          intro again
          obtain ⟨other, member, same⟩ := List.mem_map.mp again
          have stillHeld := held_of_removeEach _ items _ agree other member (by rw [same, held])
          rw [holdsKey_remove, same] at stillHeld
          simp at stillHeld
        have apart (other : ValidRemoval) (member : other ∈ items) :
            removeKey other ≠ removeKey first := fun same =>
          once (List.mem_map.mpr ⟨other, member, same⟩)
        exact ⟨once, (reduced fun other member => Or.inl (apart other member)).mp agree⟩
      · rintro ⟨once, nodup⟩
        apply (reduced fun other member => Or.inl _).mpr nodup
        exact fun other member same => once (List.mem_map.mpr ⟨other, member, same⟩)
    · simp only [Bool.not_eq_true] at held
      have split : heldKeys database (first :: items) = heldKeys database items := by
        simp [heldKeys, held]
      rw [split]
      exact reduced fun _ _ => Or.inr held

theorem bulkRemove_agrees_iff (items : List ValidRemoval) :
    Agrees (bulkRemovePermissions database items) (removeEach database items) ↔
      (heldKeys database items).Nodup := by
  rw [← removeEach_results_iff]
  constructor
  · intro agrees
    rw [← bulkRemove_results]
    exact agrees.2.symm
  · intro reported
    refine ⟨?_, ?_⟩
    · simp only [activeGrants, bulkRemove_rows, removeEach_rows]
    · rw [bulkRemove_results, reported]

end Remove

/-- The bulk methods agree with the single ones exactly when no new key is assigned twice and no
held key is removed twice. -/
theorem bulk_agrees_iff (database : Database) (unique : UniqueGrants database.userPermissions)
    (assignments : List ValidItem) (removals : List ValidRemoval) (assignedBy : Option String) :
    (Agrees (bulkAssignPermissions database assignments assignedBy)
        (assignEach database assignedBy assignments) ↔
      (newKeys database assignments).Nodup) ∧
    (Agrees (bulkRemovePermissions database removals) (removeEach database removals) ↔
      (heldKeys database removals).Nodup) :=
  ⟨bulkAssign_agrees_iff database assignedBy unique assignments,
    bulkRemove_agrees_iff database removals⟩

/-! One new grant listed twice is refused as a whole; one held grant listed twice is reported as
removed twice. -/

def ann : User :=
  ⟨1, "ann@example.com", .user⟩

def readGrant : UserPermission :=
  ⟨1, "users:read_own", "users", .null, true, none⟩

def emptyTable : Database :=
  ⟨[ann], [], [], [], [], 1, 1⟩

def readTable : Database :=
  { emptyTable with userPermissions := [readGrant] }

def readItem : ValidItem :=
  (ann, ⟨"ann@example.com", "users:read_own", "users", .null⟩)

def readRemoval : ValidRemoval :=
  (ann, ⟨"ann@example.com", "users:read_own", "users"⟩)

def writeItem : ValidItem :=
  (ann, ⟨"ann@example.com", "users:update_own", "users", .null⟩)

def writeRemoval : ValidRemoval :=
  (ann, ⟨"ann@example.com", "users:update_own", "users"⟩)

/-- A grant that is held may be listed twice among those to assign, and one that is not held among
those to remove. -/
theorem bulk_agrees_iff_mixed :
    Agrees (bulkAssignPermissions readTable [readItem, writeItem, readItem] none)
        (assignEach readTable none [readItem, writeItem, readItem]) ∧
      Agrees (bulkRemovePermissions readTable [writeRemoval, readRemoval, writeRemoval])
        (removeEach readTable [writeRemoval, readRemoval, writeRemoval]) :=
  have both := bulk_agrees_iff readTable (List.nodup_singleton _) [readItem, writeItem, readItem]
    [writeRemoval, readRemoval, writeRemoval] none
  ⟨both.1.mpr (by decide), both.2.mpr (by decide)⟩

theorem bulk_differs_on_duplicates :
    (¬ ∀ (database : Database) (items : List ValidItem) (assignedBy : Option String),
      UniqueGrants database.userPermissions →
        Agrees (bulkAssignPermissions database items assignedBy)
          (assignEach database assignedBy items)) ∧
    ¬ ∀ (database : Database) (items : List ValidRemoval),
      UniqueGrants database.userPermissions →
        Agrees (bulkRemovePermissions database items) (removeEach database items) := by
  constructor
  · intro claim
    have agrees := claim emptyTable [readItem, readItem] none List.nodup_nil
    exact absurd agrees.2 (by decide)
  · intro claim
    have agrees := claim readTable [readRemoval, readRemoval] (List.nodup_singleton _)
    exact absurd agrees.2 (by decide)

end MysticAuth.BulkGrants
