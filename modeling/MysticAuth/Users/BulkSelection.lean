import Mathlib.Data.Finset.Card
import MysticAuth.Interleaving.Actions
import MysticAuth.Users.MatchingEmails

/-!
# Selecting users for a bulk action

The Users page keeps the checked rows, and whether everything that matches the
filters is selected instead.  Both are reset during the render in which the
page or the filters have changed; the fetch of the matching emails ends at any
later time.
-/

set_option autoImplicit false

namespace MysticAuth.Users

open JavaScript Interleaving

/-! ## Filters -/

inductive SortDirection where
  | asc
  | desc
  deriving DecidableEq

inductive PermissionSource where
  | policy
  | direct
  deriving DecidableEq

structure SortState where
  key : String
  direction : SortDirection
  deriving DecidableEq

/-- The filters and the sort of the page; the empty string is `ALL_VALUE`. -/
structure Filters where
  debouncedSearch : String
  sort : SortState
  role : String
  verified : String
  status : String
  policy : String
  permission : String
  permissionSource : Option PermissionSource
  lastLogin : String
  deriving DecidableEq

/-- What the server is asked for. -/
structure ActiveFilters where
  search : String
  role : Option String
  isVerified : Option Bool
  status : Option String
  policy : Option String
  permission : Option String
  permissionSource : Option PermissionSource
  lastLogin : Option String
  deriving DecidableEq

def SortDirection.text : SortDirection → String
  | asc => "asc"
  | desc => "desc"

def permissionSourceText : Option PermissionSource → String
  | none => "undefined"
  | some .policy => "policy"
  | some .direct => "direct"

def filterResetKey (filters : Filters) : String :=
  "|".intercalate [filters.debouncedSearch, filters.sort.key, filters.sort.direction.text, filters.role,
    filters.verified, filters.status, filters.policy, filters.permission,
    permissionSourceText filters.permissionSource, filters.lastLogin]

/-- `value || undefined` -/
def orUndefined (value : String) : Option String :=
  if value = "" then none else some value

def toBoolFilter (value : String) : Option Bool :=
  if value = "" then none else some (value == "true")

def activeFilters (filters : Filters) (canFilterByAccess : Bool) : ActiveFilters where
  search := filters.debouncedSearch
  role := orUndefined filters.role
  isVerified := toBoolFilter filters.verified
  status := orUndefined filters.status
  policy := if canFilterByAccess then orUndefined filters.policy else none
  permission := if canFilterByAccess then orUndefined filters.permission else none
  permissionSource := if canFilterByAccess then filters.permissionSource else none
  lastLogin := orUndefined filters.lastLogin

/-! ## The server's users -/

/-- The accounts in the order of their ids, which the requests only read.  Ids are 32 bits long. -/
structure UserTable where
  accounts : List ManagedUser
  isMatch : ActiveFilters → ManagedUser → Bool
  sorted : SortState → List ManagedUser → List ManagedUser
  ids_nodup : (accounts.map ManagedUser.id).Nodup
  sorted_perm : ∀ sort users, (sorted sort users).Perm users
  small : accounts.length < 2 ^ 31

/-- The page's own `PAGE_SIZE`. -/
def pageSize : Nat := 25

structure UsersPage where
  users : List ManagedUser
  total : Rat

namespace UserTable

variable (table : UserTable)

def matching (filters : ActiveFilters) : List ManagedUser :=
  table.accounts.filter (table.isMatch filters)

def totalCount (filters : ActiveFilters) : Option String :=
  some (toString (table.matching filters).length)

/-- What `useUsersQuery` keeps of the answer. -/
def usersPage (page : Nat) (filters : ActiveFilters) (sort : SortState) : UsersPage where
  users := ((table.sorted sort (table.matching filters)).drop ((page - 1) * pageSize)).take pageSize
  total := (Number (table.totalCount filters)).getD 0

def fetchMatching (filters : ActiveFilters) : Except FetchError (List String) :=
  fetchAllMatchingUserEmails
    (listUsers (table.matching filters) fun _ => .ok (table.totalCount filters))

end UserTable

/-! ## The state of the page -/

/-- `superseded` says that the selection was cleared or replaced since the click; the code does not
keep it. -/
structure SelectAllRequest where
  filters : ActiveFilters
  superseded : Bool
  deriving DecidableEq

/-- `loaded` says whether the list query of the page has its data.  `inFlight` is `isSelectingAllMatching` together with what was asked for.
`resurrected` says that an answer has switched the mode on for a superseded selection; the code
does not keep it. -/
structure PageState where
  filters : Filters
  canFilterByAccess : Bool
  page : Nat
  prevResetKey : String
  prevSelectionKey : String
  loaded : Bool
  selectedUserIds : Finset Nat
  selectAllMatching : Bool
  allMatchingEmails : List String
  inFlight : Option SelectAllRequest
  resurrected : Bool
  deriving DecidableEq

def selectionResetKey (page : Nat) (filters : Filters) : String :=
  toString page ++ ("|" ++ filterResetKey filters)

namespace PageState

variable (table : UserTable) (state : PageState)

def active : ActiveFilters :=
  activeFilters state.filters state.canFilterByAccess

/-- What the list query is keyed by. -/
def query : Nat × ActiveFilters × SortState :=
  (state.page, state.active, state.filters.sort)

def data : Option UsersPage :=
  if state.loaded then some (table.usersPage state.page state.active state.filters.sort) else none

def users : List ManagedUser :=
  ((state.data table).map UsersPage.users).getD []

def checkedRows : List ManagedUser :=
  (state.users table).filter fun user => user.id ∈ state.selectedUserIds

def selectedUserEmails : List String :=
  if state.selectAllMatching then state.allMatchingEmails else emailsOf (state.checkedRows table)

def selectedCount : Rat :=
  if state.selectAllMatching then
    ((state.data table).map UsersPage.total).getD state.allMatchingEmails.length
  else state.selectedUserIds.card

/-- The selection is cleared or replaced. -/
def supersede : PageState :=
  { state with inFlight := state.inFlight.map fun request => { request with superseded := true } }

/-- One call of the component.  The page is the one of the state before `usePageResetOn` resets
it. -/
def renderPass : PageState :=
  let resetKey := filterResetKey state.filters
  let selectionKey := selectionResetKey state.page state.filters
  let paged :=
    if resetKey ≠ state.prevResetKey then { state with prevResetKey := resetKey, page := 1 } else state
  if selectionKey ≠ state.prevSelectionKey then
    { paged.supersede with
      prevSelectionKey := selectionKey, selectedUserIds := ∅, selectAllMatching := false }
  else paged

/-- A call that sets state is repeated at once; the second time, nothing is left to set. -/
def render : PageState :=
  state.renderPass.renderPass

/-- The component is rendered with other inputs; `cached` says whether the data of a new query are
there. -/
def rerender (changed : PageState) (cached : Bool) : PageState :=
  let rendered := changed.render
  { rendered with loaded := if rendered.query = state.query then state.loaded else cached }

/-! ## The selection -/

def clearSelection : PageState :=
  { state.supersede with selectedUserIds := ∅, selectAllMatching := false }

def handleSelectionChange (update : Finset Nat → Finset Nat) : PageState :=
  { state.supersede with
    selectAllMatching := false, selectedUserIds := update state.selectedUserIds }

def toggleRow (key : Nat) (previous : Finset Nat) : Finset Nat :=
  if key ∈ previous then previous.erase key else insert key previous

def allKeysOnScreen : List Nat :=
  (state.users table).map ManagedUser.id

def toggleAll (keys : List Nat) (previous : Finset Nat) : Finset Nat :=
  if 0 < keys.length ∧ ∀ key ∈ keys, key ∈ previous then previous \ keys.toFinset
  else previous ∪ keys.toFinset

def canOfferSelectAllMatching : Prop :=
  state.selectAllMatching = false ∧ 0 < (state.users table).length ∧
    state.selectedUserIds.card = (state.users table).length ∧
    ((state.users table).length : Rat) < ((state.data table).map UsersPage.total).getD 0

instance : Decidable (state.canOfferSelectAllMatching table) :=
  inferInstanceAs (Decidable (_ ∧ _ ∧ _ ∧ _))

end PageState

/-! ## What may happen -/

inductive Action where
  /-- the filters, the sort or the operator's own access change -/
  | filter (filters : Filters) (canFilterByAccess : Bool) (cached : Bool)
  | setPage (page : Nat) (cached : Bool)
  /-- the list query of the page is answered -/
  | receive
  | toggleRow (key : Nat)
  | toggleAll
  | clearSelection
  | selectAllMatching
  /-- the fetch of the emails ends, by its answers or by a failed request -/
  | answer (failed : Bool)
  deriving DecidableEq

namespace PageState

variable (table : UserTable)

def answer (state : PageState) (request : SelectAllRequest) (failed : Bool) : PageState :=
  let result := if failed then .error .requestFailed else table.fetchMatching request.filters
  match result with
  | .error _ => { state with inFlight := none }
  | .ok emails =>
      { state with
        inFlight := none, allMatchingEmails := emails, selectAllMatching := true,
        resurrected := state.resurrected || request.superseded }

/-- The filters and the page are what the two keys are made of, so that the other steps do not have
to be followed by a render. -/
def step (state : PageState) : Action → Option PageState
  | .filter filters canFilterByAccess cached =>
      some (state.rerender { state with filters, canFilterByAccess } cached)
  | .setPage page cached => some (state.rerender { state with page } cached)
  | .receive => some { state with loaded := true }
  | .toggleRow key =>
      if key ∈ state.allKeysOnScreen table then some (state.handleSelectionChange (toggleRow key))
      else none
  | .toggleAll =>
      if state.users table = [] then none
      else some (state.handleSelectionChange (toggleAll (state.allKeysOnScreen table)))
  -- the buttons of the toolbar are disabled without a selection, and while the emails are fetched
  | .clearSelection =>
      if state.selectedCount table = 0 then none else some state.clearSelection
  | .selectAllMatching =>
      if state.canOfferSelectAllMatching table ∧ state.inFlight = none then
        some { state with inFlight := some ⟨state.active, false⟩ }
      else none
  | .answer failed => state.inFlight.map fun request => state.answer table request failed

/-- The page is opened. -/
def opened (filters : Filters) (canFilterByAccess : Bool) : PageState where
  filters
  canFilterByAccess
  page := 1
  prevResetKey := filterResetKey filters
  prevSelectionKey := selectionResetKey 1 filters
  loaded := false
  selectedUserIds := ∅
  selectAllMatching := false
  allMatchingEmails := []
  inFlight := none
  resurrected := false

end PageState

end MysticAuth.Users
