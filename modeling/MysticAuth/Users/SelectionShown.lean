import MysticAuth.Users.BulkSelection

/-!
# A bulk action applies to what is shown

While the two reset keys are those of the last render, what is checked is on
screen and what is snapshotted matches the filters, as long as no answer comes
for a selection that has been given up since.
-/

set_option autoImplicit false

namespace MysticAuth.Users

open JavaScript Interleaving

/-! ## What is claimed of the page -/

/-- The list that a bulk dialog is given. -/
structure Shown (table : UserTable) (state : PageState) : Prop where
  emails : state.selectedUserEmails table = emailsOf (state.checkedRows table) ∨
    state.selectedUserEmails table = emailsOf (table.matching state.active)
  count : state.selectedCount table = (state.selectedUserEmails table).length
  notResurrected : state.resurrected = false

/-- A change of what is asked for changes the reset key, or finds nothing selected and nothing in
flight; no list of emails arrives for a selection that was cleared or replaced. -/
def Considerate (table : UserTable) (state : PageState) : Action → Prop
  | .filter filters canFilterByAccess _ =>
      (activeFilters filters canFilterByAccess = state.active ∧ filters.sort = state.filters.sort) ∨
        filterResetKey filters ≠ filterResetKey state.filters ∨
        (state.selectedUserIds = ∅ ∧ state.selectAllMatching = false ∧ state.inFlight = none)
  | .answer failed =>
      ∀ request, state.inFlight = some request → request.superseded = false ∨ failed = true ∨
        selectAllMatchingMax < (table.matching request.filters).length
  | _ => True

/-- The keys are those of the state's page and filters; what is selected is on screen or matches the
filters, and so will be what is asked for. -/
structure Sound (table : UserTable) (state : PageState) : Prop where
  resetKey : state.prevResetKey = filterResetKey state.filters
  selectionKey : state.prevSelectionKey = selectionResetKey state.page state.filters
  onScreen : ∀ id ∈ state.selectedUserIds, id ∈ state.allKeysOnScreen table
  snapshot : state.selectAllMatching = true →
    state.allMatchingEmails = emailsOf (table.matching state.active)
  asked : ∀ request, state.inFlight = some request → request.superseded = false →
    request.filters = state.active
  notResurrected : state.resurrected = false

/-! ## The server's answers -/

namespace UserTable

variable (table : UserTable) (filters : ActiveFilters)

theorem length_matching_lt : (table.matching filters).length < 2 ^ 53 :=
  calc (table.matching filters).length ≤ table.accounts.length := List.length_filter_le _ _
    _ < 2 ^ 31 := table.small
    _ ≤ 2 ^ 53 := by norm_num

theorem total_usersPage (page : Nat) (sort : SortState) :
    (table.usersPage page filters sort).total = (table.matching filters).length := by
  rw [usersPage, totalCount, Number_toString _ (table.length_matching_lt filters), Option.getD_some]

theorem fetchMatching_ok (found : List String) :
    table.fetchMatching filters = .ok found ↔
      (table.matching filters).length ≤ selectAllMatchingMax ∧
        found = emailsOf (table.matching filters) :=
  fetchAllMatchingUserEmails_counted (table.length_matching_lt filters) found

theorem ids_usersPage_nodup (page : Nat) (sort : SortState) :
    ((table.usersPage page filters sort).users.map ManagedUser.id).Nodup := by
  have listed : ((table.matching filters).map ManagedUser.id).Nodup :=
    table.ids_nodup.sublist (List.filter_sublist.map _)
  have sorted : ((table.sorted sort (table.matching filters)).map ManagedUser.id).Nodup :=
    ((table.sorted_perm sort _).map _).nodup_iff.mpr listed
  exact sorted.sublist (((List.take_sublist _ _).trans (List.drop_sublist _ _)).map _)

end UserTable

/-! ## Rendering -/

namespace PageState

variable {table : UserTable} {state next : PageState}

theorem selectionResetKey_page_ne {page other : Nat} (filters : Filters) (changed : page ≠ other) :
    selectionResetKey page filters ≠ selectionResetKey other filters := by
  intro same
  have texts : toString page = toString other := (String.append_left_inj _).mp same
  apply changed
  calc page = Nat.ofDigitChars 10 (toString page).toList 0 := by
        rw [show (toString page).toList = Nat.toDigits 10 page from Nat.toList_repr,
          Nat.ofDigitChars_ten_toDigits]
    _ = Nat.ofDigitChars 10 (toString other).toList 0 := by rw [texts]
    _ = other := by
        rw [show (toString other).toList = Nat.toDigits 10 other from Nat.toList_repr,
          Nat.ofDigitChars_ten_toDigits]

theorem selectionResetKey_filters_ne {filters other : Filters} (page : Nat)
    (changed : filterResetKey filters ≠ filterResetKey other) :
    selectionResetKey page filters ≠ selectionResetKey page other := by
  intro same
  exact changed ((String.append_right_inj _).mp ((String.append_right_inj _).mp same))

/-- Nothing is set by a call in which the keys have not changed. -/
theorem renderPass_of_keys (resetKey : state.prevResetKey = filterResetKey state.filters)
    (selectionKey : state.prevSelectionKey = selectionResetKey state.page state.filters) :
    state.renderPass = state := by
  simp [renderPass, resetKey, selectionKey]

/-- The state when the selection has been reset. -/
def reset (state : PageState) (page : Nat) : PageState :=
  { state.supersede with
    page, prevResetKey := filterResetKey state.filters
    prevSelectionKey := selectionResetKey page state.filters
    selectedUserIds := ∅, selectAllMatching := false }

theorem render_of_newFilters (resetKey : state.prevResetKey ≠ filterResetKey state.filters)
    (selectionKey : state.prevSelectionKey ≠ selectionResetKey state.page state.filters) :
    state.render = state.reset 1 := by
  have first : state.renderPass =
      { state.reset 1 with prevSelectionKey := selectionResetKey state.page state.filters } := by
    simp [renderPass, resetKey.symm, selectionKey.symm, reset, supersede]
  rw [render, first]
  by_cases samePage : selectionResetKey 1 state.filters = selectionResetKey state.page state.filters
  · simp [renderPass, reset, supersede, samePage]
  · simp [renderPass, reset, supersede, samePage, Option.map_map, Function.comp_def]

theorem render_of_newPage (resetKey : state.prevResetKey = filterResetKey state.filters)
    (selectionKey : state.prevSelectionKey ≠ selectionResetKey state.page state.filters) :
    state.render = state.reset state.page := by
  have first : state.renderPass = state.reset state.page := by
    simp [renderPass, resetKey, selectionKey.symm, reset, supersede]
  rw [render, first]
  apply renderPass_of_keys
  · rw [reset, supersede]
  · rw [reset, supersede]

theorem render_of_keys (resetKey : state.prevResetKey = filterResetKey state.filters)
    (selectionKey : state.prevSelectionKey = selectionResetKey state.page state.filters) :
    state.render = state := by
  rw [render, renderPass_of_keys resetKey selectionKey, renderPass_of_keys resetKey selectionKey]

/-- The rows on screen are those of the query, once it is answered. -/
theorem allKeysOnScreen_congr {other : PageState} (query : state.query = other.query)
    (loaded : state.loaded = other.loaded) :
    state.allKeysOnScreen table = other.allKeysOnScreen table := by
  simp only [PageState.query, Prod.mk.injEq] at query
  rw [allKeysOnScreen, allKeysOnScreen, users, users, data, data, loaded, query.1, query.2.1,
    query.2.2]

/-- With everything selected, the count is the server's, once its answer is there. -/
theorem selectedCount_of_all (mode : state.selectAllMatching = true) (loaded : state.loaded = true) :
    state.selectedCount table = (table.matching state.active).length := by
  rw [selectedCount, mode, if_pos rfl, data, loaded, if_pos rfl]
  exact table.total_usersPage state.active state.page state.filters.sort

theorem superseded_of_supersede {request : SelectAllRequest}
    (inFlight : state.supersede.inFlight = some request) : request.superseded = true := by
  obtain ⟨earlier, _, rfl⟩ := Option.map_eq_some_iff.mp inFlight
  rfl

end PageState

/-! ## Steps -/

namespace Sound

variable {table : UserTable} {state : PageState}

/-- Nothing is selected after a reset, and what is in flight is superseded. -/
theorem of_reset (page : Nat) (loaded : Bool) (notResurrected : state.resurrected = false) :
    Sound table { state.reset page with loaded } where
  resetKey := by rw [PageState.reset, PageState.supersede]
  selectionKey := by rw [PageState.reset, PageState.supersede]
  onScreen := fun id member => absurd member (Finset.notMem_empty id)
  snapshot := fun on => absurd on Bool.false_ne_true
  asked := by
    intro request inFlight fresh
    rw [PageState.superseded_of_supersede inFlight] at fresh
    cases fresh
  notResurrected := notResurrected

/-- The query, the keys and the request stay; only rows of the page are checked. -/
theorem handleSelectionChange (sound : Sound table state) (update : Finset Nat → Finset Nat)
    (onScreen : ∀ id ∈ update state.selectedUserIds, id ∈ state.allKeysOnScreen table) :
    Sound table (state.handleSelectionChange update) where
  resetKey := sound.resetKey
  selectionKey := sound.selectionKey
  onScreen := onScreen
  snapshot := fun on => absurd on Bool.false_ne_true
  asked := by
    intro request inFlight fresh
    rw [PageState.superseded_of_supersede inFlight] at fresh
    cases fresh
  notResurrected := sound.notResurrected

theorem filter (sound : Sound table state) (filters : Filters) (canFilterByAccess cached : Bool)
    (considerate : Considerate table state (.filter filters canFilterByAccess cached)) :
    Sound table (state.rerender { state with filters, canFilterByAccess } cached) := by
  let changed : PageState := { state with filters, canFilterByAccess }
  by_cases key : filterResetKey filters = filterResetKey state.filters
  · have resetKey : changed.prevResetKey = filterResetKey changed.filters :=
      sound.resetKey.trans key.symm
    have selectionKey : changed.prevSelectionKey = selectionResetKey changed.page changed.filters := by
      rw [selectionResetKey, key]
      exact sound.selectionKey
    rw [PageState.rerender, PageState.render_of_keys resetKey selectionKey]
    rcases considerate with ⟨active, sort⟩ | differs | ⟨empty, off, idle⟩
    · have query : changed.query = state.query := by
        rw [PageState.query, PageState.query, ← sort]
        exact congrArg (fun active => (state.page, active, filters.sort)) active
      have keys : PageState.allKeysOnScreen table { changed with loaded := state.loaded } =
          state.allKeysOnScreen table := PageState.allKeysOnScreen_congr query rfl
      simp only [if_pos query]
      exact {
        resetKey := resetKey
        selectionKey := selectionKey
        onScreen := fun id member => by
          rw [keys]
          exact sound.onScreen id member
        snapshot := fun on => (sound.snapshot on).trans (by rw [← active]; rfl)
        asked := fun request inFlight fresh => (sound.asked request inFlight fresh).trans active.symm
        notResurrected := sound.notResurrected }
    · exact absurd key differs
    · exact {
        resetKey := resetKey
        selectionKey := selectionKey
        onScreen := fun id member => by
          rw [show changed.selectedUserIds = ∅ from empty] at member
          exact absurd member (Finset.notMem_empty id)
        snapshot := fun on => absurd (on.symm.trans off) (by decide)
        asked := fun request inFlight => absurd (inFlight.symm.trans idle) (by simp)
        notResurrected := sound.notResurrected }
  · have resetKey : changed.prevResetKey ≠ filterResetKey changed.filters := by
      rw [sound.resetKey]
      exact Ne.symm key
    have selectionKey : changed.prevSelectionKey ≠ selectionResetKey changed.page changed.filters := by
      rw [sound.selectionKey]
      exact PageState.selectionResetKey_filters_ne state.page (Ne.symm key)
    rw [PageState.rerender, PageState.render_of_newFilters resetKey selectionKey]
    exact of_reset 1 _ sound.notResurrected

theorem setPage (sound : Sound table state) (page : Nat) (cached : Bool) :
    Sound table (state.rerender { state with page } cached) := by
  by_cases same : state.page = page
  · subst same
    have query : state.render.query = state.query := by
      rw [PageState.render_of_keys sound.resetKey sound.selectionKey]
    rw [PageState.rerender]
    simp only [if_pos query]
    rw [PageState.render_of_keys sound.resetKey sound.selectionKey]
    exact sound
  · let changed : PageState := { state with page }
    have resetKey : changed.prevResetKey = filterResetKey changed.filters := sound.resetKey
    have selectionKey : changed.prevSelectionKey ≠ selectionResetKey changed.page changed.filters := by
      rw [sound.selectionKey]
      exact PageState.selectionResetKey_page_ne state.filters same
    rw [PageState.rerender, PageState.render_of_newPage resetKey selectionKey]
    exact of_reset page _ sound.notResurrected

theorem receive (sound : Sound table state) : Sound table { state with loaded := true } where
  resetKey := sound.resetKey
  selectionKey := sound.selectionKey
  onScreen := by
    intro id member
    have before := sound.onScreen id member
    cases loaded : state.loaded with
    | true =>
      have same : { state with loaded := true } = state := by rw [← loaded]
      rwa [same]
    | false => simp [PageState.allKeysOnScreen, PageState.users, PageState.data, loaded] at before
  snapshot := sound.snapshot
  asked := sound.asked
  notResurrected := sound.notResurrected

theorem toggleRow (sound : Sound table state) (key : Nat)
    (onScreen : key ∈ state.allKeysOnScreen table) :
    Sound table (state.handleSelectionChange (PageState.toggleRow key)) := by
  apply sound.handleSelectionChange
  intro id member
  unfold PageState.toggleRow at member
  split at member
  · exact sound.onScreen id (Finset.mem_of_mem_erase member)
  · rcases Finset.mem_insert.mp member with rfl | earlier
    · exact onScreen
    · exact sound.onScreen id earlier

theorem toggleAll (sound : Sound table state) :
    Sound table
      (state.handleSelectionChange (PageState.toggleAll (state.allKeysOnScreen table))) := by
  apply sound.handleSelectionChange
  intro id member
  unfold PageState.toggleAll at member
  split at member
  · exact sound.onScreen id (Finset.mem_sdiff.mp member).1
  · rcases Finset.mem_union.mp member with earlier | now
    · exact sound.onScreen id earlier
    · exact List.mem_toFinset.mp now

theorem clearSelection (sound : Sound table state) : Sound table state.clearSelection :=
  sound.handleSelectionChange (fun _ => ∅) fun id member => absurd member (Finset.notMem_empty id)

theorem selectAllMatching (sound : Sound table state) :
    Sound table { state with inFlight := some ⟨state.active, false⟩ } where
  resetKey := sound.resetKey
  selectionKey := sound.selectionKey
  onScreen := sound.onScreen
  snapshot := sound.snapshot
  asked := fun request inFlight _ => by
    obtain rfl := Option.some.inj inFlight
    rfl
  notResurrected := sound.notResurrected

/-- Without emails, the answer only ends the request. -/
theorem idle (sound : Sound table state) : Sound table { state with inFlight := none } where
  resetKey := sound.resetKey
  selectionKey := sound.selectionKey
  onScreen := sound.onScreen
  snapshot := sound.snapshot
  asked := fun request inFlight => by cases inFlight
  notResurrected := sound.notResurrected

theorem answer (sound : Sound table state) (request : SelectAllRequest) (failed : Bool)
    (inFlight : state.inFlight = some request)
    (considerate : Considerate table state (.answer failed)) :
    Sound table (state.answer table request failed) := by
  unfold PageState.answer
  cases failed with
  | true => exact sound.idle
  | false =>
    simp only [Bool.false_eq_true, ↓reduceIte]
    cases result : table.fetchMatching request.filters with
    | error failure => exact sound.idle
    | ok emails =>
      obtain ⟨under, everyone⟩ := (table.fetchMatching_ok request.filters emails).mp result
      have fresh : request.superseded = false := by
        rcases considerate request inFlight with fresh | failed | many
        · exact fresh
        · cases failed
        · omega
      have shown := sound.asked request inFlight fresh
      exact {
        resetKey := sound.resetKey
        selectionKey := sound.selectionKey
        onScreen := sound.onScreen
        snapshot := fun _ => by
          rw [everyone, shown]
          rfl
        asked := fun other inFlight => by cases inFlight
        notResurrected := by simp only [sound.notResurrected, fresh, Bool.or_self] }

theorem step {next : PageState} {action : Action} (sound : Sound table state)
    (considerate : Considerate table state action) (taken : state.step table action = some next) :
    Sound table next := by
  cases action with
  | filter filters canFilterByAccess cached =>
    obtain rfl := Option.some.inj taken
    exact sound.filter filters canFilterByAccess cached considerate
  | setPage page cached =>
    obtain rfl := Option.some.inj taken
    exact sound.setPage page cached
  | receive =>
    obtain rfl := Option.some.inj taken
    exact sound.receive
  | toggleRow key =>
    obtain ⟨onScreen, changed⟩ := Option.ite_none_right_eq_some.mp taken
    obtain rfl := Option.some.inj changed
    exact sound.toggleRow key onScreen
  | toggleAll =>
    obtain ⟨_, changed⟩ := Option.ite_none_left_eq_some.mp taken
    obtain rfl := Option.some.inj changed
    exact sound.toggleAll
  | clearSelection =>
    obtain ⟨_, changed⟩ := Option.ite_none_left_eq_some.mp taken
    obtain rfl := Option.some.inj changed
    exact sound.clearSelection
  | selectAllMatching =>
    obtain ⟨_, changed⟩ := Option.ite_none_right_eq_some.mp taken
    obtain rfl := Option.some.inj changed
    exact sound.selectAllMatching
  | answer failed =>
    obtain ⟨request, inFlight, rfl⟩ := Option.map_eq_some_iff.mp taken
    exact sound.answer request failed inFlight considerate

theorem opened (filters : Filters) (canFilterByAccess : Bool) :
    Sound table (PageState.opened filters canFilterByAccess) where
  resetKey := rfl
  selectionKey := rfl
  onScreen := fun id member => absurd member (Finset.notMem_empty id)
  snapshot := fun on => absurd on Bool.false_ne_true
  asked := fun request inFlight => by cases inFlight
  notResurrected := rfl

/-! ## The list and its count -/

/-- Every checked id is one row, and every row has an id of its own. -/
theorem card_selectedUserIds (sound : Sound table state) :
    state.selectedUserIds.card = (state.checkedRows table).length := by
  have nodup : ((state.users table).map ManagedUser.id).Nodup := by
    unfold PageState.users PageState.data
    split
    · exact table.ids_usersPage_nodup state.active state.page state.filters.sort
    · exact List.nodup_nil
  have checked : ((state.checkedRows table).map ManagedUser.id).Nodup :=
    nodup.sublist (List.filter_sublist.map _)
  have ids : ((state.checkedRows table).map ManagedUser.id).toFinset = state.selectedUserIds := by
    ext id
    simp only [List.mem_toFinset, List.mem_map, PageState.checkedRows, List.mem_filter,
      decide_eq_true_eq]
    constructor
    · rintro ⟨user, ⟨_, selected⟩, rfl⟩
      exact selected
    · intro selected
      obtain ⟨user, row, rfl⟩ := List.mem_map.mp (sound.onScreen id selected)
      exact ⟨user, ⟨row, selected⟩, rfl⟩
  rw [← ids, List.toFinset_card_of_nodup checked, List.length_map]

theorem shown (sound : Sound table state) : Shown table state := by
  cases mode : state.selectAllMatching with
  | false =>
    have emails : state.selectedUserEmails table = emailsOf (state.checkedRows table) := by
      rw [PageState.selectedUserEmails, mode, if_neg Bool.false_ne_true]
    refine ⟨Or.inl emails, ?_, sound.notResurrected⟩
    rw [PageState.selectedCount, mode, if_neg Bool.false_ne_true, emails, emailsOf, List.length_map,
      sound.card_selectedUserIds]
  | true =>
    have emails : state.selectedUserEmails table = emailsOf (table.matching state.active) := by
      rw [PageState.selectedUserEmails, mode, if_pos rfl, sound.snapshot mode]
    refine ⟨Or.inr emails, ?_, sound.notResurrected⟩
    rw [emails, emailsOf, List.length_map]
    cases loaded : state.loaded with
    | true => exact PageState.selectedCount_of_all mode loaded
    | false =>
      rw [PageState.selectedCount, mode, if_pos rfl, PageState.data, loaded, sound.snapshot mode,
        emailsOf, List.length_map]
      rfl

end Sound

theorem bulk_selection_shown (table : UserTable) (filters : Filters) (canFilterByAccess : Bool)
    (actions : List Action) (state : PageState)
    (run : Follows (PageState.step table) (Considerate table)
      (PageState.opened filters canFilterByAccess) actions state) : Shown table state :=
  (run.preserves (Sound table) (Sound.opened filters canFilterByAccess)
    fun _ _ _ _ considerate taken sound => sound.step considerate taken).shown

/-! ## Runs on twenty-seven accounts -/

/-- The filter on the role leaves the first account. -/
def team : UserTable where
  accounts := (List.range 27).map fun n => ⟨n, s!"user{n}@example.com"⟩
  isMatch := fun filters user => filters.role.isNone || user.id == 0
  sorted := fun _ users => users
  ids_nodup := by decide
  sorted_perm := fun _ users => List.Perm.refl users
  small := by decide

def everyone : Filters where
  debouncedSearch := ""
  sort := ⟨"", .desc⟩
  role := ""
  verified := ""
  status := ""
  policy := ""
  permission := ""
  permissionSource := none
  lastLogin := ""

def admins : Filters :=
  { everyone with role := "admin" }

/-- Every row of the first page is checked. -/
def checkedPage : PageState :=
  { PageState.opened everyone true with
    loaded := true, selectedUserIds := (List.range 25).toFinset }

def askedForAll : PageState :=
  { checkedPage with inFlight := some ⟨activeFilters everyone true, false⟩ }

/-- The filters have changed before the answer. -/
def askedThenFiltered : PageState :=
  askedForAll.rerender { askedForAll with filters := admins } true

theorem step_askForAll :
    PageState.step team checkedPage .selectAllMatching = some askedForAll := by
  have more : (checkedPage.users team).length < (team.matching checkedPage.active).length := by
    decide +kernel
  have offered : checkedPage.canOfferSelectAllMatching team := by
    refine ⟨rfl, by decide +kernel, by decide +kernel, ?_⟩
    change _ < (team.usersPage _ _ _).total
    rw [UserTable.total_usersPage]
    exact_mod_cast more
  exact if_pos ⟨offered, rfl⟩

/-- The steps of every run below, of which none needs a permission. -/
theorem follows_askForAll {actions : List Action} {state : PageState}
    (permits : PageState → Action → Prop)
    (free : ∀ before action, action ∈ [.receive, .toggleAll, .selectAllMatching] →
      permits before action)
    (rest : Follows (PageState.step team) permits askedForAll actions state) :
    Follows (PageState.step team) permits (PageState.opened everyone true)
      (.receive :: .toggleAll :: .selectAllMatching :: actions) state := by
  have toggled : PageState.step team { PageState.opened everyone true with loaded := true }
      .toggleAll = some checkedPage := by decide +kernel
  apply Follows.cons (free _ _ (by simp)) rfl
  apply Follows.cons (free _ _ (by simp)) toggled
  exact Follows.cons (free _ _ (by simp)) step_askForAll rest

theorem answer_of_fetched {state : PageState} {request : SelectAllRequest}
    (under : (team.matching request.filters).length ≤ selectAllMatchingMax) :
    state.answer team request false =
      { state with
        inFlight := none, allMatchingEmails := emailsOf (team.matching request.filters)
        selectAllMatching := true, resurrected := state.resurrected || request.superseded } := by
  have fetched := (team.fetchMatching_ok request.filters _).mpr ⟨under, rfl⟩
  simp only [PageState.answer, Bool.false_eq_true, ↓reduceIte, fetched]

theorem bulk_selection_shown_team :
    Shown team (askedForAll.answer team ⟨activeFilters everyone true, false⟩ false) := by
  apply bulk_selection_shown team everyone true
    [.receive, .toggleAll, .selectAllMatching, .answer false]
  apply follows_askForAll
  · intro before action free
    simp only [List.mem_cons, List.not_mem_nil, or_false] at free
    rcases free with rfl | rfl | rfl <;> trivial
  · apply Follows.cons _ rfl (.nil _)
    intro request inFlight
    obtain rfl := Option.some.inj inFlight
    exact Or.inl rfl

/-- The filters change while the emails are fetched: the dialog is given twenty-seven emails, of
which the page shows one. -/
theorem late_answer_resurrects :
    ∃ actions state, Follows (PageState.step team) (fun _ _ => True)
        (PageState.opened everyone true) actions state ∧
      state.selectedUserEmails team ≠ emailsOf (state.checkedRows team) ∧
      state.selectedUserEmails team ≠ emailsOf (team.matching state.active) ∧
      state.selectedCount team ≠ (state.selectedUserEmails team).length ∧
      state.resurrected = true := by
  let asked : SelectAllRequest := ⟨activeFilters everyone true, true⟩
  have under : (team.matching asked.filters).length ≤ selectAllMatchingMax := by decide +kernel
  refine ⟨[.receive, .toggleAll, .selectAllMatching, .filter admins true true, .answer false],
    askedThenFiltered.answer team asked false, ?_, ?_⟩
  · have filtered : PageState.step team askedForAll (.filter admins true true) =
        some askedThenFiltered := rfl
    have inFlight : askedThenFiltered.inFlight = some asked := by decide +kernel
    have answered : PageState.step team askedThenFiltered (.answer false) =
        some (askedThenFiltered.answer team asked false) := by
      rw [PageState.step, inFlight, Option.map_some]
    apply follows_askForAll _ (fun _ _ _ => trivial)
    exact .cons trivial filtered (.cons trivial answered (.nil _))
  · rw [answer_of_fetched under]
    refine ⟨by decide +kernel, by decide +kernel, ?_, by decide +kernel⟩
    rw [PageState.selectedCount_of_all rfl (by decide +kernel)]
    exact_mod_cast (by decide +kernel :
      (team.matching askedThenFiltered.active).length ≠ (team.matching asked.filters).length)

end MysticAuth.Users
