import MysticAuth.Accounts.AccountRows
import MysticAuth.Accounts.EmailKeys

/-!
# Separation of accounts

What is read for one account does not depend on the operations performed on
another one exactly when the two stored addresses have different casefolded
forms.  Storage lowercases and the derived keys casefold, and casefolding
identifies more: `ß` and `ss` are two accounts with one key.
-/

set_option autoImplicit false

namespace MysticAuth

open Python KeyTables AccountStores

/-! ## When derived keys coincide -/

section Keys

variable (tables : KeyTables) (sound : tables.Sound)

include sound

omit sound in
theorem append_left_cancel (label a b : String) (same : label ++ a = label ++ b) : a = b :=
  String.append_right_inj label |>.mp same

theorem emailKeyId_inj (a b : String) (same : tables.emailKeyId a = tables.emailKeyId b) :
    tables.foldedEmail a = tables.foldedEmail b := by
  unfold emailKeyId at same
  exact append_left_cancel _ _ _ (sound.injective same)

theorem emailDigest_inj (a b : String) (same : tables.emailDigest a = tables.emailDigest b) :
    tables.foldedEmail a = tables.foldedEmail b := by
  unfold emailDigest at same
  exact append_left_cancel _ _ _ (sound.injective same)

theorem userPoliciesKey_inj (a b : String)
    (same : tables.userPoliciesKey a = tables.userPoliciesKey b) :
    tables.foldedEmail a = tables.foldedEmail b := by
  unfold userPoliciesKey at same
  exact emailKeyId_inj tables sound a b (append_left_cancel _ _ _ same)

theorem userPermissionsKey_inj (a b : String)
    (same : tables.userPermissionsKey a = tables.userPermissionsKey b) :
    tables.foldedEmail a = tables.foldedEmail b := by
  unfold userPermissionsKey at same
  exact emailKeyId_inj tables sound a b (append_left_cancel _ _ _ same)

theorem activeTokenKey_inj (a b : String)
    (same : tables.activeTokenKey a = tables.activeTokenKey b) :
    tables.foldedEmail a = tables.foldedEmail b := by
  unfold activeTokenKey at same
  exact sound.injective (append_left_cancel _ _ _ same)

theorem accountVersionKey_inj (a b : String)
    (same : tables.accountVersionKey a = tables.accountVersionKey b) :
    tables.foldedEmail a = tables.foldedEmail b := by
  unfold accountVersionKey at same
  exact emailDigest_inj tables sound a b (append_left_cancel _ _ _ same)

omit sound in
/-- Splitting at the last separator is unambiguous. -/
theorem append_separator_inj (left left' right right' : List Char) (separator : Char)
    (absent : separator ∉ right) (absent' : separator ∉ right')
    (same : left ++ separator :: right = left' ++ separator :: right') : left = left' := by
  rcases List.append_eq_append_iff.mp same with ⟨middle, rfl, rest⟩ | ⟨middle, rfl, rest⟩
  · cases middle with
    | nil => simp
    | cons head tail =>
      simp only [List.cons_append, List.cons.injEq] at rest
      exact absurd (rest.2 ▸ by simp) absent
  · cases middle with
    | nil => simp
    | cons head tail =>
      simp only [List.cons_append, List.cons.injEq] at rest
      exact absurd (rest.2 ▸ by simp) absent'

theorem chainVersionKey_inj (a b : String) (chainId chainId' : ChainId)
    (same : tables.chainVersionKey a chainId = tables.chainVersionKey b chainId') :
    tables.foldedEmail a = tables.foldedEmail b := by
  unfold chainVersionKey at same
  have lists := congrArg String.toList (append_left_cancel _ _ _ same)
  simp only [String.toList_append] at lists
  have digests := append_separator_inj _ _ _ _ ':'
    (fun member => (chainId.property _ member).1 rfl)
    (fun member => (chainId'.property _ member).1 rfl) lists
  exact emailDigest_inj tables sound a b (String.toList_inj.mp digests)

theorem legacyAccount_ne_account (email : StoredEmail) (other : String) :
    legacyAccountVersionKey email ≠ tables.accountVersionKey other := by
  intro same
  have lists := congrArg String.toList same
  rw [toList_legacyAccountVersionKey, toList_accountVersionKey] at lists
  have atSign : '@' ∈ email.val.toList := email.property
  simp only [String.reduceToList, List.cons_append, List.nil_append, List.cons.injEq, true_and]
    at lists
  rw [lists] at atSign
  simp [emailDigest, sound.noAtSign] at atSign

theorem legacyChain_ne_chain (email : StoredEmail) (other : String) (chainId chainId' : ChainId) :
    legacyChainVersionKey email chainId ≠ tables.chainVersionKey other chainId' := by
  intro same
  have lists := congrArg String.toList same
  have atSign : '@' ∈ (legacyChainVersionKey email chainId).toList := by
    simp [toList_legacyChainVersionKey, email.property]
  rw [lists] at atSign
  simp only [toList_chainVersionKey, List.mem_append] at atSign
  rcases atSign with inPrefix | inDigest | inSeparator | inChain
  · simp at inPrefix
  · exact sound.noAtSign _ inDigest
  · simp at inSeparator
  · exact (chainId'.property _ inChain).2 rfl

end Keys

/-! ## Stores that differ only in what belongs to one account -/

section Separation

variable (tables : KeyTables) (b : StoredEmail)

/-- The Valkey keys written for `b`; single-use reset markers are keyed by their own id. -/
def ownsValkeyKey (key : String) : Prop :=
  key = tables.userPoliciesKey b ∨ key = tables.userPermissionsKey b ∨
    key = tables.activeTokenKey b ∨ ∃ jti, key = resetMarkerKey jti

def ownsVersionKey (key : String) : Prop :=
  key = tables.accountVersionKey b ∨ ∃ chainId : ChainId, key = tables.chainVersionKey b chainId

structure AgreeApartFrom (left right : AccountStores) : Prop where
  rows : RowsAgree b left.database right.database
  valkey : ∀ key, ¬ ownsValkeyKey tables b key → left.valkey key = right.valkey key
  versions : ∀ key, ¬ ownsVersionKey tables b key →
    left.revocationVersions key = right.revocationVersions key

variable {tables b}

theorem AgreeApartFrom.refl (stores : AccountStores) : AgreeApartFrom tables b stores stores :=
  ⟨⟨rfl, rfl, rfl, rfl⟩, fun _ _ => rfl, fun _ _ => rfl⟩

theorem AgreeApartFrom.trans {left right third : AccountStores}
    (agree : AgreeApartFrom tables b left right) (agree' : AgreeApartFrom tables b right third) :
    AgreeApartFrom tables b left third :=
  ⟨agree.rows.trans agree'.rows,
    fun key foreign => (agree.valkey key foreign).trans (agree'.valkey key foreign),
    fun key foreign => (agree.versions key foreign).trans (agree'.versions key foreign)⟩

theorem AgreeApartFrom.symm {left right : AccountStores}
    (agree : AgreeApartFrom tables b left right) : AgreeApartFrom tables b right left :=
  ⟨agree.rows.symm, fun key foreign => (agree.valkey key foreign).symm,
    fun key foreign => (agree.versions key foreign).symm⟩

theorem setValkey_own (stores : AccountStores) (key : String) (entry : Option ValkeyEntry)
    (own : ownsValkeyKey tables b key) :
    AgreeApartFrom tables b (stores.setValkey key entry) stores := by
  refine ⟨⟨rfl, rfl, rfl, rfl⟩, fun other foreign => ?_, fun _ _ => rfl⟩
  have differs : other ≠ key := fun same => foreign (same ▸ own)
  simp [setValkey, Function.update_of_ne differs]

theorem setValkey_congr {left right : AccountStores} (agree : AgreeApartFrom tables b left right)
    (key : String) (entry entry' : Option ValkeyEntry)
    (same : ¬ ownsValkeyKey tables b key → entry = entry') :
    AgreeApartFrom tables b (left.setValkey key entry) (right.setValkey key entry') := by
  refine ⟨agree.rows, fun other foreign => ?_, agree.versions⟩
  by_cases isKey : other = key
  · subst isKey
    simp [setValkey, same foreign]
  · simp [setValkey, Function.update_of_ne isKey, agree.valkey other foreign]

theorem setVersion_own (stores : AccountStores) (key : String) (version : Option Nat)
    (own : ownsVersionKey tables b key) :
    AgreeApartFrom tables b
      { stores with revocationVersions := Function.update stores.revocationVersions key version }
      stores := by
  refine ⟨⟨rfl, rfl, rfl, rfl⟩, fun _ _ => rfl, fun other foreign => ?_⟩
  have differs : other ≠ key := fun same => foreign (same ▸ own)
  simp [Function.update_of_ne differs]

/-! ## One operation -/

/-- Primary key of the users table. -/
def UserIdsUnique (stores : AccountStores) : Prop :=
  (stores.database.users.map User.id).Nodup

theorem mutateUser_own (stores : AccountStores) (key : String)
    (mutate : Database → Nat → Option Database) (rowMutation : RowMutation mutate)
    (own : ownsValkeyKey tables b key) :
    AgreeApartFrom tables b (stores.mutateUser b key mutate) stores := by
  simp only [mutateUser]
  split
  · exact .refl stores
  · rename_i user found
    split
    · exact .refl stores
    · rename_i database mutated
      have rows := rowMutation.2 _ _ _ _ (own_of_getByEmail _ _ _ found) mutated
      exact (setValkey_own _ key none own).trans ⟨rows, fun _ _ => rfl, fun _ _ => rfl⟩

theorem mutateUser_congr {left right : AccountStores} (agree : AgreeApartFrom tables b left right)
    (unique : UserIdsUnique left) (email : StoredEmail) (differs : email ≠ b) (key : String)
    (mutate : Database → Nat → Option Database) (rowMutation : RowMutation mutate) :
    AgreeApartFrom tables b (left.mutateUser email key mutate)
      (right.mutateUser email key mutate) := by
  have sameUser : right.database.getByEmail email = left.database.getByEmail email := by
    simp only [Database.getByEmail, agree.rows.users]
  simp only [mutateUser, sameUser]
  cases found : left.database.getByEmail email with
  | none => exact agree
  | some user =>
    have foreign := foreign_of_getByEmail _ unique email b
      (fun same => differs (Subtype.ext same)) user found
    rcases rowMutation.1 _ _ _ user.id agree.rows foreign with
      ⟨noneLeft, noneRight⟩ | ⟨left', right', someLeft, someRight, rows⟩
    · simpa only [noneLeft, noneRight] using agree
    · simp only [someLeft, someRight]
      have agree' : AgreeApartFrom tables b { left with database := left' }
          { right with database := right' } := ⟨rows, agree.valkey, agree.versions⟩
      exact setValkey_congr agree' key none none fun _ => rfl

/-! Reads of an account whose keys are not `b`'s. -/

theorem readPolicies_congr {left right : AccountStores}
    (agree : AgreeApartFrom tables b left right) (unique : UserIdsUnique left)
    (email : StoredEmail) (differs : email ≠ b)
    (foreign : ¬ ownsValkeyKey tables b (tables.userPoliciesKey email)) :
    left.getActivePoliciesForUser tables email = right.getActivePoliciesForUser tables email := by
  simp only [getActivePoliciesForUser, getUserPolicies, agree.valkey _ foreign,
    activePolicies_congr agree.rows unique email fun same => differs (Subtype.ext same)]

theorem readPermissions_congr {left right : AccountStores}
    (agree : AgreeApartFrom tables b left right) (unique : UserIdsUnique left)
    (email : StoredEmail) (differs : email ≠ b)
    (foreign : ¬ ownsValkeyKey tables b (tables.userPermissionsKey email)) :
    left.getActivePermissionsForUser tables email =
      right.getActivePermissionsForUser tables email := by
  simp only [getActivePermissionsForUser, getUserPermissions, agree.valkey _ foreign,
    activePermissions_congr agree.rows unique email fun same => differs (Subtype.ext same)]

/-! Filling the cache. -/

theorem fillPolicies_own (stores : AccountStores) (email : String)
    (own : ownsValkeyKey tables b (tables.userPoliciesKey email)) :
    AgreeApartFrom tables b (stores.readPolicies tables email) stores := by
  simp only [readPolicies]
  split
  · exact .refl stores
  · exact setValkey_own _ _ _ own

theorem fillPermissions_own (stores : AccountStores) (email : String)
    (own : ownsValkeyKey tables b (tables.userPermissionsKey email)) :
    AgreeApartFrom tables b (stores.readPermissions tables email) stores := by
  simp only [readPermissions]
  split
  · exact .refl stores
  · exact setValkey_own _ _ _ own

theorem fillPolicies_congr {left right : AccountStores}
    (agree : AgreeApartFrom tables b left right) (unique : UserIdsUnique left)
    (email : StoredEmail) (differs : email ≠ b) :
    AgreeApartFrom tables b (left.readPolicies tables email)
      (right.readPolicies tables email) := by
  by_cases own : ownsValkeyKey tables b (tables.userPoliciesKey email)
  · -- a shared key hides whatever either side does with it
    have right' := fillPolicies_own right email own
    exact ((fillPolicies_own left email own).trans agree).trans right'.symm
  · have cached : left.getUserPolicies tables email = right.getUserPolicies tables email := by
      simp only [getUserPolicies, agree.valkey _ own]
    simp only [readPolicies, cached, readPolicies_congr agree unique email differs own]
    by_cases hit : (right.getUserPolicies tables email).isSome = true
    · simpa only [if_pos hit] using agree
    · simpa only [if_neg hit] using setValkey_congr agree _ _ _ fun _ => rfl

theorem fillPermissions_congr {left right : AccountStores}
    (agree : AgreeApartFrom tables b left right) (unique : UserIdsUnique left)
    (email : StoredEmail) (differs : email ≠ b) :
    AgreeApartFrom tables b (left.readPermissions tables email)
      (right.readPermissions tables email) := by
  by_cases own : ownsValkeyKey tables b (tables.userPermissionsKey email)
  · have right' := fillPermissions_own right email own
    exact ((fillPermissions_own left email own).trans agree).trans right'.symm
  · have cached : left.getUserPermissions tables email = right.getUserPermissions tables email := by
      simp only [getUserPermissions, agree.valkey _ own]
    simp only [readPermissions, cached, readPermissions_congr agree unique email differs own]
    by_cases hit : (right.getUserPermissions tables email).isSome = true
    · simpa only [if_pos hit] using agree
    · simpa only [if_neg hit] using setValkey_congr agree _ _ _ fun _ => rfl

/-! Version bumps. -/

theorem legacyAccount_foreign (sound : tables.Sound) (email : StoredEmail) :
    ¬ ownsVersionKey tables b (legacyAccountVersionKey email) := by
  rintro (same | ⟨chainId, same⟩)
  · exact legacyAccount_ne_account tables sound email b same
  · have lists := congrArg String.toList same
    unfold legacyAccountVersionKey chainVersionKey at lists
    simp at lists

theorem legacyChain_foreign (sound : tables.Sound) (email : StoredEmail) (chainId : ChainId) :
    ¬ ownsVersionKey tables b (legacyChainVersionKey email chainId) := by
  rintro (same | ⟨chainId', same⟩)
  · have lists := congrArg String.toList same
    unfold legacyChainVersionKey accountVersionKey at lists
    simp at lists
  · exact legacyChain_ne_chain tables sound email b chainId chainId' same

theorem bumpVersion_own (stores : AccountStores) (key legacyKey : String)
    (own : ownsVersionKey tables b key) :
    AgreeApartFrom tables b (stores.bumpVersion key legacyKey) stores :=
  setVersion_own stores key _ own

theorem bumpVersion_congr {left right : AccountStores}
    (agree : AgreeApartFrom tables b left right) (key legacyKey : String)
    (legacyForeign : ¬ ownsVersionKey tables b legacyKey) :
    AgreeApartFrom tables b (left.bumpVersion key legacyKey)
      (right.bumpVersion key legacyKey) := by
  by_cases own : ownsVersionKey tables b key
  · have right' := bumpVersion_own right key legacyKey own
    exact ((bumpVersion_own left key legacyKey own).trans agree).trans right'.symm
  · refine ⟨agree.rows, agree.valkey, fun other foreign => ?_⟩
    simp only [bumpVersion, getVersion, agree.versions _ own, agree.versions _ legacyForeign]
    by_cases isKey : other = key
    · subst isKey
      simp
    · simp only [Function.update_of_ne isKey, agree.versions other foreign]

/-! Every operation. -/

theorem apply_own (stores : AccountStores) (operation : Operation)
    (own : operation.account = some b) :
    AgreeApartFrom tables b (stores.apply tables operation) stores := by
  cases operation <;> obtain rfl | _ := own
  case readGrants =>
    exact (fillPermissions_own _ _ (Or.inr (Or.inl rfl))).trans
      (fillPolicies_own stores _ (Or.inl rfl))
  case assignPolicy policyId assignedBy =>
    exact mutateUser_own stores _ _ (assignPolicy_rowMutation policyId assignedBy) (Or.inl rfl)
  case removePolicy policyId =>
    exact mutateUser_own stores _ _ (removePolicy_rowMutation policyId) (Or.inl rfl)
  case grantPermission action resourceType conditions assignedBy =>
    exact mutateUser_own stores _ _
      (grantPermission_rowMutation action resourceType conditions assignedBy) (Or.inr (Or.inl rfl))
  case removePermission action resourceType =>
    exact mutateUser_own stores _ _ (removePermission_rowMutation action resourceType)
      (Or.inr (Or.inl rfl))
  case bumpAccountVersion => exact bumpVersion_own stores _ _ (Or.inl rfl)
  case bumpChainVersion chainId => exact bumpVersion_own stores _ _ (Or.inr ⟨chainId, rfl⟩)
  case requestReset jti =>
    exact (setValkey_own _ _ _ (Or.inr (Or.inr (Or.inr ⟨jti, rfl⟩)))).trans
      (setValkey_own stores _ _ (Or.inr (Or.inr (Or.inl rfl))))

theorem mutateUser_users (stores : AccountStores) (email key : String)
    (mutate : Database → Nat → Option Database) (rowMutation : RowMutation mutate) :
    (stores.mutateUser email key mutate).database.users = stores.database.users := by
  simp only [mutateUser]
  split
  · rfl
  · rename_i user found
    split
    · rfl
    · rename_i database mutated
      exact (rowMutation.2 _ _ _ _ (own_of_getByEmail _ _ _ found) mutated).users

theorem readPolicies_users (stores : AccountStores) (email : String) :
    (stores.readPolicies tables email).database = stores.database := by
  unfold readPolicies
  split <;> rfl

theorem readPermissions_users (stores : AccountStores) (email : String) :
    (stores.readPermissions tables email).database = stores.database := by
  unfold readPermissions
  split <;> rfl

theorem apply_users (stores : AccountStores) (operation : Operation) :
    (stores.apply tables operation).database.users = stores.database.users := by
  cases operation with
  | readGrants email =>
    simp only [AccountStores.apply, readPermissions_users, readPolicies_users]
  | assignPolicy email policyId assignedBy =>
    exact mutateUser_users stores _ _ _ (assignPolicy_rowMutation policyId assignedBy)
  | removePolicy email policyId =>
    exact mutateUser_users stores _ _ _ (removePolicy_rowMutation policyId)
  | grantPermission email action resourceType conditions assignedBy =>
    exact mutateUser_users stores _ _ _
      (grantPermission_rowMutation action resourceType conditions assignedBy)
  | removePermission email action resourceType =>
    exact mutateUser_users stores _ _ _ (removePermission_rowMutation action resourceType)
  | bumpAccountVersion email => rfl
  | bumpChainVersion email chainId => rfl
  | requestReset email jti => rfl
  | loseKey key => rfl

theorem apply_unique (stores : AccountStores) (operation : Operation)
    (unique : UserIdsUnique stores) : UserIdsUnique (stores.apply tables operation) := by
  unfold UserIdsUnique at unique ⊢
  rwa [apply_users]

theorem apply_congr (sound : tables.Sound) {left right : AccountStores}
    (agree : AgreeApartFrom tables b left right) (unique : UserIdsUnique left)
    (operation : Operation) (foreign : operation.account ≠ some b) :
    AgreeApartFrom tables b (left.apply tables operation) (right.apply tables operation) := by
  have differs (email : StoredEmail) (acts : operation.account = some email) : email ≠ b :=
    fun same => foreign (same ▸ acts)
  cases operation with
  | readGrants email =>
    have policies := fillPolicies_congr agree unique email (differs email rfl)
    have unique' : UserIdsUnique (left.readPolicies tables email) := by
      unfold UserIdsUnique at unique ⊢
      rwa [readPolicies_users]
    exact fillPermissions_congr policies unique' email (differs email rfl)
  | assignPolicy email policyId assignedBy =>
    exact mutateUser_congr agree unique email (differs email rfl) _ _
      (assignPolicy_rowMutation policyId assignedBy)
  | removePolicy email policyId =>
    exact mutateUser_congr agree unique email (differs email rfl) _ _
      (removePolicy_rowMutation policyId)
  | grantPermission email action resourceType conditions assignedBy =>
    exact mutateUser_congr agree unique email (differs email rfl) _ _
      (grantPermission_rowMutation action resourceType conditions assignedBy)
  | removePermission email action resourceType =>
    exact mutateUser_congr agree unique email (differs email rfl) _ _
      (removePermission_rowMutation action resourceType)
  | bumpAccountVersion email =>
    exact bumpVersion_congr agree _ _ (legacyAccount_foreign sound email)
  | bumpChainVersion email chainId =>
    exact bumpVersion_congr agree _ _ (legacyChain_foreign sound email chainId)
  | requestReset email jti =>
    exact setValkey_congr (setValkey_congr agree _ _ _ fun _ => rfl) _ _ _ fun _ => rfl
  | loseKey key => exact setValkey_congr agree _ _ _ fun _ => rfl

/-! ## Whole runs -/

/-- Leaving out `b`'s operations changes nothing but what belongs to `b`. -/
theorem run_without_agree (sound : tables.Sound) (operations : List Operation)
    {left right : AccountStores} (agree : AgreeApartFrom tables b left right)
    (unique : UserIdsUnique left) :
    AgreeApartFrom tables b (left.run tables operations)
      (right.run tables (operations.filter fun operation => operation.account ≠ some b)) := by
  induction operations generalizing left right with
  | nil => exact agree
  | cons operation rest ih =>
    have unique' : UserIdsUnique (left.apply tables operation) := apply_unique left operation unique
    by_cases own : operation.account = some b
    · have next : AgreeApartFrom tables b (left.apply tables operation) right :=
        (apply_own left operation own).trans agree
      simpa [run, own] using ih next unique'
    · have next := apply_congr sound agree unique operation own
      simpa [run, own] using ih next unique'

theorem run_unique (operations : List Operation) (stores : AccountStores)
    (unique : UserIdsUnique stores) : UserIdsUnique (stores.run tables operations) := by
  induction operations generalizing stores with
  | nil => exact unique
  | cons operation rest ih => exact ih _ (apply_unique stores operation unique)

section Foreign

variable (sound : tables.Sound) (a : StoredEmail)
variable (apart : tables.foldedEmail a ≠ tables.foldedEmail b)

include sound apart

theorem userPoliciesKey_foreign : ¬ ownsValkeyKey tables b (tables.userPoliciesKey a) := by
  rintro (same | same | same | ⟨jti, same⟩)
  · exact apart (userPoliciesKey_inj tables sound a b same)
  all_goals
    have lists := congrArg String.toList same
    unfold userPoliciesKey at lists
  · unfold userPermissionsKey at lists
    simp at lists
  · unfold activeTokenKey at lists
    simp at lists
  · unfold resetMarkerKey at lists
    simp at lists

theorem userPermissionsKey_foreign :
    ¬ ownsValkeyKey tables b (tables.userPermissionsKey a) := by
  rintro (same | same | same | ⟨jti, same⟩)
  · have lists := congrArg String.toList same
    unfold userPoliciesKey userPermissionsKey at lists
    simp at lists
  · exact apart (userPermissionsKey_inj tables sound a b same)
  · have lists := congrArg String.toList same
    unfold userPermissionsKey activeTokenKey at lists
    simp at lists
  · have lists := congrArg String.toList same
    unfold userPermissionsKey resetMarkerKey at lists
    simp at lists

theorem activeTokenKey_foreign : ¬ ownsValkeyKey tables b (tables.activeTokenKey a) := by
  rintro (same | same | same | ⟨jti, same⟩)
  · have lists := congrArg String.toList same
    unfold userPoliciesKey activeTokenKey at lists
    simp at lists
  · have lists := congrArg String.toList same
    unfold userPermissionsKey activeTokenKey at lists
    simp at lists
  · exact apart (activeTokenKey_inj tables sound a b same)
  · have lists := congrArg String.toList same
    unfold activeTokenKey resetMarkerKey at lists
    simp at lists

theorem accountVersionKey_foreign : ¬ ownsVersionKey tables b (tables.accountVersionKey a) := by
  rintro (same | ⟨chainId, same⟩)
  · exact apart (accountVersionKey_inj tables sound a b same)
  · have lists := congrArg String.toList same
    unfold accountVersionKey chainVersionKey at lists
    simp at lists

theorem chainVersionKey_foreign (chainId : ChainId) :
    ¬ ownsVersionKey tables b (tables.chainVersionKey a chainId) := by
  rintro (same | ⟨chainId', same⟩)
  · have lists := congrArg String.toList same
    unfold accountVersionKey chainVersionKey at lists
    simp at lists
  · exact apart (chainVersionKey_inj tables sound a b chainId chainId' same)

theorem view_congr {left right : AccountStores} (agree : AgreeApartFrom tables b left right)
    (unique : UserIdsUnique left) : view tables left a = view tables right a := by
  have differs : a ≠ b := fun same => apart (same ▸ rfl)
  have policies := readPolicies_congr agree unique a differs (userPoliciesKey_foreign sound a apart)
  have permissions :=
    readPermissions_congr agree unique a differs (userPermissionsKey_foreign sound a apart)
  have reset := agree.valkey _ (activeTokenKey_foreign sound a apart)
  have accountVersion := agree.versions _ (accountVersionKey_foreign sound a apart)
  have legacyAccountVersion := agree.versions _ (legacyAccount_foreign (b := b) sound a)
  unfold view
  congr 1
  funext chainId
  simp only [getVersions, getVersion, accountVersion, legacyAccountVersion,
    agree.versions _ (chainVersionKey_foreign sound a apart chainId),
    agree.versions _ (legacyChain_foreign (b := b) sound a chainId)]

end Foreign

end Separation

/-! ## Separation -/

/-- What is read for `a` after any run is what would be read had `b`'s operations not
happened. -/
def SeparateFrom (tables : KeyTables) (a b : StoredEmail) : Prop :=
  ∀ stores, UserIdsUnique stores → ∀ operations : List Operation,
    view tables (stores.run tables operations) a =
      view tables (stores.run tables
        (operations.filter fun operation => operation.account ≠ some b)) a

theorem separate_of_folded_ne (tables : KeyTables) (sound : tables.Sound) (a b : StoredEmail)
    (apart : tables.foldedEmail a ≠ tables.foldedEmail b) : SeparateFrom tables a b :=
  fun stores unique operations =>
    view_congr sound a apart (run_without_agree sound operations (.refl stores) unique)
      (run_unique operations stores unique)

def AccountStores.empty : AccountStores :=
  ⟨⟨[], [], [], [], [], 1, 1⟩, fun _ => none, fun _ => none⟩

/-- A shared digest lets one account revoke every token of the other. -/
theorem not_separate_of_folded_eq (tables : KeyTables) (a b : StoredEmail)
    (shared : tables.foldedEmail a = tables.foldedEmail b) : ¬ SeparateFrom tables a b := by
  intro separate
  have same := separate .empty List.nodup_nil [.bumpAccountVersion b]
  have versions := congrArg (fun shown => (shown.versions ⟨"", by simp⟩).1) same
  have sameKey : tables.accountVersionKey a = tables.accountVersionKey b := by
    unfold accountVersionKey emailDigest
    rw [shared]
  simp [view, run, AccountStores.apply, Operation.account, getVersions, bumpVersion, getVersion,
    AccountStores.empty, sameKey] at versions

theorem accounts_separate_iff (tables : KeyTables) (sound : tables.Sound)
    (a b : AcceptedEmail tables) :
    SeparateFrom tables (tables.account a) (tables.account b) ↔
      tables.foldedEmail (tables.account a) ≠ tables.foldedEmail (tables.account b) := by
  constructor
  · intro separate shared
    exact not_separate_of_folded_eq tables _ _ shared separate
  · exact separate_of_folded_ne tables sound _ _

/-! ## Two addresses with one casefolded form -/

/-- Casefolding of the letters used here: `ß` becomes `ss`, other letters become lower case. -/
def foldCharacter (c : Char) : List Char :=
  if c = 'ß' then ['s', 's'] else [c.toLower]

/-- An injective stand-in for the keyed hash that never outputs an `@`. -/
def escapeAtSign (c : Char) : List Char :=
  if c = '@' then ['z', 'a'] else if c = 'z' then ['z', 'z'] else [c]

def exampleTables : KeyTables where
  strip text := String.ofList
    ((text.toList.dropWhile Char.isWhitespace).reverse.dropWhile Char.isWhitespace).reverse
  lower text := String.ofList (text.toList.map Char.toLower)
  casefold text := String.ofList (text.toList.flatMap foldCharacter)
  hmacHex message := String.ofList (message.toList.flatMap escapeAtSign)

theorem escapeAtSign_inj (left right : List Char)
    (same : left.flatMap escapeAtSign = right.flatMap escapeAtSign) : left = right := by
  induction left generalizing right with
  | nil =>
    cases right with
    | nil => rfl
    | cons c rest =>
      simp only [List.flatMap_nil, List.flatMap_cons, escapeAtSign] at same
      split at same <;> [skip; split at same] <;> simp at same
  | cons c rest ih =>
    cases right with
    | nil =>
      simp only [List.flatMap_nil, List.flatMap_cons, escapeAtSign] at same
      split at same <;> [skip; split at same] <;> simp at same
    | cons d rest' =>
      have tails : c = d ∧ rest.flatMap escapeAtSign = rest'.flatMap escapeAtSign := by
        simp only [List.flatMap_cons] at same
        unfold escapeAtSign at same ⊢
        grind
      rw [tails.1, ih rest' tails.2]

theorem exampleTables_sound : exampleTables.Sound where
  injective left right same := by
    have lists := congrArg String.toList same
    simp only [exampleTables, String.toList_ofList] at lists
    exact String.toList_inj.mp (escapeAtSign_inj _ _ lists)
  noAtSign message member := by
    simp only [exampleTables, String.toList_ofList, List.mem_flatMap] at member
    obtain ⟨c, -, inCode⟩ := member
    unfold escapeAtSign at inCode
    grind

def strasse : AcceptedEmail exampleTables :=
  ⟨"strasse@example.com", by decide⟩

def strasseSharpS : AcceptedEmail exampleTables :=
  ⟨"straße@example.com", by decide⟩

def otherAddress : AcceptedEmail exampleTables :=
  ⟨" Other@example.com", by decide⟩

theorem accounts_separate_iff_otherAddress :
    SeparateFrom exampleTables (exampleTables.account strasse)
        (exampleTables.account otherAddress) ↔
      exampleTables.foldedEmail (exampleTables.account strasse) ≠
        exampleTables.foldedEmail (exampleTables.account otherAddress) :=
  accounts_separate_iff exampleTables exampleTables_sound strasse otherAddress

/-- Both accounts exist; only `strasse@example.com` holds the superuser policy. -/
def strasseStores : AccountStores where
  database :=
    { users := [⟨1, "strasse@example.com", .admin⟩, ⟨2, "straße@example.com", .user⟩]
      policies := [⟨1, "system_superuser", none, ["users:read_any"], "users", .null, true, none⟩]
      userPolicies := [⟨1, 1, none⟩]
      userPermissions := []
      policyHistory := []
      nextPolicyId := 2
      nextHistoryId := 1 }
  valkey := fun _ => none
  revocationVersions := fun _ => none

/-- Reading the grants of `strasse@example.com` hands them to `straße@example.com`. -/
theorem cached_grants_cross_accounts :
    exampleTables.account strasseSharpS ≠ exampleTables.account strasse ∧
      UserIdsUnique strasseStores ∧
      ((view exampleTables (strasseStores.run exampleTables
          [.readGrants (exampleTables.account strasse)])
        (exampleTables.account strasseSharpS)).policies.map PolicyDefinition.name) =
          ["system_superuser"] ∧
      (view exampleTables strasseStores (exampleTables.account strasseSharpS)).policies = [] ∧
      ¬ SeparateFrom exampleTables (exampleTables.account strasseSharpS)
        (exampleTables.account strasse) := by
  have shown : (view exampleTables (strasseStores.run exampleTables
      [.readGrants (exampleTables.account strasse)])
        (exampleTables.account strasseSharpS)).policies.map PolicyDefinition.name =
          ["system_superuser"] := by decide +kernel
  have alone : (view exampleTables strasseStores
      (exampleTables.account strasseSharpS)).policies = [] := by rfl
  have unique : UserIdsUnique strasseStores := by
    unfold UserIdsUnique
    decide
  refine ⟨by decide, unique, shown, alone, fun separate => ?_⟩
  have same := separate strasseStores unique [.readGrants (exampleTables.account strasse)]
  have policies := congrArg (fun shown => shown.policies.map PolicyDefinition.name) same
  simp only [shown] at policies
  revert policies
  decide +kernel

end MysticAuth
