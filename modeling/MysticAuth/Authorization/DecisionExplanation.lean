import MysticAuth.Authorization.GuardSoundness

/-!
# What an explanation keeps

The engine collects the conditions of the satisfied grants, and the failed keys
of the rejected ones, in dictionaries keyed by policy name.  A direct grant is
named after its action alone, so two of them over different resource types
share one entry and the later one overwrites the earlier.  The explanation is
complete exactly when grants of one name agree on what is recorded for them.
-/

set_option autoImplicit false

namespace MysticAuth

open Python PolicyEvaluationEngine

/-! ## A dictionary filled from a list -/

section Filled

variable {Item Value : Type} (key : Item → String) (value : Item → Value)

theorem lookup_cons_ite (name first : String) (current : Value)
    (entries : List (String × Value)) :
    ((first, current) :: entries).lookup name =
      if name = first then some current else entries.lookup name := by
  by_cases same : name = first
  · simp [same]
  · rw [List.lookup_cons, beq_false_of_ne same]
    simp [same]

theorem lookup_setEntry (name other : String) (recorded : Value)
    (entries : List (String × Value)) :
    (setEntry name recorded entries).lookup other =
      if other = name then some recorded else entries.lookup other := by
  induction entries with
  | nil => simp only [setEntry, lookup_cons_ite]
  | cons head rest ih =>
    obtain ⟨first, current⟩ := head
    simp only [setEntry]
    by_cases found : first = name
    · subst found
      by_cases same : other = first <;> simp [lookup_cons_ite, same]
    · rw [if_neg found, lookup_cons_ite, lookup_cons_ite, ih]
      by_cases same : other = first
      · subst same
        simp [found]
      · simp [same]

/-- `d[key(item)] = value(item)` for one item after another. -/
def fillEntries (entries : List (String × Value)) (items : List Item) : List (String × Value) :=
  items.foldl (fun filled item => setEntry (key item) (value item) filled) entries

theorem lookup_fillEntries (entries : List (String × Value)) (items : List Item)
    (name : String) :
    (fillEntries key value entries items).lookup name =
      ((items.reverse.find? (key · == name)).map value).or (entries.lookup name) := by
  induction items generalizing entries with
  | nil => simp [fillEntries]
  | cons item items ih =>
    have after := ih (setEntry (key item) (value item) entries)
    simp only [fillEntries, List.foldl_cons] at after ⊢
    rw [after, lookup_setEntry, List.reverse_cons, List.find?_append]
    cases later : items.reverse.find? (key · == name) with
    | some found => simp
    | none =>
      by_cases same : key item = name
      · simp [same]
      · simp [same, Ne.symm same]

/-- The dictionary holds, for every item, a value that agrees with the item's own exactly when
items of one key agree. -/
theorem fillEntries_keeps_iff (agree : Value → Value → Prop)
    (symmetric : ∀ a b, agree a b → agree b a)
    (transitive : ∀ a b c, agree a b → agree b c → agree a c)
    (items : List Item) :
    (∀ item ∈ items, ∃ kept,
        (fillEntries key value [] items).lookup (key item) = some kept ∧
          agree kept (value item)) ↔
      ∀ item ∈ items, ∀ other ∈ items, key item = key other →
        agree (value item) (value other) := by
  constructor
  · intro keeps item member other otherMember sameKey
    obtain ⟨kept, found, agrees⟩ := keeps item member
    obtain ⟨kept', found', agrees'⟩ := keeps other otherMember
    rw [sameKey, found'] at found
    cases found
    exact transitive _ _ _ (symmetric _ _ agrees) agrees'
  · intro agrees item member
    have present : (items.reverse.find? (key · == key item)).isSome := by
      apply List.find?_isSome.mpr
      exact ⟨item, List.mem_reverse.mpr member, by simp⟩
    obtain ⟨last, found⟩ := Option.isSome_iff_exists.mp present
    have lastMember : last ∈ items := List.mem_reverse.mp (List.mem_of_find?_eq_some found)
    have sameKey : key last = key item := by simpa using List.find?_some found
    refine ⟨value last, ?_, agrees last lastMember item member sameKey⟩
    rw [lookup_fillEntries, found]
    rfl

end Filled

/-! ## The two dictionaries of a decision -/

section Decision

variable (runtime : Runtime) (action resourceType userEmail : String)
variable (resource : Option Resource) (context : Option Dict)

/-- The grant matches the request, but its conditions reject it. -/
def Grant.isRejected (grant : Grant) : Prop :=
  grantMatches grant action resourceType = true ∧
    (evaluateConditions runtime grant.conditions userEmail resource context).satisfied = false

instance (grant : Grant) :
    Decidable (grant.applies runtime action resourceType userEmail resource context) :=
  inferInstanceAs (Decidable (_ ∧ _))

instance (grant : Grant) :
    Decidable (grant.isRejected runtime action resourceType userEmail resource context) :=
  inferInstanceAs (Decidable (_ ∧ _))

def failedKeys (grant : Grant) : List String :=
  (evaluateConditions runtime grant.conditions userEmail resource context).failedKeys

def appliedGrants (policies : List Grant) : List Grant :=
  policies.filter fun grant =>
    decide (grant.applies runtime action resourceType userEmail resource context)

def rejectedGrants (policies : List Grant) : List Grant :=
  policies.filter fun grant =>
    decide (grant.isRejected runtime action resourceType userEmail resource context)

theorem mem_appliedGrants (policies : List Grant) (grant : Grant) :
    grant ∈ appliedGrants runtime action resourceType userEmail resource context policies ↔
      grant ∈ policies ∧
        grant.applies runtime action resourceType userEmail resource context := by
  simp [appliedGrants]

theorem mem_rejectedGrants (policies : List Grant) (grant : Grant) :
    grant ∈ rejectedGrants runtime action resourceType userEmail resource context policies ↔
      grant ∈ policies ∧
        grant.isRejected runtime action resourceType userEmail resource context := by
  simp [rejectedGrants]

/-- The loop writes one entry for every satisfied and one for every rejected matching grant. -/
theorem foldl_evaluateGrant_entries (policies : List Grant) (progress : Progress) :
    (policies.foldl
        (evaluateGrant runtime action resourceType userEmail resource context)
        progress).matchedPolicyConditions =
      fillEntries Grant.name Grant.conditions progress.matchedPolicyConditions
        (appliedGrants runtime action resourceType userEmail resource context policies) ∧
    (policies.foldl
        (evaluateGrant runtime action resourceType userEmail resource context)
        progress).failedConditions =
      fillEntries Grant.name (failedKeys runtime userEmail resource context)
        progress.failedConditions
        (rejectedGrants runtime action resourceType userEmail resource context policies) := by
  induction policies generalizing progress with
  | nil => exact ⟨rfl, rfl⟩
  | cons grant policies ih =>
    rw [List.foldl_cons]
    obtain ⟨conditions, failed⟩ :=
      ih (evaluateGrant runtime action resourceType userEmail resource context progress grant)
    rw [conditions, failed]
    simp only [evaluateGrant, appliedGrants, rejectedGrants, List.filter_cons, Grant.applies,
      Grant.isRejected]
    by_cases matched : grantMatches grant action resourceType = true
    · by_cases satisfied :
        (evaluateConditions runtime grant.conditions userEmail resource context).satisfied = true
      · simp [matched, satisfied, fillEntries]
      · simp [matched, satisfied, fillEntries, failedKeys]
    · simp [matched, fillEntries]

theorem evaluateDetailed_matchedPolicyConditions (policies : List Grant) :
    (evaluateDetailed runtime policies action resourceType userEmail resource
        context).matchedPolicyConditions =
      fillEntries Grant.name Grant.conditions []
        (appliedGrants runtime action resourceType userEmail resource context policies) :=
  (foldl_evaluateGrant_entries runtime action resourceType userEmail resource context policies
    ⟨[], [], [], []⟩).1

theorem evaluateDetailed_failedConditions (policies : List Grant) :
    (evaluateDetailed runtime policies action resourceType userEmail resource
        context).failedConditions =
      fillEntries Grant.name (failedKeys runtime userEmail resource context) []
        (rejectedGrants runtime action resourceType userEmail resource context policies) :=
  (foldl_evaluateGrant_entries runtime action resourceType userEmail resource context policies
    ⟨[], [], [], []⟩).2

end Decision

/-! ## Scope of the collected blocks -/

/-- What the schemas let through as the conditions of a proposal. -/
def ProposedBlock (proposed : Json) : Prop :=
  proposed = .null ∨ ∃ dict, proposed.dict? = some dict

theorem dict?_eq_some_iff (value : Json) (dict : Dict) :
    value.dict? = some dict ↔ value = .obj dict.keys dict.values := by
  cases value <;> simp [Json.dict?]
  constructor
  · rintro rfl
    exact ⟨rfl, rfl⟩
  · rintro ⟨rfl, rfl⟩
    rfl

theorem proposedBlock_dict (proposed : Json) (block : ProposedBlock proposed) :
    ∃ kept, (if proposed.truthy then proposed.dict? else some Dict.empty) = some kept := by
  rcases block with rfl | ⟨dict, shape⟩
  · exact ⟨Dict.empty, rfl⟩
  · cases proposed.truthy with
    | false => exact ⟨Dict.empty, rfl⟩
    | true => exact ⟨dict, shape⟩

theorem keepsSource_isSome (source proposed : Json) (block : ProposedBlock proposed)
    (sourceBlock : source.truthy = false ∨ ∃ dict, source.dict? = some dict) :
    keepsSource source proposed ≠ none := by
  obtain ⟨kept, found⟩ := proposedBlock_dict proposed block
  rcases sourceBlock with falsy | ⟨dict, shape⟩
  · simp [keepsSource, falsy]
  · cases truthy : source.truthy with
    | false => simp [keepsSource, truthy]
    | true => simp [keepsSource, truthy, shape, found]

/-- Equal blocks of the caller contain the same proposals. -/
theorem keepsSource_congr (source source' proposed : Json)
    (same : Json.eq source source' = true) (keeps : keepsSource source proposed = some true) :
    keepsSource source' proposed = some true := by
  cases truthy : source'.truthy with
  | false => simp [keepsSource, truthy]
  | true =>
    have sourceTruthy : source.truthy = true := (Json.truthy_congr _ _ same).trans truthy
    simp only [keepsSource, sourceTruthy, Bool.not_true, Bool.false_eq_true, if_false] at keeps
    split at keeps
    · simp at keeps
    rename_i dict shape
    obtain rfl := (dict?_eq_some_iff _ _).mp shape
    obtain ⟨keys', values', rfl⟩ := Json.eq_obj_left _ _ _ same
    split at keeps
    · simp at keeps
    rename_i kept found
    simp only [Option.some.injEq, List.all_eq_true] at keeps
    have shape' : (Json.obj keys' values').dict? = some ⟨keys', values'⟩ := rfl
    simp only [keepsSource, truthy, shape', found, Bool.not_true, Bool.false_eq_true, if_false,
      Option.some.injEq, List.all_eq_true]
    rintro ⟨key, value'⟩ member'
    have present' := (Dict.get?_eq_some_iff _ _ _).mpr member'
    obtain ⟨value, present⟩ := Json.mem_keys_of_eq_obj _ _ _ _ same key value' present'
    have entries := Json.eq_get_of_eq_obj _ _ _ _ same key
    simp only [Dict.get, present, present', Option.getD_some] at entries
    have keptEntry := keeps _ ((Dict.get?_eq_some_iff _ _ _).mp present)
    exact Json.eq_trans _ _ _ keptEntry entries

theorem hasScopeForGrant_iff (matched : List (String × Json)) (proposed : Json)
    (readable : ∀ entry ∈ matched, keepsSource entry.2 proposed ≠ none) :
    hasScopeForGrant matched proposed = some true ↔
      ∃ entry ∈ matched, keepsSource entry.2 proposed = some true := by
  constructor
  · exact exists_keepsSource_of_hasScope matched proposed
  · rintro ⟨found, member, keeps⟩
    induction matched with
    | nil => simp at member
    | cons entry rest ih =>
      simp only [hasScopeForGrant]
      have readableHead := readable entry List.mem_cons_self
      split
      · rename_i raised
        exact absurd raised readableHead
      · rfl
      · rename_i fails
        rcases List.mem_cons.mp member with rfl | tail
        · rw [keeps] at fails
          simp at fails
        · exact ih (fun other inRest => readable other (List.mem_cons_of_mem _ inRest)) tail

/-! ## Lossless decisions -/

section Lossless

variable (runtime : Runtime) (policies : List Grant) (action resourceType userEmail : String)
variable (resource : Option Resource) (context : Option Dict)

/-- The decision keeps, under the name of every satisfied matching grant, conditions equal to the
grant's, and under the name of every rejected one its failed keys; and the guard's scope check on
it answers for the grants themselves. -/
structure Lossless : Prop where
  conditions : ∀ grant ∈ policies,
    grant.applies runtime action resourceType userEmail resource context →
      ∃ kept, (evaluateDetailed runtime policies action resourceType userEmail resource
          context).matchedPolicyConditions.lookup grant.name = some kept ∧
        Json.eq kept grant.conditions = true
  failed : ∀ grant ∈ policies,
    grant.isRejected runtime action resourceType userEmail resource context →
      (evaluateDetailed runtime policies action resourceType userEmail resource
          context).failedConditions.lookup grant.name =
        some (failedKeys runtime userEmail resource context grant)
  scope : ∀ proposed, ProposedBlock proposed →
    (hasScopeForGrant (evaluateDetailed runtime policies action resourceType userEmail resource
        context).matchedPolicyConditions proposed = some true ↔
      ∃ grant ∈ policies,
        grant.applies runtime action resourceType userEmail resource context ∧
          keepsSource grant.conditions proposed = some true)

/-- Satisfied grants of one name carry equal conditions, rejected ones fail on the same keys. -/
structure NamesAgree : Prop where
  conditions : ∀ grant ∈ policies, ∀ other ∈ policies,
    grant.applies runtime action resourceType userEmail resource context →
      other.applies runtime action resourceType userEmail resource context →
        grant.name = other.name → Json.eq grant.conditions other.conditions = true
  failed : ∀ grant ∈ policies, ∀ other ∈ policies,
    grant.isRejected runtime action resourceType userEmail resource context →
      other.isRejected runtime action resourceType userEmail resource context →
        grant.name = other.name →
          failedKeys runtime userEmail resource context grant =
            failedKeys runtime userEmail resource context other

theorem conditions_kept_iff :
    (∀ grant ∈ policies,
      grant.applies runtime action resourceType userEmail resource context →
        ∃ kept, (evaluateDetailed runtime policies action resourceType userEmail resource
            context).matchedPolicyConditions.lookup grant.name = some kept ∧
          Json.eq kept grant.conditions = true) ↔
      ∀ grant ∈ policies, ∀ other ∈ policies,
        grant.applies runtime action resourceType userEmail resource context →
          other.applies runtime action resourceType userEmail resource context →
            grant.name = other.name → Json.eq grant.conditions other.conditions = true := by
  have filled := fillEntries_keeps_iff Grant.name Grant.conditions
    (fun a b => Json.eq a b = true) (fun a b => Json.eq_symm a b) (fun a b c => Json.eq_trans a b c)
    (appliedGrants runtime action resourceType userEmail resource context policies)
  rw [← evaluateDetailed_matchedPolicyConditions] at filled
  simp only [mem_appliedGrants, and_imp] at filled
  rw [filled]
  constructor
  · intro agrees grant member other otherMember applies otherApplies
    exact agrees grant member applies other otherMember otherApplies
  · intro agrees grant member applies other otherMember otherApplies
    exact agrees grant member other otherMember applies otherApplies

theorem failed_kept_iff :
    (∀ grant ∈ policies,
      grant.isRejected runtime action resourceType userEmail resource context →
        (evaluateDetailed runtime policies action resourceType userEmail resource
            context).failedConditions.lookup grant.name =
          some (failedKeys runtime userEmail resource context grant)) ↔
      ∀ grant ∈ policies, ∀ other ∈ policies,
        grant.isRejected runtime action resourceType userEmail resource context →
          other.isRejected runtime action resourceType userEmail resource context →
            grant.name = other.name →
              failedKeys runtime userEmail resource context grant =
                failedKeys runtime userEmail resource context other := by
  have filled := fillEntries_keeps_iff Grant.name (failedKeys runtime userEmail resource context)
    (· = ·) (fun _ _ => Eq.symm) (fun _ _ _ => Eq.trans)
    (rejectedGrants runtime action resourceType userEmail resource context policies)
  rw [← evaluateDetailed_failedConditions] at filled
  simp only [mem_rejectedGrants, and_imp, exists_eq_right] at filled
  rw [filled]
  constructor
  · intro agrees grant member other otherMember rejected otherRejected
    exact agrees grant member rejected other otherMember otherRejected
  · intro agrees grant member rejected other otherMember otherRejected
    exact agrees grant member other otherMember rejected otherRejected

/-- The conditions of satisfied grants are blocks, so the scope check never raises on them. -/
theorem matchedPolicyConditions_readable (proposed : Json) (block : ProposedBlock proposed)
    (entry : String × Json)
    (member : entry ∈ (evaluateDetailed runtime policies action resourceType userEmail resource
      context).matchedPolicyConditions) : keepsSource entry.2 proposed ≠ none := by
  obtain ⟨grant, _, ⟨_, satisfied⟩, same⟩ := (evaluateGrants_explained runtime action resourceType
    userEmail resource context policies).conditions entry member
  rw [← same]
  apply keepsSource_isSome _ _ block
  rcases (evaluateConditions_satisfied_iff _ _ _ _ _).mp satisfied with falsy | ⟨dict, shape, _⟩
  · exact Or.inl falsy
  · exact Or.inr ⟨dict, shape⟩

/-- When the conditions of every satisfied grant are kept, the scope check misses none of them. -/
theorem scope_of_conditions_kept
    (kept : ∀ grant ∈ policies,
      grant.applies runtime action resourceType userEmail resource context →
        ∃ kept, (evaluateDetailed runtime policies action resourceType userEmail resource
            context).matchedPolicyConditions.lookup grant.name = some kept ∧
          Json.eq kept grant.conditions = true)
    (proposed : Json) (block : ProposedBlock proposed) :
    hasScopeForGrant (evaluateDetailed runtime policies action resourceType userEmail resource
        context).matchedPolicyConditions proposed = some true ↔
      ∃ grant ∈ policies,
        grant.applies runtime action resourceType userEmail resource context ∧
          keepsSource grant.conditions proposed = some true := by
  have explained := evaluateGrants_explained runtime action resourceType userEmail resource context
    policies
  have readable := matchedPolicyConditions_readable runtime policies action resourceType userEmail
    resource context proposed block
  rw [hasScopeForGrant_iff _ _ readable]
  constructor
  · rintro ⟨entry, member, keeps⟩
    obtain ⟨grant, grantMember, applies, same⟩ := explained.conditions entry member
    exact ⟨grant, grantMember, applies, same ▸ keeps⟩
  · rintro ⟨grant, member, applies, keeps⟩
    obtain ⟨conditions, found, same⟩ := kept grant member applies
    obtain ⟨before, after, split, _⟩ := List.lookup_eq_some_iff.mp found
    refine ⟨(grant.name, conditions), ?_, ?_⟩
    · rw [split]
      exact List.mem_append_right before List.mem_cons_self
    · exact keepsSource_congr _ _ _ (Json.eq_symm _ _ same) keeps

/-- A decision explains itself without loss exactly when the grants that share a name agree. -/
theorem decision_lossless_iff :
    Lossless runtime policies action resourceType userEmail resource context ↔
      NamesAgree runtime policies action resourceType userEmail resource context := by
  constructor
  · intro lossless
    exact ⟨(conditions_kept_iff _ _ _ _ _ _ _).mp lossless.conditions,
      (failed_kept_iff _ _ _ _ _ _ _).mp lossless.failed⟩
  · intro agrees
    have kept := (conditions_kept_iff _ _ _ _ _ _ _).mpr agrees.conditions
    exact ⟨kept, (failed_kept_iff _ _ _ _ _ _ _).mpr agrees.failed,
      scope_of_conditions_kept runtime policies action resourceType userEmail resource context kept⟩

end Lossless

/-! A caller holds one action on `users` without conditions, and on every resource type under a
condition on the region: the second grant hides the first from the guard. -/

def regionContext : Dict :=
  ⟨⟨["region"], by decide⟩, [.str "eu"]⟩

def regionOnly : Json :=
  .obj ⟨["context_attributes"], by decide⟩ [.obj regionContext.keys regionContext.values]

def twiceGranted : Holdings where
  activePolicies := []
  activePermissions :=
    [⟨1, "users:list_all", "users", .null, true, none⟩,
      ⟨1, "users:list_all", "*", regionOnly, true, none⟩]

theorem explanation_loses_direct_grant :
    ¬ ∀ (runtime : Runtime) (holdings : Holdings) (action resourceType userEmail : String)
      (resource : Option Resource) (context : Option Dict),
      Lossless runtime holdings.effectivePolicies action resourceType userEmail resource
        context := by
  intro claim
  have lossless := claim utcRuntime twiceGranted "users:list_all" "users" "ann@example.com" none
    (some regionContext)
  have scope := lossless.scope .null (Or.inl rfl)
  have lost : hasScopeForGrant (evaluateDetailed utcRuntime twiceGranted.effectivePolicies
      "users:list_all" "users" "ann@example.com" none
      (some regionContext)).matchedPolicyConditions .null = some false := rfl
  have covered : ∃ grant ∈ twiceGranted.effectivePolicies,
      grant.applies utcRuntime "users:list_all" "users" "ann@example.com" none
          (some regionContext) ∧
        keepsSource grant.conditions .null = some true :=
    ⟨_, List.mem_cons_self, ⟨by decide, rfl⟩, rfl⟩
  rw [lost] at scope
  exact absurd (scope.mpr covered) (by simp)

end MysticAuth
