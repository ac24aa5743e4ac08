import MysticAuth.Policies.EffectiveGrants
import MysticAuth.Python.Dictionaries
import MysticAuth.Python.Grouping

/-!
# What the account card shows

The card lists what a user holds, each pair of an action and a resource type
once and with the policies it comes from.  A pair that the same action on every
resource type covers is left out.  Two pairs with one key share an entry.
-/

set_option autoImplicit false

namespace MysticAuth

open Python Dictionaries PolicyEvaluationEngine

/-! ## The browser -/

structure EffectiveGrantWithSource where
  action : String
  resourceType : String
  policyNames : List String
  direct : Bool
  deriving DecidableEq

/-- One pass of the two loops; a direct grant has no policy name. -/
structure GrantSource where
  action : String
  resourceType : String
  policyName : Option String

def GrantSource.key (source : GrantSource) : String :=
  grantKey source.action source.resourceType

def grantSources (assignedPolicies : List Policy) (directGrants : List UserPermission) :
    List GrantSource :=
  (assignedPolicies.flatMap fun policy =>
    policy.actions.map fun action => ⟨action, policy.resourceType, some policy.name⟩) ++
  directGrants.map fun grant => ⟨grant.action, grant.resourceType, none⟩

/-- `byKey.set` for a new key, else `push` or `direct = true`. -/
def addSource (source : GrantSource) (existing : Option EffectiveGrantWithSource) :
    EffectiveGrantWithSource :=
  match existing, source.policyName with
  | none, some name => ⟨source.action, source.resourceType, [name], false⟩
  | none, none => ⟨source.action, source.resourceType, [], true⟩
  | some entry, some name => { entry with policyNames := entry.policyNames ++ [name] }
  | some entry, none => { entry with direct := true }

def buildEffectiveGrantsWithSource (assignedPolicies : List Policy)
    (directGrants : List UserPermission) : List EffectiveGrantWithSource :=
  (fill GrantSource.key addSource (grantSources assignedPolicies directGrants)).map Prod.snd

/-- What has `action` and `resource_type` fields. -/
class HasPair (α : Type) where
  action : α → String
  resourceType : α → String

instance : HasPair EffectiveGrantWithSource :=
  ⟨EffectiveGrantWithSource.action, EffectiveGrantWithSource.resourceType⟩

instance : HasPair UserPermission :=
  ⟨UserPermission.action, UserPermission.resourceType⟩

def dedupeAgainstWildcards {α β : Type} [HasPair α] [HasPair β] (grants : List α)
    (wildcardSource : List β) : List α :=
  let wildcardActions :=
    (wildcardSource.filter fun g => HasPair.resourceType g = wildcardResourceType).map
      HasPair.action
  grants.filter fun g =>
    HasPair.resourceType g = wildcardResourceType ∨ HasPair.action g ∉ wildcardActions

def groupByResourceType {α : Type} [HasPair α] (items : List α) : List (String × List α) :=
  groupPairs (items.map fun item => (HasPair.resourceType item, item))

/-- The lists of `AccountStatusCard`, once both queries have answered. -/
def effectiveWithSource (policies : List Policy) (rawDirectPermissions : List UserPermission) :
    List EffectiveGrantWithSource :=
  let all := buildEffectiveGrantsWithSource policies rawDirectPermissions
  dedupeAgainstWildcards all all

def directPermissions (policies : List Policy) (rawDirectPermissions : List UserPermission) :
    List UserPermission :=
  dedupeAgainstWildcards rawDirectPermissions (effectiveWithSource policies rawDirectPermissions)

/-! ## Entries and where they come from -/

section Entries

variable {policies : List Policy} {direct : List UserPermission}

def GrantSource.pair (source : GrantSource) : String × String :=
  (source.action, source.resourceType)

def EffectiveGrantWithSource.pair (entry : EffectiveGrantWithSource) : String × String :=
  (entry.action, entry.resourceType)

/-- Two pairs that are held have two keys. -/
def KeysSeparate (policies : List Policy) (direct : List UserPermission) : Prop :=
  ∀ source ∈ grantSources policies direct, ∀ other ∈ grantSources policies direct,
    source.key = other.key → source.pair = other.pair

/-- The entry of a key: the pair that came first, the policies in their order, and whether there is
a direct grant. -/
def entryOf (first : GrantSource) (same : List GrantSource) : EffectiveGrantWithSource :=
  ⟨first.action, first.resourceType, same.filterMap GrantSource.policyName,
    same.any fun source => source.policyName.isNone⟩

theorem foldl_addSource (sources : List GrantSource) :
    sources.foldl (fun entry source => some (addSource source entry)) none =
      sources.head?.map fun first => entryOf first sources := by
  induction sources using List.reverseRecOn with
  | nil => rfl
  | append_singleton sources source ih =>
    obtain ⟨action, resourceType, policyName⟩ := source
    rw [List.foldl_append, ih]
    cases sources with
    | nil => cases policyName <;> rfl
    | cons first rest =>
      rw [List.head?_append]
      simp only [List.head?_cons, Option.map_some, Option.or_some, List.foldl_cons, List.foldl_nil,
        Option.some.injEq, entryOf, List.filterMap_append, List.any_append]
      cases policyName <;> simp [addSource]

theorem mem_filled (key : String) (entry : EffectiveGrantWithSource) :
    (key, entry) ∈ fill GrantSource.key addSource (grantSources policies direct) ↔
      ∃ first, ((grantSources policies direct).filter fun source => source.key = key).head? =
          some first ∧
        entryOf first ((grantSources policies direct).filter fun source => source.key = key) =
          entry := by
  rw [mem_fill, valueOf, foldl_addSource, Option.map_eq_some_iff]

/-- An entry stands under the key of its own pair. -/
theorem key_of_mem_filled {key : String} {entry : EffectiveGrantWithSource}
    (member : (key, entry) ∈ fill GrantSource.key addSource (grantSources policies direct)) :
    key = grantKey entry.action entry.resourceType ∧
      ∃ source ∈ grantSources policies direct, source.key = key ∧ source.pair = entry.pair := by
  obtain ⟨first, isFirst, rfl⟩ := (mem_filled key entry).mp member
  have kept := List.mem_filter.mp (List.mem_of_head? isFirst)
  have own : first.key = key := of_decide_eq_true kept.2
  exact ⟨own.symm, first, kept.1, own, rfl⟩

theorem mem_build {entry : EffectiveGrantWithSource} :
    entry ∈ buildEffectiveGrantsWithSource policies direct ↔
      (grantKey entry.action entry.resourceType, entry) ∈
        fill GrantSource.key addSource (grantSources policies direct) := by
  rw [buildEffectiveGrantsWithSource, List.mem_map]
  constructor
  · rintro ⟨item, member, same⟩
    obtain ⟨key, own⟩ := item
    subst same
    rw [← (key_of_mem_filled member).1]
    exact member
  · intro member
    exact ⟨_, member, rfl⟩

theorem keys_build :
    (buildEffectiveGrantsWithSource policies direct).map
        (fun entry => grantKey entry.action entry.resourceType) =
      (fill GrantSource.key addSource (grantSources policies direct)).map Prod.fst := by
  rw [buildEffectiveGrantsWithSource, List.map_map]
  apply List.map_congr_left
  intro item member
  exact (key_of_mem_filled member).1.symm

theorem nodup_keys_build :
    ((buildEffectiveGrantsWithSource policies direct).map
      fun entry => grantKey entry.action entry.resourceType).Nodup := by
  rw [keys_build]
  exact nodup_keys_fill _ _ _

/-- Each pair stands on the list at most once. -/
theorem nodup_pairs_build :
    ((buildEffectiveGrantsWithSource policies direct).map EffectiveGrantWithSource.pair).Nodup := by
  apply List.Nodup.of_map (fun pair : String × String => grantKey pair.1 pair.2)
  rw [List.map_map]
  exact nodup_keys_build

/-- No entry is there for nothing. -/
theorem given_of_mem_build {entry : EffectiveGrantWithSource}
    (member : entry ∈ buildEffectiveGrantsWithSource policies direct) :
    entry.policyNames ≠ [] ∨ entry.direct = true := by
  obtain ⟨first, isFirst, same⟩ := (mem_filled _ _).mp (mem_build.mp member)
  have kept := List.mem_of_head? isFirst
  rw [← same]
  cases named : first.policyName with
  | some name => exact .inl (List.ne_nil_of_mem (List.mem_filterMap.mpr ⟨first, kept, named⟩))
  | none => exact .inr (List.any_eq_true.mpr ⟨first, kept, by rw [named]; rfl⟩)

/-- Every pair that is held is on the list exactly when keys tell the pairs apart. -/
theorem listed_iff_separate :
    (∀ source ∈ grantSources policies direct,
        ∃ entry ∈ buildEffectiveGrantsWithSource policies direct, entry.pair = source.pair) ↔
      KeysSeparate policies direct := by
  constructor
  · intro listed source member other member' sameKey
    obtain ⟨entry, isEntry, same⟩ := listed source member
    obtain ⟨entry', isEntry', same'⟩ := listed other member'
    have keys : grantKey entry.action entry.resourceType =
        grantKey entry'.action entry'.resourceType := by
      have own := congrArg (fun pair : String × String => grantKey pair.1 pair.2) same
      have own' := congrArg (fun pair : String × String => grantKey pair.1 pair.2) same'
      exact own.trans (sameKey.trans own'.symm)
    have one := List.inj_on_of_nodup_map nodup_keys_build isEntry isEntry' keys
    rw [← same, ← same', one]
  · intro separate source member
    obtain ⟨item, filled, sameKey⟩ := List.mem_map.mp
      ((mem_keys_fill GrantSource.key addSource source.key _).mpr ⟨source, member, rfl⟩)
    obtain ⟨key, entry⟩ := item
    obtain ⟨own, first, listed, isKey, same⟩ := key_of_mem_filled filled
    have isEntry := filled
    rw [own] at isEntry
    refine ⟨entry, mem_build.mpr isEntry, ?_⟩
    rw [← same]
    exact separate first listed source member (isKey.trans sameKey)

/-- The policies that give a pair, as often as they list its action. -/
def namesFor (policies : List Policy) (pair : String × String) : List String :=
  policies.flatMap fun policy =>
    if policy.resourceType = pair.2 then List.replicate (policy.actions.count pair.1) policy.name
    else []

theorem names_of_actions (pair : String × String) (policy : Policy) (actions : List String) :
    ((actions.map fun own => (⟨own, policy.resourceType, some policy.name⟩ : GrantSource)).filter
        fun source => source.pair = pair).filterMap GrantSource.policyName =
      if policy.resourceType = pair.2 then List.replicate (actions.count pair.1) policy.name
      else [] := by
  obtain ⟨action, resourceType⟩ := pair
  induction actions with
  | nil => simp
  | cons own rest ih =>
    rw [List.map_cons]
    by_cases sameType : policy.resourceType = resourceType
    · rw [if_pos sameType] at ih ⊢
      by_cases same : own = action
      · rw [List.filter_cons_of_pos (by simp [GrantSource.pair, same, sameType]),
          List.filterMap_cons, ih, same]
        simp [List.replicate_succ]
      · rw [List.filter_cons_of_neg (by simp [GrantSource.pair, same]), ih,
          List.count_cons_of_ne same]
    · rw [if_neg sameType] at ih ⊢
      rw [List.filter_cons_of_neg (by simp [GrantSource.pair, sameType]), ih]

theorem names_of_same (pair : String × String) :
    ((grantSources policies direct).filter fun source => source.pair = pair).filterMap
        GrantSource.policyName = namesFor policies pair := by
  have noNames : ((direct.map fun grant =>
        (⟨grant.action, grant.resourceType, none⟩ : GrantSource)).filter fun source =>
          source.pair = pair).filterMap GrantSource.policyName = [] := by
    rw [List.filterMap_eq_nil_iff]
    intro source kept
    obtain ⟨grant, -, rfl⟩ := List.mem_map.mp (List.mem_filter.mp kept).1
    rfl
  rw [grantSources, List.filter_append, List.filterMap_append, noNames, List.append_nil,
    List.filter_flatMap, List.filterMap_flatMap]
  exact List.flatMap_congr fun policy _ => names_of_actions pair policy policy.actions

theorem direct_of_same (pair : String × String) :
    (((grantSources policies direct).filter fun source => source.pair = pair).any fun source =>
        source.policyName.isNone) = true ↔
      ∃ grant ∈ direct, (grant.action, grant.resourceType) = pair := by
  rw [List.any_eq_true]
  constructor
  · rintro ⟨source, kept, noName⟩
    obtain ⟨listed, same⟩ := List.mem_filter.mp kept
    rcases List.mem_append.mp listed with ofPolicy | ofGrant
    · obtain ⟨policy, -, fromPolicy⟩ := List.mem_flatMap.mp ofPolicy
      obtain ⟨action, -, rfl⟩ := List.mem_map.mp fromPolicy
      cases noName
    · obtain ⟨grant, member, rfl⟩ := List.mem_map.mp ofGrant
      exact ⟨grant, member, of_decide_eq_true same⟩
  · rintro ⟨grant, member, same⟩
    refine ⟨⟨grant.action, grant.resourceType, none⟩, List.mem_filter.mpr ⟨?_, ?_⟩, rfl⟩
    · exact List.mem_append_right _ (List.mem_map.mpr ⟨grant, member, rfl⟩)
    · exact decide_eq_true same

/-- Where keys tell the pairs apart, an entry names exactly the policies and the direct grants that
give its pair. -/
theorem sources_of_mem_build (separate : KeysSeparate policies direct)
    {entry : EffectiveGrantWithSource}
    (member : entry ∈ buildEffectiveGrantsWithSource policies direct) :
    entry.policyNames = namesFor policies entry.pair ∧
      (entry.direct = true ↔ ∃ grant ∈ direct, (grant.action, grant.resourceType) = entry.pair) := by
  obtain ⟨first, isFirst, same⟩ := (mem_filled _ _).mp (mem_build.mp member)
  have kept := List.mem_filter.mp (List.mem_of_head? isFirst)
  have own : first.pair = entry.pair := by
    rw [← same]
    rfl
  have samePair : (grantSources policies direct).filter (fun source =>
        source.key = grantKey entry.action entry.resourceType) =
      (grantSources policies direct).filter fun source => source.pair = entry.pair := by
    apply List.filter_congr
    intro source listed
    rw [decide_eq_decide]
    constructor
    · intro isKey
      rw [← own]
      exact separate source listed first kept.1 (isKey.trans (of_decide_eq_true kept.2).symm)
    · intro isPair
      exact congrArg (fun pair : String × String => grantKey pair.1 pair.2) isPair
  rw [samePair] at same
  have names := congrArg EffectiveGrantWithSource.policyNames same
  have isDirect := congrArg EffectiveGrantWithSource.direct same
  simp only [entryOf] at names isDirect
  rw [names_of_same] at names
  rw [← names, ← isDirect, direct_of_same]
  exact ⟨rfl, Iff.rfl⟩

end Entries

/-! ## The card -/

section Card

variable {α β : Type} [HasPair α] [HasPair β]

theorem mem_dedupe {grants : List α} {wildcardSource : List β} {grant : α} :
    grant ∈ dedupeAgainstWildcards grants wildcardSource ↔
      grant ∈ grants ∧ (HasPair.resourceType grant = wildcardResourceType ∨
        ∀ wildcard ∈ wildcardSource, HasPair.resourceType wildcard = wildcardResourceType →
          HasPair.action wildcard ≠ HasPair.action grant) := by
  simp only [dedupeAgainstWildcards, List.mem_filter, List.mem_map, not_exists, not_and,
    decide_eq_true_eq, and_imp, ne_eq]

theorem mem_groupByResourceType {items : List α} {resourceType : String} {group : List α} :
    (resourceType, group) ∈ groupByResourceType items ↔
      (items.filter fun item => HasPair.resourceType item = resourceType) = group ∧ group ≠ [] := by
  have values : valuesOf resourceType (items.map fun item => (HasPair.resourceType item, item)) =
      items.filter fun item => HasPair.resourceType item = resourceType := by
    rw [valuesOf, List.filter_map, List.map_map]
    exact List.map_id _
  rw [groupByResourceType, mem_groupPairs, values]

variable {policies : List Policy} {direct : List UserPermission}

theorem mem_effective {entry : EffectiveGrantWithSource} :
    entry ∈ effectiveWithSource policies direct ↔
      entry ∈ buildEffectiveGrantsWithSource policies direct ∧
        (entry.resourceType = wildcardResourceType ∨
          ∀ other ∈ buildEffectiveGrantsWithSource policies direct,
            other.resourceType = wildcardResourceType → other.action ≠ entry.action) :=
  mem_dedupe

/-- What is left out is covered by what stays. -/
theorem covered_of_listed {entry : EffectiveGrantWithSource}
    (listed : entry ∈ buildEffectiveGrantsWithSource policies direct) :
    ∃ shown ∈ effectiveWithSource policies direct, shown.action = entry.action ∧
      ReachesType shown.resourceType entry.resourceType := by
  by_cases kept : entry ∈ effectiveWithSource policies direct
  · exact ⟨entry, kept, rfl, .inl rfl⟩
  · rw [mem_effective, not_and, not_or] at kept
    obtain ⟨-, covered⟩ := kept listed
    push Not at covered
    obtain ⟨wildcard, member, onAll, same⟩ := covered
    exact ⟨wildcard, mem_effective.mpr ⟨member, .inl onAll⟩, same, .inr onAll⟩

theorem source_of_allowed {database : Database} {userEmail action resourceType : String}
    {runtime : Runtime} {resource : Option Resource} {context : Option Dict}
    (allowed : isAllowed database runtime userEmail action resourceType resource context = true) :
    ∃ source ∈ grantSources (database.getPoliciesForUser userEmail)
        (database.getPermissionsForUser userEmail),
      source.action = action ∧ ReachesType source.resourceType resourceType := by
  rw [isAllowed_iff_grantedBy] at allowed
  obtain ⟨grant, held, lists, reach, -⟩ := allowed
  rcases List.mem_append.mp held with ofPolicy | ofGrant
  · obtain ⟨policy, active, rfl⟩ := List.mem_map.mp ofPolicy
    have assigned : policy ∈ database.getPoliciesForUser userEmail := by
      obtain ⟨member, own⟩ := List.mem_filter.mp active
      rw [Bool.and_eq_true] at own
      exact List.mem_filter.mpr ⟨member, own.2⟩
    refine ⟨⟨action, policy.resourceType, some policy.name⟩, List.mem_append_left _ ?_, rfl, reach⟩
    exact List.mem_flatMap.mpr ⟨policy, assigned, List.mem_map.mpr ⟨action, lists, rfl⟩⟩
  · obtain ⟨row, active, rfl⟩ := List.mem_map.mp ofGrant
    have own : row ∈ database.getPermissionsForUser userEmail := by
      obtain ⟨member, own⟩ := List.mem_filter.mp active
      rw [Bool.and_eq_true] at own
      exact List.mem_filter.mpr ⟨member, own.2⟩
    refine ⟨⟨row.action, row.resourceType, none⟩, List.mem_append_right _ ?_, ?_, reach⟩
    · exact List.mem_map.mpr ⟨row, own, rfl⟩
    · exact (List.mem_singleton.mp lists).symm

/-- The two lists of the card of a user. -/
structure CardFits (database : Database) (userEmail : String)
    (effective : List EffectiveGrantWithSource) (directShown : List UserPermission) : Prop where
  /-- whatever a request of the user is allowed, an entry says so -/
  allowed : ∀ runtime action resourceType resource context,
    isAllowed database runtime userEmail action resourceType resource context = true →
      ∃ entry ∈ effective, entry.action = action ∧ ReachesType entry.resourceType resourceType
  /-- an entry was given by the policies it names, or directly where it says so -/
  sources : ∀ entry ∈ effective,
    entry.policyNames = namesFor (database.getPoliciesForUser userEmail) entry.pair ∧
    (entry.direct = true ↔ ∃ grant ∈ database.getPermissionsForUser userEmail,
      (grant.action, grant.resourceType) = entry.pair) ∧
    (entry.policyNames ≠ [] ∨ entry.direct = true)
  once : (effective.map EffectiveGrantWithSource.pair).Nodup
  lean : ∀ entry ∈ effective, ∀ other ∈ effective, other.action = entry.action →
    ReachesType other.resourceType entry.resourceType → other = entry
  /-- a direct grant is on its own list, or the other list covers it -/
  direct : ∀ grant ∈ database.getPermissionsForUser userEmail,
    grant ∈ directShown ↔ ¬ (grant.resourceType ≠ wildcardResourceType ∧
      ∃ entry ∈ effective, entry.action = grant.action ∧ entry.resourceType = wildcardResourceType)
  /-- a card holds the entries of its resource type, and every entry has one -/
  cards : ((groupByResourceType effective).map Prod.fst).Nodup ∧
    (∀ group ∈ groupByResourceType effective,
      group.2 = effective.filter fun entry => entry.resourceType = group.1) ∧
    ∀ entry ∈ effective, ∃ group ∈ groupByResourceType effective, entry ∈ group.2

theorem cardFits_of_separate (database : Database) (userEmail : String)
    (separate : KeysSeparate (database.getPoliciesForUser userEmail)
      (database.getPermissionsForUser userEmail)) :
    CardFits database userEmail
      (effectiveWithSource (database.getPoliciesForUser userEmail)
        (database.getPermissionsForUser userEmail))
      (directPermissions (database.getPoliciesForUser userEmail)
        (database.getPermissionsForUser userEmail)) where
  allowed runtime action resourceType resource context allowed := by
    obtain ⟨source, member, sameAction, reach⟩ := source_of_allowed allowed
    obtain ⟨entry, listed, same⟩ := listed_iff_separate.mpr separate source member
    obtain ⟨shown, isShown, ownAction, ownReach⟩ := covered_of_listed listed
    obtain ⟨entryAction, entryType⟩ := Prod.mk.inj same
    refine ⟨shown, isShown, ownAction.trans (entryAction.trans sameAction), ?_⟩
    rcases ownReach with sameType | onAll
    · rw [sameType, entryType]
      exact reach
    · exact .inr onAll
  sources entry member := by
    have listed := (mem_effective.mp member).1
    obtain ⟨names, isDirect⟩ := sources_of_mem_build separate listed
    exact ⟨names, isDirect, given_of_mem_build listed⟩
  once := nodup_pairs_build.sublist (List.filter_sublist.map _)
  lean entry member other member' sameAction reach := by
    obtain ⟨listed, kept⟩ := mem_effective.mp member
    have listed' := (mem_effective.mp member').1
    have sameType : other.resourceType = entry.resourceType := by
      rcases reach with same | onAll
      · exact same
      · rcases kept with own | alone
        · exact onAll.trans own.symm
        · exact absurd sameAction (alone other listed' onAll)
    exact List.inj_on_of_nodup_map nodup_pairs_build listed' listed
      (Prod.ext sameAction sameType)
  direct grant member := by
    rw [directPermissions, mem_dedupe, not_and_or, not_not]
    push Not
    refine (and_iff_right member).trans (or_congr Iff.rfl (forall₂_congr fun entry _ => ?_))
    exact ⟨fun other same onAll => other onAll same, fun other onAll same => other same onAll⟩
  cards := by
    refine ⟨(grouped_groupPairs _).keys, ?_, ?_⟩
    · intro group listed
      exact (mem_groupByResourceType.mp listed).1.symm
    · intro entry member
      have own : entry ∈ (effectiveWithSource (database.getPoliciesForUser userEmail)
          (database.getPermissionsForUser userEmail)).filter fun other =>
            HasPair.resourceType other = entry.resourceType :=
        List.mem_filter.mpr ⟨member, decide_eq_true rfl⟩
      exact ⟨_, mem_groupByResourceType.mpr ⟨rfl, List.ne_nil_of_mem own⟩, own⟩

/-- Before the wildcards are taken into account nothing that was given is missing exactly when keys
tell the pairs apart, and then the card shows what is allowed, where it comes from, and nothing
twice. -/
theorem access_card_fits (database : Database) (userEmail : String) :
    ((∀ source ∈ grantSources (database.getPoliciesForUser userEmail)
          (database.getPermissionsForUser userEmail),
        ∃ entry ∈ buildEffectiveGrantsWithSource (database.getPoliciesForUser userEmail)
          (database.getPermissionsForUser userEmail), entry.pair = source.pair) ↔
      KeysSeparate (database.getPoliciesForUser userEmail)
        (database.getPermissionsForUser userEmail)) ∧
    (KeysSeparate (database.getPoliciesForUser userEmail)
        (database.getPermissionsForUser userEmail) →
      CardFits database userEmail
        (effectiveWithSource (database.getPoliciesForUser userEmail)
          (database.getPermissionsForUser userEmail))
        (directPermissions (database.getPoliciesForUser userEmail)
          (database.getPermissionsForUser userEmail))) :=
  ⟨listed_iff_separate, cardFits_of_separate database userEmail⟩

/-- Two direct grants with one key. -/
example : ((buildEffectiveGrantsWithSource []
    [⟨1, "a::b", "c", .null, true, none⟩, ⟨1, "a", "b::c", .null, true, none⟩]).map
      EffectiveGrantWithSource.pair) = [("a::b", "c")] := by
  decide

def annDatabase : Database where
  users := [⟨1, "ann@example.org", .user⟩]
  policies := [⟨1, "readers", none, ["users:read"], "*", .null, true, none⟩]
  userPolicies := [⟨1, 1, none⟩]
  userPermissions := [⟨1, "users:read", "users", .null, true, none⟩]
  policyHistory := []
  nextPolicyId := 2
  nextHistoryId := 1

/-- A direct grant that a policy covers on every resource type. -/
theorem access_card_fits_ann :
    CardFits annDatabase "ann@example.org" [⟨"users:read", "*", ["readers"], false⟩] [] := by
  have separate : KeysSeparate (annDatabase.getPoliciesForUser "ann@example.org")
      (annDatabase.getPermissionsForUser "ann@example.org") := by
    unfold KeysSeparate
    decide
  exact (access_card_fits annDatabase "ann@example.org").2 separate

end Card

end MysticAuth
