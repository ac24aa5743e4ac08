import MysticAuth.Authorization.PolicyVersions
import Mathlib.Data.List.Sort

/-!
# The history of a policy is a chain

Each entry says what the policy was before and after one change, so the entries
of a policy are linked as long as every change was recorded as what it was.  An
update reads the row it has locked.  A deletion records a row that it read
before it had any lock, and a change that comes in between is missing from what
it records.
-/

set_option autoImplicit false

namespace MysticAuth.PolicyVersions

open Python Interleaving

/-! ## Chains of entries -/

/-- Each entry starts from the definition that the one before it has left. -/
def Chained : Option PolicyDefinition → List PolicyHistoryEntry → Prop
  | _, [] => True
  | last, entry :: rest => entry.previousDefinition = last ∧ Chained entry.newDefinition rest

def lastDefinition : Option PolicyDefinition → List PolicyHistoryEntry → Option PolicyDefinition
  | last, [] => last
  | _, entry :: rest => lastDefinition entry.newDefinition rest

theorem chained_concat (first : Option PolicyDefinition) (entries : List PolicyHistoryEntry)
    (entry : PolicyHistoryEntry) :
    Chained first (entries ++ [entry]) ↔
      Chained first entries ∧ entry.previousDefinition = lastDefinition first entries := by
  induction entries generalizing first with
  | nil => simp [Chained, lastDefinition]
  | cons head rest ih =>
    simp only [List.cons_append, Chained, lastDefinition, ih, and_assoc]

theorem lastDefinition_concat (first : Option PolicyDefinition)
    (entries : List PolicyHistoryEntry) (entry : PolicyHistoryEntry) :
    lastDefinition first (entries ++ [entry]) = entry.newDefinition := by
  induction entries generalizing first with
  | nil => rfl
  | cons head rest ih => exact ih head.newDefinition

/-- In a chain each entry's previous definition is the new one of the entry before it. -/
theorem Chained.links {first : Option PolicyDefinition} {entries : List PolicyHistoryEntry}
    (chained : Chained first entries) :
    ∀ link ∈ entries.zip entries.tail, link.2.previousDefinition = link.1.newDefinition := by
  induction entries generalizing first with
  | nil => simp
  | cons entry rest ih =>
    cases rest with
    | nil => simp
    | cons later rest =>
      intro link member
      rcases List.mem_cons.mp member with rfl | inRest
      · exact chained.2.1
      · exact ih chained.2 link inRest

/-- The entries of one policy as they were committed. -/
def entriesOf (database : Database) (policyId : Nat) : List PolicyHistoryEntry :=
  database.policyHistory.filter (·.policyId == policyId)

/-- The entries of one policy, ordered by id. -/
def historyOf (database : Database) (policyId : Nat) : List PolicyHistoryEntry :=
  (entriesOf database policyId).insertionSort fun entry later => entry.id ≤ later.id

def definitionOf (database : Database) (policyId : Nat) : Option PolicyDefinition :=
  (database.policies.find? (·.id == policyId)).map Policy.definition

/-- The history of a policy is a chain that begins with `seed`, and no change is missing: it ends
with what the policy is now. -/
structure Complete (seed : Option PolicyDefinition) (database : Database) (policyId : Nat) :
    Prop where
  chained : Chained seed (historyOf database policyId)
  current : definitionOf database policyId = lastDefinition seed (historyOf database policyId)

/-- Ids are taken from their sequences, and every policy's entries lead in the order of their ids
from its seed to its row.  Only a policy that no request has created has a seed. -/
structure Linked (seed : Nat → Option PolicyDefinition) (database : Database) : Prop where
  rows : ∀ policy ∈ database.policies, policy.id < database.nextPolicyId
  unique : (database.policies.map Policy.id).Nodup
  entries : ∀ entry ∈ database.policyHistory,
    entry.policyId < database.nextPolicyId ∧ entry.id < database.nextHistoryId
  unseeded : ∀ policyId, database.nextPolicyId ≤ policyId → seed policyId = none
  ascending : ∀ policyId,
    (entriesOf database policyId).Pairwise fun entry later => entry.id < later.id
  chained : ∀ policyId, Chained (seed policyId) (entriesOf database policyId)
  current : ∀ policyId, definitionOf database policyId =
    lastDefinition (seed policyId) (entriesOf database policyId)

section Databases

variable {seed : Nat → Option PolicyDefinition} {database after : Database}

theorem Linked.historyOf_eq (linked : Linked seed database) (policyId : Nat) :
    historyOf database policyId = entriesOf database policyId :=
  ((linked.ascending policyId).imp fun earlier => Nat.le_of_lt earlier).insertionSort_eq

theorem Linked.complete (linked : Linked seed database) (policyId : Nat) :
    Complete (seed policyId) database policyId := by
  constructor
  · rw [linked.historyOf_eq]
    exact linked.chained policyId
  · rw [linked.historyOf_eq]
    exact linked.current policyId

/-- One change, recorded with the policy as it was before. -/
structure Records (database after : Database) (entry : PolicyHistoryEntry) : Prop where
  history : after.policyHistory = database.policyHistory ++ [entry]
  policyIds : database.nextPolicyId ≤ after.nextPolicyId
  historyIds : database.nextHistoryId ≤ after.nextHistoryId
  rows : ∀ policy ∈ after.policies, policy.id < after.nextPolicyId
  unique : (after.policies.map Policy.id).Nodup
  policyId : entry.policyId < after.nextPolicyId
  historyId : entry.id < after.nextHistoryId
  newest : ∀ earlier ∈ database.policyHistory, earlier.policyId = entry.policyId →
    earlier.id < entry.id
  previous : entry.previousDefinition = definitionOf database entry.policyId
  changed : definitionOf after entry.policyId = entry.newDefinition
  others : ∀ policyId, policyId ≠ entry.policyId →
    definitionOf after policyId = definitionOf database policyId

theorem Records.entriesOf_self {entry : PolicyHistoryEntry}
    (records : Records database after entry) :
    entriesOf after entry.policyId = entriesOf database entry.policyId ++ [entry] := by
  simp [entriesOf, records.history]

theorem Records.entriesOf_ne {entry : PolicyHistoryEntry} (records : Records database after entry)
    {policyId : Nat} (differs : policyId ≠ entry.policyId) :
    entriesOf after policyId = entriesOf database policyId := by
  simp [entriesOf, records.history, Ne.symm differs]

theorem Linked.record (linked : Linked seed database) {entry : PolicyHistoryEntry}
    (records : Records database after entry) : Linked seed after where
  rows := records.rows
  unique := records.unique
  entries := by
    intro other member
    rw [records.history] at member
    rcases List.mem_append.mp member with old | new
    · have bounds := linked.entries other old
      have policyIds := records.policyIds
      have historyIds := records.historyIds
      omega
    · rw [List.mem_singleton.mp new]
      exact ⟨records.policyId, records.historyId⟩
  unseeded policyId fresh := linked.unseeded policyId (Nat.le_trans records.policyIds fresh)
  ascending := by
    intro policyId
    by_cases same : policyId = entry.policyId
    · subst same
      rw [records.entriesOf_self, List.pairwise_append]
      refine ⟨linked.ascending _, List.pairwise_singleton _ _, fun earlier member last isLast => ?_⟩
      rw [List.mem_singleton.mp isLast]
      obtain ⟨listed, ofPolicy⟩ := List.mem_filter.mp member
      exact records.newest earlier listed (eq_of_beq ofPolicy)
    · rw [records.entriesOf_ne same]
      exact linked.ascending policyId
  chained := by
    intro policyId
    by_cases same : policyId = entry.policyId
    · subst same
      rw [records.entriesOf_self, chained_concat, records.previous]
      exact ⟨linked.chained _, linked.current _⟩
    · rw [records.entriesOf_ne same]
      exact linked.chained policyId
  current := by
    intro policyId
    by_cases same : policyId = entry.policyId
    · subst same
      rw [records.entriesOf_self, lastDefinition_concat, records.changed]
    · rw [records.entriesOf_ne same, records.others policyId same]
      exact linked.current policyId

/-! ## The three changes -/

theorem definitionOf_of_fresh (linked : Linked seed database) {policyId : Nat}
    (fresh : database.nextPolicyId ≤ policyId) : definitionOf database policyId = none := by
  rw [definitionOf, Option.map_eq_none_iff, List.find?_eq_none]
  intro policy listed
  have bound := linked.rows policy listed
  rw [beq_iff_eq]
  omega

theorem records_createPolicy (linked : Linked seed database) (data : Database.PolicyData)
    (changedBy : String) :
    ∃ entry, Records database (database.createPolicy data changedBy) entry ∧
      entry.policyId = database.nextPolicyId := by
  refine ⟨_, ⟨rfl, Nat.le_succ _, Nat.le_succ _, ?_, ?_, Nat.lt_succ_self _, Nat.lt_succ_self _,
    fun earlier listed _ => (linked.entries earlier listed).2, ?_, ?_, ?_⟩, rfl⟩
  · intro policy listed
    rcases List.mem_append.mp listed with old | new
    · exact Nat.lt_succ_of_lt (linked.rows policy old)
    · rw [List.mem_singleton.mp new]
      exact Nat.lt_succ_self _
  · simp only [Database.createPolicy, Database.addHistory, List.map_append, List.map_singleton]
    refine linked.unique.append (List.nodup_singleton _) fun policyId old new => ?_
    obtain ⟨policy, listed, isId⟩ := List.mem_map.mp old
    have bound := linked.rows policy listed
    have isNew := List.mem_singleton.mp new
    omega
  · exact (definitionOf_of_fresh linked (Nat.le_refl _)).symm
  · have absent := definitionOf_of_fresh linked (Nat.le_refl _)
    rw [definitionOf, Option.map_eq_none_iff] at absent
    simp [definitionOf, Database.createPolicy, Database.addHistory, absent]
  · intro policyId differs
    simp only [definitionOf, Database.createPolicy, Database.addHistory, List.find?_append]
    simp [Ne.symm differs]

theorem apply_id {fields : Database.PolicyFields} {policy updated : Policy}
    (applied : fields.apply policy = some updated) : updated.id = policy.id := by
  simp only [Database.PolicyFields.apply, Option.bind_eq_bind, Option.bind_eq_some_iff,
    Option.some.injEq] at applied
  obtain ⟨name, -, actions, -, resourceType, -, isActive, -, rfl⟩ := applied
  rfl

theorem find_replacePolicy (policies : List Policy) (updated : Policy) (policyId : Nat) :
    (Database.replacePolicy policies updated).find? (·.id == policyId) =
      (policies.find? (·.id == policyId)).map fun policy =>
        if policyId = updated.id then updated else policy := by
  have sameId : ((·.id == policyId) ∘ fun policy : Policy =>
      if policy.id = updated.id then updated else policy) = (·.id == policyId) := by
    funext policy
    simp only [Function.comp_apply]
    split
    · rename_i isUpdated
      rw [isUpdated]
    · rfl
  rw [Database.replacePolicy, List.find?_map, sameId]
  cases found : policies.find? (·.id == policyId) with
  | none => rfl
  | some policy =>
    have isId : policy.id = policyId := eq_of_beq (List.find?_some found :)
    simp only [Option.map_some, isId]

theorem replacePolicy_ids (policies : List Policy) (updated : Policy) :
    (Database.replacePolicy policies updated).map Policy.id = policies.map Policy.id := by
  rw [Database.replacePolicy, List.map_map]
  apply List.map_congr_left
  intro policy _
  simp only [Function.comp_apply]
  split
  · rename_i same
    exact same.symm
  · rfl

theorem find_of_mem {policies : List Policy} (unique : (policies.map Policy.id).Nodup)
    {policy : Policy} (listed : policy ∈ policies) :
    policies.find? (·.id == policy.id) = some policy := by
  cases found : policies.find? (·.id == policy.id) with
  | none => exact absurd (List.find?_eq_none.mp found policy listed) (by simp)
  | some other =>
    have sameId : other.id = policy.id := eq_of_beq (List.find?_some found :)
    rw [List.inj_on_of_nodup_map unique (List.mem_of_find?_eq_some found) listed sameId]

theorem records_updatePolicy (linked : Linked seed database) {locked updated : Policy}
    {fields : Database.PolicyFields} {changedBy : String} {changeReason : Option String}
    {changeType : PolicyChangeType} (listed : locked ∈ database.policies)
    (applied : fields.apply locked = some updated)
    (changes : database.updatePolicy locked fields changedBy changeReason changeType =
      some after) :
    ∃ entry, Records database after entry ∧ entry.policyId = locked.id := by
  have sameId := apply_id applied
  simp only [Database.updatePolicy, applied, Option.bind_eq_bind, Option.bind_some] at changes
  split at changes
  · cases changes
  obtain rfl := Option.some.inj changes
  have found := find_of_mem linked.unique listed
  refine ⟨_, ⟨rfl, Nat.le_refl _, Nat.le_succ _, ?_, ?_, ?_, Nat.lt_succ_self _,
    fun earlier isEarlier _ => (linked.entries earlier isEarlier).2, ?_, ?_, ?_⟩, sameId⟩
  · intro policy isRow
    have isId := List.mem_map_of_mem (f := Policy.id) isRow
    rw [Database.addHistory, replacePolicy_ids] at isId
    obtain ⟨old, isOld, same⟩ := List.mem_map.mp isId
    rw [← same]
    exact linked.rows old isOld
  · rw [Database.addHistory, replacePolicy_ids]
    exact linked.unique
  · rw [sameId]
    exact linked.rows locked listed
  · simp [definitionOf, sameId, found]
  · simp [definitionOf, Database.addHistory, find_replacePolicy, sameId, found]
  · intro policyId differs
    simp only [definitionOf, Database.addHistory, find_replacePolicy, if_neg differs,
      Option.map_id']

theorem find_filter_ne (policies : List Policy) {deleted policyId : Nat}
    (differs : policyId ≠ deleted) :
    (policies.filter (·.id != deleted)).find? (·.id == policyId) =
      policies.find? (·.id == policyId) := by
  rw [List.find?_filter]
  congr 1
  funext policy
  by_cases same : policy.id = policyId <;> simp [same, differs]

theorem records_deletion (linked : Linked seed database) {policy : Policy} {historyId : Nat}
    {changedBy : String} {changeReason : Option String} (listed : policy ∈ database.policies)
    (taken : historyId < database.nextHistoryId)
    (newest : ∀ earlier ∈ database.policyHistory, earlier.policyId = policy.id →
      earlier.id < historyId) :
    ∃ entry, Records database
      (deleteInserted database policy historyId changedBy changeReason) entry ∧
        entry.policyId = policy.id := by
  refine ⟨_, ⟨rfl, Nat.le_refl _, Nat.le_refl _, ?_, ?_, linked.rows policy listed, taken, newest,
    ?_, ?_, ?_⟩, rfl⟩
  · intro other isRow
    exact linked.rows other (List.mem_filter.mp isRow).1
  · exact linked.unique.sublist (List.filter_sublist.map Policy.id)
  · rw [definitionOf, find_of_mem linked.unique listed]
    rfl
  · simp [definitionOf, deleteInserted]
  · intro policyId differs
    rw [definitionOf, deleteInserted, find_filter_ne _ differs, definitionOf]

end Databases

/-! ## One answer -/

/-- The policy that a committed transaction has created, changed or deleted. -/
def changedPolicy : Event → Option Nat
  | ⟨.commitCreate _ _, .ok created⟩ => some created.id
  | ⟨.commitUpdate locked _ _ _ _, .ok _⟩ => some locked.id
  | ⟨.commitDelete policy _ _ _, .ok _⟩ => some policy.id
  | _ => none

/-- What a look-up by name has found, if the call is one. -/
def lookedUp : Event → Option (Option Policy)
  | ⟨.getByName _, found⟩ => some found
  | _ => none

/-- What an answered call of a thread does to the tables. -/
inductive TableStep (thread : Nat) (store : Store) : Event → Database → Prop
  | unchanged {event : Event} (quiet : changedPolicy event = none) :
      TableStep thread store event store.database
  | inserted (policy : Policy) (changedBy : String) (changeReason : Option String) :
      TableStep thread store
        ⟨.insertDeletion policy changedBy changeReason, .ok store.database.nextHistoryId⟩
        (takeHistoryId store.database)
  | created (data : Database.PolicyData) (changedBy : String) (created : Policy)
      (isNew : created.id = store.database.nextPolicyId) :
      TableStep thread store ⟨.commitCreate data changedBy, .ok created⟩
        (store.database.createPolicy data changedBy)
  | updated (locked updated : Policy) (fields : Database.PolicyFields) (changedBy : String)
      (changeReason : Option String) (changeType : PolicyChangeType) (after : Database)
      (free : store.policyLocked thread locked.id = false)
      (applied : fields.apply locked = some updated)
      (changes : store.database.updatePolicy locked fields changedBy changeReason changeType =
        some after) :
      TableStep thread store
        ⟨.commitUpdate locked fields changedBy changeReason changeType, .ok updated⟩ after
  | deleted (policy : Policy) (historyId : Nat) (changedBy : String)
      (changeReason : Option String) (free : store.policyLocked thread policy.id = false) :
      TableStep thread store ⟨.commitDelete policy historyId changedBy changeReason, .ok ()⟩
        (deleteInserted store.database policy historyId changedBy changeReason)

section Answers

variable {thread : Nat} {call : Call} {reply : Reply call} {store store' : Store}

theorem committed_cases {α : Type} {waits : Bool} {after : Option (α × Database)}
    {result : Except Failure α} (possible : (result, store') ∈ committed waits thread store after) :
    waits = false ∧ store'.policyLocks = (store.release thread).policyLocks ∧
      ((∃ failure, result = .error failure ∧ store'.database = store.database) ∨
        ∃ value database, result = .ok value ∧ after = some (value, database) ∧
          store'.database = database) := by
  unfold committed at possible
  cases waits with
  | true => simp at possible
  | false =>
    refine ⟨rfl, ?_⟩
    simp only [Bool.false_eq_true, if_false] at possible
    cases after with
    | none =>
      obtain ⟨rfl, rfl⟩ := Prod.mk.inj (List.mem_singleton.mp possible)
      exact ⟨rfl, Or.inl ⟨_, rfl, rfl⟩⟩
    | some after =>
      simp only [List.mem_cons, Prod.mk.injEq, List.not_mem_nil, or_false] at possible
      rcases possible with ⟨rfl, rfl⟩ | ⟨rfl, rfl⟩
      · exact ⟨rfl, Or.inr ⟨_, _, rfl, rfl, rfl⟩⟩
      · exact ⟨rfl, Or.inl ⟨_, rfl, rfl⟩⟩

theorem table_step (possible : (reply, store') ∈ outcomes thread call store) :
    TableStep thread store ⟨call, reply⟩ store'.database := by
  cases call with
  | commitCreate data changedBy =>
    simp only [outcomes, createOutcomes] at possible
    split at possible <;>
      simp only [List.mem_cons, Prod.mk.injEq, List.not_mem_nil, or_false] at possible <;>
      rcases possible with ⟨rfl, rfl⟩ | ⟨rfl, rfl⟩
    · exact .unchanged rfl
    · exact .unchanged rfl
    · exact .created data changedBy _ rfl
    · exact .unchanged rfl
  | commitUpdate locked fields changedBy changeReason changeType =>
    obtain ⟨free, -, ⟨failure, rfl, same⟩ | ⟨updated, after, rfl, isAfter, same⟩⟩ :=
      committed_cases possible
    · rw [same]
      exact .unchanged rfl
    · rw [same]
      simp only [Option.bind_eq_bind, Option.bind_eq_some_iff, Option.some.injEq,
        Prod.mk.injEq] at isAfter
      obtain ⟨_, applied, _, changes, rfl, rfl⟩ := isAfter
      exact .updated locked _ fields changedBy changeReason changeType _ free applied changes
  | insertDeletion policy changedBy changeReason =>
    simp only [outcomes, List.mem_cons, Prod.mk.injEq, List.not_mem_nil, or_false] at possible
    rcases possible with ⟨rfl, rfl⟩ | ⟨rfl, rfl⟩
    · exact .inserted policy changedBy changeReason
    · exact .unchanged rfl
  | commitDelete policy historyId changedBy changeReason =>
    simp only [outcomes] at possible
    obtain ⟨free, -, ⟨failure, rfl, same⟩ | ⟨value, after, rfl, isAfter, same⟩⟩ :=
      committed_cases possible
    · rw [same]
      exact .unchanged rfl
    · obtain ⟨rfl, rfl⟩ := Prod.mk.inj (Option.some.inj isAfter)
      rw [same]
      exact .deleted policy historyId changedBy changeReason free
  | lockPolicy policy =>
    simp only [outcomes] at possible
    split at possible
    · simp at possible
    · split at possible <;>
        obtain ⟨rfl, rfl⟩ := Prod.mk.inj (List.mem_singleton.mp possible) <;>
        exact .unchanged rfl
  | authorize caller action resourceType context =>
    simp only [outcomes, List.mem_cons, Prod.mk.injEq, List.not_mem_nil, or_false] at possible
    rcases possible with ⟨rfl, rfl⟩ | ⟨rfl, rfl⟩ <;> exact .unchanged rfl
  | assertAuthorizedToGrant caller context proposal =>
    obtain ⟨answer, -, same⟩ := List.mem_map.mp possible
    obtain ⟨rfl, rfl⟩ := Prod.mk.inj same
    exact .unchanged rfl
  | getByName name | getHistoryById historyId | refreshPolicy policy =>
    obtain ⟨rfl, rfl⟩ := Prod.mk.inj (List.mem_singleton.mp possible)
    exact .unchanged rfl

/-- A lock stays until its own thread's transaction ends. -/
theorem lock_stays (possible : (reply, store') ∈ outcomes thread call store) {lock : PolicyLock}
    (held : lock ∈ store.policyLocks) (differs : thread ≠ lock.thread) :
    lock ∈ store'.policyLocks := by
  have released : lock ∈ (store.release thread).policyLocks := by
    simpa [Store.release, held] using Ne.symm differs
  cases call with
  | commitUpdate locked fields changedBy changeReason changeType =>
    rw [(committed_cases possible).2.1]
    exact released
  | commitDelete policy historyId changedBy changeReason =>
    simp only [outcomes] at possible
    rw [(committed_cases possible).2.1]
    exact released
  | commitCreate data changedBy =>
    simp only [outcomes, createOutcomes] at possible
    split at possible <;>
      simp only [List.mem_cons, Prod.mk.injEq, List.not_mem_nil, or_false] at possible <;>
      rcases possible with ⟨-, rfl⟩ | ⟨-, rfl⟩ <;> exact held
  | insertDeletion policy changedBy changeReason =>
    simp only [outcomes, List.mem_cons, Prod.mk.injEq, List.not_mem_nil, or_false] at possible
    rcases possible with ⟨-, rfl⟩ | ⟨-, rfl⟩ <;> exact held
  | authorize caller action resourceType context =>
    simp only [outcomes, List.mem_cons, Prod.mk.injEq, List.not_mem_nil, or_false] at possible
    rcases possible with ⟨-, rfl⟩ | ⟨-, rfl⟩ <;> exact held
  | lockPolicy policy =>
    simp only [outcomes] at possible
    split at possible
    · simp at possible
    · split at possible <;> obtain ⟨-, rfl⟩ := Prod.mk.inj (List.mem_singleton.mp possible)
      · exact held
      · exact List.mem_cons_of_mem _ held
  | assertAuthorizedToGrant caller context proposal =>
    obtain ⟨answer, -, same⟩ := List.mem_map.mp possible
    rw [← (Prod.mk.inj same).2]
    exact held
  | getByName name | getHistoryById historyId | refreshPolicy policy =>
    rw [(Prod.mk.inj (List.mem_singleton.mp possible)).2]
    exact held

/-- A row is locked where it is. -/
theorem locked_row {policy locked : Policy}
    (possible : (some locked, store') ∈ outcomes thread (.lockPolicy policy) store) :
    locked ∈ store'.database.policies ∧ ⟨thread, locked.id⟩ ∈ store'.policyLocks := by
  simp only [outcomes] at possible
  split at possible
  · simp at possible
  · split at possible
    · simp at possible
    · rename_i locked' found
      obtain ⟨isLocked, rfl⟩ := Prod.mk.inj (List.mem_singleton.mp possible)
      obtain rfl := Option.some.inj isLocked
      have sameId : locked.id = policy.id := eq_of_beq (List.find?_some found :)
      refine ⟨List.mem_of_find?_eq_some found, ?_⟩
      rw [sameId]
      exact List.mem_cons_self

theorem lookedUp_row (possible : (reply, store') ∈ outcomes thread call store) {policy : Policy}
    (found : lookedUp ⟨call, reply⟩ = some (some policy)) :
    policy ∈ store'.database.policies := by
  cases call with
  | getByName name =>
    obtain ⟨rfl, rfl⟩ := Prod.mk.inj (List.mem_singleton.mp possible)
    exact List.mem_of_find?_eq_some (Option.some.inj found)
  | _ => simp [lookedUp] at found

variable {event : Event} {after : Database}

theorem TableStep.row_stays (step : TableStep thread store event after) {policy : Policy}
    (listed : policy ∈ store.database.policies) (other : changedPolicy event ≠ some policy.id) :
    policy ∈ after.policies := by
  cases step with
  | unchanged quiet => exact listed
  | inserted deleted changedBy changeReason => exact listed
  | created data changedBy created isNew => exact List.mem_append_left _ listed
  | updated locked updated fields changedBy changeReason changeType after free applied changes =>
    simp only [Database.updatePolicy, applied, Option.bind_eq_bind, Option.bind_some] at changes
    split at changes
    · cases changes
    obtain rfl := Option.some.inj changes
    have differs : policy.id ≠ updated.id := by
      rw [apply_id applied]
      exact fun same => other (congrArg some same.symm)
    exact List.mem_map.mpr ⟨policy, listed, if_neg differs⟩
  | deleted deleted historyId changedBy changeReason free =>
    refine List.mem_filter.mpr ⟨listed, ?_⟩
    simp only [bne_iff_ne, ne_eq]
    exact fun same => other (congrArg some same.symm)

theorem TableStep.entry_cases (step : TableStep thread store event after)
    {entry : PolicyHistoryEntry} (recorded : entry ∈ after.policyHistory) :
    entry ∈ store.database.policyHistory ∨ changedPolicy event = some entry.policyId := by
  cases step with
  | unchanged quiet => exact Or.inl recorded
  | inserted policy changedBy changeReason => exact Or.inl recorded
  | created data changedBy created isNew =>
    refine (List.mem_append.mp recorded).imp_right fun new => ?_
    rw [List.mem_singleton.mp new]
    exact congrArg some isNew
  | updated locked updated fields changedBy changeReason changeType after free applied changes =>
    simp only [Database.updatePolicy, applied, Option.bind_eq_bind, Option.bind_some] at changes
    split at changes
    · cases changes
    obtain rfl := Option.some.inj changes
    refine (List.mem_append.mp recorded).imp_right fun new => ?_
    rw [List.mem_singleton.mp new]
    exact congrArg some (apply_id applied).symm
  | deleted policy historyId changedBy changeReason free =>
    refine (List.mem_append.mp recorded).imp_right fun new => ?_
    rw [List.mem_singleton.mp new]
    rfl

theorem TableStep.historyId_grows (step : TableStep thread store event after) :
    store.database.nextHistoryId ≤ after.nextHistoryId := by
  cases step with
  | unchanged quiet => exact Nat.le_refl _
  | inserted policy changedBy changeReason => exact Nat.le_succ _
  | created data changedBy created isNew => exact Nat.le_succ _
  | updated locked updated fields changedBy changeReason changeType after free applied changes =>
    simp only [Database.updatePolicy, applied, Option.bind_eq_bind, Option.bind_some] at changes
    split at changes
    · cases changes
    obtain rfl := Option.some.inj changes
    exact Nat.le_succ _
  | deleted policy historyId changedBy changeReason free => exact Nat.le_refl _

end Answers

/-! ## What a request does before it commits -/

/-- The last look-up by name. -/
def lastRead : List Event → Option Policy
  | [] => none
  | event :: earlier =>
      match lookedUp event with
      | some found => found
      | none => lastRead earlier

def discipline : Discipline Reply where
  allows trace call := match call with
    | .commitUpdate locked _ _ _ _ => ∃ policy earlier,
        trace = ⟨.lockPolicy policy, some locked⟩ :: earlier
    | .commitDelete policy historyId changedBy changeReason => ∃ earlier,
        trace = ⟨.insertDeletion policy changedBy changeReason, .ok historyId⟩ :: earlier ∧
          lastRead earlier = some policy
    | _ => True
  answers _ _ := True

section Programs

variable {server : Server} {reprText : Json → String} {request : Request} {trace : List Event}

/-- A call that the discipline leaves open. -/
def isOpen : Call → Prop
  | .commitUpdate _ _ _ _ _ | .commitDelete _ _ _ _ => False
  | _ => True

/-- An open call that is no look-up by name. -/
def isPlain : Call → Prop
  | .getByName _ | .commitUpdate _ _ _ _ _ | .commitDelete _ _ _ _ => False
  | _ => True

theorem allows_of_open {call : Call} (isOpen : isOpen call) : discipline.allows trace call := by
  cases call <;> trivial

theorem allows_of_plain {call : Call} (isPlain : isPlain call) :
    discipline.allows trace call := by
  cases call <;> trivial

theorem lastRead_append {added : List Event} (plain : ∀ event ∈ added, isPlain event.1) :
    lastRead (added ++ trace) = lastRead trace := by
  induction added with
  | nil => rfl
  | cons event rest ih =>
    have quiet : lookedUp event = none := by
      have isPlain := plain event List.mem_cons_self
      obtain ⟨call, reply⟩ := event
      cases call <;> first | rfl | exact isPlain.elim
    simp only [List.cons_append, lastRead, quiet]
    exact ih fun event' member => plain event' (List.mem_cons_of_mem _ member)

/-- Open calls first, and then the rest. -/
theorem bind_open {α β : Type} {program : Service α} {rest : α → Service β}
    (confined : program.Confined isOpen)
    (next : ∀ value later, (rest value).Meets discipline (fun _ _ => True) later) :
    (program >>= rest).Meets discipline (fun _ _ => True) trace := by
  rw [Program.meets_bind]
  refine confined.meets (fun _ _ _ isOpen => allows_of_open isOpen) fun result added _ => ?_
  cases result with
  | ok value => exact next value _
  | error failure => trivial

/-- Plain calls keep what was read last. -/
theorem bind_plain {α β : Type} {program : Service α} {rest : α → Service β} {policy : Policy}
    (confined : program.Confined isPlain) (read : lastRead trace = some policy)
    (next : ∀ value later, lastRead later = some policy →
      (rest value).Meets discipline (fun _ _ => True) later) :
    (program >>= rest).Meets discipline (fun _ _ => True) trace := by
  rw [Program.meets_bind]
  refine confined.meets (fun _ _ _ isPlain => allows_of_plain isPlain) fun result added plain => ?_
  cases result with
  | ok value => exact next value _ ((lastRead_append plain).trans read)
  | error failure => trivial

theorem update_meets (policy : Policy) (fields : Database.PolicyFields) (changedBy : String)
    (changeReason : Option String) (changeType : PolicyChangeType) :
    (update policy fields changedBy changeReason changeType).Meets discipline
      (fun _ _ => True) trace := by
  rw [update, Program.meets_bind, execute, Program.meets_attempt]
  refine ⟨trivial, fun found _ => ?_⟩
  cases found with
  | none => trivial
  | some locked =>
    simp only [getOr404]
    rw [Program.meets_bind, execute, Program.meets_attempt]
    refine ⟨⟨policy, trace, rfl⟩, fun committed _ => ?_⟩
    cases committed with
    | error failure => trivial
    | ok updated => exact ⟨trivial, fun _ _ => trivial⟩

theorem returning_meets {program : Service Policy}
    (meets : program.Meets discipline (fun _ _ => True) trace) :
    (program >>= fun policy => (return .policy policy : Service Response)).Meets discipline
      (fun _ _ => True) trace := by
  rw [Program.meets_bind]
  refine meets.mono fun result _ _ _ => ?_
  cases result <;> trivial

theorem lift_confined {α : Type} {kind : Call → Prop} (result : Except Failure α) :
    (lift result).Confined kind :=
  trivial

theorem requireAuthorization_open (permission : Permission) :
    (requireAuthorization request permission).Confined isOpen :=
  (Program.confined_attempt _ _).mpr trivial

theorem requireGrant_open (proposal : Proposal) :
    (requireGrant request proposal).Confined isOpen :=
  (Program.confined_attempt _ _).mpr trivial

theorem requireGrant_plain (proposal : Proposal) :
    (requireGrant request proposal).Confined isPlain :=
  (Program.confined_attempt _ _).mpr trivial

theorem findPolicy_open (policyName : String) : (findPolicy policyName).Confined isOpen :=
  (Program.confined_attempt _ _).mpr trivial

theorem refuseName_open (name : String) : (refuseName name).Confined isOpen :=
  (Program.confined_attempt _ _).mpr trivial

theorem getHistoryById_open {α : Type} (historyId : Nat)
    (result : Option PolicyHistoryEntry → Except Failure α) :
    (execute (.getHistoryById historyId) result).Confined isOpen :=
  (Program.confined_attempt _ _).mpr trivial

theorem refuseTakenName_open (policy : Policy) (fields : Database.PolicyFields) :
    (refuseTakenName policy fields).Confined isOpen := by
  unfold refuseTakenName
  split
  · split
    · exact refuseName_open _
    · trivial
  · trivial

theorem guardCurrent_open (policy : Policy) (fields : Database.PolicyFields) :
    (guardCurrent request policy fields).Confined isOpen := by
  unfold guardCurrent
  split
  · exact requireGrant_open _
  · trivial

theorem guardTarget_open (policy : Policy) (fields : Database.PolicyFields) :
    (guardTarget request policy fields).Confined isOpen := by
  unfold guardTarget
  split
  · refine Program.confined_bind _ _ trivial fun actions => ?_
    refine Program.confined_bind _ _ trivial fun resourceType => ?_
    exact requireGrant_open _
  · trivial

theorem createPolicy_meets (data : Database.PolicyData) :
    (createPolicy server reprText request data).Meets discipline (fun _ _ => True) trace := by
  unfold createPolicy
  apply bind_open (requireAuthorization_open _)
  intro _ _
  apply bind_open (lift_confined _)
  intro _ _
  apply bind_open (refuseName_open _)
  intro _ _
  apply bind_open (requireGrant_open _)
  intro _ _
  exact returning_meets ⟨trivial, fun _ _ => trivial⟩

theorem updatePolicy_meets (policyName : String) (fields : Database.PolicyFields)
    (changeReason : Option String) :
    (updatePolicy server reprText request policyName fields changeReason).Meets discipline
      (fun _ _ => True) trace := by
  unfold updatePolicy
  apply bind_open (requireAuthorization_open _)
  intro _ _
  apply bind_open (findPolicy_open _)
  intro policy _
  apply bind_open (lift_confined _)
  intro _ _
  apply bind_open (lift_confined _)
  intro _ _
  apply bind_open (refuseTakenName_open _ _)
  intro _ _
  apply bind_open (lift_confined _)
  intro _ _
  apply bind_open (guardCurrent_open _ _)
  intro _ _
  apply bind_open (guardTarget_open _ _)
  intro _ _
  exact returning_meets (update_meets _ _ _ _ _)

theorem rollbackPolicy_meets (policyName : String) (historyId : Nat) (reason : Option String) :
    (rollbackPolicy server reprText request policyName historyId reason).Meets discipline
      (fun _ _ => True) trace := by
  unfold rollbackPolicy
  apply bind_open (requireAuthorization_open _)
  intro _ _
  apply bind_open (findPolicy_open _)
  intro policy _
  apply bind_open (getHistoryById_open _ _)
  intro entry _
  apply bind_open (lift_confined _)
  intro _ _
  apply bind_open (lift_confined _)
  intro _ _
  apply bind_open (lift_confined _)
  intro _ _
  apply bind_open (lift_confined _)
  intro _ _
  apply bind_open (requireGrant_open _)
  intro _ _
  apply bind_open (requireGrant_open _)
  intro _ _
  exact returning_meets (update_meets _ _ _ _ _)

theorem delete_meets (policy : Policy) (changedBy : String) (changeReason : Option String)
    (read : lastRead trace = some policy) :
    (delete policy changedBy changeReason).Meets discipline (fun _ _ => True) trace := by
  rw [delete, Program.meets_bind, execute, Program.meets_attempt]
  refine ⟨trivial, fun inserted _ => ?_⟩
  cases inserted with
  | error failure => trivial
  | ok historyId => exact ⟨⟨trace, rfl, read⟩, fun _ _ => trivial⟩

theorem deletePolicy_meets (policyName : String) (reason : Option String) :
    (deletePolicy request policyName reason).Meets discipline (fun _ _ => True) trace := by
  unfold deletePolicy
  apply bind_open (requireAuthorization_open _)
  intro _ later
  rw [Program.meets_bind, findPolicy, execute, Program.meets_attempt]
  refine ⟨trivial, fun found _ => ?_⟩
  cases found with
  | none => trivial
  | some policy =>
    have read : lastRead (⟨.getByName policyName, some policy⟩ :: later) = some policy := rfl
    simp only [getOr404]
    apply bind_plain (lift_confined _) read
    intro _ _ read
    apply bind_plain (lift_confined _) read
    intro _ _ read
    apply bind_plain (requireGrant_plain _) read
    intro _ _ read
    rw [Program.meets_bind]
    refine (delete_meets policy request.caller reason read).mono fun result _ _ _ => ?_
    cases result <;> trivial

theorem system_obeys (server : Server) (reprText : Json → String) :
    (system server reprText).Obeys (fun _ => discipline) (fun _ _ _ => True) where
  programs := by
    rintro ⟨request, operation⟩
    cases operation with
    | createPolicy data => exact createPolicy_meets data
    | updatePolicy policyName fields changeReason =>
      exact updatePolicy_meets policyName fields changeReason
    | rollbackPolicy policyName historyId reason =>
      exact rollbackPolicy_meets policyName historyId reason
    | deletePolicy policyName reason => exact deletePolicy_meets policyName reason
  answers _ _ _ _ _ _ := trivial

end Programs

/-! ## Runs -/

abbrev Configuration :=
  Config (Request × Operation) Store Reply Failure Response

/-- The thread's last look-up by name, unless the policy has been changed since. -/
def standingRead (thread policyId : Nat) : List (Nat × Event) → Option Policy
  | [] => none
  | (actor, event) :: earlier =>
      if changedPolicy event = some policyId then none
      else
        match (if actor = thread then lookedUp event else none) with
        | some found => found
        | none => standingRead thread policyId earlier

/-- A deletion commits only if nobody has changed the policy since the deletion has read it. -/
def deletesWhatItRead (config : Configuration) (thread : Nat) (event : Event) : Bool :=
  match event with
  | ⟨.commitDelete policy _ _ _, .ok _⟩ =>
      (standingRead thread policy.id config.history).isSome
  | _ => true

theorem standingRead_cons {thread actor policyId : Nat} {event : Event}
    {history : List (Nat × Event)} {policy : Policy}
    (stands : standingRead thread policyId ((actor, event) :: history) = some policy) :
    changedPolicy event ≠ some policyId ∧
      ((actor = thread ∧ lookedUp event = some (some policy)) ∨
        standingRead thread policyId history = some policy) := by
  simp only [standingRead] at stands
  split at stands
  · cases stands
  rename_i unchanged
  refine ⟨unchanged, ?_⟩
  split at stands
  · rename_i found read
    split at read
    · rename_i isThread
      exact Or.inl ⟨isThread, stands ▸ read⟩
    · cases read
  · exact Or.inr stands

/-- A read that stands is the thread's last one. -/
theorem lastRead_of_standing {thread policyId : Nat} {history : List (Nat × Event)}
    {policy : Policy} (stands : standingRead thread policyId history = some policy) :
    lastRead (traceOf history thread) = some policy := by
  induction history with
  | nil => cases stands
  | cons entry earlier ih =>
    obtain ⟨actor, event⟩ := entry
    simp only [standingRead] at stands
    split at stands
    · cases stands
    by_cases isThread : actor = thread
    · subst isThread
      rw [traceOf_cons_self]
      rw [if_pos rfl] at stands
      simp only [lastRead]
      split at stands
      · exact stands
      · exact ih stands
    · rw [traceOf_cons_ne _ isThread]
      rw [if_neg isThread] at stands
      exact ih stands

/-- What the requests under way rely on. -/
structure Tracked (store : Store) (history : List (Nat × Event)) : Prop where
  standing : ∀ thread policyId policy, standingRead thread policyId history = some policy →
    policy.id = policyId → policy ∈ store.database.policies
  taken : ∀ thread policy changedBy changeReason historyId earlier,
    traceOf history thread =
        ⟨.insertDeletion policy changedBy changeReason, .ok historyId⟩ :: earlier →
      historyId < store.database.nextHistoryId ∧
        ((standingRead thread policy.id history).isSome →
          ∀ entry ∈ store.database.policyHistory, entry.policyId = policy.id →
            entry.id < historyId)
  locked : ∀ thread policy locked earlier,
    traceOf history thread = ⟨.lockPolicy policy, some locked⟩ :: earlier →
      locked ∈ store.database.policies ∧ ⟨thread, locked.id⟩ ∈ store.policyLocks

section Invariant

variable {server : Server} {reprText : Json → String} {seed : Nat → Option PolicyDefinition}
variable {thread : Nat} {call : Call} {reply : Reply call} {store store' : Store}
variable {history : List (Nat × Event)}

/-- Nobody changes a row that another thread has locked. -/
theorem TableStep.unlocked {event : Event} {after : Database}
    (step : TableStep thread store event after) {other policyId : Nat} (differs : thread ≠ other)
    (held : ⟨other, policyId⟩ ∈ store.policyLocks) (row : policyId < store.database.nextPolicyId) :
    changedPolicy event ≠ some policyId := by
  have blocked : store.policyLocked thread policyId = true :=
    List.any_eq_true.mpr ⟨_, held, by simp [Ne.symm differs]⟩
  cases step with
  | unchanged quiet => simp [quiet]
  | inserted policy changedBy changeReason => simp [changedPolicy]
  | created data changedBy created isNew =>
    intro same
    have isId : created.id = policyId := Option.some.inj same
    omega
  | updated locked updated fields changedBy changeReason changeType after free applied changes =>
    intro same
    have isId : locked.id = policyId := Option.some.inj same
    rw [isId, blocked] at free
    cases free
  | deleted policy historyId changedBy changeReason free =>
    intro same
    have isId : policy.id = policyId := Option.some.inj same
    rw [isId, blocked] at free
    cases free

theorem Tracked.step (linked : Linked seed store.database) (tracked : Tracked store history)
    (possible : (reply, store') ∈ outcomes thread call store) :
    Tracked store' ((thread, ⟨call, reply⟩) :: history) where
  standing := by
    intro other policyId policy stands isId
    obtain ⟨unchanged, ⟨-, found⟩ | earlier⟩ := standingRead_cons stands
    · exact lookedUp_row possible found
    · have listed := tracked.standing other policyId policy earlier isId
      exact (table_step possible).row_stays listed (by rwa [isId])
  taken := by
    intro other policy changedBy changeReason historyId earlier isTrace
    by_cases isThread : thread = other
    · subst isThread
      rw [traceOf_cons_self] at isTrace
      obtain ⟨isEvent, -⟩ := List.cons.inj isTrace
      obtain ⟨rfl, isReply⟩ := Sigma.mk.inj isEvent
      obtain rfl := eq_of_heq isReply
      simp only [outcomes, List.mem_cons, Prod.mk.injEq, List.not_mem_nil, or_false] at possible
      rcases possible with ⟨isNext, rfl⟩ | ⟨isError, -⟩
      · obtain rfl : historyId = store.database.nextHistoryId := Except.ok.inj isNext
        refine ⟨Nat.lt_succ_self _, fun _ entry recorded _ => ?_⟩
        exact (linked.entries entry recorded).2
      · cases isError
    · rw [traceOf_cons_ne _ isThread] at isTrace
      have step := table_step possible
      obtain ⟨taken, newest⟩ :=
        tracked.taken other policy changedBy changeReason historyId earlier isTrace
      refine ⟨Nat.lt_of_lt_of_le taken step.historyId_grows, fun stands => ?_⟩
      obtain ⟨read, isRead⟩ := Option.isSome_iff_exists.mp stands
      obtain ⟨unchanged, ⟨actor, -⟩ | still⟩ := standingRead_cons isRead
      · exact absurd actor isThread
      · intro entry recorded ofPolicy
        rcases step.entry_cases recorded with old | new
        · exact newest (by simp [still]) entry old ofPolicy
        · exact absurd (ofPolicy ▸ new) unchanged
  locked := by
    intro other policy locked earlier isTrace
    by_cases isThread : thread = other
    · subst isThread
      rw [traceOf_cons_self] at isTrace
      obtain ⟨isEvent, -⟩ := List.cons.inj isTrace
      obtain ⟨rfl, isReply⟩ := Sigma.mk.inj isEvent
      obtain rfl := eq_of_heq isReply
      exact locked_row possible
    · rw [traceOf_cons_ne _ isThread] at isTrace
      obtain ⟨listed, held⟩ := tracked.locked other policy locked earlier isTrace
      have step := table_step possible
      exact ⟨step.row_stays listed (step.unlocked isThread held (linked.rows locked listed)),
        lock_stays possible held isThread⟩

/-- Each step records what it changes. -/
theorem Linked.step (linked : Linked seed store.database) (tracked : Tracked store history)
    (possible : (reply, store') ∈ outcomes thread call store)
    (allowed : discipline.allows (traceOf history thread) call)
    (undisturbed : ∀ policy historyId changedBy changeReason,
      (⟨call, reply⟩ : Event) = ⟨.commitDelete policy historyId changedBy changeReason, .ok ()⟩ →
        (standingRead thread policy.id history).isSome) : Linked seed store'.database := by
  have step := table_step possible
  revert step
  generalize isEvent : (⟨call, reply⟩ : Event) = event
  generalize store'.database = after
  intro step
  cases step with
  | unchanged quiet => exact linked
  | inserted policy changedBy changeReason =>
    exact { linked with
      entries := fun entry recorded =>
        ⟨(linked.entries entry recorded).1, Nat.lt_succ_of_lt (linked.entries entry recorded).2⟩ }
  | created data changedBy created isNew =>
    obtain ⟨entry, records, -⟩ := records_createPolicy linked data changedBy
    exact linked.record records
  | updated locked updated fields changedBy changeReason changeType after free applied changes =>
    obtain ⟨rfl, -⟩ := Sigma.mk.inj isEvent
    obtain ⟨policy, earlier, isTrace⟩ := allowed
    have listed := (tracked.locked thread policy locked earlier isTrace).1
    obtain ⟨entry, records, -⟩ := records_updatePolicy linked listed applied changes
    exact linked.record records
  | deleted policy historyId changedBy changeReason free =>
    have stands := undisturbed policy historyId changedBy changeReason isEvent
    obtain ⟨rfl, -⟩ := Sigma.mk.inj isEvent
    obtain ⟨earlier, isTrace, read⟩ := allowed
    obtain ⟨taken, newest⟩ :=
      tracked.taken thread policy changedBy changeReason historyId earlier isTrace
    obtain ⟨found, isFound⟩ := Option.isSome_iff_exists.mp stands
    -- the read that stands is the one the deletion records
    have isLast := lastRead_of_standing isFound
    rw [isTrace] at isLast
    obtain rfl : found = policy := Option.some.inj (isLast.symm.trans read)
    have listed := tracked.standing thread found.id found isFound rfl
    obtain ⟨entry, records, -⟩ := records_deletion linked listed taken (newest stands)
    exact linked.record records

/-- Whatever requests run, the history of every policy stays complete, as long as every deletion
commits what it has read. -/
theorem history_complete_of_undisturbed (server : Server) (reprText : Json → String)
    (seed : Nat → Option PolicyDefinition) (start : Store) (linked : Linked seed start.database)
    {config : Configuration}
    (run : Reaches (system server reprText)
      (fun config thread event => deletesWhatItRead config thread event = true)
      (Config.start start) config) (policyId : Nat) :
    Complete (seed policyId) config.state.database policyId := by
  have both := run.keeps
    (fun store history => Linked seed store.database ∧ Tracked store history)
    ⟨linked, ⟨by simp [standingRead, Config.start], by simp [Config.start, traceOf],
      by simp [Config.start, traceOf]⟩⟩
    (fun _ _ _ holds => holds) ?_
  · exact both.1.complete policyId
  · intro before after thread event earlier answers holds
    have disciplined := earlier.disciplined (system_obeys server reprText) start
    obtain ⟨request, next, running⟩ := answers.running
    have allowed := disciplined.allows running
    refine ⟨holds.1.step holds.2 answers.possible allowed ?_,
      holds.2.step holds.1 answers.possible⟩
    intro policy historyId changedBy changeReason isDeletion
    have permitted := answers.permitted
    rw [show event = _ from isDeletion] at permitted
    exact permitted

end Invariant

/-! ## A deletion and an edit -/

def emptyStore : Store :=
  ⟨⟨[⟨1, "ann@example.com", .user⟩], [], [], [], [], 1, 1⟩, []⟩

theorem emptyStore_linked : Linked (fun _ => none) emptyStore.database where
  rows := by simp [emptyStore]
  unique := by simp [emptyStore]
  entries := by simp [emptyStore]
  unseeded _ _ := rfl
  ascending _ := List.Pairwise.nil
  chained _ := trivial
  current _ := rfl

def plainServer : Server :=
  ⟨⟨0, fun _ => none, fun _ => false⟩, id⟩

def annsRequest : Request :=
  ⟨"ann@example.com", "203.0.113.7", "2026-01-01T00:00:00", "2026-01-01T00:00:00"⟩

def createReports : Request × Operation :=
  (annsRequest, .createPolicy ⟨"reports", none, ["reports:read"], "reports", .null⟩)

def deactivateReports : Request × Operation :=
  (annsRequest, .updatePolicy "reports"
    { Database.PolicyFields.unset with isActive := some (some false) } none)

def describeReports : Request × Operation :=
  (annsRequest, .updatePolicy "reports"
    { Database.PolicyFields.unset with description := some (some "quarterly") } none)

def deleteReports : Request × Operation :=
  (annsRequest, .deletePolicy "reports" none)

/-- A policy is created, deactivated and deleted. -/
def wholeLife : List (Move (Request × Operation) Unit) :=
  .begin createReports :: Move.turns 0 4 ++ .begin deactivateReports :: Move.turns 1 6 ++
    .begin deleteReports :: Move.turns 2 5

theorem history_complete_reports :
    Complete none ((Config.start emptyStore).follow (system plainServer fun _ => "")
      wholeLife).state.database 1 :=
  history_complete_of_undisturbed plainServer (fun _ => "") (fun _ => none) emptyStore
    emptyStore_linked
    (Config.follow_permitted (system plainServer fun _ => "") deletesWhatItRead
      (fun _ _ _ passed => passed) _ wholeLife (by decide +kernel)) 1

/-- The description is set after the deletion has read the policy, and before it commits. -/
def editDuringDelete : List (Move (Request × Operation) Unit) :=
  .begin createReports :: Move.turns 0 4 ++ .begin deactivateReports :: Move.turns 1 6 ++
    .begin deleteReports :: Move.turns 2 2 ++ .begin describeReports :: Move.turns 3 5 ++
      Move.turns 2 3

/-- An entry that does not start from the description that the one before it has left. -/
def breaks (link : PolicyHistoryEntry × PolicyHistoryEntry) : Bool :=
  link.2.previousDefinition.map (·.description) != link.1.newDefinition.map (·.description)

/-- The entry of the deletion starts from a definition that was no longer current. -/
theorem history_broken_by_delete :
    ¬ ∀ (server : Server) (reprText : Json → String) (start : Store),
      Linked (fun _ => none) start.database → ∀ config : Configuration,
        Reaches (system server reprText) anyCall (Config.start start) config →
          ∀ policyId, Complete none config.state.database policyId := by
  intro kept
  have broken : let entries := historyOf ((Config.start emptyStore).follow
      (system plainServer fun _ => "") editDuringDelete).state.database 1
      (entries.zip entries.tail).any breaks = true := by
    decide +kernel
  have complete := kept plainServer (fun _ => "") emptyStore emptyStore_linked _
    (Config.follow_reaches (system plainServer fun _ => "") _ editDuringDelete) 1
  obtain ⟨link, member, differs⟩ := List.any_eq_true.mp broken
  rw [breaks, complete.chained.links link member] at differs
  simp at differs

end MysticAuth.PolicyVersions
