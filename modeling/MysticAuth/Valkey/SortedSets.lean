import Mathlib.Data.List.Nodup
import Mathlib.Logic.Function.Basic

/-!
# Sorted sets

The sorted sets of a key-value server whose keys expire: every member has one
score, and a key is gone with its last member.
-/

set_option autoImplicit false

namespace SortedSets

/-! ## One set -/

structure SortedSet where
  scores : List (String × Nat)
  distinct : (scores.map Prod.fst).Nodup

namespace SortedSet

@[ext] theorem ext {set other : SortedSet} (same : set.scores = other.scores) : set = other := by
  cases set
  cases other
  simpa using same

def empty : SortedSet :=
  ⟨[], List.nodup_nil⟩

variable (set : SortedSet)

def members : List String :=
  set.scores.map Prod.fst

def card : Nat :=
  set.scores.length

/-- How many members have a score above the given one. -/
def above (score : Nat) : Nat :=
  (set.scores.filter (score < ·.2)).length

def filter (keep : String × Nat → Bool) : SortedSet :=
  ⟨set.scores.filter keep, (List.filter_sublist.map _).nodup set.distinct⟩

/-- `ZREM` -/
def erase (member : String) : SortedSet :=
  set.filter (·.1 ≠ member)

/-- `ZREMRANGEBYSCORE -inf` -/
def prune (score : Nat) : SortedSet :=
  set.filter (score < ·.2)

def rescored (member : String) (score : Nat) (entry : String × Nat) : String × Nat :=
  if entry.1 = member then (member, score) else entry

theorem rescored_fst (member : String) (score : Nat) (entry : String × Nat) :
    (rescored member score entry).1 = entry.1 := by
  unfold rescored
  split
  · rename_i same
    exact same.symm
  · rfl

theorem members_rescored (member : String) (score : Nat) :
    (set.scores.map (rescored member score)).map Prod.fst = set.members := by
  rw [List.map_map, members]
  exact List.map_congr_left fun entry _ => rescored_fst member score entry

/-- `ZADD XX` -/
def rescore (member : String) (score : Nat) : SortedSet :=
  ⟨set.scores.map (rescored member score), by rw [members_rescored]; exact set.distinct⟩

/-- `ZADD` -/
def add (member : String) (score : Nat) : SortedSet :=
  if present : member ∈ set.members then set.rescore member score
  else ⟨(member, score) :: set.scores, List.nodup_cons.mpr ⟨present, set.distinct⟩⟩

@[simp] theorem members_rescore (member : String) (score : Nat) :
    (set.rescore member score).members = set.members :=
  set.members_rescored member score

@[simp] theorem card_rescore (member : String) (score : Nat) :
    (set.rescore member score).card = set.card :=
  List.length_map _

theorem card_filter_le (keep : String × Nat → Bool) : (set.filter keep).card ≤ set.card :=
  List.length_filter_le _ _

theorem card_add_le (member : String) (score : Nat) : (set.add member score).card ≤ set.card + 1 := by
  unfold add
  split
  · rw [card_rescore]
    exact Nat.le_succ _
  · exact Nat.le_refl _

theorem above_le_card (score : Nat) : set.above score ≤ set.card :=
  List.length_filter_le _ _

theorem members_filter_subset (keep : String × Nat → Bool) :
    (set.filter keep).members ⊆ set.members :=
  List.map_subset _ (List.filter_subset_self _)

theorem members_add_subset (member : String) (score : Nat) :
    (set.add member score).members ⊆ member :: set.members := by
  unfold add
  split
  · rw [members_rescore]
    exact List.subset_cons_self _ _
  · exact List.Subset.refl _

theorem mem_erase {member : String} {entry : String × Nat} :
    entry ∈ (set.erase member).scores ↔ entry ∈ set.scores ∧ entry.1 ≠ member := by
  simp [erase, filter]

theorem not_mem_erase (member : String) : member ∉ (set.erase member).members := by
  intro isMember
  obtain ⟨entry, inside, same⟩ := List.mem_map.mp isMember
  exact ((set.mem_erase).mp inside).2 same

end SortedSet

/-! ## The keys of a server -/

/-- A set under its key.  Without a deadline it never expires. -/
structure Entry where
  set : SortedSet
  deadline : Option Nat

def Entry.lives (now : Nat) (entry : Entry) : Bool :=
  entry.deadline.all (now < ·)

/-- The clock counts milliseconds. -/
structure Store where
  now : Nat
  keys : String → Option Entry

namespace Store

def empty (now : Nat) : Store :=
  ⟨now, fun _ => none⟩

variable (store : Store)

/-- The key as a command finds it. -/
def find (key : String) : Option Entry :=
  (store.keys key).filter (Entry.lives store.now)

/-- A key that is not there is an empty set. -/
def setAt (key : String) : SortedSet :=
  ((store.find key).map Entry.set).getD .empty

def put (key : String) (entry : Option Entry) : Store :=
  { store with keys := Function.update store.keys key entry }

/-- Writes a set under its key, which keeps its deadline, and is gone with the last member. -/
def write (key : String) (set : SortedSet) : Store :=
  store.put key (if set.card = 0 then none else some ⟨set, (store.find key).bind Entry.deadline⟩)

def zadd (key : String) (score : Nat) (member : String) : Store :=
  store.write key ((store.setAt key).add member score)

def zaddXX (key : String) (score : Nat) (member : String) : Store :=
  store.write key ((store.setAt key).rescore member score)

def zrem (key member : String) : Store :=
  store.write key ((store.setAt key).erase member)

def zremrangebyscore (key : String) (score : Nat) : Store :=
  store.write key ((store.setAt key).prune score)

def zcard (key : String) : Nat :=
  (store.setAt key).card

def del (key : String) : Store :=
  store.put key none

/-- A lifetime of no seconds deletes the key. -/
def expire (key : String) (seconds : Nat) : Store :=
  store.put key ((store.find key).map fun entry =>
    { entry with deadline := some (store.now + seconds * 1000) })

def elapse (millis : Nat) : Store :=
  { store with now := store.now + millis }

variable {store}

theorem setAt_put_ne {key other : String} (differs : other ≠ key) (entry : Option Entry) :
    (store.put key entry).setAt other = store.setAt other := by
  simp [setAt, find, put, differs]

theorem setAt_put_self {key : String} {entry : Entry}
    (lives : entry.lives store.now = true) :
    (store.put key (some entry)).setAt key = entry.set := by
  simp [setAt, find, put, Option.filter, lives]

theorem find_lives {key : String} {entry : Entry} (present : store.find key = some entry) :
    entry.lives store.now = true :=
  (Option.filter_eq_some_iff.mp present).2

theorem setAt_del (key other : String) :
    (store.del key).setAt other = if other = key then .empty else store.setAt other := by
  split
  · rename_i same
    simp [same, del, put, setAt, find]
  · rename_i differs
    exact setAt_put_ne differs none

/-- A write is seen under its key, and under no other. -/
theorem setAt_write (key other : String) (set : SortedSet) :
    (store.write key set).setAt other = if other = key then set else store.setAt other := by
  split
  · rename_i same
    subst same
    unfold write
    split
    · rename_i isEmpty
      have none : set = .empty := SortedSet.ext (List.length_eq_zero_iff.mp isEmpty)
      rw [none]
      simp [put, setAt, find]
    · apply setAt_put_self
      cases found : store.find other with
      | none => rfl
      | some entry =>
        have lives := find_lives found
        exact lives
  · rename_i differs
    exact setAt_put_ne differs _

theorem setAt_expire (key other : String) {seconds : Nat} (positive : 0 < seconds) :
    (store.expire key seconds).setAt other = store.setAt other := by
  by_cases same : other = key
  · subst same
    unfold expire
    cases found : store.find other with
    | none =>
      rw [Option.map_none, setAt, setAt, found]
      simp [put, find]
    | some entry =>
      rw [Option.map_some, setAt_put_self]
      · rw [setAt, found]
        rfl
      · exact decide_eq_true (by omega)
  · exact setAt_put_ne same _

/-- The passing of time only takes keys away. -/
theorem setAt_elapse (store : Store) (millis : Nat) (key : String) :
    (store.elapse millis).setAt key = store.setAt key ∨
      (store.elapse millis).setAt key = .empty := by
  unfold setAt
  cases found : (store.elapse millis).find key with
  | none => exact Or.inr rfl
  | some entry =>
    left
    obtain ⟨present, lives⟩ := Option.filter_eq_some_iff.mp found
    have earlier : store.find key = some entry := by
      refine Option.filter_eq_some_iff.mpr ⟨present, ?_⟩
      unfold Entry.lives at lives ⊢
      cases isDeadline : entry.deadline with
      | none => rfl
      | some deadline =>
        rw [isDeadline, Option.all_some, decide_eq_true_eq] at lives
        have isNow : (store.elapse millis).now = store.now + millis := rfl
        exact decide_eq_true (by omega)
    rw [earlier]

end Store

end SortedSets
