import Mathlib.Data.List.Count
import Mathlib.Data.List.Pairwise

/-!
# A counting semaphore of one event loop

`asyncio.Semaphore`: a release hands its slot to the first waiter that has no
answer yet, and the waiter takes it when its task runs again.  A task may be
cancelled before and after it was handed its slot.
-/

set_option autoImplicit false

namespace Interleaving

variable {Task : Type}

/-- The future a waiter awaits. -/
inductive FutureState where
  | pending
  | granted
  | cancelled
  deriving DecidableEq

/-- `mustCancel` is a cancellation that arrived after the slot. -/
structure Waiter (Task : Type) where
  task : Task
  future : FutureState
  mustCancel : Bool
  deriving DecidableEq

namespace Waiter

def isPending (waiter : Waiter Task) : Bool :=
  waiter.future = .pending

def isGranted (waiter : Waiter Task) : Bool :=
  waiter.future = .granted

def grant (waiter : Waiter Task) : Waiter Task :=
  { waiter with future := .granted }

def cancel (waiter : Waiter Task) : Waiter Task :=
  match waiter.future with
  | .pending => { waiter with future := .cancelled }
  | .granted => { waiter with mustCancel := true }
  | .cancelled => waiter

/-- The slot that the waiter was handed and does not take, because it was cancelled too. -/
def givenBack (waiter : Waiter Task) : Nat :=
  if waiter.isGranted && waiter.mustCancel then 1 else 0

def acquired (waiter : Waiter Task) : Bool :=
  waiter.isGranted && !waiter.mustCancel

@[simp] theorem task_cancel (waiter : Waiter Task) : waiter.cancel.task = waiter.task := by
  unfold cancel
  split <;> rfl

@[simp] theorem isGranted_cancel (waiter : Waiter Task) :
    waiter.cancel.isGranted = waiter.isGranted := by
  unfold cancel isGranted
  split <;> simp_all

theorem isPending_cancel (waiter : Waiter Task) : waiter.cancel.isPending = false := by
  unfold cancel isPending
  split <;> simp_all

end Waiter

/-! ## The queue of waiters -/

/-- Nobody was handed a slot before somebody who came earlier and still has no answer. -/
def FirstCome (waiters : List (Waiter Task)) : Prop :=
  waiters.Pairwise fun earlier later => later.isGranted = true → earlier.isPending = false

def grantFirst : List (Waiter Task) → Option (List (Waiter Task))
  | [] => none
  | waiter :: rest =>
      if waiter.isPending then some (waiter.grant :: rest)
      else (grantFirst rest).map (waiter :: ·)

/-- `_wake_up_next`, with the number of free slots. -/
def wakeUpNext (free : Nat) (waiters : List (Waiter Task)) : Nat × List (Waiter Task) :=
  match grantFirst waiters with
  | none => (free, waiters)
  | some woken => (free - 1, woken)

/-- `while value > 0: if not _wake_up_next(): break`. -/
def wakeAll : Nat → List (Waiter Task) → Nat × List (Waiter Task)
  | 0, waiters => (0, waiters)
  | free + 1, waiters =>
      match grantFirst waiters with
      | none => (free + 1, waiters)
      | some woken => wakeAll free woken

/-- The first waiter of a task, with those before and behind it. -/
def locate [DecidableEq Task] (task : Task) :
    List (Waiter Task) → Option (List (Waiter Task) × Waiter Task × List (Waiter Task))
  | [] => none
  | waiter :: rest =>
      if waiter.task = task then some ([], waiter, rest)
      else (locate task rest).map fun (before, found, behind) => (waiter :: before, found, behind)

/-- The task's wait is cancelled; it has not run since. -/
def cancelFirst [DecidableEq Task] (task : Task) (waiters : List (Waiter Task)) :
    List (Waiter Task) :=
  match locate task waiters with
  | none => waiters
  | some (before, waiter, behind) => before ++ waiter.cancel :: behind

theorem grantFirst_eq_none {waiters : List (Waiter Task)} (nobody : grantFirst waiters = none) :
    ∀ waiter ∈ waiters, waiter.isPending = false := by
  induction waiters with
  | nil => simp
  | cons head rest ih =>
    unfold grantFirst at nobody
    split at nobody
    · simp at nobody
    · rename_i answered
      intro waiter member
      rcases List.mem_cons.mp member with rfl | later
      · simpa using answered
      · exact ih (by simpa using nobody) waiter later

theorem grantFirst_eq_some {waiters woken : List (Waiter Task)}
    (found : grantFirst waiters = some woken) :
    ∃ before waiter behind, waiters = before ++ waiter :: behind ∧
      woken = before ++ waiter.grant :: behind ∧ waiter.isPending = true ∧
      ∀ other ∈ before, other.isPending = false := by
  induction waiters generalizing woken with
  | nil => simp [grantFirst] at found
  | cons head rest ih =>
    unfold grantFirst at found
    split at found
    · rename_i isPending
      obtain rfl := Option.some.inj found
      exact ⟨[], head, rest, rfl, rfl, isPending, by simp⟩
    · rename_i answered
      obtain ⟨woken, foundLater, rfl⟩ := Option.map_eq_some_iff.mp found
      obtain ⟨before, waiter, behind, rfl, rfl, isPending, earlier⟩ := ih foundLater
      refine ⟨head :: before, waiter, behind, rfl, rfl, isPending, ?_⟩
      intro other member
      rcases List.mem_cons.mp member with rfl | later
      · simpa using answered
      · exact earlier other later

theorem locate_eq_some [DecidableEq Task] {task : Task} {waiters before behind : List (Waiter Task)}
    {waiter : Waiter Task} (found : locate task waiters = some (before, waiter, behind)) :
    waiters = before ++ waiter :: behind ∧ waiter.task = task := by
  induction waiters generalizing before with
  | nil => simp [locate] at found
  | cons head rest ih =>
    unfold locate at found
    split at found
    · rename_i isTask
      obtain ⟨rfl, rfl, rfl⟩ : [] = before ∧ head = waiter ∧ rest = behind := by simpa using found
      exact ⟨rfl, isTask⟩
    · obtain ⟨⟨front, other, back⟩, foundLater, same⟩ := Option.map_eq_some_iff.mp found
      obtain ⟨rfl, rfl, rfl⟩ : head :: front = before ∧ other = waiter ∧ back = behind := by
        simpa using same
      obtain ⟨rfl, isTask⟩ := ih foundLater
      exact ⟨rfl, isTask⟩

/-! ## What waking keeps -/

/-- How many waiters were handed a slot that they have not taken yet. -/
def handed (waiters : List (Waiter Task)) : Nat :=
  waiters.countP Waiter.isGranted

section Waking

variable {waiters woken : List (Waiter Task)}

theorem isGranted_of_isPending {waiter : Waiter Task} (isPending : waiter.isPending = true) :
    waiter.isGranted = false := by
  simp_all [Waiter.isPending, Waiter.isGranted]

theorem handed_pos : 0 < handed waiters ↔ ∃ waiter ∈ waiters, waiter.isGranted = true := by
  simp [handed, List.countP_pos_iff]

theorem removed_firstCome {before behind : List (Waiter Task)} {waiter : Waiter Task}
    (firstCome : FirstCome (before ++ waiter :: behind)) : FirstCome (before ++ behind) :=
  firstCome.sublist (List.Sublist.append_left (List.sublist_cons_self waiter behind) before)

theorem grantFirst_handed (found : grantFirst waiters = some woken) :
    handed woken = handed waiters + 1 := by
  obtain ⟨before, waiter, behind, rfl, rfl, isPending, -⟩ := grantFirst_eq_some found
  have granted : waiter.grant.isGranted = true := rfl
  simp only [handed, List.countP_append, List.countP_cons, granted,
    isGranted_of_isPending isPending, if_true]
  simp
  omega

theorem grantFirst_tasks (found : grantFirst waiters = some woken) :
    woken.map Waiter.task = waiters.map Waiter.task := by
  obtain ⟨before, waiter, behind, rfl, rfl, -, -⟩ := grantFirst_eq_some found
  simp [Waiter.grant]

theorem grantFirst_firstCome (found : grantFirst waiters = some woken) (firstCome : FirstCome waiters) :
    FirstCome woken := by
  obtain ⟨before, waiter, behind, rfl, rfl, isPending, earlier⟩ := grantFirst_eq_some found
  simp only [FirstCome, List.pairwise_append, List.pairwise_cons, List.mem_cons] at firstCome ⊢
  obtain ⟨front, ⟨first, back⟩, across⟩ := firstCome
  refine ⟨front, ⟨?_, back⟩, ?_⟩
  · intro later member _
    rfl
  · intro other member later _ _
    exact earlier other member

theorem wakeUpNext_slots (free : Nat) (waiters : List (Waiter Task)) :
    (wakeUpNext (free + 1) waiters).1 + handed (wakeUpNext (free + 1) waiters).2 =
      free + 1 + handed waiters := by
  unfold wakeUpNext
  split
  · rfl
  · rename_i woken found
    have one := grantFirst_handed found
    simp only [Nat.add_sub_cancel]
    omega

theorem wakeUpNext_tasks (free : Nat) (waiters : List (Waiter Task)) :
    (wakeUpNext free waiters).2.map Waiter.task = waiters.map Waiter.task := by
  unfold wakeUpNext
  split
  · rfl
  · rename_i woken found
    exact grantFirst_tasks found

theorem wakeUpNext_firstCome (free : Nat) (firstCome : FirstCome waiters) :
    FirstCome (wakeUpNext free waiters).2 := by
  unfold wakeUpNext
  split
  · exact firstCome
  · rename_i woken found
    exact grantFirst_firstCome found firstCome

theorem wakeUpNext_attended (free : Nat) (waiters : List (Waiter Task))
    (waits : ∃ waiter ∈ (wakeUpNext free waiters).2, waiter.isPending = true) :
    ∃ waiter ∈ (wakeUpNext free waiters).2, waiter.isGranted = true := by
  unfold wakeUpNext at waits ⊢
  split at waits
  · rename_i nobody
    obtain ⟨waiter, member, isPending⟩ := waits
    rw [grantFirst_eq_none nobody waiter member] at isPending
    cases isPending
  · rename_i woken found
    obtain ⟨before, waiter, behind, -, rfl, -, -⟩ := grantFirst_eq_some found
    exact ⟨waiter.grant, by simp, rfl⟩

theorem wakeAll_slots (free : Nat) (waiters : List (Waiter Task)) :
    (wakeAll free waiters).1 + handed (wakeAll free waiters).2 = free + handed waiters := by
  induction free generalizing waiters with
  | zero => rfl
  | succ free ih =>
    unfold wakeAll
    split
    · rfl
    · rename_i woken found
      have one := grantFirst_handed found
      have rest := ih woken
      omega

theorem wakeAll_tasks (free : Nat) (waiters : List (Waiter Task)) :
    (wakeAll free waiters).2.map Waiter.task = waiters.map Waiter.task := by
  induction free generalizing waiters with
  | zero => rfl
  | succ free ih =>
    unfold wakeAll
    split
    · rfl
    · rename_i woken found
      rw [ih woken, grantFirst_tasks found]

theorem wakeAll_firstCome (free : Nat) (firstCome : FirstCome waiters) : FirstCome (wakeAll free waiters).2 := by
  induction free generalizing waiters with
  | zero => exact firstCome
  | succ free ih =>
    unfold wakeAll
    split
    · exact firstCome
    · rename_i woken found
      exact ih (grantFirst_firstCome found firstCome)

theorem grantFirst_pending (found : grantFirst waiters = some woken) (waiter : Waiter Task)
    (member : waiter ∈ woken) (isPending : waiter.isPending = true) : waiter ∈ waiters := by
  obtain ⟨before, first, behind, rfl, rfl, -, -⟩ := grantFirst_eq_some found
  rcases List.mem_append.mp member with front | back
  · exact List.mem_append_left _ front
  · rcases List.mem_cons.mp back with rfl | back
    · cases isPending
    · exact List.mem_append_right _ (List.mem_cons_of_mem _ back)

theorem wakeUpNext_pending (free : Nat) (waiters : List (Waiter Task)) (waiter : Waiter Task)
    (member : waiter ∈ (wakeUpNext free waiters).2) (isPending : waiter.isPending = true) :
    waiter ∈ waiters := by
  unfold wakeUpNext at member
  split at member
  · exact member
  · rename_i woken found
    exact grantFirst_pending found waiter member isPending

theorem wakeAll_pending (free : Nat) (waiters : List (Waiter Task)) (waiter : Waiter Task)
    (member : waiter ∈ (wakeAll free waiters).2) (isPending : waiter.isPending = true) :
    waiter ∈ waiters := by
  induction free generalizing waiters with
  | zero => exact member
  | succ free ih =>
    unfold wakeAll at member
    split at member
    · exact member
    · rename_i woken found
      exact grantFirst_pending found waiter (ih woken member) isPending

/-- Slots are left over only when nobody waits for one. -/
theorem wakeAll_settled (free : Nat) (waiters : List (Waiter Task))
    (left : 0 < (wakeAll free waiters).1) :
    ∀ waiter ∈ (wakeAll free waiters).2, waiter.isPending = false := by
  induction free generalizing waiters with
  | zero => simp [wakeAll] at left
  | succ free ih =>
    unfold wakeAll at left ⊢
    split at left
    · rename_i nobody
      exact grantFirst_eq_none nobody
    · rename_i woken found
      exact ih woken left

theorem wakeAll_attended (free : Nat) (waiters : List (Waiter Task))
    (left : 0 < (wakeAll free waiters).1)
    (waits : ∃ waiter ∈ (wakeAll free waiters).2, waiter.isPending = true) :
    ∃ waiter ∈ (wakeAll free waiters).2, waiter.isGranted = true := by
  obtain ⟨waiter, member, isPending⟩ := waits
  rw [wakeAll_settled free waiters left waiter member] at isPending
  cases isPending

end Waking

/-! ## What a cancellation and a departure keep -/

section Leaving

variable [DecidableEq Task] {waiters : List (Waiter Task)} (task : Task)

theorem cancelFirst_tasks (waiters : List (Waiter Task)) :
    (cancelFirst task waiters).map Waiter.task = waiters.map Waiter.task := by
  unfold cancelFirst
  split
  · rfl
  · rename_i before waiter behind found
    obtain ⟨rfl, -⟩ := locate_eq_some found
    simp

theorem cancelFirst_handed (waiters : List (Waiter Task)) :
    handed (cancelFirst task waiters) = handed waiters := by
  unfold cancelFirst
  split
  · rfl
  · rename_i before waiter behind found
    obtain ⟨rfl, -⟩ := locate_eq_some found
    simp [handed, List.countP_append, List.countP_cons]

theorem cancelFirst_firstCome (firstCome : FirstCome waiters) : FirstCome (cancelFirst task waiters) := by
  unfold cancelFirst
  split
  · exact firstCome
  · rename_i before waiter behind found
    obtain ⟨rfl, -⟩ := locate_eq_some found
    simp only [FirstCome, List.pairwise_append, List.pairwise_cons, List.mem_cons] at firstCome ⊢
    obtain ⟨front, ⟨first, back⟩, across⟩ := firstCome
    refine ⟨front, ⟨?_, back⟩, ?_⟩
    · intro later member _
      exact waiter.isPending_cancel
    · rintro other member later (rfl | behind) granted
      · exact across other member waiter (Or.inl rfl) (by simpa using granted)
      · exact across other member later (Or.inr behind) granted

theorem cancelFirst_pending (waiters : List (Waiter Task)) (other : Waiter Task)
    (member : other ∈ cancelFirst task waiters) (isPending : other.isPending = true) :
    other ∈ waiters := by
  unfold cancelFirst at member
  split at member
  · exact member
  · rename_i before waiter behind found
    obtain ⟨rfl, -⟩ := locate_eq_some found
    rcases List.mem_append.mp member with front | back
    · exact List.mem_append_left _ front
    · rcases List.mem_cons.mp back with rfl | back
      · rw [waiter.isPending_cancel] at isPending
        cases isPending
      · exact List.mem_append_right _ (List.mem_cons_of_mem _ back)

theorem cancelFirst_attended
    (attended : (∃ waiter ∈ waiters, waiter.isPending = true) →
      ∃ waiter ∈ waiters, waiter.isGranted = true)
    (waits : ∃ waiter ∈ cancelFirst task waiters, waiter.isPending = true) :
    ∃ waiter ∈ cancelFirst task waiters, waiter.isGranted = true := by
  obtain ⟨waiter, member, isPending⟩ := waits
  have before := cancelFirst_pending task waiters waiter member isPending
  have granted := handed_pos.mpr (attended ⟨waiter, before, isPending⟩)
  rw [← cancelFirst_handed task waiters] at granted
  exact handed_pos.mp granted

end Leaving

/-! ## The semaphore -/

/-- A slot is free while somebody waits only if a waiter is about to run that will hand it on. -/
structure Semaphore (Task : Type) where
  value : Nat
  waiters : List (Waiter Task)
  firstCome : FirstCome waiters
  attended : 0 < value → (∃ waiter ∈ waiters, waiter.isPending = true) →
    ∃ waiter ∈ waiters, waiter.isGranted = true

namespace Semaphore

def initial (value : Nat) : Semaphore Task :=
  ⟨value, [], List.Pairwise.nil, by simp⟩

variable (semaphore : Semaphore Task)

def locked : Bool :=
  semaphore.value = 0 || semaphore.waiters.any fun waiter => waiter.future ≠ .cancelled

def tasks : List Task :=
  semaphore.waiters.map Waiter.task

/-- The slots that nobody holds: those that are free and those that were handed to a waiter. -/
def slots : Nat :=
  semaphore.value + handed semaphore.waiters

theorem granted_of_locked (locked : semaphore.locked = true) (free : 0 < semaphore.value) :
    ∃ waiter ∈ semaphore.waiters, waiter.isGranted = true := by
  simp only [Semaphore.locked, Bool.or_eq_true, decide_eq_true_eq, List.any_eq_true] at locked
  rcases locked with none | ⟨waiter, member, active⟩
  · omega
  · cases state : waiter.future with
    | pending => exact semaphore.attended free ⟨waiter, member, by simp [Waiter.isPending, state]⟩
    | granted => exact ⟨waiter, member, by simp [Waiter.isGranted, state]⟩
    | cancelled => exact absurd state active

theorem not_pending_of_unlocked (unlocked : semaphore.locked = false) :
    ∀ waiter ∈ semaphore.waiters, waiter.isPending = false := by
  intro waiter member
  simp only [Semaphore.locked, Bool.or_eq_false_iff, List.any_eq_false] at unlocked
  have cancelled := unlocked.2 waiter member
  simp_all [Waiter.isPending]

theorem enqueued_firstCome (task : Task) :
    FirstCome (semaphore.waiters ++ [⟨task, .pending, false⟩]) := by
  simp only [FirstCome, List.pairwise_append, List.mem_singleton]
  refine ⟨semaphore.firstCome, List.pairwise_singleton _ _, ?_⟩
  rintro earlier _ later rfl granted
  cases granted

theorem enqueued_attended (task : Task) (locked : semaphore.locked = true)
    (free : 0 < semaphore.value) :
    ∃ waiter ∈ semaphore.waiters ++ [⟨task, .pending, false⟩], waiter.isGranted = true := by
  obtain ⟨waiter, member, granted⟩ := semaphore.granted_of_locked locked free
  exact ⟨waiter, List.mem_append_left _ member, granted⟩

theorem unlocked_attended (unlocked : semaphore.locked = false)
    (waits : ∃ waiter ∈ semaphore.waiters, waiter.isPending = true) :
    ∃ waiter ∈ semaphore.waiters, waiter.isGranted = true := by
  obtain ⟨waiter, member, isPending⟩ := waits
  rw [semaphore.not_pending_of_unlocked unlocked waiter member] at isPending
  cases isPending

/-- The semaphore after `acquire` up to its first suspension, and whether the slot is taken. -/
def acquire (task : Task) : Semaphore Task × Bool :=
  if locked : semaphore.locked = true then
    (⟨semaphore.value, semaphore.waiters ++ [⟨task, .pending, false⟩],
      semaphore.enqueued_firstCome task,
      fun free _ => semaphore.enqueued_attended task locked free⟩, false)
  else
    (⟨semaphore.value - 1, semaphore.waiters, semaphore.firstCome,
      fun _ => semaphore.unlocked_attended (Bool.eq_false_iff.mpr locked)⟩, true)

theorem acquire_taken (task : Task) (unlocked : semaphore.locked = false) :
    (semaphore.acquire task).1.slots + 1 = semaphore.slots ∧
      (semaphore.acquire task).1.waiters = semaphore.waiters ∧
      ∀ waiter ∈ semaphore.waiters, waiter.isPending = false := by
  have free : semaphore.value ≠ 0 := by
    intro none
    simp [locked, none] at unlocked
  simp only [acquire, dif_neg (Bool.eq_false_iff.mp unlocked), slots]
  refine ⟨?_, trivial, semaphore.not_pending_of_unlocked unlocked⟩
  omega

theorem acquire_queued (task : Task) (locked : semaphore.locked = true) :
    (semaphore.acquire task).1.slots = semaphore.slots ∧
      (semaphore.acquire task).1.waiters = semaphore.waiters ++ [⟨task, .pending, false⟩] := by
  simp only [acquire, dif_pos locked, slots]
  refine ⟨?_, trivial⟩
  simp [handed, List.countP_append, Waiter.isGranted]

/-- `value += 1` and `_wake_up_next`. -/
def release : Semaphore Task :=
  let woken := wakeUpNext (semaphore.value + 1) semaphore.waiters
  ⟨woken.1, woken.2, wakeUpNext_firstCome _ semaphore.firstCome, fun _ => wakeUpNext_attended _ _⟩

theorem release_slots : semaphore.release.slots = semaphore.slots + 1 := by
  have kept := wakeUpNext_slots semaphore.value semaphore.waiters
  simp only [slots, release]
  omega

theorem release_tasks : semaphore.release.tasks = semaphore.tasks :=
  wakeUpNext_tasks _ _

theorem handed_removed (waiter : Waiter Task) (before behind : List (Waiter Task)) :
    handed (before ++ behind) + waiter.givenBack + (if waiter.acquired then 1 else 0) =
      handed (before ++ waiter :: behind) := by
  simp only [handed, List.countP_append, List.countP_cons, Waiter.givenBack, Waiter.acquired]
  by_cases granted : waiter.isGranted = true
  · by_cases cancelled : waiter.mustCancel = true
    · simp [granted, cancelled]
      omega
    · simp [granted, cancelled]
      omega
  · simp [granted]

variable [DecidableEq Task]

def cancel (task : Task) : Semaphore Task :=
  ⟨semaphore.value, cancelFirst task semaphore.waiters, cancelFirst_firstCome task semaphore.firstCome,
    fun free waits => cancelFirst_attended task (semaphore.attended free) waits⟩

theorem cancel_slots (task : Task) : (semaphore.cancel task).slots = semaphore.slots :=
  congrArg (semaphore.value + ·) (cancelFirst_handed task semaphore.waiters)

theorem cancel_tasks (task : Task) : (semaphore.cancel task).tasks = semaphore.tasks :=
  cancelFirst_tasks task semaphore.waiters

theorem removed_firstCome_of_located {task : Task} {before behind : List (Waiter Task)}
    {waiter : Waiter Task} (found : locate task semaphore.waiters = some (before, waiter, behind)) :
    FirstCome (before ++ behind) := by
  have firstCome := semaphore.firstCome
  rw [(locate_eq_some found).1] at firstCome
  exact removed_firstCome firstCome

/-- A waiter whose future is done runs again.  It has its slot unless it was cancelled, and wakes as
many of the others as there are slots. -/
def resume (task : Task) : Option (Semaphore Task × Bool) :=
  match found : locate task semaphore.waiters with
  | none => none
  | some (before, waiter, behind) =>
      if waiter.isPending then none
      else
        let woken := wakeAll (semaphore.value + waiter.givenBack) (before ++ behind)
        some (⟨woken.1, woken.2,
          wakeAll_firstCome _ (semaphore.removed_firstCome_of_located found), wakeAll_attended _ _⟩,
          waiter.acquired)

/-- The queue is left, and nobody who came earlier is still waiting when the slot is taken. -/
theorem resume_eq_some {after : Semaphore Task} {task : Task} {acquired : Bool}
    (resumed : semaphore.resume task = some (after, acquired)) :
    ∃ before waiter behind, semaphore.waiters = before ++ waiter :: behind ∧ waiter.task = task ∧
      after.tasks = (before ++ behind).map Waiter.task ∧
      after.slots + (if acquired then 1 else 0) = semaphore.slots ∧
      (∀ other ∈ after.waiters, other.isPending = true → other ∈ before ++ behind) ∧
      (acquired = true → ∀ other ∈ before, other.isPending = false) := by
  unfold resume at resumed
  split at resumed
  · cases resumed
  · rename_i before waiter behind found
    split at resumed
    · cases resumed
    · obtain ⟨rfl, rfl⟩ := Prod.mk.inj (Option.some.inj resumed)
      obtain ⟨split, isTask⟩ := locate_eq_some found
      refine ⟨before, waiter, behind, split, isTask, wakeAll_tasks _ _, ?_, wakeAll_pending _ _, ?_⟩
      · have kept := wakeAll_slots (semaphore.value + waiter.givenBack) (before ++ behind)
        have removed := handed_removed waiter before behind
        simp only [slots, split]
        omega
      · intro taken other member
        have firstCome := semaphore.firstCome
        rw [split, FirstCome, List.pairwise_append] at firstCome
        have granted : waiter.isGranted = true := (Bool.and_eq_true_iff.mp taken).1
        exact firstCome.2.2 other member waiter List.mem_cons_self granted

end Semaphore

end Interleaving
