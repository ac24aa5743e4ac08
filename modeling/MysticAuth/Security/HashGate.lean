import MysticAuth.Interleaving.Actions
import MysticAuth.Interleaving.Semaphore

/-!
# The gate in front of the password hash

A worker runs a bounded number of Argon2 operations at once and lets a bounded
number of calls wait for them; further calls are refused.  A call may be
cancelled at each of its two suspensions, and a thread that was started runs on
when its call is cancelled.
-/

set_option autoImplicit false

namespace MysticAuth.PasswordHashing

open Interleaving

structure Settings where
  passwordHashConcurrency : Int
  passwordHashMaxWaiting : Int

def Settings.capacity (settings : Settings) : Nat :=
  (max 1 settings.passwordHashConcurrency).toNat

/-- What a call of `_run_hash` has come to. -/
inductive Phase where
  /-- suspended in `acquire` -/
  | waiting
  /-- its thread computes -/
  | hashing
  /-- the thread is done, and the call has not run since -/
  | hashed
  /-- cancelled with a thread, and the call has not run since -/
  | aborting
  | refused
  /-- the hash, or the exception of the hash function -/
  | returned
  /-- cancelled before it had a slot -/
  | withdrawn
  /-- cancelled with a thread -/
  | abandoned
  deriving DecidableEq

namespace Phase

def holdsSlot : Phase → Bool
  | .hashing | .hashed | .aborting => true
  | _ => false

/-- The call had a slot at some time. -/
def served : Phase → Bool
  | .hashing | .hashed | .aborting | .returned | .abandoned => true
  | _ => false

end Phase

structure HashGate where
  running : Semaphore Nat
  waiting : Nat

/-- A call is named by its position, which is the order of arrival. -/
structure Worker where
  settings : Settings
  gate : HashGate
  calls : List Phase
  threads : List Nat

namespace Worker

def fresh (settings : Settings) : Worker :=
  ⟨settings, ⟨.initial settings.capacity, 0⟩, [], []⟩

variable (worker : Worker)

/-- `_run_hash` up to its first suspension. -/
def call : Worker :=
  let gate := worker.gate
  let acquired := (gate.running.acquire worker.calls.length).1
  if gate.running.locked then
    if worker.settings.passwordHashMaxWaiting ≤ gate.waiting then
      { worker with calls := worker.calls ++ [.refused] }
    else
      { worker with
        gate := ⟨acquired, gate.waiting + 1⟩
        calls := worker.calls ++ [.waiting] }
  else
    { worker with
      gate := { gate with running := acquired }
      calls := worker.calls ++ [.hashing]
      threads := worker.threads ++ [worker.calls.length] }

/-- The call leaves `acquire`, with its slot or with the cancellation. -/
def leaveQueue (id : Nat) (running : Semaphore Nat) (acquired : Bool) : Worker :=
  let gate : HashGate := ⟨running, worker.gate.waiting - 1⟩
  if acquired then
    { worker with
      gate := gate
      calls := worker.calls.set id .hashing
      threads := worker.threads ++ [id] }
  else { worker with gate := gate, calls := worker.calls.set id .withdrawn }

/-- `finally: gate.running.release()`. -/
def finish (id : Nat) (ended : Phase) : Worker :=
  { worker with
    gate := { worker.gate with running := worker.gate.running.release }
    calls := worker.calls.set id ended }

def resume (id : Nat) : Option Worker :=
  match worker.calls[id]? with
  | some .waiting => (worker.gate.running.resume id).map fun resumed =>
      worker.leaveQueue id resumed.1 resumed.2
  | some .hashed => some (worker.finish id .returned)
  | some .aborting => some (worker.finish id .abandoned)
  | _ => none

def cancel (id : Nat) : Option Worker :=
  match worker.calls[id]? with
  | some .waiting =>
      some { worker with gate := { worker.gate with running := worker.gate.running.cancel id } }
  | some .hashing | some .hashed => some { worker with calls := worker.calls.set id .aborting }
  | _ => none

def threadDone (id : Nat) : Option Worker :=
  if id ∈ worker.threads then
    let calls := if worker.calls[id]? = some .hashing then worker.calls.set id .hashed
      else worker.calls
    some { worker with calls := calls, threads := worker.threads.erase id }
  else none

end Worker

inductive Action where
  | call
  | resume (id : Nat)
  | cancel (id : Nat)
  | threadDone (id : Nat)
  deriving DecidableEq

def Worker.step (worker : Worker) : Action → Option Worker
  | .call => some worker.call
  | .resume id => worker.resume id
  | .cancel id => worker.cancel id
  | .threadDone id => worker.threadDone id

/-! ## The books of the gate -/

def Phase.hasThread : Phase → Bool
  | .hashing | .aborting | .abandoned => true
  | _ => false

theorem present_snoc (calls : List Phase) (new phase : Phase) (id : Nat) :
    (calls ++ [new])[id]? = some phase ↔
      calls[id]? = some phase ∨ id = calls.length ∧ new = phase := by
  rcases Nat.lt_trichotomy id calls.length with old | rfl | later
  · rw [List.getElem?_append_left old]
    constructor
    · exact Or.inl
    · rintro (present | ⟨rfl, -⟩)
      · exact present
      · omega
  · simp
  · rw [List.getElem?_eq_none (by simp; omega), List.getElem?_eq_none (by omega)]
    constructor
    · intro absent
      cases absent
    · rintro (absent | ⟨rfl, -⟩)
      · cases absent
      · omega

section Moves

variable {calls : List Phase} {id : Nat} {before : Phase}

/-- Changing one call changes each count by that call alone. -/
theorem countP_moved (count : Phase → Bool) (present : calls[id]? = some before) (after : Phase) :
    (calls.set id after).countP count + (if count before then 1 else 0) =
      calls.countP count + (if count after then 1 else 0) := by
  obtain ⟨bound, isBefore⟩ := List.getElem?_eq_some_iff.mp present
  have positive : count before = true → 0 < calls.countP count := by
    intro counts
    exact List.countP_pos_iff.mpr ⟨before, isBefore ▸ List.getElem_mem bound, counts⟩
  rw [List.countP_set bound, isBefore]
  split
  · rename_i counts
    have some := positive counts
    omega
  · omega

theorem present_moved (present : calls[id]? = some before) (after phase : Phase) (other : Nat) :
    (calls.set id after)[other]? = some phase ↔
      other ≠ id ∧ calls[other]? = some phase ∨ other = id ∧ after = phase := by
  have bound := (List.getElem?_eq_some_iff.mp present).1
  by_cases same : other = id
  · subst same
    simp [List.getElem?_set_self bound]
  · rw [List.getElem?_set_ne (Ne.symm same)]
    simp [same]

/-- The calls behind a position have not been served. -/
def NoneServed (calls : List Phase) (task : Nat) : Prop :=
  ∀ id phase, task < id → calls[id]? = some phase → phase.served = false

theorem NoneServed.moved {task : Nat} (present : calls[id]? = some before) (after : Phase)
    (none : NoneServed calls task)
    (fair : task < id → after.served = true → before.served = true) :
    NoneServed (calls.set id after) task := by
  intro other phase later found
  rcases (present_moved present after phase other).mp found with ⟨-, found⟩ | ⟨rfl, rfl⟩
  · exact none other phase later found
  · cases isServed : after.served with
    | false => rfl
    | true =>
      have served := fair later isServed
      rw [none other before later present] at served
      cases served

end Moves

structure Sound (worker : Worker) : Prop where
  slots : worker.gate.running.slots + worker.calls.countP Phase.holdsSlot =
    worker.settings.capacity
  counted : worker.gate.waiting = worker.calls.countP (· = .waiting)
  bounded : (worker.gate.waiting : Int) ≤ max 0 worker.settings.passwordHashMaxWaiting
  sorted : worker.gate.running.tasks.Pairwise (· < ·)
  queued : ∀ id, id ∈ worker.gate.running.tasks ↔ worker.calls[id]? = some .waiting
  turn : ∀ waiter ∈ worker.gate.running.waiters, waiter.isPending = true →
    NoneServed worker.calls waiter.task
  threads : worker.threads.length ≤ worker.calls.countP Phase.hasThread

theorem Sound.fresh (settings : Settings) : Sound (Worker.fresh settings) where
  slots := by simp [Worker.fresh, Semaphore.initial, Semaphore.slots, handed]
  counted := rfl
  bounded := Int.le_max_left _ _
  sorted := List.Pairwise.nil
  queued := by simp [Worker.fresh, Semaphore.initial, Semaphore.tasks]
  turn := by simp [Worker.fresh, Semaphore.initial]
  threads := Nat.le_refl 0

/-! ## What each step keeps -/

section Steps

variable {worker after : Worker} {id : Nat}

theorem Sound.task_lt (sound : Sound worker) {task : Nat}
    (queued : task ∈ worker.gate.running.tasks) : task < worker.calls.length :=
  (List.getElem?_eq_some_iff.mp ((sound.queued task).mp queued)).1

/-- A call that is refused, or that takes its slot at once. -/
theorem Sound.call_unqueued (sound : Sound worker) (gate : HashGate) (new : Phase)
    (threads : List Nat) (notWaiting : new ≠ .waiting)
    (slots : gate.running.slots + (if new.holdsSlot then 1 else 0) = worker.gate.running.slots)
    (waiters : gate.running.waiters = worker.gate.running.waiters)
    (waiting : gate.waiting = worker.gate.waiting)
    (turn : ∀ waiter ∈ worker.gate.running.waiters, waiter.isPending = true →
      new.served = false)
    (length : threads.length ≤ worker.threads.length + (if new.hasThread then 1 else 0)) :
    Sound { worker with gate := gate, calls := worker.calls ++ [new], threads := threads } := by
  have tasks : gate.running.tasks = worker.gate.running.tasks :=
    congrArg (List.map Waiter.task) waiters
  constructor
  · have before := sound.slots
    simp only [List.countP_append, List.countP_singleton]
    omega
  · simp [waiting, sound.counted, List.countP_append, notWaiting]
  · exact waiting ▸ sound.bounded
  · exact tasks ▸ sound.sorted
  · intro id
    rw [present_snoc, tasks, sound.queued id]
    simp [notWaiting]
  · intro waiter member isPending id phase later found
    rw [waiters] at member
    rcases (present_snoc _ _ _ _).mp found with found | ⟨-, rfl⟩
    · exact sound.turn waiter member isPending id phase later found
    · exact turn waiter member isPending
  · have before := sound.threads
    simp only [List.countP_append, List.countP_singleton]
    omega

theorem Sound.call_queued (sound : Sound worker) (locked : worker.gate.running.locked = true)
    (room : ¬ worker.settings.passwordHashMaxWaiting ≤ worker.gate.waiting) :
    Sound { worker with
      gate := ⟨(worker.gate.running.acquire worker.calls.length).1, worker.gate.waiting + 1⟩
      calls := worker.calls ++ [.waiting] } := by
  obtain ⟨slots, waiters⟩ := worker.gate.running.acquire_queued worker.calls.length locked
  have tasks : (worker.gate.running.acquire worker.calls.length).1.tasks =
      worker.gate.running.tasks ++ [worker.calls.length] := by
    simp [Semaphore.tasks, waiters]
  constructor
  · have before := sound.slots
    simp only [List.countP_append, List.countP_singleton, slots]
    simpa [Phase.holdsSlot] using before
  · simp [sound.counted, List.countP_append]
  · have before := sound.bounded
    push_cast
    omega
  · simp only [tasks, List.pairwise_append, List.mem_singleton]
    refine ⟨sound.sorted, List.pairwise_singleton _ _, ?_⟩
    rintro task queued _ rfl
    exact sound.task_lt queued
  · intro id
    rw [tasks, present_snoc, ← sound.queued id]
    simp
  · intro waiter member isPending id phase later found
    simp only [waiters, List.mem_append, List.mem_singleton] at member
    rcases (present_snoc _ _ _ _).mp found with found | ⟨-, rfl⟩
    · rcases member with old | rfl
      · exact sound.turn waiter old isPending id phase later found
      · have bound := (List.getElem?_eq_some_iff.mp found).1
        simp only at later
        omega
    · rfl
  · simpa [List.countP_append, Phase.hasThread] using sound.threads

theorem Sound.call (sound : Sound worker) : Sound worker.call := by
  unfold Worker.call
  dsimp only
  split
  · rename_i locked
    split
    · exact sound.call_unqueued worker.gate .refused worker.threads (by simp)
        (by simp [Phase.holdsSlot]) rfl rfl (by intros; rfl) (by simp)
    · rename_i room
      exact sound.call_queued locked room
  · rename_i unlocked
    have unlocked := Bool.eq_false_iff.mpr unlocked
    obtain ⟨slots, waiters, nobody⟩ :=
      worker.gate.running.acquire_taken worker.calls.length unlocked
    refine sound.call_unqueued { worker.gate with running := _ } .hashing _ (by simp) slots waiters
      rfl ?_ (by simp [Phase.hasThread])
    intro waiter member isPending
    rw [nobody waiter member] at isPending
    cases isPending

theorem queued_moved (sound : Sound worker) {before : Phase} (later : Phase)
    (present : worker.calls[id]? = some before) (notWaiting : before ≠ .waiting)
    (stays : later ≠ .waiting) (other : Nat) :
    other ∈ worker.gate.running.tasks ↔ (worker.calls.set id later)[other]? = some .waiting := by
  rw [sound.queued other, present_moved present]
  constructor
  · intro waiting
    refine Or.inl ⟨?_, waiting⟩
    rintro rfl
    exact notWaiting (Option.some.inj (present.symm.trans waiting))
  · rintro (⟨-, waiting⟩ | ⟨-, rfl⟩)
    · exact waiting
    · exact absurd rfl stays

/-- A call that is not in the queue moves on. -/
theorem Sound.moved (sound : Sound worker) {before : Phase} (later : Phase)
    (present : worker.calls[id]? = some before) (notWaiting : before ≠ .waiting)
    (stays : later ≠ .waiting) (running : Semaphore Nat) (threads : List Nat)
    (slots : running.slots + (if later.holdsSlot then 1 else 0) =
      worker.gate.running.slots + (if before.holdsSlot then 1 else 0))
    (tasks : running.tasks = worker.gate.running.tasks)
    (pending : ∀ waiter ∈ running.waiters, waiter.isPending = true →
      waiter ∈ worker.gate.running.waiters)
    (served : later.served = true → before.served = true)
    (length : threads.length + (if before.hasThread then 1 else 0) ≤
      worker.threads.length + (if later.hasThread then 1 else 0)) :
    Sound { worker with
      gate := { worker.gate with running := running }
      calls := worker.calls.set id later
      threads := threads } := by
  constructor
  · have total := sound.slots
    have moved := countP_moved Phase.holdsSlot present later
    simp only
    omega
  · have moved := countP_moved (· = .waiting) present later
    simpa [notWaiting, stays, sound.counted] using moved.symm
  · exact sound.bounded
  · exact tasks ▸ sound.sorted
  · intro other
    rw [tasks]
    exact queued_moved sound later present notWaiting stays other
  · intro waiter member isPending
    have old := sound.turn waiter (pending waiter member isPending) isPending
    exact old.moved present later fun _ => served
  · have total := sound.threads
    have moved := countP_moved Phase.hasThread present later
    simp only
    omega

/-- A call leaves the queue.  With a slot it does so in its turn. -/
theorem Sound.leaveQueue (sound : Sound worker) {running : Semaphore Nat} {acquired : Bool}
    (present : worker.calls[id]? = some .waiting)
    (resumed : worker.gate.running.resume id = some (running, acquired)) :
    Sound (worker.leaveQueue id running acquired) := by
  obtain ⟨before, waiter, behind, split, rfl, tasks, slots, pending, turn⟩ :=
    Semaphore.resume_eq_some _ resumed
  have sorted := sound.sorted
  rw [Semaphore.tasks, split, List.map_append, List.map_cons, List.pairwise_append,
    List.pairwise_cons] at sorted
  obtain ⟨front, ⟨first, back⟩, across⟩ := sorted
  have isLeft : worker.leaveQueue waiter.task running acquired =
      { worker with
        gate := ⟨running, worker.gate.waiting - 1⟩
        calls := worker.calls.set waiter.task (if acquired then .hashing else .withdrawn)
        threads := worker.threads ++ (if acquired then [waiter.task] else []) } := by
    cases acquired <;> simp [Worker.leaveQueue]
  rw [isLeft]
  constructor
  · have total := sound.slots
    have moved := countP_moved Phase.holdsSlot present (if acquired then .hashing else .withdrawn)
    cases acquired <;> simp [Phase.holdsSlot] at moved slots ⊢ <;> omega
  · have moved := countP_moved (· = .waiting) present (if acquired then .hashing else .withdrawn)
    have counted := sound.counted
    cases acquired <;> simp at moved ⊢ <;> omega
  · have bounded := sound.bounded
    simp only
    omega
  · simp only [tasks, List.map_append, List.pairwise_append]
    refine ⟨front, back, ?_⟩
    intro task member other later
    exact across task member other (List.mem_cons_of_mem _ later)
  · intro other
    rw [present_moved present, ← sound.queued other, tasks, Semaphore.tasks, split]
    simp only [List.map_append, List.map_cons, List.mem_append, List.mem_cons]
    have notFront : waiter.task ∉ before.map Waiter.task := by
      intro member
      exact Nat.lt_irrefl _ (across _ member _ List.mem_cons_self)
    have notBack : waiter.task ∉ behind.map Waiter.task := by
      intro member
      exact Nat.lt_irrefl _ (first _ member)
    constructor
    · rintro (member | member)
      · exact Or.inl ⟨fun same => notFront (same ▸ member), Or.inl member⟩
      · exact Or.inl ⟨fun same => notBack (same ▸ member), Or.inr (Or.inr member)⟩
    · rintro (⟨other, member | same | member⟩ | ⟨-, impossible⟩)
      · exact Or.inl member
      · exact absurd same other
      · exact Or.inr member
      · cases acquired <;> cases impossible
  · intro other member isPending
    have old := pending other member isPending
    have queued : other ∈ worker.gate.running.waiters := by
      rw [split]
      rcases List.mem_append.mp old with member | member
      · exact List.mem_append_left _ member
      · exact List.mem_append_right _ (List.mem_cons_of_mem _ member)
    refine (sound.turn other queued isPending).moved present _ ?_
    intro earlier isServed
    have taken : acquired = true := by
      cases acquired
      · cases isServed
      · rfl
    -- whoever is behind came later, and those before are not waiting any more
    rcases List.mem_append.mp old with member | member
    · rw [turn taken other member] at isPending
      cases isPending
    · have later := first other.task (List.mem_map_of_mem member)
      omega
  · have total := sound.threads
    have moved := countP_moved Phase.hasThread present (if acquired then .hashing else .withdrawn)
    cases acquired <;> simp [Phase.hasThread] at moved ⊢ <;> omega

theorem Sound.finish (sound : Sound worker) {before : Phase} (ended : Phase)
    (present : worker.calls[id]? = some before) (held : before.holdsSlot = true)
    (isEnd : ended.holdsSlot = false) (isServed : ended.served = true)
    (thread : before.hasThread = ended.hasThread) : Sound (worker.finish id ended) := by
  have notWaiting : before ≠ .waiting := by
    rintro rfl
    cases held
  have stays : ended ≠ .waiting := by
    rintro rfl
    cases isServed
  have served : before.served = true := by
    cases before <;> first | rfl | cases held
  refine sound.moved ended present notWaiting stays _ worker.threads ?_
    (Semaphore.release_tasks _) (wakeUpNext_pending _ _) (fun _ => served) (Nat.le_of_eq ?_)
  · rw [Semaphore.release_slots, held, isEnd]
    rfl
  · rw [thread]

theorem Sound.resume (sound : Sound worker) (resumed : worker.resume id = some after) :
    Sound after := by
  unfold Worker.resume at resumed
  split at resumed
  · rename_i present
    obtain ⟨⟨running, acquired⟩, left, rfl⟩ := Option.map_eq_some_iff.mp resumed
    exact sound.leaveQueue present left
  · rename_i present
    obtain rfl := Option.some.inj resumed
    exact sound.finish .returned present rfl rfl rfl rfl
  · rename_i present
    obtain rfl := Option.some.inj resumed
    exact sound.finish .abandoned present rfl rfl rfl rfl
  · cases resumed

theorem Sound.cancel (sound : Sound worker) (cancelled : worker.cancel id = some after) :
    Sound after := by
  unfold Worker.cancel at cancelled
  split at cancelled
  · obtain rfl := Option.some.inj cancelled
    have tasks := worker.gate.running.cancel_tasks id
    constructor
    · simp only [worker.gate.running.cancel_slots id]
      exact sound.slots
    · exact sound.counted
    · exact sound.bounded
    · exact tasks ▸ sound.sorted
    · intro other
      rw [tasks]
      exact sound.queued other
    · intro waiter member isPending
      exact sound.turn waiter (cancelFirst_pending id _ waiter member isPending) isPending
    · exact sound.threads
  · rename_i present
    obtain rfl := Option.some.inj cancelled
    exact sound.moved .aborting present (by simp) (by simp) worker.gate.running worker.threads
      (by simp [Phase.holdsSlot]) rfl (fun _ member _ => member) (fun _ => rfl)
      (by simp [Phase.hasThread])
  · rename_i present
    obtain rfl := Option.some.inj cancelled
    exact sound.moved .aborting present (by simp) (by simp) worker.gate.running worker.threads
      (by simp [Phase.holdsSlot]) rfl (fun _ member _ => member) (fun _ => rfl)
      (by simp [Phase.hasThread])
  · cases cancelled

theorem Sound.threadDone (sound : Sound worker) (finished : worker.threadDone id = some after) :
    Sound after := by
  unfold Worker.threadDone at finished
  split at finished
  · rename_i running
    obtain rfl := Option.some.inj finished
    have length := List.length_erase_of_mem running
    have positive := List.length_pos_of_mem running
    split
    · rename_i present
      exact sound.moved .hashed present (by simp) (by simp) worker.gate.running _
        (by simp [Phase.holdsSlot]) rfl (fun _ member _ => member) (fun _ => rfl)
        (by simp [Phase.hasThread]; omega)
    · have threads := sound.threads
      exact { sound with threads := by simp only; omega }
  · cases finished

theorem Sound.step (sound : Sound worker) {action : Action}
    (stepped : worker.step action = some after) : Sound after := by
  cases action with
  | call =>
    obtain rfl := Option.some.inj stepped
    exact sound.call
  | resume id => exact sound.resume stepped
  | cancel id => exact sound.cancel stepped
  | threadDone id => exact sound.threadDone stepped

theorem step_settings {action : Action} (stepped : worker.step action = some after) :
    after.settings = worker.settings := by
  cases action with
  | call =>
    obtain rfl := Option.some.inj stepped
    simp only [Worker.call]
    split
    · split <;> rfl
    · rfl
  | resume id =>
    simp only [Worker.step, Worker.resume] at stepped
    split at stepped
    · obtain ⟨⟨running, acquired⟩, -, rfl⟩ := Option.map_eq_some_iff.mp stepped
      cases acquired <;> rfl
    · obtain rfl := Option.some.inj stepped
      rfl
    · obtain rfl := Option.some.inj stepped
      rfl
    · cases stepped
  | cancel id =>
    simp only [Worker.step, Worker.cancel] at stepped
    split at stepped
    · obtain rfl := Option.some.inj stepped
      rfl
    · obtain rfl := Option.some.inj stepped
      rfl
    · obtain rfl := Option.some.inj stepped
      rfl
    · cases stepped
  | threadDone id =>
    simp only [Worker.step, Worker.threadDone] at stepped
    split at stepped
    · obtain rfl := Option.some.inj stepped
      rfl
    · cases stepped

end Steps

/-! ## Every run -/

section Runs

variable {settings : Settings} {actions : List Action} {worker : Worker}

theorem Sound.run
    (reached : performAll Worker.step (Worker.fresh settings) actions = some worker) :
    Sound worker ∧ worker.settings = settings :=
  (follows_of_performed actions reached).preserves
    (fun worker => Sound worker ∧ worker.settings = settings) ⟨Sound.fresh settings, rfl⟩
    fun _ _ _ _ _ stepped holds => ⟨holds.1.step stepped, (step_settings stepped).trans holds.2⟩

/-- Four calls come at once to one slot and two places, and the first is cancelled with its thread:
the second starts its own while the cancelled one still computes. -/
def burst : List Action :=
  [.call, .call, .call, .call, .cancel 0, .resume 0, .resume 1]

/-- Nobody in the queue is about to run. -/
def Worker.Settled (worker : Worker) : Prop :=
  ∀ waiter ∈ worker.gate.running.waiters, waiter.isPending = true

instance (worker : Worker) : Decidable worker.Settled :=
  inferInstanceAs (Decidable (∀ waiter ∈ worker.gate.running.waiters, waiter.isPending = true))

end Runs

end MysticAuth.PasswordHashing
