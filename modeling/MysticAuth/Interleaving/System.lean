import MysticAuth.Interleaving.Program
import Mathlib.Logic.Relation

/-!
# Interleaved runs

A system serves requests, each by its own program, over one shared state.  A
step begins a request, makes one call of one program, or changes the state
from outside.  Every call is atomic, and may have several outcomes or, while
it is blocked, none.  The history keeps every answered call, newest first.
-/

set_option autoImplicit false

namespace Interleaving

structure System (Request State Environment : Type) {Call : Type} (Reply : Call → Type)
    (ε α : Type) where
  handle : Request → Program Reply ε α
  outcomes : Nat → (call : Call) → State → List (Reply call × State)
  disturb : Environment → State → State

variable {Request State Environment Call : Type} {Reply : Call → Type} {ε α : Type}

structure Thread (Request : Type) {Call : Type} (Reply : Call → Type) (ε α : Type) where
  request : Request
  program : Program Reply ε α

def Thread.result (thread : Thread Request Reply ε α) : Option (Except ε α) :=
  match thread.program with
  | .done result => some result
  | .call _ _ => none

structure Config (Request State : Type) {Call : Type} (Reply : Call → Type) (ε α : Type) where
  state : State
  threads : List (Thread Request Reply ε α)
  history : List (Nat × Event Reply)

namespace Config

def start (state : State) : Config Request State Reply ε α :=
  ⟨state, [], []⟩

variable (config : Config Request State Reply ε α)

/-- What one thread has called, newest first. -/
def trace (thread : Nat) : List (Event Reply) :=
  config.history.filterMap fun entry => if entry.1 = thread then some entry.2 else none

def begin (thread : Thread Request Reply ε α) : Config Request State Reply ε α :=
  { config with threads := config.threads ++ [thread] }

/-- One thread gets a reply to its call. -/
def reply (thread : Nat) (request : Request) {call : Call}
    (next : Reply call → Program Reply ε α) (outcome : Reply call × State) :
    Config Request State Reply ε α :=
  { state := outcome.2
    threads := config.threads.set thread ⟨request, next outcome.1⟩
    history := (thread, ⟨call, outcome.1⟩) :: config.history }

variable {config}

@[simp] theorem mem_trace (thread : Nat) (event : Event Reply) :
    event ∈ config.trace thread ↔ (thread, event) ∈ config.history := by
  simp only [trace, List.mem_filterMap, Prod.exists]
  constructor
  · rintro ⟨actor, event', member, same⟩
    split at same
    · rename_i isThread
      rw [← isThread, ← Option.some.inj same]
      exact member
    · simp at same
  · intro member
    exact ⟨thread, event, member, by simp⟩

end Config

section Runs

variable (system : System Request State Environment Reply ε α)

/-- A step whose answered call, if it is one, is among those permitted. -/
inductive Step (permits : Config Request State Reply ε α → Nat → Event Reply → Prop) :
    Config Request State Reply ε α → Config Request State Reply ε α → Prop
  | begin (config : Config Request State Reply ε α) (request : Request) :
      Step permits config (config.begin ⟨request, system.handle request⟩)
  | disturb (config : Config Request State Reply ε α) (event : Environment) :
      Step permits config { config with state := system.disturb event config.state }
  | reply (config : Config Request State Reply ε α) (thread : Nat) (request : Request)
      (call : Call) (next : Reply call → Program Reply ε α) (outcome : Reply call × State)
      (running : config.threads[thread]? = some ⟨request, .call call next⟩)
      (possible : outcome ∈ system.outcomes thread call config.state)
      (permitted : permits config thread ⟨call, outcome.1⟩) :
      Step permits config (config.reply thread request next outcome)

/-- Every answered call is permitted. -/
def anyCall : Config Request State Reply ε α → Nat → Event Reply → Prop :=
  fun _ _ _ => True

abbrev Reaches (permits : Config Request State Reply ε α → Nat → Event Reply → Prop) :
    Config Request State Reply ε α → Config Request State Reply ε α → Prop :=
  Relation.ReflTransGen (Step system permits)

variable {system}
variable {permits permits' : Config Request State Reply ε α → Nat → Event Reply → Prop}
variable {config config' : Config Request State Reply ε α}

theorem Step.weaken (step : Step system permits config config')
    (weaker : ∀ config thread event, permits config thread event →
      permits' config thread event) : Step system permits' config config' := by
  cases step with
  | begin request => exact .begin config request
  | disturb event => exact .disturb config event
  | reply thread request call next outcome running possible permitted =>
    exact .reply config thread request call next outcome running possible
      (weaker _ _ _ permitted)

theorem Reaches.weaken (run : Reaches system permits config config')
    (weaker : ∀ config thread event, permits config thread event →
      permits' config thread event) : Reaches system permits' config config' :=
  Relation.ReflTransGen.mono (fun _ _ step => step.weaken weaker) _ _ run

theorem Reaches.toAny (run : Reaches system permits config config') :
    Reaches system anyCall config config' :=
  run.weaken fun _ _ _ _ => trivial

/-- What a step of a run preserves, the run preserves. -/
theorem Reaches.preserves (invariant : Config Request State Reply ε α → Prop)
    (run : Reaches system permits config config') (holds : invariant config)
    (preserved : ∀ before after, Reaches system permits config before → invariant before →
      Step system permits before after → invariant after) : invariant config' := by
  induction run with
  | refl => exact holds
  | tail earlier step ih => exact preserved _ _ earlier ih step

/-- The same, with what comes after each step at hand. -/
theorem Reaches.preserves_between (invariant : Config Request State Reply ε α → Prop)
    (run : Reaches system permits config config') (holds : invariant config)
    (preserved : ∀ before after, Reaches system permits config before → invariant before →
      Step system permits before after → Reaches system permits after config' →
        invariant after) : invariant config' := by
  have generally : ∀ last, Reaches system permits config' last →
      (∀ before after, Reaches system permits config before → invariant before →
        Step system permits before after → Reaches system permits after last → invariant after) →
      invariant config' := by
    clear preserved
    induction run with
    | refl => exact fun _ _ _ => holds
    | tail earlier step ih =>
      intro last rest preserved
      exact preserved _ _ earlier (ih last (.head step rest) preserved) step rest
  exact generally config' .refl preserved

/-! ## Histories and threads along a run -/

theorem Step.history_suffix (step : Step system permits config config') :
    config.history <:+ config'.history := by
  cases step with
  | begin request => exact List.suffix_refl _
  | disturb event => exact List.suffix_refl _
  | reply => exact List.suffix_cons _ _

theorem Reaches.history_suffix (run : Reaches system permits config config') :
    config.history <:+ config'.history := by
  induction run with
  | refl => exact List.suffix_refl _
  | tail _ step ih => exact ih.trans step.history_suffix

theorem Reaches.trace_suffix (run : Reaches system permits config config') (thread : Nat) :
    config.trace thread <:+ config'.trace thread :=
  run.history_suffix.filterMap _

theorem Step.thread_persists (step : Step system permits config config') {thread : Nat}
    {before : Thread Request Reply ε α} (present : config.threads[thread]? = some before) :
    ∃ after, config'.threads[thread]? = some after ∧ after.request = before.request ∧
      ∀ result, before.program = .done result → after = before := by
  have bound := (List.getElem?_eq_some_iff.mp present).1
  cases step with
  | begin request =>
    refine ⟨before, ?_, rfl, fun _ _ => rfl⟩
    simpa only [Config.begin, List.getElem?_append_left bound] using present
  | disturb event => exact ⟨before, present, rfl, fun _ _ => rfl⟩
  | reply actor request call next outcome running possible permitted =>
    by_cases isActor : actor = thread
    · subst isActor
      rw [running] at present
      obtain rfl := Option.some.inj present
      refine ⟨⟨request, next outcome.1⟩, ?_, rfl, ?_⟩
      · simp [Config.reply, bound]
      · intro result isDone
        simp at isDone
    · refine ⟨before, ?_, rfl, fun _ _ => rfl⟩
      simpa only [Config.reply, List.getElem?_set_ne isActor] using present

theorem Reaches.thread_persists (run : Reaches system permits config config') {thread : Nat}
    {before : Thread Request Reply ε α} (present : config.threads[thread]? = some before) :
    ∃ after, config'.threads[thread]? = some after ∧ after.request = before.request ∧
      ∀ result, before.program = .done result → after = before := by
  induction run with
  | refl => exact ⟨before, present, rfl, fun _ _ => rfl⟩
  | tail _ step ih =>
    obtain ⟨middle, middlePresent, sameRequest, finished⟩ := ih
    obtain ⟨after, afterPresent, sameRequest', finished'⟩ := step.thread_persists middlePresent
    refine ⟨after, afterPresent, sameRequest'.trans sameRequest, fun result isDone => ?_⟩
    obtain rfl := finished result isDone
    exact finished' result isDone

theorem Step.threads_length (step : Step system permits config config') :
    config.threads.length ≤ config'.threads.length := by
  cases step with
  | begin request => simp [Config.begin]
  | disturb event => exact Nat.le_refl _
  | reply => simp [Config.reply]

theorem Reaches.threads_length (run : Reaches system permits config config') :
    config.threads.length ≤ config'.threads.length := by
  induction run with
  | refl => exact Nat.le_refl _
  | tail _ step ih => exact Nat.le_trans ih step.threads_length

/-- Only threads that exist have called anything. -/
def Config.Attributed (config : Config Request State Reply ε α) : Prop :=
  ∀ entry ∈ config.history, entry.1 < config.threads.length

theorem Config.attributed_start (state : State) :
    (Config.start state : Config Request State Reply ε α).Attributed := by
  simp [Config.Attributed, Config.start]

theorem Step.attributed (step : Step system permits config config')
    (attributed : config.Attributed) : config'.Attributed := by
  intro entry member
  cases step with
  | begin request =>
    have bound := attributed entry member
    simp only [Config.begin, List.length_append, List.length_singleton]
    omega
  | disturb event => exact attributed entry member
  | reply thread request call next outcome running possible permitted =>
    have bound := (List.getElem?_eq_some_iff.mp running).1
    simp only [Config.reply, List.length_set] at member ⊢
    rcases List.mem_cons.mp member with rfl | earlier
    · exact bound
    · exact attributed entry earlier

theorem Reaches.attributed (run : Reaches system permits config config')
    (attributed : config.Attributed) : config'.Attributed :=
  run.preserves Config.Attributed attributed fun _ _ _ holds step => step.attributed holds

/-- A thread that has not finished. -/
def Config.Running (config : Config Request State Reply ε α) (thread : Nat) : Prop :=
  ∃ running, config.threads[thread]? = some running ∧ running.result = none

theorem Reaches.running (run : Reaches system permits config config') {thread : Nat}
    (begun : thread < config.threads.length) (running : config'.Running thread) :
    config.Running thread := by
  obtain ⟨after, isAfter, unfinished⟩ := running
  have present := List.getElem?_eq_getElem begun
  refine ⟨_, present, ?_⟩
  obtain ⟨after', isAfter', -, finished⟩ := run.thread_persists present
  obtain rfl := Option.some.inj (isAfter.symm.trans isAfter')
  cases isProgram : config.threads[thread].program with
  | done result =>
    rw [finished result isProgram] at unfinished
    simp [Thread.result, isProgram] at unfinished
  | call request next => simp [Thread.result, isProgram]

/-- A thread's request never changes. -/
theorem Reaches.present_before (run : Reaches system permits config config') {thread : Nat}
    (begun : thread < config.threads.length) {request : Request} {program : Program Reply ε α}
    (present : config'.threads[thread]? = some ⟨request, program⟩) :
    ∃ program', config.threads[thread]? = some ⟨request, program'⟩ := by
  have isThread := List.getElem?_eq_getElem begun
  obtain ⟨after, isAfter, same, -⟩ := run.thread_persists isThread
  obtain rfl := Option.some.inj (present.symm.trans isAfter)
  refine ⟨config.threads[thread].program, ?_⟩
  rw [isThread]
  simp only at same
  rw [same]

/-- At this step the thread's call was answered. -/
structure Answers (system : System Request State Environment Reply ε α)
    (permits : Config Request State Reply ε α → Nat → Event Reply → Prop)
    (before after : Config Request State Reply ε α) (thread : Nat) (event : Event Reply) :
    Prop where
  step : Step system permits before after
  running : ∃ request next, before.threads[thread]? = some ⟨request, .call event.1 next⟩
  possible : (event.2, after.state) ∈ system.outcomes thread event.1 before.state
  permitted : permits before thread event
  recorded : after.history = (thread, event) :: before.history

theorem Answers.toAny {before after : Config Request State Reply ε α} {thread : Nat}
    {event : Event Reply} (answers : Answers system permits before after thread event) :
    Answers system anyCall before after thread event :=
  ⟨answers.step.weaken fun _ _ _ _ => trivial, answers.running, answers.possible, trivial,
    answers.recorded⟩

theorem Answers.isRunning {before after : Config Request State Reply ε α} {thread : Nat}
    {event : Event Reply} (answers : Answers system permits before after thread event) :
    before.Running thread := by
  obtain ⟨request, next, running⟩ := answers.running
  exact ⟨_, running, rfl⟩

theorem Answers.trace_self {before after : Config Request State Reply ε α} {thread : Nat}
    {event : Event Reply} (answers : Answers system permits before after thread event) :
    after.trace thread = event :: before.trace thread := by
  simp [Config.trace, answers.recorded]

theorem Answers.trace_ne {before after : Config Request State Reply ε α} {thread other : Nat}
    {event : Event Reply} (answers : Answers system permits before after thread event)
    (differs : thread ≠ other) : after.trace other = before.trace other := by
  simp [Config.trace, answers.recorded, differs]

/-- A step begins a thread, or changes the state from outside, or answers a call. -/
theorem Step.cases_answers (step : Step system permits config config') :
    (config'.history = config.history ∧ (config'.state = config.state ∨
        ∃ event, config'.state = system.disturb event config.state)) ∨
      ∃ thread event, Answers system permits config config' thread event := by
  have step' := step
  cases step with
  | begin request => exact Or.inl ⟨rfl, Or.inl rfl⟩
  | disturb event => exact Or.inl ⟨rfl, Or.inr ⟨event, rfl⟩⟩
  | reply thread request call next outcome running possible permitted =>
    exact Or.inr ⟨thread, ⟨call, outcome.1⟩, step', ⟨request, next, running⟩, possible, permitted,
      rfl⟩

theorem Config.trace_of_history {config config' : Config Request State Reply ε α}
    (same : config'.history = config.history) (thread : Nat) :
    config'.trace thread = config.trace thread := by
  simp only [Config.trace, same]

/-- A call that is new in a thread's trace was answered at some step of the run, when the thread
had made the calls before it. -/
theorem Reaches.answered_within (run : Reaches system permits config config') {thread : Nat}
    {event : Event Reply} {earlier : List (Event Reply)}
    (within : event :: earlier <:+ config'.trace thread)
    (new : ¬ event :: earlier <:+ config.trace thread) :
    ∃ before after, Reaches system permits config before ∧
      Answers system permits before after thread event ∧ before.trace thread = earlier ∧
      Reaches system permits after config' := by
  induction run with
  | refl => exact absurd within new
  | @tail middle last earlierRun step ih =>
    by_cases already : event :: earlier <:+ middle.trace thread
    · obtain ⟨before, after, first, answers, isTrace, rest⟩ := ih already
      exact ⟨before, after, first, answers, isTrace, rest.tail step⟩
    · rcases step.cases_answers with ⟨same, -⟩ | ⟨actor, event', answers⟩
      · rw [Config.trace_of_history same] at within
        exact absurd within already
      · by_cases isActor : actor = thread
        · subst isActor
          rw [answers.trace_self] at within
          rcases List.suffix_cons_iff.mp within with same | older
          · obtain ⟨rfl, rfl⟩ := List.cons.inj same
            exact ⟨middle, last, earlierRun, answers, rfl, .refl⟩
          · exact absurd older already
        · rw [answers.trace_ne isActor] at within
          exact absurd within already

theorem Config.trace_start (state : State) (thread : Nat) :
    (Config.start state : Config Request State Reply ε α).trace thread = [] :=
  rfl

/-- Every call of a thread was answered at some step since the start. -/
theorem Reaches.answered {state : State} (run : Reaches system permits (Config.start state) config)
    {thread : Nat} {event : Event Reply} {earlier : List (Event Reply)}
    (within : event :: earlier <:+ config.trace thread) :
    ∃ before after, Reaches system permits (Config.start state) before ∧
      Answers system permits before after thread event ∧ before.trace thread = earlier ∧
      Reaches system permits after config :=
  run.answered_within within (by simp [Config.trace_start])

theorem Reaches.answered_member {state : State}
    (run : Reaches system permits (Config.start state) config) {thread : Nat}
    {event : Event Reply} (occurred : event ∈ config.trace thread) :
    ∃ before after, Reaches system permits (Config.start state) before ∧
      Answers system permits before after thread event ∧ Reaches system permits after config := by
  obtain ⟨later, earlier, isTrace⟩ := List.append_of_mem occurred
  obtain ⟨before, after, first, answers, -, rest⟩ := run.answered ⟨later, isTrace.symm⟩
  exact ⟨before, after, first, answers, rest⟩

/-- The thread that was answered is still serving the same request. -/
theorem Answers.running_as {before after : Config Request State Reply ε α} {thread : Nat}
    {event : Event Reply} (answers : Answers system permits before after thread event)
    (rest : Reaches system permits' after config) {request : Request} {program : Program Reply ε α}
    (present : config.threads[thread]? = some ⟨request, program⟩) :
    ∃ next, before.threads[thread]? = some ⟨request, .call event.1 next⟩ := by
  obtain ⟨request', next, running⟩ := answers.running
  obtain ⟨middle, isMiddle, same, -⟩ := answers.step.thread_persists running
  obtain ⟨last, isLast, same', -⟩ := rest.thread_persists isMiddle
  obtain rfl := Option.some.inj (present.symm.trans isLast)
  have sameRequest := same'.trans same
  simp only at sameRequest
  subst sameRequest
  exact ⟨next, running⟩

/-- What every reply says when it is given, and no step takes back, holds of every reply so far. -/
theorem Reaches.lasting {state : State} (holds : Event Reply → State → Prop)
    (run : Reaches system permits (Config.start state) config)
    (given : ∀ thread call state outcome, outcome ∈ system.outcomes thread call state →
      holds ⟨call, outcome.1⟩ outcome.2)
    (stable : ∀ before after, Step system permits before after → ∀ event,
      holds event before.state → holds event after.state) :
    ∀ entry ∈ config.history, holds entry.2 config.state := by
  refine run.preserves (fun config => ∀ entry ∈ config.history, holds entry.2 config.state)
    (by simp [Config.start]) fun before after _ earlier step => ?_
  intro entry member
  rcases step.cases_answers with ⟨same, -⟩ | ⟨thread, event, answers⟩
  · rw [same] at member
    exact stable before after step entry.2 (earlier entry member)
  · rw [answers.recorded] at member
    rcases List.mem_cons.mp member with rfl | old
    · exact given thread event.1 before.state _ answers.possible
    · exact stable before after step entry.2 (earlier entry old)

/-! ## Programs along a run -/

theorem Config.trace_reply_self (config : Config Request State Reply ε α) (thread : Nat)
    (request : Request) {call : Call} (next : Reply call → Program Reply ε α)
    (outcome : Reply call × State) :
    (config.reply thread request next outcome).trace thread =
      ⟨call, outcome.1⟩ :: config.trace thread := by
  simp [Config.trace, Config.reply]

theorem Config.trace_reply_ne (config : Config Request State Reply ε α) (thread other : Nat)
    (differs : thread ≠ other) (request : Request) {call : Call}
    (next : Reply call → Program Reply ε α) (outcome : Reply call × State) :
    (config.reply thread request next outcome).trace other = config.trace other := by
  simp [Config.trace, Config.reply, differs]

theorem Config.Attributed.begun (attributed : config.Attributed) {thread : Nat}
    {event : Event Reply} (member : event ∈ config.trace thread) :
    thread < config.threads.length :=
  attributed _ ((Config.mem_trace thread event).mp member)

theorem Config.Attributed.trace_eq_nil (attributed : config.Attributed) {thread : Nat}
    (fresh : config.threads.length ≤ thread) : config.trace thread = [] := by
  rw [List.eq_nil_iff_forall_not_mem]
  intro event member
  exact absurd (attributed _ ((Config.mem_trace thread event).mp member)) (Nat.not_lt.mpr fresh)

/-- A thread that begins after `config` has made all its calls after it. -/
theorem Reaches.answered_of_fresh (run : Reaches system permits config config')
    (attributed : config.Attributed) {thread : Nat} (fresh : config.threads.length ≤ thread)
    {event : Event Reply} (occurred : event ∈ config'.trace thread) :
    ∃ before after, Reaches system permits config before ∧
      Answers system permits before after thread event ∧ Reaches system permits after config' := by
  obtain ⟨later, earlier, isTrace⟩ := List.append_of_mem occurred
  have within : event :: earlier <:+ config'.trace thread := ⟨later, isTrace.symm⟩
  obtain ⟨before, after, first, answers, -, rest⟩ := run.answered_within within (by
    simp [attributed.trace_eq_nil fresh])
  exact ⟨before, after, first, answers, rest⟩

variable (discipline : Request → Discipline Reply)
variable (returns : Request → Except ε α → List (Event Reply) → Prop)

/-- Every thread continues as its request's specification demands. -/
def Config.Disciplined (config : Config Request State Reply ε α) : Prop :=
  ∀ (index : Nat) (thread : Thread Request Reply ε α), config.threads[index]? = some thread →
    thread.program.Meets (discipline thread.request) (returns thread.request)
      (config.trace index)

structure System.Obeys (system : System Request State Environment Reply ε α) : Prop where
  programs : ∀ request,
    (system.handle request).Meets (discipline request) (returns request) []
  answers : ∀ request thread call state outcome,
    outcome ∈ system.outcomes thread call state → (discipline request).answers call outcome.1

variable {discipline returns}

theorem Step.disciplined (obeys : system.Obeys discipline returns)
    (step : Step system permits config config') (attributed : config.Attributed)
    (disciplined : config.Disciplined discipline returns) :
    config'.Disciplined discipline returns := by
  intro index thread present
  cases step with
  | begin request =>
    simp only [Config.begin] at present ⊢
    rcases Nat.lt_or_ge index config.threads.length with old | new
    · rw [List.getElem?_append_left old] at present
      exact disciplined index thread present
    · rw [List.getElem?_append_right new] at present
      have isNew := List.mem_of_getElem? present
      rw [List.mem_singleton] at isNew
      subst isNew
      change (system.handle request).Meets (discipline request) (returns request)
        (config.trace index)
      rw [attributed.trace_eq_nil new]
      exact obeys.programs request
  | disturb event => exact disciplined index thread present
  | reply actor request call next outcome running possible permitted =>
    have bound := (List.getElem?_eq_some_iff.mp running).1
    have meets := disciplined actor _ running
    by_cases isActor : actor = index
    · subst isActor
      simp only [Config.reply, List.getElem?_set_self bound, Option.some.injEq] at present
      subst present
      rw [Config.trace_reply_self]
      exact meets.2 outcome.1 (obeys.answers request actor call config.state outcome possible)
    · simp only [Config.reply, List.getElem?_set_ne isActor] at present
      rw [Config.trace_reply_ne config actor index isActor]
      exact disciplined index thread present

theorem Reaches.disciplined (obeys : system.Obeys discipline returns) (state : State)
    (run : Reaches system permits (Config.start state) config) :
    config.Disciplined discipline returns := by
  have both := run.preserves
    (fun config => config.Attributed ∧ config.Disciplined discipline returns)
    ⟨Config.attributed_start state, fun index thread present => by simp [Config.start] at present⟩
    fun _ _ _ holds step =>
      ⟨step.attributed holds.1, step.disciplined obeys holds.1 holds.2⟩
  exact both.2

/-- The call a thread makes at a step of a run is one its specification allows there. -/
theorem Config.Disciplined.allows (disciplined : config.Disciplined discipline returns)
    {thread : Nat} {request : Request} {call : Call} {next : Reply call → Program Reply ε α}
    (running : config.threads[thread]? = some ⟨request, .call call next⟩) :
    (discipline request).allows (config.trace thread) call :=
  (disciplined thread _ running).1

theorem Config.Disciplined.returned (disciplined : config.Disciplined discipline returns)
    {index : Nat} {thread : Thread Request Reply ε α}
    (present : config.threads[index]? = some thread) {result : Except ε α}
    (finished : thread.result = some result) :
    returns thread.request result (config.trace index) := by
  have meets := disciplined index thread present
  unfold Thread.result at finished
  split at finished
  · rename_i result' isDone
    obtain rfl := Option.some.inj finished
    rw [isDone] at meets
    exact meets
  · simp at finished

end Runs

/-! ## Schedules -/

section Schedules

variable (system : System Request State Environment Reply ε α)

/-- A step chosen by a schedule; of several outcomes it names one by its position. -/
inductive Move (Request Environment : Type) where
  | begin (request : Request)
  | disturb (event : Environment)
  | reply (thread outcome : Nat)

def Config.move (config : Config Request State Reply ε α) :
    Move Request Environment → Option (Config Request State Reply ε α)
  | .begin request => some (config.begin ⟨request, system.handle request⟩)
  | .disturb event => some { config with state := system.disturb event config.state }
  | .reply thread choice =>
      match config.threads[thread]? with
      | some ⟨request, .call call next⟩ =>
          (system.outcomes thread call config.state)[choice]?.map
            (config.reply thread request next)
      | _ => none

def Config.play (config : Config Request State Reply ε α) :
    List (Move Request Environment) → Option (Config Request State Reply ε α)
  | [] => some config
  | move :: rest => (config.move system move).bind fun next => next.play rest

/-- Where a schedule leads; one that gets stuck leads nowhere. -/
def Config.follow (config : Config Request State Reply ε α)
    (moves : List (Move Request Environment)) : Config Request State Reply ε α :=
  (config.play system moves).getD config

/-- Every call that the schedule has answered passes the check. -/
def Config.passes (check : Config Request State Reply ε α → Nat → Event Reply → Bool)
    (config : Config Request State Reply ε α) : List (Move Request Environment) → Bool
  | [] => true
  | move :: rest =>
      match config.move system move with
      | none => true
      | some next =>
          ((next.history.take (next.history.length - config.history.length)).all fun entry =>
            check config entry.1 entry.2) && next.passes check rest

variable {permits : Config Request State Reply ε α → Nat → Event Reply → Prop}

theorem Config.move_step {config config' : Config Request State Reply ε α}
    (move : Move Request Environment) (moved : config.move system move = some config')
    (permitted : ∀ entry, config'.history = entry :: config.history →
      permits config entry.1 entry.2) : Step system permits config config' := by
  cases move with
  | begin request =>
    obtain rfl := Option.some.inj moved
    exact .begin config request
  | disturb event =>
    obtain rfl := Option.some.inj moved
    exact .disturb config event
  | reply thread choice =>
    simp only [Config.move] at moved
    split at moved
    · rename_i request call next running
      obtain ⟨outcome, chosen, rfl⟩ := Option.map_eq_some_iff.mp moved
      exact .reply config thread request call next outcome running
        (List.mem_of_getElem? chosen) (permitted _ rfl)
    · simp at moved

theorem Config.play_reaches
    {check : Config Request State Reply ε α → Nat → Event Reply → Bool}
    (checked : ∀ config thread event, check config thread event = true →
      permits config thread event) (moves : List (Move Request Environment))
    {config config' : Config Request State Reply ε α}
    (passed : config.passes system check moves = true)
    (played : config.play system moves = some config') :
    Reaches system permits config config' := by
  induction moves generalizing config with
  | nil =>
    obtain rfl := Option.some.inj played
    exact .refl
  | cons move rest ih =>
    obtain ⟨next, moved, played'⟩ := Option.bind_eq_some_iff.mp played
    simp only [Config.passes, moved, Bool.and_eq_true, List.all_eq_true] at passed
    refine .head (Config.move_step system move moved fun entry recorded => ?_) (ih passed.2 played')
    refine checked _ _ _ (passed.1 entry ?_)
    simp [recorded]

/-- A schedule whose calls pass the check is a run with these calls permitted. -/
theorem Config.follow_permitted
    (check : Config Request State Reply ε α → Nat → Event Reply → Bool)
    (checked : ∀ config thread event, check config thread event = true →
      permits config thread event) (config : Config Request State Reply ε α)
    (moves : List (Move Request Environment))
    (passed : config.passes system check moves = true) :
    Reaches system permits config (config.follow system moves) := by
  unfold Config.follow
  cases played : config.play system moves with
  | none => exact .refl
  | some config' => exact Config.play_reaches system checked moves passed played

theorem Config.follow_reaches (config : Config Request State Reply ε α)
    (moves : List (Move Request Environment)) :
    Reaches system anyCall config (config.follow system moves) := by
  refine Config.follow_permitted system (fun _ _ _ => true) (fun _ _ _ _ => trivial) config
    moves ?_
  induction moves generalizing config with
  | nil => rfl
  | cons move rest ih =>
    unfold Config.passes
    split
    · rfl
    · rename_i next moved
      simp only [List.all_eq_true, Bool.and_eq_true]
      exact ⟨fun _ _ => trivial, ih next⟩

theorem Config.follow_answers (config : Config Request State Reply ε α) (thread choice : Nat)
    (event : Event Reply) (permitted : permits config thread event)
    (recorded : (config.follow system [.reply thread choice]).history =
      (thread, event) :: config.history) :
    Answers system permits config (config.follow system [.reply thread choice]) thread event := by
  unfold Config.follow at recorded ⊢
  cases moved : config.move system (.reply thread choice) with
  | none =>
    simp only [Config.play, moved, Option.bind_none, Option.getD_none] at recorded
    exact absurd recorded (List.cons_ne_self _ _).symm
  | some config' =>
    simp only [Config.play, moved, Option.bind_some, Option.getD_some] at recorded ⊢
    have step : Step system permits config config' := by
      refine Config.move_step system _ moved fun entry isEntry => ?_
      obtain rfl := (List.cons.inj (recorded.symm.trans isEntry)).1
      exact permitted
    rcases step.cases_answers with ⟨same, -⟩ | ⟨actor, event', answers⟩
    · exact absurd (recorded.symm.trans same) (List.cons_ne_self _ _)
    · obtain ⟨isEntry, -⟩ := List.cons.inj (recorded.symm.trans answers.recorded)
      obtain ⟨rfl, rfl⟩ := Prod.mk.inj isEntry
      exact answers

theorem Config.present_of_request (config : Config Request State Reply ε α) (thread : Nat)
    (request : Request) (isRequest : (config.threads[thread]?).map Thread.request = some request) :
    ∃ program, config.threads[thread]? = some ⟨request, program⟩ := by
  obtain ⟨⟨request', program⟩, present, same⟩ := Option.map_eq_some_iff.mp isRequest
  simp only at same
  subst same
  exact ⟨program, present⟩

theorem Config.finished_of_result (config : Config Request State Reply ε α) (thread : Nat)
    (request : Request) (result : Except ε α)
    (isRequest : (config.threads[thread]?).map Thread.request = some request)
    (isResult : (config.threads[thread]?).bind Thread.result = some result) :
    ∃ program, config.threads[thread]? = some ⟨request, program⟩ ∧
      Thread.result (⟨request, program⟩ : Thread Request Reply ε α) = some result := by
  obtain ⟨program, present⟩ := config.present_of_request thread request isRequest
  rw [present] at isResult
  exact ⟨program, present, isResult⟩

end Schedules

end Interleaving
